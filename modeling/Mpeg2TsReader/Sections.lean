import Mpeg2TsReader.Basic

/-!
# PAT and PMT section bodies

The views of `demultiplex.rs` over the body of a PSI section: `PatSection` with its 4-byte
`ProgramDescriptor` records read by `ProgramIter`, and `PmtSection` with its variable-length
`StreamInfo` entries read by `StreamInfoIter`. Every accessor indexes its slice as the Rust code
does, so a read past the end is a `Panic`.

The section headers come from the crate's `psi` module, which is not part of this development;
`SectionCommonHeader` and `TableSyntaxHeader` keep the one field each that the processors read.

Both iterators keep the rest of the body as their state, and a `for` loop over them is
`forIter`. The main facts are what each loop reads:

* `forIter_programs`: over a body made of 4-byte records, the PAT loop sees those records in
  order, and `forIter_programs_error` it panics whenever the body length is not a multiple of 4;
* `forIter_streams`: over a body made of well-formed stream entries followed by a remainder
  that `StreamInfo::from_bytes` refuses, the PMT loop sees exactly those entries.
-/

namespace Mpeg2TsReader

/-- Modelled from the spec: `psi::SectionCommonHeader`, of which the processors read
`table_id` (§6). -/
structure SectionCommonHeader where
  /-- `table_id`. -/
  tableId : UInt8
  deriving DecidableEq, Repr

/-- Modelled from the spec: `psi::SectionCommonHeader::SIZE`. -/
def SectionCommonHeader.size : Nat := 3

/-- Modelled from the spec: `psi::TableSyntaxHeader`, of which the processors read
`version()` (§6). -/
structure TableSyntaxHeader where
  /-- `version()`. -/
  version : UInt8
  deriving DecidableEq, Repr

/-- Modelled from the spec: `psi::TableSyntaxHeader::SIZE`. -/
def TableSyntaxHeader.size : Nat := 5

/-! ## Iterating over a byte slice -/

section ForIter

variable {ι σ : Type}

/-- `for item in iter { body }` over an iterator whose state is the slice still to read and
whose `next` consumes at least one byte whenever it yields an item. -/
def forIter (next : List UInt8 → Except Panic (Option (ι × List UInt8)))
    (progress : ∀ buf item rest, next buf = .ok (some (item, rest)) → rest.length < buf.length)
    (body : ι → σ → Except Panic σ) (buf : List UInt8) (s : σ) : Except Panic σ :=
  match h : next buf with
  | .error e => .error e
  | .ok none => .ok s
  | .ok (some (item, rest)) =>
    have := progress buf item rest h
    body item s >>= forIter next progress body rest
termination_by buf.length

variable {next : List UInt8 → Except Panic (Option (ι × List UInt8))}
  {progress : ∀ buf item rest, next buf = .ok (some (item, rest)) → rest.length < buf.length}
  {body : ι → σ → Except Panic σ}

theorem forIter_of_none {buf : List UInt8} (s : σ) (h : next buf = .ok none) :
    forIter next progress body buf s = .ok s := by
  rw [forIter]
  split <;> rename_i heq <;> rw [heq] at h <;> cases h

theorem forIter_of_error {buf : List UInt8} {e : Panic} (s : σ) (h : next buf = .error e) :
    forIter next progress body buf s = .error e := by
  rw [forIter]
  split <;> rename_i heq <;> rw [heq] at h <;> cases h
  rfl

theorem forIter_of_some {buf rest : List UInt8} {item : ι} (s : σ)
    (h : next buf = .ok (some (item, rest))) :
    forIter next progress body buf s = body item s >>= forIter next progress body rest := by
  rw [forIter]
  split <;> rename_i heq <;> rw [heq] at h <;> cases h
  rfl

/-- A property of the loop state that every turn of the body keeps, on the items `next` yields,
holds when the loop returns. -/
theorem forIter_invariant_of_next (P : σ → Prop)
    (hbody : ∀ buf item rest s s', next buf = .ok (some (item, rest)) → P s →
      body item s = .ok s' → P s')
    {buf : List UInt8} {s s' : σ} (hs : P s) (h : forIter next progress body buf s = .ok s') :
    P s' := by
  rw [forIter] at h
  split at h
  next => cases h
  next => cases h; exact hs
  next item rest hnext =>
    have := progress buf item rest hnext
    obtain ⟨s₁, h₁, h₂⟩ := bind_eq_ok.1 h
    exact forIter_invariant_of_next P hbody (hbody _ _ _ _ _ hnext hs h₁) h₂
termination_by buf.length
decreasing_by exact this

/-- The loop returns, with `P` holding, when `next` never panics and the body returns on every
item that `next` yields, keeping `P`. -/
theorem forIter_ok (P : σ → Prop) (hnext : ∀ buf e, next buf ≠ .error e)
    (hbody : ∀ buf item rest s, next buf = .ok (some (item, rest)) → P s →
      ∃ s', body item s = .ok s' ∧ P s')
    (buf : List UInt8) (s : σ) (hs : P s) :
    ∃ s', forIter next progress body buf s = .ok s' ∧ P s' := by
  match hn : next buf with
  | .error e => exact absurd hn (hnext buf e)
  | .ok none => exact ⟨s, forIter_of_none s hn, hs⟩
  | .ok (some (item, rest)) =>
    have := progress buf item rest hn
    obtain ⟨s₁, h₁, hs₁⟩ := hbody buf item rest s hn hs
    obtain ⟨s', h', hs'⟩ := forIter_ok P hnext hbody rest s₁ hs₁
    exact ⟨s', by rw [forIter_of_some s hn, h₁]; exact h', hs'⟩
termination_by buf.length
decreasing_by exact this

end ForIter

/-! ## PAT bodies -/

/-- `ProgramDescriptor`: one record of a PAT body. `ProgramIter` builds it only from the first
half of a `split_at(4)`, so it always holds four bytes. -/
structure ProgramDescriptor where
  /-- The record's bytes. -/
  data : List UInt8
  /-- A record is four bytes long. -/
  length_eq : data.length = 4

namespace ProgramDescriptor

/-- `ProgramDescriptor::program_number`, the 16 bits of bytes 0 and 1. -/
def programNumber (self : ProgramDescriptor) : UInt16 :=
  u16Field (self.data.get ⟨0, by simp [self.length_eq]⟩) (self.data.get ⟨1, by simp [self.length_eq]⟩)
    0xff

/-- `ProgramDescriptor::pid`, the low 13 bits of bytes 2 and 3. The source masks after widening
to `u16`, which gives the same value. -/
def pid (self : ProgramDescriptor) : UInt16 :=
  u16Field (self.data.get ⟨2, by simp [self.length_eq]⟩) (self.data.get ⟨3, by simp [self.length_eq]⟩)
    0x1f

/-- A PID read from a PAT record is below `2 ^ 13`. -/
theorem pid_toNat_lt (d : ProgramDescriptor) : d.pid.toNat < 0x2000 :=
  u16Field_toNat_lt _ _

end ProgramDescriptor

/-- `PatSection`: the body of a PAT section. -/
structure PatSection where
  /-- The body's bytes. -/
  data : List UInt8
  deriving DecidableEq, Repr

/-- `ProgramIter::next` on the rest `buf` of a PAT body: `split_at(4)`, which panics when the
body ends inside a record. -/
def ProgramIter.next (buf : List UInt8) :
    Except Panic (Option (ProgramDescriptor × List UInt8)) :=
  if buf.isEmpty then .ok none
  else if h : buf.length < 4 then .error (.splitAtOutOfBounds 4 buf.length)
  else .ok (some (⟨buf.take 4, by simp; omega⟩, buf.drop 4))

theorem ProgramIter.next_progress (buf : List UInt8) (item : ProgramDescriptor)
    (rest : List UInt8) (h : ProgramIter.next buf = .ok (some (item, rest))) :
    rest.length < buf.length := by
  unfold ProgramIter.next at h
  split at h
  · cases h
  · split at h
    · cases h
    · cases h
      simp only [List.length_drop]
      omega

/-- The `for desc in sect.programs()` loop over a PAT body. -/
def PatSection.forPrograms {σ : Type} (sect : PatSection)
    (body : ProgramDescriptor → σ → Except Panic σ) (s : σ) : Except Panic σ :=
  forIter ProgramIter.next ProgramIter.next_progress body sect.data s

section PatLoop

variable {σ : Type} (body : ProgramDescriptor → σ → Except Panic σ)

theorem ProgramIter.next_append (d : ProgramDescriptor) (rest : List UInt8) :
    ProgramIter.next (d.data ++ rest) = .ok (some (d, rest)) := by
  have hd := d.length_eq
  have hne : (d.data ++ rest).isEmpty = false := by cases h : d.data <;> simp_all
  simp only [ProgramIter.next, hne, List.length_append, hd, dif_neg (show ¬4 + rest.length < 4 by omega),
    Bool.false_eq_true, if_false, List.drop_left' hd]
  congr
  exact List.take_left' hd

/-- Over a body made of 4-byte records, the PAT loop runs its body on each record in order. -/
theorem forIter_programs (recs : List ProgramDescriptor) (s : σ) :
    forIter ProgramIter.next ProgramIter.next_progress body (recs.map (·.data)).flatten s =
      recs.foldlM (fun s d => body d s) s := by
  induction recs generalizing s with
  | nil => exact forIter_of_none s (by simp [ProgramIter.next])
  | cons d recs ih =>
    rw [List.map_cons, List.flatten_cons, forIter_of_some s (ProgramIter.next_append d _),
      List.foldlM_cons]
    congr 1
    funext s'
    exact ih s'

/-- A PAT body whose length is not a multiple of 4 makes the loop panic, whatever its body
does: `split_at(4)` is reached with fewer than four bytes left. -/
theorem forIter_programs_error (buf : List UInt8) (hbuf : buf.length % 4 ≠ 0) (s : σ) :
    ∃ e, forIter ProgramIter.next ProgramIter.next_progress body buf s = .error e := by
  have hne : buf.isEmpty = false := by
    cases buf with
    | nil => exact absurd rfl hbuf
    | cons _ _ => rfl
  by_cases hlt : buf.length < 4
  · exact ⟨_, forIter_of_error s
      (by rw [ProgramIter.next, hne, if_neg Bool.false_ne_true, dif_pos hlt])⟩
  · have hd : (buf.take 4).length = 4 := by rw [List.length_take]; omega
    have hnext : ProgramIter.next buf = .ok (some (⟨buf.take 4, hd⟩, buf.drop 4)) := by
      rw [ProgramIter.next, hne, if_neg Bool.false_ne_true, dif_neg hlt]
    rw [forIter_of_some s hnext]
    cases body ⟨buf.take 4, hd⟩ s with
    | error e => exact ⟨e, rfl⟩
    | ok s' => exact forIter_programs_error (buf.drop 4) (by rw [List.length_drop]; omega) s'
termination_by buf.length
decreasing_by rw [List.length_drop]; omega

/-- A body whose length is a multiple of 4 is a sequence of 4-byte records. -/
theorem exists_programs (buf : List UInt8) (hbuf : buf.length % 4 = 0) :
    ∃ recs : List ProgramDescriptor, (recs.map (·.data)).flatten = buf := by
  obtain ⟨n, hn⟩ : ∃ n, buf.length = 4 * n := ⟨buf.length / 4, by omega⟩
  clear hbuf
  induction n generalizing buf with
  | zero => exact ⟨[], (List.length_eq_zero.1 hn).symm⟩
  | succ n ih =>
    obtain ⟨recs, hrecs⟩ := ih (buf.drop 4) (by rw [List.length_drop]; omega)
    exact ⟨⟨buf.take 4, by rw [List.length_take]; omega⟩ :: recs,
      by rw [List.map_cons, List.flatten_cons, hrecs, List.take_append_drop]⟩

end PatLoop

/-! ## PMT bodies -/

/-- `StreamInfo`: a stream entry of a PMT body, viewed from its first byte to the end of the
body. -/
structure StreamInfo where
  /-- The bytes from the entry's first byte to the end of the body. -/
  data : List UInt8
  deriving DecidableEq, Repr

namespace StreamInfo

/-- `StreamInfo::HEADER_SIZE`. -/
def headerSize : Nat := 5

/-- `StreamInfo::stream_type`, byte 0. The crate's `StreamType` conversion of the byte is left
out: the byte itself stands for it. -/
def streamType (self : StreamInfo) : Except Panic UInt8 := index self.data 0

/-- `StreamInfo::elementary_pid`, the low 13 bits of bytes 1 and 2. -/
def elementaryPid (self : StreamInfo) : Except Panic UInt16 := readU16 self.data 1 2 0x1f

/-- `StreamInfo::es_info_length`, the low 12 bits of bytes 3 and 4. -/
def esInfoLength (self : StreamInfo) : Except Panic UInt16 := readU16 self.data 3 4 0x0f

/-- `StreamInfo::descriptors`: the `es_info_length` bytes after the header, which the crate's
`DescriptorIter` reads. -/
def descriptors (self : StreamInfo) : Except Panic (List UInt8) := do
  let descriptorEnd := headerSize + (← self.esInfoLength).toNat
  slice self.data headerSize descriptorEnd

/-- `StreamInfo::from_bytes`: an entry and its length, or `None` when fewer than five bytes
remain or its descriptors run past the end of the body. -/
def fromBytes (data : List UInt8) : Except Panic (Option (StreamInfo × Nat)) :=
  if data.length < headerSize then .ok none
  else do
    let result : StreamInfo := ⟨data⟩
    let descriptorEnd := headerSize + (← result.esInfoLength).toNat
    if descriptorEnd > data.length then .ok none
    else .ok (some (result, descriptorEnd))

end StreamInfo

/-- `StreamInfoIter::next` on the rest `buf` of the stream entries of a PMT body. -/
def StreamInfoIter.next (buf : List UInt8) : Except Panic (Option (StreamInfo × List UInt8)) :=
  if buf.isEmpty then .ok none
  else do
    match ← StreamInfo.fromBytes buf with
    | some (streamInfo, infoLen) =>
      let rest ← sliceFrom buf infoLen
      .ok (some (streamInfo, rest))
    | none => .ok none

theorem StreamInfo.fromBytes_of_lt {data : List UInt8} (h : data.length < headerSize) :
    StreamInfo.fromBytes data = .ok none := by
  simp [fromBytes, h]

/-- With five bytes there, `from_bytes` reads `es_info_length` and accepts the entry when its
descriptors fit. -/
theorem StreamInfo.fromBytes_of_le {data : List UInt8} (h : 5 ≤ data.length) :
    StreamInfo.fromBytes data =
      .ok (if headerSize + (u16Field data[3] data[4] 0x0f).toNat > data.length then none
        else some (⟨data⟩, headerSize + (u16Field data[3] data[4] 0x0f).toNat)) := by
  simp only [fromBytes, headerSize, Nat.not_lt.2 h, if_false, esInfoLength,
    readU16_of_lt _ (show 3 < data.length by omega) (show 4 < data.length by omega), ok_bind]
  split <;> rfl

/-- The accessors an application calls on a stream entry, `stream_type`, `elementary_pid`,
`es_info_length` and `descriptors()`, all stay within its bytes. -/
def StreamInfo.accessorsInBounds (info : StreamInfo) : Bool :=
  info.streamType.isOk && info.elementaryPid.isOk && info.esInfoLength.isOk &&
    info.descriptors.isOk

/-- An entry of five bytes or more whose descriptors fit has every accessor in bounds. -/
theorem StreamInfo.accessorsInBounds_of_fit {info : StreamInfo} (h5 : 5 ≤ info.data.length)
    (hfit : ¬headerSize + (u16Field info.data[3] info.data[4] 0x0f).toNat > info.data.length) :
    info.accessorsInBounds = true := by
  have hlt : ∀ i < 5, i < info.data.length := fun _ hi => Nat.lt_of_lt_of_le hi h5
  rw [accessorsInBounds, streamType, elementaryPid, descriptors, esInfoLength,
    index_of_lt (hlt 0 (by decide)), readU16_of_lt _ (hlt 1 (by decide)) (hlt 2 (by decide)),
    readU16_of_lt _ (hlt 3 (by decide)) (hlt 4 (by decide)), ok_bind,
    slice_of_le (Nat.le_add_right _ _) (Nat.le_of_not_lt hfit)]
  rfl

theorem StreamInfoIter.next_progress (buf : List UInt8) (item : StreamInfo)
    (rest : List UInt8) (h : StreamInfoIter.next buf = .ok (some (item, rest))) :
    rest.length < buf.length := by
  unfold StreamInfoIter.next at h
  split at h
  · cases h
  · by_cases hlt : buf.length < 5
    · simp [StreamInfo.fromBytes_of_lt hlt] at h
    · rw [StreamInfo.fromBytes_of_le (Nat.le_of_not_lt hlt)] at h
      split at h
      · simp at h
      · rename_i hfit
        simp only [ok_bind, sliceFrom_of_le (Nat.le_of_not_lt hfit), Except.ok.injEq,
          Option.some.injEq, Prod.mk.injEq] at h
        rw [← h.2, List.length_drop]
        unfold StreamInfo.headerSize
        omega

/-- `StreamInfoIter::next` never panics, and an entry it yields holds at least five bytes. -/
theorem StreamInfoIter.next_spec (buf : List UInt8) :
    ∃ r, StreamInfoIter.next buf = .ok r ∧
      ∀ item rest, r = some (item, rest) → 5 ≤ item.data.length := by
  unfold StreamInfoIter.next
  split
  · exact ⟨none, rfl, by simp⟩
  · by_cases h5 : buf.length < 5
    · exact ⟨none, by rw [StreamInfo.fromBytes_of_lt h5]; rfl, by simp⟩
    · rw [StreamInfo.fromBytes_of_le (Nat.le_of_not_lt h5)]
      split
      · exact ⟨none, rfl, by simp⟩
      · rename_i hfit
        refine ⟨_, by simp only [ok_bind, sliceFrom_of_le (Nat.le_of_not_lt hfit)]; rfl, ?_⟩
        rintro item rest ⟨rfl, -⟩
        exact Nat.le_of_not_lt h5

/-- An entry that `StreamInfoIter::next` yields has every accessor in bounds: `from_bytes`
checked its header and its descriptors against the end of the body. -/
theorem StreamInfoIter.accessorsInBounds_of_next {buf rest : List UInt8} {info : StreamInfo}
    (h : StreamInfoIter.next buf = .ok (some (info, rest))) : info.accessorsInBounds = true := by
  unfold StreamInfoIter.next at h
  split at h
  · cases h
  · by_cases h5 : buf.length < 5
    · rw [StreamInfo.fromBytes_of_lt h5] at h; cases h
    · rw [StreamInfo.fromBytes_of_le (Nat.le_of_not_lt h5)] at h
      split at h
      · cases h
      · rename_i hfit
        simp only [ok_bind, sliceFrom_of_le (Nat.le_of_not_lt hfit)] at h
        cases h
        exact StreamInfo.accessorsInBounds_of_fit (Nat.le_of_not_lt h5) hfit

/-- `PmtSection`: the body of a PMT section. -/
structure PmtSection where
  /-- The body's bytes. -/
  data : List UInt8
  deriving DecidableEq, Repr

namespace PmtSection

/-- `PmtSection::HEADER_SIZE`. -/
def headerSize : Nat := 4

/-- `PmtSection::pcr_pid`, the low 13 bits of bytes 0 and 1. -/
def pcrPid (self : PmtSection) : Except Panic UInt16 := readU16 self.data 0 1 0x1f

/-- `PmtSection::program_info_length`, the low 12 bits of bytes 2 and 3. -/
def programInfoLength (self : PmtSection) : Except Panic UInt16 := readU16 self.data 2 3 0x0f

/-- `PmtSection::descriptors`: the `program_info_length` bytes after the header. -/
def descriptors (self : PmtSection) : Except Panic (List UInt8) := do
  let descriptorEnd := headerSize + (← self.programInfoLength).toNat
  slice self.data headerSize descriptorEnd

/-- `PmtSection::streams`: the stream entries after the program descriptors. It panics
explicitly when `program_info_length` runs past the end of the body. -/
def streams (self : PmtSection) : Except Panic (List UInt8) := do
  let programInfoLength ← self.programInfoLength
  let descriptorEnd := headerSize + programInfoLength.toNat
  if descriptorEnd > self.data.length then
    .error (.programInfoLengthOverrun programInfoLength self.data.length)
  else sliceFrom self.data descriptorEnd

/-- A body of at least four bytes: `streams` panics exactly when `program_info_length` runs past
the end, and otherwise returns what follows the program descriptors. -/
theorem streams_cons (b₀ b₁ b₂ b₃ : UInt8) (rest : List UInt8) :
    streams ⟨b₀ :: b₁ :: b₂ :: b₃ :: rest⟩ =
      if rest.length < (u16Field b₂ b₃ 0x0f).toNat then
        .error (.programInfoLengthOverrun (u16Field b₂ b₃ 0x0f) (rest.length + 4))
      else .ok (rest.drop (u16Field b₂ b₃ 0x0f).toNat) := by
  have hlt : ∀ i < 4, i < (b₀ :: b₁ :: b₂ :: b₃ :: rest).length :=
    fun _ hi => Nat.lt_of_lt_of_le hi (Nat.le_add_left 4 rest.length)
  rw [streams, programInfoLength, readU16_of_lt _ (hlt 2 (by decide)) (hlt 3 (by decide))]
  simp only [ok_bind, headerSize, List.length_cons, List.getElem_cons_succ, List.getElem_cons_zero]
  by_cases h : rest.length < (u16Field b₂ b₃ 0x0f).toNat
  · rw [if_pos (by omega), if_pos h]
  · rw [if_neg (by omega), if_neg h, sliceFrom_of_le (by simp; omega)]
    rw [Nat.add_comm]
    rfl

/-- Over a body of the two `pcr_pid` bytes, the two bytes of `program_info_length` and as many
descriptor bytes, `streams` returns what follows. -/
theorem streams_append {pcr descs : List UInt8} (l₁ l₂ : UInt8) (rest : List UInt8)
    (hpcr : pcr.length = 2) (hdescs : descs.length = (u16Field l₁ l₂ 0x0f).toNat) :
    streams ⟨pcr ++ [l₁, l₂] ++ descs ++ rest⟩ = .ok rest := by
  match pcr, hpcr with
  | [p₀, p₁], _ =>
    rw [show [p₀, p₁] ++ [l₁, l₂] ++ descs ++ rest = p₀ :: p₁ :: l₁ :: l₂ :: (descs ++ rest) by
      simp, streams_cons, if_neg (by simp; omega), ← hdescs, List.drop_left]

/-- The accessors an application calls on a PMT body, `pcr_pid`, `program_info_length` and
`descriptors()`, all stay within its bytes. -/
def accessorsInBounds (self : PmtSection) : Bool :=
  self.pcrPid.isOk && self.programInfoLength.isOk && self.descriptors.isOk

/-- A body whose `streams()` returns has every accessor in bounds: `streams` read
`program_info_length` and checked the descriptors against the end of the body. -/
theorem accessorsInBounds_of_streams {sect : PmtSection} {buf : List UInt8}
    (h : sect.streams = .ok buf) : sect.accessorsInBounds = true := by
  obtain ⟨data⟩ := sect
  match data with
  | [] | [_] | [_, _] | [_, _, _] => cases h
  | b₀ :: b₁ :: b₂ :: b₃ :: rest =>
    rw [streams_cons] at h
    split at h
    · cases h
    · rename_i hfit
      have hlt : ∀ i < 4, i < (b₀ :: b₁ :: b₂ :: b₃ :: rest).length :=
        fun _ hi => Nat.lt_of_lt_of_le hi (Nat.le_add_left 4 rest.length)
      rw [accessorsInBounds, descriptors, pcrPid, programInfoLength,
        readU16_of_lt _ (hlt 0 (by decide)) (hlt 1 (by decide)),
        readU16_of_lt _ (hlt 2 (by decide)) (hlt 3 (by decide)), ok_bind,
        slice_of_le (Nat.le_add_right _ _) (by simp only [List.length_cons, headerSize,
          List.getElem_cons_succ, List.getElem_cons_zero]; omega)]
      rfl

/-- The `for stream_info in sect.streams()` loop over a PMT body. -/
def forStreams {σ : Type} (sect : PmtSection) (body : StreamInfo → σ → Except Panic σ)
    (s : σ) : Except Panic σ := do
  forIter StreamInfoIter.next StreamInfoIter.next_progress body (← sect.streams) s

end PmtSection

/-! ## The stream entry grammar -/

private theorem UInt8.toNat_ofNat' {n : Nat} (h : n < 256) : (UInt8.ofNat n).toNat = n :=
  UInt8.toNat_ofNat_of_lt h

/-- A big-endian field whose two bytes are given by their values. -/
private theorem u16Field_ofNat {h l : Nat} (mask : UInt8) (hh : h < 256) (hl : l < 256) :
    (u16Field (UInt8.ofNat h) (UInt8.ofNat l) mask).toNat = (h &&& mask.toNat) * 256 + l := by
  rw [u16Field_toNat, UInt8.and_toNat, UInt8.toNat_ofNat' hh, UInt8.toNat_ofNat' hl]

/-- A stream entry of a PMT body by its fields, in the layout of the specification (§4.5):
`stream_type`, 3 reserved bits, the 13-bit `elementary_pid`, 4 reserved bits, then the
`es_info` descriptor bytes, whose length is a 12-bit field. -/
structure StreamEntry where
  /-- `stream_type`. -/
  streamType : UInt8
  /-- The 3 reserved bits above `elementary_pid`. -/
  reserved1 : Fin 8
  /-- `elementary_pid`. -/
  elementaryPid : UInt16
  /-- `elementary_pid` is a 13-bit field. -/
  elementaryPid_lt : elementaryPid.toNat < 0x2000
  /-- The 4 reserved bits above `es_info_length`. -/
  reserved2 : Fin 16
  /-- The descriptor bytes. -/
  esInfo : List UInt8
  /-- `es_info_length` is a 12-bit field. -/
  esInfo_length_lt : esInfo.length < 0x1000

namespace StreamEntry

/-- The bytes of an entry: the five header bytes, big-endian, then the descriptors. -/
def encode (e : StreamEntry) : List UInt8 :=
  [e.streamType, UInt8.ofNat (e.reserved1.val * 32 + e.elementaryPid.toNat / 256),
    UInt8.ofNat (e.elementaryPid.toNat % 256),
    UInt8.ofNat (e.reserved2.val * 16 + e.esInfo.length / 256),
    UInt8.ofNat (e.esInfo.length % 256)] ++ e.esInfo

variable (e : StreamEntry) (rest : List UInt8)

theorem streamType_encode : StreamInfo.streamType ⟨e.encode ++ rest⟩ = .ok e.streamType := rfl

theorem length_encode : e.encode.length = 5 + e.esInfo.length := by
  rw [encode, List.length_append]
  rfl

/-- The five header bytes are there to read. -/
theorem lt_length_encode_append {n : Nat} (h : n < 5) : n < (e.encode ++ rest).length := by
  rw [List.length_append, length_encode]
  omega

/-- The 13-bit `elementary_pid` reads back from its two bytes. -/
theorem elementaryPid_encode :
    StreamInfo.elementaryPid ⟨e.encode ++ rest⟩ = .ok e.elementaryPid := by
  have hp := e.elementaryPid_lt
  have hr := e.reserved1.isLt
  rw [StreamInfo.elementaryPid, readU16_of_lt _ (lt_length_encode_append e rest (by decide))
    (lt_length_encode_append e rest (by decide))]
  congr 1
  apply UInt16.toNat.inj
  simp only [encode, List.cons_append, List.getElem_cons_succ, List.getElem_cons_zero]
  rw [u16Field_ofNat _ (by omega) (by omega), show (0x1f : UInt8).toNat = 2 ^ 5 - 1 from rfl,
    Nat.and_pow_two_sub_one_eq_mod]
  omega

/-- The 12-bit `es_info_length` reads back from its two bytes. -/
theorem esInfoLength_encode :
    StreamInfo.esInfoLength ⟨e.encode ++ rest⟩ = .ok (UInt16.ofNat e.esInfo.length) := by
  have hl := e.esInfo_length_lt
  have hr := e.reserved2.isLt
  rw [StreamInfo.esInfoLength, readU16_of_lt _ (lt_length_encode_append e rest (by decide))
    (lt_length_encode_append e rest (by decide))]
  congr 1
  apply UInt16.toNat.inj
  simp only [encode, List.cons_append, List.getElem_cons_succ, List.getElem_cons_zero]
  rw [u16Field_ofNat _ (by omega) (by omega), show (0x0f : UInt8).toNat = 2 ^ 4 - 1 from rfl,
    Nat.and_pow_two_sub_one_eq_mod, UInt16.toNat_ofNat_of_lt (by unfold UInt16.size; omega)]
  omega

/-- `StreamInfoIter` reads an encoded entry whole and stops right after it. -/
theorem next_encode :
    StreamInfoIter.next (e.encode ++ rest) = .ok (some (⟨e.encode ++ rest⟩, rest)) := by
  have hlen : (e.encode ++ rest).length = 5 + e.esInfo.length + rest.length := by
    rw [List.length_append, length_encode]
  have hL : (UInt16.ofNat e.esInfo.length).toNat = e.esInfo.length :=
    UInt16.toNat_ofNat_of_lt (by have := e.esInfo_length_lt; unfold UInt16.size; omega)
  have hne : (e.encode ++ rest).isEmpty = false := rfl
  simp only [StreamInfoIter.next, hne, StreamInfo.fromBytes, StreamInfo.headerSize, hlen,
    esInfoLength_encode, hL, ok_bind, Bool.false_eq_true, if_false,
    if_neg (show ¬5 + e.esInfo.length + rest.length < 5 by omega),
    if_neg (show ¬5 + e.esInfo.length > 5 + e.esInfo.length + rest.length by omega)]
  rw [sliceFrom_of_le (by rw [hlen]; omega), List.drop_left' (length_encode e), ok_bind]

/-- The descriptors read back as the entry's `es_info` bytes. -/
theorem descriptors_encode : StreamInfo.descriptors ⟨e.encode ++ rest⟩ = .ok e.esInfo := by
  have hL : (UInt16.ofNat e.esInfo.length).toNat = e.esInfo.length :=
    UInt16.toNat_ofNat_of_lt (by have := e.esInfo_length_lt; unfold UInt16.size; omega)
  have hlen := length_encode e
  rw [StreamInfo.descriptors, esInfoLength_encode, ok_bind, hL, StreamInfo.headerSize,
    slice_of_le (Nat.le_add_right _ _) (by rw [List.length_append]; omega), List.take_left' hlen]
  rfl

/-- Round trip of the stream entry layout: `StreamInfoIter` reads an encoded entry followed by
any bytes as one entry and resumes right after it, and the entry's accessors give back the
fields the encoding holds: `stream_type`, `elementary_pid`, `es_info_length` and the
descriptor bytes. -/
theorem decode_encode :
    ∃ info : StreamInfo, StreamInfoIter.next (e.encode ++ rest) = .ok (some (info, rest)) ∧
      info.streamType = .ok e.streamType ∧ info.elementaryPid = .ok e.elementaryPid ∧
      info.esInfoLength = .ok (UInt16.ofNat e.esInfo.length) ∧ info.descriptors = .ok e.esInfo :=
  ⟨_, next_encode e rest, streamType_encode e rest, elementaryPid_encode e rest,
    esInfoLength_encode e rest, descriptors_encode e rest⟩

/-- The high byte of a field whose top bits are the low bits of `b`, put back above `b`'s
other bits, gives `b`. -/
private theorem reassemble_hi (b c k : Nat) (hc : c < 256) :
    b / k * k + (b % k * 256 + c) / 256 = b := by
  rw [Nat.add_comm (b % k * 256), Nat.add_mul_div_right _ _ (by decide : 0 < 256),
    Nat.div_eq_of_lt hc, Nat.zero_add, Nat.div_add_mod']

private theorem reassemble_lo (b c k : Nat) (hc : c < 256) : (b % k * 256 + c) % 256 = c := by
  rw [Nat.mul_comm, Nat.mul_add_mod, Nat.mod_eq_of_lt hc]

private theorem ofNat_toNat' (b : UInt8) : UInt8.ofNat b.toNat = b :=
  UInt8.toNat.inj (UInt8.toNat_ofNat_of_lt b.toNat_lt_size)

/-- Five header bytes, followed by as many descriptor bytes as their `es_info_length` says, are
the encoding of an entry: the reserved bits are kept, so every byte pattern is one. -/
theorem exists_encode_eq (b₀ b₁ b₂ b₃ b₄ : UInt8) (esInfo : List UInt8)
    (h : esInfo.length = (u16Field b₃ b₄ 0x0f).toNat) :
    ∃ e : StreamEntry, e.encode = b₀ :: b₁ :: b₂ :: b₃ :: b₄ :: esInfo := by
  have hpid : (u16Field b₁ b₂ 0x1f).toNat = b₁.toNat % 32 * 256 + b₂.toNat := by
    rw [u16Field_toNat, UInt8.and_toNat, show (0x1f : UInt8).toNat = 2 ^ 5 - 1 from rfl,
      Nat.and_pow_two_sub_one_eq_mod]
  have hlen : esInfo.length = b₃.toNat % 16 * 256 + b₄.toNat := by
    rw [h, u16Field_toNat, UInt8.and_toNat, show (0x0f : UInt8).toNat = 2 ^ 4 - 1 from rfl,
      Nat.and_pow_two_sub_one_eq_mod]
  refine ⟨⟨b₀, ⟨b₁.toNat / 32, Nat.div_lt_of_lt_mul b₁.toNat_lt_size⟩, u16Field b₁ b₂ 0x1f,
    u16Field_toNat_lt b₁ b₂, ⟨b₃.toNat / 16, Nat.div_lt_of_lt_mul b₃.toNat_lt_size⟩, esInfo,
    by have := b₄.toNat_lt_size; unfold UInt8.size at this; omega⟩, ?_⟩
  simp only [encode, List.cons_append, List.nil_append, List.cons.injEq, true_and, and_true]
  rw [hpid, hlen, reassemble_hi _ _ _ b₂.toNat_lt_size, reassemble_lo _ _ _ b₂.toNat_lt_size,
    reassemble_hi _ _ _ b₄.toNat_lt_size, reassemble_lo _ _ _ b₄.toNat_lt_size]
  exact ⟨ofNat_toNat' b₁, ofNat_toNat' b₂, ofNat_toNat' b₃, ofNat_toNat' b₄⟩

/-- Every byte string is encoded stream entries followed by a remainder that ends the
iteration: fewer than five bytes, or an `es_info_length` that runs past the end. -/
theorem exists_entries (buf : List UInt8) :
    ∃ (es : List StreamEntry) (r : List UInt8), buf = (es.map encode).flatten ++ r ∧
      (r.length < 5 ∨ r.length < 5 + (u16Field (r.getD 3 0) (r.getD 4 0) 0x0f).toNat) := by
  match buf with
  | b₀ :: b₁ :: b₂ :: b₃ :: b₄ :: tail =>
    by_cases hfit : tail.length < (u16Field b₃ b₄ 0x0f).toNat
    · exact ⟨[], _, rfl, .inr (show tail.length + 5 < 5 + (u16Field b₃ b₄ 0x0f).toNat by omega)⟩
    · obtain ⟨e, he⟩ := exists_encode_eq b₀ b₁ b₂ b₃ b₄ (tail.take (u16Field b₃ b₄ 0x0f).toNat)
        (List.length_take_of_le (Nat.le_of_not_lt hfit))
      obtain ⟨es, r, hes, hr⟩ := exists_entries (tail.drop (u16Field b₃ b₄ 0x0f).toNat)
      refine ⟨e :: es, r, ?_, hr⟩
      rw [List.map_cons, List.flatten_cons, List.append_assoc, ← hes, he]
      simp only [List.cons_append, List.take_append_drop]
  | [] | [_] | [_, _] | [_, _, _] | [_, _, _, _] =>
    exact ⟨[], _, rfl, .inl (by simp only [List.length_cons, List.length_nil]; decide)⟩
termination_by buf.length
decreasing_by simp only [List.length_drop, List.length_cons]; omega

/-- The views `StreamInfoIter` yields over the encoded entries `es` followed by `r`: each entry
from its first byte to the end of the body. -/
def infos (r : List UInt8) : List StreamEntry → List StreamInfo
  | [] => []
  | e :: es => ⟨e.encode ++ ((es.map encode).flatten ++ r)⟩ :: infos r es

end StreamEntry

/-- A remainder shorter than five bytes, or whose `es_info_length` runs past its end, ends the
iteration. -/
theorem StreamInfoIter.next_of_short {r : List UInt8}
    (hr : r.length < 5 ∨ r.length < 5 + (u16Field (r.getD 3 0) (r.getD 4 0) 0x0f).toNat) :
    StreamInfoIter.next r = .ok none := by
  unfold StreamInfoIter.next
  split
  · rfl
  · by_cases h5 : r.length < 5
    · rw [StreamInfo.fromBytes_of_lt h5]; rfl
    · have h5 := Nat.le_of_not_lt h5
      simp only [List.getD_eq_getElem?_getD, List.getElem?_eq_getElem (show 3 < r.length by omega),
        List.getElem?_eq_getElem (show 4 < r.length by omega), Option.getD_some] at hr
      rw [StreamInfo.fromBytes_of_le h5, if_pos (by unfold StreamInfo.headerSize; omega)]
      rfl

section StreamLoop

variable {σ : Type} (body : StreamInfo → σ → Except Panic σ)

/-- Over a body made of the encoded entries `es` followed by a remainder that ends the
iteration, the PMT loop runs its body on the entries in order. -/
theorem forIter_streams (es : List StreamEntry) {r : List UInt8}
    (hr : StreamInfoIter.next r = .ok none) (s : σ) :
    forIter StreamInfoIter.next StreamInfoIter.next_progress body
        ((es.map StreamEntry.encode).flatten ++ r) s =
      (StreamEntry.infos r es).foldlM (fun s i => body i s) s := by
  induction es generalizing s with
  | nil => exact forIter_of_none s hr
  | cons e es ih =>
    rw [List.map_cons, List.flatten_cons, List.append_assoc,
      forIter_of_some s (StreamEntry.next_encode e _), StreamEntry.infos, List.foldlM_cons]
    congr 1
    funext s'
    exact ih s'

/-- The PMT loop returns, with `P` holding, whenever its body returns on every entry of at
least five bytes, keeping `P`: `StreamInfoIter` itself never panics. -/
theorem forIter_streams_ok (P : σ → Prop)
    (hbody : ∀ item s, 5 ≤ item.data.length → P s → ∃ s', body item s = .ok s' ∧ P s')
    (buf : List UInt8) (s : σ) (hs : P s) :
    ∃ s', forIter StreamInfoIter.next StreamInfoIter.next_progress body buf s = .ok s' ∧ P s' := by
  refine forIter_ok P (fun buf e h => ?_) (fun buf item rest s hn hs => ?_) buf s hs
  · obtain ⟨r, hr, -⟩ := StreamInfoIter.next_spec buf
    rw [hr] at h
    cases h
  · obtain ⟨r, hr, hitem⟩ := StreamInfoIter.next_spec buf
    rw [hr] at hn
    cases hn
    exact hbody item s (hitem item rest rfl) hs

end StreamLoop

/-- The stream entry grammar is the whole input language of `StreamInfoIter`: every byte string
is encoded entries followed by a remainder on which the iterator stops, and the PMT loop runs
its body, whatever it is, on exactly those entries' views, in order. -/
theorem exists_forIter_streams (buf : List UInt8) :
    ∃ (es : List StreamEntry) (r : List UInt8), buf = (es.map StreamEntry.encode).flatten ++ r ∧
      StreamInfoIter.next r = .ok none ∧
      ∀ {σ : Type} (body : StreamInfo → σ → Except Panic σ) (s : σ),
        forIter StreamInfoIter.next StreamInfoIter.next_progress body buf s =
          (StreamEntry.infos r es).foldlM (fun s i => body i s) s := by
  obtain ⟨es, r, rfl, hr⟩ := StreamEntry.exists_entries buf
  exact ⟨es, r, rfl, StreamInfoIter.next_of_short hr,
    fun body s => forIter_streams body es (StreamInfoIter.next_of_short hr) s⟩

end Mpeg2TsReader

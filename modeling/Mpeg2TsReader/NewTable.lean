import Mpeg2TsReader.Context

/-!
# The table diff shared by the PAT and PMT processors

`PatProcessor::new_table` and `PmtProcessor::new_table` have one shape: check the table id;
for each entry the table announces, construct a handler, enqueue its insertion and mark its PID
as seen and as registered; then sweep `0..0x1fff` and enqueue the removal of every registered
PID that the table no longer announces; then record the version. `newTable` is that shape, with
the loop over the entries as a parameter, and the two processors are instances of it.

The processors keep their registered PIDs in a `FixedBitSet` of `0x2000` bits, one per PID.

* `registerAll_spec`: the loop enqueues one insertion per entry, in order, with the handlers
  the constructor returns in turn, and registers each entry's PID;
* `removeUnseen_spec`: the sweep enqueues, in ascending order, the removal of every registered
  PID below `0x1fff` that was not seen, and unregisters exactly those;
* `diff_spec`: both together. The sweep's exclusive bound leaves PID `0x1fff` registered, and
  never removed, once a table has announced it;
* `InSync.newTable`: what the diff is for. With its changeset applied, the registered PIDs and
  the filter table below `0x1fff` are those the table's entries describe (`tableOf`), whatever
  the table before described;
* `runSections_invariant`: the induction over a run of tables, each followed by the apply,
  that both processors' runs instantiate;
* `BitSetSafe`, `bitSetSafe_newTable`, `bitSetSafe_runSections`: on `0x2000` bits, with a loop
  that registers 13-bit PIDs, no `FixedBitSet::insert` or `set` is ever out of range;
* `lastEntries`, `TableProcessor.runSections_inSync`: the abstract model of a processor, in
  which the state is the entries of the last table of the expected id, and the refinement of
  any run that returns, over any sections, by that model, for every processor described by
  its tables (`TableProcessor`).
-/

namespace Mpeg2TsReader

/-- The `fixedbitset` crate's `FixedBitSet`: a fixed number of bits. -/
structure FixedBitSet where
  /-- The bits, lowest first. -/
  bits : List Bool
  deriving DecidableEq, Repr

namespace FixedBitSet

/-- `FixedBitSet::with_capacity`: `bits` cleared bits. -/
def withCapacity (bits : Nat) : FixedBitSet := ⟨List.replicate bits false⟩

/-- `FixedBitSet::len`. -/
def length (self : FixedBitSet) : Nat := self.bits.length

/-- `FixedBitSet::contains`: a bit past the end reads as cleared. -/
def contains (self : FixedBitSet) (bit : Nat) : Bool := self.bits[bit]?.getD false

/-- `FixedBitSet::insert`, which asserts that the bit is in range. -/
def insert (self : FixedBitSet) (bit : Nat) : Except Panic FixedBitSet :=
  if bit < self.length then .ok ⟨self.bits.set bit true⟩
  else .error (.fixedBitSetInsert bit self.length)

/-- `FixedBitSet::set`, which asserts that the bit is in range. -/
def set (self : FixedBitSet) (bit : Nat) (enabled : Bool) : Except Panic FixedBitSet :=
  if bit < self.length then .ok ⟨self.bits.set bit enabled⟩
  else .error (.fixedBitSetSet bit self.length)

variable (self : FixedBitSet) {bit : Nat}

theorem insert_of_lt (h : bit < self.length) : self.insert bit = .ok ⟨self.bits.set bit true⟩ :=
  if_pos h

theorem set_of_lt (enabled : Bool) (h : bit < self.length) :
    self.set bit enabled = .ok ⟨self.bits.set bit enabled⟩ :=
  if_pos h

@[simp]
theorem length_mk_set (i : Nat) (b : Bool) : (⟨self.bits.set i b⟩ : FixedBitSet).length = self.length :=
  List.length_set ..

@[simp]
theorem contains_mk_set (i n : Nat) (b : Bool) (h : i < self.length) :
    (⟨self.bits.set i b⟩ : FixedBitSet).contains n = if i = n then b else self.contains n := by
  simp only [contains, List.getElem?_set]
  split <;> simp_all [length]

@[simp]
theorem length_withCapacity (n : Nat) : (withCapacity n).length = n := List.length_replicate ..

@[simp]
theorem contains_withCapacity (n bit : Nat) : (withCapacity n).contains bit = false := by
  simp only [withCapacity, contains, List.getElem?_replicate]
  split <;> rfl

theorem contains_of_length_le (h : self.length ≤ bit) : self.contains bit = false := by
  simp [contains, List.getElem?_eq_none (show self.bits.length ≤ bit from h)]

end FixedBitSet

/-! ## Bit-set accesses in range -/

/-- The panics of `FixedBitSet::insert` and `FixedBitSet::set`, at a bit past the end. -/
def Panic.isFixedBitSet : Panic → Bool
  | .fixedBitSetInsert .. | .fixedBitSetSet .. => true
  | _ => false

/-- `x` returns a value satisfying `post`, or panics elsewhere than in a `FixedBitSet` call.
Panics propagate at once, so every bit-set access on the way was in range; other panics
remain allowed. -/
structure BitSetSafe {α : Type} (post : α → Prop) (x : Except Panic α) : Prop where
  /-- A value returned satisfies `post`. -/
  ok : ∀ a, x = .ok a → post a
  /-- A panic is not one of `FixedBitSet`'s. -/
  error : ∀ e, x = .error e → e.isFixedBitSet = false

section BitSetSafe

variable {α β : Type} {p : α → Prop} {q : β → Prop}

theorem BitSetSafe.of_ok {a : α} (h : p a) : BitSetSafe p (.ok a) :=
  ⟨fun _ h' => by cases h'; exact h, (fun _ h' => nomatch h')⟩

theorem BitSetSafe.of_error {e : Panic} (h : e.isFixedBitSet = false) : BitSetSafe p (.error e) :=
  ⟨(fun _ h' => nomatch h'), fun _ h' => by cases h'; exact h⟩

theorem BitSetSafe.bind {x : Except Panic α} {f : α → Except Panic β} (hx : BitSetSafe p x)
    (hf : ∀ a, p a → BitSetSafe q (f a)) : BitSetSafe q (x >>= f) := by
  cases x with
  | error e => exact .of_error (hx.error e rfl)
  | ok a => exact hf a (hx.ok a rfl)

/-- The `for` loop over an iterator whose `next` never panics in a bit set, with a body that
keeps `P` and never panics in a bit set either. -/
theorem bitSetSafe_forIter {ι σ : Type}
    {next : List UInt8 → Except Panic (Option (ι × List UInt8))}
    {progress : ∀ buf item rest, next buf = .ok (some (item, rest)) → rest.length < buf.length}
    {body : ι → σ → Except Panic σ} (P : σ → Prop)
    (hnext : ∀ buf e, next buf = .error e → e.isFixedBitSet = false)
    (hbody : ∀ item s, P s → BitSetSafe P (body item s)) (buf : List UInt8) (s : σ)
    (hs : P s) :
    BitSetSafe P (forIter next progress body buf s) := by
  match hn : next buf with
  | .error e => rw [forIter_of_error s hn]; exact .of_error (hnext buf e hn)
  | .ok none => rw [forIter_of_none s hn]; exact .of_ok hs
  | .ok (some (item, rest)) =>
    have := progress buf item rest hn
    rw [forIter_of_some s hn]
    exact (hbody item s hs).bind fun s' hs' => bitSetSafe_forIter P hnext hbody rest s' hs'
termination_by buf.length
decreasing_by exact this

end BitSetSafe

/-- The locals of `new_table` while its loops run: the context, `pids_seen` (a `HashSet`, here a
list without repetitions) and `self.filters_registered`. -/
structure TableState (F Ctor : Type) where
  /-- The context, with the changeset the loops add to. -/
  ctx : DemuxContext F Ctor
  /-- `pids_seen`. -/
  pidsSeen : List UInt16
  /-- `self.filters_registered`. -/
  filtersRegistered : FixedBitSet

variable {F Ctor : Type}

/-! ## The sweep -/

/-- The sweep's test `self.filters_registered.contains(pid) && !pids_seen.contains(&(pid as u16))`:
registered, and not seen. -/
def unseen (st : TableState F Ctor) (pid : Nat) : Bool :=
  st.filtersRegistered.contains pid && !st.pidsSeen.contains pid.toUInt16

/-- One turn of the sweep `for pid in 0..0x1fff`: a registered PID that was not seen has its
removal enqueued and its bit cleared. -/
def removeUnseenStep (st : TableState F Ctor) (pid : Nat) : Except Panic (TableState F Ctor) :=
  if unseen st pid then do
    let ctx := { st.ctx with changeset := st.ctx.changeset.remove pid.toUInt16 }
    let filtersRegistered ← st.filtersRegistered.set pid false
    .ok { st with ctx, filtersRegistered }
  else .ok st

/-- The sweep `for pid in 0..0x1fff` of both processors. -/
def removeUnseen (st : TableState F Ctor) : Except Panic (TableState F Ctor) :=
  (List.range 0x1fff).foldlM removeUnseenStep st

/-- One turn of the sweep, for a bit within the set. -/
theorem removeUnseenStep_spec (st : TableState F Ctor) (n : Nat)
    (h : n < st.filtersRegistered.length) :
    ∃ st', removeUnseenStep st n = .ok st' ∧
      st'.ctx.changeset.updates = st.ctx.changeset.updates ++
        (if unseen st n then [.remove n.toUInt16] else []) ∧
      st'.ctx.constructor = st.ctx.constructor ∧ st'.pidsSeen = st.pidsSeen ∧
      st'.filtersRegistered.length = st.filtersRegistered.length ∧
      ∀ m, st'.filtersRegistered.contains m =
        (st.filtersRegistered.contains m && !(decide (m = n) && unseen st n)) := by
  unfold removeUnseenStep
  by_cases hu : unseen st n
  · rw [if_pos hu]
    refine ⟨⟨{ st.ctx with changeset := st.ctx.changeset.remove n.toUInt16 }, st.pidsSeen,
      ⟨st.filtersRegistered.bits.set n false⟩⟩, by simp only [FixedBitSet.set_of_lt _ _ h]; rfl,
      by simp [hu, FilterChangeset.remove], rfl, rfl, by simp, fun m => ?_⟩
    rw [FixedBitSet.contains_mk_set _ _ _ _ h]
    by_cases hm : n = m
    · subst hm; simp_all [unseen]
    · simp [hm, Ne.symm hm]
  · rw [if_neg hu]
    exact ⟨st, rfl, by simp [hu], rfl, rfl, rfl, fun m => by simp [hu]⟩

/-- The sweep over distinct bits `ns` of the set: each bit is tested against the state before
the sweep, since no turn touches another turn's bit. -/
theorem foldlM_removeUnseenStep (ns : List Nat) (st : TableState F Ctor) (hnd : ns.Nodup)
    (hlt : ∀ n ∈ ns, n < st.filtersRegistered.length) :
    ∃ st', ns.foldlM removeUnseenStep st = .ok st' ∧
      st'.ctx.changeset.updates = st.ctx.changeset.updates ++
        (ns.filter (unseen st)).map (fun n => .remove n.toUInt16) ∧
      st'.ctx.constructor = st.ctx.constructor ∧ st'.pidsSeen = st.pidsSeen ∧
      st'.filtersRegistered.length = st.filtersRegistered.length ∧
      ∀ m, st'.filtersRegistered.contains m =
        (st.filtersRegistered.contains m && !(decide (m ∈ ns) && unseen st m)) := by
  induction ns generalizing st with
  | nil => exact ⟨st, rfl, by simp, rfl, rfl, rfl, fun m => by simp⟩
  | cons n ns ih =>
    obtain ⟨st₁, hstep, hcs₁, hctor₁, hseen₁, hlen₁, hbits₁⟩ :=
      removeUnseenStep_spec st n (hlt n (List.mem_cons_self _ _))
    obtain ⟨hn, hnd⟩ := List.nodup_cons.1 hnd
    obtain ⟨st', hrun, hcs, hctor, hseen, hlen', hbits⟩ :=
      ih st₁ hnd fun m hm => hlen₁ ▸ hlt m (List.mem_cons_of_mem _ hm)
    -- Bits other than `n` are as before the first turn.
    have hunseen : ∀ m ∈ ns, unseen st₁ m = unseen st m := by
      intro m hm
      have : m ≠ n := fun h => hn (h ▸ hm)
      simp [unseen, hbits₁, hseen₁, this]
    refine ⟨st', by rw [List.foldlM_cons, hstep]; exact hrun, ?_, hctor.trans hctor₁,
      hseen.trans hseen₁, hlen'.trans hlen₁, fun m => ?_⟩
    · rw [hcs, hcs₁, List.filter_congr hunseen, List.filter_cons]
      cases unseen st n <;> simp
    · rw [hbits, hbits₁]
      by_cases hm : m = n
      · subst hm
        simp [hn]
      · by_cases hmem : m ∈ ns
        · simp [hm, hmem, hunseen m hmem]
        · simp [hm, hmem]

/-- The sweep `for pid in 0..0x1fff` on a set of `0x2000` bits. -/
theorem removeUnseen_spec (st : TableState F Ctor)
    (hlen : st.filtersRegistered.length = 0x2000) :
    ∃ st', removeUnseen st = .ok st' ∧
      st'.ctx.changeset.updates = st.ctx.changeset.updates ++
        ((List.range 0x1fff).filter (unseen st)).map (fun n => .remove n.toUInt16) ∧
      st'.ctx.constructor = st.ctx.constructor ∧ st'.pidsSeen = st.pidsSeen ∧
      st'.filtersRegistered.length = 0x2000 ∧
      ∀ m, st'.filtersRegistered.contains m =
        (st.filtersRegistered.contains m && !(decide (m < 0x1fff) && unseen st m)) := by
  obtain ⟨st', hrun, hcs, hctor, hseen, hlen', hbits⟩ :=
    foldlM_removeUnseenStep (List.range 0x1fff) st (List.nodup_range _)
      fun n hn => by rw [hlen]; exact Nat.lt_trans (List.mem_range.1 hn) (by decide)
  exact ⟨st', hrun, hcs, hctor, hseen, hlen'.trans hlen, fun m => by simp [hbits]⟩

/-- No turn of the sweep touches the constructor. -/
theorem constructor_removeUnseenStep {st st' : TableState F Ctor} {n : Nat}
    (h : removeUnseenStep st n = .ok st') : st'.ctx.constructor = st.ctx.constructor := by
  unfold removeUnseenStep at h
  split at h
  · obtain ⟨_, -, h⟩ := bind_eq_ok.1 h
    cases h; rfl
  · cases h; rfl

/-- A sweep that returns leaves the constructor as it was, whatever the number of bits. -/
theorem constructor_removeUnseen {st st' : TableState F Ctor} (h : removeUnseen st = .ok st') :
    st'.ctx.constructor = st.ctx.constructor := by
  unfold removeUnseen at h
  generalize List.range 0x1fff = ns at h
  induction ns generalizing st with
  | nil => cases h; rfl
  | cons n ns ih =>
    rw [List.foldlM_cons] at h
    obtain ⟨st₁, h₁, h⟩ := bind_eq_ok.1 h
    exact (ih h).trans (constructor_removeUnseenStep h₁)

/-! ## The table -/

section NewTable

/-- The common body of `PatProcessor::new_table` and `PmtProcessor::new_table`, for the table id
the processor expects and its loop over the entries the table announces. It returns the new
`current_version` and `filters_registered` with the context; a table of another id leaves all
three as they were. -/
def newTable (expectedTableId : UInt8)
    (forEntries : TableState F Ctor → Except Panic (TableState F Ctor))
    (currentVersion : Option UInt8) (filtersRegistered : FixedBitSet) (ctx : DemuxContext F Ctor)
    (header : SectionCommonHeader) (tableSyntaxHeader : TableSyntaxHeader) :
    Except Panic (Option UInt8 × FixedBitSet × DemuxContext F Ctor) :=
  if expectedTableId != header.tableId then .ok (currentVersion, filtersRegistered, ctx)
  else do
    let st ← forEntries ⟨ctx, [], filtersRegistered⟩
    let st ← removeUnseen st
    .ok (some tableSyntaxHeader.version, st.filtersRegistered, st.ctx)

variable {expectedTableId : UInt8}
  {forEntries : TableState F Ctor → Except Panic (TableState F Ctor)}
  {currentVersion : Option UInt8} {filtersRegistered : FixedBitSet} {ctx : DemuxContext F Ctor}
  {header : SectionCommonHeader} {tableSyntaxHeader : TableSyntaxHeader}

/-- A table of another id is discarded. -/
theorem newTable_of_ne (h : header.tableId ≠ expectedTableId) :
    newTable expectedTableId forEntries currentVersion filtersRegistered ctx header
      tableSyntaxHeader = .ok (currentVersion, filtersRegistered, ctx) :=
  if_pos (bne_iff_ne.2 (Ne.symm h))

/-- A table of the expected id whose loop and sweep return `st` records its version. -/
theorem newTable_of_ok {st : TableState F Ctor} (h : header.tableId = expectedTableId)
    (hrun : (forEntries ⟨ctx, [], filtersRegistered⟩ >>= removeUnseen) = .ok st) :
    newTable expectedTableId forEntries currentVersion filtersRegistered ctx header
      tableSyntaxHeader = .ok (some tableSyntaxHeader.version, st.filtersRegistered, st.ctx) := by
  obtain ⟨st₁, hloop, hsweep⟩ := bind_eq_ok.1 hrun
  rw [newTable, h, bne_self_eq_false, if_neg Bool.false_ne_true, hloop, ok_bind, hsweep, ok_bind]

/-- A table of the expected id whose loop returns with `0x2000` bits returns. -/
theorem newTable_ok_of_loop {st : TableState F Ctor} (h : header.tableId = expectedTableId)
    (hloop : forEntries ⟨ctx, [], filtersRegistered⟩ = .ok st)
    (hlen : st.filtersRegistered.length = 0x2000) :
    ∃ r, newTable expectedTableId forEntries currentVersion filtersRegistered ctx header
      tableSyntaxHeader = .ok r := by
  obtain ⟨st', hsweep, -⟩ := removeUnseen_spec st hlen
  exact ⟨_, newTable_of_ok h (bind_eq_ok.2 ⟨st, hloop, hsweep⟩)⟩

/-- A table of the expected id whose loop panics makes `new_table` panic. -/
theorem newTable_of_error {e : Panic} (h : header.tableId = expectedTableId)
    (hloop : forEntries ⟨ctx, [], filtersRegistered⟩ = .error e) :
    newTable expectedTableId forEntries currentVersion filtersRegistered ctx header
      tableSyntaxHeader = .error e := by
  rw [newTable, if_neg (by simp [h]), hloop]
  rfl

/-- A `new_table` that returns either discarded a table of another id, or ran the loop over
the entries and the sweep. -/
theorem newTable_cases {r : Option UInt8 × FixedBitSet × DemuxContext F Ctor}
    (h : newTable expectedTableId forEntries currentVersion filtersRegistered ctx header
      tableSyntaxHeader = .ok r) :
    r = (currentVersion, filtersRegistered, ctx) ∨
      ∃ st₁ st₂, forEntries ⟨ctx, [], filtersRegistered⟩ = .ok st₁ ∧ removeUnseen st₁ = .ok st₂ ∧
        r = (some tableSyntaxHeader.version, st₂.filtersRegistered, st₂.ctx) := by
  unfold newTable at h
  split at h
  · cases h; exact .inl rfl
  · obtain ⟨st₁, h₁, h⟩ := bind_eq_ok.1 h
    obtain ⟨st₂, h₂, h⟩ := bind_eq_ok.1 h
    cases h
    exact .inr ⟨st₁, st₂, h₁, h₂, rfl⟩

/-- `new_table` on `0x2000` bits, with a loop that keeps the number of bits and never panics in
a bit set, never panics in a bit set either and keeps `0x2000` bits: the sweep clears bits
below `0x1fff` only. -/
theorem bitSetSafe_newTable
    (hloop : ∀ st : TableState F Ctor, st.filtersRegistered.length = 0x2000 →
      BitSetSafe (fun st' : TableState F Ctor => st'.filtersRegistered.length = 0x2000)
        (forEntries st))
    (hlen : filtersRegistered.length = 0x2000) :
    BitSetSafe (fun r => r.2.1.length = 0x2000) (newTable expectedTableId forEntries
      currentVersion filtersRegistered ctx header tableSyntaxHeader) := by
  unfold newTable
  split
  · exact .of_ok hlen
  · refine (hloop _ hlen).bind fun st hst => ?_
    obtain ⟨st', hsweep, -, -, -, hlen', -⟩ := removeUnseen_spec st hst
    rw [hsweep]
    exact .of_ok hlen'

end NewTable

/-! ## The section body -/

/-- The body that both processors' `section` hand to `new_table`: the bytes between the two
headers and the 4-byte CRC. -/
def sectionBody (data : List UInt8) : Except Panic (List UInt8) := do
  let start := SectionCommonHeader.size + TableSyntaxHeader.size
  let stop ← usizeSub data.length 4
  slice data start stop

/-- `sectionBody` panics only in its subtraction and its slice. -/
theorem bitSetSafe_sectionBody (data : List UInt8) :
    BitSetSafe (fun _ => True) (sectionBody data) := by
  refine BitSetSafe.bind (p := fun _ => True) ?_ fun stop _ => ?_
  · unfold usizeSub; split <;> first | exact .of_error rfl | exact .of_ok trivial
  · unfold slice; split_ifs <;> first | exact .of_error rfl | exact .of_ok trivial

/-- The body of a section made of 8 header bytes, the body and the CRC. -/
theorem sectionBody_append {hdr crc : List UInt8} (body : List UInt8) (hhdr : hdr.length = 8)
    (hcrc : crc.length = 4) : sectionBody (hdr ++ body ++ crc) = .ok body := by
  have hlen : (hdr ++ body ++ crc).length = hdr.length + body.length + 4 := by
    rw [List.length_append, List.length_append, hcrc]
  have hstart : SectionCommonHeader.size + TableSyntaxHeader.size = hdr.length := hhdr.symm
  rw [sectionBody, hlen, usizeSub_of_le (by omega), ok_bind, Nat.add_sub_cancel, hstart,
    slice_of_le (Nat.le_add_right _ _) (by rw [hlen]; omega),
    List.take_left' (List.length_append hdr body), List.drop_left]

/-- A body that `sectionBody` returns lies between 8 header bytes and 4 CRC bytes. -/
theorem exists_of_sectionBody {data body : List UInt8} (h : sectionBody data = .ok body) :
    ∃ hdr crc : List UInt8, hdr.length = 8 ∧ crc.length = 4 ∧ data = hdr ++ body ++ crc := by
  obtain ⟨stop, hstop, h⟩ := bind_eq_ok.1 h
  rw [usizeSub] at hstop
  split at hstop
  · cases hstop
  · cases hstop
    rw [slice, show SectionCommonHeader.size + TableSyntaxHeader.size = 8 from rfl] at h
    split at h
    · cases h
    · rw [if_neg (by omega)] at h
      cases h
      refine ⟨data.take 8, data.drop (data.length - 4), by rw [List.length_take]; omega,
        by rw [List.length_drop]; omega, ?_⟩
      conv_lhs => rw [← List.take_append_drop (data.length - 4) data,
        ← List.take_append_drop 8 (data.take (data.length - 4)), List.take_take,
        Nat.min_eq_left (by omega)]

/-! ## Registering the announced entries -/

section Register

variable [StreamConstructor Ctor F]

/-- The loop body shared by both processors: construct a handler for `req`, enqueue its
insertion at `pid`, and mark `pid` as seen and as registered. -/
def registerFilter (pid : UInt16) (req : FilterRequest) (st : TableState F Ctor) :
    Except Panic (TableState F Ctor) := do
  let (filter, ctx) := st.ctx.construct req
  let ctx := { ctx with changeset := ctx.changeset.insert pid filter }
  let filtersRegistered ← st.filtersRegistered.insert pid.toNat
  .ok ⟨ctx, st.pidsSeen.insert pid, filtersRegistered⟩

/-- One turn of the register loop, for a PID within the bit set. -/
theorem registerFilter_spec (pid : UInt16) (req : FilterRequest) (st : TableState F Ctor)
    (h : pid.toNat < st.filtersRegistered.length) :
    ∃ st', registerFilter pid req st = .ok st' ∧
      st'.ctx.changeset.updates = st.ctx.changeset.updates ++
        [.insert pid (StreamConstructor.construct st.ctx.constructor req).1] ∧
      st'.ctx.constructor = (StreamConstructor.construct st.ctx.constructor req).2 ∧
      st'.pidsSeen = st.pidsSeen.insert pid ∧
      st'.filtersRegistered.length = st.filtersRegistered.length ∧
      ∀ n, st'.filtersRegistered.contains n =
        (decide (n = pid.toNat) || st.filtersRegistered.contains n) := by
  refine ⟨_, by simp only [registerFilter, FixedBitSet.insert_of_lt _ h]; rfl, rfl, rfl, rfl,
    by simp, fun n => ?_⟩
  rw [FixedBitSet.contains_mk_set _ _ _ _ h]
  by_cases hn : pid.toNat = n
  · simp [hn]
  · simp [hn, Ne.symm hn]

/-- A turn of the register loop at a 13-bit PID, on `0x2000` bits, returns and keeps them. -/
theorem bitSetSafe_registerFilter {pid : UInt16} (hpid : pid.toNat < 0x2000) (req : FilterRequest)
    {st : TableState F Ctor} (hlen : st.filtersRegistered.length = 0x2000) :
    BitSetSafe (fun st' : TableState F Ctor => st'.filtersRegistered.length = 0x2000)
      (registerFilter pid req st) := by
  obtain ⟨st', h, -, -, -, hlen', -⟩ := registerFilter_spec pid req st (hlen ▸ hpid)
  rw [h]
  exact .of_ok (hlen'.trans hlen)

/-- A turn of the register loop that returns has asked the constructor for `req`, once. -/
theorem constructor_registerFilter {pid : UInt16} {req : FilterRequest}
    {st st' : TableState F Ctor} (h : registerFilter pid req st = .ok st') :
    st'.ctx.constructor = (StreamConstructor.construct st.ctx.constructor req).2 := by
  obtain ⟨_, -, h⟩ := bind_eq_ok.1 h
  cases h; rfl

/-- The register loop over `entries`, each a PID with the request for its handler: one
insertion per entry in order, with the handlers the constructor returns in turn, and each
entry's PID seen and registered. -/
theorem registerAll_spec (entries : List (UInt16 × FilterRequest)) (st : TableState F Ctor)
    (hlen : st.filtersRegistered.length = 0x2000) (hpid : ∀ e ∈ entries, e.1.toNat < 0x2000) :
    ∃ st', entries.foldlM (fun st e => registerFilter e.1 e.2 st) st = .ok st' ∧
      st'.ctx.changeset.updates = st.ctx.changeset.updates ++
        List.zipWith FilterChange.insert (entries.map Prod.fst)
          (DemuxContext.constructEach st.ctx.constructor (entries.map Prod.snd)).1 ∧
      st'.ctx.constructor =
        (DemuxContext.constructEach st.ctx.constructor (entries.map Prod.snd)).2 ∧
      (∀ p, p ∈ st'.pidsSeen ↔ p ∈ st.pidsSeen ∨ p ∈ entries.map Prod.fst) ∧
      st'.filtersRegistered.length = 0x2000 ∧
      ∀ n, st'.filtersRegistered.contains n =
        (st.filtersRegistered.contains n || decide (n ∈ entries.map (·.1.toNat))) := by
  induction entries generalizing st with
  | nil => exact ⟨st, rfl, by simp, rfl, by simp, hlen, by simp⟩
  | cons e es ih =>
    obtain ⟨st₁, hreg, hcs₁, hctor₁, hseen₁, hlen₁, hbits₁⟩ :=
      registerFilter_spec e.1 e.2 st (hlen ▸ hpid e (List.mem_cons_self _ _))
    obtain ⟨st', hrun, hcs, hctor, hseen, hlen', hbits⟩ :=
      ih st₁ (hlen₁.trans hlen) fun e' h => hpid e' (List.mem_cons_of_mem _ h)
    refine ⟨st', by rw [List.foldlM_cons, hreg]; exact hrun, ?_, ?_, fun p => ?_, hlen', fun n => ?_⟩
    · simp [hcs, hcs₁, hctor₁, DemuxContext.constructEach]
    · simp [hctor, hctor₁, DemuxContext.constructEach]
    · rw [hseen, hseen₁, List.mem_insert_iff, List.map_cons, List.mem_cons, @or_comm (p = e.1),
        or_assoc]
    · rw [hbits, hbits₁, Bool.or_assoc]
      simp only [List.map_cons, List.mem_cons, Bool.decide_or, Bool.or_left_comm]

/-- A PID below `2 ^ 16` is in a list of `u16` PIDs exactly when its cast `as u16` is. -/
private theorem toUInt16_mem_iff (pids : List UInt16) {n : Nat} (h : n < 65536) :
    n.toUInt16 ∈ pids ↔ n ∈ pids.map UInt16.toNat := by
  rw [List.mem_map]
  constructor
  · exact fun hmem => ⟨_, hmem, UInt16.toNat_ofNat_of_lt h⟩
  · rintro ⟨p, hp, rfl⟩
    rwa [show p.toNat.toUInt16 = p from UInt16.toNat.inj (UInt16.toNat_ofNat_of_lt p.toNat_lt_size)]

/-- The register loop and then the sweep, from an empty `pids_seen` and a set of `0x2000`
bits: the insertions of the entries in order, then the removals, in ascending order, of the
registered PIDs below `0x1fff` that no entry announces. Afterwards the announced PIDs are
registered, and so is `0x1fff` if it was before, whether announced or not. -/
theorem diff_spec (entries : List (UInt16 × FilterRequest)) (ctx : DemuxContext F Ctor)
    (bits : FixedBitSet) (hlen : bits.length = 0x2000)
    (hpid : ∀ e ∈ entries, e.1.toNat < 0x2000) :
    ∃ st', (entries.foldlM (fun st e => registerFilter e.1 e.2 st) ⟨ctx, [], bits⟩ >>=
        removeUnseen) = .ok st' ∧
      st'.ctx.changeset.updates = ctx.changeset.updates ++
        List.zipWith FilterChange.insert (entries.map Prod.fst)
          (DemuxContext.constructEach ctx.constructor (entries.map Prod.snd)).1 ++
        ((List.range 0x1fff).filter fun n =>
          bits.contains n && !decide (n ∈ entries.map (·.1.toNat))).map
            (fun n => .remove n.toUInt16) ∧
      st'.ctx.constructor = (DemuxContext.constructEach ctx.constructor (entries.map Prod.snd)).2 ∧
      st'.filtersRegistered.length = 0x2000 ∧
      ∀ n, st'.filtersRegistered.contains n =
        (decide (n ∈ entries.map (·.1.toNat)) || (decide (n = 0x1fff) && bits.contains n)) := by
  obtain ⟨st₁, hreg, hcs₁, hctor₁, hseen₁, hlen₁, hbits₁⟩ :=
    registerAll_spec entries ⟨ctx, [], bits⟩ hlen hpid
  obtain ⟨st', hsweep, hcs, hctor, -, hlen', hbits⟩ := removeUnseen_spec st₁ hlen₁
  -- Below `0x1fff`, a PID was seen exactly when an entry announces it.
  have hunseen : ∀ n < 0x1fff, unseen st₁ n =
      (bits.contains n && !decide (n ∈ entries.map (·.1.toNat))) := by
    intro n hn
    have hseen : st₁.pidsSeen.contains n.toUInt16 = decide (n ∈ entries.map (·.1.toNat)) := by
      rw [Bool.eq_iff_iff, List.elem_iff, decide_eq_true_iff, hseen₁]
      simp only [List.not_mem_nil, false_or]
      rw [toUInt16_mem_iff _ (by omega), List.map_map]
      rfl
    rw [unseen, hbits₁, hseen]
    cases bits.contains n <;> cases decide (n ∈ entries.map (·.1.toNat)) <;> rfl
  refine ⟨st', bind_eq_ok.2 ⟨st₁, hreg, hsweep⟩, ?_, hctor.trans hctor₁, hlen', fun n => ?_⟩
  · rw [hcs, hcs₁, List.filter_congr fun n hn => hunseen n (List.mem_range.1 hn)]
  · rw [hbits, hbits₁]
    by_cases hn : n < 0x1fff
    · rw [hunseen n hn, decide_eq_true hn, decide_eq_false (show n ≠ 0x1fff by omega)]
      cases bits.contains n <;> cases decide (n ∈ entries.map (·.1.toNat)) <;> rfl
    · rw [decide_eq_false hn, Bool.false_and, Bool.not_false, Bool.and_true]
      by_cases h1fff : n = 0x1fff
      · rw [decide_eq_true h1fff, Bool.true_and, Bool.or_comm]
      · have : bits.contains n = false := bits.contains_of_length_le (by omega)
        rw [this, decide_eq_false h1fff, Bool.false_and, Bool.false_or, Bool.or_false]

end Register

/-! ## Runs of tables -/

section Run

variable {P : Type}

/-- A table processor, given by its `section`, fed `sections` in turn, each with its two
headers, the context's changeset applied to the filter table `filters` after each one, as
`Demultiplex::push` applies it after the packet that completes a section. -/
def runSections
    (sectionFn : P → DemuxContext F Ctor → SectionCommonHeader → TableSyntaxHeader →
      List UInt8 → Except Panic (P × DemuxContext F Ctor))
    (self : P) (ctx : DemuxContext F Ctor) (filters : Filters F) :
    List (SectionCommonHeader × TableSyntaxHeader × List UInt8) →
      Except Panic (P × DemuxContext F Ctor × Filters F)
  | [] => .ok (self, ctx, filters)
  | (header, tsh, data) :: sections => do
    let (self, ctx) ← sectionFn self ctx header tsh data
    let (changeset, filters) ← ctx.changeset.apply filters
    runSections sectionFn self { ctx with changeset } filters sections

variable {sectionFn : P → DemuxContext F Ctor → SectionCommonHeader → TableSyntaxHeader →
  List UInt8 → Except Panic (P × DemuxContext F Ctor)}

/-- One section of a run, and the changeset applied. -/
theorem runSections_cons {self p' : P} {ctx ctx' : DemuxContext F Ctor}
    {header : SectionCommonHeader} {tsh : TableSyntaxHeader} {data : List UInt8}
    (filters : Filters F) (sections : List (SectionCommonHeader × TableSyntaxHeader × List UInt8))
    (h : sectionFn self ctx header tsh data = .ok (p', ctx')) :
    runSections sectionFn self ctx filters ((header, tsh, data) :: sections) =
      runSections sectionFn p' { ctx' with changeset := ⟨[]⟩ } (ctx'.changeset.drain filters).2
        sections := by
  rw [runSections, h, ok_bind]
  dsimp only
  rw [FilterChangeset.apply_eq_ok, ok_bind]
  rfl

/-- A property of the constructor that every section that returns keeps holds after a run that
returns: applying a changeset leaves the constructor alone. -/
theorem runSections_constructor (Q : Ctor → Prop)
    (hstep : ∀ p ctx header tsh data p' ctx', Q (DemuxContext.constructor ctx) →
      sectionFn p ctx header tsh data = .ok (p', ctx') → Q ctx'.constructor)
    {sections : List (SectionCommonHeader × TableSyntaxHeader × List UInt8)} {p p' : P}
    {ctx ctx' : DemuxContext F Ctor} {T T' : Filters F} (hq : Q ctx.constructor)
    (h : runSections sectionFn p ctx T sections = .ok (p', ctx', T')) : Q ctx'.constructor := by
  induction sections generalizing p ctx T with
  | nil => cases h; exact hq
  | cons s sections ih =>
    obtain ⟨header, tsh, data⟩ := s
    obtain ⟨⟨p₁, ctx₁⟩, h₁, -⟩ := bind_eq_ok.1 h
    rw [runSections_cons _ _ h₁] at h
    refine ih ?_ h
    exact hstep _ _ _ _ _ p₁ ctx₁ hq h₁

/-- A property `Inv` of the processor that every section keeps, panicking if at all elsewhere
than in a bit set, holds after a run that returns, and a run that panics does not panic in a
bit set. -/
theorem bitSetSafe_runSections (Inv : P → Prop)
    (hstep : ∀ p ctx header tsh data, Inv p →
      BitSetSafe (fun r => Inv r.1) (sectionFn p ctx header tsh data))
    (sections : List (SectionCommonHeader × TableSyntaxHeader × List UInt8)) {p : P}
    (ctx : DemuxContext F Ctor) (filters : Filters F) (hp : Inv p) :
    BitSetSafe (fun r => Inv r.1) (runSections sectionFn p ctx filters sections) := by
  induction sections generalizing p ctx filters with
  | nil => exact .of_ok hp
  | cons s sections ih =>
    obtain ⟨header, tsh, data⟩ := s
    refine (hstep p ctx header tsh data hp).bind fun ⟨p', ctx'⟩ hp' => ?_
    dsimp only
    rw [FilterChangeset.apply_eq_ok, ok_bind]
    exact ih _ _ hp'

end Run

/-! ## The filter table a table describes

What the processors are for: after each table, with its changeset applied, the registered PIDs
and the filter table are those the table's entries describe (`InSync`), below `0x1fff`. -/

/-- An entry applied to a map from PID to request: its PID holds its request. -/
def entryUpdate (m : UInt16 → Option FilterRequest) (e : UInt16 × FilterRequest) :
    UInt16 → Option FilterRequest :=
  Function.update m e.1 (some e.2)

/-- The filter table a list of entries describes: each PID an entry lists holds the request of
the last entry that lists it, and the other PIDs hold nothing. -/
def tableOf (entries : List (UInt16 × FilterRequest)) : UInt16 → Option FilterRequest :=
  entries.foldl entryUpdate fun _ => none

theorem tableOf_cons (e : UInt16 × FilterRequest) (es : List (UInt16 × FilterRequest)) :
    tableOf (e :: es) = es.foldl entryUpdate (entryUpdate (fun _ => none) e) := rfl

/-- Entries applied in order over a map `m`: a PID some entry lists ends with the request of
the last such entry, whatever `m` held there; the other PIDs keep their entry. -/
theorem foldl_entryUpdate (entries : List (UInt16 × FilterRequest))
    (m : UInt16 → Option FilterRequest) (p : UInt16) :
    entries.foldl entryUpdate m p =
      if p ∈ entries.map Prod.fst then tableOf entries p else m p := by
  induction entries generalizing m with
  | nil => rfl
  | cons e es ih =>
    rw [List.foldl_cons, ih, tableOf_cons, ih, List.map_cons]
    by_cases hp : p ∈ es.map Prod.fst
    · rw [if_pos hp, if_pos hp, if_pos (List.mem_cons_of_mem _ hp)]
    · rw [if_neg hp, if_neg hp, entryUpdate, entryUpdate]
      by_cases hpe : p = e.1
      · rw [if_pos (hpe ▸ List.mem_cons_self _ _), hpe, Function.update_same,
          Function.update_same]
      · rw [if_neg (by rw [List.mem_cons]; exact not_or.2 ⟨hpe, hp⟩), Function.update_noteq hpe]

theorem tableOf_of_not_mem {entries : List (UInt16 × FilterRequest)} {p : UInt16}
    (h : p ∉ entries.map Prod.fst) : tableOf entries p = none := by
  rw [tableOf, foldl_entryUpdate, if_neg h]

/-- The insertions of the entries, applied in order, are the entries applied in order. -/
theorem foldl_update_inserts (entries : List (UInt16 × FilterRequest))
    (m : UInt16 → Option FilterRequest) :
    (List.zipWith FilterChange.insert (entries.map Prod.fst) (entries.map Prod.snd)).foldl
      FilterChange.update m = entries.foldl entryUpdate m := by
  induction entries generalizing m with
  | nil => rfl
  | cons e es ih => exact ih _

/-- Removals at PIDs below `2 ^ 16` clear exactly those PIDs. -/
theorem foldl_update_removes (ns : List Nat) (hns : ∀ n ∈ ns, n < 65536)
    (m : UInt16 → Option F) (p : UInt16) :
    (ns.map fun n => FilterChange.remove n.toUInt16).foldl FilterChange.update m p =
      if p.toNat ∈ ns then none else m p := by
  induction ns generalizing m with
  | nil => rfl
  | cons n ns ih =>
    have hn : p = n.toUInt16 ↔ p.toNat = n := by
      have h := UInt16.toNat_ofNat_of_lt (hns n (List.mem_cons_self _ _))
      exact ⟨fun hp => hp ▸ h, fun hp => UInt16.toNat.inj (hp.trans h.symm)⟩
    rw [List.map_cons, List.foldl_cons, ih fun k hk => hns k (List.mem_cons_of_mem _ hk)]
    simp only [FilterChange.update, FilterChange.pid, FilterChange.target, Function.update_apply,
      List.mem_cons, hn]
    by_cases h₁ : p.toNat = n <;> by_cases h₂ : p.toNat ∈ ns <;> simp [h₁, h₂]

theorem mem_map_toNat_iff (entries : List (UInt16 × FilterRequest)) (pid : UInt16) :
    pid.toNat ∈ entries.map (·.1.toNat) ↔ pid ∈ entries.map Prod.fst := by
  simp only [List.mem_map]
  exact exists_congr fun _ => and_congr_right fun _ => ⟨UInt16.toNat.inj, congrArg _⟩

/-- The registered bits and the filter table agree with `entries` below `0x1fff`: a PID there
is registered exactly when an entry lists it, and the table holds the request of the last entry
that lists it, or nothing. -/
structure InSync (entries : List (UInt16 × FilterRequest)) (bits : FixedBitSet)
    (T : Filters FilterRequest) : Prop where
  length_eq : bits.length = 0x2000
  registered : ∀ pid : UInt16, pid.toNat < 0x1fff →
    bits.contains pid.toNat = decide (pid ∈ entries.map Prod.fst)
  table : ∀ pid : UInt16, pid.toNat < 0x1fff → T.get pid = tableOf entries pid

theorem inSync_withCapacity : InSync [] (FixedBitSet.withCapacity 0x2000) Filters.new :=
  ⟨FixedBitSet.length_withCapacity _, fun _ _ => FixedBitSet.contains_withCapacity _ _,
    fun _ _ => Filters.get_new _⟩

/-- `new_table` on a table of the expected id whose loop registers `entries`, the changeset then
applied, keeps the registered bits and the filter table in sync: with `entries`. -/
theorem InSync.newTable {prev : List (UInt16 × FilterRequest)} {bits : FixedBitSet}
    {T : Filters FilterRequest} (hs : InSync prev bits T) (ctx : DemuxContext FilterRequest Unit)
    (hctx : ctx.changeset.updates = []) (entries : List (UInt16 × FilterRequest))
    (hpid : ∀ e ∈ entries, e.1.toNat < 0x2000) {expectedTableId : UInt8}
    {forEntries : TableState FilterRequest Unit → Except Panic (TableState FilterRequest Unit)}
    (hloop : ∀ st, forEntries st = entries.foldlM (fun st e => registerFilter e.1 e.2 st) st)
    {header : SectionCommonHeader} (hid : header.tableId = expectedTableId)
    (currentVersion : Option UInt8) (tsh : TableSyntaxHeader) :
    ∃ bits' ctx', newTable expectedTableId forEntries currentVersion bits ctx header tsh =
        .ok (some tsh.version, bits', ctx') ∧ InSync entries bits' (ctx'.changeset.drain T).2 := by
  obtain ⟨st', hrun, hcs, -, hlen', hbits⟩ := diff_spec entries ctx bits hs.length_eq hpid
  refine ⟨st'.filtersRegistered, st'.ctx, newTable_of_ok hid (by rw [hloop]; exact hrun), hlen',
    fun pid hpid => ?_, fun pid hpid => ?_⟩
  · rw [hbits, decide_eq_false (show pid.toNat ≠ 0x1fff by omega), Bool.false_and, Bool.or_false]
    exact decide_eq_decide.2 (mem_map_toNat_iff _ _)
  · have hrm : ∀ n ∈ (List.range 0x1fff).filter (fun n => bits.contains n &&
        !decide (n ∈ entries.map (·.1.toNat))), n < 65536 := fun n hn => by
      have := List.mem_range.1 (List.mem_of_mem_filter hn)
      omega
    have hget : (st'.ctx.changeset.drain T).2.get pid = _ := congrFun (get_foldl_edit _ T) pid
    rw [hget, hcs, hctx, List.nil_append, List.foldl_append, constructEach_request,
      foldl_update_removes _ hrm, foldl_update_inserts, foldl_entryUpdate]
    simp only [List.mem_filter, List.mem_range, hpid, decide_True, Bool.true_and,
      Bool.and_eq_true, Bool.not_eq_true', decide_eq_false_iff_not, mem_map_toNat_iff,
      hs.registered pid hpid, true_and, decide_eq_true_eq]
    -- A PID the new table lists holds its entry; one only the old table listed was removed.
    by_cases hnew : pid ∈ entries.map Prod.fst
    · rw [if_neg (fun h => h.2 hnew), if_pos hnew]
    · rw [if_neg hnew, tableOf_of_not_mem hnew]
      by_cases hprev : pid ∈ prev.map Prod.fst
      · rw [if_pos ⟨hprev, hnew⟩]
      · rw [if_neg (fun h => hprev h.1), hs.table pid hpid, tableOf_of_not_mem hprev]

/-! ## The last-table model

What a processor is for, read off a run of raw sections: its registered PIDs and the filter
table are those of the last table of its id, and sections of other ids do not count. A table
whose entries cannot be read makes the model fail, as it makes the processor panic. -/

/-- The entries of the last section of the expected table id in `sections`, as `entriesOf`
reads them from its bytes, or `prev` when there is none. -/
def lastEntries (expectedTableId : UInt8)
    (entriesOf : List UInt8 → Except Panic (List (UInt16 × FilterRequest)))
    (prev : List (UInt16 × FilterRequest)) :
    List (SectionCommonHeader × TableSyntaxHeader × List UInt8) →
      Except Panic (List (UInt16 × FilterRequest))
  | [] => .ok prev
  | (header, _, data) :: sections =>
    if header.tableId = expectedTableId then do
      lastEntries expectedTableId entriesOf (← entriesOf data) sections
    else lastEntries expectedTableId entriesOf prev sections

section LastTable

variable {P Tab : Type}
  {sectionFn : P → DemuxContext FilterRequest Unit → SectionCommonHeader → TableSyntaxHeader →
    List UInt8 → Except Panic (P × DemuxContext FilterRequest Unit)}
  {bitsOf : P → FixedBitSet} {expectedTableId : UInt8}
  {entriesOf : List UInt8 → Except Panic (List (UInt16 × FilterRequest))}
  {toSection : Tab → SectionCommonHeader × TableSyntaxHeader × List UInt8}
  {entries : Tab → List (UInt16 × FilterRequest)}

/-- A processor described by its tables `Tab`: every section of the expected id that returns is
a table, `entriesOf` reads each table's entries, each table keeps the processor in sync with its
entries, and a section of another id changes nothing. -/
structure TableProcessor (sectionFn : P → DemuxContext FilterRequest Unit →
    SectionCommonHeader → TableSyntaxHeader → List UInt8 →
      Except Panic (P × DemuxContext FilterRequest Unit))
    (bitsOf : P → FixedBitSet) (expectedTableId : UInt8)
    (entriesOf : List UInt8 → Except Panic (List (UInt16 × FilterRequest)))
    (toSection : Tab → SectionCommonHeader × TableSyntaxHeader × List UInt8)
    (entries : Tab → List (UInt16 × FilterRequest)) : Prop where
  recognize : ∀ p ctx header tsh data r, header.tableId = expectedTableId →
    sectionFn p ctx header tsh data = .ok r → ∃ t, toSection t = (header, tsh, data)
  entriesOf_toSection : ∀ t, entriesOf (toSection t).2.2 = .ok (entries t)
  inSync : ∀ prev p T (ctx : DemuxContext FilterRequest Unit) t, InSync prev (bitsOf p) T →
    ctx.changeset.updates = [] →
    ∃ p' ctx', sectionFn p ctx (toSection t).1 (toSection t).2.1 (toSection t).2.2 =
      .ok (p', ctx') ∧ InSync (entries t) (bitsOf p') (ctx'.changeset.drain T).2
  other : ∀ p ctx header tsh data r, header.tableId ≠ expectedTableId →
    sectionFn p ctx header tsh data = .ok r → r = (p, ctx)

/-- The step of the last-table model, for any section that returns: one of the expected id
leaves the processor in sync with the entries `entriesOf` reads from it, one of another id
changes nothing. -/
theorem TableProcessor.inSync_of_ok
    (hproc : TableProcessor sectionFn bitsOf expectedTableId entriesOf toSection entries)
    {prev : List (UInt16 × FilterRequest)} {p p' : P} {T : Filters FilterRequest}
    {ctx ctx' : DemuxContext FilterRequest Unit} {header : SectionCommonHeader}
    {tsh : TableSyntaxHeader} {data : List UInt8} (hs : InSync prev (bitsOf p) T)
    (hctx : ctx.changeset.updates = []) (h : sectionFn p ctx header tsh data = .ok (p', ctx')) :
    if header.tableId = expectedTableId then
      ∃ es, entriesOf data = .ok es ∧ InSync es (bitsOf p') (ctx'.changeset.drain T).2
    else InSync prev (bitsOf p') (ctx'.changeset.drain T).2 := by
  split
  · rename_i hid
    obtain ⟨t, ht⟩ := hproc.recognize _ _ _ _ _ _ hid h
    obtain ⟨p₂, ctx₂, h₂, hs₂⟩ := hproc.inSync prev p T ctx t hs hctx
    rw [ht, h] at h₂
    cases h₂
    exact ⟨entries t, by rw [← hproc.entriesOf_toSection t, ht], hs₂⟩
  · rename_i hid
    cases hproc.other _ _ _ _ _ _ hid h
    rw [FilterChangeset.drain_of_updates_nil _ _ hctx]
    exact hs

/-- The refinement of a run by the last-table model: a run that returns is in sync with the
entries of its last table of the expected id. -/
theorem TableProcessor.runSections_inSync
    (hproc : TableProcessor sectionFn bitsOf expectedTableId entriesOf toSection entries)
    {sections : List (SectionCommonHeader × TableSyntaxHeader × List UInt8)}
    {prev : List (UInt16 × FilterRequest)} {p p' : P} {ctx ctx' : DemuxContext FilterRequest Unit}
    {T T' : Filters FilterRequest} (hs : InSync prev (bitsOf p) T)
    (hctx : ctx.changeset.updates = [])
    (h : runSections sectionFn p ctx T sections = .ok (p', ctx', T')) :
    ∃ es, lastEntries expectedTableId entriesOf prev sections = .ok es ∧
      InSync es (bitsOf p') T' := by
  induction sections generalizing prev p ctx T with
  | nil => cases h; exact ⟨prev, rfl, hs⟩
  | cons s sections ih =>
    obtain ⟨header, tsh, data⟩ := s
    obtain ⟨⟨p₁, ctx₁⟩, h₁, -⟩ := bind_eq_ok.1 h
    rw [runSections_cons _ _ h₁] at h
    have hstep₁ := hproc.inSync_of_ok hs hctx h₁
    rw [lastEntries]
    by_cases hid : header.tableId = expectedTableId
    · rw [if_pos hid] at hstep₁
      obtain ⟨es₁, hes₁, hs₁⟩ := hstep₁
      rw [if_pos hid, hes₁, ok_bind]
      exact ih hs₁ rfl h
    · rw [if_neg hid] at hstep₁
      rw [if_neg hid]
      exact ih hstep₁ rfl h

end LastTable

end Mpeg2TsReader

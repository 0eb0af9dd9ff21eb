import Mpeg2TsReader.NewTable

/-!
# The PMT processor

`PmtProcessor` handles the sections of one program's Program Map Table. For every elementary
stream the table lists it asks the constructor for a handler and enqueues its insertion at the
stream's PID; then it enqueues the removal of the handlers at the PIDs an earlier table listed
and this one does not.

* `section_streams_spec`: over a body made of the `pcr_pid`, the `program_info_length` descriptors,
  encoded stream entries and a remainder that ends the iteration, the edits `section` enqueues,
  in order, and the PIDs registered afterwards;
* `section_returns_unless_overrun`: with a body of at least four bytes, `section` returns
  normally unless `program_info_length` runs past the end of the body, where `streams` panics;
* `section_panics_on_malformed_body`: two malformed sections of id `0x02` that panic where the
  specification discards them: one whose `program_info_length` runs past its body, and one
  with an empty body, which `program_info_length` reads past;
* `section_requests_in_bounds`, `run_requests_in_bounds`: every request `section`, and a whole
  run of sections, hands the constructor is a `ByStream` request whose section and stream entry
  have all their accessors in bounds;
* `inSync_section`, `run_new_streams_in_sync`: along a run of PMTs, below `0x1fff`, the
  registered PIDs and the filter table are those the last table's streams describe;
* `run_new_streams_in_sync_of_ok`: the same along any run of raw sections that returns, of any
  ids and bytes: every section of id `0x02` that returns is a `PmtTable` (`exists_pmtTable`),
  and the processor refines the last-table model (`lastEntries`).

The processor shares the sweep of the PAT processor, and with it the exclusive bound `0x1fff`.
-/

namespace Mpeg2TsReader

/-- `PmtProcessor`, without its `pid` and `program_number`, which only its log lines read, and
its `PhantomData`. -/
structure PmtProcessor where
  /-- `current_version`: the version of the last table processed. -/
  currentVersion : Option UInt8
  /-- `filters_registered`: the PIDs at which this processor has installed a stream handler. -/
  filtersRegistered : FixedBitSet
  deriving DecidableEq, Repr

namespace PmtProcessor

variable {F Ctor : Type} [StreamConstructor Ctor F]

/-- `PmtProcessor::new`. -/
def new : PmtProcessor := ⟨none, FixedBitSet.withCapacity 0x2000⟩

/-- The body of `for stream_info in sect.streams()` in `new_table`: a handler for the stream, at
its elementary PID. The log line reads `elementary_pid()` before `stream_type()` is read. -/
def registerStream (sect : PmtSection) (streamInfo : StreamInfo) (st : TableState F Ctor) :
    Except Panic (TableState F Ctor) := do
  let pid ← streamInfo.elementaryPid
  let streamType ← streamInfo.streamType
  registerFilter pid (.byStream streamType sect streamInfo) st

/-- `PmtProcessor::new_table`. -/
def newTable (self : PmtProcessor) (ctx : DemuxContext F Ctor) (header : SectionCommonHeader)
    (tableSyntaxHeader : TableSyntaxHeader) (sect : PmtSection) :
    Except Panic (PmtProcessor × DemuxContext F Ctor) := do
  let (currentVersion, filtersRegistered, ctx) ← Mpeg2TsReader.newTable 0x02
    (sect.forStreams (registerStream sect)) self.currentVersion self.filtersRegistered ctx header
    tableSyntaxHeader
  .ok (⟨currentVersion, filtersRegistered⟩, ctx)

/-- `PmtProcessor::section`: the table's body lies between the two headers and the 4-byte
CRC. -/
def «section» (self : PmtProcessor) (ctx : DemuxContext F Ctor) (header : SectionCommonHeader)
    (tableSyntaxHeader : TableSyntaxHeader) (data : List UInt8) :
    Except Panic (PmtProcessor × DemuxContext F Ctor) := do
  self.newTable ctx header tableSyntaxHeader ⟨← sectionBody data⟩

variable (self : PmtProcessor) (ctx : DemuxContext F Ctor) (header : SectionCommonHeader)
  (tsh : TableSyntaxHeader)

/-- `section` runs `new_table` on the bytes between the 8 header bytes and the CRC. -/
theorem section_eq {hdr crc : List UInt8} (body : List UInt8) (hhdr : hdr.length = 8)
    (hcrc : crc.length = 4) :
    self.section ctx header tsh (hdr ++ body ++ crc) = self.newTable ctx header tsh ⟨body⟩ := by
  rw [«section», sectionBody_append body hhdr hcrc]
  rfl

/-- A table of another id leaves the processor and the context as they were. -/
theorem newTable_of_ne (sect : PmtSection) (hid : header.tableId ≠ 0x02) :
    self.newTable ctx header tsh sect = .ok (self, ctx) := by
  rw [newTable, Mpeg2TsReader.newTable_of_ne hid]
  rfl

/-- On an encoded entry, the loop body registers the entry's PID with a request for its stream
type. -/
theorem registerStream_encode (sect : PmtSection) (e : StreamEntry) (rest : List UInt8)
    (st : TableState F Ctor) :
    registerStream sect ⟨e.encode ++ rest⟩ st =
      registerFilter e.elementaryPid (.byStream e.streamType sect ⟨e.encode ++ rest⟩) st := by
  rw [registerStream, StreamEntry.elementaryPid_encode, StreamEntry.streamType_encode]
  rfl

theorem length_infos (r : List UInt8) (es : List StreamEntry) :
    (StreamEntry.infos r es).length = es.length := by
  induction es with
  | nil => rfl
  | cons e es ih => simp [StreamEntry.infos, ih]

/-- A field of each entry, paired with its view, is read off the entries. -/
theorem zipWith_infos_left {α : Type} (f : StreamEntry → α) (r : List UInt8)
    (es : List StreamEntry) :
    List.zipWith (fun e _ => f e) es (StreamEntry.infos r es) = es.map f := by
  induction es with
  | nil => rfl
  | cons e es ih => simp [StreamEntry.infos, ih]

/-- Over the encoded entries `es` followed by `r`, the loop registers each entry's PID with a
request for its stream type and its view. -/
theorem foldlM_registerStream (sect : PmtSection) (r : List UInt8) (es : List StreamEntry)
    (st : TableState F Ctor) :
    (StreamEntry.infos r es).foldlM (fun st i => registerStream sect i st) st =
      (List.zipWith (fun e i => (e.elementaryPid, FilterRequest.byStream e.streamType sect i)) es
        (StreamEntry.infos r es)).foldlM (fun st e => registerFilter e.1 e.2 st) st := by
  induction es generalizing st with
  | nil => rfl
  | cons e es ih =>
    simp only [StreamEntry.infos, List.foldlM_cons, List.zipWith_cons_cons, registerStream_encode]
    congr 1
    funext st'
    exact ih st'

/-- Over the grammar of a PMT body, the streams loop registers each entry's PID with a request
for its stream type and its view of the body. -/
theorem forStreams_registerStream (pcr descs r : List UInt8) (l₁ l₂ : UInt8)
    (es : List StreamEntry) (hpcr : pcr.length = 2)
    (hdescs : descs.length = (u16Field l₁ l₂ 0x0f).toNat)
    (hr : r.length < 5 ∨ r.length < 5 + (u16Field (r.getD 3 0) (r.getD 4 0) 0x0f).toNat)
    (st : TableState F Ctor) :
    let sect : PmtSection :=
      ⟨pcr ++ [l₁, l₂] ++ descs ++ ((es.map StreamEntry.encode).flatten ++ r)⟩
    sect.forStreams (registerStream sect) st =
      (List.zipWith (fun e i => (e.elementaryPid, FilterRequest.byStream e.streamType sect i)) es
        (StreamEntry.infos r es)).foldlM (fun st e => registerFilter e.1 e.2 st) st := by
  intro sect
  rw [PmtSection.forStreams, show sect.streams = .ok ((es.map StreamEntry.encode).flatten ++ r)
    from PmtSection.streams_append l₁ l₂ _ hpcr hdescs, ok_bind,
    forIter_streams _ es (StreamInfoIter.next_of_short hr), foldlM_registerStream]

/-- The PIDs the stream entries register are 13-bit. -/
theorem toNat_lt_of_mem_streams (sect : PmtSection) (r : List UInt8) (es : List StreamEntry) :
    ∀ e ∈ List.zipWith (fun e i => (e.elementaryPid, FilterRequest.byStream e.streamType sect i))
      es (StreamEntry.infos r es), e.1.toNat < 0x2000 := fun _ hx => by
  have hmem := List.mem_map_of_mem Prod.fst hx
  simp only [List.map_zipWith, zipWith_infos_left] at hmem
  obtain ⟨e, -, he⟩ := List.mem_map.1 hmem
  exact he ▸ e.elementaryPid_lt

/-- `new_table` on a PMT of id `0x02` over the grammar of its body: the insertions of one
handler per stream entry, in order, then the removals, in ascending order, of the registered
PIDs below `0x1fff` that no entry lists. -/
theorem newTable_spec (pcr descs r : List UInt8) (l₁ l₂ : UInt8) (es : List StreamEntry)
    (hpcr : pcr.length = 2) (hdescs : descs.length = (u16Field l₁ l₂ 0x0f).toNat)
    (hr : r.length < 5 ∨ r.length < 5 + (u16Field (r.getD 3 0) (r.getD 4 0) 0x0f).toNat)
    (hlen : self.filtersRegistered.length = 0x2000) (hid : header.tableId = 0x02) :
    let sect : PmtSection :=
      ⟨pcr ++ [l₁, l₂] ++ descs ++ ((es.map StreamEntry.encode).flatten ++ r)⟩
    ∃ p' ctx', self.newTable ctx header tsh sect = .ok (p', ctx') ∧
      ctx'.changeset.updates = ctx.changeset.updates ++
        List.zipWith FilterChange.insert (es.map (·.elementaryPid))
          (DemuxContext.constructEach ctx.constructor
            (List.zipWith (fun e i => .byStream e.streamType sect i) es
              (StreamEntry.infos r es))).1 ++
        ((List.range 0x1fff).filter fun n =>
          self.filtersRegistered.contains n && !decide (n ∈ es.map (·.elementaryPid.toNat))).map
            (fun n => .remove n.toUInt16) ∧
      ctx'.constructor = (DemuxContext.constructEach ctx.constructor
        (List.zipWith (fun e i => .byStream e.streamType sect i) es
          (StreamEntry.infos r es))).2 ∧
      p'.currentVersion = some tsh.version ∧ p'.filtersRegistered.length = 0x2000 ∧
      ∀ n, p'.filtersRegistered.contains n = (decide (n ∈ es.map (·.elementaryPid.toNat)) ||
        (decide (n = 0x1fff) && self.filtersRegistered.contains n)) := by
  intro sect
  obtain ⟨st', hrun, hcs, hctor, hlen', hbits⟩ :=
    diff_spec (List.zipWith (fun e i => (e.elementaryPid, FilterRequest.byStream e.streamType sect i))
        es (StreamEntry.infos r es)) ctx self.filtersRegistered hlen
      (toNat_lt_of_mem_streams sect r es)
  refine ⟨⟨some tsh.version, st'.filtersRegistered⟩, st'.ctx, ?_, ?_, ?_, rfl, hlen', ?_⟩
  · rw [newTable, Mpeg2TsReader.newTable_of_ok hid ((congrArg (· >>= removeUnseen)
      (forStreams_registerStream pcr descs r l₁ l₂ es hpcr hdescs hr _)).trans hrun)]
    rfl
  · simpa only [List.map_zipWith, zipWith_infos_left] using hcs
  · simpa only [List.map_zipWith] using hctor
  · simpa only [List.map_zipWith, zipWith_infos_left] using hbits

/-- `section` on a PMT of id `0x02` whose body, between the 8 header bytes and the CRC, is the
`pcr_pid`, the `program_info_length` descriptors, the encoded stream entries `es` and a
remainder that ends the iteration: the insertions of one handler per entry, in order, each
built for the entry's stream type and its view of the body, then the removals, in ascending
order, of the registered PIDs below `0x1fff` that no entry lists, and nothing else. Afterwards
the registered PIDs are those the entries list, and `0x1fff` if it was registered before. -/
theorem section_streams_spec (hdr crc pcr descs r : List UInt8) (l₁ l₂ : UInt8)
    (es : List StreamEntry) (hhdr : hdr.length = 8) (hcrc : crc.length = 4)
    (hpcr : pcr.length = 2) (hdescs : descs.length = (u16Field l₁ l₂ 0x0f).toNat)
    (hr : r.length < 5 ∨ r.length < 5 + (u16Field (r.getD 3 0) (r.getD 4 0) 0x0f).toNat)
    (hlen : self.filtersRegistered.length = 0x2000) (hid : header.tableId = 0x02) :
    let sect : PmtSection :=
      ⟨pcr ++ [l₁, l₂] ++ descs ++ ((es.map StreamEntry.encode).flatten ++ r)⟩
    ∃ p' ctx', self.section ctx header tsh (hdr ++ sect.data ++ crc) = .ok (p', ctx') ∧
      ctx'.changeset.updates = ctx.changeset.updates ++
        List.zipWith FilterChange.insert (es.map (·.elementaryPid))
          (DemuxContext.constructEach ctx.constructor
            (List.zipWith (fun e i => .byStream e.streamType sect i) es
              (StreamEntry.infos r es))).1 ++
        ((List.range 0x1fff).filter fun n =>
          self.filtersRegistered.contains n && !decide (n ∈ es.map (·.elementaryPid.toNat))).map
            (fun n => .remove n.toUInt16) ∧
      ctx'.constructor = (DemuxContext.constructEach ctx.constructor
        (List.zipWith (fun e i => .byStream e.streamType sect i) es
          (StreamEntry.infos r es))).2 ∧
      p'.currentVersion = some tsh.version ∧ p'.filtersRegistered.length = 0x2000 ∧
      ∀ n, p'.filtersRegistered.contains n = (decide (n ∈ es.map (·.elementaryPid.toNat)) ||
        (decide (n = 0x1fff) && self.filtersRegistered.contains n)) := by
  intro sect
  rw [section_eq _ _ _ _ _ hhdr hcrc]
  exact newTable_spec self ctx header tsh pcr descs r l₁ l₂ es hpcr hdescs hr hlen hid

/-- `section_streams_spec` at a fresh processor and a PMT with no program descriptors and one
stream of type `0x1b` on PID `0x101`: one insertion, of the handler built for that stream, and
no removal. -/
theorem section_streams_spec_one_stream :
    ∃ p' ctx', PmtProcessor.new.section (⟨⟨[]⟩, ()⟩ : DemuxContext FilterRequest Unit) ⟨0x02⟩ ⟨0⟩
        (List.replicate 8 0 ++ [0xe1, 0x00, 0xf0, 0x00, 0x1b, 0xe1, 0x01, 0xf0, 0x00] ++
          List.replicate 4 0) = .ok (p', ctx') ∧
      ctx'.changeset.updates = [.insert 0x101 (.byStream 0x1b
        ⟨[0xe1, 0x00, 0xf0, 0x00, 0x1b, 0xe1, 0x01, 0xf0, 0x00]⟩ ⟨[0x1b, 0xe1, 0x01, 0xf0, 0x00]⟩)] ∧
      p'.filtersRegistered.contains 0x101 = true := by
  let e : StreamEntry := ⟨0x1b, 7, 0x101, by decide, 15, [], by decide⟩
  have he : e.encode = [0x1b, 0xe1, 0x01, 0xf0, 0x00] := by decide
  have hpid : e.elementaryPid.toNat = 0x101 := by decide
  obtain ⟨p', ctx', h, hcs, -, -, -, hbits⟩ :=
    section_streams_spec PmtProcessor.new ⟨⟨[]⟩, ()⟩ ⟨0x02⟩ ⟨0⟩ (List.replicate 8 0)
      (List.replicate 4 0) [0xe1, 0x00] [] [] 0xf0 0x00 [e] rfl rfl rfl rfl (.inl (by decide))
      (by simp [new]) rfl
  refine ⟨p', ctx', ?_, ?_, by simp only [hbits, List.map_cons, List.map_nil, hpid]; rfl⟩
  · rw [show [0xe1, 0x00, 0xf0, 0x00, 0x1b, 0xe1, 0x01, 0xf0, 0x00] = [0xe1, 0x00] ++ [0xf0, 0x00] ++
      [] ++ (([e].map StreamEntry.encode).flatten ++ []) by simp [he]]
    exact h
  · simp [hcs, new, StreamEntry.infos, he, DemuxContext.constructEach, StreamConstructor.construct]

/-- The loop body returns on every entry that `StreamInfoIter` yields, keeping `0x2000` bits. -/
theorem registerStream_ok (sect : PmtSection) (streamInfo : StreamInfo) (st : TableState F Ctor)
    (hinfo : 5 ≤ streamInfo.data.length) (hlen : st.filtersRegistered.length = 0x2000) :
    ∃ st', registerStream sect streamInfo st = .ok st' ∧
      st'.filtersRegistered.length = 0x2000 := by
  obtain ⟨st', hreg, -, -, -, hlen', -⟩ :=
    registerFilter_spec (u16Field streamInfo.data[1] streamInfo.data[2] 0x1f)
      (.byStream streamInfo.data[0] sect streamInfo) st
      (by rw [hlen]; exact u16Field_toNat_lt _ _)
  refine ⟨st', ?_, hlen'.trans hlen⟩
  rw [registerStream, StreamInfo.elementaryPid, readU16_of_lt _ (by omega) (by omega), ok_bind,
    StreamInfo.streamType, index_of_lt (by omega), ok_bind]
  exact hreg

/-- `section` on a PMT of id `0x02` whose body, between the 8 header bytes and the CRC, holds at
least four bytes: it returns normally when `program_info_length` fits in the body, and
otherwise panics in `streams` with the lengths its message prints. -/
theorem section_returns_unless_overrun (hdr crc rest : List UInt8) (b₀ b₁ b₂ b₃ : UInt8)
    (hhdr : hdr.length = 8) (hcrc : crc.length = 4)
    (hlen : self.filtersRegistered.length = 0x2000) (hid : header.tableId = 0x02) :
    ((u16Field b₂ b₃ 0x0f).toNat ≤ rest.length →
      ∃ r, self.section ctx header tsh (hdr ++ b₀ :: b₁ :: b₂ :: b₃ :: rest ++ crc) = .ok r) ∧
    (rest.length < (u16Field b₂ b₃ 0x0f).toNat →
      self.section ctx header tsh (hdr ++ b₀ :: b₁ :: b₂ :: b₃ :: rest ++ crc) =
        .error (.programInfoLengthOverrun (u16Field b₂ b₃ 0x0f) (rest.length + 4))) := by
  rw [section_eq _ _ _ _ _ hhdr hcrc, newTable]
  constructor
  · intro hfit
    -- The stream loop returns, and keeps `0x2000` bits.
    obtain ⟨st, hloop, hst⟩ := forIter_streams_ok (registerStream ⟨b₀ :: b₁ :: b₂ :: b₃ :: rest⟩)
      (fun st : TableState F Ctor => st.filtersRegistered.length = 0x2000)
      (fun item st hitem hst => registerStream_ok _ item st hitem hst)
      (rest.drop (u16Field b₂ b₃ 0x0f).toNat) ⟨ctx, [], self.filtersRegistered⟩ hlen
    have hloop : PmtSection.forStreams ⟨b₀ :: b₁ :: b₂ :: b₃ :: rest⟩
        (registerStream ⟨b₀ :: b₁ :: b₂ :: b₃ :: rest⟩) ⟨ctx, [], self.filtersRegistered⟩ =
          .ok st := by
      rw [PmtSection.forStreams, PmtSection.streams_cons, if_neg (by omega), ok_bind]
      exact hloop
    obtain ⟨r, hr⟩ := newTable_ok_of_loop hid hloop hst
    exact ⟨_, by rw [hr]; rfl⟩
  · intro hover
    have hloop : PmtSection.forStreams ⟨b₀ :: b₁ :: b₂ :: b₃ :: rest⟩
        (registerStream ⟨b₀ :: b₁ :: b₂ :: b₃ :: rest⟩) ⟨ctx, [], self.filtersRegistered⟩ =
          .error (.programInfoLengthOverrun (u16Field b₂ b₃ 0x0f) (rest.length + 4)) := by
      rw [PmtSection.forStreams, PmtSection.streams_cons, if_pos hover]
      rfl
    rw [newTable_of_error hid hloop]
    rfl

/-- A fresh processor given two 12-byte-headed PMT sections of id `0x02`: one whose
`program_info_length` of 5 runs past its 4-byte body, one whose body is empty. Both panic. -/
theorem section_panics_on_malformed_body :
    PmtProcessor.new.section (⟨⟨[]⟩, ()⟩ : DemuxContext FilterRequest Unit) ⟨0x02⟩ ⟨0⟩
        (List.replicate 8 0 ++ [0, 0, 0, 5] ++ List.replicate 4 0) =
      .error (.programInfoLengthOverrun 5 4) ∧
    PmtProcessor.new.section (⟨⟨[]⟩, ()⟩ : DemuxContext FilterRequest Unit) ⟨0x02⟩ ⟨0⟩
        (List.replicate 12 0) = .error (.indexOutOfBounds 2 0) :=
  ⟨rfl, rfl⟩

/-- `section_returns_unless_overrun` at a fresh processor: a body whose `program_info_length` of
1 fits returns, and a 4-byte body whose `program_info_length` of 5 runs past it panics in
`streams`. -/
theorem section_fit_and_overrun :
    (∃ r, PmtProcessor.new.section (⟨⟨[]⟩, ()⟩ : DemuxContext FilterRequest Unit) ⟨0x02⟩ ⟨0⟩
        (List.replicate 8 0 ++ [0, 0, 0, 1, 0] ++ List.replicate 4 0) = .ok r) ∧
    PmtProcessor.new.section (⟨⟨[]⟩, ()⟩ : DemuxContext FilterRequest Unit) ⟨0x02⟩ ⟨0⟩
        (List.replicate 8 0 ++ [0, 0, 0, 5] ++ List.replicate 4 0) =
      .error (.programInfoLengthOverrun 5 4) :=
  ⟨(section_returns_unless_overrun PmtProcessor.new ⟨⟨[]⟩, ()⟩ ⟨0x02⟩ ⟨0⟩ (List.replicate 8 0)
      (List.replicate 4 0) [0] 0 0 0 1 rfl rfl (by simp [new]) rfl).1 (by decide),
    (section_returns_unless_overrun PmtProcessor.new ⟨⟨[]⟩, ()⟩ ⟨0x02⟩ ⟨0⟩ (List.replicate 8 0)
      (List.replicate 4 0) [] 0 0 0 5 rfl rfl (by simp [new]) rfl).2 (by decide)⟩

/-- A processor that has registered only PID `0x1fff`, given a PMT of id `0x02` with no stream
entries: no edit is enqueued and `0x1fff` stays registered. -/
theorem pmt_keeps_0x1fff :
    ∃ p' ctx', (⟨some 0, ⟨(FixedBitSet.withCapacity 0x2000).bits.set 0x1fff true⟩⟩ :
        PmtProcessor).section ctx ⟨0x02⟩ tsh
          (List.replicate 8 0 ++ [0xe0, 0x00, 0xf0, 0x00] ++ List.replicate 4 0) = .ok (p', ctx') ∧
      ctx'.changeset.updates = ctx.changeset.updates ∧
      p'.filtersRegistered.contains 0x1fff = true := by
  have hlt : 0x1fff < (FixedBitSet.withCapacity 0x2000).length := by simp
  obtain ⟨p', ctx', h, hcs, -, -, -, hbits⟩ :=
    newTable_spec ⟨some 0, ⟨(FixedBitSet.withCapacity 0x2000).bits.set 0x1fff true⟩⟩ ctx ⟨0x02⟩
      tsh [0xe0, 0x00] [] [] 0xf0 0x00 [] rfl rfl (.inl (by decide)) (by simp) rfl
  refine ⟨p', ctx', ?_, ?_, by simp [hbits, hlt]⟩
  · rw [section_eq _ _ _ _ _ (List.length_replicate _ _) (List.length_replicate _ _)]
    exact h
  rw [hcs, List.filter_eq_nil_iff.2 fun n hn => ?_]
  · simp
  · have : n ≠ 0x1fff := by simp at hn; omega
    simp [hlt, this, Ne.symm this]

/-! ## What the constructor is asked

The application reads a `ByStream` request through the accessors of its section and of its
stream entry. Observed through a `Recording` constructor, every request `section` hands over is
one whose section passed `streams()` and whose entry `StreamInfoIter` yielded, so each of those
accessors stays within its bytes, whatever the bytes of the section. -/

/-- The requests a recording constructor was handed after `init`: `ByStream` requests whose
section and stream entry have all their accessors in bounds. -/
def RecordedInBounds (init : List FilterRequest) (c : Recording Ctor) : Prop :=
  ∃ reqs, c.requests = init ++ reqs ∧ ∀ req ∈ reqs, ∃ streamType sect info,
    req = .byStream streamType sect info ∧ sect.accessorsInBounds ∧ info.accessorsInBounds

theorem recordedInBounds_self (c : Recording Ctor) : RecordedInBounds c.requests c :=
  ⟨[], (List.append_nil _).symm, fun _ h => nomatch h⟩

/-- Asking for a `ByStream` request whose accessors are in bounds keeps the invariant. -/
theorem RecordedInBounds.construct {init : List FilterRequest} {c : Recording Ctor}
    (hc : RecordedInBounds init c) {t : UInt8} {sect : PmtSection} {info : StreamInfo}
    (hsect : sect.accessorsInBounds) (hinfo : info.accessorsInBounds) :
    RecordedInBounds init (StreamConstructor.construct c (.byStream t sect info)).2 := by
  obtain ⟨reqs, hreqs, hgood⟩ := hc
  refine ⟨reqs ++ [.byStream t sect info], by
    rw [Recording.requests_construct, hreqs, List.append_assoc], fun req hreq => ?_⟩
  rcases List.mem_append.1 hreq with hreq | hreq
  · exact hgood req hreq
  · exact ⟨t, sect, info, List.eq_of_mem_singleton hreq, hsect, hinfo⟩

/-- A turn of the stream loop that returns has asked the constructor for the entry's `ByStream`
request. -/
theorem constructor_registerStream {sect : PmtSection} {info : StreamInfo}
    {st st' : TableState F Ctor} (h : registerStream sect info st = .ok st') :
    ∃ t, st'.ctx.constructor =
      (StreamConstructor.construct st.ctx.constructor (.byStream t sect info)).2 := by
  obtain ⟨_, -, h⟩ := bind_eq_ok.1 h
  obtain ⟨t, -, h⟩ := bind_eq_ok.1 h
  exact ⟨t, constructor_registerFilter h⟩

/-- The stream loop over a section whose accessors are in bounds keeps the invariant: each entry
it asks for was yielded by `StreamInfoIter::next`. -/
theorem recordedInBounds_forIter {sect : PmtSection} (hsect : sect.accessorsInBounds)
    {init : List FilterRequest} {buf : List UInt8} {st st' : TableState F (Recording Ctor)}
    (h : forIter StreamInfoIter.next StreamInfoIter.next_progress (registerStream sect) buf st =
      .ok st') (hst : RecordedInBounds init st.ctx.constructor) :
    RecordedInBounds init st'.ctx.constructor :=
  forIter_invariant_of_next (fun s : TableState F (Recording Ctor) =>
      RecordedInBounds init s.ctx.constructor)
    (fun _ _ _ _ _ hnext hs hbody => by
      obtain ⟨t, hctor⟩ := constructor_registerStream hbody
      exact hctor ▸ hs.construct hsect (StreamInfoIter.accessorsInBounds_of_next hnext))
    hst h

/-- A section that returns keeps the invariant, on any bytes and in any processor state. -/
theorem recordedInBounds_section {init : List FilterRequest} {p p' : PmtProcessor}
    {ctx ctx' : DemuxContext F (Recording Ctor)} {header : SectionCommonHeader}
    {tsh : TableSyntaxHeader} {data : List UInt8} (hctx : RecordedInBounds init ctx.constructor)
    (h : p.section ctx header tsh data = .ok (p', ctx')) :
    RecordedInBounds init ctx'.constructor := by
  obtain ⟨body, -, h⟩ := bind_eq_ok.1 h
  obtain ⟨r, hnew, h⟩ := bind_eq_ok.1 h
  rcases newTable_cases hnew with rfl | ⟨st₁, st₂, hloop, hsweep, rfl⟩
  · cases h
    exact hctx
  · cases h
    obtain ⟨buf, hstreams, hloop⟩ := bind_eq_ok.1 hloop
    exact (constructor_removeUnseen hsweep).symm ▸
      recordedInBounds_forIter (PmtSection.accessorsInBounds_of_streams hstreams) hloop hctx

/-- Every request that `section` hands the constructor, on any bytes and in any processor state,
is a `ByStream` request whose section and stream entry have all their accessors in bounds. -/
theorem section_requests_in_bounds {p p' : PmtProcessor}
    {ctx ctx' : DemuxContext F (Recording Ctor)} {header : SectionCommonHeader}
    {tsh : TableSyntaxHeader} {data : List UInt8}
    (h : p.section ctx header tsh data = .ok (p', ctx')) :
    ∃ reqs, ctx'.constructor.requests = ctx.constructor.requests ++ reqs ∧
      ∀ req ∈ reqs, ∃ streamType sect info, req = .byStream streamType sect info ∧
        sect.accessorsInBounds ∧ info.accessorsInBounds :=
  recordedInBounds_section (recordedInBounds_self _) h

/-- A fresh processor, a recording constructor and a PMT with no program descriptors and one
stream of type `0x1b` on PID `0x101`: `section` returns, having asked for that stream. -/
theorem section_one_stream_recorded :
    ∃ p' ctx', PmtProcessor.new.section
        (⟨⟨[]⟩, ⟨(), []⟩⟩ : DemuxContext FilterRequest (Recording Unit)) ⟨0x02⟩ ⟨0⟩
        (List.replicate 8 0 ++ [0xe1, 0x00, 0xf0, 0x00, 0x1b, 0xe1, 0x01, 0xf0, 0x00] ++
          List.replicate 4 0) = .ok (p', ctx') ∧
      ctx'.constructor.requests = [.byStream 0x1b
        ⟨[0xe1, 0x00, 0xf0, 0x00, 0x1b, 0xe1, 0x01, 0xf0, 0x00]⟩ ⟨[0x1b, 0xe1, 0x01, 0xf0, 0x00]⟩] := by
  let e : StreamEntry := ⟨0x1b, 7, 0x101, by decide, 15, [], by decide⟩
  have he : e.encode = [0x1b, 0xe1, 0x01, 0xf0, 0x00] := by decide
  obtain ⟨p', ctx', h, -, hctor, -⟩ :=
    newTable_spec PmtProcessor.new (⟨⟨[]⟩, ⟨(), []⟩⟩ : DemuxContext FilterRequest (Recording Unit))
      ⟨0x02⟩ ⟨0⟩ [0xe1, 0x00] [] [] 0xf0 0x00 [e] rfl rfl (.inl (by decide)) (by simp [new]) rfl
  refine ⟨p', ctx', ?_, by
    simp [hctor, StreamEntry.infos, he, DemuxContext.constructEach, StreamConstructor.construct]⟩
  rw [section_eq _ _ _ _ _ (List.length_replicate 8 0) (List.length_replicate 4 0),
    show [0xe1, 0x00, 0xf0, 0x00, 0x1b, 0xe1, 0x01, 0xf0, 0x00] =
      [0xe1, 0x00] ++ [0xf0, 0x00] ++ [] ++ (([e].map StreamEntry.encode).flatten ++ []) by
        simp [he]]
  exact h

/-- `section_requests_in_bounds` at a fresh processor and a PMT with one stream of type `0x1b`
on PID `0x101`: the one request recorded has its accessors in bounds. -/
theorem section_requests_in_bounds_one_stream :
    ∃ p' ctx', PmtProcessor.new.section
        (⟨⟨[]⟩, ⟨(), []⟩⟩ : DemuxContext FilterRequest (Recording Unit)) ⟨0x02⟩ ⟨0⟩
        (List.replicate 8 0 ++ [0xe1, 0x00, 0xf0, 0x00, 0x1b, 0xe1, 0x01, 0xf0, 0x00] ++
          List.replicate 4 0) = .ok (p', ctx') ∧
      ctx'.constructor.requests = [.byStream 0x1b
        ⟨[0xe1, 0x00, 0xf0, 0x00, 0x1b, 0xe1, 0x01, 0xf0, 0x00]⟩ ⟨[0x1b, 0xe1, 0x01, 0xf0, 0x00]⟩] ∧
      PmtSection.accessorsInBounds ⟨[0xe1, 0x00, 0xf0, 0x00, 0x1b, 0xe1, 0x01, 0xf0, 0x00]⟩ ∧
      StreamInfo.accessorsInBounds ⟨[0x1b, 0xe1, 0x01, 0xf0, 0x00]⟩ := by
  obtain ⟨p', ctx', hsec, hreqs⟩ := section_one_stream_recorded
  obtain ⟨reqs, hr, hgood⟩ := section_requests_in_bounds hsec
  obtain rfl : reqs = _ := hr.symm.trans hreqs
  obtain ⟨t, sect, info, heq, hsect, hinfo⟩ := hgood _ (List.mem_singleton_self _)
  cases heq
  exact ⟨p', ctx', hsec, hreqs, hsect, hinfo⟩

/-! ## Runs -/

/-- The processor fed `sections` in turn, each with its two headers, the context's changeset
applied to the filter table `filters` after each one, as `Demultiplex::push` applies it after
the packet that completes a section. -/
def run (self : PmtProcessor) (ctx : DemuxContext F Ctor) (filters : Filters F)
    (sections : List (SectionCommonHeader × TableSyntaxHeader × List UInt8)) :
    Except Panic (PmtProcessor × DemuxContext F Ctor × Filters F) :=
  runSections PmtProcessor.section self ctx filters sections

/-- A PMT to feed the processor, over the grammar of its body: the 8 header bytes, the two
`pcr_pid` bytes, the two `program_info_length` bytes and as many descriptor bytes, the encoded
stream entries, a remainder that ends the iteration, and the 4 CRC bytes. -/
structure PmtTable where
  /-- The table syntax header, with the version. -/
  tsh : TableSyntaxHeader
  /-- The section's 8 bytes before the body. -/
  hdr : List UInt8
  /-- The two `pcr_pid` bytes. -/
  pcr : List UInt8
  /-- The high byte of `program_info_length`. -/
  infoHi : UInt8
  /-- The low byte of `program_info_length`. -/
  infoLo : UInt8
  /-- The program descriptors. -/
  descs : List UInt8
  /-- The stream entries. -/
  es : List StreamEntry
  /-- The bytes after the last entry. -/
  rest : List UInt8
  /-- The 4 CRC bytes. -/
  crc : List UInt8
  hdr_length : hdr.length = 8
  crc_length : crc.length = 4
  pcr_length : pcr.length = 2
  descs_length : descs.length = (u16Field infoHi infoLo 0x0f).toNat
  rest_ends : rest.length < 5 ∨
    rest.length < 5 + (u16Field (rest.getD 3 0) (rest.getD 4 0) 0x0f).toNat

/-- The body of a `PmtTable`. -/
def PmtTable.sect (t : PmtTable) : PmtSection :=
  ⟨t.pcr ++ [t.infoHi, t.infoLo] ++ t.descs ++ ((t.es.map StreamEntry.encode).flatten ++ t.rest)⟩

/-- The section a `PmtTable` is, with table id `0x02`. -/
def PmtTable.toSection (t : PmtTable) : SectionCommonHeader × TableSyntaxHeader × List UInt8 :=
  (⟨0x02⟩, t.tsh, t.hdr ++ t.sect.data ++ t.crc)

/-- The entries a PMT registers: each stream's elementary PID, with the request for its stream
type and its view of the body. -/
def PmtTable.entries (t : PmtTable) : List (UInt16 × FilterRequest) :=
  List.zipWith (fun e i => (e.elementaryPid, .byStream e.streamType t.sect i)) t.es
    (StreamEntry.infos t.rest t.es)

/-- One PMT, its changeset applied, keeps the processor's registered PIDs and the filter table
in sync: with the new table's entries. -/
theorem inSync_section {prev : List (UInt16 × FilterRequest)} {p : PmtProcessor}
    {T : Filters FilterRequest} (hs : InSync prev p.filtersRegistered T)
    (ctx : DemuxContext FilterRequest Unit) (hctx : ctx.changeset.updates = []) (t : PmtTable) :
    ∃ p' ctx', p.section ctx t.toSection.1 t.toSection.2.1 t.toSection.2.2 = .ok (p', ctx') ∧
      InSync t.entries p'.filtersRegistered (ctx'.changeset.drain T).2 := by
  obtain ⟨bits', ctx', h, hs'⟩ := hs.newTable ctx hctx t.entries
    (toNat_lt_of_mem_streams t.sect t.rest t.es)
    (fun st => show t.sect.forStreams (registerStream t.sect) st = _ from
      forStreams_registerStream t.pcr t.descs t.rest t.infoHi t.infoLo t.es t.pcr_length
        t.descs_length t.rest_ends st)
    (show t.toSection.1.tableId = 0x02 from rfl) p.currentVersion t.toSection.2.1
  exact ⟨⟨_, bits'⟩, ctx',
    (section_eq _ _ _ _ _ t.hdr_length t.crc_length).trans (by rw [newTable, h]; rfl), hs'⟩

/-- Along a run of PMT sections that returns, on any bytes and from any processor state, every
request the constructor is handed is a `ByStream` request whose section and stream entry have
all their accessors in bounds. -/
theorem run_requests_in_bounds {p p' : PmtProcessor} {ctx ctx' : DemuxContext F (Recording Ctor)}
    {filters filters' : Filters F}
    {sections : List (SectionCommonHeader × TableSyntaxHeader × List UInt8)}
    (h : p.run ctx filters sections = .ok (p', ctx', filters')) :
    ∃ reqs, ctx'.constructor.requests = ctx.constructor.requests ++ reqs ∧
      ∀ req ∈ reqs, ∃ streamType sect info, req = .byStream streamType sect info ∧
        sect.accessorsInBounds ∧ info.accessorsInBounds :=
  runSections_constructor (RecordedInBounds ctx.constructor.requests)
    (fun _ _ _ _ _ _ _ hc hsec => recordedInBounds_section hc hsec) (recordedInBounds_self _) h

/-- `run_requests_in_bounds` on a run of one PMT with one stream of type `0x1b` on PID `0x101`:
the one request recorded has its accessors in bounds. -/
theorem run_requests_in_bounds_one_stream :
    ∃ p' ctx' filters', PmtProcessor.new.run
        (⟨⟨[]⟩, ⟨(), []⟩⟩ : DemuxContext FilterRequest (Recording Unit)) Filters.new
        [(⟨0x02⟩, ⟨0⟩, List.replicate 8 0 ++ [0xe1, 0x00, 0xf0, 0x00, 0x1b, 0xe1, 0x01, 0xf0, 0x00] ++
          List.replicate 4 0)] = .ok (p', ctx', filters') ∧
      ctx'.constructor.requests = [.byStream 0x1b
        ⟨[0xe1, 0x00, 0xf0, 0x00, 0x1b, 0xe1, 0x01, 0xf0, 0x00]⟩ ⟨[0x1b, 0xe1, 0x01, 0xf0, 0x00]⟩] ∧
      PmtSection.accessorsInBounds ⟨[0xe1, 0x00, 0xf0, 0x00, 0x1b, 0xe1, 0x01, 0xf0, 0x00]⟩ ∧
      StreamInfo.accessorsInBounds ⟨[0x1b, 0xe1, 0x01, 0xf0, 0x00]⟩ := by
  obtain ⟨p', ctx', hsec, hreqs⟩ := section_one_stream_recorded
  have hrun := runSections_cons Filters.new [] hsec
  obtain ⟨reqs, hr, hgood⟩ := run_requests_in_bounds hrun
  obtain rfl : reqs = _ := hr.symm.trans hreqs
  obtain ⟨t, sect, info, heq, hsect, hinfo⟩ := hgood _ (List.mem_singleton_self _)
  cases heq
  exact ⟨p', _, _, hrun, hreqs, hsect, hinfo⟩

/-! ## Runs over any sections -/

/-- The entry the stream loop registers for `streamInfo`: its elementary PID, with its `ByStream`
request. -/
def streamEntry (sect : PmtSection) (streamInfo : StreamInfo) :
    Except Panic (UInt16 × FilterRequest) := do
  let pid ← streamInfo.elementaryPid
  let streamType ← streamInfo.streamType
  .ok (pid, .byStream streamType sect streamInfo)

/-- The entries `new_table` registers for a PMT section's bytes, in loop order. -/
def sectionEntries (data : List UInt8) : Except Panic (List (UInt16 × FilterRequest)) := do
  let sect : PmtSection := ⟨← sectionBody data⟩
  sect.forStreams (fun streamInfo es => do .ok (es ++ [← streamEntry sect streamInfo])) []

/-- Over the encoded entries `es`, the entries read are each entry's PID with the request for
its view. -/
theorem foldlM_streamEntry (sect : PmtSection) (r : List UInt8) (es : List StreamEntry)
    (acc : List (UInt16 × FilterRequest)) :
    (StreamEntry.infos r es).foldlM (fun acc i => do .ok (acc ++ [← streamEntry sect i])) acc =
      .ok (acc ++ List.zipWith (fun e i => (e.elementaryPid, FilterRequest.byStream e.streamType sect i))
        es (StreamEntry.infos r es)) := by
  induction es generalizing acc with
  | nil => rw [StreamEntry.infos, List.foldlM_nil, List.zipWith_nil_left, List.append_nil]; rfl
  | cons e es ih =>
    rw [StreamEntry.infos, List.foldlM_cons, streamEntry, StreamEntry.elementaryPid_encode, ok_bind,
      StreamEntry.streamType_encode, ok_bind, ok_bind, ok_bind, ih, List.zipWith_cons_cons,
      List.append_assoc]
    rfl

theorem sectionEntries_toSection (t : PmtTable) :
    sectionEntries t.toSection.2.2 = .ok t.entries := by
  rw [sectionEntries, PmtTable.toSection, sectionBody_append _ t.hdr_length t.crc_length, ok_bind,
    show (⟨t.sect.data⟩ : PmtSection) = t.sect from rfl, PmtSection.forStreams,
    show t.sect.streams = _ from PmtSection.streams_append t.infoHi t.infoLo _ t.pcr_length
      t.descs_length, ok_bind, forIter_streams _ t.es (StreamInfoIter.next_of_short t.rest_ends),
    foldlM_streamEntry]
  rfl

/-- A section of id `0x02` that returns is a `PmtTable`: its `program_info_length` fits, and what
follows is, by `exists_entries`, encoded entries and a remainder that ends the iteration. -/
theorem exists_pmtTable {p : PmtProcessor} {ctx : DemuxContext FilterRequest Unit}
    {header : SectionCommonHeader} {tsh : TableSyntaxHeader} {data : List UInt8}
    {r : PmtProcessor × DemuxContext FilterRequest Unit} (hid : header.tableId = 0x02)
    (h : p.section ctx header tsh data = .ok r) :
    ∃ t : PmtTable, t.toSection = (header, tsh, data) := by
  obtain ⟨body, hbody, h⟩ := bind_eq_ok.1 h
  obtain ⟨buf, hstreams⟩ : ∃ buf, PmtSection.streams ⟨body⟩ = .ok buf := by
    cases hs : PmtSection.streams ⟨body⟩ with
    | ok buf => exact ⟨buf, rfl⟩
    | error e =>
      have he : PmtSection.forStreams ⟨body⟩ (registerStream ⟨body⟩)
          (⟨ctx, [], p.filtersRegistered⟩ : TableState FilterRequest Unit) = .error e := by
        rw [PmtSection.forStreams, hs]; rfl
      rw [newTable, Mpeg2TsReader.newTable_of_error hid he] at h
      cases h
  obtain ⟨hdr, crc, hhdr, hcrc, rfl⟩ := exists_of_sectionBody hbody
  obtain ⟨_⟩ := header
  subst hid
  match body, hstreams with
  | [], h | [_], h | [_, _], h | [_, _, _], h => cases h
  | b₀ :: b₁ :: b₂ :: b₃ :: rest, hstreams =>
    rw [PmtSection.streams_cons] at hstreams
    split at hstreams
    · cases hstreams
    · rename_i hfit
      obtain ⟨es, r, hes, hr⟩ :=
        StreamEntry.exists_entries (rest.drop (u16Field b₂ b₃ 0x0f).toNat)
      refine ⟨⟨tsh, hdr, [b₀, b₁], b₂, b₃, rest.take (u16Field b₂ b₃ 0x0f).toNat, es, r, crc, hhdr,
        hcrc, rfl, by rw [List.length_take]; omega, hr⟩, ?_⟩
      simp only [PmtTable.toSection, PmtTable.sect, ← hes, List.append_assoc, List.cons_append,
        List.nil_append, List.take_append_drop]

/-- A section of another id that returns leaves the processor and the context as they were. -/
theorem eq_of_section_of_ne {data : List UInt8} {r : PmtProcessor × DemuxContext F Ctor}
    (hid : header.tableId ≠ 0x02) (h : self.section ctx header tsh data = .ok r) :
    r = (self, ctx) := by
  obtain ⟨_, -, h⟩ := bind_eq_ok.1 h
  rw [newTable_of_ne _ _ _ _ _ hid] at h
  exact (Except.ok.inj h).symm

/-- The PMT processor is described by its tables. -/
theorem tableProcessor :
    TableProcessor PmtProcessor.section PmtProcessor.filtersRegistered 0x02 sectionEntries
      PmtTable.toSection PmtTable.entries :=
  ⟨fun _ _ _ _ _ _ hid h => exists_pmtTable hid h, sectionEntries_toSection,
    fun _ _ _ ctx t hs hctx => inSync_section hs ctx hctx t,
    fun _ _ _ _ _ _ hid h => eq_of_section_of_ne _ _ _ _ hid h⟩

/-- From a fresh processor and an empty table, along any run of sections that returns, whatever
their ids and bytes: the last-table model returns too, and below `0x1fff` the registered PIDs
are the elementary PIDs of the last section of id `0x02`, and the filter table holds, at each,
the request built for the last stream entry that lists it, and nothing at the others. -/
theorem run_new_streams_in_sync_of_ok
    {sections : List (SectionCommonHeader × TableSyntaxHeader × List UInt8)} {p : PmtProcessor}
    {ctx : DemuxContext FilterRequest Unit} {T : Filters FilterRequest}
    (h : run PmtProcessor.new (⟨⟨[]⟩, ()⟩ : DemuxContext FilterRequest Unit) Filters.new sections =
      .ok (p, ctx, T)) :
    ∃ es, lastEntries 0x02 sectionEntries [] sections = .ok es ∧
      ∀ pid : UInt16, pid.toNat < 0x1fff →
        (p.filtersRegistered.contains pid.toNat = true ↔ pid ∈ es.map Prod.fst) ∧
        T.get pid = tableOf es pid := by
  obtain ⟨es, hes, hs⟩ := tableProcessor.runSections_inSync
    (show InSync [] PmtProcessor.new.filtersRegistered Filters.new from inSync_withCapacity) rfl h
  exact ⟨es, hes, fun pid hpid =>
    ⟨by rw [hs.registered pid hpid, decide_eq_true_iff], hs.table pid hpid⟩⟩

/-- `run_new_streams_in_sync_of_ok` on a PMT with one stream of type `0x1b` on PID `0x101`,
followed by a section of another id: PID `0x101` is registered and holds the request built for
that stream. -/
theorem run_new_streams_in_sync_of_ok_two_sections :
    ∃ p ctx T, run PmtProcessor.new (⟨⟨[]⟩, ()⟩ : DemuxContext FilterRequest Unit) Filters.new
        [(⟨0x02⟩, ⟨0⟩, List.replicate 8 0 ++ [0xe1, 0x00, 0xf0, 0x00, 0x1b, 0xe1, 0x01, 0xf0, 0x00] ++
          List.replicate 4 0), (⟨0x42⟩, ⟨1⟩, List.replicate 12 0)] = .ok (p, ctx, T) ∧
      p.filtersRegistered.contains 0x101 = true ∧
      T.get 0x101 = some (.byStream 0x1b ⟨[0xe1, 0x00, 0xf0, 0x00, 0x1b, 0xe1, 0x01, 0xf0, 0x00]⟩
        ⟨[0x1b, 0xe1, 0x01, 0xf0, 0x00]⟩) := by
  let e : StreamEntry := ⟨0x1b, 7, 0x101, by decide, 15, [], by decide⟩
  have he : e.encode = [0x1b, 0xe1, 0x01, 0xf0, 0x00] := by decide
  let t : PmtTable := ⟨⟨0⟩, List.replicate 8 0, [0xe1, 0x00], 0xf0, 0x00, [], [e], [],
    List.replicate 4 0, rfl, rfl, rfl, rfl, .inl (by decide)⟩
  have hsect : t.sect = ⟨[0xe1, 0x00, 0xf0, 0x00, 0x1b, 0xe1, 0x01, 0xf0, 0x00]⟩ := by
    simp [t, PmtTable.sect, he]
  have hdata : t.toSection.2.2 = List.replicate 8 0 ++
      [0xe1, 0x00, 0xf0, 0x00, 0x1b, 0xe1, 0x01, 0xf0, 0x00] ++ List.replicate 4 0 := by
    rw [PmtTable.toSection, hsect]
  have hent : t.entries = [(0x101, .byStream 0x1b ⟨[0xe1, 0x00, 0xf0, 0x00, 0x1b, 0xe1, 0x01,
      0xf0, 0x00]⟩ ⟨[0x1b, 0xe1, 0x01, 0xf0, 0x00]⟩)] := by
    simp only [PmtTable.entries, hsect]
    simp [t, StreamEntry.infos, he]
  obtain ⟨p₁, ctx₁, h₁, -⟩ :=
    newTable_spec PmtProcessor.new (⟨⟨[]⟩, ()⟩ : DemuxContext FilterRequest Unit) ⟨0x02⟩ ⟨0⟩
      [0xe1, 0x00] [] [] 0xf0 0x00 [e] rfl rfl (.inl (by decide)) (by simp [new]) rfl
  have h₁ : PmtProcessor.new.section (⟨⟨[]⟩, ()⟩ : DemuxContext FilterRequest Unit) ⟨0x02⟩ ⟨0⟩
      t.toSection.2.2 = .ok (p₁, ctx₁) := (section_eq _ _ _ _ _ t.hdr_length t.crc_length).trans h₁
  rw [hdata] at h₁
  have h₂ : p₁.section { ctx₁ with changeset := ⟨[]⟩ } ⟨0x42⟩ ⟨1⟩ (List.replicate 12 0) =
      .ok (p₁, { ctx₁ with changeset := ⟨[]⟩ }) :=
    (section_eq _ _ _ _ [] (List.length_replicate 8 0) (List.length_replicate 4 0)).trans
      (newTable_of_ne _ _ _ _ _ (by decide))
  have hrun := (runSections_cons Filters.new _ h₁).trans (runSections_cons _ [] h₂)
  obtain ⟨es, hes, hs⟩ := run_new_streams_in_sync_of_ok hrun
  rw [lastEntries, if_pos rfl, ← hdata, sectionEntries_toSection t, ok_bind, lastEntries,
    if_neg (by decide), lastEntries, hent] at hes
  cases hes
  obtain ⟨hreg, hget⟩ := hs 0x101 (by decide)
  exact ⟨_, _, _, hrun, hreg.2 (by decide), hget.trans (by decide)⟩

end PmtProcessor

end Mpeg2TsReader

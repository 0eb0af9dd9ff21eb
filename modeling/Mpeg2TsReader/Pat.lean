import Mpeg2TsReader.NewTable

/-!
# The PAT processor

`PatProcessor` handles the sections of the Program Association Table. For every program the
table lists it asks the constructor for a PMT handler and enqueues its insertion at the PMT's
PID; then it enqueues the removal of the handlers at the PIDs an earlier table listed and this
one does not.

* `section_eq`: `section` hands `new_table` the bytes between the two headers and the CRC;
* `section_records_spec`: over a body of 4-byte records, the edits `section` enqueues, in
  order, and the PIDs registered afterwards;
* `section_ok_iff`: `section` returns normally exactly when the body is a whole number of
  records; a trailing partial record reaches `split_at(4)` past the end of the slice;
* `run_bitSet_in_range`: along every run from a processor built by `new`, every bit-set access
  is in range, and the processor keeps its `0x2000` bits;
* `inSync_section`, `run_new_in_sync`: along a run of PATs, below `0x1fff`, the registered PIDs
  and the filter table are those the last table describes (`tableOf`);
* `run_new_in_sync_of_ok`: the same along any run of raw sections that returns, of any ids and
  bytes: the processor refines the last-table model (`lastEntries`), in which only the last
  section of id `0x00` counts.

The sweep of `new_table` stops below `0x1fff` (`diff_spec`): once a table lists PID `0x1fff`, it
stays registered, and its handler stays installed, whatever the later tables list.
-/

namespace Mpeg2TsReader

/-- `PatProcessor`, without its `PhantomData`. -/
structure PatProcessor where
  /-- `current_version`: the version of the last table processed. -/
  currentVersion : Option UInt8
  /-- `filters_registered`: the PIDs at which this processor has installed a PMT handler. -/
  filtersRegistered : FixedBitSet
  deriving DecidableEq, Repr

namespace PatProcessor

variable {F Ctor : Type} [StreamConstructor Ctor F]

/-- `PatProcessor::new`. -/
def new : PatProcessor := ⟨none, FixedBitSet.withCapacity 0x2000⟩

/-- The body of `for desc in sect.programs()` in `new_table`: a PMT handler for the record's
program, at the record's PID. -/
def registerProgram (desc : ProgramDescriptor) (st : TableState F Ctor) :
    Except Panic (TableState F Ctor) :=
  registerFilter desc.pid (.pmt desc.pid desc.programNumber) st

/-- `PatProcessor::new_table`. -/
def newTable (self : PatProcessor) (ctx : DemuxContext F Ctor) (header : SectionCommonHeader)
    (tableSyntaxHeader : TableSyntaxHeader) (sect : PatSection) :
    Except Panic (PatProcessor × DemuxContext F Ctor) := do
  let (currentVersion, filtersRegistered, ctx) ← Mpeg2TsReader.newTable 0x00
    (sect.forPrograms registerProgram) self.currentVersion self.filtersRegistered ctx header
    tableSyntaxHeader
  .ok (⟨currentVersion, filtersRegistered⟩, ctx)

/-- `PatProcessor::section`: the table's body lies between the two headers and the 4-byte
CRC. -/
def «section» (self : PatProcessor) (ctx : DemuxContext F Ctor) (header : SectionCommonHeader)
    (tableSyntaxHeader : TableSyntaxHeader) (data : List UInt8) :
    Except Panic (PatProcessor × DemuxContext F Ctor) := do
  self.newTable ctx header tableSyntaxHeader ⟨← sectionBody data⟩

variable (self : PatProcessor) (ctx : DemuxContext F Ctor) (header : SectionCommonHeader)
  (tsh : TableSyntaxHeader)

/-- `section` runs `new_table` on the bytes between the 8 header bytes and the CRC. -/
theorem section_eq {hdr crc : List UInt8} (body : List UInt8) (hhdr : hdr.length = 8)
    (hcrc : crc.length = 4) :
    self.section ctx header tsh (hdr ++ body ++ crc) = self.newTable ctx header tsh ⟨body⟩ := by
  rw [«section», sectionBody_append body hhdr hcrc]
  rfl

/-- A table of another id leaves the processor and the context as they were. -/
theorem newTable_of_ne (sect : PatSection) (hid : header.tableId ≠ 0x00) :
    self.newTable ctx header tsh sect = .ok (self, ctx) := by
  rw [newTable, Mpeg2TsReader.newTable_of_ne hid]
  rfl

/-- Over a body of 4-byte records, the loop of `new_table` is the register loop over the
records' PIDs and PMT requests. -/
theorem forPrograms_registerProgram (recs : List ProgramDescriptor) (st : TableState F Ctor) :
    PatSection.forPrograms ⟨(recs.map (·.data)).flatten⟩ registerProgram st =
      (recs.map fun d => (d.pid, FilterRequest.pmt d.pid d.programNumber)).foldlM
        (fun st e => registerFilter e.1 e.2 st) st := by
  rw [PatSection.forPrograms, forIter_programs, List.foldlM_map]
  rfl

/-- `new_table` on a PAT of id `0x00` made of the records `recs`: the insertions of one PMT
handler per record, in order, then the removals, in ascending order, of the registered PIDs
below `0x1fff` that no record lists. -/
theorem newTable_spec (recs : List ProgramDescriptor)
    (hlen : self.filtersRegistered.length = 0x2000) (hid : header.tableId = 0x00) :
    ∃ p' ctx', self.newTable ctx header tsh ⟨(recs.map (·.data)).flatten⟩ = .ok (p', ctx') ∧
      ctx'.changeset.updates = ctx.changeset.updates ++
        List.zipWith FilterChange.insert (recs.map (·.pid))
          (DemuxContext.constructEach ctx.constructor
            (recs.map fun d => .pmt d.pid d.programNumber)).1 ++
        ((List.range 0x1fff).filter fun n =>
          self.filtersRegistered.contains n && !decide (n ∈ recs.map (·.pid.toNat))).map
            (fun n => .remove n.toUInt16) ∧
      ctx'.constructor = (DemuxContext.constructEach ctx.constructor
        (recs.map fun d => .pmt d.pid d.programNumber)).2 ∧
      p'.currentVersion = some tsh.version ∧ p'.filtersRegistered.length = 0x2000 ∧
      ∀ n, p'.filtersRegistered.contains n = (decide (n ∈ recs.map (·.pid.toNat)) ||
        (decide (n = 0x1fff) && self.filtersRegistered.contains n)) := by
  obtain ⟨st', hrun, hcs, hctor, hlen', hbits⟩ :=
    diff_spec (recs.map fun d => (d.pid, .pmt d.pid d.programNumber)) ctx
      self.filtersRegistered hlen fun _ he => by
        obtain ⟨d, -, rfl⟩ := List.mem_map.1 he
        exact d.pid_toNat_lt
  refine ⟨⟨some tsh.version, st'.filtersRegistered⟩, st'.ctx, ?_, ?_, ?_, rfl, hlen', ?_⟩
  · rw [newTable, Mpeg2TsReader.newTable_of_ok hid
      ((congrArg (· >>= removeUnseen) (forPrograms_registerProgram recs _)).trans hrun)]
    rfl
  · simpa only [List.mem_map, List.append_assoc, List.map_map, Function.comp_apply] using hcs
  · simpa only [List.map_map] using hctor
  · simpa only [List.mem_map, List.map_map, Function.comp_apply] using hbits

/-- `section` on a PAT of id `0x00` whose body, between the 8 header bytes and the CRC, is made
of the 4-byte records `recs`: the insertions of one PMT handler per record, in order, then the
removals, in ascending order, of the registered PIDs below `0x1fff` that no record lists, and
nothing else. Afterwards the registered PIDs are those the records list, and `0x1fff` if it was
registered before. -/
theorem section_records_spec (hdr crc : List UInt8) (recs : List ProgramDescriptor)
    (hhdr : hdr.length = 8) (hcrc : crc.length = 4)
    (hlen : self.filtersRegistered.length = 0x2000) (hid : header.tableId = 0x00) :
    ∃ p' ctx', self.section ctx header tsh (hdr ++ (recs.map (·.data)).flatten ++ crc) =
        .ok (p', ctx') ∧
      ctx'.changeset.updates = ctx.changeset.updates ++
        List.zipWith FilterChange.insert (recs.map (·.pid))
          (DemuxContext.constructEach ctx.constructor
            (recs.map fun d => .pmt d.pid d.programNumber)).1 ++
        ((List.range 0x1fff).filter fun n =>
          self.filtersRegistered.contains n && !decide (n ∈ recs.map (·.pid.toNat))).map
            (fun n => .remove n.toUInt16) ∧
      ctx'.constructor = (DemuxContext.constructEach ctx.constructor
        (recs.map fun d => .pmt d.pid d.programNumber)).2 ∧
      p'.currentVersion = some tsh.version ∧ p'.filtersRegistered.length = 0x2000 ∧
      ∀ n, p'.filtersRegistered.contains n = (decide (n ∈ recs.map (·.pid.toNat)) ||
        (decide (n = 0x1fff) && self.filtersRegistered.contains n)) := by
  rw [section_eq _ _ _ _ _ hhdr hcrc]
  exact newTable_spec self ctx header tsh recs hlen hid

/-- `section_records_spec` at a fresh processor and a PAT that lists program 1 on PID `0x100`:
one insertion, of the handler built for that program, and no removal. -/
theorem section_records_spec_one_program :
    ∃ p' ctx', PatProcessor.new.section (⟨⟨[]⟩, ()⟩ : DemuxContext FilterRequest Unit) ⟨0x00⟩ ⟨0⟩
        (List.replicate 8 0 ++ [0x00, 0x01, 0xe1, 0x00] ++ List.replicate 4 0) = .ok (p', ctx') ∧
      ctx'.changeset.updates = [.insert 0x100 (.pmt 0x100 1)] ∧
      p'.filtersRegistered.contains 0x100 = true := by
  let d : ProgramDescriptor := ⟨[0x00, 0x01, 0xe1, 0x00], rfl⟩
  have hpid : d.pid = 0x100 := by decide
  have hpid' : d.pid.toNat = 0x100 := by decide
  have hprog : d.programNumber = 1 := by decide
  obtain ⟨p', ctx', h, hcs, -, -, -, hbits⟩ :=
    section_records_spec PatProcessor.new ⟨⟨[]⟩, ()⟩ ⟨0x00⟩ ⟨0⟩ (List.replicate 8 0)
      (List.replicate 4 0) [d] rfl rfl (by simp [new]) rfl
  refine ⟨p', ctx', h, ?_, by simp [hbits, hpid']⟩
  simp [hcs, new, hpid, hprog, DemuxContext.constructEach, StreamConstructor.construct]

/-- `section` on a PAT of id `0x00` returns normally exactly when the body between the 8 header
bytes and the CRC is a whole number of 4-byte records. -/
theorem section_ok_iff (hdr body crc : List UInt8) (hhdr : hdr.length = 8)
    (hcrc : crc.length = 4) (hlen : self.filtersRegistered.length = 0x2000)
    (hid : header.tableId = 0x00) :
    (∃ r, self.section ctx header tsh (hdr ++ body ++ crc) = .ok r) ↔ body.length % 4 = 0 := by
  rw [section_eq _ _ _ _ _ hhdr hcrc]
  constructor
  · rintro ⟨r, hr⟩
    by_contra hbody
    obtain ⟨e, he⟩ := forIter_programs_error registerProgram body hbody
      (⟨ctx, [], self.filtersRegistered⟩ : TableState F Ctor)
    have he : PatSection.forPrograms ⟨body⟩ registerProgram ⟨ctx, [], self.filtersRegistered⟩ =
      .error e := he
    rw [newTable, Mpeg2TsReader.newTable_of_error hid he] at hr
    cases hr
  · intro hbody
    obtain ⟨recs, rfl⟩ := exists_programs body hbody
    obtain ⟨p', ctx', h, -⟩ := newTable_spec self ctx header tsh recs hlen hid
    exact ⟨_, h⟩

/-- `section_ok_iff` at a fresh processor and a 5-byte body: the section panics. -/
theorem section_ok_iff_five_bytes :
    ¬∃ r, PatProcessor.new.section (⟨⟨[]⟩, ()⟩ : DemuxContext FilterRequest Unit) ⟨0x00⟩ ⟨0⟩
      (List.replicate 8 0 ++ List.replicate 5 0 ++ List.replicate 4 0) = .ok r := fun h =>
  absurd ((section_ok_iff PatProcessor.new ⟨⟨[]⟩, ()⟩ ⟨0x00⟩ ⟨0⟩ (List.replicate 8 0)
    (List.replicate 5 0) (List.replicate 4 0) rfl rfl (by simp [new]) rfl).1 h) (by decide)

/-- A 13-byte PAT section: its 1-byte body makes `ProgramIter` split 4 bytes off a 1-byte
slice. -/
theorem section_splits_past_end :
    PatProcessor.new.section ctx ⟨0x00⟩ tsh (List.replicate 13 0) =
      .error (.splitAtOutOfBounds 4 1) := by
  have hloop : PatSection.forPrograms ⟨[0]⟩ registerProgram
      (⟨ctx, [], PatProcessor.new.filtersRegistered⟩ : TableState F Ctor) =
        .error (.splitAtOutOfBounds 4 1) :=
    forIter_of_error _ rfl
  rw [show List.replicate 13 (0 : UInt8) = List.replicate 8 0 ++ [0] ++ List.replicate 4 0
    from rfl, section_eq _ _ _ _ _ (List.length_replicate _ _) (List.length_replicate _ _),
    newTable, Mpeg2TsReader.newTable_of_error rfl hloop]
  rfl

/-- `ProgramIter::next` panics only in `split_at`. -/
theorem isFixedBitSet_of_next {buf : List UInt8} {e : Panic} (h : ProgramIter.next buf = .error e) :
    e.isFixedBitSet = false := by
  unfold ProgramIter.next at h
  split_ifs at h
  cases h
  rfl

/-- A section on `0x2000` bits never panics in the bit set, and keeps `0x2000` bits: every
record's PID is 13-bit, and the sweep stops below `0x1fff`. -/
theorem bitSetSafe_section (data : List UInt8) (hlen : self.filtersRegistered.length = 0x2000) :
    BitSetSafe
      (fun r : PatProcessor × DemuxContext F Ctor => r.1.filtersRegistered.length = 0x2000)
      (self.section ctx header tsh data) := by
  refine (bitSetSafe_sectionBody data).bind fun body _ => ?_
  refine (bitSetSafe_newTable (fun st hst => ?_) hlen).bind fun ⟨_, _, _⟩ hr => .of_ok hr
  exact bitSetSafe_forIter _ (fun _ _ => isFixedBitSet_of_next)
    (fun d _ hst => bitSetSafe_registerFilter d.pid_toNat_lt _ hst) _ st hst

/-- A processor that has registered only PID `0x1fff`, given a PAT of id `0x00` with no
records: no edit is enqueued and `0x1fff` stays registered. -/
theorem pat_keeps_0x1fff :
    ∃ p' ctx', (⟨some 0, ⟨(FixedBitSet.withCapacity 0x2000).bits.set 0x1fff true⟩⟩ :
        PatProcessor).section ctx ⟨0x00⟩ tsh (List.replicate 12 0) = .ok (p', ctx') ∧
      ctx'.changeset.updates = ctx.changeset.updates ∧
      p'.filtersRegistered.contains 0x1fff = true := by
  have hlt : 0x1fff < (FixedBitSet.withCapacity 0x2000).length := by simp
  obtain ⟨p', ctx', h, hcs, -, -, -, hbits⟩ :=
    newTable_spec ⟨some 0, ⟨(FixedBitSet.withCapacity 0x2000).bits.set 0x1fff true⟩⟩ ctx ⟨0x00⟩
      tsh [] (by simp) rfl
  refine ⟨p', ctx', ?_, ?_, by simp [hbits, hlt]⟩
  · rw [show List.replicate 12 (0 : UInt8) = List.replicate 8 0 ++ [] ++ List.replicate 4 0
      from rfl, section_eq _ _ _ _ _ (List.length_replicate _ _) (List.length_replicate _ _)]
    exact h
  rw [hcs, List.filter_eq_nil_iff.2 fun n hn => ?_]
  · simp
  · have : n ≠ 0x1fff := by simp at hn; omega
    simp [hlt, this, Ne.symm this]

/-! ## Runs -/

/-- The processor fed `sections` in turn, each with its two headers, the context's changeset
applied to the filter table `filters` after each one, as `Demultiplex::push` applies it after
the packet that completes a section. -/
def run (self : PatProcessor) (ctx : DemuxContext F Ctor) (filters : Filters F)
    (sections : List (SectionCommonHeader × TableSyntaxHeader × List UInt8)) :
    Except Panic (PatProcessor × DemuxContext F Ctor × Filters F) :=
  runSections PatProcessor.section self ctx filters sections

/-- One section of a run, and the changeset applied. -/
theorem run_cons {data : List UInt8} {p' : PatProcessor} {ctx' : DemuxContext F Ctor}
    (filters : Filters F) (sections : List (SectionCommonHeader × TableSyntaxHeader × List UInt8))
    (h : self.section ctx header tsh data = .ok (p', ctx')) :
    run self ctx filters ((header, tsh, data) :: sections) =
      run p' { ctx' with changeset := ⟨[]⟩ } (ctx'.changeset.drain filters).2 sections :=
  runSections_cons filters sections h

/-- Along every run from a processor with `0x2000` bits, as `new` builds it, every
`FixedBitSet::insert` and `FixedBitSet::set` is in range: a run that returns keeps `0x2000` bits,
and a run that panics (on a partial record, say) does not panic in the bit set. A panic ends the
run at once, so no bit-set call of the run was out of range. -/
theorem run_bitSet_in_range (filters : Filters F)
    (sections : List (SectionCommonHeader × TableSyntaxHeader × List UInt8))
    (hlen : self.filtersRegistered.length = 0x2000) :
    (∀ r, run self ctx filters sections = .ok r → r.1.filtersRegistered.length = 0x2000) ∧
      ∀ e, run self ctx filters sections = .error e → e.isFixedBitSet = false :=
  have h := bitSetSafe_runSections _ (fun p ctx header tsh data hp =>
    bitSetSafe_section p ctx header tsh data hp) sections ctx filters hlen
  ⟨h.ok, h.error⟩

/-- `run_bitSet_in_range` along a run of one PAT from a fresh processor. -/
theorem run_bitSet_in_range_one_section :
    ∃ p' ctx' T', run PatProcessor.new (⟨⟨[]⟩, ()⟩ : DemuxContext FilterRequest Unit) Filters.new
        [(⟨0x00⟩, ⟨0⟩, List.replicate 8 0 ++ [0x00, 0x01, 0xe1, 0x00] ++ List.replicate 4 0)] =
          .ok (p', ctx', T') ∧
      p'.filtersRegistered.length = 0x2000 := by
  obtain ⟨p₁, ctx₁, h₁, -⟩ :=
    newTable_spec PatProcessor.new (⟨⟨[]⟩, ()⟩ : DemuxContext FilterRequest Unit) ⟨0x00⟩ ⟨0⟩
      [⟨[0x00, 0x01, 0xe1, 0x00], rfl⟩] (by simp [new]) rfl
  have hs : PatProcessor.new.section ⟨⟨[]⟩, ()⟩ ⟨0x00⟩ ⟨0⟩
      (List.replicate 8 0 ++ [0x00, 0x01, 0xe1, 0x00] ++ List.replicate 4 0) = .ok (p₁, ctx₁) := by
    rw [section_eq _ _ _ _ _ (List.length_replicate _ _) (List.length_replicate _ _)]
    exact h₁
  have hrun := run_cons PatProcessor.new ⟨⟨[]⟩, ()⟩ ⟨0x00⟩ ⟨0⟩ Filters.new [] hs
  exact ⟨_, _, _, hrun,
    (run_bitSet_in_range PatProcessor.new ⟨⟨[]⟩, ()⟩ Filters.new [_] (by simp [new])).1 _ hrun⟩

/-- A fresh processor fed two PATs: the first lists program 1 with its PMT on PID `0x1fff`, the
second lists no program. Afterwards `0x1fff` is still registered, and the handler the first
table asked for is still installed there. -/
theorem run_keeps_0x1fff :
    ∃ p ctx T, run PatProcessor.new (⟨⟨[]⟩, ()⟩ : DemuxContext FilterRequest Unit) Filters.new
        [(⟨0x00⟩, ⟨0⟩, List.replicate 8 0 ++ [0x00, 0x01, 0x1f, 0xff] ++ List.replicate 4 0),
          (⟨0x00⟩, ⟨1⟩, List.replicate 8 0 ++ [] ++ List.replicate 4 0)] = .ok (p, ctx, T) ∧
      p.filtersRegistered.contains 0x1fff = true ∧ T.get 0x1fff = some (.pmt 0x1fff 1) := by
  let d : ProgramDescriptor := ⟨[0x00, 0x01, 0x1f, 0xff], rfl⟩
  have hpid : d.pid = 0x1fff := by decide
  have hpid' : d.pid.toNat = 0x1fff := by decide
  have hprog : d.programNumber = 1 := by decide
  obtain ⟨p₁, ctx₁, h₁, hcs₁, -, -, hlen₁, hbits₁⟩ :=
    newTable_spec PatProcessor.new (⟨⟨[]⟩, ()⟩ : DemuxContext FilterRequest Unit) ⟨0x00⟩ ⟨0⟩ [d]
      (by simp [new]) rfl
  obtain ⟨p₂, ctx₂, h₂, hcs₂, -, -, -, hbits₂⟩ :=
    newTable_spec p₁ { ctx₁ with changeset := ⟨[]⟩ } ⟨0x00⟩ ⟨1⟩ [] hlen₁ rfl
  have hs₁ : PatProcessor.new.section ⟨⟨[]⟩, ()⟩ ⟨0x00⟩ ⟨0⟩
      (List.replicate 8 0 ++ [0x00, 0x01, 0x1f, 0xff] ++ List.replicate 4 0) = .ok (p₁, ctx₁) := by
    rw [section_eq _ _ _ _ _ (List.length_replicate _ _) (List.length_replicate _ _)]
    exact h₁
  have hs₂ : p₁.section { ctx₁ with changeset := ⟨[]⟩ } ⟨0x00⟩ ⟨1⟩
      (List.replicate 8 0 ++ [] ++ List.replicate 4 0) = .ok (p₂, ctx₂) := by
    rw [section_eq _ _ _ _ _ (List.length_replicate _ _) (List.length_replicate _ _)]
    exact h₂
  -- The second table registers nothing below `0x1fff`, so its sweep removes nothing.
  have hnil : (List.range 0x1fff).filter (fun n => p₁.filtersRegistered.contains n) = [] := by
    refine List.filter_eq_nil_iff.2 fun n hn => ?_
    have : n ≠ 0x1fff := by simp at hn; omega
    simp [hbits₁, hpid', this]
  refine ⟨p₂, _, _, by rw [run_cons _ _ _ _ _ _ hs₁, run_cons _ _ _ _ _ _ hs₂]; rfl,
    by simp [hbits₂, hbits₁, hpid'], ?_⟩
  simp [FilterChangeset.drain, hcs₂, hnil, hcs₁, new, get_foldl_edit,
    FilterChange.update, FilterChange.pid, FilterChange.target, DemuxContext.constructEach,
    StreamConstructor.construct, FilterChange.edit, hpid, hprog]

/-! ## The filter table along a run -/

/-- A PAT to feed the processor: its table syntax header, its 8 header bytes, its records and
its CRC bytes. -/
structure PatTable where
  /-- The table syntax header, with the version. -/
  tsh : TableSyntaxHeader
  /-- The section's 8 bytes before the records. -/
  hdr : List UInt8
  /-- The program records. -/
  recs : List ProgramDescriptor
  /-- The 4 CRC bytes. -/
  crc : List UInt8
  hdr_length : hdr.length = 8
  crc_length : crc.length = 4

/-- The section a `PatTable` is, with table id `0x00`. -/
def PatTable.toSection (t : PatTable) : SectionCommonHeader × TableSyntaxHeader × List UInt8 :=
  (⟨0x00⟩, t.tsh, t.hdr ++ (t.recs.map (·.data)).flatten ++ t.crc)

/-- The entries a PAT registers: each record's PID, with the PMT request of its program. -/
def PatTable.entries (t : PatTable) : List (UInt16 × FilterRequest) :=
  t.recs.map fun d => (d.pid, .pmt d.pid d.programNumber)

/-- One PAT, its changeset applied, keeps the processor's registered PIDs and the filter table
in sync: with the new table's entries. -/
theorem inSync_section {prev : List (UInt16 × FilterRequest)} {p : PatProcessor}
    {T : Filters FilterRequest} (hs : InSync prev p.filtersRegistered T)
    (ctx : DemuxContext FilterRequest Unit) (hctx : ctx.changeset.updates = []) (t : PatTable) :
    ∃ p' ctx', p.section ctx t.toSection.1 t.toSection.2.1 t.toSection.2.2 = .ok (p', ctx') ∧
      InSync t.entries p'.filtersRegistered (ctx'.changeset.drain T).2 := by
  have hpid : ∀ e ∈ t.entries, e.1.toNat < 0x2000 := fun _ he => by
    obtain ⟨d, -, rfl⟩ := List.mem_map.1 he
    exact d.pid_toNat_lt
  obtain ⟨bits', ctx', h, hs'⟩ := hs.newTable ctx hctx t.entries hpid
    (forPrograms_registerProgram t.recs) (show t.toSection.1.tableId = 0x00 from rfl)
    p.currentVersion t.toSection.2.1
  exact ⟨⟨_, bits'⟩, ctx',
    (section_eq _ _ _ _ _ t.hdr_length t.crc_length).trans (by rw [newTable, h]; rfl), hs'⟩

/-- The entries `new_table` registers for a PAT section's bytes, in loop order: each record's PID
with the PMT request of its program. -/
def sectionEntries (data : List UInt8) : Except Panic (List (UInt16 × FilterRequest)) := do
  let sect : PatSection := ⟨← sectionBody data⟩
  sect.forPrograms (fun desc es => .ok (es ++ [(desc.pid, .pmt desc.pid desc.programNumber)])) []

theorem sectionEntries_toSection (t : PatTable) :
    sectionEntries t.toSection.2.2 = .ok t.entries := by
  rw [sectionEntries, PatTable.toSection, sectionBody_append _ t.hdr_length t.crc_length, ok_bind,
    PatSection.forPrograms, forIter_programs]
  exact foldlM_append_ok (fun d => (d.pid, FilterRequest.pmt d.pid d.programNumber)) t.recs []

/-- A section of id `0x00` that returns is a `PatTable`: its body is a whole number of
records. -/
theorem exists_patTable {p : PatProcessor} {ctx : DemuxContext FilterRequest Unit}
    {header : SectionCommonHeader} {tsh : TableSyntaxHeader} {data : List UInt8}
    {r : PatProcessor × DemuxContext FilterRequest Unit} (hid : header.tableId = 0x00)
    (h : p.section ctx header tsh data = .ok r) :
    ∃ t : PatTable, t.toSection = (header, tsh, data) := by
  obtain ⟨body, hbody, h⟩ := bind_eq_ok.1 h
  have hrec : body.length % 4 = 0 := by
    by_contra hrec
    obtain ⟨e, he⟩ := forIter_programs_error registerProgram body hrec
      (⟨ctx, [], p.filtersRegistered⟩ : TableState FilterRequest Unit)
    have he : PatSection.forPrograms ⟨body⟩ registerProgram ⟨ctx, [], p.filtersRegistered⟩ =
      .error e := he
    rw [newTable, Mpeg2TsReader.newTable_of_error hid he] at h
    cases h
  obtain ⟨recs, rfl⟩ := exists_programs body hrec
  obtain ⟨hdr, crc, hhdr, hcrc, rfl⟩ := exists_of_sectionBody hbody
  obtain ⟨_⟩ := header
  subst hid
  exact ⟨⟨tsh, hdr, recs, crc, hhdr, hcrc⟩, rfl⟩

/-- A section of another id that returns leaves the processor and the context as they were. -/
theorem eq_of_section_of_ne {data : List UInt8} {r : PatProcessor × DemuxContext F Ctor}
    (hid : header.tableId ≠ 0x00) (h : self.section ctx header tsh data = .ok r) :
    r = (self, ctx) := by
  obtain ⟨_, -, h⟩ := bind_eq_ok.1 h
  rw [newTable_of_ne _ _ _ _ _ hid] at h
  exact (Except.ok.inj h).symm

/-- The PAT processor is described by its tables. -/
theorem tableProcessor :
    TableProcessor PatProcessor.section PatProcessor.filtersRegistered 0x00 sectionEntries
      PatTable.toSection PatTable.entries :=
  ⟨fun _ _ _ _ _ _ hid h => exists_patTable hid h, sectionEntries_toSection,
    fun _ _ _ ctx t hs hctx => inSync_section hs ctx hctx t,
    fun _ _ _ _ _ _ hid h => eq_of_section_of_ne _ _ _ _ hid h⟩

/-- From a fresh processor and an empty table, along any run of sections that returns, whatever
their ids and bytes: the last-table model returns too, and below `0x1fff` the registered PIDs
are those of the entries of the last section of id `0x00`, and the filter table holds, at each,
the PMT request of the last record that lists it, and nothing at the others. -/
theorem run_new_in_sync_of_ok
    {sections : List (SectionCommonHeader × TableSyntaxHeader × List UInt8)} {p : PatProcessor}
    {ctx : DemuxContext FilterRequest Unit} {T : Filters FilterRequest}
    (h : run PatProcessor.new (⟨⟨[]⟩, ()⟩ : DemuxContext FilterRequest Unit) Filters.new sections =
      .ok (p, ctx, T)) :
    ∃ es, lastEntries 0x00 sectionEntries [] sections = .ok es ∧
      ∀ pid : UInt16, pid.toNat < 0x1fff →
        (p.filtersRegistered.contains pid.toNat = true ↔ pid ∈ es.map Prod.fst) ∧
        T.get pid = tableOf es pid := by
  obtain ⟨es, hes, hs⟩ := tableProcessor.runSections_inSync
    (show InSync [] PatProcessor.new.filtersRegistered Filters.new from inSync_withCapacity) rfl h
  exact ⟨es, hes, fun pid hpid =>
    ⟨by rw [hs.registered pid hpid, decide_eq_true_iff], hs.table pid hpid⟩⟩

/-- `run_new_in_sync_of_ok` on a PAT listing program 1 on PID `0x100`, followed by a section of
another id: PID `0x100` is registered and holds the PMT request of program 1. -/
theorem run_new_in_sync_of_ok_two_sections :
    ∃ p ctx T, run PatProcessor.new (⟨⟨[]⟩, ()⟩ : DemuxContext FilterRequest Unit) Filters.new
        [(⟨0x00⟩, ⟨0⟩, List.replicate 8 0 ++ [0x00, 0x01, 0xe1, 0x00] ++ List.replicate 4 0),
          (⟨0x42⟩, ⟨1⟩, List.replicate 12 0)] = .ok (p, ctx, T) ∧
      p.filtersRegistered.contains 0x100 = true ∧ T.get 0x100 = some (.pmt 0x100 1) := by
  let d : ProgramDescriptor := ⟨[0x00, 0x01, 0xe1, 0x00], rfl⟩
  let t : PatTable := ⟨⟨0⟩, List.replicate 8 0, [d], List.replicate 4 0, rfl, rfl⟩
  obtain ⟨p₁, ctx₁, h₁, -⟩ :=
    newTable_spec PatProcessor.new (⟨⟨[]⟩, ()⟩ : DemuxContext FilterRequest Unit) ⟨0x00⟩ ⟨0⟩ [d]
      (by simp [new]) rfl
  have h₁ : PatProcessor.new.section (⟨⟨[]⟩, ()⟩ : DemuxContext FilterRequest Unit) ⟨0x00⟩ ⟨0⟩
      t.toSection.2.2 = .ok (p₁, ctx₁) := (section_eq _ _ _ _ _ t.hdr_length t.crc_length).trans h₁
  have h₂ : p₁.section { ctx₁ with changeset := ⟨[]⟩ } ⟨0x42⟩ ⟨1⟩ (List.replicate 12 0) =
      .ok (p₁, { ctx₁ with changeset := ⟨[]⟩ }) :=
    (section_eq _ _ _ _ [] (List.length_replicate 8 0) (List.length_replicate 4 0)).trans
      (newTable_of_ne _ _ _ _ _ (by decide))
  have hrun := (runSections_cons Filters.new _ h₁).trans (runSections_cons _ [] h₂)
  obtain ⟨es, hes, hs⟩ := run_new_in_sync_of_ok hrun
  rw [lastEntries, if_pos rfl, sectionEntries_toSection t, ok_bind, lastEntries,
    if_neg (by decide), lastEntries] at hes
  cases hes
  obtain ⟨hreg, hget⟩ := hs 0x100 (by decide)
  exact ⟨_, _, _, hrun, hreg.2 (by decide), hget.trans (by decide)⟩

end PatProcessor

end Mpeg2TsReader

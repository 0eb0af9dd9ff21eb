import Mpeg2TsReader.Reference

/-!
# The demultiplexer as a state machine

Between calls the application holds a `Demultiplex` and its context. `Demultiplex::new` starts
this state from a context fresh from `demux_context!`, and each `push` moves it on, on any
buffer; `Reachable` is the set of states so reached.

`push` hands a packet only to the handler installed at the packet's PID, calls `consume` only
while no edit is pending, and asks the constructor only for PIDs read from a packet. So an
invariant of the table's slots, indexed by PID, that the constructor establishes for a 13-bit
PID and that `consume` keeps under those conditions holds in every reachable state:

* `Routed`: the slots of the table satisfy the invariant at their PID, and so do those that the
  pending edits will write;
* `reachable_routed`: every reachable state is `Routed`;
* `push_frame`: the slot of a PID that no packet read carries and no edit names is left alone;
* `push_installs_handlers`: when no edit removes a handler, every PID that `push` reads gets a
  handler and keeps it;
* `push_append`: when no handler enqueues an edit, pushing whole packets that all begin with
  the sync byte and then any buffer is pushing the two as one buffer;
* `push_each_packet`: pushing one whole packet per call is the per-packet loop, whatever the
  handlers do.

`NullPacketFilter` and `UnhandledPid`, the two handlers of the library whose code is in
`demultiplex.rs`, are the handlers of the concrete runs.
-/

namespace Mpeg2TsReader

/-- A PID read from a packet has 13 bits. -/
theorem Packet.pid_toNat_lt (pk : Packet) : pk.pid.toNat < 0x2000 := u16Field_toNat_lt _ _

/-! ## The library's own handlers -/

/-- `NullPacketFilter<Ctx>`: a handler that ignores its packets. -/
structure NullPacketFilter (Ctor : Type) where

namespace NullPacketFilter

variable {Ctor : Type}

/-- `NullPacketFilter::new`. -/
def new : NullPacketFilter Ctor := ⟨⟩

/-- `NullPacketFilter::construct`: a handler for an elementary stream, whatever the stream. -/
def construct (_pmt : PmtSection) (_streamInfo : StreamInfo) : NullPacketFilter Ctor := new

instance packetFilter : PacketFilter (NullPacketFilter Ctor) Ctor :=
  ⟨fun self ctx _ => (self, ctx)⟩

end NullPacketFilter

/-- `UnhandledPid<Ctx>`: a handler that reports the PID of the first packet it is given. -/
structure UnhandledPid (Ctor : Type) where
  /-- `pid_seen`. -/
  pidSeen : Bool
  /-- The PIDs that the `println!` of `consume` has reported, oldest first: the handler's
  output, kept beside its state. -/
  printed : List UInt16

namespace UnhandledPid

variable {Ctor : Type}

/-- `UnhandledPid::new`. -/
def new : UnhandledPid Ctor := ⟨false, []⟩

/-- `UnhandledPid::consume`: the first packet's PID is printed, and `pid_seen` is set. -/
def consume (self : UnhandledPid Ctor) (pk : Packet) : UnhandledPid Ctor :=
  if !self.pidSeen then ⟨true, self.printed ++ [pk.pid]⟩ else self

instance packetFilter : PacketFilter (UnhandledPid Ctor) Ctor :=
  ⟨fun self ctx pk => (self.consume pk, ctx)⟩

/-- What an `UnhandledPid` installed at `pid` may have printed: nothing before its first packet,
and `pid` once after it. -/
def ReportsOnly (pid : UInt16) (self : UnhandledPid Ctor) : Prop :=
  self.printed = if self.pidSeen then [pid] else []

/-- The slot of `pid` in a demultiplexer of `UnhandledPid`s: empty, or a handler that has printed
nothing or `pid` once. -/
def SlotReportsOnly (pid : UInt16) : Option (UnhandledPid Ctor) → Prop
  | none => True
  | some self => self.ReportsOnly pid

theorem reportsOnly_new (pid : UInt16) : (new : UnhandledPid Ctor).ReportsOnly pid := rfl

theorem ReportsOnly.consume {pid : UInt16} {self : UnhandledPid Ctor} {pk : Packet}
    (hpid : pk.pid = pid) (h : self.ReportsOnly pid) : (self.consume pk).ReportsOnly pid := by
  obtain ⟨_ | _, printed⟩ := self
  · obtain rfl : printed = [] := h
    show [] ++ [pk.pid] = [pid]
    rw [hpid, List.nil_append]
  · exact h

end UnhandledPid

/-- An application's constructor that gives every request the handler `UnhandledPid::new`, so
that the demultiplexer reports each PID it meets. -/
structure ReportingConstructor where

instance ReportingConstructor.streamConstructor :
    StreamConstructor ReportingConstructor (UnhandledPid ReportingConstructor) :=
  ⟨fun c _ => (UnhandledPid.new, c)⟩

/-- An application's constructor of `NullPacketFilter`s, built with `NullPacketFilter::construct`
for an elementary stream and with `NullPacketFilter::new` otherwise. -/
structure NullConstructor where

instance NullConstructor.streamConstructor :
    StreamConstructor NullConstructor (NullPacketFilter NullConstructor) :=
  ⟨fun c req => match req with
    | .byStream _ pmt streamInfo => (NullPacketFilter.construct pmt streamInfo, c)
    | _ => (NullPacketFilter.new, c)⟩

namespace Demultiplex

variable {F Ctor : Type}

/-! ## Slot invariants -/

section Satisfies

variable (Inv : UInt16 → Option F → Prop)

/-- Every slot of the map satisfies `Inv` at its PID. -/
def Satisfies (m : UInt16 → Option F) : Prop := ∀ pid, Inv pid (m pid)

/-- The slots of a state satisfy `Inv`: those of the table, and those that the pending edits
will write. -/
structure Routed (filters : Filters F) (changeset : FilterChangeset F) : Prop where
  /-- The slots of the table. -/
  table : Satisfies Inv filters.get
  /-- What the pending edits will write. -/
  pending : ∀ e ∈ changeset.updates, Inv e.pid e.target

variable {Inv}

theorem Satisfies.update {m : UInt16 → Option F} {e : FilterChange F} (hm : Satisfies Inv m)
    (he : Inv e.pid e.target) : Satisfies Inv (FilterChange.update m e) := by
  intro pid
  rw [FilterChange.update, Function.update_apply]
  split
  · subst pid
    exact he
  · exact hm pid

theorem Satisfies.foldl_update {m : UInt16 → Option F} (hm : Satisfies Inv m)
    {updates : List (FilterChange F)} (hu : ∀ e ∈ updates, Inv e.pid e.target) :
    Satisfies Inv (updates.foldl FilterChange.update m) := by
  induction updates generalizing m with
  | nil => exact hm
  | cons e updates ih =>
    exact ih (hm.update (hu e (List.mem_cons_self _ _))) fun e' he' =>
      hu e' (List.mem_cons_of_mem _ he')

theorem Satisfies.put {filters : Filters F} {pid : UInt16} {h : F}
    (hf : Satisfies Inv filters.get) (hh : Inv pid (some h)) :
    Satisfies Inv (filters.put pid h).get := by
  rw [show filters.put pid h = (FilterChange.insert pid h).edit filters from rfl,
    FilterChange.get_edit]
  exact hf.update hh

/-- Draining the pending edits into the table keeps the state `Routed`. -/
theorem Routed.drain {filters : Filters F} {cs : FilterChangeset F} (hr : Routed Inv filters cs) :
    Routed Inv (cs.drain filters).2 (cs.drain filters).1 := by
  refine ⟨?_, fun _ he => nomatch he⟩
  show Satisfies Inv (cs.updates.foldl (fun t op => op.edit t) filters).get
  rw [get_foldl_edit]
  exact hr.table.foldl_update hr.pending

end Satisfies

/-! ## Every reachable state is routed -/

section Routing

variable [StreamConstructor Ctor F] [PacketFilter F Ctor]

/-- What the application's constructor and handlers guarantee of the slot invariant `Inv`: an
empty slot satisfies it, a handler built for a 13-bit PID satisfies it at that PID, and
`consume`, given with no edit pending a packet of a PID at which the handler satisfies `Inv`,
keeps it and enqueues only edits that satisfy it. -/
structure HandlerInvariant (Inv : UInt16 → Option F → Prop) : Prop where
  /-- An empty slot. -/
  none : ∀ pid, Inv pid none
  /-- What `construct` builds for `FilterRequest::ByPid`. -/
  construct : ∀ (c : Ctor) (pid : UInt16), pid.toNat < 0x2000 →
    Inv pid (some (StreamConstructor.construct c (.byPid pid)).1)
  /-- What `consume` does. -/
  consume : ∀ (h : F) (ctx : DemuxContext F Ctor) (pk : Packet), ctx.changeset.updates = [] →
    Inv pk.pid (some h) → Inv pk.pid (some (PacketFilter.consume h ctx pk).1) ∧
      ∀ e ∈ (PacketFilter.consume h ctx pk).2.changeset.updates, Inv e.pid e.target

/-- The part of `HandlerInvariant` that one `push` relies on: `construct` and `consume` only for
the PIDs and the packets of the packets `pks` it reads. -/
structure HandlerInvariantOn (Inv : UInt16 → Option F → Prop) (pks : List Packet) : Prop where
  /-- What `construct` builds for the PID of one of the packets. -/
  construct : ∀ (c : Ctor), ∀ pk ∈ pks,
    Inv pk.pid (some (StreamConstructor.construct c (.byPid pk.pid)).1)
  /-- What `consume` does with one of the packets. -/
  consume : ∀ (h : F) (ctx : DemuxContext F Ctor), ∀ pk ∈ pks, ctx.changeset.updates = [] →
    Inv pk.pid (some h) → Inv pk.pid (some (PacketFilter.consume h ctx pk).1) ∧
      ∀ e ∈ (PacketFilter.consume h ctx pk).2.changeset.updates, Inv e.pid e.target

/-- The states the application reaches: `Demultiplex::new` on a context fresh from the `new` of
`demux_context!`, then `push` calls on any buffers. -/
inductive Reachable : Demultiplex F × DemuxContext F Ctor → Prop
  /-- `Demultiplex::new`, on a context with no edit pending. -/
  | init (constructor : Ctor) {s : Demultiplex F × DemuxContext F Ctor} :
      Demultiplex.new ⟨FilterChangeset.new, constructor⟩ = .ok s → Reachable s
  /-- A `push` of any buffer. -/
  | push {self : Demultiplex F} {ctx : DemuxContext F Ctor}
      {r : Demultiplex F × DemuxContext F Ctor} (buf : List UInt8) :
      Reachable (self, ctx) → self.push ctx buf = .ok r → Reachable r

variable {Inv : UInt16 → Option F → Prop}

/-- A packet's PID has 13 bits, so the whole invariant gives its part for any packets. -/
theorem HandlerInvariant.on (hInv : HandlerInvariant Inv) (pks : List Packet) :
    HandlerInvariantOn Inv pks :=
  ⟨fun c pk _ => hInv.construct c pk.pid pk.pid_toNat_lt,
    fun h ctx pk _ => hInv.consume h ctx pk⟩

theorem HandlerInvariantOn.mono {pks pks' : List Packet} (hInv : HandlerInvariantOn Inv pks)
    (hsub : pks' ⊆ pks) : HandlerInvariantOn Inv pks' :=
  ⟨fun c pk hpk => hInv.construct c pk (hsub hpk),
    fun h ctx pk hpk => hInv.consume h ctx pk (hsub hpk)⟩

theorem routed_withHandler {pks : List Packet} (hInv : HandlerInvariantOn Inv pks)
    {filters : Filters F} {ctx : DemuxContext F Ctor} {pk : Packet} (hpk : pk ∈ pks)
    (hr : Routed Inv filters ctx.changeset) :
    Routed Inv (withHandler filters ctx pk.pid).1
      (withHandler filters ctx pk.pid).2.changeset := by
  rw [changeset_withHandler]
  refine ⟨?_, hr.pending⟩
  unfold withHandler
  split
  · exact hr.table.put (hInv.construct _ pk hpk)
  · exact hr.table

/-- A batch hands its handler only packets of the handler's PID, with no edit pending, so it
keeps the state `Routed`. -/
theorem routed_batchInner {thisPid : UInt16} {thisProc : F} {filters : Filters F}
    {ctx : DemuxContext F Ctor} {pk : Packet} (pks : List Packet)
    (hInv : HandlerInvariantOn Inv (pk :: pks)) (hpid : pk.pid = thisPid)
    (hproc : Inv thisPid (some thisProc)) (hr : Routed Inv filters ctx.changeset) :
    Routed Inv (batchInner thisPid thisProc filters ctx pk pks).2.1
      (batchInner thisPid thisProc filters ctx pk pks).2.2.changeset := by
  cases hctx : ctx.changeset.isEmpty with
  | false =>
    rw [batchInner_of_pending hctx]
    exact hr
  | true =>
    subst hpid
    obtain ⟨hproc', hedits⟩ :=
      hInv.consume thisProc ctx pk (List.mem_cons_self _ _) (List.isEmpty_iff.1 hctx) hproc
    have hr' : Routed Inv (filters.put pk.pid (PacketFilter.consume thisProc ctx pk).1)
        (PacketFilter.consume thisProc ctx pk).2.changeset := ⟨hr.table.put hproc', hedits⟩
    cases pks with
    | nil =>
      rw [batchInner_nil hctx]
      exact hr'
    | cons next pks =>
      rw [batchInner_cons hctx]
      split
      · exact hr'
      · split
        · exact hr'
        · rename_i hne
          exact routed_batchInner pks (hInv.mono (List.subset_cons_self _ _))
            (Decidable.of_not_not fun h => hne (bne_iff_ne.2 h)) hproc' hr'
termination_by structural pks

theorem routed_batchOuter (filters : Filters F) (ctx : DemuxContext F Ctor) (pks : List Packet)
    (hInv : HandlerInvariantOn Inv pks) (hr : Routed Inv filters ctx.changeset) :
    Routed Inv (batchOuter filters ctx pks).1 (batchOuter filters ctx pks).2.changeset := by
  match pks with
  | [] =>
    rw [batchOuter]
    exact hr
  | pk :: pks =>
    by_cases hsync : Packet.isSyncByte (pk.buf.getD 0 0)
    · obtain ⟨proc, hproc⟩ :=
        Option.isSome_iff_exists.1 (isSome_get_withHandler filters ctx pk.pid)
      have hr₁ := routed_withHandler hInv (List.mem_cons_self _ _) hr
      have hr₂ := routed_batchInner pks hInv rfl (hproc ▸ hr₁.table pk.pid) hr₁
      rcases hb : batchInner pk.pid proc (withHandler filters ctx pk.pid).1
        (withHandler filters ctx pk.pid).2 pk pks with ⟨rest | _, f, c⟩ <;> rw [hb] at hr₂
      · have : rest.length < pks.length + 1 := Nat.lt_succ_of_le (length_rest_batchInner hb)
        rw [batchOuter_cons_brk hsync hproc hb]
        exact routed_batchOuter _ _ rest
          (hInv.mono fun _ hq => List.mem_cons_of_mem _ ((suffix_rest_batchInner hb).subset hq))
          hr₂.drain
      · rw [batchOuter_cons_ret hsync hproc hb]
        exact hr₂
    · rw [batchOuter, if_neg hsync]
      exact hr
termination_by pks.length
decreasing_by exact this

/-- `push` keeps the state `Routed`, on every buffer. -/
theorem routed_push (hInv : HandlerInvariant Inv) {self : Demultiplex F} {ctx : DemuxContext F Ctor}
    (buf : List UInt8) {r : Demultiplex F × DemuxContext F Ctor}
    (hr : Routed Inv self.processorByPid ctx.changeset) (h : self.push ctx buf = .ok r) :
    Routed Inv r.1.processorByPid r.2.changeset := by
  obtain ⟨pks, tail, hlen, htail, rfl⟩ := exists_packets buf
  rw [push_packets self ctx pks tail hlen htail] at h
  cases h
  exact routed_batchOuter _ _ pks (hInv.on pks) hr

theorem routed_new (hInv : HandlerInvariant Inv) (constructor : Ctor) :
    Routed Inv
      (Demultiplex.init (⟨FilterChangeset.new, constructor⟩ : DemuxContext F Ctor)).1.processorByPid
      (Demultiplex.init (⟨FilterChangeset.new, constructor⟩ : DemuxContext F Ctor)).2.changeset :=
  ⟨Satisfies.put (fun pid => (Filters.get_new pid).symm ▸ hInv.none pid)
    (hInv.construct constructor 0 (by decide)), fun _ h => (List.not_mem_nil _ h).elim⟩

/-- In every state that `new` and `push` calls reach, every slot of the table satisfies, at its
PID, a slot invariant that holds of an empty slot, that the constructor establishes for 13-bit
PIDs and that `consume` keeps on packets of the handler's own PID with no edit pending; so does
every slot that a pending edit will write. -/
theorem reachable_routed (hInv : HandlerInvariant Inv) {s : Demultiplex F × DemuxContext F Ctor}
    (h : Reachable s) : Routed Inv s.1.processorByPid s.2.changeset := by
  induction h with
  | init constructor hnew =>
    cases (new_eq_ok _).symm.trans hnew
    exact routed_new hInv constructor
  | push buf _ hpush ih => exact routed_push hInv buf ih hpush

/-- `push` leaves the slot of a PID as it was when none of the whole packets it reads carries
that PID, no pending edit names it, and no handler given one of those packets enqueues an edit
that names it. -/
theorem push_frame (self : Demultiplex F) (ctx : DemuxContext F Ctor) (pks : List Packet)
    (tail : List UInt8) (hlen : ∀ pk ∈ pks, pk.buf.length = packetSize)
    (htail : tail.length < packetSize) {p : UInt16} (hpks : ∀ pk ∈ pks, pk.pid ≠ p)
    (hedits : ∀ (h : F) (ctx : DemuxContext F Ctor), ∀ pk ∈ pks, ctx.changeset.updates = [] →
      ∀ e ∈ (PacketFilter.consume h ctx pk).2.changeset.updates, e.pid ≠ p)
    (hpending : ∀ e ∈ ctx.changeset.updates, e.pid ≠ p) :
    ∃ r, self.push ctx ((pks.map (·.buf)).flatten ++ tail) = .ok r ∧
      r.1.processorByPid.get p = self.processorByPid.get p := by
  have hr : Routed (fun q o => q = p → o = self.processorByPid.get p)
      (batchOuter self.processorByPid ctx pks).1
      (batchOuter self.processorByPid ctx pks).2.changeset :=
    routed_batchOuter _ _ pks
      ⟨fun _ pk hpk hq => absurd hq (hpks pk hpk), fun _ _ pk hpk hctx _ =>
        ⟨fun hq => absurd hq (hpks pk hpk),
          fun e he hq => absurd hq (hedits _ _ pk hpk hctx e he)⟩⟩
      ⟨fun _ hq => hq ▸ rfl, fun e he hq => absurd hq (hpending e he)⟩
  exact ⟨_, push_packets self ctx pks tail hlen htail, hr.table p rfl⟩

end Routing

theorem handlerInvariant_slotReportsOnly :
    HandlerInvariant (UnhandledPid.SlotReportsOnly :
      UInt16 → Option (UnhandledPid ReportingConstructor) → Prop) :=
  ⟨fun _ => trivial, fun _ pid _ => UnhandledPid.reportsOnly_new pid,
    fun _ ctx _ hctx h => ⟨UnhandledPid.ReportsOnly.consume rfl h,
      fun e (he : e ∈ ctx.changeset.updates) => absurd (hctx ▸ he) (List.not_mem_nil e)⟩⟩

/-- The demultiplexer `new` returns with a fresh context of the reporting constructor
(`new_eq_ok`). -/
def reportingDemux :
    Demultiplex (UnhandledPid ReportingConstructor) ×
      DemuxContext (UnhandledPid ReportingConstructor) ReportingConstructor :=
  Demultiplex.init ⟨FilterChangeset.new, ⟨⟩⟩

theorem reachable_routed_reporting :
    ∃ r, reportingDemux.1.push reportingDemux.2 (syncPacket.buf ++ syncPacket.buf) = .ok r ∧
      ∀ h, r.1.processorByPid.get 0x100 = some h →
        h.printed = if h.pidSeen then [0x100] else [] := by
  rw [buf_two_packets]
  have hpush := push_packets reportingDemux.1 reportingDemux.2 [syncPacket, syncPacket] []
    (List.forall_mem_cons.2 ⟨length_syncPacket, List.forall_mem_singleton.2 length_syncPacket⟩)
    (by decide)
  have hreach : Reachable reportingDemux := Reachable.init ReportingConstructor.mk (new_eq_ok _)
  refine ⟨_, hpush, fun h hget => ?_⟩
  have hslot := (reachable_routed handlerInvariant_slotReportsOnly
    (Reachable.push _ hreach hpush)).table 0x100
  rw [hget] at hslot
  exact hslot

/-- A counter given a packet with no edit pending enqueues one `Insert`, for PID `0x1ff`. -/
theorem Counter.updates_consume (h : Counter) {ctx : DemuxContext Counter CounterConstructor}
    (pk : Packet) (hctx : ctx.changeset.updates = []) :
    (PacketFilter.consume h ctx pk).2.changeset.updates = [.insert 0x1ff ⟨0⟩] := by
  show ctx.changeset.updates ++ _ = _
  rw [hctx, List.nil_append]

/-- Two packets of PID `0x100` through `counterDemux`, whose handlers enqueue an edit for PID
`0x1ff` on every packet: the handler of PID 0 stays as `new` built it. -/
theorem push_frame_counter :
    ∃ r, counterDemux.1.push counterDemux.2 (syncPacket.buf ++ syncPacket.buf) = .ok r ∧
      r.1.processorByPid.get 0 = counterDemux.1.processorByPid.get 0 := by
  rw [buf_two_packets]
  refine push_frame _ _ [syncPacket, syncPacket] []
    (List.forall_mem_cons.2 ⟨length_syncPacket, List.forall_mem_singleton.2 length_syncPacket⟩)
    (by decide) (fun pk hpk => ?_) (fun h ctx pk _ hctx e he => ?_) (fun e he => nomatch he)
  · rw [List.mem_cons, List.mem_singleton, or_self] at hpk
    rw [hpk, syncPacket_pid]
    decide
  · rw [Counter.updates_consume h pk hctx, List.mem_singleton] at he
    rw [he]
    decide

/-! ## Every PID read gets a handler -/

section Batch

variable [PacketFilter F Ctor]

/-- A batch reads a run of packets of its PID that begin with the sync byte: a `break` leaves
the packets after that run, and a `return` comes at a packet without the sync byte right after
it. -/
theorem batchInner_reads {thisPid : UInt16} {thisProc : F} {filters f : Filters F}
    {ctx c : DemuxContext F Ctor} {pk : Packet} {pks : List Packet} {e : BatchExit}
    (h : batchInner thisPid thisProc filters ctx pk pks = (e, f, c)) :
    ∃ pre, (∀ q ∈ pre, q.pid = thisPid ∧ Packet.isSyncByte (q.buf.getD 0 0) = true) ∧
      ((∃ rest, e = .brk rest ∧ pks = pre ++ rest) ∨
        (e = .ret ∧ ∃ next post, pks = pre ++ next :: post ∧
          Packet.isSyncByte (next.buf.getD 0 0) = false)) := by
  cases hctx : ctx.changeset.isEmpty with
  | false =>
    rw [batchInner_of_pending hctx] at h
    cases h
    exact ⟨[], (fun _ h => nomatch h), .inl ⟨_, rfl, rfl⟩⟩
  | true =>
    cases pks with
    | nil =>
      rw [batchInner_nil hctx] at h
      cases h
      exact ⟨[], (fun _ h => nomatch h), .inl ⟨_, rfl, rfl⟩⟩
    | cons next pks =>
      rw [batchInner_cons hctx] at h
      split at h
      · rename_i hs
        cases h
        exact ⟨[], (fun _ h => nomatch h), .inr ⟨rfl, next, pks, rfl,
          by revert hs; cases Packet.isSyncByte (next.buf.getD 0 0) <;> decide⟩⟩
      · split at h
        · cases h
          exact ⟨[], (fun _ h => nomatch h), .inl ⟨_, rfl, rfl⟩⟩
        · rename_i hs hp
          obtain ⟨pre, hpre, hexit⟩ := batchInner_reads h
          refine ⟨next :: pre, ?_, ?_⟩
          · rintro q (_ | ⟨_, hq⟩)
            · exact ⟨Decidable.of_not_not fun hne => hp (bne_iff_ne.2 hne),
                by revert hs; cases Packet.isSyncByte (next.buf.getD 0 0) <;> decide⟩
            · exact hpre q hq
          · rcases hexit with ⟨rest, rfl, rfl⟩ | ⟨rfl, n, post, rfl, hn⟩
            · exact .inl ⟨rest, rfl, rfl⟩
            · exact .inr ⟨rfl, n, post, rfl, hn⟩
termination_by structural pks

end Batch

section Install

variable [StreamConstructor Ctor F] [PacketFilter F Ctor]

/-- The outer loop starts each batch by giving the packet's PID its handler, so giving it first
changes nothing. -/
theorem batchOuter_withHandler {filters : Filters F} {ctx : DemuxContext F Ctor} {pk : Packet}
    {pks : List Packet} (hsync : Packet.isSyncByte (pk.buf.getD 0 0) = true) :
    batchOuter filters ctx (pk :: pks) =
      batchOuter (withHandler filters ctx pk.pid).1 (withHandler filters ctx pk.pid).2
        (pk :: pks) := by
  rw [batchOuter, batchOuter, if_pos hsync, if_pos hsync, withHandler_withHandler]

variable
  (hedits : ∀ (h : F) (ctx : DemuxContext F Ctor) (pk : Packet), ctx.changeset.updates = [] →
    ∀ e ∈ (PacketFilter.consume h ctx pk).2.changeset.updates, e.target.isSome)

include hedits

/-- When no edit removes a handler, the outer loop keeps a handler in every slot that has one. -/
theorem isSome_batchOuter {P : UInt16 → Prop} (filters : Filters F) (ctx : DemuxContext F Ctor)
    (pks : List Packet) (hpending : ∀ e ∈ ctx.changeset.updates, e.target.isSome)
    (hP : ∀ p, P p → (filters.get p).isSome) :
    ∀ p, P p → ((batchOuter filters ctx pks).1.get p).isSome := by
  have hr : Routed (fun p (o : Option F) => P p → o.isSome) (batchOuter filters ctx pks).1
      (batchOuter filters ctx pks).2.changeset :=
    routed_batchOuter _ _ pks ⟨fun _ _ _ _ => rfl, fun _ _ _ _ hctx _ =>
      ⟨fun _ => rfl, fun e he _ => hedits _ _ _ hctx e he⟩⟩
      ⟨hP, fun e he _ => hpending e he⟩
  exact hr.table

/-- When no edit removes a handler, the outer loop leaves a handler at the PID of every packet
it reads before the first without the sync byte: the packets a batch reads, skipped ones
included, carry the PID of its first. -/
theorem installs_batchOuter (filters : Filters F) (ctx : DemuxContext F Ctor) (pks : List Packet)
    (hpending : ∀ e ∈ ctx.changeset.updates, e.target.isSome) :
    ∀ pk ∈ pks.takeWhile (fun pk => Packet.isSyncByte (pk.buf.getD 0 0)),
      ((batchOuter filters ctx pks).1.get pk.pid).isSome := by
  match pks with
  | [] => exact fun _ h => nomatch h
  | pk :: pks =>
    by_cases hsync : Packet.isSyncByte (pk.buf.getD 0 0)
    · obtain ⟨proc, hproc⟩ :=
        Option.isSome_iff_exists.1 (isSome_get_withHandler filters ctx pk.pid)
      have hpk : ((batchOuter filters ctx (pk :: pks)).1.get pk.pid).isSome := by
        rw [batchOuter_withHandler hsync]
        refine isSome_batchOuter hedits _ _ _ (by rw [changeset_withHandler]; exact hpending)
          (fun p hp => ?_) pk.pid rfl
        rw [← hp, hproc]
        rfl
      rcases hb : batchInner pk.pid proc (withHandler filters ctx pk.pid).1
        (withHandler filters ctx pk.pid).2 pk pks with ⟨e, f, c⟩
      obtain ⟨pre, hpre, hexit⟩ := batchInner_reads hb
      have hpre_sync : ∀ q ∈ pre, Packet.isSyncByte (q.buf.getD 0 0) = true := fun q hq =>
        (hpre q hq).2
      rw [List.takeWhile_cons_of_pos
        (p := fun pk : Packet => Packet.isSyncByte (pk.buf.getD 0 0)) hsync]
      rintro q (_ | ⟨_, hq⟩)
      · exact hpk
      rcases hexit with ⟨rest, rfl, hpks⟩ | ⟨rfl, next, post, hpks, hnext⟩
      · rw [hpks, List.takeWhile_append_of_pos hpre_sync] at hq
        rcases List.mem_append.1 hq with hq | hq
        · rw [(hpre q hq).1]
          exact hpk
        · have : rest.length < pks.length + 1 := Nat.lt_succ_of_le (length_rest_batchInner hb)
          rw [batchOuter_cons_brk hsync hproc hb]
          exact installs_batchOuter _ _ rest (fun _ h => (List.not_mem_nil _ h).elim) q hq
      · rw [hpks, List.takeWhile_append_of_pos hpre_sync,
          List.takeWhile_cons_of_neg (p := fun pk : Packet => Packet.isSyncByte (pk.buf.getD 0 0))
            (Bool.eq_false_iff.1 hnext), List.append_nil] at hq
        rw [(hpre q hq).1]
        exact hpk
    · rw [List.takeWhile_cons_of_neg (p := fun pk : Packet => Packet.isSyncByte (pk.buf.getD 0 0))
        hsync]
      exact fun _ h => nomatch h
termination_by pks.length
decreasing_by exact this

/-- When no edit removes a handler, `push` keeps every handler it finds and leaves a handler at
the PID of every whole packet it reads before the first without the sync byte, the packets that
a batch skips after an edit included. -/
theorem push_installs_handlers (self : Demultiplex F) (ctx : DemuxContext F Ctor)
    (pks : List Packet) (tail : List UInt8) (hlen : ∀ pk ∈ pks, pk.buf.length = packetSize)
    (htail : tail.length < packetSize) (hpending : ∀ e ∈ ctx.changeset.updates, e.target.isSome) :
    ∃ r, self.push ctx ((pks.map (·.buf)).flatten ++ tail) = .ok r ∧
      (∀ p, (self.processorByPid.get p).isSome → (r.1.processorByPid.get p).isSome) ∧
      ∀ pk ∈ pks.takeWhile (fun pk => Packet.isSyncByte (pk.buf.getD 0 0)),
        (r.1.processorByPid.get pk.pid).isSome :=
  ⟨_, push_packets self ctx pks tail hlen htail,
    isSome_batchOuter hedits _ _ pks hpending fun _ h => h,
    installs_batchOuter hedits _ _ pks hpending⟩

end Install

/-- Two packets of PID `0x100` through `counterDemux`, whose handlers enqueue an `Insert` on every
packet: the handler of PID 0 stays, and PID `0x100` has one. -/
theorem push_installs_handlers_counter :
    ∃ r, counterDemux.1.push counterDemux.2 (syncPacket.buf ++ syncPacket.buf) = .ok r ∧
      (r.1.processorByPid.get 0).isSome ∧ (r.1.processorByPid.get 0x100).isSome := by
  rw [buf_two_packets]
  obtain ⟨r, hr, hkeep, hnew⟩ := push_installs_handlers
    (fun h _ pk hctx e he => by
      rw [Counter.updates_consume h pk hctx, List.mem_singleton] at he
      rw [he]
      rfl)
    counterDemux.1 counterDemux.2 [syncPacket, syncPacket] []
    (List.forall_mem_cons.2 ⟨length_syncPacket, List.forall_mem_singleton.2 length_syncPacket⟩)
    (by decide) (fun _ h => nomatch h)
  refine ⟨r, hr, hkeep 0 rfl, syncPacket_pid ▸ hnew syncPacket ?_⟩
  rw [List.takeWhile_cons_of_pos (p := fun pk : Packet => Packet.isSyncByte (pk.buf.getD 0 0))
    syncPacket_sync]
  exact List.mem_cons_self _ _

/-! ## Pushing a stream in pieces -/

section Compose

variable [StreamConstructor Ctor F] [PacketFilter F Ctor]

/-- The per-packet loop leaves no edit pending. -/
theorem updates_reference (filters : Filters F) (ctx : DemuxContext F Ctor) (pks : List Packet)
    (hctx : ctx.changeset.updates = []) : (reference filters ctx pks).2.changeset.updates = [] := by
  induction pks generalizing filters ctx with
  | nil => exact hctx
  | cons pk pks ih =>
    by_cases hsync : Packet.isSyncByte (pk.buf.getD 0 0)
    · obtain ⟨proc, hproc⟩ :=
        Option.isSome_iff_exists.1 (isSome_get_withHandler filters ctx pk.pid)
      rw [reference_cons hsync rfl hproc]
      exact ih _ _ rfl
    · rw [reference, if_neg hsync]
      exact hctx

/-- The per-packet loop over packets that all begin with the sync byte, then over more packets,
is the loop over all of them. -/
theorem reference_append (filters : Filters F) (ctx : DemuxContext F Ctor) (pks pks' : List Packet)
    (hsync : ∀ pk ∈ pks, Packet.isSyncByte (pk.buf.getD 0 0) = true) :
    reference filters ctx (pks ++ pks') =
      reference (reference filters ctx pks).1 (reference filters ctx pks).2 pks' := by
  induction pks generalizing filters ctx with
  | nil => rfl
  | cons pk pks ih =>
    obtain ⟨proc, hproc⟩ :=
      Option.isSome_iff_exists.1 (isSome_get_withHandler filters ctx pk.pid)
    have hs := hsync pk (List.mem_cons_self _ _)
    rw [List.cons_append, reference_cons hs rfl hproc, reference_cons hs rfl hproc]
    exact ih _ _ fun q hq => hsync q (List.mem_cons_of_mem _ hq)

/-- When no handler enqueues an edit and none is pending, pushing whole packets that all begin
with the sync byte and then any buffer is pushing the two as one buffer: an application may cut
its stream at any packet boundary before the first lost sync. With a handler that enqueues
edits this fails, as `push_skips_packet_after_edit` shows. -/
theorem push_append
    (hquiet : ∀ (h : F) (ctx : DemuxContext F Ctor) (pk : Packet),
      ctx.changeset.updates = [] → (PacketFilter.consume h ctx pk).2.changeset.updates = [])
    (self : Demultiplex F) (ctx : DemuxContext F Ctor) (pks : List Packet) (buf : List UInt8)
    (hlen : ∀ pk ∈ pks, pk.buf.length = packetSize)
    (hsync : ∀ pk ∈ pks, Packet.isSyncByte (pk.buf.getD 0 0) = true)
    (hctx : ctx.changeset.updates = []) :
    (self.push ctx (pks.map (·.buf)).flatten >>= fun r => r.1.push r.2 buf) =
      self.push ctx ((pks.map (·.buf)).flatten ++ buf) := by
  obtain ⟨pks', tail, hlen', htail, rfl⟩ := exists_packets buf
  have h₁ : self.push ctx (pks.map (·.buf)).flatten =
      .ok (⟨(reference self.processorByPid ctx pks).1⟩,
        (reference self.processorByPid ctx pks).2) := by
    rw [← List.append_nil (pks.map (·.buf)).flatten,
      push_packets self ctx pks [] hlen (by decide),
      batchOuter_eq_reference hquiet _ _ pks hctx]
  have hlen₂ : ∀ pk ∈ pks ++ pks', pk.buf.length = packetSize := fun pk hpk =>
    (List.mem_append.1 hpk).elim (hlen pk) (hlen' pk)
  rw [h₁, ok_bind, push_packets _ _ pks' tail hlen' htail,
    batchOuter_eq_reference hquiet _ _ pks' (updates_reference _ _ pks hctx), ← List.append_assoc,
    ← List.flatten_append, ← List.map_append, push_packets self ctx _ tail hlen₂ htail,
    batchOuter_eq_reference hquiet _ _ _ hctx, reference_append _ _ pks pks' hsync]

/-- With no edit pending, a buffer of one whole packet is pushed as the per-packet loop pushes
it, whatever the handler does: a batch of one packet ends before it could skip another. -/
theorem batchOuter_singleton (filters : Filters F) (ctx : DemuxContext F Ctor) (pk : Packet)
    (hctx : ctx.changeset.updates = []) :
    batchOuter filters ctx [pk] = reference filters ctx [pk] := by
  by_cases hsync : Packet.isSyncByte (pk.buf.getD 0 0)
  · obtain ⟨proc, hproc⟩ :=
      Option.isSome_iff_exists.1 (isSome_get_withHandler filters ctx pk.pid)
    have hempty : (withHandler filters ctx pk.pid).2.changeset.isEmpty = true := by
      rw [changeset_withHandler, FilterChangeset.isEmpty, hctx]
      rfl
    rw [batchOuter_cons_brk hsync hproc (batchInner_nil hempty), batchOuter,
      reference_cons hsync Prod.mk.eta.symm hproc, reference]
  · rw [batchOuter, reference, if_neg hsync, if_neg hsync]

/-- An application that pushes one whole packet per call gets the per-packet loop, whatever its
handlers do: every packet with the sync byte is consumed once, in order, by the handler at its
PID, with the edits applied right after it, and a packet without it is ignored. The skip of
`push_skips_packet_after_edit` needs two packets in one buffer. -/
theorem push_each_packet (self : Demultiplex F) (ctx : DemuxContext F Ctor) (pks : List Packet)
    (hlen : ∀ pk ∈ pks, pk.buf.length = packetSize) (hctx : ctx.changeset.updates = []) :
    pks.foldlM (fun (r : Demultiplex F × DemuxContext F Ctor) pk => r.1.push r.2 pk.buf)
        (self, ctx) =
      .ok (⟨(reference self.processorByPid ctx
          (pks.filter fun pk => Packet.isSyncByte (pk.buf.getD 0 0))).1⟩,
        (reference self.processorByPid ctx
          (pks.filter fun pk => Packet.isSyncByte (pk.buf.getD 0 0))).2) := by
  induction pks generalizing self ctx with
  | nil => rfl
  | cons pk pks ih =>
    have hpush : self.push ctx pk.buf =
        .ok (⟨(reference self.processorByPid ctx [pk]).1⟩,
          (reference self.processorByPid ctx [pk]).2) := by
      rw [← List.append_nil pk.buf, show pk.buf = ([pk].map (·.buf)).flatten from
        (List.append_nil pk.buf).symm, push_packets self ctx [pk] []
        (List.forall_mem_singleton.2 (hlen pk (List.mem_cons_self _ _))) (by decide),
        batchOuter_singleton _ _ _ hctx]
    rw [List.foldlM_cons]
    dsimp only
    rw [hpush, ok_bind, ih _ _ (fun q hq => hlen q (List.mem_cons_of_mem _ hq))
      (updates_reference _ _ [pk] hctx)]
    by_cases hsync : Packet.isSyncByte (pk.buf.getD 0 0)
    · rw [List.filter_cons_of_pos
          (p := fun pk : Packet => Packet.isSyncByte (pk.buf.getD 0 0)) hsync,
        show pk :: pks.filter _ = [pk] ++ pks.filter _ from rfl,
        reference_append _ _ [pk] _ (List.forall_mem_singleton.2 hsync)]
    · rw [List.filter_cons_of_neg
          (p := fun pk : Packet => Packet.isSyncByte (pk.buf.getD 0 0)) hsync,
        reference, if_neg hsync]

end Compose

/-- Two packets of PID `0x100` pushed one per call through `counterDemux`, whose handlers enqueue
an edit on every packet: the result is the per-packet loop over both packets. -/
theorem push_each_packet_counter :
    [syncPacket, syncPacket].foldlM
        (fun (r : Demultiplex Counter × DemuxContext Counter CounterConstructor) pk =>
          r.1.push r.2 pk.buf) counterDemux =
      .ok (⟨(reference counterDemux.1.processorByPid counterDemux.2 [syncPacket, syncPacket]).1⟩,
        (reference counterDemux.1.processorByPid counterDemux.2 [syncPacket, syncPacket]).2) := by
  have h := push_each_packet counterDemux.1 counterDemux.2 [syncPacket, syncPacket]
    (List.forall_mem_cons.2 ⟨length_syncPacket, List.forall_mem_singleton.2 length_syncPacket⟩)
    rfl
  rw [List.filter_cons_of_pos (p := fun pk : Packet => Packet.isSyncByte (pk.buf.getD 0 0))
      syncPacket_sync,
    List.filter_cons_of_pos (p := fun pk : Packet => Packet.isSyncByte (pk.buf.getD 0 0))
      syncPacket_sync, List.filter_nil] at h
  exact h

/-- The demultiplexer `new` returns with a fresh context of the null constructor
(`new_eq_ok`). -/
def nullDemux :
    Demultiplex (NullPacketFilter NullConstructor) ×
      DemuxContext (NullPacketFilter NullConstructor) NullConstructor :=
  Demultiplex.init ⟨FilterChangeset.new, ⟨⟩⟩

theorem push_append_null :
    (nullDemux.1.push nullDemux.2 ([syncPacket].map (·.buf)).flatten >>= fun r =>
        r.1.push r.2 syncPacket.buf) =
      nullDemux.1.push nullDemux.2 (([syncPacket].map (·.buf)).flatten ++ syncPacket.buf) :=
  push_append (fun _ _ _ h => h) _ _ [syncPacket] _
    (List.forall_mem_singleton.2 length_syncPacket) (List.forall_mem_singleton.2 syncPacket_sync)
    rfl

end Demultiplex

end Mpeg2TsReader

import Mpeg2TsReader.Batching

/-!
# The per-packet loop

`reference` is the loop that same-PID batching is meant to be equivalent to: each packet in
order gets a handler if its PID has none, is consumed by the handler at its PID, and the
changeset is applied right after it. `referenceAfter` continues it from where a batch of
`batchInner` leaves off.

* `reference_batchInner`: when no handler enqueues an edit, one batch is the per-packet loop
  over the packets it consumes;
* `push_eq_reference`: when no handler enqueues an edit, `push` is the per-packet loop;
* `push_skips_packet_after_edit`: with a handler that enqueues an edit on every packet, two
  packets of one PID are not both consumed by `push`, while the per-packet loop consumes both.
-/

namespace Mpeg2TsReader

namespace Demultiplex

variable {F Ctor : Type}

section Reference

variable [StreamConstructor Ctor F] [PacketFilter F Ctor]

/-- Modelled from the spec: the per-packet loop that same-PID batching is meant to refine. Each
packet in order, up to the first without the sync byte, gets a handler at its PID if it has
none, is consumed by the handler at its PID, and then the changeset is applied and drained. -/
def reference (filters : Filters F) (ctx : DemuxContext F Ctor) :
    List Packet → Filters F × DemuxContext F Ctor
  | [] => (filters, ctx)
  | pk :: pks =>
    if Packet.isSyncByte (pk.buf.getD 0 0) then
      let (filters, ctx) := withHandler filters ctx pk.pid
      match filters.get pk.pid with
      | none => (filters, ctx)
      | some proc =>
        let (proc, ctx) := PacketFilter.consume proc ctx pk
        let (changeset, filters) := ctx.changeset.drain (filters.put pk.pid proc)
        reference filters { ctx with changeset } pks
    else (filters, ctx)

/-- The per-packet loop gives a packet's PID its handler before the packet is read. -/
theorem reference_withHandler (filters : Filters F) (ctx : DemuxContext F Ctor) (pk : Packet)
    (pks : List Packet) (hsync : Packet.isSyncByte (pk.buf.getD 0 0) = true) :
    reference filters ctx (pk :: pks) =
      reference (withHandler filters ctx pk.pid).1 (withHandler filters ctx pk.pid).2
        (pk :: pks) := by
  rw [reference, reference, if_pos hsync, if_pos hsync, withHandler_withHandler]

/-- A packet whose handler enqueues no edit moves the per-packet loop on to the next packet with
the handler written back. -/
theorem reference_of_quiet {filters : Filters F} {ctx : DemuxContext F Ctor} {pk : Packet}
    {pks : List Packet} {proc : F}
    (hq : (PacketFilter.consume proc ctx pk).2.changeset.updates = [])
    (hget : filters.get pk.pid = some proc) (hsync : Packet.isSyncByte (pk.buf.getD 0 0) = true) :
    reference filters ctx (pk :: pks) =
      reference (filters.put pk.pid (PacketFilter.consume proc ctx pk).1)
        (PacketFilter.consume proc ctx pk).2 pks := by
  simp only [reference, hsync, if_true, withHandler_of_get hget, hget,
    FilterChangeset.drain_of_updates_nil _ _ hq]

/-- The per-packet loop from where a batch leaves off: nowhere after a `return`, from the
packets left after a `break`. -/
def referenceAfter : BatchExit × Filters F × DemuxContext F Ctor → Filters F × DemuxContext F Ctor
  | (.ret, filters, ctx) => (filters, ctx)
  | (.brk rest, filters, ctx) => reference filters ctx rest

/-- One step of the per-packet loop, at a packet whose PID has the handler `proc` once
`withHandler` has run. -/
theorem reference_cons {filters filters₁ : Filters F} {ctx ctx₁ : DemuxContext F Ctor}
    {pk : Packet} {pks : List Packet} {proc : F}
    (hsync : Packet.isSyncByte (pk.buf.getD 0 0) = true)
    (hens : withHandler filters ctx pk.pid = (filters₁, ctx₁))
    (hget : filters₁.get pk.pid = some proc) :
    reference filters ctx (pk :: pks) =
      reference ((PacketFilter.consume proc ctx₁ pk).2.changeset.drain
          (filters₁.put pk.pid (PacketFilter.consume proc ctx₁ pk).1)).2
        { (PacketFilter.consume proc ctx₁ pk).2 with
          changeset := ((PacketFilter.consume proc ctx₁ pk).2.changeset.drain
            (filters₁.put pk.pid (PacketFilter.consume proc ctx₁ pk).1)).1 } pks := by
  simp only [reference, hsync, if_true, hens, hget]

/-- When no handler enqueues an edit, one batch is the per-packet loop over the packets it
consumes, and it leaves the changeset empty. -/
theorem reference_batchInner
    (hquiet : ∀ (h : F) (ctx : DemuxContext F Ctor) (pk : Packet),
      ctx.changeset.updates = [] → (PacketFilter.consume h ctx pk).2.changeset.updates = [])
    {thisProc : F} {filters : Filters F} {ctx : DemuxContext F Ctor} {pk : Packet}
    (pks : List Packet) (hctx : ctx.changeset.updates = [])
    (hget : filters.get pk.pid = some thisProc) (hsync : Packet.isSyncByte (pk.buf.getD 0 0) = true) :
    (batchInner pk.pid thisProc filters ctx pk pks).2.2.changeset.updates = [] ∧
      reference filters ctx (pk :: pks) = referenceAfter (batchInner pk.pid thisProc filters ctx pk pks) := by
  have hempty : ctx.changeset.isEmpty = true := by
    simp only [FilterChangeset.isEmpty, hctx, List.isEmpty_nil]
  have hq := hquiet thisProc ctx pk hctx
  rw [reference_of_quiet hq hget hsync]
  cases pks with
  | nil =>
    rw [batchInner_nil hempty]
    exact ⟨hq, rfl⟩
  | cons next pks =>
    rw [batchInner_cons hempty]
    by_cases hs : Packet.isSyncByte (next.buf.getD 0 0)
    · by_cases hp : next.pid = pk.pid
      · simp only [hs, hp, Bool.not_true, Bool.false_eq_true, bne_self_eq_false, if_false]
        rw [← hp]
        exact reference_batchInner hquiet pks hq (by rw [Filters.get_put, if_pos rfl]) hs
      · simp only [hs, Bool.not_true, Bool.false_eq_true, if_false, bne_iff_ne, ne_eq, hp,
          not_false_eq_true, if_true]
        exact ⟨hq, rfl⟩
    · simp only [hs, Bool.not_false, if_true]
      exact ⟨hq, by rw [reference, if_neg hs]; rfl⟩
termination_by structural pks

/-- When no handler enqueues an edit, the batching outer loop is the per-packet loop. -/
theorem batchOuter_eq_reference
    (hquiet : ∀ (h : F) (ctx : DemuxContext F Ctor) (pk : Packet),
      ctx.changeset.updates = [] → (PacketFilter.consume h ctx pk).2.changeset.updates = [])
    (filters : Filters F) (ctx : DemuxContext F Ctor) (pks : List Packet)
    (hctx : ctx.changeset.updates = []) :
    batchOuter filters ctx pks = reference filters ctx pks := by
  match pks with
  | [] => rw [batchOuter, reference]
  | pk :: pks =>
    by_cases hsync : Packet.isSyncByte (pk.buf.getD 0 0)
    · obtain ⟨proc, hproc⟩ :=
        Option.isSome_iff_exists.1 (isSome_get_withHandler filters ctx pk.pid)
      have hfc : (withHandler filters ctx pk.pid).2.changeset.updates = [] := by
        rw [changeset_withHandler]
        exact hctx
      obtain ⟨hq, href⟩ := reference_batchInner hquiet pks hfc hproc hsync
      rw [reference_withHandler filters ctx pk pks hsync, href]
      rcases hb : batchInner pk.pid proc (withHandler filters ctx pk.pid).1
        (withHandler filters ctx pk.pid).2 pk pks with ⟨rest | _, f, c⟩
      · rw [hb] at hq
        have : rest.length < pks.length + 1 := Nat.lt_succ_of_le (length_rest_batchInner hb)
        rw [batchOuter_cons_brk hsync hproc hb, FilterChangeset.drain_of_updates_nil _ _ hq]
        exact batchOuter_eq_reference hquiet f c rest hq
      · rw [batchOuter_cons_ret hsync hproc hb]
        rfl
    · rw [batchOuter, reference, if_neg hsync, if_neg hsync]
termination_by pks.length
decreasing_by exact this

/-- When no handler enqueues an edit and the changeset is empty on entry, `push` on a buffer of
whole packets and a shorter tail is the per-packet loop: each packet up to the first without
the sync byte is consumed once, in order, by the handler at its PID, and the tail is ignored. -/
theorem push_eq_reference
    (hquiet : ∀ (h : F) (ctx : DemuxContext F Ctor) (pk : Packet),
      ctx.changeset.updates = [] → (PacketFilter.consume h ctx pk).2.changeset.updates = [])
    (self : Demultiplex F) (ctx : DemuxContext F Ctor) (pks : List Packet) (tail : List UInt8)
    (hlen : ∀ pk ∈ pks, pk.buf.length = packetSize) (htail : tail.length < packetSize)
    (hctx : ctx.changeset.updates = []) :
    self.push ctx ((pks.map (·.buf)).flatten ++ tail) =
      .ok (⟨(reference self.processorByPid ctx pks).1⟩, (reference self.processorByPid ctx pks).2) := by
  rw [push_packets self ctx pks tail hlen htail, batchOuter_eq_reference hquiet _ _ pks hctx]

/-- The demultiplexer `new` returns from a fresh context of tallies (`new_eq_ok`). -/
def tallyDemux : Demultiplex Tally × DemuxContext Tally TallyConstructor :=
  Demultiplex.init ⟨⟨[]⟩, ⟨0⟩⟩

theorem push_two_tallies :
    tallyDemux.1.push tallyDemux.2 (syncPacket.buf ++ syncPacket.buf) =
      .ok (⟨(reference tallyDemux.1.processorByPid tallyDemux.2 [syncPacket, syncPacket]).1⟩,
        (reference tallyDemux.1.processorByPid tallyDemux.2 [syncPacket, syncPacket]).2) := by
  rw [buf_two_packets]
  exact push_eq_reference (fun _ _ _ h => h) _ _ [syncPacket, syncPacket] []
    (List.forall_mem_cons.2 ⟨length_syncPacket, List.forall_mem_singleton.2 length_syncPacket⟩)
    (by decide) rfl

/-- Two packets of PID `0x100` pushed through a demultiplexer fresh from `new`, whose handlers
enqueue an edit on every packet: `push` never gives the second packet to a handler, while the
per-packet loop consumes both. -/
theorem push_skips_packet_after_edit :
    (counterDemux.1.push counterDemux.2 (syncPacket.buf ++ syncPacket.buf)).map
        (fun r => r.1.processorByPid.get 0x100) = .ok (some ⟨1⟩) ∧
      (reference counterDemux.1.processorByPid counterDemux.2 [syncPacket, syncPacket]).1.get 0x100 =
        some ⟨2⟩ := by
  have hens := withHandler_counterDemux
  have hget := get_withHandler_counterDemux
  have h1 : (0x100 : UInt16) ≠ 0x1ff := by decide
  constructor
  · rw [buf_two_packets, push_packets _ _ [syncPacket, syncPacket] []
      (List.forall_mem_cons.2 ⟨length_syncPacket, List.forall_mem_singleton.2 length_syncPacket⟩)
      (by decide)]
    have hb : batchInner syncPacket.pid ⟨0⟩
        (withHandler counterDemux.1.processorByPid counterDemux.2 syncPacket.pid).1
        (withHandler counterDemux.1.processorByPid counterDemux.2 syncPacket.pid).2
        syncPacket [syncPacket] =
          (.brk [], (counterDemux.1.processorByPid.put syncPacket.pid ⟨0⟩).put syncPacket.pid ⟨1⟩,
            ⟨⟨[.insert 0x1ff ⟨0⟩]⟩, ⟨2⟩⟩) := by
      rw [hens]
      exact batchInner_skips_next rfl rfl syncPacket_sync rfl
    rw [batchOuter_cons_brk syncPacket_sync hget hb, batchOuter]
    simp only [Except.map, FilterChangeset.drain, List.foldl, FilterChange.edit, Filters.get_put,
      syncPacket_pid, h1, if_false, if_true]
  · have hget1 : (counterDemux.1.processorByPid.put syncPacket.pid ⟨0⟩).get syncPacket.pid =
        some ⟨0⟩ := by rw [Filters.get_put, if_pos rfl]
    rw [reference_cons syncPacket_sync hens hget1]
    dsimp only [Counter.consume_eq, FilterChangeset.insert, List.nil_append, FilterChangeset.drain,
      List.foldl_cons, List.foldl_nil, FilterChange.edit]
    have hget2 : (((counterDemux.1.processorByPid.put syncPacket.pid ⟨0⟩).put syncPacket.pid
        ⟨0 + 1⟩).put 0x1ff ⟨0⟩).get syncPacket.pid = some ⟨0 + 1⟩ := by
      rw [Filters.get_put, syncPacket_pid, if_neg h1, Filters.get_put, if_pos rfl]
    rw [reference_cons syncPacket_sync (withHandler_of_get hget2 _) hget2, reference]
    dsimp only [Counter.consume_eq, FilterChangeset.insert, List.nil_append, FilterChangeset.drain,
      List.foldl_cons, List.foldl_nil, FilterChange.edit]
    rw [Filters.get_put, if_neg h1, Filters.get_put, syncPacket_pid, if_pos rfl]

end Reference

end Demultiplex

end Mpeg2TsReader

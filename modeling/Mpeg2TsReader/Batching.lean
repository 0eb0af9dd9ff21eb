import Mpeg2TsReader.Demultiplex

/-!
# Same-PID batching in `push`

`push` reads whole packets from its buffer, and its two loops are a loop over packets in
disguise. `batchInner` and `batchOuter` are the same loops over a list of packets. The
invariant that carries the refinement is `Positioned`: from the loop's position on, the buffer
holds the packets still to read, then fewer than 188 bytes.

* `push_packets`, `push_refines_batchOuter`: on every buffer, `push` computes the packet-level
  loops over the buffer's whole packets;
* `push_drains_changeset`: on a buffer whose packets all start with the sync byte, `push`
  called with an empty changeset returns with an empty changeset.

When a handler enqueues an edit, the inner loop has already moved to the next packet when it
notices (`batchInner_skips_next`), and when the next packet lacks its sync byte, `push`
returns before applying the edits (`batchInner_returns_on_desync`). The concrete run
`push_returns_with_edit_pending` shows the second: the edit is still pending when `push`
returns, and the next `push` skips its first packet.
-/

namespace Mpeg2TsReader

/-- How a batch ends, in packets: `break` with the packets the outer loop reads next, or
`return`. -/
inductive BatchExit where
  /-- `break`, with the packets still to read. -/
  | brk (rest : List Packet)
  /-- `return`, on a packet without its sync byte. -/
  | ret
  deriving DecidableEq, Repr

namespace Demultiplex

variable {F Ctor : Type}

section Inner

variable [PacketFilter F Ctor]

/-- The inner loop of `push` over the packets `pks` that follow the packet `pk`. -/
def batchInner (thisPid : UInt16) (thisProc : F) (filters : Filters F)
    (ctx : DemuxContext F Ctor) (pk : Packet) (pks : List Packet) :
    BatchExit × Filters F × DemuxContext F Ctor :=
  if ctx.changeset.isEmpty then
    let (thisProc, ctx) := PacketFilter.consume thisProc ctx pk
    let filters := filters.put thisPid thisProc
    match pks with
    | [] => (.brk [], filters, ctx)
    | next :: pks =>
      if !Packet.isSyncByte (next.buf.getD 0 0) then (.ret, filters, ctx)
      else if next.pid != thisPid then (.brk (next :: pks), filters, ctx)
      else batchInner thisPid thisProc filters ctx next pks
  else (.brk pks, filters, ctx)
termination_by structural pks

section Step

variable {thisPid : UInt16} {thisProc : F} {filters : Filters F} {ctx : DemuxContext F Ctor}
  {pk : Packet}

/-- With no edit pending, the last packet is consumed and the batch breaks. -/
theorem batchInner_nil (hctx : ctx.changeset.isEmpty = true) :
    batchInner thisPid thisProc filters ctx pk [] =
      (.brk [], filters.put thisPid (PacketFilter.consume thisProc ctx pk).1,
        (PacketFilter.consume thisProc ctx pk).2) := by
  obtain ⟨⟨_ | _⟩, _⟩ := ctx
  · rfl
  · cases hctx

/-- With no edit pending, the packet is consumed, and the next one decides: `return` without
the sync byte, `break` at another PID, and the batch goes on at the same PID. -/
theorem batchInner_cons (hctx : ctx.changeset.isEmpty = true) (next : Packet)
    (pks : List Packet) :
    batchInner thisPid thisProc filters ctx pk (next :: pks) =
      if !Packet.isSyncByte (next.buf.getD 0 0) then
        (.ret, filters.put thisPid (PacketFilter.consume thisProc ctx pk).1,
          (PacketFilter.consume thisProc ctx pk).2)
      else if next.pid != thisPid then
        (.brk (next :: pks), filters.put thisPid (PacketFilter.consume thisProc ctx pk).1,
          (PacketFilter.consume thisProc ctx pk).2)
      else
        batchInner thisPid (PacketFilter.consume thisProc ctx pk).1
          (filters.put thisPid (PacketFilter.consume thisProc ctx pk).1)
          (PacketFilter.consume thisProc ctx pk).2 next pks := by
  obtain ⟨⟨_ | _⟩, _⟩ := ctx
  · rfl
  · cases hctx

/-- With an edit pending, the batch breaks at once, and its packet is not consumed. -/
theorem batchInner_of_pending {pks : List Packet} (hctx : ctx.changeset.isEmpty = false) :
    batchInner thisPid thisProc filters ctx pk pks = (.brk pks, filters, ctx) := by
  obtain ⟨⟨_ | _⟩, _⟩ := ctx
  · cases hctx
  · cases pks <;> rfl

end Step

/-- A batch leaves a suffix of the packets it was given. -/
theorem suffix_rest_batchInner {thisPid : UInt16} {thisProc : F} {filters filters' : Filters F}
    {ctx ctx' : DemuxContext F Ctor} {pk : Packet} {pks rest : List Packet}
    (h : batchInner thisPid thisProc filters ctx pk pks = (.brk rest, filters', ctx')) :
    rest <:+ pks := by
  cases hctx : ctx.changeset.isEmpty with
  | false =>
    rw [batchInner_of_pending hctx] at h
    cases h
    exact List.suffix_refl _
  | true =>
    cases pks with
    | nil =>
      rw [batchInner_nil hctx] at h
      cases h
      exact List.suffix_refl _
    | cons next pks =>
      rw [batchInner_cons hctx] at h
      split at h
      · cases h
      · split at h
        · cases h
          exact List.suffix_refl _
        · exact (suffix_rest_batchInner h).trans (List.suffix_cons _ _)
termination_by structural pks

theorem length_rest_batchInner {thisPid : UInt16} {thisProc : F} {filters filters' : Filters F}
    {ctx ctx' : DemuxContext F Ctor} {pk : Packet} {pks rest : List Packet}
    (h : batchInner thisPid thisProc filters ctx pk pks = (.brk rest, filters', ctx')) :
    rest.length ≤ pks.length :=
  (suffix_rest_batchInner h).length_le

/-- A batch over packets that all begin with the sync byte ends with `break`. -/
theorem batchInner_brk_of_sync (thisPid : UInt16) (thisProc : F) (filters : Filters F)
    (ctx : DemuxContext F Ctor) (pk : Packet) (pks : List Packet)
    (hsync : ∀ q ∈ pks, Packet.isSyncByte (q.buf.getD 0 0) = true) :
    ∃ rest, (batchInner thisPid thisProc filters ctx pk pks).1 = .brk rest := by
  cases hctx : ctx.changeset.isEmpty with
  | false => exact ⟨pks, by rw [batchInner_of_pending hctx]⟩
  | true =>
    cases pks with
    | nil => exact ⟨[], by rw [batchInner_nil hctx]⟩
    | cons next pks =>
      rw [batchInner_cons hctx, if_neg (by rw [hsync next (List.mem_cons_self _ _)]; decide)]
      split
      · exact ⟨_, rfl⟩
      · exact batchInner_brk_of_sync _ _ _ _ next pks
          (fun q hq => hsync q (List.mem_cons_of_mem _ hq))
termination_by structural pks

/-- When the handler enqueues an edit on a packet followed by one of the same PID, the batch
breaks with the position already past that next packet: it is left out of the batch and out of
the packets the outer loop reads next. -/
theorem batchInner_skips_next {thisPid : UInt16} {thisProc : F} {filters : Filters F}
    {ctx : DemuxContext F Ctor} {pk next : Packet} {pks : List Packet}
    (hctx : ctx.changeset.isEmpty = true)
    (hedit : (PacketFilter.consume thisProc ctx pk).2.changeset.isEmpty = false)
    (hsync : Packet.isSyncByte (next.buf.getD 0 0) = true) (hpid : next.pid = thisPid) :
    batchInner thisPid thisProc filters ctx pk (next :: pks) =
      (.brk pks, filters.put thisPid (PacketFilter.consume thisProc ctx pk).1,
        (PacketFilter.consume thisProc ctx pk).2) := by
  rw [batchInner_cons hctx]
  simp only [hsync, hpid, Bool.not_true, Bool.false_eq_true, bne_self_eq_false, if_false]
  exact batchInner_of_pending hedit

/-- On a packet without the sync byte the batch returns, with the changeset as the handler of
the packet before left it. -/
theorem batchInner_returns_on_desync {thisPid : UInt16} {thisProc : F} {filters : Filters F}
    {ctx : DemuxContext F Ctor} {pk next : Packet} {pks : List Packet}
    (hctx : ctx.changeset.isEmpty = true)
    (hsync : Packet.isSyncByte (next.buf.getD 0 0) = false) :
    batchInner thisPid thisProc filters ctx pk (next :: pks) =
      (.ret, filters.put thisPid (PacketFilter.consume thisProc ctx pk).1,
        (PacketFilter.consume thisProc ctx pk).2) := by
  rw [batchInner_cons hctx]
  simp only [hsync, Bool.not_false, if_true]

end Inner

/-! ## The position invariant -/

/-- From position `i` on, the buffer holds the whole packets `pks`, then fewer than
`PACKET_SIZE` bytes. -/
def Positioned (buf : List UInt8) (i : Nat) (pks : List Packet) : Prop :=
  (∀ pk ∈ pks, pk.buf.length = packetSize) ∧
    ∃ tail : List UInt8, tail.length < packetSize ∧ buf.drop i = (pks.map (·.buf)).flatten ++ tail

namespace Positioned

variable {buf : List UInt8} {i : Nat} {pk : Packet} {pks : List Packet}

/-- With no whole packet left, the loop's bound test fails. -/
theorem lt_of_nil (h : Positioned buf i []) : buf.length < i + packetSize := by
  obtain ⟨-, tail, htail, hdrop⟩ := h
  have := congrArg List.length hdrop
  simp only [List.length_drop, List.map_nil, List.flatten_nil, List.nil_append] at this
  omega

theorem length_pk (h : Positioned buf i (pk :: pks)) : pk.buf.length = packetSize :=
  h.1 pk (List.mem_cons_self _ _)

theorem add_le (h : Positioned buf i (pk :: pks)) : i + packetSize ≤ buf.length := by
  have hpk := h.length_pk
  obtain ⟨-, tail, -, hdrop⟩ := h
  have := congrArg List.length hdrop
  simp only [List.length_drop, List.map_cons, List.flatten_cons, List.length_append, hpk,
    packetSize] at this ⊢
  omega

/-- The slice `buf[i..i+PACKET_SIZE]` is the first packet. -/
theorem slice_eq (h : Positioned buf i (pk :: pks)) :
    slice buf i (i + packetSize) = .ok pk.buf := by
  have hpk := h.length_pk
  rw [slice_of_le (Nat.le_add_right _ _) h.add_le, List.drop_take, Nat.add_sub_cancel_left]
  obtain ⟨-, tail, -, hdrop⟩ := h
  rw [hdrop, List.map_cons, List.flatten_cons, List.append_assoc, List.take_left' hpk]

/-- Past the first packet, the buffer holds the others. -/
theorem next (h : Positioned buf i (pk :: pks)) : Positioned buf (i + packetSize) pks := by
  obtain ⟨hlen, tail, htail, hdrop⟩ := h
  refine ⟨fun q hq => hlen q (List.mem_cons_of_mem _ hq), tail, htail, ?_⟩
  rw [← List.drop_drop, hdrop, List.map_cons, List.flatten_cons, List.append_assoc,
    List.drop_left' (hlen pk (List.mem_cons_self _ _))]

/-- Past the end of the whole packets, nothing is left to read. -/
theorem of_lt (h : buf.length < i) : Positioned buf i [] :=
  ⟨fun _ h => (nomatch h), [], by decide, by simp [List.drop_eq_nil_of_le (Nat.le_of_lt h)]⟩

end Positioned

/-- The end of the byte-level inner loop matches the end of the packet-level one: the same
table and context and, after a `break`, the packets still to read from the next position. -/
def ExitMatches (buf : List UInt8) :
    InnerExit × Filters F × DemuxContext F Ctor → BatchExit × Filters F × DemuxContext F Ctor →
      Prop
  | (.ret, filters, ctx), (.ret, filters', ctx') => filters = filters' ∧ ctx = ctx'
  | (.brk i, filters, ctx), (.brk rest, filters', ctx') =>
    Positioned buf (i + packetSize) rest ∧ filters = filters' ∧ ctx = ctx'
  | _, _ => False

section Inner

variable [PacketFilter F Ctor]

/-- On a buffer of whole packets, the byte-level inner loop ends as the packet-level one. -/
theorem pushInner_packets (buf : List UInt8) (thisPid : UInt16) (thisProc : F)
    (filters : Filters F) (ctx : DemuxContext F Ctor) (pk : Packet) (pks : List Packet)
    (i : Nat) (hpos : Positioned buf i (pk :: pks)) :
    ∃ r, pushInner buf thisPid thisProc filters ctx pk i = .ok r ∧
      ExitMatches buf r (batchInner thisPid thisProc filters ctx pk pks) := by
  rw [pushInner]
  by_cases hempty : ctx.changeset.isEmpty
  · rw [if_pos hempty]
    cases pks with
    | nil =>
      rw [batchInner_nil hempty]
      generalize PacketFilter.consume thisProc ctx pk = c
      obtain ⟨thisProc', ctx'⟩ := c
      dsimp only
      rw [if_pos hpos.next.lt_of_nil]
      exact ⟨_, rfl, Positioned.of_lt (by have := hpos.next.lt_of_nil; omega), rfl, rfl⟩
    | cons next pks =>
      rw [batchInner_cons hempty]
      generalize PacketFilter.consume thisProc ctx pk = c
      obtain ⟨thisProc', ctx'⟩ := c
      dsimp only
      have hpos' := hpos.next
      rw [if_neg (Nat.not_lt.2 hpos'.add_le), hpos'.slice_eq, ok_bind,
        Packet.index_zero hpos'.length_pk, ok_bind, Packet.new_buf]
      by_cases hsync : Packet.isSyncByte (next.buf.getD 0 0)
      · simp only [hsync, Bool.not_true, Bool.false_eq_true, if_false]
        by_cases hpid : next.pid = thisPid
        · simp only [hpid, bne_self_eq_false, Bool.false_eq_true, if_false]
          exact pushInner_packets buf thisPid thisProc' _ ctx' next pks _ hpos'
        · simp only [bne_iff_ne, ne_eq, hpid, not_false_eq_true, if_true]
          rw [usizeSub_of_le (Nat.le_add_left _ _), ok_bind, Nat.add_sub_cancel]
          exact ⟨_, rfl, hpos', rfl, rfl⟩
      · simp only [hsync, Bool.not_false, if_true]
        exact ⟨_, rfl, rfl, rfl⟩
  · rw [if_neg hempty, batchInner_of_pending (Bool.eq_false_iff.2 hempty)]
    exact ⟨_, rfl, hpos.next, rfl, rfl⟩
termination_by structural pks

end Inner

section Outer

variable [StreamConstructor Ctor F] [PacketFilter F Ctor]

/-- The outer loop of `push` over the packets `pks`. The `none` branch is the `unwrap` that
`isSome_get_withHandler` shows never fails. -/
def batchOuter (filters : Filters F) (ctx : DemuxContext F Ctor) :
    List Packet → Filters F × DemuxContext F Ctor
  | [] => (filters, ctx)
  | pk :: pks =>
    if Packet.isSyncByte (pk.buf.getD 0 0) then
      let (filters, ctx) := withHandler filters ctx pk.pid
      match filters.get pk.pid with
      | none => (filters, ctx)
      | some thisProc =>
        match h : batchInner pk.pid thisProc filters ctx pk pks with
        | (.ret, filters, ctx) => (filters, ctx)
        | (.brk rest, filters, ctx) =>
          have : rest.length ≤ pks.length := length_rest_batchInner h
          let (changeset, filters) :=
            if !ctx.changeset.isEmpty then ctx.changeset.drain filters else (ctx.changeset, filters)
          batchOuter filters { ctx with changeset } rest
    else (filters, ctx)
termination_by pks => pks.length

/-- A batch that ends with `break` is followed by the apply and the rest of the loop. -/
theorem batchOuter_cons_brk {filters : Filters F} {ctx : DemuxContext F Ctor} {pk : Packet}
    {pks rest : List Packet} {thisProc : F} {filters' : Filters F} {ctx' : DemuxContext F Ctor}
    (hsync : Packet.isSyncByte (pk.buf.getD 0 0) = true)
    (hget : (withHandler filters ctx pk.pid).1.get pk.pid = some thisProc)
    (h : batchInner pk.pid thisProc (withHandler filters ctx pk.pid).1
      (withHandler filters ctx pk.pid).2 pk pks = (.brk rest, filters', ctx')) :
    batchOuter filters ctx (pk :: pks) =
      batchOuter (ctx'.changeset.drain filters').2
        { ctx' with changeset := (ctx'.changeset.drain filters').1 } rest := by
  rw [batchOuter, if_pos hsync]
  dsimp only
  generalize withHandler filters ctx pk.pid = fc at hget h ⊢
  simp only [hget]
  split <;> rename_i heq <;> rw [heq] at h <;> cases h
  simp only [drain_if_nonempty]

/-- A batch that ends with `return` ends the loop, with the changeset as the batch left it. -/
theorem batchOuter_cons_ret {filters : Filters F} {ctx : DemuxContext F Ctor} {pk : Packet}
    {pks : List Packet} {thisProc : F} {filters' : Filters F} {ctx' : DemuxContext F Ctor}
    (hsync : Packet.isSyncByte (pk.buf.getD 0 0) = true)
    (hget : (withHandler filters ctx pk.pid).1.get pk.pid = some thisProc)
    (h : batchInner pk.pid thisProc (withHandler filters ctx pk.pid).1
      (withHandler filters ctx pk.pid).2 pk pks = (.ret, filters', ctx')) :
    batchOuter filters ctx (pk :: pks) = (filters', ctx') := by
  rw [batchOuter, if_pos hsync]
  dsimp only
  generalize withHandler filters ctx pk.pid = fc at hget h ⊢
  simp only [hget]
  split <;> rename_i heq <;> rw [heq] at h <;> cases h
  rfl

/-- On a buffer of whole packets from position `i` on, the byte-level outer loop computes the
packet-level one. -/
theorem pushOuter_packets (buf : List UInt8) (filters : Filters F) (ctx : DemuxContext F Ctor)
    (i : Nat) (pks : List Packet) (hpos : Positioned buf i pks) :
    pushOuter buf filters ctx i = .ok (batchOuter filters ctx pks) := by
  match pks, hpos with
  | [], hpos =>
    rw [pushOuter_of_lt filters ctx hpos.lt_of_nil, batchOuter]
  | pk :: pks, hpos =>
    cases hsync : Packet.isSyncByte (pk.buf.getD 0 0)
    · rw [pushOuter_of_desync filters ctx hpos.add_le hpos.slice_eq hpos.length_pk hsync,
        batchOuter, hsync, if_neg Bool.false_ne_true]
    · obtain ⟨proc, hproc⟩ :=
        Option.isSome_iff_exists.1 (isSome_get_withHandler filters ctx pk.pid)
      obtain ⟨r, hr, hm⟩ := pushInner_packets buf pk.pid proc _ _ pk pks i hpos
      rw [pushOuter_of_sync hpos.add_le hpos.slice_eq hpos.length_pk hsync hproc, hr]
      obtain ⟨i' | _, f', c'⟩ := r <;>
        rcases hb : batchInner pk.pid proc (withHandler filters ctx pk.pid).1
          (withHandler filters ctx pk.pid).2 pk pks with ⟨rest | _, f, c⟩ <;>
        rw [hb] at hm
      · obtain ⟨hpos', rfl, rfl⟩ := hm
        have : rest.length < pks.length + 1 := Nat.lt_succ_of_le (length_rest_batchInner hb)
        rw [batchOuter_cons_brk hsync hproc hb]
        exact pushOuter_packets buf _ _ _ rest hpos'
      · exact hm.elim
      · exact hm.elim
      · obtain ⟨rfl, rfl⟩ := hm
        rw [batchOuter_cons_ret hsync hproc hb]
termination_by pks.length
decreasing_by exact this

/-- On a buffer of whole packets and a shorter tail, `push` computes the packet-level loops. -/
theorem push_packets (self : Demultiplex F) (ctx : DemuxContext F Ctor) (pks : List Packet)
    (tail : List UInt8) (hlen : ∀ pk ∈ pks, pk.buf.length = packetSize)
    (htail : tail.length < packetSize) :
    self.push ctx ((pks.map (·.buf)).flatten ++ tail) =
      .ok (⟨(batchOuter self.processorByPid ctx pks).1⟩, (batchOuter self.processorByPid ctx pks).2) := by
  rw [push, pushOuter_packets _ _ _ 0 pks ⟨hlen, tail, htail, List.drop_zero _⟩]
  rfl

/-- Over packets that all begin with the sync byte, the outer loop that starts with an empty
changeset ends with one. -/
theorem isEmpty_batchOuter (filters : Filters F) (ctx : DemuxContext F Ctor) (pks : List Packet)
    (hsync : ∀ pk ∈ pks, Packet.isSyncByte (pk.buf.getD 0 0) = true)
    (hctx : ctx.changeset.isEmpty = true) :
    (batchOuter filters ctx pks).2.changeset.isEmpty = true := by
  match pks, hsync with
  | [], _ =>
    rw [batchOuter]
    exact hctx
  | pk :: pks, hsync =>
    obtain ⟨proc, hproc⟩ :=
      Option.isSome_iff_exists.1 (isSome_get_withHandler filters ctx pk.pid)
    obtain ⟨rest, hrest⟩ := batchInner_brk_of_sync pk.pid proc (withHandler filters ctx pk.pid).1
      (withHandler filters ctx pk.pid).2 pk pks (fun q hq => hsync q (List.mem_cons_of_mem _ hq))
    rcases hb : batchInner pk.pid proc (withHandler filters ctx pk.pid).1
      (withHandler filters ctx pk.pid).2 pk pks with ⟨e, f, c⟩
    rw [hb] at hrest
    obtain rfl : e = .brk rest := hrest
    have : rest.length < pks.length + 1 := Nat.lt_succ_of_le (length_rest_batchInner hb)
    rw [batchOuter_cons_brk (hsync pk (List.mem_cons_self _ _)) hproc hb]
    exact isEmpty_batchOuter _ _ rest
      (fun q hq => hsync q (List.mem_cons_of_mem _ ((suffix_rest_batchInner hb).subset hq))) rfl
termination_by pks.length
decreasing_by exact this

end Outer

/-- Every buffer is whole packets followed by fewer than `PACKET_SIZE` bytes. -/
theorem exists_packets (buf : List UInt8) :
    ∃ pks : List Packet, ∃ tail : List UInt8, (∀ pk ∈ pks, pk.buf.length = packetSize) ∧
      tail.length < packetSize ∧ buf = (pks.map (·.buf)).flatten ++ tail := by
  by_cases h : buf.length < packetSize
  · exact ⟨[], buf, fun _ h => (nomatch h), h, rfl⟩
  · obtain ⟨pks, tail, hlen, htail, heq⟩ := exists_packets (buf.drop packetSize)
    refine ⟨⟨buf.take packetSize⟩ :: pks, tail, ?_, htail, ?_⟩
    · rintro pk (_ | ⟨_, hpk⟩)
      · simp only [List.length_take]; omega
      · exact hlen pk hpk
    · rw [List.map_cons, List.flatten_cons, List.append_assoc, ← heq, List.take_append_drop]
termination_by buf.length
decreasing_by simp only [List.length_drop, packetSize] at h ⊢; omega

/-- On every buffer, `push` computes the packet-level loops over the buffer's whole packets: the
trailing bytes that do not fill a packet are never read. -/
theorem push_refines_batchOuter [StreamConstructor Ctor F] [PacketFilter F Ctor]
    (self : Demultiplex F) (ctx : DemuxContext F Ctor) (buf : List UInt8) :
    ∃ pks : List Packet, ∃ tail : List UInt8, (∀ pk ∈ pks, pk.buf.length = packetSize) ∧
      tail.length < packetSize ∧ buf = (pks.map (·.buf)).flatten ++ tail ∧
      self.push ctx buf =
        .ok (⟨(batchOuter self.processorByPid ctx pks).1⟩, (batchOuter self.processorByPid ctx pks).2) := by
  obtain ⟨pks, tail, hlen, htail, rfl⟩ := exists_packets buf
  exact ⟨pks, tail, hlen, htail, rfl, push_packets self ctx pks tail hlen htail⟩

/-! ## Concrete runs -/

/-- A packet of PID `0x100` that begins with the sync byte. -/
def syncPacket : Packet := ⟨0x47 :: 0x01 :: 0x00 :: List.replicate 185 0⟩

/-- A packet that does not begin with the sync byte. -/
def desyncPacket : Packet := ⟨List.replicate 188 0⟩

theorem syncPacket_pid : syncPacket.pid = 0x100 := by decide

theorem syncPacket_sync : Packet.isSyncByte (syncPacket.buf.getD 0 0) = true := by decide

theorem desyncPacket_sync : Packet.isSyncByte (desyncPacket.buf.getD 0 0) = false := by decide

theorem length_syncPacket : syncPacket.buf.length = packetSize := by
  simp only [syncPacket, List.length_cons, List.length_replicate, packetSize]

theorem length_desyncPacket : desyncPacket.buf.length = packetSize := List.length_replicate _ _

theorem buf_two_packets (p q : Packet) : p.buf ++ q.buf = ([p, q].map (·.buf)).flatten ++ [] := by
  simp only [List.map_cons, List.map_nil, List.flatten_cons, List.flatten_nil, List.append_nil]

/-- The demultiplexer `new` returns from a fresh context of counters (`new_eq_ok`). -/
def counterDemux : Demultiplex Counter × DemuxContext Counter CounterConstructor :=
  Demultiplex.init ⟨⟨[]⟩, ⟨0⟩⟩

/-- The table of `counterDemux` has no handler but the one at PID 0. -/
theorem get_counterDemux {p : UInt16} (hp : p ≠ 0) : counterDemux.1.processorByPid.get p = none := by
  show (Filters.new.put 0 _).get p = none
  rw [Filters.get_put, if_neg hp, Filters.get_new]

theorem withHandler_counterDemux :
    withHandler counterDemux.1.processorByPid counterDemux.2 syncPacket.pid =
      (counterDemux.1.processorByPid.put syncPacket.pid ⟨0⟩, ⟨⟨[]⟩, ⟨2⟩⟩) := by
  rw [withHandler_of_get_none (get_counterDemux (by rw [syncPacket_pid]; decide))]
  rfl

theorem get_withHandler_counterDemux :
    (withHandler counterDemux.1.processorByPid counterDemux.2 syncPacket.pid).1.get
      syncPacket.pid = some ⟨0⟩ := by
  rw [withHandler_counterDemux, Filters.get_put, if_pos rfl]

/-! ## Draining the changeset -/

section Drain

variable [StreamConstructor Ctor F] [PacketFilter F Ctor]

/-- On a buffer whose whole packets all begin with the sync byte, `push` called with an empty
changeset returns with an empty changeset, whatever edits the handlers enqueue. -/
theorem push_drains_changeset (self : Demultiplex F) (ctx : DemuxContext F Ctor)
    (pks : List Packet) (tail : List UInt8) (hlen : ∀ pk ∈ pks, pk.buf.length = packetSize)
    (hsync : ∀ pk ∈ pks, Packet.isSyncByte (pk.buf.getD 0 0) = true)
    (htail : tail.length < packetSize) (hctx : ctx.changeset.isEmpty = true) :
    ∃ r, self.push ctx ((pks.map (·.buf)).flatten ++ tail) = .ok r ∧
      r.2.changeset.isEmpty = true :=
  ⟨_, push_packets self ctx pks tail hlen htail, isEmpty_batchOuter _ _ pks hsync hctx⟩

end Drain

theorem push_drains_changeset_counter :
    ∃ r, counterDemux.1.push counterDemux.2 (syncPacket.buf ++ syncPacket.buf) = .ok r ∧
      r.2.changeset.isEmpty = true := by
  rw [buf_two_packets]
  exact push_drains_changeset _ _ [syncPacket, syncPacket] []
    (List.forall_mem_cons.2 ⟨length_syncPacket, List.forall_mem_singleton.2 length_syncPacket⟩)
    (List.forall_mem_cons.2 ⟨syncPacket_sync, List.forall_mem_singleton.2 syncPacket_sync⟩)
    (by decide) rfl

/-- A packet of PID `0x100` whose handler enqueues an edit, then a packet without the sync byte:
`push` returns with the edit pending and not applied to the table, and the next `push` skips its
first packet. -/
theorem push_returns_with_edit_pending :
    ∃ demux ctx, counterDemux.1.push counterDemux.2 (syncPacket.buf ++ desyncPacket.buf) =
        .ok (demux, ctx) ∧
      ctx.changeset.updates = [.insert 0x1ff ⟨0⟩] ∧ demux.processorByPid.get 0x1ff = none ∧
      (demux.push ctx syncPacket.buf).map (fun r => r.1.processorByPid.get 0x100) =
        .ok (some ⟨1⟩) := by
  have hb : batchInner syncPacket.pid ⟨0⟩
      (withHandler counterDemux.1.processorByPid counterDemux.2 syncPacket.pid).1
      (withHandler counterDemux.1.processorByPid counterDemux.2 syncPacket.pid).2
      syncPacket [desyncPacket] =
        (.ret, (counterDemux.1.processorByPid.put syncPacket.pid ⟨0⟩).put syncPacket.pid ⟨1⟩,
          ⟨⟨[.insert 0x1ff ⟨0⟩]⟩, ⟨2⟩⟩) := by
    rw [withHandler_counterDemux]
    exact batchInner_returns_on_desync rfl desyncPacket_sync
  rw [buf_two_packets, push_packets _ _ [syncPacket, desyncPacket] []
    (List.forall_mem_cons.2 ⟨length_syncPacket, List.forall_mem_singleton.2 length_desyncPacket⟩)
    (by decide), batchOuter_cons_ret syncPacket_sync get_withHandler_counterDemux hb]
  refine ⟨_, _, rfl, rfl, ?_, ?_⟩
  · rw [Filters.get_put, syncPacket_pid, if_neg (by decide), Filters.get_put,
      if_neg (by decide), get_counterDemux (by decide)]
  · have hget : ((counterDemux.1.processorByPid.put syncPacket.pid ⟨0⟩).put syncPacket.pid
        ⟨1⟩).get syncPacket.pid = some ⟨1⟩ := by
      rw [Filters.get_put, if_pos rfl]
    have hbuf : syncPacket.buf = ([syncPacket].map (·.buf)).flatten ++ [] := by
      simp only [List.map_cons, List.map_nil, List.flatten_cons, List.flatten_nil, List.append_nil]
    rw [hbuf, push_packets _ _ [syncPacket] [] (List.forall_mem_singleton.2 length_syncPacket)
      (by decide), batchOuter_cons_brk syncPacket_sync (by rw [withHandler_of_get hget]; exact hget)
      (by rw [withHandler_of_get hget]; exact batchInner_of_pending rfl), batchOuter]
    dsimp only [Except.map, FilterChangeset.drain, List.foldl_cons, List.foldl_nil,
      FilterChange.edit]
    rw [Filters.get_put, if_neg (by decide), ← syncPacket_pid, hget]

end Demultiplex

end Mpeg2TsReader

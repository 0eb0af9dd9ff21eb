import Mpeg2TsReader.Context

/-!
# The demultiplexer

`Demultiplex::push` cuts a byte buffer into 188-byte packets and hands each one to the handler
installed for its PID, constructing one first when the PID has none. Packets with the PID of
the packet before are handed over in a batch by an inner loop, which stops as soon as a handler
has enqueued an edit of the filter table; the edits are applied when the batch ends.

The two nested loops move the buffer position `i` forwards by a packet per turn, and the inner
loop moves it back by one packet when it meets a packet of another PID. `pushInner` and
`pushOuter` are the two loops, with the position as their termination measure, and every
access of the source that can panic is explicit.

* `new_eq_ok`, `ensureHandler_eq_ok`: the stores of `Filters::insert` in `new` and in the
  block of `push` that installs a missing handler are in range, so they return `init` and
  `withHandler`, through which the later modules read them;
* `pushInner_spec`: the inner loop never panics, and it stops at or after the position it
  started from;
* `push_returns`: `push` returns normally on every buffer, for every handler and constructor.
-/

namespace Mpeg2TsReader

/-- `Demultiplex<Ctx>`. -/
structure Demultiplex (F : Type) where
  /-- `processor_by_pid`: the handler of each PID. -/
  processorByPid : Filters F

/-- How the inner loop of `push` ends: `break` at a position of the buffer, or `return` from
`push` itself. -/
inductive InnerExit where
  /-- `break`, with the position reached. -/
  | brk (i : Nat)
  /-- `return`, on a packet without its sync byte. -/
  | ret
  deriving DecidableEq, Repr

namespace Demultiplex

variable {F Ctor : Type}

/-- `Demultiplex::new`: a table holding only the handler for PID 0, which carries the PAT. -/
def new [StreamConstructor Ctor F] (ctx : DemuxContext F Ctor) :
    Except Panic (Demultiplex F × DemuxContext F Ctor) := do
  let (filter, ctx) := ctx.construct (.byPid 0)
  .ok (⟨← Filters.new.insert 0 filter⟩, ctx)

/-- The demultiplexer and context `new` returns (`new_eq_ok`). -/
def init [StreamConstructor Ctor F] (ctx : DemuxContext F Ctor) :
    Demultiplex F × DemuxContext F Ctor :=
  (⟨Filters.new.put 0 (ctx.construct (.byPid 0)).1⟩, (ctx.construct (.byPid 0)).2)

/-- `new` never panics. -/
theorem new_eq_ok [StreamConstructor Ctor F] (ctx : DemuxContext F Ctor) :
    new ctx = .ok (init ctx) := by
  rw [new]
  dsimp only
  rw [Filters.insert_eq_ok]
  rfl

section Inner

variable [PacketFilter F Ctor]

/-- The inner loop `while ctx.filter_changeset().is_empty() { .. }` of `push`, for the handler
`thisProc` of `thisPid` and the packet `pk` at position `i`. The handler is the one
`processor_by_pid.get(this_pid)` lends, so each `consume` lands in its slot of the table. -/
def pushInner (buf : List UInt8) (thisPid : UInt16) (thisProc : F) (filters : Filters F)
    (ctx : DemuxContext F Ctor) (pk : Packet) (i : Nat) :
    Except Panic (InnerExit × Filters F × DemuxContext F Ctor) :=
  if ctx.changeset.isEmpty then
    let (thisProc, ctx) := PacketFilter.consume thisProc ctx pk
    let filters := filters.put thisPid thisProc
    let i := i + packetSize
    let stop := i + packetSize
    if stop > buf.length then .ok (.brk i, filters, ctx)
    else do
      let pkBuf ← slice buf i stop
      if !Packet.isSyncByte (← index pkBuf 0) then .ok (.ret, filters, ctx)
      else
        let pk := Packet.new pkBuf
        if pk.pid != thisPid then do
          let i ← usizeSub i packetSize
          .ok (.brk i, filters, ctx)
        else pushInner buf thisPid thisProc filters ctx pk i
  else .ok (.brk i, filters, ctx)
termination_by buf.length - i
decreasing_by
  have h : ¬stop > buf.length := ‹_›
  simp only [stop, i, packetSize] at h ⊢
  omega

/-- The inner loop never panics, and a `break` leaves the position at or after the packet it
started from. -/
theorem pushInner_spec (buf : List UInt8) (thisPid : UInt16) (thisProc : F)
    (filters : Filters F) (ctx : DemuxContext F Ctor) (pk : Packet) (i : Nat) :
    ∃ r, pushInner buf thisPid thisProc filters ctx pk i = .ok r ∧
      ∀ i', r.1 = .brk i' → i ≤ i' := by
  rw [pushInner]
  by_cases hempty : ctx.changeset.isEmpty
  · rw [if_pos hempty]
    generalize PacketFilter.consume thisProc ctx pk = c
    obtain ⟨thisProc', ctx'⟩ := c
    dsimp only
    by_cases hstop : i + packetSize + packetSize > buf.length
    · rw [if_pos hstop]
      exact ⟨_, rfl, fun i' h => by cases h; omega⟩
    · have hlen : ((buf.take (i + packetSize + packetSize)).drop (i + packetSize)).length =
          packetSize := by
        rw [List.length_drop, List.length_take]
        simp only [packetSize] at hstop ⊢
        omega
      rw [if_neg hstop, slice_of_le (by omega) (by omega), ok_bind,
        index_of_lt (by rw [hlen]; decide), ok_bind]
      split
      · exact ⟨_, rfl, fun i' h => by cases h⟩
      · split
        · rw [usizeSub_of_le (Nat.le_add_left _ _), ok_bind]
          exact ⟨_, rfl, fun i' h => by simp only [InnerExit.brk.injEq] at h; omega⟩
        · obtain ⟨r, hr, hle⟩ := pushInner_spec buf thisPid thisProc'
            (filters.put thisPid thisProc') ctx' _ (i + packetSize)
          exact ⟨r, hr, fun i' h => Nat.le_trans (Nat.le_add_right _ _) (hle i' h)⟩
  · rw [if_neg hempty]
    exact ⟨_, rfl, fun i' h => by cases h; rfl⟩
termination_by buf.length - i
decreasing_by simp only [packetSize] at hstop ⊢; omega

theorem le_of_pushInner {buf : List UInt8} {thisPid : UInt16} {thisProc : F}
    {filters filters' : Filters F} {ctx ctx' : DemuxContext F Ctor} {pk : Packet} {i i' : Nat}
    (h : pushInner buf thisPid thisProc filters ctx pk i = .ok (.brk i', filters', ctx')) :
    i ≤ i' := by
  obtain ⟨r, hr, hle⟩ := pushInner_spec buf thisPid thisProc filters ctx pk i
  rw [hr] at h
  cases h
  exact hle i' rfl

end Inner

section Handler

variable [StreamConstructor Ctor F]

/-- The block of `push` that gives a PID without a handler the one the constructor returns
for `FilterRequest::ByPid`. -/
def ensureHandler (filters : Filters F) (ctx : DemuxContext F Ctor) (pid : UInt16) :
    Except Panic (Filters F × DemuxContext F Ctor) :=
  if !filters.contains pid then do
    let (filter, ctx) := ctx.construct (.byPid pid)
    .ok (← filters.insert pid filter, ctx)
  else .ok (filters, ctx)

/-- The table and context `ensureHandler` returns (`ensureHandler_eq_ok`). -/
def withHandler (filters : Filters F) (ctx : DemuxContext F Ctor) (pid : UInt16) :
    Filters F × DemuxContext F Ctor :=
  if !filters.contains pid then
    let (filter, ctx) := ctx.construct (.byPid pid)
    (filters.put pid filter, ctx)
  else (filters, ctx)

/-- The block never panics. -/
theorem ensureHandler_eq_ok (filters : Filters F) (ctx : DemuxContext F Ctor) (pid : UInt16) :
    ensureHandler filters ctx pid = .ok (withHandler filters ctx pid) := by
  unfold ensureHandler withHandler
  split
  · simp only [Filters.insert_eq_ok]; rfl
  · rfl

/-- After `withHandler`, `get` finds a handler. -/
theorem isSome_get_withHandler (filters : Filters F) (ctx : DemuxContext F Ctor)
    (pid : UInt16) : ((withHandler filters ctx pid).1.get pid).isSome = true := by
  by_cases hc : filters.contains pid
  · have hget := hc
    rw [filters.contains_eq_isSome_get] at hget
    simp [withHandler, hc, hget]
  · simp [withHandler, hc]

@[simp]
theorem changeset_withHandler (filters : Filters F) (ctx : DemuxContext F Ctor) (pid : UInt16) :
    (withHandler filters ctx pid).2.changeset = ctx.changeset := by
  unfold withHandler
  split <;> rfl

theorem withHandler_of_get {filters : Filters F} {pid : UInt16} {proc : F}
    (h : filters.get pid = some proc) (ctx : DemuxContext F Ctor) :
    withHandler filters ctx pid = (filters, ctx) := by
  have hc : filters.contains pid = true := by rw [Filters.contains_eq_isSome_get, h]; rfl
  simp [withHandler, hc]

theorem withHandler_of_get_none {filters : Filters F} {pid : UInt16}
    (h : filters.get pid = none) (ctx : DemuxContext F Ctor) :
    withHandler filters ctx pid =
      (filters.put pid (ctx.construct (.byPid pid)).1, (ctx.construct (.byPid pid)).2) := by
  have hc : filters.contains pid = false := by rw [Filters.contains_eq_isSome_get, h]; rfl
  simp [withHandler, hc]

/-- A second `withHandler` for the same PID finds the handler the first one left. -/
theorem withHandler_withHandler (filters : Filters F) (ctx : DemuxContext F Ctor)
    (pid : UInt16) :
    withHandler (withHandler filters ctx pid).1 (withHandler filters ctx pid).2 pid =
      withHandler filters ctx pid := by
  obtain ⟨proc, hproc⟩ := Option.isSome_iff_exists.1 (isSome_get_withHandler filters ctx pid)
  exact withHandler_of_get hproc _

end Handler

variable [StreamConstructor Ctor F] [PacketFilter F Ctor]

/-- The outer `loop` of `push`, from position `i`. -/
def pushOuter (buf : List UInt8) (filters : Filters F) (ctx : DemuxContext F Ctor) (i : Nat) :
    Except Panic (Filters F × DemuxContext F Ctor) :=
  let stop := i + packetSize
  if stop > buf.length then .ok (filters, ctx)
  else do
    let pkBuf ← slice buf i stop
    if Packet.isSyncByte (← index pkBuf 0) then
      let pk := Packet.new pkBuf
      let thisPid := pk.pid
      let (filters, ctx) ← ensureHandler filters ctx thisPid
      let thisProc ← unwrap (filters.get thisPid)
      match h : pushInner buf thisPid thisProc filters ctx pk i with
      | .error e => .error e
      | .ok (.ret, filters, ctx) => .ok (filters, ctx)
      | .ok (.brk i', filters, ctx) =>
        have : i ≤ i' := le_of_pushInner h
        let (changeset, filters) ← (if !ctx.changeset.isEmpty then ctx.changeset.apply filters
          else .ok (ctx.changeset, filters))
        let ctx := { ctx with changeset }
        if !ctx.changeset.isEmpty then .error .debugAssertion
        else pushOuter buf filters ctx (i' + packetSize)
    else .ok (filters, ctx)
termination_by buf.length - i
decreasing_by
  have hstop : ¬stop > buf.length := ‹_›
  simp only [stop, packetSize] at hstop ⊢
  omega

/-- `Demultiplex::push`. -/
def push (self : Demultiplex F) (ctx : DemuxContext F Ctor) (buf : List UInt8) :
    Except Panic (Demultiplex F × DemuxContext F Ctor) := do
  let (filters, ctx) ← pushOuter buf self.processorByPid ctx 0
  .ok (⟨filters⟩, ctx)

/-- Draining an empty changeset changes nothing, so the test before `apply` only saves work. -/
theorem drain_if_nonempty (cs : FilterChangeset F) (filters : Filters F) :
    (if !cs.isEmpty then cs.drain filters else (cs, filters)) = cs.drain filters := by
  obtain ⟨_ | ⟨c, updates⟩⟩ := cs <;> rfl

/-- The test before `apply`, and `apply`, never panic. -/
theorem apply_if_nonempty (cs : FilterChangeset F) (filters : Filters F) :
    (if !cs.isEmpty then cs.apply filters else .ok (cs, filters)) = .ok (cs.drain filters) := by
  rw [FilterChangeset.apply_eq_ok, ← drain_if_nonempty]
  split <;> rfl

/-- The outer loop past the last whole packet returns. -/
theorem pushOuter_of_lt {buf : List UInt8} {i : Nat} (filters : Filters F)
    (ctx : DemuxContext F Ctor) (h : buf.length < i + packetSize) :
    pushOuter buf filters ctx i = .ok (filters, ctx) := by
  rw [pushOuter]
  exact if_pos h

/-- The outer loop at a whole packet without the sync byte returns. -/
theorem pushOuter_of_desync {buf : List UInt8} {i : Nat} {pk : Packet} (filters : Filters F)
    (ctx : DemuxContext F Ctor) (hle : i + packetSize ≤ buf.length)
    (hslice : slice buf i (i + packetSize) = .ok pk.buf) (hlen : pk.buf.length = packetSize)
    (hsync : Packet.isSyncByte (pk.buf.getD 0 0) = false) :
    pushOuter buf filters ctx i = .ok (filters, ctx) := by
  rw [pushOuter]
  dsimp only
  rw [if_neg (Nat.not_lt.2 hle), hslice, ok_bind, Packet.index_zero hlen, ok_bind, hsync]
  rfl

/-- The outer loop at a whole packet with the sync byte: the packet's PID gets its handler, the
inner loop runs from the packet, and after a `break` the changeset is applied and the loop goes
on one packet past the position the inner loop reached. -/
theorem pushOuter_of_sync {buf : List UInt8} {i : Nat} {pk : Packet} {filters : Filters F}
    {ctx : DemuxContext F Ctor} {thisProc : F} (hle : i + packetSize ≤ buf.length)
    (hslice : slice buf i (i + packetSize) = .ok pk.buf) (hlen : pk.buf.length = packetSize)
    (hsync : Packet.isSyncByte (pk.buf.getD 0 0) = true)
    (hget : (withHandler filters ctx pk.pid).1.get pk.pid = some thisProc) :
    pushOuter buf filters ctx i =
      match pushInner buf pk.pid thisProc (withHandler filters ctx pk.pid).1
          (withHandler filters ctx pk.pid).2 pk i with
      | .error e => .error e
      | .ok (.ret, filters, ctx) => .ok (filters, ctx)
      | .ok (.brk i', filters, ctx) =>
        pushOuter buf (ctx.changeset.drain filters).2
          { ctx with changeset := (ctx.changeset.drain filters).1 } (i' + packetSize) := by
  rw [pushOuter]
  dsimp only
  rw [if_neg (Nat.not_lt.2 hle), hslice, ok_bind, Packet.index_zero hlen, ok_bind, if_pos hsync,
    Packet.new_buf, ensureHandler_eq_ok, ok_bind]
  generalize withHandler filters ctx pk.pid = fc at hget ⊢
  simp only [hget, unwrap, ok_bind]
  split <;> rename_i heq <;> rw [heq]
  simp only [apply_if_nonempty, ok_bind, FilterChangeset.isEmpty_drain, Bool.not_true,
    Bool.false_eq_true, if_false]

/-- The outer loop never panics. -/
theorem pushOuter_ok (buf : List UInt8) (filters : Filters F) (ctx : DemuxContext F Ctor)
    (i : Nat) : ∃ r, pushOuter buf filters ctx i = .ok r := by
  by_cases hstop : buf.length < i + packetSize
  · exact ⟨_, pushOuter_of_lt filters ctx hstop⟩
  · have hle : i + packetSize ≤ buf.length := Nat.not_lt.1 hstop
    let pk : Packet := ⟨(buf.take (i + packetSize)).drop i⟩
    have hlen : pk.buf.length = packetSize := by
      simp only [pk, List.length_drop, List.length_take]
      omega
    have hslice : slice buf i (i + packetSize) = .ok pk.buf :=
      slice_of_le (Nat.le_add_right _ _) hle
    cases hsync : Packet.isSyncByte (pk.buf.getD 0 0)
    · exact ⟨_, pushOuter_of_desync filters ctx hle hslice hlen hsync⟩
    · obtain ⟨proc, hproc⟩ :=
        Option.isSome_iff_exists.1 (isSome_get_withHandler filters ctx pk.pid)
      obtain ⟨r, hr, hi⟩ := pushInner_spec buf pk.pid proc _ _ pk i
      rw [pushOuter_of_sync hle hslice hlen hsync hproc, hr]
      obtain ⟨i' | _, f, c⟩ := r
      · have : i ≤ i' := hi i' rfl
        exact pushOuter_ok buf _ _ (i' + packetSize)
      · exact ⟨_, rfl⟩
termination_by buf.length - i
decreasing_by simp only [packetSize] at hstop ⊢; omega

/-- `push` returns normally on every buffer: it terminates, and none of its own slices,
indexings, stores into the filter table, `unwrap`, subtractions or `debug_assert!` panics,
whatever the handlers and the constructor do. -/
theorem push_returns (self : Demultiplex F) (ctx : DemuxContext F Ctor) (buf : List UInt8) :
    ∃ r, self.push ctx buf = .ok r := by
  obtain ⟨r, hr⟩ := pushOuter_ok buf self.processorByPid ctx 0
  exact ⟨_, by rw [push, hr]; rfl⟩

end Demultiplex

end Mpeg2TsReader

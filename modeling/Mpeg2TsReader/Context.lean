import Mpeg2TsReader.Filters
import Mpeg2TsReader.Sections

/-!
# Handlers, the stream constructor and the demultiplexing context

The traits of `demultiplex.rs` that bind the dispatcher to the application. A handler type `F`
is a `PacketFilter`: its `consume` may change the handler itself and the context. A
constructor state `Ctor` is a `StreamConstructor`: its `construct` returns a fresh handler for
a `FilterRequest` and may change its own state. The context is the structure the
`demux_context!` macro generates, holding the changeset and the constructor.

Nothing is assumed of `consume` or `construct`: every theorem of the development holds for any
instances of the two classes.
-/

namespace Mpeg2TsReader

/-- `FilterRequest`: what a handler is asked for. -/
inductive FilterRequest where
  /-- `FilterRequest::ByPid`: a packet with this PID arrived and no handler is installed. -/
  | byPid (pid : UInt16)
  /-- `FilterRequest::ByStream`: a PMT announced an elementary stream of this type. -/
  | byStream (streamType : UInt8) (pmtSection : PmtSection) (streamInfo : StreamInfo)
  /-- `FilterRequest::Pmt`: a PAT announced the PMT of a program on this PID. -/
  | pmt (pid programNumber : UInt16)
  deriving DecidableEq, Repr

/-- `StreamConstructor`: the application's factory of handlers, whose state is `Ctor`. -/
class StreamConstructor (Ctor : Type) (F : outParam Type) where
  /-- `StreamConstructor::construct`. -/
  construct : Ctor → FilterRequest → F × Ctor

/-- The context built by `demux_context!`: the changeset and the constructor. -/
structure DemuxContext (F Ctor : Type) where
  /-- `filter_changeset()`. -/
  changeset : FilterChangeset F
  /-- `filter_constructor()`. -/
  constructor : Ctor

/-- `PacketFilter`: a handler, with the context type its `consume` receives. -/
class PacketFilter (F : Type) (Ctor : outParam Type) where
  /-- `PacketFilter::consume`. -/
  consume : F → DemuxContext F Ctor → Packet → F × DemuxContext F Ctor

namespace DemuxContext

variable {F Ctor : Type} [StreamConstructor Ctor F]

/-- `ctx.filter_constructor().construct(req)`. -/
def construct (ctx : DemuxContext F Ctor) (req : FilterRequest) : F × DemuxContext F Ctor :=
  let (filter, constructor) := StreamConstructor.construct ctx.constructor req
  (filter, { ctx with constructor })

@[simp]
theorem changeset_construct (ctx : DemuxContext F Ctor) (req : FilterRequest) :
    (ctx.construct req).2.changeset = ctx.changeset := rfl

/-- The handlers `construct` returns for `reqs` asked in turn, with the constructor state after
the last one. -/
def constructEach (constructor : Ctor) : List FilterRequest → List F × Ctor
  | [] => ([], constructor)
  | req :: reqs =>
    let (filter, constructor) := StreamConstructor.construct constructor req
    let (filters, constructor) := constructEach constructor reqs
    (filter :: filters, constructor)

theorem length_constructEach (constructor : Ctor) (reqs : List FilterRequest) :
    (constructEach constructor reqs).1.length = reqs.length := by
  induction reqs generalizing constructor with
  | nil => rfl
  | cons req reqs ih => simp [constructEach, ih]

end DemuxContext

/-- The constructor whose handler for a request is the request itself. The runs of the
processors on concrete sections use it, so that each enqueued handler shows what it was built
for. -/
instance requestConstructor : StreamConstructor Unit FilterRequest := ⟨fun c req => (req, c)⟩

/-- With `requestConstructor`, the handlers built are the requests themselves. -/
theorem constructEach_request (c : Unit) (reqs : List FilterRequest) :
    (DemuxContext.constructEach c reqs : List FilterRequest × Unit) = (reqs, c) := by
  induction reqs with
  | nil => rfl
  | cons req reqs ih => simp only [DemuxContext.constructEach, ih]

/-- A constructor that keeps, oldest first, every request it is asked, and leaves the building
of handlers to `inner`: it shows what the demultiplexer hands the application. -/
structure Recording (Ctor : Type) where
  /-- The constructor that builds the handlers. -/
  inner : Ctor
  /-- The requests asked so far, oldest first. -/
  requests : List FilterRequest

instance Recording.streamConstructor {F Ctor : Type} [StreamConstructor Ctor F] :
    StreamConstructor (Recording Ctor) F :=
  ⟨fun c req =>
    let (filter, inner) := StreamConstructor.construct c.inner req
    (filter, ⟨inner, c.requests ++ [req]⟩)⟩

@[simp]
theorem Recording.requests_construct {F Ctor : Type} [StreamConstructor Ctor F]
    (c : Recording Ctor) (req : FilterRequest) :
    (StreamConstructor.construct c req).2.requests = c.requests ++ [req] := rfl

/-- A handler that counts the packets it is given and leaves the filter table alone. -/
structure Tally where
  /-- The number of packets consumed. -/
  count : Nat
  deriving DecidableEq, Repr

/-- The constructor of tallies, with the number it has built. -/
structure TallyConstructor where
  /-- The number of handlers built. -/
  built : Nat
  deriving DecidableEq, Repr

instance TallyConstructor.streamConstructor : StreamConstructor TallyConstructor Tally :=
  ⟨fun c _ => (⟨0⟩, ⟨c.built + 1⟩)⟩

instance Tally.packetFilter : PacketFilter Tally TallyConstructor :=
  ⟨fun h ctx _ => (⟨h.count + 1⟩, ctx)⟩

/-- A handler that counts the packets it is given and, on each, enqueues a fresh handler for
PID `0x1ff`, as a PAT or PMT handler does for a PID it learns of. -/
structure Counter where
  /-- The number of packets consumed. -/
  count : Nat
  deriving DecidableEq, Repr

/-- The constructor of counters, with the number it has built. -/
structure CounterConstructor where
  /-- The number of handlers built. -/
  built : Nat
  deriving DecidableEq, Repr

instance CounterConstructor.streamConstructor : StreamConstructor CounterConstructor Counter :=
  ⟨fun c _ => (⟨0⟩, ⟨c.built + 1⟩)⟩

instance Counter.packetFilter : PacketFilter Counter CounterConstructor :=
  ⟨fun h ctx _ => (⟨h.count + 1⟩, { ctx with changeset := ctx.changeset.insert 0x1ff ⟨0⟩ })⟩

theorem Counter.consume_eq (h : Counter) (ctx : DemuxContext Counter CounterConstructor)
    (pk : Packet) :
    PacketFilter.consume h ctx pk =
      (⟨h.count + 1⟩, { ctx with changeset := ctx.changeset.insert 0x1ff ⟨0⟩ }) := rfl

end Mpeg2TsReader

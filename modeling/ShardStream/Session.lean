import ShardStream.Connection

/-! # Sessions

A session starts a connection at the position of its tracker, lets a processor consume the stream
until it is told to stop or delivery ends with a fault, reports the fault and closes the
connection. The offset to go on from is visible all the time.
-/
namespace ShardStream

/-- What a processor has done so far, oldest first. -/
structure Journal where
  events : List Event
  rows : List DispatchedRow
  published : List StoredOffset
  notices : List Notice

namespace Journal

def empty : Journal := ⟨[], [], [], []⟩

def add (j : Journal) (o : Outcome) : Journal :=
  ⟨j.events ++ o.event.toList, j.rows ++ o.row.toList, j.published ++ o.published.toList,
    j.notices ++ o.notices⟩

end Journal

/-- A processor with the journal of its work. -/
structure Worker where
  processor : Processor
  journal : Journal

/-- The pipeline's answer may depend on the events that it has taken before. -/
abbrev Pipeline := List Event → Sink

namespace Worker

def start (t : Tracker) : Worker := ⟨.start t, .empty⟩

def step (s : Setup) (pipeline : Pipeline) (w : Worker) (d : Delivery) : Worker × Outcome :=
  let (p, o) := w.processor.process s (pipeline w.journal.events) d
  (⟨p, w.journal.add o⟩, o)

def consume (s : Setup) (pipeline : Pipeline) : Consumer Worker := fun w d =>
  let (w, o) := w.step s pipeline d
  (w, match o.result with
    | .ok _ => .done
    | .error f => .failed f)

end Worker

inductive SessionEnd where
  | stopped | failed
  deriving DecidableEq, Repr

/-- Whether delivery goes as far as it can before the session is told to stop, or the session is
told before delivery begins. -/
inductive Schedule where
  | deliverFirst | stopFirst
  deriving DecidableEq

/-- What outlives one session: the connection, the visible offset and the reported faults. -/
structure Streaming where
  config : Config
  ranking : Ranking
  observers : List Observer
  pipeline : Pipeline
  connection : Connection Worker
  offset : StoredOffset
  inbox : FaultInbox

namespace Streaming

def setup (s : Streaming) (partition : Partition) : Setup :=
  ⟨partition, s.ranking, s.config.ordered, s.observers⟩

/-- Runs the stream and returns the fault that ended it, if one did. -/
def stream (s : Streaming) (partition : Partition) (t : Tracker) (schedule : Schedule) :
    Streaming × Option Fault × List Notice :=
  match s.connection.start t.vgtid (.start t) with
  | .error f => (s, some f, [])
  | .ok started =>
    match schedule with
    | .stopFirst => ({ s with connection := started }, none, [])
    | .deliverFirst =>
      let consume := Worker.consume (s.setup partition) s.pipeline
      let (connection, slot, dropped) := started.settle consume .empty
      let journal := (connection.consumer?.map (·.journal)).getD .empty
      ({ s with connection, offset := journal.published.getLastD s.offset }, slot.take.1,
        journal.notices ++ dropped)

/-- Runs one session: one that is resumed, or a new one from where the configuration says. -/
def execute (s : Streaming) (partition : Partition) (resumed : Option Tracker) (now : Instant)
    (schedule : Schedule) : Streaming × SessionEnd × List Notice :=
  let t := resumed.getD (.initial s.config now)
  let (s, fault, notices) := { s with offset := t.stored }.stream partition t schedule
  match fault with
  | none => ({ s with connection := s.connection.close }, .stopped, notices)
  | some f =>
    let (inbox, ignored) := s.inbox.report f
    ({ s with inbox, connection := s.connection.close }, .failed, notices ++ ignored)

/-- What the processor of the first session has done. -/
def journal (s : Streaming) : Journal := (s.connection.consumer?.map (·.journal)).getD .empty

end Streaming

end ShardStream

import ShardStream.Event
import ShardStream.Observer
import ShardStream.Offset.Tracker

/-! # Processing of messages

One message at a time, the processor keeps the position of the session, hands events to the
pipeline, tells the observers and publishes the offset to store. A failure publishes nothing and
ends the processing: every later message is refused.
-/
namespace ShardStream

/-- A message with the position after it. -/
structure Delivery where
  message : Message
  vgtid : Vgtid
  isLastRow : Bool
  /-- When the message is handled. -/
  now : Instant
  deriving DecidableEq, Inhabited

/-- The pipeline's answer to an event: it takes the event, or refuses it with a fault. -/
abbrev Sink := Event → Option Fault

def Sink.open : Sink := fun _ => none

def Sink.closed : Sink := fun _ => some .receiverClosed

inductive Phase where
  | idle
  | inTransaction (transactionId shard : String)
  | failed
  deriving DecidableEq, Repr, Inhabited

/-- What does not change during a session. -/
structure Setup where
  partition : Partition
  ranking : Ranking
  ordered : Bool
  observers : List Observer

structure Processor where
  tracker : Tracker
  phase : Phase
  deriving Inhabited

/-- What one message leads to. -/
structure Outcome where
  result : Except Fault Unit
  event : Option Event
  row : Option DispatchedRow
  published : Option StoredOffset
  notices : List Notice

/-- How far the handling of a message came, with the phase after it if it succeeded. -/
structure Handling where
  tracker : Tracker
  result : Except Fault Phase
  event : Option Event
  row : Option DispatchedRow
  notices : List Notice

namespace Handling

def fail (tracker : Tracker) (notices : List Notice) (f : Fault) : Handling :=
  ⟨tracker, .error f, none, none, notices⟩

/-- Offers an event to the pipeline; what follows happens only if it takes the event. -/
def offer (sink : Sink) (tracker : Tracker) (notices : List Notice) (e : Event)
    (next : Handling) : Handling :=
  match sink e with
  | some f => fail tracker notices f
  | none => { next with event := some e, notices := notices ++ next.notices }

def done (tracker : Tracker) (phase : Phase) : Handling := ⟨tracker, .ok phase, none, none, []⟩

end Handling

namespace Processor

/-- The identifier in the header of a begin, or else the GTID of its shard in the new position. -/
def beginId? (h : Header) (vgtid : Vgtid) : Option String :=
  match h.transactionId with
  | some id => some id
  | none => (vgtid.get? h.keyspace h.shard).map (·.gtid)

def noticeOpen (phase : Phase) (shard : String) : List Notice :=
  match phase with
  | .inTransaction id _ => [.beginWhileOpen shard id]
  | _ => []

def noticeIdle (phase : Phase) (shard : String) : List Notice :=
  match phase with
  | .idle => [.commitWithoutBegin shard]
  | _ => []

/-- The order of a transaction, if orders are asked for. -/
def orderFor (s : Setup) (t : Tracker) (shard id : String) :
    Except Fault (Option TransactionOrder × Tracker × List Notice) :=
  if s.ordered then (t.order s.ranking shard id).map fun (o, t, notices) => (some o, t, notices)
  else .ok (none, t, [])

def handleBegin (s : Setup) (sink : Sink) (p : Processor) (h : Header) (vgtid : Vgtid) :
    Handling :=
  let stillOpen := noticeOpen p.phase h.shard
  match beginId? h vgtid with
  | none => .fail p.tracker stillOpen (.noIdentifier h.keyspace h.shard)
  | some id =>
    let (rotated, moved) := p.tracker.rotate vgtid h.commitTime
    match orderFor s rotated h.shard id with
    | .error f => .fail rotated (stillOpen ++ moved) f
    | .ok (order, ordered, changed) =>
      let begun := ordered.begin (some id) order
      .offer sink begun (stillOpen ++ moved ++ changed)
        (.started s.partition ⟨id, h.shard, order⟩ begun.source h.commitTime)
        (.done begun (.inTransaction id h.shard))

def handleCommit (s : Setup) (sink : Sink) (p : Processor) (h : Header) (vgtid : Vgtid) :
    Handling :=
  let (rotated, moved) := p.tracker.rotate vgtid h.commitTime
  .offer sink rotated (noticeIdle p.phase h.shard ++ moved)
    (.committed s.partition rotated.progress.transactionId rotated.progress.rows.toUInt64
      rotated.source h.commitTime)
    (.done rotated.finish .idle)

def handleControl (p : Processor) (h : Header) (vgtid : Vgtid) : Handling :=
  let (rotated, moved) := p.tracker.rotate vgtid h.commitTime
  ⟨rotated, .ok p.phase, none, none, moved⟩

/-- The tracker at the dispatch of a row: the row is counted and, if it is the last of its
transaction, the position after it has taken effect. -/
def trackRow (t : Tracker) (h : Header) (table : TableId) (d : Delivery) : Tracker :=
  let counted := (t.addRow table h.commitTime).setShard h.shard
  (if d.isLastRow then counted.stage d.vgtid h.commitTime else counted).settle

def recordOf (t : Tracker) (table : TableId) (c : RowChange) (now : Instant) : ChangeRecord :=
  ⟨c.op, table, c.before, c.after, t.source, t.block table, now⟩

def handleRow (s : Setup) (sink : Sink) (p : Processor) (h : Header) (c : RowChange)
    (d : Delivery) : Handling :=
  match TableId.resolve? h.keyspace c.table with
  | none => .fail p.tracker [] (.unresolvableTable c.table h.shard)
  | some table =>
    let tracked := trackRow p.tracker h table d
    let row : DispatchedRow := ⟨table, h.shard, c.size⟩
    .offer sink tracked [] (.changed s.partition table (recordOf tracked table c d.now))
      { Handling.done tracked p.phase with
        row := some row, notices := s.observers.flatMap fun observe => observe row }

def handle (s : Setup) (sink : Sink) (p : Processor) (d : Delivery) : Handling :=
  match d.message with
  | .begin h => handleBegin s sink p h d.vgtid
  | .commit h => handleCommit s sink p h d.vgtid
  | .ddl h _ => handleControl p h d.vgtid
  | .other h => handleControl p h d.vgtid
  | .row h c => handleRow s sink p h c d

def refuse (p : Processor) (d : Delivery) : Processor × Outcome :=
  (p, ⟨.error (.alreadyFailed d.message.operation.name), none, none, none, []⟩)

/-- Processes one message. -/
def process (s : Setup) (sink : Sink) (p : Processor) (d : Delivery) : Processor × Outcome :=
  if p.phase = .failed then refuse p d
  else
    let h := handle s sink p d
    match h.result with
    | .ok phase => (⟨h.tracker, phase⟩, ⟨.ok (), h.event, h.row, some h.tracker.stored, h.notices⟩)
    | .error f => (⟨h.tracker, .failed⟩, ⟨.error f, h.event, h.row, none, h.notices⟩)

def start (t : Tracker) : Processor := ⟨t, .idle⟩

end Processor

end ShardStream

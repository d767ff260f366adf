import ShardStream.Message
import ShardStream.Offset.Source
import ShardStream.Transaction.Block

/-! # Change events

What goes down the pipeline: the start of a transaction, its end, and each change of a row in
between. In a document the kind of event is a member named `type` among the members of the event.
-/
namespace ShardStream

/-- The logical source that offsets belong to. -/
structure Partition where
  serverName : String
  deriving DecidableEq, Repr, Inhabited

def Partition.format : Json.Format Partition :=
  ((Json.Record.required "server_name" .text).imap (⟨·⟩) (·.serverName)).format

/-- A change of a row with the position at its dispatch and the time at which it was handled. -/
structure ChangeRecord where
  op : RowOperation
  table : TableId
  before : Option (List Column)
  after : Option (List Column)
  source : Source
  transaction : Option TransactionBlock
  time : Instant
  deriving DecidableEq, Repr, Inhabited

def ChangeRecord.format : Json.Format ChangeRecord :=
  (((Json.Record.required "op" RowOperation.format).and
    ((Json.Record.required "table_id" TableId.format).and
      ((Json.Record.optional "before" (.list Column.format)).and
        ((Json.Record.optional "after" (.list Column.format)).and
          ((Json.Record.required "source" Source.format).and
            ((Json.Record.optional "transaction" TransactionBlock.format).and
              (.required "ts" Instant.format))))))).imap
    (fun p => ⟨p.1, p.2.1, p.2.2.1, p.2.2.2.1, p.2.2.2.2.1, p.2.2.2.2.2.1, p.2.2.2.2.2.2⟩)
    (fun r => (r.op, r.table, r.before, r.after, r.source, r.transaction, r.time))).format

inductive Event where
  | started (partition : Partition) (transaction : TransactionInfo) (source : Source)
      (time : Instant)
  | committed (partition : Partition) (transactionId : Option String) (rows : UInt64)
      (source : Source) (time : Instant)
  | changed (partition : Partition) (table : TableId) (record : ChangeRecord)
  deriving DecidableEq, Repr, Inhabited

namespace Event

def source : Event → Source
  | started _ _ s _ => s
  | committed _ _ _ s _ => s
  | changed _ _ r => r.source

def startedRecord : Json.Record (Partition × TransactionInfo × Source × Instant) :=
  (Json.Record.required "partition" Partition.format).and
    ((Json.Record.required "transaction" TransactionInfo.format).and
      ((Json.Record.required "source" Source.format).and
        (.required "timestamp" Instant.format)))

def committedRecord : Json.Record (Partition × Option String × UInt64 × Source × Instant) :=
  (Json.Record.required "partition" Partition.format).and
    ((Json.Record.optional "transaction_id" .text).and
      ((Json.Record.required "event_count" .uint64).and
        ((Json.Record.required "source" Source.format).and
          (.required "timestamp" Instant.format))))

def changedRecord : Json.Record (Partition × TableId × ChangeRecord) :=
  (Json.Record.required "partition" Partition.format).and
    ((Json.Record.required "table_id" TableId.format).and
      (.required "record" ChangeRecord.format))

def write : Event → Json
  | started p t s time =>
    .obj (("type", .str "transaction_started") :: startedRecord.write (p, t, s, time))
  | committed p id n s time =>
    .obj (("type", .str "transaction_committed") :: committedRecord.write (p, id, n, s, time))
  | changed p t r => .obj (("type", .str "data_change") :: changedRecord.write (p, t, r))

def readTagged (s : Json.Scope) (content : Json) : String → Option Event
  | "transaction_started" =>
    (startedRecord.read s content).map fun p => started p.1 p.2.1 p.2.2.1 p.2.2.2
  | "transaction_committed" =>
    (committedRecord.read s content).map fun p => committed p.1 p.2.1 p.2.2.1 p.2.2.2.1 p.2.2.2.2
  | "data_change" => (changedRecord.read s content).map fun p => changed p.1 p.2.1 p.2.2
  | _ => none

/-- Splits off the tag: the one member named `type`, or the first item of an array. -/
def untag : Json → Option (String × Json)
  | .obj ms =>
    match Json.Record.named "type" ms with
    | [.str tag] => some (tag, .obj (ms.filter fun m => m.1 ≠ "type"))
    | _ => none
  | .arr (.str tag :: rest) => some (tag, .arr rest)
  | _ => none

/-- The whole document is read before the tag says what it holds, so no part of it is skipped. -/
def format : Json.Format Event where
  write := write
  read s v := do
    let _ ← Json.Format.document.read s v
    let inner ← s.enter
    let (tag, content) ← untag v
    readTagged { inner with buffered := true } content tag

end Event

end ShardStream

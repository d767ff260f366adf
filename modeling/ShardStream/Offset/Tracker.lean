import ShardStream.Config
import ShardStream.Offset.Source
import ShardStream.Offset.Staged
import ShardStream.Offset.Stored
import ShardStream.Transaction.Block
import ShardStream.Transaction.Epochs
import ShardStream.Transaction.Progress

/-! # The position of a session

A tracker follows a session through its stream. Boundaries and control messages replace the
position at once; rows keep it, except that the last row of a transaction stages the next one for
the moment of its dispatch.
-/
namespace ShardStream

structure Tracker where
  source : Source
  staged : Staged
  progress : Progress
  epochs : Epochs
  /-- The rows of each shard since the start, counted as long as they are less than `2 ^ 64`. -/
  shardRows : Tally String
  /-- The rows of each table since the start, likewise. -/
  tableRows : Tally TableId

namespace Tracker

def ofSource (source : Source) (epochs : Epochs) : Tracker :=
  ⟨source, .none, .none, epochs, .empty, .empty⟩

/-- A new session, which starts where the configuration says. -/
def initial (c : Config) (now : Instant) : Tracker :=
  ofSource ⟨c.serverName, c.keyspace, none, c.startPosition, now, none⟩ .fresh

/-- A session that goes on from a stored offset. -/
def load (c : Config) (stored : StoredOffset) : Except Fault (Tracker × List Notice) :=
  if stored.vgtid.isEmpty then .error .nothingToResume
  else
    match Instant.ofMicros? stored.micros.toInt with
    | none => .error (.invalidTimestamp stored.micros)
    | some time =>
      let (epochs, notices) := Epochs.restore stored.epochs stored.vgtid
      .ok (ofSource ⟨c.serverName, c.keyspace, none, stored.vgtid, time, none⟩ epochs, notices)

instance : Inhabited Tracker := ⟨ofSource default .fresh⟩

/-- Where the session would go on from. -/
def vgtid (t : Tracker) : Vgtid := t.source.vgtid

/-- Replaces the position and drops what is staged. A shard that goes back is only noticed. -/
def rotate (t : Tracker) (vgtid : Vgtid) (time : Instant) : Tracker × List Notice :=
  let back := Vgtid.regressions gtidRanking t.source.vgtid vgtid
  ({ t with source := { t.source with vgtid, time }, staged := .none },
    if back = [] then [] else [.movedBackwards back t.source.vgtid vgtid])

def addRow (t : Tracker) (table : TableId) (time : Instant) : Tracker :=
  { t with
    progress := t.progress.addRow table
    tableRows := t.tableRows.add table
    source := { t.source with table := some table, time } }

def setShard (t : Tracker) (shard : String) : Tracker :=
  { t with shardRows := t.shardRows.add shard, source := { t.source with shard := some shard } }

def stage (t : Tracker) (vgtid : Vgtid) (time : Instant) : Tracker :=
  { t with staged := .stage vgtid time }

/-- The moment of dispatch: what is staged takes effect. -/
def settle (t : Tracker) : Tracker := { t with source := t.staged.apply t.source, staged := .none }

def begin (t : Tracker) (id : Option String) (order : Option TransactionOrder) : Tracker :=
  { t with progress := .begin id order }

def finish (t : Tracker) : Tracker := { t with progress := .none }

def order (ranking : Ranking) (t : Tracker) (shard id : String) :
    Except Fault (TransactionOrder × Tracker × List Notice) := do
  let (order, epochs, notices) ← t.epochs.order ranking shard id
  return (order, { t with epochs }, notices)

/-- The place of the last row in the open transaction, if one is open. -/
def block (t : Tracker) (table : TableId) : Option TransactionBlock :=
  t.progress.transactionId.map fun id =>
    ⟨id, t.progress.rows.toUInt64, (t.progress.tableRows.count table).toUInt64, t.progress.order⟩

def stored (t : Tracker) : StoredOffset :=
  ⟨t.source.vgtid, Int64.ofInt t.source.time.micros, t.progress.transactionId, t.epochs.current⟩

end Tracker

end ShardStream

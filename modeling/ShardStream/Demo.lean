import ShardStream.Session

/-! # A demonstration

One transaction of two rows goes through a session. What becomes visible are the events that it
leads to and the offset from which the next session would go on.
-/
namespace ShardStream.Demo

def host : String := "16b1039f-22b6-11ed-b765-0a43f95f28a3"

/-- The first `n` transactions of the host. -/
def gtid (n : Nat) : String := s!"MySQL56/{host}:1-{n}"

def created : List Column := [⟨"id", .int64 1⟩, ⟨"status", .text "created"⟩]

def paid : List Column := [⟨"id", .int64 1⟩, ⟨"status", .text "paid"⟩]

/-- When a message is written and when it is handled. -/
structure Moments where
  written : Instant
  handled : Instant
  deriving Inhabited

/-- What the clock says, each time that it is read: for every message of the script, and at the
start of the session. -/
structure Times where
  opening : Moments
  creation : Moments
  payment : Moments
  closing : Moments
  start : Instant
  deriving Inhabited

/-- An order is created and paid in one transaction. -/
def script (keyspace shard : String) (times : Times) : List Delivery :=
  let reached (n : Nat) : Vgtid := ⟨[⟨keyspace, shard, gtid n⟩]⟩
  let header (m : Moments) : Header := ⟨keyspace, shard, none, m.written⟩
  let table := keyspace ++ ".orders"
  [⟨.begin { header times.opening with transactionId := some (gtid 11) }, reached 10, false,
    times.opening.handled⟩,
   ⟨.row (header times.creation) (.insert table created), reached 10, false,
    times.creation.handled⟩,
   ⟨.row (header times.payment) (.update table created paid), reached 11, true,
    times.payment.handled⟩,
   ⟨.commit (header times.closing), reached 11, false, times.closing.handled⟩]

/-- The session of the demonstration, with its script already sent. Events are taken out of their
channel while the session goes on, so it never waits for a place there. -/
def session (c : Config) (observer : LargeRows) (times : Times) : Streaming :=
  let sent := (script c.keyspace (c.shards.headD "0") times).foldl
    (fun connection d => (connection.send (.delivery d)).1) .fresh
  ⟨c, gtidRanking, [observer.observe], fun _ => .open, sent,
    (Tracker.initial c times.start).stored, .empty⟩

/-- How many messages may wait in the connection. -/
def connectionCapacity : UInt64 := 64

/-- The session when it is over, and how it ended. -/
def play (c : Config) (observer : LargeRows) (times : Times) : Streaming × SessionEnd :=
  let (after, ending, _) :=
    (session c observer times).execute ⟨c.serverName⟩ none times.start .deliverFirst
  (after, ending)

/-- What becomes of the demonstration: it is aborted if a channel cannot be made, and refused if the
observer cannot. -/
inductive Performance where
  | aborted
  | refused (f : Fault)
  | over (result : Streaming × SessionEnd)

/-- Plays the script with a configuration that has been checked. Channels for more than
`maxCapacity` messages cannot be made. -/
def perform (patterns : Patterns) (maxCapacity : UInt64) (c : Config) (times : Times) :
    Performance :=
  if maxCapacity < connectionCapacity ∨ maxCapacity < c.capacity then .aborted
  else
    match LargeRows.ofConfig patterns c with
    | .error f => .refused f
    | .ok observer => .over (play c observer times)

/-- What a run shows. Without a valid configuration there is no session and no offset. -/
structure Transcript where
  events : List Event
  offset : Option StoredOffset
  fault : Option Fault

namespace Transcript

def refused (f : Fault) : Transcript := ⟨[], none, some f⟩

/-- The fault is the one that was reported to the session's inbox, if the session has failed. -/
def ofSession (after : Streaming) (ending : SessionEnd) : Transcript where
  events := after.journal.events
  offset := some after.offset
  fault := if ending = .failed then after.inbox.held else none

def lines (t : Transcript) : List String :=
  t.events.map (fun e => (Event.format.write e).render) ++ t.offset.toList.map StoredOffset.text

def complaint? (t : Transcript) : Option String := t.fault.map ("Error: " ++ ·.report)

def exitCode (t : Transcript) : UInt32 := if t.fault.isSome then 1 else 0

end Transcript

/-- The demonstration with the given settings. A run that is aborted shows nothing. -/
def run (patterns : Patterns) (maxCapacity : UInt64) (settings : String → Option String)
    (times : Times) : Option Transcript :=
  match Config.ofSettings patterns settings with
  | .error f => some (.refused f)
  | .ok c =>
    match perform patterns maxCapacity c times with
    | .aborted => none
    | .refused f => some (.refused f)
    | .over (after, ending) => some (.ofSession after ending)

end ShardStream.Demo

import ShardStream.Vgtid
import ShardStream.TableId
import ShardStream.Time.Format
import ShardStream.Text.Quoted

/-! # Sources of events

What is stamped on every event: the position from which to go on after it, the time of the last
change, and the shard and table that the last row came from.
-/
namespace ShardStream

structure Source where
  serverName : String
  keyspace : String
  shard : Option String
  vgtid : Vgtid
  time : Instant
  table : Option TableId
  deriving DecidableEq, Repr, Inhabited

namespace Source

def record : Json.Record Source :=
  ((Json.Record.required "server_name" .text).and
    ((Json.Record.required "keyspace" .text).and
      ((Json.Record.optional "shard" .text).and
        ((Json.Record.required "vgtid" Vgtid.format).and
          ((Json.Record.required "ts" Instant.format).and
            (.optional "table" TableId.format)))))).imap
    (fun p => ⟨p.1, p.2.1, p.2.2.1, p.2.2.2.1, p.2.2.2.2.1, p.2.2.2.2.2⟩)
    (fun s => (s.serverName, s.keyspace, s.shard, s.vgtid, s.time, s.table))

def format : Json.Format Source := record.format

/-- The source in short: the position as a text, the time in milliseconds, the bare table name. -/
def summary (s : Source) : Json :=
  .obj [("name", .str s.serverName), ("keyspace", .str s.keyspace),
    ("shard", Json.ofOption .str s.shard), ("vgtid", .str s.vgtid.text),
    ("ts_ms", Json.ofInt s.time.millis), ("table", Json.ofOption (fun t => .str t.table) s.table)]

def shardText : Option String → String
  | some shard => "Some(" ++ Text.quoted shard ++ ")"
  | none => "None"

def text (s : Source) : String :=
  "SourceInfo \x7b keyspace: " ++ s.keyspace ++ ", shard: " ++ shardText s.shard ++ ", vgtid: " ++
    s.vgtid.text ++ " \x7d"

end Source

end ShardStream

import ShardStream.Rank
import ShardStream.Json.Parse

/-! # Positions of a sharded stream

A VGTID marks how far each shard of a stream has been read. Its entries are searched from the
front, so of two entries for one shard only the first is seen. Written out, it is a JSON array.
-/
namespace ShardStream

structure ShardPosition where
  keyspace : String
  shard : String
  gtid : String
  deriving DecidableEq, Repr, Inhabited

namespace ShardPosition

/-- A GTID that asks for the position at the moment of asking. -/
def current : String := "current"

/-- Whether the entry names a position that others can be compared with. -/
def isPositional (p : ShardPosition) : Bool := p.gtid ≠ "" && p.gtid ≠ current

def isFor (p : ShardPosition) (keyspace shard : String) : Bool :=
  p.keyspace = keyspace && p.shard = shard

def format : Json.Format ShardPosition :=
  (((Json.Record.required "keyspace" .text).and
    ((Json.Record.required "shard" .text).and (.required "gtid" .text))).imap
    (fun p => ⟨p.1, p.2.1, p.2.2⟩) (fun e => (e.keyspace, e.shard, e.gtid))).format

end ShardPosition

structure Vgtid where
  entries : List ShardPosition
  deriving DecidableEq, Repr, Inhabited

namespace Vgtid

def format : Json.Format Vgtid := (Json.Format.list ShardPosition.format).imap (⟨·⟩) (·.entries)

def text (v : Vgtid) : String := (format.write v).render

def isEmpty (v : Vgtid) : Bool := v.entries.isEmpty

/-- Where a new stream starts. Without shards, one entry with an empty shard name stands for the
whole keyspace. -/
def start (keyspace : String) (shards : List String) (gtid : String) : Vgtid :=
  if shards = [] then ⟨[⟨keyspace, "", gtid⟩]⟩ else ⟨shards.map (⟨keyspace, ·, gtid⟩)⟩

theorem isEmpty_start (keyspace : String) (shards : List String) (gtid : String) :
    (start keyspace shards gtid).isEmpty = false := by
  cases shards <;> rfl

def parse (json : String) : Except Fault Vgtid :=
  match (Json.parse json).bind format.decode with
  | none => .error .malformedJson
  | some v => if v.isEmpty then .error (.emptyVgtid json) else .ok v

def get? (v : Vgtid) (keyspace shard : String) : Option ShardPosition :=
  v.entries.find? (·.isFor keyspace shard)

/-- The entry for a shard, if it can be compared with others. -/
def positional? (v : Vgtid) (keyspace shard : String) : Option ShardPosition :=
  (v.get? keyspace shard).filter (·.isPositional)

/-- Moves the first entry for a shard, or appends one. -/
def move (keyspace shard gtid : String) : List ShardPosition → List ShardPosition
  | [] => [⟨keyspace, shard, gtid⟩]
  | p :: rest =>
    if p.isFor keyspace shard then { p with gtid } :: rest
    else p :: move keyspace shard gtid rest

def set (v : Vgtid) (keyspace shard gtid : String) : Vgtid :=
  ⟨move keyspace shard gtid v.entries⟩

/-- Whether an entry ranks below the entry for the same shard of an earlier position. Entries that
cannot be compared or ranked do not. -/
def isBehind (ranking : Ranking) (previous : Vgtid) (p : ShardPosition) : Bool :=
  p.isPositional &&
    match previous.positional? p.keyspace p.shard with
    | none => false
    | some before =>
      match ranking p.gtid, ranking before.gtid with
      | .ok now, .ok then_ => now < then_
      | _, _ => false

/-- The shards, as `keyspace/shard`, whose rank went back since an earlier position. -/
def regressions (ranking : Ranking) (previous current : Vgtid) : List String :=
  (current.entries.filter (isBehind ranking previous)).map fun p => p.keyspace ++ "/" ++ p.shard

/-- Whether one entry has been reached: there is a positional entry for its shard with a rank not
below its own. The own rank is computed first. -/
def reaches (ranking : Ranking) (v : Vgtid) (p : ShardPosition) : Except Fault Bool :=
  match v.positional? p.keyspace p.shard with
  | none => .ok false
  | some ours => do
    let here ← ranking ours.gtid
    let there ← ranking p.gtid
    return there ≤ here

/-- Whether all entries have been reached, decided from the front. -/
def reachesAll (ranking : Ranking) (v : Vgtid) : List ShardPosition → Except Fault Bool
  | [] => .ok true
  | p :: rest => do
    if ← v.reaches ranking p then v.reachesAll ranking rest else return false

/-- Whether every comparable entry of `other` has been reached at `v`. -/
def covers (ranking : Ranking) (v other : Vgtid) : Except Fault Bool :=
  v.reachesAll ranking (other.entries.filter (·.isPositional))

end Vgtid

end ShardStream

import ShardStream.Transaction.Order
import ShardStream.Notice

/-! # Epochs of shards

The epoch of a shard counts how often its hosts have changed other than by joining. It rises when
a transaction no longer names some host that the transaction before it on that shard named, for
then ranks before and after cannot be compared.
-/
namespace ShardStream

/-- The epoch of each shard, and the set of the last transaction seen on it. -/
structure Epochs where
  current : KeyMap UInt64
  previous : KeyMap GtidSet
  deriving DecidableEq

namespace Epochs

def fresh : Epochs := ⟨.empty, .empty⟩

instance : Inhabited Epochs := ⟨fresh⟩

/-- Takes an entry of a restart position for the last transaction on its shard. -/
def remember (acc : KeyMap GtidSet × List Notice) (p : ShardPosition) :
    KeyMap GtidSet × List Notice :=
  match GtidSet.parse p.gtid with
  | .ok s => (if s.isEmpty then acc.1 else acc.1.insert p.shard s, acc.2)
  | .error f => (acc.1, acc.2 ++ [.unreadableRestart p.shard f])

/-- Goes on from stored epochs at a restart position, so that a change of hosts in the meantime
counts. -/
def restore (stored : KeyMap UInt64) (restart : Vgtid) : Epochs × List Notice :=
  let (previous, notices) := (restart.entries.filter (·.isPositional)).foldl remember (.empty, [])
  (⟨stored, previous⟩, notices)

/-- The epoch of the next transaction on a shard. -/
def advance (e : Epochs) (shard : String) (s : GtidSet) : UInt64 × Epochs × List Notice :=
  let epoch := e.current.getD shard 0
  let (epoch, notices) : UInt64 × List Notice :=
    match e.previous.get? shard with
    | none => (epoch, [])
    | some before =>
      if s.coversHostsOf before then (epoch, [])
      else (epoch + 1, [.hostsChanged shard before s (epoch + 1)])
  (epoch, ⟨e.current.insert shard epoch, e.previous.insert shard s⟩, notices)

/-- The order of the next transaction on a shard. An identifier that has no rank or is no GTID set
leaves the epochs as they are. -/
def order (ranking : Ranking) (e : Epochs) (shard id : String) :
    Except Fault (TransactionOrder × Epochs × List Notice) := do
  let rank ← ranking id
  let s ← GtidSet.parse id
  let (epoch, e, notices) := e.advance shard s
  return (⟨epoch, rank⟩, e, notices)

end Epochs

end ShardStream

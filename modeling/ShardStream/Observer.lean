import ShardStream.Config
import ShardStream.Notice

/-! # Observers of dispatched rows

An observer is told of each row after its event has been handed over. The one for large rows gives
notice of rows above a threshold in the tables that it watches.
-/
namespace ShardStream

structure DispatchedRow where
  table : TableId
  shard : String
  bytes : Nat
  deriving DecidableEq, Repr

abbrev Observer := DispatchedRow → List Notice

structure LargeRows where
  threshold : Nat
  watches : TableId → Bool

namespace LargeRows

def everywhere (threshold : Nat) : LargeRows := ⟨threshold, fun _ => true⟩

/-- Watches the tables in whose full name the pattern is found. -/
def matching (patterns : Patterns) (threshold : Nat) (pattern : String) :
    Except Fault LargeRows :=
  match patterns pattern with
  | some isFoundIn => .ok ⟨threshold, fun t => isFoundIn t.text⟩
  | none => .error (.invalidTablePattern pattern)

def ofConfig (patterns : Patterns) (c : Config) : Except Fault LargeRows :=
  match c.largeRowPattern with
  | some p => matching patterns c.largeRowThreshold.toNat p
  | none => .ok (everywhere c.largeRowThreshold.toNat)

def isLarge (o : LargeRows) (row : DispatchedRow) : Bool :=
  o.watches row.table && o.threshold < row.bytes

def observe (o : LargeRows) : Observer := fun row =>
  if o.watches row.table then
    if o.threshold < row.bytes then [.largeRow row.table row.shard row.bytes o.threshold] else []
  else []

end LargeRows

end ShardStream

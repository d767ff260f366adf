import ShardStream.Offset.Source

/-! # Staged positions

The position after the last row of a transaction is staged before that row is dispatched and takes
effect at the moment of the dispatch. Until then nobody sees it.
-/
namespace ShardStream

structure Staged where
  next : Option (Vgtid × Instant)
  deriving DecidableEq, Inhabited

namespace Staged

def none : Staged := ⟨.none⟩

def stage (vgtid : Vgtid) (time : Instant) : Staged := ⟨some (vgtid, time)⟩

def isPending (s : Staged) : Bool := s.next.isSome

/-- Applies what is staged to a source. -/
def apply (s : Staged) (source : Source) : Source :=
  match s.next with
  | some (vgtid, time) => { source with vgtid, time }
  | .none => source

end Staged

end ShardStream

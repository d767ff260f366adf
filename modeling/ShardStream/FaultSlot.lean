import ShardStream.Notice

/-! # Slots for faults

A slot takes the first fault that is published and no later one, not even after the first has been
taken out. An inbox takes faults from several sessions and keeps the first until it is taken out;
it also counts how many there were.
-/
namespace ShardStream

structure FaultSlot where
  isSet : Bool
  held : Option Fault
  deriving DecidableEq

namespace FaultSlot

def empty : FaultSlot := ⟨false, none⟩

/-- Whether the fault was accepted comes with the slot. -/
def publish (s : FaultSlot) (f : Fault) : FaultSlot × Bool × List Notice :=
  if s.isSet then (s, false, [.laterFaultDropped f]) else (⟨true, some f⟩, true, [])

def take (s : FaultSlot) : Option Fault × FaultSlot := (s.held, { s with held := none })

end FaultSlot

structure FaultInbox where
  held : Option Fault
  /-- How many faults there were, counted as long as they are less than `2 ^ 64`. -/
  reports : Nat
  deriving DecidableEq

namespace FaultInbox

def empty : FaultInbox := ⟨none, 0⟩

def hasFault (b : FaultInbox) : Bool := b.held.isSome

def report (b : FaultInbox) (f : Fault) : FaultInbox × List Notice :=
  match b.held with
  | some _ => ({ b with reports := b.reports + 1 }, [.laterReportIgnored f])
  | none => (⟨some f, b.reports + 1⟩, [])

def take (b : FaultInbox) : Option Fault × FaultInbox := (b.held, { b with held := none })

end FaultInbox

end ShardStream

/-! # Tallies

How often each of several things has been counted.
-/
namespace ShardStream

structure Tally (α : Type) where
  counts : List (α × Nat)
  deriving Repr

namespace Tally

variable {α : Type} [DecidableEq α]

def empty : Tally α := ⟨[]⟩

instance : Inhabited (Tally α) := ⟨empty⟩

def lookup (a : α) : List (α × Nat) → Nat
  | [] => 0
  | e :: rest => if e.1 = a then e.2 else lookup a rest

def count (t : Tally α) (a : α) : Nat := lookup a t.counts

def raise (a : α) : List (α × Nat) → List (α × Nat)
  | [] => [(a, 1)]
  | e :: rest => if e.1 = a then (e.1, e.2 + 1) :: rest else e :: raise a rest

/-- Counts one thing once more. -/
def add (t : Tally α) (a : α) : Tally α := ⟨raise a t.counts⟩

@[simp] theorem count_empty (a : α) : (empty : Tally α).count a = 0 := rfl

theorem count_add (t : Tally α) (a b : α) :
    (t.add a).count b = t.count b + if b = a then 1 else 0 := by
  obtain ⟨es⟩ := t
  simp only [count, add]
  induction es with
  | nil => by_cases h : b = a <;> simp [raise, lookup, h, Ne.symm]
  | cons e rest ih =>
    by_cases he : e.1 = a
    · by_cases h : b = a
      · simp [raise, lookup, he, h]
      · simp [raise, lookup, he, h, Ne.symm h]
    · by_cases h : e.1 = b
      · have hb : ¬ b = a := fun e' => he (h.trans e')
        simp [raise, lookup, h, hb]
      · simp [raise, lookup, he, h, ih]

end Tally

end ShardStream

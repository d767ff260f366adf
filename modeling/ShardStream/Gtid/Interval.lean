import ShardStream.Fault
import ShardStream.Json.Format

/-! # Intervals of sequence numbers

A closed interval of 64-bit sequence numbers. Two intervals that overlap or touch merge into one.
-/
namespace ShardStream.Gtid

structure Interval where
  first : UInt64
  last : UInt64
  deriving DecidableEq, Repr, Inhabited

namespace Interval

def make (first last : UInt64) : Except Fault Interval :=
  if last < first then .error (.reversedInterval first last) else .ok ⟨first, last⟩

def contains (r : Interval) (n : UInt64) : Bool := r.first ≤ n && n ≤ r.last

/-- The next sequence number; the largest stays where it is. -/
def after (n : UInt64) : UInt64 := if n.toNat + 1 < UInt64.size then n + 1 else n

def merge? (a b : Interval) : Option Interval :=
  if b.first ≤ after a.last ∧ a.first ≤ after b.last then
    some ⟨min a.first b.first, max a.last b.last⟩
  else none

/-- By the first number, and by the last between intervals that start together. -/
def order (a b : Interval) : Ordering := (compare a.first b.first).then (compare a.last b.last)

def text (r : Interval) : List Char :=
  if r.first = r.last then Text.decimal r.first.toNat
  else Text.decimal r.first.toNat ++ '-' :: Text.decimal r.last.toNat

def format : Json.Format Interval :=
  (((Json.Record.required "start" .uint64).and (.required "end" .uint64)).imap
    (fun p => ⟨p.1, p.2⟩) (fun r => (r.first, r.last))).format

theorem toNat_after (n : UInt64) : (after n).toNat = min (n.toNat + 1) (UInt64.size - 1) := by
  have h := n.toNat_lt_size
  unfold after
  split
  · next hlt =>
    rw [UInt64.toNat_add, UInt64.toNat_one]
    simp only [UInt64.size] at *
    omega
  · simp only [UInt64.size] at *
    omega

/-- That the largest number stays where it is makes no difference, as there is none above it. -/
theorem le_after_iff {m n : UInt64} : m ≤ after n ↔ m.toNat ≤ n.toNat + 1 := by
  have hm := m.toNat_lt_size
  rw [UInt64.le_iff_toNat_le, toNat_after]
  simp only [UInt64.size] at *
  omega

theorem merge?_eq_some_iff {a b m : Interval} : a.merge? b = some m ↔
    (b.first.toNat ≤ a.last.toNat + 1 ∧ a.first.toNat ≤ b.last.toNat + 1) ∧
      m = ⟨min a.first b.first, max a.last b.last⟩ := by
  simp only [merge?, le_after_iff]
  split
  · next hmeet => simp [hmeet, eq_comm]
  · next hgap => simp [hgap]

theorem merge?_eq_none_iff {a b : Interval} : a.merge? b = none ↔
    a.last.toNat + 1 < b.first.toNat ∨ b.last.toNat + 1 < a.first.toNat := by
  simp only [merge?, le_after_iff]
  split
  · next hmeet => exact iff_of_false nofun (by omega)
  · next hgap => exact iff_of_true rfl (by omega)

end Interval

end ShardStream.Gtid

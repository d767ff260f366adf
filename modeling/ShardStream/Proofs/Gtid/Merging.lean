import Mathlib.Order.Interval.Set.OrdConnected
import ShardStream.Proofs.Gtid.Reading

/-! # What two intervals merge into

Two intervals merge just if the numbers of both are again an interval: if they share a number, or if
one starts right after the other ends. They then merge into the interval of just these numbers, and
otherwise some number lies strictly between them. This holds up to the largest number, although
there is none after it to start with.
-/
namespace ShardStream.Gtid

namespace Interval

variable {a b c : Interval} {n : UInt64}

/-- The numbers from the first to the last. -/
def numbers (r : Interval) : Set ℕ := Set.Icc r.first.toNat r.last.toNat

theorem contains_iff_mem_numbers : a.contains n = true ↔ n.toNat ∈ a.numbers := by
  rw [contains_iff, UInt64.le_iff_toNat_le, UInt64.le_iff_toNat_le]
  exact Iff.rfl

theorem merge?_comm (a b : Interval) : a.merge? b = b.merge? a := by
  have hfirst : min a.first b.first = min b.first a.first := by
    rw [← UInt64.toNat_inj, toNat_min, toNat_min, Nat.min_comm]
  have hlast : max a.last b.last = max b.last a.last := by
    rw [← UInt64.toNat_inj, toNat_max, toNat_max, Nat.max_comm]
  refine Option.ext fun c => ?_
  rw [merge?_eq_some_iff, merge?_eq_some_iff, hfirst, hlast, and_comm (b := a.first.toNat ≤ _)]

/-- No number lies between two intervals that merge. -/
theorem numbers_merge? (ha : a.IsProper) (h : a.merge? b = some c) :
    c.numbers = a.numbers ∪ b.numbers := by
  obtain ⟨hmeet, rfl⟩ := merge?_eq_some_iff.1 h
  have hle := UInt64.le_iff_toNat_le.1 ha
  ext n
  simp only [numbers, toNat_min, toNat_max, Set.mem_union, Set.mem_Icc]
  omega

theorem contains_merge? (ha : a.IsProper) (h : a.merge? b = some c) :
    c.contains n = true ↔ a.contains n = true ∨ b.contains n = true := by
  rw [contains_iff_mem_numbers, numbers_merge? ha h, Set.mem_union, contains_iff_mem_numbers,
    contains_iff_mem_numbers]

/-- Some number lies between two intervals that do not merge. -/
theorem merge?_eq_none_iff_exists : a.merge? b = none ↔
    ∃ n, a.last < n ∧ n < b.first ∨ b.last < n ∧ n < a.first := by
  have ha := a.first.toNat_lt_size
  have hb := b.first.toNat_lt_size
  simp only [merge?_eq_none_iff, UInt64.lt_iff_toNat_lt]
  constructor
  · rintro (hgap | hgap)
    · have hnext : (UInt64.ofNat (a.last.toNat + 1)).toNat = a.last.toNat + 1 :=
        UInt64.toNat_ofNat_of_lt' (by omega)
      exact ⟨UInt64.ofNat (a.last.toNat + 1), .inl (by omega)⟩
    · have hnext : (UInt64.ofNat (b.last.toNat + 1)).toNat = b.last.toNat + 1 :=
        UInt64.toNat_ofNat_of_lt' (by omega)
      exact ⟨UInt64.ofNat (b.last.toNat + 1), .inr (by omega)⟩
  · rintro ⟨n, hbetween⟩
    omega

theorem exists_merge?_iff : (∃ c, a.merge? b = some c) ↔
    b.first.toNat ≤ a.last.toNat + 1 ∧ a.first.toNat ≤ b.last.toNat + 1 := by
  simp only [merge?_eq_some_iff, exists_and_left, exists_eq, and_true]

theorem ordConnected_iff (ha : a.IsProper) (hb : b.IsProper) :
    (a.numbers ∪ b.numbers).OrdConnected ↔ ∃ c, a.merge? b = some c := by
  constructor
  · intro hconnected
    have hall : ∀ i j k, i ∈ a.numbers ∪ b.numbers → k ∈ a.numbers ∪ b.numbers → i ≤ j → j ≤ k →
        j ∈ a.numbers ∪ b.numbers := fun i j k hi hk hij hjk => hconnected.out hi hk ⟨hij, hjk⟩
    have hale := UInt64.le_iff_toNat_le.1 ha
    have hble := UInt64.le_iff_toNat_le.1 hb
    simp only [numbers, Set.mem_union, Set.mem_Icc] at hall
    rw [exists_merge?_iff]
    -- Else the number after the end of the lower interval is in neither of the two.
    by_contra hgap
    have hafter := hall a.last.toNat (a.last.toNat + 1) b.first.toNat
    have hafter' := hall b.last.toNat (b.last.toNat + 1) a.first.toNat
    omega
  · rintro ⟨c, hc⟩
    rw [← numbers_merge? ha hc]
    exact Set.ordConnected_Icc

theorem exists_merge?_iff_touch (ha : a.IsProper) (hb : b.IsProper) :
    (∃ c, a.merge? b = some c) ↔ (a.numbers ∩ b.numbers).Nonempty ∨
      a.last.toNat + 1 = b.first.toNat ∨ b.last.toNat + 1 = a.first.toNat := by
  have hale := UInt64.le_iff_toNat_le.1 ha
  have hble := UInt64.le_iff_toNat_le.1 hb
  rw [exists_merge?_iff, numbers, numbers, Set.Icc_inter_Icc, Set.nonempty_Icc]
  omega

/-- Two intervals merge in either order, and just if their numbers together are an interval, that is
if they overlap or one starts right after the other ends. The result then has just the numbers of
both. They do not merge just if some number lies strictly between them. -/
theorem merges_into_union (ha : a.IsProper) (hb : b.IsProper) :
    a.merge? b = b.merge? a ∧
      ((∃ c, a.merge? b = some c) ↔ (a.numbers ∪ b.numbers).OrdConnected) ∧
      ((∃ c, a.merge? b = some c) ↔ (a.numbers ∩ b.numbers).Nonempty ∨
        a.last.toNat + 1 = b.first.toNat ∨ b.last.toNat + 1 = a.first.toNat) ∧
      (∀ c, a.merge? b = some c → c.first ≤ c.last ∧ c.numbers = a.numbers ∪ b.numbers ∧
        ∀ n, c.contains n = true ↔ a.contains n = true ∨ b.contains n = true) ∧
      (a.merge? b = none ↔ ∃ n, a.last < n ∧ n < b.first ∨ b.last < n ∧ n < a.first) := by
  refine ⟨merge?_comm a b, (ordConnected_iff ha hb).symm, exists_merge?_iff_touch ha hb, ?_,
    merge?_eq_none_iff_exists⟩
  intro c hc
  exact ⟨isProper_of_merge? ha hc, numbers_merge? ha hc, fun n => contains_merge? ha hc⟩

end Interval

namespace Sample

def largest : Interval := ⟨18446744073709551615, 18446744073709551615⟩

def allBelow : Interval := ⟨0, 18446744073709551614⟩

def allButTwo : Interval := ⟨0, 18446744073709551613⟩

end Sample

namespace Interval

/-- The largest number alone merges with all numbers below it, but not if one of them is left
out. -/
theorem largest_merges_with_all_below :
    Sample.largest.IsProper ∧ Sample.allBelow.IsProper ∧ Sample.allButTwo.IsProper ∧
      (∃ c, Sample.largest.merge? Sample.allBelow = some c ∧ ∀ n, c.contains n = true) ∧
      Sample.largest.merge? Sample.allButTwo = none := by
  have hlargest : Sample.largest.IsProper := by
    unfold IsProper
    decide
  have hbelow : Sample.allBelow.IsProper := by
    unfold IsProper
    decide
  have hbut : Sample.allButTwo.IsProper := by
    unfold IsProper
    decide
  obtain ⟨-, -, htouch, hunion, -⟩ := merges_into_union hlargest hbelow
  obtain ⟨-, -, -, -, hgap⟩ := merges_into_union hlargest hbut
  refine ⟨hlargest, hbelow, hbut, ?_, ?_⟩
  · obtain ⟨c, hc⟩ := htouch.2 (.inr (.inr (by decide)))
    obtain ⟨-, -, hcontains⟩ := hunion c hc
    refine ⟨c, hc, fun n => (hcontains n).2 ?_⟩
    have hn := n.toNat_lt_size
    simp only [contains_iff, Sample.largest, Sample.allBelow, UInt64.le_iff_toNat_le,
      UInt64.reduceToNat, UInt64.size] at *
    omega
  · exact hgap.2 ⟨18446744073709551614, .inr (by decide)⟩

end Interval

end ShardStream.Gtid

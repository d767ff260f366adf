import Mathlib.Algebra.GroupWithZero.Nat
import ShardStream.Time.Calendar

/-! # Days and their dates

Each day has one date of the calendar. It is found by the year first: a year holds the days from its
first of January up to that of the next one. Then the month is the one whose days are reached within
the year.
-/
namespace ShardStream.Time

def yearLength (y : Int) : Nat := if isLeapYear y then 366 else 365

theorem daysBeforeYear_succ (y : Int) :
    daysBeforeYear (y + 1) = daysBeforeYear y + yearLength y := by
  unfold yearLength
  cases hleap : isLeapYear y with
  | true =>
    simp only [isLeapYear, decide_eq_true_eq] at hleap
    simp only [daysBeforeYear, if_true]
    omega
  | false =>
    simp only [isLeapYear, decide_eq_false_iff_not] at hleap
    simp only [daysBeforeYear, Bool.false_eq_true, if_false]
    omega

theorem sum_monthLengths (y : Int) : (monthLengths y).sum = yearLength y := by
  unfold monthLengths yearLength
  cases isLeapYear y <;> rfl

namespace Date

/-- A day lies in its year. -/
theorem yearOf_bounds (n : Int) :
    daysBeforeYear (yearOf n) ≤ n ∧ n < daysBeforeYear (yearOf n + 1) := by
  unfold yearOf
  simp only
  split
  · next hlow =>
    simp only [daysBeforeYear] at hlow ⊢
    omega
  · next hlow =>
    split
    · next hhigh =>
      simp only [daysBeforeYear] at hhigh ⊢
      omega
    · next hhigh => exact ⟨Int.not_lt.1 hlow, Int.not_le.1 hhigh⟩

/-- A day that the months reach lies in one of them, after all days of the months before. -/
theorem splitMonth_spec {lengths : List Nat} {d : Nat} (hd : d < lengths.sum) :
    ∃ length, lengths[(splitMonth lengths d).1]? = some length ∧ (splitMonth lengths d).2 < length ∧
      (lengths.take (splitMonth lengths d).1).sum + (splitMonth lengths d).2 = d := by
  induction lengths generalizing d with
  | nil => simp at hd
  | cons length rest ih =>
    rw [List.sum_cons] at hd
    by_cases hfirst : d < length
    · simp [splitMonth, hfirst]
    · obtain ⟨other, hother, hless, hsum⟩ := ih (d := d - length) (by omega)
      refine ⟨other, ?_, ?_, ?_⟩
      · simpa [splitMonth, hfirst] using hother
      · simpa [splitMonth, hfirst] using hless
      · simp only [splitMonth, hfirst, if_false, List.take_succ_cons, List.sum_cons]
        omega

variable (n : Int)

/-- The day of the year on which a day lies. -/
def dayOfYear : Nat := (n + originDay - daysBeforeYear (yearOf (n + originDay))).toNat

theorem dayOfYear_lt : dayOfYear n < (monthLengths (yearOf (n + originDay))).sum := by
  obtain ⟨hlow, hhigh⟩ := yearOf_bounds (n + originDay)
  rw [daysBeforeYear_succ] at hhigh
  rw [sum_monthLengths, dayOfYear]
  omega

theorem dayOfYear_add :
    daysBeforeYear (yearOf (n + originDay)) + dayOfYear n = n + originDay := by
  have hlow := (yearOf_bounds (n + originDay)).1
  rw [dayOfYear]
  omega

theorem ofDayNumber_eq : ofDayNumber n =
    ⟨yearOf (n + originDay),
      (splitMonth (monthLengths (yearOf (n + originDay))) (dayOfYear n)).1 + 1,
      (splitMonth (monthLengths (yearOf (n + originDay))) (dayOfYear n)).2 + 1⟩ := by
  simp only [ofDayNumber, dayOfYear]

/-- The date of a day is on the calendar. -/
theorem isValid_ofDayNumber : (ofDayNumber n).isValid = true := by
  obtain ⟨length, hlength, hless, -⟩ := splitMonth_spec (dayOfYear_lt n)
  rw [ofDayNumber_eq]
  simp only [isValid, Nat.add_sub_cancel, hlength]
  simp
  omega

/-- The date of a day is that of no other day. -/
theorem dayNumber_ofDayNumber : (ofDayNumber n).dayNumber = n := by
  obtain ⟨length, -, -, hsum⟩ := splitMonth_spec (dayOfYear_lt n)
  have hyear := dayOfYear_add n
  rw [ofDayNumber_eq]
  simp only [dayNumber, daysBeforeMonth, Nat.add_sub_cancel]
  rw [List.sum] at hsum
  omega

/-- The parts of a date have two digits at most. -/
theorem parts_lt {d : Date} (hd : d.isValid = true) : d.month < 100 ∧ d.day < 100 := by
  simp only [isValid, Bool.and_eq_true, decide_eq_true_eq] at hd
  obtain ⟨⟨-, -⟩, hmonth⟩ := hd
  cases hlength : (monthLengths d.year)[d.month - 1]? with
  | none => simp [hlength] at hmonth
  | some length =>
    have hindex : d.month - 1 < 12 := (List.getElem?_eq_some_iff.1 hlength).1
    have hlengths : ∀ length ∈ monthLengths d.year, length < 100 := by
      unfold monthLengths
      cases isLeapYear d.year <;> decide
    have hless := hlengths length (List.mem_of_getElem? hlength)
    simp only [hlength, decide_eq_true_eq] at hmonth
    omega

end Date

end ShardStream.Time

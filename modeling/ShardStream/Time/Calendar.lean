/-! # The Gregorian calendar

Dates of the proleptic calendar, with a year 0 before year 1, and their numbers counted in days
from 1970-01-01.
-/
namespace ShardStream.Time

structure Date where
  year : Int
  month : Nat
  day : Nat
  deriving DecidableEq, Repr

def isLeapYear (y : Int) : Bool := y % 4 = 0 ∧ (y % 100 ≠ 0 ∨ y % 400 = 0)

def monthLengths (y : Int) : List Nat :=
  [31, if isLeapYear y then 29 else 28, 31, 30, 31, 30, 31, 31, 30, 31, 30, 31]

/-- Days from 0001-01-01 to the first of January of a year. -/
def daysBeforeYear (y : Int) : Int :=
  let p := y - 1
  365 * p + p / 4 - p / 100 + p / 400

/-- The number of 1970-01-01 counted from 0001-01-01. -/
def originDay : Int := 719162

namespace Date

def isValid (d : Date) : Bool :=
  1 ≤ d.month && 1 ≤ d.day &&
    match (monthLengths d.year)[d.month - 1]? with
    | some length => d.day ≤ length
    | none => false

/-- Days of the year before the first of the month. -/
def daysBeforeMonth (d : Date) : Nat := ((monthLengths d.year).take (d.month - 1)).foldr (· + ·) 0

def dayNumber (d : Date) : Int :=
  daysBeforeYear d.year + d.daysBeforeMonth + (d.day - 1 : Nat) - originDay

/-- The index of the month that holds a day of the year, and the day inside it, both from 0. -/
def splitMonth : List Nat → Nat → Nat × Nat
  | [], d => (0, d)
  | length :: rest, d =>
    if d < length then (0, d)
    else
      let (m, r) := splitMonth rest (d - length)
      (m + 1, r)

/-- The year of a day counted from 0001-01-01: what the mean length of a year gives, or one off. -/
def yearOf (n : Int) : Int :=
  let guess := 400 * n / 146097 + 1
  if n < daysBeforeYear guess then guess - 1
  else if daysBeforeYear (guess + 1) ≤ n then guess + 1
  else guess

def ofDayNumber (n : Int) : Date :=
  let year := yearOf (n + originDay)
  let (month, day) := splitMonth (monthLengths year) (n + originDay - daysBeforeYear year).toNat
  ⟨year, month + 1, day + 1⟩

example : (⟨1970, 1, 1⟩ : Date).dayNumber = 0 := by decide
example : ofDayNumber 0 = ⟨1970, 1, 1⟩ := by decide
example : ofDayNumber 19782 = ⟨2024, 2, 29⟩ := by decide
example : ofDayNumber (-1) = ⟨1969, 12, 31⟩ := by decide

end Date

end ShardStream.Time

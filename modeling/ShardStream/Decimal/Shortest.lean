/-! # The shortest decimal of a double

A double stands for every real number that rounds to it. Its shortest decimal is the one with the
fewest digits among those numbers, and of two with equally few digits the nearer. All comparisons
are made between natural numbers.
-/
namespace ShardStream.Decimal

/-- The decimal `digits · 10 ^ exponent`. -/
structure Scaled where
  digits : Nat
  exponent : Int
  deriving DecidableEq, Repr

/-- The positive fraction `num / den`. -/
structure Quotient where
  num : Nat
  den : Nat

def Quotient.ofPower (m : Nat) (base : Nat) (e : Int) : Quotient :=
  if 0 ≤ e then ⟨m * Nat.pow base e.toNat, 1⟩ else ⟨m, Nat.pow base (-e).toNat⟩

def Quotient.scale (q : Quotient) (e : Int) : Quotient :=
  if 0 ≤ e then ⟨q.num * Nat.pow 10 e.toNat, q.den⟩ else ⟨q.num, q.den * Nat.pow 10 (-e).toNat⟩

/-- The exponent of the leading decimal digit of a positive fraction. -/
def Quotient.leading (q : Quotient) : Int :=
  let whole := q.num / q.den
  if whole ≠ 0 then ((Nat.toDigits 10 whole).length : Int) - 1
  else
    let width := (Nat.toDigits 10 (q.den / q.num)).length
    if q.den ≤ q.num * Nat.pow 10 (width - 1) then 1 - (width : Int) else -(width : Int)

/-- The numbers that round to one double: in units of `2 ^ unit`, the value is `value` and the
numbers reach from `low` to `high`, with both ends when `closed`. -/
structure Window where
  value : Nat
  low : Nat
  high : Nat
  closed : Bool
  unit : Int

/-- The number of values of the fraction field, which has 52 bits. -/
def fractionCount : Nat := 4503599627370496

/-- The window of the positive double with the given fraction and exponent fields. -/
def Window.ofFields (fraction exponent : Nat) : Window :=
  let m := if exponent = 0 then fraction else fraction + fractionCount
  let gapBelow := if fraction = 0 ∧ 1 < exponent then 1 else 2
  { value := 4 * m, low := 4 * m - gapBelow, high := 4 * m + 2, closed := m % 2 == 0,
    unit := (if exponent = 0 then 1 else (exponent : Int)) - 1077 }

/-- Whether `n · 10 ^ e` lies in the window. -/
def Window.contains (w : Window) (n : Nat) (e : Int) : Bool :=
  let at_ (v : Nat) : Quotient := (Quotient.ofPower v 2 w.unit).scale (-e)
  let low := at_ w.low
  let high := at_ w.high
  if w.closed then decide (low.num ≤ n * low.den) && decide (n * high.den ≤ high.num)
  else decide (low.num < n * low.den) && decide (n * high.den < high.num)

/-- The best decimal with exponent `e`: one of the two neighbours of the value on that grid. -/
def Window.onGrid (w : Window) (e : Int) : Option Scaled :=
  let q := (Quotient.ofPower w.value 2 w.unit).scale (-e)
  let below := q.num / q.den
  let twice := 2 * (q.num - below * q.den)
  let nearBelow := twice < q.den ∨ (twice = q.den ∧ below % 2 = 0)
  match w.contains below e, w.contains (below + 1) e with
  | true, true => some ⟨if nearBelow then below else below + 1, e⟩
  | true, false => some ⟨below, e⟩
  | false, true => some ⟨below + 1, e⟩
  | false, false => none

/-- Tries one digit more after each grid without a hit. Seventeen digits always suffice. -/
def Window.search (w : Window) (e : Int) : Nat → Scaled
  | 0 => ⟨0, 0⟩
  | tries + 1 => (w.onGrid e).getD (w.search (e - 1) tries)

/-- The shortest decimal of the size of a finite double. -/
def shortest (x : Float) : Scaled :=
  let bits := x.toBits.toNat
  let fraction := bits % fractionCount
  let exponent := bits / fractionCount % 2048
  if fraction = 0 ∧ exponent = 0 then ⟨0, 0⟩
  else
    let w := Window.ofFields fraction exponent
    w.search (Quotient.ofPower w.value 2 w.unit).leading 17

def isNegative (x : Float) : Bool := fractionCount * 2048 ≤ x.toBits.toNat

example : shortest 0.1 = ⟨1, -1⟩ := by decide +kernel
example : shortest 1e300 = ⟨1, 300⟩ := by decide +kernel
example : shortest (0.1 + 0.2) = ⟨30000000000000004, -17⟩ := by decide +kernel

end ShardStream.Decimal

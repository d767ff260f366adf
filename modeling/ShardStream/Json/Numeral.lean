import ShardStream.Decimal.Shortest
import ShardStream.Text.Decimal

/-! # JSON numerals and the numbers they stand for

A numeral keeps what its text says: sign, whole part, fraction digits and exponent. An integer is
one without fraction and exponent that fits a 64-bit word; every other numeral, `-0` among them,
stands for a double. A double is read as a 64-bit significand that one multiplication or division
by a power of ten scales, and written as its shortest decimal.
-/
namespace ShardStream.Json

abbrev Digit := Fin 10

structure Numeral where
  negative : Bool
  whole : Nat
  fraction : List Digit
  exponent : Option Int
  deriving DecidableEq, Repr

namespace Numeral

/-- The digit that a character from `0` to `9` shows. -/
def digitOf (c : Char) : Digit := ⟨(c.toNat - 48) % 10, Nat.mod_lt _ (by decide)⟩

def digitChar (d : Digit) : Char := Nat.digitChar d.val

def exponentText (e : Int) : List Char :=
  'e' :: (if e < 0 then '-' else '+') :: Text.decimal e.natAbs

/-- The text of a numeral. The sign of an exponent is always written. -/
def render (n : Numeral) : List Char :=
  (if n.negative then ['-'] else []) ++ Text.decimal n.whole ++
    (if n.fraction = [] then [] else '.' :: n.fraction.map digitChar) ++
    (n.exponent.map exponentText).getD []

def ofNat (n : Nat) : Numeral := ⟨false, n, [], none⟩

def ofInt (n : Int) : Numeral := ⟨n < 0, n.natAbs, [], none⟩

/-- The integer of a numeral without fraction and exponent, unless it is `-0`. -/
def int? (n : Numeral) : Option Int :=
  if n.fraction = [] ∧ n.exponent = none then
    if n.negative then (if n.whole = 0 then none else some (-(n.whole : Int)))
    else some n.whole
  else none

/-- The number of non-negative signed words of 64 bits. -/
def signedLimit : Int := 9223372036854775808

/-- The number of words of 64 bits. -/
def wordLimit : Nat := 18446744073709551616

/-- An integer that fits a signed or an unsigned word of 64 bits. -/
def word? (n : Numeral) : Option Int :=
  n.int?.filter fun i => -signedLimit ≤ i ∧ i < wordLimit

def uint64? (n : Numeral) : Option UInt64 :=
  n.word?.bind fun i => if 0 ≤ i then some (UInt64.ofNat i.toNat) else none

def int64? (n : Numeral) : Option Int64 :=
  n.word?.bind fun i => if i < signedLimit then some (Int64.ofInt i) else none

theorem int?_ofNat (n : Nat) : (ofNat n).int? = some (n : Int) := by simp [int?, ofNat]

theorem int?_ofInt (n : Int) : (ofInt n).int? = some n := by
  by_cases h : n < 0
  · have h0 : n.natAbs ≠ 0 := by omega
    simp only [int?, ofInt, and_self, if_true, h, decide_true, h0, if_false, Option.some.injEq]
    omega
  · simp only [int?, ofInt, and_self, if_true, h, decide_false, Bool.false_eq_true, if_false,
      Option.some.injEq]
    omega

theorem uint64?_ofNat (n : UInt64) : (ofNat n.toNat).uint64? = some n := by
  have h := n.toNat_lt_size
  have hw : (ofNat n.toNat).word? = some (n.toNat : Int) := by
    simp only [word?, int?_ofNat, Option.filter_some, decide_eq_true_eq]
    rw [if_pos]
    simp only [UInt64.size] at h
    simp only [signedLimit, wordLimit]
    omega
  simp [uint64?, hw]

theorem int64?_ofInt (n : Int64) : (ofInt n.toInt).int64? = some n := by
  have hlo := n.le_toInt
  have hhi := n.toInt_lt
  have hw : (ofInt n.toInt).word? = some n.toInt := by
    simp only [word?, int?_ofInt, Option.filter_some, decide_eq_true_eq]
    rw [if_pos]
    simp only [signedLimit, wordLimit]
    omega
  simp only [int64?, hw, Option.bind_some]
  rw [if_pos (by simp only [signedLimit]; omega), Int64.ofInt_toInt]

theorem isSome_word?_of_uint64? {n : Numeral} {w : UInt64} (h : n.uint64? = some w) :
    n.word?.isSome = true := by
  obtain ⟨i, hi, -⟩ := Option.bind_eq_some_iff.1 h
  rw [hi]
  rfl

theorem isSome_word?_of_int64? {n : Numeral} {w : Int64} (h : n.int64? = some w) :
    n.word?.isSome = true := by
  obtain ⟨i, hi, -⟩ := Option.bind_eq_some_iff.1 h
  rw [hi]
  rfl

/-- Appends digits to a significand while it fits a word, and counts the digits taken. -/
def takeDigits (significand taken : Nat) : List Digit → Nat × Nat
  | [] => (significand, taken)
  | d :: rest =>
    if significand * 10 + d.val < wordLimit then
      takeDigits (significand * 10 + d.val) (taken + 1) rest
    else (significand, taken)

def powerOfTen (k : Nat) : Float := Float.ofScientific 1 false k

/-- Divides by `10 ^ 308` until the rest of the scale fits one power, or nothing is left. -/
def scaleDown (x : Float) (e : Nat) : Nat → Float
  | 0 => x
  | steps + 1 =>
    if e ≤ 308 then x / powerOfTen e
    else if x == 0.0 then x
    else scaleDown (x / powerOfTen 308) (e - 308) steps

/-- `significand · 10 ^ e` as a double, or nothing when it is too large for one. -/
def scale? (significand : Nat) (e : Int) : Option Float :=
  let x := (UInt64.ofNat significand).toFloat
  if e < 0 then some (scaleDown x e.natAbs (e.natAbs / 308 + 1))
  else if e ≤ 308 then
    let y := x * powerOfTen e.toNat
    if y.isInf then none else some y
  else if x == 0.0 then some x else none

/-- The double that a numeral stands for, or nothing when it is too large for one. -/
def float? (n : Numeral) : Option Float :=
  let wholeDigits : List Digit := (Text.decimal n.whole).map digitOf
  let (whole, taken) := takeDigits 0 0 wholeDigits
  let dropped := wholeDigits.length - taken
  let (significand, places) := takeDigits whole 0 n.fraction
  let e : Int := (dropped : Int) - places + n.exponent.getD 0
  (scale? significand e).map fun x => if n.negative then -x else x

/-- The double nearest to a numeral of either kind. -/
def double? (n : Numeral) : Option Float :=
  match n.word? with
  | some i => some (if 0 ≤ i then (UInt64.ofNat i.toNat).toFloat else (Int64.ofInt i).toFloat)
  | none => n.float?

def dropTrailingZeros (ds : List Digit) : List Digit := (ds.reverse.dropWhile (· = 0)).reverse

def valueOf (ds : List Digit) : Nat := ds.foldl (fun n d => n * 10 + d.val) 0

def orZero : List Digit → List Digit
  | [] => [0]
  | ds => ds

/-- Doubles from `1e-5` up to `1e16` are written without an exponent and with a fraction of at
least one digit; the others have one digit before the point. -/
def ofFloat (x : Float) : Numeral :=
  let s := Decimal.shortest x
  let written : List Digit := (Text.decimal s.digits).map digitOf
  let digits := dropTrailingZeros written
  let point : Int := written.length + s.exponent
  let negative := Decimal.isNegative x
  if digits = [] then ⟨negative, 0, [0], none⟩
  else if -5 < point ∧ point ≤ 16 then
    if point ≤ 0 then ⟨negative, 0, List.replicate point.natAbs 0 ++ digits, none⟩
    else
      let k := point.toNat
      let padded := digits ++ List.replicate (k - digits.length) 0
      ⟨negative, valueOf (padded.take k), orZero (padded.drop k), none⟩
  else ⟨negative, valueOf (digits.take 1), digits.drop 1, some (point - 1)⟩

example : String.ofList (ofFloat 1e16).render = "1e+16" := by decide +kernel
example : String.ofList (ofFloat 1e23).render = "1e+23" := by decide +kernel
example : String.ofList (ofFloat 1e-5).render = "0.00001" := by decide +kernel
example : String.ofList (ofFloat (-0.0)).render = "-0.0" := by decide +kernel
example : String.ofList (ofFloat 1500.0).render = "1500.0" := by decide +kernel
example : String.ofList (ofFloat 1.5e-7).render = "1.5e-7" := by decide +kernel

end Numeral

end ShardStream.Json

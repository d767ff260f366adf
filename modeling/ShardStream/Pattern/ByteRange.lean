import ShardStream.Pattern.CharSet

/-! # The UTF-8 forms of a set of characters

The forms of all characters of a range are written as a few rows of byte ranges: a row stands for
every choice of one byte from each of its ranges.
-/
namespace ShardStream.Pattern

abbrev ByteRange := Nat × Nat

abbrev ByteRow := List ByteRange

/-- The range of all bytes that continue a character. -/
def anyNext : ByteRange := (0x80, 0xBF)

/-- The rows for the numbers from `low` to `high` in base 64, of `n + 1` digits with `lead` added to
the first and 0x80 to the others. -/
def rows (lead : Nat) : (n low high : Nat) → List ByteRow
  | 0, low, high => [[(lead + low, lead + high)]]
  | n + 1, low, high =>
    let unit := Nat.pow 64 (n + 1)
    let first := low / unit
    let last := high / unit
    if first = last then
      (rows 0x80 n (low % unit) (high % unit)).map ((lead + first, lead + first) :: ·)
    else
      let cutsLow := low % unit ≠ 0
      let cutsHigh := high % unit ≠ unit - 1
      let from_ := if cutsLow then first + 1 else first
      let upto := if cutsHigh then last else last + 1
      (if cutsLow then
        (rows 0x80 n (low % unit) (unit - 1)).map ((lead + first, lead + first) :: ·) else []) ++
      (if from_ < upto then
        [(lead + from_, lead + upto - 1) :: List.replicate (n + 1) anyNext] else []) ++
      (if cutsHigh then
        (rows 0x80 n 0 (high % unit)).map ((lead + last, lead + last) :: ·) else [])

/-- The code points whose forms have `extra` bytes after the first. The first byte counts up from
`lead`. -/
structure FormBlock where
  first : Nat
  last : Nat
  lead : Nat
  extra : Nat

def formBlocks : List FormBlock :=
  [⟨0, 0x7F, 0, 0⟩, ⟨0x80, 0x7FF, 0xC0, 1⟩, ⟨0x800, 0xD7FF, 0xE0, 2⟩, ⟨0xE000, 0xFFFF, 0xE0, 2⟩,
   ⟨0x10000, 0x10FFFF, 0xF0, 3⟩]

def FormBlock.rows (b : FormBlock) (r : Nat × Nat) : List ByteRow :=
  let low := Nat.max b.first r.1
  let high := Nat.min b.last r.2
  if low ≤ high then Pattern.rows b.lead b.extra low high else []

namespace CharSet

def byteRows (s : CharSet) : List ByteRow :=
  s.ranges.flatMap fun r => formBlocks.flatMap fun b => b.rows r

def isAscii (s : CharSet) : Bool := s.ranges.all fun r => r.2 < 0x80

end CharSet

/-- The distinct first ranges of the rows. -/
def heads (rows : List ByteRow) : List ByteRange := (rows.filterMap List.head?).eraseDups

/-- What follows the first range `h` in the rows that start with it. -/
def tails (rows : List ByteRow) (h : ByteRange) : List ByteRow :=
  rows.filterMap fun row =>
    match row with
    | [] => none
    | r :: rest => if r = h then some rest else none

end ShardStream.Pattern

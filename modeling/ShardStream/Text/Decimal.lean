/-! # Decimal numerals

Numbers are written without sign or leading zeros. They are read more freely: one leading `+`
and any number of leading zeros are allowed, blanks are not, and only ASCII digits count.
-/
namespace ShardStream.Text

def decimal (n : Nat) : List Char := Nat.toDigits 10 n

/-- The value of a non-empty run of ASCII digits. -/
def readDigits? (cs : List Char) : Option Nat :=
  if cs ≠ [] ∧ cs.all Char.isDigit then some (Nat.ofDigitChars 10 cs 0) else none

def dropPlus : List Char → List Char
  | '+' :: rest => rest
  | cs => cs

/-- Reads a number below `bound`. -/
def readBelow? (bound : Nat) (cs : List Char) : Option Nat :=
  (readDigits? (dropPlus cs)).filter (· < bound)

def readWord? (cs : List Char) : Option UInt64 :=
  (readBelow? UInt64.size cs).map UInt64.ofNat

theorem decimal_ne_nil (n : Nat) : decimal n ≠ [] := Nat.toDigits_ne_nil

theorem isDigit_of_mem_decimal {n : Nat} {c : Char} (h : c ∈ decimal n) : c.isDigit :=
  Nat.isDigit_of_mem_toDigits (by decide) (by decide) h

theorem readDigits?_decimal (n : Nat) : readDigits? (decimal n) = some n := by
  have h : (decimal n).all Char.isDigit := List.all_eq_true.2 fun _ => isDigit_of_mem_decimal
  rw [readDigits?, if_pos ⟨decimal_ne_nil n, h⟩, decimal, Nat.ofDigitChars_ten_toDigits]

theorem dropPlus_decimal (n : Nat) : dropPlus (decimal n) = decimal n := by
  unfold dropPlus
  split
  · next rest h =>
    have hplus : '+' ∈ decimal n := by rw [h]; exact List.mem_cons_self
    exact absurd (isDigit_of_mem_decimal hplus) (by decide)
  · rfl

theorem readBelow?_decimal {bound n : Nat} (h : n < bound) :
    readBelow? bound (decimal n) = some n := by
  simp [readBelow?, dropPlus_decimal, readDigits?_decimal, h]

end ShardStream.Text

/-! # Sets of code points given by ranges -/
namespace ShardStream.Text

/-- Whether one of the closed ranges holds `n`. -/
def covers (ranges : List (Nat × Nat)) (n : Nat) : Bool :=
  ranges.any fun r => r.1 ≤ n && n ≤ r.2

/-- Whether the code point of `c` lies in one of the closed ranges. -/
def inRanges (ranges : List (Nat × Nat)) (c : Char) : Bool := covers ranges c.toNat

theorem covers_iff {ranges : List (Nat × Nat)} {n : Nat} :
    covers ranges n ↔ ∃ r ∈ ranges, r.1 ≤ n ∧ n ≤ r.2 := by
  simp [covers]

theorem inRanges_iff {ranges : List (Nat × Nat)} {c : Char} :
    inRanges ranges c ↔ ∃ r ∈ ranges, r.1 ≤ c.toNat ∧ c.toNat ≤ r.2 := covers_iff

@[simp] theorem covers_append (rs ss : List (Nat × Nat)) (n : Nat) :
    covers (rs ++ ss) n = (covers rs n || covers ss n) := List.any_append

end ShardStream.Text

import ShardStream.Pattern.CaseFold
import ShardStream.Pattern.Digits
import ShardStream.Pattern.WordCharacters
import ShardStream.Text.Blank

/-! # Sets of characters in patterns

A set of characters is the list of its ranges of code points, in ascending order and with a gap
between any two. Each set has one such list, so equal sets are equal values.
-/
namespace ShardStream.Pattern

/-- Closed ranges in ascending order that neither overlap nor touch. -/
abbrev Ascending (rs : List (Nat × Nat)) : Prop :=
  rs.Pairwise (fun r s => r.2 + 1 < s.1) ∧ ∀ r ∈ rs, r.1 ≤ r.2

structure CharSet where
  ranges : List (Nat × Nat)
  ascending : Ascending ranges
  deriving DecidableEq, Repr

namespace CharSet

/-- Fuses a range with those after it that overlap or touch it. -/
def fuseFrom (r : Nat × Nat) : List (Nat × Nat) → List (Nat × Nat)
  | [] => [r]
  | s :: rest =>
    if s.1 ≤ r.2 + 1 then fuseFrom (r.1, Nat.max r.2 s.2) rest else r :: fuseFrom s rest

def fuse : List (Nat × Nat) → List (Nat × Nat)
  | [] => []
  | r :: rest => fuseFrom r rest

theorem fuseFrom_ascending (r : Nat × Nat) (rs : List (Nat × Nat)) (h : r.1 ≤ r.2)
    (hs : ∀ s ∈ rs, s.1 ≤ s.2 ∧ r.1 ≤ s.1) (ho : rs.Pairwise (·.1 ≤ ·.1)) :
    Ascending (fuseFrom r rs) ∧ ∀ t ∈ fuseFrom r rs, r.1 ≤ t.1 := by
  induction rs generalizing r with
  | nil => simp [fuseFrom, Ascending, h]
  | cons s rest ih =>
    rw [List.forall_mem_cons] at hs
    rw [List.pairwise_cons] at ho
    rw [fuseFrom]
    split
    · exact ih _ (Nat.le_trans h (Nat.le_max_left _ _)) hs.2 ho.2
    · next hgap =>
      obtain ⟨hasc, hlow⟩ := ih s hs.1.1 (fun t ht => ⟨(hs.2 t ht).1, ho.1 t ht⟩) ho.2
      refine ⟨⟨List.pairwise_cons.2 ⟨fun t ht => ?_, hasc.1⟩, ?_⟩, ?_⟩
      · have := hlow t ht
        omega
      · simpa [h] using hasc.2
      · rw [List.forall_mem_cons]
        refine ⟨Nat.le_refl _, fun t ht => ?_⟩
        have := hlow t ht
        omega

theorem covers_fuseFrom (r : Nat × Nat) (rs : List (Nat × Nat)) (n : Nat)
    (hs : ∀ s ∈ rs, r.1 ≤ s.1) (ho : rs.Pairwise (·.1 ≤ ·.1)) :
    Text.covers (fuseFrom r rs) n ↔ Text.covers (r :: rs) n := by
  induction rs generalizing r with
  | nil => rfl
  | cons s rest ih =>
    rw [List.forall_mem_cons] at hs
    rw [List.pairwise_cons] at ho
    rw [fuseFrom]
    split
    · refine (ih (r.1, Nat.max r.2 s.2) hs.2 ho.2).trans ?_
      simp only [Text.covers, List.any_cons, Bool.or_eq_true, Bool.and_eq_true, decide_eq_true_eq,
        ← or_assoc]
      refine or_congr ?_ Iff.rfl
      have := hs.1
      have hmax : Nat.max r.2 s.2 = r.2 ∧ s.2 ≤ r.2 ∨ Nat.max r.2 s.2 = s.2 ∧ r.2 ≤ s.2 := by
        simp only [Nat.max_def]
        split <;> omega
      omega
    · have h := ih s ho.1 ho.2
      simp only [Text.covers, List.any_cons, Bool.or_eq_true] at h ⊢
      rw [h]

theorem fuse_ascending (rs : List (Nat × Nat)) (hs : ∀ r ∈ rs, r.1 ≤ r.2)
    (ho : rs.Pairwise (·.1 ≤ ·.1)) : Ascending (fuse rs) := by
  cases rs with
  | nil => simp [fuse, Ascending]
  | cons r rest =>
    rw [List.forall_mem_cons] at hs
    rw [List.pairwise_cons] at ho
    exact (fuseFrom_ascending r rest hs.1 (fun s h => ⟨hs.2 s h, ho.1 s h⟩) ho.2).1

theorem covers_fuse (rs : List (Nat × Nat)) (n : Nat) (ho : rs.Pairwise (·.1 ≤ ·.1)) :
    Text.covers (fuse rs) n ↔ Text.covers rs n := by
  cases rs with
  | nil => rfl
  | cons r rest =>
    rw [List.pairwise_cons] at ho
    exact covers_fuseFrom r rest n ho.1 ho.2

def isBefore (r s : Nat × Nat) : Bool := r.1 ≤ s.1

theorem isBefore_trans (r s t : Nat × Nat) (h : isBefore r s) (h' : isBefore s t) :
    isBefore r t := by
  simp only [isBefore, decide_eq_true_eq] at *
  exact Nat.le_trans h h'

theorem isBefore_total (r s : Nat × Nat) : isBefore r s || isBefore s r := by
  simp only [isBefore, Bool.or_eq_true, decide_eq_true_eq]
  exact Nat.le_total r.1 s.1

/-- The ranges that hold something, by their first code points. -/
def sorted (rs : List (Nat × Nat)) : List (Nat × Nat) :=
  (rs.filter fun r => r.1 ≤ r.2).mergeSort isBefore

theorem sorted_pairwise (rs : List (Nat × Nat)) : (sorted rs).Pairwise (·.1 ≤ ·.1) :=
  (List.pairwise_mergeSort isBefore_trans isBefore_total _).imp fun h => by
    simpa [isBefore] using h

theorem mem_sorted {rs : List (Nat × Nat)} {r : Nat × Nat} :
    r ∈ sorted rs ↔ r ∈ rs ∧ r.1 ≤ r.2 := by
  simp [sorted]

theorem covers_sorted (rs : List (Nat × Nat)) (n : Nat) :
    Text.covers (sorted rs) n ↔ Text.covers rs n := by
  simp only [Text.covers_iff, mem_sorted]
  exact ⟨fun ⟨r, h, hn⟩ => ⟨r, h.1, hn⟩, fun ⟨r, h, hn⟩ => ⟨r, ⟨h, Nat.le_trans hn.1 hn.2⟩, hn⟩⟩

/-- The characters of all the ranges. -/
def ofRanges (rs : List (Nat × Nat)) : CharSet :=
  ⟨fuse (sorted rs), fuse_ascending _ (fun _ h => (mem_sorted.1 h).2) (sorted_pairwise rs)⟩

def has (s : CharSet) (n : Nat) : Bool := Text.covers s.ranges n

def mem (s : CharSet) (c : Char) : Bool := s.has c.toNat

@[simp] theorem has_ofRanges (rs : List (Nat × Nat)) (n : Nat) :
    (ofRanges rs).has n = Text.covers rs n := by
  rw [Bool.eq_iff_iff]
  exact (covers_fuse _ n (sorted_pairwise rs)).trans (covers_sorted rs n)

def nothing : CharSet := ⟨[], by simp [Ascending]⟩

instance : Inhabited CharSet := ⟨nothing⟩

def range (first last : Char) : CharSet := ofRanges [(first.toNat, last.toNat)]

def one (c : Char) : CharSet := range c c

def digits : CharSet := ofRanges digitRanges

def blanks : CharSet := ofRanges Text.blankRanges

def word : CharSet := ofRanges wordRanges

def union (s t : CharSet) : CharSet := ofRanges (s.ranges ++ t.ranges)

def lastCode : Nat := 0x10FFFF

/-- What lies from `n` on outside the ranges. -/
def gaps (n : Nat) : List (Nat × Nat) → List (Nat × Nat)
  | [] => if n ≤ lastCode then [(n, lastCode)] else []
  | r :: rest => if n < r.1 then (n, r.1 - 1) :: gaps (r.2 + 1) rest else gaps (r.2 + 1) rest

theorem gaps_ascending (n : Nat) (rs : List (Nat × Nat)) (ha : Ascending rs)
    (hn : ∀ r ∈ rs, n ≤ r.1) : Ascending (gaps n rs) ∧ ∀ t ∈ gaps n rs, n ≤ t.1 := by
  induction rs generalizing n with
  | nil =>
    rw [gaps]
    split <;> simp_all [Ascending]
  | cons r rest ih =>
    obtain ⟨hp, hr⟩ := ha
    rw [List.pairwise_cons] at hp
    rw [List.forall_mem_cons] at hr hn
    obtain ⟨hasc, hlow⟩ := ih (r.2 + 1) ⟨hp.2, hr.2⟩ fun s hs => Nat.le_of_lt (hp.1 s hs)
    rw [gaps]
    split
    · next hlt =>
      refine ⟨⟨List.pairwise_cons.2 ⟨fun t ht => ?_, hasc.1⟩, ?_⟩, ?_⟩
      · have := hlow t ht
        have := hr.1
        omega
      · rw [List.forall_mem_cons]
        exact ⟨by omega, hasc.2⟩
      · rw [List.forall_mem_cons]
        refine ⟨Nat.le_refl _, fun t ht => ?_⟩
        have := hlow t ht
        have := hr.1
        omega
    · refine ⟨hasc, fun t ht => ?_⟩
      have := hlow t ht
      have := hr.1
      have := hn.1
      omega

theorem covers_gaps (n m : Nat) (rs : List (Nat × Nat)) (ha : Ascending rs)
    (hn : ∀ r ∈ rs, n ≤ r.1) (hm : m ≤ lastCode) :
    Text.covers (gaps n rs) m ↔ n ≤ m ∧ ¬ Text.covers rs m := by
  induction rs generalizing n with
  | nil =>
    rw [gaps]
    split <;> simp [Text.covers] <;> omega
  | cons r rest ih =>
    obtain ⟨hp, hr⟩ := ha
    rw [List.pairwise_cons] at hp
    rw [List.forall_mem_cons] at hr hn
    have h := ih (r.2 + 1) ⟨hp.2, hr.2⟩ fun s hs => Nat.le_of_lt (hp.1 s hs)
    have hrest : Text.covers rest m → r.2 + 1 < m := fun hc => by
      obtain ⟨s, hs, hle, _⟩ := Text.covers_iff.1 hc
      have := hp.1 s hs
      omega
    have hcons : Text.covers (r :: rest) m ↔ (r.1 ≤ m ∧ m ≤ r.2) ∨ Text.covers rest m := by
      simp [Text.covers]
    have := hr.1
    have := hn.1
    rw [gaps, hcons]
    split
    · have hgap : Text.covers ((n, r.1 - 1) :: gaps (r.2 + 1) rest) m ↔
          (n ≤ m ∧ m ≤ r.1 - 1) ∨ Text.covers (gaps (r.2 + 1) rest) m := by
        simp [Text.covers]
      rw [hgap, h]
      by_cases hc : Text.covers rest m
      · have := hrest hc
        simp only [hc, not_true_eq_false, and_false, or_false, or_true, iff_false]
        omega
      · simp only [hc, not_false_eq_true, and_true, or_false, Bool.false_eq_true]
        omega
    · rw [h]
      by_cases hc : Text.covers rest m
      · simp [hc]
      · simp only [hc, not_false_eq_true, and_true, or_false, Bool.false_eq_true]
        omega

def compl (s : CharSet) : CharSet :=
  ⟨gaps 0 s.ranges, (gaps_ascending 0 s.ranges s.ascending fun _ _ => Nat.zero_le _).1⟩

def inter (s t : CharSet) : CharSet := (s.compl.union t.compl).compl

def diff (s t : CharSet) : CharSet := s.inter t.compl

def symmDiff (s t : CharSet) : CharSet := (s.diff t).union (t.diff s)

def all : CharSet := nothing.compl

def ofPoints (ns : List Nat) : CharSet := ofRanges (ns.map fun n => (n, n))

def ofChars (cs : List Char) : CharSet := ofPoints (cs.map Char.toNat)

def unions (ss : List CharSet) : CharSet := ofRanges (ss.flatMap ranges)

/-- The representatives of all letters of the set. -/
def representatives (s : CharSet) : CharSet :=
  ofPoints ((foldPairs.filter fun p => s.has p.1).map (·.2))

/-- The letters whose representatives are in the set. -/
def represented (s : CharSet) : CharSet :=
  ofPoints ((foldPairs.filter fun p => s.has p.2).map (·.1))

/-- Adds the letters that differ from one of the set in case only. -/
def anyCase (s : CharSet) : CharSet :=
  let t := s.union s.representatives
  t.union t.represented

/-- The only character of the set, if there is just one. -/
def only? (s : CharSet) : Option Char :=
  match s.ranges with
  | [r] => if r.1 = r.2 then some (Char.ofNat r.1) else none
  | _ => none

/-- The ASCII classes that may be written `[:name:]` inside brackets. -/
def ascii? : String → Option CharSet
  | "alnum" => some (ofRanges [(0x30, 0x39), (0x41, 0x5A), (0x61, 0x7A)])
  | "alpha" => some (ofRanges [(0x41, 0x5A), (0x61, 0x7A)])
  | "ascii" => some (ofRanges [(0, 0x7F)])
  | "blank" => some (ofChars ['\t', ' '])
  | "cntrl" => some (ofRanges [(0, 0x1F), (0x7F, 0x7F)])
  | "digit" => some (range '0' '9')
  | "graph" => some (range '!' '~')
  | "lower" => some (range 'a' 'z')
  | "print" => some (range ' ' '~')
  | "punct" => some (ofRanges [(0x21, 0x2F), (0x3A, 0x40), (0x5B, 0x60), (0x7B, 0x7E)])
  | "space" => some (ofRanges [(0x09, 0x0D), (0x20, 0x20)])
  | "upper" => some (range 'A' 'Z')
  | "word" => some (ofRanges [(0x30, 0x39), (0x41, 0x5A), (0x5F, 0x5F), (0x61, 0x7A)])
  | "xdigit" => some (ofRanges [(0x30, 0x39), (0x41, 0x46), (0x61, 0x66)])
  | _ => none

theorem toNat_le_lastCode (c : Char) : c.toNat ≤ lastCode := by
  have h := c.valid
  simp only [UInt32.isValidChar, Nat.isValidChar] at h
  simp only [Char.toNat, lastCode]
  omega

@[simp] theorem mem_nothing (c : Char) : nothing.mem c = false := rfl

@[simp] theorem mem_range (first last c : Char) :
    (range first last).mem c = decide (first ≤ c ∧ c ≤ last) := by
  rw [mem, range, has_ofRanges, Bool.eq_iff_iff]
  simp only [Text.covers, List.any_cons, List.any_nil, Bool.or_false, Bool.and_eq_true,
    decide_eq_true_eq]
  exact Iff.rfl

@[simp] theorem mem_one (c d : Char) : (one c).mem d = decide (d = c) := by
  rw [Bool.eq_iff_iff]
  simp only [one, mem_range, decide_eq_true_eq]
  exact ⟨fun h => Char.le_antisymm h.2 h.1, fun h => h ▸ ⟨Char.le_refl _, Char.le_refl _⟩⟩

@[simp] theorem mem_union (s t : CharSet) (c : Char) :
    (s.union t).mem c = (s.mem c || t.mem c) := by
  rw [mem, union, has_ofRanges, Text.covers_append]
  rfl

@[simp] theorem mem_compl (s : CharSet) (c : Char) : s.compl.mem c = !s.mem c := by
  have h := covers_gaps 0 c.toNat s.ranges s.ascending (fun _ _ => Nat.zero_le _)
    (toNat_le_lastCode c)
  rw [Bool.eq_iff_iff]
  simpa [compl, mem, has] using h

@[simp] theorem mem_inter (s t : CharSet) (c : Char) :
    (s.inter t).mem c = (s.mem c && t.mem c) := by
  simp [inter]

@[simp] theorem mem_diff (s t : CharSet) (c : Char) :
    (s.diff t).mem c = (s.mem c && !t.mem c) := by
  simp [diff]

@[simp] theorem mem_symmDiff (s t : CharSet) (c : Char) :
    (s.symmDiff t).mem c = (s.mem c ^^ t.mem c) := by
  simp only [symmDiff, mem_union, mem_diff]
  cases s.mem c <;> cases t.mem c <;> rfl

@[simp] theorem mem_all (c : Char) : all.mem c := by simp [all]

end CharSet

end ShardStream.Pattern

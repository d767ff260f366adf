import Mathlib.Data.List.TakeWhile
import ShardStream.Text.Blank
import ShardStream.Text.Decimal

/-! # Texts without the blanks around them

A text is its core with blanks before and after, and the core is what is left when the blanks have
been dropped. The pieces between separators are those texts without separators that give the whole
text when they are put together again.
-/
namespace ShardStream.Text

variable {cs core : List Char}

/-- The text is the core with blanks around it, and the core has no blanks at its ends. -/
def Padded (core cs : List Char) : Prop :=
  ∃ before after, cs = before ++ core ++ after ∧ (∀ c ∈ before, isBlank c = true) ∧
    (∀ c ∈ after, isBlank c = true) ∧ (∀ c ∈ core.head?, isBlank c = false) ∧
    ∀ c ∈ core.getLast?, isBlank c = false

theorem isBlank_of_isDigit {c : Char} (hc : c.isDigit = true) : isBlank c = false := by
  have hbounds : 48 ≤ c.toNat ∧ c.toNat ≤ 57 := by
    simpa [Char.isDigit, UInt32.le_iff_toNat_le] using hc
  rw [Bool.eq_false_iff]
  intro hblank
  obtain ⟨r, hr, hlow, hhigh⟩ := inRanges_iff.1 hblank
  have hoff : ∀ r ∈ blankRanges, r.2 < 48 ∨ 57 < r.1 := by decide
  have hdigit := hoff r hr
  omega

/-- Nothing is dropped from a text that does not start with a blank. -/
theorem trimStart_of_head (h : ∀ c ∈ cs.head?, isBlank c = false) : trimStart cs = cs := by
  cases cs with
  | nil => rfl
  | cons c cs => simp [trimStart, h c rfl]

theorem trimEnd_eq (cs : List Char) : trimEnd cs = (trimStart cs.reverse).reverse := rfl

/-- Nothing is dropped from a text that does not end with a blank. -/
theorem trimEnd_of_last (h : ∀ c ∈ cs.getLast?, isBlank c = false) : trimEnd cs = cs := by
  rw [trimEnd_eq, trimStart_of_head (by simpa using h), List.reverse_reverse]

theorem trimStart_append_cons {c : Char} (hc : isBlank c = false) (a b : List Char) :
    trimStart (a ++ c :: b) = trimStart a ++ c :: b := by
  induction a with
  | nil => exact trimStart_of_head (by simpa using hc)
  | cons x a ih =>
    cases hx : isBlank x with
    | true => simpa [trimStart, hx] using ih
    | false => simp [trimStart, hx]

/-- The blanks before and after a character that is no blank are dropped apart from each other. -/
theorem trim_append_cons {c : Char} (hc : isBlank c = false) (a b : List Char) :
    trim (a ++ c :: b) = trimStart a ++ c :: trimEnd b := by
  have hend := trimStart_append_cons hc b.reverse (trimStart a).reverse
  rw [trim, trimStart_append_cons hc, trimEnd_eq, List.reverse_append, List.reverse_cons,
    List.append_assoc, List.singleton_append, hend]
  simp [trimEnd_eq]

theorem head_trimStart (cs : List Char) : ∀ c ∈ (trimStart cs).head?, isBlank c = false := by
  intro c hc
  have h := List.head?_dropWhile_not isBlank cs
  rw [trimStart] at hc
  rw [hc] at h
  exact Bool.eq_false_iff.2 (by simpa using h)

theorem exists_trimStart (cs : List Char) :
    ∃ before, cs = before ++ trimStart cs ∧ ∀ c ∈ before, isBlank c = true :=
  ⟨cs.takeWhile isBlank, List.takeWhile_append_dropWhile.symm, fun _ => List.mem_takeWhile_imp⟩

theorem mem_trimStart_iff {c : Char} (hc : isBlank c = false) : c ∈ trimStart cs ↔ c ∈ cs := by
  obtain ⟨before, hbefore, hblank⟩ := exists_trimStart cs
  have hnot : c ∉ before := fun h => by simp [hblank c h] at hc
  have hmem : c ∈ before ++ trimStart cs ↔ c ∈ trimStart cs := by
    rw [List.mem_append, or_iff_right hnot]
  rw [← hbefore] at hmem
  exact hmem.symm

theorem exists_trimEnd (cs : List Char) :
    ∃ after, cs = trimEnd cs ++ after ∧ ∀ c ∈ after, isBlank c = true := by
  obtain ⟨before, hbefore, hblank⟩ := exists_trimStart cs.reverse
  refine ⟨before.reverse, ?_, fun c hc => hblank c (List.mem_reverse.1 hc)⟩
  rw [trimEnd_eq, ← List.reverse_append, ← hbefore, List.reverse_reverse]

theorem padded_trim (cs : List Char) : Padded (trim cs) cs := by
  obtain ⟨before, hbefore, hblank⟩ := exists_trimStart cs
  obtain ⟨after, hafter, hblank'⟩ := exists_trimStart (trimStart cs).reverse
  have hstart : trimStart cs = trim cs ++ after.reverse := by
    rw [← List.reverse_reverse (trimStart cs), hafter, List.reverse_append]
    rfl
  refine ⟨before, after.reverse, ?_, hblank, ?_, ?_, ?_⟩
  · rw [List.append_assoc, ← hstart]
    exact hbefore
  · intro c hc
    exact hblank' c (List.mem_reverse.1 hc)
  · intro c hc
    refine head_trimStart cs c ?_
    rw [hstart, List.head?_append, hc]
    rfl
  · intro c hc
    rw [trim, trimEnd, List.getLast?_reverse] at hc
    exact head_trimStart _ c hc

theorem Padded.trim_eq (h : Padded core cs) : trim cs = core := by
  obtain ⟨before, after, rfl, hbefore, hafter, hhead, hlast⟩ := h
  have hstart : trimStart (before ++ core ++ after) = trimStart (core ++ after) := by
    rw [List.append_assoc, trimStart, List.dropWhile_append_of_pos hbefore, trimStart]
  have hend : trimEnd (core ++ after) = core := by
    have hafter' : ∀ c ∈ after.reverse, isBlank c = true :=
      fun c hc => hafter c (List.mem_reverse.1 hc)
    rw [trimEnd, List.reverse_append, List.dropWhile_append_of_pos hafter']
    exact trimEnd_of_last hlast
  rw [trim, hstart]
  cases core with
  | nil =>
    have hnil : trimStart after = [] := List.dropWhile_eq_nil_iff.2 hafter
    rw [List.nil_append, hnil]
    rfl
  | cons c core =>
    rw [trimStart_of_head (by simpa using hhead), hend]

theorem trimEnd_eq_nil_iff : trimEnd cs = [] ↔ ∀ c ∈ cs, isBlank c = true := by
  rw [trimEnd_eq, List.reverse_eq_nil_iff, trimStart, List.dropWhile_eq_nil_iff]
  simp only [List.mem_reverse]

theorem trim_eq_nil_iff : trim cs = [] ↔ ∀ c ∈ cs, isBlank c = true := by
  obtain ⟨before, hbefore, hblank⟩ := exists_trimStart cs
  rw [trim, trimEnd_eq_nil_iff]
  constructor
  · intro hall c hc
    rw [hbefore] at hc
    exact (List.mem_append.1 hc).elim (hblank c) (hall c)
  · intro hall c hc
    refine hall c ?_
    rw [hbefore]
    exact List.mem_append_right _ hc

/-- To drop the blanks at the end alone is enough just if the text does not start with a blank. -/
theorem trimEnd_eq_trim_iff (hne : trimEnd cs ≠ []) :
    trimEnd cs = trim cs ↔ ∀ c ∈ cs.head?, isBlank c = false := by
  constructor
  · intro htrim c hc
    obtain ⟨-, -, -, -, -, hhead, -⟩ := padded_trim cs
    obtain ⟨after, hafter, -⟩ := exists_trimEnd cs
    obtain ⟨first, rest, hcons⟩ := List.exists_cons_of_ne_nil hne
    have hfirst : cs.head? = some first := by rw [hafter, hcons, List.cons_append, List.head?_cons]
    refine hhead c ?_
    rw [← htrim, hcons, List.head?_cons, ← hfirst]
    exact hc
  · intro hhead
    rw [trim, trimStart_of_head hhead]

/-- The text has a first character, and it is no blank. -/
def StartsTight (cs : List Char) : Prop := ∃ c, cs.head? = some c ∧ isBlank c = false

/-- The text has a last character, and it is no blank. -/
def EndsTight (cs : List Char) : Prop := ∃ c, cs.getLast? = some c ∧ isBlank c = false

theorem StartsTight.ne_nil (h : StartsTight cs) : cs ≠ [] := by
  rintro rfl
  obtain ⟨c, hc, -⟩ := h
  cases hc

theorem EndsTight.ne_nil (h : EndsTight cs) : cs ≠ [] := by
  rintro rfl
  obtain ⟨c, hc, -⟩ := h
  cases hc

theorem StartsTight.head (h : StartsTight cs) : ∀ c ∈ cs.head?, isBlank c = false := by
  obtain ⟨first, hfirst, hblank⟩ := h
  rw [hfirst]
  rintro c ⟨rfl⟩
  exact hblank

theorem EndsTight.last (h : EndsTight cs) : ∀ c ∈ cs.getLast?, isBlank c = false := by
  obtain ⟨last, hlast, hblank⟩ := h
  rw [hlast]
  rintro c ⟨rfl⟩
  exact hblank

theorem StartsTight.append {a : List Char} (h : StartsTight a) (b : List Char) :
    StartsTight (a ++ b) := by
  obtain ⟨c, hc, hblank⟩ := h
  exact ⟨c, by simp [List.head?_append, hc], hblank⟩

theorem EndsTight.append {b : List Char} (h : EndsTight b) (a : List Char) :
    EndsTight (a ++ b) := by
  obtain ⟨c, hc, hblank⟩ := h
  exact ⟨c, by simp [List.getLast?_append, hc], hblank⟩

theorem StartsTight.intercalate {sep part : List Char} (h : StartsTight part)
    (rest : List (List Char)) : StartsTight (sep.intercalate (part :: rest)) := by
  cases rest with
  | nil => rwa [List.intercalate_singleton]
  | cons next rest =>
    rw [List.intercalate_cons_cons, List.append_assoc]
    exact h.append _

theorem EndsTight.intercalate {sep : List Char} {parts : List (List Char)} (hne : parts ≠ [])
    (h : ∀ part ∈ parts, EndsTight part) : EndsTight (sep.intercalate parts) := by
  induction parts with
  | nil => exact absurd rfl hne
  | cons part rest ih =>
    obtain ⟨hpart, hrest⟩ := List.forall_mem_cons.1 h
    cases rest with
    | nil => rwa [List.intercalate_singleton]
    | cons next rest =>
      rw [List.intercalate_cons_cons]
      exact (ih (List.cons_ne_nil _ _) hrest).append _

theorem Padded.startsTight (h : Padded core cs) (hne : core ≠ []) : StartsTight core := by
  obtain ⟨before, after, -, -, -, hhead, -⟩ := h
  obtain ⟨c, rest, rfl⟩ := List.exists_cons_of_ne_nil hne
  exact ⟨c, rfl, hhead c rfl⟩

theorem Padded.endsTight (h : Padded core cs) (hne : core ≠ []) : EndsTight core := by
  obtain ⟨before, after, -, -, -, -, hlast⟩ := h
  have hsome := List.getLast?_eq_some_getLast hne
  exact ⟨core.getLast hne, hsome, hlast _ hsome⟩

/-- A text that starts and ends with no blank is its own core. -/
theorem padded_self (hstart : StartsTight cs) (hend : EndsTight cs) : Padded cs cs :=
  ⟨[], [], by simp, by simp, by simp, hstart.head, hend.last⟩

/-- What is left without the blanks at both ends is the core. -/
theorem trim_eq_iff : trim cs = core ↔ Padded core cs :=
  ⟨fun h => h ▸ padded_trim cs, Padded.trim_eq⟩

/-- A core has no blanks around it to lose. -/
theorem Padded.self (h : Padded core cs) : Padded core core := by
  obtain ⟨before, after, -, -, -, hhead, hlast⟩ := h
  exact ⟨[], [], by simp, by simp, by simp, hhead, hlast⟩

theorem trim_trim (cs : List Char) : trim (trim cs) = trim cs := (padded_trim cs).self.trim_eq

theorem Padded.mem_of_mem_core {c : Char} (h : Padded core cs) (hc : c ∈ core) : c ∈ cs := by
  obtain ⟨before, after, rfl, -⟩ := h
  exact List.mem_append_left _ (List.mem_append_right _ hc)

/-- What is not blank in a text is in its core. -/
theorem Padded.mem {c : Char} (h : Padded core cs) (hc : c ∈ cs) (hblank : isBlank c = false) :
    c ∈ core := by
  obtain ⟨before, after, rfl, hbefore, hafter, -, -⟩ := h
  rcases List.mem_append.1 hc with hc | hc
  · rcases List.mem_append.1 hc with hc | hc
    · exact absurd (hbefore c hc) (by simp [hblank])
    · exact hc
  · exact absurd (hafter c hc) (by simp [hblank])

theorem not_mem_of_mem_splitOn {c : Char} {part : List Char} (h : part ∈ cs.splitOn c) :
    c ∉ part := by
  induction cs generalizing part with
  | nil =>
    rw [List.splitOn_nil, List.mem_singleton] at h
    simp [h]
  | cons x cs ih =>
    rw [List.splitOn_cons_eq_if_modifyHead] at h
    split at h
    · rcases List.mem_cons.1 h with rfl | h
      · exact List.not_mem_nil
      · exact ih h
    · next hx =>
      obtain ⟨first, rest, hsplit⟩ := List.exists_cons_of_ne_nil (List.splitOn_ne_nil c cs)
      rw [hsplit, List.modifyHead_cons, List.mem_cons] at h
      rcases h with rfl | h
      · have hfirst : c ∉ first := ih (hsplit ▸ List.mem_cons_self)
        simp only [List.mem_cons, not_or]
        exact ⟨fun heq => hx (by simp [heq]), hfirst⟩
      · exact ih (hsplit ▸ List.mem_cons_of_mem _ h)

/-- The pieces of a text between separators. -/
theorem splitOn_eq_iff {c : Char} {parts : List (List Char)} : cs.splitOn c = parts ↔
    parts ≠ [] ∧ (∀ part ∈ parts, c ∉ part) ∧ cs = [c].intercalate parts := by
  constructor
  · rintro rfl
    exact ⟨List.splitOn_ne_nil c cs, fun part => not_mem_of_mem_splitOn,
      (List.intercalate_splitOn c).symm⟩
  · rintro ⟨hne, hparts, rfl⟩
    exact List.splitOn_intercalate c hparts hne

/-- What is in a text put together from pieces comes from a piece or from between two of them. -/
theorem mem_intercalate {c : Char} {sep : List Char} {parts : List (List Char)} :
    c ∈ sep.intercalate parts ↔ (∃ part ∈ parts, c ∈ part) ∨ c ∈ sep ∧ 2 ≤ parts.length := by
  induction parts with
  | nil => simp
  | cons part rest ih =>
    cases rest with
    | nil => simp
    | cons next rest =>
      rw [List.intercalate_cons_cons, List.mem_append, List.mem_append, ih]
      simp only [List.mem_cons, exists_eq_or_imp, List.length_cons]
      grind

theorem readDigits?_eq_some_iff {n : Nat} : readDigits? cs = some n ↔
    cs ≠ [] ∧ (∀ c ∈ cs, c.isDigit = true) ∧ Nat.ofDigitChars 10 cs 0 = n := by
  simp [readDigits?, and_assoc]

theorem dropPlus_of_isDigit (h : ∀ c ∈ cs, c.isDigit = true) : dropPlus cs = cs := by
  cases cs with
  | nil => rfl
  | cons c cs =>
    have hc : c.isDigit = true := h c List.mem_cons_self
    unfold dropPlus
    split
    · next heq =>
      cases heq
      cases hc
    · rfl

/-- A number below 2^64 is read from decimal digits, with a plus sign in front or without. -/
theorem readWord?_eq_some_iff {n : UInt64} : readWord? cs = some n ↔
    ∃ digits, (cs = digits ∨ cs = '+' :: digits) ∧ digits ≠ [] ∧
      (∀ c ∈ digits, c.isDigit = true) ∧ Nat.ofDigitChars 10 digits 0 = n.toNat := by
  simp only [readWord?, readBelow?, Option.map_eq_some_iff, Option.filter_eq_some_iff,
    readDigits?_eq_some_iff, decide_eq_true_eq]
  constructor
  · rintro ⟨m, ⟨⟨hne, hdigits, hvalue⟩, hlt⟩, rfl⟩
    refine ⟨dropPlus cs, ?_, hne, hdigits, ?_⟩
    · unfold dropPlus
      split
      · exact .inr rfl
      · exact .inl rfl
    · rw [hvalue, UInt64.toNat_ofNat_of_lt' hlt]
  · rintro ⟨digits, hcs, hne, hdigits, hvalue⟩
    have hdrop : dropPlus cs = digits := by
      rcases hcs with rfl | rfl
      · exact dropPlus_of_isDigit hdigits
      · rfl
    rw [hdrop]
    exact ⟨n.toNat, ⟨⟨hne, hdigits, hvalue⟩, n.toNat_lt_size⟩, UInt64.ofNat_toNat⟩

end ShardStream.Text

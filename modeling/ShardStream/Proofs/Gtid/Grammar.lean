import ShardStream.Proofs.Gtid.Membership
import ShardStream.Proofs.Text.Trimming

/-! # The written form of GTID sets

What the texts of GTID sets look like, from the numbers up to the whole text, and that the reader
takes just these texts: each part is read to the value it is written for, and a text of any other
form is an invalid identifier. What has been read holds the transactions that the text lists,
whatever the order, repetition or overlap of its items and intervals.
-/
namespace ShardStream

/-- Every fault that the computation can end in is of the kind. -/
def FaultsAs {α : Type} (kind : FaultKind) (x : Except Fault α) : Prop :=
  ∀ f, x = .error f → f.kind = kind

theorem faultsAs_ok {α : Type} {kind : FaultKind} (a : α) : FaultsAs kind (.ok a) := by
  intro f hf
  cases hf

theorem faultsAs_error {α : Type} (f : Fault) : FaultsAs (α := α) f.kind (.error f) := by
  intro g hg
  cases hg
  rfl

theorem FaultsAs.bind {α β : Type} {kind : FaultKind} {x : Except Fault α}
    {f : α → Except Fault β} (hx : FaultsAs kind x) (hf : ∀ a, FaultsAs kind (f a)) :
    FaultsAs kind (x >>= f) := by
  cases x with
  | error e =>
    intro g hg
    cases hg
    exact hx e rfl
  | ok a => exact hf a

theorem FaultsAs.mapM {α β : Type} {kind : FaultKind} {f : α → Except Fault β}
    (hf : ∀ a, FaultsAs kind (f a)) (xs : List α) : FaultsAs kind (xs.mapM f) := by
  induction xs with
  | nil => exact faultsAs_ok []
  | cons x xs ih =>
    rw [List.mapM_cons]
    exact (hf x).bind fun y => ih.bind fun ys => faultsAs_ok (y :: ys)

namespace Gtid

/-- A number below 2^64 in decimal digits, with a plus sign in front or without, and with blanks
around it. -/
def IsNumber (cs : List Char) (n : UInt64) : Prop :=
  ∃ digits, (Text.Padded digits cs ∨ Text.Padded ('+' :: digits) cs) ∧ digits ≠ [] ∧
    (∀ c ∈ digits, c.isDigit = true) ∧ Nat.ofDigitChars 10 digits 0 = n.toNat

/-- A single number, or two in ascending order with a dash between them. -/
inductive IsInterval : List Char → Interval → Prop
  | single {cs : List Char} {n : UInt64} (hn : IsNumber cs n) : IsInterval cs ⟨n, n⟩
  | range {cs low high : List Char} {first last : UInt64}
      (hcs : Text.Padded (low ++ '-' :: high) cs)
      (hlow : IsNumber low first) (hhigh : IsNumber high last) (hle : first ≤ last) :
      IsInterval cs ⟨first, last⟩

/-- A host and its intervals, with a colon before each interval. -/
def IsItem (cs : List Char) (item : Item) : Prop :=
  ∃ head pieces, Text.Padded ([':'].intercalate (head :: pieces)) cs ∧
    (∀ part ∈ head :: pieces, ':' ∉ part) ∧ Text.Padded item.1.toList head ∧ item.1 ≠ "" ∧
    pieces ≠ [] ∧ List.Forall₂ IsInterval pieces item.2

/-- Items with commas between them. -/
def IsBody (cs : List Char) (items : List Item) : Prop :=
  ∃ parts, parts ≠ [] ∧ (∀ part ∈ parts, ',' ∉ part) ∧ cs = [','].intercalate parts ∧
    List.Forall₂ IsItem parts items

/-- The text is written for the flavor and the items. -/
inductive IsText (text : String) : Option String → List Item → Prop
  | nothing (htext : Text.Padded [] text.toList) : IsText text none []
  | null (htext : Text.Padded "NULL".toList text.toList) : IsText text none []
  | plain {body : List Char} {items : List Item} (htext : Text.Padded body text.toList)
      (hslash : '/' ∉ body) (hbody : IsBody body items) : IsText text none items
  | flavored {flavor body : List Char} {items : List Item}
      (htext : Text.Padded (flavor ++ '/' :: body) text.toList) (hflavor : flavor ≠ [])
      (hslash : '/' ∉ flavor) (hbody : IsBody body items) :
      IsText text (some (String.ofList flavor)) items

variable {cs : List Char}

theorem parseSequence_ok_iff {interval : List Char} {n : UInt64} :
    parseSequence interval cs = .ok n ↔ IsNumber cs n := by
  have hread : parseSequence interval cs = .ok n ↔ Text.readWord? (Text.trim cs) = some n := by
    unfold parseSequence
    cases Text.readWord? (Text.trim cs) <;> simp
  rw [hread, Text.readWord?_eq_some_iff]
  simp only [Text.trim_eq_iff, IsNumber]

/-- No dash is written in a number. -/
theorem IsNumber.not_mem_dash {n : UInt64} (h : IsNumber cs n) : '-' ∉ cs := by
  obtain ⟨digits, hpadded, -, hdigits, -⟩ := h
  intro hdash
  have hcore : '-' ∈ digits := by
    rcases hpadded with hpadded | hpadded
    · exact hpadded.mem hdash rfl
    · exact List.mem_of_ne_of_mem (by decide) (hpadded.mem hdash rfl)
  exact absurd (hdigits '-' hcore) (by decide)

/-- Blanks around a number do not count. -/
theorem isNumber_trim {n : UInt64} : IsNumber (Text.trim cs) n ↔ IsNumber cs n := by
  simp only [IsNumber, ← Text.trim_eq_iff, Text.trim_trim]

theorem Interval.make_ok_iff {first last : UInt64} {r : Interval} :
    Interval.make first last = .ok r ↔ first ≤ last ∧ r = ⟨first, last⟩ := by
  unfold Interval.make
  split
  · next hlt => simp [UInt64.not_le.2 hlt]
  · next hlt => simp [UInt64.not_lt.1 hlt, eq_comm]

theorem parseInterval_ok_iff {r : Interval} : parseInterval cs = .ok r ↔ IsInterval cs r := by
  constructor
  · intro h
    simp only [parseInterval] at h
    split at h
    · next low high hcut =>
      obtain ⟨first, hfirst, h⟩ := ok_of_bind h
      obtain ⟨last, hlast, h⟩ := ok_of_bind h
      obtain ⟨hle, rfl⟩ := Interval.make_ok_iff.1 h
      have hcs : Text.trim cs = low ++ '-' :: high := (Text.eq_append_of_cutAt hcut).1
      exact .range (Text.trim_eq_iff.1 hcs) (parseSequence_ok_iff.1 hfirst)
        (parseSequence_ok_iff.1 hlast) hle
    · obtain ⟨n, hn, h⟩ := ok_of_bind h
      obtain ⟨-, rfl⟩ := Interval.make_ok_iff.1 h
      exact .single (isNumber_trim.1 (parseSequence_ok_iff.1 hn))
  · intro h
    cases h with
    | @single n hn =>
      have htrim : IsNumber (Text.trim cs) n := isNumber_trim.2 hn
      have hcut : Text.cutAt '-' (Text.trim cs) = none :=
        Text.cutAt_eq_none_iff.2 htrim.not_mem_dash
      simp only [parseInterval, hcut, parseSequence_ok_iff.2 htrim]
      exact Interval.make_ok_iff.2 ⟨UInt64.le_refl n, rfl⟩
    -- No dash is written in the lower number, so the text is cut just after it.
    | range hcs hlow hhigh hle =>
      have hcut := Text.cutAt_append hlow.not_mem_dash
      simp only [parseInterval, hcs.trim_eq, hcut, parseSequence_ok_iff.2 hlow,
        parseSequence_ok_iff.2 hhigh]
      exact Interval.make_ok_iff.2 ⟨hle, rfl⟩

theorem mapM_parseInterval_ok_iff {pieces : List (List Char)} {rs : List Interval} :
    pieces.mapM parseInterval = .ok rs ↔ List.Forall₂ IsInterval pieces rs := by
  simp only [mapM_ok_iff, parseInterval_ok_iff]

theorem parseItem_ok_iff {gtid : String} {item : Item} :
    parseItem gtid cs = .ok item ↔ IsItem cs item := by
  constructor
  · intro h
    unfold parseItem at h
    split at h
    · cases h
    · next head pieces hsplit =>
      obtain ⟨-, hparts, hcs⟩ := Text.splitOn_eq_iff.1 hsplit
      simp only at h
      split at h
      · cases h
      · next hhost =>
        obtain ⟨rs, hrs, h⟩ := ok_of_bind h
        split at h
        · cases h
        · next hpieces =>
          cases h
          refine ⟨head, pieces, Text.trim_eq_iff.1 hcs, hparts, ?_, ?_, hpieces,
            mapM_parseInterval_ok_iff.1 hrs⟩
          · rw [String.toList_ofList]
            exact Text.padded_trim head
          · simpa using hhost
  · rintro ⟨head, pieces, hcs, hparts, hhead, hhost, hpieces, hrs⟩
    have hsplit : (Text.trim cs).splitOn ':' = head :: pieces :=
      Text.splitOn_eq_iff.2 ⟨List.cons_ne_nil _ _, hparts, hcs.trim_eq⟩
    have hne : item.1.toList ≠ [] := by simpa using hhost
    simp only [parseItem, hsplit, hhead.trim_eq, if_neg hne, if_neg hpieces,
      mapM_parseInterval_ok_iff.2 hrs, String.ofList_toList]
    rfl

/-- The items between the commas of a body. -/
theorem mapM_parseItem_ok_iff {gtid : String} {items : List Item} :
    (cs.splitOn ',').mapM (parseItem gtid) = .ok items ↔ IsBody cs items := by
  simp only [mapM_ok_iff, parseItem_ok_iff]
  constructor
  · intro h
    obtain ⟨hne, hparts, hcs⟩ := Text.splitOn_eq_iff.1 (rfl : cs.splitOn ',' = cs.splitOn ',')
    exact ⟨_, hne, hparts, hcs, h⟩
  · rintro ⟨parts, hne, hparts, hcs, h⟩
    rwa [Text.splitOn_eq_iff.2 ⟨hne, hparts, hcs⟩]

theorem IsBody.isProper {items : List Item} (h : IsBody cs items) :
    ∀ item ∈ items, ∀ r ∈ item.2, r.IsProper := by
  have hread : (cs.splitOn ',').mapM (parseItem "") = .ok items := mapM_parseItem_ok_iff.2 h
  intro item hitem
  obtain ⟨part, -, hpart⟩ := exists_of_mem_mapM hread hitem
  exact isProper_of_parseItem hpart

theorem IsBody.ne_nil {items : List Item} (h : IsBody cs items) : items ≠ [] := by
  obtain ⟨parts, hne, -, -, hitems⟩ := h
  rintro rfl
  cases hitems
  exact hne rfl

/-- A body has a colon before an interval, and so it is neither empty nor the word for nothing. -/
theorem IsBody.mem_colon {items : List Item} (h : IsBody cs items) : ':' ∈ cs := by
  obtain ⟨parts, hne, -, rfl, hitems⟩ := h
  cases hitems with
  | nil => exact absurd rfl hne
  | @cons part item parts items hitem _ =>
    obtain ⟨head, pieces, hpadded, -, -, -, hpieces, -⟩ := hitem
    obtain ⟨piece, pieces, rfl⟩ := List.exists_cons_of_ne_nil hpieces
    have hpart : ':' ∈ part := by
      obtain ⟨before, after, rfl, -⟩ := hpadded
      simp [List.intercalate]
    have hcs : part <+: [','].intercalate (part :: parts) := by
      cases parts <;> simp [List.intercalate]
    exact hcs.subset hpart

theorem isNothing_of_colon (h : ':' ∈ cs) : isNothing cs = false := by
  refine Bool.eq_false_iff.2 ?_
  intro hnothing
  simp only [isNothing, Bool.or_eq_true, decide_eq_true_eq] at hnothing
  rcases hnothing with rfl | rfl
  · cases h
  · exact absurd h (by decide)

theorem parseFlavor_ok_iff {flavor : Option String} {body : List Char} :
    parseFlavor cs = .ok (flavor, body) ↔ flavor = none ∧ body = cs ∧ '/' ∉ cs ∨
      ∃ f, f ≠ [] ∧ '/' ∉ f ∧ cs = f ++ '/' :: body ∧ flavor = some (String.ofList f) := by
  constructor
  · intro h
    unfold parseFlavor at h
    split at h
    · cases h
    · next f body' hne hcut =>
      cases h
      obtain ⟨hcs, hslash⟩ := Text.eq_append_of_cutAt hcut
      exact .inr ⟨f, hne, hslash, hcs, rfl⟩
    · next hcut =>
      cases h
      exact .inl ⟨rfl, rfl, Text.cutAt_eq_none_iff.1 hcut⟩
  · rintro (⟨rfl, rfl, hslash⟩ | ⟨f, hne, hslash, rfl, rfl⟩)
    · simp only [parseFlavor, Text.cutAt_eq_none_iff.2 hslash]
    · obtain ⟨c, rest, rfl⟩ := List.exists_cons_of_ne_nil hne
      simp only [parseFlavor, Text.cutAt_append hslash]

section Texts

variable {text : String} {flavor : Option String} {items : List Item}

theorem IsText.isProper (h : IsText text flavor items) :
    ∀ item ∈ items, ∀ r ∈ item.2, r.IsProper := by
  cases h with
  | nothing => simp
  | null => simp
  | plain _ _ hbody => exact hbody.isProper
  | flavored _ _ _ hbody => exact hbody.isProper

/-- A flavor is written before items only. -/
theorem IsText.flavor_eq_none (h : IsText text flavor items) (hitems : items = []) :
    flavor = none := by
  cases h with
  | nothing => rfl
  | null => rfl
  | plain => rfl
  | flavored _ _ _ hbody => exact absurd hitems hbody.ne_nil

end Texts

section Faults

theorem faultsAs_parseInterval (piece : List Char) :
    FaultsAs .identifier (parseInterval piece) := by
  have hsequence : ∀ interval cs, FaultsAs .identifier (parseSequence interval cs) := by
    intro interval cs
    unfold parseSequence
    split
    · exact faultsAs_ok _
    · exact faultsAs_error (.invalidSequence _)
  have hmake : ∀ first last, FaultsAs .identifier (Interval.make first last) := by
    intro first last
    unfold Interval.make
    split
    · exact faultsAs_error (.reversedInterval first last)
    · exact faultsAs_ok _
  simp only [parseInterval]
  split
  · exact (hsequence _ _).bind fun first => (hsequence _ _).bind fun last => hmake first last
  · exact (hsequence _ _).bind fun n => hmake n n

theorem faultsAs_parseItem (gtid : String) (item : List Char) :
    FaultsAs .identifier (parseItem gtid item) := by
  unfold parseItem
  split
  · exact faultsAs_error (.missingHost gtid)
  · simp only
    split
    · exact faultsAs_error (.missingHost gtid)
    · refine (FaultsAs.mapM faultsAs_parseInterval _).bind ?_
      intro rs
      split
      · exact faultsAs_error (.noIntervals _ gtid)
      · exact faultsAs_ok _

theorem faultsAs_parseBody (gtid : List Char) : FaultsAs .identifier (parseBody gtid) := by
  have hflavor : FaultsAs .identifier (parseFlavor gtid) := by
    unfold parseFlavor
    split
    · exact faultsAs_error (.emptyFlavor _)
    · exact faultsAs_ok _
    · exact faultsAs_ok _
  refine hflavor.bind ?_
  intro ⟨flavor, body⟩
  exact (FaultsAs.mapM (faultsAs_parseItem _) _).bind fun items => faultsAs_ok _

end Faults

end Gtid

namespace GtidSet

open Gtid

variable {text : String}

/-- A text is refused for no other reason than that it is no identifier. -/
theorem faultsAs_parse (text : String) : FaultsAs .identifier (parse text) := by
  simp only [parse]
  split
  · exact faultsAs_ok _
  · exact faultsAs_parseBody _

/-- What is read is what the text is written for. -/
theorem parse_ok_iff {s : GtidSet} :
    parse text = .ok s ↔ ∃ flavor items, IsText text flavor items ∧ s = ofItems flavor items := by
  constructor
  · intro h
    simp only [parse] at h
    split at h
    · next hnothing =>
      cases h
      refine ⟨none, [], ?_, rfl⟩
      simp only [isNothing, Bool.or_eq_true, decide_eq_true_eq] at hnothing
      rcases hnothing with hnil | hnull
      · exact .nothing (Text.trim_eq_iff.1 hnil)
      · exact .null (Text.trim_eq_iff.1 hnull)
    · obtain ⟨⟨flavor, body⟩, hflavor, h⟩ := ok_of_bind h
      obtain ⟨items, hitems, h⟩ := ok_of_bind h
      cases h
      have hbody : IsBody body items := mapM_parseItem_ok_iff.1 hitems
      refine ⟨flavor, items, ?_, rfl⟩
      rcases parseFlavor_ok_iff.1 hflavor with ⟨rfl, rfl, hslash⟩ | ⟨f, hne, hslash, hcs, rfl⟩
      · exact .plain (Text.padded_trim _) hslash hbody
      · exact .flavored (Text.trim_eq_iff.1 hcs) hne hslash hbody
  · rintro ⟨flavor, items, htext, rfl⟩
    cases htext with
    | nothing htext =>
      rw [parse, htext.trim_eq]
      rfl
    | null htext =>
      rw [parse, htext.trim_eq]
      rfl
    -- A text with a body is not taken for nothing, for it has a colon in it.
    | plain htext hslash hbody =>
      have hcolon := hbody.mem_colon
      rw [← htext.trim_eq] at hcolon hslash hbody
      exact parse_of_items (isNothing_of_colon hcolon)
        (parseFlavor_ok_iff.2 (.inl ⟨rfl, rfl, hslash⟩)) (mapM_parseItem_ok_iff.2 hbody)
    | @flavored f body items htext hne hslash hbody =>
      have hcolon : ':' ∈ Text.trim text.toList := by
        rw [htext.trim_eq]
        exact List.mem_append_right f (List.mem_cons_of_mem _ hbody.mem_colon)
      exact parse_of_items (isNothing_of_colon hcolon)
        (parseFlavor_ok_iff.2 (.inr ⟨f, hne, hslash, htext.trim_eq, rfl⟩))
        (mapM_parseItem_ok_iff.2 hbody)

/-- The reader takes just the texts that are written as the grammar says, and the set then holds
just the transactions that the text lists. Any other text is an invalid identifier. -/
theorem parse_accepts_the_grammar (text : String) :
    (∀ flavor items, IsText text flavor items → ∃ s, parse text = .ok s ∧ s.flavor = flavor ∧
      (items = [] → s = .empty) ∧ ∀ host n, s.contains host n = true ↔ Lists items host n) ∧
    ((¬ ∃ flavor items, IsText text flavor items) →
      ∃ f, parse text = .error f ∧ f.kind = .identifier) := by
  constructor
  · intro flavor items htext
    refine ⟨ofItems flavor items, parse_ok_iff.2 ⟨flavor, items, htext, rfl⟩,
      flavor_addItems _ items, ?_, ?_⟩
    · intro hitems
      rw [htext.flavor_eq_none hitems, hitems]
      rfl
    · intro host n
      exact contains_ofItems flavor htext.isProper
  · intro hno
    cases hread : parse text with
    | ok s =>
      obtain ⟨flavor, items, htext, -⟩ := parse_ok_iff.1 hread
      exact absurd ⟨flavor, items, htext⟩ hno
    | error f => exact ⟨f, rfl, faultsAs_parse text f hread⟩

namespace Sample

/-- A host occurs twice, with blanks, a plus sign, a zero in front and intervals out of order. -/
def spaced : String := " MySQL56/a : 7 , b:1-3, a:+05-6: 1-5 "

def spacedItems : List Item := [("a", [⟨7, 7⟩]), ("b", [⟨1, 3⟩]), ("a", [⟨5, 6⟩, ⟨1, 5⟩])]

theorem isText_spaced : IsText spaced (some "MySQL56") spacedItems := by
  have hbody : IsBody "a : 7 , b:1-3, a:+05-6: 1-5".toList spacedItems :=
    mapM_parseItem_ok_iff.1 (show List.mapM (parseItem spaced) _ = _ by decide +kernel)
  have htext : Text.Padded ("MySQL56".toList ++ '/' :: "a : 7 , b:1-3, a:+05-6: 1-5".toList)
      spaced.toList := Text.trim_eq_iff.1 (by decide +kernel)
  exact .flavored htext (by decide) (by decide) hbody

/-- The second interval ends before it starts. -/
theorem not_isText_reversed : ¬ ∃ flavor items, IsText "a:1,b:5-3" flavor items := by
  rintro ⟨flavor, items, htext⟩
  have hread := parse_ok_iff.2 ⟨flavor, items, htext, rfl⟩
  have hrefused : parse "a:1,b:5-3" = .error (.reversedInterval 5 3) := by decide +kernel
  rw [hrefused] at hread
  cases hread

end Sample

theorem repeated_host_takes_the_intervals_of_both_items :
    IsText Sample.spaced (some "MySQL56") Sample.spacedItems ∧
    (∃ s, parse Sample.spaced = .ok s ∧ s.flavor = some "MySQL56" ∧ s.contains "a" 4 = true ∧
      s.contains "a" 7 = true ∧ s.contains "b" 4 = false) ∧
    (¬ ∃ flavor items, IsText "a:1,b:5-3" flavor items) ∧
    ∃ f, parse "a:1,b:5-3" = .error f ∧ f.kind = .identifier := by
  obtain ⟨s, hread, hflavor, -, hcontains⟩ :=
    (parse_accepts_the_grammar Sample.spaced).1 _ _ Sample.isText_spaced
  have hlisted : Lists Sample.spacedItems "a" 4 ∧ Lists Sample.spacedItems "a" 7 ∧
    ¬ Lists Sample.spacedItems "b" 4 := by decide
  refine ⟨Sample.isText_spaced, ⟨s, hread, hflavor, ?_, ?_, ?_⟩, Sample.not_isText_reversed,
    (parse_accepts_the_grammar _).2 Sample.not_isText_reversed⟩
  · exact (hcontains "a" 4).2 hlisted.1
  · exact (hcontains "a" 7).2 hlisted.2.1
  · exact Bool.eq_false_iff.2 (mt (hcontains "b" 4).1 hlisted.2.2)

end GtidSet

end ShardStream

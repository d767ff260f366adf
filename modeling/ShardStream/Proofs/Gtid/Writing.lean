import ShardStream.Proofs.Gtid.Canonical

/-! # Writing GTID sets and reading them back

A set that has been read is written in a form that the grammar takes, and it is read back from it as
it was. No name that a text can give to a host or to the flavor makes the written form ambiguous.
There is one such form for the transactions of a flavor, so two texts stand for the same set just if
they give the same flavor and list the same transactions.
-/
namespace ShardStream

namespace Gtid

section Numbers

variable {r : Interval} {c : Char}

theorem startsTight_decimal (n : Nat) : Text.StartsTight (Text.decimal n) := by
  obtain ⟨c, rest, hdecimal⟩ := List.exists_cons_of_ne_nil (Text.decimal_ne_nil n)
  have hc : c ∈ Text.decimal n := hdecimal ▸ List.mem_cons_self
  exact ⟨c, by rw [hdecimal]; rfl, Text.isBlank_of_isDigit (Text.isDigit_of_mem_decimal hc)⟩

theorem endsTight_decimal (n : Nat) : Text.EndsTight (Text.decimal n) := by
  have hlast := List.getLast?_eq_some_getLast (Text.decimal_ne_nil n)
  exact ⟨_, hlast, Text.isBlank_of_isDigit
    (Text.isDigit_of_mem_decimal (List.mem_of_getLast? hlast))⟩

theorem isNumber_decimal (n : UInt64) : IsNumber (Text.decimal n.toNat) n :=
  ⟨Text.decimal n.toNat, .inl (Text.padded_self (startsTight_decimal _) (endsTight_decimal _)),
    Text.decimal_ne_nil _, fun _ => Text.isDigit_of_mem_decimal, Nat.ofDigitChars_ten_toDigits⟩

/-- An interval is written with digits and a dash. -/
theorem Interval.isDigit_of_mem_text (hc : c ∈ r.text) : c.isDigit = true ∨ c = '-' := by
  unfold text at hc
  split at hc
  · exact .inl (Text.isDigit_of_mem_decimal hc)
  · rcases List.mem_append.1 hc with hc | hc
    · exact .inl (Text.isDigit_of_mem_decimal hc)
    · rcases List.mem_cons.1 hc with hc | hc
      · exact .inr hc
      · exact .inl (Text.isDigit_of_mem_decimal hc)

theorem Interval.endsTight_text (r : Interval) : Text.EndsTight r.text := by
  unfold text
  split
  · exact endsTight_decimal _
  · rw [List.append_cons]
    exact (endsTight_decimal _).append _

theorem Interval.isInterval_text (hr : r.IsProper) : IsInterval r.text r := by
  have hpadded : Text.Padded r.text r.text := by
    refine Text.padded_self ?_ r.endsTight_text
    unfold text
    split
    · exact startsTight_decimal _
    · exact (startsTight_decimal _).append _
  obtain ⟨first, last⟩ := r
  unfold text at hpadded ⊢
  split
  · next heq =>
    simp only at heq
    subst heq
    exact .single (isNumber_decimal _)
  · next hne =>
    rw [if_neg hne] at hpadded
    exact .range hpadded (isNumber_decimal _) (isNumber_decimal _) hr

end Numbers

/-- The name can be written for a host: it has characters, none at its ends is a blank, and none is
a separator. -/
structure IsHostName (name : List Char) : Prop where
  starts : Text.StartsTight name
  ends : Text.EndsTight name
  colon : ':' ∉ name
  comma : ',' ∉ name

/-- The item can be written: a host with intervals that have numbers in them. -/
structure IsWritable (item : Item) : Prop where
  name : IsHostName item.1.toList
  some : item.2 ≠ []
  proper : ∀ r ∈ item.2, r.IsProper

/-- A host and its intervals, written out. -/
def itemText (item : Item) : List Char :=
  [':'].intercalate (item.1.toList :: item.2.map Interval.text)

theorem intercalate_cons_eq_flatMap (sep part : List Char) (rest : List (List Char)) :
    sep.intercalate (part :: rest) = part ++ rest.flatMap (sep ++ ·) := by
  induction rest generalizing part with
  | nil => simp
  | cons next rest ih =>
    rw [List.intercalate_cons_cons, ih, List.flatMap_cons, List.append_assoc, List.append_assoc]

theorem HostSet.text_eq (h : HostSet) : h.text = itemText (h.host, h.intervals) := by
  rw [itemText, intercalate_cons_eq_flatMap, List.flatMap_map]
  rfl

section Items

variable {item : Item} {items : List Item} {c : Char}

/-- What separates items or follows a flavor is in an item only if it is in the name. -/
theorem mem_name_of_mem_itemText (hc : c ∈ itemText item) (hsep : c = ',' ∨ c = '/') :
    c ∈ item.1.toList := by
  rcases Text.mem_intercalate.1 hc with ⟨part, hpart, hc⟩ | ⟨hc, -⟩
  · rcases List.mem_cons.1 hpart with rfl | hpart
    · exact hc
    · obtain ⟨r, -, rfl⟩ := List.mem_map.1 hpart
      have hdigit := Interval.isDigit_of_mem_text hc
      rcases hsep with rfl | rfl
      · exact absurd hdigit (by decide)
      · exact absurd hdigit (by decide)
  · obtain rfl := List.mem_singleton.1 hc
    exact absurd hsep (by decide)

theorem IsWritable.comma (h : IsWritable item) : ',' ∉ itemText item := by
  intro hmem
  exact h.name.comma (mem_name_of_mem_itemText hmem (.inl rfl))

theorem IsWritable.startsTight (h : IsWritable item) : Text.StartsTight (itemText item) :=
  h.name.starts.intercalate _

theorem IsWritable.endsTight (h : IsWritable item) : Text.EndsTight (itemText item) := by
  refine Text.EndsTight.intercalate (List.cons_ne_nil _ _)
    (List.forall_mem_cons.2 ⟨h.name.ends, ?_⟩)
  exact List.forall_mem_map.2 fun r _ => r.endsTight_text

theorem IsWritable.isItem (h : IsWritable item) : IsItem (itemText item) item := by
  refine ⟨item.1.toList, item.2.map Interval.text, Text.padded_self h.startsTight h.endsTight, ?_,
    Text.padded_self h.name.starts h.name.ends, ?_, ?_, ?_⟩
  · refine List.forall_mem_cons.2 ⟨h.name.colon, List.forall_mem_map.2 ?_⟩
    intro r _ hcolon
    rcases Interval.isDigit_of_mem_text hcolon with hdigit | hdash
    · cases hdigit
    · cases hdash
  · simpa using h.name.starts.ne_nil
  · simpa using h.some
  · rw [List.forall₂_map_left_iff, List.forall₂_same]
    intro r hr
    exact Interval.isInterval_text (h.proper r hr)

/-- Items, written out with commas between them. -/
def bodyText (items : List Item) : List Char := [','].intercalate (items.map itemText)

theorem isBody_bodyText (hne : items ≠ []) (h : ∀ item ∈ items, IsWritable item) :
    IsBody (bodyText items) items := by
  refine ⟨items.map itemText, by simpa using hne, ?_, rfl, ?_⟩
  · exact List.forall_mem_map.2 fun item hitem => (h item hitem).comma
  · rw [List.forall₂_map_left_iff, List.forall₂_same]
    intro item hitem
    exact (h item hitem).isItem

theorem slash_not_mem_bodyText (h : ∀ item ∈ items, '/' ∉ item.1.toList) :
    '/' ∉ bodyText items := by
  intro hmem
  rcases Text.mem_intercalate.1 hmem with ⟨part, hpart, hslash⟩ | ⟨hslash, -⟩
  · obtain ⟨item, hitem, rfl⟩ := List.mem_map.1 hpart
    exact h item hitem (mem_name_of_mem_itemText hslash (.inr rfl))
  · cases List.mem_singleton.1 hslash

theorem IsInterval.isProper {cs : List Char} {r : Interval} (h : IsInterval cs r) :
    r.IsProper := by
  cases h with
  | @single n hn => exact UInt64.le_refl n
  | range _ _ _ hle => exact hle

/-- What is read as an item can be written as one, and its host is named in what was read. -/
theorem IsItem.isWritable {cs : List Char} (h : IsItem cs item) (hcomma : ',' ∉ cs) :
    IsWritable item ∧ ∀ c ∈ item.1.toList, c ∈ cs := by
  obtain ⟨head, pieces, hpadded, hcolon, hhead, hhost, hpieces, hintervals⟩ := h
  have hname : item.1.toList ≠ [] := by simpa using hhost
  have hmem : ∀ c ∈ item.1.toList, c ∈ head := fun c => hhead.mem_of_mem_core
  have hsub : ∀ c ∈ item.1.toList, c ∈ cs := by
    intro c hc
    refine hpadded.mem_of_mem_core (Text.mem_intercalate.2 (.inl ⟨head, List.mem_cons_self, ?_⟩))
    exact hmem c hc
  refine ⟨⟨⟨hhead.startsTight hname, hhead.endsTight hname, ?_, ?_⟩, ?_, ?_⟩, hsub⟩
  · exact fun hc => hcolon head List.mem_cons_self (hmem _ hc)
  · exact fun hc => hcomma (hsub _ hc)
  · rintro hnil
    rw [hnil, List.forall₂_nil_right_iff] at hintervals
    exact hpieces hintervals
  · intro r hr
    obtain ⟨piece, -, hpiece⟩ := exists_of_mem_forall₂ hintervals hr
    exact hpiece.isProper

theorem IsBody.isWritable {cs : List Char} (h : IsBody cs items) (hitem : item ∈ items) :
    IsWritable item ∧ ∀ c ∈ item.1.toList, c ∈ cs := by
  obtain ⟨parts, -, hcomma, rfl, hitems⟩ := h
  obtain ⟨part, hpart, hread⟩ := exists_of_mem_forall₂ hitems hitem
  obtain ⟨hwritable, hsub⟩ := hread.isWritable (hcomma part hpart)
  refine ⟨hwritable, fun c hc => ?_⟩
  exact Text.mem_intercalate.2 (.inl ⟨part, hpart, hsub c hc⟩)

end Items

/-- A flavor and items that a text can be written for. Without a flavor no slash may be in the name
of a host, and a flavor does not stand alone. -/
structure CanWrite (flavor : Option String) (items : List Item) : Prop where
  writable : ∀ item ∈ items, IsWritable item
  plain : flavor = none → ∀ item ∈ items, '/' ∉ item.1.toList
  flavored : ∀ f, flavor = some f → items ≠ [] ∧ '/' ∉ f.toList ∧ Text.StartsTight f.toList

def written (flavor : Option String) (items : List Item) : String :=
  String.ofList ((flavor.map fun f => f.toList ++ ['/']).getD [] ++ bodyText items)

variable {text : String} {flavor : Option String} {items : List Item}

theorem IsText.canWrite (h : IsText text flavor items) : CanWrite flavor items := by
  cases h with
  | nothing => exact ⟨nofun, nofun, nofun⟩
  | null => exact ⟨nofun, nofun, nofun⟩
  | plain htext hslash hbody =>
    refine ⟨fun item hitem => (hbody.isWritable hitem).1, fun _ item hitem hmem => ?_, nofun⟩
    exact hslash ((hbody.isWritable hitem).2 _ hmem)
  | @flavored f body items htext hne hslash hbody =>
    refine ⟨fun item hitem => (hbody.isWritable hitem).1, nofun, ?_⟩
    intro _ heq
    cases heq
    refine ⟨hbody.ne_nil, by simpa using hslash, ?_⟩
    obtain ⟨c, hc, hblank⟩ := htext.startsTight (by simp)
    obtain ⟨d, rest, rfl⟩ := List.exists_cons_of_ne_nil hne
    exact ⟨c, by simpa using hc, hblank⟩

/-- The written form is one that the grammar takes. -/
theorem CanWrite.isText_written (h : CanWrite flavor items) :
    IsText (written flavor items) flavor items := by
  by_cases hnil : items = []
  · subst hnil
    cases flavor with
    | none => exact .nothing (Text.padded_trim [])
    | some f => exact absurd rfl (h.flavored f rfl).1
  · have hbody := isBody_bodyText hnil h.writable
    obtain ⟨item, rest, rfl⟩ := List.exists_cons_of_ne_nil hnil
    have hends : Text.EndsTight (bodyText (item :: rest)) := by
      refine Text.EndsTight.intercalate (by simp) (List.forall_mem_map.2 ?_)
      exact fun item hitem => (h.writable item hitem).endsTight
    cases flavor with
    | none =>
      have hstarts : Text.StartsTight (bodyText (item :: rest)) :=
        (h.writable item List.mem_cons_self).startsTight.intercalate _
      refine .plain ?_ (slash_not_mem_bodyText (h.plain rfl)) hbody
      simpa [written] using Text.padded_self hstarts hends
    | some f =>
      obtain ⟨-, hslash, hstarts⟩ := h.flavored f rfl
      have htext : Text.Padded (f.toList ++ '/' :: bodyText (item :: rest))
          (written (some f) (item :: rest)).toList := by
        simpa [written] using Text.padded_self (hstarts.append _)
          (List.append_cons _ _ _ ▸ hends.append (f.toList ++ ['/']))
      have hread := IsText.flavored htext hstarts.ne_nil hslash hbody
      rwa [String.ofList_toList] at hread

theorem IsText.isCanonical (h : IsText text flavor items) : (ofItems flavor items).IsCanonical :=
  (GtidSet.isCanonical_empty flavor).addItems fun item hitem =>
    ⟨(h.canWrite.writable item hitem).some, (h.canWrite.writable item hitem).proper⟩

end Gtid

namespace GtidSet

open Gtid

theorem flavor_ofItems (flavor : Option String) (items : List Item) :
    (ofItems flavor items).flavor = flavor := flavor_addItems _ items

/-- The hosts with their intervals. -/
def items (s : GtidSet) : List Item := s.hosts.entries.map fun e => (e.1, e.2.intervals)

variable {s t : GtidSet} {text other : String}

theorem mem_items_iff {item : Item} :
    item ∈ s.items ↔ ∃ h, s.hosts.get? item.1 = some h ∧ h.intervals = item.2 := by
  simp only [items, List.mem_map, KeyMap.get?_eq_some_iff]
  constructor
  · rintro ⟨e, he, rfl⟩
    exact ⟨e.2, he, rfl⟩
  · rintro ⟨h, hh, heq⟩
    exact ⟨(item.1, h), hh, Prod.ext rfl heq⟩

theorem lists_items_iff {host : String} {n : UInt64} :
    Lists s.items host n ↔ s.contains host n = true := by
  simp only [Gtid.Lists, mem_items_iff, contains_iff, HostSet.contains_iff, Interval.contains_iff]
  constructor
  · rintro ⟨item, ⟨h, hget, heq⟩, rfl, r, hr, hrn⟩
    exact ⟨h, hget, r, heq ▸ hr, hrn⟩
  · rintro ⟨h, hget, r, hr, hrn⟩
    exact ⟨(host, h.intervals), ⟨h, hget, rfl⟩, rfl, r, hr, hrn⟩

theorem IsCanonical.text_eq (hs : s.IsCanonical) : s.text = written s.flavor s.items := by
  have hentry : ∀ e ∈ s.hosts.entries, e.2.host = e.1 ∧ e.2.intervals ≠ [] := by
    intro e he
    obtain ⟨hname, -, hne⟩ := hs e.1 e.2 (KeyMap.get?_eq_some_iff.2 he)
    exact ⟨hname, hne⟩
  have hall : s.hosts.values.filter (fun h => !h.intervals.isEmpty) = s.hosts.values := by
    refine List.filter_eq_self.2 (List.forall_mem_map.2 fun e he => ?_)
    simpa using (hentry e he).2
  have hparts : s.hosts.values.map HostSet.text = s.items.map itemText := by
    rw [KeyMap.values, items, List.map_map, List.map_map]
    refine List.map_congr_left fun e he => ?_
    simp only [Function.comp_apply, HostSet.text_eq, (hentry e he).1]
  rw [GtidSet.text, hall, hparts]
  rfl

/-- The hosts of a set that was read from a text are those that the text names. -/
theorem mem_keys_ofItems {flavor : Option String} {items : List Item}
    (h : IsText text flavor items) {host : String} :
    host ∈ (ofItems flavor items).hosts.keys ↔ ∃ item ∈ items, item.1 = host := by
  have hlists : ∀ n, (ofItems flavor items).contains host n = true ↔ Lists items host n :=
    fun n => contains_ofItems flavor h.isProper
  rw [KeyMap.mem_keys_iff]
  constructor
  · rintro ⟨k, hk⟩
    obtain ⟨n, hn⟩ := h.isCanonical.exists_contains hk
    obtain ⟨item, hitem, hname, -⟩ := (hlists n).1 hn
    exact ⟨item, hitem, hname⟩
  · rintro ⟨item, hitem, hname⟩
    obtain ⟨-, hne, hproper⟩ := h.canWrite.writable item hitem
    obtain ⟨r, hr⟩ := List.exists_mem_of_ne_nil _ hne
    obtain ⟨k, hk, -⟩ := contains_iff.1
      ((hlists r.last).2 ⟨item, hitem, hname, r, hr, hproper r hr, UInt64.le_refl _⟩)
    exact ⟨k, hk⟩

/-- What can be written of a text can be written of the set that was read from it. -/
theorem canWrite_items {flavor : Option String} {items : List Item}
    (h : IsText text flavor items) : CanWrite flavor (ofItems flavor items).items := by
  have hnamed : ∀ item ∈ (ofItems flavor items).items, ∃ source ∈ items, source.1 = item.1 := by
    intro item hitem
    obtain ⟨k, hk, -⟩ := mem_items_iff.1 hitem
    exact (mem_keys_ofItems h).1 (KeyMap.mem_keys_iff.2 ⟨k, hk⟩)
  obtain ⟨hwritable, hplain, hflavored⟩ := h.canWrite
  refine ⟨fun item hitem => ?_, fun hnone item hitem => ?_, fun f hf => ?_⟩
  · obtain ⟨source, hsource, hname⟩ := hnamed item hitem
    obtain ⟨k, hk, heq⟩ := mem_items_iff.1 hitem
    obtain ⟨-, hcanonical, hne⟩ := h.isCanonical item.1 k hk
    rw [heq] at hne
    exact ⟨hname ▸ (hwritable source hsource).name, hne, heq ▸ hcanonical.proper⟩
  · obtain ⟨source, hsource, hname⟩ := hnamed item hitem
    exact hname ▸ hplain hnone source hsource
  · obtain ⟨hne, hslash, hstarts⟩ := hflavored f hf
    refine ⟨?_, hslash, hstarts⟩
    obtain ⟨source, hsource⟩ := List.exists_mem_of_ne_nil _ hne
    have hkey := (mem_keys_ofItems h).2 ⟨source, hsource, rfl⟩
    obtain ⟨k, hk⟩ := KeyMap.mem_keys_iff.1 hkey
    exact List.ne_nil_of_mem (mem_items_iff.2 ⟨k, hk, rfl⟩ : (source.1, k.intervals) ∈ _)

theorem isCanonical_of_parse (hs : parse text = .ok s) : s.IsCanonical := by
  obtain ⟨flavor, items, htext, rfl⟩ := parse_ok_iff.1 hs
  exact htext.isCanonical

/-- A set is read again from its written form. -/
theorem parse_text (hs : parse text = .ok s) : parse s.text = .ok s := by
  obtain ⟨flavor, items, htext, rfl⟩ := parse_ok_iff.1 hs
  have hwritten := (canWrite_items htext).isText_written
  refine parse_ok_iff.2 ⟨flavor, (ofItems flavor items).items, ?_, ?_⟩
  · rw [htext.isCanonical.text_eq, flavor_ofItems]
    exact hwritten
  · refine (htext.isCanonical.eq_iff hwritten.isCanonical).2 ⟨?_, fun host n => ?_⟩
    · rw [flavor_ofItems, flavor_ofItems]
    · rw [Bool.eq_iff_iff, contains_ofItems flavor hwritten.isProper, lists_items_iff]

/-- A set that has been read is written in a form from which it is read again, and there is one such
form for the transactions of a flavor. Two texts that can be read stand for equal sets, and so are
written alike, just if they give the same flavor and the same transactions are in both; what the
items of the texts list is all that counts, and not their order, how they are split, or what occurs
twice. -/
theorem written_form_is_canonical (hs : parse text = .ok s) : parse s.text = .ok s ∧
    ∀ other t, parse other = .ok t →
      (s = t ↔ s.flavor = t.flavor ∧ ∀ host n, s.contains host n = t.contains host n) ∧
      (s.text = t.text ↔ s = t) ∧
      ∀ flavor flavor' items items', IsText text flavor items → IsText other flavor' items' →
        (s = t ↔ flavor = flavor' ∧ ∀ host n, Lists items host n ↔ Lists items' host n) := by
  refine ⟨parse_text hs, ?_⟩
  intro other t ht
  have hsame := (isCanonical_of_parse hs).eq_iff (isCanonical_of_parse ht)
  refine ⟨hsame, ⟨fun heq => ?_, fun heq => congrArg GtidSet.text heq⟩, ?_⟩
  · have hread := parse_text hs
    rw [heq, parse_text ht] at hread
    exact (Except.ok.inj hread).symm
  · intro flavor flavor' items items' htext htext'
    obtain rfl := Except.ok.inj (hs.symm.trans (parse_ok_iff.2 ⟨flavor, items, htext, rfl⟩))
    obtain rfl := Except.ok.inj (ht.symm.trans (parse_ok_iff.2 ⟨flavor', items', htext', rfl⟩))
    rw [hsame]
    refine and_congr ?_ (forall_congr' fun host => forall_congr' fun n => ?_)
    · rw [flavor_ofItems, flavor_ofItems]
    · rw [Bool.eq_iff_iff, contains_ofItems flavor htext.isProper,
        contains_ofItems flavor' htext'.isProper]

namespace Sample

/-- The same transactions as in the sample with blanks, as they are written out. -/
def compact : String := "MySQL56/a:1-7,b:1-3"

def compactItems : List Item := [("a", [⟨1, 7⟩]), ("b", [⟨1, 3⟩])]

theorem isText_compact : IsText compact (some "MySQL56") compactItems := by
  have hbody : IsBody "a:1-7,b:1-3".toList compactItems :=
    mapM_parseItem_ok_iff.1 (show List.mapM (parseItem compact) _ = _ by decide +kernel)
  have htext : Text.Padded ("MySQL56".toList ++ '/' :: "a:1-7,b:1-3".toList) compact.toList :=
    Text.trim_eq_iff.1 (by decide +kernel)
  exact .flavored htext (by decide) (by decide) hbody

theorem lists_spaced_iff (host : String) (n : UInt64) :
    Lists spacedItems host n ↔ Lists compactItems host n := by
  simp only [Gtid.Lists, spacedItems, compactItems, List.mem_cons, List.not_mem_nil, or_false,
    exists_eq_or_imp, exists_eq_left, UInt64.le_iff_toNat_le, UInt64.reduceToNat]
  constructor
  · rintro (⟨hname, h⟩ | ⟨hname, h⟩ | ⟨hname, h⟩)
    · exact .inl ⟨hname, by omega⟩
    · exact .inr ⟨hname, h⟩
    · exact .inl ⟨hname, by omega⟩
  · rintro (⟨hname, h⟩ | ⟨hname, h⟩)
    · by_cases hseven : n.toNat = 7
      · exact .inl ⟨hname, by omega⟩
      · exact .inr (.inr ⟨hname, by omega⟩)
    · exact .inr (.inl ⟨hname, h⟩)

end Sample

theorem spaced_text_is_written_compactly : ∃ s, parse Sample.spaced = .ok s ∧
    parse Sample.compact = .ok s ∧ s.text = Sample.compact ∧ parse s.text = .ok s := by
  obtain ⟨s, hs⟩ : ∃ s, parse Sample.spaced = .ok s :=
    ⟨_, parse_ok_iff.2 ⟨_, _, Sample.isText_spaced, rfl⟩⟩
  obtain ⟨t, ht, htext⟩ : ∃ t, parse Sample.compact = .ok t ∧ t.text = Sample.compact :=
    ⟨_, by rfl, by decide +kernel⟩
  obtain ⟨hread, hsame⟩ := written_form_is_canonical hs
  obtain rfl : s = t := ((hsame Sample.compact t ht).2.2 _ _ _ _ Sample.isText_spaced
    Sample.isText_compact).2 ⟨rfl, Sample.lists_spaced_iff⟩
  exact ⟨s, hs, ht, htext, hread⟩

end GtidSet

end ShardStream

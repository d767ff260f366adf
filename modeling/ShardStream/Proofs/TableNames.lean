import Mathlib.Data.List.Basic
import ShardStream.Proofs.Text.Trimming
import ShardStream.TableId

/-! # Which table a name identifies

A name is read if, without the blanks around it, it is one or two parts with a dot between them, and
no part is empty. The text of the table that it is read as is the name without these blanks, and is
read as the same table. So a name that is put together from a keyspace and a bare table name is read
just if there is no dot in the keyspace; then the table belongs to that keyspace, without the blanks
that it starts with. A bare name is taken for a table of the given keyspace. If that has no dot and
starts with no blank, the bare name and the two put together identify the same table, provided the
blanks that the bare name starts with are left out: around a name blanks do not count, inside it
they do.
-/
namespace ShardStream.TableId

variable {name keyspace given table : String} {t : TableId}

/-- What stands between the dots of the name. -/
def parts (t : TableId) : List (List Char) :=
  match t.keyspace with
  | some keyspace => [keyspace.toList, t.table.toList]
  | none => [t.table.toList]

theorem ofList_eq_iff {cs : List Char} {s : String} : String.ofList cs = s ↔ cs = s.toList := by
  rw [← String.toList_inj, String.toList_ofList]

theorem parse?_eq_some_iff_splitOn : parse? name = some t ↔
    (Text.trim name.toList).splitOn '.' = t.parts ∧ ∀ part ∈ t.parts, part ≠ [] := by
  rw [parse?]
  generalize (Text.trim name.toList).splitOn '.' = ps
  have hparts : (ps = t.parts ∧ ∀ part ∈ t.parts, part ≠ []) ↔
      (∀ part ∈ ps, part ≠ []) ∧ ps = t.parts := by
    rw [and_comm]
    exact and_congr_left fun h => by rw [h]
  rw [hparts]
  obtain ⟨keyspace, table⟩ := t
  match ps with
  | [] => cases keyspace <;> simp [parts]
  | [a] => cases keyspace <;> simp [parts, ofList_eq_iff]
  | [a, b] => cases keyspace <;> simp [parts, ofList_eq_iff, and_assoc]
  | a :: b :: c :: rest => cases keyspace <;> simp [parts]

/-- A name is read as the table whose parts it consists of. -/
theorem parse?_eq_some_iff : parse? name = some t ↔
    (∀ part ∈ t.parts, part ≠ [] ∧ '.' ∉ part) ∧
      Text.trim name.toList = ['.'].intercalate t.parts := by
  have hne : t.parts ≠ [] := by
    unfold parts
    cases t.keyspace <;> exact List.cons_ne_nil _ _
  rw [parse?_eq_some_iff_splitOn, Text.splitOn_eq_iff]
  constructor
  · rintro ⟨⟨-, hdots, hname⟩, hparts⟩
    exact ⟨fun part hpart => ⟨hparts part hpart, hdots part hpart⟩, hname⟩
  · rintro ⟨hparts, hname⟩
    exact ⟨⟨hne, fun part hpart => (hparts part hpart).2, hname⟩,
      fun part hpart => (hparts part hpart).1⟩

theorem count_dots_le_one (hparts : ∀ part ∈ t.parts, '.' ∉ part) :
    (['.'].intercalate t.parts).count '.' ≤ 1 := by
  unfold parts at hparts ⊢
  cases hkeyspace : t.keyspace with
  | none =>
    simp only [hkeyspace, List.forall_mem_singleton] at hparts ⊢
    rw [List.intercalate_singleton, List.count_eq_zero.2 hparts]
    exact Nat.zero_le 1
  | some keyspace =>
    simp only [hkeyspace, List.forall_mem_cons] at hparts ⊢
    obtain ⟨hfirst, hsecond, -⟩ := hparts
    rw [List.intercalate_cons_cons, List.intercalate_singleton, List.count_append,
      List.count_append, List.count_eq_zero.2 hfirst, List.count_eq_zero.2 hsecond]
    exact Nat.le_refl 1

theorem toList_text (t : TableId) : t.text.toList = ['.'].intercalate t.parts := by
  obtain ⟨keyspace, table⟩ := t
  cases keyspace with
  | none => simp [text, parts]
  | some keyspace => simp [text, parts, List.intercalate_cons_cons]

/-- The text of a table is the name that it was read from, without the blanks around that. -/
theorem text_of_parse? (h : parse? name = some t) : t.text.toList = Text.trim name.toList := by
  rw [toList_text, (parse?_eq_some_iff.1 h).2]

theorem parse?_text (h : parse? name = some t) : parse? t.text = some t := by
  refine parse?_eq_some_iff.2 ⟨(parse?_eq_some_iff.1 h).1, ?_⟩
  rw [text_of_parse? h, Text.trim_trim, (parse?_eq_some_iff.1 h).2]

/-- Which names are read, whatever they are read as. -/
theorem exists_parse?_iff : (∃ t, parse? name = some t) ↔ ∃ segments : List (List Char),
    (segments.length = 1 ∨ segments.length = 2) ∧
      (∀ segment ∈ segments, segment ≠ [] ∧ '.' ∉ segment) ∧
      Text.trim name.toList = ['.'].intercalate segments := by
  constructor
  · rintro ⟨t, ht⟩
    obtain ⟨hparts, hname⟩ := parse?_eq_some_iff.1 ht
    refine ⟨t.parts, ?_, hparts, hname⟩
    unfold parts
    cases t.keyspace with
    | none => exact .inl rfl
    | some keyspace => exact .inr rfl
  · rintro ⟨segments, hlength, hsegments, hname⟩
    have hread : ∀ t : TableId, t.parts = segments → ∃ t, parse? name = some t := by
      rintro t rfl
      exact ⟨t, parse?_eq_some_iff.2 ⟨hsegments, hname⟩⟩
    rcases hlength with hone | htwo
    · obtain ⟨table, rfl⟩ := List.length_eq_one_iff.1 hone
      exact hread ⟨none, String.ofList table⟩ (by simp [parts])
    · obtain ⟨keyspace, table, rfl⟩ := List.length_eq_two.1 htwo
      exact hread ⟨some (String.ofList keyspace), String.ofList table⟩ (by simp [parts])

/-- A name without a dot is a bare table name, unless it is blank. -/
theorem parse?_bare (hdot : '.' ∉ name.toList) : parse? name =
    if Text.trim name.toList = [] then none
    else some ⟨none, String.ofList (Text.trim name.toList)⟩ := by
  have hcore : '.' ∉ Text.trim name.toList :=
    mt (Text.padded_trim name.toList).mem_of_mem_core hdot
  have hsplit : (Text.trim name.toList).splitOn '.' = [Text.trim name.toList] :=
    Text.splitOn_eq_iff.2 ⟨List.cons_ne_nil _ _, by simpa using hcore,
      (List.intercalate_singleton ..).symm⟩
  rw [parse?, hsplit]
  simp

theorem trim_qualified (keyspace table : String) : Text.trim (keyspace ++ "." ++ table).toList =
    Text.trimStart keyspace.toList ++ '.' :: Text.trimEnd table.toList := by
  rw [← Text.trim_append_cons (by decide), String.toList_append, String.toList_append,
    List.append_assoc]
  rfl

/-- A keyspace and a bare table name that are put together lose the blanks at their outer ends. -/
theorem parse?_qualified (hkeyspace : '.' ∉ keyspace.toList) (htable : '.' ∉ table.toList) :
    parse? (keyspace ++ "." ++ table) =
      if Text.trimStart keyspace.toList = [] ∨ Text.trimEnd table.toList = [] then none
      else some ⟨some (String.ofList (Text.trimStart keyspace.toList)),
        String.ofList (Text.trimEnd table.toList)⟩ := by
  have hstart : '.' ∉ Text.trimStart keyspace.toList :=
    mt (Text.mem_trimStart_iff (by decide)).1 hkeyspace
  have hend : '.' ∉ Text.trimEnd table.toList := by
    rw [Text.trimEnd_eq, List.mem_reverse, Text.mem_trimStart_iff (by decide), List.mem_reverse]
    exact htable
  have hsplit : (Text.trim (keyspace ++ "." ++ table).toList).splitOn '.' =
      [Text.trimStart keyspace.toList, Text.trimEnd table.toList] := by
    refine Text.splitOn_eq_iff.2 ⟨List.cons_ne_nil _ _, ?_, ?_⟩
    · simp only [List.forall_mem_cons]
      exact ⟨hstart, hend, List.forall_mem_nil _⟩
    · rw [trim_qualified, List.intercalate_cons_cons, List.intercalate_singleton,
        List.append_assoc]
      rfl
  rw [parse?, hsplit]
  simp

/-- A keyspace and a bare table name that are put together are read as what they are if there is no
dot in the keyspace, and not at all otherwise. -/
theorem resolve?_qualified (given : String) (htable : Text.EndsTight table.toList)
    (hdot : '.' ∉ table.toList) (hkeyspace : Text.trim keyspace.toList ≠ []) :
    resolve? given (keyspace ++ "." ++ table) = if '.' ∈ keyspace.toList then none
      else some ⟨some (String.ofList (Text.trimStart keyspace.toList)), table⟩ := by
  have hend : Text.trimEnd table.toList = table.toList := Text.trimEnd_of_last htable.last
  by_cases hdots : '.' ∈ keyspace.toList
  · have hnone : parse? (keyspace ++ "." ++ table) = none := by
      refine Option.eq_none_iff_forall_ne_some.2 fun t ht => ?_
      obtain ⟨hparts, hname⟩ := parse?_eq_some_iff.1 ht
      have hle := count_dots_le_one fun part hpart => (hparts part hpart).2
      have hone : 0 < (Text.trimStart keyspace.toList).count '.' :=
        List.count_pos_iff.2 ((Text.mem_trimStart_iff (by decide)).2 hdots)
      rw [← hname, trim_qualified, List.count_append, List.count_cons_self] at hle
      omega
    rw [if_pos hdots, resolve?, hnone]
    rfl
  · have hstart : Text.trimStart keyspace.toList ≠ [] := by
      intro h
      rw [Text.trim, h] at hkeyspace
      exact hkeyspace rfl
    rw [if_neg hdots, resolve?, parse?_qualified hdots hdot, hend,
      if_neg (not_or_intro hstart htable.ne_nil), String.ofList_toList]
    rfl

/-- A bare name identifies the same table as its form with the given keyspace, in which the blanks
that it starts with are left out. -/
theorem resolve?_bare (hkeyspace : Text.StartsTight keyspace.toList)
    (hdot : '.' ∉ keyspace.toList) (hbare : '.' ∉ name.toList) :
    resolve? keyspace (keyspace ++ "." ++ String.ofList (Text.trimStart name.toList)) =
      resolve? keyspace name := by
  have hstart : Text.trimStart keyspace.toList = keyspace.toList :=
    Text.trimStart_of_head hkeyspace.head
  have htable : '.' ∉ (String.ofList (Text.trimStart name.toList)).toList := by
    rw [String.toList_ofList, Text.mem_trimStart_iff (by decide)]
    exact hbare
  rw [resolve?, resolve?, parse?_qualified hdot htable, parse?_bare hbare, hstart,
    String.toList_ofList, ← Text.trim]
  by_cases hnil : Text.trim name.toList = []
  · rw [if_pos (.inr hnil), if_pos hnil]
  · rw [if_neg (not_or_intro hkeyspace.ne_nil hnil), if_neg hnil, String.ofList_toList]
    rfl

/-- With the blanks that a bare name starts with, its form with the given keyspace is another table,
unless there is nothing but blanks. -/
theorem resolve?_joined_iff (hkeyspace : Text.StartsTight keyspace.toList)
    (hdot : '.' ∉ keyspace.toList) (hbare : '.' ∉ name.toList) :
    resolve? keyspace (keyspace ++ "." ++ name) = resolve? keyspace name ↔
      Text.trim name.toList = [] ∨ ∀ c ∈ name.toList.head?, Text.isBlank c = false := by
  have hstart : Text.trimStart keyspace.toList = keyspace.toList :=
    Text.trimStart_of_head hkeyspace.head
  rw [resolve?, resolve?, parse?_qualified hdot hbare, parse?_bare hbare, hstart]
  have hends : Text.trimEnd name.toList = [] ↔ Text.trim name.toList = [] :=
    Text.trimEnd_eq_nil_iff.trans Text.trim_eq_nil_iff.symm
  by_cases hnil : Text.trim name.toList = []
  · rw [if_pos (.inr (hends.2 hnil)), if_pos hnil]
    exact iff_of_true rfl (.inl hnil)
  · have hend : Text.trimEnd name.toList ≠ [] := mt hends.1 hnil
    rw [if_neg (not_or_intro hkeyspace.ne_nil hend), if_neg hnil, or_iff_right hnil,
      ← Text.trimEnd_eq_trim_iff hend]
    simp [String.ofList_inj]

/-- The table that a name identifies is identified by its text, too. -/
theorem resolve?_text (hkeyspace : Text.StartsTight keyspace.toList)
    (hdot : '.' ∉ keyspace.toList) (h : resolve? keyspace name = some t) :
    resolve? keyspace t.text = some t := by
  obtain ⟨⟨keyspace?, table⟩, hread, rfl⟩ := Option.map_eq_some_iff.1 h
  cases keyspace? with
  | some other =>
    change resolve? keyspace (text ⟨some other, table⟩) = some ⟨some other, table⟩
    rw [resolve?, parse?_text hread]
    rfl
  | none =>
    -- The table of a bare name has lost the blanks at both ends, so none are left to leave out.
    obtain ⟨hparts, hname⟩ := parse?_eq_some_iff.1 hread
    have hcore : Text.trim name.toList = table.toList := by simpa [parts] using hname
    have htable : '.' ∉ table.toList := (hparts table.toList (by simp [parts])).2
    have hstart : Text.trimStart table.toList = table.toList := by
      obtain ⟨-, -, -, -, -, hhead, -⟩ := Text.padded_trim name.toList
      rw [← hcore]
      exact Text.trimStart_of_head hhead
    have hbare := resolve?_bare hkeyspace hdot htable
    have hagain := parse?_text hread
    have htext : text ⟨none, table⟩ = table := rfl
    rw [htext] at hagain
    rw [hstart, String.ofList_toList] at hbare
    change resolve? keyspace (keyspace ++ "." ++ table) = some ⟨some keyspace, table⟩
    rw [hbare, resolve?, hagain]
    rfl

/-- A name is read just if, without the blanks around it, it is one or two parts with a dot between
them. The text of a table that was read is the name without these blanks, and is read as that
table. If the given keyspace has no dot and starts with no blank, a name is taken for a table with a
keyspace that is identified by its own text as well, and a bare name for the same table as its form
with that keyspace, in which the blanks that the bare name starts with are left out. If there are
such blanks, and they are not all of the name, the form that keeps them is not the same table. -/
theorem names_are_canonical :
    (∀ name, (∃ t, parse? name = some t) ↔ ∃ segments : List (List Char),
      (segments.length = 1 ∨ segments.length = 2) ∧
        (∀ segment ∈ segments, segment ≠ [] ∧ '.' ∉ segment) ∧
        Text.trim name.toList = ['.'].intercalate segments) ∧
    (∀ name t, parse? name = some t →
      t.text.toList = Text.trim name.toList ∧ parse? t.text = some t) ∧
    ∀ keyspace : String, keyspace ≠ "" → '.' ∉ keyspace.toList →
      (∀ c ∈ keyspace.toList.head?, Text.isBlank c = false) →
      (∀ name t, resolve? keyspace name = some t →
        t.keyspace.isSome = true ∧ resolve? keyspace t.text = some t) ∧
      ∀ name : String, '.' ∉ name.toList →
        resolve? keyspace (keyspace ++ "." ++ String.ofList (Text.trimStart name.toList)) =
          resolve? keyspace name ∧
        (resolve? keyspace (keyspace ++ "." ++ name) = resolve? keyspace name ↔
          Text.trim name.toList = [] ∨ ∀ c ∈ name.toList.head?, Text.isBlank c = false) := by
  refine ⟨fun name => exists_parse?_iff, fun name t h => ⟨text_of_parse? h, parse?_text h⟩, ?_⟩
  intro keyspace hne hdot hhead
  have hkeyspace : Text.StartsTight keyspace.toList := by
    obtain ⟨first, rest, hcons⟩ :=
      List.exists_cons_of_ne_nil (mt String.toList_eq_nil_iff.1 hne)
    have hfirst : keyspace.toList.head? = some first := by rw [hcons, List.head?_cons]
    exact ⟨first, hfirst, hhead first hfirst⟩
  refine ⟨fun name t h => ⟨?_, resolve?_text hkeyspace hdot h⟩,
    fun name hbare =>
      ⟨resolve?_bare hkeyspace hdot hbare, resolve?_joined_iff hkeyspace hdot hbare⟩⟩
  obtain ⟨read, -, rfl⟩ := Option.map_eq_some_iff.1 h
  rfl

/-- Blanks inside a name stay, and those around it are dropped. -/
theorem spaced_name_is_canonical :
    "my shop" ≠ "" ∧ '.' ∉ "my shop".toList ∧
      (∀ c ∈ "my shop".toList.head?, Text.isBlank c = false) ∧
      '.' ∉ "\u3000big orders ".toList ∧
      resolve? "my shop" "\u3000big orders " = some ⟨some "my shop", "big orders"⟩ ∧
      resolve? "my shop" "my shop.big orders" = some ⟨some "my shop", "big orders"⟩ ∧
      resolve? "my shop" "my shop.big orders " = some ⟨some "my shop", "big orders"⟩ := by
  have hne : "my shop" ≠ "" := by decide
  have hdot : '.' ∉ "my shop".toList := by decide
  have hhead : ∀ c ∈ "my shop".toList.head?, Text.isBlank c = false :=
    Text.StartsTight.head ⟨'m', by decide, by decide⟩
  have hbare : '.' ∉ "\u3000big orders ".toList := by decide
  have hname : resolve? "my shop" "\u3000big orders " = some ⟨some "my shop", "big orders"⟩ := by
    decide +kernel
  have htext : text ⟨some "my shop", "big orders"⟩ = "my shop.big orders" := by decide +kernel
  have hjoined : "my shop" ++ "." ++ String.ofList (Text.trimStart "\u3000big orders ".toList) =
      "my shop.big orders " := by decide +kernel
  obtain ⟨-, -, hresolve⟩ := names_are_canonical
  obtain ⟨hagain, hqualified⟩ := hresolve "my shop" hne hdot hhead
  refine ⟨hne, hdot, hhead, hbare, hname, ?_, ?_⟩
  · rw [← htext]
    exact (hagain _ _ hname).2
  · rw [← hjoined, (hqualified _ hbare).1, hname]

/-- A blank before a bare name does not count, but it does after the dot. -/
theorem blank_after_dot_stays :
    "commerce" ≠ "" ∧ '.' ∉ "commerce".toList ∧
      (∀ c ∈ "commerce".toList.head?, Text.isBlank c = false) ∧ '.' ∉ " orders".toList ∧
      resolve? "commerce" " orders" = some ⟨some "commerce", "orders"⟩ ∧
      resolve? "commerce" ("commerce" ++ "." ++ " orders") = some ⟨some "commerce", " orders"⟩ ∧
      resolve? "commerce" ("commerce" ++ "." ++ " orders") ≠ resolve? "commerce" " orders" := by
  have hhead : ∀ c ∈ "commerce".toList.head?, Text.isBlank c = false :=
    Text.StartsTight.head ⟨'c', by decide, by decide⟩
  have hbare : resolve? "commerce" " orders" = some ⟨some "commerce", "orders"⟩ := by
    decide +kernel
  have hjoined : resolve? "commerce" ("commerce" ++ "." ++ " orders") =
      some ⟨some "commerce", " orders"⟩ := by
    decide +kernel
  refine ⟨by decide, by decide, hhead, by decide, hbare, hjoined, ?_⟩
  rw [hbare, hjoined]
  decide

end ShardStream.TableId

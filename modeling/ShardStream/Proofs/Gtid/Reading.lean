import Mathlib.Data.List.Forall2
import Mathlib.Data.String.Basic
import ShardStream.Gtid.Parse

/-! # What the reader of GTID sets ensures

The intervals of a set that has been read never end before they start, however they were merged, and
a text names no more hosts than it has separators for.
-/
namespace ShardStream

theorem ok_of_bind {α β : Type} {x : Except Fault α} {f : α → Except Fault β} {b : β}
    (h : (x >>= f) = .ok b) : ∃ a, x = .ok a ∧ f a = .ok b := by
  cases x with
  | error e => cases h
  | ok a => exact ⟨a, rfl, h⟩

theorem mapM_ok_iff {α β : Type} {f : α → Except Fault β} {xs : List α} {ys : List β} :
    xs.mapM f = .ok ys ↔ List.Forall₂ (fun x y => f x = .ok y) xs ys := by
  induction xs generalizing ys with
  | nil => cases ys <;> simp [pure, Except.pure]
  | cons x xs ih =>
    rw [List.mapM_cons]
    constructor
    · intro h
      obtain ⟨y, hy, hrest⟩ := ok_of_bind h
      obtain ⟨rest, hmap, hcons⟩ := ok_of_bind hrest
      cases hcons
      exact .cons hy (ih.1 hmap)
    · intro h
      cases h with
      | cons hy hrest =>
        rw [hy, ih.2 hrest]
        rfl

theorem exists_of_mem_forall₂ {α β : Type} {related : α → β → Prop} {xs : List α} {ys : List β}
    (h : List.Forall₂ related xs ys) {y : β} (hy : y ∈ ys) : ∃ x ∈ xs, related x y := by
  induction h with
  | nil => cases hy
  | @cons x z xs zs hx _ ih =>
    rcases List.mem_cons.1 hy with rfl | hy
    · exact ⟨x, List.mem_cons_self, hx⟩
    · obtain ⟨w, hw, hrelated⟩ := ih hy
      exact ⟨w, List.mem_cons_of_mem _ hw, hrelated⟩

/-- Each result of a successful reading comes from one of the things read. -/
theorem exists_of_mem_mapM {α β : Type} {f : α → Except Fault β} {xs : List α} {ys : List β}
    (h : xs.mapM f = .ok ys) {y : β} (hy : y ∈ ys) : ∃ x ∈ xs, f x = .ok y :=
  exists_of_mem_forall₂ (mapM_ok_iff.1 h) hy

namespace Gtid

theorem toNat_min (a b : UInt64) : (min a b).toNat = min a.toNat b.toNat := by
  change (if a ≤ b then a else b).toNat = _
  split
  · next h => exact (Nat.min_eq_left (UInt64.le_iff_toNat_le.1 h)).symm
  · next h =>
    have hba : b.toNat ≤ a.toNat := UInt64.le_iff_toNat_le.1 (UInt64.le_of_lt (UInt64.not_le.1 h))
    exact (Nat.min_eq_right hba).symm

theorem toNat_max (a b : UInt64) : (max a b).toNat = max a.toNat b.toNat := by
  change (if a ≤ b then b else a).toNat = _
  split
  · next h => exact (Nat.max_eq_right (UInt64.le_iff_toNat_le.1 h)).symm
  · next h =>
    have hba : b.toNat ≤ a.toNat := UInt64.le_iff_toNat_le.1 (UInt64.le_of_lt (UInt64.not_le.1 h))
    exact (Nat.max_eq_left hba).symm

namespace Interval

/-- The interval has a number in it. -/
def IsProper (r : Interval) : Prop := r.first ≤ r.last

theorem contains_iff {r : Interval} {n : UInt64} :
    r.contains n = true ↔ r.first ≤ n ∧ n ≤ r.last := by
  simp [contains]

theorem IsProper.contains_last {r : Interval} (h : r.IsProper) : r.contains r.last = true :=
  contains_iff.2 ⟨h, UInt64.le_refl _⟩

theorem isProper_of_make {first last : UInt64} {r : Interval} (h : make first last = .ok r) :
    r.IsProper := by
  unfold make at h
  split at h
  · cases h
  · next hlt =>
    cases h
    exact UInt64.not_lt.1 hlt

theorem isProper_of_merge? {a b m : Interval} (ha : a.IsProper) (h : a.merge? b = some m) :
    m.IsProper := by
  obtain ⟨-, rfl⟩ := merge?_eq_some_iff.1 h
  have hle : a.first.toNat ≤ a.last.toNat := UInt64.le_iff_toNat_le.1 ha
  refine UInt64.le_iff_toNat_le.2 ?_
  rw [toNat_min, toNat_max]
  omega

end Interval

namespace HostSet

/-- All intervals of the host have a number in them. -/
def IsProper (h : HostSet) : Prop := ∀ r ∈ h.intervals, r.IsProper

theorem isProper_coalesceFrom {rs : List Interval} {a : Interval} (ha : a.IsProper)
    (hrs : ∀ r ∈ rs, r.IsProper) : ∀ r ∈ coalesceFrom a rs, r.IsProper := by
  induction rs generalizing a with
  | nil =>
    intro r hr
    rw [coalesceFrom, List.mem_singleton] at hr
    exact hr ▸ ha
  | cons b rest ih =>
    obtain ⟨hb, hrest⟩ := List.forall_mem_cons.1 hrs
    unfold coalesceFrom
    cases hm : a.merge? b with
    | some m => exact ih (Interval.isProper_of_merge? ha hm) hrest
    | none =>
      intro r hr
      rcases List.mem_cons.1 hr with rfl | hr
      · exact ha
      · exact ih hb hrest r hr

theorem isProper_coalesce {rs : List Interval} (hrs : ∀ r ∈ rs, r.IsProper) :
    ∀ r ∈ coalesce rs, r.IsProper := by
  cases rs with
  | nil => exact hrs
  | cons a rest =>
    obtain ⟨ha, hrest⟩ := List.forall_mem_cons.1 hrs
    exact isProper_coalesceFrom ha hrest

theorem isProper_empty (host : String) : (empty host).IsProper := by
  intro r hr
  cases hr

theorem IsProper.add {h : HostSet} (hh : h.IsProper) {r : Interval} (hr : r.IsProper) :
    (h.add r).IsProper := by
  refine isProper_coalesce ?_
  intro q hq
  rw [sort, List.mem_mergeSort, List.mem_append, List.mem_singleton] at hq
  rcases hq with hq | rfl
  · exact hh q hq
  · exact hr

theorem IsProper.addAll {h : HostSet} (hh : h.IsProper) {rs : List Interval}
    (hrs : ∀ r ∈ rs, r.IsProper) : (h.addAll rs).IsProper := by
  induction rs generalizing h with
  | nil => exact hh
  | cons r rest ih =>
    obtain ⟨hr, hrest⟩ := List.forall_mem_cons.1 hrs
    exact ih (hh.add hr) hrest

end HostSet

theorem isProper_of_parseInterval {piece : List Char} {r : Interval}
    (h : parseInterval piece = .ok r) : r.IsProper := by
  simp only [parseInterval] at h
  split at h
  · obtain ⟨first, -, h⟩ := ok_of_bind h
    obtain ⟨last, -, h⟩ := ok_of_bind h
    exact Interval.isProper_of_make h
  · obtain ⟨n, -, h⟩ := ok_of_bind h
    exact Interval.isProper_of_make h

theorem isProper_of_parseItem {gtid : String} {cs : List Char} {item : Item}
    (h : parseItem gtid cs = .ok item) : ∀ r ∈ item.2, r.IsProper := by
  unfold parseItem at h
  split at h
  · cases h
  · next head pieces _ =>
    simp only at h
    split at h
    · cases h
    · obtain ⟨rs, hrs, h⟩ := ok_of_bind h
      split at h
      · cases h
      · cases h
        intro r hr
        obtain ⟨piece, -, hpiece⟩ := exists_of_mem_mapM hrs hr
        exact isProper_of_parseInterval hpiece

theorem ok_of_parseFlavor {gtid : List Char} {flavor : Option String} {body : List Char}
    (h : parseFlavor gtid = .ok (flavor, body)) : body.length ≤ gtid.length := by
  unfold parseFlavor at h
  split at h
  · cases h
  · next cs rest _ hcut =>
    cases h
    rw [(Text.eq_append_of_cutAt hcut).1, List.length_append, List.length_cons]
    omega
  · cases h
    exact Nat.le_refl _

end Gtid

namespace Text

theorem length_trim_le (cs : List Char) : (trim cs).length ≤ cs.length := by
  have hend : (trim cs).length ≤ (trimStart cs).length := by
    have h := (List.dropWhile_sublist isBlank (l := (trimStart cs).reverse)).length_le
    rw [List.length_reverse] at h
    rw [trim, trimEnd, List.length_reverse]
    exact h
  exact Nat.le_trans hend (List.dropWhile_sublist isBlank).length_le

theorem length_splitOn_le (c : Char) (cs : List Char) : (cs.splitOn c).length ≤ cs.length + 1 := by
  induction cs with
  | nil => exact Nat.le_refl 1
  | cons x rest ih =>
    rw [List.splitOn_cons_eq_if_modifyHead]
    split
    · exact Nat.succ_le_succ ih
    · rw [List.length_modifyHead]
      exact Nat.le_succ_of_le ih

theorem length_toList_le (s : String) : s.toList.length ≤ s.utf8ByteSize := by
  rw [← String.utf8Len_toList]
  induction s.toList with
  | nil => exact Nat.le_refl 0
  | cons c cs ih =>
    have hc : 0 < c.utf8Size := c.utf8Size_pos
    rw [List.length_cons, String.utf8Len_cons]
    omega

end Text

namespace GtidSet

/-- All intervals of the set have a number in them. -/
def IsProper (s : GtidSet) : Prop := ∀ host h, s.hosts.get? host = some h → h.IsProper

variable {s : GtidSet}

theorem isProper_empty (flavor : Option String) : IsProper ⟨flavor, .empty⟩ := by
  intro host h hget
  cases hget

theorem IsProper.addHost (hs : s.IsProper) (host : String) {rs : List Gtid.Interval}
    (hrs : ∀ r ∈ rs, r.IsProper) : (s.addHost host rs).IsProper := by
  have hbefore : (s.hosts.getD host (.empty host)).IsProper := by
    unfold KeyMap.getD
    cases hget : s.hosts.get? host with
    | none => exact Gtid.HostSet.isProper_empty host
    | some h => exact hs host h hget
  intro other h hget
  rw [GtidSet.addHost, KeyMap.get?_insert] at hget
  split at hget
  · cases hget
    exact hbefore.addAll hrs
  · exact hs other h hget

theorem IsProper.addItems (hs : s.IsProper) {items : List Gtid.Item}
    (hitems : ∀ item ∈ items, ∀ r ∈ item.2, r.IsProper) :
    (items.foldl (fun s item => s.addHost item.1 item.2) s).IsProper := by
  induction items generalizing s with
  | nil => exact hs
  | cons item rest ih =>
    obtain ⟨hitem, hrest⟩ := List.forall_mem_cons.1 hitems
    exact ih (hs.addHost item.1 hitem) hrest

theorem size_addItems_le (s : GtidSet) (items : List Gtid.Item) :
    (items.foldl (fun s item => s.addHost item.1 item.2) s).hosts.size ≤
      s.hosts.size + items.length := by
  induction items generalizing s with
  | nil => exact Nat.le_refl _
  | cons item rest ih =>
    have hone : (s.addHost item.1 item.2).hosts.size ≤ s.hosts.size + 1 :=
      KeyMap.size_insert_le _ _ _
    have hrest := ih (s.addHost item.1 item.2)
    rw [List.foldl_cons, List.length_cons]
    omega

theorem ok_of_parse {text : String} (h : parse text = .ok s) :
    s = .empty ∨ ∃ flavor body items,
      Gtid.parseFlavor (Text.trim text.toList) = .ok (flavor, body) ∧
      (body.splitOn ',').mapM (Gtid.parseItem (String.ofList (Text.trim text.toList))) =
        .ok items ∧ s = Gtid.ofItems flavor items := by
  simp only [parse] at h
  split at h
  · cases h
    exact .inl rfl
  · obtain ⟨⟨flavor, body⟩, hflavor, h⟩ := ok_of_bind h
    obtain ⟨items, hitems, h⟩ := ok_of_bind h
    cases h
    exact .inr ⟨flavor, body, items, hflavor, hitems, rfl⟩

theorem parse_of_items {text : String} {flavor : Option String} {body : List Char}
    {items : List Gtid.Item} (hsome : Gtid.isNothing (Text.trim text.toList) = false)
    (hflavor : Gtid.parseFlavor (Text.trim text.toList) = .ok (flavor, body))
    (hitems : (body.splitOn ',').mapM (Gtid.parseItem (String.ofList (Text.trim text.toList))) =
      .ok items) : parse text = .ok (Gtid.ofItems flavor items) := by
  simp [parse, Gtid.parseBody, hsome, hflavor, hitems, bind, Except.bind, pure, Except.pure]

theorem isProper_of_parse {text : String} (h : parse text = .ok s) : s.IsProper := by
  rcases ok_of_parse h with rfl | ⟨flavor, body, items, -, hitems, rfl⟩
  · exact isProper_empty none
  · refine (isProper_empty flavor).addItems ?_
    intro item hitem
    obtain ⟨cs, -, hcs⟩ := exists_of_mem_mapM hitems hitem
    exact Gtid.isProper_of_parseItem hcs

/-- Each host after the first takes a comma. -/
theorem size_le_of_parse {text : String} (h : parse text = .ok s) :
    s.hosts.size ≤ text.utf8ByteSize + 1 := by
  rcases ok_of_parse h with rfl | ⟨flavor, body, items, hflavor, hitems, rfl⟩
  · exact Nat.zero_le _
  · have hsize : (Gtid.ofItems flavor items).hosts.size ≤ 0 + items.length :=
      size_addItems_le _ items
    have hlength : (body.splitOn ',').length = items.length := (mapM_ok_iff.1 hitems).length_eq
    have hsplit := Text.length_splitOn_le ',' body
    have hbody := Gtid.ok_of_parseFlavor hflavor
    have htrim := Text.length_trim_le text.toList
    have hbytes := Text.length_toList_le text
    omega

end GtidSet

end ShardStream

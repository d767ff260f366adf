import ShardStream.Proofs.Gtid.Growth
import ShardStream.Proofs.Gtid.Merging

/-! # The transactions of a set that was put together

A host has executed just the numbers of the intervals added to it, in whatever order they came and
however they were merged. So a set holds just the transactions that its items list: a host that
occurs twice takes the intervals of both items, and neither repetition nor overlap matters.
-/
namespace ShardStream

namespace Gtid

/-- Some item for the host has an interval with the number in it. -/
def Lists (items : List Item) (host : String) (n : UInt64) : Prop :=
  ∃ item ∈ items, item.1 = host ∧ ∃ r ∈ item.2, r.first ≤ n ∧ n ≤ r.last

instance (items : List Item) (host : String) (n : UInt64) : Decidable (Lists items host n) :=
  inferInstanceAs
    (Decidable (∃ item ∈ items, item.1 = host ∧ ∃ r ∈ item.2, r.first ≤ n ∧ n ≤ r.last))

variable {n : UInt64}

namespace HostSet

variable {h : HostSet}

theorem contains_coalesceFrom {rs : List Interval} {a : Interval} (ha : a.IsProper)
    (hrs : ∀ r ∈ rs, r.IsProper) : (∃ r ∈ coalesceFrom a rs, r.contains n = true) ↔
      a.contains n = true ∨ ∃ r ∈ rs, r.contains n = true := by
  induction rs generalizing a with
  | nil => simp [coalesceFrom]
  | cons b rest ih =>
    obtain ⟨hb, hrest⟩ := List.forall_mem_cons.1 hrs
    unfold coalesceFrom
    cases hm : a.merge? b with
    | some m =>
      have hproper : m.IsProper := Interval.isProper_of_merge? ha hm
      simp only [ih hproper hrest, Interval.contains_merge? ha hm, List.mem_cons,
        exists_eq_or_imp, or_assoc]
    | none => simp only [List.mem_cons, exists_eq_or_imp, ih hb hrest]

theorem contains_coalesce {rs : List Interval} (hrs : ∀ r ∈ rs, r.IsProper) :
    (∃ r ∈ coalesce rs, r.contains n = true) ↔ ∃ r ∈ rs, r.contains n = true := by
  cases rs with
  | nil => rfl
  | cons a rest =>
    obtain ⟨ha, hrest⟩ := List.forall_mem_cons.1 hrs
    simp only [coalesce, contains_coalesceFrom ha hrest, List.mem_cons, exists_eq_or_imp]

theorem contains_add (hh : h.IsProper) {r : Interval} (hr : r.IsProper) :
    (h.add r).contains n = true ↔ h.contains n = true ∨ r.contains n = true := by
  -- Merging keeps the numbers in any order of the list, so of the sort only the members matter.
  have hmem : ∀ q, q ∈ sort (h.intervals ++ [r]) ↔ q ∈ h.intervals ∨ q = r := by
    intro q
    rw [sort, List.mem_mergeSort, List.mem_append, List.mem_singleton]
  have hproper : ∀ q ∈ sort (h.intervals ++ [r]), q.IsProper := by
    intro q hq
    rcases (hmem q).1 hq with hq | rfl
    · exact hh q hq
    · exact hr
  rw [contains_iff, contains_iff, add, contains_coalesce hproper]
  simp only [hmem, or_and_right, exists_or, exists_eq_left]

theorem contains_addAll (hh : h.IsProper) {rs : List Interval} (hrs : ∀ r ∈ rs, r.IsProper) :
    (h.addAll rs).contains n = true ↔
      h.contains n = true ∨ ∃ r ∈ rs, r.contains n = true := by
  induction rs generalizing h with
  | nil => simp [addAll]
  | cons r rest ih =>
    obtain ⟨hr, hrest⟩ := List.forall_mem_cons.1 hrs
    rw [addAll, List.foldl_cons, ← addAll, ih (hh.add hr) hrest, contains_add hh hr]
    simp only [List.mem_cons, exists_eq_or_imp, or_assoc]

end HostSet

end Gtid

namespace GtidSet

variable {s : GtidSet} {host : String} {n : UInt64}

theorem contains_addHost (hs : s.IsProper) (host other : String) {rs : List Gtid.Interval}
    (hrs : ∀ r ∈ rs, r.IsProper) : (s.addHost host rs).contains other n = true ↔
      s.contains other n = true ∨ host = other ∧ ∃ r ∈ rs, r.contains n = true := by
  by_cases heq : other = host
  · subst heq
    have hbefore : (s.hosts.getD other (.empty other)).IsProper ∧
        ((s.hosts.getD other (.empty other)).contains n = true ↔ s.contains other n = true) := by
      unfold KeyMap.getD GtidSet.contains
      cases hget : s.hosts.get? other with
      | none => exact ⟨Gtid.HostSet.isProper_empty other, Iff.rfl⟩
      | some h => exact ⟨hs other h hget, Iff.rfl⟩
    rw [← hbefore.2, GtidSet.contains, addHost, KeyMap.get?_insert_self, Option.map_some,
      Option.getD_some, Gtid.HostSet.contains_addAll hbefore.1 hrs]
    simp only [true_and]
  · have hother : (s.addHost host rs).contains other n = s.contains other n := by
      rw [GtidSet.contains, addHost, KeyMap.get?_insert, if_neg heq, GtidSet.contains]
    rw [hother]
    simp [Ne.symm heq]

theorem contains_addItems (hs : s.IsProper) {items : List Gtid.Item}
    (hitems : ∀ item ∈ items, ∀ r ∈ item.2, r.IsProper) :
    (items.foldl (fun s item => s.addHost item.1 item.2) s).contains host n = true ↔
      s.contains host n = true ∨ Gtid.Lists items host n := by
  induction items generalizing s with
  | nil => simp [Gtid.Lists]
  | cons item rest ih =>
    obtain ⟨hitem, hrest⟩ := List.forall_mem_cons.1 hitems
    rw [List.foldl_cons, ih (hs.addHost item.1 hitem) hrest,
      contains_addHost hs item.1 host hitem]
    simp only [Gtid.Lists, Gtid.Interval.contains_iff, List.mem_cons, exists_eq_or_imp, or_assoc]

theorem flavor_addItems (s : GtidSet) (items : List Gtid.Item) :
    (items.foldl (fun s item => s.addHost item.1 item.2) s).flavor = s.flavor := by
  induction items generalizing s with
  | nil => rfl
  | cons item rest ih => exact ih (s.addHost item.1 item.2)

/-- A set made of items holds the transactions that they list. -/
theorem contains_ofItems (flavor : Option String) {items : List Gtid.Item}
    (hitems : ∀ item ∈ items, ∀ r ∈ item.2, r.IsProper) :
    (Gtid.ofItems flavor items).contains host n = true ↔ Gtid.Lists items host n := by
  have hempty : GtidSet.contains ⟨flavor, .empty⟩ host n = false := rfl
  rw [Gtid.ofItems, contains_addItems (isProper_empty flavor) hitems, hempty]
  simp

end GtidSet

end ShardStream

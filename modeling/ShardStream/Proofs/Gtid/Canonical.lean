import Mathlib.Data.List.Sort
import ShardStream.Proofs.Gtid.Grammar

/-! # The shortest list of intervals

However intervals come to a host, the list that is kept for it is the shortest one for its numbers:
in ascending order, with a number in each interval and at least one missing between neighbours. Its
intervals are the maximal runs of the numbers, so there is just one such list for given numbers. In
the same way a set that has been read is determined by its flavor and its transactions.
-/
namespace ShardStream

namespace Gtid

namespace Interval

variable {a b m : Interval}

/-- At least one number is missing between the end of one interval and the start of the next. -/
def IsApart (a b : Interval) : Prop := a.last.toNat + 1 < b.first.toNat

instance : Std.TransCmp order :=
  inferInstanceAs (Std.TransCmp (compareLex (compareOn first) (compareOn last)))

instance : Std.Irrefl fun a b : Interval => a.order b = .lt := by
  refine ⟨fun a ha => ?_⟩
  have hself : a.order a = .eq := Std.ReflCmp.compare_self
  rw [hself] at ha
  cases ha

instance : Std.Antisymm fun a b : Interval => a.order b = .lt := by
  refine ⟨fun a b hab hba => ?_⟩
  have hswap : a.order b = (b.order a).swap := Std.OrientedCmp.eq_swap
  rw [hab, hba] at hswap
  cases hswap

theorem order_eq_lt_of_first_lt (h : a.first < b.first) : a.order b = .lt :=
  Ordering.then_eq_lt.2 (.inl (Std.compare_eq_lt.2 h))

theorem first_le_of_order_isLE (h : (a.order b).isLE = true) : a.first ≤ b.first := by
  refine UInt64.not_lt.1 fun hlt => ?_
  exact Std.OrientedCmp.not_isLE_of_lt (order_eq_lt_of_first_lt hlt) h

theorem IsApart.order_eq_lt (h : a.IsApart b) (ha : a.IsProper) : a.order b = .lt := by
  refine order_eq_lt_of_first_lt (UInt64.lt_iff_toNat_lt.2 ?_)
  have hle := UInt64.le_iff_toNat_le.1 ha
  unfold IsApart at h
  omega

theorem first_eq_of_merge? (hab : a.first ≤ b.first) (h : a.merge? b = some m) :
    m.first = a.first := by
  obtain ⟨-, rfl⟩ := merge?_eq_some_iff.1 h
  have hle := UInt64.le_iff_toNat_le.1 hab
  rw [← UInt64.toNat_inj, toNat_min]
  omega

theorem isApart_of_merge?_eq_none (hb : b.IsProper) (hab : a.first ≤ b.first)
    (h : a.merge? b = none) : a.IsApart b := by
  have hble := UInt64.le_iff_toNat_le.1 hb
  have hle := UInt64.le_iff_toNat_le.1 hab
  rcases merge?_eq_none_iff.1 h with hgap | hgap
  · exact hgap
  · omega

/-- All numbers of the interval are among the given ones, and the numbers next to it are not. -/
structure IsRunOf (numbers : UInt64 → Bool) (r : Interval) : Prop where
  proper : r.IsProper
  inside : ∀ n, r.contains n = true → numbers n = true
  maximal : ∀ n, n.toNat + 1 = r.first.toNat ∨ n.toNat = r.last.toNat + 1 → numbers n = false

variable {numbers : UInt64 → Bool} {n : UInt64}

/-- A run goes as far as any other run that shares a number with it. -/
theorem IsRunOf.bounds (ha : a.IsRunOf numbers) (hb : b.IsRunOf numbers)
    (han : a.contains n = true) (hbn : b.contains n = true) :
    a.first ≤ b.first ∧ b.last ≤ a.last := by
  have hstop : ∀ m : UInt64, b.first.toNat ≤ m.toNat → m.toNat ≤ b.last.toNat →
      ¬ (m.toNat + 1 = a.first.toNat ∨ m.toNat = a.last.toNat + 1) := by
    intro m hfirst hlast hnext
    have hbm : b.contains m = true := contains_iff.2
      ⟨UInt64.le_iff_toNat_le.2 hfirst, UInt64.le_iff_toNat_le.2 hlast⟩
    have hm := hb.inside m hbm
    rw [ha.maximal m hnext] at hm
    cases hm
  have hfirst := a.first.toNat_lt_size
  have hlast := b.last.toNat_lt_size
  simp only [contains_iff, UInt64.le_iff_toNat_le] at *
  constructor
  · by_contra hlt
    let before := UInt64.ofNat (a.first.toNat - 1)
    have hbefore : before.toNat = a.first.toNat - 1 := UInt64.toNat_ofNat_of_lt' (by omega)
    exact hstop before (by omega) (by omega) (.inl (by omega))
  · by_contra hlt
    let after := UInt64.ofNat (a.last.toNat + 1)
    have hafter : after.toNat = a.last.toNat + 1 := UInt64.toNat_ofNat_of_lt' (by omega)
    exact hstop after (by omega) (by omega) (.inr hafter)

theorem IsRunOf.eq_of_contains (ha : a.IsRunOf numbers) (hb : b.IsRunOf numbers)
    (han : a.contains n = true) (hbn : b.contains n = true) : a = b := by
  obtain ⟨hfirst, hlast⟩ := ha.bounds hb han hbn
  obtain ⟨hfirst', hlast'⟩ := hb.bounds ha hbn han
  rw [Interval.mk.injEq]
  exact ⟨UInt64.le_antisymm hfirst hfirst', UInt64.le_antisymm hlast' hlast⟩

end Interval

namespace HostSet

variable {g h : HostSet} {rs : List Interval} {a q r : Interval} {n : UInt64}

theorem pairwise_sort (rs : List Interval) :
    (sort rs).Pairwise fun a b => a.first ≤ b.first := by
  have hle : ∀ o : Ordering, (o != .gt) = o.isLE := by decide
  refine List.Pairwise.imp (fun h => Interval.first_le_of_order_isLE (hle _ ▸ h))
    (List.pairwise_mergeSort ?_ ?_ rs)
  · intro a b c hab hbc
    rw [hle] at hab hbc ⊢
    exact Std.TransCmp.isLE_trans hab hbc
  · intro a b
    have hswap : b.order a = (a.order b).swap := Std.OrientedCmp.eq_swap
    rw [hle, hle, hswap]
    cases a.order b <;> rfl

/-- Merging from left to right sets the intervals of a sorted list apart, and none of them starts
before the first one. -/
theorem isApart_coalesceFrom (ha : a.IsProper) (hrs : ∀ r ∈ rs, r.IsProper)
    (hsorted : (a :: rs).Pairwise fun a b => a.first ≤ b.first) :
    (coalesceFrom a rs).Pairwise Interval.IsApart ∧
      ∀ r ∈ coalesceFrom a rs, a.first ≤ r.first := by
  induction rs generalizing a with
  | nil => simp [coalesceFrom]
  | cons b rest ih =>
    obtain ⟨hb, hrest⟩ := List.forall_mem_cons.1 hrs
    obtain ⟨hfirst, htail⟩ := List.pairwise_cons.1 hsorted
    have hab : a.first ≤ b.first := hfirst b List.mem_cons_self
    unfold coalesceFrom
    cases hm : a.merge? b with
    | some m =>
      have hsame : m.first = a.first := Interval.first_eq_of_merge? hab hm
      rw [← hsame] at hfirst ⊢
      refine ih (Interval.isProper_of_merge? ha hm) hrest (List.pairwise_cons.2 ⟨?_, htail.tail⟩)
      exact fun r hr => hfirst r (List.mem_cons_of_mem _ hr)
    | none =>
      obtain ⟨happart, hlower⟩ := ih hb hrest htail
      have hgap : a.IsApart b := Interval.isApart_of_merge?_eq_none hb hab hm
      constructor
      · refine List.pairwise_cons.2 ⟨fun r hr => ?_, happart⟩
        exact Nat.lt_of_lt_of_le hgap (UInt64.le_iff_toNat_le.1 (hlower r hr))
      · intro r hr
        rcases List.mem_cons.1 hr with rfl | hr
        · exact UInt64.le_refl _
        · exact UInt64.le_trans hab (hlower r hr)

/-- The list of intervals is the shortest one for its numbers. -/
structure IsCanonical (h : HostSet) : Prop where
  proper : h.IsProper
  apart : h.intervals.Pairwise Interval.IsApart

theorem isCanonical_empty (host : String) : (empty host).IsCanonical :=
  ⟨isProper_empty host, .nil⟩

theorem IsProper.isCanonical_add (hh : h.IsProper) (hr : r.IsProper) : (h.add r).IsCanonical := by
  refine ⟨hh.add hr, ?_⟩
  have hproper : ∀ q ∈ sort (h.intervals ++ [r]), q.IsProper := by
    intro q hq
    rw [sort, List.mem_mergeSort, List.mem_append, List.mem_singleton] at hq
    rcases hq with hq | rfl
    · exact hh q hq
    · exact hr
  have hsorted := pairwise_sort (h.intervals ++ [r])
  rw [HostSet.add]
  cases hlist : sort (h.intervals ++ [r]) with
  | nil => exact .nil
  | cons a rest =>
    rw [hlist] at hproper hsorted
    obtain ⟨ha, hrest⟩ := List.forall_mem_cons.1 hproper
    exact (isApart_coalesceFrom ha hrest hsorted).1

theorem IsCanonical.addAll (hh : h.IsCanonical) (hrs : ∀ r ∈ rs, r.IsProper) :
    (h.addAll rs).IsCanonical := by
  induction rs generalizing h with
  | nil => exact hh
  | cons r rest ih =>
    obtain ⟨hr, hrest⟩ := List.forall_mem_cons.1 hrs
    exact ih (hh.proper.isCanonical_add hr) hrest

theorem IsCanonical.ascending (hh : h.IsCanonical) :
    h.intervals.Pairwise fun a b => a.order b = .lt :=
  hh.apart.imp_of_mem fun ha _ hab => hab.order_eq_lt (hh.proper _ ha)

theorem IsCanonical.eq_or_isApart (hh : h.IsCanonical) (hq : q ∈ h.intervals)
    (hr : r ∈ h.intervals) : q = r ∨ q.IsApart r ∨ r.IsApart q := by
  let Related (a b : Interval) : Prop := a = b ∨ a.IsApart b ∨ b.IsApart a
  have hsymm : Std.Symm Related := ⟨fun a b hab => hab.imp Eq.symm Or.symm⟩
  have hrelated : h.intervals.Pairwise Related := hh.apart.imp fun hab => .inr (.inl hab)
  exact hrelated.forall_of_forall (fun a _ => .inl rfl) hq hr

theorem IsCanonical.isRunOf_of_mem (hh : h.IsCanonical) (hr : r ∈ h.intervals) :
    r.IsRunOf h.contains := by
  refine ⟨hh.proper r hr, fun n hn => contains_iff.2 ⟨r, hr, hn⟩, ?_⟩
  intro n hnext
  refine Bool.eq_false_iff.2 fun hn => ?_
  obtain ⟨q, hq, hqn⟩ := contains_iff.1 hn
  have hproper := hh.proper r hr
  simp only [Interval.IsProper, Interval.contains_iff, UInt64.le_iff_toNat_le] at hqn hproper
  rcases hh.eq_or_isApart hq hr with rfl | hapart | hapart
  · omega
  · unfold Interval.IsApart at hapart
    omega
  · unfold Interval.IsApart at hapart
    omega

/-- The intervals are the maximal runs of the numbers. -/
theorem IsCanonical.mem_iff_isRunOf (hh : h.IsCanonical) :
    r ∈ h.intervals ↔ r.IsRunOf h.contains := by
  refine ⟨hh.isRunOf_of_mem, fun hr => ?_⟩
  have hfirst : r.contains r.first = true :=
    Interval.contains_iff.2 ⟨UInt64.le_refl _, hr.proper⟩
  obtain ⟨q, hq, hqn⟩ := contains_iff.1 (hr.inside _ hfirst)
  rwa [← (hh.isRunOf_of_mem hq).eq_of_contains hr hqn hfirst]

/-- There is one canonical list for given numbers. -/
theorem IsCanonical.intervals_eq_iff (hg : g.IsCanonical) (hh : h.IsCanonical) :
    g.intervals = h.intervals ↔ ∀ n, g.contains n = h.contains n := by
  constructor
  · intro heq n
    rw [HostSet.contains, heq, HostSet.contains]
  · intro hsame
    refine hg.ascending.eq_of_mem_iff hh.ascending fun r => ?_
    rw [hg.mem_iff_isRunOf, hh.mem_iff_isRunOf, funext hsame]

theorem IsProper.greatest?_eq_some_iff (hh : h.IsProper) {last : UInt64} :
    h.greatest? = some last ↔
      h.contains last = true ∧ ∀ n, h.contains n = true → n ≤ last := by
  constructor
  · intro hlast
    refine ⟨hh.contains_greatest hlast, fun n hn => ?_⟩
    obtain ⟨other, hother, hle⟩ := le_greatest hn
    obtain rfl : other = last := Option.some.inj (hother.symm.trans hlast)
    exact hle
  · rintro ⟨hlast, hle⟩
    obtain ⟨other, hother, hge⟩ := le_greatest hlast
    rw [hother, UInt64.le_antisymm (hle other (hh.contains_greatest hother)) hge]

theorem host_addAll (h : HostSet) (rs : List Interval) : (h.addAll rs).host = h.host := by
  induction rs generalizing h with
  | nil => rfl
  | cons r rest ih => exact ih (h.add r)

theorem IsProper.addAll_ne_nil (hh : h.IsProper) (hne : rs ≠ []) (hrs : ∀ r ∈ rs, r.IsProper) :
    (h.addAll rs).intervals ≠ [] := by
  obtain ⟨r, hr⟩ := List.exists_mem_of_ne_nil rs hne
  have hlast := (contains_addAll hh hrs).2 (.inr ⟨r, hr, (hrs r hr).contains_last⟩)
  obtain ⟨q, hq, -⟩ := contains_iff.1 hlast
  exact List.ne_nil_of_mem hq

/-- The numbers of the intervals added to an empty host. -/
theorem contains_addAll_empty (host : String) (hrs : ∀ r ∈ rs, r.IsProper) :
    ((empty host).addAll rs).contains n = true ↔ ∃ r ∈ rs, r.contains n = true := by
  rw [contains_addAll (isProper_empty host) hrs]
  simp [HostSet.contains, empty]

/-- Of the intervals added to a host the shortest list is kept: in ascending order, each with a
number in it, and with at least one number missing between neighbours. It holds the numbers of all
that was added, the largest of them is the largest end, and two hosts to which intervals with the
same numbers were added have the same list, whatever the order and the number of the additions. -/
theorem added_intervals_are_canonical (host : String) (hrs : ∀ r ∈ rs, r.IsProper) :
    let h := (empty host).addAll rs
    (h.intervals.Pairwise (fun a b => a.order b = .lt) ∧ (∀ r ∈ h.intervals, r.first ≤ r.last) ∧
        h.intervals.Pairwise fun a b => a.last.toNat + 1 < b.first.toNat) ∧
      (∀ n, h.contains n = true ↔ ∃ r ∈ rs, r.contains n = true) ∧
      (h.greatest? = none ↔ rs = []) ∧
      (∀ last, h.greatest? = some last ↔ (∃ r ∈ rs, r.last = last) ∧ ∀ r ∈ rs, r.last ≤ last) ∧
      ∀ (other : String) (ss : List Interval), (∀ s ∈ ss, s.IsProper) →
        (((empty other).addAll ss).intervals = h.intervals ↔
          ∀ n, (∃ s ∈ ss, s.contains n = true) ↔ ∃ r ∈ rs, r.contains n = true) := by
  intro h
  have hcanonical : h.IsCanonical := (isCanonical_empty host).addAll hrs
  have hcontains : ∀ n, h.contains n = true ↔ ∃ r ∈ rs, r.contains n = true :=
    fun n => contains_addAll_empty host hrs
  have hlast : ∀ r ∈ rs, h.contains r.last = true :=
    fun r hr => (hcontains r.last).2 ⟨r, hr, (hrs r hr).contains_last⟩
  refine ⟨⟨hcanonical.ascending, hcanonical.proper, hcanonical.apart⟩, hcontains, ?_, ?_, ?_⟩
  · constructor
    · intro hnone
      refine List.eq_nil_iff_forall_not_mem.2 fun r hr => ?_
      obtain ⟨last, hsome, -⟩ := le_greatest (hlast r hr)
      rw [hnone] at hsome
      cases hsome
    · rintro rfl
      rfl
  · intro last
    rw [hcanonical.proper.greatest?_eq_some_iff, hcontains]
    constructor
    · rintro ⟨⟨r, hr, hrn⟩, hle⟩
      have hall : ∀ r ∈ rs, r.last ≤ last := fun r hr => hle _ (hlast r hr)
      exact ⟨⟨r, hr, UInt64.le_antisymm (hall r hr) (Interval.contains_iff.1 hrn).2⟩, hall⟩
    · rintro ⟨⟨r, hr, rfl⟩, hall⟩
      refine ⟨⟨r, hr, (hrs r hr).contains_last⟩, fun n hn => ?_⟩
      obtain ⟨q, hq, hqn⟩ := (hcontains n).1 hn
      exact UInt64.le_trans (Interval.contains_iff.1 hqn).2 (hall q hq)
  · intro other ss hss
    have hother : ((empty other).addAll ss).IsCanonical := (isCanonical_empty other).addAll hss
    rw [hother.intervals_eq_iff hcanonical]
    refine forall_congr' fun n => ?_
    rw [← hcontains, ← contains_addAll_empty other hss, Bool.eq_iff_iff]

end HostSet

namespace Sample

/-- Intervals that overlap, touch and reach both ends of the numbers. -/
def scattered : List Interval :=
  [⟨18446744073709551615, 18446744073709551615⟩, ⟨6, 9⟩, ⟨0, 5⟩, ⟨3, 7⟩,
   ⟨18446744073709551614, 18446744073709551614⟩]

def gathered : List Interval := [⟨0, 9⟩, ⟨18446744073709551614, 18446744073709551615⟩]

theorem isProper_scattered : ∀ r ∈ scattered, r.IsProper := by
  unfold Interval.IsProper
  decide

theorem isProper_gathered : ∀ r ∈ gathered, r.IsProper := by
  unfold Interval.IsProper
  decide

theorem contains_gathered (n : UInt64) : (∃ r ∈ gathered, r.contains n = true) ↔
    ∃ r ∈ scattered, r.contains n = true := by
  simp only [gathered, scattered, List.mem_cons, List.not_mem_nil, or_false, exists_eq_or_imp,
    exists_eq_left, Interval.contains_iff, UInt64.le_iff_toNat_le, UInt64.reduceToNat]
  omega

end Sample

namespace HostSet

theorem scattered_intervals_are_gathered :
    (∀ r ∈ Sample.scattered, r.IsProper) ∧ (∀ r ∈ Sample.gathered, r.IsProper) ∧
      ((empty "a").addAll Sample.gathered).intervals =
        ((empty "b").addAll Sample.scattered).intervals ∧
      ((empty "b").addAll Sample.scattered).greatest? = some 18446744073709551615 ∧
      ((empty "b").addAll Sample.scattered).contains 10 = false := by
  obtain ⟨-, hcontains, -, hgreatest, hsame⟩ :=
    added_intervals_are_canonical "b" Sample.isProper_scattered
  have hten : ¬ ∃ r ∈ Sample.scattered, r.contains 10 = true := by decide
  refine ⟨Sample.isProper_scattered, Sample.isProper_gathered, ?_, ?_, ?_⟩
  · exact (hsame "a" Sample.gathered Sample.isProper_gathered).2 Sample.contains_gathered
  · exact (hgreatest _).2 (by decide)
  · exact Bool.eq_false_iff.2 (mt (hcontains 10).1 hten)

end HostSet

end Gtid

/-- Two maps with the same values under the same keys are one map. -/
theorem KeyMap.ext_get? {β : Type} {m n : KeyMap β} (h : ∀ k, m.get? k = n.get? k) : m = n := by
  have hirrefl : Std.Irrefl fun a b : String × β => a.1 < b.1 :=
    ⟨fun a => String.lt_irrefl a.1⟩
  have hantisymm : Std.Antisymm fun a b : String × β => a.1 < b.1 :=
    ⟨fun a b hab hba => absurd (String.lt_trans hab hba) (String.lt_irrefl a.1)⟩
  refine ext_entries (m.ascending.eq_of_mem_iff n.ascending fun e => ?_)
  rw [← Prod.eta e, ← get?_eq_some_iff, ← get?_eq_some_iff, h]

namespace GtidSet

variable {s t : GtidSet} {items : List Gtid.Item}

/-- Each host is kept under its name, with the shortest list of its intervals, and has executed
something. -/
def IsCanonical (s : GtidSet) : Prop :=
  ∀ host h, s.hosts.get? host = some h → h.host = host ∧ h.IsCanonical ∧ h.intervals ≠ []

theorem isCanonical_empty (flavor : Option String) : IsCanonical ⟨flavor, .empty⟩ := by
  intro host h hget
  cases hget

theorem IsCanonical.addHost (hs : s.IsCanonical) (host : String) {rs : List Gtid.Interval}
    (hne : rs ≠ []) (hrs : ∀ r ∈ rs, r.IsProper) : (s.addHost host rs).IsCanonical := by
  have hbefore : (s.hosts.getD host (.empty host)).host = host ∧
      (s.hosts.getD host (.empty host)).IsCanonical := by
    unfold KeyMap.getD
    cases hget : s.hosts.get? host with
    | none => exact ⟨rfl, Gtid.HostSet.isCanonical_empty host⟩
    | some h => exact ⟨(hs host h hget).1, (hs host h hget).2.1⟩
  intro other h hget
  rw [GtidSet.addHost, KeyMap.get?_insert] at hget
  split at hget
  · next heq =>
    cases hget
    refine ⟨?_, hbefore.2.addAll hrs, ?_⟩
    · rw [Gtid.HostSet.host_addAll, hbefore.1, heq]
    · exact hbefore.2.proper.addAll_ne_nil hne hrs
  · exact hs other h hget

theorem IsCanonical.addItems (hs : s.IsCanonical)
    (hitems : ∀ item ∈ items, item.2 ≠ [] ∧ ∀ r ∈ item.2, r.IsProper) :
    (items.foldl (fun s item => s.addHost item.1 item.2) s).IsCanonical := by
  induction items generalizing s with
  | nil => exact hs
  | cons item rest ih =>
    obtain ⟨⟨hne, hproper⟩, hrest⟩ := List.forall_mem_cons.1 hitems
    exact ih (hs.addHost item.1 hne hproper) hrest

/-- Each host of a canonical set has executed some transaction. -/
theorem IsCanonical.exists_contains (hs : s.IsCanonical) {host : String} {h : Gtid.HostSet}
    (hget : s.hosts.get? host = some h) : ∃ n, s.contains host n = true := by
  obtain ⟨-, hcanonical, hne⟩ := hs host h hget
  obtain ⟨r, hr⟩ := List.exists_mem_of_ne_nil _ hne
  have hlast : h.contains r.last = true :=
    Gtid.HostSet.contains_iff.2 ⟨r, hr, (hcanonical.proper r hr).contains_last⟩
  exact ⟨r.last, contains_iff.2 ⟨h, hget, hlast⟩⟩

/-- A host of one canonical set is kept with the same intervals in any other that has executed the
same transactions. -/
theorem IsCanonical.get?_of_contains (hs : s.IsCanonical) (ht : t.IsCanonical)
    (hsame : ∀ host n, s.contains host n = t.contains host n) {host : String} {h : Gtid.HostSet}
    (hget : s.hosts.get? host = some h) : t.hosts.get? host = some h := by
  obtain ⟨hname, hcanonical, -⟩ := hs host h hget
  obtain ⟨n, hn⟩ := hs.exists_contains hget
  obtain ⟨k, hk, -⟩ := contains_iff.1 (hsame host n ▸ hn)
  obtain ⟨hname', hcanonical', -⟩ := ht host k hk
  have hintervals : k.intervals = h.intervals := by
    refine (hcanonical'.intervals_eq_iff hcanonical).2 fun n => ?_
    have hn := hsame host n
    simp only [contains, hget, hk, Option.map_some, Option.getD_some] at hn
    exact hn.symm
  have hkh : k = h := by
    rw [Gtid.HostSet.mk.injEq]
    exact ⟨hname'.trans hname.symm, hintervals⟩
  rw [hk, hkh]

/-- A canonical set is determined by its flavor and its transactions. -/
theorem IsCanonical.eq_iff (hs : s.IsCanonical) (ht : t.IsCanonical) :
    s = t ↔ s.flavor = t.flavor ∧ ∀ host n, s.contains host n = t.contains host n := by
  constructor
  · rintro rfl
    exact ⟨rfl, fun _ _ => rfl⟩
  · rintro ⟨hflavor, hsame⟩
    have hhosts : s.hosts = t.hosts := by
      refine KeyMap.ext_get? fun host => Option.ext fun h => ?_
      exact ⟨hs.get?_of_contains ht hsame,
        ht.get?_of_contains hs fun host n => (hsame host n).symm⟩
    rw [GtidSet.mk.injEq]
    exact ⟨hflavor, hhosts⟩

end GtidSet

end ShardStream

import Mathlib.Algebra.Group.Action.Defs
import Mathlib.Algebra.GroupWithZero.Nat
import Mathlib.Algebra.Order.BigOperators.Group.Finset
import ShardStream.Proofs.Gtid.Reading
import ShardStream.Rank

/-! # Growing sets and their ranks

The rank of a set is the sum over all hosts of the largest sequence number executed on the host, so
it never falls while the set grows. It rises just if some host executes a number above all of its
numbers so far; a number that fills a gap leaves it where it is.
-/
namespace ShardStream

namespace Gtid

theorem lawfulOrderMax_uint64 : Std.LawfulOrderMax UInt64 := by
  refine .of_max_le_iff (fun a b c => ?_) (fun a b => ?_)
  · simp only [UInt64.le_iff_toNat_le, toNat_max]
    omega
  · simp only [← UInt64.toNat_inj, toNat_max]
    omega

namespace HostSet

variable {h : HostSet} {n g : UInt64}

theorem contains_iff : h.contains n = true ↔ ∃ r ∈ h.intervals, r.contains n = true := by
  simp [contains]

theorem greatest?_eq_some_iff : h.greatest? = some g ↔
    (∃ r ∈ h.intervals, r.last = g) ∧ ∀ r ∈ h.intervals, r.last ≤ g := by
  have := lawfulOrderMax_uint64
  rw [greatest?, List.max?_eq_some_iff, List.mem_map, List.forall_mem_map]

theorem greatest?_ne_none (hh : h.intervals ≠ []) : h.greatest? ≠ none := by
  simp [greatest?, hh]

theorem IsProper.contains_greatest (hh : h.IsProper) (hg : h.greatest? = some g) :
    h.contains g = true := by
  obtain ⟨⟨r, hr, rfl⟩, -⟩ := greatest?_eq_some_iff.1 hg
  exact contains_iff.2 ⟨r, hr, (hh r hr).contains_last⟩

theorem le_greatest (hn : h.contains n = true) : ∃ g, h.greatest? = some g ∧ n ≤ g := by
  obtain ⟨r, hr, hrn⟩ := contains_iff.1 hn
  have hne : h.intervals ≠ [] := List.ne_nil_of_mem hr
  obtain ⟨g, hg⟩ := Option.ne_none_iff_exists'.1 (greatest?_ne_none hne)
  have hlast : r.last ≤ g := (greatest?_eq_some_iff.1 hg).2 r hr
  exact ⟨g, hg, UInt64.le_trans (Interval.contains_iff.1 hrn).2 hlast⟩

end HostSet

end Gtid

namespace GtidSet

variable {s t : GtidSet} {host : String} {n : UInt64}

/-- Every transaction of the set is one of the other. -/
def Within (s t : GtidSet) : Prop :=
  ∀ host n, s.contains host n = true → t.contains host n = true

/-- Some host has executed a number above all those of the other set. -/
def Outruns (t s : GtidSet) : Prop :=
  ∃ host n, t.contains host n = true ∧ 0 < n ∧ ∀ m, s.contains host m = true → m < n

/-- The numbers of each host run from 1 to the largest. The number 0 may be among them or not. -/
def IsGapless (s : GtidSet) : Prop :=
  ∀ host m n, s.contains host m = true → 0 < n → n ≤ m → s.contains host n = true

/-- The largest number of a host, or 0 if there is none. -/
def greatestAt (s : GtidSet) (host : String) : Nat :=
  (((s.hosts.get? host).bind (·.greatest?)).map UInt64.toNat).getD 0

theorem contains_iff : s.contains host n = true ↔
    ∃ h, s.hosts.get? host = some h ∧ h.contains n = true := by
  unfold contains
  cases s.hosts.get? host <;> simp

theorem le_greatestAt (hn : s.contains host n = true) : n.toNat ≤ s.greatestAt host := by
  obtain ⟨h, hget, hcontains⟩ := contains_iff.1 hn
  obtain ⟨g, hg, hle⟩ := Gtid.HostSet.le_greatest hcontains
  have heq : s.greatestAt host = g.toNat := by simp [greatestAt, hget, hg]
  rw [heq]
  exact UInt64.le_iff_toNat_le.1 hle

theorem IsProper.contains_greatestAt (hs : s.IsProper) (hpos : 0 < s.greatestAt host) :
    ∃ n, s.contains host n = true ∧ n.toNat = s.greatestAt host := by
  cases hget : s.hosts.get? host with
  | none => simp [greatestAt, hget] at hpos
  | some h =>
    cases hg : h.greatest? with
    | none => simp [greatestAt, hget, hg] at hpos
    | some g =>
      have hcontains : h.contains g = true := (hs host h hget).contains_greatest hg
      exact ⟨g, contains_iff.2 ⟨h, hget, hcontains⟩, by simp [greatestAt, hget, hg]⟩

theorem Within.greatestAt_le (hst : s.Within t) (hs : s.IsProper) (host : String) :
    s.greatestAt host ≤ t.greatestAt host := by
  rcases Nat.eq_zero_or_pos (s.greatestAt host) with hzero | hpos
  · rw [hzero]
    exact Nat.zero_le _
  · obtain ⟨n, hn, heq⟩ := hs.contains_greatestAt hpos
    rw [← heq]
    exact le_greatestAt (hst host n hn)

theorem outruns_iff (hs : s.IsProper) (ht : t.IsProper) :
    t.Outruns s ↔ ∃ host, s.greatestAt host < t.greatestAt host := by
  constructor
  · rintro ⟨host, n, hn, hpos, hall⟩
    refine ⟨host, Nat.lt_of_lt_of_le ?_ (le_greatestAt hn)⟩
    rcases Nat.eq_zero_or_pos (s.greatestAt host) with hzero | hmax
    · rw [hzero]
      exact UInt64.lt_iff_toNat_lt.1 hpos
    · obtain ⟨m, hm, heq⟩ := hs.contains_greatestAt hmax
      rw [← heq]
      exact UInt64.lt_iff_toNat_lt.1 (hall m hm)
  · rintro ⟨host, hlt⟩
    obtain ⟨n, hn, heq⟩ := ht.contains_greatestAt (Nat.zero_lt_of_lt hlt)
    refine ⟨host, n, hn, ?_, ?_⟩
    · refine UInt64.lt_iff_toNat_lt.2 ?_
      rw [heq]
      exact Nat.zero_lt_of_lt hlt
    · intro m hm
      refine UInt64.lt_iff_toNat_lt.2 ?_
      rw [heq]
      exact Nat.lt_of_le_of_lt (le_greatestAt hm) hlt

theorem greatestAt_eq_zero (h : host ∉ s.hosts.keys) : s.greatestAt host = 0 := by
  have hnone : s.hosts.get? host = none := by
    refine Option.eq_none_iff_forall_ne_some.2 ?_
    intro v hv
    exact h (KeyMap.mem_keys_iff.2 ⟨v, hv⟩)
  simp [greatestAt, hnone]

theorem sum_maxima (s : GtidSet) :
    (s.maxima.map UInt64.toNat).sum = (s.hosts.keys.map s.greatestAt).sum := by
  have hentry : ∀ e ∈ s.hosts.entries,
      s.greatestAt e.1 = (e.2.greatest?.map UInt64.toNat).getD 0 := by
    intro e he
    have hget : s.hosts.get? e.1 = some e.2 := KeyMap.get?_eq_some_iff.2 he
    simp [greatestAt, hget]
  rw [maxima, KeyMap.values, KeyMap.keys]
  revert hentry
  induction s.hosts.entries with
  | nil =>
    intro _
    rfl
  | cons e rest ih =>
    intro hentry
    obtain ⟨he, hrest⟩ := List.forall_mem_cons.1 hentry
    rw [List.map_cons, List.map_cons, List.map_cons, List.sum_cons, ← ih hrest, he]
    cases hg : e.2.greatest? <;> simp [hg]

/-- The sum may run over any hosts among which are those of the set. -/
theorem sum_greatestAt {hosts : Finset String} (h : ∀ host ∈ s.hosts.keys, host ∈ hosts) :
    (s.maxima.map UInt64.toNat).sum = ∑ host ∈ hosts, s.greatestAt host := by
  rw [sum_maxima, ← List.sum_toFinset _ s.hosts.nodup_keys]
  refine Finset.sum_subset ?_ ?_
  · intro host hhost
    exact h host (List.mem_toFinset.1 hhost)
  · intro host _ hnot
    exact greatestAt_eq_zero fun hmem => hnot (List.mem_toFinset.2 hmem)

end GtidSet

namespace Rank

variable {s t : GtidSet}

theorem toNat_foldl_add (ns : List UInt64) (acc : Rank)
    (h : acc.toNat + (ns.map UInt64.toNat).sum < count) :
    (ns.foldl (fun sum n => sum + BitVec.ofNat 128 n.toNat) acc).toNat =
      acc.toNat + (ns.map UInt64.toNat).sum := by
  induction ns generalizing acc with
  | nil => rfl
  | cons n rest ih =>
    rw [List.map_cons, List.sum_cons] at h ⊢
    have hn : n.toNat < 2 ^ 64 := n.toNat_lt
    have hadd : (acc + BitVec.ofNat 128 n.toNat).toNat = acc.toNat + n.toNat := by
      rw [BitVec.toNat_add, BitVec.toNat_ofNat]
      unfold count at h
      omega
    rw [List.foldl_cons, ih _ (by rw [hadd]; omega), hadd]
    omega

/-- As many maxima as there are words never add up to a number of more than 128 bits. -/
theorem sum_maxima_lt (hsize : s.hosts.size ≤ UInt64.size) :
    (s.maxima.map UInt64.toNat).sum < count := by
  have hlength : s.maxima.length ≤ s.hosts.size := by
    have hvalues : s.hosts.values.length = s.hosts.size := List.length_map _
    rw [← hvalues]
    exact List.length_filterMap_le _ _
  have hle : ∀ v ∈ s.maxima.map UInt64.toNat, v ≤ UInt64.size - 1 := by
    intro v hv
    obtain ⟨n, -, rfl⟩ := List.mem_map.1 hv
    exact Nat.le_pred_of_lt n.toNat_lt_size
  have hsum := List.sum_le_card_nsmul _ _ hle
  rw [List.length_map, smul_eq_mul] at hsum
  have hmul : s.maxima.length * (UInt64.size - 1) ≤ UInt64.size * (UInt64.size - 1) :=
    Nat.mul_le_mul_right _ (Nat.le_trans hlength hsize)
  have hcount : UInt64.size * (UInt64.size - 1) < count := by decide
  omega

theorem toNat_ofSet (h : (s.maxima.map UInt64.toNat).sum < count) :
    (ofSet s).toNat = (s.maxima.map UInt64.toNat).sum := by
  rw [ofSet, toNat_foldl_add _ _ (by simpa using h)]
  exact Nat.zero_add _

/-- A set ranks as high as each set within it, and higher just if it outruns that set. -/
theorem ofSet_le_ofSet (hs : s.IsProper) (ht : t.IsProper) (hst : s.Within t)
    (hsize : t.hosts.size ≤ UInt64.size) :
    ofSet s ≤ ofSet t ∧ (ofSet s < ofSet t ↔ t.Outruns s) := by
  let hosts := s.hosts.keys.toFinset ∪ t.hosts.keys.toFinset
  have hsumS : (s.maxima.map UInt64.toNat).sum = ∑ host ∈ hosts, s.greatestAt host :=
    GtidSet.sum_greatestAt fun host h => Finset.mem_union_left _ (List.mem_toFinset.2 h)
  have hsumT : (t.maxima.map UInt64.toNat).sum = ∑ host ∈ hosts, t.greatestAt host :=
    GtidSet.sum_greatestAt fun host h => Finset.mem_union_right _ (List.mem_toFinset.2 h)
  have hle : ∑ host ∈ hosts, s.greatestAt host ≤ ∑ host ∈ hosts, t.greatestAt host :=
    Finset.sum_le_sum fun host _ => hst.greatestAt_le hs host
  have hlt := sum_maxima_lt hsize
  have hrankT := toNat_ofSet hlt
  have hrankS : (ofSet s).toNat = (s.maxima.map UInt64.toNat).sum := by
    refine toNat_ofSet ?_
    omega
  rw [BitVec.le_def, BitVec.lt_def, hrankS, hrankT, hsumS, hsumT, GtidSet.outruns_iff hs ht]
  refine ⟨hle, ?_⟩
  constructor
  · intro h
    obtain ⟨host, -, hhost⟩ := Finset.exists_lt_of_sum_lt h
    exact ⟨host, hhost⟩
  · rintro ⟨host, hhost⟩
    have hmem : host ∈ hosts := by
      refine Finset.mem_union_right _ (List.mem_toFinset.2 ?_)
      by_contra hnot
      rw [GtidSet.greatestAt_eq_zero hnot] at hhost
      exact Nat.not_lt_zero _ hhost
    exact Finset.sum_lt_sum (fun host _ => hst.greatestAt_le hs host) ⟨host, hmem, hhost⟩

end Rank

section Ranking

variable {a b : String} {s t : GtidSet} {r : Rank}

theorem gtidRanking_of_parse (ha : GtidSet.parse a = .ok s) (hs : s.isEmpty = false) :
    gtidRanking a = .ok (Rank.ofSet s) := by
  simp [gtidRanking, ha, hs, bind, Except.bind]

theorem parse_of_gtidRanking (h : gtidRanking a = .ok r) :
    ∃ s, GtidSet.parse a = .ok s ∧ s.isEmpty = false ∧ r = Rank.ofSet s := by
  obtain ⟨s, hs, h⟩ := ok_of_bind h
  split at h
  · cases h
  · next hempty =>
    cases h
    exact ⟨s, hs, by simpa using hempty, rfl⟩

theorem size_hosts_le (hb : GtidSet.parse b = .ok t) (hsize : b.utf8ByteSize < 2 ^ 64) :
    t.hosts.size ≤ UInt64.size := by
  have hhosts := GtidSet.size_le_of_parse hb
  simp only [UInt64.size]
  omega

/-- On a shard whose set of transactions grows, ranks never fall. They rise from one set to a later
one just if some host has executed a number above all its numbers of the earlier set; a number that
only fills a gap, or is 0, is not seen. The later text is one that fits a memory of 64-bit
addresses. -/
theorem rank_rises_iff_outruns (ha : GtidSet.parse a = .ok s) (hb : GtidSet.parse b = .ok t)
    (hs : s.isEmpty = false) (ht : t.isEmpty = false) (hst : s.Within t)
    (hsize : b.utf8ByteSize < 2 ^ 64) :
    ∃ ra rb, gtidRanking a = .ok ra ∧ gtidRanking b = .ok rb ∧ ra ≤ rb ∧
      (ra < rb ↔ t.Outruns s) := by
  have hrank := Rank.ofSet_le_ofSet (GtidSet.isProper_of_parse ha) (GtidSet.isProper_of_parse hb)
    hst (size_hosts_le hb hsize)
  exact ⟨_, _, gtidRanking_of_parse ha hs, gtidRanking_of_parse hb ht, hrank⟩

end Ranking

namespace Sample

/-- The set of one host. -/
def ofHost (host : String) (intervals : List Gtid.Interval) : GtidSet :=
  ⟨none, KeyMap.empty.insert host ⟨host, intervals⟩⟩

theorem contains_ofHost {host other : String} {intervals : List Gtid.Interval} {n : UInt64} :
    (ofHost host intervals).contains other n = true ↔
      other = host ∧ ∃ r ∈ intervals, r.contains n = true := by
  rw [GtidSet.contains_iff, ofHost, KeyMap.get?_insert]
  by_cases h : other = host <;> simp [h, Gtid.HostSet.contains]

/-- Seven transactions of which the sixth has not been executed yet. -/
def gapped : GtidSet := ofHost "a" [⟨1, 5⟩, ⟨7, 7⟩]

def gapless : GtidSet := ofHost "a" [⟨1, 7⟩]

theorem parse_gapped : GtidSet.parse "a:1-5:7" = .ok gapped := by
  have hfirst : Gtid.HostSet.sort [⟨1, 5⟩] = [⟨1, 5⟩] := List.mergeSort_singleton _
  have hboth : Gtid.HostSet.sort [⟨1, 5⟩, ⟨7, 7⟩] = [⟨1, 5⟩, ⟨7, 7⟩] :=
    List.mergeSort_of_pairwise (by decide +kernel)
  have hitems : Gtid.ofItems none [("a", [⟨1, 5⟩, ⟨7, 7⟩])] = gapped := by
    simp only [Gtid.ofItems, GtidSet.addHost, Gtid.HostSet.addAll, Gtid.HostSet.add,
      List.foldl_cons, List.foldl_nil, KeyMap.getD, KeyMap.get?_empty, Option.getD_none,
      Gtid.HostSet.empty,
      List.nil_append, hfirst, Gtid.HostSet.coalesce, Gtid.HostSet.coalesceFrom,
      List.singleton_append, hboth]
    rfl
  have hflavor : Gtid.parseFlavor (Text.trim "a:1-5:7".toList) = .ok (none, "a:1-5:7".toList) := by
    decide +kernel
  rw [← hitems]
  exact GtidSet.parse_of_items (by decide +kernel) hflavor (by decide +kernel)

theorem parse_gapless : GtidSet.parse "a:1-7" = .ok gapless := by decide +kernel

theorem gapped_within_gapless : gapped.Within gapless := by
  intro host n hn
  obtain ⟨rfl, r, hr, hrn⟩ := contains_ofHost.1 hn
  refine contains_ofHost.2 ⟨rfl, _, List.mem_cons_self, ?_⟩
  rw [Gtid.Interval.contains_iff] at hrn ⊢
  simp only [List.mem_cons, List.not_mem_nil, or_false] at hr
  rcases hr with rfl | rfl
  · exact ⟨hrn.1, UInt64.le_trans hrn.2 (by decide)⟩
  · exact ⟨UInt64.le_trans (by decide) hrn.1, hrn.2⟩

end Sample

/-- The sixth of seven transactions comes last, and the rank stays what it was. -/
theorem filled_gap_keeps_rank : GtidSet.parse "a:1-5:7" = .ok Sample.gapped ∧
    GtidSet.parse "a:1-7" = .ok Sample.gapless ∧ Sample.gapped.Within Sample.gapless ∧
    Sample.gapless.contains "a" 6 = true ∧ Sample.gapped.contains "a" 6 = false ∧
    ∃ ra rb, gtidRanking "a:1-5:7" = .ok ra ∧ gtidRanking "a:1-7" = .ok rb ∧ ¬ ra < rb := by
  have ha := Sample.parse_gapped
  have hb := Sample.parse_gapless
  have hst := Sample.gapped_within_gapless
  obtain ⟨ra, rb, hra, hrb, -, hiff⟩ :=
    rank_rises_iff_outruns ha hb (by decide +kernel) (by decide +kernel) hst (by decide +kernel)
  refine ⟨ha, hb, hst, by decide +kernel, by decide +kernel, ra, rb, hra, hrb, ?_⟩
  rw [hiff]
  rintro ⟨host, n, hn, -, hall⟩
  obtain ⟨rfl, r, hr, hrn⟩ := Sample.contains_ofHost.1 hn
  obtain rfl := List.mem_singleton.1 hr
  have hlt : (7 : UInt64) < n := hall 7 (by decide +kernel)
  exact UInt64.not_le.2 hlt (Gtid.Interval.contains_iff.1 hrn).2

end ShardStream

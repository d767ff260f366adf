import ShardStream.Offset.Tracker
import ShardStream.Proofs.Gtid.Growth

/-! # Which positions have been reached

A position covers another when each positional entry of the other has been reached. With ranks of
GTID sets, growth on every shard is always seen as progress. The converse holds only as far as ranks
tell sets apart: between two sets of one lineage nothing beyond the largest number of a host is
missed, but a gap below it is not seen, and a shard that has moved to other hosts is compared by the
sums of unrelated numbers.
-/
namespace ShardStream

namespace Vgtid

variable {ranking : Ranking} {v other : Vgtid} {p : ShardPosition}

theorem reaches_true_iff : v.reaches ranking p = .ok true ↔ ∃ ours here there,
    v.positional? p.keyspace p.shard = some ours ∧ ranking ours.gtid = .ok here ∧
      ranking p.gtid = .ok there ∧ there ≤ here := by
  unfold reaches
  cases hours : v.positional? p.keyspace p.shard with
  | none => simp
  | some ours =>
    constructor
    · intro h
      obtain ⟨here, hhere, h⟩ := ok_of_bind h
      obtain ⟨there, hthere, h⟩ := ok_of_bind h
      have hle : there ≤ here := by simpa [pure, Except.pure] using h
      exact ⟨ours, here, there, rfl, hhere, hthere, hle⟩
    · rintro ⟨ours', here, there, hsome, hhere, hthere, hle⟩
      cases hsome
      simp [hhere, hthere, hle, bind, Except.bind, pure, Except.pure]

theorem reachesAll_true_iff {ps : List ShardPosition} :
    v.reachesAll ranking ps = .ok true ↔ ∀ p ∈ ps, v.reaches ranking p = .ok true := by
  induction ps with
  | nil => simp [reachesAll]
  | cons p rest ih =>
    rw [List.forall_mem_cons, ← ih]
    constructor
    · intro h
      obtain ⟨reached, hp, h⟩ := ok_of_bind h
      cases reached with
      | false => cases h
      | true => exact ⟨hp, h⟩
    · rintro ⟨hp, hrest⟩
      rw [reachesAll, hp]
      exact hrest

theorem covers_true_iff : v.covers ranking other = .ok true ↔
    ∀ p ∈ other.entries, p.isPositional = true → v.reaches ranking p = .ok true := by
  simp only [covers, reachesAll_true_iff, List.mem_filter, and_imp]

theorem positional?_eq_some_iff {keyspace shard : String} :
    v.positional? keyspace shard = some p ↔
      v.get? keyspace shard = some p ∧ p.isPositional = true :=
  Option.filter_eq_some_iff

theorem isFor_iff {keyspace shard : String} :
    p.isFor keyspace shard = true ↔ p.keyspace = keyspace ∧ p.shard = shard := by
  simp [ShardPosition.isFor]

theorem of_get?_eq_some {keyspace shard : String} (h : v.get? keyspace shard = some p) :
    p ∈ v.entries ∧ p.keyspace = keyspace ∧ p.shard = shard := by
  unfold get? at h
  have hfor := List.find?_some h
  exact ⟨List.mem_of_find?_eq_some h, isFor_iff.1 hfor⟩

/-- No shard has two entries. -/
def NamesOnce (v : Vgtid) : Prop := (v.entries.map fun p => (p.keyspace, p.shard)).Nodup

instance : Decidable v.NamesOnce := inferInstanceAs (Decidable (List.Nodup _))

theorem NamesOnce.get?_of_mem (hv : v.NamesOnce) (hp : p ∈ v.entries) :
    v.get? p.keyspace p.shard = some p := by
  cases hget : v.get? p.keyspace p.shard with
  | none =>
    have hnot := List.find?_eq_none.1 hget p hp
    exact absurd (isFor_iff.2 ⟨rfl, rfl⟩) hnot
  | some q =>
    obtain ⟨hq, hkeyspace, hshard⟩ := of_get?_eq_some hget
    have heq : q = p := List.inj_on_of_nodup_map hv hq hp (Prod.ext hkeyspace hshard)
    rw [heq]

/-- Each positional entry of the earlier position has a positional entry here whose set has grown
from its own. -/
def GrownFrom (new prev : Vgtid) : Prop :=
  ∀ p ∈ prev.entries, p.isPositional = true → ∃ q s t, new.get? p.keyspace p.shard = some q ∧
    q.isPositional = true ∧ GtidSet.parse p.gtid = .ok s ∧ GtidSet.parse q.gtid = .ok t ∧
    s.isEmpty = false ∧ t.isEmpty = false ∧ s.Within t

variable {new prev : Vgtid}

theorem GrownFrom.rank_le (hgrown : new.GrownFrom prev)
    (hsize : ∀ q ∈ new.entries, q.gtid.utf8ByteSize < 2 ^ 64) (hp : p ∈ prev.entries)
    (hpos : p.isPositional = true) :
    ∃ q here there, new.positional? p.keyspace p.shard = some q ∧ gtidRanking q.gtid = .ok here ∧
      gtidRanking p.gtid = .ok there ∧ there ≤ here := by
  obtain ⟨q, s, t, hget, hq, hs, ht, hs', ht', hst⟩ := hgrown p hp hpos
  have hbytes := hsize q (of_get?_eq_some hget).1
  obtain ⟨hle, -⟩ := Rank.ofSet_le_ofSet (GtidSet.isProper_of_parse hs)
    (GtidSet.isProper_of_parse ht) hst (size_hosts_le ht hbytes)
  exact ⟨q, _, _, positional?_eq_some_iff.2 ⟨hget, hq⟩, gtidRanking_of_parse ht ht',
    gtidRanking_of_parse hs hs', hle⟩

theorem GrownFrom.regressions_eq_nil (hgrown : new.GrownFrom prev) (hnew : new.NamesOnce)
    (hsize : ∀ q ∈ new.entries, q.gtid.utf8ByteSize < 2 ^ 64) :
    regressions gtidRanking prev new = [] := by
  rw [regressions, List.map_eq_nil_iff, List.filter_eq_nil_iff]
  intro q hq
  unfold isBehind
  cases hprev : prev.positional? q.keyspace q.shard with
  | none => simp
  | some p =>
    obtain ⟨hget, hpos⟩ := positional?_eq_some_iff.1 hprev
    obtain ⟨hp, hkeyspace, hshard⟩ := of_get?_eq_some hget
    obtain ⟨q', here, there, hq', hhere, hthere, hle⟩ := hgrown.rank_le hsize hp hpos
    have heq : q' = q := by
      rw [hkeyspace, hshard] at hq'
      exact Option.some.inj ((positional?_eq_some_iff.1 hq').1.symm.trans (hnew.get?_of_mem hq))
    subst heq
    simp [hhere, hthere, BitVec.not_lt.2 hle]

/-- Growth on every shard is progress: the later position covers the earlier one, no shard goes back
and moving there gives no notice. The texts fit a memory of 64-bit addresses. -/
theorem growth_is_progress (hgrown : new.GrownFrom prev)
    (hsize : ∀ q ∈ new.entries, q.gtid.utf8ByteSize < 2 ^ 64) :
    new.covers gtidRanking prev = .ok true ∧
      (new.NamesOnce → regressions gtidRanking prev new = [] ∧
        ∀ (t : Tracker) (time : Instant), t.vgtid = prev → (t.rotate new time).2 = []) := by
  refine ⟨?_, ?_⟩
  · rw [covers_true_iff]
    intro p hp hpos
    exact reaches_true_iff.2 (hgrown.rank_le hsize hp hpos)
  · intro hnew
    have hnil := hgrown.regressions_eq_nil hnew hsize
    refine ⟨hnil, ?_⟩
    intro t time ht
    have hback : regressions gtidRanking t.source.vgtid new = [] := by
      rw [← hnil, ← ht]
      rfl
    simp [Tracker.rotate, hback]

end Vgtid

namespace Sample

def gappedPosition : Vgtid := ⟨[⟨"commerce", "-80", "a:1-5:7"⟩, ⟨"commerce", "40-", "current"⟩]⟩

def gaplessPosition : Vgtid := ⟨[⟨"commerce", "80-", "b:1-3"⟩, ⟨"commerce", "-80", "a:1-7"⟩]⟩

theorem gaplessPosition_grown : gaplessPosition.GrownFrom gappedPosition := by
  intro p hp hpos
  simp only [gappedPosition, List.mem_cons, List.not_mem_nil, or_false] at hp
  rcases hp with rfl | rfl
  · exact ⟨_, gapped, gapless, rfl, by decide, parse_gapped, parse_gapless, by decide +kernel,
      by decide +kernel, gapped_within_gapless⟩
  · exact absurd hpos (by decide)

end Sample

namespace Vgtid

theorem filled_gap_is_progress :
    Sample.gaplessPosition.covers gtidRanking Sample.gappedPosition = .ok true ∧
      regressions gtidRanking Sample.gappedPosition Sample.gaplessPosition = [] ∧
      ∀ (t : Tracker) (time : Instant), t.vgtid = Sample.gappedPosition →
        (t.rotate Sample.gaplessPosition time).2 = [] := by
  obtain ⟨hcovers, hback⟩ :=
    growth_is_progress Sample.gaplessPosition_grown (by decide +kernel)
  exact ⟨hcovers, hback (by decide)⟩

variable {v other : Vgtid} {p : ShardPosition}

/-- What may be missed of a position that is covered. Each of its positional entries has a
positional entry here, both with sets that can be read. When one of the two sets is within the
other, each number that is missed is below a larger one of its host; so none is missed if the set
here has no gaps. The number 0 is no transaction. The texts fit a memory of 64-bit addresses. -/
theorem missed_only_in_gaps (hcovers : v.covers gtidRanking other = .ok true)
    (hsize : ∀ p ∈ other.entries, p.gtid.utf8ByteSize < 2 ^ 64) (hp : p ∈ other.entries)
    (hpos : p.isPositional = true) :
    ∃ ours s t, v.positional? p.keyspace p.shard = some ours ∧ GtidSet.parse ours.gtid = .ok s ∧
      GtidSet.parse p.gtid = .ok t ∧ Rank.ofSet t ≤ Rank.ofSet s ∧
      (s.Within t ∨ t.Within s → ∀ host n, t.contains host n = true → 0 < n →
        (∃ m, s.contains host m = true ∧ n ≤ m) ∧ (s.IsGapless → s.contains host n = true)) := by
  obtain ⟨ours, here, there, hours, hhere, hthere, hle⟩ :=
    reaches_true_iff.1 (covers_true_iff.1 hcovers p hp hpos)
  obtain ⟨s, hs, -, rfl⟩ := parse_of_gtidRanking hhere
  obtain ⟨t, ht, -, rfl⟩ := parse_of_gtidRanking hthere
  refine ⟨ours, s, t, hours, hs, ht, hle, ?_⟩
  intro hlineage host n hn hzero
  have hbelow : ∃ m, s.contains host m = true ∧ n ≤ m := by
    rcases hlineage with hst | hts
    · have hrank := Rank.ofSet_le_ofSet (GtidSet.isProper_of_parse hs)
        (GtidSet.isProper_of_parse ht) hst (size_hosts_le ht (hsize p hp))
      have hnot : ¬ t.Outruns s := fun h => BitVec.not_lt.2 hle (hrank.2.2 h)
      by_contra hnone
      refine hnot ⟨host, n, hn, hzero, ?_⟩
      intro m hm
      exact UInt64.not_le.1 fun hnm => hnone ⟨m, hm, hnm⟩
    · exact ⟨n, hts host n hn, UInt64.le_refl n⟩
  obtain ⟨m, hm, hnm⟩ := hbelow
  exact ⟨⟨m, hm, hnm⟩, fun hgapless => hgapless host m n hm hzero hnm⟩

/-- The position with the gap covers the one without, and the sixth transaction is missed. -/
theorem gap_is_missed : Sample.gappedPosition.covers gtidRanking
      ⟨[⟨"commerce", "-80", "a:1-7"⟩]⟩ = .ok true ∧
    ∃ ours s t, Sample.gappedPosition.positional? "commerce" "-80" = some ours ∧
      GtidSet.parse ours.gtid = .ok s ∧ GtidSet.parse "a:1-7" = .ok t ∧ s.Within t ∧
      t.contains "a" 6 = true ∧ s.contains "a" 6 = false ∧ ¬ s.IsGapless := by
  have hcovers : Sample.gappedPosition.covers gtidRanking
      ⟨[⟨"commerce", "-80", "a:1-7"⟩]⟩ = .ok true := by
    rw [covers_true_iff]
    intro p hp _
    obtain rfl := List.mem_singleton.1 hp
    exact reaches_true_iff.2 ⟨_, _, _, rfl,
      gtidRanking_of_parse Sample.parse_gapped (by decide +kernel),
      gtidRanking_of_parse Sample.parse_gapless (by decide +kernel), by decide +kernel⟩
  obtain ⟨ours, s, t, hours, hs, ht, -, hmissed⟩ := missed_only_in_gaps hcovers (by decide +kernel)
    List.mem_cons_self (by decide)
  obtain rfl : s = Sample.gapped := by
    cases hours
    exact Except.ok.inj (hs.symm.trans Sample.parse_gapped)
  obtain rfl : t = Sample.gapless := Except.ok.inj (ht.symm.trans Sample.parse_gapless)
  have hsix : Sample.gapped.contains "a" 6 = false := by decide +kernel
  refine ⟨hcovers, ours, _, _, hours, hs, ht, Sample.gapped_within_gapless, by decide +kernel, hsix,
    ?_⟩
  intro hgapless
  have hcontains := (hmissed (.inl Sample.gapped_within_gapless) "a" 6 (by decide +kernel)
    (by decide)).2 hgapless
  rw [hsix] at hcontains
  cases hcontains

/-! Sets of different hosts are compared as well, by numbers that have nothing to do with each
other. -/
example : covers gtidRanking ⟨[⟨"commerce", "-80", "a:1-10"⟩]⟩ ⟨[⟨"commerce", "-80", "b:1-3"⟩]⟩ =
    .ok true := by decide +kernel

end Vgtid

end ShardStream

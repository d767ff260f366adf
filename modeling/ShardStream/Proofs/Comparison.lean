import ShardStream.Proofs.Coverage

/-! # Comparing positions shard by shard

Two positions are compared in two ways. One of them covers the other if it ranks no shard of the
other below its rank there, and shards that go back are listed when one position follows the other.
Covering is transitive. Where every positional entry can be ranked and no shard is lost, a position
covers the one before it just if no shard is listed.
-/
namespace ShardStream

namespace Vgtid

variable {ranking : Ranking} {a b c v new prev : Vgtid} {p : ShardPosition}

/-- The shards of the entries, in their order. -/
def shards (v : Vgtid) : List (String × String) := v.entries.map fun p => (p.keyspace, p.shard)

/-- The rank of a shard, if its entry is positional and can be ranked. -/
def rankOf? (ranking : Ranking) (v : Vgtid) (shard : String × String) : Option Rank :=
  (v.positional? shard.1 shard.2).bind fun p => (ranking p.gtid).toOption

/-- The shard has a rank in both positions, and the later one is the lower. -/
def FallsBack (ranking : Ranking) (prev new : Vgtid) (shard : String × String) : Prop :=
  ∃ now before, new.rankOf? ranking shard = some now ∧ prev.rankOf? ranking shard = some before ∧
    now < before

/-- Every positional entry can be ranked. -/
def Ranked (ranking : Ranking) (v : Vgtid) : Prop :=
  ∀ p ∈ v.entries, p.isPositional = true → ∃ r, ranking p.gtid = .ok r

theorem rankOf?_eq_some_iff {shard : String × String} {r : Rank} :
    v.rankOf? ranking shard = some r ↔
      ∃ p, v.positional? shard.1 shard.2 = some p ∧ ranking p.gtid = .ok r := by
  unfold rankOf?
  rw [Option.bind_eq_some_iff]
  refine exists_congr fun p => and_congr_right fun _ => ?_
  cases ranking p.gtid <;> simp [Except.toOption]

theorem of_positional?_eq_some {keyspace shard : String}
    (h : v.positional? keyspace shard = some p) : p ∈ v.entries ∧ p.isPositional = true ∧
      p.keyspace = keyspace ∧ p.shard = shard := by
  obtain ⟨hget, hpos⟩ := positional?_eq_some_iff.1 h
  obtain ⟨hp, hkeyspace, hshard⟩ := of_get?_eq_some hget
  exact ⟨hp, hpos, hkeyspace, hshard⟩

theorem NamesOnce.positional?_of_mem (hv : v.NamesOnce) (hp : p ∈ v.entries)
    (hpos : p.isPositional = true) : v.positional? p.keyspace p.shard = some p :=
  positional?_eq_some_iff.2 ⟨hv.get?_of_mem hp, hpos⟩

/-- What covers a position covers all that this position covers. -/
theorem covers_trans (hab : a.covers ranking b = .ok true) (hbc : b.covers ranking c = .ok true) :
    a.covers ranking c = .ok true := by
  rw [covers_true_iff] at hab hbc ⊢
  intro p hp hpos
  obtain ⟨q, rankQ, rankP, hq, hrankQ, hrankP, hpq⟩ := reaches_true_iff.1 (hbc p hp hpos)
  obtain ⟨hmem, hqpos, hkeyspace, hshard⟩ := of_positional?_eq_some hq
  obtain ⟨ours, here, rankQ', hours, hhere, hrankQ', hle⟩ := reaches_true_iff.1 (hab q hmem hqpos)
  rw [hkeyspace, hshard] at hours
  obtain rfl : rankQ' = rankQ := Except.ok.inj (hrankQ'.symm.trans hrankQ)
  exact reaches_true_iff.2 ⟨ours, here, rankP, hours, hhere, hrankP, BitVec.le_trans hpq hle⟩

theorem isBehind_iff (hnew : new.NamesOnce) (hp : p ∈ new.entries) :
    isBehind ranking prev p = true ↔ FallsBack ranking prev new (p.keyspace, p.shard) := by
  unfold FallsBack isBehind
  simp only [rankOf?_eq_some_iff]
  constructor
  · intro h
    obtain ⟨hpos, h⟩ := Bool.and_eq_true_iff.1 h
    cases hbefore : prev.positional? p.keyspace p.shard with
    | none => simp [hbefore] at h
    | some before =>
      cases hnow : ranking p.gtid with
      | error f => simp [hbefore, hnow] at h
      | ok now =>
        cases hthen : ranking before.gtid with
        | error f => simp [hbefore, hnow, hthen] at h
        | ok past =>
          have hlt : now < past := by simpa [hbefore, hnow, hthen] using h
          exact ⟨now, past, ⟨p, hnew.positional?_of_mem hp hpos, hnow⟩, ⟨before, rfl, hthen⟩, hlt⟩
  · rintro ⟨now, past, ⟨q, hq, hnow⟩, ⟨before, hbefore, hthen⟩, hlt⟩
    obtain rfl : q = p := by
      have hget := (positional?_eq_some_iff.1 hq).1
      exact Option.some.inj (hget.symm.trans (hnew.get?_of_mem hp))
    have hpos := (positional?_eq_some_iff.1 hq).2
    simp [hpos, hbefore, hnow, hthen, hlt]

theorem FallsBack.mem_shards {shard : String × String} (h : FallsBack ranking prev new shard) :
    shard ∈ new.shards := by
  obtain ⟨now, -, hnow, -⟩ := h
  obtain ⟨p, hp, -⟩ := rankOf?_eq_some_iff.1 hnow
  obtain ⟨hmem, -, hkeyspace, hshard⟩ := of_positional?_eq_some hp
  exact List.mem_map.2 ⟨p, hmem, Prod.ext hkeyspace hshard⟩

/-- The shards that are listed are those that fall back, in the order of the later position. -/
theorem exists_regressions (ranking : Ranking) (prev : Vgtid) (hnew : new.NamesOnce) :
    ∃ back : List (String × String), back.Sublist new.shards ∧
      (∀ shard, shard ∈ back ↔ FallsBack ranking prev new shard) ∧
      regressions ranking prev new = back.map fun shard => shard.1 ++ "/" ++ shard.2 := by
  let behind := new.entries.filter (isBehind ranking prev)
  refine ⟨behind.map fun p => (p.keyspace, p.shard), ?_, ?_, ?_⟩
  · exact List.filter_sublist.map _
  · intro shard
    rw [List.mem_map]
    constructor
    · rintro ⟨p, hp, rfl⟩
      obtain ⟨hmem, hbehind⟩ := List.mem_filter.1 hp
      exact (isBehind_iff hnew hmem).1 hbehind
    · intro h
      obtain ⟨p, hmem, rfl⟩ := List.mem_map.1 h.mem_shards
      exact ⟨p, List.mem_filter.2 ⟨hmem, (isBehind_iff hnew hmem).2 h⟩, rfl⟩
  · rw [List.map_map]
    rfl

theorem reachesAll_isOk {ps : List ShardPosition}
    (h : ∀ p ∈ ps, ∃ reached, v.reaches ranking p = .ok reached) :
    ∃ answer, v.reachesAll ranking ps = .ok answer := by
  induction ps with
  | nil => exact ⟨true, rfl⟩
  | cons p rest ih =>
    obtain ⟨⟨reached, hp⟩, hrest⟩ := List.forall_mem_cons.1 h
    rw [reachesAll, hp]
    cases reached with
    | false => exact ⟨false, rfl⟩
    | true => exact ih hrest

/-- A position that can be ranked throughout answers whether it covers another such position. -/
theorem Ranked.covers_isOk (hv : v.Ranked ranking) (hother : b.Ranked ranking) :
    ∃ answer, v.covers ranking b = .ok answer := by
  refine reachesAll_isOk ?_
  intro p hp
  obtain ⟨hmem, hpos⟩ := List.mem_filter.1 hp
  obtain ⟨there, hthere⟩ := hother p hmem hpos
  unfold reaches
  cases hours : v.positional? p.keyspace p.shard with
  | none => exact ⟨false, rfl⟩
  | some ours =>
    obtain ⟨hours, hpos, -⟩ := of_positional?_eq_some hours
    obtain ⟨here, hhere⟩ := hv ours hours hpos
    exact ⟨decide (there ≤ here), by simp [hhere, hthere, bind, Except.bind, pure, Except.pure]⟩

theorem covers_iff_not_fallsBack (hprev : prev.NamesOnce) (hnewRanked : new.Ranked ranking)
    (hprevRanked : prev.Ranked ranking)
    (hkept : ∀ p ∈ prev.entries, p.isPositional = true →
      (new.positional? p.keyspace p.shard).isSome = true) :
    new.covers ranking prev = .ok true ↔ ∀ shard, ¬ FallsBack ranking prev new shard := by
  simp only [covers_true_iff, reaches_true_iff]
  constructor
  · rintro h shard ⟨now, before, hnow, hbefore, hlt⟩
    obtain ⟨q, hq, hnow⟩ := rankOf?_eq_some_iff.1 hnow
    obtain ⟨p, hp, hbefore⟩ := rankOf?_eq_some_iff.1 hbefore
    obtain ⟨hmem, hpos, hkeyspace, hshard⟩ := of_positional?_eq_some hp
    obtain ⟨ours, here, there, hours, hhere, hthere, hle⟩ := h p hmem hpos
    rw [hkeyspace, hshard, hq] at hours
    obtain rfl := Option.some.inj hours
    obtain rfl : now = here := Except.ok.inj (hnow.symm.trans hhere)
    obtain rfl : before = there := Except.ok.inj (hbefore.symm.trans hthere)
    exact BitVec.not_lt.2 hle hlt
  · intro h p hp hpos
    obtain ⟨q, hq⟩ := Option.isSome_iff_exists.1 (hkept p hp hpos)
    obtain ⟨hmem, hqpos, -⟩ := of_positional?_eq_some hq
    obtain ⟨now, hnow⟩ := hnewRanked q hmem hqpos
    obtain ⟨before, hbefore⟩ := hprevRanked p hp hpos
    refine ⟨q, now, before, hq, hnow, hbefore, BitVec.not_lt.1 fun hlt => ?_⟩
    exact h (p.keyspace, p.shard) ⟨now, before, rankOf?_eq_some_iff.2 ⟨q, hq, hnow⟩,
      rankOf?_eq_some_iff.2 ⟨p, hprev.positional?_of_mem hp hpos, hbefore⟩, hlt⟩

/-- The list of shards that go back and the decision whether a position covers another agree. What
is listed are the shards that rank lower than before, in the order of the later position. Where each
shard has one entry, all positional entries can be ranked and each shard that was positional still
is, there is an answer, and it is yes just if nothing is listed. -/
theorem regressions_agree_with_covers (ranking : Ranking) (prev : Vgtid) (hnew : new.NamesOnce) :
    (∃ back : List (String × String), back.Sublist new.shards ∧
        (∀ shard, shard ∈ back ↔ FallsBack ranking prev new shard) ∧
        regressions ranking prev new = back.map fun shard => shard.1 ++ "/" ++ shard.2) ∧
      (prev.NamesOnce → new.Ranked ranking → prev.Ranked ranking →
        (∀ p ∈ prev.entries, p.isPositional = true →
          (new.positional? p.keyspace p.shard).isSome = true) →
        (∃ answer, new.covers ranking prev = .ok answer) ∧
          (new.covers ranking prev = .ok true ↔ regressions ranking prev new = [])) := by
  obtain ⟨back, hsublist, hmem, hlist⟩ := exists_regressions ranking prev hnew
  refine ⟨⟨back, hsublist, hmem, hlist⟩, ?_⟩
  intro hprev hnewRanked hprevRanked hkept
  refine ⟨hnewRanked.covers_isOk hprevRanked, ?_⟩
  rw [covers_iff_not_fallsBack hprev hnewRanked hprevRanked hkept, hlist, List.map_eq_nil_iff,
    List.eq_nil_iff_forall_not_mem]
  exact forall_congr' fun shard => not_congr (hmem shard).symm

end Vgtid

namespace Sample

def twoShards : Vgtid :=
  ⟨[⟨"commerce", "-80", "a:1-5"⟩, ⟨"commerce", "80-", "b:1-7"⟩, ⟨"customer", "0", "current"⟩]⟩

/-- One shard has gone forward and one back, and a third has become positional. -/
def threeShards : Vgtid :=
  ⟨[⟨"customer", "0", "c:4"⟩, ⟨"commerce", "80-", "b:1-3"⟩, ⟨"commerce", "-80", "a:1-6"⟩]⟩

theorem ranked_twoShards : twoShards.Ranked gtidRanking := by
  intro p hp hpos
  simp only [twoShards, List.mem_cons, List.not_mem_nil, or_false] at hp
  rcases hp with rfl | rfl | rfl
  · exact ⟨5, by decide +kernel⟩
  · exact ⟨7, by decide +kernel⟩
  · exact absurd hpos (by decide)

theorem ranked_threeShards : threeShards.Ranked gtidRanking := by
  intro p hp _
  simp only [threeShards, List.mem_cons, List.not_mem_nil, or_false] at hp
  rcases hp with rfl | rfl | rfl
  · exact ⟨4, by decide +kernel⟩
  · exact ⟨3, by decide +kernel⟩
  · exact ⟨6, by decide +kernel⟩

end Sample

namespace Vgtid

/-- One of two shards goes back. It is listed, and the position before is not covered. -/
theorem shard_that_goes_back_is_not_covered :
    Sample.threeShards.NamesOnce ∧ Sample.twoShards.NamesOnce ∧
      Sample.threeShards.Ranked gtidRanking ∧ Sample.twoShards.Ranked gtidRanking ∧
      regressions gtidRanking Sample.twoShards Sample.threeShards = ["commerce/80-"] ∧
      Sample.threeShards.covers gtidRanking Sample.twoShards = .ok false := by
  have hnew : Sample.threeShards.NamesOnce := by decide
  have hprev : Sample.twoShards.NamesOnce := by decide
  have hlist : regressions gtidRanking Sample.twoShards Sample.threeShards = ["commerce/80-"] := by
    decide +kernel
  obtain ⟨-, hagree⟩ := regressions_agree_with_covers gtidRanking Sample.twoShards hnew
  obtain ⟨⟨answer, hanswer⟩, hiff⟩ :=
    hagree hprev Sample.ranked_threeShards Sample.ranked_twoShards (by decide)
  refine ⟨hnew, hprev, Sample.ranked_threeShards, Sample.ranked_twoShards, hlist, ?_⟩
  cases answer with
  | false => exact hanswer
  | true =>
    have hnil := hiff.1 hanswer
    rw [hlist] at hnil
    cases hnil

end Vgtid

end ShardStream

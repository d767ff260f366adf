import Mathlib.Data.List.Chain
import ShardStream.Proofs.EpochHistory
import ShardStream.Proofs.Gtid.Growth

/-! # Orders along a shard

A transaction goes on from the one before it on its shard if its set has everything that was
executed before, or else lacks a host. While the hosts stay, the epoch stays and the sets grow, so
the ranks do not fall. When a host is lost the rank may fall to anything, but the epoch rises. So
orders never go back on a shard, whatever is ordered on other shards in between.
-/
namespace ShardStream

namespace TransactionOrder

variable {a b : TransactionOrder}

theorem le_of_epoch_eq (hepoch : a.epoch = b.epoch) (hrank : a.rank ≤ b.rank) : a ≤ b := by
  by_cases heq : a.rank = b.rank
  · right
    cases a
    cases b
    cases hepoch
    cases heq
    rfl
  · left
    right
    exact ⟨hepoch, BitVec.lt_of_le_ne hrank heq⟩

end TransactionOrder

namespace GtidSet

variable {s t u : GtidSet} {sets : List GtidSet}

/-- The set has everything of the set before, or lacks one of its hosts. -/
def Follows (before s : GtidSet) : Prop := before.Within s ∨ ¬ before.hosts.keys ⊆ s.hosts.keys

theorem Within.trans (hst : s.Within t) (htu : t.Within u) : s.Within u :=
  fun host n hn => htu host n (hst host n hn)

theorem hostDrops_eq_zero_iff :
    hostDrops sets = 0 ↔ sets.IsChain fun before s => before.hosts.keys ⊆ s.hosts.keys := by
  induction sets with
  | nil => exact iff_of_true rfl .nil
  | cons before rest ih =>
    cases rest with
    | nil => exact iff_of_true rfl (.singleton before)
    | cons s rest =>
      rw [List.isChain_cons_cons, ← ih, hostDrops, Nat.add_eq_zero_iff]
      simp

/-- As long as no host is lost, the first set is within all later ones. -/
theorem within_of_hostDrops_eq_zero (hfollows : (s :: sets).IsChain Follows)
    (hkept : hostDrops (s :: sets) = 0) (ht : t ∈ sets) : s.Within t := by
  induction sets generalizing s with
  | nil => cases ht
  | cons u rest ih =>
    rw [hostDrops_eq_zero_iff, List.isChain_cons_cons] at hkept
    rw [List.isChain_cons_cons] at hfollows
    obtain ⟨hhosts, hkept⟩ := hkept
    obtain ⟨hfollow, hfollows⟩ := hfollows
    have hsu : s.Within u := hfollow.resolve_right (not_not_intro hhosts)
    rcases List.mem_cons.1 ht with rfl | ht
    · exact hsu
    · exact hsu.trans (ih hfollows (hostDrops_eq_zero_iff.2 hkept) ht)

end GtidSet

namespace OrderCall

/-- A transaction that has everything of another one ranks as high. -/
theorem rank_le {c c' : OrderCall} {s s' : GtidSet} {r r' : Rank}
    (hset : c.set? gtidRanking = some s) (hset' : c'.set? gtidRanking = some s')
    (hrank : gtidRanking c.id = .ok r) (hrank' : gtidRanking c'.id = .ok r')
    (hwithin : s.Within s') (hsize : c'.id.utf8ByteSize < 2 ^ 64) : r ≤ r' := by
  obtain ⟨-, hs⟩ := set?_eq_some_iff.1 hset
  obtain ⟨-, hs'⟩ := set?_eq_some_iff.1 hset'
  obtain ⟨t, ht, -, rfl⟩ := parse_of_gtidRanking hrank
  obtain ⟨t', ht', -, rfl⟩ := parse_of_gtidRanking hrank'
  rw [hs] at ht
  rw [hs'] at ht'
  cases ht
  cases ht'
  exact (Rank.ofSet_le_ofSet (GtidSet.isProper_of_parse hs) (GtidSet.isProper_of_parse hs') hwithin
    (size_hosts_le hs' hsize)).1

end OrderCall

/-- The sets on a shard from one transaction to a later one. -/
theorem setsOn_between {ranking : Ranking} {c c' : OrderCall} {s s' : GtidSet}
    (hset : c.set? ranking = some s) (hset' : c'.set? ranking = some s')
    (hshard : c'.shard = c.shard) (ys : List OrderCall) :
    setsOn ranking none (c :: ys ++ [c']) c.shard =
      s :: (setsOn ranking none ys c.shard ++ [s']) := by
  simp [setsOn, hset, hset', hshard]

namespace Epochs

variable {e after after' : Epochs} {xs ys : List OrderCall} {c c' : OrderCall}
  {o o' : TransactionOrder} {notices notices' : List Notice}

/-- From one transaction to a later one the epoch rises with each host that is lost. -/
theorem epoch_of_later {ranking : Ranking} (hshard : c'.shard = c.shard)
    (hfit : (e.current.getD c.shard 0).toNat + hostDrops (setsOn ranking
      (e.previous.get? c.shard) (xs ++ (c :: ys ++ [c'])) c.shard) < UInt64.size)
    (ho : (e.afterAll ranking xs).order ranking c.shard c.id = .ok (o, after, notices))
    (ho' : (e.afterAll ranking (xs ++ c :: ys)).order ranking c'.shard c'.id =
      .ok (o', after', notices')) :
    o'.epoch.toNat =
      o.epoch.toNat + hostDrops (setsOn ranking none (c :: ys ++ [c']) c.shard) := by
  obtain ⟨s, hset, -, hepoch⟩ := order_afterAll ho
  obtain ⟨s', hset', -, hepoch'⟩ := order_afterAll ho'
  have hbetween := setsOn_between hset hset' hshard ys
  have hto : setsOn ranking (e.previous.get? c.shard) (xs ++ [c]) c.shard =
      setsOn ranking (e.previous.get? c.shard) xs c.shard ++ [s] := by
    rw [setsOn_concat, if_pos rfl, hset, Option.toList_some]
  have hdrops : hostDrops (setsOn ranking (e.previous.get? c.shard) (xs ++ (c :: ys ++ [c']))
      c.shard) = hostDrops (setsOn ranking (e.previous.get? c.shard) (xs ++ [c]) c.shard) +
        hostDrops (setsOn ranking none (c :: ys ++ [c']) c.shard) := by
    rw [setsOn_append, hto, hbetween, hostDrops_append_cons]
  have hnat : o.epoch.toNat = (e.current.getD c.shard 0).toNat +
      hostDrops (setsOn ranking (e.previous.get? c.shard) (xs ++ [c]) c.shard) := by
    rw [hepoch, counted_toNat]
    omega
  have hnat' : o'.epoch.toNat = (e.current.getD c.shard 0).toNat + hostDrops (setsOn ranking
      (e.previous.get? c.shard) (xs ++ (c :: ys ++ [c'])) c.shard) := by
    rw [hepoch', hshard, List.append_assoc, counted_toNat hfit]
  omega

/-- Orders never go back on a shard on which each transaction goes on from the one before it. They
rise if a host is lost on the way. The later identifier is one that fits a memory of 64-bit
addresses. -/
theorem orders_never_go_back (e : Epochs) (xs ys zs : List OrderCall) (c c' : OrderCall)
    (hshard : c'.shard = c.shard)
    (hfollows :
      (setsOn gtidRanking none (xs ++ c :: ys ++ c' :: zs) c.shard).IsChain GtidSet.Follows)
    (hfit : (e.current.getD c.shard 0).toNat + hostDrops (setsOn gtidRanking
      (e.previous.get? c.shard) (xs ++ c :: ys ++ c' :: zs) c.shard) < UInt64.size)
    (hsize : c'.id.utf8ByteSize < 2 ^ 64) {o o' : TransactionOrder} {after after' : Epochs}
    {notices notices' : List Notice}
    (ho : (e.afterAll gtidRanking xs).order gtidRanking c.shard c.id = .ok (o, after, notices))
    (ho' : (e.afterAll gtidRanking (xs ++ c :: ys)).order gtidRanking c'.shard c'.id =
      .ok (o', after', notices')) :
    o ≤ o' ∧
      (0 < hostDrops (setsOn gtidRanking none (c :: ys ++ [c']) c.shard) → o < o') := by
  have hlist : xs ++ c :: ys ++ c' :: zs = xs ++ (c :: ys ++ [c']) ++ zs := by simp
  rw [hlist, setsOn_append] at hfit
  rw [hlist, setsOn_append, setsOn_append] at hfollows
  have hall := hostDrops_le_append (setsOn gtidRanking (e.previous.get? c.shard)
    (xs ++ (c :: ys ++ [c'])) c.shard) (setsOn gtidRanking none zs c.shard)
  have hrise := epoch_of_later hshard (by omega) ho ho'
  have hrises : 0 < hostDrops (setsOn gtidRanking none (c :: ys ++ [c']) c.shard) → o < o' := by
    intro hpos
    left
    rw [UInt64.lt_iff_toNat_lt]
    omega
  refine ⟨?_, hrises⟩
  rcases Nat.eq_zero_or_pos (hostDrops (setsOn gtidRanking none (c :: ys ++ [c']) c.shard)) with
    hkept | hpos
  · obtain ⟨s, hset, hrank, -⟩ := order_afterAll ho
    obtain ⟨s', hset', hrank', -⟩ := order_afterAll ho'
    have hchain := hfollows.left_of_append.right_of_append
    have hepoch : o.epoch = o'.epoch := by
      rw [← UInt64.toNat_inj]
      omega
    rw [setsOn_between hset hset' hshard] at hchain hkept
    have hwithin : s.Within s' :=
      GtidSet.within_of_hostDrops_eq_zero hchain hkept (List.mem_append_right _ List.mem_cons_self)
    exact TransactionOrder.le_of_epoch_eq hepoch
      (OrderCall.rank_le hset hset' hrank hrank' hwithin hsize)
  · left
    exact hrises hpos

end Epochs

namespace Sample

/-- One shard fills a gap and then moves to another host. A transaction of the other shard comes in
between. -/
def movingCalls : List OrderCall :=
  [⟨"-80", "a:1-5:7"⟩, ⟨"80-", "b:1"⟩, ⟨"-80", "a:1-7"⟩, ⟨"-80", "b:1-3"⟩]

def moved : GtidSet := ofHost "b" [⟨1, 3⟩]

theorem setsOn_movingCalls :
    setsOn gtidRanking none movingCalls "-80" = [gapped, gapless, moved] := by
  have hgapped : OrderCall.set? gtidRanking ⟨"-80", "a:1-5:7"⟩ = some gapped :=
    OrderCall.set?_eq_some_iff.2
      ⟨⟨_, gtidRanking_of_parse parse_gapped (by decide +kernel)⟩, parse_gapped⟩
  have hgapless : OrderCall.set? gtidRanking ⟨"-80", "a:1-7"⟩ = some gapless := by decide +kernel
  have hmoved : OrderCall.set? gtidRanking ⟨"-80", "b:1-3"⟩ = some moved := by decide +kernel
  simp [setsOn, movingCalls, hgapped, hgapless, hmoved]

end Sample

namespace Epochs

/-- The rank falls from 7 to 3, but a host is lost, so the order rises. -/
theorem order_rises_with_lost_host :
    ∃ o o' after after' notices notices',
      fresh.order gtidRanking "-80" "a:1-5:7" = .ok (o, after, notices) ∧
      (fresh.afterAll gtidRanking (Sample.movingCalls.take 3)).order gtidRanking "-80" "b:1-3" =
        .ok (o', after', notices') ∧ o'.rank < o.rank ∧ o < o' := by
  have ho := order_of_ok fresh "-80"
    (gtidRanking_of_parse Sample.parse_gapped (by decide +kernel)) Sample.parse_gapped
  have hmoved : GtidSet.parse "b:1-3" = .ok Sample.moved := by decide +kernel
  have ho' := order_of_ok (fresh.afterAll gtidRanking (Sample.movingCalls.take 3)) "-80"
    (gtidRanking_of_parse hmoved (by decide +kernel)) hmoved
  have hlost : ¬ Sample.gapless.hosts.keys ⊆ Sample.moved.hosts.keys := by decide +kernel
  have hfollows : (setsOn gtidRanking none Sample.movingCalls "-80").IsChain GtidSet.Follows := by
    rw [Sample.setsOn_movingCalls, List.isChain_cons_cons, List.isChain_cons_cons]
    exact ⟨.inl Sample.gapped_within_gapless, .inr hlost, .singleton _⟩
  have hdrops : hostDrops (setsOn gtidRanking none Sample.movingCalls "-80") = 1 := by
    rw [Sample.setsOn_movingCalls]
    decide +kernel
  have hpos : 0 < hostDrops (setsOn gtidRanking none Sample.movingCalls "-80") := by omega
  refine ⟨_, _, _, _, _, _, ho, ho', by decide +kernel, ?_⟩
  refine (orders_never_go_back fresh [] ((Sample.movingCalls.take 3).drop 1) []
    ⟨"-80", "a:1-5:7"⟩ ⟨"-80", "b:1-3"⟩ rfl hfollows ?_ (by decide +kernel) ho ho').2 hpos
  exact Nat.lt_of_le_of_lt (Nat.le_of_eq (congrArg _ hdrops)) (by decide)

end Epochs

end ShardStream

import ShardStream.Proofs.Comparison

/-! # Moving one shard

A position is a map from shards to GTIDs that is kept as a list of entries. Moving a shard replaces
the GTID of its first entry, or appends an entry where there is none, so what is found for the other
shards stays and the last of two moves of one shard counts. Moves of two shards can change places
unless both would append. A shard that moves forward leaves a position that covers the one before.
-/
namespace ShardStream

/-- The keyspace and the name of the shard that the entry is for. -/
def ShardPosition.key (p : ShardPosition) : String × String := (p.keyspace, p.shard)

theorem ShardPosition.key_mk (shard : String × String) (gtid : String) :
    (⟨shard.1, shard.2, gtid⟩ : ShardPosition).key = shard := rfl

namespace Vgtid

/-- The first entry of the shard takes the GTID, or else an entry is appended; all other entries
stay as they are and in their order. -/
inductive Moves (shard : String × String) (gtid : String) :
    List ShardPosition → List ShardPosition → Prop
  | first {before after : List ShardPosition} {p : ShardPosition}
      (hbefore : ∀ q ∈ before, q.key ≠ shard) (hp : p.key = shard) :
      Moves shard gtid (before ++ p :: after) (before ++ ⟨shard.1, shard.2, gtid⟩ :: after)
  | appended {ps : List ShardPosition} (habsent : ∀ q ∈ ps, q.key ≠ shard) :
      Moves shard gtid ps (ps ++ [⟨shard.1, shard.2, gtid⟩])

variable {ranking : Ranking} {v : Vgtid} {p : ShardPosition} {ps qs : List ShardPosition}
  {shard other key : String × String} {gtid gtid' : String}

theorem isFor_iff_key : p.isFor shard.1 shard.2 = true ↔ p.key = shard := by
  rw [isFor_iff, ShardPosition.key, Prod.ext_iff]

theorem Moves.cons_other (h : Moves shard gtid ps qs) (hp : p.key ≠ shard) :
    Moves shard gtid (p :: ps) (p :: qs) := by
  cases h with
  | first hbefore hfirst => exact .first (List.forall_mem_cons.2 ⟨hp, hbefore⟩) hfirst
  | appended habsent => exact .appended (List.forall_mem_cons.2 ⟨hp, habsent⟩)

theorem move_cons_self (hp : p.key = shard) (rest : List ShardPosition) :
    move shard.1 shard.2 gtid (p :: rest) = ⟨shard.1, shard.2, gtid⟩ :: rest := by
  rw [move, if_pos (isFor_iff_key.2 hp)]
  subst hp
  rfl

theorem move_cons_other (hp : p.key ≠ shard) (rest : List ShardPosition) :
    move shard.1 shard.2 gtid (p :: rest) = p :: move shard.1 shard.2 gtid rest := by
  rw [move, if_neg (mt isFor_iff_key.1 hp)]

theorem moves_move (shard : String × String) (gtid : String) (ps : List ShardPosition) :
    Moves shard gtid ps (move shard.1 shard.2 gtid ps) := by
  have hnone : ∀ q ∈ ([] : List ShardPosition), q.key ≠ shard := nofun
  induction ps with
  | nil => exact .appended hnone
  | cons p rest ih =>
    by_cases hp : p.key = shard
    · rw [move_cons_self hp]
      exact .first hnone hp
    · rw [move_cons_other hp]
      exact ih.cons_other hp

theorem find?_cons_self (hp : p.key = key) (rest : List ShardPosition) :
    (p :: rest).find? (·.isFor key.1 key.2) = some p :=
  List.find?_cons_of_pos (isFor_iff_key.2 hp)

theorem find?_cons_other (hp : p.key ≠ key) (rest : List ShardPosition) :
    (p :: rest).find? (·.isFor key.1 key.2) = rest.find? (·.isFor key.1 key.2) :=
  List.find?_cons_of_neg (mt isFor_iff_key.1 hp)

theorem find?_move (shard : String × String) (gtid : String) (key : String × String)
    (ps : List ShardPosition) :
    (move shard.1 shard.2 gtid ps).find? (·.isFor key.1 key.2) =
      if key = shard then some ⟨shard.1, shard.2, gtid⟩ else ps.find? (·.isFor key.1 key.2) := by
  induction ps with
  | nil =>
    split_ifs with hkey
    · exact find?_cons_self ((ShardPosition.key_mk shard gtid).trans hkey.symm) []
    · exact find?_cons_other ((ShardPosition.key_mk shard gtid).trans_ne (Ne.symm hkey)) []
  | cons p rest ih =>
    by_cases hp : p.key = shard
    · rw [move_cons_self hp]
      split_ifs with hkey
      · exact find?_cons_self ((ShardPosition.key_mk shard gtid).trans hkey.symm) rest
      · rw [find?_cons_other (hp.trans_ne (Ne.symm hkey)),
          find?_cons_other ((ShardPosition.key_mk shard gtid).trans_ne (Ne.symm hkey))]
    · rw [move_cons_other hp]
      by_cases hpkey : p.key = key
      · rw [find?_cons_self hpkey, find?_cons_self hpkey, if_neg (hpkey ▸ hp)]
      · rw [find?_cons_other hpkey, find?_cons_other hpkey, ih]

theorem Moves.keys_eq (h : Moves shard gtid ps qs) :
    qs.map (·.key) =
      if shard ∈ ps.map (·.key) then ps.map (·.key) else ps.map (·.key) ++ [shard] := by
  cases h with
  | @first before after p _ hp =>
    have hmem : shard ∈ (before ++ p :: after).map (·.key) :=
      List.mem_map.2 ⟨p, List.mem_append_right _ List.mem_cons_self, hp⟩
    rw [if_pos hmem, List.map_append, List.map_append, List.map_cons, List.map_cons, hp]
    rfl
  | appended habsent =>
    have hnot : shard ∉ ps.map (·.key) := by
      rw [List.mem_map]
      rintro ⟨q, hq, hkey⟩
      exact habsent q hq hkey
    rw [if_neg hnot, List.map_append]
    rfl

theorem Moves.eq_or_mem (h : Moves shard gtid ps qs) (hp : p ∈ qs) :
    p = ⟨shard.1, shard.2, gtid⟩ ∨ p ∈ ps := by
  cases h with
  | first _ _ =>
    rcases List.mem_append.1 hp with hp | hp
    · exact .inr (List.mem_append_left _ hp)
    · rcases List.mem_cons.1 hp with hp | hp
      · exact .inl hp
      · exact .inr (List.mem_append_right _ (List.mem_cons_of_mem _ hp))
  | appended _ =>
    rcases List.mem_append.1 hp with hp | hp
    · exact .inr hp
    · exact .inl (List.mem_singleton.1 hp)

theorem move_move (shard : String × String) (gtid gtid' : String) (ps : List ShardPosition) :
    move shard.1 shard.2 gtid' (move shard.1 shard.2 gtid ps) = move shard.1 shard.2 gtid' ps := by
  induction ps with
  | nil => exact move_cons_self (ShardPosition.key_mk shard gtid) []
  | cons p rest ih =>
    by_cases hp : p.key = shard
    · rw [move_cons_self hp, move_cons_self hp, move_cons_self (ShardPosition.key_mk shard gtid)]
    · rw [move_cons_other hp, move_cons_other hp, move_cons_other hp, ih]

/-- At most one of the two moves appends. -/
theorem move_comm (hne : shard ≠ other)
    (hmem : shard ∈ ps.map (·.key) ∨ other ∈ ps.map (·.key)) :
    move other.1 other.2 gtid' (move shard.1 shard.2 gtid ps) =
      move shard.1 shard.2 gtid (move other.1 other.2 gtid' ps) := by
  induction ps with
  | nil => simp at hmem
  | cons p rest ih =>
    by_cases hshard : p.key = shard
    -- One move stops at this entry, and the other passes over it, whether moved or not.
    · have hother : p.key ≠ other := hshard.trans_ne hne
      rw [move_cons_self hshard, move_cons_other hother, move_cons_self hshard]
      exact move_cons_other ((ShardPosition.key_mk shard gtid).trans_ne hne) _
    by_cases hother : p.key = other
    · rw [move_cons_other hshard, move_cons_self hother, move_cons_self hother]
      exact (move_cons_other ((ShardPosition.key_mk other gtid').trans_ne hne.symm) _).symm
    rw [move_cons_other hshard, move_cons_other hother, move_cons_other hother,
      move_cons_other hshard]
    simp only [List.map_cons, List.mem_cons, Ne.symm hshard, Ne.symm hother, false_or] at hmem
    rw [ih hmem]

theorem get?_set (v : Vgtid) (shard : String × String) (gtid : String) (key : String × String) :
    (v.set shard.1 shard.2 gtid).get? key.1 key.2 =
      if key = shard then some ⟨shard.1, shard.2, gtid⟩ else v.get? key.1 key.2 :=
  find?_move shard gtid key v.entries

theorem get?_set_comm (v : Vgtid) (gtid gtid' : String) (hne : shard ≠ other)
    (key : String × String) :
    ((v.set shard.1 shard.2 gtid).set other.1 other.2 gtid').get? key.1 key.2 =
      ((v.set other.1 other.2 gtid').set shard.1 shard.2 gtid).get? key.1 key.2 := by
  rw [get?_set, get?_set, get?_set, get?_set]
  by_cases hother : key = other
  · rw [if_pos hother, if_pos hother, if_neg (hother.trans_ne hne.symm)]
  · rw [if_neg hother, if_neg hother]

theorem NamesOnce.set (hv : v.NamesOnce) (shard : String × String) (gtid : String) :
    (v.set shard.1 shard.2 gtid).NamesOnce := by
  have hkeys := (moves_move shard gtid v.entries).keys_eq
  change ((move shard.1 shard.2 gtid v.entries).map (·.key)).Nodup
  rw [hkeys]
  split_ifs with hmem
  · exact hv
  · exact List.nodup_append.2 ⟨hv, List.nodup_singleton _, by simpa [List.mem_map] using hmem⟩

theorem positional?_set (v : Vgtid)
    (hpos : (⟨shard.1, shard.2, gtid⟩ : ShardPosition).isPositional = true)
    (key : String × String) :
    (v.set shard.1 shard.2 gtid).positional? key.1 key.2 =
      if key = shard then some ⟨shard.1, shard.2, gtid⟩ else v.positional? key.1 key.2 := by
  rw [positional?, get?_set]
  split_ifs with hkey
  · exact Option.filter_some_pos hpos
  · rfl

theorem Ranked.set {now : Rank} (hv : v.Ranked ranking) (shard : String × String)
    (hnow : ranking gtid = .ok now) : (v.set shard.1 shard.2 gtid).Ranked ranking := by
  intro p hp hpos
  rcases (moves_move shard gtid v.entries).eq_or_mem hp with rfl | hp
  · exact ⟨now, hnow⟩
  · exact hv p hp hpos

/-- Only the shard that moves could fall back. -/
theorem not_fallsBack_set {now : Rank}
    (hpos : (⟨shard.1, shard.2, gtid⟩ : ShardPosition).isPositional = true)
    (hnow : ranking gtid = .ok now)
    (hle : ∀ before, v.rankOf? ranking shard = some before → before ≤ now)
    (key : String × String) : ¬ FallsBack ranking v (v.set shard.1 shard.2 gtid) key := by
  rintro ⟨now', before, hnow', hbefore, hlt⟩
  rw [rankOf?, positional?_set v hpos] at hnow'
  by_cases hkey : key = shard
  · subst hkey
    rw [if_pos rfl, Option.bind_some, hnow] at hnow'
    obtain rfl : now = now' := Option.some.inj hnow'
    exact BitVec.not_lt.2 (hle before hbefore) hlt
  · rw [if_neg hkey] at hnow'
    obtain rfl : now' = before := Option.some.inj (hnow'.symm.trans hbefore)
    exact BitVec.lt_irrefl _ hlt

/-- A shard that moves to a rank not below its own leaves nothing behind. -/
theorem set_is_progress {now : Rank} (hv : v.NamesOnce) (hranked : v.Ranked ranking)
    (hpos : (⟨shard.1, shard.2, gtid⟩ : ShardPosition).isPositional = true)
    (hnow : ranking gtid = .ok now)
    (hle : ∀ before, v.rankOf? ranking shard = some before → before ≤ now) :
    (v.set shard.1 shard.2 gtid).covers ranking v = .ok true ∧
      regressions ranking v (v.set shard.1 shard.2 gtid) = [] := by
  have hback := not_fallsBack_set hpos hnow hle
  constructor
  · refine (covers_iff_not_fallsBack hv (hranked.set shard hnow) hranked ?_).2 hback
    intro p hp hppos
    rw [positional?_set v hpos (p.keyspace, p.shard)]
    split_ifs
    · rfl
    · rw [hv.positional?_of_mem hp hppos]
      rfl
  · obtain ⟨back, -, hmem, hlist⟩ := exists_regressions ranking v (hv.set shard gtid)
    have hnil : back = [] := by
      rw [List.eq_nil_iff_forall_not_mem]
      intro key hkey
      exact hback key ((hmem key).1 hkey)
    rw [hlist, hnil]
    rfl

/-- A position is a map from shards to entries, also where a shard has several: the shard that is
moved is found at its GTID and all others as before, the other entries stay in their order, the last
of two moves of a shard counts, moves of two shards give the same map in either order and the same
list unless both append, and no shard gets a second entry. Where the shard moves to a rank not below
its own, the position before is covered and no shard is listed as going back. -/
theorem set_behaves_as_map (ranking : Ranking) (v : Vgtid) (shard : String × String)
    (gtid : String) :
    (∀ key : String × String, (v.set shard.1 shard.2 gtid).get? key.1 key.2 =
        if key = shard then some ⟨shard.1, shard.2, gtid⟩ else v.get? key.1 key.2) ∧
      Moves shard gtid v.entries (v.set shard.1 shard.2 gtid).entries ∧
      (∀ gtid', (v.set shard.1 shard.2 gtid).set shard.1 shard.2 gtid' =
        v.set shard.1 shard.2 gtid') ∧
      (∀ (other : String × String) (gtid' : String), shard ≠ other →
        (∀ key : String × String,
          ((v.set shard.1 shard.2 gtid).set other.1 other.2 gtid').get? key.1 key.2 =
            ((v.set other.1 other.2 gtid').set shard.1 shard.2 gtid).get? key.1 key.2) ∧
        (shard ∈ v.shards ∨ other ∈ v.shards →
          (v.set shard.1 shard.2 gtid).set other.1 other.2 gtid' =
            (v.set other.1 other.2 gtid').set shard.1 shard.2 gtid)) ∧
      (v.NamesOnce → (v.set shard.1 shard.2 gtid).NamesOnce) ∧
      (v.NamesOnce → v.Ranked ranking →
        (⟨shard.1, shard.2, gtid⟩ : ShardPosition).isPositional = true →
        ∀ now, ranking gtid = .ok now →
        (∀ before, v.rankOf? ranking shard = some before → before ≤ now) →
        (v.set shard.1 shard.2 gtid).covers ranking v = .ok true ∧
          regressions ranking v (v.set shard.1 shard.2 gtid) = []) := by
  refine ⟨get?_set v shard gtid, moves_move shard gtid v.entries, ?_, ?_, ?_, ?_⟩
  · intro gtid'
    exact congrArg Vgtid.mk (move_move shard gtid gtid' v.entries)
  · intro other gtid' hne
    refine ⟨get?_set_comm v gtid gtid' hne, ?_⟩
    intro hmem
    exact congrArg Vgtid.mk (move_comm hne hmem)
  · intro hv
    exact hv.set shard gtid
  · intro hv hranked hpos now hnow hle
    exact set_is_progress hv hranked hpos hnow hle

/-- One of two shards goes forward while a shard that was not there is added, in either order. -/
theorem moved_shard_leaves_others :
    Sample.twoShards.NamesOnce ∧ Sample.twoShards.Ranked gtidRanking ∧
      Sample.twoShards.rankOf? gtidRanking ("commerce", "80-") = some 7 ∧
      gtidRanking "b:1-8" = .ok 8 ∧
      (Sample.twoShards.set "commerce" "80-" "b:1-8").covers gtidRanking Sample.twoShards =
        .ok true ∧
      regressions gtidRanking Sample.twoShards
        (Sample.twoShards.set "commerce" "80-" "b:1-8") = [] ∧
      (Sample.twoShards.set "commerce" "80-" "b:1-8").set "customer" "1" "c:4" =
        (Sample.twoShards.set "customer" "1" "c:4").set "commerce" "80-" "b:1-8" := by
  have hnames : Sample.twoShards.NamesOnce := by decide
  have hrank : Sample.twoShards.rankOf? gtidRanking ("commerce", "80-") = some 7 := by
    decide +kernel
  have hnow : gtidRanking "b:1-8" = .ok 8 := by decide +kernel
  obtain ⟨-, -, -, hcomm, -, hprogress⟩ :=
    set_behaves_as_map gtidRanking Sample.twoShards ("commerce", "80-") "b:1-8"
  have hle : ∀ before, Sample.twoShards.rankOf? gtidRanking ("commerce", "80-") = some before →
      before ≤ 8 := by
    intro before hbefore
    obtain rfl : 7 = before := Option.some.inj (hrank.symm.trans hbefore)
    decide
  obtain ⟨hcovers, hnone⟩ := hprogress hnames Sample.ranked_twoShards (by decide) 8 hnow hle
  obtain ⟨-, hlists⟩ := hcomm ("customer", "1") "c:4" (by decide)
  exact ⟨hnames, Sample.ranked_twoShards, hrank, hnow, hcovers, hnone, hlists (.inl (by decide))⟩

end Vgtid

end ShardStream

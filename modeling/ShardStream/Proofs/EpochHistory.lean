import ShardStream.Proofs.Epochs

/-! # What epochs count

The epoch of a shard is its stored epoch and one more for each transaction ordered on it that does
not name all hosts of the transaction before. The restart position stands for the transaction before
the first. What is ordered on other shards does not matter, and neither does what cannot be ordered.
-/
namespace ShardStream

/-- A transaction that is to be ordered on a shard. -/
structure OrderCall where
  shard : String
  id : String

/-- The set that a transaction is ordered by, if it can be ordered. -/
def OrderCall.set? (ranking : Ranking) (c : OrderCall) : Option GtidSet :=
  match ranking c.id, GtidSet.parse c.id with
  | .ok _, .ok s => some s
  | _, _ => none

/-- How many of the sets, after the first, do not name all hosts of the set before. -/
def hostDrops : List GtidSet → Nat
  | before :: s :: rest =>
    (if before.hosts.keys ⊆ s.hosts.keys then 0 else 1) + hostDrops (s :: rest)
  | _ => 0

/-- The sets of the transactions ordered on a shard, after the set that stands for the one before
them. -/
def setsOn (ranking : Ranking) (first : Option GtidSet) (cs : List OrderCall) (shard : String) :
    List GtidSet :=
  first.toList ++ (cs.filter (·.shard = shard)).filterMap (·.set? ranking)

theorem TransactionOrder.eq_iff {a b : TransactionOrder} :
    a = b ↔ a.epoch = b.epoch ∧ a.rank = b.rank := by
  cases a
  cases b
  simp

theorem OrderCall.set?_eq_some_iff {ranking : Ranking} {c : OrderCall} {s : GtidSet} :
    c.set? ranking = some s ↔ (∃ rank, ranking c.id = .ok rank) ∧ GtidSet.parse c.id = .ok s := by
  unfold set?
  cases ranking c.id with
  | error f => simp
  | ok rank =>
    cases GtidSet.parse c.id with
    | error f => simp
    | ok t => simp

theorem GtidSet.coversHostsOf_iff {s before : GtidSet} :
    s.coversHostsOf before = true ↔ before.hosts.keys ⊆ s.hosts.keys := by
  rw [coversHostsOf, List.all_eq_true]
  simp only [List.subset_def, KeyMap.contains, Option.isSome_iff_exists, KeyMap.mem_keys_iff]

theorem hostDrops_concat (sets : List GtidSet) (s : GtidSet) : hostDrops (sets ++ [s]) =
    hostDrops sets + if sets.getLast?.all s.coversHostsOf then 0 else 1 := by
  induction sets with
  | nil => rfl
  | cons before rest ih =>
    cases rest with
    | nil => simp [hostDrops, GtidSet.coversHostsOf_iff]
    | cons t rest =>
      have hsets : hostDrops (before :: t :: rest) =
          (if before.hosts.keys ⊆ t.hosts.keys then 0 else 1) + hostDrops (t :: rest) := rfl
      rw [List.getLast?_cons_cons, hsets, Nat.add_assoc, ← ih]
      rfl

/-- Drops are counted up to a set and from it on. -/
theorem hostDrops_append_cons (sets : List GtidSet) (s : GtidSet) (later : List GtidSet) :
    hostDrops (sets ++ s :: later) = hostDrops (sets ++ [s]) + hostDrops (s :: later) := by
  induction later using List.reverseRecOn with
  | nil => rfl
  | append_singleton later t ih =>
    have hleft : sets ++ s :: (later ++ [t]) = (sets ++ s :: later) ++ [t] := by simp
    have hright : s :: (later ++ [t]) = (s :: later) ++ [t] := rfl
    have hlast : (sets ++ s :: later).getLast? = (s :: later).getLast? := by
      simp [List.getLast?_append, List.getLast?_cons]
    rw [hleft, hostDrops_concat (sets ++ s :: later), ih, hlast, hright,
      hostDrops_concat (s :: later), Nat.add_assoc]

theorem hostDrops_le_append (sets later : List GtidSet) :
    hostDrops sets ≤ hostDrops (sets ++ later) := by
  induction later using List.reverseRecOn with
  | nil => simp
  | append_singleton later s ih =>
    rw [← List.append_assoc, hostDrops_concat]
    omega

/-- What is dropped between two sets with others in between is dropped somewhere on the way. -/
theorem hostDrops_cons_le (s t : GtidSet) (rest : List GtidSet) :
    hostDrops (s :: rest) ≤ hostDrops (s :: t :: rest) := by
  cases rest with
  | nil => exact Nat.zero_le _
  | cons u rest =>
    have hdrop : (if s.hosts.keys ⊆ u.hosts.keys then 0 else 1) ≤
        (if s.hosts.keys ⊆ t.hosts.keys then 0 else 1) +
          if t.hosts.keys ⊆ u.hosts.keys then 0 else 1 := by
      by_cases hst : s.hosts.keys ⊆ t.hosts.keys
      · by_cases htu : t.hosts.keys ⊆ u.hosts.keys
        · rw [if_pos (List.Subset.trans hst htu)]
          exact Nat.zero_le _
        · rw [if_neg htu]
          split <;> omega
      · rw [if_neg hst]
        split <;> omega
    simp only [hostDrops]
    omega

theorem hostDrops_le_cons (s : GtidSet) (sets : List GtidSet) :
    hostDrops sets ≤ hostDrops (s :: sets) := by
  cases sets with
  | nil => exact Nat.zero_le _
  | cons t rest => exact Nat.le_add_left _ _

/-- Leaving out sets never makes more drops. -/
theorem hostDrops_le_of_sublist {kept all : List GtidSet} (h : kept.Sublist all) :
    hostDrops kept ≤ hostDrops all := by
  suffices hboth : hostDrops kept ≤ hostDrops all ∧
      ∀ s, hostDrops (s :: kept) ≤ hostDrops (s :: all) from hboth.1
  induction h with
  | slnil => exact ⟨Nat.le_refl _, fun s => Nat.le_refl _⟩
  | cons t _ ih =>
    obtain ⟨hall, hcons⟩ := ih
    constructor
    · exact Nat.le_trans hall (hostDrops_le_cons t _)
    · intro s
      exact Nat.le_trans (hcons s) (hostDrops_cons_le s t _)
  | cons_cons t _ ih =>
    obtain ⟨-, hcons⟩ := ih
    constructor
    · exact hcons t
    · intro s
      exact Nat.add_le_add_left (hcons t) _

theorem hostDrops_le_length (sets : List GtidSet) : hostDrops sets ≤ sets.length - 1 := by
  induction sets with
  | nil => exact Nat.le_refl 0
  | cons before rest ih =>
    cases rest with
    | nil => exact Nat.le_refl 0
    | cons s rest =>
      simp only [hostDrops, List.length_cons] at ih ⊢
      split <;> omega

section
variable {ranking : Ranking} {first : Option GtidSet} {past cs : List OrderCall} {shard : String}

theorem setsOn_append (past rest : List OrderCall) : setsOn ranking first (past ++ rest) shard =
    setsOn ranking first past shard ++ setsOn ranking none rest shard := by
  simp [setsOn]

theorem setsOn_concat (past : List OrderCall) (c : OrderCall) :
    setsOn ranking first (past ++ [c]) shard =
      setsOn ranking first past shard ++
        if c.shard = shard then (c.set? ranking).toList else [] := by
  rw [setsOn_append]
  by_cases hshard : c.shard = shard
  · cases hset : c.set? ranking <;> simp [setsOn, hshard, hset]
  · simp [setsOn, hshard]

theorem setsOn_none_eq_nil_iff : setsOn ranking none cs shard = [] ↔
    ∀ c ∈ cs, c.shard = shard → c.set? ranking = none := by
  simp [setsOn, List.filterMap_eq_nil_iff]

theorem length_setsOn_le (ranking : Ranking) (first : Option GtidSet) (cs : List OrderCall)
    (shard : String) : (setsOn ranking first cs shard).length ≤ 1 + cs.length := by
  have hfirst : first.toList.length ≤ 1 := by cases first <;> simp
  have hsets := List.length_filterMap_le (·.set? ranking) (cs.filter (·.shard = shard))
  have hcalls := List.length_filter_le (·.shard = shard) cs
  rw [setsOn, List.length_append]
  omega

end

namespace Epochs

variable {ranking : Ranking} {e e' : Epochs} {shard id : String} {c : OrderCall}

/-- The epochs after a transaction is ordered, or cannot be. -/
def after (ranking : Ranking) (e : Epochs) (c : OrderCall) : Epochs :=
  match e.order ranking c.shard c.id with
  | .ok (_, e', _) => e'
  | .error _ => e

def afterAll (ranking : Ranking) (e : Epochs) (cs : List OrderCall) : Epochs :=
  cs.foldl (after ranking) e

theorem afterAll_concat (past : List OrderCall) (c : OrderCall) :
    e.afterAll ranking (past ++ [c]) = (e.afterAll ranking past).after ranking c := by
  rw [afterAll, List.foldl_append]
  rfl

theorem order_error_iff : (∃ f, e.order ranking shard id = .error f) ↔
    (∃ f, ranking id = .error f) ∨ ∃ f, GtidSet.parse id = .error f := by
  cases hrank : ranking id with
  | error f => simp [order, hrank, bind, Except.bind]
  | ok rank =>
    cases hset : GtidSet.parse id with
    | error f => simp [order, hrank, hset, bind, Except.bind]
    | ok s => simp [order_of_ok e shard hrank hset]

/-- A transaction changes nothing unless it has a set to be ordered by. -/
theorem after_cases (ranking : Ranking) (e : Epochs) (c : OrderCall) :
    (c.set? ranking = none ∧ e.after ranking c = e) ∨
    ∃ s, c.set? ranking = some s ∧ e.after ranking c =
      ⟨e.current.insert c.shard (e.next c.shard s), e.previous.insert c.shard s⟩ := by
  cases horder : e.order ranking c.shard c.id with
  | error f =>
    left
    refine ⟨?_, by rw [after, horder]⟩
    rcases order_error_iff.1 ⟨f, horder⟩ with ⟨g, hg⟩ | ⟨g, hg⟩
    · simp [OrderCall.set?, hg]
    · simp [OrderCall.set?, hg]
  | ok a =>
    obtain ⟨o, e', notices⟩ := a
    obtain ⟨s, hset, hrank, -, hnext, -⟩ := order_ok horder
    right
    exact ⟨s, OrderCall.set?_eq_some_iff.2 ⟨⟨_, hrank⟩, hset⟩, by rw [after, horder, hnext]⟩

/-- The set that the next transaction on a shard is compared with. -/
theorem afterAll_previous (ranking : Ranking) (e : Epochs) (cs : List OrderCall) (shard : String) :
    (e.afterAll ranking cs).previous.get? shard =
      (setsOn ranking (e.previous.get? shard) cs shard).getLast? := by
  induction cs using List.reverseRecOn with
  | nil => cases h : e.previous.get? shard <;> simp [setsOn, afterAll, h]
  | append_singleton past c ih =>
    rw [afterAll_concat, setsOn_concat]
    rcases after_cases ranking (e.afterAll ranking past) c with
      ⟨hset, hsame⟩ | ⟨s, hset, hafter⟩
    · rw [hsame, ih]
      simp [hset]
    · rw [hafter, KeyMap.get?_insert, hset, ih]
      by_cases hshard : c.shard = shard
      · simp [hshard]
      · simp [hshard, Ne.symm hshard]

/-- The epoch of a shard after the transactions that were to be ordered. -/
def counted (ranking : Ranking) (e : Epochs) (cs : List OrderCall) (shard : String) : UInt64 :=
  e.current.getD shard 0 +
    UInt64.ofNat (hostDrops (setsOn ranking (e.previous.get? shard) cs shard))

theorem counted_toNat {cs : List OrderCall}
    (hfit : (e.current.getD shard 0).toNat +
      hostDrops (setsOn ranking (e.previous.get? shard) cs shard) < UInt64.size) :
    (e.counted ranking cs shard).toNat = (e.current.getD shard 0).toNat +
      hostDrops (setsOn ranking (e.previous.get? shard) cs shard) := by
  have hdrops : hostDrops (setsOn ranking (e.previous.get? shard) cs shard) < UInt64.size := by
    omega
  rw [counted, UInt64.toNat_add, UInt64.toNat_ofNat_of_lt' hdrops, Nat.mod_eq_of_lt hfit]

theorem counted_of_setsOn_eq_nil {cs : List OrderCall} (h : setsOn ranking none cs shard = []) :
    e.counted ranking cs shard = e.current.getD shard 0 := by
  have hsets : setsOn ranking (e.previous.get? shard) cs shard =
      (e.previous.get? shard).toList := by
    rw [← List.nil_append cs, setsOn_append, h]
    simp [setsOn]
  rw [counted, hsets]
  cases e.previous.get? shard <;> simp [hostDrops]

theorem next_afterAll {past : List OrderCall} {s : GtidSet}
    (hpast : (e.afterAll ranking past).current.getD c.shard 0 = e.counted ranking past c.shard)
    (hset : c.set? ranking = some s) :
    (e.afterAll ranking past).next c.shard s = e.counted ranking (past ++ [c]) c.shard := by
  rw [next, hpast, afterAll_previous, counted, counted, setsOn_concat, if_pos rfl, hset,
    Option.toList_some, hostDrops_concat]
  split
  · simp
  · simp [UInt64.ofNat_add, UInt64.add_assoc]

theorem getD_of_current {m : KeyMap UInt64} {cs : List OrderCall}
    (h : m.get? shard = if setsOn ranking none cs shard = [] then e.current.get? shard
      else some (e.counted ranking cs shard)) : m.getD shard 0 = e.counted ranking cs shard := by
  rw [KeyMap.getD, h]
  split
  · next hnone => rw [counted_of_setsOn_eq_nil hnone, KeyMap.getD]
  · rfl

/-- The epochs are those of the start, except for the shards on which something was ordered. -/
theorem afterAll_current (ranking : Ranking) (e : Epochs) (cs : List OrderCall) (shard : String) :
    (e.afterAll ranking cs).current.get? shard =
      if setsOn ranking none cs shard = [] then e.current.get? shard
      else some (e.counted ranking cs shard) := by
  induction cs using List.reverseRecOn generalizing shard with
  | nil => simp [setsOn, afterAll]
  | append_singleton past c ih =>
    rw [afterAll_concat]
    rcases after_cases ranking (e.afterAll ranking past) c with
      ⟨hset, hsame⟩ | ⟨s, hset, hafter⟩
    · rw [hsame, ih, counted, counted, setsOn_concat, setsOn_concat, hset]
      simp
    · rw [hafter, KeyMap.get?_insert]
      by_cases hshard : c.shard = shard
      · subst hshard
        rw [if_pos rfl, next_afterAll (getD_of_current (ih c.shard)) hset, setsOn_concat, hset]
        simp
      · rw [if_neg (Ne.symm hshard), ih, counted, counted, setsOn_concat, setsOn_concat,
          if_neg hshard, List.append_nil, List.append_nil]

theorem afterAll_getD (ranking : Ranking) (e : Epochs) (cs : List OrderCall) (shard : String) :
    (e.afterAll ranking cs).current.getD shard 0 = e.counted ranking cs shard :=
  getD_of_current (afterAll_current ranking e cs shard)

/-- What a transaction is ordered by, and the epoch that it comes to. -/
theorem order_afterAll {past : List OrderCall} {o : TransactionOrder} {notices : List Notice}
    (h : (e.afterAll ranking past).order ranking c.shard c.id = .ok (o, e', notices)) :
    ∃ s, c.set? ranking = some s ∧ ranking c.id = .ok o.rank ∧
      o.epoch = e.counted ranking (past ++ [c]) c.shard := by
  obtain ⟨s, hset, hrank, hepoch, -, -⟩ := order_ok h
  have hcall : c.set? ranking = some s := OrderCall.set?_eq_some_iff.2 ⟨⟨_, hrank⟩, hset⟩
  exact ⟨s, hcall, hrank, hepoch.trans (next_afterAll (afterAll_getD ..) hcall)⟩

/-- A notice is given just when a set drops hosts of the set before. -/
theorem noticeChange_cases {sets : List GtidSet} (h : e.previous.get? shard = sets.getLast?)
    (s : GtidSet) :
    (hostDrops (sets ++ [s]) = hostDrops sets ∧ e.noticeChange shard s = []) ∨
    (hostDrops (sets ++ [s]) = hostDrops sets + 1 ∧ ∃ before, sets.getLast? = some before ∧
      e.noticeChange shard s = [.hostsChanged shard before s (e.next shard s)]) := by
  rw [noticeChange, h, hostDrops_concat]
  cases hlast : sets.getLast? with
  | none => exact .inl ⟨rfl, rfl⟩
  | some before =>
    by_cases hkept : s.coversHostsOf before
    · left
      simp [hkept]
    · right
      simp [hkept]

end Epochs

/-- How many of the transactions that could be ordered on a shard dropped a host of the one before
them, or of the restart position. -/
def Vgtid.drops (ranking : Ranking) (restart : Vgtid) (cs : List OrderCall) (shard : String) :
    Nat :=
  hostDrops (setsOn ranking (restart.lastSet? shard) cs shard)

/-- The order of a transaction that could be ordered, and what was noticed of it: one notice if it
dropped a host, and else nothing. -/
structure OrderCall.Answered (ranking : Ranking) (stored : KeyMap UInt64) (restart : Vgtid)
    (past : List OrderCall) (c : OrderCall) (o : TransactionOrder) (notices : List Notice) :
    Prop where
  rank : ranking c.id = .ok o.rank
  epoch : o.epoch.toNat =
    (stored.getD c.shard 0).toNat + restart.drops ranking (past ++ [c]) c.shard
  notices : (restart.drops ranking (past ++ [c]) c.shard = restart.drops ranking past c.shard ∧
      notices = []) ∨
    (restart.drops ranking (past ++ [c]) c.shard = restart.drops ranking past c.shard + 1 ∧
      ∃ before s, (setsOn ranking (restart.lastSet? c.shard) past c.shard).getLast? = some before ∧
        GtidSet.parse c.id = .ok s ∧ notices = [.hostsChanged c.shard before s o.epoch])

namespace Epochs

variable {ranking : Ranking} {stored : KeyMap UInt64} {restart : Vgtid} {shard : String}
  {past cs : List OrderCall} {c : OrderCall}

theorem counted_restore_toNat
    (hfit : (stored.getD shard 0).toNat + restart.drops ranking cs shard < UInt64.size) :
    ((restore stored restart).1.counted ranking cs shard).toNat =
      (stored.getD shard 0).toNat + restart.drops ranking cs shard := by
  have hdrops : hostDrops (setsOn ranking ((restore stored restart).1.previous.get? shard) cs
      shard) = restart.drops ranking cs shard := by
    rw [restore_previous, Vgtid.drops]
  rw [counted_toNat (by rw [hdrops, restore_current]; exact hfit), hdrops, restore_current]

theorem answered_of_order {o : TransactionOrder} {e : Epochs} {notices : List Notice}
    (hfit : (stored.getD c.shard 0).toNat + restart.drops ranking (past ++ [c]) c.shard <
      UInt64.size)
    (h : ((restore stored restart).1.afterAll ranking past).order ranking c.shard c.id =
      .ok (o, e, notices)) : c.Answered ranking stored restart past o notices := by
  obtain ⟨s, hset, hrank, hepoch, -, hnotices⟩ := order_ok h
  have hcall : c.set? ranking = some s := OrderCall.set?_eq_some_iff.2 ⟨⟨_, hrank⟩, hset⟩
  have hprevious := afterAll_previous ranking (restore stored restart).1 past c.shard
  rw [restore_previous] at hprevious
  have hdrops : restart.drops ranking (past ++ [c]) c.shard =
      hostDrops (setsOn ranking (restart.lastSet? c.shard) past c.shard ++ [s]) := by
    rw [Vgtid.drops, setsOn_concat, if_pos rfl, hcall, Option.toList_some]
  refine ⟨hrank, ?_, ?_⟩
  · rw [hepoch, next_afterAll (afterAll_getD ..) hcall, counted_restore_toNat hfit]
  · rw [hdrops, Vgtid.drops, hnotices, hepoch]
    rcases noticeChange_cases hprevious s with ⟨hsame, hnone⟩ | ⟨hmore, before, hbefore, hone⟩
    · exact .inl ⟨hsame, hnone⟩
    · exact .inr ⟨hmore, before, s, hbefore, hset, hone⟩

theorem drops_le_of_prefix (ranking : Ranking) (restart : Vgtid) (shard : String)
    (h : past <+: cs) :
    restart.drops ranking past shard ≤ restart.drops ranking cs shard := by
  obtain ⟨rest, rfl⟩ := h
  rw [Vgtid.drops, Vgtid.drops, setsOn_append]
  exact hostDrops_le_append _ _

theorem drops_le_length (ranking : Ranking) (restart : Vgtid) (cs : List OrderCall)
    (shard : String) : restart.drops ranking cs shard ≤ cs.length := by
  have hdrops := hostDrops_le_length (setsOn ranking (restart.lastSet? shard) cs shard)
  have hlength := length_setsOn_le ranking (restart.lastSet? shard) cs shard
  rw [Vgtid.drops]
  omega

/-- The epoch law. A transaction fails to be ordered just if it has no rank or names no set, and
then changes nothing. One that is ordered has its rank, and for its epoch the stored epoch of its
shard and the transactions on it so far that dropped hosts; it is noticed if it is one of them. The
epochs after all are those of the last transactions ordered, and else those stored. To begin afresh
is to begin at an empty position with nothing stored. -/
theorem epochs_count_host_drops (ranking : Ranking) (stored : KeyMap UInt64) (restart : Vgtid)
    (cs : List OrderCall)
    (hfit : ∀ shard, (stored.getD shard 0).toNat + restart.drops ranking cs shard < UInt64.size) :
    let start := (restore stored restart).1
    fresh = (restore .empty ⟨[]⟩).1 ∧
      (∀ past c rest, cs = past ++ c :: rest →
        ((∃ f, (start.afterAll ranking past).order ranking c.shard c.id = .error f) ↔
          (∃ f, ranking c.id = .error f) ∨ ∃ f, GtidSet.parse c.id = .error f) ∧
        ((∃ f, (start.afterAll ranking past).order ranking c.shard c.id = .error f) →
          start.afterAll ranking (past ++ [c]) = start.afterAll ranking past) ∧
        ∀ o e notices,
          (start.afterAll ranking past).order ranking c.shard c.id = .ok (o, e, notices) →
          e = start.afterAll ranking (past ++ [c]) ∧
            c.Answered ranking stored restart past o notices) ∧
      ∀ shard,
        ((∀ c ∈ cs, c.shard = shard → c.set? ranking = none) →
          (start.afterAll ranking cs).current.get? shard = stored.get? shard) ∧
        ((∃ c ∈ cs, c.shard = shard ∧ c.set? ranking ≠ none) →
          ∃ epoch, (start.afterAll ranking cs).current.get? shard = some epoch ∧
            epoch.toNat = (stored.getD shard 0).toNat + restart.drops ranking cs shard) := by
  intro start
  refine ⟨rfl, ?_, ?_⟩
  · rintro past c rest rfl
    refine ⟨order_error_iff, ?_, ?_⟩
    · rintro ⟨f, hf⟩
      rw [afterAll_concat, after, hf]
    · intro o e notices horder
      have hprefix : past ++ [c] <+: past ++ c :: rest := ⟨rest, by simp⟩
      have hbound := hfit c.shard
      have hdrops := drops_le_of_prefix ranking restart c.shard hprefix
      refine ⟨?_, answered_of_order (by omega) horder⟩
      rw [afterAll_concat, after, horder]
  · intro shard
    have hcurrent := afterAll_current ranking start cs shard
    constructor
    · intro hnone
      rw [hcurrent, if_pos (setsOn_none_eq_nil_iff.2 hnone)]
      rfl
    · rintro ⟨c, hc, hshard, hset⟩
      have hsome : setsOn ranking none cs shard ≠ [] := by
        intro hnil
        exact hset (setsOn_none_eq_nil_iff.1 hnil c hc hshard)
      rw [hcurrent, if_neg hsome]
      exact ⟨_, rfl, counted_restore_toNat (hfit shard)⟩

end Epochs

namespace Sample

def storedEpochs : KeyMap UInt64 := KeyMap.empty.insert "-80" 3

def restart : Vgtid := ⟨[⟨"commerce", "-80", "a:1-10"⟩, ⟨"commerce", "80-", "current"⟩]⟩

/-- The first shard goes on with another host, the second names no transaction that can be ordered
at first. -/
def orderCalls : List OrderCall := [⟨"-80", "b:1-3"⟩, ⟨"80-", "current"⟩, ⟨"80-", "b:1"⟩]

end Sample

namespace Epochs

/-- On the first shard a host has been dropped, so its fourth epoch begins and is noticed. The
transaction without a set changes nothing, and the one after it opens the epochs of its shard. -/
theorem dropped_host_begins_epoch :
    let start := (restore Sample.storedEpochs Sample.restart).1
    (∀ shard, (Sample.storedEpochs.getD shard 0).toNat +
      Sample.restart.drops gtidRanking Sample.orderCalls shard < UInt64.size) ∧
    (∃ o e before s, start.order gtidRanking "-80" "b:1-3" =
      .ok (o, e, [.hostsChanged "-80" before s o.epoch]) ∧ o.epoch.toNat = 4) ∧
    start.afterAll gtidRanking (Sample.orderCalls.take 2) =
      start.afterAll gtidRanking (Sample.orderCalls.take 1) ∧
    ∃ epoch, (start.afterAll gtidRanking Sample.orderCalls).current.get? "80-" = some epoch ∧
      epoch.toNat = 0 := by
  intro start
  have hfit : ∀ shard, (Sample.storedEpochs.getD shard 0).toNat +
      Sample.restart.drops gtidRanking Sample.orderCalls shard < UInt64.size := by
    intro shard
    have hstored : (Sample.storedEpochs.getD shard 0).toNat ≤ 3 := by
      rw [Sample.storedEpochs, KeyMap.getD, KeyMap.get?_insert]
      split
      · decide
      · exact Nat.zero_le 3
    have hdrops := drops_le_length gtidRanking Sample.restart Sample.orderCalls shard
    have hlength : Sample.orderCalls.length = 3 := rfl
    have hsize : 6 < UInt64.size := by decide
    omega
  obtain ⟨-, hcalls, hafter⟩ :=
    epochs_count_host_drops gtidRanking Sample.storedEpochs Sample.restart Sample.orderCalls hfit
  refine ⟨hfit, ?_, ?_, ?_⟩
  · obtain ⟨hfails, -, hanswers⟩ := hcalls [] ⟨"-80", "b:1-3"⟩ (Sample.orderCalls.drop 1) rfl
    cases horder : start.order gtidRanking "-80" "b:1-3" with
    | error f =>
      have hread : (gtidRanking "b:1-3").isOk = true ∧ (GtidSet.parse "b:1-3").isOk = true := by
        decide +kernel
      rcases hfails.1 ⟨f, horder⟩ with ⟨g, hg⟩ | ⟨g, hg⟩
      · rw [hg] at hread
        cases hread.1
      · rw [hg] at hread
        cases hread.2
    | ok a =>
      obtain ⟨o, e, notices⟩ := a
      obtain ⟨-, -, hepoch, hnotices⟩ := hanswers o e notices horder
      have hnone : Sample.restart.drops gtidRanking [] "-80" = 0 := by decide +kernel
      have hone : Sample.restart.drops gtidRanking [⟨"-80", "b:1-3"⟩] "-80" = 1 := by
        decide +kernel
      have hthree : (Sample.storedEpochs.getD "-80" 0).toNat = 3 := by decide +kernel
      rw [List.nil_append] at hepoch hnotices
      rcases hnotices with ⟨hsame, -⟩ | ⟨-, before, s, -, -, rfl⟩
      · rw [hone, hnone] at hsame
        cases hsame
      · exact ⟨o, e, before, s, rfl, by rw [hepoch, hone, hthree]⟩
  · obtain ⟨hfails, hunchanged, -⟩ :=
      hcalls (Sample.orderCalls.take 1) ⟨"80-", "current"⟩ (Sample.orderCalls.drop 2) rfl
    apply hunchanged
    apply hfails.2
    right
    exact ⟨_, rfl⟩
  · obtain ⟨epoch, hepoch, hcount⟩ := (hafter "80-").2
      ⟨⟨"80-", "b:1"⟩, by simp [Sample.orderCalls], rfl, by decide +kernel⟩
    have hnone : Sample.restart.drops gtidRanking Sample.orderCalls "80-" = 0 := by decide +kernel
    have hstored : (Sample.storedEpochs.getD "80-" 0).toNat = 0 := by decide +kernel
    exact ⟨epoch, hepoch, by rw [hcount, hnone, hstored]⟩

end Epochs

end ShardStream

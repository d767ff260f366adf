import Mathlib.Data.List.Induction
import ShardStream.Transaction.Epochs

/-! # Epochs after a restart

The epoch of a shard stays as long as each transaction names the hosts of the one before it. After
a restart, the restart position stands for the transaction before.
-/
namespace ShardStream

/-- The set that an entry names, if it can be read and has transactions. -/
def ShardPosition.set? (p : ShardPosition) : Option GtidSet :=
  match GtidSet.parse p.gtid with
  | .ok s => if s.isEmpty then none else some s
  | .error _ => none

/-- The last set that a position names for a shard, in any keyspace. -/
def Vgtid.lastSet? (v : Vgtid) (shard : String) : Option GtidSet :=
  (((v.entries.filter (·.isPositional)).filter (·.shard = shard)).filterMap (·.set?)).getLast?

/-- Whether a set has all the hosts of the last set that a position names for a shard. -/
def Vgtid.hostsKeptBy (v : Vgtid) (shard : String) (s : GtidSet) : Bool :=
  (v.lastSet? shard).all s.coversHostsOf

namespace Epochs

/-- The epoch of the next transaction on a shard. -/
def next (e : Epochs) (shard : String) (s : GtidSet) : UInt64 :=
  if (e.previous.get? shard).all s.coversHostsOf then e.current.getD shard 0
  else e.current.getD shard 0 + 1

/-- What is noticed of the next transaction on a shard: it drops hosts of the one before. -/
def noticeChange (e : Epochs) (shard : String) (s : GtidSet) : List Notice :=
  match e.previous.get? shard with
  | none => []
  | some before =>
    if s.coversHostsOf before then [] else [.hostsChanged shard before s (e.next shard s)]

variable {ranking : Ranking} {e e' : Epochs} {shard id : String} {notices : List Notice}

theorem advance_eq (e : Epochs) (shard : String) (s : GtidSet) :
    e.advance shard s = (e.next shard s,
      ⟨e.current.insert shard (e.next shard s), e.previous.insert shard s⟩,
      e.noticeChange shard s) := by
  unfold advance next noticeChange
  cases hbefore : e.previous.get? shard with
  | none => simp
  | some before =>
    by_cases hcovers : s.coversHostsOf before
    · simp [hcovers]
    · simp [hcovers, next, hbefore]

theorem order_of_ok (e : Epochs) (shard : String) {s : GtidSet} {rank : Rank}
    (hrank : ranking id = .ok rank) (hset : GtidSet.parse id = .ok s) :
    e.order ranking shard id = .ok (⟨e.next shard s, rank⟩,
      ⟨e.current.insert shard (e.next shard s), e.previous.insert shard s⟩,
      e.noticeChange shard s) := by
  simp [Epochs.order, hrank, hset, advance_eq, bind, Except.bind]
  rfl

theorem order_ok {order : TransactionOrder}
    (h : e.order ranking shard id = .ok (order, e', notices)) :
    ∃ s, GtidSet.parse id = .ok s ∧ ranking id = .ok order.rank ∧ order.epoch = e.next shard s ∧
      e' = ⟨e.current.insert shard (e.next shard s), e.previous.insert shard s⟩ ∧
      notices = e.noticeChange shard s := by
  have hbound := h
  unfold Epochs.order at hbound
  cases hrank : ranking id with
  | error f => simp [hrank, bind, Except.bind] at hbound
  | ok rank =>
    cases hset : GtidSet.parse id with
    | error f => simp [hrank, hset, bind, Except.bind] at hbound
    | ok s =>
      rw [order_of_ok e shard hrank hset] at h
      cases h
      exact ⟨s, rfl, rfl, rfl, rfl, rfl⟩

theorem get?_remember (acc : KeyMap GtidSet × List Notice) (p : ShardPosition) (shard : String) :
    (remember acc p).1.get? shard =
      if p.shard = shard then p.set?.or (acc.1.get? shard) else acc.1.get? shard := by
  unfold remember ShardPosition.set?
  cases GtidSet.parse p.gtid with
  | error f => simp
  | ok s =>
    by_cases hempty : s.isEmpty
    · simp [hempty]
    · by_cases hshard : p.shard = shard
      · simp [hempty, hshard]
      · simp [hempty, hshard, KeyMap.get?_insert, Ne.symm hshard]

theorem get?_foldl_remember (ps : List ShardPosition) (shard : String) :
    (ps.foldl remember (.empty, [])).1.get? shard =
      ((ps.filter (·.shard = shard)).filterMap (·.set?)).getLast? := by
  -- from the end, since a later entry replaces an earlier one for its shard
  induction ps using List.reverseRecOn with
  | nil => rfl
  | append_singleton ps p ih =>
    rw [List.foldl_append, List.foldl_cons, List.foldl_nil, get?_remember, ih]
    by_cases hshard : p.shard = shard
    · cases hset : p.set? <;> simp [hshard, hset]
    · simp [hshard]

theorem restore_current (stored : KeyMap UInt64) (restart : Vgtid) :
    (restore stored restart).1.current = stored := rfl

/-- What counts as the transaction before, on a shard of which nothing has been seen yet. -/
theorem restore_previous (stored : KeyMap UInt64) (restart : Vgtid) (shard : String) :
    (restore stored restart).1.previous.get? shard = restart.lastSet? shard :=
  get?_foldl_remember _ shard

theorem ite_succ_eq_self_iff {epoch : UInt64} {kept : Bool} :
    (if kept then epoch else epoch + 1) = epoch ↔ kept = true := by
  cases kept <;> simp

/-- A stored epoch counts once more if the next transaction drops a host of the restart position. -/
theorem next_restore {stored : KeyMap UInt64} {shard : String} {epoch : UInt64}
    (h : stored.get? shard = some epoch) (restart : Vgtid) (s : GtidSet) :
    (restore stored restart).1.next shard s =
      if restart.hostsKeptBy shard s then epoch else epoch + 1 := by
  rw [next, restore_current, restore_previous, KeyMap.getD, h]
  rfl

end Epochs

end ShardStream

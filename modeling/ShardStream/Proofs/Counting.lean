import Mathlib.Algebra.BigOperators.Group.Finset.Piecewise
import ShardStream.Proofs.Regression
import ShardStream.Proofs.Staging

/-! # Counted rows

Whatever a message does to the tracker, it does by operations on it, and they count the row of the
message if its table can be told. So the tallies of a session are those of the rows that it handled,
by shard and by table, and both come to the same number. The rows of the open transaction are
counted all together and table by table, and this comes to the same number after any operations.
-/
namespace ShardStream

namespace Tally

variable {α : Type} [DecidableEq α] {t : Tally α} {a : α} {xs : List α}

/-- What has been counted at all. -/
def support (t : Tally α) : Finset α := (t.counts.map (·.1)).toFinset

/-- How often anything has been counted. -/
def sum (t : Tally α) : Nat := ∑ a ∈ t.support, t.count a

def addAll (t : Tally α) (xs : List α) : Tally α := xs.foldl add t

theorem count_eq_zero (ha : a ∉ t.support) : t.count a = 0 := by
  obtain ⟨es⟩ := t
  simp only [support, List.mem_toFinset] at ha
  simp only [count]
  induction es with
  | nil => rfl
  | cons e rest ih =>
    rw [List.map_cons, List.mem_cons, not_or] at ha
    rw [lookup, if_neg (Ne.symm ha.1), ih ha.2]

theorem support_add (t : Tally α) (a : α) : (t.add a).support = insert a t.support := by
  obtain ⟨es⟩ := t
  simp only [support, add]
  induction es with
  | nil => rfl
  | cons e rest ih =>
    by_cases he : e.1 = a
    · simp [raise, he]
    · rw [raise, if_neg he, List.map_cons, List.toFinset_cons, ih, List.map_cons,
        List.toFinset_cons, Finset.insert_comm]

theorem sum_add (t : Tally α) (a : α) : (t.add a).sum = t.sum + 1 := by
  have hold : ∑ b ∈ insert a t.support, t.count b = t.sum :=
    Finset.sum_insert_of_eq_zero_if_notMem count_eq_zero
  have hnew : ∑ b ∈ insert a t.support, (if b = a then 1 else 0) = 1 := by
    rw [Finset.sum_ite_eq', if_pos (Finset.mem_insert_self a t.support)]
  simp only [sum, support_add, count_add]
  rw [Finset.sum_add_distrib, hold, hnew]
  rfl

@[simp] theorem sum_empty : (empty : Tally α).sum = 0 := rfl

theorem count_addAll (t : Tally α) (xs : List α) (a : α) :
    (t.addAll xs).count a = t.count a + xs.count a := by
  induction xs generalizing t with
  | nil => rfl
  | cons x xs ih =>
    rw [addAll, List.foldl_cons, ← addAll, ih, count_add, List.count_cons]
    simp only [beq_iff_eq, eq_comm (a := a)]
    omega

theorem sum_addAll (t : Tally α) (xs : List α) : (t.addAll xs).sum = t.sum + xs.length := by
  induction xs generalizing t with
  | nil => rfl
  | cons x xs ih =>
    rw [addAll, List.foldl_cons, ← addAll, ih, sum_add, List.length_cons]
    omega

end Tally

/-- The rows are those of all tables together. -/
def Progress.Balanced (p : Progress) : Prop := p.rows = p.tableRows.sum

namespace Tracker

namespace Operation

def shard? : Operation → Option String
  | setShard shard => some shard
  | _ => none

def table? : Operation → Option TableId
  | addRow table _ => some table
  | _ => none

end Operation

/-- The operations count these rows, in this order, and no others. -/
structure Counts (ops : List Operation) (rows : List Delivery) : Prop where
  shards : ops.filterMap (·.shard?) = rows.map (·.message.header.shard)
  tables : ops.filterMap (·.table?) = rows.filterMap (·.table?)

variable {t : Tracker} {ops ops' : List Operation} {rows rows' : List Delivery}

theorem counts_nil : Counts [] [] := ⟨rfl, rfl⟩

theorem Counts.append (h : Counts ops rows) (h' : Counts ops' rows') :
    Counts (ops ++ ops') (rows ++ rows') := by
  constructor
  · rw [List.filterMap_append, List.map_append, h.shards, h'.shards]
  · rw [List.filterMap_append, List.filterMap_append, h.tables, h'.tables]

theorem perform_tallies (t : Tracker) (op : Operation) :
    (t.perform op).1.shardRows = t.shardRows.addAll op.shard?.toList ∧
      (t.perform op).1.tableRows = t.tableRows.addAll op.table?.toList := by
  cases op with
  | order ranking shard id =>
    simp only [perform, order]
    cases t.epochs.order ranking shard id <;> exact ⟨rfl, rfl⟩
  | settle =>
    simp only [perform, settle]
    exact ⟨rfl, rfl⟩
  | _ => exact ⟨rfl, rfl⟩

theorem performAll_tallies (t : Tracker) (ops : List Operation) :
    (t.performAll ops).shardRows = t.shardRows.addAll (ops.filterMap (·.shard?)) ∧
      (t.performAll ops).tableRows = t.tableRows.addAll (ops.filterMap (·.table?)) := by
  simp only [List.filterMap_eq_flatMap_toList]
  induction ops generalizing t with
  | nil => exact ⟨rfl, rfl⟩
  | cons op ops ih =>
    obtain ⟨hshards, htables⟩ := t.perform_tallies op
    obtain ⟨hshards', htables'⟩ := ih (t.perform op).1
    rw [performAll_cons, hshards', htables', hshards, htables]
    simp only [Tally.addAll, List.flatMap_cons, List.foldl_append, and_self]

theorem perform_balanced (ht : t.progress.Balanced) (op : Operation) :
    (t.perform op).1.progress.Balanced := by
  cases op with
  | addRow table time => exact (congrArg (· + 1) ht).trans (t.progress.tableRows.sum_add table).symm
  | order ranking shard id =>
    simp only [perform, order]
    cases t.epochs.order ranking shard id <;> exact ht
  | begin id order => exact rfl
  | finish => exact rfl
  | _ => exact ht

theorem performAll_balanced (ht : t.progress.Balanced) (ops : List Operation) :
    (t.performAll ops).progress.Balanced := by
  induction ops generalizing t with
  | nil => exact ht
  | cons op ops ih => exact ih (perform_balanced ht op)

theorem IsStart.tallies (ht : t.IsStart) : t.shardRows = .empty ∧ t.tableRows = .empty := by
  cases ht with
  | initial c now => exact ⟨rfl, rfl⟩
  | load h =>
    obtain ⟨time, rfl⟩ := load_ok h
    exact ⟨rfl, rfl⟩

end Tracker

namespace Processor

open Tracker (Operation Counts counts_nil)

variable {s : Setup} {sink : Sink} {p : Processor}

theorem exists_performAll_orderFor {t t' : Tracker} {shard id : String}
    {order : Option TransactionOrder} {notices : List Notice}
    (h : orderFor s t shard id = .ok (order, t', notices)) :
    ∃ ops, t' = t.performAll ops ∧ Counts ops [] := by
  cases hs : s.ordered with
  | false =>
    rw [orderFor_unordered hs] at h
    cases h
    exact ⟨[], rfl, counts_nil⟩
  | true =>
    obtain ⟨transactionOrder, epochs, he, -, rfl⟩ := orderFor_ordered_ok hs h
    refine ⟨[.order s.ranking shard id], ?_, ⟨rfl, rfl⟩⟩
    rw [Tracker.performAll_cons, Tracker.perform, Tracker.order, he]
    rfl

theorem exists_performAll_handleBegin (h : Header) (vgtid : Vgtid) :
    ∃ ops, (handleBegin s sink p h vgtid).tracker = p.tracker.performAll ops ∧ Counts ops [] := by
  unfold handleBegin
  cases beginId? h vgtid with
  | none => exact ⟨[], rfl, counts_nil⟩
  | some id =>
    simp only
    cases horder : orderFor s (p.tracker.rotate vgtid h.commitTime).1 h.shard id with
    | error f => exact ⟨[.rotate vgtid h.commitTime], rfl, ⟨rfl, rfl⟩⟩
    | ok a =>
      obtain ⟨order, ordered, changed⟩ := a
      obtain ⟨ops, rfl, hops⟩ := exists_performAll_orderFor horder
      have hrotate : Counts [.rotate vgtid h.commitTime] [] := ⟨rfl, rfl⟩
      have hbegin : Counts [.begin (some id) order] [] := ⟨rfl, rfl⟩
      refine ⟨_, ?_, hrotate.append (hops.append hbegin)⟩
      rw [Tracker.performAll_append, Tracker.performAll_append]
      -- the tracker is the same whether or not the pipeline takes the event
      exact or_self_iff.1 (Handling.tracker_offer ..)

theorem exists_performAll_handleCommit (h : Header) (vgtid : Vgtid) :
    ∃ ops, (handleCommit s sink p h vgtid).tracker = p.tracker.performAll ops ∧ Counts ops [] := by
  unfold handleCommit
  rcases Handling.tracker_offer .. with hrefused | htaken
  · exact ⟨[.rotate vgtid h.commitTime], hrefused, ⟨rfl, rfl⟩⟩
  · exact ⟨[.rotate vgtid h.commitTime, .finish], htaken, ⟨rfl, rfl⟩⟩

/-- A row is counted before its event is offered, so it counts even if it is refused. -/
theorem exists_performAll_handleRow (h : Header) (c : RowChange) (vgtid : Vgtid) (last : Bool)
    (now : Instant) : let d : Delivery := ⟨.row h c, vgtid, last, now⟩
    ∃ ops, (handleRow s sink p h c d).tracker = p.tracker.performAll ops ∧
      Counts ops ([d].filter (·.table?.isSome)) := by
  intro d
  have hd : d.table? = TableId.resolve? h.keyspace c.table := rfl
  unfold handleRow
  cases htable : TableId.resolve? h.keyspace c.table with
  | none =>
    have hrows : [d].filter (·.table?.isSome) = [] := by simp [hd, htable]
    rw [hrows]
    exact ⟨[], rfl, counts_nil⟩
  | some table =>
    have hrows : [d].filter (·.table?.isSome) = [d] := by simp [hd, htable]
    have hcounts : Counts [.addRow table h.commitTime, .setShard h.shard] [d] :=
      ⟨rfl, by simp [Operation.table?, hd, htable]⟩
    have hsettle : Counts ((if last then [.stage vgtid h.commitTime] else []) ++ [.settle]) [] := by
      cases last <;> exact ⟨rfl, rfl⟩
    rw [hrows]
    refine ⟨_, ?_, hcounts.append hsettle⟩
    have htracked : trackRow p.tracker h table d = p.tracker.performAll
        ([.addRow table h.commitTime, .setShard h.shard] ++
          ((if last then [.stage vgtid h.commitTime] else []) ++ [.settle])) := by
      cases last <;> rfl
    rw [← htracked]
    exact or_self_iff.1 (Handling.tracker_offer ..)

/-- Whether or not it succeeds, a message does to the tracker what some operations do. -/
theorem exists_performAll_handle (s : Setup) (sink : Sink) (p : Processor) (d : Delivery) :
    ∃ ops, (handle s sink p d).tracker = p.tracker.performAll ops ∧
      Counts ops ([d].filter (·.table?.isSome)) := by
  obtain ⟨m, vgtid, last, now⟩ := d
  cases m with
  | begin h => exact exists_performAll_handleBegin h vgtid
  | commit h => exact exists_performAll_handleCommit h vgtid
  | ddl h statement => exact ⟨[.rotate vgtid h.commitTime], rfl, ⟨rfl, rfl⟩⟩
  | other h => exact ⟨[.rotate vgtid h.commitTime], rfl, ⟨rfl, rfl⟩⟩
  | row h c => exact exists_performAll_handleRow h c vgtid last now

end Processor

namespace Worker

open Tracker (Operation Counts)

variable {s : Setup} {pipeline : Pipeline} {w : Worker}

/-- The messages that are handled, that is those which come before the processor has failed. The one
with which it fails is the last of them. -/
def handled (s : Setup) (pipeline : Pipeline) : Worker → List Delivery → List Delivery
  | _, [] => []
  | w, d :: ds =>
    if w.processor.phase = .failed then []
    else d :: handled s pipeline (w.step s pipeline d).1 ds

/-- The rows among them whose table can be told. -/
def counted (s : Setup) (pipeline : Pipeline) (w : Worker) (ds : List Delivery) : List Delivery :=
  (w.handled s pipeline ds).filter (·.table?.isSome)

theorem counted_failed (hw : w.processor.phase = .failed) (ds : List Delivery) :
    w.counted s pipeline ds = [] := by
  cases ds with
  | nil => rfl
  | cons d ds => rw [counted, handled, if_pos hw, List.filter_nil]

theorem counted_cons (hw : w.processor.phase ≠ .failed) (d : Delivery) (ds : List Delivery) :
    w.counted s pipeline (d :: ds) =
      [d].filter (·.table?.isSome) ++ (w.step s pipeline d).1.counted s pipeline ds := by
  rw [counted, handled, if_neg hw, ← List.singleton_append, List.filter_append, ← counted]

theorem exists_performAll_run (s : Setup) (pipeline : Pipeline) (w : Worker) (ds : List Delivery) :
    ∃ ops, (w.run s pipeline ds).processor.tracker = w.processor.tracker.performAll ops ∧
      Counts ops (w.counted s pipeline ds) := by
  induction ds generalizing w with
  | nil => exact ⟨[], rfl, Tracker.counts_nil⟩
  | cons d ds ih =>
    by_cases hw : w.processor.phase = .failed
    · rw [run_failed hw, counted_failed hw]
      exact ⟨[], rfl, Tracker.counts_nil⟩
    · obtain ⟨first, hfirst, hcounts⟩ :=
        Processor.exists_performAll_handle s (pipeline w.journal.events) w.processor d
      obtain ⟨rest, hrest, hcounts'⟩ := ih (w.step s pipeline d).1
      have hstep : (w.step s pipeline d).1.processor.tracker =
          w.processor.tracker.performAll first :=
        (Processor.process_eq_handle hw (Prod.eta _).symm).1.trans hfirst
      rw [run_cons, hrest, hstep, ← Tracker.performAll_append, counted_cons hw]
      exact ⟨_, rfl, hcounts.append hcounts'⟩

/-- Whatever messages come and whether or not one of them fails, a session has counted just the rows
that it handled and whose table can be told, by shard and by table; so both tallies come to the same
number. Whatever is done to its tracker then, the rows of the open transaction are those of its
tables together. -/
theorem tallies_are_of_handled_rows (s : Setup) (pipeline : Pipeline) {t : Tracker} (ht : t.IsStart)
    (ds : List Delivery) :
    let counted := (Worker.start t).counted s pipeline ds
    let after := ((Worker.start t).run s pipeline ds).processor.tracker
    (∀ shard, after.shardRows.count shard =
      counted.countP fun d => d.message.header.shard = shard) ∧
    (∀ table, after.tableRows.count table = counted.countP fun d => d.table? = some table) ∧
    (∑ shard ∈ after.shardRows.support, after.shardRows.count shard = counted.length ∧
      ∑ table ∈ after.tableRows.support, after.tableRows.count table = counted.length) ∧
    ∀ ops, let progress := (after.performAll ops).progress
      progress.rows = ∑ table ∈ progress.tableRows.support, progress.tableRows.count table := by
  intro counted after
  obtain ⟨ops, htracker, hcounts⟩ := exists_performAll_run s pipeline (Worker.start t) ds
  have hafter : after = t.performAll ops := htracker
  obtain ⟨hshards, htables⟩ := t.performAll_tallies ops
  obtain ⟨hnoShard, hnoTable⟩ := ht.tallies
  rw [hnoShard, hcounts.shards] at hshards
  rw [hnoTable, hcounts.tables] at htables
  have hbalanced : t.progress.Balanced := by
    rw [ht.progress]
    rfl
  refine ⟨fun shard => ?_, fun table => ?_, ⟨?_, ?_⟩, fun more => ?_⟩
  · rw [hafter, hshards, Tally.count_addAll, Tally.count_empty, Nat.zero_add, List.count_eq_countP,
      List.countP_map]
    rfl
  · rw [hafter, htables, Tally.count_addAll, Tally.count_empty, Nat.zero_add,
      List.count_filterMap]
    exact List.countP_congr fun d _ => by simp
  · have hsum : after.shardRows.sum = counted.length := by
      rw [hafter, hshards, Tally.sum_addAll, List.length_map, Tally.sum_empty, Nat.zero_add]
    exact hsum
  · have hsum : after.tableRows.sum = counted.length := by
      rw [hafter, htables, Tally.sum_addAll, Tally.sum_empty, Nat.zero_add,
        List.length_filterMap_eq_countP]
      exact List.countP_eq_length.2 fun d hd => (List.mem_filter.1 hd).2
    exact hsum
  · rw [hafter, ← Tracker.performAll_append]
    exact Tracker.performAll_balanced hbalanced (ops ++ more)

/-- The event of the third row is refused, after the row has been counted. Two rows name their table
in two ways. -/
theorem refused_row_is_counted :
    let halting : Pipeline := fun events => if events.length < 3 then Sink.open else Sink.closed
    let ds := Sample.transaction.take 3 ++ [Sample.row "items" "a:1-5" true, Sample.commit "a:1-5"]
    let ended := Sample.start.run Sample.setup halting ds
    let after := ended.processor.tracker
    ended.processor.phase = .failed ∧ after.shardRows.count "-80" = 3 ∧
      after.tableRows.count ⟨some "commerce", "orders"⟩ = 2 ∧
      after.tableRows.count ⟨some "commerce", "items"⟩ = 1 ∧
      ∑ table ∈ after.tableRows.support, after.tableRows.count table = 3 := by
  intro halting ds ended after
  obtain ⟨hshards, htables, ⟨-, hsum⟩, -⟩ :=
    tallies_are_of_handled_rows Sample.setup halting (.initial .standard default) ds
  have hcounted : Sample.start.counted Sample.setup halting ds =
      [Sample.row "orders" "a:1-9" false, Sample.row "commerce.orders" "a:1-5" true,
        Sample.row "items" "a:1-5" true] := by decide +kernel
  have hrun : Worker.start (.initial .standard default) = Sample.start := rfl
  rw [hrun, hcounted] at hshards htables hsum
  refine ⟨by decide +kernel, (hshards _).trans ?_, (htables _).trans ?_, (htables _).trans ?_, hsum⟩
  all_goals decide +kernel

end Worker

end ShardStream

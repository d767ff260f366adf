import Mathlib.Algebra.Group.Action.Defs
import Mathlib.Algebra.GroupWithZero.Nat
import Mathlib.Data.List.Forall2
import ShardStream.Proofs.OpenTransaction

/-! # What observers are told

Each observer is told of the rows whose events have been handed over, once each and in that order,
and of nothing else, whatever messages come in between and whether or not one of them fails.
Observers change nothing: with others in their place, or none, a session does the same. The one for
large rows gives notice of just those rows that it takes for large. A row is as large as the texts,
numbers, times and bytes in it, with the names of the table and of the columns.
-/
namespace ShardStream

namespace Event

/-- The table of the row whose change the event tells. -/
def changedTable? : Event → Option TableId
  | changed _ table _ => some table
  | _ => none

end Event

/-- The length of a text in UTF-8, character by character. -/
def Text.byteLength (s : String) : Nat := (s.toList.map Char.utf8Size).sum

theorem Text.utf8ByteSize_ofList (cs : List Char) :
    (String.ofList cs).utf8ByteSize = (cs.map Char.utf8Size).sum := by
  induction cs with
  | nil => rfl
  | cons c cs ih =>
    rw [String.ofList_cons, String.utf8ByteSize_append, String.utf8ByteSize_singleton, ih,
      List.map_cons, List.sum_cons]

theorem Text.byteLength_eq (s : String) : byteLength s = s.utf8ByteSize := by
  rw [byteLength, ← utf8ByteSize_ofList, String.ofList_toList]

/-- What a value counts for: nothing if there is none, the width of a number, a fixed length for a
time, and otherwise the length of its text or of the bytes themselves. -/
def CellValue.payload : CellValue → Nat
  | .null => 0
  | .int64 _ | .uint64 _ | .double _ => 8
  | .time _ => 12
  | .decimal s | .text s => Text.byteLength s
  | .bytes bs => bs.length
  | .json v => Text.byteLength v.render

theorem CellValue.size_eq_payload (v : CellValue) : v.size = v.payload := by
  cases v with
  | decimal s => exact (Text.byteLength_eq s).symm
  | text s => exact (Text.byteLength_eq s).symm
  | json v => exact (Text.byteLength_eq v.render).symm
  | _ => rfl

/-- A column counts for its name and its value. -/
def Column.payload (c : Column) : Nat := Text.byteLength c.name + c.value.payload

theorem Column.size_eq_payload : size = payload := by
  funext c
  rw [size, payload, Text.byteLength_eq, c.value.size_eq_payload]

namespace RowChange

/-- A change counts for the name of its table, as it was written, and for all columns before and
after. -/
def payload (c : RowChange) : Nat :=
  Text.byteLength c.table + ((c.before.getD [] ++ c.after.getD []).map Column.payload).sum

theorem columnsSize_eq (columns : Option (List Column)) :
    columnsSize columns = ((columns.getD []).map Column.payload).sum := by
  unfold columnsSize
  rw [Column.size_eq_payload]
  generalize columns.getD [] = cs
  induction cs with
  | nil => rfl
  | cons c cs ih => simp only [List.foldr_cons, ih, List.map_cons, List.sum_cons]

theorem size_eq_payload (c : RowChange) : c.size = c.payload := by
  rw [size, payload, columnsSize_eq, columnsSize_eq, Text.byteLength_eq, List.map_append,
    List.sum_append, Nat.add_assoc]

end RowChange

/-- What observers are to be told of a message when its event, if any, has been handed over. -/
def Delivery.dispatched? (d : Delivery) (event? : Option Event) : Option DispatchedRow :=
  match d.message, event?.bind (·.changedTable?) with
  | .row h c, some table => some ⟨table, h.shard, c.payload⟩
  | _, _ => none

namespace Notice

def isLargeRow : Notice → Bool
  | largeRow .. => true
  | _ => false

end Notice

namespace LargeRows

/-- The notice of a row, if it is large. -/
def warnings (large : LargeRows) (row : DispatchedRow) : List Notice :=
  if large.isLarge row then [.largeRow row.table row.shard row.bytes large.threshold] else []

theorem observe_eq_warnings (large : LargeRows) : large.observe = large.warnings := by
  funext row
  unfold observe warnings isLarge
  cases large.watches row.table <;> simp

end LargeRows

/-- The outcome with what observers say of its row. -/
def Outcome.heardBy (o : Outcome) (observers : List Observer) : Outcome :=
  { o with notices := o.notices ++ o.row.toList.flatMap fun row =>
      observers.flatMap fun observe => observe row }

theorem Handling.changedTable?_offer {sink : Sink} {t : Tracker} {notices : List Notice} {e : Event}
    {next : Handling} (he : e.changedTable? = none) :
    (offer sink t notices e next).event.bind (·.changedTable?) = none := by
  cases hsink : sink e with
  | some f =>
    rw [offer_refused hsink]
    rfl
  | none =>
    rw [offer_taken hsink]
    exact he

theorem Handling.mem_of_mem_offer {sink : Sink} {t : Tracker} {notices : List Notice} {e : Event}
    {next : Handling} {n : Notice} (hnext : next.notices = [])
    (hn : n ∈ (offer sink t notices e next).notices) : n ∈ notices := by
  cases hsink : sink e with
  | some f =>
    rw [offer_refused hsink] at hn
    exact hn
  | none =>
    rw [offer_taken hsink, hnext, List.append_nil] at hn
    exact hn

namespace Processor

variable {s : Setup} {sink : Sink} {p : Processor} {d : Delivery} {n : Notice}

/-- Observers add what they say of the row of a message, and change nothing else. -/
theorem handle_heardBy (s : Setup) (sink : Sink) (p : Processor) (d : Delivery) :
    handle s sink p d =
      { handle (s.observedBy []) sink p d with
        notices := (handle (s.observedBy []) sink p d).notices ++
          (handle (s.observedBy []) sink p d).row.toList.flatMap fun row =>
            s.observers.flatMap fun observe => observe row } := by
  cases hd : d.isRow with
  | false =>
    -- without a row there is nothing to add
    have hrow := (notes_handle (s.observedBy []) sink p hd).row
    rw [hrow]
    simp only [Option.toList_none, List.flatMap_nil, List.append_nil]
    obtain ⟨m, vgtid, last, now⟩ := d
    cases m with
    | row => cases hd
    | _ => rfl
  | true =>
    obtain ⟨m, vgtid, last, now⟩ := d
    cases m with
    | row h c =>
      simp only [handle, handleRow]
      cases TableId.resolve? h.keyspace c.table with
      | none => simp [Handling.fail]
      | some table =>
        dsimp only
        generalize trackRow p.tracker h table ⟨.row h c, vgtid, last, now⟩ = tracked
        have hpartition : (s.observedBy []).partition = s.partition := rfl
        rw [hpartition]
        cases hsink : sink (.changed s.partition table (recordOf tracked table c now)) with
        | some f => simp [Handling.offer_refused hsink, Handling.fail]
        | none => simp [Handling.offer_taken hsink, Setup.observedBy, Handling.done]
    | _ => cases hd

theorem process_heardBy (s : Setup) (sink : Sink) (p : Processor) (d : Delivery) :
    p.process s sink d = ((p.process (s.observedBy []) sink d).1,
      (p.process (s.observedBy []) sink d).2.heardBy s.observers) := by
  unfold process
  split
  · rfl
  · rw [handle_heardBy s]
    dsimp only
    cases (handle (s.observedBy []) sink p d).result <;> rfl

/-- Only a row has an event that tells a change. -/
theorem changedTable?_handle (s : Setup) (sink : Sink) (p : Processor) (hd : d.isRow = false) :
    (handle s sink p d).event.bind (·.changedTable?) = none := by
  obtain ⟨m, vgtid, last, now⟩ := d
  cases m with
  | begin h =>
    simp only [handle, handleBegin]
    cases beginId? h vgtid with
    | none => rfl
    | some id =>
      simp only
      split
      · rfl
      · exact Handling.changedTable?_offer rfl
  | commit h => exact Handling.changedTable?_offer rfl
  | ddl => rfl
  | other => rfl
  | row => cases hd

/-- Observers are told of a row just if the event of its change has been handed over. -/
theorem handle_dispatched? (s : Setup) (sink : Sink) (p : Processor) (d : Delivery) :
    (handle s sink p d).row = d.dispatched? (handle s sink p d).event ∧
      (handle s sink p d).row.map (·.table) =
        (handle s sink p d).event.bind (·.changedTable?) := by
  cases hd : d.isRow with
  | false =>
    have hevent := changedTable?_handle s sink p hd
    rw [Delivery.dispatched?, hevent, (notes_handle s sink p hd).row]
    constructor
    · cases d.message <;> rfl
    · rfl
  | true =>
    obtain ⟨m, vgtid, last, now⟩ := d
    cases m with
    | row h c =>
      simp only [handle, handleRow]
      cases TableId.resolve? h.keyspace c.table with
      | none => exact ⟨rfl, rfl⟩
      | some table =>
        dsimp only
        generalize trackRow p.tracker h table ⟨.row h c, vgtid, last, now⟩ = tracked
        cases hsink : sink (.changed s.partition table (recordOf tracked table c now)) with
        | some f =>
          rw [Handling.offer_refused hsink]
          exact ⟨rfl, rfl⟩
        | none =>
          rw [Handling.offer_taken hsink, c.size_eq_payload]
          exact ⟨rfl, rfl⟩
    | _ => cases hd

theorem process_dispatched? (s : Setup) (sink : Sink) (p : Processor) (d : Delivery) :
    (p.process s sink d).2.row = d.dispatched? (p.process s sink d).2.event ∧
      (p.process s sink d).2.row.map (·.table) =
        (p.process s sink d).2.event.bind (·.changedTable?) := by
  have hhandle := handle_dispatched? s sink p d
  unfold process
  split
  · refine ⟨?_, rfl⟩
    unfold Delivery.dispatched?
    cases d.message <;> rfl
  · dsimp only
    cases (handle s sink p d).result <;> exact hhandle

theorem mem_notices_handleBegin {h : Header} {vgtid : Vgtid}
    (hn : n ∈ (handleBegin s sink p h vgtid).notices) :
    n ∈ noticeOpen p.phase h.shard ∨ n ∈ p.tracker.vgtid.noticeBack vgtid ∨
      ∃ before after epoch, n = .hostsChanged h.shard before after epoch := by
  unfold handleBegin at hn
  cases hid : beginId? h vgtid with
  | none =>
    rw [hid] at hn
    exact .inl hn
  | some id =>
    simp only [hid] at hn
    cases horder : orderFor s (p.tracker.rotate vgtid h.commitTime).1 h.shard id with
    | error f =>
      rw [horder] at hn
      exact (List.mem_append.1 hn).imp_right .inl
    | ok a =>
      obtain ⟨order, ordered, changed⟩ := a
      simp only [horder] at hn
      rcases List.mem_append.1 (Handling.mem_of_mem_offer rfl hn) with hn | hn
      · exact (List.mem_append.1 hn).imp_right .inl
      · exact .inr (.inr (exists_of_mem_orderFor horder hn))

/-- What is noticed of a message that is not a row: that it does not fit to what is open, that a
position goes back, or that the hosts of a shard have changed. -/
theorem mem_notices_handle (hd : d.isRow = false) (hn : n ∈ (handle s sink p d).notices) :
    n ∈ d.mismatches p.phase ∨ n ∈ p.tracker.vgtid.noticeBack d.vgtid ∨
      ∃ shard before after epoch, n = .hostsChanged shard before after epoch := by
  obtain ⟨m, vgtid, last, now⟩ := d
  cases m with
  | begin h => exact (mem_notices_handleBegin hn).imp_right (.imp_right fun hhosts => ⟨_, hhosts⟩)
  | commit h =>
    exact (List.mem_append.1 (Handling.mem_of_mem_offer rfl hn)).imp_right .inl
  | ddl h statement => exact .inr (.inl hn)
  | other h => exact .inr (.inl hn)
  | row => cases hd

theorem not_isLargeRow_of_mem_mismatches {phase : Phase} (hn : n ∈ d.mismatches phase) :
    n.isLargeRow = false := by
  obtain ⟨m, vgtid, last, now⟩ := d
  cases m with
  | begin h =>
    cases phase with
    | inTransaction id shard =>
      rw [List.mem_singleton.1 hn]
      rfl
    | _ => cases hn
  | commit h =>
    cases phase with
    | idle =>
      rw [List.mem_singleton.1 hn]
      rfl
    | _ => cases hn
  | _ => cases hn

/-- Nobody but observers gives notice of large rows. -/
theorem not_isLargeRow_of_mem_handle (hn : n ∈ (handle (s.observedBy []) sink p d).notices) :
    n.isLargeRow = false := by
  cases hd : d.isRow with
  | true =>
    obtain ⟨row, -, observe, hobserve, -⟩ := (mem_notices_handle_row hd).1 hn
    cases hobserve
  | false =>
    rcases mem_notices_handle hd hn with hn | hn | ⟨shard, before, after, epoch, rfl⟩
    · exact not_isLargeRow_of_mem_mismatches hn
    · rw [Vgtid.eq_of_mem_noticeBack hn]
      rfl
    · rfl

theorem not_isLargeRow_of_mem_process (hn : n ∈ (p.process (s.observedBy []) sink d).2.notices) :
    n.isLargeRow = false := by
  by_cases hp : p.phase = .failed
  · rw [process_failed hp] at hn
    cases hn
  · rw [(process_eq_handle hp (Prod.eta _).symm).2.1] at hn
    exact not_isLargeRow_of_mem_handle hn

end Processor

namespace Worker

variable {s : Setup} {pipeline : Pipeline} {w : Worker}

theorem journal_run (s : Setup) (pipeline : Pipeline) (w : Worker) (ds : List Delivery) :
    (w.run s pipeline ds).journal.events =
        w.journal.events ++ (w.outcomes s pipeline ds).filterMap (·.event) ∧
      (w.run s pipeline ds).journal.rows =
        w.journal.rows ++ (w.outcomes s pipeline ds).filterMap (·.row) := by
  simp only [List.filterMap_eq_flatMap_toList]
  induction ds generalizing w with
  | nil => exact ⟨(List.append_nil _).symm, (List.append_nil _).symm⟩
  | cons d ds ih =>
    obtain ⟨hevents, hrows⟩ := ih (w.step s pipeline d).1
    have hjournal : (w.step s pipeline d).1.journal =
        w.journal.add (w.step s pipeline d).2 := rfl
    rw [run_cons, hevents, hrows, hjournal, outcomes, List.flatMap_cons, List.flatMap_cons,
      ← List.append_assoc, ← List.append_assoc]
    exact ⟨rfl, rfl⟩

/-- What every message leads to, from whichever processor, every message of a run leads to. -/
theorem forall_mem_outcomes {P : Outcome → Prop}
    (h : ∀ sink p d, P (Processor.process s sink p d).2) (w : Worker) (ds : List Delivery) :
    ∀ o ∈ w.outcomes s pipeline ds, P o := by
  induction ds generalizing w with
  | nil => exact List.forall_mem_nil _
  | cons d ds ih => exact List.forall_mem_cons.2 ⟨h _ w.processor d, ih _⟩

theorem outcomes_dispatched? (s : Setup) (pipeline : Pipeline) (w : Worker) (ds : List Delivery) :
    List.Forall₂ (fun d o => o.row = d.dispatched? o.event) ds (w.outcomes s pipeline ds) := by
  induction ds generalizing w with
  | nil => exact .nil
  | cons d ds ih => exact .cons (Processor.process_dispatched? s _ w.processor d).1 (ih _)

/-- Since nothing else depends on observers, those of two workers may have been told of different
rows before. -/
theorem outcomes_heardBy {v : Worker} (hprocessor : w.processor = v.processor)
    (hevents : w.journal.events = v.journal.events) (ds : List Delivery) :
    w.outcomes s pipeline ds =
      (v.outcomes (s.observedBy []) pipeline ds).map (·.heardBy s.observers) := by
  induction ds generalizing w v with
  | nil => rfl
  | cons d ds ih =>
    have hprocess := Processor.process_heardBy s (pipeline w.journal.events) w.processor d
    rw [hprocessor, hevents] at hprocess
    have hstep : (w.step s pipeline d).2 =
        (v.step (s.observedBy []) pipeline d).2.heardBy s.observers := by
      rw [step, hprocessor, hevents, hprocess]
      rfl
    rw [outcomes, outcomes, List.map_cons, hstep, ih]
    · rw [step, hprocessor, hevents, hprocess]
      rfl
    · change w.journal.events ++ (w.step s pipeline d).2.event.toList = _
      rw [hstep, hevents]
      rfl

/-- Whatever messages come and whether or not one of them fails: observers are told of a row just if
it is the row of a message whose event was handed over, with the table of that event, the shard of
the message and the size of its change, in the order of the events. Apart from what they say
of those rows, a session goes as it does without observers. An observer for large rows gives in its
turn one notice of each row that it takes for large; only observers give such notices. -/
theorem observers_see_dispatched_rows (s : Setup) (pipeline : Pipeline) (t : Tracker)
    (ds : List Delivery) :
    let outcomes := (Worker.start t).outcomes s pipeline ds
    let unobserved := (Worker.start t).outcomes (s.observedBy []) pipeline ds
    let journal := ((Worker.start t).run s pipeline ds).journal
    (List.Forall₂ (fun d o => o.row = d.dispatched? o.event) ds outcomes ∧
      journal.events = outcomes.filterMap (·.event) ∧
      journal.rows = outcomes.filterMap (·.row) ∧
      journal.rows.map (·.table) = journal.events.filterMap (·.changedTable?)) ∧
    outcomes = unobserved.map (fun o => { o with
      notices := o.notices ++ o.row.toList.flatMap fun row =>
        s.observers.flatMap fun observe => observe row }) ∧
    (∀ o ∈ unobserved, ∀ n ∈ o.notices, n.isLargeRow = false) ∧
    ∀ (before after : List Observer) (large : LargeRows),
      s.observers = before ++ large.observe :: after →
      outcomes = unobserved.map fun o => { o with
        notices := o.notices ++ o.row.toList.flatMap fun row =>
          before.flatMap (fun observe => observe row) ++
            (if large.isLarge row then
              [.largeRow row.table row.shard row.bytes large.threshold] else []) ++
            after.flatMap fun observe => observe row } := by
  intro outcomes unobserved journal
  obtain ⟨hevents, hrows⟩ := journal_run s pipeline (Worker.start t) ds
  have hevents : journal.events = outcomes.filterMap (·.event) := hevents
  have hrows : journal.rows = outcomes.filterMap (·.row) := hrows
  have htables : ∀ o ∈ outcomes, o.row.map (·.table) = o.event.bind (·.changedTable?) :=
    forall_mem_outcomes (fun sink p d => (Processor.process_dispatched? s sink p d).2) _ ds
  have hheard : outcomes = unobserved.map (·.heardBy s.observers) := outcomes_heardBy rfl rfl ds
  refine ⟨⟨outcomes_dispatched? s pipeline _ ds, hevents, hrows, ?_⟩, hheard,
    forall_mem_outcomes (fun sink p d n hn => Processor.not_isLargeRow_of_mem_process hn) _ ds, ?_⟩
  · rw [hevents, hrows, List.map_filterMap, List.filterMap_filterMap]
    exact List.filterMap_congr htables
  · intro before after large hobservers
    rw [hheard]
    refine List.map_congr_left fun o _ => ?_
    simp only [Outcome.heardBy, hobservers, List.flatMap_append, List.flatMap_cons,
      large.observe_eq_warnings, LargeRows.warnings, List.append_assoc]

end Worker

namespace Sample

/-- The row of an order before and after its payment: two columns each, with names and texts of more
bytes than characters. -/
def paidRow (table gtid : String) (last : Bool) : Delivery :=
  ⟨.row (header none) (.update table [⟨"id", .int64 1⟩, ⟨"상태", .null⟩]
    [⟨"id", .int64 1⟩, ⟨"상태", .text "결제"⟩]), position gtid, last, default⟩

end Sample

namespace Worker

/-- Without the keyspace in the name of its table the first row is not large. The third one, which
is as large as the second, is refused by the pipeline, and nobody hears of it. -/
theorem refused_large_row_is_not_noticed :
    let large := LargeRows.everywhere 50
    let s := Sample.setup.observedBy [large.observe, (LargeRows.everywhere 100).observe]
    let halting : Pipeline := fun events => if events.length < 3 then Sink.open else Sink.closed
    let ds := [Sample.begin "a:1-5" "a:1-4", Sample.paidRow "orders" "a:1-9" false,
      Sample.paidRow "commerce.orders" "a:1-9" false, Sample.paidRow "commerce.orders" "a:1-5" true,
      Sample.commit "a:1-5"]
    let orders : TableId := ⟨some "commerce", "orders"⟩
    (Sample.start.run s halting ds).journal.rows = [⟨orders, "-80", 44⟩, ⟨orders, "-80", 53⟩] ∧
      (Sample.start.outcomes s halting ds).map (·.notices) =
        [[], [], [.largeRow orders "-80" 53 50], [], []] := by
  intro large s halting ds orders
  obtain ⟨⟨-, -, hrows, -⟩, -, -, hlarge⟩ :=
    observers_see_dispatched_rows s halting (.initial .standard default) ds
  constructor
  · refine Eq.trans hrows ?_
    decide +kernel
  · have houtcomes := hlarge [] [(LargeRows.everywhere 100).observe] large rfl
    refine Eq.trans (congrArg (List.map (·.notices)) houtcomes) ?_
    decide +kernel

end Worker

end ShardStream

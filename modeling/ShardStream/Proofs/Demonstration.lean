import ShardStream.Demo
import ShardStream.Proofs.Epochs
import ShardStream.Proofs.Gtid.Reading
import ShardStream.Proofs.Sessions
import ShardStream.Proofs.StartPosition
import ShardStream.Proofs.TableNames

/-! # What the demonstration shows

The rows of the demonstration name their table together with the keyspace. A keyspace without a dot
makes a name that can be read, and the whole transaction is shown. With a dot in the keyspace, which
the configuration may have, the first row fails the session. Neither the library of patterns nor
what the clock says makes a difference, and the capacity of the channel for events only decides
whether there is a session at all.
-/
namespace ShardStream

/-- The offset is at the position and outside of a transaction. -/
def StoredOffset.CommittedAt (o : StoredOffset) (position : Vgtid) : Prop :=
  o.vgtid = position ∧ o.transactionId = none

/-- What is checked of a configuration. -/
theorem Config.validate_eq_ok_iff {c : Config} {patterns : Patterns} :
    c.validate patterns = .ok () ↔
      isBlankText c.serverName = false ∧ isBlankText c.keyspace = false ∧
        c.pollInterval ≠ .zero ∧ c.capacity ≠ 0 ∧
        ∀ p ∈ c.largeRowPattern, (patterns p).isSome = true := by
  unfold validate
  cases isBlankText c.serverName with
  | true => simp
  | false =>
    cases isBlankText c.keyspace with
    | true => simp
    | false =>
      by_cases hpoll : c.pollInterval = .zero
      · simp [hpoll]
      · by_cases hcapacity : c.capacity = 0
        · simp [hpoll, hcapacity]
        · cases c.largeRowPattern with
          | none => simp [hpoll, hcapacity]
          | some p => cases hp : patterns p <;> simp [hpoll, hcapacity, hp]

/-- There is an observer for every configuration that is accepted. -/
theorem LargeRows.exists_ofConfig {c : Config} {patterns : Patterns}
    (hc : c.validate patterns = .ok ()) : ∃ observer, ofConfig patterns c = .ok observer := by
  obtain ⟨-, -, -, -, hpattern⟩ := Config.validate_eq_ok_iff.1 hc
  unfold ofConfig
  cases hp : c.largeRowPattern with
  | none => exact ⟨_, rfl⟩
  | some p =>
    obtain ⟨isFoundIn, hread⟩ := Option.isSome_iff_exists.1 (hpattern p hp)
    simp only [matching, hread]
    exact ⟨_, rfl⟩

namespace Processor

/-- Messages that are taken one after the other, with the last processor and all outcomes. -/
inductive TakesAll (s : Setup) (sink : Sink) :
    Processor → List Delivery → Processor → List Outcome → Prop
  | nil (p : Processor) : TakesAll s sink p [] p []
  | cons {p p' p'' : Processor} {d : Delivery} {o : Outcome} {ds : List Delivery}
      {os : List Outcome} (first : Takes s sink p d p' o) (rest : TakesAll s sink p' ds p'' os) :
      TakesAll s sink p (d :: ds) p'' (o :: os)

/-- A worker takes such messages if its pipeline always answers in the same way. -/
theorem TakesAll.run {s : Setup} {sink : Sink} {w : Worker} {p : Processor} {ds : List Delivery}
    {os : List Outcome} (h : TakesAll s sink w.processor ds p os)
    (hw : w.processor.phase ≠ .failed) : w.Accepts s (fun _ => sink) ds ∧
      w.run s (fun _ => sink) ds = ⟨p, os.foldl Journal.add w.journal⟩ := by
  obtain ⟨q, j⟩ := w
  simp only at h hw
  induction h generalizing j with
  | nil q => exact ⟨Worker.accepts_nil, rfl⟩
  | @cons q r p d o ds os first rest ih =>
    have hstep : (⟨q, j⟩ : Worker).step s (fun _ => sink) d = (⟨r, j.add o⟩, o) := by
      rw [Worker.step, first.process hw]
    obtain ⟨haccepts, hrun⟩ := ih (j.add o) (first.phase_ne_failed hw)
    rw [Worker.accepts_cons, Worker.run_cons, hstep]
    exact ⟨⟨first.result, haccepts⟩, hrun⟩

end Processor

namespace Demo

open Processor

variable {c : Config} {patterns : Patterns} {times : Times}

def shard (c : Config) : String := c.shards.headD "0"

def reached (c : Config) (n : Nat) : Vgtid := ⟨[⟨c.keyspace, shard c, gtid n⟩]⟩

def header (c : Config) (m : Moments) : Header := ⟨c.keyspace, shard c, none, m.written⟩

def named (c : Config) : String := c.keyspace ++ ".orders"

def opening (c : Config) (m : Moments) : Delivery :=
  ⟨.begin { header c m with transactionId := some (gtid 11) }, reached c 10, false, m.handled⟩

def creation (c : Config) (m : Moments) : Delivery :=
  ⟨.row (header c m) (.insert (named c) created), reached c 10, false, m.handled⟩

def payment (c : Config) (m : Moments) : Delivery :=
  ⟨.row (header c m) (.update (named c) created paid), reached c 11, true, m.handled⟩

def closing (c : Config) (m : Moments) : Delivery :=
  ⟨.commit (header c m), reached c 11, false, m.handled⟩

/-- The table that is meant, in the keyspace without the blanks that it starts with. -/
def orders (c : Config) : TableId :=
  ⟨some (String.ofList (Text.trimStart c.keyspace.toList)), "orders"⟩

theorem resolve?_named (hc : c.validate patterns = .ok ()) :
    TableId.resolve? c.keyspace (named c) =
      if '.' ∈ c.keyspace.toList then none else some (orders c) := by
  obtain ⟨-, hblank, -⟩ := Config.validate_eq_ok_iff.1 hc
  have hkeyspace : Text.trim c.keyspace.toList ≠ [] := of_decide_eq_false hblank
  have hname : named c = c.keyspace ++ "." ++ "orders" := by
    rw [String.append_assoc]
    rfl
  have htight : Text.EndsTight "orders".toList := ⟨'s', by decide, by decide⟩
  rw [hname, TableId.resolve?_qualified c.keyspace htight (by decide) hkeyspace]
  rfl

/-- The order of the only transaction, if orders are asked for. -/
def order? (c : Config) : Option TransactionOrder := if c.ordered then some ⟨0, 11⟩ else none

/-- The source from the first row on, with the position at the first `n` transactions. -/
def rowSource (c : Config) (m : Moments) (n : Nat) : Source :=
  ⟨c.serverName, c.keyspace, some (shard c), reached c n, m.written, some (orders c)⟩

/-- The start of the transaction, its two rows and its end. The time of each event is that of its
message; only the record of a row tells when the row was handled. -/
def shown (c : Config) (times : Times) : List Event :=
  let start : Source := ⟨c.serverName, c.keyspace, none, reached c 10, times.opening.written, none⟩
  let block (n : UInt64) : TransactionBlock := ⟨gtid 11, n, n, order? c⟩
  [.started ⟨c.serverName⟩ ⟨gtid 11, shard c, order? c⟩ start times.opening.written,
   .changed ⟨c.serverName⟩ (orders c)
    ⟨.insert, orders c, none, some created, rowSource c times.creation 10, some (block 1),
      times.creation.handled⟩,
   .changed ⟨c.serverName⟩ (orders c)
    ⟨.update, orders c, some created, some paid, rowSource c times.payment 11, some (block 2),
      times.payment.handled⟩,
   .committed ⟨c.serverName⟩ (some (gtid 11)) 2 (rowSource c times.closing 11)
    times.closing.written]

/-- The tracker after the start of the transaction. -/
def begun (c : Config) (m : Moments) (e : Epochs) : Tracker :=
  ⟨⟨c.serverName, c.keyspace, none, reached c 10, m.written, none⟩, .none,
    .begin (some (gtid 11)) (order? c), e, .empty, .empty⟩

/-- The tracker after one more row, which leads to the first `n` transactions. -/
def afterRow (c : Config) (m : Moments) (n : Nat) (t : Tracker) : Tracker where
  source := rowSource c m n
  staged := .none
  progress := t.progress.addRow (orders c)
  epochs := t.epochs
  shardRows := t.shardRows.add (shard c)
  tableRows := t.tableRows.add (orders c)

def setup (c : Config) (observer : LargeRows) : Setup :=
  ⟨⟨c.serverName⟩, gtidRanking, c.ordered, [observer.observe]⟩

theorem orderFor_opening (c : Config) (observer : LargeRows) {t : Tracker}
    (ht : t.epochs = .fresh) (shard : String) :
    ∃ e, orderFor (setup c observer) t shard (gtid 11) =
      .ok (order? c, { t with epochs := e }, []) := by
  have hrank : (setup c observer).ranking (gtid 11) = .ok 11 := by
    change gtidRanking (gtid 11) = .ok 11
    decide +kernel
  cases hordered : c.ordered with
  | false =>
    refine ⟨t.epochs, ?_⟩
    rw [orderFor_unordered hordered, order?, hordered]
    rfl
  | true =>
    obtain ⟨set, hset, -⟩ := ok_of_bind hrank
    refine ⟨⟨KeyMap.empty.insert shard 0, KeyMap.empty.insert shard set⟩, ?_⟩
    rw [orderFor_ordered hordered, ht, Epochs.order_of_ok .fresh shard hrank hset, order?, hordered]
    rfl

theorem takes_opening (c : Config) (observer : LargeRows) (times : Times) :
    ∃ e o, Takes (setup c observer) Sink.open (.start (.initial c times.start))
        (opening c times.opening)
        ⟨begun c times.opening e, .inTransaction (gtid 11) (shard c)⟩ o ∧
      o.event.toList = (shown c times).take 1 := by
  obtain ⟨e, horder⟩ := orderFor_opening c observer (t :=
    ((Tracker.initial c times.start).rotate (reached c 10) times.opening.written).1) rfl (shard c)
  exact ⟨e, _, .begin rfl rfl horder rfl rfl, rfl⟩

variable {observer : LargeRows} {e : Epochs} {phase : Phase}

theorem takes_creation (hnamed : TableId.resolve? c.keyspace (named c) = some (orders c)) :
    ∃ o, Takes (setup c observer) Sink.open ⟨begun c times.opening e, phase⟩
        (creation c times.creation)
        ⟨afterRow c times.creation 10 (begun c times.opening e), phase⟩ o ∧
      o.event.toList = ((shown c times).drop 1).take 1 := by
  have htracked : trackRow (begun c times.opening e) (header c times.creation) (orders c)
      (creation c times.creation) = afterRow c times.creation 10 (begun c times.opening e) :=
    trackRow_eq rfl ..
  refine ⟨_, .row hnamed htracked rfl, ?_⟩
  simp [shown, recordOf, afterRow, begun, Tracker.block, Tally.count_add,
    Progress.addRow, Progress.begin, setup, RowChange.insert]

/-- The tracker after both rows. -/
def afterRows (c : Config) (times : Times) (e : Epochs) : Tracker :=
  afterRow c times.payment 11 (afterRow c times.creation 10 (begun c times.opening e))

theorem takes_payment (hnamed : TableId.resolve? c.keyspace (named c) = some (orders c)) :
    ∃ o, Takes (setup c observer) Sink.open
        ⟨afterRow c times.creation 10 (begun c times.opening e), phase⟩ (payment c times.payment)
        ⟨afterRows c times e, phase⟩ o ∧
      o.event.toList = ((shown c times).drop 2).take 1 := by
  have htracked : trackRow (afterRow c times.creation 10 (begun c times.opening e))
      (header c times.payment) (orders c) (payment c times.payment) = afterRows c times e :=
    trackRow_eq rfl ..
  refine ⟨_, .row hnamed htracked rfl, ?_⟩
  simp [shown, recordOf, afterRows, afterRow, begun, Tracker.block, Tally.count_add,
    Progress.addRow, Progress.begin, setup, RowChange.update]

theorem takes_closing : ∃ p o, Takes (setup c observer) Sink.open
      ⟨afterRows c times e, phase⟩ (closing c times.closing) p o ∧
    o.event.toList = (shown c times).drop 3 ∧
    p.tracker.stored.CommittedAt (reached c 11) :=
  ⟨_, _, .commit rfl rfl, rfl, rfl, rfl⟩

/-- The position that comes with the last message of the script. -/
def goal (c : Config) (times : Times) : Vgtid :=
  ((script c.keyspace (shard c) times).getLastD default).vgtid

/-- The session was stopped when it had shown the whole transaction and come to its end. -/
structure Complete (c : Config) (times : Times) (result : Streaming × SessionEnd) : Prop where
  ending : result.2 = .stopped
  inbox : result.1.inbox = .empty
  events : result.1.journal.events = shown c times
  offset : result.1.offset.CommittedAt (goal c times)

/-- The session has failed at the first row, with the transaction still open. -/
structure BrokenOff (c : Config) (times : Times) (result : Streaming × SessionEnd) : Prop where
  ending : result.2 = .failed
  inbox : result.1.inbox = ⟨some (.unresolvableTable (c.keyspace ++ ".orders") (shard c)), 1⟩
  events : result.1.journal.events = (shown c times).take 1
  offset : ¬ result.1.offset.CommittedAt (goal c times)

/-- The session waits for more when it has taken all of the script. -/
theorem stops_after_script (c : Config) (observer : LargeRows) (times : Times)
    (hnamed : TableId.resolve? c.keyspace (named c) = some (orders c)) :
    let fresh := Tracker.initial c times.start
    let taken := script c.keyspace (shard c) times
    let after := (Worker.start fresh).run (setup c observer) (fun _ => .open) taken
    (Worker.start fresh).StopsAfter (setup c observer) (fun _ => .open) false
        (taken.map .delivery) taken [] none ∧
      after.journal.events = shown c times ∧
      (after.journal.published.getLastD fresh.stored).CommittedAt (goal c times) := by
  intro fresh taken after
  obtain ⟨e, o₁, hopening, hshown₁⟩ := takes_opening c observer times
  obtain ⟨o₂, hcreation, hshown₂⟩ := takes_creation hnamed
  obtain ⟨o₃, hpayment, hshown₃⟩ := takes_payment hnamed
  obtain ⟨p, o₄, hclosing, hshown₄, hcommitted⟩ := takes_closing
  have htakes : TakesAll (setup c observer) Sink.open (Worker.start fresh).processor
      taken p [o₁, o₂, o₃, o₄] :=
    .cons hopening (.cons hcreation (.cons hpayment (.cons hclosing (.nil p))))
  obtain ⟨haccepts, hafter⟩ := htakes.run nofun
  refine ⟨⟨(List.append_nil _).symm, haccepts, .waiting⟩, ?_, ?_⟩
  · simp only [after, hafter, List.foldl_cons, List.foldl_nil, Journal.add, hshown₁, hshown₂,
      hshown₃, hshown₄]
    rfl
  · simp only [after, hafter, List.foldl_cons, List.foldl_nil, Journal.add, hclosing.published,
      Option.toList_some, List.getLastD_concat]
    exact hcommitted

/-- The session stops before the first row if the name of the table cannot be read. -/
theorem stops_before_rows (c : Config) (observer : LargeRows) (times : Times)
    (hnamed : TableId.resolve? c.keyspace (named c) = none) :
    let fresh := Tracker.initial c times.start
    let after := (Worker.start fresh).run (setup c observer) (fun _ => .open)
      [opening c times.opening]
    (Worker.start fresh).StopsAfter (setup c observer) (fun _ => .open) false
        ((script c.keyspace (shard c) times).map .delivery) [opening c times.opening]
        ([creation c times.creation, payment c times.payment, closing c times.closing].map
          .delivery)
        (some (.unresolvableTable (named c) (shard c))) ∧
      after.journal.events = (shown c times).take 1 ∧
      ¬ (after.journal.published.getLastD fresh.stored).CommittedAt (goal c times) := by
  intro fresh after
  obtain ⟨e, o, hopening, hshown⟩ := takes_opening c observer times
  have htakes : TakesAll (setup c observer) Sink.open (Worker.start fresh).processor
      [opening c times.opening] ⟨begun c times.opening e, .inTransaction (gtid 11) (shard c)⟩ [o] :=
    .cons hopening (.nil _)
  obtain ⟨haccepts, hrun⟩ := htakes.run nofun
  have hafter : after = ⟨_, Journal.empty.add o⟩ := hrun
  have hfails :
      (after.step (setup c observer) (fun _ => .open) (creation c times.creation)).2.result =
        .error (.unresolvableTable (named c) (shard c)) := by
    rw [hafter]
    simp only [Worker.step, Processor.process, creation, handle, handleRow, header,
      RowChange.insert, hnamed]
    rfl
  refine ⟨⟨rfl, haccepts, .refused false _ hfails⟩, ?_, ?_⟩
  · rw [hafter]
    exact hshown
  · rw [hafter, Journal.add, hopening.published]
    -- the transaction is still open
    rintro ⟨-, hnone⟩
    cases hnone

/-- What is left is what the messages lead to that were taken. -/
theorem play_of_stopsAfter {taken : List Delivery} {rest : List Item} {fault? : Option Fault}
    (h : (Worker.start (.initial c times.start)).StopsAfter (setup c observer) (fun _ => .open)
      false ((script c.keyspace (shard c) times).map .delivery) taken rest fault?) :
    let fresh := Tracker.initial c times.start
    let run := (Worker.start fresh).run (setup c observer) (fun _ => .open) taken
    let result := play c observer times
    result.2 = (if fault?.isSome then .failed else .stopped) ∧
      result.1.inbox = fault?.elim .empty (fun f => (FaultInbox.empty.report f).1) ∧
      result.1.journal.events = run.journal.events ∧
      result.1.offset = run.journal.published.getLastD fresh.stored := by
  have hsent : (session c observer times).connection =
      .fed ((script c.keyspace (shard c) times).map .delivery) false := by
    rw [Connection.fed, List.foldl_map]
    rfl
  obtain ⟨hending, hinbox, hevents, -, -, hoffset, -⟩ :=
    Streaming.leaves_of_stopsAfter hsent ⟨c.serverName⟩ none times.start h
  exact ⟨hending, hinbox, hevents, hoffset⟩

/-- The session fails at the first row if there is a dot in the keyspace. -/
theorem brokenOff_play (hc : c.validate patterns = .ok ()) (observer : LargeRows) (times : Times)
    (hdot : '.' ∈ c.keyspace.toList) : BrokenOff c times (play c observer times) := by
  have hnamed := resolve?_named hc
  rw [if_pos hdot] at hnamed
  obtain ⟨hstops, hevents, hoffset⟩ := stops_before_rows c observer times hnamed
  obtain ⟨hending, hinbox, hshown, hleft⟩ := play_of_stopsAfter hstops
  rw [← hleft] at hoffset
  exact ⟨hending, hinbox, hshown.trans hevents, hoffset⟩

theorem complete_play (hc : c.validate patterns = .ok ()) (observer : LargeRows) (times : Times)
    (hdot : '.' ∉ c.keyspace.toList) : Complete c times (play c observer times) := by
  have hnamed := resolve?_named hc
  rw [if_neg hdot] at hnamed
  obtain ⟨hstops, hevents, hoffset⟩ := stops_after_script c observer times hnamed
  obtain ⟨hending, hinbox, hshown, hleft⟩ := play_of_stopsAfter hstops
  rw [← hleft] at hoffset
  exact ⟨hending, hinbox, hshown.trans hevents, hoffset⟩

/-- Whatever patterns the library knows and whatever the clock says: a configuration that is
accepted has its session if channels can be made that are as large as it says. The session is
complete if there is no dot in the keyspace, and breaks off otherwise. -/
theorem complete_unless_dotted (patterns : Patterns) (maxCapacity : UInt64) (c : Config)
    (hc : c.validate patterns = .ok ()) (times : Times) :
    if maxCapacity < connectionCapacity ∨ maxCapacity < c.capacity then
      perform patterns maxCapacity c times = .aborted
    else ∃ result, perform patterns maxCapacity c times = .over result ∧
      if '.' ∈ c.keyspace.toList then BrokenOff c times result else Complete c times result := by
  unfold perform
  split
  · rfl
  · obtain ⟨observer, hobserver⟩ := LargeRows.exists_ofConfig hc
    rw [hobserver]
    refine ⟨play c observer times, rfl, ?_⟩
    split
    · next hdot => exact brokenOff_play hc observer times hdot
    · next hdot => exact complete_play hc observer times hdot

end Demo

namespace Sample

/-- What the clock says when every reading is a second later than the one before. -/
def ticking : Demo.Times :=
  let tick (n : Int) : Instant := (Instant.of? n 0).getD default
  ⟨⟨tick 0, tick 5⟩, ⟨tick 1, tick 6⟩, ⟨tick 2, tick 7⟩, ⟨tick 3, tick 8⟩, tick 4⟩

end Sample

namespace Demo

/-- A keyspace with a dot is accepted, and its session fails. A blank in front does no harm. -/
theorem dotted_keyspace_breaks_off :
    let dotted : Config := { Config.standard with keyspace := "a.b" }
    let padded : Config :=
      { Config.standard with keyspace := " ab", ordered := true, largeRowPattern := some "orders" }
    let largest : UInt64 := 2305843009213693951
    dotted.validate Sample.verbatim = .ok () ∧ padded.validate Sample.verbatim = .ok () ∧
      (∃ result, perform Sample.verbatim largest dotted Sample.ticking = .over result ∧
        BrokenOff dotted Sample.ticking result) ∧
      ∃ result, perform Sample.verbatim largest padded Sample.ticking = .over result ∧
        Complete padded Sample.ticking result := by
  intro dotted padded largest
  have hdotted : dotted.validate Sample.verbatim = .ok () := by decide
  have hpadded : padded.validate Sample.verbatim = .ok () := by decide
  have hends := complete_unless_dotted Sample.verbatim largest dotted hdotted Sample.ticking
  have hends' := complete_unless_dotted Sample.verbatim largest padded hpadded Sample.ticking
  rw [if_neg (by decide)] at hends hends'
  obtain ⟨result, hover, hbroken⟩ := hends
  obtain ⟨result', hover', hcomplete⟩ := hends'
  rw [if_pos (by decide)] at hbroken
  rw [if_neg (by decide)] at hcomplete
  exact ⟨hdotted, hpadded, ⟨result, hover, hbroken⟩, result', hover', hcomplete⟩

end Demo

end ShardStream

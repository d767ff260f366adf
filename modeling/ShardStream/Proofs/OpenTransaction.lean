import ShardStream.Proofs.Narration
import ShardStream.Proofs.Publishing
import ShardStream.Proofs.Regression

/-! # The open transaction

Which transaction is open is kept in three places: in the phase of the processor, in the progress of
its tracker and in the offset that was published last. As long as nothing has failed all of them say
what the messages say: the transaction of the latest begin is open if no commit came after it. A
begin that comes while one is open and a commit that comes while none is are noticed, and nothing
else is noticed in this way.
-/
namespace ShardStream

/-- Whether the notice says that a boundary does not fit to what is open. -/
def Notice.isMismatch : Notice → Bool
  | beginWhileOpen .. => true
  | commitWithoutBegin _ => true
  | _ => false

/-- An observer gives the notice of the row that was handed over. -/
def Outcome.Observed (o : Outcome) (s : Setup) (n : Notice) : Prop :=
  ∃ row, o.row = some row ∧ ∃ observe ∈ s.observers, n ∈ observe row

namespace Delivery

/-- The phase after a boundary. -/
def phase (d : Delivery) : Phase :=
  match d.opens? with
  | some id => .inTransaction id d.message.header.shard
  | none => .idle

/-- What is noticed of a boundary that does not fit to the phase in which it comes. -/
def mismatches (d : Delivery) (phase : Phase) : List Notice :=
  match d.message with
  | .begin h => Processor.noticeOpen phase h.shard
  | .commit h => Processor.noticeIdle phase h.shard
  | _ => []

variable {d : Delivery} {phase : Phase} {id shard : String}

theorem phase_eq_inTransaction_iff : d.phase = .inTransaction id shard ↔
    d.opens? = some id ∧ d.message.header.shard = shard := by
  unfold Delivery.phase
  cases d.opens? <;> simp

theorem exists_begin_of_opens? (hd : d.opens? = some id) : ∃ h, d.message = .begin h := by
  obtain ⟨m, vgtid, last, now⟩ := d
  cases m with
  | begin h => exact ⟨h, rfl⟩
  | _ => cases hd

theorem beginWhileOpen_mem_mismatches : .beginWhileOpen shard id ∈ d.mismatches phase ↔
    ∃ h, d.message = .begin h ∧ h.shard = shard ∧ ∃ on, phase = .inTransaction id on := by
  unfold mismatches
  cases d.message with
  | begin h => cases phase <;> simp [Processor.noticeOpen, eq_comm]
  | commit h => cases phase <;> simp [Processor.noticeIdle]
  | _ => simp

theorem commitWithoutBegin_mem_mismatches : .commitWithoutBegin shard ∈ d.mismatches phase ↔
    ∃ h, d.message = .commit h ∧ h.shard = shard ∧ phase = .idle := by
  unfold mismatches
  cases d.message with
  | begin h => cases phase <;> simp [Processor.noticeOpen]
  | commit h => cases phase <;> simp [Processor.noticeIdle, eq_comm]
  | _ => simp

end Delivery

namespace History

/-- The phase in which the messages leave a processor. -/
def phase (past : History) : Phase := (past.latestBoundary?.map (·.phase)).getD .idle

variable {past : History} {d : Delivery} {id shard : String}

theorem phase_concat (past : History) (d : Delivery) :
    phase (past ++ [d]) = if d.message.isBoundary then d.phase else past.phase := by
  unfold phase
  rw [latestBoundary?_concat]
  split <;> rfl

theorem phase_ne_failed (past : History) : past.phase ≠ .failed := by
  unfold phase
  cases past.latestBoundary? with
  | none => exact nofun
  | some d =>
    simp only [Option.map_some, Option.getD_some, Delivery.phase]
    cases d.opens? <;> exact nofun

theorem phase_eq_inTransaction_iff : past.phase = .inTransaction id shard ↔
    ∃ d, past.latestBoundary? = some d ∧ d.opens? = some id ∧ d.message.header.shard = shard := by
  unfold phase
  cases past.latestBoundary? with
  | none => simp
  | some d => simp [Delivery.phase_eq_inTransaction_iff]

theorem openId?_eq_some_iff :
    past.openId? = some id ↔ ∃ shard, past.phase = .inTransaction id shard := by
  simp only [phase_eq_inTransaction_iff, openId?, Option.bind_eq_some_iff]
  constructor
  · rintro ⟨d, hd, hid⟩
    exact ⟨d.message.header.shard, d, hd, hid, rfl⟩
  · rintro ⟨shard, d, hd, hid, -⟩
    exact ⟨d, hd, hid⟩

theorem openId?_eq_none_iff : past.openId? = none ↔ past.phase = .idle := by
  have hfailed := past.phase_ne_failed
  rw [Option.eq_none_iff_forall_ne_some]
  simp only [ne_eq, openId?_eq_some_iff]
  cases hphase : past.phase with
  | idle => simp
  | inTransaction id shard => simp
  | failed => exact absurd hphase hfailed

end History

namespace Handling

/-- The handling shows no row, and notices these mismatches of a boundary and no others. -/
structure Notes (h : Handling) (mismatches : List Notice) : Prop where
  row : h.row = none
  notices : ∃ rest, h.notices = mismatches ++ rest ∧ ∀ n ∈ rest, n.isMismatch = false

variable {sink : Sink} {t t' : Tracker} {mismatches rest : List Notice} {e : Event} {phase : Phase}

theorem notes_fail (t : Tracker) (hrest : ∀ n ∈ rest, n.isMismatch = false) (f : Fault) :
    (fail t (mismatches ++ rest) f).Notes mismatches := ⟨rfl, rest, rfl, hrest⟩

/-- It does not matter for this whether the pipeline takes the event. -/
theorem notes_offer (hrest : ∀ n ∈ rest, n.isMismatch = false) :
    (offer sink t (mismatches ++ rest) e (done t' phase)).Notes mismatches := by
  cases hsink : sink e with
  | some f =>
    rw [offer_refused hsink]
    exact notes_fail t hrest f
  | none =>
    rw [offer_taken hsink]
    exact ⟨rfl, rest, List.append_nil _, hrest⟩

end Handling

namespace Processor

variable {s : Setup} {sink : Sink} {p p' : Processor} {d : Delivery} {o : Outcome} {past : History}
  {n : Notice}

/-- A message taken leaves the processor in the phase that the messages lead to. -/
theorem Takes.phase (ht : Takes s sink p d p' o) (hp : p.phase = past.phase) :
    p'.phase = History.phase (past ++ [d]) := by
  rw [History.phase_concat]
  cases ht with
  | @begin h vgtid last now id rotated ordered begun moved changed order hid =>
    rw [beginId?_eq_opens? h vgtid last now] at hid
    exact (Delivery.phase_eq_inTransaction_iff.2 ⟨hid, rfl⟩).symm
  | commit => rfl
  | @control m _ _ _ _ _ hm =>
    cases m with
    | ddl => exact hp
    | other => exact hp
    | _ => cases hm
  | row => exact hp

theorem not_isMismatch_of_mem_noticeBack {before after : Vgtid} (hn : n ∈ before.noticeBack after) :
    n.isMismatch = false := by
  rw [Vgtid.eq_of_mem_noticeBack hn]
  rfl

theorem not_isMismatch_of_mem_orderFor {t t' : Tracker} {shard id : String}
    {order : Option TransactionOrder} {notices : List Notice}
    (h : orderFor s t shard id = .ok (order, t', notices)) (hn : n ∈ notices) :
    n.isMismatch = false := by
  obtain ⟨before, after, epoch, rfl⟩ := exists_of_mem_orderFor h hn
  rfl

theorem notes_handleBegin (h : Header) (vgtid : Vgtid) :
    (handleBegin s sink p h vgtid).Notes (noticeOpen p.phase h.shard) := by
  unfold handleBegin
  cases beginId? h vgtid with
  | none => exact ⟨rfl, [], (List.append_nil _).symm, List.forall_mem_nil _⟩
  | some id =>
    rcases hrotate : p.tracker.rotate vgtid h.commitTime with ⟨rotated, moved⟩
    have hmoved : ∀ n ∈ moved, n.isMismatch = false := by
      cases hrotate
      exact fun n hn => not_isMismatch_of_mem_noticeBack hn
    simp only
    cases horder : orderFor s rotated h.shard id with
    | error f => exact Handling.notes_fail rotated hmoved f
    | ok a =>
      obtain ⟨order, ordered, changed⟩ := a
      simp only [List.append_assoc]
      apply Handling.notes_offer
      intro n hn
      rcases List.mem_append.1 hn with hn | hn
      · exact hmoved n hn
      · exact not_isMismatch_of_mem_orderFor horder hn

/-- Whether or not a message succeeds, it is noticed if it does not fit to the phase. -/
theorem notes_handle (s : Setup) (sink : Sink) (p : Processor) (hd : d.isRow = false) :
    (handle s sink p d).Notes (d.mismatches p.phase) := by
  obtain ⟨m, vgtid, last, now⟩ := d
  cases m with
  | begin h => exact notes_handleBegin h vgtid
  | commit h => exact Handling.notes_offer fun n hn => not_isMismatch_of_mem_noticeBack hn
  | ddl h statement => exact ⟨rfl, _, rfl, fun n hn => not_isMismatch_of_mem_noticeBack hn⟩
  | other h => exact ⟨rfl, _, rfl, fun n hn => not_isMismatch_of_mem_noticeBack hn⟩
  | row => cases hd

/-- Of a row only what observers say is noticed. -/
theorem mem_notices_handle_row (hd : d.isRow = true) : n ∈ (handle s sink p d).notices ↔
    ∃ row, (handle s sink p d).row = some row ∧ ∃ observe ∈ s.observers, n ∈ observe row := by
  obtain ⟨m, vgtid, last, now⟩ := d
  cases m with
  | row h c =>
    simp only [handle, handleRow]
    cases TableId.resolve? h.keyspace c.table with
    | none => simp [Handling.fail]
    | some table =>
      dsimp only
      generalize trackRow p.tracker h table ⟨.row h c, vgtid, last, now⟩ = tracked
      cases hsink : sink (.changed s.partition table (recordOf tracked table c now)) with
      | some f => simp [Handling.offer_refused hsink, Handling.fail]
      | none => simp [Handling.offer_taken hsink]
  | _ => cases hd

/-- A mismatch is noticed where there is one, and where an observer says so. -/
theorem mem_notices_process (hp : p.phase ≠ .failed) (h : p.process s sink d = (p', o))
    (hn : n.isMismatch = true) : n ∈ o.notices ↔ n ∈ d.mismatches p.phase ∨ o.Observed s n := by
  obtain ⟨-, hnotices, hrow⟩ := process_eq_handle hp h
  rw [Outcome.Observed, hnotices, hrow]
  cases hd : d.isRow with
  | true =>
    have hnone : d.mismatches p.phase = [] := by
      obtain ⟨m, vgtid, last, now⟩ := d
      cases m with
      | row => rfl
      | _ => cases hd
    rw [mem_notices_handle_row hd, hnone]
    simp
  | false =>
    obtain ⟨hnone, rest, hrest, hothers⟩ := notes_handle s sink p hd
    have hforeign : n ∉ rest := by
      intro hmem
      rw [hothers n hmem] at hn
      cases hn
    rw [hnone, hrest]
    simp [hforeign]

end Processor

namespace Worker

variable {s : Setup} {pipeline : Pipeline} {t : Tracker} {past : List Delivery}

/-- As long as nothing has failed, the phase and the progress say what the messages say. -/
theorem Accepts.agrees (ht : t.IsStart) (hpast : (Worker.start t).Accepts s pipeline past) :
    let w := (Worker.start t).run s pipeline past
    w.processor.phase = History.phase past ∧
      w.processor.tracker.progress.transactionId = History.openId? past := by
  have hstart : t.progress.Reflects [] := by
    rw [ht.progress]
    exact .nil
  suffices h : ((Worker.start t).run s pipeline past).processor.tracker.staged = .none ∧
      ((Worker.start t).run s pipeline past).processor.phase = History.phase past ∧
      ((Worker.start t).run s pipeline past).processor.tracker.progress.Reflects past from
    ⟨h.2.1, h.2.2.id⟩
  refine hpast.induction (motive := fun past v => v.processor.tracker.staged = .none ∧
    v.processor.phase = History.phase past ∧ v.processor.tracker.progress.Reflects past)
    ⟨ht.staged, rfl, hstart⟩ ?_
  rintro past v v' d o htakes - ⟨hstaged, hphase, hprogress⟩
  exact ⟨(htakes.position hstaged).1, htakes.phase hphase, (htakes.tells hstaged hprogress).2⟩

/-- As long as nothing has failed, the phase of the processor, the progress of its tracker and the
offset published last say the same of the open transaction: it is the one of the latest begin, if no
commit came after it. When the next message comes, it is noticed if it is a begin and a transaction
is open, or a commit and none is open, whether or not the message succeeds. Apart from this only
observers could give such a notice. -/
theorem open_transaction_is_known (s : Setup) (pipeline : Pipeline) {t : Tracker} (ht : t.IsStart)
    (past : List Delivery)
    (hphase : ((Worker.start t).run s pipeline past).processor.phase ≠ .failed) :
    let w := (Worker.start t).run s pipeline past
    let openId? := w.processor.tracker.progress.transactionId
    (∀ id shard, w.processor.phase = .inTransaction id shard ↔
      ∃ d h, History.latestBoundary? past = some d ∧ d.message = .begin h ∧
        d.opens? = some id ∧ h.shard = shard) ∧
    (∀ id, openId? = some id ↔ ∃ shard, w.processor.phase = .inTransaction id shard) ∧
    (past ≠ [] → ∃ stored, w.journal.published.getLast? = some stored ∧
      stored.transactionId = openId?) ∧
    ∀ d, let o := (w.step s pipeline d).2
      (∀ shard id, .beginWhileOpen shard id ∈ o.notices ↔
        (∃ h, d.message = .begin h ∧ h.shard = shard ∧ openId? = some id) ∨
          o.Observed s (.beginWhileOpen shard id)) ∧
      (∀ shard, .commitWithoutBegin shard ∈ o.notices ↔
        (∃ h, d.message = .commit h ∧ h.shard = shard ∧ openId? = none) ∨
          o.Observed s (.commitWithoutBegin shard)) := by
  intro w openId?
  have hpast : (Worker.start t).Accepts s pipeline past :=
    (accepts_or_failed s pipeline t past).resolve_right hphase
  obtain ⟨hphases, hopen⟩ := hpast.agrees ht
  have hphases : w.processor.phase = History.phase past := hphases
  have hopen : openId? = History.openId? past := hopen
  refine ⟨?_, ?_, ?_, ?_⟩
  · intro id shard
    rw [hphases, History.phase_eq_inTransaction_iff]
    constructor
    · rintro ⟨d, hd, hid, hshard⟩
      obtain ⟨h, hmessage⟩ := Delivery.exists_begin_of_opens? hid
      rw [hmessage] at hshard
      exact ⟨d, h, hd, hmessage, hid, hshard⟩
    · rintro ⟨d, h, hd, hmessage, hid, rfl⟩
      exact ⟨d, hd, hid, by rw [hmessage]; rfl⟩
  · intro id
    rw [hopen, hphases]
    exact History.openId?_eq_some_iff
  · intro hne
    have hlast : w.journal.published.getLast? = some w.processor.tracker.stored := by
      obtain ⟨before, d, rfl⟩ := (List.eq_nil_or_concat' past).resolve_left hne
      simp only [w, hpast.published_concat, List.getLast?_concat]
    exact ⟨_, hlast, rfl⟩
  · intro d o
    have hmem : ∀ n : Notice, n.isMismatch = true →
        (n ∈ o.notices ↔ n ∈ d.mismatches w.processor.phase ∨ o.Observed s n) :=
      fun n hn => Processor.mem_notices_process hphase (Prod.eta _).symm hn
    constructor
    · intro shard id
      rw [hmem _ rfl, Delivery.beginWhileOpen_mem_mismatches, hopen, History.openId?_eq_some_iff,
        hphases]
    · intro shard
      rw [hmem _ rfl, Delivery.commitWithoutBegin_mem_mismatches, hopen,
        History.openId?_eq_none_iff, hphases]

/-- A second begin in place of a commit cannot be ordered and fails. It is noticed all the same,
with the transaction that is still open. -/
theorem failing_begin_is_noticed :
    let past := Sample.transaction.take 2
    let w := Sample.start.run Sample.setup Sample.pipeline past
    let o := (w.step Sample.setup Sample.pipeline (Sample.begin "" "a:1-5")).2
    w.processor.phase = .inTransaction "a:1-5" "-80" ∧
      (∃ stored, w.journal.published.getLast? = some stored ∧
        stored.transactionId = some "a:1-5") ∧
      o.result = .error (.emptyIdentifier "") ∧ .beginWhileOpen "-80" "a:1-5" ∈ o.notices := by
  intro past w o
  have hphase : w.processor.phase = .inTransaction "a:1-5" "-80" := by decide +kernel
  have hne : w.processor.phase ≠ .failed := by
    rw [hphase]
    exact nofun
  obtain ⟨-, hopen, hstored, hnotices⟩ := open_transaction_is_known Sample.setup Sample.pipeline
    (.initial .standard default) past hne
  have hid := (hopen "a:1-5").2 ⟨"-80", hphase⟩
  obtain ⟨stored, hlast, htransaction⟩ := hstored (List.cons_ne_nil _ _)
  refine ⟨hphase, ⟨stored, hlast, htransaction.trans hid⟩, by decide +kernel, ?_⟩
  exact ((hnotices (Sample.begin "" "a:1-5")).1 "-80" "a:1-5").2 (.inl ⟨_, rfl, rfl, hid⟩)

end Worker

end ShardStream

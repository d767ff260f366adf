import ShardStream.Processor

/-! # What a processed message leads to

`Takes` lists, one case for each kind of message, what has to hold for a message to be processed,
the processor after it and everything that others see of it. A message that fails shows nothing
to anybody and leaves a failed processor.
-/
namespace ShardStream

namespace Message

/-- Whether the message neither bounds a transaction nor changes a row. -/
def isControl : Message → Bool
  | ddl _ _ => true
  | other _ => true
  | _ => false

end Message

/-- Nothing was handed over, no observer was told and no offset was published. -/
structure Outcome.Silent (o : Outcome) : Prop where
  event : o.event = none
  row : o.row = none
  published : o.published = none

namespace Handling

theorem offer_ok {sink : Sink} {t : Tracker} {notices : List Notice} {e : Event} {next : Handling}
    {phase : Phase} (h : (offer sink t notices e next).result = .ok phase) :
    sink e = none ∧ next.result = .ok phase := by
  unfold offer at h
  cases hs : sink e with
  | some f => simp [hs, fail] at h
  | none => exact ⟨rfl, by simpa [hs] using h⟩

theorem offer_taken {sink : Sink} {t : Tracker} {notices : List Notice} {e : Event}
    {next : Handling} (h : sink e = none) :
    offer sink t notices e next =
      { next with event := some e, notices := notices ++ next.notices } := by
  simp [offer, h]

theorem offer_refused {sink : Sink} {t : Tracker} {notices : List Notice} {e : Event}
    {next : Handling} {f : Fault} (h : sink e = some f) :
    offer sink t notices e next = fail t notices f := by
  simp [offer, h]

theorem tracker_offer (sink : Sink) (t : Tracker) (notices : List Notice) (e : Event)
    (next : Handling) : (offer sink t notices e next).tracker = t ∨
      (offer sink t notices e next).tracker = next.tracker := by
  cases hsink : sink e with
  | some f =>
    rw [offer_refused hsink]
    exact .inl rfl
  | none =>
    rw [offer_taken hsink]
    exact .inr rfl

theorem refused_of_offer {sink : Sink} {t : Tracker} {notices : List Notice} {e : Event}
    {next : Handling} {phase : Phase} {f : Fault} (hnext : next.result = .ok phase)
    (h : (offer sink t notices e next).result = .error f) : sink e = some f := by
  cases hs : sink e with
  | some g =>
    rw [offer_refused hs] at h
    cases h
    rfl
  | none =>
    rw [offer_taken hs] at h
    simp [hnext] at h

end Handling

namespace Processor

/-- A message that is processed, with the processor after it and its outcome. -/
inductive Takes (s : Setup) (sink : Sink) (p : Processor) : Delivery → Processor → Outcome → Prop
  | begin {h : Header} {vgtid : Vgtid} {last : Bool} {now : Instant} {id : String}
      {rotated ordered begun : Tracker} {moved changed : List Notice}
      {order : Option TransactionOrder} (hid : beginId? h vgtid = some id)
      (hrotate : p.tracker.rotate vgtid h.commitTime = (rotated, moved))
      (horder : orderFor s rotated h.shard id = .ok (order, ordered, changed))
      (hbegun : ordered.begin (some id) order = begun)
      (hsink : sink (.started s.partition ⟨id, h.shard, order⟩ begun.source h.commitTime) = none) :
      Takes s sink p ⟨.begin h, vgtid, last, now⟩ ⟨begun, .inTransaction id h.shard⟩
        ⟨.ok (), some (.started s.partition ⟨id, h.shard, order⟩ begun.source h.commitTime), none,
          some begun.stored, noticeOpen p.phase h.shard ++ moved ++ changed⟩
  | commit {h : Header} {vgtid : Vgtid} {last : Bool} {now : Instant} {rotated : Tracker}
      {moved : List Notice} (hrotate : p.tracker.rotate vgtid h.commitTime = (rotated, moved))
      (hsink : sink (.committed s.partition rotated.progress.transactionId
        rotated.progress.rows.toUInt64 rotated.source h.commitTime) = none) :
      Takes s sink p ⟨.commit h, vgtid, last, now⟩ ⟨rotated.finish, .idle⟩
        ⟨.ok (), some (.committed s.partition rotated.progress.transactionId
          rotated.progress.rows.toUInt64 rotated.source h.commitTime), none,
          some rotated.finish.stored, noticeIdle p.phase h.shard ++ moved⟩
  | control {m : Message} {vgtid : Vgtid} {last : Bool} {now : Instant} {rotated : Tracker}
      {moved : List Notice} (hm : m.isControl = true)
      (hrotate : p.tracker.rotate vgtid m.header.commitTime = (rotated, moved)) :
      Takes s sink p ⟨m, vgtid, last, now⟩ ⟨rotated, p.phase⟩
        ⟨.ok (), none, none, some rotated.stored, moved⟩
  | row {h : Header} {c : RowChange} {vgtid : Vgtid} {last : Bool} {now : Instant} {table : TableId}
      {tracked : Tracker} (htable : TableId.resolve? h.keyspace c.table = some table)
      (htracked : trackRow p.tracker h table ⟨.row h c, vgtid, last, now⟩ = tracked)
      (hsink : sink (.changed s.partition table (recordOf tracked table c now)) = none) :
      Takes s sink p ⟨.row h c, vgtid, last, now⟩ ⟨tracked, p.phase⟩
        ⟨.ok (), some (.changed s.partition table (recordOf tracked table c now)),
          some ⟨table, h.shard, c.size⟩, some tracked.stored,
          s.observers.flatMap fun observe => observe ⟨table, h.shard, c.size⟩⟩

variable {s : Setup} {sink : Sink} {p p' : Processor} {d : Delivery} {o : Outcome}

theorem orderFor_ordered (hs : s.ordered = true) (t : Tracker) (shard id : String) :
    orderFor s t shard id = (t.epochs.order s.ranking shard id).map
      fun (order, epochs, notices) => (some order, { t with epochs }, notices) := by
  unfold orderFor Tracker.order
  rw [if_pos hs]
  cases t.epochs.order s.ranking shard id <;> rfl

theorem orderFor_unordered (hs : s.ordered = false) (t : Tracker) (shard id : String) :
    orderFor s t shard id = .ok (none, t, []) := by
  simp [orderFor, hs]

theorem orderFor_ordered_ok {t t' : Tracker} {shard id : String} {order : Option TransactionOrder}
    {notices : List Notice} (hs : s.ordered = true)
    (h : orderFor s t shard id = .ok (order, t', notices)) :
    ∃ o epochs, t.epochs.order s.ranking shard id = .ok (o, epochs, notices) ∧ order = some o ∧
      t' = { t with epochs } := by
  rw [orderFor_ordered hs] at h
  cases he : t.epochs.order s.ranking shard id with
  | error f => simp [he, Except.map] at h
  | ok a =>
    obtain ⟨o, epochs, notices⟩ := a
    simp only [he, Except.map] at h
    cases h
    exact ⟨o, epochs, rfl, rfl, rfl⟩

theorem orderFor_ok {t t' : Tracker} {shard id : String} {order : Option TransactionOrder}
    {notices : List Notice} (h : orderFor s t shard id = .ok (order, t', notices)) :
    ∃ epochs, t' = { t with epochs } := by
  cases hs : s.ordered with
  | false =>
    rw [orderFor_unordered hs] at h
    cases h
    exact ⟨t.epochs, rfl⟩
  | true =>
    obtain ⟨-, epochs, -, -, ht'⟩ := orderFor_ordered_ok hs h
    exact ⟨epochs, ht'⟩

/-- A row is counted, stamps the source with its shard, table and time, and moves the position if it
is the last one. -/
theorem trackRow_eq {t : Tracker} (ht : t.staged = .none) (h : Header) (table : TableId)
    (d : Delivery) : trackRow t h table d =
      { source := { t.source with
          shard := some h.shard
          vgtid := if d.isLastRow then d.vgtid else t.source.vgtid
          time := h.commitTime
          table := some table }
        staged := .none
        progress := t.progress.addRow table
        epochs := t.epochs
        shardRows := t.shardRows.add h.shard
        tableRows := t.tableRows.add table } := by
  cases hd : d.isLastRow <;>
    simp [trackRow, hd, Tracker.settle, Tracker.stage, Tracker.setShard, Tracker.addRow, ht,
      Staged.apply, Staged.stage, Staged.none]

/-- What others see of a handling that led to a phase. -/
def seen (h : Handling) (phase : Phase) : Processor × Outcome :=
  (⟨h.tracker, phase⟩, ⟨.ok (), h.event, h.row, some h.tracker.stored, h.notices⟩)

theorem process_of_handle {phase : Phase} (hp : p.phase ≠ .failed)
    (h : (handle s sink p d).result = .ok phase) :
    p.process s sink d = seen (handle s sink p d) phase := by
  simp [process, hp, h, seen]

theorem handle_of_process (hp : p.process s sink d = (p', o)) (ho : o.result = .ok ()) :
    p.phase ≠ .failed ∧ ∃ phase, (handle s sink p d).result = .ok phase := by
  unfold process at hp
  by_cases hphase : p.phase = .failed
  · rw [if_pos hphase] at hp
    cases hp
    cases ho
  · rw [if_neg hphase] at hp
    refine ⟨hphase, ?_⟩
    cases h : (handle s sink p d).result with
    | ok phase => exact ⟨phase, rfl⟩
    | error f =>
      simp only [h] at hp
      cases hp
      cases ho

theorem takes_begin {h : Header} {vgtid : Vgtid} {last : Bool} {now : Instant} {phase : Phase}
    (hr : (handleBegin s sink p h vgtid).result = .ok phase) :
    Takes s sink p ⟨.begin h, vgtid, last, now⟩ (seen (handleBegin s sink p h vgtid) phase).1
      (seen (handleBegin s sink p h vgtid) phase).2 := by
  rcases hrot : p.tracker.rotate vgtid h.commitTime with ⟨rotated, moved⟩
  unfold handleBegin at hr ⊢
  cases hid : beginId? h vgtid with
  | none => simp [hid, Handling.fail] at hr
  | some id =>
    simp only [hid, hrot] at hr ⊢
    cases horder : orderFor s rotated h.shard id with
    | error f => simp [horder, Handling.fail] at hr
    | ok a =>
      obtain ⟨order, ordered, changed⟩ := a
      simp only [horder] at hr ⊢
      obtain ⟨hsink, hphase⟩ := Handling.offer_ok hr
      cases hphase
      rw [Handling.offer_taken hsink]
      simpa [seen, Handling.done] using Takes.begin hid hrot horder rfl hsink

theorem takes_commit {h : Header} {vgtid : Vgtid} {last : Bool} {now : Instant} {phase : Phase}
    (hr : (handleCommit s sink p h vgtid).result = .ok phase) :
    Takes s sink p ⟨.commit h, vgtid, last, now⟩ (seen (handleCommit s sink p h vgtid) phase).1
      (seen (handleCommit s sink p h vgtid) phase).2 := by
  rcases hrot : p.tracker.rotate vgtid h.commitTime with ⟨rotated, moved⟩
  simp only [handleCommit, hrot] at hr ⊢
  obtain ⟨hsink, hphase⟩ := Handling.offer_ok hr
  cases hphase
  rw [Handling.offer_taken hsink]
  simpa [seen, Handling.done] using Takes.commit hrot hsink

theorem takes_control {m : Message} {vgtid : Vgtid} {last : Bool} {now : Instant} {phase : Phase}
    (hm : m.isControl = true) (hr : (handleControl p m.header vgtid).result = .ok phase) :
    Takes s sink p ⟨m, vgtid, last, now⟩ (seen (handleControl p m.header vgtid) phase).1
      (seen (handleControl p m.header vgtid) phase).2 := by
  cases hr
  exact Takes.control hm rfl

theorem takes_row {h : Header} {c : RowChange} {vgtid : Vgtid} {last : Bool} {now : Instant}
    {phase : Phase}
    (hr : (handleRow s sink p h c ⟨.row h c, vgtid, last, now⟩).result = .ok phase) :
    Takes s sink p ⟨.row h c, vgtid, last, now⟩
      (seen (handleRow s sink p h c ⟨.row h c, vgtid, last, now⟩) phase).1
      (seen (handleRow s sink p h c ⟨.row h c, vgtid, last, now⟩) phase).2 := by
  unfold handleRow at hr ⊢
  cases htable : TableId.resolve? h.keyspace c.table with
  | none => simp [htable, Handling.fail] at hr
  | some table =>
    simp only [htable] at hr ⊢
    obtain ⟨hsink, hphase⟩ := Handling.offer_ok hr
    cases hphase
    rw [Handling.offer_taken hsink]
    simpa [seen, Handling.done] using Takes.row htable rfl hsink

theorem takes_of_handle {phase : Phase} (hr : (handle s sink p d).result = .ok phase) :
    Takes s sink p d (seen (handle s sink p d) phase).1 (seen (handle s sink p d) phase).2 := by
  obtain ⟨m, vgtid, last, now⟩ := d
  cases m with
  | begin h => exact takes_begin hr
  | commit h => exact takes_commit hr
  | ddl h statement => exact takes_control (m := .ddl h statement) rfl hr
  | other h => exact takes_control (m := .other h) rfl hr
  | row h c => exact takes_row hr

theorem takes_of_process (hp : p.process s sink d = (p', o)) (ho : o.result = .ok ()) :
    Takes s sink p d p' o := by
  obtain ⟨hphase, phase, hr⟩ := handle_of_process hp ho
  have ht := takes_of_handle hr
  rw [← process_of_handle hphase hr, hp] at ht
  exact ht

/-- What is taken is what processing gives, so long as the processor has not failed. -/
theorem Takes.process (ht : Takes s sink p d p' o) (hp : p.phase ≠ .failed) :
    p.process s sink d = (p', o) := by
  cases ht with
  | begin hid hrot horder hbegun hsink =>
    simp [Processor.process, hp, handle, handleBegin, hid, hrot, horder, hbegun, Handling.offer,
      hsink, Handling.done]
  | commit hrot hsink =>
    simp [Processor.process, hp, handle, handleCommit, hrot, Handling.offer, hsink, Handling.done]
  | @control m vgtid last now rotated moved hm hrot =>
    cases m with
    | ddl h statement =>
      have hrot : p.tracker.rotate vgtid h.commitTime = (rotated, moved) := hrot
      simp [Processor.process, hp, handle, handleControl, hrot]
    | other h =>
      have hrot : p.tracker.rotate vgtid h.commitTime = (rotated, moved) := hrot
      simp [Processor.process, hp, handle, handleControl, hrot]
    | _ => cases hm
  | row htable htracked hsink =>
    simp [Processor.process, hp, handle, handleRow, htable, htracked, Handling.offer, hsink,
      Handling.done]

theorem Takes.result (ht : Takes s sink p d p' o) : o.result = .ok () := by
  cases ht <;> rfl

theorem Takes.published (ht : Takes s sink p d p' o) : o.published = some p'.tracker.stored := by
  cases ht <;> rfl

theorem Takes.phase_ne_failed (ht : Takes s sink p d p' o) (hp : p.phase ≠ .failed) :
    p'.phase ≠ .failed := by
  cases ht with
  | begin => exact nofun
  | commit => exact nofun
  | control => exact hp
  | row => exact hp

end Processor

end ShardStream

import ShardStream.Proofs.Failure
import ShardStream.Proofs.Position
import ShardStream.Proofs.Saving

/-! # Published offsets

Each message that is taken publishes the position and the time after it. The next session can go on
from them unless the position is empty, or the time is the leap second with which the calendar ends:
messages may bring either, and no session is loaded from them. A run whose messages bring neither
publishes nothing else than offsets that can be resumed from.
-/
namespace ShardStream

/-- The next session reads the offset as it was written and goes on from its position. -/
structure StoredOffset.ResumableBy (c : Config) (o : StoredOffset) : Prop where
  reads : parse o.text = .ok o
  loads : ∃ t notices, Tracker.load c o = .ok (t, notices) ∧ t.vgtid = o.vgtid

/-- The message brings a position, if it moves it, and a time that can be stored. -/
def Delivery.LeavesResumable (d : Delivery) : Prop :=
  (d.moves = true → d.vgtid.isEmpty = false) ∧ ¬ d.message.header.commitTime.EndsCalendar

instance (d : Delivery) : Decidable d.LeavesResumable := inferInstanceAs (Decidable (_ ∧ _))

namespace StoredOffset

variable {c : Config} {o : StoredOffset}

theorem resumableBy_iff :
    o.ResumableBy c ↔ o.vgtid.isEmpty = false ∧ Instant.Reaches o.micros.toInt := by
  constructor
  · rintro ⟨-, t, notices, hload, -⟩
    have ho : o.vgtid.isEmpty = false := (Tracker.load_eq_ok_iff.1 hload).1
    exact ⟨ho, (Tracker.exists_load_iff c ho).1 ⟨t, notices, hload⟩⟩
  · rintro ⟨ho, hreaches⟩
    obtain ⟨t, notices, hload⟩ := (Tracker.exists_load_iff c ho).2 hreaches
    have hstored : t.stored = o.closed := Tracker.stored_of_load hload
    exact ⟨parse_text ho, t, notices, hload, congrArg vgtid hstored⟩

end StoredOffset

theorem Tracker.resumableBy_stored {c : Config} {t : Tracker} : t.stored.ResumableBy c ↔
    t.vgtid.isEmpty = false ∧ ¬ t.source.time.EndsCalendar := by
  rw [StoredOffset.resumableBy_iff, stored_micros, ← Instant.micros_eq_nanos_ediv,
    Instant.reaches_micros_iff]
  rfl

theorem positionAfter_isEmpty {start : Vgtid} (hstart : start.isEmpty = false) {ds : List Delivery}
    (hds : ∀ d ∈ ds, d.LeavesResumable) : (positionAfter start ds).isEmpty = false := by
  induction ds using List.reverseRecOn with
  | nil => exact hstart
  | append_singleton past d ih =>
    obtain ⟨hpast, hd⟩ := List.forall_mem_append.1 hds
    rw [positionAfter_concat]
    split
    · next hmoves => exact (hd d (by simp)).1 hmoves
    · exact ih hpast

theorem leavesResumable_iff {start : Vgtid} (hstart : start.isEmpty = false) {past : List Delivery}
    (hpast : ∀ e ∈ past, e.LeavesResumable) (d : Delivery) :
    (positionAfter start (past ++ [d])).isEmpty = false ∧
        ¬ d.message.header.commitTime.EndsCalendar ↔ d.LeavesResumable := by
  have hbefore := positionAfter_isEmpty hstart hpast
  rw [positionAfter_concat, Delivery.LeavesResumable]
  cases d.moves with
  | true => simp
  | false => simp [hbefore]

namespace Worker

variable {s : Setup} {pipeline : Pipeline} {t : Tracker} {past ds : List Delivery} {d : Delivery}

theorem Accepts.published_concat (hds : (Worker.start t).Accepts s pipeline (past ++ [d])) :
    ((Worker.start t).run s pipeline (past ++ [d])).journal.published =
      ((Worker.start t).run s pipeline past).journal.published ++
        [((Worker.start t).run s pipeline (past ++ [d])).processor.tracker.stored] := by
  obtain ⟨htakes, hjournal⟩ := hds.takes (Prod.eta _).symm
  rw [run_concat, hjournal, Journal.add, htakes.published]
  rfl

theorem published_concat_of_not_accepts
    (hds : ¬ (Worker.start t).Accepts s pipeline (past ++ [d])) :
    ((Worker.start t).run s pipeline (past ++ [d])).journal.published =
      ((Worker.start t).run s pipeline past).journal.published := by
  rw [run_concat]
  rcases accepts_or_failed s pipeline t past with hpast | hfailed
  · have herror := fun ho => hds (accepts_concat.2 ⟨hpast, ho⟩)
    exact (step_of_error hpast.phase_ne_failed herror).2.2.2
  · rw [step_failed hfailed]

/-- What a run publishes is published by the messages that it takes, up to the first that fails. -/
theorem exists_taken (s : Setup) (pipeline : Pipeline) (t : Tracker) (ds : List Delivery) :
    ∃ taken, taken <+: ds ∧ (Worker.start t).Accepts s pipeline taken ∧
      ((Worker.start t).run s pipeline ds).journal.published =
        ((Worker.start t).run s pipeline taken).journal.published ∧
      ∀ other, other <+: ds → (Worker.start t).Accepts s pipeline other → other <+: taken := by
  induction ds using List.reverseRecOn with
  | nil => exact ⟨[], List.prefix_rfl, accepts_nil, rfl, fun other hother _ => hother⟩
  | append_singleton past d ih =>
    by_cases hd : (Worker.start t).Accepts s pipeline (past ++ [d])
    · exact ⟨past ++ [d], List.prefix_rfl, hd, rfl, fun other hother _ => hother⟩
    · obtain ⟨taken, htaken, haccepts, hpublished, hmost⟩ := ih
      refine ⟨taken, htaken.trans (List.prefix_append past [d]), haccepts, ?_, ?_⟩
      · rw [published_concat_of_not_accepts hd, hpublished]
      · intro other hother hothers
        rcases List.prefix_concat_iff.1 hother with rfl | hother
        · exact absurd hothers hd
        · exact hmost other hother hothers

theorem Accepts.resumableBy_stored (c : Config) (ht : t.IsStart)
    (hds : (Worker.start t).Accepts s pipeline (past ++ [d])) :
    ((Worker.start t).run s pipeline (past ++ [d])).processor.tracker.stored.ResumableBy c ↔
      (positionAfter t.vgtid (past ++ [d])).isEmpty = false ∧
        ¬ d.message.header.commitTime.EndsCalendar := by
  obtain ⟨-, hvgtid, htime⟩ := hds.position ht.staged
  rw [Tracker.resumableBy_stored, hvgtid, htime d List.getLast?_concat]
  rfl

theorem Accepts.exists_of_published (hds : (Worker.start t).Accepts s pipeline ds)
    {o : StoredOffset} (ho : o ∈ ((Worker.start t).run s pipeline ds).journal.published) :
    ∃ past d, past ++ [d] <+: ds ∧ (Worker.start t).Accepts s pipeline (past ++ [d]) ∧
      o = ((Worker.start t).run s pipeline (past ++ [d])).processor.tracker.stored := by
  induction ds using List.reverseRecOn with
  | nil => cases ho
  | append_singleton past d ih =>
    rw [hds.published_concat, List.mem_append, List.mem_singleton] at ho
    rcases ho with ho | rfl
    · obtain ⟨before, e, hbefore, haccepts, hstored⟩ := ih (accepts_concat.1 hds).1 ho
      exact ⟨before, e, hbefore.trans (List.prefix_append past [d]), haccepts, hstored⟩
    · exact ⟨past, d, List.prefix_rfl, hds, rfl⟩

theorem Accepts.published_resumable_iff (c : Config) (ht : t.IsStart)
    (hds : (Worker.start t).Accepts s pipeline ds) :
    (∀ o ∈ ((Worker.start t).run s pipeline ds).journal.published, o.ResumableBy c) ↔
      ∀ d ∈ ds, d.LeavesResumable := by
  induction ds using List.reverseRecOn with
  | nil => exact iff_of_true (List.forall_mem_nil _) (List.forall_mem_nil _)
  | append_singleton past d ih =>
    rw [hds.published_concat, List.forall_mem_append, List.forall_mem_append,
      ih (accepts_concat.1 hds).1, List.forall_mem_singleton, List.forall_mem_singleton]
    apply and_congr_right
    intro hpast
    rw [hds.resumableBy_stored c ht]
    exact leavesResumable_iff ht.vgtid_isEmpty hpast d

/-- Every published offset has the position after one of the messages, and can be resumed from
unless that is empty or the time of the message ends the calendar. What a run publishes can all be
resumed from just if each message that it takes, up to the first that fails, leaves it so. -/
theorem published_offsets_resumable_iff (c : Config) (s : Setup) (pipeline : Pipeline) {t : Tracker}
    (ht : t.IsStart) (ds : List Delivery) :
    (∀ o ∈ ((Worker.start t).run s pipeline ds).journal.published,
      ∃ past d, past ++ [d] <+: ds ∧ o.vgtid = positionAfter t.vgtid (past ++ [d]) ∧
        (o.ResumableBy c ↔
          o.vgtid.isEmpty = false ∧ ¬ d.message.header.commitTime.EndsCalendar)) ∧
      ((∀ o ∈ ((Worker.start t).run s pipeline ds).journal.published, o.ResumableBy c) ↔
        ∀ taken, taken <+: ds → (Worker.start t).Accepts s pipeline taken →
          ∀ d ∈ taken, d.LeavesResumable) := by
  obtain ⟨taken, htaken, haccepts, hpublished, hmost⟩ := exists_taken s pipeline t ds
  rw [hpublished]
  constructor
  · intro o ho
    obtain ⟨past, d, hprefix, hpast, rfl⟩ := haccepts.exists_of_published ho
    have hvgtid : ((Worker.start t).run s pipeline (past ++ [d])).processor.tracker.stored.vgtid =
        positionAfter t.vgtid (past ++ [d]) := (hpast.position ht.staged).2.1
    have hresumable := hpast.resumableBy_stored c ht
    rw [← hvgtid] at hresumable
    exact ⟨past, d, hprefix.trans htaken, hvgtid, hresumable⟩
  · rw [haccepts.published_resumable_iff c ht]
    constructor
    · intro hall other hother hothers d hd
      exact hall d ((hmost other hother hothers).subset hd)
    · intro hall
      exact hall taken htaken haccepts

end Worker

/-- A control message that brings no position. -/
def Sample.lost : Delivery := ⟨.other (Sample.header none), ⟨[]⟩, false, default⟩

namespace Worker

/-- The offsets of the sample can be resumed from. A control message without any position publishes
one that cannot. -/
theorem control_message_publishes_unresumable :
    (∀ o ∈ (Sample.start.run Sample.setup Sample.pipeline Sample.transaction).journal.published,
      o.ResumableBy .standard) ∧
    ¬ ∀ o ∈ (Sample.start.run Sample.setup Sample.pipeline
      (Sample.transaction ++ [Sample.lost])).journal.published, o.ResumableBy .standard := by
  have hstart : (Tracker.initial .standard default).IsStart := .initial .standard default
  constructor
  · apply (published_offsets_resumable_iff .standard Sample.setup Sample.pipeline hstart
      Sample.transaction).2.2
    intro taken htaken _ d hd
    have hall : ∀ d ∈ Sample.transaction, d.LeavesResumable := by decide +kernel
    exact hall d (htaken.subset hd)
  · intro hall
    have haccepts : Sample.start.Accepts Sample.setup Sample.pipeline
        (Sample.transaction ++ [Sample.lost]) := by
      decide +kernel
    have hlost : Sample.lost.LeavesResumable :=
      (published_offsets_resumable_iff .standard Sample.setup Sample.pipeline hstart
        (Sample.transaction ++ [Sample.lost])).2.1 hall _ List.prefix_rfl haccepts _ (by simp)
    exact absurd (hlost.1 rfl) (by decide)

end Worker

end ShardStream

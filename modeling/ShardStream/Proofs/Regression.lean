import ShardStream.Proofs.Epochs
import ShardStream.Proofs.Failure
import ShardStream.Proofs.History

/-! # Positions that go back

A shard that goes back is noticed when the position is replaced, that is at a boundary of a
transaction or at a control message, whether or not the message succeeds. The position that the last
row of a transaction brings takes effect without a look at the position before it, so a shard that
goes back there is noticed by nobody.
-/
namespace ShardStream

/-- Whether the notice says that shards have gone back. -/
def Notice.isBackwards : Notice → Bool
  | movedBackwards .. => true
  | _ => false

/-- The notice of the shards that go back from one position to another, if any do. -/
def Vgtid.noticeBack (before after : Vgtid) : List Notice :=
  if regressions gtidRanking before after = [] then []
  else [.movedBackwards (regressions gtidRanking before after) before after]

theorem Vgtid.exists_mem_noticeBack (before after : Vgtid) :
    (∃ n ∈ noticeBack before after, n.isBackwards = true) ↔
      regressions gtidRanking before after ≠ [] := by
  unfold noticeBack
  by_cases hback : regressions gtidRanking before after = []
  · simp [hback]
  · simp [hback, Notice.isBackwards]

theorem Vgtid.eq_of_mem_noticeBack {before after : Vgtid} {n : Notice}
    (hn : n ∈ noticeBack before after) :
    n = .movedBackwards (regressions gtidRanking before after) before after := by
  unfold noticeBack at hn
  split at hn
  · cases hn
  · exact List.mem_singleton.1 hn

theorem Vgtid.filter_noticeBack (before after : Vgtid) :
    (noticeBack before after).filter (·.isBackwards) = noticeBack before after := by
  refine List.filter_eq_self.2 ?_
  intro n hn
  rw [eq_of_mem_noticeBack hn]
  rfl

theorem Tracker.rotate_snd (t : Tracker) (vgtid : Vgtid) (time : Instant) :
    (t.rotate vgtid time).2 = t.vgtid.noticeBack vgtid := rfl

theorem Epochs.exists_of_mem_noticeChange {e : Epochs} {shard : String} {s : GtidSet} {n : Notice}
    (hn : n ∈ e.noticeChange shard s) : ∃ before epoch, n = .hostsChanged shard before s epoch := by
  unfold noticeChange at hn
  split at hn
  · cases hn
  · split at hn
    · cases hn
    · exact ⟨_, _, List.mem_singleton.1 hn⟩

namespace Handling

/-- The position has been replaced. Nothing is staged any more, and what is noticed of shards that
go back is what there is to notice. -/
structure Replaces (h : Handling) (before after : Vgtid) : Prop where
  vgtid : h.tracker.vgtid = after
  staged : h.tracker.staged = .none
  notices : h.notices.filter (·.isBackwards) = before.noticeBack after

variable {before after : Vgtid} {t : Tracker} {notices : List Notice}

theorem replaces_offer {sink : Sink} {e : Event} {next : Handling} (hvgtid : t.vgtid = after)
    (hstaged : t.staged = .none)
    (hnotices : notices.filter (·.isBackwards) = before.noticeBack after)
    (hnext : next.tracker.vgtid = after) (hnextStaged : next.tracker.staged = .none)
    (hsilent : next.notices = []) : (offer sink t notices e next).Replaces before after := by
  cases hsink : sink e with
  | some f =>
    rw [offer_refused hsink]
    exact ⟨hvgtid, hstaged, hnotices⟩
  | none =>
    rw [offer_taken hsink]
    refine ⟨hnext, hnextStaged, ?_⟩
    rw [hsilent, List.append_nil]
    exact hnotices

end Handling

namespace Processor

variable {s : Setup} {sink : Sink} {p p' : Processor} {d : Delivery} {o : Outcome}

theorem filter_noticeOpen (phase : Phase) (shard : String) :
    (noticeOpen phase shard).filter (·.isBackwards) = [] := by
  cases phase <;> rfl

theorem filter_noticeIdle (phase : Phase) (shard : String) :
    (noticeIdle phase shard).filter (·.isBackwards) = [] := by
  cases phase <;> rfl

/-- Ordering a transaction notices only that the hosts of its shard have changed. -/
theorem exists_of_mem_orderFor {t t' : Tracker} {shard id : String}
    {order : Option TransactionOrder} {notices : List Notice} {n : Notice}
    (h : orderFor s t shard id = .ok (order, t', notices)) (hn : n ∈ notices) :
    ∃ before after epoch, n = .hostsChanged shard before after epoch := by
  cases hs : s.ordered with
  | false =>
    rw [orderFor_unordered hs] at h
    cases h
    cases hn
  | true =>
    obtain ⟨transactionOrder, epochs, he, -, -⟩ := orderFor_ordered_ok hs h
    obtain ⟨set, -, -, -, -, rfl⟩ := Epochs.order_ok he
    obtain ⟨before, epoch, rfl⟩ := Epochs.exists_of_mem_noticeChange hn
    exact ⟨before, set, epoch, rfl⟩

theorem filter_orderFor {t t' : Tracker} {shard id : String} {order : Option TransactionOrder}
    {notices : List Notice} (h : orderFor s t shard id = .ok (order, t', notices)) :
    notices.filter (·.isBackwards) = [] := by
  refine List.filter_eq_nil_iff.2 ?_
  intro n hn
  obtain ⟨before, after, epoch, rfl⟩ := exists_of_mem_orderFor h hn
  exact Bool.false_ne_true

theorem handleBegin_replaces {h : Header} {vgtid : Vgtid} {id : String}
    (hid : beginId? h vgtid = some id) :
    (handleBegin s sink p h vgtid).Replaces p.tracker.vgtid vgtid := by
  rcases hrotate : p.tracker.rotate vgtid h.commitTime with ⟨rotated, moved⟩
  have hmoved : (noticeOpen p.phase h.shard ++ moved).filter (·.isBackwards) =
      p.tracker.vgtid.noticeBack vgtid := by
    have hback : moved = p.tracker.vgtid.noticeBack vgtid := by
      rw [← p.tracker.rotate_snd vgtid h.commitTime, hrotate]
    rw [List.filter_append, filter_noticeOpen, hback, Vgtid.filter_noticeBack, List.nil_append]
  have hrotated : rotated.vgtid = vgtid ∧ rotated.staged = .none := by
    cases hrotate
    exact ⟨rfl, rfl⟩
  simp only [handleBegin, hid, hrotate]
  -- a transaction that cannot be ordered has moved the position already
  cases horder : orderFor s rotated h.shard id with
  | error f => exact ⟨hrotated.1, hrotated.2, hmoved⟩
  | ok a =>
    obtain ⟨order, ordered, changed⟩ := a
    obtain ⟨epochs, rfl⟩ := orderFor_ok horder
    refine Handling.replaces_offer hrotated.1 hrotated.2 ?_ hrotated.1 hrotated.2 rfl
    rw [List.filter_append, hmoved, filter_orderFor horder, List.append_nil]

theorem handleCommit_replaces (h : Header) (vgtid : Vgtid) :
    (handleCommit s sink p h vgtid).Replaces p.tracker.vgtid vgtid := by
  refine Handling.replaces_offer rfl rfl ?_ rfl rfl rfl
  rw [List.filter_append, filter_noticeIdle, List.nil_append]
  exact Vgtid.filter_noticeBack _ _

theorem handleControl_replaces (h : Header) (vgtid : Vgtid) :
    (handleControl p h vgtid).Replaces p.tracker.vgtid vgtid :=
  ⟨rfl, rfl, Vgtid.filter_noticeBack _ _⟩

/-- The position of a message that is not a row takes effect, except that a begin which names no
transaction leaves everything as it is. -/
theorem handle_replaces (s : Setup) (sink : Sink) (p : Processor) (hd : d.isRow = false) :
    (handle s sink p d).Replaces p.tracker.vgtid d.vgtid ∨
      (handle s sink p d).tracker = p.tracker := by
  obtain ⟨m, vgtid, last, now⟩ := d
  cases m with
  | begin h =>
    cases hid : beginId? h vgtid with
    | none =>
      right
      simp only [handle, handleBegin, hid]
      rfl
    | some id =>
      left
      exact handleBegin_replaces hid
  | commit h => exact .inl (handleCommit_replaces h vgtid)
  | ddl h statement => exact .inl (handleControl_replaces h vgtid)
  | other h => exact .inl (handleControl_replaces h vgtid)
  | row h c => cases hd

theorem trackRow_position {t : Tracker} (ht : t.staged = .none) (h : Header) (table : TableId)
    (d : Delivery) : (trackRow t h table d).staged = .none ∧
      ((trackRow t h table d).vgtid = t.vgtid ∨
        d.isLastRow = true ∧ (trackRow t h table d).vgtid = d.vgtid) := by
  rw [trackRow_eq ht]
  refine ⟨rfl, ?_⟩
  cases hlast : d.isLastRow with
  | false => exact .inl rfl
  | true => exact .inr ⟨rfl, rfl⟩

/-- A row leaves nothing staged. It moves the position only if it is the last one, and nobody but
the observers notices anything of it. -/
theorem handle_row (s : Setup) (sink : Sink) (hd : d.isRow = true) (hp : p.tracker.staged = .none) :
    (handle s sink p d).tracker.staged = .none ∧
      ((handle s sink p d).tracker.vgtid = p.tracker.vgtid ∨
        d.isLastRow = true ∧ (handle s sink p d).tracker.vgtid = d.vgtid) ∧
      ∀ n ∈ (handle s sink p d).notices, ∃ row, (handle s sink p d).row = some row ∧
        ∃ observe ∈ s.observers, n ∈ observe row := by
  obtain ⟨m, vgtid, last, now⟩ := d
  cases m with
  | row h c =>
    simp only [handle, handleRow]
    cases htable : TableId.resolve? h.keyspace c.table with
    | none => exact ⟨hp, .inl rfl, List.forall_mem_nil _⟩
    | some table =>
      obtain ⟨hstaged, hvgtid⟩ := trackRow_position hp h table ⟨.row h c, vgtid, last, now⟩
      dsimp only
      generalize trackRow p.tracker h table ⟨.row h c, vgtid, last, now⟩ = tracked
        at hstaged hvgtid ⊢
      cases hsink : sink (.changed s.partition table (recordOf tracked table c now)) with
      | some f =>
        simp only [Handling.offer_refused hsink]
        exact ⟨hstaged, hvgtid, List.forall_mem_nil _⟩
      | none =>
        simp only [Handling.offer_taken hsink]
        refine ⟨hstaged, hvgtid, ?_⟩
        intro n hn
        exact ⟨_, rfl, by simpa using hn⟩
  | _ => cases hd

theorem handle_staged (hp : p.tracker.staged = .none) :
    (handle s sink p d).tracker.staged = .none := by
  cases hd : d.isRow with
  | true => exact (handle_row s sink hd hp).1
  | false =>
    rcases handle_replaces s sink p hd with h | h
    · exact h.staged
    · rw [h]
      exact hp

/-- What is seen of a message that is not refused is what its handling leads to, whether or not it
succeeds. -/
theorem process_eq_handle (hp : p.phase ≠ .failed) (h : p.process s sink d = (p', o)) :
    p'.tracker = (handle s sink p d).tracker ∧ o.notices = (handle s sink p d).notices ∧
      o.row = (handle s sink p d).row := by
  simp only [process, if_neg hp] at h
  split at h <;> cases h <;> exact ⟨rfl, rfl, rfl⟩

theorem process_staged (hp : p.tracker.staged = .none) (h : p.process s sink d = (p', o)) :
    p'.tracker.staged = .none := by
  by_cases hphase : p.phase = .failed
  · rw [process_failed hphase] at h
    cases h
    exact hp
  · rw [(process_eq_handle hphase h).1]
    exact handle_staged hp

end Processor

namespace Worker

variable {s : Setup} {pipeline : Pipeline} {w w' : Worker}

theorem run_staged (s : Setup) (pipeline : Pipeline) (hw : w.processor.tracker.staged = .none)
    (ds : List Delivery) :
    (w.run s pipeline ds).processor.tracker.staged = .none := by
  induction ds generalizing w with
  | nil => exact hw
  | cons d ds ih =>
    rw [run_cons]
    apply ih
    exact Processor.process_staged hw (Prod.eta _).symm

/-- A message that moves the position moves it to the one that it brings. If the message is not a
row, the shards that go back are noticed, in one notice and only if there are any. A row moves the
position if it is the last of its transaction, and then only observers notice anything. -/
theorem backward_moves_noticed_except_by_rows (s : Setup) (pipeline : Pipeline) {t : Tracker}
    (ht : t.IsStart) (past : List Delivery) (d : Delivery) {o : Outcome}
    (hstep : ((Worker.start t).run s pipeline past).step s pipeline d = (w, o))
    (hmoved : w.processor.tracker.vgtid ≠
      ((Worker.start t).run s pipeline past).processor.tracker.vgtid) :
    w.processor.tracker.vgtid = d.vgtid ∧
      (d.isRow = false →
        ((∃ n ∈ o.notices, n.isBackwards = true) ↔ Vgtid.regressions gtidRanking
          ((Worker.start t).run s pipeline past).processor.tracker.vgtid d.vgtid ≠ []) ∧
        o.notices.filter (·.isBackwards) = Vgtid.noticeBack
          ((Worker.start t).run s pipeline past).processor.tracker.vgtid d.vgtid) ∧
      (d.isRow = true → d.isLastRow = true ∧
        ∀ n ∈ o.notices, ∃ row, o.row = some row ∧ ∃ observe ∈ s.observers, n ∈ observe row) := by
  have hstaged := run_staged s pipeline (w := .start t) ht.staged past
  generalize (Worker.start t).run s pipeline past = v at hstep hmoved hstaged ⊢
  have hprocess : v.processor.process s (pipeline v.journal.events) d = (w.processor, o) := by
    unfold step at hstep
    cases hstep
    rfl
  have hphase : v.processor.phase ≠ .failed := by
    intro hfailed
    rw [Processor.process_failed hfailed] at hprocess
    have hsame : v.processor = w.processor := congrArg Prod.fst hprocess
    exact hmoved (by rw [hsame])
  obtain ⟨htracker, hnotices, hrow⟩ := Processor.process_eq_handle hphase hprocess
  rw [htracker] at hmoved ⊢
  rw [hnotices, hrow]
  cases hd : d.isRow with
  | false =>
    rcases Processor.handle_replaces s (pipeline v.journal.events) v.processor hd with h | h
    · refine ⟨h.vgtid, fun _ => ⟨?_, h.notices⟩, nofun⟩
      rw [← Vgtid.exists_mem_noticeBack, ← h.notices]
      simp
    · rw [h] at hmoved
      exact absurd rfl hmoved
  | true =>
    obtain ⟨-, hstays | ⟨hlast, hvgtid⟩, hobserved⟩ :=
      Processor.handle_row s (pipeline v.journal.events) hd hstaged
    · exact absurd hstays hmoved
    · exact ⟨hvgtid, nofun, fun _ => ⟨hlast, hobserved⟩⟩

/-- After the sample a shard goes back from its fifth transaction to its third. With the last row of
a transaction nobody notices, with a commit the shard is named. -/
theorem last_row_goes_back_unnoticed :
    let v := Sample.start.run Sample.setup Sample.pipeline Sample.transaction
    let row := v.step Sample.setup Sample.pipeline (Sample.row "orders" "a:1-3" true)
    let commit := v.step Sample.setup Sample.pipeline (Sample.commit "a:1-3")
    Vgtid.regressions gtidRanking v.processor.tracker.vgtid (Sample.position "a:1-3") =
        ["commerce/-80"] ∧
      row.1.processor.tracker.vgtid = Sample.position "a:1-3" ∧
      (¬ ∃ n ∈ row.2.notices, n.isBackwards = true) ∧
      commit.1.processor.tracker.vgtid = Sample.position "a:1-3" ∧
      ∃ n ∈ commit.2.notices, n.isBackwards = true := by
  intro v row commit
  have hback : Vgtid.regressions gtidRanking v.processor.tracker.vgtid (Sample.position "a:1-3") =
      ["commerce/-80"] := by
    decide +kernel
  have hrow : row.1.processor.tracker.vgtid ≠ v.processor.tracker.vgtid := by decide +kernel
  have hcommit : commit.1.processor.tracker.vgtid ≠ v.processor.tracker.vgtid := by decide +kernel
  obtain ⟨hrowTo, -, hunnoticed⟩ := backward_moves_noticed_except_by_rows Sample.setup
    Sample.pipeline (.initial .standard default) Sample.transaction
    (Sample.row "orders" "a:1-3" true) (Prod.eta row).symm hrow
  obtain ⟨hcommitTo, hnoticed, -⟩ := backward_moves_noticed_except_by_rows Sample.setup
    Sample.pipeline (.initial .standard default) Sample.transaction (Sample.commit "a:1-3")
    (Prod.eta commit).symm hcommit
  refine ⟨hback, hrowTo, ?_, hcommitTo, ?_⟩
  · rintro ⟨n, hn, -⟩
    obtain ⟨-, -, observe, hobserve, -⟩ := (hunnoticed rfl).2 n hn
    cases hobserve
  · rw [(hnoticed rfl).1]
    have hne : ["commerce/-80"] ≠ ([] : List String) := by simp
    exact hback ▸ hne

end Worker

end ShardStream

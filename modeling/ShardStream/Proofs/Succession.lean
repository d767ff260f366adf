import ShardStream.Proofs.Comparison
import ShardStream.Proofs.Regression

/-! # Positions that follow each other

A message that comes far enough replaces the position by the one that it brings, even if it fails
after that, and other messages leave the position where it is. If each position of a run covers the
one that it replaces, it covers all positions before it.
-/
namespace ShardStream

theorem Handling.offer_tracker {sink : Sink} {t : Tracker} {notices : List Notice} {e : Event}
    {next : Handling} (hnext : next.tracker = t) : (offer sink t notices e next).tracker = t := by
  rcases tracker_offer sink t notices e next with htracker | htracker
  · exact htracker
  · exact htracker.trans hnext

/-- Whether the message comes so far that the position that it brings takes effect, unless the
session has failed before. -/
def Delivery.lands (d : Delivery) : Bool :=
  match d.message with
  | .begin h => (Processor.beginId? h d.vgtid).isSome
  | .row h c => d.isLastRow && (TableId.resolve? h.keyspace c.table).isSome
  | _ => true

namespace Processor

/-- Whether the position that comes with the message takes effect. -/
def adopts (p : Processor) (d : Delivery) : Bool := p.phase ≠ .failed && d.lands

variable {s : Setup} {sink : Sink} {p p' : Processor} {d : Delivery} {o : Outcome}

theorem handleRow_vgtid (hp : p.tracker.staged = .none) {h : Header} {c : RowChange}
    {table : TableId} (htable : TableId.resolve? h.keyspace c.table = some table) :
    (handleRow s sink p h c d).tracker.vgtid =
      if d.isLastRow then d.vgtid else p.tracker.vgtid := by
  simp only [handleRow, htable]
  rw [Handling.offer_tracker, trackRow_eq hp]
  · rfl
  · rfl

theorem handle_vgtid (hp : p.tracker.staged = .none) :
    (handle s sink p d).tracker.vgtid = if d.lands then d.vgtid else p.tracker.vgtid := by
  obtain ⟨m, vgtid, last, now⟩ := d
  cases m with
  | begin h =>
    cases hid : beginId? h vgtid with
    | none => simp [Delivery.lands, handle, handleBegin, Handling.fail, hid]
    | some id =>
      rw [if_pos (by simp [Delivery.lands, hid])]
      exact (handleBegin_replaces hid).vgtid
  | commit h => exact (handleCommit_replaces h vgtid).vgtid
  | ddl h statement => exact (handleControl_replaces h vgtid).vgtid
  | other h => exact (handleControl_replaces h vgtid).vgtid
  | row h c =>
    cases htable : TableId.resolve? h.keyspace c.table with
    | none => simp [Delivery.lands, handle, handleRow, Handling.fail, htable]
    | some table =>
      simp only [Delivery.lands, htable, Option.isSome_some, Bool.and_true]
      exact handleRow_vgtid hp htable

/-- A message replaces the position by the one that it brings, or leaves it as it is. -/
theorem process_vgtid (hp : p.tracker.staged = .none) (h : p.process s sink d = (p', o)) :
    p'.tracker.vgtid = if p.adopts d then d.vgtid else p.tracker.vgtid := by
  by_cases hphase : p.phase = .failed
  · rw [process_failed hphase] at h
    cases h
    simp [adopts, hphase]
  · rw [(process_eq_handle hphase h).1, handle_vgtid hp]
    simp [adopts, hphase]

end Processor

namespace Worker

variable {ranking : Ranking} {s : Setup} {pipeline : Pipeline} {w : Worker}

/-- Each position that takes effect covers the one that it replaces. -/
def Advances (ranking : Ranking) (s : Setup) (pipeline : Pipeline) : Worker → List Delivery → Prop
  | _, [] => True
  | w, d :: ds =>
    (w.processor.adopts d = true → d.vgtid.covers ranking w.processor.tracker.vgtid = .ok true) ∧
      Advances ranking s pipeline (w.step s pipeline d).1 ds

instance Advances.decidable (ranking : Ranking) (s : Setup) (pipeline : Pipeline) :
    (w : Worker) → (ds : List Delivery) → Decidable (w.Advances ranking s pipeline ds)
  | _, [] => .isTrue trivial
  | w, d :: ds =>
    have := decidable ranking s pipeline (w.step s pipeline d).1 ds
    inferInstanceAs (Decidable (_ ∧ _))

theorem advances_append {xs ys : List Delivery} : w.Advances ranking s pipeline (xs ++ ys) ↔
    w.Advances ranking s pipeline xs ∧ (w.run s pipeline xs).Advances ranking s pipeline ys := by
  induction xs generalizing w with
  | nil => simp [Advances]
  | cons d xs ih => simp only [List.cons_append, Advances, ih, run_cons, and_assoc]

theorem step_vgtid (hw : w.processor.tracker.staged = .none) (d : Delivery) :
    (w.step s pipeline d).1.processor.tracker.vgtid =
      if w.processor.adopts d then d.vgtid else w.processor.tracker.vgtid :=
  Processor.process_vgtid hw (Prod.eta _).symm

/-- After a run that advances, the position is the same as any earlier one or covers it. -/
theorem Advances.eq_or_covers (hw : w.processor.tracker.staged = .none) {ds : List Delivery}
    (hds : w.Advances ranking s pipeline ds) {earlier : List Delivery} (hearlier : earlier <+: ds) :
    (w.run s pipeline ds).processor.tracker.vgtid =
        (w.run s pipeline earlier).processor.tracker.vgtid ∨
      (w.run s pipeline ds).processor.tracker.vgtid.covers ranking
        (w.run s pipeline earlier).processor.tracker.vgtid = .ok true := by
  -- From the end of the run: the last message leaves the position or brings one that covers it.
  induction ds using List.reverseRecOn with
  | nil =>
    obtain rfl := List.prefix_nil.1 hearlier
    exact .inl rfl
  | append_singleton past d ih =>
    obtain ⟨hpast, hd⟩ := advances_append.1 hds
    rcases List.prefix_concat_iff.1 hearlier with rfl | hearlier
    · exact .inl rfl
    · rw [run_concat, step_vgtid (run_staged s pipeline hw past)]
      split
      · next hadopts =>
        right
        rcases ih hpast hearlier with heq | hcovers
        · exact heq ▸ hd.1 hadopts
        · exact Vgtid.covers_trans (hd.1 hadopts) hcovers
      · exact ih hpast hearlier

/-- Covering is transitive, so progress along a stream composes. A message of a run replaces the
position by its own or leaves it. If each position that takes effect covers the one that it
replaces, it covers all positions that were in force before it. -/
theorem covering_composes (ranking : Ranking) :
    (∀ a b c : Vgtid, a.covers ranking b = .ok true → b.covers ranking c = .ok true →
        a.covers ranking c = .ok true) ∧
      ∀ (s : Setup) (pipeline : Pipeline) (w : Worker), w.processor.tracker.staged = .none →
        ∀ ds, w.Advances ranking s pipeline ds → ∀ past d rest, ds = past ++ d :: rest →
          let v := w.run s pipeline past
          (v.step s pipeline d).1.processor.tracker.vgtid =
              (if v.processor.adopts d then d.vgtid else v.processor.tracker.vgtid) ∧
            (v.processor.adopts d = true → ∀ earlier, earlier <+: past →
              d.vgtid.covers ranking (w.run s pipeline earlier).processor.tracker.vgtid =
                .ok true) := by
  refine ⟨fun a b c => Vgtid.covers_trans, ?_⟩
  rintro s pipeline w hw ds hds past d rest rfl v
  obtain ⟨hpast, hd, -⟩ := advances_append.1 hds
  refine ⟨step_vgtid (run_staged s pipeline hw past) d, ?_⟩
  intro hadopts earlier hearlier
  rcases hpast.eq_or_covers hw hearlier with heq | hcovers
  · exact heq ▸ hd hadopts
  · exact Vgtid.covers_trans (hd hadopts) hcovers

/-- The position after the second transaction covers the one before the first row of the first. -/
theorem second_transaction_covers_first :
    let past := Sample.transaction ++ [Sample.begin "a:1-6" "a:1-5"]
    let ds := past ++ [Sample.commit "a:1-6"]
    let begun := Sample.start.run Sample.setup Sample.pipeline [Sample.begin "a:1-5" "a:1-4"]
    Sample.start.Advances gtidRanking Sample.setup Sample.pipeline ds ∧
      begun.processor.tracker.vgtid = Sample.position "a:1-4" ∧
      (Sample.position "a:1-6").covers gtidRanking (Sample.position "a:1-4") = .ok true := by
  intro past ds begun
  have hadvances : Sample.start.Advances gtidRanking Sample.setup Sample.pipeline ds := by
    decide +kernel
  have hbegun : begun.processor.tracker.vgtid = Sample.position "a:1-4" := by decide +kernel
  obtain ⟨-, hcovers⟩ := (covering_composes gtidRanking).2 Sample.setup Sample.pipeline Sample.start
    rfl ds hadvances past (Sample.commit "a:1-6") [] rfl
  have hearlier := hcovers (by decide +kernel) [Sample.begin "a:1-5" "a:1-4"] (by decide +kernel)
  refine ⟨hadvances, hbegun, ?_⟩
  rw [← hbegun]
  exact hearlier

end Worker

end ShardStream

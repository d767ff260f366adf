import ShardStream.Proofs.Run

/-! # Failed messages

A message that fails hands over no event, tells no observer and publishes no offset, at whichever
point it fails. After it every message is refused and nothing changes any more.
-/
namespace ShardStream

def Setup.observedBy (s : Setup) (observers : List Observer) : Setup := { s with observers }

/-- The message is refused with an invalid state, and nothing else happens. -/
structure Outcome.Refused (o : Outcome) : Prop extends o.Silent where
  notices : o.notices = []
  result : ∃ f, o.result = .error f ∧ f.kind = .state

namespace Handling

/-- A handling that fails has handed over nothing and told nobody. -/
def Quiet (h : Handling) : Prop := ∀ f, h.result = .error f → h.event = none ∧ h.row = none

theorem quiet_fail (t : Tracker) (notices : List Notice) (f : Fault) : (fail t notices f).Quiet :=
  fun _ _ => ⟨rfl, rfl⟩

theorem quiet_offer {sink : Sink} {t : Tracker} {notices : List Notice} {e : Event}
    {next : Handling} {phase : Phase} (hnext : next.result = .ok phase) :
    (offer sink t notices e next).Quiet := by
  intro f hf
  rw [offer_refused (refused_of_offer hnext hf)]
  exact ⟨rfl, rfl⟩

end Handling

namespace Processor

variable {s : Setup} {sink : Sink} {p p' : Processor} {d : Delivery} {o : Outcome}

theorem handleBegin_quiet (h : Header) (vgtid : Vgtid) : (handleBegin s sink p h vgtid).Quiet := by
  unfold handleBegin
  cases beginId? h vgtid with
  | none => exact Handling.quiet_fail _ _ _
  | some id =>
    simp only
    split
    · exact Handling.quiet_fail _ _ _
    · exact Handling.quiet_offer rfl

theorem handleRow_quiet (h : Header) (c : RowChange) (d : Delivery) :
    (handleRow s sink p h c d).Quiet := by
  unfold handleRow
  cases TableId.resolve? h.keyspace c.table with
  | none => exact Handling.quiet_fail _ _ _
  | some table => exact Handling.quiet_offer rfl

theorem handle_quiet (s : Setup) (sink : Sink) (p : Processor) (d : Delivery) :
    (handle s sink p d).Quiet := by
  unfold handle
  cases d.message with
  | begin h => exact handleBegin_quiet h d.vgtid
  | commit h => exact Handling.quiet_offer rfl
  | ddl h statement => exact nofun
  | other h => exact nofun
  | row h c => exact handleRow_quiet h c d

theorem handle_control (hd : d.message.isControl = true) :
    (handle s sink p d).result = .ok p.phase := by
  obtain ⟨m, vgtid, last, now⟩ := d
  cases m with
  | ddl h statement => rfl
  | other h => rfl
  | _ => cases hd

/-- Observers matter only after the event of a row has been taken. -/
theorem handle_observedBy {f : Fault} (hf : (handle s sink p d).result = .error f)
    (observers : List Observer) : handle (s.observedBy observers) sink p d = handle s sink p d := by
  obtain ⟨m, vgtid, last, now⟩ := d
  cases m with
  | row h c =>
    simp only [handle, handleRow] at hf ⊢
    cases htable : TableId.resolve? h.keyspace c.table with
    | none => rfl
    | some table =>
      simp only [htable] at hf ⊢
      -- nobody observes before the sink has taken the event
      have hsink := Handling.refused_of_offer rfl hf
      rw [Handling.offer_refused hsink]
      exact Handling.offer_refused hsink
  | _ => rfl

theorem process_of_handle_error {f : Fault} (hp : p.phase ≠ .failed)
    (hf : (handle s sink p d).result = .error f) :
    p.process s sink d = (⟨(handle s sink p d).tracker, .failed⟩,
      ⟨.error f, (handle s sink p d).event, (handle s sink p d).row, none,
        (handle s sink p d).notices⟩) := by
  simp [process, hp, hf]

theorem handle_error_of_process {f : Fault} (hp : p.phase ≠ .failed)
    (ho : (p.process s sink d).2.result = .error f) : (handle s sink p d).result = .error f := by
  cases h : (handle s sink p d).result with
  | ok phase =>
    rw [process_of_handle hp h] at ho
    cases ho
  | error g =>
    rw [process_of_handle_error hp h] at ho
    cases ho
    rfl

/-- The first failure is silent, does not come from a control message and is the same whoever
observes. -/
theorem process_error {f : Fault} (hp : p.phase ≠ .failed) (h : p.process s sink d = (p', o))
    (ho : o.result = .error f) :
    o.Silent ∧ p'.phase = .failed ∧ d.message.isControl = false ∧
      ∀ observers, p.process (s.observedBy observers) sink d = (p', o) := by
  have hf : (handle s sink p d).result = .error f := handle_error_of_process hp (by rw [h, ho])
  have hobs := handle_observedBy hf
  obtain ⟨hevent, hrow⟩ := handle_quiet s sink p d f hf
  have hcontrol : d.message.isControl = false := by
    by_contra hc
    rw [handle_control (by simpa using hc)] at hf
    cases hf
  have hproc := process_of_handle_error hp hf
  rw [h] at hproc
  cases hproc
  refine ⟨⟨hevent, hrow, rfl⟩, rfl, hcontrol, fun observers => ?_⟩
  rw [process_of_handle_error hp (by rw [hobs observers, hf]), hobs observers]

theorem process_failed (hp : p.phase = .failed) (s : Setup) (sink : Sink) (d : Delivery) :
    p.process s sink d = refuse p d := by
  rw [process, if_pos hp]

theorem refused_refuse (p : Processor) (d : Delivery) : (refuse p d).2.Refused where
  event := rfl
  row := rfl
  published := rfl
  notices := rfl
  result := ⟨_, rfl, rfl⟩

end Processor

theorem Journal.add_silent (j : Journal) {o : Outcome} (ho : o.Silent) :
    j.add o = { j with notices := j.notices ++ o.notices } := by
  simp [Journal.add, ho.event, ho.row, ho.published]

theorem Journal.add_refused (j : Journal) {o : Outcome} (ho : o.Refused) : j.add o = j := by
  simp [j.add_silent ho.toSilent, ho.notices]

namespace Worker

variable {s : Setup} {pipeline : Pipeline} {w : Worker}

theorem step_failed (hw : w.processor.phase = .failed) (d : Delivery) :
    w.step s pipeline d = (w, (w.processor.refuse d).2) := by
  have hadd := w.journal.add_refused (w.processor.refused_refuse d)
  simp only [step, Processor.process_failed hw, hadd]
  rfl

theorem run_failed (hw : w.processor.phase = .failed) (ds : List Delivery) :
    w.run s pipeline ds = w := by
  induction ds with
  | nil => rfl
  | cons d ds ih => rw [run_cons, step_failed hw, ih]

theorem outcomes_failed (hw : w.processor.phase = .failed) (ds : List Delivery) :
    w.outcomes s pipeline ds = ds.map fun d => (w.processor.refuse d).2 := by
  induction ds with
  | nil => rfl
  | cons d ds ih => rw [outcomes, step_failed hw, ih, List.map_cons]

theorem step_of_error {d : Delivery} (hw : w.processor.phase ≠ .failed)
    (hd : (w.step s pipeline d).2.result ≠ .ok ()) :
    (w.step s pipeline d).1.processor.phase = .failed ∧
      (w.step s pipeline d).1.journal.events = w.journal.events ∧
      (w.step s pipeline d).1.journal.rows = w.journal.rows ∧
      (w.step s pipeline d).1.journal.published = w.journal.published := by
  rcases hprocess : w.processor.process s (pipeline w.journal.events) d with ⟨p, o⟩
  have hstep : w.step s pipeline d = (⟨p, w.journal.add o⟩, o) := by rw [step, hprocess]
  rw [hstep] at hd ⊢
  cases ho : o.result with
  | ok _ => exact absurd ho hd
  | error f =>
    obtain ⟨hsilent, hfailed, -, -⟩ := Processor.process_error hw hprocess ho
    rw [w.journal.add_silent hsilent]
    exact ⟨hfailed, rfl, rfl, rfl⟩

theorem accepts_or_failed (s : Setup) (pipeline : Pipeline) (t : Tracker) (ds : List Delivery) :
    (Worker.start t).Accepts s pipeline ds ∨
      ((Worker.start t).run s pipeline ds).processor.phase = .failed := by
  induction ds using List.reverseRecOn with
  | nil => exact .inl accepts_nil
  | append_singleton past d ih =>
    rw [run_concat]
    rcases ih with hpast | hfailed
    · by_cases hd : (((Worker.start t).run s pipeline past).step s pipeline d).2.result = .ok ()
      · exact .inl (accepts_concat.2 ⟨hpast, hd⟩)
      · exact .inr (step_of_error hpast.phase_ne_failed hd).1
    · rw [step_failed hfailed]
      exact .inr hfailed

/-- The first failure of a run shows nothing to anybody and ends the run for good: what has been
handed over, observed and published stays what it was after the messages before it. -/
theorem failure_is_silent_and_final (s : Setup) (pipeline : Pipeline) (t : Tracker)
    {past : List Delivery} {d : Delivery} {w : Worker} {o : Outcome} {f : Fault}
    (hpast : (Worker.start t).Accepts s pipeline past)
    (hstep : ((Worker.start t).run s pipeline past).step s pipeline d = (w, o))
    (ho : o.result = .error f) :
    (o.Silent ∧ d.message.isControl = false ∧
      ∀ observers, ((Worker.start t).run s pipeline past).step (s.observedBy observers) pipeline d =
        (w, o)) ∧
    (w.journal.events = ((Worker.start t).run s pipeline past).journal.events ∧
      w.journal.rows = ((Worker.start t).run s pipeline past).journal.rows ∧
      w.journal.published = ((Worker.start t).run s pipeline past).journal.published) ∧
    w.processor.phase = .failed ∧
    ∀ later, w.run s pipeline later = w ∧ ∀ o ∈ w.outcomes s pipeline later, o.Refused := by
  have hphase := hpast.phase_ne_failed
  generalize (Worker.start t).run s pipeline past = v at hstep hphase ⊢
  have hproc : v.processor.process s (pipeline v.journal.events) d = (w.processor, o) ∧
      v.journal.add o = w.journal := by
    unfold step at hstep
    cases hstep
    exact ⟨rfl, rfl⟩
  obtain ⟨hsilent, hfailed, hcontrol, hobs⟩ := Processor.process_error hphase hproc.1 ho
  have hjournal := hproc.2
  rw [v.journal.add_silent hsilent] at hjournal
  refine ⟨⟨hsilent, hcontrol, fun observers => ?_⟩, ?_, hfailed,
    fun later => ⟨run_failed hfailed later, ?_⟩⟩
  · simp only [step, hobs observers, hproc.2]
  · rw [← hjournal]
    exact ⟨rfl, rfl, rfl⟩
  · intro o' ho'
    rw [outcomes_failed hfailed] at ho'
    obtain ⟨d', -, rfl⟩ := List.mem_map.1 ho'
    exact w.processor.refused_refuse d'

/-- The event of the last row is refused when its position has already been staged and applied. -/
theorem refused_last_row_is_silent_and_final :
    let halting : Pipeline := fun events => if events = [] then Sink.open else Sink.closed
    let begun := Sample.start.run Sample.setup halting [Sample.begin "a:1-5" "a:1-4"]
    let refused := begun.step Sample.setup halting (Sample.row "orders" "a:1-5" true)
    refused.2.result = .error .receiverClosed ∧
      refused.1.processor.tracker.vgtid = Sample.position "a:1-5" ∧
      refused.1.journal.published.map (·.vgtid) = [Sample.position "a:1-4"] ∧
      ∀ later, refused.1.run Sample.setup halting later = refused.1 := by
  intro halting begun refused
  have hpast : Sample.start.Accepts Sample.setup halting [Sample.begin "a:1-5" "a:1-4"] := by
    decide +kernel
  have ho : refused.2.result = .error .receiverClosed := by decide +kernel
  obtain ⟨-, ⟨-, -, hpublished⟩, -, hlater⟩ :=
    failure_is_silent_and_final Sample.setup halting (.initial .standard default) hpast
      (Prod.eta refused).symm ho
  refine ⟨ho, by decide +kernel, ?_, fun later => (hlater later).1⟩
  rw [hpublished]
  decide +kernel

end Worker

end ShardStream

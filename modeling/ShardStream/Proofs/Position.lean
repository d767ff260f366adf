import ShardStream.Proofs.Run

/-! # The position after each message

The position of a session is the one that came with the last message that moves it. Boundaries and
control messages move it, and so does the last row of a transaction; other rows leave it where it
is, and the position that comes with them is seen by nobody. The tracker, the stored offset and the
event of a message agree on the position after it.
-/
namespace ShardStream

namespace Delivery

/-- Whether the position that comes with the message takes effect. -/
def moves (d : Delivery) : Bool :=
  match d.message with
  | .row _ _ => d.isLastRow
  | _ => true

/-- The message without a position that takes no effect. -/
def shown (d : Delivery) : Delivery := if d.moves then d else { d with vgtid := ⟨[]⟩ }

end Delivery

def positionAfter (start : Vgtid) (ds : List Delivery) : Vgtid :=
  ds.foldl (fun m d => if d.moves then d.vgtid else m) start

theorem positionAfter_concat (start : Vgtid) (ds : List Delivery) (d : Delivery) :
    positionAfter start (ds ++ [d]) = if d.moves then d.vgtid else positionAfter start ds := by
  simp [positionAfter]

theorem positionAfter_of_still {start : Vgtid} {ds : List Delivery}
    (hds : ∀ d ∈ ds, d.moves = false) : positionAfter start ds = start := by
  induction ds with
  | nil => rfl
  | cons d ds ih =>
    obtain ⟨hd, hds⟩ := List.forall_mem_cons.1 hds
    rw [positionAfter, List.foldl_cons, if_neg (by simp [hd])]
    exact ih hds

namespace Tracker

theorem stored_micros (t : Tracker) : t.stored.micros.toInt = t.source.time.nanos / 1000 := by
  obtain ⟨hlow, hhigh⟩ := t.source.time.micros_bounds
  rw [← Instant.micros_eq_nanos_ediv]
  exact Int64.toInt_ofInt_of_le hlow hhigh

end Tracker

namespace Processor

variable {s : Setup} {sink : Sink} {p p' : Processor} {d : Delivery} {o : Outcome}

theorem Takes.position (ht : Takes s sink p d p' o) (hp : p.tracker.staged = .none) :
    p'.tracker.staged = .none ∧
      p'.tracker.vgtid = (if d.moves then d.vgtid else p.tracker.vgtid) ∧
      p'.tracker.source.time = d.message.header.commitTime := by
  cases ht with
  | begin hid hrotate horder hbegun hsink =>
    obtain ⟨epochs, rfl⟩ := orderFor_ok horder
    cases hrotate
    subst hbegun
    exact ⟨rfl, rfl, rfl⟩
  | commit hrotate hsink =>
    cases hrotate
    exact ⟨rfl, rfl, rfl⟩
  | @control m vgtid last now rotated moved hm hrotate =>
    cases hrotate
    cases m with
    | ddl h statement => exact ⟨rfl, rfl, rfl⟩
    | other h => exact ⟨rfl, rfl, rfl⟩
    | _ => cases hm
  | row htable htracked hsink =>
    rw [trackRow_eq hp] at htracked
    subst htracked
    exact ⟨rfl, rfl, rfl⟩

theorem Takes.event_source (ht : Takes s sink p d p' o) {e : Event} (he : o.event = some e) :
    e.source = p'.tracker.source := by
  cases ht <;> cases he <;> rfl

/-- A row that is not the last one is handled without a look at the position that comes with it. -/
theorem process_shown (s : Setup) (sink : Sink) (p : Processor) (d : Delivery) :
    p.process s sink d.shown = p.process s sink d := by
  obtain ⟨m, vgtid, last, now⟩ := d
  cases m with
  | row h c => cases last <;> rfl
  | _ => rfl

end Processor

namespace Worker

variable {s : Setup} {pipeline : Pipeline}

theorem outcomes_shown (w : Worker) (ds : List Delivery) :
    w.outcomes s pipeline (ds.map Delivery.shown) = w.outcomes s pipeline ds := by
  induction ds generalizing w with
  | nil => rfl
  | cons d ds ih =>
    have hstep : w.step s pipeline d.shown = w.step s pipeline d := by
      unfold step
      rw [Processor.process_shown]
    rw [List.map_cons, outcomes, outcomes, hstep, ih]

theorem Accepts.position {w : Worker} (hw : w.processor.tracker.staged = .none)
    {ds : List Delivery} (hds : w.Accepts s pipeline ds) :
    (w.run s pipeline ds).processor.tracker.staged = .none ∧
      (w.run s pipeline ds).processor.tracker.vgtid =
        positionAfter w.processor.tracker.vgtid ds ∧
      ∀ d, ds.getLast? = some d →
        (w.run s pipeline ds).processor.tracker.source.time = d.message.header.commitTime := by
  refine hds.induction (motive := fun past v => v.processor.tracker.staged = .none ∧
    v.processor.tracker.vgtid = positionAfter w.processor.tracker.vgtid past ∧
    ∀ d, past.getLast? = some d → v.processor.tracker.source.time = d.message.header.commitTime)
    ⟨hw, rfl, fun d hd => absurd hd (by simp)⟩ ?_
  rintro past v v' d o htakes - ⟨hstaged, hvgtid, -⟩
  obtain ⟨hstaged', hvgtid', htime⟩ := htakes.position hstaged
  rw [hvgtid, ← positionAfter_concat] at hvgtid'
  refine ⟨hstaged', hvgtid', fun e he => ?_⟩
  rw [List.getLast?_concat] at he
  cases he
  exact htime

/-- The marker law. After each message of an accepted run the tracker, the stored offset and the
event of the message carry the position that the messages up to it lead to, and the time of that
message. What a row that is not the last one brings along changes nothing anybody sees. -/
theorem position_after_each_message (s : Setup) (pipeline : Pipeline) {t : Tracker}
    (ht : t.IsStart) {ds : List Delivery} (hds : (Worker.start t).Accepts s pipeline ds) :
    (Worker.start t).outcomes s pipeline (ds.map Delivery.shown) =
        (Worker.start t).outcomes s pipeline ds ∧
      ∀ (past : List Delivery) (d : Delivery) (rest : List Delivery) (w : Worker) (o : Outcome),
        ds = past ++ d :: rest →
        ((Worker.start t).run s pipeline past).step s pipeline d = (w, o) →
        w.processor.tracker.vgtid = positionAfter t.vgtid (past ++ [d]) ∧
        w.processor.tracker.staged.isPending = false ∧
        (∃ stored, w.journal.published.getLast? = some stored ∧
          stored.vgtid = positionAfter t.vgtid (past ++ [d]) ∧
          stored.micros.toInt = d.message.header.commitTime.nanos / 1000) ∧
        ∀ e, o.event = some e → e.source.vgtid = positionAfter t.vgtid (past ++ [d]) ∧
          e.source.time = d.message.header.commitTime := by
  refine ⟨outcomes_shown _ ds, ?_⟩
  rintro past d rest w o rfl hstep
  obtain ⟨htakes, hjournal⟩ := hds.takes hstep
  obtain ⟨hstaged, hvgtid, -⟩ := (accepts_append.1 hds).1.position ht.staged
  obtain ⟨hstaged', hvgtid', htime⟩ := htakes.position hstaged
  rw [hvgtid, ← positionAfter_concat] at hvgtid'
  have hlast := getLast?_published htakes hjournal
  refine ⟨hvgtid', by rw [hstaged']; rfl, ⟨w.processor.tracker.stored, hlast, hvgtid', ?_⟩, ?_⟩
  · rw [Tracker.stored_micros, htime]
  · intro e he
    rw [htakes.event_source he]
    exact ⟨hvgtid', htime⟩

theorem position_after_inner_row :
    Sample.start.Accepts Sample.setup Sample.pipeline Sample.transaction ∧
      ∃ stored, (Sample.start.run Sample.setup Sample.pipeline
        (Sample.transaction.take 2)).journal.published.getLast? = some stored ∧
        stored.vgtid = Sample.position "a:1-4" := by
  have hds : Sample.start.Accepts Sample.setup Sample.pipeline Sample.transaction := by
    decide +kernel
  obtain ⟨-, -, ⟨stored, hlast, hvgtid, -⟩, -⟩ :=
    (position_after_each_message Sample.setup Sample.pipeline (.initial .standard default) hds).2
      (Sample.transaction.take 1) (Sample.row "orders" "a:1-9" false) (Sample.transaction.drop 2)
      _ _ rfl (Prod.eta _).symm
  exact ⟨hds, stored, hlast, hvgtid⟩

end Worker

end ShardStream

import Mathlib.Data.List.Induction
import ShardStream.Session
import ShardStream.Proofs.Processing

/-! # Runs of a worker

A run gives a worker one message after the other. It is accepted if every message succeeds. What
holds at the start of a run and is kept by every message taken holds after every accepted run.
-/
namespace ShardStream

/-- A tracker as a session starts with it: a new one, or one that goes on from a stored offset. -/
inductive Tracker.IsStart : Tracker → Prop
  | initial (c : Config) (now : Instant) : IsStart (.initial c now)
  | load {c : Config} {stored : StoredOffset} {t : Tracker} {notices : List Notice}
      (h : Tracker.load c stored = .ok (t, notices)) : IsStart t

namespace Tracker

variable {c : Config} {stored : StoredOffset} {t : Tracker} {notices : List Notice}

/-- A session goes on from an offset that has a position and a time on some day of the calendar. It
has the position and the epochs of the offset, and nothing open. -/
theorem load_eq_ok_iff : load c stored = .ok (t, notices) ↔ stored.vgtid.isEmpty = false ∧
    ∃ time, Instant.ofMicros? stored.micros.toInt = some time ∧
      t = ofSource ⟨c.serverName, c.keyspace, none, stored.vgtid, time, none⟩
        (Epochs.restore stored.epochs stored.vgtid).1 ∧
      notices = (Epochs.restore stored.epochs stored.vgtid).2 := by
  unfold load
  cases stored.vgtid.isEmpty with
  | true => simp
  | false =>
    cases Instant.ofMicros? stored.micros.toInt with
    | none => simp
    | some time => simp [eq_comm]

theorem load_ok (h : load c stored = .ok (t, notices)) : ∃ time, t = ofSource
    ⟨c.serverName, c.keyspace, none, stored.vgtid, time, none⟩
    (Epochs.restore stored.epochs stored.vgtid).1 := by
  obtain ⟨-, time, -, ht, -⟩ := load_eq_ok_iff.1 h
  exact ⟨time, ht⟩

theorem load_of_time (c : Config) (hvgtid : stored.vgtid.isEmpty = false)
    (htime : (Instant.ofMicros? stored.micros.toInt).isSome = true) :
    ∃ resumed notices, load c stored = .ok (resumed, notices) := by
  obtain ⟨time, htime⟩ := Option.isSome_iff_exists.1 htime
  exact ⟨_, _, load_eq_ok_iff.2 ⟨hvgtid, time, htime, rfl, rfl⟩⟩

theorem IsStart.staged (ht : t.IsStart) : t.staged = .none := by
  cases ht with
  | initial c now => rfl
  | load h =>
    obtain ⟨time, rfl⟩ := load_ok h
    rfl

theorem IsStart.progress (ht : t.IsStart) : t.progress = .none := by
  cases ht with
  | initial c now => rfl
  | load h =>
    obtain ⟨time, rfl⟩ := load_ok h
    rfl

theorem IsStart.vgtid_isEmpty (ht : t.IsStart) : t.vgtid.isEmpty = false := by
  cases ht with
  | initial c now => exact Vgtid.isEmpty_start c.keyspace c.shards c.gtid
  | load h =>
    obtain ⟨hvgtid, time, -, rfl, -⟩ := load_eq_ok_iff.1 h
    exact hvgtid

end Tracker

namespace Worker

def run (s : Setup) (pipeline : Pipeline) (w : Worker) (ds : List Delivery) : Worker :=
  ds.foldl (fun w d => (w.step s pipeline d).1) w

def outcomes (s : Setup) (pipeline : Pipeline) : Worker → List Delivery → List Outcome
  | _, [] => []
  | w, d :: ds => (w.step s pipeline d).2 :: outcomes s pipeline (w.step s pipeline d).1 ds

/-- Every message of the list succeeds. -/
def Accepts (s : Setup) (pipeline : Pipeline) (w : Worker) (ds : List Delivery) : Prop :=
  ∀ o ∈ w.outcomes s pipeline ds, o.result = .ok ()

variable {s : Setup} {pipeline : Pipeline} {w : Worker}

instance (ds : List Delivery) : Decidable (w.Accepts s pipeline ds) :=
  inferInstanceAs (Decidable (∀ o ∈ w.outcomes s pipeline ds, o.result = .ok ()))

@[simp] theorem run_nil : w.run s pipeline [] = w := rfl

@[simp] theorem run_cons (d : Delivery) (ds : List Delivery) :
    w.run s pipeline (d :: ds) = (w.step s pipeline d).1.run s pipeline ds := rfl

theorem run_append (xs ys : List Delivery) :
    w.run s pipeline (xs ++ ys) = (w.run s pipeline xs).run s pipeline ys := List.foldl_append

theorem run_concat (ds : List Delivery) (d : Delivery) :
    w.run s pipeline (ds ++ [d]) = ((w.run s pipeline ds).step s pipeline d).1 := run_append ds [d]

theorem outcomes_append (xs ys : List Delivery) : w.outcomes s pipeline (xs ++ ys) =
    w.outcomes s pipeline xs ++ (w.run s pipeline xs).outcomes s pipeline ys := by
  induction xs generalizing w with
  | nil => rfl
  | cons d ds ih => simp only [List.cons_append, outcomes, ih, run_cons]

theorem accepts_append {xs ys : List Delivery} : w.Accepts s pipeline (xs ++ ys) ↔
    w.Accepts s pipeline xs ∧ (w.run s pipeline xs).Accepts s pipeline ys := by
  simp only [Accepts, outcomes_append, List.forall_mem_append]

theorem accepts_cons {d : Delivery} {ds : List Delivery} : w.Accepts s pipeline (d :: ds) ↔
    (w.step s pipeline d).2.result = .ok () ∧ (w.step s pipeline d).1.Accepts s pipeline ds := by
  simp only [Accepts, outcomes, List.forall_mem_cons]

theorem accepts_nil : w.Accepts s pipeline [] := List.forall_mem_nil _

theorem accepts_concat {ds : List Delivery} {d : Delivery} : w.Accepts s pipeline (ds ++ [d]) ↔
    w.Accepts s pipeline ds ∧ ((w.run s pipeline ds).step s pipeline d).2.result = .ok () := by
  rw [accepts_append, accepts_cons, and_iff_left accepts_nil]

theorem takes_of_step {d : Delivery} {w' : Worker} {o : Outcome}
    (hstep : w.step s pipeline d = (w', o)) (ho : o.result = .ok ()) :
    w.processor.Takes s (pipeline w.journal.events) d w'.processor o ∧
      w'.journal = w.journal.add o := by
  unfold step at hstep
  cases hstep
  exact ⟨Processor.takes_of_process rfl ho, rfl⟩

/-- What the start satisfies and every message taken keeps is satisfied after an accepted run,
together with the messages of the run. -/
theorem Accepts.induction {motive : List Delivery → Worker → Prop} {ds : List Delivery}
    (hds : w.Accepts s pipeline ds) (start : motive [] w)
    (next : ∀ {past : List Delivery} {v v' : Worker} {d : Delivery} {o : Outcome},
      v.processor.Takes s (pipeline v.journal.events) d v'.processor o →
      v'.journal = v.journal.add o → motive past v → motive (past ++ [d]) v') :
    motive ds (w.run s pipeline ds) := by
  -- from the end, since what is kept speaks of the messages so far
  induction ds using List.reverseRecOn with
  | nil => exact start
  | append_singleton past d ih =>
    obtain ⟨hpast, hstep⟩ := accepts_concat.1 hds
    obtain ⟨htakes, hjournal⟩ := takes_of_step (Prod.eta _).symm hstep
    rw [run_concat]
    exact next htakes hjournal (ih hpast)

theorem Accepts.takes {past rest : List Delivery} {d : Delivery} {w' : Worker} {o : Outcome}
    (hds : w.Accepts s pipeline (past ++ d :: rest))
    (hstep : (w.run s pipeline past).step s pipeline d = (w', o)) :
    (w.run s pipeline past).processor.Takes s (pipeline (w.run s pipeline past).journal.events) d
      w'.processor o ∧ w'.journal = (w.run s pipeline past).journal.add o := by
  have hd := (accepts_cons.1 (accepts_append.1 hds).2).1
  rw [hstep] at hd
  exact takes_of_step hstep hd

theorem getLast?_published {w' : Worker} {sink : Sink} {d : Delivery} {o : Outcome}
    (htakes : w.processor.Takes s sink d w'.processor o) (hjournal : w'.journal = w.journal.add o) :
    w'.journal.published.getLast? = some w'.processor.tracker.stored := by
  rw [hjournal, Journal.add, htakes.published]
  exact List.getLast?_concat

theorem Accepts.published {ds : List Delivery} (hds : w.Accepts s pipeline ds)
    (hw : w.journal.published.getLast? = some w.processor.tracker.stored) :
    (w.run s pipeline ds).journal.published.getLast? =
      some (w.run s pipeline ds).processor.tracker.stored :=
  hds.induction (motive := fun _ v =>
    v.journal.published.getLast? = some v.processor.tracker.stored) hw
    fun htakes hjournal _ => getLast?_published htakes hjournal

theorem Accepts.phase_ne_failed {t : Tracker} {ds : List Delivery}
    (hds : (Worker.start t).Accepts s pipeline ds) :
    ((Worker.start t).run s pipeline ds).processor.phase ≠ .failed :=
  hds.induction (motive := fun _ v => v.processor.phase ≠ .failed) nofun
    fun htakes _ hv => htakes.phase_ne_failed hv

end Worker

/-! A short transaction for closed statements about runs. The position that comes with its first
row never takes effect. -/
namespace Sample

def setup : Setup := ⟨⟨"vitess"⟩, gtidRanking, true, []⟩

def pipeline : Pipeline := fun _ => Sink.open

def start : Worker := .start (.initial .standard default)

def position (gtid : String) : Vgtid := ⟨[⟨"commerce", "-80", gtid⟩]⟩

def header (id : Option String) : Header := ⟨"commerce", "-80", id, default⟩

def begin (id gtid : String) : Delivery :=
  ⟨.begin (header (some id)), position gtid, false, default⟩

def commit (gtid : String) : Delivery := ⟨.commit (header none), position gtid, false, default⟩

def row (table gtid : String) (last : Bool) : Delivery :=
  ⟨.row (header none) (.insert table []), position gtid, last, default⟩

def transaction : List Delivery :=
  [begin "a:1-5" "a:1-4", row "orders" "a:1-9" false, row "commerce.orders" "a:1-5" true,
    commit "a:1-5"]

end Sample

end ShardStream

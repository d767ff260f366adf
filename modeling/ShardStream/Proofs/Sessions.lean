import ShardStream.Proofs.Failure

/-! # One session from its start to its end

A session takes the messages that were sent until one of three things ends it: a fault that was sent
instead of a message, a message that it cannot take, or the end of a stream that was closed. It then
reports that fault and no other. If none of them comes it waits for more until it is told to stop.
What it has shown and published by then is what the processor has for the messages taken, and what
was sent after them is never looked at.
-/
namespace ShardStream

namespace Connection

variable {σ : Type}

/-- A new connection to which items have been sent, and which may have been closed after that. -/
def fed (items : List Item) (closed : Bool) : Connection σ :=
  let sent := items.foldl (fun c item => (c.send item).1) fresh
  if closed then sent.dropSender else sent

theorem foldl_send (queue items : List Item) :
    items.foldl (fun c item => (c.send item).1) (⟨queue, .waiting, true, none, 0⟩ : Connection σ) =
      ⟨queue ++ items, .waiting, true, none, 0⟩ := by
  induction items generalizing queue with
  | nil => simp
  | cons item items ih =>
    rw [List.foldl_cons, List.append_cons]
    exact ih (queue ++ [item])

theorem fed_eq (items : List Item) (closed : Bool) :
    (fed items closed : Connection σ) = ⟨items, .waiting, !closed, none, 0⟩ := by
  have hsent := foldl_send (σ := σ) [] items
  cases closed with
  | true => exact congrArg dropSender hsent
  | false => exact hsent

/-- A stream that has come to its end stops, and one that waits for more goes on. -/
theorem settle_running {consume : Consumer σ} {c : Connection σ} {before after : σ}
    {found fault? : Option Fault} (hstream : c.stream = .running before)
    (hdeliver : deliver consume before c.queue = (after, found))
    (hending : c.ending found = fault?) :
    ∃ slot, c.settle consume .empty = ({ c with
        queue := [], stream := if fault?.isSome then .stopped after else .running after },
      slot, []) ∧ slot.take.1 = fault? := by
  simp only [settle, hstream, hdeliver, hending]
  cases fault? with
  | none => exact ⟨_, rfl, rfl⟩
  | some f => exact ⟨_, rfl, rfl⟩

end Connection

namespace Worker

/-- How a worker comes to a stop before what is left of the items: at a fault that was sent, at a
message that it cannot take, or at the end. -/
inductive StopsAt (s : Setup) (pipeline : Pipeline) (w : Worker) :
    Bool → List Item → Option Fault → Prop
  | sent (closed : Bool) (f : Fault) (rest : List Item) :
      StopsAt s pipeline w closed (.fault f :: rest) (some f)
  | refused (closed : Bool) {d : Delivery} {f : Fault} (rest : List Item)
      (h : (w.step s pipeline d).2.result = .error f) :
      StopsAt s pipeline w closed (.delivery d :: rest) (some f)
  | ended : StopsAt s pipeline w true [] (some .streamEnded)
  | waiting : StopsAt s pipeline w false [] none

/-- The worker takes the first messages of the items and comes to a stop before the rest. -/
structure StopsAfter (s : Setup) (pipeline : Pipeline) (w : Worker) (closed : Bool)
    (items : List Item) (taken : List Delivery) (rest : List Item) (fault? : Option Fault) :
    Prop where
  items : items = taken.map .delivery ++ rest
  accepts : w.Accepts s pipeline taken
  stops : (w.run s pipeline taken).StopsAt s pipeline closed rest fault?

variable {s : Setup} {pipeline : Pipeline} {w : Worker} {closed : Bool} {items rest : List Item}
  {taken : List Delivery} {fault? : Option Fault}

/-- Every worker comes to a stop. -/
theorem exists_stopsAfter (s : Setup) (pipeline : Pipeline) (w : Worker) (closed : Bool)
    (items : List Item) :
    ∃ taken rest fault?, w.StopsAfter s pipeline closed items taken rest fault? := by
  induction items generalizing w with
  | nil =>
    cases closed with
    | true => exact ⟨[], [], _, rfl, accepts_nil, .ended⟩
    | false => exact ⟨[], [], _, rfl, accepts_nil, .waiting⟩
  | cons item items ih =>
    cases item with
    | fault f => exact ⟨[], _, _, rfl, accepts_nil, .sent closed f items⟩
    | delivery d =>
      cases hd : (w.step s pipeline d).2.result with
      | error f => exact ⟨[], _, _, rfl, accepts_nil, .refused closed items hd⟩
      | ok _ =>
        obtain ⟨taken, rest, fault?, hitems, haccepts, hstops⟩ := ih (w.step s pipeline d).1
        refine ⟨d :: taken, rest, fault?, ?_, accepts_cons.2 ⟨hd, haccepts⟩, hstops⟩
        rw [hitems]
        rfl

theorem StopsAt.unique {fault?' : Option Fault} (h : w.StopsAt s pipeline closed rest fault?)
    (h' : w.StopsAt s pipeline closed rest fault?') : fault?' = fault? := by
  cases h with
  | refused _ rest hd =>
    cases h' with
    | refused _ _ hd' => rw [← Except.error.inj (hd.symm.trans hd')]
  | _ =>
    cases h'
    rfl

/-- A worker does not stop before a message that it takes. -/
theorem StopsAt.not_ok {d : Delivery}
    (h : w.StopsAt s pipeline closed (.delivery d :: rest) fault?) :
    (w.step s pipeline d).2.result ≠ .ok () := by
  cases h with
  | refused _ _ hd =>
    rw [hd]
    exact nofun

/-- There is only one stop that a worker comes to. -/
theorem StopsAfter.unique {taken' : List Delivery} {rest' : List Item} {fault?' : Option Fault}
    (h : w.StopsAfter s pipeline closed items taken rest fault?)
    (h' : w.StopsAfter s pipeline closed items taken' rest' fault?') :
    taken' = taken ∧ rest' = rest ∧ fault?' = fault? := by
  obtain ⟨rfl, haccepts, hstops⟩ := h
  obtain ⟨hitems, haccepts', hstops'⟩ := h'
  induction taken generalizing w taken' with
  | nil =>
    cases taken' with
    | nil =>
      cases hitems
      exact ⟨rfl, rfl, hstops.unique hstops'⟩
    | cons d taken' =>
      cases hitems
      exact absurd (accepts_cons.1 haccepts').1 hstops.not_ok
  | cons d taken ih =>
    cases taken' with
    | nil =>
      cases hitems
      exact absurd (accepts_cons.1 haccepts).1 hstops'.not_ok
    | cons d' taken' =>
      obtain ⟨hhead, htail⟩ := List.cons.inj hitems
      cases hhead
      obtain ⟨rfl, hrest, hfault⟩ := ih (accepts_cons.1 haccepts).2 hstops htail
        (accepts_cons.1 haccepts').2 hstops'
      exact ⟨rfl, hrest, hfault⟩

/-- The message that a worker could not take, if it came to a stop at one. -/
def tried : List Item → List Delivery
  | .delivery d :: _ => [d]
  | _ => []

theorem deliver_taken (h : w.Accepts s pipeline taken) (rest : List Item) :
    Connection.deliver (consume s pipeline) w (taken.map .delivery ++ rest) =
      Connection.deliver (consume s pipeline) (w.run s pipeline taken) rest := by
  induction taken generalizing w with
  | nil => rfl
  | cons d taken ih =>
    obtain ⟨hd, htaken⟩ := accepts_cons.1 h
    have hconsume : consume s pipeline w d = ((w.step s pipeline d).1, .done) := by
      simp only [consume, hd]
    rw [List.map_cons, List.cons_append, Connection.deliver, hconsume, run_cons, ← ih htaken]

/-- Delivery comes as far as the worker, and what ends it is what stopped the worker. -/
theorem StopsAfter.deliver (h : w.StopsAfter s pipeline closed items taken rest fault?)
    (origin : Option Vgtid) (count : Nat) :
    ∃ found, Connection.deliver (consume s pipeline) w items =
        (w.run s pipeline (taken ++ tried rest), found) ∧
      Connection.ending ⟨items, .running w, !closed, origin, count⟩ found = fault? := by
  obtain ⟨hitems, haccepts, hstops⟩ := h
  rw [run_append, hitems, deliver_taken haccepts]
  generalize w.run s pipeline taken = v at hstops
  cases hstops with
  | sent _ f rest => exact ⟨some f, rfl, rfl⟩
  | @refused _ d f rest hd =>
    have hconsume : consume s pipeline v d = ((v.step s pipeline d).1, .failed f) := by
      simp only [consume, hd]
    refine ⟨some f, ?_, rfl⟩
    rw [Connection.deliver, hconsume]
    rfl
  | ended => exact ⟨none, rfl, rfl⟩
  | waiting => exact ⟨none, rfl, rfl⟩

/-- A message that cannot be taken shows nothing and publishes nothing. -/
theorem StopsAfter.journal {t : Tracker}
    (h : (Worker.start t).StopsAfter s pipeline closed items taken rest fault?) :
    let ended := (Worker.start t).run s pipeline (taken ++ tried rest)
    let run := (Worker.start t).run s pipeline taken
    ended.journal.events = run.journal.events ∧ ended.journal.rows = run.journal.rows ∧
      ended.journal.published = run.journal.published := by
  obtain ⟨hitems, haccepts, hstops⟩ := h
  have hphase := haccepts.phase_ne_failed
  rw [run_append]
  generalize (Worker.start t).run s pipeline taken = v at hstops hphase
  cases hstops with
  | refused _ rest hd =>
    exact (step_of_error hphase (fun hok => by rw [hok] at hd; cases hd)).2
  | _ => exact ⟨rfl, rfl, rfl⟩

end Worker

namespace Streaming

/-- What a session leaves behind that began at a tracker, took the messages and came to a stop
before the rest. -/
structure Leaves (before : Streaming) (s : Setup) (t : Tracker) (closed : Bool)
    (taken : List Delivery) (rest : List Item) (fault? : Option Fault) (after : Streaming)
    (ending : SessionEnd) : Prop where
  ending : ending = if fault?.isSome then .failed else .stopped
  inbox : after.inbox = fault?.elim before.inbox fun f => (before.inbox.report f).1
  events : after.journal.events = ((Worker.start t).run s before.pipeline taken).journal.events
  rows : after.journal.rows = ((Worker.start t).run s before.pipeline taken).journal.rows
  published : after.journal.published =
    ((Worker.start t).run s before.pipeline taken).journal.published
  offset : after.offset =
    ((Worker.start t).run s before.pipeline taken).journal.published.getLastD t.stored
  connection : after.connection =
    ⟨[], .stopped ((Worker.start t).run s before.pipeline (taken ++ Worker.tried rest)), !closed,
      some t.vgtid, 1⟩

variable {s s' : Streaming} {partition : Partition} {items rest : List Item} {closed : Bool}
  {taken : List Delivery} {t : Tracker} {schedule : Schedule} {fault? : Option Fault}
  {notices : List Notice}

/-- A session reports the fault that ended its stream, if one did, and closes the connection. -/
theorem execute_of_stream {resumed : Option Tracker} {now : Instant}
    (ht : resumed.getD (.initial s.config now) = t)
    (h : { s with offset := t.stored }.stream partition t schedule = (s', fault?, notices)) :
    ∃ ignored, s.execute partition resumed now schedule =
      ({ s' with
          inbox := fault?.elim s'.inbox fun f => (s'.inbox.report f).1
          connection := s'.connection.close },
        if fault?.isSome then .failed else .stopped, notices ++ ignored) := by
  simp only [execute, ht, h]
  cases fault? with
  | none => exact ⟨[], by simp⟩
  | some f => exact ⟨_, rfl⟩

theorem stream_of_stopsAfter (s : Streaming) (partition : Partition)
    (hs : s.connection = .fed items closed)
    (h : (Worker.start t).StopsAfter (s.setup partition) s.pipeline closed items taken rest
      fault?) :
    ∃ notices, s.stream partition t .deliverFirst = ({ s with
        connection := ⟨[],
          if fault?.isSome then
            .stopped ((Worker.start t).run (s.setup partition) s.pipeline
              (taken ++ Worker.tried rest))
          else
            .running ((Worker.start t).run (s.setup partition) s.pipeline
              (taken ++ Worker.tried rest)),
          !closed, some t.vgtid, 0⟩
        offset := ((Worker.start t).run (s.setup partition) s.pipeline
          taken).journal.published.getLastD s.offset },
      fault?, notices) := by
  obtain ⟨found, hdeliver, hending⟩ := h.deliver (some t.vgtid) 0
  obtain ⟨slot, hsettle, hslot⟩ := Connection.settle_running rfl hdeliver hending
  obtain ⟨-, -, hpublished⟩ := h.journal
  rw [Connection.fed_eq] at hs
  simp only [stream, hs, Connection.start, hsettle, hslot]
  cases fault? with
  | none => simp [Connection.consumer?, hpublished]
  | some f => simp [Connection.consumer?, hpublished]

theorem leaves_of_stopsAfter (hs : s.connection = .fed items closed) (partition : Partition)
    (resumed : Option Tracker) (now : Instant)
    (h : (Worker.start (resumed.getD (.initial s.config now))).StopsAfter (s.setup partition)
      s.pipeline closed items taken rest fault?) :
    s.Leaves (s.setup partition) (resumed.getD (.initial s.config now)) closed taken rest fault?
      (s.execute partition resumed now .deliverFirst).1
      (s.execute partition resumed now .deliverFirst).2.1 := by
  generalize ht : resumed.getD (.initial s.config now) = t at h ⊢
  obtain ⟨notices, hstream⟩ := stream_of_stopsAfter { s with offset := t.stored } partition hs h
  obtain ⟨ignored, hexecute⟩ := execute_of_stream ht hstream
  obtain ⟨hevents, hrows, hpublished⟩ := h.journal
  rw [hexecute]
  cases fault? with
  | none => exact ⟨rfl, rfl, hevents, hrows, hpublished, rfl, rfl⟩
  | some f => exact ⟨rfl, rfl, hevents, hrows, hpublished, rfl, rfl⟩

/-- A session of a connection that is used for the first time comes to one stop, and leaves what the
messages taken until then lead to: it has shown their events and published the offset after them,
reported the fault that stopped it, if one did, and closed the connection, once. -/
theorem session_ends_at_first_fault (s : Streaming) (items : List Item) (closed : Bool)
    (hs : s.connection = .fed items closed) (partition : Partition) (resumed : Option Tracker)
    (now : Instant) :
    let t := resumed.getD (.initial s.config now)
    let setup := s.setup partition
    let result := s.execute partition resumed now .deliverFirst
    ∃ taken rest fault?,
      (∀ taken' rest' fault?',
        (Worker.start t).StopsAfter setup s.pipeline closed items taken' rest' fault?' ↔
          taken' = taken ∧ rest' = rest ∧ fault?' = fault?) ∧
      s.Leaves setup t closed taken rest fault? result.1 result.2.1 := by
  intro t setup result
  obtain ⟨taken, rest, fault?, h⟩ :=
    Worker.exists_stopsAfter setup s.pipeline (Worker.start t) closed items
  refine ⟨taken, rest, fault?, ?_, leaves_of_stopsAfter hs partition resumed now h⟩
  intro taken' rest' fault?'
  constructor
  · intro h'
    exact h.unique h'
  · rintro ⟨rfl, rfl, rfl⟩
    exact h

end Streaming

namespace Sample

def streaming (items : List Item) (closed : Bool) : Streaming :=
  ⟨.standard, gtidRanking, [], pipeline, .fed items closed, default, .empty⟩

def reset : Fault := .reported .connection "reset"

def unfinished : List Delivery := transaction.take 2

/-- The stream breaks off within a transaction. -/
def broken : List Item :=
  unfinished.map .delivery ++ [.fault reset, .delivery (commit "a:1-5")]

end Sample

namespace Streaming

/-- The session has failed with the fault that was sent, and goes on from before the transaction. -/
theorem broken_stream_fails_session :
    let s := Sample.streaming Sample.broken true
    let result := s.execute Sample.setup.partition none default .deliverFirst
    s.connection = .fed Sample.broken true ∧ result.2.1 = .failed ∧
      result.1.inbox = ⟨some Sample.reset, 1⟩ ∧
      result.1.journal.events.length = 2 ∧
      result.1.offset.vgtid = Sample.position "a:1-4" ∧
      result.1.connection.closeCount = 1 := by
  intro s result
  have hstops : (Worker.start (.initial s.config default)).StopsAfter
      (s.setup Sample.setup.partition) s.pipeline true Sample.broken Sample.unfinished
      [.fault Sample.reset, .delivery (Sample.commit "a:1-5")] (some Sample.reset) :=
    ⟨rfl, by decide +kernel, .sent true Sample.reset _⟩
  obtain ⟨taken, rest, fault?, hstop, hleaves⟩ :=
    session_ends_at_first_fault s Sample.broken true rfl Sample.setup.partition none default
  obtain ⟨rfl, rfl, rfl⟩ := (hstop _ _ _).1 hstops
  obtain ⟨hending, hinbox, hevents, -, -, hoffset, hconnection⟩ := hleaves
  refine ⟨rfl, hending, hinbox, ?_, ?_, ?_⟩
  · rw [hevents]
    decide +kernel
  · rw [hoffset]
    decide +kernel
  · rw [hconnection]

end Streaming

end ShardStream

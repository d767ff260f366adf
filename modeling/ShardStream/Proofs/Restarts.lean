import Mathlib.Data.List.Induction
import ShardStream.Proofs.Saving
import ShardStream.Proofs.Sessions

/-! # Sessions that cannot start

A connection can be started once, so of several sessions on one connection only the first takes
place. Each later one fails at its start, without a message. It reports that and leaves what was
handed over and published before as it was, but the visible offset becomes the one that the session
would have started from. That is the offset from before only if the session was to go on from it.
-/
namespace ShardStream

def Stream.isWaiting {σ : Type} : Stream σ → Bool
  | .waiting => true
  | _ => false

namespace Connection

variable {σ : Type} {c : Connection σ} {origin : Vgtid} {consumer : σ} {f : Fault}

theorem start_error_iff :
    c.start origin consumer = .error f ↔ c.stream.isWaiting = false ∧ f = .alreadyStarted := by
  unfold start
  cases c.stream <;> simp [Stream.isWaiting, eq_comm]

theorem isWaiting_of_start {started : Connection σ} (h : c.start origin consumer = .ok started) :
    started.stream.isWaiting = false := by
  unfold start at h
  cases hstream : c.stream with
  | waiting =>
    rw [hstream] at h
    cases h
    rfl
  | running => simp [hstream] at h
  | stopped => simp [hstream] at h

theorem isWaiting_settle (consume : Consumer σ) (c : Connection σ) (slot : FaultSlot) :
    (c.settle consume slot).1.stream.isWaiting = c.stream.isWaiting := by
  unfold settle
  cases hstream : c.stream with
  | running consumer =>
    simp only
    split <;> rfl
  | waiting => simp [hstream]
  | stopped => simp [hstream]

theorem isWaiting_close (c : Connection σ) : c.close.stream.isWaiting = c.stream.isWaiting := by
  unfold close
  cases c.stream <;> rfl

end Connection

/-- What one session is asked for. -/
structure SessionCall where
  partition : Partition
  resumed : Option Tracker
  now : Instant
  schedule : Schedule

namespace SessionCall

/-- Where the session begins. -/
def start (call : SessionCall) (s : Streaming) : Tracker :=
  call.resumed.getD (.initial s.config call.now)

end SessionCall

namespace Streaming

variable {s : Streaming} {call : SessionCall} {f : Fault}

def run (s : Streaming) (call : SessionCall) : Streaming × SessionEnd × List Notice :=
  s.execute call.partition call.resumed call.now call.schedule

def runAll (s : Streaming) (calls : List SessionCall) : Streaming :=
  calls.foldl (fun s call => (s.run call).1) s

theorem stream_of_start_error {t : Tracker}
    (h : s.connection.start t.vgtid (.start t) = .error f) (partition : Partition)
    (schedule : Schedule) : s.stream partition t schedule = (s, some f, []) := by
  simp only [stream, h]

theorem isWaiting_stream (s : Streaming) (partition : Partition) (t : Tracker)
    (schedule : Schedule) :
    (s.stream partition t schedule).1.connection.stream.isWaiting = false := by
  cases hstart : s.connection.start t.vgtid (.start t) with
  | error f =>
    rw [stream_of_start_error hstart]
    exact (Connection.start_error_iff.1 hstart).1
  | ok started =>
    have hstarted := Connection.isWaiting_of_start hstart
    cases schedule with
    | stopFirst => simpa only [stream, hstart] using hstarted
    | deliverFirst =>
      simp only [stream, hstart, Connection.isWaiting_settle]
      exact hstarted

/-- After a session, whether it took place or not, the connection cannot be started any more. -/
theorem isWaiting_run (s : Streaming) (call : SessionCall) :
    (s.run call).1.connection.stream.isWaiting = false := by
  have hwaiting := isWaiting_stream { s with offset := (call.start s).stored } call.partition
    (call.start s) call.schedule
  rcases hstream : { s with offset := (call.start s).stored }.stream call.partition (call.start s)
    call.schedule with ⟨s', fault?, notices⟩
  obtain ⟨ignored, hexecute⟩ := execute_of_stream rfl hstream
  rw [run, hexecute, Connection.isWaiting_close]
  rw [hstream] at hwaiting
  exact hwaiting

/-- A session that cannot start shows nothing and leaves all but the visible offset as it was. -/
theorem run_of_start_error
    (h : s.connection.start (call.start s).vgtid (.start (call.start s)) = .error f) :
    ∃ notices, s.run call =
      ({ s with
          offset := (call.start s).stored
          inbox := (s.inbox.report f).1
          connection := s.connection.close },
        .failed, notices) := by
  have hstream := stream_of_start_error (s := { s with offset := (call.start s).stored }) h
    call.partition call.schedule
  obtain ⟨ignored, hexecute⟩ := execute_of_stream rfl hstream
  exact ⟨_, hexecute⟩

theorem isWaiting_runAll (s : Streaming) (calls : List SessionCall) :
    (s.runAll calls).connection.stream.isWaiting = false ↔
      calls ≠ [] ∨ s.connection.stream.isWaiting = false := by
  induction calls using List.reverseRecOn with
  | nil => simp [runAll]
  | append_singleton calls call ih =>
    have hrun := isWaiting_run (s.runAll calls) call
    have hall : s.runAll (calls ++ [call]) = ((s.runAll calls).run call).1 := by
      rw [runAll, List.foldl_append]
      rfl
    rw [hall]
    exact iff_of_true hrun (.inl (List.concat_ne_nil call calls))

/-- A session cannot start just if the connection was started before, as it was if there has been
any session on it. It then fails with that fault. What was handed over and published stays as it
was; the visible offset becomes that of the start of the session, and so stays only if the session
was to go on from it. If it was loaded from it, all that is lost is the transaction that was
open. -/
theorem failed_start_replaces_offset (s : Streaming) (earlier : List SessionCall)
    (call : SessionCall) :
    let before := s.runAll earlier
    let t := call.start before
    ((∃ f, before.connection.start t.vgtid (.start t) = .error f) ↔
      earlier ≠ [] ∨ s.connection.stream.isWaiting = false) ∧
    ∀ f, before.connection.start t.vgtid (.start t) = .error f →
      f = .alreadyStarted ∧
      (∃ notices, before.run call =
        ({ before with
            offset := t.stored
            inbox := (before.inbox.report f).1
            connection := before.connection.close },
          .failed, notices)) ∧
      ∀ c notices, Tracker.load c before.offset = .ok (t, notices) →
        (before.run call).1.offset = before.offset.closed := by
  intro before t
  constructor
  · rw [← isWaiting_runAll]
    constructor
    · rintro ⟨f, hf⟩
      exact (Connection.start_error_iff.1 hf).1
    · intro hwaiting
      exact ⟨.alreadyStarted, Connection.start_error_iff.2 ⟨hwaiting, rfl⟩⟩
  · intro f hf
    obtain ⟨notices, hrun⟩ := run_of_start_error hf
    refine ⟨(Connection.start_error_iff.1 hf).2, ⟨notices, hrun⟩, ?_⟩
    intro c loading hload
    rw [hrun]
    exact Tracker.stored_of_load hload

end Streaming

namespace Sample

def newSession : SessionCall := ⟨setup.partition, none, default, .deliverFirst⟩

end Sample

namespace Streaming

/-- The first session publishes the position after its transaction. The second cannot start, and
makes visible the position from which new sessions start. -/
theorem second_session_replaces_offset :
    let before := (Sample.streaming (Sample.transaction.map .delivery) false).runAll
      [Sample.newSession]
    let t := Sample.newSession.start before
    before.offset.vgtid = Sample.position "a:1-5" ∧
      before.connection.start t.vgtid (.start t) = .error .alreadyStarted ∧
      (before.run Sample.newSession).2.1 = .failed ∧
      (before.run Sample.newSession).1.offset.vgtid = Config.standard.startPosition ∧
      (before.run Sample.newSession).1.offset ≠ before.offset := by
  intro before t
  obtain ⟨hfails, hresult⟩ := failed_start_replaces_offset
    (Sample.streaming (Sample.transaction.map .delivery) false) [Sample.newSession]
    Sample.newSession
  obtain ⟨f, hf⟩ := hfails.2 (.inl (List.cons_ne_nil _ _))
  obtain ⟨rfl, ⟨notices, hrun⟩, -⟩ := hresult f hf
  have hbefore : before.offset.vgtid = Sample.position "a:1-5" := by decide +kernel
  have hafter : (before.run Sample.newSession).1.offset.vgtid = Config.standard.startPosition := by
    have hstart : t.stored.vgtid = Config.standard.startPosition := by decide +kernel
    rw [hrun]
    exact hstart
  refine ⟨hbefore, hf, by rw [hrun], hafter, ?_⟩
  intro hsame
  rw [hsame, hbefore] at hafter
  exact absurd hafter (by decide)

end Streaming

end ShardStream

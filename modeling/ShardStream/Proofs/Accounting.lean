import ShardStream.Proofs.Restarts

/-! # The account of several sessions

Sessions on one connection are accounted for in two places: the connection counts how often it was
closed and keeps the position that it was started from, and the inbox counts the faults that were
reported and keeps the first of them. However the sessions end, and whether or not they take place,
both agree with what the sessions returned.
-/
namespace ShardStream

namespace Connection

variable {σ : Type} {c : Connection σ} {origin : Vgtid} {consumer : σ}

theorem start_ok_iff :
    (∃ started, c.start origin consumer = .ok started) ↔ c.stream.isWaiting = true := by
  unfold start
  cases c.stream <;> simp [Stream.isWaiting]

theorem counts_of_start {started : Connection σ} (h : c.start origin consumer = .ok started) :
    started.closeCount = c.closeCount ∧ started.startPosition = some origin := by
  unfold start at h
  cases hstream : c.stream with
  | waiting =>
    rw [hstream] at h
    cases h
    exact ⟨rfl, rfl⟩
  | running => simp [hstream] at h
  | stopped => simp [hstream] at h

theorem counts_settle (consume : Consumer σ) (c : Connection σ) (slot : FaultSlot) :
    (c.settle consume slot).1.closeCount = c.closeCount ∧
      (c.settle consume slot).1.startPosition = c.startPosition := by
  unfold settle
  cases c.stream with
  | running consumer =>
    simp only
    split <;> exact ⟨rfl, rfl⟩
  | waiting => exact ⟨rfl, rfl⟩
  | stopped => exact ⟨rfl, rfl⟩

theorem counts_close (c : Connection σ) :
    c.close.closeCount = c.closeCount + 1 ∧ c.close.startPosition = c.startPosition := by
  unfold close
  cases c.stream <;> exact ⟨rfl, rfl⟩

theorem consumer?_close (c : Connection σ) : c.close.consumer? = c.consumer? := by
  unfold close
  cases hstream : c.stream <;> simp [consumer?, hstream]

end Connection

namespace FaultInbox

/-- A fault is kept if it is the first that is reported. -/
theorem held_report (b : FaultInbox) (f : Fault) : (b.report f).1.held = b.held.or (some f) := by
  unfold report
  cases b.held <;> simp

theorem reports_report (b : FaultInbox) (f : Fault) : (b.report f).1.reports = b.reports + 1 := by
  unfold report
  cases b.held <;> rfl

end FaultInbox

namespace Streaming

variable {s : Streaming} {call : SessionCall}

/-- The fault with which the stream of a session ends, if it ends with one. -/
def fault? (s : Streaming) (call : SessionCall) : Option Fault :=
  ({ s with offset := (call.start s).stored }.stream call.partition (call.start s)
    call.schedule).2.1

/-- What comes of several sessions, one after the other: how each ended, and with which fault. -/
def results (s : Streaming) : List SessionCall → List (SessionEnd × Option Fault)
  | [] => []
  | call :: calls => ((s.run call).2.1, s.fault? call) :: (s.run call).1.results calls

/-- What a stream leaves behind on the connection, and that it reports nothing itself. -/
theorem stream_counts (s : Streaming) (partition : Partition) (t : Tracker) (schedule : Schedule) :
    let after := (s.stream partition t schedule).1
    after.inbox = s.inbox ∧ after.connection.closeCount = s.connection.closeCount ∧
      after.connection.startPosition =
        if s.connection.stream.isWaiting then some t.vgtid else s.connection.startPosition := by
  intro after
  cases hstart : s.connection.start t.vgtid (.start t) with
  | error f =>
    have hwaiting := (Connection.start_error_iff.1 hstart).1
    have hafter : after = s := by
      simp only [after, stream_of_start_error hstart]
    rw [hafter, hwaiting]
    exact ⟨rfl, rfl, rfl⟩
  | ok started =>
    have hwaiting := Connection.start_ok_iff.1 ⟨started, hstart⟩
    obtain ⟨hcount, horigin⟩ := Connection.counts_of_start hstart
    rw [if_pos hwaiting]
    cases schedule with
    | stopFirst =>
      simp only [after, stream, hstart]
      exact ⟨trivial, hcount, horigin⟩
    | deliverFirst =>
      obtain ⟨hcount', horigin'⟩ := Connection.counts_settle
        (Worker.consume (s.setup partition) s.pipeline) started .empty
      simp only [after, stream, hstart]
      exact ⟨trivial, hcount'.trans hcount, horigin'.trans horigin⟩

/-- What one session leaves in the account: the connection was closed once more, a connection that
was started keeps its position, and the session failed just if it reported a fault, which is the one
with which its stream ended. -/
structure Accounts (before : Streaming) (call : SessionCall) (after : Streaming)
    (ending : SessionEnd) : Prop where
  closeCount : after.connection.closeCount = before.connection.closeCount + 1
  startPosition : after.connection.startPosition =
    if before.connection.stream.isWaiting then some (call.start before).vgtid
    else before.connection.startPosition
  failed : ending = .failed ↔ (before.fault? call).isSome = true
  reports : after.inbox.reports = before.inbox.reports + if ending = .failed then 1 else 0
  held : after.inbox.held = before.inbox.held.or (before.fault? call)

theorem accounts_run (s : Streaming) (call : SessionCall) :
    s.Accounts call (s.run call).1 (s.run call).2.1 := by
  have hcounts := stream_counts { s with offset := (call.start s).stored } call.partition
    (call.start s) call.schedule
  rcases hstream : { s with offset := (call.start s).stored }.stream call.partition (call.start s)
    call.schedule with ⟨after, found, notices⟩
  rw [hstream] at hcounts
  obtain ⟨hinbox, hcount, horigin⟩ : after.inbox = s.inbox ∧
    after.connection.closeCount = s.connection.closeCount ∧ _ := hcounts
  have hfault : s.fault? call = found := by rw [fault?, hstream]
  obtain ⟨hclose, hclosed⟩ := after.connection.counts_close
  obtain ⟨ignored, hexecute⟩ := execute_of_stream rfl hstream
  have hrun : s.run call = _ := hexecute
  rw [hrun]
  refine ⟨hclose.trans (congrArg (· + 1) hcount), hclosed.trans horigin, ?_, ?_, ?_⟩
  · cases found <;> simp [hfault]
  · cases found with
    | none => simp [hinbox]
    | some f => simp [hinbox, FaultInbox.reports_report]
  · cases found with
    | none => simp [hfault, hinbox]
    | some f => simp [hfault, hinbox, FaultInbox.held_report]

theorem runAll_concat (s : Streaming) (calls : List SessionCall) (call : SessionCall) :
    s.runAll (calls ++ [call]) = ((s.runAll calls).run call).1 := by
  rw [runAll, List.foldl_append]
  rfl

theorem results_concat (s : Streaming) (calls : List SessionCall) (call : SessionCall) :
    s.results (calls ++ [call]) =
      s.results calls ++ [(((s.runAll calls).run call).2.1, (s.runAll calls).fault? call)] := by
  induction calls generalizing s with
  | nil => rfl
  | cons first calls ih =>
    rw [List.cons_append, results, results, ih]
    rfl

/-- Every session closes the connection. -/
theorem closeCount_runAll (s : Streaming) (calls : List SessionCall) :
    (s.runAll calls).connection.closeCount = s.connection.closeCount + calls.length := by
  induction calls using List.reverseRecOn with
  | nil => rfl
  | append_singleton calls call ih =>
    have hrun := ((s.runAll calls).accounts_run call).closeCount
    rw [runAll_concat, hrun, ih, List.length_append]
    rfl

/-- Only the first session starts the stream, and only if nothing has started it before. -/
theorem startPosition_runAll (s : Streaming) (calls : List SessionCall)
    (hs : s.connection.stream.isWaiting = true) (horigin : s.connection.startPosition = none) :
    (s.runAll calls).connection.startPosition =
      calls.head?.map fun call => (call.start s).vgtid := by
  induction calls using List.reverseRecOn with
  | nil => exact horigin
  | append_singleton calls call ih =>
    have hrun := ((s.runAll calls).accounts_run call).startPosition
    rw [runAll_concat, hrun]
    cases calls with
    | nil => exact if_pos hs
    | cons first calls =>
      have hstarted := (isWaiting_runAll s (first :: calls)).2 (.inl (List.cons_ne_nil _ _))
      rw [hstarted, if_neg nofun, ih]
      rfl

/-- Every session that fails reports one fault, and the first fault is kept. -/
theorem inbox_runAll (s : Streaming) (calls : List SessionCall) :
    (s.runAll calls).inbox.reports =
        s.inbox.reports + (s.results calls).countP (·.1 = .failed) ∧
      (s.runAll calls).inbox.held = s.inbox.held.or ((s.results calls).findSome? (·.2)) := by
  induction calls using List.reverseRecOn with
  | nil => exact ⟨rfl, by simp [runAll, results]⟩
  | append_singleton calls call ih =>
    obtain ⟨hreports, hheld⟩ := ih
    have hrun := (s.runAll calls).accounts_run call
    rw [runAll_concat, results_concat]
    constructor
    · rw [hrun.reports, hreports, List.countP_append, List.countP_singleton, Nat.add_assoc]
      simp only [decide_eq_true_eq]
    · rw [hrun.held, hheld, List.findSome?_append, Option.or_assoc]
      simp

/-- A session failed just if it ended with a fault. -/
theorem failed_iff_of_mem_results {calls : List SessionCall} {r : SessionEnd × Option Fault}
    (hr : r ∈ s.results calls) : r.1 = .failed ↔ r.2.isSome = true := by
  induction calls generalizing s with
  | nil => cases hr
  | cons call calls ih =>
    rcases List.mem_cons.1 hr with rfl | hr
    · exact (s.accounts_run call).failed
    · exact ih hr

/-- The first session that failed is the first with a fault. -/
theorem find?_failed {results : List (SessionEnd × Option Fault)}
    (h : ∀ r ∈ results, r.1 = .failed ↔ r.2.isSome = true) :
    (results.find? (·.1 = .failed)).bind (·.2) = results.findSome? (·.2) := by
  induction results with
  | nil => rfl
  | cons r results ih =>
    obtain ⟨hr, hresults⟩ := List.forall_mem_cons.1 h
    rw [List.findSome?_cons]
    cases hfault : r.2 with
    | none =>
      rw [hfault] at hr
      rw [List.find?_cons_of_neg (by simpa using hr), ih hresults]
    | some f =>
      rw [hfault] at hr
      rw [List.find?_cons_of_pos (by simpa using hr), Option.bind_some, hfault]

/-- A session after the first fails at its start and shows nothing. -/
theorem run_of_started (hs : s.connection.stream.isWaiting = false) (call : SessionCall) :
    s.fault? call = some .alreadyStarted ∧ (s.run call).2.1 = .failed ∧
      (s.run call).1.journal = s.journal := by
  have hstart : s.connection.start (call.start s).vgtid (.start (call.start s)) =
      .error .alreadyStarted := Connection.start_error_iff.2 ⟨hs, rfl⟩
  obtain ⟨notices, hrun⟩ := run_of_start_error hstart
  have hstream := stream_of_start_error (s := { s with offset := (call.start s).stored }) hstart
    call.partition call.schedule
  refine ⟨by rw [fault?, hstream], by rw [hrun], ?_⟩
  rw [hrun, journal, journal, Connection.consumer?_close]

/-- The account of the sessions on a connection that is used for the first time. It is closed as
often as there are sessions, there are as many reports as sessions that failed, and the fault that
is kept is the one with which the first of these ended. Only the first session starts the stream.
Every later one fails for that reason and shows nothing. -/
theorem sessions_agree_with_account (s : Streaming) (items : List Item) (closed : Bool)
    (hs : s.connection = .fed items closed) (hinbox : s.inbox = .empty)
    (calls : List SessionCall) :
    let after := s.runAll calls
    let results := s.results calls
    after.connection.closeCount = calls.length ∧
    after.inbox.reports = results.countP (·.1 = .failed) ∧
    (after.inbox.hasFault = true ↔ ∃ r ∈ results, r.1 = .failed) ∧
    after.inbox.take.1 = (results.find? (·.1 = .failed)).bind (·.2) ∧
    after.connection.startPosition = (calls.head?.map fun call => (call.start s).vgtid) ∧
    ∀ past call rest, calls = past ++ call :: rest →
      let before := s.runAll past
      let t := call.start before
      ((∃ started, before.connection.start t.vgtid (.start t) = .ok started) ↔ past = []) ∧
      (past ≠ [] → before.fault? call = some .alreadyStarted ∧ (before.run call).2.1 = .failed ∧
        (before.run call).1.journal = before.journal) := by
  intro after results
  have hfed : s.connection.closeCount = 0 ∧ s.connection.startPosition = none ∧
      s.connection.stream.isWaiting = true := by
    rw [hs, Connection.fed_eq]
    exact ⟨rfl, rfl, rfl⟩
  obtain ⟨hcount, horigin, hwaiting⟩ := hfed
  obtain ⟨hreports, hheld⟩ := s.inbox_runAll calls
  rw [hinbox] at hreports hheld
  have hreports : after.inbox.reports = results.countP (·.1 = .failed) :=
    hreports.trans (Nat.zero_add _)
  have hheld : after.inbox.held = results.findSome? (·.2) := hheld
  have hfailed : ∀ r ∈ results, r.1 = .failed ↔ r.2.isSome = true :=
    fun r hr => failed_iff_of_mem_results hr
  refine ⟨?_, hreports, ?_, ?_, s.startPosition_runAll calls hwaiting horigin, ?_⟩
  · rw [closeCount_runAll, hcount, Nat.zero_add]
  · rw [FaultInbox.hasFault, hheld, List.findSome?_isSome_iff]
    exact exists_congr fun r => and_congr_right fun hr => (hfailed r hr).symm
  · rw [FaultInbox.take, hheld, find?_failed hfailed]
  · intro past call rest _ before t
    have hstarted := isWaiting_runAll s past
    constructor
    · rw [Connection.start_ok_iff]
      cases past with
      | nil => exact iff_of_true hwaiting rfl
      | cons first past =>
        have hfalse : before.connection.stream.isWaiting = false :=
          hstarted.2 (.inl (List.cons_ne_nil _ _))
        rw [hfalse]
        exact iff_of_false nofun (List.cons_ne_nil _ _)
    · intro hpast
      exact run_of_started (hstarted.2 (.inl hpast)) call

/-- The first session waits for more and is stopped. The two after it cannot start and fail, and the
fault that is kept is that of the second session. -/
theorem later_sessions_are_reported :
    let s := Sample.streaming (Sample.transaction.map .delivery) false
    let calls := [Sample.newSession, Sample.newSession, Sample.newSession]
    s.connection = .fed (Sample.transaction.map .delivery) false ∧ s.inbox = .empty ∧
      (s.results calls).map (·.1) = [.stopped, .failed, .failed] ∧
      (s.runAll calls).connection.closeCount = 3 ∧ (s.runAll calls).inbox.reports = 2 ∧
      (s.runAll calls).inbox.take.1 = some .alreadyStarted := by
  intro s calls
  obtain ⟨hcount, hreports, -, htake, -, -⟩ := sessions_agree_with_account s
    (Sample.transaction.map .delivery) false rfl rfl calls
  have hresults : s.results calls =
      [(.stopped, none), (.failed, some .alreadyStarted), (.failed, some .alreadyStarted)] := by
    decide +kernel
  rw [hresults] at hreports htake
  exact ⟨rfl, rfl, by rw [hresults]; rfl, hcount, hreports, htake⟩

end Streaming

end ShardStream

import ShardStream.Proofs.Run

/-! # Staged positions stay out of sight

A tracker is changed by eight operations, and all of it can be read at any time except whether
something is staged. Two runs of operations are compared of which one stages a position in addition.
Each operation but the dispatch answers the same in both and leaves trackers that differ in what is
staged at most, so nothing is seen of the position until the dispatch, and nothing ever if it is
replaced before.
-/
namespace ShardStream

namespace Tracker

/-- What is done to a tracker in the course of a session. `settle` is the moment of a dispatch. -/
inductive Operation where
  | rotate (vgtid : Vgtid) (time : Instant)
  | addRow (table : TableId) (time : Instant)
  | setShard (shard : String)
  | begin (id : Option String) (order : Option TransactionOrder)
  | finish
  | order (ranking : Ranking) (shard id : String)
  | stage (vgtid : Vgtid) (time : Instant)
  | settle

inductive Answer where
  | nothing
  | order (result : Except Fault TransactionOrder)
  | source (source : Source)

/-- All that can be read of a tracker, except whether something is staged. -/
structure View where
  source : Source
  time : Instant
  stored : StoredOffset
  progress : Progress
  block : TableId → Option TransactionBlock
  shardRows : String → Nat
  tableRows : TableId → Nat

def view (t : Tracker) : View :=
  ⟨t.source, t.source.time, t.stored, t.progress, t.block, t.shardRows.count, t.tableRows.count⟩

/-- Performs an operation, with its answer and what is noticed of it. -/
def perform (t : Tracker) : Operation → Tracker × Answer × List Notice
  | .rotate vgtid time => ((t.rotate vgtid time).1, .nothing, (t.rotate vgtid time).2)
  | .addRow table time => (t.addRow table time, .nothing, [])
  | .setShard shard => (t.setShard shard, .nothing, [])
  | .begin id order => (t.begin id order, .nothing, [])
  | .finish => (t.finish, .nothing, [])
  | .order ranking shard id =>
    match t.order ranking shard id with
    | .ok (order, t, notices) => (t, .order (.ok order), notices)
    | .error f => (t, .order (.error f), [])
  | .stage vgtid time => (t.stage vgtid time, .nothing, [])
  | .settle => (t.settle, .source t.settle.source, [])

def performAll (t : Tracker) (ops : List Operation) : Tracker :=
  ops.foldl (fun t op => (t.perform op).1) t

/-- What is seen of one operation: its answer, what is noticed, and the tracker after it. -/
structure Reading where
  answer : Answer
  notices : List Notice
  view : View

def readings : Tracker → List Operation → List Reading
  | _, [] => []
  | t, op :: ops =>
    ⟨(t.perform op).2.1, (t.perform op).2.2, (t.perform op).1.view⟩ ::
      readings (t.perform op).1 ops

namespace Operation

def isSettle : Operation → Bool
  | settle => true
  | _ => false

/-- Whether nothing is left after the operation of what was staged before, although it has not taken
effect. -/
def overwrites : Operation → Bool
  | rotate _ _ => true
  | stage _ _ => true
  | _ => false

/-- Whether the operation replaces the position. -/
def moves (t : Tracker) : Operation → Bool
  | rotate _ _ => true
  | settle => t.staged.isPending
  | _ => false

end Operation

/-- No operation of the list replaces the position when its turn comes. -/
def Keeps : Tracker → List Operation → Prop
  | _, [] => True
  | t, op :: ops => op.moves t = false ∧ Keeps (t.perform op).1 ops

/-- The tracker, with something else staged. -/
def withStaged (t : Tracker) (staged : Staged) : Tracker := { t with staged }

variable {t : Tracker} {op : Operation} {ops : List Operation} {x : Staged}

@[simp] theorem performAll_cons (t : Tracker) (op : Operation) (ops : List Operation) :
    t.performAll (op :: ops) = (t.perform op).1.performAll ops := rfl

theorem performAll_append (xs ys : List Operation) :
    t.performAll (xs ++ ys) = (t.performAll xs).performAll ys := List.foldl_append

theorem readings_append (xs ys : List Operation) :
    t.readings (xs ++ ys) = t.readings xs ++ (t.performAll xs).readings ys := by
  induction xs generalizing t with
  | nil => rfl
  | cons op xs ih =>
    simp only [List.cons_append, readings, ih]
    rfl

theorem perform_order_withStaged (ranking : Ranking) (shard id : String) :
    (t.withStaged x).perform (.order ranking shard id) =
      ((t.perform (.order ranking shard id)).1.withStaged x,
        (t.perform (.order ranking shard id)).2) ∧
      (t.perform (.order ranking shard id)).1.staged = t.staged := by
  have hepochs : (t.withStaged x).epochs = t.epochs := rfl
  simp only [perform, order, hepochs]
  cases t.epochs.order ranking shard id with
  | error f => exact ⟨rfl, rfl⟩
  | ok a => exact ⟨rfl, rfl⟩

/-- No operation but the dispatch reads what is staged. -/
theorem perform_withStaged (hop : op.isSettle = false) : (t.withStaged x).perform op =
    ((t.perform op).1.withStaged (if op.overwrites then (t.perform op).1.staged else x),
      (t.perform op).2) := by
  cases op with
  | order ranking shard id => exact (perform_order_withStaged ranking shard id).1
  | settle => cases hop
  | _ => rfl

/-- What is staged stays until a dispatch, unless something else is staged or the position is
replaced. -/
theorem perform_staged (hop : op.isSettle = false) (hkeeps : op.overwrites = false) :
    (t.perform op).1.staged = t.staged := by
  cases op with
  | order ranking shard id => exact (perform_order_withStaged (x := .none) ranking shard id).2
  | settle => cases hop
  | rotate => cases hkeeps
  | stage => cases hkeeps
  | _ => rfl

theorem performAll_staged (hops : ∀ op ∈ ops, op.isSettle = false)
    (hkeeps : ∀ op ∈ ops, op.overwrites = false) : (t.performAll ops).staged = t.staged := by
  induction ops generalizing t with
  | nil => rfl
  | cons op ops ih =>
    obtain ⟨hop, hops⟩ := List.forall_mem_cons.1 hops
    obtain ⟨hkeep, hkeeps⟩ := List.forall_mem_cons.1 hkeeps
    exact (ih hops hkeeps).trans (perform_staged hop hkeep)

/-- Without a dispatch, two trackers that differ in what is staged differ in nothing else later. -/
theorem performAll_withStaged (hops : ∀ op ∈ ops, op.isSettle = false) :
    ∃ y, (t.withStaged x).performAll ops = (t.performAll ops).withStaged y := by
  induction ops generalizing t x with
  | nil => exact ⟨x, rfl⟩
  | cons op ops ih =>
    obtain ⟨hop, hops⟩ := List.forall_mem_cons.1 hops
    rw [performAll_cons, performAll_cons, perform_withStaged hop]
    exact ih hops

/-- Without a dispatch, the same is seen of two trackers that differ in what is staged. -/
theorem readings_withStaged (hops : ∀ op ∈ ops, op.isSettle = false) :
    (t.withStaged x).readings ops = t.readings ops := by
  induction ops generalizing t x with
  | nil => rfl
  | cons op ops ih =>
    obtain ⟨hop, hops⟩ := List.forall_mem_cons.1 hops
    simp only [readings, perform_withStaged hop, ih hops]
    rfl

/-- Once something else is staged or the position is replaced, what was staged makes no difference
any more. -/
theorem readings_of_overwrites (hops : ∀ op ∈ ops, op.isSettle = false)
    (hop : op.overwrites = true) (rest : List Operation) :
    (t.withStaged x).readings (ops ++ op :: rest) = t.readings (ops ++ op :: rest) := by
  obtain ⟨y, hy⟩ := performAll_withStaged (t := t) (x := x) hops
  rw [readings_append, readings_append, readings_withStaged hops, hy]
  have hsame : ((t.performAll ops).withStaged y).perform op = (t.performAll ops).perform op := by
    cases op with
    | rotate => rfl
    | stage => rfl
    | _ => cases hop
  simp only [readings, hsame]

theorem perform_vgtid (hop : op.moves t = false) : (t.perform op).1.vgtid = t.vgtid := by
  cases op with
  | rotate => cases hop
  | order ranking shard id =>
    simp only [perform, order]
    cases t.epochs.order ranking shard id <;> rfl
  | settle =>
    have hnone : t.staged.next = none := by
      simpa [Operation.moves, Staged.isPending] using hop
    simp [perform, settle, vgtid, Staged.apply, hnone]
  | _ => rfl

theorem Keeps.vgtid (hops : t.Keeps ops) : (t.performAll ops).vgtid = t.vgtid := by
  induction ops generalizing t with
  | nil => rfl
  | cons op ops ih => exact (ih hops.2).trans (perform_vgtid hops.1)

/-- At the dispatch, what is staged is stamped on the source and nothing else changes. -/
theorem perform_settle_withStaged (t : Tracker) (vgtid : Vgtid) (time : Instant) :
    ((t.withStaged (.stage vgtid time)).perform .settle).2 =
        (.source { t.settle.source with vgtid, time }, []) ∧
      ((t.withStaged (.stage vgtid time)).perform .settle).1.vgtid = vgtid := by
  refine ⟨?_, rfl⟩
  obtain ⟨source, ⟨next⟩, progress, epochs, shardRows, tableRows⟩ := t
  cases next <;> rfl

/-- A position that is staged is invisible until the dispatch. To stage one more position anywhere
in a run of operations shows nothing at that place, and nothing of what follows is read differently
up to the next dispatch. If the position is replaced or another one is staged before, nothing is
ever read differently. Otherwise the dispatch answers the same source as without it, but with the
staged position and its time, and the position stays until it is replaced. -/
theorem staged_position_is_invisible_until_dispatch (t : Tracker) (before : List Operation)
    (vgtid : Vgtid) (time : Instant) :
    let u := t.performAll before
    let shown : Reading := ⟨.nothing, [], u.view⟩
    (∀ after, t.readings (before ++ after) = t.readings before ++ u.readings after) ∧
    ∀ still : List Operation, (∀ op ∈ still, op.isSettle = false) →
      t.readings (before ++ .stage vgtid time :: still) =
          t.readings before ++ shown :: u.readings still ∧
      (∀ op rest, op.overwrites = true →
        t.readings (before ++ .stage vgtid time :: (still ++ op :: rest)) =
          t.readings before ++ shown :: u.readings (still ++ op :: rest)) ∧
      ((∀ op ∈ still, op.overwrites = false) →
        let plain := (u.performAll still).perform .settle
        let dispatched := (t.performAll (before ++ .stage vgtid time :: still)).perform .settle
        (∃ source, plain.2 = (.source source, []) ∧
          dispatched.2 = (.source { source with vgtid, time }, [])) ∧
        ∀ kept, dispatched.1.Keeps kept → (dispatched.1.performAll kept).vgtid = vgtid) := by
  intro u shown
  have hstage : ∀ after, t.readings (before ++ .stage vgtid time :: after) =
      t.readings before ++ shown :: (u.withStaged (.stage vgtid time)).readings after := by
    intro after
    rw [readings_append]
    rfl
  refine ⟨readings_append before, ?_⟩
  intro still hstill
  refine ⟨?_, ?_, ?_⟩
  · rw [hstage, readings_withStaged hstill]
  · intro op rest hop
    rw [hstage, readings_of_overwrites hstill hop]
  · intro hkept plain dispatched
    have hstaged : t.performAll (before ++ .stage vgtid time :: still) =
        (u.performAll still).withStaged (.stage vgtid time) := by
      obtain ⟨y, hy⟩ := performAll_withStaged (t := u) (x := .stage vgtid time) hstill
      have hnext : ((u.withStaged (.stage vgtid time)).performAll still).staged =
          .stage vgtid time := performAll_staged hstill hkept
      rw [hy] at hnext
      obtain rfl : y = .stage vgtid time := hnext
      rw [performAll_append]
      exact hy
    obtain ⟨hanswer, hvgtid⟩ := perform_settle_withStaged (u.performAll still) vgtid time
    rw [← hstaged] at hanswer hvgtid
    refine ⟨⟨(u.performAll still).settle.source, rfl, hanswer⟩, ?_⟩
    intro kept hkeeps
    exact hkeeps.vgtid.trans hvgtid

end Tracker

namespace Sample

def secondAfter : Instant := (Instant.ofMicros? 1000000).getD default

/-- A row of a transaction is on its way and a position has been staged already. -/
def stagedOnce : List Tracker.Operation :=
  [.rotate (position "a:1-4") default, .begin (some "a:1-5") none,
    .stage (position "a:1-9") default]

def rowOperations : List Tracker.Operation :=
  [.addRow ⟨some "commerce", "orders"⟩ default, .setShard "-80"]

def laterOperations : List Tracker.Operation :=
  [.finish, .order gtidRanking "-80" "a:1-6", .stage (position "a:1-7") default, .setShard "80-"]

end Sample

namespace Tracker

/-- A position that is staged after another takes its place, is seen at the dispatch and stays while
the next one is only staged. -/
theorem second_staged_position_takes_effect :
    let t : Tracker := .initial .standard default
    let staged := t.performAll (Sample.stagedOnce ++
      .stage (Sample.position "a:1-5") Sample.secondAfter :: Sample.rowOperations)
    (∃ source, (((t.performAll Sample.stagedOnce).performAll Sample.rowOperations).perform
        .settle).2 = (.source source, []) ∧ source.vgtid = Sample.position "a:1-9" ∧
      (staged.perform .settle).2 = (.source { source with
        vgtid := Sample.position "a:1-5", time := Sample.secondAfter }, [])) ∧
      ((staged.perform .settle).1.performAll Sample.laterOperations).vgtid =
        Sample.position "a:1-5" := by
  intro t staged
  obtain ⟨-, h⟩ := staged_position_is_invisible_until_dispatch t Sample.stagedOnce
    (Sample.position "a:1-5") Sample.secondAfter
  obtain ⟨-, -, h⟩ := h Sample.rowOperations (by decide)
  obtain ⟨⟨source, hplain, hdispatched⟩, hstays⟩ := h (by decide)
  refine ⟨⟨source, hplain, ?_, hdispatched⟩, hstays Sample.laterOperations ?_⟩
  · cases hplain
    rfl
  · exact ⟨rfl, rfl, rfl, rfl, trivial⟩

end Tracker

end ShardStream

import ShardStream.Proofs.Epochs
import ShardStream.Proofs.History
import ShardStream.Proofs.Position

/-! # Replaying the begin of an interrupted transaction

A session that stopped within a transaction goes on from the position before the transaction, and
so is given its begin again. The stored epochs already count the change of hosts that this begin
brought; the hosts of the transaction before it are taken from the stored position. The two begins
are given the same order just if the begin keeps the hosts of that position; otherwise the second
one counts a change of hosts once more.
-/
namespace ShardStream

theorem Delivery.moves_of_isRow {d : Delivery} (hd : d.isRow = true) : d.moves = d.isLastRow := by
  obtain ⟨m, vgtid, last, now⟩ := d
  cases m with
  | row => rfl
  | _ => cases hd

/-- What a begin that succeeds makes known: the order of its transaction and the epochs to store. -/
structure Outcome.Begins (o : Outcome) (s : Setup) (h : Header) (id : String)
    (order : TransactionOrder) (epochs : KeyMap UInt64) : Prop where
  result : o.result = .ok ()
  event : ∃ source, o.event =
    some (.started s.partition ⟨id, h.shard, some order⟩ source h.commitTime)
  published : ∃ stored, o.published = some stored ∧ stored.epochs = epochs

namespace Tracker

/-- An offset with a position can be loaded if its time is not within a leap second. -/
theorem load_stored (c : Config) {stored : StoredOffset} (hvgtid : stored.vgtid.isEmpty = false)
    {time : Instant} (hmicros : stored.micros.toInt = time.micros)
    (htime : time.nano < 1000000000) :
    ∃ resumed notices, load c stored = .ok (resumed, notices) := by
  refine load_of_time c hvgtid ?_
  rw [hmicros]
  exact Instant.isSome_ofMicros?_micros htime

end Tracker

namespace Processor

variable {s : Setup} {sink : Sink} {p p' : Processor} {d : Delivery} {o : Outcome} {h : Header}
  {vgtid : Vgtid} {last : Bool} {now : Instant}

theorem Takes.epochs (ht : Takes s sink p d p' o) (hd : d.isBegin = false) :
    p'.tracker.epochs = p.tracker.epochs := by
  cases ht with
  | begin => cases hd
  | commit hrotate hsink =>
    cases hrotate
    rfl
  | control hm hrotate =>
    cases hrotate
    rfl
  | row htable htracked hsink =>
    subst htracked
    unfold trackRow
    split <;> rfl

theorem Takes.begins (hs : s.ordered = true)
    (ht : Takes s sink p ⟨.begin h, vgtid, last, now⟩ p' o) :
    ∃ id set rank, Delivery.opens? ⟨.begin h, vgtid, last, now⟩ = some id ∧
      GtidSet.parse id = .ok set ∧ s.ranking id = .ok rank ∧
      p'.tracker.epochs.current =
        p.tracker.epochs.current.insert h.shard (p.tracker.epochs.next h.shard set) ∧
      o.Begins s h id ⟨p.tracker.epochs.next h.shard set, rank⟩ p'.tracker.epochs.current := by
  cases ht with
  | @begin _ _ _ _ id rotated ordered begun moved changed order hid hrotate horder hbegun hsink =>
    cases hrotate
    rw [beginId?_eq_opens? h vgtid last now] at hid
    obtain ⟨⟨epoch, rank⟩, epochs, he, rfl, rfl⟩ := orderFor_ordered_ok hs horder
    subst hbegun
    obtain ⟨set, hset, hrank, rfl, rfl, -⟩ := Epochs.order_ok he
    exact ⟨id, set, rank, hid, hset, hrank, rfl, rfl, ⟨_, rfl⟩, _, rfl, rfl⟩
  | control hm => cases hm

theorem begins_of_process (hs : s.ordered = true) (hp : p.phase ≠ .failed) {id : String}
    {set : GtidSet} {rank : Rank} (hid : Delivery.opens? ⟨.begin h, vgtid, last, now⟩ = some id)
    (hset : GtidSet.parse id = .ok set) (hrank : s.ranking id = .ok rank) :
    (p.process s Sink.open ⟨.begin h, vgtid, last, now⟩).2.Begins s h id
      ⟨p.tracker.epochs.next h.shard set, rank⟩
      (p.tracker.epochs.current.insert h.shard (p.tracker.epochs.next h.shard set)) := by
  rw [← beginId?_eq_opens? h vgtid last now] at hid
  rcases hrotate : p.tracker.rotate vgtid h.commitTime with ⟨rotated, moved⟩
  have hepochs : rotated.epochs = p.tracker.epochs := by
    cases hrotate
    rfl
  have horder := Epochs.order_of_ok rotated.epochs h.shard hrank hset
  have horderFor := orderFor_ordered hs rotated h.shard id
  rw [horder] at horderFor
  have htakes : Takes s Sink.open p ⟨.begin h, vgtid, last, now⟩ _ _ :=
    .begin hid hrotate horderFor rfl rfl
  rw [htakes.process hp, ← hepochs]
  exact ⟨rfl, ⟨_, rfl⟩, _, rfl, rfl⟩

/-- A begin given to a session that goes on from a stored offset is compared with the stored
position. -/
theorem begins_of_load {c : Config} {stored : StoredOffset} {resumed : Tracker}
    {notices : List Notice} (hs : s.ordered = true)
    (hload : Tracker.load c stored = .ok (resumed, notices)) {epoch : UInt64}
    (hepoch : stored.epochs.get? h.shard = some epoch) {id : String} {set : GtidSet} {rank : Rank}
    (hid : Delivery.opens? ⟨.begin h, vgtid, last, now⟩ = some id)
    (hset : GtidSet.parse id = .ok set) (hrank : s.ranking id = .ok rank) :
    ((Processor.start resumed).process s Sink.open ⟨.begin h, vgtid, last, now⟩).2.Begins s h id
      ⟨if stored.vgtid.hostsKeptBy h.shard set then epoch else epoch + 1, rank⟩
      (stored.epochs.insert h.shard
        (if stored.vgtid.hostsKeptBy h.shard set then epoch else epoch + 1)) := by
  obtain ⟨time, rfl⟩ := Tracker.load_ok hload
  rw [← Epochs.next_restore hepoch]
  exact begins_of_process hs (by simp [start]) hid hset hrank

end Processor

namespace Sample

/-- The begin of the first transaction after a change of hosts. -/
def newHost : Delivery := begin "b:1-3" "a:1-5"

def innerRow : Delivery := row "orders" "b:1-9" false

end Sample

namespace Worker

variable {s : Setup} {pipeline : Pipeline} {w : Worker}

theorem Accepts.epochs {ds : List Delivery} (hds : w.Accepts s pipeline ds)
    (hbegin : ∀ d ∈ ds, d.isBegin = false) :
    (w.run s pipeline ds).processor.tracker.epochs = w.processor.tracker.epochs := by
  refine hds.induction (motive := fun past v => (∀ d ∈ past, d.isBegin = false) →
    v.processor.tracker.epochs = w.processor.tracker.epochs) (fun _ => rfl) ?_ hbegin
  intro past v v' d o htakes hjournal ih hpast
  obtain ⟨hpast, hd⟩ := List.forall_mem_append.1 hpast
  rw [htakes.epochs (hd d List.mem_cons_self), ih hpast]

theorem Accepts.inner_rows (hw : w.processor.tracker.staged = .none) {rows : List Delivery}
    (hds : w.Accepts s pipeline rows)
    (hrows : ∀ d ∈ rows, d.isRow = true ∧ d.isLastRow = false) :
    (w.run s pipeline rows).processor.tracker.vgtid = w.processor.tracker.vgtid ∧
      (w.run s pipeline rows).processor.tracker.epochs = w.processor.tracker.epochs := by
  have hstill : ∀ d ∈ rows, d.moves = false := fun d hd =>
    (Delivery.moves_of_isRow (hrows d hd).1).trans (hrows d hd).2
  have hbegin : ∀ d ∈ rows, d.isBegin = false := fun d hd =>
    Delivery.isBegin_of_isRow (hrows d hd).1
  obtain ⟨-, hvgtid, -⟩ := hds.position hw
  rw [positionAfter_of_still hstill] at hvgtid
  exact ⟨hvgtid, hds.epochs hbegin⟩

/-- What is published within a transaction, before its last row, goes on from the position that came
with the begin and has counted what the begin did to the epoch of its shard. -/
theorem stored_within (hs : s.ordered = true) {t : Tracker} (ht : t.IsStart)
    {past rows : List Delivery} {h : Header} {vgtid : Vgtid} {last : Bool} {now : Instant}
    (hds : (Worker.start t).Accepts s pipeline (past ++ ⟨.begin h, vgtid, last, now⟩ :: rows))
    (hrows : ∀ d ∈ rows, d.isRow = true ∧ d.isLastRow = false) {o : Outcome}
    (hstep : ((Worker.start t).run s pipeline past).step s pipeline
      ⟨.begin h, vgtid, last, now⟩ = (w, o))
    {stored : StoredOffset}
    (hstored : (w.run s pipeline rows).journal.published.getLast? = some stored) :
    ∃ id set rank epoch, Delivery.opens? ⟨.begin h, vgtid, last, now⟩ = some id ∧
      GtidSet.parse id = .ok set ∧ s.ranking id = .ok rank ∧
      o.Begins s h id ⟨epoch, rank⟩ stored.epochs ∧ stored.epochs.get? h.shard = some epoch ∧
      stored.vgtid = vgtid ∧ ∃ d ∈ ⟨.begin h, vgtid, last, now⟩ :: rows,
        stored.micros.toInt = d.message.header.commitTime.micros := by
  obtain ⟨htakes, hjournal⟩ := hds.takes hstep
  obtain ⟨hpast, hbegin⟩ := accepts_append.1 hds
  have hinner : w.Accepts s pipeline rows := by
    have h := (accepts_cons.1 hbegin).2
    rwa [hstep] at h
  obtain ⟨hstaged, hvgtid, htime⟩ := htakes.position (hpast.position ht.staged).1
  obtain ⟨id, set, rank, hid, hset, hrank, hcurrent, hbegins⟩ := htakes.begins hs
  obtain ⟨hvgtid', hepochs⟩ := hinner.inner_rows hstaged hrows
  have hlast := hinner.published (getLast?_published htakes hjournal)
  rw [hstored] at hlast
  obtain rfl := Option.some.inj hlast
  have hstoredEpochs : (w.run s pipeline rows).processor.tracker.stored.epochs =
      w.processor.tracker.epochs.current := congrArg Epochs.current hepochs
  refine ⟨id, set, rank, _, hid, hset, hrank, hstoredEpochs ▸ hbegins, ?_, hvgtid'.trans hvgtid, ?_⟩
  · rw [hstoredEpochs, hcurrent, KeyMap.get?_insert_self]
  · rw [Tracker.stored_micros, ← Instant.micros_eq_nanos_ediv]
    -- the time is that of the last row, or of the begin if no row came
    cases hend : rows.getLast? with
    | none =>
      obtain rfl := List.getLast?_eq_none_iff.1 hend
      exact ⟨_, List.mem_cons_self, congrArg Instant.micros htime⟩
    | some d =>
      have hmem : d ∈ rows := List.mem_of_getLast? hend
      have htime' := (hinner.position hstaged).2.2 d hend
      exact ⟨d, List.mem_cons_of_mem _ hmem, congrArg Instant.micros htime'⟩

/-- An offset published within a transaction before its last row is resumed from, and the begin of
the transaction comes again. If there is a position to go on from and no time is within a leap
second, the session starts; the begin then succeeds with the rank that it had. Its order and the
epochs to store are those of the first time just if it keeps the hosts of the position that came
with it; otherwise the epoch is one higher than it was. -/
theorem replayed_begin (s : Setup) (hs : s.ordered = true) (pipeline : Pipeline) {t : Tracker}
    (ht : t.IsStart) {past rows : List Delivery} {h : Header} {vgtid : Vgtid} {last : Bool}
    {now : Instant}
    (hds : (Worker.start t).Accepts s pipeline (past ++ ⟨.begin h, vgtid, last, now⟩ :: rows))
    (hrows : ∀ d ∈ rows, d.isRow = true ∧ d.isLastRow = false) {w : Worker} {o : Outcome}
    (hstep : ((Worker.start t).run s pipeline past).step s pipeline
      ⟨.begin h, vgtid, last, now⟩ = (w, o))
    {stored : StoredOffset}
    (hstored : (w.run s pipeline rows).journal.published.getLast? = some stored)
    (c : Config) (again : Bool) (later : Instant) :
    ∃ id set order, Delivery.opens? ⟨.begin h, vgtid, last, now⟩ = some id ∧
      GtidSet.parse id = .ok set ∧ o.Begins s h id order stored.epochs ∧
      (vgtid.isEmpty = false →
        (∀ d ∈ ⟨.begin h, vgtid, last, now⟩ :: rows,
          d.message.header.commitTime.nano < 1000000000) →
        ∃ resumed notices, Tracker.load c stored = .ok (resumed, notices)) ∧
      ∀ resumed notices, Tracker.load c stored = .ok (resumed, notices) →
        ∃ order' epochs', ((Processor.start resumed).process s Sink.open
            ⟨.begin h, vgtid, again, later⟩).2.Begins s h id order' epochs' ∧
          order'.rank = order.rank ∧
          order'.epoch =
            (if vgtid.hostsKeptBy h.shard set then order.epoch else order.epoch + 1) ∧
          (order' = order ↔ vgtid.hostsKeptBy h.shard set = true) ∧
          (epochs' = stored.epochs ↔ vgtid.hostsKeptBy h.shard set = true) := by
  obtain ⟨id, set, rank, epoch, hid, hset, hrank, hbegins, hepoch, rfl, d, hd, hmicros⟩ :=
    stored_within hs ht hds hrows hstep hstored
  refine ⟨id, set, ⟨epoch, rank⟩, hid, hset, hbegins, fun hvgtid hnano => ?_,
    fun resumed notices hload => ?_⟩
  · exact Tracker.load_stored c hvgtid hmicros (hnano d hd)
  · have hid' : Delivery.opens? ⟨.begin h, stored.vgtid, again, later⟩ = some id := hid
    refine ⟨_, _, Processor.begins_of_load hs hload hepoch hid' hset hrank, rfl, rfl, ?_, ?_⟩
    · rw [TransactionOrder.mk.injEq, Epochs.ite_succ_eq_self_iff]
      exact and_iff_left rfl
    · rw [KeyMap.insert_eq_self_iff hepoch, Epochs.ite_succ_eq_self_iff]

/-- A shard changes from one host to another. The begin of the first transaction on the new host is
given the next epoch, and once more the next one when the session is started again within it. -/
theorem replayed_begin_changes_order :
    ∃ stored resumed notices order order' epochs',
      (Sample.start.run Sample.setup Sample.pipeline (Sample.transaction ++
        [Sample.newHost, Sample.innerRow])).journal.published.getLast? = some stored ∧
      ((Sample.start.run Sample.setup Sample.pipeline Sample.transaction).step Sample.setup
        Sample.pipeline Sample.newHost).2.Begins Sample.setup (Sample.header (some "b:1-3")) "b:1-3"
          order stored.epochs ∧
      Tracker.load .standard stored = .ok (resumed, notices) ∧
      ((Processor.start resumed).process Sample.setup Sink.open Sample.newHost).2.Begins
        Sample.setup (Sample.header (some "b:1-3")) "b:1-3" order' epochs' ∧
      order' ≠ order ∧ epochs' ≠ stored.epochs := by
  have hds : Sample.start.Accepts Sample.setup Sample.pipeline (Sample.transaction ++
      [Sample.newHost, Sample.innerRow]) := by
    decide +kernel
  have hrows : ∀ d ∈ [Sample.innerRow], d.isRow = true ∧ d.isLastRow = false := by
    simp [Sample.innerRow, Sample.row, Delivery.isRow]
  have hdropped : (GtidSet.parse "b:1-3").toOption.all
      (fun set => !(Sample.position "a:1-5").hostsKeptBy "-80" set) = true := by
    decide +kernel
  have hlast : (((Sample.start.run Sample.setup Sample.pipeline Sample.transaction).step
      Sample.setup Sample.pipeline Sample.newHost).1.run Sample.setup Sample.pipeline
        [Sample.innerRow]).journal.published.getLast?.isSome = true := by
    decide +kernel
  obtain ⟨stored, hstored⟩ := Option.isSome_iff_exists.1 hlast
  obtain ⟨id, set, order, hid, hset, hbegins, hload, hagain⟩ :=
    replayed_begin Sample.setup rfl Sample.pipeline (.initial .standard default) hds hrows
      (Prod.eta _).symm hstored .standard false default
  cases hid
  have hnano : ∀ d ∈ [Sample.newHost, Sample.innerRow],
      d.message.header.commitTime.nano < 1000000000 := by
    decide +kernel
  obtain ⟨resumed, notices, hresumed⟩ := hload rfl hnano
  obtain ⟨order', epochs', hbegins', -, -, horder, hepochs⟩ := hagain resumed notices hresumed
  rw [hset] at hdropped
  have hkept : ¬ (Sample.position "a:1-5").hostsKeptBy "-80" set = true := by
    simpa [Except.toOption] using hdropped
  refine ⟨stored, resumed, notices, order, order', epochs', ?_, hbegins, hresumed, hbegins',
    mt horder.1 hkept, mt hepochs.1 hkept⟩
  rw [run_append]
  exact hstored

end Worker

end ShardStream

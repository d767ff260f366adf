import Mathlib.Data.List.Forall2
import ShardStream.Proofs.Independence
import ShardStream.Proofs.Resumption

/-! # Orders as annotations

A session that is not asked for orders does the same as one that is, without the orders: it takes
the same messages, hands over the same events and publishes the same positions, and its epochs stay
those of its start. Where orders are asked for, each transaction is announced with its order, and
its rows repeat that order.
-/
namespace ShardStream

def TransactionInfo.unordered (i : TransactionInfo) : TransactionInfo := { i with order := none }

def TransactionBlock.unordered (b : TransactionBlock) : TransactionBlock := { b with order := none }

namespace Event

/-- The event without the order of its transaction. -/
def unordered : Event → Event
  | started p i s time => started p i.unordered s time
  | changed p t r => changed p t { r with transaction := r.transaction.map (·.unordered) }
  | e => e

end Event

/-- The setup, but orders are not asked for. -/
def Setup.unordered (s : Setup) : Setup := { s with ordered := false }

namespace Outcome

/-- What the event tells of the transaction that it starts. -/
def info? (o : Outcome) : Option TransactionInfo :=
  match o.event with
  | some (.started _ info _ _) => some info
  | _ => none

/-- What the event tells of the place of its row in a transaction. -/
def block? (o : Outcome) : Option TransactionBlock :=
  match o.event with
  | some (.changed _ _ record) => record.transaction
  | _ => none

/-- A message has succeeded with orders and without them. Without them others see the same, apart
from the time of handling, except that no order is told and that the epochs published are the given
ones. -/
structure Annotates (epochs : KeyMap UInt64) (o plain : Outcome) : Prop where
  result : plain.result = .ok ()
  event : plain.event.map Event.untimed = o.event.map fun e => e.unordered.untimed
  row : plain.row = o.row
  published : plain.published = o.published.map fun stored => { stored with epochs }

end Outcome

namespace Tracker

/-- The tracker without the order of the open transaction, and with other epochs. -/
def unordered (e : Epochs) (t : Tracker) : Tracker :=
  { t with progress := { t.progress with order := none }, epochs := e }

variable {e : Epochs} {t : Tracker}

theorem rotate_unordered (vgtid : Vgtid) (time : Instant) : (t.unordered e).rotate vgtid time =
    ((t.rotate vgtid time).1.unordered e, (t.rotate vgtid time).2) := rfl

theorem block_unordered (table : TableId) :
    (t.unordered e).block table = (t.block table).map (·.unordered) := by
  unfold block
  rw [Option.map_map]
  rfl

/-- With nothing open and the epochs that it has already, nothing changes. -/
theorem unordered_self (ht : t.progress = .none) : t.unordered t.epochs = t := by
  unfold unordered
  rw [ht]
  cases t
  cases ht
  rfl

end Tracker

namespace Processor

/-- The processor without the order of the open transaction, and with other epochs. -/
def unordered (e : Epochs) (p : Processor) : Processor :=
  { p with tracker := p.tracker.unordered e }

variable {s : Setup} {sink : Sink} {p p' : Processor} {d : Delivery} {o : Outcome} {e : Epochs}

theorem trackRow_unordered (t : Tracker) (h : Header) (table : TableId) (d : Delivery)
    (now : Instant) :
    trackRow (t.unordered e) h table { d with now } = (trackRow t h table d).unordered e := by
  unfold trackRow
  cases d.isLastRow <;> rfl

theorem recordOf_unordered (t : Tracker) (table : TableId) (c : RowChange) (now : Instant) :
    recordOf (t.unordered e) table c now =
      { recordOf t table c now with transaction := (t.block table).map (·.unordered) } := by
  unfold recordOf
  rw [Tracker.block_unordered]
  rfl

theorem trackRow_progress (t : Tracker) (h : Header) (table : TableId) (d : Delivery) :
    (trackRow t h table d).progress = t.progress.addRow table := by
  unfold trackRow
  cases d.isLastRow <;> rfl

/-- A message that is taken is taken without orders too. -/
theorem Takes.unordered (ht : Takes s sink p d p' o) (e : Epochs) (now : Instant) :
    ∃ plain, Takes s.unordered Sink.open (p.unordered e) { d with now } (p'.unordered e) plain ∧
      o.Annotates e.current plain := by
  cases ht with
  | @begin h vgtid last before id rotated ordered begun moved changed order hid hrotate horder
      hbegun hsink =>
    obtain ⟨epochs, rfl⟩ := orderFor_ok horder
    have hrotate' : (p.tracker.unordered e).rotate vgtid h.commitTime =
        (rotated.unordered e, moved) := by
      rw [Tracker.rotate_unordered, hrotate]
    have hbegun' : (rotated.unordered e).begin (some id) none = begun.unordered e := by
      rw [← hbegun]
      rfl
    have htakes : Takes s.unordered Sink.open (p.unordered e) ⟨.begin h, vgtid, last, now⟩ _ _ :=
      .begin hid hrotate' (orderFor_unordered rfl _ _ _) hbegun' rfl
    exact ⟨_, htakes, rfl, rfl, rfl, rfl⟩
  | @commit h vgtid last before rotated moved hrotate hsink =>
    have hrotate' : (p.tracker.unordered e).rotate vgtid h.commitTime =
        (rotated.unordered e, moved) := by
      rw [Tracker.rotate_unordered, hrotate]
    have htakes : Takes s.unordered Sink.open (p.unordered e) ⟨.commit h, vgtid, last, now⟩ _ _ :=
      .commit hrotate' rfl
    exact ⟨_, htakes, rfl, rfl, rfl, rfl⟩
  | @control m vgtid last before rotated moved hm hrotate =>
    have hrotate' : (p.tracker.unordered e).rotate vgtid m.header.commitTime =
        (rotated.unordered e, moved) := by
      rw [Tracker.rotate_unordered, hrotate]
    have htakes : Takes s.unordered Sink.open (p.unordered e) ⟨m, vgtid, last, now⟩ _ _ :=
      .control hm hrotate'
    exact ⟨_, htakes, rfl, rfl, rfl, rfl⟩
  | @row h c vgtid last before table tracked htable htracked hsink =>
    have htracked' : trackRow (p.tracker.unordered e) h table ⟨.row h c, vgtid, last, now⟩ =
        tracked.unordered e := by
      rw [← htracked]
      exact trackRow_unordered p.tracker h table ⟨.row h c, vgtid, last, before⟩ now
    have htakes : Takes s.unordered Sink.open (p.unordered e) ⟨.row h c, vgtid, last, now⟩ _ _ :=
      .row htable htracked' rfl
    refine ⟨_, htakes, rfl, ?_, rfl, rfl⟩
    rw [recordOf_unordered]
    rfl

/-- A transaction is begun with the order that its event tells. -/
theorem Takes.begin_order (hs : s.ordered = true) (ht : Takes s sink p d p' o)
    (hd : d.isBegin = true) :
    ∃ order, o.order? = some order ∧ p'.tracker.progress.order = some order := by
  cases ht with
  | begin hid hrotate horder hbegun hsink =>
    obtain ⟨order, epochs, -, rfl, rfl⟩ := orderFor_ordered_ok hs horder
    subst hbegun
    exact ⟨order, rfl, rfl⟩
  | @control m _ _ _ _ _ hm =>
    cases m with
    | begin => cases hm
    | _ => cases hd
  | _ => cases hd

/-- A transaction that is open after another message was open before it and keeps its order. -/
theorem Takes.keeps_order (ht : Takes s sink p d p' o) (hd : d.isBegin = false)
    (hopen : p'.tracker.progress.isOpen = true) : p.tracker.progress.isOpen = true ∧
      p'.tracker.progress.order = p.tracker.progress.order := by
  cases ht with
  | begin => cases hd
  | commit => cases hopen
  | control hm hrotate =>
    cases hrotate
    exact ⟨hopen, rfl⟩
  | row htable htracked hsink =>
    subst htracked
    simp only [trackRow_progress] at hopen ⊢
    exact ⟨hopen, rfl⟩

/-- A transaction is started with an order. -/
theorem Takes.started_order (hs : s.ordered = true) (ht : Takes s sink p d p' o)
    {info : TransactionInfo} (hinfo : o.info? = some info) : info.order.isSome = true := by
  cases ht with
  | begin hid hrotate horder hbegun hsink =>
    obtain ⟨order, epochs, -, rfl, -⟩ := orderFor_ordered_ok hs horder
    cases hinfo
    rfl
  | _ => cases hinfo

/-- The event of a row repeats the order of the transaction that was open before it. -/
theorem Takes.row_order (ht : Takes s sink p d p' o) {b : TransactionBlock}
    (hb : o.block? = some b) :
    p.tracker.progress.isOpen = true ∧ b.order = p.tracker.progress.order := by
  cases ht with
  | @row h c vgtid last now table tracked htable htracked hsink =>
    obtain ⟨id, hid, rfl⟩ := Option.map_eq_some_iff.1 hb
    have hprogress : tracked.progress = p.tracker.progress.addRow table := by
      rw [← htracked, trackRow_progress]
    have horder : tracked.progress.order = p.tracker.progress.order := by
      rw [hprogress]
      rfl
    rw [hprogress] at hid
    exact ⟨Option.isSome_iff_exists.2 ⟨id, hid⟩, horder⟩
  | _ => cases hb

end Processor

namespace Worker

variable {s : Setup} {pipeline : Pipeline} {w plain : Worker} {past ds : List Delivery}

/-- The order that was announced for the transaction that was begun last. -/
def Announced (s : Setup) (pipeline : Pipeline) (w : Worker) (past : List Delivery)
    (order : TransactionOrder) : Prop :=
  ∃ before e between, past = before ++ e :: between ∧ e.isBegin = true ∧
    (∀ d ∈ between, d.isBegin = false) ∧ w.orderOf? s pipeline before e = some order

theorem Announced.concat {order : TransactionOrder} (h : w.Announced s pipeline past order)
    {d : Delivery} (hd : d.isBegin = false) : w.Announced s pipeline (past ++ [d]) order := by
  obtain ⟨before, e, between, rfl, he, hbetween, horder⟩ := h
  refine ⟨before, e, between ++ [d], by simp, he, ?_, horder⟩
  intro x hx
  rcases List.mem_append.1 hx with hx | hx
  · exact hbetween x hx
  · rwa [List.mem_singleton.1 hx]

/-- While a transaction is open, its order is the one that was announced for it. -/
theorem Accepts.open_order (hs : s.ordered = true) (hw : w.processor.tracker.progress = .none)
    (hpast : w.Accepts s pipeline past)
    (hopen : (w.run s pipeline past).processor.tracker.progress.isOpen = true) :
    ∃ order, (w.run s pipeline past).processor.tracker.progress.order = some order ∧
      w.Announced s pipeline past order := by
  induction past using List.reverseRecOn with
  | nil =>
    rw [run_nil, hw] at hopen
    cases hopen
  | append_singleton past d ih =>
    obtain ⟨hbefore, hresult⟩ := accepts_concat.1 hpast
    obtain ⟨htakes, -⟩ := takes_of_step (Prod.eta _).symm hresult
    rw [run_concat] at hopen ⊢
    cases hd : d.isBegin with
    | true =>
      obtain ⟨order, htold, horder⟩ := htakes.begin_order hs hd
      exact ⟨order, horder, past, d, [], rfl, hd, List.forall_mem_nil _, htold⟩
    | false =>
      obtain ⟨hopen, hkept⟩ := htakes.keeps_order hd hopen
      obtain ⟨order, horder, hannounced⟩ := ih hbefore hopen
      exact ⟨order, hkept.trans horder, hannounced.concat hd⟩

/-- Message by message, the outcomes of a run are those of the run without orders, and the orders
added. -/
theorem annotates_outcomes {e : Epochs} (hw : plain.processor = w.processor.unordered e)
    (hphase : w.processor.phase ≠ .failed) (hds : w.Accepts s pipeline ds) {again : List Delivery}
    (hagain : again.map Delivery.untimed = ds.map Delivery.untimed) :
    List.Forall₂ (Outcome.Annotates e.current) (w.outcomes s pipeline ds)
      (plain.outcomes s.unordered (fun _ => Sink.open) again) := by
  -- both sessions change with each message, and stay apart in their orders and epochs only
  induction ds generalizing w plain again with
  | nil =>
    obtain rfl := List.map_eq_nil_iff.1 hagain
    exact .nil
  | cons d ds ih =>
    obtain ⟨d', again, rfl, hd, hagain⟩ := List.map_eq_cons_iff.1 hagain
    obtain ⟨hresult, hds⟩ := accepts_cons.1 hds
    obtain ⟨htakes, -⟩ := takes_of_step (Prod.eta _).symm hresult
    obtain ⟨o', htakes', hannotates⟩ := htakes.unordered e d'.now
    have hprocess := htakes'.process hphase
    rw [← Delivery.eq_of_untimed hd, ← hw] at hprocess
    obtain ⟨hplain, hsame⟩ : (plain.step s.unordered (fun _ => Sink.open) d').1.processor =
          (w.step s pipeline d).1.processor.unordered e ∧
        (plain.step s.unordered (fun _ => Sink.open) d').2 = o' := by
      rw [step, hprocess]
      exact ⟨rfl, rfl⟩
    rw [outcomes, outcomes, hsame]
    exact .cons hannotates (ih hplain (htakes.phase_ne_failed hphase) hds hagain)

/-- Orders only add to what a session tells. Without them the same messages are taken and others see
the same, apart from the time of handling, except that no event tells an order and that the epochs
published are always those of the start. With them every transaction that is started is told its
order, and each row of a transaction repeats the order told when the latest transaction was
begun. -/
theorem orders_are_annotations (s : Setup) (hs : s.ordered = true) (pipeline : Pipeline)
    {t : Tracker} (ht : t.IsStart) {ds : List Delivery}
    (hds : (Worker.start t).Accepts s pipeline ds)
    {again : List Delivery} (hagain : again.map Delivery.untimed = ds.map Delivery.untimed) :
    (Worker.start t).Accepts s.unordered (fun _ => Sink.open) again ∧
    List.Forall₂ (Outcome.Annotates t.epochs.current) ((Worker.start t).outcomes s pipeline ds)
      ((Worker.start t).outcomes s.unordered (fun _ => Sink.open) again) ∧
    ∀ past d rest, ds = past ++ d :: rest →
      let o := (((Worker.start t).run s pipeline past).step s pipeline d).2
      (∀ info, o.info? = some info → info.order.isSome = true) ∧
      ∀ block, o.block? = some block →
        ∃ order, block.order = some order ∧ (Worker.start t).Announced s pipeline past order := by
  have hstart : (Worker.start t).processor = (Worker.start t).processor.unordered t.epochs := by
    rw [Processor.unordered]
    exact congrArg Processor.start (t.unordered_self ht.progress).symm
  have hannotates : List.Forall₂ (Outcome.Annotates t.epochs.current)
      ((Worker.start t).outcomes s pipeline ds)
      ((Worker.start t).outcomes s.unordered (fun _ => Sink.open) again) :=
    annotates_outcomes hstart nofun hds hagain
  refine ⟨?_, hannotates, ?_⟩
  · have hresults := hannotates.flip.imp fun plain o h => And.intro h.result h
    exact ((List.forall₂_and_left _ _).1 hresults).1
  · rintro past d rest rfl o
    obtain ⟨htakes, -⟩ := hds.takes (Prod.eta _).symm
    refine ⟨fun info => htakes.started_order hs, ?_⟩
    intro block hblock
    obtain ⟨hopen, hrepeated⟩ := htakes.row_order hblock
    obtain ⟨order, horder, hannounced⟩ :=
      (accepts_append.1 hds).1.open_order hs ht.progress hopen
    exact ⟨order, hrepeated.trans horder, hannounced⟩

/-- The row of a second transaction repeats the order of that transaction, and not the one
before. -/
theorem second_order_is_repeated :
    let past := Sample.transaction ++ [Sample.begin "a:1-6" "a:1-5"]
    let again := Sample.transaction ++ Sample.nextTransaction Sample.later
    let first? :=
      Sample.start.orderOf? Sample.setup Sample.pipeline [] (Sample.begin "a:1-5" "a:1-4")
    let o := ((Sample.start.run Sample.setup Sample.pipeline past).step Sample.setup Sample.pipeline
      (Sample.row "orders" "a:1-6" true)).2
    Sample.start.Accepts Sample.setup.unordered Sample.pipeline again ∧
      ∃ block order, o.block? = some block ∧ block.order = some order ∧ first? ≠ some order ∧
        Sample.start.Announced Sample.setup Sample.pipeline past order := by
  intro past again first? o
  have hds : Sample.start.Accepts Sample.setup Sample.pipeline
      (Sample.transaction ++ Sample.nextTransaction default) := by
    decide +kernel
  have hagain : again.map Delivery.untimed =
      (Sample.transaction ++ Sample.nextTransaction default).map Delivery.untimed := rfl
  obtain ⟨haccepts, -, horders⟩ := orders_are_annotations Sample.setup rfl Sample.pipeline
    (.initial .standard default) hds hagain
  have hother : o.block?.any (fun block => block.order ≠ first?) = true := by decide +kernel
  obtain ⟨block, hblock, hne⟩ := (Option.any_eq_true _ _).1 hother
  obtain ⟨order, horder, hannounced⟩ :=
    (horders past (Sample.row "orders" "a:1-6" true) [Sample.commit "a:1-6"] rfl).2 block hblock
  have hne : block.order ≠ first? := of_decide_eq_true hne
  rw [horder] at hne
  exact ⟨haccepts, block, order, hblock, horder, hne.symm, hannounced⟩

end Worker

end ShardStream

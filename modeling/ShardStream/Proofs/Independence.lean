import ShardStream.Proofs.EpochHistory
import ShardStream.Proofs.Replay

/-! # Orders among the messages of other shards

The order of a transaction depends on the transactions before it on shards of the same name, and on
nothing else. A session that is given the messages on one name alone gives them the same orders. One
that is given only those of one keyspace gives the same ranks; its epochs may be lower, for a change
of hosts between two keyspaces is counted as well.
-/
namespace ShardStream

namespace Delivery

/-- Whether the message is of a shard of that name, in any keyspace. -/
def isOn (shard : String) (d : Delivery) : Bool := d.message.header.shard = shard

def isFor (keyspace shard : String) (d : Delivery) : Bool :=
  d.message.header.keyspace = keyspace && d.isOn shard

/-- The transaction that the message asks to be ordered. -/
def orderCall? (d : Delivery) : Option OrderCall := d.opens?.map (⟨d.message.header.shard, ·⟩)

theorem orderCall?_eq_none {d : Delivery} (hd : d.isBegin = false) : d.orderCall? = none := by
  obtain ⟨m, vgtid, last, now⟩ := d
  cases m with
  | begin h => cases hd
  | _ => rfl

theorem shard_of_orderCall? {d : Delivery} {c : OrderCall} (hc : d.orderCall? = some c) :
    c.shard = d.message.header.shard := by
  obtain ⟨id, -, rfl⟩ := Option.map_eq_some_iff.1 hc
  rfl

end Delivery

/-- The order in the event of a message that opens a transaction. -/
def Outcome.order? (o : Outcome) : Option TransactionOrder :=
  match o.event with
  | some (.started _ transaction _ _) => transaction.order
  | _ => none

namespace History

def orderCalls (past : History) : List OrderCall := past.filterMap (·.orderCall?)

/-- How many of the transactions opened on a shard of that name do not name all hosts of the one
before. -/
def drops (ranking : Ranking) (past : History) (shard : String) : Nat :=
  hostDrops (setsOn ranking none past.orderCalls shard)

theorem orderCalls_concat (past : History) (d : Delivery) :
    orderCalls (past ++ [d]) = past.orderCalls ++ d.orderCall?.toList := by
  cases hc : d.orderCall? <;> simp [orderCalls, hc]

theorem orderCalls_isOn (past : History) (shard : String) :
    orderCalls (past.filter (·.isOn shard)) = past.orderCalls.filter (·.shard = shard) := by
  induction past with
  | nil => rfl
  | cons d past ih =>
    unfold orderCalls at ih ⊢
    cases hc : d.orderCall? with
    | none => cases hd : d.isOn shard <;> simp [hd, hc, ih]
    | some c =>
      have hon : d.isOn shard = decide (c.shard = shard) := by
        rw [Delivery.shard_of_orderCall? hc]
        rfl
      by_cases hd : c.shard = shard <;> simp [hon, hd, hc, ih]

theorem drops_isOn (ranking : Ranking) (past : History) (shard : String) :
    drops ranking (past.filter (·.isOn shard)) shard = past.drops ranking shard := by
  rw [drops, drops, setsOn, setsOn, orderCalls_isOn, List.filter_filter]
  simp

/-- Without some of the messages there are no more drops. -/
theorem drops_filter_le (ranking : Ranking) (past : History) (which : Delivery → Bool)
    (shard : String) : drops ranking (past.filter which) shard ≤ past.drops ranking shard := by
  refine hostDrops_le_of_sublist ?_
  have hcalls : (orderCalls (past.filter which)).Sublist past.orderCalls :=
    List.filter_sublist.filterMap _
  exact ((hcalls.filter _).filterMap _).append_left _

end History

namespace Processor

variable {s : Setup} {sink : Sink} {p p' : Processor} {d : Delivery} {o : Outcome}

/-- Whether a transaction can be ordered does not depend on what was ordered before. -/
theorem orderFor_again {t t' : Tracker} {shard id : String} {order : Option TransactionOrder}
    {notices : List Notice} (h : orderFor s t shard id = .ok (order, t', notices)) (u : Tracker) :
    ∃ order' u' notices', orderFor s u shard id = .ok (order', u', notices') := by
  cases hs : s.ordered with
  | false => exact ⟨none, u, [], orderFor_unordered hs u shard id⟩
  | true =>
    obtain ⟨o, epochs, horder, -, -⟩ := orderFor_ordered_ok hs h
    obtain ⟨set, hset, hrank, -, -, -⟩ := Epochs.order_ok horder
    rw [orderFor_ordered hs, Epochs.order_of_ok u.epochs shard hrank hset]
    exact ⟨_, _, _, rfl⟩

/-- Whether a message can be taken depends only on the message and on what the pipeline answers. -/
theorem Takes.again (ht : Takes s sink p d p' o) (q : Processor) :
    ∃ q' o', Takes s Sink.open q d q' o' := by
  cases ht with
  | @begin h vgtid last now id rotated ordered begun moved changed order hid hrotate horder hbegun
      hsink =>
    obtain ⟨order', ordered', changed', horder'⟩ :=
      orderFor_again horder (q.tracker.rotate vgtid h.commitTime).1
    exact ⟨_, _, .begin hid rfl horder' rfl rfl⟩
  | commit => exact ⟨_, _, .commit rfl rfl⟩
  | control hm => exact ⟨_, _, .control hm rfl⟩
  | row htable => exact ⟨_, _, .row htable rfl rfl⟩

/-- A begin that is taken orders a transaction. -/
theorem Takes.orders (hs : s.ordered = true) (ht : Takes s sink p d p' o)
    (hd : d.isBegin = true) : ∃ c order notices, d.orderCall? = some c ∧ o.order? = some order ∧
      p.tracker.epochs.order s.ranking c.shard c.id = .ok (order, p'.tracker.epochs, notices) := by
  cases ht with
  | @begin h vgtid last now id rotated ordered begun moved changed order hid hrotate horder hbegun
      hsink =>
    obtain ⟨transactionOrder, epochs, he, rfl, rfl⟩ := orderFor_ordered_ok hs horder
    cases hrotate
    subst hbegun
    rw [beginId?_eq_opens? h vgtid last now] at hid
    refine ⟨⟨h.shard, id⟩, transactionOrder, changed, ?_, rfl, he⟩
    rw [Delivery.orderCall?, hid]
    rfl
  | @control m _ _ _ _ _ hm =>
    cases m with
    | begin => cases hm
    | _ => cases hd
  | _ => cases hd

theorem Takes.epochs_after (hs : s.ordered = true) (ht : Takes s sink p d p' o) :
    p'.tracker.epochs = p.tracker.epochs.afterAll s.ranking d.orderCall?.toList := by
  cases hd : d.isBegin with
  | false =>
    rw [ht.epochs hd, Delivery.orderCall?_eq_none hd]
    rfl
  | true =>
    obtain ⟨c, order, notices, hcall, -, horder⟩ := ht.orders hs hd
    rw [hcall, Option.toList_some, Epochs.afterAll, List.foldl_cons, List.foldl_nil, Epochs.after,
      horder]

end Processor

namespace Worker

variable {s : Setup} {pipeline : Pipeline} {w v : Worker} {past ds : List Delivery} {d : Delivery}

/-- The order that a message is given after others. -/
def orderOf? (s : Setup) (pipeline : Pipeline) (w : Worker) (past : List Delivery) (d : Delivery) :
    Option TransactionOrder :=
  ((w.run s pipeline past).step s pipeline d).2.order?

theorem Accepts.exists_takes (hds : w.Accepts s pipeline ds) (hd : d ∈ ds) :
    ∃ sink p p' o, Processor.Takes s sink p d p' o := by
  obtain ⟨past, rest, rfl⟩ := List.append_of_mem hd
  obtain ⟨htakes, -⟩ := hds.takes (Prod.eta _).symm
  exact ⟨_, _, _, _, htakes⟩

/-- Any of the messages of an accepted run are accepted, in any order. -/
theorem Accepts.of_subset (hds : w.Accepts s pipeline ds) {chosen : List Delivery}
    (hchosen : chosen ⊆ ds) (hv : v.processor.phase ≠ .failed) :
    v.Accepts s (fun _ => Sink.open) chosen := by
  induction chosen generalizing v with
  | nil => exact accepts_nil
  | cons d chosen ih =>
    obtain ⟨hd, hchosen⟩ := List.cons_subset.1 hchosen
    obtain ⟨sink, p, p', o, htakes⟩ := hds.exists_takes hd
    obtain ⟨q', o', hagain⟩ := htakes.again v.processor
    have hstep : v.step s (fun _ => Sink.open) d = (⟨q', v.journal.add o'⟩, o') := by
      rw [step, hagain.process hv]
    rw [accepts_cons, hstep]
    exact ⟨hagain.result, ih hchosen (hagain.phase_ne_failed hv)⟩

theorem Accepts.epochs_after (hs : s.ordered = true) (hds : w.Accepts s pipeline ds) :
    (w.run s pipeline ds).processor.tracker.epochs =
      w.processor.tracker.epochs.afterAll s.ranking (History.orderCalls ds) := by
  refine hds.induction (motive := fun past v => v.processor.tracker.epochs =
    w.processor.tracker.epochs.afterAll s.ranking (History.orderCalls past)) rfl ?_
  intro past v v' d o htakes hjournal ih
  rw [htakes.epochs_after hs, ih, History.orderCalls_concat, Epochs.afterAll, Epochs.afterAll,
    Epochs.afterAll, List.foldl_append]

/-- A begin is given the rank of its identifier, and for its epoch the number of times that hosts
were dropped on shards of its name. -/
theorem Accepts.exists_order {c : Config} {now : Instant} (hs : s.ordered = true)
    (hds : (Worker.start (.initial c now)).Accepts s pipeline (past ++ [d]))
    (hd : d.isBegin = true) :
    ∃ call o, d.orderCall? = some call ∧
      (Worker.start (.initial c now)).orderOf? s pipeline past d = some o ∧
      s.ranking call.id = .ok o.rank ∧
      o.epoch = UInt64.ofNat (History.drops s.ranking (past ++ [d]) d.message.header.shard) := by
  obtain ⟨htakes, -⟩ := hds.takes (Prod.eta _).symm
  obtain ⟨call, o, notices, hcall, ho, horder⟩ := htakes.orders hs hd
  rw [(accepts_append.1 hds).1.epochs_after hs] at horder
  obtain ⟨set, -, hrank, hepoch⟩ := Epochs.order_afterAll horder
  refine ⟨call, o, hcall, ho, hrank, ?_⟩
  rw [hepoch, ← Delivery.shard_of_orderCall? hcall, History.drops, History.orderCalls_concat, hcall]
  exact UInt64.zero_add _

/-- The same holds if only some of the messages before have come. -/
theorem Accepts.exists_order_among {c : Config} {now : Instant} (hs : s.ordered = true)
    (hds : (Worker.start (.initial c now)).Accepts s pipeline (past ++ [d]))
    (hd : d.isBegin = true) {which : Delivery → Bool} (hwhich : which d = true) :
    ∃ call o, d.orderCall? = some call ∧
      (Worker.start (.initial c now)).orderOf? s (fun _ => Sink.open) (past.filter which) d =
        some o ∧
      s.ranking call.id = .ok o.rank ∧
      o.epoch = UInt64.ofNat
        (History.drops s.ranking ((past ++ [d]).filter which) d.message.header.shard) := by
  have hfilter : (past ++ [d]).filter which = past.filter which ++ [d] := by simp [hwhich]
  have hchosen : (past ++ [d]).filter which ⊆ past ++ [d] := fun e he => (List.mem_filter.1 he).1
  rw [hfilter] at hchosen ⊢
  have haccepts : (Worker.start (.initial c now)).Accepts s (fun _ => Sink.open)
      (past.filter which ++ [d]) := hds.of_subset hchosen nofun
  exact haccepts.exists_order hs hd

/-- The order of a transaction is the one it would have if only the messages on shards of its name
had come. If only those of its own keyspace had come it would have the same rank. Its epoch would be
the same too just if hosts were dropped on the name as often as in the keyspace alone; they are
never dropped less often. -/
theorem orders_depend_on_shard_name (c : Config) (now : Instant) (s : Setup)
    (hs : s.ordered = true) (pipeline : Pipeline) {ds : List Delivery}
    (hds : (Worker.start (.initial c now)).Accepts s pipeline ds) (keyspace shard : String) :
    let start := Worker.start (.initial c now)
    let taking : Pipeline := fun _ => Sink.open
    (∀ which : Delivery → Bool, start.Accepts s taking (ds.filter which)) ∧
    ∀ past d rest, ds = past ++ d :: rest → d.isBegin = true → d.isFor keyspace shard = true →
      ∃ o alone, start.orderOf? s pipeline past d = some o ∧
        start.orderOf? s taking (past.filter (·.isOn shard)) d = some o ∧
        start.orderOf? s taking (past.filter (·.isFor keyspace shard)) d = some alone ∧
        alone.rank = o.rank ∧
        let named := History.drops s.ranking (past ++ [d]) shard
        let own := History.drops s.ranking ((past ++ [d]).filter (·.isFor keyspace shard)) shard
        own ≤ named ∧ (named < UInt64.size →
          o.epoch.toNat = named ∧ alone.epoch.toNat = own ∧ (alone = o ↔ own = named)) := by
  intro start taking
  constructor
  · intro which
    exact hds.of_subset (fun d hd => (List.mem_filter.1 hd).1) nofun
  rintro past d rest rfl hbegin hfor
  rw [List.append_cons] at hds
  have hpast := (accepts_append.1 hds).1
  have hon : d.isOn shard = true := (Bool.and_eq_true_iff.1 hfor).2
  have hshard : d.message.header.shard = shard := of_decide_eq_true hon
  obtain ⟨call, o, hcall, ho, hrank, hepoch⟩ := hpast.exists_order hs hbegin
  obtain ⟨call', o', hcall', ho', hrank', hepoch'⟩ := hpast.exists_order_among hs hbegin hon
  obtain ⟨own, alone, hown, halone, hownrank, hownepoch⟩ :=
    hpast.exists_order_among hs hbegin hfor
  rw [hcall] at hcall' hown
  cases hcall'
  cases hown
  rw [hshard] at hepoch hepoch' hownepoch
  have hsamerank : o'.rank = o.rank := (Except.ok.inj (hrank.symm.trans hrank')).symm
  have halonerank : alone.rank = o.rank := (Except.ok.inj (hrank.symm.trans hownrank)).symm
  -- messages on other names are no transactions of this one
  rw [History.drops_isOn, ← hepoch] at hepoch'
  obtain rfl : o' = o := TransactionOrder.eq_iff.2 ⟨hepoch', hsamerank⟩
  have hle := History.drops_filter_le s.ranking (past ++ [d]) (·.isFor keyspace shard) shard
  refine ⟨o', alone, ho, ho', halone, halonerank, hle, ?_⟩
  intro hfit
  have hnamed : o'.epoch.toNat = History.drops s.ranking (past ++ [d]) shard := by
    rw [hepoch, UInt64.toNat_ofNat_of_lt' hfit]
  have hown : alone.epoch.toNat =
      History.drops s.ranking ((past ++ [d]).filter (·.isFor keyspace shard)) shard := by
    rw [hownepoch, UInt64.toNat_ofNat_of_lt' (Nat.lt_of_le_of_lt hle hfit)]
  refine ⟨hnamed, hown, ?_⟩
  rw [TransactionOrder.eq_iff, and_iff_left halonerank, ← UInt64.toNat_inj, hown, hnamed]

end Worker

namespace Sample

/-- A transaction of a shard of the same name in another keyspace. -/
def namesake : List Delivery :=
  [⟨.begin ⟨"customer", "-80", some "b:1-3", default⟩, position "a:1-4", false, default⟩,
    ⟨.commit ⟨"customer", "-80", none, default⟩, position "a:1-4", false, default⟩]

end Sample

namespace Worker

/-- The first transaction of a keyspace begins the second epoch, since a shard of the same name in
another keyspace has other hosts. -/
theorem namesake_raises_epoch :
    Sample.start.Accepts Sample.setup Sample.pipeline
      (Sample.namesake ++ [Sample.begin "a:1-5" "a:1-4"]) ∧
    ∃ o alone,
      Sample.start.orderOf? Sample.setup Sample.pipeline Sample.namesake
        (Sample.begin "a:1-5" "a:1-4") = some o ∧
      Sample.start.orderOf? Sample.setup Sample.pipeline
        (Sample.namesake.filter (·.isFor "commerce" "-80")) (Sample.begin "a:1-5" "a:1-4") =
          some alone ∧
      o.epoch.toNat = 1 ∧ alone.epoch.toNat = 0 ∧ alone ≠ o := by
  have hds : Sample.start.Accepts Sample.setup Sample.pipeline
      (Sample.namesake ++ [Sample.begin "a:1-5" "a:1-4"]) := by
    decide +kernel
  obtain ⟨o, alone, ho, -, halone, -, -, hepochs⟩ :=
    (orders_depend_on_shard_name .standard default Sample.setup rfl Sample.pipeline hds "commerce"
      "-80").2 Sample.namesake (Sample.begin "a:1-5" "a:1-4") [] rfl rfl (by decide +kernel)
  have hnamed : History.drops Sample.setup.ranking
      (Sample.namesake ++ [Sample.begin "a:1-5" "a:1-4"]) "-80" = 1 := by
    decide +kernel
  have hown : History.drops Sample.setup.ranking
      ((Sample.namesake ++ [Sample.begin "a:1-5" "a:1-4"]).filter (·.isFor "commerce" "-80"))
      "-80" = 0 := by
    decide +kernel
  rw [hnamed, hown] at hepochs
  obtain ⟨hepoch, haloneepoch, hsame⟩ := hepochs (by decide)
  refine ⟨hds, o, alone, ho, halone, hepoch, haloneepoch, ?_⟩
  rw [ne_eq, hsame]
  decide

end Worker

end ShardStream

import ShardStream.Proofs.Epochs
import ShardStream.Proofs.History
import ShardStream.Proofs.Position
import ShardStream.Proofs.Storing

/-! # Going on after a commit

A session that stopped after a commit and goes on from its stored offset does what it would have
done without the stop. All that is lost is the row seen last, which the boundaries name, and the
hosts of the last transaction of each shard, for which those of the stored position stand in.
-/
namespace ShardStream

/-- A tracker as a session of the configuration starts with it. -/
inductive Tracker.IsStartOf (c : Config) : Tracker → Prop
  | initial (now : Instant) : IsStartOf c (.initial c now)
  | load {stored : StoredOffset} {t : Tracker} {notices : List Notice}
      (h : Tracker.load c stored = .ok (t, notices)) : IsStartOf c t

namespace Tracker.IsStartOf

variable {c : Config} {t : Tracker}

theorem isStart (ht : t.IsStartOf c) : t.IsStart := by
  cases ht with
  | initial now => exact .initial c now
  | load h => exact .load h

theorem names (ht : t.IsStartOf c) :
    t.source.serverName = c.serverName ∧ t.source.keyspace = c.keyspace := by
  cases ht with
  | initial now => exact ⟨rfl, rfl⟩
  | load h =>
    obtain ⟨time, rfl⟩ := load_ok h
    exact ⟨rfl, rfl⟩

end Tracker.IsStartOf

namespace Delivery

def isCommit (d : Delivery) : Bool :=
  match d.message with
  | .commit _ => true
  | _ => false

/-- The message without the time at which it is handled. -/
def untimed (d : Delivery) : Delivery := { d with now := default }

theorem eq_of_untimed {d d' : Delivery} (h : d'.untimed = d.untimed) :
    d' = { d with now := d'.now } := by
  obtain ⟨m, vgtid, last, now⟩ := d
  obtain ⟨m', vgtid', last', now'⟩ := d'
  cases h
  rfl

end Delivery

/-- Whether a commit is the last message that is not a control message. -/
def History.endsWithCommit (past : History) : Bool :=
  (past.filter fun d => !d.message.isControl).getLast?.any (·.isCommit)

theorem History.endsWithCommit_concat (past : History) (d : Delivery) :
    endsWithCommit (past ++ [d]) =
      if d.message.isControl then past.endsWithCommit else d.isCommit := by
  cases hd : d.message.isControl <;> simp [endsWithCommit, hd]

/-- The source without the row seen last. -/
def Source.unplaced (s : Source) : Source := { s with shard := none, table := none }

/-- The source as it is known where rows have been seen or have not. -/
def Source.known (seen : Bool) (s : Source) : Source := if seen then s else s.unplaced

namespace Event

/-- The event without the time at which it was handled. -/
def untimed : Event → Event
  | changed p t r => changed p t { r with time := default }
  | e => e

/-- The event as it is told where rows have been seen or have not. A row is seen by its event. -/
def known (seen : Bool) : Event → Event
  | started p t s time => started p t (s.known seen) time
  | committed p id rows s time => committed p id rows (s.known seen) time
  | e => e

end Event

/-- A message has succeeded once more. Others see the same of it as they saw of the other outcome,
except that the time of handling may differ and that the source of a boundary names no row as long
as none has been seen. -/
structure Outcome.Repeats (seen : Bool) (o' o : Outcome) : Prop where
  result : o'.result = .ok ()
  event : o'.event.map Event.untimed = o.event.map fun e => (e.known seen).untimed
  row : o'.row = o.row
  published : o'.published = o.published

/-- Message by message, the outcomes of a run repeat those of another one. -/
inductive Repeats : Bool → List Delivery → List Outcome → List Outcome → Prop
  | nil {seen : Bool} : Repeats seen [] [] []
  | cons {seen : Bool} {d : Delivery} {ds : List Delivery} {o' o : Outcome} {os' os : List Outcome}
      (ho : o'.Repeats seen o) (hos : Repeats (seen || d.isRow) ds os' os) :
      Repeats seen (d :: ds) (o' :: os') (o :: os)

namespace Epochs

variable {ranking : Ranking} {e e' : Epochs} {shard id : String}

/-- The hosts of the last transaction seen on a shard. -/
def hosts? (e : Epochs) (shard : String) : Option (List String) :=
  (e.previous.get? shard).map (·.hosts.keys)

/-- Which epoch comes next depends on the hosts of the transaction before only. -/
theorem next_congr (hcurrent : e'.current = e.current) (hhosts : e'.hosts? shard = e.hosts? shard)
    (s : GtidSet) : e'.next shard s = e.next shard s := by
  have hall : ∀ e : Epochs, (e.previous.get? shard).all s.coversHostsOf =
      (e.hosts? shard).all (·.all s.hosts.contains) := by
    intro e
    rw [hosts?, Option.all_map]
    rfl
  rw [next, next, hall e', hall e, hcurrent, hhosts]

theorem order_congr (hcurrent : e'.current = e.current)
    (hhosts : ∀ shard, e'.hosts? shard = e.hosts? shard) {order : TransactionOrder} {after : Epochs}
    {notices : List Notice} (h : e.order ranking shard id = .ok (order, after, notices)) :
    ∃ after' notices', e'.order ranking shard id = .ok (order, after', notices') ∧
      after'.current = after.current ∧ ∀ shard, after'.hosts? shard = after.hosts? shard := by
  obtain ⟨s, hset, hrank, hepoch, rfl, -⟩ := order_ok h
  have horder' := e'.order_of_ok shard hrank hset
  rw [next_congr hcurrent (hhosts shard) s, hcurrent, ← hepoch] at horder'
  refine ⟨_, _, horder', by rw [hepoch], fun other => ?_⟩
  have hother := hhosts other
  simp only [hosts?, KeyMap.get?_insert] at hother ⊢
  by_cases heq : other = shard
  · rw [if_pos heq, if_pos heq]
  · rw [if_neg heq, if_neg heq, hother]

end Epochs

namespace Tracker

/-- What the tracker of a resumed session has in common with that of the session that went on. The
time of the last change is left out, because a stored offset keeps it in microseconds only. -/
structure Matches (seen ordered : Bool) (t' t : Tracker) : Prop where
  source : ∃ time, t'.source = { t.source.known seen with time }
  staged' : t'.staged = .none
  staged : t.staged = .none
  progress : t'.progress = t.progress
  current : t'.epochs.current = t.epochs.current
  hosts : ordered = true → ∀ shard, t'.epochs.hosts? shard = t.epochs.hosts? shard

namespace Matches

variable {seen ordered : Bool} {t' t : Tracker}

theorem source_eq (h : Matches seen ordered t' t) (htime : t'.source.time = t.source.time) :
    t'.source = t.source.known seen := by
  obtain ⟨time, hsource⟩ := h.source
  have hknown : (t.source.known seen).time = t.source.time := by
    cases seen <;> rfl
  rw [hsource] at htime
  rw [hsource, show time = (t.source.known seen).time from htime.trans hknown.symm]

theorem stored_eq (h : Matches seen ordered t' t) (htime : t'.source.time = t.source.time) :
    t'.stored = t.stored := by
  have hknown : (t.source.known seen).vgtid = t.source.vgtid := by
    cases seen <;> rfl
  rw [stored, stored, htime, h.progress, h.current, h.source_eq htime, hknown]

theorem rotate (h : Matches seen ordered t' t) (vgtid : Vgtid) (time : Instant) :
    Matches seen ordered (t'.rotate vgtid time).1 (t.rotate vgtid time).1 where
  source := by
    obtain ⟨before, hsource⟩ := h.source
    refine ⟨time, ?_⟩
    cases seen <;> simp [Tracker.rotate, hsource, Source.known, Source.unplaced]
  staged' := rfl
  staged := rfl
  progress := h.progress
  current := h.current
  hosts := h.hosts

end Matches

/-- A tracker with nothing in progress is matched by the one loaded from its own offset. -/
theorem matches_of_load {c : Config} {t resumed : Tracker} {notices : List Notice}
    (hload : load c t.stored = .ok (resumed, notices))
    (hserver : t.source.serverName = c.serverName) (hkeyspace : t.source.keyspace = c.keyspace)
    (hstaged : t.staged = .none) (hprogress : t.progress = .none) {ordered : Bool}
    (hhosts : ordered = true → ∀ shard,
      t.epochs.hosts? shard = (t.vgtid.lastSet? shard).map (·.hosts.keys)) :
    resumed.Matches false ordered t := by
  obtain ⟨time, rfl⟩ := load_ok hload
  refine ⟨⟨time, ?_⟩, rfl, hstaged, hprogress.symm, rfl, fun hordered shard => ?_⟩
  · rw [← hserver, ← hkeyspace]
    rfl
  · have hrestored := Epochs.restore_previous t.stored.epochs t.stored.vgtid shard
    rw [hhosts hordered shard]
    exact congrArg (Option.map fun set : GtidSet => set.hosts.keys) hrestored

end Tracker

namespace Processor

variable {s : Setup} {sink : Sink} {p p₁ p' : Processor} {d : Delivery} {o : Outcome} {seen : Bool}

theorem orderFor_matches {t t' after : Tracker} {shard id : String}
    {order : Option TransactionOrder} {notices : List Notice} (h : t'.Matches seen s.ordered t)
    (horder : orderFor s t shard id = .ok (order, after, notices)) :
    ∃ after' notices', orderFor s t' shard id = .ok (order, after', notices') ∧
      after'.Matches seen s.ordered after := by
  cases hs : s.ordered with
  | false =>
    rw [orderFor_unordered hs] at horder
    cases horder
    exact ⟨t', [], orderFor_unordered hs _ _ _, hs ▸ h⟩
  | true =>
    obtain ⟨before, epochs, he, rfl, rfl⟩ := orderFor_ordered_ok hs horder
    obtain ⟨epochs', changed', he', hcurrent, hhosts⟩ :=
      Epochs.order_congr h.current (h.hosts hs) he
    refine ⟨{ t' with epochs := epochs' }, changed', ?_, ?_⟩
    · rw [orderFor_ordered hs, he']
      rfl
    · exact ⟨h.source, h.staged', h.staged, h.progress, hcurrent, fun _ => hhosts⟩

theorem trackRow_matches {t t' : Tracker} (h : t'.Matches seen s.ordered t) (header : Header)
    (table : TableId) (d : Delivery) (now : Instant) :
    (trackRow t' header table { d with now }).Matches true s.ordered (trackRow t header table d) ∧
      (trackRow t' header table { d with now }).source = (trackRow t header table d).source := by
  have hsource : (trackRow t' header table { d with now }).source =
      (trackRow t header table d).source := by
    obtain ⟨time, hsource⟩ := h.source
    rw [trackRow_eq h.staged', trackRow_eq h.staged, hsource]
    cases seen <;> rfl
  refine ⟨⟨⟨_, hsource⟩, ?_, ?_, ?_, ?_, ?_⟩, hsource⟩
  · rw [trackRow_eq h.staged']
  · rw [trackRow_eq h.staged]
  · rw [trackRow_eq h.staged', trackRow_eq h.staged, h.progress]
  · rw [trackRow_eq h.staged', trackRow_eq h.staged]
    exact h.current
  · rw [trackRow_eq h.staged', trackRow_eq h.staged]
    exact h.hosts

/-- What is taken by both sessions is seen alike as soon as the events agree. -/
theorem Takes.repeats {sink' : Sink} {p₁' : Processor} {d' : Delivery} {o' : Outcome} {after : Bool}
    (ht : Takes s sink p d p₁ o) (ht' : Takes s sink' p' d' p₁' o')
    (hd : d'.message = d.message) (hp : p'.tracker.Matches seen s.ordered p.tracker)
    (hp₁ : p₁'.tracker.Matches after s.ordered p₁.tracker) (hrow : o'.row = o.row)
    (hevent : p₁'.tracker.source = p₁.tracker.source.known after →
      o'.event.map Event.untimed = o.event.map fun e => (e.known seen).untimed) :
    o'.Repeats seen o := by
  obtain ⟨-, -, hend⟩ := ht.position hp.staged
  obtain ⟨-, -, hend'⟩ := ht'.position hp.staged'
  have htime : p₁'.tracker.source.time = p₁.tracker.source.time := by rw [hend', hend, hd]
  refine ⟨ht'.result, hevent (hp₁.source_eq htime), hrow, ?_⟩
  rw [ht'.published, ht.published, hp₁.stored_eq htime]

/-- A message taken by the session that went on is taken by the resumed one too. -/
theorem Takes.repeated (ht : Takes s sink p d p₁ o)
    (hp : p'.tracker.Matches seen s.ordered p.tracker) (now : Instant) :
    ∃ p₁' o', Takes s Sink.open p' { d with now } p₁' o' ∧
      p₁'.tracker.Matches (seen || d.isRow) s.ordered p₁.tracker ∧ o'.Repeats seen o := by
  have htaken := ht
  cases ht with
  | @begin h vgtid last _ id rotated ordered begun moved changed order hid hrotate horder hbegun
      hsink =>
    rcases hrotate' : p'.tracker.rotate vgtid h.commitTime with ⟨rotated', moved'⟩
    have hrotated := hp.rotate vgtid h.commitTime
    rw [hrotate, hrotate'] at hrotated
    obtain ⟨ordered', changed', horder', hordered⟩ := orderFor_matches hrotated horder
    have htakes : Takes s Sink.open p' ⟨.begin h, vgtid, last, now⟩ _ _ :=
      .begin hid hrotate' horder' rfl rfl
    have hbegun' : (ordered'.begin (some id) order).Matches seen s.ordered begun := by
      subst hbegun
      exact ⟨hordered.source, hordered.staged', hordered.staged, rfl, hordered.current,
        hordered.hosts⟩
    refine ⟨_, _, htakes, by simpa [Delivery.isRow] using hbegun',
      htaken.repeats htakes rfl hp hbegun' rfl fun hsource => ?_⟩
    simpa [Event.known, Event.untimed] using hsource
  | @commit h vgtid last _ rotated moved hrotate hsink =>
    rcases hrotate' : p'.tracker.rotate vgtid h.commitTime with ⟨rotated', moved'⟩
    have hrotated := hp.rotate vgtid h.commitTime
    rw [hrotate, hrotate'] at hrotated
    have htakes : Takes s Sink.open p' ⟨.commit h, vgtid, last, now⟩ _ _ := .commit hrotate' rfl
    have hfinished : rotated'.finish.Matches seen s.ordered rotated.finish :=
      ⟨hrotated.source, hrotated.staged', hrotated.staged, rfl, hrotated.current, hrotated.hosts⟩
    refine ⟨_, _, htakes, by simpa [Delivery.isRow] using hfinished,
      htaken.repeats htakes rfl hp hfinished rfl fun hsource => ?_⟩
    have hprogress : rotated'.progress = rotated.progress := hrotated.progress
    simpa [Event.known, Event.untimed, Tracker.finish, hprogress] using hsource
  | @control m vgtid last before rotated moved hm hrotate =>
    rcases hrotate' : p'.tracker.rotate vgtid m.header.commitTime with ⟨rotated', moved'⟩
    have hrotated := hp.rotate vgtid m.header.commitTime
    rw [hrotate, hrotate'] at hrotated
    have htakes : Takes s Sink.open p' ⟨m, vgtid, last, now⟩ _ _ := .control hm hrotate'
    have hrow : Delivery.isRow ⟨m, vgtid, last, before⟩ = false := by
      cases m with
      | row => cases hm
      | _ => rfl
    exact ⟨_, _, htakes, by simpa [hrow] using hrotated,
      htaken.repeats htakes rfl hp hrotated rfl fun _ => rfl⟩
  | @row h c vgtid last before table tracked htable htracked hsink =>
    obtain ⟨htracked', hsource⟩ := trackRow_matches hp h table ⟨.row h c, vgtid, last, before⟩ now
    have htakes : Takes s Sink.open p' ⟨.row h c, vgtid, last, now⟩ _ _ := .row htable rfl rfl
    subst htracked
    refine ⟨_, _, htakes, by simpa [Delivery.isRow] using htracked',
      htaken.repeats htakes rfl hp htracked' rfl fun _ => ?_⟩
    simp [Event.known, Event.untimed, recordOf, Tracker.block, hsource, htracked'.progress]

theorem Takes.names (ht : Takes s sink p d p₁ o) (hp : p.tracker.staged = .none) :
    p₁.tracker.source.serverName = p.tracker.source.serverName ∧
      p₁.tracker.source.keyspace = p.tracker.source.keyspace := by
  cases ht with
  | begin hid hrotate horder hbegun hsink =>
    obtain ⟨epochs, rfl⟩ := orderFor_ok horder
    cases hrotate
    subst hbegun
    exact ⟨rfl, rfl⟩
  | commit hrotate hsink =>
    cases hrotate
    exact ⟨rfl, rfl⟩
  | control hm hrotate =>
    cases hrotate
    exact ⟨rfl, rfl⟩
  | row htable htracked hsink =>
    rw [trackRow_eq hp] at htracked
    subst htracked
    exact ⟨rfl, rfl⟩

/-- A commit leaves nothing in progress, and a control message leaves it at that. -/
theorem Takes.nothing_open (ht : Takes s sink p d p₁ o) {past : History}
    (hp : past.endsWithCommit = true → p.tracker.progress = .none)
    (hend : History.endsWithCommit (past ++ [d]) = true) : p₁.tracker.progress = .none := by
  rw [History.endsWithCommit_concat] at hend
  cases ht with
  | begin => cases hend
  | commit => rfl
  | control hm hrotate =>
    rw [if_pos hm] at hend
    cases hrotate
    exact hp hend
  | row => cases hend

end Processor

namespace Sample

def later : Instant := ⟨1, 0, by decide, by decide, by decide⟩

/-- The transaction after the one of the sample. -/
def nextTransaction (now : Instant) : List Delivery :=
  [begin "a:1-6" "a:1-5", row "orders" "a:1-6" true, commit "a:1-6"].map fun d => { d with now }

end Sample

namespace Worker

variable {s : Setup} {pipeline : Pipeline} {w w' : Worker} {seen : Bool}

theorem repeats_outcomes (hw : w'.processor.tracker.Matches seen s.ordered w.processor.tracker)
    (hphase : w'.processor.phase ≠ .failed) {ds again : List Delivery}
    (hds : w.Accepts s pipeline ds)
    (hagain : again.map Delivery.untimed = ds.map Delivery.untimed) :
    Repeats seen ds (w'.outcomes s (fun _ => Sink.open) again) (w.outcomes s pipeline ds) := by
  -- both sessions and what has been seen change with each message
  induction ds generalizing w w' seen again with
  | nil =>
    obtain rfl := List.map_eq_nil_iff.1 hagain
    exact .nil
  | cons d ds ih =>
    obtain ⟨d', again, rfl, hd, hagain⟩ := List.map_eq_cons_iff.1 hagain
    obtain ⟨hresult, hds⟩ := accepts_cons.1 hds
    obtain ⟨htakes, -⟩ := takes_of_step (Prod.eta _).symm hresult
    obtain ⟨p', o', htakes', hmatches, hrepeats⟩ := htakes.repeated hw d'.now
    have hprocess := htakes'.process hphase
    rw [← Delivery.eq_of_untimed hd] at hprocess
    have hstep : w'.step s (fun _ => Sink.open) d' = (⟨p', w'.journal.add o'⟩, o') := by
      rw [step, hprocess]
    rw [outcomes, outcomes, hstep]
    exact .cons hrepeats (ih hmatches (htakes'.phase_ne_failed hphase) hds hagain)

theorem Accepts.names (hw : w.processor.tracker.staged = .none) {ds : List Delivery}
    (hds : w.Accepts s pipeline ds) :
    (w.run s pipeline ds).processor.tracker.source.serverName =
        w.processor.tracker.source.serverName ∧
      (w.run s pipeline ds).processor.tracker.source.keyspace =
        w.processor.tracker.source.keyspace := by
  refine (hds.induction (motive := fun _ v => v.processor.tracker.staged = .none ∧
    v.processor.tracker.source.serverName = w.processor.tracker.source.serverName ∧
    v.processor.tracker.source.keyspace = w.processor.tracker.source.keyspace)
    ⟨hw, rfl, rfl⟩ ?_).2
  rintro past v v' d o htakes - ⟨hstaged, hserver, hkeyspace⟩
  obtain ⟨hserver', hkeyspace'⟩ := htakes.names hstaged
  exact ⟨(htakes.position hstaged).1, hserver'.trans hserver, hkeyspace'.trans hkeyspace⟩

/-- After a commit nothing is open, and the offset to go on from has been published. -/
theorem Accepts.after_commit {xs : List Delivery} (hxs : w.Accepts s pipeline xs)
    (hend : History.endsWithCommit xs = true) :
    (w.run s pipeline xs).processor.tracker.progress = .none ∧
      (w.run s pipeline xs).journal.published.getLast? =
        some (w.run s pipeline xs).processor.tracker.stored := by
  refine hxs.induction (motive := fun past v => History.endsWithCommit past = true →
    v.processor.tracker.progress = .none ∧
      v.journal.published.getLast? = some v.processor.tracker.stored) nofun ?_ hend
  intro past v v' d o htakes hjournal ih hpast
  exact ⟨htakes.nothing_open (fun h => (ih h).1) hpast, getLast?_published htakes hjournal⟩

/-- A session that stopped after a commit goes on from its stored offset. The offset is read back as
it was stored, the session starts, and whatever comes then is taken as it would have been taken
without the stop: the events tell the same, apart from the time of handling and from the row that
the boundaries before the first row cannot name, and the same offsets are published. If orders are
asked for, this needs that the hosts of the last transaction of each shard are those that the stored
position names for it. -/
theorem resumption_is_invisible (s : Setup) (pipeline : Pipeline) (c : Config) {t : Tracker}
    (ht : t.IsStartOf c) {xs ys again : List Delivery}
    (hds : (Worker.start t).Accepts s pipeline (xs ++ ys))
    (hend : History.endsWithCommit xs = true) {stored : StoredOffset}
    (hstored : ((Worker.start t).run s pipeline xs).journal.published.getLast? = some stored)
    (hvgtid : stored.vgtid.isEmpty = false)
    (htime : (Instant.ofMicros? stored.micros.toInt).isSome = true)
    (hhosts : s.ordered = true → ∀ shard,
      ((Worker.start t).run s pipeline xs).processor.tracker.epochs.hosts? shard =
        (stored.vgtid.lastSet? shard).map (·.hosts.keys))
    (hagain : again.map Delivery.untimed = ys.map Delivery.untimed) :
    StoredOffset.parse stored.text = .ok stored ∧
      ∃ resumed notices, Tracker.load c stored = .ok (resumed, notices) ∧
        Repeats false ys ((Worker.start resumed).outcomes s (fun _ => Sink.open) again)
          (((Worker.start t).run s pipeline xs).outcomes s pipeline ys) := by
  refine ⟨StoredOffset.parse_text hvgtid, ?_⟩
  obtain ⟨hxs, hys⟩ := accepts_append.1 hds
  have hstart : (Worker.start t).processor.tracker.staged = .none := ht.isStart.staged
  obtain ⟨hprogress, hlast⟩ := hxs.after_commit hend
  obtain ⟨hstaged, -, -⟩ := hxs.position hstart
  obtain ⟨hserver, hkeyspace⟩ := hxs.names hstart
  rw [hstored] at hlast
  obtain rfl := Option.some.inj hlast
  obtain ⟨resumed, notices, hload⟩ := Tracker.load_of_time c hvgtid htime
  have hmatches : (Worker.start resumed).processor.tracker.Matches false s.ordered
      ((Worker.start t).run s pipeline xs).processor.tracker :=
    Tracker.matches_of_load hload (hserver.trans ht.names.1) (hkeyspace.trans ht.names.2) hstaged
      hprogress hhosts
  exact ⟨resumed, notices, hload, repeats_outcomes hmatches nofun hys hagain⟩

/-- After the sample, the hosts seen on each shard are those of the position. -/
theorem hosts_after_sample (shard : String) :
    (Sample.start.run Sample.setup Sample.pipeline
      Sample.transaction).processor.tracker.epochs.hosts? shard =
        ((Sample.position "a:1-5").lastSet? shard).map (·.hosts.keys) := by
  have hseen : (Sample.start.run Sample.setup Sample.pipeline
      Sample.transaction).processor.tracker.epochs.previous.entries.map
        (fun e => (e.1, e.2.hosts.keys)) = [("-80", ["a"])] := by
    decide +kernel
  have hfind := KeyMap.find_map (fun set : GtidSet => set.hosts.keys) shard
    (Sample.start.run Sample.setup Sample.pipeline
      Sample.transaction).processor.tracker.epochs.previous.entries
  rw [hseen] at hfind
  rw [Epochs.hosts?, KeyMap.get?, ← hfind]
  by_cases hshard : shard = "-80"
  · subst hshard
    decide +kernel
  · simp [KeyMap.find, hshard, Vgtid.lastSet?, Sample.position, Ne.symm hshard]

theorem resumed_after_commit :
    ∃ stored resumed notices,
      (Sample.start.run Sample.setup Sample.pipeline
        Sample.transaction).journal.published.getLast? = some stored ∧
      StoredOffset.parse stored.text = .ok stored ∧
      Tracker.load .standard stored = .ok (resumed, notices) ∧
      Repeats false (Sample.nextTransaction default)
        ((Worker.start resumed).outcomes Sample.setup (fun _ => Sink.open)
          (Sample.nextTransaction Sample.later))
        ((Sample.start.run Sample.setup Sample.pipeline Sample.transaction).outcomes Sample.setup
          Sample.pipeline (Sample.nextTransaction default)) := by
  have hds : Sample.start.Accepts Sample.setup Sample.pipeline
      (Sample.transaction ++ Sample.nextTransaction default) := by
    decide +kernel
  have hend : History.endsWithCommit Sample.transaction = true := by decide +kernel
  obtain ⟨-, hstored⟩ := (accepts_append.1 hds).1.after_commit hend
  have hvgtid : (Sample.start.run Sample.setup Sample.pipeline
      Sample.transaction).processor.tracker.stored.vgtid = Sample.position "a:1-5" := by
    decide +kernel
  have htime : (Instant.ofMicros? (Sample.start.run Sample.setup Sample.pipeline
      Sample.transaction).processor.tracker.stored.micros.toInt).isSome = true := by
    decide +kernel
  have hagain : (Sample.nextTransaction Sample.later).map Delivery.untimed =
      (Sample.nextTransaction default).map Delivery.untimed := rfl
  obtain ⟨hread, resumed, notices, hload, hrepeats⟩ :=
    resumption_is_invisible Sample.setup Sample.pipeline .standard (.initial default) hds hend
      hstored (by rw [hvgtid]; rfl) htime
      (fun _ shard => by rw [hvgtid]; exact hosts_after_sample shard) hagain
  exact ⟨_, resumed, notices, hstored, hread, hload, hrepeats⟩

end Worker

end ShardStream

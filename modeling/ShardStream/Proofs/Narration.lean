import ShardStream.Proofs.History
import ShardStream.Proofs.Position

/-! # Which events are handed over

Each begin, commit and row is told by one event, control messages by none. What an event says about
its transaction depends on the messages before it: a row belongs to the transaction of the latest
begin if no commit came after it, and is numbered from that begin on. Begins and commits need not
come in pairs. Counts have 64 bits.
-/
namespace ShardStream

/-- A record describes a change of a row of a table, after the messages before it. -/
structure ChangeRecord.Describes (r : ChangeRecord) (past : History) (d : Delivery) (h : Header)
    (c : RowChange) (t : TableId) : Prop where
  table : r.table = t
  sourceTable : r.source.table = some t
  sourceShard : r.source.shard = some h.shard
  op : r.op = c.op
  before : r.before = c.before
  after : r.after = c.after
  hasBlock : r.transaction.isSome = past.isOpen
  block : ∀ b, r.transaction = some b → some b.id = past.openId? ∧
    b.totalOrder = (History.rows (past ++ [d])).length.toUInt64 ∧
    b.tableOrder = (History.rowsOf (past ++ [d]) t).toUInt64

/-- The event that a message calls for after the messages before it. -/
inductive Tells (s : Setup) (past : History) : Delivery → Option Event → Prop
  | begin {h : Header} {vgtid : Vgtid} {last : Bool} {now : Instant} {id : String}
      {order : Option TransactionOrder} {source : Source}
      (hid : Delivery.opens? ⟨.begin h, vgtid, last, now⟩ = some id) :
      Tells s past ⟨.begin h, vgtid, last, now⟩
        (some (.started s.partition ⟨id, h.shard, order⟩ source h.commitTime))
  | commit {h : Header} {vgtid : Vgtid} {last : Bool} {now : Instant} {source : Source} :
      Tells s past ⟨.commit h, vgtid, last, now⟩
        (some (.committed s.partition past.openId? past.rows.length.toUInt64 source h.commitTime))
  | control {d : Delivery} (hd : d.message.isControl = true) : Tells s past d none
  | row {h : Header} {c : RowChange} {vgtid : Vgtid} {last : Bool} {now : Instant} {table : TableId}
      {record : ChangeRecord} (htable : TableId.resolve? h.keyspace c.table = some table)
      (hrecord : record.Describes past ⟨.row h c, vgtid, last, now⟩ h c table) :
      Tells s past ⟨.row h c, vgtid, last, now⟩ (some (.changed s.partition table record))

/-- The events that a list of messages calls for, in the order of the messages. -/
inductive Narrates (s : Setup) : History → List Event → Prop
  | nil : Narrates s [] []
  | concat {past : History} {events : List Event} {d : Delivery} {e : Option Event}
      (hpast : Narrates s past events) (hd : Tells s past d e) :
      Narrates s (past ++ [d]) (events ++ e.toList)

theorem Tells.row_inv {s : Setup} {past : History} {h : Header} {c : RowChange} {vgtid : Vgtid}
    {last : Bool} {now : Instant} {e : Option Event}
    (he : Tells s past ⟨.row h c, vgtid, last, now⟩ e) :
    ∃ table record, TableId.resolve? h.keyspace c.table = some table ∧
      record.Describes past ⟨.row h c, vgtid, last, now⟩ h c table ∧
      e = some (.changed s.partition table record) := by
  cases he with
  | control hd => cases hd
  | row htable hrecord => exact ⟨_, _, htable, hrecord, rfl⟩

/-- What a message calls for after the messages before it is among the events. -/
theorem Narrates.exists_tells {s : Setup} {ds past rest : List Delivery} {d : Delivery}
    {events : List Event} (h : Narrates s ds events) (hds : ds = past ++ d :: rest) :
    ∃ e, Tells s past d e ∧ e.toList ⊆ events := by
  induction h generalizing rest with
  | nil => simp at hds
  | @concat before events d' e hbefore hd ih =>
    rcases List.eq_nil_or_concat rest with rfl | ⟨rest, last, rfl⟩
    · obtain ⟨rfl, hlast⟩ := List.append_inj' hds rfl
      cases hlast
      exact ⟨e, hd, List.subset_append_right _ _⟩
    · have hsplit : before ++ [d'] = (past ++ d :: rest) ++ [last] := by
        rw [hds, List.concat_eq_append, List.append_assoc, List.cons_append]
      obtain ⟨hbefore, -⟩ := List.append_inj' hsplit rfl
      obtain ⟨told, htells, hmem⟩ := ih hbefore
      exact ⟨told, htells, List.subset_append_of_subset_left _ hmem⟩

namespace Processor

variable {s : Setup} {sink : Sink} {p p' : Processor} {d : Delivery} {o : Outcome} {past : History}

theorem describes_recordOf {t : Tracker} {h : Header} {c : RowChange} {table : TableId}
    {now : Instant}
    (hsource : t.source.table = some table) (hshard : t.source.shard = some h.shard)
    (hopen : t.progress.transactionId.isSome = past.isOpen)
    (hid : t.progress.transactionId = past.openId?)
    (ht : t.progress.Reflects (past ++ [d])) :
    (recordOf t table c now).Describes past d h c table where
  table := rfl
  sourceTable := hsource
  sourceShard := hshard
  op := rfl
  before := rfl
  after := rfl
  hasBlock := by simp [recordOf, Tracker.block, hopen]
  block b hb := by
    obtain ⟨id, hsome, rfl⟩ := Option.map_eq_some_iff.1 hb
    exact ⟨by rw [← hid, hsome], by rw [ht.rows], by rw [ht.tableRows]⟩

/-- A message taken is told by the event it calls for, and the progress stays what the messages
say about it. -/
theorem Takes.tells (ht : Takes s sink p d p' o) (hstaged : p.tracker.staged = .none)
    (hp : p.tracker.progress.Reflects past) :
    Tells s past d o.event ∧ p'.tracker.progress.Reflects (past ++ [d]) := by
  cases ht with
  | @begin h vgtid last now id rotated ordered begun moved changed order hid hrotate horder hbegun
      hsink =>
    rw [beginId?_eq_opens? h vgtid last now] at hid
    subst hbegun
    exact ⟨.begin hid, .concat_begin rfl hid order⟩
  | commit hrotate hsink =>
    cases hrotate
    have hid : p.tracker.progress.transactionId = past.openId? := hp.id
    have hrows : p.tracker.progress.rows = past.rows.length := hp.rows
    refine ⟨?_, .concat_commit rfl⟩
    simp only [hid, hrows]
    exact .commit
  | control hm hrotate =>
    cases hrotate
    exact ⟨.control hm, hp.concat_control hm⟩
  | @row h c vgtid last now table tracked htable htracked hsink =>
    have hadd := hp.concat_row (d := ⟨.row h c, vgtid, last, now⟩) rfl htable
    rw [trackRow_eq hstaged] at htracked
    subst htracked
    exact ⟨.row htable (describes_recordOf rfl rfl hp.isOpen hp.id hadd), hadd⟩

end Processor

/-- A row outside of transactions, a begin within a transaction and a commit after a commit. -/
def Sample.unpaired : List Delivery :=
  [row "orders" "a:1-9" true, begin "a:1-5" "a:1-4", row "orders" "a:1-9" false,
    begin "a:1-6" "a:1-5", row "orders" "a:1-9" false, row "commerce.orders" "a:1-6" true,
    commit "a:1-6", commit "a:1-6"]

namespace Worker

variable {s : Setup} {pipeline : Pipeline}

/-- Whatever the messages of an accepted run are, the events handed over are those that the
messages call for. -/
theorem narrates_journal (s : Setup) (pipeline : Pipeline) {t : Tracker} (ht : t.IsStart)
    {ds : List Delivery} (hds : (Worker.start t).Accepts s pipeline ds) :
    Narrates s ds ((Worker.start t).run s pipeline ds).journal.events := by
  have hstart : t.progress.Reflects [] := by
    rw [ht.progress]
    exact .nil
  suffices h : ((Worker.start t).run s pipeline ds).processor.tracker.staged = .none ∧
      ((Worker.start t).run s pipeline ds).processor.tracker.progress.Reflects ds ∧
      Narrates s ds ((Worker.start t).run s pipeline ds).journal.events from h.2.2
  refine hds.induction (motive := fun past v => v.processor.tracker.staged = .none ∧
    v.processor.tracker.progress.Reflects past ∧ Narrates s past v.journal.events)
    ⟨ht.staged, hstart, .nil⟩ ?_
  rintro past v v' d o htakes hjournal ⟨hstaged, hprogress, hnarrates⟩
  obtain ⟨htells, hprogress'⟩ := htakes.tells hstaged hprogress
  refine ⟨(htakes.position hstaged).1, hprogress', ?_⟩
  rw [hjournal]
  exact .concat hnarrates htells

/-- The last row names its table with the keyspace, the one before it without. Both count for the
same table and from the second begin on. -/
theorem narrates_unpaired :
    let events := (Sample.start.run Sample.setup Sample.pipeline Sample.unpaired).journal.events
    Sample.start.Accepts Sample.setup Sample.pipeline Sample.unpaired ∧
      Narrates Sample.setup Sample.unpaired events ∧
      ∃ record block, .changed ⟨"vitess"⟩ ⟨some "commerce", "orders"⟩ record ∈ events ∧
        record.transaction = some block ∧ block.id = "a:1-6" ∧ block.totalOrder = 2 ∧
        block.tableOrder = 2 := by
  intro events
  have hds : Sample.start.Accepts Sample.setup Sample.pipeline Sample.unpaired := by
    decide +kernel
  have hnarrates : Narrates Sample.setup Sample.unpaired events :=
    narrates_journal Sample.setup Sample.pipeline (.initial .standard default) hds
  have hsplit : Sample.unpaired = Sample.unpaired.take 5 ++
      Sample.row "commerce.orders" "a:1-6" true :: Sample.unpaired.drop 6 := rfl
  obtain ⟨e, htells, hmem⟩ := hnarrates.exists_tells hsplit
  obtain ⟨table, record, htable, hrecord, rfl⟩ := htells.row_inv
  have horders : table = ⟨some "commerce", "orders"⟩ := by
    have hresolve : TableId.resolve? "commerce" "commerce.orders" =
        some ⟨some "commerce", "orders"⟩ := by decide +kernel
    exact Option.some.inj (htable.symm.trans hresolve)
  subst horders
  have hopen : record.transaction.isSome = true := hrecord.hasBlock.trans (by decide +kernel)
  obtain ⟨block, hblock⟩ := Option.isSome_iff_exists.1 hopen
  obtain ⟨hid, htotal, hcount⟩ := hrecord.block block hblock
  have hopened : History.openId? (Sample.unpaired.take 5) = some "a:1-6" := by decide +kernel
  refine ⟨hds, hnarrates, record, block, hmem (by simp [Sample.setup]), hblock,
    Option.some.inj (hid.trans hopened), htotal.trans (by decide +kernel),
    hcount.trans (by decide +kernel)⟩

end Worker

end ShardStream

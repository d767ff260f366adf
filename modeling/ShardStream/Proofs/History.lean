import Mathlib.Data.List.DropRight
import ShardStream.Proofs.Processing

/-! # What a list of messages says about transactions

A boundary, that is a begin or a commit, ends what came before it. Which transaction is open after
a list of messages, and how many rows it has, depends only on the latest boundary and on the rows
after it.
-/
namespace ShardStream

namespace Delivery

def isBegin (d : Delivery) : Bool :=
  match d.message with
  | .begin _ => true
  | _ => false

def isRow (d : Delivery) : Bool :=
  match d.message with
  | .row _ _ => true
  | _ => false

theorem isBegin_of_isRow {d : Delivery} (hd : d.isRow = true) : d.isBegin = false := by
  obtain ⟨m, vgtid, last, now⟩ := d
  cases m with
  | row => rfl
  | _ => cases hd

/-- The identifier of the transaction that the message opens: the one in its header, or else the
GTID of its shard in the position that comes with it. -/
def opens? (d : Delivery) : Option String :=
  match d.message with
  | .begin h => h.transactionId.or ((d.vgtid.get? h.keyspace h.shard).map (·.gtid))
  | _ => none

def table? (d : Delivery) : Option TableId :=
  match d.message with
  | .row h c => TableId.resolve? h.keyspace c.table
  | _ => none

end Delivery

namespace Processor

theorem beginId?_eq_opens? (h : Header) (vgtid : Vgtid) (last : Bool) (now : Instant) :
    beginId? h vgtid = Delivery.opens? ⟨.begin h, vgtid, last, now⟩ := by
  unfold beginId? Delivery.opens?
  cases hid : h.transactionId <;> simp [hid]

end Processor

/-- Messages in the order in which they came. -/
abbrev History := List Delivery

namespace History

def latestBoundary? (past : History) : Option Delivery :=
  past.reverse.find? fun d => d.message.isBoundary

def isOpen (past : History) : Bool := past.latestBoundary?.any (·.isBegin)

def openId? (past : History) : Option String := past.latestBoundary?.bind (·.opens?)

/-- The rows after the latest boundary, or all of them if there is no boundary. -/
def rows (past : History) : List Delivery :=
  (past.rtakeWhile fun d => !d.message.isBoundary).filter (·.isRow)

def rowsOf (past : History) (table : TableId) : Nat := past.rows.countP (·.table? = some table)

variable {past : History} {d : Delivery}

theorem latestBoundary?_concat (past : History) (d : Delivery) :
    latestBoundary? (past ++ [d]) =
      if d.message.isBoundary then some d else latestBoundary? past := by
  cases hd : d.message.isBoundary <;> simp [latestBoundary?, hd]

theorem rows_concat_boundary (past : History) (hd : d.message.isBoundary = true) :
    rows (past ++ [d]) = [] := by
  simp [rows, hd]

theorem rows_concat (past : History) (hd : d.message.isBoundary = false) :
    rows (past ++ [d]) = past.rows ++ [d].filter (·.isRow) := by
  simp [rows, hd]

theorem openId?_concat_boundary (hd : d.message.isBoundary = true) :
    openId? (past ++ [d]) = d.opens? := by
  simp [openId?, latestBoundary?_concat, hd]

theorem isOpen_concat_boundary (hd : d.message.isBoundary = true) :
    isOpen (past ++ [d]) = d.isBegin := by
  simp [isOpen, latestBoundary?_concat, hd]

theorem openId?_concat (hd : d.message.isBoundary = false) :
    openId? (past ++ [d]) = past.openId? := by
  simp [openId?, latestBoundary?_concat, hd]

theorem isOpen_concat (hd : d.message.isBoundary = false) :
    isOpen (past ++ [d]) = past.isOpen := by
  simp [isOpen, latestBoundary?_concat, hd]

end History

/-- The progress of a transaction is what the messages so far say about it. -/
structure Progress.Reflects (p : Progress) (past : History) : Prop where
  id : p.transactionId = past.openId?
  isOpen : p.transactionId.isSome = past.isOpen
  rows : p.rows = past.rows.length
  tableRows : ∀ table, p.tableRows.count table = past.rowsOf table

namespace Progress.Reflects

variable {p : Progress} {past : History} {d : Delivery}

theorem nil : Progress.none.Reflects [] := ⟨rfl, rfl, rfl, fun _ => rfl⟩

theorem concat_boundary (hb : d.message.isBoundary = true) (hid : p.transactionId = d.opens?)
    (hopen : p.transactionId.isSome = d.isBegin) (hrows : p.rows = 0)
    (htableRows : p.tableRows = .empty) : p.Reflects (past ++ [d]) := by
  have hnone := History.rows_concat_boundary past hb
  refine ⟨?_, ?_, ?_, fun table => ?_⟩
  · rw [History.openId?_concat_boundary hb, hid]
  · rw [History.isOpen_concat_boundary hb, hopen]
  · rw [hnone, hrows]
    rfl
  · rw [History.rowsOf, hnone, htableRows]
    rfl

theorem concat_inner {q : Progress} (hb : d.message.isBoundary = false) (hp : p.Reflects past)
    (hid : q.transactionId = p.transactionId)
    (hrows : q.rows = p.rows + ([d].filter (·.isRow)).length)
    (htableRows : ∀ table, q.tableRows.count table =
      p.tableRows.count table + ([d].filter (·.isRow)).countP (·.table? = some table)) :
    q.Reflects (past ++ [d]) := by
  have hmore := History.rows_concat past hb
  refine ⟨?_, ?_, ?_, fun table => ?_⟩
  · rw [History.openId?_concat hb, hid, hp.id]
  · rw [History.isOpen_concat hb, hid, hp.isOpen]
  · rw [hmore, List.length_append, hrows, hp.rows]
  · rw [History.rowsOf, hmore, List.countP_append, htableRows, hp.tableRows, History.rowsOf]

/-- A begin opens a transaction without rows, whatever was open before. -/
theorem concat_begin {h : Header} {id : String} (hd : d.message = .begin h)
    (hid : d.opens? = some id) (order : Option TransactionOrder) :
    (Progress.begin (some id) order).Reflects (past ++ [d]) := by
  have hb : d.message.isBoundary = true := by rw [hd]; rfl
  have hbegin : d.isBegin = true := by simp [Delivery.isBegin, hd]
  exact concat_boundary hb hid.symm hbegin.symm rfl rfl

/-- A commit leaves nothing open, whether or not anything was. -/
theorem concat_commit {h : Header} (hd : d.message = .commit h) :
    Progress.none.Reflects (past ++ [d]) := by
  have hb : d.message.isBoundary = true := by rw [hd]; rfl
  have hid : d.opens? = .none := by simp [Delivery.opens?, hd]
  have hbegin : d.isBegin = false := by simp [Delivery.isBegin, hd]
  exact concat_boundary hb hid.symm hbegin.symm rfl rfl

theorem concat_control (hd : d.message.isControl = true) (hp : p.Reflects past) :
    p.Reflects (past ++ [d]) := by
  have hb : d.message.isBoundary = false := by
    cases hm : d.message <;> simp_all [Message.isControl, Message.isBoundary]
  have hrow : d.isRow = false := by
    cases hm : d.message <;> simp_all [Message.isControl, Delivery.isRow]
  exact concat_inner hb hp rfl (by simp [hrow]) (by simp [hrow])

theorem concat_row {h : Header} {c : RowChange} {table : TableId} (hd : d.message = .row h c)
    (htable : d.table? = some table) (hp : p.Reflects past) :
    (p.addRow table).Reflects (past ++ [d]) := by
  have hb : d.message.isBoundary = false := by rw [hd]; rfl
  have hrow : d.isRow = true := by simp [Delivery.isRow, hd]
  refine concat_inner hb hp rfl (by simp [hrow, Progress.addRow]) fun other => ?_
  have hcount : (p.addRow table).tableRows.count other =
      p.tableRows.count other + if other = table then 1 else 0 := Tally.count_add _ _ _
  rw [hcount]
  simp [hrow, htable, eq_comm]

end Progress.Reflects

end ShardStream

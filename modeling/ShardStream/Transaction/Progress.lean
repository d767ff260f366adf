import ShardStream.Transaction.Order
import ShardStream.TableId
import ShardStream.Tally

/-! # Progress inside a transaction

Rows are numbered from the last boundary of a transaction, all together and table by table. Rows
outside a transaction are numbered in the same way, without an identifier to go with the number.
-/
namespace ShardStream

structure Progress where
  transactionId : Option String
  order : Option TransactionOrder
  rows : Nat
  tableRows : Tally TableId
  deriving Repr

namespace Progress

def none : Progress := ⟨.none, .none, 0, .empty⟩

instance : Inhabited Progress := ⟨none⟩

def begin (id : Option String) (order : Option TransactionOrder) : Progress :=
  ⟨id, order, 0, .empty⟩

def addRow (p : Progress) (t : TableId) : Progress :=
  { p with rows := p.rows + 1, tableRows := p.tableRows.add t }

def isOpen (p : Progress) : Bool := p.transactionId.isSome

end Progress

end ShardStream

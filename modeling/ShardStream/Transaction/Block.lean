import ShardStream.Transaction.Order

/-! # What events say about their transaction -/
namespace ShardStream

/-- A transaction as announced at its start. -/
structure TransactionInfo where
  transactionId : String
  shard : String
  order : Option TransactionOrder
  deriving DecidableEq, Repr, Inhabited

def TransactionInfo.format : Json.Format TransactionInfo :=
  (((Json.Record.required "transaction_id" .text).and
    ((Json.Record.required "shard" .text).and (.optional "order" TransactionOrder.format))).imap
    (fun p => ⟨p.1, p.2.1, p.2.2⟩) (fun t => (t.transactionId, t.shard, t.order))).format

/-- The place of a row in its transaction, among all rows and among those of its table. Both are
counted from 1. -/
structure TransactionBlock where
  id : String
  totalOrder : UInt64
  tableOrder : UInt64
  order : Option TransactionOrder
  deriving DecidableEq, Repr, Inhabited

def TransactionBlock.format : Json.Format TransactionBlock :=
  (((Json.Record.required "id" .text).and
    ((Json.Record.required "total_order" .uint64).and
      ((Json.Record.required "data_collection_order" .uint64).and
        (.optional "order" TransactionOrder.format)))).imap
    (fun p => ⟨p.1, p.2.1, p.2.2.1, p.2.2.2⟩)
    (fun b => (b.id, b.totalOrder, b.tableOrder, b.order))).format

end ShardStream

import ShardStream.Rank

/-! # The order of transactions

Transactions are ordered by epoch first and by rank within an epoch.
-/
namespace ShardStream

structure TransactionOrder where
  epoch : UInt64
  rank : Rank
  deriving DecidableEq, Repr, Inhabited

namespace TransactionOrder

def lt (a b : TransactionOrder) : Prop := a.epoch < b.epoch ∨ (a.epoch = b.epoch ∧ a.rank < b.rank)

instance : LT TransactionOrder := ⟨lt⟩

instance : LE TransactionOrder := ⟨fun a b => a < b ∨ a = b⟩

instance (a b : TransactionOrder) : Decidable (a < b) :=
  inferInstanceAs (Decidable (a.epoch < b.epoch ∨ (a.epoch = b.epoch ∧ a.rank < b.rank)))

instance (a b : TransactionOrder) : Decidable (a ≤ b) :=
  inferInstanceAs (Decidable (a < b ∨ a = b))

def format : Json.Format TransactionOrder :=
  (((Json.Record.required "epoch" .uint64).and (.required "rank" Rank.format)).imap
    (fun p => ⟨p.1, p.2⟩) (fun o => (o.epoch, o.rank))).format

end TransactionOrder

end ShardStream

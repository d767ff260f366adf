import ShardStream.Gtid.Parse

/-! # Ranks of transactions

A rank is a number that grows with every commit on a shard, so transactions of one shard can be
compared without knowing how it numbers them. The rank of a GTID set is the sum of the largest
sequence numbers of its hosts. Ranks have 128 bits and travel as decimal texts.
-/
namespace ShardStream

abbrev Rank := BitVec 128

/-- How transaction identifiers are ranked. -/
abbrev Ranking := String → Except Fault Rank

namespace Rank

def text (r : Rank) : String := String.ofList (Text.decimal r.toNat)

/-- The number of ranks. -/
def count : Nat := 340282366920938463463374607431768211456

def parse? (s : String) : Option Rank :=
  (Text.readBelow? count s.toList).map (BitVec.ofNat 128)

def format : Json.Format Rank := Json.Format.text.imap? parse? text

/-- The sum of the largest sequence numbers, host by host. -/
def ofSet (s : GtidSet) : Rank :=
  s.maxima.foldl (fun sum n => sum + BitVec.ofNat 128 n.toNat) 0

theorem parse?_text (r : Rank) : parse? r.text = some r := by
  have h : r.toNat < count := r.isLt
  simp [parse?, text, Text.readBelow?_decimal h]

end Rank

/-- The ranking of GTID sets. A set without transactions has no rank. -/
def gtidRanking : Ranking := fun id => do
  let s ← GtidSet.parse id
  if s.isEmpty then .error (.emptyIdentifier id) else .ok (Rank.ofSet s)

end ShardStream

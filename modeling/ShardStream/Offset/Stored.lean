import ShardStream.Vgtid

/-! # Stored offsets

What is kept between sessions, so that the next one can go on: the position, the time of the last
change, the open transaction if there was one, and the epochs of the shards.
-/
namespace ShardStream

structure StoredOffset where
  vgtid : Vgtid
  micros : Int64
  transactionId : Option String
  epochs : KeyMap UInt64
  deriving DecidableEq

namespace StoredOffset

instance : Inhabited StoredOffset := ⟨⟨default, default, none, .empty⟩⟩

def format : Json.Format StoredOffset :=
  (((Json.Record.required "vgtid" Vgtid.format).and
    ((Json.Record.required "ts_usec" .int64).and
      ((Json.Record.defaulted "transaction_id" none (.option .text)).and
        (.defaulted "shard_epochs" .empty (.keyMap .uint64))))).imap
    (fun p => ⟨p.1, p.2.1, p.2.2.1, p.2.2.2⟩)
    (fun o => (o.vgtid, o.micros, o.transactionId, o.epochs))).format

def text (o : StoredOffset) : String := (format.write o).render

/-- An offset without any position cannot be resumed from and is refused. -/
def parse (json : String) : Except Fault StoredOffset :=
  match (Json.parse json).bind format.decode with
  | none => .error .malformedJson
  | some o => if o.vgtid.isEmpty then .error (.offsetWithoutPositions json) else .ok o

end StoredOffset

end ShardStream

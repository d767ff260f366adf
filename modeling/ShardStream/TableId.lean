import ShardStream.Json.Format
import ShardStream.Text.Blank

/-! # Table identifiers

A table is named `keyspace.table` or just `table`. Blanks around the whole name do not count.
-/
namespace ShardStream

structure TableId where
  keyspace : Option String
  table : String
  deriving DecidableEq, Repr, Inhabited

namespace TableId

/-- Names with an empty part or with more than two parts identify no table. -/
def parse? (name : String) : Option TableId :=
  let parts := (Text.trim name.toList).splitOn '.'
  if parts.any (·.isEmpty) then none
  else
    match parts with
    | [table] => some ⟨none, String.ofList table⟩
    | [keyspace, table] => some ⟨some (String.ofList keyspace), String.ofList table⟩
    | _ => none

def text (t : TableId) : String :=
  match t.keyspace with
  | some keyspace => keyspace ++ "." ++ t.table
  | none => t.table

/-- A name without a keyspace is one of the given keyspace. -/
def resolve? (keyspace name : String) : Option TableId :=
  (parse? name).map fun t => { t with keyspace := some (t.keyspace.getD keyspace) }

def format : Json.Format TableId :=
  (((Json.Record.optional "keyspace" .text).and (.required "table" .text)).imap
    (fun p => ⟨p.1, p.2⟩) (fun t => (t.keyspace, t.table))).format

end TableId

end ShardStream

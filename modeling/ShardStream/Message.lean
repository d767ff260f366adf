import ShardStream.Time.Format

/-! # Replication messages

What a replication stream brings: the boundaries of transactions, the row changes inside them,
schema changes and control messages, each under a header that says where and when it was made.
-/
namespace ShardStream

inductive Operation where
  | begin | commit | ddl | other | insert | update | delete
  deriving DecidableEq, Repr, Inhabited

namespace Operation

def all : List Operation := [begin, commit, ddl, other, insert, update, delete]

def name : Operation → String
  | begin => "BEGIN"
  | commit => "COMMIT"
  | ddl => "DDL"
  | other => "OTHER"
  | insert => "INSERT"
  | update => "UPDATE"
  | delete => "DELETE"

def format : Json.Format Operation := .choice all name

end Operation

structure Header where
  keyspace : String
  shard : String
  transactionId : Option String
  commitTime : Instant
  deriving DecidableEq, Repr, Inhabited

def Header.format : Json.Format Header :=
  (((Json.Record.required "keyspace" .text).and
    ((Json.Record.required "shard" .text).and
      ((Json.Record.optional "transaction_id" .text).and
        (.required "commit_time" Instant.format)))).imap
    (fun p => ⟨p.1, p.2.1, p.2.2.1, p.2.2.2⟩)
    (fun h => (h.keyspace, h.shard, h.transactionId, h.commitTime))).format

/-- What happened to a row. -/
inductive RowOperation where
  | insert | update | delete
  deriving DecidableEq, Repr, Inhabited

namespace RowOperation

def all : List RowOperation := [insert, update, delete]

def name : RowOperation → String
  | insert => "Insert"
  | update => "Update"
  | delete => "Delete"

def operation : RowOperation → Operation
  | insert => .insert
  | update => .update
  | delete => .delete

def format : Json.Format RowOperation := .choice all name

end RowOperation

inductive CellValue where
  | null
  | int64 (n : Int64)
  | uint64 (n : UInt64)
  | double (x : Float)
  | decimal (s : String)
  | text (s : String)
  | bytes (bs : List UInt8)
  | time (t : Instant)
  | json (v : Json)
  deriving DecidableEq, Repr, Inhabited

namespace CellValue

/-- An estimate of the bytes that a value takes. -/
def size : CellValue → Nat
  | null => 0
  | int64 _ => 8
  | uint64 _ => 8
  | double _ => 8
  | time _ => 12
  | decimal s => s.utf8ByteSize
  | text s => s.utf8ByteSize
  | bytes bs => bs.length
  | json v => v.render.utf8ByteSize

def write : CellValue → Json
  | null => .str "Null"
  | int64 n => .obj [("Int64", Json.Format.int64.write n)]
  | uint64 n => .obj [("UInt64", Json.Format.uint64.write n)]
  | double x => .obj [("Double", Json.Format.double.write x)]
  | decimal s => .obj [("Decimal", .str s)]
  | text s => .obj [("String", .str s)]
  | bytes bs => .obj [("Bytes", Json.Format.bytes.write bs)]
  | time t => .obj [("DateTime", Instant.format.write t)]
  | json v => .obj [("Json", v)]

def readTagged : String → Option (Json.Scope × Json) → Option CellValue
  | "Null", content => if Json.Format.isBare content then some null else none
  | "Int64", some (s, v) => (Json.Format.int64.read s v).map int64
  | "UInt64", some (s, v) => (Json.Format.uint64.read s v).map uint64
  | "Double", some (s, v) => (Json.Format.double.read s v).map double
  | "Decimal", some (s, v) => (Json.Format.text.read s v).map decimal
  | "String", some (s, v) => (Json.Format.text.read s v).map text
  | "Bytes", some (s, v) => (Json.Format.bytes.read s v).map bytes
  | "DateTime", some (s, v) => (Instant.format.read s v).map time
  | "Json", some (s, v) => (Json.Format.document.read s v).map json
  | _, _ => none

def format : Json.Format CellValue where
  write := write
  read s v := (Json.Format.tagged s v).bind fun (tag, content) => readTagged tag content

end CellValue

structure Column where
  name : String
  value : CellValue
  deriving DecidableEq, Repr, Inhabited

namespace Column

def size (c : Column) : Nat := c.name.utf8ByteSize + c.value.size

def format : Json.Format Column :=
  (((Json.Record.required "name" .text).and (.required "value" CellValue.format)).imap
    (fun p => ⟨p.1, p.2⟩) (fun c => (c.name, c.value))).format

end Column

/-- A change of one row, with its columns before and after as far as there are any. The table is
named as the source names it. -/
structure RowChange where
  table : String
  op : RowOperation
  before : Option (List Column)
  after : Option (List Column)
  deriving DecidableEq, Repr, Inhabited

namespace RowChange

def insert (table : String) (after : List Column) : RowChange := ⟨table, .insert, none, some after⟩

def update (table : String) (before after : List Column) : RowChange :=
  ⟨table, .update, some before, some after⟩

def delete (table : String) (before : List Column) : RowChange :=
  ⟨table, .delete, some before, none⟩

def columnsSize (columns : Option (List Column)) : Nat :=
  (columns.getD []).foldr (fun c n => c.size + n) 0

/-- An estimate of the bytes that a change takes, in all its columns and the table name. -/
def size (c : RowChange) : Nat :=
  c.table.utf8ByteSize + columnsSize c.before + columnsSize c.after

def format : Json.Format RowChange :=
  (((Json.Record.required "table" .text).and
    ((Json.Record.required "op" RowOperation.format).and
      ((Json.Record.optional "before" (.list Column.format)).and
        (.optional "after" (.list Column.format))))).imap
    (fun p => ⟨p.1, p.2.1, p.2.2.1, p.2.2.2⟩)
    (fun c => (c.table, c.op, c.before, c.after))).format

end RowChange

inductive Message where
  | begin (header : Header)
  | commit (header : Header)
  | ddl (header : Header) (statement : String)
  | other (header : Header)
  | row (header : Header) (change : RowChange)
  deriving DecidableEq, Repr, Inhabited

namespace Message

def header : Message → Header
  | begin h => h
  | commit h => h
  | ddl h _ => h
  | other h => h
  | row h _ => h

def operation : Message → Operation
  | begin _ => .begin
  | commit _ => .commit
  | ddl _ _ => .ddl
  | other _ => .other
  | row _ c => c.op.operation

/-- Whether the message is the boundary of a transaction. -/
def isBoundary : Message → Bool
  | begin _ => true
  | commit _ => true
  | _ => false

def ddlFormat : Json.Format (Header × String) :=
  ((Json.Record.required "header" Header.format).and (.required "statement" .text)).format

def rowFormat : Json.Format (Header × RowChange) :=
  ((Json.Record.required "header" Header.format).and (.required "change" RowChange.format)).format

def write : Message → Json
  | begin h => .obj [("Begin", Header.format.write h)]
  | commit h => .obj [("Commit", Header.format.write h)]
  | ddl h s => .obj [("Ddl", ddlFormat.write (h, s))]
  | other h => .obj [("Other", Header.format.write h)]
  | row h c => .obj [("Row", rowFormat.write (h, c))]

def readTagged : String → Option (Json.Scope × Json) → Option Message
  | "Begin", some (s, v) => (Header.format.read s v).map begin
  | "Commit", some (s, v) => (Header.format.read s v).map commit
  | "Ddl", some (s, v) => (ddlFormat.read s v).map fun p => ddl p.1 p.2
  | "Other", some (s, v) => (Header.format.read s v).map other
  | "Row", some (s, v) => (rowFormat.read s v).map fun p => row p.1 p.2
  | _, _ => none

def format : Json.Format Message where
  write := write
  read s v := (Json.Format.tagged s v).bind fun (tag, content) => readTagged tag content

end Message

end ShardStream

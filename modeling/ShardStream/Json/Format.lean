import ShardStream.Json.Basic
import ShardStream.KeyMap

/-! # Formats: how values are written as documents and read back

A format pairs a writer with a reader. A record is the format of a structure in the making: a list
of named members, each required, optional or with a default. A structure is written as an object
and read from an object, whose other members are skipped, or from the array of its members in
order. A name that occurs twice is refused.
-/
namespace ShardStream.Json

/-- Where a document is read. Only `depth` further levels may open. A document that has been read
as a whole before its parts are looked at is `buffered`; there an empty object also serves as the
content of a tag without content. -/
structure Scope where
  depth : Nat
  buffered : Bool

namespace Scope

/-- A whole text: 127 levels. -/
def top : Scope := ⟨127, false⟩

def enter (s : Scope) : Option Scope :=
  match s.depth with
  | 0 => none
  | d + 1 => some { s with depth := d }

def admitsNothing (s : Scope) (v : Json) : Bool := v == .null || (s.buffered && v == .obj [])

end Scope

structure Format (α : Type) where
  write : α → Json
  read : Scope → Json → Option α

namespace Format

variable {α β : Type}

def imap (f : Format α) (make : α → β) (back : β → α) : Format β where
  write b := f.write (back b)
  read s v := (f.read s v).map make

def imap? (f : Format α) (make? : α → Option β) (back : β → α) : Format β where
  write b := f.write (back b)
  read s v := (f.read s v).bind make?

def text : Format String where
  write := .str
  read
    | _, .str s => some s
    | _, _ => none

def uint64 : Format UInt64 where
  write n := .num (.ofNat n.toNat)
  read
    | _, .num n => n.uint64?
    | _, _ => none

def int64 : Format Int64 where
  write n := .num (.ofInt n.toInt)
  read
    | _, .num n => n.int64?
    | _, _ => none

/-- A double; one that is not finite has no numeral and is written as `null`. -/
def double : Format Float where
  write x := if x.isFinite then .num (.ofFloat x) else .null
  read
    | _, .num n => n.double?
    | _, _ => none

def option (f : Format α) : Format (Option α) where
  write
    | none => .null
    | some a => f.write a
  read
    | _, .null => some none
    | s, v => (f.read s v).map some

def list (f : Format α) : Format (List α) where
  write as := .arr (as.map f.write)
  read
    | s, .arr vs => s.enter.bind fun inner => vs.mapM (f.read inner)
    | _, _ => none

def byte : Format UInt8 where
  write n := .num (.ofNat n.toNat)
  read
    | _, .num n => (n.uint64?.filter (· < 256)).map UInt64.toUInt8
    | _, _ => none

/-- The bytes of a code point, or of half of a surrogate pair by the same rule. -/
def unitBytes (n : Nat) : List UInt8 :=
  if n < 0x80 then [n.toUInt8]
  else if n < 0x800 then [(0xC0 + n / 0x40).toUInt8, (0x80 + n % 0x40).toUInt8]
  else if n < 0x10000 then
    [(0xE0 + n / 0x1000).toUInt8, (0x80 + n / 0x40 % 0x40).toUInt8, (0x80 + n % 0x40).toUInt8]
  else
    [(0xF0 + n / 0x40000).toUInt8, (0x80 + n / 0x1000 % 0x40).toUInt8,
      (0x80 + n / 0x40 % 0x40).toUInt8, (0x80 + n % 0x40).toUInt8]

/-- The bytes of a raw text, in which only whole surrogate pairs make one code point. -/
def rawBytes : List Nat → List UInt8
  | n :: m :: rest =>
    if isHighHalf n ∧ isLowHalf m then unitBytes (pairOf n m) ++ rawBytes rest
    else unitBytes n ++ rawBytes (m :: rest)
  | [n] => unitBytes n
  | [] => []

/-- Bytes are an array of numbers below 256. A text, even a raw one, is read as its UTF-8 bytes. -/
def bytes : Format (List UInt8) where
  write := (list byte).write
  read
    | _, .str s => some s.toUTF8.toList
    | _, .raw units _ => some (rawBytes units)
    | s, v => (list byte).read s v

def keyMap (f : Format α) : Format (KeyMap α) where
  write m := .obj (m.entries.map fun e => (e.1, f.write e.2))
  read
    | s, .obj ms =>
      s.enter.bind fun inner =>
        (ms.mapM fun e => (f.read inner e.2).map (e.1, ·)).map KeyMap.ofList
    | _, _ => none

mutual
/-- A document with the members of each object in order of their keys, of two with one key the
later, and each numeral in the one form of its number. Nothing inside may be left without value. -/
def normalize : Nat → Json → Option Json
  | _, .null => some .null
  | _, .bool b => some (.bool b)
  | _, .num n =>
    match n.word? with
    | some i => some (.num (.ofInt i))
    | none => n.float?.map fun x => .num (.ofFloat x)
  | _, .str s => some (.str s)
  | _, .raw _ _ => none
  | _, .unpaired => none
  | 0, .arr _ => none
  | d + 1, .arr vs => (normalizeItems d vs).map .arr
  | 0, .obj _ => none
  | d + 1, .obj ms => (normalizeMembers d ms).map fun ms => .obj (KeyMap.ofList ms).entries

def normalizeItems : Nat → List Json → Option (List Json)
  | _, [] => some []
  | d, v :: rest =>
    match normalize d v, normalizeItems d rest with
    | some v, some rest => some (v :: rest)
    | _, _ => none

def normalizeMembers : Nat → List (String × Json) → Option (List (String × Json))
  | _, [] => some []
  | d, (k, v) :: rest =>
    match normalize d v, normalizeMembers d rest with
    | some v, some rest => some ((k, v) :: rest)
    | _, _ => none
end

/-- Any document, read in its normal form. -/
def document : Format Json where
  write v := v
  read s v := normalize s.depth v

/-- The tag and the content of a variant: a text alone, or an object with one member. -/
def tagged : Scope → Json → Option (String × Option (Scope × Json))
  | _, .str tag => some (tag, none)
  | s, .obj [(tag, v)] => s.enter.map fun inner => (tag, some (inner, v))
  | _, _ => none

/-- A variant without content. -/
def isBare : Option (Scope × Json) → Bool
  | none => true
  | some (s, v) => s.admitsNothing v

/-- One of finitely many names. -/
def choice [DecidableEq α] (all : List α) (name : α → String) : Format α where
  write a := .str (name a)
  read s v :=
    (tagged s v).bind fun (tag, content) =>
      if isBare content then all.find? fun a => name a = tag else none

end Format

structure Record (α : Type) where
  names : List String
  write : α → List (String × Json)
  readMembers : Scope → List (String × Json) → Option α
  readItems : Scope → List Json → Option (α × List Json)

namespace Record

variable {α β : Type}

def named (name : String) (ms : List (String × Json)) : List Json :=
  (ms.filter fun m => m.1 = name).map (·.2)

def required (name : String) (f : Format α) : Record α where
  names := [name]
  write a := [(name, f.write a)]
  readMembers s ms :=
    match named name ms with
    | [v] => f.read s v
    | _ => none
  readItems
    | s, v :: rest => (f.read s v).map (·, rest)
    | _, [] => none

/-- A member that may be absent from an object, though not from an array. -/
def optional (name : String) (f : Format α) : Record (Option α) where
  names := [name]
  write a := [(name, f.option.write a)]
  readMembers s ms :=
    match named name ms with
    | [] => some none
    | [v] => f.option.read s v
    | _ => none
  readItems
    | s, v :: rest => (f.option.read s v).map (·, rest)
    | _, [] => none

/-- A member that is left out when it is `default` and may be absent in both forms. -/
def defaulted [DecidableEq α] (name : String) (default : α) (f : Format α) : Record α where
  names := [name]
  write a := if a = default then [] else [(name, f.write a)]
  readMembers s ms :=
    match named name ms with
    | [] => some default
    | [v] => f.read s v
    | _ => none
  readItems
    | s, v :: rest => (f.read s v).map (·, rest)
    | _, [] => some (default, [])

def and (r : Record α) (q : Record β) : Record (α × β) where
  names := r.names ++ q.names
  write p := r.write p.1 ++ q.write p.2
  readMembers s ms := (r.readMembers s ms).bind fun a => (q.readMembers s ms).map (a, ·)
  readItems s vs :=
    (r.readItems s vs).bind fun (a, rest) =>
      (q.readItems s rest).map fun (b, rest) => ((a, b), rest)

def imap (r : Record α) (make : α → β) (back : β → α) : Record β where
  names := r.names
  write b := r.write (back b)
  readMembers s ms := (r.readMembers s ms).map make
  readItems s vs := (r.readItems s vs).map fun (a, rest) => (make a, rest)

/-- The members of a structure, from an object or from the array of them in order. -/
def read (r : Record α) (inner : Scope) : Json → Option α
  | .obj ms =>
    if ms.all fun m => m.1 ∈ r.names || m.2.skips then r.readMembers inner ms else none
  | .arr vs =>
    match r.readItems inner vs with
    | some (a, []) => some a
    | _ => none
  | _ => none

def format (r : Record α) : Format α where
  write a := .obj (r.write a)
  read s v := s.enter.bind fun inner => r.read inner v

end Record

/-- Reads a whole document. -/
def Format.decode {α : Type} (f : Format α) (v : Json) : Option α := f.read .top v

end ShardStream.Json

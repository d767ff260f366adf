import ShardStream.Json.Numeral

/-! # JSON documents and their compact text

Members keep their order and may repeat a key. A document is written as a list of tokens without
blanks between them; in a text, the quotation mark, the backslash and the characters below the
space are escaped and nothing else is.
-/
namespace ShardStream

/-- A JSON document. A text that holds half of a surrogate pair or a raw control character is `raw`:
it consists of code points and halves of pairs but is no text of characters. `unpaired` stands for
an object with a key that holds half of a surrogate pair, which can only be skipped. -/
inductive Json where
  | null
  | bool (b : Bool)
  | num (n : Json.Numeral)
  | str (s : String)
  | raw (units : List Nat) (controls : Bool)
  | unpaired
  | arr (items : List Json)
  | obj (members : List (String × Json))
  deriving Repr, Inhabited

namespace Json

mutual
def decEq : (a b : Json) → Decidable (a = b)
  | .null, .null => .isTrue rfl
  | .unpaired, .unpaired => .isTrue rfl
  | .bool a, .bool b => decidable_of_iff (a = b) (by simp)
  | .num a, .num b => decidable_of_iff (a = b) (by simp)
  | .str a, .str b => decidable_of_iff (a = b) (by simp)
  | .raw a c, .raw b d => decidable_of_iff (a = b ∧ c = d) (by simp)
  | .arr a, .arr b => @decidable_of_iff _ (a = b) (by simp) (decEqItems a b)
  | .obj a, .obj b => @decidable_of_iff _ (a = b) (by simp) (decEqMembers a b)
  | .null, .unpaired | .null, .bool _ | .null, .num _ | .null, .str _ | .null, .raw _ _
  | .null, .arr _ | .null, .obj _ | .unpaired, .null | .unpaired, .bool _ | .unpaired, .num _
  | .unpaired, .str _ | .unpaired, .raw _ _ | .unpaired, .arr _ | .unpaired, .obj _ | .bool _, .null
  | .bool _, .unpaired | .bool _, .num _ | .bool _, .str _ | .bool _, .raw _ _ | .bool _, .arr _
  | .bool _, .obj _ | .num _, .null | .num _, .unpaired | .num _, .bool _ | .num _, .str _
  | .num _, .raw _ _ | .num _, .arr _ | .num _, .obj _ | .str _, .null | .str _, .unpaired
  | .str _, .bool _ | .str _, .num _ | .str _, .raw _ _ | .str _, .arr _ | .str _, .obj _
  | .raw _ _, .null | .raw _ _, .unpaired | .raw _ _, .bool _ | .raw _ _, .num _ | .raw _ _, .str _
  | .raw _ _, .arr _ | .raw _ _, .obj _ | .arr _, .null | .arr _, .unpaired | .arr _, .bool _
  | .arr _, .num _ | .arr _, .str _ | .arr _, .raw _ _ | .arr _, .obj _ | .obj _, .null
  | .obj _, .unpaired | .obj _, .bool _ | .obj _, .num _ | .obj _, .str _ | .obj _, .raw _ _
  | .obj _, .arr _ => .isFalse nofun

def decEqItems : (as bs : List Json) → Decidable (as = bs)
  | [], [] => .isTrue rfl
  | [], _ :: _ => .isFalse nofun
  | _ :: _, [] => .isFalse nofun
  | a :: as, b :: bs =>
    match decEq a b, decEqItems as bs with
    | .isTrue h, .isTrue hs => .isTrue (h ▸ hs ▸ rfl)
    | .isFalse h, _ => .isFalse fun e => h (List.cons.inj e).1
    | _, .isFalse hs => .isFalse fun e => hs (List.cons.inj e).2

def decEqMembers : (as bs : List (String × Json)) → Decidable (as = bs)
  | [], [] => .isTrue rfl
  | [], _ :: _ => .isFalse nofun
  | _ :: _, [] => .isFalse nofun
  | (k, a) :: as, (l, b) :: bs =>
    match decEq a b, decEqMembers as bs with
    | .isTrue h, .isTrue hs => decidable_of_iff (k = l) (by subst h hs; simp)
    | .isFalse h, _ => .isFalse fun e => h (Prod.mk.inj (List.cons.inj e).1).2
    | _, .isFalse hs => .isFalse fun e => hs (List.cons.inj e).2
end

instance : DecidableEq Json := decEq

inductive Token where
  | openArr | closeArr | openObj | closeObj | comma | colon
  | null
  | bool (b : Bool)
  | num (n : Numeral)
  | str (s : String)
  | raw (units : List Nat) (controls : Bool)
  deriving DecidableEq, Repr

/-- A character inside a written text. -/
def escape (c : Char) : List Char :=
  if c = '"' then ['\\', '"']
  else if c = '\\' then ['\\', '\\']
  else if c = '\n' then ['\\', 'n']
  else if c = '\r' then ['\\', 'r']
  else if c = '\t' then ['\\', 't']
  else if c = '\x08' then ['\\', 'b']
  else if c = '\x0c' then ['\\', 'f']
  else if c.toNat < 32 then
    ['\\', 'u', '0', '0', Nat.digitChar (c.toNat / 16), Nat.digitChar (c.toNat % 16)]
  else [c]

def isHighHalf (n : Nat) : Bool := 0xD800 ≤ n && n ≤ 0xDBFF

def isLowHalf (n : Nat) : Bool := 0xDC00 ≤ n && n ≤ 0xDFFF

/-- The code point of a surrogate pair. -/
def pairOf (high low : Nat) : Nat := 0x10000 + (high - 0xD800) * 0x400 + (low - 0xDC00)

/-- A part of a raw text. -/
def rawUnit (controls : Bool) (n : Nat) : List Char :=
  if n.isValidChar then if controls ∧ n < 32 then [Char.ofNat n] else escape (Char.ofNat n)
  else '\\' :: 'u' :: Nat.toDigits 16 n

def Token.text : Token → List Char
  | openArr => ['[']
  | closeArr => [']']
  | openObj => ['{']
  | closeObj => ['}']
  | comma => [',']
  | colon => [':']
  | null => ['n', 'u', 'l', 'l']
  | bool true => ['t', 'r', 'u', 'e']
  | bool false => ['f', 'a', 'l', 's', 'e']
  | num n => n.render
  | str s => '"' :: s.toList.flatMap escape ++ ['"']
  | raw units controls => '"' :: units.flatMap (rawUnit controls) ++ ['"']

mutual
def tokens : Json → List Token
  | .null => [.null]
  | .bool b => [.bool b]
  | .num n => [.num n]
  | .str s => [.str s]
  | .raw units controls => [.raw units controls]
  | .unpaired => [.openObj, .raw [0xD800] false, .colon, .null, .closeObj]
  | .arr items => .openArr :: itemTokens items ++ [.closeArr]
  | .obj members => .openObj :: memberTokens members ++ [.closeObj]

def itemTokens : List Json → List Token
  | [] => []
  | [v] => v.tokens
  | v :: rest => v.tokens ++ .comma :: itemTokens rest

def memberTokens : List (String × Json) → List Token
  | [] => []
  | [(k, v)] => .str k :: .colon :: v.tokens
  | (k, v) :: rest => .str k :: .colon :: v.tokens ++ .comma :: memberTokens rest
end

mutual
/-- Whether a document may be skipped. A raw control character is refused even where nobody asks
for the text around it. -/
def skips : Json → Bool
  | .raw _ controls => !controls
  | .arr items => skipsItems items
  | .obj members => skipsMembers members
  | _ => true

def skipsItems : List Json → Bool
  | [] => true
  | v :: rest => v.skips && skipsItems rest

def skipsMembers : List (String × Json) → Bool
  | [] => true
  | (_, v) :: rest => v.skips && skipsMembers rest
end

/-- The compact text of a document. -/
def render (v : Json) : String := String.ofList (v.tokens.flatMap Token.text)

def ofNat (n : Nat) : Json := .num (.ofNat n)

def ofInt (n : Int) : Json := .num (.ofInt n)

def ofOption {α : Type} (f : α → Json) : Option α → Json
  | none => .null
  | some a => f a

def texts (ss : List String) : Json := .arr (ss.map .str)

end Json

end ShardStream

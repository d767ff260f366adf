import ShardStream.Json.Basic

/-! # Reading JSON text

Text is first cut into tokens and the tokens then form one document. Reading is strict: no trailing
text, no leading zeros, no raw control characters in keys. How deep a document may nest, which
numbers are too large and where a raw text will do is decided by who uses the values, because a part
that nobody asks for is only checked for its form.
-/
namespace ShardStream.Json

def isSpace (c : Char) : Bool := c = ' ' || c = '\n' || c = '\t' || c = '\r'

def hexValue? (c : Char) : Option Nat :=
  if '0' ≤ c ∧ c ≤ '9' then some (c.toNat - 48)
  else if 'a' ≤ c ∧ c ≤ 'f' then some (c.toNat - 87)
  else if 'A' ≤ c ∧ c ≤ 'F' then some (c.toNat - 55)
  else none

def hexWord? (a b c d : Char) : Option Nat := do
  return (((← hexValue? a) * 16 + (← hexValue? b)) * 16 + (← hexValue? c)) * 16 + (← hexValue? d)

def simpleEscape? : Char → Option Char
  | '"' => some '"'
  | '\\' => some '\\'
  | '/' => some '/'
  | 'b' => some '\x08'
  | 'f' => some '\x0c'
  | 'n' => some '\n'
  | 'r' => some '\r'
  | 't' => some '\t'
  | _ => none

/-- The code points and surrogates of a text after its opening mark, whether control characters
stand in it as they are, and what follows its end. -/
def scanText : List Char → Option ((List Nat × Bool) × List Char)
  | [] => none
  | '"' :: rest => some (([], false), rest)
  | '\\' :: 'u' :: a :: b :: c :: d :: rest => do
    let n ← hexWord? a b c d
    let ((ns, controls), after) ← scanText rest
    return ((n :: ns, controls), after)
  | '\\' :: e :: rest => do
    let c ← simpleEscape? e
    let ((ns, controls), after) ← scanText rest
    return ((c.toNat :: ns, controls), after)
  | c :: rest =>
    if c = '\\' then none
    else
      (scanText rest).map fun ((ns, controls), after) =>
        ((c.toNat :: ns, controls || c.toNat < 32), after)

/-- Joins each high half of a pair with the low half after it. -/
def joinHalves : List Nat → Option (List Char)
  | [] => some []
  | n :: rest =>
    if isHighHalf n then
      match rest with
      | m :: rest' =>
        if isLowHalf m then
          (joinHalves rest').map (Char.ofNat (pairOf n m) :: ·)
        else none
      | [] => none
    else if isLowHalf n then none
    else (joinHalves rest).map (Char.ofNat n :: ·)

/-- The token of a text. -/
def textToken (units : List Nat) (controls : Bool) : Token :=
  match controls, joinHalves units with
  | false, some cs => .str (String.ofList cs)
  | _, _ => .raw units controls

def scanFraction : List Char → Option (List Digit × List Char)
  | '.' :: rest =>
    let digits := rest.takeWhile Char.isDigit
    if digits = [] then none
    else some (digits.map Numeral.digitOf, rest.dropWhile Char.isDigit)
  | cs => some ([], cs)

/-- The digits of an exponent, after its letter and sign. -/
def scanPower (negative : Bool) (cs : List Char) : Option (Option Int × List Char) :=
  (Text.readDigits? (cs.takeWhile Char.isDigit)).map fun n =>
    (some (if negative then -(n : Int) else n), cs.dropWhile Char.isDigit)

def scanExponent : List Char → Option (Option Int × List Char)
  | [] => some (none, [])
  | e :: rest =>
    if e = 'e' ∨ e = 'E' then
      match rest with
      | '+' :: r => scanPower false r
      | '-' :: r => scanPower true r
      | r => scanPower false r
    else some (none, e :: rest)

/-- The whole part has no leading zeros: after a first `0` it ends. -/
def scanWhole : List Char → Option (Nat × List Char)
  | '0' :: rest => some (0, rest)
  | cs =>
    (Text.readDigits? (cs.takeWhile Char.isDigit)).map fun n => (n, cs.dropWhile Char.isDigit)

def scanNumeral (negative : Bool) (cs : List Char) : Option (Numeral × List Char) := do
  let (whole, r) ← scanWhole cs
  let (fraction, r) ← scanFraction r
  let (exponent, r) ← scanExponent r
  return (⟨negative, whole, fraction, exponent⟩, r)

/-- The token at the front of a text that does not start with a blank. -/
def scanToken : List Char → Option (Token × List Char)
  | '[' :: r => some (.openArr, r)
  | ']' :: r => some (.closeArr, r)
  | '{' :: r => some (.openObj, r)
  | '}' :: r => some (.closeObj, r)
  | ',' :: r => some (.comma, r)
  | ':' :: r => some (.colon, r)
  | 'n' :: 'u' :: 'l' :: 'l' :: r => some (.null, r)
  | 't' :: 'r' :: 'u' :: 'e' :: r => some (.bool true, r)
  | 'f' :: 'a' :: 'l' :: 's' :: 'e' :: r => some (.bool false, r)
  | '"' :: r =>
    (scanText r).map fun ((units, controls), after) => (textToken units controls, after)
  | '-' :: r => (scanNumeral true r).map fun (n, after) => (.num n, after)
  | cs => (scanNumeral false cs).map fun (n, after) => (.num n, after)

/-- Cuts a text into tokens. Each takes at least one character, so `text.length` tries suffice. -/
def lex : Nat → List Char → Option (List Token)
  | tries, cs =>
    match cs.dropWhile isSpace, tries with
    | [], _ => some []
    | _ :: _, 0 => none
    | c :: r, tries + 1 => do
      let (t, after) ← scanToken (c :: r)
      let ts ← lex tries after
      return t :: ts

/-- An object is usable when all its keys are texts. Else it must do for skipping. -/
def ofMembers? (ms : List (Option String × Json)) : Option Json :=
  match ms.mapM fun (k, v) => k.map (·, v) with
  | some members => some (.obj members)
  | none => if ms.all fun m => m.2.skips then some .unpaired else none

/-- The key of a member: a text, or none for a raw one without control characters. -/
def key? : Token → Option (Option String)
  | .str s => some (some s)
  | .raw _ false => some none
  | _ => none

mutual
/-- The document at the front of a list of tokens. -/
def value : Nat → List Token → Option (Json × List Token)
  | 0, _ => none
  | _ + 1, .null :: r => some (.null, r)
  | _ + 1, .bool b :: r => some (.bool b, r)
  | _ + 1, .num n :: r => some (.num n, r)
  | _ + 1, .str s :: r => some (.str s, r)
  | _ + 1, .raw units controls :: r => some (.raw units controls, r)
  | _ + 1, .openArr :: .closeArr :: r => some (.arr [], r)
  | n + 1, .openArr :: r => (items n r).map fun (vs, r) => (.arr vs, r)
  | _ + 1, .openObj :: .closeObj :: r => some (.obj [], r)
  | n + 1, .openObj :: r => (members n r).bind fun (ms, r) => (ofMembers? ms).map (·, r)
  | _ + 1, _ => none

def items : Nat → List Token → Option (List Json × List Token)
  | 0, _ => none
  | n + 1, ts =>
    match value n ts with
    | some (v, .comma :: r) => (items n r).map fun (vs, r) => (v :: vs, r)
    | some (v, .closeArr :: r) => some ([v], r)
    | _ => none

def members : Nat → List Token → Option (List (Option String × Json) × List Token)
  | n + 1, t :: .colon :: ts =>
    match key? t, value n ts with
    | some k, some (v, .comma :: r) => (members n r).map fun (ms, r) => ((k, v) :: ms, r)
    | some k, some (v, .closeObj :: r) => some ([(k, v)], r)
    | _, _ => none
  | _, _ => none
end

def ofTokens (ts : List Token) : Option Json :=
  match value (2 * ts.length + 1) ts with
  | some (v, []) => some v
  | _ => none

def parse (text : String) : Option Json :=
  (lex text.toList.length text.toList).bind ofTokens

end ShardStream.Json

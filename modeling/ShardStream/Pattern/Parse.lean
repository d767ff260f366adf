import ShardStream.Pattern.Size
import ShardStream.Text.Decimal

/-! # Reading patterns

Patterns are written with the usual operators: `.`, `^`, `$`, `|`, the repetitions `*`, `+`, `?`
and `\x7bm,n\x7d`, groups, and sets in brackets with ranges, complements, nested sets and set
operations. The flags `i`, `m`, `s`, `U` and `u` hold to the end of their group. Refused are
look-around and back references, and patterns that are nested too deeply or grow too large.

This is a part of what patterns may be elsewhere: property classes such as `\pL`, the flag `x` for
blanks and comments inside a pattern, a search in bytes (`-u`) and the starts and ends of words as
conditions of their own are refused as well. Nothing but the command line depends on this part.
-/
namespace ShardStream.Pattern

structure Flags where
  anyCase : Bool
  multiLine : Bool
  dotAll : Bool
  lazy : Bool

/-- The flags in force, the group names in use and the number of groups so far. -/
structure Context where
  flags : Flags
  names : List String
  groups : Nat

def Context.start : Context := ⟨⟨false, false, false, false⟩, [], 0⟩

def leaf (flags : Flags) (s : CharSet) : CharSet := if flags.anyCase then s.anyCase else s

/-- Groups, repetitions, sequences, alternatives, sets in brackets and what they are made of may be
nested so deeply. -/
def nestLimit : Nat := 250

/-- What encloses at least two things counts as one more level. -/
def levelAround (depths : List Nat) : Nat :=
  depths.foldl Nat.max 0 + (if depths.length < 2 then 0 else 1)

/-- What stands after a backslash. -/
inductive Escaped where
  | char (c : Char)
  | set (s : CharSet)
  | anchor (a : Anchor)

def hexDigit? (c : Char) : Option Nat :=
  if c.isDigit then some (c.toNat - 48)
  else if 'a' ≤ c ∧ c ≤ 'f' then some (c.toNat - 87)
  else if 'A' ≤ c ∧ c ≤ 'F' then some (c.toNat - 55)
  else none

def hexChar? (digits : List Char) : Option Char := do
  let ds ← digits.mapM hexDigit?
  let n := ds.foldl (fun n d => n * 16 + d) 0
  if ds ≠ [] ∧ ds.length ≤ 8 ∧ n.isValidChar then some (Char.ofNat n) else none

/-- A code point in hexadecimal: so many digits, or any number of them in braces. -/
def parseHex (width : Nat) : List Char → Option (Escaped × List Char)
  | '{' :: r =>
    match r.dropWhile (· ≠ '}') with
    | '}' :: after => (hexChar? (r.takeWhile (· ≠ '}'))).map fun c => (.char c, after)
    | _ => none
  | r =>
    if width ≤ r.length then (hexChar? (r.take width)).map fun c => (.char c, r.drop width)
    else none

def parseEscape : List Char → Option (Escaped × List Char)
  | [] => none
  | 'd' :: r => some (.set .digits, r)
  | 'D' :: r => some (.set (CharSet.compl .digits), r)
  | 's' :: r => some (.set .blanks, r)
  | 'S' :: r => some (.set (CharSet.compl .blanks), r)
  | 'w' :: r => some (.set .word, r)
  | 'W' :: r => some (.set (CharSet.compl .word), r)
  | 'x' :: r => parseHex 2 r
  | 'u' :: r => parseHex 4 r
  | 'U' :: r => parseHex 8 r
  | 'a' :: r => some (.char '\x07', r)
  | 'f' :: r => some (.char '\x0c', r)
  | 't' :: r => some (.char '\t', r)
  | 'n' :: r => some (.char '\n', r)
  | 'r' :: r => some (.char '\r', r)
  | 'v' :: r => some (.char '\x0b', r)
  | 'A' :: r => some (.anchor .textStart, r)
  | 'z' :: r => some (.anchor .textEnd, r)
  | 'b' :: r => some (.anchor (.wordEdge true), r)
  | 'B' :: r => some (.anchor (.wordEdge false), r)
  | c :: r =>
    if c.toNat < 128 ∧ ¬ c.isAlphanum ∧ c ≠ '<' ∧ c ≠ '>' then some (.char c, r) else none

/-- An element of a set in brackets: one character or a class of them. -/
def parseElement : List Char → Option ((Char ⊕ CharSet) × List Char)
  | '\\' :: r =>
    match parseEscape r with
    | some (.char c, r) => some (.inl c, r)
    | some (.set s, r) => some (.inr s, r)
    | _ => none
  | c :: r => some (.inl c, r)
  | [] => none

def elementSet : Char ⊕ CharSet → CharSet
  | .inl c => .one c
  | .inr s => s

/-- An element or a range. A hyphen before the closing bracket or another hyphen stands for
itself. -/
def parseRange (cs : List Char) : Option (CharSet × List Char) := do
  let (a, r) ← parseElement cs
  match r with
  | [] => none
  | '-' :: ']' :: _ => some (elementSet a, r)
  | '-' :: '-' :: _ => some (elementSet a, r)
  | '-' :: rest =>
    let (b, r) ← parseElement rest
    match a, b with
    | .inl first, .inl last => if first ≤ last then some (.range first last, r) else none
    | _, _ => none
  | _ => some (elementSet a, r)

/-- A class `[:name:]` or `[:^name:]`, after its opening bracket. Anything else is none. -/
def parseNamedClass (flags : Flags) : List Char → Option (CharSet × List Char)
  | ':' :: r =>
    let (negated, r) := match r with
      | '^' :: r => (true, r)
      | r => (false, r)
    match r.dropWhile (· ≠ ':') with
    | ':' :: ']' :: after =>
      (CharSet.ascii? (String.ofList (r.takeWhile (· ≠ ':')))).map fun s =>
        (if negated then (leaf flags s).compl else s, after)
    | _ => none
  | _ => none

inductive SetOp where
  | inter | diff | symmDiff

def SetOp.apply : SetOp → CharSet → CharSet → CharSet
  | inter, s, t => s.inter t
  | diff, s, t => s.diff t
  | symmDiff, s, t => s.symmDiff t

/-- The elements of a set that have been read, with the depth of each. -/
structure Elements where
  sets : List CharSet
  depths : List Nat

def Elements.add (es : Elements) (s : CharSet) (depth : Nat) : Elements :=
  ⟨s :: es.sets, depth :: es.depths⟩

/-- A set operation whose right operand is still being read. -/
structure Pending where
  op : SetOp
  left : CharSet
  depth : Nat

/-- The set of all elements after a pending operation, and its depth. -/
def Elements.finish (flags : Flags) (pending : Option Pending) (es : Elements) : CharSet × Nat :=
  let right := leaf flags (.unions es.sets)
  let depth := levelAround es.depths
  match pending with
  | none => (right, depth)
  | some p => (p.op.apply p.left right, Nat.max p.depth depth + 1)

/-- Hyphens at the start of a set stand for themselves, and so does a closing bracket as its very
first character. -/
def parseSetStart (cs : List Char) : Elements × List Char :=
  let hyphens := cs.takeWhile (· = '-')
  let rest := cs.dropWhile (· = '-')
  if hyphens ≠ [] then (⟨hyphens.map fun _ => .one '-', hyphens.map fun _ => 0⟩, rest)
  else
    match rest with
    | ']' :: r => (⟨[.one ']'], [0]⟩, r)
    | r => (⟨[], []⟩, r)

mutual
/-- A set in brackets with its depth, after the opening bracket and inside so many others. -/
def parseSet (flags : Flags) : Nat → (outer : Nat) → List Char →
    Option ((CharSet × Nat) × List Char)
  | 0, _, _ => none
  | n + 1, outer, '^' :: r =>
    if outer = nestLimit then none
    else
      let (es, r) := parseSetStart r
      (parseSetItems flags n outer none es r).map fun ((s, depth), r) =>
        ((s.compl, depth + 1), r)
  | n + 1, outer, r =>
    if outer = nestLimit then none
    else
      let (es, r) := parseSetStart r
      (parseSetItems flags n outer none es r).map fun ((s, depth), r) => ((s, depth + 1), r)

def parseSetItems (flags : Flags) : Nat → (outer : Nat) → Option Pending → Elements →
    List Char → Option ((CharSet × Nat) × List Char)
  | 0, _, _, _, _ => none
  | _ + 1, _, _, _, [] => none
  | _ + 1, _, pending, es, ']' :: r => some (es.finish flags pending, r)
  | n + 1, outer, pending, es, '&' :: '&' :: r =>
    let (s, depth) := es.finish flags pending
    parseSetItems flags n outer (some ⟨.inter, s, depth⟩) ⟨[], []⟩ r
  | n + 1, outer, pending, es, '-' :: '-' :: r =>
    let (s, depth) := es.finish flags pending
    parseSetItems flags n outer (some ⟨.diff, s, depth⟩) ⟨[], []⟩ r
  | n + 1, outer, pending, es, '~' :: '~' :: r =>
    let (s, depth) := es.finish flags pending
    parseSetItems flags n outer (some ⟨.symmDiff, s, depth⟩) ⟨[], []⟩ r
  | n + 1, outer, pending, es, '[' :: r =>
    match parseNamedClass flags r with
    | some (s, r) => parseSetItems flags n outer pending (es.add s 0) r
    | none =>
      match parseSet flags n (outer + 1) r with
      | some ((s, depth), r) => parseSetItems flags n outer pending (es.add s depth) r
      | none => none
  | n + 1, outer, pending, es, cs =>
    match parseRange cs with
    | some (s, r) => parseSetItems flags n outer pending (es.add s 0) r
    | none => none
end

/-- A count in braces may have blanks on both sides. -/
def parseCount (cs : List Char) : Option (Nat × List Char) :=
  let r := Text.trimStart cs
  (Text.readBelow? UInt32.size (r.takeWhile Char.isDigit)).map fun n =>
    (n, Text.trimStart (r.dropWhile Char.isDigit))

def parseCounts (cs : List Char) : Option ((Nat × Option Nat) × List Char) := do
  let (min, r) ← parseCount cs
  match r with
  | '}' :: r => some ((min, some min), r)
  | ',' :: '}' :: r => some ((min, none), r)
  | ',' :: r =>
    let (max, r) ← parseCount r
    match r with
    | '}' :: r => if min ≤ max then some ((min, some max), r) else none
    | _ => none
  | _ => none

/-- How often something is repeated. -/
structure Repetition where
  min : Nat
  max : Option Nat
  lazy : Bool

/-- A question mark after a repetition turns its preference round. -/
def parsePreference (flags : Flags) (min : Nat) (max : Option Nat) :
    List Char → Repetition × List Char
  | '?' :: r => (⟨min, max, !flags.lazy⟩, r)
  | r => (⟨min, max, flags.lazy⟩, r)

/-- A repetition, if an operator for one comes next. -/
def parseRepetition (flags : Flags) : List Char → Option (Option (Repetition × List Char))
  | '*' :: r => some (some (parsePreference flags 0 none r))
  | '+' :: r => some (some (parsePreference flags 1 none r))
  | '?' :: r => some (some (parsePreference flags 0 (some 1) r))
  | '{' :: r =>
    (parseCounts r).map fun ((min, max), r) => some (parsePreference flags min max r)
  | _ => some none

def isNameChar (first : Bool) (c : Char) : Bool :=
  c = '_' || (if first then CharSet.word.mem c && !CharSet.digits.mem c
    else CharSet.word.mem c || c = '.' || c = '[' || c = ']')

/-- The name of a group, up to `>`. -/
def parseName (ctx : Context) (cs : List Char) : Option (Context × List Char) :=
  let name := cs.takeWhile (· ≠ '>')
  match name, cs.dropWhile (· ≠ '>') with
  | c :: more, '>' :: r =>
    let key := String.ofList name
    if isNameChar true c ∧ more.all (isNameChar false) ∧ key ∉ ctx.names then
      some ({ ctx with names := key :: ctx.names }, r)
    else none
  | _, _ => none

def setFlag (flags : Flags) (on : Bool) : Char → Option Flags
  | 'i' => some { flags with anyCase := on }
  | 'm' => some { flags with multiLine := on }
  | 's' => some { flags with dotAll := on }
  | 'U' => some { flags with lazy := on }
  | 'u' => if on then some flags else none
  | _ => none

/-- Flags up to the end mark, a colon or a closing parenthesis. `seen` guards against repetition,
and `dangling` is set when a minus sign still waits for a flag. -/
def parseFlags : Flags → Bool → Bool → List Char → List Char → Option (Flags × List Char)
  | _, _, _, _, [] => none
  | flags, on, dangling, seen, c :: r =>
    if c = ':' ∨ c = ')' then if dangling then none else some (flags, c :: r)
    else if c = '-' then if on then parseFlags flags false true seen r else none
    else if c ∈ seen then none
    else
      match setFlag flags on c with
      | some flags => parseFlags flags on false (c :: seen) r
      | none => none

/-- What opens after a parenthesis: a group, or flags for the rest of the group around it. -/
inductive Opening where
  | group (index? : Option Nat) (ctx : Context)
  | flags (flags : Flags)

/-- The context inside the next numbered group. -/
def openGroup (ctx : Context) : Opening :=
  .group (some (ctx.groups + 1)) { ctx with groups := ctx.groups + 1 }

def parseOpening (ctx : Context) : List Char → Option (Opening × List Char)
  | '?' :: 'P' :: '<' :: r => (parseName ctx r).map fun (ctx, r) => (openGroup ctx, r)
  | '?' :: '<' :: r => (parseName ctx r).map fun (ctx, r) => (openGroup ctx, r)
  | '?' :: ')' :: _ => none
  | '?' :: r =>
    match parseFlags ctx.flags true false [] r with
    | some (flags, ':' :: r) => some (.group none { ctx with flags }, r)
    | some (flags, ')' :: r) => some (.flags flags, r)
    | _ => none
  | r => some (openGroup ctx, r)

/-- A part of a pattern with the depth of its nesting; flags stand for a part that cannot be
repeated. -/
structure Piece where
  pattern : Pattern
  depth : Nat
  repeatable : Bool

namespace Piece

def single (p : Pattern) : Piece := ⟨p, 0, true⟩

def flags : Piece := ⟨.empty, 0, false⟩

/-- The pieces that follow each other, from the last. -/
def sequence (pieces : List Piece) : Piece :=
  ⟨ofParts (pieces.reverse.map pattern), levelAround (pieces.map depth), true⟩

/-- Any one of the pieces, from the last. -/
def alternatives (pieces : List Piece) : Piece :=
  ⟨ofBranches (pieces.reverse.map pattern), levelAround (pieces.map depth), true⟩

def times (p : Piece) (t : Repetition) : Piece :=
  ⟨repeated p.pattern t.min t.max t.lazy, p.depth + 1, true⟩

def group (index? : Option Nat) (p : Piece) : Piece :=
  ⟨match index? with
    | some index => .group index p.pattern
    | none => p.pattern, p.depth + 1, true⟩

end Piece

/-- One character, class or condition. -/
def parseStep (flags : Flags) : List Char → Option (Pattern × List Char)
  | '.' :: r => some (ofSet (if flags.dotAll then .all else (CharSet.one '\n').compl), r)
  | '^' :: r => some (.anchor (if flags.multiLine then .lineStart else .textStart), r)
  | '$' :: r => some (.anchor (if flags.multiLine then .lineEnd else .textEnd), r)
  | '\\' :: r =>
    match parseEscape r with
    | some (.char c, r) => some (ofSet (leaf flags (.one c)), r)
    | some (.set s, r) => some (ofSet s, r)
    | some (.anchor a, r) => some (.anchor a, r)
    | none => none
  | c :: r => some (ofSet (leaf flags (.one c)), r)
  | [] => none

/-- Reads to the end of a group inside `outer` others: `before` holds the alternatives already read,
`pieces` the parts of the current one, both from the last. -/
def parseGroup : Nat → (outer : Nat) → Context → (before pieces : List Piece) →
    List Char → Option (Piece × Context × List Char)
  | 0, _, _, _, _, _ => none
  | _ + 1, outer, ctx, before, pieces, [] =>
    if outer = 0 then some (.alternatives (.sequence pieces :: before), ctx, []) else none
  | n + 1, outer, ctx, before, pieces, c :: r =>
    if c = ')' then
      if outer = 0 then none else some (.alternatives (.sequence pieces :: before), ctx, r)
    else if c = '|' then
      parseGroup n outer ctx (.sequence pieces :: before) [] r
    else if c = '(' then
      match parseOpening ctx r with
      | some (.flags flags, r) => parseGroup n outer { ctx with flags } before (.flags :: pieces) r
      | some (.group index? inner, r) =>
        if outer = nestLimit then none
        else
          match parseGroup n (outer + 1) inner [] [] r with
          | some (p, after, r) =>
            parseGroup n outer { after with flags := ctx.flags } before (p.group index? :: pieces) r
          | none => none
      | none => none
    else if c = '[' then
      match parseSet ctx.flags n 0 r with
      | some ((s, depth), r) => parseGroup n outer ctx before (⟨ofSet s, depth, true⟩ :: pieces) r
      | none => none
    else
      match parseRepetition ctx.flags (c :: r) with
      | none => none
      | some (some (t, r)) =>
        match pieces with
        | p :: rest =>
          if p.repeatable then parseGroup n outer ctx before (p.times t :: rest) r else none
        | [] => none
      | some none =>
        match parseStep ctx.flags (c :: r) with
        | some (p, r) => parseGroup n outer ctx before (.single p :: pieces) r
        | none => none

def parse? (text : String) : Option Pattern :=
  let cs := text.toList
  match parseGroup (cs.length + 2) 0 .start [] [] cs with
  | some (p, _, []) => if p.depth ≤ nestLimit ∧ p.pattern.fits then some p.pattern else none
  | _ => none

end ShardStream.Pattern

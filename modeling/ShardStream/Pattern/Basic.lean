import ShardStream.Pattern.CharSet

/-! # Patterns

Patterns are put together by `ofSet`, `ofParts`, `ofBranches` and `repeated`, which keep them in a
simple form: characters that follow each other are one literal, nothing empty stands in a sequence,
branches of one character each are a set, and what all branches start with stands before them. The
size of a pattern is that of its simple form.
-/
namespace ShardStream

/-- A condition on a position of the text. -/
inductive Pattern.Anchor where
  | textStart
  | textEnd
  | lineStart
  | lineEnd
  | wordEdge (present : Bool)
  deriving DecidableEq, Repr, Inhabited

inductive Pattern where
  | empty
  | literal (cs : List Char)
  | set (s : Pattern.CharSet)
  | anchor (a : Pattern.Anchor)
  | group (index : Nat) (p : Pattern)
  | seq (p q : Pattern)
  | alt (p q : Pattern)
  /-- At least `min` and at most `max` times, without limit if there is no `max`. A lazy repetition
  prefers few times to many. -/
  | times (p : Pattern) (min : Nat) (max : Option Nat) (lazy : Bool)
  deriving DecidableEq, Repr, Inhabited

namespace Pattern

/-- Whether only the empty text can be found for the pattern. -/
def isZeroWidth : Pattern → Bool
  | empty => true
  | literal cs => cs.isEmpty
  | set _ => false
  | anchor _ => true
  | group _ p => p.isZeroWidth
  | seq p q => p.isZeroWidth && q.isZeroWidth
  | alt p q => p.isZeroWidth && q.isZeroWidth
  | times p _ max _ => max.isSome && p.isZeroWidth

def ofSet (s : CharSet) : Pattern :=
  match s.only? with
  | some c => literal [c]
  | none => set s

def append : Pattern → Pattern → Pattern
  | seq p q, r => seq p (append q r)
  | empty, r => r
  | literal cs, literal ds => literal (cs ++ ds)
  | literal cs, seq (literal ds) r => seq (literal (cs ++ ds)) r
  | p, empty => p
  | p, r => seq p r

/-- One pattern after another. -/
def ofParts (ps : List Pattern) : Pattern := ps.foldr append empty

def parts : Pattern → List Pattern
  | seq p q => p :: parts q
  | p => [p]

def branches : Pattern → List Pattern
  | alt p q => p :: branches q
  | p => [p]

def chain : List Pattern → Pattern
  | [] => set .nothing
  | [p] => p
  | p :: ps => alt p (chain ps)

def char? : Pattern → Option Char
  | literal [c] => some c
  | _ => none

def set? : Pattern → Option CharSet
  | set s => some s
  | _ => none

/-- One set for branches that are single characters or that are sets. -/
def joined? (ps : List Pattern) : Option Pattern :=
  match ps.mapM char?, ps.mapM set? with
  | some cs, _ => some (ofSet (.ofChars cs))
  | none, some ss => some (ofSet (.unions ss))
  | none, none => none

def simpleBranches (ps : List Pattern) : Pattern := (joined? ps).getD (chain ps)

def commonStart {α : Type} [DecidableEq α] : List α → List α → List α
  | a :: as, b :: bs => if a = b then a :: commonStart as bs else []
  | _, _ => []

/-- What all the sequences start with; only a sequence of two parts or more has a start. -/
def sharedStart : List Pattern → List Pattern
  | [] => []
  | p :: ps =>
    if (p :: ps).all fun p => p.parts.length > 1 then
      ps.foldl (fun start q => commonStart start q.parts) p.parts
    else []

/-- Any one of the patterns. -/
def ofBranches (ps : List Pattern) : Pattern :=
  match ps.flatMap branches with
  | [p] => p
  | ps =>
    match joined? ps, sharedStart ps with
    | some p, _ => p
    | none, [] => chain ps
    | none, start =>
      let rests := ps.map fun p => ofParts (p.parts.drop start.length)
      ofParts (start ++ [simpleBranches (rests.flatMap branches)])

/-- A pattern repeated `min` to `max` times, where `min` is not above `max`. What takes no text
needs no repetition. -/
def repeated (p : Pattern) (min : Nat) (max : Option Nat) (lazy : Bool) : Pattern :=
  let (min, max) :=
    if p.isZeroWidth then (Nat.min min 1, some (Nat.min (max.getD 1) 1)) else (min, max)
  if max = some 0 then empty else if min = 1 ∧ max = some 1 then p else times p min max lazy

example : ofParts [literal ['a'], literal ['b'], empty] = literal ['a', 'b'] := by decide

example : repeated (anchor .textStart) 400000 (some 400000) false = anchor .textStart := by decide

end Pattern

end ShardStream

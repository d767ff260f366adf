import ShardStream.Pattern.Basic

/-! # What found texts start with

Each text that can be found for a pattern begins with one of its starts, and a whole start is all of
such a text. Starts stand in the order in which the pattern prefers them. They are kept short and
few: long ones are cut, and of a pattern that would have too many none are known. If all starts are
whole, the pattern is a choice among words, and a search only has to look for these.
-/
namespace ShardStream.Pattern

def utf8 (cs : List Char) : List UInt8 := cs.flatMap String.utf8EncodeChar

/-- Bytes that a text begins with. A whole start has nothing after it. -/
structure Start where
  bytes : List UInt8
  whole : Bool
  deriving DecidableEq, Repr

namespace Start

def size (s : Start) : Nat := s.bytes.length

/-- A start that anything may follow. -/
def opened (s : Start) : Start := ⟨s.bytes, false⟩

def cut (n : Nat) (s : Start) : Start := if s.size ≤ n then s else ⟨s.bytes.take n, false⟩

/-- Whole starts are continued; nothing is known of what follows the others. -/
def extend (s : Start) (next : List Start) : List Start :=
  if s.whole then next.map fun t => ⟨s.bytes ++ t.bytes, t.whole⟩ else [s]

/-- Neighbours with the same bytes become one. -/
def merge : List Start → List Start
  | [] => []
  | s :: rest =>
    match merge rest with
    | [] => [s]
    | t :: more =>
      if s.bytes = t.bytes then ⟨s.bytes, s.whole && t.whole⟩ :: more else s :: t :: more

/-- The starts without those that begin with an earlier one, which is preferred. -/
def preferred (ss : List Start) : List Start :=
  ss.foldl (fun kept s =>
    if kept.any fun t => t.bytes.isPrefixOf s.bytes then kept else kept ++ [s]) []

/-- What all starts have in common. -/
def shared : List Start → List UInt8
  | [] => []
  | s :: rest => rest.foldl (fun bytes t => commonStart bytes t.bytes) s.bytes

end Start

/-- The starts of a pattern, if they are known. -/
abbrev Starts := Option (List Start)

namespace Starts

/-- The most bytes of a start. -/
def byteLimit : Nat := 100

def startLimit : Nat := 250

/-- The most characters of a set that are told apart. -/
def charLimit : Nat := 10

/-- The most repetitions that are followed. -/
def repeatLimit : Nat := 10

/-- The bytes that are left of each start when there are too many. -/
def briefSize : Nat := 4

def ofWords (words : List (List Char)) : Starts :=
  some (words.map fun cs => Start.cut byteLimit ⟨utf8 cs, true⟩)

def ofSet (s : CharSet) : Starts :=
  if s.ranges.foldl (fun n r => n + (r.2 + 1 - r.1)) 0 ≤ charLimit then
    ofWords (s.ranges.flatMap fun r =>
      (List.range' r.1 (r.2 + 1 - r.1)).map fun n => [Char.ofNat n])
  else none

def opened (ss : Starts) : Starts := ss.map (List.map Start.opened)

def followedBy : Starts → Starts → Starts
  | none, _ => none
  | some ss, next =>
    if ss.any Start.whole then
      match next.filter fun ts => ss.length * ts.length ≤ startLimit with
      | some ts => some ((Start.merge (ss.flatMap fun s => s.extend ts)).map (Start.cut byteLimit))
      | none => if ss.any fun s => s.size = 0 then none else opened (some ss)
    else some ss

def or : Starts → Starts → Starts
  | some ss, some ts =>
    if ss.length + ts.length ≤ startLimit then some (Start.merge (ss ++ ts))
    else
      let ss := Start.merge (ss.map (Start.cut briefSize))
      let ts := Start.merge (ts.map (Start.cut briefSize))
      if ss.length + ts.length ≤ startLimit then some (Start.merge (ss ++ ts)) else none
  | _, _ => none

def repeated (ss : Starts) (min : Nat) (max : Option Nat) (lazy : Bool) : Starts :=
  let passed := ofWords [[]]
  if min = 0 then
    let taken := if max = some 1 then ss else ss.opened
    if lazy then passed.or taken else taken.or passed
  else
    let all := Nat.repeat (·.followedBy ss) (Nat.min min repeatLimit) passed
    if max = some min ∧ min ≤ repeatLimit then all else all.opened

end Starts

/-- What the starts of a part of a pattern are put to: the starts of the parts before it, or those
of the branches before it. -/
inductive Earlier where
  | nothing
  | parts (ss : Starts)
  | branches (ss : Starts)

def Earlier.join : Earlier → Starts → Starts
  | nothing, ts => ts
  | parts ss, ts => ss.followedBy ts
  | branches ss, ts => ss.or ts

def starts : Earlier → Pattern → Starts
  | e, empty => e.join (.ofWords [[]])
  | e, literal cs => e.join (.ofWords [cs])
  | e, set s => e.join (.ofSet s)
  | e, anchor _ => e.join (.ofWords [[]])
  | e, group _ p => e.join (p.starts .nothing)
  | .parts ss, seq p q => q.starts (.parts (p.starts (.parts ss)))
  | e, seq p q => e.join (q.starts (.parts (p.starts (.parts (.ofWords [[]])))))
  | .branches ss, alt p q => q.starts (.branches (p.starts (.branches ss)))
  | e, alt p q => e.join (q.starts (.branches (p.starts (.branches (.ofWords [])))))
  | e, times p min max lazy => e.join ((p.starts .nothing).repeated min max lazy)

def frequentChars : List Char := "\n\r (),-./0129:_abcdefghilmnoprstuvxy|".toList

/-- Whether a byte is common in texts, as the first bytes of all characters beyond ASCII are. -/
def isFrequent (b : UInt8) : Bool := 0x80 ≤ b.toNat || Char.ofNat b.toNat ∈ frequentChars

/-- Cuts the starts to so many bytes while there are more of them than what stands beside. -/
def shorten : List (Nat × Nat) → List Start → List Start
  | [], ss => ss
  | (size, most) :: rest, ss =>
    if ss.length ≤ most then ss else shorten rest (Start.preferred (ss.map (Start.cut size)))

/-- A few short starts are found faster than many words. -/
def shortenings : List (Nat × Nat) := [(5, 10), (4, 10), (3, 64), (2, 64), (1, 10)]

/-- So many words are found as fast as one. -/
def fastWords : Nat := 16

/-- What is looked for in place of `count` starts, of which the preferred ones are left: a rare byte
that all begin with, or more bytes that they have in common; else short starts, if these are not too
short and not too many. -/
def hints (count : Nat) (ss : List Start) : List Start :=
  let shared := Start.shared ss
  let rare := 1 < count ∧ shared.length ≤ 3 ∧ shared.head?.any (!isFrequent ·)
  let fast := ss.all Start.whole ∧ ss.length ≤ fastWords
  if rare then ss.map (Start.cut 1)
  else if 4 < shared.length ∨ 1 < shared.length ∧ ¬ fast then ss.map (Start.cut shared.length)
  else
    let short := shorten shortenings ss
    if short.any (fun s => s.size ≤ 2) ∨ 64 < short.length then ss else short

/-- Whether a search only has to look for the starts: there are some, and none is empty or cut. -/
def Starts.suffice : Starts → Bool
  | none => false
  | some ss =>
    !ss.isEmpty && ss.all (fun s => 0 < s.size) &&
      (hints ss.length (Start.preferred ss)).all Start.whole

/-- Whether the pattern has neither groups nor conditions. -/
def isPlain : Pattern → Bool
  | anchor _ => false
  | group _ _ => false
  | seq p q => p.isPlain && q.isPlain
  | alt p q => p.isPlain && q.isPlain
  | times p _ _ _ => p.isPlain
  | _ => true

def isLiteral : Pattern → Bool
  | literal _ => true
  | _ => false

/-- So many words are looked for as such even if they are long. -/
def manyWords : Nat := 3000

/-- Whether a search for the pattern looks for words. -/
def isWordSearch (p : Pattern) : Bool :=
  p.isPlain &&
    (manyWords ≤ p.branches.length && p.branches.all isLiteral || (p.starts .nothing).suffice)

/-- A branch that no text takes does not matter. -/
example :
    (alt (literal ['x']) (times (set .nothing) 400000 (some 400000) false)).isWordSearch =
      true := by
  decide +kernel

/-- What begins with a word that is preferred to it is never found. -/
example :
    (alt (literal ['x']) (times (literal ['x']) 20 (some 20) false)).isWordSearch = true := by
  decide +kernel

example : (times (literal ['x']) 20 (some 20) false).isWordSearch = false := by decide +kernel

end ShardStream.Pattern

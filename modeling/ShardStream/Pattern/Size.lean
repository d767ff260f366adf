import ShardStream.Pattern.ByteRange
import ShardStream.Pattern.Start

/-! # The size of patterns

A pattern is refused when an automaton for it, one for reading forwards and one for reading
backwards, takes more than ten mebibytes. An automaton reads bytes of UTF-8. Each of its states
takes 32 bytes; 8 more for each range of bytes in a state that tells several apart, and 4 more for
each way out of a state that branches. A search that only looks for words needs no automaton.
-/
namespace ShardStream.Pattern

inductive Direction where
  | forward
  | backward
  deriving DecidableEq, Repr

def states (n : Nat) : Nat := 32 * n

/-- A state that goes on by the byte read, with so many ranges of bytes. -/
def choice (ranges : Nat) : Nat := 32 + 8 * ranges

/-- A state with so many ways out that take no byte. -/
def branching (ways : Nat) : Nat := 32 + 4 * ways

/-- The states of the tree of the rows, one for each list of rows that can follow. -/
def follows : Nat → List ByteRow → List (List ByteRow)
  | 0, _ => []
  | n + 1, rows =>
    if rows.all List.isEmpty then []
    else rows :: (heads rows).flatMap fun h => follows n (tails rows h)

/-- How many distinct starts the rows have. -/
def startCount : Nat → List ByteRow → Nat
  | 0, _ => 0
  | n + 1, rows => (heads rows).foldl (fun k h => k + 1 + startCount n (tails rows h)) 0

/-- The most bytes that a character has. -/
def longestForm : Nat := 4

/-- Forwards, rows share what they end with; backwards, they share what they start with. -/
def CharSet.size (d : Direction) (s : CharSet) : Nat :=
  if s.isAscii then states 1 + choice s.ranges.length
  else
    let rows := s.byteRows
    match d with
    | .forward =>
      (follows longestForm rows).eraseDups.foldl (fun k rows => k + choice (heads rows).length)
        (states 1)
    | .backward => branching rows.length + states (1 + startCount longestForm rows)

/-- Divides the words that are still to be told apart where one of them ends. -/
def sections (words : List (List UInt8)) : List (List (List UInt8)) :=
  match words with
  | [] :: rest => [] :: (rest.dropWhile List.isEmpty).splitOn []
  | words => words.splitOn []

/-- The states that tell words apart, after some of their bytes. Words are in order of preference,
so a word that ends divides those before it from those after it. -/
def treeSize : Nat → List (List UInt8) → Nat
  | 0, _ => 0
  | n + 1, words =>
    if words.all List.isEmpty then 0
    else
      let parts := (sections words).map fun part =>
        let bytes := (part.filterMap List.head?).eraseDups
        let size := if bytes.length = 0 then 0 else if bytes.length = 1 then states 1
          else choice bytes.length
        let rest := bytes.foldl (fun k b => k + treeSize n (part.filterMap fun word =>
          if word.head? = some b then some word.tail else none)) 0
        (size, rest)
      let ways := (parts.filter fun p => p.1 ≠ 0).length + parts.length - 1
      parts.foldl (fun k p => k + p.1 + p.2) (if ways = 1 then 0 else branching ways)

def wordsSize (d : Direction) (words : List (List Char)) : Nat :=
  let words := words.map fun cs => if d = .forward then utf8 cs else (utf8 cs).reverse
  states 1 + treeSize (words.foldl (fun n w => Nat.max n w.length) 0 + 1) words

def word? : Pattern → Option (List Char)
  | literal cs => some cs
  | _ => none

/-- The least length of a text that the pattern can be found for, if there is any such text. -/
def leastLength : Pattern → Option Nat
  | empty => some 0
  | literal cs => some cs.length
  | set s => if s = .nothing then none else some 1
  | anchor _ => some 0
  | group _ p => p.leastLength
  | seq p q => p.leastLength.bind fun m => q.leastLength.map (m + ·)
  | alt p q => p.leastLength.bind fun m => q.leastLength.map (Nat.min m)
  | times p min _ _ => p.leastLength.map (· * min)

def repetitionSize (size : Nat) (takesText : Bool) (min : Nat) : (max : Option Nat) → Nat
  | none =>
    if min = 0 then
      if takesText then size + branching 2 else size + 2 * branching 2 + states 1
    else min * size + branching 2
  | some max =>
    if min = max then min * size
    else if min = 0 ∧ max = 1 then size + branching 2 + states 1
    else (if min = 0 then states 1 else min * size) + states 1 + (max - min) * (size + branching 2)

/-- The size of a pattern, where the further branches of an alternative only add their own. -/
def size (d : Direction) : (further : Bool) → Pattern → Nat
  | _, empty => states 1
  | _, literal cs => states (utf8 cs).length
  | _, set s => s.size d
  | _, anchor _ => states 1
  | _, group _ p => (if d = .forward then states 2 else 0) + p.size d false
  | _, seq p q => p.size d false + q.size d false
  | false, alt p q =>
    match (alt p q).branches.mapM word? with
    | some words => wordsSize d words
    | none => branching 2 + states 1 + p.size d false + q.size d true
  | true, alt p q => 4 + p.size d false + q.size d true
  | _, times p min max _ =>
    repetitionSize (p.size d false) (p.leastLength.any (0 < ·)) min max

/-- Whether the pattern can only be found at the start of the text. -/
def startsText : Pattern → Bool
  | anchor a => a = .textStart
  | group _ p => p.startsText
  | seq p q => p.startsText || p.isZeroWidth && q.startsText
  | alt p q => p.startsText && q.startsText
  | times p min _ _ => 0 < min && p.startsText
  | _ => false

/-- Whether the pattern can only be found at the end of the text. -/
def endsText : Pattern → Bool
  | anchor a => a = .textEnd
  | group _ p => p.endsText
  | seq p q => q.endsText || q.isZeroWidth && p.endsText
  | alt p q => p.endsText && q.endsText
  | times p min _ _ => 0 < min && p.endsText
  | _ => false

/-- What skips the text before the place where the pattern is found. -/
def skipSize (bound : Bool) : Nat :=
  if bound then states 1 else branching 2 + states 1 + choice 1

def automatonSize (p : Pattern) : Direction → Nat
  | .forward => skipSize p.startsText + states 2 + p.size .forward false + states 1
  | .backward => skipSize p.endsText + p.size .backward false + states 1

def sizeLimit : Nat := 10 * 1024 * 1024

def fits (p : Pattern) : Bool :=
  p.automatonSize .forward ≤ sizeLimit && p.automatonSize .backward ≤ sizeLimit || p.isWordSearch

example : (times (literal ['a']) 327673 (some 327673) false).fits = true := by decide +kernel

example : (times (literal ['a']) 327674 (some 327674) false).fits = false := by decide +kernel

end ShardStream.Pattern

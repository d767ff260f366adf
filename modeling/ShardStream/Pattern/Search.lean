import ShardStream.Pattern.Parse

/-! # Searching a text for a pattern

A search reads the text once, from left to right, with marks in the pattern: a mark says that what
has been read up to here can end at this character of the pattern. Each character that is read moves
the marks on. The pattern is found as soon as a mark can be the last one. Only that is asked, so it
does not matter how much a repetition prefers to take.
-/
namespace ShardStream.Pattern

/-- A place in a text: the characters on both sides of it. -/
structure Place where
  before : Option Char
  after : Option Char
  deriving DecidableEq, Repr

def Anchor.holds (here : Place) : Anchor → Bool
  | textStart => here.before.isNone
  | textEnd => here.after.isNone
  | lineStart => here.before.all (· = '\n')
  | lineEnd => here.after.all (· = '\n')
  | wordEdge present =>
    (here.before.any CharSet.word.mem != here.after.any CharSet.word.mem) == present

/-- A pattern with marks, at a place. Of a composed one it is kept whether it `skips`, that is, can
be passed here without reading anything; whether it `ends`, that is, has a mark that can be its
last; and whether it is `idle`: without marks and conditions, so that it stays as it is until it is
entered. -/
inductive Marked where
  | empty
  /-- From `min` to `max` characters of a set. Bit `n` of the marks stands for `n` characters. -/
  | run (s : CharSet) (min max : Nat) (marks : Nat)
  | anchor (a : Anchor) (holds : Bool)
  | seq (p q : Marked) (skips ends idle : Bool)
  | alt (p q : Marked) (skips ends idle : Bool)
  /-- Once or more often. -/
  | loop (p : Marked) (skips ends idle : Bool)
  deriving Repr

namespace Marked

def skips : Marked → Bool
  | empty => true
  | run _ min _ _ => min == 0
  | anchor _ holds => holds
  | seq _ _ skips _ _ => skips
  | alt _ _ skips _ _ => skips
  | loop _ skips _ _ => skips

def ends : Marked → Bool
  | empty => false
  | run _ min _ marks => Nat.shiftRight marks min != 0
  | anchor _ _ => false
  | seq _ _ _ ends _ => ends
  | alt _ _ _ ends _ => ends
  | loop _ _ ends _ => ends

def idle : Marked → Bool
  | empty => true
  | run _ _ _ marks => marks == 0
  | anchor _ _ => false
  | seq _ _ _ _ idle => idle
  | alt _ _ _ _ idle => idle
  | loop _ _ _ idle => idle

def andThen (p q : Marked) : Marked :=
  seq p q (p.skips && q.skips) (p.ends && q.skips || q.ends) (p.idle && q.idle)

def or (p q : Marked) : Marked :=
  alt p q (p.skips || q.skips) (p.ends || q.ends) (p.idle && q.idle)

def again (p : Marked) : Marked := loop p p.skips p.ends p.idle

/-- One pattern without marks after another. Runs of the same set become one. -/
def join : Marked → Marked → Marked
  | empty, q => q
  | p, empty => p
  | run s a b m, run t c d n =>
    if s = t then run s (a + c) (b + d) 0 else (run s a b m).andThen (run t c d n)
  | run s a b m, seq (run t c d n) q skips ends idle =>
    if s = t then (run s (a + c) (b + d) 0).andThen q
    else (run s a b m).andThen (seq (run t c d n) q skips ends idle)
  | p, q => p.andThen q

def optional : Marked → Marked
  | run s 1 max _ => run s 0 max 0
  | p => or empty p

/-- So many times in a row, halved at each step to stay shallow. -/
def copies (p : Marked) (n : Nat) : Marked :=
  if n = 0 then empty
  else if n = 1 then p
  else (copies p (n / 2)).join (copies p (n - n / 2))
termination_by n

/-- Repeats a pattern without marks. In a text of less than `limit` characters, `limit` repetitions
lead no further than any larger number of them. -/
def times (limit : Nat) (p : Marked) (min : Nat) : (max : Option Nat) → Marked
  | some max =>
    let low := Nat.min min limit
    let more := Nat.min (max - min) limit
    match p with
    | run s a b _ =>
      if more = 0 ∨ (low + 1) * a ≤ low * b + 1 then run s (low * a) ((low + more) * b) 0
      else (run s (low * a) (low * b) 0).join (copies (optional p) more)
    | p => (copies p low).join (copies p.optional more)
  | none =>
    if min = 0 then p.again.optional
    else
      let low := Nat.min (min - 1) limit
      match p with
      | run s a b _ => (run s (low * a) (low * b) 0).andThen p.again
      | p => (copies p low).join p.again

/-- Reads a character. `here` is the place after it, and `enter` says whether the pattern may start
with it. -/
def read (c : Char) (here : Place) : (enter : Bool) → Marked → Marked
  | _, empty => empty
  | enter, run s min max marks =>
    if (enter || marks != 0) && s.mem c then
      run s min max (Nat.shiftLeft (marks + enter.toNat) 1 % Nat.shiftLeft 1 (max + 1))
    else run s min max 0
  | _, anchor a _ => anchor a (a.holds here)
  | enter, seq p q skips ends idle =>
    if idle && !enter then seq p q skips ends idle
    else (p.read c here enter).andThen (q.read c here (enter && p.skips || p.ends))
  | enter, alt p q skips ends idle =>
    if idle && !enter then alt p q skips ends idle
    else (p.read c here enter).or (q.read c here enter)
  | enter, loop p skips ends idle =>
    if idle && !enter then loop p skips ends idle
    else (p.read c here (enter || p.ends)).again

/-- Whether the pattern is found that ends here or starts somewhere from here on. -/
def isFound (p : Marked) (rest : List Char) : Bool :=
  p.skips || p.ends ||
    match rest with
    | [] => false
    | c :: rest => (p.read c ⟨some c, rest.head?⟩ true).isFound rest

end Marked

/-- The pattern without marks, at a place of a text of less than `limit` characters. -/
def unmarked (here : Place) (limit : Nat) : Pattern → Marked
  | empty => .empty
  | literal cs => cs.foldr (fun c p => (Marked.run (.one c) 1 1 0).join p) .empty
  | set s => .run s 1 1 0
  | anchor a => .anchor a (a.holds here)
  | group _ p => p.unmarked here limit
  | seq p q => (p.unmarked here limit).join (q.unmarked here limit)
  | alt p q => (p.unmarked here limit).or (q.unmarked here limit)
  | times p min max _ => (p.unmarked here limit).times limit min max

def isFoundIn (p : Pattern) (text : String) : Bool :=
  let cs := text.toList
  (p.unmarked ⟨none, cs.head?⟩ (cs.length + 1)).isFound cs

/-- The search for a pattern, if that can be read. -/
def search? (pattern : String) : Option (String → Bool) := (parse? pattern).map isFoundIn

end ShardStream.Pattern

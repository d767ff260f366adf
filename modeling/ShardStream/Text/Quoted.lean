import ShardStream.Text.Ranges
import ShardStream.Text.Unprintable

/-! # Quoted texts for diagnostics

A text shown between quotation marks, so that its ends and its invisible characters can be seen.
-/
namespace ShardStream.Text

def showChar (c : Char) : List Char :=
  if c = '"' then ['\\', '"']
  else if c = '\\' then ['\\', '\\']
  else if c = '\t' then ['\\', 't']
  else if c = '\n' then ['\\', 'n']
  else if c = '\r' then ['\\', 'r']
  else if c.toNat = 0 then ['\\', '0']
  else if ' ' ≤ c ∧ c ≤ '~' then [c]
  else if inRanges unprintableRanges c then
    ['\\', 'u', '{'] ++ Nat.toDigits 16 c.toNat ++ ['}']
  else [c]

/-- A quoted text up to its closing mark. -/
def openQuoted (s : String) : String := String.ofList ('"' :: s.toList.flatMap showChar)

def quoted (s : String) : String := openQuoted s ++ "\""

def quotedList (texts : List String) : String :=
  "[" ++ ", ".intercalate (texts.map quoted) ++ "]"

example : quoted "a\"b\\\n" = "\"a\\\"b\\\\\\n\"" := by decide +kernel

end ShardStream.Text

import ShardStream.Time.Instant
import ShardStream.Text.Blank
import ShardStream.Text.Decimal

/-! # Dates and times in RFC 3339 form

Instants are written in UTC with as many fraction digits as they need: none, three, six or nine.
Years outside 0000 to 9999 carry their sign. Reading is more liberal: any offset, a space in place
of the `T`, blanks around the parts, parts of fewer digits, and fraction digits past the ninth,
which are dropped.
-/
namespace ShardStream.Time

def padded (width n : Nat) : List Char :=
  List.replicate (width - (Text.decimal n).length) '0' ++ Text.decimal n

def yearText (y : Int) : List Char :=
  if 0 ≤ y ∧ y ≤ 9999 then padded 4 y.toNat
  else (if y < 0 then '-' else '+') :: padded 4 y.natAbs

/-- The fraction of a second, in nanoseconds. -/
def fractionText (n : Nat) : List Char :=
  if n = 0 then []
  else if n % 1000000 = 0 then '.' :: padded 3 (n / 1000000)
  else if n % 1000 = 0 then '.' :: padded 6 (n / 1000)
  else '.' :: padded 9 n

def clockText (secondOfDay nano : Nat) : List Char :=
  let leap := nano / 1000000000
  padded 2 (secondOfDay / 3600) ++ ':' :: padded 2 (secondOfDay / 60 % 60) ++
    ':' :: padded 2 (secondOfDay % 60 + leap) ++ fractionText (nano % 1000000000)

def render (t : Instant) : String :=
  let date := Date.ofDayNumber (t.second / 86400)
  String.ofList (yearText date.year ++ '-' :: padded 2 date.month ++ '-' :: padded 2 date.day ++
    'T' :: clockText (t.second % 86400).toNat t.nano ++ ['Z'])

/-- A number of one to `width` digits. -/
def scanNumber (width : Nat) (cs : List Char) : Option (Nat × List Char) :=
  let digits := (cs.take width).takeWhile Char.isDigit
  (Text.readDigits? digits).map fun n => (n, cs.drop digits.length)

/-- Four digits at most, or any number of them after a sign. -/
def scanYear : List Char → Option (Int × List Char)
  | '-' :: r => (scanNumber r.length r).map fun (n, r) => (-(n : Int), r)
  | '+' :: r => (scanNumber r.length r).map fun (n, r) => ((n : Int), r)
  | r => (scanNumber 4 r).map fun (n, r) => ((n : Int), r)

def scanChar (c : Char) : List Char → Option (List Char)
  | x :: r => if x = c then some r else none
  | [] => none

/-- A two-digit part, with blanks before it. -/
def scanPart (cs : List Char) : Option (Nat × List Char) := scanNumber 2 (Text.trimStart cs)

/-- A two-digit part after a separator, with blanks before each. -/
def scanNext (c : Char) (cs : List Char) : Option (Nat × List Char) := do
  scanPart (← scanChar c (Text.trimStart cs))

def scanDate (cs : List Char) : Option (Date × List Char) := do
  let (year, r) ← scanYear (Text.trimStart cs)
  let (month, r) ← scanNext '-' r
  let (day, r) ← scanNext '-' r
  return (⟨year, month, day⟩, r)

/-- The fraction of a second in nanoseconds; there need not be one. -/
def scanNano : List Char → Option (Nat × List Char)
  | '.' :: r => do
    let (n, _) ← scanNumber 9 r
    let places := ((r.take 9).takeWhile Char.isDigit).length
    return (n * Nat.pow 10 (9 - places), r.dropWhile Char.isDigit)
  | r => some (0, r)

def scanMinutes : List Char → Option (Nat × List Char)
  | a :: b :: r => if '0' ≤ a ∧ a ≤ '5' ∧ b.isDigit then
      some ((a.toNat - 48) * 10 + (b.toNat - 48), r) else none
  | _ => none

/-- The offset from UTC in seconds. -/
def scanOffset (cs : List Char) : Option (Int × List Char) :=
  if (cs.take 3).map Char.toUpper = ['U', 'T', 'C'] then some (0, cs.drop 3)
  else
    match cs with
    | 'Z' :: r => some (0, r)
    | 'z' :: r => some (0, r)
    | sign :: a :: b :: r =>
      if (sign = '+' ∨ sign = '-' ∨ sign = '\u2212') ∧ a.isDigit ∧ b.isDigit then do
        let hours := (a.toNat - 48) * 10 + (b.toNat - 48)
        let (minutes, r) ← scanMinutes (r.dropWhile fun c => c = ':' || Text.isBlank c)
        let seconds : Int := hours * 3600 + minutes * 60
        return (if sign = '+' then seconds else -seconds, r)
      else none
    | _ => none

structure Clock where
  hour : Nat
  minute : Nat
  second : Nat
  nano : Nat

def scanClock (cs : List Char) : Option (Clock × List Char) := do
  let (hour, r) ← scanPart cs
  let (minute, r) ← scanNext ':' r
  let (second, r) ← scanNext ':' r
  let (nano, r) ← scanNano r
  return (⟨hour, minute, second, nano⟩, r)

/-- Second 60 is the leap second after second 59. -/
def Clock.isValid (c : Clock) : Bool := c.hour < 24 && c.minute < 60 && c.second ≤ 60

def Clock.leap (c : Clock) : Nat := c.second / 60

/-- The instant that a date and a clock show at an offset. Both the local time and the time in UTC
must be within the calendar's reach. -/
def assemble (date : Date) (clock : Clock) (offset : Int) : Option Instant :=
  if date.isValid ∧ clock.isValid ∧ offset.natAbs < 86400 then do
    let second : Int := date.dayNumber * 86400 + clock.hour * 3600 + clock.minute * 60 +
      (clock.second - clock.leap : Nat)
    let nano := clock.nano + clock.leap * 1000000000
    let _ ← Instant.of? second nano
    Instant.of? (second - offset) nano
  else none

def parse (text : String) : Option Instant := do
  let (date, r) ← scanDate text.toList
  let separator ← r.head?
  if separator = 'T' ∨ separator = 't' ∨ separator = ' ' then
    let (clock, r) ← scanClock r.tail
    let (offset, r) ← scanOffset (Text.trimStart r)
    if Text.trimStart r = [] then assemble date clock offset else none
  else none

end ShardStream.Time

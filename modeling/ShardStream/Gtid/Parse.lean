import ShardStream.Gtid.Set
import ShardStream.Text.Blank
import ShardStream.Text.Cut

/-! # Reading GTID sets

A set is written `flavor/host:interval:interval,host:interval`. The flavor may be missing, a host
may occur more than once, and blanks around hosts, intervals and numbers do not count. An empty
text and the word `NULL` are the empty set.
-/
namespace ShardStream.Gtid

/-- A host with the intervals written for it. -/
abbrev Item := String × List Interval

def parseSequence (interval cs : List Char) : Except Fault UInt64 :=
  match Text.readWord? (Text.trim cs) with
  | some n => .ok n
  | none => .error (.invalidSequence (String.ofList interval))

def parseInterval (piece : List Char) : Except Fault Interval := do
  let interval := Text.trim piece
  match Text.cutAt '-' interval with
  | some (a, b) =>
    let first ← parseSequence interval a
    let last ← parseSequence interval b
    Interval.make first last
  | none =>
    let n ← parseSequence interval interval
    Interval.make n n

/-- `gtid` is the whole text, for the fault. -/
def parseItem (gtid : String) (item : List Char) : Except Fault Item := do
  match (Text.trim item).splitOn ':' with
  | [] => .error (.missingHost gtid)
  | head :: pieces =>
    let host := Text.trim head
    if host = [] then .error (.missingHost gtid)
    else
      let rs ← pieces.mapM parseInterval
      if pieces = [] then .error (.noIntervals (String.ofList host) gtid)
      else .ok (String.ofList host, rs)

/-- The flavor, if there is one, and the list of items. -/
def parseFlavor (gtid : List Char) : Except Fault (Option String × List Char) :=
  match Text.cutAt '/' gtid with
  | some ([], _) => .error (.emptyFlavor (String.ofList gtid))
  | some (flavor, body) => .ok (some (String.ofList flavor), body)
  | none => .ok (none, gtid)

def ofItems (flavor : Option String) (items : List Item) : GtidSet :=
  items.foldl (fun s item => s.addHost item.1 item.2) ⟨flavor, .empty⟩

def isNothing (gtid : List Char) : Bool := gtid = [] || gtid = ['N', 'U', 'L', 'L']

def parseBody (gtid : List Char) : Except Fault GtidSet := do
  let (flavor, body) ← parseFlavor gtid
  let items ← (body.splitOn ',').mapM (parseItem (String.ofList gtid))
  return ofItems flavor items

end ShardStream.Gtid

namespace ShardStream.GtidSet

def parse (text : String) : Except Fault GtidSet :=
  let gtid := Text.trim text.toList
  if Gtid.isNothing gtid then .ok .empty else Gtid.parseBody gtid

end ShardStream.GtidSet

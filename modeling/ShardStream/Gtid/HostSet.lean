import ShardStream.Gtid.Interval

/-! # The transactions of one host

The sequence numbers executed on one host, as a list of intervals. Adding an interval sorts the
list and merges what overlaps or touches, so the list stays the shortest one for its numbers.
-/
namespace ShardStream.Gtid

structure HostSet where
  host : String
  intervals : List Interval
  deriving DecidableEq, Repr, Inhabited

namespace HostSet

/-- Merges neighbours from left to right, starting with `a`. -/
def coalesceFrom (a : Interval) : List Interval → List Interval
  | [] => [a]
  | b :: rest =>
    match a.merge? b with
    | some m => coalesceFrom m rest
    | none => a :: coalesceFrom b rest

def coalesce : List Interval → List Interval
  | [] => []
  | a :: rest => coalesceFrom a rest

def sort (rs : List Interval) : List Interval := rs.mergeSort fun a b => a.order b != .gt

def empty (host : String) : HostSet := ⟨host, []⟩

def add (h : HostSet) (r : Interval) : HostSet :=
  { h with intervals := coalesce (sort (h.intervals ++ [r])) }

def addAll (h : HostSet) (rs : List Interval) : HostSet := rs.foldl add h

def contains (h : HostSet) (n : UInt64) : Bool := h.intervals.any (·.contains n)

/-- The largest sequence number executed on the host. -/
def greatest? (h : HostSet) : Option UInt64 := (h.intervals.map (·.last)).max?

def text (h : HostSet) : List Char :=
  h.host.toList ++ h.intervals.flatMap fun r => ':' :: r.text

def format : Json.Format HostSet :=
  (((Json.Record.required "uuid" .text).and (.required "ranges" (.list Interval.format))).imap
    (fun p => ⟨p.1, p.2⟩) (fun h => (h.host, h.intervals))).format

end HostSet

end ShardStream.Gtid

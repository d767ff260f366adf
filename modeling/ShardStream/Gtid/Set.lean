import ShardStream.Gtid.HostSet

/-! # Sets of global transaction identifiers

The transactions executed on a shard: for each host the sequence numbers executed there, with the
flavor of replication that numbers them.
-/
namespace ShardStream

structure GtidSet where
  flavor : Option String
  hosts : KeyMap Gtid.HostSet
  deriving DecidableEq

namespace GtidSet

def empty : GtidSet := ⟨none, .empty⟩

instance : Inhabited GtidSet := ⟨empty⟩

def isEmpty (s : GtidSet) : Bool := s.hosts.values.all (·.intervals.isEmpty)

/-- The largest sequence number of each host that has one, in order of the hosts. -/
def maxima (s : GtidSet) : List UInt64 := s.hosts.values.filterMap (·.greatest?)

def contains (s : GtidSet) (host : String) (n : UInt64) : Bool :=
  ((s.hosts.get? host).map (·.contains n)).getD false

def coversHostsOf (s t : GtidSet) : Bool := t.hosts.keys.all s.hosts.contains

def sameHosts (s t : GtidSet) : Bool := s.hosts.size = t.hosts.size && s.coversHostsOf t

/-- Adds intervals to those of a host. -/
def addHost (s : GtidSet) (host : String) (rs : List Gtid.Interval) : GtidSet :=
  { s with hosts := s.hosts.insert host ((s.hosts.getD host (.empty host)).addAll rs) }

/-- Hosts without intervals are not written. -/
def text (s : GtidSet) : String :=
  let parts := (s.hosts.values.filter fun h => !h.intervals.isEmpty).map (·.text)
  let flavor := (s.flavor.map fun f => f.toList ++ ['/']).getD []
  String.ofList (flavor ++ [','].intercalate parts)

def format : Json.Format GtidSet :=
  (((Json.Record.optional "flavor" .text).and (.required "sets" (.keyMap Gtid.HostSet.format))).imap
    (fun p => ⟨p.1, p.2⟩) (fun s => (s.flavor, s.hosts))).format

end GtidSet

end ShardStream

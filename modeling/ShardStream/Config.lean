import ShardStream.Vgtid

/-! # Configuration of a session

A configuration is read from named settings, each of which may be missing. Numbers and switches are
looked at first; then the configuration as a whole is checked. How patterns for table names are read
and searched for is left to a library that the caller brings.
-/
namespace ShardStream

/-- A library of patterns gives the search for a pattern in a text, or refuses the pattern. -/
abbrev Patterns := String → Option (String → Bool)

/-- A span of time. -/
structure Duration where
  second : UInt64
  nano : Nat
  within : nano < 1000000000
  deriving DecidableEq, Repr

namespace Duration

def zero : Duration := ⟨0, 0, by decide⟩

def ofMillis (n : UInt64) : Duration where
  second := n / 1000
  nano := (n % 1000).toNat * 1000000
  within := by
    have hlt : (n % 1000).toNat < 1000 := by
      rw [UInt64.toNat_mod]
      exact Nat.mod_lt _ (by decide)
    omega

end Duration

/-- What a session reads and how. The sizes are in bytes. -/
structure Config where
  serverName : String
  keyspace : String
  /-- Without shards the whole keyspace is read. -/
  shards : List String
  gtid : String
  pollInterval : Duration
  /-- Whether transactions are given their order among the transactions of all shards. -/
  ordered : Bool
  largeRowThreshold : UInt64
  /-- The tables whose large rows are noticed; without a pattern, all of them. -/
  largeRowPattern : Option String
  /-- How many events may wait until somebody takes them. -/
  capacity : UInt64
  deriving DecidableEq, Repr

namespace Config

def standard : Config where
  serverName := "vitess"
  keyspace := "commerce"
  shards := []
  gtid := ShardPosition.current
  pollInterval := .ofMillis 500
  ordered := false
  largeRowThreshold := 10000
  largeRowPattern := none
  capacity := 1024

instance : Inhabited Config := ⟨standard⟩

/-- Where a new session starts. -/
def startPosition (c : Config) : Vgtid := Vgtid.start c.keyspace c.shards c.gtid

def isBlankText (s : String) : Bool := Text.trim s.toList = []

def validate (c : Config) (patterns : Patterns) : Except Fault Unit :=
  if isBlankText c.serverName then .error .emptyServerName
  else if isBlankText c.keyspace then .error .emptyKeyspace
  else if c.pollInterval = .zero then .error .zeroPollInterval
  else if c.capacity = 0 then .error .zeroCapacity
  else
    match c.largeRowPattern with
    | some p => if (patterns p).isSome then .ok () else .error (.invalidRowPattern p)
    | none => .ok ()

/-- Names are separated by commas; blanks around them and empty names do not count. -/
def readShards (s : String) : List String :=
  (((s.toList.splitOn ',').map Text.trim).filter (· ≠ [])).map String.ofList

def readSwitch? (cs : List Char) : Option Bool :=
  if cs = ['t', 'r', 'u', 'e'] then some true
  else if cs = ['f', 'a', 'l', 's', 'e'] then some false
  else none

/-- Reads a setting without the blanks around its value; a missing one has the standard value. -/
def readSetting {α : Type} (settings : String → Option String) (name : String) (standard : α)
    (read? : List Char → Option α) : Except Fault α :=
  match settings name with
  | none => .ok standard
  | some s =>
    match read? (Text.trim s.toList) with
    | some a => .ok a
    | none => .error (.invalidSetting name s)

def settingNames : List String :=
  ["VITESS_SERVER_NAME", "VITESS_KEYSPACE", "VITESS_SHARDS", "VITESS_GTID",
   "VITESS_POLL_INTERVAL_MS", "VITESS_ORDERED_TX_METADATA", "VITESS_LARGE_ROW_BYTES",
   "VITESS_LARGE_ROW_TABLE_PATTERN"]

def ofSettings (patterns : Patterns) (settings : String → Option String) :
    Except Fault Config := do
  let pollInterval ← readSetting settings "VITESS_POLL_INTERVAL_MS" standard.pollInterval
    fun cs => (Text.readWord? cs).map .ofMillis
  let ordered ← readSetting settings "VITESS_ORDERED_TX_METADATA" standard.ordered readSwitch?
  let largeRowThreshold ←
    readSetting settings "VITESS_LARGE_ROW_BYTES" standard.largeRowThreshold Text.readWord?
  let config : Config :=
    { serverName := (settings "VITESS_SERVER_NAME").getD standard.serverName
      keyspace := (settings "VITESS_KEYSPACE").getD standard.keyspace
      shards := ((settings "VITESS_SHARDS").map readShards).getD standard.shards
      gtid := (settings "VITESS_GTID").getD standard.gtid
      pollInterval, ordered, largeRowThreshold
      largeRowPattern := settings "VITESS_LARGE_ROW_TABLE_PATTERN"
      capacity := standard.capacity }
  config.validate patterns
  return config

end Config

end ShardStream

import ShardStream.Text.Quoted

/-! # Faults

A fault names the cause of a failure. Its kind gives the heading under which it is reported, its
detail the text after the heading.
-/
namespace ShardStream

inductive FaultKind where
  | connection | identifier | vgtid | table | dispatch | config | state | serialization
  | channelClosed | other
  deriving DecidableEq, Repr

namespace FaultKind

def all : List FaultKind :=
  [connection, identifier, vgtid, table, dispatch, config, state, serialization, channelClosed,
   other]

def name : FaultKind → String
  | connection => "ConnectionError"
  | identifier => "InvalidIdentifier"
  | vgtid => "VgtidError"
  | table => "UnresolvableTable"
  | dispatch => "DispatchError"
  | config => "ConfigError"
  | state => "InvalidState"
  | serialization => "SerializationError"
  | channelClosed => "ChannelClosed"
  | other => "Other"

def heading : FaultKind → String
  | connection => "복제 연결 에러"
  | identifier => "유효하지 않은 트랜잭션 식별자"
  | vgtid => "VGTID 처리 에러"
  | table => "테이블을 해석할 수 없습니다"
  | dispatch => "이벤트 디스패치 에러"
  | config => "설정 에러"
  | state => "잘못된 세션 상태"
  | serialization => "직렬화 에러"
  | channelClosed => "채널이 닫혔습니다"
  | other => "예상치 못한 에러"

end FaultKind

/-- Why something failed. `reported` is a fault that came from outside with a text of its own. -/
inductive Fault where
  | reversedInterval (first last : UInt64)
  | invalidSequence (interval : String)
  | emptyFlavor (gtid : String)
  | missingHost (gtid : String)
  | noIntervals (host gtid : String)
  | emptyIdentifier (id : String)
  | noIdentifier (keyspace shard : String)
  | emptyVgtid (json : String)
  | offsetWithoutPositions (json : String)
  | nothingToResume
  | invalidTimestamp (micros : Int64)
  | unresolvableTable (table shard : String)
  | emptyServerName
  | emptyKeyspace
  | zeroPollInterval
  | zeroCapacity
  | invalidRowPattern (pattern : String)
  | invalidTablePattern (pattern : String)
  | invalidSetting (name value : String)
  | alreadyFailed (operation : String)
  | alreadyStarted
  | streamEnded
  | deliveryPanicked
  | malformedJson
  | receiverClosed
  | reported (kind : FaultKind) (text : String)
  deriving DecidableEq, Repr

namespace Fault

def kind : Fault → FaultKind
  | reversedInterval .. | invalidSequence _ | emptyFlavor _ | missingHost _ | noIntervals ..
  | emptyIdentifier _ | noIdentifier .. => .identifier
  | emptyVgtid _ | offsetWithoutPositions _ | nothingToResume | invalidTimestamp _ => .vgtid
  | unresolvableTable .. => .table
  | emptyServerName | emptyKeyspace | zeroPollInterval | zeroCapacity | invalidRowPattern _
  | invalidTablePattern _ | invalidSetting .. => .config
  | alreadyFailed _ | alreadyStarted => .state
  | streamEnded | deliveryPanicked => .connection
  | malformedJson => .serialization
  | receiverClosed => .channelClosed
  | reported kind _ => kind

/-- The text after the heading. What a pattern or a JSON text is blamed for in particular is left
out, so the details of these faults end early. -/
def detail : Fault → String
  | reversedInterval first last => s!"Invalid range: {first}-{last}"
  | invalidSequence interval => s!"Invalid sequence: {interval}"
  | emptyFlavor gtid => s!"Empty flavor in GTID: {gtid}"
  | missingHost gtid => s!"Missing host id in GTID: {gtid}"
  | noIntervals host gtid => s!"No intervals for host {host} in GTID: {gtid}"
  | emptyIdentifier id => s!"Empty transaction id: '{id}'"
  | noIdentifier keyspace shard => s!"No transaction id for BEGIN on {keyspace}/{shard}"
  | emptyVgtid json => s!"Empty vgtid: {json}"
  | offsetWithoutPositions json => s!"Stored offset has no shard positions: {json}"
  | nothingToResume => "Cannot resume from an empty vgtid"
  | invalidTimestamp micros => s!"Invalid offset timestamp: {micros}"
  | unresolvableTable table shard => s!"'{table}' on shard {shard}"
  | emptyServerName => "server_name must not be empty"
  | emptyKeyspace => "keyspace must not be empty"
  | zeroPollInterval => "poll_interval must be positive"
  | zeroCapacity => "dispatch_channel_capacity must be positive"
  | invalidRowPattern pattern => s!"Invalid large row table pattern {pattern}: "
  | invalidTablePattern pattern => s!"Invalid table pattern {pattern}: "
  | invalidSetting name value => s!"Invalid value for {name}: {value}"
  | alreadyFailed operation => s!"Session already failed, rejecting {operation} message"
  | alreadyStarted => "Replication stream was already started"
  | streamEnded => "Replication stream ended"
  | deliveryPanicked => "Delivery task panicked: "
  | malformedJson => ""
  | receiverClosed => ""
  | reported _ text => text

def message (f : Fault) : String :=
  if f.kind = .channelClosed then f.kind.heading else f.kind.heading ++ ": " ++ f.detail

/-- Whether the detail ends before particulars that are not part of it. -/
def isCutShort : Fault → Bool
  | invalidRowPattern _ | invalidTablePattern _ | deliveryPanicked => true
  | _ => false

/-- The fault as a program reports it that cannot go on. -/
def report (f : Fault) : String :=
  if f.kind = .channelClosed then f.kind.name
  else f.kind.name ++ "(" ++ Text.openQuoted f.detail ++ if f.isCutShort then "" else "\")"

end Fault

end ShardStream

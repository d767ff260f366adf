import ShardStream.Vgtid
import ShardStream.TableId
import ShardStream.Text.Quoted

/-! # Notices

A notice reports something that is worth attention and stops nothing.
-/
namespace ShardStream

inductive Notice where
  | unreadableRestart (shard : String) (fault : Fault)
  | hostsChanged (shard : String) (before after : GtidSet) (epoch : UInt64)
  | movedBackwards (shards : List String) (before after : Vgtid)
  | beginWhileOpen (shard transactionId : String)
  | commitWithoutBegin (shard : String)
  | largeRow (table : TableId) (shard : String) (bytes threshold : Nat)
  | laterFaultDropped (fault : Fault)
  | laterReportIgnored (fault : Fault)
  deriving DecidableEq

namespace Notice

def text : Notice → String
  | unreadableRestart shard fault =>
    "Ignoring unparsable restart position for shard " ++ shard ++ ": " ++ fault.message
  | hostsChanged shard before after epoch =>
    "Host set of shard " ++ shard ++ " changed from " ++ before.text ++ " to " ++ after.text ++
      s!", epoch is now {epoch}"
  | movedBackwards shards before after =>
    "Position moved backwards for shards " ++ Text.quotedList shards ++ ": " ++ before.text ++
      " -> " ++ after.text
  | beginWhileOpen shard id => s!"BEGIN on shard {shard} while transaction {id} is still open"
  | commitWithoutBegin shard => s!"COMMIT on shard {shard} without an open transaction"
  | largeRow table shard bytes threshold =>
    "Large row change for " ++ table.text ++
      s!" on shard {shard}: {bytes} bytes (threshold {threshold})"
  | laterFaultDropped fault =>
    "Dropping error reported after the first one: " ++ fault.message
  | laterReportIgnored fault => "Ignoring additional producer error: " ++ fault.message

end Notice

end ShardStream

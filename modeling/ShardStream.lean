import ShardStream.Main
import ShardStream.Proofs.Processing
import ShardStream.Proofs.Run
import ShardStream.Proofs.Position
import ShardStream.Proofs.Failure
import ShardStream.Proofs.History
import ShardStream.Proofs.Narration
import ShardStream.Proofs.Epochs
import ShardStream.Proofs.Replay
import ShardStream.Proofs.Gtid.Reading
import ShardStream.Proofs.Gtid.Growth
import ShardStream.Proofs.Coverage
import ShardStream.Proofs.Json.Lexing
import ShardStream.Proofs.Json.Parsing
import ShardStream.Proofs.Json.Formats
import ShardStream.Proofs.Storing
import ShardStream.Proofs.Resumption
import ShardStream.Proofs.Regression
import ShardStream.Proofs.Saving
import ShardStream.Proofs.Publishing
import ShardStream.Proofs.EpochHistory
import ShardStream.Proofs.OrderGrowth
import ShardStream.Proofs.Independence
import ShardStream.Proofs.Sessions
import ShardStream.Proofs.Restarts
import ShardStream.Proofs.Accounting
import ShardStream.Proofs.OpenTransaction
import ShardStream.Proofs.Annotation
import ShardStream.Proofs.Time.Calendar
import ShardStream.Proofs.Time.Reading
import ShardStream.Proofs.Wire
import ShardStream.Proofs.Comparison
import ShardStream.Proofs.Succession
import ShardStream.Proofs.Staging
import ShardStream.Proofs.Text.Trimming
import ShardStream.Proofs.Gtid.Merging
import ShardStream.Proofs.Gtid.Membership
import ShardStream.Proofs.Gtid.Grammar
import ShardStream.Proofs.Gtid.Canonical
import ShardStream.Proofs.Gtid.Writing
import ShardStream.Proofs.Gtid.Summing
import ShardStream.Proofs.Moving
import ShardStream.Proofs.StartPosition
import ShardStream.Proofs.Observation
import ShardStream.Proofs.Counting
import ShardStream.Proofs.TableNames
import ShardStream.Proofs.Demonstration
import ShardStream.Proofs.FirstFault

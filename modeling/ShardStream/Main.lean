import ShardStream.Demo
import ShardStream.Pattern.Search
import Std.Time.DateTime.Timestamp

/-! # The demonstration on the command line

Reads the settings from the environment and the time from the clock, prints the transcript of the
demonstration and complains on standard error if it failed.
-/
namespace ShardStream

/-- The settings that are there. -/
def readSettings : List String → IO (List (String × String))
  | [] => return []
  | name :: rest => do
    let value? ← IO.getEnv name
    return value?.toList.map (name, ·) ++ (← readSettings rest)

def currentInstant : IO Instant := do
  let now ← Std.Time.Timestamp.now
  let nanos := now.toNanosecondsSinceUnixEpoch.val
  return (Instant.of? (nanos / 1000000000) (nanos % 1000000000).toNat).getD default

/-- All messages are written before the session starts, and handled after that. -/
def readTimes : IO Demo.Times := do
  let opening ← currentInstant
  let creation ← currentInstant
  let payment ← currentInstant
  let closing ← currentInstant
  let start ← currentInstant
  return {
    opening := ⟨opening, ← currentInstant⟩
    creation := ⟨creation, ← currentInstant⟩
    payment := ⟨payment, ← currentInstant⟩
    closing := ⟨closing, ← currentInstant⟩
    start }

/-- The largest number of messages that a channel can be made for. -/
def maxCapacity : UInt64 := 2305843009213693951

end ShardStream

open ShardStream in
def main : IO UInt32 := do
  let settings ← readSettings Config.settingNames
  match Demo.run Pattern.search? maxCapacity (fun name => settings.lookup name) (← readTimes) with
  | none =>
    IO.eprintln s!"a channel cannot be made for more than {maxCapacity} messages"
    return 101
  | some transcript =>
    for line in transcript.lines do IO.println line
    match transcript.complaint? with
    | some text => IO.eprintln text
    | none => pure ()
    return transcript.exitCode

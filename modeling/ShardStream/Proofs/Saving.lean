import ShardStream.Proofs.Epochs
import ShardStream.Proofs.Position
import ShardStream.Proofs.Storing

/-! # Saving a session and loading it again

An offset with a position is read back from its text as it was written. A session can be loaded from
it if its time is on a day of the calendar; what the session would store is then the same offset,
with no transaction open. So a session that has been saved and loaded keeps its position and its
epochs, loses what is below the microseconds of its time, and from then on is saved as the same
text.
-/
namespace ShardStream

/-- The offset without the transaction that was open. -/
def StoredOffset.closed (o : StoredOffset) : StoredOffset := { o with transactionId := none }

namespace Tracker

variable {c : Config} {o : StoredOffset} {t loaded : Tracker} {notices : List Notice}

theorem exists_load_iff (c : Config) (ho : o.vgtid.isEmpty = false) :
    (∃ t notices, load c o = .ok (t, notices)) ↔ Instant.Reaches o.micros.toInt := by
  rw [← Instant.isSome_ofMicros?_iff]
  constructor
  · rintro ⟨t, notices, h⟩
    obtain ⟨-, time, htime, -⟩ := load_eq_ok_iff.1 h
    rw [htime]
    rfl
  · exact load_of_time c ho

theorem stored_of_load (h : load c o = .ok (t, notices)) : t.stored = o.closed := by
  obtain ⟨-, time, htime, rfl, -⟩ := load_eq_ok_iff.1 h
  have hmicros : time.micros = o.micros.toInt := by
    have hnanos := (Instant.nanos_of_ofMicros? htime).1
    rw [Instant.micros_eq_nanos_ediv, hnanos]
    omega
  have hword : Int64.ofInt time.micros = o.micros := by
    rw [hmicros, Int64.ofInt_toInt]
  simp only [stored, ofSource, hword, Epochs.restore_current]
  rfl

/-- The time of a loaded session is that of the saved one, rounded down to microseconds, whether
before or after 1970. It is no leap second. -/
theorem time_of_load_stored (h : load c t.stored = .ok (loaded, notices)) :
    loaded.source.time.nanos = t.source.time.nanos / 1000 * 1000 ∧
      loaded.source.time.nano < 1000000000 := by
  obtain ⟨-, time, htime, rfl, -⟩ := load_eq_ok_iff.1 h
  rw [stored_micros] at htime
  exact Instant.nanos_of_ofMicros? htime

/-- Outside of leap seconds only what is below the microseconds is lost. A leap second is loaded as
the second after it. -/
theorem fields_of_load_stored (h : load c t.stored = .ok (loaded, notices)) :
    (t.source.time.nano < 1000000000 →
      loaded.source.time.second = t.source.time.second ∧
        loaded.source.time.nano = t.source.time.nano / 1000 * 1000) ∧
      (1000000000 ≤ t.source.time.nano →
        loaded.source.time.second = t.source.time.second + 1 ∧
          loaded.source.time.nano = (t.source.time.nano - 1000000000) / 1000 * 1000) := by
  obtain ⟨hnanos, hnano⟩ := time_of_load_stored h
  have hwithin := t.source.time.within
  unfold Instant.nanos at hnanos
  constructor <;> intro hleap <;> omega

/-- Positions and offsets are read back from their texts as they were written. A session is loaded
from an offset just if its time is on a day of the calendar, and would then store that offset again,
without the transaction. A session that is saved and loaded keeps its position and its epochs, and
its time in whole microseconds, which for a leap second is a time in the second after it; saved once
more, it gives the same offset but for the transaction. -/
theorem saving_survives_loading (c : Config) :
    (∀ v : Vgtid, v.isEmpty = false → Vgtid.parse v.text = .ok v) ∧
      (∀ o : StoredOffset, o.vgtid.isEmpty = false →
        StoredOffset.parse o.text = .ok o ∧
        ((∃ t notices, load c o = .ok (t, notices)) ↔ Instant.Reaches o.micros.toInt) ∧
        ∀ t notices, load c o = .ok (t, notices) → t.stored = o.closed) ∧
      ∀ (t loaded : Tracker) (notices : List Notice), t.vgtid.isEmpty = false →
        load c t.stored = .ok (loaded, notices) →
        StoredOffset.parse t.stored.text = .ok t.stored ∧ loaded.vgtid = t.vgtid ∧
        loaded.epochs.current = t.epochs.current ∧
        loaded.source.time.nanos = t.source.time.nanos / 1000 * 1000 ∧
        loaded.source.time.nano < 1000000000 ∧
        (t.source.time.nano < 1000000000 →
          loaded.source.time.second = t.source.time.second ∧
            loaded.source.time.nano = t.source.time.nano / 1000 * 1000) ∧
        (1000000000 ≤ t.source.time.nano →
          loaded.source.time.second = t.source.time.second + 1 ∧
            loaded.source.time.nano = (t.source.time.nano - 1000000000) / 1000 * 1000) ∧
        loaded.stored = t.stored.closed := by
  refine ⟨fun v hv => Vgtid.parse_text hv, ?_, ?_⟩
  · intro o ho
    exact ⟨StoredOffset.parse_text ho, exists_load_iff c ho, fun t notices h => stored_of_load h⟩
  · intro t loaded notices ht h
    have hstored : loaded.stored = t.stored.closed := stored_of_load h
    have hvgtid : loaded.vgtid = t.vgtid := congrArg StoredOffset.vgtid hstored
    have hepochs : loaded.epochs.current = t.epochs.current := congrArg StoredOffset.epochs hstored
    obtain ⟨hnanos, hnano⟩ := time_of_load_stored h
    obtain ⟨hplain, hleap⟩ := fields_of_load_stored h
    exact ⟨StoredOffset.parse_text ht, hvgtid, hepochs, hnanos, hnano, hplain, hleap, hstored⟩

end Tracker

namespace Sample

/-- A quarter of a millisecond and three nanoseconds before the last second before 1970. -/
def early : Instant := ⟨-2, 999749997, by decide, by decide, by decide⟩

def awkward : Vgtid := ⟨[⟨"\"key\\space\"", "\x01\n", "a:1-5"⟩, ⟨"키😀", "", "current"⟩]⟩

/-- A session with characters that have to be escaped, in the middle of a transaction. -/
def saved : Tracker :=
  { Tracker.ofSource ⟨"vitess", "commerce", none, awkward, early, none⟩
      ⟨KeyMap.empty.insert "\t" 18446744073709551615, .empty⟩ with
    progress := .begin (some "a:😀") none }

end Sample

namespace Tracker

theorem saved_before_1970 : Vgtid.parse Sample.awkward.text = .ok Sample.awkward ∧
    StoredOffset.parse Sample.saved.stored.text = .ok Sample.saved.stored ∧
    ∃ loaded notices, load .standard Sample.saved.stored = .ok (loaded, notices) ∧
      loaded.vgtid = Sample.awkward ∧
      loaded.source.time.nanos = -1000251000 ∧
      loaded.source.time.second = -2 ∧ loaded.source.time.nano = 999749000 ∧
      loaded.stored = Sample.saved.stored.closed := by
  obtain ⟨hposition, hoffset, hsession⟩ := saving_survives_loading .standard
  have hvgtid : Sample.awkward.isEmpty = false := rfl
  obtain ⟨hread, hload, -⟩ := hoffset Sample.saved.stored hvgtid
  obtain ⟨loaded, notices, hloaded⟩ := hload.2 (by decide +kernel)
  obtain ⟨-, hkept, -, hnanos, -, hplain, -, hstored⟩ :=
    hsession Sample.saved loaded notices hvgtid hloaded
  obtain ⟨hsecond, hnano⟩ := hplain (by decide)
  exact ⟨hposition _ hvgtid, hread, loaded, notices, hloaded, hkept, hnanos, hsecond, hnano,
    hstored⟩

end Tracker

end ShardStream

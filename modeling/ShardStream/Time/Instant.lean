import ShardStream.Time.Calendar

/-! # Instants

An instant counts whole seconds from 1970 without leap seconds, and nanoseconds within the second.
A leap second is the second half of a double second that ends a minute; a double second anywhere
else has no text of its own and is left out. Instants reach from the start of the year -262143 to the
end of the year 262142.
-/
namespace ShardStream

structure Instant where
  second : Int
  nano : Nat
  earliest : Time.daysBeforeYear (-262143) - Time.originDay ≤ second / 86400
  latest : second / 86400 < Time.daysBeforeYear 262143 - Time.originDay
  within : nano < 1000000000 ∨ (nano < 2000000000 ∧ second % 60 = 59)
  deriving DecidableEq, Repr

namespace Instant

def of? (second : Int) (nano : Nat) : Option Instant :=
  if h : (Time.daysBeforeYear (-262143) - Time.originDay ≤ second / 86400 ∧
      second / 86400 < Time.daysBeforeYear 262143 - Time.originDay) ∧
      (nano < 1000000000 ∨ (nano < 2000000000 ∧ second % 60 = 59)) then
    some ⟨second, nano, h.1.1, h.1.2, h.2⟩
  else none

theorem of?_fields (t : Instant) : of? t.second t.nano = some t := by
  rw [of?, dif_pos ⟨⟨t.earliest, t.latest⟩, t.within⟩]

/-- The instant so many microseconds after 1970. -/
def ofMicros? (n : Int) : Option Instant := of? (n / 1000000) ((n % 1000000).toNat * 1000)

/-- Microseconds since 1970, rounded down. -/
def micros (t : Instant) : Int := t.second * 1000000 + (t.nano / 1000 : Nat)

/-- Nanoseconds since 1970. -/
def nanos (t : Instant) : Int := t.second * 1000000000 + t.nano

/-- Milliseconds since 1970, rounded down. -/
def millis (t : Instant) : Int := t.second * 1000 + (t.nano / 1000000 : Nat)

theorem micros_eq_nanos_ediv (t : Instant) : t.micros = t.nanos / 1000 := by
  unfold micros nanos
  omega

theorem micros_bounds (t : Instant) :
    -9223372036854775808 ≤ t.micros ∧ t.micros < 9223372036854775808 := by
  have he := t.earliest
  have hl := t.latest
  have hw := t.within
  simp only [Time.daysBeforeYear, Time.originDay] at he hl
  unfold micros
  omega

/-- The microseconds since 1970 of the days of the calendar. -/
def Reaches (n : Int) : Prop :=
  (⟨-262143, 1, 1⟩ : Time.Date).dayNumber * 86400000000 ≤ n ∧
    n < (⟨262143, 1, 1⟩ : Time.Date).dayNumber * 86400000000

instance (n : Int) : Decidable (Reaches n) := inferInstanceAs (Decidable (_ ∧ _))

theorem reaches_iff (n : Int) : Reaches n ↔
    Time.daysBeforeYear (-262143) - Time.originDay ≤ n / 1000000 / 86400 ∧
      n / 1000000 / 86400 < Time.daysBeforeYear 262143 - Time.originDay := by
  have hfirst : (⟨-262143, 1, 1⟩ : Time.Date).dayNumber =
      Time.daysBeforeYear (-262143) - Time.originDay := by decide
  have hlast : (⟨262143, 1, 1⟩ : Time.Date).dayNumber =
      Time.daysBeforeYear 262143 - Time.originDay := by decide
  rw [Reaches, hfirst, hlast]
  omega

theorem ofMicros?_eq_some_iff {n : Int} {t : Instant} :
    ofMicros? n = some t ↔ t.second = n / 1000000 ∧ t.nano = (n % 1000000).toNat * 1000 := by
  constructor
  · intro h
    unfold ofMicros? of? at h
    split at h
    · cases h
      exact ⟨rfl, rfl⟩
    · cases h
  · rintro ⟨hsecond, hnano⟩
    rw [ofMicros?, ← hsecond, ← hnano, of?_fields]

theorem isSome_ofMicros?_iff {n : Int} : (ofMicros? n).isSome = true ↔ Reaches n := by
  have hnano : (n % 1000000).toNat * 1000 < 1000000000 := by omega
  rw [reaches_iff, ofMicros?, of?]
  constructor
  · intro h
    split at h
    · next hvalid => exact hvalid.1
    · cases h
  · intro h
    rw [dif_pos ⟨h, .inl hnano⟩]
    rfl

/-- An instant that is made from microseconds has nothing below them. -/
theorem nanos_of_ofMicros? {n : Int} {t : Instant} (h : ofMicros? n = some t) :
    t.nanos = n * 1000 ∧ t.nano < 1000000000 := by
  obtain ⟨hsecond, hnano⟩ := ofMicros?_eq_some_iff.1 h
  unfold nanos
  omega

/-- The leap second after which the calendar ends. -/
def EndsCalendar (t : Instant) : Prop :=
  1000000000 ≤ t.nano ∧ t.second + 1 = (⟨262143, 1, 1⟩ : Time.Date).dayNumber * 86400

instance (t : Instant) : Decidable t.EndsCalendar := inferInstanceAs (Decidable (_ ∧ _))

theorem reaches_micros_iff (t : Instant) : Reaches t.micros ↔ ¬ t.EndsCalendar := by
  have hlast : (⟨262143, 1, 1⟩ : Time.Date).dayNumber =
      Time.daysBeforeYear 262143 - Time.originDay := by decide
  have he := t.earliest
  have hl := t.latest
  have hw := t.within
  rw [reaches_iff, EndsCalendar, hlast]
  unfold micros
  omega

/-- An instant outside of leap seconds can be read back from its microseconds. -/
theorem isSome_ofMicros?_micros {t : Instant} (h : t.nano < 1000000000) :
    (ofMicros? t.micros).isSome = true := by
  rw [isSome_ofMicros?_iff, reaches_micros_iff]
  rintro ⟨hleap, -⟩
  omega

instance : Inhabited Instant := ⟨⟨0, 0, by decide, by decide, by decide⟩⟩

end Instant

end ShardStream

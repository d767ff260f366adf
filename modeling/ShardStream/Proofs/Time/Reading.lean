import ShardStream.Time.Rfc3339
import ShardStream.Proofs.Json.Lexing
import ShardStream.Proofs.Text.Trimming
import ShardStream.Proofs.Time.Calendar

/-! # Reading a written instant

An instant is read back from its text as it was, in any year of the calendar, with any fraction and
inside a leap second. Each part of the text is filled up with zeros to the width at which the next
one is looked for, or ends at a character that is no digit.
-/
namespace ShardStream

namespace Time

section Padding

variable {width n : Nat} {rest : List Char} {c : Char}

theorem isDigit_of_mem_padded (hc : c ∈ padded width n) : c.isDigit = true := by
  rcases List.mem_append.1 hc with hc | hc
  · rw [(List.mem_replicate.1 hc).2]
    rfl
  · exact Text.isDigit_of_mem_decimal hc

theorem padded_ne_nil (width n : Nat) : padded width n ≠ [] :=
  List.append_ne_nil_of_right_ne_nil _ (Text.decimal_ne_nil n)

theorem length_padded (hwidth : 0 < width) (hn : n < 10 ^ width) :
    (padded width n).length = width := by
  have hlength : (Text.decimal n).length ≤ width :=
    (Nat.length_toDigits_le_iff (by decide) hwidth).2 hn
  rw [padded, List.length_append, List.length_replicate]
  omega

/-- Zeros before a number do not change it. -/
theorem readDigits?_padded (width n : Nat) : Text.readDigits? (padded width n) = some n := by
  have hdigits : (padded width n).all Char.isDigit = true :=
    List.all_eq_true.2 fun c => isDigit_of_mem_padded
  rw [Text.readDigits?, if_pos ⟨padded_ne_nil width n, hdigits⟩, padded, Nat.ofDigitChars_append,
    Nat.ofDigitChars_replicate_zero, Nat.mul_zero, Text.decimal, Nat.ofDigitChars_ten_toDigits]

theorem head_padded (hc : c ∈ (padded width n ++ rest).head?) : c.isDigit = true := by
  obtain ⟨d, ds, hds⟩ := List.exists_cons_of_ne_nil (padded_ne_nil width n)
  have hmem : d ∈ padded width n := by
    rw [hds]
    exact List.mem_cons_self
  rw [hds] at hc
  obtain rfl : d = c := by simpa using hc
  exact isDigit_of_mem_padded hmem

/-- The digits of a number end where its width is reached or where no digit follows. -/
theorem digits_padded {most : Nat} (hlength : (padded width n).length ≤ most)
    (hrest : (padded width n).length = most ∨ ∀ c ∈ rest.head?, c.isDigit = false) :
    ((padded width n ++ rest).take most).takeWhile Char.isDigit = padded width n := by
  rw [List.take_append, List.take_of_length_le hlength]
  refine Json.takeWhile_isDigit (fun c => isDigit_of_mem_padded) ?_
  intro c hc
  rcases hrest with hfull | hrest
  · rw [hfull, Nat.sub_self] at hc
    cases hc
  · rw [List.head?_take] at hc
    split at hc
    · cases hc
    · exact hrest c hc

theorem scanNumber_padded {most : Nat} (hlength : (padded width n).length ≤ most)
    (hrest : (padded width n).length = most ∨ ∀ c ∈ rest.head?, c.isDigit = false) :
    scanNumber most (padded width n ++ rest) = some (n, rest) := by
  rw [scanNumber, digits_padded hlength hrest, readDigits?_padded, Option.map_some,
    List.drop_left]

end Padding

section Parts

variable {n : Nat} {rest : List Char}

theorem scanPart_padded (hn : n < 100) : scanPart (padded 2 n ++ rest) = some (n, rest) := by
  have hlength : (padded 2 n).length = 2 := length_padded (by decide) hn
  rw [scanPart, Text.trimStart_of_head fun c hc => Text.isBlank_of_isDigit (head_padded hc)]
  exact scanNumber_padded (Nat.le_of_eq hlength) (.inl hlength)

theorem scanNext_padded {c : Char} (hc : Text.isBlank c = false) (hn : n < 100) :
    scanNext c (c :: (padded 2 n ++ rest)) = some (n, rest) := by
  have hkept : Text.trimStart (c :: (padded 2 n ++ rest)) = c :: (padded 2 n ++ rest) :=
    Text.trimStart_of_head fun d hd => by rwa [← Option.some.inj hd]
  simp only [scanNext, hkept, scanChar, if_true, Option.bind_eq_bind, Option.bind_some,
    scanPart_padded hn]

/-- Without a sign, a year is what its first four digits show. -/
theorem scanYear_of_isDigit {c : Char} (hc : c.isDigit = true) (cs : List Char) :
    scanYear (c :: cs) = (scanNumber 4 (c :: cs)).map fun (n, r) => ((n : Int), r) := by
  unfold scanYear
  split
  · next heq =>
    cases heq
    cases hc
  · next heq =>
    cases heq
    cases hc
  · rfl

theorem scanYear_yearText (y : Int) (hrest : ∀ c ∈ rest.head?, c.isDigit = false) :
    scanYear (yearText y ++ rest) = some (y, rest) := by
  unfold yearText
  split
  · next hy =>
    have hlength : (padded 4 y.toNat).length = 4 := length_padded (by decide) (by omega)
    have hscan : scanNumber 4 (padded 4 y.toNat ++ rest) = some (y.toNat, rest) :=
      scanNumber_padded (Nat.le_of_eq hlength) (.inl hlength)
    obtain ⟨c, cs, hcs⟩ := List.exists_cons_of_ne_nil (padded_ne_nil 4 y.toNat)
    have hmem : c ∈ padded 4 y.toNat := by
      rw [hcs]
      exact List.mem_cons_self
    have hc : c.isDigit = true := isDigit_of_mem_padded hmem
    rw [hcs, List.cons_append] at hscan ⊢
    have hvalue : (y.toNat : Int) = y := by omega
    simp only [scanYear_of_isDigit hc, hscan, Option.map_some, hvalue]
  · next hy =>
    have hscan : scanNumber (padded 4 y.natAbs ++ rest).length (padded 4 y.natAbs ++ rest) =
        some (y.natAbs, rest) :=
      scanNumber_padded (by simp) (.inr hrest)
    split
    · next hneg =>
      have hvalue : -(y.natAbs : Int) = y := by omega
      simp only [List.cons_append, scanYear, hscan, Option.map_some, hvalue]
    · next hneg =>
      have hvalue : (y.natAbs : Int) = y := by omega
      simp only [List.cons_append, scanYear, hscan, Option.map_some, hvalue]

/-- A year starts with a digit or a sign. -/
theorem head_yearText (y : Int) : ∀ c ∈ (yearText y ++ rest).head?, Text.isBlank c = false := by
  intro c hc
  unfold yearText at hc
  split at hc
  · exact Text.isBlank_of_isDigit (head_padded hc)
  · rw [← Option.some.inj hc]
    split <;> rfl

theorem scanDate_text (d : Date) (hmonth : d.month < 100) (hday : d.day < 100)
    (rest : List Char) :
    scanDate (yearText d.year ++ '-' :: (padded 2 d.month ++ '-' :: (padded 2 d.day ++ rest))) =
      some (d, rest) := by
  simp only [scanDate, Text.trimStart_of_head (head_yearText d.year),
    scanYear_yearText d.year (show ∀ c ∈ ('-' :: _ : List Char).head?, c.isDigit = false by simp),
    scanNext_padded (show Text.isBlank '-' = false from rfl) hmonth,
    scanNext_padded (show Text.isBlank '-' = false from rfl) hday, Option.bind_eq_bind,
    Option.bind_some]
  rfl

/-- The first digits of a fraction, as many as were written. -/
theorem scanNano_padded {width : Nat} (hwidth : 0 < width) (hmost : width ≤ 9)
    (hn : n < 10 ^ width) (hrest : ∀ c ∈ rest.head?, c.isDigit = false) :
    scanNano ('.' :: (padded width n ++ rest)) = some (n * 10 ^ (9 - width), rest) := by
  have hlength := length_padded hwidth hn
  have hle : (padded width n).length ≤ 9 := by omega
  simp only [scanNano, scanNumber_padded hle (.inr hrest), digits_padded hle (.inr hrest), hlength,
    Json.dropWhile_isDigit (fun c => isDigit_of_mem_padded) hrest, Option.bind_eq_bind,
    Option.bind_some]
  rfl

theorem scanNano_fractionText (hn : n < 1000000000)
    (hrest : ∀ c ∈ rest.head?, c.isDigit = false ∧ c ≠ '.') :
    scanNano (fractionText n ++ rest) = some (n, rest) := by
  have hdigit : ∀ c ∈ rest.head?, c.isDigit = false := fun c hc => (hrest c hc).1
  unfold fractionText
  split
  · next hzero =>
    rw [List.nil_append, scanNano, hzero]
    intro r hr
    rw [hr] at hrest
    exact (hrest '.' rfl).2 rfl
  · split
    · next hmillis =>
      have hvalue : n / 1000000 * 10 ^ (9 - 3) = n := by omega
      rw [List.cons_append, scanNano_padded (by decide) (by decide) (by omega) hdigit, hvalue]
    · split
      · next hmicros =>
        have hvalue : n / 1000 * 10 ^ (9 - 6) = n := by omega
        rw [List.cons_append, scanNano_padded (by decide) (by decide) (by omega) hdigit, hvalue]
      · have hvalue : n * 10 ^ (9 - 9) = n := by omega
        rw [List.cons_append, scanNano_padded (by decide) (by decide) (by omega) hdigit, hvalue]

theorem scanClock_text {c : Clock} (hc : c.isValid = true) (hnano : c.nano < 1000000000) :
    scanClock (padded 2 c.hour ++ ':' :: (padded 2 c.minute ++ ':' :: (padded 2 c.second ++
      (fractionText c.nano ++ ['Z'])))) = some (c, ['Z']) := by
  simp only [Clock.isValid, Bool.and_eq_true, decide_eq_true_eq] at hc
  have hhour : c.hour < 100 := by omega
  have hminute : c.minute < 100 := by omega
  have hsecond : c.second < 100 := by omega
  have hend : ∀ c ∈ ['Z'].head?, c.isDigit = false ∧ c ≠ '.' := by
    intro c hc
    obtain rfl := Option.some.inj hc
    decide
  simp only [scanClock, scanPart_padded hhour,
    scanNext_padded (show Text.isBlank ':' = false from rfl) hminute,
    scanNext_padded (show Text.isBlank ':' = false from rfl) hsecond,
    scanNano_fractionText hnano hend, Option.bind_eq_bind, Option.bind_some]
  rfl

end Parts

/-- The clock that shows an instant. In a leap second it shows second 60. -/
def clockOf (t : Instant) : Clock :=
  let second := (t.second % 86400).toNat
  ⟨second / 3600, second / 60 % 60, second % 60 + t.nano / 1000000000, t.nano % 1000000000⟩

theorem isValid_clockOf (t : Instant) : (clockOf t).isValid = true := by
  have hwithin := t.within
  simp only [Clock.isValid, Bool.and_eq_true, decide_eq_true_eq]
  simp only [clockOf]
  omega

/-- An instant is put together again from its date and its clock. -/
theorem assemble_clockOf (t : Instant) :
    assemble (Date.ofDayNumber (t.second / 86400)) (clockOf t) 0 = some t := by
  have hwithin := t.within
  have hsecond : t.second / 86400 * 86400 + ((clockOf t).hour : Int) * 3600 +
      ((clockOf t).minute : Int) * 60 + (((clockOf t).second - (clockOf t).leap : Nat) : Int) =
        t.second := by
    simp only [clockOf, Clock.leap]
    omega
  have hnano : (clockOf t).nano + (clockOf t).leap * 1000000000 = t.nano := by
    simp only [clockOf, Clock.leap]
    omega
  rw [assemble, if_pos ⟨Date.isValid_ofDayNumber _, isValid_clockOf t, by decide⟩,
    Date.dayNumber_ofDayNumber, hsecond, hnano]
  simp only [Int.sub_zero, Instant.of?_fields, Option.bind_eq_bind, Option.bind_some]

/-- An instant is read back from its text. -/
theorem parse_render (t : Instant) : parse (render t) = some t := by
  obtain ⟨hmonth, hday⟩ := Date.parts_lt (Date.isValid_ofDayNumber (t.second / 86400))
  have hparts := scanClock_text (isValid_clockOf t) (Nat.mod_lt _ (by decide))
  have hclock : scanClock (clockText (t.second % 86400).toNat t.nano ++ ['Z']) =
      some (clockOf t, ['Z']) := by
    simpa [clockText, clockOf] using hparts
  have hoffset : scanOffset (Text.trimStart ['Z']) = some (0, []) := by decide
  rw [parse, render, String.toList_ofList]
  simp only [List.append_assoc, List.cons_append, scanDate_text _ hmonth hday,
    Option.bind_eq_bind, Option.bind_some, List.head?_cons, List.tail_cons, hclock, true_or,
    if_true]
  rw [hoffset, Option.bind_some]
  exact assemble_clockOf t

end Time

end ShardStream

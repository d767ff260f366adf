import ShardStream.Json.Parse

/-! # Reading the tokens of a written document

What is written for a token is read as that token, whatever follows it. Only a numeral could go on
in the text after it, so no two of them may stand side by side.
-/
namespace ShardStream.Json

section Texts

variable {tail after : List Char} {units : List Nat} {controls : Bool}

theorem hexWord?_of_lt {n : Nat} (h : n < 32) :
    hexWord? '0' '0' (Nat.digitChar (n / 16)) (Nat.digitChar (n % 16)) = some n := by
  have hall : ∀ m : Fin 32,
      hexWord? '0' '0' (Nat.digitChar (m.val / 16)) (Nat.digitChar (m.val % 16)) = some m.val := by
    decide
  exact hall ⟨n, h⟩

/-- An escaped character is read as one unit. -/
theorem scanText_escape (c : Char) (h : scanText tail = some ((units, controls), after)) :
    scanText (escape c ++ tail) = some ((c.toNat :: units, controls), after) := by
  unfold escape
  by_cases hquote : c = '"'
  · subst hquote
    simp [scanText, simpleEscape?, h]
  by_cases hbackslash : c = '\\'
  · subst hbackslash
    simp [scanText, simpleEscape?, h]
  by_cases hnewline : c = '\n'
  · subst hnewline
    simp [scanText, simpleEscape?, h]
  by_cases hreturn : c = '\r'
  · subst hreturn
    simp [scanText, simpleEscape?, h]
  by_cases htab : c = '\t'
  · subst htab
    simp [scanText, simpleEscape?, h]
  by_cases hbackspace : c = '\x08'
  · subst hbackspace
    simp [scanText, simpleEscape?, h]
  by_cases hfeed : c = '\x0c'
  · subst hfeed
    simp [scanText, simpleEscape?, h]
  by_cases hcontrol : c.toNat < 32
  · simp [hquote, hbackslash, hnewline, hreturn, htab, hbackspace, hfeed, hcontrol, scanText,
      hexWord?_of_lt hcontrol, h]
  · simp [hquote, hbackslash, hnewline, hreturn, htab, hbackspace, hfeed, hcontrol, scanText, h]

theorem scanText_flatMap_escape (cs rest : List Char) :
    scanText (cs.flatMap escape ++ '"' :: rest) = some ((cs.map Char.toNat, false), rest) := by
  induction cs with
  | nil => simp [scanText]
  | cons c cs ih =>
    rw [List.flatMap_cons, List.append_assoc, List.map_cons]
    exact scanText_escape c ih

/-- A character is no half of a pair. -/
theorem isHalf_toNat (c : Char) : isHighHalf c.toNat = false ∧ isLowHalf c.toNat = false := by
  have hvalid : c.toNat < 0xD800 ∨ 0xDFFF < c.toNat ∧ c.toNat < 0x110000 := c.valid
  simp only [isHighHalf, isLowHalf, Bool.and_eq_false_iff, decide_eq_false_iff_not]
  omega

theorem joinHalves_toNat (cs : List Char) : joinHalves (cs.map Char.toNat) = some cs := by
  induction cs with
  | nil => rfl
  | cons c cs ih =>
    obtain ⟨hhigh, hlow⟩ := isHalf_toNat c
    rw [List.map_cons, joinHalves.eq_def]
    simp [hhigh, hlow, ih]

theorem textToken_toNat (s : String) : textToken (s.toList.map Char.toNat) false = .str s := by
  simp [textToken, joinHalves_toNat]

end Texts

section Numerals

/-- A numeral before the text ends there. -/
def EndsNumeral (rest : List Char) : Prop :=
  ∀ c ∈ rest.head?, c.isDigit = false ∧ c ≠ '.' ∧ c ≠ 'e' ∧ c ≠ 'E'

variable {digits rest : List Char}

theorem EndsNumeral.not_isDigit (h : EndsNumeral rest) : ∀ c ∈ rest.head?, c.isDigit = false :=
  fun c hc => (h c hc).1

theorem takeWhile_isDigit (hdigits : ∀ c ∈ digits, c.isDigit = true)
    (hrest : ∀ c ∈ rest.head?, c.isDigit = false) :
    (digits ++ rest).takeWhile Char.isDigit = digits := by
  rw [List.takeWhile_append_of_pos hdigits]
  cases rest with
  | nil => simp
  | cons c rest => simp [hrest c (by simp)]

theorem dropWhile_isDigit (hdigits : ∀ c ∈ digits, c.isDigit = true)
    (hrest : ∀ c ∈ rest.head?, c.isDigit = false) :
    (digits ++ rest).dropWhile Char.isDigit = rest := by
  rw [List.dropWhile_append_of_pos hdigits]
  cases rest with
  | nil => simp
  | cons c rest => simp [hrest c (by simp)]

/-- Only the number zero is written with a leading zero. -/
theorem decimal_head_ne_zero {n : Nat} (hn : n ≠ 0) : (Text.decimal n).head? ≠ some '0' := by
  unfold Text.decimal
  -- the first digit is that of the number without its last digit
  induction n using Nat.strongRecOn with
  | ind n ih =>
    by_cases hlt : n < 10
    · have hall : ∀ m : Fin 10, m.val ≠ 0 → Nat.digitChar m.val ≠ '0' := by decide
      rw [Nat.toDigits_of_lt_base hlt]
      simpa using hall ⟨n, hlt⟩ hn
    · have hhead := ih (n / 10) (by omega) (by omega)
      have hne : Nat.toDigits 10 (n / 10) ≠ [] := Nat.toDigits_ne_nil
      rw [Nat.toDigits_of_base_le (by decide) (by omega)]
      obtain ⟨c, cs, hcs⟩ := List.exists_cons_of_ne_nil hne
      rw [hcs] at hhead ⊢
      exact hhead

theorem scanWhole_decimal (n : Nat) (hrest : ∀ c ∈ rest.head?, c.isDigit = false) :
    scanWhole (Text.decimal n ++ rest) = some (n, rest) := by
  by_cases hn : n = 0
  · subst hn
    rfl
  · have hhead := decimal_head_ne_zero hn
    have hdigits : ∀ c ∈ Text.decimal n, c.isDigit = true := fun c => Text.isDigit_of_mem_decimal
    obtain ⟨c, cs, hcs⟩ := List.exists_cons_of_ne_nil (Text.decimal_ne_nil n)
    rw [hcs] at hhead
    have hne : ∀ tail, Text.decimal n ++ rest = '0' :: tail → False := by
      intro tail htail
      rw [hcs, List.cons_append] at htail
      exact hhead (congrArg some (List.cons.inj htail).1)
    rw [scanWhole, takeWhile_isDigit hdigits hrest, dropWhile_isDigit hdigits hrest,
      Text.readDigits?_decimal]
    · rfl
    · exact hne

theorem isDigit_digitChar (d : Digit) : (Numeral.digitChar d).isDigit = true := by
  revert d
  decide

theorem digitOf_digitChar (d : Digit) : Numeral.digitOf (Numeral.digitChar d) = d := by
  revert d
  decide

theorem scanFraction_digits {ds : List Digit} (hds : ds ≠ [])
    (hrest : ∀ c ∈ rest.head?, c.isDigit = false) :
    scanFraction ('.' :: ds.map Numeral.digitChar ++ rest) = some (ds, rest) := by
  have hdigits : ∀ c ∈ ds.map Numeral.digitChar, c.isDigit = true := by
    intro c hc
    obtain ⟨d, -, rfl⟩ := List.mem_map.1 hc
    exact isDigit_digitChar d
  rw [List.cons_append, scanFraction, takeWhile_isDigit hdigits hrest,
    dropWhile_isDigit hdigits hrest]
  simp [hds, Function.comp_def, digitOf_digitChar]

theorem scanFraction_of_ne (hrest : '.' ∉ rest.head?) : scanFraction rest = some ([], rest) := by
  rw [scanFraction]
  intro tail htail
  rw [htail] at hrest
  exact hrest rfl

theorem scanPower_decimal (negative : Bool) (n : Nat)
    (hrest : ∀ c ∈ rest.head?, c.isDigit = false) :
    scanPower negative (Text.decimal n ++ rest) =
      some (some (if negative then -(n : Int) else n), rest) := by
  have hdigits : ∀ c ∈ Text.decimal n, c.isDigit = true := fun c => Text.isDigit_of_mem_decimal
  rw [scanPower, takeWhile_isDigit hdigits hrest, dropWhile_isDigit hdigits hrest,
    Text.readDigits?_decimal]
  rfl

theorem scanExponent_text (e : Int) (hrest : ∀ c ∈ rest.head?, c.isDigit = false) :
    scanExponent (Numeral.exponentText e ++ rest) = some (some e, rest) := by
  by_cases he : e < 0
  · have habs : -(e.natAbs : Int) = e := by omega
    have hpower := scanPower_decimal true e.natAbs hrest
    rw [if_pos rfl, habs] at hpower
    simp [scanExponent, Numeral.exponentText, he, hpower]
  · have habs : (e.natAbs : Int) = e := by omega
    have hpower := scanPower_decimal false e.natAbs hrest
    rw [if_neg nofun, habs] at hpower
    simp [scanExponent, Numeral.exponentText, he, hpower]

theorem scanExponent_of_ends (hrest : EndsNumeral rest) :
    scanExponent rest = some (none, rest) := by
  cases rest with
  | nil => rfl
  | cons c rest =>
    obtain ⟨-, -, he, hE⟩ := hrest c rfl
    simp [scanExponent, he, hE]

theorem scanExponent_render (e : Option Int) (hrest : EndsNumeral rest) :
    scanExponent ((e.map Numeral.exponentText).getD [] ++ rest) = some (e, rest) := by
  cases e with
  | none => exact scanExponent_of_ends hrest
  | some e => exact scanExponent_text e hrest.not_isDigit

/-- After the digits of a numeral comes its exponent or what follows it. -/
theorem exponent_head {e : Option Int} (hrest : EndsNumeral rest) :
    ∀ c ∈ ((e.map Numeral.exponentText).getD [] ++ rest).head?, c.isDigit = false ∧ c ≠ '.' := by
  cases e with
  | none => exact fun c hc => ⟨(hrest c hc).1, (hrest c hc).2.1⟩
  | some e =>
    intro c hc
    obtain rfl : 'e' = c := by simpa [Numeral.exponentText] using hc
    decide

/-- A numeral is read back as it was written. -/
theorem scanNumeral_render (n : Numeral) (hrest : EndsNumeral rest) :
    scanNumeral n.negative (Text.decimal n.whole ++
      ((if n.fraction = [] then [] else '.' :: n.fraction.map Numeral.digitChar) ++
        ((n.exponent.map Numeral.exponentText).getD [] ++ rest))) = some (n, rest) := by
  have hexponent := scanExponent_render n.exponent hrest
  have hhead := exponent_head (e := n.exponent) hrest
  by_cases hfraction : n.fraction = []
  · have hwhole := scanWhole_decimal n.whole fun c hc => (hhead c hc).1
    have hnone := scanFraction_of_ne fun hdot => (hhead '.' hdot).2 rfl
    simp only [hfraction, if_true, List.nil_append, scanNumeral, hwhole, hnone, hexponent,
      Option.bind_eq_bind, Option.bind_some]
    rw [← hfraction]
    rfl
  · have hsome := scanFraction_digits hfraction fun c hc => (hhead c hc).1
    have hwhole : ∀ tail, scanWhole (Text.decimal n.whole ++ '.' :: tail) =
        some (n.whole, '.' :: tail) := fun tail => scanWhole_decimal n.whole (by simp)
    rw [if_neg hfraction, List.cons_append, scanNumeral, hwhole]
    rw [List.cons_append] at hsome
    simp only [hsome, hexponent, Option.bind_eq_bind, Option.bind_some]
    rfl

end Numerals

section Tokens

variable {t : Token} {ts : List Token} {rest : List Char}

def Token.isNumeral : Token → Bool
  | .num _ => true
  | _ => false

/-- Tokens that can be told apart once they are written: none of them is a raw text, and no numeral
stands right after another one. -/
def Legible : List Token → Prop
  | [] => True
  | .raw _ _ :: _ => False
  | .num _ :: ts => (∀ u ∈ ts.head?, u.isNumeral = false) ∧ Legible ts
  | _ :: ts => Legible ts

theorem Legible.tail (h : Legible (t :: ts)) : Legible ts := by
  cases t with
  | raw units controls => exact h.elim
  | num n => exact h.2
  | _ => exact h

/-- The characters that a token may start with. No blank is among them. -/
theorem head_text (t : Token) : ∃ c cs, t.text = c :: cs ∧ isSpace c = false ∧
    (t.isNumeral = false → c.isDigit = false ∧ c ≠ '.' ∧ c ≠ 'e' ∧ c ≠ 'E') := by
  cases t with
  | num n =>
    obtain ⟨c, cs, hcs⟩ := List.exists_cons_of_ne_nil (Text.decimal_ne_nil n.whole)
    have hdigit : c.isDigit = true := Text.isDigit_of_mem_decimal (n := n.whole) (by simp [hcs])
    cases hn : n.negative with
    | true => exact ⟨'-', _, by simp [Token.text, Numeral.render, hn]; rfl, rfl, nofun⟩
    | false =>
      refine ⟨c, _, by simp [Token.text, Numeral.render, hn, hcs]; rfl, ?_, nofun⟩
      rcases hspace : isSpace c with _ | _
      · rfl
      · simp only [isSpace, Bool.or_eq_true, decide_eq_true_eq] at hspace
        rcases hspace with ((rfl | rfl) | rfl) | rfl <;> cases hdigit
  | bool b => cases b <;> exact ⟨_, _, rfl, rfl, fun _ => by decide⟩
  | _ => exact ⟨_, _, rfl, rfl, fun _ => by decide⟩

theorem endsNumeral_flatMap (h : ∀ u ∈ ts.head?, u.isNumeral = false) :
    EndsNumeral (ts.flatMap Token.text) := by
  cases ts with
  | nil => exact nofun
  | cons t ts =>
    obtain ⟨c, cs, hcs, -, hend⟩ := head_text t
    intro b hb
    rw [List.flatMap_cons, hcs] at hb
    obtain rfl : c = b := by simpa using hb
    exact hend (h t rfl)

theorem scanToken_of_isDigit {c : Char} (hc : c.isDigit = true) (cs : List Char) :
    scanToken (c :: cs) = (scanNumeral false (c :: cs)).map fun (n, after) => (.num n, after) := by
  unfold scanToken
  -- nothing but a numeral starts with a digit
  split <;> first | rfl | (next heq => cases heq; cases hc)

theorem scanToken_numeral (n : Numeral) (hrest : EndsNumeral rest) :
    scanToken ((Token.num n).text ++ rest) = some (.num n, rest) := by
  have hscan := scanNumeral_render n hrest
  cases hn : n.negative with
  | true =>
    rw [hn] at hscan
    simp only [Token.text, Numeral.render, hn, if_true, List.append_assoc, List.cons_append,
      List.nil_append, scanToken, hscan, Option.map_some]
  | false =>
    rw [hn] at hscan
    obtain ⟨c, cs, hcs⟩ := List.exists_cons_of_ne_nil (Text.decimal_ne_nil n.whole)
    have hdigit : c.isDigit = true := Text.isDigit_of_mem_decimal (n := n.whole) (by simp [hcs])
    simp only [Token.text, Numeral.render, hn, Bool.false_eq_true, if_false, List.nil_append,
      List.append_assoc]
    rw [hcs, List.cons_append] at hscan ⊢
    rw [scanToken_of_isDigit hdigit, hscan, Option.map_some]

theorem scanToken_text (h : Legible (t :: ts)) :
    scanToken (t.text ++ ts.flatMap Token.text) = some (t, ts.flatMap Token.text) := by
  cases t with
  | num n => exact scanToken_numeral n (endsNumeral_flatMap h.1)
  | str s =>
    have hscan := scanText_flatMap_escape s.toList (ts.flatMap Token.text)
    simp only [Token.text, List.cons_append, List.append_assoc, List.nil_append, scanToken, hscan,
      Option.map_some, textToken_toNat]
  | raw units controls => exact h.elim
  | bool b => cases b <;> rfl
  | _ => rfl

/-- The tokens of a text are those that were written. -/
theorem lex_text (h : Legible ts) {tries : Nat} (htries : ts.length ≤ tries) :
    lex tries (ts.flatMap Token.text) = some ts := by
  induction ts generalizing tries with
  | nil => cases tries <;> rfl
  | cons t ts ih =>
    obtain ⟨c, cs, hcs, hspace, -⟩ := head_text t
    cases tries with
    | zero => simp at htries
    | succ tries =>
      have hscan := scanToken_text h
      rw [hcs, List.cons_append] at hscan
      have hdrop : (c :: (cs ++ ts.flatMap Token.text)).dropWhile isSpace =
          c :: (cs ++ ts.flatMap Token.text) := by
        simp [hspace]
      rw [List.flatMap_cons, hcs, List.cons_append, lex.eq_def]
      simp only [hdrop, hscan, ih h.tail (Nat.le_of_succ_le_succ htries), Option.bind_eq_bind,
        Option.bind_some]
      rfl

theorem length_le_length_flatMap (ts : List Token) :
    ts.length ≤ (ts.flatMap Token.text).length := by
  induction ts with
  | nil => exact Nat.le_refl 0
  | cons t ts ih =>
    obtain ⟨c, cs, hcs, -, -⟩ := head_text t
    rw [List.flatMap_cons, List.length_append, hcs]
    simp only [List.length_cons]
    omega

end Tokens

end ShardStream.Json

import ShardStream.Proofs.Json.Lexing

/-! # Reading a written document back

A document without raw texts and without objects that can only be skipped is read back from its
compact text as it was written.
-/
namespace ShardStream.Json

/-- Nothing in the document is raw, and every object in it can be used. -/
inductive IsPlain : Json → Prop
  | null : IsPlain .null
  | bool (b : Bool) : IsPlain (.bool b)
  | num (n : Numeral) : IsPlain (.num n)
  | str (s : String) : IsPlain (.str s)
  | arr {vs : List Json} (hvs : ∀ v ∈ vs, IsPlain v) : IsPlain (.arr vs)
  | obj {ms : List (String × Json)} (hms : ∀ m ∈ ms, IsPlain m.2) : IsPlain (.obj ms)

section Tokens

variable {v : Json} {vs : List Json} {m : String × Json} {ms : List (String × Json)}
  {rest : List Token}

/-- The tokens of an array that is not empty. -/
theorem itemTokens_cons (v : Json) (vs : List Json) :
    itemTokens (v :: vs) = v.tokens ++ if vs = [] then [] else .comma :: itemTokens vs := by
  cases vs <;> simp [itemTokens]

/-- The tokens of an object that is not empty. -/
theorem memberTokens_cons (m : String × Json) (ms : List (String × Json)) :
    memberTokens (m :: ms) = .str m.1 :: .colon ::
      (m.2.tokens ++ if ms = [] then [] else .comma :: memberTokens ms) := by
  obtain ⟨k, v⟩ := m
  cases ms <;> simp [memberTokens]

/-- No document starts with the end of an array. -/
theorem exists_tokens_eq_cons (v : Json) : ∃ t ts, v.tokens = t :: ts ∧ t ≠ .closeArr := by
  cases v <;> exact ⟨_, _, rfl, nofun⟩

theorem tokens_length_pos (v : Json) : 0 < v.tokens.length := by
  obtain ⟨t, ts, hts, -⟩ := exists_tokens_eq_cons v
  simp [hts]

/-- The tokens of a document can be told apart where no numeral follows it. -/
def TellsApart (v : Json) : Prop :=
  ∀ rest, Legible rest → (∀ u ∈ rest.head?, u.isNumeral = false) → Legible (v.tokens ++ rest)

theorem legible_itemTokens (hvs : ∀ v ∈ vs, TellsApart v) (hrest : Legible rest)
    (hhead : ∀ u ∈ rest.head?, u.isNumeral = false) : Legible (itemTokens vs ++ rest) := by
  induction vs with
  | nil => exact hrest
  | cons v vs ih =>
    obtain ⟨hv, hvs⟩ := List.forall_mem_cons.1 hvs
    rw [itemTokens_cons, List.append_assoc]
    by_cases hend : vs = []
    · rw [if_pos hend]
      exact hv rest hrest hhead
    · rw [if_neg hend]
      exact hv _ (ih hvs) (by simp [Token.isNumeral])

theorem legible_memberTokens (hms : ∀ m ∈ ms, TellsApart m.2) (hrest : Legible rest)
    (hhead : ∀ u ∈ rest.head?, u.isNumeral = false) : Legible (memberTokens ms ++ rest) := by
  induction ms with
  | nil => exact hrest
  | cons m ms ih =>
    obtain ⟨hm, hms⟩ := List.forall_mem_cons.1 hms
    rw [memberTokens_cons, List.cons_append, List.cons_append, List.append_assoc]
    by_cases hend : ms = []
    · rw [if_pos hend]
      exact hm rest hrest hhead
    · rw [if_neg hend]
      exact hm _ (ih hms) (by simp [Token.isNumeral])

theorem IsPlain.tellsApart (hv : v.IsPlain) : TellsApart v := by
  induction hv with
  | num n => exact fun rest hrest hhead => ⟨hhead, hrest⟩
  | arr hvs ih =>
    intro rest hrest hhead
    have hclosed : Legible (.closeArr :: rest) := hrest
    have hitems : Legible (.openArr :: (itemTokens _ ++ .closeArr :: rest)) :=
      legible_itemTokens ih hclosed (by simp [Token.isNumeral])
    simpa [tokens] using hitems
  | obj hms ih =>
    intro rest hrest hhead
    have hclosed : Legible (.closeObj :: rest) := hrest
    have hmembers : Legible (.openObj :: (memberTokens _ ++ .closeObj :: rest)) :=
      legible_memberTokens ih hclosed (by simp [Token.isNumeral])
    simpa [tokens] using hmembers
  | _ => exact fun rest hrest hhead => hrest

end Tokens

section Values

variable {v : Json} {vs : List Json} {ms : List (String × Json)} {n : Nat}

/-- The document is read back from its tokens, whatever follows them. -/
def ReadsBack (v : Json) : Prop :=
  ∀ n rest, v.tokens.length ≤ n → value n (v.tokens ++ rest) = some (v, rest)

theorem items_tokens (hvs : ∀ v ∈ vs, ReadsBack v) (hne : vs ≠ []) (rest : List Token)
    (hn : (itemTokens vs).length < n) :
    items n (itemTokens vs ++ .closeArr :: rest) = some (vs, rest) := by
  induction vs generalizing n with
  | nil => exact absurd rfl hne
  | cons v vs ih =>
    obtain ⟨hv, hvs⟩ := List.forall_mem_cons.1 hvs
    have hpos := tokens_length_pos v
    rw [itemTokens_cons] at hn ⊢
    rw [List.length_append] at hn
    -- one try goes to the item, which has a token at least
    obtain ⟨n, rfl⟩ : ∃ k, n = k + 1 := ⟨n - 1, by omega⟩
    rw [List.append_assoc, items, hv n _ (by omega)]
    by_cases hend : vs = []
    · simp [hend]
    · rw [if_neg hend, List.length_cons] at hn
      have hrest := ih hvs hend (n := n) (by omega)
      simp [hend, hrest]

theorem members_tokens (hms : ∀ m ∈ ms, ReadsBack m.2) (hne : ms ≠ []) (rest : List Token)
    (hn : (memberTokens ms).length < n) :
    members n (memberTokens ms ++ .closeObj :: rest) =
      some (ms.map fun m => (some m.1, m.2), rest) := by
  induction ms generalizing n with
  | nil => exact absurd rfl hne
  | cons m ms ih =>
    obtain ⟨hm, hms⟩ := List.forall_mem_cons.1 hms
    rw [memberTokens_cons] at hn ⊢
    simp only [List.length_cons, List.length_append] at hn
    obtain ⟨n, rfl⟩ : ∃ k, n = k + 1 := ⟨n - 1, by omega⟩
    rw [List.cons_append, List.cons_append, List.append_assoc, members, hm n _ (by omega)]
    by_cases hend : ms = []
    · simp [hend, key?]
    · rw [if_neg hend, List.length_cons] at hn
      have hrest := ih hms hend (n := n) (by omega)
      simp [hend, hrest, key?]

theorem ofMembers?_keys (ms : List (String × Json)) :
    ofMembers? (ms.map fun m => (some m.1, m.2)) = some (.obj ms) := by
  have hkeys : (ms.map fun m => (some m.1, m.2)).mapM
      (fun (m : Option String × Json) => m.1.map (·, m.2)) = some ms := by
    induction ms with
    | nil => rfl
    | cons m ms ih => simp [ih]
  rw [ofMembers?, hkeys]

theorem readsBack_arr (hvs : ∀ v ∈ vs, ReadsBack v) : ReadsBack (.arr vs) := by
  intro n rest hn
  simp only [tokens, List.length_cons, List.length_append, List.length_nil] at hn
  obtain ⟨n, rfl⟩ : ∃ k, n = k + 1 := ⟨n - 1, by omega⟩
  cases vs with
  | nil => rfl
  | cons v vs =>
    have hitems := items_tokens hvs (by simp) rest (n := n) (by omega)
    obtain ⟨t, ts, hts, hclose⟩ := exists_tokens_eq_cons v
    have htokens : (Json.arr (v :: vs)).tokens ++ rest =
        .openArr :: (itemTokens (v :: vs) ++ .closeArr :: rest) := by
      simp [tokens]
    have hopen : ∀ r, itemTokens (v :: vs) ++ .closeArr :: rest = .closeArr :: r → False := by
      intro r hr
      rw [itemTokens_cons, hts] at hr
      exact hclose (List.cons.inj hr).1
    rw [htokens, value, hitems]
    · rfl
    · exact hopen

theorem readsBack_obj (hms : ∀ m ∈ ms, ReadsBack m.2) : ReadsBack (.obj ms) := by
  intro n rest hn
  simp only [tokens, List.length_cons, List.length_append, List.length_nil] at hn
  obtain ⟨n, rfl⟩ : ∃ k, n = k + 1 := ⟨n - 1, by omega⟩
  cases ms with
  | nil => rfl
  | cons m ms =>
    have hmembers := members_tokens hms (by simp) rest (n := n) (by omega)
    have htokens : (Json.obj (m :: ms)).tokens ++ rest =
        .openObj :: (memberTokens (m :: ms) ++ .closeObj :: rest) := by
      simp [tokens]
    have hopen : ∀ r, memberTokens (m :: ms) ++ .closeObj :: rest = .closeObj :: r → False := by
      intro r hr
      rw [memberTokens_cons] at hr
      cases hr
    rw [htokens, value, hmembers]
    · simp only [Option.bind_some, ofMembers?_keys, Option.map_some]
    · exact hopen

theorem IsPlain.readsBack (hv : v.IsPlain) : ReadsBack v := by
  induction hv with
  | arr hvs ih => exact readsBack_arr ih
  | obj hms ih => exact readsBack_obj ih
  | _ =>
    intro n rest hn
    obtain ⟨n, rfl⟩ : ∃ k, n = k + 1 := ⟨n - 1, by simp [tokens] at hn; omega⟩
    rfl

theorem ofTokens_tokens (hv : v.IsPlain) : ofTokens v.tokens = some v := by
  have hvalue := hv.readsBack (2 * v.tokens.length + 1) [] (by omega)
  rw [List.append_nil] at hvalue
  rw [ofTokens, hvalue]

/-- A plain document is read back from its text. -/
theorem parse_render (hv : v.IsPlain) : parse v.render = some v := by
  have hlegible := hv.tellsApart [] trivial nofun
  rw [List.append_nil] at hlegible
  have hlex := lex_text hlegible (length_le_length_flatMap v.tokens)
  rw [parse, render, String.toList_ofList, hlex, Option.bind_some, ofTokens_tokens hv]

end Values

end ShardStream.Json

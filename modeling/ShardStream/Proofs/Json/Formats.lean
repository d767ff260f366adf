import ShardStream.Json.Format
import ShardStream.Proofs.Json.Parsing

/-! # Formats that read back what they write

A format restores a value if it reads from the document that it writes for it the same value. Each
way of putting formats together keeps this, so that it has to be looked at part by part only.
-/
namespace ShardStream.Json

/-- The document is plain, opens at most so many levels, and its numbers are integers of 64 bits. -/
inductive Fits : Nat → Json → Prop
  | null {levels : Nat} : Fits levels .null
  | bool {levels : Nat} (b : Bool) : Fits levels (.bool b)
  | num {levels : Nat} {n : Numeral} (hn : n.word?.isSome = true) : Fits levels (.num n)
  | str {levels : Nat} (s : String) : Fits levels (.str s)
  | arr {levels : Nat} {vs : List Json} (hvs : ∀ v ∈ vs, Fits levels v) :
      Fits (levels + 1) (.arr vs)
  | obj {levels : Nat} {ms : List (String × Json)} (hms : ∀ m ∈ ms, Fits levels m.2) :
      Fits (levels + 1) (.obj ms)

namespace Fits

variable {levels more : Nat} {v : Json} {vs : List Json} {ms : List (String × Json)}

theorem isPlain (hv : Fits levels v) : v.IsPlain := by
  induction hv with
  | null => exact .null
  | bool b => exact .bool b
  | num hn => exact .num _
  | str s => exact .str s
  | arr hvs ih => exact .arr ih
  | obj hms ih => exact .obj ih

theorem mono (hv : Fits levels v) (hmore : levels ≤ more) : Fits more v := by
  induction hv generalizing more with
  | null => exact .null
  | bool b => exact .bool b
  | num hn => exact .num hn
  | str s => exact .str s
  | arr hvs ih =>
    obtain ⟨more, rfl⟩ := Nat.exists_eq_add_of_lt hmore
    exact .arr fun v hv => ih v hv (by omega)
  | obj hms ih =>
    obtain ⟨more, rfl⟩ := Nat.exists_eq_add_of_lt hmore
    exact .obj fun m hm => ih m hm (by omega)

theorem normalizeItems_isSome (hvs : ∀ v ∈ vs, ∃ w, Format.normalize levels v = some w) :
    ∃ ws, Format.normalizeItems levels vs = some ws := by
  induction vs with
  | nil => exact ⟨[], rfl⟩
  | cons v vs ih =>
    obtain ⟨⟨w, hw⟩, hvs⟩ := List.forall_mem_cons.1 hvs
    obtain ⟨ws, hws⟩ := ih hvs
    exact ⟨w :: ws, by rw [Format.normalizeItems, hw, hws]⟩

theorem normalizeMembers_isSome (hms : ∀ m ∈ ms, ∃ w, Format.normalize levels m.2 = some w) :
    ∃ ws, Format.normalizeMembers levels ms = some ws := by
  induction ms with
  | nil => exact ⟨[], rfl⟩
  | cons m ms ih =>
    obtain ⟨⟨w, hw⟩, hms⟩ := List.forall_mem_cons.1 hms
    obtain ⟨ws, hws⟩ := ih hms
    exact ⟨(m.1, w) :: ws, by rw [Format.normalizeMembers, hw, hws]⟩

/-- Where so many levels may open, nothing in the document is left without value. -/
theorem normalizes (hv : Fits levels v) : ∃ w, Format.normalize levels v = some w := by
  induction hv with
  | @num levels n hn =>
    obtain ⟨i, hi⟩ := Option.isSome_iff_exists.1 hn
    exact ⟨.num (.ofInt i), by rw [Format.normalize, hi]⟩
  | arr hvs ih =>
    obtain ⟨ws, hws⟩ := normalizeItems_isSome ih
    exact ⟨.arr ws, by rw [Format.normalize, hws, Option.map_some]⟩
  | obj hms ih =>
    obtain ⟨ws, hws⟩ := normalizeMembers_isSome ih
    exact ⟨.obj (KeyMap.ofList ws).entries, by rw [Format.normalize, hws, Option.map_some]⟩
  | _ => exact ⟨_, by rw [Format.normalize]⟩

end Fits

theorem Scope.enter_of_le {s : Scope} {levels : Nat} (h : levels + 1 ≤ s.depth) :
    ∃ inner : Scope, s.enter = some inner ∧ levels ≤ inner.depth := by
  obtain ⟨depth, buffered⟩ := s
  cases depth with
  | zero => exact absurd h (by simp)
  | succ depth => exact ⟨⟨depth, buffered⟩, rfl, Nat.le_of_succ_le_succ h⟩

/-- What the format writes for the value opens at most so many levels, and is read back as the value
wherever that many may still open. -/
structure Format.Restores {α : Type} (f : Format α) (levels : Nat) (a : α) : Prop where
  fits : (f.write a).Fits levels
  reads : ∀ s : Scope, levels ≤ s.depth → f.read s (f.write a) = some a

/-- The members that the record writes for the value have its names. If these are distinct, the
value is read back from any members of which those with its names are the ones written. -/
structure Record.Restores {α : Type} (r : Record α) (levels : Nat) (a : α) : Prop where
  named : ∀ m ∈ r.write a, m.1 ∈ r.names
  fits : ∀ m ∈ r.write a, m.2.Fits levels
  reads : r.names.Nodup → ∀ (s : Scope) (ms : List (String × Json)), levels ≤ s.depth →
    ms.filter (fun m => m.1 ∈ r.names) = r.write a → r.readMembers s ms = some a

namespace Format

variable {α β : Type} {f : Format α} {levels : Nat}

theorem restores_text (s : String) : text.Restores levels s := ⟨.str s, fun _ _ => rfl⟩

theorem restores_uint64 (n : UInt64) : uint64.Restores levels n where
  fits := .num (Numeral.isSome_word?_of_uint64? (Numeral.uint64?_ofNat n))
  reads s hs := by simp only [uint64, Numeral.uint64?_ofNat]

theorem restores_int64 (n : Int64) : int64.Restores levels n where
  fits := .num (Numeral.isSome_word?_of_int64? (Numeral.int64?_ofInt n))
  reads s hs := by simp only [int64, Numeral.int64?_ofInt]

theorem restores_byte (n : UInt8) : byte.Restores levels n := by
  have hword := Numeral.uint64?_ofNat n.toUInt64
  rw [UInt8.toNat_toUInt64] at hword
  have hsmall : n.toUInt64 < 256 := by
    rw [UInt64.lt_iff_toNat_lt, UInt8.toNat_toUInt64]
    exact n.toNat_lt
  refine ⟨.num (Numeral.isSome_word?_of_uint64? hword), fun s hs => ?_⟩
  simp only [byte, hword, Option.filter_some, hsmall, decide_true, if_true, Option.map_some,
    UInt8.toUInt8_toUInt64]

theorem Restores.imap {make : α → β} {back : β → α} {b : β} (h : f.Restores levels (back b))
    (hmake : make (back b) = b) : (f.imap make back).Restores levels b where
  fits := h.fits
  reads s hs := by
    rw [Format.imap]
    simp only [h.reads s hs, Option.map_some, hmake]

theorem Restores.imap? {make? : α → Option β} {back : β → α} {b : β}
    (h : f.Restores levels (back b)) (hmake : make? (back b) = some b) :
    (f.imap? make? back).Restores levels b where
  fits := h.fits
  reads s hs := by
    rw [Format.imap?]
    simp only [h.reads s hs, Option.bind_some, hmake]

theorem read_option {v : Json} (hv : v ≠ .null) (s : Scope) :
    f.option.read s v = (f.read s v).map some := by
  cases v with
  | null => exact absurd rfl hv
  | _ => rfl

/-- A value that is written as `null` could not be told from a missing one. -/
theorem Restores.option {o : Option α} (h : ∀ a ∈ o, f.Restores levels a)
    (hnull : ∀ a, f.write a ≠ .null) : f.option.Restores levels o := by
  cases o with
  | none => exact ⟨.null, fun _ _ => rfl⟩
  | some a =>
    have ha := h a rfl
    refine ⟨ha.fits, fun s hs => ?_⟩
    have hread := read_option (f := f) (hnull a) s
    rw [ha.reads s hs] at hread
    exact hread

theorem mapM_read {as : List α} (h : ∀ a ∈ as, f.Restores levels a) {s : Scope}
    (hs : levels ≤ s.depth) : (as.map f.write).mapM (f.read s) = some as := by
  induction as with
  | nil => rfl
  | cons a as ih =>
    obtain ⟨ha, has⟩ := List.forall_mem_cons.1 h
    simp [ha.reads s hs, ih has]

theorem Restores.list {as : List α} (h : ∀ a ∈ as, f.Restores levels a) :
    f.list.Restores (levels + 1) as where
  fits := by
    refine .arr fun v hv => ?_
    obtain ⟨a, ha, rfl⟩ := List.mem_map.1 hv
    exact (h a ha).fits
  reads s hs := by
    obtain ⟨inner, henter, hinner⟩ := s.enter_of_le hs
    simp only [Format.list, henter, Option.bind_some]
    exact mapM_read h hinner

theorem restores_bytes (bs : List UInt8) : bytes.Restores (levels + 1) bs := by
  have h : (list byte).Restores (levels + 1) bs := .list fun n _ => restores_byte n
  exact ⟨h.fits, h.reads⟩

theorem mapM_readMember {es : List (String × α)} (h : ∀ e ∈ es, f.Restores levels e.2) {s : Scope}
    (hs : levels ≤ s.depth) :
    (es.map fun e => (e.1, f.write e.2)).mapM (fun e => (f.read s e.2).map (e.1, ·)) = some es := by
  induction es with
  | nil => rfl
  | cons e es ih =>
    obtain ⟨he, hes⟩ := List.forall_mem_cons.1 h
    simp [he.reads s hs, ih hes]

theorem Restores.keyMap {m : KeyMap α} (h : ∀ e ∈ m.entries, f.Restores levels e.2) :
    f.keyMap.Restores (levels + 1) m where
  fits := by
    refine .obj fun e he => ?_
    obtain ⟨a, ha, rfl⟩ := List.mem_map.1 he
    exact (h a ha).fits
  reads s hs := by
    obtain ⟨inner, henter, hinner⟩ := s.enter_of_le hs
    simp only [Format.keyMap, henter, Option.bind_some, mapM_readMember h hinner, Option.map_some,
      KeyMap.ofList_entries]

/-- A name is restored if no name before it in the list is the same. -/
theorem restores_choice [DecidableEq α] {all : List α} {name : α → String} {a : α}
    (ha : (all.find? fun b => name b = name a) = some a) : (choice all name).Restores levels a where
  fits := .str (name a)
  reads _ _ := ha

/-- A variant with content, written as an object with its tag as the only member. -/
theorem Restores.variant {a : α} (h : f.Restores levels a) {g : Format β}
    (readTagged : String → Option (Scope × Json) → Option β) {tag : String} {make : α → β} {b : β}
    (hwrite : g.write b = .obj [(tag, f.write a)])
    (hread : ∀ s v, g.read s v = (tagged s v).bind fun p => readTagged p.1 p.2)
    (htag : ∀ s v, readTagged tag (some (s, v)) = (f.read s v).map make) (hmake : make a = b) :
    g.Restores (levels + 1) b where
  fits := by
    rw [hwrite]
    refine .obj fun m hm => ?_
    rw [List.mem_singleton.1 hm]
    exact h.fits
  reads s hs := by
    obtain ⟨inner, henter, hinner⟩ := s.enter_of_le hs
    rw [hwrite, hread, tagged, henter, Option.map_some, Option.bind_some, htag,
      h.reads inner hinner, Option.map_some, hmake]

/-- A value is read back from its text. -/
theorem Restores.decode_parse {a : α} (h : f.Restores levels a)
    (hlevels : levels ≤ Scope.top.depth) :
    (Json.parse (f.write a).render).bind f.decode = some a := by
  rw [parse_render h.fits.isPlain, Option.bind_some]
  exact h.reads .top hlevels

end Format

namespace Record

variable {α β : Type} {f : Format α} {r : Record α} {q : Record β} {levels : Nat}

theorem named_of_filter {name : String} {ms es : List (String × Json)}
    (h : ms.filter (fun m => m.1 ∈ [name]) = es) : named name ms = es.map (·.2) := by
  simp only [List.mem_singleton] at h
  rw [named, h]

theorem filter_names {some all : List String} (h : ∀ name ∈ some, name ∈ all)
    (ms : List (String × Json)) :
    (ms.filter fun m => m.1 ∈ all).filter (fun m => m.1 ∈ some) =
      ms.filter fun m => m.1 ∈ some := by
  rw [List.filter_filter]
  refine List.filter_congr fun m _ => ?_
  by_cases hm : m.1 ∈ some
  · simp [hm, h m.1 hm]
  · simp [hm]

theorem restores_required (name : String) {a : α} (h : f.Restores levels a) :
    (required name f).Restores levels a where
  named m hm := by
    obtain rfl := List.mem_singleton.1 hm
    exact List.mem_singleton_self name
  fits m hm := by
    obtain rfl := List.mem_singleton.1 hm
    exact h.fits
  reads _ s ms hs hms := by
    have hnamed : named name ms = [f.write a] := named_of_filter hms
    simp only [required, hnamed]
    exact h.reads s hs

/-- An optional member is always written, and `null` when it is absent. -/
theorem restores_optional (name : String) {o : Option α} (h : ∀ a ∈ o, f.Restores levels a)
    (hnull : ∀ a, f.write a ≠ .null) : (optional name f).Restores levels o where
  named := (restores_required name (Format.Restores.option h hnull)).named
  fits := (restores_required name (Format.Restores.option h hnull)).fits
  reads _ s ms hs hms := by
    have hnamed : named name ms = [f.option.write o] := named_of_filter hms
    simp only [optional, hnamed]
    exact (Format.Restores.option h hnull).reads s hs

theorem restores_defaulted [DecidableEq α] (name : String) (default : α) {a : α}
    (h : f.Restores levels a) : (defaulted name default f).Restores levels a where
  named m hm := by
    by_cases ha : a = default
    · simp [defaulted, ha] at hm
    · simp only [defaulted, if_neg ha, List.mem_singleton] at hm
      exact List.mem_singleton.2 (congrArg Prod.fst hm)
  fits m hm := by
    by_cases ha : a = default
    · simp [defaulted, ha] at hm
    · simp only [defaulted, if_neg ha, List.mem_singleton] at hm
      rw [hm]
      exact h.fits
  reads _ s ms hs hms := by
    by_cases ha : a = default
    · have hwrite : (defaulted name default f).write a = [] := if_pos ha
      have hnamed : named name ms = [] := named_of_filter (hms.trans hwrite)
      simp only [defaulted, hnamed, ha]
    · have hwrite : (defaulted name default f).write a = [(name, f.write a)] := if_neg ha
      have hnamed : named name ms = [f.write a] := named_of_filter (hms.trans hwrite)
      simp only [defaulted, hnamed]
      exact h.reads s hs

/-- Two records whose names are distinct do not get into each other's way. -/
theorem Restores.and {p : α × β} (hr : r.Restores levels p.1) (hq : q.Restores levels p.2) :
    (r.and q).Restores levels p where
  named e he := by
    rcases List.mem_append.1 he with he | he
    · exact List.mem_append_left _ (hr.named e he)
    · exact List.mem_append_right _ (hq.named e he)
  fits e he := by
    rcases List.mem_append.1 he with he | he
    · exact hr.fits e he
    · exact hq.fits e he
  reads hnames s ms hs hms := by
    obtain ⟨hrnames, hqnames, hdisjoint⟩ := List.nodup_append.1 hnames
    -- what the other record writes is passed over
    have hown : (r.write p.1).filter (fun e => e.1 ∈ r.names) = r.write p.1 ∧
        (q.write p.2).filter (fun e => e.1 ∈ q.names) = q.write p.2 :=
      ⟨List.filter_eq_self.2 fun e he => decide_eq_true (hr.named e he),
        List.filter_eq_self.2 fun e he => decide_eq_true (hq.named e he)⟩
    have hforeign : (q.write p.2).filter (fun e => e.1 ∈ r.names) = [] ∧
        (r.write p.1).filter (fun e => e.1 ∈ q.names) = [] := by
      refine ⟨List.filter_eq_nil_iff.2 fun e he => ?_, List.filter_eq_nil_iff.2 fun e he => ?_⟩
      · simpa using fun hmem => hdisjoint e.1 hmem e.1 (hq.named e he) rfl
      · simpa using fun hmem => hdisjoint e.1 (hr.named e he) e.1 hmem rfl
    have hboth : ms.filter (fun e => e.1 ∈ r.names ++ q.names) = r.write p.1 ++ q.write p.2 := hms
    have hfirst : ms.filter (fun e => e.1 ∈ r.names) = r.write p.1 := by
      rw [← filter_names (fun _ => List.mem_append_left q.names) ms, hboth, List.filter_append,
        hown.1, hforeign.1, List.append_nil]
    have hsecond : ms.filter (fun e => e.1 ∈ q.names) = q.write p.2 := by
      rw [← filter_names (fun _ => List.mem_append_right r.names) ms, hboth, List.filter_append,
        hown.2, hforeign.2, List.nil_append]
    have hread := hr.reads hrnames s ms hs hfirst
    have hread' := hq.reads hqnames s ms hs hsecond
    simp only [Record.and, hread, hread', Option.bind_some, Option.map_some]

theorem Restores.imap {make : α → β} {back : β → α} {b : β} (h : r.Restores levels (back b))
    (hmake : make (back b) = b) : (r.imap make back).Restores levels b where
  named := h.named
  fits := h.fits
  reads hnames s ms hs hms := by
    simp only [Record.imap, h.reads hnames s ms hs hms, Option.map_some, hmake]

/-- The members that were written are read back. -/
theorem Restores.read {a : α} (h : r.Restores levels a) (hnames : r.names.Nodup) {inner : Scope}
    (hinner : levels ≤ inner.depth) : r.read inner (.obj (r.write a)) = some a := by
  have hown : (r.write a).filter (fun m => m.1 ∈ r.names) = r.write a :=
    List.filter_eq_self.2 fun m hm => decide_eq_true (h.named m hm)
  have hall : ((r.write a).all fun m => m.1 ∈ r.names || m.2.skips) = true :=
    List.all_eq_true.2 fun m hm => by simp [h.named m hm]
  rw [Record.read, if_pos hall]
  exact h.reads hnames inner _ hinner hown

theorem Restores.format {a : α} (hnames : r.names.Nodup) (h : r.Restores levels a) :
    r.format.Restores (levels + 1) a where
  fits := .obj h.fits
  reads s hs := by
    obtain ⟨inner, henter, hinner⟩ := s.enter_of_le hs
    simp only [Record.format, henter, Option.bind_some]
    exact h.read hnames hinner

end Record

end ShardStream.Json

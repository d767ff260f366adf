/-! # Maps with text keys in ascending order

A map is the list of its entries with strictly ascending keys. Each map has one such list, so two
maps with the same entries are equal, and writing a map out needs no further ordering.
-/
namespace ShardStream

/-- The entries of a map, each key once, in ascending order. -/
structure KeyMap (β : Type) where
  entries : List (String × β)
  ascending : entries.Pairwise (fun a b => a.1 < b.1)

namespace KeyMap

variable {β : Type}

theorem ext_entries {m n : KeyMap β} (h : m.entries = n.entries) : m = n := by
  cases m; cases n; cases h; rfl

instance [DecidableEq β] : DecidableEq (KeyMap β) := fun m n =>
  if h : m.entries = n.entries then .isTrue (ext_entries h)
  else .isFalse fun e => h (e ▸ rfl)

def empty : KeyMap β := ⟨[], .nil⟩

instance : Inhabited (KeyMap β) := ⟨empty⟩

/-- Puts `v` at `k`, in place of the value that was there. -/
def place (k : String) (v : β) : List (String × β) → List (String × β)
  | [] => [(k, v)]
  | e :: rest =>
    if k < e.1 then (k, v) :: e :: rest
    else if k = e.1 then (k, v) :: rest
    else e :: place k v rest

theorem mem_place {k : String} {v : β} {es : List (String × β)} {e : String × β}
    (h : e ∈ place k v es) : e = (k, v) ∨ e ∈ es := by
  induction es with
  | nil => simpa [place] using h
  | cons x rest ih =>
    unfold place at h
    split at h
    · simpa using h
    · split at h
      · rcases List.mem_cons.1 h with h | h
        · exact Or.inl h
        · exact Or.inr (List.mem_cons_of_mem _ h)
      · rcases List.mem_cons.1 h with h | h
        · exact Or.inr (h ▸ List.mem_cons_self)
        · rcases ih h with h | h
          · exact Or.inl h
          · exact Or.inr (List.mem_cons_of_mem _ h)

theorem ascending_place (k : String) (v : β) {es : List (String × β)}
    (h : es.Pairwise (fun a b => a.1 < b.1)) :
    (place k v es).Pairwise (fun a b => a.1 < b.1) := by
  induction es with
  | nil => simp [place]
  | cons x rest ih =>
    obtain ⟨hx, hr⟩ := List.pairwise_cons.1 h
    unfold place
    split
    · next hlt =>
      refine List.pairwise_cons.2 ⟨fun y hy => ?_, h⟩
      rcases List.mem_cons.1 hy with rfl | hy
      · exact hlt
      · exact String.lt_trans hlt (hx y hy)
    · split
      · next heq => exact List.pairwise_cons.2 ⟨fun y hy => heq ▸ hx y hy, hr⟩
      · next hnlt hne =>
        refine List.pairwise_cons.2 ⟨fun y hy => ?_, ih hr⟩
        rcases mem_place hy with rfl | hy
        · exact Std.lt_of_le_of_ne (String.not_lt.1 hnlt) (Ne.symm hne)
        · exact hx y hy

def insert (m : KeyMap β) (k : String) (v : β) : KeyMap β :=
  ⟨place k v m.entries, ascending_place k v m.ascending⟩

def find (k : String) : List (String × β) → Option β
  | [] => none
  | e :: rest => if k = e.1 then some e.2 else find k rest

def get? (m : KeyMap β) (k : String) : Option β := find k m.entries

def contains (m : KeyMap β) (k : String) : Bool := (m.get? k).isSome

def getD (m : KeyMap β) (k : String) (default : β) : β := (m.get? k).getD default

def keys (m : KeyMap β) : List String := m.entries.map (·.1)

def values (m : KeyMap β) : List β := m.entries.map (·.2)

def size (m : KeyMap β) : Nat := m.entries.length

def isEmpty (m : KeyMap β) : Bool := m.entries.isEmpty

/-- The map of the given entries; of two entries with one key the later counts. -/
def ofList (es : List (String × β)) : KeyMap β := es.foldl (fun m e => m.insert e.1 e.2) empty

theorem find_place (k k' : String) (v : β) (es : List (String × β)) :
    find k' (place k v es) = if k' = k then some v else find k' es := by
  induction es with
  | nil => simp [place, find]
  | cons x rest ih =>
    unfold place
    by_cases hlt : k < x.1
    · simp [hlt, find]
    · by_cases heq : k = x.1
      · rw [if_neg hlt, if_pos heq]
        by_cases hk : k' = k <;> simp [find, ← heq, hk]
      · by_cases hk : k' = x.1
        · have hne : ¬ x.1 = k := fun e => heq e.symm
          simp [hlt, heq, find, hk, hne]
        · simp [hlt, heq, find, hk, ih]

theorem get?_insert (m : KeyMap β) (k k' : String) (v : β) :
    (m.insert k v).get? k' = if k' = k then some v else m.get? k' :=
  find_place k k' v m.entries

@[simp] theorem get?_insert_self (m : KeyMap β) (k : String) (v : β) :
    (m.insert k v).get? k = some v := by simp [get?_insert]

@[simp] theorem get?_empty (k : String) : (empty : KeyMap β).get? k = none := rfl

theorem find_eq_none {k : String} {es : List (String × β)} (h : ∀ e ∈ es, k < e.1) :
    find k es = none := by
  induction es with
  | nil => rfl
  | cons x rest ih =>
    have hlt : k < x.1 := h x List.mem_cons_self
    have hne : k ≠ x.1 := fun e => String.lt_irrefl k (e ▸ hlt)
    rw [find, if_neg hne]
    exact ih fun y hy => h y (List.mem_cons_of_mem _ hy)

theorem place_of_find {k : String} {v : β} {es : List (String × β)}
    (hes : es.Pairwise (fun a b => a.1 < b.1)) (h : find k es = some v) : place k v es = es := by
  induction es with
  | nil => cases h
  | cons x rest ih =>
    obtain ⟨hx, hrest⟩ := List.pairwise_cons.1 hes
    by_cases hk : k = x.1
    · have hv : x.2 = v := by simpa [find, hk] using h
      have hlt : ¬ k < x.1 := hk ▸ String.lt_irrefl k
      rw [place, if_neg hlt, if_pos hk, hk, ← hv]
    · have htail : find k rest = some v := by simpa [find, hk] using h
      have hlt : ¬ k < x.1 := by
        intro hlt
        rw [find_eq_none fun y hy => String.lt_trans hlt (hx y hy)] at htail
        cases htail
      rw [place, if_neg hlt, if_neg hk, ih hrest htail]

/-- Putting a value where it already is changes nothing. -/
theorem insert_of_get? {m : KeyMap β} {k : String} {v : β} (h : m.get? k = some v) :
    m.insert k v = m := ext_entries (place_of_find m.ascending h)

theorem insert_eq_self_iff {m : KeyMap β} {k : String} {v w : β} (h : m.get? k = some v) :
    m.insert k w = m ↔ w = v := by
  constructor
  · intro hm
    have hw := m.get?_insert_self k w
    rw [hm, h] at hw
    exact (Option.some.inj hw).symm
  · rintro rfl
    exact insert_of_get? h

theorem mem_of_find {k : String} {v : β} {es : List (String × β)} (h : find k es = some v) :
    (k, v) ∈ es := by
  induction es with
  | nil => cases h
  | cons x rest ih =>
    by_cases hk : k = x.1
    · have hv : x.2 = v := by simpa [find, hk] using h
      rw [hk, ← hv]
      exact List.mem_cons_self
    · exact List.mem_cons_of_mem _ (ih (by simpa [find, hk] using h))

theorem find_of_mem {es : List (String × β)} (hes : es.Pairwise (fun a b => a.1 < b.1))
    {e : String × β} (h : e ∈ es) : find e.1 es = some e.2 := by
  induction es with
  | nil => cases h
  | cons x rest ih =>
    obtain ⟨hx, hrest⟩ := List.pairwise_cons.1 hes
    rcases List.mem_cons.1 h with rfl | h
    · simp [find]
    · have hne : ¬ e.1 = x.1 := fun heq => String.lt_irrefl x.1 (heq ▸ hx e h)
      rw [find, if_neg hne]
      exact ih hrest h

theorem get?_eq_some_iff {m : KeyMap β} {k : String} {v : β} :
    m.get? k = some v ↔ (k, v) ∈ m.entries :=
  ⟨mem_of_find, find_of_mem m.ascending⟩

theorem mem_keys_iff {m : KeyMap β} {k : String} : k ∈ m.keys ↔ ∃ v, m.get? k = some v := by
  simp only [keys, get?_eq_some_iff, List.mem_map, Prod.exists, exists_and_right, exists_eq_right]

theorem nodup_keys (m : KeyMap β) : m.keys.Nodup := by
  rw [keys, List.Nodup, List.pairwise_map]
  refine m.ascending.imp ?_
  intro a b hlt heq
  rw [heq] at hlt
  exact String.lt_irrefl b.1 hlt

theorem length_place_le (k : String) (v : β) (es : List (String × β)) :
    (place k v es).length ≤ es.length + 1 := by
  induction es with
  | nil => exact Nat.le_refl 1
  | cons x rest ih =>
    unfold place
    split
    · exact Nat.le_refl _
    · split
      · exact Nat.le_succ _
      · exact Nat.succ_le_succ ih

theorem size_insert_le (m : KeyMap β) (k : String) (v : β) : (m.insert k v).size ≤ m.size + 1 :=
  length_place_le k v m.entries

theorem find_map {γ : Type} (f : β → γ) (k : String) (es : List (String × β)) :
    find k (es.map fun e => (e.1, f e.2)) = (find k es).map f := by
  induction es with
  | nil => rfl
  | cons x rest ih =>
    by_cases hk : k = x.1
    · simp [find, hk]
    · simp [find, hk, ih]

/-- A key above all others goes to the end. -/
theorem place_eq_append {k : String} {es : List (String × β)} (h : ∀ e ∈ es, e.1 < k) (v : β) :
    place k v es = es ++ [(k, v)] := by
  induction es with
  | nil => rfl
  | cons x rest ih =>
    have hx : x.1 < k := h x List.mem_cons_self
    have hlt : ¬ k < x.1 := fun hk => String.lt_irrefl k (String.lt_trans hk hx)
    have hne : ¬ k = x.1 := fun hk => String.lt_irrefl k (hk ▸ hx)
    rw [place, if_neg hlt, if_neg hne, ih fun e he => h e (List.mem_cons_of_mem _ he)]
    rfl

theorem entries_foldl_insert {es : List (String × β)} {m : KeyMap β}
    (h : (m.entries ++ es).Pairwise (fun a b => a.1 < b.1)) :
    (es.foldl (fun m e => m.insert e.1 e.2) m).entries = m.entries ++ es := by
  induction es generalizing m with
  | nil => simp
  | cons e rest ih =>
    have hlast : ∀ x ∈ m.entries, x.1 < e.1 := fun x hx =>
      (List.pairwise_append.1 h).2.2 x hx e List.mem_cons_self
    have hentries : (m.insert e.1 e.2).entries = m.entries ++ [e] := place_eq_append hlast e.2
    have hrest : ((m.insert e.1 e.2).entries ++ rest).Pairwise (fun a b => a.1 < b.1) := by
      rw [hentries, List.append_assoc]
      exact h
    rw [List.foldl_cons, ih hrest, hentries, List.append_assoc]
    rfl

/-- A map is the map of its entries. -/
theorem ofList_entries (m : KeyMap β) : ofList m.entries = m :=
  ext_entries (entries_foldl_insert (m := empty) m.ascending)

end KeyMap

end ShardStream

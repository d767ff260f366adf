/-! # Cutting a text at its first separator -/
namespace ShardStream.Text

/-- The parts before and after the first `c`, or nothing when `c` does not occur. -/
def cutAt (c : Char) : List Char → Option (List Char × List Char)
  | [] => none
  | x :: rest => if x = c then some ([], rest) else (cutAt c rest).map fun (a, b) => (x :: a, b)

theorem cutAt_eq_none_iff {c : Char} {cs : List Char} : cutAt c cs = none ↔ c ∉ cs := by
  induction cs with
  | nil => simp [cutAt]
  | cons x rest ih =>
    by_cases h : x = c
    · simp [cutAt, h]
    · simp [cutAt, h, ih, Ne.symm h]

theorem cutAt_append {c : Char} {a : List Char} (h : c ∉ a) (b : List Char) :
    cutAt c (a ++ c :: b) = some (a, b) := by
  induction a with
  | nil => simp [cutAt]
  | cons x rest ih =>
    have hx : x ≠ c := fun e => h (e ▸ List.mem_cons_self)
    have hr : c ∉ rest := fun m => h (List.mem_cons_of_mem _ m)
    simp [cutAt, hx, ih hr]

theorem eq_append_of_cutAt {c : Char} {cs a b : List Char} (h : cutAt c cs = some (a, b)) :
    cs = a ++ c :: b ∧ c ∉ a := by
  induction cs generalizing a with
  | nil => simp [cutAt] at h
  | cons x rest ih =>
    by_cases hx : x = c
    · simp only [cutAt, hx, if_true, Option.some.injEq, Prod.mk.injEq] at h
      obtain ⟨rfl, rfl⟩ := h
      simp [hx]
    · simp only [cutAt, hx, if_false, Option.map_eq_some_iff, Prod.exists, Prod.mk.injEq] at h
      obtain ⟨a', b', hr, rfl, rfl⟩ := h
      obtain ⟨rfl, hn⟩ := ih hr
      simp [Ne.symm hx, hn]

end ShardStream.Text

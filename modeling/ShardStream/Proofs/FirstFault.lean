import Mathlib.Data.List.Induction
import ShardStream.FaultSlot

/-! # The first fault is kept

A slot is used by publishing faults in it and by taking out what it holds, any number of times and
in any order. It accepts the first fault that is published and drops every later one, even when the
first has been taken out by then. It is set from the first publication on, and what is taken out is
the first fault, once. All of this is told by the calls made so far.
-/
namespace ShardStream.FaultSlot

/-- What is done with a slot. -/
inductive Call where
  | publish (f : Fault)
  | take
  deriving DecidableEq

def perform (s : FaultSlot) : Call → FaultSlot
  | .publish f => (s.publish f).1
  | .take => s.take.2

def performAll (s : FaultSlot) (calls : List Call) : FaultSlot := calls.foldl perform s

/-- Some fault has been published. -/
def IsUsed (calls : List Call) : Prop := ∃ f, .publish f ∈ calls

/-- The fault is the first that was published, and nothing has been taken since. -/
def IsPending (f : Fault) (calls : List Call) : Prop :=
  ∃ before after, calls = before ++ .publish f :: after ∧ ¬ IsUsed before ∧ .take ∉ after

variable {s : FaultSlot} {calls before after : List Call} {call other : Call} {f g : Fault}

theorem isUsed_concat_publish : IsUsed (calls ++ [.publish f]) := ⟨f, by simp⟩

theorem isUsed_concat_take : IsUsed (calls ++ [.take]) ↔ IsUsed calls := by
  simp [IsUsed]

/-- The last of the calls is the one in the middle if nothing comes after that, and else it comes
after that. -/
theorem concat_eq_append_cons (h : calls ++ [call] = before ++ other :: after) :
    (after = [] ∧ calls = before ∧ call = other) ∨
      ∃ rest, after = rest ++ [call] ∧ calls = before ++ other :: rest := by
  rcases List.eq_nil_or_concat after with rfl | ⟨rest, last, rfl⟩
  · obtain ⟨rfl, hlast⟩ := List.append_inj' h rfl
    exact .inl ⟨rfl, rfl, List.singleton_inj.1 hlast⟩
  · rw [List.concat_eq_append, ← List.cons_append, ← List.append_assoc] at h
    obtain ⟨rfl, hlast⟩ := List.append_inj' h rfl
    exact .inr ⟨rest, by rw [List.concat_eq_append, hlast], rfl⟩

theorem not_isPending_concat_take : ¬ IsPending f (calls ++ [.take]) := by
  rintro ⟨before, after, heq, -, htake⟩
  rcases concat_eq_append_cons heq with ⟨-, -, hcall⟩ | ⟨rest, rfl, -⟩
  · cases hcall
  · exact htake (by simp)

theorem isPending_concat_publish :
    IsPending f (calls ++ [.publish g]) ↔ IsPending f calls ∨ ¬ IsUsed calls ∧ f = g := by
  constructor
  · rintro ⟨before, after, heq, hbefore, htake⟩
    rcases concat_eq_append_cons heq with ⟨-, rfl, hcall⟩ | ⟨rest, rfl, rfl⟩
    · cases hcall
      exact .inr ⟨hbefore, rfl⟩
    · exact .inl ⟨before, rest, rfl, hbefore, fun h => htake (List.mem_append_left _ h)⟩
  · rintro (⟨before, after, rfl, hbefore, htake⟩ | ⟨hunused, rfl⟩)
    · exact ⟨before, after ++ [.publish g], by simp, hbefore, by simpa using htake⟩
    · exact ⟨calls, [], rfl, hunused, List.not_mem_nil⟩

theorem IsPending.isUsed (h : IsPending f calls) : IsUsed calls := by
  obtain ⟨before, after, rfl, -⟩ := h
  exact ⟨f, by simp⟩

/-- The slot is in the state that the calls lead to. -/
structure Follows (s : FaultSlot) (calls : List Call) : Prop where
  isSet : s.isSet = true ↔ IsUsed calls
  held : ∀ f, s.held = some f ↔ IsPending f calls

theorem follows_empty : empty.Follows [] := by
  refine ⟨iff_of_false nofun nofun, fun f => iff_of_false nofun ?_⟩
  rintro ⟨before, after, heq, -⟩
  simp at heq

theorem publish_of_isUsed (h : s.Follows calls) (hused : IsUsed calls) (f : Fault) :
    s.publish f = (s, false, [.laterFaultDropped f]) := by
  rw [publish, if_pos (h.isSet.2 hused)]

theorem publish_of_not_isUsed (h : s.Follows calls) (hunused : ¬ IsUsed calls) (f : Fault) :
    s.publish f = (⟨true, some f⟩, true, []) := by
  rw [publish, if_neg (mt h.isSet.1 hunused)]

theorem Follows.publish (h : s.Follows calls) (f : Fault) :
    (s.publish f).1.Follows (calls ++ [.publish f]) := by
  by_cases hused : IsUsed calls
  · rw [publish_of_isUsed h hused]
    refine ⟨iff_of_true (h.isSet.2 hused) isUsed_concat_publish, fun g => ?_⟩
    rw [h.held, isPending_concat_publish, or_iff_left fun hnew => hnew.1 hused]
  · rw [publish_of_not_isUsed h hused]
    refine ⟨iff_of_true rfl isUsed_concat_publish, fun g => ?_⟩
    rw [isPending_concat_publish, or_iff_right fun hpending => hused hpending.isUsed,
      and_iff_right hused, Option.some.injEq, eq_comm]

/-- Taking empties a slot and does not open it again. -/
theorem Follows.take (h : s.Follows calls) : s.take.2.Follows (calls ++ [.take]) :=
  ⟨h.isSet.trans isUsed_concat_take.symm, fun _ => iff_of_false nofun not_isPending_concat_take⟩

theorem follows_performAll (calls : List Call) : (empty.performAll calls).Follows calls := by
  induction calls using List.reverseRecOn with
  | nil => exact follows_empty
  | append_singleton calls call ih =>
    rw [performAll, List.foldl_append, ← performAll]
    cases call with
    | publish f => exact ih.publish f
    | take => exact ih.take

/-- After any calls of a new slot, a fault that is published is accepted if none was before, and
else dropped with a notice. The slot is set just if some fault was published. What is taken out is
the fault published first, if none has been taken out since, and otherwise nothing. -/
theorem first_fault_is_kept (earlier : List Call) :
    let s := empty.performAll earlier
    (∀ f, ((s.publish f).2 = (true, []) ↔ ∀ g, .publish g ∉ earlier) ∧
      ((s.publish f).2 = (false, [.laterFaultDropped f]) ↔ ∃ g, .publish g ∈ earlier)) ∧
    (s.isSet = true ↔ ∃ f, .publish f ∈ earlier) ∧
    ∀ f, s.take.1 = some f ↔ ∃ before after,
      earlier = before ++ .publish f :: after ∧ (∀ g, .publish g ∉ before) ∧ .take ∉ after := by
  intro s
  have hs : s.Follows earlier := follows_performAll earlier
  simp only [← not_exists]
  refine ⟨fun f => ?_, hs.isSet, hs.held⟩
  by_cases hused : IsUsed earlier
  · rw [publish_of_isUsed hs hused]
    exact ⟨iff_of_false nofun (not_not_intro hused), iff_of_true rfl hused⟩
  · rw [publish_of_not_isUsed hs hused]
    exact ⟨iff_of_true rfl hused, iff_of_false nofun hused⟩

end ShardStream.FaultSlot

import Recast.Proofs.Path.Grammar

/-!
# Reading steps

Every step takes at least one character, so the fuel of `steps` never runs out: `readSteps` takes
the text apart step by step.
-/

namespace Recast.Path

open Text Grammar

variable {s rest : List Char} {sels : List Selector}

theorem Grammar.Step.ne_nil (h : Step s sels) : s ≠ [] := by
  cases h with
  | bracket h =>
      cases h
      exact List.cons_ne_nil _ _
  | member h => exact List.cons_ne_nil _ _
  | descentMember h => exact List.cons_ne_nil _ _
  | descentBracket h => exact List.cons_ne_nil _ _

theorem step_length (h : step s = .ok (sels, rest)) : rest.length < s.length := by
  rcases step_eq_ok h with ⟨t, rfl, ht, _⟩ | ⟨_, rfl, _⟩
  · have := List.length_pos_of_ne_nil ht.ne_nil
    simp only [List.length_append]
    omega
  · simp only [List.length_cons]
    omega

/-! ## All steps of a text -/

/-- The selectors that a text of steps stands for. -/
def readSteps (s : List Char) : Except Stop (List Selector) := steps s.length s

theorem steps_eq_of_le {fuel fuel' : Nat} (h : s.length ≤ fuel) (h' : s.length ≤ fuel') :
    steps fuel s = steps fuel' s := by
  induction fuel generalizing fuel' s with
  | zero =>
      have hs : s = [] := List.length_eq_zero_iff.mp (by omega)
      subst hs
      cases fuel' <;> rfl
  | succ fuel ih =>
      cases s with
      | nil => cases fuel' <;> rfl
      | cons c s =>
          cases fuel' with
          | zero => simp at h'
          | succ fuel' =>
              simp only [steps]
              cases hst : step (c :: s) with
              | error e => rfl
              | ok r =>
                  obtain ⟨first, rest⟩ := r
                  have hlen := step_length hst
                  have hrest : steps fuel rest = steps fuel' rest := ih (by omega) (by omega)
                  simp only [bind, Except.bind, hrest]

@[simp] theorem readSteps_nil : readSteps [] = .ok [] := rfl

/-- The first step, and then all others. -/
theorem readSteps_of_step (h : step s = .ok (sels, rest)) :
    readSteps s = (readSteps rest).map (sels ++ ·) := by
  have hlen := step_length h
  cases s with
  | nil => simp at hlen
  | cons c s =>
      have hr : steps s.length rest = readSteps rest :=
        steps_eq_of_le (by simpa using Nat.le_of_lt_succ hlen) (Nat.le_refl _)
      simp only [readSteps, List.length_cons, steps, h, bind, Except.bind]
      rw [hr]
      rfl

theorem readSteps_of_step_error {e : Stop} (h : step s = .error e) (hs : s ≠ []) :
    readSteps s = .error e := by
  cases s with
  | nil => contradiction
  | cons c s => simp only [readSteps, List.length_cons, steps, h, bind, Except.bind]

theorem step_of_readSteps (h : readSteps s = .ok sels) (hs : s ≠ []) :
    ∃ first rest later, step s = .ok (first, rest) ∧ readSteps rest = .ok later ∧
      sels = first ++ later := by
  cases hst : step s with
  | error e =>
      rw [readSteps_of_step_error hst hs] at h
      cases h
  | ok r =>
      obtain ⟨first, rest⟩ := r
      rw [readSteps_of_step hst] at h
      obtain ⟨later, hlater, rfl⟩ := map_eq_ok h
      exact ⟨first, rest, later, rfl, hlater, rfl⟩

end Recast.Path

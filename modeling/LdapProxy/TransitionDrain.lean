import LdapProxy.TransitionRun

namespace LdapProxy.Transition

/-!
# Runs that come to an end

A measure that every step lowers bounds the length of every run.  If, moreover,
a step is possible while the measure is positive, every state leads to one with
measure 0, and the states in which no step is possible are such states.
-/

section Drain

variable {State Action : Type*}
variable {step : State → Action → State → Prop}
variable {inv : State → Prop}
variable {size : State → Nat}

/-- The steps of a system preserve an invariant and lower a measure. -/
def Lowers
    (step : State → Action → State → Prop)
    (inv : State → Prop)
    (size : State → Nat) :
    Prop :=
  ∀ state action next,
    inv state →
    step state action next →
    inv next ∧ size next < size state

/-- A run keeps the invariant, and each of its steps takes one off. -/
theorem Lowers.run
    (lowers : Lowers step inv size)
    {initial final : State}
    {actions : List Action}
    (run : Run step initial actions final)
    (atStart : inv initial) :
    inv final ∧ actions.length + size final ≤ size initial := by
  induction run with
  | done =>
      exact ⟨atStart, by simp⟩
  | next taken _ inductionHypothesis =>
      obtain ⟨nextInv, less⟩ := lowers _ _ _ atStart taken
      obtain ⟨finalInv, bound⟩ := inductionHypothesis nextInv
      refine ⟨finalInv, ?_⟩
      rw [List.length_cons]
      omega

/-- No run is longer than the measure of its first state. -/
theorem Lowers.length_le
    (lowers : Lowers step inv size)
    {initial final : State}
    {actions : List Action}
    (run : Run step initial actions final)
    (atStart : inv initial) :
    actions.length ≤ size initial :=
  (Nat.le_add_right ..).trans (lowers.run run atStart).2

/-- While something is left, a step is possible. -/
def GoesOn
    (step : State → Action → State → Prop)
    (inv : State → Prop)
    (size : State → Nat) :
    Prop :=
  ∀ state, inv state → 0 < size state → ∃ action next, step state action next

/-- Every state leads to one in which nothing is left. -/
theorem Lowers.exists_drained
    (lowers : Lowers step inv size)
    (goesOn : GoesOn step inv size)
    {initial : State}
    (atStart : inv initial) :
    ∃ actions final, Run step initial actions final ∧ size final = 0 := by
  generalize measure : size initial = bound
  induction bound using Nat.strong_induction_on generalizing initial with
  | _ bound inductionHypothesis =>
      rcases Nat.eq_zero_or_pos (size initial) with empty | positive
      · exact ⟨[], initial, .done, empty⟩
      · obtain ⟨action, next, taken⟩ := goesOn initial atStart positive
        obtain ⟨nextInv, less⟩ := lowers _ _ _ atStart taken
        rw [measure] at less
        obtain ⟨actions, final, run, empty⟩ :=
          inductionHypothesis (size next) less nextInv rfl
        exact ⟨action :: actions, final, .next taken run, empty⟩

/-- Where no step is possible, nothing is left. -/
theorem GoesOn.of_stuck
    (goesOn : GoesOn step inv size)
    {state : State}
    (holds : inv state)
    (stuck : ∀ action next, ¬ step state action next) :
    size state = 0 := by
  by_contra left
  obtain ⟨action, next, taken⟩ := goesOn state holds (Nat.pos_of_ne_zero left)
  exact stuck action next taken

end Drain

end LdapProxy.Transition

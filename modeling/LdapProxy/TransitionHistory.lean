import LdapProxy.TransitionRun

namespace LdapProxy.Transition

/-!
# Runs that keep a history

A history is written beside the states of a run and does not influence it, so
every run has one.
-/

section History

variable {State Action History : Type*}
variable {step : State → Action → Option State}
variable {record : State → Action → State → History → History}

/-- A step together with what it adds to the history. -/
def recorded
    (step : State → Action → Option State)
    (record : State → Action → State → History → History)
    (before : State × History)
    (action : Action) :
    Option (State × History) :=
  (step before.1 action).map fun next =>
    (next, record before.1 action next before.2)

/-- A recorded step is a step, and the history is the one it leaves. -/
theorem recorded_eq_some_iff
    {state next : State}
    {before after : History}
    {action : Action} :
    recorded step record (state, before) action = some (next, after) ↔
      step state action = some next ∧
        record state action next before = after := by
  simp only [recorded, Option.map_eq_some_iff, Prod.mk.injEq]
  constructor
  · rintro ⟨_, taken, rfl, same⟩
    exact ⟨taken, same⟩
  · rintro ⟨taken, same⟩
    exact ⟨next, taken, rfl, same⟩

/-- Every run has a history, whatever was written before it. -/
theorem Run.recorded
    {initial final : State}
    {actions : List Action}
    (run : Run (Enabled step) initial actions final)
    (before : History) :
    ∃ after,
      Run (Enabled (recorded step record)) (initial, before) actions
        (final, after) := by
  induction run generalizing before with
  | done =>
      exact ⟨before, .done⟩
  | @next initial middle final action rest taken _ inductionHypothesis =>
      obtain ⟨after, later⟩ :=
        inductionHypothesis (record initial action middle before)
      exact ⟨after, .next (recorded_eq_some_iff.mpr ⟨taken, rfl⟩) later⟩

end History

end LdapProxy.Transition

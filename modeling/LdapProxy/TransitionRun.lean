import Mathlib.Tactic

namespace LdapProxy.Transition

/-!
# Finite runs of labelled transition systems

A run is a finite list of labelled steps.  Two rules carry the safety results
of the development: an invariant that every step preserves holds at the end of
every run, and two step predicates that agree wherever an invariant holds
agree along every run of a deterministic system.
-/

/-- The states that a list of actions leads to. -/
inductive Run
    {State Action : Type*}
    (step : State → Action → State → Prop) :
    State → List Action → State → Prop where
  | done {state : State} :
      Run step state [] state
  | next
      {state middle final : State}
      {action : Action}
      {rest : List Action} :
      step state action middle →
      Run step middle rest final →
      Run step state (action :: rest) final

/-- The steps of `step` that are taken in a state where `guard` allows them. -/
def Guarded
    {State Action : Type*}
    (guard : State → Action → Prop)
    (step : State → Action → State → Prop) :
    State → Action → State → Prop :=
  fun state action next =>
    guard state action ∧ step state action next

/-- The transition relation of a partial step function. -/
def Enabled
    {State Action : Type*}
    (step : State → Action → Option State) :
    State → Action → State → Prop :=
  fun state action next =>
    step state action = some next

namespace Run

variable {State Action : Type*}
variable {step : State → Action → State → Prop}

/-- One step is a run. -/
theorem single
    {state next : State}
    {action : Action}
    (taken : step state action next) :
    Run step state [action] next :=
  .next taken .done

/-- A run goes on where another one ended. -/
theorem trans
    {initial middle final : State}
    {actions later : List Action}
    (first : Run step initial actions middle)
    (second : Run step middle later final) :
    Run step initial (actions ++ later) final := by
  induction first with
  | done =>
      exact second
  | next taken _ inductionHypothesis =>
      exact .next taken (inductionHypothesis second)

/-- A predicate that every step preserves is preserved by every run. -/
theorem invariant
    (holds : State → Prop)
    (preserved :
      ∀ {state action next},
        holds state →
        step state action next →
        holds next)
    {initial final : State}
    {actions : List Action}
    (run : Run step initial actions final)
    (atStart : holds initial) :
    holds final := by
  induction run with
  | done =>
      exact atStart
  | next taken _ inductionHypothesis =>
      exact inductionHypothesis (preserved atStart taken)

end Run

/-- Run a partial step function over an action list. -/
def exec
    {State Action : Type*}
    (step : State → Action → Option State) :
    State → List Action → Option State
  | state, [] =>
      some state
  | state, action :: rest =>
      match step state action with
      | none =>
          none
      | some next =>
          exec step next rest

/-- An accepted execution is a run of the step relation. -/
theorem exec_run
    {State Action : Type*}
    {step : State → Action → Option State}
    {initial final : State}
    {actions : List Action}
    (accepted : exec step initial actions = some final) :
    Run (Enabled step) initial actions final := by
  induction actions generalizing initial with
  | nil =>
      simp only [exec, Option.some.injEq] at accepted
      subst final
      exact .done
  | cons action rest inductionHypothesis =>
      unfold exec at accepted
      cases taken : step initial action with
      | none =>
          simp [taken] at accepted
      | some next =>
          simp only [taken] at accepted
          exact .next taken (inductionHypothesis accepted)

/-- A state with a decidable property that an execution is seen to reach. -/
theorem exec_reaches
    {State Action : Type*}
    {step : State → Action → Option State}
    {initial : State}
    {actions : List Action}
    (holds : State → Prop)
    [DecidablePred holds]
    (ends :
      (exec step initial actions).map (fun final => decide (holds final)) =
        some true) :
    ∃ final, Run (Enabled step) initial actions final ∧ holds final := by
  cases accepted : exec step initial actions with
  | none =>
      simp [accepted] at ends
  | some final =>
      simp only [accepted, Option.map_some, Option.some.injEq,
        decide_eq_true_eq] at ends
      exact ⟨final, exec_run accepted, ends⟩

/--
An execution whose steps all pass a check of the guard is a run of the steps
that the guard allows.
-/
theorem exec_guarded_run
    {State Action : Type*}
    {step : State → Action → Option State}
    {guard : State → Action → Prop}
    {check : State → Action → Bool}
    (sound : ∀ {state action}, check state action = true → guard state action)
    {initial final : State}
    {actions : List Action}
    (accepted :
      exec
          (fun state action =>
            if check state action then step state action else none)
          initial actions =
        some final) :
    Run (Guarded guard (Enabled step)) initial actions final := by
  induction actions generalizing initial with
  | nil =>
      simp only [exec, Option.some.injEq] at accepted
      subst final
      exact .done
  | cons action rest inductionHypothesis =>
      unfold exec at accepted
      cases checked : check initial action with
      | false =>
          simp [checked] at accepted
      | true =>
          simp only [checked, if_true] at accepted
          cases taken : step initial action with
          | none =>
              simp [taken] at accepted
          | some next =>
              simp only [taken] at accepted
              exact
                .next ⟨sound checked, taken⟩ (inductionHypothesis accepted)

/-- An execution that passes all checks ends somewhere. -/
theorem exec_guarded
    {State Action : Type*}
    {step : State → Action → Option State}
    {guard : State → Action → Prop}
    {check : State → Action → Bool}
    (sound : ∀ {state action}, check state action = true → guard state action)
    {initial : State}
    {actions : List Action}
    (accepted :
      (exec
          (fun state action =>
            if check state action then step state action else none)
          initial actions).isSome =
        true) :
    ∃ final, Run (Guarded guard (Enabled step)) initial actions final := by
  obtain ⟨final, ends⟩ := Option.isSome_iff_exists.mp accepted
  exact ⟨final, exec_guarded_run sound ends⟩

/-- A state with a decidable property that a checked execution reaches. -/
theorem exec_guarded_reaches
    {State Action : Type*}
    {step : State → Action → Option State}
    {guard : State → Action → Prop}
    {check : State → Action → Bool}
    (sound : ∀ {state action}, check state action = true → guard state action)
    {initial : State}
    {actions : List Action}
    (holds : State → Prop)
    [DecidablePred holds]
    (ends :
      (exec
          (fun state action =>
            if check state action then step state action else none)
          initial actions).map (fun final => decide (holds final)) =
        some true) :
    ∃ final,
      Run (Guarded guard (Enabled step)) initial actions final ∧
        holds final := by
  obtain ⟨final, accepted, holdsFinal⟩ := Option.map_eq_some_iff.mp ends
  exact
    ⟨final, exec_guarded_run sound accepted, of_decide_eq_true holdsFinal⟩

/--
A step predicate holds at every action of a run that the step function really
reaches; a step that has no successor ends the run.
-/
def Along
    {State Action : Type*}
    (step : State → Action → Option State)
    (holds : State → Action → Prop) :
    State → List Action → Prop
  | _, [] =>
      True
  | state, action :: rest =>
      holds state action ∧
        ∀ next,
          step state action = some next →
          Along step holds next rest

/-- Along a run the predicate holds at the action after any part of it. -/
theorem Along.last
    {State Action : Type*}
    {step : State → Action → Option State}
    {holds : State → Action → Prop}
    {initial reached : State}
    {actions : List Action}
    {action : Action}
    (along : Along step holds initial (actions ++ [action]))
    (accepted : exec step initial actions = some reached) :
    holds reached action := by
  induction actions generalizing initial with
  | nil =>
      cases accepted
      exact along.1
  | cons first rest inductionHypothesis =>
      unfold exec at accepted
      cases taken : step initial first with
      | none =>
          rw [taken] at accepted
          cases accepted
      | some next =>
          rw [taken] at accepted
          exact inductionHypothesis (along.2 next taken) accepted

/--
Two step predicates that agree under a preserved invariant agree along every
run that starts in the invariant and takes only allowed actions.
-/
theorem along_congr
    {State Action : Type*}
    {step : State → Action → Option State}
    (inv : State → Prop)
    {allowed : Action → Prop}
    {first second : State → Action → Prop}
    (agree :
      ∀ {state action},
        inv state →
        allowed action →
        (first state action ↔ second state action))
    (preserved :
      ∀ {state action next},
        inv state →
        allowed action →
        first state action →
        step state action = some next →
        inv next)
    {initial : State}
    (atStart : inv initial)
    {actions : List Action}
    (allAllowed : ∀ action ∈ actions, allowed action) :
    Along step first initial actions ↔
      Along step second initial actions := by
  induction actions generalizing initial with
  | nil =>
      exact Iff.rfl
  | cons action rest inductionHypothesis =>
      have here := agree atStart (allAllowed action (List.mem_cons_self ..))
      have restAllowed : ∀ other ∈ rest, allowed other :=
        fun other member => allAllowed other (List.mem_cons_of_mem _ member)
      unfold Along
      constructor
      · rintro ⟨holds, later⟩
        refine ⟨here.mp holds, ?_⟩
        intro next taken
        have nextInv := preserved atStart
          (allAllowed action (List.mem_cons_self ..)) holds taken
        exact
          (inductionHypothesis nextInv restAllowed).mp (later next taken)
      · rintro ⟨holds, later⟩
        have holdsFirst := here.mpr holds
        refine ⟨holdsFirst, ?_⟩
        intro next taken
        have nextInv := preserved atStart
          (allAllowed action (List.mem_cons_self ..)) holdsFirst taken
        exact
          (inductionHypothesis nextInv restAllowed).mpr (later next taken)

end LdapProxy.Transition

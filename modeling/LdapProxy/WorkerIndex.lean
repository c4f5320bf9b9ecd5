import LdapProxy.TaskQueues
import LdapProxy.TransitionRun

namespace LdapProxy

open LdapProxy.Transition

/-!
# Choosing a MySQL worker in several threads

`lp_get_mysql` uses `__index` without a lock.  Each call is four steps on it,
and the LDAP workers interleave them in any order.
-/

/-- How far a call of `lp_get_mysql` is. -/
inductive IndexCall where
  | outside
  /-- It has formed the pointer `&lp_mysqls[mysql]`. -/
  | read (mysql : Nat)
  /-- It has incremented `__index`. -/
  | incremented (mysql : Nat)
  /-- It has found that `__index` is not below `mysql_num`. -/
  | compared (mysql : Nat)
  deriving Repr, DecidableEq

/-- The call is between its increment and its end. -/
def IndexCall.Pending : IndexCall → Prop
  | .incremented _ =>
      True
  | .compared _ =>
      True
  | _ =>
      False

/--
`__index` and the calls of all threads.  Two history variables are kept:
`pointers` are the workers that calls have chosen, in the order of their reads,
and `overrun` says that an increment has taken `__index` to `mysql_num` or
beyond and no call has reset it since.
-/
structure IndexSystem where
  index : Nat
  calls : Nat → IndexCall
  pointers : List Nat
  overrun : Bool

namespace IndexSystem

/-- Before the first call. -/
def initial : IndexSystem where
  index := 0
  calls := fun _ => .outside
  pointers := []
  overrun := false

/-- The four steps of `lp_get_mysql` in a thread. -/
inductive Step where
  | read (thread : Nat)
  | increment (thread : Nat)
  | compare (thread : Nat)
  | reset (thread : Nat)
  deriving Repr, DecidableEq

/-- The thread goes on with its call. -/
def enter (s : IndexSystem) (thread : Nat) (call : IndexCall) : IndexSystem :=
  { s with calls := Function.update s.calls thread call }

/-- One step. -/
def step (env : Environment) (s : IndexSystem) : Step → Option IndexSystem
  | .read thread =>
      match s.calls thread with
      | .outside =>
          some
            { s.enter thread (.read s.index) with
              pointers := s.pointers ++ [s.index] }
      | _ =>
          none
  | .increment thread =>
      match s.calls thread with
      | .read mysql =>
          some
            { s.enter thread (.incremented mysql) with
              index := s.index + 1
              overrun := s.overrun || decide (env.mysqlNum ≤ s.index + 1) }
      | _ =>
          none
  | .compare thread =>
      match s.calls thread with
      | .incremented mysql =>
          if env.mysqlNum ≤ s.index then
            some (s.enter thread (.compared mysql))
          else
            some (s.enter thread .outside)
      | _ =>
          none
  | .reset thread =>
      match s.calls thread with
      | .compared _ =>
          some
            { s.enter thread .outside with
              index := 0
              overrun := false }
      | _ =>
          none

/--
No call reads `__index` between an increment that takes it to `mysql_num` and
the reset.
-/
def ReadsSettled (s : IndexSystem) : Step → Prop
  | .read _ =>
      s.overrun = false
  | _ =>
      True

instance (s : IndexSystem) :
    (taken : Step) → Decidable (s.ReadsSettled taken)
  | .read _ =>
      inferInstanceAs (Decidable (s.overrun = false))
  | .increment _ =>
      inferInstanceAs (Decidable True)
  | .compare _ =>
      inferInstanceAs (Decidable True)
  | .reset _ =>
      inferInstanceAs (Decidable True)

/-- Every pointer points to a worker. -/
def InRange (env : Environment) (s : IndexSystem) : Prop :=
  ∀ mysql ∈ s.pointers, mysql < env.mysqlNum

/-- The history variable tells whether the index is in range. -/
structure Tracked (env : Environment) (s : IndexSystem) : Prop where
  overrun : s.overrun = true ↔ env.mysqlNum ≤ s.index
  pending :
    env.mysqlNum ≤ s.index → ∃ thread, (s.calls thread).Pending

variable {env : Environment}
variable {s next final : IndexSystem}

/-- The call of the thread that goes on. -/
@[simp] theorem enter_self
    (s : IndexSystem)
    (thread : Nat)
    (call : IndexCall) :
    (s.enter thread call).calls thread = call :=
  Function.update_self ..

/-- The call of any other thread. -/
theorem enter_other
    {thread other : Nat}
    (different : other ≠ thread)
    (s : IndexSystem)
    (call : IndexCall) :
    (s.enter thread call).calls other = s.calls other :=
  Function.update_of_ne different ..

/-- What one step does to the index and to the pointers. -/
inductive Stepped (env : Environment) (s : IndexSystem) :
    Step → IndexSystem → Prop where
  | read (thread : Nat) :
      s.calls thread = .outside →
      Stepped env s (.read thread)
        { s.enter thread (.read s.index) with
          pointers := s.pointers ++ [s.index] }
  | increment (thread mysql : Nat) :
      s.calls thread = .read mysql →
      Stepped env s (.increment thread)
        { s.enter thread (.incremented mysql) with
          index := s.index + 1
          overrun := s.overrun || decide (env.mysqlNum ≤ s.index + 1) }
  | above (thread mysql : Nat) :
      s.calls thread = .incremented mysql →
      env.mysqlNum ≤ s.index →
      Stepped env s (.compare thread) (s.enter thread (.compared mysql))
  | below (thread mysql : Nat) :
      s.calls thread = .incremented mysql →
      s.index < env.mysqlNum →
      Stepped env s (.compare thread) (s.enter thread .outside)
  | reset (thread mysql : Nat) :
      s.calls thread = .compared mysql →
      Stepped env s (.reset thread)
        { s.enter thread .outside with
          index := 0
          overrun := false }

/-- Every step is one of these. -/
theorem step_stepped
    {taken : Step}
    (steps : step env s taken = some next) :
    Stepped env s taken next := by
  cases taken with
  | read thread =>
      cases call : s.calls thread <;>
        simp only [step, call, reduceCtorEq, Option.some.injEq] at steps
      rw [← steps]
      exact .read thread call
  | increment thread =>
      cases call : s.calls thread <;>
        simp only [step, call, reduceCtorEq, Option.some.injEq] at steps
      rw [← steps]
      exact .increment thread _ call
  | compare thread =>
      cases call : s.calls thread <;>
        simp only [step, call, reduceCtorEq] at steps
      by_cases above : env.mysqlNum ≤ s.index
      · rw [if_pos above, Option.some.injEq] at steps
        rw [← steps]
        exact .above thread _ call above
      · rw [if_neg above, Option.some.injEq] at steps
        rw [← steps]
        exact .below thread _ call (Nat.not_le.mp above)
  | reset thread =>
      cases call : s.calls thread <;>
        simp only [step, call, reduceCtorEq, Option.some.injEq] at steps
      rw [← steps]
      exact .reset thread _ call

/-- At the start the index is in range. -/
theorem tracked_initial (env : Environment) : Tracked env initial where
  overrun := by
    have positive := env.mysqlPositive
    simp [initial]
    omega
  pending := by
    intro above
    exact absurd env.mysqlPositive (Nat.not_lt.mpr above)

/-- A thread that enters a pending call is pending. -/
theorem pending_enter
    {thread : Nat}
    {call : IndexCall}
    (pending : call.Pending)
    (s : IndexSystem) :
    ∃ other, ((s.enter thread call).calls other).Pending := by
  refine ⟨thread, ?_⟩
  rw [enter_self]
  exact pending

/-- A pending call is still pending when another one changes. -/
theorem pending_other
    {thread : Nat}
    {call : IndexCall}
    (notPending : ¬ (s.calls thread).Pending)
    (pending : ∃ other, (s.calls other).Pending) :
    ∃ other, ((s.enter thread call).calls other).Pending := by
  obtain ⟨other, isPending⟩ := pending
  have different : other ≠ thread := by
    rintro rfl
    exact notPending isPending
  refine ⟨other, ?_⟩
  rw [enter_other different]
  exact isPending

/-- Every step keeps track of the index. -/
theorem Tracked.step
    {taken : Step}
    (tracked : Tracked env s)
    (steps : step env s taken = some next) :
    Tracked env next := by
  cases step_stepped steps with
  | read thread outside =>
      refine ⟨tracked.overrun, ?_⟩
      intro above
      have notPending : ¬ (s.calls thread).Pending := by
        rw [outside]
        exact id
      exact pending_other notPending (tracked.pending above)
  | increment thread mysql read =>
      constructor
      · have before := tracked.overrun
        simp only [Bool.or_eq_true, decide_eq_true_eq, before]
        exact ⟨fun either => either.elim Nat.le_succ_of_le id, Or.inr⟩
      · have pending : (IndexCall.incremented mysql).Pending := trivial
        exact fun _ => pending_enter pending s
  | above thread mysql incremented above =>
      have pending : (IndexCall.compared mysql).Pending := trivial
      exact ⟨tracked.overrun, fun _ => pending_enter pending s⟩
  | below thread mysql incremented below =>
      refine ⟨tracked.overrun, ?_⟩
      intro above
      exact absurd below (Nat.not_lt.mpr above)
  | reset thread mysql compared =>
      constructor
      · have positive := env.mysqlPositive
        simp only [Bool.false_eq_true, false_iff]
        exact Nat.not_le.mpr positive
      · intro above
        exact absurd env.mysqlPositive (Nat.not_lt.mpr above)

/-- The index is in range whenever no call is pending. -/
theorem Tracked.settled
    (tracked : Tracked env s)
    (nobody : ∀ thread, ¬ (s.calls thread).Pending) :
    s.overrun = false := by
  apply Bool.eq_false_iff.mpr
  intro overrun
  obtain ⟨thread, pending⟩ :=
    tracked.pending (tracked.overrun.mp overrun)
  exact nobody thread pending

/-- A read in range adds a pointer in range. -/
theorem inRange_step
    {taken : Step}
    (tracked : Tracked env s)
    (inRange : InRange env s)
    (settled : s.ReadsSettled taken)
    (steps : step env s taken = some next) :
    InRange env next := by
  cases step_stepped steps with
  | read thread outside =>
      intro mysql member
      rcases List.mem_append.mp member with earlier | now
      · exact inRange mysql earlier
      · rw [List.mem_singleton.mp now]
        have notOverrun : ¬ s.overrun = true := by
          rw [show s.overrun = false from settled]
          exact Bool.false_ne_true
        exact Nat.not_le.mp (mt tracked.overrun.mpr notOverrun)
  | increment thread mysql read =>
      exact inRange
  | above thread mysql incremented above =>
      exact inRange
  | below thread mysql incremented below =>
      exact inRange
  | reset thread mysql compared =>
      exact inRange

/-- A step that leaves all pointers in range did not read too early. -/
theorem readsSettled_of_inRange
    {taken : Step}
    (tracked : Tracked env s)
    (steps : step env s taken = some next)
    (inRange : InRange env next) :
    s.ReadsSettled taken ∧ InRange env s := by
  cases step_stepped steps with
  | read thread outside =>
      constructor
      · have now : s.index < env.mysqlNum :=
          inRange s.index (List.mem_append_right _ (List.mem_singleton_self _))
        apply Bool.eq_false_iff.mpr
        intro overrun
        exact Nat.not_le.mpr now (tracked.overrun.mp overrun)
      · intro mysql member
        exact inRange mysql (List.mem_append_left _ member)
  | increment thread mysql read =>
      exact ⟨trivial, inRange⟩
  | above thread mysql incremented above =>
      exact ⟨trivial, inRange⟩
  | below thread mysql incremented below =>
      exact ⟨trivial, inRange⟩
  | reset thread mysql compared =>
      exact ⟨trivial, inRange⟩

/-- The steps that a call of one thread takes when no other one intervenes. -/
def aloneSteps (env : Environment) (s : IndexSystem) (thread : Nat) :
    List Step :=
  [.read thread, .increment thread, .compare thread] ++
    if env.mysqlNum ≤ s.index + 1 then [.reset thread] else []

/-- A call whose steps nothing separates is `lp_get_mysql` as one step. -/
theorem alone_lpGetMysql
    {p : Process}
    {thread : Nat}
    (index : s.index = p.mysqlIndex)
    (outside : s.calls thread = .outside) :
    ∃ next,
      Run (Enabled (step env)) s (aloneSteps env s thread) next ∧
        next.index = (lpGetMysql env p).2.mysqlIndex ∧
        next.pointers = s.pointers ++ [(lpGetMysql env p).1] ∧
        next.calls thread = .outside := by
  have alone :
      ∃ next,
        exec (step env) s (aloneSteps env s thread) = some next ∧
          next.index = (lpGetMysql env p).2.mysqlIndex ∧
          next.pointers = s.pointers ++ [(lpGetMysql env p).1] ∧
          next.calls thread = .outside := by
    unfold aloneSteps lpGetMysql
    rw [← index]
    by_cases above : env.mysqlNum ≤ s.index + 1 <;>
      simp [exec, step, outside, enter, above]
  obtain ⟨next, accepted, same⟩ := alone
  exact ⟨next, exec_run accepted, same⟩

/-- In a run that keeps all pointers in range, every read is settled. -/
theorem guarded_of_inRange
    {taken : List Step}
    (run : Run (Enabled (step env)) s taken final)
    (tracked : Tracked env s)
    (inRange : InRange env final) :
    InRange env s ∧
      Run (Guarded ReadsSettled (Enabled (step env))) s taken final := by
  induction run with
  | done =>
      exact ⟨inRange, .done⟩
  | next steps _ inductionHypothesis =>
      obtain ⟨inRangeNext, rest⟩ :=
        inductionHypothesis (tracked.step steps) inRange
      obtain ⟨settled, inRangeHere⟩ :=
        readsSettled_of_inRange tracked steps inRangeNext
      exact ⟨inRangeHere, .next ⟨settled, steps⟩ rest⟩

/--
All pointers of a run are in range exactly when no call reads `__index` between
an increment that takes it to `mysql_num` and the reset; and while no other
call is past its increment, every call does so.
-/
theorem pointers_in_range_iff
    {taken : List Step}
    (run : Run (Enabled (step env)) initial taken s) :
    (InRange env s ↔
        Run (Guarded ReadsSettled (Enabled (step env))) initial taken s) ∧
      ((∀ thread, ¬ (s.calls thread).Pending) → s.overrun = false) := by
  have tracked : Tracked env s :=
    run.invariant (Tracked env) (fun tracked steps => tracked.step steps)
      (tracked_initial env)
  refine ⟨?_, tracked.settled⟩
  constructor
  · intro inRange
    exact (guarded_of_inRange run (tracked_initial env) inRange).2
  · intro guarded
    have kept : Tracked env s ∧ InRange env s := by
      apply guarded.invariant (fun s => Tracked env s ∧ InRange env s)
      · rintro s taken next ⟨tracked, inRange⟩ ⟨settled, steps⟩
        exact ⟨tracked.step steps,
          inRange_step tracked inRange settled steps⟩
      · refine ⟨tracked_initial env, ?_⟩
        intro mysql member
        cases member
    exact kept.2

/-- Two MySQL workers. -/
def twoMysqls : Environment :=
  { Environment.still with
    mysqlNum := 2
    mysqlPositive := Nat.two_pos }

/-- Two threads share two workers; the second call resets the index. -/
def takingTurns : List Step :=
  [.read 0, .increment 0, .read 1, .compare 0, .increment 1, .compare 1,
    .reset 1, .read 0]

/-- All pointers that two threads get by taking turns are in range. -/
theorem pointers_in_range_turns :
    ∃ s : IndexSystem,
      s.pointers = [0, 1, 0] ∧
        Run (Guarded ReadsSettled (Enabled (step twoMysqls))) initial
          takingTurns s := by
  have reached :
      ∃ s : IndexSystem,
        Run (Enabled (step twoMysqls)) initial takingTurns s ∧
          s.pointers = [0, 1, 0] :=
    exec_reaches _ (by decide +kernel)
  obtain ⟨s, run, pointers⟩ := reached
  refine ⟨s, pointers, (pointers_in_range_iff run).1.mp ?_⟩
  intro mysql member
  rw [pointers] at member
  have small : ∀ mysql ∈ [0, 1, 0], mysql < 2 := by decide
  exact small mysql member

/--
With a single worker, a second call that reads before the reset of the first
one gets a pointer behind the array.
-/
theorem pointer_out_of_range :
    ∃ s : IndexSystem,
      Run (Enabled (step Environment.still)) initial
          [.read 0, .increment 0, .read 1] s ∧
        ¬ InRange Environment.still s := by
  have reached :
      ∃ s : IndexSystem,
        Run (Enabled (step Environment.still)) initial
            [.read 0, .increment 0, .read 1] s ∧
          1 ∈ s.pointers :=
    exec_reaches _ (by decide +kernel)
  obtain ⟨s, run, second⟩ := reached
  refine ⟨s, run, ?_⟩
  intro inRange
  exact absurd (inRange 1 second) (by decide)

end IndexSystem

end LdapProxy

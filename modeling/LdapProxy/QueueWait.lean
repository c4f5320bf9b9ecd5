import LdapProxy.QueueThreads

namespace LdapProxy

open LdapProxy.LinkedRing
open LdapProxy.Transition

/-!
# Waking up to an element

`stk_async_queue_pop` tests the list once and does not test it again after
`pthread_cond_wait`.  A thread that was woken finds an element as long as no
more threads are woken than the list has elements; one woken thread too many is
enough for a schedule in which a pop dereferences `NULL`.
-/

namespace QueueSystem

/-- The number of elements in the list. -/
def stored (s : QueueSystem) : Nat :=
  s.pushed.length - s.returned.length

/--
The step leaves no more woken threads than elements: a broadcast or a spurious
wake-up does not wake too many, and a thread that was not woken takes no
element that a woken one needs.
-/
def SparesWoken (s : QueueSystem) : Step → Prop
  | .append _ =>
      s.woken.length + s.waiting.length ≤ s.stored + 1
  | .wake _ =>
      s.woken.length < s.stored
  | .pop _ =>
      s.stored = 0 ∨ s.woken.length < s.stored
  | .tryPop _ =>
      s.stored = 0 ∨ s.woken.length < s.stored
  | .prepare .. =>
      True
  | .resume _ =>
      True

instance (s : QueueSystem) :
    (taken : Step) → Decidable (s.SparesWoken taken)
  | .append _ =>
      inferInstanceAs
        (Decidable (s.woken.length + s.waiting.length ≤ s.stored + 1))
  | .wake _ =>
      inferInstanceAs (Decidable (s.woken.length < s.stored))
  | .pop _ =>
      inferInstanceAs
        (Decidable (s.stored = 0 ∨ s.woken.length < s.stored))
  | .tryPop _ =>
      inferInstanceAs
        (Decidable (s.stored = 0 ∨ s.woken.length < s.stored))
  | .prepare .. =>
      inferInstanceAs (Decidable True)
  | .resume _ =>
      inferInstanceAs (Decidable True)

/--
The process runs, every woken pop finds an element when it goes on, and what
pops have returned was pushed.
-/
structure FindsElements (s : QueueSystem) : Prop where
  running : s.crashed = false
  finds : ∀ thread ∈ s.woken, stkListEmpty .list s.heap.links = false
  returned : ∀ data ∈ s.returned, data ∈ s.pushed

/-- A later state in which a pop has dereferenced `NULL`. -/
def CanCrash (s : QueueSystem) : Prop :=
  ∃ steps final, Run (Enabled step) s steps final ∧ final.crashed = true

/-- The queue is in order and has an element for every woken thread. -/
structure Supplied
    (b : QueueBlocks)
    (records nodes : List Nat)
    (s : QueueSystem) :
    Prop where
  running : s.crashed = false
  ordered : Ordered b records nodes s
  enough : s.woken.length ≤ nodes.length

variable {b : QueueBlocks}
variable {records nodes : List Nat}
variable {s next : QueueSystem}

/-- The number of elements is that of the nodes. -/
theorem Ordered.stored_eq (ordered : Ordered b records nodes s) :
    s.stored = nodes.length := by
  have count := congrArg List.length ordered.order
  rw [List.length_append, List.length_map] at count
  rw [stored, ← count, Nat.add_sub_cancel_left]

/-- A woken thread that goes on with an empty list dereferences `NULL`. -/
theorem Ordered.popEntry_fails (ordered : Ordered b records [] s) :
    popEntry s.heap = .fails := by
  rw [popEntry, stkListPopEntry_nil ordered.shape.list]

/-- A woken thread goes on with whatever the list has. -/
theorem resume_step
    {thread : Nat}
    (running : s.crashed = false)
    (member : thread ∈ s.woken) :
    s.step (.resume thread) =
      some
        ({ s with woken := s.woken.erase thread }.afterPop thread
          (popEntry s.heap)) :=
  if_pos ⟨running, member⟩

/-- With more woken threads than elements, they alone can crash the process. -/
theorem Ordered.canCrash
    (ordered : Ordered b records nodes s)
    (running : s.crashed = false)
    (tooMany : nodes.length < s.woken.length) :
    s.CanCrash := by
  obtain ⟨thread, member⟩ :=
    List.exists_mem_of_length_pos (Nat.zero_lt_of_lt tooMany)
  have steps := resume_step running member
  induction nodes generalizing s records thread with
  | nil =>
      rw [ordered.popEntry_fails] at steps
      exact ⟨_, _, .next steps .done, rfl⟩
  | cons node rest inductionHypothesis =>
      obtain ⟨records', after, popped, kept⟩ :=
        (ordered.threads s.waiting (s.woken.erase thread)).taken thread
      have fewer : rest.length < (s.woken.erase thread).length := by
        rw [List.length_erase_of_mem member]
        exact Nat.lt_sub_of_add_lt tooMany
      rw [popped] at kept steps
      obtain ⟨other, inRest⟩ :=
        List.exists_mem_of_length_pos (Nat.zero_lt_of_lt fewer)
      obtain ⟨later, final, run, crashed⟩ :=
        inductionHypothesis kept running fewer other inRest
          (resume_step running inRest)
      exact ⟨_, final, .next steps run, crashed⟩

/-- A state with enough elements has what is asked of it. -/
theorem Supplied.findsElements (supplied : Supplied b records nodes s) :
    s.FindsElements where
  running := supplied.running
  finds := by
    intro thread member
    have some_woken : 0 < s.woken.length := List.length_pos_of_mem member
    have full : nodes ≠ [] :=
      List.ne_nil_of_length_pos (some_woken.trans_le supplied.enough)
    simpa using mt supplied.ordered.empty_iff.mp full
  returned := by
    intro data member
    rw [← supplied.ordered.order]
    exact List.mem_append_left _ member

/-- Taking the first element leaves enough for fewer woken threads. -/
theorem Ordered.supplies
    (ordered : Ordered b records nodes s)
    (running : s.crashed = false)
    (fewer : s.woken.length < nodes.length)
    (thread : Nat) :
    ∃ records' nodes',
      Supplied b records' nodes'
        (s.afterPop thread (popEntry s.heap)) := by
  cases nodes with
  | nil =>
      cases fewer
  | cons node rest =>
      obtain ⟨records', after, popped, kept⟩ := ordered.taken thread
      refine ⟨records', rest, ?_, kept, ?_⟩
      · rw [popped]
        exact running
      · rw [popped]
        exact Nat.lt_succ_iff.mp fewer

/-- A list that is not empty has more elements than threads are woken. -/
theorem Ordered.room
    (ordered : Ordered b records nodes s)
    (spares : s.stored = 0 ∨ s.woken.length < s.stored)
    (full : ¬ stkListEmpty .list s.heap.links = true) :
    s.woken.length < nodes.length := by
  rw [ordered.stored_eq] at spares
  apply spares.resolve_left
  exact mt List.length_eq_zero_iff.mp (mt ordered.empty_iff.mpr full)

/-- A list with a stored element is not empty. -/
theorem Ordered.full_of_stored
    (ordered : Ordered b records nodes s)
    (full : s.stored ≠ 0) :
    ¬ stkListEmpty .list s.heap.links = true := by
  rw [ordered.stored_eq] at full
  rw [ordered.empty_iff]
  exact mt List.length_eq_zero_iff.mpr full

/-- Taking an element that a woken thread needs makes a crash possible. -/
theorem Ordered.takenCanCrash
    (ordered : Ordered b records nodes s)
    (running : s.crashed = false)
    (full : s.stored ≠ 0)
    (tooFew : ¬ s.woken.length < s.stored)
    (thread : Nat) :
    (s.afterPop thread (popEntry s.heap)).CanCrash := by
  rw [ordered.stored_eq] at full tooFew
  cases nodes with
  | nil =>
      exact absurd rfl full
  | cons node rest =>
      obtain ⟨records', after, popped, kept⟩ := ordered.taken thread
      rw [popped] at kept ⊢
      exact kept.canCrash running (Nat.not_lt.mp tooFew)

/-- A step that spares the woken threads leaves enough elements for them. -/
theorem Supplied.step
    {taken : Step}
    (supplied : Supplied b records nodes s)
    (spares : s.SparesWoken taken)
    (steps : s.step taken = some next) :
    ∃ records' nodes', Supplied b records' nodes' next := by
  rcases supplied with ⟨running, ordered, enough⟩
  have stored := ordered.stored_eq
  cases (step_stepped steps).2 with
  | prepare thread node record data idle newNode newRecord different =>
      exact ⟨_, _, running,
        ordered.prepare newNode newRecord different thread data, enough⟩
  | append thread pusher member =>
      refine ⟨_, _, running, ordered.append member, ?_⟩
      rw [SparesWoken, stored] at spares
      simpa [afterAppend] using spares
  | waits thread empty =>
      exact ⟨_, _, running, ordered.threads _ _, enough⟩
  | pops thread full =>
      exact ordered.supplies running (ordered.room spares full) thread
  | wake thread member =>
      rw [SparesWoken, stored] at spares
      exact ⟨_, _, running, ordered.threads _ _, spares⟩
  | resume thread member =>
      have fewer : (s.woken.erase thread).length < nodes.length := by
        rw [List.length_erase_of_mem member]
        exact (Nat.sub_one_lt_of_lt (List.length_pos_of_mem member)).trans_le
          enough
      have kept := ordered.threads s.waiting (s.woken.erase thread)
      exact kept.supplies running fewer thread
  | returnsNull thread empty =>
      exact ⟨_, _, running, ordered, enough⟩
  | triesPop thread full =>
      exact ordered.supplies running (ordered.room spares full) thread

/-- After a step that does not spare them, the woken threads can crash. -/
theorem Supplied.canCrash
    {taken : Step}
    (supplied : Supplied b records nodes s)
    (spoils : ¬ s.SparesWoken taken)
    (steps : s.step taken = some next) :
    next.CanCrash := by
  rcases supplied with ⟨running, ordered, -⟩
  have stored := ordered.stored_eq
  cases (step_stepped steps).2 with
  | prepare thread node record data idle newNode newRecord different =>
      exact absurd trivial spoils
  | append thread pusher member =>
      rw [SparesWoken, stored] at spoils
      refine (ordered.append member).canCrash running ?_
      simpa [afterAppend] using spoils
  | waits thread empty =>
      rcases not_or.mp spoils with ⟨full, -⟩
      exact absurd empty (ordered.full_of_stored full)
  | pops thread _ =>
      rcases not_or.mp spoils with ⟨full, tooFew⟩
      exact ordered.takenCanCrash running full tooFew thread
  | wake thread member =>
      rw [SparesWoken, stored] at spoils
      have kept :=
        ordered.threads (s.waiting.erase thread) (thread :: s.woken)
      exact kept.canCrash running (Nat.lt_succ_of_le (Nat.not_lt.mp spoils))
  | resume thread member =>
      exact absurd trivial spoils
  | returnsNull thread empty =>
      rcases not_or.mp spoils with ⟨full, -⟩
      exact absurd empty (ordered.full_of_stored full)
  | triesPop thread _ =>
      rcases not_or.mp spoils with ⟨full, tooFew⟩
      exact ordered.takenCanCrash running full tooFew thread

/--
In every run whose steps all spare the woken threads, each pop that goes on
after its wait finds an element and returns data that was pushed; and after any
step that does not spare them there is a schedule that crashes.
-/
theorem waits_find_elements
    {memory : Heap}
    {taken : List Step}
    (run :
      Run (Guarded SparesWoken (Enabled step)) (initial b memory) taken s) :
    s.FindsElements ∧
      ∀ spoiling after,
        ¬ s.SparesWoken spoiling →
        s.step spoiling = some after →
        after.CanCrash := by
  obtain ⟨records, nodes, supplied⟩ :
      ∃ records nodes, Supplied b records nodes s := by
    apply run.invariant (fun s => ∃ records nodes, Supplied b records nodes s)
    · rintro s spared next ⟨records, nodes, supplied⟩ ⟨spares, steps⟩
      exact supplied.step spares steps
    · exact ⟨[b.record], [], rfl, ordered_initial b memory, Nat.le_refl 0⟩
  exact ⟨supplied.findsElements,
    fun _ _ spoils steps => supplied.canCrash spoils steps⟩

/-- The decidable form of the condition. -/
theorem sparesWoken_of_check
    {taken : Step}
    (checked : decide (s.SparesWoken taken) = true) :
    s.SparesWoken taken :=
  of_decide_eq_true checked

/-- A pop waits, two threads push, another thread takes one of the elements. -/
def waitAndShare : List Step :=
  [.pop 0, .prepare 1 4 5 70, .append 1, .prepare 2 6 7 80, .append 2,
    .tryPop 3, .resume 0]

/-- The thread that waited gets the second element. -/
theorem waits_find_elements_run :
    ∃ s : QueueSystem,
      s.returned = [70, 80] ∧
        s.FindsElements ∧
          ∀ spoiling after,
            ¬ s.SparesWoken spoiling →
            s.step spoiling = some after →
            after.CanCrash := by
  have reached :
      ∃ s : QueueSystem,
        Run (Guarded SparesWoken (Enabled step))
            (initial firstBlocks zeroMemory) waitAndShare s ∧
          s.returned = [70, 80] :=
    exec_guarded_reaches sparesWoken_of_check _ (by decide +kernel)
  obtain ⟨s, run, returned⟩ := reached
  exact ⟨s, returned, waits_find_elements run⟩

/--
Three ways to a `NULL` dereference: one push wakes two waiting threads, another
thread takes the element of the woken one, and a thread wakes spuriously.
-/
theorem pops_dereference_null :
    (∃ s : QueueSystem,
      Run (Enabled step) (initial firstBlocks zeroMemory)
          [.pop 0, .pop 1, .prepare 2 4 5 70, .append 2, .resume 0,
            .resume 1]
          s ∧
        s.crashed = true) ∧
      (∃ s : QueueSystem,
        Run (Enabled step) (initial firstBlocks zeroMemory)
            [.pop 0, .prepare 2 4 5 70, .append 2, .tryPop 1, .resume 0] s ∧
          s.crashed = true) ∧
      ∃ s : QueueSystem,
        Run (Enabled step) (initial firstBlocks zeroMemory)
            [.pop 0, .wake 0, .resume 0] s ∧
          s.crashed = true := by
  refine ⟨?_, ?_, ?_⟩
  · exact exec_reaches _ (by decide +kernel)
  · exact exec_reaches _ (by decide +kernel)
  · exact exec_reaches _ (by decide +kernel)

end QueueSystem

end LdapProxy

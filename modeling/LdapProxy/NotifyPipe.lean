import LdapProxy.System

namespace LdapProxy

open LdapProxy.Transition

/-!
# Waking an LDAP worker

Any number of threads push tasks to one LDAP worker: each appends under the
mutex and then writes one octet to the notify pipe, which may be full.  The
callback empties the pipe, pops until the queue is empty and returns; it is
started whenever the pipe is readable.  Every locked section, every read and
every write is one step.
-/

/-- A non-blocking pipe that can hold at least one octet. -/
structure Pipe where
  capacity : Nat
  positive : 0 < capacity

/-- Write one octet to a pipe that holds `filled` octets. -/
def Pipe.write (pipe : Pipe) (filled : Nat) : PipeWrite × Nat :=
  if filled < pipe.capacity then
    (.written, filled + 1)
  else
    (.again, filled)

/-- The size of `buf` in `__ldap_notify_cb`. -/
def notifyBuf : Nat := 128

/-- Where `__ldap_notify_cb` stands. -/
inductive CallbackPhase where
  /-- It is not running. -/
  | idle
  /-- In the loop that reads the pipe. -/
  | reading
  /-- Before the next `__pop_task`. -/
  | popping
  /-- In `__task_process` with the task it popped. -/
  | processing
  /-- `__pop_task` has returned NULL. -/
  | returning
  deriving Repr, DecidableEq

/--
An LDAP worker, its notify pipe and its pushers.  `pushing` says which threads
are between their enqueue and their write; `enqueued` and `popped` are history
variables.
-/
structure NotifyState where
  worker : LdapWorker
  filled : Nat
  callback : CallbackPhase
  pushing : Nat → Bool
  enqueued : List Task
  popped : List Task

/-- Nobody has pushed anything. -/
def NotifyState.initial : NotifyState where
  worker := LdapWorker.initial
  filled := 0
  callback := .idle
  pushing := fun _ => false
  enqueued := []
  popped := []

/-- The names of the steps. -/
inductive NotifyAction where
  | enqueue (thread : Nat) (task : Task)
  | notify (thread : Nat)
  | start
  | read
  | readAgain
  | pop
  | processed
  | popNull
  | finish

/-- One step of a pusher or of the callback. -/
inductive NotifyStep (pipe : Pipe) :
    NotifyState → NotifyAction → NotifyState → Prop where
  /-- `stk_list_add_tail` under the mutex. -/
  | enqueue (s : NotifyState) (thread : Nat) (task : Task) :
      s.pushing thread = false →
      NotifyStep pipe s (.enqueue thread task)
        { s with
          worker :=
            { s.worker with queue := s.worker.queue ++ [task] }
          pushing := Function.update s.pushing thread true
          enqueued := s.enqueued ++ [task] }
  /-- The write in `__ldap_notify`. -/
  | notify (s : NotifyState) (thread : Nat) :
      s.pushing thread = true →
      NotifyStep pipe s (.notify thread)
        { s with
          filled := (pipe.write s.filled).2
          pushing := Function.update s.pushing thread false }
  /-- The pipe is readable, so libevent calls the callback. -/
  | start (s : NotifyState) :
      s.callback = .idle →
      0 < s.filled →
      NotifyStep pipe s .start { s with callback := .reading }
  /-- A read that returns octets. -/
  | read (s : NotifyState) :
      s.callback = .reading →
      0 < s.filled →
      NotifyStep pipe s .read { s with filled := s.filled - notifyBuf }
  /-- A read that returns `EAGAIN`: the first loop ends. -/
  | readAgain (s : NotifyState) :
      s.callback = .reading →
      s.filled = 0 →
      NotifyStep pipe s .readAgain { s with callback := .popping }
  /-- `__pop_task` returns a task. -/
  | pop (s : NotifyState) (task : Task) (worker : LdapWorker) :
      s.callback = .popping →
      popTask s.worker = some worker →
      worker.current = some task →
      NotifyStep pipe s .pop
        { s with
          worker := worker
          callback := .processing
          popped := s.popped ++ [task] }
  /-- `__task_process` returns. -/
  | processed (s : NotifyState) :
      s.callback = .processing →
      NotifyStep pipe s .processed
        { s with
          worker := { s.worker with current := none }
          callback := .popping }
  /-- `__pop_task` returns NULL: the second loop ends. -/
  | popNull (s : NotifyState) :
      s.callback = .popping →
      popTask s.worker = none →
      NotifyStep pipe s .popNull { s with callback := .returning }
  /-- The callback returns. -/
  | finish (s : NotifyState) :
      s.callback = .returning →
      NotifyStep pipe s .finish { s with callback := .idle }

/-- A wakeup is under way: in the pipe, or at a pusher. -/
def Awake (s : NotifyState) : Prop :=
  0 < s.filled ∨ ∃ thread, s.pushing thread = true

/--
Outside its two loops the callback leaves no task without a wakeup, and the
tasks popped and those in the queue are the ones enqueued, in order.
-/
structure NotifyInvariant (s : NotifyState) : Prop where
  awake :
    s.callback = .idle ∨ s.callback = .returning →
    s.worker.queue ≠ [] →
    Awake s
  order : s.popped ++ s.worker.queue = s.enqueued

/-- After a write the pipe is readable, whether it was full or not. -/
theorem filled_after_write
    (pipe : Pipe)
    (filled : Nat) :
    0 < (pipe.write filled).2 := by
  unfold Pipe.write
  split
  · exact Nat.succ_pos filled
  · next full =>
      have positive := pipe.positive
      simp only
      omega

/-- `__pop_task` takes the first task of the queue. -/
theorem popTask_some
    {worker next : LdapWorker}
    (popped : popTask worker = some next) :
    ∃ task,
      next.current = some task ∧ worker.queue = task :: next.queue := by
  unfold popTask at popped
  split at popped
  · cases popped
  · next task rest queue =>
      simp only [Option.some.injEq] at popped
      subst popped
      exact ⟨task, rfl, queue⟩

/-- `__pop_task` returns NULL only when the queue is empty. -/
theorem popTask_none
    {worker : LdapWorker}
    (nothing : popTask worker = none) :
    worker.queue = [] := by
  unfold popTask at nothing
  split at nothing
  · next empty =>
      exact empty
  · cases nothing

/-- Every step of a pusher or of the callback keeps the invariant. -/
theorem NotifyStep.invariant
    {pipe : Pipe}
    {s next : NotifyState}
    {action : NotifyAction}
    (invariant : NotifyInvariant s)
    (taken : NotifyStep pipe s action next) :
    NotifyInvariant next := by
  cases taken with
  | enqueue thread task idle =>
      refine ⟨?_, ?_⟩
      · intro _ _
        exact .inr ⟨thread, Function.update_self ..⟩
      · rw [← invariant.order, List.append_assoc]
  | notify thread pushing =>
      refine ⟨?_, invariant.order⟩
      intro _ _
      exact .inl (filled_after_write pipe s.filled)
  | start idle readable =>
      refine ⟨?_, invariant.order⟩
      intro outside
      simp at outside
  | read reading readable =>
      refine ⟨?_, invariant.order⟩
      intro outside
      simp [reading] at outside
  | readAgain reading drained =>
      refine ⟨?_, invariant.order⟩
      intro outside
      simp at outside
  | pop task worker popping popped current =>
      obtain ⟨first, isCurrent, queue⟩ := popTask_some popped
      rw [current, Option.some.injEq] at isCurrent
      subst isCurrent
      refine ⟨?_, ?_⟩
      · intro outside
        simp at outside
      · rw [← invariant.order, queue, List.append_assoc]
        rfl
  | processed processing =>
      refine ⟨?_, invariant.order⟩
      intro outside
      simp at outside
  | popNull popping nothing =>
      refine ⟨?_, invariant.order⟩
      intro _ nonempty
      exact (nonempty (popTask_none nothing)).elim
  | finish returning =>
      refine ⟨?_, invariant.order⟩
      intro _ nonempty
      exact invariant.awake (.inr returning) nonempty

/--
No wakeup is lost: in every reachable state, when the callback is not running
and the queue is not empty, the pipe is readable or some pusher is about to
write.  The tasks popped so far are the first ones that were enqueued, each
once, and the others are in the queue in order.
-/
theorem no_lost_wakeup
    (pipe : Pipe)
    {actions : List NotifyAction}
    {s : NotifyState}
    (run : Run (NotifyStep pipe) NotifyState.initial actions s) :
    (s.callback = .idle → s.worker.queue ≠ [] →
      0 < s.filled ∨ ∃ thread, s.pushing thread = true) ∧
      s.enqueued = s.popped ++ s.worker.queue := by
  have atStart : NotifyInvariant NotifyState.initial := by
    refine ⟨?_, rfl⟩
    intro _ nonempty
    exact (nonempty rfl).elim
  have atEnd : NotifyInvariant s :=
    run.invariant NotifyInvariant NotifyStep.invariant atStart
  refine ⟨?_, atEnd.order.symm⟩
  intro idle nonempty
  exact atEnd.awake (.inl idle) nonempty

/-- One thread has enqueued a task and another one has not yet written. -/
theorem no_lost_wakeup_two_pushers :
    let task := registerTask ⟨0, 0⟩ 0 0 1
    ∃ s : NotifyState,
      s.worker.queue = [task, task] ∧
        (s.callback = .idle → s.worker.queue ≠ [] →
          0 < s.filled ∨ ∃ thread, s.pushing thread = true) ∧
        s.enqueued = s.popped ++ s.worker.queue := by
  intro task
  refine ⟨_, ?_, no_lost_wakeup ⟨1, Nat.one_pos⟩
    (.next (.enqueue NotifyState.initial 0 task rfl)
      (.next (.notify _ 0 rfl)
        (.next (.enqueue _ 1 task rfl) .done)))⟩
  rfl

end LdapProxy

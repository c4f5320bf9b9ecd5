import LdapProxy.AsyncQueue
import LdapProxy.TransitionRun

namespace LdapProxy

open LdapProxy.LinkedRing
open LdapProxy.Transition

/-!
# Pushes outside the mutex

Several LDAP workers push to one queue and one worker pops from it.  What runs
while the mutex is held is one step, but `stk_palloc` runs without it: there
every assignment is a step of its own.
-/

/--
How far a push is, named after the last assignment it has made.  `cleanup` is
the record it has allocated and `next` what it has read from `head->next`.
-/
inductive Phase where
  /-- `p = stk_alloc(size)` -/
  | p
  /-- `cleanup = stk_alloc(sizeof(stk_pool_cleanup_t))` -/
  | cleanup (cleanup : Nat)
  /-- `cleanup->handler = handler` -/
  | handler (cleanup : Nat)
  /-- `cleanup->data = data` -/
  | data (cleanup : Nat)
  /-- The arguments of `__list_add(new, head, head->next)`. -/
  | arguments (cleanup : Nat) (next : Place)
  /-- `next->prev = new` -/
  | nextPrev (cleanup : Nat) (next : Place)
  /-- `new->next = next` -/
  | newNext (cleanup : Nat) (next : Place)
  /-- `new->prev = prev` -/
  | newPrev (cleanup : Nat) (next : Place)
  /-- `prev->next = new` -/
  | prevNext
  /-- `__queue_data->data = data` -/
  | element
  deriving Repr, DecidableEq

/-- A thread inside `stk_async_queue_push`. -/
structure Push where
  thread : Nat
  data : Nat
  node : Nat
  phase : Phase
  deriving Repr, DecidableEq

/--
The next assignment of a push outside the mutex.  Allocating the record and
locking the mutex are no assignments.
-/
def Push.assign (push : Push) (h : Heap) : Option (Phase × Heap) :=
  match push.phase with
  | .p =>
      none
  | .cleanup cleanup =>
      some (.handler cleanup,
        { h with handler := Function.update h.handler cleanup .free })
  | .handler cleanup =>
      some (.data cleanup,
        { h with data := Function.update h.data cleanup push.node })
  | .data cleanup =>
      some (.arguments cleanup (h.links.next .cleanup), h)
  | .arguments cleanup next =>
      some (.nextPrev cleanup next,
        { h with links := h.links.setPrev next (.block cleanup) })
  | .nextPrev cleanup next =>
      some (.newNext cleanup next,
        { h with links := h.links.setNext (.block cleanup) next })
  | .newNext cleanup next =>
      some (.newPrev cleanup next,
        { h with links := h.links.setPrev (.block cleanup) .cleanup })
  | .newPrev cleanup _ =>
      some (.prevNext,
        { h with links := h.links.setNext .cleanup (.block cleanup) })
  | .prevNext =>
      some (.element,
        { h with
          element := Function.update h.element push.node push.data })
  | .element =>
      none

/-- Where the worker that pops is. -/
inductive Consumer where
  | outside
  | waiting
  | woken
  /-- It has dereferenced `NULL`, or it searches the pool for ever. -/
  | lost
  deriving Repr, DecidableEq

/-- The heap and the threads inside push or pop. -/
structure PoolSystem where
  heap : Heap
  pushes : List Push
  consumer : Consumer

namespace PoolSystem

/-- A new queue, in memory with any contents. -/
def initial (b : QueueBlocks) (memory : Heap) : PoolSystem where
  heap := stkAsyncQueueNew b memory.unused
  pushes := []
  consumer := .outside

/-- What the threads do. -/
inductive Step where
  /-- A thread calls push; its first `malloc` returns `node`. -/
  | push (thread data node : Nat)
  /-- The second `malloc` of a push returns `cleanup`. -/
  | record (thread cleanup : Nat)
  /-- The next assignment of a push outside the mutex. -/
  | assign (thread : Nat)
  /-- The part of a push that holds the mutex. -/
  | append (thread : Nat)
  /-- A pop locks the mutex. -/
  | pop
  /-- The pop that waits is woken without a broadcast. -/
  | wake
  /-- The woken pop has the mutex again. -/
  | resume
  deriving Repr, DecidableEq

/-- The push that a thread is in. -/
def pushOf (s : PoolSystem) (thread : Nat) : Option Push :=
  s.pushes.find? fun push => push.thread = thread

/-- A push goes on. -/
def advance
    (s : PoolSystem)
    (push : Push)
    (phase : Phase)
    (heap : Heap) :
    PoolSystem :=
  { s with
    heap := heap
    pushes := { push with phase := phase } :: s.pushes.erase push }

/-- The state after the worker has looked at the list. -/
def afterPop (s : PoolSystem) : Popped → PoolSystem
  | .null =>
      { s with consumer := .outside }
  | .waits =>
      { s with consumer := .waiting }
  | .taken _ _ heap =>
      { s with heap := heap, consumer := .outside }
  | .fails =>
      { s with consumer := .lost }

/-- One step. -/
def step (s : PoolSystem) : Step → Option PoolSystem
  | .push thread data node =>
      if s.pushOf thread = none ∧ node ∉ s.heap.blocks then
        some
          { s with
            heap := s.heap.malloc node
            pushes := ⟨thread, data, node, .p⟩ :: s.pushes }
      else
        none
  | .record thread cleanup =>
      match s.pushOf thread with
      | none =>
          none
      | some push =>
          if push.phase = .p ∧ cleanup ∉ s.heap.blocks then
            some (s.advance push (.cleanup cleanup) (s.heap.malloc cleanup))
          else
            none
  | .assign thread =>
      match s.pushOf thread with
      | none =>
          none
      | some push =>
          (push.assign s.heap).map fun (phase, heap) =>
            s.advance push phase heap
  | .append thread =>
      match s.pushOf thread with
      | none =>
          none
      | some push =>
          if push.phase = .element then
            some
              { heap := pushLocked push.node s.heap
                pushes := s.pushes.erase push
                -- `pthread_cond_broadcast`
                consumer :=
                  if s.consumer = .waiting then .woken else s.consumer }
          else
            none
  | .pop =>
      if s.consumer = .outside then
        some (s.afterPop (stkAsyncQueuePop s.heap))
      else
        none
  | .wake =>
      if s.consumer = .waiting then
        some { s with consumer := .woken }
      else
        none
  | .resume =>
      if s.consumer = .woken then
        some (s.afterPop (popEntry s.heap))
      else
        none

/-- No thread is inside push or pop. -/
def Quiet (s : PoolSystem) : Prop :=
  s.pushes = [] ∧ s.consumer = .outside

instance (s : PoolSystem) : Decidable s.Quiet :=
  inferInstanceAs (Decidable (_ ∧ _))

/--
The pool's ring has one record for the queue and one for each node in the list,
and no other.
-/
def PoolWhole (b : QueueBlocks) (s : PoolSystem) : Prop :=
  ∃ records nodes,
    s.heap.Records records ∧
      Ring s.heap.links .list (nodes.map Place.block) ∧
      (records.map s.heap.data).Perm (b.queue :: nodes)

end PoolSystem

end LdapProxy

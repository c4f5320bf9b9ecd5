import LdapProxy.QueueThreads

namespace LdapProxy

open LdapProxy.LinkedRing
open LdapProxy.Transition

/-!
# First in, first out

In every interleaving of pushes, pops and try-pops in which no woken thread
finds the list empty, the queue loses, repeats and reorders nothing, and every
node that it removes is released once.
-/

namespace QueueSystem

/-- A woken thread that goes on finds an element. -/
def WakesToElement (s : QueueSystem) : Step → Prop
  | .resume _ =>
      stkListEmpty .list s.heap.links = false
  | _ =>
      True

instance (s : QueueSystem) :
    (taken : Step) → Decidable (s.WakesToElement taken)
  | .resume _ =>
      inferInstanceAs (Decidable (stkListEmpty .list s.heap.links = false))
  | .prepare .. =>
      inferInstanceAs (Decidable True)
  | .append _ =>
      inferInstanceAs (Decidable True)
  | .pop _ =>
      inferInstanceAs (Decidable True)
  | .tryPop _ =>
      inferInstanceAs (Decidable True)
  | .wake _ =>
      inferInstanceAs (Decidable True)

/-- The decidable form of the guard. -/
theorem wakesToElement_of_check
    {s : QueueSystem}
    {taken : Step}
    (checked : decide (s.WakesToElement taken) = true) :
    s.WakesToElement taken :=
  of_decide_eq_true checked

/-- The process runs and its queue is in order. -/
def InOrder (b : QueueBlocks) (s : QueueSystem) : Prop :=
  s.crashed = false ∧ ∃ records nodes, Ordered b records nodes s

/-- A step that is no wake-up to an empty list keeps the queue in order. -/
theorem inOrder_step
    {b : QueueBlocks}
    {s next : QueueSystem}
    {taken : Step}
    (inOrder : InOrder b s)
    (steps : Guarded WakesToElement (Enabled step) s taken next) :
    InOrder b next := by
  rcases inOrder with ⟨runs, records, nodes, ordered⟩
  rcases steps with ⟨wakes, steps⟩
  rcases ordered.step steps with kept | ⟨⟨thread, rfl⟩, empty⟩
  · exact kept
  · have full : stkListEmpty .list s.heap.links = false := wakes
    rw [ordered.empty_iff.mpr empty] at full
    cases full

/--
The data that pops have returned, followed by the data still in the list, is
the data that was pushed.  A try-pop returns `NULL` without changing anything
exactly when the list is empty.  What the pool has released is what was
removed, and the blocks still allocated are the pool, the queue, the nodes in
the list or on their way to it, and one record for the queue and each node.
-/
structure FirstInFirstOut
    (b : QueueBlocks)
    (records nodes : List Nat)
    (s : QueueSystem) :
    Prop where
  running : s.crashed = false
  listed : Ring s.heap.links .list (nodes.map Place.block)
  order : s.returned ++ nodes.map s.heap.element = s.pushed
  null_iff : stkAsyncQueueTryPop s.heap = .null ↔ nodes = []
  released : s.heap.calls = s.removed.map fun node => (Handler.free, node)
  owners : (records.map s.heap.data).Perm (b.queue :: (nodes ++ s.pending))
  blocks :
    s.heap.blocks.Perm
      (b.pool :: (records ++ b.queue :: (nodes ++ s.pending)))
  nodup : s.heap.blocks.Nodup

/-- A try-pop returns `NULL` exactly when there is no node. -/
theorem Ordered.tryPop_null_iff
    {b : QueueBlocks}
    {records nodes : List Nat}
    {s : QueueSystem}
    (ordered : Ordered b records nodes s) :
    stkAsyncQueueTryPop s.heap = .null ↔ nodes = [] := by
  cases nodes with
  | nil =>
      have empty := ordered.empty_iff.mpr rfl
      simp [stkAsyncQueueTryPop, empty]
  | cons node rest =>
      have full := mt ordered.empty_iff.mp (List.cons_ne_nil node rest)
      obtain ⟨records', after, popped, -⟩ := ordered.taken 0
      simp [stkAsyncQueueTryPop, full, popped]

/-- The queue is a FIFO in every run. -/
theorem queue_fifo
    {b : QueueBlocks}
    {memory : Heap}
    {steps : List Step}
    {s : QueueSystem}
    (run :
      Run (Guarded WakesToElement (Enabled step)) (initial b memory) steps
        s) :
    ∃ records nodes, FirstInFirstOut b records nodes s := by
  have inOrder : InOrder b s :=
    run.invariant (InOrder b) inOrder_step
      ⟨rfl, [b.record], [], ordered_initial b memory⟩
  rcases inOrder with ⟨runs, records, nodes, ordered⟩
  have shape := ordered.shape
  exact ⟨records, nodes, runs, shape.list, ordered.order,
    ordered.tryPop_null_iff, ordered.released, shape.owners, shape.blocks,
    shape.nodup⟩

/--
Threads 1 and 2 push while thread 0 waits; thread 3 takes the first element,
the woken thread the second one, and the address of the first node is used
again.
-/
def pushesAndPops : List Step :=
  [.pop 0, .prepare 1 4 5 70, .prepare 2 6 7 80, .append 2, .append 1,
    .tryPop 3, .resume 0, .tryPop 3, .prepare 1 6 4 90, .append 1]

/-- The order of the mutex is the order of the data. -/
theorem queue_fifo_run :
    ∃ s : QueueSystem,
      (s.returned = [80, 70] ∧ s.pushed = [80, 70, 90]) ∧
        ∃ records nodes, FirstInFirstOut firstBlocks records nodes s := by
  have reached :
      ∃ s : QueueSystem,
        Run (Guarded WakesToElement (Enabled step))
            (initial firstBlocks zeroMemory) pushesAndPops s ∧
          s.returned = [80, 70] ∧ s.pushed = [80, 70, 90] :=
    exec_guarded_reaches wakesToElement_of_check _ (by decide +kernel)
  obtain ⟨s, run, ends⟩ := reached
  exact ⟨s, ends, queue_fifo run⟩

end QueueSystem

end LdapProxy

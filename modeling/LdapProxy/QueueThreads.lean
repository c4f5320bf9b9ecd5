import LdapProxy.AsyncQueue
import LdapProxy.TransitionRun

namespace LdapProxy

open LdapProxy.LinkedRing
open LdapProxy.Transition

/-!
# Threads on one asynchronous queue

Any number of threads push, pop and try to pop.  What a function does while it
holds the mutex is one step, and so is what a push does before.  A thread in
`pthread_cond_wait` is woken by a broadcast or spuriously; it goes on once it
has the mutex again, and until then other threads may take it.
-/

/-- A push that has prepared its node and does not hold the mutex yet. -/
structure Pusher where
  thread : Nat
  node : Nat
  data : Nat
  deriving Repr, DecidableEq

/--
The queue and the threads inside its functions.  Three history variables are
kept in the order of the mutex: `pushed` is the data whose nodes were put into
the list, `returned` the data of the pops that took a node, and `removed` the
nodes they took.
-/
structure QueueSystem where
  heap : Heap
  pushers : List Pusher
  waiting : List Nat
  woken : List Nat
  crashed : Bool
  pushed : List Nat
  returned : List Nat
  removed : List Nat

namespace QueueSystem

/-- A new queue, in memory with any contents. -/
def initial (b : QueueBlocks) (memory : Heap) : QueueSystem where
  heap := stkAsyncQueueNew b memory.unused
  pushers := []
  waiting := []
  woken := []
  crashed := false
  pushed := []
  returned := []
  removed := []

/-- The nodes that are prepared and not in the list. -/
def pending (s : QueueSystem) : List Nat :=
  s.pushers.map Pusher.node

/-- The thread is in none of the functions. -/
def Idle (s : QueueSystem) (thread : Nat) : Prop :=
  thread ∉ s.pushers.map Pusher.thread ∧
    thread ∉ s.waiting ∧
    thread ∉ s.woken

instance (s : QueueSystem) (thread : Nat) : Decidable (s.Idle thread) :=
  inferInstanceAs (Decidable (_ ∧ _ ∧ _))

/-- What the threads do. -/
inductive Step where
  /-- A push gets its two blocks from `malloc` and fills them. -/
  | prepare (thread node record data : Nat)
  /-- A push puts its node into the list and wakes all waiting threads. -/
  | append (thread : Nat)
  /-- A pop locks the mutex. -/
  | pop (thread : Nat)
  /-- A waiting thread is woken without a broadcast. -/
  | wake (thread : Nat)
  /-- A woken thread has the mutex again. -/
  | resume (thread : Nat)
  /-- A try-pop locks the mutex. -/
  | tryPop (thread : Nat)
  deriving Repr, DecidableEq

/-- The state after a function has looked at the list. -/
def afterPop (s : QueueSystem) (thread : Nat) : Popped → QueueSystem
  | .null =>
      s
  | .waits =>
      { s with waiting := thread :: s.waiting }
  | .taken elt data heap =>
      { s with
        heap := heap
        returned := s.returned ++ [data]
        removed := s.removed ++ [elt] }
  | .fails =>
      { s with crashed := true }

/-- The state after a push has put its node into the list. -/
def afterAppend (s : QueueSystem) (pusher : Pusher) : QueueSystem :=
  { s with
    heap := pushLocked pusher.node s.heap
    pushers := s.pushers.erase pusher
    pushed := s.pushed ++ [pusher.data]
    -- `pthread_cond_broadcast`
    waiting := []
    woken := s.woken ++ s.waiting }

/-- One step, as long as the process runs. -/
def step (s : QueueSystem) : Step → Option QueueSystem
  | .prepare thread node record data =>
      if s.crashed = false ∧ s.Idle thread ∧
          node ∉ s.heap.blocks ∧ record ∉ s.heap.blocks ∧ record ≠ node then
        some
          { s with
            heap := pushPrepare node record data s.heap
            pushers := ⟨thread, node, data⟩ :: s.pushers }
      else
        none
  | .append thread =>
      if s.crashed then
        none
      else
        (s.pushers.find? (fun pusher => pusher.thread = thread)).map
          s.afterAppend
  | .pop thread =>
      if s.crashed = false ∧ s.Idle thread then
        some (s.afterPop thread (stkAsyncQueuePop s.heap))
      else
        none
  | .wake thread =>
      if s.crashed = false ∧ thread ∈ s.waiting then
        some
          { s with
            waiting := s.waiting.erase thread
            woken := thread :: s.woken }
      else
        none
  | .resume thread =>
      if s.crashed = false ∧ thread ∈ s.woken then
        some
          ({ s with woken := s.woken.erase thread }.afterPop thread
            (popEntry s.heap))
      else
        none
  | .tryPop thread =>
      if s.crashed = false ∧ s.Idle thread then
        some (s.afterPop thread (stkAsyncQueueTryPop s.heap))
      else
        none

/-- What a step of a process that runs can do. -/
inductive Stepped (s : QueueSystem) : Step → QueueSystem → Prop where
  | prepare (thread node record data : Nat) :
      s.Idle thread →
      node ∉ s.heap.blocks →
      record ∉ s.heap.blocks →
      record ≠ node →
      Stepped s (.prepare thread node record data)
        { s with
          heap := pushPrepare node record data s.heap
          pushers := ⟨thread, node, data⟩ :: s.pushers }
  | append (thread : Nat) (pusher : Pusher) :
      pusher ∈ s.pushers →
      Stepped s (.append thread) (s.afterAppend pusher)
  | waits (thread : Nat) :
      stkListEmpty .list s.heap.links = true →
      Stepped s (.pop thread) { s with waiting := thread :: s.waiting }
  | pops (thread : Nat) :
      ¬ stkListEmpty .list s.heap.links = true →
      Stepped s (.pop thread) (s.afterPop thread (popEntry s.heap))
  | wake (thread : Nat) :
      thread ∈ s.waiting →
      Stepped s (.wake thread)
        { s with
          waiting := s.waiting.erase thread
          woken := thread :: s.woken }
  | resume (thread : Nat) :
      thread ∈ s.woken →
      Stepped s (.resume thread)
        ({ s with woken := s.woken.erase thread }.afterPop thread
          (popEntry s.heap))
  | returnsNull (thread : Nat) :
      stkListEmpty .list s.heap.links = true →
      Stepped s (.tryPop thread) s
  | triesPop (thread : Nat) :
      ¬ stkListEmpty .list s.heap.links = true →
      Stepped s (.tryPop thread) (s.afterPop thread (popEntry s.heap))

/-- Every step is one of them. -/
theorem step_stepped
    {s next : QueueSystem}
    {taken : Step}
    (steps : s.step taken = some next) :
    s.crashed = false ∧ Stepped s taken next := by
  cases taken with
  | prepare thread node record data =>
      simp only [step, Option.ite_none_right_eq_some,
        Option.some.injEq] at steps
      rcases steps with
        ⟨⟨runs, idle, newNode, newRecord, different⟩, rfl⟩
      exact ⟨runs,
        .prepare thread node record data idle newNode newRecord different⟩
  | append thread =>
      simp only [step, Option.ite_none_left_eq_some,
        Option.map_eq_some_iff] at steps
      rcases steps with ⟨runs, pusher, found, rfl⟩
      exact ⟨Bool.eq_false_iff.mpr runs,
        .append thread pusher (List.mem_of_find?_eq_some found)⟩
  | pop thread =>
      simp only [step, Option.ite_none_right_eq_some,
        Option.some.injEq] at steps
      rcases steps with ⟨⟨runs, -⟩, rfl⟩
      by_cases empty : stkListEmpty .list s.heap.links = true
      · rw [stkAsyncQueuePop, if_pos empty]
        exact ⟨runs, .waits thread empty⟩
      · rw [stkAsyncQueuePop, if_neg empty]
        exact ⟨runs, .pops thread empty⟩
  | wake thread =>
      simp only [step, Option.ite_none_right_eq_some,
        Option.some.injEq] at steps
      rcases steps with ⟨⟨runs, member⟩, rfl⟩
      exact ⟨runs, .wake thread member⟩
  | resume thread =>
      simp only [step, Option.ite_none_right_eq_some,
        Option.some.injEq] at steps
      rcases steps with ⟨⟨runs, member⟩, rfl⟩
      exact ⟨runs, .resume thread member⟩
  | tryPop thread =>
      simp only [step, Option.ite_none_right_eq_some,
        Option.some.injEq] at steps
      rcases steps with ⟨⟨runs, -⟩, rfl⟩
      by_cases empty : stkListEmpty .list s.heap.links = true
      · rw [stkAsyncQueueTryPop, if_pos empty]
        exact ⟨runs, .returnsNull thread empty⟩
      · rw [stkAsyncQueueTryPop, if_neg empty]
        exact ⟨runs, .triesPop thread empty⟩

/--
The heap has its shape, what went through the list is in order, and every node
that was taken was released.
-/
structure Ordered
    (b : QueueBlocks)
    (records nodes : List Nat)
    (s : QueueSystem) :
    Prop where
  shape : QueueHeap b s.heap records nodes s.pending []
  filled :
    ∀ pusher ∈ s.pushers, s.heap.element pusher.node = pusher.data
  order : s.returned ++ nodes.map s.heap.element = s.pushed
  released : s.heap.calls = s.removed.map fun node => (Handler.free, node)

/-- A new queue is in order. -/
theorem ordered_initial (b : QueueBlocks) (memory : Heap) :
    Ordered b [b.record] [] (initial b memory) where
  shape := stkAsyncQueueNew_shape b memory
  filled := by
    intro pusher member
    cases member
  order := rfl
  released := rfl

variable {b : QueueBlocks}
variable {records nodes : List Nat}
variable {s next : QueueSystem}

namespace Ordered

/-- A push that prepares its node. -/
theorem prepare
    {node record : Nat}
    (ordered : Ordered b records nodes s)
    (newNode : node ∉ s.heap.blocks)
    (newRecord : record ∉ s.heap.blocks)
    (different : record ≠ node)
    (thread data : Nat) :
    Ordered b (record :: records) nodes
      { s with
        heap := pushPrepare node record data s.heap
        pushers := ⟨thread, node, data⟩ :: s.pushers } where
  shape := ordered.shape.prepare newNode newRecord different data
  filled := by
    intro pusher member
    rcases List.mem_cons.mp member with rfl | member
    · exact Function.update_self ..
    · have pendingNode : pusher.node ∈ s.pending :=
        List.mem_map_of_mem member
      have used : pusher.node ≠ node := by
        rintro rfl
        apply newNode
        rw [ordered.shape.blocks.mem_iff]
        simp [pendingNode]
      exact (Function.update_of_ne used ..).trans
        (ordered.filled pusher member)
  order := by
    have same :
        nodes.map (Function.update s.heap.element node data) =
          nodes.map s.heap.element := by
      apply List.map_congr_left
      intro other member
      have used : other ≠ node :=
        ne_of_mem_of_not_mem member (ordered.shape.fresh newNode).2
      exact Function.update_of_ne used ..
    exact (congrArg (s.returned ++ ·) same).trans ordered.order
  released := ordered.released

/-- A push that puts its node into the list. -/
theorem append
    {pusher : Pusher}
    (ordered : Ordered b records nodes s)
    (member : pusher ∈ s.pushers) :
    Ordered b records (nodes ++ [pusher.node]) (s.afterAppend pusher) where
  shape := by
    have split :
        s.pending.Perm
          (pusher.node :: (s.pushers.erase pusher).map Pusher.node) :=
      (List.perm_cons_erase member).map Pusher.node
    exact (ordered.shape.perm split (List.Perm.refl [])).append
  filled := by
    intro other inRest
    exact ordered.filled other (List.mem_of_mem_erase inRest)
  order := by
    have data := ordered.filled pusher member
    have order := ordered.order
    simp only [afterAppend, pushLocked, List.map_append, List.map_cons,
      List.map_nil, data, ← order, List.append_assoc]
  released := ordered.released

/-- A pop of a list that has a first node. -/
theorem taken
    {node : Nat}
    (ordered : Ordered b records (node :: nodes) s)
    (thread : Nat) :
    ∃ records' after,
      popEntry s.heap = .taken node (s.heap.element node) after ∧
        Ordered b records' nodes
          (s.afterPop thread (popEntry s.heap)) := by
  obtain ⟨left, record, right, -, dataOf, handlerOf, popped, shape⟩ :=
    ordered.shape.pop
  have element := (Heap.popped_fields node record s.heap).2.2
  have calls := Heap.popped_calls dataOf handlerOf
  refine ⟨left ++ right, _, popped, ?_⟩
  rw [popped]
  constructor
  · exact shape
  · intro pusher member
    exact (congrFun element _).trans (ordered.filled pusher member)
  · have order := ordered.order
    simp only [afterPop, element, ← order, List.map_cons,
      List.append_assoc, List.singleton_append]
  · have released := ordered.released
    simp only [afterPop, calls, released, List.map_append, List.map_cons,
      List.map_nil]

/-- Who waits plays no part in the order. -/
theorem threads
    (ordered : Ordered b records nodes s)
    (waiting woken : List Nat) :
    Ordered b records nodes
      { s with waiting := waiting, woken := woken } where
  shape := ordered.shape
  filled := ordered.filled
  order := ordered.order
  released := ordered.released

/-- The list is empty when it has no nodes. -/
theorem empty_iff (ordered : Ordered b records nodes s) :
    stkListEmpty .list s.heap.links = true ↔ nodes = [] := by
  rw [stkListEmpty_iff ordered.shape.list, List.map_eq_nil_iff]

/-- Taking the first node of a list that has one does not fail. -/
theorem takes
    (ordered : Ordered b records nodes s)
    (runs : s.crashed = false)
    (full : nodes ≠ [])
    (thread : Nat) :
    (s.afterPop thread (popEntry s.heap)).crashed = false ∧
      ∃ records' nodes',
        Ordered b records' nodes'
          (s.afterPop thread (popEntry s.heap)) := by
  cases nodes with
  | nil =>
      exact absurd rfl full
  | cons node rest =>
      obtain ⟨records', after, popped, kept⟩ := ordered.taken thread
      refine ⟨?_, records', rest, kept⟩
      rw [popped]
      exact runs

/--
A step keeps the order, unless it is that of a woken thread that finds the list
empty.
-/
theorem step
    {taken : Step}
    (ordered : Ordered b records nodes s)
    (steps : s.step taken = some next) :
    (next.crashed = false ∧
        ∃ records' nodes', Ordered b records' nodes' next) ∨
      (∃ thread, taken = .resume thread) ∧ nodes = [] := by
  obtain ⟨runs, stepped⟩ := step_stepped steps
  cases stepped with
  | prepare thread node record data idle newNode newRecord different =>
      exact .inl ⟨runs, _, _,
        ordered.prepare newNode newRecord different thread data⟩
  | append thread pusher member =>
      exact .inl ⟨runs, _, _, ordered.append member⟩
  | waits thread empty =>
      exact .inl ⟨runs, _, _, ordered.threads _ _⟩
  | pops thread full =>
      exact .inl (ordered.takes runs (mt ordered.empty_iff.mpr full) thread)
  | wake thread member =>
      exact .inl ⟨runs, _, _, ordered.threads _ _⟩
  | resume thread member =>
      by_cases empty : nodes = []
      · exact .inr ⟨⟨thread, rfl⟩, empty⟩
      · have kept := ordered.threads s.waiting (s.woken.erase thread)
        exact .inl (kept.takes runs empty thread)
  | returnsNull thread empty =>
      exact .inl ⟨runs, _, _, ordered⟩
  | triesPop thread full =>
      exact .inl (ordered.takes runs (mt ordered.empty_iff.mpr full) thread)

end Ordered

end QueueSystem

end LdapProxy

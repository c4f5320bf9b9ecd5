import Mathlib.Tactic
import LdapProxy.StkPool

namespace LdapProxy

open LdapProxy.LinkedRing

/-!
# The asynchronous queue

`stk_async_queue.c` on a heap: the functions as far as they run in one piece,
and the shape that each of them keeps.  In this shape the pool's ring has one
record for the queue and one for every node, whether it is in the list or not
yet, and no other block is allocated.
-/

/-- The blocks that `stk_async_queue_new` allocates. -/
structure QueueBlocks where
  pool : Nat
  queue : Nat
  record : Nat
  distinct : [pool, queue, record].Nodup

/-- `stk_async_queue_new` -/
def stkAsyncQueueNew (b : QueueBlocks) (h : Heap) : Heap :=
  let h := stkCreatePool b.pool h
  let h := (stkPalloc (some b.queue) (some b.record) h).2
  -- `__stk_async_queue_init`
  { h with links := stkListInit .list h.links }

/-- Memory from which nothing is allocated yet, whatever it contains. -/
def Heap.unused (memory : Heap) : Heap :=
  { memory with blocks := [], calls := [] }

/-- Memory full of zeros. -/
def zeroMemory : Heap where
  links :=
    { next := fun _ => .block 0
      prev := fun _ => .block 0 }
  handler := fun _ => .free
  data := fun _ => 0
  element := fun _ => 0
  blocks := []
  calls := []

/-- The first three addresses. -/
def firstBlocks : QueueBlocks where
  pool := 1
  queue := 2
  record := 3
  distinct := by decide

/-- What `stk_async_queue_push` does before it locks the mutex. -/
def pushPrepare (node record data : Nat) (h : Heap) : Heap :=
  let h := (stkPalloc (some node) (some record) h).2
  { h with element := Function.update h.element node data }

/-- What `stk_async_queue_push` does to the list while it holds the mutex. -/
def pushLocked (node : Nat) (h : Heap) : Heap :=
  { h with links := stkListAddTail (.block node) .list h.links }

/-- How a function goes on once it has locked the mutex. -/
inductive Popped where
  /-- It returns `NULL` and has changed nothing. -/
  | null
  /-- `pthread_cond_wait` -/
  | waits
  /-- It has removed the node `elt` and returns `data`. -/
  | taken (elt data : Nat) (h : Heap)
  /-- It dereferences `NULL`, or it searches the pool for ever. -/
  | fails

/-- From `stk_list_pop_entry` to the end of the locked part. -/
def popEntry (h : Heap) : Popped :=
  match stkListPopEntry .list h.links with
  | (some (.block elt), links) =>
      match stkPoolCleanupDel elt { h with links := links } with
      | none =>
          .fails
      | some after =>
          .taken elt (h.element elt) after
  | _ =>
      .fails

/-- `stk_async_queue_pop`, up to its wait if there is one. -/
def stkAsyncQueuePop (h : Heap) : Popped :=
  if stkListEmpty .list h.links then .waits else popEntry h

/-- `stk_async_queue_try_pop` -/
def stkAsyncQueueTryPop (h : Heap) : Popped :=
  if stkListEmpty .list h.links then .null else popEntry h

/-- The heap in the middle of a pop, when the node is out of the list. -/
def Heap.unlisted (node : Nat) (h : Heap) : Heap :=
  { h with links := stkListDel (.block node) h.links }

/-- The heap after a pop has taken a node and its record. -/
def Heap.popped (node record : Nat) (h : Heap) : Heap :=
  (h.unlisted node).withoutRecord record

/-- A pop takes the first node and its record. -/
theorem popEntry_taken
    {node : Nat}
    {others : List Place}
    {h after : Heap}
    (ring : Ring h.links .list (.block node :: others))
    (found : stkPoolCleanupDel node (h.unlisted node) = some after) :
    popEntry h = .taken node (h.element node) after := by
  rw [Heap.unlisted] at found
  rw [popEntry, stkListPopEntry_cons ring]
  simp only [found]

/-- A pop writes no field of a record or a node. -/
theorem Heap.popped_fields (node record : Nat) (h : Heap) :
    (h.popped node record).handler = h.handler ∧
      (h.popped node record).data = h.data ∧
      (h.popped node record).element = h.element :=
  Heap.withoutRecord_fields record _

/-- A pop releases the node that it has taken. -/
theorem Heap.popped_calls
    {node record : Nat}
    {h : Heap}
    (dataOf : h.data record = node)
    (handlerOf : h.handler record = .free) :
    (h.popped node record).calls = h.calls ++ [(.free, node)] := by
  have split :=
    Heap.withoutRecord_free (h := h.unlisted node) handlerOf
  rw [Heap.popped, split]
  exact congrArg (fun data => h.calls ++ [(Handler.free, data)]) dataOf

/--
The pool's ring has the given records and the queue's list the given nodes.
Other nodes are pending: they have a record and are not in the list.  Loose
blocks are allocated and have no record.
-/
structure QueueHeap
    (b : QueueBlocks)
    (h : Heap)
    (records nodes pending loose : List Nat) :
    Prop where
  cleanup : h.Records records
  list : Ring h.links .list (nodes.map Place.block)
  owners : (records.map h.data).Perm (b.queue :: (nodes ++ pending))
  handlers : ∀ record ∈ records, h.handler record = .free
  blocks :
    h.blocks.Perm
      (b.pool :: (loose ++ (records ++ b.queue :: (nodes ++ pending))))
  nodup : h.blocks.Nodup

/-- Places of records and of list nodes never coincide. -/
theorem places_apart
    {records nodes : List Nat}
    (apart : ∀ record ∈ records, record ∉ nodes) :
    ∀ query ∈ Place.cleanup :: records.map Place.block,
      query ∉ Place.list :: nodes.map Place.block := by
  intro query inPool inList
  rcases List.mem_cons.mp inPool with rfl | inPool
  · simp at inList
  · obtain ⟨record, member, rfl⟩ := List.mem_map.mp inPool
    simp only [List.mem_cons, reduceCtorEq, List.mem_map, Place.block.injEq,
      exists_eq_right, false_or] at inList
    exact apart record member inList

/-- Neither head of a list is a block. -/
theorem block_notMem
    {address : Nat}
    {others : List Nat}
    {head : Place}
    (notHead : Place.block address ≠ head)
    (outside : address ∉ others) :
    Place.block address ∉ head :: others.map Place.block := by
  intro member
  rcases List.mem_cons.mp member with isHead | member
  · exact notHead isHead
  · obtain ⟨other, inOthers, same⟩ := List.mem_map.mp member
    cases same
    exact outside inOthers

namespace QueueHeap

variable {b : QueueBlocks}
variable {h : Heap}
variable {records nodes pending loose : List Nat}

/-- The blocks of the shape are pairwise different. -/
theorem shape_nodup (shape : QueueHeap b h records nodes pending loose) :
    (b.pool ::
      (loose ++ (records ++ b.queue :: (nodes ++ pending)))).Nodup :=
  shape.blocks.nodup_iff.mp shape.nodup

/-- The records, the queue and the nodes are pairwise different. -/
theorem linked_nodup (shape : QueueHeap b h records nodes pending loose) :
    (records ++ b.queue :: (nodes ++ pending)).Nodup :=
  (List.nodup_append.mp (List.nodup_cons.mp shape.shape_nodup).2).2.1

/-- The queue and the nodes are pairwise different. -/
theorem owners_nodup (shape : QueueHeap b h records nodes pending loose) :
    (b.queue :: (nodes ++ pending)).Nodup :=
  (List.nodup_append.mp shape.linked_nodup).2.1

/-- No block is both a record and a node of the list. -/
theorem apart (shape : QueueHeap b h records nodes pending loose) :
    ∀ record ∈ records, record ∉ nodes := by
  intro record inRecords inNodes
  exact (List.nodup_append.mp shape.linked_nodup).2.2 record inRecords record
    (List.mem_cons_of_mem _ (List.mem_append_left _ inNodes)) rfl

/-- A new address is none of the blocks of the shape. -/
theorem fresh
    (shape : QueueHeap b h records nodes pending loose)
    {address : Nat}
    (unused : address ∉ h.blocks) :
    address ∉ records ∧ address ∉ nodes := by
  rw [shape.blocks.mem_iff] at unused
  simp only [List.mem_cons, List.mem_append, not_or] at unused
  exact ⟨unused.2.2.1, unused.2.2.2.2.1⟩

/-- A pending node is moved into the list by `stk_async_queue_push`. -/
theorem append
    {node : Nat}
    (shape : QueueHeap b h records nodes (node :: pending) loose) :
    QueueHeap b (pushLocked node h) records (nodes ++ [node]) pending
      loose := by
  have moved :
      (nodes ++ node :: pending).Perm (nodes ++ [node] ++ pending) := by
    simp
  have distinct := shape.owners_nodup
  have notListed : node ∉ nodes := by
    intro member
    exact
      (List.nodup_append.mp (List.nodup_cons.mp distinct).2).2.2 node member
        node (List.mem_cons_self ..) rfl
  have notRecord : node ∉ records := by
    intro member
    exact
      (List.nodup_append.mp shape.linked_nodup).2.2 node member node
        (by simp) rfl
  have apart := places_apart shape.apart
  constructor
  · apply stkListAddTail_ring_other shape.list shape.cleanup
    · intro query inList inPool
      exact apart query inPool inList
    · exact block_notMem (by simp) notRecord
  · rw [List.map_append]
    exact stkListAddTail_ring shape.list (block_notMem (by simp) notListed)
  · exact shape.owners.trans (moved.cons _)
  · exact shape.handlers
  · exact shape.blocks.trans
      ((((moved.cons _).append_left _).append_left _).cons _)
  · exact shape.nodup

/-- Pending nodes and loose blocks have no order. -/
theorem perm
    {pending' loose' : List Nat}
    (shape : QueueHeap b h records nodes pending loose)
    (samePending : pending.Perm pending')
    (sameLoose : loose.Perm loose') :
    QueueHeap b h records nodes pending' loose' where
  cleanup := shape.cleanup
  list := shape.list
  owners := shape.owners.trans ((samePending.append_left _).cons _)
  handlers := shape.handlers
  blocks :=
    shape.blocks.trans
      ((sameLoose.append
        (((samePending.append_left _).cons _).append_left _)).cons _)
  nodup := shape.nodup

/-- A new block is loose. -/
theorem malloc
    {address : Nat}
    (shape : QueueHeap b h records nodes pending loose)
    (unused : address ∉ h.blocks) :
    QueueHeap b (h.malloc address) records nodes pending
      (address :: loose) where
  cleanup := shape.cleanup
  list := shape.list
  owners := shape.owners
  handlers := shape.handlers
  blocks := (shape.blocks.cons _).trans (List.Perm.swap ..)
  nodup := List.nodup_cons.mpr ⟨unused, shape.nodup⟩

/-- A field of a block outside the ring may be written. -/
theorem setHandler
    {address : Nat}
    (shape : QueueHeap b h records nodes pending loose)
    (outside : address ∉ records)
    (handler : Handler) :
    QueueHeap b
      { h with handler := Function.update h.handler address handler }
      records nodes pending loose where
  cleanup := shape.cleanup
  list := shape.list
  owners := shape.owners
  handlers := by
    intro record member
    have different : record ≠ address := ne_of_mem_of_not_mem member outside
    exact (Function.update_of_ne different ..).trans
      (shape.handlers record member)
  blocks := shape.blocks
  nodup := shape.nodup

/-- The same for the other field of a record. -/
theorem setData
    {address : Nat}
    (shape : QueueHeap b h records nodes pending loose)
    (outside : address ∉ records)
    (data : Nat) :
    QueueHeap b { h with data := Function.update h.data address data }
      records nodes pending loose where
  cleanup := shape.cleanup
  list := shape.list
  owners := by
    have same :
        records.map (Function.update h.data address data) =
          records.map h.data := by
      apply List.map_congr_left
      intro record member
      exact Function.update_of_ne (ne_of_mem_of_not_mem member outside) ..
    rw [same]
    exact shape.owners
  handlers := shape.handlers
  blocks := shape.blocks
  nodup := shape.nodup

/-- The contents of the nodes play no part in the shape. -/
theorem setElement
    (shape : QueueHeap b h records nodes pending loose)
    (element : Nat → Nat) :
    QueueHeap b { h with element := element } records nodes pending loose where
  cleanup := shape.cleanup
  list := shape.list
  owners := shape.owners
  handlers := shape.handlers
  blocks := shape.blocks
  nodup := shape.nodup

/-- Loose blocks are not in the ring and not in the list. -/
theorem loose_outside
    {address : Nat}
    (shape : QueueHeap b h records nodes pending loose)
    (member : address ∈ loose) :
    address ∉ records ∧ address ∉ nodes := by
  have apart :=
    (List.nodup_append.mp (List.nodup_cons.mp shape.shape_nodup).2).2.2
      address member
  constructor
  · intro inRecords
    exact apart address (List.mem_append_left _ inRecords) rfl
  · intro inNodes
    exact apart address (by simp [inNodes]) rfl

/-- A loose record for a loose node is put into the ring. -/
theorem linkRecord
    {record node : Nat}
    (shape : QueueHeap b h records nodes pending (record :: node :: loose))
    (dataOf : h.data record = node)
    (handlerOf : h.handler record = .free) :
    QueueHeap b
      { h with links := stkListAdd (.block record) .cleanup h.links }
      (record :: records) nodes (node :: pending) loose := by
  rcases shape.loose_outside (List.mem_cons_self ..) with
    ⟨notRecord, notNode⟩
  constructor
  · exact stkListAdd_ring shape.cleanup (block_notMem (by simp) notRecord)
  · exact stkListAdd_ring_other shape.cleanup shape.list
      (places_apart shape.apart) (block_notMem (by simp) notNode)
  · have owners := (shape.owners.cons node)
    rw [← dataOf] at owners ⊢
    refine owners.trans ?_
    refine (List.Perm.swap ..).trans (List.Perm.cons _ ?_)
    exact List.perm_middle.symm
  · intro other member
    rcases List.mem_cons.mp member with rfl | member
    · exact handlerOf
    · exact shape.handlers other member
  · refine shape.blocks.trans (List.Perm.cons _ ?_)
    apply List.perm_iff_count.mpr
    intro address
    simp only [List.count_cons, List.count_append]
    omega
  · exact shape.nodup

/-- A prepared node is pending. -/
theorem prepare
    {node record : Nat}
    (shape : QueueHeap b h records nodes pending loose)
    (newNode : node ∉ h.blocks)
    (newRecord : record ∉ h.blocks)
    (different : record ≠ node)
    (data : Nat) :
    QueueHeap b (pushPrepare node record data h) (record :: records) nodes
      (node :: pending) loose := by
  have stillNew : record ∉ (h.malloc node).blocks := by
    simp [Heap.malloc, different, newRecord]
  have allocated := (shape.malloc newNode).malloc stillNew
  have outside := (allocated.loose_outside (List.mem_cons_self ..)).1
  have filled :=
    (allocated.setHandler outside .free).setData outside node
  have linked :=
    filled.linkRecord (Function.update_self ..) (Function.update_self ..)
  exact linked.setElement (Function.update h.element node data)

/-- The record of a node that is in the list or pending. -/
theorem record_of
    {node : Nat}
    (shape : QueueHeap b h records nodes pending loose)
    (member : node ∈ nodes ++ pending) :
    ∃ left record right,
      records = left ++ record :: right ∧
        h.data record = node ∧
        ∀ other ∈ left, h.data other ≠ node := by
  have owned : node ∈ records.map h.data :=
    shape.owners.mem_iff.mpr (List.mem_cons_of_mem _ member)
  obtain ⟨record, inRecords, dataOf⟩ := List.mem_map.mp owned
  obtain ⟨left, right, split⟩ := List.append_of_mem inRecords
  refine ⟨left, record, right, split, dataOf, ?_⟩
  intro other inLeft same
  have distinct : (records.map h.data).Nodup :=
    shape.owners.nodup_iff.mpr shape.owners_nodup
  rw [split, List.map_append] at distinct
  exact
    (List.nodup_append.mp distinct).2.2 node
      (List.mem_map.mpr ⟨other, inLeft, same⟩) node
      (List.mem_map.mpr ⟨record, List.mem_cons_self .., dataOf⟩) rfl

/-- Taking the first node out of the list makes it pending. -/
theorem unlistFirst
    {node : Nat}
    (shape : QueueHeap b h records (node :: nodes) pending loose) :
    QueueHeap b (h.unlisted node) records nodes (node :: pending)
      loose := by
  have moved :
      (node :: nodes ++ pending).Perm (nodes ++ node :: pending) :=
    List.perm_middle.symm
  have ring : Ring h.links .list
      ([] ++ Place.block node :: nodes.map Place.block) := shape.list
  constructor
  · apply stkListDel_ring_other ring shape.cleanup
    intro query inList inPool
    exact places_apart shape.apart query inPool inList
  · exact stkListDel_ring ring
  · exact shape.owners.trans (moved.cons _)
  · exact shape.handlers
  · exact shape.blocks.trans
      ((((moved.cons _).append_left _).append_left _).cons _)
  · exact shape.nodup

/-- `stk_pool_cleanup_del` frees a pending node and its record. -/
theorem withoutRecord
    {node record : Nat}
    {left right : List Nat}
    (shape :
      QueueHeap b h (left ++ record :: right) nodes (node :: pending) loose)
    (dataOf : h.data record = node) :
    QueueHeap b (h.withoutRecord record) (left ++ right) nodes pending
      loose := by
  have handlerOf : h.handler record = .free :=
    shape.handlers record (by simp)
  have ring : Ring h.links .cleanup
      (left.map Place.block ++ Place.block record ::
        right.map Place.block) := by
    have whole := shape.cleanup
    rw [Heap.Records, List.map_append, List.map_cons] at whole
    exact whole
  rw [Heap.withoutRecord_free handlerOf, dataOf]
  constructor
  · have smaller := stkListDel_ring ring
    rw [← List.map_append] at smaller
    exact smaller
  · apply stkListDel_ring_other ring shape.list
    have apart := places_apart shape.apart
    rw [List.map_append, List.map_cons] at apart
    exact apart
  · have owners := shape.owners
    rw [List.map_append, List.map_cons, dataOf] at owners
    have front :
        (b.queue :: (nodes ++ node :: pending)).Perm
          (node :: b.queue :: (nodes ++ pending)) :=
      (List.perm_middle.cons _).trans (List.Perm.swap ..)
    have rest := (List.perm_middle.symm.trans owners).trans front
    rw [List.map_append]
    exact rest.cons_inv
  · intro other member
    apply shape.handlers
    simp only [List.mem_append, List.mem_cons] at member ⊢
    tauto
  · have front :
        (b.pool :: (loose ++ (left ++ record :: right ++
            b.queue :: (nodes ++ node :: pending)))).Perm
          (node :: record :: b.pool :: (loose ++ (left ++ right ++
            b.queue :: (nodes ++ pending)))) := by
      apply List.perm_iff_count.mpr
      intro address
      simp only [List.count_cons, List.count_append]
      omega
    have erased := ((shape.blocks.trans front).erase node).erase record
    simpa using erased
  · exact (shape.nodup.erase node).erase record

/-- `stk_list_pop_entry` and `stk_pool_cleanup_del` take the first node. -/
theorem pop
    {node : Nat}
    (shape : QueueHeap b h records (node :: nodes) pending loose) :
    ∃ left record right,
      records = left ++ record :: right ∧
        h.data record = node ∧
        h.handler record = .free ∧
        popEntry h = .taken node (h.element node) (h.popped node record) ∧
        QueueHeap b (h.popped node record) (left ++ right) nodes pending
          loose := by
  have unlisted := shape.unlistFirst
  obtain ⟨left, record, right, split, dataOf, notBefore⟩ :=
    unlisted.record_of (List.mem_append_right _ (List.mem_cons_self ..))
  subst split
  have enough : left.length ≤ h.blocks.length := by
    have count := unlisted.blocks.length_eq
    simp only [Heap.unlisted, List.length_cons, List.length_append] at count
    omega
  have found :=
    stkPoolCleanupDel_found (Ring.visits unlisted.cleanup) dataOf notBefore
      enough
  have handlerOf : h.handler record = .free :=
    shape.handlers record (by simp)
  exact ⟨left, record, right, rfl, dataOf, handlerOf,
    popEntry_taken shape.list found, unlisted.withoutRecord dataOf⟩

end QueueHeap

/-- A new queue is empty, and the pool has its record. -/
theorem stkAsyncQueueNew_shape (b : QueueBlocks) (memory : Heap) :
    QueueHeap b (stkAsyncQueueNew b memory.unused) [b.record] [] [] [] := by
  have created :
      Ring (stkListInit .cleanup memory.links) Place.cleanup [] :=
    stkListInit_ring memory.links .cleanup
  have recorded :=
    stkListAdd_ring created
      (show Place.block b.record ∉ [Place.cleanup] by simp)
  constructor
  · apply recorded.congr
    · intro query member
      have notList : query ≠ Place.list := by
        rintro rfl
        simp at member
      exact (Links.setNext_next ..).trans (if_neg notList)
    · intro query member
      have notList : query ≠ Place.list := by
        rintro rfl
        simp at member
      exact (Links.setPrev_prev ..).trans (if_neg notList)
  · exact stkListInit_ring _ Place.list
  · have dataOf :
        (stkAsyncQueueNew b memory.unused).data b.record = b.queue :=
      Function.update_self ..
    simp [dataOf]
  · intro record member
    rw [List.mem_singleton.mp member]
    exact Function.update_self ..
  · exact (List.reverse_perm [b.pool, b.queue, b.record]).trans
      ((List.Perm.swap ..).cons _)
  · exact (List.reverse_perm [b.pool, b.queue, b.record]).nodup_iff.mpr
      b.distinct

end LdapProxy

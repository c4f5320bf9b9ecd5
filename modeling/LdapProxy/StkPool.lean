import LdapProxy.StkList

namespace LdapProxy

open LdapProxy.LinkedRing

/-!
# Memory pools

The functions of `stk_pool.c` on a heap.  A pool keeps a ring of cleanup
records; a block that `stk_palloc` hands out has a record whose handler is
`stk_free`.  An allocation gets the address that `malloc` returns as an
argument, or `none` when it fails.
-/

/-- Where a `stk_list_t` stands. -/
inductive Place where
  /-- `cleanup` of the pool. -/
  | cleanup
  /-- `list` of the asynchronous queue that uses the pool. -/
  | list
  /-- The first field of an allocated block. -/
  | block (address : Nat)
  deriving Repr, DecidableEq

/-- `stk_pool_cleanup_pt` -/
inductive Handler where
  /-- `stk_free` -/
  | free
  | other (function : Nat)
  deriving Repr, DecidableEq

/--
The heap.  `handler` and `data` are the fields of a `stk_pool_cleanup_t` at an
address and `element` is the `data` field of a `__queue_data_t` there; `blocks`
are the blocks that are allocated and not freed.  The history variable `calls`
is what the pool has called.
-/
structure Heap where
  links : Links Place
  handler : Nat → Handler
  data : Nat → Nat
  element : Nat → Nat
  blocks : List Nat
  calls : List (Handler × Nat)

/-- `malloc` returns this address. -/
def Heap.malloc (address : Nat) (h : Heap) : Heap :=
  { h with blocks := address :: h.blocks }

/-- `stk_free` -/
def Heap.free (address : Nat) (h : Heap) : Heap :=
  { h with blocks := h.blocks.erase address }

/-- `(*handler)(data)` -/
def Handler.run (handler : Handler) (data : Nat) (h : Heap) : Heap :=
  let h := { h with calls := h.calls ++ [(handler, data)] }
  match handler with
  | .free =>
      h.free data
  | .other _ =>
      h

/-- `stk_create_pool` -/
def stkCreatePool (pool : Nat) (h : Heap) : Heap :=
  let h := h.malloc pool
  { h with links := stkListInit .cleanup h.links }

/-- `stk_pool_cleanup_add` -/
def stkPoolCleanupAdd
    (cleanup : Option Nat)
    (handler : Handler)
    (data : Nat)
    (h : Heap) :
    Int × Heap :=
  match cleanup with
  | none =>
      (-1, h)
  | some cleanup =>
      let h := h.malloc cleanup
      let h := { h with handler := Function.update h.handler cleanup handler }
      let h := { h with data := Function.update h.data cleanup data }
      (0, { h with links := stkListAdd (.block cleanup) .cleanup h.links })

/--
The loop of `stk_pool_cleanup_del` from `itr` on, with at most `fuel`
repetitions.  Behind a list node in the queue itself stands its pool pointer,
which is no block that anybody deletes.
-/
def cleanupDelLoop (data : Nat) : Nat → Place → Heap → Option Heap
  | 0, _, _ =>
      none
  | _ + 1, .cleanup, h =>
      some h
  | fuel + 1, .list, h =>
      cleanupDelLoop data fuel (h.links.next .list) h
  | fuel + 1, .block itr, h =>
      if h.data itr = data then
        let h := (h.handler itr).run data h
        let h := { h with links := stkListDel (.block itr) h.links }
        some (h.free itr)
      else
        cleanupDelLoop data fuel (h.links.next (.block itr)) h

/--
`stk_pool_cleanup_del`.  A ring of records has at most as many members as there
are blocks; a traversal that visits more places never ends.
-/
def stkPoolCleanupDel (data : Nat) (h : Heap) : Option Heap :=
  cleanupDelLoop data (h.blocks.length + 1) (h.links.next .cleanup) h

/-- `stk_palloc` -/
def stkPalloc (address cleanup : Option Nat) (h : Heap) :
    Option Nat × Heap :=
  match address with
  | none =>
      (none, h)
  | some address =>
      let (ret, h) :=
        stkPoolCleanupAdd cleanup .free address (h.malloc address)
      if ret ≠ 0 then
        (none, h.free address)
      else
        (some address, h)

/--
`stk_memzero` on a block.  A record or a list node that stands there later has
its fields in this memory.
-/
def Heap.memzero (address : Nat) (h : Heap) : Heap :=
  { h with
    links :=
      (h.links.setNext (.block address) (.block 0)).setPrev (.block address)
        (.block 0)
    handler := Function.update h.handler address (.other 0)
    data := Function.update h.data address 0
    element := Function.update h.element address 0 }

/-- `stk_pcalloc` -/
def stkPcalloc (address cleanup : Option Nat) (h : Heap) :
    Option Nat × Heap :=
  match stkPalloc address cleanup h with
  | (none, h) =>
      (none, h)
  | (some p, h) =>
      (some p, h.memzero p)

/--
The loop of `stk_reset_pool` with at most `fuel` repetitions.  A node that is
no record has no handler to call.
-/
def resetLoop : Nat → Heap → Option Heap
  | 0, _ =>
      none
  | fuel + 1, h =>
      if stkListEmpty .cleanup h.links then
        some h
      else
        match stkListPopEntry .cleanup h.links with
        | (none, links) =>
            some { h with links := links }
        | (some (.block cluP), links) =>
            let h := { h with links := links }
            let h := (h.handler cluP).run (h.data cluP) h
            resetLoop fuel (h.free cluP)
        | (some _, _) =>
            none

/-- `stk_reset_pool`, which frees a block in every turn but the last. -/
def stkResetPool (h : Heap) : Option Heap :=
  resetLoop (h.blocks.length + 1) h

/-- `stk_destroy_pool` -/
def stkDestroyPool (pool : Nat) (h : Heap) : Option Heap :=
  (stkResetPool h).map (Heap.free pool)

/-- The record of `data` that `stk_pool_cleanup_del` finds is taken out. -/
def Heap.withoutRecord (record : Nat) (h : Heap) : Heap :=
  let h := (h.handler record).run (h.data record) h
  { h with links := stkListDel (.block record) h.links }.free record

/-- Handlers leave the links alone. -/
@[simp] theorem Handler.run_links (handler : Handler) (data : Nat) (h : Heap) :
    (handler.run data h).links = h.links := by
  cases handler with
  | free =>
      rfl
  | other function =>
      rfl

/-- Taking a record out unlinks it. -/
@[simp] theorem Heap.withoutRecord_links (record : Nat) (h : Heap) :
    (h.withoutRecord record).links = stkListDel (.block record) h.links := by
  simp [Heap.withoutRecord, Heap.free]

/-- Taking a record out writes no field of a record or a node. -/
@[simp] theorem Heap.withoutRecord_fields (record : Nat) (h : Heap) :
    (h.withoutRecord record).handler = h.handler ∧
      (h.withoutRecord record).data = h.data ∧
      (h.withoutRecord record).element = h.element := by
  unfold Heap.withoutRecord
  cases h.handler record with
  | free =>
      exact ⟨rfl, rfl, rfl⟩
  | other function =>
      exact ⟨rfl, rfl, rfl⟩

/-- Taking a record of `stk_palloc` out frees its block and the record. -/
theorem Heap.withoutRecord_free
    {record : Nat}
    {h : Heap}
    (handlerOf : h.handler record = .free) :
    h.withoutRecord record =
      { h with
        links := stkListDel (.block record) h.links
        blocks := (h.blocks.erase (h.data record)).erase record
        calls := h.calls ++ [(.free, h.data record)] } := by
  rw [Heap.withoutRecord, handlerOf]
  rfl

/-- The loop stops at the first record of the data. -/
theorem cleanupDelLoop_found
    {data record : Nat}
    {left right : List Nat}
    {h : Heap}
    (linked :
      ((left ++ record :: right).map Place.block ++
        [Place.cleanup]).IsChain (fun itr next => h.links.next itr = next))
    (here : h.data record = data)
    (notBefore : ∀ other ∈ left, h.data other ≠ data)
    {fuel : Nat}
    (enough : left.length < fuel) :
    cleanupDelLoop data fuel
        ((left.map Place.block).headD (.block record)) h =
      some (h.withoutRecord record) := by
  induction left generalizing fuel with
  | nil =>
      obtain ⟨rest, rfl⟩ := Nat.exists_eq_add_of_lt enough
      subst here
      simp [cleanupDelLoop, Heap.withoutRecord]
  | cons first rest inductionHypothesis =>
      cases fuel with
      | zero =>
          cases enough
      | succ fuel =>
          have different := notBefore first (List.mem_cons_self ..)
          have next :
              h.links.next (.block first) =
                (rest.map Place.block).headD (.block record) := by
            cases rest with
            | nil =>
                exact (List.isChain_cons_cons.mp linked).1
            | cons second later =>
                exact (List.isChain_cons_cons.mp linked).1
          have tail := List.IsChain.tail linked
          simp only [List.map_cons, List.headD_cons, cleanupDelLoop,
            if_neg different, next]
          apply inductionHypothesis tail
          · intro other member
            exact notBefore other (List.mem_cons_of_mem _ member)
          · exact Nat.lt_of_succ_lt_succ enough

/-- The loop passes records of other data, and changes nothing. -/
theorem cleanupDelLoop_notFound
    {data : Nat}
    {records : List Nat}
    {start : Place}
    {h : Heap}
    (walk : h.links.Walk .cleanup start (records.map Place.block))
    (nowhere : ∀ record ∈ records, h.data record ≠ data)
    {fuel : Nat}
    (enough : records.length < fuel) :
    cleanupDelLoop data fuel start h = some h := by
  obtain ⟨fuel, rfl⟩ :=
    Nat.exists_eq_succ_of_ne_zero (Nat.ne_zero_of_lt enough)
  induction records generalizing start fuel with
  | nil =>
      cases walk with
      | arrived =>
          rfl
  | cons record rest inductionHypothesis =>
      cases walk with
      | visit _ later =>
          have different := nowhere record (List.mem_cons_self ..)
          have room := Nat.lt_of_succ_lt_succ enough
          obtain ⟨fuel, rfl⟩ :=
            Nat.exists_eq_succ_of_ne_zero (Nat.ne_zero_of_lt room)
          rw [cleanupDelLoop, if_neg different]
          exact
            inductionHypothesis later
              (fun other member =>
                nowhere other (List.mem_cons_of_mem _ member))
              fuel room

/-- The blocks that are left when a record is taken out. -/
theorem Heap.withoutRecord_blocks (record : Nat) (h : Heap) :
    (h.withoutRecord record).blocks =
      (if h.handler record = .free then h.blocks.erase (h.data record)
        else h.blocks).erase record := by
  unfold Heap.withoutRecord
  cases h.handler record with
  | free =>
      rfl
  | other function =>
      rfl

/-- Taking a record out calls its handler. -/
theorem Heap.withoutRecord_calls (record : Nat) (h : Heap) :
    (h.withoutRecord record).calls =
      h.calls ++ [(h.handler record, h.data record)] := by
  unfold Heap.withoutRecord
  cases h.handler record with
  | free =>
      rfl
  | other function =>
      rfl

/-- The pool's ring of records. -/
def Heap.Records (h : Heap) (records : List Nat) : Prop :=
  Ring h.links .cleanup (records.map Place.block)

/-- `stk_pool_cleanup_del` takes out the most recent record of the data. -/
theorem stkPoolCleanupDel_found
    {data record : Nat}
    {left right : List Nat}
    {h : Heap}
    (linked :
      h.links.Visits .cleanup
        ((left ++ record :: right).map Place.block))
    (here : h.data record = data)
    (notBefore : ∀ other ∈ left, h.data other ≠ data)
    (enough : left.length ≤ h.blocks.length) :
    stkPoolCleanupDel data h = some (h.withoutRecord record) := by
  have first :
      h.links.next .cleanup =
        (left.map Place.block).headD (.block record) := by
    cases left with
    | nil =>
        exact (List.isChain_cons_cons.mp linked).1
    | cons first rest =>
        exact (List.isChain_cons_cons.mp linked).1
  rw [stkPoolCleanupDel, first]
  exact cleanupDelLoop_found (List.IsChain.tail linked) here notBefore
    (Nat.lt_succ_of_le enough)

/-- `stk_pool_cleanup_del` of data without a record changes nothing. -/
theorem stkPoolCleanupDel_notFound
    {data : Nat}
    {records : List Nat}
    {h : Heap}
    (ring : h.Records records)
    (nowhere : ∀ record ∈ records, h.data record ≠ data)
    (enough : records.length ≤ h.blocks.length) :
    stkPoolCleanupDel data h = some h :=
  cleanupDelLoop_notFound (Ring.walk ring) nowhere (Nat.lt_succ_of_le enough)

/-- A turn of `stk_reset_pool` takes the first record out. -/
theorem resetLoop_cons
    {record fuel : Nat}
    {records : List Nat}
    {h : Heap}
    (ring : h.Records (record :: records)) :
    resetLoop (fuel + 1) h = resetLoop fuel (h.withoutRecord record) := by
  have full : ¬ stkListEmpty .cleanup h.links = true := by
    rw [stkListEmpty_iff ring]
    exact List.cons_ne_nil _ _
  rw [resetLoop, if_neg full, stkListPopEntry_cons ring]
  unfold Heap.withoutRecord
  cases handler : h.handler record with
  | free =>
      simp only [handler, Handler.run, Heap.free]
  | other function =>
      simp only [handler, Handler.run, Heap.free]

/-- `stk_reset_pool` ends when there are no records. -/
theorem resetLoop_nil
    {fuel : Nat}
    {h : Heap}
    (ring : h.Records []) :
    resetLoop (fuel + 1) h = some h := by
  rw [resetLoop, if_pos ((stkListEmpty_iff ring).mpr rfl)]

end LdapProxy

import LdapProxy.CleanupStack
import LdapProxy.StkPool
import LdapProxy.TransitionRun

namespace LdapProxy

open LdapProxy.CleanupStack
open LdapProxy.LinkedRing
open LdapProxy.Transition

/-!
# The life of a pool

Calls of the functions of `stk_pool.c` on one pool, where any allocation may
fail, beside the stack of registrations that the pool stands for.  The ring of
records is that stack; a call runs the handlers of the registrations that it
takes off.
-/

/--
A successful registration: its number, the address of its record, and whether
`stk_palloc` made it for the block `data`.
-/
structure Registration where
  number : Nat
  record : Nat
  handler : Handler
  data : Nat
  block : Bool
  deriving DecidableEq

namespace Registration

/-- The call of its handler. -/
def call (r : Registration) : Handler × Nat :=
  (r.handler, r.data)

/-- The blocks that the pool has allocated for it. -/
def blocks (r : Registration) : List Nat :=
  if r.block then [r.record, r.data] else [r.record]

/-- Its record is one of them. -/
theorem record_mem_blocks (r : Registration) : r.record ∈ r.blocks := by
  unfold blocks
  split <;> exact List.mem_cons_self ..

end Registration

/-- The blocks of a pool: itself, its records, and what `stk_palloc` gave. -/
def ownedBlocks (pool : Nat) (live : List Registration) : List Nat :=
  pool :: live.flatMap Registration.blocks

/--
These handlers do not touch the pool: one that a caller has registered to free
its data does not free a block of the pool.
-/
def Quiet (pool : Nat) (live handlers : List Registration) : Prop :=
  ∀ r ∈ handlers,
    r.block = false →
    r.handler = .free →
    r.data ∉ ownedBlocks pool live

instance (pool : Nat) (live handlers : List Registration) :
    Decidable (Quiet pool live handlers) :=
  inferInstanceAs
    (Decidable
      (∀ r ∈ handlers,
        r.block = false →
        r.handler = .free →
        r.data ∉ ownedBlocks pool live))

/-- The record of a registration is a block of the pool. -/
theorem record_mem_ownedBlocks
    {pool : Nat}
    {live : List Registration}
    {r : Registration}
    (member : r ∈ live) :
    r.record ∈ ownedBlocks pool live :=
  List.mem_cons_of_mem _
    (List.mem_flatMap.mpr ⟨r, member, r.record_mem_blocks⟩)

/-- Fewer registrations have fewer blocks. -/
theorem ownedBlocks_subset
    {pool : Nat}
    {live fewer : List Registration}
    (subset : fewer ⊆ live) :
    ownedBlocks pool fewer ⊆ ownedBlocks pool live := by
  intro address member
  rcases List.mem_cons.mp member with rfl | inBlocks
  · exact List.mem_cons_self ..
  · obtain ⟨r, inFewer, inBlocks⟩ := List.mem_flatMap.mp inBlocks
    exact
      List.mem_cons_of_mem _
        (List.mem_flatMap.mpr ⟨r, subset inFewer, inBlocks⟩)

/-- The blocks of one registration can be counted first. -/
theorem ownedBlocks_middle
    (pool : Nat)
    (left right : List Registration)
    (r : Registration) :
    (ownedBlocks pool (left ++ r :: right)).Perm
      (r.blocks ++ ownedBlocks pool (left ++ right)) := by
  have moved :
      ((left ++ r :: right).flatMap Registration.blocks).Perm
        (r.blocks ++ (left ++ right).flatMap Registration.blocks) := by
    have front :
        (left ++ r :: right).Perm (r :: (left ++ right)) :=
      List.perm_middle
    exact front.flatMap_right _
  exact (moved.cons pool).trans List.perm_middle.symm

/-- Fewer handlers do not touch a smaller pool. -/
theorem Quiet.mono
    {pool : Nat}
    {live fewer handlers some : List Registration}
    (quiet : Quiet pool live handlers)
    (subset : fewer ⊆ live)
    (someOf : some ⊆ handlers) :
    Quiet pool fewer some := by
  intro r member noBlock frees owned
  exact quiet r (someOf member) noBlock frees
    (ownedBlocks_subset subset owned)

/-- There are at least as many blocks as registrations. -/
theorem length_lt_ownedBlocks (pool : Nat) (live : List Registration) :
    live.length < (ownedBlocks pool live).length := by
  unfold ownedBlocks
  rw [List.length_cons]
  apply Nat.lt_succ_of_le
  induction live with
  | nil =>
      exact Nat.le_refl _
  | cons r rest inductionHypothesis =>
      rw [List.flatMap_cons, List.length_append, List.length_cons]
      have some : 0 < r.blocks.length :=
        List.length_pos_of_mem r.record_mem_blocks
      omega

/--
The ring of records is the stack of registrations, and the blocks of the pool
are allocated beside the blocks of the rest of the program.
-/
structure PoolShape
    (pool : Nat)
    (h : Heap)
    (live : List Registration)
    (outside : List Nat) :
    Prop where
  records : h.Records (live.map Registration.record)
  handler : ∀ r ∈ live, h.handler r.record = r.handler
  data : ∀ r ∈ live, h.data r.record = r.data
  frees : ∀ r ∈ live, r.block = true → r.handler = .free
  blocks : h.blocks.Perm (ownedBlocks pool live ++ outside)
  nodup : h.blocks.Nodup

namespace PoolShape

variable {pool : Nat}
variable {h : Heap}
variable {live left right : List Registration}
variable {outside : List Nat}
variable {r : Registration}

/-- The blocks of the pool are allocated. -/
theorem owned_mem
    (shape : PoolShape pool h live outside)
    {address : Nat}
    (owned : address ∈ ownedBlocks pool live) :
    address ∈ h.blocks :=
  shape.blocks.mem_iff.mpr (List.mem_append_left _ owned)

/-- A block that is not allocated has no record. -/
theorem fresh_record
    (shape : PoolShape pool h live outside)
    {address : Nat}
    (fresh : address ∉ h.blocks) :
    address ∉ live.map Registration.record := by
  intro member
  obtain ⟨r, inLive, rfl⟩ := List.mem_map.mp member
  exact fresh (shape.owned_mem (record_mem_ownedBlocks inLive))

/-- A new record becomes the first one. -/
theorem add
    (shape : PoolShape pool h live outside)
    (fresh : ∀ address ∈ r.blocks, address ∉ h.blocks)
    (distinct : r.blocks.Nodup)
    (frees : r.block = true → r.handler = .free) :
    PoolShape pool
      { h with
        links := stkListAdd (.block r.record) .cleanup h.links
        handler := Function.update h.handler r.record r.handler
        data := Function.update h.data r.record r.data
        blocks := r.blocks ++ h.blocks }
      (r :: live) outside := by
  have newRecord : r.record ∉ live.map Registration.record :=
    shape.fresh_record (fresh _ r.record_mem_blocks)
  have other {q : Registration} (member : q ∈ live) :
      q.record ≠ r.record := by
    intro same
    exact newRecord (same ▸ List.mem_map_of_mem member)
  refine ⟨?_, ?_, ?_, ?_, ?_, ?_⟩
  · apply stkListAdd_ring shape.records
    simp only [List.mem_cons, reduceCtorEq, List.mem_map, Place.block.injEq,
      exists_eq_right, false_or]
    simpa using newRecord
  · intro q member
    rcases List.mem_cons.mp member with rfl | inLive
    · exact Function.update_self ..
    · exact (Function.update_of_ne (other inLive) ..).trans
        (shape.handler q inLive)
  · intro q member
    rcases List.mem_cons.mp member with rfl | inLive
    · exact Function.update_self ..
    · exact (Function.update_of_ne (other inLive) ..).trans
        (shape.data q inLive)
  · intro q member
    rcases List.mem_cons.mp member with rfl | inLive
    · exact frees
    · exact shape.frees q inLive
  · have front := ownedBlocks_middle pool [] live r
    have allocated := shape.blocks.append_left r.blocks
    rw [← List.append_assoc] at allocated
    exact allocated.trans (front.symm.append_right outside)
  · refine List.nodup_append.mpr ⟨distinct, shape.nodup, ?_⟩
    rintro address inNew _ inOld rfl
    exact fresh address inNew inOld

/-- The blocks that are left when a record is taken out. -/
theorem withoutRecord_perm
    (shape : PoolShape pool h (left ++ r :: right) outside)
    (quiet : Quiet pool (left ++ r :: right) [r]) :
    ∃ outsideAfter,
      outsideAfter.Sublist outside ∧
        (h.withoutRecord r.record).blocks.Perm
          (ownedBlocks pool (left ++ right) ++ outsideAfter) := by
  have member : r ∈ left ++ r :: right :=
    List.mem_append_right _ (List.mem_cons_self ..)
  have allocated :
      h.blocks.Perm (r.blocks ++ (ownedBlocks pool (left ++ right) ++
        outside)) := by
    rw [← List.append_assoc]
    exact shape.blocks.trans
      ((ownedBlocks_middle pool left right r).append_right outside)
  rw [h.withoutRecord_blocks, shape.handler r member, shape.data r member]
  cases isBlock : r.block with
  | true =>
      refine ⟨outside, .refl _, ?_⟩
      rw [if_pos (shape.frees r member isBlock)]
      rw [Registration.blocks, if_pos isBlock] at allocated
      have dataFirst := (allocated.trans (.swap ..)).erase r.data
      rw [List.erase_cons_head] at dataFirst
      have both := dataFirst.erase r.record
      rw [List.erase_cons_head] at both
      exact both
  | false =>
      have noBlock : ¬ r.block = true := Bool.eq_false_iff.mp isBlock
      rw [Registration.blocks, if_neg noBlock] at allocated
      by_cases frees : r.handler = .free
      · have notOwned := quiet r (List.mem_singleton_self r) isBlock frees
        have notRecord : r.record ≠ r.data :=
          ne_of_mem_of_not_mem (record_mem_ownedBlocks member) notOwned
        have notOwnedLater : r.data ∉ ownedBlocks pool (left ++ right) := by
          intro owned
          refine notOwned (ownedBlocks_subset ?_ owned)
          exact ((List.Sublist.refl left).append
            (List.sublist_cons_self ..)).subset
        refine ⟨outside.erase r.data, List.erase_sublist .., ?_⟩
        rw [if_pos frees]
        have dataGone := allocated.erase r.data
        rw [List.singleton_append,
          List.erase_cons_tail (by simpa using notRecord),
          List.erase_append_right _ notOwnedLater] at dataGone
        have both := dataGone.erase r.record
        rw [List.erase_cons_head] at both
        exact both
      · refine ⟨outside, .refl _, ?_⟩
        rw [if_neg frees]
        have recordGone := allocated.erase r.record
        rw [List.singleton_append, List.erase_cons_head] at recordGone
        exact recordGone

/-- A record that is taken out frees its blocks, and perhaps one outside. -/
theorem withoutRecord
    (shape : PoolShape pool h (left ++ r :: right) outside)
    (quiet : Quiet pool (left ++ r :: right) [r]) :
    ∃ outsideAfter,
      outsideAfter.Sublist outside ∧
        PoolShape pool (h.withoutRecord r.record) (left ++ right)
          outsideAfter ∧
        (h.withoutRecord r.record).calls = h.calls ++ [r.call] := by
  have member : r ∈ left ++ r :: right :=
    List.mem_append_right _ (List.mem_cons_self ..)
  have fewer : left ++ right ⊆ left ++ r :: right :=
    ((List.Sublist.refl left).append (List.sublist_cons_self ..)).subset
  obtain ⟨outsideAfter, sublist, blocks⟩ := shape.withoutRecord_perm quiet
  obtain ⟨sameHandler, sameData, -⟩ := h.withoutRecord_fields r.record
  refine ⟨outsideAfter, sublist, ⟨?_, ?_, ?_, ?_, blocks, ?_⟩, ?_⟩
  · have ring := shape.records
    rw [List.map_append, List.map_cons, Heap.Records, List.map_append,
      List.map_cons] at ring
    rw [Heap.Records, h.withoutRecord_links, List.map_append,
      List.map_append]
    exact stkListDel_ring ring
  · intro q inFewer
    rw [sameHandler]
    exact shape.handler q (fewer inFewer)
  · intro q inFewer
    rw [sameData]
    exact shape.data q (fewer inFewer)
  · intro q inFewer
    exact shape.frees q (fewer inFewer)
  · rw [h.withoutRecord_blocks]
    split
    · exact (shape.nodup.erase _).erase _
    · exact shape.nodup.erase _
  · rw [h.withoutRecord_calls, shape.handler r member, shape.data r member]
    rfl

/-- There are more blocks than records. -/
theorem length_le
    (shape : PoolShape pool h live outside) :
    live.length ≤ h.blocks.length := by
  have more := length_lt_ownedBlocks pool live
  have blocks := shape.blocks.length_eq
  rw [List.length_append] at blocks
  omega

/-- `stk_reset_pool` takes all records out, the most recent one first. -/
theorem resetLoop
    (shape : PoolShape pool h live outside)
    (quiet : Quiet pool live live)
    {fuel : Nat}
    (enough : live.length < fuel) :
    ∃ after outsideAfter,
      LdapProxy.resetLoop fuel h = some after ∧
        outsideAfter.Sublist outside ∧
        PoolShape pool after [] outsideAfter ∧
        after.calls = h.calls ++ live.map Registration.call := by
  obtain ⟨fuel, rfl⟩ :=
    Nat.exists_eq_succ_of_ne_zero (Nat.ne_zero_of_lt enough)
  induction live generalizing h outside fuel with
  | nil =>
      exact
        ⟨h, outside, resetLoop_nil shape.records, .refl _, shape,
          (List.append_nil _).symm⟩
  | cons r rest inductionHypothesis =>
      have room := Nat.lt_of_succ_lt_succ enough
      obtain ⟨fuel, rfl⟩ :=
        Nat.exists_eq_succ_of_ne_zero (Nat.ne_zero_of_lt room)
      have shapeFirst : PoolShape pool h ([] ++ r :: rest) outside := shape
      have quietFirst : Quiet pool ([] ++ r :: rest) [r] :=
        quiet.mono (List.Subset.refl _)
          (List.cons_subset.mpr
            ⟨List.mem_cons_self .., List.nil_subset _⟩)
      obtain ⟨outsideMiddle, sublist, shapeMiddle, calls⟩ :=
        shapeFirst.withoutRecord quietFirst
      have quietRest : Quiet pool rest rest :=
        quiet.mono (List.subset_cons_self ..) (List.subset_cons_self ..)
      obtain ⟨after, outsideAfter, ended, sublistAfter, shapeAfter,
          callsAfter⟩ :=
        inductionHypothesis shapeMiddle quietRest fuel room
      refine ⟨after, outsideAfter, ?_, sublistAfter.trans sublist, shapeAfter,
        ?_⟩
      · rw [resetLoop_cons shape.records]
        exact ended
      · rw [callsAfter, calls, List.append_assoc, List.map_cons,
          List.singleton_append]

/-- `stk_pool_cleanup_del` takes the most recent record of the data out. -/
theorem cleanupDel
    (shape : PoolShape pool h (left ++ r :: right) outside)
    (notBefore : ∀ other ∈ left, other.data ≠ r.data) :
    stkPoolCleanupDel r.data h = some (h.withoutRecord r.record) := by
  have member : r ∈ left ++ r :: right :=
    List.mem_append_right _ (List.mem_cons_self ..)
  have visits := Ring.visits shape.records
  rw [List.map_append, List.map_cons] at visits
  refine stkPoolCleanupDel_found visits (shape.data r member) ?_ ?_
  · intro record inLeft
    obtain ⟨other, otherLeft, rfl⟩ := List.mem_map.mp inLeft
    rw [shape.data other (List.mem_append_left _ otherLeft)]
    exact notBefore other otherLeft
  · have fits := shape.length_le
    rw [List.length_append] at fits
    rw [List.length_map]
    omega

/-- `stk_pool_cleanup_del` of other data changes nothing. -/
theorem cleanupDel_nothing
    (shape : PoolShape pool h live outside)
    {data : Nat}
    (nowhere : ∀ r ∈ live, r.data ≠ data) :
    stkPoolCleanupDel data h = some h := by
  refine stkPoolCleanupDel_notFound shape.records ?_ ?_
  · intro record member
    obtain ⟨r, inLive, rfl⟩ := List.mem_map.mp member
    rw [shape.data r inLive]
    exact nowhere r inLive
  · rw [List.length_map]
    exact shape.length_le

/-- Zeroing a block that has no record leaves the records alone. -/
theorem memzero
    (shape : PoolShape pool h live outside)
    {address : Nat}
    (noRecord : address ∉ live.map Registration.record) :
    PoolShape pool (h.memzero address) live outside := by
  have other {r : Registration} (member : r ∈ live) :
      r.record ≠ address := by
    rintro rfl
    exact noRecord (List.mem_map_of_mem member)
  refine ⟨?_, ?_, ?_, shape.frees, shape.blocks, shape.nodup⟩
  · have apart :
        ∀ query ∈ Place.cleanup ::
            (live.map Registration.record).map Place.block,
          query ≠ .block address := by
      intro query member same
      subst query
      rcases List.mem_cons.mp member with head | inRecords
      · cases head
      · obtain ⟨record, inRecords, same⟩ := List.mem_map.mp inRecords
        cases same
        exact noRecord inRecords
    apply Ring.congr shape.records
    · intro query member
      exact (Links.setNext_next ..).trans (if_neg (apart query member))
    · intro query member
      exact (Links.setPrev_prev ..).trans (if_neg (apart query member))
  · intro r member
    exact (Function.update_of_ne (other member) ..).trans
      (shape.handler r member)
  · intro r member
    exact (Function.update_of_ne (other member) ..).trans
      (shape.data r member)

/-- A new pool has no records. -/
theorem create
    {h : Heap}
    (fresh : pool ∉ h.blocks)
    (nodup : h.blocks.Nodup) :
    PoolShape pool (stkCreatePool pool h) [] h.blocks where
  records := stkListInit_ring ..
  handler _ member := nomatch member
  data _ member := nomatch member
  frees _ member := nomatch member
  blocks := .refl _
  nodup := List.nodup_cons.mpr ⟨fresh, nodup⟩

end PoolShape

/-- A call on the pool, with the addresses that `malloc` returns to it. -/
inductive MemoryCall where
  | palloc (address cleanup : Option Nat)
  | pcalloc (address cleanup : Option Nat)
  | cleanupAdd (cleanup : Option Nat) (handler : Handler) (data : Nat)
  | cleanupDel (data : Nat)
  | reset
  deriving DecidableEq

/-- What a call returns. -/
inductive MemoryReturn where
  | pointer (p : Option Nat)
  | status (ret : Int)
  | void
  deriving DecidableEq

namespace MemoryCall

/-- The call of the function. -/
def run : MemoryCall → Heap → Option (MemoryReturn × Heap)
  | .palloc address cleanup, h =>
      some ((stkPalloc address cleanup h).map .pointer id)
  | .pcalloc address cleanup, h =>
      some ((stkPcalloc address cleanup h).map .pointer id)
  | .cleanupAdd cleanup handler data, h =>
      some ((stkPoolCleanupAdd cleanup handler data h).map .status id)
  | .cleanupDel data, h =>
      (stkPoolCleanupDel data h).map fun h => (.status 0, h)
  | .reset, h =>
      (stkResetPool h).map fun h => (.void, h)

/-- The registration that the call makes, if nothing fails. -/
def registers (number : Nat) : MemoryCall → Option Registration
  | .palloc address cleanup | .pcalloc address cleanup =>
      match address, cleanup with
      | some address, some record =>
          some
            { number := number
              record := record
              handler := .free
              data := address
              block := true }
      | _, _ =>
          none
  | .cleanupAdd cleanup handler data =>
      cleanup.map fun record =>
        { number := number
          record := record
          handler := handler
          data := data
          block := false }
  | .cleanupDel _ | .reset =>
      none

/-- What the call is on the stack of registrations. -/
def apply
    (call : MemoryCall)
    (s : Stack Registration) :
    Stack Registration :=
  match call with
  | .cleanupDel data =>
      s.take fun r => r.data = data
  | .reset =>
      s.drain
  | _ =>
      (call.registers s.made.length).elim s s.add

/-- What the call should return. -/
def returned : MemoryCall → MemoryReturn
  | .palloc address cleanup | .pcalloc address cleanup =>
      .pointer (if cleanup.isSome then address else none)
  | .cleanupAdd cleanup _ _ =>
      .status (if cleanup.isSome then 0 else -1)
  | .cleanupDel _ =>
      .status 0
  | .reset =>
      .void

/-- The registrations whose handlers the call runs. -/
def runs (live : List Registration) : MemoryCall → List Registration
  | .cleanupDel data =>
      (live.find? fun r => r.data = data).toList
  | .reset =>
      live
  | _ =>
      []

/-- The addresses that `malloc` returns to the call. -/
def addresses : MemoryCall → List Nat
  | .palloc address cleanup | .pcalloc address cleanup =>
      match address with
      | none =>
          []
      | some address =>
          address :: cleanup.toList
  | .cleanupAdd cleanup _ _ =>
      cleanup.toList
  | .cleanupDel _ | .reset =>
      []

end MemoryCall

/-- The heap with the pool, and the registrations that its ring stands for. -/
structure PoolUse where
  heap : Heap
  stack : Stack Registration

namespace PoolUse

/-- A new pool at an address. -/
def initial (pool : Nat) (h : Heap) : PoolUse where
  heap := stkCreatePool pool h
  stack := .empty

/-- One call. -/
def step (s : PoolUse) (call : MemoryCall) : Option PoolUse :=
  (call.run s.heap).map fun (_, heap) =>
    { heap := heap
      stack := call.apply s.stack }

/--
`malloc` returns new blocks, and the handlers that the call runs do not touch
the pool.
-/
def Guard (pool : Nat) (s : PoolUse) (call : MemoryCall) : Prop :=
  call.addresses.Nodup ∧
    (∀ address ∈ call.addresses, address ∉ s.heap.blocks) ∧
    Quiet pool s.stack.live (call.runs s.stack.live)

instance (pool : Nat) (s : PoolUse) (call : MemoryCall) :
    Decidable (s.Guard pool call) :=
  inferInstanceAs
    (Decidable
      (call.addresses.Nodup ∧
        (∀ address ∈ call.addresses, address ∉ s.heap.blocks) ∧
        Quiet pool s.stack.live (call.runs s.stack.live)))

end PoolUse

/-- `stk_palloc` returns `NULL` and changes nothing if an allocation fails. -/
theorem stkPalloc_fails
    {address cleanup : Option Nat}
    (fails : address = none ∨ cleanup = none)
    (h : Heap) :
    stkPalloc address cleanup h = (none, h) := by
  cases address with
  | none =>
      rfl
  | some address =>
      rcases fails with none | rfl
      · cases none
      · have freed : (h.malloc address).free address = h := by
          simp only [Heap.malloc, Heap.free, List.erase_cons_head]
        simp only [stkPalloc, stkPoolCleanupAdd, freed]
        rfl

/-- `stk_pcalloc` returns `NULL` and changes nothing if an allocation fails. -/
theorem stkPcalloc_fails
    {address cleanup : Option Nat}
    (fails : address = none ∨ cleanup = none)
    (h : Heap) :
    stkPcalloc address cleanup h = (none, h) := by
  rw [stkPcalloc, stkPalloc_fails fails]

namespace PoolShape

variable {pool address record : Nat}
variable {h : Heap}
variable {live : List Registration}
variable {outside : List Nat}

/-- `stk_palloc` registers the block that it returns. -/
theorem palloc
    (shape : PoolShape pool h live outside)
    (distinct : [address, record].Nodup)
    (fresh : ∀ block ∈ [address, record], block ∉ h.blocks)
    (number : Nat) :
    ∃ after,
      stkPalloc (some address) (some record) h = (some address, after) ∧
        PoolShape pool after (⟨number, record, .free, address, true⟩ :: live)
          outside ∧
        after.calls = h.calls := by
  have swap : [record, address].Perm [address, record] :=
    .swap ..
  have shapeAfter :=
    shape.add (r := ⟨number, record, .free, address, true⟩)
      (fun block member => fresh block (swap.mem_iff.mp member))
      (swap.nodup_iff.mpr distinct) fun _ => rfl
  exact ⟨_, rfl, shapeAfter, rfl⟩

/-- `stk_pcalloc` registers the block that it returns. -/
theorem pcalloc
    (shape : PoolShape pool h live outside)
    (distinct : [address, record].Nodup)
    (fresh : ∀ block ∈ [address, record], block ∉ h.blocks)
    (number : Nat) :
    ∃ after,
      stkPcalloc (some address) (some record) h = (some address, after) ∧
        PoolShape pool after (⟨number, record, .free, address, true⟩ :: live)
          outside ∧
        after.calls = h.calls := by
  obtain ⟨after, allocated, shapeAfter, calls⟩ :=
    shape.palloc distinct fresh number
  have noRecord :
      address ∉ record :: live.map Registration.record := by
    intro member
    rcases List.mem_cons.mp member with rfl | inLive
    · exact (List.nodup_cons.mp distinct).1 (List.mem_singleton_self _)
    · exact
        shape.fresh_record (fresh address (List.mem_cons_self ..)) inLive
  refine ⟨after.memzero address, ?_, shapeAfter.memzero noRecord, calls⟩
  rw [stkPcalloc, allocated]

end PoolShape

namespace PoolUse

variable {pool : Nat}
variable {s : PoolUse}
variable {outside : List Nat}

/-- Both allocations of a call succeed, or one of them fails. -/
theorem allocation_cases (address cleanup : Option Nat) :
    (address = none ∨ cleanup = none) ∨
      ∃ block record, address = some block ∧ cleanup = some record := by
  cases address with
  | none =>
      exact .inl (.inl rfl)
  | some block =>
      cases cleanup with
      | none =>
          exact .inl (.inr rfl)
      | some record =>
          exact .inr ⟨block, record, rfl, rfl⟩

/-- A failed allocation returns `NULL` and registers nothing. -/
theorem allocation_fails
    {address cleanup : Option Nat}
    (fails : address = none ∨ cleanup = none)
    (stack : Stack Registration) :
    (MemoryCall.palloc address cleanup).returned = .pointer none ∧
      (MemoryCall.palloc address cleanup).apply stack = stack := by
  rcases fails with rfl | rfl
  · refine ⟨?_, rfl⟩
    rw [MemoryCall.returned, ite_self]
  · cases address with
    | none =>
        exact ⟨rfl, rfl⟩
    | some block =>
        exact ⟨rfl, rfl⟩

/--
A call returns what it should, leaves the ring that stands for the new stack,
and runs the handlers of the registrations that it takes off.
-/
def Answers (pool : Nat) (s : PoolUse) (call : MemoryCall) : Prop :=
  ∃ heap outside,
    call.run s.heap = some (call.returned, heap) ∧
      PoolShape pool heap (call.apply s.stack).live outside ∧
      heap.calls =
        s.heap.calls ++ (call.runs s.stack.live).map Registration.call

/-- A call that runs no handler. -/
theorem answers_quietly
    {call : MemoryCall}
    {heap : Heap}
    (ran : call.run s.heap = some (call.returned, heap))
    (shape : PoolShape pool heap (call.apply s.stack).live outside)
    (calls : heap.calls = s.heap.calls)
    (noRuns : call.runs s.stack.live = []) :
    s.Answers pool call := by
  refine ⟨heap, outside, ran, shape, ?_⟩
  rw [calls, noRuns]
  exact (List.append_nil _).symm

/-- An allocation from the pool. -/
theorem palloc_answers
    (shape : PoolShape pool s.heap s.stack.live outside)
    {address cleanup : Option Nat}
    (guard : s.Guard pool (.palloc address cleanup)) :
    s.Answers pool (.palloc address cleanup) := by
  obtain ⟨distinct, fresh, -⟩ := guard
  rcases allocation_cases address cleanup with
    fails | ⟨block, record, rfl, rfl⟩
  · obtain ⟨returned, same⟩ := allocation_fails fails s.stack
    refine answers_quietly ?_ (same.symm ▸ shape) rfl rfl
    rw [returned, MemoryCall.run, stkPalloc_fails fails]
    rfl
  · obtain ⟨after, allocated, shapeAfter, calls⟩ :=
      shape.palloc distinct fresh s.stack.made.length
    refine answers_quietly ?_ shapeAfter calls rfl
    rw [MemoryCall.run, allocated]
    rfl

/-- An allocation from the pool that is zeroed. -/
theorem pcalloc_answers
    (shape : PoolShape pool s.heap s.stack.live outside)
    {address cleanup : Option Nat}
    (guard : s.Guard pool (.pcalloc address cleanup)) :
    s.Answers pool (.pcalloc address cleanup) := by
  obtain ⟨distinct, fresh, -⟩ := guard
  rcases allocation_cases address cleanup with
    fails | ⟨block, record, rfl, rfl⟩
  · obtain ⟨returned, same⟩ := allocation_fails fails s.stack
    refine answers_quietly ?_ (same.symm ▸ shape) rfl rfl
    rw [MemoryCall.run, stkPcalloc_fails fails]
    exact congrArg (fun returned => some (returned, s.heap)) returned.symm
  · obtain ⟨after, allocated, shapeAfter, calls⟩ :=
      shape.pcalloc distinct fresh s.stack.made.length
    refine answers_quietly ?_ shapeAfter calls rfl
    rw [MemoryCall.run, allocated]
    rfl

/-- `stk_pool_cleanup_del` takes a registration off, if it finds the data. -/
theorem cleanupDel_answers
    (shape : PoolShape pool s.heap s.stack.live outside)
    {data : Nat}
    (guard : s.Guard pool (.cleanupDel data)) :
    s.Answers pool (.cleanupDel data) := by
  obtain ⟨-, -, quiet⟩ := guard
  rcases Stack.wanted_cases (fun r => decide (r.data = data))
      s.stack.live with
    nothing | ⟨left, r, right, live, isWanted, notBefore⟩
  · have nowhere (r : Registration) (member : r ∈ s.stack.live) :
        r.data ≠ data := by
      simpa using nothing r member
    refine @answers_quietly _ _ outside _ s.heap ?_ ?_ rfl ?_
    · rw [MemoryCall.run, shape.cleanupDel_nothing nowhere]
      rfl
    · rw [MemoryCall.apply, Stack.take_none nothing]
      exact shape
    · rw [MemoryCall.runs, List.find?_eq_none.mpr nothing]
      rfl
  · have isData : r.data = data := of_decide_eq_true isWanted
    subst isData
    have before (other : Registration) (member : other ∈ left) :
        other.data ≠ r.data := by
      simpa using notBefore other member
    have found :
        (MemoryCall.cleanupDel r.data).runs s.stack.live = [r] := by
      have first :
          s.stack.live.find? (fun q => decide (q.data = r.data)) =
            some r :=
        Stack.find_first live isWanted notBefore
      rw [MemoryCall.runs, first]
      rfl
    rw [found, live] at quiet
    rw [live] at shape
    obtain ⟨outsideAfter, -, shapeAfter, calls⟩ :=
      shape.withoutRecord quiet
    rw [Answers, found, MemoryCall.run, shape.cleanupDel before,
      MemoryCall.apply, Stack.take_some live isWanted notBefore]
    exact ⟨_, outsideAfter, rfl, shapeAfter, calls⟩

/-- Every call answers. -/
theorem call_answers
    {call : MemoryCall}
    (shape : PoolShape pool s.heap s.stack.live outside)
    (guard : s.Guard pool call) :
    s.Answers pool call := by
  cases call with
  | palloc address cleanup =>
      exact palloc_answers shape guard
  | pcalloc address cleanup =>
      exact pcalloc_answers shape guard
  | cleanupAdd cleanup handler data =>
      obtain ⟨distinct, fresh, -⟩ := guard
      cases cleanup with
      | none =>
          exact answers_quietly rfl shape rfl rfl
      | some record =>
          have shapeAfter :=
            shape.add
              (r := ⟨s.stack.made.length, record, handler, data, false⟩)
              fresh distinct nofun
          exact answers_quietly rfl shapeAfter rfl rfl
  | cleanupDel data =>
      exact cleanupDel_answers shape guard
  | reset =>
      obtain ⟨-, -, quiet⟩ := guard
      have fits := Nat.lt_succ_of_le shape.length_le
      obtain ⟨after, outsideAfter, ended, -, shapeAfter, calls⟩ :=
        shape.resetLoop quiet fits
      refine ⟨after, outsideAfter, ?_, shapeAfter, calls⟩
      rw [MemoryCall.run, stkResetPool, ended]
      rfl

/-- A registration gets the number that it is asked for. -/
theorem registers_number
    {number : Nat}
    {call : MemoryCall}
    {r : Registration}
    (registers : call.registers number = some r) :
    r.number = number := by
  cases call with
  | palloc address cleanup =>
      cases address <;> cases cleanup <;> cases registers
      rfl
  | pcalloc address cleanup =>
      cases address <;> cases cleanup <;> cases registers
      rfl
  | cleanupAdd cleanup handler data =>
      cases cleanup <;> cases registers
      rfl
  | cleanupDel data =>
      cases registers
  | reset =>
      cases registers

/-- A call takes registrations off, or makes one, or does nothing. -/
theorem apply_cases (call : MemoryCall) (stack : Stack Registration) :
    (∃ data,
      call = .cleanupDel data ∧
        call.apply stack = stack.take fun r => r.data = data) ∨
      (call = .reset ∧ call.apply stack = stack.drain) ∨
      (call.runs stack.live = [] ∧ call.apply stack = stack) ∨
      ∃ r,
        r.number = stack.made.length ∧
          call.runs stack.live = [] ∧
          call.apply stack = stack.add r := by
  have made
      (noRuns : call.runs stack.live = [])
      (isMade :
        call.apply stack =
          (call.registers stack.made.length).elim stack stack.add) :
      (call.runs stack.live = [] ∧ call.apply stack = stack) ∨
        ∃ r,
          r.number = stack.made.length ∧
            call.runs stack.live = [] ∧
            call.apply stack = stack.add r := by
    cases registers : call.registers stack.made.length with
    | none =>
        rw [registers] at isMade
        exact .inl ⟨noRuns, isMade⟩
    | some r =>
        rw [registers] at isMade
        exact .inr ⟨r, registers_number registers, noRuns, isMade⟩
  cases call with
  | palloc address cleanup =>
      exact .inr (.inr (made rfl rfl))
  | pcalloc address cleanup =>
      exact .inr (.inr (made rfl rfl))
  | cleanupAdd cleanup handler data =>
      exact .inr (.inr (made rfl rfl))
  | cleanupDel data =>
      exact .inl ⟨data, rfl, rfl⟩
  | reset =>
      exact .inr (.inl ⟨rfl, rfl⟩)

/-- A call runs what it takes off, and keeps the rest. -/
theorem apply_ran (call : MemoryCall) (stack : Stack Registration) :
    (call.apply stack).ran = stack.ran ++ call.runs stack.live := by
  obtain ⟨data, rfl, applied⟩ | ⟨rfl, applied⟩ | ⟨noRuns, applied⟩ |
    ⟨r, -, noRuns, applied⟩ := apply_cases call stack
  · rw [applied]
    rcases Stack.wanted_cases (fun r => decide (r.data = data))
        stack.live with
      nothing | ⟨left, r, right, live, isWanted, notBefore⟩
    · rw [Stack.take_none nothing, MemoryCall.runs,
        List.find?_eq_none.mpr nothing]
      exact (List.append_nil _).symm
    · rw [Stack.take_some live isWanted notBefore, MemoryCall.runs,
        Stack.find_first live isWanted notBefore]
      rfl
  · rw [applied]
    rfl
  · rw [applied, noRuns, List.append_nil]
  · rw [applied, noRuns, List.append_nil]
    rfl

/-- A call keeps the stack balanced. -/
theorem apply_balanced
    {stack : Stack Registration}
    (balanced : stack.Balanced)
    (call : MemoryCall) :
    (call.apply stack).Balanced := by
  obtain ⟨data, -, applied⟩ | ⟨-, applied⟩ | ⟨-, applied⟩ |
    ⟨r, -, -, applied⟩ := apply_cases call stack
  · rw [applied]
    exact balanced.take _
  · rw [applied]
    exact balanced.drain
  · rw [applied]
    exact balanced
  · rw [applied]
    exact balanced.add r

/-- Registrations are numbered in the order in which they are made. -/
def Numbered (stack : Stack Registration) : Prop :=
  stack.made.map Registration.number = List.range stack.made.length

/-- A call goes on with the numbers. -/
theorem apply_numbered
    {stack : Stack Registration}
    (numbered : Numbered stack)
    (call : MemoryCall) :
    Numbered (call.apply stack) := by
  obtain ⟨data, -, applied⟩ | ⟨-, applied⟩ | ⟨-, applied⟩ |
    ⟨r, number, -, applied⟩ := apply_cases call stack
  · rw [applied, Numbered, Stack.take_made]
    exact numbered
  · rw [applied]
    exact numbered
  · rw [applied]
    exact numbered
  · rw [applied]
    show (stack.made ++ [r]).map Registration.number =
      List.range (stack.made ++ [r]).length
    rw [List.map_append, numbered, List.length_append, List.length_singleton,
      List.range_succ, ← number]
    rfl

/-- What holds of the pool between two calls. -/
structure Sound (pool : Nat) (before : Heap) (s : PoolUse) : Prop where
  shape : ∃ outside, PoolShape pool s.heap s.stack.live outside
  balanced : s.stack.Balanced
  numbered : Numbered s.stack
  calls : s.heap.calls = before.calls ++ s.stack.ran.map Registration.call

/-- A new pool is sound. -/
theorem sound_initial
    {before : Heap}
    (fresh : pool ∉ before.blocks)
    (nodup : before.blocks.Nodup) :
    (initial pool before).Sound pool before where
  shape := ⟨before.blocks, .create fresh nodup⟩
  balanced := .empty
  numbered := rfl
  calls := (List.append_nil _).symm

/-- A call keeps the pool sound. -/
theorem sound_step
    {before : Heap}
    {next : PoolUse}
    {call : MemoryCall}
    (sound : s.Sound pool before)
    (taken : Guarded (Guard pool) (Enabled step) s call next) :
    next.Sound pool before := by
  obtain ⟨guard, enabled⟩ := taken
  obtain ⟨outside, shape⟩ := sound.shape
  obtain ⟨heap, outsideAfter, ran, shapeAfter, calls⟩ :=
    call_answers shape guard
  have isNext :
      next = { heap := heap, stack := call.apply s.stack } := by
    rw [Enabled, step, ran, Option.map_some, Option.some.injEq] at enabled
    exact enabled.symm
  subst next
  refine ⟨⟨outsideAfter, shapeAfter⟩, apply_balanced sound.balanced call,
    apply_numbered sound.numbered call, ?_⟩
  show heap.calls = before.calls ++ (call.apply s.stack).ran.map _
  rw [calls, sound.calls, apply_ran, List.map_append, List.append_assoc]

/--
What has been run and what is left, and what each of the functions will do:
every registration that was made has been run once or is left.
-/
structure RunsOnce (pool : Nat) (before : Heap) (s : PoolUse) : Prop where
  calls : s.heap.calls = before.calls ++ s.stack.ran.map Registration.call
  once : (s.stack.ran ++ s.stack.live).Perm s.stack.made
  distinct : s.stack.made.Nodup
  recent : s.stack.live.reverse.Sublist s.stack.made
  records : s.heap.Records (s.stack.live.map Registration.record)
  /-- `stk_pool_cleanup_del` runs the most recent registration of the data. -/
  deletes :
    ∀ {left right : List Registration} {r : Registration},
      s.stack.live = left ++ r :: right →
      (∀ other ∈ left, other.data ≠ r.data) →
      Quiet pool s.stack.live [r] →
      ∃ heap,
        stkPoolCleanupDel r.data s.heap = some heap ∧
          heap.calls = s.heap.calls ++ [r.call] ∧
          heap.Records ((left ++ right).map Registration.record)
  unregistered :
    ∀ {data : Nat},
      (∀ r ∈ s.stack.live, r.data ≠ data) →
      stkPoolCleanupDel data s.heap = some s.heap
  resets :
    Quiet pool s.stack.live s.stack.live →
    ∃ heap,
      stkResetPool s.heap = some heap ∧
        heap.calls = s.heap.calls ++ s.stack.live.map Registration.call ∧
        heap.Records []
  /-- In the end every registration has been run, and every block is free. -/
  destroys :
    Quiet pool s.stack.live s.stack.live →
    ∃ heap,
      stkDestroyPool pool s.heap = some heap ∧
        heap.calls =
          before.calls ++
            (s.stack.ran ++ s.stack.live).map Registration.call ∧
        ∀ address ∈ ownedBlocks pool s.stack.live, address ∉ heap.blocks
  failedAlloc :
    ∀ {address cleanup : Option Nat},
      address = none ∨ cleanup = none →
      stkPalloc address cleanup s.heap = (none, s.heap) ∧
        stkPcalloc address cleanup s.heap = (none, s.heap)
  failedAdd :
    ∀ {handler : Handler} {data : Nat},
      stkPoolCleanupAdd none handler data s.heap = (-1, s.heap)

/-- Resetting a sound pool runs the handlers that are left. -/
theorem Sound.reset
    {before : Heap}
    (sound : s.Sound pool before)
    (quiet : Quiet pool s.stack.live s.stack.live) :
    ∃ heap outsideAfter,
      stkResetPool s.heap = some heap ∧
        PoolShape pool heap [] outsideAfter ∧
        heap.calls = s.heap.calls ++ s.stack.live.map Registration.call ∧
        ∀ address ∈ ownedBlocks pool s.stack.live,
          address ∉ outsideAfter := by
  obtain ⟨outside, shape⟩ := sound.shape
  obtain ⟨heap, outsideAfter, ended, sublist, shapeAfter, calls⟩ :=
    shape.resetLoop quiet (Nat.lt_succ_of_le shape.length_le)
  refine ⟨heap, outsideAfter, ended, shapeAfter, calls, ?_⟩
  intro address owned inOutside
  have apart := shape.blocks.nodup_iff.mp shape.nodup
  exact
    (List.nodup_append.mp apart).2.2 address owned address
      (sublist.subset inOutside) rfl

/-- Destroying a sound pool frees what the pool has allocated. -/
theorem Sound.destroy
    {before : Heap}
    (sound : s.Sound pool before)
    (quiet : Quiet pool s.stack.live s.stack.live) :
    ∃ heap,
      stkDestroyPool pool s.heap = some heap ∧
        heap.calls =
          before.calls ++
            (s.stack.ran ++ s.stack.live).map Registration.call ∧
        ∀ address ∈ ownedBlocks pool s.stack.live,
          address ∉ heap.blocks := by
  obtain ⟨heap, outsideAfter, ended, shape, calls, apart⟩ :=
    sound.reset quiet
  refine ⟨heap.free pool, ?_, ?_, ?_⟩
  · rw [stkDestroyPool, ended]
    rfl
  · show heap.calls = _
    rw [calls, sound.calls, List.map_append, List.append_assoc]
  · intro address owned inBlocks
    have left : (heap.free pool).blocks.Perm outsideAfter := by
      have blocks : heap.blocks.Perm (pool :: outsideAfter) := shape.blocks
      have poolGone := blocks.erase pool
      rw [List.erase_cons_head] at poolGone
      exact poolGone
    exact apart address owned (left.mem_iff.mp inBlocks)

/-- A sound pool runs each handler once. -/
theorem Sound.runsOnce
    {before : Heap}
    (sound : s.Sound pool before) :
    s.RunsOnce pool before := by
  obtain ⟨outside, shape⟩ := sound.shape
  refine
    { calls := sound.calls
      once := sound.balanced.once
      distinct := ?_
      recent := sound.balanced.recent
      records := shape.records
      deletes := ?_
      unregistered := fun nowhere => shape.cleanupDel_nothing nowhere
      resets := ?_
      destroys := sound.destroy
      failedAlloc := fun fails =>
        ⟨stkPalloc_fails fails _, stkPcalloc_fails fails _⟩
      failedAdd := rfl }
  · refine List.Nodup.of_map Registration.number ?_
    rw [sound.numbered]
    exact List.nodup_range
  · intro left right r live notBefore quiet
    rw [live] at shape quiet
    obtain ⟨_, -, shapeAfter, calls⟩ := shape.withoutRecord quiet
    exact
      ⟨_, shape.cleanupDel notBefore, calls, shapeAfter.records⟩
  · intro quiet
    obtain ⟨heap, _, ended, shapeAfter, calls, -⟩ := sound.reset quiet
    exact ⟨heap, ended, calls, shapeAfter.records⟩

/--
In every state that calls on a pool lead to, each registration has been run
once or is left for one of the calls that are described; and every further call
ends and returns what it should.
-/
theorem handlers_run_once
    {before : Heap}
    {calls : List MemoryCall}
    (fresh : pool ∉ before.blocks)
    (nodup : before.blocks.Nodup)
    (run :
      Run (Guarded (Guard pool) (Enabled step)) (initial pool before) calls
        s) :
    s.RunsOnce pool before ∧
      ∀ call,
        s.Guard pool call →
        ∃ heap, call.run s.heap = some (call.returned, heap) := by
  have sound : s.Sound pool before :=
    run.invariant (Sound pool before) sound_step
      (sound_initial fresh nodup)
  refine ⟨sound.runsOnce, ?_⟩
  intro call guard
  obtain ⟨outside, shape⟩ := sound.shape
  obtain ⟨heap, -, ran, -⟩ := call_answers shape guard
  exact ⟨heap, ran⟩

/-- A heap without blocks. -/
def bareHeap : Heap where
  links := { next := id, prev := id }
  handler := fun _ => .free
  data := fun _ => 0
  element := fun _ => 0
  blocks := []
  calls := []

/--
A block is registered a second time, an allocation fails half-way, and the
second registration is deleted.
-/
theorem handlers_run_once_twice_registered :
    (1 ∉ bareHeap.blocks ∧ bareHeap.blocks.Nodup) ∧
      ∃ s,
        Run (Guarded (Guard 1) (Enabled step)) (initial 1 bareHeap)
            [.palloc (some 2) (some 3), .cleanupAdd (some 4) (.other 7) 2,
              .pcalloc (some 5) none, .cleanupDel 2] s ∧
          (s.heap.calls = [(.other 7, 2)] ∧ s.heap.blocks = [3, 2, 1]) ∧
          s.RunsOnce 1 bareHeap := by
  have fresh : 1 ∉ bareHeap.blocks := List.not_mem_nil
  have nodup : bareHeap.blocks.Nodup := List.nodup_nil
  have sound
      {s : PoolUse}
      {call : MemoryCall}
      (checked : decide (s.Guard 1 call) = true) :
      s.Guard 1 call :=
    of_decide_eq_true checked
  have reached :
      ∃ s,
        Run (Guarded (Guard 1) (Enabled step)) (initial 1 bareHeap)
            [.palloc (some 2) (some 3), .cleanupAdd (some 4) (.other 7) 2,
              .pcalloc (some 5) none, .cleanupDel 2] s ∧
          s.heap.calls = [(.other 7, 2)] ∧ s.heap.blocks = [3, 2, 1] :=
    exec_guarded_reaches sound _ (by decide +kernel)
  obtain ⟨s, run, calls, blocks⟩ := reached
  exact
    ⟨⟨fresh, nodup⟩, s, run, ⟨calls, blocks⟩,
      (handlers_run_once fresh nodup run).1⟩

end PoolUse

end LdapProxy

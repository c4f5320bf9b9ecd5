import LdapProxy.LinkedRing
import Mathlib.Tactic.Tauto

namespace LdapProxy

open LdapProxy.LinkedRing

/-!
# Intrusive lists

The functions of `stk_list.h` on the link fields of all list nodes.  A head and
its nodes form a ring, and each function is one of the edits of a ring.
-/

variable {Node : Type*}
variable [DecidableEq Node]

/-- `stk_list_init` -/
def stkListInit (list : Node) (links : Links Node) : Links Node :=
  (links.setNext list list).setPrev list list

/-- `stk_list_empty` -/
def stkListEmpty (head : Node) (links : Links Node) : Bool :=
  links.next head = head

/-- `__list_add` -/
def listAdd (new prev next : Node) (links : Links Node) : Links Node :=
  let links := links.setPrev next new
  let links := links.setNext new next
  let links := links.setPrev new prev
  links.setNext prev new

/-- `stk_list_add` -/
def stkListAdd (new head : Node) (links : Links Node) : Links Node :=
  listAdd new head (links.next head) links

/-- `stk_list_add_tail` -/
def stkListAddTail (new head : Node) (links : Links Node) : Links Node :=
  listAdd new (links.prev head) head links

/-- `__stk_list_del` -/
def stkListDelBetween (prev next : Node) (links : Links Node) : Links Node :=
  let links := links.setNext prev next
  links.setPrev next prev

/-- `stk_list_del` -/
def stkListDel (entry : Node) (links : Links Node) : Links Node :=
  stkListDelBetween (links.prev entry) (links.next entry) links

/-- `stk_list_pop` -/
def stkListPop (head : Node) (links : Links Node) : Node × Links Node :=
  let entry := links.next head
  (entry, stkListDel entry links)

/-- `stk_list_pop_entry` -/
def stkListPopEntry (head : Node) (links : Links Node) :
    Option Node × Links Node :=
  if stkListEmpty head links then
    (none, links)
  else
    let (ptr, links) := stkListPop head links
    (some ptr, links)

/-- The `next` fields after a node is added at the end. -/
theorem stkListAddTail_next (new head query : Node) (links : Links Node) :
    (stkListAddTail new head links).next query =
      if query = links.prev head then new
      else if query = new then head
      else links.next query :=
  Links.link_next links new (links.prev head) head query

/-- The `prev` fields after a node is added at the end. -/
theorem stkListAddTail_prev (new head query : Node) (links : Links Node) :
    (stkListAddTail new head links).prev query =
      if query = new then links.prev head
      else if query = head then new
      else links.prev query :=
  Links.link_prev links new (links.prev head) head query

/-- The `next` fields after a node is deleted. -/
theorem stkListDel_next (entry query : Node) (links : Links Node) :
    (stkListDel entry links).next query =
      if query = links.prev entry then links.next entry
      else links.next query :=
  Links.unlink_next links (links.prev entry) (links.next entry) query

/-- The `prev` fields after a node is deleted. -/
theorem stkListDel_prev (entry query : Node) (links : Links Node) :
    (stkListDel entry links).prev query =
      if query = links.next entry then links.prev entry
      else links.prev query :=
  Links.unlink_prev links (links.prev entry) (links.next entry) query

variable {links : Links Node}
variable {head node : Node}
variable {members left right : List Node}

/-- The head of a new list is a ring of its own. -/
theorem stkListInit_ring (links : Links Node) (head : Node) :
    Ring (stkListInit head links) head [] := by
  apply Ring.nil_iff.mpr
  constructor
  · simp [stkListInit, Links.setNext_next]
  · simp [stkListInit, Links.setPrev_prev]

/-- A list is empty when its ring has no members. -/
theorem stkListEmpty_iff (ring : Ring links head members) :
    stkListEmpty head links = true ↔ members = [] := by
  unfold stkListEmpty
  rw [decide_eq_true_eq]
  exact ring.next_head_eq_iff

/-- `stk_list_add` puts the node in front. -/
theorem stkListAdd_ring
    (ring : Ring links head members)
    (fresh : node ∉ head :: members) :
    Ring (stkListAdd node head links) head (node :: members) :=
  ring.link_front fresh

/-- `stk_list_add_tail` puts the node at the end. -/
theorem stkListAddTail_ring
    (ring : Ring links head members)
    (fresh : node ∉ head :: members) :
    Ring (stkListAddTail node head links) head (members ++ [node]) :=
  ring.link_back fresh

/-- `stk_list_del` takes the node out. -/
theorem stkListDel_ring (ring : Ring links head (left ++ node :: right)) :
    Ring (stkListDel node links) head (left ++ right) :=
  ring.unlink

/-- `stk_list_pop_entry` finds nothing in an empty list. -/
theorem stkListPopEntry_nil (ring : Ring links head []) :
    stkListPopEntry head links = (none, links) := by
  rw [stkListPopEntry, if_pos ((stkListEmpty_iff ring).mpr rfl)]

/-- `stk_list_pop_entry` takes the first node out. -/
theorem stkListPopEntry_cons (ring : Ring links head (node :: members)) :
    stkListPopEntry head links = (some node, stkListDel node links) := by
  have full : ¬ stkListEmpty head links = true := by
    rw [stkListEmpty_iff ring]
    simp
  have first : links.next head = node := ring.next_head
  rw [stkListPopEntry, if_neg full, stkListPop, first]

variable {other : Node}
variable {others : List Node}

/-- Adding a node changes only the fields of the node and of its neighbours. -/
theorem listAdd_ring_other
    {new prev next : Node}
    (ring : Ring links other others)
    (newOutside : new ∉ other :: others)
    (prevOutside : prev ∉ other :: others)
    (nextOutside : next ∉ other :: others) :
    Ring (listAdd new prev next links) other others := by
  apply ring.congr
  · intro query member
    refine (Links.link_next links new prev next query).trans ?_
    rw [if_neg (ne_of_mem_of_not_mem member prevOutside),
      if_neg (ne_of_mem_of_not_mem member newOutside)]
  · intro query member
    refine (Links.link_prev links new prev next query).trans ?_
    rw [if_neg (ne_of_mem_of_not_mem member newOutside),
      if_neg (ne_of_mem_of_not_mem member nextOutside)]

/-- `stk_list_init` of a head outside of a list leaves the list alone. -/
theorem stkListInit_ring_other
    (ring : Ring links other others)
    (outside : head ∉ other :: others) :
    Ring (stkListInit head links) other others := by
  apply ring.congr
  · intro query member
    have different := ne_of_mem_of_not_mem member outside
    simp only [stkListInit, Links.setPrev_next, Links.setNext_next,
      if_neg different]
  · intro query member
    have different := ne_of_mem_of_not_mem member outside
    simp only [stkListInit, Links.setPrev_prev, Links.setNext_prev,
      if_neg different]

/-- `stk_list_add` on one list leaves another one alone. -/
theorem stkListAdd_ring_other
    (ring : Ring links head members)
    (otherRing : Ring links other others)
    (apart : ∀ query ∈ head :: members, query ∉ other :: others)
    (fresh : node ∉ other :: others) :
    Ring (stkListAdd node head links) other others := by
  apply listAdd_ring_other otherRing fresh
  · exact apart head (List.mem_cons_self ..)
  · exact apart _ ring.next_head_mem

/-- `stk_list_add_tail` on one list leaves another one alone. -/
theorem stkListAddTail_ring_other
    (ring : Ring links head members)
    (otherRing : Ring links other others)
    (apart : ∀ query ∈ head :: members, query ∉ other :: others)
    (fresh : node ∉ other :: others) :
    Ring (stkListAddTail node head links) other others := by
  apply listAdd_ring_other otherRing fresh
  · exact apart _ ring.prev_head_mem
  · exact apart head (List.mem_cons_self ..)

/-- `stk_list_del` of a node of one list leaves another one alone. -/
theorem stkListDel_ring_other
    (ring : Ring links head (left ++ node :: right))
    (otherRing : Ring links other others)
    (apart :
      ∀ query ∈ head :: (left ++ node :: right), query ∉ other :: others) :
    Ring (stkListDel node links) other others := by
  rcases ring.neighbours_mem with ⟨prevMember, nextMember⟩
  apply otherRing.congr
  · intro query member
    have outside : links.prev node ∉ other :: others := by
      apply apart
      simp only [List.mem_cons, List.mem_append] at prevMember ⊢
      tauto
    rw [stkListDel_next, if_neg (ne_of_mem_of_not_mem member outside)]
  · intro query member
    have outside : links.next node ∉ other :: others := by
      apply apart
      simp only [List.mem_cons, List.mem_append] at nextMember ⊢
      tauto
    rw [stkListDel_prev, if_neg (ne_of_mem_of_not_mem member outside)]

end LdapProxy

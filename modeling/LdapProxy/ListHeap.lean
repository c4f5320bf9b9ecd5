import LdapProxy.StkList
import LdapProxy.TransitionRun
import Mathlib.Data.Fintype.Basic
import Mathlib.Data.List.Basic

namespace LdapProxy

open LdapProxy.LinkedRing
open LdapProxy.Transition

/-!
# Any number of lists in one heap

Calls of the functions of `stk_list.h` on a heap with many heads and nodes,
beside the functional lists that the same calls make.  A call edits the ring of
one head; the rings of the other heads keep all their fields.
-/

/-- The list of every node that is a head. -/
abbrev Lists (Node : Type*) :=
  Node → Option (List Node)

/-- A call of one of the functions, with its arguments. -/
inductive ListCall (Node : Type*) where
  | init (head : Node)
  | add (node head : Node)
  | addTail (node head : Node)
  | del (node : Node)
  | popEntry (head : Node)

section Definitions

variable {Node : Type*}

/-- The node is on one of the lists. -/
def OnList (lists : Lists Node) (node : Node) : Prop :=
  ∃ head, node ∈ (lists head).getD []

/-- The node is not a head and on no list. -/
def Unused (lists : Lists Node) (node : Node) : Prop :=
  lists node = none ∧ ¬ OnList lists node

/-- The calls that the callers of the functions may make. -/
def Allowed (lists : Lists Node) : ListCall Node → Prop
  | .init head => Unused lists head ∨ lists head = some []
  | .add node head => (lists head).isSome ∧ Unused lists node
  | .addTail node head => (lists head).isSome ∧ Unused lists node
  | .del node => OnList lists node
  | .popEntry head => (lists head).isSome

/-- What a call returns, by the functional lists. -/
def ListCall.returned (lists : Lists Node) : ListCall Node → Option Node
  | .popEntry head => ((lists head).getD []).head?
  | _ => none

/-- The list that a call works on. -/
def ListCall.Concerns
    (lists : Lists Node)
    (call : ListCall Node)
    (head : Node) :
    Prop :=
  match call with
  | .init list => head = list
  | .add _ list => head = list
  | .addTail _ list => head = list
  | .del node => node ∈ (lists head).getD []
  | .popEntry list => head = list

variable [DecidableEq Node]

/-- What a call returns, and what it makes of the link fields. -/
def ListCall.run : ListCall Node → Links Node → Option Node × Links Node
  | .init head, links => (none, stkListInit head links)
  | .add node head, links => (none, stkListAdd node head links)
  | .addTail node head, links => (none, stkListAddTail node head links)
  | .del node, links => (none, stkListDel node links)
  | .popEntry head, links => stkListPopEntry head links

/-- What the call is on functional lists. -/
def ListCall.apply : ListCall Node → Lists Node → Lists Node
  | .init head, lists =>
      Function.update lists head (some [])
  | .add node head, lists =>
      Function.update lists head ((lists head).map (node :: ·))
  | .addTail node head, lists =>
      Function.update lists head ((lists head).map (· ++ [node]))
  | .del node, lists =>
      fun head => (lists head).map (·.erase node)
  | .popEntry head, lists =>
      Function.update lists head ((lists head).map List.tail)

section Decisions

variable [Fintype Node]

instance (lists : Lists Node) (node : Node) : Decidable (OnList lists node) :=
  inferInstanceAs (Decidable (∃ head, node ∈ (lists head).getD []))

instance (lists : Lists Node) (node : Node) : Decidable (Unused lists node) :=
  inferInstanceAs (Decidable (lists node = none ∧ ¬ OnList lists node))

instance (lists : Lists Node) :
    (call : ListCall Node) → Decidable (Allowed lists call)
  | .init head =>
      inferInstanceAs
        (Decidable (Unused lists head ∨ lists head = some []))
  | .add node head =>
      inferInstanceAs (Decidable ((lists head).isSome ∧ Unused lists node))
  | .addTail node head =>
      inferInstanceAs (Decidable ((lists head).isSome ∧ Unused lists node))
  | .del node =>
      inferInstanceAs (Decidable (OnList lists node))
  | .popEntry head =>
      inferInstanceAs (Decidable ((lists head).isSome = true))

end Decisions

/-- Every list after a node is removed from all of them. -/
theorem ListCall.apply_del (node head : Node) (lists : Lists Node) :
    (ListCall.del node).apply lists head =
      (lists head).map (·.erase node) :=
  rfl

end Definitions

/-- The link fields, and the functional lists that the same calls have made. -/
structure ListHeap (Node : Type*) where
  links : Links Node
  lists : Lists Node

namespace ListHeap

variable {Node : Type*}

/-- A heap without lists, with any contents. -/
def initial (links : Links Node) : ListHeap Node where
  links := links
  lists := fun _ => none

/-- The guard of a call. -/
def Guard (s : ListHeap Node) (call : ListCall Node) : Prop :=
  Allowed s.lists call

variable [DecidableEq Node]

/-- One call. -/
def step (s : ListHeap Node) (call : ListCall Node) : Option (ListHeap Node) :=
  some
    { links := (call.run s.links).2
      lists := call.apply s.lists }

end ListHeap

/-- Every head has the ring of its list, and no two rings share a node. -/
structure Linked
    {Node : Type*}
    (links : Links Node)
    (lists : Lists Node) :
    Prop where
  ring :
    ∀ {head : Node} {nodes : List Node},
      lists head = some nodes →
      Ring links head nodes
  apart :
    ∀ {head other : Node} {nodes others : List Node},
      lists head = some nodes →
      lists other = some others →
      other ≠ head →
      ∀ node ∈ head :: nodes, node ∉ other :: others

/-- What the loops over the lists visit. -/
structure Traversed
    {Node : Type*}
    (links : Links Node)
    (lists : Lists Node) :
    Prop where
  forward :
    ∀ {head : Node} {nodes : List Node},
      lists head = some nodes →
      links.Walk head (links.next head) nodes
  backward :
    ∀ {head : Node} {nodes : List Node},
      lists head = some nodes →
      links.flip.Walk head (links.prev head) nodes.reverse
  once :
    ∀ {head : Node} {nodes : List Node},
      lists head = some nodes →
      (head :: nodes).Nodup
  apart :
    ∀ {head other : Node} {nodes others : List Node},
      lists head = some nodes →
      lists other = some others →
      other ≠ head →
      ∀ node ∈ head :: nodes, node ∉ other :: others

/--
A call returns what it returns on functional lists, takes nothing from an empty
list, and changes no link of the lists that it does not work on.
-/
structure ListCall.Local
    {Node : Type*}
    [DecidableEq Node]
    (links : Links Node)
    (lists : Lists Node)
    (call : ListCall Node) :
    Prop where
  returns : (call.run links).1 = call.returned lists
  nothing :
    ∀ {head : Node},
      call = .popEntry head →
      lists head = some [] →
      call.run links = (none, links)
  frame :
    ∀ {other : Node} {others : List Node},
      lists other = some others →
      ¬ call.Concerns lists other →
      ∀ node ∈ other :: others,
        (call.run links).2.next node = links.next node ∧
          (call.run links).2.prev node = links.prev node

/--
The ring of one head is another one than before, and the rings of the other
heads are as they were.
-/
structure Edited
    {Node : Type*}
    [DecidableEq Node]
    (lists : Lists Node)
    (links : Links Node)
    (listsAfter : Lists Node)
    (head : Node)
    (nodes : List Node) :
    Prop where
  isUpdate : listsAfter = Function.update lists head (some nodes)
  ring : Ring links head nodes
  others :
    ∀ {other : Node} {others : List Node},
      lists other = some others →
      other ≠ head →
      Ring links other others
  apart :
    ∀ {other : Node} {others : List Node},
      lists other = some others →
      other ≠ head →
      ∀ node ∈ head :: nodes, node ∉ other :: others

section Calls

variable {Node : Type*}
variable {links : Links Node}
variable {lists : Lists Node}

/-- The loops over the rings of a heap. -/
theorem Linked.traversed (linked : Linked links lists) :
    Traversed links lists where
  forward isList := (linked.ring isList).walk
  backward isList := (linked.ring isList).walkBack
  once isList := (linked.ring isList).nodup
  apart := linked.apart

/-- A node of a list is on it. -/
theorem onList_of_mem
    {head node : Node}
    {nodes : List Node}
    (isList : lists head = some nodes)
    (member : node ∈ nodes) :
    OnList lists node :=
  ⟨head, by rw [isList]; exact member⟩

/-- An unused node is not in any ring. -/
theorem Unused.outside
    {node head : Node}
    {nodes : List Node}
    (unused : Unused lists node)
    (isList : lists head = some nodes) :
    node ∉ head :: nodes := by
  intro member
  rcases List.mem_cons.mp member with rfl | inNodes
  · cases isList.symm.trans unused.1
  · exact unused.2 (onList_of_mem isList inNodes)

/-- A new node next to the head is in no other ring. -/
theorem Linked.apart_insert
    {node head other : Node}
    {nodes others inserted : List Node}
    (linked : Linked links lists)
    (isList : lists head = some nodes)
    (unused : Unused lists node)
    (isOther : lists other = some others)
    (different : other ≠ head)
    (same : inserted.Perm (node :: nodes)) :
    ∀ query ∈ head :: inserted, query ∉ other :: others := by
  intro query member
  have apart := linked.apart isList isOther different
  rcases List.mem_cons.mp member with rfl | inInserted
  · exact apart query (List.mem_cons_self ..)
  · rcases List.mem_cons.mp (same.mem_iff.mp inInserted) with rfl | inNodes
    · exact unused.outside isOther
    · exact apart query (List.mem_cons_of_mem _ inNodes)

variable [DecidableEq Node]

/-- An edit of one ring keeps the rings apart. -/
theorem Edited.linked
    {linksAfter : Links Node}
    {listsAfter : Lists Node}
    {head : Node}
    {nodes : List Node}
    (edited : Edited lists linksAfter listsAfter head nodes)
    (linked : Linked links lists) :
    Linked linksAfter listsAfter := by
  obtain ⟨rfl, ring, others, apart⟩ := edited
  constructor
  · intro other members isList
    by_cases same : other = head
    · subst other
      rw [Function.update_self] at isList
      cases isList
      exact ring
    · rw [Function.update_of_ne same] at isList
      exact others isList same
  · intro first second firstNodes secondNodes isFirst isSecond different
    by_cases firstSame : first = head
    · subst first
      rw [Function.update_self] at isFirst
      cases isFirst
      rw [Function.update_of_ne different] at isSecond
      exact apart isSecond different
    · rw [Function.update_of_ne firstSame] at isFirst
      by_cases secondSame : second = head
      · subst second
        rw [Function.update_self] at isSecond
        cases isSecond
        intro node inFirst inSecond
        exact apart isFirst firstSame node inSecond inFirst
      · rw [Function.update_of_ne secondSame] at isSecond
        exact linked.apart isFirst isSecond different

/-- `stk_list_init` makes an empty ring. -/
theorem edited_init
    {head : Node}
    (linked : Linked links lists)
    (allowed : Allowed lists (.init head)) :
    Edited lists (stkListInit head links)
      ((ListCall.init head).apply lists) head [] := by
  have outside
      {other : Node}
      {others : List Node}
      (isOther : lists other = some others)
      (different : other ≠ head) :
      head ∉ other :: others := by
    rcases allowed with unused | isEmpty
    · exact unused.outside isOther
    · exact linked.apart isEmpty isOther different head
        (List.mem_singleton_self head)
  refine ⟨rfl, stkListInit_ring links head, ?_, ?_⟩
  · intro other others isOther different
    exact stkListInit_ring_other (linked.ring isOther)
      (outside isOther different)
  · intro other others isOther different node member
    rw [List.mem_singleton.mp member]
    exact outside isOther different

/-- `stk_list_add` puts the node in front of its list. -/
theorem edited_add
    {node head : Node}
    {nodes : List Node}
    (linked : Linked links lists)
    (isList : lists head = some nodes)
    (unused : Unused lists node) :
    Edited lists (stkListAdd node head links)
      ((ListCall.add node head).apply lists) head (node :: nodes) := by
  refine ⟨?_, ?_, ?_, ?_⟩
  · simp only [ListCall.apply, isList, Option.map_some]
  · exact stkListAdd_ring (linked.ring isList) (unused.outside isList)
  · intro other others isOther different
    exact stkListAdd_ring_other (linked.ring isList) (linked.ring isOther)
      (linked.apart isList isOther different) (unused.outside isOther)
  · intro other others isOther different
    exact linked.apart_insert isList unused isOther different (.refl _)

/-- `stk_list_add_tail` puts the node at the end of its list. -/
theorem edited_addTail
    {node head : Node}
    {nodes : List Node}
    (linked : Linked links lists)
    (isList : lists head = some nodes)
    (unused : Unused lists node) :
    Edited lists (stkListAddTail node head links)
      ((ListCall.addTail node head).apply lists) head (nodes ++ [node]) := by
  refine ⟨?_, ?_, ?_, ?_⟩
  · simp only [ListCall.apply, isList, Option.map_some]
  · exact stkListAddTail_ring (linked.ring isList) (unused.outside isList)
  · intro other others isOther different
    exact stkListAddTail_ring_other (linked.ring isList) (linked.ring isOther)
      (linked.apart isList isOther different) (unused.outside isOther)
  · intro other others isOther different
    exact linked.apart_insert isList unused isOther different
      (List.perm_append_singleton ..)

/-- Unlinking a node of a list is an edit, whatever the call is. -/
theorem edited_unlink
    {listsAfter : Lists Node}
    {node head : Node}
    {left right : List Node}
    (linked : Linked links lists)
    (isList : lists head = some (left ++ node :: right))
    (isUpdate :
      listsAfter = Function.update lists head (some (left ++ right))) :
    Edited lists (stkListDel node links) listsAfter head (left ++ right) := by
  refine ⟨isUpdate, stkListDel_ring (linked.ring isList), ?_, ?_⟩
  · intro other others isOther different
    exact stkListDel_ring_other (linked.ring isList) (linked.ring isOther)
      (linked.apart isList isOther different)
  · intro other others isOther different query member
    apply linked.apart isList isOther different query
    simp only [List.mem_cons, List.mem_append] at member ⊢
    tauto

/-- `stk_list_del` takes the node out of the list that it is on. -/
theorem edited_del
    {node : Node}
    (linked : Linked links lists)
    (onList : OnList lists node) :
    ∃ head nodes,
      node ∈ (lists head).getD [] ∧
        Edited lists (stkListDel node links)
          ((ListCall.del node).apply lists) head nodes := by
  obtain ⟨head, member⟩ := onList
  cases isList : lists head with
  | none =>
      rw [isList] at member
      exact (List.not_mem_nil member).elim
  | some nodes =>
      rw [isList] at member
      obtain ⟨left, right, rfl⟩ := List.append_of_mem member
      have ring := linked.ring isList
      have distinct := (List.nodup_cons.mp ring.nodup).2
      have notLeft : node ∉ left := fun inLeft =>
        (List.nodup_append.mp distinct).2.2 node inLeft node
          (List.mem_cons_self ..) rfl
      refine ⟨head, left ++ right, by rw [isList]; exact member,
        edited_unlink linked isList ?_⟩
      funext other
      by_cases same : other = head
      · subst other
        rw [ListCall.apply_del, Function.update_self, isList, Option.map_some,
          List.erase_append_right _ notLeft, List.erase_cons_head]
      · rw [ListCall.apply_del, Function.update_of_ne same]
        cases isOther : lists other with
        | none =>
            rfl
        | some others =>
            have outside :=
              linked.apart isList isOther same node
                (List.mem_cons_of_mem _ member)
            rw [Option.map_some, List.erase_of_not_mem fun inOthers =>
              outside (List.mem_cons_of_mem _ inOthers)]

/-- `stk_list_pop_entry` takes the first node out, if there is one. -/
theorem edited_popEntry
    {head : Node}
    {nodes : List Node}
    (linked : Linked links lists)
    (isList : lists head = some nodes) :
    Edited lists (stkListPopEntry head links).2
        ((ListCall.popEntry head).apply lists) head nodes.tail ∧
      (stkListPopEntry head links).1 = nodes.head? := by
  have ring := linked.ring isList
  have isUpdate :
      (ListCall.popEntry head).apply lists =
        Function.update lists head (some nodes.tail) := by
    simp only [ListCall.apply, isList, Option.map_some]
  cases nodes with
  | nil =>
      rw [stkListPopEntry_nil ring]
      refine ⟨⟨isUpdate, ring, ?_, ?_⟩, rfl⟩
      · intro other others isOther _
        exact linked.ring isOther
      · intro other others isOther different
        exact linked.apart isList isOther different
  | cons node rest =>
      have isListFrom : lists head = some ([] ++ node :: rest) := isList
      rw [stkListPopEntry_cons ring]
      exact ⟨edited_unlink linked isListFrom isUpdate, rfl⟩

/-- Every call edits the ring of one head, and returns what it should. -/
theorem call_edited
    {call : ListCall Node}
    (linked : Linked links lists)
    (allowed : Allowed lists call) :
    (call.run links).1 = call.returned lists ∧
      ∃ head nodes,
        call.Concerns lists head ∧
          Edited lists (call.run links).2 (call.apply lists) head nodes := by
  cases call with
  | init head =>
      exact ⟨rfl, head, _, rfl, edited_init linked allowed⟩
  | add node head =>
      obtain ⟨nodes, isList⟩ := Option.isSome_iff_exists.mp allowed.1
      exact ⟨rfl, head, _, rfl, edited_add linked isList allowed.2⟩
  | addTail node head =>
      obtain ⟨nodes, isList⟩ := Option.isSome_iff_exists.mp allowed.1
      exact ⟨rfl, head, _, rfl, edited_addTail linked isList allowed.2⟩
  | del node =>
      exact ⟨rfl, edited_del linked allowed⟩
  | popEntry head =>
      obtain ⟨nodes, isList⟩ := Option.isSome_iff_exists.mp allowed
      obtain ⟨edited, popped⟩ := edited_popEntry linked isList
      refine ⟨?_, head, _, rfl, edited⟩
      rw [ListCall.returned, isList]
      exact popped

end Calls

namespace ListHeap

variable {Node : Type*}
variable [DecidableEq Node]
variable {links : Links Node}
variable {calls : List (ListCall Node)}
variable {s : ListHeap Node}

omit [DecidableEq Node] in
/-- A heap without lists has no rings. -/
theorem linked_initial (links : Links Node) :
    Linked (initial links).links (initial links).lists where
  ring isList := nomatch isList
  apart isList := nomatch isList

/-- A call keeps the rings of the heap. -/
theorem linked_step
    {next : ListHeap Node}
    {call : ListCall Node}
    (linked : Linked s.links s.lists)
    (taken : Guarded Guard (Enabled step) s call next) :
    Linked next.links next.lists := by
  obtain ⟨allowed, isNext⟩ := taken
  cases isNext
  obtain ⟨-, head, nodes, -, edited⟩ := call_edited linked allowed
  exact edited.linked linked

/-- Every run keeps the rings of the heap. -/
theorem linked_run
    (run : Run (Guarded Guard (Enabled step)) (initial links) calls s) :
    Linked s.links s.lists :=
  run.invariant (fun s => Linked s.links s.lists) linked_step
    (linked_initial links)

/-- The lists are what the functional operations make of no lists. -/
theorem lists_run
    {before : ListHeap Node}
    (run : Run (Guarded Guard (Enabled step)) before calls s) :
    s.lists =
      calls.foldl (fun lists call => call.apply lists) before.lists := by
  induction run with
  | done =>
      rfl
  | next taken _ inductionHypothesis =>
      obtain ⟨-, isNext⟩ := taken
      cases isNext
      exact inductionHypothesis

/-- A call of a heap with separate rings works on one of them. -/
theorem call_local
    {call : ListCall Node}
    (linked : Linked s.links s.lists)
    (allowed : Allowed s.lists call) :
    call.Local s.links s.lists := by
  obtain ⟨returned, head, nodes, concerns, edited⟩ :=
    call_edited linked allowed
  refine ⟨returned, ?_, ?_⟩
  · rintro emptied rfl isEmpty
    exact stkListPopEntry_nil (linked.ring isEmpty)
  · intro other others isOther apart
    have different : other ≠ head := by
      rintro rfl
      exact apart concerns
    exact (linked.ring isOther).fields_eq (edited.others isOther different)

/--
In every heap that calls lead to, the loops visit the functional lists in both
directions, and so they will after any further call, which leaves the other
lists alone.
-/
theorem lists_are_functional
    (run : Run (Guarded Guard (Enabled step)) (initial links) calls s) :
    s.lists =
        calls.foldl (fun lists call => call.apply lists) (fun _ => none) ∧
      Traversed s.links s.lists ∧
      ∀ call, Allowed s.lists call → call.Local s.links s.lists := by
  have linked := linked_run run
  exact ⟨lists_run run, linked.traversed, fun _ => call_local linked⟩

/-- Two lists, and a node that is taken off one of them again. -/
theorem lists_are_functional_two :
    ∃ s : ListHeap (Fin 5),
      Run (Guarded Guard (Enabled step)) (initial ⟨fun _ => 4, fun _ => 4⟩)
          [.init 0, .init 1, .addTail 2 0, .add 3 0, .add 4 1, .popEntry 0]
          s ∧
        (s.lists 0 = some [2] ∧ s.lists 1 = some [4]) ∧
        Traversed s.links s.lists := by
  have sound
      {s : ListHeap (Fin 5)}
      {call : ListCall (Fin 5)}
      (checked : decide (Allowed s.lists call) = true) :
      Guard s call :=
    of_decide_eq_true (p := Allowed s.lists call) checked
  have reached :
      ∃ s : ListHeap (Fin 5),
        Run (Guarded Guard (Enabled step))
            (initial ⟨fun _ => 4, fun _ => 4⟩)
            [.init 0, .init 1, .addTail 2 0, .add 3 0, .add 4 1,
              .popEntry 0] s ∧
          s.lists 0 = some [2] ∧ s.lists 1 = some [4] :=
    exec_guarded_reaches sound _ (by decide +kernel)
  obtain ⟨s, run, lists⟩ := reached
  exact ⟨s, run, lists, (lists_are_functional run).2.1⟩

end ListHeap

end LdapProxy

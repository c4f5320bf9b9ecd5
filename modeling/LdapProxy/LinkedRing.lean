import Mathlib.Data.List.Chain
import Mathlib.Data.List.Nodup
import Mathlib.Logic.Function.Basic

namespace LdapProxy.LinkedRing

/-!
# Rings of doubly linked nodes

A circular list with a head node is written out as the closed path from the
head through its members back to the head.  In a path, neighbours are linked
both ways; no node is left twice and none is entered twice.  Linking a node in
and unlinking one are edits between two neighbours of a path, whatever stands
to the left and to the right of them.
-/

/-- The two link fields of every node. -/
@[ext] structure Links (Node : Type*) where
  next : Node → Node
  prev : Node → Node

variable {Node : Type*}

/-- The two nodes are linked to each other in this order. -/
def Links.Adjacent (links : Links Node) (before after : Node) : Prop :=
  links.next before = after ∧ links.prev after = before

section Assignments

variable [DecidableEq Node]

/-- `node->next = target` -/
def Links.setNext (links : Links Node) (node target : Node) : Links Node where
  next := Function.update links.next node target
  prev := links.prev

/-- `node->prev = target` -/
def Links.setPrev (links : Links Node) (node target : Node) : Links Node where
  next := links.next
  prev := Function.update links.prev node target

/-- Put a node between two neighbours, by four assignments. -/
def Links.link
    (links : Links Node)
    (node before after : Node) :
    Links Node :=
  (((links.setPrev after node).setNext node after).setPrev node
    before).setNext before node

/-- Make two nodes neighbours, by two assignments. -/
def Links.unlink (links : Links Node) (before after : Node) : Links Node :=
  (links.setNext before after).setPrev after before

@[simp] theorem Links.setNext_prev
    (links : Links Node)
    (node target query : Node) :
    (links.setNext node target).prev query = links.prev query :=
  rfl

@[simp] theorem Links.setPrev_next
    (links : Links Node)
    (node target query : Node) :
    (links.setPrev node target).next query = links.next query :=
  rfl

theorem Links.setNext_next
    (links : Links Node)
    (node target query : Node) :
    (links.setNext node target).next query =
      if query = node then target else links.next query :=
  Function.update_apply ..

theorem Links.setPrev_prev
    (links : Links Node)
    (node target query : Node) :
    (links.setPrev node target).prev query =
      if query = node then target else links.prev query :=
  Function.update_apply ..

/-- The `next` fields after a node is linked in. -/
theorem Links.link_next
    (links : Links Node)
    (node before after query : Node) :
    (links.link node before after).next query =
      if query = before then node
      else if query = node then after
      else links.next query := by
  simp only [link, setNext_next, setPrev_next]

/-- The `prev` fields after a node is linked in. -/
theorem Links.link_prev
    (links : Links Node)
    (node before after query : Node) :
    (links.link node before after).prev query =
      if query = node then before
      else if query = after then node
      else links.prev query := by
  simp only [link, setPrev_prev, setNext_prev]

/-- The `next` fields after a node is unlinked. -/
theorem Links.unlink_next
    (links : Links Node)
    (before after query : Node) :
    (links.unlink before after).next query =
      if query = before then after else links.next query := by
  simp only [unlink, setNext_next, setPrev_next]

/-- The `prev` fields after a node is unlinked. -/
theorem Links.unlink_prev
    (links : Links Node)
    (before after query : Node) :
    (links.unlink before after).prev query =
      if query = after then before else links.prev query := by
  simp only [unlink, setPrev_prev, setNext_prev]

end Assignments

/-- Linked neighbours, where no node is left twice and none entered twice. -/
structure Path (links : Links Node) (nodes : List Node) : Prop where
  linked : nodes.IsChain links.Adjacent
  left : nodes.dropLast.Nodup
  entered : nodes.tail.Nodup

/--
A chain reads `next` of all nodes but the last and `prev` of all nodes but the
first.
-/
theorem chain_congr
    {links other : Links Node}
    {nodes : List Node}
    (linked : nodes.IsChain links.Adjacent)
    (sameNext : ∀ node ∈ nodes.dropLast, other.next node = links.next node)
    (samePrev : ∀ node ∈ nodes.tail, other.prev node = links.prev node) :
    nodes.IsChain other.Adjacent := by
  induction nodes with
  | nil =>
      exact .nil
  | cons first rest inductionHypothesis =>
      cases rest with
      | nil =>
          exact .singleton first
      | cons second later =>
          rcases List.isChain_cons_cons.mp linked with ⟨adjacent, tail⟩
          apply List.isChain_cons_cons.mpr
          constructor
          · constructor
            · rw [sameNext first (by simp)]
              exact adjacent.1
            · rw [samePrev second (by simp)]
              exact adjacent.2
          · apply inductionHypothesis tail
            · intro node member
              exact sameNext node (by simp [member])
            · intro node member
              exact samePrev node (by simp_all)

/-- A chain fixes the fields that it reads. -/
theorem chain_fields_eq
    {links other : Links Node}
    {nodes : List Node}
    (linked : nodes.IsChain links.Adjacent)
    (same : nodes.IsChain other.Adjacent) :
    (∀ node ∈ nodes.dropLast, other.next node = links.next node) ∧
      ∀ node ∈ nodes.tail, other.prev node = links.prev node := by
  induction nodes with
  | nil =>
      exact ⟨nofun, nofun⟩
  | cons first rest inductionHypothesis =>
      cases rest with
      | nil =>
          exact ⟨nofun, nofun⟩
      | cons second later =>
          obtain ⟨adjacent, tail⟩ := List.isChain_cons_cons.mp linked
          obtain ⟨adjacentToo, tailToo⟩ := List.isChain_cons_cons.mp same
          obtain ⟨sameNext, samePrev⟩ := inductionHypothesis tail tailToo
          constructor
          · intro node member
            rcases List.mem_cons.mp member with rfl | inLater
            · exact adjacentToo.1.trans adjacent.1.symm
            · exact sameNext node inLater
          · intro node member
            rcases List.mem_cons.mp member with rfl | inLater
            · exact adjacentToo.2.trans adjacent.2.symm
            · exact samePrev node inLater

/-- A path is a path in every memory that has the same fields along it. -/
theorem Path.congr
    {links other : Links Node}
    {nodes : List Node}
    (path : Path links nodes)
    (sameNext : ∀ node ∈ nodes.dropLast, other.next node = links.next node)
    (samePrev : ∀ node ∈ nodes.tail, other.prev node = links.prev node) :
    Path other nodes where
  linked := chain_congr path.linked sameNext samePrev
  left := path.left
  entered := path.entered

/-- All but the last of a list with two marked neighbours. -/
theorem dropLast_marked
    (left : List Node)
    (before after : Node)
    (right : List Node) :
    (left ++ before :: after :: right).dropLast =
      left ++ before :: (after :: right).dropLast := by
  rw [List.dropLast_append_of_ne_nil (by simp)]
  rfl

/-- Around two neighbours, a path is two chains that avoid the gap. -/
theorem Path.around
    {links : Links Node}
    {left right : List Node}
    {before after : Node}
    (path : Path links (left ++ before :: after :: right)) :
    before ∉ left ∧
      before ∉ (after :: right).dropLast ∧
      after ∉ (left ++ [before]).tail ∧
      after ∉ right := by
  have sources := path.left
  rw [dropLast_marked] at sources
  have targets := path.entered
  refine ⟨?_, ?_, ?_, ?_⟩
  · exact fun member =>
      (List.nodup_append.mp sources).2.2 before member before
        (List.mem_cons_self ..) rfl
  · exact (List.nodup_cons.mp (List.nodup_append.mp sources).2.1).1
  · cases left with
    | nil =>
        simp
    | cons first rest =>
        intro member
        have split :
            (first :: rest ++ before :: after :: right).tail =
              (first :: rest ++ [before]).tail ++ after :: right := by
          simp
        rw [split] at targets
        exact (List.nodup_append.mp targets).2.2 after member after
          (List.mem_cons_self ..) rfl
  · cases left with
    | nil =>
        exact (List.nodup_cons.mp targets).1
    | cons first rest =>
        have shape : (rest ++ before :: after :: right).Nodup := targets
        have later := (List.nodup_append.mp shape).2.1
        exact (List.nodup_cons.mp (List.nodup_cons.mp later).2).1

section Edits

variable [DecidableEq Node]
variable {links : Links Node}
variable {node before after : Node}

/-- Linking a node in keeps the chain in front of the gap. -/
theorem chain_link_left
    {left : List Node}
    (linked : (left ++ [before]).IsChain links.Adjacent)
    (fresh : node ∉ left ++ [before])
    (beforeOnce : before ∉ left)
    (afterOutside : after ∉ (left ++ [before]).tail) :
    (left ++ [before]).IsChain (links.link node before after).Adjacent := by
  apply chain_congr linked
  · intro query member
    rw [List.dropLast_concat] at member
    have notNode : query ≠ node :=
      ne_of_mem_of_not_mem (List.mem_append_left _ member) fresh
    rw [Links.link_next, if_neg (ne_of_mem_of_not_mem member beforeOnce),
      if_neg notNode]
  · intro query member
    have notNode : query ≠ node :=
      ne_of_mem_of_not_mem (List.mem_of_mem_tail member) fresh
    rw [Links.link_prev, if_neg notNode,
      if_neg (ne_of_mem_of_not_mem member afterOutside)]

/-- Linking a node in keeps the chain behind the gap. -/
theorem chain_link_right
    {right : List Node}
    (linked : (after :: right).IsChain links.Adjacent)
    (fresh : node ∉ after :: right)
    (beforeOutside : before ∉ (after :: right).dropLast)
    (afterOnce : after ∉ right) :
    (after :: right).IsChain (links.link node before after).Adjacent := by
  apply chain_congr linked
  · intro query member
    have notNode : query ≠ node :=
      ne_of_mem_of_not_mem ((List.dropLast_sublist _).subset member) fresh
    rw [Links.link_next,
      if_neg (ne_of_mem_of_not_mem member beforeOutside), if_neg notNode]
  · intro query member
    have inRight : query ∈ right := member
    have notNode : query ≠ node :=
      ne_of_mem_of_not_mem (List.mem_cons_of_mem _ inRight) fresh
    rw [Links.link_prev, if_neg notNode,
      if_neg (ne_of_mem_of_not_mem inRight afterOnce)]

/-- A new node fits between two neighbours of a path. -/
theorem Path.link
    {left right : List Node}
    (path : Path links (left ++ before :: after :: right))
    (fresh : node ∉ left ++ before :: after :: right) :
    Path (links.link node before after)
      (left ++ before :: node :: after :: right) := by
  rcases path.around with
    ⟨beforeOnce, beforeOutside, afterOutside, afterOnce⟩
  rcases List.isChain_append_cons_cons.mp path.linked with
    ⟨chainLeft, -, chainRight⟩
  have freshLeft : node ∉ left ++ [before] := by simp_all
  have freshRight : node ∉ after :: right := by simp_all
  have notBefore : node ≠ before := by simp_all
  have notAfter : after ≠ node := by
    rintro rfl
    exact freshRight (List.mem_cons_self ..)
  constructor
  · apply List.isChain_append_cons_cons.mpr
    refine ⟨chain_link_left chainLeft freshLeft beforeOnce afterOutside,
      ⟨?_, ?_⟩, List.isChain_cons_cons.mpr ⟨⟨?_, ?_⟩,
      chain_link_right chainRight freshRight beforeOutside afterOnce⟩⟩
    · rw [Links.link_next, if_pos rfl]
    · rw [Links.link_prev, if_pos rfl]
    · rw [Links.link_next, if_neg notBefore, if_pos rfl]
    · rw [Links.link_prev, if_neg notAfter, if_pos rfl]
  · have sources := path.left
    rw [dropLast_marked] at sources ⊢
    rw [List.append_cons] at sources ⊢
    apply List.nodup_middle.mpr
    apply List.nodup_cons.mpr
    refine ⟨?_, sources⟩
    intro member
    rcases List.mem_append.mp member with inLeft | inRight
    · exact freshLeft inLeft
    · exact freshRight ((List.dropLast_sublist _).subset inRight)
  · have targets := path.entered
    rw [List.append_cons] at targets ⊢
    rw [List.tail_append_of_ne_nil (by simp)] at targets ⊢
    apply List.nodup_middle.mpr
    apply List.nodup_cons.mpr
    refine ⟨?_, targets⟩
    intro member
    rcases List.mem_append.mp member with inLeft | inRight
    · exact freshLeft (List.mem_of_mem_tail inLeft)
    · exact freshRight inRight

/-- A node between two neighbours of a path can be unlinked. -/
theorem Path.unlink
    {left right : List Node}
    (path : Path links (left ++ before :: node :: after :: right)) :
    Path (links.unlink before after) (left ++ before :: after :: right) := by
  rcases path.around with ⟨beforeOnce, beforeOutside, -, -⟩
  have shifted : Path links ((left ++ [before]) ++ node :: after :: right) := by
    rw [← List.append_cons]
    exact path
  rcases shifted.around with ⟨-, -, afterOutside, afterOnce⟩
  rcases List.isChain_append_cons_cons.mp path.linked with
    ⟨chainLeft, -, chainNode⟩
  have chainRight := (List.isChain_cons_cons.mp chainNode).2
  rw [List.tail_append_of_ne_nil (by simp)] at afterOutside
  constructor
  · apply List.isChain_append_cons_cons.mpr
    refine ⟨?_, ⟨?_, ?_⟩, ?_⟩
    · apply chain_congr chainLeft
      · intro query member
        rw [List.dropLast_concat] at member
        rw [Links.unlink_next,
          if_neg (ne_of_mem_of_not_mem member beforeOnce)]
      · intro query member
        have notAfter : query ≠ after := by
          rintro rfl
          exact afterOutside (List.mem_append_left _ member)
        rw [Links.unlink_prev, if_neg notAfter]
    · rw [Links.unlink_next, if_pos rfl]
    · rw [Links.unlink_prev, if_pos rfl]
    · apply chain_congr chainRight
      · intro query member
        have notBefore : query ≠ before := by
          rintro rfl
          exact beforeOutside (List.mem_cons_of_mem _ member)
        rw [Links.unlink_next, if_neg notBefore]
      · intro query member
        have inRight : query ∈ right := member
        rw [Links.unlink_prev,
          if_neg (ne_of_mem_of_not_mem inRight afterOnce)]
  · refine List.Nodup.sublist ?_ path.left
    rw [dropLast_marked, dropLast_marked]
    refine (List.Sublist.refl left).append (List.Sublist.cons_cons _ ?_)
    exact List.sublist_cons_self ..
  · refine List.Nodup.sublist ?_ path.entered
    apply List.Sublist.tail
    refine (List.Sublist.refl left).append (List.Sublist.cons_cons _ ?_)
    exact List.sublist_cons_self ..

end Edits

/-- The members of a ring, in the order in which `next` visits them. -/
def Ring
    (links : Links Node)
    (head : Node)
    (members : List Node) :
    Prop :=
  Path links (head :: (members ++ [head]))

/-- Following `next` from the head visits these nodes and returns. -/
def Links.Visits
    (links : Links Node)
    (head : Node)
    (visited : List Node) :
    Prop :=
  (head :: (visited ++ [head])).IsChain fun node following =>
    links.next node = following

instance
    [DecidableEq Node]
    (links : Links Node)
    (head : Node)
    (visited : List Node) :
    Decidable (links.Visits head visited) :=
  inferInstanceAs (Decidable (List.IsChain ..))

namespace Ring

variable {links other : Links Node}
variable {head node : Node}
variable {members left right : List Node}

/-- The head and the members are pairwise different. -/
theorem nodup (ring : Ring links head members) : (head :: members).Nodup := by
  have sources := ring.left
  rw [← List.cons_append, List.dropLast_concat] at sources
  exact sources

/-- A chain of different nodes that returns to its head is a ring. -/
theorem of_chain
    (linked : (head :: (members ++ [head])).IsChain links.Adjacent)
    (distinct : (head :: members).Nodup) :
    Ring links head members := by
  refine ⟨linked, ?_, ?_⟩
  · rw [← List.cons_append, List.dropLast_concat]
    exact distinct
  · exact (List.perm_append_singleton ..).nodup_iff.mpr distinct

/-- A head that is linked to itself is a ring without members. -/
theorem nil_iff :
    Ring links head [] ↔ links.Adjacent head head := by
  constructor
  · intro ring
    exact List.isChain_pair.mp ring.linked
  · intro adjacent
    exact of_chain (List.isChain_pair.mpr adjacent) (List.nodup_singleton _)

/-- The head points to the first member, or back to itself. -/
theorem next_head (ring : Ring links head members) :
    links.next head = members.headD head := by
  cases members with
  | nil =>
      exact (nil_iff.mp ring).1
  | cons first rest =>
      exact (List.isChain_cons_cons.mp ring.linked).1.1

/-- The node behind the head is in the ring. -/
theorem next_head_mem (ring : Ring links head members) :
    links.next head ∈ head :: members := by
  rw [ring.next_head]
  cases members with
  | nil =>
      exact List.mem_cons_self ..
  | cons first rest =>
      exact List.mem_cons_of_mem _ (List.mem_cons_self ..)

/-- The node in front of the head is in the ring. -/
theorem prev_head_mem (ring : Ring links head members) :
    links.prev head ∈ head :: members := by
  obtain ⟨back, before, backEq⟩ :=
    (List.eq_nil_or_concat (head :: members)).resolve_left (by simp)
  rw [List.concat_eq_append] at backEq
  have path : Path links (back ++ before :: head :: []) := by
    rw [List.append_cons, ← backEq]
    exact ring
  rw [(List.isChain_append_cons_cons.mp path.linked).2.1.2, backEq]
  exact List.mem_append_right _ (List.mem_singleton_self _)

/-- The head points to itself exactly when the ring has no members. -/
theorem next_head_eq_iff (ring : Ring links head members) :
    links.next head = head ↔ members = [] := by
  rw [ring.next_head]
  cases members with
  | nil =>
      simp
  | cons first rest =>
      have different : first ≠ head := by
        have distinct := ring.nodup
        simp only [List.nodup_cons, List.mem_cons, not_or] at distinct
        exact Ne.symm distinct.1.1
      simp [different]

/-- A ring is a ring in every memory that has the same fields at its nodes. -/
theorem congr
    (ring : Ring links head members)
    (sameNext :
      ∀ query ∈ head :: members, other.next query = links.next query)
    (samePrev :
      ∀ query ∈ head :: members, other.prev query = links.prev query) :
    Ring other head members := by
  apply Path.congr ring
  · intro query member
    rw [← List.cons_append, List.dropLast_concat] at member
    exact sameNext query member
  · intro query member
    apply samePrev query
    exact (List.perm_append_singleton ..).mem_iff.mp member

/-- A ring fixes both fields of each of its nodes. -/
theorem fields_eq
    (ring : Ring links head members)
    (same : Ring other head members) :
    ∀ query ∈ head :: members,
      other.next query = links.next query ∧
        other.prev query = links.prev query := by
  obtain ⟨sameNext, samePrev⟩ := chain_fields_eq ring.linked same.linked
  intro query member
  constructor
  · apply sameNext
    rw [← List.cons_append, List.dropLast_concat]
    exact member
  · apply samePrev
    exact (List.perm_append_singleton ..).mem_iff.mpr member

/-- The closed path through a marked member. -/
theorem split (ring : Ring links head (left ++ node :: right)) :
    ∃ back before after ahead,
      head :: left = back ++ [before] ∧
        right ++ [head] = after :: ahead ∧
        Path links (back ++ before :: node :: after :: ahead) := by
  obtain ⟨back, before, backEq⟩ :=
    (List.eq_nil_or_concat (head :: left)).resolve_left (by simp)
  obtain ⟨after, ahead, aheadEq⟩ :=
    List.exists_cons_of_ne_nil
      (show right ++ [head] ≠ [] by simp)
  rw [List.concat_eq_append] at backEq
  have shape :
      head :: (left ++ node :: right ++ [head]) =
        back ++ before :: node :: after :: ahead := by
    rw [← aheadEq, List.append_cons back before, ← backEq]
    simp
  refine ⟨back, before, after, ahead, backEq, aheadEq, ?_⟩
  rw [← shape]
  exact ring

/-- The neighbours of a member are nodes of the ring. -/
theorem neighbours_mem (ring : Ring links head (left ++ node :: right)) :
    links.prev node ∈ head :: left ∧
      links.next node ∈ right ++ [head] := by
  obtain ⟨back, before, after, ahead, backEq, aheadEq, path⟩ := ring.split
  rcases List.isChain_append_cons_cons.mp path.linked with
    ⟨-, entering, chain⟩
  rw [entering.2, (List.isChain_cons_cons.mp chain).1.1, backEq, aheadEq]
  simp

/-- The node in front of a member that is not the first one. -/
theorem prev_mem
    {middle : List Node}
    (ring : Ring links head (left ++ middle ++ node :: right))
    (notEmpty : middle ≠ []) :
    links.prev node ∈ middle := by
  obtain ⟨back, before, backEq⟩ :=
    (List.eq_nil_or_concat middle).resolve_left notEmpty
  rw [List.concat_eq_append] at backEq
  subst backEq
  have shape :
      head :: (left ++ (back ++ [before]) ++ node :: right ++ [head]) =
        (head :: (left ++ back)) ++ before :: node :: (right ++ [head]) := by
    simp
  have linked := ring.linked
  rw [shape] at linked
  rw [(List.isChain_append_cons_cons.mp linked).2.1.2]
  exact List.mem_append_right _ (List.mem_singleton_self _)

/-- Following `next` from the head visits the members. -/
theorem visits (ring : Ring links head members) :
    links.Visits head members :=
  ring.linked.imp fun _ _ adjacent => adjacent.1

/-- Two walks from one node to the same end visit the same nodes. -/
theorem walk_unique
    {start : Node}
    {first second : List Node}
    (firstWalk :
      (start :: (first ++ [head])).IsChain fun node following =>
        links.next node = following)
    (secondWalk :
      (start :: (second ++ [head])).IsChain fun node following =>
        links.next node = following)
    (firstOpen : head ∉ first)
    (secondOpen : head ∉ second) :
    first = second := by
  induction first generalizing start second with
  | nil =>
      cases second with
      | nil =>
          rfl
      | cons other rest =>
          have ends := List.isChain_pair.mp firstWalk
          have goes := (List.isChain_cons_cons.mp secondWalk).1
          exact absurd (ends ▸ goes ▸ List.mem_cons_self ..) secondOpen
  | cons here rest inductionHypothesis =>
      have goes := (List.isChain_cons_cons.mp firstWalk).1
      cases second with
      | nil =>
          have ends := List.isChain_pair.mp secondWalk
          exact absurd (ends ▸ goes ▸ List.mem_cons_self ..) firstOpen
      | cons other later =>
          have same : other = here :=
            (List.isChain_cons_cons.mp secondWalk).1.symm.trans goes
          subst other
          rw [inductionHypothesis (List.isChain_cons_cons.mp firstWalk).2
            (List.isChain_cons_cons.mp secondWalk).2
            (fun member => firstOpen (List.mem_cons_of_mem _ member))
            (fun member => secondOpen (List.mem_cons_of_mem _ member))]

/-- The members of a ring are what one visits from its head. -/
theorem eq_visited
    {visited : List Node}
    (ring : Ring links head members)
    (walk : links.Visits head visited)
    (headOnce : head ∉ visited) :
    members = visited :=
  walk_unique ring.visits walk (List.nodup_cons.mp ring.nodup).1 headOnce

variable [DecidableEq Node]

/-- Unlinking a member leaves the ring of the others. -/
theorem unlink (ring : Ring links head (left ++ node :: right)) :
    Ring (links.unlink (links.prev node) (links.next node)) head
      (left ++ right) := by
  obtain ⟨back, before, after, ahead, backEq, aheadEq, path⟩ := ring.split
  rcases List.isChain_append_cons_cons.mp path.linked with
    ⟨-, entering, chain⟩
  have leaving := (List.isChain_cons_cons.mp chain).1
  have shape :
      head :: (left ++ right ++ [head]) =
        back ++ before :: after :: ahead := by
    rw [List.append_assoc, aheadEq, ← List.cons_append, backEq]
    simp
  have shorter := path.unlink
  rw [entering.2, leaving.1, Ring, shape]
  exact shorter

/-- A new node becomes the first member. -/
theorem link_front
    (ring : Ring links head members)
    (fresh : node ∉ head :: members) :
    Ring (links.link node head (links.next head)) head (node :: members) := by
  have outside : node ∉ head :: (members ++ [head]) := by simp_all
  obtain ⟨after, ahead, aheadEq⟩ :=
    List.exists_cons_of_ne_nil
      (show members ++ [head] ≠ [] by simp)
  have path : Path links ([] ++ head :: after :: ahead) := by
    rw [List.nil_append, ← aheadEq]
    exact ring
  have pointed : links.next head = after :=
    (List.isChain_cons_cons.mp path.linked).1.1
  rw [aheadEq] at outside
  have longer := path.link outside
  rw [List.nil_append, ← aheadEq] at longer
  rw [pointed]
  exact longer

/-- A new node becomes the last member. -/
theorem link_back
    (ring : Ring links head members)
    (fresh : node ∉ head :: members) :
    Ring (links.link node (links.prev head) head) head
      (members ++ [node]) := by
  have outside : node ∉ head :: members ++ [head] := by simp_all
  obtain ⟨back, before, backEq⟩ :=
    (List.eq_nil_or_concat (head :: members)).resolve_left (by simp)
  rw [List.concat_eq_append] at backEq
  have path : Path links (back ++ before :: head :: []) := by
    rw [List.append_cons, ← backEq]
    exact ring
  have pointed : links.prev head = before :=
    (List.isChain_append_cons_cons.mp path.linked).2.1.2
  rw [backEq, ← List.append_cons] at outside
  have longer := path.link outside
  have shape :
      head :: (members ++ [node] ++ [head]) =
        back ++ before :: node :: head :: [] := by
    rw [List.append_cons back, ← backEq]
    simp
  rw [pointed, Ring, shape]
  exact longer

end Ring

/--
The nodes that a loop visits which starts at a node and follows `next` until it
comes to the head.
-/
inductive Links.Walk (links : Links Node) (head : Node) :
    Node → List Node → Prop where
  | arrived :
      Links.Walk links head head []
  | visit {node : Node} {rest : List Node} :
      node ≠ head →
      Links.Walk links head (links.next node) rest →
      Links.Walk links head node (node :: rest)

/-- The links with `next` and `prev` exchanged. -/
def Links.flip (links : Links Node) : Links Node where
  next := links.prev
  prev := links.next

namespace Links.Walk

variable {links : Links Node}
variable {head start : Node}
variable {nodes : List Node}

/-- A chain of `next` fields that ends at the head is a loop. -/
theorem of_chain
    {before : Node}
    (linked :
      (before :: (nodes ++ [head])).IsChain fun node following =>
        links.next node = following)
    (headOnce : head ∉ nodes) :
    links.Walk head (links.next before) nodes := by
  induction nodes generalizing before with
  | nil =>
      rw [List.isChain_pair.mp linked]
      exact .arrived
  | cons node rest inductionHypothesis =>
      obtain ⟨first, later⟩ := List.isChain_cons_cons.mp linked
      rw [List.mem_cons, not_or] at headOnce
      rw [first]
      exact .visit (Ne.symm headOnce.1)
        (inductionHypothesis later headOnce.2)

end Links.Walk

namespace Ring

variable {links : Links Node}
variable {head : Node}
variable {members : List Node}

/-- Following `next` from the head visits every member once. -/
theorem walk (ring : Ring links head members) :
    links.Walk head (links.next head) members :=
  .of_chain ring.visits (List.nodup_cons.mp ring.nodup).1

/-- With `next` and `prev` exchanged, a ring is visited backwards. -/
theorem flip (ring : Ring links head members) :
    Ring links.flip head members.reverse := by
  refine of_chain ?_ ?_
  · have backwards :=
      List.isChain_reverse.mpr ring.linked
    simp only [List.reverse_cons, List.reverse_append, List.reverse_nil,
      List.nil_append, List.cons_append] at backwards
    exact backwards.imp fun _ _ adjacent => ⟨adjacent.2, adjacent.1⟩
  · have nodup := ring.nodup
    rw [List.nodup_cons] at nodup ⊢
    exact ⟨by rw [List.mem_reverse]; exact nodup.1,
      List.nodup_reverse.mpr nodup.2⟩

/-- Following `prev` from the head visits every member once. -/
theorem walkBack (ring : Ring links head members) :
    links.flip.Walk head (links.prev head) members.reverse :=
  ring.flip.walk

end Ring

end LdapProxy.LinkedRing

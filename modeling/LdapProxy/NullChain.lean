import Mathlib.Tactic

namespace LdapProxy.NullChain

/-!
# Chains that end in a null pointer

A singly linked chain as a table of next pointers: `none` is the null pointer.
A chain is determined by its first pointer, so it visits no node twice; pushing
a fresh node and taking the first one are the only edits.
-/

variable {Node : Type*}
variable {data other : Node → Option Node}
variable {start : Option Node}
variable {node : Node}
variable {members rest : List Node}

/--
Following `data` from `start` visits `members` and ends in a null pointer.
-/
inductive Chain (data : Node → Option Node) :
    Option Node → List Node → Prop where
  | null :
      Chain data none []
  | next {node : Node} {rest : List Node} :
      Chain data (data node) rest →
      Chain data (some node) (node :: rest)

namespace Chain

/-- A chain from a null pointer visits nothing. -/
theorem null_iff (chain : Chain data start members) :
    start = none ↔ members = [] := by
  cases chain with
  | null =>
      exact ⟨fun _ => rfl, fun _ => rfl⟩
  | next _ =>
      constructor
      · intro isNull
        cases isNull
      · intro empty
        cases empty

/-- A chain from a node visits it first. -/
theorem taken (chain : Chain data (some node) members) :
    ∃ rest, members = node :: rest ∧ Chain data (data node) rest := by
  cases chain with
  | next later =>
      exact ⟨_, rfl, later⟩

/-- A chain is determined by its first pointer. -/
theorem unique
    (first : Chain data start members)
    (second : Chain data start rest) :
    members = rest := by
  induction first generalizing rest with
  | null =>
      exact (second.null_iff.mp rfl).symm
  | next _ inductionHypothesis =>
      obtain ⟨later, rfl, chain⟩ := second.taken
      rw [inductionHypothesis chain]

/-- Only the pointers of the nodes visited matter. -/
theorem congr
    (chain : Chain data start members)
    (same : ∀ node ∈ members, other node = data node) :
    Chain other start members := by
  induction chain with
  | null =>
      exact .null
  | @next node rest _ inductionHypothesis =>
      apply Chain.next
      rw [same node (List.mem_cons_self ..)]
      exact
        inductionHypothesis fun later member =>
          same later (List.mem_cons_of_mem _ member)

/-- A fresh node that points to the start of a chain extends it. -/
theorem push
    [DecidableEq Node]
    (chain : Chain data start members)
    (fresh : node ∉ members) :
    Chain (Function.update data node start) (some node) (node :: members) := by
  apply Chain.next
  rw [Function.update_self]
  apply chain.congr
  intro later member
  apply Function.update_of_ne
  rintro rfl
  exact fresh member

/-- From every node visited, the rest of the chain is a chain. -/
theorem suffix
    (chain : Chain data start members)
    (member : node ∈ members) :
    ∃ later, later <:+ members ∧ Chain data (some node) later := by
  induction chain with
  | null =>
      cases member
  | @next first rest chain inductionHypothesis =>
      rcases List.mem_cons.mp member with rfl | inRest
      · exact ⟨_, List.suffix_refl _, .next chain⟩
      · obtain ⟨later, isSuffix, laterChain⟩ := inductionHypothesis inRest
        exact ⟨later, isSuffix.trans (List.suffix_cons ..), laterChain⟩

/-- A chain that ends is acyclic: it visits no node twice. -/
theorem nodup (chain : Chain data start members) : members.Nodup := by
  induction chain with
  | null =>
      exact List.nodup_nil
  | @next node rest chain inductionHypothesis =>
      refine List.nodup_cons.mpr ⟨?_, inductionHypothesis⟩
      intro again
      obtain ⟨later, isSuffix, laterChain⟩ := chain.suffix again
      have same : later = node :: rest := laterChain.unique (.next chain)
      have short := isSuffix.length_le
      rw [same, List.length_cons] at short
      exact Nat.not_succ_le_self _ short

end Chain

end LdapProxy.NullChain

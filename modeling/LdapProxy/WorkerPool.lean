import Mathlib.Algebra.BigOperators.Group.Finset.Basic
import Mathlib.Algebra.Order.Group.Multiset
import Mathlib.Tactic

namespace LdapProxy.Pool

/-!
# What a family of workers holds

The items of the first workers of a family as one multiset.  An item that
enters the list of one worker enters the pool, an item that leaves a list
leaves the pool, and rearranging a list changes nothing.
-/

section Pooled

variable {Worker Item : Type*}
variable {count index : Nat}
variable {items : Worker → List Item}
variable {workers : Nat → Worker}
variable {worker : Worker}
variable {item : Item}

/-- The items that the first `count` workers hold. -/
def pooled
    (count : Nat)
    (items : Worker → List Item)
    (workers : Nat → Worker) :
    Multiset Item :=
  ∑ index ∈ Finset.range count, (items (workers index) : Multiset Item)

/-- An item is pooled when one of the workers holds it. -/
theorem mem_pooled :
    item ∈ pooled count items workers ↔
      ∃ index < count, item ∈ items (workers index) := by
  simp [pooled, Multiset.mem_sum]

/-- Workers that hold nothing pool nothing. -/
theorem pooled_empty (empty : ∀ index, items (workers index) = []) :
    pooled count items workers = 0 := by
  simp [pooled, empty]

/-- What a changed worker held is replaced by what it holds now. -/
theorem pooled_update (inside : index < count) :
    pooled count items (Function.update workers index worker) +
        (items (workers index) : Multiset Item) =
      pooled count items workers + (items worker : Multiset Item) := by
  have member := Finset.mem_range.mpr inside
  have others :
      ∑ other ∈ (Finset.range count).erase index,
          (items (Function.update workers index worker other) :
            Multiset Item) =
        ∑ other ∈ (Finset.range count).erase index,
          (items (workers other) : Multiset Item) := by
    refine Finset.sum_congr rfl ?_
    intro other inErased
    rw [Function.update_of_ne (Finset.ne_of_mem_erase inErased)]
  unfold pooled
  rw [← Finset.add_sum_erase _ _ member, ← Finset.add_sum_erase _ _ member,
    others, Function.update_self]
  abel

/-- An item that a worker gets more enters the pool. -/
theorem pooled_put
    (inside : index < count)
    (here : (items worker).Perm (item :: items (workers index))) :
    pooled count items (Function.update workers index worker) =
      item ::ₘ pooled count items workers := by
  have updated : pooled count items (Function.update workers index worker) +
        (items (workers index) : Multiset Item) =
      pooled count items workers + (items worker : Multiset Item) :=
    pooled_update inside
  rw [Multiset.coe_eq_coe.mpr here, ← Multiset.cons_coe, Multiset.add_cons,
    ← Multiset.cons_add] at updated
  exact add_right_cancel updated

/-- An item that a worker gets rid of leaves the pool. -/
theorem pooled_take
    (inside : index < count)
    (here : (items (workers index)).Perm (item :: items worker)) :
    pooled count items workers =
      item ::ₘ pooled count items (Function.update workers index worker) := by
  have updated : pooled count items (Function.update workers index worker) +
        (items (workers index) : Multiset Item) =
      pooled count items workers + (items worker : Multiset Item) :=
    pooled_update inside
  rw [Multiset.coe_eq_coe.mpr here, ← Multiset.cons_coe, Multiset.add_cons,
    ← Multiset.cons_add] at updated
  exact (add_right_cancel updated).symm

/-- A worker that rearranges its items leaves the pool as it was. -/
theorem pooled_perm
    (inside : index < count)
    (here : (items worker).Perm (items (workers index))) :
    pooled count items (Function.update workers index worker) =
      pooled count items workers := by
  have updated : pooled count items (Function.update workers index worker) +
        (items (workers index) : Multiset Item) =
      pooled count items workers + (items worker : Multiset Item) :=
    pooled_update inside
  rw [Multiset.coe_eq_coe.mpr here] at updated
  exact add_right_cancel updated

/-- What the first `count` workers weigh together. -/
def load
    (count : Nat)
    (weight : Worker → Nat)
    (workers : Nat → Worker) :
    Nat :=
  ∑ index ∈ Finset.range count, weight (workers index)

/-- The weight of a changed worker is replaced by what it weighs now. -/
theorem load_update
    {weight : Worker → Nat}
    (inside : index < count) :
    load count weight (Function.update workers index worker) +
        weight (workers index) =
      load count weight workers + weight worker := by
  have member := Finset.mem_range.mpr inside
  have updated : (fun other =>
      weight (Function.update workers index worker other)) =
        Function.update (fun other => weight (workers other)) index
          (weight worker) := by
    funext other
    exact Function.apply_update (fun _ => weight) workers index worker other
  unfold load
  rw [updated, Finset.sum_update_of_mem member,
    ← Finset.add_sum_erase _ _ member, Finset.erase_eq]
  omega

/-- Workers weigh nothing together when each of them weighs nothing. -/
theorem load_eq_zero
    {weight : Worker → Nat} :
    load count weight workers = 0 ↔
      ∀ index < count, weight (workers index) = 0 := by
  simp [load]

/-- Only the first `count` workers hold items. -/
def Within
    (count : Nat)
    (items : Worker → List Item)
    (workers : Nat → Worker) :
    Prop :=
  ∀ index item, item ∈ items (workers index) → index < count

/-- A change of one of the first workers leaves the others without items. -/
theorem Within.update
    (within : Within count items workers)
    (inside : index < count) :
    Within count items (Function.update workers index worker) := by
  intro other item member
  by_cases same : other = index
  · rw [same]
    exact inside
  · rw [Function.update_of_ne same] at member
    exact within other item member

/-- When the other workers hold nothing, every item is pooled. -/
theorem Within.mem_pooled
    (within : Within count items workers)
    (member : item ∈ items (workers index)) :
    item ∈ pooled count items workers :=
  Pool.mem_pooled.mpr ⟨index, within index item member, member⟩

end Pooled

end LdapProxy.Pool

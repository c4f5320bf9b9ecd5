import Mathlib.Data.Int.CardIntervalMod
import Mathlib.Tactic

namespace LdapProxy.RoundRobin

/-!
# Dealing items out in turn

Item number `k` of a list goes to worker `(start + k) % count`.
-/

variable {Item : Type*}
variable {count start other worker : Nat}

/-- The items that a worker gets, in order. -/
def dealt
    (count start : Nat)
    (items : List Item)
    (worker : Nat) :
    List Item :=
  ((items.zipIdx start).filter fun item =>
    item.2 % count = worker).map Prod.fst

/-- The first item goes to the worker whose turn it is. -/
theorem dealt_cons (item : Item) (rest : List Item) :
    dealt count start (item :: rest) worker =
      (if start % count = worker then [item] else []) ++
        dealt count (start + 1) rest worker := by
  unfold dealt
  rw [List.zipIdx_cons]
  by_cases turn : start % count = worker
  · simp [turn]
  · simp [turn]

/-- Items that are dealt later continue the turns. -/
theorem dealt_append (first second : List Item) :
    dealt count start (first ++ second) worker =
      dealt count start first worker ++
        dealt count (start + first.length) second worker := by
  unfold dealt
  rw [List.zipIdx_append, List.filter_append, List.map_append]

/-- Only the turn of the first item matters. -/
theorem dealt_congr
    (items : List Item)
    (same : start % count = other % count) :
    dealt count start items worker = dealt count other items worker := by
  induction items generalizing start other with
  | nil =>
      rfl
  | cons item rest inductionHypothesis =>
      have later : (start + 1) % count = (other + 1) % count :=
        Nat.ModEq.add_right 1 same
      rw [dealt_cons, dealt_cons, same, inductionHypothesis later]

/-- The workers that get the first `number` items. -/
def turns (count number : Nat) : List Nat :=
  (List.range number).map (· % count)

/-- The next turn comes last. -/
theorem turns_succ (count number : Nat) :
    turns count (number + 1) = turns count number ++ [number % count] := by
  simp [turns, List.range_succ]

/-- No worker gets more than one item more than another. -/
theorem count_turns
    (positive : 0 < count)
    (inside : worker < count)
    (number : Nat) :
    (turns count number).count worker =
      number / count + if worker < number % count then 1 else 0 := by
  have counted : (turns count number).count worker =
      Nat.count (· ≡ worker [MOD count]) number := by
    induction number with
    | zero =>
        simp [turns]
    | succ number inductionHypothesis =>
        rw [turns_succ, List.count_append, inductionHypothesis,
          Nat.count_succ, List.count_singleton]
        simp [Nat.ModEq, Nat.mod_eq_of_lt inside]
  rw [counted, Nat.count_modEq_card number positive worker,
    Nat.mod_eq_of_lt inside]

end LdapProxy.RoundRobin

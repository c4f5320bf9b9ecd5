import Mathlib.Data.List.Basic
import Mathlib.Data.List.Perm.Basic

namespace LdapProxy.CleanupStack

/-!
# Entries that are run once

Entries are registered and run later: one of them before its time, when it is
asked for, or all that are left, the most recent one first.  Every entry that
was ever made is either still there or has been run once.
-/

/-- The entries that were made, that are left, and that have been run. -/
structure Stack (Entry : Type*) where
  made : List Entry
  /-- The most recent entry is the first one. -/
  live : List Entry
  ran : List Entry

namespace Stack

variable {Entry : Type*}

/-- Nothing has been registered. -/
def empty : Stack Entry where
  made := []
  live := []
  ran := []

/-- Register an entry. -/
def add (s : Stack Entry) (entry : Entry) : Stack Entry where
  made := s.made ++ [entry]
  live := entry :: s.live
  ran := s.ran

/-- Run the most recent wanted entry that is left, if there is one. -/
def take (s : Stack Entry) (wanted : Entry → Bool) : Stack Entry :=
  match s.live.find? wanted with
  | none =>
      s
  | some entry =>
      { s with
        live := s.live.eraseP wanted
        ran := s.ran ++ [entry] }

/-- Run all entries that are left. -/
def drain (s : Stack Entry) : Stack Entry where
  made := s.made
  live := []
  ran := s.ran ++ s.live

/-- Nothing is run when nothing is wanted. -/
theorem take_none
    {wanted : Entry → Bool}
    {s : Stack Entry}
    (nothing : ∀ entry ∈ s.live, ¬ wanted entry = true) :
    s.take wanted = s := by
  have notFound : s.live.find? wanted = none :=
    List.find?_eq_none.mpr nothing
  rw [take, notFound]

/-- The most recent wanted entry is found. -/
theorem find_first
    {wanted : Entry → Bool}
    {live left right : List Entry}
    {entry : Entry}
    (split : live = left ++ entry :: right)
    (isWanted : wanted entry = true)
    (notBefore : ∀ other ∈ left, ¬ wanted other = true) :
    live.find? wanted = some entry := by
  rw [split, List.find?_append, List.find?_eq_none.mpr notBefore,
    Option.none_or, List.find?_cons_of_pos isWanted]

/-- The most recent wanted entry is run and is not left any more. -/
theorem take_some
    {wanted : Entry → Bool}
    {s : Stack Entry}
    {left right : List Entry}
    {entry : Entry}
    (live : s.live = left ++ entry :: right)
    (isWanted : wanted entry = true)
    (notBefore : ∀ other ∈ left, ¬ wanted other = true) :
    s.take wanted =
      { s with
        live := left ++ right
        ran := s.ran ++ [entry] } := by
  have found : s.live.find? wanted = some entry :=
    find_first live isWanted notBefore
  have erased : s.live.eraseP wanted = left ++ right := by
    rw [live, List.eraseP_append_right _ notBefore,
      List.eraseP_cons_of_pos isWanted]
  simp only [take, found, erased]

/-- Nothing is made by running an entry. -/
theorem take_made (s : Stack Entry) (wanted : Entry → Bool) :
    (s.take wanted).made = s.made := by
  unfold take
  split
  · rfl
  · rfl

/-- There is a most recent wanted entry, or none at all. -/
theorem wanted_cases (wanted : Entry → Bool) (live : List Entry) :
    (∀ entry ∈ live, ¬ wanted entry = true) ∨
      ∃ left entry right,
        live = left ++ entry :: right ∧
          wanted entry = true ∧
          ∀ other ∈ left, ¬ wanted other = true := by
  cases found : live.find? wanted with
  | none =>
      exact .inl (List.find?_eq_none.mp found)
  | some entry =>
      obtain ⟨isWanted, left, right, rfl, notBefore⟩ :=
        List.find?_eq_some_iff_append.mp found
      refine .inr ⟨left, entry, right, rfl, isWanted, ?_⟩
      intro other member
      simpa using notBefore other member

/--
Every entry has been run once or is left, and those that are left stand in the
order in which they were made, the most recent one first.
-/
structure Balanced (s : Stack Entry) : Prop where
  once : (s.ran ++ s.live).Perm s.made
  recent : s.live.reverse.Sublist s.made

namespace Balanced

variable {s : Stack Entry}

/-- There is nothing to run in the beginning. -/
theorem empty : (Stack.empty : Stack Entry).Balanced where
  once := .nil
  recent := .slnil

/-- A new entry is left. -/
theorem add (balanced : s.Balanced) (entry : Entry) :
    (s.add entry).Balanced where
  once := by
    refine List.perm_middle.trans ?_
    exact (balanced.once.cons entry).trans
      (List.perm_append_singleton ..).symm
  recent := by
    show (entry :: s.live).reverse.Sublist (s.made ++ [entry])
    rw [List.reverse_cons]
    exact balanced.recent.append (.refl _)

/-- An entry that is taken has been run. -/
theorem take (balanced : s.Balanced) (wanted : Entry → Bool) :
    (s.take wanted).Balanced := by
  rcases wanted_cases wanted s.live with
    nothing | ⟨left, entry, right, live, isWanted, notBefore⟩
  · rw [take_none nothing]
    exact balanced
  · rw [take_some live isWanted notBefore]
    have once := balanced.once
    have recent := balanced.recent
    rw [live] at once recent
    constructor
    · refine List.Perm.trans ?_ once
      show ((s.ran ++ [entry]) ++ (left ++ right)).Perm _
      rw [List.append_assoc, List.singleton_append]
      exact List.perm_middle.symm.append_left s.ran
    · refine List.Sublist.trans ?_ recent
      exact ((List.Sublist.refl left).append
        (List.sublist_cons_self ..)).reverse

/-- All entries have been run once. -/
theorem drain (balanced : s.Balanced) : s.drain.Balanced where
  once := by
    show (s.ran ++ s.live ++ []).Perm s.made
    rw [List.append_nil]
    exact balanced.once
  recent := List.nil_sublist _

end Balanced

end Stack

end LdapProxy.CleanupStack

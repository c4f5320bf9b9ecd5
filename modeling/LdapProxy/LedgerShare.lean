import LdapProxy.AllocationLedger

namespace LdapProxy.Ledger

/-!
# A share of an allocation ledger

One of several clients of a ledger: the addresses that were handed out to it are
held by it, lost or released.  What the client does is a passage from one ledger
to the next; passages follow each other, and the other clients leave the share
alone.
-/

variable {before middle after ledger : Ledger}
variable {held heldNow heldLater lost lostLater : Multiset Nat}
variable {created : List Nat}

/--
From one ledger to the next, whatever was held or handed out is held, lost or
released, and nothing that was released before comes back.
-/
structure Passed
    (before : Ledger)
    (held : Multiset Nat)
    (after : Ledger)
    (heldNow lost : Multiset Nat) :
    Prop where
  balance :
    heldNow + lost + (after.released : Multiset Nat) +
        Multiset.range before.next =
      held + (before.released : Multiset Nat) + Multiset.range after.next
  releasedBefore :
    (before.released : Multiset Nat) ≤ (after.released : Multiset Nat)
  next : before.next ≤ after.next

/-- Nothing happens. -/
theorem Passed.refl : Passed ledger held ledger held 0 where
  balance := by rw [add_zero]
  releasedBefore := le_rfl
  next := le_rfl

/-- One passage after another. -/
theorem Passed.trans
    (first : Passed before held middle heldNow lost)
    (second : Passed middle heldNow after heldLater lostLater) :
    Passed before held after heldLater (lost + lostLater) where
  balance := by
    apply add_right_cancel (b := Multiset.range middle.next)
    calc
      heldLater + (lost + lostLater) + (after.released : Multiset Nat) +
            Multiset.range before.next + Multiset.range middle.next
          = (heldLater + lostLater + (after.released : Multiset Nat) +
                Multiset.range middle.next) +
              lost + Multiset.range before.next := by
        abel
      _ = (heldNow + lost + (middle.released : Multiset Nat) +
              Multiset.range before.next) +
            Multiset.range after.next := by
        rw [second.balance]
        abel
      _ = held + (before.released : Multiset Nat) +
            Multiset.range after.next + Multiset.range middle.next := by
        rw [first.balance]
        abel
  releasedBefore := first.releasedBefore.trans second.releasedBefore
  next := first.next.trans second.next

/-- An address that is handed out is held. -/
theorem passed_alloc :
    Passed ledger held ledger.alloc.2 (ledger.next ::ₘ held) 0 where
  balance := by
    simp only [alloc, Multiset.range_succ, add_zero, Multiset.cons_add,
      Multiset.add_cons]
  releasedBefore := le_rfl
  next := Nat.le_succ _

/-- A held address is released. -/
theorem passed_release (address : Nat) :
    Passed ledger (address ::ₘ held) (ledger.release address) held 0 where
  balance := by
    simp only [release, ← Multiset.cons_coe, add_zero, Multiset.cons_add,
      Multiset.add_cons]
  releasedBefore := Multiset.le_cons_self _ _
  next := le_rfl

/--
The addresses that were created for a client are held, lost or released, each
exactly once, and released addresses were handed out.
-/
structure Shared
    (ledger : Ledger)
    (created : List Nat)
    (held lost : Multiset Nat) :
    Prop where
  once :
    ∀ address ∈ created,
      (held + lost).count address + ledger.released.count address = 1
  mine : ∀ address ∈ held + lost, address ∈ created
  created : ∀ address ∈ created, address < ledger.next
  released : ∀ address ∈ ledger.released, address < ledger.next

/-- Nothing was created for the client yet. -/
theorem shared_nothing
    (released : ∀ address ∈ ledger.released, address < ledger.next) :
    Shared ledger [] 0 0 where
  once := by
    intro address never
    cases never
  mine := by
    intro address never
    exact absurd never (Multiset.notMem_zero address)
  created := by
    intro address never
    cases never
  released := released

/-- The addresses that are handed out from one ledger to the next. -/
def fresh (before after : Ledger) : List Nat :=
  List.range' before.next (after.next - before.next)

/-- Fresh addresses are between the two ledgers. -/
theorem mem_fresh
    (grows : before.next ≤ after.next)
    {address : Nat} :
    address ∈ fresh before after ↔
      before.next ≤ address ∧ address < after.next := by
  unfold fresh
  rw [List.mem_range'_1, Nat.add_sub_cancel' grows]

/-- A passage counted for one address. -/
theorem Passed.count
    (passed : Passed before held after heldNow lost)
    (address : Nat) :
    (heldNow + lost).count address + after.released.count address +
        (Multiset.range before.next).count address =
      held.count address + before.released.count address +
        (Multiset.range after.next).count address := by
  have counted := congrArg (Multiset.count address) passed.balance
  simp only [Multiset.count_add, Multiset.coe_count] at counted ⊢
  exact counted

/-- An address counts once in a range that it is in. -/
theorem count_range_of_lt
    {address bound : Nat}
    (below : address < bound) :
    (Multiset.range bound).count address = 1 :=
  Multiset.count_eq_one_of_mem (Multiset.nodup_range bound)
    (Multiset.mem_range.mpr below)

/-- An address does not count in a range that ends before it. -/
theorem count_range_of_le
    {address bound : Nat}
    (above : bound ≤ address) :
    (Multiset.range bound).count address = 0 :=
  Multiset.count_eq_zero.mpr
    (mt Multiset.mem_range.mp (Nat.not_lt_of_le above))

/-- An address that was not handed out yet is nowhere. -/
theorem Shared.nowhere
    (shared : Shared before created held lost)
    {address : Nat}
    (above : before.next ≤ address) :
    (held + lost).count address = 0 ∧
      before.released.count address = 0 := by
  constructor
  · apply Multiset.count_eq_zero.mpr
    intro member
    exact absurd (shared.created address (shared.mine address member))
      (Nat.not_lt_of_le above)
  · apply List.count_eq_zero.mpr
    intro member
    exact absurd (shared.released address member) (Nat.not_lt_of_le above)

/-- What the client does is counted once for each of its addresses. -/
theorem Shared.passed_once
    (shared : Shared before created held lost)
    (passed : Passed before held after heldNow lostLater)
    {address : Nat}
    (member : address ∈ created ++ fresh before after) :
    (heldNow + (lost + lostLater)).count address +
        after.released.count address =
      1 := by
  have counted := passed.count address
  simp only [Multiset.count_add] at counted ⊢
  rcases List.mem_append.mp member with old | new
  · have below := shared.created address old
    have once := shared.once address old
    rw [Multiset.count_add] at once
    rw [count_range_of_lt below,
      count_range_of_lt (below.trans_le passed.next)] at counted
    omega
  · obtain ⟨above, below⟩ := (mem_fresh passed.next).mp new
    obtain ⟨notMine, notReleased⟩ := shared.nowhere above
    rw [Multiset.count_add] at notMine
    rw [count_range_of_le above, count_range_of_lt below] at counted
    omega

/-- What the client holds or loses was created for it. -/
theorem Shared.passed_mine
    (shared : Shared before created held lost)
    (passed : Passed before held after heldNow lostLater)
    {address : Nat}
    (member : address ∈ heldNow + (lost + lostLater)) :
    address ∈ created ++ fresh before after := by
  have positive := Multiset.count_pos.mpr member
  have counted := passed.count address
  simp only [Multiset.count_add] at positive counted
  rw [List.mem_append, mem_fresh passed.next]
  by_contra neither
  rw [not_or] at neither
  obtain ⟨notCreated, notFresh⟩ := neither
  have notMine := Multiset.count_eq_zero.mpr
    (mt (shared.mine address) notCreated)
  rw [Multiset.count_add] at notMine
  have kept := Multiset.count_le_of_le address passed.releasedBefore
  rw [Multiset.coe_count, Multiset.coe_count] at kept
  rcases Nat.lt_or_ge address before.next with below | above
  · rw [count_range_of_lt below,
      count_range_of_lt (below.trans_le passed.next)] at counted
    omega
  · have beyond : after.next ≤ address :=
      Nat.le_of_not_lt fun below => notFresh ⟨above, below⟩
    rw [count_range_of_le above, count_range_of_le beyond] at counted
    omega

/-- What the client does goes to its share. -/
theorem Shared.passed
    (shared : Shared before created held lost)
    (passed : Passed before held after heldNow lostLater) :
    Shared after (created ++ fresh before after) heldNow
      (lost + lostLater) where
  once := fun _ member => shared.passed_once passed member
  mine := fun _ member => shared.passed_mine passed member
  created := by
    intro address member
    rcases List.mem_append.mp member with old | new
    · exact (shared.created address old).trans_le passed.next
    · exact ((mem_fresh passed.next).mp new).2
  released := by
    intro address member
    by_contra notBelow
    have beyond := Nat.le_of_not_lt notBelow
    have above := passed.next.trans beyond
    obtain ⟨notMine, notReleased⟩ := shared.nowhere above
    have positive := List.count_pos_iff.mpr member
    have counted := passed.count address
    rw [count_range_of_le above, count_range_of_le beyond] at counted
    simp only [Multiset.count_add] at notMine counted
    omega

/-- What the other clients do leaves the share alone. -/
theorem Shared.others
    (shared : Shared before created held lost)
    (next : before.next ≤ after.next)
    (released : ∀ address ∈ after.released, address < after.next)
    (alone :
      ∀ address ∈ created,
        after.released.count address = before.released.count address) :
    Shared after created held lost where
  once := by
    intro address member
    rw [alone address member]
    exact shared.once address member
  mine := shared.mine
  created := fun address member =>
    (shared.created address member).trans_le next
  released := released

/--
When the client holds nothing any more, each of its addresses was released
exactly once if and only if none was lost.
-/
theorem Shared.released_once_iff
    (shared : Shared ledger created 0 lost) :
    (∀ address ∈ created, ledger.released.count address = 1) ↔
      lost = 0 := by
  constructor
  · intro released
    apply Multiset.eq_zero_of_forall_notMem
    intro address member
    have isMine : address ∈ created :=
      shared.mine address (by rwa [zero_add])
    have once := shared.once address isMine
    rw [released address isMine, zero_add] at once
    have positive := Multiset.count_pos.mpr member
    omega
  · rintro rfl address member
    have once := shared.once address member
    rw [add_zero, Multiset.count_zero, zero_add] at once
    exact once

end LdapProxy.Ledger

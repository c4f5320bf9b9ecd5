import Mathlib.Data.Multiset.Range
import Mathlib.Tactic

namespace LdapProxy

/-!
# Allocation ledgers

A ledger hands out addresses and records every release.  A ledger accounts for
a multiset of held addresses when those addresses and the released ones are
exactly the addresses handed out so far, each once: nothing is lost, nothing
is held in two places and nothing is released twice.
-/

/-- Addresses handed out in order, and the ones given back. -/
structure Ledger where
  next : Nat
  released : List Nat
  deriving Repr, DecidableEq

namespace Ledger

/-- The ledger before the first allocation. -/
def empty : Ledger where
  next := 0
  released := []

/-- Hand out the next address. -/
def alloc (ledger : Ledger) : Nat × Ledger :=
  (ledger.next, { ledger with next := ledger.next + 1 })

/-- Take back an address. -/
def release (ledger : Ledger) (address : Nat) : Ledger :=
  { ledger with released := address :: ledger.released }

/-- Held and released addresses are the allocated ones, each exactly once. -/
def Accounts (ledger : Ledger) (held : Multiset Nat) : Prop :=
  held + (ledger.released : Multiset Nat) = Multiset.range ledger.next

instance (ledger : Ledger) (held : Multiset Nat) :
    Decidable (ledger.Accounts held) :=
  inferInstanceAs (Decidable (_ = _))

theorem accounts_empty : empty.Accounts 0 :=
  rfl

/-- A new allocation is accounted for once its address is held. -/
theorem accounts_alloc
    {ledger : Ledger}
    {held : Multiset Nat}
    (accounts : ledger.Accounts held) :
    ledger.alloc.2.Accounts (ledger.next ::ₘ held) := by
  unfold Accounts at accounts ⊢
  simp only [alloc, Multiset.cons_add, accounts, Multiset.range_succ]

/-- Releasing a held address moves it from the holders to the released ones. -/
theorem accounts_release
    {ledger : Ledger}
    {held : Multiset Nat}
    {address : Nat}
    (accounts : ledger.Accounts (address ::ₘ held)) :
    (ledger.release address).Accounts held := by
  unfold Accounts at accounts ⊢
  simp only [release]
  rw [← accounts, ← Multiset.cons_coe, Multiset.add_cons, Multiset.cons_add]

end Ledger

end LdapProxy

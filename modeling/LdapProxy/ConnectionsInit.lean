import LdapProxy.LpConfig
import LdapProxy.SlotPool

namespace LdapProxy

open LdapProxy.NullChain
open LdapProxy.NumberText

/-!
# The configured number of connections

`lp_connections_init` for every `int` that `max_connections` may hold.  The
sizes of the three arrays are computed as `size_t`, so a negative number asks
for more memory than there can be; the loop counts down before it tests, so it
has to start above zero.
-/

/-- Every configuration that is read leaves an `int` there. -/
theorem maxConnections_isInt
    {conf : Option Dictionary}
    {configs : LpConfig}
    (ended : lpConfigInit conf = .ok configs) :
    IsInt configs.maxConnections := by
  cases conf with
  | none =>
      cases ended
      exact ⟨by decide, by decide⟩
  | some conf =>
      obtain ⟨-, -, rfl⟩ := lpConfigInit_ok_iff.mp ended
      exact number_bounds conf _ (by decide) (by decide)

/-- `value * sizeof(type)`, a product of type `size_t`. -/
def timesSize (value : Int) (size : Nat) : Nat :=
  (value * size % 2 ^ 64).toNat

/--
Whether each call of `malloc` returns a block, by the number of the call and
its size.  `malloc(0)` returns one, and a size above `PTRDIFF_MAX` is refused.
-/
structure Allocator where
  malloc : Nat → Nat → Bool
  zero : ∀ call, malloc call 0 = true
  huge : ∀ call size, 2 ^ 63 ≤ size → malloc call size = false

/-- Every request that is not refused for its size gets a block. -/
def Allocator.generous : Allocator where
  malloc _ size := size < 2 ^ 63
  zero _ := rfl
  huge _ _ isHuge := decide_eq_false (Nat.not_lt.mpr isHuge)

/-- The sizes of `lp_connection_t` and `event_t`. -/
structure RecordSizes where
  connection : Nat
  event : Nat
  connectionPositive : 0 < connection
  connectionBound : connection < 2 ^ 32

/-- The sizes of small records. -/
def RecordSizes.small : RecordSizes where
  connection := 256
  event := 128
  connectionPositive := Nat.zero_lt_succ _
  connectionBound := Nat.lt_of_sub_eq_succ rfl

/-- How `lp_connections_init` ends. -/
inductive InitOutcome where
  /-- `LP_ERR` -/
  | failed
  /-- An element in front of or behind the arrays is written. -/
  | outside (index : Int)
  | returned (pool : SlotPool)

/--
The `do` loop of `lp_connections_init`, with at most `fuel` turns, up to the
first write outside of the arrays.
-/
def connectionsInitDo (maxConnections : Int) :
    Nat → Int → (Nat → Slot) → Option Nat →
      Option (Except Int ((Nat → Slot) × Option Nat))
  | 0, _, _, _ =>
      none
  | fuel + 1, i, connections, next =>
      let i := i - 1
      if 0 ≤ i ∧ i < maxConnections then
        let slot := i.toNat
        let connections :=
          Function.update connections slot
            ((connections slot).chained slot next)
        if i ≠ 0 then
          connectionsInitDo maxConnections fuel i connections (some slot)
        else
          some (.ok (connections, some slot))
      else
        some (.error i)

/-- `lp_connections_init` for any `lp_configs.max_connections`. -/
def connectionsInit
    (allocator : Allocator)
    (sizes : RecordSizes)
    (maxConnections : Int) :
    Option InitOutcome :=
  if allocator.malloc 0 (timesSize maxConnections sizes.connection) =
      false then
    some .failed
  else if allocator.malloc 1 (timesSize maxConnections sizes.event) =
      false then
    some .failed
  else if allocator.malloc 2 (timesSize maxConnections sizes.event) =
      false then
    some .failed
  else
    (connectionsInitDo maxConnections (maxConnections.toNat + 1)
        maxConnections (fun _ => Slot.zero) none).map fun
      | .error index =>
          .outside index
      | .ok (connections, next) =>
          .returned
            { connections := connections
              readEvents := fun _ => none
              writeEvents := fun _ => none
              freeConnections := next
              freeConnectionsN := maxConnections
              connectionsN := 0 }

/--
`LP_ERR` is returned, or the loop has ended inside the arrays and every slot is
on the free list, in the order of the array.
-/
def InitWhole
    (allocator : Allocator)
    (sizes : RecordSizes)
    (maxConnections : Int) :
    Prop :=
  connectionsInit allocator sizes maxConnections = some .failed ∨
    ∃ pool chain,
      connectionsInit allocator sizes maxConnections =
          some (.returned pool) ∧
        Chain pool.data pool.freeConnections chain ∧
        chain = List.range maxConnections.toNat ∧
        pool.freeConnectionsN = chain.length ∧
        pool.freeConnectionsN = maxConnections

/-- From a positive number on, the loop ends inside the arrays. -/
theorem connectionsInitDo_inside
    {maxConnections : Int}
    {i fuel : Nat}
    (inside : (i : Int) + 1 ≤ maxConnections)
    (enough : i < fuel)
    (connections : Nat → Slot)
    (next : Option Nat) :
    connectionsInitDo maxConnections fuel (i + 1) connections next =
      some (.ok (connectionsInitLoop (i + 1) connections next)) := by
  induction i generalizing fuel connections next with
  | zero =>
      obtain ⟨fuel, rfl⟩ :=
        Nat.exists_eq_succ_of_ne_zero (Nat.ne_zero_of_lt enough)
      have first : (0 : Int) ≤ 0 ∧ (0 : Int) < maxConnections := by omega
      simp [connectionsInitDo, connectionsInitLoop, first.2]
  | succ i inductionHypothesis =>
      obtain ⟨fuel, rfl⟩ :=
        Nat.exists_eq_succ_of_ne_zero (Nat.ne_zero_of_lt enough)
      have index : ((i + 1 : Nat) : Int) + 1 - 1 = (i : Int) + 1 := by
        omega
      have here :
          (0 : Int) ≤ (i : Int) + 1 ∧ (i : Int) + 1 < maxConnections := by
        omega
      have goesOn : (i : Int) + 1 ≠ 0 := by omega
      have slot : ((i : Int) + 1).toNat = i + 1 := by omega
      rw [connectionsInitLoop, connectionsInitDo]
      simp only [index, here, and_self, if_true, goesOn, ne_eq,
        not_false_eq_true, slot]
      exact inductionHypothesis (by omega) (by omega) _ _

/-- From zero on, the first write is in front of the arrays. -/
theorem connectionsInitDo_zero
    (fuel : Nat)
    (connections : Nat → Slot)
    (next : Option Nat) :
    connectionsInitDo 0 (fuel + 1) 0 connections next =
      some (.error (-1)) := by
  simp [connectionsInitDo]

/-- Arrays of no elements are allocated. -/
theorem timesSize_zero (size : Nat) : timesSize 0 size = 0 := by
  simp [timesSize]

/-- Arrays of a negative number of elements are larger than the memory. -/
theorem timesSize_negative
    {value : Int}
    (isInt : IsInt value)
    (negative : value < 0)
    {size : Nat}
    (positive : 0 < size)
    (bound : size < 2 ^ 32) :
    2 ^ 63 ≤ timesSize value size := by
  obtain ⟨low, -⟩ := isInt
  have sizeBound : (size : Int) < 2 ^ 32 := by exact_mod_cast bound
  have sizePositive : (0 : Int) < size := by exact_mod_cast positive
  have most : value * size < 0 :=
    Int.mul_neg_of_neg_of_pos negative sizePositive
  have least : -2 ^ 63 ≤ value * size := by
    have step : -2 ^ 31 * (size : Int) ≤ value * size :=
      Int.mul_le_mul_of_nonneg_right low sizePositive.le
    omega
  have wrapped : value * size % 2 ^ 64 = value * size + 2 ^ 64 := by
    rw [← Int.add_emod_right]
    exact Int.emod_eq_of_lt (by omega) (by omega)
  unfold timesSize
  rw [wrapped]
  omega

/-- A negative number of connections is refused with the first array. -/
theorem connectionsInit_negative
    (allocator : Allocator)
    (sizes : RecordSizes)
    {maxConnections : Int}
    (isInt : IsInt maxConnections)
    (negative : maxConnections < 0) :
    connectionsInit allocator sizes maxConnections = some .failed := by
  have refused :
      allocator.malloc 0 (timesSize maxConnections sizes.connection) =
        false :=
    allocator.huge _ _
      (timesSize_negative isInt negative sizes.connectionPositive
        sizes.connectionBound)
  exact if_pos refused

/-- Without connections the loop writes in front of the arrays. -/
theorem connectionsInit_zero
    (allocator : Allocator)
    (sizes : RecordSizes) :
    connectionsInit allocator sizes 0 = some (.outside (-1)) := by
  have allocated (call size : Nat) :
      allocator.malloc call (timesSize 0 size) = true := by
    rw [timesSize_zero]
    exact allocator.zero call
  simp only [connectionsInit, allocated, Bool.true_eq_false, if_false,
    Int.toNat_zero, connectionsInitDo_zero, Option.map_some]

/-- With connections, an array is refused or the pool is set up. -/
theorem connectionsInit_positive
    (allocator : Allocator)
    (sizes : RecordSizes)
    (i : Nat) :
    connectionsInit allocator sizes (i + 1) = some .failed ∨
      ∃ pool,
        lpConnectionsInit (i + 1) = some pool ∧
          connectionsInit allocator sizes (i + 1) =
            some (.returned pool) := by
  have loop :
      connectionsInitDo (i + 1) (((i : Int) + 1).toNat + 1) (i + 1)
          (fun _ => Slot.zero) none =
        some (.ok (connectionsInitLoop (i + 1) (fun _ => Slot.zero) none)) :=
    connectionsInitDo_inside (Int.le_refl _) (by omega) _ _
  unfold connectionsInit
  rw [loop]
  split_ifs
  · exact .inl rfl
  · exact .inl rfl
  · exact .inl rfl
  · exact .inr ⟨_, rfl, rfl⟩

/-- The free list of a pool that has been set up is the whole array. -/
theorem lpConnectionsInit_chain
    {maxConnections : Nat}
    {pool : SlotPool}
    (initialised : lpConnectionsInit maxConnections = some pool) :
    Chain pool.data pool.freeConnections (List.range maxConnections) ∧
      pool.freeConnectionsN = maxConnections := by
  obtain ⟨-, isPool⟩ := Option.ite_none_left_eq_some.mp initialised
  cases isPool
  exact ⟨connectionsInitLoop_range maxConnections, rfl⟩

/--
For every number that the configuration leaves in `max_connections`, the
function reports an error or sets up the arrays and nothing else, exactly when
the number is not zero.
-/
theorem connections_init_whole_iff
    (allocator : Allocator)
    (sizes : RecordSizes)
    {maxConnections : Int}
    (isInt : IsInt maxConnections) :
    InitWhole allocator sizes maxConnections ↔ maxConnections ≠ 0 := by
  constructor
  · rintro whole rfl
    unfold InitWhole at whole
    rw [connectionsInit_zero] at whole
    obtain failed | ⟨pool, chain, returned, -⟩ := whole
    · cases failed
    · cases returned
  · intro nonzero
    rcases Int.lt_or_gt_of_ne nonzero with negative | positive
    · exact .inl (connectionsInit_negative allocator sizes isInt negative)
    · obtain ⟨i, rfl⟩ : ∃ i : Nat, maxConnections = i + 1 :=
        ⟨maxConnections.toNat - 1, by omega⟩
      rcases connectionsInit_positive allocator sizes i with
        failed | ⟨pool, initialised, returned⟩
      · exact .inl failed
      · obtain ⟨chain, counted⟩ := lpConnectionsInit_chain initialised
        refine .inr ⟨pool, _, returned, chain, rfl, ?_, counted⟩
        rw [counted, List.length_range]

/-- Two connections are set up. -/
theorem connections_init_whole_iff_two :
    IsInt 2 ∧
      (InitWhole .generous .small 2 ↔ (2 : Int) ≠ 0) :=
  ⟨⟨by decide, by decide⟩,
    connections_init_whole_iff .generous .small ⟨by decide, by decide⟩⟩

/-- A configuration file with an empty setting. -/
def emptySetting : Dictionary :=
  dictionaryOf [("server", none), ("server:max_connections", some "")]

/-- An empty setting is the number zero, and element -1 is written. -/
theorem connections_init_writes_outside :
    (IsInt 0 ∧
        (lpConfigInit (some emptySetting)).map LpConfig.maxConnections =
          .ok 0) ∧
      connectionsInit .generous .small 0 = some (.outside (-1)) ∧
      ¬ InitWhole .generous .small 0 := by
  refine
    ⟨⟨⟨by decide, by decide⟩, by decide +kernel⟩,
      connectionsInit_zero .generous .small, ?_⟩
  rintro (failed | ⟨pool, chain, returned, -⟩)
  · rw [connectionsInit_zero] at failed
    cases failed
  · rw [connectionsInit_zero] at returned
    cases returned

end LdapProxy

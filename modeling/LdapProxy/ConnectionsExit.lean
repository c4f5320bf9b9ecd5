import LdapProxy.ServerState
import LdapProxy.TransitionRun

namespace LdapProxy

open LdapProxy.Lber
open LdapProxy.Transition

/-!
# Closing the connections at exit

`lp_connections_exit` closes the slots from index 0 on while the index is below
`__connections_n`, and every close takes one off that count.  The loop stops
half way, and it takes the first slots of the array for the allocated ones.
-/

/-- The connections and the shared data, of which only the pool is used. -/
structure ConnectionPool where
  conns : Nat → Connection
  proc : Process

/-- The calls that a pool gets. -/
inductive PoolCall where
  /-- `lp_get_connection`, then `lp_connection_set_discard_cb`. -/
  | get (sockfd : Int)
  /-- `lp_free_connection` -/
  | free (slot : Nat)
  deriving Repr, DecidableEq

namespace ConnectionPool

/-- The pool after `lp_connections_init`. -/
def initial (env : Environment) : ConnectionPool where
  conns := Connection.initial
  proc := Process.initial env

/-- The pool after a call; freeing a slot without its callback aborts. -/
def step (pool : ConnectionPool) : PoolCall → Option ConnectionPool
  | .get sockfd =>
      match lpGetConnection sockfd pool.conns pool.proc with
      | none =>
          some pool
      | some (slot, conns, p) =>
          some
            { conns :=
                Function.update conns slot
                  { conns slot with discard := true }
              proc := p }
  | .free slot =>
      match lpFreeConnection slot (pool.conns slot) pool.proc with
      | .error _ =>
          none
      | .ok (c, p) =>
          some
            { conns := Function.update pool.conns slot c
              proc := p }

/--
The loop of `lp_connections_exit` from `i` on, with at most `fuel` tests of its
condition, and the slots for which it calls `lp_close_connection`.
-/
def connectionsExitLoop :
    Nat → Nat → ConnectionPool →
      Option (Except Abort (List Nat × ConnectionPool))
  | 0, _, _ =>
      none
  | fuel + 1, i, pool =>
      if (i : Int) < pool.proc.connectionsN then
        match lpCloseConnection i (pool.conns i) pool.proc with
        | .error abort =>
            some (.error abort)
        | .ok (c, p) =>
            (connectionsExitLoop fuel (i + 1)
                { conns := Function.update pool.conns i c
                  proc := p }).map fun result =>
              result.map fun (closed, pool) => (i :: closed, pool)
      else
        some (.ok ([], pool))

/-- `lp_connections_exit`: every close takes one off the bound of the loop. -/
def lpConnectionsExit (pool : ConnectionPool) :
    Option (Except Abort (List Nat × ConnectionPool)) :=
  connectionsExitLoop (pool.proc.connectionsN.toNat + 1) 0 pool

/-- A connection that `lp_get_connection` has returned and nobody freed. -/
def Allocated (env : Environment) (pool : ConnectionPool) (slot : Nat) :
    Prop :=
  slot < env.maxConnections ∧ slot ∉ pool.proc.freeConnections

instance
    (env : Environment)
    (pool : ConnectionPool) :
    DecidablePred (Allocated env pool) :=
  fun slot =>
    inferInstanceAs
      (Decidable
        (slot < env.maxConnections ∧ slot ∉ pool.proc.freeConnections))

/-- What every sequence of calls keeps. -/
structure Kept (env : Environment) (pool : ConnectionPool) : Prop where
  nodup : pool.proc.freeConnections.Nodup
  inside : ∀ slot ∈ pool.proc.freeConnections, slot < env.maxConnections
  counted :
    pool.proc.connectionsN + pool.proc.freeConnections.length =
      env.maxConnections
  callback :
    ∀ slot, (pool.conns slot).discard = true ↔ Allocated env pool slot

/-- The pool before any call. -/
theorem kept_initial (env : Environment) : Kept env (initial env) where
  nodup := List.nodup_range
  inside slot member := List.mem_range.mp member
  counted := by
    simp only [initial, Process.initial, List.length_range, zero_add]
  callback slot := by
    constructor
    · intro set
      cases set
    · rintro ⟨below, taken⟩
      exact (taken (List.mem_range.mpr below)).elim

/-- The first free slot is allocated. -/
theorem Kept.got
    {env : Environment}
    {pool : ConnectionPool}
    (kept : Kept env pool)
    {slot : Nat}
    {rest : List Nat}
    (free : pool.proc.freeConnections = slot :: rest)
    {c : Connection}
    {p : Process}
    (discard : c.discard = true)
    (left : p.freeConnections = rest)
    (oneMore : p.connectionsN = pool.proc.connectionsN + 1) :
    Kept env
      { conns := Function.update pool.conns slot c
        proc := p } := by
  have nodup := kept.nodup
  have counted := kept.counted
  rw [free] at nodup counted
  obtain ⟨notInRest, restNodup⟩ := List.nodup_cons.mp nodup
  have isFree : slot ∈ pool.proc.freeConnections := by
    rw [free]
    exact List.mem_cons_self ..
  refine ⟨left.symm ▸ restNodup, ?_, ?_, ?_⟩
  · intro other member
    rw [left] at member
    refine kept.inside other ?_
    rw [free]
    exact List.mem_cons_of_mem _ member
  · simp only [left, oneMore, List.length_cons] at counted ⊢
    omega
  · intro other
    by_cases same : other = slot
    · subst other
      simp only [Function.update_self, discard, Allocated, left, true_iff]
      exact ⟨kept.inside slot isFree, notInRest⟩
    · simp only [Function.update_of_ne same, kept.callback, Allocated, free,
        left, List.mem_cons, same, false_or]

/-- An allocated slot is free again. -/
theorem Kept.freed
    {env : Environment}
    {pool : ConnectionPool}
    (kept : Kept env pool)
    {slot : Nat}
    (allocated : Allocated env pool slot)
    {c : Connection}
    {p : Process}
    (noDiscard : c.discard = false)
    (free : p.freeConnections = slot :: pool.proc.freeConnections)
    (oneLess : p.connectionsN = pool.proc.connectionsN - 1) :
    Kept env
      { conns := Function.update pool.conns slot c
        proc := p } := by
  have counted := kept.counted
  refine ⟨?_, ?_, ?_, ?_⟩
  · simp only [free]
    exact List.nodup_cons.mpr ⟨allocated.2, kept.nodup⟩
  · intro other member
    rw [free] at member
    rcases List.mem_cons.mp member with rfl | inFree
    · exact allocated.1
    · exact kept.inside other inFree
  · simp only [free, oneLess, List.length_cons]
    omega
  · intro other
    by_cases same : other = slot
    · subst other
      simp [noDiscard, Allocated, free]
    · simp only [Function.update_of_ne same, kept.callback, Allocated, free,
        List.mem_cons, same, false_or]

/-- Every call keeps the pool. -/
theorem Kept.step
    {env : Environment}
    {pool next : ConnectionPool}
    {call : PoolCall}
    (kept : Kept env pool)
    (called : pool.step call = some next) :
    Kept env next := by
  cases call with
  | get sockfd =>
      cases free : pool.proc.freeConnections with
      | nil =>
          simp only [ConnectionPool.step, lpGetConnection, free,
            Option.some.injEq] at called
          subst next
          exact kept
      | cons slot rest =>
          simp only [ConnectionPool.step, lpGetConnection, free,
            Function.update_idem, Option.some.injEq] at called
          subst next
          exact kept.got free rfl rfl rfl
  | free slot =>
      cases discard : (pool.conns slot).discard with
      | false =>
          simp [ConnectionPool.step, lpFreeConnection,
            discardConnectionData, discard] at called
      | true =>
          simp only [ConnectionPool.step,
            lpFreeConnection_eq slot discard pool.proc,
            Option.some.injEq] at called
          subst next
          exact kept.freed ((kept.callback slot).mp discard) rfl rfl rfl

/-- Every sequence of calls keeps the pool. -/
theorem kept_reached
    {env : Environment}
    {calls : List PoolCall}
    {pool : ConnectionPool}
    (run : Run (Enabled ConnectionPool.step) (initial env) calls pool) :
    Kept env pool :=
  run.invariant (Kept env) (fun kept called => kept.step called)
    (kept_initial env)

/-- The allocated slots. -/
def allocatedSlots (env : Environment) (pool : ConnectionPool) : List Nat :=
  (List.range env.maxConnections).filter fun slot =>
    slot ∉ pool.proc.freeConnections

theorem mem_allocatedSlots
    {env : Environment}
    {pool : ConnectionPool}
    {slot : Nat} :
    slot ∈ allocatedSlots env pool ↔ Allocated env pool slot := by
  simp [allocatedSlots, Allocated]

theorem nodup_allocatedSlots
    (env : Environment)
    (pool : ConnectionPool) :
    (allocatedSlots env pool).Nodup :=
  List.nodup_range.filter _

/-- `__connections_n` counts the allocated slots. -/
theorem Kept.length_allocated
    {env : Environment}
    {pool : ConnectionPool}
    (kept : Kept env pool) :
    ((allocatedSlots env pool).length : Int) = pool.proc.connectionsN := by
  have free :
      ((List.range env.maxConnections).filter fun slot =>
        slot ∈ pool.proc.freeConnections).Perm
          pool.proc.freeConnections := by
    refine (List.perm_ext_iff_of_nodup (List.nodup_range.filter _)
      kept.nodup).mpr ?_
    intro slot
    simp only [List.mem_filter, List.mem_range, decide_eq_true_eq]
    exact ⟨And.right, fun member => ⟨kept.inside slot member, member⟩⟩
  have parts :=
    List.length_eq_length_filter_add
      (l := List.range env.maxConnections)
      fun slot => decide (slot ∈ pool.proc.freeConnections)
  have rest :
      ((List.range env.maxConnections).filter fun slot =>
        !decide (slot ∈ pool.proc.freeConnections)).length =
          (allocatedSlots env pool).length := by
    simp [allocatedSlots]
  rw [List.length_range, free.length_eq, rest] at parts
  have counted := kept.counted
  omega

/--
A loop that ends has closed slots one behind the other, and meets the count of
the others half way.
-/
theorem connectionsExitLoop_closed
    {fuel i : Nat}
    {pool last : ConnectionPool}
    {closed : List Nat}
    (ended :
      connectionsExitLoop fuel i pool = some (.ok (closed, last))) :
    closed = List.range' i closed.length ∧
      pool.proc.connectionsN ≤ i + 2 * closed.length ∧
      (closed ≠ [] →
        i + 2 * closed.length < pool.proc.connectionsN + 2) := by
  induction fuel generalizing i pool closed with
  | zero =>
      cases ended
  | succ fuel inductionHypothesis =>
      simp only [connectionsExitLoop] at ended
      split at ended
      · next below =>
          cases discard : (pool.conns i).discard with
          | false =>
              simp [lpCloseConnection, lpFreeConnection,
                discardConnectionData, discard] at ended
          | true =>
              simp only [lpCloseConnection,
                lpFreeConnection_eq i discard pool.proc] at ended
              obtain ⟨result, later, same⟩ :=
                Option.map_eq_some_iff.mp ended
              cases result with
              | error abort =>
                  cases same
              | ok result =>
                  obtain ⟨rest, after⟩ := result
                  cases same
                  obtain ⟨consecutive, most, least⟩ :=
                    inductionHypothesis later
                  simp only at most least
                  simp only [List.length_cons]
                  refine ⟨?_, by omega, fun _ => ?_⟩
                  · rw [List.range'_succ, ← consecutive]
                  · by_cases none : rest = []
                    · subst none
                      simp only [List.length_nil]
                      omega
                    · have bound := least none
                      omega
      · next above =>
          simp only [Option.some.injEq, Except.ok.injEq,
            Prod.mk.injEq] at ended
          obtain ⟨rfl, -⟩ := ended
          simp only [List.length_nil]
          exact ⟨rfl, by omega, fun nonempty => (nonempty rfl).elim⟩

/--
`lp_connections_exit` ends without a failing assertion; every allocated
connection was closed once, and no free slot.
-/
def ClosesAll (env : Environment) (pool : ConnectionPool) : Prop :=
  ∃ closed last,
    lpConnectionsExit pool = some (.ok (closed, last)) ∧
      (∀ slot, Allocated env pool slot → closed.count slot = 1) ∧
      ∀ slot ∈ closed, slot ∉ pool.proc.freeConnections

/-- With two connections to close, one of them is left out. -/
theorem Kept.only_first
    {env : Environment}
    {pool : ConnectionPool}
    (kept : Kept env pool)
    (closes : ClosesAll env pool)
    {slot : Nat}
    (allocated : Allocated env pool slot) :
    slot = 0 := by
  obtain ⟨closed, last, ended, once, -⟩ := closes
  obtain ⟨consecutive, -, least⟩ := connectionsExitLoop_closed ended
  have inClosed (other : Nat) (isAllocated : Allocated env pool other) :
      other ∈ closed := by
    have count := once other isAllocated
    exact List.count_pos_iff.mp (by omega)
  have member := inClosed slot allocated
  have fits : (allocatedSlots env pool).length ≤ closed.length :=
    ((nodup_allocatedSlots env pool).subperm fun other inAllocated =>
      inClosed other (mem_allocatedSlots.mp inAllocated)).length_le
  have half := least (List.ne_nil_of_mem member)
  have counted := kept.length_allocated
  rw [consecutive, List.mem_range'_1] at member
  omega

/-- With only the first connection to close, the loop closes it. -/
theorem Kept.closesFirst
    {env : Environment}
    {pool : ConnectionPool}
    (kept : Kept env pool)
    (first : Allocated env pool 0)
    (onlyFirst : ∀ slot, Allocated env pool slot → slot = 0) :
    ClosesAll env pool := by
  have counted := kept.length_allocated
  have slots : allocatedSlots env pool = [0] := by
    refine List.perm_singleton.mp
      ((List.perm_ext_iff_of_nodup (nodup_allocatedSlots env pool)
        (List.nodup_singleton 0)).mpr ?_)
    intro slot
    rw [mem_allocatedSlots, List.mem_singleton]
    constructor
    · exact onlyFirst slot
    · rintro rfl
      exact first
  rw [slots] at counted
  simp only [List.length_singleton] at counted
  have one : pool.proc.connectionsN = 1 := counted.symm
  have discard := (kept.callback 0).mpr first
  have ended :
      ∃ last, lpConnectionsExit pool = some (.ok ([0], last)) := by
    simp only [lpConnectionsExit, one, connectionsExitLoop,
      lpCloseConnection, lpFreeConnection_eq 0 discard pool.proc]
    exact ⟨_, rfl⟩
  obtain ⟨last, ended⟩ := ended
  refine ⟨[0], last, ended, ?_, ?_⟩
  · intro slot allocated
    rw [onlyFirst slot allocated]
    rfl
  · intro slot member
    rw [List.mem_singleton.mp member]
    exact first.2

/-- Without a connection to close, the loop closes none. -/
theorem Kept.closesNone
    {env : Environment}
    {pool : ConnectionPool}
    (kept : Kept env pool)
    (nobody : ∀ slot, ¬ Allocated env pool slot) :
    ClosesAll env pool := by
  have counted := kept.length_allocated
  have slots : allocatedSlots env pool = [] := by
    refine List.eq_nil_iff_forall_not_mem.mpr ?_
    intro slot member
    exact nobody slot (mem_allocatedSlots.mp member)
  rw [slots] at counted
  have zero : pool.proc.connectionsN = 0 := counted.symm
  refine ⟨[], pool, ?_, fun slot allocated => (nobody slot allocated).elim,
    fun slot member => (List.not_mem_nil member).elim⟩
  simp only [lpConnectionsExit, zero, connectionsExitLoop]
  rfl

/-- With no connection but the first one to close, the loop closes it. -/
theorem Kept.closesAll
    {env : Environment}
    {pool : ConnectionPool}
    (kept : Kept env pool)
    (onlyFirst : ∀ slot, Allocated env pool slot → slot = 0) :
    ClosesAll env pool := by
  by_cases first : Allocated env pool 0
  · exact kept.closesFirst first onlyFirst
  · refine kept.closesNone ?_
    intro slot allocated
    have isFirst := onlyFirst slot allocated
    subst slot
    exact first allocated

/--
In every pool that calls lead to: the connections are all closed at exit,
exactly when no connection but the one in slot 0 is allocated.
-/
theorem connections_exit_closes_all_iff
    {env : Environment}
    {calls : List PoolCall}
    {pool : ConnectionPool}
    (run : Run (Enabled ConnectionPool.step) (initial env) calls pool) :
    ClosesAll env pool ↔ ∀ slot, Allocated env pool slot → slot = 0 := by
  have kept := kept_reached run
  exact ⟨fun closes _ allocated => kept.only_first closes allocated,
    kept.closesAll⟩

/-- An environment with two connections. -/
def twoConnections : Environment :=
  { Environment.still with maxConnections := 2 }

/-- The slots that are closed at exit after these calls. -/
def closedAfter (calls : List PoolCall) :
    Option (Option (Except Abort (List Nat))) :=
  (exec ConnectionPool.step (initial twoConnections) calls).map fun pool =>
    (lpConnectionsExit pool).map fun result => result.map Prod.fst

/-- One client is connected. -/
theorem connections_exit_closes_all_iff_one :
    ∃ pool,
      Run (Enabled ConnectionPool.step) (initial twoConnections) [.get 5]
          pool ∧
        (ClosesAll twoConnections pool ↔
          ∀ slot, Allocated twoConnections pool slot → slot = 0) := by
  have reached :
      ∃ pool,
        Run (Enabled ConnectionPool.step) (initial twoConnections) [.get 5]
            pool ∧
          Allocated twoConnections pool 0 :=
    exec_reaches (fun pool => Allocated twoConnections pool 0)
      (by decide +kernel)
  obtain ⟨pool, run, -⟩ := reached
  exact ⟨pool, run, connections_exit_closes_all_iff run⟩

/-- The second of two connections is not closed by the proxy that exits. -/
theorem not_closesAll_of_second
    {calls : List PoolCall}
    (second :
      (exec ConnectionPool.step (initial twoConnections) calls).map
          (fun pool => decide (Allocated twoConnections pool 1)) =
        some true) :
    ∃ pool,
      Run (Enabled ConnectionPool.step) (initial twoConnections) calls
          pool ∧
        ¬ ClosesAll twoConnections pool := by
  obtain ⟨pool, run, allocated⟩ :=
    exec_reaches (fun pool => Allocated twoConnections pool 1) second
  refine ⟨pool, run, fun closes => ?_⟩
  exact absurd ((kept_reached run).only_first closes allocated) (by decide)

/--
Of two connections only the first one is closed; and once the first one is
given back, the loop takes its free slot and runs into the assertion.
-/
theorem connections_left_open :
    ((∃ pool,
        Run (Enabled ConnectionPool.step) (initial twoConnections)
            [.get 5, .get 6] pool ∧
          ¬ ClosesAll twoConnections pool) ∧
      closedAfter [.get 5, .get 6] = some (some (.ok [0]))) ∧
      (∃ pool,
        Run (Enabled ConnectionPool.step) (initial twoConnections)
            [.get 5, .get 6, .free 0] pool ∧
          ¬ ClosesAll twoConnections pool) ∧
      closedAfter [.get 5, .get 6, .free 0] =
        some (some (.error .discardNull)) :=
  ⟨⟨not_closesAll_of_second (by decide +kernel), rfl⟩,
    not_closesAll_of_second (by decide +kernel), rfl⟩

end ConnectionPool

end LdapProxy

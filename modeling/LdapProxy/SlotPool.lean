import LdapProxy.NullChain
import LdapProxy.ServerState

namespace LdapProxy

open LdapProxy.NullChain

/-!
# The pool of connection slots

`lp_connection.c` with its pointers: the free slots form a chain through
`c->data`, a field of records that are wiped and partly restored whenever a
connection is closed.  A slot and its two events are named by their index in
the three arrays.
-/

/--
`lp_connection_t`.  A list that has been zeroed and not initialised since is
`none`.  `discard` says which elements of a list the callback leaves there.
-/
structure Slot where
  fd : Int
  idx : Nat
  sb : Option Nat
  curData : Option Nat
  data : Option Nat
  rev : Option Nat
  wev : Option Nat
  connActive : Bool
  connClosing : Bool
  connClosed : Bool
  wevActive : Bool
  ldap : Option Nat
  taskTicks : Option (List Nat)
  uuid : Int
  discard : Option (List Nat → List Nat)
  reqList : Option (List Nat)
  rplList : Option (List Nat)

/-- `lp_memzero` on a slot. -/
def Slot.zero : Slot where
  fd := 0
  idx := 0
  sb := none
  curData := none
  data := none
  rev := none
  wev := none
  connActive := false
  connClosing := false
  connClosed := false
  wevActive := false
  ldap := none
  taskTicks := none
  uuid := 0
  discard := none
  reqList := none
  rplList := none

/-- `stk_list_init` on the three lists of a slot. -/
def Slot.initLists (c : Slot) : Slot :=
  { c with
    reqList := some []
    rplList := some []
    taskTicks := some [] }

/--
The static data of `lp_connection.c`.  The contents of an event are the LDAP
worker to whose event base it is added; a zeroed event has none.
-/
structure SlotPool where
  connections : Nat → Slot
  readEvents : Nat → Option Nat
  writeEvents : Nat → Option Nat
  freeConnections : Option Nat
  freeConnectionsN : Int
  connectionsN : Int

/-- Write the record of one slot. -/
def SlotPool.set (p : SlotPool) (slot : Nat) (c : Slot) : SlotPool :=
  { p with connections := Function.update p.connections slot c }

/-- The record of the slot that is written. -/
@[simp] theorem SlotPool.set_self
    (p : SlotPool)
    (slot : Nat)
    (c : Slot) :
    (p.set slot c).connections slot = c :=
  Function.update_self ..

/-- The record of any other slot. -/
theorem SlotPool.set_other
    {slot other : Nat}
    (different : other ≠ slot)
    (p : SlotPool)
    (c : Slot) :
    (p.set slot c).connections other = p.connections other :=
  Function.update_of_ne different ..

/-- `c->data` of every slot. -/
def SlotPool.data (p : SlotPool) (slot : Nat) : Option Nat :=
  (p.connections slot).data

/-- What one turn of the loop makes of a slot. -/
def Slot.chained (c : Slot) (i : Nat) (next : Option Nat) : Slot :=
  Slot.initLists
    { c with
      data := next
      rev := some i
      wev := some i
      idx := i
      fd := -1 }

/-- The loop of `lp_connections_init`, with `i` turns left. -/
def connectionsInitLoop :
    Nat → (Nat → Slot) → Option Nat → (Nat → Slot) × Option Nat
  | 0, connections, next =>
      (connections, next)
  | i + 1, connections, next =>
      connectionsInitLoop i
        (Function.update connections i ((connections i).chained i next))
        (some i)

/--
`lp_connections_init`, when its allocations succeed.  The loop tests `i` at its
end, so without any connection it writes in front of the array.
-/
def lpConnectionsInit (maxConnections : Nat) : Option SlotPool :=
  if maxConnections = 0 then
    none
  else
    let (connections, next) :=
      connectionsInitLoop maxConnections (fun _ => Slot.zero) none
    some
      { connections := connections
        readEvents := fun _ => none
        writeEvents := fun _ => none
        freeConnections := next
        freeConnectionsN := maxConnections
        connectionsN := 0 }

/-- What `lp_get_connection` does under the mutex. -/
def SlotPool.getLocked (p : SlotPool) : Option Nat × SlotPool :=
  match p.freeConnections with
  | none =>
      (none, p)
  | some c =>
      (some c,
        { p with
          freeConnections := p.data c
          freeConnectionsN := p.freeConnectionsN - 1
          connectionsN := p.connectionsN + 1 })

/--
`__discard_list_data`: it aborts without a callback, and no callback can walk a
list that is not initialised.
-/
def discardListData (c : Slot) (list : Option (List Nat)) :
    Option (List Nat) :=
  match c.discard, list with
  | some callback, some elements =>
      some (callback elements)
  | _, _ =>
      none

/-- `__discard_connection_data` and `__discard_task_ticks`. -/
def Slot.discarded (c : Slot) : Option Slot :=
  match discardListData c c.reqList, discardListData c c.rplList,
      c.taskTicks with
  | some requests, some replies, some _ =>
      some
        { c with
          reqList := some requests
          rplList := some replies
          taskTicks := some [] }
  | _, _, _ =>
      none

/-- The local variables of `lp_free_connection`. -/
structure SavedSlot where
  rev : Option Nat
  wev : Option Nat
  idx : Nat
  deriving Repr, DecidableEq

/-- The values that `lp_free_connection` saves. -/
def Slot.saved (c : Slot) : SavedSlot where
  rev := c.rev
  wev := c.wev
  idx := c.idx

/--
`lp_free_connection` from the first `lp_memzero` to the one of the slot.
`ber_sockbuf_free` touches neither slots nor events.
-/
def SlotPool.wipe (p : SlotPool) (slot : Nat) : Option SlotPool :=
  match (p.connections slot).rev, (p.connections slot).wev with
  | some rev, some wev =>
      some
        { p.set slot Slot.zero with
          readEvents := Function.update p.readEvents rev none
          writeEvents := Function.update p.writeEvents wev none }
  | _, _ =>
      none

/-- `lp_free_connection` from there to the mutex. -/
def Slot.restored (c : Slot) (saved : SavedSlot) : Slot :=
  Slot.initLists
    { c with
      rev := saved.rev
      wev := saved.wev
      idx := saved.idx }

/-- What `lp_free_connection` does under the mutex. -/
def SlotPool.freeLocked (p : SlotPool) (slot : Nat) : SlotPool :=
  { p.set slot
      { p.connections slot with
        data := p.freeConnections } with
    freeConnections := some slot
    freeConnectionsN := p.freeConnectionsN + 1
    connectionsN := p.connectionsN - 1 }

/-- A slot has the events and the index that it was given. -/
structure Slot.Home (given c : Slot) : Prop where
  rev : c.rev = given.rev
  wev : c.wev = given.wev
  idx : c.idx = given.idx

/-- A slot that no connection has used since it was initialised or wiped. -/
structure Slot.Clean (given c : Slot) : Prop extends Slot.Home given c where
  connActive : c.connActive = false
  connClosing : c.connClosing = false
  connClosed : c.connClosed = false
  wevActive : c.wevActive = false
  reqList : c.reqList = some []
  rplList : c.rplList = some []
  taskTicks : c.taskTicks = some []

variable {given c : Slot}

/-- Neither the descriptor nor the chain pointer of a slot is cleaned. -/
theorem Slot.Clean.setFd
    (clean : Slot.Clean given c)
    (fd : Int) :
    Slot.Clean given { c with fd := fd } :=
  ⟨⟨clean.rev, clean.wev, clean.idx⟩, clean.connActive, clean.connClosing,
    clean.connClosed, clean.wevActive, clean.reqList, clean.rplList,
    clean.taskTicks⟩

/-- Linking a slot leaves it clean. -/
theorem Slot.Clean.setData
    (clean : Slot.Clean given c)
    (data : Option Nat) :
    Slot.Clean given { c with data := data } :=
  ⟨⟨clean.rev, clean.wev, clean.idx⟩, clean.connActive, clean.connClosing,
    clean.connClosed, clean.wevActive, clean.reqList, clean.rplList,
    clean.taskTicks⟩

/-- Discarding leaves the events and the index. -/
theorem Slot.Home.discarded
    {after : Slot}
    (home : Slot.Home given c)
    (discards : c.discarded = some after) :
    Slot.Home given after := by
  unfold Slot.discarded at discards
  split at discards
  · cases discards
    exact ⟨home.rev, home.wev, home.idx⟩
  · cases discards

/-- A slot that is wiped and gets its saved values back is clean. -/
theorem Slot.zero_restored
    {saved : SavedSlot}
    (rev : saved.rev = given.rev)
    (wev : saved.wev = given.wev)
    (idx : saved.idx = given.idx) :
    Slot.Clean given (Slot.zero.restored saved) :=
  ⟨⟨rev, wev, idx⟩, rfl, rfl, rfl, rfl, rfl, rfl, rfl⟩

/-- Wiping writes the record of one slot and two events. -/
theorem SlotPool.wipe_some
    {p after : SlotPool}
    {slot : Nat}
    (wipes : p.wipe slot = some after) :
    after.connections = (p.set slot Slot.zero).connections ∧
      after.freeConnections = p.freeConnections ∧
      after.freeConnectionsN = p.freeConnectionsN ∧
      after.connectionsN = p.connectionsN := by
  unfold SlotPool.wipe at wipes
  split at wipes
  · cases wipes
    exact ⟨rfl, rfl, rfl, rfl⟩
  · cases wipes

/-- A slot that is linked becomes the first one of the chain. -/
theorem SlotPool.freeLocked_chain
    {slot : Nat}
    {chain : List Nat}
    (p : SlotPool)
    (chained : Chain p.data p.freeConnections chain)
    (fresh : slot ∉ chain) :
    Chain (p.freeLocked slot).data (some slot) (slot :: chain) := by
  apply (chained.push fresh).congr
  intro other _
  by_cases same : other = slot
  · subst other
    rw [Function.update_self]
    exact congrArg Slot.data (p.set_self slot _)
  · rw [Function.update_of_ne same]
    exact congrArg Slot.data (p.set_other same _)

/-- The loop leaves the slots that it has passed as they are. -/
theorem connectionsInitLoop_passed
    {i slot : Nat}
    {connections : Nat → Slot}
    {next : Option Nat}
    (passed : i ≤ slot) :
    (connectionsInitLoop i connections next).1 slot = connections slot := by
  induction i generalizing connections next with
  | zero =>
      rfl
  | succ i inductionHypothesis =>
      unfold connectionsInitLoop
      rw [inductionHypothesis (Nat.le_of_succ_le passed)]
      exact Function.update_of_ne (Nat.ne_of_gt passed) ..

/-- Every slot that the loop reaches gets its events, index and lists. -/
theorem connectionsInitLoop_reached
    {i slot : Nat}
    {connections : Nat → Slot}
    {next : Option Nat}
    (reached : slot < i) :
    ∃ data,
      (connectionsInitLoop i connections next).1 slot =
        (connections slot).chained slot data := by
  induction i generalizing connections next with
  | zero =>
      cases reached
  | succ i inductionHypothesis =>
      unfold connectionsInitLoop
      rcases Nat.lt_succ_iff_lt_or_eq.mp reached with below | rfl
      · obtain ⟨data, slotAfter⟩ :
            ∃ data,
              (connectionsInitLoop i
                  (Function.update connections i
                    ((connections i).chained i next))
                  (some i)).1 slot =
                (Function.update connections i
                  ((connections i).chained i next) slot).chained slot data :=
          inductionHypothesis below
        refine ⟨data, ?_⟩
        rw [slotAfter, Function.update_of_ne (Nat.ne_of_lt below)]
      · refine ⟨next, ?_⟩
        rw [connectionsInitLoop_passed (Nat.le_refl _), Function.update_self]

/-- The loop puts the slots that it reaches in front of the chain. -/
theorem connectionsInitLoop_chain
    {i : Nat}
    {connections : Nat → Slot}
    {next : Option Nat}
    {members : List Nat}
    (chain : Chain (fun slot => (connections slot).data) next members)
    (above : ∀ slot ∈ members, i ≤ slot) :
    Chain
      (fun slot =>
        ((connectionsInitLoop i connections next).1 slot).data)
      (connectionsInitLoop i connections next).2
      (List.range i ++ members) := by
  induction i generalizing connections next members with
  | zero =>
      exact chain
  | succ i inductionHypothesis =>
      have fresh : i ∉ members :=
        fun member => Nat.not_succ_le_self i (above i member)
      have pushed :
          Chain
            (fun slot =>
              (Function.update connections i
                ((connections i).chained i next) slot).data)
            (some i) (i :: members) := by
        apply (chain.push fresh).congr
        intro slot _
        by_cases same : slot = i
        · subst slot
          rw [Function.update_self, Function.update_self]
          rfl
        · rw [Function.update_of_ne same, Function.update_of_ne same]
      rw [List.range_succ, List.append_assoc]
      apply inductionHypothesis pushed
      intro slot member
      rcases List.mem_cons.mp member with rfl | inMembers
      · exact Nat.le_refl _
      · exact Nat.le_of_succ_le (above slot inMembers)

/-- From zeroed slots the loop makes a chain of the whole array. -/
theorem connectionsInitLoop_range (i : Nat) :
    Chain
      (fun slot =>
        ((connectionsInitLoop i (fun _ => Slot.zero) none).1 slot).data)
      (connectionsInitLoop i (fun _ => Slot.zero) none).2
      (List.range i) := by
  have nothing : Chain (fun _ => Slot.zero.data) none ([] : List Nat) := .null
  have chain := connectionsInitLoop_chain nothing (i := i) (by
    intro slot member
    cases member)
  rw [List.append_nil] at chain
  exact chain

/-- The chain and the counters are the ones that `Process` keeps as a list. -/
structure SlotPool.Represents (pool : SlotPool) (p : Process) : Prop where
  chained : Chain pool.data pool.freeConnections p.freeConnections
  freeN : pool.freeConnectionsN = p.freeConnectionsN
  connectionsN : pool.connectionsN = p.connectionsN

namespace SlotPool.Represents

variable {env : Environment}
variable {pool : SlotPool}
variable {p after : Process}

/-- The slots are chained in the order of the array. -/
theorem initial
    (initialised : lpConnectionsInit env.maxConnections = some pool) :
    pool.Represents (Process.initial env) := by
  obtain ⟨-, isPool⟩ := Option.ite_none_left_eq_some.mp initialised
  cases isPool
  exact ⟨connectionsInitLoop_range env.maxConnections, rfl, rfl⟩

/-- Taking the first slot off the chain is `lp_get_connection`. -/
theorem getLocked
    {sockfd : Int}
    {conns : Nat → Connection}
    (represents : pool.Represents p) :
    pool.getLocked.1 = (lpGetConnection sockfd conns p).map Prod.fst ∧
      ∀ result,
        lpGetConnection sockfd conns p = some result →
        pool.getLocked.2.Represents result.2.2 := by
  have chained := represents.chained
  unfold lpGetConnection SlotPool.getLocked
  cases slots : p.freeConnections with
  | nil =>
      rw [slots] at chained
      rw [chained.null_iff.mpr rfl]
      exact ⟨rfl, fun _ none => nomatch none⟩
  | cons slot rest =>
      rw [slots] at chained
      generalize pool.freeConnections = free at chained
      cases chained with
      | next later =>
          refine ⟨rfl, ?_⟩
          rintro _ ⟨rfl⟩
          exact
            ⟨later, congrArg (· - 1) represents.freeN,
              congrArg (· + 1) represents.connectionsN⟩

/-- Linking a slot is the last part of `lp_free_connection`. -/
theorem freeLocked
    {slot : Nat}
    {c : Connection}
    {result : Connection × Process}
    (represents : pool.Represents p)
    (fresh : slot ∉ p.freeConnections)
    (discard : c.discard = true)
    (frees : lpFreeConnection slot c p = .ok result) :
    (pool.freeLocked slot).Represents result.2 := by
  rw [lpFreeConnection_eq slot discard p] at frees
  cases frees
  refine ⟨pool.freeLocked_chain represents.chained fresh, ?_, ?_⟩
  · exact congrArg (· + 1) represents.freeN
  · exact congrArg (· - 1) represents.connectionsN

end SlotPool.Represents

end LdapProxy

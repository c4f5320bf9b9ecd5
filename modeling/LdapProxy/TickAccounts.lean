import LdapProxy.PushOutcome
import LdapProxy.Wiring

namespace LdapProxy

open LdapProxy.Lber
open LdapProxy.Transition

/-!
# Ticks of the queries of a connection

`lp_mysql_push_task` registers the tick of a query with its connection, and
`lp_conn_check_task_tick` accepts a reply whose tick is registered and takes
one entry out.  The calls are counted for every incarnation of every slot; the
counts and the list of ticks balance until the slot is given back.
-/

/-- What happened in one incarnation of a connection. -/
structure TickCounts where
  /-- Calls of `lp_mysql_push_task`. -/
  searches : Nat
  /-- Ticks that `lp_conn_register_task_tick` registered. -/
  registered : Nat
  /-- Replies that `lp_conn_check_task_tick` accepted. -/
  accepted : Nat
  /-- Replies that `lp_search_reply` appended to the reply list. -/
  replies : Nat
  deriving Repr, DecidableEq

/-- Nothing has happened. -/
def TickCounts.zero : TickCounts where
  searches := 0
  registered := 0
  accepted := 0
  replies := 0

/-- Every reply was accepted, and every accepted one registered before. -/
structure TickCounts.Ordered (counts : TickCounts) : Prop where
  replies : counts.replies ≤ counts.accepted
  accepted : counts.accepted ≤ counts.registered
  registered : counts.registered ≤ counts.searches

/-- One call of `lp_mysql_push_task`, and the result of the registration. -/
def TickCounts.search (ret : Int) (counts : TickCounts) : TickCounts :=
  { counts with
    searches := counts.searches + 1
    registered := counts.registered + if ret = lpOk then 1 else 0 }

/-- One result of `lp_conn_check_task_tick`, and the replies appended. -/
def TickCounts.reply (ret : Int) (appended : Nat) (counts : TickCounts) :
    TickCounts :=
  { counts with
    accepted := counts.accepted + if ret = lpOk then 1 else 0
    replies := counts.replies + appended }

/--
The connections, the shared data, and what happened in each incarnation of
each slot.
-/
structure TickSystem where
  conns : Nat → Connection
  proc : Process
  counts : Nat → Nat → TickCounts

/-- Nothing has happened when the proxy starts. -/
def TickSystem.initial (env : Environment) : TickSystem where
  conns := Connection.initial
  proc := Process.initial env
  counts := fun _ _ => .zero

/-- The calls that read or change the ticks of a connection. -/
inductive TickAction where
  /-- `lp_get_connection` -/
  | get (sockfd : Int)
  /-- `lp_mysql_push_task`, called for the connection of the task. -/
  | search (allocs : PushAllocs) (mysql : Nat) (task : Task)
  /-- `__task_process` for a task of a MySQL worker. -/
  | reply (ldap : Nat) (task : Task) (send : List Send)
  /-- `lp_free_connection` -/
  | free (slot : Nat)
  /-- Anything else, which does not touch the ticks. -/
  | other (slot : Nat) (c : Connection) (p : Process)

/-- How many replies `lp_search_reply` appends for a task of this worker. -/
def appendedReplies
    (ldap : Nat)
    (task : Task)
    (c : Connection)
    (p : Process) :
    Nat :=
  let (checked, c) := lpConnCheckTaskTick c task
  if checked = lpOk ∧ c.ldap = some ldap then
    (lpSearchReply task c p).2.1.rplList.length - c.rplList.length
  else
    0

namespace TickSystem

/-- Count a call in the current incarnation of a slot. -/
def count
    (t : TickSystem)
    (slot : Nat)
    (change : TickCounts → TickCounts) :
    Nat → Nat → TickCounts :=
  let incarnation := (t.conns slot).incarnation
  Function.update t.counts slot
    (Function.update (t.counts slot) incarnation
      (change (t.counts slot incarnation)))

/-- What happened in the current incarnation of a slot. -/
def current (t : TickSystem) (slot : Nat) : TickCounts :=
  t.counts slot (t.conns slot).incarnation

/-- The state after a call. -/
def step (t : TickSystem) : TickAction → Option TickSystem
  | .get sockfd =>
      match lpGetConnection sockfd t.conns t.proc with
      | none =>
          none
      | some (_, conns, p) =>
          some { t with conns := conns, proc := p }
  | .search allocs mysql task =>
      if task.c ∈ t.proc.freeConnections then
        none
      else
        let c := t.conns task.c
        let (_, c', p) := lpMysqlPushTask allocs mysql task c t.proc
        some
          { conns := Function.update t.conns task.c c'
            proc := p
            counts :=
              t.count task.c
                (.search (lpConnRegisterTaskTick allocs.tick c task).1) }
  | .reply ldap task send =>
      if task.senderSource ≠ .mysql then
        none
      else
        let c := t.conns task.c
        match taskProcess ldap task send c t.proc with
        | .error _ =>
            none
        | .ok (_, c', p) =>
            some
              { conns := Function.update t.conns task.c c'
                proc := p
                counts :=
                  t.count task.c
                    (.reply (lpConnCheckTaskTick c task).1
                      (appendedReplies ldap task c t.proc)) }
  | .free slot =>
      if slot ∈ t.proc.freeConnections then
        none
      else
        match lpFreeConnection slot (t.conns slot) t.proc with
        | .error _ =>
            none
        | .ok (c, p) =>
            some
              { t with
                conns := Function.update t.conns slot c
                proc := p }
  | .other slot c p =>
      if c.taskTicks = (t.conns slot).taskTicks ∧
          c.incarnation = (t.conns slot).incarnation ∧
          p.freeConnections = t.proc.freeConnections then
        some
          { t with
            conns := Function.update t.conns slot c
            proc := p }
      else
        none

/-- One entry with this tick is gone, and the others keep their order. -/
def TakenOut (tick : Nat) (before after : List Nat) : Prop :=
  ∃ first second,
    before = first ++ tick :: second ∧ after = first ++ second

/-- What a call does to the ticks of the connections. -/
def Effect (t next : TickSystem) : TickAction → Prop
  | .get _ =>
      ∀ slot, (next.conns slot).taskTicks = (t.conns slot).taskTicks
  | .search allocs _ task =>
      (next.conns task.c).taskTicks =
          (t.conns task.c).taskTicks ++
            (if allocs.tick then [task.tick] else []) ∧
        ∀ slot, slot ≠ task.c → next.conns slot = t.conns slot
  | .reply _ task _ =>
      ((lpConnCheckTaskTick (t.conns task.c) task).1 = lpOk ∧
          TakenOut task.tick (t.conns task.c).taskTicks
            (next.conns task.c).taskTicks ∨
        (lpConnCheckTaskTick (t.conns task.c) task).1 = lpErr ∧
          task.tick ∉ (t.conns task.c).taskTicks ∧
          next.conns = t.conns ∧
          next.counts = t.counts) ∧
        ∀ slot, slot ≠ task.c → next.conns slot = t.conns slot
  | .free slot =>
      (next.conns slot).taskTicks = [] ∧
        ∀ other, other ≠ slot → next.conns other = t.conns other
  | .other .. =>
      ∀ slot, (next.conns slot).taskTicks = (t.conns slot).taskTicks

end TickSystem

/-- A registered tick is accepted and one entry is erased. -/
theorem lpConnCheckTaskTick_accepts
    {c : Connection}
    {task : Task}
    (registered : task.tick ∈ c.taskTicks) :
    lpConnCheckTaskTick c task =
      (lpOk, { c with taskTicks := c.taskTicks.erase task.tick }) :=
  if_pos registered

/-- A tick that is not registered is rejected. -/
theorem lpConnCheckTaskTick_rejects
    {c : Connection}
    {task : Task}
    (unknown : task.tick ∉ c.taskTicks) :
    lpConnCheckTaskTick c task = (lpErr, c) :=
  if_neg unknown

/-- Erasing a registered tick takes one entry out. -/
theorem takenOut_erase
    {tick : Nat}
    {ticks : List Nat}
    (registered : tick ∈ ticks) :
    TickSystem.TakenOut tick ticks (ticks.erase tick) := by
  obtain ⟨first, second, -, split, erased⟩ :=
    List.exists_erase_eq registered
  exact ⟨first, second, split, erased⟩

/-- The end of a reply appends at most one record. -/
theorem appendDone_length
    (task : Task)
    (id : Nat)
    (ber : OutElement)
    (c : Connection)
    (p : Process) :
    (appendDone task id ber c p).2.1.rplList.length ≤
      c.rplList.length + 1 := by
  unfold appendDone
  cases printSearchDone task.data ber with
  | none =>
      exact Nat.le_succ c.rplList.length
  | some printed =>
      simp [addReply]

/-- A reply with an entry is one record. -/
theorem searchSucceed_length
    (task : Task)
    (c : Connection)
    (p : Process) :
    (searchSucceed task c p).2.1.rplList.length ≤ c.rplList.length + 1 := by
  unfold searchSucceed
  simp only [ldapDataNew]
  cases printSearchEntry task.data OutElement.new with
  | none =>
      exact Nat.le_succ c.rplList.length
  | some entry =>
      exact appendDone_length task p.datas.next entry c (ldapDataNew p).2

/-- A reply without an entry is one record. -/
theorem searchFailed_length
    (task : Task)
    (c : Connection)
    (p : Process) :
    (searchFailed task c p).2.1.rplList.length ≤ c.rplList.length + 1 := by
  unfold searchFailed
  simp only [ldapDataNew]
  exact appendDone_length ..

/-- `lp_search_reply` appends at most one reply. -/
theorem lpSearchReply_length
    (task : Task)
    (c : Connection)
    (p : Process) :
    (lpSearchReply task c p).2.1.rplList.length ≤ c.rplList.length + 1 := by
  simp only [lpSearchReply]
  split_ifs
  · exact searchSucceed_length task c p
  · exact searchFailed_length task c p
  · exact Nat.le_succ _

/-- A reply is appended only when it was accepted, and at most once. -/
theorem appendedReplies_le
    (ldap : Nat)
    (task : Task)
    (c : Connection)
    (p : Process) :
    appendedReplies ldap task c p ≤
      if (lpConnCheckTaskTick c task).1 = lpOk then 1 else 0 := by
  unfold appendedReplies
  simp only
  by_cases accepted : (lpConnCheckTaskTick c task).1 = lpOk
  · rw [if_pos accepted]
    split
    · have appended :=
        lpSearchReply_length task (lpConnCheckTaskTick c task).2 p
      omega
    · exact Nat.zero_le _
  · simp [accepted]

namespace TickSystem

/-- What the counts and the lists of ticks satisfy in every state. -/
structure Accounted (t : TickSystem) : Prop where
  nodup : t.proc.freeConnections.Nodup
  balance :
    ∀ slot ∉ t.proc.freeConnections,
      (t.current slot).accepted + (t.conns slot).taskTicks.length =
        (t.current slot).registered
  empty : ∀ slot ∈ t.proc.freeConnections, (t.conns slot).taskTicks = []
  later :
    ∀ slot incarnation,
      (t.conns slot).incarnation < incarnation →
      t.counts slot incarnation = .zero
  ordered : ∀ slot incarnation, (t.counts slot incarnation).Ordered

/-- The accounts balance when the proxy starts. -/
theorem accounted_initial (env : Environment) :
    Accounted (TickSystem.initial env) where
  nodup := List.nodup_range
  balance _ _ := rfl
  empty _ _ := rfl
  later _ _ _ := rfl
  ordered _ _ := ⟨Nat.le_refl _, Nat.le_refl _, Nat.le_refl _⟩

/-- The count of a call, read back for each incarnation. -/
theorem count_apply
    (t : TickSystem)
    (slot : Nat)
    (change : TickCounts → TickCounts)
    (other incarnation : Nat) :
    t.count slot change other incarnation =
      if other = slot ∧ incarnation = (t.conns slot).incarnation then
        change (t.current slot)
      else
        t.counts other incarnation := by
  unfold count current
  by_cases same : other = slot
  · subst other
    rw [Function.update_self]
    by_cases now : incarnation = (t.conns slot).incarnation
    · subst incarnation
      simp
    · simp [now]
  · simp [same]

/-- A change that keeps the counts of its slot keeps all of them. -/
theorem count_same
    (t : TickSystem)
    (slot : Nat)
    {change : TickCounts → TickCounts}
    (same : change (t.current slot) = t.current slot) :
    t.count slot change = t.counts := by
  funext other incarnation
  rw [count_apply]
  split
  · next current =>
      rw [current.1, current.2]
      exact same
  · rfl

/-- A call that changes the ticks of one slot keeps the accounts. -/
theorem Accounted.counted
    {t : TickSystem}
    (accounted : Accounted t)
    {slot : Nat}
    {c : Connection}
    {p : Process}
    {change : TickCounts → TickCounts}
    (sameIncarnation : c.incarnation = (t.conns slot).incarnation)
    (sameFree : p.freeConnections = t.proc.freeConnections)
    (balance :
      slot ∉ t.proc.freeConnections →
      (change (t.current slot)).accepted + c.taskTicks.length =
        (change (t.current slot)).registered)
    (empty : slot ∈ t.proc.freeConnections → c.taskTicks = [])
    (ordered : (change (t.current slot)).Ordered) :
    Accounted
      { conns := Function.update t.conns slot c
        proc := p
        counts := t.count slot change } where
  nodup := by
    simp only [sameFree]
    exact accounted.nodup
  balance other := by
    simp only [sameFree, current, count_apply]
    intro taken
    by_cases same : other = slot
    · subst other
      simp only [Function.update_self, sameIncarnation, and_self, if_true]
      exact balance taken
    · simp only [Function.update_of_ne same, same, false_and, if_false]
      exact accounted.balance other taken
  empty other := by
    simp only [sameFree]
    intro isFree
    by_cases same : other = slot
    · subst other
      simp only [Function.update_self]
      exact empty isFree
    · simp only [Function.update_of_ne same]
      exact accounted.empty other isFree
  later other incarnation := by
    simp only [count_apply]
    by_cases same : other = slot
    · subst other
      simp only [Function.update_self, sameIncarnation]
      intro isLater
      rw [if_neg (by omega)]
      exact accounted.later slot incarnation isLater
    · simp only [Function.update_of_ne same, same, false_and, if_false]
      exact accounted.later other incarnation
  ordered other incarnation := by
    simp only [count_apply]
    split
    · exact ordered
    · exact accounted.ordered other incarnation

/-- A call that leaves the ticks of its slot alone keeps the accounts. -/
theorem Accounted.kept
    {t : TickSystem}
    (accounted : Accounted t)
    {slot : Nat}
    {c : Connection}
    {p : Process}
    (sameTicks : c.taskTicks = (t.conns slot).taskTicks)
    (sameIncarnation : c.incarnation = (t.conns slot).incarnation)
    (sameFree : p.freeConnections = t.proc.freeConnections) :
    Accounted
      { t with
        conns := Function.update t.conns slot c
        proc := p } := by
  have kept :=
    @Accounted.counted t accounted slot c p id sameIncarnation sameFree
      (fun taken => by
        rw [sameTicks]
        exact accounted.balance slot taken)
      (fun isFree => by
        rw [sameTicks]
        exact accounted.empty slot isFree)
      (accounted.ordered ..)
  rw [t.count_same slot rfl] at kept
  exact kept

/-- `lp_get_connection` starts a new incarnation without ticks. -/
theorem Accounted.got
    {t : TickSystem}
    (accounted : Accounted t)
    {slot : Nat}
    {rest : List Nat}
    (free : t.proc.freeConnections = slot :: rest)
    {c : Connection}
    {p : Process}
    (sameTicks : c.taskTicks = (t.conns slot).taskTicks)
    (newIncarnation : c.incarnation = (t.conns slot).incarnation + 1)
    (left : p.freeConnections = rest) :
    Accounted
      { t with
        conns := Function.update t.conns slot c
        proc := p } where
  nodup := by
    have nodup := accounted.nodup
    rw [free, List.nodup_cons] at nodup
    simp only [left]
    exact nodup.2
  balance other := by
    simp only [left, current]
    intro taken
    by_cases same : other = slot
    · subst other
      have isFree : slot ∈ t.proc.freeConnections := by
        rw [free]
        exact List.mem_cons_self ..
      simp only [Function.update_self, newIncarnation, sameTicks,
        accounted.empty slot isFree,
        accounted.later slot _ (Nat.lt_succ_self _)]
      rfl
    · simp only [Function.update_of_ne same]
      refine accounted.balance other ?_
      rw [free, List.mem_cons, not_or]
      exact ⟨same, taken⟩
  empty other := by
    simp only [left]
    intro isFree
    have inFree : other ∈ t.proc.freeConnections := by
      rw [free]
      exact List.mem_cons_of_mem _ isFree
    by_cases same : other = slot
    · subst other
      simp only [Function.update_self, sameTicks]
      exact accounted.empty slot inFree
    · simp only [Function.update_of_ne same]
      exact accounted.empty other inFree
  later other incarnation := by
    by_cases same : other = slot
    · subst other
      simp only [Function.update_self, newIncarnation]
      intro isLater
      exact accounted.later slot incarnation (by omega)
    · simp only [Function.update_of_ne same]
      exact accounted.later other incarnation
  ordered := accounted.ordered

/-- `lp_free_connection` leaves a slot without ticks. -/
theorem Accounted.freed
    {t : TickSystem}
    (accounted : Accounted t)
    {slot : Nat}
    (taken : slot ∉ t.proc.freeConnections)
    {c : Connection}
    {p : Process}
    (noTicks : c.taskTicks = [])
    (sameIncarnation : c.incarnation = (t.conns slot).incarnation)
    (free : p.freeConnections = slot :: t.proc.freeConnections) :
    Accounted
      { t with
        conns := Function.update t.conns slot c
        proc := p } where
  nodup := by
    simp only [free]
    exact List.nodup_cons.mpr ⟨taken, accounted.nodup⟩
  balance other := by
    simp only [free, List.mem_cons, not_or, current]
    rintro ⟨different, stillTaken⟩
    simp only [Function.update_of_ne different]
    exact accounted.balance other stillTaken
  empty other := by
    simp only [free, List.mem_cons]
    intro isFree
    by_cases same : other = slot
    · subst other
      simp only [Function.update_self]
      exact noTicks
    · simp only [Function.update_of_ne same]
      exact accounted.empty other (isFree.resolve_left same)
  later other incarnation := by
    by_cases same : other = slot
    · subst other
      simp only [Function.update_self, sameIncarnation]
      exact accounted.later slot incarnation
    · simp only [Function.update_of_ne same]
      exact accounted.later other incarnation
  ordered := accounted.ordered

/-- What `lp_mysql_push_task` does to the connection and the free slots. -/
theorem lpMysqlPushTask_fields
    (allocs : PushAllocs)
    (mysql : Nat)
    (task : Task)
    (c : Connection)
    (p : Process) :
    (lpMysqlPushTask allocs mysql task c p).2.1 =
        (lpConnRegisterTaskTick allocs.tick c task).2 ∧
      (lpMysqlPushTask allocs mysql task c p).2.2.freeConnections =
        p.freeConnections := by
  rcases allocs with ⟨tick, node⟩
  cases node <;> exact ⟨rfl, rfl⟩

/-- Registering a tick keeps the accounts. -/
theorem Accounted.searched
    {t : TickSystem}
    (accounted : Accounted t)
    (allocs : PushAllocs)
    (mysql : Nat)
    {task : Task}
    (taken : task.c ∉ t.proc.freeConnections) :
    Accounted
      { conns :=
          Function.update t.conns task.c
            (lpMysqlPushTask allocs mysql task (t.conns task.c) t.proc).2.1
        proc :=
          (lpMysqlPushTask allocs mysql task (t.conns task.c) t.proc).2.2
        counts :=
          t.count task.c
            (.search
              (lpConnRegisterTaskTick allocs.tick (t.conns task.c) task).1)
      } := by
  obtain ⟨connection, free⟩ :=
    lpMysqlPushTask_fields allocs mysql task (t.conns task.c) t.proc
  have balance := accounted.balance task.c taken
  have ordered := accounted.ordered task.c (t.conns task.c).incarnation
  rw [connection]
  cases allocated : allocs.tick with
  | true =>
      refine accounted.counted rfl free (fun _ => ?_)
        (fun isFree => (taken isFree).elim)
        ⟨ordered.replies, ?_, ?_⟩
      · simp only [lpConnRegisterTaskTick, if_true, TickCounts.search,
          List.length_append, List.length_singleton]
        omega
      · exact ordered.accepted.trans (Nat.le_add_right _ _)
      · simp only [lpConnRegisterTaskTick, if_true, TickCounts.search]
        exact Nat.succ_le_succ ordered.registered
  | false =>
      have failed : ¬ lpErr = lpOk := by decide
      refine accounted.counted rfl free (fun _ => ?_)
        (fun isFree => (taken isFree).elim)
        ⟨ordered.replies, ?_, ?_⟩
      · simp only [lpConnRegisterTaskTick, Bool.false_eq_true, if_false,
          TickCounts.search, failed]
        exact balance
      · exact ordered.accepted.trans (Nat.le_add_right _ _)
      · simp only [lpConnRegisterTaskTick, Bool.false_eq_true, if_false,
          TickCounts.search, failed]
        exact ordered.registered.trans (Nat.le_succ _)

/-- What a reply leaves of the ticks, the incarnation and the free slots. -/
theorem replied_fields
    {ldap : Nat}
    {task : Task}
    {c c' : Connection}
    {p p' : Process}
    {ret : Int}
    (replied : Replied ldap task c p (ret, c', p')) :
    c'.taskTicks = (lpConnCheckTaskTick c task).2.taskTicks ∧
      c'.incarnation = c.incarnation ∧
      p'.freeConnections = p.freeConnections := by
  cases replied with
  | refused unknown =>
      rw [lpConnCheckTaskTick_rejects unknown]
      exact ⟨rfl, rfl, rfl⟩
  | foreign registered other =>
      rw [lpConnCheckTaskTick_accepts registered]
      exact ⟨rfl, rfl, rfl⟩
  | answered ret rplList sent datas registered owner fromList =>
      rw [lpConnCheckTaskTick_accepts registered]
      exact ⟨rfl, rfl, rfl⟩

/-- Checking a tick keeps the accounts. -/
theorem Accounted.checked
    {t : TickSystem}
    (accounted : Accounted t)
    (ldap : Nat)
    (task : Task)
    {c : Connection}
    {p : Process}
    {ret : Int}
    (replied : Replied ldap task (t.conns task.c) t.proc (ret, c, p)) :
    Accounted
      { conns := Function.update t.conns task.c c
        proc := p
        counts :=
          t.count task.c
            (.reply (lpConnCheckTaskTick (t.conns task.c) task).1
              (appendedReplies ldap task (t.conns task.c) t.proc)) } := by
  obtain ⟨ticks, incarnation, free⟩ := replied_fields replied
  have ordered := accounted.ordered task.c (t.conns task.c).incarnation
  have appended :=
    appendedReplies_le ldap task (t.conns task.c) t.proc
  by_cases registered : task.tick ∈ (t.conns task.c).taskTicks
  · have taken : task.c ∉ t.proc.freeConnections := by
      intro isFree
      rw [accounted.empty task.c isFree] at registered
      exact List.not_mem_nil registered
    have balance := accounted.balance task.c taken
    have erased := List.length_erase_add_one registered
    rw [lpConnCheckTaskTick_accepts registered] at ticks appended ⊢
    simp only [if_true] at appended
    refine accounted.counted incarnation free (fun _ => ?_)
      (fun isFree => (taken isFree).elim) ⟨?_, ?_, ordered.registered⟩
    · simp only [TickCounts.reply, if_true, ticks]
      omega
    · simp only [TickCounts.reply, if_true]
      exact Nat.add_le_add ordered.replies appended
    · simp only [TickCounts.reply, if_true]
      omega
  · have failed : ¬ lpErr = lpOk := by decide
    rw [lpConnCheckTaskTick_rejects registered] at ticks appended ⊢
    simp only [failed, if_false, Nat.le_zero] at appended
    refine accounted.counted incarnation free (fun taken => ?_)
      (fun isFree => ?_) ⟨?_, ?_, ordered.registered⟩
    · simp only [TickCounts.reply, failed, if_false, ticks]
      exact accounted.balance task.c taken
    · rw [ticks]
      exact accounted.empty task.c isFree
    · simp only [TickCounts.reply, failed, if_false, appended]
      exact ordered.replies
    · simp only [TickCounts.reply, failed, if_false]
      exact ordered.accepted

/-- What a call does when it is possible. -/
inductive Called (t : TickSystem) : TickAction → TickSystem → Prop where
  | got
      (sockfd : Int)
      (slot : Nat)
      (rest : List Nat)
      (free : t.proc.freeConnections = slot :: rest) :
      Called t (.get sockfd)
        { t with
          conns :=
            Function.update t.conns slot
              { t.conns slot with
                fd := sockfd
                incarnation := (t.conns slot).incarnation + 1 }
          proc :=
            { t.proc with
              freeConnections := rest
              freeConnectionsN := t.proc.freeConnectionsN - 1
              connectionsN := t.proc.connectionsN + 1 } }
  | searched
      (allocs : PushAllocs)
      (mysql : Nat)
      (task : Task)
      (allocated : task.c ∉ t.proc.freeConnections) :
      Called t (.search allocs mysql task)
        { conns :=
            Function.update t.conns task.c
              (lpMysqlPushTask allocs mysql task (t.conns task.c) t.proc).2.1
          proc :=
            (lpMysqlPushTask allocs mysql task (t.conns task.c) t.proc).2.2
          counts :=
            t.count task.c
              (.search
                (lpConnRegisterTaskTick allocs.tick (t.conns task.c) task).1)
        }
  | replied
      (ldap : Nat)
      (task : Task)
      (send : List Send)
      (ret : Int)
      (c : Connection)
      (p : Process)
      (replied : Replied ldap task (t.conns task.c) t.proc (ret, c, p)) :
      Called t (.reply ldap task send)
        { conns := Function.update t.conns task.c c
          proc := p
          counts :=
            t.count task.c
              (.reply (lpConnCheckTaskTick (t.conns task.c) task).1
                (appendedReplies ldap task (t.conns task.c) t.proc)) }
  | freed
      (slot : Nat)
      (allocated : slot ∉ t.proc.freeConnections)
      (p : Process)
      (free : p.freeConnections = slot :: t.proc.freeConnections) :
      Called t (.free slot)
        { t with
          conns := Function.update t.conns slot (t.conns slot).cleared
          proc := p }
  | kept
      (slot : Nat)
      (c : Connection)
      (p : Process)
      (sameTicks : c.taskTicks = (t.conns slot).taskTicks)
      (sameIncarnation : c.incarnation = (t.conns slot).incarnation)
      (sameFree : p.freeConnections = t.proc.freeConnections) :
      Called t (.other slot c p)
        { t with
          conns := Function.update t.conns slot c
          proc := p }

/-- Every call that is possible does one of these. -/
theorem step_called
    {t next : TickSystem}
    {action : TickAction}
    (taken : t.step action = some next) :
    Called t action next := by
  cases action with
  | get sockfd =>
      cases free : t.proc.freeConnections with
      | nil =>
          simp [TickSystem.step, lpGetConnection, free] at taken
      | cons slot rest =>
          simp only [TickSystem.step, lpGetConnection, free,
            Option.some.injEq] at taken
          subst next
          exact .got sockfd slot rest free
  | search allocs mysql task =>
      simp only [TickSystem.step] at taken
      split at taken
      · cases taken
      · next allocated =>
          simp only [Option.some.injEq] at taken
          subst next
          exact .searched allocs mysql task allocated
  | reply ldap task send =>
      simp only [TickSystem.step] at taken
      split at taken
      · cases taken
      · next fromMysql =>
          obtain ⟨⟨ret, c, p⟩, processed, replied⟩ :=
            taskProcess_replied ldap (not_not.mp fromMysql) send
              (t.conns task.c) t.proc
          simp only [processed, Option.some.injEq] at taken
          subst next
          exact .replied ldap task send ret c p replied
  | free slot =>
      simp only [TickSystem.step] at taken
      split at taken
      · cases taken
      · next allocated =>
          cases discard : (t.conns slot).discard with
          | false =>
              simp [lpFreeConnection, discardConnectionData,
                discard] at taken
          | true =>
              simp only [lpFreeConnection_eq slot discard t.proc,
                Option.some.injEq] at taken
              subst next
              exact .freed slot allocated _ rfl
  | other slot c p =>
      simp only [TickSystem.step] at taken
      split at taken
      · next same =>
          simp only [Option.some.injEq] at taken
          subst next
          exact .kept slot c p same.1 same.2.1 same.2.2
      · cases taken

/-- Every call keeps the accounts. -/
theorem Accounted.step
    {t next : TickSystem}
    {action : TickAction}
    (accounted : Accounted t)
    (taken : t.step action = some next) :
    Accounted next := by
  cases step_called taken with
  | got sockfd slot rest free =>
      exact accounted.got free rfl rfl rfl
  | searched allocs mysql task allocated =>
      exact accounted.searched allocs mysql allocated
  | replied ldap task send ret c p replied =>
      exact accounted.checked ldap task replied
  | freed slot allocated p free =>
      exact accounted.freed allocated rfl rfl free
  | kept slot c p sameTicks sameIncarnation sameFree =>
      exact accounted.kept sameTicks sameIncarnation sameFree

/-- A change of one slot that keeps its ticks keeps all of them. -/
theorem update_sameTicks
    {conns : Nat → Connection}
    {slot : Nat}
    {c : Connection}
    (sameTicks : c.taskTicks = (conns slot).taskTicks)
    (other : Nat) :
    (Function.update conns slot c other).taskTicks =
      (conns other).taskTicks := by
  by_cases same : other = slot
  · subst other
    rw [Function.update_self]
    exact sameTicks
  · rw [Function.update_of_ne same]

/-- A reply takes one entry out, or it changes nothing. -/
theorem replied_effect
    {t : TickSystem}
    {ldap : Nat}
    {task : Task}
    {ret : Int}
    {c : Connection}
    {p : Process}
    (replied : Replied ldap task (t.conns task.c) t.proc (ret, c, p)) :
    (lpConnCheckTaskTick (t.conns task.c) task).1 = lpOk ∧
        TakenOut task.tick (t.conns task.c).taskTicks c.taskTicks ∨
      (lpConnCheckTaskTick (t.conns task.c) task).1 = lpErr ∧
        task.tick ∉ (t.conns task.c).taskTicks ∧
        Function.update t.conns task.c c = t.conns ∧
        t.count task.c
            (.reply (lpConnCheckTaskTick (t.conns task.c) task).1
              (appendedReplies ldap task (t.conns task.c) t.proc)) =
          t.counts := by
  by_cases registered : task.tick ∈ (t.conns task.c).taskTicks
  · refine .inl ⟨?_, ?_⟩
    · rw [lpConnCheckTaskTick_accepts registered]
    · rw [(replied_fields replied).1,
        lpConnCheckTaskTick_accepts registered]
      exact takenOut_erase registered
  · have noReply :
        appendedReplies ldap task (t.conns task.c) t.proc = 0 := by
      have appended :=
        appendedReplies_le ldap task (t.conns task.c) t.proc
      rw [lpConnCheckTaskTick_rejects registered] at appended
      exact Nat.le_zero.mp appended
    rw [lpConnCheckTaskTick_rejects registered, noReply]
    refine .inr ⟨rfl, registered, ?_, t.count_same task.c rfl⟩
    cases replied with
    | refused unknown =>
        exact Function.update_eq_self ..
    | foreign known other =>
        exact (registered known).elim
    | answered ret rplList sent datas known owner fromList =>
        exact (registered known).elim

/-- Every call has its effect on the ticks, and no other. -/
theorem step_effect
    {t next : TickSystem}
    {action : TickAction}
    (taken : t.step action = some next) :
    Effect t next action := by
  cases step_called taken with
  | got sockfd slot rest free =>
      exact update_sameTicks rfl
  | searched allocs mysql task allocated =>
      constructor
      · simp only [Function.update_self, lpMysqlPushTask_ticks]
      · exact fun other different => Function.update_of_ne different ..
  | replied ldap task send ret c p replied =>
      refine ⟨?_, fun other different =>
        Function.update_of_ne different ..⟩
      simp only [Function.update_self]
      exact replied_effect replied
  | freed slot allocated p free =>
      constructor
      · simp only [Function.update_self]
        rfl
      · exact fun other different => Function.update_of_ne different ..
  | kept slot c p sameTicks sameIncarnation sameFree =>
      exact update_sameTicks sameTicks

/-- The accounts balance in every state that calls lead to. -/
theorem accounted_reached
    {env : Environment}
    {actions : List TickAction}
    {t : TickSystem}
    (run : Run (Enabled TickSystem.step) (TickSystem.initial env) actions t) :
    Accounted t :=
  run.invariant Accounted (fun accounted taken => accounted.step taken)
    (accounted_initial env)

/--
In every state of every run: the replies accepted on an allocated connection
and its outstanding ticks are the ticks registered on it; a free one has no
ticks; in no incarnation are there more replies than searches; and every call
takes out, adds or clears the ticks that it should and leaves those of the
other connections alone.
-/
theorem tick_accounting
    {env : Environment}
    {actions : List TickAction}
    {t : TickSystem}
    (run : Run (Enabled TickSystem.step) (TickSystem.initial env) actions t) :
    (∀ slot ∉ t.proc.freeConnections,
      (t.current slot).accepted + (t.conns slot).taskTicks.length =
        (t.current slot).registered) ∧
      (∀ slot ∈ t.proc.freeConnections, (t.conns slot).taskTicks = []) ∧
      (∀ slot incarnation,
        (t.counts slot incarnation).replies ≤
            (t.counts slot incarnation).accepted ∧
          (t.counts slot incarnation).accepted ≤
            (t.counts slot incarnation).registered ∧
          (t.counts slot incarnation).registered ≤
            (t.counts slot incarnation).searches) ∧
      ∀ action next, t.step action = some next → Effect t next action := by
  have accounted := accounted_reached run
  refine ⟨accounted.balance, accounted.empty, ?_,
    fun action next taken => step_effect taken⟩
  intro slot incarnation
  have ordered := accounted.ordered slot incarnation
  exact ⟨ordered.replies, ordered.accepted, ordered.registered⟩

/-- A query of slot 0, or its reply, with tick 7. -/
def tickedTask (source : TaskSource) : Task where
  id := 0
  sender := none
  receiver := none
  senderSource := source
  receiverSource := source
  taskType := lpTaskMysqlMsg
  c := 0
  data := MysqlMsg.cleared
  tick := 7
  issued := 1

/-- Two searches with equal ticks and three replies to them. -/
def equalTicks : List TickAction :=
  [.get 5,
    .other 0
      { Connection.initial 0 with ldap := some 0, incarnation := 1 }
      { Process.initial .still with freeConnections := [] },
    .search .succeed 0 (tickedTask .ldap),
    .search .succeed 0 (tickedTask .ldap),
    .reply 0 (tickedTask .mysql) [],
    .reply 0 (tickedTask .mysql) [],
    .reply 0 (tickedTask .mysql) []]

/-- Two of the three replies are accepted. -/
theorem tick_accounting_equal :
    ∃ t,
      Run (Enabled TickSystem.step) (TickSystem.initial .still) equalTicks
          t ∧
        (t.current 0).accepted = 2 ∧
        ∀ slot ∉ t.proc.freeConnections,
          (t.current slot).accepted + (t.conns slot).taskTicks.length =
            (t.current slot).registered := by
  have reached :
      ∃ t,
        Run (Enabled TickSystem.step) (TickSystem.initial .still) equalTicks
            t ∧
          (t.current 0).accepted = 2 :=
    exec_reaches _ (by decide +kernel)
  obtain ⟨t, run, accepted⟩ := reached
  exact ⟨t, run, accepted, (tick_accounting run).1⟩

end TickSystem

end LdapProxy

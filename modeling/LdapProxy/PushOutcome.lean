import LdapProxy.LdapLogic

namespace LdapProxy

/-!
# All-or-nothing pushes

A push changes two pieces of state one after the other, and the second change
may fail: `lp_ldap_push_task` enqueues the task before it writes to the notify
pipe, and `lp_mysql_push_task` registers the tick of the task before it
allocates the queue node.  Neither undoes its first change.
-/

/-- How often a queue holds a task. -/
def Task.timesIn (task : Task) (queue : List Task) : Nat :=
  (queue.map Task.id).count task.id

/--
`lp_ldap_push_task` hands the task over exactly once, or its receiver does not
have the task afterwards.
-/
def LdapPushWhole
    (write : PipeWrite)
    (ldap : Option Nat)
    (task : Task)
    (ldaps : Nat → LdapWorker) :
    Prop :=
  let (ret, after) := lpLdapPushTask write ldap task ldaps
  (ret = lpErr →
      ∀ index, ldap = some index → task.timesIn (after index).queue = 0) ∧
    (ret = lpOk →
      ∃ index, ldap = some index ∧ task.timesIn (after index).queue = 1)

/--
`lp_mysql_push_task` hands the task over exactly once and adds its tick to the
tick list, or it leaves the queue and the tick list as they were.
-/
def MysqlPushWhole
    (allocs : PushAllocs)
    (mysql : Nat)
    (task : Task)
    (c : Connection)
    (p : Process) :
    Prop :=
  let (ret, after, shared) := lpMysqlPushTask allocs mysql task c p
  (ret = lpErr →
      (shared.mysqls mysql).queue = (p.mysqls mysql).queue ∧
        after.taskTicks = c.taskTicks) ∧
    (ret = lpOk →
      task.timesIn (shared.mysqls mysql).queue = 1 ∧
        after.taskTicks = c.taskTicks ++ [task.tick])

/-- A task that a queue does not hold is there once after it is appended. -/
theorem Task.timesIn_append_self
    {task : Task}
    {queue : List Task}
    (fresh : task.timesIn queue = 0) :
    task.timesIn (queue ++ [task]) = 1 := by
  have before : (queue.map Task.id).count task.id = 0 := fresh
  simp [Task.timesIn, before]

/-- The tick list after `lp_mysql_push_task` depends on its own allocation. -/
theorem lpMysqlPushTask_ticks
    (allocs : PushAllocs)
    (mysql : Nat)
    (task : Task)
    (c : Connection)
    (p : Process) :
    (lpMysqlPushTask allocs mysql task c p).2.1.taskTicks =
      c.taskTicks ++ (if allocs.tick then [task.tick] else []) := by
  rcases allocs with ⟨tick, node⟩
  cases tick <;> cases node <;>
    simp [lpMysqlPushTask, lpConnRegisterTaskTick]

/-- The queue after `lp_mysql_push_task` depends on the node. -/
theorem lpMysqlPushTask_queue
    (allocs : PushAllocs)
    (mysql : Nat)
    (task : Task)
    (c : Connection)
    (p : Process) :
    ((lpMysqlPushTask allocs mysql task c p).2.2.mysqls mysql).queue =
      (p.mysqls mysql).queue ++ (if allocs.node then [task] else []) := by
  rcases allocs with ⟨tick, node⟩
  cases node <;> simp [lpMysqlPushTask]

/-- The result of `lp_mysql_push_task` is that of its node. -/
theorem lpMysqlPushTask_ret
    (allocs : PushAllocs)
    (mysql : Nat)
    (task : Task)
    (c : Connection)
    (p : Process) :
    (lpMysqlPushTask allocs mysql task c p).1 =
      if allocs.node then lpOk else lpErr := by
  rcases allocs with ⟨tick, node⟩
  cases node <;> simp [lpMysqlPushTask]

/-- A push to an LDAP worker is whole exactly when the pipe takes the write. -/
theorem ldapPushWhole_some
    {write : PipeWrite}
    {index : Nat}
    {task : Task}
    {ldaps : Nat → LdapWorker}
    (fresh : task.timesIn (ldaps index).queue = 0) :
    LdapPushWhole write (some index) task ldaps ↔ write ≠ .failed := by
  have once := Task.timesIn_append_self fresh
  have distinct : ¬ lpOk = lpErr := by decide
  simp only [LdapPushWhole, lpLdapPushTask_eq]
  cases write with
  | written =>
      simp [ldapNotify, distinct, once]
  | again =>
      simp [ldapNotify, distinct, once]
  | failed =>
      -- the task stays in the queue of a push that reports an error
      simp [ldapNotify, once]

/-- A push to a MySQL worker is whole exactly when its allocations agree. -/
theorem mysqlPushWhole_iff
    {allocs : PushAllocs}
    {mysql : Nat}
    {task : Task}
    {c : Connection}
    {p : Process}
    (fresh : task.timesIn (p.mysqls mysql).queue = 0) :
    MysqlPushWhole allocs mysql task c p ↔ allocs.tick = allocs.node := by
  have once := Task.timesIn_append_self fresh
  have distinct : ¬ lpErr = lpOk := by decide
  simp only [MysqlPushWhole, lpMysqlPushTask_ret, lpMysqlPushTask_queue,
    lpMysqlPushTask_ticks]
  rcases allocs with ⟨tick, node⟩
  cases tick <;> cases node <;>
    simp [once, distinct, Ne.symm distinct]

/--
A push to an LDAP worker is all-or-nothing unless the write to its notify pipe
fails, and a push to a MySQL worker exactly when the tick and the queue node
are both allocated or both not.
-/
theorem pushes_whole_iff
    (write : PipeWrite)
    (ldap : Option Nat)
    (ldaps : Nat → LdapWorker)
    (allocs : PushAllocs)
    (mysql : Nat)
    (c : Connection)
    (p : Process)
    (task : Task)
    (freshLdap :
      ∀ index, ldap = some index →
        task.timesIn (ldaps index).queue = 0)
    (freshMysql : task.timesIn (p.mysqls mysql).queue = 0) :
    (LdapPushWhole write ldap task ldaps ↔
        ldap = none ∨ write ≠ .failed) ∧
      (MysqlPushWhole allocs mysql task c p ↔
        allocs.tick = allocs.node) := by
  refine ⟨?_, mysqlPushWhole_iff freshMysql⟩
  cases ldap with
  | none =>
      have distinct : ¬ lpErr = lpOk := by decide
      simp [LdapPushWhole, lpLdapPushTask, distinct]
  | some index =>
      rw [ldapPushWhole_some (freshLdap index rfl)]
      simp

/-- The first task of a process, as a query of slot 0. -/
def firstQuery : Task :=
  queryTask ⟨0, 0⟩ MysqlMsg.cleared 0 0 (Connection.initial 0)

/-- Pushes of one task to idle workers, with everything succeeding. -/
theorem pushes_whole_iff_idle :
    (LdapPushWhole .written (some 0) firstQuery
          (fun _ => LdapWorker.initial) ↔
        (some 0 : Option Nat) = none ∨ PipeWrite.written ≠ .failed) ∧
      (MysqlPushWhole .succeed 0 firstQuery (Connection.initial 0)
          (Process.initial .still) ↔
        PushAllocs.succeed.tick = PushAllocs.succeed.node) :=
  pushes_whole_iff .written (some 0) (fun _ => LdapWorker.initial) .succeed 0
    (Connection.initial 0) (Process.initial .still) firstQuery
    (fun _ _ => rfl) rfl

/--
Each of the three failures leaves half a push behind: the task of a push that
reports an error is queued, its tick is registered although the node is
missing, and a task is queued without its tick.
-/
theorem pushes_halved :
    ¬ LdapPushWhole .failed (some 0) firstQuery
        (fun _ => LdapWorker.initial) ∧
      ¬ MysqlPushWhole { tick := true, node := false } 0 firstQuery
          (Connection.initial 0) (Process.initial .still) ∧
      ¬ MysqlPushWhole { tick := false, node := true } 0 firstQuery
          (Connection.initial 0) (Process.initial .still) := by
  refine ⟨?_, ?_, ?_⟩
  · rw [ldapPushWhole_some rfl]
    decide
  · rw [mysqlPushWhole_iff rfl]
    decide
  · rw [mysqlPushWhole_iff rfl]
    decide

end LdapProxy

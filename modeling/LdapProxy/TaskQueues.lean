import LdapProxy.ServerState

namespace LdapProxy

/-!
# Handing tasks to workers

The functions that choose a worker, push a task to its queue and pop it there:
`lp_mysql_push_task`, `lp_mysql_pop_task` and `lp_get_mysql` of `lp_mysql.c`,
`lp_ldap_push_task`, `__ldap_notify`, `__pop_task` and `lp_get_ldap` of
`lp_ldap.c`.  The two allocations of a push to a MySQL worker and the write to
the notify pipe of an LDAP worker may fail, so their outcome is an argument.
-/

/-- `TASK_SATUR` -/
def taskSatur : UInt32 := 1000

/--
How the allocations of `lp_mysql_push_task` end: the entry of the tick list and
the node of the queue.
-/
structure PushAllocs where
  tick : Bool
  node : Bool
  deriving Repr, DecidableEq

/-- Both allocations succeed. -/
def PushAllocs.succeed : PushAllocs where
  tick := true
  node := true

/-- `lp_mysql_push_task` -/
def lpMysqlPushTask
    (allocs : PushAllocs)
    (mysql : Nat)
    (task : Task)
    (c : Connection)
    (p : Process) :
    Int × Connection × Process :=
  -- the result of the registration is not looked at
  let c := (lpConnRegisterTaskTick allocs.tick c task).2
  if allocs.node then
    let worker := p.mysqls mysql
    let taskNum := worker.taskNum + 1
    (lpOk, c,
      { p with
        mysqls :=
          Function.update p.mysqls mysql
            { worker with
              queue := worker.queue ++ [task]
              taskNum := taskNum
              state :=
                if taskSatur < taskNum then .busy else worker.state } })
  else
    (lpErr, c, p)

/-- `lp_mysql_pop_task`, once the queue has a task. -/
def lpMysqlPopTask (worker : MysqlWorker) : Option MysqlWorker :=
  match worker.queue with
  | [] =>
      none
  | task :: rest =>
      let taskNum := worker.taskNum - 1
      some
        { taskNum := taskNum
          state :=
            if taskNum < taskSatur * 7 / 8 then .active else worker.state
          queue := rest
          current := some task }

/-- `lp_get_mysql` -/
def lpGetMysql (env : Environment) (p : Process) : Nat × Process :=
  let index := p.mysqlIndex + 1
  (p.mysqlIndex,
    { p with
      mysqlIndex := if env.mysqlNum ≤ index then 0 else index })

/-- How the write of one octet to a notify pipe ends. -/
inductive PipeWrite where
  | written
  /-- `EAGAIN`: the pipe is full. -/
  | again
  | failed
  deriving Repr, DecidableEq

/-- `__ldap_notify` -/
def ldapNotify : PipeWrite → Int
  | .written =>
      lpOk
  | .again =>
      lpOk
  | .failed =>
      lpErr

/-- `lp_ldap_push_task` -/
def lpLdapPushTask
    (write : PipeWrite)
    (ldap : Option Nat)
    (task : Task)
    (ldaps : Nat → LdapWorker) :
    Int × (Nat → LdapWorker) :=
  match ldap with
  | none =>
      (lpErr, ldaps)
  | some index =>
      let worker := ldaps index
      let ldaps :=
        Function.update ldaps index
          { worker with queue := worker.queue ++ [task] }
      if ldapNotify write = lpErr then
        (lpErr, ldaps)
      else
        (lpOk, ldaps)

/-- `lp_ldap_push_task` is the enqueue followed by the notification. -/
theorem lpLdapPushTask_eq
    (write : PipeWrite)
    (index : Nat)
    (task : Task)
    (ldaps : Nat → LdapWorker) :
    lpLdapPushTask write (some index) task ldaps =
      (ldapNotify write,
        Function.update ldaps index
          { ldaps index with queue := (ldaps index).queue ++ [task] }) := by
  cases write with
  | written =>
      rfl
  | again =>
      rfl
  | failed =>
      rfl

/-- `__pop_task`, keeping the task at the worker. -/
def popTask (worker : LdapWorker) : Option LdapWorker :=
  match worker.queue with
  | [] =>
      none
  | task :: rest =>
      some { queue := rest, current := some task }

/-- `lp_get_ldap`: the worker and the next value of `__index`. -/
def lpGetLdap (env : Environment) (index : Nat) : Nat × Nat :=
  let index := if env.ldapNum ≤ index then 0 else index
  (index, index + 1)

end LdapProxy

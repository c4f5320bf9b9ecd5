import LdapProxy.LdapHandler
import LdapProxy.MysqlRoutine
import LdapProxy.TransitionRun

namespace LdapProxy

open LdapProxy.Lber

/-!
# The whole proxy

The server thread, the LDAP workers and the MySQL workers as one transition
system.  A handler call or the execution of one task is one step; taking a task
from a queue and executing it are two steps, so other threads run in between.
A step that hits a failing assertion has no successor: the daemon is gone.  In
the steps allocations and writes to the notify pipes succeed, so a registration
fails only when no slot is free.
-/

/-- All connections, all workers and the shared data. -/
structure System where
  conns : Nat → Connection
  ldaps : Nat → LdapWorker
  ldapIndex : Nat
  proc : Process

/-- The proxy once all modules are initialised. -/
def System.initial (env : Environment) : System where
  conns := Connection.initial
  ldaps := fun _ => LdapWorker.initial
  ldapIndex := 0
  proc := Process.initial env

/--
The loop around `lp_get_connection` in `lp_ldap_io_register`.  A call is one
step, so without a free slot `lp_get_connection` returns `NULL` in every try;
in the code another thread may give a slot back while the loop sleeps.
-/
def getConnectionRetry :
    Nat → Int → (Nat → Connection) → Process →
      Option (Nat × (Nat → Connection) × Process)
  | 0, _, _, _ =>
      none
  | tries + 1, sockfd, conns, p =>
      match lpGetConnection sockfd conns p with
      | some found =>
          some found
      | none =>
          getConnectionRetry tries sockfd conns p

/-- How the fallible calls of `lp_ldap_io_register` end. -/
structure RegisterOutcome where
  /-- `ber_sockbuf_alloc` -/
  sockbuf : Bool
  /-- `lp_task_new` -/
  task : Bool
  /-- The write to the notify pipe in `lp_ldap_push_task`. -/
  write : PipeWrite
  deriving Repr, DecidableEq

/-- Every call succeeds. -/
def RegisterOutcome.succeed : RegisterOutcome where
  sockbuf := true
  task := true
  write := .written

/-- `lp_free_connection(c); return LP_ERR;` -/
def registerFailed (slot : Nat) (s : System) : Except Abort (Int × System) :=
  match lpFreeConnection slot (s.conns slot) s.proc with
  | .error abort =>
      .error abort
  | .ok (c, p) =>
      .ok (lpErr,
        { s with conns := Function.update s.conns slot c, proc := p })

/-- The task that hands a new connection to its LDAP worker. -/
def registerTask (new : NewTask) (ldap slot incarnation : Nat) : Task where
  id := new.id
  sender := none
  receiver := some (.ldap ldap)
  senderSource := .server
  receiverSource := .ldap
  taskType := lpTaskIoAllReg
  c := slot
  data := MysqlMsg.cleared
  tick := new.tick
  issued := incarnation

/-- The part of `lp_ldap_io_register` after the Sockbuf is there. -/
def registerWithWorker
    (env : Environment)
    (outcome : RegisterOutcome)
    (slot : Nat)
    (s : System) :
    Except Abort (Int × System) :=
  if outcome.task = false then
    registerFailed slot s
  else
    let (new, p) := lpTaskNew env s.proc
    let (ldap, ldapIndex) := lpGetLdap env s.ldapIndex
    let c :=
      { s.conns slot with
        ldap := some ldap
        discard := true
        connActive := true }
    let task := registerTask new ldap slot c.incarnation
    let (ret, ldaps) :=
      lpLdapPushTask outcome.write (some ldap) task s.ldaps
    let s :=
      { conns := Function.update s.conns slot c
        ldaps := ldaps
        ldapIndex := ldapIndex
        proc := p }
    if ret = lpErr then
      registerFailed slot { s with proc := lpTaskDestroy task s.proc }
    else
      .ok (lpOk, s)

/-- `lp_ldap_io_register` -/
def lpLdapIoRegister
    (env : Environment)
    (outcome : RegisterOutcome)
    (sockfd : Int)
    (s : System) :
    Except Abort (Int × System) :=
  match getConnectionRetry 3 sockfd s.conns s.proc with
  | none =>
      .ok (lpErr, s)
  | some (slot, conns, p) =>
      let c := conns slot
      if c.connActive then
        .error .connActive
      else if c.connClosing then
        .error .connClosing
      else if c.connClosed then
        .error .connClosed
      else if outcome.sockbuf = false then
        registerFailed slot { s with conns := conns, proc := p }
      else
        let c := { c with sb := true, curData := none }
        registerWithWorker env outcome slot
          { s with conns := Function.update conns slot c, proc := p }

/-- What the threads do. -/
inductive Action where
  /-- The server thread registers an accepted client. -/
  | register (sockfd : Int)
  /-- The notify callback of an LDAP worker takes a task from its queue. -/
  | ldapPop (ldap : Nat)
  /-- An LDAP worker executes the task it took. -/
  | ldapExec (ldap : Nat) (send : List Send)
  /-- An LDAP worker handles an event of a connection. -/
  | ldapEvent (ldap slot : Nat) (event : Event)
  /-- A MySQL worker takes a task from its queue. -/
  | mysqlPop (mysql : Nat)
  /-- A MySQL worker executes the task it took. -/
  | mysqlExec (mysql : Nat)

/-- The event can be delivered: it is added to this worker's event base. -/
def Delivered (ldap : Nat) (event : Event) (c : Connection) : Prop :=
  (event.read || event.write || event.timeout) = true ∧
    (event.read = true → c.rev = some ldap) ∧
    (event.write = true → c.wev = some ldap) ∧
    (event.timeout = true → c.rev = some ldap ∨ c.wev = some ldap)

instance (ldap : Nat) (event : Event) (c : Connection) :
    Decidable (Delivered ldap event c) :=
  inferInstanceAs (Decidable (_ ∧ _ ∧ _ ∧ _))

/-- The state after `lp_ldap_io_register`. -/
def stepRegister (env : Environment) (sockfd : Int) (s : System) :
    Option System :=
  match lpLdapIoRegister env .succeed sockfd s with
  | .error _ =>
      none
  | .ok (_, s) =>
      some s

/-- The state after `__pop_task` in `__ldap_notify_cb`. -/
def stepLdapPop (ldap : Nat) (s : System) : Option System :=
  if (s.ldaps ldap).current.isSome then
    none
  else
    match popTask (s.ldaps ldap) with
    | none =>
        none
    | some worker =>
        -- `lp_assert(task->receiver == ldap)`
        if worker.current.bind Task.receiver = some (.ldap ldap) then
          some { s with ldaps := Function.update s.ldaps ldap worker }
        else
          none

/-- The state after `__task_process` in `__ldap_notify_cb`. -/
def stepLdapExec (ldap : Nat) (send : List Send) (s : System) :
    Option System :=
  match (s.ldaps ldap).current with
  | none =>
      none
  | some task =>
      match taskProcess ldap task send (s.conns task.c) s.proc with
      | .error _ =>
          none
      | .ok (_, c, p) =>
          some
            { s with
              conns := Function.update s.conns task.c c
              ldaps :=
                Function.update s.ldaps ldap
                  { s.ldaps ldap with current := none }
              proc := p }

/-- The state after `lp_ldap_io_event_handler`. -/
def stepLdapEvent
    (env : Environment)
    (ldap slot : Nat)
    (event : Event)
    (s : System) :
    Option System :=
  if (s.ldaps ldap).current.isNone ∧
      Delivered ldap event (s.conns slot) then
    match lpLdapIoEventHandler env slot event (s.conns slot) s.proc with
    | .error _ =>
        none
    | .ok (c, p) =>
        some { s with conns := Function.update s.conns slot c, proc := p }
  else
    none

/-- The state after `lp_mysql_pop_task` in `__mysql_routine`. -/
def stepMysqlPop (mysql : Nat) (s : System) : Option System :=
  if (s.proc.mysqls mysql).current.isSome then
    none
  else
    match lpMysqlPopTask (s.proc.mysqls mysql) with
    | none =>
        none
    | some worker =>
        some
          { s with
            proc :=
              { s.proc with
                mysqls := Function.update s.proc.mysqls mysql worker } }

/-- The state after the loop body of `__mysql_routine`. -/
def stepMysqlExec (env : Environment) (mysql : Nat) (s : System) :
    Option System :=
  match (s.proc.mysqls mysql).current with
  | none =>
      none
  | some task =>
      match mysqlRoutine env .written mysql task (s.conns task.c).ldap
          s.ldaps s.proc with
      | .error _ =>
          none
      | .ok (ldaps, p) =>
          some
            { s with
              ldaps := ldaps
              proc :=
                { p with
                  mysqls :=
                    Function.update p.mysqls mysql
                      { p.mysqls mysql with current := none } } }

/-- One step of the proxy. -/
def step (env : Environment) (s : System) : Action → Option System
  | .register sockfd =>
      stepRegister env sockfd s
  | .ldapPop ldap =>
      stepLdapPop ldap s
  | .ldapExec ldap send =>
      stepLdapExec ldap send s
  | .ldapEvent ldap slot event =>
      stepLdapEvent env ldap slot event s
  | .mysqlPop mysql =>
      stepMysqlPop mysql s
  | .mysqlExec mysql =>
      stepMysqlExec env mysql s

end LdapProxy

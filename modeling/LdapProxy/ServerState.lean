import LdapProxy.AllocationLedger
import LdapProxy.LberIo
import LdapProxy.MysqlMessage

namespace LdapProxy

open LdapProxy.Lber

/-!
# Connections, tasks and the data shared by the threads

The records of `lp_connection.h`, `lp_task.h`, `lp_mysql.c` and `lp_ldap.c`,
and the functions of `lp_connection.c` and `lp_task.c` on them.  A connection
is named by its slot in `__lp_connections` and a worker by its index.  The
chain of free connections through `c->data` is a list of slots.

Memory allocations succeed, except where a function takes their outcome as an
argument.  Fields that only logging reads are left out.
-/

/-- `LP_OK` -/
def lpOk : Int := 0

/-- `LP_ERR` -/
def lpErr : Int := -1

/-- `LP_AGAIN` -/
def lpAgain : Int := 1

/-- The octets of a text constant. -/
def ascii (text : String) : List UInt8 :=
  text.toUTF8.data.toList

/-- What `gettimeofday` stores. -/
structure Timeval where
  tvSec : Nat
  tvUsec : Nat
  usecBound : tvUsec < 1000000

/--
Configuration, clock and external lookups.  The clock is indexed by the number
of readings taken before; the lookups may answer differently for each query
task, so they are indexed by the task's address.
-/
structure Environment where
  ldapNum : Nat
  mysqlNum : Nat
  maxConnections : Nat
  ldapPositive : 0 < ldapNum
  mysqlPositive : 0 < mysqlNum
  clock : Nat → Timeval
  entUserExist : Nat → List UInt8 → Int
  smaMailListExist : Nat → List UInt8 → Int

/-- One worker of each kind, one connection and lookups that find nobody. -/
def Environment.small (clock : Nat → Timeval) : Environment where
  ldapNum := 1
  mysqlNum := 1
  maxConnections := 1
  ldapPositive := by decide
  mysqlPositive := by decide
  clock := clock
  entUserExist := fun _ _ => 1
  smaMailListExist := fun _ _ => 1

/-- The small environment with a clock that stands still. -/
def Environment.still : Environment :=
  Environment.small fun _ => ⟨0, 0, by decide⟩

/-- `lp_task_source` -/
inductive TaskSource where
  | server
  | ldap
  | mysql
  | taskManager
  deriving Repr, DecidableEq

/-- A worker thread, as `sender` and `receiver` of a task point to it. -/
inductive Worker where
  | ldap (index : Nat)
  | mysql (index : Nat)
  deriving Repr, DecidableEq

/-- `LP_TASK_LDAP_MSG` -/
def lpTaskLdapMsg : Nat := 2 ^ 6

/-- `LP_TASK_MYSQL_MSG` -/
def lpTaskMysqlMsg : Nat := 2 ^ 7

/-- `LP_TASK_IO_ALL_REG` -/
def lpTaskIoAllReg : Nat := 2 ^ 9

/--
`lp_task_t`.  `id` is the address of the task and `data` its `mysql_msg_t`,
which a registration task does not have and which is not read there.  The
history variable `issued` is the incarnation of the connection for which the
request behind the task was read.
-/
structure Task where
  id : Nat
  sender : Option Worker
  receiver : Option Worker
  senderSource : TaskSource
  receiverSource : TaskSource
  taskType : Nat
  c : Nat
  data : MysqlMsg
  tick : Nat
  issued : Nat

/--
`ldap_data_t`.  `id` is its address and `ber` its record, which has another
shape while it is received, decoded and sent.  The history variable
`incarnation` is the incarnation of the connection whose request this is, or
whose request this answers.
-/
structure LdapData (Ber : Type) where
  id : Nat
  ber : Ber
  incarnation : Nat
  deriving Repr, DecidableEq

/--
`lp_connection_t`.  `rev` and `wev` are the LDAP worker to whose event base the
event is added.  Two history variables are kept: `incarnation` counts the calls
of `lp_get_connection` that returned this slot, and `sent` is what the socket
has accepted in this incarnation.
-/
structure Connection where
  fd : Int
  idx : Nat
  sb : Bool
  curData : Option (LdapData RecvElement)
  rev : Option Nat
  wev : Option Nat
  connActive : Bool
  connClosing : Bool
  connClosed : Bool
  wevActive : Bool
  ldap : Option Nat
  taskTicks : List Nat
  discard : Bool
  reqList : List (LdapData BerElement)
  rplList : List (LdapData OutElement)
  incarnation : Nat
  sent : List UInt8

/-- A slot as `lp_connections_init` leaves it. -/
def Connection.initial (idx : Nat) : Connection where
  fd := -1
  idx := idx
  sb := false
  curData := none
  rev := none
  wev := none
  connActive := false
  connClosing := false
  connClosed := false
  wevActive := false
  ldap := none
  taskTicks := []
  discard := false
  reqList := []
  rplList := []
  incarnation := 0
  sent := []

/-- `lp_mysql_state` -/
inductive MysqlState where
  | none
  | active
  | busy
  deriving Repr, DecidableEq

/--
`lp_mysql_t` with the task queue of its thread.  `current` is the task that
the routine has popped and not finished with.
-/
structure MysqlWorker where
  taskNum : UInt32
  state : MysqlState
  queue : List Task
  current : Option Task

/-- A worker as `__mysql_init` leaves it. -/
def MysqlWorker.initial : MysqlWorker where
  taskNum := 0
  state := .active
  queue := []
  current := none

/--
`lp_ldap_t` with the task that its notify callback has popped and not finished
with.
-/
structure LdapWorker where
  queue : List Task
  current : Option Task

/-- A worker as `__ldap_init` leaves it. -/
def LdapWorker.initial : LdapWorker where
  queue := []
  current := none

/--
The data that several threads share, apart from the connections and the queues
of the LDAP workers.  `tasks` and `datas` account for every `lp_task_t` and
`ldap_data_t`, and `readings` counts the calls of `gettimeofday`.
-/
structure Process where
  freeConnections : List Nat
  freeConnectionsN : Int
  connectionsN : Int
  mysqls : Nat → MysqlWorker
  mysqlIndex : Nat
  readings : Nat
  tasks : Ledger
  datas : Ledger

/-- The shared data once all modules are initialised. -/
def Process.initial (env : Environment) : Process where
  freeConnections := List.range env.maxConnections
  freeConnectionsN := env.maxConnections
  connectionsN := 0
  mysqls := fun _ => MysqlWorker.initial
  mysqlIndex := 0
  readings := 0
  tasks := Ledger.empty
  datas := Ledger.empty

/-- `__get_task_tick`, from the reading of the clock. -/
def getTaskTick (timestamp : Timeval) : Nat :=
  timestamp.tvSec + timestamp.tvUsec

/-- A task that is allocated and cleared, apart from its tick. -/
structure NewTask where
  id : Nat
  tick : Nat
  deriving Repr, DecidableEq

/-- `lp_task_new` -/
def lpTaskNew (env : Environment) (p : Process) : NewTask × Process :=
  ({ id := p.tasks.next
     tick := getTaskTick (env.clock p.readings) },
    { p with
      tasks := p.tasks.alloc.2
      readings := p.readings + 1 })

/-- `lp_task_destroy` -/
def lpTaskDestroy (task : Task) (p : Process) : Process :=
  { p with tasks := p.tasks.release task.id }

/-- `lp_conn_register_task_tick`, when its allocation ends as `allocated`. -/
def lpConnRegisterTaskTick
    (allocated : Bool)
    (c : Connection)
    (task : Task) :
    Int × Connection :=
  if allocated then
    (lpOk, { c with taskTicks := c.taskTicks ++ [task.tick] })
  else
    (lpErr, c)

/-- `lp_conn_check_task_tick` -/
def lpConnCheckTaskTick (c : Connection) (task : Task) :
    Int × Connection :=
  if task.tick ∈ c.taskTicks then
    (lpOk, { c with taskTicks := c.taskTicks.erase task.tick })
  else
    (lpErr, c)

/-- `ldap_data_new`: the address of a new `ldap_data_t`. -/
def ldapDataNew (p : Process) : Nat × Process :=
  (p.datas.next, { p with datas := p.datas.alloc.2 })

/-- `ldap_data_destroy` -/
def ldapDataDestroy (id : Nat) (p : Process) : Process :=
  { p with datas := p.datas.release id }

/-- `lp_connection_discard_cb`: destroy the elements of a list in order. -/
def lpConnectionDiscardCb (ids : List Nat) (p : Process) : Process :=
  ids.foldl (fun p id => ldapDataDestroy id p) p

/-- `lp_get_connection` -/
def lpGetConnection (sockfd : Int) (conns : Nat → Connection)
    (p : Process) :
    Option (Nat × (Nat → Connection) × Process) :=
  match p.freeConnections with
  | [] =>
      none
  | c :: rest =>
      some (c,
        Function.update conns c
          { conns c with
            fd := sockfd
            incarnation := (conns c).incarnation + 1 },
        { p with
          freeConnections := rest
          freeConnectionsN := p.freeConnectionsN - 1
          connectionsN := p.connectionsN + 1 })

/-- `__discard_connection_data`, through the callback of the connection. -/
def discardConnectionData (c : Connection) (p : Process) :
    Except Abort Process :=
  if c.discard then
    .ok (lpConnectionDiscardCb (c.rplList.map LdapData.id)
      (lpConnectionDiscardCb (c.reqList.map LdapData.id) p))
  else
    .error .discardNull

/--
A connection after `lp_free_connection` has cleared it and both events and put
`idx` back.
-/
def Connection.cleared (c : Connection) : Connection :=
  { Connection.initial c.idx with
    fd := 0
    incarnation := c.incarnation }

/-- `lp_free_connection` -/
def lpFreeConnection (slot : Nat) (c : Connection) (p : Process) :
    Except Abort (Connection × Process) :=
  match discardConnectionData c p with
  | .error abort =>
      .error abort
  | .ok p =>
      .ok (c.cleared,
        { p with
          freeConnections := slot :: p.freeConnections
          freeConnectionsN := p.freeConnectionsN + 1
          connectionsN := p.connectionsN - 1 })

/-- `lp_close_connection`, whose `close` is compiled out. -/
def lpCloseConnection (slot : Nat) (c : Connection) (p : Process) :
    Except Abort (Connection × Process) :=
  lpFreeConnection slot c p

/-- The callback releases the elements of a list in order. -/
theorem lpConnectionDiscardCb_eq
    (ids : List Nat)
    (p : Process) :
    lpConnectionDiscardCb ids p =
      { p with
        datas :=
          { p.datas with released := ids.reverse ++ p.datas.released } } := by
  induction ids generalizing p with
  | nil =>
      rfl
  | cons id rest inductionHypothesis =>
      apply (inductionHypothesis (ldapDataDestroy id p)).trans
      simp [ldapDataDestroy, Ledger.release]

/-- The elements that `lp_free_connection` releases, last one first. -/
def Connection.discarded (c : Connection) : List Nat :=
  (c.reqList.map LdapData.id ++ c.rplList.map LdapData.id).reverse

/-- With its callback set, `lp_free_connection` ends. -/
theorem lpFreeConnection_eq
    (slot : Nat)
    {c : Connection}
    (discard : c.discard = true)
    (p : Process) :
    lpFreeConnection slot c p =
      .ok (c.cleared,
        { p with
          freeConnections := slot :: p.freeConnections
          freeConnectionsN := p.freeConnectionsN + 1
          connectionsN := p.connectionsN - 1
          datas :=
            { p.datas with
              released := c.discarded ++ p.datas.released } }) := by
  simp only [lpFreeConnection, discardConnectionData, discard, if_true,
    lpConnectionDiscardCb_eq, Connection.discarded, List.reverse_append,
    List.append_assoc]

end LdapProxy

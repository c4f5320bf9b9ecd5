import LdapProxy.ConnectionEvents
import LdapProxy.System
import LdapProxy.WorkerPool

namespace LdapProxy

open LdapProxy.Lber

/-!
# What one step of the proxy does

`Stepped` has one constructor for each way in which a step can end.  The
results about whole runs look at these ways only, not at the functions behind
them.
-/

/-- The tasks that a worker holds or has in its queue. -/
def LdapWorker.tasks (worker : LdapWorker) : List Task :=
  worker.current.toList ++ worker.queue

/-- The tasks that a worker holds or has in its queue. -/
def MysqlWorker.tasks (worker : MysqlWorker) : List Task :=
  worker.current.toList ++ worker.queue

/-- The state once a handler has left its connection and the data like this. -/
def System.put (s : System) (slot : Nat) (next : Connection × Process) :
    System :=
  { s with
    conns := Function.update s.conns slot next.1
    proc := next.2 }

@[simp] theorem System.put_conns_self
    (s : System)
    (slot : Nat)
    (next : Connection × Process) :
    (s.put slot next).conns slot = next.1 :=
  Function.update_self ..

theorem System.put_conns_other
    (s : System)
    {slot other : Nat}
    (different : other ≠ slot)
    (next : Connection × Process) :
    (s.put slot next).conns other = s.conns other :=
  Function.update_of_ne different ..

theorem System.put_self (s : System) (slot : Nat) :
    s.put slot (s.conns slot, s.proc) = s := by
  simp [System.put]

theorem System.put_put
    (s : System)
    (slot : Nat)
    (first second : Connection × Process) :
    (s.put slot first).put slot second = s.put slot second := by
  simp [System.put]

/-- A connection and the data once `lp_free_connection` gave `slot` back. -/
def gaveBack (slot : Nat) (last : Connection × Process) (datas : Ledger) :
    Connection × Process :=
  (last.1.cleared,
    { last.2 with
      freeConnections := slot :: last.2.freeConnections
      freeConnectionsN := last.2.freeConnectionsN + 1
      connectionsN := last.2.connectionsN - 1
      datas := datas })

/-- The state once an LDAP worker is done with its task. -/
def System.finished (s : System) (ldap : Nat) : System :=
  { s with
    ldaps :=
      Function.update s.ldaps ldap
        { s.ldaps ldap with current := none } }

/-- The state once a task is in the queue of an LDAP worker. -/
def System.pushed (s : System) (ldap : Nat) (task : Task) : System :=
  { s with
    ldaps :=
      Function.update s.ldaps ldap
        { s.ldaps ldap with queue := (s.ldaps ldap).queue ++ [task] } }

/-- The state once a MySQL worker is done with its task. -/
def System.mysqlFinished (s : System) (mysql : Nat) (p : Process) :
    System :=
  { s with
    proc :=
      { p with
        mysqls :=
          Function.update p.mysqls mysql
            { p.mysqls mysql with current := none } } }

/-- A slot as `lp_ldap_io_register` hands it to its LDAP worker. -/
def Connection.opened (c : Connection) (sockfd : Int) (ldap : Nat) :
    Connection :=
  { c with
    fd := sockfd
    incarnation := c.incarnation + 1
    sb := true
    curData := none
    ldap := some ldap
    discard := true
    connActive := true }

/-- The state once a client is registered in the first free slot. -/
def System.opened
    (env : Environment)
    (sockfd : Int)
    (slot : Nat)
    (rest : List Nat)
    (s : System) :
    System :=
  let ldap := (lpGetLdap env s.ldapIndex).1
  let c := (s.conns slot).opened sockfd ldap
  let task :=
    registerTask (lpTaskNew env s.proc).1 ldap slot c.incarnation
  { (s.put slot
      (c,
        { (lpTaskNew env s.proc).2 with
          freeConnections := rest
          freeConnectionsN := s.proc.freeConnectionsN - 1
          connectionsN := s.proc.connectionsN + 1 })).pushed ldap task with
    ldapIndex := (lpGetLdap env s.ldapIndex).2 }

/-- When every call succeeds, the task is pushed to the next LDAP worker. -/
theorem registerWithWorker_succeed
    (env : Environment)
    (slot : Nat)
    (s : System) :
    registerWithWorker env .succeed slot s =
      .ok (lpOk,
        { (s.put slot
            ({ s.conns slot with
                ldap := some (lpGetLdap env s.ldapIndex).1
                discard := true
                connActive := true },
              (lpTaskNew env s.proc).2)).pushed
            (lpGetLdap env s.ldapIndex).1
            (registerTask (lpTaskNew env s.proc).1
              (lpGetLdap env s.ldapIndex).1 slot
              (s.conns slot).incarnation) with
          ldapIndex := (lpGetLdap env s.ldapIndex).2 }) := by
  unfold registerWithWorker
  rw [if_neg (by decide)]
  simp only [RegisterOutcome.succeed, lpLdapPushTask_eq, ldapNotify]
  exact if_neg (by decide)

/-- Without a free slot a client is turned away, else it gets the first one. -/
theorem stepRegister_spec
    {env : Environment}
    {sockfd : Int}
    {s next : System}
    (taken : stepRegister env sockfd s = some next) :
    (s.proc.freeConnections = [] ∧ next = s) ∨
      ∃ slot rest,
        s.proc.freeConnections = slot :: rest ∧
          next = s.opened env sockfd slot rest := by
  have allocated : ¬ true = false := by decide
  unfold stepRegister lpLdapIoRegister at taken
  cases free : s.proc.freeConnections with
  | nil =>
      simp only [getConnectionRetry, lpGetConnection, free,
        Option.some.injEq] at taken
      exact .inl ⟨rfl, taken.symm⟩
  | cons slot rest =>
      refine .inr ⟨slot, rest, rfl, ?_⟩
      simp only [getConnectionRetry, lpGetConnection, free,
        Function.update_self] at taken
      split_ifs at taken with active closing closed failed
      · exact (allocated failed).elim
      · rw [registerWithWorker_succeed] at taken
        simp only [Option.some.injEq] at taken
        rw [← taken]
        simp only [System.opened, System.put, System.pushed,
          Connection.opened, Function.update_self, Function.update_idem]
        rfl

/-- The handler leaves the connection as it is or gives its slot back. -/
theorem closeConnection_ok
    {slot : Nat}
    {c : Connection}
    {p : Process}
    {next : Connection × Process}
    (done : closeConnection slot c p = .ok next) :
    next = (c, p) ∨ ∃ datas, next = gaveBack slot (c, p) datas := by
  by_cases closed : c.connClosed = true
  · cases discard : c.discard with
    | true =>
        obtain ⟨datas, freed⟩ :=
          closeConnection_closed slot closed discard p
        rw [freed] at done
        cases done
        exact .inr ⟨datas, rfl⟩
    | false =>
        -- without its callback `lp_free_connection` asserts
        simp [closeConnection, closed, lpCloseConnection,
          lpFreeConnection, discardConnectionData, discard] at done
  · rw [closeConnection_open slot (Bool.eq_false_iff.mpr closed)] at done
    cases done
    exact .inl rfl

/-- What the event handler has done when it returns. -/
inductive HandlerReturn
    (env : Environment)
    (slot : Nat)
    (event : Event)
    (held : List UInt8)
    (c : Connection)
    (p : Process)
    (next : Connection × Process) : Prop where
  | intro (last : Connection × Process) :
      Works env slot
        (fun op =>
          c.connClosing = false ∧ event.Reads ∧
            op ∈ dispatched (event.batch held c))
        (c, p) last →
      (∃ held, last.1.Holding held) →
      last.2.freeConnections = p.freeConnections →
      (next = last ∨ ∃ datas, next = gaveBack slot last datas) →
      HandlerReturn env slot event held c p next

/-- The handler has worked on its connection and perhaps closes it at last. -/
def WorkedThenClosed
    (env : Environment)
    (slot : Nat)
    (event : Event)
    (held : List UInt8)
    (c : Connection)
    (p : Process)
    (next : Connection × Process) :
    Prop :=
  ∃ last : Connection × Process,
    Works env slot
        (fun op =>
          c.connClosing = false ∧ event.Reads ∧
            op ∈ dispatched (event.batch held c))
        (c, p) last ∧
      (∃ held, last.1.Holding held) ∧
      last.2.freeConnections = p.freeConnections ∧
      (next = last ∨ closeConnection slot last.1 last.2 = .ok next)

/-- An open connection is worked on, and perhaps closed. -/
theorem Handled.last
    {env : Environment}
    {slot : Nat}
    {event : Event}
    {held : List UInt8}
    {c : Connection}
    {p : Process}
    {outcome : Except Abort (Connection × Process)}
    (handled : Handled env slot event held c p outcome)
    (notClosing : c.connClosing = false)
    {next : Connection × Process}
    (done : outcome = .ok next) :
    WorkedThenClosed env slot event held c p next := by
  cases handled with
  | stuck reads ending =>
      cases done
  | unknown reads notStuck unknown =>
      cases done
  | early last reads notStuck noUnknown stops after =>
      cases done
      refine ⟨next, Works.mono ?_ after.works, after.holding,
        after.freeConnections, .inl rfl⟩
      exact fun op member => ⟨notClosing, reads, member⟩
  | finished ended last passed after =>
      refine ⟨last, Works.mono ?_ after.works, after.holding,
        after.freeConnections, .inr done⟩
      exact fun op member => ⟨notClosing, member⟩

/-- Every return of the handler follows work on its connection. -/
theorem handler_last
    {env : Environment}
    {slot : Nat}
    {event : Event}
    {held : List UInt8}
    {c : Connection}
    (holding : c.Holding held)
    {p : Process}
    {next : Connection × Process}
    (done : lpLdapIoEventHandler env slot event c p = .ok next) :
    WorkedThenClosed env slot event held c p next := by
  by_cases listening : c.Listening
  · exact (handler_spec listening holding env slot event p).last
      listening.connClosing done
  · unfold lpLdapIoEventHandler at done
    by_cases zero : c.fd = 0
    · rw [if_pos zero] at done
      cases done
    · rw [if_neg zero] at done
      by_cases closing : c.connClosing = true
      · rw [if_pos closing] at done
        cases done
        exact ⟨(c, p), .refl, ⟨held, holding⟩, rfl, .inl rfl⟩
      · rw [if_neg closing] at done
        have inactive : c.connActive = false := by
          rw [← Bool.not_eq_true]
          intro active
          exact listening
            ⟨zero, active, Bool.eq_false_iff.mpr closing⟩
        by_cases timeout : event.timeout = true
        · rw [if_pos timeout] at done
          exact ⟨((ioUnregister event.del c).2, p),
            .single (.unregister c p event.del),
            holding_of_curData ⟨held, holding⟩
              (ioUnregister_curData event.del c),
            rfl, .inr done⟩
        · rw [if_neg timeout, if_pos inactive] at done
          cases done
          exact ⟨(c, p), .refl, ⟨held, holding⟩, rfl, .inl rfl⟩

/-- What the handler has done when it returns, as one of the ways to end. -/
theorem handler_return
    {env : Environment}
    {slot : Nat}
    {event : Event}
    {held : List UInt8}
    {c : Connection}
    (holding : c.Holding held)
    {p : Process}
    {next : Connection × Process}
    (done : lpLdapIoEventHandler env slot event c p = .ok next) :
    HandlerReturn env slot event held c p next := by
  obtain ⟨last, works, stillHolding, free, stays | closes⟩ :=
    handler_last holding done
  · exact .intro last works stillHolding free (.inl stays)
  · exact .intro last works stillHolding free (closeConnection_ok closes)

/-- What one step of the proxy does. -/
inductive Stepped (env : Environment) (s : System) :
    Action → System → Prop where
  /-- No slot is free and the client is turned away. -/
  | refused (sockfd : Int) :
      s.proc.freeConnections = [] →
      Stepped env s (.register sockfd) s
  | opened (sockfd : Int) (slot : Nat) (rest : List Nat) :
      s.proc.freeConnections = slot :: rest →
      Stepped env s (.register sockfd) (s.opened env sockfd slot rest)
  | ldapPopped (ldap : Nat) (task : Task) (rest : List Task) :
      (s.ldaps ldap).current = none →
      (s.ldaps ldap).queue = task :: rest →
      Stepped env s (.ldapPop ldap)
        { s with
          ldaps :=
            Function.update s.ldaps ldap
              { queue := rest, current := some task } }
  /-- The events of a new connection are added. -/
  | served (ldap : Nat) (send : List Send) (task : Task) :
      (s.ldaps ldap).current = some task →
      task.senderSource = .server →
      Stepped env s (.ldapExec ldap send)
        ((s.finished ldap).put task.c
          ({ s.conns task.c with
              rev := some ldap, wev := some ldap, wevActive := true },
            lpTaskDestroy task s.proc))
  | replied
      (ldap : Nat)
      (send : List Send)
      (task : Task)
      (ret : Int)
      (last : Connection × Process) :
      (s.ldaps ldap).current = some task →
      task.senderSource = .mysql →
      Replied ldap task (s.conns task.c) s.proc (ret, last) →
      Stepped env s (.ldapExec ldap send)
        ((s.finished ldap).put task.c last)
  /-- A task that neither the server nor a MySQL worker has sent. -/
  | stray (ldap : Nat) (send : List Send) (task : Task) :
      (s.ldaps ldap).current = some task →
      task.senderSource ≠ .server →
      task.senderSource ≠ .mysql →
      Stepped env s (.ldapExec ldap send) (s.finished ldap)
  | handled
      (ldap slot : Nat)
      (event : Event)
      (next : Connection × Process) :
      (s.ldaps ldap).current = none →
      Delivered ldap event (s.conns slot) →
      (∀ held,
        (s.conns slot).Holding held →
        HandlerReturn env slot event held (s.conns slot) s.proc next) →
      Stepped env s (.ldapEvent ldap slot event) (s.put slot next)
  | mysqlPopped (mysql : Nat) (task : Task) (rest : List Task)
      (worker : MysqlWorker) :
      (s.proc.mysqls mysql).current = none →
      (s.proc.mysqls mysql).queue = task :: rest →
      worker.current = some task →
      worker.queue = rest →
      Stepped env s (.mysqlPop mysql)
        { s with
          proc :=
            { s.proc with
              mysqls := Function.update s.proc.mysqls mysql worker } }
  /-- The reply is pushed to the LDAP worker of the connection. -/
  | answered (mysql : Nat) (task : Task) (ldap : Nat) :
      (s.proc.mysqls mysql).current = some task →
      (s.conns task.c).ldap = some ldap →
      Stepped env s (.mysqlExec mysql)
        ((s.pushed ldap
            (replyTask env mysql task (some ldap)
              (lpTaskNew env s.proc).1)).mysqlFinished mysql
          (lpTaskDestroy task (lpTaskNew env s.proc).2))
  /-- The connection has no LDAP worker: the reply is not destroyed. -/
  | unanswered (mysql : Nat) (task : Task) :
      (s.proc.mysqls mysql).current = some task →
      (s.conns task.c).ldap = none →
      Stepped env s (.mysqlExec mysql)
        (s.mysqlFinished mysql
          (lpTaskDestroy task (lpTaskNew env s.proc).2))
  /-- The task is not for this worker or not from an LDAP worker. -/
  | dropped (mysql : Nat) (task : Task) :
      (s.proc.mysqls mysql).current = some task →
      Stepped env s (.mysqlExec mysql)
        (s.mysqlFinished mysql (lpTaskDestroy task s.proc))

/-- A task is taken from the head of the queue of an LDAP worker. -/
theorem stepLdapPop_stepped
    {env : Environment}
    {ldap : Nat}
    {s next : System}
    (taken : stepLdapPop ldap s = some next) :
    Stepped env s (.ldapPop ldap) next := by
  unfold stepLdapPop popTask at taken
  cases current : (s.ldaps ldap).current with
  | some task =>
      simp [current] at taken
  | none =>
      cases queue : (s.ldaps ldap).queue with
      | nil =>
          simp [current, queue] at taken
      | cons task rest =>
          simp only [current, queue, Option.isSome_none] at taken
          rw [if_neg (by decide)] at taken
          split at taken
          · cases taken
            exact .ldapPopped ldap task rest current queue
          · cases taken

/-- An LDAP worker executes the task it has taken. -/
theorem stepLdapExec_stepped
    {env : Environment}
    {ldap : Nat}
    {send : List Send}
    {s next : System}
    (taken : stepLdapExec ldap send s = some next) :
    Stepped env s (.ldapExec ldap send) next := by
  unfold stepLdapExec at taken
  cases current : (s.ldaps ldap).current with
  | none =>
      rw [current] at taken
      cases taken
  | some task =>
      simp only [current] at taken
      cases source : task.senderSource with
      | mysql =>
          obtain ⟨⟨ret, last⟩, executed, replied⟩ :=
            taskProcess_replied ldap source send (s.conns task.c) s.proc
          rw [executed] at taken
          cases taken
          exact .replied ldap send task ret last current source replied
      | server =>
          simp only [taskProcess, source, processServerTask] at taken
          by_cases noRegister : task.taskType &&& lpTaskIoAllReg = 0
          · rw [if_pos noRegister] at taken
            cases taken
          · rw [if_neg noRegister] at taken
            cases taken
            exact .served ldap send task current source
      | ldap =>
          simp only [taskProcess, source, Option.some.injEq] at taken
          rw [Function.update_eq_self] at taken
          rw [← taken]
          exact .stray ldap send task current (by simp [source])
            (by simp [source])
      | taskManager =>
          simp only [taskProcess, source, Option.some.injEq] at taken
          rw [Function.update_eq_self] at taken
          rw [← taken]
          exact .stray ldap send task current (by simp [source])
            (by simp [source])

/-- An event is delivered and handled. -/
theorem stepLdapEvent_stepped
    {env : Environment}
    {ldap slot : Nat}
    {event : Event}
    {s next : System}
    (taken : stepLdapEvent env ldap slot event s = some next) :
    Stepped env s (.ldapEvent ldap slot event) next := by
  unfold stepLdapEvent at taken
  by_cases delivered : (s.ldaps ldap).current.isNone ∧
      Delivered ldap event (s.conns slot)
  · rw [if_pos delivered] at taken
    cases handled :
        lpLdapIoEventHandler env slot event (s.conns slot) s.proc with
    | error abort =>
        rw [handled] at taken
        cases taken
    | ok last =>
        rw [handled] at taken
        cases taken
        exact .handled ldap slot event last
          (Option.isNone_iff_eq_none.mp delivered.1) delivered.2
          fun held holding => handler_return holding handled
  · rw [if_neg delivered] at taken
    cases taken

/-- A task is taken from the head of the queue of a MySQL worker. -/
theorem stepMysqlPop_stepped
    {env : Environment}
    {mysql : Nat}
    {s next : System}
    (taken : stepMysqlPop mysql s = some next) :
    Stepped env s (.mysqlPop mysql) next := by
  unfold stepMysqlPop lpMysqlPopTask at taken
  cases current : (s.proc.mysqls mysql).current with
  | some task =>
      simp [current] at taken
  | none =>
      cases queue : (s.proc.mysqls mysql).queue with
      | nil =>
          simp [current, queue] at taken
      | cons task rest =>
          simp only [current, queue, Option.isSome_none] at taken
          rw [if_neg (by decide)] at taken
          cases taken
          exact .mysqlPopped mysql task rest _ current queue rfl rfl

/-- A MySQL worker executes the task it has taken. -/
theorem stepMysqlExec_stepped
    {env : Environment}
    {mysql : Nat}
    {s next : System}
    (taken : stepMysqlExec env mysql s = some next) :
    Stepped env s (.mysqlExec mysql) next := by
  unfold stepMysqlExec mysqlRoutine at taken
  cases current : (s.proc.mysqls mysql).current with
  | none =>
      rw [current] at taken
      cases taken
  | some task =>
      simp only [current] at taken
      have dropped : Stepped env s (.mysqlExec mysql)
          (s.mysqlFinished mysql (lpTaskDestroy task s.proc)) :=
        .dropped mysql task current
      by_cases other : task.receiver ≠ some (.mysql mysql)
      · rw [if_pos other] at taken
        cases taken
        exact dropped
      · rw [if_neg other] at taken
        cases source : task.senderSource with
        | ldap =>
            simp only [source, processLdapTask] at taken
            by_cases query : task.taskType = lpTaskLdapMsg
            · rw [if_pos query] at taken
              cases owner : (s.conns task.c).ldap with
              | none =>
                  rw [owner] at taken
                  cases taken
                  exact .unanswered mysql task current owner
              | some ldap =>
                  simp only [owner, processLdapQuery,
                    lpLdapPushTask_eq, ldapNotify, Option.some.injEq] at taken
                  rw [← taken]
                  exact .answered mysql task ldap current owner
            · rw [if_neg query] at taken
              cases taken
        | server =>
            simp only [source, Option.some.injEq] at taken
            rw [← taken]
            exact dropped
        | mysql =>
            simp only [source, Option.some.injEq] at taken
            rw [← taken]
            exact dropped
        | taskManager =>
            simp only [source, Option.some.injEq] at taken
            rw [← taken]
            exact dropped

/-- Every step ends in one of these ways. -/
theorem step_stepped
    {env : Environment}
    {s next : System}
    {action : Action}
    (taken : step env s action = some next) :
    Stepped env s action next := by
  cases action with
  | register sockfd =>
      rcases stepRegister_spec taken with ⟨full, rfl⟩ | ⟨slot, rest, free, rfl⟩
      · exact .refused sockfd full
      · exact .opened sockfd slot rest free
  | ldapPop ldap =>
      exact stepLdapPop_stepped taken
  | ldapExec ldap send =>
      exact stepLdapExec_stepped taken
  | ldapEvent ldap slot event =>
      exact stepLdapEvent_stepped taken
  | mysqlPop mysql =>
      exact stepMysqlPop_stepped taken
  | mysqlExec mysql =>
      exact stepMysqlExec_stepped taken

end LdapProxy

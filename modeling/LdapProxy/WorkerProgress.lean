import LdapProxy.TransitionDrain
import LdapProxy.Wiring

namespace LdapProxy

open LdapProxy.Lber
open LdapProxy.Pool
open LdapProxy.Transition

/-!
# The workers make progress

A worker only ever holds tasks that are addressed to it and of a kind it knows,
so the assertions about tasks in `__ldap_notify_cb`, `__process_server_task`
and `__process_ldap_task` do not fail.  As every task that a worker takes comes
closer to its end, the workers empty their queues, in whatever order they run.
-/

/-- A task that an LDAP worker can take and execute. -/
def Task.ForLdap (ldap : Nat) (task : Task) : Prop :=
  task.receiver = some (.ldap ldap) ∧
    (task.senderSource = .server ∧ task.taskType = lpTaskIoAllReg ∨
      task.senderSource = .mysql)

/-- A task that a MySQL worker can execute. -/
def Task.ForMysql (mysql : Nat) (task : Task) : Prop :=
  task.receiver = some (.mysql mysql) ∧
    task.senderSource = .ldap ∧ task.taskType = lpTaskLdapMsg

/-- Every task at a MySQL worker is one for this worker. -/
def MysqlAddressed (p : Process) : Prop :=
  ∀ mysql, ∀ task ∈ (p.mysqls mysql).tasks, task.ForMysql mysql

/-- Every task at a worker is one for this worker. -/
structure Addressed (s : System) : Prop where
  ldap : ∀ ldap, ∀ task ∈ (s.ldaps ldap).tasks, task.ForLdap ldap
  mysql : MysqlAddressed s.proc

/-- Nobody has a task at first. -/
theorem addressed_initial (env : Environment) :
    Addressed (System.initial env) where
  ldap := fun _ _ member => nomatch member
  mysql := fun _ _ member => nomatch member

/-- A MySQL worker may get a query that is for it. -/
theorem MysqlAddressed.update
    {p : Process}
    (addressed : MysqlAddressed p)
    {mysql : Nat}
    {worker : MysqlWorker}
    (here :
      ∀ task ∈ worker.tasks,
        task ∈ (p.mysqls mysql).tasks ∨ task.ForMysql mysql) :
    MysqlAddressed
      { p with mysqls := Function.update p.mysqls mysql worker } := by
  intro other task member
  by_cases same : other = mysql
  · subst other
    simp only [Function.update_self] at member
    exact (here task member).elim (addressed mysql task) id
  · simp only [Function.update_of_ne same] at member
    exact addressed other task member

/-- A MySQL worker that has finished with its task has no new one. -/
theorem MysqlAddressed.finished
    {p : Process}
    (addressed : MysqlAddressed p)
    (mysql : Nat) :
    MysqlAddressed
      { p with
        mysqls :=
          Function.update p.mysqls mysql
            { p.mysqls mysql with current := none } } := by
  refine addressed.update ?_
  intro task member
  exact .inl (List.mem_append_right _ (by simpa [MysqlWorker.tasks] using member))

/-- The queries that work on a connection creates are for their workers. -/
theorem Works.addressed
    {env : Environment}
    {slot : Nat}
    {reached : BerElement → Prop}
    {before after : Connection × Process}
    (works : Works env slot reached before after)
    (addressed : MysqlAddressed before.2) :
    MysqlAddressed after.2 := by
  induction works with
  | refl =>
      exact addressed
  | tail _ work inductionHypothesis =>
      cases work with
      | requests c p curData reqList datas holding =>
          exact inductionHypothesis
      | respond c p id ber datas =>
          exact inductionHypothesis
      | lost c p op isReached filter =>
          exact inductionHypothesis
      | query c p msg =>
          -- `lp_do_search` addresses the query to the worker it pushes it to
          refine MysqlAddressed.update (p := afterTask env p)
            inductionHypothesis ?_
          intro task member
          have queued : task ∈ ((afterTask env p).mysqls p.mysqlIndex).tasks ∨
              task = queryTask (lpTaskNew env p).1 msg p.mysqlIndex slot c := by
            simpa [MysqlWorker.tasks, or_assoc] using member
          exact queued.imp id fun same => by
            rw [same]
            exact ⟨rfl, rfl, rfl⟩
      | unregister c p del =>
          exact inductionHypothesis
      | send c p rplList sent datas incarnations =>
          exact inductionHypothesis

/-- An LDAP worker may get a task that is for it. -/
theorem Addressed.pushed
    {s : System}
    (addressed : Addressed s)
    {ldap : Nat}
    (task : Task)
    (forLdap : task.ForLdap ldap) :
    Addressed (s.pushed ldap task) where
  ldap other held member := by
    rcases mem_pushed member with before | ⟨rfl, rfl⟩
    · exact addressed.ldap other held before
    · exact forLdap
  mysql := addressed.mysql

/-- An LDAP worker that has finished with its task has no new one. -/
theorem Addressed.finished
    {s : System}
    (addressed : Addressed s)
    (ldap : Nat) :
    Addressed (s.finished ldap) where
  ldap other task member :=
    addressed.ldap other task (mem_finished member)
  mysql := addressed.mysql

/-- Execution of a reply leaves the MySQL workers alone. -/
theorem Replied.mysqls
    {ldap : Nat}
    {task : Task}
    {c : Connection}
    {p : Process}
    {outcome : Int × Connection × Process}
    (replied : Replied ldap task c p outcome) :
    outcome.2.2.mysqls = p.mysqls := by
  cases replied with
  | refused unknown =>
      rfl
  | foreign registered other =>
      rfl
  | answered ret rplList sent datas registered owner fromList =>
      rfl

/-- Every step leaves each task at a worker that it is for. -/
theorem Addressed.step
    {env : Environment}
    {s next : System}
    {action : Action}
    (wired : Wired env s)
    (addressed : Addressed s)
    (stepped : Stepped env s action next) :
    Addressed next := by
  cases stepped with
  | refused sockfd full =>
      exact addressed
  | opened sockfd slot rest free =>
      have pushed := addressed.pushed
        (registerTask (lpTaskNew env s.proc).1
          (lpGetLdap env s.ldapIndex).1 slot
          ((s.conns slot).opened sockfd
            (lpGetLdap env s.ldapIndex).1).incarnation)
        ⟨rfl, .inl ⟨rfl, rfl⟩⟩
      exact ⟨pushed.ldap, pushed.mysql⟩
  | ldapPopped ldap task rest current queue =>
      refine ⟨?_, addressed.mysql⟩
      intro other held member
      exact addressed.ldap other held (mem_popped queue member)
  | served ldap send task current server =>
      exact ⟨(addressed.finished ldap).ldap, addressed.mysql⟩
  | replied ldap send task ret last current fromMysql replied =>
      refine ⟨(addressed.finished ldap).ldap, ?_⟩
      intro mysql held member
      have same := replied.mysqls
      simp only at same
      simp only [System.put, same] at member
      exact addressed.mysql mysql held member
  | stray ldap send task current notServer notMysql =>
      exact addressed.finished ldap
  | handled ldap slot event last idle delivered returned =>
      obtain ⟨held, holding⟩ := wired.holding slot
      obtain ⟨worked, works, -, -, rfl | ⟨datas, rfl⟩⟩ :=
        returned held holding
      · exact ⟨addressed.ldap, works.addressed addressed.mysql⟩
      · exact ⟨addressed.ldap, works.addressed addressed.mysql⟩
  | mysqlPopped mysql task rest worker current queue taken left =>
      refine ⟨addressed.ldap, addressed.mysql.update ?_⟩
      intro held member
      exact .inl (by
        simpa [MysqlWorker.tasks, current, queue, taken, left] using member)
  | answered mysql task ldap current owner =>
      have pushed := addressed.pushed
        (replyTask env mysql task (some ldap) (lpTaskNew env s.proc).1)
        ⟨rfl, .inr rfl⟩
      exact ⟨pushed.ldap, addressed.mysql.finished mysql⟩
  | unanswered mysql task current noOwner =>
      exact ⟨addressed.ldap, addressed.mysql.finished mysql⟩
  | dropped mysql task current =>
      exact ⟨addressed.ldap, addressed.mysql.finished mysql⟩

/-- Every state that the proxy reaches is wired and addressed. -/
theorem reached_addressed
    {env : Environment}
    {s : System}
    {actions : List Action}
    (run : Run (Enabled (step env)) (System.initial env) actions s) :
    Wired env s ∧ Addressed s := by
  refine run.invariant (fun s => Wired env s ∧ Addressed s) ?_
    ⟨wired_initial env, addressed_initial env⟩
  rintro s action next ⟨wired, addressed⟩ taken
  have stepped := step_stepped taken
  exact ⟨wired.step stepped, addressed.step wired stepped⟩

/-- An idle LDAP worker can take the first task of its queue. -/
theorem Addressed.ldapPop
    {s : System}
    (addressed : Addressed s)
    {ldap : Nat}
    {task : Task}
    {rest : List Task}
    (idle : (s.ldaps ldap).current = none)
    (queue : (s.ldaps ldap).queue = task :: rest) :
    stepLdapPop ldap s =
      some
        { s with
          ldaps :=
            Function.update s.ldaps ldap
              { queue := rest, current := some task } } := by
  have forLdap : task.receiver = some (.ldap ldap) :=
    (addressed.ldap ldap task (by simp [LdapWorker.tasks, queue])).1
  simp [stepLdapPop, popTask, idle, queue, forLdap]

/-- An LDAP worker can execute its task, whatever the socket accepts. -/
theorem Addressed.ldapExec
    {s : System}
    (addressed : Addressed s)
    {ldap : Nat}
    {task : Task}
    (current : (s.ldaps ldap).current = some task)
    (send : List Send) :
    ∃ next, stepLdapExec ldap send s = some next := by
  have kind :=
    (addressed.ldap ldap task (by simp [LdapWorker.tasks, current])).2
  rcases kind with ⟨server, register⟩ | mysql
  · have isRegister : ¬ task.taskType &&& lpTaskIoAllReg = 0 := by
      rw [register]
      decide
    simp [stepLdapExec, current, taskProcess, server, processServerTask,
      isRegister]
  · obtain ⟨last, executed, -⟩ :=
      taskProcess_replied ldap mysql send (s.conns task.c) s.proc
    simp [stepLdapExec, current, executed]

/-- An idle MySQL worker can take the first query of its queue. -/
theorem mysqlPop_possible
    {s : System}
    {mysql : Nat}
    {task : Task}
    {rest : List Task}
    (idle : (s.proc.mysqls mysql).current = none)
    (queue : (s.proc.mysqls mysql).queue = task :: rest) :
    ∃ next,
      stepMysqlPop mysql s = some next ∧
        (next.proc.mysqls mysql).current = some task := by
  simp [stepMysqlPop, lpMysqlPopTask, idle, queue]

/-- A MySQL worker pushes the reply to the LDAP worker of the connection. -/
theorem Addressed.mysqlExec_answered
    {s : System}
    (addressed : Addressed s)
    {mysql : Nat}
    {task : Task}
    (current : (s.proc.mysqls mysql).current = some task)
    {ldap : Nat}
    (owner : (s.conns task.c).ldap = some ldap)
    (env : Environment) :
    stepMysqlExec env mysql s =
      some
        ((s.pushed ldap
            (replyTask env mysql task (some ldap)
              (lpTaskNew env s.proc).1)).mysqlFinished mysql
          (lpTaskDestroy task (lpTaskNew env s.proc).2)) := by
  obtain ⟨receiver, source, kind⟩ :=
    addressed.mysql mysql task (by simp [MysqlWorker.tasks, current])
  simp only [stepMysqlExec, current, mysqlRoutine, receiver, source,
    processLdapTask, kind, processLdapQuery, owner, lpLdapPushTask_eq,
    ne_eq, not_true_eq_false, if_false, if_true]
  rfl

/-- Without an LDAP worker at the connection there is no reply. -/
theorem Addressed.mysqlExec_unanswered
    {s : System}
    (addressed : Addressed s)
    {mysql : Nat}
    {task : Task}
    (current : (s.proc.mysqls mysql).current = some task)
    (noOwner : (s.conns task.c).ldap = none)
    (env : Environment) :
    stepMysqlExec env mysql s =
      some
        (s.mysqlFinished mysql
          (lpTaskDestroy task (lpTaskNew env s.proc).2)) := by
  obtain ⟨receiver, source, kind⟩ :=
    addressed.mysql mysql task (by simp [MysqlWorker.tasks, current])
  simp only [stepMysqlExec, current, mysqlRoutine, receiver, source,
    processLdapTask, kind, processLdapQuery, noOwner,
    ne_eq, not_true_eq_false, if_false, if_true]
  rfl

/-- A MySQL worker can execute its query. -/
theorem Addressed.mysqlExec
    {s : System}
    (addressed : Addressed s)
    {mysql : Nat}
    {task : Task}
    (current : (s.proc.mysqls mysql).current = some task)
    (env : Environment) :
    ∃ next, stepMysqlExec env mysql s = some next := by
  cases owner : (s.conns task.c).ldap with
  | none =>
      exact ⟨_, addressed.mysqlExec_unanswered current owner env⟩
  | some ldap =>
      exact ⟨_, addressed.mysqlExec_answered current owner env⟩

/--
In every state that the proxy reaches, an idle worker can take the first task
of its queue and a worker with a task can execute it: no assertion about a task
fails.
-/
theorem workers_never_abort
    {env : Environment}
    {s : System}
    {actions : List Action}
    (run : Run (Enabled (step env)) (System.initial env) actions s) :
    (∀ ldap task rest,
      (s.ldaps ldap).current = none →
      (s.ldaps ldap).queue = task :: rest →
      ∃ next,
        step env s (.ldapPop ldap) = some next ∧
          (next.ldaps ldap).current = some task) ∧
      (∀ ldap task send,
        (s.ldaps ldap).current = some task →
        ∃ next, step env s (.ldapExec ldap send) = some next) ∧
      (∀ mysql task rest,
        (s.proc.mysqls mysql).current = none →
        (s.proc.mysqls mysql).queue = task :: rest →
        ∃ next,
          step env s (.mysqlPop mysql) = some next ∧
            (next.proc.mysqls mysql).current = some task) ∧
      (∀ mysql task,
        (s.proc.mysqls mysql).current = some task →
        ∃ next, step env s (.mysqlExec mysql) = some next) := by
  obtain ⟨-, addressed⟩ := reached_addressed run
  refine ⟨?_, ?_, ?_, ?_⟩
  · intro ldap task rest idle queue
    exact ⟨_, addressed.ldapPop idle queue, by simp⟩
  · intro ldap task send current
    exact addressed.ldapExec current send
  · intro mysql task rest idle queue
    exact mysqlPop_possible idle queue
  · intro mysql task current
    exact addressed.mysqlExec current env

/-- A query that waits at a MySQL worker can be answered. -/
theorem workers_never_abort_query :
    ∃ (s : System) (task : Task),
      (s.proc.mysqls 0).current = some task ∧
        ∃ next, step driftingEnv s (.mysqlExec 0) = some next := by
  obtain ⟨s, run, busy⟩ :
      ∃ s,
        Run (Enabled (step driftingEnv)) (System.initial driftingEnv)
            (newClient 0 ++ [searchArrives 0 0x87, .mysqlPop 0]) s ∧
          (s.proc.mysqls 0).current.isSome = true :=
    exec_reaches
      (fun s : System => (s.proc.mysqls 0).current.isSome = true)
      (by decide +kernel)
  obtain ⟨task, current⟩ := Option.isSome_iff_exists.mp busy
  exact ⟨s, task, current, (workers_never_abort run).2.2.2 0 task current⟩

/-- A task that waits is taken and executed. -/
def LdapWorker.steps (worker : LdapWorker) : Nat :=
  2 * worker.queue.length + worker.current.toList.length

/-- A query that waits is taken and executed, and so is then its reply. -/
def MysqlWorker.steps (worker : MysqlWorker) : Nat :=
  4 * worker.queue.length + 3 * worker.current.toList.length

/-- How many steps the workers can still make, at most. -/
def System.stepsLeft (env : Environment) (s : System) : Nat :=
  load env.ldapNum LdapWorker.steps s.ldaps +
    load env.mysqlNum MysqlWorker.steps s.proc.mysqls

/-- No worker has a task. -/
def System.Drained (s : System) : Prop :=
  (∀ ldap, (s.ldaps ldap).tasks = []) ∧
    ∀ mysql, (s.proc.mysqls mysql).tasks = []

/-- A worker takes a task or executes it. -/
def Action.ByWorker : Action → Prop
  | .ldapPop _ =>
      True
  | .ldapExec _ _ =>
      True
  | .mysqlPop _ =>
      True
  | .mysqlExec _ =>
      True
  | .register _ =>
      False
  | .ldapEvent _ _ _ =>
      False

/-- The steps of the proxy in which a worker takes or executes a task. -/
def WorkerStep (env : Environment) : System → Action → System → Prop :=
  Guarded (fun _ action => action.ByWorker) (Enabled (step env))

/-- An LDAP worker that is done with its task has one step less to make. -/
theorem stepsLeft_finished
    {env : Environment}
    {s : System}
    {ldap : Nat}
    (inside : ldap < env.ldapNum)
    {task : Task}
    (current : (s.ldaps ldap).current = some task)
    {ldaps : Nat → LdapWorker}
    (sameLdaps : ldaps = (s.finished ldap).ldaps)
    {mysqls : Nat → MysqlWorker}
    (sameMysqls : mysqls = s.proc.mysqls) :
    load env.ldapNum LdapWorker.steps ldaps +
        load env.mysqlNum MysqlWorker.steps mysqls + 1 =
      s.stepsLeft env := by
  have updated :
      load env.ldapNum LdapWorker.steps (s.finished ldap).ldaps +
          LdapWorker.steps (s.ldaps ldap) =
        load env.ldapNum LdapWorker.steps s.ldaps +
          LdapWorker.steps { s.ldaps ldap with current := none } :=
    load_update inside
  simp only [LdapWorker.steps, current, Option.toList_some,
    Option.toList_none, List.length_singleton, List.length_nil] at updated
  rw [sameLdaps, sameMysqls]
  unfold System.stepsLeft
  omega

/-- A MySQL worker that is done with its query has three steps less. -/
theorem stepsLeft_mysqlFinished
    {env : Environment}
    {s : System}
    {mysql : Nat}
    (inside : mysql < env.mysqlNum)
    {task : Task}
    (current : (s.proc.mysqls mysql).current = some task)
    {p : Process}
    (sameWorkers : p.mysqls = s.proc.mysqls) :
    (s.mysqlFinished mysql p).stepsLeft env + 3 = s.stepsLeft env := by
  have updated :
      load env.mysqlNum MysqlWorker.steps
            (s.mysqlFinished mysql p).proc.mysqls +
          MysqlWorker.steps (p.mysqls mysql) =
        load env.mysqlNum MysqlWorker.steps p.mysqls +
          MysqlWorker.steps { p.mysqls mysql with current := none } :=
    load_update inside
  have sameLdaps : (s.mysqlFinished mysql p).ldaps = s.ldaps := rfl
  simp only [MysqlWorker.steps, sameWorkers, current, Option.toList_some,
    Option.toList_none, List.length_singleton, List.length_nil] at updated
  unfold System.stepsLeft
  rw [sameLdaps]
  omega

/-- A task that is pushed to an LDAP worker is two steps more to make. -/
theorem stepsLeft_pushed
    {env : Environment}
    {ldap : Nat}
    (inside : ldap < env.ldapNum)
    (s : System)
    (task : Task) :
    (s.pushed ldap task).stepsLeft env = s.stepsLeft env + 2 := by
  have updated :
      load env.ldapNum LdapWorker.steps (s.pushed ldap task).ldaps +
          LdapWorker.steps (s.ldaps ldap) =
        load env.ldapNum LdapWorker.steps s.ldaps +
          LdapWorker.steps
            { s.ldaps ldap with queue := (s.ldaps ldap).queue ++ [task] } :=
    load_update inside
  have sameProc : (s.pushed ldap task).proc = s.proc := rfl
  simp only [LdapWorker.steps, List.length_append,
    List.length_singleton] at updated
  unfold System.stepsLeft
  rw [sameProc]
  omega

/-- Every step of a worker leaves fewer to make. -/
theorem stepsLeft_lt
    {env : Environment}
    {s next : System}
    {action : Action}
    (wired : Wired env s)
    (byWorker : action.ByWorker)
    (stepped : Stepped env s action next) :
    next.stepsLeft env < s.stepsLeft env := by
  cases stepped with
  | refused sockfd full =>
      exact byWorker.elim
  | opened sockfd slot rest free =>
      exact byWorker.elim
  | handled ldap slot event last idle delivered returned =>
      exact byWorker.elim
  | ldapPopped ldap task rest current queue =>
      have inside : ldap < env.ldapNum :=
        wired.within ldap task (by simp [LdapWorker.tasks, queue])
      have updated :
          load env.ldapNum LdapWorker.steps
                (Function.update s.ldaps ldap
                  { queue := rest, current := some task }) +
              LdapWorker.steps (s.ldaps ldap) =
            load env.ldapNum LdapWorker.steps s.ldaps +
              LdapWorker.steps { queue := rest, current := some task } :=
        load_update inside
      simp only [LdapWorker.steps, current, queue, Option.toList_some,
        Option.toList_none, List.length_cons, List.length_nil] at updated
      simp only [System.stepsLeft]
      omega
  | served ldap send task current server =>
      have fewer := stepsLeft_finished (wired.ldap_inside current) current
        rfl rfl
      exact Nat.lt_of_succ_le fewer.le
  | replied ldap send task ret last current fromMysql replied =>
      have fewer := stepsLeft_finished (wired.ldap_inside current) current
        rfl replied.mysqls
      exact Nat.lt_of_succ_le fewer.le
  | stray ldap send task current notServer notMysql =>
      have fewer := stepsLeft_finished (wired.ldap_inside current) current
        rfl rfl
      exact Nat.lt_of_succ_le fewer.le
  | mysqlPopped mysql task rest worker current queue taken left =>
      have inside : mysql < env.mysqlNum :=
        wired.mysql.within mysql task (by simp [MysqlWorker.tasks, queue])
      have updated :
          load env.mysqlNum MysqlWorker.steps
                (Function.update s.proc.mysqls mysql worker) +
              MysqlWorker.steps (s.proc.mysqls mysql) =
            load env.mysqlNum MysqlWorker.steps s.proc.mysqls +
              MysqlWorker.steps worker :=
        load_update inside
      simp only [MysqlWorker.steps, current, queue, taken, left,
        Option.toList_some, Option.toList_none, List.length_cons,
        List.length_nil] at updated
      simp only [System.stepsLeft]
      omega
  | answered mysql task ldap current owner =>
      -- three steps less for the query and two more for its reply
      have more := stepsLeft_pushed (wired.owner task.c ldap owner) s
        (replyTask env mysql task (some ldap) (lpTaskNew env s.proc).1)
      have fewer := stepsLeft_mysqlFinished
        (s := s.pushed ldap
          (replyTask env mysql task (some ldap) (lpTaskNew env s.proc).1))
        (p := lpTaskDestroy task (lpTaskNew env s.proc).2)
        (wired.mysql_inside current) current rfl
      omega
  | unanswered mysql task current noOwner =>
      have fewer := stepsLeft_mysqlFinished
        (p := lpTaskDestroy task (lpTaskNew env s.proc).2)
        (wired.mysql_inside current) current rfl
      omega
  | dropped mysql task current =>
      have fewer := stepsLeft_mysqlFinished (p := lpTaskDestroy task s.proc)
        (wired.mysql_inside current) current rfl
      omega

/-- Worker steps keep the wiring and leave fewer steps to make. -/
theorem workerStep_lowers (env : Environment) :
    Lowers (WorkerStep env) (fun s => Wired env s ∧ Addressed s)
      (System.stepsLeft env) := by
  rintro s action next ⟨wired, addressed⟩ ⟨byWorker, taken⟩
  have stepped := step_stepped taken
  exact
    ⟨⟨wired.step stepped, addressed.step wired stepped⟩,
      stepsLeft_lt wired byWorker stepped⟩

/-- As long as there is a step to make, some worker can make one. -/
theorem workerStep_goesOn (env : Environment) :
    GoesOn (WorkerStep env) (fun s => Wired env s ∧ Addressed s)
      (System.stepsLeft env) := by
  rintro s ⟨-, addressed⟩ left
  have someLeft : ¬ (load env.ldapNum LdapWorker.steps s.ldaps = 0 ∧
      load env.mysqlNum MysqlWorker.steps s.proc.mysqls = 0) := by
    simp only [System.stepsLeft] at left
    omega
  rw [load_eq_zero, load_eq_zero, not_and_or] at someLeft
  rcases someLeft with atLdap | atMysql
  · obtain ⟨ldap, -, busy⟩ : ∃ ldap, ldap < env.ldapNum ∧
        LdapWorker.steps (s.ldaps ldap) ≠ 0 := by
      simpa using atLdap
    cases current : (s.ldaps ldap).current with
    | some task =>
        obtain ⟨next, taken⟩ := addressed.ldapExec current []
        exact ⟨.ldapExec ldap [], next, trivial, taken⟩
    | none =>
        cases queue : (s.ldaps ldap).queue with
        | nil =>
            simp [LdapWorker.steps, current, queue] at busy
        | cons task rest =>
            exact ⟨.ldapPop ldap, _, trivial,
              addressed.ldapPop current queue⟩
  · obtain ⟨mysql, -, busy⟩ : ∃ mysql, mysql < env.mysqlNum ∧
        MysqlWorker.steps (s.proc.mysqls mysql) ≠ 0 := by
      simpa using atMysql
    cases current : (s.proc.mysqls mysql).current with
    | some task =>
        obtain ⟨next, taken⟩ := addressed.mysqlExec current env
        exact ⟨.mysqlExec mysql, next, trivial, taken⟩
    | none =>
        cases queue : (s.proc.mysqls mysql).queue with
        | nil =>
            simp [MysqlWorker.steps, current, queue] at busy
        | cons task rest =>
            obtain ⟨next, taken, -⟩ := mysqlPop_possible current queue
            exact ⟨.mysqlPop mysql, next, trivial, taken⟩

/-- When no step is left, no worker has a task. -/
theorem Wired.drained
    {env : Environment}
    {s : System}
    (wired : Wired env s)
    (noneLeft : s.stepsLeft env = 0) :
    s.Drained := by
  obtain ⟨atLdap, atMysql⟩ := Nat.add_eq_zero_iff.mp noneLeft
  rw [load_eq_zero] at atLdap atMysql
  constructor
  · intro ldap
    refine List.eq_nil_iff_forall_not_mem.mpr fun task member => ?_
    have nothing := atLdap ldap (wired.within ldap task member)
    simp only [LdapWorker.steps, Nat.add_eq_zero_iff, Nat.mul_eq_zero,
      List.length_eq_zero_iff] at nothing
    simp [LdapWorker.tasks, nothing.2, nothing.1.resolve_left (by decide)]
      at member
  · intro mysql
    refine List.eq_nil_iff_forall_not_mem.mpr fun task member => ?_
    have nothing := atMysql mysql (wired.mysql.within mysql task member)
    simp only [MysqlWorker.steps, Nat.add_eq_zero_iff, Nat.mul_eq_zero,
      List.length_eq_zero_iff] at nothing
    simp [MysqlWorker.tasks, nothing.2.resolve_left (by decide),
      nothing.1.resolve_left (by decide)] at member

/--
Once no events arrive, the workers empty all queues in whatever order they run:
a run of worker steps is never longer than twice the tasks and four times the
queries that wait, every such run goes on until no worker has a task, and only
then do the workers stand still.
-/
theorem workers_drain
    {env : Environment}
    {s : System}
    {actions : List Action}
    (run : Run (Enabled (step env)) (System.initial env) actions s)
    {later : List Action}
    {middle : System}
    (worked : Run (WorkerStep env) s later middle) :
    later.length ≤ s.stepsLeft env ∧
      (∃ more final,
        Run (WorkerStep env) middle more final ∧ final.Drained) ∧
      ((∀ action next, ¬ WorkerStep env middle action next) →
        middle.Drained) := by
  have reached := reached_addressed run
  obtain ⟨stillReached, -⟩ := (workerStep_lowers env).run worked reached
  refine ⟨(workerStep_lowers env).length_le worked reached, ?_, ?_⟩
  · obtain ⟨more, final, goesOn, noneLeft⟩ :=
      (workerStep_lowers env).exists_drained (workerStep_goesOn env)
        stillReached
    obtain ⟨⟨wired, -⟩, -⟩ := (workerStep_lowers env).run goesOn stillReached
    exact ⟨more, final, goesOn, wired.drained noneLeft⟩
  · intro stuck
    exact stillReached.1.drained
      ((workerStep_goesOn env).of_stuck stillReached stuck)

/-- A search that has arrived is looked up, and its reply is taken. -/
theorem workers_drain_query :
    ∃ s : System,
      s.stepsLeft driftingEnv = 4 ∧
        ∃ more final,
          Run (WorkerStep driftingEnv) s more final ∧ final.Drained := by
  obtain ⟨s, run, four⟩ :
      ∃ s,
        Run (Enabled (step driftingEnv)) (System.initial driftingEnv)
            (newClient 0 ++ [searchArrives 0 0x87]) s ∧
          s.stepsLeft driftingEnv = 4 :=
    exec_reaches (fun s : System => s.stepsLeft driftingEnv = 4)
      (by decide +kernel)
  exact ⟨s, four, (workers_drain run .done).2.1⟩

end LdapProxy

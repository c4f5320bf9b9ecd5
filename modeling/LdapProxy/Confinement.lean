import LdapProxy.Wiring

namespace LdapProxy

open LdapProxy.Pool
open LdapProxy.Transition

/-!
# Connections and their LDAP workers

The lists of a connection are not locked, since only the LDAP worker of the
connection should touch them.  A reply task reaches the worker that the
connection pointed to when the reply was pushed, and `__task_process` looks at
the tick list before `__process_mysql_task` compares the worker.  So the
confinement holds exactly as long as no slot is given back under a reply.
-/

/-- A reply task is executed by the LDAP worker of its connection. -/
def Confined (s : System) : Prop :=
  ∀ ldap task,
    (s.ldaps ldap).current = some task →
    task.senderSource = .mysql →
    (s.conns task.c).ldap = some ldap

/-- When the step gives a slot back, no LDAP worker has a reply for it. -/
def ClosesQuietly (env : Environment) (s : System) (action : Action) : Prop :=
  ∀ next,
    step env s action = some next →
    ∀ slot ∈ next.proc.freeConnections,
      slot ∉ s.proc.freeConnections →
      ∀ task ∈ s.ldapTasks env,
        task.senderSource = .mysql →
        task.c ≠ slot

/-- Every reply waits at the LDAP worker of its connection. -/
def Owned (s : System) : Prop :=
  ∀ ldap,
    ∀ task ∈ (s.ldaps ldap).tasks,
      task.senderSource = .mysql →
      (s.conns task.c).ldap = some ldap

/-- Where every reply waits at the right worker it is executed there. -/
theorem Owned.confined
    {s : System}
    (owned : Owned s) :
    Confined s := by
  intro ldap task current fromMysql
  exact owned ldap task (by simp [LdapWorker.tasks, current]) fromMysql

/-- Replies that waited before still wait at the right worker. -/
theorem Owned.fewer
    {s next : System}
    (owned : Owned s)
    (fewer :
      ∀ ldap,
        ∀ task ∈ (next.ldaps ldap).tasks,
          task.senderSource = .mysql →
          task ∈ (s.ldaps ldap).tasks)
    (same : ∀ slot, (next.conns slot).ldap = (s.conns slot).ldap) :
    Owned next := by
  intro ldap task member fromMysql
  rw [same]
  exact owned ldap task (fewer ldap task member fromMysql) fromMysql

/-- A change of one connection that keeps its worker keeps every worker. -/
theorem put_ldap
    {s : System}
    {slot : Nat}
    {next : Connection × Process}
    (same : next.1.ldap = (s.conns slot).ldap)
    (other : Nat) :
    ((s.put slot next).conns other).ldap = (s.conns other).ldap := by
  by_cases here : other = slot
  · subst other
    simpa [System.put] using same
  · simp [System.put, here]

/-- No reply waits for a slot that is free. -/
theorem Owned.not_free
    {env : Environment}
    {s : System}
    (wired : Wired env s)
    (owned : Owned s)
    {ldap : Nat}
    {task : Task}
    (member : task ∈ (s.ldaps ldap).tasks)
    (fromMysql : task.senderSource = .mysql) :
    task.c ∉ s.proc.freeConnections := by
  intro isFree
  have owner := owned ldap task member fromMysql
  rw [(wired.vacant task.c isFree).ldap] at owner
  cases owner

/-- Registering a client leaves replies at the right workers. -/
theorem Owned.opened
    {env : Environment}
    {s : System}
    (wired : Wired env s)
    (owned : Owned s)
    {slot : Nat}
    {rest : List Nat}
    (free : s.proc.freeConnections = slot :: rest)
    (sockfd : Int) :
    Owned (s.opened env sockfd slot rest) := by
  intro ldap task member fromMysql
  rcases mem_pushed member with before | ⟨-, rfl⟩
  · have notFree := owned.not_free wired before fromMysql
    have different : task.c ≠ slot := by
      rintro rfl
      rw [free] at notFree
      exact notFree (List.mem_cons_self ..)
    have sameSlot : (s.opened env sockfd slot rest).conns task.c =
        s.conns task.c :=
      Function.update_of_ne different _ _
    rw [sameSlot]
    exact owned ldap task before fromMysql
  · cases fromMysql

/-- Handling an event leaves replies at the right workers. -/
theorem Owned.handled
    {env : Environment}
    {s : System}
    (wired : Wired env s)
    (owned : Owned s)
    {slot : Nat}
    {event : Event}
    {held : List UInt8}
    {next : Connection × Process}
    (returned :
      HandlerReturn env slot event held (s.conns slot) s.proc next)
    (quiet :
      slot ∈ next.2.freeConnections →
        ∀ task ∈ s.ldapTasks env,
          task.senderSource = .mysql →
          task.c ≠ slot) :
    Owned (s.put slot next) := by
  obtain ⟨last, works, -, -, rfl | ⟨datas, rfl⟩⟩ := returned
  · exact owned.fewer (fun _ _ member _ => member)
      (put_ldap works.steady.ldap)
  · intro other task member fromMysql
    have different : task.c ≠ slot :=
      quiet (List.mem_cons_self ..) task (wired.within.mem_pooled member)
        fromMysql
    have owner := owned other task member fromMysql
    simpa [System.put, different] using owner

/-- A step that closes quietly leaves replies at the right workers. -/
theorem Owned.step
    {env : Environment}
    {s next : System}
    {action : Action}
    (wired : Wired env s)
    (owned : Owned s)
    (quiet : ClosesQuietly env s action)
    (taken : step env s action = some next) :
    Owned next := by
  have closes := quiet next taken
  cases step_stepped taken with
  | refused sockfd full =>
      exact owned
  | opened sockfd slot rest free =>
      exact owned.opened wired free sockfd
  | ldapPopped ldap task rest current queue =>
      exact owned.fewer (fun _ _ member _ => mem_popped queue member)
        fun _ => rfl
  | served ldap send task current server =>
      exact owned.fewer (fun _ _ member _ => mem_finished member)
        (put_ldap rfl)
  | replied ldap send task ret last current fromMysql replied =>
      have same : last.1.ldap = (s.conns task.c).ldap := by
        cases replied <;> rfl
      exact owned.fewer (fun _ _ member _ => mem_finished member)
        (put_ldap same)
  | stray ldap send task current notServer notMysql =>
      exact owned.fewer (fun _ _ member _ => mem_finished member)
        fun _ => rfl
  | handled ldap slot event last idle delivered returned =>
      obtain ⟨held, holding⟩ := wired.holding slot
      exact owned.handled wired (returned held holding)
        fun freed => closes slot freed (wired.delivered delivered).1
  | mysqlPopped mysql task rest worker current queue taken left =>
      exact owned
  | answered mysql task ldap current owner =>
      intro other reply member fromMysql
      rcases mem_pushed member with before | ⟨rfl, rfl⟩
      · exact owned other reply before fromMysql
      · exact owner
  | unanswered mysql task current noOwner =>
      exact owned
  | dropped mysql task current =>
      exact owned

/--
In every run in which no slot is given back while an LDAP worker has a reply
for it, the LDAP worker that executes a reply task is the one its connection
points to.
-/
theorem replies_confined
    {env : Environment}
    {actions : List Action}
    {s : System}
    (run :
      Run (Guarded (ClosesQuietly env) (Enabled (step env)))
        (System.initial env) actions s) :
    Confined s := by
  have kept := run.invariant
    (fun s => Wired env s ∧ Owned s)
    (fun ⟨wired, owned⟩ ⟨quiet, taken⟩ =>
      ⟨wired.step (step_stepped taken), owned.step wired quiet taken⟩)
    ⟨wired_initial env, fun ldap task member => nomatch member⟩
  exact kept.2.confined

/-- The step as a check that no slot is given back under a reply. -/
def closesQuietly
    (env : Environment)
    (s : System)
    (action : Action) :
    Bool :=
  match step env s action with
  | none =>
      true
  | some next =>
      decide
        (∀ slot ∈ next.proc.freeConnections,
          slot ∉ s.proc.freeConnections →
          ∀ task ∈ s.ldapTasks env,
            task.senderSource = .mysql →
            task.c ≠ slot)

theorem closesQuietly_sound
    {env : Environment}
    {s : System}
    {action : Action}
    (checked : closesQuietly env s action = true) :
    ClosesQuietly env s action := by
  intro next taken
  simp only [closesQuietly, taken, decide_eq_true_eq] at checked
  exact checked

/-- Two clients of one slot, the first of which leaves after its answer. -/
def leavesAnswered : List Action :=
  newClient 0 ++ replyTaken 0 ++ [.ldapExec 0 [], clientLeaves 0] ++
    newClient 1 ++ replyTaken 1

/-- The reply to the second client is at the right worker. -/
theorem replies_confined_reused :
    ∃ s,
      Run (Guarded (ClosesQuietly twoWorkers) (Enabled (step twoWorkers)))
          (System.initial twoWorkers) leavesAnswered s ∧
        Confined s := by
  obtain ⟨s, run⟩ :
      ∃ s,
        Run (Guarded (ClosesQuietly twoWorkers) (Enabled (step twoWorkers)))
          (System.initial twoWorkers) leavesAnswered s :=
    exec_guarded closesQuietly_sound (by decide +kernel)
  exact ⟨s, run, replies_confined run⟩

/-- An LDAP worker is about to execute a reply to a foreign connection. -/
def Trespasses (ldap : Nat) (s : System) : Prop :=
  ∃ task ∈ (s.ldaps ldap).current.toList,
    task.senderSource = .mysql ∧ (s.conns task.c).ldap ≠ some ldap

instance (ldap : Nat) (s : System) : Decidable (Trespasses ldap s) :=
  inferInstanceAs (Decidable (∃ task ∈ _, _))

/--
A client leaves while its reply waits, and the slot goes to a client of the
other LDAP worker before the first worker takes the reply.
-/
def leavesUnanswered : List Action :=
  newClient 0 ++
    [searchArrives 0 0x87, .mysqlPop 0, .mysqlExec 0, clientLeaves 0] ++
    newClient 1 ++ [.ldapPop 0]

/-- The first worker executes the reply on a foreign connection. -/
theorem reply_trespasses :
    ∃ s,
      Run (Enabled (step twoWorkers)) (System.initial twoWorkers)
          leavesUnanswered s ∧
        ¬ Confined s := by
  obtain ⟨s, run, task, current, fromMysql, foreign⟩ :
      ∃ s,
        Run (Enabled (step twoWorkers)) (System.initial twoWorkers)
            leavesUnanswered s ∧
          Trespasses 0 s :=
    exec_reaches (Trespasses 0) (by decide +kernel)
  refine ⟨s, run, ?_⟩
  intro confined
  exact foreign
    (confined 0 task (Option.mem_toList.mp current) fromMysql)

end LdapProxy

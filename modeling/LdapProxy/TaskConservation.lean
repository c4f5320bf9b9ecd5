import LdapProxy.Wiring

namespace LdapProxy

open LdapProxy.Lber
open LdapProxy.Pool
open LdapProxy.Transition

/-!
# Every task has one owner

The tasks in the queues and at the workers, together with the destroyed ones,
are the tasks that `lp_task_new` has returned, each once.  Three error returns
break this: a search whose equality filter does not scan, a reply to a
connection without LDAP worker and a reply that a foreign worker has accepted
are dropped without being destroyed.
-/

/-- The addresses of the tasks in flight. -/
def System.taskIds (env : Environment) (s : System) : Multiset Nat :=
  (s.ldapTasks env).map Task.id + (s.proc.mysqlTasks env).map Task.id

/--
The step disposes of its task: no search that an event reaches has an equality
filter whose contents are not two strings, a MySQL worker finds an LDAP worker
at the connection of its query, and an LDAP worker finds itself at the
connection of a reply whose tick is registered there.
-/
def Disposes (s : System) : Action → Prop
  | .ldapEvent ldap slot event =>
      ReadsNow ldap event (s.conns slot) →
        ∀ held,
          (s.conns slot).Holding held →
          ∀ op ∈ dispatched (event.batch held (s.conns slot)),
            ¬ FilterLost op
  | .mysqlExec mysql =>
      ∀ task,
        (s.proc.mysqls mysql).current = some task →
        (s.conns task.c).ldap ≠ none
  | .ldapExec ldap _ =>
      ∀ task,
        (s.ldaps ldap).current = some task →
        task.senderSource = .mysql →
        task.tick ∈ (s.conns task.c).taskTicks →
        (s.conns task.c).ldap = some ldap
  | _ =>
      True

/-- Work that loses no search keeps the ledger of the tasks. -/
theorem Works.accounts
    {env : Environment}
    {slot : Nat}
    {reached : BerElement → Prop}
    {before after : Connection × Process}
    (works : Works env slot reached before after)
    (disposes : ∀ op, reached op → ¬ FilterLost op)
    (wired : MysqlWired env before.2)
    {held : Multiset Nat}
    (accounts :
      before.2.tasks.Accounts
        (held + (before.2.mysqlTasks env).map Task.id)) :
    after.2.tasks.Accounts
      (held + (after.2.mysqlTasks env).map Task.id) := by
  induction works with
  | refl =>
      exact accounts
  | tail works work inductionHypothesis =>
      have stillWired := (Works.steady works).mysql wired
      cases work.taskWork with
      | quiet next datas ldap ticks incarnation replies =>
          exact inductionHypothesis
      | lost op isReached filter =>
          exact (disposes op isReached filter).elim
      | query task worker id inSlot tick issued pushed =>
          have allocated := Ledger.accounts_alloc inductionHypothesis
          rw [← id, ← Multiset.add_cons, ← Multiset.map_cons,
            ← mysqlTasks_pushed stillWired.mysqlIndex pushed] at allocated
          exact allocated

/-- A handler that loses no search keeps the ledger of the tasks. -/
theorem HandlerReturn.accounts
    {env : Environment}
    {s : System}
    (wired : Wired env s)
    {ldap slot : Nat}
    {event : Event}
    (delivered : Delivered ldap event (s.conns slot))
    (disposes : Disposes s (.ldapEvent ldap slot event))
    {held : List UInt8}
    (holding : (s.conns slot).Holding held)
    {next : Connection × Process}
    (returned :
      HandlerReturn env slot event held (s.conns slot) s.proc next)
    (accounts : s.proc.tasks.Accounts (s.taskIds env)) :
    (s.put slot next).proc.tasks.Accounts
      ((s.put slot next).taskIds env) := by
  obtain ⟨last, works, -, -, ends⟩ := returned
  have worked : last.2.tasks.Accounts
      ((s.ldapTasks env).map Task.id +
        (last.2.mysqlTasks env).map Task.id) := by
    refine works.accounts ?_ wired.mysql accounts
    rintro op ⟨notClosing, reads, member⟩
    exact disposes ⟨delivered, notClosing, reads⟩ held holding op member
  rcases ends with rfl | ⟨datas, rfl⟩
  · exact worked
  · exact worked

/-- A task that an LDAP worker destroys leaves the ledger accounted for. -/
theorem accounts_finished
    {env : Environment}
    {s : System}
    (wired : Wired env s)
    {ldap : Nat}
    {task : Task}
    (current : (s.ldaps ldap).current = some task)
    (accounts : s.proc.tasks.Accounts (s.taskIds env)) :
    (s.proc.tasks.release task.id).Accounts
      ((s.finished ldap).taskIds env) := by
  refine Ledger.accounts_release ?_
  unfold System.taskIds at accounts ⊢
  rw [ldapTasks_finished (wired.ldap_inside current) current,
    Multiset.map_cons, Multiset.cons_add] at accounts
  exact accounts

/-- A query that a MySQL worker destroys leaves the ledger accounted for. -/
theorem accounts_mysqlFinished
    {env : Environment}
    {s : System}
    (wired : Wired env s)
    {mysql : Nat}
    {task : Task}
    (current : (s.proc.mysqls mysql).current = some task)
    {p : Process}
    (sameWorkers : p.mysqls = s.proc.mysqls)
    (accounts : p.tasks.Accounts (s.taskIds env)) :
    (s.mysqlFinished mysql
      (lpTaskDestroy task p)).proc.tasks.Accounts
        ((s.mysqlFinished mysql (lpTaskDestroy task p)).taskIds env) := by
  refine Ledger.accounts_release ?_
  have left : (s.mysqlFinished mysql
      (lpTaskDestroy task p)).proc.mysqlTasks env =
      pooled env.mysqlNum MysqlWorker.tasks
        (Function.update s.proc.mysqls mysql
          { s.proc.mysqls mysql with current := none }) := by
    rw [← sameWorkers]
    rfl
  unfold System.taskIds at accounts ⊢
  rw [left, ← Multiset.add_cons, ← Multiset.map_cons,
    ← mysqlTasks_finished (wired.mysql_inside current) current]
  exact accounts

/-- A task that is pushed to an LDAP worker is in flight. -/
theorem taskIds_pushed
    {env : Environment}
    {ldap : Nat}
    (inside : ldap < env.ldapNum)
    (s : System)
    (task : Task) :
    (s.pushed ldap task).taskIds env = task.id ::ₘ s.taskIds env := by
  unfold System.taskIds
  rw [ldapTasks_pushed inside, Multiset.map_cons, Multiset.cons_add]
  rfl

/-- The registration task of a new client is in flight. -/
theorem accounts_opened
    {env : Environment}
    {s : System}
    (sockfd : Int)
    (slot : Nat)
    (rest : List Nat)
    (accounts : s.proc.tasks.Accounts (s.taskIds env)) :
    (s.opened env sockfd slot rest).proc.tasks.Accounts
      ((s.opened env sockfd slot rest).taskIds env) := by
  have allocated := Ledger.accounts_alloc accounts
  have pushed := taskIds_pushed (lpGetLdap_lt env s.ldapIndex)
    (s.put slot
      ((s.conns slot).opened sockfd (lpGetLdap env s.ldapIndex).1,
        (lpTaskNew env s.proc).2))
    (registerTask (lpTaskNew env s.proc).1
      (lpGetLdap env s.ldapIndex).1 slot
      ((s.conns slot).opened sockfd
        (lpGetLdap env s.ldapIndex).1).incarnation)
  have same : (s.opened env sockfd slot rest).taskIds env =
      s.proc.tasks.next ::ₘ s.taskIds env := pushed
  rw [same]
  exact allocated

/-- Every step that disposes of its task keeps the ledger accounted for. -/
theorem accounts_step
    {env : Environment}
    {s next : System}
    {action : Action}
    (wired : Wired env s)
    (disposes : Disposes s action)
    (stepped : Stepped env s action next)
    (accounts : s.proc.tasks.Accounts (s.taskIds env)) :
    next.proc.tasks.Accounts (next.taskIds env) := by
  cases stepped with
  | refused sockfd full =>
      exact accounts
  | opened sockfd slot rest free =>
      exact accounts_opened sockfd slot rest accounts
  | ldapPopped ldap task rest current queue =>
      have inside : ldap < env.ldapNum :=
        wired.within ldap task (by simp [LdapWorker.tasks, queue])
      have same := ldapTasks_popped inside current queue
      unfold System.taskIds System.ldapTasks
      rw [same]
      exact accounts
  | served ldap send task current server =>
      exact accounts_finished wired current accounts
  | replied ldap send task ret last current fromMysql replied =>
      cases replied with
      | refused unknown =>
          exact accounts_finished wired current accounts
      | foreign registered other =>
          exact (other (disposes task current fromMysql registered)).elim
      | answered ret rplList sent datas registered owner fromList =>
          exact accounts_finished wired current accounts
  | stray ldap send task current notServer notMysql =>
      exact (notMysql (wired.not_stray current notServer)).elim
  | handled ldap slot event last idle delivered returned =>
      obtain ⟨held, holding⟩ := wired.holding slot
      exact (returned held holding).accounts wired delivered disposes
        holding accounts
  | mysqlPopped mysql task rest worker current queue taken left =>
      have inside : mysql < env.mysqlNum :=
        wired.mysql.within mysql task (by simp [MysqlWorker.tasks, queue])
      have same := mysqlTasks_popped inside current queue taken left
      unfold System.taskIds Process.mysqlTasks
      rw [same]
      exact accounts
  | answered mysql task ldap current owner =>
      have inside := wired.owner task.c ldap owner
      have pushed := wired.pushed inside
        (replyTask env mysql task (some ldap) (lpTaskNew env s.proc).1)
        (.inr rfl)
      refine accounts_mysqlFinished pushed current rfl ?_
      rw [taskIds_pushed inside]
      exact Ledger.accounts_alloc accounts
  | unanswered mysql task current noOwner =>
      exact (disposes task current noOwner).elim
  | dropped mysql task current =>
      exact accounts_mysqlFinished wired current rfl accounts

/--
In every run whose steps all dispose of their tasks, the tasks in the queues
and at the workers and the destroyed ones are the tasks created so far, each
exactly once.
-/
theorem tasks_conserved
    {env : Environment}
    {actions : List Action}
    {s : System}
    (run :
      Run (Guarded Disposes (Enabled (step env))) (System.initial env)
        actions s) :
    s.proc.tasks.Accounts (s.taskIds env) := by
  have noIds : (System.initial env).taskIds env = 0 := by
    have noLdap : (System.initial env).ldapTasks env = 0 :=
      pooled_empty fun _ => rfl
    have noMysql : (System.initial env).proc.mysqlTasks env = 0 :=
      pooled_empty fun _ => rfl
    unfold System.taskIds
    rw [noLdap, noMysql]
    rfl
  have kept := run.invariant
    (fun s => Wired env s ∧ s.proc.tasks.Accounts (s.taskIds env))
    (fun ⟨wired, accounts⟩ ⟨disposes, taken⟩ =>
      ⟨wired.step (step_stepped taken),
        accounts_step wired disposes (step_stepped taken) accounts⟩)
    ⟨wired_initial env, by
      rw [noIds]
      exact Ledger.accounts_empty⟩
  exact kept.2

/-- A sufficient check that a search does not lose its filter. -/
def filterKept (op : BerElement) : Bool :=
  let filter := (berScanf searchFormat op).2
  berPeekTag filter ≠ ldapFilterEquality ||
    (equalityStrings filter).isSome

/-- A sufficient check that a step disposes of its task. -/
def disposesCheck (s : System) : Action → Bool
  | .ldapEvent _ slot event =>
      (s.conns slot).curData.isNone &&
        (dispatched (event.batch [] (s.conns slot))).all filterKept
  | .mysqlExec mysql =>
      ((s.proc.mysqls mysql).current.toList).all fun task =>
        (s.conns task.c).ldap.isSome
  | .ldapExec ldap _ =>
      ((s.ldaps ldap).current.toList).all fun task =>
        (s.conns task.c).ldap = some ldap
  | _ =>
      true

theorem disposesCheck_sound
    {s : System}
    {action : Action}
    (checked : disposesCheck s action = true) :
    Disposes s action := by
  cases action with
  | ldapEvent ldap slot event =>
      simp only [disposesCheck, Bool.and_eq_true, List.all_eq_true,
        Option.isNone_iff_eq_none] at checked
      rintro - held (⟨-, rfl⟩ | ⟨data, isSome, -⟩) op member
      · rintro ⟨more, base, filter, scanned, equality, noStrings⟩
        have kept := checked.2 op member
        simp [filterKept, scanned, equality, noStrings] at kept
      · rw [checked.1] at isSome
        cases isSome
  | mysqlExec mysql =>
      intro task current
      simpa [disposesCheck, current, Option.isSome_iff_ne_none] using
        checked
  | ldapExec ldap send =>
      intro task current _ _
      simpa [disposesCheck, current] using checked
  | _ =>
      trivial

/-- The search of a client is looked up and answered. -/
def searchAnswered : List Action :=
  newClient 0 ++ replyTaken 0 ++ [.ldapExec 0 []]

/-- An answered search leaves every task accounted for. -/
theorem tasks_conserved_search :
    ∃ s,
      Run (Guarded Disposes (Enabled (step driftingEnv)))
          (System.initial driftingEnv) searchAnswered s ∧
        s.proc.tasks.Accounts (s.taskIds driftingEnv) := by
  obtain ⟨s, run⟩ :
      ∃ s,
        Run (Guarded Disposes (Enabled (step driftingEnv)))
          (System.initial driftingEnv) searchAnswered s :=
    exec_guarded disposesCheck_sound (by decide +kernel)
  exact ⟨s, run, tasks_conserved run⟩

/-- The ledger of a state does not account for its tasks. -/
def Leaks (env : Environment) (s : System) : Prop :=
  ¬ s.proc.tasks.Accounts (s.taskIds env)

instance (env : Environment) (s : System) : Decidable (Leaks env s) :=
  inferInstanceAs (Decidable (¬ _))

/--
A search whose equality filter is empty leaks its query task, a client that
leaves before its query is executed leaks the reply task, and so does a reply
that is accepted by the LDAP worker of an earlier client of the slot.
-/
theorem three_leaks :
    (∃ s,
      Run (Enabled (step driftingEnv)) (System.initial driftingEnv)
          (newClient 0 ++ [searchArrives 0 0xa3]) s ∧
        Leaks driftingEnv s) ∧
      (∃ s,
        Run (Enabled (step driftingEnv)) (System.initial driftingEnv)
            (newClient 0 ++
              [searchArrives 0 0x87, clientLeaves 0, .mysqlPop 0,
                .mysqlExec 0]) s ∧
          Leaks driftingEnv s) ∧
      ∃ s,
        Run (Enabled (step twoWorkers)) (System.initial twoWorkers)
            (newClient 0 ++
              [searchArrives 0 0x87, .mysqlPop 0, .mysqlExec 0,
                clientLeaves 0] ++
              newClient 1 ++
              [searchArrives 1 0x87, .ldapPop 0, .ldapExec 0 []]) s ∧
          Leaks twoWorkers s :=
  ⟨exec_reaches (Leaks driftingEnv) (by decide +kernel),
    exec_reaches (Leaks driftingEnv) (by decide +kernel),
    exec_reaches (Leaks twoWorkers) (by decide +kernel)⟩

end LdapProxy

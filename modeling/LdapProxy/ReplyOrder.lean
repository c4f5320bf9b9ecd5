import LdapProxy.TransitionHistory
import LdapProxy.WorkerProgress

namespace LdapProxy

open LdapProxy.Lber
open LdapProxy.Transition

/-!
# Replies come back in the order of their queries

A MySQL worker answers its queries in the order in which they were pushed, and
an LDAP worker executes the replies of one MySQL worker in the order in which
they were built.  No reply is made up, repeated or overtaken; a query is left
without one only when its connection has no LDAP worker any more.
-/

/--
What the workers have done so far: the queries that were pushed to each MySQL
worker, the queries it has executed with the LDAP worker it found at their
connection, and the tasks that each LDAP worker has executed.
-/
structure History where
  asked : Nat → List Task
  answered : Nat → List (Task × Option Nat)
  executed : Nat → List Task

/-- Nothing was done. -/
def History.empty : History where
  asked := fun _ => []
  answered := fun _ => []
  executed := fun _ => []

/-- What a step adds to the history. -/
def History.record
    (s : System)
    (action : Action)
    (next : System)
    (h : History) :
    History :=
  match action with
  | .ldapEvent _ _ _ =>
      { h with
        asked := fun mysql =>
          h.asked mysql ++
            (next.proc.mysqls mysql).tasks.drop
              (s.proc.mysqls mysql).tasks.length }
  | .ldapExec ldap _ =>
      { h with
        executed :=
          Function.update h.executed ldap
            (h.executed ldap ++ (s.ldaps ldap).current.toList) }
  | .mysqlExec mysql =>
      { h with
        answered :=
          Function.update h.answered mysql
            (h.answered mysql ++
              (s.proc.mysqls mysql).current.toList.map fun task =>
                (task, (s.conns task.c).ldap)) }
  | .register _ =>
      h
  | .ldapPop _ =>
      h
  | .mysqlPop _ =>
      h

/-- One step of the proxy with the history it leaves. -/
def historyStep (env : Environment) :
    System × History → Action → Option (System × History) :=
  recorded (step env) History.record

/-- The queries whose replies were pushed to an LDAP worker. -/
def sentTo (ldap : Nat) (answered : List (Task × Option Nat)) :
    List Task :=
  (answered.filter fun entry => entry.2 = some ldap).map Prod.fst

/-- The task comes from this MySQL worker. -/
def Task.FromMysql (mysql : Nat) (task : Task) : Prop :=
  task.sender = some (.mysql mysql)

instance (mysql : Nat) (task : Task) : Decidable (task.FromMysql mysql) :=
  inferInstanceAs (Decidable (_ = _))

/-- The reply that a MySQL worker sends to an LDAP worker for a query. -/
structure Task.Answers
    (env : Environment)
    (mysql ldap : Nat)
    (query reply : Task) :
    Prop where
  receiver : reply.receiver = some (.ldap ldap)
  taskType : reply.taskType = lpTaskMysqlMsg
  c : reply.c = query.c
  tick : reply.tick = query.tick
  issued : reply.issued = query.issued
  data : reply.data = replyOf query.data (lookup env query)

/--
What was asked is what was executed and what still waits, and what each LDAP
worker got from a MySQL worker are the replies to what was executed for it.
-/
structure RepliesInOrder
    (env : Environment)
    (t : System × History) :
    Prop where
  asked : ∀ mysql,
    t.2.asked mysql =
      (t.2.answered mysql).map Prod.fst ++ (t.1.proc.mysqls mysql).tasks
  replies : ∀ ldap mysql,
    List.Forall₂ (Task.Answers env mysql ldap)
      (sentTo ldap (t.2.answered mysql))
      ((t.2.executed ldap ++ (t.1.ldaps ldap).tasks).filter
        (Task.FromMysql mysql))

/-- Nothing is asked and nothing is answered at first. -/
theorem repliesInOrder_initial (env : Environment) :
    RepliesInOrder env (System.initial env, History.empty) where
  asked := fun _ => rfl
  replies := fun _ _ => .nil

/-- Work on a connection puts its queries behind those that wait. -/
theorem Works.appends
    {env : Environment}
    {slot : Nat}
    {reached : BerElement → Prop}
    {before after : Connection × Process}
    (works : Works env slot reached before after)
    (mysql : Nat) :
    (before.2.mysqls mysql).tasks <+: (after.2.mysqls mysql).tasks := by
  induction works with
  | refl =>
      exact List.prefix_rfl
  | @tail middle last _ work inductionHypothesis =>
      refine inductionHypothesis.trans ?_
      cases work.taskWork with
      | quiet next datas ldap ticks incarnation replies =>
          exact List.prefix_rfl
      | lost op isReached filter =>
          exact List.prefix_rfl
      | query task worker id inSlot tick issued pushed =>
          by_cases here : mysql = middle.2.mysqlIndex
          · simp only [here, Function.update_self, pushed]
            exact List.prefix_append ..
          · simp only [Function.update_of_ne here]
            exact List.prefix_rfl

/-- What is appended to a list is what is recorded. -/
theorem drop_of_prefix
    {before after : List Task}
    (appended : before <+: after) :
    before ++ after.drop before.length = after := by
  obtain ⟨more, rfl⟩ := appended
  rw [List.drop_left]

/-- The tasks at the LDAP workers and the queries are where they were. -/
theorem RepliesInOrder.same
    {env : Environment}
    {s next : System}
    {h : History}
    (inOrder : RepliesInOrder env (s, h))
    (sameLdaps : ∀ ldap, (next.ldaps ldap).tasks = (s.ldaps ldap).tasks)
    (sameMysqls :
      ∀ mysql,
        (next.proc.mysqls mysql).tasks = (s.proc.mysqls mysql).tasks) :
    RepliesInOrder env (next, h) where
  asked mysql := by
    simp only [sameMysqls]
    exact inOrder.asked mysql
  replies ldap mysql := by
    simp only [sameLdaps]
    exact inOrder.replies ldap mysql

/-- An event handler asks and leaves the LDAP workers alone. -/
theorem RepliesInOrder.handled
    {env : Environment}
    {s next : System}
    {h : History}
    (inOrder : RepliesInOrder env (s, h))
    (sameLdaps : next.ldaps = s.ldaps)
    (appended :
      ∀ mysql,
        (s.proc.mysqls mysql).tasks <+: (next.proc.mysqls mysql).tasks)
    (ldap slot : Nat)
    (event : Event) :
    RepliesInOrder env
      (next, History.record s (.ldapEvent ldap slot event) next h) where
  asked mysql := by
    simp only [History.record]
    rw [inOrder.asked mysql, List.append_assoc,
      drop_of_prefix (appended mysql)]
  replies other mysql := by
    simp only [History.record, sameLdaps]
    exact inOrder.replies other mysql

/-- A task that is executed goes from the worker to the history. -/
theorem RepliesInOrder.executed
    {env : Environment}
    {s next : System}
    {h : History}
    (inOrder : RepliesInOrder env (s, h))
    {ldap : Nat}
    {task : Task}
    (current : (s.ldaps ldap).current = some task)
    (finished : next.ldaps = (s.finished ldap).ldaps)
    (sameMysqls : next.proc.mysqls = s.proc.mysqls)
    (send : List Send) :
    RepliesInOrder env
      (next, History.record s (.ldapExec ldap send) next h) where
  asked mysql := by
    simp only [History.record, sameMysqls]
    exact inOrder.asked mysql
  replies other mysql := by
    have replies := inOrder.replies other mysql
    simp only [History.record, finished]
    by_cases same : other = ldap
    · subst other
      simpa [System.finished, LdapWorker.tasks, current] using replies
    · simpa [System.finished, Function.update_of_ne same] using replies

/-- A task that is pushed to an LDAP worker comes after those it has. -/
theorem pushed_tasks
    (s : System)
    (ldap : Nat)
    (task : Task)
    (other : Nat) :
    ((s.pushed ldap task).ldaps other).tasks =
      (s.ldaps other).tasks ++ if other = ldap then [task] else [] := by
  by_cases same : other = ldap
  · subst other
    simp [System.pushed, LdapWorker.tasks]
  · simp [System.pushed, same]

/-- A registration task is no reply. -/
theorem RepliesInOrder.opened
    {env : Environment}
    {s : System}
    {h : History}
    (inOrder : RepliesInOrder env (s, h))
    (sockfd : Int)
    (slot : Nat)
    (rest : List Nat) :
    RepliesInOrder env (s.opened env sockfd slot rest, h) where
  asked := inOrder.asked
  replies ldap mysql := by
    have more := pushed_tasks s (lpGetLdap env s.ldapIndex).1
      (registerTask (lpTaskNew env s.proc).1
        (lpGetLdap env s.ldapIndex).1 slot
        ((s.conns slot).opened sockfd
          (lpGetLdap env s.ldapIndex).1).incarnation) ldap
    have notReply :
        List.filter (Task.FromMysql mysql)
          (if ldap = (lpGetLdap env s.ldapIndex).1 then
            [registerTask (lpTaskNew env s.proc).1
              (lpGetLdap env s.ldapIndex).1 slot
              ((s.conns slot).opened sockfd
                (lpGetLdap env s.ldapIndex).1).incarnation]
          else []) = [] := by
      split
      · rfl
      · rfl
    have sameLdaps : (s.opened env sockfd slot rest).ldaps =
        (s.pushed (lpGetLdap env s.ldapIndex).1
          (registerTask (lpTaskNew env s.proc).1
            (lpGetLdap env s.ldapIndex).1 slot
            ((s.conns slot).opened sockfd
              (lpGetLdap env s.ldapIndex).1).incarnation)).ldaps := rfl
    simp only
    rw [sameLdaps, more, ← List.append_assoc, List.filter_append, notReply,
      List.append_nil]
    exact inOrder.replies ldap mysql

/-- The query that a MySQL worker executes goes from it to the history. -/
theorem RepliesInOrder.asked_finished
    {env : Environment}
    {s : System}
    {h : History}
    (inOrder : RepliesInOrder env (s, h))
    {mysql : Nat}
    {task : Task}
    (current : (s.proc.mysqls mysql).current = some task)
    {mysqls : Nat → MysqlWorker}
    (finished :
      mysqls =
        Function.update s.proc.mysqls mysql
          { s.proc.mysqls mysql with current := none })
    (next : System)
    (other : Nat) :
    (History.record s (.mysqlExec mysql) next h).asked other =
      ((History.record s (.mysqlExec mysql) next h).answered other).map
          Prod.fst ++
        (mysqls other).tasks := by
  have asked := inOrder.asked other
  simp only [History.record, finished]
  by_cases same : other = mysql
  · subst other
    simpa [MysqlWorker.tasks, current] using asked
  · simpa [Function.update_of_ne same] using asked

/-- A query that is executed is recorded with the owner it found. -/
theorem sentTo_record
    {s : System}
    {mysql : Nat}
    {task : Task}
    (current : (s.proc.mysqls mysql).current = some task)
    (next : System)
    (h : History)
    (ldap other : Nat) :
    sentTo ldap
        ((History.record s (.mysqlExec mysql) next h).answered other) =
      sentTo ldap (h.answered other) ++
        if other = mysql ∧ (s.conns task.c).ldap = some ldap then [task]
        else [] := by
  by_cases same : other = mysql
  · subst other
    by_cases owner : (s.conns task.c).ldap = some ldap
    · simp [sentTo, History.record, current, owner]
    · simp [sentTo, History.record, current, owner]
  · simp [sentTo, History.record, same]

/-- A query whose connection has no LDAP worker gets no reply. -/
theorem RepliesInOrder.unanswered
    {env : Environment}
    {s : System}
    {h : History}
    (inOrder : RepliesInOrder env (s, h))
    {mysql : Nat}
    {task : Task}
    (current : (s.proc.mysqls mysql).current = some task)
    (noOwner : (s.conns task.c).ldap = none)
    {p : Process}
    (sameWorkers : p.mysqls = s.proc.mysqls) :
    RepliesInOrder env
      (s.mysqlFinished mysql p,
        History.record s (.mysqlExec mysql) (s.mysqlFinished mysql p) h) where
  asked := inOrder.asked_finished current (by
    simp [System.mysqlFinished, sameWorkers]) (s.mysqlFinished mysql p)
  replies ldap other := by
    simp only
    rw [sentTo_record current, noOwner]
    simpa [History.record, System.mysqlFinished] using
      inOrder.replies ldap other

/-- The reply of a query is the last task of the LDAP worker of its owner. -/
theorem RepliesInOrder.answered
    {env : Environment}
    {s : System}
    {h : History}
    (inOrder : RepliesInOrder env (s, h))
    {mysql : Nat}
    {task : Task}
    (current : (s.proc.mysqls mysql).current = some task)
    {owner : Nat}
    (owned : (s.conns task.c).ldap = some owner)
    {reply : Task}
    (sender : reply.FromMysql mysql)
    (answers : task.Answers env mysql owner reply)
    {p : Process}
    (sameWorkers : p.mysqls = s.proc.mysqls) :
    RepliesInOrder env
      ((s.pushed owner reply).mysqlFinished mysql p,
        History.record s (.mysqlExec mysql)
          ((s.pushed owner reply).mysqlFinished mysql p) h) where
  asked := inOrder.asked_finished current (by
    simp [System.mysqlFinished, sameWorkers])
      ((s.pushed owner reply).mysqlFinished mysql p)
  replies ldap other := by
    have before := inOrder.replies ldap other
    have more : (((s.pushed owner reply).mysqlFinished mysql p).ldaps
        ldap).tasks =
          (s.ldaps ldap).tasks ++ if ldap = owner then [reply] else [] :=
      pushed_tasks s owner reply ldap
    simp only at before ⊢
    rw [sentTo_record current, owned, more, ← List.append_assoc,
      List.filter_append]
    refine List.rel_append before ?_
    by_cases here : other = mysql ∧ ldap = owner
    · obtain ⟨rfl, rfl⟩ := here
      simpa [sender] using answers
    · -- the reply is for another worker, or from another one
      have notHere : ¬ (other = mysql ∧ some owner = some ldap) := by
        rintro ⟨rfl, same⟩
        exact here ⟨rfl, (Option.some.inj same).symm⟩
      rw [if_neg notHere]
      by_cases same : ldap = owner
      · have otherSender : ¬ reply.FromMysql other := by
          intro isSender
          have equal : other = mysql := by
            have senders := isSender.symm.trans sender
            simpa using senders
          exact here ⟨equal, same⟩
        simp [same, otherSender]
      · simp [same]

/-- The reply task is the reply to its query. -/
theorem replyTask_answers
    (env : Environment)
    (mysql : Nat)
    (task : Task)
    (ldap : Nat)
    (new : NewTask) :
    task.Answers env mysql ldap
      (replyTask env mysql task (some ldap) new) where
  receiver := rfl
  taskType := rfl
  c := rfl
  tick := rfl
  issued := rfl
  data := by rw [replyTask]

/-- Every step keeps the replies in the order of their queries. -/
theorem RepliesInOrder.step
    {env : Environment}
    {s next : System}
    {h : History}
    {action : Action}
    (wired : Wired env s)
    (addressed : Addressed s)
    (inOrder : RepliesInOrder env (s, h))
    (taken : step env s action = some next) :
    RepliesInOrder env (next, History.record s action next h) := by
  have stepped := step_stepped taken
  cases stepped with
  | refused sockfd full =>
      exact inOrder
  | opened sockfd slot rest free =>
      exact inOrder.opened sockfd slot rest
  | ldapPopped ldap task rest current queue =>
      refine inOrder.same ?_ fun mysql => rfl
      intro other
      by_cases same : other = ldap
      · subst other
        simp [LdapWorker.tasks, current, queue]
      · simp [Function.update_of_ne same]
  | served ldap send task current server =>
      refine inOrder.executed current ?_ ?_ send
      · rfl
      · rfl
  | replied ldap send task ret last current fromMysql replied =>
      refine inOrder.executed current ?_ ?_ send
      · rfl
      · exact replied.mysqls
  | stray ldap send task current notServer notMysql =>
      refine inOrder.executed current ?_ ?_ send
      · rfl
      · rfl
  | handled ldap slot event last idle delivered returned =>
      obtain ⟨held, holding⟩ := wired.holding slot
      obtain ⟨worked, works, -, -, rfl | ⟨datas, rfl⟩⟩ :=
        returned held holding
      · refine inOrder.handled ?_ ?_ ldap slot event
        · rfl
        · exact works.appends
      · refine inOrder.handled ?_ ?_ ldap slot event
        · rfl
        · exact works.appends
  | mysqlPopped mysql task rest worker current queue popped left =>
      refine inOrder.same (fun ldap => rfl) ?_
      intro other
      by_cases same : other = mysql
      · subst other
        simp [MysqlWorker.tasks, current, queue, popped, left]
      · simp [Function.update_of_ne same]
  | answered mysql task ldap current owner =>
      refine inOrder.answered current owner ?_ ?_ ?_
      · rfl
      · exact replyTask_answers env mysql task ldap _
      · rfl
  | unanswered mysql task current noOwner =>
      exact inOrder.unanswered current noOwner rfl
  | dropped mysql task current =>
      -- a task that is addressed to its worker is not dropped
      cases owner : (s.conns task.c).ldap with
      | none =>
          have executed := addressed.mysqlExec_unanswered current owner env
          rw [Option.some.inj (taken.symm.trans executed)]
          exact inOrder.unanswered current owner rfl
      | some ldap =>
          have executed := addressed.mysqlExec_answered current owner env
          rw [Option.some.inj (taken.symm.trans executed)]
          refine inOrder.answered current owner ?_ ?_ ?_
          · rfl
          · exact replyTask_answers env mysql task ldap _
          · rfl

/--
In every run, each MySQL worker has executed the queries that were pushed to
it in that order, and the tasks that an LDAP worker has executed or still has
from it are, in order and one for one, the replies to those of them whose
connection belonged to this LDAP worker when they were executed.
-/
theorem replies_in_order
    {env : Environment}
    {actions : List Action}
    {s : System}
    {h : History}
    (run :
      Run (Enabled (historyStep env)) (System.initial env, History.empty) actions
        (s, h))
    (ldap mysql : Nat) :
    h.asked mysql =
        (h.answered mysql).map Prod.fst ++ (s.proc.mysqls mysql).tasks ∧
      List.Forall₂ (Task.Answers env mysql ldap)
        (sentTo ldap (h.answered mysql))
        ((h.executed ldap ++ (s.ldaps ldap).tasks).filter
          (Task.FromMysql mysql)) := by
  have kept :
      Wired env s ∧ Addressed s ∧ RepliesInOrder env (s, h) := by
    refine run.invariant
      (fun t => Wired env t.1 ∧ Addressed t.1 ∧ RepliesInOrder env t) ?_
      ⟨wired_initial env, addressed_initial env, repliesInOrder_initial env⟩
    rintro ⟨s, h⟩ action ⟨next, after⟩ ⟨wired, addressed, inOrder⟩ both
    obtain ⟨taken, rfl⟩ := recorded_eq_some_iff.mp both
    have stepped := step_stepped taken
    exact ⟨wired.step stepped, addressed.step wired stepped,
      inOrder.step wired addressed taken⟩
  exact ⟨kept.2.2.asked mysql, kept.2.2.replies ldap mysql⟩

/-- An LDAP worker holds the reply to a search that it has forwarded. -/
theorem replies_in_order_taken :
    ∃ (s : System) (h : History),
      (s.ldaps 0).current.isSome = true ∧
        h.asked 0 =
            (h.answered 0).map Prod.fst ++ (s.proc.mysqls 0).tasks ∧
          List.Forall₂ (Task.Answers driftingEnv 0 0)
            (sentTo 0 (h.answered 0))
            ((h.executed 0 ++ (s.ldaps 0).tasks).filter
              (Task.FromMysql 0)) := by
  obtain ⟨s, run, busy⟩ :
      ∃ s,
        Run (Enabled (step driftingEnv)) (System.initial driftingEnv)
            (newClient 0 ++ replyTaken 0) s ∧
          (s.ldaps 0).current.isSome = true :=
    exec_reaches (fun s : System => (s.ldaps 0).current.isSome = true)
      (by decide +kernel)
  obtain ⟨h, recorded⟩ := run.recorded History.empty
  exact ⟨s, h, busy, replies_in_order recorded 0 0⟩

end LdapProxy

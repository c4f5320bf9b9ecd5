import LdapProxy.Wiring

namespace LdapProxy

open LdapProxy.Lber
open LdapProxy.Pool
open LdapProxy.Transition

/-!
# Replies and the incarnations of a slot

A slot forgets the ticks of its queries when it is given back, so a late reply
is refused unless its tick is registered again.  `__get_task_tick` adds seconds
and microseconds, and two readings of the clock can have the same sum.  As long
as no query of a new client gets the tick of an outstanding query of an earlier
one, no client is sent the answer to the search of another.
-/

/-- A query, or its reply at the LDAP worker that its connection points to. -/
def Outstanding (env : Environment) (s : System) (task : Task) : Prop :=
  task ∈ s.proc.mysqlTasks env ∨
    ∃ ldap,
      (s.conns task.c).ldap = some ldap ∧
        task ∈ (s.ldaps ldap).tasks ∧
        task.senderSource = .mysql

/-- The tick differs from those of earlier clients' outstanding queries. -/
def FreshTick
    (env : Environment)
    (s : System)
    (slot tick : Nat) :
    Prop :=
  ∀ task,
    Outstanding env s task →
    task.c = slot →
    task.issued ≠ (s.conns slot).incarnation →
    task.tick ≠ tick

/--
Every reading of the clock that an event handler takes gives a tick that no
outstanding query of an earlier client of the slot has.
-/
def TicksApart (env : Environment) (s : System) : Action → Prop
  | .ldapEvent ldap slot event =>
      ∀ next,
        step env s (.ldapEvent ldap slot event) = some next →
        ∀ reading,
          s.proc.readings ≤ reading →
          reading < next.proc.readings →
          FreshTick env s slot (getTaskTick (env.clock reading))
  | _ =>
      True

/--
A reply task that is going to be accepted answers a query of the current
incarnation of its slot, and so does every reply that waits to be sent.
-/
structure AnswersCurrent (s : System) : Prop where
  accepted :
    ∀ ldap task,
      (s.ldaps ldap).current = some task →
      task.senderSource = .mysql →
      task.tick ∈ (s.conns task.c).taskTicks →
      (s.conns task.c).ldap = some ldap →
      task.issued = (s.conns task.c).incarnation
  appended :
    ∀ slot,
      ∀ reply ∈ (s.conns slot).rplList,
        reply.incarnation = (s.conns slot).incarnation

/-- A registered tick tells that an outstanding query is not stale. -/
structure Fresh (env : Environment) (s : System) : Prop where
  tasks :
    ∀ task,
      Outstanding env s task →
      task.tick ∈ (s.conns task.c).taskTicks →
      task.issued = (s.conns task.c).incarnation
  replies :
    ∀ slot,
      ∀ reply ∈ (s.conns slot).rplList,
        reply.incarnation = (s.conns slot).incarnation

/-- Where registered ticks are reliable, the accepted replies are current. -/
theorem Fresh.answersCurrent
    {env : Environment}
    {s : System}
    (fresh : Fresh env s) :
    AnswersCurrent s where
  accepted ldap task current fromMysql registered owner := by
    refine fresh.tasks task (.inr ⟨ldap, owner, ?_, fromMysql⟩) registered
    simp [LdapWorker.tasks, current]
  appended := fresh.replies

/-- Fewer ticks and no new queries keep registered ticks reliable. -/
theorem Fresh.fewer
    {env : Environment}
    {s next : System}
    (fresh : Fresh env s)
    (tasks :
      ∀ task,
        Outstanding env next task →
        ∃ before,
          Outstanding env s before ∧
            before.c = task.c ∧
            before.tick = task.tick ∧
            before.issued = task.issued)
    (ticks :
      ∀ slot,
        (next.conns slot).taskTicks ⊆ (s.conns slot).taskTicks)
    (incarnation :
      ∀ slot,
        (next.conns slot).incarnation = (s.conns slot).incarnation)
    (replies :
      ∀ slot,
        ∀ reply ∈ (next.conns slot).rplList,
          reply.incarnation = (s.conns slot).incarnation) :
    Fresh env next where
  tasks task outstanding registered := by
    obtain ⟨before, was, sameSlot, sameTick, sameIssued⟩ :=
      tasks task outstanding
    rw [incarnation, ← sameIssued, ← sameSlot]
    refine fresh.tasks before was ?_
    rw [sameSlot, sameTick]
    exact ticks task.c registered
  replies slot reply member := by
    rw [incarnation]
    exact replies slot reply member

/-- Tasks that were outstanding before, as `Fresh.fewer` asks for them. -/
theorem outstanding_before
    {env : Environment}
    {s : System}
    {task : Task}
    (was : Outstanding env s task) :
    ∃ before,
      Outstanding env s before ∧
        before.c = task.c ∧
        before.tick = task.tick ∧
        before.issued = task.issued :=
  ⟨task, was, rfl, rfl, rfl⟩

/-- A connection that gets no new worker has nothing new outstanding. -/
theorem outstanding_put
    {env : Environment}
    {s : System}
    {slot : Nat}
    {next : Connection × Process}
    (ldap :
      ∀ ldap,
        next.1.ldap = some ldap →
        (s.conns slot).ldap = some ldap)
    {task : Task}
    (outstanding : Outstanding env (s.put slot next) task) :
    task ∈ next.2.mysqlTasks env ∨ Outstanding env s task := by
  rcases outstanding with query | ⟨owner, owns, waits, fromMysql⟩
  · exact .inl query
  · refine .inr (.inr ⟨owner, ?_, waits, fromMysql⟩)
    by_cases here : task.c = slot
    · rw [here, System.put_conns_self] at owns
      rw [here]
      exact ldap owner owns
    · rw [System.put_conns_other s here] at owns
      exact owns

/-- A handler that adds neither queries nor ticks keeps them reliable. -/
theorem Fresh.put
    {env : Environment}
    {s : System}
    (fresh : Fresh env s)
    {slot : Nat}
    {next : Connection × Process}
    (sameTasks : next.2.mysqlTasks env = s.proc.mysqlTasks env)
    (ldap :
      ∀ ldap,
        next.1.ldap = some ldap →
        (s.conns slot).ldap = some ldap)
    (ticks : next.1.taskTicks ⊆ (s.conns slot).taskTicks)
    (incarnation : next.1.incarnation = (s.conns slot).incarnation)
    (replies :
      ∀ reply ∈ next.1.rplList,
        reply.incarnation = (s.conns slot).incarnation) :
    Fresh env (s.put slot next) := by
  refine fresh.fewer ?_ ?_ ?_ ?_
  · intro task now
    rcases outstanding_put ldap now with query | before
    · rw [sameTasks] at query
      exact outstanding_before (.inl query)
    · exact outstanding_before before
  · intro other
    by_cases here : other = slot
    · subst other
      rw [System.put_conns_self]
      exact ticks
    · rw [System.put_conns_other s here]
      exact List.Subset.refl _
  · intro other
    by_cases here : other = slot
    · subst other
      rw [System.put_conns_self]
      exact incarnation
    · rw [System.put_conns_other s here]
  · intro other
    by_cases here : other = slot
    · subst other
      rw [System.put_conns_self]
      exact replies
    · rw [System.put_conns_other s here]
      exact fresh.replies other

/-- What is outstanding after work was so before, or is a query of now. -/
structure Worked
    (env : Environment)
    (s : System)
    (slot : Nat)
    (last : Connection × Process) : Prop where
  fresh : Fresh env (s.put slot last)
  outstanding :
    ∀ task,
      Outstanding env (s.put slot last) task →
      Outstanding env s task ∨
        task.issued = (s.conns slot).incarnation

/-- A query whose tick is fresh keeps registered ticks reliable. -/
theorem Worked.query
    {env : Environment}
    {s : System}
    {slot : Nat}
    {c : Connection}
    {p : Process}
    (worked : Worked env s slot (c, p))
    (wired : MysqlWired env p)
    (incarnation : c.incarnation = (s.conns slot).incarnation)
    {task : Task}
    {worker : MysqlWorker}
    (inSlot : task.c = slot)
    (issued : task.issued = c.incarnation)
    (freshTick : FreshTick env s slot task.tick)
    (pushed :
      worker.tasks = (p.mysqls p.mysqlIndex).tasks ++ [task]) :
    Worked env s slot
      ({ c with taskTicks := c.taskTicks ++ [task.tick] },
        { afterTask env p with
          mysqls := Function.update p.mysqls p.mysqlIndex worker }) := by
  have newOrOld {other : Task}
      (outstanding :
        Outstanding env
          (s.put slot
            ({ c with taskTicks := c.taskTicks ++ [task.tick] },
              { afterTask env p with
                mysqls :=
                  Function.update p.mysqls p.mysqlIndex worker }))
          other) :
      other = task ∨ Outstanding env (s.put slot (c, p)) other := by
    rw [← System.put_put s slot (c, p)] at outstanding
    rcases outstanding_put (by simp) outstanding with query | old
    · have pool := mysqlTasks_pushed wired.mysqlIndex pushed
      unfold Process.mysqlTasks at query
      rw [pool] at query
      rcases Multiset.mem_cons.mp query with new | inPool
      · exact .inl new
      · exact .inr (.inl inPool)
    · exact .inr old
  refine ⟨⟨?_, ?_⟩, ?_⟩
  · intro other outstanding registered
    rcases newOrOld outstanding with rfl | old
    · rw [inSlot, System.put_conns_self]
      exact issued
    · have before := worked.fresh.tasks other old
      by_cases here : other.c = slot
      · rw [here, System.put_conns_self] at registered before ⊢
        rcases List.mem_append.mp registered with inList | new
        · exact before inList
        · by_contra stale
          have sameTick := List.mem_singleton.mp new
          rw [incarnation] at stale
          rcases worked.outstanding other old with was | now
          · exact freshTick other was here stale sameTick
          · exact stale now
      · rw [System.put_conns_other s here] at registered before ⊢
        exact before registered
  · intro other
    have before := worked.fresh.replies other
    by_cases here : other = slot
    · subst other
      simpa using before
    · rw [System.put_conns_other s here] at before ⊢
      exact before
  · intro other outstanding
    rcases newOrOld outstanding with rfl | old
    · exact .inr (issued.trans incarnation)
    · exact worked.outstanding other old

/-- Work that pushes no query keeps registered ticks reliable. -/
theorem Worked.quiet
    {env : Environment}
    {s : System}
    {slot : Nat}
    {before after : Connection × Process}
    (worked : Worked env s slot before)
    (sameTasks : after.2.mysqlTasks env = before.2.mysqlTasks env)
    (sameLdap : after.1.ldap = before.1.ldap)
    (sameTicks : after.1.taskTicks = before.1.taskTicks)
    (sameIncarnation : after.1.incarnation = before.1.incarnation)
    (replies :
      ∀ reply ∈ after.1.rplList,
        reply.incarnation = before.1.incarnation) :
    Worked env s slot after := by
  have ldap :
      ∀ ldap,
        after.1.ldap = some ldap →
        ((s.put slot before).conns slot).ldap = some ldap := by
    rw [System.put_conns_self, sameLdap]
    exact fun ldap owns => owns
  refine ⟨?_, ?_⟩
  · rw [← System.put_put s slot before]
    refine worked.fresh.put sameTasks ldap ?_ ?_ ?_
    · rw [System.put_conns_self, sameTicks]
      exact List.Subset.refl _
    · rw [System.put_conns_self]
      exact sameIncarnation
    · rw [System.put_conns_self]
      exact replies
  · intro task outstanding
    rw [← System.put_put s slot before] at outstanding
    rcases outstanding_put ldap outstanding with query | old
    · rw [sameTasks] at query
      exact worked.outstanding task (.inl query)
    · exact worked.outstanding task old

/-- All the work of a handler keeps registered ticks reliable. -/
theorem Works.worked
    {env : Environment}
    {s : System}
    {slot : Nat}
    {reached : BerElement → Prop}
    (wired : Wired env s)
    (fresh : Fresh env s)
    {last : Connection × Process}
    (works : Works env slot reached (s.conns slot, s.proc) last)
    (apart :
      ∀ reading,
        s.proc.readings ≤ reading →
        reading < last.2.readings →
        FreshTick env s slot (getTaskTick (env.clock reading))) :
    Worked env s slot last := by
  induction works with
  | refl =>
      refine ⟨?_, fun task outstanding => .inl ?_⟩
      · rw [System.put_self]
        exact fresh
      · rw [System.put_self] at outstanding
        exact outstanding
  | @tail middle last works work inductionHypothesis =>
      have steady := Works.steady works
      have worked := inductionHypothesis fun reading from_ before =>
        apart reading from_ (before.trans_le work.taskWork.steady.readings)
      have current := worked.fresh.replies slot
      rw [System.put_conns_self] at current
      obtain ⟨c, p⟩ := middle
      cases work.taskWork with
      | quiet next datas ldap ticks incarnation replies =>
          refine worked.quiet rfl ldap ticks incarnation ?_
          intro reply member
          rcases replies reply member with now | ⟨before, inList, same⟩
          · exact now
          · rw [same]
            exact current before inList
      | lost op isReached filter =>
          exact worked.quiet rfl rfl rfl rfl current
      | query task worker id inSlot tick issued pushed =>
          have freshTick := apart p.readings steady.readings
            (Nat.lt_succ_self _)
          rw [← tick] at freshTick
          exact worked.query (steady.mysql wired.mysql) steady.incarnation
            inSlot issued freshTick pushed

/-- Handling an event keeps registered ticks reliable. -/
theorem Fresh.handled
    {env : Environment}
    {s : System}
    (wired : Wired env s)
    (fresh : Fresh env s)
    {slot : Nat}
    {event : Event}
    {held : List UInt8}
    {next : Connection × Process}
    (returned :
      HandlerReturn env slot event held (s.conns slot) s.proc next)
    (apart :
      ∀ reading,
        s.proc.readings ≤ reading →
        reading < next.2.readings →
        FreshTick env s slot (getTaskTick (env.clock reading))) :
    Fresh env (s.put slot next) := by
  obtain ⟨last, works, -, -, rfl | ⟨datas, rfl⟩⟩ := returned
  · exact (works.worked wired fresh apart).fresh
  · have worked := (works.worked wired fresh apart).fresh
    rw [← System.put_put s slot last]
    -- the slot forgets its worker, its ticks and its replies
    refine worked.put rfl ?_ ?_ ?_ ?_
    · exact fun ldap owns => nomatch owns
    · exact List.nil_subset _
    · rw [System.put_conns_self]
      rfl
    · exact fun reply member => nomatch member

/-- A worker that is done with its task keeps registered ticks reliable. -/
theorem Fresh.finished
    {env : Environment}
    {s : System}
    (fresh : Fresh env s)
    (ldap : Nat) :
    Fresh env (s.finished ldap) := by
  refine fresh.fewer ?_ (fun slot => List.Subset.refl _) (fun slot => rfl)
    fresh.replies
  rintro task (query | ⟨owner, owns, waits, fromMysql⟩)
  · exact outstanding_before (.inl query)
  · exact outstanding_before
      (.inr ⟨owner, owns, mem_finished waits, fromMysql⟩)

/-- A reply that is pushed is as reliable as the query it answers. -/
theorem Fresh.pushed
    {env : Environment}
    {s : System}
    (fresh : Fresh env s)
    {query : Task}
    (outstanding : Outstanding env s query)
    (reply : Task)
    (sameSlot : query.c = reply.c)
    (sameTick : query.tick = reply.tick)
    (sameIssued : query.issued = reply.issued)
    (ldap : Nat) :
    Fresh env (s.pushed ldap reply) := by
  refine fresh.fewer ?_ (fun slot => List.Subset.refl _) (fun slot => rfl)
    fresh.replies
  rintro task (inPool | ⟨owner, owns, waits, fromMysql⟩)
  · exact outstanding_before (.inl inPool)
  · rcases mem_pushed waits with before | ⟨-, rfl⟩
    · exact outstanding_before (.inr ⟨owner, owns, before, fromMysql⟩)
    · exact ⟨query, outstanding, sameSlot, sameTick, sameIssued⟩

/-- A query that is finished keeps registered ticks reliable. -/
theorem Fresh.mysqlFinished
    {env : Environment}
    {s : System}
    (wired : Wired env s)
    (fresh : Fresh env s)
    {mysql : Nat}
    {task : Task}
    (current : (s.proc.mysqls mysql).current = some task)
    {p : Process}
    (sameWorkers : p.mysqls = s.proc.mysqls) :
    Fresh env (s.mysqlFinished mysql p) := by
  have pool := mysqlTasks_finished (wired.mysql_inside current) current
  refine fresh.fewer ?_ (fun slot => List.Subset.refl _) (fun slot => rfl)
    fresh.replies
  rintro other (query | waits)
  · refine outstanding_before (.inl ?_)
    rw [pool]
    refine Multiset.mem_cons_of_mem ?_
    rw [← sameWorkers]
    exact query
  · exact outstanding_before (.inr waits)

/-- A new client has neither ticks nor replies. -/
theorem Fresh.opened
    {env : Environment}
    {s : System}
    (wired : Wired env s)
    (fresh : Fresh env s)
    {slot : Nat}
    {rest : List Nat}
    (free : s.proc.freeConnections = slot :: rest)
    (sockfd : Int) :
    Fresh env (s.opened env sockfd slot rest) := by
  have isFree : slot ∈ s.proc.freeConnections := by
    rw [free]
    exact List.mem_cons_self ..
  have vacant := wired.vacant slot isFree
  have here : (s.opened env sockfd slot rest).conns slot =
      (s.conns slot).opened sockfd (lpGetLdap env s.ldapIndex).1 :=
    Function.update_self ..
  have others {other : Nat} (different : other ≠ slot) :
      (s.opened env sockfd slot rest).conns other = s.conns other :=
    Function.update_of_ne different ..
  refine ⟨?_, ?_⟩
  · intro task outstanding registered
    by_cases sameSlot : task.c = slot
    · rw [sameSlot, here] at registered
      simp [Connection.opened, vacant.taskTicks] at registered
    · rw [others sameSlot] at registered ⊢
      refine fresh.tasks task ?_ registered
      rcases outstanding with query | ⟨owner, owns, waits, fromMysql⟩
      · exact .inl query
      · rw [others sameSlot] at owns
        rcases mem_pushed waits with before | ⟨-, rfl⟩
        · exact .inr ⟨owner, owns, before, fromMysql⟩
        · cases fromMysql
  · intro other reply member
    by_cases sameSlot : other = slot
    · rw [sameSlot, here] at member
      simp [Connection.opened, vacant.rplList] at member
    · rw [others sameSlot] at member ⊢
      exact fresh.replies other reply member

/-- Executing a reply task keeps registered ticks reliable. -/
theorem Fresh.replied
    {env : Environment}
    {s : System}
    (fresh : Fresh env s)
    {ldap : Nat}
    {task : Task}
    (current : (s.ldaps ldap).current = some task)
    (fromMysql : task.senderSource = .mysql)
    {ret : Int}
    {last : Connection × Process}
    (replied :
      Replied ldap task (s.conns task.c) s.proc (ret, last)) :
    Fresh env ((s.finished ldap).put task.c last) := by
  have finished := fresh.finished ldap
  have waiting := fresh.replies task.c
  cases replied with
  | refused unknown =>
      exact finished.put rfl (fun _ owns => owns) (List.Subset.refl _) rfl
        waiting
  | foreign registered other =>
      exact finished.put rfl (fun _ owns => owns) List.erase_subset rfl
        waiting
  | answered ret rplList sent datas registered owner fromList =>
      refine finished.put rfl (fun _ owns => owns) List.erase_subset rfl
        ?_
      intro reply member
      rcases fromList reply member with ⟨before, inList, same⟩ | answers
      · rw [same]
        exact waiting before inList
      · rw [answers]
        refine fresh.tasks task (.inr ⟨ldap, owner, ?_, fromMysql⟩)
          registered
        simp [LdapWorker.tasks, current]

/-- A step with fresh ticks keeps registered ticks reliable. -/
theorem Fresh.step
    {env : Environment}
    {s next : System}
    {action : Action}
    (wired : Wired env s)
    (fresh : Fresh env s)
    (apart : TicksApart env s action)
    (taken : step env s action = some next) :
    Fresh env next := by
  cases step_stepped taken with
  | refused sockfd full =>
      exact fresh
  | opened sockfd slot rest free =>
      exact fresh.opened wired free sockfd
  | ldapPopped ldap task rest current queue =>
      refine fresh.fewer ?_ (fun slot => List.Subset.refl _)
        (fun slot => rfl) fresh.replies
      rintro other (query | ⟨owner, owns, waits, fromMysql⟩)
      · exact outstanding_before (.inl query)
      · exact outstanding_before
          (.inr ⟨owner, owns, mem_popped queue waits, fromMysql⟩)
  | served ldap send task current server =>
      exact (fresh.finished ldap).put rfl (fun _ owns => owns)
        (List.Subset.refl _) rfl (fresh.replies task.c)
  | replied ldap send task ret last current fromMysql replied =>
      exact fresh.replied current fromMysql replied
  | stray ldap send task current notServer notMysql =>
      exact fresh.finished ldap
  | handled ldap slot event last idle delivered returned =>
      obtain ⟨held, holding⟩ := wired.holding slot
      exact fresh.handled wired (returned held holding)
        (apart _ taken)
  | mysqlPopped mysql task rest worker current queue isTaken left =>
      have inside : mysql < env.mysqlNum :=
        wired.mysql.within mysql task (by simp [MysqlWorker.tasks, queue])
      have pool := mysqlTasks_popped inside current queue isTaken left
      refine fresh.fewer ?_ (fun slot => List.Subset.refl _)
        (fun slot => rfl) fresh.replies
      rintro other (query | waits)
      · refine outstanding_before (.inl ?_)
        rw [← pool]
        exact query
      · exact outstanding_before (.inr waits)
  | answered mysql task ldap current owner =>
      have held : task ∈ (s.proc.mysqls mysql).tasks := by
        simp [MysqlWorker.tasks, current]
      have pushed := fresh.pushed
        (.inl (wired.mysql.within.mem_pooled held))
        (replyTask env mysql task (some ldap) (lpTaskNew env s.proc).1)
        rfl rfl rfl ldap
      exact Fresh.mysqlFinished
        (wired.pushed (wired.owner task.c ldap owner) _ (.inr rfl))
        pushed current rfl
  | unanswered mysql task current noOwner =>
      exact Fresh.mysqlFinished wired fresh current rfl
  | dropped mysql task current =>
      exact Fresh.mysqlFinished wired fresh current rfl

/--
In every run in which no query of a client gets the tick of an outstanding
query of an earlier client of the slot, the replies that are accepted and those
that wait to be sent answer queries of the current client.
-/
theorem replies_current
    {env : Environment}
    {actions : List Action}
    {s : System}
    (run :
      Run (Guarded (TicksApart env) (Enabled (step env)))
        (System.initial env) actions s) :
    AnswersCurrent s := by
  have kept := run.invariant
    (fun s => Wired env s ∧ Fresh env s)
    (fun ⟨wired, fresh⟩ ⟨apart, taken⟩ =>
      ⟨wired.step (step_stepped taken), fresh.step wired apart taken⟩)
    ⟨wired_initial env,
      { tasks := fun task _ registered => nomatch registered
        replies := fun slot reply member => nomatch member }⟩
  exact kept.2.answersCurrent

/-- A fresh tick, in terms of the queues that matter. -/
theorem freshTick_iff
    (env : Environment)
    (s : System)
    (slot tick : Nat) :
    FreshTick env s slot tick ↔
      (∀ task ∈ s.proc.mysqlTasks env,
        task.c = slot →
        task.issued ≠ (s.conns slot).incarnation →
        task.tick ≠ tick) ∧
      ∀ ldap ∈ (s.conns slot).ldap.toList,
        ∀ task ∈ (s.ldaps ldap).tasks,
          task.senderSource = .mysql →
          task.c = slot →
          task.issued ≠ (s.conns slot).incarnation →
          task.tick ≠ tick := by
  constructor
  · refine fun fresh => ⟨fun task query => fresh task (.inl query), ?_⟩
    intro ldap owns task waits fromMysql here
    refine fresh task (.inr ⟨ldap, ?_, waits, fromMysql⟩) here
    rw [here]
    exact Option.mem_toList.mp owns
  · rintro ⟨queries, replies⟩ task (query | ⟨ldap, owns, waits, fromMysql⟩)
      here
    · exact queries task query here
    · rw [here] at owns
      exact replies ldap (Option.mem_toList.mpr owns) task waits fromMysql
        here

instance (env : Environment) (s : System) (slot tick : Nat) :
    Decidable (FreshTick env s slot tick) :=
  decidable_of_iff' _ (freshTick_iff env s slot tick)

/-- The step as a check of the clock readings that it takes. -/
def ticksApart (env : Environment) (s : System) : Action → Bool
  | .ldapEvent ldap slot event =>
      match step env s (.ldapEvent ldap slot event) with
      | none =>
          true
      | some next =>
          decide
            (∀ reading < next.proc.readings,
              s.proc.readings ≤ reading →
              FreshTick env s slot (getTaskTick (env.clock reading)))
  | _ =>
      true

theorem ticksApart_sound
    {env : Environment}
    {s : System}
    {action : Action}
    (checked : ticksApart env s action = true) :
    TicksApart env s action := by
  cases action with
  | ldapEvent ldap slot event =>
      intro next taken reading from_ before
      simp only [ticksApart, taken, decide_eq_true_eq] at checked
      exact checked reading before from_
  | _ =>
      trivial

/-- Two clients of one slot, the first of which leaves after its answer. -/
def bothAnswered : List Action :=
  newClient 0 ++ replyTaken 0 ++ [.ldapExec 0 [], clientLeaves 0] ++
    newClient 0 ++ replyTaken 0 ++ [.ldapExec 0 []]

/-- The reply that waits for the second client is its own. -/
theorem replies_current_reused :
    ∃ s,
      Run (Guarded (TicksApart driftingEnv) (Enabled (step driftingEnv)))
          (System.initial driftingEnv) bothAnswered s ∧
        AnswersCurrent s := by
  obtain ⟨s, run⟩ :
      ∃ s,
        Run (Guarded (TicksApart driftingEnv) (Enabled (step driftingEnv)))
          (System.initial driftingEnv) bothAnswered s :=
    exec_guarded ticksApart_sound (by decide +kernel)
  exact ⟨s, run, replies_current run⟩

/-- One time is before another one. -/
def Timeval.Before (first second : Timeval) : Prop :=
  first.tvSec < second.tvSec ∨
    first.tvSec = second.tvSec ∧ first.tvUsec < second.tvUsec

/-- Some reply that waits in a slot is for an earlier client. -/
def AnswersEarlier (slot : Nat) (s : System) : Prop :=
  ∃ reply ∈ (s.conns slot).rplList,
    reply.incarnation ≠ (s.conns slot).incarnation

instance (slot : Nat) (s : System) : Decidable (AnswersEarlier slot s) :=
  inferInstanceAs (Decidable (∃ reply ∈ _, _))

/--
A client leaves while its query waits, the next client of the slot searches,
and the query of the first one is looked up.
-/
def queryOutlivesClient : List Action :=
  newClient 0 ++ [searchArrives 0 0x87, clientLeaves 0] ++ newClient 0 ++
    replyTaken 0 ++ [.ldapExec 0 []]

/--
With a clock whose readings strictly increase, the second client gets the
answer to the search of the first one.
-/
theorem answers_earlier_client :
    (∀ n,
      (driftingEnv.clock n).Before (driftingEnv.clock (n + 1))) ∧
      ∃ s,
        Run (Enabled (step driftingEnv)) (System.initial driftingEnv)
            queryOutlivesClient s ∧
          ¬ AnswersCurrent s := by
  refine ⟨fun n => .inl (Nat.lt_succ_self (100 + n)), ?_⟩
  obtain ⟨s, run, reply, waits, stale⟩ :
      ∃ s,
        Run (Enabled (step driftingEnv)) (System.initial driftingEnv)
            queryOutlivesClient s ∧
          AnswersEarlier 0 s :=
    exec_reaches (AnswersEarlier 0) (by decide +kernel)
  exact ⟨s, run, fun current => stale (current.appended 0 reply waits)⟩

end LdapProxy

import LdapProxy.ConnectionRun
import LdapProxy.SystemSteps

namespace LdapProxy

open LdapProxy.Lber
open LdapProxy.Pool

/-!
# How workers, tasks and slots hang together

`Wired` collects what holds in every state of the proxy, whatever the clients
and the scheduler do: which workers have tasks, what a free slot looks like and
that a connection gets no event before its registration task is executed.
-/

/-- The tasks of all LDAP workers. -/
def System.ldapTasks (env : Environment) (s : System) : Multiset Task :=
  pooled env.ldapNum LdapWorker.tasks s.ldaps

/-- The tasks of all MySQL workers. -/
def Process.mysqlTasks (env : Environment) (p : Process) : Multiset Task :=
  pooled env.mysqlNum MysqlWorker.tasks p.mysqls

/-- A registration task. -/
def Task.FromServer (task : Task) : Prop :=
  task.senderSource = .server

instance (task : Task) : Decidable task.FromServer :=
  inferInstanceAs (Decidable (_ = _))

/-- The slots whose registration task is not executed yet. -/
def System.pendingSlots (env : Environment) (s : System) : Multiset Nat :=
  ((s.ldapTasks env).filter Task.FromServer).map Task.c

section LdapWorkers

variable {env : Environment}
variable {s : System}
variable {ldap : Nat}

/-- A task that is pushed enters the pool. -/
theorem ldapTasks_pushed
    (inside : ldap < env.ldapNum)
    (task : Task) :
    (s.pushed ldap task).ldapTasks env = task ::ₘ s.ldapTasks env := by
  refine pooled_put inside ?_
  simp only [LdapWorker.tasks, ← List.append_assoc]
  exact List.perm_append_singleton task _

/-- A task that is finished leaves the pool. -/
theorem ldapTasks_finished
    (inside : ldap < env.ldapNum)
    {task : Task}
    (current : (s.ldaps ldap).current = some task) :
    s.ldapTasks env = task ::ₘ (s.finished ldap).ldapTasks env := by
  refine pooled_take inside ?_
  simp [LdapWorker.tasks, current]

/-- A task that is taken from the queue stays in the pool. -/
theorem ldapTasks_popped
    (inside : ldap < env.ldapNum)
    {task : Task}
    {rest : List Task}
    (current : (s.ldaps ldap).current = none)
    (queue : (s.ldaps ldap).queue = task :: rest) :
    pooled env.ldapNum LdapWorker.tasks
        (Function.update s.ldaps ldap
          { queue := rest, current := some task }) =
      s.ldapTasks env := by
  refine pooled_perm inside ?_
  simp [LdapWorker.tasks, current, queue]

/-- A pushed task is the only new one. -/
theorem mem_pushed
    {other : Nat}
    {new task : Task}
    (member : task ∈ ((s.pushed ldap new).ldaps other).tasks) :
    task ∈ (s.ldaps other).tasks ∨ (other = ldap ∧ task = new) := by
  by_cases same : other = ldap
  · subst other
    simp only [System.pushed, Function.update_self, LdapWorker.tasks,
      List.mem_append, List.mem_singleton] at member ⊢
    tauto
  · simp only [System.pushed, Function.update_of_ne same] at member
    exact .inl member

/-- A worker that is done with its task has no new one. -/
theorem mem_finished
    {other : Nat}
    {task : Task}
    (member : task ∈ ((s.finished ldap).ldaps other).tasks) :
    task ∈ (s.ldaps other).tasks := by
  by_cases same : other = ldap
  · subst other
    simp only [System.finished, Function.update_self, LdapWorker.tasks,
      List.mem_append, Option.toList_none, List.not_mem_nil,
      false_or] at member
    exact List.mem_append_right _ member
  · simp only [System.finished, Function.update_of_ne same] at member
    exact member

/-- A worker that takes a task from its queue has no new one. -/
theorem mem_popped
    {other : Nat}
    {first task : Task}
    {rest : List Task}
    (queue : (s.ldaps ldap).queue = first :: rest)
    (member :
      task ∈
        (Function.update s.ldaps ldap
          { queue := rest, current := some first } other).tasks) :
    task ∈ (s.ldaps other).tasks := by
  by_cases same : other = ldap
  · subst other
    rw [Function.update_self] at member
    refine List.mem_append_right _ ?_
    rw [queue]
    simpa [LdapWorker.tasks] using member
  · rw [Function.update_of_ne same] at member
    exact member

end LdapWorkers

section MysqlWorkers

variable {env : Environment}
variable {p : Process}
variable {mysql : Nat}

/-- A task that is finished leaves the pool. -/
theorem mysqlTasks_finished
    (inside : mysql < env.mysqlNum)
    {task : Task}
    (current : (p.mysqls mysql).current = some task) :
    p.mysqlTasks env =
      task ::ₘ pooled env.mysqlNum MysqlWorker.tasks
        (Function.update p.mysqls mysql
          { p.mysqls mysql with current := none }) := by
  refine pooled_take inside ?_
  simp [MysqlWorker.tasks, current]

/-- A query that is pushed enters the pool. -/
theorem mysqlTasks_pushed
    (inside : mysql < env.mysqlNum)
    {task : Task}
    {worker : MysqlWorker}
    (pushed : worker.tasks = (p.mysqls mysql).tasks ++ [task]) :
    pooled env.mysqlNum MysqlWorker.tasks
        (Function.update p.mysqls mysql worker) =
      task ::ₘ p.mysqlTasks env := by
  refine pooled_put inside ?_
  rw [pushed]
  exact List.perm_append_singleton task _

/-- A task that is taken from the queue stays in the pool. -/
theorem mysqlTasks_popped
    (inside : mysql < env.mysqlNum)
    {task : Task}
    {rest : List Task}
    {worker : MysqlWorker}
    (current : (p.mysqls mysql).current = none)
    (queue : (p.mysqls mysql).queue = task :: rest)
    (taken : worker.current = some task)
    (left : worker.queue = rest) :
    pooled env.mysqlNum MysqlWorker.tasks
        (Function.update p.mysqls mysql worker) =
      p.mysqlTasks env := by
  refine pooled_perm inside ?_
  simp [MysqlWorker.tasks, current, queue, taken, left]

end MysqlWorkers

/-- A piece of work, as far as tasks, ticks and replies are concerned. -/
inductive TaskWork
    (env : Environment)
    (slot : Nat)
    (reached : BerElement → Prop)
    (c : Connection)
    (p : Process) :
    Connection × Process → Prop where
  | quiet (next : Connection) (datas : Ledger) :
      next.ldap = c.ldap →
      next.taskTicks = c.taskTicks →
      next.incarnation = c.incarnation →
      (∀ reply ∈ next.rplList,
        reply.incarnation = c.incarnation ∨
          ∃ before ∈ c.rplList,
            reply.incarnation = before.incarnation) →
      TaskWork env slot reached c p (next, { p with datas := datas })
  | lost (op : BerElement) :
      reached op →
      FilterLost op →
      TaskWork env slot reached c p (c, afterTask env p)
  | query (task : Task) (worker : MysqlWorker) :
      task.id = p.tasks.next →
      task.c = slot →
      task.tick = getTaskTick (env.clock p.readings) →
      task.issued = c.incarnation →
      worker.tasks = (p.mysqls p.mysqlIndex).tasks ++ [task] →
      TaskWork env slot reached c p
        ({ c with taskTicks := c.taskTicks ++ [task.tick] },
          { afterTask env p with
            mysqls := Function.update p.mysqls p.mysqlIndex worker })

/-- Every piece of work is of one of these kinds. -/
theorem Work.taskWork
    {env : Environment}
    {slot : Nat}
    {reached : BerElement → Prop}
    {before after : Connection × Process}
    (work : Work env slot reached before after) :
    TaskWork env slot reached before.1 before.2 after := by
  cases work with
  | requests c p curData reqList datas holding =>
      exact .quiet _ datas rfl rfl rfl
        fun reply member => .inr ⟨reply, member, rfl⟩
  | respond c p id ber datas =>
      refine .quiet _ datas rfl rfl rfl ?_
      intro reply member
      rcases List.mem_append.mp member with inList | new
      · exact .inr ⟨reply, inList, rfl⟩
      · rw [List.mem_singleton.mp new]
        exact .inl rfl
  | lost c p op isReached filter =>
      exact .lost op isReached filter
  | query c p msg =>
      refine .query _ _ rfl rfl rfl rfl ?_
      simp [MysqlWorker.tasks, afterTask, lpGetMysql, lpTaskNew]
  | unregister c p del =>
      obtain ⟨rev, wev, closed, same⟩ := ioUnregister_fields del c
      rw [same]
      exact .quiet _ p.datas rfl rfl rfl
        fun reply member => .inr ⟨reply, member, rfl⟩
  | send c p rplList sent datas incarnations =>
      exact .quiet _ datas rfl rfl rfl
        fun reply member => .inr (incarnations reply member)

/-- Tasks are at workers that exist, and so is the next one to get a query. -/
structure MysqlWired (env : Environment) (p : Process) : Prop where
  within : Within env.mysqlNum MysqlWorker.tasks p.mysqls
  mysqlIndex : p.mysqlIndex < env.mysqlNum

/-- A slot that no client has. -/
structure Connection.Vacant (c : Connection) : Prop where
  ldap : c.ldap = none
  rev : c.rev = none
  wev : c.wev = none
  taskTicks : c.taskTicks = []
  rplList : c.rplList = []

/-- What holds in every state of the proxy. -/
structure Wired (env : Environment) (s : System) : Prop where
  mysql : MysqlWired env s.proc
  within : Within env.ldapNum LdapWorker.tasks s.ldaps
  owner : ∀ slot ldap, (s.conns slot).ldap = some ldap → ldap < env.ldapNum
  source :
    ∀ task ∈ s.ldapTasks env,
      task.senderSource = .server ∨ task.senderSource = .mysql
  holding : ∀ slot, ∃ held, (s.conns slot).Holding held
  free : s.proc.freeConnections.Nodup
  vacant : ∀ slot ∈ s.proc.freeConnections, (s.conns slot).Vacant
  pending :
    ∀ slot ∈ s.pendingSlots env,
      slot ∉ s.proc.freeConnections ∧
        (s.conns slot).rev = none ∧ (s.conns slot).wev = none
  pendingOnce : (s.pendingSlots env).Nodup

/-- The wiring of the initial state. -/
theorem wired_initial (env : Environment) :
    Wired env (System.initial env) := by
  have noTasks : (System.initial env).ldapTasks env = 0 :=
    pooled_empty fun _ => rfl
  have nonePending : (System.initial env).pendingSlots env = 0 := by
    rw [System.pendingSlots, noTasks]
    rfl
  exact
    { mysql :=
        { within := fun index task member => nomatch member
          mysqlIndex := env.mysqlPositive }
      within := fun index task member => nomatch member
      owner := fun slot ldap isSome => nomatch isSome
      source := by
        rw [noTasks]
        exact fun task member => (Multiset.notMem_zero task member).elim
      holding := fun slot => ⟨[], .inl ⟨rfl, rfl⟩⟩
      free := List.nodup_range
      vacant := fun slot _ => ⟨rfl, rfl, rfl, rfl, rfl⟩
      pending := by
        rw [nonePending]
        exact fun slot member => (Multiset.notMem_zero slot member).elim
      pendingOnce := by
        rw [nonePending]
        exact Multiset.nodup_zero }

/-- `lp_get_mysql` leaves an index of a worker. -/
theorem lpGetMysql_lt (env : Environment) (p : Process) :
    (lpGetMysql env p).2.mysqlIndex < env.mysqlNum := by
  have positive := env.mysqlPositive
  simp only [lpGetMysql]
  split
  · exact positive
  · omega

/-- `lp_get_ldap` chooses a worker that exists. -/
theorem lpGetLdap_lt (env : Environment) (index : Nat) :
    (lpGetLdap env index).1 < env.ldapNum := by
  have positive := env.ldapPositive
  simp only [lpGetLdap]
  split
  · exact positive
  · omega

/-- Reading the clock for a query and choosing a worker keeps the wiring. -/
theorem MysqlWired.afterTask
    {env : Environment}
    {p : Process}
    (wired : MysqlWired env p) :
    MysqlWired env (afterTask env p) where
  within := wired.within
  mysqlIndex := lpGetMysql_lt env (lpTaskNew env p).2

/-- What a piece of work leaves alone. -/
structure Steady
    (env : Environment)
    (before after : Connection × Process) :
    Prop where
  ldap : after.1.ldap = before.1.ldap
  incarnation : after.1.incarnation = before.1.incarnation
  mysql : MysqlWired env before.2 → MysqlWired env after.2
  readings : before.2.readings ≤ after.2.readings

theorem Steady.trans
    {env : Environment}
    {first second third : Connection × Process}
    (here : Steady env first second)
    (later : Steady env second third) :
    Steady env first third :=
  ⟨later.ldap.trans here.ldap, later.incarnation.trans here.incarnation,
    fun wired => later.mysql (here.mysql wired),
    here.readings.trans later.readings⟩

/-- A piece of work keeps the owner, the incarnation and the wiring. -/
theorem TaskWork.steady
    {env : Environment}
    {slot : Nat}
    {reached : BerElement → Prop}
    {c : Connection}
    {p : Process}
    {after : Connection × Process}
    (work : TaskWork env slot reached c p after) :
    Steady env (c, p) after := by
  cases work with
  | quiet next datas ldap ticks incarnation replies =>
      exact ⟨ldap, incarnation, fun wired => ⟨wired.1, wired.2⟩, le_rfl⟩
  | lost op isReached filter =>
      exact ⟨rfl, rfl, MysqlWired.afterTask, Nat.le_succ _⟩
  | query task worker id inSlot tick issued pushed =>
      refine ⟨rfl, rfl, fun wired => ?_, Nat.le_succ _⟩
      exact ⟨wired.within.update wired.mysqlIndex, wired.afterTask.2⟩

/-- All the work of a handler keeps them. -/
theorem Works.steady
    {env : Environment}
    {slot : Nat}
    {reached : BerElement → Prop}
    {before after : Connection × Process}
    (works : Works env slot reached before after) :
    Steady env before after := by
  induction works with
  | refl =>
      exact ⟨rfl, rfl, id, le_rfl⟩
  | tail _ work inductionHypothesis =>
      exact inductionHypothesis.trans work.taskWork.steady

/-- A handler's result, while it keeps its slot or gives it back. -/
theorem Wired.put
    {env : Environment}
    {s : System}
    (wired : Wired env s)
    {slot : Nat}
    {next : Connection × Process}
    (mysql : MysqlWired env next.2)
    (owner : ∀ ldap, next.1.ldap = some ldap → ldap < env.ldapNum)
    (holding : ∃ held, next.1.Holding held)
    (free : next.2.freeConnections.Nodup)
    (freeBefore :
      ∀ other ∈ next.2.freeConnections,
        other ≠ slot → other ∈ s.proc.freeConnections)
    (vacant : slot ∈ next.2.freeConnections → next.1.Vacant)
    (pending :
      slot ∈ s.pendingSlots env →
        slot ∉ next.2.freeConnections ∧
          next.1.rev = none ∧ next.1.wev = none) :
    Wired env (s.put slot next) where
  mysql := mysql
  within := wired.within
  owner other := by
    by_cases same : other = slot
    · subst other
      simpa [System.put] using owner
    · simpa [System.put, same] using wired.owner other
  source := wired.source
  holding other := by
    by_cases same : other = slot
    · subst other
      simpa [System.put] using holding
    · simpa [System.put, same] using wired.holding other
  free := free
  vacant other isFree := by
    by_cases same : other = slot
    · subst other
      simpa [System.put] using vacant isFree
    · simpa [System.put, same] using
        wired.vacant other (freeBefore other isFree same)
  pending other isPending := by
    by_cases same : other = slot
    · subst other
      simpa [System.put] using pending isPending
    · obtain ⟨taken, rev, wev⟩ := wired.pending other isPending
      refine ⟨fun isFree => taken (freeBefore other isFree same), ?_⟩
      simpa [System.put, same] using ⟨rev, wev⟩
  pendingOnce := wired.pendingOnce

/-- The LDAP workers have rearranged their tasks or finished some. -/
theorem Wired.fewer
    {env : Environment}
    {s : System}
    (wired : Wired env s)
    {ldaps : Nat → LdapWorker}
    (within : Within env.ldapNum LdapWorker.tasks ldaps)
    (fewer :
      pooled env.ldapNum LdapWorker.tasks ldaps ≤ s.ldapTasks env) :
    Wired env { s with ldaps := ldaps } := by
  have fewerPending :
      System.pendingSlots env { s with ldaps := ldaps } ≤
        s.pendingSlots env :=
    Multiset.map_le_map (Multiset.filter_le_filter _ fewer)
  exact
    { wired with
      within := within
      source := fun task member =>
        wired.source task (Multiset.mem_of_le fewer member)
      pending := fun slot member =>
        wired.pending slot (Multiset.mem_of_le fewerPending member)
      pendingOnce := Multiset.nodup_of_le fewerPending wired.pendingOnce }

/-- The MySQL workers have changed the data but not the free slots. -/
theorem Wired.data
    {env : Environment}
    {s : System}
    (wired : Wired env s)
    {p : Process}
    (mysql : MysqlWired env p)
    (free : p.freeConnections = s.proc.freeConnections) :
    Wired env { s with proc := p } :=
  { wired with
    mysql := mysql
    free := by
      rw [free]
      exact wired.free
    vacant := by
      rw [free]
      exact wired.vacant
    pending := by
      rw [free]
      exact wired.pending }

/-- The slots that wait for their registration task once a task is pushed. -/
theorem pendingSlots_pushed
    {env : Environment}
    {ldap : Nat}
    (inside : ldap < env.ldapNum)
    (s : System)
    (task : Task) :
    (s.pushed ldap task).pendingSlots env =
      if task.FromServer then
        task.c ::ₘ s.pendingSlots env
      else
        s.pendingSlots env := by
  unfold System.pendingSlots
  rw [ldapTasks_pushed inside]
  split
  · next server =>
      rw [Multiset.filter_cons_of_pos _ server, Multiset.map_cons]
  · next other =>
      rw [Multiset.filter_cons_of_neg _ other]

/-- A reply is pushed, or the registration task of a slot that just opened. -/
theorem Wired.pushed
    {env : Environment}
    {s : System}
    (wired : Wired env s)
    {ldap : Nat}
    (inside : ldap < env.ldapNum)
    (task : Task)
    (source :
      task.FromServer ∧
          task.c ∉ s.pendingSlots env ∧
          task.c ∉ s.proc.freeConnections ∧
          (s.conns task.c).rev = none ∧ (s.conns task.c).wev = none ∨
        task.senderSource = .mysql) :
    Wired env (s.pushed ldap task) := by
  have slots := pendingSlots_pushed inside s task
  refine
    { wired with
      within := wired.within.update inside
      source := ?_
      pending := ?_
      pendingOnce := ?_ }
  · rw [ldapTasks_pushed inside]
    intro other member
    rcases Multiset.mem_cons.mp member with rfl | before
    · exact source.imp (fun server => server.1) id
    · exact wired.source other before
  · rcases source with ⟨server, -, taken, rev, wev⟩ | mysql
    · rw [slots, if_pos server]
      intro slot member
      rcases Multiset.mem_cons.mp member with rfl | before
      · exact ⟨taken, rev, wev⟩
      · exact wired.pending slot before
    · rw [slots, if_neg (by simp [Task.FromServer, mysql])]
      exact wired.pending
  · rcases source with ⟨server, notPending, -⟩ | mysql
    · rw [slots, if_pos server]
      exact Multiset.nodup_cons.mpr ⟨notPending, wired.pendingOnce⟩
    · rw [slots, if_neg (by simp [Task.FromServer, mysql])]
      exact wired.pendingOnce

/-- A worker with a current task is one of the workers that exist. -/
theorem Wired.ldap_inside
    {env : Environment}
    {s : System}
    (wired : Wired env s)
    {ldap : Nat}
    {task : Task}
    (current : (s.ldaps ldap).current = some task) :
    ldap < env.ldapNum :=
  wired.within ldap task (by simp [LdapWorker.tasks, current])

/-- A MySQL worker with a current task is one of the workers that exist. -/
theorem Wired.mysql_inside
    {env : Environment}
    {s : System}
    (wired : Wired env s)
    {mysql : Nat}
    {task : Task}
    (current : (s.proc.mysqls mysql).current = some task) :
    mysql < env.mysqlNum :=
  wired.mysql.within mysql task (by simp [MysqlWorker.tasks, current])

/-- A worker that is done with its task keeps the wiring. -/
theorem Wired.finished
    {env : Environment}
    {s : System}
    (wired : Wired env s)
    {ldap : Nat}
    {task : Task}
    (current : (s.ldaps ldap).current = some task) :
    Wired env (s.finished ldap) := by
  have inside := wired.ldap_inside current
  refine wired.fewer (wired.within.update inside) ?_
  rw [ldapTasks_finished inside current]
  exact Multiset.le_cons_self _ _

/-- A worker that is done with a query keeps the wiring. -/
theorem Wired.mysqlFinished
    {env : Environment}
    {s : System}
    (wired : Wired env s)
    {mysql : Nat}
    {task : Task}
    (current : (s.proc.mysqls mysql).current = some task)
    {p : Process}
    (sameWorkers : p.mysqls = s.proc.mysqls)
    (sameIndex : p.mysqlIndex = s.proc.mysqlIndex)
    (sameFree : p.freeConnections = s.proc.freeConnections) :
    Wired env (s.mysqlFinished mysql p) := by
  have inside := wired.mysql_inside current
  refine wired.data ⟨?_, ?_⟩ sameFree
  · simp only [sameWorkers]
    exact wired.mysql.within.update inside
  · simp only [sameIndex]
    exact wired.mysql.mysqlIndex

/-- An event of a connection is neither for a free slot nor for a new one. -/
theorem Wired.delivered
    {env : Environment}
    {s : System}
    (wired : Wired env s)
    {ldap slot : Nat}
    {event : Event}
    (delivered : Delivered ldap event (s.conns slot)) :
    slot ∉ s.proc.freeConnections ∧ slot ∉ s.pendingSlots env := by
  constructor
  · intro isFree
    have vacant := wired.vacant slot isFree
    exact not_delivered_of_deleted vacant.rev vacant.wev delivered
  · intro isPending
    obtain ⟨-, rev, wev⟩ := wired.pending slot isPending
    exact not_delivered_of_deleted rev wev delivered

/-- A cleared slot is vacant. -/
theorem vacant_cleared (c : Connection) : c.cleared.Vacant :=
  ⟨rfl, rfl, rfl, rfl, rfl⟩

/-- Handling an event keeps the wiring. -/
theorem Wired.handled
    {env : Environment}
    {s : System}
    (wired : Wired env s)
    {ldap slot : Nat}
    {event : Event}
    (delivered : Delivered ldap event (s.conns slot))
    {held : List UInt8}
    {next : Connection × Process}
    (returned :
      HandlerReturn env slot event held (s.conns slot) s.proc next) :
    Wired env (s.put slot next) := by
  obtain ⟨taken, notPending⟩ := wired.delivered delivered
  obtain ⟨last, works, holding, free, stays | ⟨datas, gone⟩⟩ := returned
  · subst next
    have steady := works.steady
    refine wired.put (steady.mysql wired.mysql) ?_ holding ?_ ?_ ?_ ?_
    · rw [steady.ldap]
      exact wired.owner slot
    · rw [free]
      exact wired.free
    · rw [free]
      exact fun other member _ => member
    · rw [free]
      exact fun isFree => (taken isFree).elim
    · exact fun isPending => (notPending isPending).elim
  · subst next
    have steady := works.steady
    have mysql := steady.mysql wired.mysql
    refine wired.put ⟨mysql.within, mysql.mysqlIndex⟩ ?_
      ⟨[], .inl ⟨rfl, rfl⟩⟩ ?_ ?_ (fun _ => vacant_cleared last.1) ?_
    · intro ldap isSome
      cases isSome
    · simp only [gaveBack, free, List.nodup_cons]
      exact ⟨taken, wired.free⟩
    · intro other member different
      simp only [gaveBack, free, List.mem_cons] at member
      exact member.resolve_left different
    · exact fun isPending => (notPending isPending).elim

/-- Registering a client keeps the wiring. -/
theorem Wired.opened
    {env : Environment}
    {s : System}
    (wired : Wired env s)
    {slot : Nat}
    {rest : List Nat}
    (free : s.proc.freeConnections = slot :: rest)
    (sockfd : Int) :
    Wired env (s.opened env sockfd slot rest) := by
  have inside := lpGetLdap_lt env s.ldapIndex
  have noDuplicates := wired.free
  rw [free] at noDuplicates
  obtain ⟨notInRest, restNodup⟩ := List.nodup_cons.mp noDuplicates
  have isFree : slot ∈ s.proc.freeConnections := by
    rw [free]
    exact List.mem_cons_self ..
  have vacant := wired.vacant slot isFree
  have notPending : slot ∉ s.pendingSlots env :=
    fun isPending => (wired.pending slot isPending).1 isFree
  -- the slot is taken first, then its registration task is pushed
  have slotTaken : Wired env
      (s.put slot
        ((s.conns slot).opened sockfd (lpGetLdap env s.ldapIndex).1,
          { (lpTaskNew env s.proc).2 with
            freeConnections := rest
            freeConnectionsN := s.proc.freeConnectionsN - 1
            connectionsN := s.proc.connectionsN + 1 })) := by
    refine wired.put ⟨wired.mysql.within, wired.mysql.mysqlIndex⟩ ?_
      ⟨[], .inl ⟨rfl, rfl⟩⟩ restNodup ?_ ?_ ?_
    · intro ldap owner
      simp only [Connection.opened, Option.some.injEq] at owner
      rw [← owner]
      exact inside
    · intro other member _
      rw [free]
      exact List.mem_cons_of_mem _ member
    · exact fun inRest => (notInRest inRest).elim
    · exact fun isPending => (notPending isPending).elim
  have pushed := slotTaken.pushed inside
    (registerTask (lpTaskNew env s.proc).1
      (lpGetLdap env s.ldapIndex).1 slot
      ((s.conns slot).opened sockfd
        (lpGetLdap env s.ldapIndex).1).incarnation)
    (.inl ⟨rfl, notPending, notInRest, by
      simp [System.put, registerTask, Connection.opened, vacant.rev],
      by simp [System.put, registerTask, Connection.opened, vacant.wev]⟩)
  exact
    { mysql := pushed.mysql
      within := pushed.within
      owner := pushed.owner
      source := pushed.source
      holding := pushed.holding
      free := pushed.free
      vacant := pushed.vacant
      pending := pushed.pending
      pendingOnce := pushed.pendingOnce }

/-- A registration task that is finished does not wait any more. -/
theorem pendingSlots_finished
    {env : Environment}
    {s : System}
    {ldap : Nat}
    (inside : ldap < env.ldapNum)
    {task : Task}
    (current : (s.ldaps ldap).current = some task)
    (server : task.FromServer) :
    s.pendingSlots env = task.c ::ₘ (s.finished ldap).pendingSlots env := by
  unfold System.pendingSlots
  rw [ldapTasks_finished inside current,
    Multiset.filter_cons_of_pos _ server, Multiset.map_cons]

/-- Adding the events of a new connection keeps the wiring. -/
theorem Wired.served
    {env : Environment}
    {s : System}
    (wired : Wired env s)
    {ldap : Nat}
    {task : Task}
    (current : (s.ldaps ldap).current = some task)
    (server : task.FromServer) :
    Wired env
      ((s.finished ldap).put task.c
        ({ s.conns task.c with
            rev := some ldap, wev := some ldap, wevActive := true },
          lpTaskDestroy task s.proc)) := by
  have inside := wired.ldap_inside current
  have slots := pendingSlots_finished inside current server
  have waited : task.c ∈ s.pendingSlots env := by
    rw [slots]
    exact Multiset.mem_cons_self ..
  have once := wired.pendingOnce
  rw [slots] at once
  have taken := (wired.pending task.c waited).1
  refine (wired.finished current).put
    ⟨wired.mysql.within, wired.mysql.mysqlIndex⟩ (wired.owner task.c)
    (holding_of_curData (wired.holding task.c) rfl) wired.free
    (fun other member _ => member) ?_ ?_
  · exact fun isFree => (taken isFree).elim
  · exact fun again => ((Multiset.nodup_cons.mp once).1 again).elim

/-- Executing a reply task keeps the wiring. -/
theorem Wired.replied
    {env : Environment}
    {s : System}
    (wired : Wired env s)
    {ldap : Nat}
    {task : Task}
    (current : (s.ldaps ldap).current = some task)
    {ret : Int}
    {last : Connection × Process}
    (replied :
      Replied ldap task (s.conns task.c) s.proc (ret, last)) :
    Wired env ((s.finished ldap).put task.c last) := by
  have finished := wired.finished current
  have notFree (registered : task.tick ∈ (s.conns task.c).taskTicks) :
      task.c ∉ s.proc.freeConnections := by
    intro isFree
    rw [(wired.vacant task.c isFree).taskTicks] at registered
    exact List.not_mem_nil registered
  have holding (next : Connection)
      (same : next.curData = (s.conns task.c).curData) :
      ∃ held, next.Holding held :=
    holding_of_curData (wired.holding task.c) same
  have events := finished.pending task.c
  cases replied with
  | refused unknown =>
      exact finished.put ⟨wired.mysql.within, wired.mysql.mysqlIndex⟩
        (wired.owner task.c) (holding _ rfl) wired.free
        (fun other member _ => member) (wired.vacant task.c) events
  | foreign registered other =>
      exact finished.put ⟨wired.mysql.within, wired.mysql.mysqlIndex⟩
        (wired.owner task.c) (holding _ rfl) wired.free
        (fun other member _ => member)
        (fun isFree => (notFree registered isFree).elim) events
  | answered ret rplList sent datas registered owner fromList =>
      exact finished.put ⟨wired.mysql.within, wired.mysql.mysqlIndex⟩
        (wired.owner task.c) (holding _ rfl) wired.free
        (fun other member _ => member)
        (fun isFree => (notFree registered isFree).elim) events

/-- Every step keeps the wiring. -/
theorem Wired.step
    {env : Environment}
    {s next : System}
    {action : Action}
    (wired : Wired env s)
    (stepped : Stepped env s action next) :
    Wired env next := by
  cases stepped with
  | refused sockfd full =>
      exact wired
  | opened sockfd slot rest free =>
      exact wired.opened free sockfd
  | ldapPopped ldap task rest current queue =>
      have inside : ldap < env.ldapNum :=
        wired.within ldap task (by simp [LdapWorker.tasks, queue])
      exact wired.fewer (wired.within.update inside)
        (ldapTasks_popped inside current queue).le
  | served ldap send task current server =>
      exact wired.served current server
  | replied ldap send task ret last current fromMysql replied =>
      exact wired.replied current replied
  | stray ldap send task current notServer notMysql =>
      exact wired.finished current
  | handled ldap slot event last idle delivered returned =>
      obtain ⟨held, holding⟩ := wired.holding slot
      exact wired.handled delivered (returned held holding)
  | mysqlPopped mysql task rest worker current queue taken left =>
      have inside : mysql < env.mysqlNum :=
        wired.mysql.within mysql task (by simp [MysqlWorker.tasks, queue])
      exact wired.data
        ⟨wired.mysql.within.update inside, wired.mysql.mysqlIndex⟩ rfl
  | answered mysql task ldap current owner =>
      exact (wired.pushed (wired.owner task.c ldap owner) _
        (.inr rfl)).mysqlFinished current rfl rfl rfl
  | unanswered mysql task current noOwner =>
      exact wired.mysqlFinished current rfl rfl rfl
  | dropped mysql task current =>
      exact wired.mysqlFinished current rfl rfl rfl

/-- An LDAP worker never executes a task that nobody disposes of. -/
theorem Wired.not_stray
    {env : Environment}
    {s : System}
    (wired : Wired env s)
    {ldap : Nat}
    {task : Task}
    (current : (s.ldaps ldap).current = some task)
    (notServer : task.senderSource ≠ .server) :
    task.senderSource = .mysql := by
  have held : task ∈ (s.ldaps ldap).tasks := by
    simp [LdapWorker.tasks, current]
  exact (wired.source task (wired.within.mem_pooled held)).resolve_left
    notServer

/-- Every reading is a second later, and a microsecond earlier in its second. -/
def driftingClock (n : Nat) : Timeval where
  tvSec := 100 + n
  tvUsec := 500000 - n
  usecBound := by omega

/-- One worker of each kind, one slot and the drifting clock. -/
def driftingEnv : Environment :=
  Environment.small driftingClock

/-- The same with two LDAP workers. -/
def twoWorkers : Environment :=
  { driftingEnv with
    ldapNum := 2
    ldapPositive := by decide }

/-- The socket of a connection becomes readable. -/
def Event.arrival (recv : List Recv) : Event where
  read := true
  write := false
  timeout := false
  recv := recv
  send := []
  del := .succeed

/-- A client connects and its LDAP worker adds the events. -/
def newClient (ldap : Nat) : List Action :=
  [.register 5, .ldapPop ldap, .ldapExec ldap []]

/-- A search request arrives whose filter has this tag and no contents. -/
def searchArrives (ldap : Nat) (filter : UInt8) : Action :=
  .ldapEvent ldap 0
    (.arrival
      [.data 0x30
        [0x18, 0x02, 0x01, 0x01, 0x63, 0x13, 0x04, 0x00, 0x0a, 0x01, 0x02,
          0x0a, 0x01, 0x00, 0x02, 0x01, 0x00, 0x02, 0x01, 0x00, 0x01, 0x01,
          0x00, filter, 0x00]])

/-- The client closes its connection. -/
def clientLeaves (ldap : Nat) : Action :=
  .ldapEvent ldap 0 (.arrival [.eof])

/-- A search is looked up and its reply is taken by the LDAP worker. -/
def replyTaken (ldap : Nat) : List Action :=
  [searchArrives ldap 0x87, .mysqlPop 0, .mysqlExec 0, .ldapPop ldap]

end LdapProxy

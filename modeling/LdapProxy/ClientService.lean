import LdapProxy.ClientEvents
import LdapProxy.RegisterTrace
import LdapProxy.ReplyOrder

namespace LdapProxy

open LdapProxy.Lber
open LdapProxy.Pool
open LdapProxy.Transition

/-!
# What a client is served

One client among all others, from its registration on: whatever the other
clients do and however the threads take turns, every bind it has sent is
answered once and in order, and every search is either answered once or on its
way through the MySQL workers.  The octets it gets are those answers.
-/

/-- A slot that is free after a step was free and untouched, or is cleared. -/
theorem free_after_step
    {env : Environment}
    {s next : System}
    {action : Action}
    (wired : Wired env s)
    (stepped : Stepped env s action next)
    {slot : Nat}
    (isFree : slot ∈ next.proc.freeConnections) :
    (slot ∈ s.proc.freeConnections ∧ next.conns slot = s.conns slot) ∨
      ∃ c : Connection, next.conns slot = c.cleared := by
  cases stepped with
  | refused sockfd full =>
      exact .inl ⟨isFree, rfl⟩
  | opened sockfd taken rest free =>
      have nodup := wired.free
      rw [free, List.nodup_cons] at nodup
      have inRest : slot ∈ rest := isFree
      have different : slot ≠ taken := by
        rintro rfl
        exact nodup.1 inRest
      refine .inl ⟨?_, System.put_conns_other s different _⟩
      rw [free]
      exact List.mem_cons_of_mem _ inRest
  | ldapPopped ldap task rest current queue =>
      exact .inl ⟨isFree, rfl⟩
  | served ldap send task current server =>
      have waited : task.c ∈ s.pendingSlots env := by
        rw [pendingSlots_finished (wired.ldap_inside current) current server]
        exact Multiset.mem_cons_self ..
      have different : slot ≠ task.c := by
        rintro rfl
        exact (wired.pending task.c waited).1 isFree
      exact .inl ⟨isFree, System.put_conns_other _ different _⟩
  | replied ldap send task ret last current fromMysql replied =>
      by_cases different : slot ≠ task.c
      · refine .inl ⟨?_, System.put_conns_other _ different _⟩
        cases replied <;> exact isFree
      · rw [not_not] at different
        subst different
        cases replied with
        | refused unknown =>
            exact .inl ⟨isFree, System.put_conns_self ..⟩
        | foreign tick other =>
            rw [(wired.vacant task.c isFree).taskTicks] at tick
            exact (List.not_mem_nil tick).elim
        | answered ret rplList sent datas tick owner fromList =>
            rw [(wired.vacant task.c isFree).taskTicks] at tick
            exact (List.not_mem_nil tick).elim
  | stray ldap send task current notServer notMysql =>
      exact .inl ⟨isFree, rfl⟩
  | handled ldap other event last idle delivered returned =>
      obtain ⟨held, holding⟩ := wired.holding other
      obtain ⟨taken, -⟩ := wired.delivered delivered
      obtain ⟨before, -, -, free, stays | ⟨datas, gone⟩⟩ :=
        returned held holding
      · subst last
        have wasFree : slot ∈ s.proc.freeConnections := by
          rw [← free]
          exact isFree
        have different : slot ≠ other := by
          rintro rfl
          exact taken wasFree
        exact .inl ⟨wasFree, System.put_conns_other s different _⟩
      · subst last
        by_cases different : slot ≠ other
        · have member : slot ∈ other :: before.2.freeConnections := isFree
          rw [free] at member
          exact .inl
            ⟨(List.mem_cons.mp member).resolve_left different,
              System.put_conns_other s different _⟩
        · rw [not_not] at different
          subst different
          exact .inr ⟨before.1, System.put_conns_self ..⟩
  | mysqlPopped mysql task rest worker current queue taken left =>
      exact .inl ⟨isFree, rfl⟩
  | answered mysql task ldap current owner =>
      exact .inl ⟨isFree, rfl⟩
  | unanswered mysql task current noOwner =>
      exact .inl ⟨isFree, rfl⟩
  | dropped mysql task current =>
      exact .inl ⟨isFree, rfl⟩

/-- What a slot without a client has left of the last one. -/
structure Connection.Blank (c : Connection) : Prop where
  reqList : c.reqList = []
  sent : c.sent = []

/-- No free slot has anything left of its last client. -/
theorem blank_of_free
    {env : Environment}
    {actions : List Action}
    {s : System}
    (run : Run (Enabled (step env)) (System.initial env) actions s) :
    ∀ slot ∈ s.proc.freeConnections, (s.conns slot).Blank := by
  have both :
      Wired env s ∧
        ∀ slot ∈ s.proc.freeConnections, (s.conns slot).Blank := by
    refine run.invariant
      (fun s =>
        Wired env s ∧ ∀ slot ∈ s.proc.freeConnections, (s.conns slot).Blank)
      ?_ ⟨wired_initial env, fun _ _ => ⟨rfl, rfl⟩⟩
    intro s action next holds taken
    have stepped := step_stepped taken
    refine ⟨holds.1.step stepped, fun slot isFree => ?_⟩
    rcases free_after_step holds.1 stepped isFree with
      ⟨wasFree, same⟩ | ⟨c, cleared⟩
    · rw [same]
      exact holds.2 slot wasFree
    · rw [cleared]
      exact ⟨rfl, rfl⟩
  exact both.2

/-- A task for the connection in this slot. -/
def Task.IsOf (slot : Nat) (task : Task) : Prop :=
  task.c = slot

instance (slot : Nat) (task : Task) : Decidable (task.IsOf slot) :=
  inferInstanceAs (Decidable (_ = _))

/-- The queries of the connection in a slot, at all MySQL workers. -/
def System.queriesOf (env : Environment) (slot : Nat) (s : System) :
    Multiset Task :=
  (s.proc.mysqlTasks env).filter (Task.IsOf slot)

/-- A reply for the connection in this slot. -/
def Task.RepliesTo (slot : Nat) (task : Task) : Prop :=
  task.IsOf slot ∧ ¬ task.FromServer

instance (slot : Nat) (task : Task) : Decidable (task.RepliesTo slot) :=
  inferInstanceAs (Decidable (_ ∧ _))

/-- The replies for the connection in a slot, at all LDAP workers. -/
def System.repliesOf (env : Environment) (slot : Nat) (s : System) :
    Multiset Task :=
  (s.ldapTasks env).filter (Task.RepliesTo slot)

/-- The octets that the events of a connection have taken from its socket. -/
def recordTaken
    (slot : Nat)
    (s : System)
    (action : Action)
    (_ : System)
    (taken : List UInt8) :
    List UInt8 :=
  match action with
  | .ldapEvent _ other event =>
      if other = slot then
        taken ++ event.consumed (s.conns slot) s.proc
      else
        taken
  | _ =>
      taken

/-- One step of the proxy with what was read from a client. -/
def clientStep (env : Environment) (slot : Nat) :
    System × List UInt8 → Action → Option (System × List UInt8) :=
  recorded (step env) (recordTaken slot)

/--
The event is one of a client that sends these elements and stays: there is no
time-out, the socket has the next octets of the elements or blocks, and it
takes replies or blocks.
-/
structure Event.FromClient
    (event : Event)
    (elements : List StreamElement)
    (taken : List UInt8) :
    Prop where
  noTimeout : event.timeout = false
  delivers : event.read = true → Delivers event.recv
  start :
    event.read = true →
      taken ++ octetsOf event.recv <+: streamOctets elements
  noError : ∀ answer ∈ event.send, answer ≠ .error

instance (event : Event) (elements : List StreamElement)
    (taken : List UInt8) :
    Decidable (event.FromClient elements taken) :=
  decidable_of_iff
    (event.timeout = false ∧
      (event.read = true →
        ∀ answer ∈ event.recv, answer ≠ .eof ∧ answer ≠ .error) ∧
      (event.read = true →
        taken ++ octetsOf event.recv <+: streamOctets elements) ∧
      ∀ answer ∈ event.send, answer ≠ .error)
    ⟨fun ⟨noTimeout, delivers, start, noError⟩ =>
        ⟨noTimeout, delivers, start, noError⟩,
      fun fromClient =>
        ⟨fromClient.noTimeout, fromClient.delivers, fromClient.start,
          fromClient.noError⟩⟩

/-- The events of the slot are those of the client. -/
def ClientStays
    (slot : Nat)
    (elements : List StreamElement)
    (t : System × List UInt8)
    (action : Action) :
    Prop :=
  match action with
  | .ldapEvent _ other event =>
      other = slot → event.FromClient elements t.2
  | _ =>
      True

instance (slot : Nat) (elements : List StreamElement)
    (t : System × List UInt8) (action : Action) :
    Decidable (ClientStays slot elements t action) :=
  match action with
  | .ldapEvent _ other event =>
      inferInstanceAs
        (Decidable (other = slot → event.FromClient elements t.2))
  | .register _ =>
      .isTrue trivial
  | .ldapPop _ =>
      .isTrue trivial
  | .ldapExec _ _ =>
      .isTrue trivial
  | .mysqlPop _ =>
      .isTrue trivial
  | .mysqlExec _ =>
      .isTrue trivial

/--
How far the service of a client has come: the elements that were read and the
messages in them, those still to come, the octets held of the next element,
the messages that were answered, in the order of the answers, and the searches
whose query or whose reply is at a worker.
-/
structure Service where
  done : List StreamElement
  rest : List StreamElement
  heard : List ClientMessage
  later : List ClientMessage
  held : List UInt8
  answered : List ClientMessage
  asked : Multiset (Int × SearchRequest)
  looked : Multiset (Int × SearchRequest)

/-- The client of a slot is served by an LDAP worker. -/
structure Serving
    (env : Environment)
    (slot owner : Nat)
    (elements : List StreamElement)
    (messages : List ClientMessage)
    (v : Service)
    (t : System × List UInt8) :
    Prop where
  elements : elements = v.done ++ v.rest
  messages : messages = v.heard ++ v.later
  spoken : List.Forall₂ Speaks v.done v.heard
  unheard : List.Forall₂ Speaks v.rest v.later
  taken : t.2 = streamOctets v.done ++ v.held
  begins : Begins v.held v.rest
  conversation : Conversation env v.held v.answered (t.1.conns slot)
  binds : bindsOf v.answered = bindsOf v.heard
  conserved :
    (searches v.answered : Multiset (Int × SearchRequest)) + v.asked +
        v.looked =
      searches v.heard
  queries : Multiset.Rel (QueryFor slot) v.asked (t.1.queriesOf env slot)
  replies :
    Multiset.Rel (ReplyFor env slot) v.looked (t.1.repliesOf env slot)
  ticks :
    ((t.1.conns slot).taskTicks : Multiset Nat) =
      (t.1.queriesOf env slot + t.1.repliesOf env slot).map Task.tick
  ldap : (t.1.conns slot).ldap = some owner
  home : ∀ ldap, ∀ task ∈ (t.1.ldaps ldap).tasks, task.IsOf slot → ldap = owner
  hasClient : slot ∉ t.1.proc.freeConnections

variable {env : Environment}
variable {slot owner : Nat}
variable {elements : List StreamElement}
variable {messages : List ClientMessage}
variable {v : Service}
variable {s next : System}
variable {taken : List UInt8}

/-- Steps that do not concern the client leave its service where it is. -/
theorem Serving.frame
    (serving : Serving env slot owner elements messages v (s, taken))
    (conn : next.conns slot = s.conns slot)
    (queries : next.queriesOf env slot = s.queriesOf env slot)
    (replies : next.repliesOf env slot = s.repliesOf env slot)
    (home :
      ∀ ldap, ∀ task ∈ (next.ldaps ldap).tasks,
        task.IsOf slot → ldap = owner)
    (hasClient : slot ∉ next.proc.freeConnections) :
    Serving env slot owner elements messages v (next, taken) where
  elements := serving.elements
  messages := serving.messages
  spoken := serving.spoken
  unheard := serving.unheard
  taken := serving.taken
  begins := serving.begins
  conversation := by
    simp only [conn]
    exact serving.conversation
  binds := serving.binds
  conserved := serving.conserved
  queries := by
    simp only [queries]
    exact serving.queries
  replies := by
    simp only [replies]
    exact serving.replies
  ticks := by
    simp only [conn, queries, replies]
    exact serving.ticks
  ldap := by
    simp only [conn]
    exact serving.ldap
  home := home
  hasClient := hasClient

section Tasks

variable {ldap mysql : Nat}
variable {task : Task}

/-- A task that is pushed for another slot is no reply for this one. -/
theorem repliesOf_pushed_other
    (inside : ldap < env.ldapNum)
    (other : ¬ task.RepliesTo slot) :
    (s.pushed ldap task).repliesOf env slot = s.repliesOf env slot := by
  unfold System.repliesOf
  rw [ldapTasks_pushed inside, Multiset.filter_cons_of_neg _ other]

/-- A reply that is pushed. -/
theorem repliesOf_pushed
    (inside : ldap < env.ldapNum)
    (mine : task.RepliesTo slot) :
    (s.pushed ldap task).repliesOf env slot =
      task ::ₘ s.repliesOf env slot := by
  unfold System.repliesOf
  rw [ldapTasks_pushed inside, Multiset.filter_cons_of_pos _ mine]

/-- A task for another slot that is finished was no reply for this one. -/
theorem repliesOf_finished_other
    (inside : ldap < env.ldapNum)
    (current : (s.ldaps ldap).current = some task)
    (other : ¬ task.RepliesTo slot) :
    (s.finished ldap).repliesOf env slot = s.repliesOf env slot := by
  unfold System.repliesOf
  rw [ldapTasks_finished inside current, Multiset.filter_cons_of_neg _ other]

/-- A reply that is finished. -/
theorem repliesOf_finished
    (inside : ldap < env.ldapNum)
    (current : (s.ldaps ldap).current = some task)
    (mine : task.RepliesTo slot) :
    s.repliesOf env slot = task ::ₘ (s.finished ldap).repliesOf env slot := by
  unfold System.repliesOf
  rw [ldapTasks_finished inside current, Multiset.filter_cons_of_pos _ mine]

/-- A query of another slot that is finished was none of this one. -/
theorem queriesOf_finished_other
    (inside : mysql < env.mysqlNum)
    (current : (s.proc.mysqls mysql).current = some task)
    (other : ¬ task.IsOf slot)
    {p : Process}
    (sameWorkers : p.mysqls = s.proc.mysqls) :
    (s.mysqlFinished mysql p).queriesOf env slot = s.queriesOf env slot := by
  unfold System.queriesOf
  rw [mysqlTasks_finished inside current, Multiset.filter_cons_of_neg _ other,
    ← sameWorkers]
  rfl

/-- A query that is finished. -/
theorem queriesOf_finished
    (inside : mysql < env.mysqlNum)
    (current : (s.proc.mysqls mysql).current = some task)
    (mine : task.IsOf slot)
    {p : Process}
    (sameWorkers : p.mysqls = s.proc.mysqls) :
    s.queriesOf env slot =
      task ::ₘ (s.mysqlFinished mysql p).queriesOf env slot := by
  unfold System.queriesOf
  rw [mysqlTasks_finished inside current, Multiset.filter_cons_of_pos _ mine,
    ← sameWorkers]
  rfl

/-- Work on another connection asks nothing for this one. -/
theorem Works.queries_other
    {other : Nat}
    (different : other ≠ slot)
    {reached : BerElement → Prop}
    {before after : Connection × Process}
    (works : Works env other reached before after)
    (wired : MysqlWired env before.2) :
    (after.2.mysqlTasks env).filter (Task.IsOf slot) =
      (before.2.mysqlTasks env).filter (Task.IsOf slot) := by
  induction works with
  | refl =>
      rfl
  | @tail middle last worksBefore work inductionHypothesis =>
      rw [← inductionHypothesis]
      cases work.taskWork with
      | quiet next datas ldap ticks incarnation replies =>
          rfl
      | lost op isReached filter =>
          rfl
      | query task worker id inSlot tick issued pushed =>
          have inside := ((Works.steady worksBefore).mysql wired).mysqlIndex
          have grown :
              Process.mysqlTasks env
                  { afterTask env middle.2 with
                    mysqls :=
                      Function.update middle.2.mysqls middle.2.mysqlIndex
                        worker } =
                task ::ₘ middle.2.mysqlTasks env :=
            mysqlTasks_pushed inside pushed
          have notMine : ¬ task.IsOf slot := by
            unfold Task.IsOf
            rw [inSlot]
            exact different
          rw [grown, Multiset.filter_cons_of_neg _ notMine]

end Tasks

/-- Lists that agree pointwise agree as multisets. -/
theorem rel_of_forall₂
    {α β : Type*}
    {related : α → β → Prop}
    {first : List α}
    {second : List β}
    (pointwise : List.Forall₂ related first second) :
    Multiset.Rel related first second := by
  induction pointwise with
  | nil =>
      exact .zero
  | cons here _ inductionHypothesis =>
      exact .cons here inductionHypothesis

/-- The binds among binds are all of them. -/
theorem bindsOf_bindsOf (messages : List ClientMessage) :
    bindsOf (bindsOf messages) = bindsOf messages := by
  unfold bindsOf
  rw [List.filter_filter]
  simp only [Bool.and_self]

/-- No search is among the binds. -/
theorem searches_bindsOf (messages : List ClientMessage) :
    searches (bindsOf messages) = [] := by
  unfold searches bindsOf
  rw [List.filterMap_eq_nil_iff]
  intro message member
  have isBind := List.of_mem_filter member
  rw [decide_eq_true_eq] at isBind
  rw [isBind]

/-- The searches of two parts. -/
theorem searches_append (first second : List ClientMessage) :
    searches (first ++ second) = searches first ++ searches second :=
  List.filterMap_append ..

/-- The binds of two parts. -/
theorem bindsOf_append (first second : List ClientMessage) :
    bindsOf (first ++ second) = bindsOf first ++ bindsOf second :=
  List.filter_append ..

/-- The stream of two parts. -/
theorem streamOctets_append (first second : List StreamElement) :
    streamOctets (first ++ second) =
      streamOctets first ++ streamOctets second :=
  List.flatMap_append

/-- What follows the octets taken begins with those that are held. -/
theorem Serving.progress
    (serving : Serving env slot owner elements messages v (s, taken))
    {event : Event}
    (fromClient : event.FromClient elements taken)
    (reads : event.read = true) :
    Progress v.rest v.held ⟨event.recv, []⟩ := by
  have start := fromClient.start reads
  have split := serving.taken
  simp only at split
  rw [serving.elements, streamOctets_append, split, List.append_assoc,
    List.prefix_append_right_inj] at start
  exact serving.begins.progress serving.unheard (fromClient.delivers reads)
    start

/-- All queries for the slot are counted. -/
theorem filter_queries
    {asked : List (Int × SearchRequest)}
    {queries : List Task}
    (forwarded : List.Forall₂ (QueryFor slot) asked queries) :
    (queries : Multiset Task).filter (Task.IsOf slot) = queries := by
  rw [Multiset.filter_eq_self]
  induction forwarded with
  | nil =>
      simp
  | cons queryFor _ inductionHypothesis =>
      intro task member
      rcases List.mem_cons.mp member with rfl | inRest
      · exact queryFor.c
      · exact inductionHypothesis task inRest

/-- An event of the client is handled. -/
theorem Serving.event
    (serving : Serving env slot owner elements messages v (s, taken))
    (wired : Wired env s)
    {event : Event}
    (fromClient : event.FromClient elements taken) :
    ∃ after u,
      lpLdapIoEventHandler env slot event (s.conns slot) s.proc =
          .ok after ∧
        Serving env slot owner elements messages u
          (s.put slot after,
            taken ++ event.consumed (s.conns slot) s.proc) := by
  obtain ⟨after, done, rest, heard, later, held, queries, handled, served⟩ :=
    event_served slot serving.unheard serving.conversation serving.begins
      (serving.progress fromClient)
      fromClient.noTimeout fromClient.noError wired.mysql.mysqlIndex
  have grown :
      (s.put slot after).queriesOf env slot =
        (queries : Multiset Task) + s.queriesOf env slot := by
    have tasks := served.tasks
    unfold System.queriesOf
    rw [← filter_queries served.forwarded, ← Multiset.filter_add, ← tasks]
    rfl
  have replies :
      (s.put slot after).repliesOf env slot = s.repliesOf env slot := rfl
  refine
    ⟨after,
      { done := v.done ++ done
        rest := rest
        heard := v.heard ++ heard
        later := later
        held := held
        answered := v.answered ++ bindsOf heard
        asked := v.asked + searches heard
        looked := v.looked },
      handled, ?_⟩
  constructor
  · rw [serving.elements, served.elements, List.append_assoc]
  · rw [serving.messages, served.messages, List.append_assoc]
  · exact List.rel_append serving.spoken served.spoken
  · exact served.unheard
  · have split := serving.taken
    simp only at split ⊢
    rw [streamOctets_append, split, List.append_assoc, ← served.taken,
      List.append_assoc]
  · exact served.begins
  · simp only [System.put_conns_self]
    exact served.conversation
  · simp only [bindsOf_append, bindsOf_bindsOf, serving.binds]
  · have before := serving.conserved
    simp only [searches_append, searches_bindsOf, List.append_nil,
      ← Multiset.coe_add, ← before]
    abel
  · simp only [grown]
    rw [add_comm v.asked]
    exact (rel_of_forall₂ served.forwarded).add serving.queries
  · simp only [replies]
    exact serving.replies
  · have before := serving.ticks
    simp only [System.put_conns_self, grown, replies, served.taskTicks] at before ⊢
    rw [← Multiset.coe_add, before]
    simp only [Multiset.map_add, Multiset.map_coe]
    abel
  · simp only [System.put_conns_self, served.ldap]
    exact serving.ldap
  · exact serving.home
  · have same := served.freeConnections
    simp only [System.put, same]
    exact serving.hasClient

/-- A query of the client is looked up and its reply pushed to its worker. -/
theorem Serving.answered
    (serving : Serving env slot owner elements messages v (s, taken))
    (wired : Wired env s)
    {mysql : Nat}
    {task : Task}
    (current : (s.proc.mysqls mysql).current = some task)
    (mine : task.IsOf slot)
    (new : NewTask)
    {p : Process}
    (sameWorkers : p.mysqls = s.proc.mysqls)
    (sameFree : p.freeConnections = s.proc.freeConnections) :
    ∃ u,
      Serving env slot owner elements messages u
        ((s.pushed owner
            (replyTask env mysql task (some owner) new)).mysqlFinished mysql p,
          taken) := by
  have inside := wired.mysql_inside current
  have ownerInside := wired.owner slot owner serving.ldap
  have left := queriesOf_finished inside current mine sameWorkers
  have queries := serving.queries
  simp only [left] at queries
  rw [Multiset.rel_cons_right] at queries
  obtain ⟨search, asked, queryFor, others, askedIs⟩ := queries
  have replyFor := queryFor.reply env mysql (some owner) new
  have reply : (replyTask env mysql task (some owner) new).RepliesTo slot :=
    ⟨replyFor.c, TaskSource.noConfusion⟩
  have tick : (replyTask env mysql task (some owner) new).tick = task.tick :=
    rfl
  have pushed := repliesOf_pushed (s := s) ownerInside reply
  generalize replyTask env mysql task (some owner) new = built
    at replyFor reply tick pushed
  have nextQueries :
      ((s.pushed owner built).mysqlFinished mysql p).queriesOf env slot =
        (s.mysqlFinished mysql p).queriesOf env slot := rfl
  have nextReplies :
      ((s.pushed owner built).mysqlFinished mysql p).repliesOf env slot =
        built ::ₘ s.repliesOf env slot := pushed
  refine ⟨{ v with asked := asked, looked := search ::ₘ v.looked }, ?_⟩
  constructor
  · exact serving.elements
  · exact serving.messages
  · exact serving.spoken
  · exact serving.unheard
  · exact serving.taken
  · exact serving.begins
  · exact serving.conversation
  · exact serving.binds
  · have before := serving.conserved
    simp only [askedIs] at before
    rw [← before]
    simp only [← Multiset.singleton_add]
    abel
  · simp only [nextQueries]
    exact others
  · simp only [nextReplies]
    exact .cons replyFor serving.replies
  · have before := serving.ticks
    simp only [left, Multiset.map_add, Multiset.map_cons] at before
    have same :
        (((s.pushed owner built).mysqlFinished mysql p).conns slot).taskTicks =
          (s.conns slot).taskTicks := rfl
    simp only [same, nextQueries, nextReplies, before, Multiset.map_add,
      Multiset.map_cons, tick]
    rw [Multiset.cons_add, Multiset.add_cons]
  · exact serving.ldap
  · intro ldap other member isMine
    rcases mem_pushed member with before | ⟨atOwner, -⟩
    · exact serving.home ldap other before isMine
    · exact atOwner
  · have same :
        ((s.pushed owner built).mysqlFinished mysql p).proc.freeConnections =
          s.proc.freeConnections := sameFree
    simp only [same]
    exact serving.hasClient

/-- The reply to a search of the client is executed. -/
theorem Serving.replied
    (serving : Serving env slot owner elements messages v (s, taken))
    (wired : Wired env s)
    {ldap : Nat}
    {task : Task}
    (current : (s.ldaps ldap).current = some task)
    (mine : task.IsOf slot)
    (fromMysql : task.senderSource = .mysql)
    (send : List Send) :
    ∃ after u,
      taskProcess ldap task send (s.conns slot) s.proc = .ok (lpOk, after) ∧
        Serving env slot owner elements messages u
          ((s.finished ldap).put slot after, taken) := by
  have inside := wired.ldap_inside current
  have atOwner : ldap = owner :=
    serving.home ldap task (by simp [LdapWorker.tasks, current]) mine
  have reply : task.RepliesTo slot := by
    refine ⟨mine, ?_⟩
    unfold Task.FromServer
    rw [fromMysql]
    exact TaskSource.noConfusion
  have left := repliesOf_finished inside current reply
  have replies := serving.replies
  simp only [left] at replies
  rw [Multiset.rel_cons_right] at replies
  obtain ⟨search, looked, replyFor, others, lookedIs⟩ := replies
  have ticks := serving.ticks
  simp only [left, Multiset.map_add, Multiset.map_cons] at ticks
  have registered : task.tick ∈ (s.conns slot).taskTicks := by
    rw [← Multiset.mem_coe, ticks]
    exact Multiset.mem_add.mpr (.inr (Multiset.mem_cons_self ..))
  have isOwner : (s.conns slot).ldap = some ldap := by
    rw [atOwner]
    exact serving.ldap
  obtain ⟨after, processed, conversation, sameTicks, sameOwner, mysqls,
    free⟩ :=
    task_served serving.conversation replyFor fromMysql registered isOwner
      send s.proc
  have nextQueries :
      ((s.finished ldap).put slot after).queriesOf env slot =
        s.queriesOf env slot := by
    unfold System.queriesOf Process.mysqlTasks
    simp only [System.put, mysqls]
  have nextReplies :
      ((s.finished ldap).put slot after).repliesOf env slot =
        (s.finished ldap).repliesOf env slot := rfl
  refine
    ⟨after,
      { v with
        answered := v.answered ++ [⟨search.1, .search search.2⟩]
        looked := looked },
      processed, ?_⟩
  constructor
  · exact serving.elements
  · exact serving.messages
  · exact serving.spoken
  · exact serving.unheard
  · exact serving.taken
  · exact serving.begins
  · simp only [System.put_conns_self]
    exact conversation
  · rw [bindsOf_append, serving.binds]
    exact List.append_nil _
  · have before := serving.conserved
    simp only [lookedIs] at before
    have one :
        searches [⟨search.1, ClientOperation.search search.2⟩] = [search] :=
      rfl
    simp only [searches_append, one, ← before, ← Multiset.coe_add,
      Multiset.coe_singleton, ← Multiset.singleton_add]
    abel
  · simp only [nextQueries]
    exact serving.queries
  · simp only [nextReplies]
    exact others
  · simp only [System.put_conns_self, sameTicks, nextQueries, nextReplies,
      ← Multiset.coe_erase, ticks, Multiset.map_add]
    rw [Multiset.add_cons, Multiset.erase_cons_head]
  · simp only [System.put_conns_self, sameOwner]
    exact serving.ldap
  · intro other held member isMine
    exact serving.home other held (mem_finished member) isMine
  · simp only [System.put, free]
    exact serving.hasClient

/-- The events of the client's connection are added. -/
theorem Conversation.registered
    {held : List UInt8}
    {answered : List ClientMessage}
    {c : Connection}
    (conversation : Conversation env held answered c)
    (ldap : Nat) :
    Conversation env held answered
      { c with rev := some ldap, wev := some ldap, wevActive := true } :=
  ⟨⟨conversation.listening.fd, conversation.listening.connActive,
      conversation.listening.connClosing⟩,
    conversation.isOpen, conversation.holding, conversation.reqList,
    conversation.sendable, conversation.delivered⟩

/-- A registration task is executed, of the client or of another one. -/
theorem Serving.served
    (serving : Serving env slot owner elements messages v (s, taken))
    (wired : Wired env s)
    {ldap : Nat}
    {task : Task}
    (current : (s.ldaps ldap).current = some task)
    (server : task.FromServer) :
    Serving env slot owner elements messages v
      ((s.finished ldap).put task.c
        ({ s.conns task.c with
            rev := some ldap, wev := some ldap, wevActive := true },
          lpTaskDestroy task s.proc), taken) := by
  have noReply : ¬ task.RepliesTo slot := fun reply => reply.2 server
  have replies :=
    repliesOf_finished_other (wired.ldap_inside current) current noReply
  have home :
      ∀ other, ∀ held ∈ ((s.finished ldap).ldaps other).tasks,
        held.IsOf slot → other = owner :=
    fun other held member => serving.home other held (mem_finished member)
  by_cases mine : slot = task.c
  · subst mine
    constructor
    · exact serving.elements
    · exact serving.messages
    · exact serving.spoken
    · exact serving.unheard
    · exact serving.taken
    · exact serving.begins
    · simp only [System.put_conns_self]
      exact serving.conversation.registered ldap
    · exact serving.binds
    · exact serving.conserved
    · exact serving.queries
    · have same : Multiset.Rel (ReplyFor env task.c) v.looked
          ((s.finished ldap).repliesOf env task.c) := by
        rw [replies]
        exact serving.replies
      exact same
    · simp only [System.put_conns_self]
      have before := serving.ticks
      rw [← replies] at before
      exact before
    · simp only [System.put_conns_self]
      exact serving.ldap
    · exact home
    · exact serving.hasClient
  · exact serving.frame (System.put_conns_other _ mine _) rfl replies home
      serving.hasClient

/-- A client that is registered gets another slot. -/
theorem Serving.opened
    (serving : Serving env slot owner elements messages v (s, taken))
    {other : Nat}
    {rest : List Nat}
    (free : s.proc.freeConnections = other :: rest)
    (sockfd : Int) :
    Serving env slot owner elements messages v
      (s.opened env sockfd other rest, taken) := by
  have hasClient := serving.hasClient
  simp only [free, List.mem_cons, not_or] at hasClient
  obtain ⟨different, notInRest⟩ := hasClient
  have notMine (new : NewTask) (ldap incarnation : Nat) :
      ¬ (registerTask new ldap other incarnation).IsOf slot :=
    fun same => different same.symm
  refine serving.frame (System.put_conns_other s different _) rfl ?_ ?_
    notInRest
  · have pushed (new : NewTask) (incarnation : Nat) :
        (s.pushed (lpGetLdap env s.ldapIndex).1
            (registerTask new (lpGetLdap env s.ldapIndex).1 other
              incarnation)).repliesOf env slot =
          s.repliesOf env slot :=
      repliesOf_pushed_other (lpGetLdap_lt env s.ldapIndex)
        fun reply => notMine _ _ _ reply.1
    exact
      pushed (lpTaskNew env s.proc).1
        ((s.conns other).opened sockfd
          (lpGetLdap env s.ldapIndex).1).incarnation
  · intro ldap task member mine
    have before : task ∈ (s.ldaps ldap).tasks := by
      rcases mem_pushed member with before | ⟨-, rfl⟩
      · exact before
      · exact (notMine _ _ _ mine).elim
    exact serving.home ldap task before mine

/-- The execution of another client's reply. -/
theorem Serving.replied_other
    (serving : Serving env slot owner elements messages v (s, taken))
    (wired : Wired env s)
    {ldap : Nat}
    {task : Task}
    (current : (s.ldaps ldap).current = some task)
    (other : ¬ task.IsOf slot)
    {ret : Int}
    {last : Connection × Process}
    (replied : Replied ldap task (s.conns task.c) s.proc (ret, last)) :
    Serving env slot owner elements messages v
      ((s.finished ldap).put task.c last, taken) := by
  have different : slot ≠ task.c := fun same => other same.symm
  have queries : ((s.finished ldap).put task.c last).queriesOf env slot =
      s.queriesOf env slot := by
    have same : last.2.mysqls = s.proc.mysqls := replied.mysqls
    unfold System.queriesOf Process.mysqlTasks
    simp only [System.put, same]
  refine serving.frame (System.put_conns_other _ different _) queries
    (repliesOf_finished_other (wired.ldap_inside current) current
      fun reply => other reply.1)
    (fun ldap held member => serving.home ldap held (mem_finished member)) ?_
  cases replied <;> exact serving.hasClient

/-- An event of another client is handled. -/
theorem Serving.handled_other
    (serving : Serving env slot owner elements messages v (s, taken))
    (wired : Wired env s)
    {other : Nat}
    (different : slot ≠ other)
    {event : Event}
    {after : Connection × Process}
    (returned :
      ∀ held,
        (s.conns other).Holding held →
        HandlerReturn env other event held (s.conns other) s.proc after) :
    Serving env slot owner elements messages v
      (s.put other after, taken) := by
  obtain ⟨held, holding⟩ := wired.holding other
  obtain ⟨last, works, -, free, ends⟩ := returned held holding
  have queries := works.queries_other different.symm wired.mysql
  have hasClient := serving.hasClient
  simp only [← free] at hasClient
  rcases ends with stays | ⟨datas, gone⟩
  · subst stays
    exact serving.frame (System.put_conns_other s different _) queries rfl
      serving.home hasClient
  · subst gone
    refine serving.frame (System.put_conns_other s different _) queries rfl
      serving.home ?_
    simp only [System.put, gaveBack, List.mem_cons, not_or]
    exact ⟨different, hasClient⟩

/-- A query is looked up and its reply pushed, for any client. -/
theorem Serving.looked_up
    (serving : Serving env slot owner elements messages v (s, taken))
    (wired : Wired env s)
    {mysql ldap : Nat}
    {task : Task}
    (current : (s.proc.mysqls mysql).current = some task)
    (owns : (s.conns task.c).ldap = some ldap) :
    ∃ u,
      Serving env slot owner elements messages u
        ((s.pushed ldap
            (replyTask env mysql task (some ldap)
              (lpTaskNew env s.proc).1)).mysqlFinished mysql
          (lpTaskDestroy task (lpTaskNew env s.proc).2), taken) := by
  by_cases mine : task.IsOf slot
  · have same : ldap = owner := by
      rw [mine, serving.ldap, Option.some.injEq] at owns
      exact owns.symm
    subst same
    exact serving.answered wired current mine _ rfl rfl
  · have notMine (new : NewTask) :
        ¬ (replyTask env mysql task (some ldap) new).IsOf slot := mine
    refine ⟨v, serving.frame rfl ?_ ?_ ?_ serving.hasClient⟩
    · exact queriesOf_finished_other (wired.mysql_inside current) current mine
        rfl
    · exact repliesOf_pushed_other (wired.owner task.c ldap owns)
        fun reply => notMine _ reply.1
    · intro other held member isMine
      rcases mem_pushed member with before | ⟨-, rfl⟩
      · exact serving.home other held before isMine
      · exact (notMine _ isMine).elim

/-- A query whose connection is gone is not one of the client's. -/
theorem Serving.unanswered
    (serving : Serving env slot owner elements messages v (s, taken))
    (wired : Wired env s)
    {mysql : Nat}
    {task : Task}
    (current : (s.proc.mysqls mysql).current = some task)
    (noOwner : (s.conns task.c).ldap = none) :
    Serving env slot owner elements messages v
      (s.mysqlFinished mysql
        (lpTaskDestroy task (lpTaskNew env s.proc).2), taken) := by
  have notMine : ¬ task.IsOf slot := by
    intro mine
    rw [mine, serving.ldap] at noOwner
    cases noOwner
  exact serving.frame rfl
    (queriesOf_finished_other (wired.mysql_inside current) current notMine rfl)
    rfl serving.home serving.hasClient

/-- Every step goes on with the service of the client. -/
theorem Serving.step
    (serving : Serving env slot owner elements messages v (s, taken))
    (wired : Wired env s)
    (addressed : Addressed s)
    {action : Action}
    (stays : ClientStays slot elements (s, taken) action)
    (steps : step env s action = some next) :
    ∃ u,
      Serving env slot owner elements messages u
        (next, recordTaken slot s action next taken) := by
  have stepped := step_stepped steps
  cases stepped with
  | refused sockfd full =>
      exact ⟨v, serving⟩
  | opened sockfd other rest free =>
      exact ⟨v, serving.opened free sockfd⟩
  | ldapPopped ldap task rest current queue =>
      have inside : ldap < env.ldapNum :=
        wired.within ldap task (by simp [LdapWorker.tasks, queue])
      refine ⟨v, serving.frame rfl rfl ?_ ?_ serving.hasClient⟩
      · unfold System.repliesOf
        rw [← ldapTasks_popped inside current queue]
        rfl
      · exact fun other held member =>
          serving.home other held (mem_popped queue member)
  | served ldap send task current server =>
      exact ⟨v, serving.served wired current server⟩
  | replied ldap send task ret last current fromMysql replied =>
      by_cases mine : task.IsOf slot
      · obtain ⟨after, u, processed, servingAfter⟩ :=
          serving.replied wired current mine fromMysql send
        have executed :
            LdapProxy.step env s (.ldapExec ldap send) =
              some ((s.finished ldap).put slot after) := by
          rw [← mine] at processed ⊢
          simp only [LdapProxy.step, stepLdapExec, current, processed]
          rfl
        rw [Option.some.inj (steps.symm.trans executed)]
        exact ⟨u, servingAfter⟩
      · exact ⟨v, serving.replied_other wired current mine replied⟩
  | stray ldap send task current notServer notMysql =>
      exact (notMysql (wired.not_stray current notServer)).elim
  | handled ldap other event last idle delivered returned =>
      by_cases mine : slot = other
      · subst mine
        obtain ⟨after, u, handled, servingAfter⟩ :=
          serving.event wired (stays rfl)
        have executed :
            LdapProxy.step env s (.ldapEvent ldap slot event) =
              some (s.put slot after) := by
          have possible :
              (s.ldaps ldap).current.isNone = true ∧
                Delivered ldap event (s.conns slot) := by
            rw [idle]
            exact ⟨rfl, delivered⟩
          simp only [LdapProxy.step, stepLdapEvent, if_pos possible, handled]
          rfl
        rw [Option.some.inj (steps.symm.trans executed)]
        refine ⟨u, ?_⟩
        have recorded :
            recordTaken slot s (.ldapEvent ldap slot event)
                (s.put slot after) taken =
              taken ++ event.consumed (s.conns slot) s.proc := if_pos rfl
        rw [recorded]
        exact servingAfter
      · have recorded :
            recordTaken slot s (.ldapEvent ldap other event)
                (s.put other last) taken = taken :=
          if_neg fun same => mine same.symm
        rw [recorded]
        exact ⟨v, serving.handled_other wired mine returned⟩
  | mysqlPopped mysql task rest worker current queue popped left =>
      have inside : mysql < env.mysqlNum :=
        wired.mysql.within mysql task (by simp [MysqlWorker.tasks, queue])
      refine ⟨v, serving.frame rfl ?_ rfl serving.home serving.hasClient⟩
      unfold System.queriesOf
      rw [← mysqlTasks_popped inside current queue popped left]
      rfl
  | answered mysql task ldap current owns =>
      exact serving.looked_up wired current owns
  | unanswered mysql task current noOwner =>
      exact ⟨v, serving.unanswered wired current noOwner⟩
  | dropped mysql task current =>
      -- a query that is addressed to its worker is not dropped
      cases owns : (s.conns task.c).ldap with
      | none =>
          have executed := addressed.mysqlExec_unanswered current owns env
          rw [Option.some.inj (steps.symm.trans executed)]
          exact ⟨v, serving.unanswered wired current owns⟩
      | some ldap =>
          have executed := addressed.mysqlExec_answered current owns env
          rw [Option.some.inj (steps.symm.trans executed)]
          exact serving.looked_up wired current owns

/-- A connection that has just been registered. -/
theorem conversation_opened
    {c : Connection}
    (unused : c.Unused)
    (vacant : c.Vacant)
    (blank : c.Blank)
    {sockfd : Int}
    (fd : sockfd ≠ 0)
    (ldap : Nat) :
    Conversation env [] [] (c.opened sockfd ldap) where
  listening := ⟨fd, rfl, unused.connClosing⟩
  isOpen := unused.connClosed
  holding := .inl ⟨rfl, rfl⟩
  reqList := blank.reqList
  sendable := by
    have empty : (c.opened sockfd ldap).rplList = [] := vacant.rplList
    rw [empty]
    exact .none
  delivered := by
    have empty : (c.opened sockfd ldap).rplList = [] := vacant.rplList
    have nothing : (c.opened sockfd ldap).sent = [] := blank.sent
    rw [empty, nothing]
    exact ⟨[], rfl, .nil⟩

/-- Nothing was done for a client whose registration has just ended. -/
theorem serving_opened
    {earlier : List Action}
    (run : Run (Enabled (step env)) (System.initial env) earlier s)
    {rest : List Nat}
    (free : s.proc.freeConnections = slot :: rest)
    (noTasks :
      ∀ task ∈ s.proc.mysqlTasks env + s.ldapTasks env, ¬ task.IsOf slot)
    {sockfd : Int}
    (fd : sockfd ≠ 0)
    (spoken : List.Forall₂ Speaks elements messages) :
    Serving env slot (lpGetLdap env s.ldapIndex).1 elements messages
      ⟨[], elements, [], messages, [], [], 0, 0⟩
      (s.opened env sockfd slot rest, []) := by
  have wired : Wired env s := (reached_addressed run).1
  have isFree : slot ∈ s.proc.freeConnections := by
    rw [free]
    exact List.mem_cons_self ..
  have vacant := wired.vacant slot isFree
  have nodup := wired.free
  rw [free, List.nodup_cons] at nodup
  have inside := lpGetLdap_lt env s.ldapIndex
  have opened :
      (s.opened env sockfd slot rest).conns slot =
        (s.conns slot).opened sockfd (lpGetLdap env s.ldapIndex).1 :=
    System.put_conns_self ..
  have noQueries : (s.opened env sockfd slot rest).queriesOf env slot = 0 := by
    refine Multiset.filter_eq_nil.mpr fun task member => ?_
    exact noTasks task (Multiset.mem_add.mpr (.inl member))
  have noReplies : (s.opened env sockfd slot rest).repliesOf env slot = 0 := by
    have pushed (new : NewTask) (incarnation : Nat) :
        (s.pushed (lpGetLdap env s.ldapIndex).1
            (registerTask new (lpGetLdap env s.ldapIndex).1 slot
              incarnation)).repliesOf env slot =
          s.repliesOf env slot :=
      repliesOf_pushed_other inside fun reply => reply.2 rfl
    have before : s.repliesOf env slot = 0 := by
      refine Multiset.filter_eq_nil.mpr fun task member reply => ?_
      exact noTasks task (Multiset.mem_add.mpr (.inr member)) reply.1
    rw [← before]
    exact
      pushed (lpTaskNew env s.proc).1
        ((s.conns slot).opened sockfd
          (lpGetLdap env s.ldapIndex).1).incarnation
  constructor
  · rfl
  · rfl
  · exact .nil
  · exact spoken
  · rfl
  · exact
      ⟨fun element _ _ =>
          ⟨List.nil_prefix, fun same => by
            have positive := element.octets_pos
            rw [← same] at positive
            exact lt_irrefl _ positive⟩,
        fun _ => rfl⟩
  · simp only [opened]
    exact conversation_opened (poolClean_reached run slot isFree) vacant
      (blank_of_free run slot isFree) fd _
  · rfl
  · rfl
  · simp only [noQueries]
    exact .zero
  · simp only [noReplies]
    exact .zero
  · have noTicks :
        ((s.conns slot).opened sockfd
          (lpGetLdap env s.ldapIndex).1).taskTicks = [] := vacant.taskTicks
    simp only [opened, noTicks, noQueries, noReplies]
    rfl
  · simp only [opened]
    rfl
  · intro ldap task member mine
    rcases mem_pushed member with before | ⟨atOwner, -⟩
    · have inPool : task ∈ s.ldapTasks env := wired.within.mem_pooled before
      exact (noTasks task (Multiset.mem_add.mpr (.inr inPool)) mine).elim
    · exact atOwner
  · exact nodup.1

/--
What the client has been served: the octets taken from its socket are whole
elements and the beginning of the next one; the connection is open and has no
request left; the octets sent and still to be sent are the answers to the
messages `answered`, which are the binds among the messages in their order and
searches among them; and the other searches are, one for one, the queries and
the replies on their way.  The next event of the client does not abort the
daemon.
-/
structure ClientServed
    (env : Environment)
    (slot : Nat)
    (elements : List StreamElement)
    (messages : List ClientMessage)
    (v : Service)
    (s : System)
    (taken : List UInt8) :
    Prop where
  read : elements = v.done ++ v.rest
  heard : messages = v.heard ++ v.later
  spoken : List.Forall₂ Speaks v.done v.heard
  octets : taken = streamOctets v.done ++ v.held
  begins : Begins v.held v.rest
  isOpen :
    (s.conns slot).Listening ∧ (s.conns slot).connClosed = false ∧
      (s.conns slot).reqList = []
  answers :
    ∃ popped,
      (s.conns slot).sent =
          replyOctets popped ++ headSent (s.conns slot).rplList ∧
        List.Forall₂ (ClientMessage.AnsweredBy env) v.answered
          ((popped ++ (s.conns slot).rplList.map encoded).map LdapData.ber)
  binds : bindsOf v.answered = bindsOf v.heard
  conserved :
    (searches v.answered : Multiset (Int × SearchRequest)) + v.asked +
        v.looked =
      searches v.heard
  asked : Multiset.Rel (QueryFor slot) v.asked (s.queriesOf env slot)
  looked :
    Multiset.Rel (ReplyFor env slot) v.looked (s.repliesOf env slot)
  goesOn :
    ∀ ldap event,
      event.FromClient elements taken →
      (s.ldaps ldap).current = none →
      Delivered ldap event (s.conns slot) →
      ∃ next, step env s (.ldapEvent ldap slot event) = some next

/-- The invariant says what the client has been served. -/
theorem Serving.clientServed
    (serving : Serving env slot owner elements messages v (s, taken))
    (wired : Wired env s) :
    ClientServed env slot elements messages v s taken where
  read := serving.elements
  heard := serving.messages
  spoken := serving.spoken
  octets := serving.taken
  begins := serving.begins
  isOpen :=
    ⟨serving.conversation.listening, serving.conversation.isOpen,
      serving.conversation.reqList⟩
  answers := serving.conversation.delivered
  binds := serving.binds
  conserved := serving.conserved
  asked := serving.queries
  looked := serving.replies
  goesOn ldap event fromClient idle delivered := by
    obtain ⟨after, -, handled, -⟩ := serving.event wired fromClient
    have possible :
        (s.ldaps ldap).current.isNone = true ∧
          Delivered ldap event (s.conns slot) := by
      rw [idle]
      exact ⟨rfl, delivered⟩
    refine ⟨s.put slot after, ?_⟩
    simp only [LdapProxy.step, stepLdapEvent, if_pos possible, handled]
    rfl

/--
In every run from the registration of a client on, as long as it sends binds
and searches and neither side closes, the client is served: each bind that was
read is answered once and in order, each search is answered once or still on
its way, and it gets the octets of these answers and nothing else.
-/
theorem client_served
    {earlier actions : List Action}
    {before start : System}
    (reached :
      Run (Enabled (step env)) (System.initial env) earlier before)
    {rest : List Nat}
    (free : before.proc.freeConnections = slot :: rest)
    (noTasks :
      ∀ task ∈ before.proc.mysqlTasks env + before.ldapTasks env,
        ¬ task.IsOf slot)
    {sockfd : Int}
    (fd : sockfd ≠ 0)
    (registered : step env before (.register sockfd) = some start)
    (spoken : List.Forall₂ Speaks elements messages)
    (run :
      Run
        (Guarded (ClientStays slot elements) (Enabled (clientStep env slot)))
        (start, []) actions (s, taken)) :
    ∃ v, ClientServed env slot elements messages v s taken := by
  have opened : start = before.opened env sockfd slot rest := by
    rcases stepRegister_spec registered with
      ⟨full, -⟩ | ⟨other, others, isFree, opened⟩
    · rw [free] at full
      cases full
    · rw [free, List.cons.injEq] at isFree
      rw [opened, isFree.1, isFree.2]
  have one : Run (Enabled (step env)) before [.register sockfd] start :=
    .single registered
  have starts := reached_addressed (reached.trans one)
  have kept :
      (Wired env s ∧ Addressed s) ∧
        ∃ v, Serving env slot (lpGetLdap env before.ldapIndex).1 elements
          messages v (s, taken) := by
    refine run.invariant
      (fun t =>
        (Wired env t.1 ∧ Addressed t.1) ∧
          ∃ v, Serving env slot (lpGetLdap env before.ldapIndex).1 elements
            messages v t)
      ?_
      ⟨starts, ⟨[], elements, [], messages, [], [], 0, 0⟩, ?_⟩
    · rintro ⟨s, taken⟩ action ⟨next, after⟩ ⟨⟨wired, addressed⟩, v, serving⟩
        ⟨stays, both⟩
      obtain ⟨steps, rfl⟩ := recorded_eq_some_iff.mp both
      have stepped := step_stepped steps
      exact
        ⟨⟨wired.step stepped, addressed.step wired stepped⟩,
          serving.step wired addressed stays steps⟩
    · rw [opened]
      exact serving_opened reached free noTasks fd spoken
  obtain ⟨⟨wired, -⟩, v, serving⟩ := kept
  exact ⟨v, serving.clientServed wired⟩

/-- An anonymous bind with message id 1. -/
def anonymousBind : StreamElement where
  contents :=
    [0x02, 0x01, 0x01, 0x60, 0x07, 0x02, 0x01, 0x03, 0x04, 0x00, 0x80, 0x00]
  octets :=
    [0x30, 0x0c, 0x02, 0x01, 0x01, 0x60, 0x07, 0x02, 0x01, 0x03, 0x04, 0x00,
      0x80, 0x00]
  nonempty := by decide
  encoded := ⟨[0x0c], .short 0x0c (by decide), rfl⟩

/-- The search of `mailSearch`. -/
def mailElement : StreamElement where
  contents := mailSearch.berBuf
  octets := 0x30 :: 0x26 :: mailSearch.berBuf
  nonempty := by decide +kernel
  encoded := ⟨[0x26], .short 0x26 (by decide), rfl⟩

/-- The client sends a bind and a search, cut inside of the search. -/
def mailEvents : List Action :=
  [.ldapPop 0, .ldapExec 0 [],
    .ldapEvent 0 0
      (.arrival [.data 0x30 (anonymousBind.octets.drop 1 ++ [0x30, 0x26])]),
    .ldapEvent 0 0
      { read := true
        write := true
        timeout := false
        recv := [.data 0x02 (mailSearch.berBuf.drop 1)]
        send := [.accept 5]
        del := .succeed },
    .mysqlPop 0, .mysqlExec 0, .ldapPop 0, .ldapExec 0 [.accept 100, .accept 100]]

/-- A client gets the response to its bind and the answer to its search. -/
theorem client_served_mail :
    ∃ s v,
      (s.conns 0).rplList = [] ∧
        ClientServed driftingEnv 0 [anonymousBind, mailElement]
          [⟨1, .bind⟩, ⟨2, .search mailRequest⟩] v s
          (streamOctets [anonymousBind, mailElement]) := by
  have bind : MessageOctets ⟨1, .bind⟩ _ :=
    .intro [0x01] [0x02, 0x01, 0x01] _ [] (by decide) (by decide) (by decide)
      ⟨[0x01], .short 0x01 (by decide), rfl⟩
      (.bind [0x60, 0x07, 0x02, 0x01, 0x03, 0x04, 0x00, 0x80, 0x00]
        (.intro [0x02, 0x01, 0x03] [] [0x04, 0x00] 0x80 [] [0x80, 0x00] _
          ⟨[0x03], by decide, [0x01], .short 0x01 (by decide), rfl⟩
          ⟨[0x00], .short 0x00 (by decide), rfl⟩
          (by decide)
          ⟨[0x00], .short 0x00 (by decide), rfl⟩
          ⟨[0x07], .short 0x07 (by decide), rfl⟩))
  have search : MessageOctets ⟨2, .search mailRequest⟩ _ :=
    .intro [0x02] [0x02, 0x01, 0x02] _ [] (by decide) (by decide) (by decide)
      ⟨[0x01], .short 0x01 (by decide), rfl⟩
      (.search mailRequest _ mailRequest_octets)
  have short (request : SearchRequest)
      (isSearch : ClientOperation.search mailRequest = .search request) :
      request.Short := by
    cases isSearch
    exact mailRequest_short
  have spoken :
      List.Forall₂ Speaks [anonymousBind, mailElement]
        [⟨1, .bind⟩, ⟨2, .search mailRequest⟩] :=
    .cons
      ⟨bind, fun _ isSearch => ClientOperation.noConfusion isSearch,
        ClientOperation.noConfusion⟩
      (.cons ⟨search, short, ClientOperation.noConfusion⟩ .nil)
  have noQueries :
      (System.initial driftingEnv).proc.mysqlTasks driftingEnv = 0 :=
    pooled_empty fun _ => rfl
  have noReplies : (System.initial driftingEnv).ldapTasks driftingEnv = 0 :=
    pooled_empty fun _ => rfl
  obtain ⟨start, registered⟩ :
      ∃ start,
        step driftingEnv (System.initial driftingEnv) (.register 5) =
          some start :=
    Option.isSome_iff_exists.mp (by decide +kernel)
  have opened :
      start = (System.initial driftingEnv).opened driftingEnv 5 0 [] := by
    have taken :
        stepRegister driftingEnv 5 (System.initial driftingEnv) =
          some start := registered
    rcases stepRegister_spec taken with
      ⟨full, -⟩ | ⟨slot, rest, free, opened⟩
    · cases full
    · have first : [0] = slot :: rest := free
      cases first
      exact opened
  subst opened
  obtain ⟨⟨s, taken⟩, run, idle, whole⟩ :
      ∃ t,
        Run
            (Guarded (ClientStays 0 [anonymousBind, mailElement])
              (Enabled (clientStep driftingEnv 0)))
            ((System.initial driftingEnv).opened driftingEnv 5 0 [], [])
            mailEvents t ∧
          (t.1.conns 0).rplList = [] ∧
            t.2 = streamOctets [anonymousBind, mailElement] :=
    exec_guarded_reaches of_decide_eq_true _ (by decide +kernel)
  subst whole
  obtain ⟨v, served⟩ :=
    client_served .done rfl (by simp [noQueries, noReplies]) (by decide)
      registered spoken run
  exact ⟨s, v, idle, served⟩

end LdapProxy

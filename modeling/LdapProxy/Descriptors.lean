import LdapProxy.RegisterTrace
import LdapProxy.TransitionHistory

namespace LdapProxy

open LdapProxy.Lber
open LdapProxy.Pool
open LdapProxy.Transition

/-!
# Who closes a client's descriptor

The descriptors that `__lp_listening_handler` gets from `accept` and the calls
of `close` on them: in the handler itself when a registration fails, and in
`ber_sockbuf_free` when `lp_free_connection` gives a slot back.  As long as the
system hands out no descriptor that is still open and every registration that
takes a slot notifies its worker, each descriptor belongs to a single
connection, which closes it once.  Without the notification it is closed twice.
-/

/-- The descriptors that were accepted and those that were closed. -/
structure Descriptors where
  accepted : List Int
  closed : List Int

/-- No client was there. -/
def Descriptors.empty : Descriptors where
  accepted := []
  closed := []

/-- The descriptor was accepted more often than closed. -/
def Descriptors.Open (d : Descriptors) (fd : Int) : Prop :=
  d.closed.count fd < d.accepted.count fd

instance (d : Descriptors) (fd : Int) : Decidable (d.Open fd) :=
  inferInstanceAs (Decidable (_ < _))

/--
The proxy takes a step; if a client is accepted, the calls of its registration
end as given.
-/
def stepCalling (env : Environment) (s : System) :
    Action × RegisterCalls → Option System
  | (.register clientFd, calls) =>
      match registerOrClose env calls clientFd s with
      | .error _ =>
          none
      | .ok (next, _) =>
          some next
  | (action, _) =>
      step env s action

/-- What `__lp_listening_handler` closes for an accepted client. -/
def listeningCloses
    (env : Environment)
    (calls : RegisterCalls)
    (clientFd : Int)
    (s : System) :
    List Int :=
  match registerOrClose env calls clientFd s with
  | .error _ =>
      []
  | .ok (_, closed) =>
      closed

/--
What `lp_free_connection` closes, if an event gives its slot back whose Sockbuf
has a stream.
-/
def eventCloses (s next : System) (slot : Nat) : List Int :=
  if slot ∈ next.proc.freeConnections then
    if (s.conns slot).sb then berSockbufFree true (s.conns slot).fd else []
  else
    []

/-- What a step adds to the descriptors. -/
def recordDescriptors
    (env : Environment)
    (s : System)
    (call : Action × RegisterCalls)
    (next : System)
    (d : Descriptors) :
    Descriptors :=
  match call.1 with
  | .register clientFd =>
      { accepted := d.accepted ++ [clientFd]
        closed := d.closed ++ listeningCloses env call.2 clientFd s }
  | .ldapEvent _ slot _ =>
      { d with closed := d.closed ++ eventCloses s next slot }
  | .ldapPop _ =>
      d
  | .ldapExec _ _ =>
      d
  | .mysqlPop _ =>
      d
  | .mysqlExec _ =>
      d

/-- The Sockbuf gets its stream, and the worker its notification. -/
def RegisterCalls.Notified (calls : RegisterCalls) : Prop :=
  calls.addIo = true ∧ calls.write ≠ .failed

instance (calls : RegisterCalls) : Decidable calls.Notified :=
  inferInstanceAs (Decidable (_ ∧ _))

/--
`accept` returns a descriptor that is not open, and the registration notifies
the worker if it comes that far.
-/
def AcceptsClosed (t : System × Descriptors) (call : Action × RegisterCalls) :
    Prop :=
  match call.1 with
  | .register clientFd =>
      (0 ≤ clientFd ∧ ¬ t.2.Open clientFd) ∧ call.2.Notified
  | _ =>
      True

instance (t : System × Descriptors) :
    (call : Action × RegisterCalls) → Decidable (AcceptsClosed t call)
  | (.register _, _) =>
      inferInstanceAs (Decidable (_ ∧ _))
  | (.ldapPop _, _) =>
      inferInstanceAs (Decidable True)
  | (.ldapExec .., _) =>
      inferInstanceAs (Decidable True)
  | (.ldapEvent .., _) =>
      inferInstanceAs (Decidable True)
  | (.mysqlPop _, _) =>
      inferInstanceAs (Decidable True)
  | (.mysqlExec _, _) =>
      inferInstanceAs (Decidable True)

/-- The decidable form of the guard. -/
theorem acceptsClosed_of_check
    {t : System × Descriptors}
    {call : Action × RegisterCalls}
    (checked : decide (AcceptsClosed t call) = true) :
    AcceptsClosed t call :=
  of_decide_eq_true checked

/-- A step of the proxy with the descriptors that it accepts and closes. -/
def descriptorStep (env : Environment) :
    System × Descriptors → Action × RegisterCalls →
      Option (System × Descriptors) :=
  recorded (stepCalling env) (recordDescriptors env)

/-- What a connection has to do with its client's descriptor. -/
def Connection.client (c : Connection) : Option Nat × Bool × Int :=
  (c.ldap, c.sb, c.fd)

/-- A client has the slot. -/
def System.HasClient (s : System) (slot : Nat) : Prop :=
  (s.conns slot).ldap ≠ none

/-- A client has a slot whose connection has this descriptor. -/
def System.Uses (s : System) (fd : Int) : Prop :=
  ∃ slot, s.HasClient slot ∧ (s.conns slot).fd = fd

/--
The open descriptors are those of the connections: a connection that a client
has uses a descriptor of its own, through its Sockbuf, and every descriptor is
closed as often as it was accepted, but for one time while it is used.
-/
structure DescriptorsKept (t : System × Descriptors) : Prop where
  buffered : ∀ slot, t.1.HasClient slot → (t.1.conns slot).sb = true
  valid : ∀ slot, t.1.HasClient slot → 0 ≤ (t.1.conns slot).fd
  own : ∀ slot other,
    t.1.HasClient slot →
    t.1.HasClient other →
    (t.1.conns slot).fd = (t.1.conns other).fd →
    slot = other
  used : ∀ fd,
    t.1.Uses fd → t.2.accepted.count fd = t.2.closed.count fd + 1
  unused : ∀ fd,
    ¬ t.1.Uses fd → t.2.accepted.count fd = t.2.closed.count fd

/-- Only a slot that a client has waits for its task or gets events. -/
structure SlotsWithClient (env : Environment) (s : System) : Prop where
  pending : ∀ slot ∈ s.pendingSlots env, s.HasClient slot
  events : ∀ slot,
    (s.conns slot).rev ≠ none ∨ (s.conns slot).wev ≠ none →
    s.HasClient slot

/-- Executing a reply changes neither the client nor the events. -/
theorem Replied.client
    {ldap : Nat}
    {task : Task}
    {c : Connection}
    {p : Process}
    {outcome : Int × Connection × Process}
    (replied : Replied ldap task c p outcome) :
    outcome.2.1.client = c.client ∧
      outcome.2.1.ldap = c.ldap ∧
      outcome.2.1.rev = c.rev ∧ outcome.2.1.wev = c.wev := by
  cases replied with
  | refused unknown =>
      exact ⟨rfl, rfl, rfl, rfl⟩
  | foreign registered other =>
      exact ⟨rfl, rfl, rfl, rfl⟩
  | answered ret rplList sent datas registered owner fromList =>
      exact ⟨rfl, rfl, rfl, rfl⟩

/-- Work on a connection leaves its client alone. -/
theorem Works.client
    {env : Environment}
    {slot : Nat}
    {reached : BerElement → Prop}
    {before after : Connection × Process}
    (works : Works env slot reached before after) :
    after.1.client = before.1.client := by
  induction works with
  | refl =>
      rfl
  | tail _ work inductionHypothesis =>
      rw [← inductionHypothesis]
      cases work with
      | requests c p curData reqList datas holding =>
          rfl
      | respond c p id ber datas =>
          rfl
      | lost c p op isReached filter =>
          rfl
      | query c p msg =>
          rfl
      | unregister c p del =>
          obtain ⟨rev, wev, closed, same⟩ := ioUnregister_fields del c
          rw [same]
          rfl
      | send c p rplList sent datas incarnations =>
          rfl

/-- No slot waits at first. -/
theorem slotsWithClient_initial (env : Environment) :
    SlotsWithClient env (System.initial env) where
  pending slot isPending := by
    have noTasks : (System.initial env).ldapTasks env = 0 :=
      pooled_empty fun _ => rfl
    simp [System.pendingSlots, noTasks] at isPending
  events slot isAdded := by
    rcases isAdded with rev | wev
    · exact (rev rfl).elim
    · exact (wev rfl).elim

/-- Fewer slots wait, and the connections keep their owners and events. -/
theorem SlotsWithClient.fewer
    {env : Environment}
    {s next : System}
    (clients : SlotsWithClient env s)
    (fewer : next.pendingSlots env ≤ s.pendingSlots env)
    (same : ∀ slot,
      (next.conns slot).ldap = (s.conns slot).ldap ∧
        (next.conns slot).rev = (s.conns slot).rev ∧
        (next.conns slot).wev = (s.conns slot).wev) :
    SlotsWithClient env next where
  pending slot isPending := by
    unfold System.HasClient
    rw [(same slot).1]
    exact clients.pending slot (Multiset.mem_of_le fewer isPending)
  events slot isAdded := by
    obtain ⟨ldap, rev, wev⟩ := same slot
    unfold System.HasClient
    rw [ldap]
    rw [rev, wev] at isAdded
    exact clients.events slot isAdded

/-- A slot gets another connection with a client, or does not wait. -/
theorem SlotsWithClient.put
    {env : Environment}
    {s : System}
    (clients : SlotsWithClient env s)
    {slot : Nat}
    {next : Connection × Process}
    (owned : next.1.ldap ≠ none ∨
      slot ∉ s.pendingSlots env ∧
        next.1.rev = none ∧ next.1.wev = none) :
    SlotsWithClient env (s.put slot next) where
  pending other isPending := by
    unfold System.HasClient
    by_cases same : other = slot
    · subst other
      rw [System.put_conns_self]
      rcases owned with hasOwner | ⟨notPending, -⟩
      · exact hasOwner
      · exact (notPending isPending).elim
    · rw [System.put_conns_other s same]
      exact clients.pending other isPending
  events other isAdded := by
    unfold System.HasClient
    by_cases same : other = slot
    · subst other
      rw [System.put_conns_self] at isAdded ⊢
      rcases owned with hasOwner | ⟨-, rev, wev⟩
      · exact hasOwner
      · simp [rev, wev] at isAdded
    · rw [System.put_conns_other s same] at isAdded ⊢
      exact clients.events other isAdded

/-- A task is pushed; if it registers a slot, a client has this slot. -/
theorem SlotsWithClient.pushed
    {env : Environment}
    {s : System}
    (clients : SlotsWithClient env s)
    {ldap : Nat}
    (inside : ldap < env.ldapNum)
    (task : Task)
    (server : task.FromServer → s.HasClient task.c) :
    SlotsWithClient env (s.pushed ldap task) where
  pending slot isPending := by
    rw [pendingSlots_pushed inside] at isPending
    split at isPending
    · next fromServer =>
        rcases Multiset.mem_cons.mp isPending with rfl | before
        · exact server fromServer
        · exact clients.pending slot before
    · exact clients.pending slot isPending
  events := clients.events

/-- A worker that is done with its task leaves no more slots waiting. -/
theorem pendingSlots_finished_le
    {env : Environment}
    {s : System}
    {ldap : Nat}
    (inside : ldap < env.ldapNum)
    {task : Task}
    (current : (s.ldaps ldap).current = some task) :
    (s.finished ldap).pendingSlots env ≤ s.pendingSlots env := by
  refine Multiset.map_le_map (Multiset.filter_le_filter _ ?_)
  rw [ldapTasks_finished inside current]
  exact Multiset.le_cons_self _ _

/-- A worker that is done with its task keeps the slots of clients. -/
theorem SlotsWithClient.finished
    {env : Environment}
    {s : System}
    (clients : SlotsWithClient env s)
    {ldap : Nat}
    (inside : ldap < env.ldapNum)
    {task : Task}
    (current : (s.ldaps ldap).current = some task) :
    SlotsWithClient env (s.finished ldap) :=
  clients.fewer (pendingSlots_finished_le inside current)
    fun _ => ⟨rfl, rfl, rfl⟩

/-- A connection that gets an event has a client. -/
theorem SlotsWithClient.delivered
    {env : Environment}
    {s : System}
    (clients : SlotsWithClient env s)
    {ldap slot : Nat}
    {event : Event}
    (delivered : Delivered ldap event (s.conns slot)) :
    s.HasClient slot := by
  refine clients.events slot ?_
  by_contra noEvents
  push Not at noEvents
  exact not_delivered_of_deleted noEvents.1 noEvents.2 delivered

/-- Every step keeps the events at the slots of clients. -/
theorem SlotsWithClient.step
    {env : Environment}
    {s next : System}
    {action : Action}
    (wired : Wired env s)
    (clients : SlotsWithClient env s)
    (stepped : Stepped env s action next) :
    SlotsWithClient env next := by
  cases stepped with
  | refused sockfd full =>
      exact clients
  | opened sockfd slot rest free =>
      have taken :
          SlotsWithClient env
            (s.put slot
              ((s.conns slot).opened sockfd (lpGetLdap env s.ldapIndex).1,
                { (lpTaskNew env s.proc).2 with
                  freeConnections := rest
                  freeConnectionsN := s.proc.freeConnectionsN - 1
                  connectionsN := s.proc.connectionsN + 1 })) :=
        clients.put (.inl (by simp [Connection.opened]))
      have pushed := taken.pushed (lpGetLdap_lt env s.ldapIndex)
        (registerTask (lpTaskNew env s.proc).1
          (lpGetLdap env s.ldapIndex).1 slot
          ((s.conns slot).opened sockfd
            (lpGetLdap env s.ldapIndex).1).incarnation)
        fun _ => by
          simp [System.HasClient, System.put, registerTask,
            Connection.opened]
      exact ⟨pushed.pending, pushed.events⟩
  | ldapPopped ldap task rest current queue =>
      have inside : ldap < env.ldapNum :=
        wired.within ldap task (by simp [LdapWorker.tasks, queue])
      refine clients.fewer ?_ fun slot => ⟨rfl, rfl, rfl⟩
      unfold System.pendingSlots System.ldapTasks
      rw [ldapTasks_popped inside current queue]
      exact le_rfl
  | served ldap send task current server =>
      have inside := wired.ldap_inside current
      have waited : task.c ∈ s.pendingSlots env := by
        rw [pendingSlots_finished inside current server]
        exact Multiset.mem_cons_self ..
      exact (clients.finished inside current).put
        (.inl (clients.pending task.c waited))
  | replied ldap send task ret last current fromMysql replied =>
      obtain ⟨-, sameLdap, rev, wev⟩ := replied.client
      refine clients.fewer
        (pendingSlots_finished_le (wired.ldap_inside current) current) ?_
      intro slot
      by_cases same : slot = task.c
      · subst slot
        simpa [System.put] using ⟨sameLdap, rev, wev⟩
      · simp [System.put, System.finished, same]
  | stray ldap send task current notServer notMysql =>
      exact clients.finished (wired.ldap_inside current) current
  | handled ldap slot event last idle delivered returned =>
      obtain ⟨held, holding⟩ := wired.holding slot
      obtain ⟨-, notPending⟩ := wired.delivered delivered
      obtain ⟨worked, works, -, -, rfl | ⟨datas, rfl⟩⟩ :=
        returned held holding
      · refine clients.put (.inl ?_)
        rw [works.steady.ldap]
        exact clients.delivered delivered
      · exact clients.put (.inr ⟨notPending, rfl, rfl⟩)
  | mysqlPopped mysql task rest worker current queue taken left =>
      exact clients.fewer le_rfl fun slot => ⟨rfl, rfl, rfl⟩
  | answered mysql task ldap current owner =>
      have pushed := clients.pushed (wired.owner task.c ldap owner)
        (replyTask env mysql task (some ldap) (lpTaskNew env s.proc).1)
        fun server => by cases server
      exact ⟨pushed.pending, pushed.events⟩
  | unanswered mysql task current noOwner =>
      exact clients.fewer le_rfl fun slot => ⟨rfl, rfl, rfl⟩
  | dropped mysql task current =>
      exact clients.fewer le_rfl fun slot => ⟨rfl, rfl, rfl⟩

/-- No client is there at first. -/
theorem descriptorsKept_initial (env : Environment) :
    DescriptorsKept (System.initial env, Descriptors.empty) where
  buffered := fun _ client => (client rfl).elim
  valid := fun _ client => (client rfl).elim
  own := fun _ _ client => (client rfl).elim
  used := fun _ ⟨_, client, _⟩ => (client rfl).elim
  unused := fun _ _ => rfl

/-- Who has which descriptor does not change. -/
theorem DescriptorsKept.same
    {s next : System}
    {d : Descriptors}
    (kept : DescriptorsKept (s, d))
    (same : ∀ slot, (next.conns slot).client = (s.conns slot).client) :
    DescriptorsKept (next, d) := by
  have fields (slot : Nat) :
      (next.conns slot).ldap = (s.conns slot).ldap ∧
        (next.conns slot).sb = (s.conns slot).sb ∧
        (next.conns slot).fd = (s.conns slot).fd := by
    simpa [Connection.client] using same slot
  have clients (slot : Nat) : next.HasClient slot ↔ s.HasClient slot := by
    unfold System.HasClient
    rw [(fields slot).1]
  have uses (fd : Int) : next.Uses fd ↔ s.Uses fd := by
    unfold System.Uses
    simp only [clients, (fields _).2.2]
  exact
    { buffered := by
        intro slot client
        rw [(fields slot).2.1]
        exact kept.buffered slot ((clients slot).mp client)
      valid := by
        intro slot client
        rw [(fields slot).2.2]
        exact kept.valid slot ((clients slot).mp client)
      own := by
        intro slot other client otherClient equal
        rw [(fields slot).2.2, (fields other).2.2] at equal
        exact kept.own slot other ((clients slot).mp client)
          ((clients other).mp otherClient) equal
      used := fun fd used => kept.used fd ((uses fd).mp used)
      unused := fun fd unused =>
        kept.unused fd fun used => unused ((uses fd).mpr used) }

/-- A connection with another content but the same client keeps everything. -/
theorem DescriptorsKept.put
    {s : System}
    {d : Descriptors}
    (kept : DescriptorsKept (s, d))
    {slot : Nat}
    {next : Connection × Process}
    (same : next.1.client = (s.conns slot).client) :
    DescriptorsKept (s.put slot next, d) := by
  refine kept.same fun other => ?_
  by_cases here : other = slot
  · subst other
    rw [System.put_conns_self, same]
  · rw [System.put_conns_other s here]

/-- A descriptor that nobody uses was closed each time. -/
theorem DescriptorsKept.not_used
    {s : System}
    {d : Descriptors}
    (kept : DescriptorsKept (s, d))
    {fd : Int}
    (closed : ¬ d.Open fd) :
    ¬ s.Uses fd := by
  intro used
  have more := kept.used fd used
  simp only at more
  refine closed ?_
  unfold Descriptors.Open
  omega

/-- A client that is turned away is accepted and closed. -/
theorem DescriptorsKept.refused
    {s : System}
    {d : Descriptors}
    (kept : DescriptorsKept (s, d))
    (clientFd : Int) :
    DescriptorsKept
      (s,
        { accepted := d.accepted ++ [clientFd]
          closed := d.closed ++ [clientFd] }) where
  buffered := kept.buffered
  valid := kept.valid
  own := kept.own
  used fd used := by
    simp only [List.count_append]
    have before := kept.used fd used
    simp only at before
    omega
  unused fd unused := by
    simp only [List.count_append]
    have before := kept.unused fd unused
    simp only at before
    omega

/-- A new client brings a descriptor that nobody uses. -/
theorem DescriptorsKept.opened
    {s next : System}
    {d : Descriptors}
    (kept : DescriptorsKept (s, d))
    (slot ldap : Nat)
    {clientFd : Int}
    (free : ¬ s.HasClient slot)
    (positive : 0 ≤ clientFd)
    (closed : ¬ d.Open clientFd)
    (here : (next.conns slot).client = (some ldap, true, clientFd))
    (others :
      ∀ other, other ≠ slot → next.conns other = s.conns other) :
    DescriptorsKept
      (next, { d with accepted := d.accepted ++ [clientFd] }) := by
  have notUsed := kept.not_used closed
  simp only [Connection.client, Prod.mk.injEq] at here
  obtain ⟨owner, sb, fd⟩ := here
  have before {other : Nat} (different : other ≠ slot)
      (client : next.HasClient other) :
      s.HasClient other := by
    unfold System.HasClient at client ⊢
    rwa [others other different] at client
  have foreign {other : Nat} (different : other ≠ slot)
      (client : next.HasClient other) :
      (next.conns other).fd ≠ clientFd := by
    rw [others other different]
    exact fun equal => notUsed ⟨other, before different client, equal⟩
  refine ⟨?_, ?_, ?_, ?_, ?_⟩
  · intro other client
    by_cases same : other = slot
    · rw [same]
      exact sb
    · simp only [others other same]
      exact kept.buffered other (before same client)
  · intro other client
    by_cases same : other = slot
    · rw [same]
      exact fd.symm ▸ positive
    · simp only [others other same]
      exact kept.valid other (before same client)
  · intro first second firstClient secondClient equal
    simp only at equal
    by_cases isFirst : first = slot
    · by_cases isSecond : second = slot
      · rw [isFirst, isSecond]
      · rw [isFirst, fd] at equal
        exact (foreign isSecond secondClient equal.symm).elim
    · by_cases isSecond : second = slot
      · rw [isSecond, fd] at equal
        exact (foreign isFirst firstClient equal).elim
      · rw [others first isFirst, others second isSecond] at equal
        exact kept.own first second (before isFirst firstClient)
          (before isSecond secondClient) equal
  · rintro used ⟨other, client, isFd⟩
    simp only [List.count_append]
    by_cases same : other = slot
    · rw [same, fd] at isFd
      subst used
      have equal := kept.unused clientFd notUsed
      simp only at equal
      rw [equal]
      simp
    · have different : used ≠ clientFd := by
        rw [← isFd]
        exact foreign same client
      simp only [others other same] at isFd
      have equal := kept.used used ⟨other, before same client, isFd⟩
      simp only at equal
      rw [equal, List.count_singleton, if_neg (by simpa using different.symm)]
  · intro unused notNow
    simp only [List.count_append]
    have different : unused ≠ clientFd := by
      rintro rfl
      exact notNow ⟨slot, by simp [System.HasClient, owner], fd⟩
    have notBefore : ¬ s.Uses unused := by
      rintro ⟨other, client, isFd⟩
      have same : other ≠ slot := by
        rintro rfl
        exact free client
      refine notNow ⟨other, ?_, ?_⟩
      · unfold System.HasClient at client ⊢
        rwa [others other same]
      · simp only [others other same]
        exact isFd
    have equal := kept.unused unused notBefore
    simp only at equal
    rw [equal, List.count_singleton, if_neg (by simpa using different.symm)]
    rfl

/-- A slot that is given back leaves its descriptor closed. -/
theorem DescriptorsKept.gaveBack
    {s next : System}
    {d : Descriptors}
    (kept : DescriptorsKept (s, d))
    {slot : Nat}
    (client : s.HasClient slot)
    (cleared : (next.conns slot).ldap = none)
    (others :
      ∀ other, other ≠ slot → next.conns other = s.conns other) :
    DescriptorsKept
      (next, { d with closed := d.closed ++ [(s.conns slot).fd] }) := by
  have before {other : Nat} (hasClient : next.HasClient other) :
      other ≠ slot ∧ s.HasClient other := by
    have different : other ≠ slot := by
      rintro rfl
      exact hasClient cleared
    unfold System.HasClient at hasClient ⊢
    rw [others other different] at hasClient
    exact ⟨different, hasClient⟩
  refine ⟨?_, ?_, ?_, ?_, ?_⟩
  · intro other hasClient
    obtain ⟨different, had⟩ := before hasClient
    simp only [others other different]
    exact kept.buffered other had
  · intro other hasClient
    obtain ⟨different, had⟩ := before hasClient
    simp only [others other different]
    exact kept.valid other had
  · intro first second firstClient secondClient equal
    obtain ⟨notFirst, hadFirst⟩ := before firstClient
    obtain ⟨notSecond, hadSecond⟩ := before secondClient
    simp only [others first notFirst, others second notSecond] at equal
    exact kept.own first second hadFirst hadSecond equal
  · rintro used ⟨other, hasClient, isFd⟩
    obtain ⟨different, had⟩ := before hasClient
    simp only [others other different] at isFd
    have foreign : (s.conns slot).fd ≠ used := by
      intro equal
      exact different (kept.own other slot had client
        (isFd.trans equal.symm))
    have equal := kept.used used ⟨other, had, isFd⟩
    simp only at equal
    simp only [List.count_append]
    rw [equal, List.count_singleton, if_neg (by simpa using foreign)]
  · intro unused notNow
    simp only [List.count_append]
    by_cases same : unused = (s.conns slot).fd
    · have equal := kept.used unused ⟨slot, client, same.symm⟩
      simp only at equal
      rw [equal, same]
      simp
    · have notBefore : ¬ s.Uses unused := by
        rintro ⟨other, had, isFd⟩
        have different : other ≠ slot := by
          rintro rfl
          exact same isFd.symm
        refine notNow ⟨other, ?_, ?_⟩
        · unfold System.HasClient at had ⊢
          rwa [others other different]
        · simp only [others other different]
          exact isFd
      have equal := kept.unused unused notBefore
      simp only at equal
      rw [equal, List.count_singleton,
        if_neg (by simpa using fun isFd => same isFd.symm)]
      rfl

/-- A client for whom no slot is free is closed by the handler. -/
theorem registerOrClose_full
    (env : Environment)
    (calls : RegisterCalls)
    (clientFd : Int)
    {s : System}
    (full : s.proc.freeConnections = []) :
    registerOrClose env calls clientFd s = .ok (s, [clientFd]) := by
  have registered := register_full env calls clientFd full
  simp only [registerOrClose, registered, if_true, List.nil_append]

/-- The calls that return decide what the registration does. -/
theorem lpLdapIoRegister_succeed
    (env : Environment)
    {calls : RegisterCalls}
    (succeed : calls.Succeed)
    (sockfd : Int)
    (s : System) :
    lpLdapIoRegister env calls.toRegisterOutcome sockfd s =
      lpLdapIoRegister env .succeed sockfd s := by
  obtain ⟨sockbuf, task, written⟩ := succeed
  have pushed (ldap : Nat) (new : Task) (ldaps : Nat → LdapWorker) :
      lpLdapPushTask calls.write (some ldap) new ldaps =
        lpLdapPushTask .written (some ldap) new ldaps := by
    cases write : calls.write with
    | written =>
        rfl
    | again =>
        rfl
    | failed =>
        exact (written write).elim
  unfold lpLdapIoRegister registerWithWorker
  simp only [sockbuf, task, RegisterOutcome.succeed, pushed]
  rfl

/-- A client that gets a slot, and whose registration returns, stays open. -/
theorem registerOrClose_taken
    {env : Environment}
    {calls : RegisterCalls}
    {clientFd : Int}
    {s next : System}
    {closed : List Int}
    (clean : PoolClean s)
    (notFull : s.proc.freeConnections ≠ [])
    (notified : calls.write ≠ .failed)
    (returned :
      registerOrClose env calls clientFd s = .ok (next, closed)) :
    closed = [] ∧ step env s (.register clientFd) = some next := by
  obtain ⟨slot, rest, free⟩ := List.exists_cons_of_ne_nil notFull
  have unused : (s.conns slot).Unused :=
    clean slot (by rw [free]; exact List.mem_cons_self ..)
  by_cases early : calls.sockbuf = false ∨ calls.task = false
  · have aborts := register_aborts env calls clientFd free unused early
    rw [registerOrClose, aborts] at returned
    cases returned
  · simp only [not_or, Bool.not_eq_false] at early
    have succeed : calls.Succeed := ⟨early.1, early.2, notified⟩
    obtain ⟨after, registered⟩ :=
      register_succeeds env calls clientFd free unused succeed
    have forgotten := lpLdapIoRegisterClosing_forget env calls clientFd s
    have succeeded : ¬ lpOk = lpErr := by decide
    rw [registerOrClose, registered] at returned
    simp only [succeeded, if_false, Except.ok.injEq, Prod.mk.injEq]
      at returned
    obtain ⟨rfl, rfl⟩ := returned
    rw [registered, lpLdapIoRegister_succeed env succeed] at forgotten
    refine ⟨rfl, ?_⟩
    show stepRegister env clientFd s = some after
    rw [stepRegister, ← forgotten]
    rfl

/-- With a notified worker the step is one of the proxy. -/
theorem stepCalling_step
    {env : Environment}
    {s next : System}
    {action : Action}
    {calls : RegisterCalls}
    (clean : PoolClean s)
    (notified : ∀ clientFd, action = .register clientFd → calls.Notified)
    (taken : stepCalling env s (action, calls) = some next) :
    step env s action = some next := by
  cases action with
  | register clientFd =>
      simp only [stepCalling] at taken
      split at taken
      · cases taken
      · next after closed returned =>
          cases taken
          by_cases full : s.proc.freeConnections = []
          · rw [registerOrClose_full env calls clientFd full] at returned
            cases returned
            show stepRegister env clientFd s = some s
            simp only [stepRegister, lpLdapIoRegister, getConnectionRetry,
              lpGetConnection, full]
          · exact
              (registerOrClose_taken clean full (notified clientFd rfl).2
                returned).2
  | ldapPop ldap =>
      exact taken
  | ldapExec ldap send =>
      exact taken
  | ldapEvent ldap slot event =>
      exact taken
  | mysqlPop mysql =>
      exact taken
  | mysqlExec mysql =>
      exact taken

/-- A client for whom no slot is free is closed once. -/
theorem listeningCloses_full
    (env : Environment)
    (calls : RegisterCalls)
    (clientFd : Int)
    {s : System}
    (full : s.proc.freeConnections = []) :
    listeningCloses env calls clientFd s = [clientFd] := by
  rw [listeningCloses, registerOrClose_full env calls clientFd full]

/-- A client that gets a slot, and whose worker is notified, is not closed. -/
theorem listeningCloses_taken
    {env : Environment}
    {calls : RegisterCalls}
    {clientFd : Int}
    {s : System}
    (clean : PoolClean s)
    (notFull : s.proc.freeConnections ≠ [])
    (notified : calls.write ≠ .failed) :
    listeningCloses env calls clientFd s = [] := by
  unfold listeningCloses
  split
  · rfl
  · next after closed returned =>
      exact (registerOrClose_taken clean notFull notified returned).1

/-- An event that leaves its slot to the client closes nothing. -/
theorem eventCloses_stays
    {s next : System}
    {slot : Nat}
    (taken : slot ∉ next.proc.freeConnections) :
    eventCloses s next slot = [] :=
  if_neg taken

/-- An event that gives its slot back closes the client's descriptor. -/
theorem eventCloses_gaveBack
    {s next : System}
    {slot : Nat}
    (isFree : slot ∈ next.proc.freeConnections)
    (buffered : (s.conns slot).sb = true)
    (valid : 0 ≤ (s.conns slot).fd) :
    eventCloses s next slot = [(s.conns slot).fd] := by
  rw [eventCloses, if_pos isFree, if_pos buffered, berSockbufFree,
    if_pos ⟨rfl, by omega⟩]

/-- What every reached state of the proxy has, with its descriptors. -/
structure WellKept (env : Environment) (t : System × Descriptors) :
    Prop where
  wired : Wired env t.1
  clean : PoolClean t.1
  clients : SlotsWithClient env t.1
  kept : DescriptorsKept t

/-- Every step keeps the account of the descriptors. -/
theorem WellKept.step
    {env : Environment}
    {s next : System}
    {d : Descriptors}
    {action : Action}
    {calls : RegisterCalls}
    (well : WellKept env (s, d))
    (accepts : AcceptsClosed (s, d) (action, calls))
    (stepped : Stepped env s action next) :
    DescriptorsKept
      (next, recordDescriptors env s (action, calls) next d) := by
  obtain ⟨wired, clean, clients, kept⟩ := well
  cases stepped with
  | refused sockfd full =>
      simp only [recordDescriptors, listeningCloses_full env calls sockfd full]
      exact kept.refused sockfd
  | opened sockfd slot rest free =>
      obtain ⟨⟨positive, closed⟩, -, notified⟩ := accepts
      have isFree : slot ∈ s.proc.freeConnections := by
        rw [free]
        exact List.mem_cons_self ..
      have vacant := wired.vacant slot isFree
      have notFull := List.ne_nil_of_mem isFree
      simp only [recordDescriptors, List.append_nil,
        listeningCloses_taken clean notFull notified]
      refine kept.opened slot (lpGetLdap env s.ldapIndex).1 ?_ positive
        closed ?_ ?_
      · exact fun client => client vacant.ldap
      · simp [System.opened, System.pushed, System.put, Connection.opened,
          Connection.client]
      · exact fun other different => System.put_conns_other s different _
  | ldapPopped ldap task rest current queue =>
      exact kept.same fun slot => rfl
  | served ldap send task current server =>
      have finished : DescriptorsKept (s.finished ldap, d) :=
        kept.same fun slot => rfl
      exact finished.put rfl
  | replied ldap send task ret last current fromMysql replied =>
      have finished : DescriptorsKept (s.finished ldap, d) :=
        kept.same fun slot => rfl
      exact finished.put replied.client.1
  | stray ldap send task current notServer notMysql =>
      exact kept.same fun slot => rfl
  | handled ldap slot event last idle delivered returned =>
      obtain ⟨held, holding⟩ := wired.holding slot
      have client := clients.delivered delivered
      have taken := (wired.delivered delivered).1
      obtain ⟨worked, works, -, free, rfl | ⟨datas, rfl⟩⟩ :=
        returned held holding
      · have stillTaken : slot ∉ (s.put slot last).proc.freeConnections := by
          simp only [System.put, free]
          exact taken
        simp only [recordDescriptors, eventCloses_stays stillTaken,
          List.append_nil]
        exact kept.put works.client
      · have isFree : slot ∈
            (s.put slot (gaveBack slot worked datas)).proc.freeConnections :=
          List.mem_cons_self ..
        simp only [recordDescriptors,
          eventCloses_gaveBack isFree (kept.buffered slot client)
            (kept.valid slot client)]
        refine kept.gaveBack client ?_ ?_
        · rw [System.put_conns_self]
          rfl
        · exact fun other different => System.put_conns_other s different _
  | mysqlPopped mysql task rest worker current queue taken left =>
      exact kept.same fun slot => rfl
  | answered mysql task ldap current owner =>
      exact kept.same fun slot => rfl
  | unanswered mysql task current noOwner =>
      exact kept.same fun slot => rfl
  | dropped mysql task current =>
      exact kept.same fun slot => rfl

/--
In every run in which `accept` returns no descriptor that is open and workers
are notified of their clients, whatever the order of connections, closes and
slots used again: a connection that a client has uses a descriptor of its own
that is open, and every other descriptor was closed as often as it was
accepted.  A client with a slot whose worker is then not notified is closed
twice.
-/
theorem descriptors_closed_once
    {env : Environment}
    {actions : List (Action × RegisterCalls)}
    {s : System}
    {d : Descriptors}
    (run :
      Run (Guarded AcceptsClosed (Enabled (descriptorStep env)))
        (System.initial env, Descriptors.empty) actions (s, d)) :
    DescriptorsKept (s, d) ∧
      ∀ clientFd calls,
        s.proc.freeConnections ≠ [] →
        calls.sockbuf = true →
        calls.task = true →
        calls.write = .failed →
        listeningCloses env calls clientFd s =
          berSockbufFree calls.addIo clientFd ++ [clientFd] := by
  have well : WellKept env (s, d) := by
    refine run.invariant (WellKept env) ?_
      ⟨wired_initial env, poolClean_initial env, slotsWithClient_initial env,
        descriptorsKept_initial env⟩
    rintro ⟨s, d⟩ ⟨action, calls⟩ ⟨next, after⟩ well ⟨accepts, both⟩
    obtain ⟨taken, rfl⟩ := recorded_eq_some_iff.mp both
    have notified (clientFd : Int) (register : action = .register clientFd) :
        calls.Notified := by
      subst register
      exact accepts.2
    have stepped := step_stepped (stepCalling_step well.clean notified taken)
    exact
      ⟨well.wired.step stepped, well.clean.step well.wired stepped,
        well.clients.step well.wired stepped, well.step accepts stepped⟩
  refine ⟨well.kept, ?_⟩
  intro clientFd calls notFull sockbuf task failed
  obtain ⟨slot, rest, free⟩ := List.exists_cons_of_ne_nil notFull
  have unused : (s.conns slot).Unused :=
    well.clean slot (by rw [free]; exact List.mem_cons_self ..)
  obtain ⟨next, ldap, new, registered, -⟩ :=
    register_queued env calls clientFd free unused sockbuf task failed
  simp only [listeningCloses, registerOrClose, registered, if_true]

/-- Every call of the registration succeeds. -/
def unhindered : RegisterCalls where
  toRegisterOutcome := .succeed
  addIo := true

/--
A client leaves, its descriptor is accepted again for the same slot, and a third
client is turned away.
-/
def descriptorReused : List (Action × RegisterCalls) :=
  (newClient 0 ++ [clientLeaves 0, .register 5, .register 6]).map
    fun action => (action, unhindered)

/-- The descriptor is closed before it is accepted again. -/
theorem descriptors_closed_once_reused :
    ∃ (s : System) (d : Descriptors),
      (d.accepted = [5, 5, 6] ∧ d.closed = [5, 6]) ∧
        DescriptorsKept (s, d) := by
  obtain ⟨⟨s, d⟩, run, ends⟩ :
      ∃ t : System × Descriptors,
        Run (Guarded AcceptsClosed (Enabled (descriptorStep driftingEnv)))
            (System.initial driftingEnv, Descriptors.empty)
            descriptorReused t ∧
          t.2.accepted = [5, 5, 6] ∧ t.2.closed = [5, 6] :=
    exec_guarded_reaches acceptsClosed_of_check
      (fun t : System × Descriptors =>
        t.2.accepted = [5, 5, 6] ∧ t.2.closed = [5, 6])
      (by decide +kernel)
  exact ⟨s, d, ends, (descriptors_closed_once run).1⟩

end LdapProxy

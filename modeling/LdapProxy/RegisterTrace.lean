import LdapProxy.Wiring

namespace LdapProxy

open LdapProxy.Lber
open LdapProxy.Transition

/-!
# A registration that fails

`lp_ldap_io_register` with the descriptors that it closes: once the connection
has its Sockbuf, `lp_free_connection` closes the socket through
`ber_sockbuf_free`, and `__lp_listening_handler` closes it once more when the
registration returns `LP_ERR`.  A failing registration leaves no trace exactly
when it fails before it takes a slot.
-/

/--
How the fallible calls of `lp_ldap_io_register` end.  The result of
`ber_sockbuf_add_io` is not looked at; without its stream a Sockbuf has no
descriptor to close.
-/
structure RegisterCalls extends RegisterOutcome where
  addIo : Bool
  deriving Repr, DecidableEq

/-- Every call whose result is looked at succeeds. -/
def RegisterCalls.Succeed (calls : RegisterCalls) : Prop :=
  calls.sockbuf = true ∧ calls.task = true ∧ calls.write ≠ .failed

instance (calls : RegisterCalls) : Decidable calls.Succeed :=
  inferInstanceAs
    (Decidable
      (calls.sockbuf = true ∧ calls.task = true ∧ calls.write ≠ .failed))

/-- The calls of `close` in `ber_sockbuf_free`. -/
def berSockbufFree (addIo : Bool) (fd : Int) : List Int :=
  if addIo = true ∧ fd ≠ -1 then [fd] else []

/-- `lp_free_connection(c); return LP_ERR;` and the descriptors it closes. -/
def registerFailedClosing (addIo : Bool) (slot : Nat) (s : System) :
    Except Abort (Int × System × List Int) :=
  match registerFailed slot s with
  | .error abort =>
      .error abort
  | .ok (ret, next) =>
      .ok (ret, next,
        if (s.conns slot).sb then berSockbufFree addIo (s.conns slot).fd
        else [])

/-- `registerWithWorker` and the descriptors that it closes. -/
def registerWithWorkerClosing
    (env : Environment)
    (calls : RegisterCalls)
    (slot : Nat)
    (s : System) :
    Except Abort (Int × System × List Int) :=
  if calls.task = false then
    registerFailedClosing calls.addIo slot s
  else
    let (new, p) := lpTaskNew env s.proc
    let (ldap, ldapIndex) := lpGetLdap env s.ldapIndex
    let c :=
      { s.conns slot with
        ldap := some ldap
        discard := true
        connActive := true }
    let task := registerTask new ldap slot c.incarnation
    let (ret, ldaps) :=
      lpLdapPushTask calls.write (some ldap) task s.ldaps
    let s :=
      { conns := Function.update s.conns slot c
        ldaps := ldaps
        ldapIndex := ldapIndex
        proc := p }
    if ret = lpErr then
      registerFailedClosing calls.addIo slot
        { s with proc := lpTaskDestroy task s.proc }
    else
      .ok (lpOk, s, [])

/-- `lp_ldap_io_register` and the descriptors that it closes. -/
def lpLdapIoRegisterClosing
    (env : Environment)
    (calls : RegisterCalls)
    (sockfd : Int)
    (s : System) :
    Except Abort (Int × System × List Int) :=
  match getConnectionRetry 3 sockfd s.conns s.proc with
  | none =>
      .ok (lpErr, s, [])
  | some (slot, conns, p) =>
      let c := conns slot
      if c.connActive then
        .error .connActive
      else if c.connClosing then
        .error .connClosing
      else if c.connClosed then
        .error .connClosed
      else if calls.sockbuf = false then
        let c := { c with sb := false }
        registerFailedClosing calls.addIo slot
          { s with conns := Function.update conns slot c, proc := p }
      else
        let c := { c with sb := true, curData := none }
        registerWithWorkerClosing env calls slot
          { s with conns := Function.update conns slot c, proc := p }

/--
The body of the loop in `__lp_listening_handler` once a client is accepted.
-/
def registerOrClose
    (env : Environment)
    (calls : RegisterCalls)
    (clientFd : Int)
    (s : System) :
    Except Abort (System × List Int) :=
  match lpLdapIoRegisterClosing env calls clientFd s with
  | .error abort =>
      .error abort
  | .ok (ret, next, closed) =>
      if ret = lpErr then
        .ok (next, closed ++ [clientFd])
      else
        .ok (next, closed)

/-- What a call returns without the descriptors that it closes. -/
def forgetClosed (result : Int × System × List Int) : Int × System :=
  (result.1, result.2.1)

theorem registerFailedClosing_forget
    (addIo : Bool)
    (slot : Nat)
    (s : System) :
    (registerFailedClosing addIo slot s).map forgetClosed =
      registerFailed slot s := by
  unfold registerFailedClosing
  cases registerFailed slot s with
  | error abort =>
      rfl
  | ok failed =>
      rfl

theorem registerWithWorkerClosing_forget
    (env : Environment)
    (calls : RegisterCalls)
    (slot : Nat)
    (s : System) :
    (registerWithWorkerClosing env calls slot s).map forgetClosed =
      registerWithWorker env calls.toRegisterOutcome slot s := by
  unfold registerWithWorkerClosing registerWithWorker
  by_cases noTask : calls.task = false
  · simp only [noTask, if_true]
    exact registerFailedClosing_forget ..
  · rw [if_neg noTask, if_neg noTask]
    simp only
    rw [apply_ite (Except.map forgetClosed), registerFailedClosing_forget]
    rfl

/-- `registerFailed` does not look at the Sockbuf. -/
theorem registerFailed_sb
    (slot : Nat)
    (s : System)
    (sb : Bool) :
    registerFailed slot
        { s with
          conns :=
            Function.update s.conns slot { s.conns slot with sb := sb } } =
      registerFailed slot s := by
  unfold registerFailed lpFreeConnection discardConnectionData
  simp only [Function.update_self]
  by_cases discard : (s.conns slot).discard = true
  · simp only [discard, if_true, Function.update_idem]
    rfl
  · simp only [discard]
    rfl

/-- Apart from the descriptors, the two models of the function agree. -/
theorem lpLdapIoRegisterClosing_forget
    (env : Environment)
    (calls : RegisterCalls)
    (sockfd : Int)
    (s : System) :
    (lpLdapIoRegisterClosing env calls sockfd s).map forgetClosed =
      lpLdapIoRegister env calls.toRegisterOutcome sockfd s := by
  unfold lpLdapIoRegisterClosing lpLdapIoRegister
  rcases getConnectionRetry 3 sockfd s.conns s.proc with
    _ | ⟨slot, conns, p⟩
  · rfl
  · simp only
    split_ifs with active closing closed noSockbuf
    · rfl
    · rfl
    · rfl
    · rw [registerFailedClosing_forget]
      exact registerFailed_sb slot { s with conns := conns, proc := p } false
    · exact registerWithWorkerClosing_forget ..

/-- A slot as `lp_connections_init` and `lp_free_connection` leave it. -/
structure Connection.Unused (c : Connection) : Prop where
  sb : c.sb = false
  connActive : c.connActive = false
  connClosing : c.connClosing = false
  connClosed : c.connClosed = false
  discard : c.discard = false

/-- Every slot of the free list is unused. -/
def PoolClean (s : System) : Prop :=
  ∀ slot ∈ s.proc.freeConnections, (s.conns slot).Unused

/-- A cleared slot is unused. -/
theorem unused_cleared (c : Connection) : c.cleared.Unused :=
  ⟨rfl, rfl, rfl, rfl, rfl⟩

/-- The slots are unused when the proxy starts. -/
theorem poolClean_initial (env : Environment) :
    PoolClean (System.initial env) :=
  fun _ _ => ⟨rfl, rfl, rfl, rfl, rfl⟩

/-- Changing a slot that is not free, or clearing it, keeps the others. -/
theorem PoolClean.put
    {s : System}
    (clean : PoolClean s)
    {slot : Nat}
    {next : Connection × Process}
    (before :
      ∀ other ∈ next.2.freeConnections,
        other ≠ slot → other ∈ s.proc.freeConnections)
    (unused : slot ∈ next.2.freeConnections → next.1.Unused) :
    PoolClean (s.put slot next) := by
  intro other isFree
  by_cases same : other = slot
  · subst other
    rw [System.put_conns_self]
    exact unused isFree
  · rw [System.put_conns_other s same]
    exact clean other (before other isFree same)

/-- Every step keeps the free slots unused. -/
theorem PoolClean.step
    {env : Environment}
    {s next : System}
    {action : Action}
    (wired : Wired env s)
    (clean : PoolClean s)
    (stepped : Stepped env s action next) :
    PoolClean next := by
  cases stepped with
  | refused sockfd full =>
      exact clean
  | opened sockfd slot rest free =>
      have nodup := wired.free
      rw [free, List.nodup_cons] at nodup
      have taken :
          PoolClean
            (s.put slot
              ((s.conns slot).opened sockfd (lpGetLdap env s.ldapIndex).1,
                { (lpTaskNew env s.proc).2 with
                  freeConnections := rest
                  freeConnectionsN := s.proc.freeConnectionsN - 1
                  connectionsN := s.proc.connectionsN + 1 })) := by
        refine clean.put ?_ ?_
        · intro other member _
          rw [free]
          exact List.mem_cons_of_mem _ member
        · exact fun member => (nodup.1 member).elim
      exact taken
  | ldapPopped ldap task rest current queue =>
      exact clean
  | served ldap send task current server =>
      have waited : task.c ∈ s.pendingSlots env := by
        rw [pendingSlots_finished (wired.ldap_inside current) current server]
        exact Multiset.mem_cons_self ..
      have finished : PoolClean (s.finished ldap) := clean
      exact finished.put (fun other member _ => member)
        fun isFree => ((wired.pending task.c waited).1 isFree).elim
  | replied ldap send task ret last current fromMysql replied =>
      have registered (tick : task.tick ∈ (s.conns task.c).taskTicks) :
          task.c ∉ s.proc.freeConnections := by
        intro isFree
        rw [(wired.vacant task.c isFree).taskTicks] at tick
        exact List.not_mem_nil tick
      have finished : PoolClean (s.finished ldap) := clean
      cases replied with
      | refused unknown =>
          exact finished.put (fun other member _ => member)
            fun isFree => clean task.c isFree
      | foreign tick other =>
          exact finished.put (fun other member _ => member)
            fun isFree => (registered tick isFree).elim
      | answered ret rplList sent datas tick owner fromList =>
          exact finished.put (fun other member _ => member)
            fun isFree => (registered tick isFree).elim
  | stray ldap send task current notServer notMysql =>
      exact clean
  | handled ldap slot event last idle delivered returned =>
      obtain ⟨held, holding⟩ := wired.holding slot
      obtain ⟨taken, -⟩ := wired.delivered delivered
      obtain ⟨before, -, -, free, stays | ⟨datas, gone⟩⟩ :=
        returned held holding
      · subst last
        refine clean.put ?_ ?_
        · rw [free]
          exact fun other member _ => member
        · rw [free]
          exact fun isFree => (taken isFree).elim
      · subst last
        refine clean.put ?_ fun _ => unused_cleared before.1
        intro other member different
        simp only [gaveBack, free, List.mem_cons] at member
        exact member.resolve_left different
  | mysqlPopped mysql task rest worker current queue taken left =>
      exact clean
  | answered mysql task ldap current owner =>
      exact clean
  | unanswered mysql task current noOwner =>
      exact clean
  | dropped mysql task current =>
      exact clean

/-- The free slots are unused in every state that the proxy reaches. -/
theorem poolClean_reached
    {env : Environment}
    {actions : List Action}
    {s : System}
    (run : Run (Enabled (step env)) (System.initial env) actions s) :
    PoolClean s := by
  have both : Wired env s ∧ PoolClean s :=
    run.invariant
      (fun s => Wired env s ∧ PoolClean s)
      (fun holds taken =>
        have stepped := step_stepped taken
        ⟨holds.1.step stepped, holds.2.step holds.1 stepped⟩)
      ⟨wired_initial env, poolClean_initial env⟩
  exact both.2

/--
The registration comes back, and when it fails the counts and the free slots
are as before, no LDAP worker has a task for the slot, and the caller's `close`
is the only one of the client's descriptor.
-/
def LeavesNoTrace
    (env : Environment)
    (calls : RegisterCalls)
    (clientFd : Int)
    (s : System) :
    Prop :=
  ∃ ret next closed,
    lpLdapIoRegisterClosing env calls clientFd s =
        .ok (ret, next, closed) ∧
      (ret = lpErr →
        next.proc.freeConnectionsN = s.proc.freeConnectionsN ∧
          next.proc.connectionsN = s.proc.connectionsN ∧
          (∀ slot,
            slot ∈ next.proc.freeConnections ↔
              slot ∈ s.proc.freeConnections) ∧
          (∀ slot,
            s.proc.freeConnections.head? = some slot →
            ∀ ldap,
              ∀ task ∈ (next.ldaps ldap).queue, task.c ≠ slot) ∧
          clientFd ∉ closed ∧
          ∃ later,
            registerOrClose env calls clientFd s = .ok (next, later) ∧
              later.count clientFd = 1)

/-- Without a free slot the registration changes nothing. -/
theorem register_full
    (env : Environment)
    (calls : RegisterCalls)
    (clientFd : Int)
    {s : System}
    (full : s.proc.freeConnections = []) :
    lpLdapIoRegisterClosing env calls clientFd s = .ok (lpErr, s, []) := by
  simp only [lpLdapIoRegisterClosing, getConnectionRetry, lpGetConnection,
    full]

section Taken

variable
  (env : Environment)
  (calls : RegisterCalls)
  (clientFd : Int)
  {s : System}
  {slot : Nat}
  {rest : List Nat}

/-- With a free slot the registration goes on to the Sockbuf. -/
theorem register_taken
    (free : s.proc.freeConnections = slot :: rest)
    (unused : (s.conns slot).Unused) :
    ∃ conns p,
      (conns slot).discard = false ∧
        (conns slot).fd = clientFd ∧
        lpLdapIoRegisterClosing env calls clientFd s =
          if calls.sockbuf = false then
            registerFailedClosing calls.addIo slot
              { s with conns := conns, proc := p }
          else
            registerWithWorkerClosing env calls slot
              { s with
                conns :=
                  Function.update conns slot
                    { conns slot with sb := true, curData := none }
                proc := p } := by
  refine ⟨Function.update s.conns slot
    { s.conns slot with
      fd := clientFd
      incarnation := (s.conns slot).incarnation + 1
      sb := false },
    { s.proc with
      freeConnections := rest
      freeConnectionsN := s.proc.freeConnectionsN - 1
      connectionsN := s.proc.connectionsN + 1 }, ?_, ?_, ?_⟩
  · rw [Function.update_self]
    exact unused.discard
  · rw [Function.update_self]
  · simp only [lpLdapIoRegisterClosing, getConnectionRetry, lpGetConnection,
      free, Function.update_self, Function.update_idem, unused.connActive,
      unused.connClosing, unused.connClosed, Bool.false_eq_true, if_false]

/-- A slot without its callback cannot be given back. -/
theorem registerFailedClosing_aborts
    (addIo : Bool)
    {s : System}
    (discard : (s.conns slot).discard = false) :
    registerFailedClosing addIo slot s = .error .discardNull := by
  simp only [registerFailedClosing, registerFailed, lpFreeConnection,
    discardConnectionData, discard, Bool.false_eq_true, if_false]

/-- A failure before the callback is set runs into the assertion. -/
theorem register_aborts
    (free : s.proc.freeConnections = slot :: rest)
    (unused : (s.conns slot).Unused)
    (early : calls.sockbuf = false ∨ calls.task = false) :
    lpLdapIoRegisterClosing env calls clientFd s = .error .discardNull := by
  obtain ⟨conns, p, discard, -, taken⟩ :=
    register_taken env calls clientFd free unused
  rw [taken]
  by_cases noSockbuf : calls.sockbuf = false
  · rw [if_pos noSockbuf]
    exact registerFailedClosing_aborts _ discard
  · rw [if_neg noSockbuf]
    unfold registerWithWorkerClosing
    rw [if_pos (early.resolve_left noSockbuf)]
    refine registerFailedClosing_aborts _ ?_
    simp only [Function.update_self]
    exact discard

/-- A failing notification leaves the task in the queue of the worker. -/
theorem register_queued
    (free : s.proc.freeConnections = slot :: rest)
    (unused : (s.conns slot).Unused)
    (sockbuf : calls.sockbuf = true)
    (task : calls.task = true)
    (failed : calls.write = .failed) :
    ∃ next ldap new,
      lpLdapIoRegisterClosing env calls clientFd s =
          .ok (lpErr, next, berSockbufFree calls.addIo clientFd) ∧
        new ∈ (next.ldaps ldap).queue ∧
        new.c = slot := by
  obtain ⟨conns, p, -, sameFd, taken⟩ :=
    register_taken env calls clientFd free unused
  rw [taken, if_neg (by simp [sockbuf])]
  unfold registerWithWorkerClosing
  rw [if_neg (by simp [task])]
  simp only [failed, lpLdapPushTask_eq, ldapNotify, if_true,
    registerFailedClosing, registerFailed, Function.update_self,
    lpFreeConnection, discardConnectionData, sameFd]
  refine ⟨_, (lpGetLdap env s.ldapIndex).1,
    registerTask (lpTaskNew env p).1 (lpGetLdap env s.ldapIndex).1 slot
      (conns slot).incarnation, rfl, ?_, rfl⟩
  simp only [Function.update_self]
  exact List.mem_concat_self ..

/-- When every call succeeds the registration does. -/
theorem register_succeeds
    (free : s.proc.freeConnections = slot :: rest)
    (unused : (s.conns slot).Unused)
    (succeed : calls.Succeed) :
    ∃ next,
      lpLdapIoRegisterClosing env calls clientFd s =
        .ok (lpOk, next, []) := by
  obtain ⟨sockbuf, task, written⟩ := succeed
  obtain ⟨conns, p, -, -, taken⟩ :=
    register_taken env calls clientFd free unused
  rw [taken, if_neg (by simp [sockbuf])]
  unfold registerWithWorkerClosing
  rw [if_neg (by simp [task])]
  have notified : ¬ ldapNotify calls.write = lpErr := by
    cases write : calls.write with
    | written =>
        decide
    | again =>
        decide
    | failed =>
        exact (written write).elim
  simp only [lpLdapPushTask_eq, notified, if_false]
  exact ⟨_, rfl⟩

end Taken

/-- A failure after the slot was taken leaves a trace. -/
theorem register_leaves_trace
    (env : Environment)
    (calls : RegisterCalls)
    (clientFd : Int)
    {s : System}
    {slot : Nat}
    {rest : List Nat}
    (free : s.proc.freeConnections = slot :: rest)
    (unused : (s.conns slot).Unused)
    (fails : ¬ calls.Succeed) :
    ¬ LeavesNoTrace env calls clientFd s := by
  rintro ⟨ret, next, closed, returned, noTrace⟩
  by_cases early : calls.sockbuf = false ∨ calls.task = false
  · rw [register_aborts env calls clientFd free unused early] at returned
    cases returned
  · simp only [not_or, Bool.not_eq_false] at early
    have failed : calls.write = .failed := by
      by_contra written
      exact fails ⟨early.1, early.2, written⟩
    obtain ⟨after, ldap, task, result, queued, sameSlot⟩ :=
      register_queued env calls clientFd free unused early.1 early.2 failed
    rw [returned] at result
    simp only [Except.ok.injEq, Prod.mk.injEq] at result
    obtain ⟨rfl, rfl, rfl⟩ := result
    exact (noTrace rfl).2.2.2.1 slot (by rw [free]; rfl) ldap task queued
      sameSlot

/--
A registration leaves no trace when it fails, exactly when `lp_get_connection`
returns `NULL` in every try or nothing fails after a slot was taken.
-/
theorem register_leaves_no_trace_iff
    (env : Environment)
    (calls : RegisterCalls)
    (clientFd : Int)
    {s : System}
    (clean : PoolClean s) :
    LeavesNoTrace env calls clientFd s ↔
      s.proc.freeConnections = [] ∨ calls.Succeed := by
  cases free : s.proc.freeConnections with
  | nil =>
      have full := register_full env calls clientFd free
      simp only [true_or, iff_true]
      refine ⟨lpErr, s, [], full, fun _ => ⟨rfl, rfl, fun _ => Iff.rfl, ?_,
        List.not_mem_nil, [clientFd], ?_, ?_⟩⟩
      · rw [free]
        rintro slot ⟨⟩
      · simp only [registerOrClose, full, if_true, List.nil_append]
      · simp
  | cons slot rest =>
      have unused : (s.conns slot).Unused :=
        clean slot (by rw [free]; exact List.mem_cons_self ..)
      simp only [reduceCtorEq, false_or]
      constructor
      · intro noTrace
        by_contra fails
        exact register_leaves_trace env calls clientFd free unused fails
          noTrace
      · intro succeed
        obtain ⟨next, returned⟩ :=
          register_succeeds env calls clientFd free unused succeed
        refine ⟨lpOk, next, [], returned, ?_⟩
        intro impossible
        simp [lpOk, lpErr] at impossible

/-- Only the notification of the LDAP worker fails. -/
def unnotified : RegisterCalls where
  sockbuf := true
  task := true
  write := .failed
  addIo := true

/-- The first registration of the proxy with a failing notification. -/
theorem register_leaves_no_trace_iff_first :
    LeavesNoTrace .still unnotified 5 (System.initial .still) ↔
      (System.initial .still).proc.freeConnections = [] ∨
        unnotified.Succeed :=
  register_leaves_no_trace_iff _ _ _ (poolClean_initial _)

/-- What the caller of a registration closes and what is left queued. -/
def closedAndQueued :
    Except Abort (System × List Int) → Option (List Int × List Nat)
  | .ok (s, closed) =>
      some (closed, (s.ldaps 0).queue.map Task.c)
  | .error _ =>
      none

/--
When the first registration of the proxy cannot notify its worker, the task for
the slot stays queued and the client's descriptor is closed twice; without a
Sockbuf or a task it ends in an assertion.
-/
theorem register_leaves_traces :
    (¬ LeavesNoTrace .still unnotified 5 (System.initial .still) ∧
      closedAndQueued
          (registerOrClose .still unnotified 5 (System.initial .still)) =
        some ([5, 5], [0])) ∧
      (¬ LeavesNoTrace .still { unnotified with sockbuf := false } 5
          (System.initial .still)) ∧
      ¬ LeavesNoTrace .still { unnotified with task := false } 5
          (System.initial .still) := by
  have unused : ((System.initial .still).conns 0).Unused :=
    ⟨rfl, rfl, rfl, rfl, rfl⟩
  refine ⟨⟨?_, by decide⟩, ?_, ?_⟩
  · exact register_leaves_trace _ _ _ rfl unused (by decide)
  · exact register_leaves_trace _ _ _ rfl unused (by decide)
  · exact register_leaves_trace _ _ _ rfl unused (by decide)

end LdapProxy

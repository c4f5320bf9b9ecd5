import LdapProxy.TickAccounts

namespace LdapProxy

open LdapProxy.Lber
open LdapProxy.Transition

/-!
# The calls behind a run of the proxy

Every run of the proxy consists of calls that the accounts of the ticks know:
what its handlers do to the connections and to the free slots is what a list of
these calls does.
-/

namespace TickSystem

/-- The system has these connections and this shared data. -/
def Has (t : TickSystem) (conns : Nat → Connection) (p : Process) : Prop :=
  t.conns = conns ∧ t.proc = p

/-- Some calls lead from a state to these connections and this data. -/
def Leads (t : TickSystem) (conns : Nat → Connection) (p : Process) :
    Prop :=
  ∃ actions next,
    Run (Enabled TickSystem.step) t actions next ∧ next.Has conns p

/-- No call leads to the same connections and data. -/
theorem Leads.refl (t : TickSystem) : t.Leads t.conns t.proc :=
  ⟨[], t, .done, rfl, rfl⟩

/-- More calls after the first ones. -/
theorem Leads.trans
    {t : TickSystem}
    {conns later : Nat → Connection}
    {p last : Process}
    (first : t.Leads conns p)
    (second : ∀ middle : TickSystem,
      middle.Has conns p → middle.Leads later last) :
    t.Leads later last := by
  obtain ⟨actions, middle, run, has⟩ := first
  obtain ⟨more, next, rest, reached⟩ := second middle has
  exact ⟨actions ++ more, next, run.trans rest, reached⟩

/-- One call. -/
theorem Leads.single
    {t next : TickSystem}
    {action : TickAction}
    (taken : t.step action = some next) :
    t.Leads next.conns next.proc :=
  ⟨[action], next, .single taken, rfl, rfl⟩

/-- A change that leaves the ticks of one slot alone. -/
theorem leads_other
    (t : TickSystem)
    (slot : Nat)
    {c : Connection}
    {p : Process}
    (sameTicks : c.taskTicks = (t.conns slot).taskTicks)
    (sameIncarnation : c.incarnation = (t.conns slot).incarnation)
    (sameFree : p.freeConnections = t.proc.freeConnections) :
    t.Leads (Function.update t.conns slot c) p := by
  have taken :
      t.step (.other slot c p) =
        some
          { t with
            conns := Function.update t.conns slot c
            proc := p } :=
    if_pos ⟨sameTicks, sameIncarnation, sameFree⟩
  exact .single taken

/-- A change of the shared data only. -/
theorem leads_data
    (t : TickSystem)
    {p : Process}
    (sameFree : p.freeConnections = t.proc.freeConnections) :
    t.Leads t.conns p := by
  have changed :=
    t.leads_other 0 (c := t.conns 0) rfl rfl sameFree
  rw [Function.update_eq_self] at changed
  exact changed

/-- One piece of work on an allocated connection. -/
theorem leads_work
    {env : Environment}
    {slot : Nat}
    {reached : BerElement → Prop}
    {before after : Connection × Process}
    (work : Work env slot reached before after)
    (t : TickSystem)
    (connection : t.conns slot = before.1)
    (data : t.proc = before.2)
    (taken : slot ∉ before.2.freeConnections) :
    t.Leads (Function.update t.conns slot after.1) after.2 := by
  cases work with
  | requests c p curData reqList datas holding =>
      exact t.leads_other slot (by rw [connection]) (by rw [connection])
        (by rw [data])
  | respond c p id ber datas =>
      exact t.leads_other slot (by rw [connection]) (by rw [connection])
        (by rw [data])
  | lost c p op isReached filter =>
      exact t.leads_other slot (by rw [connection]) (by rw [connection])
        (by rw [data]; rfl)
  | query c p msg =>
      -- the task is created first, then pushed
      have created : t.Leads t.conns (afterTask env p) :=
        t.leads_data (by rw [data]; rfl)
      refine created.trans ?_
      rintro middle ⟨conns, proc⟩
      have pushes :
          middle.step
              (.search .succeed p.mysqlIndex
                (queryTask (lpTaskNew env p).1 msg p.mysqlIndex slot
                  c)) =
            some _ :=
        if_neg (by rw [proc]; exact taken)
      have leads := Leads.single pushes
      simp only [queryTask, conns, proc, connection] at leads
      exact leads
  | unregister c p del =>
      obtain ⟨rev, wev, closed, same⟩ := ioUnregister_fields del c
      exact t.leads_other slot (by rw [same, connection])
        (by rw [same, connection]) (by rw [data])
  | send c p rplList sent datas incarnations =>
      exact t.leads_other slot (by rw [connection]) (by rw [connection])
        (by rw [data])

/-- A piece of work leaves the free slots alone. -/
theorem work_free
    {env : Environment}
    {slot : Nat}
    {reached : BerElement → Prop}
    {before after : Connection × Process}
    (work : Work env slot reached before after) :
    after.2.freeConnections = before.2.freeConnections := by
  cases work with
  | requests c p curData reqList datas holding =>
      rfl
  | respond c p id ber datas =>
      rfl
  | lost c p op isReached filter =>
      rfl
  | query c p msg =>
      rfl
  | unregister c p del =>
      rfl
  | send c p rplList sent datas incarnations =>
      rfl

/-- All the work of a handler on an allocated connection. -/
theorem leads_works
    {env : Environment}
    {slot : Nat}
    {reached : BerElement → Prop}
    {before after : Connection × Process}
    (works : Works env slot reached before after)
    (t : TickSystem)
    (connection : t.conns slot = before.1)
    (data : t.proc = before.2)
    (taken : slot ∉ before.2.freeConnections) :
    t.Leads (Function.update t.conns slot after.1) after.2 ∧
      slot ∉ after.2.freeConnections := by
  induction works with
  | refl =>
      constructor
      · have stays := Leads.refl t
        rw [data] at stays
        rw [← connection, Function.update_eq_self]
        exact stays
      · exact taken
  | tail _ work inductionHypothesis =>
      obtain ⟨leads, stillTaken⟩ := inductionHypothesis
      constructor
      · refine leads.trans ?_
        rintro middle ⟨conns, proc⟩
        have further :=
          leads_work work middle (by rw [conns, Function.update_self])
            proc stillTaken
        rw [conns, Function.update_idem] at further
        exact further
      · rw [work_free work]
        exact stillTaken

/-- Registering a client takes a slot and fills in its connection. -/
theorem leads_opened
    (env : Environment)
    (sockfd : Int)
    {s : System}
    {slot : Nat}
    {rest : List Nat}
    (free : s.proc.freeConnections = slot :: rest)
    (t : TickSystem)
    (has : t.Has s.conns s.proc) :
    t.Leads (s.opened env sockfd slot rest).conns
      (s.opened env sockfd slot rest).proc := by
  obtain ⟨conns, proc⟩ := has
  have got :
      t.step (.get sockfd) =
        some
          { t with
            conns :=
              Function.update s.conns slot
                { s.conns slot with
                  fd := sockfd
                  incarnation := (s.conns slot).incarnation + 1 }
            proc :=
              { s.proc with
                freeConnections := rest
                freeConnectionsN := s.proc.freeConnectionsN - 1
                connectionsN := s.proc.connectionsN + 1 } } := by
    simp only [TickSystem.step, lpGetConnection, proc, free, conns]
  refine (Leads.single got).trans ?_
  rintro middle ⟨middleConns, middleProc⟩
  dsimp only at middleConns middleProc
  have filled :=
    middle.leads_other slot
      (c := (s.conns slot).opened sockfd (lpGetLdap env s.ldapIndex).1)
      (p := (s.opened env sockfd slot rest).proc)
      (by rw [middleConns, Function.update_self]; rfl)
      (by rw [middleConns, Function.update_self]; rfl)
      (by rw [middleProc]; rfl)
  rw [middleConns, Function.update_idem] at filled
  exact filled

/-- The handler of an event works on its connection and may give it back. -/
theorem leads_handled
    {env : Environment}
    {ldap slot : Nat}
    {event : Event}
    {s next : System}
    (wired : Wired env s)
    (taken : stepLdapEvent env ldap slot event s = some next)
    (t : TickSystem)
    (has : t.Has s.conns s.proc) :
    t.Leads next.conns next.proc := by
  obtain ⟨conns, proc⟩ := has
  unfold stepLdapEvent at taken
  split at taken
  · next delivered =>
      obtain ⟨allocated, -⟩ := wired.delivered delivered.2
      obtain ⟨held, holding⟩ := wired.holding slot
      cases handled :
          lpLdapIoEventHandler env slot event (s.conns slot) s.proc with
      | error abort =>
          simp [handled] at taken
      | ok after =>
          simp only [handled, Option.some.injEq] at taken
          subst next
          obtain ⟨last, works, -, free, ending⟩ :=
            handler_last holding handled
          obtain ⟨leads, stillTaken⟩ :=
            leads_works works t (by rw [conns]) proc allocated
          rw [conns] at leads
          rcases ending with rfl | closes
          · exact leads
          · refine leads.trans ?_
            rintro middle ⟨middleConns, middleProc⟩
            unfold closeConnection lpCloseConnection at closes
            split at closes
            · -- `conn_closed` is set, so the slot is given back
              have gave :
                  middle.step (.free slot) =
                    some
                      { middle with
                        conns :=
                          Function.update middle.conns slot after.1
                        proc := after.2 } := by
                simp only [TickSystem.step, middleProc, stillTaken,
                  if_false, middleConns, Function.update_self, closes]
              have freed := Leads.single gave
              rw [middleConns, Function.update_idem] at freed
              exact freed
            · cases closes
              have stays := Leads.refl middle
              rw [middleConns, middleProc] at stays
              exact stays
  · cases taken

/-- Every step of the proxy consists of calls. -/
theorem leads_step
    {env : Environment}
    {s next : System}
    {action : Action}
    (wired : Wired env s)
    (taken : LdapProxy.step env s action = some next)
    (t : TickSystem)
    (has : t.Has s.conns s.proc) :
    t.Leads next.conns next.proc := by
  have handled := has
  obtain ⟨conns, proc⟩ := has
  have stays : t.Leads s.conns s.proc := by
    have stays := Leads.refl t
    rw [conns, proc] at stays
    exact stays
  have data {p : Process}
      (sameFree : p.freeConnections = s.proc.freeConnections) :
      t.Leads s.conns p := by
    have changed :=
      t.leads_data (p := p) (by rw [proc]; exact sameFree)
    rw [conns] at changed
    exact changed
  cases step_stepped taken with
  | refused sockfd full =>
      exact stays
  | opened sockfd slot rest free =>
      exact leads_opened env sockfd free t handled
  | ldapPopped ldap task rest current queue =>
      exact stays
  | served ldap send task current server =>
      have changed :=
        t.leads_other task.c
          (c := { s.conns task.c with
            rev := some ldap, wev := some ldap, wevActive := true })
          (p := lpTaskDestroy task s.proc)
          (by rw [conns]) (by rw [conns]) (by rw [proc]; rfl)
      rw [conns] at changed
      exact changed
  | replied ldap send task ret last current fromMysql replied =>
      simp only [LdapProxy.step, stepLdapExec, current] at taken
      cases processed :
          taskProcess ldap task send (s.conns task.c) s.proc with
      | error abort =>
          simp [processed] at taken
      | ok result =>
          simp only [processed, Option.some.injEq] at taken
          have replies :
              t.step (.reply ldap task send) =
                some
                  { conns := Function.update s.conns task.c result.2.1
                    proc := result.2.2
                    counts :=
                      t.count task.c
                        (.reply
                          (lpConnCheckTaskTick (s.conns task.c) task).1
                          (appendedReplies ldap task (s.conns task.c)
                            s.proc)) } := by
            simp only [TickSystem.step, fromMysql, ne_eq, not_true,
              if_false, conns, proc, processed]
          have leads := Leads.single replies
          rw [← taken]
          exact leads
  | stray ldap send task current notServer notMysql =>
      exact stays
  | handled ldap slot event last idle delivered returned =>
      exact leads_handled wired taken t handled
  | mysqlPopped mysql task rest worker current queue popped left =>
      exact data rfl
  | answered mysql task ldap current owner =>
      exact data rfl
  | unanswered mysql task current noOwner =>
      exact data rfl
  | dropped mysql task current =>
      exact data rfl

/-- Every run of the proxy consists of calls. -/
theorem leads_run
    {env : Environment}
    {actions : List Action}
    {s : System}
    (run :
      Run (Enabled (LdapProxy.step env)) (System.initial env) actions s) :
    (TickSystem.initial env).Leads s.conns s.proc := by
  have both :
      Wired env s ∧ (TickSystem.initial env).Leads s.conns s.proc :=
    run.invariant
      (fun s =>
        Wired env s ∧ (TickSystem.initial env).Leads s.conns s.proc)
      (fun holds taken =>
        ⟨holds.1.step (step_stepped taken),
          holds.2.trans fun middle has =>
            leads_step holds.1 taken middle has⟩)
      ⟨wired_initial env, .refl (TickSystem.initial env)⟩
  exact both.2

end TickSystem

end LdapProxy

import LdapProxy.AbortFree

namespace LdapProxy

open LdapProxy.Lber
open LdapProxy.Transition

/-!
# Closing a connection once

When the handler returns, the connection is still open or its slot was given
back once.  The early return of the event handler breaks this: when the request
loop gives up in the same event in which the events were deleted, nothing ever
gives the slot back.
-/

/-- The connection is open, its events are added and its slot is taken. -/
structure StillOpen (ldap slot : Nat) (s : Session) : Prop where
  connClosed : s.c.connClosed = false
  rev : s.c.rev = some ldap
  wev : s.c.wev = some ldap
  taken : slot ∉ s.p.freeConnections

/-- The slot was given back exactly once. -/
def GivenBack (slot : Nat) (s : Session) : Prop :=
  s.p.freeConnections.count slot = 1

/-- After the action the connection is open or its slot was given back. -/
def ClosesOnce
    (env : Environment)
    (ldap slot : Nat)
    (s : Session)
    (action : SessionAction) :
    Prop :=
  ∀ next,
    s.handle env ldap slot action = .ok next →
    StillOpen ldap slot next ∨ GivenBack slot next

/-- `event_del` succeeds in this action. -/
def SessionAction.Deletes : SessionAction → Prop
  | .event handled =>
      handled.del = .succeed
  | _ =>
      True

/--
When the handler reads and no assertion fails, a message without message id
does not stop the requests of an event whose reads failed, or in which an
Unbind came before that message.
-/
def StopsCleanly (ldap : Nat) (s : Session) : SessionAction → Prop
  | .event event =>
      ReadsNow ldap event s.c →
        ∀ held,
          s.c.Holding held →
          ¬ HeaderStuck held →
          ¬ HasUnknownOp (event.batch held s.c) →
          Stops (event.batch held s.c) →
          ¬ event.Ends held s.c
  | _ =>
      True

/-- The connection is registered, or it is gone and its slot given back. -/
def Tidy (ldap slot : Nat) (s : Session) : Prop :=
  (Registered ldap s.c ∧ slot ∉ s.p.freeConnections) ∨
    (s.c.rev = none ∧ s.c.wev = none) ∧ GivenBack slot s

/-- A tidy state is what is claimed of every state after a handler. -/
theorem Tidy.closesOnce
    {ldap slot : Nat}
    {s : Session}
    (tidy : Tidy ldap slot s) :
    StillOpen ldap slot s ∨ GivenBack slot s := by
  rcases tidy with ⟨registered, taken⟩ | ⟨-, back⟩
  · exact .inl
      ⟨registered.connClosed, registered.rev, registered.wev, taken⟩
  · exact .inr back

/-- Deleting both events of a registered connection closes it. -/
theorem ioUnregister_registered
    {ldap : Nat}
    {c : Connection}
    (registered : Registered ldap c) :
    (ioUnregister .succeed c).2.connClosed = true ∧
      (ioUnregister .succeed c).2.discard = true := by
  have closed := registered.connClosed
  have active := registered.wevActive
  have discard := registered.discard
  unfold ioUnregister EventDel.succeed
  simp [closed, active, discard]

/-- Work that ends a registered connection closes it. -/
theorem After.closed_fields
    {env : Environment}
    {ldap slot : Nat}
    {reached : BerElement → Prop}
    {del : EventDel}
    {base next : Connection × Process}
    {ended : Prop}
    (after : After env slot reached del base ended next)
    (registered : Registered ldap base.1)
    (deletes : del = .succeed)
    (hasEnded : ended) :
    next.1.connClosed = true ∧ next.1.discard = true := by
  subst deletes
  obtain ⟨closed, discard⟩ := ioUnregister_registered registered
  obtain ⟨-, -, -, -, -, -, -, sameClosed, -, -, sameDiscard, -⟩ :=
    control_fields (after.closed hasEnded)
  exact ⟨sameClosed.trans closed, sameDiscard.trans discard⟩

/-- Work that does not end a registered connection keeps it registered. -/
theorem After.registered
    {env : Environment}
    {ldap slot : Nat}
    {reached : BerElement → Prop}
    {del : EventDel}
    {base next : Connection × Process}
    {ended : Prop}
    (after : After env slot reached del base ended next)
    (registered : Registered ldap base.1)
    (goesOn : ¬ ended) :
    Registered ldap next.1 :=
  registered.of_control (after.open' goesOn) after.holding

/-- The end of the handler leaves a tidy state. -/
theorem closeConnection_tidy
    {env : Environment}
    {ldap slot : Nat}
    {reached : BerElement → Prop}
    {del : EventDel}
    {s : Session}
    {ended : Prop}
    {last : Connection × Process}
    (after : After env slot reached del (s.c, s.p) ended last)
    (registered : Registered ldap s.c)
    (deletes : del = .succeed)
    (taken : slot ∉ s.p.freeConnections) :
    ∃ next,
      closeConnection slot last.1 last.2 = .ok (next.c, next.p) ∧
        Tidy ldap slot next := by
  have free := after.freeConnections
  by_cases hasEnded : ended
  · obtain ⟨closed, discard⟩ :=
      after.closed_fields registered deletes hasEnded
    obtain ⟨datas, done⟩ :=
      closeConnection_closed slot closed discard last.2
    refine ⟨⟨_, _⟩, done, .inr ⟨⟨rfl, rfl⟩, ?_⟩⟩
    have once := List.count_eq_zero.mpr taken
    simp only [GivenBack]
    rw [free, List.count_cons_self, once]
  · have still := after.registered registered hasEnded
    refine ⟨⟨last.1, last.2⟩,
      closeConnection_open slot still.connClosed last.2,
      .inl ⟨still, ?_⟩⟩
    rw [free]
    exact taken

/--
The handler of a registered connection that holds `held` aborts, leaves a tidy
state, or returns early.
-/
inductive CloseOutcome
    (ldap slot : Nat)
    (event : Event)
    (s : Session)
    (held : List UInt8) :
    Except Abort Session → Prop where
  | abort (failed : Abort) :
      HeaderStuck held ∨ HasUnknownOp (event.batch held s.c) →
      CloseOutcome ldap slot event s held (.error failed)
  | tidy (next : Session) :
      (ReadsNow ldap event s.c →
        Stops (event.batch held s.c) → ¬ event.Ends held s.c) →
      Tidy ldap slot next →
      CloseOutcome ldap slot event s held (.ok next)
  | early (next : Session) :
      ReadsNow ldap event s.c →
      ¬ HeaderStuck held →
      ¬ HasUnknownOp (event.batch held s.c) →
      Stops (event.batch held s.c) →
      event.Ends held s.c →
      next.c.connClosed = true →
      slot ∉ next.p.freeConnections →
      CloseOutcome ldap slot event s held (.ok next)

/-- What a delivered event does to a registered connection. -/
theorem handle_close_outcome
    {ldap slot : Nat}
    {s : Session}
    (registered : Registered ldap s.c)
    (taken : slot ∉ s.p.freeConnections)
    {event : Event}
    (deletes : event.del = .succeed)
    (delivered : Delivered ldap event s.c)
    {held : List UInt8}
    (holding : s.c.Holding held)
    (env : Environment) :
    CloseOutcome ldap slot event s held
      (s.handle env ldap slot (.event event)) := by
  rw [handle_delivered delivered]
  have handled :=
    handler_spec registered.listening holding env slot event s.p
  generalize lpLdapIoEventHandler env slot event s.c s.p = outcome
    at handled ⊢
  cases handled with
  | stuck reads ending =>
      exact .abort _ (.inl ((frames_stuck event held).mp ending))
  | unknown reads notStuck unknown =>
      exact .abort _ (.inr unknown)
  | early next reads notStuck noUnknown stops after =>
      have readsNow : ReadsNow ldap event s.c :=
        ⟨delivered, registered.listening.connClosing, reads⟩
      have free := after.freeConnections
      have stillTaken : slot ∉ next.2.freeConnections := by
        rw [free]
        exact taken
      by_cases hasEnded : event.Ends held s.c
      · exact .early ⟨next.1, next.2⟩ readsNow
          (fun stuck => notStuck ((frames_stuck event held).mpr stuck))
          noUnknown stops hasEnded
          (after.closed_fields registered deletes hasEnded).1 stillTaken
      · exact .tidy ⟨next.1, next.2⟩ (fun _ _ => hasEnded)
          (.inl ⟨after.registered registered hasEnded, stillTaken⟩)
  | finished ended next passed after =>
      obtain ⟨last, closed, tidy⟩ :=
        closeConnection_tidy after registered deletes taken
      rw [closed]
      refine .tidy last ?_ tidy
      intro readsNow stops
      exact ((passed readsNow.2.2).2.2 stops).elim

/-- From a tidy state an event closes once exactly when it stops cleanly. -/
theorem event_closesOnce_iff
    {ldap slot : Nat}
    {s : Session}
    (tidy : Tidy ldap slot s)
    (env : Environment)
    {event : Event}
    (deletes : event.del = .succeed) :
    ClosesOnce env ldap slot s (.event event) ↔
      StopsCleanly ldap s (.event event) := by
  by_cases delivered : Delivered ldap event s.c
  · rcases tidy with ⟨registered, taken⟩ | ⟨⟨rev, wev⟩, -⟩
    · constructor
      · intro closes readsNow held holding notStuck noUnknown stops ended
        have outcome := handle_close_outcome registered taken deletes
          delivered holding env
        unfold ClosesOnce at closes
        generalize s.handle env ldap slot (.event event) = result
          at closes outcome
        cases outcome with
        | abort failed reason =>
            rcases reason with stuck | unknown
            · exact notStuck stuck
            · exact noUnknown unknown
        | tidy next clean _ =>
            exact clean readsNow stops ended
        | early next _ _ _ _ _ closed stillTaken =>
            rcases closes next rfl with still | back
            · rw [still.connClosed] at closed
              cases closed
            · have never := List.count_eq_zero.mpr stillTaken
              rw [GivenBack, never] at back
              cases back
      · intro clean next handled
        obtain ⟨held, holding⟩ := registered.holding
        have outcome := handle_close_outcome registered taken deletes
          delivered holding env
        rw [handled] at outcome
        cases outcome with
        | tidy _ _ tidy =>
            exact tidy.closesOnce
        | early _ readsNow notStuck noUnknown stops ended _ _ =>
            exact (clean readsNow held holding notStuck noUnknown stops
              ended).elim
    · exact (not_delivered_of_deleted rev wev delivered).elim
  · constructor
    · exact fun _ readsNow => (delivered readsNow.1).elim
    · intro _ next handled
      rw [handle_undelivered delivered] at handled
      cases handled
      exact tidy.closesOnce

/-- Everything but an event leaves a tidy state. -/
theorem tidy_of_kept
    {ldap slot : Nat}
    {s next : Session}
    (tidy : Tidy ldap slot s)
    (control : next.c.control = s.c.control)
    (curData : next.c.curData = s.c.curData)
    (count :
      next.p.freeConnections.count slot =
        s.p.freeConnections.count slot) :
    Tidy ldap slot next := by
  rcases tidy with ⟨registered, taken⟩ | ⟨⟨rev, wev⟩, back⟩
  · refine .inl ⟨registered.of_control control
      (holding_of_curData registered.holding curData), ?_⟩
    rw [← List.count_eq_zero, count]
    exact List.count_eq_zero.mpr taken
  · obtain ⟨-, -, -, sameRev, sameWev, -⟩ := control_fields control
    exact .inr ⟨⟨sameRev.trans rev, sameWev.trans wev⟩, count.trans back⟩

/-- A reply or what other threads do leaves a tidy state. -/
theorem tidy_step_others
    {ldap slot : Nat}
    {s next : Session}
    (tidy : Tidy ldap slot s)
    {env : Environment}
    {action : SessionAction}
    (noEvent : ∀ event, action ≠ .event event)
    (taken : s.handle env ldap slot action = .ok next) :
    Tidy ldap slot next := by
  cases action with
  | event event =>
      exact (noEvent event rfl).elim
  | reply task fromMysql send =>
      obtain ⟨other, handled, kept⟩ :=
        handle_reply env ldap slot s fromMysql send
      cases handled.symm.trans taken
      refine tidy_of_kept tidy kept.control kept.curData ?_
      rw [kept.freeConnections]
  | others p =>
      obtain ⟨other, handled, same, count⟩ :=
        handle_others env ldap slot s p
      cases handled.symm.trans taken
      exact tidy_of_kept tidy (by rw [same]) (by rw [same]) count

/-- From a tidy state an action closes once exactly when it stops cleanly. -/
theorem closesOnce_iff
    {ldap slot : Nat}
    {s : Session}
    (tidy : Tidy ldap slot s)
    (env : Environment)
    {action : SessionAction}
    (deletes : action.Deletes) :
    ClosesOnce env ldap slot s action ↔ StopsCleanly ldap s action := by
  cases action with
  | event event =>
      exact event_closesOnce_iff tidy env deletes
  | reply task fromMysql send =>
      refine iff_of_true ?_ trivial
      intro next handled
      exact (tidy_step_others tidy (by simp) handled).closesOnce
  | others p =>
      refine iff_of_true ?_ trivial
      intro next handled
      exact (tidy_step_others tidy (by simp) handled).closesOnce

/-- An action that closes once leaves a tidy state. -/
theorem tidy_step
    {ldap slot : Nat}
    {s next : Session}
    (tidy : Tidy ldap slot s)
    {env : Environment}
    {action : SessionAction}
    (deletes : action.Deletes)
    (closes : ClosesOnce env ldap slot s action)
    (taken : s.handle env ldap slot action = .ok next) :
    Tidy ldap slot next := by
  by_cases isEvent : ∃ event, action = .event event
  · obtain ⟨event, rfl⟩ := isEvent
    by_cases delivered : Delivered ldap event s.c
    · rcases tidy with ⟨registered, isTaken⟩ | ⟨⟨rev, wev⟩, -⟩
      · obtain ⟨held, holding⟩ := registered.holding
        have outcome := handle_close_outcome registered isTaken deletes
          delivered holding env
        have result := closes next taken
        rw [taken] at outcome
        cases outcome with
        | tidy _ _ tidy =>
            exact tidy
        | early _ _ _ _ _ _ closed stillTaken =>
            rcases result with still | back
            · rw [still.connClosed] at closed
              cases closed
            · have never := List.count_eq_zero.mpr stillTaken
              rw [GivenBack, never] at back
              cases back
      · exact (not_delivered_of_deleted rev wev delivered).elim
    · rw [handle_undelivered delivered] at taken
      cases taken
      exact tidy
  · exact tidy_step_others tidy
      (fun event same => isEvent ⟨event, same⟩) taken

/--
From a registered connection on, while `event_del` succeeds, every return of
the handler leaves the connection open or its slot given back once, exactly
when no event of the run stops its requests after its events were deleted.
-/
theorem closesOnce_iff_stopsCleanly
    {ldap slot : Nat}
    {s : Session}
    (registered : Registered ldap s.c)
    (taken : slot ∉ s.p.freeConnections)
    (env : Environment)
    {actions : List SessionAction}
    (deletes : ∀ action ∈ actions, action.Deletes) :
    Along (Session.step env ldap slot) (ClosesOnce env ldap slot) s
        actions ↔
      Along (Session.step env ldap slot) (StopsCleanly ldap) s actions := by
  refine along_congr (Tidy ldap slot) ?_ ?_ (.inl ⟨registered, taken⟩)
    deletes
  · intro state action tidy allowed
    exact closesOnce_iff tidy env allowed
  · intro state action next tidy allowed closes handled
    exact tidy_step tidy allowed closes (step_eq_some.mp handled)

/-- An Unbind does not lose the slot of its client. -/
theorem closesOnce_iff_stopsCleanly_unbind :
    Along (Session.step .still 0 0) (ClosesOnce .still 0 0)
      freshSession
      [arrival 0x30 [0x05, 0x02, 0x01, 0x01, 0x42, 0x00]] := by
  refine (closesOnce_iff_stopsCleanly registered_freshSession
    (by decide) .still (by
      rintro action member
      rw [List.mem_singleton.mp member]
      rfl)).mpr ⟨?_, fun _ _ => trivial⟩
  rintro - held (⟨-, rfl⟩ | ⟨data, never, -⟩) - - stops
  · exact absurd stops (by decide +kernel)
  · cases never

/-- Whether the connection was closed and how often its slot is free. -/
def closedAndFree : Except Abort Session → Option (Bool × Nat)
  | .error _ =>
      none
  | .ok s =>
      some (s.c.connClosed, s.p.freeConnections.count 0)

/--
A client that sends a message without message id and closes at once leaves its
slot closed and taken.
-/
theorem slot_never_given_back :
    ¬ Along (Session.step .still 0 0) (ClosesOnce .still 0 0)
        freshSession
        [readEvent
          [.data 0x30 [0x06, 0x04, 0x04, 0x61, 0x61, 0x61, 0x61],
            .eof]] := by
  rintro ⟨closes, -⟩
  have ends :
      closedAndFree
          (freshSession.handle .still 0 0
            (readEvent
              [.data 0x30 [0x06, 0x04, 0x04, 0x61, 0x61, 0x61, 0x61],
                .eof])) =
        some (true, 0) := by
    decide +kernel
  unfold ClosesOnce at closes
  generalize freshSession.handle .still 0 0 _ = outcome at closes ends
  cases outcome with
  | error failed =>
      cases ends
  | ok next =>
      simp only [closedAndFree, Option.some.injEq, Prod.mk.injEq] at ends
      rcases closes next rfl with still | back
      · rw [still.connClosed] at ends
        cases ends.1
      · rw [GivenBack, ends.2] at back
        cases back

end LdapProxy

import LdapProxy.ConnectionEvents
import LdapProxy.System

namespace LdapProxy

open LdapProxy.Lber
open LdapProxy.Transition

/-!
# One connection over its events

The connection in one slot with everything that happens to it between its
registration and its end: events, replies of MySQL workers and, in between,
whatever the other threads do to the shared data.
-/

/-- A connection and the shared data. -/
structure Session where
  c : Connection
  p : Process

/-- What happens to a connection. -/
inductive SessionAction where
  /-- An event is delivered, when it is added. -/
  | event (event : Event)
  /-- The LDAP worker executes a reply task. -/
  | reply
      (task : Task)
      (fromMysql : task.senderSource = .mysql)
      (send : List Send)
  /-- The other threads leave the shared data like this. -/
  | others (p : Process)

/--
What the LDAP worker `ldap` does for the connection in `slot`.  While the slot
is taken, no other thread gets it or gives it back.
-/
def Session.handle
    (env : Environment)
    (ldap slot : Nat)
    (s : Session) :
    SessionAction → Except Abort Session
  | .event event =>
      if Delivered ldap event s.c then
        match lpLdapIoEventHandler env slot event s.c s.p with
        | .error abort =>
            .error abort
        | .ok (c, p) =>
            .ok ⟨c, p⟩
      else
        .ok s
  | .reply task _ send =>
      match taskProcess ldap task send s.c s.p with
      | .error abort =>
          .error abort
      | .ok (_, c, p) =>
          .ok ⟨c, p⟩
  | .others p =>
      if p.freeConnections.count slot = s.p.freeConnections.count slot then
        .ok { s with p := p }
      else
        .ok s

/-- The state after an action; there is none after a failing assertion. -/
def Session.step
    (env : Environment)
    (ldap slot : Nat)
    (s : Session)
    (action : SessionAction) :
    Option Session :=
  (s.handle env ldap slot action).toOption

/-- A step is taken exactly when the handler returns. -/
theorem step_eq_some
    {env : Environment}
    {ldap slot : Nat}
    {s next : Session}
    {action : SessionAction} :
    s.step env ldap slot action = some next ↔
      s.handle env ldap slot action = .ok next := by
  unfold Session.step
  cases s.handle env ldap slot action with
  | error abort =>
      simp [Except.toOption]
  | ok other =>
      simp [Except.toOption]

/-- The action does not hit a failing assertion. -/
def NoAbort
    (env : Environment)
    (ldap slot : Nat)
    (s : Session)
    (action : SessionAction) :
    Prop :=
  ∀ abort, s.handle env ldap slot action ≠ .error abort

/--
The handler reads for this event: it is added and no timeout, and the
connection is not being closed.
-/
def ReadsNow (ldap : Nat) (event : Event) (c : Connection) : Prop :=
  Delivered ldap event c ∧ c.connClosing = false ∧ event.Reads

/-- A connection that is registered and whose events are added. -/
structure Registered (ldap : Nat) (c : Connection) : Prop where
  listening : c.Listening
  connClosed : c.connClosed = false
  discard : c.discard = true
  wevActive : c.wevActive = true
  rev : c.rev = some ldap
  wev : c.wev = some ldap
  holding : ∃ held, c.Holding held

/-- The control fields decide whether a connection is registered. -/
theorem Registered.of_control
    {ldap : Nat}
    {c next : Connection}
    (registered : Registered ldap c)
    (same : next.control = c.control)
    (holding : ∃ held, next.Holding held) :
    Registered ldap next := by
  obtain ⟨fd, -, -, rev, wev, active, closing, closed, wevActive, -,
    discard, -⟩ := control_fields same
  exact
    { listening :=
        ⟨by rw [fd]; exact registered.listening.fd,
          active.trans registered.listening.connActive,
          closing.trans registered.listening.connClosing⟩
      connClosed := closed.trans registered.connClosed
      discard := discard.trans registered.discard
      wevActive := wevActive.trans registered.wevActive
      rev := rev.trans registered.rev
      wev := wev.trans registered.wev
      holding := holding }

/-- A reply task changes lists, ticks and data at most. -/
theorem handle_reply
    (env : Environment)
    (ldap slot : Nat)
    (s : Session)
    {task : Task}
    (fromMysql : task.senderSource = .mysql)
    (send : List Send) :
    ∃ next,
      s.handle env ldap slot (.reply task fromMysql send) = .ok next ∧
        Kept (s.c, s.p) (next.c, next.p) := by
  obtain ⟨⟨ret, c, p⟩, executed, replied⟩ :=
    taskProcess_replied ldap fromMysql send s.c s.p
  refine ⟨⟨c, p⟩, ?_, ?_⟩
  · simp only [Session.handle, executed]
  · cases replied with
    | refused =>
        exact ⟨rfl, rfl, rfl⟩
    | foreign =>
        exact ⟨rfl, rfl, rfl⟩
    | answered =>
        exact ⟨rfl, rfl, rfl⟩

/-- The other threads keep the connection and whether its slot is free. -/
theorem handle_others
    (env : Environment)
    (ldap slot : Nat)
    (s : Session)
    (p : Process) :
    ∃ next,
      s.handle env ldap slot (.others p) = .ok next ∧
        next.c = s.c ∧
        next.p.freeConnections.count slot =
          s.p.freeConnections.count slot := by
  simp only [Session.handle]
  by_cases same :
      p.freeConnections.count slot = s.p.freeConnections.count slot
  · rw [if_pos same]
    exact ⟨_, rfl, rfl, same⟩
  · rw [if_neg same]
    exact ⟨s, rfl, rfl, rfl⟩

/-- An event that is not added is not handled. -/
theorem handle_undelivered
    {env : Environment}
    {ldap slot : Nat}
    {s : Session}
    {event : Event}
    (undelivered : ¬ Delivered ldap event s.c) :
    s.handle env ldap slot (.event event) = .ok s := by
  simp only [Session.handle]
  rw [if_neg undelivered]

/-- An event that is added is handled. -/
theorem handle_delivered
    {env : Environment}
    {ldap slot : Nat}
    {s : Session}
    {event : Event}
    (delivered : Delivered ldap event s.c) :
    s.handle env ldap slot (.event event) =
      match lpLdapIoEventHandler env slot event s.c s.p with
      | .error abort =>
          .error abort
      | .ok (c, p) =>
          .ok ⟨c, p⟩ := by
  simp only [Session.handle]
  rw [if_pos delivered]

/-- No event is added once both are deleted. -/
theorem not_delivered_of_deleted
    {ldap : Nat}
    {event : Event}
    {c : Connection}
    (rev : c.rev = none)
    (wev : c.wev = none) :
    ¬ Delivered ldap event c := by
  rintro ⟨some, read, write, timeout⟩
  rw [rev] at read timeout
  rw [wev] at write timeout
  cases isRead : event.read with
  | true =>
      cases read isRead
  | false =>
      cases isWrite : event.write with
      | true =>
          cases write isWrite
      | false =>
          rw [isRead, isWrite] at some
          rcases timeout some with never | never
          · cases never
          · cases never

end LdapProxy

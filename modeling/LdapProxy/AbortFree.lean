import LdapProxy.ConnectionRun

namespace LdapProxy

open LdapProxy.Lber
open LdapProxy.Transition

/-!
# Assertions that a client can reach

Two assertions fail on octets that a client sends: `lp_assert` on an operation
tag that `lp_req2op` does not know, and `assert( 0 )` of `ber_get_next` when a
read begins with nine octets of an unfinished header.  No other assertion of
the event handler fails in any run of a registered connection.
-/

/-- Nine octets are held and the header they start is still unfinished. -/
def HeaderStuck (held : List UInt8) : Prop :=
  headerOf held = .more ∧ 9 ≤ held.length

instance (held : List UInt8) : Decidable (HeaderStuck held) :=
  inferInstanceAs (Decidable (_ ∧ _))

/-- Reading the body of a message never gets stuck. -/
theorem frameBody_ne_stuck
    (held : List UInt8)
    (tag header len : Nat)
    (sock : Sock) :
    (frameBody held tag header len sock).1 ≠ .stuck := by
  unfold frameBody
  simp only
  split
  · split <;> simp
  · simp only [readFailed]
    split <;> simp

/-- The machine is stuck exactly when its header is. -/
theorem nextMessage_stuck
    (held : List UInt8)
    (sock : Sock) :
    (nextMessage held sock).1 = .stuck ↔ HeaderStuck held := by
  unfold nextMessage HeaderStuck
  cases parsed : headerOf held with
  | more =>
      by_cases long : 9 ≤ held.length
      · simp [long]
      · simp only [long, if_false, and_false, iff_false]
        split
        · next octets after _ =>
            unfold frameHeader
            split
            · simp
            · simp
            · split
              · simp
              · split
                · simp
                · exact frameBody_ne_stuck _ _ _ _ _
        · simp only [readFailed]
          split <;> simp
  | bad =>
      simp
  | complete tag header len =>
      simp only [frameBody_ne_stuck, reduceCtorEq, false_and]

/-- Nothing is stuck between two messages. -/
theorem not_headerStuck_nil : ¬ HeaderStuck [] := by
  decide

/-- Repeating the machine gets stuck at its first step or never. -/
theorem frameAll_stuck
    (fuel : Nat)
    (held : List UInt8)
    (sock : Sock) :
    (frameAll fuel held sock).ending = .stuck ↔ HeaderStuck held := by
  induction fuel generalizing held sock with
  | zero =>
      have first := nextMessage_stuck held sock
      unfold frameAll
      generalize nextMessage held sock = framed at first ⊢
      obtain ⟨result, after⟩ := framed
      rw [← first]
      cases result with
      | message tag contents =>
          simp only [reduceCtorEq, iff_false]
          split <;> simp
      | _ =>
          simp
  | succ fuel inductionHypothesis =>
      have first := nextMessage_stuck held sock
      unfold frameAll
      generalize nextMessage held sock = framed at first ⊢
      obtain ⟨result, after⟩ := framed
      rw [← first]
      cases result with
      | message tag contents =>
          have later := inductionHypothesis [] after
          simp only [reduceCtorEq, iff_false]
          split
          · simp only [Frames.push]
            rw [later]
            exact not_headerStuck_nil
          · simp
      | _ =>
          simp

/-- A read event is stuck exactly when it begins with a stuck header. -/
theorem frames_stuck
    (event : Event)
    (held : List UInt8) :
    (event.frames held).ending = .stuck ↔ HeaderStuck held :=
  frameAll_stuck _ held _

/--
When the handler reads, it does not begin with nine octets of an unfinished
header, and `lp_req2op` knows every operation it reaches.
-/
def Admissible (ldap : Nat) (s : Session) : SessionAction → Prop
  | .event event =>
      ReadsNow ldap event s.c →
        ∀ held,
          s.c.Holding held →
          ¬ HeaderStuck held ∧ ¬ HasUnknownOp (event.batch held s.c)
  | _ =>
      True

/--
A connection that may still get events is ready for them, or it ignores them
because it is being closed.
-/
structure Ready (c : Connection) : Prop where
  fd : c.fd ≠ 0
  connActive : c.connActive = true
  discard : c.discard = true
  open' :
    c.connClosing = false →
      c.connClosed = false ∧ ∃ held, c.Holding held

/-- The connection is ready, or no event is added any more. -/
def Calm (s : Session) : Prop :=
  Ready s.c ∨ s.c.rev = none ∧ s.c.wev = none

/-- Control and received octets decide whether a connection is ready. -/
theorem Ready.of_kept
    {c next : Connection}
    (ready : Ready c)
    (control : next.control = c.control)
    (curData : next.curData = c.curData) :
    Ready next := by
  obtain ⟨fd, -, -, -, -, active, closing, closed, -, -, discard, -⟩ :=
    control_fields control
  refine ⟨by rw [fd]; exact ready.fd, active.trans ready.connActive,
    discard.trans ready.discard, ?_⟩
  intro notClosing
  rw [closing] at notClosing
  obtain ⟨notClosed, holding⟩ := ready.open' notClosing
  exact ⟨closed.trans notClosed, holding_of_curData holding curData⟩

/-- What a ready connection holds, as long as it reads. -/
theorem Ready.held
    {c : Connection}
    (ready : Ready c) :
    ∃ held, c.connClosing = false → c.Holding held := by
  cases closing : c.connClosing with
  | true =>
      exact ⟨[], fun never => by cases never⟩
  | false =>
      obtain ⟨held, holding⟩ := (ready.open' closing).2
      exact ⟨held, fun _ => holding⟩

/-- What is kept stays calm. -/
theorem Calm.of_kept
    {s next : Session}
    (calm : Calm s)
    (kept : Kept (s.c, s.p) (next.c, next.p)) :
    Calm next := by
  rcases calm with ready | ⟨rev, wev⟩
  · exact .inl (ready.of_kept kept.control kept.curData)
  · obtain ⟨-, -, -, sameRev, sameWev, -⟩ := control_fields kept.control
    exact .inr ⟨sameRev.trans rev, sameWev.trans wev⟩

/-- Work on a listening connection leaves it ready. -/
theorem After.ready
    {env : Environment}
    {slot : Nat}
    {reached : BerElement → Prop}
    {del : EventDel}
    {c : Connection}
    {p : Process}
    {ended : Prop}
    {next : Connection × Process}
    (after : After env slot reached del (c, p) ended next)
    (ready : Ready c)
    (open' : c.connClosing = false) :
    Ready next.1 := by
  by_cases hasEnded : ended
  · obtain ⟨rev, wev, closed, same⟩ := ioUnregister_fields del c
    have control := after.closed hasEnded
    simp only [same] at control
    obtain ⟨fd, -, -, -, -, active, closing, -, -, -, discard, -⟩ :=
      control_fields control
    refine ⟨by rw [fd]; exact ready.fd, active.trans ready.connActive,
      discard.trans ready.discard, ?_⟩
    intro notClosing
    rw [closing] at notClosing
    cases notClosing
  · obtain ⟨fd, -, -, -, -, active, closing, closed, -, -, discard, -⟩ :=
      control_fields (after.open' hasEnded)
    exact ⟨by rw [fd]; exact ready.fd, active.trans ready.connActive,
      discard.trans ready.discard,
      fun _ => ⟨closed.trans (ready.open' open').1, after.holding⟩⟩

/-- Closing a ready connection ends its events or leaves it ready. -/
theorem Ready.closeConnection
    {c : Connection}
    (ready : Ready c)
    (slot : Nat)
    (p : Process) :
    ∃ next,
      closeConnection slot c p = .ok (next.c, next.p) ∧ Calm next := by
  cases closed : c.connClosed with
  | true =>
      obtain ⟨datas, done⟩ :=
        closeConnection_closed slot closed ready.discard p
      exact ⟨⟨_, _⟩, done, .inr ⟨rfl, rfl⟩⟩
  | false =>
      exact ⟨⟨c, p⟩, closeConnection_open slot closed p, .inl ready⟩

/-- A connection that is being closed ignores its events. -/
theorem handler_closing
    {c : Connection}
    (ready : Ready c)
    (closing : c.connClosing = true)
    (env : Environment)
    (slot : Nat)
    (event : Event)
    (p : Process) :
    lpLdapIoEventHandler env slot event c p = .ok (c, p) := by
  unfold lpLdapIoEventHandler
  rw [if_neg ready.fd, if_pos closing]

/--
The handler of a ready connection that holds `held` aborts, or it leaves a calm
state.
-/
inductive EventOutcome
    (ldap : Nat)
    (event : Event)
    (s : Session)
    (held : List UInt8) :
    Except Abort Session → Prop where
  | abort (failed : Abort) :
      ReadsNow ldap event s.c →
      HeaderStuck held ∨ HasUnknownOp (event.batch held s.c) →
      EventOutcome ldap event s held (.error failed)
  | calm (next : Session) :
      (ReadsNow ldap event s.c →
        ¬ HeaderStuck held ∧ ¬ HasUnknownOp (event.batch held s.c)) →
      Calm next →
      EventOutcome ldap event s held (.ok next)

/-- What a delivered event does to a ready connection. -/
theorem handle_event_outcome
    {s : Session}
    (ready : Ready s.c)
    {ldap : Nat}
    {event : Event}
    (delivered : Delivered ldap event s.c)
    {held : List UInt8}
    (holding : s.c.connClosing = false → s.c.Holding held)
    (env : Environment)
    (slot : Nat) :
    EventOutcome ldap event s held
      (s.handle env ldap slot (.event event)) := by
  rw [handle_delivered delivered]
  cases closing : s.c.connClosing with
  | true =>
      rw [handler_closing ready closing]
      refine .calm _ ?_ (.inl ready)
      rintro ⟨-, open', -⟩
      rw [closing] at open'
      cases open'
  | false =>
      have listening : s.c.Listening :=
        ⟨ready.fd, ready.connActive, closing⟩
      have handled :=
        handler_spec listening (holding closing) env slot event s.p
      generalize lpLdapIoEventHandler env slot event s.c s.p = outcome
        at handled ⊢
      cases handled with
      | stuck reads ending =>
          exact .abort _ ⟨delivered, closing, reads⟩
            (.inl ((frames_stuck event held).mp ending))
      | unknown reads notStuck unknown =>
          exact .abort _ ⟨delivered, closing, reads⟩ (.inr unknown)
      | early next reads notStuck noUnknown stops after =>
          refine .calm _ (fun _ => ⟨?_, noUnknown⟩)
            (.inl (after.ready ready closing))
          exact fun stuck => notStuck ((frames_stuck event held).mpr stuck)
      | finished ended next passed after =>
          obtain ⟨last, closed, calm⟩ :=
            (after.ready ready closing).closeConnection slot next.2
          rw [closed]
          refine .calm last ?_ calm
          intro readsNow
          obtain ⟨notStuck, noUnknown, -⟩ := passed readsNow.2.2
          exact
            ⟨fun stuck => notStuck ((frames_stuck event held).mpr stuck),
              noUnknown⟩

/-- From a calm state an event aborts exactly when it is not admissible. -/
theorem event_noAbort_iff
    {s : Session}
    (calm : Calm s)
    (env : Environment)
    (ldap slot : Nat)
    (event : Event) :
    NoAbort env ldap slot s (.event event) ↔
      Admissible ldap s (.event event) := by
  by_cases delivered : Delivered ldap event s.c
  · have ready : Ready s.c := by
      rcases calm with ready | ⟨rev, wev⟩
      · exact ready
      · exact (not_delivered_of_deleted rev wev delivered).elim
    constructor
    · intro noAbort readsNow held holding
      have outcome := handle_event_outcome ready delivered
        (fun _ => holding) env slot
      unfold NoAbort at noAbort
      generalize s.handle env ldap slot (.event event) = result
        at noAbort outcome
      cases outcome with
      | abort failed _ _ =>
          exact (noAbort failed rfl).elim
      | calm next passed _ =>
          exact passed readsNow
    · intro admissible abort aborted
      obtain ⟨held, holding⟩ := ready.held
      have outcome := handle_event_outcome ready delivered holding env slot
      rw [aborted] at outcome
      cases outcome with
      | abort _ readsNow reason =>
          obtain ⟨notStuck, noUnknown⟩ :=
            admissible readsNow held (holding readsNow.2.1)
          rcases reason with stuck | unknown
          · exact notStuck stuck
          · exact noUnknown unknown
  · constructor
    · exact fun _ readsNow => (delivered readsNow.1).elim
    · intro _ abort aborted
      rw [handle_undelivered delivered] at aborted
      cases aborted

/-- From a calm state an action aborts exactly when it is not admissible. -/
theorem noAbort_iff
    {s : Session}
    (calm : Calm s)
    (env : Environment)
    (ldap slot : Nat)
    (action : SessionAction) :
    NoAbort env ldap slot s action ↔ Admissible ldap s action := by
  cases action with
  | event event =>
      exact event_noAbort_iff calm env ldap slot event
  | reply task fromMysql send =>
      obtain ⟨next, handled, -⟩ :=
        handle_reply env ldap slot s fromMysql send
      refine iff_of_true ?_ trivial
      intro abort aborted
      rw [handled] at aborted
      cases aborted
  | others p =>
      obtain ⟨next, handled, -⟩ := handle_others env ldap slot s p
      refine iff_of_true ?_ trivial
      intro abort aborted
      rw [handled] at aborted
      cases aborted

/-- Every action that does not abort leaves a calm state. -/
theorem calm_step
    {s next : Session}
    (calm : Calm s)
    {env : Environment}
    {ldap slot : Nat}
    {action : SessionAction}
    (taken : s.handle env ldap slot action = .ok next) :
    Calm next := by
  cases action with
  | event event =>
      by_cases delivered : Delivered ldap event s.c
      · rcases calm with ready | ⟨rev, wev⟩
        · obtain ⟨held, holding⟩ := ready.held
          have outcome :=
            handle_event_outcome ready delivered holding env slot
          rw [taken] at outcome
          cases outcome with
          | calm _ _ calm =>
              exact calm
        · exact (not_delivered_of_deleted rev wev delivered).elim
      · rw [handle_undelivered delivered] at taken
        cases taken
        exact calm
  | reply task fromMysql send =>
      obtain ⟨other, handled, kept⟩ :=
        handle_reply env ldap slot s fromMysql send
      cases handled.symm.trans taken
      exact calm.of_kept kept
  | others p =>
      obtain ⟨other, handled, same, -⟩ := handle_others env ldap slot s p
      cases handled.symm.trans taken
      unfold Calm at calm ⊢
      rw [same]
      exact calm

/-- A registered connection is calm. -/
theorem Registered.calm
    {ldap : Nat}
    {s : Session}
    (registered : Registered ldap s.c) :
    Calm s :=
  .inl
    { fd := registered.listening.fd
      connActive := registered.listening.connActive
      discard := registered.discard
      open' := fun _ => ⟨registered.connClosed, registered.holding⟩ }

/--
From a registered connection on, no assertion fails in a run exactly when no
read of the run begins with a stuck header and no operation that it reaches has
an unknown tag.
-/
theorem abortFree_iff_admissible
    {ldap : Nat}
    {s : Session}
    (registered : Registered ldap s.c)
    (env : Environment)
    (slot : Nat)
    (actions : List SessionAction) :
    Along (Session.step env ldap slot) (NoAbort env ldap slot) s actions ↔
      Along (Session.step env ldap slot) (Admissible ldap) s actions :=
  along_congr Calm
    (fun calm _ => noAbort_iff calm env ldap slot _)
    (fun calm _ _ taken => calm_step calm (step_eq_some.mp taken))
    registered.calm (fun _ _ => trivial)

/-- A registered connection before its first event. -/
def freshSession : Session where
  c :=
    { Connection.initial 0 with
      fd := 5
      sb := true
      rev := some 0
      wev := some 0
      connActive := true
      wevActive := true
      ldap := some 0
      discard := true
      incarnation := 1 }
  p :=
    { Process.initial .still with
      freeConnections := []
      freeConnectionsN := 0
      connectionsN := 1 }

theorem registered_freshSession : Registered 0 freshSession.c where
  listening := ⟨by decide, rfl, rfl⟩
  connClosed := rfl
  discard := rfl
  wevActive := rfl
  rev := rfl
  wev := rfl
  holding := ⟨[], .inl ⟨rfl, rfl⟩⟩

/-- A read event that finds this on the socket. -/
def readEvent (recv : List Recv) : SessionAction :=
  .event
    { read := true
      write := false
      timeout := false
      recv := recv
      send := []
      del := .succeed }

/-- A read event for which these octets have arrived. -/
def arrival (first : UInt8) (rest : List UInt8) : SessionAction :=
  readEvent [.data first rest]

/-- A bind request is handled without a failing assertion. -/
theorem abortFree_iff_admissible_bind :
    Along (Session.step .still 0 0) (NoAbort .still 0 0) freshSession
      [arrival 0x30 [0x05, 0x02, 0x01, 0x01, 0x60, 0x00]] := by
  refine (abortFree_iff_admissible registered_freshSession .still 0
    _).mpr ⟨?_, fun _ _ => trivial⟩
  rintro - held (⟨-, rfl⟩ | ⟨data, never, -⟩)
  · decide +kernel
  · cases never

/-- The assertion that fails in a handler. -/
def failedAssertion : Except Abort Session → Option Abort
  | .error abort =>
      some abort
  | .ok _ =>
      none

/-- A run that ends with a failing assertion. -/
theorem not_along_of_abort
    {env : Environment}
    {ldap slot : Nat}
    {s : Session}
    {start : List SessionAction}
    {action : SessionAction}
    {abort : Abort}
    (ends :
      (exec (Session.step env ldap slot) s start).map
          (fun last => failedAssertion (last.handle env ldap slot action)) =
        some (some abort)) :
    ¬ Along (Session.step env ldap slot) (NoAbort env ldap slot) s
        (start ++ [action]) := by
  intro noAbort
  obtain ⟨last, accepted, failed⟩ := Option.map_eq_some_iff.mp ends
  have here := noAbort.last accepted
  cases handled : last.handle env ldap slot action with
  | error other =>
      exact here other handled
  | ok next =>
      rw [handled] at failed
      cases failed

/--
A message with the tag of a bind response, and nine octets of a header with an
eight-octet tag, each abort the daemon.
-/
theorem client_aborts_daemon :
    (¬ Along (Session.step .still 0 0) (NoAbort .still 0 0)
        freshSession
        [arrival 0x30 [0x05, 0x02, 0x01, 0x01, 0x61, 0x00]]) ∧
      ¬ Along (Session.step .still 0 0) (NoAbort .still 0 0)
          freshSession
          [arrival 0x1f [0x81, 0x81, 0x81, 0x81, 0x81, 0x81, 0x01],
            arrival 0x84 [], arrival 0x00 []] := by
  refine ⟨?_, ?_⟩
  · have ends :
        (exec (Session.step .still 0 0) freshSession []).map
            (fun last => failedAssertion (last.handle .still 0 0
              (arrival 0x30 [0x05, 0x02, 0x01, 0x01, 0x61, 0x00]))) =
          some (some .opLast) := by
      decide +kernel
    exact not_along_of_abort ends
  · have ends :
        (exec (Session.step .still 0 0) freshSession
            [arrival 0x1f [0x81, 0x81, 0x81, 0x81, 0x81, 0x81, 0x01],
              arrival 0x84 []]).map
            (fun last => failedAssertion
              (last.handle .still 0 0 (arrival 0x00 []))) =
          some (some .messedUp) := by
      decide +kernel
    exact not_along_of_abort ends

end LdapProxy

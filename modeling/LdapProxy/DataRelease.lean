import LdapProxy.EventOutcome
import LdapProxy.SystemSteps
import LdapProxy.TransitionRun

namespace LdapProxy

open LdapProxy.Ledger
open LdapProxy.Lber
open LdapProxy.Transition

/-!
# What a close releases

One tenancy of a connection slot, from its registration to the close, with
everything that happens to the connection and with whatever the other threads
do in between.  When `lp_free_connection` gives the slot back, every
`ldap_data_t` that was created for the connection should have been destroyed.
-/

/--
A connection and the shared data.  Three history variables are kept: the
elements that were created for the connection, the octets of an unfinished
message, and whether every request so far was completed.
-/
structure Tenancy where
  c : Connection
  p : Process
  created : List Nat
  held : List UInt8
  completed : Bool

/-- What happens to a connection. -/
inductive TenancyAction where
  /-- An event is delivered, when it is added. -/
  | event (event : Event)
  /-- An LDAP worker executes a task of the connection. -/
  | task (worker : Nat) (task : Task) (send : List Send)
  /-- The other threads leave the shared data like this. -/
  | others (p : Process)

namespace Tenancy

/--
The other threads neither take the slot nor give it back, they destroy none of
the elements of the connection, and what they destroy was created.
-/
def Respects (slot : Nat) (s : Tenancy) (p : Process) : Prop :=
  p.freeConnections.count slot = s.p.freeConnections.count slot ∧
    s.p.datas.next ≤ p.datas.next ∧
    (∀ id ∈ p.datas.released, id < p.datas.next) ∧
    ∀ id ∈ s.created,
      p.datas.released.count id = s.p.datas.released.count id

instance (slot : Nat) (s : Tenancy) (p : Process) :
    Decidable (s.Respects slot p) :=
  inferInstanceAs (Decidable (_ ∧ _ ∧ _ ∧ _))

/-- The state after the connection and the shared data have become these. -/
def become (s : Tenancy) (c : Connection) (p : Process) : Tenancy :=
  { s with
    c := c
    p := p
    created := s.created ++ fresh s.p.datas p.datas }

/-- One action; there is no state after a failing assertion. -/
def step (env : Environment) (ldap slot : Nat) (s : Tenancy) :
    TenancyAction → Option Tenancy
  | .event event =>
      if Delivered ldap event s.c then
        match lpLdapIoEventHandler env slot event s.c s.p with
        | .error _ =>
            none
        | .ok (c, p) =>
            some
              { s.become c p with
                held := event.heldAfter s.held s.c
                completed :=
                  s.completed &&
                    decide
                      (∀ ber ∈ event.processed s.held s.c, Completed ber) }
      else
        some s
  | .task worker task send =>
      match taskProcess worker task send s.c s.p with
      | .error _ =>
          none
      | .ok (_, c, p) =>
          some (s.become c p)
  | .others p =>
      if s.Respects slot p then some { s with p := p } else none

/--
If the action gives the slot back, every element that was created for the
connection has been destroyed exactly once.
-/
def ReleasesAll
    (env : Environment)
    (ldap slot : Nat)
    (s : Tenancy)
    (action : TenancyAction) :
    Prop :=
  ∀ next,
    s.step env ldap slot action = some next →
    next.p.freeConnections = slot :: s.p.freeConnections →
    ∀ id ∈ next.created, next.p.datas.released.count id = 1

/-- The handler lets the event through and no assertion fails. -/
structure Passes (ldap : Nat) (event : Event) (s : Tenancy) : Prop where
  delivered : Delivered ldap event s.c
  fd : s.c.fd ≠ 0
  connClosing : s.c.connClosing = false
  reads :
    event.ReadsFrom s.c →
      (event.frames s.held).ending ≠ .stuck ∧
        ¬ HasUnknownOp (event.batch s.held s.c)

/--
An event that closes the connection leaves no message half read, and all
requests of the connection were completed.
-/
def ClosesEmpty (ldap : Nat) (s : Tenancy) : TenancyAction → Prop
  | .event event =>
      s.Passes ldap event →
      event.Closes s.held s.c →
      s.completed = true ∧
        (∀ ber ∈ event.processed s.held s.c, Completed ber) ∧
        event.Empties s.held s.c
  | _ =>
      True

/-- What holds of a tenancy before and after every action. -/
structure Sound (s : Tenancy) : Prop where
  live :
    s.c.fd ≠ 0 →
      s.c.discard = true ∧
        (s.c.connClosed = true → s.c.connClosing = true) ∧
        s.c.Holding s.held
  share :
    ∃ lost,
      Shared s.p.datas s.created s.c.owned lost ∧
        (s.c.fd ≠ 0 → (lost = 0 ↔ s.completed = true))

variable {env : Environment}
variable {ldap slot : Nat}
variable {s next : Tenancy}

/-- An event that is let through by the handler. -/
theorem step_event
    {event : Event}
    (delivered : Delivered ldap event s.c)
    {last : Connection × Process}
    (handled : lpLdapIoEventHandler env slot event s.c s.p = .ok last) :
    s.step env ldap slot (.event event) =
      some
        { s.become last.1 last.2 with
          held := event.heldAfter s.held s.c
          completed :=
            s.completed &&
              decide (∀ ber ∈ event.processed s.held s.c, Completed ber) } := by
  simp only [step, handled]
  rw [if_pos delivered]

/-- The elements of a batch are those of its requests. -/
theorem completed_requests
    {requests : List (LdapData BerElement)}
    {batch : List BerElement}
    (processed : requests.map LdapData.ber = batch) :
    (forgottenIds requests : Multiset Nat) = 0 ↔
      ∀ ber ∈ batch, Completed ber := by
  rw [← processed, Multiset.coe_eq_zero, forgottenIds_eq_nil]
  exact List.forall_mem_map.symm

/-- What an event that the handler lets through does to the share. -/
structure EventShare
    (slot : Nat)
    (event : Event)
    (s : Tenancy)
    (lost : Multiset Nat)
    (last : Connection × Process) :
    Prop where
  done : EventDone slot event s.held (s.c, s.p) last
  share :
    ∃ lostNow,
      Shared last.2.datas (s.become last.1 last.2).created last.1.owned
          lostNow ∧
        (lostNow = 0 ↔
          lost = 0 ∧
            (∀ ber ∈ event.processed s.held s.c, Completed ber) ∧
            (event.Closes s.held s.c → event.Empties s.held s.c))

/-- What the handler has done goes to the share. -/
theorem eventShare_of_done
    {event : Event}
    {lost : Multiset Nat}
    {last : Connection × Process}
    (shared : Shared s.p.datas s.created s.c.owned lost)
    (done : EventDone slot event s.held (s.c, s.p) last) :
    EventShare slot event s lost last where
  done := done
  share := by
    obtain ⟨requests, unread, processed, empties, moves⟩ := done.moves
    refine ⟨_, shared.passed moves, ?_⟩
    rw [← empties, ← completed_requests processed]
    simp only [add_eq_zero]

/-- A connection that is being closed stays as it is. -/
theorem step_closing
    {event : Event}
    (delivered : Delivered ldap event s.c)
    (fd : s.c.fd ≠ 0)
    (closing : s.c.connClosing = true) :
    s.step env ldap slot (.event event) = some s := by
  have handled :
      lpLdapIoEventHandler env slot event s.c s.p = .ok (s.c, s.p) := by
    unfold lpLdapIoEventHandler
    rw [if_neg fd, if_pos closing]
  have idle : ¬ event.ReadsFrom s.c := by
    intro reads
    rw [reads.2.2] at closing
    cases closing
  rw [step_event delivered handled]
  unfold become Event.heldAfter Event.processed fresh
  simp only [idle, if_false, Nat.sub_self, List.range'_zero,
    List.append_nil, List.not_mem_nil, false_imp_iff, implies_true,
    decide_true, Bool.and_true]

/-- What an action can do. -/
inductive Stepped (env : Environment) (ldap slot : Nat) (s : Tenancy) :
    TenancyAction → Tenancy → Prop where
  /-- The event is not delivered, or the connection is being closed. -/
  | ignored (event : Event) :
      Stepped env ldap slot s (.event event) s
  | handled (event : Event) (last : Connection × Process) :
      Delivered ldap event s.c →
      s.c.fd ≠ 0 →
      s.c.connClosing = false →
      lpLdapIoEventHandler env slot event s.c s.p = .ok last →
      Stepped env ldap slot s (.event event)
        { s.become last.1 last.2 with
          held := event.heldAfter s.held s.c
          completed :=
            s.completed &&
              decide (∀ ber ∈ event.processed s.held s.c, Completed ber) }
  | task
      (worker : Nat)
      (task : Task)
      (send : List Send)
      (ret : Int)
      (c : Connection)
      (p : Process) :
      taskProcess worker task send s.c s.p = .ok (ret, c, p) →
      Stepped env ldap slot s (.task worker task send) (s.become c p)
  | others (p : Process) :
      s.Respects slot p →
      Stepped env ldap slot s (.others p) { s with p := p }

/-- Every step is one of them. -/
theorem step_stepped
    {action : TenancyAction}
    (taken : s.step env ldap slot action = some next) :
    Stepped env ldap slot s action next := by
  cases action with
  | event event =>
      by_cases delivered : Delivered ldap event s.c
      · cases handled : lpLdapIoEventHandler env slot event s.c s.p with
        | error abort =>
            simp only [step, handled] at taken
            rw [if_pos delivered] at taken
            cases taken
        | ok last =>
            have fd : s.c.fd ≠ 0 := by
              intro noFd
              unfold lpLdapIoEventHandler at handled
              rw [if_pos noFd] at handled
              cases handled
            cases closing : s.c.connClosing with
            | true =>
                rw [step_closing delivered fd closing] at taken
                cases taken
                exact .ignored event
            | false =>
                rw [step_event delivered handled] at taken
                cases taken
                exact .handled event last delivered fd closing handled
      · simp only [step] at taken
        rw [if_neg delivered] at taken
        cases taken
        exact .ignored event
  | task worker task send =>
      simp only [step] at taken
      cases executed : taskProcess worker task send s.c s.p with
      | error abort =>
          rw [executed] at taken
          cases taken
      | ok result =>
          obtain ⟨ret, c, p⟩ := result
          rw [executed] at taken
          cases taken
          exact .task worker task send ret c p executed
  | others p =>
      simp only [step] at taken
      by_cases respects : s.Respects slot p
      · rw [if_pos respects] at taken
        cases taken
        exact .others p respects
      · rw [if_neg respects] at taken
        cases taken

/-- A connection that is not being closed is open. -/
theorem Sound.isOpen
    (sound : s.Sound)
    (fd : s.c.fd ≠ 0)
    (closing : s.c.connClosing = false) :
    s.c.connClosed = false := by
  by_contra closed
  have nowClosing :=
    (sound.live fd).2.1 (Bool.eq_true_of_not_eq_false closed)
  rw [closing] at nowClosing
  cases nowClosing

/-- What the handler has done with an event that it lets through. -/
theorem Sound.event_done
    (sound : s.Sound)
    {event : Event}
    (fd : s.c.fd ≠ 0)
    (closing : s.c.connClosing = false)
    {last : Connection × Process}
    (handled : lpLdapIoEventHandler env slot event s.c s.p = .ok last) :
    EventDone slot event s.held (s.c, s.p) last := by
  obtain ⟨callback, -, holding⟩ := sound.live fd
  exact handler_done holding closing (sound.isOpen fd closing) callback
    handled

/-- An event that the handler lets through leaves a tenancy sound. -/
theorem Sound.event
    (sound : s.Sound)
    {event : Event}
    {last : Connection × Process}
    (fd : s.c.fd ≠ 0)
    (done : EventDone slot event s.held (s.c, s.p) last) :
    Sound
      { s.become last.1 last.2 with
        held := event.heldAfter s.held s.c
        completed :=
          s.completed &&
            decide (∀ ber ∈ event.processed s.held s.c, Completed ber) } := by
  obtain ⟨lost, shared, lostIff⟩ := sound.share
  obtain ⟨lostNow, sharedNow, nowIff⟩ :=
    (eventShare_of_done shared done).share
  constructor
  · intro stillFd
    have notClosed : ¬ event.Closes s.held s.c :=
      fun closes => stillFd (done.closed closes).1
    obtain ⟨holding, flags, -, discard, -⟩ := done.kept notClosed
    exact ⟨discard.trans (sound.live fd).1, flags, holding⟩
  · refine ⟨lostNow, sharedNow, ?_⟩
    intro stillFd
    have notClosed : ¬ event.Closes s.held s.c :=
      fun closes => stillFd (done.closed closes).1
    rw [nowIff, lostIff fd]
    simp [notClosed]

/-- A task leaves a tenancy sound. -/
theorem Sound.task
    (sound : s.Sound)
    {worker : Nat}
    {task : Task}
    {send : List Send}
    {ret : Int}
    {c : Connection}
    {p : Process}
    (executed : taskProcess worker task send s.c s.p = .ok (ret, c, p)) :
    (s.become c p).Sound := by
  obtain ⟨fd, discard, closing, closed, curData, -⟩ :=
    taskProcess_keeps executed
  obtain ⟨lost, shared, lostIff⟩ := sound.share
  have sharedNow := shared.passed (taskProcess_moves executed)
  rw [add_zero] at sharedNow
  constructor
  · intro stillFd
    obtain ⟨callback, flags, holding⟩ :=
      sound.live (by rw [← fd]; exact stillFd)
    refine ⟨discard.trans callback, ?_, ?_⟩
    · intro isClosed
      exact closing.trans (flags (closed.symm.trans isClosed))
    · have sameData : (s.become c p).c.curData = s.c.curData := curData
      unfold Connection.Holding
      rw [sameData]
      exact holding
  · exact
      ⟨lost, sharedNow, fun stillFd => lostIff (by rw [← fd]; exact stillFd)⟩

/-- Every action leaves a tenancy sound. -/
theorem Sound.step
    (sound : s.Sound)
    {action : TenancyAction}
    (taken : s.step env ldap slot action = some next) :
    next.Sound := by
  cases step_stepped taken with
  | ignored event =>
      exact sound
  | handled event last delivered fd closing handled =>
      exact sound.event fd (sound.event_done fd closing handled)
  | task worker task send ret c p executed =>
      exact sound.task executed
  | others p respects =>
      obtain ⟨-, grows, released, alone⟩ := respects
      obtain ⟨lost, shared, lostIff⟩ := sound.share
      exact
        { live := sound.live
          share := ⟨lost, shared.others grows released alone, lostIff⟩ }

/-- A handler that returns has read without a failing assertion. -/
theorem Sound.passes
    (sound : s.Sound)
    {event : Event}
    (delivered : Delivered ldap event s.c)
    (fd : s.c.fd ≠ 0)
    (closing : s.c.connClosing = false)
    {last : Connection × Process}
    (handled : lpLdapIoEventHandler env slot event s.c s.p = .ok last) :
    s.Passes ldap event := by
  refine ⟨delivered, fd, closing, ?_⟩
  intro reads
  obtain ⟨-, -, holding⟩ := sound.live fd
  have spec :=
    handler_spec ⟨fd, reads.2.1, closing⟩ holding env slot event s.p
  rw [handled] at spec
  generalize outcome : Except.ok last = result at spec
  cases spec with
  | stuck _ _ =>
      cases outcome
  | unknown _ _ _ =>
      cases outcome
  | early _ _ notStuck noUnknown _ _ =>
      exact ⟨notStuck, noUnknown⟩
  | finished _ _ passed _ =>
      obtain ⟨notStuck, noUnknown, -⟩ := passed reads.1
      exact ⟨notStuck, noUnknown⟩

/-- An event that closes releases everything exactly when it closes empty. -/
theorem EventShare.releases_iff
    {event : Event}
    {lost : Multiset Nat}
    {last : Connection × Process}
    (share : EventShare slot event s lost last)
    (lostIff : lost = 0 ↔ s.completed = true)
    (closes : event.Closes s.held s.c) :
    (∀ id ∈ (s.become last.1 last.2).created,
        last.2.datas.released.count id = 1) ↔
      s.completed = true ∧
        (∀ ber ∈ event.processed s.held s.c, Completed ber) ∧
        event.Empties s.held s.c := by
  obtain ⟨lostNow, shared, nowIff⟩ := share.share
  rw [(share.done.closed closes).2.1] at shared
  rw [shared.released_once_iff, nowIff, lostIff]
  simp only [closes, true_imp_iff]

/-- A closing event that releases everything closes empty. -/
theorem closesEmpty_of_releasesAll
    (sound : s.Sound)
    {action : TenancyAction}
    (releases : s.ReleasesAll env ldap slot action) :
    s.ClosesEmpty ldap action := by
  cases action with
  | event event =>
      intro passes closes
      obtain ⟨callback, -, holding⟩ := sound.live passes.fd
      obtain ⟨lost, shared, lostIff⟩ := sound.share
      obtain ⟨last, handled⟩ :=
        handler_returns holding passes.fd passes.connClosing
          (sound.isOpen passes.fd passes.connClosing) callback passes.reads
          closes env slot s.p
      have done := sound.event_done passes.fd passes.connClosing handled
      have released :=
        releases _ (step_event passes.delivered handled)
          (done.closed closes).2.2
      exact ((eventShare_of_done shared done).releases_iff
        (lostIff passes.fd) closes).mp released
  | task worker task send =>
      trivial
  | others p =>
      trivial

/-- An action that closes empty releases everything. -/
theorem releasesAll_of_closesEmpty
    (sound : s.Sound)
    {action : TenancyAction}
    (empty : s.ClosesEmpty ldap action) :
    s.ReleasesAll env ldap slot action := by
  intro next taken freed
  cases step_stepped taken with
  | ignored event =>
      exact absurd freed List.ne_cons_self
  | handled event last delivered fd closing handled =>
      have done := sound.event_done fd closing handled
      have closes : event.Closes s.held s.c := by
        by_contra notClosed
        have kept := (done.kept notClosed).2.2.2.2
        exact List.ne_cons_self (kept.symm.trans freed)
      obtain ⟨lost, shared, lostIff⟩ := sound.share
      exact ((eventShare_of_done shared done).releases_iff (lostIff fd)
        closes).mpr
          (empty (sound.passes delivered fd closing handled) closes)
  | task worker task send ret c p executed =>
      obtain ⟨-, -, -, -, -, free⟩ := taskProcess_keeps executed
      exact absurd (free.symm.trans freed) List.ne_cons_self
  | others p respects =>
      have count := respects.1
      have back : p.freeConnections = slot :: s.p.freeConnections := freed
      rw [back, List.count_cons_self] at count
      exact absurd count (Nat.succ_ne_self _)

/-- A connection as `lp_ldap_io_register` leaves it, without any element. -/
structure Unused (c : Connection) : Prop where
  curData : c.curData = none
  reqList : c.reqList = []
  rplList : c.rplList = []
  connClosing : c.connClosing = false
  connClosed : c.connClosed = false
  discard : c.discard = true

/-- A tenancy before anything was created for the connection. -/
def start (c : Connection) (p : Process) : Tenancy where
  c := c
  p := p
  created := []
  held := []
  completed := true

/-- A tenancy starts soundly. -/
theorem start_sound
    {c : Connection}
    {p : Process}
    (unused : Unused c)
    (released : ∀ id ∈ p.datas.released, id < p.datas.next) :
    (start c p).Sound where
  live := by
    intro _
    refine ⟨unused.discard, ?_, .inl ⟨unused.curData, rfl⟩⟩
    intro closed
    exact absurd (unused.connClosed.symm.trans closed) Bool.false_ne_true
  share := by
    have nothing : (start c p).c.owned = 0 := by
      unfold start
      rw [owned_idle unused.curData]
      unfold Connection.listed
      rw [unused.reqList, unused.rplList]
      rfl
    refine ⟨0, ?_, fun _ => iff_of_true rfl rfl⟩
    rw [nothing]
    exact shared_nothing released

/--
From the registration on, every close destroys every element of the connection
exactly once, exactly when every event that closes leaves no message half read
and all requests of the connection were completed.
-/
theorem closes_release_iff
    {c : Connection}
    {p : Process}
    (unused : Unused c)
    (released : ∀ id ∈ p.datas.released, id < p.datas.next)
    (env : Environment)
    (ldap slot : Nat)
    (actions : List TenancyAction) :
    Along (step env ldap slot) (ReleasesAll env ldap slot) (start c p)
        actions ↔
      Along (step env ldap slot) (ClosesEmpty ldap) (start c p) actions :=
  @along_congr _ _ _ Sound (fun _ => True) _ _
    (fun sound _ =>
      ⟨closesEmpty_of_releasesAll sound, releasesAll_of_closesEmpty sound⟩)
    (fun sound _ _ taken => sound.step taken)
    _ (start_sound unused released) _ (fun _ _ => trivial)

/-- A connection that has just been registered. -/
def connected : Tenancy :=
  start
    { (Connection.initial 0).opened 5 0 with
      rev := some 0
      wev := some 0
      wevActive := true }
    { Process.initial .still with
      freeConnections := []
      freeConnectionsN := 0
      connectionsN := 1 }

/-- A read event that finds this on the socket. -/
def arriving (recv : List Recv) : Event where
  read := true
  write := false
  timeout := false
  recv := recv
  send := []
  del := .succeed

/-- A bind with message id 1 that nothing follows. -/
def binding : Event :=
  arriving
    [.data 0x30
      [0x0c, 0x02, 0x01, 0x01, 0x60, 0x07, 0x02, 0x01, 0x03, 0x04, 0x00,
        0x80, 0x00]]

/-- A client that binds and goes away releases everything. -/
theorem closes_release_iff_bind :
    Along (step .still 0 0) (ReleasesAll .still 0 0) connected
      [.event binding, .event (arriving [.eof])] := by
  refine
    (closes_release_iff ⟨rfl, rfl, rfl, rfl, rfl, rfl⟩ (by decide) .still 0 0
      _).mpr ⟨?_, fun next taken => ⟨?_, fun _ _ => trivial⟩⟩
  · rintro - ⟨-, timeout | ⟨-, ended⟩ | ⟨write, -⟩, -⟩
    · cases timeout
    · rcases ended with failed | unbinds
      · exact absurd failed (by decide +kernel)
      · have never :
            ¬ ∃ op ∈ dispatched (binding.batch [] connected.c),
                lpReq2op (berPeekTag op) = .unbind := by
          decide +kernel
        exact absurd unbinds never
    · cases write
  · intro _ _
    have empty :
        (connected.step .still 0 0 (.event binding)).map
            (fun next : Tenancy =>
              decide
                (next.completed = true ∧
                  (∀ ber ∈
                      (arriving [.eof]).processed next.held next.c,
                    Completed ber) ∧
                  (arriving [.eof]).Empties next.held next.c)) =
          some true := by
      decide +kernel
    have stepped :
        connected.step .still 0 0 (.event binding) = some next :=
      taken
    rw [stepped] at empty
    exact of_decide_eq_true (Option.some.inj empty)

/-- The read event of a connection times out. -/
def timingOut : Event where
  read := false
  write := false
  timeout := true
  recv := []
  send := []
  del := .succeed

/-- Whether the action gives slot 0 back and leaves an element behind. -/
def leaves (s : Tenancy) (action : TenancyAction) : Bool :=
  match s.step .still 0 0 action with
  | none =>
      false
  | some next =>
      decide
        (next.p.freeConnections = 0 :: s.p.freeConnections ∧
          ∃ id ∈ next.created, next.p.datas.released.count id ≠ 1)

/-- An action that leaves an element behind does not release everything. -/
theorem not_along_of_leaves
    {actions : List TenancyAction}
    {action : TenancyAction}
    (ends :
      (exec (step .still 0 0) connected actions).map
          (fun last => last.leaves action) =
        some true) :
    ¬ Along (step .still 0 0) (ReleasesAll .still 0 0) connected
        (actions ++ [action]) := by
  intro releases
  obtain ⟨last, accepted, leaves⟩ := Option.map_eq_some_iff.mp ends
  have here := releases.last accepted
  unfold Tenancy.leaves at leaves
  cases taken : last.step .still 0 0 action with
  | none =>
      rw [taken] at leaves
      cases leaves
  | some next =>
      rw [taken] at leaves
      obtain ⟨freed, id, created, notOnce⟩ := of_decide_eq_true leaves
      exact notOnce (here next taken freed id created)

/--
An unbind that nothing follows, a timeout after a bind, and a compare request
that is followed by the end of file each leave an element behind.
-/
theorem closes_leave_elements :
    (¬ Along (step .still 0 0) (ReleasesAll .still 0 0) connected
        [.event
          (arriving [.data 0x30 [0x05, 0x02, 0x01, 0x01, 0x42, 0x00]])]) ∧
      (¬ Along (step .still 0 0) (ReleasesAll .still 0 0) connected
          [.event binding, .event timingOut]) ∧
      ¬ Along (step .still 0 0) (ReleasesAll .still 0 0) connected
          [.event
            (arriving
              [.data 0x30 [0x05, 0x02, 0x01, 0x01, 0x6e, 0x00], .eof])] := by
  have unbound :
      (exec (step .still 0 0) connected []).map
          (fun last =>
            last.leaves
              (.event
                (arriving
                  [.data 0x30 [0x05, 0x02, 0x01, 0x01, 0x42, 0x00]]))) =
        some true := by
    decide +kernel
  have timedOut :
      (exec (step .still 0 0) connected [.event binding]).map
          (fun last => last.leaves (.event timingOut)) =
        some true := by
    decide +kernel
  have compared :
      (exec (step .still 0 0) connected []).map
          (fun last =>
            last.leaves
              (.event
                (arriving
                  [.data 0x30 [0x05, 0x02, 0x01, 0x01, 0x6e, 0x00],
                    .eof]))) =
        some true := by
    decide +kernel
  exact
    ⟨not_along_of_leaves unbound, not_along_of_leaves timedOut,
      not_along_of_leaves compared⟩

end Tenancy

end LdapProxy

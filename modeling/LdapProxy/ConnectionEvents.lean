import LdapProxy.RequestBatch

namespace LdapProxy

open LdapProxy.Lber

/-!
# What one event does

`lp_ldap_io_event_handler` reads and processes requests, sends replies and
closes the connection when its events were deleted.  `handler_spec` states for
an open connection which assertions fail, when the handler returns early and
in which state it leaves the connection otherwise.
-/

/-- The loop of `__ldap_write` leaves replies that were in the list before. -/
theorem ldapWriteLoop_works
    (c : Connection)
    (replies : List (LdapData OutElement))
    (p : Process)
    (wire : Wire) :
    ∃ rplList sent datas,
      (ldapWriteLoop c replies p wire).2 =
          ({ c with rplList := rplList, sent := sent },
            { p with datas := datas }) ∧
        ∀ reply ∈ rplList,
          ∃ before ∈ replies, reply.incarnation = before.incarnation := by
  induction replies generalizing p wire with
  | nil =>
      exact ⟨[], wire.accepted, p.datas, rfl, by simp⟩
  | cons reply later inductionHypothesis =>
      simp only [ldapWriteLoop]
      by_cases whole : (berFlush2 wire reply.ber).complete = true
      · rw [if_pos whole]
        obtain ⟨rplList, sent, datas, same, incarnations⟩ :=
          inductionHypothesis (ldapDataDestroy reply.id p)
            (berFlush2 wire reply.ber).wire
        refine ⟨rplList, sent, datas, same, ?_⟩
        intro other member
        obtain ⟨before, inLater, equal⟩ := incarnations other member
        exact ⟨before, List.mem_cons_of_mem _ inLater, equal⟩
      · rw [if_neg whole]
        refine
          ⟨{ reply with ber := (berFlush2 wire reply.ber).ber } :: later,
            (berFlush2 wire reply.ber).wire.accepted, p.datas, ?_, ?_⟩
        · split <;> rfl
        · intro other member
          rcases List.mem_cons.mp member with rfl | inLater
          · exact ⟨reply, List.mem_cons_self .., rfl⟩
          · exact ⟨other, List.mem_cons_of_mem _ inLater, rfl⟩

/-- `__ldap_write` is one piece of work. -/
theorem ldapWrite_works
    (env : Environment)
    (slot : Nat)
    (reached : BerElement → Prop)
    (c : Connection)
    (p : Process)
    (send : List Send) :
    Work env slot reached (c, p) (ldapWrite c p send).2 ∧
      Kept (c, p) (ldapWrite c p send).2 := by
  obtain ⟨rplList, sent, datas, same, incarnations⟩ :=
    ldapWriteLoop_works c c.rplList p ⟨send, c.sent⟩
  rw [ldapWrite, same]
  exact ⟨.send c p rplList sent datas incarnations, ⟨rfl, rfl, rfl⟩⟩

/-- What the reads of an event find, with these octets held before it. -/
def Event.frames (event : Event) (held : List UInt8) : Frames :=
  frameEvent held { answers := event.recv, reads := [] }

/-- The requests that are waiting when the reads of an event are done. -/
def Event.batch
    (event : Event)
    (held : List UInt8)
    (c : Connection) :
    List BerElement :=
  c.reqList.map LdapData.ber ++
    (event.frames held).messages.map messageElement

/-- The reads of an event end the connection. -/
def Event.Ends
    (event : Event)
    (held : List UInt8)
    (c : Connection) :
    Prop :=
  (event.frames held).ending = .failed ∨ Unbinds (event.batch held c)

/-- The state of a connection after work that did or did not end it. -/
structure After
    (env : Environment)
    (slot : Nat)
    (reached : BerElement → Prop)
    (del : EventDel)
    (base : Connection × Process)
    (ended : Prop)
    (next : Connection × Process) : Prop where
  works : Works env slot reached base next
  holding : ∃ held, next.1.Holding held
  freeConnections : next.2.freeConnections = base.2.freeConnections
  closed : ended → next.1.control = (ioUnregister del base.1).2.control
  open' : ¬ ended → next.1.control = base.1.control

/-- What the `EV_READ` part of the event handler does. -/
inductive EventRead
    (env : Environment)
    (slot : Nat)
    (event : Event)
    (held : List UInt8)
    (c : Connection)
    (p : Process) :
    Except Abort (Bool × Connection × Process) → Prop where
  | stuck :
      (event.frames held).ending = .stuck →
      EventRead env slot event held c p (.error .messedUp)
  | unknown :
      (event.frames held).ending ≠ .stuck →
      HasUnknownOp (event.batch held c) →
      EventRead env slot event held c p (.error .opLast)
  | finished (early : Bool) (next : Connection × Process) :
      (event.frames held).ending ≠ .stuck →
      ¬ HasUnknownOp (event.batch held c) →
      (early = true ↔ Stops (event.batch held c)) →
      After env slot (· ∈ dispatched (event.batch held c)) event.del (c, p)
        (event.Ends held c) next →
      EventRead env slot event held c p (.ok (early, next))

/-- The batch that is processed once the messages of an event were read. -/
theorem batch_received
    {event : Event}
    {held : List UInt8}
    {c : Connection}
    {requests : List (LdapData BerElement)}
    (messages :
      requests.map LdapData.ber =
        (event.frames held).messages.map messageElement)
    (curData : Option (LdapData RecvElement)) :
    (c.received requests curData).reqList.map LdapData.ber =
      event.batch held c := by
  simp [Connection.received, Event.batch, messages]

/-- Processing the requests once the reads of an event are done. -/
theorem eventRead_finish
    {env : Environment}
    {slot : Nat}
    {event : Event}
    {held : List UInt8}
    {c : Connection}
    {p : Process}
    (notStuck : (event.frames held).ending ≠ .stuck)
    (failed : Prop)
    (failedIff : failed ↔ (event.frames held).ending = .failed)
    (start : Connection × Process)
    (works :
      Works env slot (· ∈ dispatched (event.batch held c)) (c, p) start)
    (batch : start.1.reqList.map LdapData.ber = event.batch held c)
    (holding : ∃ held, start.1.Holding held)
    (freeConnections : start.2.freeConnections = p.freeConnections)
    (closed :
      failed → start.1.control = (ioUnregister event.del c).2.control)
    (open' : ¬ failed → start.1.control = c.control) :
    EventRead env slot event held c p
      (match ldapProcessRequest ⟨env, slot, event.del⟩ start.1 start.2 with
        | .error abort =>
            .error abort
        | .ok (ret, c, p) =>
            .ok (decide (ret < 0), c, p)) := by
  have processed := processRequestLoop_spec ⟨env, slot, event.del⟩
    start.1.reqList holding start.2
  rw [batch] at processed
  unfold ldapProcessRequest
  generalize processRequestLoop ⟨env, slot, event.del⟩ start.1.reqList
    start.1 start.2 = outcome at processed ⊢
  cases processed with
  | abort unknown =>
      exact .unknown notStuck unknown
  | finished ret next noUnknown stops later kept unbound =>
      refine .finished _ next notStuck noUnknown
        (by rw [decide_eq_true_eq]; exact stops) ?_
      have allWorks := works.trans later
      by_cases unbinds : Unbinds (event.batch held c)
      · have here := unbound unbinds
        have again : (ioUnregister event.del start.1).2.control =
            (ioUnregister event.del c).2.control := by
          by_cases isFailed : failed
          · rw [control_ioUnregister event.del (closed isFailed),
              ioUnregister_twice]
          · exact control_ioUnregister event.del (open' isFailed)
        refine ⟨allWorks, ?_, ?_, ?_, ?_⟩
        · exact holding_of_curData holding
            (here.curData.trans (ioUnregister_curData event.del start.1))
        · exact here.freeConnections.trans freeConnections
        · exact fun _ => here.control.trans again
        · exact fun goesOn => (goesOn (.inr unbinds)).elim
      · have here := kept unbinds
        refine ⟨allWorks, ?_, ?_, ?_, ?_⟩
        · exact holding_of_curData holding here.curData
        · exact here.freeConnections.trans freeConnections
        · intro ended
          have isFailed := failedIff.mpr (ended.resolve_right unbinds)
          exact here.control.trans (closed isFailed)
        · intro goesOn
          have notFailed : ¬ failed :=
            fun isFailed => goesOn (.inl (failedIff.mp isFailed))
          exact here.control.trans (open' notFailed)

/-- What the reads and the requests of an event do. -/
theorem eventRead_spec
    {c : Connection}
    {held : List UInt8}
    (holding : c.Holding held)
    (env : Environment)
    (slot : Nat)
    (event : Event)
    (p : Process) :
    EventRead env slot event held c p (eventRead env slot event c p) := by
  have read :=
    ldapRead_spec holding p { answers := event.recv, reads := [] }
  unfold eventRead
  generalize ldapRead c p { answers := event.recv, reads := [] } = outcome
    at read ⊢
  cases read with
  | stuck ending =>
      exact .stuck ending
  | wait kept requests data datas ending messages holds =>
      have notStuck : (event.frames held).ending ≠ .stuck := by
        intro stuck
        cases ending.symm.trans stuck
      have notFailed : ¬ (event.frames held).ending = .failed := by
        intro failed
        cases ending.symm.trans failed
      have nowHolding :
          ∃ held, (c.received requests (some data)).Holding held :=
        ⟨kept, .inr ⟨data, rfl, holds⟩⟩
      exact eventRead_finish notStuck False (by simp [notFailed])
        (c.received requests (some data), { p with datas := datas })
        (.single (.requests c p _ _ datas nowHolding))
        (batch_received messages _) nowHolding rfl False.elim
        (fun _ => rfl)
  | failed requests datas ending messages =>
      have notStuck : (event.frames held).ending ≠ .stuck := by
        intro stuck
        cases ending.symm.trans stuck
      have failed : (event.frames held).ending = .failed := ending
      have nowHolding : ∃ held, (c.received requests none).Holding held :=
        ⟨[], .inl ⟨rfl, rfl⟩⟩
      have unregistered : Works env slot
          (· ∈ dispatched (event.batch held c)) (c, p)
          ((ioUnregister event.del (c.received requests none)).2,
            { p with datas := datas }) :=
        (Relation.ReflTransGen.single
          (.requests c p _ _ datas nowHolding)).tail
            (.unregister (c.received requests none) _ event.del)
      have sameRequests :
          (ioUnregister event.del (c.received requests none)).2.reqList =
            (c.received requests none).reqList :=
        ioUnregister_reqList event.del _
      exact eventRead_finish notStuck True (by simp [failed])
        ((ioUnregister event.del (c.received requests none)).2,
          { p with datas := datas })
        unregistered
        (by rw [sameRequests]; exact batch_received messages none)
        (holding_of_curData nowHolding
          (ioUnregister_curData event.del _))
        rfl (fun _ => control_ioUnregister event.del rfl)
        (fun goesOn => (goesOn trivial).elim)

/-- Sending replies after other work. -/
theorem After.write
    {env : Environment}
    {slot : Nat}
    {reached : BerElement → Prop}
    {event : Event}
    {base next : Connection × Process}
    {ended : Prop}
    (after : After env slot reached event.del base ended next) :
    After env slot reached event.del base
      (ended ∨ (ldapWrite next.1 next.2 event.send).1 < 0)
      (eventWrite event next.1 next.2) := by
  obtain ⟨work, kept⟩ :=
    ldapWrite_works env slot reached next.1 next.2 event.send
  have holding := holding_of_curData after.holding kept.curData
  have freeConnections :=
    kept.freeConnections.trans after.freeConnections
  unfold eventWrite
  generalize ldapWrite next.1 next.2 event.send = wrote
    at work kept holding freeConnections ⊢
  obtain ⟨ret, c, p⟩ := wrote
  simp only at work kept holding freeConnections ⊢
  by_cases failed : ret < 0
  · rw [if_pos failed]
    refine ⟨?_, ?_, freeConnections, ?_, ?_⟩
    · exact (after.works.tail work).tail (.unregister c p event.del)
    · exact holding_of_curData holding (ioUnregister_curData event.del c)
    · intro _
      by_cases before : ended
      · rw [control_ioUnregister event.del
          (kept.control.trans (after.closed before)), ioUnregister_twice]
      · exact control_ioUnregister event.del
          (kept.control.trans (after.open' before))
    · exact fun goesOn => (goesOn (.inr failed)).elim
  · rw [if_neg failed]
    refine ⟨after.works.tail work, holding, freeConnections, ?_, ?_⟩
    · intro endedNow
      exact kept.control.trans
        (after.closed (endedNow.resolve_right failed))
    · intro goesOn
      exact kept.control.trans
        (after.open' (fun before => goesOn (.inl before)))

/-- The event is not a timeout and lets the handler read. -/
def Event.Reads (event : Event) : Prop :=
  event.read = true ∧ event.timeout = false

/-- What the event handler does with an event of an open connection. -/
inductive Handled
    (env : Environment)
    (slot : Nat)
    (event : Event)
    (held : List UInt8)
    (c : Connection)
    (p : Process) :
    Except Abort (Connection × Process) → Prop where
  | stuck :
      event.Reads →
      (event.frames held).ending = .stuck →
      Handled env slot event held c p (.error .messedUp)
  | unknown :
      event.Reads →
      (event.frames held).ending ≠ .stuck →
      HasUnknownOp (event.batch held c) →
      Handled env slot event held c p (.error .opLast)
  /-- The handler returns without looking at `conn_closed`. -/
  | early (next : Connection × Process) :
      event.Reads →
      (event.frames held).ending ≠ .stuck →
      ¬ HasUnknownOp (event.batch held c) →
      Stops (event.batch held c) →
      After env slot (· ∈ dispatched (event.batch held c)) event.del (c, p)
        (event.Ends held c) next →
      Handled env slot event held c p (.ok next)
  | finished (ended : Prop) (next : Connection × Process) :
      (event.Reads →
        (event.frames held).ending ≠ .stuck ∧
          ¬ HasUnknownOp (event.batch held c) ∧
          ¬ Stops (event.batch held c)) →
      After env slot
        (fun op =>
          event.Reads ∧ op ∈ dispatched (event.batch held c))
        event.del (c, p) ended next →
      Handled env slot event held c p
        (closeConnection slot next.1 next.2)

/-- More operations may be reached. -/
theorem After.mono
    {env : Environment}
    {slot : Nat}
    {reached more : BerElement → Prop}
    (wider : ∀ op, reached op → more op)
    {del : EventDel}
    {base next : Connection × Process}
    {ended : Prop}
    (after : After env slot reached del base ended next) :
    After env slot more del base ended next :=
  { after with works := Works.mono wider after.works }

/-- No work has been done. -/
theorem after_nothing
    {held : List UInt8}
    {c : Connection}
    (holding : c.Holding held)
    (env : Environment)
    (slot : Nat)
    (reached : BerElement → Prop)
    (del : EventDel)
    (p : Process) :
    After env slot reached del (c, p) False (c, p) where
  works := .refl
  holding := ⟨held, holding⟩
  freeConnections := rfl
  closed := False.elim
  open' := fun _ => rfl

/-- The connection was unregistered and nothing else was done. -/
theorem after_unregister
    {held : List UInt8}
    {c : Connection}
    (holding : c.Holding held)
    (env : Environment)
    (slot : Nat)
    (reached : BerElement → Prop)
    (del : EventDel)
    (p : Process) :
    After env slot reached del (c, p) True ((ioUnregister del c).2, p) where
  works := .single (.unregister c p del)
  holding := holding_of_curData ⟨held, holding⟩ (ioUnregister_curData del c)
  freeConnections := rfl
  closed := fun _ => rfl
  open' := fun never => (never trivial).elim

/-- The end of the handler: send replies and close the connection. -/
theorem handled_write
    {env : Environment}
    {slot : Nat}
    {event : Event}
    {held : List UInt8}
    {c : Connection}
    {p : Process}
    (passed :
      event.Reads →
        (event.frames held).ending ≠ .stuck ∧
          ¬ HasUnknownOp (event.batch held c) ∧
          ¬ Stops (event.batch held c))
    {ended : Prop}
    {next : Connection × Process}
    (after :
      After env slot
        (fun op => event.Reads ∧ op ∈ dispatched (event.batch held c))
        event.del (c, p) ended next) :
    Handled env slot event held c p
      (if event.write then
        closeConnection slot (eventWrite event next.1 next.2).1
          (eventWrite event next.1 next.2).2
      else
        closeConnection slot next.1 next.2) := by
  split
  · exact .finished _ _ passed after.write
  · exact .finished ended next passed after

/-- The handler lets an event through. -/
structure Connection.Listening (c : Connection) : Prop where
  fd : c.fd ≠ 0
  connActive : c.connActive = true
  connClosing : c.connClosing = false

/-- What `lp_ldap_io_event_handler` does for an open connection. -/
theorem handler_spec
    {c : Connection}
    (listening : c.Listening)
    {held : List UInt8}
    (holding : c.Holding held)
    (env : Environment)
    (slot : Nat)
    (event : Event)
    (p : Process) :
    Handled env slot event held c p
      (lpLdapIoEventHandler env slot event c p) := by
  have goesOn : ¬ c.connActive = false := by
    rw [listening.connActive]
    decide
  have notClosing : ¬ c.connClosing = true := by
    rw [listening.connClosing]
    decide
  unfold lpLdapIoEventHandler
  rw [if_neg listening.fd, if_neg notClosing]
  by_cases timeout : event.timeout = true
  · rw [if_pos timeout]
    refine .finished True ((ioUnregister event.del c).2, p) ?_ ?_
    · intro reads
      rw [reads.2] at timeout
      cases timeout
    · exact after_unregister holding env slot _ event.del p
  · rw [if_neg timeout, if_neg goesOn]
    have noTimeout : event.timeout = false :=
      Bool.eq_false_iff.mpr timeout
    by_cases read : event.read = true
    · rw [if_pos read]
      have reads : event.Reads := ⟨read, noTimeout⟩
      have did := eventRead_spec holding env slot event p
      generalize eventRead env slot event c p = outcome at did ⊢
      cases did with
      | stuck ending =>
          exact .stuck reads ending
      | unknown notStuck unknown =>
          exact .unknown reads notStuck unknown
      | finished early next notStuck noUnknown stops after =>
          cases early with
          | true =>
              exact .early next reads notStuck noUnknown (stops.mp rfl)
                after
          | false =>
              have goesOn : ¬ Stops (event.batch held c) := by
                intro stop
                cases stops.mpr stop
              exact handled_write
                (fun _ => ⟨notStuck, noUnknown, goesOn⟩)
                (after.mono fun op member => ⟨reads, member⟩)
    · rw [if_neg read]
      exact handled_write (fun reads => (read reads.1).elim)
        (after_nothing holding env slot _ event.del p)

/-- `lp_free_connection` clears the connection and gives its slot back. -/
theorem lpFreeConnection_spec
    (slot : Nat)
    {c : Connection}
    (discard : c.discard = true)
    (p : Process) :
    ∃ datas,
      lpFreeConnection slot c p =
        .ok (c.cleared,
          { p with
            freeConnections := slot :: p.freeConnections
            freeConnectionsN := p.freeConnectionsN + 1
            connectionsN := p.connectionsN - 1
            datas := datas }) :=
  ⟨_, lpFreeConnection_eq slot discard p⟩

/-- Without a connection that was closed nothing happens. -/
theorem closeConnection_open
    (slot : Nat)
    {c : Connection}
    (notClosed : c.connClosed = false)
    (p : Process) :
    closeConnection slot c p = .ok (c, p) := by
  simp only [closeConnection, notClosed]
  exact if_neg (by decide)

/-- A connection that was closed is cleared and its slot is given back. -/
theorem closeConnection_closed
    (slot : Nat)
    {c : Connection}
    (closed : c.connClosed = true)
    (discard : c.discard = true)
    (p : Process) :
    ∃ datas,
      closeConnection slot c p =
        .ok (c.cleared,
          { p with
            freeConnections := slot :: p.freeConnections
            freeConnectionsN := p.freeConnectionsN + 1
            connectionsN := p.connectionsN - 1
            datas := datas }) := by
  obtain ⟨datas, freed⟩ := lpFreeConnection_spec slot discard p
  exact ⟨datas, by rw [closeConnection, if_pos closed, lpCloseConnection,
    freed]⟩

/-- The replies are those of the list or answer the task. -/
def FromListOr
    (task : Task)
    (replies rplList : List (LdapData OutElement)) :
    Prop :=
  ∀ reply ∈ rplList,
    (∃ before ∈ replies, reply.incarnation = before.incarnation) ∨
      reply.incarnation = task.issued

/-- The end of a reply appends at most the reply. -/
theorem appendDone_works
    (task : Task)
    (id : Nat)
    (ber : OutElement)
    (c : Connection)
    (p : Process) :
    ∃ ret rplList,
      appendDone task id ber c p = (ret, { c with rplList := rplList }, p) ∧
        FromListOr task c.rplList rplList := by
  unfold appendDone
  cases printSearchDone task.data ber with
  | none =>
      exact ⟨lpErr, c.rplList, rfl,
        fun reply member => .inl ⟨reply, member, rfl⟩⟩
  | some printed =>
      refine ⟨lpOk, c.rplList ++ [⟨id, printed, task.issued⟩], rfl, ?_⟩
      intro reply member
      rcases List.mem_append.mp member with before | new
      · exact .inl ⟨reply, before, rfl⟩
      · rw [List.mem_singleton.mp new]
        exact .inr rfl

/-- `__search_failed` appends at most the reply. -/
theorem searchFailed_works
    (task : Task)
    (c : Connection)
    (p : Process) :
    ∃ ret rplList datas,
      searchFailed task c p =
          (ret, { c with rplList := rplList }, { p with datas := datas }) ∧
        FromListOr task c.rplList rplList := by
  obtain ⟨ret, rplList, appended, fromList⟩ :=
    appendDone_works task p.datas.next OutElement.new c (ldapDataNew p).2
  exact ⟨ret, rplList, p.datas.alloc.2, appended, fromList⟩

/-- `__search_succeed` appends at most the reply. -/
theorem searchSucceed_works
    (task : Task)
    (c : Connection)
    (p : Process) :
    ∃ ret rplList datas,
      searchSucceed task c p =
          (ret, { c with rplList := rplList }, { p with datas := datas }) ∧
        FromListOr task c.rplList rplList := by
  unfold searchSucceed
  simp only [ldapDataNew]
  cases printSearchEntry task.data OutElement.new with
  | none =>
      exact ⟨lpErr, c.rplList, p.datas.alloc.2.release p.datas.next, rfl,
        fun reply member => .inl ⟨reply, member, rfl⟩⟩
  | some entry =>
      obtain ⟨ret, rplList, appended, fromList⟩ :=
        appendDone_works task p.datas.next entry c (ldapDataNew p).2
      exact ⟨ret, rplList, p.datas.alloc.2, appended, fromList⟩

/-- `lp_search_reply` appends at most the reply. -/
theorem lpSearchReply_works
    (task : Task)
    (c : Connection)
    (p : Process) :
    ∃ ret rplList datas,
      lpSearchReply task c p =
          (ret, { c with rplList := rplList }, { p with datas := datas }) ∧
        FromListOr task c.rplList rplList := by
  unfold lpSearchReply
  generalize task.data.getInt codeField = code
  by_cases success : code = 0
  · rw [if_pos success]
    exact searchSucceed_works task c p
  · rw [if_neg success]
    by_cases failure : code = -1
    · rw [if_pos failure]
      exact searchFailed_works task c p
    · rw [if_neg failure]
      exact ⟨lpErr, c.rplList, p.datas, rfl,
        fun reply member => .inl ⟨reply, member, rfl⟩⟩

/-- What `__task_process` does with a reply task of a MySQL worker. -/
inductive Replied
    (ldap : Nat)
    (task : Task)
    (c : Connection)
    (p : Process) :
    Int × Connection × Process → Prop where
  | refused :
      task.tick ∉ c.taskTicks →
      Replied ldap task c p (lpErr, c, lpTaskDestroy task p)
  /-- The task is not destroyed. -/
  | foreign :
      task.tick ∈ c.taskTicks →
      c.ldap ≠ some ldap →
      Replied ldap task c p
        (lpErr, { c with taskTicks := c.taskTicks.erase task.tick }, p)
  | answered
      (ret : Int)
      (rplList : List (LdapData OutElement))
      (sent : List UInt8)
      (datas : Ledger) :
      task.tick ∈ c.taskTicks →
      c.ldap = some ldap →
      FromListOr task c.rplList rplList →
      Replied ldap task c p
        (ret,
          { c with
            taskTicks := c.taskTicks.erase task.tick
            rplList := rplList
            sent := sent },
          lpTaskDestroy task { p with datas := datas })

/-- An accepted reply is dropped by another owner, or answered and sent. -/
theorem processMysqlTask_replied
    (ldap : Nat)
    (task : Task)
    (send : List Send)
    {c : Connection}
    (registered : task.tick ∈ c.taskTicks)
    (p : Process) :
    Replied ldap task c p
      (processMysqlTask ldap task send
        { c with taskTicks := c.taskTicks.erase task.tick } p) := by
  unfold processMysqlTask
  by_cases owner : c.ldap = some ldap
  · rw [if_neg (not_not.mpr owner)]
    obtain ⟨ret, rplList, datas, replied, fromList⟩ :=
      lpSearchReply_works task
        { c with taskTicks := c.taskTicks.erase task.tick } p
    rw [replied]
    by_cases succeeded : ret = lpOk
    · obtain ⟨left, sent, later, wrote, incarnations⟩ :=
        ldapWriteLoop_works
          { c with
            taskTicks := c.taskTicks.erase task.tick
            rplList := rplList }
          rplList { p with datas := datas } ⟨send, c.sent⟩
      simp only [succeeded, if_true, ldapWrite, wrote]
      refine .answered lpOk left sent later registered owner ?_
      intro reply member
      obtain ⟨before, inList, same⟩ := incarnations reply member
      rw [same]
      exact fromList before inList
    · simp only [succeeded, if_false]
      exact .answered ret rplList c.sent datas registered owner fromList
  · rw [if_pos owner]
    exact .foreign registered owner

/-- A reply task is refused, dropped or answered. -/
theorem taskProcess_replied
    (ldap : Nat)
    {task : Task}
    (fromMysql : task.senderSource = .mysql)
    (send : List Send)
    (c : Connection)
    (p : Process) :
    ∃ result,
      taskProcess ldap task send c p = .ok result ∧
        Replied ldap task c p result := by
  unfold taskProcess
  simp only [fromMysql, lpConnCheckTaskTick]
  by_cases registered : task.tick ∈ c.taskTicks
  · simp only [registered, if_true]
    rw [if_neg (by decide)]
    exact ⟨_, rfl, processMysqlTask_replied ldap task send registered p⟩
  · simp only [registered, if_false]
    rw [if_pos (by decide)]
    exact ⟨_, rfl, .refused registered⟩

end LdapProxy

import LdapProxy.OwnedData

namespace LdapProxy

open LdapProxy.Lber

/-!
# How an event ends

When `__ldap_write` fails, when the event handler gives the connection back, and
what has become of the elements of the connection then, by the answers of the
socket and the requests of the event.
-/

/-- How sending ends, with the answers that are left when all is sent. -/
inductive SendEnd where
  | sent (later : List Send)
  | wait
  | failed
  deriving Repr, DecidableEq

/-- Send the octets of one reply. -/
def sendOctets (count : Nat) : List Send → SendEnd
  | answers =>
      if count = 0 then
        .sent answers
      else
        match answers with
        | [] =>
            .wait
        | .accept more :: later =>
            sendOctets (count - (more + 1)) later
        | .wouldBlock :: _ =>
            .wait
        | .error :: _ =>
            .failed

/-- Send replies of which these numbers of octets are left. -/
def sendAll : List Nat → List Send → SendEnd
  | [], answers =>
      .sent answers
  | count :: rest, answers =>
      match sendOctets count answers with
      | .sent later =>
          sendAll rest later
      | .wait =>
          .wait
      | .failed =>
          .failed

/-- The number of octets of a reply that are not sent yet. -/
def unsent (ber : OutElement) : Nat :=
  ber.berPtr - ber.berRwptr.getD 0

/-- How `ber_flush2` ended. -/
def flushEnd (flushed : FlushResult) : SendEnd :=
  if flushed.complete then
    .sent flushed.wire.answers
  else if flushed.errno = .ewouldblock then
    .wait
  else
    .failed

/-- `ber_flush2` sends the octets that are left. -/
theorem flushLoop_end
    (ber : OutElement)
    (accepted : List UInt8)
    (rwptr : Nat)
    (answers : List Send) :
    flushEnd (flushLoop ber accepted rwptr answers) =
      sendOctets (ber.berPtr - rwptr) answers := by
  induction answers generalizing accepted rwptr with
  | nil =>
      unfold flushLoop sendOctets
      by_cases finished : ber.berPtr ≤ rwptr
      · rw [if_pos finished, if_pos (Nat.sub_eq_zero_of_le finished)]
        rfl
      · have missing : ber.berPtr - rwptr ≠ 0 :=
          mt Nat.le_of_sub_eq_zero finished
        rw [if_neg finished, if_neg missing]
        rfl
  | cons answer later inductionHypothesis =>
      unfold flushLoop sendOctets
      by_cases finished : ber.berPtr ≤ rwptr
      · rw [if_pos finished, if_pos (Nat.sub_eq_zero_of_le finished)]
        rfl
      · have missing : ber.berPtr - rwptr ≠ 0 :=
          mt Nat.le_of_sub_eq_zero finished
        rw [if_neg finished, if_neg missing]
        cases answer with
        | accept more =>
            have left :
                ber.berPtr -
                    (rwptr + min (more + 1) (ber.berPtr - rwptr)) =
                  ber.berPtr - rwptr - (more + 1) := by
              omega
            have sends :=
              inductionHypothesis
                (accepted ++
                  (ber.berBuf.drop rwptr).take
                    (min (more + 1) (ber.berPtr - rwptr)))
                (rwptr + min (more + 1) (ber.berPtr - rwptr))
            rw [left] at sends
            exact sends
        | wouldBlock =>
            rfl
        | error =>
            rfl

/-- `__ldap_write` fails when sending the replies fails. -/
theorem ldapWriteLoop_fails_iff
    (c : Connection)
    (replies : List (LdapData OutElement))
    (p : Process)
    (wire : Wire) :
    (ldapWriteLoop c replies p wire).1 < 0 ↔
      sendAll (replies.map fun reply => unsent reply.ber) wire.answers =
        .failed := by
  induction replies generalizing p wire with
  | nil =>
      simp [ldapWriteLoop, sendAll, lpOk]
  | cons reply later inductionHypothesis =>
      have ending :
          flushEnd (berFlush2 wire reply.ber) =
            sendOctets (unsent reply.ber) wire.answers :=
        flushLoop_end _ _ _ _
      simp only [ldapWriteLoop, List.map_cons, sendAll]
      rw [← ending]
      unfold flushEnd
      by_cases whole : (berFlush2 wire reply.ber).complete = true
      · rw [if_pos whole, if_pos whole]
        exact inductionHypothesis _ _
      · rw [if_neg whole, if_neg whole]
        by_cases again : (berFlush2 wire reply.ber).errno = .ewouldblock
        · rw [if_neg (not_not.mpr again), if_pos again]
          simp [lpAgain]
        · rw [if_pos again, if_neg again]
          simp [lpErr]

/-- The octets of an unfinished message that are kept. -/
def ReadEnd.held : ReadEnd → List UInt8
  | .wait held =>
      held
  | .failed =>
      []
  | .stuck =>
      []

/-- What has become of a connection after the reads and requests of an event. -/
structure ReadDone
    (event : Event)
    (held : List UInt8)
    (before after : Connection × Process) :
    Prop where
  holding : after.1.Holding (event.frames held).ending.held
  curData : after.1.curData = none ↔ (event.frames held).ending = .failed
  bers :
    after.1.rplList.map LdapData.ber =
      before.1.rplList.map LdapData.ber ++
        responses (event.batch held before.1)
  moves :
    ∃ requests : List (LdapData BerElement),
      requests.map LdapData.ber = event.batch held before.1 ∧
        Moves before after (forgottenIds requests : Multiset Nat)

variable {c : Connection}
variable {p : Process}
variable {event : Event}
variable {held : List UInt8}

/-- The requests of an event are processed after its reads. -/
theorem readDone_requests
    {ctx : RequestContext}
    {start : Connection × Process}
    {ret : Int}
    {next : Connection × Process}
    (read : Moves (c, p) start 0)
    (batch : start.1.reqList.map LdapData.ber = event.batch held c)
    (rplList : start.1.rplList = c.rplList)
    (holding : start.1.Holding (event.frames held).ending.held)
    (curData :
      start.1.curData = none ↔ (event.frames held).ending = .failed)
    (processed :
      ldapProcessRequest ctx start.1 start.2 = .ok (ret, next)) :
    ReadDone event held (c, p) next := by
  unfold ldapProcessRequest at processed
  have known :
      ¬ HasUnknownOp (start.1.reqList.map LdapData.ber) := by
    intro unknown
    rw [processRequestLoop_aborts ctx _ _ _ unknown] at processed
    cases processed
  obtain ⟨ret', last, replies, loops, drained⟩ :=
    processRequestLoop_drained ctx start.1.reqList start.1 start.2 id known
  rw [loops] at processed
  cases processed
  have sameData : next.1.curData = start.1.curData := drained.curData
  constructor
  · unfold Connection.Holding at holding ⊢
    rw [sameData]
    exact holding
  · rw [sameData]
    exact curData
  · have bers := drained.bers
    rw [batch] at bers
    rw [drained.rplList, List.map_append, bers, rplList]
  · refine ⟨start.1.reqList, batch, ?_⟩
    have moves := read.trans (drained.moves rfl)
    rw [zero_add] at moves
    exact moves

/-- Deleting the events keeps the elements. -/
theorem ioUnregister_owned (del : EventDel) (c : Connection) :
    (ioUnregister del c).2.owned = c.owned := by
  obtain ⟨rev, wev, closed, same⟩ := ioUnregister_fields del c
  rw [same]
  rfl

/-- After a failed read the connection is unregistered first. -/
theorem readDone_failed
    {ctx : RequestContext}
    {requests : List (LdapData BerElement)}
    {datas : Ledger}
    {ret : Int}
    {next : Connection × Process}
    (isFailed : (event.frames held).ending = .failed)
    (messages :
      requests.map LdapData.ber =
        (event.frames held).messages.map messageElement)
    (read :
      Moves (c, p) (c.received requests none, { p with datas := datas }) 0)
    (processed :
      ldapProcessRequest ctx
          (ioUnregister event.del (c.received requests none)).2
          { p with datas := datas } =
        .ok (ret, next)) :
    ReadDone event held (c, p) next := by
  obtain ⟨rev, wev, closed, same⟩ :=
    ioUnregister_fields event.del (c.received requests none)
  have idle :
      (ioUnregister event.del (c.received requests none)).2.curData =
        none := by
    rw [same]
    rfl
  have deleted :
      Moves (c.received requests none, { p with datas := datas })
        ((ioUnregister event.del (c.received requests none)).2,
          { p with datas := datas })
        0 :=
    moves_same (ioUnregister_owned event.del _) rfl
  refine readDone_requests (read.trans deleted) ?_ ?_ ?_ ?_ processed
  · rw [ioUnregister_reqList]
    exact batch_received messages none
  · rw [same]
    rfl
  · rw [isFailed]
    exact .inl ⟨idle, rfl⟩
  · exact iff_of_true idle isFailed

/-- What the `EV_READ` part of the handler has done. -/
theorem eventRead_done
    (holding : c.Holding held)
    {env : Environment}
    {slot : Nat}
    {early : Bool}
    {next : Connection × Process}
    (done : eventRead env slot event c p = .ok (early, next)) :
    ReadDone event held (c, p) next := by
  have read :=
    ldapRead_spec holding p { answers := event.recv, reads := [] }
  unfold eventRead at done
  cases result : ldapRead c p { answers := event.recv, reads := [] } with
  | error abort =>
      rw [result] at done
      cases done
  | ok reading =>
      obtain ⟨code, c₁, p₁, sock⟩ := reading
      have moves : Moves (c, p) (c₁, p₁) 0 := ldapReadLoop_moves _ result
      rw [result] at done read
      simp only at done
      cases read with
      | wait kept requests data datas ending messages holds =>
          have isWait : (event.frames held).ending = .wait kept := ending
          have goesOn : ¬ (1 : Int) < 0 := by decide
          rw [if_neg goesOn] at done
          cases processed :
              ldapProcessRequest ⟨env, slot, event.del⟩
                (c.received requests (some data))
                { p with datas := datas } with
          | error abort =>
              rw [processed] at done
              cases done
          | ok outcome =>
              rw [processed] at done
              cases done
              refine
                readDone_requests moves (batch_received messages _) rfl ?_ ?_
                  processed
              · rw [isWait]
                exact .inr ⟨data, rfl, holds⟩
              · rw [isWait]
                exact iff_of_false (Option.some_ne_none data)
                  ReadEnd.noConfusion
      | failed requests datas ending messages =>
          have isFailed : (event.frames held).ending = .failed := ending
          have ends : (-1 : Int) < 0 := by decide
          rw [if_pos ends] at done
          cases processed :
              ldapProcessRequest ⟨env, slot, event.del⟩
                (ioUnregister event.del (c.received requests none)).2
                { p with datas := datas } with
          | error abort =>
              rw [processed] at done
              cases done
          | ok outcome =>
              rw [processed] at done
              cases done
              exact readDone_failed isFailed messages moves processed

/-- The handler reads for the event. -/
def Event.ReadsFrom (event : Event) (c : Connection) : Prop :=
  event.Reads ∧ c.connActive = true ∧ c.connClosing = false

instance (event : Event) (c : Connection) : Decidable (event.ReadsFrom c) :=
  inferInstanceAs (Decidable ((_ ∧ _) ∧ _ ∧ _))

/-- The requests that are waiting when the handler processes requests. -/
def Event.processed
    (event : Event)
    (held : List UInt8)
    (c : Connection) :
    List BerElement :=
  if event.ReadsFrom c then event.batch held c else []

/-- The octets of an unfinished message that are kept after the event. -/
def Event.heldAfter
    (event : Event)
    (held : List UInt8)
    (c : Connection) :
    List UInt8 :=
  if event.ReadsFrom c then (event.frames held).ending.held else held

/-- The event leaves no element that a message is read into. -/
def Event.Empties
    (event : Event)
    (held : List UInt8)
    (c : Connection) :
    Prop :=
  if event.ReadsFrom c then
    (event.frames held).ending = .failed
  else
    c.curData = none

instance (event : Event) (held : List UInt8) (c : Connection) :
    Decidable (event.Empties held c) :=
  inferInstanceAs
    (Decidable
      (if event.ReadsFrom c then
        (event.frames held).ending = .failed
      else
        c.curData = none))

/-- What has become of the elements when the replies have been written. -/
structure DataDone
    (event : Event)
    (held : List UInt8)
    (before after : Connection × Process) :
    Prop where
  holding : after.1.Holding (event.heldAfter held before.1)
  curData : after.1.curData = none ↔ event.Empties held before.1
  moves :
    ∃ requests : List (LdapData BerElement),
      requests.map LdapData.ber = event.processed held before.1 ∧
        Moves before after (forgottenIds requests : Multiset Nat)

/-- Without reads nothing is processed. -/
theorem dataDone_idle
    (holding : c.Holding held)
    (idle : ¬ event.ReadsFrom c)
    {next : Connection}
    (owned : next.owned = c.owned)
    (curData : next.curData = c.curData) :
    DataDone event held (c, p) (next, p) where
  holding := by
    unfold Event.heldAfter Connection.Holding
    rw [if_neg idle, curData]
    exact holding
  curData := by
    unfold Event.Empties
    rw [if_neg idle, curData]
  moves := by
    refine ⟨[], ?_, moves_same owned rfl⟩
    unfold Event.processed
    rw [if_neg idle]
    rfl

/-- With reads the requests are processed. -/
theorem ReadDone.data
    {next : Connection × Process}
    (done : ReadDone event held (c, p) next)
    (reads : event.ReadsFrom c) :
    DataDone event held (c, p) next where
  holding := by
    unfold Event.heldAfter
    rw [if_pos reads]
    exact done.holding
  curData := by
    unfold Event.Empties
    rw [if_pos reads]
    exact done.curData
  moves := by
    unfold Event.processed
    rw [if_pos reads]
    exact done.moves

/-- Writing replies keeps what was read. -/
theorem DataDone.write
    {before middle : Connection × Process}
    (done : DataDone event held before middle) :
    DataDone event held before (eventWrite event middle.1 middle.2) := by
  have wrote := ldapWrite_moves middle.1 middle.2 event.send
  obtain ⟨taken, left, sent, -, result⟩ :=
    ldapWriteLoop_taken middle.1 middle.1.rplList middle.2
      ⟨event.send, middle.1.sent⟩
  have sameData :
      (ldapWrite middle.1 middle.2 event.send).2.1.curData =
        middle.1.curData := by
    rw [ldapWrite, result]
  unfold eventWrite
  generalize ldapWrite middle.1 middle.2 event.send = written
    at wrote sameData ⊢
  obtain ⟨ret, c', p'⟩ := written
  simp only at wrote sameData ⊢
  have finish
      (next : Connection)
      (owned : next.owned = c'.owned)
      (curData : next.curData = c'.curData) :
      DataDone event held before (next, p') := by
    have same := curData.trans sameData
    obtain ⟨requests, processed, moves⟩ := done.moves
    have last : Moves (c', p') (next, p') 0 := moves_same owned rfl
    have allMoves := (moves.trans wrote).trans last
    rw [add_zero, add_zero] at allMoves
    refine ⟨?_, ?_, requests, processed, allMoves⟩
    · unfold Connection.Holding
      rw [same]
      exact done.holding
    · rw [same]
      exact done.curData
  by_cases failed : ret < 0
  · rw [if_pos failed]
    exact finish _ (ioUnregister_owned event.del c')
      (ioUnregister_curData event.del c')
  · rw [if_neg failed]
    exact finish c' rfl rfl

/-- The handler gets as far as `close_connection`. -/
def Event.Finishes
    (event : Event)
    (held : List UInt8)
    (c : Connection) :
    Prop :=
  event.timeout = true ∨
    c.connActive = true ∧ ¬ Stops (event.processed held c)

/-- The octets of the replies that are waiting when the handler writes. -/
def Event.pending
    (event : Event)
    (held : List UInt8)
    (c : Connection) :
    List Nat :=
  (c.rplList.map LdapData.ber ++ responses (event.processed held c)).map
    unsent

/-- The handler calls `__io_unregister`, or an unbind does. -/
def Event.Unregisters
    (event : Event)
    (held : List UInt8)
    (c : Connection) :
    Prop :=
  event.timeout = true ∨
    event.ReadsFrom c ∧ event.Ends held c ∨
      event.write = true ∧
        sendAll (event.pending held c) event.send = .failed

/-- The calls of `event_del` succeed that the connection needs. -/
def Event.Deletes (event : Event) (c : Connection) : Prop :=
  event.del.rev = true ∧ (c.wevActive = true → event.del.wev = true)

/-- The event ends with `lp_close_connection`. -/
structure Event.Closes
    (event : Event)
    (held : List UInt8)
    (c : Connection) :
    Prop where
  finishes : event.Finishes held c
  unregisters : event.Unregisters held c
  deletes : event.Deletes c

/-- A connection that is open is closed when its events are deleted. -/
theorem ioUnregister_connClosed
    {c : Connection}
    (isOpen : c.connClosed = false)
    (event : Event) :
    (ioUnregister event.del c).2.connClosed = true ↔ event.Deletes c := by
  unfold ioUnregister Event.Deletes
  simp only [isOpen]
  cases event.del.rev <;> cases c.wevActive <;> cases event.del.wev <;>
    simp

/-- What the handler has done with an event. -/
structure EventDone
    (slot : Nat)
    (event : Event)
    (held : List UInt8)
    (before after : Connection × Process) :
    Prop where
  moves :
    ∃ (requests : List (LdapData BerElement)) (unread : Multiset Nat),
      requests.map LdapData.ber = event.processed held before.1 ∧
        (unread = 0 ↔
          (event.Closes held before.1 → event.Empties held before.1)) ∧
        Moves before after ((forgottenIds requests : Multiset Nat) + unread)
  closed :
    event.Closes held before.1 →
      after.1.fd = 0 ∧ after.1.owned = 0 ∧
        after.2.freeConnections = slot :: before.2.freeConnections
  kept :
    ¬ event.Closes held before.1 →
      after.1.Holding (event.heldAfter held before.1) ∧
        (after.1.connClosed = true → after.1.connClosing = true) ∧
        after.1.fd = before.1.fd ∧
        after.1.discard = before.1.discard ∧
        after.2.freeConnections = before.2.freeConnections

/-- An event without close. -/
theorem DataDone.open'
    {slot : Nat}
    {last : Connection × Process}
    (data : DataDone event held (c, p) last)
    (notClosed : ¬ event.Closes held c)
    (flags : last.1.connClosed = true → last.1.connClosing = true)
    (fd : last.1.fd = c.fd)
    (discard : last.1.discard = c.discard)
    (freeConnections : last.2.freeConnections = p.freeConnections) :
    EventDone slot event held (c, p) last where
  moves := by
    obtain ⟨requests, processed, moves⟩ := data.moves
    refine ⟨requests, 0, processed, ?_, ?_⟩
    · exact iff_of_true rfl fun closes => (notClosed closes).elim
    · rw [add_zero]
      exact moves
  closed := fun closes => (notClosed closes).elim
  kept := fun _ => ⟨data.holding, flags, fd, discard, freeConnections⟩

/-- An event with a close. -/
theorem DataDone.close
    {slot : Nat}
    {last next : Connection × Process}
    (data : DataDone event held (c, p) last)
    (closes : event.Closes held c)
    (discard : last.1.discard = true)
    (freeConnections : last.2.freeConnections = p.freeConnections)
    (freed : lpCloseConnection slot last.1 last.2 = .ok next) :
    EventDone slot event held (c, p) next where
  moves := by
    obtain ⟨requests, processed, moves⟩ := data.moves
    refine
      ⟨requests, _, processed, ?_, moves.trans (lpFreeConnection_moves freed)⟩
    have empties : event.Empties held c ↔ last.1.curData = none :=
      data.curData.symm
    simp only [closes, true_imp_iff, empties]
    cases last.1.curData with
    | none =>
        exact iff_of_true rfl rfl
    | some data =>
        exact iff_of_false (Multiset.singleton_ne_zero data.id)
          (Option.some_ne_none data)
  closed := by
    intro _
    unfold lpCloseConnection at freed
    rw [lpFreeConnection_eq slot discard] at freed
    cases freed
    exact ⟨rfl, rfl, congrArg (slot :: ·) freeConnections⟩
  kept := fun never => (never closes).elim

variable {env : Environment}
variable {slot : Nat}
variable {reached : BerElement → Prop}
variable {last next : Connection × Process}
variable {ended : Prop}

/-- The flags of a connection whose events were deleted or not. -/
theorem After.flags
    (after : After env slot reached event.del (c, p) ended last)
    (isOpen : c.connClosed = false) :
    (last.1.connClosed = true ↔ ended ∧ event.Deletes c) ∧
      (last.1.connClosed = true → last.1.connClosing = true) ∧
      last.1.fd = c.fd ∧ last.1.discard = c.discard := by
  obtain ⟨rev, wev, closed, same⟩ := ioUnregister_fields event.del c
  by_cases hasEnded : ended
  · obtain ⟨fd, -, -, -, -, -, sameClosing, sameClosed, -, -, discard, -⟩ :=
      control_fields (after.closed hasEnded)
    have closing : (ioUnregister event.del c).2.connClosing = true := by
      rw [same]
    refine ⟨?_, fun _ => sameClosing.trans closing, ?_, ?_⟩
    · rw [sameClosed, ioUnregister_connClosed isOpen event]
      exact (and_iff_right hasEnded).symm
    · rw [fd, same]
    · rw [discard, same]
  · obtain ⟨fd, -, -, -, -, -, -, sameClosed, -, -, discard, -⟩ :=
      control_fields (after.open' hasEnded)
    have stillOpen : last.1.connClosed = false := sameClosed.trans isOpen
    refine ⟨?_, ?_, fd, discard⟩
    · rw [stillOpen]
      exact iff_of_false Bool.false_ne_true fun closes => hasEnded closes.1
    · intro closed
      rw [stillOpen] at closed
      cases closed

/-- The handler returns early. -/
theorem eventDone_early
    (after : After env slot reached event.del (c, p) ended last)
    (data : DataDone event held (c, p) last)
    (isOpen : c.connClosed = false)
    (early : ¬ event.Finishes held c) :
    EventDone slot event held (c, p) last := by
  obtain ⟨-, flags, fd, discard⟩ := after.flags isOpen
  exact data.open' (fun closes => early closes.finishes) flags fd discard
    after.freeConnections

/-- The handler gets as far as `close_connection`. -/
theorem eventDone_finish
    (after : After env slot reached event.del (c, p) ended last)
    (data : DataDone event held (c, p) last)
    (isOpen : c.connClosed = false)
    (callback : c.discard = true)
    (finishes : event.Finishes held c)
    (unregisters : ended ↔ event.Unregisters held c)
    (closed : closeConnection slot last.1 last.2 = .ok next) :
    EventDone slot event held (c, p) next := by
  obtain ⟨isClosed, flags, fd, discard⟩ := after.flags isOpen
  unfold closeConnection at closed
  by_cases closes : last.1.connClosed = true
  · rw [if_pos closes] at closed
    obtain ⟨hasEnded, deletes⟩ := isClosed.mp closes
    exact data.close ⟨finishes, unregisters.mp hasEnded, deletes⟩
      (discard.trans callback) after.freeConnections closed
  · rw [if_neg closes] at closed
    cases closed
    refine data.open' ?_ flags fd discard after.freeConnections
    intro willClose
    exact closes (isClosed.mpr
      ⟨unregisters.mpr willClose.unregisters, willClose.deletes⟩)

/-- The replies are written, if the event says so, and the handler ends. -/
theorem eventDone_write
    (after : After env slot reached event.del (c, p) ended last)
    (data : DataDone event held (c, p) last)
    (bers :
      last.1.rplList.map LdapData.ber =
        c.rplList.map LdapData.ber ++ responses (event.processed held c))
    (isOpen : c.connClosed = false)
    (callback : c.discard = true)
    (noTimeout : event.timeout = false)
    (finishes : event.Finishes held c)
    (endedIff : ended ↔ event.ReadsFrom c ∧ event.Ends held c)
    (closed :
      (if event.write then
        closeConnection slot (eventWrite event last.1 last.2).1
          (eventWrite event last.1 last.2).2
      else
        closeConnection slot last.1 last.2) =
        .ok next) :
    EventDone slot event held (c, p) next := by
  have unregisters :
      event.Unregisters held c ↔
        ended ∨
          event.write = true ∧
            sendAll (event.pending held c) event.send = .failed := by
    unfold Event.Unregisters
    rw [noTimeout, endedIff]
    exact or_iff_right Bool.false_ne_true
  by_cases write : event.write = true
  · rw [if_pos write] at closed
    have fails :
        (ldapWrite last.1 last.2 event.send).1 < 0 ↔
          sendAll (event.pending held c) event.send = .failed := by
      unfold Event.pending
      rw [← bers, List.map_map]
      exact ldapWriteLoop_fails_iff _ _ _ _
    refine eventDone_finish after.write data.write isOpen callback finishes
      ?_ closed
    rw [unregisters, fails]
    exact or_congr_right (and_iff_right write).symm
  · rw [if_neg write] at closed
    refine eventDone_finish after data isOpen callback finishes ?_ closed
    rw [unregisters]
    exact (or_iff_left fun fails => write fails.1).symm

/-- A timeout unregisters the connection. -/
theorem eventDone_timeout
    (holding : c.Holding held)
    (isOpen : c.connClosed = false)
    (callback : c.discard = true)
    (timeout : event.timeout = true)
    (closed :
      closeConnection slot (ioUnregister event.del c).2 p = .ok next)
    (env : Environment) :
    EventDone slot event held (c, p) next := by
  have idle : ¬ event.ReadsFrom c := by
    intro reads
    rw [reads.1.2] at timeout
    cases timeout
  have data : DataDone event held (c, p) ((ioUnregister event.del c).2, p) :=
    dataDone_idle holding idle (ioUnregister_owned event.del c)
      (ioUnregister_curData event.del c)
  have after :=
    after_unregister holding env slot (fun _ => False) event.del p
  exact eventDone_finish after data isOpen callback (.inl timeout)
    (iff_of_true trivial (.inl timeout)) closed

/-- A connection that is not active is left alone. -/
theorem eventDone_inactive
    (holding : c.Holding held)
    (isOpen : c.connClosed = false)
    (noTimeout : event.timeout = false)
    (inactive : c.connActive = false)
    (env : Environment) :
    EventDone slot event held (c, p) (c, p) := by
  have notActive : ¬ c.connActive = true :=
    Bool.eq_false_iff.mp inactive
  have idle : ¬ event.ReadsFrom c := fun reads => notActive reads.2.1
  have after := after_nothing holding env slot (fun _ => False) event.del p
  refine eventDone_early after (dataDone_idle holding idle rfl rfl) isOpen ?_
  rintro (timeout | ⟨active, -⟩)
  · exact Bool.eq_false_iff.mp noTimeout timeout
  · exact notActive active

/-- The reads are processed and a refused message ends the handler. -/
theorem eventDone_stopped
    (holding : c.Holding held)
    (isOpen : c.connClosed = false)
    (reads : event.ReadsFrom c)
    (result : eventRead env slot event c p = .ok (true, next)) :
    EventDone slot event held (c, p) next := by
  have data := (eventRead_done holding result).data reads
  have spec := eventRead_spec holding env slot event p
  rw [result] at spec
  cases spec with
  | finished _ _ _ _ stops after =>
      refine eventDone_early after data isOpen ?_
      rintro (timeout | ⟨-, goesOn⟩)
      · exact Bool.eq_false_iff.mp reads.1.2 timeout
      · rw [Event.processed, if_pos reads] at goesOn
        exact goesOn (stops.mp rfl)

/-- The reads are processed and the handler goes on. -/
theorem eventDone_read
    {middle : Connection × Process}
    (holding : c.Holding held)
    (isOpen : c.connClosed = false)
    (callback : c.discard = true)
    (reads : event.ReadsFrom c)
    (result : eventRead env slot event c p = .ok (false, middle))
    (closed :
      (if event.write then
        closeConnection slot (eventWrite event middle.1 middle.2).1
          (eventWrite event middle.1 middle.2).2
      else
        closeConnection slot middle.1 middle.2) =
        .ok next) :
    EventDone slot event held (c, p) next := by
  have processed : event.processed held c = event.batch held c :=
    if_pos reads
  have done := eventRead_done holding result
  have bers := done.bers
  have spec := eventRead_spec holding env slot event p
  rw [result] at spec
  rw [← processed] at bers
  cases spec with
  | finished _ _ _ _ stops after =>
      have finishes : event.Finishes held c := by
        refine .inr ⟨reads.2.1, ?_⟩
        rw [processed]
        intro stop
        cases stops.mpr stop
      exact eventDone_write after (done.data reads) bers isOpen callback
        reads.1.2 finishes (and_iff_right reads).symm closed

/-- Without a read, replies may still be written. -/
theorem eventDone_unread
    (holding : c.Holding held)
    (isOpen : c.connClosed = false)
    (callback : c.discard = true)
    (noTimeout : event.timeout = false)
    (active : c.connActive = true)
    (notRead : ¬ event.read = true)
    (closed :
      (if event.write then
        closeConnection slot (eventWrite event c p).1 (eventWrite event c p).2
      else
        closeConnection slot c p) =
        .ok next)
    (env : Environment) :
    EventDone slot event held (c, p) next := by
  have idle : ¬ event.ReadsFrom c := fun reads => notRead reads.1.1
  have processed : event.processed held c = [] := if_neg idle
  have finishes : event.Finishes held c := by
    refine .inr ⟨active, ?_⟩
    rw [processed]
    rintro ⟨ber, never, -⟩
    cases never
  have after := after_nothing holding env slot (fun _ => False) event.del p
  refine eventDone_write after (dataDone_idle holding idle rfl rfl) ?_
    isOpen callback noTimeout finishes ?_ closed
  · rw [processed]
    exact (List.append_nil _).symm
  · exact iff_of_false id fun ends => idle ends.1

/-- What the event handler has done with an event of an open connection. -/
theorem handler_done
    (holding : c.Holding held)
    (notClosing : c.connClosing = false)
    (isOpen : c.connClosed = false)
    (callback : c.discard = true)
    (handled : lpLdapIoEventHandler env slot event c p = .ok next) :
    EventDone slot event held (c, p) next := by
  unfold lpLdapIoEventHandler at handled
  by_cases noFd : c.fd = 0
  · rw [if_pos noFd] at handled
    cases handled
  rw [if_neg noFd, if_neg (Bool.eq_false_iff.mp notClosing)] at handled
  by_cases timeout : event.timeout = true
  · rw [if_pos timeout] at handled
    exact eventDone_timeout holding isOpen callback timeout handled env
  have noTimeout : event.timeout = false := Bool.eq_false_iff.mpr timeout
  rw [if_neg timeout] at handled
  by_cases inactive : c.connActive = false
  · rw [if_pos inactive] at handled
    cases handled
    exact eventDone_inactive holding isOpen noTimeout inactive env
  have active : c.connActive = true := Bool.eq_true_of_not_eq_false inactive
  rw [if_neg inactive] at handled
  by_cases read : event.read = true
  · rw [if_pos read] at handled
    have reads : event.ReadsFrom c :=
      ⟨⟨read, noTimeout⟩, active, notClosing⟩
    cases result : eventRead env slot event c p with
    | error abort =>
        rw [result] at handled
        cases handled
    | ok outcome =>
        obtain ⟨early, middle⟩ := outcome
        rw [result] at handled
        cases early with
        | true =>
            cases handled
            exact eventDone_stopped holding isOpen reads result
        | false =>
            exact eventDone_read holding isOpen callback reads result handled
  · rw [if_neg read] at handled
    exact eventDone_unread holding isOpen callback noTimeout active read
      handled env

/-- With its callback set, a connection can be closed. -/
theorem closeConnection_returns
    (callback : c.discard = true)
    (slot : Nat)
    (p : Process) :
    ∃ next, closeConnection slot c p = .ok next := by
  unfold closeConnection lpCloseConnection
  rw [lpFreeConnection_eq slot callback]
  split
  · exact ⟨_, rfl⟩
  · exact ⟨_, rfl⟩

/-- The handler returns from an event that closes, unless its reads abort. -/
theorem handler_returns
    (holding : c.Holding held)
    (fd : c.fd ≠ 0)
    (notClosing : c.connClosing = false)
    (isOpen : c.connClosed = false)
    (callback : c.discard = true)
    (reads :
      event.ReadsFrom c →
        (event.frames held).ending ≠ .stuck ∧
          ¬ HasUnknownOp (event.batch held c))
    (closes : event.Closes held c)
    (env : Environment)
    (slot : Nat)
    (p : Process) :
    ∃ next, lpLdapIoEventHandler env slot event c p = .ok next := by
  by_cases timeout : event.timeout = true
  · have goesOn : ¬ c.connClosing = true := by
      rw [notClosing]
      decide
    obtain ⟨rev, wev, closed, same⟩ := ioUnregister_fields event.del c
    have kept : (ioUnregister event.del c).2.discard = true := by
      rw [same]
      exact callback
    unfold lpLdapIoEventHandler
    rw [if_neg fd, if_neg goesOn, if_pos timeout]
    exact closeConnection_returns kept slot p
  · have active := (closes.finishes.resolve_left timeout).1
    have handled :=
      handler_spec ⟨fd, active, notClosing⟩ holding env slot event p
    generalize lpLdapIoEventHandler env slot event c p = outcome at handled ⊢
    cases handled with
    | stuck isRead ending =>
        exact ((reads ⟨isRead, active, notClosing⟩).1 ending).elim
    | unknown isRead _ unknown =>
        exact ((reads ⟨isRead, active, notClosing⟩).2 unknown).elim
    | early next _ _ _ _ _ =>
        exact ⟨next, rfl⟩
    | finished ended next _ after =>
        obtain ⟨-, -, -, discard⟩ := after.flags isOpen
        exact closeConnection_returns (discard.trans callback) slot next.2

end LdapProxy

import LdapProxy.RequestEffects
import LdapProxy.RoundRobin

namespace LdapProxy

open LdapProxy.Ber
open LdapProxy.Lber
open LdapProxy.RoundRobin

/-!
# The answer to a batch of requests

What `__ldap_process_request` does with binds, searches and unbinds that are
well formed, in any order: the replies, the queries of the MySQL workers, the
ticks of the connection and the deletion of its events follow the order of the
requests.
-/

/-- The octets of a bind request. -/
inductive BindOctets : List UInt8 → Prop where
  | intro
      (version name nameOctets : List UInt8)
      (tag : UInt8)
      (credentials authentication octets : List UInt8) :
      NumberOctets 0x02 version →
      Element 8 0x04 name nameOctets →
      SingleOctetTag tag →
      Element 8 tag credentials authentication →
      Element 8 0x60 (version ++ (nameOctets ++ authentication)) octets →
      BindOctets octets

/-- An operation that the proxy carries out. -/
inductive ClientOperation where
  | bind
  | search (request : SearchRequest)
  | unbind
  deriving Repr, DecidableEq

/-- The operation as `lp_req2op` classifies it. -/
def ClientOperation.lpOp : ClientOperation → LpOp
  | .bind =>
      .bind
  | .search _ =>
      .search
  | .unbind =>
      .unbind

/-- The octets of an operation. -/
inductive OperationOctets : ClientOperation → List UInt8 → Prop where
  | bind (octets : List UInt8) :
      BindOctets octets →
      OperationOctets .bind octets
  | search (request : SearchRequest) (octets : List UInt8) :
      SearchOctets request octets →
      OperationOctets (.search request) octets
  | unbind (octets : List UInt8) :
      Element 8 0x42 [] octets →
      OperationOctets .unbind octets

/-- A request message of a client. -/
structure ClientMessage where
  id : Int
  operation : ClientOperation
  deriving Repr, DecidableEq

/--
The contents of a message.  The message id has one to four octets, not
necessarily as few as possible, and controls may follow the operation.
-/
inductive MessageOctets (message : ClientMessage) : List UInt8 → Prop where
  | intro
      (number id operation controls : List UInt8) :
      number ≠ [] →
      number.length ≤ 4 →
      twosComplement number = message.id →
      Element 8 0x02 number id →
      OperationOctets message.operation operation →
      MessageOctets message (id ++ (operation ++ controls))

/-- The element of the request list holds the message. -/
def Carries (itr : LdapData BerElement) (message : ClientMessage) : Prop :=
  ∃ contents,
    itr.ber = messageElement contents ∧ MessageOctets message contents

/-- The strings of a search fit the arrays of its query. -/
def ClientMessage.Storable (message : ClientMessage) : Prop :=
  ∀ request, message.operation = .search request → request.Storable

/-- The message ids of the binds, in order. -/
def bindIds (messages : List ClientMessage) : List Int :=
  messages.filterMap fun message =>
    match message.operation with
    | .bind =>
        some message.id
    | _ =>
        none

/-- The searches with their message ids, in order. -/
def searches (messages : List ClientMessage) : List (Int × SearchRequest) :=
  messages.filterMap fun message =>
    match message.operation with
    | .search request =>
        some (message.id, request)
    | _ =>
        none

/-- Some message is an unbind. -/
def HasUnbind (messages : List ClientMessage) : Prop :=
  ClientOperation.unbind ∈ messages.map ClientMessage.operation

instance (messages : List ClientMessage) : Decidable (HasUnbind messages) :=
  inferInstanceAs (Decidable (_ ∈ _))

variable {itr : LdapData BerElement}
variable {message : ClientMessage}

/-- What the loop finds at the head of a message. -/
theorem Carries.dispatch (carries : Carries itr message) :
    (-2 ^ 31 ≤ message.id ∧ message.id < 2 ^ 31) ∧
      (berGetInt itr.ber).1 = ldapTagMsgid ∧
      (berGetInt itr.ber).2.1 = some message.id ∧
      ∃ operation controls,
        OperationOctets message.operation operation ∧
          At (protocolOp itr.ber) (operation ++ controls) := by
  obtain ⟨contents, isMessage, encoded⟩ := carries
  obtain ⟨number, id, operation, controls, nonempty, short, value, element,
    operates⟩ := encoded
  have atStart :
      At (messageElement (id ++ (operation ++ controls)))
        (id ++ (operation ++ controls)) :=
    ⟨Nat.zero_le _, rfl, fun _ _ _ => .inl rfl⟩
  obtain ⟨next, gets, atOperation⟩ :=
    atStart.getInt element (by decide) short
  rw [← isMessage, netnum_eq_twosComplement, value] at gets
  unfold protocolOp
  rw [gets, ← value]
  exact
    ⟨twosComplement_small short, rfl, rfl, operation, controls, operates,
      atOperation⟩

/-- What the cursor finds at an operation. -/
theorem OperationOctets.kind
    {operation : ClientOperation}
    {octets rest : List UInt8}
    {op : BerElement}
    (operates : OperationOctets operation octets)
    (atOperation : At op (octets ++ rest)) :
    berPeekTag op ≠ lberDefault ∧
      lpReq2op (berPeekTag op) = operation.lpOp := by
  cases operates with
  | bind _ binds =>
      cases binds with
      | intro _ _ _ _ _ _ _ _ _ _ _ element =>
          rw [atOperation.peekTag element (by decide)]
          exact ⟨by decide, rfl⟩
  | search request _ searches =>
      cases searches with
      | intro _ _ _ _ _ _ _ _ _ _ _ _ _ _ _ _ _ _ element =>
          rw [atOperation.peekTag element (by decide)]
          exact ⟨by decide, rfl⟩
  | unbind _ element =>
      rw [atOperation.peekTag element (by decide)]
      exact ⟨by decide, rfl⟩

/-- A bind request is scanned. -/
theorem BindOctets.scanned
    {octets rest : List UInt8}
    {op : BerElement}
    (binds : BindOctets octets)
    (atBind : At op (octets ++ rest)) :
    ∃ values next, berScanf ['{', 'i', 't'] op = (some values, next) := by
  obtain ⟨version, name, nameOctets, tag, credentials, authentication, _,
    versionNumber, nameElement, single, authElement, element⟩ := binds
  obtain ⟨inside, opened, atVersion⟩ :=
    atBind.scanOpen element (by decide)
  rw [List.append_assoc] at atVersion
  obtain ⟨number, next, scans, atName⟩ :=
    scan_number versionNumber (by decide) atVersion (.inr (.inr rfl))
  rw [List.append_assoc] at atName
  have peeked := atName.peekTag nameElement (by decide)
  have tagScan :
      scanConversion 't' next = (some [.tag (0x04 : UInt8).toNat], next) := by
    have known : ¬ (0x04 : UInt8).toNat = lberDefault :=
      At.tag_ne_default 0x04
    simp only [scanConversion, peeked, known, if_false]
  exact
    ⟨_, next, berScanf_cons opened (berScanf_cons scans
      (berScanf_cons tagScan rfl))⟩

/-- The query asks for what the search with this message id asks for. -/
def Asks (search : Int × SearchRequest) (query : Task) : Prop :=
  query.data.getInt msgidField = search.1 ∧
    query.data.Shows (search.2.record search.1)

/--
The messages are answered: one reply for each bind and one query for each
search, in their order, with one tick for each query; the queries are dealt out
to the MySQL workers in turn, and the events are deleted if there is an unbind.
-/
structure Answered
    (env : Environment)
    (messages : List ClientMessage)
    (before after : Connection × Process)
    (replies : List (LdapData OutElement))
    (queries : List Task) :
    Prop where
  control :
    after.1.control =
      if HasUnbind messages then
        (ioUnregister .succeed before.1).2.control
      else
        before.1.control
  rplList : after.1.rplList = before.1.rplList ++ replies
  binds :
    replies.map (fun reply => decodeBindResponse reply.ber.octets) =
      (bindIds messages).map fun id => some (bindSuccess id)
  searches : List.Forall₂ Asks (searches messages) queries
  queues :
    ∀ worker,
      (after.2.mysqls worker).queue =
        (before.2.mysqls worker).queue ++
          dealt env.mysqlNum before.2.mysqlIndex queries worker
  ticks : after.1.taskTicks = before.1.taskTicks ++ queries.map Task.tick
  turn :
    after.2.mysqlIndex % env.mysqlNum =
      (before.2.mysqlIndex + queries.length) % env.mysqlNum
  inside : after.2.mysqlIndex < env.mysqlNum

variable {env : Environment}
variable {ctx : RequestContext}
variable {operation controls : List UInt8}
variable {op : BerElement}

/-- Nothing has happened before the first message. -/
theorem Answered.nil
    {before : Connection × Process}
    (inside : before.2.mysqlIndex < env.mysqlNum) :
    Answered env [] before before [] [] where
  control := rfl
  rplList := (List.append_nil _).symm
  binds := rfl
  searches := .nil
  queues := fun _ => (List.append_nil _).symm
  ticks := (List.append_nil _).symm
  turn := rfl
  inside := inside

variable {messages later : List ClientMessage}
variable {before middle after : Connection × Process}
variable {now andThen : List (LdapData OutElement)}
variable {asked askedLater : List Task}

/-- An unbind is in the first or in the second part. -/
theorem hasUnbind_append :
    HasUnbind (messages ++ later) ↔ HasUnbind messages ∨ HasUnbind later := by
  unfold HasUnbind
  rw [List.map_append, List.mem_append]

/-- Only an unbind that comes first deletes the events. -/
theorem Answered.control_append
    (first : Answered env messages before middle now asked)
    (second : Answered env later middle after andThen askedLater) :
    after.1.control =
      if HasUnbind (messages ++ later) then
        (ioUnregister .succeed before.1).2.control
      else
        before.1.control := by
  have firstControl := first.control
  rw [second.control]
  simp only [hasUnbind_append]
  by_cases here : HasUnbind messages
  · rw [if_pos here] at firstControl
    rw [if_pos (Or.inl here)]
    by_cases there : HasUnbind later
    · have again := control_ioUnregister .succeed firstControl
      rw [ioUnregister_twice] at again
      rw [if_pos there, again]
    · rw [if_neg there, firstControl]
  · rw [if_neg here] at firstControl
    by_cases there : HasUnbind later
    · rw [if_pos there, if_pos (Or.inr there)]
      exact control_ioUnregister .succeed firstControl
    · have nowhere : ¬ (HasUnbind messages ∨ HasUnbind later) :=
        not_or.mpr ⟨here, there⟩
      rw [if_neg there, if_neg nowhere, firstControl]

/-- Messages that follow are answered after those before them. -/
theorem Answered.append
    (first : Answered env messages before middle now asked)
    (second : Answered env later middle after andThen askedLater) :
    Answered env (messages ++ later) before after (now ++ andThen)
      (asked ++ askedLater) := by
  constructor
  · exact first.control_append second
  · rw [second.rplList, first.rplList, List.append_assoc]
  · unfold bindIds
    rw [List.map_append, List.filterMap_append, List.map_append]
    exact congrArg₂ (· ++ ·) first.binds second.binds
  · unfold LdapProxy.searches
    rw [List.filterMap_append]
    exact List.rel_append first.searches second.searches
  · intro worker
    rw [second.queues, first.queues, dealt_append, List.append_assoc,
      dealt_congr askedLater first.turn]
  · rw [second.ticks, first.ticks, List.map_append, List.append_assoc]
  · calc
      after.2.mysqlIndex % env.mysqlNum
          = (middle.2.mysqlIndex + askedLater.length) % env.mysqlNum :=
        second.turn
      _ = (before.2.mysqlIndex + asked.length + askedLater.length) %
            env.mysqlNum :=
        Nat.ModEq.add_right askedLater.length first.turn
      _ = (before.2.mysqlIndex + (asked ++ askedLater).length) %
            env.mysqlNum := by
        rw [List.length_append, Nat.add_assoc]
  · exact second.inside

/-- Taking the element from the list and destroying it answers nothing. -/
theorem Answered.around
    {c : Connection}
    {p : Process}
    {reqList : List (LdapData BerElement)}
    (answered :
      Answered env messages ({ c with reqList := reqList }, p) middle now
        asked)
    (id : Nat) :
    Answered env messages (c, p) (middle.1, ldapDataDestroy id middle.2) now
      asked where
  control := by
    have sameControl :
        ({ c with reqList := reqList } : Connection).control = c.control :=
      rfl
    have same := control_ioUnregister .succeed sameControl
    rw [← same]
    exact answered.control
  rplList := answered.rplList
  binds := answered.binds
  searches := answered.searches
  queues := answered.queues
  ticks := answered.ticks
  turn := answered.turn
  inside := answered.inside

/--
How often the loop of `__ldap_process_request` gets as far as `event_del`: an
unbind calls it while `conn_closed` is not set.
-/
def eventDeletions (ctx : RequestContext) :
    List (LdapData BerElement) → Connection → Process → Nat
  | [], _, _ =>
      0
  | itr :: rest, c, p =>
      let c := { c with reqList := rest }
      match berGetInt itr.ber with
      | (tag, msgid, ber) =>
          if tag ≠ ldapTagMsgid then
            0
          else
            let tag := berPeekTag ber
            if tag = lberDefault then
              eventDeletions ctx rest c (ldapDataDestroy itr.id p)
            else
              match opfunc ctx (lpReq2op tag) ber c p (msgid.getD 0) with
              | none =>
                  eventDeletions ctx rest c p
              | some (.error _) =>
                  0
              | some (.ok (_, next, p)) =>
                  (if lpReq2op tag = .unbind ∧ c.connClosed = false then 1
                    else 0) +
                    eventDeletions ctx rest next (ldapDataDestroy itr.id p)

/-- One repetition of the loop that carries out an operation. -/
theorem loops_done
    {ctx : RequestContext}
    (carries : Carries itr message)
    (rest : List (LdapData BerElement))
    {c next : Connection}
    {p q : Process}
    {ret : Int}
    (does :
      opfunc ctx message.operation.lpOp (protocolOp itr.ber)
          { c with reqList := rest } p message.id =
        some (.ok (ret, next, q))) :
    processRequestLoop ctx (itr :: rest) c p =
        processRequestLoop ctx rest next (ldapDataDestroy itr.id q) ∧
      eventDeletions ctx (itr :: rest) c p =
        (if message.operation = .unbind ∧ c.connClosed = false then 1 else 0) +
          eventDeletions ctx rest next (ldapDataDestroy itr.id q) := by
  obtain ⟨-, isMsgid, msgid, operation, controls, operates, atOperation⟩ :=
    carries.dispatch
  obtain ⟨tagged, kind⟩ := operates.kind atOperation
  have notLast : ¬ message.operation.lpOp = .last := by
    cases message.operation <;> exact LpOp.noConfusion
  have unbinds :
      message.operation.lpOp = .unbind ↔ message.operation = .unbind := by
    cases message.operation <;> simp [ClientOperation.lpOp]
  constructor
  · rw [processRequestLoop_cons, if_neg (not_not.mpr isMsgid),
      if_neg tagged, kind, if_neg notLast, msgid]
    simp only [Option.getD_some, does]
  · unfold protocolOp at tagged kind does
    refine (eventDeletions.eq_2 ctx c p itr rest).trans ?_
    generalize berGetInt itr.ber = got at isMsgid msgid tagged kind does ⊢
    obtain ⟨tag, value, ber⟩ := got
    simp only at isMsgid msgid tagged kind does ⊢
    rw [if_neg (not_not.mpr isMsgid), if_neg tagged, kind, msgid]
    simp only [Option.getD_some, does, unbinds]

/-- The connection is closed by the first unbind. -/
theorem Answered.connClosed
    (answered : Answered env messages before after now asked) :
    after.1.connClosed =
      (decide (HasUnbind messages) || before.1.connClosed) := by
  have control := congrArg Connection.connClosed answered.control
  by_cases unbinds : HasUnbind messages
  · rw [if_pos unbinds] at control
    have closed : (ioUnregister .succeed before.1).2.connClosed = true := by
      unfold ioUnregister EventDel.succeed
      cases before.1.connClosed <;> cases before.1.wevActive <;> rfl
    simp only [unbinds, decide_true, Bool.true_or]
    exact control.trans closed
  · rw [if_neg unbinds] at control
    simp only [unbinds, decide_false, Bool.false_or]
    exact control

/-- The first unbind is this message or a later one. -/
theorem hasUnbind_cons :
    HasUnbind (message :: later) ↔
      message.operation = .unbind ∨ HasUnbind later := by
  unfold HasUnbind
  rw [List.map_cons, List.mem_cons, eq_comm]

end LdapProxy

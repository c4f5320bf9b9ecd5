import LdapProxy.BatchAnswers
import LdapProxy.EventOutcome
import LdapProxy.OwnedData
import LdapProxy.ReplyDelivery
import LdapProxy.StreamFraming
import LdapProxy.Wiring

namespace LdapProxy

open LdapProxy.Ber
open LdapProxy.Lber

/-!
# The events of one client

What the event handler and the execution of a reply do for a client that sends
binds and searches.  Each of them leaves the connection listening, sends the
replies in their order and forgets no request: a bind gets its response at
once, a search becomes a query, and a reply of a MySQL worker answers it.
-/

/-- The element carries a bind, or a search with short strings. -/
structure Speaks (element : StreamElement) (message : ClientMessage) :
    Prop where
  octets : MessageOctets message element.contents
  short : ∀ request, message.operation = .search request → request.Short
  staysOn : message.operation ≠ .unbind

/-- An element has a tag, length octets and its contents. -/
theorem length_element
    {limit : Nat}
    {tag : UInt8}
    {contents octets : List UInt8}
    (element : Element limit tag contents octets) :
    contents.length + 2 ≤ octets.length := by
  obtain ⟨lengthOctets, isLength, rfl⟩ := element
  have positive : 0 < lengthOctets.length := by
    generalize contents.length = length at isLength
    cases isLength <;> simp
  simp only [List.cons_append, List.length_cons, List.length_append]
  omega

/-- An operation other than an unbind has contents. -/
theorem OperationOctets.long
    {operation : ClientOperation}
    {octets : List UInt8}
    (operates : OperationOctets operation octets)
    (staysOn : operation ≠ .unbind) :
    4 ≤ octets.length := by
  cases operates with
  | bind _ binds =>
      cases binds with
      | intro _ _ _ _ _ _ _ version _ _ _ element =>
          obtain ⟨_, _, number⟩ := version
          have first := length_element number
          have whole := length_element element
          simp only [List.length_append] at whole
          omega
  | search request _ searches =>
      cases searches with
      | intro _ _ _ _ _ _ _ _ _ _ base _ _ _ _ _ _ _ element =>
          have first := length_element base
          have whole := length_element element
          simp only [List.length_append] at whole
          omega
  | unbind _ element =>
      exact (staysOn rfl).elim

/-- A bind or a search has more octets than the largest header. -/
theorem Speaks.long
    {element : StreamElement}
    {message : ClientMessage}
    (speaks : Speaks element message) :
    8 ≤ element.octets.length := by
  have whole := length_element element.encoded
  have isMessage := speaks.octets
  generalize element.contents = contents at whole isMessage
  obtain ⟨number, id, operation, controls, nonempty, short, value, isId,
    operates⟩ := isMessage
  have first := length_element isId
  have second := operates.long speaks.staysOn
  have positive := List.length_pos_of_ne_nil nonempty
  simp only [List.length_append] at whole
  omega

/-- Every element of such a stream is long enough. -/
theorem longElements_of_spoken
    {elements : List StreamElement}
    {messages : List ClientMessage}
    (spoken : List.Forall₂ Speaks elements messages)
    (stream : List UInt8) :
    LongElements elements stream := by
  have long : ∀ element ∈ elements, 8 ≤ element.octets.length := by
    induction spoken with
    | nil =>
        simp
    | cons speaks _ inductionHypothesis =>
        simp only [List.forall_mem_cons]
        exact ⟨speaks.long, inductionHypothesis⟩
  intro before element after split _
  apply long
  rw [split]
  exact List.mem_append_right _ (List.mem_cons_self ..)

/-- The contents of the elements are the messages. -/
theorem carries_of_spoken
    {elements : List StreamElement}
    {messages : List ClientMessage}
    (spoken : List.Forall₂ Speaks elements messages)
    {requests : List (LdapData BerElement)}
    (received :
      requests.map LdapData.ber =
        elements.map (messageElement ∘ StreamElement.contents)) :
    List.Forall₂ Carries requests messages := by
  induction spoken generalizing requests with
  | nil =>
      rw [List.map_nil, List.map_eq_nil_iff] at received
      rw [received]
      exact .nil
  | cons speaks _ inductionHypothesis =>
      rw [List.map_cons, List.map_eq_cons_iff] at received
      obtain ⟨itr, rest, rfl, isElement, others⟩ := received
      exact .cons ⟨_, isElement, speaks.octets⟩ (inductionHypothesis others)

/-- The binds among the messages. -/
def bindsOf (messages : List ClientMessage) : List ClientMessage :=
  messages.filter fun message => message.operation = .bind

/--
The octets are the answer to the message: the response of a bind, and to a
search the entry and the result that some run of the lookups stands for.
-/
def ClientMessage.AnsweredBy
    (env : Environment)
    (message : ClientMessage)
    (octets : List UInt8) :
    Prop :=
  match message.operation with
  | .bind =>
      decodeBindResponse octets = some (bindSuccess message.id)
  | .search request =>
      ∃ lookups,
        decodeReplies octets =
          some
            (request.answer message.id (env.entUserExist lookups)
              (env.smaMailListExist lookups))
  | .unbind =>
      False

/-- The query asks, for this slot, what the search asks. -/
structure QueryFor
    (slot : Nat)
    (search : Int × SearchRequest)
    (query : Task) :
    Prop where
  c : query.c = slot
  shows : query.data.Shows (search.2.record search.1)
  short : search.2.Short
  small : -2 ^ 31 ≤ search.1 ∧ search.1 < 2 ^ 31

/--
The messages are carried out: the responses to the binds are appended to the
reply list, and for each search there is one more query of the MySQL workers
and one more tick.
-/
structure CarriedOut
    (env : Environment)
    (slot : Nat)
    (messages : List ClientMessage)
    (before after : Connection × Process)
    (replies : List (LdapData OutElement))
    (queries : List Task) :
    Prop where
  connection :
    after.1 =
      { before.1 with
        rplList := before.1.rplList ++ replies
        taskTicks := before.1.taskTicks ++ queries.map Task.tick }
  answered :
    List.Forall₂ (ClientMessage.AnsweredBy env) (bindsOf messages)
      (replies.map fun reply => reply.ber.octets)
  unsent : ∀ reply ∈ replies, Unsent reply.ber
  forwarded : List.Forall₂ (QueryFor slot) (searches messages) queries
  tasks :
    after.2.mysqlTasks env =
      (queries : Multiset Task) + before.2.mysqlTasks env
  freeConnections : after.2.freeConnections = before.2.freeConnections
  inside : after.2.mysqlIndex < env.mysqlNum

variable {env : Environment}
variable {slot : Nat}
variable {messages later : List ClientMessage}
variable {before middle after : Connection × Process}
variable {now andThen : List (LdapData OutElement)}
variable {asked askedLater : List Task}

/-- Nothing is carried out at first. -/
theorem CarriedOut.nil
    (inside : before.2.mysqlIndex < env.mysqlNum) :
    CarriedOut env slot [] before before [] [] where
  connection := by simp
  answered := .nil
  unsent := by simp
  forwarded := .nil
  tasks := by simp
  freeConnections := rfl
  inside := inside

/-- Messages that follow are carried out after those before them. -/
theorem CarriedOut.append
    (first : CarriedOut env slot messages before middle now asked)
    (second : CarriedOut env slot later middle after andThen askedLater) :
    CarriedOut env slot (messages ++ later) before after (now ++ andThen)
      (asked ++ askedLater) where
  connection := by
    rw [second.connection, first.connection]
    simp only [List.append_assoc, List.map_append]
  answered := by
    unfold bindsOf
    rw [List.filter_append, List.map_append]
    exact List.rel_append first.answered second.answered
  unsent reply member := by
    rcases List.mem_append.mp member with inNow | inLater
    · exact first.unsent reply inNow
    · exact second.unsent reply inLater
  forwarded := by
    unfold searches
    rw [List.filterMap_append]
    exact List.rel_append first.forwarded second.forwarded
  tasks := by
    rw [second.tasks, first.tasks, ← Multiset.coe_add]
    abel
  freeConnections := second.freeConnections.trans first.freeConnections
  inside := second.inside

/-- The request list and the destruction of a request play no part. -/
theorem CarriedOut.around
    {c : Connection}
    {p : Process}
    (carried : CarriedOut env slot messages (c, p) middle now asked)
    (reqList : List (LdapData BerElement))
    (id : Nat) :
    CarriedOut env slot messages ({ c with reqList := reqList }, p)
      ({ middle.1 with reqList := reqList }, ldapDataDestroy id middle.2) now
      asked where
  connection := by
    rw [carried.connection]
  answered := carried.answered
  unsent := carried.unsent
  forwarded := carried.forwarded
  tasks := carried.tasks
  freeConnections := carried.freeConnections
  inside := carried.inside

/-- Nothing was sent of a response that has just been printed. -/
theorem bindResponse_unsent
    {id : Int}
    {ber : OutElement}
    (printed : bindResponse id = some ber) :
    Unsent ber := by
  obtain ⟨next, encoded, prints, -⟩ :=
    berPrintf_new (run_bindFormat id) (Nat.le_of_ble_eq_true rfl)
  rw [Option.some.inj (printed.symm.trans encoded)]
  exact prints.unsent

/-- A bind is carried out with a response. -/
theorem bind_carriedOut
    {operation controls : List UInt8}
    {op : BerElement}
    {id : Int}
    (small : -2 ^ 31 ≤ id ∧ id < 2 ^ 31)
    (binds : BindOctets operation)
    (atBind : At op (operation ++ controls))
    (slot : Nat)
    (c : Connection)
    (p : Process)
    (inside : p.mysqlIndex < env.mysqlNum) :
    ∃ ret next replies,
      lpDoBind op c p id = .ok (ret, next) ∧
        CarriedOut env slot [⟨id, .bind⟩] (c, p) next replies [] := by
  obtain ⟨_, kind⟩ := (OperationOctets.bind _ binds).kind atBind
  have tag := tag_of_bind kind
  have known : ¬ ldapReqBind = lberDefault := by decide
  obtain ⟨values, last, scanned⟩ := binds.scanned atBind
  have does : lpDoBind op c p id = .ok (lpResponseBind c p id) := by
    simp only [lpDoBind, tag, known, if_false, ne_eq, not_true, scanned]
  obtain ⟨ber, printed, responds, decodes⟩ := lpResponseBind_appends c p id
  rw [responds] at does
  refine ⟨_, _, [⟨p.datas.next, ber, c.incarnation⟩], does, ?_⟩
  exact
    { connection := by simp
      answered := .cons (decodes small) .nil
      unsent := by
        simpa using bindResponse_unsent printed
      forwarded := .nil
      tasks := by
        rw [Multiset.coe_nil, zero_add]
        rfl
      freeConnections := rfl
      inside := inside }

/-- A search is carried out with a query. -/
theorem search_carriedOut
    {operation controls : List UInt8}
    {op : BerElement}
    {id : Int}
    {request : SearchRequest}
    (small : -2 ^ 31 ≤ id ∧ id < 2 ^ 31)
    (encoded : SearchOctets request operation)
    (short : request.Short)
    (atSearch : At op (operation ++ controls))
    (slot : Nat)
    (c : Connection)
    (p : Process)
    (inside : p.mysqlIndex < env.mysqlNum) :
    ∃ ret next queries,
      lpDoSearch env .succeed op slot c p id = .ok (ret, next) ∧
        CarriedOut env slot [⟨id, .search request⟩] (c, p) next [] queries := by
  obtain ⟨msg, pushes, shows⟩ :=
    lpDoSearch_query encoded short.storable atSearch small.1 small.2 env slot
      c p
  refine
    ⟨lpOk, (pushQuery .succeed (lpTaskNew env p).1 msg p.mysqlIndex slot c
        (afterTask env p)).2,
      [queryTask (lpTaskNew env p).1 msg p.mysqlIndex slot c], pushes, ?_⟩
  exact
    { connection := by
        rw [List.append_nil]
        rfl
      answered := .nil
      unsent := by simp
      forwarded := .cons ⟨rfl, shows, short, small⟩ .nil
      tasks := mysqlTasks_pushed inside (by
        simp [MysqlWorker.tasks, afterTask, lpGetMysql, lpTaskNew])
      freeConnections := rfl
      inside := lpGetMysql_lt env (lpTaskNew env p).2 }

/-- An operation that is no unbind is carried out. -/
theorem operation_carriedOut
    {itr : LdapData BerElement}
    {message : ClientMessage}
    (carries : Carries itr message)
    (short :
      ∀ request, message.operation = .search request → request.Short)
    (staysOn : message.operation ≠ .unbind)
    (slot : Nat)
    (del : EventDel)
    (c : Connection)
    (p : Process)
    (inside : p.mysqlIndex < env.mysqlNum) :
    ∃ ret next replies queries,
      opfunc ⟨env, slot, del⟩ message.operation.lpOp (protocolOp itr.ber) c p
          message.id =
          some (.ok (ret, next)) ∧
        CarriedOut env slot [message] (c, p) next replies queries := by
  obtain ⟨small, -, -, operation, controls, operates, atOperation⟩ :=
    carries.dispatch
  obtain ⟨id, operationOf⟩ := message
  cases operates with
  | bind _ binds =>
      obtain ⟨ret, next, replies, does, carried⟩ :=
        bind_carriedOut small binds atOperation slot c p inside
      exact ⟨ret, next, replies, [], congrArg some does, carried⟩
  | search request _ encoded =>
      obtain ⟨ret, next, queries, does, carried⟩ :=
        search_carriedOut small encoded (short request rfl) atOperation slot c
          p inside
      exact ⟨ret, next, [], queries, congrArg some does, carried⟩
  | unbind _ element =>
      exact (staysOn rfl).elim

/-- The loop carries out all messages of the request list. -/
theorem processRequestLoop_carriedOut
    (env : Environment)
    (slot : Nat)
    {requests : List (LdapData BerElement)}
    {messages : List ClientMessage}
    (carried : List.Forall₂ Carries requests messages)
    (short :
      ∀ message ∈ messages,
        ∀ request, message.operation = .search request → request.Short)
    (stays : ¬ HasUnbind messages)
    (del : EventDel)
    (c : Connection)
    (p : Process)
    (empty : requests = [] → c.reqList = [])
    (inside : p.mysqlIndex < env.mysqlNum) :
    ∃ next replies queries,
      processRequestLoop ⟨env, slot, del⟩ requests c p = .ok (lpOk, next) ∧
        CarriedOut env slot messages ({ c with reqList := [] }, p) next replies
          queries := by
  induction carried generalizing c p with
  | nil =>
      have unchanged : ({ c with reqList := [] } : Connection) = c := by
        rw [← empty rfl]
      rw [unchanged]
      exact ⟨(c, p), [], [], rfl, .nil inside⟩
  | @cons itr message rest later carries _ inductionHypothesis =>
      obtain ⟨shortHere, shortLater⟩ := List.forall_mem_cons.mp short
      rw [hasUnbind_cons, not_or] at stays
      obtain ⟨ret, ⟨next, q⟩, now, asked, does, here⟩ :=
        operation_carriedOut carries shortHere stays.1 slot del
          { c with reqList := rest } p inside
      have emptyLater : rest = [] → next.reqList = [] := by
        intro isEmpty
        have sameList := congrArg Connection.reqList here.connection
        exact sameList.trans isEmpty
      obtain ⟨last, replies, queries, loopsLater, there⟩ :=
        inductionHypothesis shortLater stays.2 next (ldapDataDestroy itr.id q)
          emptyLater here.inside
      exact
        ⟨last, now ++ replies, asked ++ queries,
          (loops_done carries rest does).1.trans loopsLater,
          (here.around [] itr.id).append there⟩

/--
A connection in the middle of a conversation: it listens, holds the beginning
of the next element and has no request left, and what it has sent and has still
to send are the answers to these messages, one after the other.
-/
structure Conversation
    (env : Environment)
    (held : List UInt8)
    (answered : List ClientMessage)
    (c : Connection) :
    Prop where
  listening : c.Listening
  isOpen : c.connClosed = false
  holding : c.Holding held
  reqList : c.reqList = []
  sendable : Sendable c.rplList
  delivered :
    ∃ popped,
      c.sent = replyOctets popped ++ headSent c.rplList ∧
        List.Forall₂ (ClientMessage.AnsweredBy env) answered
          ((popped ++ c.rplList.map encoded).map LdapData.ber)

variable {held : List UInt8}
variable {answered : List ClientMessage}
variable {c : Connection}
variable {p : Process}

/-- Unsent replies can be appended. -/
theorem Sendable.append_unsent
    {replies more : List (LdapData OutElement)}
    (sendable : Sendable replies)
    (unsent : ∀ reply ∈ more, Unsent reply.ber) :
    Sendable (replies ++ more) ∧
      headSent (replies ++ more) = headSent replies := by
  cases sendable with
  | none =>
      exact ⟨sendable_of_unsent unsent, headSent_of_unsent unsent⟩
  | head first later inside others =>
      refine ⟨.head first (later ++ more) inside ?_, rfl⟩
      intro other member
      rcases List.mem_append.mp member with inLater | inMore
      · exact others other inLater
      · exact unsent other inMore

/-- Answers that are appended to the reply list continue the conversation. -/
theorem Conversation.reply
    (conversation : Conversation env held answered c)
    {more : List ClientMessage}
    {replies : List (LdapData OutElement)}
    (answers :
      List.Forall₂ (ClientMessage.AnsweredBy env) more
        (replies.map fun reply => reply.ber.octets))
    (unsent : ∀ reply ∈ replies, Unsent reply.ber)
    {heldAfter : List UInt8}
    {curData : Option (LdapData RecvElement)}
    (holding : Connection.Holding { c with curData := curData } heldAfter)
    (taskTicks : List Nat) :
    Conversation env heldAfter (answered ++ more)
      { c with
        curData := curData
        taskTicks := taskTicks
        rplList := c.rplList ++ replies } := by
  obtain ⟨listening, isOpen, -, reqList, sendable, popped, sent, earlier⟩ :=
    conversation
  obtain ⟨sendableAfter, sameHead⟩ := sendable.append_unsent unsent
  refine
    ⟨⟨listening.fd, listening.connActive, listening.connClosing⟩, isOpen,
      holding, reqList, sendableAfter, popped, ?_, ?_⟩
  · simp only [sameHead]
    exact sent
  · have joined := List.rel_append earlier answers
    have same :
        (popped ++ (c.rplList ++ replies).map encoded).map LdapData.ber =
          (popped ++ c.rplList.map encoded).map LdapData.ber ++
            replies.map fun reply => reply.ber.octets := by
      simp [encoded, Function.comp_def]
    simp only [← same] at joined
    exact joined

/-- Sending continues the conversation. -/
theorem Conversation.write
    (conversation : Conversation env held answered c)
    (p : Process)
    (send : List Send) :
    ∃ rplList sent datas,
      (ldapWrite c p send).2 =
          ({ c with rplList := rplList, sent := sent },
            { p with datas := datas }) ∧
        Conversation env held answered
          { c with rplList := rplList, sent := sent } := by
  obtain ⟨listening, isOpen, holding, reqList, sendable, popped, sent,
    earlier⟩ := conversation
  obtain ⟨more, rest, wrote⟩ := ldapWrite_spec sendable p send sent
  refine
    ⟨rest, replyOctets popped ++ replyOctets more ++ headSent rest,
      (p.destroyReplies more).datas,
      Prod.ext wrote.connection wrote.process, ?_⟩
  refine
    ⟨⟨listening.fd, listening.connActive, listening.connClosing⟩, isOpen,
      holding, reqList, wrote.sendable, popped ++ more, ?_, ?_⟩
  · simp [replyOctets]
  · rw [List.append_assoc, ← wrote.split]
    exact earlier

/-- A read takes octets from the front of what the socket has. -/
theorem octetsOf_read (sock : Sock) (count : Nat) :
    octetsOf (sock.read count).2.answers <:+ octetsOf sock.answers := by
  obtain ⟨answers, reads⟩ := sock
  cases answers with
  | nil =>
      exact List.suffix_rfl
  | cons answer later =>
      cases answer with
      | data first rest =>
          refine ⟨(first :: rest).take count, ?_⟩
          simp only [Sock.read, octetsOf_restOf]
          rw [← List.append_assoc, List.take_append_drop]
          rfl
      | wouldBlock =>
          exact List.suffix_rfl
      | eof =>
          exact List.suffix_rfl
      | error =>
          exact List.suffix_rfl

/-- Reading a body takes octets from the front. -/
theorem octetsOf_frameBody
    (held : List UInt8)
    (tag header len : Nat)
    (sock : Sock) :
    octetsOf (frameBody held tag header len sock).2.answers <:+
      octetsOf sock.answers := by
  have taken := octetsOf_read sock (header + len - held.length)
  simp only [frameBody]
  generalize sock.read (header + len - held.length) = answered at taken ⊢
  obtain ⟨result, after⟩ := answered
  cases result with
  | octets octets =>
      simp only
      split <;> exact taken
  | _ =>
      exact taken

/-- One step of the framing machine takes octets from the front. -/
theorem octetsOf_nextMessage (held : List UInt8) (sock : Sock) :
    octetsOf (nextMessage held sock).2.answers <:+ octetsOf sock.answers := by
  unfold nextMessage
  cases headerOf held with
  | more =>
      simp only
      split
      · exact List.suffix_rfl
      · have taken := octetsOf_read sock (max 1 (8 - held.length))
        generalize sock.read (max 1 (8 - held.length)) = answered at taken ⊢
        obtain ⟨result, after⟩ := answered
        cases result with
        | octets octets =>
            refine List.IsSuffix.trans ?_ taken
            simp only [frameHeader]
            cases headerOf (held ++ octets) with
            | more =>
                exact List.suffix_rfl
            | bad =>
                exact List.suffix_rfl
            | complete tag header len =>
                simp only
                split
                · exact List.suffix_rfl
                · split
                  · exact List.suffix_rfl
                  · exact octetsOf_frameBody _ _ _ _ _
        | _ =>
            exact taken
  | bad =>
      exact List.suffix_rfl
  | complete tag header len =>
      exact octetsOf_frameBody _ _ _ _ _

/-- The framing machine takes octets from the front. -/
theorem octetsOf_frameAll (fuel : Nat) (held : List UInt8) (sock : Sock) :
    octetsOf (frameAll fuel held sock).sock.answers <:+
      octetsOf sock.answers := by
  induction fuel generalizing held sock with
  | zero =>
      have taken := octetsOf_nextMessage held sock
      unfold frameAll
      generalize nextMessage held sock = framed at taken ⊢
      obtain ⟨result, after⟩ := framed
      cases result with
      | message tag contents =>
          simp only
          split <;> exact taken
      | _ =>
          exact taken
  | succ fuel inductionHypothesis =>
      have taken := octetsOf_nextMessage held sock
      unfold frameAll
      generalize nextMessage held sock = framed at taken ⊢
      obtain ⟨result, after⟩ := framed
      cases result with
      | message tag contents =>
          simp only
          split
          · exact (inductionHypothesis [] after).trans taken
          · exact taken
      | _ =>
          exact taken

/-- The octets that an event takes from the socket. -/
def Event.consumed (event : Event) (c : Connection) (p : Process) :
    List UInt8 :=
  if event.read then
    match ldapRead c p ⟨event.recv, []⟩ with
    | .ok (_, _, _, sock) =>
        (octetsOf event.recv).take
          ((octetsOf event.recv).length - (octetsOf sock.answers).length)
    | .error _ =>
        []
  else
    []

/-- What an event takes and what it leaves is what the socket had. -/
theorem Event.consumed_append
    {event : Event}
    (reads : event.read = true)
    (holding : c.Holding held)
    {next : Int × Connection × Process × Sock}
    (called : ldapRead c p ⟨event.recv, []⟩ = .ok next) :
    event.consumed c p ++ octetsOf next.2.2.2.answers =
      octetsOf event.recv := by
  have left : octetsOf next.2.2.2.answers <:+ octetsOf event.recv := by
    have framed :=
      octetsOf_frameAll (available event.recv) held ⟨event.recv, []⟩
    have read := ldapRead_spec holding p ⟨event.recv, []⟩
    rw [called] at read
    cases read with
    | wait => exact framed
    | failed => exact framed
  obtain ⟨front, whole⟩ := left
  have length := congrArg List.length whole
  rw [List.length_append] at length
  have front_eq :
      (octetsOf event.recv).take
        ((octetsOf event.recv).length -
          (octetsOf next.2.2.2.answers).length) = front := by
    rw [← whole, List.length_append, Nat.add_sub_cancel, List.take_left]
  obtain ⟨ret, c', p', sock⟩ := next
  unfold Event.consumed
  rw [if_pos reads, called]
  simp only at front_eq whole ⊢
  rw [front_eq, whole]

/-- The octets are a proper beginning of the next element. -/
structure Begins (held : List UInt8) (elements : List StreamElement) :
    Prop where
  inside :
    ∀ element after, elements = element :: after →
      held <+: element.octets ∧ held ≠ element.octets
  drained : elements = [] → held = []

variable {elements : List StreamElement}
variable {event : Event}

/-- Where reading has stopped, the octets held begin the next element. -/
theorem Progress.begins
    {sock : Sock}
    (progress : Progress elements held sock) :
    Begins held elements where
  drained := progress.drained
  inside := by
    rintro element after rfl
    have short := progress.unfinished element after rfl
    have start := (List.prefix_append held _).trans progress.start
    simp only [streamOctets, List.flatMap_cons] at start
    refine ⟨List.prefix_of_prefix_length_le start
      (List.prefix_append _ _) (le_of_lt short), ?_⟩
    rintro rfl
    exact lt_irrefl _ short

/-- Reading goes on from the beginning of an element. -/
theorem Begins.progress
    (begins : Begins held elements)
    (spoken : List.Forall₂ Speaks elements messages)
    {recv : List Recv}
    (delivers : Delivers recv)
    (start : held ++ octetsOf recv <+: streamOctets elements) :
    Progress elements held ⟨recv, []⟩ where
  delivers := delivers
  start := start
  unfinished element after split := by
    obtain ⟨beginning, unequal⟩ := begins.inside element after split
    refine lt_of_le_of_ne beginning.length_le fun same => unequal ?_
    exact beginning.eq_of_length same
  drained := begins.drained
  long := longElements_of_spoken spoken _

/-- What the handler has done with an event of the client. -/
structure EventServed
    (env : Environment)
    (slot : Nat)
    (elements : List StreamElement)
    (messages : List ClientMessage)
    (held taken : List UInt8)
    (answered : List ClientMessage)
    (before next : Connection × Process)
    (done rest : List StreamElement)
    (heard later : List ClientMessage)
    (heldAfter : List UInt8)
    (queries : List Task) :
    Prop where
  elements : elements = done ++ rest
  messages : messages = heard ++ later
  spoken : List.Forall₂ Speaks done heard
  unheard : List.Forall₂ Speaks rest later
  taken : streamOctets done ++ heldAfter = held ++ taken
  begins : Begins heldAfter rest
  conversation :
    Conversation env heldAfter (answered ++ bindsOf heard) next.1
  taskTicks :
    next.1.taskTicks = before.1.taskTicks ++ queries.map Task.tick
  ldap : next.1.ldap = before.1.ldap
  forwarded : List.Forall₂ (QueryFor slot) (searches heard) queries
  tasks :
    next.2.mysqlTasks env =
      (queries : Multiset Task) + before.2.mysqlTasks env
  freeConnections : next.2.freeConnections = before.2.freeConnections

/-- The messages of the first elements and those of the others. -/
theorem spoken_append
    {done rest : List StreamElement}
    (spoken : List.Forall₂ Speaks (done ++ rest) messages) :
    ∃ heard later,
      messages = heard ++ later ∧
        List.Forall₂ Speaks done heard ∧ List.Forall₂ Speaks rest later :=
  ⟨messages.take done.length, messages.drop done.length,
    (List.take_append_drop ..).symm,
    (List.forall₂_take_append _ _ _ spoken.flip).flip,
    (List.forall₂_drop_append _ _ _ spoken.flip).flip⟩

/-- No spoken message is an unbind. -/
theorem not_hasUnbind_of_spoken
    (spoken : List.Forall₂ Speaks elements messages) :
    ¬ HasUnbind messages := by
  induction spoken with
  | nil =>
      simp [HasUnbind]
  | cons speaks _ inductionHypothesis =>
      rw [hasUnbind_cons, not_or]
      exact ⟨speaks.staysOn, inductionHypothesis⟩

/-- The strings of all searches are short. -/
theorem short_of_spoken
    (spoken : List.Forall₂ Speaks elements messages) :
    ∀ message ∈ messages,
      ∀ request, message.operation = .search request → request.Short := by
  induction spoken with
  | nil =>
      simp
  | cons speaks _ inductionHypothesis =>
      exact List.forall_mem_cons.mpr ⟨speaks.short, inductionHypothesis⟩

/-- The reads and the requests of an event. -/
theorem eventRead_served
    (spoken : List.Forall₂ Speaks elements messages)
    (conversation : Conversation env held answered c)
    (reads : event.read = true)
    (progress : Progress elements held ⟨event.recv, []⟩)
    (inside : p.mysqlIndex < env.mysqlNum) :
    ∃ next done rest heard later heldAfter queries,
      eventRead env slot event c p = .ok (false, next) ∧
        EventServed env slot elements messages held (event.consumed c p)
          answered (c, p) next done rest heard later heldAfter queries := by
  obtain ⟨done, heldAfter, requests, curData, datas, after, called, received,
    holding, ⟨⟨rest, split, progressAfter⟩, taken⟩, -⟩ :=
    ldapRead_stream conversation.holding progress p
  have spokenParts := spoken
  rw [split] at spokenParts
  obtain ⟨heard, later, messagesSplit, spokenDone, spokenRest⟩ :=
    spoken_append spokenParts
  have requestsOnly : (c.received requests curData).reqList = requests := by
    simp [Connection.received, conversation.reqList]
  obtain ⟨next, replies, queries, processed, carried⟩ :=
    processRequestLoop_carriedOut env slot
      (carries_of_spoken spokenDone received) (short_of_spoken spokenDone)
      (not_hasUnbind_of_spoken spokenDone) event.del
      (c.received requests curData) { p with datas := datas }
      (fun isEmpty => requestsOnly.trans isEmpty) inside
  refine ⟨next, done, rest, heard, later, heldAfter, queries, ?_, ?_⟩
  · have notFailed : ¬ (1 : Int) < 0 := by decide
    simp only [eventRead, called, if_neg notFailed, ldapProcessRequest,
      requestsOnly, processed]
    rfl
  · have connection :
        next.1 =
          { c with
            curData := curData
            taskTicks := c.taskTicks ++ queries.map Task.tick
            rplList := c.rplList ++ replies } := by
      rw [carried.connection, ← conversation.reqList]
      rfl
    have consumed := event.consumed_append reads conversation.holding called
    have whole :
        streamOctets done ++ heldAfter ++ octetsOf after.answers =
          held ++ event.consumed c p ++ octetsOf after.answers := by
      rw [taken, List.append_assoc held, consumed]
    exact
      { elements := split
        messages := messagesSplit
        spoken := spokenDone
        unheard := spokenRest
        taken := List.append_cancel_right whole
        begins := progressAfter.begins
        conversation := by
          rw [connection]
          exact conversation.reply carried.answered carried.unsent holding _
        taskTicks := by rw [connection]
        ldap := by rw [connection]
        forwarded := carried.forwarded
        tasks := carried.tasks
        freeConnections := carried.freeConnections }

/-- Without an error of the socket, sending octets does not fail. -/
theorem sendOctets_noError
    (count : Nat)
    {answers : List Send}
    (noError : ∀ answer ∈ answers, answer ≠ .error) :
    sendOctets count answers = .wait ∨
      ∃ later,
        sendOctets count answers = .sent later ∧
          ∀ answer ∈ later, answer ≠ .error := by
  induction answers generalizing count with
  | nil =>
      unfold sendOctets
      split
      · exact .inr ⟨[], rfl, noError⟩
      · exact .inl rfl
  | cons answer rest inductionHypothesis =>
      obtain ⟨here, others⟩ := List.forall_mem_cons.mp noError
      unfold sendOctets
      split
      · exact .inr ⟨answer :: rest, rfl, noError⟩
      · cases answer with
        | accept more =>
            exact inductionHypothesis (count - (more + 1)) others
        | wouldBlock =>
            exact .inl rfl
        | error =>
            exact (here rfl).elim

/-- Without an error of the socket, sending replies does not fail. -/
theorem sendAll_noError
    (counts : List Nat)
    {answers : List Send}
    (noError : ∀ answer ∈ answers, answer ≠ .error) :
    sendAll counts answers ≠ .failed := by
  induction counts generalizing answers with
  | nil =>
      exact SendEnd.noConfusion
  | cons count rest inductionHypothesis =>
      unfold sendAll
      rcases sendOctets_noError count noError with
        waits | ⟨later, sends, noErrorLater⟩
      · rw [waits]
        exact SendEnd.noConfusion
      · rw [sends]
        exact inductionHypothesis noErrorLater

/-- The `EV_WRITE` part of the handler continues the conversation. -/
theorem eventWrite_served
    (conversation : Conversation env held answered c)
    (noError : ∀ answer ∈ event.send, answer ≠ .error)
    (p : Process) :
    ∃ rplList sent datas,
      eventWrite event c p =
          ({ c with rplList := rplList, sent := sent },
            { p with datas := datas }) ∧
        Conversation env held answered
          { c with rplList := rplList, sent := sent } := by
  obtain ⟨rplList, sent, datas, wrote, after⟩ :=
    conversation.write p event.send
  have sends : ¬ (ldapWrite c p event.send).1 < 0 := by
    unfold ldapWrite
    rw [ldapWriteLoop_fails_iff]
    exact sendAll_noError _ noError
  refine ⟨rplList, sent, datas, ?_, after⟩
  unfold eventWrite
  simp only [wrote, if_neg sends]

/-- An event of the client is served. -/
theorem event_served
    (slot : Nat)
    (spoken : List.Forall₂ Speaks elements messages)
    (conversation : Conversation env held answered c)
    (begins : Begins held elements)
    (progress : event.read = true → Progress elements held ⟨event.recv, []⟩)
    (noTimeout : event.timeout = false)
    (noError : ∀ answer ∈ event.send, answer ≠ .error)
    (inside : p.mysqlIndex < env.mysqlNum) :
    ∃ next done rest heard later heldAfter queries,
      lpLdapIoEventHandler env slot event c p = .ok next ∧
        EventServed env slot elements messages held (event.consumed c p)
          answered (c, p) next done rest heard later heldAfter queries := by
  have listening := conversation.listening
  have active : ¬ c.connActive = false := by
    rw [listening.connActive]
    decide
  have notClosing : ¬ c.connClosing = true := by
    rw [listening.connClosing]
    decide
  have onTime : ¬ event.timeout = true := by
    rw [noTimeout]
    decide
  -- the reads and the requests, if there are any
  obtain ⟨⟨middle, q⟩, done, rest, heard, later, heldAfter, queries, read,
      served⟩ :
      ∃ next done rest heard later heldAfter queries,
        (if event.read = true then eventRead env slot event c p
          else .ok (false, c, p)) = .ok (false, next) ∧
        EventServed env slot elements messages held (event.consumed c p)
          answered (c, p) next done rest heard later heldAfter queries := by
    by_cases reads : event.read = true
    · rw [if_pos reads]
      exact eventRead_served spoken conversation reads (progress reads) inside
    · rw [if_neg reads]
      have nothing : event.consumed c p = [] := if_neg reads
      refine ⟨(c, p), [], elements, [], messages, held, [], rfl, ?_⟩
      exact
        { elements := rfl
          messages := rfl
          spoken := .nil
          unheard := spoken
          taken := by simp [nothing, streamOctets]
          begins := begins
          conversation := by simpa [bindsOf] using conversation
          taskTicks := by simp
          ldap := rfl
          forwarded := .nil
          tasks := by simp
          freeConnections := rfl }
  unfold lpLdapIoEventHandler
  rw [if_neg listening.fd, if_neg notClosing, if_neg onTime, if_neg active,
    read]
  simp only
  by_cases writes : event.write = true
  · rw [if_pos writes]
    obtain ⟨rplList, sent, datas, wrote, after⟩ :=
      eventWrite_served served.conversation noError q
    refine ⟨({ middle with rplList := rplList, sent := sent },
      { q with datas := datas }), done, rest, heard, later, heldAfter,
      queries, ?_, ?_⟩
    · simp only [wrote]
      exact closeConnection_open slot after.isOpen _
    · exact { served with conversation := after }
  · rw [if_neg writes]
    exact ⟨(middle, q), done, rest, heard, later, heldAfter, queries,
      closeConnection_open slot served.conversation.isOpen q, served⟩

/-- The reply of a MySQL worker to a search from this slot. -/
structure ReplyFor
    (env : Environment)
    (slot : Nat)
    (search : Int × SearchRequest)
    (reply : Task) :
    Prop where
  c : reply.c = slot
  looked :
    ∃ lookups ret,
      reply.data.Shows
          { search.2.record search.1 with code := replyCode ret } ∧
        (ret = 0 ↔
          search.2.Found (env.entUserExist lookups)
            (env.smaMailListExist lookups))
  short : search.2.Short
  small : -2 ^ 31 ≤ search.1 ∧ search.1 < 2 ^ 31

variable {search : Int × SearchRequest}
variable {query task : Task}

/-- What is built for a query is the reply to its search. -/
theorem QueryFor.reply
    (queryFor : QueryFor slot search query)
    (env : Environment)
    (mysql : Nat)
    (ldap : Option Nat)
    (new : NewTask) :
    ReplyFor env slot search (replyTask env mysql query ldap new) where
  c := queryFor.c
  looked := by
    have data :
        (replyTask env mysql query ldap new).data =
          replyOf query.data (lookup env query) := by
      rw [replyTask]
    rw [data]
    exact
      ⟨query.id, lookup env query,
        shows_replyOf queryFor.short queryFor.shows queryFor.small.1
          queryFor.small.2 _,
        lookup_eq_zero queryFor.short queryFor.shows env⟩
  short := queryFor.short
  small := queryFor.small

/-- Nothing was sent of what has been printed behind an entry. -/
theorem appendDone_unsent
    (task : Task)
    (id : Nat)
    {ber : OutElement}
    {octets : List UInt8}
    (prints : Prints ber (Printer.after octets))
    (short : octets.length ≤ 2048)
    (c : Connection)
    (p : Process) :
    ∃ done,
      appendDone task id ber c p = (lpOk, addReply task id done c, p) ∧
        Unsent done := by
  obtain ⟨done, printed, printsDone, -⟩ :=
    printSearchDone_prints task.data prints short
  exact ⟨done, appendDone_printed printed id c p, printsDone.unsent⟩

/-- Nothing was sent of the reply that `lp_search_reply` appends. -/
theorem lpSearchReply_unsent
    (task : Task)
    (known :
      task.data.getInt codeField = 0 ∨ task.data.getInt codeField = -1)
    (c : Connection)
    (p : Process) :
    ∃ done,
      lpSearchReply task c p =
          (lpOk, addReply task p.datas.next done c, (ldapDataNew p).2) ∧
        Unsent done := by
  unfold lpSearchReply
  rcases known with success | failure
  · rw [if_pos success]
    obtain ⟨entry, octets, printed, prints, short⟩ :=
      printSearchEntry_total task.data
    obtain ⟨done, appends, unsent⟩ :=
      appendDone_unsent task p.datas.next prints short c (ldapDataNew p).2
    refine ⟨done, ?_, unsent⟩
    unfold searchSucceed
    rw [printed]
    exact appends
  · have noSuccess : ¬ task.data.getInt codeField = 0 := by
      rw [failure]
      decide
    rw [if_neg noSuccess, if_pos failure]
    exact
      appendDone_unsent task p.datas.next prints_new (Nat.zero_le _) c
        (ldapDataNew p).2

/-- `lp_search_reply` appends the answer to the search. -/
theorem ReplyFor.answers
    (replyFor : ReplyFor env slot search task)
    (c : Connection)
    (p : Process) :
    ∃ ber,
      lpSearchReply task c p =
          (lpOk, addReply task p.datas.next ber c, (ldapDataNew p).2) ∧
        Unsent ber ∧
        ClientMessage.AnsweredBy env ⟨search.1, .search search.2⟩
          ber.octets := by
  obtain ⟨lookups, ret, shows, found⟩ := replyFor.looked
  obtain ⟨ber, p', replied, decodes⟩ :=
    lpSearchReply_answers replyFor.short replyFor.small.1 replyFor.small.2
      task shows found c p
  have known :
      task.data.getInt codeField = 0 ∨ task.data.getInt codeField = -1 := by
    have code : task.data.getInt codeField = replyCode ret := shows.code
    rw [code]
    unfold replyCode
    split
    · exact .inl rfl
    · exact .inr rfl
  obtain ⟨done, appends, unsent⟩ := lpSearchReply_unsent task known c p
  have same : ber = done := by
    have lists :=
      congrArg (fun result => result.2.1.rplList) (replied.symm.trans appends)
    simpa [addReply] using lists
  subst same
  exact ⟨ber, appends, unsent, lookups, decodes⟩

/-- The reply task of a registered query is processed. -/
theorem taskProcess_registered
    (fromMysql : task.senderSource = .mysql)
    (registered : task.tick ∈ c.taskTicks)
    (ldap : Nat)
    (send : List Send)
    (p : Process) :
    taskProcess ldap task send c p =
      .ok (processMysqlTask ldap task send
        { c with taskTicks := c.taskTicks.erase task.tick } p) := by
  unfold taskProcess
  simp only [fromMysql, lpConnCheckTaskTick, if_pos registered]
  exact if_neg (by decide)

/-- A reply that was appended is sent with those before it. -/
theorem processMysqlTask_appended
    {ldap : Nat}
    (owner : c.ldap = some ldap)
    {next : Connection × Process}
    (replied : lpSearchReply task c p = (lpOk, next))
    (send : List Send) :
    processMysqlTask ldap task send c p =
      (lpOk, (ldapWrite next.1 next.2 send).2.1,
        lpTaskDestroy task (ldapWrite next.1 next.2 send).2.2) := by
  unfold processMysqlTask
  rw [if_neg (not_not.mpr owner), replied]
  simp only
  rw [if_pos trivial]

/-- The reply to a search is executed for the client who asked. -/
theorem task_served
    (conversation : Conversation env held answered c)
    (replyFor : ReplyFor env slot search task)
    (fromMysql : task.senderSource = .mysql)
    (registered : task.tick ∈ c.taskTicks)
    {ldap : Nat}
    (owner : c.ldap = some ldap)
    (send : List Send)
    (p : Process) :
    ∃ next,
      taskProcess ldap task send c p = .ok (lpOk, next) ∧
        Conversation env held
          (answered ++ [⟨search.1, .search search.2⟩]) next.1 ∧
        next.1.taskTicks = c.taskTicks.erase task.tick ∧
        next.1.ldap = c.ldap ∧
        next.2.mysqls = p.mysqls ∧
        next.2.freeConnections = p.freeConnections := by
  obtain ⟨ber, replied, unsent, answers⟩ :=
    replyFor.answers
      { c with taskTicks := c.taskTicks.erase task.tick } p
  have sameData : Connection.Holding { c with curData := c.curData } held :=
    conversation.holding
  have continued :
      Conversation env held (answered ++ [⟨search.1, .search search.2⟩])
        (addReply task p.datas.next ber
          { c with taskTicks := c.taskTicks.erase task.tick }) :=
    conversation.reply (.cons answers .nil) (by simpa using unsent) sameData _
  have mine :
      ({ c with taskTicks := c.taskTicks.erase task.tick } :
        Connection).ldap = some ldap := owner
  rw [taskProcess_registered fromMysql registered,
    processMysqlTask_appended mine replied]
  have sameTicks :
      (addReply task p.datas.next ber
          { c with
            taskTicks := c.taskTicks.erase task.tick }).taskTicks =
        c.taskTicks.erase task.tick := rfl
  have sameOwner :
      (addReply task p.datas.next ber
          { c with taskTicks := c.taskTicks.erase task.tick }).ldap =
        c.ldap := rfl
  generalize
    addReply task p.datas.next ber
      { c with taskTicks := c.taskTicks.erase task.tick } = next
    at continued sameTicks sameOwner
  obtain ⟨rplList, sent, datas, wrote, after⟩ :=
    continued.write (ldapDataNew p).2 send
  simp only [wrote]
  exact ⟨_, rfl, after, sameTicks, sameOwner, rfl, rfl⟩

end LdapProxy

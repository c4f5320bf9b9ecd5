import LdapProxy.QueryStrings
import LdapProxy.ReadLoop

namespace LdapProxy

open LdapProxy.Lber

/-!
# What the requests of one event do

`__ldap_process_request` takes the requests of a connection one by one until
the list is empty or a message id cannot be read.  `dispatched` names the
operations that are reached, and `processRequestLoop_spec` states when the loop
aborts, when it gives up, and what it has done to the connection.
-/

/-- The message starts with a message id. -/
def HasMsgid (ber : BerElement) : Prop :=
  (berGetInt ber).1 = ldapTagMsgid

instance (ber : BerElement) : Decidable (HasMsgid ber) :=
  inferInstanceAs (Decidable (_ = _))

/-- The message behind its message id. -/
def protocolOp (ber : BerElement) : BerElement :=
  (berGetInt ber).2.2

/-- The operations that are reached, up to a message without message id. -/
def dispatched (batch : List BerElement) : List BerElement :=
  (batch.takeWhile fun ber => decide (HasMsgid ber)).map protocolOp

/-- Some message of the batch has no message id. -/
def Stops (batch : List BerElement) : Prop :=
  ∃ ber ∈ batch, ¬ HasMsgid ber

instance (batch : List BerElement) : Decidable (Stops batch) :=
  inferInstanceAs (Decidable (∃ ber ∈ batch, ¬ HasMsgid ber))

/-- The operation has a tag that `lp_req2op` does not know. -/
def UnknownOp (op : BerElement) : Prop :=
  berPeekTag op ≠ lberDefault ∧ lpReq2op (berPeekTag op) = .last

instance (op : BerElement) : Decidable (UnknownOp op) :=
  inferInstanceAs (Decidable (_ ∧ _))

/-- The operation is an Unbind. -/
def IsUnbind (op : BerElement) : Prop :=
  lpReq2op (berPeekTag op) = .unbind

/-- The search has an equality filter whose contents are not two strings. -/
def FilterLost (op : BerElement) : Prop :=
  ∃ more base filter,
    berScanf searchFormat op = (some (.str base :: more), filter) ∧
      berPeekTag filter = ldapFilterEquality ∧
      equalityStrings filter = none

theorem dispatched_cons
    {ber : BerElement}
    (rest : List BerElement)
    (hasMsgid : HasMsgid ber) :
    dispatched (ber :: rest) = protocolOp ber :: dispatched rest := by
  simp [dispatched, hasMsgid]

theorem dispatched_stop
    {ber : BerElement}
    (rest : List BerElement)
    (noMsgid : ¬ HasMsgid ber) :
    dispatched (ber :: rest) = [] := by
  simp [dispatched, noMsgid]

/-- The fields that decide which events a connection gets. -/
def Connection.control (c : Connection) : Connection :=
  { c with
    curData := none
    taskTicks := []
    reqList := []
    rplList := []
    sent := [] }

/-- Connections with the same control agree on each of its fields. -/
theorem control_fields
    {c other : Connection}
    (same : other.control = c.control) :
    other.fd = c.fd ∧ other.idx = c.idx ∧ other.sb = c.sb ∧
      other.rev = c.rev ∧ other.wev = c.wev ∧
      other.connActive = c.connActive ∧
      other.connClosing = c.connClosing ∧
      other.connClosed = c.connClosed ∧ other.wevActive = c.wevActive ∧
      other.ldap = c.ldap ∧ other.discard = c.discard ∧
      other.incarnation = c.incarnation := by
  simpa [Connection.control] using same

/--
One thing that a handler does for a connection in `slot`, short of giving the
slot back.  `reached` says which operations of the client it works on.
-/
inductive Work
    (env : Environment)
    (slot : Nat)
    (reached : BerElement → Prop) :
    Connection × Process → Connection × Process → Prop where
  /-- Requests are received, taken from the list or destroyed. -/
  | requests
      (c : Connection)
      (p : Process)
      (curData : Option (LdapData RecvElement))
      (reqList : List (LdapData BerElement))
      (datas : Ledger) :
      (∃ held, Connection.Holding { c with curData := curData } held) →
      Work env slot reached (c, p)
        ({ c with curData := curData, reqList := reqList },
          { p with datas := datas })
  /-- A response of the connection's own is appended. -/
  | respond
      (c : Connection)
      (p : Process)
      (id : Nat)
      (ber : OutElement)
      (datas : Ledger) :
      Work env slot reached (c, p)
        ({ c with rplList := c.rplList ++ [⟨id, ber, c.incarnation⟩] },
          { p with datas := datas })
  /-- A query task is created and dropped. -/
  | lost
      (c : Connection)
      (p : Process)
      (op : BerElement) :
      reached op →
      FilterLost op →
      Work env slot reached (c, p) (c, afterTask env p)
  /-- A query task is created and pushed. -/
  | query
      (c : Connection)
      (p : Process)
      (msg : MysqlMsg) :
      Work env slot reached (c, p)
        (pushQuery .succeed (lpTaskNew env p).1 msg p.mysqlIndex slot c
          (afterTask env p)).2
  /-- The events are deleted. -/
  | unregister
      (c : Connection)
      (p : Process)
      (del : EventDel) :
      Work env slot reached (c, p) ((ioUnregister del c).2, p)
  /-- Replies are sent, and destroyed once they are sent completely. -/
  | send
      (c : Connection)
      (p : Process)
      (rplList : List (LdapData OutElement))
      (sent : List UInt8)
      (datas : Ledger) :
      (∀ reply ∈ rplList,
        ∃ before ∈ c.rplList, reply.incarnation = before.incarnation) →
      Work env slot reached (c, p)
        ({ c with rplList := rplList, sent := sent },
          { p with datas := datas })

/-- What a handler does for its connection, step by step. -/
abbrev Works
    (env : Environment)
    (slot : Nat)
    (reached : BerElement → Prop) :
    Connection × Process → Connection × Process → Prop :=
  Relation.ReflTransGen (Work env slot reached)

/-- The elements of the request list change, and the ledger of their data. -/
theorem work_reqList
    {env : Environment}
    {slot : Nat}
    {reached : BerElement → Prop}
    {c : Connection}
    (holding : ∃ held, c.Holding held)
    (p : Process)
    (reqList : List (LdapData BerElement))
    (datas : Ledger) :
    Work env slot reached (c, p)
      ({ c with reqList := reqList }, { p with datas := datas }) :=
  .requests c p c.curData reqList datas holding

/-- What `lp_do_search` does with the search request behind the cursor. -/
inductive Searched
    (env : Environment)
    (slot : Nat)
    (ber : BerElement)
    (c : Connection)
    (p : Process) :
    Except Abort (Int × Connection × Process) → Prop where
  | rejected :
      Searched env slot ber c p (.ok (lpErr, c, p))
  | lost :
      FilterLost ber →
      Searched env slot ber c p (.ok (lpErr, c, afterTask env p))
  | pushed (msg : MysqlMsg) :
      Searched env slot ber c p
        (.ok (pushQuery .succeed (lpTaskNew env p).1 msg p.mysqlIndex slot c
          (afterTask env p)))

/-- Every search request is rejected, lost or pushed. -/
theorem lpDoSearch_searched
    {ber : BerElement}
    (search : berPeekTag ber = ldapReqSearch)
    (env : Environment)
    (slot : Nat)
    (c : Connection)
    (p : Process)
    (msgid : Int) :
    Searched env slot ber c p
      (lpDoSearch env .succeed ber slot c p msgid) := by
  have known : ¬ ldapReqSearch = lberDefault := by decide
  by_cases scans :
      ∃ base more filter,
        berScanf searchFormat ber = (some (.str base :: more), filter)
  · obtain ⟨base, more, filter, scanned⟩ := scans
    rw [lpDoSearch_scanned search scanned]
    cases built : searchQuery base msgid filter with
    | some query =>
        exact .pushed query
    | none =>
        have rejected := (searchQuery_eq_none base msgid filter).mp built
        by_cases noFilter : berPeekTag filter = lberDefault
        · simp only [noFilter, if_true]
          exact .rejected
        · simp only [noFilter, if_false]
          obtain ⟨equality, noStrings⟩ := rejected.resolve_left noFilter
          exact .lost ⟨more, base, filter, scanned, equality, noStrings⟩
  · unfold lpDoSearch
    simp only [search, known, if_false, ne_eq, not_true]
    split
    · next base more filter scanned =>
        exact (scans ⟨base, more, filter, scanned⟩).elim
    · exact .rejected

/-- `lp_response_bind` appends a reply, or none when it cannot be encoded. -/
theorem lpResponseBind_works
    (env : Environment)
    (slot : Nat)
    (reached : BerElement → Prop)
    {c : Connection}
    (holding : ∃ held, c.Holding held)
    (p : Process)
    (msgid : Int) :
    Works env slot reached (c, p) (lpResponseBind c p msgid).2 := by
  unfold lpResponseBind
  simp only [ldapDataNew]
  split
  · exact .single (work_reqList holding p c.reqList p.datas.alloc.2)
  · exact .single (.respond c p _ _ p.datas.alloc.2)

/-- Only lists, ticks and data that are not shared with `base` have changed. -/
structure Kept (base : Connection × Process) (next : Connection × Process) :
    Prop where
  control : next.1.control = base.1.control
  curData : next.1.curData = base.1.curData
  freeConnections : next.2.freeConnections = base.2.freeConnections

theorem Kept.refl (base : Connection × Process) : Kept base base :=
  ⟨rfl, rfl, rfl⟩

theorem Kept.trans
    {first second third : Connection × Process}
    (here : Kept first second)
    (later : Kept second third) :
    Kept first third :=
  ⟨later.control.trans here.control, later.curData.trans here.curData,
    later.freeConnections.trans here.freeConnections⟩

/-- What the entry of `opfunc` for an operation does. -/
inductive Operated
    (ctx : RequestContext)
    (op : BerElement)
    (c : Connection)
    (p : Process) :
    Option (Except Abort (Int × Connection × Process)) → Prop where
  | skipped :
      ¬ IsUnbind op →
      Operated ctx op c p none
  | unbound (ret : Int) :
      IsUnbind op →
      Operated ctx op c p
        (some (.ok (ret, (ioUnregister ctx.del c).2, p)))
  | worked (ret : Int) (next : Connection × Process) :
      ¬ IsUnbind op →
      Works ctx.env ctx.slot (· = op) (c, p) next →
      Kept (c, p) next →
      Operated ctx op c p (some (.ok (ret, next)))

/-- A choice between two other values. -/
theorem ite_ne
    {Value : Type}
    {condition : Prop}
    [Decidable condition]
    {first second other : Value}
    (notFirst : first ≠ other)
    (notSecond : second ≠ other) :
    (if condition then first else second) ≠ other := by
  split
  · exact notFirst
  · exact notSecond

/-- Only bind requests are dispatched to `lp_do_bind`. -/
theorem tag_of_bind
    {tag : Nat}
    (bind : lpReq2op tag = .bind) :
    tag = ldapReqBind := by
  by_contra different
  refine absurd bind ?_
  unfold lpReq2op
  rw [if_neg different]
  exact ite_ne (by decide) (ite_ne (by decide) (ite_ne (by decide)
    (ite_ne (by decide) (ite_ne (by decide) (ite_ne (by decide)
      (ite_ne (by decide) (ite_ne (by decide) (ite_ne (by decide)
        (by decide)))))))))

/-- Only search requests are dispatched to `lp_do_search`. -/
theorem tag_of_search
    {tag : Nat}
    (search : lpReq2op tag = .search) :
    tag = ldapReqSearch := by
  by_contra different
  refine absurd search ?_
  unfold lpReq2op
  rw [if_neg different]
  exact ite_ne (by decide) (ite_ne (by decide) (ite_ne (by decide)
    (ite_ne (by decide) (ite_ne (by decide) (ite_ne (by decide)
      (ite_ne (by decide) (ite_ne (by decide) (ite_ne (by decide)
        (by decide)))))))))

/-- `lp_response_bind` leaves the control of the connection alone. -/
theorem lpResponseBind_kept
    (c : Connection)
    (p : Process)
    (msgid : Int) :
    Kept (c, p) (lpResponseBind c p msgid).2 := by
  unfold lpResponseBind
  simp only [ldapDataNew]
  split
  · exact ⟨rfl, rfl, rfl⟩
  · exact ⟨rfl, rfl, rfl⟩

/-- `lp_do_bind` answers a bind request or rejects it. -/
theorem lpDoBind_operated
    (ctx : RequestContext)
    {op : BerElement}
    (bind : lpReq2op (berPeekTag op) = .bind)
    {c : Connection}
    (holding : ∃ held, c.Holding held)
    (p : Process)
    (msgid : Int) :
    Operated ctx op c p (some (lpDoBind op c p msgid)) := by
  have tag := tag_of_bind bind
  have notUnbind : ¬ IsUnbind op := by
    unfold IsUnbind
    rw [bind]
    decide
  have known : ¬ ldapReqBind = lberDefault := by decide
  unfold lpDoBind
  simp only [tag, known, if_false, ne_eq, not_true]
  split
  · exact .worked lpErr (c, p) notUnbind .refl (.refl (c, p))
  · exact .worked _ (lpResponseBind c p msgid).2 notUnbind
      (lpResponseBind_works ctx.env ctx.slot _ holding p msgid)
      (lpResponseBind_kept c p msgid)

/-- `lp_do_search` works on the connection or rejects the request. -/
theorem lpDoSearch_operated
    (ctx : RequestContext)
    {op : BerElement}
    (search : lpReq2op (berPeekTag op) = .search)
    (c : Connection)
    (p : Process)
    (msgid : Int) :
    Operated ctx op c p
      (some (lpDoSearch ctx.env .succeed op ctx.slot c p msgid)) := by
  have tag := tag_of_search search
  have notUnbind : ¬ IsUnbind op := by
    unfold IsUnbind
    rw [search]
    decide
  have searched :=
    lpDoSearch_searched tag ctx.env ctx.slot c p msgid
  generalize lpDoSearch ctx.env .succeed op ctx.slot c p msgid = outcome
    at searched ⊢
  cases searched with
  | rejected =>
      exact .worked lpErr (c, p) notUnbind .refl (.refl (c, p))
  | lost filter =>
      exact .worked lpErr (c, afterTask ctx.env p) notUnbind
        (.single (.lost c p op rfl filter)) ⟨rfl, rfl, rfl⟩
  | pushed msg =>
      exact .worked lpOk
        (pushQuery .succeed (lpTaskNew ctx.env p).1 msg p.mysqlIndex
          ctx.slot c (afterTask ctx.env p)).2
        notUnbind (.single (.query c p msg)) ⟨rfl, rfl, rfl⟩

/-- Every known operation is skipped, unbinds or works on the connection. -/
theorem opfunc_operated
    (ctx : RequestContext)
    (op : BerElement)
    {c : Connection}
    (holding : ∃ held, c.Holding held)
    (p : Process)
    (msgid : Int) :
    Operated ctx op c p
      (opfunc ctx (lpReq2op (berPeekTag op)) op c p msgid) := by
  cases kind : lpReq2op (berPeekTag op) with
  | bind =>
      exact lpDoBind_operated ctx kind holding p msgid
  | unbind =>
      exact .unbound _ kind
  | search =>
      exact lpDoSearch_operated ctx kind c p msgid
  | _ =>
      exact .skipped (by
        unfold IsUnbind
        rw [kind]
        decide)

/-- Deleting the events of a connection twice changes nothing more. -/
theorem ioUnregister_twice
    (del : EventDel)
    (c : Connection) :
    (ioUnregister del (ioUnregister del c).2).2 =
      (ioUnregister del c).2 := by
  obtain ⟨rev, wev⟩ := del
  unfold ioUnregister
  cases c.connClosed <;> cases rev <;> cases c.wevActive <;> cases wev <;>
    simp

/-- Deleting the events does not look at the lists of the connection. -/
theorem ioUnregister_control
    (del : EventDel)
    (c : Connection) :
    (ioUnregister del c.control).2 = (ioUnregister del c).2.control := by
  obtain ⟨rev, wev⟩ := del
  unfold ioUnregister Connection.control
  cases c.connClosed <;> cases rev <;> cases c.wevActive <;> cases wev <;>
    simp

/-- The events of connections with the same control end the same way. -/
theorem control_ioUnregister
    (del : EventDel)
    {c other : Connection}
    (same : other.control = c.control) :
    (ioUnregister del other).2.control = (ioUnregister del c).2.control := by
  rw [← ioUnregister_control, same, ioUnregister_control]

/-- Deleting the events changes these fields only. -/
theorem ioUnregister_fields
    (del : EventDel)
    (c : Connection) :
    ∃ rev wev connClosed,
      (ioUnregister del c).2 =
        { c with
          rev := rev
          wev := wev
          connClosing := true
          connClosed := connClosed } := by
  obtain ⟨rev, wev⟩ := del
  unfold ioUnregister
  cases c.connClosed <;> cases rev <;> cases c.wevActive <;> cases wev <;>
    exact ⟨_, _, _, rfl⟩

/-- Deleting the events keeps what was received. -/
theorem ioUnregister_curData
    (del : EventDel)
    (c : Connection) :
    (ioUnregister del c).2.curData = c.curData := by
  obtain ⟨rev, wev, closed, same⟩ := ioUnregister_fields del c
  rw [same]

/-- Deleting the events keeps the requests that wait. -/
theorem ioUnregister_reqList
    (del : EventDel)
    (c : Connection) :
    (ioUnregister del c).2.reqList = c.reqList := by
  obtain ⟨rev, wev, closed, same⟩ := ioUnregister_fields del c
  rw [same]

/-- What is kept is still kept after the events are deleted. -/
theorem Kept.unregister
    {base next : Connection × Process}
    (kept : Kept base next)
    (del : EventDel) :
    Kept ((ioUnregister del base.1).2, base.2)
      ((ioUnregister del next.1).2, next.2) where
  control := control_ioUnregister del kept.control
  curData := by
    simp only [ioUnregister_curData]
    exact kept.curData
  freeConnections := kept.freeConnections

/-- Some operation of the batch is an Unbind. -/
def Unbinds (batch : List BerElement) : Prop :=
  ∃ op ∈ dispatched batch, IsUnbind op

/-- Some operation of the batch has an unknown tag. -/
def HasUnknownOp (batch : List BerElement) : Prop :=
  ∃ op ∈ dispatched batch, UnknownOp op

instance (batch : List BerElement) : Decidable (HasUnknownOp batch) :=
  inferInstanceAs (Decidable (∃ op ∈ dispatched batch, UnknownOp op))

/-- What the loop over a batch does. -/
inductive Batch
    (ctx : RequestContext)
    (batch : List BerElement)
    (c : Connection)
    (p : Process) :
    Except Abort (Int × Connection × Process) → Prop where
  | abort :
      HasUnknownOp batch →
      Batch ctx batch c p (.error .opLast)
  | finished (ret : Int) (next : Connection × Process) :
      ¬ HasUnknownOp batch →
      (ret < 0 ↔ Stops batch) →
      Works ctx.env ctx.slot (· ∈ dispatched batch) (c, p) next →
      (¬ Unbinds batch → Kept (c, p) next) →
      (Unbinds batch → Kept ((ioUnregister ctx.del c).2, p) next) →
      Batch ctx batch c p (.ok (ret, next))

/-- More operations may be reached. -/
theorem Works.mono
    {env : Environment}
    {slot : Nat}
    {reached more : BerElement → Prop}
    (wider : ∀ op, reached op → more op)
    {first last : Connection × Process}
    (works : Works env slot reached first last) :
    Works env slot more first last := by
  refine Relation.ReflTransGen.mono (fun before after work => ?_) _ _ works
  cases work with
  | requests c p curData reqList datas holding =>
      exact .requests c p curData reqList datas holding
  | respond c p id ber datas =>
      exact .respond c p id ber datas
  | lost c p op isReached filter =>
      exact .lost c p op (wider op isReached) filter
  | query c p msg =>
      exact .query c p msg
  | unregister c p del =>
      exact .unregister c p del
  | send c p rplList sent datas incarnations =>
      exact .send c p rplList sent datas incarnations

/-- The events may have been deleted once more. -/
theorem Kept.unregister_twice
    {base next : Connection × Process}
    {del : EventDel}
    (kept : Kept ((ioUnregister del base.1).2, base.2) next) :
    Kept ((ioUnregister del base.1).2, base.2)
      ((ioUnregister del next.1).2, next.2) := by
  have again := kept.unregister del
  simp only [ioUnregister_twice] at again
  exact again

/-- A message in front of a batch. -/
theorem Batch.cons
    {ctx : RequestContext}
    {ber : BerElement}
    {rest : List BerElement}
    (hasMsgid : HasMsgid ber)
    (known : ¬ UnknownOp (protocolOp ber))
    {base next : Connection × Process}
    (works : Works ctx.env ctx.slot (· = protocolOp ber) base next)
    (kept : ¬ IsUnbind (protocolOp ber) → Kept base next)
    (unbound :
      IsUnbind (protocolOp ber) →
        Kept ((ioUnregister ctx.del base.1).2, base.2) next)
    {outcome : Except Abort (Int × Connection × Process)}
    (later : Batch ctx rest next.1 next.2 outcome) :
    Batch ctx (ber :: rest) base.1 base.2 outcome := by
  have reached := dispatched_cons rest hasMsgid
  have unknownIff : HasUnknownOp (ber :: rest) ↔ HasUnknownOp rest := by
    simp [HasUnknownOp, reached, known]
  have unbindsIff : Unbinds (ber :: rest) ↔
      IsUnbind (protocolOp ber) ∨ Unbinds rest := by
    simp [Unbinds, reached]
  have stopsIff : Stops (ber :: rest) ↔ Stops rest := by
    simp [Stops, hasMsgid]
  cases later with
  | abort unknown =>
      exact .abort (unknownIff.mpr unknown)
  | finished ret last noUnknown stops laterWorks laterKept laterUnbound =>
      refine .finished ret last (mt unknownIff.mp noUnknown)
        (stops.trans stopsIff.symm) ?_ ?_ ?_
      · refine (Works.mono ?_ works).trans (Works.mono ?_ laterWorks)
        · rintro op rfl
          rw [reached]
          exact List.mem_cons_self ..
        · intro op member
          rw [reached]
          exact List.mem_cons_of_mem _ member
      · intro noUnbind
        rw [unbindsIff, not_or] at noUnbind
        exact (kept noUnbind.1).trans (laterKept noUnbind.2)
      · intro unbinds
        by_cases here : IsUnbind (protocolOp ber)
        · by_cases inRest : Unbinds rest
          · exact (unbound here).unregister_twice.trans
              (laterUnbound inRest)
          · exact (unbound here).trans (laterKept inRest)
        · have inRest := (unbindsIff.mp unbinds).resolve_left here
          exact ((kept here).unregister ctx.del).trans
            (laterUnbound inRest)

/-- What is held of a message depends on `cur_data` only. -/
theorem holding_of_curData
    {c next : Connection}
    (holding : ∃ held, c.Holding held)
    (same : next.curData = c.curData) :
    ∃ held, next.Holding held := by
  obtain ⟨held, holds⟩ := holding
  unfold Connection.Holding at holds
  rw [← same] at holds
  exact ⟨held, holds⟩

/-- One repetition of the loop, for the operation behind the message id. -/
theorem processRequestLoop_cons
    (ctx : RequestContext)
    (itr : LdapData BerElement)
    (rest : List (LdapData BerElement))
    (c : Connection)
    (p : Process) :
    processRequestLoop ctx (itr :: rest) c p =
      if (berGetInt itr.ber).1 ≠ ldapTagMsgid then
        .ok (-1, { c with reqList := rest }, p)
      else if berPeekTag (protocolOp itr.ber) = lberDefault then
        processRequestLoop ctx rest { c with reqList := rest }
          (ldapDataDestroy itr.id p)
      else if lpReq2op (berPeekTag (protocolOp itr.ber)) = .last then
        .error .opLast
      else
        match
          opfunc ctx (lpReq2op (berPeekTag (protocolOp itr.ber)))
            (protocolOp itr.ber) { c with reqList := rest } p
            ((berGetInt itr.ber).2.1.getD 0) with
        | none =>
            processRequestLoop ctx rest { c with reqList := rest } p
        | some (.error abort) =>
            .error abort
        | some (.ok (_, c, p)) =>
            processRequestLoop ctx rest c (ldapDataDestroy itr.id p) := by
  unfold protocolOp
  refine (processRequestLoop.eq_2 ctx c p itr rest).trans ?_
  generalize berGetInt itr.ber = got
  obtain ⟨tag, msgid, ber⟩ := got
  rfl

/-- What the operation of the message in front does. -/
def frontOperation
    (ctx : RequestContext)
    (itr : LdapData BerElement)
    (rest : List (LdapData BerElement))
    (c : Connection)
    (p : Process) :
    Option (Except Abort (Int × Connection × Process)) :=
  opfunc ctx (lpReq2op (berPeekTag (protocolOp itr.ber)))
    (protocolOp itr.ber) { c with reqList := rest } p
    ((berGetInt itr.ber).2.1.getD 0)

/-- One repetition of the loop with what follows it. -/
inductive Repeated
    (ctx : RequestContext)
    (itr : LdapData BerElement)
    (rest : List (LdapData BerElement))
    (c : Connection)
    (p : Process) :
    Except Abort (Int × Connection × Process) → Prop where
  | noMsgid :
      ¬ HasMsgid itr.ber →
      Repeated ctx itr rest c p (.ok (-1, { c with reqList := rest }, p))
  | noTag :
      HasMsgid itr.ber →
      berPeekTag (protocolOp itr.ber) = lberDefault →
      Repeated ctx itr rest c p
        (processRequestLoop ctx rest { c with reqList := rest }
          (ldapDataDestroy itr.id p))
  | unknown :
      HasMsgid itr.ber →
      UnknownOp (protocolOp itr.ber) →
      Repeated ctx itr rest c p (.error .opLast)
  | skipped :
      HasMsgid itr.ber →
      berPeekTag (protocolOp itr.ber) ≠ lberDefault →
      ¬ UnknownOp (protocolOp itr.ber) →
      frontOperation ctx itr rest c p = none →
      Repeated ctx itr rest c p
        (processRequestLoop ctx rest { c with reqList := rest } p)
  | aborted (abort : Abort) :
      HasMsgid itr.ber →
      berPeekTag (protocolOp itr.ber) ≠ lberDefault →
      frontOperation ctx itr rest c p = some (.error abort) →
      Repeated ctx itr rest c p (.error abort)
  | operated (ret : Int) (next : Connection × Process) :
      HasMsgid itr.ber →
      berPeekTag (protocolOp itr.ber) ≠ lberDefault →
      ¬ UnknownOp (protocolOp itr.ber) →
      frontOperation ctx itr rest c p = some (.ok (ret, next)) →
      Repeated ctx itr rest c p
        (processRequestLoop ctx rest next.1 (ldapDataDestroy itr.id next.2))

/-- The loop repeats for a message in front. -/
theorem processRequestLoop_repeated
    (ctx : RequestContext)
    (itr : LdapData BerElement)
    (rest : List (LdapData BerElement))
    (c : Connection)
    (p : Process) :
    Repeated ctx itr rest c p
      (processRequestLoop ctx (itr :: rest) c p) := by
  rw [processRequestLoop_cons]
  by_cases hasMsgid : HasMsgid itr.ber
  · have isMsgid : ¬ (berGetInt itr.ber).1 ≠ ldapTagMsgid :=
      not_not.mpr hasMsgid
    rw [if_neg isMsgid]
    by_cases noTag : berPeekTag (protocolOp itr.ber) = lberDefault
    · rw [if_pos noTag]
      exact .noTag hasMsgid noTag
    · rw [if_neg noTag]
      by_cases last : lpReq2op (berPeekTag (protocolOp itr.ber)) = .last
      · rw [if_pos last]
        exact .unknown hasMsgid ⟨noTag, last⟩
      · rw [if_neg last]
        have known : ¬ UnknownOp (protocolOp itr.ber) :=
          fun unknown => last unknown.2
        cases operation : frontOperation ctx itr rest c p with
        | none =>
            have skips := Repeated.skipped hasMsgid noTag known operation
            unfold frontOperation at operation
            rw [operation]
            exact skips
        | some outcome =>
            cases outcome with
            | error abort =>
                have aborts := Repeated.aborted abort hasMsgid noTag operation
                unfold frontOperation at operation
                rw [operation]
                exact aborts
            | ok result =>
                obtain ⟨ret, next⟩ := result
                have operates :=
                  Repeated.operated ret next hasMsgid noTag known operation
                unfold frontOperation at operation
                rw [operation]
                exact operates
  · have notMsgid : (berGetInt itr.ber).1 ≠ ldapTagMsgid := hasMsgid
    rw [if_pos notMsgid]
    exact .noMsgid hasMsgid

/-- A message that is passed over leaves the batch to the rest. -/
theorem Batch.skip
    {ctx : RequestContext}
    {itr : LdapData BerElement}
    {rest : List (LdapData BerElement)}
    {c : Connection}
    {p : Process}
    (holding : ∃ held, c.Holding held)
    (hasMsgid : HasMsgid itr.ber)
    (known : ¬ UnknownOp (protocolOp itr.ber))
    (noUnbind : ¬ IsUnbind (protocolOp itr.ber))
    (datas : Ledger)
    {outcome : Except Abort (Int × Connection × Process)}
    (later :
      Batch ctx (rest.map LdapData.ber) { c with reqList := rest }
        { p with datas := datas } outcome) :
    Batch ctx (itr.ber :: rest.map LdapData.ber) c p outcome := by
  have taken :
      Work ctx.env ctx.slot (· = protocolOp itr.ber) (c, p)
        ({ c with reqList := rest }, { p with datas := datas }) :=
    work_reqList holding p rest datas
  have kept :
      Kept (c, p) ({ c with reqList := rest }, { p with datas := datas }) :=
    ⟨rfl, rfl, rfl⟩
  exact Batch.cons hasMsgid known (.single taken) (fun _ => kept)
    (fun isUnbind => (noUnbind isUnbind).elim) later

/-- A message whose operation is carried out is destroyed. -/
theorem Batch.operate
    {ctx : RequestContext}
    {itr : LdapData BerElement}
    {rest : List (LdapData BerElement)}
    {c : Connection}
    {p : Process}
    (holding : ∃ held, c.Holding held)
    (hasMsgid : HasMsgid itr.ber)
    (known : ¬ UnknownOp (protocolOp itr.ber))
    {ret : Int}
    {next : Connection × Process}
    (operated :
      Operated ctx (protocolOp itr.ber) { c with reqList := rest } p
        (some (.ok (ret, next))))
    {outcome : Except Abort (Int × Connection × Process)}
    (later :
      (∃ held, next.1.Holding held) →
        Batch ctx (rest.map LdapData.ber) next.1
          (ldapDataDestroy itr.id next.2) outcome) :
    Batch ctx (itr.ber :: rest.map LdapData.ber) c p outcome := by
  have start : Kept (c, p) ({ c with reqList := rest }, p) :=
    ⟨rfl, rfl, rfl⟩
  have taken :
      Work ctx.env ctx.slot (· = protocolOp itr.ber) (c, p)
        ({ c with reqList := rest }, p) :=
    work_reqList holding p rest p.datas
  have destroyed
      (nextHolding : ∃ held, next.1.Holding held) :
      Work ctx.env ctx.slot (· = protocolOp itr.ber) next
        (next.1, ldapDataDestroy itr.id next.2) :=
    work_reqList nextHolding next.2 next.1.reqList
      (next.2.datas.release itr.id)
  have destroyedKept : Kept next (next.1, ldapDataDestroy itr.id next.2) :=
    ⟨rfl, rfl, rfl⟩
  cases operated with
  | unbound ret isUnbind =>
      have nextHolding :
          ∃ held,
            (ioUnregister ctx.del { c with reqList := rest }).2.Holding held :=
        holding_of_curData holding
          (ioUnregister_curData ctx.del { c with reqList := rest })
      exact Batch.cons hasMsgid known
        (((Relation.ReflTransGen.single taken).tail
          (.unregister _ p ctx.del)).tail (destroyed nextHolding))
        (fun noUnbind => (noUnbind isUnbind).elim)
        (fun _ => (start.unregister ctx.del).trans destroyedKept)
        (later nextHolding)
  | worked ret next noUnbind works kept =>
      have nextHolding : ∃ held, next.1.Holding held :=
        holding_of_curData holding (start.trans kept).curData
      exact Batch.cons hasMsgid known
        (((Relation.ReflTransGen.single taken).trans works).tail
          (destroyed nextHolding))
        (fun _ => (start.trans kept).trans destroyedKept)
        (fun isUnbind => (noUnbind isUnbind).elim)
        (later nextHolding)

/-- What `__ldap_process_request` does with the requests of a connection. -/
theorem processRequestLoop_spec
    (ctx : RequestContext)
    (requests : List (LdapData BerElement))
    {c : Connection}
    (holding : ∃ held, c.Holding held)
    (p : Process) :
    Batch ctx (requests.map LdapData.ber) c p
      (processRequestLoop ctx requests c p) := by
  induction requests generalizing c p with
  | nil =>
      refine .finished lpOk (c, p) (by simp [HasUnknownOp, dispatched])
        ?_ .refl (fun _ => .refl _) ?_
      · simp [Stops, lpOk]
      · simp [Unbinds, dispatched]
  | cons itr rest inductionHypothesis =>
      rw [List.map_cons]
      have taken :
          ∃ held, Connection.Holding { c with reqList := rest } held :=
        holding
      have operated :
          Operated ctx (protocolOp itr.ber) { c with reqList := rest } p
            (frontOperation ctx itr rest c p) :=
        opfunc_operated ctx (protocolOp itr.ber) taken p
          ((berGetInt itr.ber).2.1.getD 0)
      have repeated := processRequestLoop_repeated ctx itr rest c p
      generalize processRequestLoop ctx (itr :: rest) c p = outcome
        at repeated ⊢
      cases repeated with
      | noMsgid noMsgid =>
          have reached := dispatched_stop (rest.map LdapData.ber) noMsgid
          refine .finished (-1) _ ?_ ?_ ?_ ?_ ?_
          · simp [HasUnknownOp, reached]
          · simp [Stops, noMsgid]
          · exact .single (work_reqList holding p rest p.datas)
          · exact fun _ => ⟨rfl, rfl, rfl⟩
          · simp [Unbinds, reached]
      | noTag hasMsgid noTag =>
          refine Batch.skip holding hasMsgid (fun unknown => unknown.1 noTag)
            ?_ (p.datas.release itr.id) (inductionHypothesis taken _)
          unfold IsUnbind
          rw [noTag]
          decide
      | unknown hasMsgid unknown =>
          refine .abort ⟨protocolOp itr.ber, ?_, unknown⟩
          rw [dispatched_cons _ hasMsgid]
          exact List.mem_cons_self ..
      | skipped hasMsgid tagged known operation =>
          rw [operation] at operated
          cases operated with
          | skipped noUnbind =>
              exact Batch.skip holding hasMsgid known noUnbind p.datas
                (inductionHypothesis taken p)
      | aborted abort hasMsgid tagged operation =>
          rw [operation] at operated
          cases operated
      | operated ret next hasMsgid tagged known operation =>
          rw [operation] at operated
          exact Batch.operate holding hasMsgid known operated
            fun nextHolding => inductionHypothesis nextHolding _

end LdapProxy

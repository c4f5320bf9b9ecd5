import LdapProxy.BindAnswer
import LdapProxy.RequestBatch

namespace LdapProxy

open LdapProxy.Lber

/-!
# What becomes of every request

`__ldap_process_request` element by element: which ones are destroyed, which
ones are forgotten without being destroyed, which ones it does not reach, and
the replies that it appends.  `processRequestLoop_drained` gives the request
list, the reply list and the ledger of the elements exactly.
-/

/-- The operation is a bind, an unbind or a search, or has no tag at all. -/
def Supported (op : BerElement) : Prop :=
  berPeekTag op = lberDefault ∨
    lpReq2op (berPeekTag op) ∈ [LpOp.bind, .unbind, .search]

instance (op : BerElement) : Decidable (Supported op) :=
  inferInstanceAs (Decidable (_ ∨ _))

/-- The elements that are popped and destroyed, in order. -/
def destroyedIds : List (LdapData BerElement) → List Nat
  | [] =>
      []
  | itr :: rest =>
      if HasMsgid itr.ber then
        if Supported (protocolOp itr.ber) then
          itr.id :: destroyedIds rest
        else
          destroyedIds rest
      else
        []

/-- The elements that are popped and not destroyed, in order. -/
def forgottenIds : List (LdapData BerElement) → List Nat
  | [] =>
      []
  | itr :: rest =>
      if HasMsgid itr.ber then
        if Supported (protocolOp itr.ber) then
          forgottenIds rest
        else
          itr.id :: forgottenIds rest
      else
        [itr.id]

/-- The elements that stay in the list. -/
def unreached : List (LdapData BerElement) → List (LdapData BerElement)
  | [] =>
      []
  | itr :: rest =>
      if HasMsgid itr.ber then
        unreached rest
      else
        rest

/-- Every element is destroyed, forgotten or not reached. -/
theorem perm_fates (requests : List (LdapData BerElement)) :
    (requests.map LdapData.id).Perm
      (destroyedIds requests ++ forgottenIds requests ++
        (unreached requests).map LdapData.id) := by
  induction requests with
  | nil =>
      exact .refl _
  | cons itr rest inductionHypothesis =>
      unfold destroyedIds forgottenIds unreached
      by_cases hasMsgid : HasMsgid itr.ber
      · by_cases supported : Supported (protocolOp itr.ber)
        · simp only [hasMsgid, supported, if_true]
          exact inductionHypothesis.cons itr.id
        · simp only [hasMsgid, supported, if_true, if_false,
            List.append_assoc, List.cons_append]
          apply List.Perm.trans _ List.perm_middle.symm
          rw [← List.append_assoc]
          exact inductionHypothesis.cons itr.id
      · simp only [hasMsgid, if_false, List.nil_append, List.map_cons,
          List.singleton_append]
        exact .refl _

/-- The message is processed to its end. -/
def Completed (ber : BerElement) : Prop :=
  HasMsgid ber ∧ Supported (protocolOp ber)

instance (ber : BerElement) : Decidable (Completed ber) :=
  inferInstanceAs (Decidable (_ ∧ _))

/-- Nothing is forgotten exactly when every message is completed. -/
theorem forgottenIds_eq_nil
    {requests : List (LdapData BerElement)} :
    forgottenIds requests = [] ↔
      ∀ itr ∈ requests, Completed itr.ber := by
  induction requests with
  | nil =>
      simp [forgottenIds]
  | cons itr rest inductionHypothesis =>
      unfold forgottenIds
      by_cases hasMsgid : HasMsgid itr.ber
      · by_cases supported : Supported (protocolOp itr.ber)
        · simp [hasMsgid, supported, Completed, inductionHypothesis]
        · simp [hasMsgid, supported, Completed]
      · simp [hasMsgid, Completed]

/-- The operation is a bind that is answered. -/
def Answers (op : BerElement) : Prop :=
  berPeekTag op = ldapReqBind ∧
    (berScanf ['{', 'i', 't'] op).1.isSome = true

instance (op : BerElement) : Decidable (Answers op) :=
  inferInstanceAs (Decidable (_ ∧ _))

/-- The responses to one operation. -/
def opResponses (op : BerElement) (msgid : Int) : List OutElement :=
  if Answers op then
    (bindResponse msgid).toList
  else
    []

/-- The responses to the messages that the loop reaches, in order. -/
def responses : List BerElement → List OutElement
  | [] =>
      []
  | ber :: rest =>
      if HasMsgid ber then
        opResponses (protocolOp ber) ((berGetInt ber).2.1.getD 0) ++
          responses rest
      else
        []

/-- Only binds are answered. -/
theorem opResponses_eq_nil
    {op : BerElement}
    (notBind : berPeekTag op ≠ ldapReqBind)
    (msgid : Int) :
    opResponses op msgid = [] := by
  unfold opResponses
  exact if_neg fun answers => notBind answers.1

/-- Replies with new elements are appended, and nothing else is released. -/
structure Replying
    (before after : Connection × Process)
    (replies : List (LdapData OutElement)) :
    Prop where
  curData : after.1.curData = before.1.curData
  reqList : after.1.reqList = before.1.reqList
  rplList : after.1.rplList = before.1.rplList ++ replies
  ids :
    replies.map LdapData.id =
      List.range' before.2.datas.next replies.length
  next : after.2.datas.next = before.2.datas.next + replies.length
  released : after.2.datas.released = before.2.datas.released

/-- Nothing happens to replies and elements. -/
theorem Replying.none
    {before after : Connection × Process}
    (curData : after.1.curData = before.1.curData)
    (reqList : after.1.reqList = before.1.reqList)
    (rplList : after.1.rplList = before.1.rplList)
    (datas : after.2.datas = before.2.datas) :
    Replying before after [] where
  curData := curData
  reqList := reqList
  rplList := rplList.trans (List.append_nil _).symm
  ids := rfl
  next := congrArg Ledger.next datas
  released := congrArg Ledger.released datas

/-- `lp_do_bind` appends a response or nothing. -/
theorem lpDoBind_replying
    {op : BerElement}
    (bind : lpReq2op (berPeekTag op) = .bind)
    (c : Connection)
    (p : Process)
    (msgid : Int) :
    ∃ ret next replies,
      lpDoBind op c p msgid = .ok (ret, next) ∧
        Replying (c, p) next replies ∧
        replies.map LdapData.ber = opResponses op msgid := by
  have tag := tag_of_bind bind
  have known : ¬ ldapReqBind = lberDefault := by decide
  unfold lpDoBind opResponses Answers
  simp only [tag, known, if_false, ne_eq, not_true, true_and]
  generalize berScanf ['{', 'i', 't'] op = scanned
  obtain ⟨values, last⟩ := scanned
  cases values with
  | none =>
      exact ⟨lpErr, (c, p), [], rfl, .none rfl rfl rfl rfl, rfl⟩
  | some values =>
      obtain ⟨ber, response, responds, -⟩ := lpResponseBind_appends c p msgid
      simp only [responds, response]
      exact
        ⟨_, _, [⟨p.datas.next, ber, c.incarnation⟩], rfl,
          ⟨rfl, rfl, rfl, rfl, rfl, rfl⟩, rfl⟩

/-- `lp_do_search` appends nothing. -/
theorem lpDoSearch_replying
    (ctx : RequestContext)
    {op : BerElement}
    (search : lpReq2op (berPeekTag op) = .search)
    (c : Connection)
    (p : Process)
    (msgid : Int) :
    ∃ ret next,
      lpDoSearch ctx.env .succeed op ctx.slot c p msgid =
          .ok (ret, next) ∧
        Replying (c, p) next [] := by
  have searched :=
    lpDoSearch_searched (tag_of_search search) ctx.env ctx.slot c p msgid
  generalize lpDoSearch ctx.env .succeed op ctx.slot c p msgid = outcome
    at searched ⊢
  cases searched with
  | rejected =>
      exact ⟨_, _, rfl, .none rfl rfl rfl rfl⟩
  | lost filter =>
      exact ⟨_, _, rfl, .none rfl rfl rfl rfl⟩
  | pushed msg =>
      exact ⟨_, _, rfl, .none rfl rfl rfl rfl⟩

/-- `lp_do_unbind` appends nothing. -/
theorem lpDoUnbind_replying
    (del : EventDel)
    (c : Connection)
    (p : Process) :
    Replying (c, p) (lpDoUnbind del c p).2 [] := by
  obtain ⟨rev, wev, closed, same⟩ := ioUnregister_fields del c
  have after : (lpDoUnbind del c p).2 = ((ioUnregister del c).2, p) := rfl
  rw [after, same]
  exact .none rfl rfl rfl rfl

/-- What an operation with a tag does. -/
inductive Carried
    (op : BerElement)
    (msgid : Int)
    (before : Connection × Process) :
    Option (Except Abort (Int × Connection × Process)) → Prop where
  | out
      (ret : Int)
      (after : Connection × Process)
      (replies : List (LdapData OutElement)) :
      Supported op →
      Replying before after replies →
      replies.map LdapData.ber = opResponses op msgid →
      Carried op msgid before (some (.ok (ret, after)))
  | skipped :
      ¬ Supported op →
      opResponses op msgid = [] →
      Carried op msgid before none

/-- A supported operation is carried out; any other known one is skipped. -/
theorem opfunc_carried
    (ctx : RequestContext)
    {op : BerElement}
    (tagged : berPeekTag op ≠ lberDefault)
    (c : Connection)
    (p : Process)
    (msgid : Int) :
    Carried op msgid (c, p)
      (opfunc ctx (lpReq2op (berPeekTag op)) op c p msgid) := by
  have silent :
      lpReq2op (berPeekTag op) ≠ .bind → opResponses op msgid = [] := by
    intro notBind
    apply opResponses_eq_nil
    intro bind
    exact notBind (by rw [bind]; rfl)
  cases kind : lpReq2op (berPeekTag op) with
  | bind =>
      obtain ⟨ret, next, replies, does, replying, bers⟩ :=
        lpDoBind_replying kind c p msgid
      simp only [opfunc, does]
      exact .out ret next replies (.inr (by simp [kind])) replying bers
  | unbind =>
      have nothing := silent (by rw [kind]; exact LpOp.noConfusion)
      exact
        .out _ _ [] (.inr (by simp [kind]))
          (lpDoUnbind_replying ctx.del c p) nothing.symm
  | search =>
      have nothing := silent (by rw [kind]; exact LpOp.noConfusion)
      obtain ⟨ret, next, does, replying⟩ :=
        lpDoSearch_replying ctx kind c p msgid
      simp only [opfunc, does]
      exact .out ret next [] (.inr (by simp [kind])) replying nothing.symm
  | _ =>
      have nothing := silent (by rw [kind]; exact LpOp.noConfusion)
      exact .skipped (by simp [Supported, tagged, kind]) nothing

/-- The operation of the message in front is carried out or skipped. -/
theorem frontOperation_carried
    (ctx : RequestContext)
    (itr : LdapData BerElement)
    (rest : List (LdapData BerElement))
    (tagged : berPeekTag (protocolOp itr.ber) ≠ lberDefault)
    (c : Connection)
    (p : Process) :
    Carried (protocolOp itr.ber) ((berGetInt itr.ber).2.1.getD 0)
      ({ c with reqList := rest }, p) (frontOperation ctx itr rest c p) :=
  opfunc_carried ctx tagged { c with reqList := rest } p _

/-- What the loop has done with the elements of the request list. -/
structure Drained
    (requests : List (LdapData BerElement))
    (before after : Connection × Process)
    (replies : List (LdapData OutElement)) :
    Prop where
  curData : after.1.curData = before.1.curData
  reqList : after.1.reqList = unreached requests
  rplList : after.1.rplList = before.1.rplList ++ replies
  bers :
    replies.map LdapData.ber = responses (requests.map LdapData.ber)
  ids :
    replies.map LdapData.id =
      List.range' before.2.datas.next replies.length
  next : after.2.datas.next = before.2.datas.next + replies.length
  released :
    after.2.datas.released =
      (destroyedIds requests).reverse ++ before.2.datas.released

variable {ctx : RequestContext}
variable {itr : LdapData BerElement}
variable {rest : List (LdapData BerElement)}
variable {before middle after : Connection × Process}
variable {now later : List (LdapData OutElement)}

/-- New elements follow each other. -/
theorem range'_replies
    {start : Nat}
    (nowIds :
      now.map LdapData.id = List.range' start now.length)
    (laterIds :
      later.map LdapData.id =
        List.range' (start + now.length) later.length) :
    (now ++ later).map LdapData.id =
      List.range' start (now ++ later).length := by
  rw [List.map_append, nowIds, laterIds, List.length_append,
    List.range'_append_1]

/-- An element that is carried out and destroyed. -/
theorem Drained.done
    (hasMsgid : HasMsgid itr.ber)
    (supported : Supported (protocolOp itr.ber))
    (replying : Replying before middle now)
    (bers :
      now.map LdapData.ber =
        opResponses (protocolOp itr.ber) ((berGetInt itr.ber).2.1.getD 0))
    (drained :
      Drained rest (middle.1, ldapDataDestroy itr.id middle.2) after later) :
    Drained (itr :: rest) before after (now ++ later) := by
  have sameNext := replying.next
  constructor
  · exact drained.curData.trans replying.curData
  · simp only [unreached, hasMsgid, if_true]
    exact drained.reqList
  · rw [drained.rplList, replying.rplList, List.append_assoc]
  · simp only [List.map_cons, responses, hasMsgid, if_true]
    rw [List.map_append, bers, drained.bers]
  · apply range'_replies replying.ids
    rw [← sameNext]
    exact drained.ids
  · rw [drained.next, List.length_append, ← Nat.add_assoc, ← sameNext]
    rfl
  · simp only [destroyedIds, hasMsgid, supported, if_true,
      List.reverse_cons, List.append_assoc, List.singleton_append]
    rw [drained.released, ← replying.released]
    rfl

/-- An element that is skipped and forgotten. -/
theorem Drained.skipped
    (hasMsgid : HasMsgid itr.ber)
    (unsupported : ¬ Supported (protocolOp itr.ber))
    (silent :
      opResponses (protocolOp itr.ber) ((berGetInt itr.ber).2.1.getD 0) = [])
    (drained : Drained rest before after later) :
    Drained (itr :: rest) before after later := by
  constructor
  · exact drained.curData
  · simp only [unreached, hasMsgid, if_true]
    exact drained.reqList
  · exact drained.rplList
  · simp only [List.map_cons, responses, hasMsgid, if_true, silent,
      List.nil_append]
    exact drained.bers
  · exact drained.ids
  · exact drained.next
  · simp only [destroyedIds, hasMsgid, unsupported, if_true, if_false]
    exact drained.released

/-- Where the loop starts plays no part for its own request list. -/
theorem Drained.of_reqList
    {c : Connection}
    {p : Process}
    {reqList : List (LdapData BerElement)}
    (drained :
      Drained rest ({ c with reqList := reqList }, p) after later) :
    Drained rest (c, p) after later :=
  ⟨drained.curData, drained.reqList, drained.rplList, drained.bers,
    drained.ids, drained.next, drained.released⟩

/-- An operation that is unknown aborts the loop when it is reached. -/
theorem processRequestLoop_aborts
    (ctx : RequestContext)
    (requests : List (LdapData BerElement))
    (c : Connection)
    (p : Process)
    (unknown : HasUnknownOp (requests.map LdapData.ber)) :
    processRequestLoop ctx requests c p = .error .opLast := by
  induction requests generalizing c p with
  | nil =>
      obtain ⟨op, member, -⟩ := unknown
      cases member
  | cons itr rest inductionHypothesis =>
      have hasMsgid : HasMsgid itr.ber := by
        by_contra noMsgid
        obtain ⟨op, member, -⟩ := unknown
        rw [List.map_cons, dispatched_stop _ noMsgid] at member
        cases member
      have unknownLater :
          ¬ UnknownOp (protocolOp itr.ber) →
            HasUnknownOp (rest.map LdapData.ber) := by
        intro knownHere
        obtain ⟨op, member, isUnknown⟩ := unknown
        rw [List.map_cons, dispatched_cons _ hasMsgid] at member
        rcases List.mem_cons.mp member with rfl | inRest
        · exact absurd isUnknown knownHere
        · exact ⟨op, inRest, isUnknown⟩
      have repeated := processRequestLoop_repeated ctx itr rest c p
      generalize processRequestLoop ctx (itr :: rest) c p = outcome
        at repeated ⊢
      cases repeated with
      | noMsgid noMsgid =>
          exact absurd hasMsgid noMsgid
      | noTag _ noTag =>
          exact inductionHypothesis _ _ (unknownLater fun isUnknown =>
            isUnknown.1 noTag)
      | unknown _ _ =>
          rfl
      | skipped _ _ known _ =>
          exact inductionHypothesis _ _ (unknownLater known)
      | aborted abort _ tagged operation =>
          have carried := frontOperation_carried ctx itr rest tagged c p
          rw [operation] at carried
          cases carried
      | operated ret next _ _ known _ =>
          exact inductionHypothesis _ _ (unknownLater known)

/-- The loop drains the request list, unless an operation is unknown. -/
theorem processRequestLoop_drained
    (ctx : RequestContext)
    (requests : List (LdapData BerElement))
    (c : Connection)
    (p : Process)
    (empty : requests = [] → c.reqList = [])
    (known : ¬ HasUnknownOp (requests.map LdapData.ber)) :
    ∃ ret next replies,
      processRequestLoop ctx requests c p = .ok (ret, next) ∧
        Drained requests (c, p) next replies := by
  induction requests generalizing c p with
  | nil =>
      exact
        ⟨lpOk, (c, p), [], rfl,
          ⟨rfl, empty rfl, (List.append_nil _).symm, rfl, rfl, rfl, rfl⟩⟩
  | cons itr rest inductionHypothesis =>
      have knownLater (hasMsgid : HasMsgid itr.ber) :
          ¬ HasUnknownOp (rest.map LdapData.ber) := by
        rintro ⟨op, member, unknown⟩
        apply known
        refine ⟨op, ?_, unknown⟩
        rw [List.map_cons, dispatched_cons _ hasMsgid]
        exact List.mem_cons_of_mem _ member
      have repeated := processRequestLoop_repeated ctx itr rest c p
      generalize processRequestLoop ctx (itr :: rest) c p = outcome
        at repeated ⊢
      cases repeated with
      | noMsgid noMsgid =>
          refine ⟨-1, ({ c with reqList := rest }, p), [], rfl, ?_⟩
          refine ⟨rfl, ?_, (List.append_nil _).symm, ?_, rfl, rfl, ?_⟩
          · simp only [unreached, noMsgid, if_false]
          · simp only [List.map_cons, responses, noMsgid, if_false,
              List.map_nil]
          · simp only [destroyedIds, noMsgid, if_false]
            rfl
      | noTag hasMsgid noTag =>
          obtain ⟨ret, next, replies, loops, drained⟩ :=
            inductionHypothesis { c with reqList := rest }
              (ldapDataDestroy itr.id p) id (knownLater hasMsgid)
          refine ⟨ret, next, replies, loops, ?_⟩
          have nothing : Replying (c, p) (c, p) [] := .none rfl rfl rfl rfl
          have notBind : berPeekTag (protocolOp itr.ber) ≠ ldapReqBind := by
            rw [noTag]
            decide
          have silent :=
            opResponses_eq_nil notBind ((berGetInt itr.ber).2.1.getD 0)
          exact
            .done hasMsgid (.inl noTag) nothing silent.symm
              drained.of_reqList
      | unknown hasMsgid unknown =>
          refine (known ⟨protocolOp itr.ber, ?_, unknown⟩).elim
          rw [List.map_cons, dispatched_cons _ hasMsgid]
          exact List.mem_cons_self ..
      | skipped hasMsgid tagged _ operation =>
          have carried := frontOperation_carried ctx itr rest tagged c p
          rw [operation] at carried
          cases carried with
          | skipped unsupported silent =>
              obtain ⟨ret, next, replies, loops, drained⟩ :=
                inductionHypothesis { c with reqList := rest } p id
                  (knownLater hasMsgid)
              exact
                ⟨ret, next, replies, loops,
                  drained.of_reqList.skipped hasMsgid unsupported silent⟩
      | aborted abort _ tagged operation =>
          have carried := frontOperation_carried ctx itr rest tagged c p
          rw [operation] at carried
          cases carried
      | operated ret middle hasMsgid tagged _ operation =>
          have carried := frontOperation_carried ctx itr rest tagged c p
          rw [operation] at carried
          cases carried with
          | out _ _ now supported replying bers =>
              have emptyLater : rest = [] → middle.1.reqList = [] :=
                fun isEmpty => replying.reqList.trans isEmpty
              obtain ⟨ret, next, replies, loops, drained⟩ :=
                inductionHypothesis middle.1
                  (ldapDataDestroy itr.id middle.2) emptyLater
                  (knownLater hasMsgid)
              refine ⟨ret, next, now ++ replies, loops, ?_⟩
              have done :=
                Drained.done hasMsgid supported replying bers drained
              exact done.of_reqList

/--
`__ldap_process_request` returns, it has emptied the request list, and it has
destroyed every element once, in order, and nothing else.
-/
def RequestsDestroyed
    (ctx : RequestContext)
    (c : Connection)
    (p : Process) :
    Prop :=
  ∃ ret next,
    ldapProcessRequest ctx c p = .ok (ret, next) ∧
      next.1.reqList = [] ∧
      next.2.datas.released =
        (c.reqList.map LdapData.id).reverse ++ p.datas.released

/-- When every message is completed, every element is destroyed. -/
theorem fates_of_completed
    {requests : List (LdapData BerElement)}
    (completed : ∀ itr ∈ requests, Completed itr.ber) :
    destroyedIds requests = requests.map LdapData.id ∧
      unreached requests = [] := by
  induction requests with
  | nil =>
      exact ⟨rfl, rfl⟩
  | cons itr rest inductionHypothesis =>
      obtain ⟨hasMsgid, supported⟩ := completed itr (List.mem_cons_self ..)
      obtain ⟨destroyed, reached⟩ := inductionHypothesis fun other member =>
        completed other (List.mem_cons_of_mem _ member)
      simp only [destroyedIds, unreached, hasMsgid, supported, if_true,
        destroyed, reached, List.map_cons]
      exact ⟨trivial, trivial⟩

/-- A batch whose messages are all completed has no unknown operation. -/
theorem known_of_completed
    {requests : List (LdapData BerElement)}
    (completed : ∀ itr ∈ requests, Completed itr.ber) :
    ¬ HasUnknownOp (requests.map LdapData.ber) := by
  rintro ⟨op, member, tagged, last⟩
  obtain ⟨ber, inPrefix, rfl⟩ := List.mem_map.mp member
  have inBatch := (List.takeWhile_prefix _).subset inPrefix
  obtain ⟨itr, inRequests, rfl⟩ := List.mem_map.mp inBatch
  rcases (completed itr inRequests).2 with noTag | isOne
  · exact tagged noTag
  · rw [last] at isOne
    revert isOne
    decide

/-- Requests that are all completed are destroyed. -/
theorem destroyed_of_completed
    {c : Connection}
    (completed : ∀ itr ∈ c.reqList, Completed itr.ber)
    (ctx : RequestContext)
    (p : Process) :
    RequestsDestroyed ctx c p := by
  obtain ⟨ret, next, replies, loops, drained⟩ :=
    processRequestLoop_drained ctx c.reqList c p id
      (known_of_completed completed)
  obtain ⟨destroyed, reached⟩ := fates_of_completed completed
  refine ⟨ret, next, loops, drained.reqList.trans reached, ?_⟩
  rw [← destroyed]
  exact drained.released

/-- Requests that are all destroyed were all completed. -/
theorem completed_of_destroyed
    {ctx : RequestContext}
    {c : Connection}
    {p : Process}
    (destroyed : RequestsDestroyed ctx c p) :
    ∀ itr ∈ c.reqList, Completed itr.ber := by
  obtain ⟨ret, next, returns, -, released⟩ := destroyed
  unfold ldapProcessRequest at returns
  by_cases unknown : HasUnknownOp (c.reqList.map LdapData.ber)
  · rw [processRequestLoop_aborts ctx c.reqList c p unknown] at returns
    cases returns
  · obtain ⟨ret', next', replies, loops, drained⟩ :=
      processRequestLoop_drained ctx c.reqList c p id unknown
    rw [loops, Except.ok.injEq, Prod.mk.injEq] at returns
    obtain ⟨rfl, rfl⟩ := returns
    have sameReversed :=
      List.append_cancel_right (drained.released.symm.trans released)
    have all : destroyedIds c.reqList = c.reqList.map LdapData.id :=
      List.reverse_injective sameReversed
    have length := (perm_fates c.reqList).length_eq
    rw [all, List.length_append, List.length_append] at length
    apply forgottenIds_eq_nil.mp
    apply List.eq_nil_of_length_eq_zero
    omega

/--
Every request is popped and destroyed exactly once, in order, exactly when every
message has a message id and an operation that is a bind, an unbind or a search
or has no readable tag.
-/
theorem requests_destroyed_iff
    (ctx : RequestContext)
    (c : Connection)
    (p : Process) :
    RequestsDestroyed ctx c p ↔ ∀ itr ∈ c.reqList, Completed itr.ber :=
  ⟨completed_of_destroyed,
    fun completed => destroyed_of_completed completed ctx p⟩

/-- A connection whose requests are these messages. -/
def requesting (messages : List (List UInt8)) : Connection :=
  { Connection.initial 0 with
    reqList :=
      messages.zipIdx.map fun request =>
        ⟨request.2, messageElement request.1, 1⟩ }

/--
A compare request is popped and forgotten, and a message without message id is
forgotten and leaves the unbind behind it in the list.
-/
theorem requests_forgotten :
    ¬ RequestsDestroyed ⟨.still, 0, .succeed⟩
        (requesting [[0x02, 0x01, 0x01, 0x6e, 0x00]])
        (Process.initial .still) ∧
      ¬ RequestsDestroyed ⟨.still, 0, .succeed⟩
          (requesting [[0x04, 0x01, 0x61], [0x02, 0x01, 0x02, 0x42, 0x00]])
          (Process.initial .still) := by
  constructor
  · intro destroyed
    exact absurd (completed_of_destroyed destroyed) (by decide)
  · intro destroyed
    exact absurd (completed_of_destroyed destroyed) (by decide)

end LdapProxy

import LdapProxy.ConnectionEvents
import LdapProxy.LedgerShare
import LdapProxy.RequestEffects

namespace LdapProxy

open LdapProxy.Ledger
open LdapProxy.Lber

/-!
# The elements that a connection owns

The `ldap_data_t` elements that can be reached from a connection, and what the
functions of the LDAP worker do with them.  Each function is a passage of the
ledger: what was owned or created is owned, lost or destroyed afterwards.
-/

/-- The elements of the request list and of the reply list. -/
def Connection.listed (c : Connection) : Multiset Nat :=
  (c.reqList.map LdapData.id : Multiset Nat) +
    (c.rplList.map LdapData.id : Multiset Nat)

/-- The elements that can be reached from the connection. -/
def Connection.owned (c : Connection) : Multiset Nat :=
  (c.curData.toList.map LdapData.id : Multiset Nat) + c.listed

/-- What becomes of the elements between two states. -/
def Moves (before after : Connection × Process) (lost : Multiset Nat) : Prop :=
  Passed before.2.datas before.1.owned after.2.datas after.1.owned lost

variable {before middle after : Connection × Process}
variable {lost lostLater : Multiset Nat}

/-- The elements stay where they are. -/
theorem moves_same
    (owned : after.1.owned = before.1.owned)
    (datas : after.2.datas = before.2.datas) :
    Moves before after 0 := by
  unfold Moves
  rw [owned, datas]
  exact .refl

/-- Elements move on. -/
theorem Moves.trans
    (first : Moves before middle lost)
    (second : Moves middle after lostLater) :
    Moves before after (lost + lostLater) :=
  Passed.trans first second

variable {c c' : Connection}
variable {p p' : Process}
variable {sock sock' : Sock}
variable {ret : Int}

/-- While a message is read, its element is one of the connection's. -/
theorem owned_reading
    {data : LdapData RecvElement}
    (current : c.curData = some data) :
    c.owned = data.id ::ₘ c.listed := by
  unfold Connection.owned
  rw [current]
  rfl

/-- Without a message that is read, only the lists have elements. -/
theorem owned_idle (idle : c.curData = none) : c.owned = c.listed := by
  unfold Connection.owned
  rw [idle]
  exact zero_add _

/-- A request is one of the listed elements. -/
theorem listed_request
    (request : LdapData BerElement) :
    Connection.listed { c with reqList := c.reqList ++ [request] } =
      request.id ::ₘ c.listed := by
  unfold Connection.listed
  rw [List.map_append, ← Multiset.coe_add, add_right_comm, add_comm]
  rfl

/-- The element that is read into stays, is destroyed or becomes a request. -/
theorem ldapGetBer_reading
    {data : LdapData RecvElement}
    (current : c.curData = some data)
    (got : ldapGetBer c p sock = .ok (ret, c', p', sock')) :
    Moves (c, p) (c', p') 0 := by
  unfold Moves
  rw [owned_reading current]
  unfold ldapGetBer at got
  rw [current] at got
  simp only at got
  generalize berGetNext sock data.ber = outcome at got
  cases outcome with
  | error abort =>
      cases got
  | ok result =>
      simp only at got
      split at got
      · split at got
        · cases got
          rw [owned_idle rfl]
          exact passed_release data.id
        · cases got
          rw [owned_reading rfl]
          exact .refl
      · cases got
        rw [owned_idle rfl]
        have same :=
          listed_request (c := c)
            ⟨data.id, result.ber.toElement, data.incarnation⟩
        have listed :
            Connection.listed
                { c with
                  reqList :=
                    c.reqList ++
                      [⟨data.id, result.ber.toElement, data.incarnation⟩]
                  curData := none } =
              data.id ::ₘ c.listed :=
          same
        rw [listed]
        exact .refl

/-- Without an element to read into, one is created. -/
theorem ldapGetBer_created (idle : c.curData = none) :
    ldapGetBer c p sock =
      ldapGetBer
        { c with
          curData := some ⟨p.datas.next, RecvElement.new, c.incarnation⟩ }
        (ldapDataNew p).2 sock := by
  unfold ldapGetBer
  rw [idle]
  rfl

/-- `__ldap_get_ber` loses no element. -/
theorem ldapGetBer_moves
    (got : ldapGetBer c p sock = .ok (ret, c', p', sock')) :
    Moves (c, p) (c', p') 0 := by
  cases current : c.curData with
  | none =>
      rw [ldapGetBer_created current] at got
      have read := ldapGetBer_reading rfl got
      have created :
          Passed p.datas c.owned (ldapDataNew p).2.datas
            (p.datas.next ::ₘ c.listed) 0 := by
        rw [owned_idle current]
        exact passed_alloc
      unfold Moves at read
      rw [owned_reading rfl] at read
      exact created.trans read
  | some data =>
      exact ldapGetBer_reading current got

/-- `__ldap_read` loses no element. -/
theorem ldapReadLoop_moves
    (fuel : Nat)
    (read : ldapReadLoop fuel c p sock = .ok (ret, c', p', sock')) :
    Moves (c, p) (c', p') 0 := by
  induction fuel generalizing c p sock with
  | zero =>
      exact ldapGetBer_moves read
  | succ fuel inductionHypothesis =>
      unfold ldapReadLoop at read
      cases got : ldapGetBer c p sock with
      | error abort =>
          rw [got] at read
          cases read
      | ok result =>
          obtain ⟨code, middle, q, rest⟩ := result
          rw [got] at read
          simp only at read
          have first := ldapGetBer_moves got
          by_cases more : code = 0
          · rw [if_pos more] at read
            exact first.trans (inductionHypothesis read)
          · rw [if_neg more] at read
            cases read
            exact first

/-- The addresses of a run of allocations. -/
theorem range_add_range' (start count : Nat) :
    Multiset.range (start + count) =
      Multiset.range start + (List.range' start count : Multiset Nat) := by
  rw [Multiset.range_add, List.range'_eq_map_range]
  rfl

/-- The loop loses the elements that it forgets, and no others. -/
theorem Drained.moves
    {requests : List (LdapData BerElement)}
    {replies : List (LdapData OutElement)}
    (drained : Drained requests before after replies)
    (all : before.1.reqList = requests) :
    Moves before after (forgottenIds requests : Multiset Nat) where
  balance := by
    have fates := Multiset.coe_eq_coe.mpr (perm_fates requests)
    simp only [← Multiset.coe_add] at fates
    unfold Connection.owned Connection.listed
    rw [drained.curData, drained.reqList, drained.rplList, drained.released,
      drained.next, all, fates, range_add_range', ← drained.ids,
      List.map_append]
    simp only [← Multiset.coe_add, Multiset.coe_reverse]
    abel
  releasedBefore := by
    rw [drained.released, ← Multiset.coe_add]
    exact Multiset.le_add_left _ _
  next := by
    rw [drained.next]
    exact Nat.le_add_right _ _

/-- The loop of `__ldap_write` destroys the replies that it takes. -/
theorem ldapWriteLoop_taken
    (c : Connection)
    (replies : List (LdapData OutElement))
    (p : Process)
    (wire : Wire) :
    ∃ taken left sent,
      replies.map LdapData.id = taken ++ left.map LdapData.id ∧
        (ldapWriteLoop c replies p wire).2 =
          ({ c with rplList := left, sent := sent },
            { p with
              datas :=
                { p.datas with
                  released := taken.reverse ++ p.datas.released } }) := by
  induction replies generalizing p wire with
  | nil =>
      exact ⟨[], [], wire.accepted, rfl, rfl⟩
  | cons reply later inductionHypothesis =>
      simp only [ldapWriteLoop]
      by_cases whole : (berFlush2 wire reply.ber).complete = true
      · rw [if_pos whole]
        obtain ⟨taken, left, sent, ids, wrote⟩ :=
          inductionHypothesis (ldapDataDestroy reply.id p)
            (berFlush2 wire reply.ber).wire
        refine ⟨reply.id :: taken, left, sent, ?_, ?_⟩
        · rw [List.map_cons, ids, List.cons_append]
        · rw [wrote, List.reverse_cons, List.append_assoc]
          rfl
      · rw [if_neg whole]
        refine
          ⟨[], { reply with ber := (berFlush2 wire reply.ber).ber } :: later,
            (berFlush2 wire reply.ber).wire.accepted, rfl, ?_⟩
        split <;> rfl

/-- `__ldap_write` loses no element. -/
theorem ldapWrite_moves
    (c : Connection)
    (p : Process)
    (send : List Send) :
    Moves (c, p) (ldapWrite c p send).2 0 := by
  obtain ⟨taken, left, sent, ids, wrote⟩ :=
    ldapWriteLoop_taken c c.rplList p ⟨send, c.sent⟩
  unfold ldapWrite
  rw [wrote]
  constructor
  · unfold Connection.owned Connection.listed
    simp only [ids, ← Multiset.coe_add, Multiset.coe_reverse]
    abel
  · rw [← Multiset.coe_add]
    exact Multiset.le_add_left _ _
  · exact le_rfl

/-- `lp_free_connection` loses the element that is read into. -/
theorem lpFreeConnection_moves
    {slot : Nat}
    (freed : lpFreeConnection slot c p = .ok (c', p')) :
    Moves (c, p) (c', p')
      (c.curData.toList.map LdapData.id : Multiset Nat) := by
  cases discard : c.discard with
  | true =>
      rw [lpFreeConnection_eq slot discard] at freed
      cases freed
      constructor
      · have nothing : c.cleared.owned = 0 := rfl
        rw [nothing]
        unfold Connection.owned Connection.listed Connection.discarded
        simp only [← Multiset.coe_add, Multiset.coe_reverse]
        abel
      · rw [← Multiset.coe_add]
        exact Multiset.le_add_left _ _
      · exact le_rfl
  | false =>
      unfold lpFreeConnection discardConnectionData at freed
      rw [discard] at freed
      cases freed

/-- `__search_succeed` and `__search_failed` print what they want to print. -/
theorem printSearchEntry_total (reply : MysqlMsg) :
    ∃ next octets,
      printSearchEntry reply OutElement.new = some next ∧
        Prints next (Printer.after octets) ∧ octets.length ≤ 2048 := by
  by_cases equality : reply.filterType = ldapFilterEquality
  · obtain ⟨next, printed, prints, short⟩ := printEquality_prints equality
    exact ⟨next, _, printed, prints, short⟩
  · obtain ⟨next, printed, prints, short⟩ := printBase_prints equality
    exact ⟨next, _, printed, prints, short⟩

/-- A new element that was appended as a reply. -/
theorem moves_reply
    (task : Task)
    (ber : OutElement)
    (c : Connection)
    (p : Process) :
    Moves (c, p) (addReply task p.datas.next ber c, (ldapDataNew p).2) 0 := by
  have same :
      (addReply task p.datas.next ber c).owned = p.datas.next ::ₘ c.owned := by
    unfold addReply Connection.owned Connection.listed
    simp only [List.map_append, List.map_cons, List.map_nil,
      ← Multiset.coe_add, Multiset.coe_singleton,
      ← Multiset.singleton_add]
    abel
  unfold Moves
  rw [same]
  exact passed_alloc

/-- A search result done is printed behind what was printed before. -/
theorem appendDone_appends
    (task : Task)
    (id : Nat)
    {ber : OutElement}
    {octets : List UInt8}
    (prints : Prints ber (Printer.after octets))
    (short : octets.length ≤ 2048)
    (c : Connection)
    (p : Process) :
    ∃ done,
      appendDone task id ber c p = (lpOk, addReply task id done c, p) := by
  obtain ⟨done, printed, -, -⟩ :=
    printSearchDone_prints task.data prints short
  exact ⟨done, appendDone_printed printed id c p⟩

/-- `__search_succeed` appends a new element. -/
theorem searchSucceed_appends
    (task : Task)
    (c : Connection)
    (p : Process) :
    ∃ done,
      searchSucceed task c p =
        (lpOk, addReply task p.datas.next done c, (ldapDataNew p).2) := by
  obtain ⟨entry, octets, printed, prints, short⟩ :=
    printSearchEntry_total task.data
  obtain ⟨done, appends⟩ :=
    appendDone_appends task p.datas.next prints short c (ldapDataNew p).2
  refine ⟨done, ?_⟩
  unfold searchSucceed
  rw [printed]
  exact appends

/-- `__search_failed` appends a new element. -/
theorem searchFailed_appends
    (task : Task)
    (c : Connection)
    (p : Process) :
    ∃ done,
      searchFailed task c p =
        (lpOk, addReply task p.datas.next done c, (ldapDataNew p).2) :=
  appendDone_appends task p.datas.next prints_new (Nat.zero_le _) c
    (ldapDataNew p).2

/-- `lp_search_reply` appends a new element or does nothing. -/
theorem lpSearchReply_appends
    (task : Task)
    (c : Connection)
    (p : Process) :
    (∃ done,
        lpSearchReply task c p =
          (lpOk, addReply task p.datas.next done c, (ldapDataNew p).2)) ∨
      lpSearchReply task c p = (lpErr, c, p) := by
  unfold lpSearchReply
  generalize task.data.getInt codeField = code
  by_cases success : code = 0
  · rw [if_pos success]
    exact .inl (searchSucceed_appends task c p)
  · rw [if_neg success]
    by_cases failure : code = -1
    · rw [if_pos failure]
      exact .inl (searchFailed_appends task c p)
    · rw [if_neg failure]
      exact .inr rfl

/-- `lp_search_reply` loses no element. -/
theorem lpSearchReply_moves
    (task : Task)
    (c : Connection)
    (p : Process) :
    Moves (c, p) (lpSearchReply task c p).2 0 := by
  rcases lpSearchReply_appends task c p with ⟨done, appends⟩ | nothing
  · rw [appends]
    exact moves_reply task done c p
  · rw [nothing]
    exact Passed.refl

/-- A reply task loses no element. -/
theorem processMysqlTask_moves
    (ldap : Nat)
    (task : Task)
    (send : List Send)
    (c : Connection)
    (p : Process) :
    Moves (c, p) (processMysqlTask ldap task send c p).2 0 := by
  unfold processMysqlTask
  by_cases owner : c.ldap = some ldap
  · rw [if_neg (not_not.mpr owner)]
    have replied := lpSearchReply_moves task c p
    generalize lpSearchReply task c p = answered at replied ⊢
    obtain ⟨code, middle, q⟩ := answered
    simp only at replied ⊢
    by_cases succeeded : code = lpOk
    · rw [if_pos succeeded]
      exact replied.trans (ldapWrite_moves middle q send)
    · rw [if_neg succeeded]
      exact replied
  · rw [if_pos owner]
    exact Passed.refl

/-- Executing a task loses no element. -/
theorem taskProcess_moves
    {ldap : Nat}
    {task : Task}
    {send : List Send}
    (executed : taskProcess ldap task send c p = .ok (ret, c', p')) :
    Moves (c, p) (c', p') 0 := by
  unfold taskProcess at executed
  cases source : task.senderSource with
  | mysql =>
      rw [source] at executed
      simp only [lpConnCheckTaskTick] at executed
      by_cases registered : task.tick ∈ c.taskTicks
      · simp only [registered, if_true, ne_eq, not_true, if_false,
          Except.ok.injEq] at executed
        have moves := processMysqlTask_moves ldap task send
          { c with taskTicks := c.taskTicks.erase task.tick } p
        rw [executed] at moves
        exact moves
      · have refused : lpErr ≠ lpOk := by decide
        simp only [registered, if_false, refused, ne_eq, not_false_eq_true,
          if_true] at executed
        cases executed
        exact Passed.refl
  | server =>
      rw [source] at executed
      simp only [processServerTask] at executed
      split at executed
      · cases executed
      · cases executed
        exact Passed.refl
  | _ =>
      rw [source] at executed
      cases executed
      exact Passed.refl

/-- Executing a task keeps the flags, what is read and the free slots. -/
theorem taskProcess_keeps
    {ldap : Nat}
    {task : Task}
    {send : List Send}
    (executed : taskProcess ldap task send c p = .ok (ret, c', p')) :
    c'.fd = c.fd ∧ c'.discard = c.discard ∧
      c'.connClosing = c.connClosing ∧ c'.connClosed = c.connClosed ∧
      c'.curData = c.curData ∧
      p'.freeConnections = p.freeConnections := by
  cases source : task.senderSource with
  | mysql =>
      obtain ⟨result, same, replied⟩ :=
        taskProcess_replied ldap source send c p
      rw [executed] at same
      cases same
      cases replied with
      | refused =>
          exact ⟨rfl, rfl, rfl, rfl, rfl, rfl⟩
      | foreign =>
          exact ⟨rfl, rfl, rfl, rfl, rfl, rfl⟩
      | answered =>
          exact ⟨rfl, rfl, rfl, rfl, rfl, rfl⟩
  | server =>
      unfold taskProcess at executed
      rw [source] at executed
      simp only [processServerTask] at executed
      split at executed
      · cases executed
      · cases executed
        exact ⟨rfl, rfl, rfl, rfl, rfl, rfl⟩
  | _ =>
      unfold taskProcess at executed
      rw [source] at executed
      cases executed
      exact ⟨rfl, rfl, rfl, rfl, rfl, rfl⟩

end LdapProxy

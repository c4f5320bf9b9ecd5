import LdapProxy.Framing
import LdapProxy.LdapHandler

namespace LdapProxy

open LdapProxy.Lber

/-!
# What `__ldap_read` appends

`frameAll` repeats the framing machine until it waits, fails or is stuck, and
collects the contents of the messages.  `ldapRead_spec` states that
`__ldap_read` appends exactly these messages to `req_list`, ends in the same
way and changes nothing else but `cur_data` and the ledger of `ldap_data_t`.
-/

/-- How the reads of one event end. -/
inductive ReadEnd where
  /-- The octets of an unfinished message are kept. -/
  | wait (held : List UInt8)
  | failed
  /-- `ber_get_next` hits its assertion. -/
  | stuck
  deriving Repr, DecidableEq

/-- The messages of one read event, its end and what the socket still has. -/
structure Frames where
  messages : List (List UInt8)
  ending : ReadEnd
  sock : Sock
  deriving Repr, DecidableEq

/-- A message in front of the later ones. -/
def Frames.push (contents : List UInt8) (later : Frames) : Frames :=
  { later with messages := contents :: later.messages }

/--
Repeat the framing machine.  With as much fuel as there are octets to read the
last step never completes a message.
-/
def frameAll : Nat → List UInt8 → Sock → Frames
  | fuel, held, sock =>
      match nextMessage held sock with
      | (.wait held, sock) =>
          ⟨[], .wait held, sock⟩
      | (.fail, sock) =>
          ⟨[], .failed, sock⟩
      | (.stuck, sock) =>
          ⟨[], .stuck, sock⟩
      | (.message tag contents, sock) =>
          if tag = ldapTagMessage then
            match fuel with
            | 0 =>
                ⟨[contents], .failed, sock⟩
            | fuel + 1 =>
                (frameAll fuel [] sock).push contents
          else
            ⟨[], .failed, sock⟩

/-- The messages of one read event with these octets held before it. -/
def frameEvent (held : List UInt8) (sock : Sock) : Frames :=
  frameAll (available sock.answers) held sock

/-- A complete message, ready for decoding. -/
def messageElement (contents : List UInt8) : BerElement :=
  ⟨ldapTagMessage, contents, 0⟩

/-- The connection keeps exactly these octets of an unfinished message. -/
def Connection.Holding (c : Connection) (held : List UInt8) : Prop :=
  (c.curData = none ∧ held = []) ∨
    ∃ data, c.curData = some data ∧ Holds held data.ber

/-- The connection after messages were appended to its request list. -/
def Connection.received
    (c : Connection)
    (requests : List (LdapData BerElement))
    (curData : Option (LdapData RecvElement)) :
    Connection :=
  { c with reqList := c.reqList ++ requests, curData := curData }

/-- The element that `__ldap_get_ber` continues, and the shared data then. -/
theorem ldapGetBer_resume
    {c : Connection}
    {held : List UInt8}
    (holding : c.Holding held)
    (p : Process) :
    ∃ (data : LdapData RecvElement) (datas : Ledger),
      Holds held data.ber ∧
        ∀ sock,
          ldapGetBer c p sock =
            match berGetNext sock data.ber with
            | .error abort =>
                .error abort
            | .ok result =>
                if result.tag ≠ ldapTagMessage then
                  if result.errno ≠ .ewouldblock then
                    .ok (-1, { c with curData := none },
                      ldapDataDestroy data.id { p with datas := datas },
                      result.sock)
                  else
                    .ok (1,
                      { c with
                        curData := some { data with ber := result.ber } },
                      { p with datas := datas }, result.sock)
                else
                  .ok (lpOk,
                    { c with
                      reqList :=
                        c.reqList ++
                          [⟨data.id, result.ber.toElement,
                            data.incarnation⟩]
                      curData := none },
                    { p with datas := datas }, result.sock) := by
  rcases holding with ⟨absent, rfl⟩ | ⟨data, present, holds⟩
  · refine
      ⟨⟨p.datas.next, RecvElement.new, c.incarnation⟩, p.datas.alloc.2,
        holds_new, ?_⟩
    intro sock
    cases c
    cases absent
    rfl
  · refine ⟨data, p.datas, holds, ?_⟩
    intro sock
    cases c
    cases present
    rfl

/-- What one call of `__ldap_get_ber` does, by the step of the machine. -/
inductive GetBer
    (c : Connection)
    (p : Process) :
    Framed × Sock →
      Except Abort (Int × Connection × Process × Sock) → Prop where
  | stuck (sock : Sock) :
      GetBer c p (.stuck, sock) (.error .messedUp)
  | wait
      (held : List UInt8)
      (sock : Sock)
      (data : LdapData RecvElement)
      (datas : Ledger) :
      Holds held data.ber →
      GetBer c p (.wait held, sock)
        (.ok (1, c.received [] (some data), { p with datas := datas },
          sock))
  | fail (sock : Sock) (datas : Ledger) :
      GetBer c p (.fail, sock)
        (.ok (-1, c.received [] none, { p with datas := datas }, sock))
  | foreign (tag : Nat) (contents : List UInt8) (sock : Sock)
      (datas : Ledger) :
      tag ≠ ldapTagMessage →
      GetBer c p (.message tag contents, sock)
        (.ok (-1, c.received [] none, { p with datas := datas }, sock))
  | message
      (contents : List UInt8)
      (sock : Sock)
      (request : LdapData BerElement)
      (datas : Ledger) :
      request.ber = messageElement contents →
      GetBer c p (.message ldapTagMessage contents, sock)
        (.ok (lpOk, c.received [request] none, { p with datas := datas },
          sock))

/-- `__ldap_get_ber` is one step of the framing machine. -/
theorem ldapGetBer_spec
    {c : Connection}
    {held : List UInt8}
    (holding : c.Holding held)
    (p : Process)
    (sock : Sock) :
    GetBer c p (nextMessage held sock) (ldapGetBer c p sock) := by
  obtain ⟨data, datas, holds, called⟩ := ldapGetBer_resume holding p
  have unchanged (curData : Option (LdapData RecvElement)) :
      { c with curData := curData } = c.received [] curData := by
    simp [Connection.received]
  have refines := berGetNext_refines holds sock
  rw [called sock]
  revert refines
  generalize berGetNext sock data.ber = outcome
  generalize nextMessage held sock = framed
  intro refines
  cases refines with
  | stuck sock =>
      exact .stuck sock
  | wait result held tag errno kept =>
      have notMessage : result.tag ≠ ldapTagMessage := by
        rw [tag]
        decide
      simp only [notMessage, errno, ne_eq, not_false_eq_true, not_true,
        if_true, if_false, unchanged]
      exact .wait held result.sock { data with ber := result.ber } datas
        kept
  | fail result tag errno =>
      have notMessage : result.tag ≠ ldapTagMessage := by
        rw [tag]
        decide
      simp only [notMessage, errno, ne_eq, not_false_eq_true, if_true,
        unchanged]
      exact .fail result.sock (datas.release data.id)
  | message result contents errno element =>
      by_cases isMessage : result.tag = ldapTagMessage
      · simp only [isMessage, ne_eq, not_true, if_false]
        exact .message contents result.sock
          ⟨data.id, result.ber.toElement, data.incarnation⟩ datas
          (by rw [element, isMessage]; rfl)
      · simp only [isMessage, ne_eq, not_false_eq_true, if_true, errno,
          unchanged]
        rw [if_pos (by decide)]
        exact .foreign result.tag contents result.sock
          (datas.release data.id) isMessage

/-- A read takes what it returns from the octets that are still there. -/
theorem available_read
    {sock after : Sock}
    {count : Nat}
    {octets : List UInt8}
    (answered : sock.read count = (.octets octets, after)) :
    available after.answers + octets.length = available sock.answers := by
  unfold Sock.read at answered
  split at answered
  · simp at answered
  · next first rest later answers =>
      simp only [Prod.mk.injEq, ReadResult.octets.injEq] at answered
      obtain ⟨rfl, rfl⟩ := answered
      rw [answers]
      simp only [available]
      have split := List.take_append_drop count (first :: rest)
      have lengths := congrArg List.length split
      rw [List.length_append, List.length_cons] at lengths
      cases remaining : (first :: rest).drop count with
      | nil =>
          rw [remaining] at lengths
          simp only [List.length_nil] at lengths
          simp only [restOf]
          omega
      | cons next tail =>
          rw [remaining] at lengths
          simp only [List.length_cons] at lengths
          simp only [restOf, available]
          omega
  all_goals simp at answered

/-- Completing the body of a message takes octets from the socket. -/
theorem available_frameBody
    {held contents : List UInt8}
    {tag found header len : Nat}
    {sock after : Sock}
    (missing : held.length < header + len)
    (framed :
      frameBody held tag header len sock =
        (.message found contents, after)) :
    available after.answers < available sock.answers := by
  simp only [frameBody] at framed
  split at framed
  next octets middle answered =>
    split at framed
    · simp at framed
    · simp only [Prod.mk.injEq] at framed
      obtain ⟨-, rfl⟩ := framed
      have taken := available_read answered
      have some := read_octets_length (by omega) answered
      omega
  next failed middle notOctets answered =>
    simp only [readFailed, Prod.mk.injEq] at framed
    split at framed <;> simp at framed

/-- A completed message has taken octets from the socket. -/
theorem available_nextMessage
    {held contents : List UInt8}
    {tag : Nat}
    {sock after : Sock}
    (unfinished :
      ∀ tag header len,
        headerOf held = .complete tag header len →
        held.length < header + len)
    (framed : nextMessage held sock = (.message tag contents, after)) :
    available after.answers < available sock.answers := by
  unfold nextMessage at framed
  split at framed
  · split at framed
    · simp at framed
    · split at framed
      next octets middle answered =>
        have taken := available_read answered
        have some := read_octets_length (by omega) answered
        unfold frameHeader at framed
        split at framed
        · simp at framed
        · simp at framed
        · split at framed
          · simp at framed
          · split at framed
            · simp only [Prod.mk.injEq] at framed
              obtain ⟨-, rfl⟩ := framed
              omega
            · have later := available_frameBody (by omega) framed
              omega
      next failed middle notOctets answered =>
        simp only [readFailed, Prod.mk.injEq] at framed
        split at framed <;> simp at framed
  · simp at framed
  · next found header len parsed =>
      exact available_frameBody (unfinished found header len parsed) framed

/-- The octets a record holds do not finish their message. -/
theorem Connection.Holding.unfinished
    {c : Connection}
    {held : List UInt8}
    (holding : c.Holding held)
    {tag header len : Nat}
    (parsed : headerOf held = .complete tag header len) :
    held.length < header + len := by
  rcases holding with ⟨-, rfl⟩ | ⟨data, -, holds⟩
  · simp [headerOf, parseTag] at parsed
  · rcases holds with ⟨_, -, -⟩ | ⟨_, _, more, -, -, -, -⟩ |
      ⟨_, _, bodyTag, bodyHeader, bodyLen, body, short, -, -, -, -⟩
    · simp [headerOf, parseTag] at parsed
    · rw [more] at parsed
      cases parsed
    · rw [body] at parsed
      simp only [HeaderParse.complete.injEq] at parsed
      omega

/-- A message that a connection completes takes octets from the socket. -/
theorem Connection.Holding.fewer
    {c : Connection}
    {held : List UInt8}
    (holding : c.Holding held)
    (sock : Sock)
    (tag : Nat)
    (contents : List UInt8)
    (after : Sock)
    (framed : nextMessage held sock = (.message tag contents, after)) :
    available after.answers < available sock.answers :=
  available_nextMessage (fun _ _ _ => holding.unfinished) framed

/-- What `__ldap_read` does, by the messages of the event. -/
inductive Read
    (c : Connection)
    (p : Process)
    (frames : Frames) :
    Except Abort (Int × Connection × Process × Sock) → Prop where
  | stuck :
      frames.ending = .stuck →
      Read c p frames (.error .messedUp)
  | wait
      (held : List UInt8)
      (requests : List (LdapData BerElement))
      (data : LdapData RecvElement)
      (datas : Ledger) :
      frames.ending = .wait held →
      requests.map LdapData.ber = frames.messages.map messageElement →
      Holds held data.ber →
      Read c p frames
        (.ok (1, c.received requests (some data), { p with datas := datas },
          frames.sock))
  | failed
      (requests : List (LdapData BerElement))
      (datas : Ledger) :
      frames.ending = .failed →
      requests.map LdapData.ber = frames.messages.map messageElement →
      Read c p frames
        (.ok (-1, c.received requests none, { p with datas := datas },
          frames.sock))

/-- A message that was read before everything the loop reads afterwards. -/
theorem Read.push
    {c : Connection}
    {p : Process}
    {frames : Frames}
    {outcome : Except Abort (Int × Connection × Process × Sock)}
    {contents : List UInt8}
    {request : LdapData BerElement}
    {datas : Ledger}
    (element : request.ber = messageElement contents)
    (later :
      Read (c.received [request] none) { p with datas := datas } frames
        outcome) :
    Read c p (frames.push contents) outcome := by
  cases later with
  | stuck ending =>
      exact .stuck ending
  | wait held requests data datas ending messages holds =>
      have appended :
          (c.received [request] none).received requests (some data) =
            c.received (request :: requests) (some data) := by
        simp [Connection.received]
      rw [appended]
      exact .wait held (request :: requests) data datas ending
        (by simp [Frames.push, element, messages]) holds
  | failed requests datas ending messages =>
      have appended :
          (c.received [request] none).received requests none =
            c.received (request :: requests) none := by
        simp [Connection.received]
      rw [appended]
      exact .failed (request :: requests) datas ending
        (by simp [Frames.push, element, messages])

/-- The loop ends with a call that does not return 0. -/
theorem ldapReadLoop_ends
    (fuel : Nat)
    {c : Connection}
    {p : Process}
    {sock : Sock}
    (ends :
      ∀ next, ldapGetBer c p sock = .ok next → next.1 ≠ 0) :
    ldapReadLoop fuel c p sock = ldapGetBer c p sock := by
  cases fuel with
  | zero =>
      rfl
  | succ fuel =>
      unfold ldapReadLoop
      cases called : ldapGetBer c p sock with
      | error abort =>
          rfl
      | ok next =>
          exact if_neg (ends next called)

/-- One turn ends the loop, or it reads a message. -/
theorem ldapReadLoop_turn
    {c : Connection}
    {held : List UInt8}
    (holding : c.Holding held)
    (p : Process)
    (sock : Sock)
    (fuel : Nat) :
    Read c p (frameAll fuel held sock) (ldapReadLoop fuel c p sock) ∨
      ∃ contents request datas next,
        nextMessage held sock = (.message ldapTagMessage contents, next) ∧
        request.ber = messageElement contents ∧
        ldapGetBer c p sock =
          .ok (lpOk, c.received [request] none, { p with datas := datas },
            next) := by
  have got := ldapGetBer_spec holding p sock
  have ends := @ldapReadLoop_ends fuel c p sock
  unfold frameAll
  revert got ends
  generalize nextMessage held sock = framed
  generalize ldapGetBer c p sock = outcome
  intro got ends
  cases got with
  | stuck sock =>
      rw [ends (fun next returned => by cases returned)]
      exact .inl (.stuck rfl)
  | wait held sock data datas holds =>
      rw [ends (fun next returned => by cases returned; simp)]
      exact .inl (.wait held [] data datas rfl rfl holds)
  | fail sock datas =>
      rw [ends (fun next returned => by cases returned; simp)]
      exact .inl (.failed [] datas rfl rfl)
  | foreign tag contents sock datas notMessage =>
      rw [ends (fun next returned => by cases returned; simp)]
      simp only [notMessage, if_false]
      exact .inl (.failed [] datas rfl rfl)
  | message contents sock request datas element =>
      exact .inr ⟨contents, request, datas, sock, rfl, element, rfl⟩

/-- The `do` loop of `__ldap_read` is the repeated framing machine. -/
theorem ldapReadLoop_spec
    {c : Connection}
    {held : List UInt8}
    (holding : c.Holding held)
    (p : Process)
    (sock : Sock)
    (fuel : Nat)
    (enough : available sock.answers ≤ fuel) :
    Read c p (frameAll fuel held sock) (ldapReadLoop fuel c p sock) := by
  induction fuel generalizing c held p sock with
  | zero =>
      rcases ldapReadLoop_turn holding p sock 0 with
        read | ⟨contents, request, datas, next, framed, element, called⟩
      · exact read
      · have fewer := holding.fewer sock _ _ _ framed
        omega
  | succ fuel inductionHypothesis =>
      rcases ldapReadLoop_turn holding p sock (fuel + 1) with
        read | ⟨contents, request, datas, next, framed, element, called⟩
      · exact read
      · have fewer := holding.fewer sock _ _ _ framed
        have emptied : (c.received [request] none).Holding [] :=
          .inl ⟨rfl, rfl⟩
        unfold frameAll ldapReadLoop
        simp only [framed, called, lpOk, if_true]
        exact Read.push element
          (inductionHypothesis emptied _ next (by omega))

/-- `__ldap_read` appends the messages of the event. -/
theorem ldapRead_spec
    {c : Connection}
    {held : List UInt8}
    (holding : c.Holding held)
    (p : Process)
    (sock : Sock) :
    Read c p (frameEvent held sock) (ldapRead c p sock) :=
  ldapReadLoop_spec holding p sock _ le_rfl

end LdapProxy

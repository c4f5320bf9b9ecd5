import LdapProxy.LdapHandler
import LdapProxy.TransitionRun

namespace LdapProxy

open LdapProxy.Lber
open LdapProxy.Transition

/-!
# Delivery of the replies

Replies are appended to the tail of `rpl_list` and `__ldap_write` sends them
from its head, keeping the position inside a reply in `ber_rwptr`.  Whatever
the socket answers and however appends and writes alternate, the octets that
the socket has accepted are those of the replies in order.
-/

/-- A reply with its encoded octets in place of the record. -/
def encoded (reply : LdapData OutElement) : LdapData (List UInt8) where
  id := reply.id
  ber := reply.ber.octets
  incarnation := reply.incarnation

/-- The octets of replies, one after the other. -/
def replyOctets (replies : List (LdapData (List UInt8))) : List UInt8 :=
  replies.flatMap LdapData.ber

/-- The octets of the first reply in the list that were already sent. -/
def headSent : List (LdapData OutElement) → List UInt8
  | [] =>
      []
  | reply :: _ =>
      reply.ber.octets.take (reply.ber.berRwptr.getD 0)

/-- Nothing of the record was sent. -/
def Unsent (ber : OutElement) : Prop :=
  ber.berRwptr = none

/-- The cursor of the first reply is inside it; the others are unsent. -/
inductive Sendable : List (LdapData OutElement) → Prop where
  | none :
      Sendable []
  | head
      (reply : LdapData OutElement)
      (later : List (LdapData OutElement)) :
      reply.ber.berRwptr.getD 0 ≤ reply.ber.berPtr →
      (∀ other ∈ later, Unsent other.ber) →
      Sendable (reply :: later)

/-- Unsent replies can be sent. -/
theorem sendable_of_unsent
    {replies : List (LdapData OutElement)}
    (unsent : ∀ reply ∈ replies, Unsent reply.ber) :
    Sendable replies := by
  cases replies with
  | nil =>
      exact .none
  | cons reply later =>
      have first : reply.ber.berRwptr = none :=
        unsent reply (List.mem_cons_self ..)
      refine .head reply later (by simp [first]) ?_
      intro other member
      exact unsent other (List.mem_cons_of_mem _ member)

/-- An unsent reply can be appended. -/
theorem Sendable.append
    {replies : List (LdapData OutElement)}
    {reply : LdapData OutElement}
    (sendable : Sendable replies)
    (unsent : Unsent reply.ber) :
    Sendable (replies ++ [reply]) := by
  cases sendable with
  | none =>
      exact sendable_of_unsent (by simpa using unsent)
  | head first later inside others =>
      refine .head first (later ++ [reply]) inside ?_
      intro other member
      rcases List.mem_append.mp member with inLater | isReply
      · exact others other inLater
      · rw [List.mem_singleton.mp isReply]
        exact unsent

/-- Appending an unsent reply sends nothing. -/
theorem headSent_append
    (replies : List (LdapData OutElement))
    (reply : LdapData OutElement)
    (unsent : reply.ber.berRwptr = none) :
    headSent (replies ++ [reply]) = headSent replies := by
  cases replies with
  | nil =>
      simp [headSent, unsent]
  | cons first later =>
      rfl

/-- The cursor only moves over octets that the socket accepts. -/
theorem flushLoop_spec
    (ber : OutElement)
    (answers : List Send)
    {rwptr : Nat}
    (inside : rwptr ≤ ber.berPtr)
    (base : List UInt8) :
    ∃ cursor,
      cursor ≤ ber.berPtr ∧
        (flushLoop ber (base ++ ber.octets.take rwptr) rwptr answers).ber =
          { ber with berRwptr := some cursor } ∧
        (flushLoop ber (base ++ ber.octets.take rwptr) rwptr
            answers).wire.accepted =
          base ++ ber.octets.take cursor ∧
        ((flushLoop ber (base ++ ber.octets.take rwptr) rwptr
            answers).complete = true → cursor = ber.berPtr) := by
  induction answers generalizing rwptr with
  | nil =>
      unfold flushLoop
      split
      · next finished =>
          exact ⟨rwptr, inside, rfl, rfl, fun _ => by omega⟩
      · exact ⟨rwptr, inside, rfl, rfl, by simp⟩
  | cons answer later inductionHypothesis =>
      unfold flushLoop
      split
      · next finished =>
          exact ⟨rwptr, inside, rfl, rfl, fun _ => by omega⟩
      · next missing =>
          cases answer with
          | accept more =>
              have moved :
                  base ++ ber.octets.take rwptr ++
                      (ber.berBuf.drop rwptr).take
                        (min (more + 1) (ber.berPtr - rwptr)) =
                    base ++
                      ber.octets.take
                        (rwptr + min (more + 1) (ber.berPtr - rwptr)) := by
                rw [List.append_assoc, List.take_add]
                congr 2
                unfold OutElement.octets
                rw [List.drop_take, List.take_take]
                congr 1
                omega
              simp only [moved]
              exact inductionHypothesis (by omega)
          | wouldBlock =>
              exact ⟨rwptr, inside, rfl, rfl, by simp⟩
          | error =>
              exact ⟨rwptr, inside, rfl, rfl, by simp⟩

/-- Replies that were popped are destroyed in order. -/
def Process.destroyReplies
    (p : Process)
    (replies : List (LdapData (List UInt8))) :
    Process :=
  { p with
    datas :=
      { p.datas with
        released :=
          (replies.map LdapData.id).reverse ++ p.datas.released } }

/--
What `__ldap_write` does: it pops replies whose last octet was accepted, and
the octets accepted end inside the first reply that stays.
-/
structure Wrote
    (c : Connection)
    (p : Process)
    (base : List UInt8)
    (replies : List (LdapData OutElement))
    (popped : List (LdapData (List UInt8)))
    (rest : List (LdapData OutElement))
    (result : Int × Connection × Process) : Prop where
  split : replies.map encoded = popped ++ rest.map encoded
  sendable : Sendable rest
  connection :
    result.2.1 =
      { c with
        rplList := rest
        sent := base ++ replyOctets popped ++ headSent rest }
  process : result.2.2 = p.destroyReplies popped

/-- Nothing is sent of unsent replies. -/
theorem headSent_of_unsent
    {replies : List (LdapData OutElement)}
    (unsent : ∀ reply ∈ replies, Unsent reply.ber) :
    headSent replies = [] := by
  cases replies with
  | nil =>
      rfl
  | cons reply later =>
      have first : reply.ber.berRwptr = none :=
        unsent reply (List.mem_cons_self ..)
      simp [headSent, first]

/-- The loop of `__ldap_write` sends the replies in order. -/
theorem ldapWriteLoop_spec
    (c : Connection)
    {replies : List (LdapData OutElement)}
    (sendable : Sendable replies)
    (p : Process)
    (wire : Wire)
    (base : List UInt8)
    (accepted : wire.accepted = base ++ headSent replies) :
    ∃ popped rest,
      Wrote c p base replies popped rest
        (ldapWriteLoop c replies p wire) := by
  induction replies generalizing p wire base with
  | nil =>
      refine ⟨[], [], ⟨rfl, .none, ?_, rfl⟩⟩
      simp [ldapWriteLoop, accepted, replyOctets, headSent]
  | cons reply later inductionHypothesis =>
      cases sendable with
      | head _ _ inside others =>
          obtain ⟨cursor, cursorInside, berAfter, acceptedAfter,
            finished⟩ :=
            flushLoop_spec reply.ber wire.answers inside base
          simp only [headSent] at accepted
          have flushed : berFlush2 wire reply.ber =
              flushLoop reply.ber
                (base ++
                  reply.ber.octets.take (reply.ber.berRwptr.getD 0))
                (reply.ber.berRwptr.getD 0) wire.answers := by
            rw [berFlush2, accepted]
          rw [← flushed] at berAfter acceptedAfter finished
          simp only [ldapWriteLoop]
          by_cases whole : (berFlush2 wire reply.ber).complete = true
          · rw [if_pos whole]
            have allSent : reply.ber.octets.take cursor =
                reply.ber.octets := by
              rw [finished whole, OutElement.octets, List.take_take,
                min_self]
            rw [allSent] at acceptedAfter
            obtain ⟨popped, rest, wrote⟩ :=
              inductionHypothesis (sendable_of_unsent others)
                (ldapDataDestroy reply.id p)
                (berFlush2 wire reply.ber).wire
                (base ++ reply.ber.octets)
                (by
                  rw [acceptedAfter, headSent_of_unsent others,
                    List.append_nil])
            refine ⟨encoded reply :: popped, rest, ?_⟩
            refine ⟨?_, wrote.sendable, ?_, ?_⟩
            · rw [List.map_cons, wrote.split]
              rfl
            · rw [wrote.connection]
              simp [replyOctets, encoded]
            · rw [wrote.process]
              simp [Process.destroyReplies, ldapDataDestroy,
                Ledger.release, encoded]
          · rw [if_neg whole]
            generalize restIs :
              ({ reply with
                  ber := (berFlush2 wire reply.ber).ber } ::
                later : List (LdapData OutElement)) = rest
            have same : (reply :: later).map encoded =
                [] ++ rest.map encoded := by
              rw [← restIs, berAfter]
              rfl
            have sendableRest : Sendable rest := by
              rw [← restIs, berAfter]
              exact .head _ later cursorInside others
            have sent : (berFlush2 wire reply.ber).wire.accepted =
                base ++ replyOctets [] ++ headSent rest := by
              rw [acceptedAfter, ← restIs, berAfter]
              simp [replyOctets, headSent, OutElement.octets]
            refine ⟨[], rest, ?_⟩
            rw [sent]
            split
            · exact ⟨same, sendableRest, rfl, rfl⟩
            · exact ⟨same, sendableRest, rfl, rfl⟩

/-- `__ldap_write` continues where the previous call stopped. -/
theorem ldapWrite_spec
    {c : Connection}
    (sendable : Sendable c.rplList)
    (p : Process)
    (send : List Send)
    {base : List UInt8}
    (sent : c.sent = base ++ headSent c.rplList) :
    ∃ popped rest,
      Wrote c p base c.rplList popped rest (ldapWrite c p send) :=
  ldapWriteLoop_spec c sendable p ⟨send, c.sent⟩ base sent

/-- A connection whose replies are delivered, with every reply appended. -/
structure Delivery where
  c : Connection
  p : Process
  appended : List (LdapData (List UInt8))

/-- What happens to the replies of a connection. -/
inductive ReplyAction where
  /-- A reply is created, encoded and appended to the tail. -/
  | append (ber : OutElement) (unsent : Unsent ber)
  /-- `__ldap_write` is called and the socket answers like this. -/
  | write (send : List Send)

/-- Append a reply to `rpl_list`. -/
def Delivery.append (d : Delivery) (ber : OutElement) : Delivery :=
  let (id, p) := ldapDataNew d.p
  let reply : LdapData OutElement := ⟨id, ber, d.c.incarnation⟩
  { c := { d.c with rplList := d.c.rplList ++ [reply] }
    p := p
    appended := d.appended ++ [encoded reply] }

/-- Call `__ldap_write`. -/
def Delivery.write (d : Delivery) (send : List Send) : Delivery :=
  let (_, c, p) := ldapWrite d.c d.p send
  { d with c := c, p := p }

/-- One append or one call of `__ldap_write`. -/
inductive DeliveryStep : Delivery → ReplyAction → Delivery → Prop where
  | append (d : Delivery) (ber : OutElement) (unsent : Unsent ber) :
      DeliveryStep d (.append ber unsent) (d.append ber)
  | write (d : Delivery) (send : List Send) :
      DeliveryStep d (.write send) (d.write send)

/--
What holds at all times, when `before` is the ledger at the start: the replies
appended are those popped and those still in the list, and the socket has
accepted the former and the beginning of the first of the latter.
-/
structure DeliveredSoFar
    (before : Ledger)
    (d : Delivery)
    (popped : List (LdapData (List UInt8))) : Prop where
  split : d.appended = popped ++ d.c.rplList.map encoded
  sendable : Sendable d.c.rplList
  sent : d.c.sent = replyOctets popped ++ headSent d.c.rplList
  destroyed :
    d.p.datas.released = (popped.map LdapData.id).reverse ++ before.released
  fresh :
    d.appended.map LdapData.id =
      List.range' before.next d.appended.length
  next : d.p.datas.next = before.next + d.appended.length

/-- Appending a reply keeps the delivery invariant. -/
theorem DeliveredSoFar.append
    {before : Ledger}
    {d : Delivery}
    {popped : List (LdapData (List UInt8))}
    (delivered : DeliveredSoFar before d popped)
    {ber : OutElement}
    (unsent : Unsent ber) :
    DeliveredSoFar before (d.append ber) popped where
  split := by
    simp [Delivery.append, delivered.split]
  sendable := delivered.sendable.append unsent
  sent := by
    have same := headSent_append d.c.rplList
      ⟨d.p.datas.next, ber, d.c.incarnation⟩ unsent
    simp only [Delivery.append, ldapDataNew, same]
    exact delivered.sent
  destroyed := delivered.destroyed
  fresh := by
    simp only [Delivery.append, ldapDataNew, encoded, List.map_append,
      List.map_cons, List.map_nil, List.length_append,
      List.length_singleton, delivered.fresh, delivered.next]
    rw [List.range'_concat, Nat.one_mul]
  next := by
    simp only [Delivery.append, ldapDataNew, Ledger.alloc,
      List.length_append, List.length_singleton, delivered.next]
    rfl

/-- Calling `__ldap_write` keeps the delivery invariant. -/
theorem DeliveredSoFar.write
    {before : Ledger}
    {d : Delivery}
    {popped : List (LdapData (List UInt8))}
    (delivered : DeliveredSoFar before d popped)
    (send : List Send) :
    ∃ more, DeliveredSoFar before (d.write send) (popped ++ more) := by
  obtain ⟨more, rest, wrote⟩ :=
    ldapWrite_spec delivered.sendable d.p send delivered.sent
  refine ⟨more, ?_⟩
  have connection : (d.write send).c =
      { d.c with
        rplList := rest
        sent := replyOctets popped ++ replyOctets more ++
          headSent rest } := wrote.connection
  have process : (d.write send).p = d.p.destroyReplies more :=
    wrote.process
  refine ⟨?_, ?_, ?_, ?_, delivered.fresh, ?_⟩
  · rw [connection]
    simp only [Delivery.write, delivered.split, wrote.split,
      List.append_assoc]
  · rw [connection]
    exact wrote.sendable
  · rw [connection]
    simp [replyOctets]
  · rw [process]
    simp [Process.destroyReplies, delivered.destroyed]
  · rw [process]
    exact delivered.next

/--
The socket has accepted a prefix of the encoded replies, and all of them when
the list is empty.  The replies that left the list are the first ones: each was
destroyed exactly once, and all its octets were accepted.
-/
def DeliveredInOrder (before : Ledger) (d : Delivery) : Prop :=
  ∃ popped,
    d.appended = popped ++ d.c.rplList.map encoded ∧
      d.c.sent <+: replyOctets d.appended ∧
      replyOctets popped <+: d.c.sent ∧
      (d.c.rplList = [] → d.c.sent = replyOctets d.appended) ∧
      (d.appended.map LdapData.id).Nodup ∧
      d.p.datas.released =
        (popped.map LdapData.id).reverse ++ before.released

/-- The delivery invariant says what the socket has accepted. -/
theorem DeliveredSoFar.inOrder
    {before : Ledger}
    {d : Delivery}
    {popped : List (LdapData (List UInt8))}
    (delivered : DeliveredSoFar before d popped) :
    DeliveredInOrder before d := by
  have whole : replyOctets d.appended =
      replyOctets popped ++ replyOctets (d.c.rplList.map encoded) := by
    simp [delivered.split, replyOctets]
  refine ⟨popped, delivered.split, ?_, ?_, ?_, ?_, delivered.destroyed⟩
  · rw [whole, delivered.sent, List.prefix_append_right_inj]
    cases d.c.rplList with
    | nil =>
        exact List.nil_prefix
    | cons reply later =>
        refine (List.take_prefix _ _).trans ?_
        simp [replyOctets, encoded]
  · rw [delivered.sent]
    exact List.prefix_append _ _
  · intro drained
    rw [whole, delivered.sent, drained]
    rfl
  · rw [delivered.fresh]
    exact List.nodup_range' ..

/--
After any sequence of appends and writes, and whatever the socket answers, the
replies are delivered in the order they were appended.
-/
theorem replies_delivered_in_order
    {c : Connection}
    {p : Process}
    (empty : c.rplList = [])
    (unsent : c.sent = [])
    {actions : List ReplyAction}
    {final : Delivery}
    (run : Run DeliveryStep ⟨c, p, []⟩ actions final) :
    DeliveredInOrder p.datas final := by
  have atStart : ∃ popped, DeliveredSoFar p.datas ⟨c, p, []⟩ popped := by
    refine ⟨[], ⟨by simp [empty], ?_, ?_, rfl, rfl, rfl⟩⟩
    · rw [empty]
      exact .none
    · simp [empty, unsent, replyOctets, headSent]
  have preserved {d : Delivery} {action : ReplyAction} {next : Delivery}
      (invariant : ∃ popped, DeliveredSoFar p.datas d popped)
      (taken : DeliveryStep d action next) :
      ∃ popped, DeliveredSoFar p.datas next popped := by
    obtain ⟨popped, delivered⟩ := invariant
    cases taken with
    | append ber unsent =>
        exact ⟨popped, delivered.append unsent⟩
    | write send =>
        obtain ⟨more, after⟩ := delivered.write send
        exact ⟨popped ++ more, after⟩
  obtain ⟨popped, delivered⟩ :=
    run.invariant (fun d => ∃ popped, DeliveredSoFar p.datas d popped)
      preserved atStart
  exact delivered.inOrder

/-- A connection that has just been registered, without any request. -/
def Delivery.start : Delivery where
  c := Connection.initial 0
  p := Process.initial .still
  appended := []

/-- A record of two octets, of which nothing was sent. -/
def twoOctets : OutElement :=
  { OutElement.new with berBuf := [1, 2], berPtr := 2 }

/-- A second reply is appended while the first one is half sent. -/
theorem replies_delivered_in_order_partial :
    DeliveredInOrder Delivery.start.p.datas
      (((Delivery.start.append twoOctets).write [.accept 0]).append
        twoOctets) :=
  replies_delivered_in_order rfl rfl
    (.next (.append Delivery.start twoOctets rfl)
      (.next (.write _ [.accept 0])
        (.next (.append _ twoOctets rfl) .done)))

end LdapProxy

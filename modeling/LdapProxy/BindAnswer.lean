import LdapProxy.SearchAnswer

namespace LdapProxy

open LdapProxy.Ber
open LdapProxy.Lber

/-!
# The answer to a bind

`lp_response_bind` prints one record into a new element.  Printing does not
fail, and the record decodes to a bind response that reports success.
-/

/-- A bind response without referral and SASL credentials. -/
structure BindResponse where
  id : Int
  resultCode : Int
  matchedDn : List UInt8
  diagnosticMessage : List UInt8
  deriving Repr, DecidableEq

/-- The bind response that reports success. -/
def bindSuccess (id : Int) : BindResponse where
  id := id
  resultCode := ldapSuccess
  matchedDn := []
  diagnosticMessage := []

/-- The bind response that octets consist of. -/
def decodeBindResponse (octets : List UInt8) : Option BindResponse := do
  match ← decodeElements octets with
  | [message] =>
      match ← decodeElements (← expectTag 0x30 message) with
      | [id, operation] =>
          let id ← decodeNumber 0x02 id
          match ← decodeElements (← expectTag 0x61 operation) with
          | [resultCode, matchedDn, diagnosticMessage] =>
              let resultCode ← decodeNumber 0x0a resultCode
              let matchedDn ← expectTag 0x04 matchedDn
              let diagnosticMessage ← expectTag 0x04 diagnosticMessage
              some ⟨id, resultCode, matchedDn, diagnosticMessage⟩
          | _ =>
              none
      | _ =>
          none
  | _ =>
      none

/-- The element of a bind response. -/
def bindResponseElement (response : BindResponse) : UInt8 × List UInt8 :=
  (0x30,
    elementsOctets
      [(0x02, putIntContents response.id),
        (0x61,
          elementsOctets
            [(0x0a, putIntContents response.resultCode),
              (0x04, response.matchedDn),
              (0x04, response.diagnosticMessage)])])

/-- A bind response that was encoded. -/
theorem decodeBindResponse_bindResponseElement
    {response : BindResponse}
    (id : -2 ^ 31 ≤ response.id ∧ response.id < 2 ^ 31)
    (resultCode :
      -2 ^ 31 ≤ response.resultCode ∧ response.resultCode < 2 ^ 31)
    (fits : (elementsOctets [bindResponseElement response]).length < 2 ^ 64) :
    decodeBindResponse (elementsOctets [bindResponseElement response]) =
      some response := by
  have whole := decodeElements_elementsOctets fits
  have messageFits := part_fits fits (List.mem_cons_self ..)
  have message := decodeElements_elementsOctets messageFits
  have operationFits :=
    part_fits messageFits (List.mem_cons_of_mem _ (List.mem_cons_self ..))
  have operation := decodeElements_elementsOctets operationFits
  have number := decodeNumber_putIntContents 0x02 id
  have code := decodeNumber_putIntContents 0x0a resultCode
  unfold decodeBindResponse
  rw [whole]
  simp only [bindResponseElement, expectTag, message, operation, number, code,
    if_true, Option.bind_eq_bind, Option.bind_some]

/-- The format of a bind response prints one. -/
theorem run_bindFormat (id : Int) :
    (Printer.after []).run resultFormat
        [.int id, .tag ldapResBind, .int 0, .str [], .str []] =
      some
        (Printer.after
          (elementsOctets [bindResponseElement (bindSuccess id)])) := by
  simp [Printer.after, resultFormat, Printer.run, Printer.start,
    Printer.put, Printer.write, Printer.close, Printer.tagOr, lberDefault,
    lberSequence, lberInteger, lberEnumerated, lberOctetstring,
    ldapResBind, berPrependTag_single, elementsOctets, bindResponseElement,
    bindSuccess, ldapSuccess]

/-- The response that `lp_response_bind` prints. -/
def bindResponse (msgid : Int) : Option OutElement :=
  berPrintf resultFormat
    [.int msgid, .tag ldapResBind, .int 0, .str [], .str []]
    OutElement.new

/-- `lp_response_bind` appends a record that reports success. -/
theorem lpResponseBind_appends
    (c : Connection)
    (p : Process)
    (msgid : Int) :
    ∃ ber,
      bindResponse msgid = some ber ∧
        lpResponseBind c p msgid =
          (lpOk,
            { c with
              rplList := c.rplList ++ [⟨p.datas.next, ber, c.incarnation⟩] },
            (ldapDataNew p).2) ∧
        (-2 ^ 31 ≤ msgid ∧ msgid < 2 ^ 31 →
          decodeBindResponse ber.octets = some (bindSuccess msgid)) := by
  obtain ⟨ber, printed, prints, short⟩ :=
    berPrintf_new (run_bindFormat msgid) (Nat.le_of_ble_eq_true rfl)
  refine ⟨ber, printed, ?_, ?_⟩
  · simp only [lpResponseBind, ldapDataNew, printed]
  · intro small
    have code : -2 ^ 31 ≤ ldapSuccess ∧ ldapSuccess < 2 ^ 31 := by decide
    rw [octets_of_prints prints]
    apply decodeBindResponse_bindResponseElement small code
    exact short.trans_lt (by decide)

end LdapProxy

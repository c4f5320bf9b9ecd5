import LdapProxy.BerOctets

namespace LdapProxy

open LdapProxy.Ber

/-!
# LDAP messages as octets

The messages of a search in their own terms, apart from what the proxy does
with them: the grammar of a search request, and a strict reader of the two
replies that answer it.  The lengths of elements may have any definite form.
-/

/-- A filter: an equality match, or any other choice. -/
inductive SearchFilter where
  | equalityMatch (attr assertionValue : List UInt8)
  | other (tag : UInt8)
  deriving Repr, DecidableEq

/-- The parts of a search request that the answer depends on. -/
structure SearchRequest where
  baseObject : List UInt8
  filter : SearchFilter
  deriving Repr, DecidableEq

/-- A tag octet that is the whole tag. -/
def SingleOctetTag (tag : UInt8) : Prop :=
  tag.toNat &&& 0x1f ≠ 0x1f

instance (tag : UInt8) : Decidable (SingleOctetTag tag) :=
  inferInstanceAs (Decidable (_ ≠ _))

/-- The octets of a filter. -/
inductive FilterOctets : SearchFilter → List UInt8 → Prop where
  | equalityMatch
      (attr assertionValue attrOctets valueOctets octets : List UInt8) :
      Element 8 0x04 attr attrOctets →
      Element 8 0x04 assertionValue valueOctets →
      Element 8 0xa3 (attrOctets ++ valueOctets) octets →
      FilterOctets (.equalityMatch attr assertionValue) octets
  | other
      (tag : UInt8)
      (contents octets : List UInt8) :
      SingleOctetTag tag →
      tag ≠ 0xa3 →
      Element 8 tag contents octets →
      FilterOctets (.other tag) octets

/-- The octets of a number, an enumeration value or a boolean. -/
def NumberOctets (tag : UInt8) (octets : List UInt8) : Prop :=
  ∃ contents, contents.length ≤ 4 ∧ Element 8 tag contents octets

/-- The octets of a search request. -/
inductive SearchOctets (request : SearchRequest) : List UInt8 → Prop where
  | intro
      (base scope deref sizeLimit timeLimit typesOnly filter selected
        octets : List UInt8)
      (selection : List UInt8) :
      Element 8 0x04 request.baseObject base →
      NumberOctets 0x0a scope →
      NumberOctets 0x0a deref →
      NumberOctets 0x02 sizeLimit →
      NumberOctets 0x02 timeLimit →
      NumberOctets 0x01 typesOnly →
      FilterOctets request.filter filter →
      Element 8 0x30 selection selected →
      Element 8 0x63
        (base ++ (scope ++ (deref ++ (sizeLimit ++ (timeLimit ++
          (typesOnly ++ (filter ++ selected)))))))
        octets →
      SearchOctets request octets

/-- A `PartialAttribute`: its type and its values. -/
abbrev PartialAttribute := List UInt8 × List (List UInt8)

/-- A message that answers a search. -/
inductive SearchReply where
  | entry
      (id : Int)
      (objectName : List UInt8)
      (attributes : List PartialAttribute)
  | done
      (id resultCode : Int)
      (matchedDn diagnosticMessage : List UInt8)
  deriving Repr, DecidableEq

/-- The contents of an element with this tag. -/
def expectTag (tag : UInt8) (element : UInt8 × List UInt8) :
    Option (List UInt8) :=
  if element.1 = tag then some element.2 else none

/-- A two's complement number, which has at least one octet. -/
def decodeNumber (tag : UInt8) (element : UInt8 × List UInt8) :
    Option Int :=
  (expectTag tag element).bind fun octets =>
    if octets = [] then none else some (twosComplement octets)

/-- A `PartialAttribute`. -/
def decodeAttribute (element : UInt8 × List UInt8) :
    Option PartialAttribute := do
  let contents ← expectTag 0x30 element
  match ← decodeElements contents with
  | [type, values] =>
      let type ← expectTag 0x04 type
      let values ← decodeElements (← expectTag 0x31 values)
      let values ← values.mapM (expectTag 0x04)
      some (type, values)
  | _ =>
      none

/-- The protocol operation of a reply. -/
def decodeOperation (id : Int) (element : UInt8 × List UInt8) :
    Option SearchReply := do
  let parts ← decodeElements element.2
  if element.1 = 0x64 then
    match parts with
    | [objectName, attributes] =>
        let objectName ← expectTag 0x04 objectName
        let attributes ← decodeElements (← expectTag 0x30 attributes)
        let attributes ← attributes.mapM decodeAttribute
        some (.entry id objectName attributes)
    | _ =>
        none
  else if element.1 = 0x65 then
    match parts with
    | [resultCode, matchedDn, diagnosticMessage] =>
        let resultCode ← decodeNumber 0x0a resultCode
        let matchedDn ← expectTag 0x04 matchedDn
        let diagnosticMessage ← expectTag 0x04 diagnosticMessage
        some (.done id resultCode matchedDn diagnosticMessage)
    | _ =>
        none
  else
    none

/-- One reply message. -/
def decodeReply (element : UInt8 × List UInt8) : Option SearchReply := do
  let contents ← expectTag 0x30 element
  match ← decodeElements contents with
  | [id, operation] =>
      decodeOperation (← decodeNumber 0x02 id) operation
  | _ =>
      none

/-- The reply messages that octets consist of. -/
def decodeReplies (octets : List UInt8) : Option (List SearchReply) := do
  (← decodeElements octets).mapM decodeReply

end LdapProxy

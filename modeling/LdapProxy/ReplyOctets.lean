import LdapProxy.EncodeFrames
import LdapProxy.LdapMessages
import LdapProxy.QueryStrings

namespace LdapProxy

open LdapProxy.Ber
open LdapProxy.Lber

/-!
# The octets of replies

What the `ber_printf` formats of search replies encode, as nested elements, and
that reading these octets returns the replies.
-/

/-- The loop prepends the octets of the number. -/
theorem bigEndian_prependOctets
    (fuel value : Nat)
    (octets : List UInt8)
    (fits : value < 256 ^ fuel) :
    bigEndian (prependOctets fuel value octets) =
      value * 256 ^ octets.length + bigEndian octets := by
  induction fuel generalizing value octets with
  | zero =>
      have isZero : value = 0 := by omega
      simp [prependOctets, isZero]
  | succ fuel inductionHypothesis =>
      rw [Nat.pow_succ] at fits
      unfold prependOctets
      split
      · next isZero =>
          simp [isZero]
      · have digit : (UInt8.ofNat value).toNat = value % 256 := by simp
        have parts := Nat.div_add_mod value 256
        rw [inductionHypothesis (value / 256) (UInt8.ofNat value :: octets)
            (by omega),
          bigEndian_cons, digit, List.length_cons, Nat.pow_succ]
        conv_rhs => rw [← parts]
        ring

/-- `ber_prepend_len` encodes a definite length. -/
theorem lengthOctets_berPrependLen
    {len : Nat}
    (fits : len < 2 ^ 64) :
    LengthOctets 8 (berPrependLen len) len := by
  have digit : (UInt8.ofNat len).toNat = len % 256 := by simp
  unfold berPrependLen
  split
  · next short =>
      have whole : (UInt8.ofNat len).toNat = len := by omega
      have encoded : LengthOctets 8 [UInt8.ofNat len] _ :=
        .short (UInt8.ofNat len) (by omega)
      rwa [whole] at encoded
  · have value := bigEndian_prependOctets 7 (len / 256) [UInt8.ofNat len]
      (by omega)
    have bounds := length_prependOctets 7 (len / 256) [UInt8.ofNat len]
    have single : bigEndian [UInt8.ofNat len] = len % 256 := by
      rw [← digit]
      simp [bigEndian]
    rw [single, List.length_singleton, Nat.pow_one] at value
    rw [List.length_singleton] at bounds
    generalize prependOctets 7 (len / 256) [UInt8.ofNat len] = octets
      at value bounds ⊢
    have same : bigEndian octets = len := by omega
    have count : (UInt8.ofNat (octets.length + 0x80)).toNat =
        128 + octets.length := by
      simp only [UInt8.toNat_ofNat']
      omega
    have nonempty : octets ≠ [] := by
      intro empty
      simp [empty] at bounds
    have encoded : LengthOctets 8 (_ :: octets) _ :=
      .long _ octets count nonempty (by omega)
    rwa [same] at encoded

/-- The element that is encoded for these contents. -/
theorem element_elementOctets
    (tag : UInt8)
    {contents : List UInt8}
    (fits : contents.length < 2 ^ 64) :
    Element 8 tag contents (elementOctets [tag] contents) :=
  ⟨_, lengthOctets_berPrependLen fits, rfl⟩

/-- The octet with all bits flipped. -/
def flipped (octet : UInt8) : UInt8 :=
  0xff ^^^ octet

theorem toNat_flipped (octet : UInt8) :
    (flipped octet).toNat = 255 - octet.toNat := by
  have bits : ∀ value : Fin 256, 255 ^^^ value.val = 255 - value.val := by
    decide +kernel
  have here := bits ⟨octet.toNat, octet.toNat_lt⟩
  simpa [flipped, UInt8.toNat_xor] using here

/-- Flipping all bits complements the value. -/
theorem bigEndian_map_flipped (octets : List UInt8) :
    bigEndian (octets.map flipped) + bigEndian octets + 1 =
      256 ^ octets.length := by
  induction octets using List.reverseRecOn with
  | nil =>
      rfl
  | append_singleton rest octet inductionHypothesis =>
      have octetBound := octet.toNat_lt
      rw [List.map_append, List.map_singleton, bigEndian_concat,
        bigEndian_concat, toNat_flipped, List.length_append,
        List.length_singleton, Nat.pow_succ, ← inductionHypothesis]
      omega

/-- The loop for a negative number flips the octets of its complement. -/
theorem intOctets_flipped
    (fuel unum : Nat)
    (octets : List UInt8) :
    intOctets fuel unum 0xff (octets.map flipped) =
      (intOctets fuel unum 0 octets).map flipped := by
  induction fuel generalizing unum octets with
  | zero =>
      rfl
  | succ fuel inductionHypothesis =>
      have next :
          (0xff ^^^ UInt8.ofNat unum) :: octets.map flipped =
            ((0 ^^^ UInt8.ofNat unum) :: octets).map flipped := by
        simp [flipped]
      simp only [intOctets, next]
      split
      · rfl
      · exact inductionHypothesis (unum / 256)
          ((0 ^^^ UInt8.ofNat unum) :: octets)

/-- The loop stores the number, and its top bit is clear. -/
theorem intOctets_value
    (fuel unum : Nat)
    (octets : List UInt8)
    (fits : unum < 128 * 256 ^ fuel) :
    ∃ first rest,
      intOctets (fuel + 1) unum 0 octets = first :: rest ∧
        first.toNat < 128 ∧
        bigEndian (first :: rest) =
          unum * 256 ^ octets.length + bigEndian octets := by
  induction fuel generalizing unum octets with
  | zero =>
      have small : unum < 0x80 := by omega
      have digit : (UInt8.ofNat unum).toNat = unum := by
        rw [UInt8.toNat_ofNat']
        omega
      refine ⟨UInt8.ofNat unum, octets, ?_, by omega, ?_⟩
      · simp [intOctets, small]
      · rw [bigEndian_cons, digit]
  | succ fuel inductionHypothesis =>
      rw [Nat.pow_succ] at fits
      have digit : (UInt8.ofNat unum).toNat = unum % 256 := by simp
      by_cases small : unum < 0x80
      · refine ⟨UInt8.ofNat unum, octets, ?_, by omega, ?_⟩
        · simp [intOctets, small]
        · rw [bigEndian_cons, digit, Nat.mod_eq_of_lt (by omega)]
      · obtain ⟨first, rest, same, clear, value⟩ :=
          inductionHypothesis (unum / 256) (UInt8.ofNat unum :: octets)
            (by omega)
        refine ⟨first, rest, ?_, clear, ?_⟩
        · rw [← same, intOctets]
          simp [small]
        · have parts := Nat.div_add_mod unum 256
          rw [value, bigEndian_cons, digit, List.length_cons, Nat.pow_succ]
          conv_rhs => rw [← parts]
          ring

/-- `ber_put_int_or_enum` encodes a 32-bit number in two's complement. -/
theorem twosComplement_putIntContents
    {num : Int}
    (low : -2 ^ 31 ≤ num)
    (high : num < 2 ^ 31) :
    putIntContents num ≠ [] ∧ twosComplement (putIntContents num) = num := by
  unfold putIntContents
  by_cases negative : num < 0
  · simp only [negative, if_true]
    obtain ⟨first, rest, same, clear, value⟩ :=
      intOctets_value 4 (2 ^ 32 - 1 - (num % 2 ^ 32).toNat) [] (by omega)
    have flip := intOctets_flipped 5
      (2 ^ 32 - 1 - (num % 2 ^ 32).toNat) []
    rw [same, List.map_nil] at flip
    have complement := bigEndian_map_flipped (first :: rest)
    have top := toNat_flipped first
    simp only [List.length_nil, Nat.pow_zero, bigEndian_nil] at value
    rw [List.length_cons] at complement
    rw [flip]
    simp only [List.map_cons] at complement ⊢
    refine ⟨by simp, ?_⟩
    simp only [twosComplement]
    rw [if_neg (by omega), List.length_map]
    have power : ((256 ^ (rest.length + 1) : Nat) : Int) =
        256 ^ (rest.length + 1) := by
      push_cast
      rfl
    rw [← power]
    omega
  · simp only [negative, if_false]
    obtain ⟨first, rest, same, clear, value⟩ :=
      intOctets_value 4 (num % 2 ^ 32).toNat [] (by omega)
    simp only [List.length_nil, Nat.pow_zero, bigEndian_nil] at value
    rw [same]
    refine ⟨by simp, ?_⟩
    simp only [twosComplement]
    rw [if_pos clear]
    omega

/-- The octets of elements, each given by its tag and its contents. -/
def elementsOctets (parts : List (UInt8 × List UInt8)) : List UInt8 :=
  parts.flatMap fun part => elementOctets [part.1] part.2

/-- The contents of an element are not longer than all elements. -/
theorem length_part_le
    {parts : List (UInt8 × List UInt8)}
    {part : UInt8 × List UInt8}
    (member : part ∈ parts) :
    part.2.length ≤ (elementsOctets parts).length := by
  induction parts with
  | nil =>
      cases member
  | cons first later inductionHypothesis =>
      simp only [elementsOctets, List.flatMap_cons, List.length_append,
        elementOctets]
      rcases List.mem_cons.mp member with rfl | inLater
      · omega
      · have shorter := inductionHypothesis inLater
        unfold elementsOctets at shorter
        simp only [elementOctets] at shorter
        omega

/-- The contents of an element are short when all elements are. -/
theorem part_fits
    {parts : List (UInt8 × List UInt8)}
    (fits : (elementsOctets parts).length < 2 ^ 64)
    {part : UInt8 × List UInt8}
    (member : part ∈ parts) :
    part.2.length < 2 ^ 64 :=
  (length_part_le member).trans_lt fits

/-- Reading encoded elements returns them. -/
theorem decodeElements_elementsOctets
    {parts : List (UInt8 × List UInt8)}
    (fits : (elementsOctets parts).length < 2 ^ 64) :
    decodeElements (elementsOctets parts) = some parts := by
  have each : ∀ part ∈ parts, part.2.length < 2 ^ 64 :=
    fun part member => part_fits fits member
  clear fits
  induction parts with
  | nil =>
      rfl
  | cons first later inductionHypothesis =>
      have element := element_elementOctets first.1
        (each first (List.mem_cons_self ..))
      have rest := inductionHypothesis fun part member =>
        each part (List.mem_cons_of_mem _ member)
      unfold elementsOctets at rest ⊢
      rw [List.flatMap_cons, decodeElements_cons element, rest]
      rfl

/-- The element of a `PartialAttribute`. -/
def attributeElement (partialAttribute : PartialAttribute) :
    UInt8 × List UInt8 :=
  (0x30,
    elementsOctets
      [(0x04, partialAttribute.1),
        (0x31, elementsOctets (partialAttribute.2.map (Prod.mk 0x04)))])

/-- The element of a reply. -/
def replyElement : SearchReply → UInt8 × List UInt8
  | .entry id objectName attributes =>
      (0x30,
        elementsOctets
          [(0x02, putIntContents id),
            (0x64,
              elementsOctets
                [(0x04, objectName),
                  (0x30,
                    elementsOctets (attributes.map attributeElement))])])
  | .done id resultCode matchedDn diagnosticMessage =>
      (0x30,
        elementsOctets
          [(0x02, putIntContents id),
            (0x65,
              elementsOctets
                [(0x0a, putIntContents resultCode),
                  (0x04, matchedDn),
                  (0x04, diagnosticMessage)])])

/-- The numbers of a reply have 32 bits. -/
def SearchReply.Small : SearchReply → Prop
  | .entry id _ _ =>
      -2 ^ 31 ≤ id ∧ id < 2 ^ 31
  | .done id resultCode _ _ =>
      (-2 ^ 31 ≤ id ∧ id < 2 ^ 31) ∧
        -2 ^ 31 ≤ resultCode ∧ resultCode < 2 ^ 31

/-- Reading a list of elements one by one. -/
theorem mapM_map_some
    {First Second : Type}
    {encode : First → Second}
    {decode : Second → Option First}
    (items : List First)
    (each : ∀ item ∈ items, decode (encode item) = some item) :
    (items.map encode).mapM decode = some items := by
  induction items with
  | nil =>
      rfl
  | cons item rest inductionHypothesis =>
      have first := each item (List.mem_cons_self ..)
      have later := inductionHypothesis fun other member =>
        each other (List.mem_cons_of_mem _ member)
      simp [List.mapM_cons, first, later]

/-- A number that was encoded. -/
theorem decodeNumber_putIntContents
    (tag : UInt8)
    {num : Int}
    (small : -2 ^ 31 ≤ num ∧ num < 2 ^ 31) :
    decodeNumber tag (tag, putIntContents num) = some num := by
  obtain ⟨nonempty, value⟩ := twosComplement_putIntContents small.1 small.2
  simp [decodeNumber, expectTag, nonempty, value]

/-- An attribute that was encoded. -/
theorem decodeAttribute_attributeElement
    (partialAttribute : PartialAttribute)
    (fits : (attributeElement partialAttribute).2.length < 2 ^ 64) :
    decodeAttribute (attributeElement partialAttribute) =
      some partialAttribute := by
  obtain ⟨type, values⟩ := partialAttribute
  have parts := decodeElements_elementsOctets fits
  have valuesFit :
      (elementsOctets (values.map (Prod.mk 0x04))).length < 2 ^ 64 :=
    part_fits fits (List.mem_cons_of_mem _ (List.mem_cons_self ..))
  have valueParts := decodeElements_elementsOctets valuesFit
  have read : (values.map (Prod.mk 0x04)).mapM (expectTag 0x04) =
      some values :=
    mapM_map_some values fun value _ => by simp [expectTag]
  simp only at parts
  simp [decodeAttribute, attributeElement, expectTag, parts, valueParts,
    read]

/-- A reply that was encoded. -/
theorem decodeReply_replyElement
    (reply : SearchReply)
    (small : reply.Small)
    (fits : (replyElement reply).2.length < 2 ^ 64) :
    decodeReply (replyElement reply) = some reply := by
  cases reply with
  | entry id objectName attributes =>
      have message := decodeElements_elementsOctets fits
      have operationFits := part_fits fits (List.mem_cons_of_mem _
        (List.mem_cons_self ..))
      have operation := decodeElements_elementsOctets operationFits
      have listFits := part_fits operationFits (List.mem_cons_of_mem _
        (List.mem_cons_self ..))
      have list := decodeElements_elementsOctets listFits
      have number := decodeNumber_putIntContents 0x02 small
      have each : (attributes.map attributeElement).mapM decodeAttribute =
          some attributes := by
        refine mapM_map_some attributes ?_
        intro item member
        exact decodeAttribute_attributeElement item
          (part_fits listFits (List.mem_map_of_mem member))
      simp only [replyElement, decodeReply, expectTag, message, number,
        decodeOperation, operation, list, each, if_true,
        Option.bind_eq_bind, Option.bind_some]
  | done id resultCode matchedDn diagnosticMessage =>
      have message := decodeElements_elementsOctets fits
      have operationFits := part_fits fits (List.mem_cons_of_mem _
        (List.mem_cons_self ..))
      have operation := decodeElements_elementsOctets operationFits
      have number := decodeNumber_putIntContents 0x02 small.1
      have code := decodeNumber_putIntContents 0x0a small.2
      have notEntry : ¬ (0x65 : UInt8) = 0x64 := by decide
      simp only [replyElement, decodeReply, expectTag, message, number,
        decodeOperation, operation, code, notEntry, if_true, if_false,
        Option.bind_eq_bind, Option.bind_some]

/-- Replies that were encoded one after the other. -/
theorem decodeReplies_replyElement
    (replies : List SearchReply)
    (small : ∀ reply ∈ replies, reply.Small)
    (fits : (elementsOctets (replies.map replyElement)).length < 2 ^ 64) :
    decodeReplies (elementsOctets (replies.map replyElement)) =
      some replies := by
  have parts := decodeElements_elementsOctets fits
  have each : (replies.map replyElement).mapM decodeReply =
      some replies := by
    refine mapM_map_some replies ?_
    intro reply member
    exact decodeReply_replyElement reply (small reply member)
      (part_fits fits (List.mem_map_of_mem member))
  simp only [decodeReplies, parts, each, Option.bind_eq_bind,
    Option.bind_some]

/-- A tag below 256 is one octet. -/
theorem berPrependTag_single
    {tag : Nat}
    (small : tag < 256) :
    berPrependTag tag = [UInt8.ofNat tag] := by
  have high : tag / 256 = 0 := by omega
  simp [berPrependTag, prependOctets, high]

/-- A printer between messages. -/
def Printer.after (octets : List UInt8) : Printer where
  tag := lberDefault
  done := octets
  stack := []

/-- The attribute that every entry carries. -/
def classAttribute : PartialAttribute :=
  (objectClass, [dcObject, organization])

/-- The reply that ends a search. -/
def searchDone (id : Int) : SearchReply :=
  .done id ldapSuccess [] []

/-- The format of a search result done prints one. -/
theorem run_resultFormat
    (octets : List UInt8)
    (id : Int) :
    (Printer.after octets).run resultFormat
        [.int id, .tag ldapResSearchResult, .int ldapSuccess, .str [],
          .str []] =
      some (Printer.after
        (octets ++ elementsOctets [replyElement (searchDone id)])) := by
  simp [Printer.after, resultFormat, Printer.run, Printer.start,
    Printer.put, Printer.write, Printer.close, Printer.tagOr, lberDefault,
    lberSequence, lberInteger, lberEnumerated, lberOctetstring,
    ldapResSearchResult, berPrependTag_single, elementsOctets,
    replyElement, searchDone]

/-- The format of an entry without equality filter prints one. -/
theorem run_entryFormat
    (octets : List UInt8)
    (id : Int)
    (objectName : List UInt8) :
    (Printer.after octets).run
        ['{', 'i', 't', '{', 'O', '{', '{', 'O', '[', 'O', 'O', ']', '}',
          '}', '}', '}']
        [.int id, .tag ldapResSearchEntry, .berval objectName,
          .berval objectClass, .berval dcObject, .berval organization] =
      some (Printer.after
        (octets ++
          elementsOctets
            [replyElement (.entry id objectName [classAttribute])])) := by
  simp [Printer.after, Printer.run, Printer.start,
    Printer.put, Printer.write, Printer.close, Printer.tagOr, lberDefault,
    lberSequence, lberInteger, lberSet, lberOctetstring,
    ldapResSearchEntry, berPrependTag_single, elementsOctets,
    replyElement, attributeElement, classAttribute]

/-- The format of an entry for an equality filter prints one. -/
theorem run_equalityFormat
    (octets : List UInt8)
    (id : Int)
    (objectName type value : List UInt8) :
    (Printer.after octets).run
        ['{', 'i', 't', '{', 'O', '{', '{', 'O', '[', 'O', ']', '}', '{',
          'O', '[', 'O', 'O', ']', '}', '}', '}', '}']
        [.int id, .tag ldapResSearchEntry, .berval objectName,
          .berval type, .berval value, .berval objectClass,
          .berval dcObject, .berval organization] =
      some (Printer.after
        (octets ++
          elementsOctets
            [replyElement
              (.entry id objectName
                [(type, [value]), classAttribute])])) := by
  simp [Printer.after, Printer.run, Printer.start,
    Printer.put, Printer.write, Printer.close, Printer.tagOr, lberDefault,
    lberSequence, lberInteger, lberSet, lberOctetstring,
    ldapResSearchEntry, berPrependTag_single, elementsOctets,
    replyElement, attributeElement, classAttribute]

end LdapProxy

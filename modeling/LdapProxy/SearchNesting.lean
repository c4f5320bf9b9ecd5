import Mathlib.Data.Nat.Bitwise
import LdapProxy.DecodeCursor
import LdapProxy.ElementSpans
import LdapProxy.RequestBatch

namespace LdapProxy

open LdapProxy.Ber LdapProxy.Lber

/-!
# Where the elements of a search request lie

`ber_scanf` enters an element by moving the read cursor to its contents; the
end of the element is not kept, so every later length is compared with the end
of the whole message.  The elements that `lp_do_search` reads are therefore
consecutive elements inside the message, but not always inside each other.
-/

namespace Lber

/-- A mask of seven zero bits selects the high bit of the last octet. -/
theorem and_moreTagMask (value : Nat) (octet : UInt8) :
    (value * 256 + octet.toNat) &&& lberMoreTagMask = 0 ↔
      octet.toNat < 128 := by
  have octetBound := octet.toNat_lt
  have mask : lberMoreTagMask = 2 ^ 7 := rfl
  rw [mask, Nat.and_two_pow, Nat.testBit_eq_decide_div_mod_eq]
  have shifted :
      (value * 256 + octet.toNat) / 2 ^ 7 =
        value * 2 + octet.toNat / 128 := by
    omega
  rw [shifted]
  by_cases small : octet.toNat < 128
  · have clear : octet.toNat / 128 = 0 := by omega
    simp [clear, small]
  · have set : octet.toNat / 128 = 1 := by omega
    simp [set, small]

/-- The number bits of an octet. -/
theorem and_bigTagMask (value : Nat) :
    value &&& lberBigTagMask = value % 32 :=
  Nat.and_two_pow_sub_one_eq_mod value 5

/-- The octets that `ber_tag_and_rest` takes for a multi-octet tag. -/
theorem bigTagOctets_found
    {octets : List UInt8}
    {tag ptr result next : Nat}
    (found : bigTagOctets tag ptr octets = (result, next))
    (known : result ≠ lberDefault) :
    ∃ more last rest,
      octets = more ++ last :: rest ∧
        (∀ octet ∈ more, 128 ≤ octet.toNat) ∧
        last.toNat < 128 ∧
        next = ptr + more.length + 1 ∧
        result = tag * 256 ^ (more.length + 1) +
          bigEndian (more ++ [last]) := by
  induction octets generalizing tag ptr with
  | nil =>
      simp only [bigTagOctets, Prod.mk.injEq] at found
      exact (known found.1.symm).elim
  | cons octet rest inductionHypothesis =>
      simp only [bigTagOctets, and_moreTagMask] at found
      split at found
      · next final =>
          simp only [Prod.mk.injEq] at found
          refine ⟨[], octet, rest, rfl, by simp, final, ?_, ?_⟩
          · simp only [List.length_nil]
            omega
          · simp [← found.1, bigEndian]
      · next further =>
          split at found
          · obtain ⟨more, last, later, rfl, marked, final, nextAt, value⟩ :=
              inductionHypothesis found
            refine ⟨octet :: more, last, later, rfl, ?_, final, ?_, ?_⟩
            · intro other member
              rcases List.mem_cons.mp member with rfl | inMore
              · omega
              · exact marked other inMore
            · rw [nextAt, List.length_cons]
              omega
            · rw [value, List.cons_append, bigEndian_cons]
              simp only [List.length_append, List.length_cons,
                List.length_nil, pow_succ]
              ring
          · simp only [Prod.mk.injEq] at found
            exact (known found.1.symm).elim

/-- Contents that `ber_peek_element` accepts are there. -/
theorem checkLength_found
    {tag len ptr rest result : Nat}
    {bv : Berval}
    (found : checkLength tag len ptr rest = (result, bv))
    (known : result ≠ lberDefault) :
    len ≤ rest ∧ result = tag ∧ bv = ⟨len, ptr⟩ := by
  unfold checkLength at found
  split at found
  · simp only [Prod.mk.injEq] at found
    exact (known found.1.symm).elim
  · next enough =>
      simp only [Prod.mk.injEq] at found
      exact ⟨Nat.le_of_not_lt enough, found.1.symm, found.2.symm⟩

namespace At

variable {ber : BerElement} {rest : List UInt8}

/-- A tag that `ber_tag_and_rest` finds stands behind the cursor. -/
theorem tagAndRest_found
    (atRest : At ber rest)
    {tag ptr : Nat}
    (found : berTagAndRest ber = (tag, ptr))
    (known : tag ≠ lberDefault) :
    ∃ tagOctets later,
      rest = tagOctets ++ later ∧
        TagOctets tagOctets ∧
        tag = bigEndian tagOctets ∧
        ptr = ber.berPtr + tagOctets.length := by
  have total := atRest.length
  unfold berTagAndRest BerElement.berEnd at found
  split at found
  · simp only [Prod.mk.injEq] at found
    exact (known found.1.symm).elim
  · next inside =>
      cases rest with
      | nil =>
          simp only [List.length_nil] at total
          omega
      | cons first later =>
          have saved :
              (if ber.berPtr = 0 then (ber.octet 0).toNat else ber.berTag) =
                first.toNat := by
            split
            · next start =>
                have octet := atRest.octet 0
                rw [start] at octet
                rw [octet]
                rfl
            · next moved =>
                exact (atRest.saved first later rfl).resolve_left moved
          have behind := atRest.drop 1
          simp only [List.drop_succ_cons, List.drop_zero] at behind
          simp only [saved, behind, and_bigTagMask] at found
          have mask : lberBigTagMask = 31 := rfl
          rw [mask] at found
          split at found
          · next small =>
              simp only [Prod.mk.injEq] at found
              refine ⟨[first], later, rfl, .single first small, ?_, ?_⟩
              · simp [← found.1, bigEndian]
              · simp [← found.2]
          · next large =>
              obtain ⟨more, last, others, rfl, marked, final, nextAt, value⟩ :=
                bigTagOctets_found found known
              refine ⟨first :: (more ++ [last]), others, by simp,
                .several first more last (by omega) marked final, ?_, ?_⟩
              · rw [value, bigEndian_cons]
                simp only [List.length_append, List.length_cons,
                  List.length_nil, Nat.zero_add]
              · rw [nextAt]
                simp only [List.length_append, List.length_cons,
                  List.length_nil]
                omega

/-- An element whose octets stand behind the cursor. -/
theorem elementAt
    (atRest : At ber rest)
    {tagOctets lengthOctets later : List UInt8}
    {len : Nat}
    (split : rest = tagOctets ++ (lengthOctets ++ later))
    (isTag : TagOctets tagOctets)
    (isLength : LengthOctets 8 lengthOctets len)
    (room : len ≤ later.length) :
    ElementAt ber.berBuf
      ⟨bigEndian tagOctets, ber.berPtr,
        ber.berPtr + tagOctets.length + lengthOctets.length,
        ber.berPtr + tagOctets.length + lengthOctets.length + len⟩ := by
  have element :=
    @ElementAt.of_octets (ber.berBuf.take ber.berPtr) tagOctets
      lengthOctets later len isTag isLength room
  rw [← split, ← atRest.suffix, List.take_append_drop,
    List.length_take_of_le atRest.inside] at element
  exact element

/-- An element that `ber_peek_element` finds stands behind the cursor. -/
theorem peekElement_found
    (atRest : At ber rest)
    {tag : Nat}
    {bv : Berval}
    (found : berPeekElement ber = (tag, bv))
    (known : tag ≠ lberDefault) :
    ElementAt ber.berBuf ⟨tag, ber.berPtr, bv.val, bv.val + bv.len⟩ := by
  have total := atRest.length
  rcases tagFound : berTagAndRest ber with ⟨foundTag, ptr⟩
  simp only [berPeekElement, tagFound, BerElement.berEnd] at found
  split at found
  · simp only [Prod.mk.injEq] at found
    exact (known found.1.symm).elim
  · next readable =>
      rw [not_or] at readable
      obtain ⟨tagOctets, later, split, isTag, rfl, rfl⟩ :=
        atRest.tagAndRest_found tagFound readable.1
      obtain ⟨first, later, rfl⟩ : ∃ first more, later = first :: more := by
        cases later with
        | nil =>
            simp only [split, List.append_nil] at total
            omega
        | cons first more =>
            exact ⟨first, more, rfl⟩
      have bits := lengthOctet_bits ⟨first.toNat, first.toNat_lt⟩
      have firstOctet := atRest.octet tagOctets.length
      have behind := atRest.drop (tagOctets.length + 1)
      rw [split, List.getD_append_right _ _ _ _ (Nat.le_refl _), Nat.sub_self,
        List.getD_cons_zero] at firstOctet
      rw [split, List.drop_length_add_append, ← Nat.add_assoc] at behind
      simp only [split, List.length_append, List.length_cons] at total
      simp only [firstOctet, behind, List.drop_succ_cons,
        List.drop_zero] at found
      split at found
      · next shortBit =>
          obtain ⟨room, rfl, rfl⟩ := checkLength_found found known
          exact
            atRest.elementAt split isTag
              (.short first (bits.1.mp shortBit)) (by omega)
      · next longBit =>
          have isLong : ¬ first.toNat < 128 := mt bits.1.mpr longBit
          have small := first.toNat_lt
          have amount : first.toNat &&& 0x7f = first.toNat - 128 := by
            rw [bits.2]
            simp only
            omega
          simp only [amount] at found
          split at found
          · simp only [Prod.mk.injEq] at found
            exact (known found.1.symm).elim
          · next counted =>
              obtain ⟨room, rfl, rfl⟩ := checkLength_found found known
              have taken :
                  (later.take (first.toNat - 128)).length =
                    first.toNat - 128 := by
                rw [List.length_take]
                omega
              have isLength :
                  LengthOctets 8 (first :: later.take (first.toNat - 128))
                    (bigEndian (later.take (first.toNat - 128))) :=
                .long first _ (by omega)
                  (List.length_pos_iff.mp (by omega)) (by omega)
              rw [← List.take_append_drop (first.toNat - 128) later] at split
              have element :=
                atRest.elementAt split isTag isLength
                  (by rw [List.length_drop]; omega)
              have offset :
                  ber.berPtr + tagOctets.length + (first.toNat - 128 + 1) =
                    ber.berPtr + tagOctets.length + 1 +
                      (first.toNat - 128) := by
                omega
              rw [List.length_cons, taken, offset] at element
              simp only
              exact element

/-- Moving the cursor inside the message. -/
theorem of_moveTo
    {offset : Nat}
    (inside : offset ≤ ber.berBuf.length) :
    At (ber.moveTo offset) (ber.berBuf.drop offset) where
  inside := inside
  suffix := rfl
  saved := by
    intro first later same
    refine .inr ?_
    have octet : ber.octet offset = first := by
      unfold BerElement.octet
      have found :
          (ber.berBuf.drop offset)[0]? = ber.berBuf[offset + 0]? :=
        List.getElem?_drop
      rw [same, Nat.add_zero] at found
      rw [List.getD_eq_getElem?_getD, ← found]
      rfl
    simp only [BerElement.moveTo, octet]

/-- `ber_skip_element` moves behind an element of the message. -/
theorem skipElement_found
    (atRest : At ber rest)
    {tag : Nat}
    {bv : Berval}
    {next : BerElement}
    (found : berSkipElement ber = (tag, bv, next))
    (known : tag ≠ lberDefault) :
    ∃ span,
      ElementAt ber.berBuf span ∧
        span.start = ber.berPtr ∧
        ber.contents bv = span.octets ber.berBuf ∧
        next = ber.moveTo span.stop := by
  rcases peeked : berPeekElement ber with ⟨peekedTag, peekedBv⟩
  simp only [berSkipElement, peeked] at found
  split at found
  · next isDefault =>
      simp only [Prod.mk.injEq] at found
      exact (known (found.1.symm.trans isDefault)).elim
  · simp only [Prod.mk.injEq] at found
    obtain ⟨rfl, rfl, rfl⟩ := found
    refine ⟨_, atRest.peekElement_found peeked known, rfl, ?_, rfl⟩
    simp only [BerElement.contents, Span.octets, Nat.add_sub_cancel_left]

/-- `{` moves to the contents of an element of the message. -/
theorem scanOpen_found
    (atRest : At ber rest)
    {values : List ScanValue}
    {next : BerElement}
    (found : scanConversion '{' ber = (some values, next)) :
    ∃ span,
      ElementAt ber.berBuf span ∧
        span.start = ber.berPtr ∧
        span.tag = berPeekTag ber ∧
        values = [] ∧
        next = ber.moveTo span.contents := by
  rcases peeked : berPeekElement ber with ⟨tag, bv⟩
  simp only [scanConversion, berSkipTag, peeked, Prod.mk.injEq] at found
  split at found
  · simp at found
  · next known =>
      obtain ⟨same, rfl⟩ := found
      refine ⟨_, atRest.peekElement_found peeked known, rfl, ?_, ?_, rfl⟩
      · rw [berPeekTag, peeked]
      · exact (Option.some.inj same).symm

end At

/-- The conversions that read one field. -/
def IsField (conversion : Char) : Prop :=
  conversion = 'a' ∨ conversion = 'b' ∨ conversion = 'e' ∨ conversion = 'i'

instance (conversion : Char) : Decidable (IsField conversion) :=
  inferInstanceAs
    (Decidable
      (conversion = 'a' ∨ conversion = 'b' ∨ conversion = 'e' ∨
        conversion = 'i'))

/-- What a conversion stores for the contents of its field. -/
def fieldValue (conversion : Char) (octets : List UInt8) : ScanValue :=
  if conversion = 'a' then .str octets else .int (netnum octets)

/-- A number that `ber_get_int` returns is an element of the message. -/
theorem At.getInt_found
    {ber : BerElement}
    {rest : List UInt8}
    (atRest : At ber rest)
    {tag : Nat}
    {num : Int}
    {next : BerElement}
    (found : berGetInt ber = (tag, some num, next)) :
    ∃ span,
      ElementAt ber.berBuf span ∧
        span.start = ber.berPtr ∧
        num = netnum (span.octets ber.berBuf) ∧
        next = ber.moveTo span.stop := by
  rcases skipped : berSkipElement ber with ⟨skippedTag, bv, last⟩
  simp only [berGetInt, skipped] at found
  split at found
  · simp at found
  · next accepted =>
      simp only [Prod.mk.injEq, Option.some.injEq] at found
      obtain ⟨rfl, rfl, rfl⟩ := found
      obtain ⟨span, element, start, contents, moved⟩ :=
        atRest.skipElement_found skipped (not_or.mp accepted).1
      exact ⟨span, element, start, by rw [contents], moved⟩

/-- A string that `ber_get_stringa` returns is an element of the message. -/
theorem At.getStringa_found
    {ber : BerElement}
    {rest : List UInt8}
    (atRest : At ber rest)
    {tag : Nat}
    {octets : List UInt8}
    {next : BerElement}
    (found : berGetStringa ber = (tag, some octets, next)) :
    ∃ span,
      ElementAt ber.berBuf span ∧
        span.start = ber.berPtr ∧
        octets = span.octets ber.berBuf ∧
        next = ber.moveTo span.stop := by
  rcases skipped : berSkipElement ber with ⟨skippedTag, bv, last⟩
  simp only [berGetStringa, skipped] at found
  split at found
  · simp at found
  · next accepted =>
      simp only [Prod.mk.injEq, Option.some.injEq] at found
      obtain ⟨rfl, rfl, rfl⟩ := found
      obtain ⟨span, element, start, contents, moved⟩ :=
        atRest.skipElement_found skipped (not_or.mp accepted).1
      exact ⟨span, element, start, contents, moved⟩

/-- A field that a conversion reads is an element of the message. -/
theorem At.scanField_found
    {ber : BerElement}
    {rest : List UInt8}
    (atRest : At ber rest)
    {conversion : Char}
    (isField : IsField conversion)
    {values : List ScanValue}
    {next : BerElement}
    (found : scanConversion conversion ber = (some values, next)) :
    ∃ span,
      ElementAt ber.berBuf span ∧
        span.start = ber.berPtr ∧
        values = [fieldValue conversion (span.octets ber.berBuf)] ∧
        next = ber.moveTo span.stop := by
  have number
      (conversionNumber :
        ((berGetInt ber).2.1.map fun num => [ScanValue.int num],
            (berGetInt ber).2.2) =
          (some values, next)) :
      ∃ span,
        ElementAt ber.berBuf span ∧
          span.start = ber.berPtr ∧
          values = [.int (netnum (span.octets ber.berBuf))] ∧
          next = ber.moveTo span.stop := by
    rcases got : berGetInt ber with ⟨tag, num, last⟩
    simp only [got, Prod.mk.injEq, Option.map_eq_some_iff] at conversionNumber
    obtain ⟨⟨num, rfl, rfl⟩, rfl⟩ := conversionNumber
    obtain ⟨span, element, start, rfl, moved⟩ := atRest.getInt_found got
    exact ⟨span, element, start, rfl, moved⟩
  rcases isField with rfl | rfl | rfl | rfl
  · rcases got : berGetStringa ber with ⟨tag, octets, last⟩
    simp only [scanConversion, got, Prod.mk.injEq,
      Option.map_eq_some_iff] at found
    obtain ⟨⟨octets, rfl, rfl⟩, rfl⟩ := found
    obtain ⟨span, element, start, rfl, moved⟩ := atRest.getStringa_found got
    exact ⟨span, element, start, rfl, moved⟩
  · exact number found
  · exact number found
  · exact number found

/--
The fields of a format are consecutive elements of the message, and the
conversions store their contents.
-/
theorem At.scanFields_found
    {ber : BerElement}
    {rest : List UInt8}
    (atRest : At ber rest)
    {format : List Char}
    (fields : ∀ conversion ∈ format, IsField conversion)
    {values : List ScanValue}
    {last : BerElement}
    (found : berScanf format ber = (some values, last)) :
    ∃ spans,
      spans.length = format.length ∧
        Consecutive ber.berBuf ber.berPtr spans last.berPtr ∧
        values =
          List.zipWith
            (fun conversion span =>
              fieldValue conversion (Span.octets span ber.berBuf))
            format spans ∧
        last.berBuf = ber.berBuf ∧
        ∃ later, At last later := by
  induction format generalizing ber rest values with
  | nil =>
      simp only [berScanf, Prod.mk.injEq, Option.some.injEq] at found
      obtain ⟨rfl, rfl⟩ := found
      exact ⟨[], rfl, .nil _, rfl, rfl, rest, atRest⟩
  | cons conversion format inductionHypothesis =>
      rcases scanned : scanConversion conversion ber with ⟨_ | first, next⟩
      · simp [berScanf, scanned] at found
      · rcases scannedLater : berScanf format next with ⟨_ | more, final⟩
        · simp [berScanf, scanned, scannedLater] at found
        · simp only [berScanf, scanned, scannedLater, Prod.mk.injEq,
            Option.some.injEq] at found
          obtain ⟨rfl, rfl⟩ := found
          obtain ⟨span, element, start, rfl, rfl⟩ :=
            atRest.scanField_found (fields conversion (by simp)) scanned
          obtain ⟨spans, length, consecutive, rfl, sameBuf, atLast⟩ :=
            inductionHypothesis (At.of_moveTo element.stop_le)
              (fun other member =>
                fields other (List.mem_cons_of_mem _ member))
              scannedLater
          refine ⟨span :: spans, ?_, ?_, rfl, sameBuf, atLast⟩
          · rw [List.length_cons, length, List.length_cons]
          · rw [← start]
            exact .cons element consecutive

/-- A format that enters an element reads consecutive elements behind it. -/
theorem At.scanEntered_found
    {ber : BerElement}
    {rest : List UInt8}
    (atRest : At ber rest)
    {format : List Char}
    (fields : ∀ conversion ∈ format, IsField conversion)
    {values : List ScanValue}
    {last : BerElement}
    (found : berScanf ('{' :: format) ber = (some values, last)) :
    ∃ outer spans,
      ElementAt ber.berBuf outer ∧
        outer.start = ber.berPtr ∧
        outer.tag = berPeekTag ber ∧
        spans.length = format.length ∧
        Consecutive ber.berBuf outer.contents spans last.berPtr ∧
        values =
          List.zipWith
            (fun conversion span =>
              fieldValue conversion (Span.octets span ber.berBuf))
            format spans ∧
        last.berBuf = ber.berBuf ∧
        ∃ later, At last later := by
  rcases scanned : scanConversion '{' ber with ⟨_ | first, next⟩
  · simp [berScanf, scanned] at found
  · rcases scannedLater : berScanf format next with ⟨_ | more, final⟩
    · simp [berScanf, scanned, scannedLater] at found
    · simp only [berScanf, scanned, scannedLater, Prod.mk.injEq,
        Option.some.injEq] at found
      obtain ⟨rfl, rfl⟩ := found
      obtain ⟨outer, element, start, tag, rfl, rfl⟩ :=
        atRest.scanOpen_found scanned
      have inside := element.contents_le.trans element.stop_le
      obtain ⟨spans, length, consecutive, rfl, sameBuf, atLast⟩ :=
        (At.of_moveTo inside).scanFields_found fields scannedLater
      exact ⟨outer, spans, element, start, tag, length, consecutive, rfl,
        sameBuf, atLast⟩

end Lber

/-- The next elements of a message from an offset on. -/
def peekElements (message : List UInt8) :
    Nat → Nat → Option (List Span × Nat)
  | 0, start =>
      some ([], start)
  | count + 1, start =>
      let (tag, bv) := berPeekElement ((messageElement message).moveTo start)
      if message.length < start ∨ tag = lberDefault then
        none
      else
        (peekElements message count (bv.val + bv.len)).map fun later =>
          (⟨tag, start, bv.val, bv.val + bv.len⟩ :: later.1, later.2)

/-- Elements that are read one by one are consecutive. -/
theorem consecutive_of_peekElements
    {message : List UInt8}
    (count : Nat)
    {start stop : Nat}
    {spans : List Span}
    (read : peekElements message count start = some (spans, stop)) :
    Consecutive message start spans stop := by
  induction count generalizing start spans with
  | zero =>
      simp only [peekElements, Option.some.injEq, Prod.mk.injEq] at read
      obtain ⟨rfl, rfl⟩ := read
      exact .nil _
  | succ count inductionHypothesis =>
      rcases peeked :
        berPeekElement ((messageElement message).moveTo start) with ⟨tag, bv⟩
      simp only [peekElements, peeked] at read
      split at read
      · cases read
      · next readable =>
          obtain ⟨⟨others, final⟩, later, same⟩ :=
            Option.map_eq_some_iff.mp read
          simp only [Prod.mk.injEq] at same
          obtain ⟨rfl, rfl⟩ := same
          have inside : start ≤ (messageElement message).berBuf.length :=
            Nat.le_of_not_lt (not_or.mp readable).1
          have element :=
            (At.of_moveTo inside).peekElement_found peeked
              (not_or.mp readable).2
          have rest := inductionHypothesis later
          exact .cons element rest

/-- Where the elements of a message with a search request lie. -/
structure SearchSpans where
  messageId : Span
  request : Span
  base : Span
  scope : Span
  deref : Span
  sizeLimit : Span
  timeLimit : Span
  typesOnly : Span
  filter : Span
  /-- The attribute and the assertion value of an equality match. -/
  assertion : Option (Span × Span)
  deriving Repr, DecidableEq

namespace SearchSpans

/-- The fields of the search request, in the order of the message. -/
def fields (spans : SearchSpans) : List Span :=
  [spans.base, spans.scope, spans.deref, spans.sizeLimit, spans.timeLimit,
    spans.typesOnly, spans.filter]

/--
The elements stand one behind the other, all of them inside the message: the
search request behind the message id, its fields from its contents on, and the
strings of an equality match from the contents of the filter on.
-/
structure InMessage
    (spans : SearchSpans)
    (message : List UInt8) : Prop where
  tag : spans.request.tag = ldapReqSearch
  request :
    ∃ stop,
      Consecutive message 0 [spans.messageId, spans.request] stop
  fields :
    ∃ stop,
      Consecutive message spans.request.contents spans.fields stop
  assertion :
    ∀ attr value,
      spans.assertion = some (attr, value) →
      ∃ stop, Consecutive message spans.filter.contents [attr, value] stop
  equality :
    spans.assertion.isSome ↔ spans.filter.tag = ldapFilterEquality

/--
Every element also ends inside the element whose contents it belongs to.
-/
structure Nested
    (spans : SearchSpans)
    (message : List UInt8) : Prop where
  inMessage : spans.InMessage message
  fields : ∀ field ∈ spans.fields, field.Within spans.request
  assertion :
    ∀ attr value,
      spans.assertion = some (attr, value) →
      attr.Within spans.filter ∧ value.Within spans.filter

/-- A message has at most one reading as a search request. -/
theorem InMessage.unique
    {spans others : SearchSpans}
    {message : List UInt8}
    (inMessage : spans.InMessage message)
    (otherInMessage : others.InMessage message) :
    spans = others := by
  obtain ⟨stop, request⟩ := inMessage.request
  obtain ⟨otherStop, otherRequest⟩ := otherInMessage.request
  have sameRequest := request.unique otherRequest rfl
  simp only [List.cons.injEq, and_true] at sameRequest
  obtain ⟨lastField, fields⟩ := inMessage.fields
  obtain ⟨otherLast, otherFields⟩ := otherInMessage.fields
  rw [← sameRequest.2] at otherFields
  have sameFields := fields.unique otherFields rfl
  simp only [SearchSpans.fields, List.cons.injEq, and_true] at sameFields
  obtain ⟨base, scope, deref, sizeLimit, timeLimit, typesOnly, filter⟩ :=
    sameFields
  have sameAssertion : spans.assertion = others.assertion := by
    have isSome := inMessage.equality
    rw [filter, ← otherInMessage.equality] at isSome
    cases assertion : spans.assertion with
    | none =>
        cases otherAssertion : others.assertion with
        | none =>
            rfl
        | some otherPair =>
            simp [assertion, otherAssertion] at isSome
    | some pair =>
        cases otherAssertion : others.assertion with
        | none =>
            simp [assertion, otherAssertion] at isSome
        | some otherPair =>
            obtain ⟨_, strings⟩ := inMessage.assertion _ _ assertion
            obtain ⟨_, otherStrings⟩ :=
              otherInMessage.assertion _ _ otherAssertion
            rw [← filter] at otherStrings
            have same := strings.unique otherStrings rfl
            simp only [List.cons.injEq, and_true] at same
            rw [Prod.ext same.1 same.2]
  cases spans
  cases others
  simp only at *
  simp only [SearchSpans.mk.injEq]
  exact ⟨sameRequest.1, sameRequest.2, base, scope, deref, sizeLimit,
    timeLimit, typesOnly, filter, sameAssertion⟩

/-- The query that these elements ask for. -/
def query
    (spans : SearchSpans)
    (message : List UInt8)
    (msgid : Int) :
    MysqlMsg :=
  let query := queryOf (cString (spans.base.octets message)) msgid
  match spans.assertion with
  | none =>
      query
  | some (attr, value) =>
      (query.setFilterType ldapFilterEquality).setEquality
        (cString (attr.octets message)) (cString (value.octets message))

end SearchSpans

/-- The strings of a filter are consecutive elements from its contents on. -/
theorem equalityStrings_found
    {filter : BerElement}
    {rest attr value : List UInt8}
    (atFilter : At filter rest)
    (found : equalityStrings filter = some (attr, value)) :
    ∃ span attrSpan valueSpan stop,
      ElementAt filter.berBuf span ∧
        span.start = filter.berPtr ∧
        span.tag = berPeekTag filter ∧
        Consecutive filter.berBuf span.contents [attrSpan, valueSpan] stop ∧
        attr = cString (attrSpan.octets filter.berBuf) ∧
        value = cString (valueSpan.octets filter.berBuf) := by
  unfold equalityStrings at found
  split at found
  · next first second last scanned =>
      simp only [Option.some.injEq, Prod.mk.injEq] at found
      obtain ⟨rfl, rfl⟩ := found
      obtain ⟨span, spans, element, start, tag, length, consecutive, values,
        -, -⟩ :=
        atFilter.scanEntered_found (by simp [Lber.IsField]) scanned
      match spans, length with
      | [attrSpan, valueSpan], _ =>
        simp only [List.zipWith, fieldValue, if_true, List.cons.injEq,
          ScanValue.str.injEq, and_true] at values
        obtain ⟨rfl, rfl⟩ := values
        exact ⟨span, attrSpan, valueSpan, _, element, start, tag,
          consecutive, rfl, rfl⟩
  · cases found

/-- A filter that `ber_peek_tag` accepts is an element of the message. -/
theorem peekTag_found
    {ber : BerElement}
    {rest : List UInt8}
    (atRest : At ber rest)
    (known : berPeekTag ber ≠ lberDefault) :
    ∃ span,
      ElementAt ber.berBuf span ∧
        span.start = ber.berPtr ∧
        span.tag = berPeekTag ber :=
  ⟨_, atRest.peekElement_found rfl known, rfl, rfl⟩

/-- The elements that a pushed query is made of. -/
theorem searchQuery_found
    {ber filter : BerElement}
    {rest : List UInt8}
    (atRest : At ber rest)
    {messageId : Span}
    (identifier : ElementAt ber.berBuf messageId)
    (first : messageId.start = 0)
    (behind : messageId.stop = ber.berPtr)
    (search : berPeekTag ber = ldapReqSearch)
    {base : List UInt8}
    {more : List ScanValue}
    (scanned :
      berScanf searchFormat ber = (some (.str base :: more), filter))
    {msgid : Int}
    {query : MysqlMsg}
    (built : searchQuery base msgid filter = some query) :
    ∃ spans : SearchSpans,
      spans.InMessage ber.berBuf ∧
        query = spans.query ber.berBuf msgid := by
  obtain ⟨request, fields, element, start, tag, length, consecutive, values,
    sameBuf, later, atFilter⟩ :=
    atRest.scanEntered_found (by simp [Lber.IsField]) scanned
  have requestAt :
      Consecutive ber.berBuf 0 [messageId, request] request.stop := by
    rw [← first]
    refine .cons identifier ?_
    rw [behind, ← start]
    exact .cons element (.nil _)
  match fields, length with
  | [baseSpan, scope, deref, sizeLimit, timeLimit, typesOnly], _ =>
    simp only [List.zipWith, fieldValue, if_true, List.cons.injEq,
      ScanValue.str.injEq] at values
    obtain ⟨rfl, -⟩ := values
    unfold searchQuery at built
    split at built
    · cases built
    · next known =>
        split at built
        · next equality =>
            obtain ⟨⟨attr, value⟩, strings, rfl⟩ :=
              Option.map_eq_some_iff.mp built
            obtain ⟨filterSpan, attrSpan, valueSpan, stop, filterElement,
              filterStart, filterTag, assertion, rfl, rfl⟩ :=
              equalityStrings_found atFilter strings
            rw [sameBuf] at filterElement assertion
            refine
              ⟨⟨messageId, request, baseSpan, scope, deref, sizeLimit,
                timeLimit, typesOnly, filterSpan,
                some (attrSpan, valueSpan)⟩, ?_, ?_⟩
            · exact
                { tag := tag.trans search
                  request := ⟨_, requestAt⟩
                  fields :=
                    ⟨_, consecutive.concat filterElement filterStart⟩
                  assertion := by
                    rintro _ _ ⟨⟩
                    exact ⟨stop, assertion⟩
                  equality := by
                    simp only [Option.isSome_some, true_iff]
                    exact filterTag.trans equality }
            · simp only [SearchSpans.query, sameBuf]
        · next other =>
            obtain ⟨filterSpan, filterElement, filterStart, filterTag⟩ :=
              peekTag_found atFilter known
            rw [sameBuf] at filterElement
            refine
              ⟨⟨messageId, request, baseSpan, scope, deref, sizeLimit,
                timeLimit, typesOnly, filterSpan, none⟩, ?_, ?_⟩
            · exact
                { tag := tag.trans search
                  request := ⟨_, requestAt⟩
                  fields :=
                    ⟨_, consecutive.concat filterElement filterStart⟩
                  assertion := by
                    rintro _ _ ⟨⟩
                  equality := by
                    simp only [Option.isSome_none, Bool.false_eq_true,
                      false_iff]
                    rw [filterTag]
                    exact other }
            · exact (Option.some.inj built).symm

/--
A search request either has its query pushed, and the query is made of elements
inside the message, or it is rejected with `LP_ERR` and nothing is queued.
-/
theorem lpDoSearch_spans
    {ber : BerElement}
    {rest : List UInt8}
    (atRest : At ber rest)
    {messageId : Span}
    (identifier : ElementAt ber.berBuf messageId)
    (first : messageId.start = 0)
    (behind : messageId.stop = ber.berPtr)
    (search : berPeekTag ber = ldapReqSearch)
    (env : Environment)
    (allocs : PushAllocs)
    (slot : Nat)
    (c : Connection)
    (p : Process)
    (msgid : Int) :
    (∃ spans : SearchSpans,
      spans.InMessage ber.berBuf ∧
        lpDoSearch env allocs ber slot c p msgid =
          .ok (pushQuery allocs (lpTaskNew env p).1
            (spans.query ber.berBuf msgid) p.mysqlIndex slot c
            (afterTask env p))) ∨
      ∃ p',
        lpDoSearch env allocs ber slot c p msgid = .ok (lpErr, c, p') ∧
          p'.mysqls = p.mysqls := by
  by_cases scans :
      ∃ base more filter,
        berScanf searchFormat ber = (some (.str base :: more), filter)
  · obtain ⟨base, more, filter, scanned⟩ := scans
    rw [lpDoSearch_scanned search scanned]
    cases built : searchQuery base msgid filter with
    | some query =>
        obtain ⟨spans, inMessage, rfl⟩ :=
          searchQuery_found atRest identifier first behind search scanned
            built
        exact .inl ⟨spans, inMessage, rfl⟩
    | none =>
        refine .inr ⟨_, rfl, ?_⟩
        split
        · rfl
        · rfl
  · refine .inr ⟨p, ?_, rfl⟩
    have known : ¬ ldapReqSearch = lberDefault := by decide
    unfold lpDoSearch
    simp only [search, known, if_false, ne_eq, not_true]
    split
    · next base more filter scanned =>
        exact (scans ⟨base, more, filter, scanned⟩).elim
    · rfl

/--
For every message: a search whose query is pushed, or that is not answered with
`LP_ERR`, consists of elements inside the message, and the query is made of
them; a message without such elements is rejected and nothing is queued.
-/
def SearchConfined
    (env : Environment)
    (allocs : PushAllocs)
    (message : List UInt8)
    (ber : BerElement)
    (slot : Nat)
    (c : Connection)
    (p : Process)
    (msgid : Int) :
    Prop :=
  (∀ ret c' p',
    lpDoSearch env allocs ber slot c p msgid = .ok (ret, c', p') →
    ret ≠ lpErr ∨ p'.mysqls ≠ p.mysqls →
    ∃ spans : SearchSpans,
      spans.InMessage message ∧
        (ret, c', p') =
          pushQuery allocs (lpTaskNew env p).1 (spans.query message msgid)
            p.mysqlIndex slot c (afterTask env p)) ∧
    ((¬ ∃ spans : SearchSpans, spans.InMessage message) →
      ∃ p',
        lpDoSearch env allocs ber slot c p msgid = .ok (lpErr, c, p') ∧
          p'.mysqls = p.mysqls)

/-- The elements of a search request lie inside its message. -/
theorem search_confined
    {message : List UInt8}
    {msgid : Int}
    {ber : BerElement}
    (identified :
      berGetInt (messageElement message) = (ldapTagMsgid, some msgid, ber))
    (search : berPeekTag ber = ldapReqSearch)
    (env : Environment)
    (allocs : PushAllocs)
    (slot : Nat)
    (c : Connection)
    (p : Process) :
    SearchConfined env allocs message ber slot c p msgid := by
  have atMessage : At (messageElement message) message :=
    ⟨Nat.zero_le _, rfl, fun _ _ _ => .inl rfl⟩
  obtain ⟨messageId, identifier, first, -, rfl⟩ :=
    atMessage.getInt_found identified
  have outcome :=
    lpDoSearch_spans (At.of_moveTo identifier.stop_le) identifier first rfl
      search env allocs slot c p msgid
  constructor
  · intro ret c' p' returned queued
    rcases outcome with ⟨spans, inMessage, pushed⟩ | ⟨p'', rejected, same⟩
    · rw [returned] at pushed
      exact ⟨spans, inMessage, Except.ok.inj pushed⟩
    · rw [returned] at rejected
      simp only [Except.ok.injEq, Prod.mk.injEq] at rejected
      obtain ⟨rfl, rfl, rfl⟩ := rejected
      rcases queued with other | changed
      · exact (other rfl).elim
      · exact (changed same).elim
  · intro outside
    rcases outcome with ⟨spans, inMessage, -⟩ | rejected
    · exact (outside ⟨spans, inMessage⟩).elim
    · exact rejected

/-- The elements of the search of `mailSearch` lie inside its message. -/
theorem search_confined_mail :
    SearchConfined .still .succeed mailSearch.berBuf mailSearch 0
      (Connection.initial 0) (Process.initial .still) 2 :=
  search_confined (by decide +kernel) (by decide +kernel) _ _ _ _ _

/--
A search for `a=b`, with the length octets of its request and of its filter.
-/
def lengthsSearch (request filter : UInt8) : List UInt8 :=
  [0x02, 0x01, 0x01, 0x63, request, 0x04, 0x00, 0x0a, 0x01, 0x00, 0x0a,
    0x01, 0x00, 0x02, 0x01, 0x00, 0x02, 0x01, 0x00, 0x01, 0x01, 0x00, 0xa3,
    filter, 0x04, 0x01, 0x61, 0x04, 0x01, 0x62]

/-- The elements of this search. -/
def lengthsSpans (request filter : Nat) : SearchSpans where
  messageId := ⟨0x02, 0, 2, 3⟩
  request := ⟨0x63, 3, 5, 5 + request⟩
  base := ⟨0x04, 5, 7, 7⟩
  scope := ⟨0x0a, 7, 9, 10⟩
  deref := ⟨0x0a, 10, 12, 13⟩
  sizeLimit := ⟨0x02, 13, 15, 16⟩
  timeLimit := ⟨0x02, 16, 18, 19⟩
  typesOnly := ⟨0x01, 19, 21, 22⟩
  filter := ⟨0xa3, 22, 24, 24 + filter⟩
  assertion := some (⟨0x04, 24, 26, 27⟩, ⟨0x04, 27, 29, 30⟩)

/-- The elements of a search whose request is empty. -/
theorem emptyRequest_inMessage :
    (lengthsSpans 0 6).InMessage (lengthsSearch 0 6) where
  tag := rfl
  request := ⟨5, consecutive_of_peekElements 2 (by decide +kernel)⟩
  fields := ⟨30, consecutive_of_peekElements 7 (by decide +kernel)⟩
  assertion := by
    rintro _ _ ⟨⟩
    exact ⟨30, consecutive_of_peekElements 2 (by decide +kernel)⟩
  equality := by decide

/-- The elements of a search whose filter is empty. -/
theorem emptyFilter_inMessage :
    (lengthsSpans 25 0).InMessage (lengthsSearch 25 0) where
  tag := rfl
  request := ⟨30, consecutive_of_peekElements 2 (by decide +kernel)⟩
  fields := ⟨24, consecutive_of_peekElements 7 (by decide +kernel)⟩
  assertion := by
    rintro _ _ ⟨⟩
    exact ⟨30, consecutive_of_peekElements 2 (by decide +kernel)⟩
  equality := by decide

/-- The result of an operation and the length of the first query queue. -/
def firstQueue :
    Except Abort (Int × Connection × Process) → Option (Int × Nat)
  | .ok (ret, _, p) =>
      some (ret, (p.mysqls 0).queue.length)
  | .error _ =>
      none

/-- The message that stands behind the message id. -/
def behindMsgid (message : List UInt8) : BerElement :=
  (berGetInt (messageElement message)).2.2

/-- This message is a search for which `lp_do_search` pushes a query. -/
def Queried (message : List UInt8) : Prop :=
  (berGetInt (messageElement message)).1 = ldapTagMsgid ∧
    berPeekTag (behindMsgid message) = ldapReqSearch ∧
    firstQueue
        (lpDoSearch .still .succeed (behindMsgid message) 0
          (Connection.initial 0) (Process.initial .still) 1) =
      some (lpOk, 1)

instance (message : List UInt8) : Decidable (Queried message) :=
  inferInstanceAs
    (Decidable
      ((berGetInt (messageElement message)).1 = ldapTagMsgid ∧
        berPeekTag (behindMsgid message) = ldapReqSearch ∧
        firstQueue
            (lpDoSearch .still .succeed (behindMsgid message) 0
              (Connection.initial 0) (Process.initial .still) 1) =
          some (lpOk, 1)))

/--
A request without contents whose fields follow it is searched for, and so is a
filter without contents whose strings follow it.
-/
theorem search_past_ends :
    (Queried (lengthsSearch 0 6) ∧
      ¬ ∃ spans : SearchSpans, spans.Nested (lengthsSearch 0 6)) ∧
      Queried (lengthsSearch 25 0) ∧
      ¬ ∃ spans : SearchSpans, spans.Nested (lengthsSearch 25 0) := by
  refine ⟨⟨?_, ?_⟩, ?_, ?_⟩
  · decide +kernel
  · rintro ⟨spans, nested⟩
    obtain rfl := nested.inMessage.unique emptyRequest_inMessage
    exact absurd (nested.fields _ (List.mem_cons_self ..)) (by decide)
  · decide +kernel
  · rintro ⟨spans, nested⟩
    obtain rfl := nested.inMessage.unique emptyFilter_inMessage
    exact absurd (nested.assertion _ _ rfl).1 (by decide)

end LdapProxy

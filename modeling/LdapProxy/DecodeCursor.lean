import LdapProxy.LberDecode

namespace LdapProxy.Lber

open LdapProxy.Ber

/-!
# Decoding along a message

`At ber rest` says that the read cursor of a message stands in front of the
octets `rest`.  Each decoding function of `liblber` is described by what it
returns in front of a well-formed element and where it leaves the cursor; the
conversions of a `ber_scanf` format are then composed along the message.
-/

/-- The read cursor stands in front of these octets. -/
structure At (ber : BerElement) (rest : List UInt8) : Prop where
  inside : ber.berPtr ≤ ber.berBuf.length
  suffix : ber.berBuf.drop ber.berPtr = rest
  saved :
    ∀ first later, rest = first :: later →
      ber.berPtr = 0 ∨ ber.berTag = first.toNat

namespace At

variable {ber : BerElement}

/-- The number of octets behind the cursor. -/
theorem length
    {rest : List UInt8}
    (atRest : At ber rest) :
    ber.berBuf.length = ber.berPtr + rest.length := by
  have inside := atRest.inside
  have suffix := congrArg List.length atRest.suffix
  rw [List.length_drop] at suffix
  omega

/-- The octets further on in the buffer. -/
theorem drop
    {rest : List UInt8}
    (atRest : At ber rest)
    (count : Nat) :
    ber.berBuf.drop (ber.berPtr + count) = rest.drop count := by
  rw [← List.drop_drop, atRest.suffix]

/-- An octet further on in the buffer. -/
theorem octet
    {rest : List UInt8}
    (atRest : At ber rest)
    (index : Nat) :
    ber.octet (ber.berPtr + index) = rest.getD index 0 := by
  unfold BerElement.octet
  rw [List.getD_eq_getElem?_getD, List.getD_eq_getElem?_getD,
    ← List.getElem?_drop, atRest.suffix]

/-- Moving the cursor over octets that are there. -/
theorem moveTo
    {skipped rest : List UInt8}
    (atAll : At ber (skipped ++ rest)) :
    At (ber.moveTo (ber.berPtr + skipped.length)) rest where
  inside := by
    have total := atAll.length
    rw [List.length_append] at total
    simp only [BerElement.moveTo]
    omega
  suffix := by
    simp only [BerElement.moveTo]
    rw [atAll.drop, List.drop_left]
  saved := by
    rintro first later rfl
    refine .inr ?_
    simp only [BerElement.moveTo]
    rw [atAll.octet]
    simp

/-- A tag octet with fewer than five number bits set is a whole tag. -/
theorem tagAndRest
    {tag : UInt8}
    {rest : List UInt8}
    (atTag : At ber (tag :: rest))
    (single : tag.toNat &&& lberBigTagMask ≠ lberBigTagMask) :
    berTagAndRest ber = (tag.toNat, ber.berPtr + 1) := by
  have total := atTag.length
  rw [List.length_cons] at total
  have known :
      (if ber.berPtr = 0 then (ber.octet 0).toNat else ber.berTag) =
        tag.toNat := by
    split
    · next start =>
        have first := atTag.octet 0
        rw [start] at first
        rw [first]
        rfl
    · next moved =>
        exact (atTag.saved tag rest rfl).resolve_left moved
  unfold berTagAndRest BerElement.berEnd
  rw [if_neg (by omega)]
  simp only [known]
  rw [if_pos single]

/-- What `ber_peek_element` finds in front of an element. -/
theorem peekElement
    {tag : UInt8}
    {contents octets rest : List UInt8}
    (atElement : At ber (octets ++ rest))
    (element : Element 8 tag contents octets)
    (single : tag.toNat &&& lberBigTagMask ≠ lberBigTagMask) :
    ∃ header,
      octets = header ++ contents ∧
        berPeekElement ber =
          (tag.toNat, ⟨contents.length, ber.berPtr + header.length⟩) := by
  obtain ⟨lengthOctets, encoded, rfl⟩ := element
  refine ⟨tag :: lengthOctets, rfl, ?_⟩
  simp only [List.cons_append, List.append_assoc] at atElement
  have total := atElement.length
  have tagFound := atElement.tagAndRest single
  have notDefault : ¬ tag.toNat = lberDefault := by
    have small := tag.toNat_lt
    unfold lberDefault
    omega
  simp only [List.length_cons, List.length_append] at total
  have lengthOctet := atElement.octet 1
  have behind := atElement.drop 2
  unfold berPeekElement
  simp only [tagFound, notDefault, false_or, BerElement.berEnd]
  generalize contents.length = size at encoded total ⊢
  cases encoded with
  | short octet isShort =>
      have bits := lengthOctet_bits ⟨octet.toNat, octet.toNat_lt⟩
      have isShortBits : octet.toNat &&& 0x80 = 0 := bits.1.mpr isShort
      simp only [List.singleton_append, List.getD_cons_succ,
        List.getD_cons_zero] at lengthOctet
      simp only [List.length_singleton] at total ⊢
      rw [if_neg (by omega)]
      simp only [lengthOctet, isShortBits, if_true, checkLength]
      rw [if_neg (by omega)]
      rfl
  | long count octets isLong nonempty fits =>
      have bits := lengthOctet_bits ⟨count.toNat, count.toNat_lt⟩
      have positive : 0 < octets.length := List.length_pos_iff.mpr nonempty
      have amount : count.toNat &&& 0x7f = octets.length := by
        rw [bits.2]
        simp only
        omega
      have notShort : ¬ count.toNat &&& 0x80 = 0 := by
        rw [bits.1]
        simp only
        omega
      simp only [List.cons_append, List.getD_cons_succ,
        List.getD_cons_zero] at lengthOctet
      simp only [List.cons_append, List.drop_succ_cons,
        List.drop_zero] at behind
      simp only [List.length_cons] at total ⊢
      rw [if_neg (by omega)]
      simp only [lengthOctet, notShort, if_false, amount]
      rw [if_neg (by omega)]
      have found : (ber.berBuf.drop (ber.berPtr + 1 + 1)).take
          octets.length = octets := by
        rw [behind, List.take_left]
      simp only [found, checkLength]
      rw [if_neg (by omega)]
      have offset : ber.berPtr + 1 + 1 + octets.length =
          ber.berPtr + (octets.length + 1 + 1) := by omega
      rw [offset]

/-- `ber_peek_tag` returns the tag of the element behind the cursor. -/
theorem peekTag
    {tag : UInt8}
    {contents octets rest : List UInt8}
    (atElement : At ber (octets ++ rest))
    (element : Element 8 tag contents octets)
    (single : tag.toNat &&& lberBigTagMask ≠ lberBigTagMask) :
    berPeekTag ber = tag.toNat := by
  obtain ⟨header, -, peeked⟩ := atElement.peekElement element single
  rw [berPeekTag, peeked]

/-- A tag octet is not `LBER_ERROR`. -/
theorem tag_ne_default (tag : UInt8) : ¬ tag.toNat = lberDefault := by
  have small := tag.toNat_lt
  unfold lberDefault
  omega

/-- `ber_skip_element` returns the contents and moves behind the element. -/
theorem skipElement
    {tag : UInt8}
    {contents octets rest : List UInt8}
    (atElement : At ber (octets ++ rest))
    (element : Element 8 tag contents octets)
    (single : tag.toNat &&& lberBigTagMask ≠ lberBigTagMask) :
    ∃ bv next,
      berSkipElement ber = (tag.toNat, bv, next) ∧
        bv.len = contents.length ∧
        ber.contents bv = contents ∧
        At next rest := by
  obtain ⟨header, rfl, peeked⟩ := atElement.peekElement element single
  refine ⟨⟨contents.length, ber.berPtr + header.length⟩,
    ber.moveTo (ber.berPtr + (header ++ contents).length), ?_, rfl, ?_,
    atElement.moveTo⟩
  · simp only [berSkipElement, peeked, tag_ne_default, if_false,
      List.length_append, Nat.add_assoc]
  · simp only [BerElement.contents]
    rw [atElement.drop, List.append_assoc, List.drop_left, List.take_left]

/-- `ber_skip_tag` moves to the contents of the element. -/
theorem skipTag
    {tag : UInt8}
    {contents octets rest : List UInt8}
    (atElement : At ber (octets ++ rest))
    (element : Element 8 tag contents octets)
    (single : tag.toNat &&& lberBigTagMask ≠ lberBigTagMask) :
    ∃ next,
      berSkipTag ber = (tag.toNat, next) ∧ At next (contents ++ rest) := by
  obtain ⟨header, rfl, peeked⟩ := atElement.peekElement element single
  rw [List.append_assoc] at atElement
  refine ⟨ber.moveTo (ber.berPtr + header.length), ?_, atElement.moveTo⟩
  simp only [berSkipTag, peeked]

/-- `ber_get_int` returns a number of at most four octets. -/
theorem getInt
    {tag : UInt8}
    {contents octets rest : List UInt8}
    (atElement : At ber (octets ++ rest))
    (element : Element 8 tag contents octets)
    (single : tag.toNat &&& lberBigTagMask ≠ lberBigTagMask)
    (short : contents.length ≤ 4) :
    ∃ next,
      berGetInt ber = (tag.toNat, some (netnum contents), next) ∧
        At next rest := by
  obtain ⟨bv, next, skipped, len, found, atRest⟩ :=
    atElement.skipElement element single
  refine ⟨next, ?_, atRest⟩
  have fits : ¬ (tag.toNat = lberDefault ∨ 4 < bv.len) := by
    rw [len]
    rintro (isDefault | long)
    · exact tag_ne_default tag isDefault
    · omega
  simp only [berGetInt, skipped, fits, if_false, found]

/-- `{` moves to the contents of the element. -/
theorem scanOpen
    {tag : UInt8}
    {contents octets rest : List UInt8}
    (atElement : At ber (octets ++ rest))
    (element : Element 8 tag contents octets)
    (single : tag.toNat &&& lberBigTagMask ≠ lberBigTagMask) :
    ∃ next,
      scanConversion '{' ber = (some [], next) ∧
        At next (contents ++ rest) := by
  obtain ⟨next, skipped, atContents⟩ := atElement.skipTag element single
  refine ⟨next, ?_, atContents⟩
  simp only [scanConversion, skipped, tag_ne_default, if_false]

/-- `a` returns a string whose only NUL may be its last octet. -/
theorem scanString
    {tag : UInt8}
    {contents octets rest : List UInt8}
    (atElement : At ber (octets ++ rest))
    (element : Element 8 tag contents octets)
    (single : tag.toNat &&& lberBigTagMask ≠ lberBigTagMask)
    (noZero : (0 : UInt8) ∉ contents.take (contents.length - 1)) :
    ∃ next,
      scanConversion 'a' ber = (some [.str contents], next) ∧
        At next rest := by
  obtain ⟨bv, next, skipped, len, found, atRest⟩ :=
    atElement.skipElement element single
  refine ⟨next, ?_, atRest⟩
  simp only [scanConversion, berGetStringa, skipped, found, len,
    tag_ne_default, noZero, or_self, if_false, Option.map_some]

/-- `b`, `e` and `i` return a number of at most four octets. -/
theorem scanNumber
    {tag : UInt8}
    {contents octets rest : List UInt8}
    (atElement : At ber (octets ++ rest))
    (element : Element 8 tag contents octets)
    (single : tag.toNat &&& lberBigTagMask ≠ lberBigTagMask)
    (short : contents.length ≤ 4)
    {conversion : Char}
    (isNumber :
      conversion = 'b' ∨ conversion = 'e' ∨ conversion = 'i') :
    ∃ num next,
      scanConversion conversion ber = (some [.int num], next) ∧
        At next rest := by
  obtain ⟨next, number, atRest⟩ := atElement.getInt element single short
  refine ⟨netnum contents, next, ?_, atRest⟩
  rcases isNumber with rfl | rfl | rfl
  · simp only [scanConversion, number, Option.map_some]
  · simp only [scanConversion, number, Option.map_some]
  · simp only [scanConversion, number, Option.map_some]

end At

/-- Flipping the sign bit and taking it off again extends the sign. -/
theorem flippedSign (octet : Fin 256) :
    ((octet.val ^^^ 0x80 : Nat) : Int) - 0x80 =
      if octet.val < 128 then (octet.val : Int) else octet.val - 256 := by
  decide +revert +kernel

/-- The octets behind the first one are shifted in. -/
theorem foldl_shifted (rest : List UInt8) (start : Int) :
    rest.foldl (fun num octet => num * 256 + (octet.toNat : Int)) start =
      start * 256 ^ rest.length + bigEndian rest := by
  induction rest generalizing start with
  | nil =>
      simp
  | cons octet later inductionHypothesis =>
      rw [List.foldl_cons, inductionHypothesis, bigEndian_cons,
        List.length_cons, pow_succ]
      push_cast
      ring

/-- The conversion of `ber_get_int` is that of two's complement numbers. -/
theorem netnum_eq_twosComplement (contents : List UInt8) :
    netnum contents = twosComplement contents := by
  cases contents with
  | nil =>
      rfl
  | cons first rest =>
      have sign := flippedSign ⟨first.toNat, first.toNat_lt⟩
      simp only at sign
      simp only [netnum, foldl_shifted, sign, twosComplement,
        bigEndian_cons, pow_succ]
      split
      · push_cast
        ring
      · push_cast
        ring

/-- A conversion that succeeds is followed by the rest of the format. -/
theorem berScanf_cons
    {conversion : Char}
    {ber next last : BerElement}
    {values more : List ScanValue}
    {format : List Char}
    (first : scanConversion conversion ber = (some values, next))
    (later : berScanf format next = (some more, last)) :
    berScanf (conversion :: format) ber = (some (values ++ more), last) := by
  simp only [berScanf, first, later]

end LdapProxy.Lber

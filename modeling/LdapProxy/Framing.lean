import LdapProxy.LberIo

namespace LdapProxy.Lber

open LdapProxy.Ber

/-!
# The framing machine behind `ber_get_next`

`ber_get_next` keeps an unfinished message in a record whose header is overlaid
on its own fields.  The framing machine of this module keeps nothing but the
octets of the unfinished message.  `Holds` relates the two, and
`berGetNext_refines` shows that one call of `ber_get_next` does what one step
of the machine does, for every state it can be resumed in.
-/

/-- What the octets held so far say about the header of the message. -/
inductive HeaderParse where
  | more
  | bad
  | complete (tag header len : Nat)
  deriving Repr, DecidableEq

/-- Parse tag and length from the start of the message. -/
def headerOf (held : List UInt8) : HeaderParse :=
  match parseTag held with
  | .more =>
      .more
  | .tooBig =>
      .bad
  | .tag value count =>
      match parseLength (held.drop count) with
      | .more =>
          .more
      | .tooLong =>
          .bad
      | .length tlen octets =>
          if tlen = 0 then .bad else .complete value (count + octets) tlen

/-- What one step of the framing machine ends with. -/
inductive Framed where
  | wait (held : List UInt8)
  | fail
  /-- Nine octets are held and the header is still unfinished. -/
  | stuck
  | message (tag : Nat) (contents : List UInt8)
  deriving Repr, DecidableEq

/-- A read without octets: wait when it would block, otherwise give up. -/
def readFailed (held : List UInt8) (failed : ReadResult) : Framed :=
  if failed.errno = .ewouldblock then .wait held else .fail

/-- Read the missing octets of a message whose header is known. -/
def frameBody
    (held : List UInt8)
    (tag header len : Nat)
    (sock : Sock) :
    Framed × Sock :=
  let toGo := header + len - held.length
  match sock.read toGo with
  | (.octets octets, sock) =>
      if octets.length < toGo then
        (.wait (held ++ octets), sock)
      else
        (.message tag ((held ++ octets).drop header), sock)
  | (failed, sock) =>
      (readFailed held failed, sock)

/-- Continue once the header is looked up in the octets held. -/
def frameHeader (held : List UInt8) (sock : Sock) : Framed × Sock :=
  match headerOf held with
  | .more =>
      (.wait held, sock)
  | .bad =>
      (.fail, sock)
  | .complete tag header len =>
      if header + len < held.length then
        (.fail, sock)
      else if held.length = header + len then
        (.message tag (held.drop header), sock)
      else
        frameBody held tag header len sock

/-- One step of the framing machine with these octets held. -/
def nextMessage (held : List UInt8) (sock : Sock) : Framed × Sock :=
  match headerOf held with
  | .more =>
      if 9 ≤ held.length then
        (.stuck, sock)
      else
        match sock.read (max 1 (8 - held.length)) with
        | (.octets octets, sock) =>
            frameHeader (held ++ octets) sock
        | (failed, sock) =>
            (readFailed held failed, sock)
  | .bad =>
      (.fail, sock)
  | .complete tag header len =>
      frameBody held tag header len sock

/-- A tag found in some octets is found again when more octets follow. -/
theorem moreTagOctets_append
    {tag i value count : Nat}
    {octets : List UInt8}
    (found : moreTagOctets tag i octets = .tag value count)
    (more : List UInt8) :
    moreTagOctets tag i (octets ++ more) = .tag value count := by
  induction octets generalizing tag i with
  | nil =>
      simp [moreTagOctets] at found
  | cons octet rest inductionHypothesis =>
      simp only [List.cons_append, moreTagOctets] at found ⊢
      by_cases last : (tag * 256 + octet.toNat) &&& lberMoreTagMask = 0
      · simp only [last, if_true] at found ⊢
        cases rest with
        | nil =>
            simp at found
        | cons next tail =>
            simpa using found
      · simp only [last, if_false] at found ⊢
        by_cases tooMany : i = 7
        · simp [tooMany] at found
        · simp only [tooMany, if_false] at found ⊢
          exact inductionHypothesis found

/-- A parsed tag does not change when more octets arrive. -/
theorem parseTag_append
    {value count : Nat}
    {octets : List UInt8}
    (found : parseTag octets = .tag value count)
    (more : List UInt8) :
    parseTag (octets ++ more) = .tag value count := by
  cases octets with
  | nil =>
      simp [parseTag] at found
  | cons first rest =>
      simp only [List.cons_append, parseTag] at found ⊢
      split at found
      · next big =>
          rw [if_pos big]
          exact moreTagOctets_append found more
      · next small =>
          rw [if_neg small]
          exact found

/-- A tag parsed by the loop ends inside the octets and fits its octets. -/
theorem moreTagOctets_bounds
    {tag i value count : Nat}
    {octets : List UInt8}
    (found : moreTagOctets tag i octets = .tag value count)
    (early : i ≤ 7)
    (small : tag < 256 ^ i) :
    i < count ∧ count ≤ 8 ∧ count < i + octets.length ∧
      value < 256 ^ count := by
  induction octets generalizing tag i with
  | nil =>
      simp [moreTagOctets] at found
  | cons octet rest inductionHypothesis =>
      have grown : tag * 256 + octet.toNat < 256 ^ (i + 1) := by
        have octetBound := octet.toNat_lt
        rw [Nat.pow_succ]
        omega
      simp only [moreTagOctets] at found
      by_cases last : (tag * 256 + octet.toNat) &&& lberMoreTagMask = 0
      · simp only [last, if_true] at found
        cases rest with
        | nil =>
            simp at found
        | cons next tail =>
            simp only [List.isEmpty_cons, Bool.false_eq_true, if_false,
              TagParse.tag.injEq] at found
            obtain ⟨rfl, rfl⟩ := found
            simp only [List.length_cons]
            exact ⟨by omega, by omega, by omega, grown⟩
      · simp only [last, if_false] at found
        by_cases tooMany : i = 7
        · simp [tooMany] at found
        · simp only [tooMany, if_false] at found
          have later := inductionHypothesis found (by omega) grown
          simp only [List.length_cons]
          omega

/-- A parsed tag has one to eight octets, all of them there. -/
theorem parseTag_bounds
    {value count : Nat}
    {octets : List UInt8}
    (found : parseTag octets = .tag value count) :
    1 ≤ count ∧ count ≤ octets.length ∧ value < 2 ^ 64 := by
  cases octets with
  | nil =>
      simp [parseTag] at found
  | cons first rest =>
      have firstBound := first.toNat_lt
      simp only [parseTag] at found
      split at found
      · have bounds :=
          moreTagOctets_bounds found (by omega) (by simpa using firstBound)
        have fits : 256 ^ count ≤ 256 ^ 8 :=
          Nat.pow_le_pow_right (by omega) bounds.2.1
        simp only [List.length_cons]
        omega
      · simp only [TagParse.tag.injEq] at found
        obtain ⟨rfl, rfl⟩ := found
        simp only [List.length_cons]
        omega

/-- A parsed length ends inside the octets. -/
theorem parseLength_bounds
    {tlen count : Nat}
    {octets : List UInt8}
    (found : parseLength octets = .length tlen count) :
    1 ≤ count ∧ count ≤ octets.length := by
  cases octets with
  | nil =>
      simp [parseLength] at found
  | cons first rest =>
      simp only [parseLength] at found
      split at found
      · simp only [LengthParse.length.injEq] at found
        simp only [List.length_cons]
        omega
      · split at found
        · cases found
        · split at found
          · cases found
          · simp only [LengthParse.length.injEq] at found
            simp only [List.length_cons]
            omega

/-- A parsed length does not change when more octets arrive. -/
theorem parseLength_append
    {tlen count : Nat}
    {octets : List UInt8}
    (found : parseLength octets = .length tlen count)
    (more : List UInt8) :
    parseLength (octets ++ more) = .length tlen count := by
  cases octets with
  | nil =>
      simp [parseLength] at found
  | cons first rest =>
      simp only [List.cons_append, parseLength] at found ⊢
      by_cases short : first.toNat &&& 0x80 = 0
      · simpa [short] using found
      · simp only [short, if_false] at found ⊢
        by_cases tooLong : lensize < first.toNat &&& 0x7f
        · simp [tooLong] at found
        · simp only [tooLong, if_false] at found ⊢
          by_cases missing : rest.length < first.toNat &&& 0x7f
          · simp [missing] at found
          · simp only [missing, if_false] at found
            rw [if_neg (by rw [List.length_append]; omega),
              List.take_append_of_le_length (by omega)]
            exact found

/-- A complete header is the tag and the length that were parsed. -/
theorem headerOf_complete
    {tag header len : Nat}
    {held : List UInt8}
    (parsed : headerOf held = .complete tag header len) :
    ∃ count octets,
      parseTag held = .tag tag count ∧
        parseLength (held.drop count) = .length len octets ∧
        header = count + octets ∧
        len ≠ 0 := by
  unfold headerOf at parsed
  split at parsed
  · cases parsed
  · cases parsed
  · next value count tagFound =>
      split at parsed
      · cases parsed
      · cases parsed
      · next tlen octets lengthFound =>
          split at parsed
          · cases parsed
          · next positive =>
              simp only [HeaderParse.complete.injEq] at parsed
              obtain ⟨rfl, rfl, rfl⟩ := parsed
              exact ⟨count, octets, tagFound, lengthFound, rfl, positive⟩

/-- A complete header does not change when more octets arrive. -/
theorem headerOf_append
    {tag header len : Nat}
    {held : List UInt8}
    (parsed : headerOf held = .complete tag header len)
    (more : List UInt8) :
    headerOf (held ++ more) = .complete tag header len := by
  obtain ⟨count, octets, tagFound, lengthFound, rfl, positive⟩ :=
    headerOf_complete parsed
  have bounds := parseTag_bounds tagFound
  have lengthMore := parseLength_append lengthFound more
  rw [← List.drop_append_of_le_length bounds.2.1] at lengthMore
  simp [headerOf, parseTag_append tagFound more, lengthMore, positive]

/-- A complete header lies inside the octets it was parsed from. -/
theorem header_le_length
    {tag header len : Nat}
    {held : List UInt8}
    (parsed : headerOf held = .complete tag header len) :
    2 ≤ header ∧ header ≤ held.length := by
  obtain ⟨count, octets, tagFound, lengthFound, rfl, -⟩ :=
    headerOf_complete parsed
  have tagBounds := parseTag_bounds tagFound
  have lengthBounds := parseLength_bounds lengthFound
  rw [List.length_drop] at lengthBounds
  omega

/-- The header octets `held`, as they lie in the fields of the record. -/
inductive HeaderFields (held : List UInt8) (ber : RecvElement) : Prop where
  /-- The tag has not been stored yet. -/
  | raw :
      ber.berPtr = .field 7 →
      ber.fields.read 7 held.length = held →
      HeaderFields held ber
  /-- The tag is in `ber_tag`, which overwrote its first octet. -/
  | tagged (value count : Nat) :
      parseTag held = .tag value count →
      ber.berPtr = .field (7 + count) →
      ber.berTag = value →
      ber.fields.read (7 + count) (held.length - count) =
        held.drop count →
      HeaderFields held ber

/-- The record holds exactly these octets of an unfinished message. -/
inductive Holds : List UInt8 → RecvElement → Prop where
  | fresh (ber : RecvElement) :
      ber.berRwptr = .null →
      ber.berBuf = none →
      Holds [] ber
  | header (held : List UInt8) (ber : RecvElement) :
      headerOf held = .more →
      held.length ≤ 9 →
      ber.berRwptr = .field (7 + held.length) →
      ber.berBuf = none →
      HeaderFields held ber →
      Holds held ber
  | body (held : List UInt8) (ber : RecvElement) (tag header len : Nat) :
      headerOf held = .complete tag header len →
      held.length < header + len →
      ber.berRwptr = .buf (held.length - header) →
      ber.berBuf = some (held.drop header) →
      ber.berEnd = len →
      ber.berTag = tag →
      Holds held ber

/-- A record just allocated holds nothing. -/
theorem holds_new : Holds [] RecvElement.new :=
  .fresh _ rfl rfl

/--
What a call of `ber_get_next` returned is what the framing machine ended with.
-/
inductive Refines :
    Except Abort NextResult → Framed × Sock → Prop where
  | stuck (sock : Sock) :
      Refines (.error .messedUp) (.stuck, sock)
  | wait (result : NextResult) (held : List UInt8) :
      result.tag = lberDefault →
      result.errno = .ewouldblock →
      Holds held result.ber →
      Refines (.ok result) (.wait held, result.sock)
  | fail (result : NextResult) :
      result.tag = lberDefault →
      result.errno ≠ .ewouldblock →
      Refines (.ok result) (.fail, result.sock)
  | message (result : NextResult) (contents : List UInt8) :
      result.errno = .zero →
      result.ber.toElement = ⟨result.tag, contents, 0⟩ →
      Refines (.ok result) (.message result.tag contents, result.sock)

/-- A read that failed is reported alike by both. -/
theorem refines_readFailed
    {held : List UInt8}
    {ber : RecvElement}
    (holds : Holds held ber)
    (failed : ReadResult)
    (sock : Sock) :
    Refines (.ok (nextFail failed.errno ber sock))
      (readFailed held failed, sock) := by
  unfold readFailed
  by_cases blocked : failed.errno = .ewouldblock
  · rw [if_pos blocked]
    exact .wait (nextFail failed.errno ber sock) held rfl blocked holds
  · rw [if_neg blocked]
    exact .fail (nextFail failed.errno ber sock) rfl blocked

/-- A read of at least one octet returns at least one and no more. -/
theorem read_octets_length
    {sock after : Sock}
    {count : Nat}
    {octets : List UInt8}
    (positive : 0 < count)
    (answered : sock.read count = (.octets octets, after)) :
    0 < octets.length ∧ octets.length ≤ count := by
  unfold Sock.read at answered
  split at answered
  · simp at answered
  · next first rest later =>
      simp only [Prod.mk.injEq, ReadResult.octets.injEq] at answered
      obtain ⟨rfl, -⟩ := answered
      rw [List.length_take, List.length_cons]
      omega
  all_goals simp at answered

/-- Reading the body of a held message is a step of the framing machine. -/
theorem readBody_refines
    {held : List UInt8}
    {ber : RecvElement}
    {tag header len : Nat}
    (parsed : headerOf held = .complete tag header len)
    (unfinished : held.length < header + len)
    (rwptr : ber.berRwptr = .buf (held.length - header))
    (stored : ber.berBuf = some (held.drop header))
    (size : ber.berEnd = len)
    (tagStored : ber.berTag = tag)
    (sock : Sock) :
    Refines (readBody sock ber) (frameBody held tag header len sock) := by
  subst tag
  have headerRead := (header_le_length parsed).2
  have toGo : ber.berEnd - (held.length - header) =
      header + len - held.length := by omega
  have inside : held.length - header < ber.berEnd := by omega
  have whole : (held.drop header).take (held.length - header) =
      held.drop header :=
    List.take_of_length_le (by simp)
  have holds : Holds held ber :=
    .body held ber ber.berTag header len parsed unfinished rwptr stored
      size rfl
  unfold readBody frameBody
  simp only [rwptr, stored, inside, if_true, toGo, whole]
  cases answer : sock.read (header + len - held.length) with
  | mk result after =>
      cases result with
      | octets octets =>
          have lengths := read_octets_length (by omega) answer
          have appended :
              held.drop header ++ octets = (held ++ octets).drop header := by
            rw [List.drop_append_of_le_length headerRead]
          have parsedMore := headerOf_append parsed octets
          by_cases short : octets.length < header + len - held.length
          · simp only [short, if_true]
            refine .wait (nextFail .ewouldblock _ after) _ rfl rfl ?_
            refine .body _ _ ber.berTag header len parsedMore
              ?_ ?_ ?_ size rfl
            · rw [List.length_append]
              omega
            · simp only [nextFail, Pointer.buf.injEq, List.length_append]
              omega
            · simp only [nextFail, appended]
          · simp only [short, if_false]
            refine .message (nextDone _ after) _ rfl ?_
            simp only [nextDone, RecvElement.toElement, RecvElement.berTag,
              Option.getD_some, appended]
      | wouldBlock =>
          exact refines_readFailed holds .wouldBlock after
      | eof =>
          exact refines_readFailed holds .eof after
      | error =>
          exact refines_readFailed holds .error after

/-- Storing octets at the read cursor extends the header octets. -/
theorem headerFields_store
    {held : List UInt8}
    {ber : RecvElement}
    (headerFields : HeaderFields held ber)
    (octets : List UInt8)
    (rwptr : Pointer) :
    HeaderFields (held ++ octets)
      { ber with
        fields := ber.fields.write (7 + held.length) octets
        berRwptr := rwptr } := by
  cases headerFields with
  | raw ptr fields =>
      refine .raw ptr ?_
      rw [List.length_append, Memory.read_write_append, fields]
  | tagged value count tagFound ptr tagStored fields =>
      have bounds := parseTag_bounds tagFound
      refine .tagged value count (parseTag_append tagFound octets) ptr ?_ ?_
      · unfold RecvElement.berTag at tagStored ⊢
        rw [Memory.read_write_disjoint _ (by omega), tagStored]
      · have offset : 7 + held.length =
            7 + count + (held.length - count) := by omega
        have amount : (held ++ octets).length - count =
            held.length - count + octets.length := by
          rw [List.length_append]
          omega
        simp only
        rw [offset, amount, Memory.read_write_append, fields,
          List.drop_append_of_le_length bounds.2.1]

/-- A record whose tag is not stored yet parses it in the tag step. -/
theorem tagStep_raw
    {ber : RecvElement}
    (ptr : ber.berPtr = .field 7)
    (rwptr : Nat) :
    tagStep ber rwptr =
      match parseTag (ber.fields.read 7 (rwptr - 7)) with
      | .more =>
          .error .ewouldblock
      | .tooBig =>
          .error .erange
      | .tag value count =>
          .ok (7 + count,
            { ber with
              fields := ber.fields.write 0 (toLittleEndian 8 value)
              berPtr := .field (7 + count) }) := by
  simp only [tagStep, ptr]
  exact if_pos rfl

/-- A record whose tag is stored keeps it in the tag step. -/
theorem tagStep_stored
    {ber : RecvElement}
    {count : Nat}
    (positive : 1 ≤ count)
    (ptr : ber.berPtr = .field (7 + count))
    (rwptr : Nat) :
    tagStep ber rwptr = .ok (7 + count, ber) := by
  have moved : ¬ 7 + count = lenField - 1 := by
    unfold lenField
    omega
  simp only [tagStep, ptr, moved, if_false]

/-- The tag step stores the tag that the header octets begin with. -/
theorem tagStep_tag
    {held : List UInt8}
    {ber : RecvElement}
    {value count : Nat}
    (headerFields : HeaderFields held ber)
    (found : parseTag held = .tag value count) :
    ∃ next,
      tagStep ber (7 + held.length) = .ok (7 + count, next) ∧
        next.berPtr = .field (7 + count) ∧
        next.berTag = value ∧
        next.fields.read (7 + count) (held.length - count) =
          held.drop count ∧
        next.berBuf = ber.berBuf ∧
        next.berRwptr = ber.berRwptr := by
  have bounds := parseTag_bounds found
  cases headerFields with
  | raw ptr fields =>
      have amount : 7 + held.length - 7 = held.length := by omega
      rw [tagStep_raw ptr, amount, fields, found]
      refine ⟨_, rfl, rfl, ?_, ?_, rfl, rfl⟩
      · have stored :=
          ber.fields.read_write_same 0 (toLittleEndian 8 value)
        rw [length_toLittleEndian] at stored
        simp only [RecvElement.berTag]
        rw [stored, littleEndian_toLittleEndian]
        exact Nat.mod_eq_of_lt bounds.2.2
      · have split : held.length = count + (held.length - count) := by omega
        rw [split, Memory.read_add] at fields
        have dropped := congrArg (List.drop count) fields
        rw [List.drop_left' (by simp)] at dropped
        simp only
        rw [Memory.read_write_disjoint _
          (by rw [length_toLittleEndian]; omega), dropped]
  | tagged oldValue oldCount tagFound ptr tagStored fields =>
      rw [found] at tagFound
      simp only [TagParse.tag.injEq] at tagFound
      obtain ⟨rfl, rfl⟩ := tagFound
      exact ⟨ber, tagStep_stored bounds.1 ptr _, ptr, tagStored, fields,
        rfl, rfl⟩

/-- Without a complete tag the tag step waits or gives up. -/
theorem tagStep_noTag
    {held : List UInt8}
    {ber : RecvElement}
    (headerFields : HeaderFields held ber)
    (notFound : ∀ value count, parseTag held ≠ .tag value count) :
    (parseTag held = .more ∧
        tagStep ber (7 + held.length) = .error .ewouldblock) ∨
      (parseTag held = .tooBig ∧
        tagStep ber (7 + held.length) = .error .erange) := by
  cases headerFields with
  | raw ptr fields =>
      have amount : 7 + held.length - 7 = held.length := by omega
      rw [tagStep_raw ptr, amount, fields]
      cases parsed : parseTag held with
      | more =>
          exact .inl ⟨rfl, rfl⟩
      | tooBig =>
          exact .inr ⟨rfl, rfl⟩
      | tag value count =>
          exact (notFound value count parsed).elim
  | tagged value count tagFound =>
      exact (notFound value count tagFound).elim

/-- All octets that `ber_get_next` has read past the header are moved. -/
theorem fillBuffer_moved
    {held : List UInt8}
    {ber : RecvElement}
    {header tlen : Nat}
    (inside : header ≤ held.length)
    (short : held.length ≤ 9)
    (empty : ber.berBuf = none)
    (fields :
      ber.fields.read (7 + header) (held.length - header) =
        held.drop header)
    (positive : tlen ≠ 0) :
    ∃ next,
      fillBuffer ber (7 + header) (7 + held.length) tlen =
          (if header + tlen < held.length then
            .fail .erange
              { ber with
                fields := ber.fields.write lenField (toLittleEndian 8 tlen)
                berPtr := .field (7 + held.length) }
          else if held.length = header + tlen then
            .done next
          else
            .again { next with berRwptr := .buf (held.length - header) }) ∧
        next.berBuf = some (held.drop header) ∧
        next.berEnd = tlen ∧
        next.berTag = ber.berTag := by
  have moved :
      (if 7 + header < usertagField then
        if 7 + held.length < usertagField then
          7 + held.length - (7 + header)
        else
          usertagField - (7 + header)
      else
        0) = held.length - header := by
    unfold usertagField
    split_ifs <;> omega
  have cursor : 7 + header + (held.length - header) =
      7 + held.length := by omega
  refine ⟨
    { fields :=
        (ber.fields.write lenField (toLittleEndian 8 tlen)).write
          usertagField (toLittleEndian 8 0)
      berBuf := some (held.drop header)
      berEnd := tlen
      berPtr := .buf 0
      berRwptr := ber.berRwptr }, ?_, rfl, rfl, ?_⟩
  · simp only [fillBuffer, moved, cursor, positive, if_false, empty,
      Nat.sub_self, Nat.add_zero, Memory.read_none, List.append_nil, fields]
    by_cases tooMany : header + tlen < held.length
    · rw [if_pos tooMany, if_pos (by omega)]
    · rw [if_neg tooMany, if_neg (by omega)]
      by_cases complete : held.length = header + tlen
      · rw [if_pos complete, if_pos (by omega)]
      · rw [if_neg complete, if_neg (by omega)]
  · simp only [RecvElement.berTag]
    rw [Memory.read_write_disjoint _ (by unfold usertagField; omega),
      Memory.read_write_disjoint _ (by unfold lenField; omega)]

/-- The body is read as soon as the cursor is in the buffer. -/
theorem headerLoop_buf
    {ber : RecvElement}
    {rwptr : Nat}
    (inBuffer : ber.berRwptr = .buf rwptr)
    (fuel : Nat)
    (sock : Sock) :
    headerLoop fuel sock ber = readBody sock ber := by
  cases fuel with
  | zero =>
      rfl
  | succ fuel =>
      simp only [headerLoop, inBuffer]

/-- What the header loop does with the outcome of one pass. -/
def afterPass (fuel : Nat) (sock : Sock) :
    HeaderStep → Except Abort NextResult
  | .fail errno ber =>
      .ok (nextFail errno ber sock)
  | .done ber =>
      .ok (nextDone ber sock)
  | .again ber =>
      headerLoop fuel sock ber

/-- Behind a complete header the message ends or its body is read. -/
theorem fillBuffer_refines
    {held : List UInt8}
    {ber : RecvElement}
    {tag header len : Nat}
    (parsed : headerOf held = .complete tag header len)
    (inside : header ≤ held.length)
    (short : held.length ≤ 9)
    (empty : ber.berBuf = none)
    (fields :
      ber.fields.read (7 + header) (held.length - header) =
        held.drop header)
    (positive : len ≠ 0)
    (tagStored : ber.berTag = tag)
    (fuel : Nat)
    (sock : Sock) :
    Refines
      (afterPass fuel sock
        (fillBuffer ber (7 + header) (7 + held.length) len))
      (frameHeader held sock) := by
  obtain ⟨filled, filledStep, filledBuf, filledEnd, filledTag⟩ :=
    fillBuffer_moved inside short empty fields positive
  subst tag
  unfold frameHeader
  rw [parsed, filledStep]
  simp only
  by_cases tooMany : header + len < held.length
  · rw [if_pos tooMany, if_pos tooMany]
    exact .fail (nextFail .erange _ sock) rfl (by simp [nextFail])
  · rw [if_neg tooMany, if_neg tooMany]
    by_cases complete : held.length = header + len
    · rw [if_pos complete, if_pos complete, ← filledTag]
      have handedOn :
          filled.toElement = ⟨filled.berTag, held.drop header, 0⟩ := by
        simp [RecvElement.toElement, filledBuf]
      exact .message (nextDone filled sock) _ rfl handedOn
    · rw [if_neg complete, if_neg complete]
      simp only [afterPass]
      rw [headerLoop_buf rfl]
      have unfinished : held.length < header + len :=
        Nat.lt_of_le_of_ne (Nat.not_lt.mp tooMany) complete
      refine readBody_refines parsed unfinished ?_ ?_ ?_ ?_ sock
      · rfl
      · exact filledBuf
      · exact filledEnd
      · exact filledTag

/-- What a pass of the header loop does behind a tag that ends at `ptr`. -/
def lengthStep (ber : RecvElement) (ptr rw : Nat) : HeaderStep :=
  if ptr = rw then
    .fail .ewouldblock ber
  else
    match parseLength (ber.fields.read ptr (rw - ptr)) with
    | .more =>
        .fail .ewouldblock ber
    | .tooLong =>
        .fail .erange ber
    | .length tlen count =>
        fillBuffer ber (ptr + count) rw tlen

/-- A pass that has the tag goes on with the length. -/
theorem headerPass_tagged
    {ber next : RecvElement}
    {rwptr ptr : Nat}
    {octets : List UInt8}
    (stepped :
      tagStep
          { ber with
            fields := ber.fields.write rwptr octets
            berRwptr := .field (rwptr + octets.length) }
          (rwptr + octets.length) =
        .ok (ptr, next)) :
    headerPass ber rwptr octets =
      lengthStep next ptr (rwptr + octets.length) := by
  unfold headerPass
  simp only [stepped]
  rfl

/-- Reading the length behind a tag is a step of the framing machine. -/
theorem lengthStep_refines
    {held : List UInt8}
    {ber : RecvElement}
    {tag count : Nat}
    (found : parseTag held = .tag tag count)
    (short : held.length ≤ 9)
    (rwptr : ber.berRwptr = .field (7 + held.length))
    (empty : ber.berBuf = none)
    (ptr : ber.berPtr = .field (7 + count))
    (tagStored : ber.berTag = tag)
    (fields :
      ber.fields.read (7 + count) (held.length - count) = held.drop count)
    (fuel : Nat)
    (sock : Sock) :
    Refines
      (afterPass fuel sock (lengthStep ber (7 + count) (7 + held.length)))
      (frameHeader held sock) := by
  have bounds := parseTag_bounds found
  have waits (more : headerOf held = .more) :
      Refines (.ok (nextFail .ewouldblock ber sock))
        (frameHeader held sock) := by
    unfold frameHeader
    rw [more]
    exact .wait (nextFail .ewouldblock ber sock) held rfl rfl
      (.header held ber more short rwptr empty
        (.tagged tag count found ptr tagStored fields))
  have fails (next : RecvElement) (bad : headerOf held = .bad) :
      Refines (.ok (nextFail .erange next sock)) (frameHeader held sock) := by
    unfold frameHeader
    rw [bad]
    exact .fail (nextFail .erange next sock) rfl (by simp [nextFail])
  have amount : 7 + held.length - (7 + count) = held.length - count :=
    Nat.add_sub_add_left 7 held.length count
  unfold lengthStep
  rw [amount, fields]
  by_cases noLength : 7 + count = 7 + held.length
  · rw [if_pos noLength]
    have nothing : held.drop count = [] :=
      List.drop_of_length_le (Nat.add_left_cancel noLength).ge
    exact waits (by simp [headerOf, found, nothing, parseLength])
  · rw [if_neg noLength]
    cases lengthFound : parseLength (held.drop count) with
    | more =>
        exact waits (by simp [headerOf, found, lengthFound])
    | tooLong =>
        exact fails ber (by simp [headerOf, found, lengthFound])
    | length len lengthOctets =>
        by_cases zero : len = 0
        · simp only [fillBuffer, zero, if_true, afterPass]
          exact fails _ (by simp [headerOf, found, lengthFound, zero])
        · have lengthBounds := parseLength_bounds lengthFound
          rw [List.length_drop] at lengthBounds
          have inside : count + lengthOctets ≤ held.length := by omega
          have restFields :
              ber.fields.read (7 + (count + lengthOctets))
                  (held.length - (count + lengthOctets)) =
                held.drop (count + lengthOctets) := by
            have split :
                held.length - count =
                  lengthOctets +
                    (held.length - (count + lengthOctets)) := by
              omega
            rw [split, Memory.read_add] at fields
            have dropped := congrArg (List.drop lengthOctets) fields
            rw [List.drop_left' (by simp), List.drop_drop] at dropped
            rw [← Nat.add_assoc, dropped]
          have parsed :
              headerOf held = .complete tag (count + lengthOctets) len := by
            simp [headerOf, found, lengthFound, zero]
          simp only
          rw [Nat.add_assoc]
          exact fillBuffer_refines parsed inside short empty restFields zero
            tagStored fuel sock

/--
A pass with new octets, continued in the body when the header is complete, is
a step of the framing machine.
-/
theorem headerPass_refines
    {held : List UInt8}
    {ber : RecvElement}
    (headerFields : HeaderFields held ber)
    (empty : ber.berBuf = none)
    (octets : List UInt8)
    (short : held.length + octets.length ≤ 9)
    (fuel : Nat)
    (sock : Sock) :
    Refines
      (afterPass fuel sock (headerPass ber (7 + held.length) octets))
      (frameHeader (held ++ octets) sock) := by
  have cursor :
      7 + held.length + octets.length = 7 + (held ++ octets).length := by
    rw [List.length_append, Nat.add_assoc]
  have stored :=
    headerFields_store headerFields octets
      (.field (7 + held.length + octets.length))
  rw [← List.length_append] at short
  by_cases tagFound :
      ∃ value count, parseTag (held ++ octets) = .tag value count
  · obtain ⟨value, count, found⟩ := tagFound
    obtain ⟨next, stepped, nextPtr, nextTag, nextFields, nextBuf,
      nextRwptr⟩ := tagStep_tag stored found
    rw [← cursor] at stepped
    rw [headerPass_tagged stepped, cursor]
    refine lengthStep_refines found short ?_ (nextBuf.trans empty) nextPtr
      nextTag nextFields fuel sock
    rw [nextRwptr, cursor]
  · have notFound :
        ∀ value count, parseTag (held ++ octets) ≠ .tag value count := by
      intro value count found
      exact tagFound ⟨value, count, found⟩
    unfold headerPass frameHeader
    rcases tagStep_noTag stored notFound with
      ⟨parsed, stepped⟩ | ⟨parsed, stepped⟩
    · have waits : headerOf (held ++ octets) = .more := by
        simp [headerOf, parsed]
      rw [← cursor] at stepped
      simp only [stepped, waits]
      exact .wait (nextFail .ewouldblock _ sock) _ rfl rfl
        (.header _ _ waits short (congrArg Pointer.field cursor) empty
          stored)
    · have fails : headerOf (held ++ octets) = .bad := by
        simp [headerOf, parsed]
      rw [← cursor] at stepped
      simp only [stepped, fails]
      exact .fail (nextFail .erange _ sock) rfl (by simp [nextFail])

/-- A call resumed in the header is a step of the framing machine. -/
theorem headerLoop_refines
    {held : List UInt8}
    {ber : RecvElement}
    (parsed : headerOf held = .more)
    (short : held.length ≤ 9)
    (rwptr : ber.berRwptr = .field (7 + held.length))
    (empty : ber.berBuf = none)
    (headerFields : HeaderFields held ber)
    (fuel : Nat)
    (sock : Sock) :
    Refines (headerLoop (fuel + 1) sock ber) (nextMessage held sock) := by
  have holds : Holds held ber :=
    .header held ber parsed short rwptr empty headerFields
  unfold headerLoop nextMessage
  simp only [rwptr, parsed]
  by_cases full : 9 ≤ held.length
  · have outside : ¬ (0 < 7 + held.length ∧
        7 + held.length < usertagField) := by
      unfold usertagField
      omega
    rw [if_pos full, if_neg outside]
    simp only [readBody, rwptr]
    exact .stuck sock
  · have inside : 0 < 7 + held.length ∧
        7 + held.length < usertagField := by
      unfold usertagField
      omega
    have request : usertagField - 1 - (7 + held.length) =
        8 - held.length := by
      unfold usertagField
      omega
    rw [if_neg full, if_pos inside, request]
    cases answer : sock.read (max 1 (8 - held.length)) with
    | mk result after =>
        cases result with
        | octets octets =>
            have lengths := read_octets_length (by omega) answer
            have refined :=
              headerPass_refines headerFields empty octets
                (by omega) fuel after
            simp only
            cases passed : headerPass ber (7 + held.length) octets <;>
              simpa only [passed, afterPass] using refined
        | wouldBlock =>
            exact refines_readFailed holds .wouldBlock after
        | eof =>
            exact refines_readFailed holds .eof after
        | error =>
            exact refines_readFailed holds .error after

/--
`ber_get_next` refines the framing machine: resumed with any record that holds
the octets of an unfinished message, it reads, waits, fails, completes the
message or hits its assertion exactly as the machine does.
-/
theorem berGetNext_refines
    {held : List UInt8}
    {ber : RecvElement}
    (holds : Holds held ber)
    (sock : Sock) :
    Refines (berGetNext sock ber) (nextMessage held sock) := by
  rcases holds with
    ⟨_, null, empty⟩ |
    ⟨_, _, parsed, short, rwptr, empty, headerFields⟩ |
    ⟨_, _, tag, header, len, parsed, unfinished, rwptr, stored, size,
      tagStored⟩
  · unfold berGetNext
    simp only [null, empty]
    exact headerLoop_refines rfl (by simp) rfl rfl (.raw rfl rfl) 15 sock
  · unfold berGetNext
    simp only [rwptr]
    exact headerLoop_refines parsed short rwptr empty headerFields 15 sock
  · unfold berGetNext
    simp only [rwptr]
    rw [headerLoop_buf rwptr]
    unfold nextMessage
    rw [parsed]
    exact readBody_refines parsed unfinished rwptr stored size tagStored
      sock

end LdapProxy.Lber

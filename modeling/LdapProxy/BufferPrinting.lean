import LdapProxy.EncodeBuffer

namespace LdapProxy.Lber

/-!
# `ber_printf` in a buffer

Every function that writes to the buffer does what the function of
`LberEncode` does to its list, which is as long as needed.
`printCalls_inBuffer` says so for all calls of `ber_printf` on one element.
-/

/--
A function on the buffer does what the function on the list does, which uses at
most `cost` octets more; or the buffer cannot be enlarged, which needs an
allocator that does not supply these octets, or very many of them.
-/
inductive Performed (ber : BufferElement) (used cost : Nat) :
    Outcome → Option OutElement → Prop where
  | done
      {next : BufferElement}
      {later : OutElement}
      (buffers : Buffers next later)
      (grown : later.used ≤ used + cost)
      (capacity : ber.capacity ≤ next.capacity)
      (refused : next.refused = ber.refused) :
      Performed ber used cost (.done next) (some later)
  | failed
      {next : BufferElement}
      (refused : next.refused = ber.refused) :
      Performed ber used cost (.failed next) none
  | refused
      {next : BufferElement}
      {result : Option OutElement}
      (refused : next.refused = true)
      (short : ber.capacity < used + cost ∨ 2 ^ 61 ≤ used + cost) :
      Performed ber used cost (.failed next) result

namespace Performed

/-- Functions are performed one after the other. -/
theorem andThen
    {ber : BufferElement}
    {used first second : Nat}
    {outcome : Outcome}
    {result : Option OutElement}
    {next : BufferElement → Outcome}
    {onList : OutElement → Option OutElement}
    (performed : Performed ber used first outcome result)
    (continues :
      ∀ later out, Buffers later out → later.refused = ber.refused →
        Performed later out.used second (next later) (onList out)) :
    Performed ber used (first + second) (outcome.andThen next)
      (result.bind onList) := by
  cases performed with
  | @done later out buffers grown capacity refused =>
      have continued := continues later out buffers refused
      simp only [Outcome.andThen, Option.bind_some]
      generalize next later = outcome, onList out = result at continued
      cases continued with
      | done buffers further enough same =>
          exact .done buffers (by omega) (capacity.trans enough)
            (same.trans refused)
      | failed same =>
          exact .failed (same.trans refused)
      | refused isRefused short =>
          exact .refused isRefused (by omega)
  | failed refused =>
      exact .failed refused
  | refused refused short =>
      exact .refused refused (by omega)

/-- A larger cost bounds the function as well. -/
theorem mono
    {ber : BufferElement}
    {used cost more : Nat}
    {outcome : Outcome}
    {result : Option OutElement}
    (performed : Performed ber used cost outcome result)
    (le : cost ≤ more) :
    Performed ber used more outcome result := by
  cases performed with
  | done buffers grown capacity refused =>
      exact .done buffers (by omega) capacity refused
  | failed refused =>
      exact .failed refused
  | refused refused short =>
      exact .refused refused (by omega)

end Performed

namespace Buffers

variable {ber : BufferElement} {out : OutElement}

/-- `ber_write` -/
theorem berWrite
    (buffers : Buffers ber out)
    (octets : List UInt8)
    (short : octets.length < 2 ^ 32) :
    Performed ber out.used octets.length (ber.berWrite octets)
      (some (Lber.berWrite out octets)) := by
  have made := buffers.makeRoom _ short
  unfold BufferElement.berWrite
  generalize ber.makeRoom octets.length = outcome at made
  cases made with
  | @made next roomy room capacity refused =>
      have copied := roomy.copy _ _ room
      simp only [Outcome.andThen, roomy.cursor, copied]
      refine .done (roomy.written room) ?_ ?_ ?_
      · unfold OutElement.used Lber.berWrite
        cases out.berSosPtr <;> simp
      · simpa [BufferElement.advance, BufferElement.capacity,
          BufferElement.size, BufferElement.blocks, apply_ite] using capacity
      · simpa [BufferElement.advance, apply_ite] using refused
  | refused isRefused short =>
      exact .refused isRefused short

/-- `ber_put_int_or_enum` -/
theorem berPutIntOrEnum
    (buffers : Buffers ber out)
    (num : Int)
    (tag : Nat) :
    Performed ber out.used 22 (ber.berPutIntOrEnum num tag)
      (Lber.berPutIntOrEnum out num tag) := by
  have tagBound := (length_berPrependTag tag).2
  have contents := length_putIntContents num
  have length :
      (berPrependTag tag ++
          UInt8.ofNat (putIntContents num).length ::
            putIntContents num).length ≤ 14 := by
    simp only [List.length_append, List.length_cons]
    omega
  exact (buffers.berWrite _ (by omega)).mono (by omega)

/-- `ber_put_ostring` -/
theorem berPutOstring
    (buffers : Buffers ber out)
    (str : List UInt8)
    (tag : Nat) :
    Performed ber out.used (17 + str.length) (ber.berPutOstring str tag)
      (Lber.berPutOstring out str tag) := by
  unfold BufferElement.berPutOstring Lber.berPutOstring
  generalize (if tag = lberDefault then lberOctetstring else tag) = actual
  have tagBound := (length_berPrependTag actual).2
  have lenBound := length_berPrependLen str.length
  have length :
      (berPrependTag actual ++ berPrependLen str.length).length ≤ 17 := by
    rw [List.length_append]
    omega
  by_cases tooLong : maxintBersize < str.length
  · simp only [tooLong, if_true]
    exact .failed rfl
  · simp only [tooLong, if_false]
    have short : str.length < 2 ^ 32 := by
      unfold maxintBersize at tooLong
      omega
    have header :=
      (buffers.berWrite
        (berPrependTag actual ++ berPrependLen str.length)
        (by omega)).mono length
    change Performed ber out.used (17 + str.length) _
      ((some (Lber.berWrite out
          (berPrependTag actual ++ berPrependLen str.length))).bind
        fun next => some (Lber.berWrite next str))
    exact header.andThen fun later next wrote _ => wrote.berWrite str short

/-- The reserved octets hold the offset that was stored in them. -/
theorem reservedOffset_opened
    (buffers : Buffers ber out)
    (tagOctets : List UInt8)
    (offset : Nat)
    (small : offset < 2 ^ 32) :
    reservedOffset
        (out.berBuf ++ tagOctets ++
          UInt8.ofNat tagOctets.length :: toLittleEndian 4 offset)
        (out.used + tagOctets.length) =
      offset := by
  have length :
      (out.berBuf ++ tagOctets).length = out.used + tagOctets.length := by
    rw [List.length_append, buffers.length_berBuf]
  unfold reservedOffset
  rw [← length, List.drop_left, List.take_of_length_le (by
    simp [sosLenlen]), List.drop_one, List.tail_cons,
    littleEndian_toLittleEndian]
  exact Nat.mod_eq_of_lt (by omega)

/-- `ber_start_seqorset` writes a header and opens a sequence behind it. -/
theorem startAt
    (buffers : Buffers ber out)
    {tagOctets : List UInt8}
    (offset : Nat)
    (tagBound : tagOctets.length ≤ 8)
    (chain :
      FrameChain
        (out.berBuf ++ tagOctets ++
          UInt8.ofNat tagOctets.length :: toLittleEndian 4 offset)
        (out.used + tagOctets.length)) :
    Performed ber out.used 17 (ber.startAt tagOctets offset)
      (some
        { out with
          berBuf :=
            out.berBuf ++ tagOctets ++
              UInt8.ofNat tagOctets.length :: toLittleEndian 4 offset
          berSosPtr := some (out.used + tagOctets.length + sosLenlen)
          berSosInner := out.used + tagOctets.length }) := by
  have header :
      (tagOctets ++ UInt8.ofNat tagOctets.length ::
          toLittleEndian 4 offset).length =
        tagOctets.length + sosLenlen := by
    simp [sosLenlen]
  have made := buffers.makeRoom
    (tagOctets ++ UInt8.ofNat tagOctets.length ::
      toLittleEndian 4 offset).length
    (by
      rw [header]
      unfold sosLenlen
      omega)
  unfold BufferElement.startAt
  simp only
  generalize ber.makeRoom _ = outcome at made
  cases made with
  | @made next roomy room capacity refused =>
      have copied := roomy.copy _ _ room
      have appended := roomy.read_appended
        (tagOctets ++ UInt8.ofNat tagOctets.length :: toLittleEndian 4 offset)
      have small := roomy.small
      simp only [Outcome.andThen, roomy.cursor, copied]
      rw [header] at room appended ⊢
      unfold BufferElement.size at small
      have inner :
          pointerDiff (next.berBuf + out.used + tagOctets.length)
              next.berBuf =
            out.used + tagOctets.length := by
        rw [Nat.add_assoc]
        exact pointerDiff_add (by omega)
      refine .done ?_ ?_ capacity refused
      · refine
          ⟨roomy.tag, roomy.ptr, ?_, inner, ?_, roomy.complete, ?_,
            roomy.small, ?_⟩
        · simp only [Option.elim_some]
          omega
        · simpa [OutElement.used, Nat.add_assoc] using appended
        · simpa [OutElement.used, Nat.add_assoc] using room
        · intro sos moved
          simp only [Option.some.injEq] at moved
          exact ⟨by simp only; omega, chain⟩
      · simp only [OutElement.used, Option.getD_some, sosLenlen]
        omega
  | refused isRefused short =>
      refine .refused isRefused ?_
      rw [header] at short
      unfold sosLenlen at short
      omega

/-- `ber_start_seqorset` -/
theorem berStartSeqorset
    (buffers : Buffers ber out)
    (tag : Nat) :
    Performed ber out.used 17 (ber.berStartSeqorset tag)
      (Lber.berStartSeqorset out tag) := by
  have zero := buffers.sosPtr_eq_zero
  have all := buffers.take_used
  have tagBound := (length_berPrependTag tag).2
  unfold BufferElement.berStartSeqorset Lber.berStartSeqorset
  cases sos : out.berSosPtr with
  | none =>
      have used : out.used = out.berPtr := by
        simp [OutElement.used, sos]
      have started := buffers.startAt 0 tagBound
        (.outermost (buffers.reservedOffset_opened _ 0 (by decide)))
      rw [used] at started all
      simpa [zero.mpr sos, sos, all, used] using started
  | some offset =>
      have used : out.used = offset := by
        simp [OutElement.used, sos]
      have opened : ¬ ber.berSosPtr = 0 := by
        rw [zero, sos]
        simp
      obtain ⟨apart, chain⟩ := buffers.opened offset sos
      rw [if_neg opened, buffers.inner]
      by_cases large : 2 ^ 32 - 1 < out.berSosInner
      · simp only [large, if_true]
        exact .failed rfl
      · have kept :
            (out.berBuf ++ berPrependTag tag ++
                UInt8.ofNat (berPrependTag tag).length ::
                  toLittleEndian 4 out.berSosInner).take out.used =
              out.berBuf.take out.used := by
          rw [← buffers.length_berBuf, List.append_assoc, List.take_left,
            List.take_length]
        have started := buffers.startAt out.berSosInner tagBound
          (.inside
            (buffers.reservedOffset_opened (berPrependTag tag)
              out.berSosInner (by omega))
            (by omega)
            (chain.congr kept (by omega)))
        rw [used] at started all ⊢
        rw [if_neg large]
        simp only [if_neg large, Option.getD_some, all]
        exact started

/-- The octets in front of the reserved ones, and those behind them. -/
theorem read_parts
    (buffers : Buffers ber out)
    {inner len : Nat}
    (whole : out.used = inner + sosLenlen + len) :
    ber.memory.read ber.berBuf inner = out.berBuf.take inner ∧
      ber.memory.read (ber.berBuf + inner) sosLenlen =
        (out.berBuf.drop inner).take sosLenlen ∧
      ber.memory.read (ber.berBuf + inner + sosLenlen) len =
        (out.berBuf.drop (inner + sosLenlen)).take len := by
  rw [← buffers.contents, whole]
  refine ⟨?_, ?_, ?_⟩
  · rw [Memory.take_read _ (by omega)]
  · rw [Nat.add_assoc, Memory.drop_read, Memory.take_read _ (by omega)]
  · rw [Memory.drop_read, Memory.take_read _ le_rfl, Nat.add_assoc]

/-- The list once the length stands in front of the contents. -/
def closedOctets (out : OutElement) (inner len : Nat) : List UInt8 :=
  out.berBuf.take inner ++ berPrependLen len ++
    (out.berBuf.drop (inner + sosLenlen)).take len

/-- The length takes the place of the reserved octets. -/
theorem storeLength
    (buffers : Buffers ber out)
    {inner len : Nat}
    (sequence : out.berSosPtr = some (inner + sosLenlen + len))
    (short : (berPrependLen len).length ≤ sosLenlen) :
    ∃ memory,
      ber.storeLength (ber.berBuf + inner) len =
          .done
            { ber with
              memory := memory
              berSosPtr :=
                ber.berBuf + inner + (berPrependLen len).length + len } ∧
        memory.read ber.berBuf
            (inner + (berPrependLen len).length + len) =
          closedOctets out inner len := by
  have whole : out.used = inner + sosLenlen + len := by
    simp [OutElement.used, sequence]
  have inside := buffers.inside
  obtain ⟨front, -, behind⟩ := buffers.read_parts whole
  unfold BufferElement.storeLength closedOctets
  simp only
  generalize berPrependLen len = octets at short ⊢
  obtain ⟨unused, sum⟩ := Nat.exists_eq_add_of_le short
  have gap : sosLenlen - octets.length = unused := by omega
  have stored := buffers.copy (inner + unused) octets (by omega)
  rw [← Nat.add_assoc] at stored
  rw [gap, stored]
  simp only [Outcome.andThen]
  generalize wrote :
    ber.memory.write (ber.berBuf + inner + unused) octets = memory
  have before : memory.read ber.berBuf inner = out.berBuf.take inner := by
    rw [← wrote, Memory.read_write_disjoint _ (by omega), front]
  have element :
      memory.read (ber.berBuf + inner + unused) (octets.length + len) =
        octets ++ (out.berBuf.drop (inner + sosLenlen)).take len := by
    have start :
        ber.berBuf + inner + unused + octets.length =
          ber.berBuf + inner + sosLenlen := by
      omega
    rw [Memory.read_add, ← wrote, Memory.read_write_same, start,
      Memory.read_write_disjoint _ (by omega), behind]
  have count : len + sosLenlen - unused = octets.length + len := by omega
  by_cases none : unused = 0
  · subst none
    rw [Nat.add_zero] at element
    refine ⟨memory, ?_, ?_⟩
    · have stands := buffers.sos
      rw [sequence, Option.elim_some] at stands
      rw [if_neg (by simp)]
      congr 2
      omega
    · rw [Nat.add_assoc, Memory.read_add, before, element,
        List.append_assoc]
  · rw [if_pos none, count, element]
    generalize moved :
      octets ++ (out.berBuf.drop (inner + sosLenlen)).take len = final
    have length : final.length = octets.length + len := by
      rw [← moved, ← element, Memory.length_read]
    refine ⟨memory.write (ber.berBuf + inner) final, ?_, ?_⟩
    · rw [BufferElement.copy, if_pos ⟨by simp only; omega,
        by simp only; omega⟩]
      simp only [Nat.add_assoc]
    · rw [Nat.add_assoc, ← length, Memory.read_write_append, before,
        ← moved, List.append_assoc]

/-- The outermost sequence has become an element. -/
theorem closedOutermost
    (buffers : Buffers ber out)
    {memory : Memory}
    {inner len last : Nat}
    (contents : memory.read ber.berBuf last = closedOctets out inner len)
    (shorter : last ≤ out.used) :
    Buffers
      { ber with
        berPtr := ber.berBuf + last
        berSosPtr := 0
        berSosInner := 0
        memory := memory }
      { out with
        berBuf := closedOctets out inner len
        berPtr := last
        berSosPtr := none
        berSosInner := 0 } := by
  have inside := buffers.inside
  refine ⟨buffers.tag, rfl, rfl, rfl, ?_, ?_, ?_, buffers.small, ?_⟩
  · simpa [OutElement.used] using contents
  · simp only
    omega
  · simp only [OutElement.used, Option.getD_none]
    omega
  · simp

/-- A sequence inside another one has become an element of that one. -/
theorem closedInside
    (buffers : Buffers ber out)
    {memory : Memory}
    {inner len last offset : Nat}
    (contents : memory.read ber.berBuf last = closedOctets out inner len)
    (shorter : last ≤ out.used)
    (behind : inner ≤ last)
    (apart : offset + sosLenlen ≤ inner)
    (inList : inner ≤ out.used)
    (chain : FrameChain out.berBuf offset) :
    Buffers
      { ber with
        berSosPtr := ber.berBuf + last
        berSosInner := offset
        memory := memory }
      { out with
        berBuf := closedOctets out inner len
        berSosPtr := some last
        berSosInner := offset } := by
  have inside := buffers.inside
  refine
    ⟨buffers.tag, buffers.ptr, rfl, rfl, ?_, buffers.complete, ?_,
      buffers.small, ?_⟩
  · simpa [OutElement.used] using contents
  · simp only [OutElement.used, Option.getD_some]
    omega
  · intro sos closed
    simp only [Option.some.injEq] at closed
    have same :
        (closedOctets out inner len).take inner = out.berBuf.take inner := by
      unfold closedOctets
      rw [List.append_assoc]
      refine List.take_left' ?_
      rw [List.length_take, buffers.length_berBuf]
      omega
    exact ⟨by simp only; omega, chain.congr same apart⟩

/-- `ber_put_seqorset` -/
theorem berPutSeqorset (buffers : Buffers ber out) :
    Performed ber out.used 0 ber.berPutSeqorset
      (Lber.berPutSeqorset out) := by
  have zero := buffers.sosPtr_eq_zero
  unfold BufferElement.berPutSeqorset Lber.berPutSeqorset
  cases sos : out.berSosPtr with
  | none =>
      simp only [zero.mpr sos, if_true]
      exact .failed rfl
  | some offset =>
      have used : out.used = offset := by
        simp [OutElement.used, sos]
      have opened : ¬ ber.berSosPtr = 0 := by
        rw [zero, sos]
        simp
      have small := buffers.small
      have inside := buffers.inside
      unfold BufferElement.size at small
      obtain ⟨apart, chain⟩ := buffers.opened offset sos
      obtain ⟨len, whole⟩ := Nat.exists_eq_add_of_le apart
      have stands : ber.berSosPtr = ber.berBuf + offset := by
        rw [buffers.sos, sos]
        rfl
      have xlen :
          pointerDiff ber.berSosPtr (ber.berBuf + ber.berSosInner) =
            len + sosLenlen := by
        rw [stands, buffers.inner, pointerDiff_of_le (by omega) (by omega)]
        omega
      have listed : offset - out.berSosInner = len + sosLenlen := by omega
      obtain ⟨-, header, -⟩ := buffers.read_parts (used.trans whole)
      rw [← buffers.inner] at header
      rw [if_neg opened]
      simp only [xlen, listed, header, Nat.add_sub_cancel]
      by_cases large : maxintBersize + sosLenlen < len + sosLenlen
      · simp only [large, if_true]
        exact .failed rfl
      · simp only [large, if_false]
        have short : (berPrependLen len).length ≤ sosLenlen := by
          refine length_berPrependLen_le ?_
          unfold maxintBersize at large
          omega
        obtain ⟨memory, stored, contents⟩ :=
          buffers.storeLength (sos.trans (congrArg some whole)) short
        rw [← buffers.inner] at stored
        simp only [stored, Outcome.andThen]
        rw [buffers.inner, Nat.add_assoc ber.berBuf, Nat.add_assoc ber.berBuf]
        generalize offset' : littleEndian _ = enclosing
        have reserved :
            reservedOffset out.berBuf out.berSosInner = enclosing := offset'
        have shorter :
            out.berSosInner + ((berPrependLen len).length + len) ≤
              out.used := by
          omega
        rw [Nat.add_assoc] at contents
        rw [Nat.add_assoc out.berSosInner]
        by_cases outermost : enclosing = 0
        · subst outermost
          rw [if_pos rfl, if_pos rfl]
          exact .done (buffers.closedOutermost contents shorter)
            (by simpa [OutElement.used] using shorter) le_rfl rfl
        · rw [if_neg outermost, if_neg outermost]
          cases chain with
          | outermost stored =>
              exact absurd (reserved.symm.trans stored) outermost
          | @inside _ next stored inFront outer =>
              have same : next = enclosing := stored.symm.trans reserved
              subst same
              exact .done
                (buffers.closedInside contents shorter (by omega) inFront
                  (by omega) outer)
                (by simpa [OutElement.used] using shorter) le_rfl rfl

/-- Only the pending tag changes. -/
theorem setTag (buffers : Buffers ber out) (tag : Nat) :
    Buffers { ber with berTag := tag } { out with berTag := tag } where
  tag := rfl
  ptr := buffers.ptr
  sos := buffers.sos
  inner := buffers.inner
  contents := buffers.contents
  complete := buffers.complete
  inside := buffers.inside
  small := buffers.small
  opened := buffers.opened

end Buffers

/-- The pending tag plays no part in the bounds. -/
theorem Performed.ofSetTag
    {ber : BufferElement}
    {used cost tag : Nat}
    {outcome : Outcome}
    {result : Option OutElement}
    (performed :
      Performed { ber with berTag := tag } used cost outcome result) :
    Performed ber used cost outcome result := by
  cases performed with
  | done buffers grown capacity refused =>
      exact .done buffers grown capacity refused
  | failed refused =>
      exact .failed refused
  | refused refused short =>
      exact .refused refused short

/-- A conversion is performed, then the rest of the format. -/
theorem Performed.conversion
    {ber : BufferElement}
    {used cost total : Nat}
    {outcome : Outcome}
    {result : Option OutElement}
    {next : BufferElement → Outcome}
    {onList : OutElement → Option OutElement}
    (performed : Performed ber used cost outcome result)
    (rest : Nat)
    (continues :
      ∀ out later, Buffers later (resetTag out) →
        Performed later (resetTag out).used rest (next later)
          (onList (resetTag out)))
    (within : cost + rest ≤ total) :
    Performed ber used total
      (outcome.andThen fun later => next later.resetTag)
      (result.bind fun out => onList (resetTag out)) := by
  refine (performed.andThen fun later out buffers _ => ?_).mono within
  exact (continues out _ (buffers.setTag lberDefault)).ofSetTag

/-- `ber_printf` does to the buffer what it does to the list. -/
theorem Buffers.berPrintf
    {ber : BufferElement}
    {out : OutElement}
    (buffers : Buffers ber out)
    (format : List Char)
    (args : List PrintArg) :
    Performed ber out.used (printCost format args)
      (BufferElement.berPrintf format args ber)
      (Lber.berPrintf format args out) := by
  fun_induction Lber.berPrintf format args out generalizing ber with
  | case1 args out =>
      exact .done buffers (Nat.le_add_right _ _) le_rfl rfl
  | case2 format num args out inductionHypothesis =>
      simp only [BufferElement.berPrintf, BufferElement.berPutInt,
        buffers.tag]
      exact (buffers.berPutIntOrEnum num _).conversion (printCost format args)
        (fun out _ later => inductionHypothesis out later)
        (by simp [printCost, PrintArg.size]; omega)
  | case3 format num args out inductionHypothesis =>
      simp only [BufferElement.berPrintf, BufferElement.berPutEnum,
        buffers.tag]
      exact (buffers.berPutIntOrEnum num _).conversion (printCost format args)
        (fun out _ later => inductionHypothesis out later)
        (by simp [printCost, PrintArg.size]; omega)
  | case4 format octets args out inductionHypothesis =>
      simp only [BufferElement.berPrintf, buffers.tag]
      exact (buffers.berPutOstring octets _).conversion
        (printCost format args)
        (fun out _ later => inductionHypothesis out later)
        (by simp [printCost, PrintArg.size]; omega)
  | case5 format octets args out inductionHypothesis =>
      simp only [BufferElement.berPrintf, buffers.tag]
      exact (buffers.berPutOstring octets _).conversion
        (printCost format args)
        (fun out _ later => inductionHypothesis out later)
        (by simp [printCost, PrintArg.size]; omega)
  | case6 format tag args out inductionHypothesis =>
      simp only [BufferElement.berPrintf]
      refine (inductionHypothesis (buffers.setTag tag)).ofSetTag.mono ?_
      simp [printCost]
      omega
  | case7 format args out inductionHypothesis =>
      simp only [BufferElement.berPrintf, BufferElement.berStartSeq,
        buffers.tag]
      exact (buffers.berStartSeqorset _).conversion (printCost format args)
        (fun out _ later => inductionHypothesis out later)
        (by simp [printCost]; omega)
  | case8 format args out inductionHypothesis =>
      simp only [BufferElement.berPrintf, BufferElement.berStartSet,
        buffers.tag]
      exact (buffers.berStartSeqorset _).conversion (printCost format args)
        (fun out _ later => inductionHypothesis out later)
        (by simp [printCost]; omega)
  | case9 format args out inductionHypothesis =>
      simp only [BufferElement.berPrintf]
      exact buffers.berPutSeqorset.conversion (printCost format args)
        (fun out _ later => inductionHypothesis out later)
        (by simp [printCost])
  | case10 format args out inductionHypothesis =>
      simp only [BufferElement.berPrintf]
      exact buffers.berPutSeqorset.conversion (printCost format args)
        (fun out _ later => inductionHypothesis out later)
        (by simp [printCost])
  | case11 =>
      rw [BufferElement.berPrintf]
      · exact .failed rfl
      all_goals assumption

/-- Calls of `ber_printf` on one element, until one of them fails. -/
def printCalls :
    List (List Char × List PrintArg) → OutElement → Option OutElement
  | [], out =>
      some out
  | call :: calls, out =>
      (berPrintf call.1 call.2 out).bind (printCalls calls)

/-- The same calls on an element with its buffer. -/
def BufferElement.printCalls :
    List (List Char × List PrintArg) → BufferElement → Outcome
  | [], ber =>
      .done ber
  | call :: calls, ber =>
      (berPrintf call.1 call.2 ber).andThen (printCalls calls)

/-- An upper bound for the octets that calls use. -/
def callsCost (calls : List (List Char × List PrintArg)) : Nat :=
  (calls.map fun call => printCost call.1 call.2).sum

/-- The calls do to the buffer what they do to the list. -/
theorem Buffers.printCalls
    {ber : BufferElement}
    {out : OutElement}
    (buffers : Buffers ber out)
    (calls : List (List Char × List PrintArg)) :
    Performed ber out.used (callsCost calls) (ber.printCalls calls)
      (Lber.printCalls calls out) := by
  induction calls generalizing ber out with
  | nil =>
      exact .done buffers (Nat.le_add_right _ _) le_rfl rfl
  | cons call calls inductionHypothesis =>
      have cost :
          callsCost (call :: calls) =
            printCost call.1 call.2 + callsCost calls := by
        simp [callsCost]
      rw [cost]
      exact (buffers.berPrintf call.1 call.2).andThen
        fun later next continued _ => inductionHypothesis continued

/--
Calls of `ber_printf` on a new element with this allocator: nothing is written
outside of the block; they encode what the calls on a list encode, unless the
buffer cannot be enlarged; and it can be, when the allocator returns a block
for every 4060 octets.
-/
structure EncodesInBuffer
    (calls : List (List Char × List PrintArg))
    (allocator : List (Option NewBlock)) :
    Prop where
  inside :
    (BufferElement.new allocator).printCalls calls ≠ .outside
  done :
    ∀ ber,
      (BufferElement.new allocator).printCalls calls = .done ber →
        ∃ out,
          printCalls calls OutElement.new = some out ∧
            (ber.berSosPtr = 0 ↔ out.berSosPtr = none) ∧
            (ber.berSosPtr = 0 → ber.octets = out.octets)
  failed :
    ∀ ber,
      (BufferElement.new allocator).printCalls calls = .failed ber →
        ber.refused = true ∨ printCalls calls OutElement.new = none
  supplied :
    callsCost calls ≤
        lberExbufsiz * (allocator.takeWhile Option.isSome).length →
      callsCost calls < 2 ^ 61 →
        ((∃ ber,
            (BufferElement.new allocator).printCalls calls = .done ber) ↔
          (printCalls calls OutElement.new).isSome)

/-- The complete elements of a buffer are those of the list. -/
theorem Buffers.octets
    {ber : BufferElement}
    {out : OutElement}
    (buffers : Buffers ber out)
    (closed : ber.berSosPtr = 0) :
    ber.octets = out.octets := by
  have used : out.used = out.berPtr := by
    simp [OutElement.used, buffers.sosPtr_eq_zero.mp closed]
  have small := buffers.small
  have inside := buffers.inside
  unfold BufferElement.size at small
  unfold BufferElement.octets OutElement.octets
  rw [buffers.ptr, pointerDiff_add (by omega), ← used, buffers.take_used,
    buffers.contents]

/--
For every sequence of calls and every behaviour of the allocator, the buffer
holds what the list holds.
-/
theorem printCalls_inBuffer
    (calls : List (List Char × List PrintArg))
    (allocator : List (Option NewBlock)) :
    EncodesInBuffer calls allocator := by
  have performed := (buffers_new allocator).printCalls calls
  have capacity :
      (BufferElement.new allocator).capacity =
        lberExbufsiz * (allocator.takeWhile Option.isSome).length := by
    simp [BufferElement.capacity, BufferElement.size, BufferElement.blocks,
      BufferElement.new]
  have empty : OutElement.new.used = 0 := rfl
  generalize outcomeIs :
    (BufferElement.new allocator).printCalls calls = outcome at performed
  generalize resultIs : printCalls calls OutElement.new = result at performed
  cases performed with
  | @done ber out buffers grown capacity refused =>
      refine ⟨by simp [outcomeIs], ?_, by simp [outcomeIs], ?_⟩
      · intro final ends
        rw [outcomeIs, Outcome.done.injEq] at ends
        subst ends
        exact ⟨out, resultIs, buffers.sosPtr_eq_zero, buffers.octets⟩
      · intro _ _
        simp [outcomeIs, resultIs]
  | failed refused =>
      refine ⟨by simp [outcomeIs], by simp [outcomeIs], ?_, ?_⟩
      · exact fun _ _ => Or.inr resultIs
      · intro _ _
        simp [outcomeIs, resultIs]
  | refused refused short =>
      refine ⟨by simp [outcomeIs], by simp [outcomeIs], ?_, ?_⟩
      · intro final ends
        rw [outcomeIs, Outcome.failed.injEq] at ends
        exact Or.inl (ends ▸ refused)
      · intro enough small
        omega

end LdapProxy.Lber

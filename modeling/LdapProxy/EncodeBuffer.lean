import LdapProxy.EncodeFrames

namespace LdapProxy.Lber

/-!
# The buffer of an encoded element

The functions of `LberEncode` with the buffer that they write to.  It is a
block of memory with other blocks around it; `ber_buf`, `ber_ptr`, `ber_end`
and `ber_sos_ptr` are addresses, and `0` is `NULL`.  `ber_realloc` may move
the block or fail.  A copy that leaves the block is an outcome of its own.
-/

/--
A block that `ber_memrealloc_x` returns.  Outside of the octets that are
copied to it the memory holds anything.
-/
structure NewBlock where
  address : Nat
  memory : Memory
  notNull : address ≠ 0

/--
A reply while it is encoded.  `allocator` holds the answers to the next calls
of `ber_memrealloc_x`; without an answer it returns `NULL`.  The history
variable `refused` says that a call of `ber_realloc` has failed.
-/
structure BufferElement where
  berTag : Nat
  berBuf : Nat
  berPtr : Nat
  berEnd : Nat
  berSosPtr : Nat
  berSosInner : Nat
  memory : Memory
  allocator : List (Option NewBlock)
  refused : Bool

/-- What a function that writes does: it returns `-1` when it has failed. -/
inductive Outcome where
  | done (ber : BufferElement)
  | failed (ber : BufferElement)
  /-- A write outside of the block. -/
  | outside

/-- Go on unless the function has failed. -/
def Outcome.andThen (next : BufferElement → Outcome) : Outcome → Outcome
  | .done ber =>
      next ber
  | .failed ber =>
      .failed ber
  | .outside =>
      .outside

/-- The difference of two pointers as a `ber_len_t`. -/
def pointerDiff (first second : Nat) : Nat :=
  (((first : Int) - second) % 2 ^ 64).toNat

/-- `LBER_EXBUFSIZ` -/
def lberExbufsiz : Nat := 4060

namespace BufferElement

/-- `ber_alloc_t`: no buffer yet. -/
def new (allocator : List (Option NewBlock)) : BufferElement where
  berTag := lberDefault
  berBuf := 0
  berPtr := 0
  berEnd := 0
  berSosPtr := 0
  berSosInner := 0
  memory := Memory.zero
  allocator := allocator
  refused := false

/-- `return( -1 )` in `ber_realloc`. -/
def refuse (ber : BufferElement) (later : List (Option NewBlock)) : Outcome :=
  .failed { ber with allocator := later, refused := true }

/-- `ber_realloc` once the new size is known. -/
def moveTo (ber : BufferElement) (total : Nat) : Outcome :=
  let offset := pointerDiff ber.berPtr ber.berBuf
  let sosOffset :=
    if ber.berSosPtr ≠ 0 then pointerDiff ber.berSosPtr ber.berBuf else 0
  match ber.allocator with
  | some block :: later =>
      .done
        { ber with
          berBuf := block.address
          berEnd := block.address + total
          berPtr := block.address + offset
          berSosPtr :=
            if sosOffset ≠ 0 then block.address + sosOffset
            else ber.berSosPtr
          memory :=
            block.memory.write block.address
              (ber.memory.read ber.berBuf
                (pointerDiff ber.berEnd ber.berBuf))
          allocator := later }
  | none :: later =>
      ber.refuse later
  | [] =>
      ber.refuse []

/-- `ber_realloc` -/
def berRealloc (ber : BufferElement) (len : Nat) : Outcome :=
  -- leave room for `ber_flatten` to terminate the buffer
  let len := (len + 1) % 2 ^ 64
  let total :=
    (pointerDiff ber.berEnd ber.berBuf +
      if len < lberExbufsiz then lberExbufsiz else len) % 2 ^ 64
  if len = 0 then
    ber.refuse ber.allocator
  else if total < len ∨ (2 ^ 64 - 1) / 2 < total then
    ber.refuse ber.allocator
  else
    ber.moveTo total

/-- The write cursor `*p`. -/
def cursor (ber : BufferElement) : Nat :=
  if ber.berSosPtr = 0 then ber.berPtr else ber.berSosPtr

/-- `*p += len` -/
def advance (ber : BufferElement) (len : Nat) : BufferElement :=
  if ber.berSosPtr = 0 then
    { ber with berPtr := ber.berPtr + len }
  else
    { ber with berSosPtr := ber.berSosPtr + len }

/-- The test for `len` octets behind the write cursor. -/
def makeRoom (ber : BufferElement) (len : Nat) : Outcome :=
  if pointerDiff ber.berEnd ber.cursor < len then
    ber.berRealloc len
  else
    .done ber

/-- Copy octets to an address in the block. -/
def copy (ber : BufferElement) (dest : Nat) (octets : List UInt8) :
    Outcome :=
  if ber.berBuf ≤ dest ∧ dest + octets.length ≤ ber.berEnd then
    .done { ber with memory := ber.memory.write dest octets }
  else
    .outside

/-- `ber_write` -/
def berWrite (ber : BufferElement) (octets : List UInt8) : Outcome :=
  (ber.makeRoom octets.length).andThen fun ber =>
    (ber.copy ber.cursor octets).andThen fun ber =>
      .done (ber.advance octets.length)

/-- `ber_put_int_or_enum` -/
def berPutIntOrEnum (ber : BufferElement) (num : Int) (tag : Nat) :
    Outcome :=
  let octets := putIntContents num
  ber.berWrite (berPrependTag tag ++ UInt8.ofNat octets.length :: octets)

/-- `ber_put_enum` -/
def berPutEnum (ber : BufferElement) (num : Int) (tag : Nat) : Outcome :=
  ber.berPutIntOrEnum num (if tag = lberDefault then lberEnumerated else tag)

/-- `ber_put_int` -/
def berPutInt (ber : BufferElement) (num : Int) (tag : Nat) : Outcome :=
  ber.berPutIntOrEnum num (if tag = lberDefault then lberInteger else tag)

/-- `ber_put_ostring` -/
def berPutOstring (ber : BufferElement) (str : List UInt8) (tag : Nat) :
    Outcome :=
  let tag := if tag = lberDefault then lberOctetstring else tag
  if maxintBersize < str.length then
    .failed ber
  else
    (ber.berWrite (berPrependTag tag ++ berPrependLen str.length)).andThen
      fun ber => ber.berWrite str

/-- `ber_start_seqorset` once it is known what the reserved octets hold. -/
def startAt (ber : BufferElement) (tagOctets : List UInt8) (offset : Nat) :
    Outcome :=
  let header :=
    tagOctets ++ UInt8.ofNat tagOctets.length :: toLittleEndian 4 offset
  (ber.makeRoom header.length).andThen fun ber =>
    let dest := ber.cursor
    (ber.copy dest header).andThen fun ber =>
      .done
        { ber with
          berSosPtr := dest + header.length
          berSosInner := pointerDiff (dest + tagOctets.length) ber.berBuf }

/-- `ber_start_seqorset` -/
def berStartSeqorset (ber : BufferElement) (tag : Nat) : Outcome :=
  if ber.berSosPtr = 0 then
    ber.startAt (berPrependTag tag) 0
  else if 2 ^ 32 - 1 < ber.berSosInner then
    .failed ber
  else
    ber.startAt (berPrependTag tag) ber.berSosInner

/-- `ber_start_seq` -/
def berStartSeq (ber : BufferElement) (tag : Nat) : Outcome :=
  ber.berStartSeqorset (if tag = lberDefault then lberSequence else tag)

/-- `ber_start_set` -/
def berStartSet (ber : BufferElement) (tag : Nat) : Outcome :=
  ber.berStartSeqorset (if tag = lberDefault then lberSet else tag)

/--
Store the length in front of the contents, at the end of the reserved octets,
and move both to their start.
-/
def storeLength (ber : BufferElement) (lenptr len : Nat) : Outcome :=
  let lengthOctets := berPrependLen len
  let unused := sosLenlen - lengthOctets.length
  (ber.copy (lenptr + unused) lengthOctets).andThen fun ber =>
    if unused ≠ 0 then
      let xlen := len + sosLenlen - unused
      (ber.copy lenptr (ber.memory.read (lenptr + unused) xlen)).andThen
        fun ber => .done { ber with berSosPtr := lenptr + xlen }
    else
      .done ber

/-- `ber_put_seqorset` of an element with `LBER_USE_DER`. -/
def berPutSeqorset (ber : BufferElement) : Outcome :=
  if ber.berSosPtr = 0 then
    .failed ber
  else
    let lenptr := ber.berBuf + ber.berSosInner
    let xlen := pointerDiff ber.berSosPtr lenptr
    if maxintBersize + sosLenlen < xlen then
      .failed ber
    else
      let header := ber.memory.read lenptr sosLenlen
      let offset := littleEndian (header.drop 1)
      (ber.storeLength lenptr (xlen - sosLenlen)).andThen fun ber =>
        if offset = 0 then
          .done
            { ber with
              berSosInner := offset
              berPtr := ber.berSosPtr
              berSosPtr := 0 }
        else
          .done { ber with berSosInner := offset }

/-- Every conversion but `t` resets the tag for the next element. -/
def resetTag (ber : BufferElement) : BufferElement :=
  { ber with berTag := lberDefault }

/-- `ber_printf`, for the same conversions as `Lber.berPrintf`. -/
def berPrintf : List Char → List PrintArg → BufferElement → Outcome
  | [], _, ber =>
      .done ber
  | 'i' :: format, .int num :: args, ber =>
      (ber.berPutInt num ber.berTag).andThen fun next =>
        berPrintf format args next.resetTag
  | 'e' :: format, .int num :: args, ber =>
      (ber.berPutEnum num ber.berTag).andThen fun next =>
        berPrintf format args next.resetTag
  | 's' :: format, .str octets :: args, ber =>
      (ber.berPutOstring octets ber.berTag).andThen fun next =>
        berPrintf format args next.resetTag
  | 'O' :: format, .berval octets :: args, ber =>
      (ber.berPutOstring octets ber.berTag).andThen fun next =>
        berPrintf format args next.resetTag
  | 't' :: format, .tag tag :: args, ber =>
      berPrintf format args { ber with berTag := tag }
  | '{' :: format, args, ber =>
      (ber.berStartSeq ber.berTag).andThen fun next =>
        berPrintf format args next.resetTag
  | '[' :: format, args, ber =>
      (ber.berStartSet ber.berTag).andThen fun next =>
        berPrintf format args next.resetTag
  | '}' :: format, args, ber =>
      ber.berPutSeqorset.andThen fun next =>
        berPrintf format args next.resetTag
  | ']' :: format, args, ber =>
      ber.berPutSeqorset.andThen fun next =>
        berPrintf format args next.resetTag
  | _ :: _, _, ber =>
      .failed ber

/-- The octets from `ber_buf` to `ber_ptr`. -/
def octets (ber : BufferElement) : List UInt8 :=
  ber.memory.read ber.berBuf (pointerDiff ber.berPtr ber.berBuf)

/-- The size of the block. -/
def size (ber : BufferElement) : Nat :=
  ber.berEnd - ber.berBuf

/-- The answers of the allocator up to the first that is `NULL`. -/
def blocks (ber : BufferElement) : Nat :=
  (ber.allocator.takeWhile Option.isSome).length

/-- The octets for which there is room, or will be. -/
def capacity (ber : BufferElement) : Nat :=
  ber.size + lberExbufsiz * ber.blocks

end BufferElement

/-- The difference of pointers into one block. -/
theorem pointerDiff_add
    {base offset : Nat}
    (near : offset < 2 ^ 64) :
    pointerDiff (base + offset) base = offset := by
  have cast : ((base + offset : Nat) : Int) - base = offset := by
    push_cast
    omega
  unfold pointerDiff
  rw [cast]
  omega

/-- The difference of ordered pointers. -/
theorem pointerDiff_of_le
    {first second : Nat}
    (ordered : second ≤ first)
    (near : first - second < 2 ^ 64) :
    pointerDiff first second = first - second := by
  have sum : second + (first - second) = first := by omega
  rw [← sum, pointerDiff_add near]
  omega

/-- The loop prepends no octets of a number that is used up. -/
theorem length_prependOctets_le
    (fuel count : Nat)
    {value : Nat}
    (octets : List UInt8)
    (small : value < 256 ^ count) :
    (prependOctets fuel value octets).length ≤ count + octets.length := by
  induction fuel generalizing count value octets with
  | zero =>
      exact Nat.le_add_left _ _
  | succ fuel inductionHypothesis =>
      unfold prependOctets
      split
      · exact Nat.le_add_left _ _
      · cases count with
        | zero =>
            omega
        | succ count =>
            have less : value / 256 < 256 ^ count := by
              rw [Nat.div_lt_iff_lt_mul (by decide), ← Nat.pow_succ]
              exact small
            have shorter :=
              inductionHypothesis count (UInt8.ofNat value :: octets) less
            rw [List.length_cons] at shorter
            omega

/-- The length of a sequence fits into the reserved octets. -/
theorem length_berPrependLen_le
    {len : Nat}
    (small : len < 2 ^ 32) :
    (berPrependLen len).length ≤ sosLenlen := by
  have octets :=
    length_prependOctets_le 7 3 [UInt8.ofNat len]
      (show len / 256 < 256 ^ 3 by omega)
  rw [List.length_singleton] at octets
  unfold berPrependLen sosLenlen
  split
  · simp
  · simp only [List.length_cons]
    omega

/-- How many octets of the buffer are in use. -/
def OutElement.used (out : OutElement) : Nat :=
  out.berSosPtr.getD out.berPtr

/-- The offset that the reserved octets hold. -/
def reservedOffset (buffer : List UInt8) (inner : Nat) : Nat :=
  littleEndian (((buffer.drop inner).take sosLenlen).drop 1)

/--
The reserved octets of the open sequences stand one behind the other, those of
the innermost sequence at `inner`.
-/
inductive FrameChain (buffer : List UInt8) : Nat → Prop where
  | outermost
      {inner : Nat}
      (stored : reservedOffset buffer inner = 0) :
      FrameChain buffer inner
  | inside
      {inner offset : Nat}
      (stored : reservedOffset buffer inner = offset)
      (apart : offset + sosLenlen ≤ inner)
      (outer : FrameChain buffer offset) :
      FrameChain buffer inner

/-- The reserved octets lie in the first `count` octets. -/
theorem reservedOffset_congr
    {buffer other : List UInt8}
    {count inner : Nat}
    (same : other.take count = buffer.take count)
    (inside : inner + sosLenlen ≤ count) :
    reservedOffset other inner = reservedOffset buffer inner := by
  have part (octets : List UInt8) :
      (octets.drop inner).take sosLenlen =
        ((octets.take count).drop inner).take sosLenlen := by
    rw [List.drop_take, List.take_take]
    congr 1
    omega
  unfold reservedOffset
  rw [part other, part buffer, same]

/-- Only the octets up to the innermost reserved ones count. -/
theorem FrameChain.congr
    {buffer other : List UInt8}
    {count inner : Nat}
    (chain : FrameChain buffer inner)
    (same : other.take count = buffer.take count)
    (inside : inner + sosLenlen ≤ count) :
    FrameChain other inner := by
  induction chain with
  | outermost stored =>
      exact .outermost ((reservedOffset_congr same inside).trans stored)
  | inside stored apart outer inductionHypothesis =>
      exact .inside ((reservedOffset_congr same inside).trans stored) apart
        (inductionHypothesis (by omega))

/-- The buffer holds the octets of the list, and the pointers stand there. -/
structure Buffers (ber : BufferElement) (out : OutElement) : Prop where
  tag : ber.berTag = out.berTag
  ptr : ber.berPtr = ber.berBuf + out.berPtr
  sos : ber.berSosPtr = out.berSosPtr.elim 0 (ber.berBuf + ·)
  inner : ber.berSosInner = out.berSosInner
  contents : ber.memory.read ber.berBuf out.used = out.berBuf
  complete : ber.berPtr ≤ ber.berEnd
  inside : ber.berBuf + out.used ≤ ber.berEnd
  small : ber.size < 2 ^ 63
  opened :
    ∀ sos, out.berSosPtr = some sos →
      out.berSosInner + sosLenlen ≤ sos ∧
        FrameChain out.berBuf out.berSosInner

/-- A new element has no buffer and no octets. -/
theorem buffers_new (allocator : List (Option NewBlock)) :
    Buffers (BufferElement.new allocator) OutElement.new where
  tag := rfl
  ptr := rfl
  sos := rfl
  inner := rfl
  contents := rfl
  complete := le_rfl
  inside := le_rfl
  small := by simp [BufferElement.size, BufferElement.new]
  opened := by simp [OutElement.new]

namespace Buffers

variable {ber : BufferElement} {out : OutElement}

/-- The list has no octets behind those in use. -/
theorem length_berBuf (buffers : Buffers ber out) :
    out.berBuf.length = out.used := by
  rw [← buffers.contents, Memory.length_read]

/-- The block starts in front of its end. -/
theorem start_le (buffers : Buffers ber out) :
    ber.berBuf ≤ ber.berEnd := by
  have inside := buffers.inside
  omega

/-- `ber_sos_ptr` is `NULL` when no sequence is open. -/
theorem sosPtr_eq_zero (buffers : Buffers ber out) :
    ber.berSosPtr = 0 ↔ out.berSosPtr = none := by
  rw [buffers.sos]
  cases sos : out.berSosPtr with
  | none =>
      simp
  | some offset =>
      have apart := (buffers.opened offset sos).1
      simp only [Option.elim_some, sosLenlen, reduceCtorEq, iff_false]
        at apart ⊢
      omega

/-- The write cursor stands behind the octets in use. -/
theorem cursor (buffers : Buffers ber out) :
    ber.cursor = ber.berBuf + out.used := by
  unfold BufferElement.cursor OutElement.used
  cases sos : out.berSosPtr with
  | none =>
      rw [if_pos (buffers.sosPtr_eq_zero.mpr sos), buffers.ptr,
        Option.getD_none]
  | some offset =>
      have opened : ¬ ber.berSosPtr = 0 := by
        rw [buffers.sosPtr_eq_zero, sos]
        simp
      rw [if_neg opened, buffers.sos, sos, Option.elim_some,
        Option.getD_some]

/-- A copy to the octets in use, or behind them, that stays in the block. -/
theorem copy
    (buffers : Buffers ber out)
    (offset : Nat)
    (octets : List UInt8)
    (room : ber.berBuf + offset + octets.length ≤ ber.berEnd) :
    ber.copy (ber.berBuf + offset) octets =
      .done
        { ber with
          memory := ber.memory.write (ber.berBuf + offset) octets } := by
  have start := buffers.start_le
  exact if_pos ⟨by omega, room⟩

end Buffers

/-- What the test for room behind the write cursor leaves. -/
inductive RoomMade (ber : BufferElement) (out : OutElement) (len : Nat) :
    Outcome → Prop where
  | made
      {next : BufferElement}
      (buffers : Buffers next out)
      (room : next.berBuf + out.used + len ≤ next.berEnd)
      (capacity : ber.capacity ≤ next.capacity)
      (refused : next.refused = ber.refused) :
      RoomMade ber out len (.done next)
  | refused
      {next : BufferElement}
      (refused : next.refused = true)
      (short : ber.capacity < out.used + len ∨ 2 ^ 61 ≤ out.used + len) :
      RoomMade ber out len (.failed next)

namespace Buffers

variable {ber : BufferElement} {out : OutElement}

/-- A moved block holds the same octets, and every pointer is set again. -/
theorem moved
    (buffers : Buffers ber out)
    (block : NewBlock)
    (later : List (Option NewBlock))
    {total : Nat}
    (larger : ber.size ≤ total)
    (small : total < 2 ^ 63) :
    Buffers
      { ber with
        berBuf := block.address
        berEnd := block.address + total
        berPtr := block.address + out.berPtr
        berSosPtr := out.berSosPtr.elim 0 (block.address + ·)
        memory :=
          block.memory.write block.address
            (ber.memory.read ber.berBuf ber.size)
        allocator := later }
      out where
  tag := buffers.tag
  ptr := rfl
  sos := rfl
  inner := buffers.inner
  contents := by
    have inside := buffers.inside
    have within : out.used ≤ ber.size := by
      unfold BufferElement.size
      omega
    have copied :=
      block.memory.read_write_part block.address
        (ber.memory.read ber.berBuf ber.size)
        (show 0 + out.used ≤ _ by simpa using within)
    rw [Nat.add_zero, List.drop_zero, Memory.take_read _ within,
      buffers.contents] at copied
    exact copied
  complete := by
    have complete := buffers.complete
    rw [buffers.ptr] at complete
    unfold BufferElement.size at larger
    simp only
    omega
  inside := by
    have inside := buffers.inside
    unfold BufferElement.size at larger
    simp only
    omega
  small := by
    simpa [BufferElement.size] using small
  opened := buffers.opened

/-- `ber_realloc` sets the pointers to where they stood in the old block. -/
theorem moveTo
    (buffers : Buffers ber out)
    {block : NewBlock}
    {later : List (Option NewBlock)}
    (granted : ber.allocator = some block :: later)
    (total : Nat) :
    ber.moveTo total =
      .done
        { ber with
          berBuf := block.address
          berEnd := block.address + total
          berPtr := block.address + out.berPtr
          berSosPtr := out.berSosPtr.elim 0 (block.address + ·)
          memory :=
            block.memory.write block.address
              (ber.memory.read ber.berBuf ber.size)
          allocator := later } := by
  have start := buffers.start_le
  have complete := buffers.complete
  have inside := buffers.inside
  have small := buffers.small
  have ptr := buffers.ptr
  unfold BufferElement.size at small
  have whole : pointerDiff ber.berEnd ber.berBuf = ber.size :=
    pointerDiff_of_le start (by omega)
  have offset : pointerDiff ber.berPtr ber.berBuf = out.berPtr := by
    rw [ptr]
    exact pointerDiff_add (by omega)
  unfold BufferElement.moveTo
  simp only [granted, whole, offset]
  cases sos : out.berSosPtr with
  | none =>
      have closed := buffers.sosPtr_eq_zero.mpr sos
      simp [closed]
  | some sosOffset =>
      have apart := (buffers.opened sosOffset sos).1
      have stands : ber.berSosPtr = ber.berBuf + sosOffset := by
        rw [buffers.sos, sos]
        rfl
      have sequence : ber.berSosPtr ≠ 0 := by
        unfold sosLenlen at apart
        omega
      have near : pointerDiff ber.berSosPtr ber.berBuf = sosOffset := by
        have used : out.used = sosOffset := by
          simp [OutElement.used, sos]
        rw [stands]
        exact pointerDiff_add (by omega)
      have positive : sosOffset ≠ 0 := by
        unfold sosLenlen at apart
        omega
      simp [sequence, near, positive]

/-- Behind the write cursor there is room, or the buffer cannot be enlarged. -/
theorem makeRoom
    (buffers : Buffers ber out)
    (len : Nat)
    (short : len < 2 ^ 32) :
    RoomMade ber out len (ber.makeRoom len) := by
  have inside := buffers.inside
  have start := buffers.start_le
  have small := buffers.small
  have within : out.used ≤ ber.size := by
    unfold BufferElement.size
    omega
  have free :
      pointerDiff ber.berEnd ber.cursor = ber.size - out.used := by
    rw [buffers.cursor, pointerDiff_of_le inside (by
      unfold BufferElement.size at small
      omega)]
    unfold BufferElement.size
    omega
  unfold BufferElement.makeRoom
  rw [free]
  by_cases enough : out.used + len ≤ ber.size
  · rw [if_neg (by omega)]
    refine .made buffers ?_ le_rfl rfl
    unfold BufferElement.size at enough
    omega
  · rw [if_pos (by omega)]
    have whole : pointerDiff ber.berEnd ber.berBuf = ber.size := by
      refine pointerDiff_of_le start ?_
      unfold BufferElement.size at small
      omega
    have exact : (len + 1) % 2 ^ 64 = len + 1 :=
      Nat.mod_eq_of_lt (by omega)
    unfold BufferElement.berRealloc
    simp only [exact, whole, Nat.add_eq_zero_iff, one_ne_zero, and_false,
      if_false]
    generalize growth :
      (if len + 1 < lberExbufsiz then lberExbufsiz else len + 1) = added
    have larger : lberExbufsiz ≤ added ∧ len + 1 ≤ added ∧
        added < 2 ^ 33 := by
      rw [← growth]
      unfold lberExbufsiz
      split <;> omega
    obtain ⟨atLeast, covers, bounded⟩ := larger
    have sum : (ber.size + added) % 2 ^ 64 = ber.size + added :=
      Nat.mod_eq_of_lt (by omega)
    rw [sum]
    by_cases tooLarge : (2 ^ 64 - 1) / 2 < ber.size + added
    · rw [if_pos (Or.inr tooLarge)]
      exact .refused rfl (Or.inr (by omega))
    · rw [if_neg (by omega)]
      cases answers : ber.allocator with
      | nil =>
          simp only [BufferElement.moveTo, answers]
          refine .refused rfl (Or.inl ?_)
          simp [BufferElement.capacity, BufferElement.blocks, answers]
          omega
      | cons answer later =>
          cases answer with
          | none =>
              simp only [BufferElement.moveTo, answers]
              refine .refused rfl (Or.inl ?_)
              simp [BufferElement.capacity, BufferElement.blocks, answers]
              omega
          | some block =>
              rw [buffers.moveTo answers]
              refine .made
                (buffers.moved block later (by omega) (by omega)) ?_ ?_ rfl
              · simp only
                omega
              · simp only [BufferElement.capacity, BufferElement.blocks,
                  BufferElement.size, answers, Option.isSome_some,
                  List.takeWhile_cons_of_pos, List.length_cons,
                  Nat.add_sub_cancel_left, Nat.mul_add, Nat.mul_one]
                omega

/-- Octets copied behind those in use are appended. -/
theorem read_appended
    (buffers : Buffers ber out)
    (octets : List UInt8) :
    (ber.memory.write (ber.berBuf + out.used) octets).read ber.berBuf
        (out.used + octets.length) =
      out.berBuf ++ octets := by
  rw [Memory.read_write_append, buffers.contents]

/-- All octets of the list are in use. -/
theorem take_used (buffers : Buffers ber out) :
    out.berBuf.take out.used = out.berBuf :=
  List.take_of_length_le (le_of_eq buffers.length_berBuf)

/-- The write cursor moves behind the octets that were appended. -/
theorem written
    (buffers : Buffers ber out)
    {octets : List UInt8}
    (room : ber.berBuf + out.used + octets.length ≤ ber.berEnd) :
    Buffers
      (BufferElement.advance
        { ber with
          memory := ber.memory.write (ber.berBuf + out.used) octets }
        octets.length)
      (Lber.berWrite out octets) := by
  have appended := buffers.read_appended octets
  have all := buffers.take_used
  have zero := buffers.sosPtr_eq_zero
  have stands := buffers.sos
  have complete := buffers.complete
  have small := buffers.small
  unfold OutElement.used at appended all room
  cases sos : out.berSosPtr with
  | none =>
      simp only [sos, Option.getD_none] at appended all room
      have closed := zero.mpr sos
      simp only [BufferElement.advance, closed, if_true, Lber.berWrite, sos,
        all]
      refine ⟨buffers.tag, ?_, rfl, buffers.inner, ?_, ?_, ?_, small, ?_⟩
      · rw [buffers.ptr, Nat.add_assoc]
      · simpa [OutElement.used, sos] using appended
      · rw [buffers.ptr]
        exact room
      · simpa [OutElement.used, sos, Nat.add_assoc] using room
      · simp
  | some offset =>
      simp only [sos, Option.getD_some] at appended all room
      have opened : ¬ ber.berSosPtr = 0 := by
        rw [zero, sos]
        simp
      obtain ⟨apart, chain⟩ := buffers.opened offset sos
      simp only [sos, Option.elim_some] at stands
      simp only [BufferElement.advance, opened, if_false, Lber.berWrite, sos,
        all]
      refine
        ⟨buffers.tag, buffers.ptr, ?_, buffers.inner, ?_, complete, ?_,
          small, ?_⟩
      · rw [stands, Nat.add_assoc]
        rfl
      · simpa [OutElement.used, sos] using appended
      · simpa [OutElement.used, Nat.add_assoc] using room
      · intro later moved
        simp only [Option.some.injEq] at moved
        have length : out.berBuf.length = offset := by
          rw [buffers.length_berBuf]
          simp [OutElement.used, sos]
        have same :
            (out.berBuf ++ octets).take offset = out.berBuf.take offset := by
          rw [← length, List.take_left, List.take_length]
        exact ⟨by simp only; omega, chain.congr same apart⟩

end Buffers

end LdapProxy.Lber

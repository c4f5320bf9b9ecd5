import LdapProxy.LberEncode

namespace LdapProxy.Lber

open LdapProxy.Ber

/-!
# What `ber_printf` encodes

While sequences are open, `liblber` keeps reserved length octets in the buffer
and chains the open sequences through them.  A `Printer` has none of this: it
holds the complete octets and a stack of open frames with their contents.
`berPrintf_refines` shows that `ber_printf` encodes what the printer prints.
-/

/-- An open sequence or set: its tag octets and its contents so far. -/
structure Frame where
  tag : List UInt8
  contents : List UInt8
  deriving Repr, DecidableEq

/--
The tag for the next element, the complete octets and the open frames, the
innermost first.
-/
structure Printer where
  tag : Nat
  done : List UInt8
  stack : List Frame
  deriving Repr, DecidableEq

/-- The octets of an element with these contents. -/
def elementOctets (tag contents : List UInt8) : List UInt8 :=
  tag ++ berPrependLen contents.length ++ contents

namespace Printer

/-- The pending tag, or the universal one. -/
def tagOr (pr : Printer) (universal : Nat) : List UInt8 :=
  berPrependTag (if pr.tag = lberDefault then universal else pr.tag)

/-- Append octets to the innermost frame. -/
def write (pr : Printer) (octets : List UInt8) : Printer :=
  match pr.stack with
  | [] =>
      { pr with done := pr.done ++ octets }
  | frame :: outer =>
      { pr with
        stack := { frame with contents := frame.contents ++ octets } :: outer }

/-- Append an element, which uses up the pending tag. -/
def put (pr : Printer) (universal : Nat) (contents : List UInt8) :
    Printer :=
  { pr.write (elementOctets (pr.tagOr universal) contents) with
    tag := lberDefault }

/-- Open a frame. -/
def start (pr : Printer) (universal : Nat) : Printer :=
  { pr with
    tag := lberDefault
    stack := ⟨pr.tagOr universal, []⟩ :: pr.stack }

/-- Close the innermost frame: it becomes an element of the next one. -/
def close (pr : Printer) : Option Printer :=
  match pr.stack with
  | [] =>
      none
  | frame :: outer =>
      some
        (write { pr with tag := lberDefault, stack := outer }
          (elementOctets frame.tag frame.contents))

/-- Print the conversions of a format in order. -/
def run : List Char → List PrintArg → Printer → Option Printer
  | [], _, pr =>
      some pr
  | 'i' :: format, .int num :: args, pr =>
      run format args (pr.put lberInteger (putIntContents num))
  | 'e' :: format, .int num :: args, pr =>
      run format args (pr.put lberEnumerated (putIntContents num))
  | 's' :: format, .str octets :: args, pr =>
      run format args (pr.put lberOctetstring octets)
  | 'O' :: format, .berval octets :: args, pr =>
      run format args (pr.put lberOctetstring octets)
  | 't' :: format, .tag tag :: args, pr =>
      run format args { pr with tag := tag }
  | '{' :: format, args, pr =>
      run format args (pr.start lberSequence)
  | '[' :: format, args, pr =>
      run format args (pr.start lberSet)
  | '}' :: format, args, pr =>
      match pr.close with
      | none =>
          none
      | some next =>
          run format args next
  | ']' :: format, args, pr =>
      match pr.close with
      | none =>
          none
      | some next =>
          run format args next
  | _ :: _, _, _ =>
      none

end Printer

/-- The offset of the reserved octets of the innermost frame. -/
def frameOffset (done : List UInt8) : List Frame → Nat
  | [] =>
      0
  | frame :: outer =>
      done.length +
        (outer.map fun frame =>
          frame.tag.length + sosLenlen + frame.contents.length).sum +
        frame.tag.length

/--
The buffer while frames are open: behind the tag of each stand its reserved
octets, which hold the offset of the enclosing frame.
-/
def frameLayout (done : List UInt8) : List Frame → List UInt8
  | [] =>
      done
  | frame :: outer =>
      frameLayout done outer ++ frame.tag ++
        UInt8.ofNat frame.tag.length ::
          toLittleEndian 4 (frameOffset done outer) ++
        frame.contents

/-- The octets in use while these frames are open. -/
def Printer.layout (pr : Printer) : List UInt8 :=
  frameLayout pr.done pr.stack

theorem length_frameLayout
    (done : List UInt8)
    (stack : List Frame) :
    (frameLayout done stack).length =
      done.length +
        (stack.map fun frame =>
          frame.tag.length + sosLenlen + frame.contents.length).sum := by
  induction stack with
  | nil =>
      simp [frameLayout]
  | cons frame outer inductionHypothesis =>
      simp only [frameLayout, List.length_append, List.length_cons,
        length_toLittleEndian, List.map_cons, List.sum_cons,
        inductionHypothesis, sosLenlen]
      omega

/-- The reserved octets stand behind the enclosing frames and the tag. -/
theorem frameOffset_cons
    (done : List UInt8)
    (frame : Frame)
    (outer : List Frame) :
    frameOffset done (frame :: outer) =
      (frameLayout done outer).length + frame.tag.length := by
  rw [length_frameLayout]
  rfl

/-- The record encodes what the printer holds. -/
structure Prints (ber : OutElement) (pr : Printer) : Prop where
  tag : ber.berTag = pr.tag
  buffer : ber.berBuf.take pr.layout.length = pr.layout
  ptr : ber.berPtr = pr.done.length
  closed : pr.stack = [] → ber.berSosPtr = none
  sos : pr.stack ≠ [] → ber.berSosPtr = some pr.layout.length
  inner : pr.stack ≠ [] → ber.berSosInner = frameOffset pr.done pr.stack
  tagged : ∀ frame ∈ pr.stack, frame.tag ≠ []
  unsent : ber.berRwptr = none

/-- A new record prints nothing. -/
theorem prints_new :
    Prints OutElement.new ⟨lberDefault, [], []⟩ where
  tag := rfl
  buffer := rfl
  ptr := rfl
  closed := fun _ => rfl
  sos := fun opened => (opened rfl).elim
  inner := fun opened => (opened rfl).elim
  tagged := by simp
  unsent := rfl

/-- Behind the octets in use nothing of the buffer counts. -/
theorem take_append_length
    (first second : List UInt8) :
    (first ++ second).take (first.length + second.length) =
      first ++ second :=
  List.take_of_length_le (by rw [List.length_append])

/-- `ber_write` appends to the innermost frame. -/
theorem Prints.write
    {ber : OutElement}
    {pr : Printer}
    (prints : Prints ber pr)
    (octets : List UInt8) :
    Prints (berWrite ber octets) (pr.write octets) := by
  obtain ⟨tag, done, stack⟩ := pr
  cases stack with
  | nil =>
      have closed := prints.closed rfl
      have buffer := prints.buffer
      have ptr := prints.ptr
      simp only [Printer.layout, frameLayout] at buffer ptr
      refine ⟨?_, ?_, ?_, ?_, ?_, ?_, ?_, ?_⟩
      · simpa [berWrite, closed, Printer.write] using prints.tag
      · simp only [berWrite, closed, Printer.write, Printer.layout,
          frameLayout, ptr, buffer, List.length_append]
        exact take_append_length done octets
      · simp [berWrite, closed, Printer.write, ptr]
      · intro _
        simp [berWrite, closed]
      · intro opened
        exact (opened rfl).elim
      · intro opened
        exact (opened rfl).elim
      · simp [Printer.write]
      · simpa [berWrite, closed] using prints.unsent
  | cons frame outer =>
      have sos := prints.sos (by simp)
      have inner := prints.inner (by simp)
      have buffer := prints.buffer
      have grown :
          Printer.layout
              ((Printer.mk tag done (frame :: outer)).write octets) =
            (Printer.mk tag done (frame :: outer)).layout ++ octets := by
        simp [Printer.write, Printer.layout, frameLayout]
      refine ⟨?_, ?_, ?_, ?_, ?_, ?_, ?_, ?_⟩
      · simpa [berWrite, sos, Printer.write] using prints.tag
      · rw [grown]
        simp only [berWrite, sos, buffer, List.length_append]
        exact take_append_length _ octets
      · simpa [berWrite, sos, Printer.write] using prints.ptr
      · simp [Printer.write]
      · intro _
        rw [grown, List.length_append]
        simp [berWrite, sos]
      · intro _
        simp only [berWrite, sos, Printer.write, inner]
        rfl
      · intro other member
        simp only [Printer.write, List.mem_cons] at member
        rcases member with rfl | inOuter
        · exact prints.tagged frame (List.mem_cons_self ..)
        · exact prints.tagged other (List.mem_cons_of_mem _ inOuter)
      · simpa [berWrite, sos] using prints.unsent

/-- The pending tag is reset or set apart from everything else. -/
theorem Prints.setTag
    {ber : OutElement}
    {pr : Printer}
    (prints : Prints ber pr)
    (tag : Nat) :
    Prints { ber with berTag := tag } { pr with tag := tag } where
  tag := rfl
  buffer := prints.buffer
  ptr := prints.ptr
  closed := prints.closed
  sos := prints.sos
  inner := prints.inner
  tagged := prints.tagged
  unsent := prints.unsent

/-- A tag has one to eight octets. -/
theorem length_prependOctets
    (fuel value : Nat)
    (octets : List UInt8) :
    octets.length ≤ (prependOctets fuel value octets).length ∧
      (prependOctets fuel value octets).length ≤ fuel + octets.length := by
  induction fuel generalizing value octets with
  | zero =>
      simp [prependOctets]
  | succ fuel inductionHypothesis =>
      unfold prependOctets
      split
      · omega
      · have later :=
          inductionHypothesis (value / 256) (UInt8.ofNat value :: octets)
        rw [List.length_cons] at later
        omega

/-- A tag has one to eight octets. -/
theorem length_berPrependTag (tag : Nat) :
    1 ≤ (berPrependTag tag).length ∧ (berPrependTag tag).length ≤ 8 := by
  have bounds := length_prependOctets 7 (tag / 256) [UInt8.ofNat tag]
  rw [List.length_singleton] at bounds
  unfold berPrependTag
  omega

/-- A length has at most nine octets. -/
theorem length_berPrependLen (len : Nat) :
    (berPrependLen len).length ≤ 9 := by
  have bounds := length_prependOctets 7 (len / 256) [UInt8.ofNat len]
  rw [List.length_singleton] at bounds
  unfold berPrependLen
  split
  · simp
  · simp only [List.length_cons]
    omega

/-- The write cursor stands behind the octets in use. -/
theorem Prints.dest
    {ber : OutElement}
    {pr : Printer}
    (prints : Prints ber pr) :
    ber.berSosPtr.getD ber.berPtr = pr.layout.length := by
  by_cases empty : pr.stack = []
  · rw [prints.closed empty, Option.getD_none, prints.ptr]
    simp [Printer.layout, empty, frameLayout]
  · rw [prints.sos empty, Option.getD_some]

/-- `ber_start_seqorset` opens a frame. -/
theorem Prints.start
    {ber : OutElement}
    {pr : Printer}
    (prints : Prints ber pr)
    (small : frameOffset pr.done pr.stack < 2 ^ 32)
    (universal : Nat) :
    ∃ next,
      berStartSeqorset ber
          (if ber.berTag = lberDefault then universal else ber.berTag) =
        some next ∧
        Prints (resetTag next) (pr.start universal) := by
  have tagOctets :
      berPrependTag
          (if ber.berTag = lberDefault then universal else ber.berTag) =
        pr.tagOr universal := by
    rw [prints.tag]
    rfl
  have fits : ¬ 2 ^ 32 - 1 < frameOffset pr.done pr.stack := by omega
  have grown : (pr.start universal).layout =
      pr.layout ++ pr.tagOr universal ++
        UInt8.ofNat (pr.tagOr universal).length ::
          toLittleEndian 4 (frameOffset pr.done pr.stack) := by
    simp [Printer.start, Printer.layout, frameLayout]
  have offset : frameOffset pr.done (pr.start universal).stack =
      pr.layout.length + (pr.tagOr universal).length := by
    simp only [Printer.start, Printer.layout]
    exact frameOffset_cons _ _ _
  have dest := prints.dest
  have started :
      berStartSeqorset ber
          (if ber.berTag = lberDefault then universal else ber.berTag) =
        some { ber with
          berBuf := (pr.start universal).layout
          berSosPtr :=
            some (pr.layout.length + (pr.tagOr universal).length + sosLenlen)
          berSosInner := pr.layout.length + (pr.tagOr universal).length } := by
    by_cases empty : pr.stack = []
    · have closed := prints.closed empty
      rw [empty] at fits grown
      simp only [closed, Option.getD_none] at dest
      simp only [berStartSeqorset, closed, Option.getD_none, dest,
        tagOctets, prints.buffer, grown]
      exact if_neg fits
    · have sos := prints.sos empty
      simp only [berStartSeqorset, sos, Option.getD_some, tagOctets,
        prints.buffer, grown, prints.inner empty]
      exact if_neg fits
  refine ⟨_, started, ?_⟩
  refine ⟨rfl, ?_, prints.ptr, ?_, ?_, ?_, ?_, prints.unsent⟩
  · exact List.take_length
  · simp [Printer.start]
  · intro _
    rw [grown]
    simp only [resetTag, List.length_append, List.length_cons,
      length_toLittleEndian, sosLenlen]
  · intro _
    exact offset.symm
  · intro frame member
    simp only [Printer.start, List.mem_cons] at member
    rcases member with rfl | inStack
    · intro none
      have bounds := length_berPrependTag
        (if pr.tag = lberDefault then universal else pr.tag)
      simp only [Printer.tagOr] at none
      rw [none] at bounds
      simp at bounds
    · exact prints.tagged frame inStack

/-- A part of the buffer that lies in the octets in use. -/
theorem part_of_layout
    {buffer layout : List UInt8}
    (used : buffer.take layout.length = layout)
    (start count : Nat)
    (inside : start + count ≤ layout.length) :
    (buffer.drop start).take count = (layout.drop start).take count := by
  have part := congrArg (fun octets => (octets.drop start).take count) used
  simp only [List.drop_take, List.take_take] at part
  rw [← part]
  congr 1
  omega

/-- The reserved octets of the innermost frame lie in the octets in use. -/
theorem frameOffset_le
    (done : List UInt8)
    (stack : List Frame) :
    frameOffset done stack ≤ (frameLayout done stack).length := by
  cases stack with
  | nil =>
      exact Nat.zero_le _
  | cons frame outer =>
      rw [frameOffset_cons]
      simp [frameLayout]

/-- The parts of a buffer whose innermost frame is to be closed. -/
structure FrameParts
    (buffer done : List UInt8)
    (frame : Frame)
    (outer : List Frame) :
    Prop where
  before :
    buffer.take (frameOffset done (frame :: outer)) =
      frameLayout done outer ++ frame.tag
  header :
    (buffer.drop (frameOffset done (frame :: outer))).take sosLenlen =
      UInt8.ofNat frame.tag.length ::
        toLittleEndian 4 (frameOffset done outer)
  contents :
    (buffer.drop (frameOffset done (frame :: outer) + sosLenlen)).take
        frame.contents.length =
      frame.contents

/-- The octets of the innermost frame behind its tag. -/
theorem length_frameLayout_cons
    (done : List UInt8)
    (frame : Frame)
    (outer : List Frame) :
    (frameLayout done (frame :: outer)).length =
      frameOffset done (frame :: outer) + sosLenlen +
        frame.contents.length := by
  rw [frameOffset_cons]
  simp only [frameLayout, List.length_append, List.length_cons,
    length_toLittleEndian, sosLenlen]

/-- The octets in use have the parts of the innermost frame. -/
theorem frameParts_of_layout
    {buffer done : List UInt8}
    {frame : Frame}
    {outer : List Frame}
    (used :
      buffer.take (frameLayout done (frame :: outer)).length =
        frameLayout done (frame :: outer)) :
    FrameParts buffer done frame outer := by
  have layout :
      frameLayout done (frame :: outer) =
        (frameLayout done outer ++ frame.tag) ++
          (UInt8.ofNat frame.tag.length ::
            toLittleEndian 4 (frameOffset done outer)) ++
          frame.contents := by
    simp [frameLayout]
  have lengths := length_frameLayout_cons done frame outer
  have start :
      (frameLayout done outer ++ frame.tag).length =
        frameOffset done (frame :: outer) := by
    rw [List.length_append, frameOffset_cons]
  constructor
  · have part :=
      part_of_layout used 0 (frameOffset done (frame :: outer)) (by omega)
    rw [List.drop_zero, List.drop_zero] at part
    rw [part, layout, List.append_assoc, ← start, List.take_left]
  · rw [part_of_layout used _ _ (by omega), layout, List.append_assoc,
      ← start, List.drop_left]
    exact List.take_left' (by simp [sosLenlen])
  · rw [part_of_layout used _ _ (by omega), layout,
      List.drop_left' (by
        rw [List.length_append, start]
        simp [sosLenlen]),
      List.take_length]

/-- The record after the innermost frame has become an element. -/
def closedRecord
    (ber : OutElement)
    (done : List UInt8)
    (frame : Frame)
    (outer : List Frame) :
    OutElement :=
  { ber with
    berBuf := frameLayout done outer ++ elementOctets frame.tag frame.contents
    berSosInner := frameOffset done outer }

/-- `ber_put_seqorset` puts the length in front of the contents. -/
theorem berPutSeqorset_frame
    {ber : OutElement}
    {tag : Nat}
    {done : List UInt8}
    {frame : Frame}
    {outer : List Frame}
    (prints : Prints ber ⟨tag, done, frame :: outer⟩)
    (small : (frameLayout done (frame :: outer)).length ≤ maxintBersize) :
    berPutSeqorset ber =
      if frameOffset done outer = 0 then
        some
          { closedRecord ber done frame outer with
            berPtr := (closedRecord ber done frame outer).berBuf.length
            berSosPtr := none }
      else
        some
          { closedRecord ber done frame outer with
            berSosPtr :=
              some (closedRecord ber done frame outer).berBuf.length } := by
  have sos := prints.sos (by simp)
  have inner := prints.inner (by simp)
  have parts := frameParts_of_layout prints.buffer
  have lengths := length_frameLayout_cons done frame outer
  have offset := frameOffset_cons done frame outer
  simp only [Printer.layout] at sos inner
  have xlen :
      (frameLayout done (frame :: outer)).length -
          frameOffset done (frame :: outer) =
        frame.contents.length + sosLenlen := by
    omega
  have fits :
      ¬ maxintBersize + sosLenlen < frame.contents.length + sosLenlen := by
    omega
  have stored :
      littleEndian (toLittleEndian 4 (frameOffset done outer)) =
        frameOffset done outer := by
    rw [littleEndian_toLittleEndian]
    refine Nat.mod_eq_of_lt ?_
    have inside := frameOffset_le done outer
    unfold maxintBersize at small
    omega
  have whole :
      frameLayout done outer ++ frame.tag ++
          berPrependLen frame.contents.length ++ frame.contents =
        frameLayout done outer ++
          elementOctets frame.tag frame.contents := by
    simp [elementOctets]
  have length :
      frameOffset done (frame :: outer) +
            (berPrependLen frame.contents.length).length +
          frame.contents.length =
        (frameLayout done outer ++
          elementOctets frame.tag frame.contents).length := by
    rw [← whole, offset]
    simp only [List.length_append]
  unfold berPutSeqorset closedRecord
  simp only [sos, inner, xlen, fits, if_false, parts.header,
    Nat.add_sub_cancel, parts.contents, parts.before, List.drop_succ_cons,
    List.drop_zero, stored, whole, length]

/-- Closing the outermost frame completes its octets. -/
theorem Prints.closeOutermost
    {ber : OutElement}
    {tag : Nat}
    {done : List UInt8}
    {frame : Frame}
    (prints : Prints ber ⟨tag, done, [frame]⟩) :
    Prints
      (resetTag
        { closedRecord ber done frame [] with
          berPtr := (closedRecord ber done frame []).berBuf.length
          berSosPtr := none })
      (Printer.write ⟨lberDefault, done, []⟩
        (elementOctets frame.tag frame.contents)) where
  tag := rfl
  buffer := List.take_length
  ptr := rfl
  closed := fun _ => rfl
  sos := fun opened => (opened rfl).elim
  inner := fun opened => (opened rfl).elim
  tagged := by simp [Printer.write]
  unsent := prints.unsent

/-- Closing a frame inside another one appends to that one. -/
theorem Prints.closeInner
    {ber : OutElement}
    {tag : Nat}
    {done : List UInt8}
    {frame next : Frame}
    {rest : List Frame}
    (prints : Prints ber ⟨tag, done, frame :: next :: rest⟩) :
    Prints
      (resetTag
        { closedRecord ber done frame (next :: rest) with
          berSosPtr :=
            some (closedRecord ber done frame (next :: rest)).berBuf.length })
      (Printer.write ⟨lberDefault, done, next :: rest⟩
        (elementOctets frame.tag frame.contents)) := by
  have grown :
      (Printer.write ⟨lberDefault, done, next :: rest⟩
          (elementOctets frame.tag frame.contents)).layout =
        frameLayout done (next :: rest) ++
          elementOctets frame.tag frame.contents := by
    simp [Printer.write, Printer.layout, frameLayout]
  constructor
  · rfl
  · rw [grown]
    exact List.take_length
  · exact prints.ptr
  · simp [Printer.write]
  · intro _
    rw [grown]
    rfl
  · intro _
    rfl
  · intro other member
    simp only [Printer.write, List.mem_cons] at member
    rcases member with rfl | inRest
    · exact prints.tagged next (by simp)
    · exact prints.tagged other (by simp [inRest])
  · exact prints.unsent

/-- `ber_put_seqorset` closes the innermost frame. -/
theorem Prints.close
    {ber : OutElement}
    {pr closed : Printer}
    (prints : Prints ber pr)
    (closes : pr.close = some closed)
    (small : pr.layout.length ≤ maxintBersize) :
    ∃ next,
      berPutSeqorset ber = some next ∧ Prints (resetTag next) closed := by
  obtain ⟨tag, done, _ | ⟨frame, outer⟩⟩ := pr
  · simp [Printer.close] at closes
  simp only [Printer.close, Option.some.injEq] at closes
  subst closed
  rw [berPutSeqorset_frame prints small]
  cases outer with
  | nil =>
      exact ⟨_, if_pos rfl, prints.closeOutermost⟩
  | cons next rest =>
      have tagged : next.tag ≠ [] := prints.tagged next (by simp)
      have positive : frameOffset done (next :: rest) ≠ 0 := by
        have := List.length_pos_of_ne_nil tagged
        rw [frameOffset_cons]
        omega
      exact ⟨_, if_neg positive, prints.closeInner⟩

theorem Printer.write_write
    (pr : Printer)
    (first second : List UInt8) :
    (pr.write first).write second = pr.write (first ++ second) := by
  obtain ⟨tag, done, stack⟩ := pr
  cases stack <;> simp [Printer.write]

/-- Appending octets makes the used part longer by these. -/
theorem Printer.length_layout_write
    (pr : Printer)
    (octets : List UInt8) :
    (pr.write octets).layout.length =
      pr.layout.length + octets.length := by
  obtain ⟨tag, done, stack⟩ := pr
  cases stack with
  | nil =>
      simp [Printer.write, Printer.layout, frameLayout]
  | cons frame outer =>
      simp [Printer.write, Printer.layout, frameLayout]
      omega

/-- Tag and length of an element have at most seventeen octets. -/
theorem length_elementOctets
    (tag : Nat)
    (contents : List UInt8) :
    (elementOctets (berPrependTag tag) contents).length ≤
      17 + contents.length := by
  have tagBound := (length_berPrependTag tag).2
  have lengthBound := length_berPrependLen contents.length
  unfold elementOctets
  rw [List.length_append, List.length_append]
  omega

/-- What an argument may add to the octets in use, apart from its header. -/
def PrintArg.size : PrintArg → Nat
  | .int _ =>
      5
  | .tag _ =>
      0
  | .str octets =>
      octets.length
  | .berval octets =>
      octets.length

/-- The loop adds at most one octet with each repetition. -/
theorem length_intOctets
    (fuel unum : Nat)
    (sign : UInt8)
    (octets : List UInt8) :
    (intOctets fuel unum sign octets).length ≤ fuel + octets.length := by
  induction fuel generalizing unum octets with
  | zero =>
      simp [intOctets]
  | succ fuel inductionHypothesis =>
      have later :=
        inductionHypothesis (unum / 256)
          ((sign ^^^ UInt8.ofNat unum) :: octets)
      rw [List.length_cons] at later
      simp only [intOctets]
      split
      · rw [List.length_cons]
        omega
      · omega

/-- A number has at most five content octets. -/
theorem length_putIntContents (num : Int) :
    (putIntContents num).length ≤ 5 := by
  unfold putIntContents
  split
  · exact length_intOctets 5 _ 0xff []
  · exact length_intOctets 5 _ 0 []

/-- `ber_put_int_or_enum` appends one element. -/
theorem Prints.putInt
    {ber : OutElement}
    {pr : Printer}
    (prints : Prints ber pr)
    (num : Int)
    (universal : Nat) :
    ∃ next,
      berPutIntOrEnum ber num
          (if ber.berTag = lberDefault then universal else ber.berTag) =
        some next ∧
        Prints (resetTag next) (pr.put universal (putIntContents num)) := by
  have short : (putIntContents num).length < 0x80 := by
    have bound := length_putIntContents num
    omega
  refine ⟨_, rfl, ?_⟩
  have written := (prints.write
    (elementOctets (pr.tagOr universal) (putIntContents num))).setTag
      lberDefault
  have same :
      berPrependTag
            (if ber.berTag = lberDefault then universal
              else ber.berTag) ++
          UInt8.ofNat (putIntContents num).length :: putIntContents num =
        elementOctets (pr.tagOr universal) (putIntContents num) := by
    simp [elementOctets, Printer.tagOr, prints.tag, berPrependLen, short]
  simp only [resetTag, same]
  exact written

/-- `ber_put_ostring` appends one element. -/
theorem Prints.putOstring
    {ber : OutElement}
    {pr : Printer}
    (prints : Prints ber pr)
    (str : List UInt8)
    (small : str.length ≤ maxintBersize) :
    ∃ next,
      berPutOstring ber str ber.berTag = some next ∧
        Prints (resetTag next) (pr.put lberOctetstring str) := by
  refine ⟨_, if_neg (by omega), ?_⟩
  have written := ((prints.write
    (pr.tagOr lberOctetstring ++ berPrependLen str.length)).write
      str).setTag lberDefault
  rw [Printer.write_write] at written
  simp only [resetTag, prints.tag]
  exact written

/-- The offset of the innermost frame lies in the used part. -/
theorem frameOffset_le_layout (pr : Printer) :
    frameOffset pr.done pr.stack ≤ pr.layout.length := by
  obtain ⟨tag, done, stack⟩ := pr
  cases stack with
  | nil =>
      simp [frameOffset]
  | cons frame outer =>
      simp only [Printer.layout, frameOffset_cons]
      simp [frameLayout]

/-- Opening a frame takes its tag and the reserved octets. -/
theorem Printer.length_layout_start
    (pr : Printer)
    (universal : Nat) :
    (pr.start universal).layout.length ≤ pr.layout.length + 13 := by
  have bound := (length_berPrependTag
    (if pr.tag = lberDefault then universal else pr.tag)).2
  simp only [Printer.start, Printer.layout, Printer.tagOr, frameLayout,
    List.length_append, List.length_cons, length_toLittleEndian,
    List.length_nil]
  omega

/-- Closing a frame puts its length in place of the reserved octets. -/
theorem Printer.length_layout_close
    {pr next : Printer}
    (closed : pr.close = some next) :
    next.layout.length ≤ pr.layout.length + 4 := by
  obtain ⟨tag, done, stack⟩ := pr
  cases stack with
  | nil =>
      simp [Printer.close] at closed
  | cons frame outer =>
      have bound := length_berPrependLen frame.contents.length
      simp only [Printer.close, Option.some.injEq] at closed
      rw [← closed, Printer.length_layout_write]
      simp only [Printer.layout, elementOctets, frameLayout,
        List.length_append, List.length_cons, length_toLittleEndian]
      omega

/-- An upper bound for what a format adds to the octets in use. -/
def printCost (format : List Char) (args : List PrintArg) : Nat :=
  17 * format.length + (args.map PrintArg.size).sum

/-- A conversion that appends an element stays within its cost. -/
theorem cost_put
    (pr : Printer)
    (universal : Nat)
    {contents : List UInt8}
    {arg : PrintArg}
    (sized : contents.length ≤ arg.size)
    (conversion : Char)
    (format : List Char)
    (args : List PrintArg) :
    (pr.put universal contents).layout.length + printCost format args ≤
      pr.layout.length + printCost (conversion :: format) (arg :: args) := by
  have element := length_elementOctets
    (if pr.tag = lberDefault then universal else pr.tag) contents
  have written :=
    pr.length_layout_write (elementOctets (pr.tagOr universal) contents)
  simp only [Printer.put, Printer.layout, Printer.tagOr, printCost,
    List.length_cons, List.map_cons, List.sum_cons] at written ⊢
  omega

/-- A conversion that opens a frame stays within its cost. -/
theorem cost_start
    (pr : Printer)
    (universal : Nat)
    (conversion : Char)
    (format : List Char)
    (args : List PrintArg) :
    (pr.start universal).layout.length + printCost format args ≤
      pr.layout.length + printCost (conversion :: format) args := by
  have opened := pr.length_layout_start universal
  simp only [printCost, List.length_cons]
  omega

/-- A conversion that closes a frame stays within its cost. -/
theorem cost_close
    {pr closed : Printer}
    (closes : pr.close = some closed)
    (conversion : Char)
    (format : List Char)
    (args : List PrintArg) :
    closed.layout.length + printCost format args ≤
      pr.layout.length + printCost (conversion :: format) args := by
  have smaller := Printer.length_layout_close closes
  simp only [printCost, List.length_cons]
  omega

/-- A tag costs nothing until it is used. -/
theorem cost_tag
    (pr : Printer)
    (tag : Nat)
    (conversion : Char)
    (format : List Char)
    (args : List PrintArg) :
    (Printer.mk tag pr.done pr.stack).layout.length +
        printCost format args ≤
      pr.layout.length +
        printCost (conversion :: format) (.tag tag :: args) := by
  simp only [printCost, List.length_cons, List.map_cons, List.sum_cons,
    PrintArg.size, Printer.layout]
  omega

/-- What a format prints stays within its cost. -/
theorem Printer.length_run
    {format : List Char}
    {args : List PrintArg}
    {pr final : Printer}
    (printed : pr.run format args = some final) :
    final.layout.length ≤ pr.layout.length + printCost format args := by
  fun_induction Printer.run format args pr with
  | case1 args pr =>
      simp only [Option.some.injEq] at printed
      rw [printed]
      exact Nat.le_add_right _ _
  | case2 format num args pr inductionHypothesis =>
      exact (inductionHypothesis printed).trans
        (cost_put pr _ (length_putIntContents num) 'i' format args)
  | case3 format num args pr inductionHypothesis =>
      exact (inductionHypothesis printed).trans
        (cost_put pr _ (length_putIntContents num) 'e' format args)
  | case4 format octets args pr inductionHypothesis =>
      exact (inductionHypothesis printed).trans
        (cost_put pr _ le_rfl 's' format args)
  | case5 format octets args pr inductionHypothesis =>
      exact (inductionHypothesis printed).trans
        (cost_put pr _ le_rfl 'O' format args)
  | case6 format tag args pr inductionHypothesis =>
      exact (inductionHypothesis printed).trans
        (cost_tag pr tag 't' format args)
  | case7 format args pr inductionHypothesis =>
      exact (inductionHypothesis printed).trans
        (cost_start pr lberSequence '{' format args)
  | case8 format args pr inductionHypothesis =>
      exact (inductionHypothesis printed).trans
        (cost_start pr lberSet '[' format args)
  | case9 =>
      cases printed
  | case10 format args pr closed closes inductionHypothesis =>
      exact (inductionHypothesis printed).trans
        (cost_close closes '}' format args)
  | case11 =>
      cases printed
  | case12 format args pr closed closes inductionHypothesis =>
      exact (inductionHypothesis printed).trans
        (cost_close closes ']' format args)
  | case13 =>
      cases printed

/-- `ber_printf` encodes what the printer prints. -/
theorem berPrintf_refines
    {format : List Char}
    {args : List PrintArg}
    {ber : OutElement}
    {pr final : Printer}
    (prints : Prints ber pr)
    (printed : pr.run format args = some final)
    (small : pr.layout.length + printCost format args ≤ maxintBersize) :
    ∃ next, berPrintf format args ber = some next ∧ Prints next final := by
  fun_induction Printer.run format args pr generalizing ber with
  | case1 args pr =>
      simp only [Option.some.injEq] at printed
      exact ⟨ber, rfl, printed ▸ prints⟩
  | case2 format num args pr inductionHypothesis =>
      obtain ⟨next, put, later⟩ := prints.putInt num lberInteger
      simp only [berPrintf, berPutInt, put, Option.bind_some]
      exact inductionHypothesis later printed
        ((cost_put pr _ (length_putIntContents num) 'i' format args).trans
          small)
  | case3 format num args pr inductionHypothesis =>
      obtain ⟨next, put, later⟩ := prints.putInt num lberEnumerated
      simp only [berPrintf, berPutEnum, put, Option.bind_some]
      exact inductionHypothesis later printed
        ((cost_put pr _ (length_putIntContents num) 'e' format args).trans
          small)
  | case4 format octets args pr inductionHypothesis =>
      have sized : octets.length ≤ maxintBersize := by
        simp only [printCost, List.map_cons, List.sum_cons,
          PrintArg.size] at small
        omega
      obtain ⟨next, put, later⟩ := prints.putOstring octets sized
      simp only [berPrintf, put, Option.bind_some]
      exact inductionHypothesis later printed
        ((cost_put pr _ le_rfl 's' format args).trans small)
  | case5 format octets args pr inductionHypothesis =>
      have sized : octets.length ≤ maxintBersize := by
        simp only [printCost, List.map_cons, List.sum_cons,
          PrintArg.size] at small
        omega
      obtain ⟨next, put, later⟩ := prints.putOstring octets sized
      simp only [berPrintf, put, Option.bind_some]
      exact inductionHypothesis later printed
        ((cost_put pr _ le_rfl 'O' format args).trans small)
  | case6 format tag args pr inductionHypothesis =>
      simp only [berPrintf]
      exact inductionHypothesis (prints.setTag tag) printed
        ((cost_tag pr tag 't' format args).trans small)
  | case7 format args pr inductionHypothesis =>
      have inside := frameOffset_le_layout pr
      have bound : pr.layout.length ≤ maxintBersize := by omega
      unfold maxintBersize at bound
      obtain ⟨next, started, later⟩ :=
        prints.start (by omega) lberSequence
      simp only [berPrintf, berStartSeq, started, Option.bind_some]
      exact inductionHypothesis later printed
        ((cost_start pr lberSequence '{' format args).trans small)
  | case8 format args pr inductionHypothesis =>
      have inside := frameOffset_le_layout pr
      have bound : pr.layout.length ≤ maxintBersize := by omega
      unfold maxintBersize at bound
      obtain ⟨next, started, later⟩ := prints.start (by omega) lberSet
      simp only [berPrintf, berStartSet, started, Option.bind_some]
      exact inductionHypothesis later printed
        ((cost_start pr lberSet '[' format args).trans small)
  | case9 =>
      cases printed
  | case10 format args pr closed closes inductionHypothesis =>
      obtain ⟨next, put, later⟩ := prints.close closes (by omega)
      simp only [berPrintf, put, Option.bind_some]
      exact inductionHypothesis later printed
        ((cost_close closes '}' format args).trans small)
  | case11 =>
      cases printed
  | case12 format args pr closed closes inductionHypothesis =>
      obtain ⟨next, put, later⟩ := prints.close closes (by omega)
      simp only [berPrintf, put, Option.bind_some]
      exact inductionHypothesis later printed
        ((cost_close closes ']' format args).trans small)
  | case13 =>
      cases printed

end LdapProxy.Lber

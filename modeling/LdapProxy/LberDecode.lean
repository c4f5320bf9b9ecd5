import LdapProxy.BerOctets
import LdapProxy.ByteMemory

namespace LdapProxy.Lber

open LdapProxy.Ber

/-!
# Decoding of received messages

The functions of `liblber/decode.c` that the proxy uses.  A `BerElement` is the
C record in its decoding phase: `ber_buf` holds a complete message, `ber_ptr`
is the read cursor and `ber_tag` the saved first octet of the next tag.  The
octet at `ber_end` is the NUL that `ber_get_next` stores there.
-/

/-- `LBER_DEFAULT` and `LBER_ERROR`: `(ber_tag_t) -1` on a 64-bit target. -/
def lberDefault : Nat :=
  2 ^ 64 - 1

/-- `LBER_BIG_TAG_MASK`: all number bits set means more tag octets follow. -/
def lberBigTagMask : Nat :=
  0x1f

/-- `LBER_MORE_TAG_MASK`: a further tag octet follows this one. -/
def lberMoreTagMask : Nat :=
  0x80

/-- A received message while it is decoded. -/
structure BerElement where
  berTag : Nat
  berBuf : List UInt8
  berPtr : Nat
  deriving Repr, DecidableEq

/-- A decoded element in place: offset and number of its content octets. -/
structure Berval where
  len : Nat
  val : Nat
  deriving Repr, DecidableEq

namespace BerElement

/-- The offset one past the message. -/
def berEnd (ber : BerElement) : Nat :=
  ber.berBuf.length

/-- `*ptr`, which is the terminating NUL at `ber_end`. -/
def octet (ber : BerElement) (offset : Nat) : UInt8 :=
  ber.berBuf.getD offset 0

/-- The octets that a `berval` points to. -/
def contents (ber : BerElement) (bv : Berval) : List UInt8 :=
  (ber.berBuf.drop bv.val).take bv.len

end BerElement

/--
The `do` loop of `ber_tag_and_rest`: further octets of a multi-octet tag, up to
eight octets in all.  Returns the tag and the offset after it.
-/
def bigTagOctets (tag ptr : Nat) : List UInt8 → Nat × Nat
  | [] =>
      (lberDefault, ptr)
  | octet :: rest =>
      -- tag <<= 8; tag |= *ptr++
      let tag := tag * 256 + octet.toNat
      if tag &&& lberMoreTagMask = 0 then
        (tag, ptr + 1)
      else if tag ≤ lberDefault / 256 then
        bigTagOctets tag (ptr + 1) rest
      else
        (lberDefault, ptr + 1)

/-- `ber_tag_and_rest`: the tag, and the offset of the octets after it. -/
def berTagAndRest (ber : BerElement) : Nat × Nat :=
  if ber.berEnd ≤ ber.berPtr then
    (lberDefault, ber.berPtr)
  else
    let tag :=
      if ber.berPtr = 0 then (ber.octet 0).toNat else ber.berTag
    if tag &&& lberBigTagMask ≠ lberBigTagMask then
      (tag, ber.berPtr + 1)
    else
      bigTagOctets tag (ber.berPtr + 1) (ber.berBuf.drop (ber.berPtr + 1))

/-- The final test of `ber_peek_element`: the contents must be there. -/
def checkLength (tag len ptr rest : Nat) : Nat × Berval :=
  if rest < len then
    (lberDefault, ⟨len, ptr⟩)
  else
    (tag, ⟨len, ptr⟩)

/-- `ber_peek_element`: the next element's tag and its contents in place. -/
def berPeekElement (ber : BerElement) : Nat × Berval :=
  let (tag, ptr) := berTagAndRest ber
  let rest := ber.berEnd - ptr
  if tag = lberDefault ∨ rest = 0 then
    (lberDefault, ⟨0, ptr⟩)
  else
    let len := (ber.octet ptr).toNat
    let ptr := ptr + 1
    let rest := rest - 1
    if len &&& 0x80 = 0 then
      checkLength tag len ptr rest
    else
      let count := len &&& 0x7f
      -- indefinite length, length too long, or not enough data
      if count = 0 ∨ 8 < count ∨ rest < count then
        (lberDefault, ⟨count, ptr⟩)
      else
        checkLength tag
          (bigEndian ((ber.berBuf.drop ptr).take count))
          (ptr + count) (rest - count)

/-- `ber_peek_tag`, without the length that no caller uses. -/
def berPeekTag (ber : BerElement) : Nat :=
  (berPeekElement ber).1

/-- Move the cursor and save the octet there as the next tag. -/
def BerElement.moveTo (ber : BerElement) (offset : Nat) : BerElement :=
  { ber with berPtr := offset, berTag := (ber.octet offset).toNat }

/-- `ber_skip_element`: move past the next element. -/
def berSkipElement (ber : BerElement) : Nat × Berval × BerElement :=
  let (tag, bv) := berPeekElement ber
  if tag = lberDefault then
    (tag, bv, ber)
  else
    (tag, bv, ber.moveTo (bv.val + bv.len))

/-- `ber_skip_tag`: move to the contents of the next element. -/
def berSkipTag (ber : BerElement) : Nat × BerElement :=
  let (tag, bv) := berPeekElement ber
  (tag, ber.moveTo bv.val)

/-- The two's complement conversion of `ber_get_int`. -/
def netnum : List UInt8 → Int
  | [] =>
      0
  | first :: rest =>
      rest.foldl (fun num octet => num * 256 + octet.toNat)
        (((first.toNat ^^^ 0x80 : Nat) : Int) - 0x80)

/--
`ber_get_int`: the tag, the number when there is one, and the element after it.
-/
def berGetInt (ber : BerElement) : Nat × Option Int × BerElement :=
  let (tag, bv, next) := berSkipElement ber
  if tag = lberDefault ∨ 4 < bv.len then
    (lberDefault, none, next)
  else
    (tag, some (netnum (ber.contents bv)), next)

/--
`ber_get_stringa`, that is `ber_get_stringbv` with `LBER_BV_ALLOC` and
`LBER_BV_STRING`: a copy of the contents, refused when a NUL stands before the
last octet.
-/
def berGetStringa (ber : BerElement) :
    Nat × Option (List UInt8) × BerElement :=
  let (tag, bv, next) := berSkipElement ber
  let octets := ber.contents bv
  if tag = lberDefault ∨ (0 : UInt8) ∈ octets.take (bv.len - 1) then
    (lberDefault, none, next)
  else
    (tag, some octets, next)

/-- What one conversion of `ber_scanf` stores through its argument. -/
inductive ScanValue where
  | str (octets : List UInt8)
  | int (num : Int)
  | tag (tag : Nat)
  deriving Repr, DecidableEq

/--
One conversion of `ber_scanf`, for the conversions that the proxy's formats
use.  `none` is `rc == LBER_DEFAULT`.
-/
def scanConversion
    (conversion : Char)
    (ber : BerElement) :
    Option (List ScanValue) × BerElement :=
  match conversion with
  | 'a' =>
      let (_, octets, next) := berGetStringa ber
      (octets.map fun octets => [.str octets], next)
  | 'b' | 'e' | 'i' =>
      let (_, num, next) := berGetInt ber
      (num.map fun num => [.int num], next)
  | 't' =>
      let tag := berPeekTag ber
      (if tag = lberDefault then none else some [.tag tag], ber)
  | '{' | '[' =>
      let (tag, next) := berSkipTag ber
      (if tag = lberDefault then none else some [], next)
  | '}' | ']' =>
      (some [], ber)
  | _ =>
      (none, ber)

/--
`ber_scanf`: the conversions in order until one fails.  `none` is the return
value `LBER_ERROR`, after which the strings already stored have been freed.
-/
def berScanf :
    List Char →
      BerElement →
      Option (List ScanValue) × BerElement
  | [], ber =>
      (some [], ber)
  | conversion :: format, ber =>
      match scanConversion conversion ber with
      | (none, next) =>
          (none, next)
      | (some values, next) =>
          match berScanf format next with
          | (none, last) =>
              (none, last)
          | (some more, last) =>
              (some (values ++ more), last)

end LdapProxy.Lber

import LdapProxy.LberDecode

namespace LdapProxy.Lber

/-!
# Encoding of replies

The functions of `liblber/encode.c` that the proxy uses, on the C record in its
encoding phase.  All replies are created by `ldap_data_new` with
`LBER_USE_DER`, so the branch of `ber_put_seqorset` for other elements is not
modelled.  `ber_realloc` is taken to succeed: `ber_buf` is as long as needed.
`none` is the return value `-1`.
-/

/-- `LBER_INTEGER`. -/
def lberInteger : Nat := 0x02

/-- `LBER_ENUMERATED`. -/
def lberEnumerated : Nat := 0x0a

/-- `LBER_OCTETSTRING`. -/
def lberOctetstring : Nat := 0x04

/-- `LBER_SEQUENCE`. -/
def lberSequence : Nat := 0x30

/-- `LBER_SET`. -/
def lberSet : Nat := 0x31

/-- `MAXINT_BERSIZE`: `INT_MAX - HEADER_SIZE`. -/
def maxintBersize : Nat :=
  2147483647 - (8 + 9)

/-- `SOS_LENLEN`: octets reserved for the length of an open sequence. -/
def sosLenlen : Nat := 5

/-- A reply while it is encoded and sent. -/
structure OutElement where
  berTag : Nat
  berBuf : List UInt8
  berPtr : Nat
  berSosPtr : Option Nat
  berSosInner : Nat
  berRwptr : Option Nat
  deriving Repr, DecidableEq

/-- `ber_alloc_t`: nothing written yet. -/
def OutElement.new : OutElement where
  berTag := lberDefault
  berBuf := []
  berPtr := 0
  berSosPtr := none
  berSosInner := 0
  berRwptr := none

/-- The encoded octets up to the last complete element. -/
def OutElement.octets (ber : OutElement) : List UInt8 :=
  ber.berBuf.take ber.berPtr

/-- The `while` loops that prepend the octets of a number. -/
def prependOctets : Nat → Nat → List UInt8 → List UInt8
  | 0, _, octets =>
      octets
  | fuel + 1, value, octets =>
      if value = 0 then
        octets
      else
        prependOctets fuel (value / 256) (UInt8.ofNat value :: octets)

/-- `ber_prepend_tag` -/
def berPrependTag (tag : Nat) : List UInt8 :=
  prependOctets 7 (tag / 256) [UInt8.ofNat tag]

/-- `ber_prepend_len` -/
def berPrependLen (len : Nat) : List UInt8 :=
  if len < 0x80 then
    [UInt8.ofNat len]
  else
    let octets := prependOctets 7 (len / 256) [UInt8.ofNat len]
    UInt8.ofNat (octets.length + 0x80) :: octets

/-- `ber_write`: append at the write cursor. -/
def berWrite (ber : OutElement) (octets : List UInt8) : OutElement :=
  match ber.berSosPtr with
  | none =>
      { ber with
        berBuf := ber.berBuf.take ber.berPtr ++ octets
        berPtr := ber.berPtr + octets.length }
  | some sos =>
      { ber with
        berBuf := ber.berBuf.take sos ++ octets
        berSosPtr := some (sos + octets.length) }

/--
The `for` loop of `ber_put_int_or_enum`: octets until the top bit of the last
one is the sign.
-/
def intOctets : Nat → Nat → UInt8 → List UInt8 → List UInt8
  | 0, _, _, octets =>
      octets
  | fuel + 1, unum, sign, octets =>
      let octets := (sign ^^^ UInt8.ofNat unum) :: octets
      if unum < 0x80 then
        octets
      else
        intOctets fuel (unum / 256) sign octets

/-- The content octets of `ber_put_int_or_enum`. -/
def putIntContents (num : Int) : List UInt8 :=
  let unum := (num % 2 ^ 32).toNat
  if num < 0 then
    intOctets 5 (2 ^ 32 - 1 - unum) 0xff []
  else
    intOctets 5 unum 0 []

/-- `ber_put_int_or_enum` -/
def berPutIntOrEnum
    (ber : OutElement)
    (num : Int)
    (tag : Nat) :
    Option OutElement :=
  let octets := putIntContents num
  some (berWrite ber
    (berPrependTag tag ++ UInt8.ofNat octets.length :: octets))

/-- `ber_put_enum` -/
def berPutEnum (ber : OutElement) (num : Int) (tag : Nat) :
    Option OutElement :=
  berPutIntOrEnum ber num (if tag = lberDefault then lberEnumerated else tag)

/-- `ber_put_int` -/
def berPutInt (ber : OutElement) (num : Int) (tag : Nat) :
    Option OutElement :=
  berPutIntOrEnum ber num (if tag = lberDefault then lberInteger else tag)

/-- `ber_put_ostring` -/
def berPutOstring
    (ber : OutElement)
    (str : List UInt8)
    (tag : Nat) :
    Option OutElement :=
  let tag := if tag = lberDefault then lberOctetstring else tag
  if maxintBersize < str.length then
    none
  else
    let header := berPrependTag tag ++ berPrependLen str.length
    some (berWrite (berWrite ber header) str)

/-- `ber_start_seqorset`: write the tag and reserve the length octets. -/
def berStartSeqorset (ber : OutElement) (tag : Nat) : Option OutElement :=
  let offset :=
    match ber.berSosPtr with
    | none => 0
    | some _ => ber.berSosInner
  let dest := ber.berSosPtr.getD ber.berPtr
  let tagOctets := berPrependTag tag
  if 2 ^ 32 - 1 < offset then
    none
  else
    -- the reserved octets hold the tag length and the enclosing offset
    some { ber with
      berBuf :=
        ber.berBuf.take dest ++ tagOctets ++
          UInt8.ofNat tagOctets.length :: toLittleEndian 4 offset
      berSosPtr := some (dest + tagOctets.length + sosLenlen)
      berSosInner := dest + tagOctets.length }

/-- `ber_start_seq` -/
def berStartSeq (ber : OutElement) (tag : Nat) : Option OutElement :=
  berStartSeqorset ber (if tag = lberDefault then lberSequence else tag)

/-- `ber_start_set` -/
def berStartSet (ber : OutElement) (tag : Nat) : Option OutElement :=
  berStartSeqorset ber (if tag = lberDefault then lberSet else tag)

/-- `ber_put_seqorset`: store the length and close the gap. -/
def berPutSeqorset (ber : OutElement) : Option OutElement :=
  match ber.berSosPtr with
  | none =>
      none
  | some sos =>
      let lenptr := ber.berSosInner
      let xlen := sos - lenptr
      if maxintBersize + sosLenlen < xlen then
        none
      else
        let header := (ber.berBuf.drop lenptr).take sosLenlen
        let len := xlen - sosLenlen
        let lengthOctets := berPrependLen len
        let contents := (ber.berBuf.drop (lenptr + sosLenlen)).take len
        let offset := littleEndian (header.drop 1)
        let sos := lenptr + lengthOctets.length + len
        let closed :=
          { ber with
            berBuf := ber.berBuf.take lenptr ++ lengthOctets ++ contents
            berSosInner := offset }
        if offset = 0 then
          -- the outermost sequence is complete
          some { closed with berPtr := sos, berSosPtr := none }
        else
          some { closed with berSosPtr := some sos }

/-- An argument of `ber_printf`. -/
inductive PrintArg where
  | int (num : Int)
  | tag (tag : Nat)
  | str (octets : List UInt8)
  | berval (octets : List UInt8)
  deriving Repr, DecidableEq

/-- Every conversion but `t` resets the tag for the next element. -/
def resetTag (ber : OutElement) : OutElement :=
  { ber with berTag := lberDefault }

/--
`ber_printf`, for the conversions that the proxy's formats use.  An argument
that does not fit its conversion is treated like an unknown conversion.
-/
def berPrintf :
    List Char →
      List PrintArg →
      OutElement →
      Option OutElement
  | [], _, ber =>
      some ber
  | 'i' :: format, .int num :: args, ber =>
      (berPutInt ber num ber.berTag).bind fun next =>
        berPrintf format args (resetTag next)
  | 'e' :: format, .int num :: args, ber =>
      (berPutEnum ber num ber.berTag).bind fun next =>
        berPrintf format args (resetTag next)
  | 's' :: format, .str octets :: args, ber =>
      (berPutOstring ber octets ber.berTag).bind fun next =>
        berPrintf format args (resetTag next)
  | 'O' :: format, .berval octets :: args, ber =>
      (berPutOstring ber octets ber.berTag).bind fun next =>
        berPrintf format args (resetTag next)
  | 't' :: format, .tag tag :: args, ber =>
      berPrintf format args { ber with berTag := tag }
  | '{' :: format, args, ber =>
      (berStartSeq ber ber.berTag).bind fun next =>
        berPrintf format args (resetTag next)
  | '[' :: format, args, ber =>
      (berStartSet ber ber.berTag).bind fun next =>
        berPrintf format args (resetTag next)
  | '}' :: format, args, ber =>
      (berPutSeqorset ber).bind fun next =>
        berPrintf format args (resetTag next)
  | ']' :: format, args, ber =>
      (berPutSeqorset ber).bind fun next =>
        berPrintf format args (resetTag next)
  | _ :: _, _, _ =>
      none

end LdapProxy.Lber

import LdapProxy.LberEncode

namespace LdapProxy.Lber

open LdapProxy.Ber

/-!
# Reading and writing on a socket

`ber_get_next` and `ber_flush2` of `liblber/io.c` over a non-blocking socket.
While `ber_get_next` fills a record, its pointers go into the record itself:
the first octets of a message are stored across `ber_tag`, `ber_len` and
`ber_usertag`, which are kept here as one block of octets with the layout of a
little-endian 64-bit target.  The retry after `EINTR` in `ber_int_sb_read` and
`ber_int_sb_write` is part of one read or write, and `sb_max_incoming` is zero
because the proxy never sets it.  Assertions that a pointer is not null are
left out: `c->sb` is set before the events of a connection are added.
-/

/-- The failing assertions of the modelled code; each aborts the daemon. -/
inductive Abort where
  /-- `assert( ber->ber_buf == NULL )` in `ber_get_next`. -/
  | bufNotNull
  /-- `assert( 0 )` at the end of `ber_get_next`. -/
  | messedUp
  /-- `lp_assert(fd = c->fd)` -/
  | fdZero
  /-- `lp_assert(op_idx != LP_OP_LAST)` -/
  | opLast
  /-- `lp_assert(tag == LDAP_REQ_BIND)` -/
  | notBind
  /-- `lp_assert(tag == LDAP_REQ_SEARCH)` -/
  | notSearch
  /-- `lp_assert(c->discard != NULL)` -/
  | discardNull
  /-- `lp_assert(task->task_type & LP_TASK_IO_ALL_REG)` -/
  | notRegister
  /-- `abort()` for an unknown task type in `__process_ldap_task`. -/
  | taskType
  /-- `lp_assert(c->conn_active == 0)` -/
  | connActive
  /-- `lp_assert(c->conn_closing == 0)` -/
  | connClosing
  /-- `lp_assert(c->conn_closed == 0)` -/
  | connClosed
  deriving Repr, DecidableEq

/-- The values of `errno` that the callers tell apart. -/
inductive Errno where
  | zero
  | ewouldblock
  | erange
  | other
  deriving Repr, DecidableEq

/-- What the socket has for the next reads, in order. -/
inductive Recv where
  /-- Octets that are there together: a longer read is a short read. -/
  | data (first : UInt8) (rest : List UInt8)
  | wouldBlock
  | eof
  | error
  deriving Repr, DecidableEq

/-- The result of one read. -/
inductive ReadResult where
  | octets (octets : List UInt8)
  | wouldBlock
  | eof
  | error
  deriving Repr, DecidableEq

/--
The receiving side.  `reads` is a history variable: the requested and the
returned number of octets of every read, most recent first.
-/
structure Sock where
  answers : List Recv
  reads : List (Nat × Nat)
  deriving Repr, DecidableEq

/-- What is left of a chunk after a read, in front of later answers. -/
def restOf (octets : List UInt8) (later : List Recv) : List Recv :=
  match octets with
  | [] => later
  | first :: rest => .data first rest :: later

/-- `ber_int_sb_read`: a read of at most `count` octets. -/
def Sock.read (sock : Sock) (count : Nat) : ReadResult × Sock :=
  match sock.answers with
  | [] =>
      (.wouldBlock, { sock with reads := (count, 0) :: sock.reads })
  | .data first rest :: later =>
      let octets := (first :: rest).take count
      (.octets octets,
        { answers := restOf ((first :: rest).drop count) later
          reads := (count, octets.length) :: sock.reads })
  | .wouldBlock :: later =>
      (.wouldBlock,
        { answers := later, reads := (count, 0) :: sock.reads })
  | .eof :: _ =>
      (.eof, { sock with reads := (count, 0) :: sock.reads })
  | .error :: later =>
      (.error, { answers := later, reads := (count, 0) :: sock.reads })

/-- `errno` after a read that returned no octets. -/
def ReadResult.errno : ReadResult → Errno
  | .octets _ => .zero
  | .wouldBlock => .ewouldblock
  | .eof => .zero
  | .error => .other

/-- A pointer of a record that is being filled. -/
inductive Pointer where
  | null
  /-- Into `ber_tag`, `ber_len` and `ber_usertag`, counted from `ber_tag`. -/
  | field (offset : Nat)
  /-- Into `ber_buf`. -/
  | buf (offset : Nat)
  deriving Repr, DecidableEq

/--
A record while `ber_get_next` fills it.  `berBuf` holds the octets stored in
the allocated buffer so far and `berEnd` is its size.
-/
structure RecvElement where
  fields : Memory
  berBuf : Option (List UInt8)
  berEnd : Nat
  berPtr : Pointer
  berRwptr : Pointer

/-- The offset of `ber_len`. -/
def lenField : Nat := 8

/-- The offset of `ber_usertag`, one past `ber_len`. -/
def usertagField : Nat := 16

/-- `LENSIZE` -/
def lensize : Nat := 4

/-- `ber_alloc_t`: all fields zero except the tag. -/
def RecvElement.new : RecvElement where
  fields := Memory.zero.write 0 (toLittleEndian 8 lberDefault)
  berBuf := none
  berEnd := 0
  berPtr := .null
  berRwptr := .null

/-- The value of the `ber_tag` field. -/
def RecvElement.berTag (ber : RecvElement) : Nat :=
  littleEndian (ber.fields.read 0 8)

/-- Outcome of parsing the tag from the octets read so far. -/
inductive TagParse where
  | more
  | tooBig
  | tag (value count : Nat)
  deriving Repr, DecidableEq

/-- The `for` loop over the further octets of a multi-octet tag. -/
def moreTagOctets (tag i : Nat) : List UInt8 → TagParse
  | [] =>
      .more
  | octet :: rest =>
      -- tag <<= 8; tag |= *p++
      let tag := tag * 256 + octet.toNat
      if tag &&& lberMoreTagMask = 0 then
        -- out of octets also when the tag is complete but nothing follows
        if rest.isEmpty then .more else .tag tag (i + 1)
      else if i = 7 then
        .tooBig
      else
        moreTagOctets tag (i + 1) rest

/-- The tag parse of `ber_get_next`, from the first octet of the message. -/
def parseTag : List UInt8 → TagParse
  | [] =>
      .more
  | first :: rest =>
      if first.toNat &&& lberBigTagMask = lberBigTagMask then
        moreTagOctets first.toNat 1 rest
      else
        .tag first.toNat 1

/-- Outcome of parsing the length from the octets after the tag. -/
inductive LengthParse where
  | more
  | tooLong
  | length (tlen count : Nat)
  deriving Repr, DecidableEq

/-- The length parse of `ber_get_next`, from the octet after the tag. -/
def parseLength : List UInt8 → LengthParse
  | [] =>
      .more
  | first :: rest =>
      if first.toNat &&& 0x80 = 0 then
        .length first.toNat 1
      else
        let llen := first.toNat &&& 0x7f
        if lensize < llen then
          .tooLong
        else if rest.length < llen then
          .more
        else
          .length (bigEndian (rest.take llen)) (llen + 1)

/-- What one pass of the header loop does. -/
inductive HeaderStep where
  /-- `return LBER_DEFAULT` -/
  | fail (errno : Errno) (ber : RecvElement)
  /-- `goto done` -/
  | done (ber : RecvElement)
  /-- Test the loop condition again. -/
  | again (ber : RecvElement)

/--
The tag step of one pass, when octets up to field offset `rwptr` are there.
The new `ber_ptr` is an offset into the fields.
-/
def tagStep (ber : RecvElement) (rwptr : Nat) :
    Except Errno (Nat × RecvElement) :=
  match ber.berPtr with
  | .field ptr =>
      if ptr = lenField - 1 then
        match parseTag (ber.fields.read ptr (rwptr - ptr)) with
        | .more =>
            .error .ewouldblock
        | .tooBig =>
            .error .erange
        | .tag value count =>
            -- storing ber_tag overwrites the first octet read
            .ok (ptr + count,
              { ber with
                fields := ber.fields.write 0 (toLittleEndian 8 value)
                berPtr := .field (ptr + count) })
      else
        .ok (ptr, ber)
  | _ =>
      .error .ewouldblock

/--
The rest of a pass, once the length is known to be `tlen` and `ber_ptr` is at
field offset `ptr`: move the octets already read into the buffer.
-/
def fillBuffer (ber : RecvElement) (ptr rwptr tlen : Nat) : HeaderStep :=
  let sblen :=
    if ptr < usertagField then
      if rwptr < usertagField then rwptr - ptr else usertagField - ptr
    else
      0
  let leftover := ber.fields.read ptr sblen
  let ptr := ptr + sblen
  let ber :=
    { ber with
      fields := ber.fields.write lenField (toLittleEndian 8 tlen)
      berPtr := .field ptr }
  if tlen = 0 then
    .fail .erange ber
  else
    match ber.berBuf with
    | some _ =>
        .again ber
    | none =>
        let l := rwptr - ptr
        if tlen < sblen + l then
          .fail .erange ber
        else
          let ber :=
            { fields := ber.fields.write usertagField (toLittleEndian 8 0)
              berBuf := some (leftover ++ ber.fields.read ptr l)
              berEnd := tlen
              berPtr := .buf 0
              berRwptr := ber.berRwptr }
          if sblen + l = tlen then
            .done ber
          else
            .again { ber with berRwptr := .buf (sblen + l) }

/-- One pass of the header loop after `octets` were read at offset `rwptr`. -/
def headerPass
    (ber : RecvElement)
    (rwptr : Nat)
    (octets : List UInt8) :
    HeaderStep :=
  let rw := rwptr + octets.length
  let ber :=
    { ber with
      fields := ber.fields.write rwptr octets
      berRwptr := .field rw }
  match tagStep ber rw with
  | .error errno =>
      .fail errno ber
  | .ok (ptr, ber) =>
      if ptr = rw then
        .fail .ewouldblock ber
      else
        match parseLength (ber.fields.read ptr (rw - ptr)) with
        | .more =>
            .fail .ewouldblock ber
        | .tooLong =>
            .fail .erange ber
        | .length tlen count =>
            fillBuffer ber (ptr + count) rw tlen

/-- What `ber_get_next` returns, with `errno` and the state it leaves. -/
structure NextResult where
  tag : Nat
  errno : Errno
  ber : RecvElement
  sock : Sock

/-- The code after the label `done`. -/
def nextDone (ber : RecvElement) (sock : Sock) : NextResult where
  tag := ber.berTag
  errno := .zero
  ber := { ber with berRwptr := .null }
  sock := sock

/-- `return LBER_DEFAULT` -/
def nextFail
    (errno : Errno)
    (ber : RecvElement)
    (sock : Sock) :
    NextResult where
  tag := lberDefault
  errno := errno
  ber := ber
  sock := sock

/-- The part of `ber_get_next` after the header loop: read the body. -/
def readBody (sock : Sock) (ber : RecvElement) :
    Except Abort NextResult :=
  match ber.berRwptr, ber.berBuf with
  | .buf rwptr, some stored =>
      if rwptr < ber.berEnd then
        let toGo := ber.berEnd - rwptr
        match sock.read toGo with
        | (.octets octets, sock) =>
            let ber :=
              { ber with
                berBuf := some (stored.take rwptr ++ octets)
                berRwptr := .buf (rwptr + octets.length) }
            if octets.length < toGo then
              .ok (nextFail .ewouldblock ber sock)
            else
              .ok (nextDone ber sock)
        | (failed, sock) =>
            .ok (nextFail failed.errno ber sock)
      else
        .error .messedUp
  | _, _ =>
      .error .messedUp

/--
The header loop.  `ber_rwptr` grows with every pass, so sixteen passes are
more than the loop condition allows.
-/
def headerLoop : Nat → Sock → RecvElement → Except Abort NextResult
  | 0, sock, ber =>
      readBody sock ber
  | fuel + 1, sock, ber =>
      match ber.berRwptr with
      | .field rwptr =>
          if 0 < rwptr ∧ rwptr < usertagField then
            -- at most eight header octets, then one more
            match sock.read (max 1 (usertagField - 1 - rwptr)) with
            | (.octets octets, sock) =>
                match headerPass ber rwptr octets with
                | .fail errno ber =>
                    .ok (nextFail errno ber sock)
                | .done ber =>
                    .ok (nextDone ber sock)
                | .again ber =>
                    headerLoop fuel sock ber
            | (failed, sock) =>
                .ok (nextFail failed.errno ber sock)
          else
            readBody sock ber
      | _ =>
          readBody sock ber

/-- `ber_get_next` -/
def berGetNext (sock : Sock) (ber : RecvElement) :
    Except Abort NextResult :=
  match ber.berRwptr, ber.berBuf with
  | .null, some _ =>
      .error .bufNotNull
  | .null, none =>
      headerLoop 16 sock
        { ber with
          fields := ber.fields.write 0 (toLittleEndian 8 0)
          berPtr := .field (lenField - 1)
          berRwptr := .field (lenField - 1) }
  | _, _ =>
      headerLoop 16 sock ber

/-- The record handed on for decoding once `ber_get_next` returned its tag. -/
def RecvElement.toElement (ber : RecvElement) : BerElement where
  berTag := ber.berTag
  berBuf := ber.berBuf.getD []
  berPtr := 0

/-- What the socket does with the next writes, in order. -/
inductive Send where
  /-- Accept `more + 1` octets, or all that are offered when these are fewer. -/
  | accept (more : Nat)
  | wouldBlock
  | error
  deriving Repr, DecidableEq

/--
The sending side.  `accepted` is a history variable: every octet the socket
has taken, in order.
-/
structure Wire where
  answers : List Send
  accepted : List UInt8
  deriving Repr, DecidableEq

/-- The result of `ber_flush2`, with `errno` and the state it leaves. -/
structure FlushResult where
  complete : Bool
  errno : Errno
  ber : OutElement
  wire : Wire

/-- The `while` loop of `ber_flush2`, from the write cursor `rwptr` on. -/
def flushLoop (ber : OutElement) (accepted : List UInt8) (rwptr : Nat) :
    List Send → FlushResult
  | answers =>
      if ber.berPtr ≤ rwptr then
        { complete := true
          errno := .zero
          ber := { ber with berRwptr := some rwptr }
          wire := { answers := answers, accepted := accepted } }
      else
        match answers with
        | [] =>
            { complete := false
              errno := .ewouldblock
              ber := { ber with berRwptr := some rwptr }
              wire := { answers := [], accepted := accepted } }
        | .accept more :: later =>
            let rc := min (more + 1) (ber.berPtr - rwptr)
            flushLoop ber
              (accepted ++ (ber.berBuf.drop rwptr).take rc)
              (rwptr + rc) later
        | .wouldBlock :: later =>
            { complete := false
              errno := .ewouldblock
              ber := { ber with berRwptr := some rwptr }
              wire := { answers := later, accepted := accepted } }
        | .error :: later =>
            { complete := false
              errno := .other
              ber := { ber with berRwptr := some rwptr }
              wire := { answers := later, accepted := accepted } }

/-- `ber_flush2` with `LBER_FLUSH_FREE_NEVER`. -/
def berFlush2 (wire : Wire) (ber : OutElement) : FlushResult :=
  flushLoop ber wire.accepted (ber.berRwptr.getD 0) wire.answers

end LdapProxy.Lber

import LdapProxy.BerOctets
import LdapProxy.ReadLoop

namespace LdapProxy

open LdapProxy.Ber
open LdapProxy.Lber

/-!
# Framing of a stream of messages

A client sends a concatenation of elements, possibly cut off at its end, and
the socket delivers it in pieces.  Whatever the pieces are, the read events
append the contents of the complete elements and keep the octets of the last
one, and no event ends while octets may be left unread behind a full read.
-/

/-- One element of the stream, with at most four length octets. -/
structure StreamElement where
  contents : List UInt8
  octets : List UInt8
  nonempty : contents ≠ []
  encoded : Element 4 0x30 contents octets

/-- The octets of a list of elements. -/
def streamOctets (elements : List StreamElement) : List UInt8 :=
  elements.flatMap StreamElement.octets

/--
Every element that is followed by further octets of the stream has at least
eight octets.
-/
def LongElements
    (elements : List StreamElement)
    (stream : List UInt8) :
    Prop :=
  ∀ before element after,
    elements = before ++ element :: after →
    (streamOctets before).length + element.octets.length < stream.length →
    8 ≤ element.octets.length

/-- The octets that the socket delivers. -/
def octetsOf : List Recv → List UInt8
  | [] =>
      []
  | .data first rest :: later =>
      first :: rest ++ octetsOf later
  | _ :: later =>
      octetsOf later

/-- The socket delivers octets or blocks: neither end of file nor error. -/
def Delivers (answers : List Recv) : Prop :=
  ∀ answer ∈ answers, answer ≠ .eof ∧ answer ≠ .error

/-- The last read returned fewer octets than it asked for. -/
def ShortRead (sock : Sock) : Prop :=
  ∃ count returned earlier,
    sock.reads = (count, returned) :: earlier ∧ returned < count

/-- The rest of a chunk is delivered before the later answers. -/
theorem octetsOf_restOf
    (octets : List UInt8)
    (later : List Recv) :
    octetsOf (restOf octets later) = octets ++ octetsOf later := by
  cases octets with
  | nil =>
      rfl
  | cons first rest =>
      rfl

/-- What a read returns on a socket that delivers. -/
theorem read_delivers
    {sock : Sock}
    (delivers : Delivers sock.answers)
    {count : Nat}
    (positive : 0 < count) :
    (∃ octets after,
      sock.read count = (.octets octets, after) ∧
        octetsOf sock.answers = octets ++ octetsOf after.answers ∧
        0 < octets.length ∧
        octets.length ≤ count ∧
        Delivers after.answers ∧
        after.reads = (count, octets.length) :: sock.reads) ∨
      ∃ after,
        sock.read count = (.wouldBlock, after) ∧
          octetsOf after.answers = octetsOf sock.answers ∧
          Delivers after.answers ∧
          ShortRead after := by
  obtain ⟨answers, reads⟩ := sock
  cases answers with
  | nil =>
      exact .inr ⟨_, rfl, rfl, delivers, count, 0, reads, rfl, positive⟩
  | cons answer later =>
      have deliversLater : Delivers later := by
        intro other member
        exact delivers other (List.mem_cons_of_mem _ member)
      cases answer with
      | data first rest =>
          refine .inl
            ⟨(first :: rest).take count, _, rfl, ?_, ?_, ?_, ?_, rfl⟩
          · rw [octetsOf_restOf, ← List.append_assoc,
              List.take_append_drop]
            rfl
          · rw [List.length_take, List.length_cons]
            omega
          · rw [List.length_take]
            omega
          · intro other member
            cases remaining : (first :: rest).drop count with
            | nil =>
                simp only [remaining, restOf] at member
                exact deliversLater other member
            | cons next tail =>
                simp only [remaining, restOf, List.mem_cons] at member
                rcases member with rfl | inLater
                · simp
                · exact deliversLater other inLater
      | wouldBlock =>
          exact .inr
            ⟨_, rfl, rfl, deliversLater, count, 0, reads, rfl, positive⟩
      | eof =>
          have excluded := delivers .eof (List.mem_cons_self ..)
          exact (excluded.1 rfl).elim
      | error =>
          have excluded := delivers .error (List.mem_cons_self ..)
          exact (excluded.2 rfl).elim

/-- The length octets are read whole. -/
theorem parseLength_of_lengthOctets
    {octets : List UInt8}
    {length : Nat}
    (encoded : LengthOctets 4 octets length)
    (rest : List UInt8) :
    parseLength (octets ++ rest) = .length length octets.length := by
  cases encoded with
  | short octet isShort =>
      have bits := lengthOctet_bits ⟨octet.toNat, octet.toNat_lt⟩
      simp only [List.singleton_append, parseLength, List.length_singleton]
      rw [if_pos (bits.1.mpr isShort)]
  | long count octets isLong nonempty fits =>
      have bits := lengthOctet_bits ⟨count.toNat, count.toNat_lt⟩
      have amount : count.toNat &&& 0x7f = octets.length := by
        rw [bits.2]
        simp only
        omega
      have notShort : ¬ count.toNat &&& 0x80 = 0 := by
        rw [bits.1]
        simp only
        omega
      have notTooLong : ¬ lensize < octets.length := by
        unfold lensize
        omega
      simp only [List.cons_append, parseLength, notShort, amount,
        notTooLong, if_false, List.length_cons]
      rw [if_neg (by rw [List.length_append]; omega), List.take_left]

/-- With length octets missing, more are needed. -/
theorem parseLength_prefix
    {octets : List UInt8}
    {length : Nat}
    (encoded : LengthOctets 4 octets length)
    {held : List UInt8}
    (start : held <+: octets)
    (short : held.length < octets.length) :
    parseLength held = .more := by
  cases held with
  | nil =>
      rfl
  | cons first rest =>
      cases encoded with
      | short octet isShort =>
          simp at short
      | long count octets isLong nonempty fits =>
          obtain ⟨rfl, -⟩ := List.cons_prefix_cons.mp start
          have bits := lengthOctet_bits ⟨first.toNat, first.toNat_lt⟩
          have amount : first.toNat &&& 0x7f = octets.length := by
            rw [bits.2]
            simp only
            omega
          have notShort : ¬ first.toNat &&& 0x80 = 0 := by
            rw [bits.1]
            simp only
            omega
          have notTooLong : ¬ lensize < octets.length := by
            unfold lensize
            omega
          simp only [List.length_cons] at short
          simp only [parseLength, notShort, amount, notTooLong, if_false]
          rw [if_pos (by omega)]

/-- Length octets are one to five. -/
theorem lengthOctets_length
    {octets : List UInt8}
    {length : Nat}
    (encoded : LengthOctets 4 octets length) :
    1 ≤ octets.length ∧ octets.length ≤ 5 := by
  cases encoded with
  | short octet isShort =>
      simp
  | long count octets isLong nonempty fits =>
      simp only [List.length_cons]
      omega

/-- An element is its header and its contents. -/
theorem StreamElement.header
    (element : StreamElement) :
    ∃ header,
      2 ≤ header ∧
        header ≤ 6 ∧
        element.octets.length = header + element.contents.length ∧
        element.octets.drop header = element.contents ∧
        (∀ held, held <+: element.octets → held.length < header →
          headerOf held = .more) ∧
        ∀ held rest, held <+: element.octets ++ rest →
          header ≤ held.length →
          headerOf held =
            .complete ldapTagMessage header element.contents.length := by
  obtain ⟨lengthOctets, encoded, octets⟩ := element.encoded
  have bounds := lengthOctets_length encoded
  have positive : element.contents.length ≠ 0 := by
    simpa using element.nonempty
  have header : headerOf (0x30 :: lengthOctets) =
      .complete ldapTagMessage (1 + lengthOctets.length)
        element.contents.length := by
    have parsed := parseLength_of_lengthOctets encoded []
    rw [List.append_nil] at parsed
    simp only [headerOf, parseTag]
    rw [if_neg (by decide)]
    simp only [List.drop_succ_cons, List.drop_zero, parsed, positive,
      if_false]
    rfl
  refine ⟨1 + lengthOctets.length, by omega, by omega, ?_, ?_, ?_, ?_⟩
  · rw [octets]
    simp only [List.cons_append, List.length_cons, List.length_append]
    omega
  · rw [octets]
    simp [Nat.add_comm]
  · intro held start short
    rw [octets] at start
    cases held with
    | nil =>
        rfl
    | cons first rest =>
        rw [List.cons_append] at start
        obtain ⟨rfl, restStart⟩ := List.cons_prefix_cons.mp start
        simp only [List.length_cons] at short
        have inLength : rest <+: lengthOctets :=
          List.prefix_of_prefix_length_le restStart
            (List.prefix_append _ _) (by omega)
        have parsed := parseLength_prefix encoded inLength (by omega)
        simp only [headerOf, parseTag]
        rw [if_neg (by decide)]
        simp only [List.drop_succ_cons, List.drop_zero, parsed]
  · intro held rest start long
    have whole : 0x30 :: lengthOctets <+: held := by
      refine List.prefix_of_prefix_length_le ?_ start ?_
      · rw [octets, List.append_assoc]
        exact List.prefix_append _ _
      · simp only [List.length_cons]
        omega
    obtain ⟨more, rfl⟩ := whole
    exact headerOf_append header more

/-- What one step of the framing machine does inside an element. -/
inductive StreamStep
    (element : StreamElement)
    (stream : List UInt8) :
    Framed × Sock → Prop where
  | wait (held : List UInt8) (sock : Sock) :
      held ++ octetsOf sock.answers = stream →
      held.length < element.octets.length →
      Delivers sock.answers →
      ShortRead sock →
      StreamStep element stream (.wait held, sock)
  | message (sock : Sock) :
      element.octets ++ octetsOf sock.answers = stream →
      Delivers sock.answers →
      StreamStep element stream
        (.message ldapTagMessage element.contents, sock)

/-- Reading the body of an element waits for it or completes it. -/
theorem frameBody_stream
    {element : StreamElement}
    {header : Nat}
    (size : element.octets.length = header + element.contents.length)
    (contents : element.octets.drop header = element.contents)
    {held later : List UInt8}
    {sock : Sock}
    (delivers : Delivers sock.answers)
    (start : held ++ octetsOf sock.answers <+: element.octets ++ later)
    (short : held.length < element.octets.length) :
    StreamStep element (held ++ octetsOf sock.answers)
      (frameBody held ldapTagMessage header element.contents.length
        sock) := by
  have toGo : header + element.contents.length - held.length =
      element.octets.length - held.length := by omega
  simp only [frameBody, toGo]
  have missing : 0 < element.octets.length - held.length := by omega
  rcases read_delivers delivers missing with
    ⟨octets, after, answered, taken, some, fits, deliversAfter, reads⟩ |
    ⟨after, answered, taken, deliversAfter, shortRead⟩
  · rw [answered, taken, ← List.append_assoc]
    rw [taken, ← List.append_assoc] at start
    by_cases missing : octets.length < element.octets.length - held.length
    · simp only [missing, if_true]
      exact .wait _ after rfl (by rw [List.length_append]; omega)
        deliversAfter ⟨_, _, _, reads, missing⟩
    · simp only [missing, if_false]
      have size : (held ++ octets).length = element.octets.length := by
        rw [List.length_append]
        omega
      have whole : held ++ octets = element.octets := by
        have inElement : held ++ octets <+: element.octets :=
          List.prefix_of_prefix_length_le
            ((List.prefix_append _ _).trans start)
            (List.prefix_append _ _) (le_of_eq size)
        exact inElement.eq_of_length size
      rw [whole, contents]
      exact .message after rfl deliversAfter
  · rw [answered, ← taken]
    exact .wait held after rfl short deliversAfter shortRead

/-- A step of the framing machine stays inside its element. -/
theorem nextMessage_stream
    {element : StreamElement}
    {held later : List UInt8}
    {sock : Sock}
    (delivers : Delivers sock.answers)
    (start : held ++ octetsOf sock.answers <+: element.octets ++ later)
    (short : held.length < element.octets.length)
    (long :
      element.octets.length < (held ++ octetsOf sock.answers).length →
      8 ≤ element.octets.length) :
    StreamStep element (held ++ octetsOf sock.answers)
      (nextMessage held sock) := by
  obtain ⟨header, atLeast, atMost, size, contents, unfinished,
    finished⟩ := element.header
  have heldStart : held <+: element.octets ++ later :=
    (List.prefix_append _ _).trans start
  unfold nextMessage
  by_cases inHeader : held.length < header
  · have inElement : held <+: element.octets :=
      List.prefix_of_prefix_length_le heldStart
        (List.prefix_append _ _) (by omega)
    rw [unfinished held inElement inHeader]
    simp only
    rw [if_neg (by omega)]
    have request : max 1 (8 - held.length) = 8 - held.length := by omega
    rw [request]
    have wanted : 0 < 8 - held.length := by omega
    rcases read_delivers delivers wanted with
      ⟨octets, after, answered, taken, some, fits, deliversAfter, reads⟩ |
      ⟨after, answered, taken, deliversAfter, shortRead⟩
    · rw [answered, taken, ← List.append_assoc]
      rw [taken, ← List.append_assoc] at start long
      have nowLength : (held ++ octets).length =
          held.length + octets.length := List.length_append
      have nowStart : held ++ octets <+: element.octets ++ later :=
        (List.prefix_append _ _).trans start
      -- octets behind the element are only there when it has eight
      have noMore : (held ++ octets).length ≤ element.octets.length := by
        by_contra more
        have eight := long (by
          rw [List.length_append]
          omega)
        omega
      simp only [frameHeader]
      generalize held ++ octets = now at *
      by_cases still : now.length < header
      · have inElementNow : now <+: element.octets :=
          List.prefix_of_prefix_length_le nowStart
            (List.prefix_append _ _) noMore
        rw [unfinished now inElementNow still]
        exact .wait now after rfl (by omega) deliversAfter
          ⟨_, _, _, reads, by omega⟩
      · rw [finished now later nowStart (by omega)]
        simp only [← size]
        rw [if_neg (by omega)]
        by_cases complete : now.length = element.octets.length
        · rw [if_pos complete]
          have whole : now = element.octets :=
            (List.prefix_of_prefix_length_le nowStart
              (List.prefix_append _ _) noMore).eq_of_length complete
          rw [whole, contents]
          exact .message after rfl deliversAfter
        · rw [if_neg complete]
          exact frameBody_stream size contents deliversAfter start
            (by omega)
    · rw [answered, ← taken]
      exact .wait held after rfl short deliversAfter shortRead
  · rw [finished held later heldStart (by omega)]
    exact frameBody_stream size contents delivers start short

/-- Without an element there is nothing to read. -/
theorem nextMessage_drained
    {sock : Sock}
    (delivers : Delivers sock.answers)
    (drained : octetsOf sock.answers = []) :
    ∃ after,
      nextMessage [] sock = (.wait [], after) ∧
        octetsOf after.answers = [] ∧
        Delivers after.answers ∧
        ShortRead after := by
  have wanted : 0 < 8 := by omega
  rcases read_delivers delivers wanted with
    ⟨octets, after, answered, taken, some, -⟩ |
    ⟨after, answered, taken, deliversAfter, shortRead⟩
  · rw [drained] at taken
    have none := List.append_eq_nil_iff.mp taken.symm
    rw [none.1] at some
    simp at some
  · refine ⟨after, ?_, by rw [taken, drained], deliversAfter, shortRead⟩
    have header : headerOf [] = .more := rfl
    have short : ¬ 9 ≤ ([] : List UInt8).length := by simp
    have eight : max 1 (8 - ([] : List UInt8).length) = 8 := rfl
    simp only [nextMessage, header, if_neg short, eight, answered]
    rfl

/-- Where the reading of a stream stands. -/
structure Progress
    (elements : List StreamElement)
    (held : List UInt8)
    (sock : Sock) : Prop where
  delivers : Delivers sock.answers
  start : held ++ octetsOf sock.answers <+: streamOctets elements
  unfinished :
    ∀ element after, elements = element :: after →
      held.length < element.octets.length
  drained : elements = [] → held = []
  long : LongElements elements (held ++ octetsOf sock.answers)

/-- An element is not empty. -/
theorem StreamElement.octets_pos
    (element : StreamElement) :
    0 < element.octets.length := by
  obtain ⟨header, atLeast, -, size, -⟩ := element.header
  omega

/-- Behind a complete element the reading stands at the next one. -/
theorem Progress.next
    {element : StreamElement}
    {after : List StreamElement}
    {held : List UInt8}
    {sock later : Sock}
    (progress : Progress (element :: after) held sock)
    (delivers : Delivers later.answers)
    (taken :
      element.octets ++ octetsOf later.answers =
        held ++ octetsOf sock.answers) :
    Progress after [] later where
  delivers := delivers
  start := by
    have start := progress.start
    rw [← taken] at start
    simpa [streamOctets] using start
  unfinished := by
    intro next rest _
    exact next.octets_pos
  drained := fun _ => rfl
  long := by
    intro before next rest split shorter
    refine progress.long (element :: before) next rest ?_ ?_
    · rw [split]
      rfl
    · rw [← taken]
      simp only [streamOctets, List.flatMap_cons, List.length_append,
        List.nil_append] at shorter ⊢
      omega

/-- A step that waits stays at the same element. -/
theorem Progress.stay
    {elements : List StreamElement}
    {held heldAfter : List UInt8}
    {sock later : Sock}
    (progress : Progress elements held sock)
    (delivers : Delivers later.answers)
    (taken :
      heldAfter ++ octetsOf later.answers =
        held ++ octetsOf sock.answers)
    (unfinished :
      ∀ element after, elements = element :: after →
        heldAfter.length < element.octets.length)
    (drained : elements = [] → heldAfter = []) :
    Progress elements heldAfter later where
  delivers := delivers
  start := by
    rw [taken]
    exact progress.start
  unfinished := unfinished
  drained := drained
  long := by
    rw [taken]
    exact progress.long

/-- One step stays at its element or completes it. -/
theorem Progress.step
    {elements : List StreamElement}
    {held : List UInt8}
    {sock : Sock}
    (progress : Progress elements held sock) :
    (∃ heldAfter after,
      nextMessage held sock = (.wait heldAfter, after) ∧
        Progress elements heldAfter after ∧
        heldAfter ++ octetsOf after.answers =
          held ++ octetsOf sock.answers ∧
        ShortRead after) ∨
      ∃ element rest after,
        elements = element :: rest ∧
          nextMessage held sock =
            (.message ldapTagMessage element.contents, after) ∧
          Progress rest [] after ∧
          element.octets ++ octetsOf after.answers =
            held ++ octetsOf sock.answers := by
  cases elements with
  | nil =>
      have nothing := progress.drained rfl
      subst nothing
      have drained : octetsOf sock.answers = [] := by
        simpa [streamOctets] using progress.start
      obtain ⟨after, stepped, drainedAfter, delivers, shortRead⟩ :=
        nextMessage_drained progress.delivers drained
      have taken : [] ++ octetsOf after.answers =
          [] ++ octetsOf sock.answers := by
        rw [drainedAfter, drained]
      exact .inl ⟨[], after, stepped,
        progress.stay delivers taken progress.unfinished progress.drained,
        taken, shortRead⟩
  | cons element rest =>
      have start : held ++ octetsOf sock.answers <+:
          element.octets ++ streamOctets rest := by
        simpa [streamOctets] using progress.start
      have long (more :
          element.octets.length < (held ++ octetsOf sock.answers).length) :
          8 ≤ element.octets.length :=
        progress.long [] element rest rfl (by simpa [streamOctets] using more)
      have stepped := nextMessage_stream progress.delivers start
        (progress.unfinished element rest rfl) long
      generalize next : nextMessage held sock = framed at stepped
      cases stepped with
      | wait heldAfter after taken short delivers shortRead =>
          refine .inl ⟨heldAfter, after, rfl, ?_, taken, shortRead⟩
          refine progress.stay delivers taken ?_ (by simp)
          intro other later same
          simp only [List.cons.injEq] at same
          rw [← same.1]
          exact short
      | message after taken delivers =>
          exact .inr ⟨element, rest, after, rfl, rfl,
            progress.next delivers taken, taken⟩

/-- The octets that are still to be read are counted by `available`. -/
theorem length_octetsOf (answers : List Recv) :
    (octetsOf answers).length = available answers := by
  induction answers with
  | nil =>
      rfl
  | cons answer later inductionHypothesis =>
      cases answer with
      | data first rest =>
          simp only [octetsOf, available, List.length_append,
            List.length_cons, inductionHypothesis]
      | wouldBlock =>
          exact inductionHypothesis
      | eof =>
          exact inductionHypothesis
      | error =>
          exact inductionHypothesis

/--
What reading a stream has done: these elements are complete, the octets held
belong to the next one, and nothing of the stream is lost.
-/
structure Collected
    (elements : List StreamElement)
    (stream : List UInt8)
    (done : List StreamElement)
    (held : List UInt8)
    (sock : Sock) : Prop where
  split : ∃ rest, elements = done ++ rest ∧ Progress rest held sock
  taken : streamOctets done ++ held ++ octetsOf sock.answers = stream

/-- One read event collects elements and waits inside the next one. -/
theorem frameAll_stream
    {elements : List StreamElement}
    {held : List UInt8}
    {sock : Sock}
    (progress : Progress elements held sock)
    (fuel : Nat)
    (enough : available sock.answers ≤ fuel) :
    ∃ done heldAfter,
      (frameAll fuel held sock).messages =
          done.map StreamElement.contents ∧
        (frameAll fuel held sock).ending = .wait heldAfter ∧
        Collected elements (held ++ octetsOf sock.answers) done heldAfter
          (frameAll fuel held sock).sock ∧
        ShortRead (frameAll fuel held sock).sock := by
  induction fuel generalizing elements held sock with
  | zero =>
      rcases progress.step with
        ⟨heldAfter, after, stepped, progressAfter, taken, shortRead⟩ |
        ⟨element, rest, after, rfl, stepped, progressAfter, taken⟩
      · refine ⟨[], heldAfter, ?_⟩
        unfold frameAll
        simp only [stepped]
        exact ⟨rfl, trivial, ⟨⟨elements, rfl, progressAfter⟩, taken⟩,
          shortRead⟩
      · -- a complete element needs octets that are not there
        have unread := length_octetsOf sock.answers
        have short := progress.unfinished element rest rfl
        have lengths := congrArg List.length taken
        simp only [List.length_append] at lengths
        omega
  | succ fuel inductionHypothesis =>
      rcases progress.step with
        ⟨heldAfter, after, stepped, progressAfter, taken, shortRead⟩ |
        ⟨element, rest, after, rfl, stepped, progressAfter, taken⟩
      · refine ⟨[], heldAfter, ?_⟩
        unfold frameAll
        simp only [stepped]
        exact ⟨rfl, trivial, ⟨⟨elements, rfl, progressAfter⟩, taken⟩,
          shortRead⟩
      · have fewer : available after.answers ≤ fuel := by
          have unread := length_octetsOf sock.answers
          have unreadAfter := length_octetsOf after.answers
          have short := progress.unfinished element rest rfl
          have lengths := congrArg List.length taken
          simp only [List.length_append] at lengths
          omega
        obtain ⟨done, heldAfter, messages, ending,
          ⟨⟨remaining, split, progressLater⟩, takenLater⟩, shortRead⟩ :=
          inductionHypothesis progressAfter fewer
        refine ⟨element :: done, heldAfter, ?_⟩
        unfold frameAll
        simp only [stepped, if_true]
        refine ⟨?_, ending, ⟨⟨remaining, ?_, progressLater⟩, ?_⟩,
          shortRead⟩
        · simp [Frames.push, messages]
        · rw [split]
          rfl
        · rw [← taken]
          simp only [List.nil_append] at takenLater
          rw [← takenLater]
          simp [streamOctets, Frames.push]

/--
Call `__ldap_read` for one read event after the other, and keep the state and
the returned value of each.
-/
def readEvents :
    Nat → Connection → Process → Sock →
      Except Abort (List Int × Connection × Process × Sock)
  | 0, c, p, sock =>
      .ok ([], c, p, sock)
  | events + 1, c, p, sock =>
      match ldapRead c p sock with
      | .error abort =>
          .error abort
      | .ok (ret, c, p, sock) =>
          match readEvents events c p sock with
          | .error abort =>
              .error abort
          | .ok (rets, c, p, sock) =>
              .ok (ret :: rets, c, p, sock)

/-- One read event on a stream, from any point of an element. -/
theorem ldapRead_stream
    {elements : List StreamElement}
    {held : List UInt8}
    {c : Connection}
    {sock : Sock}
    (holding : c.Holding held)
    (progress : Progress elements held sock)
    (p : Process) :
    ∃ done heldAfter requests curData datas after,
      ldapRead c p sock =
          .ok (1, c.received requests curData, { p with datas := datas },
            after) ∧
        requests.map LdapData.ber =
          done.map (messageElement ∘ StreamElement.contents) ∧
        (c.received requests curData).Holding heldAfter ∧
        Collected elements (held ++ octetsOf sock.answers) done heldAfter
          after ∧
        ShortRead after := by
  have called := ldapRead_spec holding p sock
  obtain ⟨done, heldAfter, messages, ending, collected, shortRead⟩ :=
    frameAll_stream progress (available sock.answers) le_rfl
  generalize ldapRead c p sock = outcome at called
  unfold frameEvent at called
  cases called with
  | stuck stuck =>
      rw [stuck] at ending
      cases ending
  | failed requests datas failed received =>
      rw [failed] at ending
      cases ending
  | wait held requests data datas waits received holds =>
      rw [waits, ReadEnd.wait.injEq] at ending
      subst ending
      refine ⟨done, held, requests, some data, datas, _, rfl, ?_,
        .inr ⟨data, rfl, holds⟩, collected, shortRead⟩
      rw [received, messages, List.map_map]

end LdapProxy

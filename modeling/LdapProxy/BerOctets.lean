import Mathlib.Tactic

namespace LdapProxy.Ber

/-!
# Octets of the Basic Encoding Rules

Numbers, lengths and definite-length elements as octet strings, independent of
any reader or writer.  `Element` is the grammar of one element with a
single-octet tag; `decodeElement` is the strict reader of that grammar, and
`decodeElement_of_element` states that it recovers tag and contents.
-/

/-- The value of octets stored most significant first. -/
def bigEndian (octets : List UInt8) : Nat :=
  octets.foldl (fun value octet => value * 256 + octet.toNat) 0

@[simp] theorem bigEndian_nil : bigEndian [] = 0 :=
  rfl

/-- Appending one octet shifts the value by eight bits. -/
theorem bigEndian_concat
    (octets : List UInt8)
    (octet : UInt8) :
    bigEndian (octets ++ [octet]) =
      bigEndian octets * 256 + octet.toNat := by
  simp [bigEndian]

/-- The octets in front of an octet string count in its base. -/
theorem bigEndian_append
    (first second : List UInt8) :
    bigEndian (first ++ second) =
      bigEndian first * 256 ^ second.length + bigEndian second := by
  induction second using List.reverseRecOn with
  | nil =>
      simp
  | append_singleton rest octet inductionHypothesis =>
      rw [← List.append_assoc, bigEndian_concat, bigEndian_concat,
        inductionHypothesis, List.length_append, List.length_singleton,
        Nat.pow_succ]
      ring

/-- The head octet is the most significant one. -/
theorem bigEndian_cons
    (octet : UInt8)
    (rest : List UInt8) :
    bigEndian (octet :: rest) =
      octet.toNat * 256 ^ rest.length + bigEndian rest := by
  have split := bigEndian_append [octet] rest
  simpa [bigEndian] using split

/-- A value fits in its octets. -/
theorem bigEndian_lt (octets : List UInt8) :
    bigEndian octets < 256 ^ octets.length := by
  induction octets using List.reverseRecOn with
  | nil =>
      simp
  | append_singleton rest octet inductionHypothesis =>
      rw [bigEndian_concat, List.length_append, List.length_singleton,
        Nat.pow_succ]
      have octetBound := octet.toNat_lt
      omega

/-- The value of octets as a two's complement integer. -/
def twosComplement : List UInt8 → Int
  | [] =>
      0
  | first :: rest =>
      if first.toNat < 128 then
        bigEndian (first :: rest)
      else
        bigEndian (first :: rest) - 256 ^ (rest.length + 1)

/-- At most four octets hold a number of 32 bits. -/
theorem twosComplement_small
    {octets : List UInt8}
    (short : octets.length ≤ 4) :
    -2 ^ 31 ≤ twosComplement octets ∧ twosComplement octets < 2 ^ 31 := by
  cases octets with
  | nil =>
      decide
  | cons first rest =>
      have firstBound := first.toNat_lt
      have restBound := bigEndian_lt rest
      have room : rest.length ≤ 3 := Nat.le_of_succ_le_succ short
      have power : (256 : Nat) ^ rest.length ≤ 256 ^ 3 :=
        Nat.pow_le_pow_right (by decide) room
      simp only [twosComplement, bigEndian_cons, pow_succ]
      push_cast
      zify at firstBound restBound power
      split
      · next positive =>
          have octet : (first.toNat : Int) ≤ 127 := by omega
          constructor
          · have nonnegative :
                (0 : Int) ≤
                  first.toNat * 256 ^ rest.length + bigEndian rest := by
              positivity
            linarith
          · nlinarith
      · next negative =>
          have octet : (128 : Int) ≤ first.toNat := by omega
          constructor
          · nlinarith
          · nlinarith

/--
`octets` encode the definite length `length`: in the short form, or in the long
form with `1` to `limit` length octets, not necessarily as few as possible.
-/
inductive LengthOctets (limit : Nat) : List UInt8 → Nat → Prop where
  | short
      (octet : UInt8) :
      octet.toNat < 128 →
      LengthOctets limit [octet] octet.toNat
  | long
      (count : UInt8)
      (octets : List UInt8) :
      count.toNat = 128 + octets.length →
      octets ≠ [] →
      octets.length ≤ limit →
      LengthOctets limit (count :: octets) (bigEndian octets)

/-- The two bit tests that tell the forms of a length octet apart. -/
theorem lengthOctet_bits (octet : Fin 256) :
    (octet.val &&& 0x80 = 0 ↔ octet.val < 128) ∧
      octet.val &&& 0x7f = octet.val % 128 := by
  decide +revert +kernel

/-- Read a definite length with at most eight length octets. -/
def decodeLength : List UInt8 → Option (Nat × List UInt8)
  | [] =>
      none
  | first :: rest =>
      if first.toNat < 128 then
        some (first.toNat, rest)
      else
        let count := first.toNat - 128
        if count = 0 ∨ 8 < count ∨ rest.length < count then
          none
        else
          some (bigEndian (rest.take count), rest.drop count)

/-- Reading the encoding of a length returns it and what follows. -/
theorem decodeLength_of_lengthOctets
    {octets : List UInt8}
    {length : Nat}
    (encoded : LengthOctets 8 octets length)
    (rest : List UInt8) :
    decodeLength (octets ++ rest) = some (length, rest) := by
  cases encoded with
  | short octet isShort =>
      simp [decodeLength, isShort]
  | long count octets isLong nonempty fits =>
      have positive : 0 < octets.length :=
        List.length_pos_iff.mpr nonempty
      have notShort : ¬ count.toNat < 128 := by omega
      have amount : count.toNat - 128 = octets.length := by omega
      have readable :
          ¬ (octets.length = 0 ∨ 8 < octets.length ∨
            (octets ++ rest).length < octets.length) := by
        rw [List.length_append]
        omega
      simp only [List.cons_append, decodeLength, notShort, if_false, amount,
        readable, List.take_left, List.drop_left]

/-- `octets` are one element with this tag octet and these contents. -/
def Element
    (limit : Nat)
    (tag : UInt8)
    (contents octets : List UInt8) : Prop :=
  ∃ lengthOctets,
    LengthOctets limit lengthOctets contents.length ∧
      octets = tag :: lengthOctets ++ contents

/-- Read one element: its tag octet, its contents and what follows it. -/
def decodeElement : List UInt8 → Option (UInt8 × List UInt8 × List UInt8)
  | [] =>
      none
  | tag :: octets =>
      match decodeLength octets with
      | none =>
          none
      | some (length, rest) =>
          if rest.length < length then
            none
          else
            some (tag, rest.take length, rest.drop length)

/-- Reading an element returns its tag, its contents and what follows. -/
theorem decodeElement_of_element
    {tag : UInt8}
    {contents octets : List UInt8}
    (element : Element 8 tag contents octets)
    (rest : List UInt8) :
    decodeElement (octets ++ rest) = some (tag, contents, rest) := by
  obtain ⟨lengthOctets, encoded, rfl⟩ := element
  have lengthRead :=
    decodeLength_of_lengthOctets encoded (contents ++ rest)
  simp only [List.cons_append, List.append_assoc, decodeElement, lengthRead]
  rw [if_neg (by rw [List.length_append]; omega)]
  simp

/-- Read elements until no octets are left, at most `fuel` of them. -/
def splitElements : Nat → List UInt8 → Option (List (UInt8 × List UInt8))
  | _, [] =>
      some []
  | 0, _ :: _ =>
      none
  | fuel + 1, octets =>
      match decodeElement octets with
      | none =>
          none
      | some (tag, contents, rest) =>
          (splitElements fuel rest).map ((tag, contents) :: ·)

/-- The elements that octets consist of. -/
def decodeElements (octets : List UInt8) :
    Option (List (UInt8 × List UInt8)) :=
  splitElements octets.length octets

/-- What follows a length is shorter than what was read. -/
theorem decodeLength_shorter
    {octets rest : List UInt8}
    {length : Nat}
    (decoded : decodeLength octets = some (length, rest)) :
    rest.length < octets.length := by
  unfold decodeLength at decoded
  split at decoded
  · cases decoded
  · split at decoded
    · simp only [Option.some.injEq, Prod.mk.injEq] at decoded
      rw [← decoded.2]
      exact Nat.lt_succ_self _
    · simp only at decoded
      split at decoded
      · cases decoded
      · simp only [Option.some.injEq, Prod.mk.injEq] at decoded
        rw [← decoded.2, List.length_drop, List.length_cons]
        omega

/-- What follows an element is shorter than what was read. -/
theorem decodeElement_shorter
    {octets contents rest : List UInt8}
    {tag : UInt8}
    (decoded : decodeElement octets = some (tag, contents, rest)) :
    rest.length < octets.length := by
  unfold decodeElement at decoded
  split at decoded
  · cases decoded
  · split at decoded
    · cases decoded
    · next read =>
        have shorter := decodeLength_shorter read
        split at decoded
        · cases decoded
        · simp only [Option.some.injEq, Prod.mk.injEq] at decoded
          rw [← decoded.2.2, List.length_drop, List.length_cons]
          omega

/-- Octets that are there allow for as many elements as there can be. -/
theorem splitElements_enough
    (fuel : Nat)
    (octets : List UInt8)
    (enough : octets.length ≤ fuel) :
    splitElements fuel octets = decodeElements octets := by
  unfold decodeElements
  induction fuel using Nat.strongRecOn generalizing octets with
  | ind fuel inductionHypothesis =>
      cases octets with
      | nil =>
          simp [splitElements]
      | cons first later =>
          obtain ⟨fuel, rfl⟩ : ∃ less, fuel = less + 1 :=
            ⟨fuel - 1, by rw [List.length_cons] at enough; omega⟩
          simp only [List.length_cons, splitElements]
          cases decoded : decodeElement (first :: later) with
          | none =>
              rfl
          | some element =>
              obtain ⟨tag, contents, rest⟩ := element
              have shorter := decodeElement_shorter decoded
              rw [List.length_cons] at shorter enough
              simp only
              rw [inductionHypothesis fuel (by omega) rest (by omega),
                inductionHypothesis later.length (by omega) rest (by omega)]

/-- The first element comes first. -/
theorem decodeElements_cons
    {tag : UInt8}
    {contents octets : List UInt8}
    (element : Element 8 tag contents octets)
    (rest : List UInt8) :
    decodeElements (octets ++ rest) =
      (decodeElements rest).map ((tag, contents) :: ·) := by
  have decoded := decodeElement_of_element element rest
  have shorter := decodeElement_shorter decoded
  obtain ⟨lengthOctets, -, rfl⟩ := element
  simp only [List.cons_append] at decoded shorter ⊢
  unfold decodeElements
  simp only [List.length_cons, splitElements, decoded]
  rw [splitElements_enough _ rest (by
    rw [List.length_cons] at shorter
    omega)]
  rfl

end LdapProxy.Ber

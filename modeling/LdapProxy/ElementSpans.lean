import LdapProxy.BerOctets

namespace LdapProxy.Ber

/-!
# Elements in place

Where an element lies in an octet string: the offsets of its identifier, of its
contents and of its end.  `ElementAt` is the grammar of definite-length elements
with identifiers of any number of octets; an element that it describes ends
inside the octet string.  `Consecutive` puts elements one behind the other.
-/

/--
The identifier octets of an element: a single octet, or a first octet with all
number bits set and further octets of which only the last has its high bit
clear.
-/
inductive TagOctets : List UInt8 → Prop where
  | single
      (octet : UInt8) :
      octet.toNat % 32 ≠ 31 →
      TagOctets [octet]
  | several
      (first : UInt8)
      (more : List UInt8)
      (last : UInt8) :
      first.toNat % 32 = 31 →
      (∀ octet ∈ more, 128 ≤ octet.toNat) →
      last.toNat < 128 →
      TagOctets (first :: (more ++ [last]))

/-- The tag of an element and the offsets that delimit it. -/
structure Span where
  tag : Nat
  start : Nat
  contents : Nat
  stop : Nat
  deriving Repr, DecidableEq

namespace Span

/-- The content octets of an element. -/
def octets (span : Span) (message : List UInt8) : List UInt8 :=
  (message.drop span.contents).take (span.stop - span.contents)

/-- The element lies between the first and the last content octet of another. -/
def Within (inner outer : Span) : Prop :=
  outer.contents ≤ inner.start ∧ inner.stop ≤ outer.stop

instance (inner outer : Span) : Decidable (inner.Within outer) :=
  inferInstanceAs
    (Decidable (outer.contents ≤ inner.start ∧ inner.stop ≤ outer.stop))

end Span

/-- A definite-length element occupies this part of the octet string. -/
def ElementAt (message : List UInt8) (span : Span) : Prop :=
  ∃ before tagOctets lengthOctets contents after,
    message =
        before ++ (tagOctets ++ (lengthOctets ++ (contents ++ after))) ∧
      TagOctets tagOctets ∧
      LengthOctets 8 lengthOctets contents.length ∧
      span.tag = bigEndian tagOctets ∧
      span.start = before.length ∧
      span.contents =
        before.length + tagOctets.length + lengthOctets.length ∧
      span.stop = span.contents + contents.length

/-- The last octet of an identifier is the first one without the high bit. -/
theorem marked_unique
    {more others : List UInt8}
    {last final : UInt8}
    {rest later : List UInt8}
    (marked : ∀ octet ∈ more, 128 ≤ octet.toNat)
    (ends : last.toNat < 128)
    (markedOthers : ∀ octet ∈ others, 128 ≤ octet.toNat)
    (endsOthers : final.toNat < 128)
    (same : more ++ last :: rest = others ++ final :: later) :
    more = others ∧ last = final := by
  induction more generalizing others with
  | nil =>
      cases others with
      | nil =>
          simp only [List.nil_append, List.cons.injEq] at same
          exact ⟨rfl, same.1⟩
      | cons other others =>
          simp only [List.nil_append, List.cons_append,
            List.cons.injEq] at same
          have large := markedOthers other (by simp)
          rw [← same.1] at large
          omega
  | cons octet more inductionHypothesis =>
      cases others with
      | nil =>
          simp only [List.nil_append, List.cons_append,
            List.cons.injEq] at same
          have large := marked octet (by simp)
          rw [same.1] at large
          omega
      | cons other others =>
          simp only [List.cons_append, List.cons.injEq] at same
          obtain ⟨rfl, sameRest⟩ := same
          obtain ⟨rfl, rfl⟩ :=
            inductionHypothesis
              (fun octet member => marked octet (by simp [member]))
              (fun octet member => markedOthers octet (by simp [member]))
              sameRest
          exact ⟨rfl, rfl⟩

/-- No identifier is the beginning of another one. -/
theorem TagOctets.unique
    {first second rest later : List UInt8}
    (isTag : TagOctets first)
    (isOther : TagOctets second)
    (same : first ++ rest = second ++ later) :
    first = second := by
  cases isTag with
  | single octet small =>
      cases isOther with
      | single other otherSmall =>
          simp only [List.singleton_append, List.cons.injEq] at same
          rw [same.1]
      | several other more last large marked final =>
          simp only [List.cons_append, List.cons.injEq] at same
          rw [same.1] at small
          exact (small large).elim
  | several octet more last large marked final =>
      cases isOther with
      | single other small =>
          simp only [List.cons_append, List.cons.injEq] at same
          rw [← same.1] at small
          exact (small large).elim
      | several other others otherLast _ markedOthers otherFinal =>
          simp only [List.cons_append, List.append_assoc,
            List.nil_append, List.cons.injEq] at same
          obtain ⟨rfl, sameRest⟩ := same
          obtain ⟨rfl, rfl⟩ :=
            marked_unique marked final markedOthers otherFinal sameRest
          rfl

namespace ElementAt

/-- Identifier, length and enough octets behind them are an element. -/
theorem of_octets
    {before tagOctets lengthOctets others : List UInt8}
    {length : Nat}
    (isTag : TagOctets tagOctets)
    (isLength : LengthOctets 8 lengthOctets length)
    (room : length ≤ others.length) :
    ElementAt (before ++ (tagOctets ++ (lengthOctets ++ others)))
      ⟨bigEndian tagOctets, before.length,
        before.length + tagOctets.length + lengthOctets.length,
        before.length + tagOctets.length + lengthOctets.length + length⟩ := by
  have taken : (others.take length).length = length := by
    rw [List.length_take]
    omega
  refine ⟨before, tagOctets, lengthOctets, others.take length,
    others.drop length, ?_, isTag, ?_, rfl, rfl, rfl, ?_⟩
  · rw [List.take_append_drop]
  · rw [taken]
    exact isLength
  · rw [taken]

variable {message : List UInt8} {span : Span}

/-- At most one element starts at an offset. -/
theorem unique
    {other : Span}
    (element : ElementAt message span)
    (otherElement : ElementAt message other)
    (same : span.start = other.start) :
    span = other := by
  obtain ⟨before, tagOctets, lengthOctets, contents, after, rfl, isTag,
    isLength, tag, start, contentsAt, stop⟩ := element
  obtain ⟨otherBefore, otherTag, otherLength, otherContents, otherAfter,
    octets, isOtherTag, isOtherLength, tag', start', contentsAt', stop'⟩ :=
    otherElement
  have sameBefore : before.length = otherBefore.length := by omega
  obtain ⟨rfl, behind⟩ := List.append_inj octets sameBefore
  obtain rfl := isTag.unique isOtherTag behind
  have lengths := List.append_cancel_left behind
  have decoded := decodeLength_of_lengthOctets isLength (contents ++ after)
  rw [lengths, decodeLength_of_lengthOctets isOtherLength] at decoded
  simp only [Option.some.injEq, Prod.mk.injEq] at decoded
  obtain ⟨sameLength, sameRest⟩ := decoded
  rw [sameRest] at lengths
  obtain rfl := List.append_cancel_right lengths
  have sameContents : span.contents = other.contents := by omega
  have sameStop : span.stop = other.stop := by omega
  cases span
  cases other
  simp only [Span.mk.injEq]
  exact ⟨tag.trans tag'.symm, same, sameContents, sameStop⟩

/-- The contents of an element stand in front of its end. -/
theorem contents_le
    (element : ElementAt message span) :
    span.contents ≤ span.stop := by
  obtain ⟨before, tagOctets, lengthOctets, contents, after, -, -, -, -, -, -,
    stop⟩ := element
  omega

/-- An element ends inside the octet string. -/
theorem stop_le
    (element : ElementAt message span) :
    span.stop ≤ message.length := by
  obtain ⟨before, tagOctets, lengthOctets, contents, after, rfl, -, -, -, -,
    contentsAt, stop⟩ := element
  simp only [List.length_append]
  omega

end ElementAt

/-- Elements one behind the other, from the first offset to the second. -/
inductive Consecutive (message : List UInt8) :
    Nat → List Span → Nat → Prop where
  | nil
      (start : Nat) :
      Consecutive message start [] start
  | cons
      {span : Span}
      {rest : List Span}
      {stop : Nat} :
      ElementAt message span →
      Consecutive message span.stop rest stop →
      Consecutive message span.start (span :: rest) stop

/-- One more element behind consecutive elements. -/
theorem Consecutive.concat
    {message : List UInt8}
    {start stop : Nat}
    {spans : List Span}
    {last : Span}
    (consecutive : Consecutive message start spans stop)
    (element : ElementAt message last)
    (behind : last.start = stop) :
    Consecutive message start (spans ++ [last]) last.stop := by
  induction consecutive with
  | nil start =>
      subst behind
      exact .cons element (.nil _)
  | cons first later inductionHypothesis =>
      exact .cons first (inductionHypothesis behind)

/-- As many consecutive elements from one offset on are the same elements. -/
theorem Consecutive.unique
    {message : List UInt8}
    {start stop otherStop : Nat}
    {spans others : List Span}
    (consecutive : Consecutive message start spans stop)
    (other : Consecutive message start others otherStop)
    (same : spans.length = others.length) :
    spans = others := by
  induction consecutive generalizing others with
  | nil start =>
      exact (List.length_eq_zero_iff.mp same.symm).symm
  | cons element later inductionHypothesis =>
      generalize begins : Span.start _ = start at other
      cases other with
      | nil =>
          simp at same
      | cons otherElement otherLater =>
          obtain rfl := element.unique otherElement begins
          rw [inductionHypothesis otherLater (Nat.succ.inj same)]

end LdapProxy.Ber

import LdapProxy.DecodeCursor
import LdapProxy.SearchAnswer

namespace LdapProxy.Lber

open LdapProxy.Ber

/-!
# Values that are printed and scanned

A format of `ber_printf` is read here as nested values: numbers and strings,
and sequences and sets of values, each with a tag of its own or the universal
one.  The values say what is printed and which format of `ber_scanf` reads it;
`berScanf_berPrintf` states that reading returns the tags and the values.
-/

/-- A value that is printed as one primitive element. -/
inductive Leaf where
  | integer (num : Int)
  | enumerated (num : Int)
  | string (octets : List UInt8)
  | berval (octets : List UInt8)
  deriving Repr, DecidableEq

namespace Leaf

/-- The conversion that prints a value. -/
def conversion : Leaf → Char
  | .integer _ => 'i'
  | .enumerated _ => 'e'
  | .string _ => 's'
  | .berval _ => 'O'

/-- The argument that is printed. -/
def arg : Leaf → PrintArg
  | .integer num => .int num
  | .enumerated num => .int num
  | .string octets => .str octets
  | .berval octets => .berval octets

/-- The tag when no other one is given. -/
def universal : Leaf → UInt8
  | .integer _ => 0x02
  | .enumerated _ => 0x0a
  | .string _ => 0x04
  | .berval _ => 0x04

/-- The content octets. -/
def contents : Leaf → List UInt8
  | .integer num => putIntContents num
  | .enumerated num => putIntContents num
  | .string octets => octets
  | .berval octets => octets

/-- The conversion that reads a value. -/
def reader : Leaf → Char
  | .integer _ => 'i'
  | .enumerated _ => 'e'
  | .string _ => 'a'
  | .berval _ => 'a'

/-- What is stored when a value is read. -/
def scanned : Leaf → ScanValue
  | .integer num => .int num
  | .enumerated num => .int num
  | .string octets => .str octets
  | .berval octets => .str octets

/--
Numbers have 32 bits.  A string ends at its first NUL, and a `berval` may have
one as its last octet.
-/
def Readable : Leaf → Prop
  | .integer num => -2 ^ 31 ≤ num ∧ num < 2 ^ 31
  | .enumerated num => -2 ^ 31 ≤ num ∧ num < 2 ^ 31
  | .string octets => (0 : UInt8) ∉ octets
  | .berval octets => (0 : UInt8) ∉ octets.take (octets.length - 1)

end Leaf

/-- The universal tag of a sequence or a set. -/
def nestedTag : Bool → UInt8
  | false => 0x30
  | true => 0x31

/-- The conversion that opens a sequence or a set. -/
def opening : Bool → Char
  | false => '{'
  | true => '['

/-- The conversion that closes a sequence or a set. -/
def closing : Bool → Char
  | false => '}'
  | true => ']'

/-- Values in order, each with the tag that `t` sets for it, if any. -/
inductive Values where
  | done
  | single (tag : Option UInt8) (leaf : Leaf) (later : Values)
  | nested (tag : Option UInt8) (isSet : Bool) (inside later : Values)
  deriving Repr, DecidableEq

/-- The conversion that sets a tag. -/
def tagConversion : Option UInt8 → List Char
  | none => []
  | some _ => ['t']

/-- The argument that sets a tag. -/
def tagArgs : Option UInt8 → List PrintArg
  | none => []
  | some tag => [.tag tag.toNat]

namespace Values

/-- The format that prints the values. -/
def printFormat : Values → List Char
  | .done =>
      []
  | .single tag leaf later =>
      tagConversion tag ++ leaf.conversion :: later.printFormat
  | .nested tag isSet inside later =>
      tagConversion tag ++ opening isSet ::
        (inside.printFormat ++ closing isSet :: later.printFormat)

/-- The arguments that are printed. -/
def printArgs : Values → List PrintArg
  | .done =>
      []
  | .single tag leaf later =>
      tagArgs tag ++ leaf.arg :: later.printArgs
  | .nested tag _ inside later =>
      tagArgs tag ++ (inside.printArgs ++ later.printArgs)

/-- The elements of the values. -/
def octets : Values → List UInt8
  | .done =>
      []
  | .single tag leaf later =>
      elementOctets [tag.getD leaf.universal] leaf.contents ++ later.octets
  | .nested tag isSet inside later =>
      elementOctets [tag.getD (nestedTag isSet)] inside.octets ++
        later.octets

/-- The format that reads every tag and every value. -/
def scanFormat : Values → List Char
  | .done =>
      []
  | .single _ leaf later =>
      't' :: leaf.reader :: later.scanFormat
  | .nested _ isSet inside later =>
      't' :: opening isSet ::
        (inside.scanFormat ++ closing isSet :: later.scanFormat)

/-- The tags and the values in the order in which they are read. -/
def scanned : Values → List ScanValue
  | .done =>
      []
  | .single tag leaf later =>
      .tag (tag.getD leaf.universal).toNat :: leaf.scanned :: later.scanned
  | .nested tag isSet inside later =>
      .tag (tag.getD (nestedTag isSet)).toNat ::
        (inside.scanned ++ later.scanned)

/-- All tags have one octet, and all values are readable. -/
def Readable : Values → Prop
  | .done =>
      True
  | .single tag leaf later =>
      (tag.getD leaf.universal).toNat &&& lberBigTagMask ≠ lberBigTagMask ∧
        leaf.Readable ∧ later.Readable
  | .nested tag isSet inside later =>
      (tag.getD (nestedTag isSet)).toNat &&& lberBigTagMask ≠
          lberBigTagMask ∧
        inside.Readable ∧ later.Readable

end Values

/-- The universal tags have one octet. -/
theorem berPrependTag_octet (tag : UInt8) :
    berPrependTag tag.toNat = [tag] := by
  rw [berPrependTag_single tag.toNat_lt, UInt8.ofNat_toNat]

namespace Printer

/-- Nothing is appended. -/
theorem write_nil (pr : Printer) : pr.write [] = pr := by
  obtain ⟨tag, done, stack⟩ := pr
  cases stack <;> simp [write]

/-- Appending octets does not use up the tag. -/
theorem write_tag
    (pr : Printer)
    (octets : List UInt8) :
    (pr.write octets).tag = pr.tag := by
  obtain ⟨tag, done, stack⟩ := pr
  cases stack <;> rfl

/-- The printer for whose next element this tag is set, if any. -/
def tagged (pr : Printer) (tag : Option UInt8) : Printer :=
  { pr with tag := tag.elim lberDefault UInt8.toNat }

/-- A tag is set before the element. -/
theorem run_tagConversion
    {pr : Printer}
    (untagged : pr.tag = lberDefault)
    (tag : Option UInt8)
    (format : List Char)
    (args : List PrintArg) :
    pr.run (tagConversion tag ++ format) (tagArgs tag ++ args) =
      (pr.tagged tag).run format args := by
  cases tag with
  | none =>
      obtain ⟨old, done, stack⟩ := pr
      cases untagged
      rfl
  | some tag =>
      simp only [tagConversion, tagArgs, List.cons_append,
        List.nil_append, run]
      rfl

/-- The tag octet of the next element. -/
theorem tagOr_tagged
    (pr : Printer)
    (tag : Option UInt8)
    (universal : UInt8) :
    (pr.tagged tag).tagOr universal.toNat = [tag.getD universal] := by
  cases tag with
  | none =>
      simp [tagged, tagOr, berPrependTag_octet]
  | some tag =>
      simp [tagged, tagOr, At.tag_ne_default, berPrependTag_octet]

/-- An element uses up its tag. -/
theorem put_tagged
    {pr : Printer}
    (untagged : pr.tag = lberDefault)
    (tag : Option UInt8)
    (universal : UInt8)
    (contents : List UInt8) :
    (pr.tagged tag).put universal.toNat contents =
      pr.write (elementOctets [tag.getD universal] contents) := by
  rw [put, tagOr_tagged]
  obtain ⟨old, done, stack⟩ := pr
  cases untagged
  cases stack <;> rfl

/-- A value is printed as one element. -/
theorem run_leaf
    {pr : Printer}
    (untagged : pr.tag = lberDefault)
    (tag : Option UInt8)
    (leaf : Leaf)
    (format : List Char)
    (args : List PrintArg) :
    (pr.tagged tag).run (leaf.conversion :: format) (leaf.arg :: args) =
      (pr.write
        (elementOctets [tag.getD leaf.universal] leaf.contents)).run
        format args := by
  rw [← put_tagged untagged]
  cases leaf <;> rfl

/-- An opened frame is untagged. -/
theorem run_opening
    (pr : Printer)
    (isSet : Bool)
    (format : List Char)
    (args : List PrintArg) :
    pr.run (opening isSet :: format) args =
      (pr.start (nestedTag isSet).toNat).run format args := by
  cases isSet <;> rfl

/-- Closing a frame with these contents appends an element. -/
theorem run_closing
    {pr : Printer}
    (untagged : pr.tag = lberDefault)
    (tag : Option UInt8)
    (isSet : Bool)
    (contents : List UInt8)
    (format : List Char)
    (args : List PrintArg) :
    (((pr.tagged tag).start (nestedTag isSet).toNat).write contents).run
        (closing isSet :: format) args =
      (pr.write
        (elementOctets [tag.getD (nestedTag isSet)] contents)).run
        format args := by
  have closed :
      (((pr.tagged tag).start (nestedTag isSet).toNat).write
          contents).close =
        some
          (pr.write
            (elementOctets [tag.getD (nestedTag isSet)] contents)) := by
    rw [start, tagOr_tagged]
    obtain ⟨old, done, stack⟩ := pr
    cases untagged
    rfl
  cases isSet with
  | false =>
      simp only [closing, run, closed]
  | true =>
      simp only [closing, run, closed]

/-- Printing values appends their elements. -/
theorem run_values
    (values : Values)
    (pr : Printer)
    (untagged : pr.tag = lberDefault)
    (format : List Char)
    (args : List PrintArg) :
    pr.run (values.printFormat ++ format) (values.printArgs ++ args) =
      (pr.write values.octets).run format args := by
  induction values generalizing pr format args with
  | done =>
      rw [Values.octets, write_nil]
      rfl
  | single tag leaf later inductionHypothesis =>
      simp only [Values.printFormat, Values.printArgs, Values.octets,
        List.append_assoc, List.cons_append]
      rw [run_tagConversion untagged, run_leaf untagged,
        inductionHypothesis _ ((write_tag pr _).trans untagged),
        write_write]
  | nested tag isSet inside later inner outer =>
      simp only [Values.printFormat, Values.printArgs, Values.octets,
        List.append_assoc, List.cons_append]
      rw [run_tagConversion untagged, run_opening, inner _ rfl,
        run_closing untagged,
        outer _ ((write_tag pr _).trans untagged), write_write]

end Printer

/-- A number below `128 * 256 ^ fuel` ends the loop with a pass to spare. -/
theorem length_intOctets_of_lt
    (fuel more unum : Nat)
    (sign : UInt8)
    (octets : List UInt8)
    (fits : unum < 128 * 256 ^ fuel) :
    (intOctets (fuel + 1 + more) unum sign octets).length ≤
      fuel + 1 + octets.length := by
  induction fuel generalizing unum octets with
  | zero =>
      have small : unum < 0x80 := by omega
      rw [Nat.add_right_comm, intOctets]
      simp only [small, if_true, List.length_cons]
      omega
  | succ fuel inductionHypothesis =>
      rw [Nat.pow_succ] at fits
      have later := inductionHypothesis (unum / 256)
        ((sign ^^^ UInt8.ofNat unum) :: octets) (by omega)
      rw [List.length_cons] at later
      rw [Nat.add_right_comm, intOctets]
      split
      · rw [List.length_cons]
        omega
      · omega

/-- A number of 32 bits has at most four content octets. -/
theorem length_putIntContents_of_small
    {num : Int}
    (small : -2 ^ 31 ≤ num ∧ num < 2 ^ 31) :
    (putIntContents num).length ≤ 4 := by
  unfold putIntContents
  split
  · exact length_intOctets_of_lt 3 1 _ 0xff [] (by omega)
  · exact length_intOctets_of_lt 3 1 _ 0 [] (by omega)

variable {ber : BerElement}

/-- `ber_get_int` reads back what `ber_put_int_or_enum` wrote. -/
theorem At.scanPrinted
    {tag : UInt8}
    {num : Int}
    (small : -2 ^ 31 ≤ num ∧ num < 2 ^ 31)
    {octets rest : List UInt8}
    (atElement : At ber (octets ++ rest))
    (element : Element 8 tag (putIntContents num) octets)
    (single : tag.toNat &&& lberBigTagMask ≠ lberBigTagMask) :
    ∃ next,
      (berGetInt ber).2 = (some num, next) ∧ At next rest := by
  obtain ⟨next, number, atRest⟩ := atElement.getInt element single
    (length_putIntContents_of_small small)
  have value := (twosComplement_putIntContents small.1 small.2).2
  rw [netnum_eq_twosComplement, value] at number
  exact ⟨next, by rw [number], atRest⟩

/-- The reader of a value stores it. -/
theorem At.scanLeaf
    {leaf : Leaf}
    (readable : leaf.Readable)
    {tag : UInt8}
    {octets rest : List UInt8}
    (atElement : At ber (octets ++ rest))
    (element : Element 8 tag leaf.contents octets)
    (single : tag.toNat &&& lberBigTagMask ≠ lberBigTagMask) :
    ∃ next,
      scanConversion leaf.reader ber = (some [leaf.scanned], next) ∧
        At next rest := by
  cases leaf with
  | integer num =>
      obtain ⟨next, number, atRest⟩ :=
        atElement.scanPrinted readable element single
      exact ⟨next, by simp [scanConversion, Leaf.reader, number,
        Leaf.scanned], atRest⟩
  | enumerated num =>
      obtain ⟨next, number, atRest⟩ :=
        atElement.scanPrinted readable element single
      exact ⟨next, by simp [scanConversion, Leaf.reader, number,
        Leaf.scanned], atRest⟩
  | string octets =>
      have readable : (0 : UInt8) ∉ octets := readable
      exact atElement.scanString element single
        fun inside => readable (List.mem_of_mem_take inside)
  | berval octets =>
      exact atElement.scanString element single readable

/-- `t` returns the tag and stays in front of the element. -/
theorem At.scanTag
    {tag : UInt8}
    {contents octets rest : List UInt8}
    (atElement : At ber (octets ++ rest))
    (element : Element 8 tag contents octets)
    (single : tag.toNat &&& lberBigTagMask ≠ lberBigTagMask) :
    scanConversion 't' ber = (some [.tag tag.toNat], ber) := by
  have peeked := atElement.peekTag element single
  simp only [scanConversion, peeked, At.tag_ne_default, if_false]

/-- Opening a sequence or a set moves to its contents. -/
theorem At.scanOpening
    (isSet : Bool)
    {tag : UInt8}
    {contents octets rest : List UInt8}
    (atElement : At ber (octets ++ rest))
    (element : Element 8 tag contents octets)
    (single : tag.toNat &&& lberBigTagMask ≠ lberBigTagMask) :
    ∃ next,
      scanConversion (opening isSet) ber = (some [], next) ∧
        At next (contents ++ rest) := by
  cases isSet with
  | false =>
      exact atElement.scanOpen element single
  | true =>
      exact atElement.scanOpen element single

/-- Closing a sequence or a set does nothing. -/
theorem scanClosing
    (isSet : Bool)
    (ber : BerElement) :
    scanConversion (closing isSet) ber = (some [], ber) := by
  cases isSet <;> rfl

/-- Reading the elements of values stores these values. -/
theorem At.scanValues
    (values : Values)
    (readable : values.Readable)
    (short : values.octets.length < 2 ^ 64)
    {rest : List UInt8}
    (atValues : At ber (values.octets ++ rest)) :
    ∃ next,
      At next rest ∧
        ∀ format more last,
          berScanf format next = (some more, last) →
            berScanf (values.scanFormat ++ format) ber =
              (some (values.scanned ++ more), last) := by
  induction values generalizing ber rest with
  | done =>
      exact ⟨ber, atValues, fun _ _ _ scanned => scanned⟩
  | single tag leaf later inductionHypothesis =>
      obtain ⟨single, leafReadable, laterReadable⟩ := readable
      simp only [Values.octets, List.length_append, List.append_assoc]
        at short atValues
      have leafShort : leaf.contents.length < 2 ^ 64 := by
        simp only [elementOctets, List.length_append] at short
        omega
      have element := element_elementOctets
        (tag.getD leaf.universal) leafShort
      obtain ⟨behind, read, atLater⟩ :=
        atValues.scanLeaf leafReadable element single
      obtain ⟨next, atRest, laterRead⟩ :=
        inductionHypothesis laterReadable (by omega) atLater
      refine ⟨next, atRest, ?_⟩
      intro format more last scanned
      have whole := berScanf_cons (atValues.scanTag element single)
        (berScanf_cons read (laterRead format more last scanned))
      simpa only [Values.scanFormat, Values.scanned, List.cons_append,
        List.nil_append] using whole
  | nested tag isSet inside later inner outer =>
      obtain ⟨single, insideReadable, laterReadable⟩ := readable
      simp only [Values.octets, List.length_append, List.append_assoc]
        at short atValues
      have insideShort : inside.octets.length < 2 ^ 64 := by
        simp only [elementOctets, List.length_append] at short
        omega
      have element := element_elementOctets
        (tag.getD (nestedTag isSet)) insideShort
      obtain ⟨opened, started, atInside⟩ :=
        atValues.scanOpening isSet element single
      obtain ⟨closed, atLater, insideRead⟩ :=
        inner insideReadable insideShort atInside
      obtain ⟨next, atRest, laterRead⟩ :=
        outer laterReadable (by omega) atLater
      refine ⟨next, atRest, ?_⟩
      intro format more last scanned
      have behind := berScanf_cons (scanClosing isSet closed)
        (laterRead format more last scanned)
      have whole := berScanf_cons (atValues.scanTag element single)
        (berScanf_cons started (insideRead _ _ _ behind))
      simpa only [Values.scanFormat, Values.scanned, List.cons_append,
        List.append_assoc, List.nil_append] using whole

/-- `ber_skip_element` leaves the octets alone. -/
theorem berSkipElement_berBuf (ber : BerElement) :
    (berSkipElement ber).2.2.berBuf = ber.berBuf := by
  unfold berSkipElement
  split
  split <;> rfl

/-- A conversion leaves the octets alone. -/
theorem scanConversion_berBuf
    (conversion : Char)
    (ber : BerElement) :
    (scanConversion conversion ber).2.berBuf = ber.berBuf := by
  have skipped := berSkipElement_berBuf ber
  have string : (berGetStringa ber).2.2.berBuf = ber.berBuf := by
    unfold berGetStringa
    simp only
    split <;> exact skipped
  have number : (berGetInt ber).2.2.berBuf = ber.berBuf := by
    unfold berGetInt
    simp only
    split <;> exact skipped
  unfold scanConversion
  split <;> first | exact string | exact number | rfl

/-- `ber_scanf` leaves the octets alone. -/
theorem berScanf_berBuf
    (format : List Char)
    (ber : BerElement) :
    (berScanf format ber).2.berBuf = ber.berBuf := by
  induction format generalizing ber with
  | nil =>
      rfl
  | cons conversion format inductionHypothesis =>
      have first := scanConversion_berBuf conversion ber
      unfold berScanf
      split
      · next next failed =>
          rw [failed] at first
          exact first
      · next values next stored =>
          rw [stored] at first
          have later := inductionHypothesis next
          split
          · next last failed =>
              rw [failed] at later
              exact later.trans first
          · next more last scanned =>
              rw [scanned] at later
              exact later.trans first

/--
What the values print is complete, and scanning it, whatever tag was saved,
returns all tags and values with the cursor behind the last octet.
-/
def PrintedAndScanned (values : Values) : Prop :=
  ∃ ber,
    berPrintf values.printFormat values.printArgs OutElement.new =
        some ber ∧
      ber.berSosPtr = none ∧
      ber.octets = values.octets ∧
      ∀ savedTag, ∃ last,
        berScanf values.scanFormat ⟨savedTag, ber.octets, 0⟩ =
            (some values.scanned, last) ∧
          last.berBuf = ber.octets ∧
          last.berPtr = ber.octets.length

/-- Values are printed as their elements. -/
theorem berPrintf_values
    {values : Values}
    (small :
      printCost values.printFormat values.printArgs ≤ maxintBersize) :
    values.octets.length ≤ maxintBersize ∧
      ∃ ber,
        berPrintf values.printFormat values.printArgs OutElement.new =
            some ber ∧
          Prints ber (Printer.after values.octets) := by
  have printed := Printer.run_values values (Printer.after []) rfl [] []
  rw [List.append_nil, List.append_nil] at printed
  have cost := (Nat.zero_add
    (printCost values.printFormat values.printArgs)).trans_le small
  exact ⟨(Printer.length_run printed).trans cost,
    berPrintf_refines prints_new printed cost⟩

/-- `ber_scanf` reads back what `ber_printf` printed. -/
theorem berScanf_berPrintf
    (values : Values)
    (readable : values.Readable)
    (small :
      printCost values.printFormat values.printArgs ≤ maxintBersize) :
    PrintedAndScanned values := by
  obtain ⟨short, ber, printed, prints⟩ := berPrintf_values small
  have octets := octets_of_prints prints
  have fits : values.octets.length < 2 ^ 64 := by
    unfold maxintBersize at short
    omega
  refine ⟨ber, printed, prints.closed rfl, octets, ?_⟩
  intro savedTag
  rw [octets]
  have start : At ⟨savedTag, values.octets, 0⟩ (values.octets ++ []) :=
    { inside := Nat.zero_le _
      suffix := by rw [List.drop_zero, List.append_nil]
      saved := fun _ _ _ => .inl rfl }
  obtain ⟨last, atEnd, read⟩ := start.scanValues values readable fits
  have scanned := read [] [] last rfl
  rw [List.append_nil, List.append_nil] at scanned
  have kept : last.berBuf = values.octets := by
    have unchanged := berScanf_berBuf values.scanFormat
      ⟨savedTag, values.octets, 0⟩
    rwa [scanned] at unchanged
  have behind := atEnd.length
  rw [kept] at behind
  exact ⟨last, scanned, kept, behind.symm⟩

/-- A bind response with a tagged sequence and a negative number. -/
def taggedValues : Values :=
  .nested none false
    (.single none (.integer (-129))
      (.nested (some 0x61) false
        (.single none (.enumerated 49)
          (.single none (.string [])
            (.single (some 0x87) (.berval [0x61, 0x62]) .done)))
        .done))
    .done

theorem berScanf_berPrintf_tagged : PrintedAndScanned taggedValues :=
  berScanf_berPrintf taggedValues (by simp [taggedValues,
    Values.Readable, Leaf.Readable, lberBigTagMask, Leaf.universal,
    nestedTag]) (by decide)

end LdapProxy.Lber

import LdapProxy.FormattedScan
import LdapProxy.LpConfig
import Mathlib.Data.List.DropRight

namespace LdapProxy

open LdapProxy.NumberText
open LdapProxy.FormattedScan

/-!
# Lines of a configuration file

`iniparser_line` tries `sscanf` formats one after the other and stores what
they find in buffers that outlive the line.  `statementOf` says what a line
means without formats and buffers, and `iniparserLine_statement` that the
function finds this meaning, whatever the buffers held before.
-/

/-- `line_status` -/
inductive LineStatus where
  | lineError
  | lineEmpty
  | lineComment
  | lineSection
  | lineValue
  deriving DecidableEq

/-- The buffers of `iniparser_load` that a line is parsed into. -/
structure LineBuffers where
  sectionBuf : List UInt8
  key : List UInt8
  value : List UInt8
  deriving DecidableEq

/-- `strstrip` -/
def strstrip (s : List UInt8) : List UInt8 :=
  (s.dropWhile isSpace).rdropWhile isSpace

/-- `#` -/
def numberSign : UInt8 := 35

/-- `;` -/
def semicolon : UInt8 := 59

/-- `=` -/
def equalsSign : UInt8 := 61

/-- `[` -/
def leftBracket : UInt8 := 91

/-- `]` -/
def rightBracket : UInt8 := 93

/-- `"` -/
def doubleQuote : UInt8 := 34

/-- `'` -/
def singleQuote : UInt8 := 39

/-- A character in front of a comment. -/
def startsComment (c : UInt8) : Bool :=
  c = semicolon || c = numberSign

/-- `"[%[^]]"` -/
def sectionFormat : List Directive :=
  [.literal leftBracket, .set (· ≠ rightBracket)]

/-- A key, an equals sign and what the rest of the format asks for. -/
def assignmentFormat (right : List Directive) : List Directive :=
  .set (· ≠ equalsSign) :: .space :: .literal equalsSign :: .space :: right

/-- `"%[^=] = \"%[^\"]\""`, with either kind of quotes. -/
def quotedFormat (quote : UInt8) : List Directive :=
  assignmentFormat
    [.literal quote, .set (· ≠ quote), .literal quote]

/-- `"%[^=] = %[^;#]"` -/
def plainFormat : List Directive :=
  assignmentFormat [.set fun c => !startsComment c]

/-- `"%[^=] = %[;#]"` -/
def commentFormat : List Directive :=
  assignmentFormat [.set startsComment]

/-- `"%[^=] %[=]"` -/
def signFormat : List Directive :=
  [.set (· ≠ equalsSign), .space, .set (· = equalsSign)]

/-- The formats of a key with a value. -/
def valueFormats : List (List Directive) :=
  [quotedFormat doubleQuote, quotedFormat singleQuote, plainFormat]

/-- The formats of a key without a value. -/
def emptyFormats : List (List Directive) :=
  [commentFormat, signFormat]

/-- The buffers after a scan into `key` and `value`. -/
def LineBuffers.store
    (b : LineBuffers)
    (stored : List (List UInt8)) :
    LineBuffers :=
  { b with
    key := stored.headD b.key
    value := (stored.drop 1).headD b.value }

/-- `sscanf(line, ..., key, value) == 2` for the first format that fits. -/
def scanFirst (line : List UInt8) :
    List (List Directive) → LineBuffers → Bool × LineBuffers
  | [], b =>
      (false, b)
  | format :: rest, b =>
      let stored := scanText format line
      if stored.length = 2 then
        (true, b.store stored)
      else
        scanFirst line rest (b.store stored)

/-- `value[0]=0` for a value of two quotes. -/
def unquoteEmpty (value : List UInt8) : List UInt8 :=
  if value = [doubleQuote, doubleQuote] ∨
      value = [singleQuote, singleQuote] then
    []
  else
    value

/-- The branches of `iniparser_line` for a line that is no section. -/
def scanAssignment (line : List UInt8) (b : LineBuffers) :
    LineStatus × LineBuffers :=
  match scanFirst line valueFormats b with
  | (true, b) =>
      (.lineValue,
        { b with
          key := strlwc (strstrip b.key)
          value := unquoteEmpty (strstrip b.value) })
  | (false, b) =>
      match scanFirst line emptyFormats b with
      | (true, b) =>
          (.lineValue,
            { b with key := strlwc (strstrip b.key), value := [] })
      | (false, b) =>
          (.lineError, b)

/-- `iniparser_line` -/
def iniparserLine (inputLine : List UInt8) (b : LineBuffers) :
    LineStatus × LineBuffers :=
  let line := strstrip inputLine
  if line.length < 1 then
    (.lineEmpty, b)
  else if line.headD 0 = numberSign then
    (.lineComment, b)
  else if line.headD 0 = leftBracket ∧ line.getLastD 0 = rightBracket then
    -- a scan without result leaves the section of the lines before
    let name := (scanText sectionFormat line).headD b.sectionBuf
    (.lineSection, { b with sectionBuf := strlwc (strstrip name) })
  else
    scanAssignment line b

/-- The meaning of a line; a section without a name keeps the one before. -/
inductive Statement where
  | nothing
  | malformed
  | header (name : Option (List UInt8))
  | assign (key value : List UInt8)
  deriving DecidableEq

/-- The text between quotes at the start, unless it is empty. -/
def quotedText (quote : UInt8) : List UInt8 → Option (List UInt8)
  | [] =>
      none
  | first :: rest =>
      if first = quote ∧ rest.takeWhile (· ≠ quote) ≠ [] then
        some (rest.takeWhile (· ≠ quote))
      else
        none

/-- What stands behind the equals sign. -/
def rightSide (line : List UInt8) : List UInt8 :=
  ((line.dropWhile (· ≠ equalsSign)).drop 1).dropWhile isSpace

/-- The text of a value: in quotes, or up to a comment. -/
def rightText (right : List UInt8) : List UInt8 :=
  ((quotedText doubleQuote right).or
      (quotedText singleQuote right)).getD
    (right.takeWhile fun c => !startsComment c)

/-- The meaning of a line that is neither empty, comment nor section. -/
def assignmentOf (line : List UInt8) : Statement :=
  if line.takeWhile (· ≠ equalsSign) = [] ∨ equalsSign ∉ line then
    .malformed
  else
    .assign (strlwc (strstrip (line.takeWhile (· ≠ equalsSign))))
      (unquoteEmpty (strstrip (rightText (rightSide line))))

/-- The name in brackets, if there is one. -/
def sectionName (line : List UInt8) : Option (List UInt8) :=
  if (line.drop 1).takeWhile (· ≠ rightBracket) = [] then
    none
  else
    some (strlwc (strstrip ((line.drop 1).takeWhile (· ≠ rightBracket))))

/-- The meaning of a stripped line. -/
def statementOf (line : List UInt8) : Statement :=
  if line = [] ∨ line.head? = some numberSign then
    .nothing
  else if line.head? = some leftBracket ∧
      line.getLast? = some rightBracket then
    .header (sectionName line)
  else
    assignmentOf line

/-- What `iniparser_line` returns for a line with this meaning. -/
def LineFound (b : LineBuffers) :
    Statement → LineStatus × LineBuffers → Prop
  | .nothing, found =>
      (found.1 = .lineEmpty ∨ found.1 = .lineComment) ∧ found.2 = b
  | .malformed, found =>
      found.1 = .lineError ∧ found.2.sectionBuf = b.sectionBuf
  | .header name, found =>
      found.1 = .lineSection ∧
        found.2.sectionBuf =
          name.getD (strlwc (strstrip b.sectionBuf))
  | .assign key value, found =>
      found.1 = .lineValue ∧
        found.2 = { b with key := key, value := value }

/-- The text from the first equals sign on. -/
theorem dropWhile_equalsSign
    {line : List UInt8}
    (present : equalsSign ∈ line) :
    line.dropWhile (· ≠ equalsSign) =
      equalsSign :: (line.dropWhile (· ≠ equalsSign)).drop 1 := by
  induction line with
  | nil =>
      cases present
  | cons first rest inductionHypothesis =>
      by_cases here : first = equalsSign
      · simp [here]
      · have later :=
          inductionHypothesis
            ((List.mem_cons.mp present).resolve_left (Ne.symm here))
        simpa [here] using later

/-- A format of an assignment stores the key and then scans the value. -/
theorem scanText_assignmentFormat
    {line : List UInt8}
    (named : line.takeWhile (· ≠ equalsSign) ≠ [])
    (present : equalsSign ∈ line)
    (right : List Directive) :
    scanText (assignmentFormat right) line =
      line.takeWhile (· ≠ equalsSign) ::
        scanText right
          (((line.dropWhile (· ≠ equalsSign)).drop 1).dropWhile
            isSpace) := by
  rw [assignmentFormat, scanText_set named,
    dropWhile_equalsSign present, scanText_space_literal (by decide),
    scanText]
  rfl

/-- Without a key or without an equals sign at most one string is stored. -/
theorem scanText_malformed
    {line : List UInt8}
    (malformed :
      line.takeWhile (· ≠ equalsSign) = [] ∨ equalsSign ∉ line)
    {later : List Directive}
    (stops : scanText later [] = []) :
    (scanText (.set (· ≠ equalsSign) :: later) line).length ≠ 2 := by
  by_cases unnamed : line.takeWhile (· ≠ equalsSign) = []
  · rw [scanText_set_nil unnamed]
    decide
  · have absent := malformed.resolve_left unnamed
    have whole : line.dropWhile (· ≠ equalsSign) = [] := by
      rw [List.dropWhile_eq_nil_iff]
      intro c member
      have other : c ≠ equalsSign := ne_of_mem_of_not_mem member absent
      simpa using other
    rw [scanText_set unnamed, whole, stops]
    exact of_decide_eq_true rfl

/-- The directives of a text in quotes. -/
theorem scanText_quotes
    (quote : UInt8)
    (right : List UInt8) :
    scanText
        [.literal quote, .set (· ≠ quote), .literal quote] right =
      (quotedText quote right).toList := by
  cases right with
  | nil =>
      rfl
  | cons first rest =>
      rw [scanText, quotedText]
      by_cases starts : first = quote
      · by_cases inside : rest.takeWhile (· ≠ quote) = []
        · rw [if_pos starts, if_neg fun both => both.2 inside,
            scanText_set_nil inside]
          rfl
        · rw [if_pos starts, if_pos ⟨starts, inside⟩,
            scanText_set inside]
          cases rest.dropWhile (· ≠ quote) with
          | nil =>
              rfl
          | cons closing after =>
              rw [scanText]
              split <;> rfl
      · simp [starts]

/-- A single set. -/
theorem scanText_run
    (accepts : UInt8 → Bool)
    (right : List UInt8) :
    scanText [.set accepts] right =
      if right.takeWhile accepts = [] then
        []
      else
        [right.takeWhile accepts] :=
  rfl

/-- Formats that all store fewer than two strings fail. -/
theorem scanFirst_of_short
    {line : List UInt8}
    {formats : List (List Directive)}
    (short : ∀ format ∈ formats, (scanText format line).length ≠ 2)
    (b : LineBuffers) :
    (scanFirst line formats b).1 = false ∧
      (scanFirst line formats b).2.sectionBuf = b.sectionBuf := by
  induction formats generalizing b with
  | nil =>
      exact ⟨rfl, rfl⟩
  | cons format rest inductionHypothesis =>
      have failed := short format (List.mem_cons_self ..)
      have later := inductionHypothesis
        (fun other member => short other (List.mem_cons_of_mem _ member))
        (b.store (scanText format line))
      rw [scanFirst]
      simp only [failed, if_false]
      exact later

/-- Scanning stops at the first format that stores two strings. -/
theorem scanFirst_of_found
    {line : List UInt8}
    (formats : List (List Directive))
    {found : List Directive}
    (later : List (List Directive))
    (short : ∀ format ∈ formats, (scanText format line).length ≠ 2)
    {key value : List UInt8}
    (two : scanText found line = [key, value])
    (b : LineBuffers) :
    scanFirst line (formats ++ found :: later) b =
      (true, { b with key := key, value := value }) := by
  induction formats generalizing b with
  | nil =>
      rw [List.nil_append, scanFirst]
      simp only [two, List.length_cons, List.length_nil, if_true]
      rfl
  | cons format rest inductionHypothesis =>
      have failed := short format (List.mem_cons_self ..)
      have found := inductionHypothesis
        (fun other member => short other (List.mem_cons_of_mem _ member))
        (b.store (scanText format line))
      rw [List.cons_append, scanFirst]
      simp only [failed, if_false]
      rw [found]
      rfl

/-- A text in quotes is not empty. -/
theorem quotedText_ne_nil
    {quote : UInt8}
    {right text : List UInt8}
    (quoted : quotedText quote right = some text) :
    text ≠ [] := by
  cases right with
  | nil =>
      cases quoted
  | cons first rest =>
      rw [quotedText] at quoted
      split at quoted
      · next both =>
          rw [Option.some.injEq] at quoted
          exact quoted ▸ both.2
      · cases quoted

section Assigned

variable
  {line : List UInt8}
  (named : line.takeWhile (· ≠ equalsSign) ≠ [])
  (present : equalsSign ∈ line)

include named present

/-- What the format of a quoted value stores. -/
theorem scanText_quotedFormat (quote : UInt8) :
    scanText (quotedFormat quote) line =
      line.takeWhile (· ≠ equalsSign) ::
        (quotedText quote (rightSide line)).toList := by
  rw [quotedFormat, scanText_assignmentFormat named present,
    scanText_quotes]
  rfl

/-- What the format of a plain value stores. -/
theorem scanText_plainFormat :
    scanText plainFormat line =
      line.takeWhile (· ≠ equalsSign) ::
        scanText [.set fun c => !startsComment c] (rightSide line) :=
  scanText_assignmentFormat named present _

/-- The first format that fits stores the text of the value. -/
theorem scanFirst_valueFormats
    (valued : rightText (rightSide line) ≠ [])
    (b : LineBuffers) :
    scanFirst line valueFormats b =
      (true,
        { b with
          key := line.takeWhile (· ≠ equalsSign)
          value := rightText (rightSide line) }) := by
  have doubleStored := scanText_quotedFormat named present doubleQuote
  have singleStored := scanText_quotedFormat named present singleQuote
  have plainStored := scanText_plainFormat named present
  unfold rightText at valued ⊢
  cases doubleText : quotedText doubleQuote (rightSide line) with
  | some text =>
      rw [doubleText] at doubleStored
      exact scanFirst_of_found [] _ (by simp) doubleStored b
  | none =>
      rw [doubleText] at doubleStored valued
      cases singleText : quotedText singleQuote (rightSide line) with
      | some text =>
          rw [singleText] at singleStored
          refine scanFirst_of_found [_] _ ?_ singleStored b
          simp [doubleStored]
      | none =>
          rw [singleText] at singleStored valued
          simp only [Option.or_none, Option.getD_none] at valued ⊢
          rw [scanText_run, if_neg valued] at plainStored
          refine scanFirst_of_found [_, _] _ ?_ plainStored b
          simp [doubleStored, singleStored]

/-- No format fits when there is no text. -/
theorem valueFormats_short
    (empty : rightText (rightSide line) = []) :
    ∀ format ∈ valueFormats, (scanText format line).length ≠ 2 := by
  have doubleStored := scanText_quotedFormat named present doubleQuote
  have singleStored := scanText_quotedFormat named present singleQuote
  have plainStored := scanText_plainFormat named present
  unfold rightText at empty
  cases doubleText : quotedText doubleQuote (rightSide line) with
  | some text =>
      rw [doubleText] at empty
      exact absurd empty (quotedText_ne_nil doubleText)
  | none =>
      cases singleText : quotedText singleQuote (rightSide line) with
      | some text =>
          rw [doubleText, singleText] at empty
          exact absurd empty (quotedText_ne_nil singleText)
      | none =>
          rw [doubleText] at doubleStored empty
          rw [singleText] at singleStored empty
          simp only [Option.or_none, Option.getD_none] at empty
          rw [scanText_run, if_pos empty] at plainStored
          simp [valueFormats, doubleStored, singleStored, plainStored]

/-- A key in front of an equals sign is found without a value. -/
theorem scanFirst_emptyFormats (b : LineBuffers) :
    ∃ value,
      scanFirst line emptyFormats b =
        (true,
          { b with
            key := line.takeWhile (· ≠ equalsSign)
            value := value }) := by
  have commentStored :
      scanText commentFormat line =
        line.takeWhile (· ≠ equalsSign) ::
          scanText [.set startsComment] (rightSide line) :=
    scanText_assignmentFormat named present _
  by_cases empty : (rightSide line).takeWhile startsComment = []
  · rw [scanText_run, if_pos empty] at commentStored
    have signs :
        ∃ value,
          scanText signFormat line =
            [line.takeWhile (· ≠ equalsSign), value] := by
      have visible : isSpace equalsSign = false := by decide
      rw [signFormat, scanText_set named, dropWhile_equalsSign present]
      simp [scanText, visible]
    obtain ⟨value, signStored⟩ := signs
    refine ⟨value, scanFirst_of_found [_] [] ?_ signStored b⟩
    simp [commentStored]
  · rw [scanText_run, if_neg empty] at commentStored
    exact ⟨_, scanFirst_of_found [] _ (by simp)
      commentStored b⟩

end Assigned

/-- Without a key or without an equals sign no format fits. -/
theorem formats_short
    {line : List UInt8}
    (malformed :
      line.takeWhile (· ≠ equalsSign) = [] ∨ equalsSign ∉ line) :
    ∀ format ∈ valueFormats ++ emptyFormats,
      (scanText format line).length ≠ 2 := by
  intro format member
  simp only [valueFormats, emptyFormats, List.cons_append,
    List.nil_append, List.mem_cons, List.not_mem_nil, or_false] at member
  rcases member with rfl | rfl | rfl | rfl | rfl
  · exact scanText_malformed malformed rfl
  · exact scanText_malformed malformed rfl
  · exact scanText_malformed malformed rfl
  · exact scanText_malformed malformed rfl
  · exact scanText_malformed malformed rfl

/-- The scans find what a line means that is no section. -/
theorem lineFound_scanAssignment
    (line : List UInt8)
    (b : LineBuffers) :
    LineFound b (assignmentOf line) (scanAssignment line b) := by
  by_cases malformed :
      line.takeWhile (· ≠ equalsSign) = [] ∨ equalsSign ∉ line
  · have short := formats_short malformed
    obtain ⟨noValue, kept⟩ := scanFirst_of_short
      (fun format member => short format (List.mem_append_left _ member)) b
    obtain ⟨noEmpty, keptAgain⟩ := scanFirst_of_short
      (fun format member => short format (List.mem_append_right _ member))
      (scanFirst line valueFormats b).2
    rw [assignmentOf, if_pos malformed]
    unfold scanAssignment
    split
    · next found =>
        rw [found] at noValue
        cases noValue
    · next after failed =>
        rw [failed] at kept keptAgain noEmpty
        split
        · next found =>
            rw [found] at noEmpty
            cases noEmpty
        · next last failedAgain =>
            rw [failedAgain] at keptAgain
            exact ⟨rfl, keptAgain.trans kept⟩
  · obtain ⟨named, present⟩ := not_or.mp malformed
    rw [not_not] at present
    rw [assignmentOf, if_neg malformed]
    unfold scanAssignment
    by_cases empty : rightText (rightSide line) = []
    · obtain ⟨noValue, kept⟩ := scanFirst_of_short
        (valueFormats_short named present empty) b
      obtain ⟨value, found⟩ := scanFirst_emptyFormats named present
        (scanFirst line valueFormats b).2
      split
      · next stored =>
          rw [stored] at noValue
          cases noValue
      · next after failed =>
          rw [failed] at kept found
          simp only at kept found
          rw [found, empty]
          refine ⟨rfl, ?_⟩
          simp only [kept]
          rfl
    · rw [scanFirst_valueFormats named present empty]
      exact ⟨rfl, rfl⟩

/-- Brackets around a line. -/
theorem lineFound_header
    (line : List UInt8)
    (opened : line.head? = some leftBracket)
    (b : LineBuffers) :
    LineFound b (.header (sectionName line))
      (.lineSection,
        { b with
          sectionBuf :=
            strlwc
              (strstrip
                ((scanText sectionFormat line).headD b.sectionBuf)) }) := by
  cases line with
  | nil =>
      cases opened
  | cons first rest =>
      rw [List.head?_cons, Option.some.injEq] at opened
      subst opened
      refine ⟨rfl, ?_⟩
      rw [sectionFormat, scanText, if_pos rfl, scanText, sectionName,
        List.drop_succ_cons, List.drop_zero]
      split <;> rfl

/--
`iniparser_line` finds what the stripped line means, whatever the buffers
held before; only the section can be left from an earlier line.
-/
theorem iniparserLine_statement
    (inputLine : List UInt8)
    (b : LineBuffers) :
    LineFound b (statementOf (strstrip inputLine))
      (iniparserLine inputLine b) := by
  unfold iniparserLine statementOf
  generalize strstrip inputLine = line
  cases line with
  | nil =>
      exact ⟨.inl rfl, rfl⟩
  | cons first rest =>
      have notEmpty : ¬ (first :: rest).length < 1 := by simp
      have last : (first :: rest).getLastD 0 = rightBracket ↔
          (first :: rest).getLast? = some rightBracket := by
        rw [List.getLastD_eq_getLast?, List.getLast?_cons,
          Option.getD_some, Option.some.injEq]
      simp only [notEmpty, if_false, List.headD_cons, List.head?_cons,
        Option.some.injEq, last, reduceCtorEq, false_or]
      by_cases comment : first = numberSign
      · rw [if_pos comment, if_pos comment]
        exact ⟨.inr rfl, rfl⟩
      · rw [if_neg comment, if_neg comment]
        split
        · next brackets =>
            exact lineFound_header (first :: rest)
              (congrArg some brackets.1) b
        · exact lineFound_scanAssignment _ b

/-- Lower case changes no white space and is lower case itself. -/
theorem toLower_octet (c : UInt8) :
    isSpace (toLower c) = isSpace c ∧ toLower (toLower c) = toLower c := by
  have octets : ∀ value : Fin 256,
      isSpace (toLower (UInt8.ofNat value.val)) =
          isSpace (UInt8.ofNat value.val) ∧
        toLower (toLower (UInt8.ofNat value.val)) =
          toLower (UInt8.ofNat value.val) := by
    decide +kernel
  have here := octets ⟨c.toNat, c.toNat_lt⟩
  rwa [UInt8.ofNat_toNat] at here

/-- A text that neither begins nor ends with white space. -/
def Stripped (text : List UInt8) : Prop :=
  (∀ first ∈ text.head?, isSpace first = false) ∧
    ∀ last ∈ text.getLast?, isSpace last = false

instance (text : List UInt8) : Decidable (Stripped text) :=
  inferInstanceAs (Decidable (_ ∧ _))

/-- `strstrip` strips. -/
theorem stripped_strstrip (text : List UInt8) :
    Stripped (strstrip text) := by
  unfold strstrip
  constructor
  · intro first starts
    obtain ⟨rest, parts⟩ := List.rdropWhile_prefix isSpace
      (text.dropWhile isSpace)
    have same :
        first ∈ (text.dropWhile isSpace).head? := by
      rw [← parts]
      exact List.mem_head?_append_of_mem_head? starts
    have visible := List.head?_dropWhile_not isSpace text
    rw [Option.mem_def.mp same] at visible
    simpa using visible
  · intro last ends
    obtain ⟨nonempty, rfl⟩ := List.mem_getLast?_eq_getLast ends
    have visible := List.rdropWhile_last_not isSpace _ nonempty
    simpa using visible

/-- A stripped text is left alone. -/
theorem Stripped.strstrip_eq
    {text : List UInt8}
    (stripped : Stripped text) :
    strstrip text = text := by
  have front : text.dropWhile isSpace = text := by
    cases text with
    | nil =>
        rfl
    | cons first rest =>
        have visible := stripped.1 first rfl
        simp [visible]
  rw [strstrip, front, List.rdropWhile_eq_self_iff]
  intro nonempty
  have visible := stripped.2 _ (List.getLast?_eq_getLast_of_ne_nil nonempty)
  simp [visible]

/-- Lower case keeps a text stripped. -/
theorem Stripped.strlwc
    {text : List UInt8}
    (stripped : Stripped text)
    (short : text.length ≤ asciiLineSz) :
    Stripped (strlwc text) := by
  rw [LdapProxy.strlwc, List.take_of_length_le short]
  constructor
  · intro first starts
    rw [List.head?_map, Option.mem_map] at starts
    obtain ⟨octet, starts, rfl⟩ := starts
    rw [(toLower_octet octet).1]
    exact stripped.1 octet starts
  · intro last ends
    rw [List.getLast?_map, Option.mem_map] at ends
    obtain ⟨octet, ends, rfl⟩ := ends
    rw [(toLower_octet octet).1]
    exact stripped.2 octet ends

/-- A lower text is left alone. -/
theorem strlwc_strlwc (text : List UInt8) :
    strlwc (strlwc text) = strlwc text := by
  have lower : (toLower ∘ toLower) = toLower :=
    funext fun c => (toLower_octet c).2
  unfold strlwc
  rw [← List.map_take, List.map_map, lower, List.take_take, Nat.min_self]

/-- Names as they are stored: stripped and in lower case. -/
def TidyName (name : List UInt8) : Prop :=
  strlwc (strstrip name) = name

instance (name : List UInt8) : Decidable (TidyName name) :=
  inferInstanceAs (Decidable (_ = _))

/-- A stored name is tidy. -/
theorem tidyName_strlwc
    {text : List UInt8}
    (short : text.length ≤ asciiLineSz) :
    TidyName (strlwc (strstrip text)) := by
  have shorter : (strstrip text).length ≤ asciiLineSz :=
    ((List.rdropWhile_prefix _ _).length_le.trans
      (List.dropWhile_suffix _).length_le).trans short
  rw [TidyName, ((stripped_strstrip text).strlwc shorter).strstrip_eq,
    strlwc_strlwc]

end LdapProxy

import LdapProxy.IniLoad

namespace LdapProxy

open LdapProxy.NumberText

/-!
# Saving a dictionary

`iniparser_dump_ini` writes the sections of a dictionary with their keys; it is
documented to write a loadable file.  `iniparserLoad_dumpIni` states for which
dictionaries `iniparser_load` reads back what was saved.
-/

/-- `:` -/
def colon : UInt8 := 58

/-- `strchr(key, ':')==NULL`: the key is the name of a section. -/
def IsSection (key : List UInt8) : Prop :=
  colon ∉ key

instance (key : List UInt8) : Decidable (IsSection key) :=
  inferInstanceAs (Decidable (¬ _))

/-- The loop of `iniparser_getnsec`. -/
def getnsecLoop : List (Option Entry) → Nat
  | [] =>
      0
  | none :: rest =>
      getnsecLoop rest
  | some entry :: rest =>
      if IsSection entry.key then
        getnsecLoop rest + 1
      else
        getnsecLoop rest

/-- `iniparser_getnsec` -/
def iniparserGetnsec (d : Dictionary) : Nat :=
  getnsecLoop d.slots

/-- The loop of `iniparser_getsecname`; `none` is `NULL`. -/
def getsecnameLoop (n : Nat) :
    List (Option Entry) → Nat → Option (List UInt8)
  | [], _ =>
      none
  | none :: rest, foundsec =>
      getsecnameLoop n rest foundsec
  | some entry :: rest, foundsec =>
      if IsSection entry.key then
        if n < foundsec + 1 then
          some entry.key
        else
          getsecnameLoop n rest (foundsec + 1)
      else
        getsecnameLoop n rest foundsec

/-- `iniparser_getsecname` -/
def iniparserGetsecname (d : Dictionary) (n : Nat) : Option (List UInt8) :=
  getsecnameLoop n d.slots 0

/-- `%s` with a string that may be `NULL`. -/
def printedString : Option (List UInt8) → List UInt8
  | none => ascii "(null)"
  | some text => text

/-- `"%s = %s\n"` for every key, when there is no section. -/
def dumpPlainLoop : List (Option Entry) → List UInt8
  | [] =>
      []
  | none :: rest =>
      dumpPlainLoop rest
  | some entry :: rest =>
      entry.key ++ ascii " = " ++ printedString entry.val ++ [newline] ++
        dumpPlainLoop rest

/-- `%-30s` -/
def padded (text : List UInt8) : List UInt8 :=
  text ++ List.replicate (30 - text.length) 32

/-- `"%-30s = %s"` -/
def valueLine (name value : List UInt8) : List UInt8 :=
  padded name ++ ascii " = " ++ value

/-- The inner loop: the keys that begin with `keym`. -/
def dumpKeysLoop (keym : List UInt8) : List (Option Entry) → List UInt8
  | [] =>
      []
  | none :: rest =>
      dumpKeysLoop keym rest
  | some entry :: rest =>
      if entry.key.take keym.length = keym then
        valueLine (entry.key.drop keym.length) (entry.val.getD []) ++
          newline :: dumpKeysLoop keym rest
      else
        dumpKeysLoop keym rest

/-- `"\n[%s]\n"` and the keys of a section. -/
def dumpSection (d : Dictionary) (secname : List UInt8) : List UInt8 :=
  newline :: leftBracket :: secname ++ [rightBracket, newline] ++
    dumpKeysLoop (secname ++ [colon]) d.slots

/-- `iniparser_dump_ini`, when the names of the sections fit into `keym`. -/
def iniparserDumpIni (d : Dictionary) : List UInt8 :=
  let nsec := iniparserGetnsec d
  if nsec < 1 then
    dumpPlainLoop d.slots
  else
    ((List.range nsec).flatMap fun i =>
      (iniparserGetsecname d i).elim [] (dumpSection d)) ++ [newline]

/-- The names of the sections, in the order of their slots. -/
def Dictionary.sections (d : Dictionary) : List (List UInt8) :=
  (d.entries.map Entry.key).filter fun key => IsSection key

/-- The lines of the keys of a section. -/
def keyLines (keym : List UInt8) (entries : List Entry) :
    List (List UInt8) :=
  (entries.filter fun entry => entry.key.take keym.length = keym).map
    fun entry =>
      valueLine (entry.key.drop keym.length) (entry.val.getD [])

/-- The lines of a section. -/
def sectionLines (d : Dictionary) (secname : List UInt8) :
    List (List UInt8) :=
  [] :: (leftBracket :: secname ++ [rightBracket]) ::
    keyLines (secname ++ [colon]) d.entries

/-- The sections are counted. -/
theorem getnsecLoop_eq (slots : List (Option Entry)) :
    getnsecLoop slots =
      ((slots.reduceOption.map Entry.key).filter
        fun key => IsSection key).length := by
  induction slots with
  | nil =>
      rfl
  | cons slot rest inductionHypothesis =>
      cases slot with
      | none =>
          rw [getnsecLoop, inductionHypothesis,
            List.reduceOption_cons_of_none]
      | some entry =>
          rw [getnsecLoop, inductionHypothesis,
            List.reduceOption_cons_of_some, List.map_cons,
            List.filter_cons]
          by_cases isSection : IsSection entry.key
          · simp [isSection]
          · simp [isSection]

/-- The sections are found by their number. -/
theorem getsecnameLoop_eq
    (n : Nat)
    (slots : List (Option Entry))
    {foundsec : Nat}
    (missing : foundsec ≤ n) :
    getsecnameLoop n slots foundsec =
      ((slots.reduceOption.map Entry.key).filter
        fun key => IsSection key)[n - foundsec]? := by
  induction slots generalizing foundsec with
  | nil =>
      rfl
  | cons slot rest inductionHypothesis =>
      cases slot with
      | none =>
          rw [getsecnameLoop, inductionHypothesis missing,
            List.reduceOption_cons_of_none]
      | some entry =>
          rw [getsecnameLoop, List.reduceOption_cons_of_some,
            List.map_cons, List.filter_cons]
          by_cases isSection : IsSection entry.key
          · simp only [isSection, if_true, decide_true]
            by_cases here : n < foundsec + 1
            · have first : n - foundsec = 0 := by omega
              rw [if_pos here, first, List.getElem?_cons_zero]
            · have later : n - foundsec = n - (foundsec + 1) + 1 := by
                omega
              rw [if_neg here, inductionHypothesis (by omega), later,
                List.getElem?_cons_succ]
          · simp only [isSection, if_false, decide_false,
              inductionHypothesis missing]
            rfl

/-- The lines of two lists of lines. -/
theorem joinLines_append (first second : List (List UInt8)) :
    joinLines (first ++ second) = joinLines first ++ joinLines second :=
  List.flatMap_append

/-- The inner loop writes the lines of the keys. -/
theorem dumpKeysLoop_eq
    (keym : List UInt8)
    (slots : List (Option Entry)) :
    dumpKeysLoop keym slots =
      joinLines (keyLines keym slots.reduceOption) := by
  induction slots with
  | nil =>
      rfl
  | cons slot rest inductionHypothesis =>
      cases slot with
      | none =>
          rw [dumpKeysLoop, inductionHypothesis,
            List.reduceOption_cons_of_none]
      | some entry =>
          rw [dumpKeysLoop, inductionHypothesis,
            List.reduceOption_cons_of_some, keyLines, keyLines,
            List.filter_cons]
          by_cases inSection : entry.key.take keym.length = keym
          · simp [inSection, joinLines]
          · simp [inSection]

/-- A section is written as its lines. -/
theorem dumpSection_eq
    (d : Dictionary)
    (secname : List UInt8) :
    dumpSection d secname = joinLines (sectionLines d secname) := by
  rw [dumpSection, dumpKeysLoop_eq]
  simp [sectionLines, joinLines, Dictionary.entries]

/-- A loop over the indices of a list is one over its elements. -/
theorem flatMap_range_getElem?
    {First Second : Type}
    (items : List First)
    (each : First → List Second) :
    ((List.range items.length).flatMap fun i =>
        (items[i]?).elim [] each) =
      items.flatMap each := by
  induction items with
  | nil =>
      rfl
  | cons first rest inductionHypothesis =>
      rw [List.length_cons, List.range_succ_eq_map, List.flatMap_cons,
        List.flatMap_map, List.flatMap_cons, ← inductionHypothesis]
      rfl

/-- A dictionary with sections is written section by section. -/
theorem iniparserDumpIni_eq
    {d : Dictionary}
    (sectioned : d.sections ≠ []) :
    iniparserDumpIni d =
      joinLines (d.sections.flatMap (sectionLines d) ++ [[]]) := by
  have nsec : iniparserGetnsec d = d.sections.length :=
    getnsecLoop_eq d.slots
  have names (i : Nat) : iniparserGetsecname d i = d.sections[i]? :=
    getsecnameLoop_eq i d.slots (Nat.zero_le i)
  have some_ : ¬ d.sections.length < 1 := by
    rw [Nat.lt_one_iff, List.length_eq_zero_iff]
    exact sectioned
  unfold iniparserDumpIni
  simp only [nsec, names]
  rw [if_neg some_, flatMap_range_getElem?, joinLines_append]
  congr 1
  have each : dumpSection d = fun secname =>
      joinLines (sectionLines d secname) :=
    funext (dumpSection_eq d)
  rw [each, joinLines, List.flatMap_assoc]
  rfl

/-- The lines of joined lines. -/
theorem textLines_joinLines
    {lines : List (List UInt8)}
    (whole : ∀ line ∈ lines, newline ∉ line) :
    textLines (joinLines lines) = (lines, []) := by
  induction lines with
  | nil =>
      rfl
  | cons line rest inductionHypothesis =>
      have later := inductionHypothesis fun other member =>
        whole other (List.mem_cons_of_mem _ member)
      have lineWhole := whole line (List.mem_cons_self ..)
      have joined : joinLines (line :: rest) =
          line ++ newline :: joinLines rest := by
        simp [joinLines]
      rw [joined]
      clear whole joined
      induction line with
      | nil =>
          rw [List.nil_append, textLines, later]
          rfl
      | cons c line sameLine =>
          obtain ⟨notFirst, notLater⟩ :=
            List.ne_and_not_mem_of_not_mem_cons lineWhole
          have notNewline : (c == newline) = false := by
            simpa using Ne.symm notFirst
          rw [List.cons_append, textLines, sameLine notLater, notNewline]

/-- A line that is read as it stands. -/
structure PlainLine (line : List UInt8) : Prop where
  whole : newline ∉ line
  noZero : (0 : UInt8) ∉ line
  short : line.length + 1 < asciiLineSz
  single : (line.rdropWhile isSpace).getLast? ≠ some backslash

/-- What a line says by itself. -/
def lineStatement (line : List UInt8) : Statement :=
  statementOf (strstrip (line.rdropWhile isSpace))

/-- Plain lines are read one by one. -/
theorem readFile_joinLines
    {lines : List (List UInt8)}
    (plain : ∀ line ∈ lines, PlainLine line) :
    readFile (joinLines lines) = (lines.map lineStatement, true) := by
  rw [readFile, textLines_joinLines fun line member =>
    (plain line member).whole]
  induction lines with
  | nil =>
      rfl
  | cons line rest inductionHypothesis =>
      have later := inductionHypothesis fun other member =>
        plain other (List.mem_cons_of_mem _ member)
      have here := plain line (List.mem_cons_self ..)
      have fits :
          ¬ ((0 : UInt8) ∈ [] ++ line ∨
            asciiLineSz ≤ ([] ++ line).length + 1) :=
        not_or.mpr ⟨here.noZero, Nat.not_le_of_lt here.short⟩
      simp only at later
      rw [readLines, if_neg fits, List.nil_append, if_neg here.single,
        later]
      rfl

/-- The name of a section that can be saved. -/
structure SectionText (name : List UInt8) : Prop where
  named : name ≠ []
  tidy : TidyName name
  bracketed : rightBracket ∉ name
  whole : newline ∉ name
  noZero : (0 : UInt8) ∉ name
  short : name.length + 3 < asciiLineSz

/-- The name of a key that can be saved. -/
structure NameText (name : List UInt8) : Prop where
  named : name ≠ []
  tidy : TidyName name
  unassigned : equalsSign ∉ name
  whole : newline ∉ name
  noZero : (0 : UInt8) ∉ name
  noComment : name.head? ≠ some numberSign
  noSection : name.head? ≠ some leftBracket

/-- A value that can be saved. -/
structure ValueText (value : List UInt8) : Prop where
  stripped : Stripped value
  noComment : ∀ c ∈ value, startsComment c = false
  whole : newline ∉ value
  noZero : (0 : UInt8) ∉ value
  noDouble : value.head? ≠ some doubleQuote
  noSingle : value.head? ≠ some singleQuote
  single : value.getLast? ≠ some backslash

/-- A key of a section with a value that can be saved on one line. -/
structure SavedKey
    (d : Dictionary)
    (entry : Entry)
    (secname name value : List UInt8) :
    Prop where
  key : entry.key = iniKey secname name
  val : entry.val = some value
  inSection : secname ∈ d.sections
  nameText : NameText name
  valueText : ValueText value
  short : max 30 name.length + value.length + 4 < asciiLineSz
  keyShort : entry.key.length ≤ asciiLineSz

/--
Every section has no value and a name that can be saved, and every other key
belongs to a section that is there.
-/
structure Saveable (d : Dictionary) : Prop where
  sections :
    ∀ entry ∈ d.entries, IsSection entry.key →
      entry.val = none ∧ SectionText entry.key
  keys :
    ∀ entry ∈ d.entries, ¬ IsSection entry.key →
      ∃ secname name value, SavedKey d entry secname name value

/-- A tidy name is stripped. -/
theorem TidyName.stripped
    {name : List UInt8}
    (tidy : TidyName name)
    (short : name.length ≤ asciiLineSz) :
    Stripped name := by
  have shorter := (length_strstrip name).trans short
  have stripped := (stripped_strstrip name).strlwc shorter
  rwa [tidy] at stripped

/-- A stripped line keeps its end. -/
theorem Stripped.rdropWhile_eq
    {text : List UInt8}
    (stripped : Stripped text) :
    text.rdropWhile isSpace = text := by
  rw [List.rdropWhile_eq_self_iff]
  intro nonempty
  have visible := stripped.2 _ (List.getLast?_eq_getLast_of_ne_nil nonempty)
  simp [visible]

/-- A blank line says nothing. -/
theorem lineStatement_nil : lineStatement [] = .nothing :=
  rfl

/-- A blank line is read as it stands. -/
theorem plainLine_nil : PlainLine [] where
  whole := List.not_mem_nil
  noZero := List.not_mem_nil
  short := by decide
  single := by decide

namespace SectionText

variable {name : List UInt8}

/-- The line of a section is stripped. -/
theorem stripped_line (name : List UInt8) :
    Stripped (leftBracket :: name ++ [rightBracket]) := by
  constructor
  · rintro first starts
    rw [List.cons_append, List.head?_cons, Option.mem_some_iff] at starts
    rw [← starts]
    decide
  · rintro last ends
    rw [List.getLast?_concat, Option.mem_some_iff] at ends
    rw [← ends]
    decide

/-- The line of a section is read as it stands. -/
theorem plainLine (text : SectionText name) :
    PlainLine (leftBracket :: name ++ [rightBracket]) where
  whole := by
    have other : newline ≠ leftBracket ∧ newline ≠ rightBracket := by
      decide
    simp [text.whole, other]
  noZero := by
    have other : (0 : UInt8) ≠ leftBracket ∧ 0 ≠ rightBracket := by
      decide
    simp [text.noZero, other]
  short := by
    have short := text.short
    simp only [List.length_append, List.length_cons, List.length_nil]
    omega
  single := by
    have other : rightBracket ≠ backslash := by decide
    rw [(stripped_line name).rdropWhile_eq,
      List.getLast?_concat]
    simpa using other

/-- The line of a section names it. -/
theorem lineStatement_eq (text : SectionText name) :
    lineStatement (leftBracket :: name ++ [rightBracket]) =
      .header (some name) := by
  have notComment : ¬ leftBracket = numberSign := by decide
  have inside :
      (name ++ [rightBracket]).takeWhile (· ≠ rightBracket) = name := by
    rw [List.takeWhile_append_of_pos]
    · simp
    · intro c member
      have other : c ≠ rightBracket :=
        ne_of_mem_of_not_mem member text.bracketed
      simpa using other
  rw [lineStatement, (stripped_line name).rdropWhile_eq,
    (stripped_line name).strstrip_eq, statementOf]
  rw [if_neg (by simp [notComment]),
    if_pos ⟨rfl, List.getLast?_concat⟩,
    sectionName, List.cons_append, List.drop_succ_cons, List.drop_zero,
    inside, if_neg text.named, text.tidy]

end SectionText

/-- White space behind a text is dropped with the end of the text. -/
theorem rdropWhile_append_spaces
    (text : List UInt8)
    {spaces : List UInt8}
    (blank : ∀ c ∈ spaces, isSpace c = true) :
    (text ++ spaces).rdropWhile isSpace = text.rdropWhile isSpace := by
  unfold List.rdropWhile
  rw [List.reverse_append, List.dropWhile_append_of_pos]
  intro c member
  exact blank c (List.mem_reverse.mp member)

/-- A stripped text is what is left when white space stands behind it. -/
theorem Stripped.strstrip_append
    {text : List UInt8}
    (stripped : Stripped text)
    (nonempty : text ≠ [])
    {spaces : List UInt8}
    (blank : ∀ c ∈ spaces, isSpace c = true) :
    strstrip (text ++ spaces) = text := by
  obtain ⟨first, rest, rfl⟩ := List.exists_cons_of_ne_nil nonempty
  have visible := stripped.1 first rfl
  have front : (first :: rest ++ spaces).dropWhile isSpace =
      first :: rest ++ spaces := by
    simp [visible]
  rw [strstrip, front, rdropWhile_append_spaces _ blank,
    stripped.rdropWhile_eq]

/-- What stands in front of the equals sign. -/
def leftSide (name : List UInt8) : List UInt8 :=
  name ++ (List.replicate (30 - name.length) 32 ++ [32])

/-- The parts of the line of a key. -/
theorem valueLine_eq (name value : List UInt8) :
    valueLine name value =
      leftSide name ++ equalsSign :: 32 :: value := by
  have sign : ascii " = " = [32, equalsSign, 32] := by decide
  simp [valueLine, padded, leftSide, sign]

namespace ValueText

variable {value : List UInt8}

/-- Reading a value that was saved returns it. -/
theorem rightText_eq (text : ValueText value) :
    unquoteEmpty (strstrip (rightText value)) = value := by
  have noQuotes (quote : UInt8) (other : value.head? ≠ some quote) :
      quotedText quote value = none := by
    cases value with
    | nil =>
        rfl
    | cons first rest =>
        rw [quotedText]
        exact if_neg fun both => other (congrArg some both.1)
  have all : value.takeWhile (fun c => !startsComment c) = value := by
    rw [List.takeWhile_eq_self_iff]
    intro c member
    rw [text.noComment c member]
    rfl
  rw [rightText, noQuotes _ text.noDouble, noQuotes _ text.noSingle, all,
    Option.or_none, Option.getD_none, text.stripped.strstrip_eq,
    unquoteEmpty]
  refine if_neg ?_
  rintro (quotes | quotes)
  · exact text.noDouble (by rw [quotes]; rfl)
  · exact text.noSingle (by rw [quotes]; rfl)

/-- The end of the line of a key is dropped as far as it is blank. -/
theorem rdropWhile_line
    (text : ValueText value)
    (front : List UInt8) :
    ∃ right,
      (front ++ equalsSign :: 32 :: value).rdropWhile isSpace =
          front ++ equalsSign :: right ∧
        right.dropWhile isSpace = value ∧
        ∀ last ∈ (front ++ equalsSign :: right).getLast?,
          isSpace last = false ∧ last ≠ backslash := by
  cases empty : value with
  | nil =>
      have split : front ++ [equalsSign, 32] =
          front ++ [equalsSign] ++ [32] := by
        simp
      refine ⟨[], ?_, rfl, ?_⟩
      · rw [split, List.rdropWhile_concat_pos _ _ _ (by decide),
          List.rdropWhile_concat_neg _ _ _ (by decide)]
      · intro last ends
        rw [List.getLast?_concat, Option.mem_some_iff] at ends
        rw [← ends]
        decide
  | cons first rest =>
      have visible := text.stripped.1 first (by rw [empty]; rfl)
      have lastOf : (front ++ equalsSign :: 32 :: first :: rest).getLast? =
          value.getLast? := by
        rw [empty]
        simp [List.getLast?_append, List.getLast?_cons]
      have ends : ∀ last ∈
          (front ++ equalsSign :: 32 :: first :: rest).getLast?,
          isSpace last = false ∧ last ≠ backslash := by
        intro last ends
        rw [lastOf] at ends
        refine ⟨text.stripped.2 last ends, ?_⟩
        rintro rfl
        exact text.single ends
      refine ⟨32 :: first :: rest, ?_, ?_, ends⟩
      · rw [List.rdropWhile_eq_self_iff]
        intro nonempty
        rw [Bool.not_eq_true]
        exact (ends _ (List.getLast?_eq_getLast_of_ne_nil nonempty)).1
      · have blank : isSpace 32 = true := by decide
        simp [blank, visible]

end ValueText

namespace SavedKey

variable
  {d : Dictionary}
  {entry : Entry}
  {secname name value : List UInt8}

/-- The name of a saved key is short. -/
theorem nameShort (saved : SavedKey d entry secname name value) :
    name.length ≤ asciiLineSz := by
  have short := saved.short
  omega

/-- The key of a line is its name. -/
theorem strstrip_leftSide (saved : SavedKey d entry secname name value) :
    strstrip (leftSide name) = name := by
  have stripped := saved.nameText.tidy.stripped saved.nameShort
  refine stripped.strstrip_append saved.nameText.named ?_
  intro c member
  rcases List.mem_append.mp member with inPad | isSpace
  · rw [List.eq_of_mem_replicate inPad]
    decide
  · rw [List.mem_singleton.mp isSpace]
    decide

/-- No equals sign stands in the left side of a line. -/
theorem equalsSign_notMem (saved : SavedKey d entry secname name value) :
    equalsSign ∉ leftSide name := by
  have other : equalsSign ≠ 32 := by decide
  simp [leftSide, saved.nameText.unassigned, other]

/-- The line of a key assigns its value. -/
theorem lineStatement_eq (saved : SavedKey d entry secname name value) :
    lineStatement (valueLine name value) = .assign name value := by
  obtain ⟨right, line, behind, ends⟩ :=
    saved.valueText.rdropWhile_line (leftSide name)
  obtain ⟨first, rest, named⟩ :=
    List.exists_cons_of_ne_nil saved.nameText.named
  have stripped := saved.nameText.tidy.stripped saved.nameShort
  have front : (leftSide name).head? = some first := by
    rw [leftSide, named]
    rfl
  have lineStripped : Stripped (leftSide name ++ equalsSign :: right) := by
    refine ⟨?_, fun last isLast => (ends last isLast).1⟩
    intro c starts
    rw [List.head?_append, front, Option.some_or,
      Option.mem_some_iff] at starts
    subst c
    exact stripped.1 first (by rw [named]; rfl)
  have left :
      (leftSide name ++ equalsSign :: right).takeWhile (· ≠ equalsSign) =
        leftSide name := by
    rw [List.takeWhile_append_of_pos]
    · simp
    · intro c member
      have other : c ≠ equalsSign :=
        ne_of_mem_of_not_mem member saved.equalsSign_notMem
      simpa using other
  have rightPart :
      rightSide (leftSide name ++ equalsSign :: right) = value := by
    rw [rightSide, List.dropWhile_append_of_pos]
    · simp [behind]
    · intro c member
      have other : c ≠ equalsSign :=
        ne_of_mem_of_not_mem member saved.equalsSign_notMem
      simpa using other
  have starts :
      (leftSide name ++ equalsSign :: right).head? = name.head? := by
    rw [List.head?_append, front, named]
    rfl
  have keyed : leftSide name ≠ [] := by
    intro empty
    rw [empty] at front
    cases front
  have lineKeyed : leftSide name ++ equalsSign :: right ≠ [] := by
    simp
  rw [lineStatement, valueLine_eq, line, lineStripped.strstrip_eq,
    statementOf, starts,
    if_neg (not_or.mpr ⟨lineKeyed, saved.nameText.noComment⟩),
    if_neg fun both => saved.nameText.noSection both.1, assignmentOf, left,
    rightPart, saved.strstrip_leftSide, saved.valueText.rightText_eq,
    if_neg (by simp [keyed])]
  have lower : strlwc name = name := by
    have tidy := saved.nameText.tidy
    rwa [TidyName, stripped.strstrip_eq] at tidy
  rw [lower]

/-- The line of a key is read as it stands. -/
theorem plainLine (saved : SavedKey d entry secname name value) :
    PlainLine (valueLine name value) := by
  obtain ⟨right, line, -, ends⟩ :=
    saved.valueText.rdropWhile_line (leftSide name)
  have otherNewline : newline ≠ 32 ∧ newline ≠ equalsSign := by decide
  have otherZero : (0 : UInt8) ≠ 32 ∧ 0 ≠ equalsSign := by decide
  have nameWhole := saved.nameText.whole
  have nameZero := saved.nameText.noZero
  have valueWhole := saved.valueText.whole
  have valueZero := saved.valueText.noZero
  rw [valueLine_eq]
  constructor
  · simp [leftSide, otherNewline, nameWhole, valueWhole]
  · simp [leftSide, otherZero, nameZero, valueZero]
  · have short := saved.short
    simp only [leftSide, List.length_append, List.length_cons,
      List.length_replicate, List.length_nil]
    omega
  · rw [line]
    intro isLast
    exact (ends _ isLast).2 rfl

end SavedKey

/-- A key belongs to the section in front of its first colon. -/
theorem take_iniKey_iff
    {first second : List UInt8}
    (firstSection : IsSection first)
    (secondSection : IsSection second)
    (name : List UInt8) :
    (iniKey first name).take (second ++ [colon]).length =
        second ++ [colon] ↔
      first = second := by
  have mark : ascii ":" = [colon] := by decide
  have front (secname : List UInt8) (isSection : IsSection secname)
      (rest : List UInt8) :
      (secname ++ colon :: rest).takeWhile (· ≠ colon) = secname := by
    rw [List.takeWhile_append_of_pos]
    · simp
    · intro c member
      have other : c ≠ colon := ne_of_mem_of_not_mem member isSection
      simpa using other
  constructor
  · intro same
    have parts := List.take_append_drop (second ++ [colon]).length
      (iniKey first name)
    rw [same, iniKey, mark, List.append_assoc, List.append_assoc] at parts
    have firstFront := front first firstSection name
    have secondFront := front second secondSection
      ((first ++ ([colon] ++ name)).drop (second ++ [colon]).length)
    rw [← firstFront, ← secondFront]
    exact congrArg _ parts.symm
  · rintro rfl
    rw [iniKey, mark, List.take_left]

/-- The name of a key stands behind its section. -/
theorem drop_iniKey (secname name : List UInt8) :
    (iniKey secname name).drop (secname ++ [colon]).length = name := by
  have mark : ascii ":" = [colon] := by decide
  rw [iniKey, mark, List.drop_left]

/-- The entries of the keys of a section. -/
def sectionKeys (d : Dictionary) (secname : List UInt8) : List Entry :=
  d.entries.filter fun entry =>
    entry.key.take (secname ++ [colon]).length = secname ++ [colon]

/-- What the lines of a section enter. -/
def sectionEntries (d : Dictionary) (secname : List UInt8) :
    List (List UInt8 × Option (List UInt8)) :=
  (secname, none) ::
    (sectionKeys d secname).map fun entry => (entry.key, entry.val)

namespace Saveable

variable {d : Dictionary}

/-- The sections of a dictionary have an entry and no colon. -/
theorem mem_sections {secname : List UInt8} :
    secname ∈ d.sections ↔
      (∃ entry ∈ d.entries, entry.key = secname) ∧ IsSection secname := by
  simp [Dictionary.sections]

/-- The names of the sections can be saved. -/
theorem sectionText
    (saveable : Saveable d)
    {secname : List UInt8}
    (member : secname ∈ d.sections) :
    SectionText secname := by
  obtain ⟨⟨entry, inEntries, rfl⟩, isSection⟩ := mem_sections.mp member
  exact (saveable.sections entry inEntries isSection).2

/-- The keys that are written for a section are saved ones of it. -/
theorem savedKey
    (saveable : Saveable d)
    {secname : List UInt8}
    (inSections : secname ∈ d.sections)
    {entry : Entry}
    (member : entry ∈ sectionKeys d secname) :
    ∃ name value, SavedKey d entry secname name value := by
  obtain ⟨inEntries, inSection⟩ := List.mem_filter.mp member
  rw [decide_eq_true_eq] at inSection
  have notSection : ¬ IsSection entry.key := by
    rw [IsSection, not_not]
    refine List.take_subset (secname ++ [colon]).length _ ?_
    rw [inSection]
    simp
  obtain ⟨other, name, value, saved⟩ :=
    saveable.keys entry inEntries notSection
  rw [saved.key, take_iniKey_iff (mem_sections.mp saved.inSection).2
    (mem_sections.mp inSections).2] at inSection
  exact ⟨name, value, inSection ▸ saved⟩

/-- The lines of a section are read as they stand. -/
theorem plainLine
    (saveable : Saveable d)
    {secname : List UInt8}
    (member : secname ∈ d.sections) :
    ∀ line ∈ sectionLines d secname, PlainLine line := by
  intro line inLines
  rw [sectionLines, List.mem_cons, List.mem_cons] at inLines
  rcases inLines with rfl | rfl | inKeys
  · exact plainLine_nil
  · exact (saveable.sectionText member).plainLine
  · obtain ⟨entry, inSection, rfl⟩ := List.mem_map.mp inKeys
    obtain ⟨name, value, saved⟩ := saveable.savedKey member inSection
    rw [saved.key, saved.val, drop_iniKey]
    exact saved.plainLine

/-- The statements of the lines of a section. -/
theorem map_lineStatement
    (saveable : Saveable d)
    {secname : List UInt8}
    (member : secname ∈ d.sections) :
    (sectionLines d secname).map lineStatement =
      .nothing :: .header (some secname) ::
        (sectionKeys d secname).map fun entry =>
          .assign (entry.key.drop (secname ++ [colon]).length)
            (entry.val.getD []) := by
  rw [sectionLines, List.map_cons, List.map_cons, lineStatement_nil,
    (saveable.sectionText member).lineStatement_eq, keyLines, List.map_map]
  congr 2
  refine List.map_congr_left ?_
  intro entry inSection
  obtain ⟨name, value, saved⟩ := saveable.savedKey member inSection
  rw [Function.comp_apply, saved.key, saved.val, drop_iniKey]
  exact saved.lineStatement_eq

/-- What the lines of a section enter. -/
theorem entriesOf_sectionLines
    (saveable : Saveable d)
    {secname : List UInt8}
    (member : secname ∈ d.sections)
    (current : List UInt8)
    (later : List Statement) :
    entriesOf current
        ((sectionLines d secname).map lineStatement ++ later) =
      sectionEntries d secname ++ entriesOf secname later := by
  rw [saveable.map_lineStatement member, sectionEntries,
    List.cons_append, List.cons_append, entriesOf, entriesOf,
    Option.getD_some, List.cons_append]
  congr 1
  have each (entry : Entry) (inSection : entry ∈ sectionKeys d secname) :=
    saveable.savedKey member inSection
  generalize sectionKeys d secname = keyed at each ⊢
  induction keyed with
  | nil =>
      rfl
  | cons entry rest inductionHypothesis =>
      obtain ⟨name, value, saved⟩ := each entry (List.mem_cons_self ..)
      have laterEntries := inductionHypothesis fun other inRest =>
        each other (List.mem_cons_of_mem _ inRest)
      rw [List.map_cons, List.map_cons, List.cons_append, entriesOf,
        laterEntries, List.cons_append, saved.key, saved.val, drop_iniKey]
      rfl

/-- What the lines of all sections enter. -/
theorem entriesOf_sections
    (saveable : Saveable d)
    {secnames : List (List UInt8)}
    (members : ∀ secname ∈ secnames, secname ∈ d.sections)
    (current : List UInt8) :
    entriesOf current
        ((secnames.flatMap (sectionLines d) ++ [[]]).map lineStatement) =
      secnames.flatMap (sectionEntries d) := by
  induction secnames generalizing current with
  | nil =>
      rfl
  | cons secname rest inductionHypothesis =>
      rw [List.flatMap_cons, List.append_assoc, List.map_append,
        saveable.entriesOf_sectionLines
          (members secname (List.mem_cons_self ..)),
        inductionHypothesis (fun other inRest =>
          members other (List.mem_cons_of_mem _ inRest)),
        List.flatMap_cons]

/-- The lines enter exactly the entries of the dictionary. -/
theorem mem_entries_iff
    (saveable : Saveable d)
    {key : List UInt8}
    {val : Option (List UInt8)} :
    (key, val) ∈ d.sections.flatMap (sectionEntries d) ↔
      ∃ entry ∈ d.entries, entry.key = key ∧ entry.val = val := by
  rw [List.mem_flatMap]
  constructor
  · rintro ⟨secname, inSections, entered⟩
    rcases List.mem_cons.mp entered with isSection | inKeys
    · rw [Prod.mk.injEq] at isSection
      obtain ⟨rfl, rfl⟩ := isSection
      obtain ⟨⟨entry, inEntries, rfl⟩, noColon⟩ :=
        mem_sections.mp inSections
      exact ⟨entry, inEntries, rfl,
        (saveable.sections entry inEntries noColon).1⟩
    · obtain ⟨entry, inSection, same⟩ := List.mem_map.mp inKeys
      rw [Prod.mk.injEq] at same
      exact ⟨entry, (List.mem_filter.mp inSection).1, same.1, same.2⟩
  · rintro ⟨entry, inEntries, rfl, rfl⟩
    by_cases isSection : IsSection entry.key
    · refine ⟨entry.key,
        mem_sections.mpr ⟨⟨entry, inEntries, rfl⟩, isSection⟩, ?_⟩
      rw [(saveable.sections entry inEntries isSection).1]
      exact List.mem_cons_self ..
    · obtain ⟨secname, name, value, saved⟩ :=
        saveable.keys entry inEntries isSection
      have isName := (mem_sections.mp saved.inSection).2
      refine ⟨secname, saved.inSection, List.mem_cons_of_mem _ ?_⟩
      refine List.mem_map.mpr ⟨entry, List.mem_filter.mpr
        ⟨inEntries, ?_⟩, rfl⟩
      rw [decide_eq_true_eq, saved.key]
      exact (take_iniKey_iff isName isName name).mpr rfl

end Saveable

/-- Without sections nothing can be saved and nothing is written. -/
theorem Saveable.dump_empty
    {d : Dictionary}
    (saveable : Saveable d)
    (unsectioned : d.sections = []) :
    iniparserDumpIni d = [] ∧ d.entries = [] := by
  have empty : d.entries = [] := by
    refine List.eq_nil_iff_forall_not_mem.mpr ?_
    intro entry member
    by_cases isSection : IsSection entry.key
    · have inSections := mem_sections.mpr
        ⟨⟨entry, member, rfl⟩, isSection⟩
      rw [unsectioned] at inSections
      cases inSections
    · obtain ⟨_, _, _, saved⟩ := saveable.keys entry member isSection
      have inSections := saved.inSection
      rw [unsectioned] at inSections
      cases inSections
  have plain (slots : List (Option Entry))
      (noEntry : slots.reduceOption = []) :
      dumpPlainLoop slots = [] := by
    induction slots with
    | nil =>
        rfl
    | cons slot rest inductionHypothesis =>
        cases slot with
        | none =>
            rw [List.reduceOption_cons_of_none] at noEntry
            exact inductionHypothesis noEntry
        | some entry =>
            rw [List.reduceOption_cons_of_some] at noEntry
            cases noEntry
  have nsec : iniparserGetnsec d = 0 := by
    have counted := getnsecLoop_eq d.slots
    rw [← Dictionary.entries, empty] at counted
    exact counted
  refine ⟨?_, empty⟩
  unfold iniparserDumpIni
  simp only [nsec]
  exact plain d.slots empty

/-- What is said last is one of the statements. -/
theorem lastSaid_mem
    {statements : List Statement}
    {last : Statement}
    (spoken : last ≠ .nothing)
    (said : lastSaid .nothing statements = last) :
    last ∈ statements := by
  unfold lastSaid at said
  rw [List.getLastD_eq_getLast?] at said
  cases found : (statements.filter (· ≠ .nothing)).getLast? with
  | none =>
      rw [found] at said
      exact absurd said.symm spoken
  | some statement =>
      rw [found, Option.getD_some] at said
      rw [← said]
      exact (List.mem_filter.mp (List.mem_of_getLast? found)).1

/-- The lookup of a key in the entries that are its. -/
theorem lookup_of_mem_iff
    {d : Dictionary}
    {entries : List (List UInt8 × Option (List UInt8))}
    (same : ∀ key val, (key, val) ∈ entries ↔
      ∃ entry ∈ d.entries, entry.key = key ∧ entry.val = val)
    (key : List UInt8) :
    entries.reverse.lookup key = d.lookup key := by
  have member (val : Option (List UInt8)) :
      (key, val) ∈ entries.reverse ↔ d.lookup key = some val := by
    rw [List.mem_reverse, same, lookup_eq_some_iff]
  cases found : entries.reverse.lookup key with
  | none =>
      cases stored : d.lookup key with
      | none =>
          rfl
      | some val =>
          have absent := List.lookup_eq_none_iff.mp found
            (key, val) ((member val).mpr stored)
          simp at absent
  | some val =>
      obtain ⟨before, after, split, -⟩ := List.lookup_eq_some_iff.mp found
      have inEntries : (key, val) ∈ entries.reverse := by
        rw [split]
        simp
      exact ((member val).mp inEntries).symm

/-- What is read from the lines of a dictionary with sections. -/
theorem Saveable.readFile_dump
    {d : Dictionary}
    (saveable : Saveable d) :
    ∃ statements,
      readFile (iniparserDumpIni d) = (statements, true) ∧
        .malformed ∉ statements ∧
        ∀ key val,
          (key, val) ∈ entriesOf [] statements ↔
            ∃ entry ∈ d.entries, entry.key = key ∧ entry.val = val := by
  by_cases sectioned : d.sections = []
  · obtain ⟨written, empty⟩ := saveable.dump_empty sectioned
    refine ⟨[], by rw [written]; rfl, List.not_mem_nil, ?_⟩
    intro key val
    rw [empty]
    simp [entriesOf]
  · have plain : ∀ line ∈ d.sections.flatMap (sectionLines d) ++ [[]],
        PlainLine line := by
      intro line member
      rcases List.mem_append.mp member with inSections | blank
      · obtain ⟨secname, inNames, inLines⟩ :=
          List.mem_flatMap.mp inSections
        exact saveable.plainLine inNames line inLines
      · rw [List.mem_singleton.mp blank]
        exact plainLine_nil
    have entered := saveable.entriesOf_sections (fun _ member => member) []
    refine ⟨_, by rw [iniparserDumpIni_eq sectioned,
      readFile_joinLines plain], ?_, ?_⟩
    · intro malformed
      obtain ⟨line, member, isMalformed⟩ := List.mem_map.mp malformed
      rcases List.mem_append.mp member with inSections | blank
      · obtain ⟨secname, inNames, inLines⟩ :=
          List.mem_flatMap.mp inSections
        have statement := List.mem_map_of_mem (f := lineStatement) inLines
        rw [isMalformed, saveable.map_lineStatement inNames] at statement
        simp at statement
      · rw [List.mem_singleton.mp blank, lineStatement_nil] at isMalformed
        cases isMalformed
    · intro key val
      rw [entered]
      exact saveable.mem_entries_iff

/-- A saved dictionary is loaded again with the same values. -/
theorem iniparserLoad_dumpIni
    {before : UInt8}
    (quiet : QuietBefore before)
    {d : Dictionary}
    (saveable : Saveable d) :
    ∃ loaded,
      iniparserLoad before (iniparserDumpIni d) = .loaded loaded ∧
        ∀ key, loaded.lookup key = d.lookup key := by
  obtain ⟨statements, read, wellFormed, entries⟩ := saveable.readFile_dump
  have meaning := enterStatements_readFile (iniparserDumpIni d)
  have fit : KeysFit (entriesOf [] statements) := by
    rintro ⟨key, val⟩ entered
    obtain ⟨entry, member, rfl, -⟩ := (entries key val).mp entered
    by_cases isSection : IsSection entry.key
    · have short := (saveable.sections entry member isSection).2.short
      simp only
      omega
    · obtain ⟨_, _, _, saved⟩ := saveable.keys entry member isSection
      exact saved.keyShort
  rw [read] at meaning
  rw [iniparserLoad_eq quiet, read]
  cases result : enterStatements true statements [] dictionaryNew 0 with
  | undefined =>
      rw [result] at meaning
      exact absurd fit meaning
  | null =>
      rw [result] at meaning
      obtain ⟨-, unreadable | malformed⟩ := meaning
      · cases unreadable
      · exact absurd (lastSaid_mem (by decide) malformed) wellFormed
  | loaded dict =>
      rw [result] at meaning
      obtain ⟨-, -, -, lookups⟩ := meaning
      refine ⟨dict, rfl, ?_⟩
      intro key
      rw [lookups key]
      exact lookup_of_mem_iff entries key

/-- A section with a value and a key without one. -/
def savedDictionary : Dictionary :=
  dictionarySet
    (dictionarySet
      (dictionarySet dictionaryNew (ascii "server") none)
      (ascii "server:port") (some (ascii "389")))
    (ascii "server:bind dn") (some [])

/-- The entries of the dictionary. -/
theorem mem_savedDictionary
    {entry : Entry}
    (member : entry ∈ savedDictionary.entries) :
    (entry.key = ascii "server:bind dn" ∧ entry.val = some []) ∨
      (entry.key = ascii "server:port" ∧
        entry.val = some (ascii "389")) ∨
      (entry.key = ascii "server" ∧ entry.val = none) := by
  rw [savedDictionary, mem_entries_dictionarySet] at member
  rcases member with rfl | ⟨-, member⟩
  · exact .inl ⟨rfl, rfl⟩
  rw [mem_entries_dictionarySet] at member
  rcases member with rfl | ⟨-, member⟩
  · exact .inr (.inl ⟨rfl, rfl⟩)
  rw [mem_entries_dictionarySet] at member
  rcases member with rfl | ⟨-, member⟩
  · exact .inr (.inr ⟨rfl, rfl⟩)
  · have stored := lookup_eq_some_iff.mpr ⟨entry, member, rfl, rfl⟩
    rw [lookup_dictionaryNew] at stored
    cases stored

/-- The dictionary has its section. -/
theorem server_mem_sections :
    ascii "server" ∈ savedDictionary.sections := by
  have stored : savedDictionary.lookup (ascii "server") = some none := by
    rw [savedDictionary, lookup_dictionarySet, lookup_dictionarySet,
      lookup_dictionarySet, if_neg (by decide), if_neg (by decide),
      if_pos rfl]
  obtain ⟨entry, member, isKey, -⟩ := lookup_eq_some_iff.mp stored
  exact Saveable.mem_sections.mpr ⟨⟨entry, member, isKey⟩, by decide⟩

theorem iniparserLoad_dumpIni_saved :
    ∃ loaded,
      iniparserLoad 0 (iniparserDumpIni savedDictionary) =
          .loaded loaded ∧
        ∀ key, loaded.lookup key = savedDictionary.lookup key := by
  refine iniparserLoad_dumpIni ⟨by decide, by decide⟩ ⟨?_, ?_⟩
  · intro entry member isSection
    rcases mem_savedDictionary member with
      ⟨key, val⟩ | ⟨key, val⟩ | ⟨key, val⟩
    · rw [key] at isSection
      exact absurd isSection (by decide)
    · rw [key] at isSection
      exact absurd isSection (by decide)
    · rw [key]
      exact ⟨val, by constructor <;> decide⟩
  · intro entry member notSection
    rcases mem_savedDictionary member with
      ⟨key, val⟩ | ⟨key, val⟩ | ⟨key, val⟩
    · exact ⟨ascii "server", ascii "bind dn", [], key, val,
        server_mem_sections, by constructor <;> decide +kernel,
        by constructor <;> decide +kernel, by decide,
        by rw [key]; decide⟩
    · exact ⟨ascii "server", ascii "port", ascii "389", key, val,
        server_mem_sections, by constructor <;> decide +kernel,
        by constructor <;> decide +kernel, by decide,
        by rw [key]; decide⟩
    · rw [key] at notSection
      exact absurd (by decide) notSection

end LdapProxy

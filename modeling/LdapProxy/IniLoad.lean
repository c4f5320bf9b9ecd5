import LdapProxy.ByteMemory
import LdapProxy.IniLine

namespace LdapProxy

open LdapProxy.NumberText

/-!
# Loading a configuration file

`iniparser_load`: the file is read with `fgets` behind what is kept of a
continued line, and every whole line is parsed and entered into a dictionary.
On a blank line the code looks at the octet in front of its buffer; this octet
is a parameter here.  `iniparserLoad_meaning` states what is loaded from every
file.
-/

/-- `\n` -/
def newline : UInt8 := 10

/-- `\` -/
def backslash : UInt8 := 92

/-- What `iniparser_load` returns, unless it writes outside of its buffers. -/
inductive LoadResult where
  /-- A write outside of `line` or `tmp`. -/
  | undefined
  | null
  | loaded (dict : Dictionary)

/-- The local variables of `iniparser_load`; `kept` is `line` up to `last`. -/
structure LoadState where
  dict : Dictionary
  buffers : LineBuffers
  kept : List UInt8
  errs : Nat

/-- `fgets(s, count + 1, in)`: up to a newline, the end or `count` octets. -/
def fgets : Nat → List UInt8 → List UInt8
  | 0, _ =>
      []
  | _, [] =>
      []
  | count + 1, c :: rest =>
      if c = newline then
        [c]
      else
        c :: fgets count rest

/-- What happens after a line was read. -/
inductive LoadStep where
  | stop (result : LoadResult)
  | next (state : LoadState)

/-- Go on with the loop, unless it was left. -/
def LoadStep.andThen (loop : LoadState → LoadResult) :
    LoadStep → LoadResult
  | .stop result => result
  | .next state => loop state

/-- `"%s:%s"` -/
def iniKey (current key : List UInt8) : List UInt8 :=
  current ++ ascii ":" ++ key

/-- The `switch` of `iniparser_load` for a line that is not continued. -/
def enterLine (line : List UInt8) (s : LoadState) : LoadStep :=
  match iniparserLine line s.buffers with
  | (.lineEmpty, buffers) =>
      .next { s with buffers := buffers, kept := [] }
  | (.lineComment, buffers) =>
      .next { s with buffers := buffers, kept := [] }
  | (.lineSection, buffers) =>
      .next
        { dict := dictionarySet s.dict buffers.sectionBuf none
          buffers := buffers
          kept := []
          errs := 0 }
  | (.lineValue, buffers) =>
      let tmp := iniKey buffers.sectionBuf buffers.key
      -- `tmp` has room for a terminating NUL more
      if asciiLineSz < tmp.length then
        .stop .undefined
      else
        .next
          { dict := dictionarySet s.dict tmp (some buffers.value)
            buffers := buffers
            kept := []
            errs := 0 }
  | (.lineError, buffers) =>
      .next { s with buffers := buffers, kept := [], errs := s.errs + 1 }

/-- The body of the loop; `before` is the octet in front of `line`. -/
def loadLine (before : UInt8) (chunk : List UInt8) (s : LoadState) :
    LoadStep :=
  let line := cString (s.kept ++ chunk)
  if line.getLastD before ≠ newline then
    .stop .null
  else
    let line := line.rdropWhile isSpace
    if line.getLastD before = backslash then
      -- a blank line seems to be continued in front of the buffer
      if line = [] then
        .stop .undefined
      else
        .next { s with kept := line.dropLast }
    else
      enterLine line s

/-- The loop; every pass takes an octet from the file. -/
def loadLoop (before : UInt8) : Nat → List UInt8 → LoadState → LoadResult
  | 0, _, _ =>
      .null
  | fuel + 1, file, s =>
      let chunk := fgets (asciiLineSz - s.kept.length - 1) file
      if file = [] then
        if s.errs = 0 then .loaded s.dict else .null
      else
        (loadLine before chunk s).andThen
          (loadLoop before fuel (file.drop chunk.length))

/-- `iniparser_load` of an opened file. -/
def iniparserLoad (before : UInt8) (file : List UInt8) : LoadResult :=
  loadLoop before (file.length + 1) file
    { dict := dictionaryNew
      buffers := ⟨[], [], []⟩
      kept := []
      errs := 0 }

/-- The lines of a file, and what stands behind its last newline. -/
def textLines : List UInt8 → List (List UInt8) × List UInt8
  | [] =>
      ([], [])
  | c :: rest =>
      match c == newline, textLines rest with
      | true, (lines, tail) => ([] :: lines, tail)
      | false, ([], tail) => ([], c :: tail)
      | false, (line :: lines, tail) => ((c :: line) :: lines, tail)

/--
The statements of lines, in order, and whether every line can be read.  A line
is read together with the continued lines before it; it must be terminated,
free of NUL and short enough for the buffer.
-/
def readLines (tail : List UInt8) :
    List (List UInt8) → List UInt8 → List Statement × Bool
  | [], _ =>
      ([], tail = [])
  | line :: rest, kept =>
      let text := (kept ++ line).rdropWhile isSpace
      if (0 : UInt8) ∈ kept ++ line ∨
          asciiLineSz ≤ (kept ++ line).length + 1 then
        ([], false)
      else if text.getLast? = some backslash then
        readLines tail rest text.dropLast
      else
        (statementOf (strstrip text) :: (readLines tail rest []).1,
          (readLines tail rest []).2)

/-- The statements of a file, and whether every line can be read. -/
def readFile (file : List UInt8) : List Statement × Bool :=
  readLines (textLines file).2 (textLines file).1 []

/-- The keys and values that statements behind this section enter. -/
def entriesOf (current : List UInt8) :
    List Statement → List (List UInt8 × Option (List UInt8))
  | [] =>
      []
  | .nothing :: rest =>
      entriesOf current rest
  | .malformed :: rest =>
      entriesOf current rest
  | .header name :: rest =>
      (name.getD current, none) :: entriesOf (name.getD current) rest
  | .assign key value :: rest =>
      (iniKey current key, some value) :: entriesOf current rest

/-- The last statement that says something. -/
def lastSaid (earlier : Statement) (statements : List Statement) :
    Statement :=
  (statements.filter (· ≠ .nothing)).getLastD earlier

/-- All keys fit into `tmp`. -/
def KeysFit (entries : List (List UInt8 × Option (List UInt8))) : Prop :=
  ∀ entry ∈ entries, entry.1.length ≤ asciiLineSz

/--
What is loaded from a file with these statements: a key outside of `tmp` is
undefined, an unreadable line or a malformed last statement loads nothing, and
otherwise each key has the value that was entered last.
-/
def LoadMeaning (statements : List Statement) (readable : Bool) :
    LoadResult → Prop
  | .undefined =>
      ¬ KeysFit (entriesOf [] statements)
  | .null =>
      KeysFit (entriesOf [] statements) ∧
        (readable = false ∨ lastSaid .nothing statements = .malformed)
  | .loaded dict =>
      KeysFit (entriesOf [] statements) ∧
        readable = true ∧
        lastSaid .nothing statements ≠ .malformed ∧
        ∀ key,
          dict.lookup key = (entriesOf [] statements).reverse.lookup key

/-- The result when these statements are entered one by one. -/
def enterStatements (readable : Bool) :
    List Statement → List UInt8 → Dictionary → Nat → LoadResult
  | [], _, dict, errs =>
      if readable = true ∧ errs = 0 then .loaded dict else .null
  | .nothing :: rest, current, dict, errs =>
      enterStatements readable rest current dict errs
  | .malformed :: rest, current, dict, errs =>
      enterStatements readable rest current dict (errs + 1)
  | .header name :: rest, current, dict, _ =>
      enterStatements readable rest (name.getD current)
        (dictionarySet dict (name.getD current) none) 0
  | .assign key value :: rest, current, dict, _ =>
      if asciiLineSz < (iniKey current key).length then
        .undefined
      else
        enterStatements readable rest current
          (dictionarySet dict (iniKey current key) (some value)) 0

/-- The names of sections fit into their buffer. -/
def NamesFit (statements : List Statement) : Prop :=
  ∀ name, .header (some name) ∈ statements → name.length ≤ asciiLineSz

/-- What entering statements into a dictionary returns. -/
def EnterMeaning
    (dict : Dictionary)
    (entries : List (List UInt8 × Option (List UInt8)))
    (last : Statement)
    (readable : Bool) :
    LoadResult → Prop
  | .undefined =>
      ¬ KeysFit entries
  | .null =>
      KeysFit entries ∧ (readable = false ∨ last = .malformed)
  | .loaded result =>
      KeysFit entries ∧
        readable = true ∧
        last ≠ .malformed ∧
        ∀ key,
          result.lookup key =
            (entries.reverse.lookup key).or (dict.lookup key)

/-- The last of several statements that says something. -/
theorem lastSaid_cons
    (earlier statement : Statement)
    (rest : List Statement) :
    lastSaid earlier (statement :: rest) =
      lastSaid (if statement = .nothing then earlier else statement)
        rest := by
  unfold lastSaid
  by_cases silent : statement = .nothing
  · simp [silent]
  · rw [List.filter_cons_of_pos (by simpa using silent), if_neg silent,
      List.getLastD_cons]

/-- An entry that fits is in the dictionary before the later ones. -/
theorem EnterMeaning.entered
    {dict : Dictionary}
    {key : List UInt8}
    {val : Option (List UInt8)}
    {entries : List (List UInt8 × Option (List UInt8))}
    {last : Statement}
    {readable : Bool}
    {result : LoadResult}
    (short : key.length ≤ asciiLineSz)
    (later :
      EnterMeaning (dictionarySet dict key val) entries last readable
        result) :
    EnterMeaning dict ((key, val) :: entries) last readable result := by
  have fits : KeysFit ((key, val) :: entries) ↔ KeysFit entries := by
    simp [KeysFit, short]
  cases result with
  | undefined =>
      exact fun all => later (fits.mp all)
  | null =>
      exact ⟨fits.mpr later.1, later.2⟩
  | loaded loaded =>
      obtain ⟨laterFit, isReadable, wellFormed, lookups⟩ := later
      refine ⟨fits.mpr laterFit, isReadable, wellFormed, ?_⟩
      intro other
      rw [lookups other, lookup_dictionarySet, List.reverse_cons,
        List.lookup_append, Option.or_assoc]
      by_cases same : other = key
      · simp [same]
      · have different : (other == key) = false := by
          simpa using same
        simp [same, List.lookup_cons, different]

/-- Entering statements gives each key the value that is entered last. -/
theorem enterStatements_meaning
    {statements : List Statement}
    (named : NamesFit statements)
    (readable : Bool)
    {current : List UInt8}
    (short : current.length ≤ asciiLineSz)
    (dict : Dictionary)
    (earlier : Statement)
    (errs : Nat)
    (counted : errs = 0 ↔ earlier ≠ .malformed) :
    EnterMeaning dict (entriesOf current statements)
      (lastSaid earlier statements) readable
      (enterStatements readable statements current dict errs) := by
  induction statements generalizing current dict earlier errs with
  | nil =>
      have none : KeysFit [] := fun _ member => absurd member (by simp)
      have last : lastSaid earlier [] = earlier := rfl
      rw [enterStatements, last]
      split
      · next accepted =>
          exact ⟨none, accepted.1, counted.mp accepted.2, fun _ => rfl⟩
      · next refused =>
          refine ⟨none, ?_⟩
          rw [counted] at refused
          by_cases isReadable : readable = true
          · exact .inr (not_not.mp (not_and.mp refused isReadable))
          · exact .inl (Bool.eq_false_iff.mpr isReadable)
  | cons statement rest inductionHypothesis =>
      have namedRest : NamesFit rest := fun name member =>
        named name (List.mem_cons_of_mem _ member)
      rw [lastSaid_cons]
      cases statement with
      | nothing =>
          exact inductionHypothesis namedRest short dict _ _ counted
      | malformed =>
          exact inductionHypothesis namedRest short dict _ _ (by simp)
      | header name =>
          have fits : (name.getD current).length ≤ asciiLineSz := by
            cases name with
            | none =>
                exact short
            | some name =>
                exact named name (List.mem_cons_self ..)
          exact (inductionHypothesis namedRest fits _ _ _
            (by simp)).entered fits
      | assign key value =>
          by_cases long : asciiLineSz < (iniKey current key).length
          · rw [enterStatements, if_pos long]
            intro all
            exact absurd (all _ (List.mem_cons_self ..))
              (Nat.not_le_of_lt long)
          · rw [enterStatements, if_neg long]
            exact (inductionHypothesis namedRest short _ _ _
              (by simp)).entered (Nat.le_of_not_lt long)

/-- A line that fits is read with its newline. -/
theorem fgets_line
    (count : Nat)
    {line : List UInt8}
    (whole : newline ∉ line)
    (fits : line.length < count)
    (rest : List UInt8) :
    fgets count (line ++ newline :: rest) = line ++ [newline] := by
  induction line generalizing count with
  | nil =>
      obtain ⟨count, rfl⟩ := Nat.exists_eq_succ_of_ne_zero
        (Nat.ne_of_gt fits)
      rw [List.nil_append, fgets, if_pos rfl]
      rfl
  | cons first line inductionHypothesis =>
      obtain ⟨notFirst, notLater⟩ :=
        List.ne_and_not_mem_of_not_mem_cons whole
      obtain ⟨count, rfl⟩ := Nat.exists_eq_succ_of_ne_zero
        (Nat.ne_of_gt (Nat.zero_lt_of_lt fits))
      rw [List.cons_append, fgets, if_neg (Ne.symm notFirst),
        inductionHypothesis _ notLater (Nat.lt_of_succ_lt_succ fits)]
      rfl

/-- `fgets` reads at most so many octets from the front of the file. -/
theorem fgets_front
    (count : Nat)
    (file : List UInt8) :
    fgets count file <+: file ∧ (fgets count file).length ≤ count := by
  induction file generalizing count with
  | nil =>
      cases count <;> simp [fgets]
  | cons first rest inductionHypothesis =>
      cases count with
      | zero =>
          simp [fgets]
      | succ count =>
          obtain ⟨isPrefix, short⟩ := inductionHypothesis count
          rw [fgets]
          split
          · exact ⟨by simp, by simp⟩
          · exact ⟨(List.prefix_cons_inj first).mpr isPrefix,
              Nat.succ_le_succ short⟩

/-- What does not fit is read without a newline. -/
theorem newline_notMem_fgets
    (count : Nat)
    {line : List UInt8}
    (whole : newline ∉ line)
    (long : count ≤ line.length)
    (rest : List UInt8) :
    newline ∉ fgets count (line ++ rest) := by
  obtain ⟨isPrefix, short⟩ := fgets_front count (line ++ rest)
  have inLine : fgets count (line ++ rest) <+: line :=
    List.prefix_of_prefix_length_le isPrefix (List.prefix_append _ _)
      (short.trans long)
  exact fun member => whole (inLine.subset member)

/-- The octet in front of the buffer is neither a newline nor a backslash. -/
structure QuietBefore (before : UInt8) : Prop where
  newline : before ≠ newline
  backslash : before ≠ backslash

/-- The lines of a file with their newlines. -/
def joinLines (lines : List (List UInt8)) : List UInt8 :=
  lines.flatMap fun line => line ++ [newline]

/-- A file is its lines and what stands behind its last newline. -/
theorem joinLines_textLines (file : List UInt8) :
    joinLines (textLines file).1 ++ (textLines file).2 = file ∧
      (∀ line ∈ (textLines file).1, newline ∉ line) ∧
      newline ∉ (textLines file).2 := by
  induction file with
  | nil =>
      exact ⟨rfl, by simp [textLines], by simp [textLines]⟩
  | cons c rest inductionHypothesis =>
      obtain ⟨joined, wholeLines, wholeTail⟩ := inductionHypothesis
      rw [textLines]
      generalize textLines rest = parts at joined wholeLines wholeTail ⊢
      obtain ⟨lines, tail⟩ := parts
      by_cases ends : c = newline
      · subst ends
        refine ⟨?_, ?_, wholeTail⟩
        · simpa [joinLines] using joined
        · simpa using wholeLines
      · have notNewline : (c == newline) = false := by
          simpa using ends
        rw [notNewline]
        cases lines with
        | nil =>
            refine ⟨?_, by simp, ?_⟩
            · simpa [joinLines] using joined
            · exact List.not_mem_cons_of_ne_of_not_mem (Ne.symm ends)
                wholeTail
        | cons line lines =>
            refine ⟨?_, ?_, wholeTail⟩
            · simpa [joinLines] using joined
            · intro other member
              rcases List.mem_cons.mp member with rfl | inLines
              · exact List.not_mem_cons_of_ne_of_not_mem (Ne.symm ends)
                  (wholeLines line (List.mem_cons_self ..))
              · exact wholeLines other (List.mem_cons_of_mem _ inLines)

/-- A string of octets without a newline has none. -/
theorem newline_notMem_cString
    {kept chunk : List UInt8}
    (keptWhole : newline ∉ kept)
    (chunkWhole : newline ∉ chunk) :
    newline ∉ cString (kept ++ chunk) := by
  intro member
  have inBoth := (List.takeWhile_prefix _).subset member
  exact (List.mem_append.mp inBoth).elim keptWhole chunkWhole

/-- Behind a NUL a string ends. -/
theorem newline_notMem_cString_of_zero
    {text : List UInt8}
    (whole : newline ∉ text)
    (zero : (0 : UInt8) ∈ text)
    (rest : List UInt8) :
    newline ∉ cString (text ++ rest) := by
  intro member
  rw [cString, List.takeWhile_append] at member
  split at member
  · next all =>
      have same := (List.takeWhile_prefix _).eq_of_length all
      have notZero := List.takeWhile_eq_self_iff.mp same 0 zero
      simp at notZero
  · exact whole ((List.takeWhile_prefix _).subset member)

/-- A line without a newline is refused. -/
theorem loadLine_unterminated
    {before : UInt8}
    (quiet : QuietBefore before)
    {chunk : List UInt8}
    {s : LoadState}
    (unterminated : newline ∉ cString (s.kept ++ chunk)) :
    loadLine before chunk s = .stop .null := by
  have notNewline :
      (cString (s.kept ++ chunk)).getLastD before ≠ newline := by
    rw [List.getLastD_eq_getLast?]
    cases last : (cString (s.kept ++ chunk)).getLast? with
    | none =>
        exact quiet.newline
    | some c =>
        rintro rfl
        exact unterminated (List.mem_of_getLast? last)
  rw [loadLine]
  exact if_pos notNewline

/-- A terminated line is continued or entered. -/
theorem loadLine_line
    {before : UInt8}
    (quiet : QuietBefore before)
    {line : List UInt8}
    {s : LoadState}
    (noZero : (0 : UInt8) ∉ s.kept ++ line) :
    loadLine before (line ++ [newline]) s =
      if ((s.kept ++ line).rdropWhile isSpace).getLast? =
          some backslash then
        .next
          { s with kept := ((s.kept ++ line).rdropWhile isSpace).dropLast }
      else
        enterLine ((s.kept ++ line).rdropWhile isSpace) s := by
  have string : cString (s.kept ++ (line ++ [newline])) =
      s.kept ++ line ++ [newline] := by
    rw [← List.append_assoc, cString, List.takeWhile_eq_self_iff]
    intro c member
    rcases List.mem_append.mp member with inLine | isNewline
    · have notZero : c ≠ 0 := ne_of_mem_of_not_mem inLine noZero
      simpa using notZero
    · rw [List.mem_singleton.mp isNewline]
      decide
  have stripped : (s.kept ++ line ++ [newline]).rdropWhile isSpace =
      (s.kept ++ line).rdropWhile isSpace :=
    List.rdropWhile_concat_pos _ _ _ (by decide)
  simp only [loadLine, string, stripped]
  rw [if_neg (by simp)]
  generalize (s.kept ++ line).rdropWhile isSpace = text
  cases ends : text.getLast? with
  | none =>
      have blank := List.getLast?_eq_none_iff.mp ends
      subst blank
      rw [if_neg (by simpa using quiet.backslash), if_neg (by simp)]
  | some c =>
      have nonempty : text ≠ [] := by
        rintro rfl
        cases ends
      simp only [List.getLastD_eq_getLast?, ends, Option.getD_some,
        Option.some.injEq, nonempty, if_false]

/-- Stripping makes a text no longer. -/
theorem length_strstrip (text : List UInt8) :
    (strstrip text).length ≤ text.length :=
  (List.rdropWhile_prefix _ _).length_le.trans
    (List.dropWhile_suffix _).length_le

/-- The name of a section is tidy and not longer than its line. -/
theorem header_name
    {line name : List UInt8}
    (short : line.length ≤ asciiLineSz)
    (header : statementOf line = .header (some name)) :
    TidyName name ∧ name.length ≤ asciiLineSz := by
  unfold statementOf at header
  split at header
  · cases header
  split at header
  · rw [Statement.header.injEq, sectionName] at header
    split at header
    · cases header
    · rw [Option.some.injEq] at header
      have inLine :
          ((line.drop 1).takeWhile (· ≠ rightBracket)).length ≤
            asciiLineSz :=
        ((List.takeWhile_prefix _).length_le.trans
          (by simp)).trans short
      rw [← header]
      refine ⟨tidyName_strlwc inLine, ?_⟩
      rw [strlwc, List.length_map, List.length_take]
      exact Nat.min_le_left _ _
  · unfold assignmentOf at header
    split at header <;> cases header

/-- A line is entered as the statement that it is. -/
theorem enterLine_andThen
    {text : List UInt8}
    {s : LoadState}
    (short : text.length ≤ asciiLineSz)
    (tidy : TidyName s.buffers.sectionBuf)
    {loop : LoadState → LoadResult}
    {statements : List Statement}
    {readable : Bool}
    (later :
      ∀ t : LoadState,
        t.kept = [] →
        TidyName t.buffers.sectionBuf →
        loop t =
          enterStatements readable statements t.buffers.sectionBuf t.dict
            t.errs) :
    (enterLine text s).andThen loop =
      enterStatements readable (statementOf (strstrip text) :: statements)
        s.buffers.sectionBuf s.dict s.errs := by
  have found := iniparserLine_statement text s.buffers
  unfold enterLine
  generalize iniparserLine text s.buffers = parsed at found ⊢
  obtain ⟨status, buffers⟩ := parsed
  cases statement : statementOf (strstrip text) with
  | nothing =>
      rw [statement] at found
      obtain ⟨rfl | rfl, rfl⟩ := found
      · exact later _ rfl tidy
      · exact later _ rfl tidy
  | malformed =>
      rw [statement] at found
      obtain ⟨rfl, kept⟩ := found
      rw [enterStatements, ← kept]
      exact later _ rfl (kept ▸ tidy)
  | header name =>
      rw [statement] at found
      obtain ⟨rfl, named⟩ := found
      rw [tidy] at named
      have tidyNow : TidyName buffers.sectionBuf := by
        rw [named]
        cases name with
        | none =>
            exact tidy
        | some name =>
            exact (header_name ((length_strstrip text).trans short)
              statement).1
      rw [enterStatements, ← named]
      exact later _ rfl tidyNow
  | assign key value =>
      rw [statement] at found
      obtain ⟨rfl, rfl⟩ := found
      simp only [enterStatements]
      split
      · rfl
      · exact later _ rfl tidy

/-- The loop enters the statements of the lines that it reads. -/
theorem loadLoop_lines
    {before : UInt8}
    (quiet : QuietBefore before)
    {tail : List UInt8}
    (wholeTail : newline ∉ tail)
    {lines : List (List UInt8)}
    (whole : ∀ line ∈ lines, newline ∉ line)
    {s : LoadState}
    (keptWhole : newline ∉ s.kept)
    (keptShort : s.kept.length + 2 < asciiLineSz)
    (tidy : TidyName s.buffers.sectionBuf)
    {fuel : Nat}
    (enough : (joinLines lines ++ tail).length < fuel) :
    loadLoop before fuel (joinLines lines ++ tail) s =
      enterStatements (readLines tail lines s.kept).2
        (readLines tail lines s.kept).1 s.buffers.sectionBuf s.dict
        s.errs := by
  induction lines generalizing s fuel with
  | nil =>
      obtain ⟨fuel, rfl⟩ := Nat.exists_eq_succ_of_ne_zero
        (Nat.ne_of_gt (Nat.zero_lt_of_lt enough))
      rw [loadLoop]
      by_cases finished : tail = []
      · subst finished
        simp [joinLines, readLines, enterStatements]
      · have chunkWhole :
            newline ∉ fgets (asciiLineSz - s.kept.length - 1) tail :=
          fun member =>
            wholeTail ((fgets_front _ tail).1.subset member)
        have unterminated := newline_notMem_cString keptWhole chunkWhole
        simp only [joinLines, List.flatMap_nil, List.nil_append]
        rw [if_neg finished, loadLine_unterminated quiet unterminated]
        simp [readLines, finished, enterStatements, LoadStep.andThen]
  | cons line rest inductionHypothesis =>
      obtain ⟨fuel, rfl⟩ := Nat.exists_eq_succ_of_ne_zero
        (Nat.ne_of_gt (Nat.zero_lt_of_lt enough))
      have lineWhole := whole line (List.mem_cons_self ..)
      have restWhole : ∀ other ∈ rest, newline ∉ other :=
        fun other member => whole other (List.mem_cons_of_mem _ member)
      have file :
          joinLines (line :: rest) ++ tail =
            line ++ newline :: (joinLines rest ++ tail) := by
        simp [joinLines]
      have nonempty :
          line ++ newline :: (joinLines rest ++ tail) ≠ [] := by
        simp
      have keptLine : newline ∉ s.kept ++ line :=
        fun member => (List.mem_append.mp member).elim keptWhole lineWhole
      rw [file] at enough ⊢
      rw [loadLoop, if_neg nonempty, readLines]
      by_cases long : asciiLineSz ≤ (s.kept ++ line).length + 1
      · rw [List.length_append] at long
        have chunkWhole := newline_notMem_fgets
          (asciiLineSz - s.kept.length - 1) lineWhole (by omega)
          (newline :: (joinLines rest ++ tail))
        have unterminated := newline_notMem_cString keptWhole chunkWhole
        rw [loadLine_unterminated quiet unterminated]
        simp [long, enterStatements, LoadStep.andThen]
      · rw [List.length_append] at long
        have chunk := fgets_line
          (asciiLineSz - s.kept.length - 1) lineWhole (by omega)
          (joinLines rest ++ tail)
        have behind :
            (line ++ newline :: (joinLines rest ++ tail)).drop
                (line ++ [newline]).length =
              joinLines rest ++ tail := by
          rw [List.length_append, List.length_singleton,
            ← List.drop_drop, List.drop_left]
          rfl
        have later : (joinLines rest ++ tail).length < fuel := by
          rw [List.length_append, List.length_cons] at enough
          omega
        rw [chunk, behind]
        by_cases zero : (0 : UInt8) ∈ s.kept ++ line
        · have unterminated := newline_notMem_cString_of_zero keptLine zero
            [newline]
          rw [List.append_assoc] at unterminated
          rw [loadLine_unterminated quiet unterminated]
          simp [zero, enterStatements, LoadStep.andThen]
        · rw [loadLine_line quiet zero,
            if_neg (not_or.mpr ⟨zero, by rw [List.length_append]; omega⟩)]
          have isPrefix := List.rdropWhile_prefix isSpace (s.kept ++ line)
          have shorter := isPrefix.length_le
          rw [List.length_append] at shorter
          by_cases continued :
              ((s.kept ++ line).rdropWhile isSpace).getLast? =
                some backslash
          · have nonempty :
                0 < ((s.kept ++ line).rdropWhile isSpace).length := by
              rw [List.length_pos_iff]
              intro blank
              rw [blank] at continued
              cases continued
            rw [if_pos continued, if_pos continued]
            refine inductionHypothesis restWhole
              (s :=
                { s with
                  kept :=
                    ((s.kept ++ line).rdropWhile isSpace).dropLast })
              ?_ ?_ tidy later
            · exact fun member => keptLine
                (isPrefix.subset (List.dropLast_subset _ member))
            · simp only [List.length_dropLast]
              omega
          · rw [if_neg continued, if_neg continued]
            refine enterLine_andThen (by omega) tidy ?_
            intro t fresh tidyNow
            have read := inductionHypothesis restWhole (s := t)
              (by simp [fresh]) (by rw [fresh]; decide) tidyNow later
            rw [fresh] at read
            exact read

/-- No section of a file has a name that is too long. -/
theorem namesFit_readLines
    (tail : List UInt8)
    (lines : List (List UInt8))
    (kept : List UInt8) :
    NamesFit (readLines tail lines kept).1 := by
  induction lines generalizing kept with
  | nil =>
      intro name member
      cases member
  | cons line rest inductionHypothesis =>
      rw [readLines]
      split
      · intro name member
        cases member
      · next fits =>
          have short := (not_or.mp fits).2
          split
          · exact inductionHypothesis _
          · intro name member
            rcases List.mem_cons.mp member with header | later
            · refine (header_name ?_ header.symm).2
              refine (length_strstrip _).trans ?_
              have shorter :=
                (List.rdropWhile_prefix isSpace (kept ++ line)).length_le
              omega
            · exact inductionHypothesis _ name later

/-- Before a file is read the dictionary has no keys. -/
theorem EnterMeaning.of_new
    {statements : List Statement}
    {readable : Bool}
    {result : LoadResult}
    (entered :
      EnterMeaning dictionaryNew (entriesOf [] statements)
        (lastSaid .nothing statements) readable result) :
    LoadMeaning statements readable result := by
  cases result with
  | undefined =>
      exact entered
  | null =>
      exact entered
  | loaded dict =>
      obtain ⟨fit, isReadable, wellFormed, lookups⟩ := entered
      refine ⟨fit, isReadable, wellFormed, ?_⟩
      intro key
      rw [lookups key, lookup_dictionaryNew, Option.or_none]

/-- `iniparser_load` enters the statements of the file. -/
theorem iniparserLoad_eq
    {before : UInt8}
    (quiet : QuietBefore before)
    (file : List UInt8) :
    iniparserLoad before file =
      enterStatements (readFile file).2 (readFile file).1 [] dictionaryNew
        0 := by
  obtain ⟨joined, wholeLines, wholeTail⟩ := joinLines_textLines file
  have tidyEmpty : TidyName [] := rfl
  have enough :
      (joinLines (textLines file).1 ++ (textLines file).2).length <
        file.length + 1 := by
    rw [joined]
    exact Nat.lt_succ_self _
  have loaded :=
    loadLoop_lines quiet wholeTail wholeLines
      (s :=
        { dict := dictionaryNew
          buffers := ⟨[], [], []⟩
          kept := []
          errs := 0 })
      (by simp) (by decide) tidyEmpty enough
  rwa [joined] at loaded

/-- What the statements of a file leave in a new dictionary. -/
theorem enterStatements_readFile (file : List UInt8) :
    LoadMeaning (readFile file).1 (readFile file).2
      (enterStatements (readFile file).2 (readFile file).1 []
        dictionaryNew 0) := by
  have named := namesFit_readLines (textLines file).2 (textLines file).1 []
  have short : ([] : List UInt8).length ≤ asciiLineSz := by decide
  have entered := enterStatements_meaning named (readFile file).2 short
    dictionaryNew .nothing 0 (by simp)
  exact entered.of_new

/-- `iniparser_load` loads what the file means. -/
theorem iniparserLoad_meaning
    {before : UInt8}
    (quiet : QuietBefore before)
    (file : List UInt8) :
    LoadMeaning (readFile file).1 (readFile file).2
      (iniparserLoad before file) := by
  rw [iniparserLoad_eq quiet]
  exact enterStatements_readFile file

/-- A value in quotes that is continued on the next line. -/
def sampleFile : List UInt8 :=
  ascii "# proxy\nverbose\n[ Server ]\nPort = 389 ; default\n\n" ++
    ascii "Listening = \"::\\  \n1\"\n"

theorem iniparserLoad_meaning_sample :
    readFile sampleFile =
        ([.nothing, .malformed, .header (some (ascii "server")),
          .assign (ascii "port") (ascii "389"), .nothing,
          .assign (ascii "listening") (ascii "::1")], true) ∧
      LoadMeaning (readFile sampleFile).1 (readFile sampleFile).2
        (iniparserLoad 0 sampleFile) :=
  ⟨by decide +kernel,
    iniparserLoad_meaning ⟨by decide, by decide⟩ sampleFile⟩

end LdapProxy

import LdapProxy.NumberText

namespace LdapProxy.FormattedScan

open LdapProxy.NumberText

/-!
# Formatted scans of texts

`sscanf` with formats of sets, white space and single characters, on the octets
of a C string.  A set stores the longest nonempty run of its characters; white
space stands for any amount of it; another character stands for itself.  The
scan ends at the first directive that fails, and what was stored until then
stays stored.
-/

/-- A directive of a format. -/
inductive Directive where
  /-- `%[...]` -/
  | set (accepts : UInt8 → Bool)
  | space
  | literal (c : UInt8)

/-- The strings that `sscanf` stores, in order; it returns their number. -/
def scanText : List Directive → List UInt8 → List (List UInt8)
  | [], _ =>
      []
  | .set accepts :: format, text =>
      if text.takeWhile accepts = [] then
        []
      else
        text.takeWhile accepts ::
          scanText format (text.dropWhile accepts)
  | .space :: format, text =>
      scanText format (text.dropWhile isSpace)
  | .literal _ :: _, [] =>
      []
  | .literal c :: format, first :: rest =>
      if first = c then
        scanText format rest
      else
        []

/-- A set that finds one of its characters stores all of them. -/
theorem scanText_set
    {accepts : UInt8 → Bool}
    {text : List UInt8}
    (found : text.takeWhile accepts ≠ [])
    (format : List Directive) :
    scanText (.set accepts :: format) text =
      text.takeWhile accepts ::
        scanText format (text.dropWhile accepts) := by
  rw [scanText, if_neg found]

/-- A set that finds none of its characters fails. -/
theorem scanText_set_nil
    {accepts : UInt8 → Bool}
    {text : List UInt8}
    (absent : text.takeWhile accepts = [])
    (format : List Directive) :
    scanText (.set accepts :: format) text = [] := by
  rw [scanText, if_pos absent]

/-- White space in a format passes over none in front of another character. -/
theorem scanText_space_literal
    {c : UInt8}
    (visible : isSpace c = false)
    (rest : List UInt8)
    (format : List Directive) :
    scanText (.space :: .literal c :: format) (c :: rest) =
      scanText format rest := by
  have stays : (c :: rest).dropWhile isSpace = c :: rest := by
    simp [visible]
  rw [scanText, stays, scanText, if_pos rfl]

end LdapProxy.FormattedScan

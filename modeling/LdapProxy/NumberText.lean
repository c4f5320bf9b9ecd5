import Mathlib.Data.Int.Basic
import Mathlib.Data.List.Basic
import Mathlib.Tactic.Ring

namespace LdapProxy.NumberText

/-!
# Numbers in texts

`strtol` with base 0 on the octets of a C string, and the conversion of its
result to `int`.  A text that starts with no number is the number zero.
-/

/-- The octets of a text of ASCII characters. -/
def ascii (text : String) : List UInt8 :=
  text.toList.map fun c => UInt8.ofNat c.toNat

/-- `isspace` in the C locale. -/
def isSpace (c : UInt8) : Bool :=
  c = 32 || (9 ≤ c && c ≤ 13)

/-- `tolower` in the C locale. -/
def toLower (c : UInt8) : UInt8 :=
  if 65 ≤ c ∧ c ≤ 90 then c + 32 else c

/-- The value of a digit or a letter. -/
def digitValue (c : UInt8) : Option Nat :=
  if 48 ≤ c ∧ c ≤ 57 then
    some (c.toNat - 48)
  else if 97 ≤ toLower c ∧ toLower c ≤ 122 then
    some ((toLower c).toNat - 87)
  else
    none

/-- The digits of a number, up to the first character that is none. -/
def digitsFrom (base : Nat) : Nat → List UInt8 → Nat
  | value, [] =>
      value
  | value, c :: rest =>
      match digitValue c with
      | none =>
          value
      | some digit =>
          if digit < base then
            digitsFrom base (value * base + digit) rest
          else
            value

/-- The base that a number has by its first characters, and its digits. -/
def basePrefix : List UInt8 → Nat × List UInt8
  | 48 :: x :: rest =>
      if toLower x = 120 then (16, rest) else (8, x :: rest)
  | text =>
      (10, text)

/-- The sign of a number, and what follows it. -/
def signPrefix : List UInt8 → Bool × List UInt8
  | 45 :: rest => (true, rest)
  | 43 :: rest => (false, rest)
  | text => (false, text)

/-- `strtol(text, NULL, 0)` with a `long` of 64 bits. -/
def strtol (text : List UInt8) : Int :=
  let (negative, text) := signPrefix (text.dropWhile isSpace)
  let (base, digits) := basePrefix text
  let magnitude := digitsFrom base 0 digits
  if negative then
    max (-2 ^ 63) (-magnitude)
  else
    min (2 ^ 63 - 1) magnitude

/-- The number that a text starts with, without the bounds of a type. -/
def textNumber (text : List UInt8) : Int :=
  let (negative, text) := signPrefix (text.dropWhile isSpace)
  let (base, digits) := basePrefix text
  let magnitude := digitsFrom base 0 digits
  if negative then -magnitude else magnitude

/-- A number beyond the limits of `long` becomes the limit. -/
theorem strtol_eq (text : List UInt8) :
    strtol text = max (-2 ^ 63) (min (2 ^ 63 - 1) (textNumber text)) := by
  unfold strtol textNumber
  rcases signPrefix (text.dropWhile isSpace) with ⟨negative, unsigned⟩
  dsimp only
  generalize digitsFrom _ 0 _ = magnitude
  cases negative with
  | false =>
      rw [if_neg Bool.false_ne_true, if_neg Bool.false_ne_true]
      omega
  | true =>
      rw [if_pos rfl, if_pos rfl]
      omega

/-- The conversion of a `long` to `int`. -/
def toInt (value : Int) : Int :=
  value.bmod (2 ^ 32)

/-- A value of type `int` is between its limits. -/
theorem toInt_bounds (value : Int) :
    -2 ^ 31 ≤ toInt value ∧ toInt value < 2 ^ 31 := by
  have low := Int.le_bmod (x := value) (m := 2 ^ 32) (by decide)
  have high := Int.bmod_lt (x := value) (m := 2 ^ 32) (by decide)
  unfold toInt
  omega

/-- A `long` that is a value of type `int` is kept. -/
theorem toInt_eq
    {value : Int}
    (low : -2 ^ 31 ≤ value)
    (high : value < 2 ^ 31) :
    toInt value = value := by
  refine Int.bmod_eq_of_le ?_ ?_
  · omega
  · omega

example :
    strtol (ascii "42") = 42 ∧
      strtol (ascii "042") = 34 ∧
      strtol (ascii " 0x42 ") = 66 ∧
      strtol (ascii "") = 0 ∧
      toInt (strtol (ascii "99999999999999999999")) = -1 ∧
      textNumber (ascii "-99999999999999999999") = -99999999999999999999 := by
  decide

end LdapProxy.NumberText

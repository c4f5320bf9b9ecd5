import Mathlib.Data.List.TakeWhile
import Mathlib.Tactic

namespace LdapProxy

/-!
# Byte memory

A block of memory is a function from offsets to octets.  A record whose layout
matters (overlaid header fields, adjacent character arrays) is such a block
with named offsets; everything the code does to it is `write` and `read`.
-/

/-- The octets of a memory block by offset. -/
abbrev Memory := Nat → UInt8

namespace Memory

/-- A block cleared by `memset` or `calloc`. -/
def zero : Memory :=
  fun _ => 0

/-- Copy `octets` to `offset`, leaving every other octet as it was. -/
def write
    (memory : Memory)
    (offset : Nat)
    (octets : List UInt8) :
    Memory :=
  fun address =>
    if offset ≤ address ∧ address < offset + octets.length then
      octets.getD (address - offset) 0
    else
      memory address

/-- The `count` octets from `offset` on. -/
def read
    (memory : Memory)
    (offset count : Nat) :
    List UInt8 :=
  (List.range count).map fun index => memory (offset + index)

@[simp] theorem length_read
    (memory : Memory)
    (offset count : Nat) :
    (memory.read offset count).length = count := by
  simp [read]

theorem read_zero (offset count : Nat) :
    zero.read offset count = List.replicate count 0 := by
  simp [read, zero]

@[simp] theorem read_none
    (memory : Memory)
    (offset : Nat) :
    memory.read offset 0 = [] :=
  rfl

/-- Reading across a boundary reads both sides in order. -/
theorem read_add
    (memory : Memory)
    (offset first second : Nat) :
    memory.read offset (first + second) =
      memory.read offset first ++ memory.read (offset + first) second := by
  simp [read, List.range_add, Nat.add_assoc]

@[simp] theorem getElem_read
    (memory : Memory)
    (offset count index : Nat)
    (inBounds : index < (memory.read offset count).length) :
    (memory.read offset count)[index] = memory (offset + index) := by
  simp [read]

/-- An octet outside the written interval keeps its value. -/
theorem write_outside
    (memory : Memory)
    {offset address : Nat}
    {octets : List UInt8}
    (outside :
      address < offset ∨ offset + octets.length ≤ address) :
    memory.write offset octets address = memory address := by
  unfold write
  rw [if_neg (by omega)]

/-- An octet inside the written interval is the one that was copied there. -/
theorem write_inside
    (memory : Memory)
    {offset index : Nat}
    {octets : List UInt8}
    (inside : index < octets.length) :
    memory.write offset octets (offset + index) = octets[index] := by
  unfold write
  rw [if_pos (by omega)]
  simp [inside]

/-- Reading back a written interval returns the octets that were copied. -/
theorem read_write_same
    (memory : Memory)
    (offset : Nat)
    (octets : List UInt8) :
    (memory.write offset octets).read offset octets.length = octets := by
  apply List.ext_getElem
  · simp
  · intro index leftBound rightBound
    rw [getElem_read]
    exact memory.write_inside rightBound

/-- Reading an interval disjoint from a write sees the memory before it. -/
theorem read_write_disjoint
    (memory : Memory)
    {offset other count : Nat}
    {octets : List UInt8}
    (disjoint :
      other + count ≤ offset ∨ offset + octets.length ≤ other) :
    (memory.write offset octets).read other count =
      memory.read other count := by
  apply List.ext_getElem
  · simp
  · intro index leftBound rightBound
    rw [getElem_read, getElem_read]
    rw [length_read] at leftBound
    exact memory.write_outside (by omega)

/-- A write inside a longer interval that is read, split at its two ends. -/
theorem read_write_append
    (memory : Memory)
    {offset count : Nat}
    (octets : List UInt8) :
    (memory.write (offset + count) octets).read offset
        (count + octets.length) =
      memory.read offset count ++ octets := by
  rw [read_add, read_write_disjoint memory (by omega), read_write_same]

/-- The first octets of an interval. -/
theorem take_read
    (memory : Memory)
    {offset count part : Nat}
    (within : part ≤ count) :
    (memory.read offset count).take part = memory.read offset part := by
  obtain ⟨rest, rfl⟩ := Nat.exists_eq_add_of_le within
  rw [read_add]
  exact List.take_left' (length_read ..)

/-- The octets of an interval behind its first ones. -/
theorem drop_read
    (memory : Memory)
    (offset first second : Nat) :
    (memory.read offset (first + second)).drop first =
      memory.read (offset + first) second := by
  rw [read_add]
  exact List.drop_left' (length_read ..)

/-- Reading a part of a written interval returns that part of the octets. -/
theorem read_write_part
    (memory : Memory)
    (offset : Nat)
    (octets : List UInt8)
    {index count : Nat}
    (inside : index + count ≤ octets.length) :
    (memory.write offset octets).read (offset + index) count =
      (octets.drop index).take count := by
  have whole := memory.read_write_same offset octets
  have split :
      octets.length = index + (count + (octets.length - index - count)) := by
    omega
  rw [split] at whole
  have part :=
    congrArg (fun written : List UInt8 => (written.drop index).take count)
      whole
  simp only [drop_read] at part
  rw [take_read _ (by omega)] at part
  exact part

end Memory

/-- The value of octets stored least significant first. -/
def littleEndian : List UInt8 → Nat
  | [] =>
      0
  | octet :: rest =>
      octet.toNat + 256 * littleEndian rest

/-- The `width` octets of `value`, least significant first. -/
def toLittleEndian : Nat → Nat → List UInt8
  | 0, _ =>
      []
  | width + 1, value =>
      UInt8.ofNat value :: toLittleEndian width (value / 256)

@[simp] theorem length_toLittleEndian
    (width value : Nat) :
    (toLittleEndian width value).length = width := by
  induction width generalizing value with
  | zero =>
      rfl
  | succ width inductionHypothesis =>
      simp [toLittleEndian, inductionHypothesis]

/-- Storing a value in `width` octets keeps it modulo `256 ^ width`. -/
theorem littleEndian_toLittleEndian
    (width value : Nat) :
    littleEndian (toLittleEndian width value) = value % 256 ^ width := by
  induction width generalizing value with
  | zero =>
      simp [toLittleEndian, littleEndian, Nat.mod_one]
  | succ width inductionHypothesis =>
      have octetValue : (UInt8.ofNat value).toNat = value % 256 := by
        simp
      rw [toLittleEndian, littleEndian, inductionHypothesis, octetValue,
        Nat.pow_succ', Nat.mod_mul]

/-- The C string at the start of `octets`: everything before the first NUL. -/
def cString (octets : List UInt8) : List UInt8 :=
  octets.takeWhile (· ≠ 0)

/-- A list without NUL that is followed by a NUL is the C string read there. -/
theorem cString_append_zero
    {text : List UInt8}
    (noZero : (0 : UInt8) ∉ text)
    (rest : List UInt8) :
    cString (text ++ 0 :: rest) = text := by
  unfold cString
  rw [List.takeWhile_append_of_pos]
  · simp
  · intro octet member
    have : octet ≠ 0 := by
      rintro rfl
      exact noZero member
    simpa using this

/-- A C string has no NUL. -/
theorem zero_notMem_cString
    (octets : List UInt8) :
    (0 : UInt8) ∉ cString octets := by
  unfold cString
  induction octets with
  | nil =>
      simp
  | cons octet rest inductionHypothesis =>
      by_cases isZero : octet = 0
      · simp [isZero]
      · simp only [ne_eq, isZero, not_false_eq_true, decide_true,
          List.takeWhile_cons_of_pos, List.mem_cons, not_or]
        exact ⟨Ne.symm isZero, inductionHypothesis⟩

/-- A list without NUL is its own C string. -/
theorem cString_of_noZero
    {text : List UInt8}
    (noZero : (0 : UInt8) ∉ text) :
    cString text = text := by
  unfold cString
  rw [List.takeWhile_eq_self_iff]
  intro octet member
  have : octet ≠ 0 := by
    rintro rfl
    exact noZero member
  simpa using this

/--
The octets that `strncpy(dest, text, count)` stores: the first `count` octets
of the string, padded with NUL up to `count`.
-/
def strncpy
    (text : List UInt8)
    (count : Nat) :
    List UInt8 :=
  text.take count ++ List.replicate (count - text.length) 0

@[simp] theorem length_strncpy
    (text : List UInt8)
    (count : Nat) :
    (strncpy text count).length = count := by
  simp [strncpy]
  omega

/-- Copying exactly the length of the string copies no terminating NUL. -/
@[simp] theorem strncpy_length
    (text : List UInt8) :
    strncpy text text.length = text := by
  simp [strncpy]

end LdapProxy

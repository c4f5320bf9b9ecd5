import LdapProxy.ByteMemory

namespace LdapProxy

/-!
# The query and reply records

`mysql_msg_t` of `lp_mysql.h` as the image it has on a 64-bit target: `code`
and `msgid`, the array `base`, `filter_type` and the two arrays of
`equalityMatch`, which lie in the union at the end of the record.  The arrays
are adjacent, so a copy that is longer than its array lands in what follows.
-/

/-- A character array of the record: its offset and its size. -/
structure CharField where
  offset : Nat
  size : Nat
  deriving Repr, DecidableEq

/-- `LP_ATTR_LEN`, `LP_ASSERT_LEN` and `LP_MYSQL_BASE_LEN` -/
def lpAttrLen : Nat := 128

/-- `LP_MYSQL_DEST_LEN` -/
def lpMysqlDestLen : Nat := 128

/-- `LP_DN_LEN` -/
def lpDnLen : Nat := lpAttrLen * 2

/-- The offset of `code`. -/
def codeField : Nat := 0

/-- The offset of `msgid`. -/
def msgidField : Nat := 4

/-- `base` -/
def baseField : CharField := ⟨8, lpAttrLen + 1⟩

/-- The offset of `filter_type`. -/
def filterTypeField : Nat := 144

/-- `equalityMatch.attribute` -/
def attributeField : CharField := ⟨152, lpAttrLen + 1⟩

/-- `equalityMatch.assertionValue` -/
def assertionValueField : CharField := ⟨281, lpAttrLen + 1⟩

/-- `sizeof(mysql_msg_t)` -/
def mysqlMsgSize : Nat := 416

/-- One `strncpy` into a character array: the text and the count given. -/
structure StringCopy where
  field : CharField
  text : List UInt8
  count : Nat
  deriving Repr, DecidableEq

/-- The copy stores nothing past the end of its array. -/
def StringCopy.InBounds (copy : StringCopy) : Prop :=
  copy.count ≤ copy.field.size

instance (copy : StringCopy) : Decidable copy.InBounds :=
  inferInstanceAs (Decidable (_ ≤ _))

/--
A record.  `copies` is a history variable: every `strncpy` into one of its
arrays, most recent first.
-/
structure MysqlMsg where
  image : Memory
  copies : List StringCopy

namespace MysqlMsg

/-- A record cleared by `stk_pcalloc`. -/
def cleared : MysqlMsg where
  image := Memory.zero
  copies := []

/-- Store an `int` field. -/
def setInt (msg : MysqlMsg) (offset : Nat) (num : Int) : MysqlMsg :=
  { msg with
    image :=
      msg.image.write offset
        (toLittleEndian 4 (num % 2 ^ 32).toNat) }

/-- Read an `int` field. -/
def getInt (msg : MysqlMsg) (offset : Nat) : Int :=
  Int.bmod (littleEndian (msg.image.read offset 4)) (2 ^ 32)

/-- Store `filter_type`. -/
def setFilterType (msg : MysqlMsg) (tag : Nat) : MysqlMsg :=
  { msg with
    image := msg.image.write filterTypeField (toLittleEndian 8 tag) }

/-- Read `filter_type`. -/
def filterType (msg : MysqlMsg) : Nat :=
  littleEndian (msg.image.read filterTypeField 8)

/-- `strncpy(field, text, count)` -/
def copyString
    (msg : MysqlMsg)
    (field : CharField)
    (text : List UInt8)
    (count : Nat) :
    MysqlMsg where
  image := msg.image.write field.offset (strncpy text count)
  copies := ⟨field, text, count⟩ :: msg.copies

/--
The C string that starts at an array.  A string without NUL runs on into the
following fields; what lies behind the record is not modelled.
-/
def string (msg : MysqlMsg) (field : CharField) : List UInt8 :=
  cString (msg.image.read field.offset (mysqlMsgSize - field.offset))

/-- A string ends with the record at the latest. -/
theorem length_string (msg : MysqlMsg) (field : CharField) :
    (msg.string field).length ≤ mysqlMsgSize - field.offset := by
  have shorter :=
    (List.takeWhile_sublist (· ≠ 0)
      (l := msg.image.read field.offset
        (mysqlMsgSize - field.offset))).length_le
  rw [Memory.length_read] at shorter
  exact shorter

/-- The array holds a NUL. -/
def Terminated (msg : MysqlMsg) (field : CharField) : Prop :=
  (0 : UInt8) ∈ msg.image.read field.offset field.size

instance (msg : MysqlMsg) (field : CharField) :
    Decidable (msg.Terminated field) :=
  inferInstanceAs (Decidable (_ ∈ _))

/-- The array holds this text, padded with NUL. -/
def FieldHolds
    (msg : MysqlMsg)
    (field : CharField)
    (text : List UInt8) :
    Prop :=
  msg.image.read field.offset field.size =
    text ++ List.replicate (field.size - text.length) 0

/-- Every array of a cleared record is empty. -/
theorem cleared_fieldHolds (field : CharField) :
    cleared.FieldHolds field [] := by
  simp only [FieldHolds, cleared, List.nil_append, List.length_nil,
    Nat.sub_zero]
  exact Memory.read_zero field.offset field.size

/-- A copy that fits its array, empty before, is what the array holds. -/
theorem copyString_fieldHolds
    {msg : MysqlMsg}
    {field : CharField}
    (empty : msg.FieldHolds field [])
    {text : List UInt8}
    {count : Nat}
    (whole : text.length ≤ count)
    (fits : count ≤ field.size) :
    (msg.copyString field text count).FieldHolds field text := by
  have split : field.size = count + (field.size - count) := by omega
  have rest : msg.image.read (field.offset + count) (field.size - count) =
      List.replicate (field.size - count) 0 := by
    have before := empty
    simp only [FieldHolds, List.nil_append, List.length_nil,
      Nat.sub_zero] at before
    rw [split, Memory.read_add, List.replicate_add] at before
    have parts := List.append_inj before (by simp)
    simpa using parts.2
  have written :=
    msg.image.read_write_same field.offset (strncpy text count)
  rw [length_strncpy] at written
  simp only [FieldHolds, copyString]
  rw [split, Memory.read_add, written,
    Memory.read_write_disjoint _ (by rw [length_strncpy]; omega), rest,
    strncpy, List.take_of_length_le whole, List.append_assoc,
    ← List.replicate_add]
  congr 2
  omega

/-- A write that ends before an array or begins behind it leaves it alone. -/
theorem fieldHolds_write
    {msg other : MysqlMsg}
    {field : CharField}
    {text octets : List UInt8}
    {offset : Nat}
    (holds : msg.FieldHolds field text)
    (image : other.image = msg.image.write offset octets)
    (disjoint :
      field.offset + field.size ≤ offset ∨
        offset + octets.length ≤ field.offset) :
    other.FieldHolds field text := by
  unfold FieldHolds at holds ⊢
  rw [image, Memory.read_write_disjoint _ disjoint, holds]

/-- The C string of an array that holds a text without NUL and ends there. -/
theorem string_of_fieldHolds
    {msg : MysqlMsg}
    {field : CharField}
    {text : List UInt8}
    (holds : msg.FieldHolds field text)
    (noZero : (0 : UInt8) ∉ text)
    (short : text.length < field.size)
    (inside : field.offset + field.size ≤ mysqlMsgSize) :
    msg.string field = text := by
  have split : mysqlMsgSize - field.offset =
      field.size + (mysqlMsgSize - field.offset - field.size) := by omega
  obtain ⟨more, padding⟩ :
      ∃ more, field.size - text.length = more + 1 :=
    ⟨field.size - text.length - 1, by omega⟩
  unfold string
  rw [split, Memory.read_add, holds, padding, List.replicate_succ,
    List.append_assoc, List.cons_append]
  exact cString_append_zero noZero _

/-- An array that holds a shorter text is terminated. -/
theorem terminated_of_fieldHolds
    {msg : MysqlMsg}
    {field : CharField}
    {text : List UInt8}
    (holds : msg.FieldHolds field text)
    (short : text.length < field.size) :
    msg.Terminated field := by
  unfold Terminated
  rw [holds, List.mem_append, List.mem_replicate]
  exact .inr ⟨by omega, rfl⟩

/-- An array that was filled by a longer text without NUL has none. -/
theorem not_terminated_of_long
    {msg : MysqlMsg}
    {field : CharField}
    {text : List UInt8}
    (filled :
      msg.image.read field.offset field.size = text.take field.size)
    (noZero : (0 : UInt8) ∉ text) :
    ¬ msg.Terminated field := by
  intro terminated
  unfold Terminated at terminated
  rw [filled] at terminated
  exact noZero (List.mem_of_mem_take terminated)

/-- A copy of a whole text at least as long as the array fills it. -/
theorem copyString_fills
    (msg : MysqlMsg)
    {field : CharField}
    {text : List UInt8}
    (long : field.size ≤ text.length) :
    (msg.copyString field text text.length).image.read field.offset
        field.size =
      text.take field.size := by
  have written := msg.image.read_write_same field.offset text
  have split : text.length = field.size + (text.length - field.size) := by
    omega
  rw [split, Memory.read_add] at written
  have start := congrArg (List.take field.size) written
  rw [List.take_left' (by simp)] at start
  simpa [copyString] using start

/-- Writing an `int` and reading it back. -/
theorem getInt_setInt
    (msg : MysqlMsg)
    (offset : Nat)
    {num : Int}
    (low : -2 ^ 31 ≤ num)
    (high : num < 2 ^ 31) :
    (msg.setInt offset num).getInt offset = num := by
  have stored := msg.image.read_write_same offset
    (toLittleEndian 4 (num % 2 ^ 32).toNat)
  rw [length_toLittleEndian] at stored
  have nonnegative : 0 ≤ num % 2 ^ 32 := by omega
  have small : (num % 2 ^ 32).toNat < 256 ^ 4 := by omega
  have value : littleEndian (toLittleEndian 4 (num % 2 ^ 32).toNat) =
      (num % 2 ^ 32).toNat := by
    rw [littleEndian_toLittleEndian]
    exact Nat.mod_eq_of_lt small
  unfold getInt setInt
  rw [stored, value, Int.toNat_of_nonneg nonnegative, Int.bmod_def]
  split <;> omega

/-- A write elsewhere does not change an `int` field. -/
theorem getInt_write
    {msg other : MysqlMsg}
    {field offset : Nat}
    {octets : List UInt8}
    (image : other.image = msg.image.write offset octets)
    (disjoint :
      field + 4 ≤ offset ∨ offset + octets.length ≤ field) :
    other.getInt field = msg.getInt field := by
  unfold getInt
  rw [image, Memory.read_write_disjoint _ disjoint]

/-- Writing the filter type and reading it back. -/
theorem filterType_setFilterType
    (msg : MysqlMsg)
    {tag : Nat}
    (small : tag < 2 ^ 64) :
    (msg.setFilterType tag).filterType = tag := by
  have stored :=
    msg.image.read_write_same filterTypeField (toLittleEndian 8 tag)
  rw [length_toLittleEndian] at stored
  simp only [filterType, setFilterType, stored,
    littleEndian_toLittleEndian]
  exact Nat.mod_eq_of_lt small

/-- A write elsewhere does not change the filter type. -/
theorem filterType_write
    {msg other : MysqlMsg}
    {offset : Nat}
    {octets : List UInt8}
    (image : other.image = msg.image.write offset octets)
    (disjoint :
      filterTypeField + 8 ≤ offset ∨
        offset + octets.length ≤ filterTypeField) :
    other.filterType = msg.filterType := by
  unfold filterType
  rw [image, Memory.read_write_disjoint _ disjoint]

end MysqlMsg

end LdapProxy

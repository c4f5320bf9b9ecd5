import LdapProxy.MysqlRoutine

namespace LdapProxy

open LdapProxy.Lber

/-!
# What the query and reply records say

`RecordText` is the content of a `mysql_msg_t` in its own terms: two numbers,
a tag and three texts.  `Shows` relates it to the image; every store of the
code changes one part of it, so the query that `lp_do_search` builds and the
reply that `__process_ldap_query` builds are read off step by step.
-/

/-- The content of a record. -/
structure RecordText where
  code : Int
  msgid : Int
  base : List UInt8
  filterType : Nat
  attr : List UInt8
  assertionValue : List UInt8
  deriving Repr, DecidableEq

/-- The content of a cleared record. -/
def RecordText.cleared : RecordText where
  code := 0
  msgid := 0
  base := []
  filterType := 0
  attr := []
  assertionValue := []

namespace MysqlMsg

/-- The image holds this content. -/
structure Shows (msg : MysqlMsg) (text : RecordText) : Prop where
  code : msg.getInt codeField = text.code
  msgid : msg.getInt msgidField = text.msgid
  base : msg.FieldHolds baseField text.base
  filterType : msg.filterType = text.filterType
  attr : msg.FieldHolds attributeField text.attr
  assertionValue : msg.FieldHolds assertionValueField text.assertionValue

theorem shows_cleared : cleared.Shows RecordText.cleared where
  code := by decide +kernel
  msgid := by decide +kernel
  base := cleared_fieldHolds baseField
  filterType := by decide +kernel
  attr := cleared_fieldHolds attributeField
  assertionValue := cleared_fieldHolds assertionValueField

/-- Storing `code` changes nothing else. -/
theorem Shows.setCode
    {msg : MysqlMsg}
    {text : RecordText}
    (shows : msg.Shows text)
    {num : Int}
    (low : -2 ^ 31 ≤ num)
    (high : num < 2 ^ 31) :
    (msg.setInt codeField num).Shows { text with code := num } where
  code := msg.getInt_setInt codeField low high
  msgid := (getInt_write rfl (.inr (by simp; decide))).trans shows.msgid
  base := fieldHolds_write shows.base rfl (.inr (by simp; decide))
  filterType :=
    (filterType_write rfl (.inr (by simp; decide))).trans shows.filterType
  attr := fieldHolds_write shows.attr rfl (.inr (by simp; decide))
  assertionValue :=
    fieldHolds_write shows.assertionValue rfl (.inr (by simp; decide))

/-- Storing `msgid` changes nothing else. -/
theorem Shows.setMsgid
    {msg : MysqlMsg}
    {text : RecordText}
    (shows : msg.Shows text)
    {num : Int}
    (low : -2 ^ 31 ≤ num)
    (high : num < 2 ^ 31) :
    (msg.setInt msgidField num).Shows { text with msgid := num } where
  code := (getInt_write rfl (.inl (by decide))).trans shows.code
  msgid := msg.getInt_setInt msgidField low high
  base := fieldHolds_write shows.base rfl (.inr (by simp; decide))
  filterType :=
    (filterType_write rfl (.inr (by simp; decide))).trans shows.filterType
  attr := fieldHolds_write shows.attr rfl (.inr (by simp; decide))
  assertionValue :=
    fieldHolds_write shows.assertionValue rfl (.inr (by simp; decide))

/-- Storing `filter_type` changes nothing else. -/
theorem Shows.setFilterType
    {msg : MysqlMsg}
    {text : RecordText}
    (shows : msg.Shows text)
    {tag : Nat}
    (small : tag < 2 ^ 64) :
    (msg.setFilterType tag).Shows { text with filterType := tag } where
  code := (getInt_write rfl (.inl (by decide))).trans shows.code
  msgid := (getInt_write rfl (.inl (by decide))).trans shows.msgid
  base := fieldHolds_write shows.base rfl (.inl (by decide))
  filterType := msg.filterType_setFilterType small
  attr := fieldHolds_write shows.attr rfl (.inr (by simp; decide))
  assertionValue :=
    fieldHolds_write shows.assertionValue rfl (.inr (by simp; decide))

/-- Copying into the empty `base` changes nothing else. -/
theorem Shows.copyBase
    {msg : MysqlMsg}
    {text : RecordText}
    (shows : msg.Shows text)
    (empty : text.base = [])
    {base : List UInt8}
    {count : Nat}
    (whole : base.length ≤ count)
    (fits : count ≤ baseField.size) :
    (msg.copyString baseField base count).Shows
      { text with base := base } where
  code := (getInt_write rfl (.inl (by decide))).trans shows.code
  msgid := (getInt_write rfl (.inl (by decide))).trans shows.msgid
  base := copyString_fieldHolds (empty ▸ shows.base) whole fits
  filterType :=
    (filterType_write rfl (.inr (by
      simp only [baseField, lpAttrLen, filterTypeField, length_strncpy]
        at fits ⊢
      omega))).trans shows.filterType
  attr := fieldHolds_write shows.attr rfl (.inr (by
    simp only [baseField, lpAttrLen, attributeField, length_strncpy]
      at fits ⊢
    omega))
  assertionValue := fieldHolds_write shows.assertionValue rfl (.inr (by
    simp only [baseField, lpAttrLen, assertionValueField, length_strncpy]
      at fits ⊢
    omega))

/-- Copying into the empty `attribute` changes nothing else. -/
theorem Shows.copyAttribute
    {msg : MysqlMsg}
    {text : RecordText}
    (shows : msg.Shows text)
    (empty : text.attr = [])
    {attr : List UInt8}
    (fits : attr.length ≤ attributeField.size) :
    (msg.copyString attributeField attr attr.length).Shows
      { text with attr := attr } where
  code := (getInt_write rfl (.inl (by decide))).trans shows.code
  msgid := (getInt_write rfl (.inl (by decide))).trans shows.msgid
  base := fieldHolds_write shows.base rfl (.inl (by decide))
  filterType :=
    (filterType_write rfl (.inl (by decide))).trans shows.filterType
  attr := copyString_fieldHolds (empty ▸ shows.attr) le_rfl fits
  assertionValue := fieldHolds_write shows.assertionValue rfl (.inr (by
    simp only [attributeField, lpAttrLen, assertionValueField,
      length_strncpy] at fits ⊢
    omega))

/-- Copying into the empty `assertionValue` changes nothing else. -/
theorem Shows.copyAssertionValue
    {msg : MysqlMsg}
    {text : RecordText}
    (shows : msg.Shows text)
    (empty : text.assertionValue = [])
    {assertionValue : List UInt8}
    (fits : assertionValue.length ≤ assertionValueField.size) :
    (msg.copyString assertionValueField assertionValue
        assertionValue.length).Shows
      { text with assertionValue := assertionValue } where
  code := (getInt_write rfl (.inl (by decide))).trans shows.code
  msgid := (getInt_write rfl (.inl (by decide))).trans shows.msgid
  base := fieldHolds_write shows.base rfl (.inl (by decide))
  filterType :=
    (filterType_write rfl (.inl (by decide))).trans shows.filterType
  attr := fieldHolds_write shows.attr rfl (.inl (by decide))
  assertionValue :=
    copyString_fieldHolds (empty ▸ shows.assertionValue) le_rfl fits

/-- A text without NUL that leaves room for one in a `LP_ATTR_LEN` array. -/
structure Short (text : List UInt8) : Prop where
  noZero : (0 : UInt8) ∉ text
  length : text.length ≤ lpAttrLen

/-- `base` is read back as a C string. -/
theorem Shows.string_base
    {msg : MysqlMsg}
    {text : RecordText}
    (shows : msg.Shows text)
    (short : Short text.base) :
    msg.string baseField = text.base :=
  string_of_fieldHolds shows.base short.noZero
    (Nat.lt_succ_of_le short.length) (by decide)

/-- `attribute` is read back as a C string. -/
theorem Shows.string_attr
    {msg : MysqlMsg}
    {text : RecordText}
    (shows : msg.Shows text)
    (short : Short text.attr) :
    msg.string attributeField = text.attr :=
  string_of_fieldHolds shows.attr short.noZero
    (Nat.lt_succ_of_le short.length) (by decide)

/-- `assertionValue` is read back as a C string. -/
theorem Shows.string_assertionValue
    {msg : MysqlMsg}
    {text : RecordText}
    (shows : msg.Shows text)
    (short : Short text.assertionValue) :
    msg.string assertionValueField = text.assertionValue :=
  string_of_fieldHolds shows.assertionValue short.noZero
    (Nat.lt_succ_of_le short.length) (by decide)

end MysqlMsg

open MysqlMsg

/-- The content of a query without equality filter. -/
def RecordText.query (msgid : Int) (base : List UInt8) : RecordText :=
  { RecordText.cleared with msgid := msgid, base := base }

/-- The content of a query with an equality filter. -/
def RecordText.equality
    (msgid : Int)
    (base attr assertionValue : List UInt8) :
    RecordText :=
  { RecordText.query msgid base with
    filterType := ldapFilterEquality
    attr := attr
    assertionValue := assertionValue }

/-- The query that `lp_do_search` builds before it looks at the filter. -/
theorem shows_queryOf
    {base : List UInt8}
    (fits : base.length ≤ baseField.size)
    {msgid : Int}
    (low : -2 ^ 31 ≤ msgid)
    (high : msgid < 2 ^ 31) :
    (queryOf base msgid).Shows (RecordText.query msgid base) :=
  (shows_cleared.copyBase rfl le_rfl fits).setMsgid low high

/-- The query that `lp_do_search` builds for an equality filter. -/
theorem shows_setEquality
    {base attr assertionValue : List UInt8}
    (baseFits : base.length ≤ baseField.size)
    (attrFits : attr.length ≤ attributeField.size)
    (valueFits : assertionValue.length ≤ assertionValueField.size)
    {msgid : Int}
    (low : -2 ^ 31 ≤ msgid)
    (high : msgid < 2 ^ 31) :
    (((queryOf base msgid).setFilterType ldapFilterEquality).setEquality
        attr assertionValue).Shows
      (RecordText.equality msgid base attr assertionValue) :=
  (((shows_queryOf baseFits low high).setFilterType
    (by decide)).copyAttribute rfl attrFits).copyAssertionValue rfl
    valueFits

end LdapProxy

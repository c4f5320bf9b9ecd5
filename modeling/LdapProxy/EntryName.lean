import LdapProxy.SearchAnswer

namespace LdapProxy

open LdapProxy.Ber
open LdapProxy.Lber

/-!
# The name of an equality entry

`__search_succeed` prints `attribute=value,base` into `dn`, which holds
`LP_DN_LEN - 1` octets of it, and then copies as many octets as the whole text
has.  The name is exact as long as the text fits; a longer one is cut off and
padded with NUL.
-/

/-- An `int` field holds a number of 32 bits. -/
theorem MysqlMsg.getInt_small (msg : MysqlMsg) (offset : Nat) :
    -2 ^ 31 ≤ msg.getInt offset ∧ msg.getInt offset < 2 ^ 31 := by
  unfold MysqlMsg.getInt
  constructor
  · exact Int.le_bmod (by decide)
  · exact Int.bmod_lt (by decide)

/--
`__search_succeed` appends one record, and the first message in it is an entry
with this object name.
-/
def EntryNamed (reply : Task) (name : List UInt8) : Prop :=
  ∀ (c : Connection) (p : Process),
    ∃ ber next id attributes later,
      searchSucceed reply c p = (lpOk, next) ∧
        next.1.rplList = c.rplList ++ [⟨p.datas.next, ber, reply.issued⟩] ∧
        decodeReplies ber.octets =
          some (.entry id name attributes :: later)

variable {reply : Task}

/-- What `__search_succeed` appends for an equality reply. -/
theorem searchSucceed_equality
    (equality : reply.data.filterType = ldapFilterEquality)
    (c : Connection)
    (p : Process) :
    ∃ ber attributes later,
      searchSucceed reply c p =
          (lpOk, addReply reply p.datas.next ber c, (ldapDataNew p).2) ∧
        decodeReplies ber.octets =
          some
            (.entry (reply.data.getInt msgidField)
                (equalityName reply.data) attributes ::
              later) := by
  obtain ⟨entry, entryPrinted, entryPrints, entryLength⟩ :=
    printEquality_prints equality
  obtain ⟨done, donePrinted, donePrints, doneLength⟩ :=
    printSearchDone_prints reply.data entryPrints entryLength
  refine
    ⟨done,
      [(reply.data.string attributeField,
          [reply.data.string assertionValueField]),
        classAttribute],
      [searchDone (reply.data.getInt msgidField)], ?_, ?_⟩
  · simp only [searchSucceed, ldapDataNew, entryPrinted]
    exact appendDone_printed donePrinted _ c _
  · rw [octets_of_prints donePrints]
    refine decodeReplies_answer ?_ ?_ doneLength
    · have id := reply.data.getInt_small msgidField
      have code : -2 ^ 31 ≤ ldapSuccess ∧ ldapSuccess < 2 ^ 31 := by decide
      intro message member
      rcases List.mem_cons.mp member with rfl | isDone
      · exact id
      · rw [List.mem_singleton.mp isDone]
        exact ⟨id, code⟩
    · simp [elementsOctets]

/-- Two entries that one record decodes to have the same name. -/
theorem entryName_unique
    {octets : List UInt8}
    {id id' : Int}
    {name name' : List UInt8}
    {attributes attributes' : List PartialAttribute}
    {later later' : List SearchReply}
    (first :
      decodeReplies octets = some (.entry id name attributes :: later))
    (second :
      decodeReplies octets = some (.entry id' name' attributes' :: later')) :
    name = name' := by
  have same := first.symm.trans second
  simp only [Option.some.injEq, List.cons.injEq, SearchReply.entry.injEq]
    at same
  exact same.1.2.1

/-- The name of the entry is the encoded one. -/
theorem entryNamed_iff_equalityName
    (equality : reply.data.filterType = ldapFilterEquality)
    (name : List UInt8) :
    EntryNamed reply name ↔ equalityName reply.data = name := by
  constructor
  · intro named
    obtain ⟨ber, next, id, attributes, later, succeeds, appended, decodes⟩ :=
      named (Connection.initial 0) (Process.initial .still)
    obtain ⟨ber', attributes', later', succeeds', decodes'⟩ :=
      searchSucceed_equality equality (Connection.initial 0)
        (Process.initial .still)
    rw [succeeds, Prod.mk.injEq] at succeeds'
    rw [succeeds'.2] at appended
    simp only [addReply, List.append_cancel_left_eq, List.cons.injEq,
      LdapData.mk.injEq, true_and, and_true] at appended
    rw [appended] at decodes'
    exact entryName_unique decodes' decodes
  · rintro rfl c p
    obtain ⟨ber, attributes, later, succeeds, decodes⟩ :=
      searchSucceed_equality equality c p
    exact ⟨ber, _, _, attributes, later, succeeds, rfl, decodes⟩

/-- The name has no NUL in it. -/
theorem zero_notMem_entryName (msg : MysqlMsg) :
    (0 : UInt8) ∉ entryName msg := by
  have marks : (0 : UInt8) ∉ ascii "=" ∧ (0 : UInt8) ∉ ascii "," := by
    decide +kernel
  have strings : ∀ field, (0 : UInt8) ∉ msg.string field :=
    fun field => zero_notMem_cString _
  simp only [entryName, List.mem_append, not_or]
  exact
    ⟨⟨⟨⟨strings _, marks.1⟩, strings _⟩, marks.2⟩, strings _⟩

/-- A name that does not fit `dn` is padded with NUL. -/
theorem zero_mem_equalityName
    {msg : MysqlMsg}
    (long : lpDnLen ≤ (entryName msg).length) :
    (0 : UInt8) ∈ equalityName msg := by
  have name :
      equalityName msg =
        strncpy ((entryName msg).take (lpDnLen - 1))
          (entryName msg).length :=
    rfl
  rw [name, strncpy]
  apply List.mem_append_right
  apply List.mem_replicate.mpr
  refine ⟨?_, rfl⟩
  rw [List.length_take]
  unfold lpDnLen lpAttrLen at *
  omega

/-- The encoded name is exact exactly when it fits `dn`. -/
theorem equalityName_eq_iff (msg : MysqlMsg) :
    equalityName msg = entryName msg ↔ (entryName msg).length < lpDnLen := by
  constructor
  · intro same
    by_contra long
    have padded := zero_mem_equalityName (Nat.not_lt.mp long)
    rw [same] at padded
    exact zero_notMem_entryName msg padded
  · exact equalityName_of_short

/--
The object name of an equality entry is exactly `attribute=value,base` exactly
when that text has fewer than `LP_DN_LEN` octets.
-/
theorem entryNamed_iff_short
    (equality : reply.data.filterType = ldapFilterEquality) :
    EntryNamed reply (entryName reply.data) ↔
      (entryName reply.data).length < lpDnLen :=
  (entryNamed_iff_equalityName equality _).trans
    (equalityName_eq_iff reply.data)

/-- The reply to an equality search that found an entry. -/
def equalityReply (attr assertionValue base : List UInt8) : Task where
  id := 1
  sender := some (.mysql 0)
  receiver := some (.ldap 0)
  senderSource := .mysql
  receiverSource := .ldap
  taskType := lpTaskMysqlMsg
  c := 0
  data :=
    replyOf
      (((queryOf base 2).setFilterType ldapFilterEquality).setEquality attr
        assertionValue)
      0
  tick := 0
  issued := 1

/-- The entry of `mail=u` in `o=x` has its exact name. -/
theorem entryNamed_iff_short_mail :
    EntryNamed (equalityReply (ascii "mail") (ascii "u") (ascii "o=x"))
        (entryName
          (equalityReply (ascii "mail") (ascii "u") (ascii "o=x")).data) ↔
      (entryName
          (equalityReply (ascii "mail") (ascii "u")
            (ascii "o=x")).data).length < lpDnLen :=
  entryNamed_iff_short (by decide +kernel)

/-- A value and a base of 128 octets each leave a name that is cut off. -/
theorem longest_entry_cut :
    ¬ EntryNamed
        (equalityReply (ascii "mail") (List.replicate 128 0x61)
          (List.replicate 128 0x62))
        (entryName
          (equalityReply (ascii "mail") (List.replicate 128 0x61)
            (List.replicate 128 0x62)).data) := by
  have equality :
      (equalityReply (ascii "mail") (List.replicate 128 0x61)
        (List.replicate 128 0x62)).data.filterType = ldapFilterEquality := by
    decide +kernel
  have long :
      ¬ (entryName
        (equalityReply (ascii "mail") (List.replicate 128 0x61)
          (List.replicate 128 0x62)).data).length < lpDnLen := by
    decide +kernel
  rw [entryNamed_iff_equalityName equality, equalityName_eq_iff]
  exact long

end LdapProxy

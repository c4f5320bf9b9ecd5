import LdapProxy.NumberText
import Mathlib.Data.List.Perm.Basic
import Mathlib.Data.List.Nodup
import Mathlib.Data.List.ReduceOption

namespace LdapProxy

open LdapProxy.NumberText

/-!
# The dictionary of a configuration

`dictionary.c`: an array of slots with the keys, their values and their hashes,
searched from the front.  A dictionary carries what its functions rely on: the
hash of every key is the one that is stored, and no key is there twice.
-/

/-- A key with its value, which may be `NULL`. -/
structure Entry where
  key : List UInt8
  val : Option (List UInt8)
  hash : UInt32

/-- `(unsigned)c` where `char` is signed. -/
def unsignedChar (c : UInt8) : UInt32 :=
  if c < 128 then c.toUInt32 else c.toUInt32 + 4294967040

/-- `dictionary_hash` -/
def dictionaryHash (key : List UInt8) : UInt32 :=
  let hash :=
    key.foldl
      (fun hash c =>
        let hash := hash + unsignedChar c
        let hash := hash + (hash <<< 10)
        hash ^^^ (hash >>> 6))
      0
  let hash := hash + (hash <<< 3)
  let hash := hash ^^^ (hash >>> 11)
  hash + (hash <<< 15)

/-- `dictionary`; a slot without a key is empty, and `n` counts the others. -/
structure Dictionary where
  slots : List (Option Entry)
  hashed : ∀ entry ∈ slots.reduceOption, entry.hash = dictionaryHash entry.key
  distinct : (slots.reduceOption.map Entry.key).Nodup

/-- The entries of a dictionary. -/
def Dictionary.entries (d : Dictionary) : List Entry :=
  d.slots.reduceOption

/-- A string that a function of the dictionary returns. -/
inductive StringPointer where
  /-- `INI_INVALID_KEY` -/
  | invalidKey
  | null
  | string (text : List UInt8)
  deriving DecidableEq

/-- The value of an entry as a pointer. -/
def Entry.pointer (entry : Entry) : StringPointer :=
  entry.val.elim .null .string

/-- The loop of `dictionary_get`. -/
def getLoop (hash : UInt32) (key : List UInt8) (absent : StringPointer) :
    List (Option Entry) → StringPointer
  | [] =>
      absent
  | none :: rest =>
      getLoop hash key absent rest
  | some entry :: rest =>
      if hash = entry.hash then
        if key = entry.key then
          entry.pointer
        else
          getLoop hash key absent rest
      else
        getLoop hash key absent rest

/-- `dictionary_get` -/
def dictionaryGet
    (d : Dictionary)
    (key : List UInt8)
    (absent : StringPointer) :
    StringPointer :=
  getLoop (dictionaryHash key) key absent d.slots

/-- The value that a dictionary has for a key, if the key is present. -/
def Dictionary.lookup
    (d : Dictionary)
    (key : List UInt8) :
    Option (Option (List UInt8)) :=
  (d.entries.find? fun entry => entry.key = key).map Entry.val

/-- The loop returns the value of the key, if its hashes are right. -/
theorem getLoop_eq
    {key : List UInt8}
    {absent : StringPointer}
    {slots : List (Option Entry)}
    (hashed :
      ∀ entry ∈ slots.reduceOption, entry.hash = dictionaryHash entry.key) :
    getLoop (dictionaryHash key) key absent slots =
      (slots.reduceOption.find? fun entry => entry.key = key).elim absent
        Entry.pointer := by
  induction slots with
  | nil =>
      rfl
  | cons slot rest inductionHypothesis =>
      cases slot with
      | none =>
          rw [List.reduceOption_cons_of_none] at hashed ⊢
          exact inductionHypothesis hashed
      | some entry =>
          rw [List.reduceOption_cons_of_some] at hashed ⊢
          have later :=
            inductionHypothesis fun other member =>
              hashed other (List.mem_cons_of_mem _ member)
          have here := hashed entry (List.mem_cons_self ..)
          unfold getLoop
          by_cases same : entry.key = key
          · rw [if_pos (by rw [here, same]), if_pos same.symm]
            simp only [List.find?_cons, same, decide_true, Option.elim_some]
          · rw [if_neg (Ne.symm same), ite_self, later]
            simp only [List.find?_cons, same, decide_false]

/-- `dictionary_get` returns the value of the key. -/
theorem dictionaryGet_eq
    (d : Dictionary)
    (key : List UInt8)
    (absent : StringPointer) :
    dictionaryGet d key absent =
      (d.lookup key).elim absent fun val => val.elim .null .string := by
  rw [dictionaryGet, getLoop_eq d.hashed, Dictionary.lookup,
    Dictionary.entries]
  cases d.slots.reduceOption.find? fun entry => entry.key = key with
  | none =>
      rfl
  | some entry =>
      rfl

/-- Whether the loop of `dictionary_set` finds the key. -/
def holdsKey (hash : UInt32) (key : List UInt8) :
    List (Option Entry) → Bool
  | [] =>
      false
  | none :: rest =>
      holdsKey hash key rest
  | some entry :: rest =>
      (hash = entry.hash && key = entry.key) || holdsKey hash key rest

/-- Replace the value of the first slot with the key. -/
def replaceLoop (hash : UInt32) (key : List UInt8) (val : Option (List UInt8)) :
    List (Option Entry) → List (Option Entry)
  | [] =>
      []
  | none :: rest =>
      none :: replaceLoop hash key val rest
  | some entry :: rest =>
      if hash = entry.hash ∧ key = entry.key then
        some { entry with val := val } :: rest
      else
        some entry :: replaceLoop hash key val rest

/-- Put an entry into the first empty slot. -/
def insertLoop (entry : Entry) : List (Option Entry) → List (Option Entry)
  | [] =>
      [some entry]
  | none :: rest =>
      some entry :: rest
  | some other :: rest =>
      some other :: insertLoop entry rest

/-- The slots in which a new key finds room; they double when all are taken. -/
def grownSlots (slots : List (Option Entry)) : List (Option Entry) :=
  if slots.reduceOption.length = slots.length then
    slots ++ List.replicate slots.length none
  else
    slots

/-- The slots that `dictionary_set` leaves. -/
def setSlots
    (key : List UInt8)
    (val : Option (List UInt8))
    (slots : List (Option Entry)) :
    List (Option Entry) :=
  if holdsKey (dictionaryHash key) key slots then
    replaceLoop (dictionaryHash key) key val slots
  else
    insertLoop { key := key, val := val, hash := dictionaryHash key }
      (grownSlots slots)

/-- Replacing a value keeps the keys and their hashes. -/
theorem replaceLoop_keys
    (hash : UInt32)
    (key : List UInt8)
    (val : Option (List UInt8))
    (slots : List (Option Entry)) :
    (replaceLoop hash key val slots).reduceOption.map
        (fun entry => (entry.key, entry.hash)) =
      slots.reduceOption.map fun entry => (entry.key, entry.hash) := by
  induction slots with
  | nil =>
      rfl
  | cons slot rest inductionHypothesis =>
      cases slot with
      | none =>
          simpa only [replaceLoop, List.reduceOption_cons_of_none] using
            inductionHypothesis
      | some entry =>
          unfold replaceLoop
          split
          · rfl
          · simp only [List.reduceOption_cons_of_some, List.map_cons,
              inductionHypothesis]

/-- An entry is put beside the others. -/
theorem insertLoop_perm (entry : Entry) (slots : List (Option Entry)) :
    (insertLoop entry slots).reduceOption.Perm
      (entry :: slots.reduceOption) := by
  induction slots with
  | nil =>
      exact .refl _
  | cons slot rest inductionHypothesis =>
      cases slot with
      | none =>
          exact .refl _
      | some other =>
          exact (inductionHypothesis.cons other).trans (.swap ..)

/-- Empty slots have no entries. -/
theorem reduceOption_grownSlots (slots : List (Option Entry)) :
    (grownSlots slots).reduceOption = slots.reduceOption := by
  unfold grownSlots
  split
  · rw [List.reduceOption_append, List.reduceOption_replicate_none,
      List.append_nil]
  · rfl

/-- The key is found exactly when an entry has it, if the hashes are right. -/
theorem holdsKey_iff
    {key : List UInt8}
    {slots : List (Option Entry)}
    (hashed :
      ∀ entry ∈ slots.reduceOption, entry.hash = dictionaryHash entry.key) :
    holdsKey (dictionaryHash key) key slots = true ↔
      key ∈ slots.reduceOption.map Entry.key := by
  induction slots with
  | nil =>
      exact ⟨Bool.noConfusion, fun member => (List.not_mem_nil member).elim⟩
  | cons slot rest inductionHypothesis =>
      cases slot with
      | none =>
          rw [List.reduceOption_cons_of_none] at hashed ⊢
          exact inductionHypothesis hashed
      | some entry =>
          rw [List.reduceOption_cons_of_some] at hashed ⊢
          have later :=
            inductionHypothesis fun other member =>
              hashed other (List.mem_cons_of_mem _ member)
          have here := hashed entry (List.mem_cons_self ..)
          rw [holdsKey, Bool.or_eq_true, later, List.map_cons, List.mem_cons,
            Bool.and_eq_true, decide_eq_true_eq, decide_eq_true_eq, here]
          constructor
          · rintro (⟨-, same⟩ | inRest)
            · exact .inl same
            · exact .inr inRest
          · rintro (same | inRest)
            · exact .inl ⟨congrArg dictionaryHash same, same⟩
            · exact .inr inRest

/-- A new key has an entry beside the others. -/
theorem setSlots_new
    {key : List UInt8}
    {slots : List (Option Entry)}
    (notFound : ¬ holdsKey (dictionaryHash key) key slots = true)
    (val : Option (List UInt8)) :
    (setSlots key val slots).reduceOption.Perm
      ({ key := key, val := val, hash := dictionaryHash key } ::
        slots.reduceOption) := by
  rw [setSlots, if_neg notFound, ← reduceOption_grownSlots slots]
  exact insertLoop_perm ..

/-- `dictionary_set` stores the hash of the key. -/
theorem setSlots_hashed
    {slots : List (Option Entry)}
    (hashed :
      ∀ entry ∈ slots.reduceOption, entry.hash = dictionaryHash entry.key)
    (key : List UInt8)
    (val : Option (List UInt8)) :
    ∀ entry ∈ (setSlots key val slots).reduceOption,
      entry.hash = dictionaryHash entry.key := by
  intro entry member
  by_cases found : holdsKey (dictionaryHash key) key slots = true
  · rw [setSlots, if_pos found] at member
    have inKeys :
        (entry.key, entry.hash) ∈
          slots.reduceOption.map fun entry => (entry.key, entry.hash) := by
      rw [← replaceLoop_keys (dictionaryHash key) key val slots]
      exact List.mem_map_of_mem member
    obtain ⟨old, inSlots, same⟩ := List.mem_map.mp inKeys
    rw [Prod.mk.injEq] at same
    rw [← same.1, ← same.2]
    exact hashed old inSlots
  · rcases List.mem_cons.mp ((setSlots_new found val).mem_iff.mp member) with
      rfl | old
    · rfl
    · exact hashed entry old

/-- `dictionary_set` adds a key only if it is not there. -/
theorem setSlots_distinct
    {slots : List (Option Entry)}
    (hashed :
      ∀ entry ∈ slots.reduceOption, entry.hash = dictionaryHash entry.key)
    (distinct : (slots.reduceOption.map Entry.key).Nodup)
    (key : List UInt8)
    (val : Option (List UInt8)) :
    ((setSlots key val slots).reduceOption.map Entry.key).Nodup := by
  by_cases found : holdsKey (dictionaryHash key) key slots = true
  · have same :=
      congrArg (List.map Prod.fst)
        (replaceLoop_keys (dictionaryHash key) key val slots)
    rw [List.map_map, List.map_map] at same
    rw [setSlots, if_pos found]
    exact same ▸ distinct
  · refine ((setSlots_new found val).map Entry.key).nodup_iff.mpr ?_
    refine List.nodup_cons.mpr ⟨?_, distinct⟩
    rw [← holdsKey_iff hashed]
    exact found

/-- `dictionary_new`, for any size up to `DICTMINSZ`. -/
def dictionaryNew : Dictionary where
  slots := List.replicate 128 none
  hashed entry member := by
    rw [List.reduceOption_replicate_none] at member
    cases member
  distinct := by
    rw [List.reduceOption_replicate_none]
    exact List.nodup_nil

/-- `dictionary_set`, when its allocations succeed. -/
def dictionarySet
    (d : Dictionary)
    (key : List UInt8)
    (val : Option (List UInt8)) :
    Dictionary where
  slots := setSlots key val d.slots
  hashed := setSlots_hashed d.hashed key val
  distinct := setSlots_distinct d.hashed d.distinct key val

/-- The value of a key is the one of its entry. -/
theorem lookup_eq_some_iff
    {d : Dictionary}
    {key : List UInt8}
    {val : Option (List UInt8)} :
    d.lookup key = some val ↔
      ∃ entry ∈ d.entries, entry.key = key ∧ entry.val = val := by
  unfold Dictionary.lookup
  rw [Option.map_eq_some_iff]
  constructor
  · rintro ⟨entry, found, same⟩
    have isKey : entry.key = key := by
      simpa using List.find?_some found
    exact ⟨entry, List.mem_of_find?_eq_some found, isKey, same⟩
  · rintro ⟨entry, member, rfl, rfl⟩
    have isSome :
        (d.entries.find? fun other => other.key = entry.key).isSome :=
      List.find?_isSome.mpr ⟨entry, member, decide_eq_true rfl⟩
    obtain ⟨first, found⟩ := Option.isSome_iff_exists.mp isSome
    have sameKey : first.key = entry.key := by
      simpa using List.find?_some found
    have same : first = entry :=
      List.inj_on_of_nodup_map d.distinct (List.mem_of_find?_eq_some found)
        member sameKey
    exact ⟨first, found, by rw [same]⟩

/-- Replacing the value of a key changes its entry and no other. -/
theorem mem_replaceLoop
    {key : List UInt8}
    {slots : List (Option Entry)}
    (hashed :
      ∀ entry ∈ slots.reduceOption, entry.hash = dictionaryHash entry.key)
    (distinct : (slots.reduceOption.map Entry.key).Nodup)
    (present : key ∈ slots.reduceOption.map Entry.key)
    (val : Option (List UInt8))
    (entry : Entry) :
    entry ∈ (replaceLoop (dictionaryHash key) key val slots).reduceOption ↔
      entry = { key := key, val := val, hash := dictionaryHash key } ∨
        entry.key ≠ key ∧ entry ∈ slots.reduceOption := by
  induction slots with
  | nil =>
      cases present
  | cons slot rest inductionHypothesis =>
      cases slot with
      | none =>
          rw [List.reduceOption_cons_of_none] at hashed distinct present ⊢
          exact inductionHypothesis hashed distinct present
      | some first =>
          rw [List.reduceOption_cons_of_some] at hashed distinct present ⊢
          have here := hashed first (List.mem_cons_self ..)
          rw [List.map_cons] at distinct present
          obtain ⟨once, distinctLater⟩ := List.nodup_cons.mp distinct
          by_cases same : key = first.key
          · subst same
            have notLater (later : entry ∈ rest.reduceOption) :
                entry.key ≠ first.key :=
              ne_of_mem_of_not_mem (List.mem_map_of_mem later) once
            have written : { first with val := val } =
                ({ key := first.key
                   val := val
                   hash := dictionaryHash first.key } : Entry) := by
              rw [← here]
            rw [replaceLoop, if_pos ⟨here.symm, rfl⟩,
              List.reduceOption_cons_of_some, List.mem_cons, List.mem_cons,
              written]
            constructor
            · rintro (isWritten | later)
              · exact .inl isWritten
              · exact .inr ⟨notLater later, .inr later⟩
            · rintro (isWritten | ⟨otherKey, isFirst | later⟩)
              · exact .inl isWritten
              · exact absurd (congrArg Entry.key isFirst) otherKey
              · exact .inr later
          · have presentLater :=
              (List.mem_cons.mp present).resolve_left same
            have hashedLater (other : Entry)
                (member : other ∈ rest.reduceOption) :
                other.hash = dictionaryHash other.key :=
              hashed other (List.mem_cons_of_mem _ member)
            have later :=
              inductionHypothesis hashedLater distinctLater presentLater
            rw [replaceLoop, if_neg fun found => same found.2,
              List.reduceOption_cons_of_some, List.mem_cons, List.mem_cons,
              later]
            constructor
            · rintro (isFirst | isWritten | ⟨otherKey, inRest⟩)
              · refine .inr ⟨?_, .inl isFirst⟩
                rw [isFirst]
                exact Ne.symm same
              · exact .inl isWritten
              · exact .inr ⟨otherKey, .inr inRest⟩
            · rintro (isWritten | ⟨otherKey, isFirst | inRest⟩)
              · exact .inr (.inl isWritten)
              · exact .inl isFirst
              · exact .inr (.inr ⟨otherKey, inRest⟩)

/-- `dictionary_set` changes the entry of its key and no other. -/
theorem mem_entries_dictionarySet
    (d : Dictionary)
    (key : List UInt8)
    (val : Option (List UInt8))
    (entry : Entry) :
    entry ∈ (dictionarySet d key val).entries ↔
      entry = { key := key, val := val, hash := dictionaryHash key } ∨
        entry.key ≠ key ∧ entry ∈ d.entries := by
  have isKey :
      holdsKey (dictionaryHash key) key d.slots = true ↔
        key ∈ d.slots.reduceOption.map Entry.key :=
    holdsKey_iff d.hashed
  show entry ∈ (setSlots key val d.slots).reduceOption ↔ _
  by_cases found : holdsKey (dictionaryHash key) key d.slots = true
  · rw [setSlots, if_pos found]
    exact mem_replaceLoop d.hashed d.distinct (isKey.mp found) val entry
  · rw [(setSlots_new found val).mem_iff, List.mem_cons]
    constructor
    · rintro (isNew | old)
      · exact .inl isNew
      · refine .inr ⟨?_, old⟩
        rintro rfl
        exact found (isKey.mpr (List.mem_map_of_mem old))
    · rintro (isNew | ⟨-, old⟩)
      · exact .inl isNew
      · exact .inr old

/-- A dictionary is a finite map that `dictionary_set` writes. -/
theorem lookup_dictionarySet
    (d : Dictionary)
    (key : List UInt8)
    (val : Option (List UInt8))
    (other : List UInt8) :
    (dictionarySet d key val).lookup other =
      if other = key then some val else d.lookup other := by
  refine Option.ext fun found => ?_
  rw [lookup_eq_some_iff]
  simp only [mem_entries_dictionarySet]
  by_cases same : other = key
  · subst same
    rw [if_pos rfl, Option.some.injEq]
    constructor
    · rintro ⟨entry, rfl | ⟨otherKey, -⟩, isKey, rfl⟩
      · rfl
      · exact absurd isKey otherKey
    · rintro rfl
      exact ⟨_, .inl rfl, rfl, rfl⟩
  · rw [if_neg same, lookup_eq_some_iff]
    constructor
    · rintro ⟨entry, rfl | ⟨-, member⟩, isKey, isVal⟩
      · exact absurd isKey.symm same
      · exact ⟨entry, member, isKey, isVal⟩
    · rintro ⟨entry, member, rfl, isVal⟩
      exact ⟨entry, .inr ⟨same, member⟩, rfl, isVal⟩

/-- A new dictionary has no keys. -/
theorem lookup_dictionaryNew (key : List UInt8) :
    dictionaryNew.lookup key = none := by
  show (((List.replicate 128 none).reduceOption).find? _).map Entry.val = none
  rw [List.reduceOption_replicate_none]
  rfl

end LdapProxy

import LdapProxy.IniDictionary

namespace LdapProxy

/-!
# Runs of a dictionary

A dictionary in memory has its number of keys in a field of its own, by which
`dictionary_set` decides whether to search and whether to grow.  For every run
of `dictionary_set` and `dictionary_unset` this number is right, a new key
finds an empty slot, and the dictionary is the finite map that was written.
-/

/-- `dictionary` with its field `n`; `size` is the number of slots. -/
structure DictionaryMemory where
  n : Int
  slots : List (Option Entry)

/-- `dictionary_new(0)` -/
def DictionaryMemory.new : DictionaryMemory where
  n := 0
  slots := List.replicate 128 none

/-- The search for an empty slot; `none` is a write behind the last one. -/
def insertSlot (entry : Entry) :
    List (Option Entry) → Option (List (Option Entry))
  | [] =>
      none
  | none :: rest =>
      some (some entry :: rest)
  | some other :: rest =>
      (insertSlot entry rest).map (some other :: ·)

/-- `dictionary_set`, when its allocations succeed. -/
def DictionaryMemory.set
    (m : DictionaryMemory)
    (key : List UInt8)
    (val : Option (List UInt8)) :
    Option DictionaryMemory :=
  let hash := dictionaryHash key
  if 0 < m.n ∧ holdsKey hash key m.slots = true then
    some { m with slots := replaceLoop hash key val m.slots }
  else
    let slots :=
      if m.n = m.slots.length then
        m.slots ++ List.replicate m.slots.length none
      else
        m.slots
    (insertSlot { key := key, val := val, hash := hash } slots).map
      fun slots => { n := m.n + 1, slots := slots }

/-- Empty the first slot with the key. -/
def unsetLoop (hash : UInt32) (key : List UInt8) :
    List (Option Entry) → List (Option Entry)
  | [] =>
      []
  | none :: rest =>
      none :: unsetLoop hash key rest
  | some entry :: rest =>
      if hash = entry.hash ∧ key = entry.key then
        none :: rest
      else
        some entry :: unsetLoop hash key rest

/-- `dictionary_unset` -/
def DictionaryMemory.unset
    (m : DictionaryMemory)
    (key : List UInt8) :
    DictionaryMemory :=
  let hash := dictionaryHash key
  if holdsKey hash key m.slots = true then
    { n := m.n - 1, slots := unsetLoop hash key m.slots }
  else
    m

/-- `dictionary_get` -/
def DictionaryMemory.get
    (m : DictionaryMemory)
    (key : List UInt8)
    (absent : StringPointer) :
    StringPointer :=
  getLoop (dictionaryHash key) key absent m.slots

/-- A call that changes a dictionary. -/
inductive DictionaryCall where
  | set (key : List UInt8) (val : Option (List UInt8))
  | unset (key : List UInt8)

/-- One call; `none` is a write outside of the slots. -/
def DictionaryMemory.call (m : DictionaryMemory) :
    DictionaryCall → Option DictionaryMemory
  | .set key val => m.set key val
  | .unset key => some (m.unset key)

/-- Calls in order. -/
def DictionaryMemory.calls :
    List DictionaryCall → DictionaryMemory → Option DictionaryMemory
  | [], m =>
      some m
  | call :: rest, m =>
      (m.call call).bind (calls rest)

/-- The map after a call. -/
def DictionaryCall.apply
    (map : List UInt8 → Option (Option (List UInt8))) :
    DictionaryCall → List UInt8 → Option (Option (List UInt8))
  | .set key val => Function.update map key (some val)
  | .unset key => Function.update map key none

/-- The map that calls leave. -/
def mapAfter
    (calls : List DictionaryCall) :
    List UInt8 → Option (Option (List UInt8)) :=
  calls.foldl DictionaryCall.apply fun _ => none

/-- Emptying the slot of a key leaves all other entries. -/
theorem mem_unsetLoop
    {key : List UInt8}
    {slots : List (Option Entry)}
    (hashed :
      ∀ entry ∈ slots.reduceOption, entry.hash = dictionaryHash entry.key)
    (distinct : (slots.reduceOption.map Entry.key).Nodup)
    (entry : Entry) :
    entry ∈ (unsetLoop (dictionaryHash key) key slots).reduceOption ↔
      entry ∈ slots.reduceOption ∧ entry.key ≠ key := by
  induction slots with
  | nil =>
      simp [unsetLoop]
  | cons slot rest inductionHypothesis =>
      cases slot with
      | none =>
          rw [List.reduceOption_cons_of_none] at hashed distinct ⊢
          exact inductionHypothesis hashed distinct
      | some first =>
          rw [List.reduceOption_cons_of_some] at hashed distinct ⊢
          have here := hashed first (List.mem_cons_self ..)
          rw [List.map_cons] at distinct
          obtain ⟨once, distinctLater⟩ := List.nodup_cons.mp distinct
          rw [unsetLoop]
          by_cases same : key = first.key
          · subst same
            rw [if_pos ⟨here.symm, rfl⟩, List.reduceOption_cons_of_none,
              List.mem_cons]
            constructor
            · intro later
              exact ⟨.inr later,
                ne_of_mem_of_not_mem (List.mem_map_of_mem later) once⟩
            · rintro ⟨rfl | later, otherKey⟩
              · exact absurd rfl otherKey
              · exact later
          · have hashedLater (other : Entry)
                (member : other ∈ rest.reduceOption) :
                other.hash = dictionaryHash other.key :=
              hashed other (List.mem_cons_of_mem _ member)
            rw [if_neg fun found => same found.2,
              List.reduceOption_cons_of_some, List.mem_cons, List.mem_cons,
              inductionHypothesis hashedLater distinctLater]
            constructor
            · rintro (rfl | ⟨later, otherKey⟩)
              · exact ⟨.inl rfl, Ne.symm same⟩
              · exact ⟨.inr later, otherKey⟩
            · rintro ⟨rfl | later, otherKey⟩
              · exact .inl rfl
              · exact .inr ⟨later, otherKey⟩

/-- The keys are left in order, without the one that is unset. -/
theorem unsetLoop_sublist
    (hash : UInt32)
    (key : List UInt8)
    (slots : List (Option Entry)) :
    ((unsetLoop hash key slots).reduceOption).Sublist
      slots.reduceOption := by
  induction slots with
  | nil =>
      exact .slnil
  | cons slot rest inductionHypothesis =>
      cases slot with
      | none =>
          simpa only [unsetLoop, List.reduceOption_cons_of_none] using
            inductionHypothesis
      | some entry =>
          rw [unsetLoop]
          split
          · rw [List.reduceOption_cons_of_none,
              List.reduceOption_cons_of_some]
            exact List.sublist_cons_self ..
          · rw [List.reduceOption_cons_of_some,
              List.reduceOption_cons_of_some]
            exact inductionHypothesis.cons_cons entry

/-- Unsetting takes one entry when the key is there, and none otherwise. -/
theorem length_unsetLoop
    (hash : UInt32)
    (key : List UInt8)
    (slots : List (Option Entry)) :
    (unsetLoop hash key slots).length = slots.length ∧
      (unsetLoop hash key slots).reduceOption.length +
          (if holdsKey hash key slots = true then 1 else 0) =
        slots.reduceOption.length := by
  induction slots with
  | nil =>
      exact ⟨rfl, rfl⟩
  | cons slot rest inductionHypothesis =>
      obtain ⟨sameLength, sameCount⟩ := inductionHypothesis
      cases slot with
      | none =>
          simp only [unsetLoop, holdsKey, List.length_cons, sameLength,
            List.reduceOption_cons_of_none]
          exact ⟨trivial, sameCount⟩
      | some entry =>
          rw [unsetLoop]
          by_cases found : hash = entry.hash ∧ key = entry.key
          · rw [if_pos found]
            simp [holdsKey, found]
          · have notHere :
                (decide (hash = entry.hash) && decide (key = entry.key)) =
                  false := by
              simpa using found
            rw [if_neg found]
            simp only [holdsKey, notHere, Bool.false_or, List.length_cons,
              sameLength, List.reduceOption_cons_of_some, true_and]
            omega

/-- The dictionary that `dictionary_unset` leaves. -/
def dictionaryUnset (d : Dictionary) (key : List UInt8) : Dictionary where
  slots := unsetLoop (dictionaryHash key) key d.slots
  hashed entry member :=
    d.hashed entry ((unsetLoop_sublist _ key d.slots).subset member)
  distinct :=
    d.distinct.sublist ((unsetLoop_sublist _ key d.slots).map Entry.key)

/-- `dictionary_unset` takes a key out of the finite map. -/
theorem lookup_dictionaryUnset
    (d : Dictionary)
    (key other : List UInt8) :
    (dictionaryUnset d key).lookup other =
      if other = key then none else d.lookup other := by
  have member (entry : Entry) :
      entry ∈ (dictionaryUnset d key).entries ↔
        entry ∈ d.entries ∧ entry.key ≠ key :=
    mem_unsetLoop d.hashed d.distinct entry
  refine Option.ext fun found => ?_
  rw [lookup_eq_some_iff]
  simp only [member]
  by_cases same : other = key
  · subst same
    rw [if_pos rfl]
    constructor
    · rintro ⟨entry, ⟨-, otherKey⟩, isKey, -⟩
      exact absurd isKey otherKey
    · intro absent
      cases absent
  · rw [if_neg same, lookup_eq_some_iff]
    constructor
    · rintro ⟨entry, ⟨inEntries, -⟩, isKey, isVal⟩
      exact ⟨entry, inEntries, isKey, isVal⟩
    · rintro ⟨entry, inEntries, rfl, isVal⟩
      exact ⟨entry, ⟨inEntries, same⟩, rfl, isVal⟩

/-- The memory holds the dictionary, and its number of keys is right. -/
structure Counted (m : DictionaryMemory) (d : Dictionary) : Prop where
  slots : m.slots = d.slots
  counted : m.n = d.entries.length
  doubled : ∃ doublings, m.slots.length = 128 * 2 ^ doublings

/-- An empty slot is found. -/
theorem insertSlot_eq
    {slots : List (Option Entry)}
    (room : slots.reduceOption.length < slots.length)
    (entry : Entry) :
    insertSlot entry slots = some (insertLoop entry slots) := by
  induction slots with
  | nil =>
      cases room
  | cons slot rest inductionHypothesis =>
      cases slot with
      | none =>
          rfl
      | some other =>
          rw [List.reduceOption_cons_of_some, List.length_cons,
            List.length_cons] at room
          rw [insertSlot,
            inductionHypothesis (Nat.lt_of_succ_lt_succ room)]
          rfl

/-- There is room for a new key after growing. -/
theorem reduceOption_grownSlots_lt
    {slots : List (Option Entry)}
    (nonempty : 0 < slots.length) :
    (grownSlots slots).reduceOption.length < (grownSlots slots).length := by
  rw [reduceOption_grownSlots, grownSlots]
  have most := List.reduceOption_length_le slots
  split
  · rw [List.length_append, List.length_replicate]
    omega
  · omega

/-- A key is put into one of the slots. -/
theorem length_insertLoop
    {slots : List (Option Entry)}
    (room : slots.reduceOption.length < slots.length)
    (entry : Entry) :
    (insertLoop entry slots).length = slots.length := by
  induction slots with
  | nil =>
      cases room
  | cons slot rest inductionHypothesis =>
      cases slot with
      | none =>
          rfl
      | some other =>
          rw [List.reduceOption_cons_of_some, List.length_cons,
            List.length_cons] at room
          rw [insertLoop, List.length_cons,
            inductionHypothesis (Nat.lt_of_succ_lt_succ room),
            List.length_cons]

/-- Replacing a value changes no number of slots or keys. -/
theorem length_replaceLoop
    (hash : UInt32)
    (key : List UInt8)
    (val : Option (List UInt8))
    (slots : List (Option Entry)) :
    (replaceLoop hash key val slots).length = slots.length ∧
      (replaceLoop hash key val slots).reduceOption.length =
        slots.reduceOption.length := by
  constructor
  · induction slots with
    | nil =>
        rfl
    | cons slot rest inductionHypothesis =>
        cases slot with
        | none =>
            rw [replaceLoop, List.length_cons, inductionHypothesis,
              List.length_cons]
        | some entry =>
            rw [replaceLoop]
            split
            · rfl
            · rw [List.length_cons, inductionHypothesis, List.length_cons]
  · have keys :=
      congrArg List.length (replaceLoop_keys hash key val slots)
    rwa [List.length_map, List.length_map] at keys

/-- `dictionary_set` finds a slot and keeps count. -/
theorem Counted.set
    {m : DictionaryMemory}
    {d : Dictionary}
    (counted : Counted m d)
    (key : List UInt8)
    (val : Option (List UInt8)) :
    ∃ next,
      m.set key val = some next ∧
        Counted next (dictionarySet d key val) := by
  obtain ⟨n, slots⟩ := m
  obtain ⟨rfl, isCount, doublings, size⟩ := counted
  have nonempty : 0 < d.slots.length :=
    Nat.lt_of_lt_of_eq
      (Nat.mul_pos (by decide) (Nat.two_pow_pos doublings)) size.symm
  have isKey :
      holdsKey (dictionaryHash key) key d.slots = true ↔
        key ∈ d.slots.reduceOption.map Entry.key :=
    holdsKey_iff d.hashed
  simp only at isCount size
  by_cases found : holdsKey (dictionaryHash key) key d.slots = true
  · have positive : 0 < n := by
      have member := isKey.mp found
      have keys := List.length_pos_of_mem member
      rw [List.length_map] at keys
      rw [isCount]
      exact Int.natCast_pos.mpr keys
    have sizes := length_replaceLoop (dictionaryHash key) key val d.slots
    have replaced : (dictionarySet d key val).slots =
        replaceLoop (dictionaryHash key) key val d.slots :=
      if_pos found
    refine ⟨_, if_pos ⟨positive, found⟩, replaced.symm, ?_, doublings, ?_⟩
    · rw [Dictionary.entries, replaced, sizes.2]
      exact isCount
    · exact sizes.1.trans size
  · have room := reduceOption_grownSlots_lt nonempty
    have inserted : (dictionarySet d key val).slots =
        insertLoop { key := key, val := val, hash := dictionaryHash key }
          (grownSlots d.slots) :=
      if_neg found
    have grown :
        (if n = d.slots.length then
            d.slots ++ List.replicate d.slots.length none
          else
            d.slots) =
          grownSlots d.slots := by
      rw [grownSlots, isCount, Dictionary.entries]
      simp only [Nat.cast_inj]
    have stored :
        DictionaryMemory.set ⟨n, d.slots⟩ key val =
          some ⟨n + 1, (dictionarySet d key val).slots⟩ := by
      simp only [DictionaryMemory.set]
      rw [if_neg fun both => found both.2, grown, insertSlot_eq room,
        inserted]
      rfl
    have sameLength : (dictionarySet d key val).slots.length =
        (grownSlots d.slots).length := by
      rw [inserted, length_insertLoop room]
    refine ⟨_, stored, rfl, ?_, ?_⟩
    · have count := (setSlots_new found val).length_eq
      rw [List.length_cons] at count
      show n + 1 = ((setSlots key val d.slots).reduceOption.length : Int)
      rw [count, isCount]
      rfl
    · simp only [sameLength, grownSlots]
      split
      · refine ⟨doublings + 1, ?_⟩
        rw [List.length_append, List.length_replicate, size, pow_succ]
        omega
      · exact ⟨doublings, size⟩

/-- Unsetting a key that is not there changes nothing. -/
theorem unsetLoop_of_absent
    {hash : UInt32}
    {key : List UInt8}
    {slots : List (Option Entry)}
    (absent : holdsKey hash key slots = false) :
    unsetLoop hash key slots = slots := by
  induction slots with
  | nil =>
      rfl
  | cons slot rest inductionHypothesis =>
      cases slot with
      | none =>
          rw [unsetLoop, inductionHypothesis absent]
      | some entry =>
          rw [holdsKey, Bool.or_eq_false_iff] at absent
          rw [unsetLoop, inductionHypothesis absent.2, if_neg]
          simpa using absent.1

/-- `dictionary_unset` keeps count. -/
theorem Counted.unset
    {m : DictionaryMemory}
    {d : Dictionary}
    (counted : Counted m d)
    (key : List UInt8) :
    Counted (m.unset key) (dictionaryUnset d key) := by
  obtain ⟨n, slots⟩ := m
  obtain ⟨rfl, isCount, doublings, size⟩ := counted
  obtain ⟨sameLength, count⟩ :=
    length_unsetLoop (dictionaryHash key) key d.slots
  have entries : (dictionaryUnset d key).entries =
      (unsetLoop (dictionaryHash key) key d.slots).reduceOption :=
    rfl
  simp only at isCount size
  rw [DictionaryMemory.unset]
  by_cases found : holdsKey (dictionaryHash key) key d.slots = true
  · rw [if_pos found] at count
    simp only [found, if_true]
    refine ⟨rfl, ?_, doublings, sameLength.trans size⟩
    rw [entries, isCount, Dictionary.entries, ← count]
    simp
  · have unchanged := unsetLoop_of_absent (Bool.eq_false_iff.mpr found)
    simp only
    rw [if_neg found]
    exact ⟨unchanged.symm, by rw [entries, unchanged]; exact isCount,
      doublings, size⟩

/-- The dictionary that a call leaves. -/
def DictionaryCall.onDictionary (d : Dictionary) :
    DictionaryCall → Dictionary
  | .set key val => dictionarySet d key val
  | .unset key => dictionaryUnset d key

/-- A call writes the finite map. -/
theorem lookup_onDictionary
    (d : Dictionary)
    (call : DictionaryCall) :
    (call.onDictionary d).lookup = call.apply d.lookup := by
  cases call with
  | set key val =>
      refine funext fun other => ?_
      rw [DictionaryCall.apply, Function.update_apply]
      exact lookup_dictionarySet d key val other
  | unset key =>
      refine funext fun other => ?_
      rw [DictionaryCall.apply, Function.update_apply]
      exact lookup_dictionaryUnset d key other

/-- A run of calls stays a dictionary that is counted right. -/
theorem Counted.calls
    {m : DictionaryMemory}
    {d : Dictionary}
    (counted : Counted m d)
    (calls : List DictionaryCall) :
    ∃ next after,
      m.calls calls = some next ∧
        Counted next after ∧
        after.lookup = calls.foldl DictionaryCall.apply d.lookup := by
  induction calls generalizing m d with
  | nil =>
      exact ⟨m, d, rfl, counted, rfl⟩
  | cons call rest inductionHypothesis =>
      have step :
          ∃ next,
            m.call call = some next ∧
              Counted next (call.onDictionary d) := by
        cases call with
        | set key val =>
            exact counted.set key val
        | unset key =>
            exact ⟨_, rfl, counted.unset key⟩
      obtain ⟨next, called, nextCounted⟩ := step
      obtain ⟨last, after, ran, lastCounted, lookups⟩ :=
        inductionHypothesis nextCounted
      refine ⟨last, after, ?_, lastCounted, ?_⟩
      · rw [DictionaryMemory.calls, called]
        exact ran
      · rw [lookups, lookup_onDictionary, List.foldl_cons]

/--
The memory after calls: it returns the values of the finite map that the calls
leave, `n` is the number of its keys, and the slots have only been doubled.
-/
structure ServesMap
    (m : DictionaryMemory)
    (map : List UInt8 → Option (Option (List UInt8))) :
    Prop where
  get :
    ∀ key absent,
      m.get key absent =
        (map key).elim absent fun val => val.elim .null .string
  counted :
    ∃ keys : List (List UInt8),
      keys.Nodup ∧ (∀ key, key ∈ keys ↔ (map key).isSome) ∧
        m.n = keys.length
  room : m.n ≤ m.slots.length
  doubled : ∃ doublings, m.slots.length = 128 * 2 ^ doublings

/-- A counted dictionary serves its map. -/
theorem Counted.serves
    {m : DictionaryMemory}
    {d : Dictionary}
    (counted : Counted m d) :
    ServesMap m d.lookup where
  get key absent := by
    rw [DictionaryMemory.get, counted.slots]
    exact dictionaryGet_eq d key absent
  counted := by
    refine ⟨d.entries.map Entry.key, d.distinct, ?_, ?_⟩
    · intro key
      rw [Option.isSome_iff_exists, List.mem_map]
      simp only [lookup_eq_some_iff]
      constructor
      · rintro ⟨entry, member, isKey⟩
        exact ⟨entry.val, entry, member, isKey, rfl⟩
      · rintro ⟨val, entry, member, isKey, -⟩
        exact ⟨entry, member, isKey⟩
    · rw [List.length_map]
      exact counted.counted
  room := by
    rw [counted.counted, counted.slots]
    exact Int.ofNat_le.mpr (List.reduceOption_length_le d.slots)
  doubled := counted.doubled

/-- The new dictionary has no keys and 128 slots. -/
theorem counted_new : Counted .new dictionaryNew where
  slots := rfl
  counted := by
    show (0 : Int) = ((List.replicate 128 none).reduceOption).length
    rw [List.reduceOption_replicate_none]
    rfl
  doubled := ⟨0, List.length_replicate.trans (by decide)⟩

/--
Any run of `dictionary_set` and `dictionary_unset` from `dictionary_new` writes
only inside of its slots and leaves the finite map of the calls.
-/
theorem dictionary_runs (calls : List DictionaryCall) :
    ∃ m,
      DictionaryMemory.new.calls calls = some m ∧
        ServesMap m (mapAfter calls) := by
  obtain ⟨m, after, ran, counted, lookups⟩ := counted_new.calls calls
  have empty : dictionaryNew.lookup = fun _ => none :=
    funext lookup_dictionaryNew
  rw [empty] at lookups
  refine ⟨m, ran, ?_⟩
  rw [mapAfter, ← lookups]
  exact counted.serves

end LdapProxy

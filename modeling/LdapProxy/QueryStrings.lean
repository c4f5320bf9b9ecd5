import LdapProxy.QueryRecord

namespace LdapProxy

open LdapProxy.Lber

/-!
# The strings of a search request in its query

`lp_do_search` copies the base and the strings of an equality filter with
`strncpy(dst, src, strlen(src))`, so nothing bounds a copy by its array.  The
query is intact exactly when every string leaves room for a NUL, or when the
request is rejected before anything is pushed.
-/

/-- The C strings of an equality filter, when its contents are two strings. -/
def equalityStrings (filter : BerElement) :
    Option (List UInt8 × List UInt8) :=
  match berScanf ['{', 'a', 'a'] filter with
  | (some [.str attr, .str assertionValue], _) =>
      some (cString attr, cString assertionValue)
  | _ =>
      none

/-- The query that `lp_do_search` pushes, when it pushes one. -/
def searchQuery
    (base : List UInt8)
    (msgid : Int)
    (filter : BerElement) :
    Option MysqlMsg :=
  if berPeekTag filter = lberDefault then
    none
  else if berPeekTag filter = ldapFilterEquality then
    (equalityStrings filter).map fun strings =>
      ((queryOf (cString base) msgid).setFilterType
        ldapFilterEquality).setEquality strings.1 strings.2
  else
    some (queryOf (cString base) msgid)

/-- The shared data after `lp_do_search` has created a task. -/
def afterTask (env : Environment) (p : Process) : Process :=
  (lpGetMysql env (lpTaskNew env p).2).2

/-- The format of the fixed part of a search request. -/
def searchFormat : List Char :=
  ['{', 'a', 'e', 'e', 'i', 'i', 'b']

/-- A search request that `ber_scanf` accepts is pushed or rejected. -/
theorem lpDoSearch_scanned
    {ber filter : BerElement}
    {base : List UInt8}
    {more : List ScanValue}
    (search : berPeekTag ber = ldapReqSearch)
    (scanned :
      berScanf searchFormat ber = (some (.str base :: more), filter))
    (env : Environment)
    (allocs : PushAllocs)
    (slot : Nat)
    (c : Connection)
    (p : Process)
    (msgid : Int) :
    lpDoSearch env allocs ber slot c p msgid =
      match searchQuery base msgid filter with
      | none =>
          .ok (lpErr, c,
            if berPeekTag filter = lberDefault then p
            else afterTask env p)
      | some query =>
          .ok (pushQuery allocs (lpTaskNew env p).1 query p.mysqlIndex slot
            c (afterTask env p)) := by
  have known : ¬ ldapReqSearch = lberDefault := by decide
  unfold searchFormat at scanned
  unfold lpDoSearch searchQuery
  simp only [search, known, if_false, ne_eq, not_true, scanned]
  by_cases noFilter : berPeekTag filter = lberDefault
  · simp only [noFilter, if_true]
  · simp only [noFilter, if_false]
    by_cases equality : berPeekTag filter = ldapFilterEquality
    · simp only [equality, if_true]
      unfold equalityStrings
      -- the filter is taken only when its contents scan as two strings
      rcases berScanf ['{', 'a', 'a'] filter with
        ⟨_ | _ | ⟨first, _ | ⟨second, _ | _⟩⟩, next⟩
      case some.cons.cons.nil =>
        cases first <;> cases second <;> rfl
      case some.cons.nil =>
        cases first <;> rfl
      case some.cons.cons.cons =>
        cases first <;> cases second <;> rfl
      all_goals rfl
    · simp only [equality, if_false]
      rfl

/-- A pushed query is appended to the queue of its MySQL worker. -/
theorem pushQuery_succeed
    (task : NewTask)
    (query : MysqlMsg)
    (mysql slot : Nat)
    (c : Connection)
    (p : Process) :
    ∃ c' p',
      pushQuery .succeed task query mysql slot c p = (lpOk, c', p') ∧
        (p'.mysqls mysql).queue =
          (p.mysqls mysql).queue ++
            [queryTask task query mysql slot c] := by
  refine ⟨_, _, rfl, ?_⟩
  simp only [Function.update_self]

/--
Every copy stayed inside its array and left it terminated, and the fields read
back as the request's strings and what the code assigned.
-/
structure IntactQuery
    (query : MysqlMsg)
    (msgid : Int)
    (base : List UInt8)
    (strings : Option (List UInt8 × List UInt8)) : Prop where
  inBounds : ∀ copy ∈ query.copies, copy.InBounds
  baseTerminated : query.Terminated baseField
  base : query.string baseField = base
  code : query.getInt codeField = 0
  msgid : query.getInt msgidField = msgid
  filter :
    match strings with
    | none =>
        query.filterType = 0
    | some (attr, assertionValue) =>
        query.filterType = ldapFilterEquality ∧
          query.Terminated attributeField ∧
          query.Terminated assertionValueField ∧
          query.string attributeField = attr ∧
          query.string assertionValueField = assertionValue

/-- The strings of the filter, when it is taken as an equality match. -/
def filterStrings (filter : BerElement) :
    Option (List UInt8 × List UInt8) :=
  if berPeekTag filter = ldapFilterEquality then
    equalityStrings filter
  else
    none

/--
The request is rejected and nothing is pushed, or the task pushed carries an
intact query.
-/
def QueryIntact
    (env : Environment)
    (ber filter : BerElement)
    (base : List UInt8)
    (slot : Nat)
    (c : Connection)
    (p : Process)
    (msgid : Int) :
    Prop :=
  (∃ c' p',
    lpDoSearch env .succeed ber slot c p msgid = .ok (lpErr, c', p') ∧
      p'.mysqls = p.mysqls) ∨
    ∃ c' p' task,
      lpDoSearch env .succeed ber slot c p msgid = .ok (lpOk, c', p') ∧
        (p'.mysqls p.mysqlIndex).queue =
          (p.mysqls p.mysqlIndex).queue ++ [task] ∧
        IntactQuery task.data msgid (cString base) (filterStrings filter)

/-- The filter is missing, or it is an equality match without two strings. -/
def FilterRejected (filter : BerElement) : Prop :=
  berPeekTag filter = lberDefault ∨
    berPeekTag filter = ldapFilterEquality ∧ equalityStrings filter = none

/-- Every string of the request leaves room for a NUL in its array. -/
def StringsFit (base : List UInt8) (filter : BerElement) : Prop :=
  (cString base).length ≤ lpAttrLen ∧
    ∀ attr assertionValue,
      filterStrings filter = some (attr, assertionValue) →
      attr.length ≤ lpAttrLen ∧ assertionValue.length ≤ lpAttrLen

/-- A C string of at most `LP_ATTR_LEN` octets. -/
theorem short_cString
    {octets : List UInt8}
    (short : (cString octets).length ≤ lpAttrLen) :
    MysqlMsg.Short (cString octets) :=
  ⟨zero_notMem_cString octets, short⟩

/-- The strings of a filter are C strings. -/
theorem equalityStrings_noZero
    {filter : BerElement}
    {attr assertionValue : List UInt8}
    (strings : equalityStrings filter = some (attr, assertionValue)) :
    (0 : UInt8) ∉ attr ∧ (0 : UInt8) ∉ assertionValue := by
  unfold equalityStrings at strings
  split at strings
  · simp only [Option.some.injEq, Prod.mk.injEq] at strings
    obtain ⟨rfl, rfl⟩ := strings
    exact ⟨zero_notMem_cString _, zero_notMem_cString _⟩
  · cases strings

/-- A query with only a base that fits is intact. -/
theorem intactQuery_queryOf
    {base : List UInt8}
    {msgid : Int}
    (low : -2 ^ 31 ≤ msgid)
    (high : msgid < 2 ^ 31)
    (short : (cString base).length ≤ lpAttrLen) :
    IntactQuery (queryOf (cString base) msgid) msgid (cString base) none := by
  have baseFits : (cString base).length ≤ baseField.size :=
    short.trans (Nat.le_succ _)
  have shows := shows_queryOf baseFits low high
  refine ⟨?_, ?_, ?_, shows.code, shows.msgid, shows.filterType⟩
  · intro copy member
    simp only [queryOf, MysqlMsg.setInt, MysqlMsg.copyString,
      MysqlMsg.cleared, List.mem_cons, List.not_mem_nil,
      or_false] at member
    subst member
    exact baseFits
  · exact MysqlMsg.terminated_of_fieldHolds shows.base
      (Nat.lt_succ_of_le short)
  · exact shows.string_base (short_cString short)

/-- A query of an equality match whose strings fit is intact. -/
theorem intactQuery_setEquality
    {base attr assertionValue : List UInt8}
    {msgid : Int}
    (low : -2 ^ 31 ≤ msgid)
    (high : msgid < 2 ^ 31)
    (short : (cString base).length ≤ lpAttrLen)
    (attrShort : MysqlMsg.Short attr)
    (valueShort : MysqlMsg.Short assertionValue) :
    IntactQuery
      (((queryOf (cString base) msgid).setFilterType
        ldapFilterEquality).setEquality attr assertionValue)
      msgid (cString base) (some (attr, assertionValue)) := by
  have room : lpAttrLen < lpAttrLen + 1 := Nat.lt_succ_self _
  have baseFits : (cString base).length ≤ baseField.size :=
    short.trans room.le
  have shows := shows_setEquality baseFits
    (attrShort.2.trans room.le) (valueShort.2.trans room.le) low high
  refine ⟨?_, ?_, ?_, shows.code, shows.msgid, ?_⟩
  · intro copy member
    simp only [MysqlMsg.setEquality, MysqlMsg.copyString,
      MysqlMsg.setFilterType, queryOf, MysqlMsg.setInt,
      MysqlMsg.cleared, List.mem_cons, List.not_mem_nil,
      or_false] at member
    rcases member with rfl | rfl | rfl
    · exact valueShort.2.trans room.le
    · exact attrShort.2.trans room.le
    · exact baseFits
  · exact MysqlMsg.terminated_of_fieldHolds shows.base
      (Nat.lt_succ_of_le short)
  · exact shows.string_base (short_cString short)
  · exact ⟨shows.filterType,
      MysqlMsg.terminated_of_fieldHolds shows.attr
        (Nat.lt_succ_of_le attrShort.2),
      MysqlMsg.terminated_of_fieldHolds shows.assertionValue
        (Nat.lt_succ_of_le valueShort.2),
      shows.string_attr attrShort,
      shows.string_assertionValue valueShort⟩

/-- A query whose strings fit is intact. -/
theorem intactQuery_of_fit
    {base : List UInt8}
    {filter : BerElement}
    {query : MysqlMsg}
    {msgid : Int}
    (low : -2 ^ 31 ≤ msgid)
    (high : msgid < 2 ^ 31)
    (built : searchQuery base msgid filter = some query)
    (fit : StringsFit base filter) :
    IntactQuery query msgid (cString base) (filterStrings filter) := by
  unfold searchQuery at built
  split at built
  · cases built
  · split at built
    · next equality =>
        have sameStrings : filterStrings filter = equalityStrings filter := by
          simp [filterStrings, equality]
        have fits := fit.2
        rw [sameStrings] at fits ⊢
        cases strings : equalityStrings filter with
        | none =>
            simp [strings] at built
        | some pair =>
            obtain ⟨attr, assertionValue⟩ := pair
            simp only [strings, Option.map_some,
              Option.some.injEq] at built
            subst built
            obtain ⟨attrShort, valueShort⟩ :=
              fits attr assertionValue strings
            obtain ⟨attrNoZero, valueNoZero⟩ :=
              equalityStrings_noZero strings
            exact
              intactQuery_setEquality low high fit.1
                ⟨attrNoZero, attrShort⟩ ⟨valueNoZero, valueShort⟩
    · next other =>
        simp only [Option.some.injEq] at built
        subst built
        have noStrings : filterStrings filter = none := by
          simp [filterStrings, other]
        rw [noStrings]
        exact intactQuery_queryOf low high fit.1

/-- A base that is too long leaves its array without NUL. -/
theorem not_terminated_base
    {base : List UInt8}
    {filter : BerElement}
    {query : MysqlMsg}
    {msgid : Int}
    (built : searchQuery base msgid filter = some query)
    (long : lpAttrLen < (cString base).length) :
    ¬ query.Terminated baseField := by
  have filled :
      (queryOf (cString base) msgid).image.read baseField.offset
          baseField.size =
        (cString base).take baseField.size := by
    have fills : baseField.size ≤ (cString base).length := long
    rw [← MysqlMsg.copyString_fills MysqlMsg.cleared fills]
    exact Memory.read_write_disjoint _ (.inr (by simp; decide))
  refine MysqlMsg.not_terminated_of_long ?_ (zero_notMem_cString base)
  unfold searchQuery at built
  split at built
  · cases built
  · split at built
    · cases strings : equalityStrings filter with
      | none =>
          simp [strings] at built
      | some pair =>
          simp only [strings, Option.map_some, Option.some.injEq] at built
          subst built
          -- later stores lie behind the array, however long the copies are
          rw [← filled]
          simp only [MysqlMsg.setEquality, MysqlMsg.copyString,
            MysqlMsg.setFilterType]
          rw [Memory.read_write_disjoint _ (.inl (by decide)),
            Memory.read_write_disjoint _ (.inl (by decide)),
            Memory.read_write_disjoint _ (.inl (by decide))]
    · simp only [Option.some.injEq] at built
      subst built
      exact filled

/-- A filter string that is too long leaves its array without NUL. -/
theorem not_terminated_filter
    {base : List UInt8}
    {filter : BerElement}
    {query : MysqlMsg}
    {msgid : Int}
    (built : searchQuery base msgid filter = some query)
    {attr assertionValue : List UInt8}
    (strings : filterStrings filter = some (attr, assertionValue)) :
    (lpAttrLen < attr.length → ¬ query.Terminated attributeField) ∧
      (lpAttrLen < assertionValue.length →
        ¬ query.Terminated assertionValueField) := by
  have equality : berPeekTag filter = ldapFilterEquality := by
    by_contra other
    simp [filterStrings, other] at strings
  simp only [filterStrings, equality, if_true] at strings
  obtain ⟨attrNoZero, valueNoZero⟩ := equalityStrings_noZero strings
  have known : ¬ ldapFilterEquality = lberDefault := by decide
  simp only [searchQuery, equality, known, if_false, if_true, strings,
    Option.map_some, Option.some.injEq] at built
  subst built
  refine ⟨?_, ?_⟩
  · intro long
    have fills : attributeField.size ≤ attr.length := long
    refine MysqlMsg.not_terminated_of_long ?_ attrNoZero
    rw [← MysqlMsg.copyString_fills
      ((queryOf (cString base) msgid).setFilterType ldapFilterEquality)
      fills]
    exact Memory.read_write_disjoint _ (.inl (by decide))
  · intro long
    refine MysqlMsg.not_terminated_of_long ?_ valueNoZero
    exact MysqlMsg.copyString_fills _ long

/-- An intact query has strings that fit. -/
theorem fit_of_intactQuery
    {base : List UInt8}
    {filter : BerElement}
    {query : MysqlMsg}
    {msgid : Int}
    (built : searchQuery base msgid filter = some query)
    (intact :
      IntactQuery query msgid (cString base) (filterStrings filter)) :
    StringsFit base filter := by
  refine ⟨?_, ?_⟩
  · by_contra long
    exact not_terminated_base built (by omega) intact.baseTerminated
  · intro attr assertionValue strings
    have parts := intact.filter
    rw [strings] at parts
    obtain ⟨-, attrTerminated, valueTerminated, -, -⟩ := parts
    obtain ⟨attrLong, valueLong⟩ := not_terminated_filter built strings
    refine ⟨?_, ?_⟩
    · by_contra long
      exact attrLong (by omega) attrTerminated
    · by_contra long
      exact valueLong (by omega) valueTerminated

/-- A request is rejected exactly when its filter is. -/
theorem searchQuery_eq_none
    (base : List UInt8)
    (msgid : Int)
    (filter : BerElement) :
    searchQuery base msgid filter = none ↔ FilterRejected filter := by
  unfold searchQuery FilterRejected
  by_cases noFilter : berPeekTag filter = lberDefault
  · simp [noFilter]
  · by_cases equality : berPeekTag filter = ldapFilterEquality
    · have known : ¬ ldapFilterEquality = lberDefault := by decide
      simp [equality, known]
    · simp [noFilter, equality]

/-- A request whose query is intact was rejected or has strings that fit. -/
theorem fit_of_queryIntact
    {ber filter : BerElement}
    {base : List UInt8}
    {more : List ScanValue}
    (search : berPeekTag ber = ldapReqSearch)
    (scanned :
      berScanf searchFormat ber = (some (.str base :: more), filter))
    {msgid : Int}
    {env : Environment}
    {slot : Nat}
    {c : Connection}
    {p : Process}
    (intact : QueryIntact env ber filter base slot c p msgid) :
    FilterRejected filter ∨ StringsFit base filter := by
  have outcome :=
    lpDoSearch_scanned search scanned env .succeed slot c p msgid
  cases built : searchQuery base msgid filter with
  | none =>
      exact .inl ((searchQuery_eq_none base msgid filter).mp built)
  | some query =>
      obtain ⟨c', p', pushed, queue⟩ :=
        pushQuery_succeed (lpTaskNew env p).1 query p.mysqlIndex slot c
          (afterTask env p)
      rw [built] at outcome
      simp only [pushed] at outcome
      rcases intact with
        ⟨_, _, rejected, -⟩ | ⟨_, _, task, same, appended, intact⟩
      · rw [outcome] at rejected
        simp [lpOk, lpErr] at rejected
      · rw [outcome] at same
        simp only [Except.ok.injEq, Prod.mk.injEq, true_and] at same
        obtain ⟨rfl, rfl⟩ := same
        have sameQueue : (p.mysqls p.mysqlIndex).queue ++
            [queryTask (lpTaskNew env p).1 query p.mysqlIndex slot c] =
              (p.mysqls p.mysqlIndex).queue ++ [task] :=
          queue.symm.trans appended
        simp only [List.append_cancel_left_eq, List.cons.injEq,
          and_true] at sameQueue
        subst sameQueue
        exact .inr (fit_of_intactQuery built intact)

/-- A request that is rejected or has strings that fit has an intact query. -/
theorem queryIntact_of_fit
    {ber filter : BerElement}
    {base : List UInt8}
    {more : List ScanValue}
    (search : berPeekTag ber = ldapReqSearch)
    (scanned :
      berScanf searchFormat ber = (some (.str base :: more), filter))
    {msgid : Int}
    (low : -2 ^ 31 ≤ msgid)
    (high : msgid < 2 ^ 31)
    (env : Environment)
    (slot : Nat)
    (c : Connection)
    (p : Process)
    (fit : FilterRejected filter ∨ StringsFit base filter) :
    QueryIntact env ber filter base slot c p msgid := by
  have outcome :=
    lpDoSearch_scanned search scanned env .succeed slot c p msgid
  cases built : searchQuery base msgid filter with
  | none =>
      rw [built] at outcome
      simp only at outcome
      refine .inl ⟨c, _, outcome, ?_⟩
      split
      · rfl
      · rfl
  | some query =>
      obtain ⟨c', p', pushed, queue⟩ :=
        pushQuery_succeed (lpTaskNew env p).1 query p.mysqlIndex slot c
          (afterTask env p)
      rw [built] at outcome
      simp only [pushed] at outcome
      rcases fit with rejected | fit
      · rw [(searchQuery_eq_none base msgid filter).mpr rejected] at built
        cases built
      · exact .inr ⟨c', p', _, outcome, queue,
          intactQuery_of_fit low high built fit⟩

/--
For every search request that `ber_scanf` accepts, the query handed to the
MySQL worker is intact, or the request is rejected, exactly when its filter is
rejected or all its strings leave room for a NUL in their arrays.
-/
theorem queryIntact_iff_stringsFit
    {ber filter : BerElement}
    {base : List UInt8}
    {more : List ScanValue}
    (search : berPeekTag ber = ldapReqSearch)
    (scanned :
      berScanf searchFormat ber = (some (.str base :: more), filter))
    {msgid : Int}
    (low : -2 ^ 31 ≤ msgid)
    (high : msgid < 2 ^ 31)
    (env : Environment)
    (slot : Nat)
    (c : Connection)
    (p : Process) :
    QueryIntact env ber filter base slot c p msgid ↔
      FilterRejected filter ∨ StringsFit base filter :=
  ⟨fit_of_queryIntact search scanned,
    queryIntact_of_fit search scanned low high env slot c p⟩

/-- A search of `o=x` for `mail=u`. -/
def mailSearch : BerElement where
  berTag := 0x63
  berBuf :=
    [0x02, 0x01, 0x02, 0x63, 0x21, 0x04, 0x03] ++ ascii "o=x" ++
      [0x0a, 0x01, 0x02, 0x0a, 0x01, 0x00, 0x02, 0x01, 0x00, 0x02, 0x01,
        0x00, 0x01, 0x01, 0x00, 0xa3, 0x09, 0x04, 0x04] ++ ascii "mail" ++
      [0x04, 0x01] ++ ascii "u" ++ [0x30, 0x00]
  berPtr := 3

/-- The strings of `mailSearch` fit. -/
theorem queryIntact_iff_stringsFit_mail :
    QueryIntact .still mailSearch
        (berScanf searchFormat mailSearch).2 (ascii "o=x") 0
        (Connection.initial 0)
        (Process.initial .still)
        2 ↔
      FilterRejected (berScanf searchFormat mailSearch).2 ∨
        StringsFit (ascii "o=x") (berScanf searchFormat mailSearch).2 :=
  have scanned :
      berScanf searchFormat mailSearch =
        (some [.str (ascii "o=x"), .int 2, .int 0, .int 0, .int 0, .int 0],
          (berScanf searchFormat mailSearch).2) := by
    decide +kernel
  queryIntact_iff_stringsFit (by decide +kernel) scanned (by decide)
    (by decide) _ _ _ _

/-- A search for every entry, with a base of this many octets below 256. -/
def presentSearch (count : Nat) : BerElement where
  berTag := 0x63
  berBuf :=
    [0x02, 0x01, 0x02, 0x63, 0x81, UInt8.ofNat (count + 23), 0x04, 0x81,
        UInt8.ofNat count] ++
      List.replicate count 0x61 ++
      [0x0a, 0x01, 0x02, 0x0a, 0x01, 0x00, 0x02, 0x01, 0x00, 0x02, 0x01,
        0x00, 0x01, 0x01, 0x00, 0x87, 0x01, 0x61, 0x30, 0x00]
  berPtr := 3

/-- A base of 129 octets is copied without a NUL behind it. -/
theorem long_base_not_intact :
    ∃ more filter,
      berPeekTag (presentSearch 129) = ldapReqSearch ∧
        berScanf searchFormat (presentSearch 129) =
          (some (.str (List.replicate 129 0x61) :: more), filter) ∧
        ¬ QueryIntact .still
            (presentSearch 129) filter (List.replicate 129 0x61) 0
            (Connection.initial 0)
            (Process.initial
              .still) 2 := by
  have search : berPeekTag (presentSearch 129) = ldapReqSearch := by
    decide +kernel
  have scanned :
      berScanf searchFormat (presentSearch 129) =
        (some [.str (List.replicate 129 0x61), .int 2, .int 0, .int 0,
            .int 0, .int 0],
          (berScanf searchFormat (presentSearch 129)).2) := by
    decide +kernel
  refine ⟨_, _, search, scanned, ?_⟩
  intro intact
  rcases fit_of_queryIntact search scanned intact with rejected | fit
  · have filter :
        berPeekTag (berScanf searchFormat (presentSearch 129)).2 =
          0x87 := by
      decide +kernel
    unfold FilterRejected at rejected
    rw [filter] at rejected
    revert rejected
    decide
  · have short := fit.1
    have long : (cString (List.replicate 129 0x61)).length = 129 := by
      decide +kernel
    rw [long] at short
    revert short
    decide

end LdapProxy

import LdapProxy.DecodeCursor
import LdapProxy.ReplyOctets

namespace LdapProxy

open LdapProxy.Ber
open LdapProxy.Lber

/-!
# The answer to a search

A search request is followed through `lp_do_search`, `__process_ldap_query` and
`lp_search_reply`.  Query and reply are described by their contents, so the
three steps meet in a `RecordText`, and the reply record decodes to the
messages that the answers of the two lookups call for.
-/

namespace SearchRequest

/-- The name of the entry that is returned. -/
def objectName (request : SearchRequest) : List UInt8 :=
  match request.filter with
  | .equalityMatch attr assertionValue =>
      attr ++ ascii "=" ++ assertionValue ++ ascii "," ++ request.baseObject
  | .other _ =>
      request.baseObject

/-- The attributes of the entry that is returned. -/
def attributes (request : SearchRequest) : List PartialAttribute :=
  match request.filter with
  | .equalityMatch attr assertionValue =>
      [(attr, [assertionValue]), (objectClass, [dcObject, organization])]
  | .other _ =>
      [(objectClass, [dcObject, organization])]

/-- Whether an entry is returned, by the answers of the two lookups. -/
def Found
    (request : SearchRequest)
    (entUserExist smaMailListExist : List UInt8 → Int) :
    Prop :=
  match request.filter with
  | .equalityMatch attr assertionValue =>
      strcasecmpEq (ascii "domain") attr ∨
        strcasecmpEq (ascii "mail") attr ∧
          (entUserExist assertionValue = 0 ∨
            smaMailListExist assertionValue = 0)
  | .other _ =>
      True

instance
    (request : SearchRequest)
    (entUserExist smaMailListExist : List UInt8 → Int) :
    Decidable (request.Found entUserExist smaMailListExist) := by
  unfold Found
  split <;> infer_instance

/-- The messages that answer the request. -/
def answer
    (request : SearchRequest)
    (id : Int)
    (entUserExist smaMailListExist : List UInt8 → Int) :
    List SearchReply :=
  if request.Found entUserExist smaMailListExist then
    [.entry id request.objectName request.attributes,
      .done id ldapSuccess [] []]
  else
    [.done id ldapSuccess [] []]

/--
The strings are free of NUL and at most `LP_ATTR_LEN` octets long, and the name
of an equality entry has at most `LP_DN_LEN - 1` octets.
-/
structure Short (request : SearchRequest) : Prop where
  base : MysqlMsg.Short request.baseObject
  filter :
    ∀ attr assertionValue,
      request.filter = .equalityMatch attr assertionValue →
      MysqlMsg.Short attr ∧ MysqlMsg.Short assertionValue ∧
        request.objectName.length ≤ 255

/-- The strings are free of NUL and fit the arrays of a query. -/
structure Storable (request : SearchRequest) : Prop where
  base : MysqlMsg.Short request.baseObject
  filter :
    ∀ attr assertionValue,
      request.filter = .equalityMatch attr assertionValue →
      MysqlMsg.Short attr ∧ MysqlMsg.Short assertionValue

/-- The strings of a short request fit the arrays. -/
theorem Short.storable
    {request : SearchRequest}
    (short : request.Short) :
    request.Storable where
  base := short.base
  filter := fun attr assertionValue equality =>
    have strings := short.filter attr assertionValue equality
    ⟨strings.1, strings.2.1⟩

/-- The content of the query for a request. -/
def record (request : SearchRequest) (msgid : Int) : RecordText :=
  match request.filter with
  | .equalityMatch attr assertionValue =>
      .equality msgid request.baseObject attr assertionValue
  | .other _ =>
      .query msgid request.baseObject

end SearchRequest

/-- A string of a request is read as a C string. -/
theorem MysqlMsg.Short.scans
    {text : List UInt8}
    (short : MysqlMsg.Short text) :
    (0 : UInt8) ∉ text.take (text.length - 1) :=
  fun member => short.noZero (List.mem_of_mem_take member)

/-- The tag of a filter, as `ber_peek_tag` returns it. -/
def SearchFilter.tag : SearchFilter → Nat
  | .equalityMatch _ _ =>
      ldapFilterEquality
  | .other tag =>
      tag.toNat

/-- The tag of the filter behind the cursor. -/
theorem peekTag_filter
    {filter : SearchFilter}
    {octets rest : List UInt8}
    (encoded : FilterOctets filter octets)
    {ber : BerElement}
    (atFilter : At ber (octets ++ rest)) :
    berPeekTag ber = filter.tag := by
  cases encoded with
  | equalityMatch attr assertionValue attrOctets valueOctets _ _ _ element =>
      exact atFilter.peekTag element (by decide)
  | other tag contents _ single _ element =>
      exact atFilter.peekTag element single

/-- The strings of an equality filter are scanned. -/
theorem equalityStrings_filter
    {attr assertionValue octets rest : List UInt8}
    (encoded :
      FilterOctets (.equalityMatch attr assertionValue) octets)
    (attrShort : MysqlMsg.Short attr)
    (valueShort : MysqlMsg.Short assertionValue)
    {ber : BerElement}
    (atFilter : At ber (octets ++ rest)) :
    equalityStrings ber = some (attr, assertionValue) := by
  cases encoded with
  | equalityMatch _ _ attrOctets valueOctets _ attrElement valueElement
      element =>
      obtain ⟨inside, opened, atStrings⟩ :=
        atFilter.scanOpen element (by decide)
      rw [List.append_assoc] at atStrings
      obtain ⟨second, first, atValue⟩ :=
        atStrings.scanString attrElement (by decide) attrShort.scans
      obtain ⟨last, value, -⟩ :=
        atValue.scanString valueElement (by decide) valueShort.scans
      have scanned : berScanf ['{', 'a', 'a'] ber =
          (some [.str attr, .str assertionValue], last) :=
        berScanf_cons opened
          (berScanf_cons first (berScanf_cons value rfl))
      simp only [equalityStrings, scanned,
        cString_of_noZero attrShort.noZero,
        cString_of_noZero valueShort.noZero]

/-- A number of the request is scanned, whatever its conversion. -/
theorem scan_number
    {tag : UInt8}
    {octets rest : List UInt8}
    (encoded : NumberOctets tag octets)
    (single : SingleOctetTag tag)
    {ber : BerElement}
    (atNumber : At ber (octets ++ rest))
    {conversion : Char}
    (isNumber :
      conversion = 'b' ∨ conversion = 'e' ∨ conversion = 'i') :
    ∃ num next,
      scanConversion conversion ber = (some [.int num], next) ∧
        At next rest := by
  obtain ⟨contents, short, element⟩ := encoded
  exact atNumber.scanNumber element single short isNumber

/-- The fixed part of a request is scanned and the cursor is at its filter. -/
theorem scan_request
    {request : SearchRequest}
    {octets rest : List UInt8}
    (encoded : SearchOctets request octets)
    (short : MysqlMsg.Short request.baseObject)
    {ber : BerElement}
    (atRequest : At ber (octets ++ rest)) :
    berPeekTag ber = ldapReqSearch ∧
      ∃ more filter filterOctets behind,
        berScanf searchFormat ber =
            (some (.str request.baseObject :: more), filter) ∧
          FilterOctets request.filter filterOctets ∧
          At filter (filterOctets ++ behind) := by
  cases encoded with
  | intro base scope deref sizeLimit timeLimit typesOnly filterOctets
      selected _ selection baseElement scopeNumber derefNumber sizeNumber
      timeNumber typesNumber filterEncoded selectedElement element =>
      refine ⟨atRequest.peekTag element (by decide), ?_⟩
      obtain ⟨b0, opened, at0⟩ := atRequest.scanOpen element (by decide)
      simp only [List.append_assoc] at at0
      obtain ⟨b1, baseScan, at1⟩ :=
        at0.scanString baseElement (by decide) short.scans
      obtain ⟨n1, b2, scopeScan, at2⟩ :=
        scan_number scopeNumber (by decide) at1 (.inr (.inl rfl))
      obtain ⟨n2, b3, derefScan, at3⟩ :=
        scan_number derefNumber (by decide) at2 (.inr (.inl rfl))
      obtain ⟨n3, b4, sizeScan, at4⟩ :=
        scan_number sizeNumber (by decide) at3 (.inr (.inr rfl))
      obtain ⟨n4, b5, timeScan, at5⟩ :=
        scan_number timeNumber (by decide) at4 (.inr (.inr rfl))
      obtain ⟨n5, b6, typesScan, at6⟩ :=
        scan_number typesNumber (by decide) at5 (.inl rfl)
      have scanned : berScanf searchFormat ber =
          (some (.str request.baseObject ::
            [.int n1, .int n2, .int n3, .int n4, .int n5]), b6) :=
        berScanf_cons opened (berScanf_cons baseScan
          (berScanf_cons scopeScan (berScanf_cons derefScan
            (berScanf_cons sizeScan (berScanf_cons timeScan
              (berScanf_cons typesScan rfl))))))
      exact ⟨_, b6, filterOctets, _, scanned, filterEncoded, at6⟩

/-- The query that is built for a request shows its content. -/
theorem searchQuery_shows
    {request : SearchRequest}
    (storable : request.Storable)
    {filter : BerElement}
    {octets rest : List UInt8}
    (encoded : FilterOctets request.filter octets)
    (atFilter : At filter (octets ++ rest))
    {msgid : Int}
    (low : -2 ^ 31 ≤ msgid)
    (high : msgid < 2 ^ 31) :
    ∃ query,
      searchQuery request.baseObject msgid filter = some query ∧
        query.Shows (request.record msgid) := by
  have room : lpAttrLen ≤ lpAttrLen + 1 := Nat.le_succ _
  have tag := peekTag_filter encoded atFilter
  have baseFits : request.baseObject.length ≤ baseField.size :=
    storable.base.length.trans room
  have baseString := cString_of_noZero storable.base.noZero
  have strings := storable.filter
  unfold searchQuery SearchRequest.record
  rw [tag]
  generalize request.filter = choice at encoded strings ⊢
  cases choice with
  | equalityMatch attr assertionValue =>
      obtain ⟨attrShort, valueShort⟩ := strings _ _ rfl
      have known : ¬ ldapFilterEquality = lberDefault := by decide
      refine ⟨_, ?_, shows_setEquality baseFits
        (attrShort.length.trans room) (valueShort.length.trans room)
        low high⟩
      simp only [SearchFilter.tag, known, if_false, if_true,
        equalityStrings_filter encoded attrShort valueShort atFilter,
        Option.map_some, baseString]
  | other tag =>
      cases encoded with
      | other _ contents _ single different element =>
          have known : ¬ tag.toNat = lberDefault := At.tag_ne_default tag
          have notEquality : ¬ tag.toNat = ldapFilterEquality := by
            intro same
            exact different (UInt8.toNat_inj.mp same)
          refine ⟨_, ?_, shows_queryOf baseFits low high⟩
          simp only [SearchFilter.tag, known, notEquality, if_false,
            baseString]

/-- `lp_do_search` pushes a query that shows the content of the request. -/
theorem lpDoSearch_query
    {request : SearchRequest}
    {octets rest : List UInt8}
    (encoded : SearchOctets request octets)
    (storable : request.Storable)
    {ber : BerElement}
    (atRequest : At ber (octets ++ rest))
    {msgid : Int}
    (low : -2 ^ 31 ≤ msgid)
    (high : msgid < 2 ^ 31)
    (env : Environment)
    (slot : Nat)
    (c : Connection)
    (p : Process) :
    ∃ query,
      lpDoSearch env .succeed ber slot c p msgid =
          .ok (pushQuery .succeed (lpTaskNew env p).1 query p.mysqlIndex
            slot c (afterTask env p)) ∧
        query.Shows (request.record msgid) := by
  obtain ⟨search, more, filter, filterOctets, behind, scanned,
    filterEncoded, atFilter⟩ := scan_request encoded storable.base atRequest
  obtain ⟨query, built, shows⟩ :=
    searchQuery_shows storable filterEncoded atFilter low high
  have outcome :=
    lpDoSearch_scanned search scanned env .succeed slot c p msgid
  rw [built] at outcome
  exact ⟨query, outcome, shows⟩

/-- `lp_do_search` pushes one query, which shows the content of the request. -/
theorem lpDoSearch_pushes
    {request : SearchRequest}
    {octets rest : List UInt8}
    (encoded : SearchOctets request octets)
    (short : request.Short)
    {ber : BerElement}
    (atRequest : At ber (octets ++ rest))
    {msgid : Int}
    (low : -2 ^ 31 ≤ msgid)
    (high : msgid < 2 ^ 31)
    (env : Environment)
    (slot : Nat)
    (c : Connection)
    (p : Process) :
    ∃ query c' p',
      lpDoSearch env .succeed ber slot c p msgid = .ok (lpOk, c', p') ∧
        (p'.mysqls p.mysqlIndex).queue =
          (p.mysqls p.mysqlIndex).queue ++ [query] ∧
        query.data.Shows (request.record msgid) := by
  obtain ⟨query, outcome, shows⟩ :=
    lpDoSearch_query encoded short.storable atRequest low high env slot c p
  obtain ⟨c', p', pushed, queue⟩ :=
    pushQuery_succeed (lpTaskNew env p).1 query p.mysqlIndex slot c
      (afterTask env p)
  rw [pushed] at outcome
  exact ⟨_, c', p', outcome, queue, shows⟩

/-- The code of a reply, by the result of the lookups. -/
def replyCode (ret : Int) : Int :=
  if ret = 0 then lpOk else lpErr

/-- The reply to a query repeats its content and adds the code. -/
theorem shows_replyOf
    {request : SearchRequest}
    (short : request.Short)
    {query : MysqlMsg}
    {msgid : Int}
    (shows : query.Shows (request.record msgid))
    (low : -2 ^ 31 ≤ msgid)
    (high : msgid < 2 ^ 31)
    (ret : Int) :
    (replyOf query ret).Shows
      { request.record msgid with code := replyCode ret } := by
  have room : lpAttrLen ≤ lpAttrLen + 1 := Nat.le_succ _
  have strings := short.filter
  unfold SearchRequest.record at shows ⊢
  generalize request.filter = choice at shows strings ⊢
  have codeLow : -2 ^ 31 ≤ replyCode ret := by
    unfold replyCode
    split <;> decide
  have codeHigh : replyCode ret < 2 ^ 31 := by
    unfold replyCode
    split <;> decide
  have head : (_ : MysqlMsg).Shows { RecordText.cleared with
      code := replyCode ret, base := request.baseObject } :=
    (MysqlMsg.shows_cleared.setCode codeLow codeHigh).copyBase rfl
      short.base.length (by decide)
  cases choice with
  | equalityMatch attr assertionValue =>
      obtain ⟨attrShort, valueShort, -⟩ := strings _ _ rfl
      have base := shows.string_base short.base
      have attrRead := shows.string_attr attrShort
      have valueRead := shows.string_assertionValue valueShort
      have equality : ldapFilterEquality < 2 ^ 64 := by decide
      have filled := (((head.setMsgid low high).setFilterType
        equality).copyAttribute rfl
          (attrShort.length.trans room)).copyAssertionValue rfl
            (valueShort.length.trans room)
      simp only [replyOf, shows.filterType, shows.msgid, base, attrRead,
        valueRead]
      exact filled
  | other tag =>
      have base := shows.string_base short.base
      have noFilter : 0 < 2 ^ 64 := by decide
      have filled := (head.setMsgid low high).setFilterType noFilter
      simp only [replyOf, shows.filterType, shows.msgid, base]
      exact filled

/-- The lookups decide whether an entry is returned. -/
theorem lookup_eq_zero
    {request : SearchRequest}
    (short : request.Short)
    {msgid : Int}
    {task : Task}
    (shows : task.data.Shows (request.record msgid))
    (env : Environment) :
    lookup env task = 0 ↔
      request.Found (env.entUserExist task.id)
        (env.smaMailListExist task.id) := by
  have strings := short.filter
  unfold SearchRequest.record at shows
  unfold SearchRequest.Found lookup
  generalize request.filter = choice at shows strings ⊢
  cases choice with
  | equalityMatch attr assertionValue =>
      obtain ⟨attrShort, valueShort, -⟩ := strings _ _ rfl
      have attrRead : task.data.string attributeField = attr :=
        shows.string_attr attrShort
      have valueRead :
          task.data.string assertionValueField = assertionValue :=
        shows.string_assertionValue valueShort
      have filterType : task.data.filterType = ldapFilterEquality :=
        shows.filterType
      simp only [filterType, attrRead, valueRead, if_true]
      by_cases mail : strcasecmpEq (ascii "mail") attr = true
      · have notDomain : ¬ strcasecmpEq (ascii "domain") attr = true := by
          unfold strcasecmpEq at mail ⊢
          rw [decide_eq_true_eq] at mail ⊢
          rw [← mail]
          decide +kernel
        rw [if_pos mail]
        simp only [mail, notDomain, true_and]
        by_cases user : env.entUserExist task.id assertionValue = 0
        · simp [user]
        · simp [user]
      · simp [mail]
  | other tag =>
      have filterType : task.data.filterType = 0 := shows.filterType
      have notEquality : ¬ 0 = ldapFilterEquality := by decide
      simp only [filterType, notEquality, if_false]

/-- The encoded octets are exactly what was printed. -/
theorem octets_of_prints
    {ber : OutElement}
    {octets : List UInt8}
    (prints : Prints ber (Printer.after octets)) :
    ber.octets = octets := by
  have ptr : ber.berPtr = octets.length := prints.ptr
  have buffer : ber.berBuf.take octets.length = octets := prints.buffer
  rw [OutElement.octets, ptr, buffer]

/-- A format printed into a new record. -/
theorem berPrintf_new
    {format : List Char}
    {args : List PrintArg}
    {octets : List UInt8}
    (printed :
      (Printer.after []).run format args = some (Printer.after octets))
    (small : printCost format args ≤ 2048) :
    ∃ next,
      berPrintf format args OutElement.new = some next ∧
        Prints next (Printer.after octets) ∧ octets.length ≤ 2048 := by
  have room : 2048 ≤ maxintBersize := by decide
  have cost : (Printer.after []).layout.length + printCost format args ≤
      2048 := (Nat.zero_add _).trans_le small
  obtain ⟨next, encoded, prints⟩ :=
    berPrintf_refines prints_new printed (cost.trans room)
  exact ⟨next, encoded, prints, (Printer.length_run printed).trans cost⟩

/-- A search result done is appended to what was printed. -/
theorem printSearchDone_prints
    (reply : MysqlMsg)
    {ber : OutElement}
    {octets : List UInt8}
    (prints : Prints ber (Printer.after octets))
    (short : octets.length ≤ 2048) :
    ∃ next,
      printSearchDone reply ber = some next ∧
        Prints next
          (Printer.after
            (octets ++
              elementsOctets
                [replyElement (searchDone (reply.getInt msgidField))])) ∧
        (octets ++
          elementsOctets
            [replyElement (searchDone (reply.getInt msgidField))]).length ≤
          4096 := by
  have printed := run_resultFormat octets (reply.getInt msgidField)
  have length : (Printer.after octets).layout.length = octets.length := rfl
  have cost : printCost resultFormat
      [.int (reply.getInt msgidField), .tag ldapResSearchResult,
        .int ldapSuccess, .str [], .str []] = 163 := rfl
  have bound := Printer.length_run printed
  rw [length, cost] at bound
  have room : 4096 ≤ maxintBersize := by decide
  obtain ⟨next, encoded, prints⟩ := berPrintf_refines prints printed
    (by rw [length, cost]; omega)
  exact ⟨next, encoded, prints, bound.trans (by omega)⟩

/-- The name of an equality entry, as `snprintf` is asked to print it. -/
def entryName (reply : MysqlMsg) : List UInt8 :=
  reply.string attributeField ++ ascii "=" ++
    reply.string assertionValueField ++ ascii "," ++ reply.string baseField

/-- The encoded name has the length of the whole name. -/
theorem length_equalityName (reply : MysqlMsg) :
    (equalityName reply).length = (entryName reply).length :=
  length_strncpy ..

/-- A name that fits `dn` is stored whole. -/
theorem equalityName_of_short
    {reply : MysqlMsg}
    (short : (entryName reply).length < lpDnLen) :
    equalityName reply = entryName reply := by
  have whole : (entryName reply).take (lpDnLen - 1) = entryName reply :=
    List.take_of_length_le (Nat.le_sub_one_of_lt short)
  have name :
      equalityName reply =
        strncpy ((entryName reply).take (lpDnLen - 1))
          (entryName reply).length :=
    rfl
  rw [name, whole, strncpy_length]

/-- The entry of an equality reply is printed with its encoded name. -/
theorem printEquality_prints
    {reply : MysqlMsg}
    (equality : reply.filterType = ldapFilterEquality) :
    ∃ next,
      printSearchEntry reply OutElement.new = some next ∧
        Prints next
          (Printer.after
            (elementsOctets
              [replyElement
                (.entry (reply.getInt msgidField) (equalityName reply)
                  [(reply.string attributeField,
                      [reply.string assertionValueField]),
                    classAttribute])])) ∧
        (elementsOctets
          [replyElement
            (.entry (reply.getInt msgidField) (equalityName reply)
              [(reply.string attributeField,
                  [reply.string assertionValueField]),
                classAttribute])]).length ≤ 2048 := by
  have printed := run_equalityFormat [] (reply.getInt msgidField)
    (equalityName reply) (reply.string attributeField)
    (reply.string assertionValueField)
  have texts : objectClass.length = 11 ∧ dcObject.length = 8 ∧
      organization.length = 12 := by decide +kernel
  obtain ⟨classLength, dcLength, organizationLength⟩ := texts
  have marks : (ascii "=").length = 1 ∧ (ascii ",").length = 1 := by
    decide +kernel
  have nameLength := length_equalityName reply
  unfold entryName at nameLength
  simp only [List.length_append, marks] at nameLength
  have attrLength : (reply.string attributeField).length ≤ 416 - 152 :=
    reply.length_string attributeField
  have valueLength :
      (reply.string assertionValueField).length ≤ 416 - 281 :=
    reply.length_string assertionValueField
  have baseLength : (reply.string baseField).length ≤ 416 - 8 :=
    reply.length_string baseField
  simp only [printSearchEntry, equality, if_true]
  refine berPrintf_new printed ?_
  simp only [printCost, PrintArg.size, List.map_cons, List.map_nil,
    List.sum_cons, List.sum_nil, List.length_cons, List.length_nil,
    classLength, dcLength, organizationLength, nameLength]
  omega

/-- The entry of any other reply is printed with its base. -/
theorem printBase_prints
    {reply : MysqlMsg}
    (notEquality : ¬ reply.filterType = ldapFilterEquality) :
    ∃ next,
      printSearchEntry reply OutElement.new = some next ∧
        Prints next
          (Printer.after
            (elementsOctets
              [replyElement
                (.entry (reply.getInt msgidField) (reply.string baseField)
                  [classAttribute])])) ∧
        (elementsOctets
          [replyElement
            (.entry (reply.getInt msgidField) (reply.string baseField)
              [classAttribute])]).length ≤ 2048 := by
  have printed := run_entryFormat [] (reply.getInt msgidField)
    (reply.string baseField)
  have texts : objectClass.length = 11 ∧ dcObject.length = 8 ∧
      organization.length = 12 := by decide +kernel
  obtain ⟨classLength, dcLength, organizationLength⟩ := texts
  have baseLength : (reply.string baseField).length ≤ 416 - 8 :=
    reply.length_string baseField
  simp only [printSearchEntry, notEquality, if_false]
  refine berPrintf_new printed ?_
  simp only [printCost, PrintArg.size, List.map_cons, List.map_nil,
    List.sum_cons, List.sum_nil, List.length_cons, List.length_nil,
    classLength, dcLength, organizationLength]
  omega

/-- The entry of a request is printed first. -/
theorem printSearchEntry_prints
    {request : SearchRequest}
    (short : request.Short)
    {reply : MysqlMsg}
    {msgid code : Int}
    (shows :
      reply.Shows { request.record msgid with code := code }) :
    ∃ next,
      printSearchEntry reply OutElement.new = some next ∧
        Prints next
          (Printer.after
            (elementsOctets
              [replyElement
                (.entry msgid request.objectName
                  request.attributes)])) ∧
        (elementsOctets
          [replyElement
            (.entry msgid request.objectName
              request.attributes)]).length ≤ 2048 := by
  have strings := short.filter
  unfold SearchRequest.record at shows
  unfold SearchRequest.objectName SearchRequest.attributes
  unfold SearchRequest.objectName at strings
  generalize request.filter = choice at shows strings ⊢
  cases choice with
  | equalityMatch attr assertionValue =>
      obtain ⟨attrShort, valueShort, nameShort⟩ := strings _ _ rfl
      have baseRead : reply.string baseField = request.baseObject :=
        shows.string_base short.base
      have attrRead : reply.string attributeField = attr :=
        shows.string_attr attrShort
      have valueRead :
          reply.string assertionValueField = assertionValue :=
        shows.string_assertionValue valueShort
      have filterType : reply.filterType = ldapFilterEquality :=
        shows.filterType
      have id : reply.getInt msgidField = msgid := shows.msgid
      have whole :
          entryName reply =
            attr ++ ascii "=" ++ assertionValue ++ ascii "," ++
              request.baseObject := by
        rw [entryName, attrRead, valueRead, baseRead]
      have name : equalityName reply = entryName reply := by
        apply equalityName_of_short
        rw [whole]
        exact Nat.lt_succ_of_le nameShort
      have prints := printEquality_prints filterType
      rw [name, whole, attrRead, valueRead, id] at prints
      exact prints
  | other tag =>
      have baseRead : reply.string baseField = request.baseObject :=
        shows.string_base short.base
      have filterType : reply.filterType = 0 := shows.filterType
      have id : reply.getInt msgidField = msgid := shows.msgid
      have notEquality : ¬ reply.filterType = ldapFilterEquality := by
        rw [filterType]
        decide
      have prints := printBase_prints notEquality
      rw [baseRead, id] at prints
      exact prints

/-- The numbers of an answer have 32 bits. -/
theorem small_answer
    (request : SearchRequest)
    {msgid : Int}
    (low : -2 ^ 31 ≤ msgid)
    (high : msgid < 2 ^ 31)
    (entUserExist smaMailListExist : List UInt8 → Int) :
    ∀ reply ∈ request.answer msgid entUserExist smaMailListExist,
      reply.Small := by
  have code : -2 ^ 31 ≤ ldapSuccess ∧ ldapSuccess < 2 ^ 31 := by decide
  intro reply member
  unfold SearchRequest.answer at member
  split at member
  · rcases List.mem_cons.mp member with rfl | isDone
    · exact ⟨low, high⟩
    · rw [List.mem_singleton.mp isDone]
      exact ⟨⟨low, high⟩, code⟩
  · rw [List.mem_singleton.mp member]
    exact ⟨⟨low, high⟩, code⟩

/-- What the encoded answer to a request says. -/
theorem decodeReplies_answer
    {replies : List SearchReply}
    (small : ∀ reply ∈ replies, reply.Small)
    {octets : List UInt8}
    (encoded : octets = elementsOctets (replies.map replyElement))
    (short : octets.length ≤ 4096) :
    decodeReplies octets = some replies := by
  rw [encoded] at short ⊢
  exact decodeReplies_replyElement replies small (by omega)

/-- A record that holds all messages is appended. -/
theorem appendDone_printed
    {task : Task}
    {ber next : OutElement}
    (printed : printSearchDone task.data ber = some next)
    (id : Nat)
    (c : Connection)
    (p : Process) :
    appendDone task id ber c p = (lpOk, addReply task id next c, p) := by
  simp only [appendDone, printed]

/-- `lp_search_reply` appends one record that holds the answer. -/
theorem lpSearchReply_answers
    {request : SearchRequest}
    (short : request.Short)
    {msgid : Int}
    (low : -2 ^ 31 ≤ msgid)
    (high : msgid < 2 ^ 31)
    (reply : Task)
    {ret : Int}
    (shows :
      reply.data.Shows
        { request.record msgid with code := replyCode ret })
    {entUserExist smaMailListExist : List UInt8 → Int}
    (found : ret = 0 ↔ request.Found entUserExist smaMailListExist)
    (c : Connection)
    (p : Process) :
    ∃ ber p',
      lpSearchReply reply c p =
          (lpOk, addReply reply p.datas.next ber c, p') ∧
        decodeReplies ber.octets =
          some (request.answer msgid entUserExist smaMailListExist) := by
  have code : reply.data.getInt codeField = replyCode ret := shows.code
  have id : reply.data.getInt msgidField = msgid := by
    have read := shows.msgid
    unfold SearchRequest.record at read
    rw [read]
    cases request.filter <;> rfl
  by_cases success : ret = 0
  · obtain ⟨entry, entryPrinted, entryPrints, entryLength⟩ :=
      printSearchEntry_prints short shows
    obtain ⟨done, donePrinted, donePrints, doneLength⟩ :=
      printSearchDone_prints reply.data entryPrints entryLength
    refine ⟨done, (ldapDataNew p).2, ?_, ?_⟩
    · have isZero : reply.data.getInt codeField = 0 := by
        rw [code, replyCode, if_pos success]
        rfl
      simp only [lpSearchReply, isZero, if_true]
      simp only [searchSucceed, ldapDataNew, entryPrinted]
      exact appendDone_printed donePrinted _ c _
    · rw [octets_of_prints donePrints]
      refine decodeReplies_answer (small_answer request low high _ _) ?_
        doneLength
      rw [SearchRequest.answer, if_pos (found.mp success), id]
      simp [elementsOctets, searchDone]
  · obtain ⟨done, donePrinted, donePrints, doneLength⟩ :=
      printSearchDone_prints reply.data prints_new (Nat.zero_le _)
    refine ⟨done, (ldapDataNew p).2, ?_, ?_⟩
    · have isFailure : reply.data.getInt codeField = -1 := by
        rw [code, replyCode, if_neg success]
        rfl
      have notZero : ¬ (-1 : Int) = 0 := by decide
      simp only [lpSearchReply, isFailure, notZero, if_true, if_false]
      exact appendDone_printed donePrinted _ c _
    · rw [octets_of_prints donePrints]
      refine decodeReplies_answer (small_answer request low high _ _) ?_
        doneLength
      rw [SearchRequest.answer, if_neg (mt found.mpr success), id]
      simp [elementsOctets, searchDone]

/--
`lp_do_search` pushes one query; `__process_ldap_query` pushes one reply to it,
whatever happened to the shared data in between; and `lp_search_reply` appends
one record to the reply list of the connection, whose octets are exactly the
messages that answer the request.
-/
def SearchAnswered
    (env : Environment)
    (request : SearchRequest)
    (msgid : Int)
    (ber : BerElement)
    (slot : Nat)
    (c : Connection)
    (p : Process) :
    Prop :=
  ∃ query c' p',
    lpDoSearch env .succeed ber slot c p msgid = .ok (lpOk, c', p') ∧
      (p'.mysqls p.mysqlIndex).queue =
        (p.mysqls p.mysqlIndex).queue ++ [query] ∧
      ∀ (write : PipeWrite) (mysql ldap : Nat)
        (ldaps : Nat → LdapWorker) (p₁ : Process),
        ∃ reply,
          ((processLdapQuery env write mysql query (some ldap) ldaps
              p₁).2.1 ldap).queue =
            (ldaps ldap).queue ++ [reply] ∧
            ∀ (c₂ : Connection) (p₂ : Process),
              ∃ id ber' c₃ p₃,
                lpSearchReply reply c₂ p₂ = (lpOk, c₃, p₃) ∧
                  c₃.rplList =
                    c₂.rplList ++ [⟨id, ber', query.issued⟩] ∧
                  decodeReplies ber'.octets =
                    some
                      (request.answer msgid (env.entUserExist query.id)
                        (env.smaMailListExist query.id))

/--
Every well-formed search request with short strings is answered, for every
message id of 32 bits and all answers of the two lookups.
-/
theorem search_answered
    {request : SearchRequest}
    {octets rest : List UInt8}
    (encoded : SearchOctets request octets)
    (short : request.Short)
    {ber : BerElement}
    (atRequest : At ber (octets ++ rest))
    {msgid : Int}
    (low : -2 ^ 31 ≤ msgid)
    (high : msgid < 2 ^ 31)
    (env : Environment)
    (slot : Nat)
    (c : Connection)
    (p : Process) :
    SearchAnswered env request msgid ber slot c p := by
  obtain ⟨query, c', p', pushed, queue, shows⟩ :=
    lpDoSearch_pushes encoded short atRequest low high env slot c p
  refine ⟨query, c', p', pushed, queue, ?_⟩
  intro write mysql ldap ldaps p₁
  refine
    ⟨replyTask env mysql query (some ldap) (lpTaskNew env p₁).1, ?_, ?_⟩
  · simp only [processLdapQuery, lpLdapPushTask]
    split <;> simp only [Function.update_self]
  · intro c₂ p₂
    have data :
        (replyTask env mysql query (some ldap) (lpTaskNew env p₁).1).data =
          replyOf query.data (lookup env query) := by
      simp only [replyTask]
    have replyShows :=
      shows_replyOf short shows low high (lookup env query)
    rw [← data] at replyShows
    obtain ⟨ber', p₃, replied, decoded⟩ :=
      lpSearchReply_answers short low high
        (replyTask env mysql query (some ldap) (lpTaskNew env p₁).1)
        replyShows (lookup_eq_zero short shows env) c₂ p₂
    exact ⟨_, ber', _, p₃, replied, rfl, decoded⟩

/-- The request of `mailSearch`. -/
def mailRequest : SearchRequest where
  baseObject := ascii "o=x"
  filter := .equalityMatch (ascii "mail") (ascii "u")

/-- The octets of `mailSearch` after its message id are those of its request. -/
theorem mailRequest_octets :
    SearchOctets mailRequest (mailSearch.berBuf.drop 3) := by
  have filter :
      FilterOctets mailRequest.filter
        ([0xa3, 0x09, 0x04, 0x04] ++ ascii "mail" ++ [0x04, 0x01] ++
          ascii "u") :=
    .equalityMatch _ _ ([0x04, 0x04] ++ ascii "mail")
      ([0x04, 0x01] ++ ascii "u") _
      ⟨[0x04], .short 0x04 (by decide), by decide +kernel⟩
      ⟨[0x01], .short 0x01 (by decide), by decide +kernel⟩
      ⟨[0x09], .short 0x09 (by decide), by decide +kernel⟩
  exact
    .intro ([0x04, 0x03] ++ ascii "o=x") [0x0a, 0x01, 0x02]
      [0x0a, 0x01, 0x00] [0x02, 0x01, 0x00] [0x02, 0x01, 0x00]
      [0x01, 0x01, 0x00] _ [0x30, 0x00] _ []
      ⟨[0x03], .short 0x03 (by decide), by decide +kernel⟩
      ⟨[0x02], by decide, [0x01], .short 0x01 (by decide), rfl⟩
      ⟨[0x00], by decide, [0x01], .short 0x01 (by decide), rfl⟩
      ⟨[0x00], by decide, [0x01], .short 0x01 (by decide), rfl⟩
      ⟨[0x00], by decide, [0x01], .short 0x01 (by decide), rfl⟩
      ⟨[0x00], by decide, [0x01], .short 0x01 (by decide), rfl⟩
      filter ⟨[0x00], .short 0x00 (by decide), rfl⟩
      ⟨[0x21], .short 0x21 (by decide), by decide +kernel⟩

/-- The strings of `mailSearch` are short. -/
theorem mailRequest_short : mailRequest.Short where
  base := ⟨by decide +kernel, by decide +kernel⟩
  filter := by
    rintro attr assertionValue ⟨⟩
    exact ⟨⟨by decide +kernel, by decide +kernel⟩,
      ⟨by decide +kernel, by decide +kernel⟩, by decide +kernel⟩

/-- The search of `mailSearch` is answered when the user exists. -/
theorem search_answered_mail :
    SearchAnswered
      { Environment.still with
        entUserExist := fun _ _ => 0 }
      mailRequest 2 mailSearch 0 (Connection.initial 0)
      (Process.initial .still) :=
  have atRequest : At mailSearch (mailSearch.berBuf.drop 3 ++ []) :=
    { inside := by decide +kernel
      suffix := by decide +kernel
      saved := by
        rintro first later same
        refine .inr ?_
        have tag : mailSearch.berBuf.drop 3 ++ [] =
            0x63 :: mailSearch.berBuf.drop 4 := by decide +kernel
        rw [tag] at same
        rw [← (List.cons.inj same).1]
        rfl }
  search_answered mailRequest_octets mailRequest_short atRequest (by decide)
    (by decide) _ _ _ _

end LdapProxy

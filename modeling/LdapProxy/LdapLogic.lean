import LdapProxy.LberDecode
import LdapProxy.LberEncode
import LdapProxy.TaskQueues

namespace LdapProxy

open LdapProxy.Lber

/-!
# The LDAP operations

`lp_ldap_logic.c`: the dispatch of requests, the bind, search and unbind
operations, and the encoding of search replies.  Every function gets the
connection it works on, its slot where the code stores the pointer, and the
data shared with the other threads.
-/

/-- `LDAP_TAG_MESSAGE` -/
def ldapTagMessage : Nat := 0x30

/-- `LDAP_TAG_MSGID` -/
def ldapTagMsgid : Nat := 0x02

/-- `LDAP_REQ_BIND` -/
def ldapReqBind : Nat := 0x60

/-- `LDAP_REQ_UNBIND` -/
def ldapReqUnbind : Nat := 0x42

/-- `LDAP_REQ_SEARCH` -/
def ldapReqSearch : Nat := 0x63

/-- `LDAP_REQ_MODIFY` -/
def ldapReqModify : Nat := 0x66

/-- `LDAP_REQ_ADD` -/
def ldapReqAdd : Nat := 0x68

/-- `LDAP_REQ_DELETE` -/
def ldapReqDelete : Nat := 0x4a

/-- `LDAP_REQ_MODRDN` -/
def ldapReqModrdn : Nat := 0x6c

/-- `LDAP_REQ_COMPARE` -/
def ldapReqCompare : Nat := 0x6e

/-- `LDAP_REQ_ABANDON` -/
def ldapReqAbandon : Nat := 0x50

/-- `LDAP_REQ_EXTENDED` -/
def ldapReqExtended : Nat := 0x77

/-- `LDAP_RES_BIND` -/
def ldapResBind : Nat := 0x61

/-- `LDAP_RES_SEARCH_ENTRY` -/
def ldapResSearchEntry : Nat := 0x64

/-- `LDAP_RES_SEARCH_RESULT` -/
def ldapResSearchResult : Nat := 0x65

/-- `LDAP_FILTER_EQUALITY` -/
def ldapFilterEquality : Nat := 0xa3

/-- `LDAP_SUCCESS` -/
def ldapSuccess : Int := 0

/-- `lp_op_t`, in the order of the enumeration. -/
inductive LpOp where
  | bind
  | unbind
  | search
  | compare
  | modify
  | modrdn
  | add
  | delete
  | abandon
  | extended
  | last
  deriving Repr, DecidableEq

/-- `lp_req2op` -/
def lpReq2op (tag : Nat) : LpOp :=
  if tag = ldapReqBind then .bind
  else if tag = ldapReqUnbind then .unbind
  else if tag = ldapReqAdd then .add
  else if tag = ldapReqDelete then .delete
  else if tag = ldapReqModrdn then .modrdn
  else if tag = ldapReqModify then .modify
  else if tag = ldapReqCompare then .compare
  else if tag = ldapReqSearch then .search
  else if tag = ldapReqAbandon then .abandon
  else if tag = ldapReqExtended then .extended
  else .last

/-- The format of a bind response and of a search result done. -/
def resultFormat : List Char :=
  ['{', 'i', 't', '{', 'e', 's', 's', '}', '}']

/-- `lp_response_bind` -/
def lpResponseBind (c : Connection) (p : Process) (msgid : Int) :
    Int × Connection × Process :=
  let (id, p) := ldapDataNew p
  match berPrintf resultFormat
      [.int msgid, .tag ldapResBind, .int 0, .str [], .str []]
      OutElement.new with
  | none =>
      (lpErr, c, p)
  | some ber =>
      (lpOk,
        { c with
          rplList := c.rplList ++ [⟨id, ber, c.incarnation⟩] },
        p)

/-- `lp_do_bind` -/
def lpDoBind
    (ber : BerElement)
    (c : Connection)
    (p : Process)
    (msgid : Int) :
    Except Abort (Int × Connection × Process) :=
  let tag := berPeekTag ber
  if tag = lberDefault then
    .ok (lpErr, c, p)
  else if tag ≠ ldapReqBind then
    .error .notBind
  else
    match berScanf ['{', 'i', 't'] ber with
    | (none, _) =>
        .ok (lpErr, c, p)
    | (some _, _) =>
        .ok (lpResponseBind c p msgid)

/-- The fields of the query that do not depend on the filter. -/
def queryOf (base : List UInt8) (msgid : Int) : MysqlMsg :=
  (MysqlMsg.cleared.copyString baseField base base.length).setInt
    msgidField msgid

/-- The equality filter is copied into the query. -/
def MysqlMsg.setEquality
    (query : MysqlMsg)
    (attr assertionValue : List UInt8) :
    MysqlMsg :=
  (query.copyString attributeField attr attr.length).copyString
    assertionValueField assertionValue assertionValue.length

/-- The query task that `lp_do_search` fills in. -/
def queryTask
    (task : NewTask)
    (query : MysqlMsg)
    (mysql slot : Nat)
    (c : Connection) :
    Task where
  id := task.id
  sender := c.ldap.map Worker.ldap
  receiver := some (.mysql mysql)
  senderSource := .ldap
  receiverSource := .mysql
  taskType := lpTaskLdapMsg
  c := slot
  data := query
  tick := task.tick
  issued := c.incarnation

/-- The end of `lp_do_search`: the task is filled in and pushed. -/
def pushQuery
    (allocs : PushAllocs)
    (task : NewTask)
    (query : MysqlMsg)
    (mysql slot : Nat)
    (c : Connection)
    (p : Process) :
    Int × Connection × Process :=
  lpMysqlPushTask allocs mysql (queryTask task query mysql slot c) c p

/--
`lp_do_search`.  The C strings that `ber_scanf` stores end at their first NUL.
-/
def lpDoSearch
    (env : Environment)
    (allocs : PushAllocs)
    (ber : BerElement)
    (slot : Nat)
    (c : Connection)
    (p : Process)
    (msgid : Int) :
    Except Abort (Int × Connection × Process) :=
  let tag := berPeekTag ber
  if tag = lberDefault then
    .ok (lpErr, c, p)
  else if tag ≠ ldapReqSearch then
    .error .notSearch
  else
    match berScanf ['{', 'a', 'e', 'e', 'i', 'i', 'b'] ber with
    | (some (.str base :: _), ber) =>
        let tag := berPeekTag ber
        if tag = lberDefault then
          .ok (lpErr, c, p)
        else
          let (task, p) := lpTaskNew env p
          let query := queryOf (cString base) msgid
          let (mysql, p) := lpGetMysql env p
          if tag = ldapFilterEquality then
            let query := query.setFilterType tag
            match berScanf ['{', 'a', 'a'] ber with
            | (some [.str attr, .str assertionValue], _) =>
                .ok (pushQuery allocs task
                  (query.setEquality (cString attr)
                    (cString assertionValue))
                  mysql slot c p)
            | _ =>
                -- the task is neither pushed nor destroyed
                .ok (lpErr, c, p)
          else
            .ok (pushQuery allocs task query mysql slot c p)
    | _ =>
        .ok (lpErr, c, p)

/-- The texts of the attribute that every entry carries. -/
def objectClass : List UInt8 := ascii "objectClass"

/-- The first value of `objectClass`. -/
def dcObject : List UInt8 := ascii "dcObject"

/-- The second value of `objectClass`. -/
def organization : List UInt8 := ascii "organization"

/--
`objectName` of an equality reply: `snprintf` returns the full length of
`attribute=value,base` while `dn` has room for `LP_DN_LEN - 1` octets of it.
-/
def equalityName (reply : MysqlMsg) : List UInt8 :=
  let text :=
    reply.string attributeField ++ ascii "=" ++
      reply.string assertionValueField ++ ascii "," ++
      reply.string baseField
  strncpy (text.take (lpDnLen - 1)) text.length

/-- The search entry of `__search_succeed`. -/
def printSearchEntry (reply : MysqlMsg) (ber : OutElement) :
    Option OutElement :=
  let msgid := reply.getInt msgidField
  if reply.filterType = ldapFilterEquality then
    berPrintf
      ['{', 'i', 't', '{', 'O', '{', '{', 'O', '[', 'O', ']', '}', '{', 'O',
        '[', 'O', 'O', ']', '}', '}', '}', '}']
      [.int msgid, .tag ldapResSearchEntry, .berval (equalityName reply),
        .berval (reply.string attributeField),
        .berval (reply.string assertionValueField),
        .berval objectClass, .berval dcObject, .berval organization]
      ber
  else
    berPrintf
      ['{', 'i', 't', '{', 'O', '{', '{', 'O', '[', 'O', 'O', ']', '}', '}',
        '}', '}']
      [.int msgid, .tag ldapResSearchEntry,
        .berval (reply.string baseField),
        .berval objectClass, .berval dcObject, .berval organization]
      ber

/-- The search result done of `__search_succeed` and `__search_failed`. -/
def printSearchDone (reply : MysqlMsg) (ber : OutElement) :
    Option OutElement :=
  berPrintf resultFormat
    [.int (reply.getInt msgidField), .tag ldapResSearchResult,
      .int ldapSuccess, .str [], .str []]
    ber

/-- Append a reply to `c->rpl_list`. -/
def addReply
    (task : Task)
    (id : Nat)
    (ber : OutElement)
    (c : Connection) :
    Connection :=
  { c with rplList := c.rplList ++ [⟨id, ber, task.issued⟩] }

/--
The end of `__search_succeed` and `__search_failed`: print the search result
done and append the reply.
-/
def appendDone
    (task : Task)
    (id : Nat)
    (ber : OutElement)
    (c : Connection)
    (p : Process) :
    Int × Connection × Process :=
  match printSearchDone task.data ber with
  | none =>
      (lpErr, c, p)
  | some ber =>
      (lpOk, addReply task id ber c, p)

/-- `__search_succeed` -/
def searchSucceed (task : Task) (c : Connection) (p : Process) :
    Int × Connection × Process :=
  let (id, p) := ldapDataNew p
  match printSearchEntry task.data OutElement.new with
  | none =>
      (lpErr, c, ldapDataDestroy id p)
  | some ber =>
      appendDone task id ber c p

/-- `__search_failed` -/
def searchFailed (task : Task) (c : Connection) (p : Process) :
    Int × Connection × Process :=
  let (id, p) := ldapDataNew p
  appendDone task id OutElement.new c p

/--
`lp_search_reply`.  The code of a reply is `LP_OK` or `LP_ERR`; for any other
code `ret` would be returned uninitialised.
-/
def lpSearchReply (task : Task) (c : Connection) (p : Process) :
    Int × Connection × Process :=
  let code := task.data.getInt codeField
  if code = 0 then
    searchSucceed task c p
  else if code = -1 then
    searchFailed task c p
  else
    (lpErr, c, p)

end LdapProxy

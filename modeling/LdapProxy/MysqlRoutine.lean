import LdapProxy.LdapLogic

namespace LdapProxy

open LdapProxy.Lber

/-!
# The MySQL workers

`__process_ldap_query` and the loop body of `__mysql_routine` in `lp_mysql.c`:
a query is looked up, its reply is built and pushed to the LDAP worker that the
connection points to at that moment, and the query task is destroyed.
-/

/-- `tolower` in the C locale. -/
def tolower (octet : UInt8) : UInt8 :=
  if 65 ≤ octet ∧ octet ≤ 90 then octet + 32 else octet

/-- `strcasecmp(first, second) == 0` -/
def strcasecmpEq (first second : List UInt8) : Bool :=
  first.map tolower = second.map tolower

/-- The part of `__process_ldap_query` that looks the query up. -/
def lookup (env : Environment) (task : Task) : Int :=
  let query := task.data
  if query.filterType = ldapFilterEquality then
    if strcasecmpEq (ascii "mail") (query.string attributeField) then
      let mail := query.string assertionValueField
      let ret := env.entUserExist task.id mail
      if ret ≠ 0 then env.smaMailListExist task.id mail else ret
    else if strcasecmpEq (ascii "domain") (query.string attributeField) then
      0
    else
      -1
  else
    0

/-- The part of `__process_ldap_query` that fills in the reply. -/
def replyOf (query : MysqlMsg) (ret : Int) : MysqlMsg :=
  let reply :=
    MysqlMsg.cleared.setInt codeField (if ret = 0 then lpOk else lpErr)
  let reply :=
    reply.copyString baseField (query.string baseField) lpMysqlDestLen
  let reply := reply.setInt msgidField (query.getInt msgidField)
  let reply := reply.setFilterType query.filterType
  if query.filterType = ldapFilterEquality then
    reply.setEquality (query.string attributeField)
      (query.string assertionValueField)
  else
    reply

/-- The reply task that `__process_ldap_query` pushes. -/
def replyTask
    (env : Environment)
    (mysql : Nat)
    (task : Task)
    (ldap : Option Nat)
    (new : NewTask) :
    Task where
  id := new.id
  sender := some (.mysql mysql)
  receiver := ldap.map Worker.ldap
  senderSource := .mysql
  receiverSource := .ldap
  taskType := lpTaskMysqlMsg
  c := task.c
  data := replyOf task.data (lookup env task)
  -- `__set_tick2query`
  tick := task.tick
  issued := task.issued

/-- `__process_ldap_query`, where `ldap` is `c->ldap`. -/
def processLdapQuery
    (env : Environment)
    (write : PipeWrite)
    (mysql : Nat)
    (task : Task)
    (ldap : Option Nat)
    (ldaps : Nat → LdapWorker)
    (p : Process) :
    Int × (Nat → LdapWorker) × Process :=
  let (new, p) := lpTaskNew env p
  let (ret, ldaps) :=
    lpLdapPushTask write ldap (replyTask env mysql task ldap new) ldaps
  (ret, ldaps, p)

/-- `__process_ldap_task` -/
def processLdapTask
    (env : Environment)
    (write : PipeWrite)
    (mysql : Nat)
    (task : Task)
    (ldap : Option Nat)
    (ldaps : Nat → LdapWorker)
    (p : Process) :
    Except Abort (Int × (Nat → LdapWorker) × Process) :=
  if task.taskType = lpTaskLdapMsg then
    .ok (processLdapQuery env write mysql task ldap ldaps p)
  else
    .error .taskType

/-- The loop body of `__mysql_routine` after `lp_mysql_pop_task`. -/
def mysqlRoutine
    (env : Environment)
    (write : PipeWrite)
    (mysql : Nat)
    (task : Task)
    (ldap : Option Nat)
    (ldaps : Nat → LdapWorker)
    (p : Process) :
    Except Abort ((Nat → LdapWorker) × Process) :=
  if task.receiver ≠ some (.mysql mysql) then
    .ok (ldaps, lpTaskDestroy task p)
  else
    match task.senderSource with
    | .ldap =>
        match processLdapTask env write mysql task ldap ldaps p with
        | .error abort =>
            .error abort
        | .ok (_, ldaps, p) =>
            .ok (ldaps, lpTaskDestroy task p)
    | _ =>
        .ok (ldaps, lpTaskDestroy task p)

end LdapProxy

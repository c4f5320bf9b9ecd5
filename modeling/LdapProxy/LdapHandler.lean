import LdapProxy.LdapLogic

namespace LdapProxy

open LdapProxy.Lber

/-!
# The LDAP workers

The event handler and the task execution of `lp_ldap.c`.  Each function gets
the connection it works on and the data shared with the other threads; what the
socket and libevent answer while the handler runs is part of the event.
-/

/-- `__ldap_get_ber` -/
def ldapGetBer (c : Connection) (p : Process) (sock : Sock) :
    Except Abort (Int × Connection × Process × Sock) :=
  let (data, p) :=
    match c.curData with
    | some data =>
        (data, p)
    | none =>
        let (id, p) := ldapDataNew p
        (⟨id, RecvElement.new, c.incarnation⟩, p)
  match berGetNext sock data.ber with
  | .error abort =>
      .error abort
  | .ok result =>
      if result.tag ≠ ldapTagMessage then
        if result.errno ≠ .ewouldblock then
          .ok (-1, { c with curData := none },
            ldapDataDestroy data.id p, result.sock)
        else
          .ok (1, { c with curData := some { data with ber := result.ber } },
            p, result.sock)
      else
        .ok (lpOk,
          { c with
            reqList :=
              c.reqList ++
                [⟨data.id, result.ber.toElement, data.incarnation⟩]
            curData := none },
          p, result.sock)

/-- The `do` loop of `__ldap_read`, with at most `fuel` repetitions. -/
def ldapReadLoop : Nat → Connection → Process → Sock →
    Except Abort (Int × Connection × Process × Sock)
  | 0, c, p, sock =>
      ldapGetBer c p sock
  | fuel + 1, c, p, sock =>
      match ldapGetBer c p sock with
      | .error abort =>
          .error abort
      | .ok (ret, c, p, sock) =>
          if ret = 0 then
            ldapReadLoop fuel c p sock
          else
            .ok (ret, c, p, sock)

/-- The octets that the socket still has for reading. -/
def available : List Recv → Nat
  | [] =>
      0
  | .data _ rest :: later =>
      rest.length + 1 + available later
  | _ :: later =>
      available later

/--
`__ldap_read`.  A message takes at least one octet from the socket, so the loop
repeats at most as often as there are octets.
-/
def ldapRead (c : Connection) (p : Process) (sock : Sock) :
    Except Abort (Int × Connection × Process × Sock) :=
  ldapReadLoop (available sock.answers) c p sock

/-- The `while` loop of `__ldap_write` over `c->rpl_list`. -/
def ldapWriteLoop (c : Connection) :
    List (LdapData OutElement) → Process → Wire →
      Int × Connection × Process
  | [], p, wire =>
      (lpOk, { c with rplList := [], sent := wire.accepted }, p)
  | itr :: rest, p, wire =>
      let flushed := berFlush2 wire itr.ber
      if flushed.complete then
        ldapWriteLoop c rest (ldapDataDestroy itr.id p) flushed.wire
      else
        let c :=
          { c with
            rplList := { itr with ber := flushed.ber } :: rest
            sent := flushed.wire.accepted }
        if flushed.errno ≠ .ewouldblock then
          (lpErr, c, p)
        else
          (lpAgain, c, p)

/-- `__ldap_write` -/
def ldapWrite (c : Connection) (p : Process) (send : List Send) :
    Int × Connection × Process :=
  ldapWriteLoop c c.rplList p { answers := send, accepted := c.sent }

/-- Whether `event_del` succeeds for the read and the write event. -/
structure EventDel where
  rev : Bool
  wev : Bool
  deriving Repr, DecidableEq

/-- Both events are deleted. -/
def EventDel.succeed : EventDel where
  rev := true
  wev := true

/-- `__io_unregister` -/
def ioUnregister (del : EventDel) (c : Connection) : Int × Connection :=
  let c := { c with connClosing := true }
  if c.connClosed then
    (lpOk, c)
  else if del.rev then
    let c := { c with rev := none }
    if c.wevActive then
      if del.wev then
        (lpOk, { c with wev := none, connClosed := true })
      else
        (lpErr, c)
    else
      (lpOk, { c with connClosed := true })
  else
    (lpErr, c)

/-- `lp_ldap_io_unregister` -/
def lpLdapIoUnregister (del : EventDel) (c : Connection) :
    Int × Connection :=
  ioUnregister del c

/-- `lp_do_unbind` -/
def lpDoUnbind (del : EventDel) (c : Connection) (p : Process) :
    Int × Connection × Process :=
  let (ret, c) := lpLdapIoUnregister del c
  (ret, c, p)

/-- What surrounds the processing of the requests of one event. -/
structure RequestContext where
  env : Environment
  slot : Nat
  del : EventDel

/--
`opfunc`, for the operations up to `LP_OP_SEARCH`; the others are skipped
before the table is used.
-/
def opfunc
    (ctx : RequestContext)
    (op : LpOp)
    (ber : BerElement)
    (c : Connection)
    (p : Process)
    (msgid : Int) :
    Option (Except Abort (Int × Connection × Process)) :=
  match op with
  | .bind =>
      some (lpDoBind ber c p msgid)
  | .unbind =>
      some (.ok (lpDoUnbind ctx.del c p))
  | .search =>
      some (lpDoSearch ctx.env .succeed ber ctx.slot c p msgid)
  | _ =>
      none

/-- The `while` loop of `__ldap_process_request` over `c->req_list`. -/
def processRequestLoop (ctx : RequestContext) :
    List (LdapData BerElement) → Connection → Process →
      Except Abort (Int × Connection × Process)
  | [], c, p =>
      .ok (lpOk, c, p)
  | itr :: rest, c, p =>
      let c := { c with reqList := rest }
      match berGetInt itr.ber with
      | (tag, msgid, ber) =>
          if tag ≠ ldapTagMsgid then
            -- returns without destroying the element it popped
            .ok (-1, c, p)
          else
            let tag := berPeekTag ber
            if tag = lberDefault then
              processRequestLoop ctx rest c (ldapDataDestroy itr.id p)
            else if lpReq2op tag = .last then
              .error .opLast
            else
              match opfunc ctx (lpReq2op tag) ber c p (msgid.getD 0) with
              | none =>
                  -- not implemented: skipped without destroying the element
                  processRequestLoop ctx rest c p
              | some (.error abort) =>
                  .error abort
              | some (.ok (_, c, p)) =>
                  processRequestLoop ctx rest c (ldapDataDestroy itr.id p)

/-- `__ldap_process_request` -/
def ldapProcessRequest
    (ctx : RequestContext)
    (c : Connection)
    (p : Process) :
    Except Abort (Int × Connection × Process) :=
  processRequestLoop ctx c.reqList c p

/--
One call of the event handler: the flags of `event_type`, what the socket
answers to the reads and writes, and how the calls of `event_del` end.
-/
structure Event where
  read : Bool
  write : Bool
  timeout : Bool
  recv : List Recv
  send : List Send
  del : EventDel

/--
The `EV_READ` part of the event handler.  The flag says that the handler
returns at once.
-/
def eventRead
    (env : Environment)
    (slot : Nat)
    (event : Event)
    (c : Connection)
    (p : Process) :
    Except Abort (Bool × Connection × Process) :=
  match ldapRead c p { answers := event.recv, reads := [] } with
  | .error abort =>
      .error abort
  | .ok (ret, c, p, _) =>
      let c := if ret < 0 then (ioUnregister event.del c).2 else c
      match ldapProcessRequest ⟨env, slot, event.del⟩ c p with
      | .error abort =>
          .error abort
      | .ok (ret, c, p) =>
          .ok (decide (ret < 0), c, p)

/-- The `EV_WRITE` part of the event handler. -/
def eventWrite (event : Event) (c : Connection) (p : Process) :
    Connection × Process :=
  let (ret, c, p) := ldapWrite c p event.send
  (if ret < 0 then (ioUnregister event.del c).2 else c, p)

/-- The code after the label `close_connection`. -/
def closeConnection (slot : Nat) (c : Connection) (p : Process) :
    Except Abort (Connection × Process) :=
  if c.connClosed then
    lpCloseConnection slot c p
  else
    .ok (c, p)

/--
`lp_ldap_io_event_handler`.  Its second test of `conn_closing` is left out: the
first one has already returned.
-/
def lpLdapIoEventHandler
    (env : Environment)
    (slot : Nat)
    (event : Event)
    (c : Connection)
    (p : Process) :
    Except Abort (Connection × Process) :=
  -- `lp_assert(fd = c->fd)` assigns
  if c.fd = 0 then
    .error .fdZero
  else if c.connClosing then
    .ok (c, p)
  else if event.timeout then
    closeConnection slot (ioUnregister event.del c).2 p
  else if c.connActive = false then
    .ok (c, p)
  else
    match
      if event.read then
        eventRead env slot event c p
      else
        .ok (false, c, p) with
    | .error abort =>
        .error abort
    | .ok (true, c, p) =>
        .ok (c, p)
    | .ok (false, c, p) =>
        if event.write then
          let (c, p) := eventWrite event c p
          closeConnection slot c p
        else
          closeConnection slot c p

/--
`__process_server_task`.  The process exits when `fstat` or `event_add` fails,
so both have succeeded when it goes on.
-/
def processServerTask
    (ldap : Nat)
    (task : Task)
    (c : Connection)
    (p : Process) :
    Except Abort (Int × Connection × Process) :=
  if task.taskType &&& lpTaskIoAllReg = 0 then
    .error .notRegister
  else
    .ok (lpOk,
      { c with rev := some ldap, wev := some ldap, wevActive := true },
      lpTaskDestroy task p)

/-- `__process_mysql_task` -/
def processMysqlTask
    (ldap : Nat)
    (task : Task)
    (send : List Send)
    (c : Connection)
    (p : Process) :
    Int × Connection × Process :=
  if c.ldap ≠ some ldap then
    -- the task is not destroyed
    (lpErr, c, p)
  else
    let (ret, c, p) := lpSearchReply task c p
    let (c, p) :=
      if ret = lpOk then (ldapWrite c p send).2 else (c, p)
    (ret, c, lpTaskDestroy task p)

/-- `__task_process` -/
def taskProcess
    (ldap : Nat)
    (task : Task)
    (send : List Send)
    (c : Connection)
    (p : Process) :
    Except Abort (Int × Connection × Process) :=
  match task.senderSource with
  | .mysql =>
      let (checked, c) := lpConnCheckTaskTick c task
      if checked ≠ lpOk then
        .ok (lpErr, c, lpTaskDestroy task p)
      else
        .ok (processMysqlTask ldap task send c p)
  | .server =>
      processServerTask ldap task c p
  | _ =>
      .ok (lpErr, c, p)

end LdapProxy

import RethinkDriver.Protocol

/-!
# The connection lifecycle

`core/net/connection.py:79-171` and `net/default_net/transport.py:74-107`: opening a
connection (`DefaultTransport.connect`, which drives the handshake over the socket),
closing it (`Connection.close`, `DefaultTransport.close`), and the requests a caller makes
(`noreply_wait`, `server`, `start`). `reconnect` is `close` then `connect`.

A run of one connection is a list of `Op`s, each a public call with the environment's
choices for it: how `new_socket` answers and the random bytes of the nonce. What the
server sends and how the kernel delivers it are in the socket (`Client`). The garbage
collector is a step too: `collect` drops a cursor from the weak `_cursor_cache`.
-/

namespace RethinkDriver

namespace Connection

variable (ql2 : Ql2) (codec : JsonCodec) (crypto : Crypto)

/-- A step of the handshake object, kept on the protocol when it raises. -/
def onHandshake {α : Type} (m : EStateM PyExc HandshakeV1_0 α) : ConnM α := fun conn =>
  match m conn.protocol.handshake with
  | .ok a h => .ok a (conn.setProtocol { conn.protocol with handshake := h })
  | .error e h => .error e (conn.setProtocol { conn.protocol with handshake := h })

/-- `if request != b"": self.__client.sendall(request)` (`transport.py:85-86`). -/
def sendRequest (request : Bytes) : ConnM Unit :=
  if request = [] then pure () else onClient (·.sendall request)

/-- The loop of `DefaultTransport.connect` over `IterableGenerator(handshake.run())`
    (`transport.py:83-88`): each request the generator yields is sent unless empty, and the
    next `\0`-terminated message is sent back into it. -/
def handshake (randomBytes : Bytes) : ConnM Unit := do
  let r0 ← onHandshake (do
    modify HandshakeV1_0.reset
    HandshakeV1_0.initializeConnection ql2 codec crypto randomBytes)
  sendRequest r0
  let m1 ← onClient (·.readuntil 0)
  let r1 ← liftPy (HandshakeV1_0.readResponse codec m1)
  sendRequest r1
  let m2 ← onClient (·.readuntil 0)
  let r2 ← onHandshake (HandshakeV1_0.prepareAuthRequest codec crypto m2)
  sendRequest r2
  let m3 ← onClient (·.readuntil 0)
  onHandshake (HandshakeV1_0.readAuthResponse codec crypto m3)

/-- `ReqlDriverError(f"Server {host}:{port}")` raised from `cause` (`transport.py:90`). -/
def authFailure (host : String) (port : Nat) (cause : PyExc) : PyExc :=
  .reqlFrom .ReqlDriverError s!"Server {host}:{port}" cause

/-- `except ReqlAuthError as e: raise ReqlDriverError(f"Server {host}:{port}") from e`
    (`transport.py:89-90`), with the client's `host` and `port` when it is raised. -/
def wrapAuthError (m : ConnM Unit) : ConnM Unit := fun conn =>
  match m conn with
  | .error e after =>
    if e.isInstance .ReqlAuthError then
      .error (authFailure after.transport.client.host after.transport.client.port e) after
    else .error e after
  | r => r

/-- `DefaultTransport.connect` (`transport.py:74-92`): open the socket, authenticate, and once
    the handshake has completed, `set_ctx(inst)`. -/
def connect (randomBytes : Bytes) (newSocket : NewSocket) : ConnM Unit := do
  onClient (·.connect newSocket)
  wrapAuthError (handshake ql2 codec crypto randomBytes)
  modifyProtocol fun p => { p with ctx := true }

/-- `DefaultTransport.close` (`transport.py:94-107`): mark closing, run the NOREPLY_WAIT
    query if there is one, then close the client. The lines that would fail the cached
    cursors are commented out. -/
def transportClose (noreplyWaitQuery : Option Query) : ConnM Unit := do
  modify fun conn => { conn with transport := { conn.transport with closing := true } }
  if let some q := noreplyWaitQuery then runQuery ql2 codec q false
  onClient fun c => (.ok (), c.close)

/-- `Connection.close` (`connection.py:117-131`). -/
def close (noreplyWait : Bool) : ConnM Unit := do
  unless (← get).isOpen do return
  let q ← if noreplyWait then (fun t => some (Query.new .NOREPLY_WAIT t none none)) <$> newToken
    else pure none
  transportClose ql2 codec q
  modify fun conn => { conn with token := conn.token.reset }

/-- `Connection.reconnect` (`connection.py:79-88`). -/
def reconnect (noreplyWait : Bool) (randomBytes : Bytes) (newSocket : NewSocket) : ConnM Unit := do
  close ql2 codec noreplyWait
  connect ql2 codec crypto randomBytes newSocket

/-- `Connection.noreply_wait` (`connection.py:133-136`). -/
def noreplyWait : ConnM Unit := do
  checkOpen
  let t ← newToken
  runQuery ql2 codec (.new .NOREPLY_WAIT t none none) false

/-- `Connection.server` (`connection.py:138-144`). -/
def server : ConnM Unit := do
  checkOpen
  let t ← newToken
  runQuery ql2 codec (.new .SERVER_INFO t none none) false

/-- The options `Connection.start` sends (`connection.py:151-153`): unless the term names a
    database, `db` is set to `ast.DB(kwargs.get("db", self.db))` when either is present. -/
def startOptions (db : Option String) (term : Term) (kwargs : Options) : Options :=
  if !term.hasDbArg && ((kwargs.get? "db").isSome || db.isSome) then
    kwargs.set "db" (ql2.dbTerm ((kwargs.get? "db").getD ((db.map PyValue.str).getD .none)))
  else kwargs

/-- `Connection.start` (`connection.py:146-155`): a START, noreply when the `noreply` option
    is truthy. -/
def start (term : Term) (kwargs : Options) : ConnM Unit := do
  checkOpen
  let kwargs := startOptions ql2 (← get).db term kwargs
  let t ← newToken
  runQuery ql2 codec (.new .START t (some term) (some kwargs))
    ((kwargs.get? "noreply").getD (.bool false)).truthy

/-- `Connection.use` (`connection.py:98-102`). -/
def use (db : String) : ConnM Unit := modify fun conn => { conn with db := some db }

/-- The garbage collector dropping the cursor cached under `token`. -/
def collect (token : Token) : ConnM Unit :=
  modifyProtocol fun p => { p with cursorCache := p.cursorCache.erase token }

end Connection

/-- A step of a run of one connection: a public call, with the environment's choices. -/
inductive Op where
  | reconnect (noreplyWait : Bool) (randomBytes : Bytes) (newSocket : NewSocket)
  | close (noreplyWait : Bool)
  | noreplyWait
  | server
  | start (term : Term) (kwargs : Options)
  | resume (cursor : Cursor)
  | stop (cursor : Cursor)
  | use (db : String)
  | collect (token : Token)

namespace Op

variable (ql2 : Ql2) (codec : JsonCodec) (crypto : Crypto)

/-- The call an `Op` makes. -/
def call : Op → ConnM Unit
  | reconnect w r s => Connection.reconnect ql2 codec crypto w r s
  | close w => Connection.close ql2 codec w
  | noreplyWait => Connection.noreplyWait ql2 codec
  | server => Connection.server ql2 codec
  | start t k => Connection.start ql2 codec t k
  | resume c => Connection.resume ql2 codec c
  | stop c => Connection.stop ql2 codec c
  | use db => Connection.use db
  | collect t => Connection.collect t

end Op

/-- The state after each call of a run, whatever each call returned or raised. -/
def runOps (ql2 : Ql2) (codec : JsonCodec) (crypto : Crypto) :
    List Op → Connection → Connection
  | [], conn => conn
  | op :: ops, conn =>
    match op.call ql2 codec crypto conn with
    | .ok _ conn' | .error _ conn' => runOps ql2 codec crypto ops conn'

/-- `new_connection` (`connections.py:67-110`) before its `reconnect`: a closed transport
    with the escaped user, empty token maps, no `ctx` and a fresh token generator. -/
def Connection.initial (host : String) (port : Nat) (ssl : Bool) (user password : String)
    (db : Option String) (seed : Nat) : Connection :=
  ⟨db, ⟨⟨host, port, ssl, none⟩, false, ⟨.empty, .empty, .new user password, false⟩⟩, ⟨seed, seed⟩⟩

end RethinkDriver

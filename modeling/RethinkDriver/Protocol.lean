import RethinkDriver.Cursor
import RethinkDriver.Client
import RethinkDriver.Handshake

/-!
# Framing and routing of responses

`core/net/protocol.py:43-114`: `RdbProtocol` owns the two token maps, `_waiting_respose`
(requests that expect a reply) and `_cursor_cache` (cursors by token). `build_query`
serializes a query and registers it unless it is sent noreply; `read_response` is the
generator that asks for a 12-byte header, then for the body, and routes the response.
`DefaultTransport.run_query` (`net/default_net/transport.py:109-126`) drives it.

The objects of a connection are one state, `Connection`: a cursor's context is the
connection, and `read_response` reaches `Connection.resume` through `Cursor.extend`, so
`resume` and `stop` (`core/net/connection.py:157-171`) are defined here, over
`sendQuery`, the part of `run_query` a noreply query runs.

`_cursor_cache` is a `WeakValueDictionary`: an entry disappears once nothing else holds its
cursor. The model keeps entries until a `collect` step of the garbage collector, which a
run may take at any point.
-/

namespace RethinkDriver

/-- `RdbProtocol` (`protocol.py:43-67`); its decoder and encoder classes are the `JsonCodec`
    parameter. `ctx` is whether its `ctx` slot is assigned: `set_ctx` gives it the connection,
    the only value it takes, once a handshake has completed (`transport.py:91`); until then
    reading `self.ctx` raises `AttributeError`. -/
structure RdbProtocol where
  cursorCache : PyDict Token Cursor
  waitingRespose : PyDict Token Query
  handshake : HandshakeV1_0
  ctx : Bool

/-- `DefaultTransport` (`transport.py:38-51`); `_mapper` is read by nothing. -/
structure DefaultTransport where
  client : DefaultClient
  closing : Bool
  rdbProtocol : RdbProtocol

/-- `Connection` (`core/net/connection.py:46-58`) with everything it owns. -/
structure Connection where
  db : Option String
  transport : DefaultTransport
  token : TokenGenerator

/-- A method of the connection or of an object it owns. -/
abbrev ConnM (α : Type) := EStateM PyExc Connection α

namespace Connection

/-- The connection with its client replaced. -/
def setClient (conn : Connection) (c : DefaultClient) : Connection :=
  { conn with transport := { conn.transport with client := c } }

/-- The connection with its protocol object replaced. -/
def setProtocol (conn : Connection) (p : RdbProtocol) : Connection :=
  { conn with transport := { conn.transport with rdbProtocol := p } }

/-- The protocol object. -/
abbrev protocol (conn : Connection) : RdbProtocol := conn.transport.rdbProtocol

/-- `Connection.is_open` (`connection.py:104-108`), the client's `is_open`. -/
def isOpen (conn : Connection) : Bool := conn.transport.client.isOpen

@[simp] theorem setClient_protocol (conn : Connection) (c : DefaultClient) :
    (conn.setClient c).protocol = conn.protocol := rfl

@[simp] theorem setClient_client (conn : Connection) (c : DefaultClient) :
    (conn.setClient c).transport.client = c := rfl

@[simp] theorem setClient_token (conn : Connection) (c : DefaultClient) :
    (conn.setClient c).token = conn.token := rfl

@[simp] theorem setProtocol_protocol (conn : Connection) (p : RdbProtocol) :
    (conn.setProtocol p).protocol = p := rfl

@[simp] theorem setProtocol_client (conn : Connection) (p : RdbProtocol) :
    (conn.setProtocol p).transport.client = conn.transport.client := rfl

@[simp] theorem setProtocol_setProtocol (conn : Connection) (p p' : RdbProtocol) :
    (conn.setProtocol p).setProtocol p' = conn.setProtocol p' := rfl

@[simp] theorem setProtocol_token (conn : Connection) (p : RdbProtocol) :
    (conn.setProtocol p).token = conn.token := rfl

/-- A call on the client, whose changes stay made when it raises. -/
def onClient {α : Type} (f : DefaultClient → Except PyExc α × DefaultClient) : ConnM α :=
  fun conn =>
    match f conn.transport.client with
    | (.ok a, c) => .ok a (conn.setClient c)
    | (.error e, c) => .error e (conn.setClient c)

/-- An update of the protocol object's fields. -/
def modifyProtocol (f : RdbProtocol → RdbProtocol) : ConnM Unit := fun conn =>
  .ok () (conn.setProtocol (f conn.protocol))

/-- `__check_open` (`connection.py:110-115`). -/
def checkOpen : ConnM Unit := fun conn =>
  if conn.isOpen then .ok () conn else .error (reqlDriverError "Connection is closed.") conn

/-- `_token.new()`. -/
def newToken : ConnM Token := fun conn =>
  .ok conn.token.new.1 { conn with token := conn.token.new.2 }

variable (ql2 : Ql2) (codec : JsonCodec)

/-- `RdbProtocol.build_query` (`protocol.py:75-80`): serialize, and register the query under
    its token unless it is sent noreply. -/
def buildQuery (query : Query) (noreply : Bool) : ConnM Bytes := do
  let data ← liftPy (query.serialize ql2 codec)
  unless noreply do
    modifyProtocol fun p => { p with waitingRespose := p.waitingRespose.set query.token query }
  pure data

/-- The part of `DefaultTransport.run_query` (`transport.py:109-126`) that sends:
    `build_query`, then `sendall`. A noreply query returns after it. -/
def sendQuery (query : Query) (noreply : Bool) : ConnM Unit := do
  let data ← buildQuery ql2 codec query noreply
  onClient (·.sendall data)

/-- `Connection.resume` (`connection.py:157-163`): a CONTINUE for the cursor's token, sent
    through `run_query(query, True)`. -/
def resume (cursor : Cursor) : ConnM Unit := do
  checkOpen
  sendQuery ql2 codec (.new .CONTINUE cursor.query.token none none) true

/-- `Connection.stop` (`connection.py:165-171`): a STOP for the cursor's token, sent through
    `run_query(query, True)`. -/
def stop (cursor : Cursor) : ConnM Unit := do
  checkOpen
  sendQuery ql2 codec (.new .STOP cursor.query.token none none) true

/-- The connection as the `ctx` of its cursors. -/
def context : Context Connection := ⟨resume ql2 codec, stop ql2 codec⟩

@[simp] theorem context_resume : (context ql2 codec).resume = resume ql2 codec := rfl

@[simp] theorem context_stop : (context ql2 codec).stop = stop ql2 codec := rfl

/-- `_cursor_cache.get(token, None)`. -/
def cachedCursor (token : Token) : ConnM (Option Cursor) := fun conn =>
  .ok (conn.protocol.cursorCache.get? token) conn

/-- `_waiting_respose.pop(token)`, a `KeyError` when the token is not pending. -/
def popWaiting (token : Token) : ConnM Query := fun conn =>
  match conn.protocol.waitingRespose.pop token with
  | some (q, rest) => .ok q (conn.setProtocol { conn.protocol with waitingRespose := rest })
  | none => .error (.keyError s!"{token.value}") conn

/-- `cursor.extend(response)` on the cursor cached under `token`; the cursor object is
    updated in the cache whether or not `extend` raises. -/
def extendCursor (token : Token) (cursor : Cursor) (response : Response) : ConnM Unit :=
  fun conn =>
    let put := fun (s : Cursor × Connection) =>
      s.2.setProtocol { s.2.protocol with cursorCache := s.2.protocol.cursorCache.set token s.1 }
    match Cursor.extend ql2 (context ql2 codec) response (cursor, conn) with
    | .ok _ s => .ok () (put s)
    | .error e s => .error e (put s)

/-- `self.ctx`, read as the first argument of `Cursor(...)` (`protocol.py:104`). -/
def readCtx : ConnM Unit := fun conn =>
  if conn.protocol.ctx then .ok () conn else .error (.attributeError "ctx") conn

@[simp] theorem resultState_readCtx (conn : Connection) : resultState (readCtx conn) = conn := by
  unfold readCtx; split <;> rfl

/-- `print(token, cursor)` (`protocol.py:114`): `Cursor.__str__` calls `_fmt_cursor`
    (`cursor.py:46-60`), which reads `obj.error`. -/
def printCursor (cursor : Cursor) : Except PyExc Unit :=
  match cursor.error with
  | some _ => .ok ()
  | none => .error (.attributeError "error")

/-- The rest of `read_response` once the body is read (`protocol.py:91-114`): pop the pending
    query, decode the response with the query's options, then extend the token's cursor,
    register a new cursor for a sequential response, or take `get_data` of the response,
    which nothing returns. -/
def dispatch (token : Token) (body : Bytes) : ConnM Unit := do
  let processedQuery ← popWaiting token
  let kwargs ← liftPy (match processedQuery.kwargs with
    | some o => .ok o
    | none => .error .typeError)
  let response ← liftPy (Response.new token body (codec.decode kwargs))
  match ← cachedCursor token with
  | some cursor => extendCursor ql2 codec token cursor response
  | none =>
    if ← liftPy (response.isSequential ql2) then
      readCtx
      let cursor ← liftPy (Cursor.new ql2 processedQuery response)
      modifyProtocol fun p => { p with cursorCache := p.cursorCache.set token cursor }
      liftPy (printCursor cursor)
    else
      discard <| liftPy (response.getData ql2)

/-- The two phases of `read_response` (`protocol.py:82-89`) as `run_query` drives them with
    `recvall`: a 12-byte `'<qL'` header, then exactly `length` body bytes. -/
def readFrame : ConnM (Int × Bytes) := do
  let header ← onClient (·.recvall 12)
  let (tokenInt, length) ← liftPy (unpackqL header)
  let body ← onClient (·.recvall length)
  pure (tokenInt, body)

/-- `DefaultTransport.run_query` (`transport.py:109-126`) driving `read_response`. It returns
    `None` in every case. -/
def runQuery (query : Query) (noreply : Bool) : ConnM Unit := do
  sendQuery ql2 codec query noreply
  if noreply then return
  let (tokenInt, body) ← readFrame
  dispatch ql2 codec ⟨tokenInt⟩ body

end Connection

end RethinkDriver

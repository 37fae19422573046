import RethinkDriver.Proofs.Session

/-!
# A request answered by its own reply

`Connection.server` (`core/net/connection.py:138-144`) hands the token `new()` returns to a
SERVER_INFO query and calls `DefaultTransport.run_query` (`net/default_net/transport.py:109-126`):
`build_query` registers the query under its token (`core/net/protocol.py:75-80`), `sendall`
writes its frame, and `read_response` (`protocol.py:82-114`) reads the next frame and pops the
entry of the token it bears.

When the kernel takes and delivers every byte and the next frame is the reply bearing the
query's own token, the exchange returns and leaves no trace but the two frames on the socket
(`runQuery_exchange`): the entry `build_query` added is the one `read_response` pops. That needs
the token to be free when `new()` hands it out, which holds in every state of a session
(`runOps_server_exchange`).
-/

namespace RethinkDriver

namespace Connection

variable {ql2 : Ql2} {codec : JsonCodec}

/-- `run_query` of a query awaiting its reply, under a token that is neither pending nor cached,
    on a socket whose kernel takes and delivers every byte, when the next frame is the reply
    bearing the query's token and it decodes, with the query's options, into a response that is
    not a sequence and has data: the call returns having written the query's frame and read the
    reply's, and both token maps are as they were. -/
theorem runQuery_exchange {conn : Connection} {s : Socket}
    (hs : conn.transport.client.socket = some s) (hsend : s.sendPlan = [])
    (hrecv : s.recvPlan = []) {q : Query} {frame : Bytes} (hq : q.serialize ql2 codec = .ok frame)
    {t : Nat} (htok : q.token = ⟨t⟩) (ht : t < 2 ^ 63)
    (hwait : conn.protocol.waitingRespose.get? q.token = none)
    (hcache : conn.protocol.cursorCache.get? q.token = none) {o : Options} (ho : q.kwargs = some o)
    {body rest : Bytes} (hlen : body.length < 2 ^ 32)
    (hin : s.inbound = toListLE 8 t ++ toListLE 4 body.length ++ body ++ rest) {r : Response}
    {v : PyValue} (hres : Response.new q.token body (codec.decode o) = .ok r)
    (hsq : r.isSequential ql2 = .ok false) (hg : r.getData ql2 = .ok v) :
    runQuery ql2 codec q false conn = .ok () (conn.setClient { conn.transport.client with
      socket := some { s with inbound := rest, sent := s.sent ++ frame } }) := by
  rw [htok] at hcache hres
  rw [runQuery_reply hs hsend hrecv hq ht hlen hin,
    dispatch_reply (by simp [htok]) ho (by simpa using hcache) hres hsq hg, ← htok]
  simp only [withInbound_protocol, setProtocol_protocol, PyDict.erase_set_of_get?_eq_none hwait]
  rfl

end Connection

section Runs

open Connection

variable {ql2 : Ql2} {codec : JsonCodec} {crypto : Crypto}

/-- In every state of a session (from the first connect of a connection made by
    `new_connection` up to its next close or reconnect), on a socket whose kernel takes and
    delivers every byte, a `server()` whose next frame is the reply bearing its own token, with a
    body that decodes into a response that is not a sequence and has data, returns. It has
    advanced the token generator, written its query's frame and read exactly the reply's, and
    changed nothing else: both token maps are as they were. -/
theorem runOps_server_exchange (host : String) (port : Nat) (ssl : Bool) (user password : String)
    (db : Option String) (seed : Nat) (w : Bool) (r : Bytes) (s : NewSocket) (ops : List Op)
    (hops : ∀ op ∈ ops, (∀ w', op ≠ .close w') ∧ ∀ w' r' s', op ≠ .reconnect w' r' s')
    {sock : Socket} {frame body rest : Bytes} {resp : Response} {v : PyValue} :
    let conn := runOps ql2 codec crypto (.reconnect w r s :: ops)
      (Connection.initial host port ssl user password db seed)
    conn.transport.client.socket = some sock → sock.sendPlan = [] → sock.recvPlan = [] →
    (Query.new .SERVER_INFO conn.token.new.1 none none).serialize ql2 codec = .ok frame →
    conn.token.counter < 2 ^ 63 → body.length < 2 ^ 32 →
    sock.inbound = toListLE 8 conn.token.counter ++ toListLE 4 body.length ++ body ++ rest →
    Response.new conn.token.new.1 body (codec.decode .empty) = .ok resp →
    resp.isSequential ql2 = .ok false → resp.getData ql2 = .ok v →
    server ql2 codec conn = .ok () ({ conn with token := conn.token.new.2 }.setClient
      { conn.transport.client with
        socket := some { sock with inbound := rest, sent := sock.sent ++ frame } }) := by
  intro conn hs hsend hrecv hq ht hlen hin hres hsq hg
  obtain ⟨hwait, hcache⟩ :=
    (runOps_session_fresh host port ssl user password db seed w r s hops).next_free
  have hopen : conn.isOpen = true := by simp [isOpen, DefaultClient.isOpen, hs]
  simp only [server, bind, EStateM.bind, checkOpen_of_isOpen hopen, newToken]
  exact @runQuery_exchange ql2 codec { conn with token := conn.token.new.2 } sock hs hsend hrecv _ _
    hq _ rfl ht hwait hcache _ rfl _ _ hlen hin _ _ hres hsq hg

set_option maxRecDepth 2000 in
/-- The handshake's first read times out and leaves the socket open, with the SERVER_INFO reply
    for token `0` waiting: the `server()` that follows reads it and leaves both maps empty. -/
theorem runOps_server_exchange_after_timeout :
    let info : PyValue := .dict [(.str "t", .int 5), (.str "r", .list [.str "rethinkdb"])]
    let reply := toListLE 8 0 ++ toListLE 4 (jsonBytes info).length ++ jsonBytes info
    let conn := runOps Ql2.proto (JsonCodec.over [info]) Crypto.standIn
      [.reconnect false [0, 0, 0] (.opened ⟨reply, [.timeout], [], []⟩)]
      (Connection.initial "localhost" 28015 false "admin" "" none 0)
    ∃ sock frame, conn.transport.client.socket = some sock ∧ sock.inbound = reply ∧
      (Query.new .SERVER_INFO ⟨0⟩ none none).serialize Ql2.proto (JsonCodec.over [info]) =
        .ok frame ∧
      server Ql2.proto (JsonCodec.over [info]) conn = .ok ()
        ({ conn with token := conn.token.new.2 }.setClient
          { conn.transport.client with
            socket := some { sock with inbound := [], sent := sock.sent ++ frame } }) :=
  ⟨_, _, rfl, rfl, rfl, runOps_server_exchange "localhost" 28015 false "admin" "" none 0 false
    [0, 0, 0] _ [] (by simp) rfl rfl rfl rfl (by decide) (by decide) rfl rfl rfl rfl⟩

end Runs

end RethinkDriver

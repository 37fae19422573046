import RethinkDriver.Proofs.CursorEvents
import RethinkDriver.Transport

/-!
# Routing of response frames

`read_response` (`core/net/protocol.py:91-114`) pops `_waiting_respose[token]` before it
looks at `_cursor_cache`. A query sent noreply is never registered, and `resume` and `stop`
send theirs noreply (`connection.py:157-171`), so the reply to a CONTINUE or a STOP finds
its token pending only if something else registered it: otherwise the pop raises
`KeyError` and the cursor is never extended (`dispatch_not_pending`). A first reply that is a
sequence, once a handshake has set the protocol's `ctx`, registers its cursor and then raises
from `print(token, user_data)`, which formats the cursor's unassigned `error`
(`dispatch_new_cursor`).
-/

namespace RethinkDriver

namespace Connection

variable {ql2 : Ql2} {codec : JsonCodec}

theorem popWaiting_not_pending {token : Token} {conn : Connection}
    (h : conn.protocol.waitingRespose.get? token = none) :
    popWaiting token conn = .error (.keyError s!"{token.value}") conn := by
  simp [popWaiting, PyDict.pop_eq_none_iff.mpr h]

/-- A frame whose token is not pending raises `KeyError` from the pop, whatever is cached
    under the token, and changes nothing. -/
theorem dispatch_not_pending {token : Token} {conn : Connection}
    (h : conn.protocol.waitingRespose.get? token = none) (body : Bytes) :
    dispatch ql2 codec token body conn = .error (.keyError s!"{token.value}") conn := by
  simp [dispatch, bind, EStateM.bind, popWaiting_not_pending h]

theorem popWaiting_pending {token : Token} {conn : Connection} {q : Query}
    (h : conn.protocol.waitingRespose.get? token = some q) :
    popWaiting token conn = .ok q (conn.setProtocol
      { conn.protocol with waitingRespose := conn.protocol.waitingRespose.erase token }) := by
  simp [popWaiting, PyDict.pop, h]

/-- A first reply that is a sequence: its pending entry is popped and its cursor registered,
    and then `print(token, user_data)` raises, because the cursor's `error` was never
    assigned. -/
theorem dispatch_new_cursor {token : Token} {conn : Connection} {q : Query} {o : Options}
    {r : Response} {c : Cursor} (body : Bytes)
    (hq : conn.protocol.waitingRespose.get? token = some q) (ho : q.kwargs = some o)
    (hr : Response.new token body (codec.decode o) = .ok r)
    (hc : conn.protocol.cursorCache.get? token = none) (hs : r.isSequential ql2 = .ok true)
    (hctx : conn.protocol.ctx = true) (hnew : Cursor.new ql2 q r = .ok c) :
    dispatch ql2 codec token body conn = .error (.attributeError "error")
      (conn.setProtocol { conn.protocol with
        waitingRespose := conn.protocol.waitingRespose.erase token,
        cursorCache := conn.protocol.cursorCache.set token c }) := by
  simp [dispatch, bind, EStateM.bind, popWaiting_pending hq, ho, hr, cachedCursor, hc, hs, hnew,
    readCtx, hctx, liftPy, modifyProtocol, printCursor, Cursor.new_error_unassigned hs hnew]

/-- `start` on an open connection: the START under the next token, with `start`'s options,
    sent through `run_query`. -/
theorem start_of_isOpen {conn : Connection} (h : conn.isOpen = true) (term : Term)
    (kwargs : Options) :
    start ql2 codec term kwargs conn =
      runQuery ql2 codec
        (.new .START conn.token.new.1 (some term) (some (startOptions ql2 conn.db term kwargs)))
        (((startOptions ql2 conn.db term kwargs).get? "noreply").getD (.bool false)).truthy
        { conn with token := conn.token.new.2 } := by
  simp only [start, bind, EStateM.bind, checkOpen_of_isOpen h, get, getThe, MonadStateOf.get,
    EStateM.get, newToken]

/-- `run_query` of a query awaiting its reply, under a token that is neither pending nor cached,
    once a handshake has set `ctx`, on a socket whose kernel takes and delivers every byte, when
    the next frame is the reply bearing the query's token and it decodes, with the query's
    options, into a sequence: the call writes the query's frame, reads the reply's, caches the
    cursor `Cursor(...)` builds under the token, and raises from `print`. -/
theorem runQuery_first_sequence {conn : Connection} {s : Socket}
    (hs : conn.transport.client.socket = some s) (hsend : s.sendPlan = [])
    (hrecv : s.recvPlan = []) {q : Query} {frame : Bytes} (hq : q.serialize ql2 codec = .ok frame)
    {t : Nat} (htok : q.token = ⟨t⟩) (ht : t < 2 ^ 63)
    (hwait : conn.protocol.waitingRespose.get? q.token = none)
    (hcache : conn.protocol.cursorCache.get? q.token = none) {o : Options} (ho : q.kwargs = some o)
    {body rest : Bytes} (hlen : body.length < 2 ^ 32)
    (hin : s.inbound = toListLE 8 t ++ toListLE 4 body.length ++ body ++ rest) {r : Response}
    (hres : Response.new q.token body (codec.decode o) = .ok r)
    (hsq : r.isSequential ql2 = .ok true) (hctx : conn.protocol.ctx = true) {c : Cursor}
    (hnew : Cursor.new ql2 q r = .ok c) :
    runQuery ql2 codec q false conn = .error (.attributeError "error")
      ((conn.setClient { conn.transport.client with
        socket := some { s with inbound := rest, sent := s.sent ++ frame } }).setProtocol
        { conn.protocol with cursorCache := conn.protocol.cursorCache.set q.token c }) := by
  rw [htok] at hcache hres
  rw [runQuery_reply hs hsend hrecv hq ht hlen hin, dispatch_new_cursor body (by simp [htok]) ho
    hres (by simpa using hcache) hsq (by simpa using hctx) hnew, ← htok]
  simp only [withInbound_protocol, setProtocol_protocol, PyDict.erase_set_of_get?_eq_none hwait]
  rfl

theorem onClient_protocol {α : Type} (f : DefaultClient → Except PyExc α × DefaultClient)
    (conn : Connection) : (resultState (onClient f conn)).protocol = conn.protocol := by
  unfold onClient
  split <;> rfl

/-- A cursor for token `0` is cached and nothing is pending; the server has answered the
    CONTINUE that `resume` sends with `SUCCESS_SEQUENCE [2]`. The next `run_query`, of the
    `server()` that follows, reads that reply: `KeyError` for token `0`, and the cursor is
    not extended. -/
theorem continue_reply_raises_key_error :
    let c : Cursor := ⟨.new .START ⟨0⟩ none none, [.int 1], false, some 1, none, none⟩
    let reply := toListLE 8 0 ++ toListLE 4 15 ++ utf8Encode "\x7b\"t\":2,\"r\":[2]\x7d"
    let conn : Connection := ⟨none, ⟨⟨"localhost", 28015, false, some ⟨reply, [], [], []⟩⟩, false,
      ⟨PyDict.empty.set ⟨0⟩ c, .empty, .new "admin" "", true⟩⟩, ⟨0, 1⟩⟩
    ∃ conn₁ conn₂, resume Ql2.proto (JsonCodec.over []) c conn = .ok () conn₁ ∧
      server Ql2.proto (JsonCodec.over []) conn₁ = .error (.keyError "0") conn₂ ∧
      conn₂.protocol.cursorCache.get? ⟨0⟩ = some c :=
  ⟨_, _, rfl, rfl, rfl⟩

end Connection

end RethinkDriver

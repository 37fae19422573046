import RethinkDriver.Proofs.Frame
import RethinkDriver.Proofs.HandshakeRun
import RethinkDriver.Transport

/-!
# Opening a connection

`DefaultTransport.connect` (`net/default_net/transport.py:74-92`) opens the socket and then
drives the handshake over it. Its one `except` clause re-raises every `ReqlAuthError` as the
`ReqlDriverError` `Server host:port` it causes (`wrapAuthError_of_error`); everything else the
socket or the handshake raises leaves `connect` as it was raised. So `connect` never raises a
`ReqlAuthError`, and a missing field or a bad number in a server message escapes as the
`KeyError` or `ValueError` Python raised (`connect_rejections_unclassified`).

On a socket that takes and delivers every byte, the loop over the socket does what
`HandshakeV1_0.run` does with the three messages the server sends: when `run` accepts them it
sends the requests `run` yields, reads exactly the three messages, and `set_ctx` runs
(`connect_eq_ok_of_run`); when `run` rejects them it raises what `run` raises
(`handshake_onSocket_error`).

Nothing closes the socket when the handshake fails. Only the end of the stream makes
`recvall` drop it (`_client.py:203-205`); a timeout, a reset or a rejected message leaves the
connection open (`connect_opened_error`), and the next `start` writes its frame on a socket
that never authenticated.
-/

namespace RethinkDriver

section PreservesOr

variable {σ α β : Type} {P : σ → Prop} {stop : PyExc}

/-- `m` keeps `P` of the state, unless it raises `stop`. -/
def PreservesOr (P : σ → Prop) (stop : PyExc) (m : EStateM PyExc σ α) : Prop :=
  ∀ s, P s → P (resultState (m s)) ∨ resultOutcome (m s) = .error stop

theorem Preserves.preservesOr {m : EStateM PyExc σ α} (h : Preserves P m) :
    PreservesOr P stop m :=
  fun s hs => .inl (h s hs)

theorem PreservesOr.bind {m : EStateM PyExc σ α} {f : α → EStateM PyExc σ β}
    (hm : PreservesOr P stop m) (hf : ∀ a, PreservesOr P stop (f a)) :
    PreservesOr P stop (m >>= f) := by
  intro s hs
  have h := hm s hs
  show P (resultState (EStateM.bind m f s)) ∨ resultOutcome (EStateM.bind m f s) = .error stop
  cases hms : m s with
  | ok a s' =>
    rw [hms] at h
    simp only [EStateM.bind, hms]
    exact hf a s' (h.resolve_right nofun)
  | error e s' =>
    rw [hms] at h
    simp only [EStateM.bind, hms]
    exact h.imp id fun h => by simpa [resultOutcome] using h

end PreservesOr

namespace DefaultClient

/-- `socket.recv` raising `ECONNRESET`, or returning nothing: `"Connection is closed."`. -/
abbrev closedError : PyExc := reqlDriverError "Connection is closed."

/-- A `recvall` loop drops the socket only on an empty read, which raises. -/
theorem recvLoop_closed {host : String} {port length : Nat} :
    ∀ {plan : List RecvEvent} {inbound res : Bytes} {chunk : Option Bytes},
      (recvLoop host port length plan inbound res chunk).closed = true →
      (recvLoop host port length plan inbound res chunk).result = .error closedError
  | [], inbound, res, chunk, h => by
    unfold recvLoop at h ⊢
    split_ifs at h ⊢
    simp_all
  | e :: plan, inbound, res, chunk, h => by
    unfold recvLoop at h ⊢
    split_ifs at h ⊢
    cases e with
    | deliver k =>
      simp only at h ⊢
      split_ifs at h ⊢
      · rfl
      · exact recvLoop_closed h
    | eintr =>
      cases chunk with
      | some prev => exact recvLoop_closed h
      | none => cases h
    | _ => cases h

theorem recvall_keepsOpen (c : DefaultClient) (length : Nat) (hc : c.isOpen) :
    (c.recvall length).2.isOpen ∨ (c.recvall length).1 = .error closedError := by
  unfold recvall
  cases hs : c.socket with
  | none => simp [isOpen, hs] at hc
  | some s =>
    simp only
    cases hclosed : (recvLoop c.host c.port length s.recvPlan s.inbound [] none).closed
    · simp [isOpen]
    · exact .inr (recvLoop_closed hclosed)

theorem readuntilLoop_keepsOpen (separator : UInt8) :
    ∀ (fuel : Nat) (response : Bytes) (c : DefaultClient), c.isOpen →
      (readuntilLoop separator fuel response c).2.isOpen ∨
        (readuntilLoop separator fuel response c).1 = .error closedError
  | 0, _, _, hc => .inl hc
  | fuel + 1, response, c, hc => by
    have h := recvall_keepsOpen c 1 hc
    unfold readuntilLoop
    split
    · rename_i chunk c' hr
      rw [hr] at h
      have hopen : c'.isOpen := h.resolve_right nofun
      split
      · exact .inl hopen
      · exact readuntilLoop_keepsOpen separator fuel _ c' hopen
    · rename_i e c' hr
      rw [hr] at h
      exact h

theorem readuntil_keepsOpen (c : DefaultClient) (separator : UInt8) (hc : c.isOpen) :
    (c.readuntil separator).2.isOpen ∨ (c.readuntil separator).1 = .error closedError :=
  readuntilLoop_keepsOpen separator _ [] c hc

end DefaultClient

namespace Connection

variable {ql2 : Ql2} {codec : JsonCodec} {crypto : Crypto}

open DefaultClient (closedError)

theorem onClient_keepsOpen {α : Type} {f : DefaultClient → Except PyExc α × DefaultClient}
    (hf : ∀ c, c.isOpen → (f c).2.isOpen ∨ (f c).1 = .error closedError) :
    PreservesOr (fun conn => conn.isOpen) closedError (onClient f) := by
  intro conn hconn
  have h := hf _ hconn
  unfold onClient
  split <;> rename_i hfc <;> rw [hfc] at h <;> simpa [resultState, resultOutcome, isOpen] using h

theorem onHandshake_isOpen {α : Type} (m : EStateM PyExc HandshakeV1_0 α) :
    Preserves (fun conn => conn.isOpen) (onHandshake m) := by
  intro conn hconn
  unfold onHandshake
  split <;> exact hconn

theorem sendRequest_isOpen (request : Bytes) :
    Preserves (fun conn => conn.isOpen) (sendRequest request) := by
  intro conn hconn
  unfold sendRequest
  split
  · exact hconn
  · unfold onClient
    split <;> rename_i hs <;>
      simpa [resultState, isOpen, hs] using (DefaultClient.sendall_isOpen _ request).trans hconn

/-- The handshake drops the socket only when the stream ends under it. -/
theorem handshake_keepsOpen (randomBytes : Bytes) :
    PreservesOr (fun conn => conn.isOpen) closedError
      (handshake ql2 codec crypto randomBytes) := by
  have hread := onClient_keepsOpen fun c hc => DefaultClient.readuntil_keepsOpen c 0 hc
  unfold handshake
  exact (onHandshake_isOpen _).preservesOr.bind fun r0 =>
    (sendRequest_isOpen r0).preservesOr.bind fun _ =>
    hread.bind fun _ => (Preserves.liftPy _).preservesOr.bind fun r1 =>
    (sendRequest_isOpen r1).preservesOr.bind fun _ =>
    hread.bind fun _ => (onHandshake_isOpen _).preservesOr.bind fun r2 =>
    (sendRequest_isOpen r2).preservesOr.bind fun _ =>
    hread.bind fun _ => (onHandshake_isOpen _).preservesOr

/-- `set_ctx` runs only after the handshake returned: an error of `connect` is one of what
    comes before it. -/
theorem error_of_bind_modifyProtocol {m : ConnM Unit} {f : RdbProtocol → RdbProtocol}
    {conn after : Connection} {e : PyExc} (h : (m >>= fun _ => modifyProtocol f) conn = .error e after) :
    m conn = .error e after := by
  rcases EStateM.bind_eq_error h with h | ⟨_, _, -, h⟩
  · exact h
  · cases h

theorem wrapAuthError_error {m : ConnM Unit} {conn after : Connection} {e : PyExc}
    (h : wrapAuthError m conn = .error e after) :
    ∃ e₀, m conn = .error e₀ after ∧
      e = if e₀.isInstance .ReqlAuthError then
        authFailure after.transport.client.host after.transport.client.port e₀ else e₀ := by
  unfold wrapAuthError at h
  cases hm : m conn with
  | ok a s => rw [hm] at h; cases h
  | error e₀ s =>
    rw [hm] at h
    dsimp only at h
    split_ifs at h with hauth <;> cases h
    · exact ⟨_, rfl, by rw [if_pos hauth]⟩
    · exact ⟨_, rfl, by rw [if_neg hauth]⟩

/-! ## A handshake the server completes -/

/-- The connection on the socket `s`, left holding the stream `inbound` and having sent `sent`,
    with the handshake object `h`. -/
def onSocket (conn : Connection) (s : Socket) (h : HandshakeV1_0) (inbound sent : Bytes) :
    Connection :=
  (conn.setClient { conn.transport.client with
    socket := some { s with inbound := inbound, sent := sent } }).setProtocol
    { conn.protocol with handshake := h }

section OnSocket

variable {conn : Connection} {s : Socket} {h : HandshakeV1_0} {inbound sent : Bytes}

theorem onHandshake_onSocket {α : Type} {m : EStateM PyExc HandshakeV1_0 α} {a : α}
    {h' : HandshakeV1_0} (hm : m h = .ok a h') :
    onHandshake m (onSocket conn s h inbound sent) = .ok a (onSocket conn s h' inbound sent) := by
  simp only [onHandshake, onSocket, setProtocol_protocol, hm, setProtocol_setProtocol]

theorem onHandshake_onSocket_error {α : Type} {m : EStateM PyExc HandshakeV1_0 α} {e : PyExc}
    {h' : HandshakeV1_0} (hm : m h = .error e h') :
    onHandshake m (onSocket conn s h inbound sent) = .error e (onSocket conn s h' inbound sent) := by
  simp only [onHandshake, onSocket, setProtocol_protocol, hm, setProtocol_setProtocol]

theorem sendRequest_onSocket (hp : s.sendPlan = []) (r : Bytes) :
    sendRequest r (onSocket conn s h inbound sent) =
      .ok () (onSocket conn s h inbound (sent ++ r)) := by
  unfold sendRequest
  split
  · subst r
    rw [List.append_nil]
    rfl
  · simp only [onClient, onSocket, setProtocol_client, setClient_client,
      DefaultClient.sendall_ready (c := { conn.transport.client with
        socket := some { s with inbound := inbound, sent := sent } }) rfl hp ‹_›]
    rfl

theorem readuntil_onSocket (hp : s.recvPlan = []) {line rest : Bytes} (hline : 0 ∉ line) :
    onClient (·.readuntil 0) (onSocket conn s h (line ++ 0 :: rest) sent) =
      .ok line (onSocket conn s h rest sent) := by
  simp only [onClient, onSocket, setProtocol_client, setClient_client,
    DefaultClient.readuntil_ready (c := { conn.transport.client with
      socket := some { s with inbound := line ++ 0 :: rest, sent := sent } }) rfl hp hline rfl]
  rfl

end OnSocket

/-- The loop of `connect` on a socket whose kernel takes and delivers every byte, on which the
    server sends three `\0`-terminated messages: when `HandshakeV1_0.run` accepts them, the loop
    returns with the handshake object `run` leaves, having read exactly the three messages and
    sent the three requests `run` yields, in order. -/
theorem handshake_onSocket {conn : Connection} {s : Socket} (hsend : s.sendPlan = [])
    (hrecv : s.recvPlan = []) {randomBytes m1 m2 m3 rest sent : Bytes} (h1 : 0 ∉ m1)
    (h2 : 0 ∉ m2) (h3 : 0 ∉ m3) {h₀ h : HandshakeV1_0} {out : List Bytes}
    (hrun : HandshakeV1_0.run ql2 codec crypto randomBytes m1 m2 m3 h₀ = .ok out h) :
    handshake ql2 codec crypto randomBytes
        (onSocket conn s h₀ (m1 ++ 0 :: (m2 ++ 0 :: (m3 ++ 0 :: rest))) sent) =
      .ok () (onSocket conn s h rest (sent ++ out.flatten)) := by
  obtain ⟨_, _, hreset, hrun⟩ := EStateM.bind_eq_ok hrun
  obtain ⟨r0, _, hinit, hrun⟩ := EStateM.bind_eq_ok hrun
  obtain ⟨r1, _, hread, hrun⟩ := EStateM.bind_eq_ok hrun
  obtain ⟨hr1, rfl⟩ := liftPy_eq_ok hread
  obtain ⟨r2, _, hprep, hrun⟩ := EStateM.bind_eq_ok hrun
  obtain ⟨_, _, hauth, hrun⟩ := EStateM.bind_eq_ok hrun
  cases hrun
  have hr0 := (EStateM.bind_of_eq_ok
    (f := fun _ => HandshakeV1_0.initializeConnection ql2 codec crypto randomBytes) hreset).trans hinit
  simp only [handshake, EStateM.bind_of_eq_ok (onHandshake_onSocket hr0),
    EStateM.bind_of_eq_ok (sendRequest_onSocket hsend _),
    EStateM.bind_of_eq_ok (readuntil_onSocket hrecv h1), hr1,
    EStateM.bind_of_eq_ok (liftPy_ok (σ := Connection) r1 _),
    EStateM.bind_of_eq_ok (readuntil_onSocket hrecv h2),
    EStateM.bind_of_eq_ok (onHandshake_onSocket hprep),
    EStateM.bind_of_eq_ok (readuntil_onSocket hrecv h3), onHandshake_onSocket hauth]
  simp

/-- The same loop, when `HandshakeV1_0.run` rejects the three messages: the loop raises what
    `run` raises, on the same socket. -/
theorem handshake_onSocket_error {conn : Connection} {s : Socket} (hsend : s.sendPlan = [])
    (hrecv : s.recvPlan = []) {randomBytes m1 m2 m3 rest sent : Bytes} (h1 : 0 ∉ m1)
    (h2 : 0 ∉ m2) (h3 : 0 ∉ m3) {h₀ h' : HandshakeV1_0} {e : PyExc}
    (hrun : HandshakeV1_0.run ql2 codec crypto randomBytes m1 m2 m3 h₀ = .error e h') :
    ∃ h inbound sent', handshake ql2 codec crypto randomBytes
        (onSocket conn s h₀ (m1 ++ 0 :: (m2 ++ 0 :: (m3 ++ 0 :: rest))) sent) =
      .error e (onSocket conn s h inbound sent') := by
  obtain hreset | ⟨_, _, hreset, hrun⟩ := EStateM.bind_eq_error hrun
  · cases hreset
  have hstart := EStateM.bind_of_eq_ok
    (f := fun _ => HandshakeV1_0.initializeConnection ql2 codec crypto randomBytes) hreset
  obtain hinit | ⟨r0, _, hinit, hrun⟩ := EStateM.bind_eq_error hrun
  case inl =>
    exact ⟨_, _, _, EStateM.bind_of_eq_error (onHandshake_onSocket_error (hstart.trans hinit))⟩
  simp only [handshake, EStateM.bind_of_eq_ok (onHandshake_onSocket (hstart.trans hinit)),
    EStateM.bind_of_eq_ok (sendRequest_onSocket hsend _),
    EStateM.bind_of_eq_ok (readuntil_onSocket hrecv h1)]
  obtain hread | ⟨r1, _, hread, hrun⟩ := EStateM.bind_eq_error hrun
  case inl =>
    obtain ⟨hr1, rfl⟩ := liftPy_eq_error hread
    exact ⟨_, _, _, EStateM.bind_of_eq_error (by rw [hr1]; rfl)⟩
  obtain ⟨hr1, rfl⟩ := liftPy_eq_ok hread
  simp only [hr1, EStateM.bind_of_eq_ok (liftPy_ok (σ := Connection) r1 _),
    EStateM.bind_of_eq_ok (sendRequest_onSocket hsend _),
    EStateM.bind_of_eq_ok (readuntil_onSocket hrecv h2)]
  obtain hprep | ⟨r2, _, hprep, hrun⟩ := EStateM.bind_eq_error hrun
  case inl => exact ⟨_, _, _, EStateM.bind_of_eq_error (onHandshake_onSocket_error hprep)⟩
  obtain hauth | ⟨_, _, -, hrun⟩ := EStateM.bind_eq_error hrun
  case inl =>
    simp only [EStateM.bind_of_eq_ok (onHandshake_onSocket hprep),
      EStateM.bind_of_eq_ok (sendRequest_onSocket hsend _),
      EStateM.bind_of_eq_ok (readuntil_onSocket hrecv h3)]
    exact ⟨_, _, _, onHandshake_onSocket_error hauth⟩
  cases hrun

theorem wrapAuthError_of_error {m : ConnM Unit} {conn after : Connection} {e : PyExc}
    (h : m conn = .error e after) :
    wrapAuthError m conn = .error (if e.isInstance .ReqlAuthError then
      authFailure after.transport.client.host after.transport.client.port e else e) after := by
  simp only [wrapAuthError, h]
  split_ifs <;> rfl

theorem wrapAuthError_ok {m : ConnM Unit} {conn after : Connection} (h : m conn = .ok () after) :
    wrapAuthError m conn = .ok () after := by
  simp only [wrapAuthError, h]

/-- A `connect` whose socket opens, whose kernel takes and delivers every byte, and whose server
    sends three `\0`-terminated messages that `HandshakeV1_0.run` accepts: it returns having
    sent the three requests and consumed the three messages, with `run`'s handshake object and
    the `ctx` slot assigned. -/
theorem connect_eq_ok_of_run {conn : Connection} {s : Socket} (hsend : s.sendPlan = [])
    (hrecv : s.recvPlan = []) {randomBytes m1 m2 m3 rest : Bytes} (h1 : 0 ∉ m1) (h2 : 0 ∉ m2)
    (h3 : 0 ∉ m3) (hin : s.inbound = m1 ++ 0 :: (m2 ++ 0 :: (m3 ++ 0 :: rest)))
    {h : HandshakeV1_0} {out : List Bytes}
    (hrun : HandshakeV1_0.run ql2 codec crypto randomBytes m1 m2 m3 conn.protocol.handshake =
      .ok out h) :
    connect ql2 codec crypto randomBytes (.opened s) conn = .ok ()
      ((conn.setClient { conn.transport.client with
        socket := some { s with inbound := rest, sent := s.sent ++ out.flatten } }).setProtocol
        { conn.protocol with handshake := h, ctx := true }) := by
  have hopen : onClient (·.connect (.opened s)) conn =
      .ok () (onSocket conn s conn.protocol.handshake s.inbound s.sent) := rfl
  rw [hin] at hopen
  simp only [connect, EStateM.bind_of_eq_ok hopen,
    EStateM.bind_of_eq_ok (wrapAuthError_ok (handshake_onSocket hsend hrecv h1 h2 h3 hrun))]
  rfl

/-- A socket on which the server sends `docs`, each `\0`-terminated, and which accepts every
    send. -/
def serverSends (docs : List PyValue) : Socket :=
  ⟨(docs.map fun d => jsonBytes d ++ [0]).flatten, [], [], []⟩

/-- The server's rejection of a wrong password: `error_code` `12`. -/
def wrongPassword : PyValue :=
  .dict [(.str "success", .bool false), (.str "error_code", .int 12),
    (.str "error", .str "Wrong password")]

set_option maxRecDepth 2000 in
/-- A wrong password (`error_code` `12`) reaches the caller as a `ReqlDriverError`, and a first
    message without `min_protocol_version` as a `KeyError`. -/
theorem connect_rejections_unclassified :
    let conn : Connection := Connection.initial "localhost" 28015 false "admin" "" none 0
    let unversioned : PyValue := .dict [(.str "success", .bool true)]
    (∃ after, connect Ql2.proto (JsonCodec.over [wrongPassword]) Crypto.standIn [0, 0, 0]
        (.opened (serverSends [wrongPassword])) conn =
      .error (authFailure "localhost" 28015 (reqlAuthError "Wrong password")) after) ∧
    ∃ after, connect Ql2.proto (JsonCodec.over [unversioned]) Crypto.standIn [0, 0, 0]
        (.opened (serverSends [unversioned])) conn =
      .error (.keyError "min_protocol_version") after :=
  ⟨⟨_, rfl⟩, _, rfl⟩

/-- A `connect` that opens the socket and then fails leaves it open, unless the stream ended
    under the handshake. -/
theorem connect_opened_error {randomBytes : Bytes} {s : Socket} {conn after : Connection}
    {e : PyExc} (h : connect ql2 codec crypto randomBytes (.opened s) conn = .error e after) :
    after.isOpen ∨ e = closedError := by
  rcases EStateM.bind_eq_error h with hc | ⟨_, conn₁, hc, hw⟩
  · cases hc
  · have h₁ : conn₁.isOpen = true := by cases hc; rfl
    obtain ⟨e₀, hm, rfl⟩ := wrapAuthError_error (error_of_bind_modifyProtocol hw)
    have hopen := @handshake_keepsOpen ql2 codec crypto randomBytes conn₁ h₁
    rw [hm] at hopen
    rcases hopen with hopen | hclosed
    · exact .inl hopen
    · cases hclosed
      exact .inr rfl

set_option maxRecDepth 2000 in
/-- The handshake's first read times out: `reconnect` raises `ReqlTimeoutError` and leaves the
    socket open, and the `start` that follows writes its START frame on it. -/
theorem start_after_failed_handshake_writes_frame :
    let conn : Connection := Connection.initial "localhost" 28015 false "admin" "" none 0
    let codec := JsonCodec.over []
    let term : Term := ⟨.list [.int 15, .list [.str "users"]], false⟩
    let kwargs : Options := PyDict.empty.set "noreply" (.bool true)
    ∃ conn₁ conn₂ frame sent,
      reconnect Ql2.proto codec Crypto.standIn false [0, 0, 0]
          (.opened ⟨[], [.timeout], [], []⟩) conn =
        .error (reqlTimeoutError "localhost" 28015) conn₁ ∧
      conn₁.isOpen = true ∧ conn₁.transport.client.socket.map Socket.sent = some sent ∧
      start Ql2.proto codec term kwargs conn₁ = .ok () conn₂ ∧
      (Query.new .START ⟨0⟩ (some term) (some kwargs)).serialize Ql2.proto codec = .ok frame ∧
      conn₂.transport.client.socket.map Socket.sent = some (sent ++ frame) :=
  ⟨_, _, _, _, rfl, rfl, rfl, rfl, rfl, rfl⟩

end Connection

end RethinkDriver

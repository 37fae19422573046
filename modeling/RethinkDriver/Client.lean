import RethinkDriver.Bytes

/-!
# The blocking socket client

`net/default_net/_client.py`: `DefaultClient` wraps one socket and turns its failures into
driver errors through the `ErrProc` context managers.

The socket is the environment. `Socket.inbound` is everything the server sends from now
until it closes the connection, `recvPlan` and `sendPlan` are the kernel's answers to the
next `recv` and `send` calls (a short read, `EINTR`, a timeout, a reset), and `sent` is
what the kernel has accepted so far. Once a plan is used up, `recv` returns everything
it is asked for while the stream lasts and `send` accepts the whole buffer. Every
behaviour of a real socket over finitely many calls is a choice of these fields, so a
statement over every `Socket` is a statement over every such behaviour.

Timeouts come from the plan: the deadline arithmetic of `recvall` and the
`settimeout` calls around `recv` only decide when the kernel answers with a timeout.
-/

namespace RethinkDriver

/-- The kernel's answer to one `sock.recv(n)`. -/
inductive RecvEvent where
  /-- Up to `k` bytes of the stream; none at all means the peer closed it. -/
  | deliver (k : Nat)
  | eintr
  | timeout
  | reset
  | wouldBlock
  /-- Any other `OSError`, by its text. -/
  | error (message : String)
  deriving DecidableEq, Repr

/-- The kernel's answer to one `sock.send(buf)`. -/
inductive SendEvent where
  /-- The first `k` bytes of `buf` are accepted. -/
  | accept (k : Nat)
  | eintr
  | reset
  | error (message : String)
  deriving DecidableEq, Repr

/-- A connected socket and what the peer and the kernel will do with it. -/
structure Socket where
  inbound : Bytes
  recvPlan : List RecvEvent
  sendPlan : List SendEvent
  sent : Bytes
  deriving DecidableEq, Repr

/-- `DefaultClient` (`_client.py:120-129`): `socket` is `__socket`, `none` when closed;
    `ssl` is whether `ca_certs` was configured. -/
structure DefaultClient where
  host : String
  port : Nat
  ssl : Bool
  socket : Option Socket
  deriving DecidableEq, Repr

/-- How `new_socket` (and, with `ca_certs`, `wrap_socket`) answered a `connect`. -/
inductive NewSocket where
  | opened (s : Socket)
  /-- The TCP connection was made and the TLS wrap raised. -/
  | tlsFailed (s : Socket) (message : String)
  | timeout
  | failed (message : String)

namespace DefaultClient

/-- `DefaultClient.is_open` (`_client.py:147-151`). -/
def isOpen (c : DefaultClient) : Bool := c.socket.isSome

/-- `DefaultClient.close` (`_client.py:162-172`): `shutdown` and `close` errors are only
    logged, and the socket is dropped. -/
def close (c : DefaultClient) : DefaultClient := { c with socket := none }

/-- The message `except_socket_err` (`_client.py:25-44`) gives the `ReqlDriverError` it raises
    from an `IOError` of the TLS wrap: a longer one when the error's text points at an old
    OpenSSL. -/
def sslFailure (m : String) : String :=
  if decide ("EOF occurred in violation of protocol".toList <:+: m.toList) ||
      decide ("sslv3 alert handshake failure".toList <:+: m.toList) then
    "SSL handshake failed, likely because Python is linked against an old version of OpenSSL " ++
    "that does not support either TLSv1.2 or any of the allowed ciphers. This can be worked " ++
    "around by lowering the security setting on the server with the options " ++
    "`--tls-min-protocol TLSv1 --tls-ciphers " ++
    "EECDH+AESGCM:EDH+AESGCM:AES256+EECDH:AES256+EDH:AES256-SHA` (see server log for more " ++
    s!"information): {m}"
  else s!"SSL handshake failed (see server log for more information): {m}"

/-- `DefaultClient.connect` (`_client.py:153-160`). `__socket` is assigned only once
    `new_socket` returns, and the TLS wrap replaces it only when it succeeds. -/
def connect (c : DefaultClient) : NewSocket → Except PyExc Unit × DefaultClient
  | .opened s => (.ok (), { c with socket := some s })
  | .tlsFailed s m =>
    if c.ssl then (.error (reqlDriverError (sslFailure m)), { c with socket := some s })
    else (.ok (), { c with socket := some s })
  | .timeout => (.error (reqlTimeoutError c.host c.port), c)
  | .failed m => (.error (reqlDriverError s!"Could not connect to {c.host}:{c.port}. Error: {m}"), c)

/-- How a `recvall` loop ended: its result, what is left of the stream and of the plan, and
    whether it closed the socket. -/
structure RecvEnd where
  result : Except PyExc Bytes
  inbound : Bytes
  plan : List RecvEvent
  closed : Bool

/-- The `while` loop of `recvall` (`_client.py:197-207`) with `res` read so far and `chunk`
    the last value assigned to it. `except_recv_err` (`_client.py:66-92`) turns a timeout or
    `EWOULDBLOCK` into `ReqlTimeoutError`, a reset or an empty read into
    `"Connection is closed."`, and swallows `EINTR`, after which the loop body goes on with the
    previous iteration's `chunk`. -/
def recvLoop (host : String) (port : Nat) (length : Nat) :
    List RecvEvent → Bytes → Bytes → Option Bytes → RecvEnd
  | [], inbound, res, _ =>
    if length ≤ res.length then ⟨.ok res, inbound, [], false⟩
    else if length - res.length ≤ inbound.length then
      ⟨.ok (res ++ inbound.take (length - res.length)), inbound.drop (length - res.length), [],
        false⟩
    else ⟨.error (reqlDriverError "Connection is closed."), [], [], true⟩
  | e :: plan, inbound, res, chunk =>
    if length ≤ res.length then ⟨.ok res, inbound, e :: plan, false⟩
    else match e with
    | .deliver k =>
      let got := inbound.take (min k (length - res.length))
      if got = [] then ⟨.error (reqlDriverError "Connection is closed."), inbound, plan, true⟩
      else recvLoop host port length plan (inbound.drop got.length) (res ++ got) (some got)
    | .eintr =>
      match chunk with
      | some prev => recvLoop host port length plan inbound (res ++ prev) chunk
      | none => ⟨.error (.unboundLocalError "chunk"), inbound, plan, false⟩
    | .timeout | .wouldBlock => ⟨.error (reqlTimeoutError host port), inbound, plan, false⟩
    | .reset => ⟨.error (reqlDriverError "Connection is closed."), inbound, plan, false⟩
    | .error m =>
      ⟨.error (reqlDriverError s!"Connection interrupted receiving from {host}:{port} - {m}"),
        inbound, plan, false⟩

/-- `DefaultClient.recvall` (`_client.py:190-207`). On a closed client `self.sock` raises
    `RuntimeError` inside `except_recv_err`, which reports it as a driver error. -/
def recvall (c : DefaultClient) (length : Nat) : Except PyExc Bytes × DefaultClient :=
  match c.socket with
  | none =>
    if length = 0 then (.ok [], c)
    else (.error (reqlDriverError
      s!"Error receiving from {c.host}:{c.port} - Socket is not initialized."), c)
  | some s =>
    let r := recvLoop c.host c.port length s.recvPlan s.inbound [] none
    (r.result, { c with socket :=
      if r.closed then none else some { s with inbound := r.inbound, recvPlan := r.plan } })

/-- The loop of `readuntil` (`_client.py:174-188`): `recvall(1)` until it returns the
    separator. Each round that returns consumes a byte of the stream, so `fuel` at the
    stream's length plus one is never exhausted. -/
def readuntilLoop (separator : UInt8) : Nat → Bytes → DefaultClient →
    Except PyExc Bytes × DefaultClient
  | 0, response, c => (.ok response, c)
  | fuel + 1, response, c =>
    match c.recvall 1 with
    | (.ok chunk, c') =>
      if chunk = [separator] then (.ok response, c')
      else readuntilLoop separator fuel (response ++ chunk) c'
    | (.error e, c') => (.error e, c')

/-- `DefaultClient.readuntil(separator)` (`_client.py:174-188`). -/
def readuntil (c : DefaultClient) (separator : UInt8) : Except PyExc Bytes × DefaultClient :=
  readuntilLoop separator ((c.socket.map fun s => s.inbound.length).getD 0 + 1) [] c

/-- The `while` loop of `sendall` (`_client.py:213-217`) at `offset`. `except_send_err`
    (`_client.py:94-110`) swallows `EINTR`, leaving `offset` as it was. -/
def sendLoop (host : String) (port : Nat) (data : Bytes) :
    List SendEvent → Nat → Bytes → Except PyExc Unit × List SendEvent × Bytes
  | [], offset, sent =>
    if offset < data.length then (.ok (), [], sent ++ data.drop offset) else (.ok (), [], sent)
  | e :: plan, offset, sent =>
    if data.length ≤ offset then (.ok (), e :: plan, sent)
    else match e with
    | .accept k =>
      let n := min k (data.length - offset)
      sendLoop host port data plan (offset + n) (sent ++ (data.drop offset).take n)
    | .eintr => sendLoop host port data plan offset sent
    | .reset => (.error (reqlDriverError "Connection is closed."), plan, sent)
    | .error m =>
      (.error (reqlDriverError s!"Connection interrupted sending to {host}:{port} - {m}"), plan,
        sent)

/-- `DefaultClient.sendall` (`_client.py:209-217`). On a closed client `self.sock` raises
    `RuntimeError`, which `except_send_err` reports as a driver error. -/
def sendall (c : DefaultClient) (data : Bytes) : Except PyExc Unit × DefaultClient :=
  match c.socket with
  | none =>
    if data = [] then (.ok (), c)
    else (.error (reqlDriverError s!"Error sending to {c.host}:{c.port} - Socket is not initialized."),
      c)
  | some s =>
    let r := sendLoop c.host c.port data s.sendPlan 0 s.sent
    (r.1, { c with socket := some { s with sendPlan := r.2.1, sent := r.2.2 } })

@[simp] theorem isOpen_close (c : DefaultClient) : c.close.isOpen = false := rfl

@[simp] theorem close_socket (c : DefaultClient) : c.close.socket = none := rfl

/-- A send never closes the client: it is open afterwards exactly when it was before. -/
@[simp] theorem sendall_isOpen (c : DefaultClient) (data : Bytes) :
    (c.sendall data).2.isOpen = c.isOpen := by
  unfold sendall
  split
  · split <;> rfl
  · simp_all [isOpen]

end DefaultClient

end RethinkDriver

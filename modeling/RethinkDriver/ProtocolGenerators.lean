import RethinkDriver.Transport
import RethinkDriver.Generator

/-!
# The protocol's generators and the loops that drive them

`HandshakeV1_0.run` (`core/net/handshake.py:139-144`) and `RdbProtocol.read_response`
(`core/net/protocol.py:82-114`) as generators on the connection, and the loops of
`DefaultTransport.connect` and `DefaultTransport.run_query`
(`net/default_net/transport.py:82-87`, `transport.py:121-124`) that drive them through
`IterableGenerator`.

`Connection.handshake` and `Connection.readFrame` followed by `Connection.dispatch` are
these loops with the generator stepped by hand.
-/

namespace RethinkDriver

/-- The `yield`s of `HandshakeV1_0.run`. -/
inductive HandshakeFrame where
  /-- `init_response = yield self.__initialize_connection()`. -/
  | initialized
  /-- `auth_response1 = yield self.__read_response(init_response)`. -/
  | versionRead
  /-- `auth_response2 = yield self.__prepare_auth_request(auth_response1)`. -/
  | authPrepared

/-- The `yield`s of `read_response`. -/
inductive ReadFrame where
  /-- `header_buff = yield self.HEADER_SIZE`. -/
  | headerAsked
  /-- `body_buff = yield cast(int, length)`, for the token of the header. -/
  | bodyAsked (token : Token)

namespace Connection

variable (ql2 : Ql2) (codec : JsonCodec) (crypto : Crypto)

/-- `HandshakeV1_0.run` (`handshake.py:139-144`) on the connection's handshake object, with
    `randomBytes` for the nonce. The three methods it resumes into decode the reply first,
    so a `None` sent in raises `AttributeError` there. -/
def handshakeRun (randomBytes : Bytes) : GenCode Connection HandshakeFrame Bytes Bytes where
  start := do
    let r0 ← onHandshake (do
      modify HandshakeV1_0.reset
      HandshakeV1_0.initializeConnection ql2 codec crypto randomBytes)
    pure (.yielded r0 .initialized)
  resume
    | _, none => throw (.attributeError "decode")
    | .initialized, some m1 => do
      let r1 ← liftPy (HandshakeV1_0.readResponse codec m1)
      pure (.yielded r1 .versionRead)
    | .versionRead, some m2 => do
      let r2 ← onHandshake (HandshakeV1_0.prepareAuthRequest codec crypto m2)
      pure (.yielded r2 .authPrepared)
    | .authPrepared, some m3 => do
      onHandshake (HandshakeV1_0.readAuthResponse codec crypto m3)
      pure .returned

/-- The loop of `DefaultTransport.connect` (`transport.py:82-87`) over `new_handshake()`:
    each request is sent unless it is empty, and the next `\0`-terminated message is sent
    back in. -/
def connectLoop (randomBytes : Bytes) (fuel : Nat) : ConnM Bool :=
  IterableGenerator.drive (handshakeRun ql2 codec crypto randomBytes)
    (fun request => do
      sendRequest request
      onClient (·.readuntil 0))
    fuel

/-- `read_response` (`protocol.py:82-114`). A `None` sent in for the header makes
    `struct.unpack` raise `TypeError`; one sent in for the body is handed to `Response` once
    the query is popped and its options unpacked, and `Response` calls `decode` on it. -/
def readResponse : GenCode Connection ReadFrame Nat Bytes where
  start := pure (.yielded 12 .headerAsked)
  resume
    | .headerAsked, none => throw .typeError
    | .headerAsked, some header => do
      let (tokenInt, length) ← liftPy (unpackqL header)
      pure (.yielded length (.bodyAsked ⟨tokenInt⟩))
    | .bodyAsked token, none => do
      let processedQuery ← popWaiting token
      if processedQuery.kwargs.isNone then throw .typeError
      throw (.attributeError "decode")
    | .bodyAsked token, some body => do
      dispatch ql2 codec token body
      pure .returned

/-- The loop of `DefaultTransport.run_query` (`transport.py:121-124`) over
    `IterableGenerator(protocol.read_response())`: each length asked for is read with
    `recvall`. -/
def responseLoop (fuel : Nat) : ConnM Bool :=
  IterableGenerator.drive (readResponse ql2 codec) (fun length => onClient (·.recvall length)) fuel

end Connection

end RethinkDriver

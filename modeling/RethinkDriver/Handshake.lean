import RethinkDriver.Msg

/-!
# The SCRAM-SHA-256 handshake

`core/net/handshake.py:93-309`: `HandshakeV1_0`, the generator that authenticates a new
connection. `run` yields the version word with the client-first-message, reads the server's
version range, answers the server-first-message with the client proof, and checks the
server's signature.

The digest and encoding functions come from `hashlib`, `hmac` and `base64` and are a
parameter `Crypto`; the 18 random bytes of `SystemRandom` are an argument of `run`. The
object's fields are mutated as `run` proceeds, so each step is an `EStateM` over the
handshake object: `_server_signature`, set while answering the second message, is what
the third is checked against.
-/

namespace RethinkDriver

/-- The standard-library functions the handshake calls. `pbkdf2` is
    `hashlib.pbkdf2_hmac("sha256", password, salt, iterations)`, which raises on a bad
    iteration count; `b64decode` is `base64.standard_b64decode`, which raises on bad
    padding. -/
structure Crypto where
  /-- `hmac.new(key, msg, digestmod=hashlib.sha256).digest()`. -/
  hmac : Bytes → Bytes → Bytes
  /-- `hashlib.sha256(x).digest()`. -/
  sha256 : Bytes → Bytes
  pbkdf2 : Bytes → Bytes → Int → Except PyExc Bytes
  /-- `base64.b64encode`, equal to `standard_b64encode`. -/
  b64encode : Bytes → Bytes
  b64decode : Bytes → Except PyExc Bytes

/-- The state of a `HandshakeV1_0` object (`handshake.py:106-114`): `username` is
    `__username`, already escaped by `__init__`. -/
structure HandshakeV1_0 where
  username : String
  password : String
  randomNonce : Bytes
  firstClientMessage : Bytes
  serverSignature : Bytes
  deriving DecidableEq, Repr

/-- `s.replace(c, r)` for a one-character pattern `c`. -/
def replaceChar (c : Char) (r : String) (s : List Char) : List Char :=
  s.flatMap fun x => if x = c then r.toList else [x]

/-- The escaping of `HandshakeV1_0.__init__` (`handshake.py:117`):
    `username.replace("=", "=3D").replace(",", "=2C")`. -/
def escapeUsername (username : String) : String :=
  String.mk (replaceChar ',' "=2C" (replaceChar '=' "=3D" username.toList))

/-- `str.encode("ascii")` called on a decoded JSON value: only a `str` has the method. -/
def PyValue.encodeAscii : PyValue → Except PyExc Bytes
  | .str s => asciiEncode s.toList
  | _ => .error (.attributeError "encode")

/-- `key, value = part.split(b"=", 1)` (`handshake.py:167`): unpacking fails when there is no
    `=`. -/
def splitAttribute (part : Bytes) : Except PyExc (Bytes × Bytes) :=
  match part.span (· ≠ 61) with
  | (key, _ :: value) => .ok (key, value)
  | (_, []) => .error (.valueError "not enough values to unpack (expected 2, got 1)")

/-- `d[key]` on the attribute dictionary. -/
def authItem (d : PyDict Bytes Bytes) (key : String) : Except PyExc Bytes :=
  match d.get? (utf8Encode key) with
  | some v => .ok v
  | none => .error (.keyError s!"b'{key}'")

/-- `struct.pack("32B", *(l ^ r for l, r in zip(struct.unpack("32B", a),
    struct.unpack("32B", b))))` (`handshake.py:270-279`). -/
def xor32 (a b : Bytes) : Except PyExc Bytes :=
  if a.length = 32 ∧ b.length = 32 then .ok (List.zipWith (· ^^^ ·) a b) else .error .structError

namespace HandshakeV1_0

variable (ql2 : Ql2) (codec : JsonCodec) (crypto : Crypto)

/-- `HandshakeV1_0(username, password)` (`handshake.py:116-123`). -/
def new (username password : String) : HandshakeV1_0 :=
  ⟨escapeUsername username, password, [], [], []⟩

/-- `HandshakeV1_0.reset` (`handshake.py:131-137`). -/
def reset (h : HandshakeV1_0) : HandshakeV1_0 :=
  { h with randomNonce := [], firstClientMessage := [], serverSignature := [] }

/-- `__get_authentication_message` (`handshake.py:158-170`): the `key=value` attributes of the
    `authentication` field, split at `,`; a later key overwrites an earlier one. -/
def getAuthenticationMessage (response : PyValue) : Except PyExc (PyDict Bytes Bytes) := do
  let field ← response.getItem "authentication"
  let raw ← field.encodeAscii
  (raw.splitOn 44).foldlM (fun message part => do
    let (key, value) ← splitAttribute part
    pure (message.set key value)) .empty

/-- `__decode_json_response` (`handshake.py:172-186`): a message that does not report
    `success` raises `ReqlAuthError` for an `error_code` in `10..20` and `ReqlDriverError`
    otherwise. -/
def decodeJsonResponse (response : Bytes) : Except PyExc PyValue := do
  let json ← codec.decode .empty response
  let success ← json.get "success"
  if success.truthy then pure json
  else do
    let code ← (← json.getItem "error_code").toInt
    let error ← json.getItem "error"
    throw (if 10 ≤ code ∧ code ≤ 20 then reqlAuthError error.toStr
      else .reql .ReqlDriverError error.toStr)

/-- `__initialize_connection` (`handshake.py:188-215`) with `randomBytes` the 18 bytes drawn
    from `SystemRandom`: the version word, the JSON with the client-first-message, and `\0`. -/
def initializeConnection (randomBytes : Bytes) : EStateM PyExc HandshakeV1_0 Bytes := do
  modify fun h => { h with randomNonce := crypto.b64encode randomBytes }
  let h ← get
  let first ← liftPy (chainToBytes [.str "n=", .str h.username, .str ",r=", .bytes h.randomNonce])
  modify fun h => { h with firstClientMessage := first }
  let version ← liftPy (packL ql2.V1_0)
  let authentication ← liftPy (chainToBytes [.str "n,,", .bytes first] >>= asciiDecode)
  let json ← liftPy (codec.encode (.dict [(.str "protocol_version", .int 0),
    (.str "authentication_method", .str "SCRAM-SHA-256"),
    (.str "authentication", .str (String.mk authentication))]))
  liftPy (chainToBytes [.bytes version, .bytes (utf8Encode json), .bytes [0]])

/-- `__read_response` (`handshake.py:217-235`): the server's protocol range must contain the
    client's `protocol_version`, `0`; the next request is empty. -/
def readResponse (response : Bytes) : Except PyExc Bytes := do
  let json ← decodeJsonResponse codec response
  let lo ← (← json.getItem "min_protocol_version").toInt
  let hi ← (← json.getItem "max_protocol_version").toInt
  if lo ≤ 0 ∧ 0 ≤ hi then pure []
  else throw (reqlDriverError s!"Unsupported protocol version 0, expected between {lo} and {hi}")

/-- `__prepare_auth_request` (`handshake.py:237-294`): check the server nonce, derive the
    keys, remember the server signature, and send the client proof. -/
def prepareAuthRequest (response : Bytes) : EStateM PyExc HandshakeV1_0 Bytes := do
  let json ← liftPy (decodeJsonResponse codec response)
  let serverFirst ← liftPy (json.getItem "authentication" >>= PyValue.encodeAscii)
  let authentication ← liftPy (getAuthenticationMessage json)
  let randomNonce ← liftPy (authItem authentication "r")
  let h ← get
  raiseUnless (h.randomNonce.isPrefixOf randomNonce) (reqlAuthError "Invalid nonce from server")
  let salt ← liftPy (authItem authentication "s" >>= crypto.b64decode)
  let iterations ← liftPy (authItem authentication "i" >>= fun i => (PyValue.bytes i).toInt)
  let salted ← liftPy (crypto.pbkdf2 (utf8Encode h.password) salt iterations)
  let messageWithoutProof ← liftPy (chainToBytes [.str "c=biws,r=", .bytes randomNonce])
  let authMessage := h.firstClientMessage ++ [44] ++ serverFirst ++ [44] ++ messageWithoutProof
  let serverSignature := crypto.hmac (crypto.hmac salted (utf8Encode "Server Key")) authMessage
  modify fun h => { h with serverSignature }
  let clientKey := crypto.hmac salted (utf8Encode "Client Key")
  let clientSignature := crypto.hmac (crypto.sha256 clientKey) authMessage
  let clientProof ← liftPy (xor32 clientKey clientSignature)
  let proofText ← liftPy (chainToBytes [.bytes messageWithoutProof, .str ",p=",
    .bytes (crypto.b64encode clientProof)] >>= asciiDecode)
  let json ← liftPy (codec.encode (.dict [(.str "authentication", .str (String.mk proofText))]))
  liftPy (chainToBytes [.str json, .bytes [0]])

/-- `__read_auth_response` (`handshake.py:296-309`): the server's `v` must be the signature
    computed in `prepareAuthRequest` (`hmac.compare_digest`). -/
def readAuthResponse (response : Bytes) : EStateM PyExc HandshakeV1_0 Unit := do
  let json ← liftPy (decodeJsonResponse codec response)
  let authentication ← liftPy (getAuthenticationMessage json)
  let signature ← liftPy (authItem authentication "v" >>= crypto.b64decode)
  let h ← get
  raiseUnless (signature = h.serverSignature) (reqlAuthError "Invalid server signature")

/-- `HandshakeV1_0.run` (`handshake.py:139-144`) driven to its end with the server messages
    `m1`, `m2`, `m3`: the three requests it yields. -/
def run (randomBytes m1 m2 m3 : Bytes) : EStateM PyExc HandshakeV1_0 (List Bytes) := do
  modify reset
  let r0 ← initializeConnection ql2 codec crypto randomBytes
  let r1 ← liftPy (readResponse codec m1)
  let r2 ← prepareAuthRequest codec crypto m2
  readAuthResponse codec crypto m3
  pure [r0, r1, r2]

end HandshakeV1_0

end RethinkDriver

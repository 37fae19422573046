import RethinkDriver.Proofs.Codecs

/-!
# The handshake agrees with an RFC 5802 server

`HandshakeV1_0.run` (`core/net/handshake.py:139-309`) is the client half of SCRAM-SHA-256.
This module writes the server half as RFC 5802 §3 and §5 prescribe, reading the bytes the
client actually sends: the client-first-message-bare is the decoded `authentication` field
after the gs2 header `n,,`, the user is looked up under the decoded `n=` name, and the
client-final-message-without-proof is the final `authentication` field before its last `,`.

`run_agrees_with_server`: for a user name of ASCII characters, every password, salt,
iteration count and server nonce, the proof the client sends verifies at the server, the
client accepts the server's signature, and `run` completes. It rests on the JSON codec
reading back the flat objects it writes and on `b64decode` inverting `b64encode`
(`JsonCodec.RoundTrips`, `Crypto.Sound`); the reference codec and the stand-in digest meet
both. The driver encodes the name as Latin-1 and decodes the message as ASCII
(`handshake.py:198-209`), so a name with a character outside ASCII raises before anything is
sent (`run_rejects_non_ascii_username`).
-/

namespace RethinkDriver

namespace ScramServer

/-- Modelled from the spec: what an RFC 5802 server stores for a user (§3, §5.1): the salt and
    iteration count it announces, `StoredKey := H(ClientKey)` and `ServerKey`. -/
structure Account where
  salt : Bytes
  iterations : Int
  storedKey : Bytes
  serverKey : Bytes

/-- Modelled from the spec: the account of a user with `password` (RFC 5802 §3):
    `SaltedPassword := Hi(password, salt, i)`, `ClientKey := HMAC(SaltedPassword, "Client Key")`,
    `StoredKey := H(ClientKey)` and `ServerKey := HMAC(SaltedPassword, "Server Key")`. -/
def Account.derive (crypto : Crypto) (password : String) (salt : Bytes) (iterations : Int) :
    Except PyExc Account := do
  let salted ← crypto.pbkdf2 (utf8Encode password) salt iterations
  pure ⟨salt, iterations, crypto.sha256 (crypto.hmac salted (utf8Encode "Client Key")),
    crypto.hmac salted (utf8Encode "Server Key")⟩

/-- Modelled from the spec: what the server keeps between its two answers: the account, the
    client-first-message-bare, the server-first-message and the nonce of the exchange. -/
structure Session where
  account : Account
  clientFirstBare : Bytes
  serverFirst : Bytes
  nonce : Bytes

/-- Modelled from the spec: the attributes `a=value,…` of a SCRAM message (RFC 5802 §5.1), each
    named by one letter. -/
def attrText (attrs : List (UInt8 × Bytes)) : Bytes :=
  [44].intercalate (attrs.map fun a => a.1 :: 61 :: a.2)

/-- Modelled from the spec: `saslname` decoding (RFC 5802 §5.1): `=2C` stands for `,` and `=3D`
    for `=`; any other `=` is malformed. -/
def unescapeName : Bytes → Option Bytes
  | [] => some []
  | 61 :: 50 :: 67 :: rest => (unescapeName rest).map (44 :: ·)
  | 61 :: 51 :: 68 :: rest => (unescapeName rest).map (61 :: ·)
  | 61 :: _ => none
  | x :: rest => (unescapeName rest).map (x :: ·)

/-- Modelled from the spec: `client-first-message = gs2-header client-first-message-bare`
    (RFC 5802 §7) with the header `n,,` and the bare message `n=saslname,r=c-nonce`: the bare
    message, the name and the nonce. -/
def parseClientFirst : Bytes → Option (Bytes × Bytes × Bytes)
  | 110 :: 44 :: 44 :: bare => match bare.splitOn 44 with
    | [110 :: 61 :: name, 114 :: 61 :: cnonce] => some (bare, name, cnonce)
    | _ => none
  | _ => none

/-- Modelled from the spec: `client-final-message = client-final-message-without-proof ","
    proof` (RFC 5802 §7), split at the last `,`. -/
def splitProof (msg : Bytes) : Option (Bytes × Bytes) :=
  match msg.reverse.span (· ≠ 44) with
  | (proof, _ :: withoutProof) => some (withoutProof.reverse, proof.reverse)
  | (_, []) => none

/-- Modelled from the spec: the `authentication` field of a JSON request, as ASCII bytes. -/
def authentication (codec : JsonCodec) (body : Bytes) : Option Bytes :=
  match codec.decode .empty body >>= fun doc => doc.getItem "authentication" with
  | .ok (.str s) => (asciiEncode s.data).toOption
  | _ => none

/-- Modelled from the spec: the bytes of a JSON answer with the members `fields`. -/
def reply (codec : JsonCodec) (fields : List (String × PyValue)) : Option Bytes :=
  (codec.encode (dictOf fields)).toOption.map utf8Encode

/-- Modelled from the spec: the server's protocol range, which admits version `0` only. -/
def versionReply : List (String × PyValue) :=
  [("success", .bool true), ("min_protocol_version", .int 0), ("max_protocol_version", .int 0)]

/-- Modelled from the spec: a successful answer carrying a SCRAM message. -/
def authReply (text : Bytes) : List (String × PyValue) :=
  [("success", .bool true), ("authentication", .str (String.mk (latin1Decode text)))]

/-- Modelled from the spec: `server-first-message = nonce "," salt "," iteration-count`
    (RFC 5802 §7), that is `r=c-nonce s-nonce,s=base64(salt),i=count`. -/
def serverFirstMessage (crypto : Crypto) (nonce : Bytes) (account : Account) : Bytes :=
  attrText [(114, nonce), (115, crypto.b64encode account.salt),
    (105, asciiBytes (toString account.iterations).data)]

/-- Modelled from the spec: the server's answers to the client's first request (the version
    word, the JSON with the client-first-message, and `\0`): its protocol range, then the
    server-first-message for the user the request names, whose nonce extends the client's
    with `suffix`. -/
def first (ql2 : Ql2) (codec : JsonCodec) (crypto : Crypto) (users : Bytes → Option Account)
    (suffix request : Bytes) : Option (Session × Bytes × Bytes) := do
  guard (request.take 4 = toListLE 4 ql2.V1_0 ∧ request.getLast? = some 0)
  let text ← authentication codec (request.drop 4).dropLast
  let (bare, name, cnonce) ← parseClientFirst text
  let account ← unescapeName name >>= users
  let serverFirst := serverFirstMessage crypto (cnonce ++ suffix) account
  let m1 ← reply codec versionReply
  let m2 ← reply codec (authReply serverFirst)
  pure (⟨account, bare, serverFirst, cnonce ++ suffix⟩, m1, m2)

/-- Modelled from the spec: the server's answer to the client-final-message (RFC 5802 §3, §7):
    it checks the channel binding `c=biws` and the nonce, verifies
    `H(ClientProof XOR HMAC(StoredKey, AuthMessage)) = StoredKey`, and answers with
    `v=base64(HMAC(ServerKey, AuthMessage))`. -/
def final (codec : JsonCodec) (crypto : Crypto) (session : Session) (request : Bytes) :
    Option Bytes := do
  guard (request.getLast? = some 0)
  let text ← authentication codec request.dropLast
  let (withoutProof, proofAttr) ← splitProof text
  guard (withoutProof = asciiBytes "c=biws,r=".toList ++ session.nonce)
  let proof ← match proofAttr with
    | 112 :: 61 :: proof => (crypto.b64decode proof).toOption
    | _ => none
  let authMessage := session.clientFirstBare ++ [44] ++ session.serverFirst ++ [44] ++ withoutProof
  let clientKey ← (xor32 proof (crypto.hmac session.account.storedKey authMessage)).toOption
  guard (crypto.sha256 clientKey = session.account.storedKey)
  reply codec (authReply
    (attrText [(118, crypto.b64encode (crypto.hmac session.account.serverKey authMessage))]))

/-! ## Attribute text -/

@[simp] theorem attrText_singleton (a : UInt8 × Bytes) : attrText [a] = a.1 :: 61 :: a.2 := by
  simp [attrText, List.intercalate]

@[simp] theorem attrText_cons_cons (a b : UInt8 × Bytes) (attrs : List (UInt8 × Bytes)) :
    attrText (a :: b :: attrs) = a.1 :: 61 :: a.2 ++ 44 :: attrText (b :: attrs) := by
  simp [attrText, List.intercalate]

theorem attrText_ascii : ∀ {attrs : List (UInt8 × Bytes)},
    (∀ a ∈ attrs, a.1.toNat < 128 ∧ IsAsciiBytes a.2) → IsAsciiBytes (attrText attrs)
  | [], _ => by decide
  | [a], h => by
    have ha := h a (.head _)
    simp only [IsAsciiBytes, attrText_singleton, List.forall_mem_cons]
    exact ⟨ha.1, by decide, ha.2⟩
  | a :: b :: attrs, h => by
    have ha := h a (.head _)
    have hrest := @attrText_ascii (b :: attrs) fun x hx => h x (.tail _ hx)
    simp only [IsAsciiBytes, attrText_cons_cons, List.forall_mem_cons, List.forall_mem_append]
    exact ⟨⟨ha.1, by decide, ha.2⟩, by decide, hrest⟩

theorem splitOn_attrText {attrs : List (UInt8 × Bytes)} (hne : attrs ≠ [])
    (h : ∀ a ∈ attrs, a.1 ≠ 44 ∧ 44 ∉ a.2) :
    (attrText attrs).splitOn 44 = attrs.map fun a => a.1 :: 61 :: a.2 := by
  refine List.splitOn_intercalate _ _ ?_ (by simpa using hne)
  simp only [List.mem_map]
  rintro _ ⟨a, ha, rfl⟩ hmem
  rcases List.mem_cons.mp hmem with h44 | hmem
  · exact (h a ha).1 h44.symm
  · rcases List.mem_cons.mp hmem with h44 | hmem
    · exact absurd h44 (by decide)
    · exact (h a ha).2 hmem

theorem authItem_r (r s i : Bytes) : authItem ([((114 : UInt8), r), (115, s), (105, i)].foldl
    (fun d a => d.set [a.1] a.2) .empty) "r" = .ok r := by
  simp [authItem, show utf8Encode "r" = [114] from rfl]

theorem authItem_s (r s i : Bytes) : authItem ([((114 : UInt8), r), (115, s), (105, i)].foldl
    (fun d a => d.set [a.1] a.2) .empty) "s" = .ok s := by
  simp [authItem, show utf8Encode "s" = [115] from rfl]

theorem authItem_i (r s i : Bytes) : authItem ([((114 : UInt8), r), (115, s), (105, i)].foldl
    (fun d a => d.set [a.1] a.2) .empty) "i" = .ok i := by
  simp [authItem, show utf8Encode "i" = [105] from rfl]

theorem authItem_v (v : Bytes) :
    authItem ([((118 : UInt8), v)].foldl (fun d a => d.set [a.1] a.2) .empty) "v" = .ok v := by
  simp [authItem, show utf8Encode "v" = [118] from rfl]

theorem splitAttribute_attr {k : UInt8} (hk : k ≠ 61) (v : Bytes) :
    splitAttribute (k :: 61 :: v) = .ok ([k], v) := by
  simp [splitAttribute, List.span_eq_take_drop, hk]

/-- The client reads the attributes of a SCRAM message into its dictionary, each under its
    one-letter key. -/
theorem getAuthenticationMessage_attrText {json : PyValue} {attrs : List (UInt8 × Bytes)}
    (hjson : json.getItem "authentication" = .ok (.str (String.mk (latin1Decode (attrText attrs)))))
    (hne : attrs ≠ [])
    (h : ∀ a ∈ attrs, a.1.toNat < 128 ∧ a.1 ≠ 44 ∧ a.1 ≠ 61 ∧ IsAttrValue a.2) :
    HandshakeV1_0.getAuthenticationMessage json =
      .ok (attrs.foldl (fun d a => d.set [a.1] a.2) .empty) := by
  have hascii := attrText_ascii fun a ha => ⟨(h a ha).1, (h a ha).2.2.2.1⟩
  have hsplit := splitOn_attrText hne fun a ha => ⟨(h a ha).2.1, (h a ha).2.2.2.2⟩
  simp only [HandshakeV1_0.getAuthenticationMessage, hjson, bind, Except.bind, PyValue.encodeAscii,
    String.toList,
    asciiEncode_latin1Decode hascii, hsplit]
  clear hjson hne hascii hsplit
  generalize (PyDict.empty : PyDict Bytes Bytes) = d
  induction attrs generalizing d with
  | nil => rfl
  | cons a attrs ih =>
    simp only [List.map_cons, List.foldlM_cons, List.foldl_cons,
      splitAttribute_attr (h a (.head _)).2.2.1]
    exact ih (fun x hx => h x (.tail _ hx)) _

theorem parseClientFirst_attrText {name cnonce : Bytes} (hname : 44 ∉ name)
    (hcnonce : 44 ∉ cnonce) :
    parseClientFirst ([110, 44, 44] ++ attrText [(110, name), (114, cnonce)]) =
      some (attrText [(110, name), (114, cnonce)], name, cnonce) := by
  have hsplit := @splitOn_attrText [(110, name), (114, cnonce)] (by simp) (by
    simp only [List.mem_cons, List.mem_singleton, List.not_mem_nil, or_false, forall_eq_or_imp,
      forall_eq]
    exact ⟨⟨by decide, hname⟩, by decide, hcnonce⟩)
  simp only [List.cons_append, List.nil_append, parseClientFirst, hsplit, List.map]

/-! ## Names -/

/-- `username.replace("=", "=3D").replace(",", "=2C")` escapes each character on its own. -/
theorem replaceChar_escape (cs : List Char) :
    replaceChar ',' "=2C" (replaceChar '=' "=3D" cs) = cs.flatMap fun c =>
      if c = '=' then ['=', '3', 'D'] else if c = ',' then ['=', '2', 'C'] else [c] := by
  induction cs with
  | nil => rfl
  | cons c cs ih =>
    simp only [replaceChar, List.flatMap_cons, List.flatMap_append] at ih ⊢
    rw [ih]
    split_ifs <;> simp_all

/-- The server decodes the name the client escaped. -/
theorem unescapeName_escape {cs : List Char} (h : IsAscii cs) :
    unescapeName (asciiBytes (replaceChar ',' "=2C" (replaceChar '=' "=3D" cs))) =
      some (asciiBytes cs) := by
  rw [replaceChar_escape]
  induction cs with
  | nil => rfl
  | cons c cs ih =>
    have hc := h c (.head _)
    have ih := ih fun d hd => h d (.tail _ hd)
    rw [List.flatMap_cons, asciiBytes_append]
    split_ifs with h1 h2
    · subst h1
      show unescapeName (61 :: 51 :: 68 :: asciiBytes (cs.flatMap _)) = some (61 :: _)
      rw [unescapeName.eq_3, ih]
      rfl
    · subst h2
      show unescapeName (61 :: 50 :: 67 :: asciiBytes (cs.flatMap _)) = some (44 :: _)
      rw [unescapeName.eq_2, ih]
      rfl
    · have hb : UInt8.ofNat c.toNat ≠ 61 := asciiByte_ne hc h1 (by decide)
      show unescapeName (_ :: asciiBytes (cs.flatMap _)) = some (_ :: _)
      rw [unescapeName.eq_5 _ _ (fun _ h => absurd h hb) (fun _ h => absurd h hb) hb, ih]
      rfl

/-- The escaped name is ASCII text without a `,`. -/
theorem escape_attrValue {cs : List Char} (h : IsAscii cs) :
    IsAscii (replaceChar ',' "=2C" (replaceChar '=' "=3D" cs)) ∧
      44 ∉ asciiBytes (replaceChar ',' "=2C" (replaceChar '=' "=3D" cs)) := by
  rw [replaceChar_escape]
  induction cs with
  | nil => exact ⟨by decide, by decide⟩
  | cons c cs ih =>
    have hc := h c (.head _)
    obtain ⟨iha, ihc⟩ := ih fun d hd => h d (.tail _ hd)
    rw [List.flatMap_cons, asciiBytes_append]
    refine ⟨IsAscii.append ?_ iha, fun hm => (List.mem_append.mp hm).elim ?_ ihc⟩
    · split_ifs
      · decide
      · decide
      · exact fun d hd => (List.mem_singleton.mp hd) ▸ hc
    · split_ifs with h1 h2
      · decide
      · decide
      · exact fun hm => asciiByte_ne hc h2 (by decide) (List.mem_singleton.mp hm).symm

theorem splitProof_append {withoutProof proof : Bytes} (h : 44 ∉ proof) :
    splitProof (withoutProof ++ 44 :: proof) = some (withoutProof, proof) := by
  have hp : ∀ x ∈ proof.reverse, decide (x ≠ 44) = true := fun x hx =>
    decide_eq_true fun heq => h (heq ▸ List.mem_reverse.mp hx)
  simp only [splitProof, List.reverse_append, List.reverse_cons, List.append_assoc,
    List.singleton_append, List.span_eq_take_drop, List.takeWhile_append_of_pos hp,
    List.dropWhile_append_of_pos hp]
  simp

/-! ## JSON messages -/

theorem authentication_eq {codec : JsonCodec} {body text : Bytes}
    {fields : List (String × PyValue)} (hdec : codec.decode .empty body = .ok (dictOf fields))
    (hget : (dictOf fields).getItem "authentication" =
      .ok (.str (String.mk (latin1Decode text))))
    (htext : IsAsciiBytes text) : authentication codec body = some text := by
  simp only [authentication, hdec, bind, Except.bind, hget, asciiEncode_latin1Decode htext]
  rfl

theorem versionReply_flat : FlatDoc versionReply :=
  .cons (by decide) trivial (by decide) <| .cons (by decide) le_rfl (by decide) <|
    .cons (by decide) le_rfl (by decide) .nil

theorem serverFirstMessage_ascii {crypto : Crypto} (hcrypto : crypto.Sound) {nonce : Bytes}
    (hnonce : IsAsciiBytes nonce) (account : Account) :
    IsAsciiBytes (serverFirstMessage crypto nonce account) := by
  refine attrText_ascii ?_
  simp only [List.mem_cons, List.mem_singleton, List.not_mem_nil, or_false, forall_eq_or_imp,
    forall_eq]
  exact ⟨⟨by decide, hnonce⟩, ⟨by decide, (hcrypto.b64encode_attrValue _).1⟩, by decide,
    (toString_attrValue _).1⟩

theorem authReply_flat {text : Bytes} (h : IsAsciiBytes text) : FlatDoc (authReply text) :=
  .cons (by decide) trivial (by simp) <| .cons (by decide) (latin1Decode_ascii h) (by simp) .nil

end ScramServer

namespace HandshakeV1_0

/-! ## The client's side, step by step -/

/-- The client-first-message-bare `n=name,r=nonce` for the escaped name `name`. -/
def clientFirstBare (name : String) (nonce : Bytes) : Bytes :=
  ScramServer.attrText [(110, asciiBytes name.data), (114, nonce)]

/-- The members of the client's first JSON request (`handshake.py:204-210`), whose
    `authentication` is `text`. -/
def firstRequest (text : Bytes) : List (String × PyValue) :=
  [("protocol_version", .int 0), ("authentication_method", .str "SCRAM-SHA-256"),
    ("authentication", .str (String.mk (latin1Decode text)))]

/-- `ClientProof := ClientKey XOR ClientSignature` with `ClientKey := HMAC(SaltedPassword,
    "Client Key")` and `ClientSignature := HMAC(H(ClientKey), AuthMessage)` (RFC 5802 §3,
    `handshake.py:264-279`). -/
def clientProof (crypto : Crypto) (salted authMessage : Bytes) : Bytes :=
  let clientKey := crypto.hmac salted (utf8Encode "Client Key")
  List.zipWith (· ^^^ ·) clientKey (crypto.hmac (crypto.sha256 clientKey) authMessage)

/-- The members of the client's final JSON request (`handshake.py:281-291`). -/
def finalRequest (text : Bytes) : List (String × PyValue) :=
  [("authentication", .str (String.mk (latin1Decode text)))]

theorem clientFirstBare_ascii {name : String} {nonce : Bytes} (hname : IsAscii name.data)
    (hnonce : IsAsciiBytes nonce) : IsAsciiBytes (clientFirstBare name nonce) := by
  refine ScramServer.attrText_ascii ?_
  simp only [List.mem_cons, List.mem_singleton, List.not_mem_nil, or_false, forall_eq_or_imp,
    forall_eq]
  exact ⟨⟨by decide, asciiBytes_ascii hname⟩, by decide, hnonce⟩

theorem firstRequest_flat {text : Bytes} (h : IsAsciiBytes text) : FlatDoc (firstRequest text) :=
  .cons (by decide) le_rfl (by simp) <|
    .cons (by decide) (show IsAscii "SCRAM-SHA-256".data by decide) (by simp) <|
    .cons (by decide) (latin1Decode_ascii h) (by simp) .nil

theorem finalRequest_flat {text : Bytes} (h : IsAsciiBytes text) : FlatDoc (finalRequest text) :=
  .cons (by decide) (latin1Decode_ascii h) (by simp) .nil

theorem chainToBytes_bytes (b : Bytes) (parts : List StrOrBytes) :
    chainToBytes (.bytes b :: parts) = (chainToBytes parts).map (b ++ ·) := by
  rw [chainToBytes]

theorem chainToBytes_nil : chainToBytes [] = .ok [] := by
  rw [chainToBytes]

theorem chainToBytes_str {s : String} (h : IsAscii s.data) (parts : List StrOrBytes) :
    chainToBytes (.str s :: parts) = (chainToBytes parts).map (asciiBytes s.toList ++ ·) := by
  simp only [chainToBytes, @latin1Encode_ascii s.toList h, bind, Except.bind]
  cases chainToBytes parts <;> rfl

theorem chainToBytes_final (withoutProof p : Bytes) :
    chainToBytes [.bytes withoutProof, .str ",p=", .bytes p] =
      .ok (withoutProof ++ [44, 112, 61] ++ p) := by
  simp only [chainToBytes_bytes, chainToBytes_str (by decide : IsAscii ",p=".data),
    chainToBytes_nil, Except.map, List.append_nil, List.append_assoc]
  rfl

variable {ql2 : Ql2} {codec : JsonCodec} {crypto : Crypto}

theorem xor32_hmac (hcrypto : crypto.Sound) (k m k' m' : Bytes) :
    xor32 (crypto.hmac k m) (crypto.hmac k' m') =
      .ok (List.zipWith (· ^^^ ·) (crypto.hmac k m) (crypto.hmac k' m')) := by
  simp [xor32, hcrypto.hmac_length]

theorem asciiDecode_final (hcrypto : crypto.Sound) {withoutProof : Bytes}
    (h : IsAsciiBytes withoutProof) (p : Bytes) :
    asciiDecode (withoutProof ++ [44, 112, 61] ++ crypto.b64encode p) =
      .ok (latin1Decode (withoutProof ++ [44, 112, 61] ++ crypto.b64encode p)) :=
  asciiDecode_ascii ((h.append (by decide)).append (hcrypto.b64encode_attrValue p).1)

theorem initializeConnection_ok {randomBytes : Bytes} {h : HandshakeV1_0} {json : String}
    (hversion : ql2.V1_0 < 2 ^ 32) (hname : IsAscii h.username.data)
    (hnonce : IsAsciiBytes (crypto.b64encode randomBytes))
    (hjson : codec.encode (dictOf (firstRequest
      ([110, 44, 44] ++ clientFirstBare h.username (crypto.b64encode randomBytes)))) = .ok json) :
    initializeConnection ql2 codec crypto randomBytes h =
      .ok (toListLE 4 ql2.V1_0 ++ utf8Encode json ++ [0]) { h with
        randomNonce := crypto.b64encode randomBytes,
        firstClientMessage := clientFirstBare h.username (crypto.b64encode randomBytes) } := by
  have hbare := clientFirstBare_ascii hname hnonce
  have hfirst : chainToBytes [.str "n=", .str h.username, .str ",r=",
      .bytes (crypto.b64encode randomBytes)] =
      .ok (clientFirstBare h.username (crypto.b64encode randomBytes)) := by
    simp only [chainToBytes_str (by decide : IsAscii "n=".data), chainToBytes_str hname,
      chainToBytes_str (by decide : IsAscii ",r=".data), chainToBytes_bytes, chainToBytes_nil]
    simp [clientFirstBare, Except.map]
    rfl
  have hauth : (chainToBytes [.str "n,,", .bytes (clientFirstBare h.username
      (crypto.b64encode randomBytes))]).bind asciiDecode = .ok (latin1Decode ([110, 44, 44] ++
      clientFirstBare h.username (crypto.b64encode randomBytes))) := by
    simp only [chainToBytes_str (by decide : IsAscii "n,,".data), chainToBytes_bytes,
      chainToBytes_nil, Except.map, List.append_nil]
    exact asciiDecode_ascii ((by decide : IsAsciiBytes [110, 44, 44]).append hbare)
  simp only [dictOf, firstRequest, List.map] at hjson
  simp only [initializeConnection, bind, EStateM.bind, get, getThe, MonadStateOf.get, EStateM.get,
    modify, modifyGet, MonadStateOf.modifyGet, EStateM.modifyGet, liftPy, hfirst, hauth, packL,
    hversion, if_true, hjson, chainToBytes_bytes, chainToBytes_nil, Except.map, List.append_nil,
    List.append_assoc]

theorem decodeJsonResponse_ok {m : Bytes} {fields : List (String × PyValue)}
    (h : codec.decode .empty m = .ok (dictOf (("success", .bool true) :: fields))) :
    decodeJsonResponse codec m = .ok (dictOf (("success", .bool true) :: fields)) := by
  simp only [decodeJsonResponse, h, bind, Except.bind]
  rfl

theorem readResponse_ok {m : Bytes} (h : codec.decode .empty m = .ok (dictOf ScramServer.versionReply)) :
    readResponse codec m = .ok [] := by
  simp only [readResponse, decodeJsonResponse_ok h, bind, Except.bind]
  rfl

theorem prepareAuthRequest_ok {m2 r salt salted sf : Bytes} {i : Int} {h : HandshakeV1_0}
    {json : String} (hcrypto : crypto.Sound)
    (hsf : sf = ScramServer.attrText [(114, r), (115, crypto.b64encode salt),
      (105, asciiBytes (toString i).data)])
    (hdec : codec.decode .empty m2 = .ok (dictOf (ScramServer.authReply sf)))
    (hr : IsAttrValue r) (hnonce : h.randomNonce.isPrefixOf r)
    (hsalted : crypto.pbkdf2 (utf8Encode h.password) salt i = .ok salted)
    (hjson : codec.encode (dictOf (finalRequest (asciiBytes "c=biws,r=".toList ++ r ++ [44, 112, 61] ++
      crypto.b64encode (clientProof crypto salted (h.firstClientMessage ++ [44] ++ sf ++ [44] ++
        (asciiBytes "c=biws,r=".toList ++ r)))))) = .ok json)
    (hascii : IsAscii json.data) :
    prepareAuthRequest codec crypto m2 h = .ok (utf8Encode json ++ [0]) { h with
      serverSignature := crypto.hmac (crypto.hmac salted (utf8Encode "Server Key"))
        (h.firstClientMessage ++ [44] ++ sf ++ [44] ++ (asciiBytes "c=biws,r=".toList ++ r)) } := by
  subst hsf
  have hattrs : ∀ a ∈ [((114 : UInt8), r), (115, crypto.b64encode salt),
      (105, asciiBytes (toString i).data)], a.1.toNat < 128 ∧ a.1 ≠ 44 ∧ a.1 ≠ 61 ∧ IsAttrValue a.2 := by
    simp only [List.mem_cons, List.mem_singleton, List.not_mem_nil, or_false, forall_eq_or_imp,
      forall_eq]
    exact ⟨⟨by decide, by decide, by decide, hr⟩,
      ⟨by decide, by decide, by decide, hcrypto.b64encode_attrValue salt⟩,
      by decide, by decide, by decide, toString_attrValue i⟩
  have hsf := ScramServer.attrText_ascii fun a ha => ⟨(hattrs a ha).1, (hattrs a ha).2.2.2.1⟩
  have hmsg := @ScramServer.getAuthenticationMessage_attrText (dictOf (ScramServer.authReply _)) _
    rfl (by simp) hattrs
  have hj : decodeJsonResponse codec m2 = .ok (dictOf (ScramServer.authReply _)) :=
    decodeJsonResponse_ok hdec
  have hget : (dictOf (ScramServer.authReply (ScramServer.attrText [(114, r),
      (115, crypto.b64encode salt), (105, asciiBytes (toString i).data)]))).getItem
      "authentication" = .ok (.str ⟨latin1Decode (ScramServer.attrText [(114, r),
      (115, crypto.b64encode salt), (105, asciiBytes (toString i).data)])⟩) := rfl
  have hint : (PyValue.bytes (asciiBytes (toString i).data)).toInt = .ok i := by
    rw [PyValue.toInt, show List.map _ _ = latin1Decode _ from rfl,
      latin1Decode_asciiBytes (toString_ascii i),
      parseIntLiteral_toString]
  have hwp : chainToBytes [.str "c=biws,r=", .bytes r] = .ok (asciiBytes "c=biws,r=".toList ++ r) := by
    simp only [chainToBytes_str (by decide : IsAscii "c=biws,r=".toList), chainToBytes_bytes,
      chainToBytes_nil, Except.map, List.append_nil]
  have hwpA : IsAsciiBytes (asciiBytes "c=biws,r=".toList ++ r) :=
    (asciiBytes_ascii (by decide)).append hr.1
  simp only [dictOf, finalRequest, List.map, clientProof] at hjson
  have hend : chainToBytes [.str json, .bytes [0]] = .ok (utf8Encode json ++ [0]) := by
    simp only [chainToBytes_str hascii, chainToBytes_bytes, chainToBytes_nil, Except.map,
      utf8Encode_ascii hascii]
    rfl
  have hsfA : asciiEncode (String.mk (latin1Decode (ScramServer.attrText [(114, r),
      (115, crypto.b64encode salt), (105, asciiBytes (toString i).data)]))).toList =
      .ok (ScramServer.attrText [(114, r), (115, crypto.b64encode salt),
        (105, asciiBytes (toString i).data)]) := asciiEncode_latin1Decode hsf
  simp only [prepareAuthRequest, bind, EStateM.bind, get, getThe, MonadStateOf.get, EStateM.get,
    modify, modifyGet, MonadStateOf.modifyGet, EStateM.modifyGet, liftPy, Except.bind,
    hj, hget, PyValue.encodeAscii, hsfA, hmsg,
    hcrypto.b64decode_b64encode, hint, hsalted, hwp, raiseUnless, hnonce, ScramServer.authItem_r,
    ScramServer.authItem_s, ScramServer.authItem_i, if_true, xor32_hmac hcrypto, chainToBytes_final,
    asciiDecode_final hcrypto hwpA, hjson, hend]

theorem readAuthResponse_ok {m3 : Bytes} {h : HandshakeV1_0} (hcrypto : crypto.Sound)
    (hdec : codec.decode .empty m3 = .ok (dictOf (ScramServer.authReply
      (ScramServer.attrText [(118, crypto.b64encode h.serverSignature)])))) :
    readAuthResponse codec crypto m3 h = .ok () h := by
  have hattrs : ∀ a ∈ [((118 : UInt8), crypto.b64encode h.serverSignature)],
      a.1.toNat < 128 ∧ a.1 ≠ 44 ∧ a.1 ≠ 61 ∧ IsAttrValue a.2 := by
    simp only [List.mem_singleton, forall_eq]
    exact ⟨by decide, by decide, by decide, hcrypto.b64encode_attrValue _⟩
  have hmsg := @ScramServer.getAuthenticationMessage_attrText (dictOf (ScramServer.authReply _)) _
    rfl (by simp) hattrs
  have hj : decodeJsonResponse codec m3 = .ok (dictOf (ScramServer.authReply _)) :=
    decodeJsonResponse_ok hdec
  simp only [readAuthResponse, bind, EStateM.bind, get, getThe, MonadStateOf.get, EStateM.get,
    liftPy, Except.bind, hj, hmsg, ScramServer.authItem_v, hcrypto.b64decode_b64encode,
    raiseUnless, decide_True, if_true]

/-- A run is its four steps: the first request, the version check, the proof, and the
    signature check. -/
theorem run_ok {randomBytes m₁ m₂ m₃ r₀ r₂ : Bytes} {h₀ h₁ h₂ : HandshakeV1_0}
    (hinit : initializeConnection ql2 codec crypto randomBytes (reset h₀) = .ok r₀ h₁)
    (hversion : readResponse codec m₁ = .ok [])
    (hprepare : prepareAuthRequest codec crypto m₂ h₁ = .ok r₂ h₂)
    (hread : readAuthResponse codec crypto m₃ h₂ = .ok () h₂) :
    run ql2 codec crypto randomBytes m₁ m₂ m₃ h₀ = .ok [r₀, [], r₂] h₂ := by
  simp only [run, bind, EStateM.bind, modify, modifyGet, MonadStateOf.modifyGet,
    EStateM.modifyGet, hinit, liftPy, hversion, hprepare, hread, pure, EStateM.pure]

end HandshakeV1_0

namespace ScramServer

/-! ## The server's side, step by step -/

theorem xor_xor_cancel (x y : UInt8) : x ^^^ y ^^^ y = x := by
  apply UInt8.ext
  show (x.toBitVec ^^^ y.toBitVec ^^^ y.toBitVec).toNat = x.toBitVec.toNat
  rw [BitVec.xor_assoc, BitVec.xor_self, BitVec.xor_zero]

/-- XOR with the same bytes twice gives back the first (`ClientKey := ClientProof XOR
    ClientSignature`, RFC 5802 §3). -/
theorem zipWith_xor_cancel : ∀ {a b : Bytes}, a.length = b.length →
    List.zipWith (· ^^^ ·) (List.zipWith (· ^^^ ·) a b) b = a
  | [], _, _ => rfl
  | _ :: _, [], h => absurd h (by simp)
  | x :: a, y :: b, h => by
    simp only [List.zipWith_cons_cons, xor_xor_cancel, zipWith_xor_cancel (Nat.succ.inj h)]

variable {ql2 : Ql2} {codec : JsonCodec} {crypto : Crypto}

theorem first_ok {users : Bytes → Option Account} {suffix nonce : Bytes} {name : String}
    {json₀ json₁ json₂ : String} {account : Account}
    (hname : IsAscii name.data ∧ 44 ∉ asciiBytes name.data) (hnonce : IsAttrValue nonce)
    (hdec : codec.decode .empty (utf8Encode json₀) = .ok (dictOf (HandshakeV1_0.firstRequest
      ([110, 44, 44] ++ HandshakeV1_0.clientFirstBare name nonce))))
    (haccount : (unescapeName (asciiBytes name.data)).bind users = some account)
    (henc₁ : codec.encode (dictOf versionReply) = .ok json₁)
    (henc₂ : codec.encode (dictOf (authReply (serverFirstMessage crypto (nonce ++ suffix) account))) =
      .ok json₂) :
    first ql2 codec crypto users suffix (toListLE 4 ql2.V1_0 ++ utf8Encode json₀ ++ [0]) =
      some (⟨account, HandshakeV1_0.clientFirstBare name nonce,
        serverFirstMessage crypto (nonce ++ suffix) account, nonce ++ suffix⟩,
        utf8Encode json₁, utf8Encode json₂) := by
  have hauth := authentication_eq hdec rfl
    ((by decide : IsAsciiBytes [110, 44, 44]).append
      (HandshakeV1_0.clientFirstBare_ascii hname.1 hnonce.1))
  have hparse : parseClientFirst ([110, 44, 44] ++ HandshakeV1_0.clientFirstBare name nonce) =
      some (HandshakeV1_0.clientFirstBare name nonce, asciiBytes name.data, nonce) :=
    parseClientFirst_attrText hname.2 hnonce.2
  have hreq : toListLE 4 ql2.V1_0 ++ utf8Encode json₀ ++ [0] =
      toListLE 4 ql2.V1_0 ++ (utf8Encode json₀ ++ [0]) := List.append_assoc _ _ _
  simp only [first, hreq, List.take_left' (length_toListLE 4 _), List.drop_left' (length_toListLE 4 _),
    List.getLast?_append, List.dropLast_concat, hauth, hparse, haccount, reply, henc₁, henc₂,
    List.getLast?_singleton, Option.or_some, true_and, guard, if_true, Option.bind_eq_bind,
    Option.some_bind, Except.toOption, Option.map_some']
  rfl

theorem final_ok (hcrypto : crypto.Sound) {session : Session} {salted : Bytes}
    {json₃ json₄ : String}
    (hstored : session.account.storedKey = crypto.sha256 (crypto.hmac salted (utf8Encode "Client Key")))
    (hnonce : IsAsciiBytes session.nonce)
    (hdec : codec.decode .empty (utf8Encode json₃) = .ok (dictOf (HandshakeV1_0.finalRequest
      (asciiBytes "c=biws,r=".toList ++ session.nonce ++ [44, 112, 61] ++
        crypto.b64encode (HandshakeV1_0.clientProof crypto salted (session.clientFirstBare ++ [44] ++
          session.serverFirst ++ [44] ++ (asciiBytes "c=biws,r=".toList ++ session.nonce)))))))
    (henc : codec.encode (dictOf (authReply (attrText [(118, crypto.b64encode
      (crypto.hmac session.account.serverKey (session.clientFirstBare ++ [44] ++
        session.serverFirst ++ [44] ++ (asciiBytes "c=biws,r=".toList ++ session.nonce))))]))) =
      .ok json₄) :
    final codec crypto session (utf8Encode json₃ ++ [0]) = some (utf8Encode json₄) := by
  have hwp : IsAsciiBytes (asciiBytes "c=biws,r=".toList ++ session.nonce) :=
    (asciiBytes_ascii (by decide)).append hnonce
  have hb64 := hcrypto.b64encode_attrValue
  have hauth := authentication_eq hdec rfl ((hwp.append (by decide)).append (hb64 _).1)
  have hsplit : splitProof (asciiBytes "c=biws,r=".toList ++ session.nonce ++ [44, 112, 61] ++
      crypto.b64encode (HandshakeV1_0.clientProof crypto salted (session.clientFirstBare ++ [44] ++
        session.serverFirst ++ [44] ++ (asciiBytes "c=biws,r=".toList ++ session.nonce)))) =
      some (asciiBytes "c=biws,r=".toList ++ session.nonce, 112 :: 61 :: crypto.b64encode
        (HandshakeV1_0.clientProof crypto salted (session.clientFirstBare ++ [44] ++
          session.serverFirst ++ [44] ++ (asciiBytes "c=biws,r=".toList ++ session.nonce)))) := by
    rw [List.append_assoc, List.cons_append, List.cons_append, List.cons_append, List.nil_append]
    exact splitProof_append (by simpa using (hb64 _).2)
  have hxor : ∀ am, xor32 (HandshakeV1_0.clientProof crypto salted am)
      (crypto.hmac (crypto.sha256 (crypto.hmac salted (utf8Encode "Client Key"))) am) =
      .ok (crypto.hmac salted (utf8Encode "Client Key")) := fun am => by
    simp only [HandshakeV1_0.clientProof, xor32, List.length_zipWith, hcrypto.hmac_length, min_self,
      and_self, if_true]
    rw [zipWith_xor_cancel (by rw [hcrypto.hmac_length, hcrypto.hmac_length])]
  simp only [final, List.getLast?_append, List.getLast?_singleton, Option.or_some,
    List.dropLast_concat, hauth, hsplit, guard, if_true, Option.bind_eq_bind, Option.some_bind,
    hcrypto.b64decode_b64encode, Except.toOption, hstored, hxor, reply, henc, Option.map_some',
    pure]

end ScramServer

namespace HandshakeV1_0

/-! ## Agreement -/

variable {ql2 : Ql2} {codec : JsonCodec} {crypto : Crypto}

/-- A server that answers as RFC 5802 prescribes, from the bytes the client sends, accepts the
    client's proof, and the client accepts the server's signature: for a user name of ASCII
    characters and every password, salt, iteration count and nonce extension, the run
    completes. -/
theorem run_agrees_with_server (hversion : ql2.V1_0 < 2 ^ 32) (hcodec : codec.RoundTrips)
    (hcrypto : crypto.Sound) {users : Bytes → Option ScramServer.Account}
    {username password : String} {salt : Bytes} {iterations : Int}
    {account : ScramServer.Account} (hname : IsAscii username.data)
    (haccount : ScramServer.Account.derive crypto password salt iterations = .ok account)
    (huser : users (utf8Encode username) = some account) {suffix : Bytes}
    (hsuffix : IsAttrValue suffix) (randomBytes : Bytes) :
    ∃ r₀ r₂ session m₁ m₂ m₃ h,
      ScramServer.first ql2 codec crypto users suffix r₀ = some (session, m₁, m₂) ∧
      ScramServer.final codec crypto session r₂ = some m₃ ∧
      run ql2 codec crypto randomBytes m₁ m₂ m₃ (new username password) = .ok [r₀, [], r₂] h := by
  obtain ⟨salted, hsalted, rfl⟩ : ∃ salted, crypto.pbkdf2 (utf8Encode password) salt iterations =
      .ok salted ∧ account = ⟨salt, iterations,
        crypto.sha256 (crypto.hmac salted (utf8Encode "Client Key")),
        crypto.hmac salted (utf8Encode "Server Key")⟩ := by
    simp only [ScramServer.Account.derive, bind, Except.bind] at haccount
    split at haccount
    · cases haccount
    · cases haccount
      exact ⟨_, ‹_›, rfl⟩
  have hesc := ScramServer.escape_attrValue hname
  have hnonce := hcrypto.b64encode_attrValue randomBytes
  set nonce := crypto.b64encode randomBytes
  set bare := clientFirstBare (escapeUsername username) nonce
  set sf := ScramServer.serverFirstMessage crypto (nonce ++ suffix) ⟨salt, iterations,
    crypto.sha256 (crypto.hmac salted (utf8Encode "Client Key")),
    crypto.hmac salted (utf8Encode "Server Key")⟩
  set withoutProof := asciiBytes "c=biws,r=".toList ++ (nonce ++ suffix)
  set authMessage := bare ++ [44] ++ sf ++ [44] ++ withoutProof
  have hwp : IsAsciiBytes withoutProof :=
    (asciiBytes_ascii (by decide)).append (hnonce.1.append hsuffix.1)
  obtain ⟨json₀, henc₀, -, hdec₀⟩ := hcodec _ (firstRequest_flat
    ((by decide : IsAsciiBytes [110, 44, 44]).append (clientFirstBare_ascii hesc.1 hnonce.1)))
    (by simp [firstRequest])
  obtain ⟨json₁, henc₁, -, hdec₁⟩ := hcodec _ ScramServer.versionReply_flat (by decide)
  obtain ⟨json₂, henc₂, -, hdec₂⟩ := hcodec _ (ScramServer.authReply_flat
    (ScramServer.serverFirstMessage_ascii hcrypto (hnonce.1.append hsuffix.1) _))
    (by simp [ScramServer.authReply])
  obtain ⟨json₃, henc₃, hasc₃, hdec₃⟩ := hcodec (finalRequest (withoutProof ++ [44, 112, 61] ++
    crypto.b64encode (clientProof crypto salted authMessage)))
    (finalRequest_flat ((hwp.append (by decide)).append (hcrypto.b64encode_attrValue _).1))
    (by simp [finalRequest])
  obtain ⟨json₄, henc₄, -, hdec₄⟩ := hcodec _ (ScramServer.authReply_flat
    (@ScramServer.attrText_ascii [(118, crypto.b64encode
      (crypto.hmac (crypto.hmac salted (utf8Encode "Server Key")) authMessage))] (by
        simp only [List.mem_singleton, forall_eq]
        exact ⟨by decide, (hcrypto.b64encode_attrValue _).1⟩)))
    (by simp [ScramServer.authReply])
  have hlookup : (ScramServer.unescapeName (asciiBytes (escapeUsername username).data)).bind users =
      some ⟨salt, iterations, crypto.sha256 (crypto.hmac salted (utf8Encode "Client Key")),
        crypto.hmac salted (utf8Encode "Server Key")⟩ := by
    rw [show (escapeUsername username).data =
      replaceChar ',' "=2C" (replaceChar '=' "=3D" username.data) from rfl,
      ScramServer.unescapeName_escape hname,
      ← utf8Encode_ascii hname]
    exact huser
  exact ⟨_, _, _, _, _, _, _,
    ScramServer.first_ok ⟨hesc.1, hesc.2⟩ hnonce hdec₀ hlookup henc₁ henc₂,
    ScramServer.final_ok hcrypto rfl (hnonce.1.append hsuffix.1) hdec₃ henc₄,
    run_ok (initializeConnection_ok hversion hesc.1 hnonce.1 henc₀) (readResponse_ok hdec₁)
      (prepareAuthRequest_ok hcrypto rfl hdec₂ (hnonce.append hsuffix) (by simp) hsalted henc₃
        hasc₃)
      (readAuthResponse_ok hcrypto hdec₄)⟩

/-- The stand-in collaborators, the reference JSON codec, and a server that knows the user
    `admin` with an empty password, salt `[0, 0, 0]` and one iteration, and extends the nonce
    with `xyz`. -/
theorem run_agrees_with_server_admin :
    let users : Bytes → Option ScramServer.Account := fun name =>
      if name = utf8Encode "admin" then
        (ScramServer.Account.derive Crypto.standIn "" [0, 0, 0] 1).toOption
      else none
    ∃ r₀ r₂ session m₁ m₂ m₃ h,
      ScramServer.first Ql2.proto JsonCodec.reference Crypto.standIn users [120, 121, 122] r₀ =
        some (session, m₁, m₂) ∧
      ScramServer.final JsonCodec.reference Crypto.standIn session r₂ = some m₃ ∧
      run Ql2.proto JsonCodec.reference Crypto.standIn [0, 0, 0] m₁ m₂ m₃ (new "admin" "") =
        .ok [r₀, [], r₂] h :=
  run_agrees_with_server (by decide) JsonCodec.reference_roundTrips Crypto.standIn_sound
    (by decide) (show ScramServer.Account.derive Crypto.standIn "" [0, 0, 0] 1 = .ok _ from rfl)
    rfl (by decide) [0, 0, 0]

/-- The user name `é`: `chain_to_bytes` encodes it as the Latin-1 byte `0xe9`, which
    `.decode("ascii")` rejects, so the run raises before the first request is sent; the
    server's messages are never read. -/
theorem run_rejects_non_ascii_username :
    ∃ h, run Ql2.proto JsonCodec.reference Crypto.standIn [0, 0, 0] [] [] [] (new "é" "") =
      .error .unicodeDecodeError h :=
  ⟨_, rfl⟩

end HandshakeV1_0

end RethinkDriver

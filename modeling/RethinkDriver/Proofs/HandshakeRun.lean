import RethinkDriver.Reference

/-!
# What a completed handshake has checked

`HandshakeV1_0.run` (`core/net/handshake.py:139-309`) returns only if each server message
passed every check the client makes. Reading the steps backwards from a run that returns
gives what the three messages carried (`run_eq_ok`): a first message reporting success with
`int(min_protocol_version) ≤ 0 ≤ int(max_protocol_version)`, a second reporting success whose
nonce extends the client's, and a third whose `v` decodes to the server signature computed
from the salted password and the authentication message. The version bounds go through
`int()`, which truncates a float and parses a numeric string.
-/

namespace RethinkDriver

/-- `m` decodes to an object that reports `success` (`__decode_json_response`). -/
def Reports (codec : JsonCodec) (m : Bytes) (json : PyValue) : Prop :=
  codec.decode .empty m = .ok json ∧ ∃ s, json.get "success" = .ok s ∧ s.truthy

/-- The first server message reports success and a range `int()` takes to contain `0`. -/
def AcceptsVersion (codec : JsonCodec) (m1 : Bytes) : Prop :=
  ∃ json lo hi, Reports codec m1 json ∧
    (json.getItem "min_protocol_version" >>= PyValue.toInt) = .ok lo ∧
    (json.getItem "max_protocol_version" >>= PyValue.toInt) = .ok hi ∧ lo ≤ 0 ∧ 0 ≤ hi

/-- The second server message as the client accepts it: it reports success, its
    `authentication` text is `serverFirst`, and its attributes carry an `r` extending `nonce`,
    and a salt and an iteration count for which PBKDF2 of the password is `salted`;
    `withoutProof` is `c=biws,r=` followed by `r`. -/
def AcceptsServerFirst (codec : JsonCodec) (crypto : Crypto) (m2 nonce : Bytes)
    (password : String) (serverFirst salted withoutProof : Bytes) : Prop :=
  ∃ json auth r salt i, Reports codec m2 json ∧
    (json.getItem "authentication" >>= PyValue.encodeAscii) = .ok serverFirst ∧
    HandshakeV1_0.getAuthenticationMessage json = .ok auth ∧
    authItem auth "r" = .ok r ∧ nonce.isPrefixOf r ∧
    (authItem auth "s" >>= crypto.b64decode) = .ok salt ∧
    (authItem auth "i" >>= fun i => (PyValue.bytes i).toInt) = .ok i ∧
    crypto.pbkdf2 (utf8Encode password) salt i = .ok salted ∧
    chainToBytes [.str "c=biws,r=", .bytes r] = .ok withoutProof

/-- The third server message as the client accepts it: it reports success and its `v`
    attribute decodes to `signature`. -/
def AcceptsServerFinal (codec : JsonCodec) (crypto : Crypto) (m3 signature : Bytes) : Prop :=
  ∃ json auth, Reports codec m3 json ∧ HandshakeV1_0.getAuthenticationMessage json = .ok auth ∧
    (authItem auth "v" >>= crypto.b64decode) = .ok signature

/-- What a completed run has checked of the server's three messages, for the client's nonce
    `nonce`, user name `username` and `password`: the version range of `m1`, the nonce, salt
    and iteration count of `m2`, and, in `m3`, the signature of the authentication message
    (`handshake.py:252-262`) under the server key derived from them. -/
def Authenticated (codec : JsonCodec) (crypto : Crypto) (username password : String)
    (nonce m1 m2 m3 : Bytes) : Prop :=
  ∃ first serverFirst salted withoutProof,
    chainToBytes [.str "n=", .str username, .str ",r=", .bytes nonce] = .ok first ∧
    AcceptsVersion codec m1 ∧
    AcceptsServerFirst codec crypto m2 nonce password serverFirst salted withoutProof ∧
    AcceptsServerFinal codec crypto m3
      (crypto.hmac (crypto.hmac salted (utf8Encode "Server Key"))
        (first ++ [44] ++ serverFirst ++ [44] ++ withoutProof))

namespace HandshakeV1_0

variable {ql2 : Ql2} {codec : JsonCodec} {crypto : Crypto}

theorem decodeJsonResponse_eq_ok {m : Bytes} {json : PyValue}
    (h : decodeJsonResponse codec m = .ok json) : Reports codec m json := by
  obtain ⟨json', hdec, h⟩ := Except.bind_eq_ok h
  obtain ⟨s, hs, h⟩ := Except.bind_eq_ok h
  split at h
  · cases h
    exact ⟨hdec, s, hs, ‹_›⟩
  · obtain ⟨_, -, h⟩ := Except.bind_eq_ok h
    obtain ⟨_, -, h⟩ := Except.bind_eq_ok h
    obtain ⟨_, -, h⟩ := Except.bind_eq_ok h
    cases h

theorem readResponse_eq_ok {m1 r : Bytes} (h : readResponse codec m1 = .ok r) :
    AcceptsVersion codec m1 := by
  obtain ⟨json, hjson, h⟩ := Except.bind_eq_ok h
  obtain ⟨dlo, hdlo, h⟩ := Except.bind_eq_ok h
  obtain ⟨lo, hlo, h⟩ := Except.bind_eq_ok h
  obtain ⟨dhi, hdhi, h⟩ := Except.bind_eq_ok h
  obtain ⟨hi, hhi, h⟩ := Except.bind_eq_ok h
  split at h
  · exact ⟨json, lo, hi, decodeJsonResponse_eq_ok hjson, by rw [hdlo]; exact hlo,
      by rw [hdhi]; exact hhi, ‹_›⟩
  · cases h

theorem initializeConnection_eq_ok {randomBytes r0 : Bytes} {h h' : HandshakeV1_0}
    (hi : initializeConnection ql2 codec crypto randomBytes h = .ok r0 h') :
    ∃ first, chainToBytes [.str "n=", .str h.username, .str ",r=",
        .bytes (crypto.b64encode randomBytes)] = .ok first ∧
      h' = { h with randomNonce := crypto.b64encode randomBytes, firstClientMessage := first } := by
  obtain ⟨_, _, hm, hi⟩ := EStateM.bind_eq_ok hi
  cases hm
  obtain ⟨_, _, hg, hi⟩ := EStateM.bind_eq_ok hi
  cases hg
  obtain ⟨first, _, hlift, hi⟩ := EStateM.bind_eq_ok hi
  obtain ⟨hchain, rfl⟩ := liftPy_eq_ok hlift
  obtain ⟨_, _, hm, hi⟩ := EStateM.bind_eq_ok hi
  cases hm
  refine ⟨first, hchain, ?_⟩
  obtain ⟨_, _, hv, hi⟩ := EStateM.bind_eq_ok hi
  obtain ⟨-, rfl⟩ := liftPy_eq_ok hv
  obtain ⟨_, _, ha, hi⟩ := EStateM.bind_eq_ok hi
  obtain ⟨-, rfl⟩ := liftPy_eq_ok ha
  obtain ⟨_, _, hj, hi⟩ := EStateM.bind_eq_ok hi
  obtain ⟨-, rfl⟩ := liftPy_eq_ok hj
  exact (liftPy_eq_ok hi).2.symm

theorem prepareAuthRequest_eq_ok {m2 r2 : Bytes} {h h' : HandshakeV1_0}
    (hp : prepareAuthRequest codec crypto m2 h = .ok r2 h') :
    ∃ serverFirst salted withoutProof,
      AcceptsServerFirst codec crypto m2 h.randomNonce h.password serverFirst salted withoutProof ∧
      h' = { h with
        serverSignature := crypto.hmac (crypto.hmac salted (utf8Encode "Server Key"))
          (h.firstClientMessage ++ [44] ++ serverFirst ++ [44] ++ withoutProof) } := by
  obtain ⟨json, _, hl, hp⟩ := EStateM.bind_eq_ok hp
  obtain ⟨hjson, rfl⟩ := liftPy_eq_ok hl
  obtain ⟨serverFirst, _, hl, hp⟩ := EStateM.bind_eq_ok hp
  obtain ⟨hfirst, rfl⟩ := liftPy_eq_ok hl
  obtain ⟨auth, _, hl, hp⟩ := EStateM.bind_eq_ok hp
  obtain ⟨hauth, rfl⟩ := liftPy_eq_ok hl
  obtain ⟨r, _, hl, hp⟩ := EStateM.bind_eq_ok hp
  obtain ⟨hr, rfl⟩ := liftPy_eq_ok hl
  obtain ⟨_, _, hg, hp⟩ := EStateM.bind_eq_ok hp
  cases hg
  obtain ⟨_, _, hn, hp⟩ := EStateM.bind_eq_ok hp
  obtain ⟨hnonce, rfl⟩ := raiseUnless_eq_ok hn
  obtain ⟨salt, _, hl, hp⟩ := EStateM.bind_eq_ok hp
  obtain ⟨hsalt, rfl⟩ := liftPy_eq_ok hl
  obtain ⟨i, _, hl, hp⟩ := EStateM.bind_eq_ok hp
  obtain ⟨hi, rfl⟩ := liftPy_eq_ok hl
  obtain ⟨salted, _, hl, hp⟩ := EStateM.bind_eq_ok hp
  obtain ⟨hsalted, rfl⟩ := liftPy_eq_ok hl
  obtain ⟨withoutProof, _, hl, hp⟩ := EStateM.bind_eq_ok hp
  obtain ⟨hwp, rfl⟩ := liftPy_eq_ok hl
  refine ⟨serverFirst, salted, withoutProof,
    ⟨json, auth, r, salt, i, decodeJsonResponse_eq_ok hjson, hfirst, hauth, hr, hnonce, hsalt, hi,
      hsalted, hwp⟩, ?_⟩
  obtain ⟨_, _, hm, hp⟩ := EStateM.bind_eq_ok hp
  cases hm
  obtain ⟨_, _, hl, hp⟩ := EStateM.bind_eq_ok hp
  obtain ⟨-, rfl⟩ := liftPy_eq_ok hl
  obtain ⟨_, _, hl, hp⟩ := EStateM.bind_eq_ok hp
  obtain ⟨-, rfl⟩ := liftPy_eq_ok hl
  obtain ⟨_, _, hl, hp⟩ := EStateM.bind_eq_ok hp
  obtain ⟨-, rfl⟩ := liftPy_eq_ok hl
  exact (liftPy_eq_ok hp).2.symm

theorem readAuthResponse_eq_ok {m3 : Bytes} {h h' : HandshakeV1_0} {u : Unit}
    (hr : readAuthResponse codec crypto m3 h = .ok u h') :
    AcceptsServerFinal codec crypto m3 h.serverSignature ∧ h' = h := by
  obtain ⟨json, _, hl, hr⟩ := EStateM.bind_eq_ok hr
  obtain ⟨hjson, rfl⟩ := liftPy_eq_ok hl
  obtain ⟨auth, _, hl, hr⟩ := EStateM.bind_eq_ok hr
  obtain ⟨hauth, rfl⟩ := liftPy_eq_ok hl
  obtain ⟨sig, _, hl, hr⟩ := EStateM.bind_eq_ok hr
  obtain ⟨hsig, rfl⟩ := liftPy_eq_ok hl
  obtain ⟨_, _, hg, hr⟩ := EStateM.bind_eq_ok hr
  cases hg
  obtain ⟨heq, rfl⟩ := raiseUnless_eq_ok hr
  exact ⟨⟨json, auth, decodeJsonResponse_eq_ok hjson, hauth, of_decide_eq_true heq ▸ hsig⟩, rfl⟩

/-- A run that returns has seen a first message accepting version `0` under `int()`, a
    second extending this run's nonce, and a third carrying the server signature of this
    run's authentication message. -/
theorem run_eq_ok {randomBytes m1 m2 m3 : Bytes} {h₀ h : HandshakeV1_0} {out : List Bytes}
    (hrun : run ql2 codec crypto randomBytes m1 m2 m3 h₀ = .ok out h) :
    Authenticated codec crypto h₀.username h₀.password (crypto.b64encode randomBytes)
      m1 m2 m3 := by
  obtain ⟨_, _, hm, hrun⟩ := EStateM.bind_eq_ok hrun
  cases hm
  obtain ⟨_, _, hi, hrun⟩ := EStateM.bind_eq_ok hrun
  obtain ⟨first, hfirst, rfl⟩ := initializeConnection_eq_ok hi
  obtain ⟨_, _, hl, hrun⟩ := EStateM.bind_eq_ok hrun
  obtain ⟨hr1, rfl⟩ := liftPy_eq_ok hl
  obtain ⟨_, _, hp, hrun⟩ := EStateM.bind_eq_ok hrun
  obtain ⟨serverFirst, salted, withoutProof, hsf, rfl⟩ := prepareAuthRequest_eq_ok hp
  obtain ⟨_, _, ha, -⟩ := EStateM.bind_eq_ok hrun
  exact ⟨first, serverFirst, salted, withoutProof, hfirst, readResponse_eq_ok hr1, hsf,
    (readAuthResponse_eq_ok ha).1⟩

/-! ## An exchange under the stand-in digest

User `admin` with an empty password draws the nonce bytes `[0, 0, 0]` (`AAAA`); the server
extends the nonce with `xyz`, salts with `AAAA` and one iteration, and signs as RFC 5802
prescribes, with `Crypto.standIn`. -/

/-- The server-first-message of the exchange. -/
def standInServerFirst : PyValue :=
  .dict [(.str "success", .bool true), (.str "authentication", .str "r=AAAAxyz,s=AAAA,i=1")]

/-- The server-final-message of the exchange: `v` is the signature of the authentication
    message under the server key. -/
def standInServerFinal : PyValue :=
  let salted := digest32 ([0, 0, 0] ++ toListLE 4 1)
  let signature := Crypto.standIn.hmac (Crypto.standIn.hmac salted (utf8Encode "Server Key"))
    (utf8Encode "n=admin,r=AAAA,r=AAAAxyz,s=AAAA,i=1,c=biws,r=AAAAxyz")
  .dict [(.str "success", .bool true), (.str "authentication",
    .str ("v=" ++ String.mk ((base64Encode signature).map fun b => Char.ofNat b.toNat)))]

set_option maxRecDepth 2000 in
theorem run_eq_ok_standIn :
    let doc₁ : PyValue := .dict [(.str "success", .bool true),
      (.str "min_protocol_version", .int 0), (.str "max_protocol_version", .int 0)]
    let codec := JsonCodec.over [doc₁, standInServerFirst, standInServerFinal]
    (∃ out h, run Ql2.proto codec Crypto.standIn [0, 0, 0] (jsonBytes doc₁)
        (jsonBytes standInServerFirst) (jsonBytes standInServerFinal) (new "admin" "") =
        .ok out h) ∧
      Authenticated codec Crypto.standIn "admin" "" (base64Encode [0, 0, 0]) (jsonBytes doc₁)
        (jsonBytes standInServerFirst) (jsonBytes standInServerFinal) :=
  ⟨⟨_, _, rfl⟩, @run_eq_ok Ql2.proto _ Crypto.standIn [0, 0, 0] _ _ _ (new "admin" "") _ _ rfl⟩

set_option maxRecDepth 2000 in
/-- The first message reports `min_protocol_version` `0.5`, above the client's `0`; `int(0.5)`
    is `0`, so `__read_response` accepts it and the run completes. -/
theorem run_accepts_fractional_min_version :
    let doc₁ : PyValue := .dict [(.str "success", .bool true),
      (.str "min_protocol_version", .float (.finite 1 (-1))), (.str "max_protocol_version", .int 0)]
    jsonBytes doc₁ = utf8Encode
        "\x7b\"success\":true,\"min_protocol_version\":0.5,\"max_protocol_version\":0\x7d" ∧
      ∃ out h, run Ql2.proto (JsonCodec.over [doc₁, standInServerFirst, standInServerFinal])
        Crypto.standIn [0, 0, 0] (jsonBytes doc₁) (jsonBytes standInServerFirst)
        (jsonBytes standInServerFinal) (new "admin" "") = .ok out h :=
  ⟨rfl, _, _, rfl⟩

end HandshakeV1_0

end RethinkDriver

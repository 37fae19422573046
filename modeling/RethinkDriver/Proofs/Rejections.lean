import RethinkDriver.Proofs.Connect

/-!
# Which handshake rejections are authentication failures

Three checks of the handshake raise `ReqlAuthError`: `__decode_json_response`
(`core/net/handshake.py:172-186`) for a message that does not report `success` and carries an
`error_code` in `10..20`, `__prepare_auth_request` (`handshake.py:246-250`) for a server nonce
that does not extend the client's, and `__read_auth_response` (`handshake.py:303-309`) for a
signature other than the one it computed. Everything else that fails on the way raises what
Python raises there, a `KeyError`, `ValueError`, `TypeError`, `UnicodeError` or
`struct.error`, or the `ReqlDriverError` of an unsupported version or another error code;
never a `ReqlAuthError`, given a JSON codec and digest functions that raise none.

So a run of the handshake that raises, raises a `ReqlAuthError` exactly when one of the three
checks rejected the server's message (`run_raises_auth_iff`), and `DefaultTransport.connect`
re-raises exactly those as the `ReqlDriverError` `Server host:port`
(`connect_raises_auth_failure_iff`).
-/

namespace RethinkDriver

/-- Every exception `x` raises is other than a `ReqlAuthError`. -/
def NeverAuth {α : Type} (x : Except PyExc α) : Prop :=
  ∀ e, x = .error e → e.isInstance .ReqlAuthError = false

namespace NeverAuth

variable {α β : Type}

theorem ok (a : α) : NeverAuth (.ok a : Except PyExc α) := fun _ h => nomatch h

/-- An exception of Python or the standard library. -/
theorem error {e : PyExc} (he : e.isInstance .ReqlAuthError = false) :
    NeverAuth (.error e : Except PyExc α) := by
  rintro _ ⟨⟩
  exact he

theorem bind {x : Except PyExc α} {f : α → Except PyExc β} (hx : NeverAuth x)
    (hf : ∀ a, NeverAuth (f a)) : NeverAuth (x >>= f) := by
  intro e h
  cases x with
  | error e' => cases h; exact hx _ rfl
  | ok a => exact hf a e h

theorem map {x : Except PyExc α} (f : α → β) (hx : NeverAuth x) : NeverAuth (f <$> x) := by
  intro e h
  cases x with
  | error e' => cases h; exact hx _ rfl
  | ok a => cases h

theorem foldlM {f : β → α → Except PyExc β} (hf : ∀ b a, NeverAuth (f b a)) :
    ∀ (l : List α) (init : β), NeverAuth (l.foldlM f init)
  | [], init => ok init
  | a :: l, init => (hf init a).bind fun b => foldlM hf l b

end NeverAuth

/-- The JSON codec and the digest and base64 functions raise no `ReqlAuthError`, as `json`,
    `hashlib`, `hmac` and `base64` do not. -/
structure RaisesNoAuth (codec : JsonCodec) (crypto : Crypto) : Prop where
  decode : ∀ o b, NeverAuth (codec.decode o b)
  encode : ∀ v, NeverAuth (codec.encode v)
  b64decode : ∀ b, NeverAuth (crypto.b64decode b)
  pbkdf2 : ∀ p salt i, NeverAuth (crypto.pbkdf2 p salt i)

/-! ## The helpers raise no `ReqlAuthError` -/

section Helpers

open NeverAuth

theorem neverAuth_latin1Encode : ∀ cs : List Char, NeverAuth (latin1Encode cs)
  | [] => ok _
  | c :: cs => by
    unfold latin1Encode
    split
    · exact (neverAuth_latin1Encode cs).map _
    · exact error rfl

theorem neverAuth_asciiDecode : ∀ b : Bytes, NeverAuth (asciiDecode b)
  | [] => ok _
  | x :: xs => by
    unfold asciiDecode
    split
    · exact (neverAuth_asciiDecode xs).map _
    · exact error rfl

theorem neverAuth_asciiEncode : ∀ cs : List Char, NeverAuth (asciiEncode cs)
  | [] => ok _
  | c :: cs => by
    unfold asciiEncode
    split
    · exact (neverAuth_asciiEncode cs).map _
    · exact error rfl

theorem neverAuth_chainToBytes : ∀ parts : List StrOrBytes, NeverAuth (chainToBytes parts)
  | [] => ok _
  | .str _ :: parts =>
    (neverAuth_latin1Encode _).bind fun _ => (neverAuth_chainToBytes parts).bind fun _ => ok _
  | .bytes _ :: parts => (neverAuth_chainToBytes parts).map _

theorem neverAuth_packL (v : Nat) : NeverAuth (packL v) := by
  unfold packL
  split <;> first | exact ok _ | exact error rfl

theorem neverAuth_getItem (v : PyValue) (k : String) : NeverAuth (v.getItem k) := by
  unfold PyValue.getItem
  repeat' split
  all_goals first | exact ok _ | exact error rfl

theorem neverAuth_get (v : PyValue) (k : String) : NeverAuth (v.get k) := by
  unfold PyValue.get
  split <;> first | exact ok _ | exact error rfl

theorem neverAuth_parseIntLiteral (s : List Char) : NeverAuth (parseIntLiteral s) := by
  unfold parseIntLiteral
  split <;> first | exact ok _ | exact error rfl

theorem neverAuth_toInt (v : PyValue) : NeverAuth v.toInt := by
  cases v with
  | float f => cases f <;> first | exact ok _ | exact error rfl
  | str _ | bytes _ => exact neverAuth_parseIntLiteral _
  | bool _ | int _ => exact ok _
  | _ => exact error rfl

theorem neverAuth_encodeAscii (v : PyValue) : NeverAuth v.encodeAscii := by
  cases v with
  | str _ => exact neverAuth_asciiEncode _
  | _ => exact error rfl

theorem neverAuth_splitAttribute (part : Bytes) : NeverAuth (splitAttribute part) := by
  unfold splitAttribute
  split <;> first | exact ok _ | exact error rfl

theorem neverAuth_authItem (d : PyDict Bytes Bytes) (key : String) :
    NeverAuth (authItem d key) := by
  unfold authItem
  split <;> first | exact ok _ | exact error rfl

theorem neverAuth_xor32 (a b : Bytes) : NeverAuth (xor32 a b) := by
  unfold xor32
  split <;> first | exact ok _ | exact error rfl

theorem neverAuth_getAuthenticationMessage (response : PyValue) :
    NeverAuth (HandshakeV1_0.getAuthenticationMessage response) :=
  (neverAuth_getItem _ _).bind fun _ => (neverAuth_encodeAscii _).bind fun _ =>
    foldlM (fun _ _ => (neverAuth_splitAttribute _).bind fun _ => ok _) _ _

theorem neverAuth_jsonKey (k : PyValue) : NeverAuth (jsonKey k) := by
  unfold jsonKey
  split <;> first | exact ok _ | exact error rfl

/-- `ReqlEncoder().encode` raises only `TypeError` and `ValueError`. -/
theorem neverAuth_jsonEncode (v : PyValue) : NeverAuth (jsonEncode v) := by
  refine @jsonEncode.induct (fun v => NeverAuth (jsonEncode v))
    (fun l => NeverAuth (jsonEncodeEntries l)) (fun l => NeverAuth (jsonEncodeList l))
    ?_ ?_ ?_ (fun _ => ?_) (fun _ _ => ?_) (fun f hf => ?_) (fun _ => ?_)
    (fun _ ih => ?_) (fun _ ih => ?_) (fun _ ih => ?_) (fun _ => ?_) (fun _ => ?_) (fun _ => ?_)
    ?_ (fun _ ih => ?_) (fun x xs hne ihx ihxs => ?_) ?_ (fun k _ ih => ?_)
    (fun k v entries hne ihv ihe => ?_) v
  all_goals beta_reduce
  · rw [jsonEncode]; exact ok _
  · rw [jsonEncode]; exact ok _
  · rw [jsonEncode]; exact ok _
  · rw [jsonEncode]; exact ok _
  · rw [jsonEncode]; exact ok _
  · cases f with
    | finite m e => exact absurd rfl (hf m e)
    | _ => rw [jsonEncode] <;> first | exact error rfl | exact nofun
  · rw [jsonEncode]; exact ok _
  · rw [jsonEncode]; exact ih.map _
  · rw [jsonEncode]; exact ih.map _
  · rw [jsonEncode]; exact ih.map _
  · rw [jsonEncode]; exact error rfl
  · rw [jsonEncode]; exact error rfl
  · rw [jsonEncode]; exact error rfl
  · rw [jsonEncodeList]; exact ok _
  · rw [jsonEncodeList]; exact ih
  · rw [jsonEncodeList.eq_3 x xs hne]
    exact ihx.bind fun _ => ihxs.bind fun _ => ok _
  · rw [jsonEncodeEntries]; exact ok _
  · rw [jsonEncodeEntries]
    exact (neverAuth_jsonKey k).bind fun _ => ih.bind fun _ => ok _
  · rw [jsonEncodeEntries.eq_3 k v entries hne]
    exact (neverAuth_jsonKey k).bind fun _ => ihv.bind fun _ => ihe.bind fun _ => ok _

/-- `base64.standard_b64decode` raises only `binascii.Error`, a `ValueError`. -/
theorem neverAuth_base64Decode : ∀ b : Bytes, NeverAuth (base64Decode b)
  | [] => ok _
  | _ :: _ :: _ :: _ :: rest => by
    unfold base64Decode
    repeat' split
    all_goals first | exact ok _ | exact error rfl | exact (neverAuth_base64Decode rest).map _
  | [_] | [_, _] | [_, _, _] => error rfl

/-- The reference codec and the stand-in digests raise no `ReqlAuthError`. -/
theorem raisesNoAuth_over_standIn (docs : List PyValue) :
    RaisesNoAuth (JsonCodec.over docs) Crypto.standIn where
  decode _ _ := by
    dsimp only [JsonCodec.over]
    split <;> first | exact ok _ | exact error rfl
  encode := neverAuth_jsonEncode
  b64decode := neverAuth_base64Decode
  pbkdf2 _ _ _ := by
    dsimp only [Crypto.standIn]
    split <;> first | exact ok _ | exact error rfl

end Helpers

/-- Every exception a call of `m` raises is other than a `ReqlAuthError`. -/
def NeverAuthM {σ α : Type} (m : EStateM PyExc σ α) : Prop :=
  ∀ s e s', m s = .error e s' → e.isInstance .ReqlAuthError = false

namespace NeverAuthM

variable {σ α β : Type}

theorem bind {m : EStateM PyExc σ α} {f : α → EStateM PyExc σ β} (hm : NeverAuthM m)
    (hf : ∀ a, NeverAuthM (f a)) : NeverAuthM (m >>= f) := by
  intro s e s' h
  rcases EStateM.bind_eq_error h with h | ⟨a, s₁, -, h⟩
  · exact hm s e s' h
  · exact hf a s₁ e s' h

theorem liftPy {x : Except PyExc α} (hx : NeverAuth x) :
    NeverAuthM (RethinkDriver.liftPy x : EStateM PyExc σ α) := by
  intro s e s' h
  cases x with
  | ok a => cases h
  | error e' => cases h; exact hx _ rfl

theorem modify (f : σ → σ) : NeverAuthM (modify f : EStateM PyExc σ Unit) :=
  fun _ _ _ h => nomatch h

theorem get : NeverAuthM (get : EStateM PyExc σ σ) := fun _ _ _ h => nomatch h

end NeverAuthM

/-! ## The three checks -/

namespace HandshakeV1_0

variable {ql2 : Ql2} {codec : JsonCodec} {crypto : Crypto}

/-- A server message that does not report `success`, with an integer `error_code` in `10..20`
    and an `error`: `__decode_json_response` raises `ReqlAuthError` for it. -/
def RejectsAuth (codec : JsonCodec) (m : Bytes) : Prop :=
  ∃ json s code err, codec.decode .empty m = .ok json ∧ json.get "success" = .ok s ∧
    s.truthy = false ∧ (json.getItem "error_code" >>= PyValue.toInt) = .ok code ∧
    json.getItem "error" = .ok err ∧ 10 ≤ code ∧ code ≤ 20

theorem decodeJsonResponse_of_rejectsAuth {m : Bytes} (h : RejectsAuth codec m) :
    ∃ err, decodeJsonResponse codec m = .error (reqlAuthError err) := by
  obtain ⟨json, s, code, err, hd, hs, hf, hc, he, hrange⟩ := h
  obtain ⟨c, hc, hcode⟩ := Except.bind_eq_ok hc
  refine ⟨err.toStr, ?_⟩
  simp [decodeJsonResponse, hd, hs, hf, hc, hcode, he, hrange, bind, Except.bind, throw,
    throwThe, MonadExceptOf.throw]

theorem not_rejectsAuth_of_ok {m : Bytes} {json : PyValue}
    (h : decodeJsonResponse codec m = .ok json) : ¬ RejectsAuth codec m := fun hr => by
  obtain ⟨_, herr⟩ := decodeJsonResponse_of_rejectsAuth hr
  rw [herr] at h
  cases h

/-- `__decode_json_response` raises a `ReqlAuthError` exactly for a message that rejects
    authentication. -/
theorem decodeJsonResponse_error_auth (hdec : ∀ b, NeverAuth (codec.decode .empty b))
    {m : Bytes} {e : PyExc} (h : decodeJsonResponse codec m = .error e) :
    e.isInstance .ReqlAuthError = true ↔ RejectsAuth codec m := by
  refine ⟨fun hauth => ?_, fun hr => ?_⟩
  · have never : ∀ {α : Type} {x : Except PyExc α}, NeverAuth x → x = .error e → False :=
      fun hx hxe => by rw [hx e hxe] at hauth; cases hauth
    rcases Except.bind_eq_error h with hd | ⟨json, hd, h⟩
    · exact (never (hdec m) hd).elim
    rcases Except.bind_eq_error h with hs | ⟨s, hs, h⟩
    · exact (never (neverAuth_get _ _) hs).elim
    split at h
    · cases h
    rename_i hfalse
    rcases Except.bind_eq_error h with hc | ⟨c, hc, h⟩
    · exact (never (neverAuth_getItem _ _) hc).elim
    rcases Except.bind_eq_error h with hcode | ⟨code, hcode, h⟩
    · exact (never (neverAuth_toInt _) hcode).elim
    rcases Except.bind_eq_error h with herr | ⟨err, herr, h⟩
    · exact (never (neverAuth_getItem _ _) herr).elim
    split_ifs at h with hrange
    · exact ⟨json, s, code, err, hd, hs, by simpa using hfalse, by rw [hc]; exact hcode, herr,
        hrange⟩
    · cases h
      cases hauth
  · obtain ⟨err, herr⟩ := decodeJsonResponse_of_rejectsAuth hr
    rw [herr] at h
    cases h
    rfl

/-- `__read_response` raises a `ReqlAuthError` exactly for a first message that rejects
    authentication; an unsupported version raises a `ReqlDriverError`. -/
theorem readResponse_error_auth (hdec : ∀ b, NeverAuth (codec.decode .empty b)) {m : Bytes}
    {e : PyExc} (h : readResponse codec m = .error e) :
    e.isInstance .ReqlAuthError = true ↔ RejectsAuth codec m := by
  rcases Except.bind_eq_error h with hd | ⟨json, hd, h⟩
  · exact decodeJsonResponse_error_auth hdec hd
  refine iff_of_false (ne_true_of_eq_false (((neverAuth_getItem _ _).bind fun _ =>
    (neverAuth_toInt _).bind fun _ => (neverAuth_getItem _ _).bind fun _ =>
    (neverAuth_toInt _).bind fun _ => ?_) e h)) (not_rejectsAuth_of_ok hd)
  split
  · exact NeverAuth.ok _
  · exact NeverAuth.error rfl

/-- What `__prepare_auth_request` reads before its nonce check (`handshake.py:237-245`): the
    second message decoded, its `authentication` field as ASCII, and its attribute `r`. -/
def serverNonce (codec : JsonCodec) (m : Bytes) : Except PyExc Bytes := do
  let json ← decodeJsonResponse codec m
  let _ ← json.getItem "authentication" >>= PyValue.encodeAscii
  authItem (← getAuthenticationMessage json) "r"

/-- The second message carries a nonce `r` that does not extend the client's. -/
def NonceRejected (codec : JsonCodec) (m : Bytes) (h : HandshakeV1_0) : Prop :=
  ∃ r, serverNonce codec m = .ok r ∧ h.randomNonce.isPrefixOf r = false

theorem serverNonce_error_auth (hdec : ∀ b, NeverAuth (codec.decode .empty b)) {m : Bytes}
    {e : PyExc} (h : serverNonce codec m = .error e) :
    e.isInstance .ReqlAuthError = true ↔ RejectsAuth codec m := by
  rcases Except.bind_eq_error h with hd | ⟨json, hd, h⟩
  · exact decodeJsonResponse_error_auth hdec hd
  exact iff_of_false (ne_true_of_eq_false ((((neverAuth_getItem _ _).bind
    neverAuth_encodeAscii).bind fun _ => (neverAuth_getAuthenticationMessage _).bind fun _ =>
    neverAuth_authItem _ _) e h)) (not_rejectsAuth_of_ok hd)

theorem not_rejectsAuth_of_serverNonce {m r : Bytes} (h : serverNonce codec m = .ok r) :
    ¬ RejectsAuth codec m := by
  obtain ⟨json, hd, -⟩ := Except.bind_eq_ok h
  exact not_rejectsAuth_of_ok hd

/-- How `__prepare_auth_request` raises: before its nonce check, as `serverNonce` raises; at
    the check, for a nonce that does not extend the client's; or after it, with no
    `ReqlAuthError`. -/
theorem prepareAuthRequest_error_cases (hlib : RaisesNoAuth codec crypto) {m : Bytes}
    {h h' : HandshakeV1_0} {e : PyExc} (hp : prepareAuthRequest codec crypto m h = .error e h') :
    serverNonce codec m = .error e ∨ ∃ r, serverNonce codec m = .ok r ∧
      (h.randomNonce.isPrefixOf r = false ∧ e = reqlAuthError "Invalid nonce from server" ∨
        h.randomNonce.isPrefixOf r = true ∧ e.isInstance .ReqlAuthError = false) := by
  rcases EStateM.bind_eq_error hp with hl | ⟨json, _, hl, hp⟩
  · exact .inl (by simp only [serverNonce, (liftPy_eq_error hl).1, Except.error_bind])
  obtain ⟨hjson, rfl⟩ := liftPy_eq_ok hl
  rcases EStateM.bind_eq_error hp with hl | ⟨sf, _, hl, hp⟩
  · exact .inl (by
      simp only [serverNonce, hjson, (liftPy_eq_error hl).1, Except.ok_bind, Except.error_bind])
  obtain ⟨hsf, rfl⟩ := liftPy_eq_ok hl
  rcases EStateM.bind_eq_error hp with hl | ⟨a, _, hl, hp⟩
  · exact .inl (by simp only [serverNonce, hjson, hsf, (liftPy_eq_error hl).1, Except.ok_bind,
      Except.error_bind])
  obtain ⟨ha, rfl⟩ := liftPy_eq_ok hl
  have hnonce : ∀ r, authItem a "r" = .ok r → serverNonce codec m = .ok r := fun r hr => by
    simp only [serverNonce, hjson, hsf, ha, hr, Except.ok_bind]
  rcases EStateM.bind_eq_error hp with hl | ⟨r, _, hl, hp⟩
  · exact .inl (by simp only [serverNonce, hjson, hsf, ha, (liftPy_eq_error hl).1, Except.ok_bind])
  obtain ⟨hr, rfl⟩ := liftPy_eq_ok hl
  rcases EStateM.bind_eq_error hp with hg | ⟨_, _, hg, hp⟩
  · cases hg
  cases hg
  refine .inr ⟨r, hnonce r hr, ?_⟩
  rcases EStateM.bind_eq_error hp with hn | ⟨_, _, hn, hp⟩
  · obtain ⟨hpre, rfl, -⟩ := raiseUnless_eq_error hn
    exact .inl ⟨hpre, rfl⟩
  obtain ⟨hpre, rfl⟩ := raiseUnless_eq_ok hn
  refine .inr ⟨hpre, (?_ : NeverAuthM _) _ _ _ hp⟩
  repeat' first
    | apply NeverAuthM.bind
    | exact NeverAuthM.modify _
    | exact NeverAuthM.liftPy (neverAuth_chainToBytes _)
    | exact NeverAuthM.liftPy ((neverAuth_authItem _ _).bind hlib.b64decode)
    | exact NeverAuthM.liftPy ((neverAuth_authItem _ _).bind fun _ => neverAuth_toInt _)
    | exact NeverAuthM.liftPy (hlib.pbkdf2 _ _ _)
    | exact NeverAuthM.liftPy (neverAuth_xor32 _ _)
    | exact NeverAuthM.liftPy ((neverAuth_chainToBytes _).bind neverAuth_asciiDecode)
    | exact NeverAuthM.liftPy (hlib.encode _)
    | intro _

/-- `__prepare_auth_request` raises a `ReqlAuthError` exactly for a second message that
    rejects authentication or carries a nonce that does not extend the client's. -/
theorem prepareAuthRequest_error_auth (hlib : RaisesNoAuth codec crypto) {m : Bytes}
    {h h' : HandshakeV1_0} {e : PyExc} (hp : prepareAuthRequest codec crypto m h = .error e h') :
    e.isInstance .ReqlAuthError = true ↔ RejectsAuth codec m ∨ NonceRejected codec m h := by
  rcases prepareAuthRequest_error_cases hlib hp with hn | ⟨r, hn, ⟨hpre, rfl⟩ | ⟨hpre, hauth⟩⟩
  · rw [serverNonce_error_auth (hlib.decode _) hn, or_iff_left]
    rintro ⟨r, hr, -⟩
    rw [hn] at hr
    cases hr
  · exact iff_of_true rfl (.inr ⟨r, hn, hpre⟩)
  · refine iff_of_false (ne_true_of_eq_false hauth) ?_
    rintro (hr | ⟨r', hr, hpre'⟩)
    · exact not_rejectsAuth_of_serverNonce hn hr
    · rw [hn] at hr
      cases hr
      rw [hpre] at hpre'
      cases hpre'

/-- What `__read_auth_response` reads before its signature check (`handshake.py:296-302`):
    the third message decoded and its attribute `v`, base64-decoded. -/
def serverFinalSignature (codec : JsonCodec) (crypto : Crypto) (m : Bytes) :
    Except PyExc Bytes := do
  let json ← decodeJsonResponse codec m
  authItem (← getAuthenticationMessage json) "v" >>= crypto.b64decode

/-- The third message carries a signature other than the one the client computed. -/
def SignatureRejected (codec : JsonCodec) (crypto : Crypto) (m : Bytes) (h : HandshakeV1_0) :
    Prop :=
  ∃ v, serverFinalSignature codec crypto m = .ok v ∧ v ≠ h.serverSignature

/-- How `__read_auth_response` raises: before its signature check, as `serverFinalSignature`
    raises, or at the check, for a signature other than the client's. -/
theorem readAuthResponse_error_cases {m : Bytes} {h h' : HandshakeV1_0} {e : PyExc}
    (hr : readAuthResponse codec crypto m h = .error e h') :
    serverFinalSignature codec crypto m = .error e ∨ ∃ v, serverFinalSignature codec crypto m =
      .ok v ∧ v ≠ h.serverSignature ∧ e = reqlAuthError "Invalid server signature" := by
  rcases EStateM.bind_eq_error hr with hl | ⟨json, _, hl, hr⟩
  · exact .inl (by simp only [serverFinalSignature, (liftPy_eq_error hl).1, Except.error_bind])
  obtain ⟨hjson, rfl⟩ := liftPy_eq_ok hl
  rcases EStateM.bind_eq_error hr with hl | ⟨a, _, hl, hr⟩
  · exact .inl (by simp only [serverFinalSignature, hjson, (liftPy_eq_error hl).1,
      Except.ok_bind, Except.error_bind])
  obtain ⟨ha, rfl⟩ := liftPy_eq_ok hl
  rcases EStateM.bind_eq_error hr with hl | ⟨v, _, hl, hr⟩
  · exact .inl (by simp only [serverFinalSignature, hjson, ha, (liftPy_eq_error hl).1,
      Except.ok_bind])
  obtain ⟨hv, rfl⟩ := liftPy_eq_ok hl
  rcases EStateM.bind_eq_error hr with hg | ⟨_, _, hg, hr⟩
  · cases hg
  cases hg
  obtain ⟨hne, rfl, -⟩ := raiseUnless_eq_error hr
  exact .inr ⟨v, by simp only [serverFinalSignature, hjson, ha, hv, Except.ok_bind],
    by simpa using hne, rfl⟩

/-- `__read_auth_response` raises a `ReqlAuthError` exactly for a third message that rejects
    authentication or carries a signature other than the client's. -/
theorem readAuthResponse_error_auth (hlib : RaisesNoAuth codec crypto) {m : Bytes}
    {h h' : HandshakeV1_0} {e : PyExc} (hr : readAuthResponse codec crypto m h = .error e h') :
    e.isInstance .ReqlAuthError = true ↔
      RejectsAuth codec m ∨ SignatureRejected codec crypto m h := by
  rcases readAuthResponse_error_cases hr with hs | ⟨v, hs, hne, rfl⟩
  · have hnot : ¬ SignatureRejected codec crypto m h := by
      rintro ⟨v, hv, -⟩
      rw [hs] at hv
      cases hv
    rw [or_iff_left hnot]
    rcases Except.bind_eq_error hs with hd | ⟨json, hd, hs⟩
    · exact decodeJsonResponse_error_auth (hlib.decode _) hd
    exact iff_of_false (ne_true_of_eq_false (((neverAuth_getAuthenticationMessage _).bind
      fun _ => (neverAuth_authItem _ _).bind hlib.b64decode) e hs)) (not_rejectsAuth_of_ok hd)
  · exact iff_of_true rfl (.inr ⟨v, hs, hne⟩)

/-- Building the first request raises no `ReqlAuthError`. -/
theorem initializeConnection_neverAuth (hlib : RaisesNoAuth codec crypto) (randomBytes : Bytes) :
    NeverAuthM (initializeConnection ql2 codec crypto randomBytes) := by
  unfold initializeConnection
  repeat' first
    | apply NeverAuthM.bind
    | exact NeverAuthM.modify _
    | exact NeverAuthM.get
    | exact NeverAuthM.liftPy (neverAuth_chainToBytes _)
    | exact NeverAuthM.liftPy (neverAuth_packL _)
    | exact NeverAuthM.liftPy ((neverAuth_chainToBytes _).bind neverAuth_asciiDecode)
    | exact NeverAuthM.liftPy (hlib.encode _)
    | intro _

/-! ## A whole run -/

theorem decodeJsonResponse_of_reports {m : Bytes} {json : PyValue} (h : Reports codec m json) :
    decodeJsonResponse codec m = .ok json := by
  obtain ⟨hd, s, hs, ht⟩ := h
  simp only [decodeJsonResponse, hd, hs, ht, Except.ok_bind, if_true]
  rfl

theorem not_rejectsAuth_of_readResponse {m r : Bytes} (h : readResponse codec m = .ok r) :
    ¬ RejectsAuth codec m := by
  obtain ⟨json, hd, -⟩ := Except.bind_eq_ok h
  exact not_rejectsAuth_of_ok hd

/-- A second message that `__prepare_auth_request` accepts neither rejects authentication nor
    carries a foreign nonce. -/
theorem prepareAuthRequest_ok_accepts {m r2 : Bytes} {h h₂ : HandshakeV1_0}
    (hp : prepareAuthRequest codec crypto m h = .ok r2 h₂) :
    ¬ RejectsAuth codec m ∧ ¬ NonceRejected codec m h := by
  obtain ⟨sf, -, -, ⟨json, auth, r, -, -, hrep, hsf, ha, hr, hpre, -⟩, -⟩ :=
    prepareAuthRequest_eq_ok hp
  have hd := decodeJsonResponse_of_reports hrep
  refine ⟨not_rejectsAuth_of_ok hd, ?_⟩
  rintro ⟨r', hr', hpre'⟩
  rw [show serverNonce codec m = .ok r by
    simp only [serverNonce, hd, hsf, ha, hr, Except.ok_bind]] at hr'
  cases hr'
  rw [hpre] at hpre'
  cases hpre'

/-- A run meets one of the three checks and it rejects the server's message: the first
    request is built, and then the first message rejects authentication; or it is accepted,
    and the second rejects authentication or carries a foreign nonce; or that is accepted too,
    and the third rejects authentication or carries another signature. -/
def RejectsRun (ql2 : Ql2) (codec : JsonCodec) (crypto : Crypto) (randomBytes m1 m2 m3 : Bytes)
    (h₀ : HandshakeV1_0) : Prop :=
  ∃ r0 h₁, initializeConnection ql2 codec crypto randomBytes (reset h₀) = .ok r0 h₁ ∧
    (RejectsAuth codec m1 ∨ (∃ r1, readResponse codec m1 = .ok r1) ∧
      (RejectsAuth codec m2 ∨ NonceRejected codec m2 h₁ ∨
        ∃ r2 h₂, prepareAuthRequest codec crypto m2 h₁ = .ok r2 h₂ ∧
          (RejectsAuth codec m3 ∨ SignatureRejected codec crypto m3 h₂)))

/-- For every server messages `m1`, `m2`, `m3`, a run of the handshake that raises, raises a
    `ReqlAuthError` exactly when one of its three checks rejected the server's message: an
    `error_code` in `10..20`, a nonce that does not extend the client's, or a wrong server
    signature. Every other failure raises something else. -/
theorem run_raises_auth_iff (hlib : RaisesNoAuth codec crypto) {randomBytes m1 m2 m3 : Bytes}
    {h₀ h' : HandshakeV1_0} {e : PyExc}
    (hrun : run ql2 codec crypto randomBytes m1 m2 m3 h₀ = .error e h') :
    e.isInstance .ReqlAuthError = true ↔ RejectsRun ql2 codec crypto randomBytes m1 m2 m3 h₀ := by
  rcases EStateM.bind_eq_error hrun with hm | ⟨_, _, hm, hrun⟩
  · cases hm
  cases hm
  rcases EStateM.bind_eq_error hrun with hi | ⟨r0, h₁, hi, hrun⟩
  · refine iff_of_false (ne_true_of_eq_false (initializeConnection_neverAuth hlib _ _ _ _ hi)) ?_
    rintro ⟨_, _, hi', -⟩
    rw [hi] at hi'
    cases hi'
  have hfirst : RejectsRun ql2 codec crypto randomBytes m1 m2 m3 h₀ ↔
      RejectsAuth codec m1 ∨ (∃ r1, readResponse codec m1 = .ok r1) ∧
        (RejectsAuth codec m2 ∨ NonceRejected codec m2 h₁ ∨
          ∃ r2 h₂, prepareAuthRequest codec crypto m2 h₁ = .ok r2 h₂ ∧
            (RejectsAuth codec m3 ∨ SignatureRejected codec crypto m3 h₂)) :=
    ⟨fun ⟨_, _, hi', hr⟩ => by rw [hi] at hi'; cases hi'; exact hr, fun hr => ⟨r0, h₁, hi, hr⟩⟩
  rw [hfirst]
  rcases EStateM.bind_eq_error hrun with hl | ⟨r1, _, hl, hrun⟩
  · obtain ⟨hr1, rfl⟩ := liftPy_eq_error hl
    rw [readResponse_error_auth (hlib.decode _) hr1, or_iff_left]
    rintro ⟨⟨_, hr⟩, -⟩
    rw [hr1] at hr
    cases hr
  obtain ⟨hr1, rfl⟩ := liftPy_eq_ok hl
  rw [or_iff_right (not_rejectsAuth_of_readResponse hr1), and_iff_right ⟨r1, hr1⟩]
  rcases EStateM.bind_eq_error hrun with hp | ⟨r2, h₂, hp, hrun⟩
  · rw [prepareAuthRequest_error_auth hlib hp, ← or_assoc]
    refine (or_iff_left ?_).symm
    rintro ⟨_, _, hp', -⟩
    rw [hp] at hp'
    cases hp'
  obtain ⟨hnot, hnonce⟩ := prepareAuthRequest_ok_accepts hp
  have hthird : (∃ r2' h₂', prepareAuthRequest codec crypto m2 h₁ = .ok r2' h₂' ∧
      (RejectsAuth codec m3 ∨ SignatureRejected codec crypto m3 h₂')) ↔
      RejectsAuth codec m3 ∨ SignatureRejected codec crypto m3 h₂ :=
    ⟨fun ⟨_, _, hp', hr⟩ => by rw [hp] at hp'; cases hp'; exact hr, fun hr => ⟨r2, h₂, hp, hr⟩⟩
  rw [or_iff_right hnot, or_iff_right hnonce, hthird]
  rcases EStateM.bind_eq_error hrun with ha | ⟨_, _, -, hrun⟩
  · exact readAuthResponse_error_auth hlib ha
  · cases hrun


end HandshakeV1_0

namespace Connection

open HandshakeV1_0

variable {ql2 : Ql2} {codec : JsonCodec} {crypto : Crypto}

/-- `DefaultTransport.connect` on a socket whose kernel takes and delivers every byte, on which
    the server sends three `\0`-terminated messages that the handshake rejects with `e`:
    `connect` raises `e` itself, or, when `e` is a `ReqlAuthError`, the `ReqlDriverError`
    `Server host:port` it causes; and `e` is a `ReqlAuthError` exactly when one of the three
    authentication checks rejected the server's message. -/
theorem connect_raises_auth_failure_iff (hlib : RaisesNoAuth codec crypto) {conn : Connection}
    {s : Socket} (hsend : s.sendPlan = []) (hrecv : s.recvPlan = [])
    {randomBytes m1 m2 m3 rest : Bytes} (h1 : 0 ∉ m1) (h2 : 0 ∉ m2) (h3 : 0 ∉ m3)
    (hin : s.inbound = m1 ++ 0 :: (m2 ++ 0 :: (m3 ++ 0 :: rest))) {e : PyExc}
    {h' : HandshakeV1_0}
    (hrun : run ql2 codec crypto randomBytes m1 m2 m3 conn.protocol.handshake = .error e h') :
    (∃ after, connect ql2 codec crypto randomBytes (.opened s) conn =
      .error (if e.isInstance .ReqlAuthError then
        authFailure conn.transport.client.host conn.transport.client.port e else e) after) ∧
    (e.isInstance .ReqlAuthError = true ↔
      RejectsRun ql2 codec crypto randomBytes m1 m2 m3 conn.protocol.handshake) := by
  have hopen : onClient (·.connect (.opened s)) conn =
      .ok () (onSocket conn s conn.protocol.handshake s.inbound s.sent) := rfl
  rw [hin] at hopen
  obtain ⟨_, _, _, hloop⟩ := @handshake_onSocket_error ql2 codec crypto conn s hsend hrecv
    randomBytes m1 m2 m3 rest s.sent h1 h2 h3 _ _ _ hrun
  exact ⟨⟨_, by simp only [connect, EStateM.bind_of_eq_ok hopen,
    EStateM.bind_of_eq_error (wrapAuthError_of_error hloop)]; rfl⟩, run_raises_auth_iff hlib hrun⟩

set_option maxRecDepth 2000 in
/-- The server's first message rejects the password with `error_code` `12`: the first check
    rejected authentication, and `connect` raises the `ReqlDriverError` `Server localhost:28015`
    caused by the `ReqlAuthError` `Wrong password`. -/
theorem connect_raises_auth_failure_wrong_password :
    let conn : Connection := Connection.initial "localhost" 28015 false "admin" "" none 0
    let codec := JsonCodec.over [wrongPassword]
    (∃ after, connect Ql2.proto codec Crypto.standIn [0, 0, 0]
        (.opened ⟨jsonBytes wrongPassword ++ [0, 0, 0], [], [], []⟩) conn =
      .error (authFailure "localhost" 28015 (reqlAuthError "Wrong password")) after) ∧
    RejectsRun Ql2.proto codec Crypto.standIn [0, 0, 0] (jsonBytes wrongPassword) [] []
      conn.protocol.handshake :=
  have h := @connect_raises_auth_failure_iff Ql2.proto (JsonCodec.over [wrongPassword])
    Crypto.standIn (raisesNoAuth_over_standIn _)
    (Connection.initial "localhost" 28015 false "admin" "" none 0)
    ⟨jsonBytes wrongPassword ++ [0, 0, 0], [], [], []⟩ rfl rfl [0, 0, 0]
    (jsonBytes wrongPassword) [] [] [] (by decide) (by decide) (by decide) rfl
    (reqlAuthError "Wrong password") _ rfl
  ⟨h.1, h.2.mp rfl⟩

end Connection

end RethinkDriver

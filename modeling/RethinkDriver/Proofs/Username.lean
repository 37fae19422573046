import RethinkDriver.Proofs.Scram

/-!
# The user name in the client-first-message

`HandshakeV1_0.__init__` (`core/net/handshake.py:116-120`) escapes the name as
`username.replace("=", "=3D").replace(",", "=2C")`. For every name, the escaped text has no
`,` and the inverse substitutions give the name back (`unescapeUsername_escapeUsername`).

`__initialize_connection` (`handshake.py:188-215`) encodes the escaped name as Latin-1 in
`chain_to_bytes` and then decodes `"n,," + first` as ASCII, so it completes exactly for
ASCII names (`initializeConnection_new_of_ascii`,
`isAscii_of_initializeConnection_new_ok`): a character beyond Latin-1, such as `€`, raises
`UnicodeEncodeError` at once (`initializeConnection_new_of_not_latin1`), and a Latin-1
character beyond ASCII `UnicodeDecodeError` (`initializeConnection_new_of_not_ascii`).
`__get_authentication_message` reads `n=` + name + `,r=` + nonce back as its two
attributes when the name is ASCII, and raises on its `encode("ascii")` otherwise
(`getAuthenticationMessage_clientFirst`).
-/

namespace RethinkDriver

namespace HandshakeV1_0

/-- Modelled from the spec: `s.replace(a + b + c, r)`: from the left, each occurrence of the
    three characters that does not overlap an earlier one becomes `r`. -/
def replaceTriple (a b c r : Char) : List Char → List Char
  | [] => []
  | [x] => [x]
  | [x, y] => [x, y]
  | x :: y :: z :: rest =>
    if x = a ∧ y = b ∧ z = c then r :: replaceTriple a b c r rest
    else x :: replaceTriple a b c r (y :: z :: rest)

/-- Modelled from the spec: the inverse of the escaping,
    `name.replace("=2C", ",").replace("=3D", "=")`. -/
def unescapeUsername (name : String) : String :=
  String.mk (replaceTriple '=' '3' 'D' '=' (replaceTriple '=' '2' 'C' ',' name.toList))

/-! ## Escaping and unescaping -/

section Replace

variable {a b c r : Char}

theorem replaceTriple_cons_of_ne {x : Char} (hx : x ≠ a) (xs : List Char) :
    replaceTriple a b c r (x :: xs) = x :: replaceTriple a b c r xs := by
  match xs with
  | [] => rfl
  | [_] => rfl
  | _ :: _ :: _ => simp [replaceTriple, hx]

theorem replaceTriple_cons_cons_of_ne {y : Char} (hy : y ≠ b) (ys : List Char) :
    replaceTriple a b c r (a :: y :: ys) = a :: replaceTriple a b c r (y :: ys) := by
  match ys with
  | [] => rfl
  | _ :: _ => simp [replaceTriple, hy]

theorem replaceTriple_match (rest : List Char) :
    replaceTriple a b c r (a :: b :: c :: rest) = r :: replaceTriple a b c r rest := by
  simp [replaceTriple]

end Replace

/-- What the escaping makes of one character. -/
def escapeChar (x : Char) : List Char :=
  if x = '=' then ['=', '3', 'D'] else if x = ',' then ['=', '2', 'C'] else [x]

theorem toList_escapeUsername (u : String) :
    (escapeUsername u).toList = u.toList.flatMap escapeChar :=
  ScramServer.replaceChar_escape u.toList

/-- Undoing `=2C` leaves the name with only its `=` escaped. -/
theorem replaceTriple_comma (cs : List Char) :
    replaceTriple '=' '2' 'C' ',' (cs.flatMap escapeChar) =
      cs.flatMap fun x => if x = '=' then ['=', '3', 'D'] else [x] := by
  induction cs with
  | nil => rfl
  | cons x cs ih =>
    simp only [List.flatMap_cons, escapeChar]
    split_ifs with h₁ h₂
    · simp only [List.cons_append, List.nil_append]
      rw [replaceTriple_cons_cons_of_ne (by decide), replaceTriple_cons_of_ne (by decide),
        replaceTriple_cons_of_ne (by decide), ih]
    · rw [List.cons_append, List.cons_append, List.cons_append, List.nil_append,
        replaceTriple_match, ih, h₂]
      rfl
    · rw [List.singleton_append, replaceTriple_cons_of_ne h₁, ih]
      rfl

/-- Undoing `=3D` then gives the name back. -/
theorem replaceTriple_equals (cs : List Char) :
    replaceTriple '=' '3' 'D' '=' (cs.flatMap fun x => if x = '=' then ['=', '3', 'D'] else [x]) =
      cs := by
  induction cs with
  | nil => rfl
  | cons x cs ih =>
    simp only [List.flatMap_cons]
    split_ifs with h
    · rw [List.cons_append, List.cons_append, List.cons_append, List.nil_append,
        replaceTriple_match, ih, h]
    · rw [List.singleton_append, replaceTriple_cons_of_ne h, ih]

/-- The inverse substitutions give every name back. -/
theorem unescapeUsername_escapeUsername (u : String) : unescapeUsername (escapeUsername u) = u := by
  simp only [unescapeUsername, toList_escapeUsername, replaceTriple_comma, replaceTriple_equals]
  rfl

example : escapeUsername "a=,b" = "a=3D=2Cb" ∧ unescapeUsername "a=3D=2Cb" = "a=,b" := by decide

theorem comma_not_mem_escapeUsername (u : String) : ',' ∉ (escapeUsername u).toList := by
  simp only [toList_escapeUsername, List.mem_flatMap, not_exists, not_and, escapeChar]
  intro x _
  split_ifs with h₁ h₂
  · decide
  · decide
  · simpa [eq_comm] using h₂

/-- A property of every character of the escaped name is one of every character of the name,
    when the escape characters have it. -/
theorem forall_mem_escapeUsername_iff {P : Char → Prop} (u : String)
    (hP : P '=' ∧ P '3' ∧ P 'D' ∧ P ',' ∧ P '2' ∧ P 'C') :
    (∀ x ∈ (escapeUsername u).toList, P x) ↔ ∀ x ∈ u.toList, P x := by
  obtain ⟨h₁, h₂, h₃, h₄, h₅, h₆⟩ := hP
  simp only [toList_escapeUsername, List.mem_flatMap, forall_exists_index, and_imp]
  refine ⟨fun h x hx => ?_, fun h y x hx hy => ?_⟩
  · by_cases hx₁ : x = '='
    · exact hx₁ ▸ h₁
    · by_cases hx₂ : x = ','
      · exact hx₂ ▸ h₄
      · exact h x x hx (by simp [escapeChar, hx₁, hx₂])
  · simp only [escapeChar] at hy
    split_ifs at hy <;> simp only [List.mem_cons, List.mem_singleton, List.not_mem_nil,
      or_false] at hy
    · rcases hy with rfl | rfl | rfl <;> assumption
    · rcases hy with rfl | rfl | rfl <;> assumption
    · exact hy ▸ h x hx

theorem isAscii_escapeUsername_iff (u : String) :
    IsAscii (escapeUsername u).data ↔ IsAscii u.data :=
  forall_mem_escapeUsername_iff u (by decide)

theorem isLatin1_escapeUsername_iff (u : String) :
    IsLatin1 (escapeUsername u).data ↔ IsLatin1 u.data :=
  forall_mem_escapeUsername_iff u (by decide)

/-! ## The client-first-message -/

theorem chainToBytes_str_latin1 {s : String} (h : IsLatin1 s.toList) (parts : List StrOrBytes) :
    chainToBytes (.str s :: parts) = (chainToBytes parts).map (asciiBytes s.toList ++ ·) := by
  simp only [chainToBytes, latin1Encode_eq s.toList, if_pos h, bind, Except.bind]
  cases chainToBytes parts <;> rfl

theorem chainToBytes_str_of_not_latin1 {s : String} (h : ¬IsLatin1 s.toList)
    (parts : List StrOrBytes) : chainToBytes (.str s :: parts) = .error .unicodeEncodeError := by
  simp only [chainToBytes, latin1Encode_eq s.toList, if_neg h, bind, Except.bind]

variable {ql2 : Ql2} {codec : JsonCodec} {crypto : Crypto} {randomBytes : Bytes}

/-- When `chain_to_bytes` refuses the bare message, nothing after it runs. -/
theorem initializeConnection_of_first_error {h : HandshakeV1_0} {e : PyExc}
    (hfirst : chainToBytes [.str "n=", .str h.username, .str ",r=",
      .bytes (crypto.b64encode randomBytes)] = .error e) :
    initializeConnection ql2 codec crypto randomBytes h =
      .error e { h with randomNonce := crypto.b64encode randomBytes } := by
  simp only [initializeConnection, bind, EStateM.bind, get, getThe, MonadStateOf.get, EStateM.get,
    modify, modifyGet, MonadStateOf.modifyGet, EStateM.modifyGet, hfirst, liftPy_error]

/-- When `decode("ascii")` refuses `n,,` and the bare message, the version word has been
    packed and the JSON is never encoded. -/
theorem initializeConnection_of_decode_error (hversion : ql2.V1_0 < 2 ^ 32) {h : HandshakeV1_0}
    {first : Bytes} {e : PyExc}
    (hfirst : chainToBytes [.str "n=", .str h.username, .str ",r=",
      .bytes (crypto.b64encode randomBytes)] = .ok first)
    (hdecode : asciiDecode ([110, 44, 44] ++ first) = .error e) :
    initializeConnection ql2 codec crypto randomBytes h = .error e
      { h with randomNonce := crypto.b64encode randomBytes, firstClientMessage := first } := by
  have hauth : (chainToBytes [.str "n,,", .bytes first]).bind asciiDecode = .error e := by
    simp only [chainToBytes_str (by decide : IsAscii "n,,".data), chainToBytes_bytes,
      chainToBytes_nil, Except.map, List.append_nil]
    exact hdecode
  simp only [initializeConnection, bind, EStateM.bind, get, getThe, MonadStateOf.get, EStateM.get,
    modify, modifyGet, MonadStateOf.modifyGet, EStateM.modifyGet, liftPy, hfirst, hauth, packL,
    hversion, if_true]

section New

variable (u p : String)

theorem initializeConnection_new_of_ascii (hversion : ql2.V1_0 < 2 ^ 32)
    (hcodec : codec.RoundTrips) (hcrypto : crypto.Sound) (hu : IsAscii u.data) :
    ∃ r h, initializeConnection ql2 codec crypto randomBytes (new u p) = .ok r h := by
  have hesc := (isAscii_escapeUsername_iff u).mpr hu
  have hnonce := (hcrypto.b64encode_attrValue randomBytes).1
  obtain ⟨json, henc, -⟩ := hcodec _ (firstRequest_flat
    ((by decide : IsAsciiBytes [110, 44, 44]).append (clientFirstBare_ascii hesc hnonce)))
    (by simp [firstRequest])
  exact ⟨_, _, initializeConnection_ok hversion hesc hnonce henc⟩

theorem initializeConnection_new_of_not_latin1 (hu : ¬IsLatin1 u.data) :
    initializeConnection ql2 codec crypto randomBytes (new u p) = .error .unicodeEncodeError
      { new u p with randomNonce := crypto.b64encode randomBytes } :=
  initializeConnection_of_first_error (by
    simp only [chainToBytes_str (by decide : IsAscii "n=".data), new, Except.map,
      chainToBytes_str_of_not_latin1 (mt (isLatin1_escapeUsername_iff u).mp hu)])

theorem initializeConnection_new_of_not_ascii (hversion : ql2.V1_0 < 2 ^ 32)
    (hlatin1 : IsLatin1 u.data) (hu : ¬IsAscii u.data) :
    ∃ h, initializeConnection ql2 codec crypto randomBytes (new u p) =
      .error .unicodeDecodeError h := by
  have hesc := (isLatin1_escapeUsername_iff u).mpr hlatin1
  have hfirst : chainToBytes [.str "n=", .str (escapeUsername u), .str ",r=",
      .bytes (crypto.b64encode randomBytes)] = .ok (asciiBytes "n=".toList ++
        (asciiBytes (escapeUsername u).toList ++ (asciiBytes ",r=".toList ++
          (crypto.b64encode randomBytes ++ [])))) := by
    simp only [chainToBytes_str (by decide : IsAscii "n=".data), chainToBytes_str_latin1 hesc,
      chainToBytes_str (by decide : IsAscii ",r=".data), chainToBytes_bytes, chainToBytes_nil]
    rfl
  refine ⟨_, initializeConnection_of_decode_error hversion hfirst ?_⟩
  rw [asciiDecode_eq, if_neg]
  intro hall
  refine mt (isAscii_escapeUsername_iff u).mp hu ((isAsciiBytes_asciiBytes_iff hesc).mp ?_)
  exact fun x hx => hall x (List.mem_append_right _ (List.mem_append_right _
    (List.mem_append_left _ hx)))

end New

/-! ## The attributes read back -/

theorem data_clientFirstText (e nonce : String) :
    ("n=" ++ e ++ ",r=" ++ nonce).data = ['n', '='] ++ e.data ++ [',', 'r', '='] ++ nonce.data := by
  simp only [String.data_append]

/-- `__get_authentication_message` on `n=` + the escaped name + `,r=` + a nonce of ASCII
    characters without `,`: the dictionary `{b"n": e(u), b"r": nonce}` when the name is
    ASCII, and the `UnicodeEncodeError` of `encode("ascii")` otherwise. -/
theorem getAuthenticationMessage_clientFirst {json : PyValue} (u : String) {nonce : String}
    (hnonce : IsAscii nonce.data) (hcomma : ',' ∉ nonce.data)
    (hjson : json.getItem "authentication" =
      .ok (.str ("n=" ++ escapeUsername u ++ ",r=" ++ nonce))) :
    getAuthenticationMessage json = if IsAscii u.data then
      .ok ((PyDict.empty.set [110] (asciiBytes (escapeUsername u).data)).set [114]
        (asciiBytes nonce.data))
    else .error .unicodeEncodeError := by
  split_ifs with hu
  · have hesc := (isAscii_escapeUsername_iff u).mpr hu
    have hascii : IsAscii ("n=" ++ escapeUsername u ++ ",r=" ++ nonce).data := by
      rw [data_clientFirstText]
      exact (((by decide : IsAscii ['n', '=']).append hesc).append (by decide)).append hnonce
    have hbytes : asciiBytes ("n=" ++ escapeUsername u ++ ",r=" ++ nonce).data =
        ScramServer.attrText [(110, asciiBytes (escapeUsername u).data),
          (114, asciiBytes nonce.data)] := by
      simp only [data_clientFirstText, asciiBytes_append, ScramServer.attrText_cons_cons,
        ScramServer.attrText_singleton, List.append_assoc]
      rfl
    refine @ScramServer.getAuthenticationMessage_attrText json
      [(110, asciiBytes (escapeUsername u).data), (114, asciiBytes nonce.data)]
      (hjson.trans ?_) (by simp) ?_
    · rw [← hbytes, latin1Decode_asciiBytes hascii]
    · simp only [List.mem_cons, List.mem_singleton, List.not_mem_nil, or_false,
        forall_eq_or_imp, forall_eq]
      exact ⟨⟨by decide, by decide, by decide,
          asciiBytes_attrValue hesc (comma_not_mem_escapeUsername u)⟩,
        by decide, by decide, by decide, asciiBytes_attrValue hnonce hcomma⟩
  · have htext : ¬IsAscii ("n=" ++ escapeUsername u ++ ",r=" ++ nonce).data := fun h =>
      mt (isAscii_escapeUsername_iff u).mp hu fun c hc =>
        h c (by rw [data_clientFirstText]; simp [hc])
    simp only [getAuthenticationMessage, hjson, bind, Except.bind, PyValue.encodeAscii,
      String.toList, asciiEncode_eq, if_neg htext]

/-! ## The escaped name in the handshake -/

theorem isAscii_of_initializeConnection_new_ok (hversion : ql2.V1_0 < 2 ^ 32) {u p : String}
    {r : Bytes} {h : HandshakeV1_0}
    (hok : initializeConnection ql2 codec crypto randomBytes (new u p) = .ok r h) :
    IsAscii u.data := by
  by_contra hu
  by_cases hlatin1 : IsLatin1 u.data
  · obtain ⟨h', herr⟩ := initializeConnection_new_of_not_ascii u p hversion hlatin1 hu
    rw [hok] at herr
    cases herr
  · rw [initializeConnection_new_of_not_latin1 u p hlatin1] at hok
    cases hok

/-- What the handshake does with every user name: the escaped name has no `,` and the
    inverse substitutions give the name back; `__initialize_connection` completes exactly for
    ASCII names, `chain_to_bytes` refusing a character beyond Latin-1 and `decode("ascii")` a
    Latin-1 character beyond ASCII; and `__get_authentication_message` reads
    `n=` + the escaped name + `,r=` + a nonce as the two attributes exactly for ASCII names. -/
theorem escapeUsername_client_first (hversion : ql2.V1_0 < 2 ^ 32) (hcodec : codec.RoundTrips)
    (hcrypto : crypto.Sound) :
    (∀ u : String,
      ',' ∉ (escapeUsername u).data ∧ unescapeUsername (escapeUsername u) = u) ∧
    (∀ (u p : String) (randomBytes : Bytes),
      ((∃ r h, initializeConnection ql2 codec crypto randomBytes (new u p) = .ok r h) ↔
        IsAscii u.data) ∧
      (¬IsLatin1 u.data → ∃ h, initializeConnection ql2 codec crypto randomBytes (new u p) =
        .error .unicodeEncodeError h) ∧
      (IsLatin1 u.data → ¬IsAscii u.data → ∃ h,
        initializeConnection ql2 codec crypto randomBytes (new u p) =
          .error .unicodeDecodeError h)) ∧
    (∀ (json : PyValue) (u nonce : String), IsAscii nonce.data → ',' ∉ nonce.data →
      json.getItem "authentication" = .ok (.str ("n=" ++ escapeUsername u ++ ",r=" ++ nonce)) →
      getAuthenticationMessage json = if IsAscii u.data then
        .ok ((PyDict.empty.set [110] (asciiBytes (escapeUsername u).data)).set [114]
          (asciiBytes nonce.data))
      else .error .unicodeEncodeError) :=
  ⟨fun u => ⟨comma_not_mem_escapeUsername u, unescapeUsername_escapeUsername u⟩,
    fun u p _ => ⟨⟨fun ⟨_, _, hok⟩ => isAscii_of_initializeConnection_new_ok hversion hok,
        initializeConnection_new_of_ascii u p hversion hcodec hcrypto⟩,
      fun hu => ⟨_, initializeConnection_new_of_not_latin1 u p hu⟩,
      initializeConnection_new_of_not_ascii u p hversion⟩,
    fun _ u _ hnonce hcomma hjson => getAuthenticationMessage_clientFirst u hnonce hcomma hjson⟩

/-- The stand-in collaborators and the reference JSON codec, for the name `admin`. -/
theorem escapeUsername_client_first_admin :
    Ql2.proto.V1_0 < 2 ^ 32 ∧ ∃ r h,
      initializeConnection Ql2.proto JsonCodec.reference Crypto.standIn [0, 0, 0]
        (new "admin" "") = .ok r h :=
  ⟨by decide, ((escapeUsername_client_first (by decide) JsonCodec.reference_roundTrips
    Crypto.standIn_sound).2.1 "admin" "" [0, 0, 0]).1.2 (by decide)⟩

/-- The user name `€`, beyond Latin-1: `chain_to_bytes` raises `UnicodeEncodeError` on the
    bare message, before the version word is packed. -/
theorem initializeConnection_rejects_euro :
    ∃ h, initializeConnection Ql2.proto JsonCodec.reference Crypto.standIn [0, 0, 0]
      (new "€" "") = .error .unicodeEncodeError h :=
  ⟨_, rfl⟩

end HandshakeV1_0

end RethinkDriver

import RethinkDriver.Handshake

/-!
# Reference collaborators

The statements on fixed inputs need values for the parameters the driver leaves open.
`Ql2.proto` is the code table of `ql2.proto`, from which `ql2_pb2` is generated.
`jsonEncode` is `json.JSONEncoder` with the settings of `ReqlEncoder`
(`core/converter/json_encoder.py:15-36`: `ensure_ascii=False`, `allow_nan=False`,
separators `","` and `":"`). `JsonCodec.over docs` encodes with it and decodes exactly the
encodings of `docs`, to the document they encode, as `json.loads` does for documents with no
`$reql_type$` key; any other input is rejected as malformed. `JsonCodec.reference` decodes with
a reader of flat JSON objects (string, truth-value, `null` and natural-number members), which
is what the handshake exchanges. `Crypto.standIn` is real base64 with a stand-in digest.
-/

namespace RethinkDriver

/-- The codes of `ql2.proto` (`Response.ResponseType`, `Query.QueryType`,
    `Response.ErrorType`, `VersionDummy.Version.V1_0`, and `Term.TermType.DB = 14`). -/
def Ql2.proto : Ql2 where
  responseType
    | .SUCCESS_ATOM => 1 | .SUCCESS_SEQUENCE => 2 | .SUCCESS_PARTIAL => 3
    | .WAIT_COMPLETE => 4 | .SERVER_INFO => 5 | .CLIENT_ERROR => 16
    | .COMPILE_ERROR => 17 | .RUNTIME_ERROR => 18
  responseType_injective := by intro a b h; cases a <;> cases b <;> first | rfl | cases h
  queryType
    | .START => 1 | .CONTINUE => 2 | .STOP => 3 | .NOREPLY_WAIT => 4 | .SERVER_INFO => 5
  errorType
    | .INTERNAL => 1000000 | .RESOURCE_LIMIT => 2000000 | .QUERY_LOGIC => 3000000
    | .NON_EXISTENCE => 3100000 | .OP_FAILED => 4100000 | .OP_INDETERMINATE => 4200000
    | .USER => 5000000 | .PERMISSION_ERROR => 6000000
  errorType_injective := by intro a b h; cases a <;> cases b <;> first | rfl | cases h
  V1_0 := 0x34c2bdc3
  dbTerm name := .list [.int 14, .list [name]]

/-- The hexadecimal digit of a value below 16, in lower case. -/
def hexDigit (k : Nat) : Char := if k < 10 then Char.ofNat (48 + k) else Char.ofNat (87 + k)

/-- The two hexadecimal digits of a byte below 256, in lower case. -/
def hex2 (n : Nat) : String := String.mk [hexDigit (n / 16 % 16), hexDigit (n % 16)]

/-- One character of a JSON string literal as `json.dumps(s, ensure_ascii=False)` writes it. -/
def jsonEscape (c : Char) : String :=
  if c = '"' then "\\\"" else if c = '\\' then "\\\\"
  else if c = '\n' then "\\n" else if c = '\r' then "\\r" else if c = '\t' then "\\t"
  else if c = '\x08' then "\\b" else if c = '\x0c' then "\\f"
  else if c.toNat < 32 then "\\u00" ++ hex2 c.toNat
  else String.singleton c

/-- A JSON string literal as `json.dumps(s, ensure_ascii=False)` writes it. -/
def jsonString (s : String) : String := "\"" ++ String.join (s.toList.map jsonEscape) ++ "\""

/-- The exact decimal of a finite float: `m * 2 ^ e` has a terminating expansion, which reads
    back to the same double (CPython prints the shortest such string, the same value). -/
def floatText (m e : Int) : String :=
  if 0 ≤ e then s!"{m * 2 ^ e.toNat}.0"
  else
    let k := (-e).toNat
    let scaled := m.natAbs * 5 ^ k
    let whole := scaled / 10 ^ k
    let frac := (Nat.toDigits 10 (scaled % 10 ^ k + 10 ^ k)).drop 1
    let sign := if m < 0 then "-" else ""
    sign ++ toString whole ++ "." ++ String.mk frac

mutual
/-- `ReqlEncoder().encode(v)`; values with no JSON form raise `TypeError` (`default`) or
    `ValueError` (`allow_nan=False`). -/
def jsonEncode : PyValue → Except PyExc String
  | .none => .ok "null"
  | .bool true => .ok "true"
  | .bool false => .ok "false"
  | .int i => .ok (toString i)
  | .float (.finite m e) => .ok (floatText m e)
  | .float _ => .error (.valueError "Out of range float values are not JSON compliant")
  | .str s => .ok (jsonString s)
  | .list xs | .tuple xs => (jsonEncodeList xs).map fun t => "[" ++ t ++ "]"
  | .dict entries => (jsonEncodeEntries entries).map fun t => "\x7b" ++ t ++ "\x7d"
  | .bytes _ | .frozenset _ | .object _ => .error .typeError
/-- The elements of an array, separated by `,`. -/
def jsonEncodeList : List PyValue → Except PyExc String
  | [] => .ok ""
  | [x] => jsonEncode x
  | x :: xs => do pure ((← jsonEncode x) ++ "," ++ (← jsonEncodeList xs))
/-- The members of an object, separated by `,`; keys are strings, or scalars written as
    strings. -/
def jsonEncodeEntries : List (PyValue × PyValue) → Except PyExc String
  | [] => .ok ""
  | [(k, v)] => do pure ((← jsonKey k) ++ ":" ++ (← jsonEncode v))
  | (k, v) :: entries => do
    pure ((← jsonKey k) ++ ":" ++ (← jsonEncode v) ++ "," ++ (← jsonEncodeEntries entries))
/-- An object key. -/
def jsonKey : PyValue → Except PyExc String
  | .str s => .ok (jsonString s)
  | .int i => .ok (jsonString (toString i))
  | .bool true => .ok "\"true\""
  | .bool false => .ok "\"false\""
  | .none => .ok "\"null\""
  | _ => .error .typeError
end

/-! ## Base64 and a stand-in digest -/

/-- The base64 digit (`A-Z`, `a-z`, `0-9`, `+`, `/`) of a value below 64. -/
def b64Digit (n : Nat) : UInt8 :=
  UInt8.ofNat (if n < 26 then 65 + n else if n < 52 then 71 + n else if n < 62 then n - 4
    else if n = 62 then 43 else 47)

/-- The value of a base64 digit. -/
def b64Value (b : UInt8) : Option Nat :=
  let c := b.toNat
  if 65 ≤ c ∧ c < 91 then some (c - 65) else if 97 ≤ c ∧ c < 123 then some (c - 71)
  else if 48 ≤ c ∧ c < 58 then some (c + 4) else if c = 43 then some 62
  else if c = 47 then some 63 else none

/-- `base64.b64encode`: each three bytes as four digits, the last group padded with `=`. -/
def base64Encode : Bytes → Bytes
  | a :: b :: c :: rest =>
    let n := a.toNat * 65536 + b.toNat * 256 + c.toNat
    [b64Digit (n / 262144), b64Digit (n / 4096 % 64), b64Digit (n / 64 % 64), b64Digit (n % 64)] ++
      base64Encode rest
  | [a, b] =>
    let n := a.toNat * 65536 + b.toNat * 256
    [b64Digit (n / 262144), b64Digit (n / 4096 % 64), b64Digit (n / 64 % 64), 61]
  | [a] =>
    let n := a.toNat * 65536
    [b64Digit (n / 262144), b64Digit (n / 4096 % 64), 61, 61]
  | [] => []

/-- `base64.standard_b64decode` on canonical input: groups of four digits, `=` only as the
    padding of the last group; anything else raises `binascii.Error`, a `ValueError`. -/
def base64Decode : Bytes → Except PyExc Bytes
  | [] => .ok []
  | w :: x :: y :: z :: rest =>
    match b64Value w, b64Value x with
    | some a, some b =>
      let n := a * 262144 + b * 4096
      if y = 61 ∧ z = 61 ∧ rest = [] then .ok [UInt8.ofNat (n / 65536)]
      else match b64Value y with
        | none => .error (.valueError "Invalid base64-encoded string")
        | some c =>
          let n := n + c * 64
          if z = 61 ∧ rest = [] then .ok [UInt8.ofNat (n / 65536), UInt8.ofNat (n / 256 % 256)]
          else match b64Value z with
            | none => .error (.valueError "Invalid base64-encoded string")
            | some d =>
              (base64Decode rest).map fun tail =>
                [UInt8.ofNat ((n + d) / 65536), UInt8.ofNat ((n + d) / 256 % 256),
                  UInt8.ofNat ((n + d) % 256)] ++ tail
    | _, _ => .error (.valueError "Invalid base64-encoded string")
  | _ => .error (.valueError "Incorrect padding")

/-- A stand-in for a 256-bit digest: the bytes read in base 257 modulo `2 ^ 256 - 189`,
    written on 32 bytes. It is not SHA-256; the statements on fixed inputs hold for it
    because they hold for every function of this width. -/
def digest32 (x : Bytes) : Bytes :=
  toListLE 32 (x.foldl (fun acc b => (acc * 257 + b.toNat) % (2 ^ 256 - 189)) 0)

/-- The collaborators of the handshake for the statements on fixed inputs: real base64, and
    `digest32` in place of SHA-256, HMAC and PBKDF2 (which raises, as `hashlib` does, for
    fewer than one iteration). -/
def Crypto.standIn : Crypto where
  hmac k m := digest32 (k ++ [0] ++ m)
  sha256 := digest32
  pbkdf2 p salt i :=
    if 0 < i then .ok (digest32 (p ++ salt ++ toListLE 4 i.toNat))
    else .error (.valueError "iteration value must be greater than 0.")
  b64encode := base64Encode
  b64decode := base64Decode

/-- The reference encoder, and a decoder for the documents `docs`. -/
def JsonCodec.over (docs : List PyValue) : JsonCodec where
  encode := jsonEncode
  decode _ b :=
    match docs.find? fun v => (jsonEncode v).toOption.map utf8Encode = some b with
    | some v => .ok v
    | none => .error (.valueError "Expecting value")

/-! ## A JSON reader for flat documents -/

/-- The value of a hexadecimal digit, in either case. -/
def hexValue (c : Char) : Option Nat :=
  if c.isDigit then some (c.toNat - 48)
  else if 'a' ≤ c ∧ c ≤ 'f' then some (c.toNat - 87)
  else if 'A' ≤ c ∧ c ≤ 'F' then some (c.toNat - 55) else none

/-- The character a two-character escape of a JSON string stands for. -/
def jsonUnescape : Char → Option Char
  | '"' => some '"' | '\\' => some '\\' | '/' => some '/' | 'b' => some '\x08'
  | 'f' => some '\x0c' | 'n' => some '\n' | 'r' => some '\r' | 't' => some '\t'
  | _ => none

/-- The characters of a JSON string literal after its opening quote, and what follows its
    closing quote, as `json.loads` reads them: escapes are replaced, and a raw control
    character is rejected. A `\u` escape stands for one character; surrogate pairs are left
    out. -/
def jsonReadString : List Char → Option (List Char × List Char)
  | [] => none
  | c :: rest =>
    if c = '"' then some ([], rest)
    else if c = '\\' then
      match rest with
      | 'u' :: a :: b :: d :: e :: rest' => do
        let v ← [a, b, d, e].foldlM (fun acc h => (hexValue h).map (16 * acc + ·)) 0
        let (s, r) ← jsonReadString rest'
        pure (Char.ofNat v :: s, r)
      | e :: rest' => do
        let c ← jsonUnescape e
        let (s, r) ← jsonReadString rest'
        pure (c :: s, r)
      | [] => none
    else if c.toNat < 32 then none
    else (jsonReadString rest).map fun (s, r) => (c :: s, r)

/-- A JSON scalar: a string, `true`, `false`, `null` or a natural number. -/
def jsonReadScalar : List Char → Option (PyValue × List Char)
  | '"' :: rest => (jsonReadString rest).map fun (s, r) => (.str (String.mk s), r)
  | 't' :: 'r' :: 'u' :: 'e' :: rest => some (.bool true, rest)
  | 'f' :: 'a' :: 'l' :: 's' :: 'e' :: rest => some (.bool false, rest)
  | 'n' :: 'u' :: 'l' :: 'l' :: rest => some (.none, rest)
  | cs => (digitsValue (cs.takeWhile Char.isDigit)).map fun n =>
    (.int n, cs.dropWhile Char.isDigit)

/-- The members of a JSON object after its `{`, and what follows its `}`; at most `fuel` of
    them. -/
def jsonReadMembers : Nat → List Char → Option (List (String × PyValue) × List Char)
  | 0, _ => none
  | fuel + 1, '"' :: rest => do
    let (k, rest) ← jsonReadString rest
    let rest ← match rest with
      | ':' :: rest => some rest
      | _ => none
    let (v, rest) ← jsonReadScalar rest
    match rest with
    | ',' :: rest => (jsonReadMembers fuel rest).map fun (es, r) => ((String.mk k, v) :: es, r)
    | '}' :: rest => some ([(String.mk k, v)], rest)
    | _ => none
  | _ + 1, _ => none

/-- `d[k] = v` on the members read so far: a key already present keeps its place. -/
def dictSet (es : List (String × PyValue)) (e : String × PyValue) : List (String × PyValue) :=
  if es.any (·.1 = e.1) then es.map fun x => if x.1 = e.1 then e else x else es ++ [e]

/-- `json.loads` of a JSON object whose members are scalars. -/
def jsonReadObject : List Char → Option PyValue
  | ['{', '}'] => some (.dict [])
  | '{' :: rest => match jsonReadMembers rest.length rest with
    | some (es, []) => some (.dict ((es.foldl dictSet []).map fun e => (.str e.1, e.2)))
    | _ => none
  | _ => none

/-- The reference encoder, and `json.loads` for the flat documents of ASCII text it writes;
    anything else is rejected as malformed. -/
def JsonCodec.reference : JsonCodec where
  encode := jsonEncode
  decode _ b := match (asciiDecode b).toOption.bind jsonReadObject with
    | some v => .ok v
    | none => .error (.valueError "Expecting value")

/-- The bytes the reference encoder writes for `doc`, as a server would send them. -/
def jsonBytes (doc : PyValue) : Bytes := ((jsonEncode doc).toOption.map utf8Encode).getD []

end RethinkDriver

import RethinkDriver.Bytes

/-!
# Queries and responses

`core/net/msg.py`: the `Query` a connection sends and the `Response` it reads back, with
`Query.serialize` (the request frame), `Response.__init__` (the decoded body),
`get_data` and `make_error` (what a response means to its caller).

Three things the module uses are not in the repository. The response, query and error
type codes come from the generated `ql2_pb2`; the model takes them as a parameter `Ql2`,
asking only that distinct names have distinct codes. The `Token` class and its generator
live in `core/net/token.py`, which is missing too; they are modelled from the spec. The
JSON encoder and decoder classes are pluggable (`ConnectionConfig.json_encoder`,
`json_decoder`) and are a parameter `JsonCodec`. Terms are kept in the form the encoder
sees them, the value `ReqlQuery.build()` returns.
-/

namespace RethinkDriver

/-- `ql2_pb2.Response.ResponseType`: the names the driver compares against. -/
inductive ResponseType where
  | SUCCESS_ATOM | SUCCESS_SEQUENCE | SUCCESS_PARTIAL | WAIT_COMPLETE | SERVER_INFO
  | CLIENT_ERROR | COMPILE_ERROR | RUNTIME_ERROR
  deriving DecidableEq, Repr

/-- `ql2_pb2.Query.QueryType`. -/
inductive QueryType where
  | START | CONTINUE | STOP | NOREPLY_WAIT | SERVER_INFO
  deriving DecidableEq, Repr

/-- `ql2_pb2.Response.ErrorType`. -/
inductive ErrorType where
  | INTERNAL | RESOURCE_LIMIT | QUERY_LOGIC | NON_EXISTENCE | OP_FAILED | OP_INDETERMINATE
  | USER | PERMISSION_ERROR
  deriving DecidableEq, Repr

/-- The `ql2_pb2` tables the driver imports (`msg.py:27-29`, `handshake.py:148`). The
    generated module is not in the repository, so its codes are a parameter; distinct
    response and error names have distinct codes. -/
structure Ql2 where
  responseType : ResponseType → Int
  responseType_injective : Function.Injective responseType
  queryType : QueryType → Int
  errorType : ErrorType → Int
  errorType_injective : Function.Injective errorType
  /-- `VersionDummy.Version.V1_0`. -/
  V1_0 : Nat
  /-- `ast.DB(name).build()`: `core/ast.py`, which builds terms from these tables, is not in
      the repository either. -/
  dbTerm : PyValue → PyValue

/-- The configured JSON classes: `encode v` is `encoder_type().encode(v)`, a `str`, and
    `decode opts b` is `decoder_type(**opts).decode(b.decode("utf-8"))`, by default
    `ReqlEncoder` and `ReqlDecoder` (`core/converter`). -/
structure JsonCodec where
  encode : PyValue → Except PyExc String
  decode : PyDict String PyValue → Bytes → Except PyExc PyValue

/-- The keyword options of a query (`GlobalOptions`). -/
abbrev Options := PyDict String PyValue

/-- `ast.expr(kwargs)` as the encoder sees it: an object with the options' values. -/
def Options.toPy (o : Options) : PyValue := .dict (o.entries.map fun e => (.str e.1, e.2))

/-- Modelled from the spec: `core/net/token.py` is not in the repository. A token wraps the
    integer of the frame header (`Token(token_int)`, `token.value`); tokens with equal values
    are equal (§3, "an opaque 64-bit identifier"). -/
structure Token where
  value : Int
  deriving DecidableEq, Repr

/-- Modelled from the spec: `core/net/token.py` is not in the repository. §4.1: `new()`
    returns a new value on each call, increasing from an implementation-defined seed, with the
    identifier space treated as infinite; `reset()` starts the sequence again. -/
structure TokenGenerator where
  seed : Nat
  counter : Nat
  deriving DecidableEq, Repr

namespace TokenGenerator

/-- Modelled from the spec: `TokenGenerator.new()` (§4.1 `next()`). -/
def new (g : TokenGenerator) : Token × TokenGenerator :=
  (⟨g.counter⟩, { g with counter := g.counter + 1 })

/-- Modelled from the spec: `TokenGenerator.reset()` (§4.1). -/
def reset (g : TokenGenerator) : TokenGenerator := { g with counter := g.seed }

end TokenGenerator

/-- An `ast.ReqlQuery` term as the driver reads it: `built`, the value `build()` gives the
    encoder, and whether one of its `_args` is an `ast.DB` (`connection.py:151`). -/
structure Term where
  built : PyValue
  hasDbArg : Bool

/-- `msg.Query` (`core/net/msg.py:32-48`). `kwargs` is the attribute, which `__init__`
    never leaves `None`. -/
structure Query where
  type : QueryType
  token : Token
  termType : Option Term
  kwargs : Option Options

namespace Query

/-- `Query.__init__` (`msg.py:44-48`): `self.kwargs = kwargs or {}`. -/
def new (type : QueryType) (token : Token) (termType : Option Term)
    (kwargs : Option Options) : Query :=
  ⟨type, token, termType, some (kwargs.getD .empty)⟩

/-- The array `serialize` encodes (`msg.py:54-58`): the type, the term if there is one,
    and the options if `self.kwargs is not None`. -/
def message (ql2 : Ql2) (q : Query) : PyValue :=
  .list ([.int (ql2.queryType q.type)] ++ (q.termType.map Term.built).toList ++
    (q.kwargs.map Options.toPy).toList)

/-- `query_bytes` (`msg.py:60`): the message encoded, as UTF-8. -/
def queryBytes (ql2 : Ql2) (codec : JsonCodec) (q : Query) : Except PyExc Bytes :=
  utf8Encode <$> codec.encode (q.message ql2)

/-- `Query.serialize` (`msg.py:50-62`): the 12-byte `'<QL'` header, then the body. -/
def serialize (ql2 : Ql2) (codec : JsonCodec) (q : Query) : Except PyExc Bytes := do
  let body ← q.queryBytes ql2 codec
  let header ← packQL q.token.value body.length
  pure (header ++ body)

@[simp] theorem new_kwargs (type : QueryType) (token : Token) (t : Option Term)
    (kwargs : Option Options) : (new type token t kwargs).kwargs = some (kwargs.getD .empty) :=
  rfl

@[simp] theorem new_token (type : QueryType) (token : Token) (t : Option Term)
    (kwargs : Option Options) : (new type token t kwargs).token = token := rfl

@[simp] theorem new_type (type : QueryType) (token : Token) (t : Option Term)
    (kwargs : Option Options) : (new type token t kwargs).type = type := rfl

@[simp] theorem new_termType (type : QueryType) (token : Token) (t : Option Term)
    (kwargs : Option Options) : (new type token t kwargs).termType = t := rfl

end Query

/-! ## Responses -/

/-- `msg.Response` (`core/net/msg.py:85-109`): the fields the driver reads. `b`, `p` and
    `n` are decoded but no modelled code reads them. -/
structure Response where
  token : Token
  type : PyValue
  data : PyValue
  errorType : PyValue

namespace Response

variable (ql2 : Ql2)

/-- `Response.__init__` (`msg.py:100-109`): decode the body, then `["t"]`, `["r"]` and
    `.get("e", None)`. -/
def new (token : Token) (jsonResponse : Bytes) (decode : Bytes → Except PyExc PyValue) :
    Except PyExc Response := do
  let full ← decode jsonResponse
  let t ← full.getItem "t"
  let r ← full.getItem "r"
  let e ← full.get "e"
  pure ⟨token, t, r, e⟩

/-- `__is_type_of(expected)`, behind `is_success_atom` and its siblings (`msg.py:111-129`). -/
def isTypeOf (r : Response) (rt : ResponseType) : Bool :=
  r.type.eqInt (ql2.responseType rt)

/-- A response has one type. -/
theorem isTypeOf_unique {r : Response} {a b : ResponseType} (ha : r.isTypeOf ql2 a)
    (hb : r.isTypeOf ql2 b) : a = b :=
  ql2.responseType_injective (PyValue.eqInt_unique ha hb)

/-- `is_sequential` (`msg.py:114-119`): membership in a `set`, which hashes the type first. -/
def isSequential (r : Response) : Except PyExc Bool :=
  if r.type.hashable then .ok (r.isTypeOf ql2 .SUCCESS_PARTIAL || r.isTypeOf ql2 .SUCCESS_SEQUENCE)
  else .error .typeError

/-- The class `make_error` picks for a runtime error (`msg.py:164-177`): a `dict` lookup of the
    error type, `ReqlRuntimeError` when absent. -/
def runtimeErrorClass (e : PyValue) : Except PyExc ReqlErrorClass :=
  if e.hashable then
    .ok (if e.eqInt (ql2.errorType .INTERNAL) then .ReqlInternalError
      else if e.eqInt (ql2.errorType .RESOURCE_LIMIT) then .ReqlResourceLimitError
      else if e.eqInt (ql2.errorType .QUERY_LOGIC) then .ReqlQueryLogicError
      else if e.eqInt (ql2.errorType .NON_EXISTENCE) then .ReqlNonExistenceError
      else if e.eqInt (ql2.errorType .OP_FAILED) then .ReqlOpFailedError
      else if e.eqInt (ql2.errorType .OP_INDETERMINATE) then .ReqlOpIndeterminateError
      else if e.eqInt (ql2.errorType .USER) then .ReqlUserError
      else if e.eqInt (ql2.errorType .PERMISSION_ERROR) then .ReqlPermissionError
      else .ReqlRuntimeError)
  else .error .typeError

/-- `Response.make_error` (`msg.py:152-180`): the typed error of an error response, built
    from `data[0]`; an unknown type gives a `ReqlDriverError`. -/
def makeError (r : Response) : Except PyExc PyExc :=
  if r.isTypeOf ql2 .CLIENT_ERROR then
    r.data.index0.map fun m => .reql .ReqlDriverError m.toStr
  else if r.isTypeOf ql2 .COMPILE_ERROR then
    r.data.index0.map fun m => .reql .ReqlServerCompileError m.toStr
  else if r.isTypeOf ql2 .RUNTIME_ERROR then do
    let cls ← runtimeErrorClass ql2 r.errorType
    let m ← r.data.index0
    pure (.reql cls m.toStr)
  else
    .ok (reqlDriverError s!"Unknown Response type {r.type.toStr} encountered in a response.")

/-- `Response.get_data` (`msg.py:132-150`): the atom, the batch, the server info or `None`;
    an error response raises its `make_error`. -/
def getData (r : Response) : Except PyExc PyValue :=
  if r.isTypeOf ql2 .SUCCESS_ATOM then r.data.index0
  else do
    if ← r.isSequential ql2 then return r.data
    if r.isTypeOf ql2 .SERVER_INFO then r.data.index0
    else if r.isTypeOf ql2 .WAIT_COMPLETE then pure .none
    else throw (← r.makeError ql2)

end Response

/-- `DummyResponse(token=...)` (`msg.py:182`): its body `{'t':2, 'r': []}` quotes names with
    `'`, which is not JSON, so the default `ReqlDecoder().decode` raises a
    `JSONDecodeError`, a `ValueError`, for every token. -/
def dummyResponse (_token : Token) : Except PyExc Response :=
  .error (.valueError "Expecting property name enclosed in double quotes")

end RethinkDriver

import Mathlib

/-!
# The Python runtime the driver is written against

The driver is Python, and its control flow turns on what the built-ins do with the values
the JSON decoder hands back: `int(...)` on a version field, `d["t"]` on a response,
`len(res.data)` on a batch, truthiness of `"success"`. This module renders that part of
Python once, so that every later module reads it by name.

`PyValue` is a decoded value (`json.JSONDecoder` with the hook of
`core/converter/json_decoder.py`), `PyExc` an exception a modelled method can raise,
with the classes of `core/errors.py` as one constructor carrying its class.
`PyDict` is a `dict` whose keys the program chooses (the token maps of
`core/net/protocol.py`), carrying the distinctness of its keys as a field.
A Python `float` is kept exactly, as a dyadic `mantissa * 2 ^ exponent`; every finite
double is one, so `int()` of a float truncates exactly as CPython does.
-/

namespace RethinkDriver

/-- The exception classes of `core/errors.py:54-205` that derive from `ReqlError`. -/
inductive ReqlErrorClass where
  | ReqlError | ReqlCompileError | ReqlDriverCompileError | ReqlServerCompileError
  | ReqlRuntimeError | ReqlQueryLogicError | ReqlNonExistenceError | ReqlResourceLimitError
  | ReqlUserError | ReqlInternalError | ReqlOperationError | ReqlOpFailedError
  | ReqlOpIndeterminateError | ReqlPermissionError | ReqlDriverError | ReqlAuthError
  | ReqlTimeoutError | InvalidHandshakeStateError
  deriving DecidableEq, Repr

/-- `cls.__mro__` within `core/errors.py`: the classes `isinstance` accepts for an instance
    of `cls`. -/
def ReqlErrorClass.mro : ReqlErrorClass → List ReqlErrorClass
  | .ReqlError => [.ReqlError]
  | .ReqlCompileError => [.ReqlCompileError, .ReqlError]
  | .ReqlDriverCompileError => [.ReqlDriverCompileError, .ReqlCompileError, .ReqlError]
  | .ReqlServerCompileError => [.ReqlServerCompileError, .ReqlCompileError, .ReqlError]
  | .ReqlRuntimeError => [.ReqlRuntimeError, .ReqlError]
  | .ReqlQueryLogicError => [.ReqlQueryLogicError, .ReqlRuntimeError, .ReqlError]
  | .ReqlNonExistenceError =>
      [.ReqlNonExistenceError, .ReqlQueryLogicError, .ReqlRuntimeError, .ReqlError]
  | .ReqlResourceLimitError => [.ReqlResourceLimitError, .ReqlRuntimeError, .ReqlError]
  | .ReqlUserError => [.ReqlUserError, .ReqlRuntimeError, .ReqlError]
  | .ReqlInternalError => [.ReqlInternalError, .ReqlRuntimeError, .ReqlError]
  | .ReqlOperationError => [.ReqlOperationError, .ReqlRuntimeError, .ReqlError]
  | .ReqlOpFailedError =>
      [.ReqlOpFailedError, .ReqlOperationError, .ReqlRuntimeError, .ReqlError]
  | .ReqlOpIndeterminateError =>
      [.ReqlOpIndeterminateError, .ReqlOperationError, .ReqlRuntimeError, .ReqlError]
  | .ReqlPermissionError => [.ReqlPermissionError, .ReqlRuntimeError, .ReqlError]
  | .ReqlDriverError => [.ReqlDriverError, .ReqlError]
  | .ReqlAuthError => [.ReqlAuthError, .ReqlDriverError, .ReqlError]
  | .ReqlTimeoutError => [.ReqlTimeoutError, .ReqlDriverError, .ReqlError]
  | .InvalidHandshakeStateError => [.InvalidHandshakeStateError, .ReqlDriverError, .ReqlError]

/-- An exception raised by modelled code. -/
inductive PyExc where
  /-- An instance of a `core/errors.py` class, with its `message`. -/
  | reql (cls : ReqlErrorClass) (message : String)
  /-- `raise cls(message) from cause`. -/
  | reqlFrom (cls : ReqlErrorClass) (message : String) (cause : PyExc)
  /-- `ReqlCursorEmpty` (`core/errors.py:48`), which is not a `ReqlError`. -/
  | cursorEmpty
  | keyError (key : String)
  | attributeError (name : String)
  | indexError
  | typeError
  | valueError (message : String)
  | overflowError
  /-- `struct.error`. -/
  | structError
  | unicodeEncodeError
  | unicodeDecodeError
  | runtimeError (message : String)
  | unboundLocalError (name : String)
  /-- `StopIteration`, raised by `next` on a generator that returned. -/
  | stopIteration
  deriving DecidableEq, Repr

namespace PyExc

/-- `isinstance(e, cls)` for a `core/errors.py` class. -/
def isInstance : PyExc → ReqlErrorClass → Bool
  | reql c _, cls | reqlFrom c _ _, cls => cls ∈ c.mro
  | _, _ => false

@[simp] theorem isInstance_reql (c cls : ReqlErrorClass) (m : String) :
    (reql c m).isInstance cls = decide (cls ∈ c.mro) := rfl

@[simp] theorem isInstance_reqlFrom (c cls : ReqlErrorClass) (m : String) (e : PyExc) :
    (reqlFrom c m e).isInstance cls = decide (cls ∈ c.mro) := rfl

end PyExc

/-- `ReqlDriverError(message)`. -/
def reqlDriverError (message : String) : PyExc := .reql .ReqlDriverError message

/-- `ReqlAuthError(message)`, whose `__init__` prefixes the message
    (`core/errors.py:178-180`). -/
def reqlAuthError (message : String) : PyExc :=
  .reql .ReqlAuthError s!"Authentication failed, {message}"

/-- `ReqlTimeoutError(host, port)` (`core/errors.py:183-198`), as the client calls it: with
    a `str` host and an `int` port, so neither `ValueError` branch is reachable. -/
def reqlTimeoutError (host : String) (port : Nat) : PyExc :=
  if host ≠ "" ∧ port ≠ 0 then
    .reql .ReqlTimeoutError s!"Could not connect to {host}:{port}, Operation timed out."
  else .reql .ReqlTimeoutError "Operation timed out."

/-- A Python `float`: finite ones exactly, as `mantissa * 2 ^ exponent`. -/
inductive PyFloat where
  | finite (mantissa exponent : Int)
  | inf (negative : Bool)
  | nan
  deriving DecidableEq, Repr

/-- A value the JSON decoder returns or the encoder is given. `object` stands for any
    other object (a `datetime`, a `ReqlBinary`) by its class name. -/
inductive PyValue where
  | none
  | bool (b : Bool)
  | int (i : Int)
  | float (f : PyFloat)
  | str (s : String)
  | bytes (b : List UInt8)
  | list (xs : List PyValue)
  | tuple (xs : List PyValue)
  | dict (entries : List (PyValue × PyValue))
  | frozenset (xs : List PyValue)
  | object (cls : String)
  deriving Repr, Inhabited

namespace PyFloat

/-- `f == n` for an `int` `n`. -/
def eqInt : PyFloat → Int → Bool
  | finite m e, n => if 0 ≤ e then m * 2 ^ e.toNat = n else m = n * 2 ^ (-e).toNat
  | _, _ => false

/-- A float equals at most one integer. -/
theorem eqInt_unique {f : PyFloat} {a b : Int} (ha : f.eqInt a) (hb : f.eqInt b) : a = b := by
  cases f with
  | finite m e =>
    by_cases he : 0 ≤ e
    · simp only [eqInt, he, if_true, decide_eq_true_eq] at ha hb
      rw [← ha, ← hb]
    · simp only [eqInt, he, if_false, decide_eq_true_eq] at ha hb
      have hpos := Nat.pos_pow_of_pos (-e).toNat (show 0 < 2 by decide)
      exact Int.eq_of_mul_eq_mul_right (show ((2 : Nat) : Int) ^ (-e).toNat ≠ 0 by
        rw [← Int.natCast_pow]; omega) (ha.symm.trans hb)
  | inf => cases ha
  | nan => cases ha

/-- `int(f)`: truncation toward zero; infinities and NaN have no integer. -/
def trunc : PyFloat → Except PyExc Int
  | finite m e => .ok (if 0 ≤ e then m * 2 ^ e.toNat else m.tdiv (2 ^ (-e).toNat))
  | inf _ => .error .overflowError
  | nan => .error (.valueError "cannot convert float NaN to integer")

/-- `f == g` between floats: finite values compare exactly, infinities by sign. The
    decoder's `NaN` is one shared object, and a `dict` or a `tuple` tests identity before
    `==`, so it is equal to itself there. -/
def eqFloat : PyFloat → PyFloat → Bool
  | finite m e, finite n d => m * 2 ^ (e - min e d).toNat = n * 2 ^ (d - min e d).toNat
  | inf a, inf b => a = b
  | nan, nan => true
  | _, _ => false

end PyFloat

/-! ## `int()` of a string -/

/-- The whitespace `str.strip()` removes, restricted to ASCII. -/
def isAsciiSpace (c : Char) : Bool :=
  c = ' ' || c = '\t' || c = '\n' || c = '\r' || c = '\x0b' || c = '\x0c'

/-- The value of a run of decimal digits already begun with value `acc`; a single `_` may
    separate two digits. -/
def digitRun (acc : Nat) : List Char → Option Nat
  | [] => some acc
  | '_' :: c :: cs => if c.isDigit then digitRun (10 * acc + (c.toNat - 48)) cs else none
  | c :: cs => if c.isDigit then digitRun (10 * acc + (c.toNat - 48)) cs else none

/-- A nonempty run of decimal digits. -/
def digitsValue : List Char → Option Nat
  | c :: cs => if c.isDigit then digitRun (c.toNat - 48) cs else none
  | [] => none

/-- An optional sign, then a nonempty run of digits. -/
def signedValue : List Char → Option Int
  | '-' :: ds => (digitsValue ds).map fun n => -(n : Int)
  | '+' :: ds => (digitsValue ds).map fun n => (n : Int)
  | ds => (digitsValue ds).map fun n => (n : Int)

/-- `int(s)` for a `str`, in base 10: surrounding whitespace, a sign, then digits.
    CPython also accepts non-ASCII decimal digits and whitespace, which are left out. -/
def parseIntLiteral (s : List Char) : Except PyExc Int :=
  match signedValue ((s.dropWhile isAsciiSpace).reverse.dropWhile isAsciiSpace).reverse with
  | some n => .ok n
  | none => .error (.valueError "invalid literal for int() with base 10")

namespace PyValue

/-- `v == n` for an `int` `n`; `bool` and `float` compare by value. -/
def eqInt : PyValue → Int → Bool
  | bool b, n => (if b then 1 else 0) = n
  | int i, n => i = n
  | float f, n => f.eqInt n
  | _, _ => false

/-- A value equals at most one integer. -/
theorem eqInt_unique {v : PyValue} {a b : Int} (ha : v.eqInt a) (hb : v.eqInt b) : a = b := by
  cases v <;> simp only [eqInt, decide_eq_true_eq, Bool.false_eq_true] at ha hb
  all_goals first | exact ha.symm.trans hb | exact PyFloat.eqInt_unique ha hb

/-- Whether `v` is the `str` `k`. -/
def isStr (k : String) : PyValue → Bool
  | str s => s = k
  | _ => false

/-- The entry of a decoded `dict` under the `str` key `k`. -/
def lookupStr (entries : List (PyValue × PyValue)) (k : String) : Option PyValue :=
  (entries.find? fun e => e.1.isStr k).map Prod.snd

/-- Truth value testing (`if v:`, `not v`). -/
def truthy : PyValue → Bool
  | none => false
  | bool b => b
  | int i => i ≠ 0
  | float (.finite m _) => m ≠ 0
  | float _ => true
  | str s => !s.isEmpty
  | bytes b => !b.isEmpty
  | list xs | tuple xs | frozenset xs => !xs.isEmpty
  | dict entries => !entries.isEmpty
  | object _ => true

/-- `len(v)`. -/
def len : PyValue → Except PyExc Nat
  | str s => .ok s.length
  | bytes b => .ok b.length
  | list xs | tuple xs | frozenset xs => .ok xs.length
  | dict entries => .ok entries.length
  | _ => .error .typeError

/-- The elements `for x in v` visits. -/
def iter : PyValue → Except PyExc (List PyValue)
  | str s => .ok (s.toList.map fun c => str (String.singleton c))
  | bytes b => .ok (b.map fun x => int x.toNat)
  | list xs | tuple xs | frozenset xs => .ok xs
  | dict entries => .ok (entries.map Prod.fst)
  | _ => .error .typeError

/-- `v[0]`. -/
def index0 : PyValue → Except PyExc PyValue
  | str s => match s.toList with
    | c :: _ => .ok (str (String.singleton c))
    | [] => .error .indexError
  | bytes (b :: _) => .ok (int b.toNat)
  | list (x :: _) | tuple (x :: _) => .ok x
  | bytes [] | list [] | tuple [] => .error .indexError
  | dict entries => match entries.find? fun e => e.1.eqInt 0 with
    | .some e => .ok e.2
    | .none => .error (.keyError "0")
  | _ => .error .typeError

/-- `v[k]` for a `str` key `k`. -/
def getItem : PyValue → String → Except PyExc PyValue
  | dict entries, k => match lookupStr entries k with
    | .some x => .ok x
    | .none => .error (.keyError k)
  | _, _ => .error .typeError

/-- `v.get(k)`, whose default is `None`; only a `dict` has the method. -/
def get : PyValue → String → Except PyExc PyValue
  | dict entries, k => .ok ((lookupStr entries k).getD none)
  | _, _ => .error (.attributeError "get")

/-- `int(v)`. A `bytes` value is read as its ASCII text. -/
def toInt : PyValue → Except PyExc Int
  | bool b => .ok (if b then 1 else 0)
  | int i => .ok i
  | float f => f.trunc
  | str s => parseIntLiteral s.toList
  | bytes b => parseIntLiteral (b.map fun x => Char.ofNat x.toNat)
  | _ => .error .typeError

mutual
/-- Whether `hash(v)` succeeds: `list` and `dict` are unhashable, and so is a `tuple`
    holding one. -/
def hashable : PyValue → Bool
  | list _ | dict _ => false
  | tuple xs => hashableAll xs
  | _ => true
/-- Whether every element is hashable. -/
def hashableAll : List PyValue → Bool
  | [] => true
  | x :: xs => hashable x && hashableAll xs
end

mutual
/-- `str(v)` as an f-string renders it; a `float` is shown by its dyadic form. -/
def toStr : PyValue → String
  | str s => s
  | v => repr' v
/-- `repr(v)`. -/
def repr' : PyValue → String
  | none => "None"
  | bool true => "True"
  | bool false => "False"
  | int i => toString i
  | float (.finite m e) => s!"{m}*2**{e}"
  | float (.inf true) => "-inf"
  | float (.inf false) => "inf"
  | float .nan => "nan"
  | str s => "'" ++ s ++ "'"
  | bytes b => "b'" ++ String.mk (b.map fun x => Char.ofNat x.toNat) ++ "'"
  | list xs => "[" ++ reprList xs ++ "]"
  | tuple xs => "(" ++ reprList xs ++ ")"
  | frozenset xs => "frozenset(\x7b" ++ reprList xs ++ "\x7d)"
  | dict entries => "\x7b" ++ reprEntries entries ++ "\x7d"
  | object cls => "<" ++ cls ++ " object>"
/-- The elements of a sequence, separated by `, `. -/
def reprList : List PyValue → String
  | [] => ""
  | [x] => repr' x
  | x :: xs => repr' x ++ ", " ++ reprList xs
/-- The entries of a `dict`, separated by `, `. -/
def reprEntries : List (PyValue × PyValue) → String
  | [] => ""
  | [(k, v)] => repr' k ++ ": " ++ repr' v
  | (k, v) :: entries => repr' k ++ ": " ++ repr' v ++ ", " ++ reprEntries entries
end

/-! ## Equality -/

mutual
/-- `a == b` as a `dict` compares its keys: numbers of the three kinds compare by value
    (`True == 1 == 1.0`), sequences element by element, a `frozenset` by size and then
    inclusion (CPython's `set_richcompare`), a `dict` by the values of its keys. An `object`
    the model does not look into is equal to nothing. -/
def pyEq : PyValue → PyValue → Bool
  | none, none => true
  | bool a, v => v.eqInt (if a then 1 else 0)
  | int i, v => v.eqInt i
  | float f, bool b => f.eqInt (if b then 1 else 0)
  | float f, int i => f.eqInt i
  | float f, float g => f.eqFloat g
  | str a, str b => a = b
  | bytes a, bytes b => a = b
  | list xs, list ys | tuple xs, tuple ys => pyEqList xs ys
  | frozenset xs, frozenset ys => xs.length = ys.length && subsetEq xs ys
  | dict es, dict fs => es.length = fs.length && dictEqEntries es fs
  | _, _ => false
termination_by structural v => v
/-- Element-wise `==` of two sequences, which must have the same length. -/
def pyEqList : List PyValue → List PyValue → Bool
  | [], [] => true
  | x :: xs, y :: ys => pyEq x y && pyEqList xs ys
  | _, _ => false
termination_by structural xs => xs
/-- Every element of the first is `==` to one of `ys`. -/
def subsetEq : List PyValue → List PyValue → Bool
  | [], _ => true
  | x :: xs, ys => ys.any (pyEq x) && subsetEq xs ys
termination_by structural xs => xs
/-- Every key of the first has an `==` key in `fs`, and the two values are `==`. -/
def dictEqEntries : List (PyValue × PyValue) → List (PyValue × PyValue) → Bool
  | [], _ => true
  | (k, v) :: es, fs =>
    (match fs.find? fun f => pyEq k f.1 with
      | .some f => pyEq v f.2
      | .none => false) && dictEqEntries es fs
termination_by structural es => es
end

example : pyEq (list [bool true]) (list [float (.finite 1 0)]) = true := by decide

end PyValue

/-- A built-in call inside a method: it raises or returns, and mutates no object. -/
def liftPy {σ α : Type} : Except PyExc α → EStateM PyExc σ α
  | .ok a => fun s => .ok a s
  | .error e => fun s => .error e s

@[simp] theorem liftPy_ok {σ α : Type} (a : α) (s : σ) : liftPy (.ok a) s = .ok a s := rfl

@[simp] theorem liftPy_error {σ α : Type} (e : PyExc) (s : σ) :
    (liftPy (.error e) : EStateM PyExc σ α) s = .error e s := rfl

/-- `if not c: raise e`. -/
def raiseUnless {σ : Type} (c : Bool) (e : PyExc) : EStateM PyExc σ Unit := fun s =>
  if c then .ok () s else .error e s

theorem raiseUnless_eq_ok {σ : Type} {c : Bool} {e : PyExc} {s s' : σ} {u : Unit}
    (h : raiseUnless c e s = .ok u s') : c ∧ s = s' := by
  unfold raiseUnless at h
  split at h
  · cases h; exact ⟨‹_›, rfl⟩
  · cases h

section Inversion

variable {ε σ α β : Type}

theorem EStateM.bind_eq_ok {m : EStateM ε σ α} {f : α → EStateM ε σ β} {s s' : σ} {b : β}
    (h : (m >>= f) s = .ok b s') : ∃ a s₁, m s = .ok a s₁ ∧ f a s₁ = .ok b s' := by
  simp only [bind, EStateM.bind] at h
  split at h
  · exact ⟨_, _, ‹_›, h⟩
  · cases h

theorem EStateM.bind_of_eq_ok {m : EStateM ε σ α} {f : α → EStateM ε σ β} {s s₁ : σ} {a : α}
    (h : m s = .ok a s₁) : (m >>= f) s = f a s₁ := by
  simp only [bind, EStateM.bind, h]

theorem EStateM.bind_of_eq_error {m : EStateM ε σ α} {f : α → EStateM ε σ β} {s s' : σ} {e : ε}
    (h : m s = .error e s') : (m >>= f) s = .error e s' := by
  simp only [bind, EStateM.bind, h]

theorem EStateM.bind_eq_error {m : EStateM ε σ α} {f : α → EStateM ε σ β} {s s' : σ} {e : ε}
    (h : (m >>= f) s = .error e s') :
    m s = .error e s' ∨ ∃ a s₁, m s = .ok a s₁ ∧ f a s₁ = .error e s' := by
  simp only [bind, EStateM.bind] at h
  split at h
  · exact .inr ⟨_, _, ‹_›, h⟩
  · cases h; exact .inl ‹_›

@[simp] theorem Except.ok_bind (a : α) (f : α → Except ε β) : (Except.ok a >>= f) = f a := rfl

@[simp] theorem Except.error_bind (e : ε) (f : α → Except ε β) :
    (Except.error e >>= f : Except ε β) = .error e := rfl

theorem Except.bind_eq_ok {x : Except ε α} {f : α → Except ε β} {b : β}
    (h : (x >>= f) = .ok b) : ∃ a, x = .ok a ∧ f a = .ok b := by
  cases x with
  | error e => cases h
  | ok a => exact ⟨a, rfl, h⟩

theorem Except.bind_eq_error {x : Except ε α} {f : α → Except ε β} {e : ε}
    (h : (x >>= f) = .error e) : x = .error e ∨ ∃ a, x = .ok a ∧ f a = .error e := by
  cases x with
  | error e' => cases h; exact .inl rfl
  | ok a => exact .inr ⟨a, rfl, h⟩

theorem liftPy_eq_ok {x : Except PyExc α} {s s' : σ} {a : α} (h : liftPy x s = .ok a s') :
    x = .ok a ∧ s = s' := by
  cases x with
  | error e => cases h
  | ok a' => cases h; exact ⟨rfl, rfl⟩

theorem liftPy_eq_error {x : Except PyExc α} {s s' : σ} {e : PyExc}
    (h : (liftPy x : EStateM PyExc σ α) s = .error e s') : x = .error e ∧ s = s' := by
  cases x with
  | error e' => cases h; exact ⟨rfl, rfl⟩
  | ok a => cases h

theorem raiseUnless_eq_error {c : Bool} {e e' : PyExc} {s s' : σ}
    (h : raiseUnless c e s = .error e' s') : c = false ∧ e' = e ∧ s = s' := by
  unfold raiseUnless at h
  split at h
  · cases h
  · rename_i hc
    cases h
    exact ⟨by simpa using hc, rfl, rfl⟩

end Inversion

section Preserves

variable {σ α β : Type} {P : σ → Prop}

/-- What a call returned or raised. -/
def resultOutcome : EStateM.Result PyExc σ α → Except PyExc α
  | .ok a _ => .ok a
  | .error e _ => .error e

/-- The state a call left, whether it returned or raised. -/
def resultState : EStateM.Result PyExc σ α → σ
  | .ok _ s | .error _ s => s

/-- `m` keeps the property `P` of the state, whether it returns or raises. -/
def Preserves (P : σ → Prop) (m : EStateM PyExc σ α) : Prop :=
  ∀ s, P s → P (resultState (m s))

theorem Preserves.bind {m : EStateM PyExc σ α} {f : α → EStateM PyExc σ β}
    (hm : Preserves P m) (hf : ∀ a, Preserves P (f a)) : Preserves P (m >>= f) := by
  intro s hs
  have h := hm s hs
  show P (resultState (EStateM.bind m f s))
  cases hms : m s with
  | ok a s' => rw [hms] at h; simp only [EStateM.bind, hms]; exact hf a s' h
  | error e s' => rw [hms] at h; simp only [EStateM.bind, hms]; exact h

theorem Preserves.pure (a : α) : Preserves P (pure a : EStateM PyExc σ α) := fun _ h => h

theorem Preserves.liftPy (x : Except PyExc α) : Preserves P (liftPy x : EStateM PyExc σ α) := by
  intro s h
  cases x <;> exact h

theorem Preserves.ite {c : Prop} [Decidable c] {a b : EStateM PyExc σ α} (ha : Preserves P a)
    (hb : Preserves P b) : Preserves P (if c then a else b) := by
  split <;> assumption

end Preserves

/-! ## Dictionaries keyed by the program -/

/-- A Python `dict`: its entries in insertion order, one per key. -/
structure PyDict (κ α : Type) where
  entries : List (κ × α)
  nodup : (entries.map Prod.fst).Nodup

namespace PyDict

variable {κ α : Type} [DecidableEq κ]

/-- `{}`. -/
def empty : PyDict κ α := ⟨[], List.nodup_nil⟩

/-- `d.get(k)`. -/
def get? (d : PyDict κ α) (k : κ) : Option α :=
  (d.entries.find? fun e => e.1 = k).map Prod.snd

/-- `del d[k]`, also when `k` is absent. -/
def erase (d : PyDict κ α) (k : κ) : PyDict κ α :=
  ⟨d.entries.filter fun e => e.1 ≠ k, d.nodup.sublist ((List.filter_sublist _).map _)⟩

private theorem map_fst_replace (entries : List (κ × α)) (k : κ) (v : α) :
    (entries.map fun e => if e.1 = k then (k, v) else e).map Prod.fst =
      entries.map Prod.fst := by
  induction entries with
  | nil => rfl
  | cons e entries ih =>
    simp only [List.map_cons, ih, List.cons.injEq, and_true]
    split <;> simp_all

/-- A `dict` has at most one entry per key, so `get?` finds exactly the entries. -/
theorem get?_eq_some_iff {d : PyDict κ α} {k : κ} {v : α} :
    d.get? k = some v ↔ (k, v) ∈ d.entries := by
  obtain ⟨entries, nodup⟩ := d
  simp only [get?]
  induction entries with
  | nil => simp
  | cons e entries ih =>
    obtain ⟨key, value⟩ := e
    simp only [List.map_cons, List.nodup_cons, List.mem_map, not_exists, not_and] at nodup
    by_cases hk : key = k
    · subst hk
      have fresh : (key, v) ∉ entries := fun h => nodup.1 _ h rfl
      simp [List.find?_cons, fresh, eq_comm]
    · simp [List.find?_cons, hk, ih nodup.2, Ne.symm hk]

theorem get?_eq_none_iff {d : PyDict κ α} {k : κ} :
    d.get? k = none ↔ ∀ v, (k, v) ∉ d.entries := by
  constructor
  · intro h v hmem
    rw [← get?_eq_some_iff, h] at hmem
    cases hmem
  · intro h
    cases hv : d.get? k with
    | none => rfl
    | some v => exact absurd (get?_eq_some_iff.mp hv) (h v)

/-- `d[k] = v`: a present key keeps its place, a new one goes last. -/
def set (d : PyDict κ α) (k : κ) (v : α) : PyDict κ α :=
  match h : d.get? k with
  | some _ => ⟨d.entries.map fun e => if e.1 = k then (k, v) else e, by
      rw [map_fst_replace]; exact d.nodup⟩
  | none => ⟨d.entries ++ [(k, v)], by
      rw [List.map_append, List.nodup_append]
      refine ⟨d.nodup, List.nodup_singleton _, ?_⟩
      simp only [List.map_cons, List.map_nil, List.disjoint_singleton, List.mem_map,
        not_exists, not_and]
      exact fun e he hk => get?_eq_none_iff.mp h e.2 (hk ▸ he)⟩

/-- `d.pop(k)`: the value and the rest, or nothing where Python raises `KeyError`. -/
def pop (d : PyDict κ α) (k : κ) : Option (α × PyDict κ α) :=
  (d.get? k).map fun v => (v, d.erase k)

theorem mem_erase {d : PyDict κ α} {k k' : κ} {w : α} :
    (k', w) ∈ (d.erase k).entries ↔ k' ≠ k ∧ (k', w) ∈ d.entries := by
  simp [erase, List.mem_filter, and_comm]

theorem mem_set {d : PyDict κ α} {k k' : κ} {v w : α} :
    (k', w) ∈ (d.set k v).entries ↔ (k' = k ∧ w = v) ∨ (k' ≠ k ∧ (k', w) ∈ d.entries) := by
  unfold set
  split
  · rename_i w₀ h
    simp only [List.mem_map]
    constructor
    · rintro ⟨e, he, hrep⟩
      split at hrep
      · simp_all
      · subst hrep; exact .inr ⟨‹_›, he⟩
    · rintro (⟨rfl, rfl⟩ | ⟨hne, hmem⟩)
      · exact ⟨(k', w₀), get?_eq_some_iff.mp h, by simp⟩
      · exact ⟨(k', w), hmem, by simp [hne]⟩
  · rename_i h
    simp only [List.mem_append, List.mem_singleton, Prod.mk.injEq]
    have fresh := get?_eq_none_iff.mp h
    constructor
    · rintro (hmem | hkv)
      · exact .inr ⟨fun hk => fresh w (hk ▸ hmem), hmem⟩
      · exact .inl hkv
    · rintro (hkv | ⟨_, hmem⟩)
      · exact .inr hkv
      · exact .inl hmem

@[simp] theorem get?_empty (k : κ) : (empty : PyDict κ α).get? k = none := rfl

@[simp] theorem get?_erase (d : PyDict κ α) (k k' : κ) :
    (d.erase k).get? k' = if k' = k then none else d.get? k' := by
  split
  · subst k'
    exact get?_eq_none_iff.mpr fun _ hw => (mem_erase.mp hw).1 rfl
  · apply Option.ext
    intro w
    simp only [Option.mem_def, get?_eq_some_iff, mem_erase, ne_eq, ‹¬k' = k›,
      not_false_eq_true, true_and]

@[simp] theorem get?_set (d : PyDict κ α) (k k' : κ) (v : α) :
    (d.set k v).get? k' = if k' = k then some v else d.get? k' := by
  split
  · subst k'
    exact get?_eq_some_iff.mpr (mem_set.mpr (.inl ⟨rfl, rfl⟩))
  · apply Option.ext
    intro w
    simp only [Option.mem_def, get?_eq_some_iff, mem_set, ne_eq, ‹¬k' = k›, false_and,
      not_false_eq_true, true_and, false_or]

/-- `del d[k]` right after `d[k] = v` on a `dict` without `k` gives the `dict` back. -/
theorem erase_set_of_get?_eq_none {d : PyDict κ α} {k : κ} {v : α} (h : d.get? k = none) :
    (d.set k v).erase k = d := by
  have fresh := get?_eq_none_iff.mp h
  unfold set
  split
  · simp_all
  · obtain ⟨entries, nodup⟩ := d
    simp only [erase, mk.injEq, List.filter_append, List.filter_singleton, ne_eq,
      not_true_eq_false, decide_False, cond_false, List.append_nil, List.filter_eq_self,
      decide_eq_true_eq]
    exact fun e he hk => fresh e.2 (hk ▸ he)

/-- `d[k] = v` where `d[k]` already is `v` leaves the dict as it was. -/
theorem set_of_get? {d : PyDict κ α} {k : κ} {v : α} (h : d.get? k = some v) :
    d.set k v = d := by
  unfold set
  split
  · obtain ⟨entries, nodup⟩ := d
    simp only [mk.injEq]
    conv_rhs => rw [← List.map_id entries]
    refine List.map_congr_left fun e he => ?_
    split
    · rename_i hk
      have he' : get? ⟨entries, nodup⟩ k = some e.2 := get?_eq_some_iff.mpr (hk ▸ he)
      rw [he'] at h
      cases h
      rw [← hk]
      rfl
    · rfl
  · simp_all

theorem pop_eq_some_iff {d : PyDict κ α} {k : κ} {v : α} {d' : PyDict κ α} :
    d.pop k = some (v, d') ↔ d.get? k = some v ∧ d' = d.erase k := by
  simp only [pop, Option.map_eq_some', Prod.mk.injEq]
  constructor
  · rintro ⟨w, hw, rfl, rfl⟩; exact ⟨hw, rfl⟩
  · rintro ⟨hw, rfl⟩; exact ⟨v, hw, rfl, rfl⟩

@[simp] theorem pop_eq_none_iff {d : PyDict κ α} {k : κ} : d.pop k = none ↔ d.get? k = none := by
  simp [pop]

end PyDict

end RethinkDriver

import RethinkDriver.Python

/-!
# Generators and `IterableGenerator`

The protocol code is written as generators that ask for I/O by yielding a request and get
the reply as the value of the `yield`: `HandshakeV1_0.run` (`core/net/handshake.py:139-144`)
and `RdbProtocol.read_response` (`core/net/protocol.py:82-114`). The transports drive them
through `IterableGenerator` (`core/utilities.py:57-113`): a `for` loop over the adapter
produces each request, and the loop body does the I/O and calls the adapter's `send`.

A generator's code is a `GenCode`: the code cut at its `yield`s, each piece a computation on
the world `W` that stops at the next `yield` or returns. `GenState` is the generator object,
and its `send` runs the next piece as CPython does. The requests are values of `α`, which
has no `None`.
-/

namespace RethinkDriver

/-- How a piece of a generator's code ended: at a `yield value`, to be resumed at `frame`,
    or by returning. -/
inductive GenStep (F α : Type) where
  | yielded (value : α) (frame : F)
  | returned

/-- A generator function's code, with its effects on the world `W`: `start` runs it from the
    top, and `resume frame v` from the `yield` at `frame`, which evaluates to `v` (`none` for
    `None`). -/
structure GenCode (W F α β : Type) where
  start : EStateM PyExc W (GenStep F α)
  resume : F → Option β → EStateM PyExc W (GenStep F α)

/-- A generator object: not started yet, suspended at a `yield`, or finished. -/
inductive GenState (F : Type) where
  | created
  | suspended (frame : F)
  | finished

/-- What the caller of `send` gets for an exception raised by the generator's code: a
    `StopIteration` raised inside a generator becomes `RuntimeError`. -/
def genRaised (e : PyExc) : PyExc :=
  if e = .stopIteration then .runtimeError "generator raised StopIteration" else e

/-- `try: x = m except StopIteration: x = None`. -/
def catchStop {W γ : Type} (m : EStateM PyExc W γ) : EStateM PyExc W (Option γ) := fun w =>
  match m w with
  | .ok a w' => .ok (some a) w'
  | .error e w' => if e = .stopIteration then .ok none w' else .error e w'

namespace GenState

variable {W F α β : Type}

/-- A piece of the code run by `send`: at a `yield` the generator is suspended and `send`
    returns the value; when the code returns, `send` raises `StopIteration`. -/
def runPiece (piece : EStateM PyExc W (GenStep F α)) : EStateM PyExc W (α × GenState F) :=
  fun w => match piece w with
  | .ok (.yielded v f) w' => .ok (v, .suspended f) w'
  | .ok .returned w' => .error .stopIteration w'
  | .error e w' => .error (genRaised e) w'

/-- `gen.send(value)`, where `next(gen)` is `gen.send(None)`: a value other than `None`
    cannot start a generator, and a finished one raises `StopIteration`. -/
def send (code : GenCode W F α β) (value : Option β) :
    GenState F → EStateM PyExc W (α × GenState F)
  | created => match value with
    | none => runPiece code.start
    | some _ => throw .typeError
  | suspended f => runPiece (code.resume f value)
  | finished => throw .stopIteration

end GenState

/-- `IterableGenerator` (`utilities.py:57-113`): `__generator`, and `__out`, `None` until
    `__iter__` runs. -/
structure IterableGenerator (F α : Type) where
  generator : GenState F
  out : Option α

namespace IterableGenerator

variable {W F α β : Type} (code : GenCode W F α β)

/-- A method of an adapter whose generator has the effects of `code` on the world `W`. -/
abbrev M (W F α : Type) := StateT (IterableGenerator F α) (EStateM PyExc W)

/-- `IterableGenerator(generator)` on a generator just created. -/
def new : IterableGenerator F α := ⟨.created, none⟩

/-- `__iter__`: `self.__out = next(self.__generator)`, returning the adapter. -/
def iter : M W F α Unit := fun it => do
  let (out, g) ← it.generator.send code none
  pure ((), ⟨g, some out⟩)

/-- `__next__`: `__out`, and `StopIteration` when it is `None`. Only `send` moves the
    generator on. -/
def next : M W F α α := fun it w =>
  match it.out with
  | none => .error .stopIteration w
  | some out => .ok (out, it) w

/-- `send(data)`: `__out` becomes what the generator yields next, or `None` when `send`
    raises `StopIteration`. -/
def send (data : β) : M W F α Unit := fun it => do
  match ← catchStop (it.generator.send code (some data)) with
  | some (out, g) => pure ((), ⟨g, some out⟩)
  | none => pure ((), ⟨.finished, none⟩)

/-- `for request in self: body(request)` after `__iter__`, for at most `fuel` rounds:
    `__next__` starts each round, and its `StopIteration` ends the loop, which then
    returns `true`; `false` is running out of fuel. -/
def forLoop (body : α → M W F α Unit) : Nat → M W F α Bool
  | 0 => pure false
  | fuel + 1 => fun it w =>
    match next it w with
    | .error .stopIteration w' => .ok (true, it) w'
    | .error e w' => .error e w'
    | .ok (request, it') w' => (body request *> forLoop body fuel) it' w'

/-- The body of the transports' loops: `reply = io(request); iter_gen.send(reply)`. -/
def ioRound (io : α → EStateM PyExc W β) (request : α) : M W F α Unit := do
  send code (← StateT.lift (io request))

/-- The transports' loop (`transport.py:83-87`, `transport.py:122-124`):
    `for request in iter_gen:` then `ioRound`. -/
def drive (io : α → EStateM PyExc W β) (fuel : Nat) : EStateM PyExc W Bool :=
  StateT.run' (iter code *> forLoop (ioRound code io) fuel) new

end IterableGenerator

namespace GenCode

variable {W F α β : Type} (code : GenCode W F α β) (io : α → EStateM PyExc W β)

/-- Modelled from the spec: stepping the generator directly, from a pending request and the
    generator (`none` once it has returned): the I/O for the request, then
    `gen.send(reply)`, until `StopIteration`; rounds are counted as `forLoop` counts them. -/
def stepFrom : Nat → Option (α × GenState F) → EStateM PyExc W Bool
  | 0, _ => pure false
  | _ + 1, none => pure true
  | fuel + 1, some (request, g) => do
    let reply ← io request
    stepFrom fuel (← catchStop (g.send code (some reply)))

/-- Modelled from the spec: `next(gen)`, then `stepFrom`, with `StopIteration` ending the
    stepping wherever it is raised by the generator. -/
def stepDirectly (fuel : Nat) : EStateM PyExc W Bool := do
  stepFrom code io fuel (← catchStop (GenState.created.send code none))

end GenCode

end RethinkDriver

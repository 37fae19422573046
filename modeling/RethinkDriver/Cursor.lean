import RethinkDriver.Msg

/-!
# Cursors

`core/net/cursor.py:74-201`: the object that buffers a streamed result. The module docstring
of `cursor.py` describes `items`, `outstanding_requests`, `threshold` and `error`;
`Cursor.__init__` sets only `ctx`, `query`, `items` and `completed` (the lines that set
the others are commented out), and `threshold` is first set by `_extend_internal`. An
attribute never assigned raises `AttributeError` when read, so each of the three is an
`Option`, `none` while unassigned; `error` is `some none` once it holds `None`.

A method runs in `EStateM` over the cursor and the world of its context, so a mutation made
before an exception stays made, as on a Python object. The context is the connection; a
cursor reaches it only through `ctx.resume` and `ctx.stop` (the `Context` protocol,
`cursor.py:63-71`), which `Context` takes as parameters.
-/

namespace RethinkDriver

/-- `Cursor` (`core/net/cursor.py:74-85`): `items` is the `deque`, `completed` the flag. -/
structure Cursor where
  query : Query
  items : List PyValue
  completed : Bool
  threshold : Option Nat
  outstandingRequests : Option Int
  error : Option (Option PyExc)

/-- The `Context` protocol (`cursor.py:63-71`) over a world `ω`: what `ctx.resume(cursor)`
    and `ctx.stop(cursor)` do. -/
structure Context (ω : Type) where
  resume : Cursor → EStateM PyExc ω Unit
  stop : Cursor → EStateM PyExc ω Unit

/-- A cursor method: the cursor and its context's world, kept when an exception escapes. -/
abbrev CursorM (ω α : Type) := EStateM PyExc (Cursor × ω) α

namespace Cursor

variable {ω : Type} (ql2 : Ql2)

/-- `self`. -/
def self : CursorM ω Cursor := fun s => .ok s.1 s

/-- An assignment to attributes of `self`. -/
def modify (f : Cursor → Cursor) : CursorM ω Unit := fun s => .ok () (f s.1, s.2)

/-- Reading an attribute: `AttributeError` while it was never assigned. -/
def attr {α : Type} (field : Cursor → Option α) (name : String) : CursorM ω α := fun s =>
  match field s.1 with
  | some a => .ok a s
  | none => .error (.attributeError name) s

/-- A call into the context, which acts on its world and leaves the cursor alone. -/
def call (m : EStateM PyExc ω Unit) : CursorM ω Unit := fun s =>
  match m s.2 with
  | .ok _ w => .ok () (s.1, w)
  | .error e w => .error e (s.1, w)

section Preserves

variable {P : Cursor × ω → Prop}

theorem Preserves.self : Preserves P (self : CursorM ω Cursor) := fun _ h => h

theorem Preserves.modify {f : Cursor → Cursor} (hf : ∀ s, P s → P (f s.1, s.2)) :
    Preserves P (modify f : CursorM ω Unit) := hf

theorem Preserves.attr {α : Type} (field : Cursor → Option α) (name : String) :
    Preserves P (attr field name : CursorM ω α) := by
  intro s h
  simp only [Cursor.attr]
  split <;> exact h

/-- A call into the context keeps every property of the cursor alone. -/
theorem Preserves.call {Q : Cursor → Prop} (m : EStateM PyExc ω Unit) :
    Preserves (fun s : Cursor × ω => Q s.1) (call m) := by
  intro s h
  simp only [Cursor.call]
  split <;> exact h

end Preserves

/-- `Cursor._extend_internal` (`cursor.py:172-184`). -/
def extendInternal (res : Response) : CursorM ω Unit := do
  let n ← liftPy res.data.len
  modify fun c => { c with threshold := some n }
  let c ← self
  if c.completed then return
  if res.isTypeOf ql2 .SUCCESS_PARTIAL then
    let xs ← liftPy res.data.iter
    modify fun c => { c with items := c.items ++ xs }
  else if res.isTypeOf ql2 .SUCCESS_SEQUENCE then
    let xs ← liftPy res.data.iter
    modify fun c => { c with items := c.items ++ xs, completed := true }
  else
    let e ← liftPy (res.makeError ql2)
    modify fun c => { c with error := some (some e) }

/-- `Cursor._maybe_fetch_batch` (`cursor.py:194-201`), with `and` evaluated left to right. -/
def maybeFetchBatch (ctx : Context ω) : CursorM ω Unit := do
  let err ← attr Cursor.error "error"
  if err.isSome then return
  let c ← self
  let threshold ← attr Cursor.threshold "threshold"
  if ¬c.items.length < threshold then return
  let o ← attr Cursor.outstandingRequests "outstanding_requests"
  if o ≠ 0 then return
  modify fun c => { c with outstandingRequests := some (o + 1) }
  let c ← self
  call (ctx.resume c)

/-- `Cursor.extend` (`cursor.py:165-170`): count the reply, maybe fetch, then apply it. -/
def extend (ctx : Context ω) (res : Response) : CursorM ω Unit := do
  let o ← attr Cursor.outstandingRequests "outstanding_requests"
  modify fun c => { c with outstandingRequests := some (o - 1) }
  maybeFetchBatch ctx
  extendInternal ql2 res

/-- `Cursor.raise_error` (`cursor.py:186-192`). Building the `DummyResponse` raises before
    `extend` is entered. -/
def raiseError (ctx : Context ω) (message : String) : CursorM ω Unit := do
  let err ← attr Cursor.error "error"
  if err.isSome then return
  modify fun c => { c with error := some (some (.reql .ReqlRuntimeError message)) }
  let c ← self
  let res ← liftPy (dummyResponse c.query.token)
  extend ql2 ctx res

/-- `Cursor.close` (`cursor.py:136-147`): only `self.ctx.stop(self)` is left. -/
def close (ctx : Context ω) : CursorM ω Unit := do
  let c ← self
  call (ctx.stop c)

/-- A consumer taking the next buffered item, `items.popleft()`. -/
def popItem : CursorM ω PyValue := fun s =>
  match s.1.items with
  | x :: xs => .ok x ({ s.1 with items := xs }, s.2)
  | [] => .error .indexError s

/-- `Cursor(ctx, query, first_response)` (`cursor.py:75-85`): the attributes `__init__`
    assigns, then `_extend_internal(first_response)`, which does not reach the context. -/
def new (query : Query) (firstResponse : Response) : Except PyExc Cursor :=
  match (extendInternal (ω := Unit) ql2 firstResponse) (⟨query, [], false, none, none, none⟩, ()) with
  | .ok _ s => .ok s.1
  | .error e _ => .error e

/-! ## What the methods write -/

section Frame

variable {P : Cursor × ω → Prop}

/-- `_extend_internal` writes only the cursor. -/
theorem Preserves.extendInternal (hP : ∀ s (c : Cursor), P s → P (c, s.2)) (res : Response) :
    Preserves P (extendInternal ql2 res : CursorM ω Unit) := by
  have hmod : ∀ f : Cursor → Cursor, Preserves P (Cursor.modify f : CursorM ω Unit) :=
    fun _ => Preserves.modify fun s => hP s _
  unfold Cursor.extendInternal
  exact (Preserves.liftPy _).bind fun _ => (hmod _).bind fun _ => Preserves.self.bind fun _ =>
    .ite (.pure _) <| (Preserves.pure _).bind fun _ =>
      .ite ((Preserves.liftPy _).bind fun _ => hmod _) <|
      .ite ((Preserves.liftPy _).bind fun _ => hmod _) ((Preserves.liftPy _).bind fun _ => hmod _)

/-- `_maybe_fetch_batch` writes the cursor, and reaches the world only through `resume`. -/
theorem Preserves.maybeFetchBatch (hP : ∀ s (c : Cursor), P s → P (c, s.2)) (ctx : Context ω)
    (hresume : ∀ c, Preserves P (Cursor.call (ctx.resume c))) :
    Preserves P (maybeFetchBatch ctx) := by
  unfold Cursor.maybeFetchBatch
  exact (Preserves.attr _ _).bind fun _ => .ite (.pure _) <| (Preserves.pure _).bind fun _ =>
    Preserves.self.bind fun _ => (Preserves.attr _ _).bind fun _ => .ite (.pure _) <|
    (Preserves.pure _).bind fun _ => (Preserves.attr _ _).bind fun _ => .ite (.pure _) <|
    (Preserves.pure _).bind fun _ => (Preserves.modify fun s => hP s _).bind fun _ =>
    Preserves.self.bind hresume

/-- So does `extend`, which runs the two. -/
theorem Preserves.extend (hP : ∀ s (c : Cursor), P s → P (c, s.2)) (ctx : Context ω)
    (hresume : ∀ c, Preserves P (Cursor.call (ctx.resume c))) (res : Response) :
    Preserves P (extend ql2 ctx res) :=
  (Preserves.attr _ _).bind fun _ => (Preserves.modify fun s => hP s _).bind fun _ =>
    (Preserves.maybeFetchBatch hP ctx hresume).bind fun _ => Preserves.extendInternal ql2 hP res

end Frame

end Cursor

end RethinkDriver

import RethinkDriver.Transport
import RethinkDriver.Reference
import RethinkDriver.Proofs.Frame

/-!
# Runs of a cursor's methods

After `read_response` creates a cursor, what happens to it is a sequence of calls: `extend`
with a response for its token, a consumer's `popleft`, `raise_error` and `close`.

`Cursor.__init__` never assigns `outstanding_requests` (`cursor.py:79-81` are commented
out), and no method assigns it before reading it, so in every run it stays unassigned and
every `extend` raises `AttributeError` before it applies the response or reaches
`ctx.resume` (`run_extend_raises`, `extend_unassigned`).

`Cursor.close` is `self.ctx.stop(self)` alone (`cursor.py:136-147`), so `k` calls are `k`
calls of `Connection.stop`: on a closed connection each raises through `__check_open`, and
on an open one each writes a STOP frame (`close_repeat`).
-/

namespace RethinkDriver

namespace Cursor

variable {ω : Type} (ql2 : Ql2) (ctx : Context ω)

/-- A call on a cursor once it exists. -/
inductive Event where
  | extend (res : Response)
  | consume
  | raiseError (message : String)
  | close

/-- The method an `Event` calls. -/
def Event.call : Event → CursorM ω Unit
  | .extend res => Cursor.extend ql2 ctx res
  | .consume => popItem >>= fun _ => pure ()
  | .raiseError message => Cursor.raiseError ql2 ctx message
  | .close => Cursor.close ctx

/-- The outcome of each call of a run, and the state after the last; a call that raises
    leaves the state it reached. -/
def run : List Event → Cursor × ω → List (Except PyExc Unit) × (Cursor × ω)
  | [], s => ([], s)
  | e :: es, s =>
    let r := e.call ql2 ctx s
    let rest := run es (resultState r)
    (resultOutcome r :: rest.1, rest.2)

variable {ql2 ctx}

/-! ## `outstanding_requests` is never assigned -/

/-- `outstanding_requests` is still unassigned. -/
def Unassigned (s : Cursor × ω) : Prop := s.1.outstandingRequests = none

theorem extendInternal_keeps_unassigned (ql2 : Ql2) (res : Response) :
    Preserves (Unassigned (ω := ω)) (extendInternal ql2 res) := by
  unfold extendInternal
  dsimp only
  repeat' first
    | apply Preserves.bind
    | apply Preserves.ite
    | exact Preserves.pure _
    | exact Preserves.liftPy _
    | exact Preserves.self
    | exact Preserves.modify fun _ h => h
    | intro _

/-- What `_extend_internal` keeps, a cursor `Cursor(...)` built has, if `__init__`'s
    attributes have it. -/
theorem new_preserves {P : Cursor × Unit → Prop} {query : Query} {first : Response} {c : Cursor}
    (hP : Preserves P (extendInternal ql2 first))
    (hinit : P (⟨query, [], false, none, none, none⟩, ()))
    (h : Cursor.new ql2 query first = .ok c) : P (c, ()) := by
  have hkeep := hP _ hinit
  unfold Cursor.new at h
  split at h
  · rename_i s hs
    cases h
    rw [hs] at hkeep
    exact hkeep
  · cases h

theorem new_unassigned {query : Query} {first : Response} {c : Cursor}
    (h : Cursor.new ql2 query first = .ok c) : c.outstandingRequests = none :=
  new_preserves (extendInternal_keeps_unassigned ql2 first) rfl h

/-- `_extend_internal` never reassigns `query`. -/
theorem new_query {query : Query} {first : Response} {c : Cursor}
    (h : Cursor.new ql2 query first = .ok c) : c.query = query := by
  refine new_preserves (P := fun s => s.1.query = query) ?_ rfl h
  unfold extendInternal
  dsimp only
  repeat' first
    | apply Preserves.bind
    | apply Preserves.ite
    | exact Preserves.pure _
    | exact Preserves.liftPy _
    | exact Preserves.self
    | exact Preserves.modify fun _ h => h
    | intro _

/-- A batch leaves `error` as it was. -/
theorem extendInternal_keeps_error (ql2 : Ql2) {res : Response}
    (h : res.isTypeOf ql2 .SUCCESS_PARTIAL ∨ res.isTypeOf ql2 .SUCCESS_SEQUENCE)
    (e : Option (Option PyExc)) :
    Preserves (fun s : Cursor × ω => s.1.error = e) (extendInternal ql2 res) := by
  unfold extendInternal
  dsimp only
  repeat' first
    | apply Preserves.bind
    | exact Preserves.pure _
    | exact Preserves.liftPy _
    | exact Preserves.self
    | exact Preserves.modify fun _ h => h
    | split
    | intro _
  simp_all

/-- A cursor built from a sequential first response has `error` unassigned. -/
theorem new_error_unassigned {query : Query} {first : Response} {c : Cursor}
    (hs : first.isSequential ql2 = .ok true) (h : Cursor.new ql2 query first = .ok c) :
    c.error = none := by
  have hseq : first.isTypeOf ql2 .SUCCESS_PARTIAL ∨ first.isTypeOf ql2 .SUCCESS_SEQUENCE := by
    unfold Response.isSequential at hs
    split at hs <;> simp_all
  exact new_preserves (P := fun s => s.1.error = none) (extendInternal_keeps_error ql2 hseq none)
    rfl h

/-- `extend` reads `outstanding_requests` first. -/
theorem extend_unassigned {c : Cursor} (hc : c.outstandingRequests = none) (res : Response)
    (w : ω) :
    Cursor.extend ql2 ctx res (c, w) = .error (.attributeError "outstanding_requests") (c, w) := by
  simp [Cursor.extend, attr, hc, bind, EStateM.bind]

theorem extend_keeps_unassigned (res : Response) :
    Preserves Unassigned (Cursor.extend ql2 ctx res) := by
  intro s h
  rw [show s = (s.1, s.2) from rfl, extend_unassigned h]
  exact h

theorem popItem_keeps_unassigned : Preserves (Unassigned (ω := ω)) popItem := by
  intro s h
  simp only [popItem]
  split <;> exact h

/-- No call assigns `outstanding_requests`. -/
theorem call_keeps_unassigned (e : Event) : Preserves Unassigned (e.call ql2 ctx) := by
  cases e with
  | extend res => exact extend_keeps_unassigned res
  | consume => exact Preserves.bind popItem_keeps_unassigned fun _ => Preserves.pure _
  | raiseError message =>
    unfold Event.call Cursor.raiseError
    repeat' first
      | exact extend_keeps_unassigned _
      | apply Preserves.bind
      | apply Preserves.ite
      | exact Preserves.pure _
      | exact Preserves.liftPy _
      | exact Preserves.self
      | exact Preserves.attr _ _
      | exact Preserves.modify fun _ h => h
      | intro _
  | close =>
    exact Preserves.bind Preserves.self fun _ =>
      Preserves.call (Q := fun c => c.outstandingRequests = none) _

/-- A property every call of a run keeps holds after the run. -/
theorem run_preserves {P : Cursor × ω → Prop} (es : List Event)
    (hP : ∀ e ∈ es, Preserves P (e.call ql2 ctx)) (s : Cursor × ω) (hs : P s) :
    P (run ql2 ctx es s).2 := by
  induction es generalizing s with
  | nil => exact hs
  | cons e es ih =>
    exact ih (fun e' he' => hP e' (List.mem_cons_of_mem e he')) _ (hP e (.head es) s hs)

/-- Every `extend` of every run from a cursor `Cursor(...)` built raises `AttributeError`,
    and leaves the cursor and the world as they were: no response is applied through it
    and it never reaches `ctx.resume`. -/
theorem run_extend_raises {query : Query} {first : Response} {c : Cursor}
    (h : Cursor.new ql2 query first = .ok c) (es : List Event) (w : ω) (res : Response) :
    let s := (run ql2 ctx es (c, w)).2
    Cursor.extend ql2 ctx res s = .error (.attributeError "outstanding_requests") s :=
  extend_unassigned
    (run_preserves es (fun e _ => call_keeps_unassigned e) (c, w) (new_unassigned h)) res _

/-- A cursor seeded with the `SUCCESS_PARTIAL` batch `[1]`, after a consumer took that item and
    a `close`: the `SUCCESS_SEQUENCE` batch `[2]` still makes `extend` raise. -/
theorem run_extend_raises_after_close :
    let ctx : Context Unit := ⟨fun _ => pure (), fun _ => pure ()⟩
    ∃ c, Cursor.new Ql2.proto (.new .START ⟨0⟩ none none) ⟨⟨0⟩, .int 3, .list [.int 1], .none⟩ =
        .ok c ∧
      Cursor.extend Ql2.proto ctx ⟨⟨0⟩, .int 2, .list [.int 2], .none⟩
          (run Ql2.proto ctx [.consume, .close] (c, ())).2 =
        .error (.attributeError "outstanding_requests")
          (run Ql2.proto ctx [.consume, .close] (c, ())).2 :=
  ⟨_, rfl, @run_extend_raises Unit Ql2.proto ⟨fun _ => pure (), fun _ => pure ()⟩
    (.new .START ⟨0⟩ none none) ⟨⟨0⟩, .int 3, .list [.int 1], .none⟩ _ rfl [.consume, .close] () _⟩

/-- A cursor seeded with the `SUCCESS_PARTIAL` batch `[1]`: the reply to its STOP, a
    `SUCCESS_SEQUENCE` with no items, makes `extend` raise, in any state of the world. -/
theorem extend_stop_reply_raises (ctx : Context ω) (w : ω) :
    ∃ c, Cursor.new Ql2.proto (.new .START ⟨0⟩ none none) ⟨⟨0⟩, .int 3, .list [.int 1], .none⟩ =
        .ok c ∧ c.items = [.int 1] ∧
      Cursor.extend Ql2.proto ctx ⟨⟨0⟩, .int 2, .list [], .none⟩ (c, w) =
        .error (.attributeError "outstanding_requests") (c, w) :=
  ⟨_, rfl, rfl, extend_unassigned rfl _ _⟩

/-! ## `close` -/

theorem close_eq (c : Cursor) (w : ω) :
    Cursor.close ctx (c, w) =
      match ctx.stop c w with
      | .ok _ w' => .ok () (c, w')
      | .error e w' => .error e (c, w') := by
  cases h : ctx.stop c w <;> simp only [Cursor.close, self, call, bind, EStateM.bind, h]

theorem close_keeps_cursor (c : Cursor) :
    Preserves (fun s : Cursor × ω => s.1 = c) (Event.close.call ql2 ctx) :=
  Preserves.bind Preserves.self fun _ => Preserves.call (Q := fun c' => c' = c) _

end Cursor

namespace Connection

variable {ql2 : Ql2} {codec : JsonCodec}

theorem stop_closed {conn : Connection} (hc : conn.isOpen = false) (c : Cursor) :
    stop ql2 codec c conn = .error (reqlDriverError "Connection is closed.") conn := by
  simp [stop, checkOpen, hc, bind, EStateM.bind]

/-- On an open socket that accepts what it is given, `stop` writes the STOP frame for the
    cursor's token and registers nothing. -/
theorem stop_sends {s : Socket} {frame : Bytes} {c : Cursor} (hp : s.sendPlan = [])
    (hq : (Query.new .STOP c.query.token none none).serialize ql2 codec = .ok frame)
    (conn : Connection) (sent : Bytes) :
    stop ql2 codec c (conn.withSent s sent) = .ok () (conn.withSent s (sent ++ frame)) := by
  simp only [stop, bind, EStateM.bind, checkOpen_of_isOpen (show (conn.withSent s sent).isOpen = true from rfl),
    sendQuery_noreply hq conn s hp sent]

/-- `k` calls of `Cursor.close` on a cursor of the connection: the cursor is unchanged; on a
    closed connection every call raises and changes nothing; on an open socket that accepts
    what it is given, every call writes one STOP frame for the cursor's token. -/
theorem close_repeat (c : Cursor) (conn : Connection) (k : Nat) :
    let r := Cursor.run ql2 (context ql2 codec) (List.replicate k .close) (c, conn)
    r.2.1 = c ∧
    (conn.isOpen = false →
      r.1 = List.replicate k (.error (reqlDriverError "Connection is closed.")) ∧ r.2.2 = conn) ∧
    (∀ s frame, conn.transport.client.socket = some s → s.sendPlan = [] →
      (Query.new .STOP c.query.token none none).serialize ql2 codec = .ok frame →
      r.1 = List.replicate k (.ok ()) ∧
        r.2.2 = conn.withSent s (s.sent ++ (List.replicate k frame).flatten)) := by
  refine ⟨Cursor.run_preserves (P := fun s => s.1 = c) _ (fun e he => ?_) (c, conn) rfl,
    fun hc => ?_, fun s frame hs hp hq => ?_⟩
  · rw [List.eq_of_mem_replicate he]
    exact Cursor.close_keeps_cursor c
  · induction k with
    | zero => exact ⟨rfl, rfl⟩
    | succ k ih =>
      simp only [List.replicate_succ, Cursor.run, Cursor.Event.call, Cursor.close_eq, context_stop,
        stop_closed hc, resultOutcome,
        resultState]
      exact ⟨congrArg _ ih.1, ih.2⟩
  · rw [← withSent_self hs]
    generalize s.sent = sent
    induction k generalizing sent with
    | zero => exact ⟨rfl, by simp [Cursor.run]⟩
    | succ k ih =>
      simp only [List.replicate_succ, Cursor.run, Cursor.Event.call, Cursor.close_eq, context_stop,
        stop_sends hp hq, resultOutcome,
        resultState]
      obtain ⟨h₁, h₂⟩ := ih (sent ++ frame)
      exact ⟨congrArg _ h₁, by rw [h₂]; simp⟩

/-- Two calls on a cursor for token `0`: on the connection `new_connection` made, before any
    connect, each raises; once a socket is open on it, each writes the STOP frame for token
    `0`. -/
theorem close_repeat_twice :
    let c : Cursor := ⟨.new .START ⟨0⟩ none none, [], false, none, none, none⟩
    let conn := initial "localhost" 28015 false "admin" "" none 0
    let s : Socket := ⟨[], [], [], []⟩
    let opened := conn.setClient { conn.transport.client with socket := some s }
    ∃ frame, (Query.new .STOP ⟨0⟩ none none).serialize Ql2.proto (JsonCodec.over []) = .ok frame ∧
      (Cursor.run Ql2.proto (context Ql2.proto (JsonCodec.over [])) (List.replicate 2 .close)
        (c, conn)).1 = List.replicate 2 (.error (reqlDriverError "Connection is closed.")) ∧
      (Cursor.run Ql2.proto (context Ql2.proto (JsonCodec.over [])) (List.replicate 2 .close)
        (c, opened)).1 = List.replicate 2 (.ok ()) ∧
      (Cursor.run Ql2.proto (context Ql2.proto (JsonCodec.over [])) (List.replicate 2 .close)
        (c, opened)).2.2 = opened.withSent s (s.sent ++ (List.replicate 2 frame).flatten) :=
  ⟨_, rfl, ((close_repeat ⟨.new .START ⟨0⟩ none none, [], false, none, none, none⟩
    (initial "localhost" 28015 false "admin" "" none 0) 2).2.1 rfl).1,
    (close_repeat ⟨.new .START ⟨0⟩ none none, [], false, none, none, none⟩
      ((initial "localhost" 28015 false "admin" "" none 0).setClient
        { (initial "localhost" 28015 false "admin" "" none 0).transport.client with
          socket := some ⟨[], [], [], []⟩ }) 2).2.2 _ _ rfl rfl rfl⟩

/-- On a closed connection, `Cursor.close` raises. -/
theorem close_on_closed_connection_raises :
    Cursor.close (context Ql2.proto (JsonCodec.over []))
        (⟨.new .START ⟨0⟩ none none, [], false, none, none, none⟩,
          initial "localhost" 28015 false "admin" "" none 0) =
      .error (reqlDriverError "Connection is closed.")
        (⟨.new .START ⟨0⟩ none none, [], false, none, none, none⟩,
          initial "localhost" 28015 false "admin" "" none 0) := by
  rw [Cursor.close_eq, context_stop,
    stop_closed (show (initial "localhost" 28015 false "admin" "" none 0).isOpen = false from rfl)]

end Connection

end RethinkDriver

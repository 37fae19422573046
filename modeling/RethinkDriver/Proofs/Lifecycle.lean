import RethinkDriver.Proofs.Connect
import RethinkDriver.Proofs.Routing

/-!
# Closing a connection

`Connection.close` (`core/net/connection.py:117-131`) and `DefaultTransport.close`
(`net/default_net/transport.py:94-107`) fail no cursor and clear no token map: the lines that
would (`cursor.raise_error("Connection is closed.")`, `reset_cursor_cache()`) are commented
out. Nor does `run_query` clean up after a fault. Every `run_query`, whether it returns or
raises, touches the two maps only at its own query's token and at the token of the frame it
read (`runQuery_agreesOff`), so a close leaves every other pending request and cursor
registered, while the token generator starts its sequence again (`close_keeps_maps`).
-/

namespace RethinkDriver

namespace Connection

/-- The token maps of `after` agree with those of `conn` at every token outside `ts`: no other
    pending request and no other cursor was added, removed or replaced. -/
def MapsAgreeOff (ts : List Token) (conn after : Connection) : Prop :=
  ∀ t ∉ ts, after.protocol.waitingRespose.get? t = conn.protocol.waitingRespose.get? t ∧
    after.protocol.cursorCache.get? t = conn.protocol.cursorCache.get? t

/-- `after` has the token generator of `conn`, and their token maps agree off `ts`. -/
def AgreesOff (ts : List Token) (conn after : Connection) : Prop :=
  after.token = conn.token ∧ MapsAgreeOff ts conn after

namespace AgreesOff

variable {ts ts' : List Token} {a b c : Connection}

theorem refl (ts : List Token) (a : Connection) : AgreesOff ts a a :=
  ⟨rfl, fun _ _ => ⟨rfl, rfl⟩⟩

theorem trans (hab : AgreesOff ts a b) (hbc : AgreesOff ts b c) : AgreesOff ts a c :=
  ⟨hbc.1.trans hab.1, fun t ht =>
    ⟨((hbc.2 t ht).1.trans (hab.2 t ht).1), ((hbc.2 t ht).2.trans (hab.2 t ht).2)⟩⟩

theorem mono (h : AgreesOff ts a b) (hsub : ∀ t ∈ ts, t ∈ ts') : AgreesOff ts' a b :=
  ⟨h.1, fun t ht => h.2 t fun hmem => ht (hsub t hmem)⟩

/-- Same protocol object and token generator: nothing is touched. -/
theorem of_eq (hp : b.protocol = a.protocol) (ht : b.token = a.token) : AgreesOff ts a b :=
  ⟨ht, fun _ _ => by rw [hp]; exact ⟨rfl, rfl⟩⟩

end AgreesOff

/-- Every call of `m`, returning or raising, leaves a state that agrees off `ts` with the one it
    started from. -/
def TouchesOnly {α : Type} (ts : List Token) (m : ConnM α) : Prop :=
  ∀ conn, AgreesOff ts conn (resultState (m conn))

namespace TouchesOnly

variable {α β : Type} {ts : List Token}

theorem bind {m : ConnM α} {f : α → ConnM β} (hm : TouchesOnly ts m)
    (hf : ∀ a, TouchesOnly ts (f a)) : TouchesOnly ts (m >>= f) := by
  intro conn
  have h := hm conn
  show AgreesOff ts conn (resultState (EStateM.bind m f conn))
  cases hms : m conn with
  | ok a s => rw [hms] at h; simp only [EStateM.bind, hms]; exact h.trans (hf a s)
  | error e s => rw [hms] at h; simpa only [EStateM.bind, hms, resultState] using h

theorem pure (a : α) : TouchesOnly ts (Pure.pure a : ConnM α) := fun conn => .refl ts conn

theorem liftPy (x : Except PyExc α) : TouchesOnly ts (RethinkDriver.liftPy x : ConnM α) := by
  intro conn
  cases x <;> exact .refl ts conn

/-- A call that only replaces the client touches nothing. -/
theorem onClient (f : DefaultClient → Except PyExc α × DefaultClient) :
    TouchesOnly ts (Connection.onClient f) := by
  intro conn
  unfold Connection.onClient
  split <;> exact .of_eq rfl rfl

theorem mono {ts' : List Token} {m : ConnM α} (h : TouchesOnly ts m) (hsub : ∀ t ∈ ts, t ∈ ts') :
    TouchesOnly ts' m :=
  fun conn => (h conn).mono hsub

end TouchesOnly

variable {ql2 : Ql2} {codec : JsonCodec}

/-- A noreply query only writes to the socket: what `resume` and `stop` do is replace the
    client. -/
theorem sendQuery_noreply_client (q : Query) (conn : Connection) :
    ∃ c, resultState (sendQuery ql2 codec q true conn) = conn.setClient c := by
  cases hq : q.serialize ql2 codec with
  | ok frame =>
    simp only [sendQuery, bind, EStateM.bind, buildQuery_noreply hq]
    unfold onClient
    split <;> exact ⟨_, rfl⟩
  | error e =>
    refine ⟨conn.transport.client, ?_⟩
    simp only [sendQuery, buildQuery, hq, bind, EStateM.bind, liftPy_error]
    rfl

theorem resume_client (c : Cursor) (conn : Connection) :
    ∃ client, resultState (resume ql2 codec c conn) = conn.setClient client := by
  cases h : conn.isOpen
  · exact ⟨conn.transport.client, by simp [resume, bind, EStateM.bind, checkOpen, h, resultState]; rfl⟩
  · simp only [resume, bind, EStateM.bind, checkOpen_of_isOpen h]
    exact sendQuery_noreply_client _ _

/-- `Cursor.extend` reaches the connection only through `resume`, which keeps its protocol
    object and token generator. -/
theorem extend_keeps_maps (p : RdbProtocol) (g : TokenGenerator) (response : Response) :
    Preserves (fun s : Cursor × Connection => s.2.protocol = p ∧ s.2.token = g)
      (Cursor.extend ql2 (context ql2 codec) response) := by
  have hresume : ∀ c, Preserves (fun s : Cursor × Connection => s.2.protocol = p ∧ s.2.token = g)
      (Cursor.call (resume ql2 codec c)) := by
    intro c s hs
    obtain ⟨client, hc⟩ := @resume_client ql2 codec c s.2
    simp only [Cursor.call]
    split <;> rename_i hr <;> rw [hr] at hc <;> simp only [resultState] at hc <;> rw [hc] <;>
      exact hs
  exact Cursor.Preserves.extend ql2 (fun _ _ h => h) _ hresume response

theorem extendCursor_touchesOnly (token : Token) (cursor : Cursor) (response : Response) :
    TouchesOnly [token] (extendCursor ql2 codec token cursor response) := by
  intro conn
  have h := @extend_keeps_maps ql2 codec conn.protocol conn.token response (cursor, conn)
    ⟨rfl, rfl⟩
  unfold extendCursor
  split <;> rename_i hr <;> rw [hr] at h <;> obtain ⟨hp, hg⟩ := h <;>
    simp only [resultState] at hp hg <;>
    exact ⟨hg, fun t ht => by simp [resultState, hp, List.mem_singleton.not.mp ht]⟩

theorem popWaiting_touchesOnly (token : Token) : TouchesOnly [token] (popWaiting token) := by
  intro conn
  unfold popWaiting
  split
  · rename_i q rest hpop
    obtain ⟨-, rfl⟩ := PyDict.pop_eq_some_iff.mp hpop
    exact ⟨rfl, fun t ht => by simp [resultState, List.mem_singleton.not.mp ht]⟩
  · exact .refl _ conn

theorem modifyProtocol_touchesOnly {ts : List Token} {f : RdbProtocol → RdbProtocol}
    (hf : ∀ p, ∀ t ∉ ts, (f p).waitingRespose.get? t = p.waitingRespose.get? t ∧
      (f p).cursorCache.get? t = p.cursorCache.get? t) :
    TouchesOnly ts (modifyProtocol f) :=
  fun conn => ⟨rfl, hf conn.protocol⟩

theorem readCtx_touchesOnly (ts : List Token) : TouchesOnly ts readCtx := fun conn => by
  rw [resultState_readCtx]; exact .refl ts conn

/-- Routing a frame touches the maps only at the frame's token. -/
theorem dispatch_touchesOnly (token : Token) (body : Bytes) :
    TouchesOnly [token] (dispatch ql2 codec token body) := by
  unfold dispatch
  repeat' first
    | exact popWaiting_touchesOnly token
    | exact extendCursor_touchesOnly token _ _
    | exact readCtx_touchesOnly _
    | exact fun conn => .refl _ conn
    | (apply modifyProtocol_touchesOnly; intro p t ht; simp [List.mem_singleton.not.mp ht])
    | apply TouchesOnly.bind
    | exact TouchesOnly.liftPy _
    | exact TouchesOnly.pure _
    | split
    | intro _

/-- Sending registers the query under its own token, and nothing else. -/
theorem sendQuery_touchesOnly (q : Query) (noreply : Bool) :
    TouchesOnly [q.token] (sendQuery ql2 codec q noreply) := by
  unfold sendQuery buildQuery
  repeat' first
    | (apply modifyProtocol_touchesOnly; intro p t ht; simp [List.mem_singleton.not.mp ht])
    | exact TouchesOnly.onClient _
    | apply TouchesOnly.bind
    | exact TouchesOnly.liftPy _
    | exact TouchesOnly.pure _
    | split
    | intro _

theorem readFrame_touchesOnly : TouchesOnly [] readFrame := by
  unfold readFrame
  repeat' first
    | exact TouchesOnly.onClient _
    | apply TouchesOnly.bind
    | exact TouchesOnly.liftPy _
    | exact TouchesOnly.pure _
    | intro _

/-- Every `run_query`, returning or raising at any point, touches the maps only at its own
    query's token and at the token of the frame it read, and leaves the token generator. -/
theorem runQuery_agreesOff (q : Query) (noreply : Bool) (conn : Connection) :
    ∃ t, AgreesOff [q.token, t] conn (resultState (runQuery ql2 codec q noreply conn)) := by
  have hs := @sendQuery_touchesOnly ql2 codec q noreply conn
  simp only [runQuery, bind, EStateM.bind]
  cases h₁ : sendQuery ql2 codec q noreply conn with
  | error e c₁ => rw [h₁] at hs; exact ⟨q.token, hs.mono (by simp)⟩
  | ok _ c₁ =>
    rw [h₁] at hs
    cases noreply
    · have hr := readFrame_touchesOnly c₁
      simp only [Bool.false_eq_true, ↓reduceIte, pure, EStateM.pure, EStateM.bind]
      cases h₂ : readFrame c₁ with
      | error e c₂ =>
        rw [h₂] at hr
        exact ⟨q.token, (hs.trans (hr.mono nofun)).mono (by simp)⟩
      | ok frame c₂ =>
        rw [h₂] at hr
        have hd := @dispatch_touchesOnly ql2 codec ⟨frame.1⟩ frame.2 c₂
        exact ⟨⟨frame.1⟩, ((hs.trans (hr.mono nofun)).mono (by simp)).trans (hd.mono (by simp))⟩
    · exact ⟨q.token, hs.mono (by simp)⟩

theorem close_closed {conn : Connection} (h : conn.isOpen = false) (noreplyWait : Bool) :
    close ql2 codec noreplyWait conn = .ok () conn := by
  simp [close, h, bind, EStateM.bind, get, getThe, MonadStateOf.get, EStateM.get, pure,
    EStateM.pure]

theorem close_open {conn : Connection} (h : conn.isOpen = true) :
    close ql2 codec false conn = .ok () { conn with
      transport := { conn.transport with client := conn.transport.client.close, closing := true },
      token := conn.token.reset } := by
  simp only [close, transportClose, h, bind, EStateM.bind, get, getThe, MonadStateOf.get,
    EStateM.get, pure, EStateM.pure, modify, modifyGet, MonadStateOf.modifyGet,
    EStateM.modifyGet, onClient, Bool.not_true, Bool.false_eq_true, ↓reduceIte]
  rfl

/-- When `close(True)` returns, the socket is closed and the token generator reset, and the
    maps differ from before only at the NOREPLY_WAIT query's token and at the token of the frame
    its `run_query` read. -/
theorem close_noreplyWait_eq_ok {conn after : Connection} (h : conn.isOpen = true)
    (hc : close ql2 codec true conn = .ok () after) :
    after.isOpen = false ∧ after.token = conn.token.reset ∧
      ∃ t, MapsAgreeOff [conn.token.new.1, t] conn after := by
  simp only [close, transportClose, h, bind, EStateM.bind, get, getThe, MonadStateOf.get,
    EStateM.get, pure, EStateM.pure, modify, modifyGet, MonadStateOf.modifyGet,
    EStateM.modifyGet, Bool.not_true, Bool.false_eq_true, ↓reduceIte, Functor.map, EStateM.map,
    newToken] at hc
  obtain ⟨t, hagree⟩ := @runQuery_agreesOff ql2 codec (.new .NOREPLY_WAIT conn.token.new.1 none none)
    false ⟨conn.db, ⟨conn.transport.client, true, conn.transport.rdbProtocol⟩, conn.token.new.2⟩
  generalize runQuery ql2 codec (.new .NOREPLY_WAIT conn.token.new.1 none none) false
    ⟨conn.db, ⟨conn.transport.client, true, conn.transport.rdbProtocol⟩, conn.token.new.2⟩ = r
    at hagree hc
  cases r with
  | error e s => cases hc
  | ok a s =>
    obtain ⟨htoken, hmaps⟩ := hagree
    cases hc
    refine ⟨rfl, ?_, t, hmaps⟩
    show s.token.reset = conn.token.reset
    rw [show s.token = conn.token.new.2 from htoken]
    rfl

/-- Leaving the open state fails nothing and clears no map. `close` on a closed connection
    does nothing. `close(False)` closes the socket and resets the token generator, and leaves
    both maps as they were. `close(True)`, when it returns, has closed the socket and reset the
    generator, and its maps differ only at the NOREPLY_WAIT token and at the token of the frame
    read. Every `run_query`, whether it returns or raises, touches the maps only at its query's
    token and at its frame's. -/
theorem close_keeps_maps (conn : Connection) :
    (conn.isOpen = false → ∀ noreplyWait, close ql2 codec noreplyWait conn = .ok () conn) ∧
    (conn.isOpen = true → close ql2 codec false conn = .ok () { conn with
      transport := { conn.transport with client := conn.transport.client.close, closing := true },
      token := conn.token.reset }) ∧
    (conn.isOpen = true → ∀ after, close ql2 codec true conn = .ok () after →
      after.isOpen = false ∧ after.token = conn.token.reset ∧
        ∃ t, MapsAgreeOff [conn.token.new.1, t] conn after) ∧
    (∀ q noreply, ∃ t,
      AgreesOff [q.token, t] conn (resultState (runQuery ql2 codec q noreply conn))) :=
  ⟨close_closed, close_open, fun h _ hc => close_noreplyWait_eq_ok h hc,
    fun q noreply => runQuery_agreesOff q noreply conn⟩

/-- A query pending under token `0` and a cursor under token `1`: `close(False)` closes the
    socket and leaves both registered, the cursor not failed, and the next token it issues is
    `0` again. -/
theorem close_keeps_stale_entries :
    let q := Query.new .START ⟨0⟩ none none
    let c : Cursor := ⟨.new .START ⟨1⟩ none none, [.int 1], false, some 1, none, none⟩
    let conn : Connection := ⟨none, ⟨⟨"localhost", 28015, false, some ⟨[], [], [], []⟩⟩, false,
      ⟨PyDict.empty.set ⟨1⟩ c, PyDict.empty.set ⟨0⟩ q, .new "admin" "", true⟩⟩, ⟨0, 2⟩⟩
    ∃ after, close Ql2.proto (JsonCodec.over []) false conn = .ok () after ∧
      after.isOpen = false ∧ after.protocol.waitingRespose.get? ⟨0⟩ = some q ∧
      after.protocol.cursorCache.get? ⟨1⟩ = some c ∧ after.token.new.1 = ⟨0⟩ :=
  ⟨_, rfl, rfl, rfl, rfl, rfl⟩

end Connection

end RethinkDriver

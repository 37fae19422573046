import RethinkDriver.Proofs.Lifecycle

/-!
# The token maps over whole runs of a connection

`RdbProtocol` keeps two maps by token (`core/net/protocol.py:59-67`): `_waiting_respose`, the
queries `build_query` registered because they expect a reply, and `_cursor_cache`, the cursors
`read_response` built from a first reply that is a sequence. A method of the connection changes
them by five moves only (`Move`): register a query that awaits a reply, pop a pending entry,
cache a new cursor under a token that has none, replace the handshake object, or assign `ctx`
once a handshake has completed; the garbage collector's drop is the sixth change a run makes.

From that, over every run from `new_connection` (`runOps_registry`): every pending entry is a
START, NOREPLY_WAIT or SERVER_INFO query under its own token, with the options `Query.__init__`
sets, and every cached cursor was built for such a query and has neither
`outstanding_requests` nor `error` assigned. A frame for a cached cursor's token therefore never
extends it (`Cursor.extend` raises `AttributeError` on its first line), and the cursor stays as
its first response built it until the collector drops it (`runOps_cursor_stays`).
`read_response` returns only after popping the reply to a pending query that is not a sequence
(`dispatch_cases`, `runOps_dispatch_eq_ok`).

Within one session, from the first connect up to the next close or reconnect (whose
`_token.reset()` starts the sequence again while both maps are kept), every token in use lies
between the generator's seed and its counter (`Fresh`), so the token `new()` hands out next is
neither pending nor cached (`runOps_next_token_free`).
-/

namespace RethinkDriver

namespace Connection

open Relation

/-- A query as `build_query` registers it under `t`: its own token, a type whose queries the
    connection sends expecting a reply (`resume` and `stop` send theirs noreply), and the options
    `Query.__init__` always sets. -/
structure Pending (t : Token) (q : Query) : Prop where
  token : q.token = t
  awaits : q.type = .START ∨ q.type = .NOREPLY_WAIT ∨ q.type = .SERVER_INFO
  kwargs : q.kwargs.isSome

/-- A cursor as `read_response` caches it under `t`: built for a query pending under `t`, with
    `outstanding_requests` and `error` never assigned. -/
structure Cached (t : Token) (c : Cursor) : Prop where
  query : Pending t c.query
  outstanding : c.outstandingRequests = none
  error : c.error = none

/-- The invariant of the two token maps. -/
structure Registry (p : RdbProtocol) : Prop where
  pending : ∀ {t q}, p.waitingRespose.get? t = some q → Pending t q
  cached : ∀ {t c}, p.cursorCache.get? t = some c → Cached t c

/-- What a method of the connection can do to its protocol object in one step, registering
    queries only under tokens `R` allows: register a query that awaits a reply, pop a pending
    entry, cache a cursor built for the query pending under a token that has no cursor, replace
    the handshake object, or assign `ctx` (`set_ctx`). -/
inductive Move (R : Token → Prop) : RdbProtocol → RdbProtocol → Prop
  | register (p : RdbProtocol) {q : Query} (hq : Pending q.token q) (hR : R q.token) :
      Move R p { p with waitingRespose := p.waitingRespose.set q.token q }
  | pop (p : RdbProtocol) (t : Token) :
      Move R p { p with waitingRespose := p.waitingRespose.erase t }
  | cache (p : RdbProtocol) {t : Token} {c : Cursor} (hwait : p.waitingRespose.get? t = some c.query)
      (hfree : p.cursorCache.get? t = none) (hc : Cached t c) :
      Move R p { p with cursorCache := p.cursorCache.set t c }
  | handshake (p : RdbProtocol) (h : HandshakeV1_0) : Move R p { p with handshake := h }
  | ctx (p : RdbProtocol) : Move R p { p with ctx := true }

namespace Registry

variable {R : Token → Prop} {p p' : RdbProtocol}

theorem initial (host : String) (port : Nat) (ssl : Bool) (user password : String)
    (db : Option String) (seed : Nat) :
    Registry (Connection.initial host port ssl user password db seed).protocol :=
  ⟨fun h => by simp [Connection.initial] at h, fun h => by simp [Connection.initial] at h⟩

theorem move (hr : Registry p) (hm : Move R p p') : Registry p' := by
  cases hm with
  | register hq _ =>
    refine ⟨fun {t q'} h => ?_, hr.cached⟩
    simp only [PyDict.get?_set] at h
    split at h
    · cases h; subst t; exact hq
    · exact hr.pending h
  | pop t =>
    refine ⟨fun {t' q'} h => ?_, hr.cached⟩
    simp only [PyDict.get?_erase] at h
    split at h
    · cases h
    · exact hr.pending h
  | cache _ _ hc =>
    refine ⟨hr.pending, fun {t' c'} h => ?_⟩
    simp only [PyDict.get?_set] at h
    split at h
    · cases h; subst t'; exact hc
    · exact hr.cached h
  | handshake | ctx => exact ⟨hr.pending, hr.cached⟩

theorem moves (hr : Registry p) (h : ReflTransGen (Move R) p p') : Registry p' := by
  induction h with
  | refl => exact hr
  | tail _ hm ih => exact ih.move hm

/-- The garbage collector's drop keeps the invariant. -/
theorem collect (hr : Registry p) (t : Token) :
    Registry { p with cursorCache := p.cursorCache.erase t } := by
  refine ⟨hr.pending, fun {t' c'} h => ?_⟩
  simp only [PyDict.get?_erase] at h
  split at h
  · cases h
  · exact hr.cached h

end Registry

/-- No move drops or replaces a cached cursor. -/
theorem Move.keeps_cached {R : Token → Prop} {p p' : RdbProtocol} {t : Token} {c : Cursor}
    (hm : Move R p p')
    (h : p.cursorCache.get? t = some c) : p'.cursorCache.get? t = some c := by
  cases hm with
  | cache _ hfree =>
    simp only [PyDict.get?_set]
    split
    · subst t; rw [hfree] at h; cases h
    · exact h
  | _ => exact h

theorem moves_keeps_cached {R : Token → Prop} {p p' : RdbProtocol} {t : Token} {c : Cursor}
    (hm : ReflTransGen (Move R) p p') (h : p.cursorCache.get? t = some c) :
    p'.cursorCache.get? t = some c := by
  induction hm with
  | refl => exact h
  | tail _ hm ih => exact hm.keeps_cached ih

/-- Every call of `m` from a state that keeps the registry, returning or raising, changes the
    protocol object by moves only, registering under tokens `R` allows. -/
def Moves (R : Token → Prop) {α : Type} (m : ConnM α) : Prop :=
  ∀ conn, Registry conn.protocol →
    ReflTransGen (Move R) conn.protocol (resultState (m conn)).protocol

namespace Moves

variable {R : Token → Prop} {α β : Type}

theorem bind {m : ConnM α} {f : α → ConnM β} (hm : Moves R m) (hf : ∀ a, Moves R (f a)) :
    Moves R (m >>= f) := by
  intro conn hr
  have h := hm conn hr
  show ReflTransGen (Move R) _ (resultState (EStateM.bind m f conn)).protocol
  cases hms : m conn with
  | ok a s =>
    rw [hms] at h
    simp only [EStateM.bind, hms]
    exact h.trans (hf a s (hr.moves h))
  | error e s => rw [hms] at h; simpa only [EStateM.bind, hms, resultState] using h

/-- A call that leaves the protocol object alone. -/
theorem of_protocol {m : ConnM α} (h : ∀ conn, (resultState (m conn)).protocol = conn.protocol) :
    Moves R m :=
  fun conn _ => by rw [h]

theorem pure (a : α) : Moves R (Pure.pure a : ConnM α) := of_protocol fun _ => rfl

theorem liftPy (x : Except PyExc α) : Moves R (RethinkDriver.liftPy x : ConnM α) :=
  of_protocol fun _ => by cases x <;> rfl

theorem onClient (f : DefaultClient → Except PyExc α × DefaultClient) : Moves R (onClient f) :=
  of_protocol (onClient_protocol f)

theorem ite {c : Prop} [Decidable c] {a b : ConnM α} (ha : Moves R a) (hb : Moves R b) :
    Moves R (if c then a else b) := by
  split <;> assumption

theorem modify {f : Connection → Connection} (hf : ∀ conn, (f conn).protocol = conn.protocol) :
    Moves R (modify f : ConnM Unit) :=
  of_protocol hf

end Moves

variable {ql2 : Ql2} {codec : JsonCodec} {crypto : Crypto}

/-- The reply to a pending query with options, under a token with no cursor, that decodes into
    a response that is not a sequence and has data: `read_response` pops the entry and returns. -/
theorem dispatch_reply {conn : Connection} {token : Token} {body : Bytes} {q : Query}
    {o : Options} {r : Response} {v : PyValue}
    (hq : conn.protocol.waitingRespose.get? token = some q) (ho : q.kwargs = some o)
    (hc : conn.protocol.cursorCache.get? token = none)
    (hres : Response.new token body (codec.decode o) = .ok r) (hs : r.isSequential ql2 = .ok false)
    (hg : r.getData ql2 = .ok v) :
    dispatch ql2 codec token body conn = .ok () (conn.setProtocol
      { conn.protocol with waitingRespose := conn.protocol.waitingRespose.erase token }) := by
  simp [dispatch, bind, EStateM.bind, popWaiting_pending hq, ho, hres, cachedCursor, hc, hs, hg,
    discard, Functor.mapConst, EStateM.map]

/-- The four ways `read_response` ends, from a state that keeps the registry: a `KeyError` for a
    token that is not pending, with nothing changed; an exception after the pop, a reply to a
    cached cursor included (`extend` raises before it changes the cursor), and a first sequence
    before any handshake has completed (reading `ctx` raises); a new cursor cached under a token
    that had none, then the `AttributeError` of `print`; or a return after the pop, for a reply
    that decodes, is not a sequence and has data. -/
theorem dispatch_cases {conn : Connection} (hr : Registry conn.protocol) (token : Token)
    (body : Bytes) :
    let popped := conn.setProtocol
      { conn.protocol with waitingRespose := conn.protocol.waitingRespose.erase token }
    (conn.protocol.waitingRespose.get? token = none ∧
        dispatch ql2 codec token body conn = .error (.keyError s!"{token.value}") conn) ∨
      (∃ e, dispatch ql2 codec token body conn = .error e popped) ∨
      (∃ c, conn.protocol.waitingRespose.get? token = some c.query ∧
        conn.protocol.cursorCache.get? token = none ∧ Cached token c ∧
        dispatch ql2 codec token body conn = .error (.attributeError "error")
          (conn.setProtocol { conn.protocol with
            waitingRespose := conn.protocol.waitingRespose.erase token,
            cursorCache := conn.protocol.cursorCache.set token c })) ∨
      (∃ q r v, conn.protocol.waitingRespose.get? token = some q ∧
        conn.protocol.cursorCache.get? token = none ∧
        Response.new token body (codec.decode (q.kwargs.getD .empty)) = .ok r ∧
        r.isSequential ql2 = .ok false ∧ r.getData ql2 = .ok v ∧
        dispatch ql2 codec token body conn = .ok () popped) := by
  intro popped
  cases hq : conn.protocol.waitingRespose.get? token with
  | none => exact .inl ⟨rfl, dispatch_not_pending hq body⟩
  | some q =>
    have hpq := hr.pending hq
    obtain ⟨o, ho⟩ := Option.isSome_iff_exists.mp hpq.kwargs
    right
    cases hres : Response.new token body (codec.decode o) with
    | error e =>
      exact .inl ⟨e, by simp [dispatch, bind, EStateM.bind, popWaiting_pending hq, ho, hres,
        popped]⟩
    | ok r =>
      cases hc : conn.protocol.cursorCache.get? token with
      | some c =>
        refine .inl ⟨.attributeError "outstanding_requests", ?_⟩
        simp [dispatch, bind, EStateM.bind, popWaiting_pending hq, ho, hres, cachedCursor, hc,
          extendCursor, Cursor.extend_unassigned (hr.cached hc).outstanding,
          PyDict.set_of_get? hc, popped]
      | none =>
        cases hs : r.isSequential ql2 with
        | error e =>
          exact .inl ⟨e, by simp [dispatch, bind, EStateM.bind, popWaiting_pending hq, ho, hres,
            cachedCursor, hc, hs, popped]⟩
        | ok b =>
          cases b with
          | false =>
            cases hg : r.getData ql2 with
            | error e =>
              exact .inl ⟨e, by simp [dispatch, bind, EStateM.bind, popWaiting_pending hq, ho,
                hres, cachedCursor, hc, hs, hg, discard, Functor.mapConst, EStateM.map, popped]⟩
            | ok v =>
              exact .inr (.inr ⟨q, r, v, rfl, rfl, by rw [ho]; exact hres, hs, hg,
                dispatch_reply hq ho hc hres hs hg⟩)
          | true =>
            cases hctx : conn.protocol.ctx with
            | false =>
              exact .inl ⟨.attributeError "ctx", by simp [dispatch, bind, EStateM.bind,
                popWaiting_pending hq, ho, hres, cachedCursor, hc, hs, readCtx, hctx, popped]⟩
            | true =>
            cases hn : Cursor.new ql2 q r with
            | error e =>
              exact .inl ⟨e, by simp [dispatch, bind, EStateM.bind, popWaiting_pending hq, ho,
                hres, cachedCursor, hc, hs, readCtx, hctx, hn, popped]⟩
            | ok c =>
              refine .inr (.inl ⟨c, by rw [Cursor.new_query hn], rfl,
                ⟨Cursor.new_query hn ▸ hpq, Cursor.new_unassigned hn,
                  Cursor.new_error_unassigned hs hn⟩, ?_⟩)
              exact dispatch_new_cursor body hq ho hres hc hs hctx hn

/-- From a state that keeps the registry, `read_response` returns only for a pending token with
    no cursor, whose reply decodes with the query's options into a response that is not a
    sequence and whose `get_data` succeeds; it has then popped the entry and changed nothing
    else. -/
theorem dispatch_eq_ok {conn after : Connection} (hr : Registry conn.protocol) {token : Token}
    {body : Bytes} (h : dispatch ql2 codec token body conn = .ok () after) :
    ∃ q r v, conn.protocol.waitingRespose.get? token = some q ∧
      conn.protocol.cursorCache.get? token = none ∧
      Response.new token body (codec.decode (q.kwargs.getD .empty)) = .ok r ∧
      r.isSequential ql2 = .ok false ∧ r.getData ql2 = .ok v ∧
      after = conn.setProtocol
        { conn.protocol with waitingRespose := conn.protocol.waitingRespose.erase token } := by
  rcases dispatch_cases hr token body with
    ⟨-, h'⟩ | ⟨_, h'⟩ | ⟨_, -, -, -, h'⟩ | ⟨q, r, v, hq, hc, hres, hs, hg, h'⟩ <;>
    rw [h'] at h <;> cases h
  exact ⟨q, r, v, hq, hc, hres, hs, hg, rfl⟩

theorem pending_new {type : QueryType}
    (h : type = .START ∨ type = .NOREPLY_WAIT ∨ type = .SERVER_INFO) (t : Token)
    (term : Option Term) (kwargs : Option Options) : Pending t (Query.new type t term kwargs) :=
  ⟨rfl, h, rfl⟩

namespace Moves

variable {R : Token → Prop}

theorem dispatch (token : Token) (body : Bytes) : Moves R (dispatch ql2 codec token body) := by
  intro conn hr
  rcases @dispatch_cases ql2 codec _ hr token body with
    ⟨-, h⟩ | ⟨_, h⟩ | ⟨c, hwait, hfree, hc, h⟩ | ⟨_, _, _, -, -, -, -, -, h⟩ <;>
    rw [h]
  · exact .refl
  · exact .single (.pop _ token)
  · exact .tail (.single (.cache _ hwait hfree hc)) (.pop _ token)
  · exact .single (.pop _ token)

theorem checkOpen : Moves R checkOpen :=
  of_protocol fun conn => by unfold Connection.checkOpen; split <;> rfl

theorem newToken : Moves R newToken := of_protocol fun _ => rfl

theorem buildQuery (q : Query) {noreply : Bool}
    (hq : noreply = false → Pending q.token q ∧ R q.token) :
    Moves R (buildQuery ql2 codec q noreply) := by
  unfold Connection.buildQuery
  refine (liftPy _).bind fun _ => ?_
  cases noreply with
  | true => exact (pure _).bind fun _ => pure _
  | false =>
    refine Moves.bind (fun conn _ => .single (.register conn.protocol (hq rfl).1 (hq rfl).2))
      fun _ => pure _

theorem sendQuery (q : Query) {noreply : Bool}
    (hq : noreply = false → Pending q.token q ∧ R q.token) :
    Moves R (sendQuery ql2 codec q noreply) :=
  (buildQuery q hq).bind fun _ => onClient _

theorem readFrame : Moves R readFrame := by
  unfold Connection.readFrame
  exact (onClient _).bind fun _ => (liftPy _).bind fun _ => (onClient _).bind fun _ => pure _

theorem runQuery (q : Query) {noreply : Bool}
    (hq : noreply = false → Pending q.token q ∧ R q.token) :
    Moves R (runQuery ql2 codec q noreply) := by
  unfold Connection.runQuery
  refine (sendQuery q hq).bind fun _ => ?_
  cases noreply with
  | true => exact pure _
  | false => exact readFrame.bind fun _ => dispatch _ _

theorem onHandshake {α : Type} (m : EStateM PyExc HandshakeV1_0 α) : Moves R (onHandshake m) := by
  intro conn _
  unfold Connection.onHandshake
  split <;> exact .single (.handshake _ _)

theorem sendRequest (request : Bytes) : Moves R (sendRequest request) := by
  unfold Connection.sendRequest
  split
  · exact pure _
  · exact onClient _

theorem handshake (randomBytes : Bytes) : Moves R (handshake ql2 codec crypto randomBytes) := by
  unfold Connection.handshake
  exact (onHandshake _).bind fun _ => (sendRequest _).bind fun _ => (onClient _).bind fun _ =>
    (liftPy _).bind fun _ => (sendRequest _).bind fun _ => (onClient _).bind fun _ =>
    (onHandshake _).bind fun _ => (sendRequest _).bind fun _ => (onClient _).bind fun _ =>
    onHandshake _

theorem wrapAuthError {m : ConnM Unit} (h : Moves R m) : Moves R (wrapAuthError m) := by
  intro conn hr
  have hm := h conn hr
  unfold Connection.wrapAuthError
  split
  · rename_i he
    rw [he] at hm
    split <;> exact hm
  · exact hm

theorem connect (randomBytes : Bytes) (newSocket : NewSocket) :
    Moves R (connect ql2 codec crypto randomBytes newSocket) :=
  (onClient _).bind fun _ => (wrapAuthError (handshake randomBytes)).bind fun _ =>
    fun _ _ => .single (.ctx _)

theorem transportClose {qo : Option Query} (hq : ∀ q ∈ qo, Pending q.token q ∧ R q.token) :
    Moves R (transportClose ql2 codec qo) := by
  unfold Connection.transportClose
  refine Moves.bind (modify fun _ => rfl) fun _ => ?_
  cases qo with
  | none => exact (pure _).bind fun _ => onClient _
  | some q => exact (runQuery q fun _ => hq q rfl).bind fun _ => onClient _

theorem close (w : Bool) : Moves (fun _ => True) (close ql2 codec w) := by
  unfold Connection.close
  cases w <;> simp only [Bool.false_eq_true, if_false, if_true, bind_map_left, pure_bind] <;>
    refine (of_protocol fun _ => rfl : Moves _ get).bind fun _ => .ite ?_ (pure _)
  · exact (transportClose fun _ h => by cases h).bind fun _ => modify fun _ => rfl
  · exact newToken.bind fun t => (transportClose fun _ h => by
      cases h; exact ⟨pending_new (.inr (.inl rfl)) t none none, trivial⟩).bind fun _ =>
        modify fun _ => rfl

theorem reconnect (w : Bool) (randomBytes : Bytes) (newSocket : NewSocket) :
    Moves (fun _ => True) (reconnect ql2 codec crypto w randomBytes newSocket) :=
  (close w).bind fun _ => connect randomBytes newSocket

theorem noreplyWait : Moves (fun _ => True) (noreplyWait ql2 codec) :=
  checkOpen.bind fun _ => newToken.bind fun t =>
    runQuery _ fun _ => ⟨pending_new (.inr (.inl rfl)) t none none, trivial⟩

theorem server : Moves (fun _ => True) (server ql2 codec) :=
  checkOpen.bind fun _ => newToken.bind fun t =>
    runQuery _ fun _ => ⟨pending_new (.inr (.inr rfl)) t none none, trivial⟩

theorem start (term : Term) (kwargs : Options) :
    Moves (fun _ => True) (start ql2 codec term kwargs) :=
  checkOpen.bind fun _ => (of_protocol fun _ => rfl : Moves _ get).bind fun _ =>
    newToken.bind fun t => runQuery _ fun _ => ⟨pending_new (.inl rfl) t _ _, trivial⟩

theorem resume (c : Cursor) : Moves R (resume ql2 codec c) :=
  checkOpen.bind fun _ => sendQuery _ nofun

theorem stop (c : Cursor) : Moves R (stop ql2 codec c) :=
  checkOpen.bind fun _ => sendQuery _ nofun

theorem use (db : String) : Moves R (use db) := modify fun _ => rfl

end Moves

/-! ## Tokens within one session -/

/-- `t` is pending or has a cursor. -/
def InUse (p : RdbProtocol) (t : Token) : Prop :=
  (p.waitingRespose.get? t).isSome ∨ (p.cursorCache.get? t).isSome

/-- `t` was handed out by `g` since its last reset: it lies between the seed and the counter. -/
def Issued (g : TokenGenerator) (t : Token) : Prop :=
  (g.seed : Int) ≤ t.value ∧ t.value < g.counter

/-- Every token in use was handed out since the generator's last reset, so the token `new()`
    hands out next is neither pending nor cached. -/
structure Fresh (conn : Connection) : Prop where
  seed_le : conn.token.seed ≤ conn.token.counter
  issued : ∀ {t}, InUse conn.protocol t → Issued conn.token t

/-- A move puts a token in use only by registering it. -/
theorem Move.inUse {R : Token → Prop} {p p' : RdbProtocol} (hm : Move R p p') {t : Token}
    (h : InUse p' t) : InUse p t ∨ R t := by
  cases hm with
  | register hq hR =>
    simp only [InUse, PyDict.get?_set] at h
    split at h
    · subst t; exact .inr hR
    · exact .inl h
  | pop t' =>
    simp only [InUse, PyDict.get?_erase] at h
    split at h
    · exact .inl (.inr (h.resolve_left nofun))
    · exact .inl h
  | cache hwait =>
    simp only [InUse, PyDict.get?_set] at h
    split at h
    · subst t; exact .inl (.inl (by rw [hwait]; rfl))
    · exact .inl h
  | handshake | ctx => exact .inl h

theorem moves_inUse {R : Token → Prop} {p p' : RdbProtocol} (hm : ReflTransGen (Move R) p p')
    {t : Token} (h : InUse p' t) : InUse p t ∨ R t := by
  induction hm with
  | refl => exact .inl h
  | tail _ hm ih => exact (hm.inUse h).elim ih .inr

namespace Fresh

variable {conn after : Connection}

theorem initial (host : String) (port : Nat) (ssl : Bool) (user password : String)
    (db : Option String) (seed : Nat) :
    Fresh (Connection.initial host port ssl user password db seed) :=
  ⟨le_rfl, fun h => by simp [InUse, Connection.initial] at h⟩

/-- A call that keeps the generator and puts in use only tokens already handed out. -/
theorem of_inUse (hf : Fresh conn) (htok : after.token = conn.token)
    (h : ∀ {t}, InUse after.protocol t → InUse conn.protocol t ∨ Issued conn.token t) :
    Fresh after :=
  ⟨htok ▸ hf.seed_le, fun ht => htok ▸ (h ht).elim hf.issued id⟩

theorem of_moves (hf : Fresh conn)
    (hm : ReflTransGen (Move (Issued conn.token)) conn.protocol after.protocol)
    (htok : after.token = conn.token) : Fresh after :=
  hf.of_inUse htok (moves_inUse hm)

theorem of_agreesOff (hf : Fresh conn) (h : AgreesOff [] conn after) : Fresh after := by
  refine hf.of_inUse h.1 fun {t} ht => .inl ?_
  obtain ⟨hw, hc⟩ := h.2 t (List.not_mem_nil t)
  rwa [InUse, ← hw, ← hc]

/-- The collector's drop of a cursor puts no token in use. -/
theorem collect (hf : Fresh conn) (t : Token) :
    Fresh (resultState (Connection.collect t conn)) := by
  refine hf.of_inUse rfl fun {t'} ht => .inl ?_
  simp only [InUse, Connection.collect, modifyProtocol, resultState, setProtocol_protocol,
    PyDict.get?_erase] at ht
  split at ht
  · exact .inl (ht.resolve_right nofun)
  · exact ht

/-- `new()` keeps the invariant and hands out a token of its own. -/
theorem next (hf : Fresh conn) :
    Fresh { conn with token := conn.token.new.2 } ∧ Issued conn.token.new.2 conn.token.new.1 := by
  refine ⟨⟨Nat.le_succ_of_le hf.seed_le, fun h => ?_⟩, ?_⟩
  · obtain ⟨hlo, hhi⟩ := hf.issued h
    exact ⟨hlo, by simp only [TokenGenerator.new] at hhi ⊢; omega⟩
  · have := hf.seed_le
    simp only [Issued, TokenGenerator.new]
    omega

/-- The token `new()` hands out next is neither pending nor cached. -/
theorem next_free (hf : Fresh conn) :
    conn.protocol.waitingRespose.get? conn.token.new.1 = none ∧
      conn.protocol.cursorCache.get? conn.token.new.1 = none := by
  have hnot : ¬ InUse conn.protocol conn.token.new.1 := fun h => by
    have := (hf.issued h).2
    simp only [TokenGenerator.new] at this
    omega
  simpa [InUse, not_or, Option.isSome_iff_ne_none] using hnot

end Fresh

/-- A `run_query` of a query with a token handed out since the last reset keeps the invariant. -/
theorem runQuery_fresh {conn : Connection} (hf : Fresh conn) (hr : Registry conn.protocol)
    {q : Query} {noreply : Bool} (hq : noreply = false → Pending q.token q)
    (ht : Issued conn.token q.token) : Fresh (resultState (runQuery ql2 codec q noreply conn)) :=
  hf.of_moves (Moves.runQuery q (fun h => ⟨hq h, ht⟩) conn hr)
    ((runQuery_agreesOff q noreply conn).elim fun _ h => h.1)

/-- A method that starts with `__check_open`: on a closed connection it raises and changes
    nothing. -/
theorem Fresh.checkOpen_bind {conn : Connection} {α : Type} {m : Unit → ConnM α}
    (hf : Fresh conn) (h : conn.isOpen = true → Fresh (resultState (m () conn))) :
    Fresh (resultState ((checkOpen >>= m) conn)) := by
  cases hopen : conn.isOpen
  · simpa [bind, EStateM.bind, checkOpen, hopen, resultState] using hf
  · simpa only [bind, EStateM.bind, checkOpen_of_isOpen hopen] using h hopen

theorem noreplyWait_fresh {conn : Connection} (hf : Fresh conn) (hr : Registry conn.protocol) :
    Fresh (resultState (noreplyWait ql2 codec conn)) :=
  hf.checkOpen_bind fun _ =>
    runQuery_fresh hf.next.1 hr (fun _ => pending_new (.inr (.inl rfl)) _ none none) hf.next.2

theorem server_fresh {conn : Connection} (hf : Fresh conn) (hr : Registry conn.protocol) :
    Fresh (resultState (server ql2 codec conn)) :=
  hf.checkOpen_bind fun _ =>
    runQuery_fresh hf.next.1 hr (fun _ => pending_new (.inr (.inr rfl)) _ none none) hf.next.2

theorem start_fresh {conn : Connection} (hf : Fresh conn) (hr : Registry conn.protocol)
    (term : Term) (kwargs : Options) : Fresh (resultState (start ql2 codec term kwargs conn)) :=
  hf.checkOpen_bind fun _ =>
    runQuery_fresh hf.next.1 hr (fun _ => pending_new (.inl rfl) _ _ _) hf.next.2

theorem stop_client (c : Cursor) (conn : Connection) :
    ∃ client, resultState (stop ql2 codec c conn) = conn.setClient client := by
  cases h : conn.isOpen
  · exact ⟨conn.transport.client, by
      simp [stop, bind, EStateM.bind, checkOpen, h, resultState]; rfl⟩
  · simp only [stop, bind, EStateM.bind, checkOpen_of_isOpen h]
    exact sendQuery_noreply_client _ _

namespace TouchesOnly

variable {α : Type} {ts : List Token}

theorem onHandshake (m : EStateM PyExc HandshakeV1_0 α) : TouchesOnly ts (onHandshake m) := by
  intro conn
  unfold Connection.onHandshake
  split <;> exact ⟨rfl, fun _ _ => ⟨rfl, rfl⟩⟩

theorem sendRequest (request : Bytes) : TouchesOnly ts (sendRequest request) := by
  unfold Connection.sendRequest
  split
  · exact pure _
  · exact onClient _

theorem wrapAuthError {m : ConnM Unit} (h : TouchesOnly ts m) :
    TouchesOnly ts (wrapAuthError m) := by
  intro conn
  have hm := h conn
  unfold Connection.wrapAuthError
  split
  · rename_i he
    rw [he] at hm
    split <;> exact hm
  · exact hm

/-- Opening the socket, authenticating and `set_ctx` touch neither map nor the generator. -/
theorem connect (randomBytes : Bytes) (newSocket : NewSocket) :
    TouchesOnly ts (connect ql2 codec crypto randomBytes newSocket) := by
  refine (onClient _).bind fun _ => (wrapAuthError ?_).bind fun _ =>
    modifyProtocol_touchesOnly fun _ _ _ => ⟨rfl, rfl⟩
  unfold Connection.handshake
  exact (onHandshake _).bind fun _ => (sendRequest _).bind fun _ => (onClient _).bind fun _ =>
    (liftPy _).bind fun _ => (sendRequest _).bind fun _ => (onClient _).bind fun _ =>
    (onHandshake _).bind fun _ => (sendRequest _).bind fun _ => (onClient _).bind fun _ =>
    onHandshake _

end TouchesOnly

/-- A reconnect of a closed connection: the close does nothing, and opening the socket and
    authenticating touch neither map nor the generator. -/
theorem reconnect_fresh {conn : Connection} (hopen : conn.isOpen = false) (hf : Fresh conn)
    (w : Bool) (r : Bytes) (s : NewSocket) :
    Fresh (resultState (reconnect ql2 codec crypto w r s conn)) := by
  simp only [reconnect, bind, EStateM.bind, close_closed hopen]
  exact hf.of_agreesOff (TouchesOnly.connect r s conn)

end Connection

namespace Op

open Connection Relation

variable {ql2 : Ql2} {codec : JsonCodec} {crypto : Crypto}

/-- Every call of a run but the collector's changes the protocol object by moves only. -/
theorem call_moves : ∀ op : Op, (∀ t, op ≠ collect t) →
    Moves (fun _ => True) (op.call ql2 codec crypto)
  | reconnect w r s, _ => Moves.reconnect w r s
  | close w, _ => Moves.close w
  | noreplyWait, _ => Moves.noreplyWait
  | server, _ => Moves.server
  | start t k, _ => Moves.start t k
  | resume c, _ => Moves.resume c
  | stop c, _ => Moves.stop c
  | use db, _ => Moves.use db
  | collect t, h => absurd rfl (h t)

theorem call_registry (op : Op) {conn : Connection} (hr : Registry conn.protocol) :
    Registry (resultState (op.call ql2 codec crypto conn)).protocol := by
  by_cases hcol : ∃ t, op = collect t
  · obtain ⟨t, rfl⟩ := hcol
    exact hr.collect t
  · exact hr.moves (call_moves op (fun t h => hcol ⟨t, h⟩) conn hr)

/-- A call other than the collector's drop of `t` keeps the cursor cached under `t`. -/
theorem call_keeps_cached {op : Op} {t : Token} (hop : op ≠ collect t) {conn : Connection}
    (hr : Registry conn.protocol) {c : Cursor} (hc : conn.protocol.cursorCache.get? t = some c) :
    (resultState (op.call ql2 codec crypto conn)).protocol.cursorCache.get? t = some c := by
  by_cases hcol : ∃ t', op = collect t'
  · obtain ⟨t', rfl⟩ := hcol
    show (conn.protocol.cursorCache.erase t').get? t = some c
    rw [PyDict.get?_erase, if_neg fun h : t = t' => hop (h ▸ rfl), hc]
  · exact moves_keeps_cached (call_moves op (fun t' h => hcol ⟨t', h⟩) conn hr) hc

/-- Every call but a close or a reconnect keeps every token in use below the generator's
    counter. -/
theorem call_fresh : ∀ op : Op, (∀ w, op ≠ close w) →
    (∀ w r s, op ≠ reconnect w r s) →
    ∀ {conn : Connection}, Registry conn.protocol → Fresh conn →
      Fresh (resultState (op.call ql2 codec crypto conn))
  | reconnect w r s, _, h, _, _, _ => absurd rfl (h w r s)
  | close w, h, _, _, _, _ => absurd rfl (h w)
  | noreplyWait, _, _, _, hr, hf => noreplyWait_fresh hf hr
  | server, _, _, _, hr, hf => server_fresh hf hr
  | start t k, _, _, _, hr, hf => start_fresh hf hr t k
  | resume c, _, _, conn, _, hf => by
    obtain ⟨_, h⟩ := @resume_client ql2 codec c conn
    exact h ▸ hf.of_agreesOff (.of_eq rfl rfl)
  | stop c, _, _, conn, _, hf => by
    obtain ⟨_, h⟩ := @stop_client ql2 codec c conn
    exact h ▸ hf.of_agreesOff (.of_eq rfl rfl)
  | use _, _, _, _, _, hf => hf.of_agreesOff (.of_eq rfl rfl)
  | collect t, _, _, _, _, hf => hf.collect t

end Op

section Runs

open Connection

variable {ql2 : Ql2} {codec : JsonCodec} {crypto : Crypto}

theorem runOps_cons (op : Op) (ops : List Op) (conn : Connection) :
    runOps ql2 codec crypto (op :: ops) conn =
      runOps ql2 codec crypto ops (resultState (op.call ql2 codec crypto conn)) := by
  simp only [runOps]
  split <;> rename_i h <;> rw [h] <;> rfl

theorem runOps_append (ops₁ ops₂ : List Op) (conn : Connection) :
    runOps ql2 codec crypto (ops₁ ++ ops₂) conn =
      runOps ql2 codec crypto ops₂ (runOps ql2 codec crypto ops₁ conn) := by
  induction ops₁ generalizing conn with
  | nil => rfl
  | cons op ops ih => simp only [List.cons_append, runOps_cons, ih]

theorem runOps_registry_of (ops : List Op) {conn : Connection} (hr : Registry conn.protocol) :
    Registry (runOps ql2 codec crypto ops conn).protocol := by
  induction ops generalizing conn with
  | nil => exact hr
  | cons op ops ih => rw [runOps_cons]; exact ih (op.call_registry hr)

theorem runOps_keeps_cached {ops : List Op} {t : Token} (hgc : ∀ op ∈ ops, op ≠ .collect t)
    {conn : Connection} (hr : Registry conn.protocol) {c : Cursor}
    (hc : conn.protocol.cursorCache.get? t = some c) :
    (runOps ql2 codec crypto ops conn).protocol.cursorCache.get? t = some c := by
  induction ops generalizing conn with
  | nil => exact hc
  | cons op ops ih =>
    rw [runOps_cons]
    exact ih (fun op' h => hgc op' (.tail _ h)) (op.call_registry hr)
      (Op.call_keeps_cached (hgc op (.head _)) hr hc)

theorem runOps_fresh_of {ops : List Op}
    (hops : ∀ op ∈ ops, (∀ w, op ≠ .close w) ∧ ∀ w r s, op ≠ .reconnect w r s)
    {conn : Connection} (hr : Registry conn.protocol) (hf : Fresh conn) :
    Fresh (runOps ql2 codec crypto ops conn) := by
  induction ops generalizing conn with
  | nil => exact hf
  | cons op ops ih =>
    rw [runOps_cons]
    obtain ⟨hc, hrc⟩ := hops op (.head _)
    exact ih (fun op' h => hops op' (.tail _ h)) (op.call_registry hr)
      (op.call_fresh hc hrc hr hf)

/-- A session: a first reconnect from `new_connection`, then calls that neither close nor
    reconnect. -/
theorem runOps_session_fresh (host : String) (port : Nat) (ssl : Bool) (user password : String)
    (db : Option String) (seed : Nat) (w : Bool) (r : Bytes) (s : NewSocket) {ops : List Op}
    (hops : ∀ op ∈ ops, (∀ w', op ≠ .close w') ∧ ∀ w' r' s', op ≠ .reconnect w' r' s') :
    Fresh (runOps ql2 codec crypto (.reconnect w r s :: ops)
      (Connection.initial host port ssl user password db seed)) := by
  rw [runOps_cons]
  exact runOps_fresh_of hops ((Op.reconnect w r s).call_registry
    (Registry.initial host port ssl user password db seed))
    (reconnect_fresh (by rfl) (Fresh.initial host port ssl user password db seed) w r s)

/-- In every state of every run of a connection from `new_connection`, whatever the server
    sends, the token maps keep the registry: every pending entry is a START, NOREPLY_WAIT or
    SERVER_INFO query under its own token, with options, and every cached cursor was built for
    such a query and has `outstanding_requests` and `error` unassigned. -/
theorem runOps_registry (host : String) (port : Nat) (ssl : Bool) (user password : String)
    (db : Option String) (seed : Nat) (ops : List Op) :
    Registry (runOps ql2 codec crypto ops
      (Connection.initial host port ssl user password db seed)).protocol :=
  runOps_registry_of ops (Registry.initial host port ssl user password db seed)

/-- Once a run from `new_connection` has cached a cursor under `t`, every continuation of the
    run that does not collect it leaves that same cursor cached under `t`: no later frame, reply
    or call extends, replaces or drops it. -/
theorem runOps_cursor_stays (host : String) (port : Nat) (ssl : Bool) (user password : String)
    (db : Option String) (seed : Nat) (ops₁ ops₂ : List Op) {t : Token} {c : Cursor}
    (hc : (runOps ql2 codec crypto ops₁
      (Connection.initial host port ssl user password db seed)).protocol.cursorCache.get? t =
        some c)
    (hgc : ∀ op ∈ ops₂, op ≠ .collect t) :
    (runOps ql2 codec crypto (ops₁ ++ ops₂)
      (Connection.initial host port ssl user password db seed)).protocol.cursorCache.get? t =
        some c := by
  rw [runOps_append]
  exact runOps_keeps_cached hgc
    (runOps_registry_of ops₁ (Registry.initial host port ssl user password db seed)) hc

set_option maxRecDepth 2000 in
/-- The server completes the SCRAM exchange, so `set_ctx` runs, and answers the START that
    follows with `SUCCESS_SEQUENCE [1]`, which caches a cursor under token `0`. The next frame
    also bears token `0`, a `SUCCESS_SEQUENCE [2]`: the `run_query` of a SERVER_INFO reads it,
    and the cursor stays as it was. -/
theorem runOps_cursor_stays_after_reply :
    let doc₁ : PyValue := .dict [(.str "success", .bool true),
      (.str "min_protocol_version", .int 0), (.str "max_protocol_version", .int 0)]
    let handshakeDocs := [doc₁, HandshakeV1_0.standInServerFirst,
      HandshakeV1_0.standInServerFinal]
    let term : Term := ⟨.list [.int 15, .list [.str "users"]], false⟩
    let first : PyValue := .dict [(.str "t", .int 2), (.str "r", .list [.int 1])]
    let next : PyValue := .dict [(.str "t", .int 2), (.str "r", .list [.int 2])]
    let frame := fun doc => toListLE 8 0 ++ toListLE 4 (jsonBytes doc).length ++ jsonBytes doc
    let ops₁ := [Op.reconnect false [0, 0, 0]
      (.opened ⟨(serverSends handshakeDocs).inbound ++ frame first ++ frame next, [], [], []⟩),
      .start term .empty]
    let codec := JsonCodec.over (handshakeDocs ++ [first, next])
    ∃ c, (runOps Ql2.proto codec Crypto.standIn ops₁
        (Connection.initial "localhost" 28015 false "admin" "" none 0)).protocol.cursorCache.get?
          ⟨0⟩ = some c ∧
      (runOps Ql2.proto codec Crypto.standIn (ops₁ ++ [.server])
        (Connection.initial "localhost" 28015 false "admin" "" none 0)).protocol.cursorCache.get?
          ⟨0⟩ = some c := by
  intro doc₁ handshakeDocs term first next frame ops₁ codec
  set conn := Connection.initial "localhost" 28015 false "admin" "" none 0 with hconn
  obtain ⟨out, h, hrun⟩ : ∃ out h, HandshakeV1_0.run Ql2.proto codec Crypto.standIn [0, 0, 0]
      (jsonBytes doc₁) (jsonBytes HandshakeV1_0.standInServerFirst)
      (jsonBytes HandshakeV1_0.standInServerFinal) (HandshakeV1_0.new "admin" "") = .ok out h :=
    ⟨_, _, rfl⟩
  have hconnect : connect Ql2.proto codec Crypto.standIn [0, 0, 0]
      (.opened ⟨(serverSends handshakeDocs).inbound ++ frame first ++ frame next, [], [], []⟩)
      conn = .ok () _ :=
    connect_eq_ok_of_run rfl rfl (by decide) (by decide) (by decide)
      (by simp [serverSends, handshakeDocs]; rfl) hrun
  have hclose := EStateM.bind_of_eq_ok (f := fun _ => connect Ql2.proto codec Crypto.standIn
      [0, 0, 0] (.opened ⟨(serverSends handshakeDocs).inbound ++ frame first ++ frame next, [], [],
        []⟩)) (@close_closed Ql2.proto codec conn rfl false)
  have hq : (Query.new .START ⟨0⟩ (some term) (some .empty)).serialize Ql2.proto codec = .ok _ :=
    rfl
  obtain ⟨r, c, hres, hsq, hnew⟩ : ∃ r c,
      Response.new ⟨0⟩ (jsonBytes first) (codec.decode .empty) = .ok r ∧
      r.isSequential Ql2.proto = .ok true ∧
      Cursor.new Ql2.proto (Query.new .START ⟨0⟩ (some term) (some .empty)) r = .ok c :=
    ⟨_, _, rfl, rfl, rfl⟩
  have hopts : startOptions Ql2.proto conn.db term .empty = .empty := rfl
  have hno : (((PyDict.empty : Options).get? "noreply").getD (.bool false)).truthy = false := rfl
  -- the reconnect completes the handshake; the START's first reply is then a sequence
  have hc : (runOps Ql2.proto codec Crypto.standIn ops₁ conn).protocol.cursorCache.get? ⟨0⟩ =
      some c := by
    rw [runOps_cons, Op.call, reconnect, hclose]
    beta_reduce
    rw [hconnect, runOps_cons, runOps, resultState, Op.call, start_of_isOpen]
    · dsimp only [setProtocol, setClient]
      rw [hopts, hno, show conn.token.new = (⟨0⟩, ⟨0, 1⟩) from rfl,
        runQuery_first_sequence ?_ ?_ ?_ hq ?_ ?_ ?_ ?_ ?_ ?_ ?_ hres hsq ?_ hnew]
      · simp [resultState]
      all_goals try rfl
      all_goals decide
    · rfl
  rw [hconn] at hc ⊢
  exact ⟨c, hc, runOps_cursor_stays "localhost" 28015 false "admin" "" none 0 _ [.server] hc
    (by simp)⟩

/-- In every state of every run from `new_connection`, `read_response` completes without
    raising only for a frame whose token is pending and has no cursor, and whose body decodes,
    with the pending query's options, into a response that is not a sequence and whose
    `get_data` succeeds; it has then only popped the entry. No reply to a cursor and no first
    batch of a stream ever comes back without an exception. -/
theorem runOps_dispatch_eq_ok (host : String) (port : Nat) (ssl : Bool) (user password : String)
    (db : Option String) (seed : Nat) (ops : List Op) {token : Token} {body : Bytes}
    {after : Connection}
    (h : dispatch ql2 codec token body (runOps ql2 codec crypto ops
      (Connection.initial host port ssl user password db seed)) = .ok () after) :
    let conn := runOps ql2 codec crypto ops (Connection.initial host port ssl user password db seed)
    ∃ q r v, conn.protocol.waitingRespose.get? token = some q ∧
      conn.protocol.cursorCache.get? token = none ∧
      Response.new token body (codec.decode (q.kwargs.getD .empty)) = .ok r ∧
      r.isSequential ql2 = .ok false ∧ r.getData ql2 = .ok v ∧
      after = conn.setProtocol
        { conn.protocol with waitingRespose := conn.protocol.waitingRespose.erase token } :=
  dispatch_eq_ok (runOps_registry_of ops (Registry.initial host port ssl user password db seed)) h

set_option maxRecDepth 2000 in
/-- The handshake's first read times out, and the `run_query` of a SERVER_INFO finds no frame:
    the query stays pending under token `0`, and its `SERVER_INFO` reply, when read, returns. -/
theorem runOps_dispatch_eq_ok_server_info :
    let info : PyValue := .dict [(.str "t", .int 5), (.str "r", .list [.str "rethinkdb"])]
    let conn := runOps Ql2.proto (JsonCodec.over [info]) Crypto.standIn
      [.reconnect false [0, 0, 0] (.opened ⟨[], [.timeout], [], []⟩), .server]
      (Connection.initial "localhost" 28015 false "admin" "" none 0)
    ∃ after, dispatch Ql2.proto (JsonCodec.over [info]) ⟨0⟩ (jsonBytes info) conn = .ok () after ∧
      ∃ q r v, conn.protocol.waitingRespose.get? ⟨0⟩ = some q ∧
        conn.protocol.cursorCache.get? ⟨0⟩ = none ∧
        Response.new ⟨0⟩ (jsonBytes info) ((JsonCodec.over [info]).decode (q.kwargs.getD .empty)) =
          .ok r ∧
        r.isSequential Ql2.proto = .ok false ∧ r.getData Ql2.proto = .ok v ∧
        after = conn.setProtocol
          { conn.protocol with waitingRespose := conn.protocol.waitingRespose.erase ⟨0⟩ } :=
  ⟨_, rfl, runOps_dispatch_eq_ok "localhost" 28015 false "admin" "" none 0 _ rfl⟩

/-- In every state of a session, from the first `connect` of a connection made by
    `new_connection` up to its next close or reconnect, whatever the server sends and whatever
    each call returns or raises, the token `new()` hands out next is neither pending nor cached:
    the next query is registered under a token of its own, and overwrites no pending request. -/
theorem runOps_next_token_free (host : String) (port : Nat) (ssl : Bool) (user password : String)
    (db : Option String) (seed : Nat) (w : Bool) (r : Bytes) (s : NewSocket) (ops : List Op)
    (hops : ∀ op ∈ ops, (∀ w', op ≠ .close w') ∧ ∀ w' r' s', op ≠ .reconnect w' r' s') :
    let conn := runOps ql2 codec crypto (.reconnect w r s :: ops)
      (Connection.initial host port ssl user password db seed)
    conn.protocol.waitingRespose.get? conn.token.new.1 = none ∧
      conn.protocol.cursorCache.get? conn.token.new.1 = none :=
  (runOps_session_fresh host port ssl user password db seed w r s hops).next_free

set_option maxRecDepth 2000 in
/-- The SERVER_INFO finds no frame and stays pending under token `0`; the next token, `1`, is
    free. -/
theorem runOps_next_token_free_after_server :
    let conn := runOps Ql2.proto (JsonCodec.over []) Crypto.standIn
      [.reconnect false [0, 0, 0] (.opened ⟨[], [.timeout], [], []⟩), .server]
      (Connection.initial "localhost" 28015 false "admin" "" none 0)
    (conn.protocol.waitingRespose.get? ⟨0⟩).isSome ∧
      conn.protocol.waitingRespose.get? conn.token.new.1 = none ∧
      conn.protocol.cursorCache.get? conn.token.new.1 = none :=
  ⟨rfl, runOps_next_token_free "localhost" 28015 false "admin" "" none 0 false [0, 0, 0]
    (.opened ⟨[], [.timeout], [], []⟩) [.server] (by simp)⟩

end Runs

end RethinkDriver

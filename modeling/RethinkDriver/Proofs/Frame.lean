import RethinkDriver.Protocol
import RethinkDriver.Reference

/-!
# Request frames against the response reader

`Query.serialize` (`core/net/msg.py:50-62`) writes a `'<QL'` header and `query_bytes`;
`read_response` (`core/net/protocol.py:82-89`) reads a `'<qL'` header and then exactly
`length` bytes. Over a socket whose kernel hands `recv` everything asked for, the reader
fed the frames of any queries returns, frame by frame, the token as `'<q'` reads it and
the frame's `query_bytes`, and leaves the stream just past that frame (`readFrames_serialize`).

The token read back is the packed one only below `2 ^ 63`, and `query_bytes` carries
the options of every query `Query.__init__` built, `kwargs=None` included.
-/

namespace RethinkDriver

namespace DefaultClient

theorem recvLoop_ready (host : String) (port n : Nat) (inbound : Bytes)
    (h : n ≤ inbound.length) :
    recvLoop host port n [] inbound [] none = ⟨.ok (inbound.take n), inbound.drop n, [], false⟩ := by
  by_cases hn : n = 0
  · subst hn; simp [recvLoop]
  · simp [recvLoop, hn, h]

/-- `recvall` on a socket that delivers whatever it is asked for. -/
theorem recvall_ready {c : DefaultClient} {s : Socket} (hs : c.socket = some s)
    (hp : s.recvPlan = []) {n : Nat} (h : n ≤ s.inbound.length) :
    c.recvall n =
      (.ok (s.inbound.take n), { c with socket := some { s with inbound := s.inbound.drop n } }) := by
  cases s
  subst hp
  simp only [recvall, hs, recvLoop_ready _ _ _ _ h]
  rfl

/-- The `readuntil` loop on a socket that delivers whatever it is asked for, with more rounds
    than the line has bytes: the line, and the socket just past its separator. -/
theorem readuntilLoop_ready (separator : UInt8) {rest : Bytes} :
    ∀ (pre response : Bytes) (fuel : Nat) (c : DefaultClient) (s : Socket), c.socket = some s →
      s.recvPlan = [] → separator ∉ pre → pre.length < fuel →
      s.inbound = pre ++ separator :: rest →
      readuntilLoop separator fuel response c =
        (.ok (response ++ pre), { c with socket := some { s with inbound := rest } })
  | _, _, 0, _, _, _, _, _, hfuel, _ => absurd hfuel (Nat.not_lt_zero _)
  | [], response, fuel + 1, c, s, hs, hp, _, _, hin => by
    simp [readuntilLoop, @recvall_ready c s hs hp 1 (by simp [hin]), hin]
  | b :: pre, response, fuel + 1, c, s, hs, hp, hpre, hfuel, hin => by
    have hb : b ≠ separator := fun h => hpre (h ▸ List.mem_cons_self b pre)
    rw [readuntilLoop, @recvall_ready c s hs hp 1 (by simp [hin])]
    simp only [hin, List.cons_append, List.take_succ_cons, List.take_zero, List.drop_succ_cons,
      List.drop_zero, List.cons.injEq, hb, false_and, if_false]
    rw [readuntilLoop_ready separator pre _ fuel _ { s with inbound := pre ++ separator :: rest }
      rfl hp (fun h => hpre (.tail _ h)) (by simpa using hfuel) rfl]
    simp

/-- `readuntil` on a socket that delivers whatever it is asked for: the bytes before the next
    separator, and the socket just past it. -/
theorem readuntil_ready {c : DefaultClient} {s : Socket} (hs : c.socket = some s)
    (hp : s.recvPlan = []) {separator : UInt8} {pre rest : Bytes} (hpre : separator ∉ pre)
    (hin : s.inbound = pre ++ separator :: rest) :
    c.readuntil separator = (.ok pre, { c with socket := some { s with inbound := rest } }) := by
  rw [readuntil, readuntilLoop_ready separator pre [] _ c s hs hp hpre (by simp [hs, hin]; omega)
    hin, List.nil_append]

/-- `sendall` on a socket that accepts whatever it is given. -/
theorem sendall_ready {c : DefaultClient} {s : Socket} (hs : c.socket = some s)
    (hp : s.sendPlan = []) {data : Bytes} (hd : data ≠ []) :
    c.sendall data = (.ok (), { c with socket := some { s with sent := s.sent ++ data } }) := by
  cases s
  subst hp
  have hpos : 0 < data.length := List.length_pos.mpr hd
  simp only [sendall, hs, sendLoop, hpos, if_true, List.drop_zero]

end DefaultClient

namespace Query

variable {ql2 : Ql2} {codec : JsonCodec}

theorem serialize_eq_ok {q : Query} {frame : Bytes} (h : q.serialize ql2 codec = .ok frame) :
    ∃ header body, q.queryBytes ql2 codec = .ok body ∧
      packQL q.token.value body.length = .ok header ∧ frame = header ++ body := by
  simp only [serialize, bind, Except.bind, pure, Except.pure] at h
  split at h
  · cases h
  · rename_i body hbody
    split at h
    · cases h
    · rename_i header hheader
      exact ⟨header, body, hbody, hheader, (Except.ok.inj h).symm⟩

end Query

namespace Connection

variable (ql2 : Ql2) (codec : JsonCodec)

/-- The connection whose socket `s` has `bytes` left to deliver. -/
def withInbound (conn : Connection) (s : Socket) (bytes : Bytes) : Connection :=
  conn.setClient { conn.transport.client with socket := some { s with inbound := bytes } }

/-- The connection whose socket `s` has sent `bytes`. -/
def withSent (conn : Connection) (s : Socket) (bytes : Bytes) : Connection :=
  conn.setClient { conn.transport.client with socket := some { s with sent := bytes } }

/-- The reader run `n` times, as `n` calls of `run_query` run it. -/
def readFrames : Nat → ConnM (List (Int × Bytes))
  | 0 => pure []
  | n + 1 => do
    let f ← readFrame
    let fs ← readFrames n
    pure (f :: fs)

variable {ql2 codec}

@[simp] theorem withInbound_withInbound (conn : Connection) (s : Socket) (a b : Bytes) :
    (conn.withInbound s a).withInbound s b = conn.withInbound s b := rfl

@[simp] theorem withInbound_socket (conn : Connection) (s : Socket) (a : Bytes) :
    (conn.withInbound s a).transport.client.socket = some { s with inbound := a } := rfl

@[simp] theorem withSent_socket (conn : Connection) (s : Socket) (a : Bytes) :
    (conn.withSent s a).transport.client.socket = some { s with sent := a } := rfl

@[simp] theorem withSent_withSent (conn : Connection) (s : Socket) (a b : Bytes) :
    (conn.withSent s a).withSent s b = conn.withSent s b := rfl

theorem withSent_self {conn : Connection} {s : Socket}
    (hs : conn.transport.client.socket = some s) : conn.withSent s s.sent = conn := by
  obtain ⟨db, ⟨⟨host, port, ssl, socket⟩, closing, p⟩, token⟩ := conn
  cases hs
  rfl

theorem checkOpen_of_isOpen {conn : Connection} (h : conn.isOpen = true) :
    checkOpen conn = .ok () conn := by
  simp [checkOpen, h]

/-- A frame is never empty: it has its 12-byte header. -/
theorem serialize_ne_nil {q : Query} {frame : Bytes} (hq : q.serialize ql2 codec = .ok frame) :
    frame ≠ [] := by
  obtain ⟨header, body, -, hheader, rfl⟩ := Query.serialize_eq_ok hq
  have := (unpackqL_packQL hheader).2
  intro h
  simp_all

theorem sendall_withSent (conn : Connection) (s : Socket) (hp : s.sendPlan = [])
    {data : Bytes} (hd : data ≠ []) (sent : Bytes) :
    onClient (·.sendall data) (conn.withSent s sent) = .ok () (conn.withSent s (sent ++ data)) := by
  simp only [onClient, DefaultClient.sendall_ready (withSent_socket conn s sent) hp hd]
  rfl

theorem buildQuery_noreply {q : Query} {frame : Bytes} (hq : q.serialize ql2 codec = .ok frame)
    (conn : Connection) : buildQuery ql2 codec q true conn = .ok frame conn := by
  simp [buildQuery, hq, bind, EStateM.bind, liftPy, pure, EStateM.pure]

/-- A query sent noreply is written, and registered nowhere. -/
theorem sendQuery_noreply {q : Query} {frame : Bytes} (hq : q.serialize ql2 codec = .ok frame)
    (conn : Connection) (s : Socket) (hp : s.sendPlan = []) (sent : Bytes) :
    sendQuery ql2 codec q true (conn.withSent s sent) = .ok () (conn.withSent s (sent ++ frame)) := by
  simp only [sendQuery, bind, EStateM.bind, buildQuery_noreply hq,
    sendall_withSent conn s hp (serialize_ne_nil hq)]

theorem recvall_withInbound (conn : Connection) (s : Socket) (hp : s.recvPlan = [])
    {bytes : Bytes} {n : Nat} (h : n ≤ bytes.length) :
    onClient (·.recvall n) (conn.withInbound s bytes) =
      .ok (bytes.take n) (conn.withInbound s (bytes.drop n)) := by
  simp only [onClient, DefaultClient.recvall_ready (withInbound_socket conn s bytes) hp h]
  rfl

/-- One read consumes the frame of `q` and nothing after it. -/
theorem readFrame_serialize {q : Query} {frame body : Bytes}
    (hq : q.serialize ql2 codec = .ok frame) (hbody : q.queryBytes ql2 codec = .ok body)
    (conn : Connection) (s : Socket) (hp : s.recvPlan = []) (rest : Bytes) :
    readFrame (conn.withInbound s (frame ++ rest)) =
      .ok (signed64 q.token.value.toNat, body) (conn.withInbound s rest) := by
  obtain ⟨header, body', hbody', hheader, rfl⟩ := Query.serialize_eq_ok hq
  obtain rfl : body = body' := Except.ok.inj (hbody.symm.trans hbody')
  obtain ⟨hunpack, hlen⟩ := unpackqL_packQL hheader
  have h12 : (header ++ body ++ rest).take 12 = header := by
    rw [List.append_assoc, List.take_left' hlen]
  have hrest : (header ++ body ++ rest).drop 12 = body ++ rest := by
    rw [List.append_assoc, List.drop_left' hlen]
  simp only [readFrame, bind, EStateM.bind, liftPy, pure, EStateM.pure,
    recvall_withInbound conn s hp (show 12 ≤ (header ++ body ++ rest).length by simp; omega),
    h12, hrest, hunpack, recvall_withInbound conn s hp (show body.length ≤ (body ++ rest).length by simp),
    List.take_left, List.drop_left, withInbound_withInbound]

/-- Fed the frames of `qs`, the reader returns each frame's token as `'<q'` reads it and its
    `query_bytes`, in order, and leaves the stream just past the last frame. -/
theorem readFrames_serialize (qs : List Query) (frames : List Bytes)
    (hframes : qs.mapM (Query.serialize ql2 codec) = .ok frames) (conn : Connection) (s : Socket)
    (hp : s.recvPlan = []) (rest : Bytes) :
    ∃ bodies, qs.mapM (Query.queryBytes ql2 codec) = .ok bodies ∧
      readFrames qs.length (conn.withInbound s (frames.flatten ++ rest)) =
        .ok ((qs.map fun q => signed64 q.token.value.toNat).zip bodies) (conn.withInbound s rest) := by
  induction qs generalizing frames conn with
  | nil =>
    cases hframes
    exact ⟨[], rfl, rfl⟩
  | cons q qs ih =>
    simp only [List.mapM_cons, bind, Except.bind, pure, Except.pure] at hframes
    split at hframes
    · cases hframes
    · rename_i frame hq
      split at hframes
      · cases hframes
      · rename_i frames' hqs
        cases hframes
        obtain ⟨header, body, hbody, -, -⟩ := Query.serialize_eq_ok hq
        obtain ⟨bodies, hbodies, hread⟩ := ih frames' hqs conn
        refine ⟨body :: bodies, by rw [List.mapM_cons, hbody, hbodies]; rfl, ?_⟩
        rw [List.length_cons, List.flatten, List.append_assoc]
        simp only [readFrames, bind, EStateM.bind, readFrame_serialize hq hbody conn s hp,
          withInbound_withInbound, hread]
        rfl

/-- A CONTINUE for token `2 ^ 63`, built as `Connection.resume` builds it: the reader gets the
    token back as `-2 ^ 63`, and a body that carries an options object. -/
theorem readFrame_continue_high_token (conn : Connection) :
    ∃ frame, (Query.new .CONTINUE ⟨2 ^ 63⟩ none none).serialize Ql2.proto (JsonCodec.over []) =
        .ok frame ∧
      readFrame (conn.withInbound ⟨[], [], [], []⟩ frame) =
        .ok (-2 ^ 63, utf8Encode "[2,\x7b\x7d]") (conn.withInbound ⟨[], [], [], []⟩ []) := by
  have hq : (Query.new .CONTINUE ⟨2 ^ 63⟩ none none).serialize Ql2.proto (JsonCodec.over []) =
      .ok (toListLE 8 (2 ^ 63) ++ toListLE 4 6 ++ utf8Encode "[2,\x7b\x7d]") := rfl
  have h := readFrame_serialize hq rfl conn ⟨[], [], [], []⟩ rfl []
  rw [List.append_nil] at h
  exact ⟨_, hq, h.trans rfl⟩

@[simp] theorem withInbound_protocol (conn : Connection) (s : Socket) (bytes : Bytes) :
    (conn.withInbound s bytes).protocol = conn.protocol := rfl

theorem withInbound_self {conn : Connection} {s : Socket}
    (hs : conn.transport.client.socket = some s) : conn.withInbound s s.inbound = conn := by
  obtain ⟨db, ⟨⟨host, port, ssl, socket⟩, closing, p⟩, token⟩ := conn
  cases hs
  rfl

/-- Reading a reply frame for a token below `2 ^ 63`: the header, then exactly the body. -/
theorem readFrame_reply {conn : Connection} {s : Socket}
    (hs : conn.transport.client.socket = some s) (hp : s.recvPlan = []) {t : Nat}
    (ht : t < 2 ^ 63) {body rest : Bytes} (hlen : body.length < 2 ^ 32)
    (hin : s.inbound = toListLE 8 t ++ toListLE 4 body.length ++ body ++ rest) :
    readFrame conn = .ok ((t : Int), body) (conn.withInbound s rest) := by
  generalize hheader : toListLE 8 t ++ toListLE 4 body.length = header at hin
  have hpack : packQL t body.length = .ok header := by
    rw [packQL, if_pos (by omega), Int.toNat_ofNat, hheader]
  obtain ⟨hunpack, hlen12⟩ := unpackqL_packQL hpack
  rw [Int.toNat_ofNat, signed64, if_pos ht] at hunpack
  rw [← withInbound_self hs, hin]
  simp only [readFrame, bind, EStateM.bind, liftPy, pure, EStateM.pure, List.append_assoc,
    recvall_withInbound _ s hp (show 12 ≤ (header ++ (body ++ rest)).length by
      rw [List.length_append, hlen12]; omega), List.take_left' hlen12, List.drop_left' hlen12,
    hunpack, recvall_withInbound _ s hp (show body.length ≤ (body ++ rest).length by simp),
    List.take_left, List.drop_left, withInbound_withInbound]

/-- A query awaiting its reply, on a socket whose kernel takes every byte: registered under its
    token, then written whole. -/
theorem sendQuery_reply {conn : Connection} {s : Socket}
    (hs : conn.transport.client.socket = some s) (hp : s.sendPlan = []) {q : Query}
    {frame : Bytes} (hq : q.serialize ql2 codec = .ok frame) :
    sendQuery ql2 codec q false conn = .ok ()
      ((conn.withSent s (s.sent ++ frame)).setProtocol
        { conn.protocol with waitingRespose := conn.protocol.waitingRespose.set q.token q }) := by
  simp [sendQuery, buildQuery, hq, bind, EStateM.bind, liftPy, pure, EStateM.pure, modifyProtocol,
    onClient, DefaultClient.sendall_ready hs hp (serialize_ne_nil hq)]
  rfl

/-- `run_query` of a query awaiting its reply, on a socket whose kernel takes and delivers
    every byte, when the next frame bears the token `t`: it writes the query's frame, registers
    the query, reads exactly that frame, and hands it to `read_response`'s second phase. -/
theorem runQuery_reply {conn : Connection} {s : Socket}
    (hs : conn.transport.client.socket = some s) (hsend : s.sendPlan = [])
    (hrecv : s.recvPlan = []) {q : Query} {frame : Bytes} (hq : q.serialize ql2 codec = .ok frame)
    {t : Nat} (ht : t < 2 ^ 63) {body rest : Bytes} (hlen : body.length < 2 ^ 32)
    (hin : s.inbound = toListLE 8 t ++ toListLE 4 body.length ++ body ++ rest) :
    runQuery ql2 codec q false conn = dispatch ql2 codec ⟨t⟩ body
      (((conn.withSent s (s.sent ++ frame)).setProtocol
        { conn.protocol with waitingRespose := conn.protocol.waitingRespose.set q.token q }).withInbound
        { s with sent := s.sent ++ frame } rest) := by
  simp only [runQuery, bind, EStateM.bind, sendQuery_reply hs hsend hq, Bool.false_eq_true,
    if_false, pure, EStateM.pure]
  rw [readFrame_reply (s := { s with sent := s.sent ++ frame }) rfl hrecv ht hlen hin]

end Connection

end RethinkDriver

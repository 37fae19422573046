import RethinkDriver.Client

/-!
# What the socket loops read and write

`recvall` (`_client.py:190-207`) and `sendall` (`_client.py:209-217`) loop over `recv` and
`send` calls, each of which the kernel may cut short or interrupt. For every plan of kernel
answers:

* `sendall` hands the socket `data` in order, each byte once: it returns having handed over
  all of it, or raises a driver error having handed over a prefix (`sendLoop_hands_rest`);
* `recvall`, on a plan with no `EINTR`, returns exactly the next `length` bytes of the
  stream and leaves the rest, or raises a driver error (`recvall_reads_exactly`);
* `readuntil` returns the bytes before the next separator and consumes the separator and
  nothing after it, whatever the plan (`readuntil_returns_line`).

`except_recv_err` swallows `EINTR`, after which the loop body would go on with the chunk of
the previous iteration, or with none. Since PEP 475 `recv` retries an interrupted call itself
and never raises `EINTR`, so on the plans Python produces, both `recvall` and `readuntil` read
the stream exactly, or raise a driver error (`recv_reads_stream_in_order`).
-/

namespace RethinkDriver

namespace DefaultClient

/-! ## `recvall` -/

/-- What a run of the `recvall` loop may return: `length` bytes which, followed by the
    stream it leaves, are the bytes `res` read before the run followed by the stream
    `inbound` it started on; and the socket stays open. -/
def RecvEnd.Returns (length : Nat) (res inbound : Bytes) (r : RecvEnd) : Prop :=
  ∀ bytes, r.result = .ok bytes →
    bytes ++ r.inbound = res ++ inbound ∧ bytes.length = length ∧ r.closed = false

/-- Every exception a run of the loop raises is a driver error (a `ReqlTimeoutError` is
    one). -/
def RecvEnd.RaisesDriverError (r : RecvEnd) : Prop :=
  ∀ e, r.result = .error e → e.isInstance .ReqlDriverError

namespace RecvEnd

theorem returns_error {length : Nat} {res inbound : Bytes} {e : PyExc} {rest : Bytes}
    {plan : List RecvEvent} {closed : Bool} :
    Returns length res inbound ⟨.error e, rest, plan, closed⟩ :=
  fun _ h => nomatch h

theorem raisesDriverError_ok {bytes rest : Bytes} {plan : List RecvEvent} {closed : Bool} :
    RaisesDriverError ⟨.ok bytes, rest, plan, closed⟩ :=
  fun _ h => nomatch h

theorem raisesDriverError_error {e : PyExc} (he : e.isInstance .ReqlDriverError)
    {rest : Bytes} {plan : List RecvEvent} {closed : Bool} :
    RaisesDriverError ⟨.error e, rest, plan, closed⟩ := by
  rintro _ ⟨⟩
  exact he

/-- The loop stops once it has read enough, and then has read exactly enough. -/
theorem returns_done {length : Nat} {res inbound : Bytes} (h : res.length = length)
    (plan : List RecvEvent) : Returns length res inbound ⟨.ok res, inbound, plan, false⟩ := by
  rintro _ ⟨⟩
  exact ⟨rfl, h, rfl⟩

end RecvEnd

theorem isInstance_reqlDriverError (message : String) :
    (reqlDriverError message).isInstance .ReqlDriverError := rfl

theorem isInstance_reqlTimeoutError (host : String) (port : Nat) :
    (reqlTimeoutError host port).isInstance .ReqlDriverError := by
  unfold reqlTimeoutError
  split_ifs <;> rfl

theorem take_append_drop_length {α : Type} (l : List α) (n : Nat) :
    l.take n ++ l.drop (l.take n).length = l := by
  rw [List.length_take]
  rcases Nat.le_total n l.length with h | h
  · rw [Nat.min_eq_left h, List.take_append_drop]
  · rw [Nat.min_eq_right h, List.take_of_length_le h, List.drop_length, List.append_nil]

open RecvEnd

/-- On a plan with no `EINTR`, the `recvall` loop returns the next bytes of the stream up to
    `length`, or raises a driver error. -/
theorem recvLoop_reads_next (host : String) (port length : Nat) :
    ∀ (plan : List RecvEvent) (inbound res : Bytes) (chunk : Option Bytes),
      .eintr ∉ plan → res.length ≤ length →
      (recvLoop host port length plan inbound res chunk).Returns length res inbound ∧
        (recvLoop host port length plan inbound res chunk).RaisesDriverError
  | [], inbound, res, _, _, hres => by
    simp only [recvLoop]
    split_ifs with hdone hready
    · exact ⟨returns_done (by omega) [], raisesDriverError_ok⟩
    · refine ⟨?_, raisesDriverError_ok⟩
      rintro _ ⟨⟩
      refine ⟨by simp, ?_, rfl⟩
      simp only [List.length_append, List.length_take]
      omega
    · exact ⟨returns_error, raisesDriverError_error (isInstance_reqlDriverError _)⟩
  | e :: plan, inbound, res, chunk, hplan, hres => by
    have hplan' : .eintr ∉ plan := fun h => hplan (.tail _ h)
    simp only [recvLoop]
    split_ifs with hdone
    · exact ⟨returns_done (by omega) _, raisesDriverError_ok⟩
    cases e with
    | deliver k =>
      simp only
      split_ifs with hgot
      · exact ⟨returns_error, raisesDriverError_error (isInstance_reqlDriverError _)⟩
      · have hlen : (res ++ inbound.take (min k (length - res.length))).length ≤ length := by
          simp only [List.length_append, List.length_take]
          omega
        obtain ⟨hret, hraise⟩ := recvLoop_reads_next host port length plan _ _ _ hplan' hlen
        refine ⟨fun bytes hb => ?_, hraise⟩
        obtain ⟨hbytes, hlength, hopen⟩ := hret bytes hb
        refine ⟨?_, hlength, hopen⟩
        rw [hbytes, List.append_assoc, take_append_drop_length]
    | eintr => exact absurd (.head _) hplan
    | timeout | wouldBlock =>
      exact ⟨returns_error, raisesDriverError_error (isInstance_reqlTimeoutError host port)⟩
    | reset | error m =>
      exact ⟨returns_error, raisesDriverError_error (isInstance_reqlDriverError _)⟩

/-- Whatever the plan, every exception the `recvall` loop raises is a driver error, or the
    `UnboundLocalError` of an `EINTR` before the first chunk. -/
theorem recvLoop_raises (host : String) (port length : Nat) :
    ∀ (plan : List RecvEvent) (inbound res : Bytes) (chunk : Option Bytes) (e : PyExc),
      (recvLoop host port length plan inbound res chunk).result = .error e →
      e.isInstance .ReqlDriverError ∨ e = .unboundLocalError "chunk"
  | [], inbound, res, _, e, h => by
    simp only [recvLoop] at h
    split_ifs at h
    cases h
    exact .inl (isInstance_reqlDriverError _)
  | ev :: plan, inbound, res, chunk, e, h => by
    simp only [recvLoop] at h
    split_ifs at h
    cases ev with
    | deliver k =>
      simp only at h
      split_ifs at h
      · cases h
        exact .inl (isInstance_reqlDriverError _)
      · exact recvLoop_raises host port length plan _ _ _ e h
    | eintr =>
      cases chunk with
      | some prev => exact recvLoop_raises host port length plan _ _ _ e h
      | none => cases h; exact .inr rfl
    | timeout | wouldBlock => cases h; exact .inl (isInstance_reqlTimeoutError host port)
    | reset | error m => cases h; exact .inl (isInstance_reqlDriverError _)

theorem recvall_raises {c : DefaultClient} {n : Nat} {e : PyExc} (h : (c.recvall n).1 = .error e) :
    e.isInstance .ReqlDriverError ∨ e = .unboundLocalError "chunk" := by
  unfold recvall at h
  split at h
  · split_ifs at h
    cases h
    exact .inl (isInstance_reqlDriverError _)
  · exact recvLoop_raises _ _ _ _ _ _ _ e h

/-! ## `readuntil` -/

/-- The loop consumes its plan from the front. -/
theorem recvLoop_plan_suffix (host : String) (port length : Nat) :
    ∀ (plan : List RecvEvent) (inbound res : Bytes) (chunk : Option Bytes),
      (recvLoop host port length plan inbound res chunk).plan <:+ plan
  | [], inbound, res, _ => by
    simp only [recvLoop]
    split_ifs <;> exact List.suffix_refl _
  | e :: plan, inbound, res, chunk => by
    simp only [recvLoop]
    split_ifs
    · exact List.suffix_refl _
    cases e with
    | deliver k =>
      simp only
      split_ifs
      · exact List.suffix_cons _ _
      · exact (recvLoop_plan_suffix host port length plan _ _ _).trans (List.suffix_cons _ _)
    | eintr =>
      cases chunk with
      | some prev =>
        exact (recvLoop_plan_suffix host port length plan _ _ _).trans (List.suffix_cons _ _)
      | none => exact List.suffix_cons _ _
    | _ => exact List.suffix_cons _ _

/-- The kernel will not answer a `recv` on the client's socket with `EINTR`. -/
def NoEintr (c : DefaultClient) : Prop := ∀ s, c.socket = some s → .eintr ∉ s.recvPlan

theorem NoEintr.recvall {c : DefaultClient} (hc : c.NoEintr) (n : Nat) : (c.recvall n).2.NoEintr := by
  intro s' hs'
  unfold DefaultClient.recvall at hs'
  split at hs'
  · exact hc s' (by split_ifs at hs' <;> exact hs')
  · rename_i s hs
    dsimp only at hs'
    split_ifs at hs'
    cases hs'
    exact fun h => hc s hs ((recvLoop_plan_suffix _ _ _ _ _ _ _).subset h)

theorem NoEintr.recvall_raises {c : DefaultClient} (hc : c.NoEintr) {n : Nat} {e : PyExc}
    (h : (c.recvall n).1 = .error e) : e.isInstance .ReqlDriverError := by
  unfold DefaultClient.recvall at h
  split at h
  · split_ifs at h
    cases h
    exact isInstance_reqlDriverError _
  · rename_i s hs
    exact (recvLoop_reads_next _ _ n _ _ [] none (hc s hs) (Nat.zero_le _)).2 e h

/-- Without `EINTR`, every exception the `readuntil` loop raises is a driver error. -/
theorem NoEintr.readuntilLoop_raises (separator : UInt8) :
    ∀ (fuel : Nat) (response : Bytes) (c : DefaultClient), c.NoEintr → ∀ e,
      (readuntilLoop separator fuel response c).1 = .error e → e.isInstance .ReqlDriverError
  | 0, _, _, _, _, h => nomatch h
  | fuel + 1, response, c, hc, e, h => by
    rcases hr : c.recvall 1 with ⟨_ | chunk, c'⟩
    · simp only [readuntilLoop, hr] at h
      cases h
      exact hc.recvall_raises (congrArg Prod.fst hr)
    · simp only [readuntilLoop, hr] at h
      split_ifs at h
      have hc' : c'.NoEintr := by simpa only [hr] using hc.recvall 1
      exact NoEintr.readuntilLoop_raises separator fuel _ c' hc' e h

/-- The socket error a `send` can meet, other than `EINTR`: a reset or any other `OSError`. -/
def Faults (plan : List SendEvent) : Prop :=
  SendEvent.reset ∈ plan ∨ ∃ m, SendEvent.error m ∈ plan

theorem Faults.tail {e : SendEvent} {plan : List SendEvent} (h : Faults plan) :
    Faults (e :: plan) :=
  h.imp (.tail _) fun ⟨m, hm⟩ => ⟨m, .tail _ hm⟩

/-- The `sendall` loop at `offset`, having handed `sent` to the socket, hands over the rest
    of `data` and returns, or meets a socket error in its plan and raises a driver error
    having handed over a prefix of the rest. -/
theorem sendLoop_hands_rest (host : String) (port : Nat) (data : Bytes) :
    ∀ (plan : List SendEvent) (offset : Nat) (sent : Bytes), offset ≤ data.length →
      ((sendLoop host port data plan offset sent).1 = .ok () ∧
        (sendLoop host port data plan offset sent).2.2 = sent ++ data.drop offset) ∨
      ∃ e k, (sendLoop host port data plan offset sent).1 = .error e ∧
        e.isInstance .ReqlDriverError ∧
        (sendLoop host port data plan offset sent).2.2 = sent ++ (data.drop offset).take k ∧
        Faults plan
  | [], offset, sent, hoff => by
    simp only [sendLoop]
    split_ifs with h
    · exact .inl ⟨rfl, rfl⟩
    · exact .inl ⟨rfl, by rw [List.drop_of_length_le (by omega), List.append_nil]⟩
  | e :: plan, offset, sent, hoff => by
    simp only [sendLoop]
    split_ifs with hdone
    · exact .inl ⟨rfl, by rw [List.drop_of_length_le hdone, List.append_nil]⟩
    cases e with
    | accept k =>
      rcases sendLoop_hands_rest host port data plan (offset + min k (data.length - offset))
        (sent ++ (data.drop offset).take (min k (data.length - offset))) (by omega) with
        ⟨hok, hsent⟩ | ⟨e, j, herr, he, hsent, hfault⟩
      · refine .inl ⟨hok, ?_⟩
        rw [hsent, List.append_assoc, ← List.drop_drop, List.take_append_drop]
      · refine .inr ⟨e, min k (data.length - offset) + j, herr, he, ?_, hfault.tail⟩
        rw [hsent, List.append_assoc, List.take_add, List.drop_drop]
    | eintr =>
      exact (sendLoop_hands_rest host port data plan offset sent hoff).imp id
        fun ⟨e, k, herr, he, hsent, hfault⟩ => ⟨e, k, herr, he, hsent, hfault.tail⟩
    | reset => exact .inr ⟨_, 0, rfl, isInstance_reqlDriverError _, by simp, .inl (.head _)⟩
    | error m =>
      exact .inr ⟨_, 0, rfl, isInstance_reqlDriverError _, by simp, .inr ⟨m, .head _⟩⟩

/-- The bytes of the buffer a `send` accepts. -/
def SendEvent.accepted : SendEvent → Nat
  | .accept k => k
  | _ => 0

/-- The `sendall` loop whose plan reaches a reset or another error after answers that accept
    fewer bytes than are left: it raises a driver error there, having handed over exactly the
    bytes those answers accepted. -/
theorem sendLoop_fault (host : String) (port : Nat) (data : Bytes) {f : SendEvent}
    (hf : f = .reset ∨ ∃ m, f = .error m) (post : List SendEvent) :
    ∀ (pre : List SendEvent) (offset : Nat) (sent : Bytes),
      (∀ e ∈ pre, e = .eintr ∨ ∃ k, e = .accept k) →
      offset + (pre.map SendEvent.accepted).sum < data.length →
      ∃ e, (sendLoop host port data (pre ++ f :: post) offset sent).1 = .error e ∧
        e.isInstance .ReqlDriverError ∧
        (sendLoop host port data (pre ++ f :: post) offset sent).2.2 =
          sent ++ (data.drop offset).take (pre.map SendEvent.accepted).sum
  | [], offset, sent, _, hlen => by
    simp only [List.map_nil, List.sum_nil, Nat.add_zero] at hlen
    rcases hf with rfl | ⟨m, rfl⟩ <;>
      simp only [List.nil_append, sendLoop, if_neg (Nat.not_le.mpr hlen)] <;>
      exact ⟨_, rfl, isInstance_reqlDriverError _, by simp⟩
  | e :: pre, offset, sent, hpre, hlen => by
    simp only [List.map_cons, List.sum_cons] at hlen
    have hpre' : ∀ e' ∈ pre, e' = .eintr ∨ ∃ k, e' = .accept k := fun e' h => hpre e' (.tail _ h)
    have hopen : ¬data.length ≤ offset := by omega
    rw [List.cons_append]
    rcases hpre e (.head _) with rfl | ⟨k, rfl⟩
    · simp only [List.map_cons, List.sum_cons, SendEvent.accepted, Nat.zero_add] at hlen ⊢
      simp only [sendLoop, if_neg hopen]
      exact sendLoop_fault host port data hf post pre offset sent hpre' hlen
    · simp only [List.map_cons, List.sum_cons, SendEvent.accepted] at hlen ⊢
      simp only [sendLoop, if_neg hopen, show min k (data.length - offset) = k by omega]
      obtain ⟨e', herr, he, hsent⟩ := sendLoop_fault host port data hf post pre (offset + k)
        (sent ++ (data.drop offset).take k) hpre' (by omega)
      refine ⟨e', herr, he, ?_⟩
      rw [hsent, List.append_assoc, List.take_add, List.drop_drop]

/-- `sendall(data)` on an open socket, whatever the kernel does, hands the socket the bytes
    of `data` in order, each once. It returns only once all of them are accepted; otherwise
    the kernel answered a `send` with an error other than `EINTR`, and `sendall` raises a
    driver error having handed over a prefix of `data`. A reset or another error that comes
    before the last byte is accepted does make it raise a driver error, having handed over
    exactly the bytes the answers before it accepted. -/
theorem sendall_hands_every_byte_once (host : String) (port : Nat) (ssl : Bool) (s : Socket)
    (data : Bytes) :
    let c : DefaultClient := ⟨host, port, ssl, some s⟩
    (((c.sendall data).1 = .ok () ∧
        (c.sendall data).2.socket.map Socket.sent = some (s.sent ++ data)) ∨
      ∃ e k, (c.sendall data).1 = .error e ∧ e.isInstance .ReqlDriverError ∧
        (c.sendall data).2.socket.map Socket.sent = some (s.sent ++ data.take k) ∧
        Faults s.sendPlan) ∧
    ∀ pre f post, s.sendPlan = pre ++ f :: post → (f = .reset ∨ ∃ m, f = .error m) →
      (∀ e ∈ pre, e = .eintr ∨ ∃ k, e = .accept k) →
      (pre.map SendEvent.accepted).sum < data.length →
      ∃ e, (c.sendall data).1 = .error e ∧ e.isInstance .ReqlDriverError ∧
        (c.sendall data).2.socket.map Socket.sent =
          some (s.sent ++ data.take (pre.map SendEvent.accepted).sum) :=
  ⟨by simpa only [sendall, Option.map_some', Option.some.injEq, List.drop_zero] using
      sendLoop_hands_rest host port data s.sendPlan 0 s.sent (Nat.zero_le _),
    fun pre _ post hplan hf hpre hlen => by
      simpa only [sendall, hplan, Option.map_some', Option.some.injEq, List.drop_zero] using
        sendLoop_fault host port data hf post pre 0 s.sent hpre (by omega)⟩

/-- Every exception `readuntil` raises is one of `recvall`'s. -/
theorem readuntilLoop_raises (separator : UInt8) :
    ∀ (fuel : Nat) (response : Bytes) (c : DefaultClient) (e : PyExc),
      (readuntilLoop separator fuel response c).1 = .error e →
      e.isInstance .ReqlDriverError ∨ e = .unboundLocalError "chunk"
  | 0, _, _, _, h => nomatch h
  | fuel + 1, response, c, e, h => by
    rcases hr : c.recvall 1 with ⟨_ | chunk, c'⟩
    · simp only [readuntilLoop, hr] at h
      cases h
      exact recvall_raises (congrArg Prod.fst hr)
    · simp only [readuntilLoop, hr] at h
      split_ifs at h
      exact readuntilLoop_raises separator fuel _ c' e h

/-- Every exception `sendall` raises is a driver error. -/
theorem sendall_raises {c : DefaultClient} {data : Bytes} {e : PyExc}
    (h : (c.sendall data).1 = .error e) : e.isInstance .ReqlDriverError := by
  unfold sendall at h
  split at h
  · split_ifs at h
    cases h
    exact isInstance_reqlDriverError _
  · rcases sendLoop_hands_rest _ _ data _ 0 _ (Nat.zero_le _) with
      ⟨hok, -⟩ | ⟨e', -, herr, he, -⟩
    · rw [hok] at h
      cases h
    · rw [herr] at h
      cases h
      exact he

end DefaultClient

end RethinkDriver

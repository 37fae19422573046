import RethinkDriver.ProtocolGenerators
import RethinkDriver.Proofs.Stream

/-!
# The adapter is transparent once the generator has yielded

`IterableGenerator` (`core/utilities.py:57-113`) driven by the transports' loop is the same
computation as stepping the generator directly, whenever the generator's code does not
return before its first `yield` (`IterableGenerator.drive_eq_stepDirectly`): `__iter__`
fetches the first request, `__next__` hands back the last one fetched, and `send` fetches
the next one or marks the end. A generator that returns at once makes `__iter__` raise
`StopIteration` out of the `for` statement.

Over the protocol's two generators, the loops of `DefaultTransport.connect` and
`run_query` are `Connection.handshake` (the first and third requests written, the empty
second one skipped, three messages read) and `Connection.readFrame` followed by `dispatch`
(a 12-byte read, then a read of the length the header gives), with the exceptions of the
generator's code as the generator raises them (`connectLoop_eq_handshake`,
`responseLoop_eq_readFrame`).
-/

namespace RethinkDriver

theorem genRaised_ne_stopIteration (e : PyExc) : genRaised e ≠ .stopIteration := by
  unfold genRaised
  split_ifs with h
  · exact nofun
  · exact h

theorem ne_stopIteration_of_isInstance {e : PyExc} {cls : ReqlErrorClass} (h : e.isInstance cls) :
    e ≠ .stopIteration := by
  rintro rfl
  cases h

/-! ## Computations that raise no `StopIteration` -/

section Adapt

variable {W γ δ : Type}

/-- A computation that never raises `StopIteration`. -/
def NoStop (m : EStateM PyExc W γ) : Prop := ∀ w e w', m w = .error e w' → e ≠ .stopIteration

theorem adaptExcept_genRaised_of_noStop {m : EStateM PyExc W γ} (h : NoStop m) :
    EStateM.adaptExcept genRaised m = m := by
  funext w
  simp only [EStateM.adaptExcept]
  rcases hm : m w with ⟨a, w'⟩ | ⟨e, w'⟩
  · rfl
  · simp only [genRaised, if_neg (h w e w' hm)]

theorem adaptExcept_bind (f : PyExc → PyExc) (m : EStateM PyExc W γ)
    (k : γ → EStateM PyExc W δ) :
    EStateM.adaptExcept f (m >>= k) =
      EStateM.adaptExcept f m >>= fun a => EStateM.adaptExcept f (k a) := by
  funext w
  simp only [EStateM.adaptExcept, bind, EStateM.bind]
  rcases m w with ⟨a, w'⟩ | ⟨e, w'⟩ <;> rfl

theorem adaptExcept_pure (f : PyExc → PyExc) (a : γ) :
    EStateM.adaptExcept f (pure a : EStateM PyExc W γ) = pure a := rfl

end Adapt

/-! ## The adapter against direct stepping -/

namespace GenState

variable {W F α γ : Type}

/-- A piece of the code run by `send`, seen through `except StopIteration`: a `yield` gives
    the value and suspends the generator, a return gives nothing, and an exception of the
    code is raised as `genRaised` of it. -/
theorem catchStop_runPiece (piece : EStateM PyExc W (GenStep F α)) (w : W) :
    catchStop (runPiece piece) w = match piece w with
      | .ok (.yielded v f) w' => .ok (some (v, .suspended f)) w'
      | .ok .returned w' => .ok none w'
      | .error e w' => .error (genRaised e) w' := by
  simp only [catchStop, runPiece]
  rcases piece w with (_ | _) | ⟨e, w'⟩
  · rfl
  · rfl
  · simp only [if_neg (genRaised_ne_stopIteration e)]

theorem catchStop_runPiece_bind (m : EStateM PyExc W γ)
    (k : γ → EStateM PyExc W (GenStep F α)) :
    catchStop (runPiece (m >>= k)) =
      EStateM.adaptExcept genRaised m >>= fun a => catchStop (runPiece (k a)) := by
  funext w
  simp only [catchStop, runPiece, EStateM.adaptExcept, bind, EStateM.bind]
  rcases m w with ⟨a, w'⟩ | ⟨e, w'⟩
  · rfl
  · simp only [if_neg (genRaised_ne_stopIteration e)]

theorem catchStop_runPiece_yielded (v : α) (f : F) :
    catchStop (runPiece (pure (.yielded v f) : EStateM PyExc W (GenStep F α))) =
      pure (some (v, .suspended f)) := rfl

theorem catchStop_runPiece_returned :
    catchStop (runPiece (pure .returned : EStateM PyExc W (GenStep F α))) = pure none := rfl

end GenState

namespace IterableGenerator

variable {W F α β : Type} (code : GenCode W F α β) (io : α → EStateM PyExc W β)

/-- The request the adapter holds, with the generator it came from. -/
def pending (it : IterableGenerator F α) : Option (α × GenState F) :=
  it.out.map (·, it.generator)

/-- A round of the `for` loop is a round of direct stepping from the request the adapter
    holds. -/
theorem run'_forLoop : ∀ (fuel : Nat) (it : IterableGenerator F α),
    StateT.run' (forLoop (ioRound code io) fuel) it = code.stepFrom io fuel (pending it)
  | 0, _ => rfl
  | fuel + 1, ⟨g, none⟩ => rfl
  | fuel + 1, ⟨g, some request⟩ => by
    funext w
    simp only [StateT.run', forLoop, next, ioRound, send, GenCode.stepFrom, pending,
      Option.map_some', SeqRight.seqRight, bind, StateT.bind, StateT.lift, EStateM.bind,
      Functor.map, EStateM.map, StateT.map, pure, EStateM.pure]
    cases io request w with
    | error e w' => rfl
    | ok reply w' =>
      simp only
      cases catchStop (GenState.send code (some reply) g) w' with
      | error e w'' => rfl
      | ok next w'' =>
        cases next with
        | none => exact congrFun (run'_forLoop fuel ⟨.finished, none⟩) w''
        | some p => exact congrFun (run'_forLoop fuel ⟨p.2, some p.1⟩) w''

/-- Driven by the transports' loop, a generator whose code does not return before its first
    `yield` runs as it does stepped directly. -/
theorem drive_eq_stepDirectly (fuel : Nat) (w : W)
    (hstart : ∀ w', code.start w ≠ .ok .returned w') :
    drive code io fuel w = code.stepDirectly io fuel w := by
  have hloop := run'_forLoop code io fuel
  simp only [drive, GenCode.stepDirectly, StateT.run', SeqRight.seqRight, iter, new, bind,
    StateT.bind, EStateM.bind, Functor.map, EStateM.map, StateT.map, pure, EStateM.pure,
    GenState.send]
  rw [GenState.catchStop_runPiece]
  simp only [GenState.runPiece]
  rcases h : code.start w with (⟨v, f⟩ | _) | ⟨e, w'⟩
  · exact congrFun (hloop ⟨.suspended f, some v⟩) _
  · exact absurd h (hstart _)
  · rfl

/-- `def gen(): return; yield`: the adapter's `__iter__` raises `StopIteration` out of the
    `for` statement, where stepping the generator directly just ends. -/
theorem drive_raises_on_generator_without_yield :
    let code : GenCode Unit Unit Nat Nat := ⟨pure .returned, fun _ _ => pure .returned⟩
    drive code (fun _ => pure 0) 1 () = .error .stopIteration () ∧
      code.stepDirectly (fun _ => pure 0) 1 () = .ok true () :=
  ⟨rfl, rfl⟩

end IterableGenerator

/-! ## The protocol's generators -/

namespace Connection

variable (ql2 : Ql2) (codec : JsonCodec) (crypto : Crypto)

theorem noStop_onClient {γ : Type} {f : DefaultClient → Except PyExc γ × DefaultClient}
    (hf : ∀ c e, (f c).1 = .error e → e ≠ .stopIteration) : NoStop (onClient f) := by
  intro conn e conn' h
  simp only [onClient] at h
  split at h
  · cases h
  · cases h
    exact hf _ _ (by rename_i h; rw [h])

theorem adaptExcept_sendRequest (request : Bytes) :
    EStateM.adaptExcept genRaised (sendRequest request) = sendRequest request := by
  refine adaptExcept_genRaised_of_noStop ?_
  unfold sendRequest
  split_ifs
  · intro _ _ _ h
    cases h
  · exact noStop_onClient fun _ _ h =>
      ne_stopIteration_of_isInstance (DefaultClient.sendall_raises h)

theorem adaptExcept_readuntil (separator : UInt8) :
    EStateM.adaptExcept genRaised (onClient (·.readuntil separator)) =
      onClient (·.readuntil separator) :=
  adaptExcept_genRaised_of_noStop <| noStop_onClient fun _ _ h =>
    (DefaultClient.readuntilLoop_raises separator _ _ _ _ h).elim ne_stopIteration_of_isInstance
      fun h => h ▸ nofun

theorem adaptExcept_recvall (n : Nat) :
    EStateM.adaptExcept genRaised (onClient (·.recvall n)) = onClient (·.recvall n) :=
  adaptExcept_genRaised_of_noStop <| noStop_onClient fun _ _ h =>
    (DefaultClient.recvall_raises h).elim ne_stopIteration_of_isInstance fun h => h ▸ nofun

/-- The loop of `connect` over `HandshakeV1_0.run` is `handshake`: the requests are written
    unless empty and each is followed by a `\0`-terminated read. -/
theorem connectLoop_eq_handshake (randomBytes : Bytes) (fuel : Nat) :
    connectLoop ql2 codec crypto randomBytes (fuel + 4) =
      EStateM.adaptExcept genRaised (handshake ql2 codec crypto randomBytes *> pure true) := by
  funext conn
  rw [connectLoop, IterableGenerator.drive_eq_stepDirectly _ _ _ _ (fun _ h => by
    simp only [handshakeRun, bind, EStateM.bind] at h
    split at h <;> cases h)]
  simp only [GenCode.stepDirectly, GenCode.stepFrom, GenState.send, handshakeRun,
    GenState.catchStop_runPiece_bind, GenState.catchStop_runPiece_yielded,
    GenState.catchStop_runPiece_returned, bind_assoc, pure_bind, handshake, seqRight_eq_bind,
    adaptExcept_bind, adaptExcept_sendRequest, adaptExcept_readuntil, adaptExcept_pure]

/-- The loop of `run_query` over `read_response` reads the 12-byte header, then the body of the
    length the header gives, and dispatches the response. -/
theorem responseLoop_eq_readFrame (fuel : Nat) :
    responseLoop ql2 codec (fuel + 3) =
      EStateM.adaptExcept genRaised (do
        let (tokenInt, body) ← readFrame
        dispatch ql2 codec ⟨tokenInt⟩ body
        pure true) := by
  funext conn
  rw [responseLoop, IterableGenerator.drive_eq_stepDirectly _ _ _ _ (fun _ h => by cases h)]
  simp only [GenCode.stepDirectly, GenCode.stepFrom, GenState.send, readResponse,
    GenState.catchStop_runPiece_bind, GenState.catchStop_runPiece_yielded,
    GenState.catchStop_runPiece_returned, bind_assoc, pure_bind, readFrame,
    adaptExcept_bind, adaptExcept_recvall, adaptExcept_pure]

end Connection

/-- `IterableGenerator` driven by the transports' loop runs a generator that yields before it
    returns as stepping it directly does; over `HandshakeV1_0.run` and `read_response` the
    transports' loops are `handshake` and `readFrame` then `dispatch`. -/
theorem iterableGenerator_drives_as_stepping :
    (∀ {W F α β : Type} (code : GenCode W F α β) (io : α → EStateM PyExc W β) (fuel : Nat)
      (w : W), (∀ w', code.start w ≠ .ok .returned w') →
        IterableGenerator.drive code io fuel w = code.stepDirectly io fuel w) ∧
    (∀ (ql2 : Ql2) (codec : JsonCodec) (crypto : Crypto) (randomBytes : Bytes) (fuel : Nat),
      Connection.connectLoop ql2 codec crypto randomBytes (fuel + 4) =
        EStateM.adaptExcept genRaised
          (Connection.handshake ql2 codec crypto randomBytes *> pure true)) ∧
    ∀ (ql2 : Ql2) (codec : JsonCodec) (fuel : Nat),
      Connection.responseLoop ql2 codec (fuel + 3) =
        EStateM.adaptExcept genRaised (do
          let (tokenInt, body) ← Connection.readFrame
          Connection.dispatch ql2 codec ⟨tokenInt⟩ body
          pure true) :=
  ⟨fun code io fuel w hstart => IterableGenerator.drive_eq_stepDirectly code io fuel w hstart,
    Connection.connectLoop_eq_handshake, Connection.responseLoop_eq_readFrame⟩

end RethinkDriver

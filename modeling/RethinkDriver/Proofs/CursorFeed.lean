import RethinkDriver.Cursor
import RethinkDriver.Reference

/-!
# What a cursor buffers

`_extend_internal` (`core/net/cursor.py:172-184`) is where a response reaches a cursor: the
constructor applies the first one, and `Cursor.extend` the later ones once its bookkeeping
has run. Fed a run of `SUCCESS_PARTIAL` batches and a terminal response, with consumers
taking items at any point, the items consumed and the items still buffered are the batches
in arrival order (the history equation `taken ++ items = batches`). A `SUCCESS_SEQUENCE`
sets `completed` and records no sentinel; an error response records `make_error`.

Through `Cursor.extend` itself no later response gets there: `extend` first reads
`outstanding_requests`, which nothing assigns, and raises (`extend_loses_final_batch`).
-/

namespace RethinkDriver

namespace Cursor

variable {ω : Type} (ql2 : Ql2)

/-! ## One response -/

section Step

variable {ql2} {res : Response} {c : Cursor} {w : ω} {xs : List PyValue}

theorem extendInternal_partial (hc : c.completed = false)
    (hp : res.isTypeOf ql2 .SUCCESS_PARTIAL) (hd : res.data = .list xs) :
    extendInternal ql2 res (c, w) =
      .ok () ({ c with threshold := some xs.length, items := c.items ++ xs }, w) := by
  simp [extendInternal, hc, hp, hd, PyValue.len, PyValue.iter, liftPy, modify, self, bind,
    EStateM.bind, pure, EStateM.pure]

theorem extendInternal_sequence (hc : c.completed = false)
    (hs : res.isTypeOf ql2 .SUCCESS_SEQUENCE) (hd : res.data = .list xs) :
    extendInternal ql2 res (c, w) =
      .ok () ({ c with threshold := some xs.length, items := c.items ++ xs, completed := true },
        w) := by
  have hp : res.isTypeOf ql2 .SUCCESS_PARTIAL = false := by
    cases h : res.isTypeOf ql2 .SUCCESS_PARTIAL
    · rfl
    · cases Response.isTypeOf_unique ql2 h hs
  simp [extendInternal, hc, hp, hs, hd, PyValue.len, PyValue.iter, liftPy, modify, self, bind,
    EStateM.bind, pure, EStateM.pure]

theorem extendInternal_error {e : PyExc} (hc : c.completed = false)
    (hp : res.isTypeOf ql2 .SUCCESS_PARTIAL = false)
    (hs : res.isTypeOf ql2 .SUCCESS_SEQUENCE = false) (hd : res.data = .list xs)
    (he : res.makeError ql2 = .ok e) :
    extendInternal ql2 res (c, w) =
      .ok () ({ c with threshold := some xs.length, error := some (some e) }, w) := by
  simp [extendInternal, hc, hp, hs, hd, he, PyValue.len, liftPy, modify, self, bind,
    EStateM.bind, pure, EStateM.pure]

/-- A completed cursor only updates `threshold`, or raises before touching anything. -/
theorem extendInternal_completed (ql2 : Ql2) (hc : c.completed = true) (res : Response) (w : ω) :
    extendInternal ql2 res (c, w) = .ok () ({ c with threshold := res.data.len.toOption }, w) ∨
      ∃ e, extendInternal ql2 res (c, w) = .error e (c, w) := by
  cases h : res.data.len with
  | ok n => exact .inl (by simp [extendInternal, hc, h, liftPy, modify, self, bind, EStateM.bind,
      pure, EStateM.pure, Except.toOption])
  | error e => exact .inr ⟨e, by simp [extendInternal, h, liftPy, bind, EStateM.bind]⟩

end Step

/-! ## Runs of batches and consumers -/

/-- What a cursor is given once it exists: a response for its token, applied by
    `_extend_internal`, or a consumer's `items.popleft()`. -/
inductive Feed where
  | response (res : Response)
  | consume

/-- The responses among `fs`, in order. -/
def Feed.responses : List Feed → List Response
  | [] => []
  | .response r :: fs => r :: Feed.responses fs
  | .consume :: fs => Feed.responses fs

/-- The cursor after `fs`, with the items consumers took; a method that raises leaves the
    state it reached. -/
def feed : List Feed → Cursor × List PyValue → Cursor × List PyValue
  | [], s => s
  | .response r :: fs, (c, taken) =>
    match extendInternal (ω := Unit) ql2 r (c, ()) with
    | .ok _ s | .error _ s => feed fs (s.1, taken)
  | .consume :: fs, (c, taken) =>
    match popItem (ω := Unit) (c, ()) with
    | .ok x s => feed fs (s.1, taken ++ [x])
    | .error _ s => feed fs (s.1, taken)

variable {ql2}

theorem feed_append (fs gs : List Feed) (s : Cursor × List PyValue) :
    feed ql2 (fs ++ gs) s = feed ql2 gs (feed ql2 fs s) := by
  induction fs generalizing s with
  | nil => rfl
  | cons f fs ih =>
    obtain ⟨c, taken⟩ := s
    cases f <;> simp only [List.cons_append, feed] <;> split <;> exact ih _

/-- Where the responses of a feed split, the feed splits. -/
theorem Feed.responses_eq_append_cons {fs : List Feed} {ps after : List Response}
    {t : Response} (h : Feed.responses fs = ps ++ t :: after) :
    ∃ fs₁ fs₂, fs = fs₁ ++ .response t :: fs₂ ∧ Feed.responses fs₁ = ps ∧
      Feed.responses fs₂ = after := by
  induction fs generalizing ps with
  | nil => cases ps <;> cases h
  | cons f fs ih =>
    cases f with
    | consume =>
      obtain ⟨fs₁, fs₂, rfl, h₁, h₂⟩ := ih h
      exact ⟨.consume :: fs₁, fs₂, rfl, h₁, h₂⟩
    | response r =>
      cases ps with
      | nil =>
        simp only [Feed.responses, List.nil_append, List.cons.injEq] at h
        obtain ⟨rfl, h⟩ := h
        exact ⟨[], fs, rfl, rfl, h⟩
      | cons p ps =>
        simp only [Feed.responses, List.cons_append, List.cons.injEq] at h
        obtain ⟨rfl, h⟩ := h
        obtain ⟨fs₁, fs₂, rfl, h₁, h₂⟩ := ih h
        exact ⟨.response r :: fs₁, fs₂, rfl, by simp [Feed.responses, h₁], h₂⟩

/-- What a feed keeps when it adds no batch: the history `taken ++ items`, `completed` and
    `error`. -/
def Keeps (s s' : Cursor × List PyValue) : Prop :=
  s'.2 ++ s'.1.items = s.2 ++ s.1.items ∧ s'.1.completed = s.1.completed ∧ s'.1.error = s.1.error

theorem Keeps.trans {s s' s'' : Cursor × List PyValue} (h : Keeps s s') (h' : Keeps s' s'') :
    Keeps s s'' :=
  ⟨h'.1.trans h.1, h'.2.1.trans h.2.1, h'.2.2.trans h.2.2⟩

/-- A consumer moves the head of `items` to the taken list, or raises `IndexError` and
    moves nothing. -/
theorem feed_consume (ql2 : Ql2) (fs : List Feed) (s : Cursor × List PyValue) :
    ∃ s', feed ql2 (.consume :: fs) s = feed ql2 fs s' ∧ Keeps s s' := by
  obtain ⟨c, taken⟩ := s
  cases h : c.items with
  | nil => exact ⟨(c, taken), by simp [feed, popItem, h], rfl, rfl, rfl⟩
  | cons x xs => exact ⟨({ c with items := xs }, taken ++ [x]), by simp [feed, popItem, h],
      by simp [h], rfl, rfl⟩

/-- Consumers alone keep the history. -/
theorem feed_keeps_of_responses_nil (ql2 : Ql2) (fs : List Feed) (hfs : Feed.responses fs = [])
    (s : Cursor × List PyValue) : Keeps s (feed ql2 fs s) := by
  induction fs generalizing s with
  | nil => exact ⟨rfl, rfl, rfl⟩
  | cons f fs ih =>
    obtain ⟨c, taken⟩ := s
    cases f with
    | response r => cases hfs
    | consume =>
      obtain ⟨s', hfeed, hkeep⟩ := feed_consume ql2 fs (c, taken)
      rw [hfeed]
      exact hkeep.trans (ih hfs _)

/-- Once completed, a cursor keeps its history whatever it is fed. -/
theorem feed_keeps_of_completed (ql2 : Ql2) (fs : List Feed) (c : Cursor) (taken : List PyValue)
    (hc : c.completed = true) : Keeps (c, taken) (feed ql2 fs (c, taken)) := by
  induction fs generalizing c taken with
  | nil => exact ⟨rfl, rfl, rfl⟩
  | cons f fs ih =>
    cases f with
    | response r =>
      rcases extendInternal_completed ql2 hc r () with h | ⟨e, h⟩
      · simp only [feed, h]
        exact ih _ _ hc
      · simp only [feed, h]
        exact ih _ _ hc
    | consume =>
      obtain ⟨⟨c', taken'⟩, hfeed, hkeep⟩ := feed_consume ql2 fs (c, taken)
      rw [hfeed]
      exact hkeep.trans (ih _ _ (hkeep.2.1.trans hc))

/-- A run of `SUCCESS_PARTIAL` batches appends them in order and leaves `completed` and
    `error` alone. -/
theorem feed_partials (fs : List Feed) (ps : List Response) (batches : List (List PyValue))
    (hfs : Feed.responses fs = ps)
    (hps : List.Forall₂ (fun p b => p.isTypeOf ql2 .SUCCESS_PARTIAL ∧ p.data = .list b) ps batches)
    (c : Cursor) (taken : List PyValue) (hc : c.completed = false) :
    let s := feed ql2 fs (c, taken)
    s.2 ++ s.1.items = taken ++ c.items ++ batches.flatten ∧ s.1.completed = false ∧
      s.1.error = c.error := by
  induction fs generalizing ps batches c taken with
  | nil =>
    subst hfs
    cases hps
    simp [feed, hc]
  | cons f fs ih =>
    cases f with
    | consume =>
      obtain ⟨⟨c', taken'⟩, hfeed, hkeep, hcomp, herr⟩ := feed_consume ql2 fs (c, taken)
      rw [hfeed, ← herr, ← hkeep]
      exact ih ps batches hfs hps c' taken' (hcomp.trans hc)
    | response r =>
      cases hps with
      | nil => cases hfs
      | @cons _ b _ _ hrb hps =>
        simp only [Feed.responses, List.cons.injEq] at hfs
        obtain ⟨rfl, hfs⟩ := hfs
        simp only [feed, extendInternal_partial hc hrb.1 hrb.2]
        have := ih _ _ hfs hps { c with threshold := some b.length, items := c.items ++ b } taken hc
        simpa [List.append_assoc] using this

/-- The constructor is the first response of a feed, applied to the cursor `__init__`
    leaves. -/
theorem feed_new {query : Query} {first : Response} {c : Cursor}
    (hnew : Cursor.new ql2 query first = .ok c) (fs : List Feed) :
    feed ql2 (.response first :: fs) (⟨query, [], false, none, none, none⟩, []) =
      feed ql2 fs (c, []) := by
  unfold Cursor.new at hnew
  split at hnew
  · rename_i s hs
    cases hnew
    simp only [feed, hs]
  · cases hnew

/-- Every cursor, fed `SUCCESS_PARTIAL` batches and then a terminal response with consumers
    taking items at any point: the items taken and buffered are the batches in arrival
    order. After a `SUCCESS_SEQUENCE` the cursor is completed, and stays so with the same
    history whatever arrives later; after an error response that ends the feed, it holds
    `make_error` of that response. -/
theorem batches_in_arrival_order {query : Query} {first : Response} {c : Cursor}
    (hnew : Cursor.new ql2 query first = .ok c) (fs : List Feed) (ps : List Response)
    (batches : List (List PyValue)) (t : Response) (after : List Response)
    (hseq : first :: Feed.responses fs = ps ++ t :: after)
    (hps : List.Forall₂ (fun p b => p.isTypeOf ql2 .SUCCESS_PARTIAL ∧ p.data = .list b) ps batches)
    (last : List PyValue) (hlast : t.data = .list last) :
    let s := feed ql2 fs (c, [])
    (t.isTypeOf ql2 .SUCCESS_SEQUENCE →
      s.2 ++ s.1.items = batches.flatten ++ last ∧ s.1.completed = true) ∧
    (∀ e, t.isTypeOf ql2 .SUCCESS_PARTIAL = false → t.isTypeOf ql2 .SUCCESS_SEQUENCE = false →
      t.makeError ql2 = .ok e → after = [] →
      s.2 ++ s.1.items = batches.flatten ∧ s.1.completed = false ∧
        s.1.error = some (some e)) := by
  obtain ⟨fs₁, fs₂, hsplit, h₁, h₂⟩ :=
    Feed.responses_eq_append_cons
      (show Feed.responses (.response first :: fs) = _ from hseq)
  have hrun : feed ql2 fs (c, []) =
      feed ql2 (.response t :: fs₂) (feed ql2 fs₁ (⟨query, [], false, none, none, none⟩, [])) := by
    rw [← feed_new hnew, hsplit, feed_append]
  obtain ⟨hhist, hcomp, -⟩ :=
    feed_partials fs₁ ps batches h₁ hps ⟨query, [], false, none, none, none⟩ [] rfl
  generalize feed ql2 fs₁ (⟨query, [], false, none, none, none⟩, []) = s₁ at hrun hhist hcomp
  obtain ⟨c₁, taken₁⟩ := s₁
  simp only [List.nil_append] at hhist
  refine ⟨fun ht => ?_, fun e htp hts he hafter => ?_⟩
  · simp only [hrun, feed, extendInternal_sequence hcomp ht hlast]
    obtain ⟨hhist', hcomp', -⟩ := feed_keeps_of_completed ql2 fs₂
      { c₁ with threshold := some last.length, items := c₁.items ++ last, completed := true }
      taken₁ rfl
    exact ⟨by rw [hhist']; simp [← List.append_assoc, hhist], hcomp'⟩
  · subst hafter
    simp only [hrun, feed, extendInternal_error hcomp htp hts hlast he]
    obtain ⟨hhist', hcomp', herr'⟩ := feed_keeps_of_responses_nil ql2 fs₂ h₂
      ({ c₁ with threshold := some last.length, error := some (some e) }, taken₁)
    exact ⟨hhist'.trans hhist, hcomp'.trans hcomp, herr'⟩

theorem batches_in_arrival_order_partial_then_sequence :
    let s := feed Ql2.proto [.consume, .response ⟨⟨0⟩, .int 2, .list [.int 2], .none⟩]
      (⟨.new .START ⟨0⟩ none none, [.int 1], false, some 1, none, none⟩, [])
    s.2 ++ s.1.items = [[PyValue.int 1]].flatten ++ [.int 2] ∧ s.1.completed = true :=
  (@batches_in_arrival_order Ql2.proto (.new .START ⟨0⟩ none none)
    ⟨⟨0⟩, .int 3, .list [.int 1], .none⟩ _ rfl [.consume, .response ⟨⟨0⟩, .int 2, .list [.int 2], .none⟩] [⟨⟨0⟩, .int 3, .list [.int 1], .none⟩]
    [[.int 1]] ⟨⟨0⟩, .int 2, .list [.int 2], .none⟩ [] rfl (.cons ⟨rfl, rfl⟩ .nil) [.int 2]
    rfl).1 rfl

/-- The batch `[1]` (`SUCCESS_PARTIAL`) and then `[2]` (`SUCCESS_SEQUENCE`) for one cursor: the
    constructor buffers `[1]`, and `Cursor.extend` raises `AttributeError` on
    `outstanding_requests` before it applies `[2]`, so the cursor keeps `[1]` alone and is not
    completed. A cursor whose one response is that `SUCCESS_SEQUENCE` is completed and holds no
    `ReqlCursorEmpty`: `error` is never assigned. -/
theorem extend_loses_final_batch :
    let ctx : Context Unit := ⟨fun _ => pure (), fun _ => pure ()⟩
    let query := Query.new .START ⟨0⟩ none none
    (∃ c, Cursor.new Ql2.proto query ⟨⟨0⟩, .int 3, .list [.int 1], .none⟩ = .ok c ∧
      Cursor.extend Ql2.proto ctx ⟨⟨0⟩, .int 2, .list [.int 2], .none⟩ (c, ()) =
        .error (.attributeError "outstanding_requests") (c, ()) ∧
      c.items = [.int 1] ∧ c.completed = false) ∧
    ∃ c, Cursor.new Ql2.proto query ⟨⟨0⟩, .int 2, .list [.int 2], .none⟩ = .ok c ∧
      c.items = [.int 2] ∧ c.completed = true ∧ c.error = none :=
  ⟨⟨_, rfl, rfl, rfl, rfl⟩, _, rfl, rfl, rfl, rfl⟩

end Cursor

end RethinkDriver

import RethinkDriver.Printer

/-!
# The caret line is not the mask of the query, and it is used up

`QueryPrinter.query` renders a term one character per piece. `QueryPrinter.carets` with no
frame is the mask of the whole query (`carets_nil_mask`). With frames it is not a mask of
the query at all: `__compose_carets` hands `compose` its argument generator and keyword
`dict` as two positional arguments where `__compose_term` unpacks them, so each argument
takes one position of the caret line however long its text (`carets_cons_length`).

`carets` pops the frames from the list it shares with the `ReqlError`. After a run on a
one-frame path the list is empty, and a second run marks the whole query
(`carets_second_run_marks_all`); so `str(e)` changes between calls.
-/

namespace RethinkDriver

namespace QueryPrinter

open PObj

/-- Pieces that are one-character strings. -/
def Chars (pieces : List PObj) : Prop :=
  ∃ cs : List Char, pieces = cs.map fun c => .str (.singleton c)

theorem Chars.nil : Chars [] := ⟨[], rfl⟩

theorem Chars.append {xs ys : List PObj} (hx : Chars xs) (hy : Chars ys) : Chars (xs ++ ys) := by
  obtain ⟨cs, rfl⟩ := hx
  obtain ⟨ds, rfl⟩ := hy
  exact ⟨cs ++ ds, by simp⟩

theorem Chars.flatMap {α : Type} {xs : List α} {f : α → List PObj}
    (h : ∀ x ∈ xs, Chars (f x)) : Chars (xs.flatMap f) := by
  induction xs with
  | nil => exact .nil
  | cons x xs ih =>
    rw [List.flatMap_cons]
    exact (h x (.head _)).append (ih fun y hy => h y (.tail _ hy))

theorem chars_str (s : String) : Chars (PObj.str s).items := ⟨s.toList, rfl⟩

theorem chars_enhancedTuple {seq : List PObj} {sep : PObj} (hseq : ∀ t ∈ seq, Chars t.items)
    (hsep : Chars sep.items) : Chars (enhancedTuple seq sep).items := by
  cases seq with
  | nil => exact .nil
  | cons t ts =>
    exact (hseq t (.head _)).append
      (.flatMap fun u hu => hsep.append (hseq u (.tail _ hu)))

theorem chars_callCompose {opening sep closing : String} {args : List PObj}
    {kwargs : List (String × PObj)} (hargs : ∀ a ∈ args, Chars a.items)
    (hkwargs : ∀ kv ∈ kwargs, Chars kv.2.items) :
    Chars (callCompose opening sep closing args kwargs).items := by
  refine chars_enhancedTuple ?_ (chars_str "")
  simp only [List.mem_cons, List.not_mem_nil, or_false, forall_eq_or_imp, forall_eq]
  refine ⟨chars_str _, chars_enhancedTuple ?_ (chars_str _), chars_str _⟩
  simp only [List.mem_append, List.mem_map]
  rintro t (ht | ⟨kv, hkv, rfl⟩)
  · exact hargs t ht
  · refine chars_enhancedTuple ?_ (chars_str "")
    simp only [List.mem_cons, List.not_mem_nil, or_false, forall_eq_or_imp, forall_eq]
    exact ⟨chars_str _, chars_str _, hkwargs kv hkv⟩

mutual
/-- The rendering of a term is one character per piece. -/
theorem chars_composeTerm : ∀ t : Term, Chars (composeTerm t).items
  | .call _ _ _ args kwargs => chars_callCompose (chars_composeArgs args)
      (chars_composeKwargs kwargs)
theorem chars_composeArgs : ∀ as : List Term, ∀ a ∈ composeArgs as, Chars a.items
  | [], _, h => absurd h (List.not_mem_nil _)
  | b :: bs, a, h => by
    rcases List.mem_cons.mp h with rfl | h
    · exact chars_composeTerm b
    · exact chars_composeArgs bs a h
theorem chars_composeKwargs : ∀ kvs : List (String × Term), ∀ kv ∈ composeKwargs kvs,
    Chars kv.2.items
  | [], _, h => absurd h (List.not_mem_nil _)
  | (k, v) :: kvs, kv, h => by
    rcases List.mem_cons.mp h with rfl | h
    · exact chars_composeTerm v
    · exact chars_composeKwargs kvs kv h
end

theorem foldlM_join_chars (cs : List Char) (acc : String) :
    (cs.map fun c => PObj.str (.singleton c)).foldlM (fun acc x => match x with
      | .str s => .ok (acc ++ s)
      | _ => .error .typeError) acc = (.ok (acc ++ String.mk cs) : Except PyExc String) := by
  induction cs generalizing acc with
  | nil => simp; rfl
  | cons c cs ih =>
    simp only [List.map_cons, List.foldlM_cons, bind, Except.bind, ih]
    congr 1
    apply String.ext
    simp [String.singleton]

/-- Joining one-character pieces spells their characters. -/
theorem joinPieces_chars (cs : List Char) :
    joinPieces (cs.map fun c => .str (.singleton c)) = .ok (String.mk cs) := by
  simpa using foldlM_join_chars cs ""

/-- The query is the characters of the rendering, one per piece. -/
theorem query_eq (t : Term) :
    ∃ cs : List Char, (composeTerm t).items = cs.map (fun c => .str (.singleton c)) ∧
      query t = .ok (String.mk cs) := by
  obtain ⟨cs, hcs⟩ := chars_composeTerm t
  exact ⟨cs, hcs, by rw [query, hcs, joinPieces_chars]⟩

/-- With no frame, the caret line marks every character of the query. -/
theorem carets_nil_mask {t : Term} {q : String} (hq : query t = .ok q) :
    carets t [] = (.ok (String.mk (List.replicate q.length '^')), []) := by
  obtain ⟨cs, hcs, hquery⟩ := query_eq t
  rw [hquery] at hq
  cases hq
  obtain ⟨opening, sep, closing, args, kwargs⟩ := t
  have hmap : (cs.map fun c => PObj.str (.singleton c)).map (fun _ => PObj.str "^") =
      (List.replicate cs.length '^').map fun c => .str (.singleton c) := by
    simp only [List.map_map, List.map_replicate, Function.comp_def, List.map_const']
    rfl
  simp only [carets, caretsCall, hcs, bind, StateT.bind, pure, StateT.pure, hmap]
  exact congrArg (·, []) (joinPieces_chars _)

/-! ## The caret line of a call with frames -/

/-- A bound computation of the state monad, run on a state. -/
theorem stateM_bind_apply {σ α β : Type} (x : StateM σ α) (f : α → StateM σ β) (s : σ) :
    (x >>= f) s = f (x s).1 (x s).2 := rfl

theorem stateM_pure_apply {σ α : Type} (a : α) (s : σ) : (pure a : StateM σ α) s = (a, s) :=
  rfl

theorem length_caretsArgs (f : Frame) (i : Nat) (as : List Term) (frames : List Frame) :
    (caretsArgs f i as frames).1.length = as.length := by
  induction as generalizing i frames with
  | nil => rfl
  | cons a as ih =>
    rw [caretsArgs]
    split <;> simp only [stateM_bind_apply, stateM_pure_apply, List.length_cons, ih]

theorem length_items_str (s : String) : (PObj.str s).items.length = s.length := by
  simp only [PObj.items, List.length_map]
  rfl

theorem items_iter (xs : List PObj) : (PObj.iter xs).items = xs := rfl

/-- Joining a piece per character spells those characters. -/
theorem joinPieces_map_ite {α : Type} (xs : List α) (p : α → Bool) :
    joinPieces (xs.map fun x => .str (if p x then "^" else " ")) =
      .ok (String.mk (xs.map fun x => if p x then '^' else ' ')) := by
  rw [← joinPieces_chars, List.map_map]
  congr 2
  funext x
  by_cases h : p x <;> simp only [h, Function.comp, if_true, if_false] <;> rfl

/-- A call of `__compose_carets` with a frame left pops it and returns its generator. -/
theorem caretsCall_cons (opening sep closing : String) (args : List Term)
    (kwargs : List (String × Term)) (f : Frame) (rest : List Frame) :
    caretsCall (.call opening sep closing args kwargs) (f :: rest) =
      (.carets (.call opening sep closing args kwargs) f, (caretsKwargs f kwargs rest).2) := rfl

/-- With a frame left, the caret line has one position for each positional and each keyword
    argument, however long their text. -/
theorem carets_cons_length (opening sep closing : String) (args : List Term)
    (kwargs : List (String × Term)) (f : Frame) (rest : List Frame) :
    ∃ line, (carets (.call opening sep closing args kwargs) (f :: rest)).1 = .ok line ∧
      line.length = opening.length + args.length + sep.length + kwargs.length + closing.length := by
  simp only [carets, caretsCall_cons, runCarets, stateM_bind_apply, stateM_pure_apply,
    joinPieces_map_ite]
  refine ⟨_, rfl, ?_⟩
  simp only [String.length_mk, List.length_map, callCompose, enhancedTuple,
    List.flatMap_cons, List.flatMap_nil, List.append_nil, List.length_append, length_items_str,
    items_iter, List.map_nil, length_caretsArgs, String.length_empty]
  omega

/-! ## Which frames a run pops -/

theorem caretsCall_nil (t : Term) : (caretsCall t []).2 = [] := by
  obtain ⟨_, _, _, _, _⟩ := t
  rfl

theorem caretsKwargs_nil (f : Frame) (kvs : List (String × Term)) :
    (caretsKwargs f kvs []).2 = [] := by
  induction kvs with
  | nil => rfl
  | cons kv kvs ih =>
    obtain ⟨k, v⟩ := kv
    by_cases hf : f = .opt k
    · have hv := caretsCall_nil v
      simp only [caretsKwargs, hf, if_true, bind, StateT.bind, pure, StateT.pure] at hv ih ⊢
      rw [show caretsCall v [] = ((caretsCall v []).1, []) from Prod.ext rfl hv]
      exact ih
    · simp only [caretsKwargs, hf, if_false, bind, StateT.bind, pure, StateT.pure] at ih ⊢
      exact ih

theorem caretsArgs_nil (f : Frame) (i : Nat) (as : List Term) :
    (caretsArgs f i as []).2 = [] := by
  induction as generalizing i with
  | nil => rfl
  | cons a as ih =>
    by_cases hf : f = .pos i
    · have ha := caretsCall_nil a
      simp only [caretsArgs, hf, if_true, bind, StateT.bind, pure, StateT.pure] at ih ⊢
      rw [show caretsCall a [] = ((caretsCall a []).1, []) from Prod.ext rfl ha]
      exact ih (i + 1)
    · simp only [caretsArgs, hf, if_false, bind, StateT.bind, pure, StateT.pure]
      exact ih (i + 1)

/-- A run on a one-frame path leaves the frames empty. -/
theorem carets_single_frame_empties (t : Term) (f : Frame) : (carets t [f]).2 = [] := by
  obtain ⟨opening, sep, closing, args, kwargs⟩ := t
  have hk := caretsKwargs_nil f kwargs
  have ha := caretsArgs_nil f 0 args
  rcases hkw : caretsKwargs f kwargs [] with ⟨kwObjs, frames⟩
  rcases harg : caretsArgs f 0 args [] with ⟨argObjs, frames'⟩
  rw [hkw] at hk
  rw [harg] at ha
  subst hk ha
  simp only [carets, caretsCall, runCarets, bind, StateT.bind, pure, StateT.pure, hkw, harg]

/-- For every term and every frame addressing one of its arguments, the second run of
    `carets` marks the whole query, whatever the first marked. -/
theorem carets_second_run_marks_all {t : Term} {q : String} (hq : query t = .ok q) (f : Frame) :
    (carets t (carets t [f]).2).1 = .ok (String.mk (List.replicate q.length '^')) := by
  rw [carets_single_frame_empties, carets_nil_mask hq]

end QueryPrinter

/-- `ReqlError("Error.", f(ab, c), [1])`: the first `str` shows seven spaces under the
    eight characters of the query, and the second eight carets. -/
theorem reqlErrorStr_second_call_differs :
    let root : QueryPrinter.Term := .call "f(" ", " ")"
      [.call "ab" "" "" [] [], .call "c" "" "" [] []] []
    reqlErrorStr "Error." root [.pos 1] = (.ok "Error in:\nf(ab, c)\n       ", []) ∧
      reqlErrorStr "Error." root [] = (.ok "Error in:\nf(ab, c)\n^^^^^^^^", []) := by
  constructor <;> rfl

end RethinkDriver

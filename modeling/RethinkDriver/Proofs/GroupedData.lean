import RethinkDriver.Decoder

/-!
# Grouped data keeps one entry per class of equal keys

`convert_grouped_data` (`json_decoder.py:71-85`) turns the `[key, value]` pairs of a
`GROUPED_DATA` object into a `dict`. The `dict` compares its keys with Python's `==`, under
which JSON values that JSON keeps apart are one key: `true` and `1`, `1` and `1.0`, and so
`[true]` and `[1]` once `make_hashable` has made them tuples. A pair whose key is `==` to
an earlier key overwrites that entry's value, and the entry keeps the earlier key.

So the result has one entry per pair, each key mapped to its pair's value, exactly when no
two keys are `==` after `make_hashable`; in every case its keys are pairwise unequal, every
pair's key finds an entry, and each entry has the key of the first pair whose key finds it
and the value of the last (`pairwise_insertAll`, `found_insertAll`, `grouped_insertAll`).
Keys of different JSON values can merge: `[[true, "a"], [1, "b"]]` gives one entry.
-/

namespace RethinkDriver

open PyValue

/-- Two keys a `dict` keeps apart. -/
abbrev KeysApart (a b : PyValue) : Prop := a.pyEq b = false

/-! ## Keys made hashable -/

mutual
theorem hashable_makeHashable : ∀ {v : PyValue}, v.isJson → (makeHashable v).hashable
  | .none, _ | .bool _, _ | .int _, _ | .float _, _ | .str _, _ | .dict _, _ => rfl
  | .list _, h => hashableAll_makeHashableList h
theorem hashableAll_makeHashableList : ∀ {xs : List PyValue}, isJsonList xs →
    hashableAll (makeHashableList xs)
  | [], _ => rfl
  | _ :: _, h =>
    let ⟨hx, hxs⟩ := Bool.and_eq_true_iff.mp h
    Bool.and_eq_true_iff.mpr ⟨hashable_makeHashable hx, hashableAll_makeHashableList hxs⟩
end

theorem pyEq_eqInt_self (a : Bool) : (bool a).eqInt (if a then 1 else 0) := by
  cases a <;> rfl

theorem subsetEq_of_mem {xs ys : List PyValue} (hrefl : ∀ x ∈ xs, pyEq x x)
    (hmem : ∀ x ∈ xs, x ∈ ys) : subsetEq xs ys := by
  induction xs with
  | nil => rfl
  | cons x xs ih =>
    simp only [subsetEq, Bool.and_eq_true, List.any_eq_true]
    exact ⟨⟨x, hmem x (.head _), hrefl x (.head _)⟩,
      ih (fun y hy => hrefl y (.tail _ hy)) fun y hy => hmem y (.tail _ hy)⟩

-- These proofs unfold `pyEq` definitionally: its equation lemmas, over overlapping
-- patterns, are slow to generate.

mutual
/-- A key made from JSON is `==` to itself. -/
theorem pyEq_makeHashable_self : ∀ {v : PyValue}, v.isJson →
    pyEq (makeHashable v) (makeHashable v)
  | .none, _ | .float .nan, _ => rfl
  | .bool a, _ => pyEq_eqInt_self a
  | .int _, _ | .str _, _ | .float (.finite _ _), _ | .float (.inf _), _ => decide_eq_true rfl
  | .list _, h => pyEqList_makeHashableList_self h
  | .dict _, h => Bool.and_eq_true_iff.mpr
    ⟨decide_eq_true rfl, subsetEq_of_mem (pyEq_makeHashableEntries_self h) fun _ hx => hx⟩
theorem pyEqList_makeHashableList_self : ∀ {xs : List PyValue}, isJsonList xs →
    pyEqList (makeHashableList xs) (makeHashableList xs)
  | [], _ => rfl
  | _ :: _, h =>
    let ⟨hx, hxs⟩ := Bool.and_eq_true_iff.mp h
    Bool.and_eq_true_iff.mpr ⟨pyEq_makeHashable_self hx, pyEqList_makeHashableList_self hxs⟩
theorem pyEq_makeHashableEntries_self : ∀ {es : List (PyValue × PyValue)}, isJsonEntries es →
    ∀ x ∈ makeHashableEntries es, pyEq x x
  | [], _ => fun _ hx => absurd hx (List.not_mem_nil _)
  | (.str _, _) :: _, h =>
    let ⟨hv, hes⟩ := Bool.and_eq_true_iff.mp h
    List.forall_mem_cons.mpr ⟨Bool.and_eq_true_iff.mpr ⟨decide_eq_true rfl,
      Bool.and_eq_true_iff.mpr ⟨pyEq_makeHashable_self hv, rfl⟩⟩,
      pyEq_makeHashableEntries_self hes⟩
  | (.none, _) :: _, h | (.bool _, _) :: _, h | (.int _, _) :: _, h | (.float _, _) :: _, h
  | (.bytes _, _) :: _, h | (.list _, _) :: _, h | (.tuple _, _) :: _, h
  | (.dict _, _) :: _, h | (.frozenset _, _) :: _, h | (.object _, _) :: _, h => nomatch h
end

/-! ## One assignment of the comprehension -/

theorem dictInsert_of_apart {k v : PyValue} :
    ∀ {es : List (PyValue × PyValue)}, (∀ e ∈ es, KeysApart e.1 k) →
      dictInsert k v es = es ++ [(k, v)]
  | [], _ => rfl
  | e :: es, h => by
    simp only [KeysApart, List.mem_cons, forall_eq_or_imp] at h
    simp [dictInsert, h.1, dictInsert_of_apart h.2]

/-- When a key is `==` to `k`, the keys stay as they were. -/
theorem keys_dictInsert_of_eq {k v : PyValue} :
    ∀ {es : List (PyValue × PyValue)}, (∃ e ∈ es, e.1.pyEq k) →
      (dictInsert k v es).map Prod.fst = es.map Prod.fst
  | [], ⟨_, he, _⟩ => absurd he (List.not_mem_nil _)
  | e :: es, ⟨e', he', hk⟩ => by
    by_cases h : e.1.pyEq k
    · simp [dictInsert, h]
    · rcases List.mem_cons.mp he' with rfl | he'
      · exact absurd hk h
      · simp [dictInsert, h, keys_dictInsert_of_eq ⟨e', he', hk⟩]

theorem keys_dictInsert (k v : PyValue) (es : List (PyValue × PyValue)) :
    (∃ e ∈ es, e.1.pyEq k) ∧ (dictInsert k v es).map Prod.fst = es.map Prod.fst ∨
      (∀ e ∈ es, KeysApart e.1 k) ∧ dictInsert k v es = es ++ [(k, v)] := by
  by_cases h : ∃ e ∈ es, e.1.pyEq k
  · exact .inl ⟨h, keys_dictInsert_of_eq h⟩
  · have hapart : ∀ e ∈ es, KeysApart e.1 k := fun e he => by
      simpa [KeysApart] using fun hk => h ⟨e, he, hk⟩
    exact .inr ⟨hapart, dictInsert_of_apart hapart⟩

/-- The keys of the `dict` stay pairwise apart. -/
theorem pairwise_dictInsert {k v : PyValue} {es : List (PyValue × PyValue)}
    (h : (es.map Prod.fst).Pairwise KeysApart) :
    ((dictInsert k v es).map Prod.fst).Pairwise KeysApart := by
  rcases keys_dictInsert k v es with ⟨-, hkeys⟩ | ⟨hapart, hins⟩
  · rwa [hkeys]
  · rw [hins, List.map_append, List.pairwise_append]
    exact ⟨h, List.pairwise_singleton _ _, by simpa using hapart⟩

/-- A key that finds an entry still finds one afterwards. -/
theorem found_dictInsert {k v x : PyValue} {es : List (PyValue × PyValue)}
    (h : ∃ e ∈ es, e.1.pyEq x) : ∃ e ∈ dictInsert k v es, e.1.pyEq x := by
  obtain ⟨e, he, hx⟩ := h
  have hkey : e.1 ∈ (dictInsert k v es).map Prod.fst := by
    rcases keys_dictInsert k v es with ⟨-, hkeys⟩ | ⟨-, hins⟩
    · exact hkeys ▸ List.mem_map_of_mem _ he
    · simp only [hins, List.map_append, List.mem_append]
      exact .inl (List.mem_map_of_mem _ he)
  obtain ⟨e', he', hfst⟩ := List.mem_map.mp hkey
  exact ⟨e', he', hfst ▸ hx⟩

/-- The inserted key finds an entry, if it is `==` to itself. -/
theorem found_dictInsert_self {k v : PyValue} (es : List (PyValue × PyValue)) (hk : k.pyEq k) :
    ∃ e ∈ dictInsert k v es, e.1.pyEq k := by
  rcases keys_dictInsert k v es with ⟨h, -⟩ | ⟨-, hins⟩
  · exact found_dictInsert h
  · exact ⟨(k, v), by simp [hins], hk⟩

/-! ## The whole comprehension -/

/-- The `dict` the comprehension builds from `pairs`, already unpacked and made hashable. -/
def insertAll (acc pairs : List (PyValue × PyValue)) : List (PyValue × PyValue) :=
  pairs.foldl (fun es p => dictInsert p.1 p.2 es) acc

theorem length_insertAll_le (acc pairs : List (PyValue × PyValue)) :
    (insertAll acc pairs).length ≤ acc.length + pairs.length := by
  induction pairs generalizing acc with
  | nil => simp [insertAll]
  | cons p ps ih =>
    have := ih (dictInsert p.1 p.2 acc)
    have hstep : (dictInsert p.1 p.2 acc).length ≤ acc.length + 1 := by
      rcases keys_dictInsert p.1 p.2 acc with ⟨-, hkeys⟩ | ⟨-, hins⟩
      · have := congrArg List.length hkeys
        simp only [List.length_map] at this
        omega
      · simp [hins]
    simp only [insertAll, List.foldl_cons, List.length_cons] at this ⊢
    omega

theorem pairwise_insertAll {acc : List (PyValue × PyValue)}
    (h : (acc.map Prod.fst).Pairwise KeysApart) (pairs : List (PyValue × PyValue)) :
    ((insertAll acc pairs).map Prod.fst).Pairwise KeysApart := by
  induction pairs generalizing acc with
  | nil => exact h
  | cons p ps ih => exact ih (pairwise_dictInsert h)

theorem found_insertAll {acc pairs : List (PyValue × PyValue)}
    (hrefl : ∀ p ∈ pairs, p.1.pyEq p.1) {x : PyValue}
    (hx : (∃ e ∈ acc, e.1.pyEq x) ∨ ∃ p ∈ pairs, p.1 = x) :
    ∃ e ∈ insertAll acc pairs, e.1.pyEq x := by
  induction pairs generalizing acc with
  | nil => simpa using hx
  | cons p ps ih =>
    refine ih (fun q hq => hrefl q (.tail _ hq)) ?_
    rcases hx with hacc | ⟨q, hq, rfl⟩
    · exact .inl (found_dictInsert hacc)
    · rcases List.mem_cons.mp hq with rfl | hq
      · exact .inl (found_dictInsert_self acc (hrefl q (.head _)))
      · exact .inr ⟨q, hq, rfl⟩

/-- Nothing merges exactly when all the keys are pairwise apart. -/
theorem insertAll_eq_append_iff {acc : List (PyValue × PyValue)}
    (h : (acc.map Prod.fst).Pairwise KeysApart) (pairs : List (PyValue × PyValue)) :
    insertAll acc pairs = acc ++ pairs ↔ ((acc ++ pairs).map Prod.fst).Pairwise KeysApart := by
  induction pairs generalizing acc with
  | nil => simpa [insertAll] using h
  | cons p ps ih =>
    rcases keys_dictInsert p.1 p.2 acc with ⟨⟨e, he, hk⟩, hkeys⟩ | ⟨hapart, hins⟩
    · -- `p` merges into `e`: one entry too few, and two keys are `==`
      have hlen := length_insertAll_le (dictInsert p.1 p.2 acc) ps
      rw [← List.length_map (dictInsert p.1 p.2 acc) Prod.fst, hkeys, List.length_map] at hlen
      constructor
      · intro heq
        have := congrArg List.length heq
        simp only [insertAll, List.foldl_cons, List.length_append, List.length_cons] at this hlen
        omega
      · intro hpw
        simp only [List.map_append, List.map_cons, List.pairwise_append, List.mem_cons,
          List.mem_map] at hpw
        exact absurd hk (by simpa [KeysApart] using hpw.2.2 e.1 ⟨e, he, rfl⟩ p.1 (.inl rfl))
    · have hpw : ((acc ++ [p]).map Prod.fst).Pairwise KeysApart := by
        rw [List.map_append, List.pairwise_append]
        exact ⟨h, List.pairwise_singleton _ _, by simpa using hapart⟩
      have := ih hpw
      simp only [insertAll, List.foldl_cons, List.append_assoc, List.singleton_append] at this ⊢
      rwa [hins]

/-! ## Earlier key, later value -/

/-- The position of the entry `d[k]` finds while the `dict` is built: the first whose key is
    `==` to `k`, or the end. -/
def dictSlot (k : PyValue) : List (PyValue × PyValue) → Nat
  | [] => 0
  | e :: es => if e.1.pyEq k then 0 else dictSlot k es + 1

/-- The pairs whose key finds the entry at position `t` of `entries`. -/
def finders (pairs entries : List (PyValue × PyValue)) (t : Nat) : List (PyValue × PyValue) :=
  pairs.filter fun p => dictSlot p.1 entries = t

theorem dictSlot_lt_iff {k : PyValue} :
    ∀ {es : List (PyValue × PyValue)}, dictSlot k es < es.length ↔ ∃ e ∈ es, e.1.pyEq k
  | [] => by simp [dictSlot]
  | e :: es => by
    by_cases he : e.1.pyEq k
    · simp only [dictSlot, if_pos he, List.length_cons, Nat.zero_lt_succ, true_iff]
      exact ⟨e, .head _, he⟩
    · simp [dictSlot, he, dictSlot_lt_iff]

/-- Where a key finds its entry depends on the keys alone. -/
theorem dictSlot_congr {k : PyValue} :
    ∀ {es fs : List (PyValue × PyValue)}, es.map Prod.fst = fs.map Prod.fst →
      dictSlot k es = dictSlot k fs
  | [], [], _ => rfl
  | e :: es, f :: fs, h => by
    simp only [List.map_cons, List.cons.injEq] at h
    simp only [dictSlot, h.1, dictSlot_congr h.2]
  | [], _ :: _, h | _ :: _, [], h => by simp at h

theorem dictSlot_append_of_lt {k : PyValue} (fs : List (PyValue × PyValue)) :
    ∀ {es : List (PyValue × PyValue)}, dictSlot k es < es.length →
      dictSlot k (es ++ fs) = dictSlot k es
  | [], h => absurd h (Nat.lt_irrefl 0)
  | e :: es, h => by
    rw [List.cons_append]
    by_cases he : e.1.pyEq k
    · simp only [dictSlot, if_pos he]
    · simp only [dictSlot, if_neg he, List.length_cons, Nat.add_lt_add_iff_right] at h ⊢
      rw [dictSlot_append_of_lt fs h]

/-- `d[k] = v` writes `v` into the entry `k` finds, which keeps its key, or appends
    `(k, v)` there. -/
theorem getElem?_dictInsert (k v : PyValue) :
    ∀ (es : List (PyValue × PyValue)) (t : Nat), (dictInsert k v es)[t]? =
      if t = dictSlot k es then some ((es[t]?.map Prod.fst).getD k, v) else es[t]?
  | [], 0 => rfl
  | [], t + 1 => by simp [dictInsert, dictSlot]
  | e :: es, 0 => by by_cases he : e.1.pyEq k <;> simp [dictInsert, dictSlot, he]
  | e :: es, t + 1 => by
    by_cases he : e.1.pyEq k
    · simp [dictInsert, dictSlot, he]
    · simp [dictInsert, dictSlot, he, getElem?_dictInsert k v es t]

/-- A key that found an entry finds the same one afterwards. -/
theorem dictSlot_dictInsert_of_lt {k v x : PyValue} {es : List (PyValue × PyValue)}
    (hx : dictSlot x es < es.length) : dictSlot x (dictInsert k v es) = dictSlot x es := by
  rcases keys_dictInsert k v es with ⟨-, hkeys⟩ | ⟨-, hins⟩
  · exact dictSlot_congr hkeys
  · rw [hins, dictSlot_append_of_lt _ hx]

/-- A key no entry is `==` to finds the end. -/
theorem dictSlot_of_apart {k : PyValue} :
    ∀ {es : List (PyValue × PyValue)}, (∀ e ∈ es, KeysApart e.1 k) → dictSlot k es = es.length
  | [], _ => rfl
  | e :: es, h => by
    simp only [KeysApart, List.mem_cons, forall_eq_or_imp] at h
    simp [dictSlot, h.1, dictSlot_of_apart h.2]

/-- A key no entry is `==` to, appended, finds itself at the end. -/
theorem dictSlot_append_self {k v : PyValue} (hk : k.pyEq k) :
    ∀ {es : List (PyValue × PyValue)}, (∀ e ∈ es, KeysApart e.1 k) →
      dictSlot k (es ++ [(k, v)]) = es.length
  | [], _ => by simp [dictSlot, hk]
  | e :: es, h => by
    simp only [KeysApart, List.mem_cons, forall_eq_or_imp] at h
    simp [dictSlot, h.1, dictSlot_append_self hk h.2]

/-- The inserted key finds the entry it was written to. -/
theorem dictSlot_dictInsert_self {k v : PyValue} (hk : k.pyEq k)
    (es : List (PyValue × PyValue)) : dictSlot k (dictInsert k v es) = dictSlot k es := by
  rcases keys_dictInsert k v es with ⟨-, hkeys⟩ | ⟨hapart, hins⟩
  · exact dictSlot_congr hkeys
  · rw [hins, dictSlot_append_self hk hapart, dictSlot_of_apart hapart]

/-- Every entry is the key of the first pair that finds it, with the value of the last. -/
def Grouped (pairs entries : List (PyValue × PyValue)) : Prop :=
  (∀ p ∈ pairs, dictSlot p.1 entries < entries.length) ∧
    ∀ t e, entries[t]? = some e → ∃ q r, (finders pairs entries t).head? = some q ∧
      (finders pairs entries t).getLast? = some r ∧ e = (q.1, r.2)

theorem Grouped.insert {pairs entries : List (PyValue × PyValue)}
    (h : Grouped pairs entries) {k v : PyValue} (hk : k.pyEq k) :
    Grouped (pairs ++ [(k, v)]) (dictInsert k v entries) := by
  obtain ⟨hfound, hgroups⟩ := h
  have hslot : ∀ p ∈ pairs, dictSlot p.1 (dictInsert k v entries) = dictSlot p.1 entries :=
    fun p hp => dictSlot_dictInsert_of_lt (hfound p hp)
  have hfinders : ∀ t, finders (pairs ++ [(k, v)]) (dictInsert k v entries) t =
      finders pairs entries t ++ if dictSlot k entries = t then [(k, v)] else [] := by
    intro t
    rw [finders, List.filter_append, List.filter_congr fun p hp => by rw [hslot p hp]]
    simp only [List.filter_cons, List.filter_nil, dictSlot_dictInsert_self hk, decide_eq_true_eq]
    rfl
  refine ⟨fun p hp => ?_, fun t e he => ?_⟩
  · rcases List.mem_append.mp hp with hp | hp
    · exact dictSlot_lt_iff.mpr (found_dictInsert (dictSlot_lt_iff.mp (hfound p hp)))
    · rw [List.mem_singleton.mp hp]
      exact dictSlot_lt_iff.mpr (found_dictInsert_self entries hk)
  rw [getElem?_dictInsert] at he
  rw [hfinders t]
  split_ifs at he with ht
  · rw [if_pos ht.symm]
    cases he
    cases hold : entries[t]? with
    | none =>
      have hnone : finders pairs entries t = [] := List.filter_eq_nil_iff.mpr fun p hp => by
        have := hfound p hp
        have : entries.length ≤ t := List.getElem?_eq_none_iff.mp hold
        simp only [decide_eq_true_eq]
        omega
      exact ⟨(k, v), (k, v), by simp [hnone], by simp [hnone], rfl⟩
    | some e₀ =>
      obtain ⟨q, r, hq, hr, rfl⟩ := hgroups t e₀ hold
      exact ⟨q, (k, v), by simp [List.head?_append, hq], by simp, rfl⟩
  · rw [if_neg (Ne.symm ht), List.append_nil]
    exact hgroups t e he

/-- The `dict` the comprehension builds from pairs with keys `==` to themselves: every pair's
    key finds an entry, and every entry has the key of the first pair that finds it and the
    value of the last. -/
theorem grouped_insertAll {pairs : List (PyValue × PyValue)}
    (hrefl : ∀ p ∈ pairs, p.1.pyEq p.1) : Grouped pairs (insertAll [] pairs) := by
  induction pairs using List.reverseRecOn with
  | nil => exact ⟨nofun, fun t e he => by simp [insertAll] at he⟩
  | append_singleton ps p ih =>
    rw [insertAll, List.foldl_append]
    exact (ih fun q hq => hrefl q (List.mem_append_left _ hq)).insert
      (hrefl p (List.mem_append_right _ (List.mem_singleton_self p)))

/-! ## `convert_grouped_data` -/

theorem groupStep_pair {acc : List (PyValue × PyValue)} {k v : PyValue}
    (hk : (makeHashable k).hashable) :
    groupStep acc (.list [k, v]) = .ok (dictInsert (makeHashable k) v acc) := by
  simp [groupStep, unpack2, PyValue.iter, hk, bind, Except.bind, pure, Except.pure]

theorem foldlM_groupStep {pairs acc : List (PyValue × PyValue)}
    (hkeys : ∀ p ∈ pairs, (makeHashable p.1).hashable) :
    (pairs.map fun p => PyValue.list [p.1, p.2]).foldlM groupStep acc =
      .ok (insertAll acc (pairs.map fun p => (makeHashable p.1, p.2))) := by
  induction pairs generalizing acc with
  | nil => rfl
  | cons p ps ih =>
    simp only [List.map_cons, List.foldlM_cons, groupStep_pair (hkeys p (.head _))]
    exact ih fun q hq => hkeys q (.tail _ hq)

/-- The `dict` for pairs with JSON keys: the comprehension over the keys made hashable. -/
theorem convertGroupedData_pairs (dumps : PyValue → Except PyExc String)
    {obj pairs : List (PyValue × PyValue)}
    (hdata : PyValue.lookupStr obj "data" = some (.list (pairs.map fun p => .list [p.1, p.2])))
    (hkeys : ∀ p ∈ pairs, p.1.isJson) :
    convertGroupedData dumps obj =
      .ok (.dict (insertAll [] (pairs.map fun p => (makeHashable p.1, p.2)))) := by
  have hstep := @foldlM_groupStep pairs [] fun p hp => hashable_makeHashable (hkeys p hp)
  simp only [convertGroupedData, hdata, PyValue.iter, bind, Except.bind, hstep]
  rfl

/-- For every `GROUPED_DATA` object whose data is a list of `[key, value]` pairs with JSON
    keys, `convert_grouped_data` returns a `dict` whose keys are pairwise unequal and in
    which every pair's key, made hashable, finds an entry. Each entry has the key of the
    first pair whose key finds it and the value of the last: a later pair overwrites the
    value and the entry keeps the earlier key. It has one entry per pair, mapping the key
    made hashable to the pair's value, exactly when no two keys made hashable are `==`. -/
theorem convertGroupedData_one_entry_per_pair_iff (dumps : PyValue → Except PyExc String)
    {obj pairs : List (PyValue × PyValue)}
    (hdata : PyValue.lookupStr obj "data" = some (.list (pairs.map fun p => .list [p.1, p.2])))
    (hkeys : ∀ p ∈ pairs, p.1.isJson) :
    ∃ entries, convertGroupedData dumps obj = .ok (.dict entries) ∧
      (entries.map Prod.fst).Pairwise (fun a b => a.pyEq b = false) ∧
      (∀ p ∈ pairs, ∃ e ∈ entries, e.1.pyEq (makeHashable p.1)) ∧
      (∀ t e, entries[t]? = some e → ∃ q r,
        (finders (pairs.map fun p => (makeHashable p.1, p.2)) entries t).head? = some q ∧
        (finders (pairs.map fun p => (makeHashable p.1, p.2)) entries t).getLast? = some r ∧
        e = (q.1, r.2)) ∧
      (entries = pairs.map (fun p => (makeHashable p.1, p.2)) ↔
        (pairs.map fun p => makeHashable p.1).Pairwise fun a b => a.pyEq b = false) := by
  have hrefl : ∀ p ∈ pairs.map (fun p => (makeHashable p.1, p.2)), p.1.pyEq p.1 := by
    simp only [List.mem_map, forall_exists_index, and_imp]
    rintro _ q hq rfl
    exact pyEq_makeHashable_self (hkeys q hq)
  refine ⟨_, convertGroupedData_pairs dumps hdata hkeys, @pairwise_insertAll [] .nil _,
    fun p hp => found_insertAll hrefl (.inr ⟨_, List.mem_map_of_mem _ hp, rfl⟩),
    (grouped_insertAll hrefl).2, ?_⟩
  simpa [Function.comp_def] using @insertAll_eq_append_iff [] .nil
    (pairs.map fun p => (makeHashable p.1, p.2))

theorem convertGroupedData_one_entry_per_pair_iff_apart :
    (∀ p ∈ [(PyValue.list [.str "a"], PyValue.int 1), (.list [.str "b"], .int 2)],
        p.1.isJson) ∧
      ∃ entries, convertGroupedData (fun _ => .ok "") [(.str "data", .list
        [.list [.list [.str "a"], .int 1], .list [.list [.str "b"], .int 2]])] =
          .ok (.dict entries) ∧
      (entries.map Prod.fst).Pairwise (fun a b => a.pyEq b = false) ∧
      (∀ p ∈ [(PyValue.list [.str "a"], PyValue.int 1), (.list [.str "b"], .int 2)],
        ∃ e ∈ entries, e.1.pyEq (makeHashable p.1)) ∧
      (∀ t e, entries[t]? = some e → ∃ q r,
        (finders ([(PyValue.list [.str "a"], PyValue.int 1), (.list [.str "b"], .int 2)].map
          fun p => (makeHashable p.1, p.2)) entries t).head? = some q ∧
        (finders ([(PyValue.list [.str "a"], PyValue.int 1), (.list [.str "b"], .int 2)].map
          fun p => (makeHashable p.1, p.2)) entries t).getLast? = some r ∧
        e = (q.1, r.2)) ∧
      (entries = [(PyValue.list [.str "a"], PyValue.int 1), (.list [.str "b"], .int 2)].map
          (fun p => (makeHashable p.1, p.2)) ↔
        ([(PyValue.list [.str "a"], PyValue.int 1), (.list [.str "b"], .int 2)].map
          fun p => makeHashable p.1).Pairwise fun a b => a.pyEq b = false) :=
  ⟨by decide, convertGroupedData_one_entry_per_pair_iff _ rfl (by decide)⟩

/-- Keys `true` and `1`, different JSON values, are one `dict` key: the second pair
    overwrites the first group's value, under the first key. -/
theorem convertGroupedData_merges_true_and_one :
    convertGroupedData (fun _ => .ok "")
        [(.str "data", .list [.list [.bool true, .str "a"], .list [.int 1, .str "b"]])] =
      .ok (.dict [(.bool true, .str "b")]) := rfl

end RethinkDriver

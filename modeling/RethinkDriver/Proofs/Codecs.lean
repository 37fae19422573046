import RethinkDriver.Reference

/-!
# The text codecs read back what they write

The handshake carries its messages as JSON text whose strings are ASCII, and its binary
values (the nonce, the salt, the proof, the signature) in base64. This module proves what the
agreement of the two parties rests on: ASCII text survives UTF-8 and ASCII coding, the
reference JSON reader reads back every flat document the encoder writes
(`JsonCodec.reference_roundTrips`), `int()` reads back a decimal numeral, and base64 decoding
inverts encoding, whose digits are ASCII and never a comma.
-/

namespace RethinkDriver

/-! ## ASCII text -/

/-- Every character of `cs` is ASCII. -/
def IsAscii (cs : List Char) : Prop := ∀ c ∈ cs, c.toNat < 128

instance (cs : List Char) : Decidable (IsAscii cs) :=
  inferInstanceAs (Decidable (∀ c ∈ cs, c.toNat < 128))

/-- The bytes of ASCII text, one per character. -/
def asciiBytes (cs : List Char) : Bytes := cs.map fun c => UInt8.ofNat c.toNat

@[simp] theorem asciiBytes_append (a b : List Char) :
    asciiBytes (a ++ b) = asciiBytes a ++ asciiBytes b := List.map_append _ _ _

theorem IsAscii.append {a b : List Char} (ha : IsAscii a) (hb : IsAscii b) : IsAscii (a ++ b) :=
  fun c hc => (List.mem_append.mp hc).elim (ha c) (hb c)

theorem utf8EncodeChar_ascii {c : Char} (h : c.toNat < 128) :
    String.utf8EncodeChar c = [UInt8.ofNat c.toNat] := by
  have hc : c.val ≤ 0x7f := by rw [UInt32.le_def, BitVec.le_def]; exact Nat.lt_succ_iff.mp h
  simp only [String.utf8EncodeChar, hc, if_true]
  rfl

theorem ofNat_asciiByte {c : Char} (h : c.toNat < 128) :
    Char.ofNat (UInt8.ofNat c.toNat).toNat = c := by
  rw [UInt8.toNat_ofNat_of_lt (by simp only [UInt8.size]; omega), Char.ofNat_toNat]

theorem asciiByte_lt {c : Char} (h : c.toNat < 128) : (UInt8.ofNat c.toNat).toNat < 128 := by
  rwa [UInt8.toNat_ofNat_of_lt (by simp only [UInt8.size]; omega)]

/-- UTF-8 writes ASCII text one byte per character. -/
theorem utf8Encode_ascii {s : String} (h : IsAscii s.data) : utf8Encode s = asciiBytes s.data := by
  obtain ⟨cs⟩ := s
  simp only [utf8Encode, String.toUTF8, asciiBytes]
  induction cs with
  | nil => rfl
  | cons c cs ih =>
    rw [List.flatMap_cons, utf8EncodeChar_ascii (h c (.head _)), List.map_cons,
      List.singleton_append, ih fun c hc => h c (.tail _ hc)]

theorem asciiDecode_asciiBytes {cs : List Char} (h : IsAscii cs) :
    asciiDecode (asciiBytes cs) = .ok cs := by
  induction cs with
  | nil => rfl
  | cons c cs ih =>
    simp only [asciiBytes, List.map_cons, asciiDecode, asciiByte_lt (h c (.head _)), if_true]
    rw [show cs.map _ = asciiBytes cs from rfl, ih fun c hc => h c (.tail _ hc),
      ofNat_asciiByte (h c (.head _))]
    rfl

theorem latin1Encode_ascii {cs : List Char} (h : IsAscii cs) :
    latin1Encode cs = .ok (asciiBytes cs) := by
  induction cs with
  | nil => rfl
  | cons c cs ih =>
    simp only [latin1Encode, show c.toNat < 256 by have := h c (.head _); omega, if_true,
      ih fun c hc => h c (.tail _ hc)]
    rfl

theorem asciiEncode_ascii {cs : List Char} (h : IsAscii cs) :
    asciiEncode cs = .ok (asciiBytes cs) := by
  induction cs with
  | nil => rfl
  | cons c cs ih =>
    simp only [asciiEncode, h c (.head _), if_true, ih fun c hc => h c (.tail _ hc)]
    rfl

/-! ## Decimal numerals -/

/-- One digit of a decimal numeral read into the value so far. -/
def digitStep (acc : Nat) (c : Char) : Nat := 10 * acc + (c.toNat - 48)

theorem digitChar_digit : ∀ d < 10, (Nat.digitChar d).isDigit ∧ (Nat.digitChar d).toNat - 48 = d := by
  decide

theorem toDigitsCore_append (f n : Nat) (ds : List Char) :
    Nat.toDigitsCore 10 f n ds = Nat.toDigitsCore 10 f n [] ++ ds := by
  induction f generalizing n ds with
  | zero => rfl
  | succ f ih =>
    simp only [Nat.toDigitsCore]
    split_ifs
    · rfl
    · rw [ih _ (_ :: ds), ih _ [_], List.append_assoc, List.singleton_append]

/-- `Nat.toDigits` writes digits only, and they read back to the number. -/
theorem toDigitsCore_digits : ∀ f n, n < f →
    (∀ c ∈ Nat.toDigitsCore 10 f n [], c.isDigit) ∧
      (Nat.toDigitsCore 10 f n []).foldl digitStep 0 = n
  | 0, _, h => absurd h (Nat.not_lt_zero _)
  | f + 1, n, h => by
    have hd := digitChar_digit (n % 10) (Nat.mod_lt _ (by decide))
    simp only [Nat.toDigitsCore]
    split_ifs with h0
    · refine ⟨by simpa using hd.1, ?_⟩
      simp only [List.foldl, digitStep, hd.2]
      omega
    · obtain ⟨hdig, hval⟩ := toDigitsCore_digits f (n / 10) (by omega)
      rw [toDigitsCore_append, List.foldl_append, hval]
      refine ⟨fun c hc => ?_, ?_⟩
      · rcases List.mem_append.mp hc with hc | hc
        · exact hdig c hc
        · simpa [List.mem_singleton.mp hc] using hd.1
      · simp only [List.foldl, digitStep, hd.2]
        omega

theorem toDigits_digits (n : Nat) :
    (∀ c ∈ Nat.toDigits 10 n, c.isDigit) ∧ (Nat.toDigits 10 n).foldl digitStep 0 = n :=
  toDigitsCore_digits (n + 1) n (Nat.lt_succ_self n)

theorem toDigits_ne_nil (n : Nat) : Nat.toDigits 10 n ≠ [] := by
  simp only [Nat.toDigits, Nat.toDigitsCore]
  split_ifs
  · simp
  · rw [toDigitsCore_append]; simp

theorem digitRun_digits {cs : List Char} (h : ∀ c ∈ cs, c.isDigit) (acc : Nat) :
    digitRun acc cs = some (cs.foldl digitStep acc) := by
  induction cs generalizing acc with
  | nil => rfl
  | cons c cs ih =>
    have hc := h c (.head _)
    have hne : c ≠ '_' := by rintro rfl; exact absurd hc (by decide)
    rw [digitRun.eq_def]
    split
    · contradiction
    · rename_i c' d cs' heq
      cases heq
      exact absurd rfl hne
    · rename_i c' cs' _ heq
      obtain ⟨rfl, rfl⟩ := List.cons.inj heq
      simp only [hc, if_true, List.foldl, ih (fun c hc' => h c (.tail _ hc'))]
      rfl

/-- `int()` reads back the numeral `Nat.toDigits` writes. -/
theorem digitsValue_toDigits (n : Nat) : digitsValue (Nat.toDigits 10 n) = some n := by
  obtain ⟨hdig, hval⟩ := toDigits_digits n
  have hne := toDigits_ne_nil n
  revert hdig hval hne
  cases Nat.toDigits 10 n with
  | nil => intro _ _ hne; exact absurd rfl hne
  | cons c cs =>
    intro hdig hval _
    simp only [digitsValue, hdig c (.head _), if_true,
      digitRun_digits (fun c hc => hdig c (.tail _ hc))]
    rw [← hval]
    simp [List.foldl, digitStep]

theorem isAsciiSpace_of_isDigit {c : Char} (h : c.isDigit) : isAsciiSpace c = false := by
  by_contra hs
  simp only [isAsciiSpace, Bool.not_eq_false, Bool.or_eq_true, decide_eq_true_eq] at hs
  rcases hs with ((((rfl | rfl) | rfl) | rfl) | rfl) | rfl <;> exact absurd h (by decide)

theorem dropWhile_space_digits {cs : List Char} (h : ∀ c ∈ cs, c.isDigit) :
    cs.dropWhile isAsciiSpace = cs := by
  cases cs with
  | nil => rfl
  | cons c cs => simp [List.dropWhile, isAsciiSpace_of_isDigit (h c (.head _))]

theorem signedValue_digits {c : Char} {cs : List Char} (hc : c.isDigit) :
    signedValue (c :: cs) = (digitsValue (c :: cs)).map fun n => (n : Int) := by
  unfold signedValue
  split
  · rename_i heq; simp only [List.cons.injEq] at heq; exact absurd (heq.1 ▸ hc) (by decide)
  · rename_i heq; simp only [List.cons.injEq] at heq; exact absurd (heq.1 ▸ hc) (by decide)
  · rfl

/-- `int()` of a numeral `Nat.toDigits` writes is the number. -/
theorem parseIntLiteral_toDigits (n : Nat) : parseIntLiteral (Nat.toDigits 10 n) = .ok n := by
  have hdig := (toDigits_digits n).1
  have hval := digitsValue_toDigits n
  have hrev : ∀ c ∈ (Nat.toDigits 10 n).reverse, c.isDigit :=
    fun c hc => hdig c (List.mem_reverse.mp hc)
  simp only [parseIntLiteral, dropWhile_space_digits hdig, dropWhile_space_digits hrev,
    List.reverse_reverse]
  revert hdig hval
  cases Nat.toDigits 10 n with
  | nil => intro _ hval; cases hval
  | cons c cs =>
    intro hdig hval
    rw [signedValue_digits (hdig c (.head _)), hval]
    rfl

/-- `str()` of an integer writes digits and a sign. -/
theorem toString_int_chars (i : Int) : ∀ c ∈ (toString i).data, c.isDigit ∨ c = '-' := by
  cases i with
  | ofNat n => exact fun c hc => .inl ((toDigits_digits n).1 c hc)
  | negSucc m =>
    intro c hc
    rcases List.mem_cons.mp (show c ∈ '-' :: Nat.toDigits 10 (m + 1) from hc) with rfl | hc
    · exact .inr rfl
    · exact .inl ((toDigits_digits _).1 c hc)

/-- `int()` reads back every integer `str()` writes. -/
theorem parseIntLiteral_toString (i : Int) : parseIntLiteral (toString i).data = .ok i := by
  cases i with
  | ofNat n => exact parseIntLiteral_toDigits n
  | negSucc m =>
    show parseIntLiteral ('-' :: Nat.toDigits 10 (m + 1)) = _
    obtain ⟨hdig, -⟩ := toDigits_digits (m + 1)
    obtain ⟨d, ds, hds⟩ := List.exists_cons_of_ne_nil
      (List.reverse_ne_nil_iff.mpr (toDigits_ne_nil (m + 1)))
    have hd : isAsciiSpace d = false :=
      isAsciiSpace_of_isDigit (hdig d (List.mem_reverse.mp (hds ▸ List.mem_cons_self d ds)))
    have hrev : ('-' :: Nat.toDigits 10 (m + 1)).reverse = d :: (ds ++ ['-']) := by
      rw [List.reverse_cons, hds, List.cons_append]
    rw [parseIntLiteral, List.dropWhile_cons_of_neg (by decide), hrev,
      List.dropWhile_cons_of_neg (by simp [hd]), ← hrev, List.reverse_reverse]
    simp only [signedValue, digitsValue_toDigits]
    rfl

/-! ## JSON text -/

theorem data_join (l : List String) : (String.join l).data = l.flatMap String.data := by
  suffices h : ∀ s, (l.foldl (· ++ ·) s).data = s.data ++ l.flatMap String.data from
    (h "").trans (List.nil_append _)
  induction l with
  | nil => intro s; simp
  | cons a l ih => intro s; simp [List.foldl, ih, List.append_assoc]

theorem data_jsonString (s : String) :
    (jsonString s).data = '"' :: (s.data.flatMap (fun c => (jsonEscape c).data) ++ ['"']) := by
  simp [jsonString, data_join, List.flatMap_map]
  rfl

theorem bind_some_eq_map {α β : Type} (x : Option α) (f : α → β) :
    (x.bind fun a => some (f a)) = x.map f := by
  cases x <;> rfl

theorem hexValue_hexDigit : ∀ k < 16, hexValue (hexDigit k) = some k := by decide

/-- A two-character escape other than `\u` is read as the character it stands for. -/
theorem jsonReadString_backslash {e c : Char} (hu : e ≠ 'u') (he : jsonUnescape e = some c)
    (rest : List Char) :
    jsonReadString ('\\' :: e :: rest) = (jsonReadString rest).map fun p => (c :: p.1, p.2) := by
  rw [jsonReadString.eq_def]
  simp only [if_neg (by decide : '\\' ≠ '"'), if_true]
  split
  · rename_i heq
    exact absurd (List.cons.inj heq).1 hu
  · rename_i heq
    obtain ⟨rfl, rfl⟩ := List.cons.inj heq
    simp only [he]
    cases jsonReadString rest <;> rfl
  · rename_i heq
    cases heq

/-- What the encoder writes for one character: a two-character escape other than `\u`, a
    `\u00` escape of a control character, or the character itself. -/
theorem jsonEscape_cases (c : Char) :
    (∃ e, e ≠ 'u' ∧ jsonUnescape e = some c ∧ (jsonEscape c).data = ['\\', e]) ∨
    (c.toNat < 32 ∧ (jsonEscape c).data =
      ['\\', 'u', '0', '0', hexDigit (c.toNat / 16 % 16), hexDigit (c.toNat % 16)]) ∨
    (c ≠ '"' ∧ c ≠ '\\' ∧ ¬c.toNat < 32 ∧ (jsonEscape c).data = [c]) := by
  unfold jsonEscape
  by_cases h1 : c = '"'
  · exact .inl ⟨'"', by decide, by rw [h1]; rfl, by rw [if_pos h1]⟩
  rw [if_neg h1]
  by_cases h2 : c = '\\'
  · exact .inl ⟨'\\', by decide, by rw [h2]; rfl, by rw [if_pos h2]⟩
  rw [if_neg h2]
  by_cases h3 : c = '\n'
  · exact .inl ⟨'n', by decide, by rw [h3]; rfl, by rw [if_pos h3]⟩
  rw [if_neg h3]
  by_cases h4 : c = '\r'
  · exact .inl ⟨'r', by decide, by rw [h4]; rfl, by rw [if_pos h4]⟩
  rw [if_neg h4]
  by_cases h5 : c = '\t'
  · exact .inl ⟨'t', by decide, by rw [h5]; rfl, by rw [if_pos h5]⟩
  rw [if_neg h5]
  by_cases h6 : c = '\x08'
  · exact .inl ⟨'b', by decide, by rw [h6]; rfl, by rw [if_pos h6]⟩
  rw [if_neg h6]
  by_cases h7 : c = '\x0c'
  · exact .inl ⟨'f', by decide, by rw [h7]; rfl, by rw [if_pos h7]⟩
  rw [if_neg h7]
  by_cases h8 : c.toNat < 32
  · exact .inr (.inl ⟨h8, by rw [if_pos h8]; rfl⟩)
  · exact .inr (.inr ⟨h1, h2, h8, by rw [if_neg h8]; rfl⟩)

/-- The reader takes back each character the encoder escapes. -/
theorem jsonReadString_escape (c : Char) (rest : List Char) :
    jsonReadString ((jsonEscape c).data ++ rest) =
      (jsonReadString rest).map fun p => (c :: p.1, p.2) := by
  rcases jsonEscape_cases c with ⟨e, hu, he, hdata⟩ | ⟨h8, hdata⟩ | ⟨h1, h2, h8, hdata⟩
  · rw [hdata]
    exact jsonReadString_backslash hu he rest
  · have ha := hexValue_hexDigit (c.toNat / 16 % 16) (Nat.mod_lt _ (by decide))
    have hb := hexValue_hexDigit (c.toNat % 16) (Nat.mod_lt _ (by decide))
    have hv : 16 * (c.toNat / 16 % 16) + c.toNat % 16 = c.toNat := by omega
    have h0 : hexValue '0' = some 0 := rfl
    simp [hdata, jsonReadString, ha, hb, h0, bind_some_eq_map, List.foldlM_cons, hv,
      Char.ofNat_toNat]
  · rw [hdata, List.singleton_append, jsonReadString.eq_def]
    simp [h1, h2, h8]

/-- The reader takes back the body of every string literal the encoder writes. -/
theorem jsonReadString_escaped (cs rest : List Char) :
    jsonReadString (cs.flatMap (fun c => (jsonEscape c).data) ++ '"' :: rest) =
      some (cs, rest) := by
  induction cs with
  | nil => rw [jsonReadString.eq_def]; rfl
  | cons c cs ih => rw [List.flatMap_cons, List.append_assoc, jsonReadString_escape, ih]; rfl

theorem hexDigit_ascii : ∀ k < 16, (hexDigit k).toNat < 128 := by decide

theorem jsonEscape_ascii {c : Char} (h : c.toNat < 128) : IsAscii (jsonEscape c).data := by
  unfold jsonEscape
  repeat' refine iteInduction (motive := fun s : String => IsAscii s.data) (fun _ => ?_) fun _ => ?_
  all_goals beta_reduce
  any_goals decide
  · rw [String.data_append]
    refine IsAscii.append (by decide) fun d hd => ?_
    simp only [hex2, List.mem_cons, List.not_mem_nil, or_false] at hd
    rcases hd with rfl | rfl <;> exact hexDigit_ascii _ (Nat.mod_lt _ (by decide))
  · intro d hd
    rw [String.data_singleton, List.mem_singleton] at hd
    exact hd ▸ h

theorem jsonString_ascii {s : String} (h : IsAscii s.data) : IsAscii (jsonString s).data := by
  rw [data_jsonString]
  intro d hd
  simp only [List.mem_cons, List.mem_append, List.mem_flatMap, List.not_mem_nil, or_false] at hd
  rcases hd with rfl | ⟨c, hc, hd⟩ | rfl
  · decide
  · exact jsonEscape_ascii (h c hc) d hd
  · decide

theorem digit_ascii {c : Char} (h : c.isDigit) : c.toNat < 128 := by
  simp only [Char.isDigit, Bool.and_eq_true, decide_eq_true_eq] at h
  have h9 := h.2
  rw [UInt32.le_def, BitVec.le_def] at h9
  exact lt_of_le_of_lt h9 (by decide)

theorem takeWhile_digits {ds : List Char} (h : ∀ d ∈ ds, d.isDigit) {c : Char}
    (hc : ¬ c.isDigit) (rest : List Char) :
    (ds ++ c :: rest).takeWhile Char.isDigit = ds ∧
      (ds ++ c :: rest).dropWhile Char.isDigit = c :: rest := by
  induction ds with
  | nil => simp [List.takeWhile, List.dropWhile, hc]
  | cons d ds ih =>
    obtain ⟨ht, hd⟩ := ih fun d hd => h d (.tail _ hd)
    simp [List.takeWhile, List.dropWhile, h d (.head _), ht, hd]

/-- A scalar of the documents the handshake exchanges: ASCII text, a truth value or a natural
    number. -/
def FlatScalar : PyValue → Prop
  | .str s => IsAscii s.data
  | .bool _ => True
  | .int i => 0 ≤ i
  | _ => False

theorem jsonReadScalar_digit {d : Char} (hd : d.isDigit) (cs : List Char) :
    jsonReadScalar (d :: cs) = (digitsValue ((d :: cs).takeWhile Char.isDigit)).map fun n =>
      (.int (n : Int), (d :: cs).dropWhile Char.isDigit) := by
  simp only [Char.isDigit, Bool.and_eq_true, decide_eq_true_eq, UInt32.le_def, BitVec.le_def] at hd
  obtain ⟨h0, h9⟩ : 48 ≤ d.toNat ∧ d.toNat ≤ 57 := hd
  have hmap : ∀ (x : Option Nat) (r : List Char), (x.map fun n : Nat => (PyValue.int n, r)) =
      Option.map (fun n => (.int n, r)) (x >>= fun a => pure (a : Int)) := by
    intro x r; cases x <;> rfl
  -- each of the ten digits takes the reader's last branch
  rw [hmap, ← Char.ofNat_toNat d]
  generalize d.toNat = n at *
  interval_cases n <;> rfl

/-- The encoder writes every flat scalar as ASCII text, which the reader takes back up to the
    character after it. -/
theorem jsonReadScalar_encode {v : PyValue} (hv : FlatScalar v) :
    ∃ t, jsonEncode v = .ok t ∧ IsAscii t.data ∧ ∀ c, ¬ c.isDigit → ∀ rest,
      jsonReadScalar (t.data ++ c :: rest) = some (v, c :: rest) := by
  match v, hv with
  | .str s, hv =>
    refine ⟨_, rfl, jsonString_ascii hv, fun c _ rest => ?_⟩
    rw [data_jsonString, List.cons_append, List.append_assoc, List.singleton_append]
    show Option.map _ (jsonReadString _) = _
    rw [jsonReadString_escaped]
    rfl
  | .bool true, _ => exact ⟨_, rfl, by decide, fun _ _ _ => rfl⟩
  | .bool false, _ => exact ⟨_, rfl, by decide, fun _ _ _ => rfl⟩
  | .int i, hv =>
    obtain ⟨n, rfl⟩ := Int.eq_ofNat_of_zero_le hv
    obtain ⟨hdig, -⟩ := toDigits_digits n
    refine ⟨_, rfl, fun d hd => digit_ascii (hdig d hd), fun c hc rest => ?_⟩
    obtain ⟨ht, hd⟩ := takeWhile_digits hdig hc rest
    have hval := digitsValue_toDigits n
    obtain ⟨d, ds, hds⟩ := List.exists_cons_of_ne_nil (toDigits_ne_nil n)
    show jsonReadScalar (Nat.toDigits 10 n ++ c :: rest) = _
    rw [hds] at hdig ht hd hval ⊢
    rw [List.cons_append, jsonReadScalar_digit (hdig d (.head _)), ← List.cons_append, ht, hd,
      hval]
    rfl

/-- The text of one member, `"key":value`, as the reader meets it. -/
theorem data_member (k vt : String) (tail : List Char) :
    (jsonString k ++ ":" ++ vt).data ++ tail =
      '"' :: (k.data.flatMap (fun c => (jsonEscape c).data) ++ '"' :: ':' :: (vt.data ++ tail)) := by
  simp only [String.data_append, data_jsonString, List.append_assoc, List.cons_append]
  rfl

/-- The reader takes back the members of every object of flat scalars the encoder writes. -/
theorem jsonReadMembers_encode : ∀ es : List (String × PyValue), es ≠ [] →
    (∀ e ∈ es, IsAscii e.1.data ∧ FlatScalar e.2) →
    ∃ t, jsonEncodeEntries (es.map fun e => (.str e.1, e.2)) = .ok t ∧ IsAscii t.data ∧
      es.length ≤ t.data.length ∧ ∀ fuel, es.length ≤ fuel → ∀ rest,
        jsonReadMembers fuel (t.data ++ '}' :: rest) = some (es, rest)
  | [], hne, _ => absurd rfl hne
  | (k, v) :: es, _, h => by
    obtain ⟨hk, hv⟩ := h (k, v) (.head _)
    obtain ⟨vt, hvt, hva, hread⟩ := jsonReadScalar_encode hv
    have hma : IsAscii (jsonString k ++ ":" ++ vt).data := by
      rw [String.data_append, String.data_append]
      exact (jsonString_ascii hk).append (by decide) |>.append hva
    cases es with
    | nil =>
      refine ⟨jsonString k ++ ":" ++ vt, ?_, hma, ?_, ?_⟩
      · simp only [List.map, jsonEncodeEntries, jsonKey, hvt]; rfl
      · simp [data_jsonString]
      · intro fuel hf rest
        obtain ⟨f, rfl⟩ := Nat.exists_eq_add_of_le' hf
        rw [data_member]
        simp only [jsonReadMembers, jsonReadString_escaped, Option.bind_eq_bind, Option.some_bind,
          hread '}' (by decide)]
    | cons e es =>
      obtain ⟨t, ht, hta, hlen, hrd⟩ :=
        jsonReadMembers_encode (e :: es) (List.cons_ne_nil _ _) fun e he => h e (.tail _ he)
      refine ⟨jsonString k ++ ":" ++ vt ++ "," ++ t, ?_, ?_, ?_, ?_⟩
      · show jsonEncodeEntries ((.str k, v) :: List.map _ (e :: es)) = _
        rw [jsonEncodeEntries.eq_3 _ _ _ (by simp), ht]
        simp only [jsonKey, hvt]
        rfl
      · rw [String.data_append, String.data_append]
        exact (hma.append (by decide)).append hta
      · simp only [String.data_append, List.length_append, List.length_cons]
        simp only [List.length_cons] at hlen
        omega
      · intro fuel hf rest
        obtain ⟨f, rfl⟩ : ∃ f, fuel = f + 1 := ⟨fuel - 1, by simp at hf; omega⟩
        rw [show (jsonString k ++ ":" ++ vt ++ "," ++ t).data ++ '}' :: rest =
          (jsonString k ++ ":" ++ vt).data ++ ',' :: (t.data ++ '}' :: rest) by
            simp [String.data_append], data_member]
        simp only [jsonReadMembers, jsonReadString_escaped, Option.bind_eq_bind, Option.some_bind,
          hread ',' (by decide)]
        rw [hrd f (by simp at hf ⊢; omega)]
        rfl

/-- `d[k] = v` with a new key appends the member, so a dict built from distinct keys keeps
    them in order. -/
theorem foldl_dictSet {acc es : List (String × PyValue)} (h : ((acc ++ es).map Prod.fst).Nodup) :
    es.foldl dictSet acc = acc ++ es := by
  induction es generalizing acc with
  | nil => simp
  | cons e es ih =>
    have hnew : (acc.any fun x => decide (x.1 = e.1)) = false := by
      simp only [List.map_append, List.map_cons, List.nodup_append] at h
      rw [List.any_eq_false]
      exact fun x hx heq => h.2.2 (List.mem_map_of_mem Prod.fst hx)
        (List.mem_cons.mpr (.inl (of_decide_eq_true heq)))
    rw [List.foldl_cons, dictSet, hnew, if_neg Bool.false_ne_true,
      ih (by simpa only [List.append_assoc, List.singleton_append] using h)]
    simp

/-- A flat JSON object: distinct ASCII keys, each with a flat scalar. -/
def FlatDoc (es : List (String × PyValue)) : Prop :=
  (es.map Prod.fst).Nodup ∧ ∀ e ∈ es, IsAscii e.1.data ∧ FlatScalar e.2

theorem FlatDoc.nil : FlatDoc [] := ⟨List.nodup_nil, nofun⟩

theorem FlatDoc.cons {k : String} {v : PyValue} {es : List (String × PyValue)}
    (hk : IsAscii k.data) (hv : FlatScalar v) (hnew : k ∉ es.map Prod.fst) (h : FlatDoc es) :
    FlatDoc ((k, v) :: es) :=
  ⟨List.nodup_cons.mpr ⟨hnew, h.1⟩, List.forall_mem_cons.mpr ⟨⟨hk, hv⟩, h.2⟩⟩

/-- The `dict` with the members `es`, keyed by `str`. -/
def dictOf (es : List (String × PyValue)) : PyValue := .dict (es.map fun e => (.str e.1, e.2))

/-- A codec that writes every flat object with no `$reql_type$` key as ASCII text and reads
    that text back, as `json.dumps` and `ReqlDecoder` do: the decoder's object hook
    (`json_decoder.py:119-140`) returns an object without that key as it is, and turns one
    with it into the value it stands for. -/
def JsonCodec.RoundTrips (codec : JsonCodec) : Prop :=
  ∀ es, FlatDoc es → "$reql_type$" ∉ es.map Prod.fst →
    ∃ s, codec.encode (dictOf es) = .ok s ∧ IsAscii s.data ∧
      codec.decode .empty (utf8Encode s) = .ok (dictOf es)

theorem jsonReadObject_encode {es : List (String × PyValue)} (h : FlatDoc es) :
    ∃ s, jsonEncode (dictOf es) = .ok s ∧ IsAscii s.data ∧ jsonReadObject s.data = some (dictOf es) := by
  cases es with
  | nil => exact ⟨_, rfl, by decide, rfl⟩
  | cons e es =>
    obtain ⟨t, ht, hta, hlen, hrd⟩ := jsonReadMembers_encode (e :: es) (List.cons_ne_nil _ _) h.2
    refine ⟨"\x7b" ++ t ++ "\x7d", by simp only [dictOf, jsonEncode, ht]; rfl, ?_, ?_⟩
    · rw [String.data_append, String.data_append]
      exact (IsAscii.append (by decide) hta).append (by decide)
    · have hne : t.data ++ ['}'] ≠ ['}'] := by
        intro heq
        have := congrArg List.length heq
        simp only [List.length_append, List.length_singleton, List.length_cons] at this hlen
        omega
      rw [show ("\x7b" ++ t ++ "\x7d").data = '{' :: (t.data ++ ['}']) by simp [String.data_append],
        jsonReadObject.eq_2 _ hne,
        hrd _ (by simp only [List.length_append, List.length_singleton]; omega)]
      dsimp only
      rw [foldl_dictSet (by rw [List.nil_append]; exact h.1)]
      rfl

/-- The reference codec reads back every flat object it writes. -/
theorem JsonCodec.reference_roundTrips : JsonCodec.reference.RoundTrips := by
  intro es h _
  obtain ⟨s, hs, ha, hread⟩ := jsonReadObject_encode h
  refine ⟨s, hs, ha, ?_⟩
  simp only [JsonCodec.reference, utf8Encode_ascii ha, asciiDecode_asciiBytes ha,
    Except.toOption, Option.some_bind, hread]

/-! ## ASCII bytes -/

/-- `b.decode("latin-1")`: one character per byte. -/
def latin1Decode (b : Bytes) : List Char := b.map fun x => Char.ofNat x.toNat

/-- Every byte of `b` is an ASCII character. -/
def IsAsciiBytes (b : Bytes) : Prop := ∀ x ∈ b, x.toNat < 128

instance (b : Bytes) : Decidable (IsAsciiBytes b) :=
  inferInstanceAs (Decidable (∀ x ∈ b, x.toNat < 128))

/-- Bytes that may stand in a SCRAM attribute value (RFC 5802 §7, `value-char`): ASCII
    characters other than `,`. -/
def IsAttrValue (b : Bytes) : Prop := IsAsciiBytes b ∧ 44 ∉ b

instance (b : Bytes) : Decidable (IsAttrValue b) := inferInstanceAs (Decidable (_ ∧ _))

theorem IsAsciiBytes.append {a b : Bytes} (ha : IsAsciiBytes a) (hb : IsAsciiBytes b) :
    IsAsciiBytes (a ++ b) :=
  fun x hx => (List.mem_append.mp hx).elim (ha x) (hb x)

theorem IsAttrValue.append {a b : Bytes} (ha : IsAttrValue a) (hb : IsAttrValue b) :
    IsAttrValue (a ++ b) :=
  ⟨ha.1.append hb.1, fun h => (List.mem_append.mp h).elim ha.2 hb.2⟩

theorem ofNat_toNat_uint8 (a : UInt8) : UInt8.ofNat a.toNat = a :=
  UInt8.ext (UInt8.toNat_ofNat_of_lt a.toNat_lt)

theorem toNat_byteChar {x : UInt8} (h : x.toNat < 128) : (Char.ofNat x.toNat).toNat = x.toNat := by
  rw [Char.ofNat, dif_pos (Or.inl (by omega))]
  simp [Char.ofNatAux, Char.toNat, UInt32.toNat]

theorem latin1Decode_ascii {b : Bytes} (h : IsAsciiBytes b) : IsAscii (latin1Decode b) := by
  intro c hc
  obtain ⟨x, hx, rfl⟩ := List.mem_map.mp hc
  rw [toNat_byteChar (h x hx)]
  exact h x hx

theorem asciiBytes_latin1Decode {b : Bytes} (h : IsAsciiBytes b) : asciiBytes (latin1Decode b) = b := by
  simp only [asciiBytes, latin1Decode, List.map_map]
  conv_rhs => rw [← List.map_id b]
  exact List.map_congr_left fun x hx => by simp [toNat_byteChar (h x hx), ofNat_toNat_uint8]

theorem asciiBytes_ascii {cs : List Char} (h : IsAscii cs) : IsAsciiBytes (asciiBytes cs) := by
  intro x hx
  obtain ⟨c, hc, rfl⟩ := List.mem_map.mp hx
  exact asciiByte_lt (h c hc)

theorem asciiByte_ne {c d : Char} (hc : c.toNat < 128) (hne : c ≠ d) (hd : d.toNat < 128) :
    UInt8.ofNat c.toNat ≠ UInt8.ofNat d.toNat := fun h =>
  hne (by rw [← ofNat_asciiByte hc, h, ofNat_asciiByte hd])

/-- ASCII text without a `,` is attribute text. -/
theorem asciiBytes_attrValue {cs : List Char} (h : IsAscii cs) (hc : ',' ∉ cs) :
    IsAttrValue (asciiBytes cs) := by
  refine ⟨asciiBytes_ascii h, fun hm => ?_⟩
  obtain ⟨c, hmem, heq⟩ := List.mem_map.mp hm
  exact @asciiByte_ne c ',' (h c hmem) (fun hc' => hc (hc' ▸ hmem)) (by decide) heq

theorem toString_ascii (i : Int) : IsAscii (toString i).data := fun c hc => by
  rcases toString_int_chars i c hc with hd | rfl
  · exact digit_ascii hd
  · decide

/-- `str()` of an integer is attribute text. -/
theorem toString_attrValue (i : Int) : IsAttrValue (asciiBytes (toString i).data) := by
  refine asciiBytes_attrValue (toString_ascii i) fun hc => ?_
  rcases toString_int_chars i ',' hc with hd | hd
  · exact absurd hd (by decide)
  · exact absurd hd (by decide)

theorem latin1Decode_asciiBytes {cs : List Char} (h : IsAscii cs) :
    latin1Decode (asciiBytes cs) = cs := by
  simp only [latin1Decode, asciiBytes, List.map_map]
  conv_rhs => rw [← List.map_id cs]
  exact List.map_congr_left fun c hc => ofNat_asciiByte (h c hc)

/-- `b.decode("ascii")` of ASCII bytes is their Latin-1 reading. -/
theorem asciiDecode_ascii {b : Bytes} (h : IsAsciiBytes b) : asciiDecode b = .ok (latin1Decode b) := by
  rw [← asciiBytes_latin1Decode h, asciiDecode_asciiBytes (latin1Decode_ascii h),
    asciiBytes_latin1Decode h]

/-- `s.encode("ascii")` takes back the text of ASCII bytes. -/
theorem asciiEncode_latin1Decode {b : Bytes} (h : IsAsciiBytes b) :
    asciiEncode (latin1Decode b) = .ok b := by
  rw [asciiEncode_ascii (latin1Decode_ascii h), asciiBytes_latin1Decode h]

/-! ## The codecs on every text -/

/-- Every character of `cs` has a Latin-1 byte. -/
def IsLatin1 (cs : List Char) : Prop := ∀ c ∈ cs, c.toNat < 256

instance (cs : List Char) : Decidable (IsLatin1 cs) :=
  inferInstanceAs (Decidable (∀ c ∈ cs, c.toNat < 256))

/-- A codec that works one item at a time, refusing an item with one exception, refuses
    exactly the text with such an item, and otherwise maps each item. -/
theorem perItem_eq {α β : Type} {f : List α → Except PyExc (List β)} (p : α → Prop)
    [DecidablePred p] (g : α → β) (e : PyExc) (hnil : f [] = .ok [])
    (hcons : ∀ x xs, f (x :: xs) = if p x then (f xs).map (g x :: ·) else .error e) :
    ∀ xs, f xs = if ∀ x ∈ xs, p x then .ok (xs.map g) else .error e
  | [] => by simp [hnil]
  | x :: xs => by
    rw [hcons, perItem_eq p g e hnil hcons xs]
    by_cases hx : p x
    · by_cases hxs : ∀ y ∈ xs, p y
      · rw [if_pos hx, if_pos hxs, if_pos (List.forall_mem_cons.mpr ⟨hx, hxs⟩)]
        rfl
      · rw [if_pos hx, if_neg hxs, if_neg fun h => hxs (List.forall_mem_cons.mp h).2]
        rfl
    · rw [if_neg hx, if_neg fun h => hx (List.forall_mem_cons.mp h).1]

theorem latin1Encode_eq (cs : List Char) :
    latin1Encode cs = if IsLatin1 cs then .ok (asciiBytes cs) else .error .unicodeEncodeError :=
  perItem_eq (fun c : Char => c.toNat < 256) (fun c => UInt8.ofNat c.toNat) _ rfl (fun _ _ => rfl) cs

theorem asciiEncode_eq (cs : List Char) :
    asciiEncode cs = if IsAscii cs then .ok (asciiBytes cs) else .error .unicodeEncodeError :=
  perItem_eq (fun c : Char => c.toNat < 128) (fun c => UInt8.ofNat c.toNat) _ rfl (fun _ _ => rfl) cs

theorem asciiDecode_eq (b : Bytes) :
    asciiDecode b = if IsAsciiBytes b then .ok (latin1Decode b) else .error .unicodeDecodeError :=
  perItem_eq (fun x : UInt8 => x.toNat < 128) (fun x => Char.ofNat x.toNat) _ rfl (fun _ _ => rfl) b

/-- The Latin-1 bytes of a text are ASCII exactly when the text is. -/
theorem isAsciiBytes_asciiBytes_iff {cs : List Char} (h : IsLatin1 cs) :
    IsAsciiBytes (asciiBytes cs) ↔ IsAscii cs := by
  simp only [IsAsciiBytes, asciiBytes, List.forall_mem_map]
  exact forall₂_congr fun c hc => by
    rw [UInt8.toNat_ofNat_of_lt (by simp only [UInt8.size]; exact h c hc)]

/-! ## Base64 -/

theorem b64Digit_ascii (n : Nat) :
    (b64Digit n).toNat < 128 ∧ (b64Digit n).toNat ≠ 44 ∧ (b64Digit n).toNat ≠ 61 := by
  unfold b64Digit
  split_ifs <;> rw [UInt8.toNat_ofNat_of_lt (by simp only [UInt8.size]; omega)] <;> omega

theorem b64Value_b64Digit : ∀ n < 64, b64Value (b64Digit n) = some n := by decide

theorem b64Value_digit (n : Nat) : b64Value (b64Digit (n % 64)) = some (n % 64) :=
  b64Value_b64Digit _ (Nat.mod_lt _ (by decide))

theorem b64Digit_ne_pad (n : Nat) : b64Digit n ≠ 61 := fun h =>
  (b64Digit_ascii n).2.2 (by rw [h]; rfl)

/-- Every byte `b64encode` writes is an ASCII character other than `,`. -/
theorem base64Encode_attrValue (b : Bytes) : IsAttrValue (base64Encode b) := by
  have hd : ∀ n, IsAttrValue [b64Digit n] := fun n =>
    ⟨by simpa [IsAsciiBytes] using (b64Digit_ascii n).1,
      fun h => (b64Digit_ascii n).2.1 (by rw [← List.mem_singleton.mp h]; rfl)⟩
  have hpad : IsAttrValue [61] := by decide
  induction b using base64Encode.induct with
  | case1 a b c rest ih =>
    exact ((((hd _).append (hd _)).append (hd _)).append (hd _)).append ih
  | case2 a b => exact (((hd _).append (hd _)).append (hd _)).append hpad
  | case3 a => exact (((hd _).append (hd _)).append hpad).append hpad
  | case4 => decide

/-- `b64decode` inverts `b64encode`. -/
theorem base64Decode_base64Encode (b : Bytes) : base64Decode (base64Encode b) = .ok b := by
  induction b using base64Encode.induct with
  | case1 a b c rest ih =>
    have ha := a.toNat_lt; have hb := b.toNat_lt; have hc := c.toNat_lt
    simp only [base64Encode, List.cons_append, List.nil_append, base64Decode, List.append_eq,
      b64Value_b64Digit _ (by omega : (a.toNat * 65536 + b.toNat * 256 + c.toNat) / 262144 < 64),
      b64Value_digit, b64Digit_ne_pad, false_and, if_false, ih]
    generalize hn : a.toNat * 65536 + b.toNat * 256 + c.toNat = n
    have e : n / 262144 * 262144 + n / 4096 % 64 * 4096 + n / 64 % 64 * 64 + n % 64 = n := by
      omega
    rw [e, show n / 65536 = a.toNat by omega, show n / 256 % 256 = b.toNat by omega,
      show n % 256 = c.toNat by omega]
    simp only [ofNat_toNat_uint8]
    rfl
  | case2 a b =>
    have ha := a.toNat_lt; have hb := b.toNat_lt
    simp only [base64Encode, base64Decode,
      b64Value_b64Digit _ (by omega : (a.toNat * 65536 + b.toNat * 256) / 262144 < 64),
      b64Value_digit, b64Digit_ne_pad, false_and, if_false, and_true, if_true]
    generalize hn : a.toNat * 65536 + b.toNat * 256 = n
    have e : n / 262144 * 262144 + n / 4096 % 64 * 4096 + n / 64 % 64 * 64 = n := by omega
    rw [e, show n / 65536 = a.toNat by omega, show n / 256 % 256 = b.toNat by omega]
    simp only [ofNat_toNat_uint8]
  | case3 a =>
    have ha := a.toNat_lt
    simp only [base64Encode, base64Decode,
      b64Value_b64Digit _ (by omega : a.toNat * 65536 / 262144 < 64), b64Value_digit, and_self,
      if_true]
    rw [show (a.toNat * 65536 / 262144 * 262144 + a.toNat * 65536 / 4096 % 64 * 4096) / 65536 =
      a.toNat by omega]
    simp only [ofNat_toNat_uint8]
  | case4 => rfl

/-- What the handshake needs of its collaborators: HMAC digests have SHA-256's 32 bytes, and
    `b64decode` inverts `b64encode`, whose output is attribute text. -/
structure Crypto.Sound (crypto : Crypto) : Prop where
  hmac_length : ∀ k m, (crypto.hmac k m).length = 32
  b64decode_b64encode : ∀ b, crypto.b64decode (crypto.b64encode b) = .ok b
  b64encode_attrValue : ∀ b, IsAttrValue (crypto.b64encode b)

/-- The stand-in collaborators are sound. -/
theorem Crypto.standIn_sound : Crypto.standIn.Sound :=
  ⟨fun _ _ => length_toListLE _ _, base64Decode_base64Encode, base64Encode_attrValue⟩

end RethinkDriver

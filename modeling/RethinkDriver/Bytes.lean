import RethinkDriver.Python

/-!
# Byte strings, `struct` and the text codecs

The wire formats of the driver are built from three standard-library calls: `struct.pack`
and `struct.unpack` for the frame header (`core/net/msg.py:61`,
`core/net/protocol.py:87`) and the handshake's version word (`core/net/handshake.py:204`),
and `str.encode`/`bytes.decode` with the `latin-1`, `ascii` and `utf-8` codecs
(`core/utilities.py:43-50`, `core/net/handshake.py:166-309`).

A format character is rendered by its little-endian digits: `toListLE w n` is the `w`
bytes of `n`, least significant first, and `ofListLE` reads them back. `'<q'` reads the
same eight bytes as a two's-complement integer, which is where the header's token
differs from the token the encoder packed with `'<Q'`.
-/

namespace RethinkDriver

/-- A Python `bytes` value. -/
abbrev Bytes := List UInt8

/-- The `w` little-endian bytes of `n`; bits above `8 * w` are dropped. -/
def toListLE : Nat → Nat → Bytes
  | 0, _ => []
  | w + 1, n => UInt8.ofNat (n % 256) :: toListLE w (n / 256)

/-- The natural number with the given little-endian bytes. -/
def ofListLE : Bytes → Nat
  | [] => 0
  | b :: bs => b.toNat + 256 * ofListLE bs

@[simp] theorem length_toListLE (w n : Nat) : (toListLE w n).length = w := by
  induction w generalizing n with
  | zero => rfl
  | succ w ih => simp [toListLE, ih]

theorem ofListLE_toListLE (w n : Nat) : ofListLE (toListLE w n) = n % 256 ^ w := by
  induction w generalizing n with
  | zero => simp [toListLE, ofListLE, Nat.mod_one]
  | succ w ih =>
    have hbyte : (UInt8.ofNat (n % 256)).toNat = n % 256 := by
      simp [UInt8.toNat, UInt8.ofNat, Fin.ofNat, Nat.mod_mod_of_dvd]
    rw [toListLE, ofListLE, ih, hbyte, pow_succ', Nat.mod_mul]

theorem ofListLE_toListLE_of_lt {w n : Nat} (h : n < 256 ^ w) :
    ofListLE (toListLE w n) = n := by
  rw [ofListLE_toListLE, Nat.mod_eq_of_lt h]

/-- The signed reading of an unsigned 64-bit value (`'<q'` against `'<Q'`). -/
def signed64 (n : Nat) : Int := if n < 2 ^ 63 then n else n - 2 ^ 64

/-- `struct.pack("<QL", token, length)` (`core/net/msg.py:61`): `struct.error` unless
    both fit their fields. -/
def packQL (token : Int) (length : Nat) : Except PyExc Bytes :=
  if 0 ≤ token ∧ token < 2 ^ 64 ∧ length < 2 ^ 32 then
    .ok (toListLE 8 token.toNat ++ toListLE 4 length)
  else .error .structError

/-- `struct.unpack("<qL", header)` (`core/net/protocol.py:87`): a signed token and an
    unsigned length, from exactly twelve bytes. -/
def unpackqL (header : Bytes) : Except PyExc (Int × Nat) :=
  if header.length = 12 then .ok (signed64 (ofListLE (header.take 8)), ofListLE (header.drop 8))
  else .error .structError

/-- `struct.pack("<L", v)` (`core/net/handshake.py:204`). -/
def packL (v : Nat) : Except PyExc Bytes :=
  if v < 2 ^ 32 then .ok (toListLE 4 v) else .error .structError

theorem unpackqL_packQL {token : Int} {length : Nat} {frame : Bytes}
    (h : packQL token length = .ok frame) :
    unpackqL frame = .ok (signed64 token.toNat, length) ∧ frame.length = 12 := by
  unfold packQL at h
  split at h
  · rename_i hr
    obtain ⟨hlo, hhi, hlen⟩ := hr
    cases h
    have htok : token.toNat < 256 ^ 8 := by
      have : (token.toNat : Int) < 2 ^ 64 := by rw [Int.toNat_of_nonneg hlo]; exact hhi
      norm_num at this ⊢; omega
    refine ⟨?_, by simp⟩
    simp only [unpackqL, List.length_append, length_toListLE, if_true]
    rw [List.take_left' (length_toListLE 8 _), List.drop_left' (length_toListLE 8 _),
      ofListLE_toListLE_of_lt htok, ofListLE_toListLE_of_lt (by norm_num at hlen ⊢; omega)]
  · cases h

/-! ## Text codecs -/

/-- `s.encode("latin-1")` on the characters of `s`: one byte per character below 256. -/
def latin1Encode : List Char → Except PyExc Bytes
  | [] => .ok []
  | c :: cs =>
    if c.toNat < 256 then (latin1Encode cs).map (UInt8.ofNat c.toNat :: ·)
    else .error .unicodeEncodeError

/-- `b.decode("ascii")`: one character per byte below 128. -/
def asciiDecode : Bytes → Except PyExc (List Char)
  | [] => .ok []
  | x :: xs =>
    if x.toNat < 128 then (asciiDecode xs).map (Char.ofNat x.toNat :: ·)
    else .error .unicodeDecodeError

/-- `s.encode("ascii")` on the characters of `s`. -/
def asciiEncode : List Char → Except PyExc Bytes
  | [] => .ok []
  | c :: cs =>
    if c.toNat < 128 then (asciiEncode cs).map (UInt8.ofNat c.toNat :: ·)
    else .error .unicodeEncodeError

/-- `s.encode("utf-8")`. -/
def utf8Encode (s : String) : Bytes := s.toUTF8.data.toList

/-- An argument of `chain_to_bytes`: a `str` or a `bytes`. -/
inductive StrOrBytes where
  | str (s : String)
  | bytes (b : Bytes)

/-- `chain_to_bytes(*strings)` (`core/utilities.py:43-50`): `str` arguments are encoded as
    `latin-1`, `bytes` arguments taken as they are. -/
def chainToBytes : List StrOrBytes → Except PyExc Bytes
  | [] => .ok []
  | .str s :: parts => do
    let b ← latin1Encode s.toList
    let rest ← chainToBytes parts
    pure (b ++ rest)
  | .bytes b :: parts => (chainToBytes parts).map (b ++ ·)

end RethinkDriver

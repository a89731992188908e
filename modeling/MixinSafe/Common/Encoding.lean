import Mathlib

namespace safe

/-- A `do` block over `Except` succeeded: its first step did, and the rest did on
that step's value. -/
theorem bind_eq_ok {ε α β : Type} {x : Except ε α} {f : α → Except ε β} {r : β} :
    x >>= f = .ok r ↔ ∃ a, x = .ok a ∧ f a = .ok r := by
  cases x <;> simp [bind, Except.bind]

section Except

variable {ε α β : Type}

@[simp] theorem throw_eq_error (e : ε) : (throw e : Except ε α) = .error e := rfl
@[simp] theorem pure_eq_ok (a : α) : (pure a : Except ε α) = .ok a := rfl
@[simp] theorem error_bind (e : ε) (f : α → Except ε β) : (Except.error e >>= f) = .error e := rfl
@[simp] theorem ok_bind (a : α) (f : α → Except ε β) : (Except.ok a >>= f) = f a := rfl

end Except

@[simp] theorem mapError_eq_ok {ε ε' α : Type} {x : Except ε α} {g : ε → ε'} {a : α} :
    x.mapError g = .ok a ↔ x = .ok a := by
  cases x <;> simp [Except.mapError]

/-- The lower-case hex digit of a nibble, as `hex.EncodeToString` writes it. -/
def hexDigit (n : Nat) : Char :=
  if n < 10 then Char.ofNat (48 + n) else Char.ofNat (87 + n)

/-- The value of one hex digit; `hex.DecodeString` accepts both cases. -/
def hexValue (c : Char) : Option Nat :=
  if '0' ≤ c ∧ c ≤ '9' then some (c.toNat - 48)
  else if 'a' ≤ c ∧ c ≤ 'f' then some (c.toNat - 87)
  else if 'A' ≤ c ∧ c ≤ 'F' then some (c.toNat - 55)
  else none

/-- `hex.EncodeToString`: two lower-case digits per byte, high nibble first. -/
def hexEncode (b : List UInt8) : String :=
  ⟨b.flatMap fun x => [hexDigit (x.toNat / 16), hexDigit (x.toNat % 16)]⟩

/-- `hex.DecodeString` on the characters of a string: an odd length or a
non-digit is an error. -/
def hexDecode : List Char → Option (List UInt8)
  | [] => some []
  | [_] => none
  | hi :: lo :: rest => do
    let h ← hexValue hi
    let l ← hexValue lo
    let tail ← hexDecode rest
    pure (UInt8.ofNat (h * 16 + l) :: tail)

/-- `common.DecodeHexOrPanic`: a string that is not hex aborts the process. -/
def DecodeHexOrPanic (s : String) : Except String (List UInt8) :=
  match hexDecode s.data with
  | some b => .ok b
  | none => .error s!"DecodeHexOrPanic({s})"

theorem hexValue_hexDigit : ∀ n : Fin 16, hexValue (hexDigit n.val) = some n.val := by decide

private theorem uint8_ofNat_nibbles (x : UInt8) :
    UInt8.ofNat (x.toNat / 16 * 16 + x.toNat % 16) = x := by
  rw [Nat.div_add_mod']
  exact UInt8.toNat.inj (UInt8.toNat_ofNat_of_lt x.toNat_lt_size)

@[simp] theorem hexDecode_hexEncode (b : List UInt8) : hexDecode (hexEncode b).data = some b := by
  induction b with
  | nil => rfl
  | cons x rest ih =>
    have hlt : x.toNat < 256 := x.toNat_lt_size
    have hhi := hexValue_hexDigit ⟨x.toNat / 16, by omega⟩
    have hlo := hexValue_hexDigit ⟨x.toNat % 16, by omega⟩
    simp only [hexEncode, List.flatMap_cons, List.cons_append, List.singleton_append] at ih ⊢
    simp [hexDecode, hhi, hlo, ih, uint8_ofNat_nibbles]

@[simp] theorem DecodeHexOrPanic_hexEncode (b : List UInt8) : DecodeHexOrPanic (hexEncode b) = .ok b := by
  simp [DecodeHexOrPanic]

@[simp] theorem hexEncode_length (b : List UInt8) : (hexEncode b).length = 2 * b.length := by
  induction b with
  | nil => rfl
  | cons x rest ih =>
    simp only [hexEncode, String.length, List.flatMap_cons, List.length_append, List.length_cons,
      List.length_nil] at ih ⊢
    omega

theorem hexEncode_eq_empty_iff (b : List UInt8) : hexEncode b = "" ↔ b = [] := by
  constructor
  · intro h
    have := congrArg String.length h
    simp only [hexEncode_length, String.length_empty] at this
    exact List.length_eq_zero.mp (by omega)
  · rintro rfl
    rfl

theorem hexEncode_injective : Function.Injective hexEncode := by
  intro a b h
  have := congrArg (fun s => hexDecode s.data) h
  simpa using this

/-- The Go slice expression `b[i:j]`, for bounds the callers have checked. -/
def slice (b : List UInt8) (i j : Nat) : List UInt8 := (b.drop i).take (j - i)

/-- The Go slice expression `b[low:high]` with the runtime's bounds check, on a slice
whose capacity is its length: a `high` past the end or a `low` past `high` panics. -/
def sliceChecked (b : List UInt8) (low high : Nat) : Except String (List UInt8) :=
  let n := b.length
  if n < high then .error s!"panic: runtime error: slice bounds out of range [:{high}] with capacity {n}"
  else if high < low then .error s!"panic: runtime error: slice bounds out of range [{low}:{high}]"
  else .ok (slice b low high)

section SliceChecked

variable {b : List UInt8} {low high : Nat}

theorem sliceChecked_of_le (hlow : low ≤ high) (hhigh : high ≤ b.length) :
    sliceChecked b low high = .ok (slice b low high) := by
  simp [sliceChecked, Nat.not_lt.mpr hlow, Nat.not_lt.mpr hhigh]

theorem sliceChecked_of_lt (hlt : high < low) (hhigh : high ≤ b.length) :
    sliceChecked b low high = .error s!"panic: runtime error: slice bounds out of range [{low}:{high}]" := by
  simp [sliceChecked, hlt, Nat.not_lt.mpr hhigh]

end SliceChecked

/-- The Go index expression `b[i]` with the runtime's bounds check. -/
def indexChecked (b : List UInt8) (i : Nat) : Except String UInt8 :=
  let n := b.length
  match b.get? i with
  | some x => .ok x
  | none => .error s!"panic: runtime error: index out of range [{i}] with length {n}"

/-- The Go string slice `s[:high]` with the runtime's bounds check, on a text of
one-byte characters. -/
def prefixChecked (s : String) (high : Nat) : Except String String :=
  let n := s.length
  if n < high then .error s!"panic: runtime error: slice bounds out of range [:{high}] with length {n}"
  else .ok ⟨s.data.take high⟩

theorem indexChecked_of_lt {b : List UInt8} {i : Nat} (h : i < b.length) : indexChecked b i = .ok b[i] := by
  simp [indexChecked, List.getElem?_eq_getElem h]

theorem indexChecked_of_le {b : List UInt8} {i : Nat} (h : b.length ≤ i) :
    indexChecked b i = .error s!"panic: runtime error: index out of range [{i}] with length {b.length}" := by
  simp [indexChecked, List.getElem?_eq_none h]

/-- What `hex.DecodeString` accepts has two digits per byte. -/
theorem hexDecode_length {cs : List Char} {b : List UInt8} (h : hexDecode cs = some b) : cs.length = 2 * b.length := by
  induction cs using hexDecode.induct generalizing b with
  | case1 => cases h; rfl
  | case2 => cases h
  | case3 hi lo rest ih =>
    simp only [hexDecode, Option.bind_eq_bind, Option.bind_eq_some, Option.pure_def, Option.some.injEq] at h
    obtain ⟨-, -, -, -, tail, htail, rfl⟩ := h
    simp [ih htail]
    omega

/-- The big-endian value of a byte string, most significant byte first. -/
def beUint (b : List UInt8) : Nat := b.foldl (fun acc x => acc * 256 + x.toNat) 0

/-- The `width` big-endian bytes of `v`, as `binary.BigEndian.AppendUint64` and
`AppendUint32` write them; only `v % 256 ^ width` survives. -/
def beBytes : Nat → Nat → List UInt8
  | 0, _ => []
  | width + 1, v => beBytes width (v / 256) ++ [UInt8.ofNat (v % 256)]

/-- `binary.BigEndian.Uint64`: the first eight bytes, big-endian. -/
def BigEndianUint64 (b : List UInt8) : Nat := beUint (b.take 8)

/-- `binary.BigEndian.AppendUint64`. -/
def BigEndianAppendUint64 (b : List UInt8) (v : Nat) : List UInt8 := b ++ beBytes 8 v

theorem beUint_append_byte (b : List UInt8) (x : UInt8) :
    beUint (b ++ [x]) = beUint b * 256 + x.toNat := by
  simp [beUint, List.foldl_append]

@[simp] theorem beBytes_length (width v : Nat) : (beBytes width v).length = width := by
  induction width generalizing v with
  | zero => rfl
  | succ width ih => simp [beBytes, ih]

theorem beUint_beBytes (width v : Nat) : beUint (beBytes width v) = v % 256 ^ width := by
  induction width generalizing v with
  | zero => simp [beBytes, beUint, Nat.mod_one]
  | succ width ih =>
    have hbyte : (UInt8.ofNat (v % 256)).toNat = v % 256 :=
      UInt8.toNat_ofNat_of_lt (Nat.mod_lt _ (by decide))
    rw [beBytes, beUint_append_byte, ih, hbyte, pow_succ, mul_comm (256 ^ width) 256, Nat.mod_mul]
    ring

/-- Four, eight or any number of bytes are the big-endian bytes of their value. -/
theorem beBytes_beUint (b : List UInt8) : beBytes b.length (beUint b) = b := by
  induction b using List.reverseRecOn with
  | nil => rfl
  | append_singleton init x ih =>
    have hx : x.toNat < 256 := x.toNat_lt_size
    have hdiv : (beUint init * 256 + x.toNat) / 256 = beUint init := by omega
    have hmod : (beUint init * 256 + x.toNat) % 256 = x.toNat := by omega
    rw [List.length_append, List.length_singleton, beBytes, beUint_append_byte, hdiv, hmod, ih,
      UInt8.toNat.inj (UInt8.toNat_ofNat_of_lt hx)]

theorem beUint_lt (b : List UInt8) : beUint b < 256 ^ b.length := by
  have h := beUint_beBytes b.length (beUint b)
  rw [beBytes_beUint] at h
  rw [h]
  exact Nat.mod_lt _ (by positivity)

theorem BigEndianUint64_append (v : Nat) (rest : List UInt8) (hv : v < 2 ^ 64) :
    BigEndianUint64 (beBytes 8 v ++ rest) = v := by
  rw [BigEndianUint64, List.take_append_of_le_length (by simp), List.take_of_length_le (by simp),
    beUint_beBytes, Nat.mod_eq_of_lt (by omega)]

/-- A `uuid.UUID` of `gofrs/uuid`: exactly sixteen bytes. -/
structure UUID where
  bytes : List UInt8
  length_eq : bytes.length = 16

/-- `uuid.FromBytes` of `gofrs/uuid` v4, which rejects every length but sixteen. -/
def UUID.FromBytes (b : List UInt8) : Except String UUID :=
  if h : b.length = 16 then .ok ⟨b, h⟩ else .error s!"uuid: UUID must be exactly 16 bytes long, got {b.length} bytes"

/-- `UUID.String`: the canonical form, lower-case hex in groups 8-4-4-4-12. -/
def UUID.String (u : UUID) : String :=
  hexEncode (u.bytes.take 4) ++ "-" ++ hexEncode (slice u.bytes 4 6) ++ "-" ++
    hexEncode (slice u.bytes 6 8) ++ "-" ++ hexEncode (slice u.bytes 8 10) ++ "-" ++
    hexEncode (u.bytes.drop 10)

@[simp] theorem UUID.FromBytes_bytes (u : UUID) : UUID.FromBytes u.bytes = .ok u := by
  simp [UUID.FromBytes, u.length_eq]

theorem UUID.FromBytes_eq_ok {b : List UInt8} {u : UUID} (h : UUID.FromBytes b = .ok u) : u.bytes = b := by
  unfold UUID.FromBytes at h
  split at h
  · cases h; rfl
  · cases h

end safe

import MixinSafe.Common.Encoding

namespace safe

/-- Modelled from the spec: `Encoder.WriteUint32`, four big-endian bytes. -/
def WriteUint32 (v : Nat) : List UInt8 := beBytes 4 v

/-- Modelled from the spec: `WriteBytes`, the length as a big-endian `u16` and then
the bytes; a length past `65535` panics. -/
def WriteBytes (b : List UInt8) : Except String (List UInt8) :=
  if b.length > 65535 then throw ("panic: " ++ toString b.length) else pure (beBytes 2 b.length ++ b)

/-- Modelled from the spec: `Decoder.Read` of `n` bytes from the front of what
remains. -/
def ReadN (n : Nat) (b : List UInt8) : Except String (List UInt8 × List UInt8) :=
  if b.length < n then throw "MalformedEnvelope" else pure (b.take n, b.drop n)

/-- Modelled from the spec: `Decoder.ReadByte`. -/
def ReadByte : List UInt8 → Except String (UInt8 × List UInt8)
  | x :: rest => .ok (x, rest)
  | [] => .error "MalformedEnvelope"

/-- Modelled from the spec: `Decoder.ReadUint32`. -/
def ReadUint32 (b : List UInt8) : Except String (Nat × List UInt8) := do
  let (x, rest) ← ReadN 4 b
  return (beUint x, rest)

/-- Modelled from the spec: `Decoder.ReadBytes`, a big-endian `u16` length and that
many bytes. -/
def ReadBytes (b : List UInt8) : Except String (List UInt8 × List UInt8) := do
  let (l, rest) ← ReadN 2 b
  ReadN (beUint l) rest

section Laws

variable {b w x rest : List UInt8}

theorem ReadN_append {n : Nat} (h : x.length = n) (rest : List UInt8) : ReadN n (x ++ rest) = .ok (x, rest) := by
  subst h
  simp [ReadN]

/-- What `ReadN` takes is the front of the input. -/
theorem ReadByte_eq_ok {x : UInt8} (h : ReadByte b = .ok (x, rest)) : b = x :: rest := by
  cases b with
  | nil => cases h
  | cons y b => cases h; rfl

theorem ReadN_eq_ok {n : Nat} (h : ReadN n b = .ok (x, rest)) : x.length = n ∧ b = x ++ rest := by
  unfold ReadN at h
  split_ifs at h with hlt
  cases h
  exact ⟨by simp only [List.length_take]; omega, (List.take_append_drop n b).symm⟩

theorem WriteBytes_eq_ok_iff : (∃ w, WriteBytes b = .ok w) ↔ b.length ≤ 65535 := by
  unfold WriteBytes
  split_ifs with h
  · exact ⟨fun ⟨_, hw⟩ => (nomatch hw), fun hle => absurd hle (by omega)⟩
  · exact ⟨fun _ => by omega, fun _ => ⟨_, rfl⟩⟩

theorem WriteBytes_eq_ok (h : WriteBytes b = .ok w) : b.length ≤ 65535 ∧ w = beBytes 2 b.length ++ b := by
  unfold WriteBytes at h
  split_ifs at h with hlen
  cases h
  exact ⟨by omega, rfl⟩

/-- `ReadBytes` reads back what `WriteBytes` wrote, and leaves what follows. -/
theorem ReadBytes_WriteBytes (h : WriteBytes b = .ok w) (rest : List UInt8) : ReadBytes (w ++ rest) = .ok (b, rest) := by
  obtain ⟨hlen, rfl⟩ := WriteBytes_eq_ok h
  have hl : beUint (beBytes 2 b.length) = b.length := by
    rw [beUint_beBytes, Nat.mod_eq_of_lt (by norm_num; omega)]
  rw [ReadBytes, List.append_assoc, ReadN_append (beBytes_length 2 _), ok_bind]
  dsimp only
  rw [hl, ReadN_append rfl]

/-- What `ReadBytes` accepts is what `WriteBytes` writes for the bytes it returns. -/
theorem WriteBytes_ReadBytes (h : ReadBytes b = .ok (x, rest)) : ∃ w, WriteBytes x = .ok w ∧ b = w ++ rest := by
  obtain ⟨⟨l, r⟩, hl, hr⟩ := bind_eq_ok.mp h
  obtain ⟨hl2, rfl⟩ := ReadN_eq_ok hl
  obtain ⟨hx, rfl⟩ := ReadN_eq_ok hr
  have hlt : beUint l < 65536 := by simpa [hl2] using beUint_lt l
  refine ⟨_, if_neg (by omega), ?_⟩
  rw [hx, ← hl2, beBytes_beUint, List.append_assoc]

theorem ReadUint32_WriteUint32 {v : Nat} (hv : v < 2 ^ 32) (rest : List UInt8) :
    ReadUint32 (WriteUint32 v ++ rest) = .ok (v, rest) := by
  rw [ReadUint32, WriteUint32, ReadN_append (beBytes_length 4 _), ok_bind]
  simp only [beUint_beBytes, Nat.mod_eq_of_lt (show v < 256 ^ 4 by norm_num; omega), pure_eq_ok]

/-- What `ReadUint32` accepts is the four bytes `WriteUint32` writes for its value. -/
theorem WriteUint32_ReadUint32 {v : Nat} (h : ReadUint32 b = .ok (v, rest)) : v < 2 ^ 32 ∧ b = WriteUint32 v ++ rest := by
  obtain ⟨⟨l, r⟩, hl, hr⟩ := bind_eq_ok.mp h
  obtain ⟨hl4, rfl⟩ := ReadN_eq_ok hl
  simp only [pure_eq_ok, Except.ok.injEq, Prod.mk.injEq] at hr
  obtain ⟨rfl, rfl⟩ := hr
  have hlt := beUint_lt l
  rw [hl4] at hlt
  refine ⟨by norm_num at hlt ⊢; omega, ?_⟩
  rw [WriteUint32, ← hl4, beBytes_beUint]

end Laws

theorem hexDigit_ne_dash : ∀ n : Fin 16, hexDigit n.val ≠ '-' := by decide

theorem hexEncode_append (a b : List UInt8) : hexEncode (a ++ b) = hexEncode a ++ hexEncode b := by
  simp only [hexEncode, List.flatMap_append]
  rfl

/-- The digits of a hex text hold no dash. -/
theorem hexEncode_filter_dash (b : List UInt8) : (hexEncode b).data.filter (· != '-') = (hexEncode b).data := by
  refine List.filter_eq_self.mpr fun c hc => ?_
  simp only [hexEncode, List.mem_flatMap, List.mem_cons, List.mem_singleton, List.not_mem_nil, or_false] at hc
  obtain ⟨x, -, rfl | rfl⟩ := hc
  · simpa using hexDigit_ne_dash ⟨x.toNat / 16, by have : x.toNat < 256 := x.toNat_lt_size; omega⟩
  · simpa using hexDigit_ne_dash ⟨x.toNat % 16, by omega⟩

/-- The canonical text of a UUID is its hex with dashes put in. -/
theorem UUID.String_filter_dash (u : UUID) : u.String.data.filter (· != '-') = (hexEncode u.bytes).data := by
  have hparts : u.bytes.take 4 ++ (slice u.bytes 4 6 ++ (slice u.bytes 6 8 ++ (slice u.bytes 8 10 ++ u.bytes.drop 10))) =
      u.bytes := by
    simp only [slice, ← List.append_assoc, ← List.take_add, List.drop_drop]
    exact List.take_append_drop 10 u.bytes
  conv_rhs => rw [← hparts]
  simp only [UUID.String, hexEncode_append, String.data_append, List.filter_append, hexEncode_filter_dash]
  simp

namespace uuid

/-- `uuid.Nil`, sixteen zero bytes. -/
def Nil : UUID := ⟨List.replicate 16 0, rfl⟩

/-- `uuid.FromStringOrNil` over the library's `uuid.FromString` `F`: the UUID a text
parses to, the nil UUID when it does not parse. -/
def FromStringOrNil (F : String → Option UUID) (s : String) : UUID := (F s).getD Nil

/-- A parser of the canonical text alone, for running the model: the hex digits of
the text decode to 16 bytes whose canonical text is the input. -/
def FromCanonical (s : String) : Option UUID :=
  match hexDecode (s.data.filter (· != '-')) with
  | some b => if h : b.length = 16 then (if (⟨b, h⟩ : UUID).String = s then some ⟨b, h⟩ else none) else none
  | none => none

/-- The canonical parser reads back the canonical text of every UUID. -/
theorem FromCanonical_String (u : UUID) : FromCanonical u.String = some u := by
  obtain ⟨b, hb⟩ := u
  simp [FromCanonical, UUID.String_filter_dash, hb]

end uuid

end safe

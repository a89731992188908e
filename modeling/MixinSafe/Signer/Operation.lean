import MixinSafe.Signer.Node
import MixinSafe.Common.Codec

namespace safe.signer

/-- Modelled from the spec: `writeUUID`, the 16 bytes of `uuid.FromStringOrNil` of the
id. -/
def writeUUID (F : String → Option UUID) (id : String) : List UInt8 := (uuid.FromStringOrNil F id).bytes

/-- `Operation.Encode`, with `uuid.FromString` as `F`: a public key that is not hex
panics, as does a public key or an extra longer than a `u16` length. -/
def Operation.Encode (F : String → Option UUID) (o : Operation) : Except String (List UInt8) := do
  let some pub := hexDecode o.Public.data | throw ("panic: " ++ o.Public)
  let pub ← WriteBytes pub
  let extra ← WriteBytes o.Extra
  return writeUUID F o.Id ++ [o.«Type», o.Curve] ++ pub ++ extra

/-- Modelled from the spec: `common.DecodeOperation`, which fails with
`MalformedEnvelope` when bytes are missing or remain. -/
def DecodeOperation (b : List UInt8) : Except String Operation := do
  let (id, b) ← ReadN 16 b
  let u ← UUID.FromBytes id
  let (typ, b) ← ReadByte b
  let (crv, b) ← ReadByte b
  let (pub, b) ← ReadBytes b
  let (extra, b) ← ReadBytes b
  if b ≠ [] then throw "MalformedEnvelope"
  return ⟨u.String, typ, crv, hexEncode pub, extra⟩

/-- The operation the receiver decodes from what `Encode` sends for `o`: the id as the
text of the UUID it parses to, or of the nil UUID when it does not parse, and the
public key in lower-case hex. -/
def Operation.canonical (F : String → Option UUID) (o : Operation) : Operation :=
  { o with Id := (uuid.FromStringOrNil F o.Id).String, Public := hexEncode ((hexDecode o.Public.data).getD []) }

/-- Go's `%v` of a `*common.Operation`: its fields in the order the source's literals
give them, the extra's bytes in decimal. -/
def Operation.format (op : Operation) : String :=
  "&\x7b" ++ op.Id ++ " " ++ toString op.«Type» ++ " " ++ toString op.Curve ++ " " ++ op.Public ++ " [" ++
    " ".intercalate (op.Extra.map toString) ++ "]\x7d"

namespace Operation

variable {F : String → Option UUID} {o : Operation} {b : List UInt8}

/-- What `Encode` writes, once the public key decodes to `pub`. -/
theorem Encode_eq_ok_iff {pub : List UInt8} (hpub : hexDecode o.Public.data = some pub) :
    o.Encode F = .ok b ↔ ∃ wp we, WriteBytes pub = .ok wp ∧ WriteBytes o.Extra = .ok we ∧
      b = writeUUID F o.Id ++ [o.«Type», o.Curve] ++ wp ++ we := by
  simp only [Encode, hpub]
  constructor
  · intro h
    obtain ⟨wp, hwp, h⟩ := bind_eq_ok.mp h
    obtain ⟨we, hwe, h⟩ := bind_eq_ok.mp h
    exact ⟨wp, we, hwp, hwe, by cases h; rfl⟩
  · rintro ⟨wp, we, hwp, hwe, rfl⟩
    simp [hwp, hwe]

theorem Encode_length {pub : List UInt8} (hpub : hexDecode o.Public.data = some pub) (h : o.Encode F = .ok b) :
    b.length = 22 + pub.length + o.Extra.length := by
  obtain ⟨wp, we, hwp, hwe, rfl⟩ := (Encode_eq_ok_iff hpub).mp h
  obtain ⟨-, rfl⟩ := WriteBytes_eq_ok hwp
  obtain ⟨-, rfl⟩ := WriteBytes_eq_ok hwe
  simp only [writeUUID, List.length_append, (uuid.FromStringOrNil F o.Id).length_eq, beBytes_length]
  simp
  omega

/-- What `DecodeOperation` reads from an envelope: the id's UUID as text, the type and
the curve, and the two fields after their `u16` lengths. -/
theorem DecodeOperation_envelope (u : UUID) (typ crv : UInt8) {pub extra wp we : List UInt8}
    (hwp : WriteBytes pub = .ok wp) (hwe : WriteBytes extra = .ok we) :
    DecodeOperation (u.bytes ++ [typ, crv] ++ wp ++ we) = .ok ⟨u.String, typ, crv, hexEncode pub, extra⟩ := by
  have hwe' : ReadBytes we = .ok (extra, []) := by simpa using ReadBytes_WriteBytes hwe []
  simp only [DecodeOperation, List.append_assoc, ReadN_append u.length_eq, ok_bind, UUID.FromBytes_bytes,
    List.cons_append, List.nil_append, ReadByte]
  simp [ReadBytes_WriteBytes hwp, hwe']

end Operation

/-- The envelope decodes to the operation `Encode` was given, up to the id's text and
the case of the public key's hex: an id that `uuid.FromString` does not parse arrives
as the nil UUID. -/
theorem DecodeOperation_Encode {F : String → Option UUID} {o : Operation} {b : List UInt8}
    (h : o.Encode F = .ok b) : DecodeOperation b = .ok (o.canonical F) := by
  cases hpub : hexDecode o.Public.data with
  | none => simp [Operation.Encode, hpub] at h
  | some pub =>
    obtain ⟨wp, we, hwp, hwe, rfl⟩ := (Operation.Encode_eq_ok_iff hpub).mp h
    rw [writeUUID, Operation.DecodeOperation_envelope _ _ _ hwp hwe]
    simp [Operation.canonical, hpub]

/-- The account proposal of the README: session `2e78d04a-…`, type 110, curve 1, the
holder's public key, and the extra of threshold 1, one owner, and the owner
`fcb87491-…`. -/
def proposeAccountOperation : Operation :=
  ⟨"2e78d04a-e61a-442d-a014-dec19bd61cfe", 110, 1, "039c2f5ebdd4eae6d69e7a98b737beeb78e0a8d42c7b957a0fbe0c41658d16ab40",
    [1, 1] ++ (hexDecode "fcb874914fa04c2fb387262b63cbc112".data).getD []⟩

/-- The README's proposal, whose id is canonical text and whose key is lower-case hex,
decodes to itself. -/
theorem DecodeOperation_Encode_proposeAccount :
    ∃ b, proposeAccountOperation.Encode uuid.FromCanonical = .ok b ∧ DecodeOperation b = .ok proposeAccountOperation :=
  ⟨_, rfl, (DecodeOperation_Encode (show proposeAccountOperation.Encode uuid.FromCanonical = .ok _ from rfl)).trans
    (congrArg Except.ok (by decide))⟩

/-- What the decoder accepts is the encoding of what it returns, when `uuid.FromString`
reads back the canonical text of every UUID. -/
theorem Encode_DecodeOperation {F : String → Option UUID} (hF : ∀ u, F u.String = some u) {b : List UInt8}
    {o : Operation} (hdec : DecodeOperation b = .ok o) : o.Encode F = .ok b := by
  obtain ⟨⟨id, b₁⟩, hid, h⟩ := bind_eq_ok.mp hdec
  obtain ⟨-, rfl⟩ := ReadN_eq_ok hid
  obtain ⟨u, hu, h⟩ := bind_eq_ok.mp h
  obtain ⟨⟨typ, b₂⟩, htyp, h⟩ := bind_eq_ok.mp h
  obtain ⟨⟨crv, b₃⟩, hcrv, h⟩ := bind_eq_ok.mp h
  obtain ⟨⟨pub, b₄⟩, hpub, h⟩ := bind_eq_ok.mp h
  obtain ⟨⟨extra, b₅⟩, hextra, h⟩ := bind_eq_ok.mp h
  dsimp only at h
  split_ifs at h with hrest
  · cases h
  cases h
  obtain rfl := ReadByte_eq_ok htyp
  obtain rfl := ReadByte_eq_ok hcrv
  obtain ⟨wp, hwp, rfl⟩ := WriteBytes_ReadBytes hpub
  obtain ⟨we, hwe, rfl⟩ := WriteBytes_ReadBytes hextra
  rw [(Operation.Encode_eq_ok_iff (hexDecode_hexEncode pub)).mpr ⟨wp, we, hwp, hwe, ?_⟩]
  simp [writeUUID, uuid.FromStringOrNil, hF, UUID.FromBytes_eq_ok hu, not_not.mp hrest]

/-- The envelope of the README's proposal. -/
def proposeAccountEnvelope : List UInt8 :=
  (hexDecode ("2e78d04ae61a442da014dec19bd61cfe" ++ "6e01" ++ "0021" ++
    "039c2f5ebdd4eae6d69e7a98b737beeb78e0a8d42c7b957a0fbe0c41658d16ab40" ++ "0012" ++ "0101" ++
    "fcb874914fa04c2fb387262b63cbc112").data).getD []

set_option maxRecDepth 4000 in
theorem Encode_DecodeOperation_proposeAccount :
    DecodeOperation proposeAccountEnvelope = .ok proposeAccountOperation ∧
      proposeAccountOperation.Encode uuid.FromCanonical = .ok proposeAccountEnvelope :=
  ⟨rfl, Encode_DecodeOperation uuid.FromCanonical_String rfl⟩

namespace Node

/-- With the envelope as the node's encoder, `encryptOperation` panics exactly when
the public key's bytes and the extra come to more than 106 bytes, the 128 of
`OperationExtraLimit` less the envelope's own 22. -/
theorem encryptOperation_limit (node : Node) {F : String → Option UUID} {op : Operation} {pub : List UInt8}
    (hpub : hexDecode op.Public.data = some pub) (henc : op.Encode F = .ok (node.Encode op)) :
    (∃ e, node.encryptOperation op = .error e) ↔ 106 < pub.length + op.Extra.length := by
  have hlen := Operation.Encode_length hpub henc
  simp only [encryptOperation, OperationExtraLimit]
  split_ifs with h
  · exact ⟨fun _ => by omega, fun _ => ⟨_, rfl⟩⟩
  · exact ⟨fun ⟨_, he⟩ => (nomatch he), fun _ => by omega⟩

/-- A node that encodes with the envelope. -/
def envelopeFixture : Node := { Node.fixture with Encode := fun op => ((op.Encode uuid.FromCanonical).toOption).getD [] }

/-- The README's proposal, 33 bytes of key and 18 of extra, is encrypted. -/
theorem encryptOperation_limit_proposeAccount :
    ¬ (∃ e, envelopeFixture.encryptOperation proposeAccountOperation = .error e) :=
  fun h => absurd ((encryptOperation_limit envelopeFixture
    (show hexDecode proposeAccountOperation.Public.data = some ((hexDecode proposeAccountOperation.Public.data).getD [])
      from rfl) (F := uuid.FromCanonical) rfl).mp h) (by decide)

end Node

end safe.signer

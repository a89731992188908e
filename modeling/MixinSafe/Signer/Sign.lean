import MixinSafe.Keeper.Request
import MixinSafe.Signer.Framing
import MixinSafe.Signer.Replay

namespace safe.signer

/-- The threshold-signature libraries the signer drives, over the `cmp` configuration
`σ` of an ECDSA share. A library error is an error of the session, and a library call
that the source panics on is a panic here. -/
structure Curves (σ : Type) where
  /-- `cmp.EmptyConfig(curve.Secp256k1{}).UnmarshalBinary`. -/
  UnmarshalCMP : List UInt8 → Except String σ
  /-- `conf.DeriveBIP32`. -/
  DeriveBIP32 : σ → UInt32 → Except String σ
  /-- `common.MarshalPanic(conf.PublicPoint())`. -/
  PublicPoint : σ → List UInt8
  /-- `conf.ChainKey`. -/
  ChainKey : σ → List UInt8
  /-- The public key and the chain key of a taproot share. -/
  UnmarshalTaproot : List UInt8 → Except String (List UInt8 × List UInt8)
  /-- The public point and the chain key of a `frost` share on Edwards25519. -/
  UnmarshalFrost : List UInt8 → Except String (List UInt8 × List UInt8)
  /-- `cmpKeygen`, `taprootKeygen` or `frostKeygen` of the session, by its curve: the
  public key and the share. -/
  Keygen : UInt8 → String → Except String (List UInt8 × List UInt8)
  /-- `cmpSign`, `taprootSign` or `frostSign` of the session, by its curve, over the
  members, the public key, the share, the message, the session and the path; only
  `cmpSign` reads the path. -/
  Sign : UInt8 → List String → String → List UInt8 → List UInt8 → String → List UInt8 → Except String (List UInt8)

namespace Curves

variable {σ : Type} (C : Curves σ)

/-- One turn of the ECDSA loop of `deriveByPath`: the share derived at `path[i+1]`. -/
def deriveStep (path : List UInt8) (conf : σ) (i : Nat) : Except String σ := do
  let index ← indexChecked path (i + 1)
  (C.DeriveBIP32 conf index.toUInt32).mapError ("panic: " ++ ·)

/-- `deriveByPath`: the public key and the chain key of the share; an ECDSA share is
first derived at `path[1]`, …, `path[path[0]]`. -/
def deriveByPath (common : Common) (crv : UInt8) (share path : List UInt8) :
    Except String (List UInt8 × List UInt8) :=
  if crv = common.CurveSecp256k1ECDSABitcoin ∨ crv = common.CurveSecp256k1ECDSAEthereum then do
    let conf ← (C.UnmarshalCMP share).mapError ("panic: " ++ ·)
    let n ← indexChecked path 0
    let conf ← (List.range n.toNat).foldlM (C.deriveStep path) conf
    return (C.PublicPoint conf, C.ChainKey conf)
  else if crv = common.CurveSecp256k1SchnorrBitcoin then (C.UnmarshalTaproot share).mapError ("panic: " ++ ·)
  else if crv = common.CurveEdwards25519Default ∨ crv = common.CurveEdwards25519Mixin then
    (C.UnmarshalFrost share).mapError ("panic: " ++ ·)
  else throw ("panic: " ++ toString crv)

/-- The derivation of an ECDSA share at each index of a list in turn. -/
def deriveAlong (conf : σ) (indices : List UInt8) : Except String σ :=
  indices.foldlM (fun conf p => (C.DeriveBIP32 conf p.toUInt32).mapError ("panic: " ++ ·)) conf

theorem deriveAlong_append (conf : σ) (l l' : List UInt8) :
    C.deriveAlong conf (l ++ l') = C.deriveAlong conf l >>= fun conf => C.deriveAlong conf l' :=
  List.foldlM_append _ _ _ _

/-- The first `n` turns of the loop, while `path[n]` is inside the path, derive along
`path[1..n]`. -/
theorem foldlM_deriveStep_of_lt {path : List UInt8} (conf : σ) {n : Nat} (hn : n < path.length) :
    (List.range n).foldlM (C.deriveStep path) conf = C.deriveAlong conf ((path.drop 1).take n) := by
  induction n with
  | zero => rfl
  | succ n ih =>
    have hget : (path.drop 1)[n]? = some path[n + 1] := by simp [List.getElem?_drop, Nat.add_comm]
    rw [List.range_succ, List.foldlM_append, ih (by omega), List.take_succ, hget, deriveAlong_append]
    simp [deriveStep, indexChecked_of_lt hn, deriveAlong]

/-- A loop that runs past the last index derives along the whole rest of the path and
then indexes out of range. -/
theorem foldlM_deriveStep_of_le {path : List UInt8} (conf : σ) {n : Nat} (hp : path ≠ []) (hn : path.length ≤ n) :
    (List.range n).foldlM (C.deriveStep path) conf = C.deriveAlong conf (path.drop 1) >>= fun _ =>
      .error s!"panic: runtime error: index out of range [{path.length}] with length {path.length}" := by
  have hlen : 0 < path.length := List.length_pos.mpr hp
  obtain ⟨k, rfl⟩ : ∃ k, n = (path.length - 1) + (k + 1) := ⟨n - path.length, by omega⟩
  have hdrop : (path.drop 1).take (path.length - 1) = path.drop 1 := List.take_of_length_le (by simp)
  rw [List.range_add, List.foldlM_append, foldlM_deriveStep_of_lt C conf (by omega), hdrop, List.range_succ_eq_map]
  congr 1
  funext conf'
  simp only [List.map_cons, List.foldlM_cons, deriveStep, Nat.add_zero, Nat.sub_add_cancel hlen,
    indexChecked_of_le le_rfl, error_bind]

end Curves

namespace Node

/-- What `readKeyByFingerPath` accepts: hex of twelve bytes, a fingerprint and a path
whose first byte is at most 3, and the key stored under the fingerprint. -/
theorem readKeyByFingerPath_ok {s : SQLite3Store} {public key : String} {crv : UInt8} {share path : List UInt8}
    (h : readKeyByFingerPath s public = .ok (key, crv, share, path)) :
    ∃ fingerPath, hexDecode public.data = some fingerPath ∧ fingerPath.length = 12 ∧ (fingerPath.getD 8 0).toNat ≤ 3 ∧
      s.ReadKeyByFingerprint (hexEncode (fingerPath.take 8)) = (key, crv, share) ∧ path = fingerPath.drop 8 := by
  unfold readKeyByFingerPath at h
  split at h
  · rename_i fingerPath hdec
    split_ifs at h with hbad
    simp only [pure_eq_ok, Except.ok.injEq] at h
    push_neg at hbad
    refine ⟨fingerPath, hdec, hbad.1, UInt8.not_lt.mp hbad.2, ?_⟩
    cases hk : s.ReadKeyByFingerprint (hexEncode (fingerPath.take 8))
    rw [hk] at h
    cases h
    exact ⟨rfl, rfl⟩
  · cases h

/-- The path `readKeyByFingerPath` hands on has four bytes and a first byte of at most 3. -/
theorem readKeyByFingerPath_path {s : SQLite3Store} {public key : String} {crv : UInt8} {share path : List UInt8}
    (h : readKeyByFingerPath s public = .ok (key, crv, share, path)) :
    path.length = 4 ∧ (path.headD 0).toNat ≤ 3 := by
  obtain ⟨fingerPath, -, h12, h3, -, rfl⟩ := readKeyByFingerPath_ok h
  have hhead : (fingerPath.drop 8).headD 0 = fingerPath.getD 8 0 := by
    simp [List.headD_eq_head?_getD, List.head?_drop, List.getD_eq_getElem?_getD]
  exact ⟨by simp [h12], hhead ▸ h3⟩

/-- The key a fingerprint path reads depends on the keys table only. -/
theorem readKeyByFingerPath_of_keys {s t : SQLite3Store} (h : t.keys = s.keys) (public : String) :
    readKeyByFingerPath t public = readKeyByFingerPath s public := by
  simp only [readKeyByFingerPath, SQLite3Store.ReadKeyByFingerprint_of_keys h]

end Node

namespace Curves

variable {σ : Type} (C : Curves σ) (common : Common) {crv : UInt8} {share path : List UInt8}

/-- The ECDSA case on a path whose first byte indexes inside it: the share is derived
along `path[1..path[0]]`. -/
theorem deriveByPath_ecdsa_of_lt
    (hcrv : crv = common.CurveSecp256k1ECDSABitcoin ∨ crv = common.CurveSecp256k1ECDSAEthereum)
    (hp : path ≠ []) (hlt : (path.headD 0).toNat < path.length) :
    C.deriveByPath common crv share path = do
      let conf ← (C.UnmarshalCMP share).mapError ("panic: " ++ ·)
      let conf ← C.deriveAlong conf ((path.drop 1).take (path.headD 0).toNat)
      return (C.PublicPoint conf, C.ChainKey conf) := by
  obtain ⟨p, rest, rfl⟩ := List.exists_cons_of_ne_nil hp
  simp only [List.headD_cons] at hlt ⊢
  simp only [deriveByPath, if_pos hcrv, indexChecked_of_lt (List.length_pos.mpr hp), List.getElem_cons_zero,
    ok_bind, fun conf => foldlM_deriveStep_of_lt C conf hlt]

/-- The ECDSA case on a path whose first byte points past its end: the share is
derived along the whole rest of the path, and the next index is out of range. -/
theorem deriveByPath_ecdsa_of_le
    (hcrv : crv = common.CurveSecp256k1ECDSABitcoin ∨ crv = common.CurveSecp256k1ECDSAEthereum)
    (hp : path ≠ []) (hle : path.length ≤ (path.headD 0).toNat) :
    C.deriveByPath common crv share path = (do
      let conf ← (C.UnmarshalCMP share).mapError ("panic: " ++ ·)
      let _ ← C.deriveAlong conf (path.drop 1)
      .error s!"panic: runtime error: index out of range [{path.length}] with length {path.length}") := by
  obtain ⟨p, rest, rfl⟩ := List.exists_cons_of_ne_nil hp
  simp only [List.headD_cons] at hle ⊢
  simp only [deriveByPath, if_pos hcrv, indexChecked_of_lt (List.length_pos.mpr hp), List.getElem_cons_zero,
    ok_bind, fun conf => foldlM_deriveStep_of_le C conf hp hle, bind_assoc, error_bind]

/-- Every path that `readKeyByFingerPath` hands on has four bytes and a first byte of
at most 3, so the ECDSA derivation runs along `path[1..path[0]]` and never indexes out
of range. The bound is the one that keeps it so: on a four-byte path whose first byte
is above 3, the derivation indexes out of range once its three steps succeed. -/
theorem deriveByPath_fingerPath :
    (∀ {s : SQLite3Store} {public key : String} {crv' : UInt8},
      Node.readKeyByFingerPath s public = .ok (key, crv', share, path) →
      (crv = common.CurveSecp256k1ECDSABitcoin ∨ crv = common.CurveSecp256k1ECDSAEthereum) →
      path.length = 4 ∧ (path.headD 0).toNat ≤ 3 ∧
        C.deriveByPath common crv share path = do
          let conf ← (C.UnmarshalCMP share).mapError ("panic: " ++ ·)
          let conf ← C.deriveAlong conf ((path.drop 1).take (path.headD 0).toNat)
          return (C.PublicPoint conf, C.ChainKey conf)) ∧
    (∀ {conf conf' : σ},
      (crv = common.CurveSecp256k1ECDSABitcoin ∨ crv = common.CurveSecp256k1ECDSAEthereum) →
      path.length = 4 → 3 < (path.headD 0).toNat → C.UnmarshalCMP share = .ok conf →
      C.deriveAlong conf (path.drop 1) = .ok conf' →
      C.deriveByPath common crv share path = .error "panic: runtime error: index out of range [4] with length 4") := by
  refine ⟨fun hread hcrv => ?_, fun hcrv hlen hgt hconf hderive => ?_⟩
  · obtain ⟨hlen, h3⟩ := Node.readKeyByFingerPath_path hread
    exact ⟨hlen, h3, deriveByPath_ecdsa_of_lt C common hcrv (List.ne_nil_of_length_pos (by omega)) (by omega)⟩
  · have hp : path ≠ [] := List.ne_nil_of_length_pos (by omega)
    rw [deriveByPath_ecdsa_of_le C common hcrv hp (by omega), hconf]
    simp only [Except.mapError, ok_bind, hderive, hlen]
    rfl

/-- Libraries that record the indices a share is derived at, make the key `0207` with
share `[9]`, and sign a message by echoing it. -/
def fixture : Curves (List UInt32) where
  UnmarshalCMP := fun _ => .ok []
  DeriveBIP32 := fun conf i => .ok (conf ++ [i])
  PublicPoint := fun conf => conf.map UInt32.toUInt8
  ChainKey := fun _ => []
  UnmarshalTaproot := fun _ => .ok ([], [])
  UnmarshalFrost := fun _ => .ok ([], [])
  Keygen := fun _ _ => .ok ([2, 7], [9])
  Sign := fun _ _ _ _ msg _ _ => .ok msg

/-- A store holding the key `0207` under the fingerprint `0102030405060708`. -/
def keyStore : SQLite3Store :=
  ⟨[], [], [⟨"0207", hexEncode [1, 2, 3, 4, 5, 6, 7, 8], 1, [9]⟩], List.nodup_nil, List.nodup_nil⟩

/-- The path `[2, 0, 7, 0]` read for that key derives at indices 0 and 7; the path
`[5, 0, 7, 0]` indexes out of range. -/
theorem deriveByPath_fingerPath_fixture :
    fixture.deriveByPath Common.fixture 1 [9] [2, 0, 7, 0] = .ok ([0, 7], []) ∧
      fixture.deriveByPath Common.fixture 1 [9] [5, 0, 7, 0] =
        .error "panic: runtime error: index out of range [4] with length 4" :=
  ⟨((deriveByPath_fingerPath fixture Common.fixture).1
      (show Node.readKeyByFingerPath keyStore (hexEncode ([1, 2, 3, 4, 5, 6, 7, 8] ++ [2, 0, 7, 0])) =
        .ok ("0207", 1, [9], [2, 0, 7, 0]) from rfl) (Or.inl rfl)).2.2.trans rfl,
    (deriveByPath_fingerPath fixture Common.fixture).2 (Or.inl rfl) rfl (by decide) rfl rfl⟩

end Curves

/-- A signer node that files every key under the fingerprint `0102030405060708`. -/
def Node.signerFixture : Node := { Node.fixture with Fingerprint := fun _ => [1, 2, 3, 4, 5, 6, 7, 8] }

/-- A keygen on curve 1. -/
def keygenOperation : Operation := ⟨"s-keygen", 1, 1, "", []⟩

/-- A signature of the message `[5, 5]` on curve 1 with the key of fingerprint
`0102030405060708`, along the path `[0, 0, 0, 0]`. -/
def signOperation : Operation := ⟨"s-sign", 2, 1, hexEncode ([1, 2, 3, 4, 5, 6, 7, 8] ++ [0, 0, 0, 0]), [5, 5]⟩

namespace Node

variable (common : Common) (node : Node) {σ : Type} (C : Curves σ)

/-- `startKeygen`: the outer error is a panic. A keygen or a backup that fails fails
the session; otherwise the share is stored under the new public key. -/
def startKeygen (backup : Operation → List UInt8 → Except String Bool) (s : SQLite3Store) (op : Operation) :
    Except String (Except String SQLite3Store) :=
  if ¬ common.IsSignerCurve op.Curve then throw ("panic: " ++ op.Id)
  else match C.Keygen op.Curve op.Id with
  | .error _ => pure (.ok (s.FailSession op.Id))
  | .ok (public, share) =>
    match backup { op with Public := hexEncode public } share with
    | .error _ => pure (.ok (s.FailSession op.Id))
    | .ok _ => pure (.ok (s.WriteKeyIfNotExists node.Fingerprint op.Curve (hexEncode public) share))

/-- `startSign`: the outer error is a panic, the inner one the error returned, and the
store is the one the session's move leaves. A member not among the signers commits
nothing; a key that is not stored fails the session, as does a signature the library
does not produce. -/
def startSign (s : SQLite3Store) (op : Operation) (members : List String) :
    Except String (Except String SQLite3Store) :=
  if node.id ∉ members then pure (.ok s)
  else match readKeyByFingerPath s op.Public with
  | .error err => pure (.error ("node.readKeyByFingerPath(" ++ op.Public ++ ") => " ++ err))
  | .ok (public, crv, share, path) =>
    if public = "" then pure (.ok (s.FailSession op.Id))
    else if crv ≠ op.Curve then
      pure (.error ("node.startSign(" ++ op.format ++ ") invalid curve " ++ toString crv ++ " " ++ toString op.Curve))
    else do
      let fingerprint ← prefixChecked op.Public 16
      let sum := hexEncode (node.Fingerprint public)
      if sum ≠ fingerprint then pure (.error ("node.startSign(" ++ op.format ++ ") invalid sum " ++ sum ++ " " ++ fingerprint))
      else if ¬ common.IsSignerCurve op.Curve then throw ("panic: " ++ op.Id)
      else pure (match C.Sign op.Curve members public share op.Extra op.Id path with
        | .error _ => .ok (s.FailSession op.Id)
        | .ok sig => .ok (s.MarkSessionPending op.Id op.Curve op.Public (concatMessageAndSignature op.Extra sig)))

/-- `startOperation`: the keygen or the signature of the operation. -/
def startOperation (backup : Operation → List UInt8 → Except String Bool) (s : SQLite3Store) (op : Operation)
    (members : List String) : Except String (Except String SQLite3Store) :=
  if op.«Type» = common.OperationTypeKeygenInput then node.startKeygen common C backup s op
  else if op.«Type» = common.OperationTypeSignInput then node.startSign common C s op members
  else throw ("panic: " ++ op.Id)

section Start

variable {s : SQLite3Store} {op : Operation} {members : List String}

/-- What a member's `startSign` leaves once it does not panic: the session failed, or
moved to `Pending` with the operation's message packed with the signature the library
produced for the key found at the operation's fingerprint, once the fingerprint's
checksum held. -/
private theorem startSign_member (hmem : node.id ∈ members) (hcurve : common.IsSignerCurve op.Curve) :
    ∃ r, node.startSign common C s op members = .ok r ∧ ∀ s', r = .ok s' →
      s' = s.FailSession op.Id ∨
      ∃ public share path sig, readKeyByFingerPath s op.Public = .ok (public, op.Curve, share, path) ∧
        hexEncode (node.Fingerprint public) = ⟨op.Public.data.take 16⟩ ∧
        C.Sign op.Curve members public share op.Extra op.Id path = .ok sig ∧
        s' = s.MarkSessionPending op.Id op.Curve op.Public (concatMessageAndSignature op.Extra sig) := by
  rw [startSign, if_neg (not_not_intro hmem)]
  cases hread : readKeyByFingerPath s op.Public with
  | error e => exact ⟨_, rfl, fun s' h => nomatch h⟩
  | ok v =>
    obtain ⟨public, crv, share, path⟩ := v
    dsimp only
    by_cases hpub : public = ""
    · rw [if_pos hpub]
      exact ⟨_, rfl, fun s' h => .inl (Except.ok.inj h).symm⟩
    rw [if_neg hpub]
    by_cases hcrv : crv = op.Curve
    swap
    · rw [if_pos hcrv]
      exact ⟨_, rfl, fun s' h => nomatch h⟩
    rw [if_neg (not_not_intro hcrv)]
    subst hcrv
    obtain ⟨fp, hdec, h12, -⟩ := readKeyByFingerPath_ok hread
    have hlen : op.Public.length = 24 := by rw [← String.length_data, hexDecode_length hdec, h12]
    simp only [prefixChecked, hlen, show ¬ (24 < 16) by omega, if_false, ok_bind, if_neg (not_not_intro hcurve)]
    by_cases hsum : hexEncode (node.Fingerprint public) = ⟨op.Public.data.take 16⟩
    swap
    · rw [if_pos hsum]
      exact ⟨_, rfl, fun s' h => nomatch h⟩
    rw [if_neg (not_not_intro hsum)]
    refine ⟨_, rfl, fun s' h => ?_⟩
    cases hsig : C.Sign op.Curve members public share op.Extra op.Id path with
    | error e => rw [hsig] at h; exact .inl (Except.ok.inj h).symm
    | ok sig => rw [hsig] at h; exact .inr ⟨public, share, path, sig, rfl, hsum, hsig, (Except.ok.inj h).symm⟩

/-- `startSign` never panics on an operation of a signer curve: the slice
`op.Public[:16]` is taken only after the public key decoded to twelve bytes. A node not
among the signers leaves the store as it was and returns no error. For a member, an
error leaves the store to the caller, and otherwise the session is failed, or moved to
`Pending` with the operation's message packed with the signature the library produced
for the key found at the operation's fingerprint, once the fingerprint's checksum
held. -/
theorem startSign_outcome (hcurve : common.IsSignerCurve op.Curve) :
    ∃ r, node.startSign common C s op members = .ok r ∧ (∀ e, r = .error e → node.id ∈ members) ∧
      ∀ s', r = .ok s' → (node.id ∉ members ∧ s' = s) ∨ node.id ∈ members ∧ (s' = s.FailSession op.Id ∨
      ∃ public share path sig, readKeyByFingerPath s op.Public = .ok (public, op.Curve, share, path) ∧
        hexEncode (node.Fingerprint public) = ⟨op.Public.data.take 16⟩ ∧
        C.Sign op.Curve members public share op.Extra op.Id path = .ok sig ∧
        s' = s.MarkSessionPending op.Id op.Curve op.Public (concatMessageAndSignature op.Extra sig)) := by
  by_cases hmem : node.id ∈ members
  · obtain ⟨r, hr, hs⟩ := startSign_member common node C hmem hcurve
    exact ⟨r, hr, fun _ _ => hmem, fun s' h => .inr ⟨hmem, hs s' h⟩⟩
  · refine ⟨.ok s, ?_, fun e h => ?_, fun s' h => .inl ⟨hmem, (Except.ok.inj h).symm⟩⟩
    · rw [startSign, if_pos hmem]
      rfl
    · cases h

/-- The signature of `signOperation` by a member holding its key does not panic. -/
theorem startSign_outcome_fixture :
    ∃ r, signerFixture.startSign Common.fixture Curves.fixture Curves.keyStore signOperation ["m1"] = .ok r :=
  (startSign_outcome Common.fixture signerFixture Curves.fixture
    (show Common.fixture.IsSignerCurve signOperation.Curve by decide)).imp fun _ h => h.1

/-- A fingerprint path, the hex of an 8-byte fingerprint and a 4-byte path, reads the
key stored under the fingerprint and hands on the path. -/
theorem readKeyByFingerPath_hexEncode {fp path : List UInt8} (hfp : fp.length = 8) (hpath : path.length = 4)
    (h0 : (path.headD 0).toNat ≤ 3) :
    readKeyByFingerPath s (hexEncode (fp ++ path)) =
      .ok ((s.ReadKeyByFingerprint (hexEncode fp)).1, (s.ReadKeyByFingerprint (hexEncode fp)).2.1,
        (s.ReadKeyByFingerprint (hexEncode fp)).2.2, path) := by
  obtain ⟨p, rest, rfl⟩ := List.exists_cons_of_ne_nil (List.ne_nil_of_length_pos (show 0 < path.length by omega))
  have hget : (fp ++ p :: rest).getD 8 0 = p := by
    rw [List.getD_eq_getElem?_getD, List.getElem?_append_right (by omega), hfp]
    simp
  have hle : ¬ p > 3 := UInt8.not_lt.mpr (by simpa using h0)
  have hdec : hexDecode (hexEncode (fp ++ p :: rest)).toList = some (fp ++ p :: rest) := hexDecode_hexEncode _
  rw [readKeyByFingerPath, hdec]
  dsimp only
  rw [if_neg (by rw [hget]; simp [hfp, hpath, hle]), List.take_left' hfp, List.drop_left' hfp]
  rfl

/-- The first sixteen digits of that path are the fingerprint's. -/
theorem prefixChecked_hexEncode {fp path : List UInt8} (hfp : fp.length = 8) :
    prefixChecked (hexEncode (fp ++ path)) 16 = .ok (hexEncode fp) := by
  have hlen : (hexEncode fp).data.length = 16 := by rw [String.length_data, hexEncode_length, hfp]
  have hall : (hexEncode (fp ++ path)).length = 16 + 2 * path.length := by
    simp only [hexEncode_length, List.length_append, hfp]
    omega
  simp only [prefixChecked, hall, show ¬ (16 + 2 * path.length < 16) by omega, if_false]
  rw [hexEncode_append, String.data_append, List.take_left' hlen]

/-- The signature of a member whose key is found on the operation's curve and passes
the checksum: the library is called with the key and the path, and the session fails
or moves to `Pending` with the message and the signature packed. -/
theorem startSign_of_key {public : String} {share path : List UInt8} (hmem : node.id ∈ members)
    (hread : readKeyByFingerPath s op.Public = .ok (public, op.Curve, share, path)) (hne : public ≠ "")
    (hsum : prefixChecked op.Public 16 = .ok (hexEncode (node.Fingerprint public)))
    (hcurve : common.IsSignerCurve op.Curve) :
    node.startSign common C s op members = .ok (match C.Sign op.Curve members public share op.Extra op.Id path with
      | .error _ => .ok (s.FailSession op.Id)
      | .ok sig => .ok (s.MarkSessionPending op.Id op.Curve op.Public (concatMessageAndSignature op.Extra sig))) := by
  simp only [startSign, hmem, not_true_eq_false, if_false, hread, hne, ne_eq, hsum, ok_bind, hcurve]
  rfl

/-- A key made by `startKeygen` is the key a later signature uses: once the session's
keygen and backup succeed, a sign operation on the keygen's curve whose public key is
the hex of the new key's fingerprint and a path reaches the signing library with the
new public key, its share and the path, and its session then fails or moves to
`Pending` with the message and the signature packed. This holds in a store
whose keys are filed under their fingerprints and hold none with the new key's. -/
theorem startKeygen_startSign {backup : Operation → List UInt8 → Except String Bool} {kop : Operation}
    {pub share path : List UInt8} {saved : Bool}
    (hkeys : ∀ k ∈ s.keys, k.Fingerprint = hexEncode (node.Fingerprint k.Public))
    (hfresh : ∀ k ∈ s.keys, k.Fingerprint ≠ hexEncode (node.Fingerprint (hexEncode pub)))
    (hcurve : common.IsSignerCurve kop.Curve) (hkeygen : C.Keygen kop.Curve kop.Id = .ok (pub, share))
    (hbackup : backup { kop with Public := hexEncode pub } share = .ok saved) (hpub : pub ≠ [])
    (hfp : (node.Fingerprint (hexEncode pub)).length = 8) (hmem : node.id ∈ members) (hcrv : op.Curve = kop.Curve)
    (hop : op.Public = hexEncode (node.Fingerprint (hexEncode pub) ++ path)) (hpath : path.length = 4)
    (h0 : (path.headD 0).toNat ≤ 3) :
    ∃ s', node.startKeygen common C backup s kop = .ok (.ok s') ∧
      node.startSign common C s' op members =
        .ok (match C.Sign op.Curve members (hexEncode pub) share op.Extra op.Id path with
          | .error _ => .ok (s'.FailSession op.Id)
          | .ok sig => .ok (s'.MarkSessionPending op.Id op.Curve op.Public (concatMessageAndSignature op.Extra sig))) := by
  refine ⟨s.WriteKeyIfNotExists node.Fingerprint kop.Curve (hexEncode pub) share, ?_, ?_⟩
  · simp only [startKeygen, hcurve, not_true_eq_false, if_false, hkeygen, hbackup]
    rfl
  · have hkey : (s.WriteKeyIfNotExists node.Fingerprint kop.Curve (hexEncode pub) share).ReadKeyByFingerprint
        (hexEncode (node.Fingerprint (hexEncode pub))) = (hexEncode pub, kop.Curve, share) :=
      SQLite3Store.ReadKeyByFingerprint_WriteKeyIfNotExists hkeys hfresh
    refine startSign_of_key common node C hmem ?_ (mt (hexEncode_eq_empty_iff pub).mp hpub)
      (by rw [hop, prefixChecked_hexEncode hfp]) (hcrv ▸ hcurve)
    rw [hop, readKeyByFingerPath_hexEncode hfp hpath h0, hkey, hcrv]

/-- The keygen of `0207` on an empty store, then the signature of `[5, 5]` with it. -/
theorem startKeygen_startSign_fixture :
    ∃ s', signerFixture.startKeygen Common.fixture Curves.fixture (fun _ _ => .ok true) SQLite3Store.empty
        keygenOperation = .ok (.ok s') ∧
      signerFixture.startSign Common.fixture Curves.fixture s' signOperation ["m1"] =
        .ok (.ok (s'.MarkSessionPending signOperation.Id 1 signOperation.Public (concatMessageAndSignature [5, 5] [5, 5]))) :=
  startKeygen_startSign Common.fixture signerFixture Curves.fixture (fun _ h => nomatch h) (fun _ h => nomatch h)
    (by decide) rfl rfl (by decide) rfl (by decide) rfl rfl rfl (by decide)

end Start

section SignOutput

variable {s s' : SQLite3Store} {op op' : Operation} {session : Session} {signers : List (String × String)}
  {sig : Option (List UInt8)} {m : List UInt8}

/-- The sign output of a prepared `Initial` sign session of an ECDSA curve, whose
message is below `2^32 - 4` bytes, on a node whose `deriveByPath` is node.go's. The
output carries the aggregated signature, which has at least 28 bytes, and the key's
holder. That signature was accepted by `VerifyCurveSignature` on exactly the session's
message, under the public key of the share stored for the session's fingerprint, derived
along `path[1..path[0]]` of a four-byte path whose first byte is at most 3. The session
is left `Pending` with the message and the signature packed. -/
theorem signerOutput_sign_verified (hderive : node.deriveByPath = C.deriveByPath common)
    (hop : session.Operation = common.OperationTypeSignInput)
    (hc : session.State = RequestStateInitial ∧ session.PreparedAt.isSome)
    (hm : DecodeHexOrPanic session.Extra = .ok m) (hmlen : m.length < 2 ^ 32 - 4)
    (hecdsa : session.Curve = common.CurveSecp256k1ECDSABitcoin ∨ session.Curve = common.CurveSecp256k1ECDSAEthereum)
    (h : node.signerOutput common s op session signers sig = .ok (some op', s')) :
    ∃ sigb holder share path conf₀ conf, sig = some sigb ∧ 28 ≤ sigb.length ∧
      readKeyByFingerPath s session.Public = .ok (holder, session.Curve, share, path) ∧
      path.length = 4 ∧ (path.headD 0).toNat ≤ 3 ∧ C.UnmarshalCMP share = .ok conf₀ ∧
      C.deriveAlong conf₀ ((path.drop 1).take (path.headD 0).toNat) = .ok conf ∧
      node.VerifyCurveSignature session.Curve holder (C.PublicPoint conf) m sigb = .ok true ∧
      op' = ⟨op.Id, common.OperationTypeSignOutput, session.Curve, holder, sigb⟩ ∧
      s' = s.MarkSessionPending session.Id session.Curve session.Public (concatMessageAndSignature m sigb) := by
  rw [signerOutput, hop, if_neg (Ne.symm common.inputs_ne), if_pos rfl] at h
  obtain ⟨⟨s₁, session₁⟩, hmark, h⟩ := bind_eq_ok.mp h
  obtain ⟨o, ho, h⟩ := bind_eq_ok.mp h
  simp only [pure_eq_ok, Except.ok.injEq, Prod.mk.injEq] at h
  obtain ⟨rfl, rfl⟩ := h
  obtain ⟨rfl, hcurve, hpub, -⟩ := markSignPending_extra hc hm hmark
  have hkeys : readKeyByFingerPath (s.MarkSessionPending session.Id session.Curve session.Public
      (concatMessageAndSignature m (sig.getD []))) session₁.Public = readKeyByFingerPath s session.Public := by
    rw [hpub]
    exact readKeyByFingerPath_of_keys (by simp) _
  cases hkey : readKeyByFingerPath s session.Public with
  | error e => simp [signOutput, hkeys, hkey, Except.mapError] at ho
  | ok v =>
  obtain ⟨holder, crv, share, path⟩ := v
  by_cases hcrv : crv = session.Curve
  swap
  · simp [signOutput, hkeys, hkey, Except.mapError, hcrv] at ho
  subst hcrv
  rw [signOutput_markSignPending common node hc hm hmlen hmark (by rw [hkeys, hkey]), hcurve] at ho
  split_ifs at ho with hlt
  · simp at ho
  obtain ⟨hlen, h3⟩ := readKeyByFingerPath_path hkey
  rw [hderive, Curves.deriveByPath_ecdsa_of_lt C common hecdsa (List.ne_nil_of_length_pos (by omega)) (by omega)] at ho
  obtain ⟨⟨public, chain⟩, hder, ho⟩ := bind_eq_ok.mp ho
  obtain ⟨conf₀, hconf₀, hder⟩ := bind_eq_ok.mp hder
  obtain ⟨conf, hconf, hder⟩ := bind_eq_ok.mp hder
  simp only [pure_eq_ok, Except.ok.injEq, Prod.mk.injEq] at hder
  obtain ⟨rfl, -⟩ := hder
  obtain ⟨valid, hvalid, ho⟩ := bind_eq_ok.mp ho
  cases sig with
  | none => simp at hlt
  | some sigb =>
  cases valid
  · simp at ho
  simp only [pure_eq_ok, if_true, Except.ok.injEq, Option.some.injEq] at ho
  exact ⟨sigb, holder, share, path, conf₀, conf, rfl, by simpa using hlt, rfl, hlen, h3, mapError_eq_ok.mp hconf₀,
    hconf, hvalid, ho.symm, rfl⟩

/-- The result fixture's node, deriving keys as node.go does over the recording
libraries. -/
def verifyingFixture : Node := { resultFixture with deriveByPath := Curves.fixture.deriveByPath Common.fixture }

/-- The session `s1` as `resultStore` holds it. -/
def resultSession : Session := ⟨"s1", "tx", 0, 2, 1, resultPublic, hexEncode [5, 5], RequestStateInitial, 5, some 7⟩

/-- The signature of `[5, 5]` that `m1` and `m2` reported is sent for `s1`, verified under
the key `0207` derived along the empty part of the path `[0, 0, 0, 0]`. -/
theorem signerOutput_sign_verified_fixture :
    ∃ op' s', verifyingFixture.signerOutput Common.fixture resultStore ⟨"s1", 2, 1, "", resultSignature⟩
        resultSession [] (some resultSignature) = .ok (some op', s') ∧
      ∃ sigb holder share path conf₀ conf, some resultSignature = some sigb ∧ 28 ≤ sigb.length ∧
        readKeyByFingerPath resultStore resultSession.Public = .ok (holder, resultSession.Curve, share, path) ∧
        path.length = 4 ∧ (path.headD 0).toNat ≤ 3 ∧ Curves.fixture.UnmarshalCMP share = .ok conf₀ ∧
        Curves.fixture.deriveAlong conf₀ ((path.drop 1).take (path.headD 0).toNat) = .ok conf ∧
        verifyingFixture.VerifyCurveSignature resultSession.Curve holder (Curves.fixture.PublicPoint conf) [5, 5] sigb =
          .ok true ∧
        op' = ⟨"s1", Common.fixture.OperationTypeSignOutput, resultSession.Curve, holder, sigb⟩ ∧
        s' = resultStore.MarkSessionPending resultSession.Id resultSession.Curve resultSession.Public
          (concatMessageAndSignature [5, 5] sigb) :=
  ⟨_, _, rfl, signerOutput_sign_verified Common.fixture verifyingFixture Curves.fixture rfl
    (show resultSession.Operation = Common.fixture.OperationTypeSignInput from rfl)
    (show resultSession.State = RequestStateInitial ∧ resultSession.PreparedAt.isSome from ⟨rfl, rfl⟩)
    (show DecodeHexOrPanic resultSession.Extra = .ok [5, 5] from rfl) (by decide) (.inl rfl)
    (show verifyingFixture.signerOutput Common.fixture resultStore ⟨"s1", 2, 1, "", resultSignature⟩ resultSession
      [] (some resultSignature) = .ok (some _, _) from rfl)⟩

end SignOutput

section KeeperRequest

open safe.keeper (SignerGroup Keeper)

variable {s : SQLite3Store} {op : Operation} {members : List String}

/-- A public key that decodes to other than twelve bytes is refused. -/
theorem readKeyByFingerPath_of_length {b : List UInt8} (hlen : b.length ≠ 12) :
    readKeyByFingerPath s (hexEncode b) =
      .error ("node.readKeyByFingerPath(" ++ hexEncode b ++ ") invalid fingerprint") := by
  rw [readKeyByFingerPath, show hexDecode (hexEncode b).toList = some b from hexDecode_hexEncode b]
  simp [hlen]

/-- A member whose fingerprint path is refused returns the refusal. -/
theorem startSign_of_readKeyByFingerPath_error {e : String} (hmem : node.id ∈ members)
    (h : readKeyByFingerPath s op.Public = .error e) :
    node.startSign common C s op members = .ok (.error ("node.readKeyByFingerPath(" ++ op.Public ++ ") => " ++ e)) := by
  simp only [startSign, hmem, not_true_eq_false, if_false, h]
  rfl

/-- `sendSignerSignRequest` of keeper/store/safe.go names the key to sign with by the
hex of `common.ShortSum` of the signer key. A request it sends without panicking is one
transaction, the encryption of an envelope that decodes to a sign operation on a signer
curve. When `ShortSum` of the request's signer key is not twelve bytes long, every
member that starts the operation returns the refusal of `readKeyByFingerPath`, on which
`loopInitialSessions` panics. -/
theorem sendSignerSignRequest_refused {g : SignerGroup} {ShortSum : String → List UInt8}
    {req : keeper.store.SignatureRequest} {k k' : Keeper} {backup : Operation → List UInt8 → Except String Bool}
    (hmem : node.id ∈ members) (hsum : (ShortSum req.Signer).length ≠ 12)
    (hsend : g.sendSignerSignRequest common ShortSum k req = .ok k') :
    ∃ b op, k'.transactions = k.transactions ++
        [⟨g.AssetId, g.Members, g.Threshold, "1", g.AESEncrypt b req.RequestId, req.RequestId⟩] ∧
      safe.signer.DecodeOperation b = .ok op ∧ op.«Type» = common.OperationTypeSignInput ∧ common.IsSignerCurve op.Curve ∧
      node.startOperation common C backup s op members =
        .ok (.error ("node.readKeyByFingerPath(" ++ hexEncode (ShortSum req.Signer) ++ ") => " ++
          ("node.readKeyByFingerPath(" ++ hexEncode (ShortSum req.Signer) ++ ") invalid fingerprint"))) := by
  obtain ⟨extra, b, hcurve, -, hb, htx⟩ := SignerGroup.sendSignerSignRequest_eq_ok hsend
  obtain ⟨wp, we, hwp, hwe, rfl⟩ := (Operation.Encode_eq_ok_iff (hexDecode_hexEncode (ShortSum req.Signer))).mp hb
  refine ⟨_, _, htx, Operation.DecodeOperation_envelope _ _ _ hwp hwe, rfl,
    by simp [Common.IsSignerCurve, SignerGroup.signOperation, hcurve], ?_⟩
  simp only [startOperation, SignerGroup.signOperation, if_neg (Ne.symm common.inputs_ne), if_true]
  exact startSign_of_readKeyByFingerPath_error common node C hmem (readKeyByFingerPath_of_length hsum)

/-- Member `m1` refuses the keeper's request to sign `0505` with a key named by an
8-byte sum. -/
theorem sendSignerSignRequest_refused_fixture :
    ∃ k', SignerGroup.fixture.sendSignerSignRequest Common.fixture SignerGroup.shortSum SignerGroup.keygenKeeper
        SignerGroup.signRequest = .ok k' ∧
      ∃ b op, k'.transactions = SignerGroup.keygenKeeper.transactions ++ [⟨"signer-asset", ["s1", "s2", "s3"], 2, "1", b, "r5"⟩] ∧
        safe.signer.DecodeOperation b = .ok op ∧ op.«Type» = 2 ∧ Common.fixture.IsSignerCurve op.Curve ∧
        signerFixture.startOperation Common.fixture Curves.fixture (fun _ _ => .ok true) SQLite3Store.empty op ["m1"] =
          .ok (.error "node.readKeyByFingerPath(0102030405060708) => node.readKeyByFingerPath(0102030405060708) invalid fingerprint") :=
  ⟨_, rfl, sendSignerSignRequest_refused Common.fixture signerFixture Curves.fixture (show "m1" ∈ ["m1"] by decide)
    (show (SignerGroup.shortSum SignerGroup.signRequest.Signer).length ≠ 12 by decide)
    (show SignerGroup.fixture.sendSignerSignRequest Common.fixture SignerGroup.shortSum SignerGroup.keygenKeeper
      SignerGroup.signRequest = .ok _ from rfl)⟩

end KeeperRequest

end Node

end safe.signer

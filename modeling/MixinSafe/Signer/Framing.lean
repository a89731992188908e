import MixinSafe.Signer.Node

namespace safe.signer

namespace Node

section Split

variable {extra : List UInt8} {el : Nat}

private theorem sliceChecked_head (h4 : 4 ≤ extra.length) : sliceChecked extra 0 4 = .ok (extra.take 4) := by
  rw [sliceChecked_of_le (by omega) h4]
  simp [slice]

/-- An extra shorter than its message length and 32 is rejected. -/
theorem splitSessionSignature_none (h4 : 4 ≤ extra.length) (hel : beUint (extra.take 4) = el)
    (hlen : extra.length < el + 32) : splitSessionSignature extra = .ok none := by
  simp only [splitSessionSignature, sliceChecked_head h4, ok_bind, hel, hlen, if_true, pure_eq_ok]

/-- Past the length check, a message length below `2^32 - 4` splits the extra within
its bounds. -/
theorem splitSessionSignature_some (h4 : 4 ≤ extra.length) (hel : beUint (extra.take 4) = el)
    (hlen : el + 32 ≤ extra.length) (hwrap : el < 2 ^ 32 - 4) :
    splitSessionSignature extra = .ok (some (slice extra 4 (4 + el), extra.drop (4 + el))) := by
  have hmod : (4 + el) % 2 ^ 32 = 4 + el := Nat.mod_eq_of_lt (by omega)
  have hsig : slice extra (4 + el) extra.length = extra.drop (4 + el) := by simp [slice]
  simp only [splitSessionSignature, sliceChecked_head h4, ok_bind, hel, Nat.not_lt.mpr hlen, if_false, hmod,
    sliceChecked_of_le (by omega : 4 ≤ 4 + el) (by omega : 4 + el ≤ extra.length),
    sliceChecked_of_le (by omega : 4 + el ≤ extra.length) (le_refl extra.length), hsig, pure_eq_ok]

/-- Past the length check, a message length of `2^32 - 4` or more makes the `uint32`
sum `4+el` wrap below 4, and the slice `extra[4:4+el]` panics. -/
theorem splitSessionSignature_wrap (h4 : 4 ≤ extra.length) (hel : beUint (extra.take 4) = el)
    (hlen : el + 32 ≤ extra.length) (hwrap : 2 ^ 32 - 4 ≤ el) :
    splitSessionSignature extra =
      .error s!"panic: runtime error: slice bounds out of range [4:{(4 + el) % 2 ^ 32}]" := by
  have hlt : el < 2 ^ 32 := by
    have := beUint_lt (extra.take 4)
    rw [List.length_take, Nat.min_eq_left h4, hel] at this
    omega
  simp only [splitSessionSignature, sliceChecked_head h4, ok_bind, hel, Nat.not_lt.mpr hlen, if_false,
    sliceChecked_of_lt (by omega : (4 + el) % 2 ^ 32 < 4) (by omega : (4 + el) % 2 ^ 32 ≤ extra.length),
    pure_bind, error_bind]
  rfl

end Split

section Concat

variable (m s : List UInt8)

@[simp] theorem concatMessageAndSignature_length :
    (concatMessageAndSignature m s).length = 4 + m.length + s.length := by
  simp [concatMessageAndSignature, Nat.add_assoc]

/-- The length prefix of a packed message is the message's length, below `2^32`. -/
theorem concatMessageAndSignature_take {m : List UInt8} (hm : m.length < 2 ^ 32) :
    beUint ((concatMessageAndSignature m s).take 4) = m.length := by
  rw [concatMessageAndSignature, List.append_assoc,
    List.take_append_of_le_length (by simp), List.take_of_length_le (by simp), beUint_beBytes,
    Nat.mod_eq_of_lt (by omega)]

theorem concatMessageAndSignature_slice : slice (concatMessageAndSignature m s) 4 (4 + m.length) = m := by
  simp [concatMessageAndSignature, slice, List.drop_append_eq_append_drop, List.take_append_eq_append_take]

theorem concatMessageAndSignature_drop : (concatMessageAndSignature m s).drop (4 + m.length) = s := by
  simp [concatMessageAndSignature, List.drop_append_eq_append_drop]

end Concat

/-- The split of a packed message below `2^32 - 4` bytes: the message and signature
back, or nothing for a signature shorter than 28 bytes. -/
theorem splitSessionSignature_concat {m : List UInt8} (s : List UInt8) (hm : m.length < 2 ^ 32 - 4) :
    splitSessionSignature (concatMessageAndSignature m s) = .ok (if s.length < 28 then none else some (m, s)) := by
  have hel := concatMessageAndSignature_take s (show m.length < 2 ^ 32 by omega)
  have hlen := concatMessageAndSignature_length m s
  split_ifs with hs
  · exact splitSessionSignature_none (by omega) hel (by omega)
  · rw [splitSessionSignature_some (by omega) hel (by omega) hm, concatMessageAndSignature_slice,
      concatMessageAndSignature_drop]

section Sign

variable (common : Common) (node : Node) {s s' : SQLite3Store} {session session' : Session}
  {sig : Option (List UInt8)} {m : List UInt8}

/-- The check of a signature packed with a message below `2^32 - 4` bytes: a
signature shorter than 28 bytes is not checked, and any other is verified on exactly
that message, under the key derived from the share. -/
theorem verifySessionSignature_concatMessageAndSignature (crv : UInt8) (holder : String) (s share path : List UInt8)
    (hm : m.length < 2 ^ 32 - 4) :
    node.verifySessionSignature crv holder (concatMessageAndSignature m s) share path =
      if s.length < 28 then .ok (false, []) else do
        let (public, _) ← node.deriveByPath crv share path
        let valid ← node.VerifyCurveSignature crv holder public m s
        return (valid, s) := by
  rw [verifySessionSignature, splitSessionSignature_concat s hm]
  split_ifs <;> rfl

/-- The move to `Pending` of a prepared `Initial` session packs the session's message
with the aggregated signature into the extra it reads back, under the session's own
curve and public key. -/
theorem markSignPending_extra (hc : session.State = RequestStateInitial ∧ session.PreparedAt.isSome)
    (hm : DecodeHexOrPanic session.Extra = .ok m) (h : markSignPending s session sig = .ok (s', session')) :
    s' = s.MarkSessionPending session.Id session.Curve session.Public (concatMessageAndSignature m (sig.getD [])) ∧
      session'.Curve = session.Curve ∧ session'.Public = session.Public ∧
      DecodeHexOrPanic session'.Extra = .ok (concatMessageAndSignature m (sig.getD [])) := by
  rw [markSignPending, if_pos hc, hm, ok_bind] at h
  simp only [SQLite3Store.ReadSession_MarkSessionPending] at h
  cases hr : s.ReadSession session.Id with
  | none => rw [hr] at h; cases h
  | some r =>
    rw [hr] at h
    cases h
    exact ⟨rfl, rfl, rfl, DecodeHexOrPanic_hexEncode _⟩

/-- The sign output of a session moved to `Pending`, once its key is found on the
session's curve: nothing for a signature shorter than 28 bytes; otherwise the
signature is verified on the session's own message, and it is sent only if valid. -/
theorem signOutput_markSignPending {id holder : String} {curve : UInt8} {share path : List UInt8}
    (hc : session.State = RequestStateInitial ∧ session.PreparedAt.isSome)
    (hm : DecodeHexOrPanic session.Extra = .ok m) (hmlen : m.length < 2 ^ 32 - 4)
    (h : markSignPending s session sig = .ok (s', session'))
    (hkey : readKeyByFingerPath s' session'.Public = .ok (holder, curve, share, path)) :
    node.signOutput common s' id curve session' =
      if (sig.getD []).length < 28 then .ok none else do
        let (public, _) ← node.deriveByPath session'.Curve share path
        let valid ← node.VerifyCurveSignature session'.Curve holder public m (sig.getD [])
        return if valid then some ⟨id, common.OperationTypeSignOutput, curve, holder, sig.getD []⟩ else none := by
  rw [signOutput, hkey]
  simp only [Except.mapError, ok_bind, ne_eq, not_true_eq_false, if_false, (markSignPending_extra hc hm h).2.2.2,
    verifySessionSignature_concatMessageAndSignature node _ _ _ _ _ hmlen]
  split_ifs
  · rfl
  · simp only [bind_assoc, pure_bind]
    refine congrArg _ (funext fun _ => congrArg _ (funext fun valid => ?_))
    cases valid <;> rfl

end Sign

section Frame

variable (P : Protocol)

/-- A frame shorter than 16 bytes, or whose length byte leaves nothing after the id,
is rejected as short. -/
theorem unmarshalSessionMessage_short {b : List UInt8} (h : b.length < 16 ∨ b.length ≤ (b.headD 0).toNat + 1) :
    unmarshalSessionMessage P b = .ok (.short ("unmarshalSessionMessage(" ++ hexEncode b ++ ") short")) := by
  by_cases h16 : b.length < 16
  · simp only [unmarshalSessionMessage, h16, if_true, pure_eq_ok]
  · have hk : b.length - 1 ≤ (b.headD 0).toNat := by omega
    simp only [unmarshalSessionMessage, h16, hk, if_true, if_false, pure_eq_ok, ok_bind]

/-- Past the length checks, the frame is cut at the `byte` sum `1+b[0]`. -/
private theorem unmarshalSessionMessage_long {b : List UInt8} (h16 : 16 ≤ b.length)
    (hk : (b.headD 0).toNat + 2 ≤ b.length) :
    unmarshalSessionMessage P b = (do
      let sessionId ← sliceChecked b 1 ((1 + (b.headD 0).toNat) % 256)
      let payload ← sliceChecked b ((1 + (b.headD 0).toNat) % 256) b.length
      return .frame sessionId (P.UnmarshalBinary payload)) := by
  have hk' : ¬b.length - 1 ≤ (b.headD 0).toNat := by omega
  simp only [unmarshalSessionMessage, Nat.not_lt.mpr h16, hk', if_false, pure_bind]

/-- A frame whose length byte is 255 and that is long enough to pass the checks makes
the `byte` sum `1+b[0]` wrap to 0, and the slice `b[1:0]` panics. -/
theorem unmarshalSessionMessage_length_byte_255 (rest : List UInt8) (hrest : 256 ≤ rest.length) :
    unmarshalSessionMessage P (255 :: rest) = .error "panic: runtime error: slice bounds out of range [1:0]" := by
  have hlen : (255 :: rest).length = rest.length + 1 := rfl
  have hk : (((255 : UInt8) :: rest).headD 0).toNat = 255 := rfl
  rw [unmarshalSessionMessage_long P (by omega) (by omega), hk]
  rw [sliceChecked_of_lt (by omega) (Nat.zero_le _)]
  rfl

/-- A frame `[k] ++ sid ++ p` with `|sid| = k < 255`, a payload and 16 bytes in all
gives back `sid` and hands exactly `p` to `UnmarshalBinary`. -/
theorem unmarshalSessionMessage_frame (sid p : List UInt8) (hsid : sid.length < 255) (hp : p ≠ [])
    (h16 : 15 ≤ sid.length + p.length) :
    unmarshalSessionMessage P (UInt8.ofNat sid.length :: sid ++ p) = .ok (.frame sid (P.UnmarshalBinary p)) := by
  have hk : (UInt8.ofNat sid.length).toNat = sid.length := UInt8.toNat_ofNat_of_lt (by unfold UInt8.size; omega)
  have hplen : 0 < p.length := List.length_pos.mpr hp
  have hlen : (UInt8.ofNat sid.length :: (sid ++ p)).length = sid.length + p.length + 1 := by
    simp only [List.length_cons, List.length_append]
  have hhead : ((UInt8.ofNat sid.length :: (sid ++ p)).headD 0).toNat = sid.length := hk
  rw [List.cons_append, unmarshalSessionMessage_long P (by omega) (by omega), hhead,
    Nat.mod_eq_of_lt (by omega : 1 + sid.length < 256), sliceChecked_of_le (by omega) (by omega),
    sliceChecked_of_le (by omega) le_rfl, Nat.add_comm 1 sid.length]
  simp [slice]

/-- The node's own frames: a session id of at most 32 bytes and a message that marshals
to a payload come back from `unmarshalSessionMessage` when the frame has 16 bytes. -/
theorem unmarshalSessionMessage_marshalSessionMessage (sid : List UInt8) (msg : Message) (payload : List UInt8)
    (hsid : sid.length ≤ 32) (hmsg : P.MarshalBinary msg = .ok payload) (hp : payload ≠ [])
    (h16 : 15 ≤ sid.length + payload.length) :
    ∃ frame, marshalSessionMessage P sid msg = .ok frame ∧
      unmarshalSessionMessage P frame = .ok (.frame sid (P.UnmarshalBinary payload)) := by
  refine ⟨UInt8.ofNat sid.length :: sid ++ payload, ?_,
    unmarshalSessionMessage_frame P sid payload (by omega) hp h16⟩
  simp [marshalSessionMessage, Nat.not_lt.mpr hsid, hmsg, Except.mapError]

/-- Every frame a peer may send is rejected as short; or has the length byte 255 and
makes the slice of the id panic; or is `[k] ++ sid ++ p` with `|sid| = k < 255`, a
payload and 16 bytes in all, and is split there. -/
theorem unmarshalSessionMessage_cases (b : List UInt8) :
    ((b.length < 16 ∨ b.length ≤ (b.headD 0).toNat + 1) ∧
        unmarshalSessionMessage P b = .ok (.short ("unmarshalSessionMessage(" ++ hexEncode b ++ ") short"))) ∨
      (b.headD 0 = 255 ∧ 257 ≤ b.length ∧
        unmarshalSessionMessage P b = .error "panic: runtime error: slice bounds out of range [1:0]") ∨
      ∃ k sid p, b = k :: sid ++ p ∧ sid.length = k.toNat ∧ k.toNat < 255 ∧ p ≠ [] ∧
        15 ≤ sid.length + p.length ∧ unmarshalSessionMessage P b = .ok (.frame sid (P.UnmarshalBinary p)) := by
  by_cases hshort : b.length < 16 ∨ b.length ≤ (b.headD 0).toNat + 1
  · exact .inl ⟨hshort, unmarshalSessionMessage_short P hshort⟩
  obtain ⟨k, rest, rfl⟩ : ∃ k rest, b = k :: rest := by
    cases b with
    | nil => simp at hshort
    | cons k rest => exact ⟨k, rest, rfl⟩
  simp only [List.length_cons, List.headD_cons, not_or, not_lt, not_le] at hshort
  by_cases h255 : k = 255
  · subst h255
    have hk : ((255 : UInt8)).toNat = 255 := rfl
    have hlen : ((255 : UInt8) :: rest).length = rest.length + 1 := rfl
    rw [hk] at hshort
    refine .inr (.inl ⟨rfl, by omega, ?_⟩)
    rw [unmarshalSessionMessage_long P (by omega) (by rw [List.headD_cons, hk]; omega), List.headD_cons, hk,
      sliceChecked_of_lt (by omega) (Nat.zero_le _)]
    rfl
  · have hk : k.toNat < 255 := by
      have : k.toNat ≠ 255 := fun h => h255 (UInt8.toNat.inj h)
      have := k.toNat_lt_size
      unfold UInt8.size at this
      omega
    have hsid : (rest.take k.toNat).length = k.toNat := by simp; omega
    have hp : rest.drop k.toNat ≠ [] := by simp; omega
    have hk' : UInt8.ofNat (rest.take k.toNat).length = k := by
      rw [hsid]
      exact UInt8.toNat.inj (UInt8.toNat_ofNat_of_lt k.toNat_lt_size)
    have h16 : 15 ≤ (rest.take k.toNat).length + (rest.drop k.toNat).length := by
      rw [← List.length_append, List.take_append_drop]
      omega
    refine .inr (.inr ⟨k, rest.take k.toNat, rest.drop k.toNat,
      by rw [List.cons_append, List.take_append_drop], hsid, hk, hp, h16, ?_⟩)
    have hframe := unmarshalSessionMessage_frame P _ _ (by omega) hp h16
    rwa [hk', List.cons_append, List.take_append_drop] at hframe

/-- One round of `acceptIncomingMessages` on a peer's frame stops the node exactly when
the frame's length byte is 255, or when `unmarshalSessionMessage` rejects the frame and
the log line reads the fields of the nil message it returns. -/
theorem acceptIncomingMessage_panics_iff (node : Node) (peer : String) (msb : List UInt8) :
    (∃ e, node.acceptIncomingMessage P peer msb = .error e) ↔
      msb.length < 16 ∨ msb.length ≤ (msb.headD 0).toNat + 1 ∨ msb.headD 0 = 255 := by
  rcases unmarshalSessionMessage_cases P msb with
    ⟨hs, h⟩ | ⟨h255, -, h⟩ | ⟨k, sid, p, rfl, hsid, hk, hp, h16, h⟩
  case inl =>
    simp only [acceptIncomingMessage, h, ok_bind]
    exact ⟨fun _ => hs.elim .inl (.inr ∘ .inl), fun _ => ⟨_, rfl⟩⟩
  case inr.inl =>
    simp only [acceptIncomingMessage, h, error_bind]
    exact ⟨fun _ => .inr (.inr h255), fun _ => ⟨_, rfl⟩⟩
  case inr.inr =>
    have hne : ∀ e, node.acceptIncomingMessage P peer (k :: sid ++ p) ≠ .error e := by
      intro e
      simp only [acceptIncomingMessage, h, ok_bind]
      cases P.UnmarshalBinary p with
      | error _ => simp
      | ok msg =>
        dsimp only
        split_ifs <;> simp
    have hlen : (k :: sid ++ p).length = sid.length + p.length + 1 := by simp
    have hp' := List.length_pos.mpr hp
    refine ⟨fun ⟨e, he⟩ => absurd he (hne e), fun hc => ?_⟩
    rw [hlen, List.cons_append, List.headD_cons] at hc
    rcases hc with hc | hc | rfl
    · omega
    · omega
    · exact absurd hk (by decide)

end Frame

/-- A codec for running the model: a message is its round number, in one byte. -/
def Protocol.fixture : Protocol where
  MarshalBinary msg := .ok [UInt8.ofNat msg.RoundNumber]
  UnmarshalBinary
    | [r] => .ok ⟨some [], "peer", r.toNat⟩
    | _ => .error "protocol: invalid message"
  IsFor _ _ := true

/-- The frame of 257 bytes whose length byte is 255. -/
theorem unmarshalSessionMessage_length_byte_255_frame :
    256 ≤ (List.replicate 256 (0 : UInt8)).length ∧
      unmarshalSessionMessage Protocol.fixture (255 :: List.replicate 256 0) =
        .error "panic: runtime error: slice bounds out of range [1:0]" :=
  ⟨le_of_eq (List.length_replicate _ _).symm,
    unmarshalSessionMessage_length_byte_255 Protocol.fixture _ (le_of_eq (List.length_replicate _ _).symm)⟩

end Node

end safe.signer

import MixinSafe.Signer.Node

namespace safe.signer

open SQLite3Store

namespace Node

variable {common : Common} {node : Node} {s s' t : SQLite3Store} {op : Operation} {out : Action}
  {session session' : Session} {signers : List (String × String)} {sig : Option (List UInt8)}

@[simp] theorem writeSignerResult_sessions : (node.writeSignerResult common s session op out).sessions = s.sessions := by
  unfold writeSignerResult; split_ifs <;> simp

@[simp] theorem writeSignerResult_keys : (node.writeSignerResult common s session op out).keys = s.keys := by
  unfold writeSignerResult; split_ifs <;> simp

/-- Writing the same result again, on a store whose results are those the first
write left, changes nothing. -/
theorem writeSignerResult_of_signers (hop : session'.Operation = session.Operation)
    (h : t.signers = (node.writeSignerResult common s session op out).signers) :
    node.writeSignerResult common t session' op out = t := by
  unfold writeSignerResult at h ⊢
  rw [hop]
  split_ifs at h ⊢
  · exact WriteSessionSignerIfNotExist_of_has (by rw [HasSessionSigner_of_signers h]; exact WriteSessionSignerIfNotExist_has)
  · exact UpdateSessionSigner_of_signers h
  · rfl

/-- The verdict reads the session's operation, public key and id only. -/
theorem verifySessionSignerResults_congr (hid : session'.Id = session.Id)
    (hop : session'.Operation = session.Operation) (hpub : session'.Public = session.Public) :
    node.verifySessionSignerResults common session' signers = node.verifySessionSignerResults common session signers := by
  have hcount : node.keygenCounted session' signers = node.keygenCounted session signers := by
    funext id; simp only [keygenCounted, hpub]
  simp only [verifySessionSignerResults, hcount, hid, hop]

/-- After the move to `Pending` the session is read back as moved, and a second
move does nothing. -/
theorem markSignPending_replay (hread : s.ReadSession session.Id = some session)
    (h : markSignPending s session sig = .ok (s', session')) :
    s'.ReadSession session.Id = some session' ∧ session'.Id = session.Id ∧
      session'.Operation = session.Operation ∧ session'.Curve = session.Curve ∧
      session'.Public = session.Public ∧ s'.signers = s.signers ∧ s'.keys = s.keys ∧
      markSignPending s' session' sig = .ok (s', session') := by
  unfold markSignPending at h
  split_ifs at h with hc
  · obtain ⟨msg, -, h⟩ := bind_eq_ok.mp h
    simp only [ReadSession_MarkSessionPending, hread, Option.map_some'] at h
    cases h
    refine ⟨by simp [ReadSession_MarkSessionPending, hread], rfl, rfl, rfl, rfl, rfl, rfl, ?_⟩
    simp [markSignPending, RequestStatePending, RequestStateInitial]
  · cases h
    exact ⟨hread, rfl, rfl, rfl, rfl, rfl, rfl, by simp [markSignPending, hc]⟩

/-- The output of a finished session, computed again on the store it left, from
the session read back there, is the same. -/
theorem signerOutput_replay {op' : Option Operation} (hread : s.ReadSession op.Id = some session)
    (h : node.signerOutput common s op session signers sig = .ok (op', s')) :
    ∃ session₂, s'.ReadSession op.Id = some session₂ ∧ session₂.Id = session.Id ∧
      session₂.Operation = session.Operation ∧ session₂.Curve = session.Curve ∧
      session₂.Public = session.Public ∧ s'.signers = s.signers ∧
      node.signerOutput common s' op session₂ signers sig = .ok (op', s') := by
  have hid := ReadSession_id hread
  unfold signerOutput at h
  split_ifs at h with hk hs
  · obtain ⟨o, ho, h⟩ := bind_eq_ok.mp h
    cases h
    exact ⟨session, hread, rfl, rfl, rfl, rfl, rfl, by simp [signerOutput, hk, ho]⟩
  · obtain ⟨⟨s₃, session₃⟩, hmark, h⟩ := bind_eq_ok.mp h
    obtain ⟨o, ho, h⟩ := bind_eq_ok.mp h
    cases h
    obtain ⟨hread₃, hid₃, hop₃, hcurve₃, hpub₃, hsig₃, -, hmark₃⟩ :=
      markSignPending_replay (by rw [hid]; exact hread) hmark
    refine ⟨session₃, by rw [← hid]; exact hread₃, hid₃, hop₃, hcurve₃, hpub₃, hsig₃, ?_⟩
    simp [signerOutput, hop₃, hs, common.inputs_ne.symm, hmark₃, hcurve₃, ho]

/-- A result processed again, on the store its first processing left, returns the
same and writes nothing. -/
theorem processSignerResult_replay {txs : List MtgTransaction} {asset : String}
    (h : node.processSignerResult common s op out = .ok (txs, asset, s')) :
    node.processSignerResult common s' op out = .ok (txs, asset, s') := by
  unfold processSignerResult at h ⊢
  cases hread : s.ReadSession op.Id with
  | none => simp [hread] at h
  | some session =>
  by_cases hchk : op.Curve ≠ session.Curve ∨ op.«Type» ≠ session.Operation
  · simp [hread, hchk] at h
  simp only [hread, hchk, if_false, pure_eq_ok, ok_bind] at h
  obtain ⟨⟨finished, sig⟩, hver, h⟩ := bind_eq_ok.mp h
  have hread₂ : (node.writeSignerResult common s session op out).ReadSession op.Id = some session := by
    rw [ReadSession_of_sessions writeSignerResult_sessions]; exact hread
  cases finished with
  | false =>
    simp only [Bool.not_false, if_true, pure_eq_ok, Except.ok.injEq, Prod.mk.injEq] at h
    obtain ⟨rfl, rfl, rfl⟩ := h
    simp [hread₂, hchk, writeSignerResult_of_signers rfl rfl, hver]
  | true =>
    by_cases hlen : ((node.writeSignerResult common s session op out).ListSessionSignerResults op.Id).length ≤
        node.threshold
    · simp [hlen] at h
    simp only [hlen, Bool.not_true, Bool.false_eq_true, if_false, pure_eq_ok, ok_bind] at h
    obtain ⟨⟨op', s₃⟩, hout, h⟩ := bind_eq_ok.mp h
    have hs₃ : s' = s₃ := by
      rcases op' with _ | op'
      · simp only [pure_eq_ok, Except.ok.injEq, Prod.mk.injEq] at h
        exact h.2.2.symm
      · obtain ⟨⟨tx, a⟩, -, h⟩ := bind_eq_ok.mp h
        by_cases ha : a ≠ "" <;> simp [ha] at h <;> exact h.2.2.symm
    subst hs₃
    obtain ⟨session₂, hread₃, hid, hop, hcurve, hpub, hsig, hout₂⟩ := signerOutput_replay hread₂ hout
    have hwrite₃ : node.writeSignerResult common s' session₂ op out = s' := writeSignerResult_of_signers hop hsig
    simp only [hread₃, hcurve, hop, hchk, if_false, pure_eq_ok, ok_bind, hwrite₃,
      ListSessionSignerResults_of_signers hsig, verifySessionSignerResults_congr hid hop hpub, hver,
      Bool.not_true, Bool.false_eq_true, hlen, hout₂]
    exact h

/-- A preparation processed again, on the store its first processing left, writes
nothing: the member's row is there, and a session it marked is prepared. -/
theorem processSignerPrepare_replay (h : node.processSignerPrepare common s op out = .ok s') :
    node.processSignerPrepare common s' op out = .ok s' := by
  unfold processSignerPrepare at h ⊢
  by_cases ht : op.«Type» ≠ common.OperationTypeSignInput
  · simp [ht] at h
  by_cases he : op.Extra ≠ PrepareExtra
  · simp [ht, he] at h
  simp only [ht, he, if_false, pure_eq_ok, ok_bind] at h ⊢
  cases hread : s.ReadSession op.Id with
  | none => simp [hread] at h
  | some session =>
  by_cases hp : session.PreparedAt.isSome
  · simp only [hread, hp, if_true, pure_eq_ok, Except.ok.injEq] at h
    subst h
    simp [hread, hp]
  cases hsender : out.Senders.head? with
  | none => simp [hread, hp, hsender] at h
  | some sender =>
  have hread₂ : (s.PrepareSessionSignerIfNotExist op.Id sender out.CreatedAt).ReadSession op.Id = some session := by
    rw [ReadSession_of_sessions PrepareSessionSignerIfNotExist_sessions]; exact hread
  by_cases hlen : ((s.PrepareSessionSignerIfNotExist op.Id sender out.CreatedAt).ListSessionSignerResults op.Id).length ≤
      node.threshold
  · simp only [hread, hp, hsender, hlen, if_true, Bool.false_eq_true, if_false, pure_eq_ok, ok_bind,
      Except.ok.injEq] at h
    subst h
    simp [hread₂, hp, hsender, PrepareSessionSignerIfNotExist_of_has PrepareSessionSignerIfNotExist_has, hlen]
  · simp only [hread, hp, hsender, hlen, Bool.false_eq_true, if_false, pure_eq_ok, ok_bind, Except.ok.injEq] at h
    subst h
    simp [ReadSession_MarkSessionPrepared, hread₂]

/-- The replay law of the signer node: an action processed again, on the store its
first processing left, returns the same transactions and asset and writes nothing,
so the `mtg.ReplayCheck` of `ProcessOutput` never fires. -/
theorem processAction_replay (common : Common) (node : Node) (s s' : SQLite3Store) (out : Action)
    (txs : List MtgTransaction) (asset : String)
    (h : node.processAction common s out = .ok (txs, asset, s')) :
    node.processAction common s' out = .ok (txs, asset, s') ∧
      node.ProcessOutput common s out = .ok (txs, asset, s') := by
  have hrun : node.processAction common s' out = .ok (txs, asset, s') := by
    by_cases hs : s' = s
    · subst hs; exact h
    have hne := Ne.symm hs
    unfold processAction at h ⊢
    obtain ⟨deposit, hdep, h⟩ := bind_eq_ok.mp h
    rw [hdep, ok_bind]
    cases deposit
    swap
    · simp [hne] at h
    simp only [Bool.false_eq_true, if_false, pure_eq_ok, ok_bind] at h ⊢
    by_cases hk : out.AssetId = node.KeeperAssetId
    · simp only [hk, if_true] at h ⊢
      by_cases hamt : out.Amount < 1
      · simp [hamt] at h
      simp only [hamt, if_false, pure_eq_ok, ok_bind] at h ⊢
      obtain ⟨parsed, hparse, h⟩ := bind_eq_ok.mp h
      rw [hparse, ok_bind]
      rcases parsed with e | op
      · simp [hne] at h
      obtain ⟨hash, hhash, h⟩ := bind_eq_ok.mp h
      simp only [pure_eq_ok, Except.ok.injEq, Prod.mk.injEq] at h
      obtain ⟨rfl, rfl, rfl⟩ := h
      simp [hhash, WriteSessionIfNotExist_of_isSome ReadSession_WriteSessionIfNotExist]
    by_cases ha : out.AssetId = node.AssetId
    swap
    · simp [hk, ha, hne] at h
    rw [if_neg hk, if_pos ha] at h ⊢
    simp only [ne_eq, List.headD_eq_head?_getD] at h ⊢
    by_cases hsend : ¬out.Senders.length = 1 ∨ node.findMember (out.Senders.head?.getD "") < 0
    · simp [hsend, hne] at h
    simp only [hsend, if_false, pure_eq_ok, ok_bind] at h ⊢
    obtain ⟨parsed, hparse, h⟩ := bind_eq_ok.mp h
    rw [hparse, ok_bind]
    rcases parsed with e | req
    · simp [hne] at h
    by_cases hprep : req.Extra = PrepareExtra
    · simp only [hprep, if_true] at h ⊢
      obtain ⟨s₂, hs₂, h⟩ := bind_eq_ok.mp h
      simp only [pure_eq_ok, Except.ok.injEq, Prod.mk.injEq] at h
      obtain ⟨rfl, rfl, rfl⟩ := h
      rw [mapError_eq_ok] at hs₂
      simp [processSignerPrepare_replay hs₂, Except.mapError]
    · simp only [hprep, if_false] at h ⊢
      exact processSignerResult_replay h
  refine ⟨hrun, ?_⟩
  simp [ProcessOutput, h, hrun]

/-- The 28-byte signature the members report in the result fixture. -/
def resultSignature : List UInt8 := List.replicate 28 9

/-- The public key of a sign session: the fingerprint `0102030405060708` and the path
`[0, 0, 0, 0]`. -/
def resultPublic : String := hexEncode ([1, 2, 3, 4, 5, 6, 7, 8] ++ [0, 0, 0, 0])

/-- A node whose memos all decode as a member's result for the sign session `s1`. -/
def resultFixture : Node :=
  { Node.fixture with DecodeOperation := fun _ => .ok ⟨"s1", 2, 1, "", resultSignature⟩ }

/-- A store holding the sign session `s1` of the message `[5, 5]`, prepared, with `m2`'s
result reported and the key `0207` filed under the session's fingerprint. -/
def resultStore : SQLite3Store :=
  { ((SQLite3Store.empty.WriteSessionIfNotExist ⟨"s1", 2, 1, resultPublic, [5, 5]⟩ "tx" 0 5).MarkSessionPrepared
      "s1" 7).UpdateSessionSigner "s1" "m2" resultSignature 6 false with
    keys := [⟨"0207", hexEncode [1, 2, 3, 4, 5, 6, 7, 8], 1, [9]⟩] }

/-- `m1`'s result for `s1`. -/
def resultAction : Action := ⟨"tx3", 0, "signer", 1, ["m1"], "memo", 8, 9⟩

/-- The keeper's request of session `s1` arrives on the empty store; and `m1`'s result,
the second, finishes the signature of `s1`: the session moves to `Pending` and the
keeper transaction of the sign output is built. Both are returned again on replay. -/
theorem processAction_replay_runs :
    (∃ s', Node.fixture.processAction Common.fixture SQLite3Store.empty ⟨"tx", 0, "keeper", 1, ["m1"], "memo", 5, 7⟩ =
        .ok ([], "", s') ∧
      Node.fixture.processAction Common.fixture s' ⟨"tx", 0, "keeper", 1, ["m1"], "memo", 5, 7⟩ = .ok ([], "", s')) ∧
    ∃ tx s', resultFixture.processAction Common.fixture resultStore resultAction = .ok ([tx], "", s') ∧
      (s'.ReadSession "s1").map (·.State) = some RequestStatePending ∧
      resultFixture.processAction Common.fixture s' resultAction = .ok ([tx], "", s') ∧
      resultFixture.ProcessOutput Common.fixture resultStore resultAction = .ok ([tx], "", s') :=
  have h : Node.fixture.processAction Common.fixture SQLite3Store.empty ⟨"tx", 0, "keeper", 1, ["m1"], "memo", 5, 7⟩ =
      .ok ([], "", SQLite3Store.empty.WriteSessionIfNotExist ⟨"s1", 2, 1, "", []⟩ "tx" 0 5) := by
    rfl
  have hr : resultFixture.processAction Common.fixture resultStore resultAction =
      .ok ([⟨"genesiss1", "keeper-app", "keeper", "1", resultSignature, ["k1"], 1⟩], "",
        (resultStore.UpdateSessionSigner "s1" "m1" resultSignature 8 true).MarkSessionPending "s1" 1 resultPublic
          (concatMessageAndSignature [5, 5] resultSignature)) := by
    rfl
  ⟨⟨_, h, (processAction_replay _ _ _ _ _ _ _ h).1⟩, _, _, hr, rfl, processAction_replay _ _ _ _ _ _ _ hr⟩

end Node

end safe.signer

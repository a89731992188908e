import MixinSafe.Signer.Replay

namespace safe.signer

variable (common : Common)

/-- How a session may change under the outputs of the group. -/
structure SessionEvolves (r r' : Session) : Prop where
  id_eq : r'.Id = r.Id
  mixinHash_eq : r'.MixinHash = r.MixinHash
  mixinIndex_eq : r'.MixinIndex = r.MixinIndex
  operation_eq : r'.Operation = r.Operation
  curve_eq : r'.Curve = r.Curve
  public_eq : r'.Public = r.Public
  createdAt_eq : r'.CreatedAt = r.CreatedAt
  prepared_kept : r.PreparedAt.isSome → r'.PreparedAt = r.PreparedAt
  state_move : r'.State = r.State ∧ r'.Extra = r.Extra ∨
    r.Operation = common.OperationTypeSignInput ∧ r.State = RequestStateInitial ∧
      r'.State = RequestStatePending ∧ r'.PreparedAt.isSome

namespace SessionEvolves

variable {common} {r r₁ r₂ : Session}

theorem refl (r : Session) : SessionEvolves common r r :=
  ⟨rfl, rfl, rfl, rfl, rfl, rfl, rfl, fun _ => rfl, .inl ⟨rfl, rfl⟩⟩

theorem trans (h₁ : SessionEvolves common r r₁) (h₂ : SessionEvolves common r₁ r₂) : SessionEvolves common r r₂ where
  id_eq := h₂.id_eq.trans h₁.id_eq
  mixinHash_eq := h₂.mixinHash_eq.trans h₁.mixinHash_eq
  mixinIndex_eq := h₂.mixinIndex_eq.trans h₁.mixinIndex_eq
  operation_eq := h₂.operation_eq.trans h₁.operation_eq
  curve_eq := h₂.curve_eq.trans h₁.curve_eq
  public_eq := h₂.public_eq.trans h₁.public_eq
  createdAt_eq := h₂.createdAt_eq.trans h₁.createdAt_eq
  prepared_kept hp :=
    have hp₁ := h₁.prepared_kept hp
    (h₂.prepared_kept (hp₁ ▸ hp)).trans hp₁
  state_move := by
    rcases h₁.state_move with ⟨hs₁, he₁⟩ | ⟨hop, hi, hp₁, hprep₁⟩
    · rcases h₂.state_move with ⟨hs₂, he₂⟩ | ⟨hop₂, hi₂, hp₂, hprep₂⟩
      · exact .inl ⟨hs₂.trans hs₁, he₂.trans he₁⟩
      · exact .inr ⟨h₁.operation_eq ▸ hop₂, hs₁ ▸ hi₂, hp₂, hprep₂⟩
    · rcases h₂.state_move with ⟨hs₂, -⟩ | ⟨-, hi₂, -, -⟩
      · exact .inr ⟨hop, hi, hs₂.trans hp₁, h₂.prepared_kept hprep₁ ▸ hprep₁⟩
      · exact absurd (hp₁.symm.trans hi₂) (by decide)

end SessionEvolves

namespace SQLite3Store

/-- The store calls that handling an output of the group makes, each with the guard
under which `processAction` makes it: a member's row is written only for a sender
among the group's `members`. -/
inductive OutputWrite (members : List String) (threshold : Nat) : SQLite3Store → SQLite3Store → Prop
  | writeSession (s : SQLite3Store) (op : Operation) (hash : String) (index createdAt : Nat) :
      OutputWrite members threshold s (s.WriteSessionIfNotExist op hash index createdAt)
  | prepareSigner (s : SQLite3Store) (id : String) {signer : String} (createdAt : Nat) (hm : signer ∈ members) :
      OutputWrite members threshold s (s.PrepareSessionSignerIfNotExist id signer createdAt)
  | markPrepared (s : SQLite3Store) {id : String} {r : Session} (preparedAt : Nat) (hr : s.ReadSession id = some r)
      (hp : r.PreparedAt = none) (hq : threshold < (s.ListSessionSignerResults id).length) :
      OutputWrite members threshold s (s.MarkSessionPrepared id preparedAt)
  | writeSigner (s : SQLite3Store) (id : String) {signer : String} (extra : List UInt8) (createdAt : Nat) (self : Bool)
      (hm : signer ∈ members) :
      OutputWrite members threshold s (s.WriteSessionSignerIfNotExist id signer extra createdAt self)
  | updateSigner (s : SQLite3Store) (id : String) {signer : String} (extra : List UInt8) (createdAt : Nat) (self : Bool)
      (hm : signer ∈ members) : OutputWrite members threshold s (s.UpdateSessionSigner id signer extra createdAt self)
  | markPending (s : SQLite3Store) {r : Session} (extra : List UInt8) (hr : s.ReadSession r.Id = some r)
      (hop : r.Operation = common.OperationTypeSignInput) (hi : r.State = RequestStateInitial)
      (hp : r.PreparedAt.isSome) : OutputWrite members threshold s (s.MarkSessionPending r.Id r.Curve r.Public extra)

/-- Every session of `s` is read in `s'` as a session it evolved into. -/
def SessionsEvolve (s s' : SQLite3Store) : Prop :=
  ∀ id r, s.ReadSession id = some r → ∃ r', s'.ReadSession id = some r' ∧ SessionEvolves common r r'

/-- Every result row is a member's, and every prepared session has more than
`threshold` rows. A session's rows are keyed by member, so these are the rows of more
than `threshold` distinct members. -/
structure PreparedByQuorum (members : List String) (threshold : Nat) (s : SQLite3Store) : Prop where
  rows_members : ∀ r ∈ s.signers, r.SignerId ∈ members
  quorum : ∀ id r, s.ReadSession id = some r → r.PreparedAt.isSome →
    threshold < (s.ListSessionSignerResults id).length

variable {common} {members : List String} {threshold : Nat} {s s' s₁ s₂ : SQLite3Store}

theorem SessionsEvolve.refl (s : SQLite3Store) : s.SessionsEvolve common s :=
  fun _ r hr => ⟨r, hr, .refl r⟩

theorem SessionsEvolve.trans (h₁ : s.SessionsEvolve common s₁) (h₂ : s₁.SessionsEvolve common s₂) :
    s.SessionsEvolve common s₂ := fun id r hr =>
  let ⟨r₁, hr₁, he₁⟩ := h₁ id r hr
  let ⟨r₂, hr₂, he₂⟩ := h₂ id r₁ hr₁
  ⟨r₂, hr₂, he₁.trans he₂⟩

/-- A call that leaves the sessions table as it was. -/
theorem sessionsEvolve_of_sessions (h : s'.sessions = s.sessions) : s.SessionsEvolve common s' :=
  fun _ r hr => ⟨r, by rw [ReadSession_of_sessions h]; exact hr, .refl r⟩

/-- `MarkSessionPrepared` on a session that was not prepared. -/
theorem sessionsEvolve_MarkSessionPrepared {id : String} {r : Session} {p : Nat} (hr : s.ReadSession id = some r)
    (hp : r.PreparedAt = none) : s.SessionsEvolve common (s.MarkSessionPrepared id p) := by
  intro id' r' hr'
  by_cases hid : id' = id
  · subst hid
    rw [hr] at hr'
    cases hr'
    refine ⟨_, by rw [ReadSession_MarkSessionPrepared, hr]; rfl, ?_⟩
    exact ⟨rfl, rfl, rfl, rfl, rfl, rfl, rfl, by simp [hp], .inl ⟨rfl, rfl⟩⟩
  · exact ⟨r', by rw [ReadSession_MarkSessionPrepared_of_ne p hid, hr'], .refl r'⟩

/-- `MarkSessionPending` on a prepared `Initial` sign session, with its own curve and
public key. -/
theorem sessionsEvolve_MarkSessionPending {r : Session} {extra : List UInt8} (hr : s.ReadSession r.Id = some r)
    (hop : r.Operation = common.OperationTypeSignInput) (hi : r.State = RequestStateInitial)
    (hp : r.PreparedAt.isSome) : s.SessionsEvolve common (s.MarkSessionPending r.Id r.Curve r.Public extra) := by
  intro id' r' hr'
  by_cases hid : id' = r.Id
  · subst hid
    rw [hr] at hr'
    cases hr'
    refine ⟨_, by rw [ReadSession_MarkSessionPending, hr]; rfl, ?_⟩
    exact ⟨rfl, rfl, rfl, rfl, rfl, rfl, rfl, fun _ => rfl, .inr ⟨hop, hi, rfl, hp⟩⟩
  · exact ⟨r', by rw [ReadSession_MarkSessionPending_of_ne _ _ hid, hr'], .refl r'⟩

/-- Every call an output makes keeps each session evolving. -/
theorem OutputWrite.sessionsEvolve (h : OutputWrite common members threshold s s') : s.SessionsEvolve common s' := by
  cases h with
  | writeSession => exact fun _ r hr => ⟨r, ReadSession_WriteSessionIfNotExist_of_some hr, .refl r⟩
  | prepareSigner => exact sessionsEvolve_of_sessions PrepareSessionSignerIfNotExist_sessions
  | markPrepared _ hr hp => exact sessionsEvolve_MarkSessionPrepared hr hp
  | writeSigner => exact sessionsEvolve_of_sessions WriteSessionSignerIfNotExist_sessions
  | updateSigner => exact sessionsEvolve_of_sessions UpdateSessionSigner_sessions
  | markPending _ hr hop hi hp => exact sessionsEvolve_MarkSessionPending hr hop hi hp

/-- A call that leaves the sessions as they were and adds or overwrites a member's row. -/
theorem preparedByQuorum_of_rows {signer : String} (hs : s'.sessions = s.sessions)
    (hrows : ∀ id, (s.ListSessionSignerResults id).length ≤ (s'.ListSessionSignerResults id).length)
    (hnew : ∀ r ∈ s'.signers, r ∈ s.signers ∨ r.SignerId = signer) (hm : signer ∈ members)
    (hq : s.PreparedByQuorum members threshold) : s'.PreparedByQuorum members threshold where
  rows_members r hr := (hnew r hr).elim (hq.rows_members r) (· ▸ hm)
  quorum id r hr hp := lt_of_lt_of_le (hq.quorum id r (by rwa [ReadSession_of_sessions hs] at hr) hp) (hrows id)

/-- A call that leaves the rows as they were and every prepared session still read
with the rows it had. -/
theorem preparedByQuorum_of_sessions (hsig : s'.signers = s.signers)
    (hread : ∀ id r, s'.ReadSession id = some r → r.PreparedAt.isSome →
      threshold < (s.ListSessionSignerResults id).length)
    (hq : s.PreparedByQuorum members threshold) : s'.PreparedByQuorum members threshold where
  rows_members r hr := hq.rows_members r (hsig ▸ hr)
  quorum id r hr hp := by rw [ListSessionSignerResults_of_signers hsig]; exact hread id r hr hp

/-- Every call an output makes keeps every row a member's and the prepared sessions
prepared by a quorum. -/
theorem OutputWrite.preparedByQuorum (h : OutputWrite common members threshold s s')
    (hq : s.PreparedByQuorum members threshold) : s'.PreparedByQuorum members threshold := by
  cases h with
  | writeSession =>
    refine preparedByQuorum_of_sessions WriteSessionIfNotExist_signers (fun id r hr hp => ?_) hq
    rcases ReadSession_WriteSessionIfNotExist_cases hr with hr | rfl
    · exact hq.quorum id r hr hp
    · cases hp
  | prepareSigner _ _ hm =>
    exact preparedByQuorum_of_rows PrepareSessionSignerIfNotExist_sessions
      (fun _ => PrepareSessionSignerIfNotExist_results_length) (fun _ => PrepareSessionSignerIfNotExist_rows) hm hq
  | @markPrepared id₀ _ _ _ _ hq₀ =>
    refine preparedByQuorum_of_sessions (MarkSessionPrepared_signers _) (fun id r hr hp => ?_) hq
    by_cases hid : id = id₀
    · exact hid ▸ hq₀
    · rw [ReadSession_MarkSessionPrepared_of_ne _ hid] at hr
      exact hq.quorum id r hr hp
  | writeSigner _ _ _ _ hm =>
    exact preparedByQuorum_of_rows WriteSessionSignerIfNotExist_sessions
      (fun _ => WriteSessionSignerIfNotExist_results_length) (fun _ => WriteSessionSignerIfNotExist_rows) hm hq
  | updateSigner _ _ _ _ hm =>
    exact preparedByQuorum_of_rows UpdateSessionSigner_sessions (fun _ => UpdateSessionSigner_results_length)
      (fun _ => UpdateSessionSigner_rows) hm hq
  | @markPending r₀ _ hr₀ =>
    refine preparedByQuorum_of_sessions (MarkSessionPending_signers _ _) (fun id r hr hp => ?_) hq
    by_cases hid : id = r₀.Id
    · subst hid
      rw [ReadSession_MarkSessionPending, hr₀] at hr
      cases hr
      exact hq.quorum _ r₀ hr₀ hp
    · rw [ReadSession_MarkSessionPending_of_ne _ _ hid] at hr
      exact hq.quorum id r hr hp

end SQLite3Store

open SQLite3Store Relation

namespace Node

/-- The outputs the group delivers, in order, each through `ProcessOutput`: the store
they leave, or the panic that stops the node. The moves a node makes on its own in
`startOperation`, failing a session or moving it to `Pending`, are not outputs of the
group and are not part of these runs. -/
def runOutputs (node : Node) (s : SQLite3Store) (outs : List Action) : Except String SQLite3Store :=
  outs.foldlM (fun s out => do let (_, _, s) ← node.ProcessOutput common s out; pure s) s

variable {common} {node : Node} {s s' : SQLite3Store} {op : Operation} {out : Action}

/-- A sender `findMember` does not refuse is a member. -/
theorem mem_of_findMember {m : String} (h : ¬ node.findMember m < 0) : m ∈ node.members := by
  unfold findMember at h
  split_ifs at h with hm
  exacts [hm, absurd (by decide) h]

theorem processSignerPrepare_writes (hsender : ∀ m, out.Senders.head? = some m → m ∈ node.members)
    (h : node.processSignerPrepare common s op out = .ok s') :
    ReflTransGen (OutputWrite common node.members node.threshold) s s' := by
  unfold processSignerPrepare at h
  by_cases ht : op.«Type» ≠ common.OperationTypeSignInput
  · simp only [ht, ne_eq, not_false_eq_true, if_true, throw_eq_error, error_bind, reduceCtorEq] at h
  by_cases he : op.Extra ≠ PrepareExtra
  · simp only [ht, he, ne_eq, not_false_eq_true, if_true, if_false, throw_eq_error, error_bind, pure_eq_ok, ok_bind,
      reduceCtorEq] at h
  simp only [ht, he, if_false, pure_eq_ok, ok_bind] at h
  cases hread : s.ReadSession op.Id with
  | none => simp [hread] at h
  | some session =>
  by_cases hp : session.PreparedAt.isSome
  · simp only [hread, hp, if_true, pure_eq_ok, Except.ok.injEq] at h
    exact h ▸ .refl
  cases hsender_eq : out.Senders.head? with
  | none => simp [hread, hp, hsender_eq] at h
  | some sender =>
  have hprep : OutputWrite common node.members node.threshold s
      (s.PrepareSessionSignerIfNotExist op.Id sender out.CreatedAt) :=
    .prepareSigner s op.Id out.CreatedAt (hsender sender hsender_eq)
  by_cases hlen : ((s.PrepareSessionSignerIfNotExist op.Id sender out.CreatedAt).ListSessionSignerResults op.Id).length ≤
      node.threshold
  · simp only [hread, hp, hsender_eq, hlen, if_true, Bool.false_eq_true, if_false, pure_eq_ok, ok_bind,
      Except.ok.injEq] at h
    exact h ▸ .single hprep
  · simp only [hread, hp, hsender_eq, hlen, Bool.false_eq_true, if_false, pure_eq_ok, ok_bind, Except.ok.injEq] at h
    subst h
    have hread₂ : (s.PrepareSessionSignerIfNotExist op.Id sender out.CreatedAt).ReadSession op.Id = some session := by
      rw [ReadSession_of_sessions PrepareSessionSignerIfNotExist_sessions]
      exact hread
    exact (ReflTransGen.single hprep).tail
      (.markPrepared _ out.CreatedAt hread₂ (Option.not_isSome_iff_eq_none.mp hp) (Nat.lt_of_not_le hlen))

theorem markSignPending_writes {session session' : Session} {sig : Option (List UInt8)}
    (hread : s.ReadSession session.Id = some session) (hop : session.Operation = common.OperationTypeSignInput)
    (h : markSignPending s session sig = .ok (s', session')) : ReflTransGen (OutputWrite common node.members node.threshold) s s' := by
  unfold markSignPending at h
  split_ifs at h with hc
  · obtain ⟨msg, -, h⟩ := bind_eq_ok.mp h
    simp only [ReadSession_MarkSessionPending, hread, Option.map_some'] at h
    cases h
    exact .single (.markPending s _ hread hop hc.1 hc.2)
  · cases h
    exact .refl

theorem writeSignerResult_writes {session : Session} (hsender : out.Senders.headD "" ∈ node.members) :
    ReflTransGen (OutputWrite common node.members node.threshold) s (node.writeSignerResult common s session op out) := by
  unfold writeSignerResult
  split_ifs
  · exact .single (.writeSigner _ _ _ _ _ hsender)
  · exact .single (.updateSigner _ _ _ _ _ hsender)
  · exact .refl

theorem signerOutput_writes {session : Session} {signers : List (String × String)} {sig : Option (List UInt8)}
    {op' : Option Operation} (hread : s.ReadSession session.Id = some session)
    (h : node.signerOutput common s op session signers sig = .ok (op', s')) :
    ReflTransGen (OutputWrite common node.members node.threshold) s s' := by
  unfold signerOutput at h
  split_ifs at h with hk hs
  · obtain ⟨o, -, h⟩ := bind_eq_ok.mp h
    cases h
    exact .refl
  · obtain ⟨⟨s₃, session₃⟩, hmark, h⟩ := bind_eq_ok.mp h
    obtain ⟨o, -, h⟩ := bind_eq_ok.mp h
    cases h
    exact markSignPending_writes hread hs hmark

theorem processSignerResult_writes {txs : List MtgTransaction} {asset : String}
    (hsender : out.Senders.headD "" ∈ node.members)
    (h : node.processSignerResult common s op out = .ok (txs, asset, s')) :
    ReflTransGen (OutputWrite common node.members node.threshold) s s' := by
  unfold processSignerResult at h
  cases hread : s.ReadSession op.Id with
  | none => simp [hread] at h
  | some session =>
  by_cases hchk : op.Curve ≠ session.Curve ∨ op.«Type» ≠ session.Operation
  · simp only [hread, hchk, if_true, throw_eq_error, error_bind, reduceCtorEq] at h
  simp only [hread, hchk, if_false, pure_eq_ok, ok_bind] at h
  obtain ⟨⟨finished, sig⟩, -, h⟩ := bind_eq_ok.mp h
  cases finished with
  | false =>
    simp only [Bool.not_false, if_true, pure_eq_ok, Except.ok.injEq, Prod.mk.injEq] at h
    exact h.2.2 ▸ writeSignerResult_writes hsender
  | true =>
    by_cases hlen : ((node.writeSignerResult common s session op out).ListSessionSignerResults op.Id).length ≤
        node.threshold
    · simp only [hlen, Bool.not_true, Bool.false_eq_true, if_false, if_true, pure_eq_ok, ok_bind, throw_eq_error,
        error_bind, reduceCtorEq] at h
    simp only [hlen, Bool.not_true, Bool.false_eq_true, if_false, pure_eq_ok, ok_bind] at h
    obtain ⟨⟨op', s₃⟩, hout, h⟩ := bind_eq_ok.mp h
    have hs₃ : s' = s₃ := by
      rcases op' with _ | op'
      · simp only [pure_eq_ok, Except.ok.injEq, Prod.mk.injEq] at h
        exact h.2.2.symm
      · obtain ⟨⟨tx, a⟩, -, h⟩ := bind_eq_ok.mp h
        by_cases ha : a ≠ "" <;> simp [ha] at h <;> exact h.2.2.symm
    subst hs₃
    have hread₂ : (node.writeSignerResult common s session op out).ReadSession session.Id = some session := by
      rw [ReadSession_of_sessions writeSignerResult_sessions, ReadSession_id hread]
      exact hread
    exact (writeSignerResult_writes hsender).trans (signerOutput_writes hread₂ hout)

/-- What handling one output of the group does to the store: a sequence of the calls
of `OutputWrite`. -/
theorem processAction_writes {txs : List MtgTransaction} {asset : String}
    (h : node.processAction common s out = .ok (txs, asset, s')) :
    ReflTransGen (OutputWrite common node.members node.threshold) s s' := by
  unfold processAction at h
  obtain ⟨deposit, -, h⟩ := bind_eq_ok.mp h
  cases deposit
  swap
  · simp only [if_true, pure_eq_ok, Except.ok.injEq, Prod.mk.injEq] at h
    exact h.2.2 ▸ .refl
  simp only [Bool.false_eq_true, if_false, pure_eq_ok, ok_bind] at h
  by_cases hk : out.AssetId = node.KeeperAssetId
  · simp only [hk, if_true] at h
    by_cases hamt : out.Amount < 1
    · simp only [hamt, if_true, throw_eq_error, error_bind, reduceCtorEq] at h
    simp only [hamt, if_false, pure_eq_ok, ok_bind] at h
    obtain ⟨parsed, -, h⟩ := bind_eq_ok.mp h
    rcases parsed with e | op
    · simp only [pure_eq_ok, Except.ok.injEq, Prod.mk.injEq] at h
      exact h.2.2 ▸ .refl
    obtain ⟨hash, -, h⟩ := bind_eq_ok.mp h
    simp only [pure_eq_ok, Except.ok.injEq, Prod.mk.injEq] at h
    exact h.2.2 ▸ .single (.writeSession ..)
  by_cases ha : out.AssetId = node.AssetId
  swap
  · simp only [hk, ha, if_false, pure_eq_ok, Except.ok.injEq, Prod.mk.injEq] at h
    exact h.2.2 ▸ .refl
  rw [if_neg hk, if_pos ha] at h
  by_cases hsend : out.Senders.length ≠ 1 ∨ node.findMember (out.Senders.headD "") < 0
  · simp only [hsend, if_true, pure_eq_ok, Except.ok.injEq, Prod.mk.injEq] at h
    exact h.2.2 ▸ .refl
  simp only [hsend, if_false, pure_eq_ok, ok_bind] at h
  have hmem := mem_of_findMember (not_or.mp hsend).2
  obtain ⟨parsed, -, h⟩ := bind_eq_ok.mp h
  rcases parsed with e | req
  · simp only [pure_eq_ok, Except.ok.injEq, Prod.mk.injEq] at h
    exact h.2.2 ▸ .refl
  by_cases hprep : req.Extra = PrepareExtra
  · simp only [hprep, if_true] at h
    obtain ⟨s₂, hs₂, h⟩ := bind_eq_ok.mp h
    simp only [pure_eq_ok, Except.ok.injEq, Prod.mk.injEq] at h
    rw [mapError_eq_ok] at hs₂
    exact h.2.2 ▸ processSignerPrepare_writes (fun m hm => by rwa [List.headD_eq_head?_getD, hm] at hmem) hs₂
  · simp only [hprep, if_false] at h
    exact processSignerResult_writes hmem h

theorem ProcessOutput_writes {txs : List MtgTransaction} {asset : String}
    (h : node.ProcessOutput common s out = .ok (txs, asset, s')) :
    ReflTransGen (OutputWrite common node.members node.threshold) s s' := by
  unfold ProcessOutput at h
  obtain ⟨⟨txs₁, asset₁, s₁⟩, h₁, h⟩ := bind_eq_ok.mp h
  obtain ⟨⟨txs₂, asset₂, s₂⟩, h₂, h⟩ := bind_eq_ok.mp h
  by_cases hc : txs₁ ≠ txs₂ ∨ asset₁ ≠ asset₂
  · simp only [hc, if_true, throw_eq_error, error_bind, reduceCtorEq] at h
  simp only [hc, if_false, pure_eq_ok, ok_bind, Except.ok.injEq, Prod.mk.injEq] at h
  exact h.2.2 ▸ (processAction_writes h₁).trans (processAction_writes h₂)

theorem runOutputs_writes {outs : List Action} (h : node.runOutputs common s outs = .ok s') :
    ReflTransGen (OutputWrite common node.members node.threshold) s s' := by
  induction outs generalizing s with
  | nil => cases h; exact .refl
  | cons out outs ih =>
    obtain ⟨s₁, h₁, h⟩ := bind_eq_ok.mp h
    obtain ⟨⟨txs, asset, s₂⟩, h₂, h₁⟩ := bind_eq_ok.mp h₁
    cases h₁
    exact (ProcessOutput_writes h₂).trans (ih h)

/-- Over any run of the group's outputs that does not stop the node, every session
keeps its id, Mixin hash and index, operation, curve, public key and creation time and
is never removed; its preparation time, once set, is kept; and its state and extra
change only by the move of a prepared `Initial` sign session to `Pending`. -/
theorem runOutputs_sessions {outs : List Action} (h : node.runOutputs common s outs = .ok s') :
    s.SessionsEvolve common s' := by
  have hw := runOutputs_writes h
  clear h
  induction hw with
  | refl => exact SessionsEvolve.refl s
  | tail _ hw ih => exact ih.trans hw.sessionsEvolve

/-- Node `m1` holding the `Initial` sign session `s1` takes a result of `m2` for it. -/
theorem runOutputs_sessions_fixture :
    ∃ s', Node.fixture.runOutputs Common.fixture (SQLite3Store.empty.WriteSessionIfNotExist ⟨"s1", 2, 1, "", []⟩ "tx" 0 5)
        [⟨"tx2", 0, "signer", 1, ["m2"], "memo", 6, 8⟩] = .ok s' ∧
      (SQLite3Store.empty.WriteSessionIfNotExist ⟨"s1", 2, 1, "", []⟩ "tx" 0 5).SessionsEvolve Common.fixture s' :=
  have h : Node.fixture.runOutputs Common.fixture (SQLite3Store.empty.WriteSessionIfNotExist ⟨"s1", 2, 1, "", []⟩ "tx" 0 5)
      [⟨"tx2", 0, "signer", 1, ["m2"], "memo", 6, 8⟩] =
      .ok ((SQLite3Store.empty.WriteSessionIfNotExist ⟨"s1", 2, 1, "", []⟩ "tx" 0 5).UpdateSessionSigner "s1" "m2" [] 6
        false) := by
    rfl
  ⟨_, h, runOutputs_sessions h⟩

/-- Over any run of the group's outputs that does not stop the node, from a store whose
rows are all members' and whose prepared sessions have more than `threshold` rows (the
empty store, say), every row is a member's and every prepared session has rows of more
than `threshold` members: `processAction` writes a row only for a sender `findMember`
finds, a session is marked prepared only once that many members have prepared or
reported, and rows are never removed. -/
theorem runOutputs_preparedByQuorum {outs : List Action} (h : node.runOutputs common s outs = .ok s')
    (hq : s.PreparedByQuorum node.members node.threshold) : s'.PreparedByQuorum node.members node.threshold := by
  have hw := runOutputs_writes h
  clear h
  induction hw with
  | refl => exact hq
  | tail _ hw ih => exact hw.preparedByQuorum ih

/-- A node whose memos all decode as the preparation of the sign session `s1`. -/
def prepareFixture : Node := { Node.fixture with DecodeOperation := fun _ => .ok ⟨"s1", 2, 1, "", PrepareExtra⟩ }

/-- The session `s1` arrives from the keeper, and `m1` and `m2` prepare it. -/
def prepareOutputs : List Action :=
  [⟨"tx", 0, "keeper", 1, ["m1"], "memo", 5, 7⟩, ⟨"tx2", 0, "signer", 1, ["m1"], "memo", 6, 8⟩,
    ⟨"tx3", 0, "signer", 1, ["m2"], "memo", 7, 9⟩]

/-- From the empty store, with threshold 1, the session is prepared by the second
preparation, with two rows. -/
theorem runOutputs_preparedByQuorum_fixture :
    ∃ s', prepareFixture.runOutputs Common.fixture SQLite3Store.empty prepareOutputs = .ok s' ∧
      (s'.ReadSession "s1").bind (·.PreparedAt) = some 7 ∧
      s'.PreparedByQuorum prepareFixture.members prepareFixture.threshold :=
  ⟨_, rfl, rfl, runOutputs_preparedByQuorum
    (show prepareFixture.runOutputs Common.fixture SQLite3Store.empty prepareOutputs = .ok _ from rfl)
    ⟨fun _ h => by simp [SQLite3Store.empty] at h, fun _ _ h => by simp [ReadSession, SQLite3Store.empty] at h⟩⟩

end Node

end safe.signer

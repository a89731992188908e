import MixinSafe.Common.Constants

namespace safe.signer

/-- `common.Operation`. -/
structure Operation where
  Id : String
  «Type» : UInt8
  Curve : UInt8
  Public : String
  Extra : List UInt8
deriving DecidableEq, Repr

/-- `mtg.Action`, with the fields the signer reads. `Amount` is the decimal amount. -/
structure Action where
  TransactionHash : String
  OutputIndex : Nat
  AssetId : String
  Amount : ℚ
  Senders : List String
  Extra : String
  CreatedAt : Nat
  Sequence : Nat
deriving DecidableEq, Repr

/-- `mtg.Transaction`, as `Group.BuildTransaction` fills it. -/
structure MtgTransaction where
  TraceId : String
  AppId : String
  AssetId : String
  Amount : String
  Memo : List UInt8
  Receivers : List String
  Threshold : Nat
deriving DecidableEq, Repr

/-- `Session`. `PreparedAt` is the `sql.NullTime`. -/
structure Session where
  Id : String
  MixinHash : String
  MixinIndex : Nat
  Operation : UInt8
  Curve : UInt8
  Public : String
  Extra : String
  State : Nat
  CreatedAt : Nat
  PreparedAt : Option Nat
deriving DecidableEq, Repr

/-- A row of a member's result for a session: its hex `Extra`, empty while the
member has only prepared. -/
structure SessionSigner where
  SessionId : String
  SignerId : String
  Extra : String
  CreatedAt : Nat
  Self : Bool
deriving DecidableEq, Repr

/-- A key share of the node, found by the fingerprint of its public key. -/
structure Key where
  Public : String
  Fingerprint : String
  Curve : UInt8
  Share : List UInt8
deriving DecidableEq, Repr

/-- The signer's store: sessions, session results and keys, in rowid order. A
session is keyed by its id and a result by its session and member. The store's code is
not under src/: its operations are modelled from their names, `IfNotExist` inserting a
row when its key is absent, `Update` and `Mark` overwriting the row's fields. -/
@[ext] structure SQLite3Store where
  sessions : List Session
  signers : List SessionSigner
  keys : List Key
  sessions_nodup : (sessions.map (·.Id)).Nodup
  signers_nodup : (signers.map fun r => (r.SessionId, r.SignerId)).Nodup

private theorem nodup_map_append_of_fresh {α β : Type} {l : List α} {f : α → β} {x : α}
    (hl : (l.map f).Nodup) (hx : ∀ y ∈ l, f y ≠ f x) : ((l ++ [x]).map f).Nodup := by
  rw [List.map_append, List.nodup_append]
  refine ⟨hl, List.nodup_singleton _, ?_⟩
  simp only [List.map_cons, List.map_nil, List.disjoint_singleton, List.mem_map, not_exists, not_and]
  exact hx

private theorem nodup_map_map_of_key {α β : Type} {l : List α} {f : α → β} {g : α → α}
    (hl : (l.map f).Nodup) (hg : ∀ a, f (g a) = f a) : ((l.map g).map f).Nodup := by
  rwa [List.map_map, show f ∘ g = f from funext hg]

namespace SQLite3Store

/-- The empty store. -/
def empty : SQLite3Store := ⟨[], [], [], List.nodup_nil, List.nodup_nil⟩

variable (s : SQLite3Store)

/-- `ReadSession`: `none` when there is no such session. -/
def ReadSession (id : String) : Option Session := s.sessions.find? (·.Id = id)

/-- Modelled from the spec: `WriteSessionIfNotExist`, an `Initial` session for the
operation unless one with its id exists. The commitment flag is read only by the
session loops. -/
def WriteSessionIfNotExist (op : Operation) (hash : String) (index createdAt : Nat) : SQLite3Store :=
  if h : (s.ReadSession op.Id).isSome then s else
  { s with
    sessions := s.sessions ++ [⟨op.Id, hash, index, op.«Type», op.Curve, op.Public, hexEncode op.Extra,
      RequestStateInitial, createdAt, none⟩]
    sessions_nodup := nodup_map_append_of_fresh s.sessions_nodup fun y hy hid => h (by
      simpa [ReadSession, List.find?_eq_none] using ⟨y, hy, hid⟩) }

/-- Whether a result row for this session and member exists. -/
def HasSessionSigner (sessionId signerId : String) : Bool :=
  s.signers.any fun r => r.SessionId = sessionId && r.SignerId = signerId

/-- Modelled from the spec: `PrepareSessionSignerIfNotExist`, an empty result row
unless one exists. -/
def PrepareSessionSignerIfNotExist (sessionId signerId : String) (createdAt : Nat) : SQLite3Store :=
  if h : s.HasSessionSigner sessionId signerId then s else
  { s with
    signers := s.signers ++ [⟨sessionId, signerId, "", createdAt, false⟩]
    signers_nodup := nodup_map_append_of_fresh s.signers_nodup fun y hy hk => h (by
      simp only [Prod.mk.injEq] at hk
      simpa [HasSessionSigner] using ⟨y, hy, hk⟩) }

/-- Modelled from the spec: `WriteSessionSignerIfNotExist`, the member's result
unless it has a row. -/
def WriteSessionSignerIfNotExist (sessionId signerId : String) (extra : List UInt8) (createdAt : Nat)
    (self : Bool) : SQLite3Store :=
  if h : s.HasSessionSigner sessionId signerId then s else
  { s with
    signers := s.signers ++ [⟨sessionId, signerId, hexEncode extra, createdAt, self⟩]
    signers_nodup := nodup_map_append_of_fresh s.signers_nodup fun y hy hk => h (by
      simp only [Prod.mk.injEq] at hk
      simpa [HasSessionSigner] using ⟨y, hy, hk⟩) }

/-- Modelled from the spec: `UpdateSessionSigner`, the member's result written
over its row, or as a new row when it has none. -/
def UpdateSessionSigner (sessionId signerId : String) (extra : List UInt8) (createdAt : Nat)
    (self : Bool) : SQLite3Store :=
  let row : SessionSigner := ⟨sessionId, signerId, hexEncode extra, createdAt, self⟩
  if h : s.HasSessionSigner sessionId signerId then
    { s with
      signers := s.signers.map fun r => if r.SessionId = sessionId ∧ r.SignerId = signerId then row else r
      signers_nodup := nodup_map_map_of_key s.signers_nodup fun r => by
        split_ifs with hr
        · rw [hr.1, hr.2]
        · rfl }
  else
    { s with
      signers := s.signers ++ [row]
      signers_nodup := nodup_map_append_of_fresh s.signers_nodup fun y hy hk => h (by
        simp only [Prod.mk.injEq] at hk
        simpa [HasSessionSigner] using ⟨y, hy, hk⟩) }

/-- `ListSessionSignerResults`: the session's `map[signer]extra`, in rowid order. -/
def ListSessionSignerResults (sessionId : String) : List (String × String) :=
  (s.signers.filter (·.SessionId = sessionId)).map fun r => (r.SignerId, r.Extra)

/-- Modelled from the spec: `MarkSessionPrepared` sets the session's `PreparedAt`. -/
def MarkSessionPrepared (id : String) (preparedAt : Nat) : SQLite3Store :=
  { s with
    sessions := s.sessions.map fun r => if r.Id = id then { r with PreparedAt := some preparedAt } else r
    sessions_nodup := nodup_map_map_of_key s.sessions_nodup fun r => by split_ifs <;> rfl }

/-- Modelled from the spec: `MarkSessionPending` moves the session to `Pending`
with the given curve, public key and extra. -/
def MarkSessionPending (id : String) (curve : UInt8) (key : String) (extra : List UInt8) : SQLite3Store :=
  { s with
    sessions := s.sessions.map fun r =>
      if r.Id = id then { r with State := RequestStatePending, Curve := curve, Public := key, Extra := hexEncode extra }
      else r
    sessions_nodup := nodup_map_map_of_key s.sessions_nodup fun r => by split_ifs <;> rfl }

/-- `ReadKeyByFingerprint`: the key's public, curve and share; Go's zero values
when there is none. -/
def ReadKeyByFingerprint (fingerprint : String) : String × UInt8 × List UInt8 :=
  match s.keys.find? (·.Fingerprint = fingerprint) with
  | some k => (k.Public, k.Curve, k.Share)
  | none => ("", 0, [])

/-- Modelled from the spec: `FailSession` moves the session to `Failed`. -/
def FailSession (id : String) : SQLite3Store :=
  { s with
    sessions := s.sessions.map fun r => if r.Id = id then { r with State := RequestStateFailed } else r
    sessions_nodup := nodup_map_map_of_key s.sessions_nodup fun r => by split_ifs <;> rfl }

/-- Modelled from the spec: `WriteKeyIfNotExists` stores the share of a new public
key under its fingerprint, the hex of `common.Fingerprint` `F`, unless the key is
stored. The session id and the backup flag it also writes are read by no modelled
function. -/
def WriteKeyIfNotExists (F : String → List UInt8) (crv : UInt8) (public : String) (share : List UInt8) :
    SQLite3Store :=
  if s.keys.any (·.Public = public) then s else { s with keys := s.keys ++ [⟨public, hexEncode (F public), crv, share⟩] }

variable {s} {t : SQLite3Store} {op : Operation} {hash : String} {index createdAt : Nat}
  {sessionId signerId id : String} {extra : List UInt8} {self : Bool}

@[simp] theorem WriteSessionIfNotExist_signers : (s.WriteSessionIfNotExist op hash index createdAt).signers = s.signers := by
  unfold WriteSessionIfNotExist; split <;> rfl
@[simp] theorem WriteSessionIfNotExist_keys : (s.WriteSessionIfNotExist op hash index createdAt).keys = s.keys := by
  unfold WriteSessionIfNotExist; split <;> rfl
@[simp] theorem PrepareSessionSignerIfNotExist_sessions :
    (s.PrepareSessionSignerIfNotExist sessionId signerId createdAt).sessions = s.sessions := by
  unfold PrepareSessionSignerIfNotExist; split <;> rfl
@[simp] theorem PrepareSessionSignerIfNotExist_keys :
    (s.PrepareSessionSignerIfNotExist sessionId signerId createdAt).keys = s.keys := by
  unfold PrepareSessionSignerIfNotExist; split <;> rfl
@[simp] theorem WriteSessionSignerIfNotExist_sessions :
    (s.WriteSessionSignerIfNotExist sessionId signerId extra createdAt self).sessions = s.sessions := by
  unfold WriteSessionSignerIfNotExist; split <;> rfl
@[simp] theorem WriteSessionSignerIfNotExist_keys :
    (s.WriteSessionSignerIfNotExist sessionId signerId extra createdAt self).keys = s.keys := by
  unfold WriteSessionSignerIfNotExist; split <;> rfl
@[simp] theorem UpdateSessionSigner_sessions :
    (s.UpdateSessionSigner sessionId signerId extra createdAt self).sessions = s.sessions := by
  dsimp only [UpdateSessionSigner]; split <;> rfl
@[simp] theorem UpdateSessionSigner_keys :
    (s.UpdateSessionSigner sessionId signerId extra createdAt self).keys = s.keys := by
  dsimp only [UpdateSessionSigner]; split <;> rfl
@[simp] theorem MarkSessionPrepared_signers (p : Nat) : (s.MarkSessionPrepared id p).signers = s.signers := rfl
@[simp] theorem MarkSessionPrepared_keys (p : Nat) : (s.MarkSessionPrepared id p).keys = s.keys := rfl
@[simp] theorem MarkSessionPending_signers (c : UInt8) (k : String) :
    (s.MarkSessionPending id c k extra).signers = s.signers := rfl
@[simp] theorem MarkSessionPending_keys (c : UInt8) (k : String) :
    (s.MarkSessionPending id c k extra).keys = s.keys := rfl

@[simp] theorem FailSession_signers : (s.FailSession id).signers = s.signers := rfl
@[simp] theorem FailSession_keys : (s.FailSession id).keys = s.keys := rfl
@[simp] theorem WriteKeyIfNotExists_sessions {F : String → List UInt8} {crv : UInt8} {public : String}
    {share : List UInt8} : (s.WriteKeyIfNotExists F crv public share).sessions = s.sessions := by
  unfold WriteKeyIfNotExists; split <;> rfl
@[simp] theorem WriteKeyIfNotExists_signers {F : String → List UInt8} {crv : UInt8} {public : String}
    {share : List UInt8} : (s.WriteKeyIfNotExists F crv public share).signers = s.signers := by
  unfold WriteKeyIfNotExists; split <;> rfl

theorem ReadSession_of_sessions (h : t.sessions = s.sessions) : t.ReadSession = s.ReadSession := by
  funext id; simp only [ReadSession, h]

theorem ListSessionSignerResults_of_signers (h : t.signers = s.signers) :
    t.ListSessionSignerResults = s.ListSessionSignerResults := by
  funext id; simp only [ListSessionSignerResults, h]

theorem ReadKeyByFingerprint_of_keys (h : t.keys = s.keys) : t.ReadKeyByFingerprint = s.ReadKeyByFingerprint := by
  funext fp; simp only [ReadKeyByFingerprint, h]

theorem ReadSession_id {r : Session} (h : s.ReadSession id = some r) : r.Id = id := by
  simpa using List.find?_some h

/-- Reading a session back after its rows were rewritten by an id-preserving `g`. -/
private theorem find?_map_update {l : List Session} (g : Session → Session) (hg : ∀ r, (g r).Id = r.Id) :
    (l.map fun r => if r.Id = id then g r else r).find? (·.Id = id) = (l.find? (·.Id = id)).map g := by
  induction l with
  | nil => rfl
  | cons r l ih => by_cases hr : r.Id = id <;> simp [hr, hg, ih]

/-- The same rewrite leaves every other session as it was. -/
private theorem find?_map_update_of_ne {l : List Session} {id' : String} (g : Session → Session)
    (hg : ∀ r, (g r).Id = r.Id) (hne : id' ≠ id) :
    (l.map fun r => if r.Id = id then g r else r).find? (·.Id = id') = l.find? (·.Id = id') := by
  induction l with
  | nil => rfl
  | cons r l ih => by_cases hr : r.Id = id <;> simp [List.find?_cons, hr, hg, ih, Ne.symm hne]

theorem ReadSession_MarkSessionPrepared_of_ne {id' : String} (p : Nat) (hne : id' ≠ id) :
    (s.MarkSessionPrepared id p).ReadSession id' = s.ReadSession id' :=
  find?_map_update_of_ne _ (fun _ => rfl) hne

theorem ReadSession_MarkSessionPending_of_ne {id' : String} (c : UInt8) (k : String) (hne : id' ≠ id) :
    (s.MarkSessionPending id c k extra).ReadSession id' = s.ReadSession id' :=
  find?_map_update_of_ne _ (fun _ => rfl) hne

theorem ReadSession_MarkSessionPrepared (p : Nat) :
    (s.MarkSessionPrepared id p).ReadSession id = (s.ReadSession id).map fun r => { r with PreparedAt := some p } :=
  find?_map_update _ fun _ => rfl

theorem ReadSession_MarkSessionPending (c : UInt8) (k : String) :
    (s.MarkSessionPending id c k extra).ReadSession id = (s.ReadSession id).map fun r =>
      { r with State := RequestStatePending, Curve := c, Public := k, Extra := hexEncode extra } :=
  find?_map_update _ fun _ => rfl

theorem ReadSession_FailSession :
    (s.FailSession id).ReadSession id = (s.ReadSession id).map fun r => { r with State := RequestStateFailed } :=
  find?_map_update _ fun _ => rfl

/-- A new key is found by its fingerprint, in a store whose keys are filed under their
fingerprints and hold none with the new one's. -/
theorem ReadKeyByFingerprint_WriteKeyIfNotExists {F : String → List UInt8} {crv : UInt8} {public : String}
    {share : List UInt8} (hkeys : ∀ k ∈ s.keys, k.Fingerprint = hexEncode (F k.Public))
    (hfresh : ∀ k ∈ s.keys, k.Fingerprint ≠ hexEncode (F public)) :
    (s.WriteKeyIfNotExists F crv public share).ReadKeyByFingerprint (hexEncode (F public)) = (public, crv, share) := by
  have hnew : ¬ s.keys.any (·.Public = public) := by
    simp only [List.any_eq_true, decide_eq_true_eq, not_exists, not_and]
    exact fun k hk hpub => hfresh k hk (by rw [hkeys k hk, hpub])
  have hnone : s.keys.find? (·.Fingerprint = hexEncode (F public)) = none := by
    simpa [List.find?_eq_none] using hfresh
  simp [WriteKeyIfNotExists, hnew, ReadKeyByFingerprint, List.find?_append, hnone]

/-- Keys written by `WriteKeyIfNotExists` are filed under their fingerprints. -/
theorem WriteKeyIfNotExists_keys_filed {F : String → List UInt8} {crv : UInt8} {public : String}
    {share : List UInt8} (hkeys : ∀ k ∈ s.keys, k.Fingerprint = hexEncode (F k.Public)) :
    ∀ k ∈ (s.WriteKeyIfNotExists F crv public share).keys, k.Fingerprint = hexEncode (F k.Public) := by
  unfold WriteKeyIfNotExists
  split
  · exact hkeys
  · intro k hk
    rcases List.mem_append.mp hk with hk | hk
    · exact hkeys k hk
    · simp only [List.mem_singleton] at hk
      subst hk
      rfl

theorem ReadSession_WriteSessionIfNotExist : ((s.WriteSessionIfNotExist op hash index createdAt).ReadSession op.Id).isSome := by
  unfold WriteSessionIfNotExist
  split
  · assumption
  · simp [ReadSession, List.find?_append]

theorem WriteSessionIfNotExist_of_isSome (h : (t.ReadSession op.Id).isSome) :
    t.WriteSessionIfNotExist op hash index createdAt = t := dif_pos h

theorem HasSessionSigner_of_signers (h : t.signers = s.signers) :
    t.HasSessionSigner = s.HasSessionSigner := by
  funext a b; simp only [HasSessionSigner, h]

theorem PrepareSessionSignerIfNotExist_has :
    (s.PrepareSessionSignerIfNotExist sessionId signerId createdAt).HasSessionSigner sessionId signerId := by
  unfold PrepareSessionSignerIfNotExist
  split
  · assumption
  · simp [HasSessionSigner]

theorem PrepareSessionSignerIfNotExist_of_has (h : t.HasSessionSigner sessionId signerId) :
    t.PrepareSessionSignerIfNotExist sessionId signerId createdAt = t := dif_pos h

theorem WriteSessionSignerIfNotExist_has :
    (s.WriteSessionSignerIfNotExist sessionId signerId extra createdAt self).HasSessionSigner sessionId signerId := by
  unfold WriteSessionSignerIfNotExist
  split
  · assumption
  · simp [HasSessionSigner]

theorem WriteSessionSignerIfNotExist_of_has (h : t.HasSessionSigner sessionId signerId) :
    t.WriteSessionSignerIfNotExist sessionId signerId extra createdAt self = t := dif_pos h

/-- After the overwrite, the row of that session and member is the written one. -/
theorem UpdateSessionSigner_row {r : SessionSigner}
    (hr : r ∈ (s.UpdateSessionSigner sessionId signerId extra createdAt self).signers)
    (hk : r.SessionId = sessionId ∧ r.SignerId = signerId) :
    r = ⟨sessionId, signerId, hexEncode extra, createdAt, self⟩ := by
  dsimp only [UpdateSessionSigner] at hr
  split at hr
  · obtain ⟨r', -, rfl⟩ := List.mem_map.mp hr
    split_ifs at hk ⊢ with h'
    · rfl
    · exact absurd hk h'
  · rename_i hnot
    rcases List.mem_append.mp hr with hr | hr
    · exact absurd (by simpa [HasSessionSigner] using ⟨r, hr, hk⟩) hnot
    · simpa using hr

theorem UpdateSessionSigner_of_signers
    (h : t.signers = (s.UpdateSessionSigner sessionId signerId extra createdAt self).signers) :
    t.UpdateSessionSigner sessionId signerId extra createdAt self = t := by
  have hrow : ∀ r ∈ t.signers, r.SessionId = sessionId ∧ r.SignerId = signerId →
      r = ⟨sessionId, signerId, hexEncode extra, createdAt, self⟩ := fun r hr => UpdateSessionSigner_row (h ▸ hr)
  have hhas : t.HasSessionSigner sessionId signerId := by
    have hmem : (⟨sessionId, signerId, hexEncode extra, createdAt, self⟩ : SessionSigner) ∈ t.signers := by
      rw [h]
      dsimp only [UpdateSessionSigner]
      split
      · rename_i hs
        obtain ⟨r, hr, hk⟩ := List.any_eq_true.mp hs
        simp only [Bool.and_eq_true, decide_eq_true_eq] at hk
        exact List.mem_map.mpr ⟨r, hr, if_pos hk⟩
      · simp
    exact List.any_eq_true.mpr ⟨_, hmem, by simp⟩
  dsimp only [UpdateSessionSigner]
  rw [dif_pos hhas]
  ext1
  · rfl
  · conv_rhs => rw [← List.map_id t.signers]
    refine List.map_congr_left fun r hr => ?_
    split_ifs with hk
    · exact (hrow r hr hk).symm
    · rfl
  · rfl

/-- A session already written is read back unchanged. -/
theorem ReadSession_WriteSessionIfNotExist_of_some {r : Session} (hr : s.ReadSession id = some r) :
    (s.WriteSessionIfNotExist op hash index createdAt).ReadSession id = some r := by
  unfold WriteSessionIfNotExist
  split
  · exact hr
  · simp only [ReadSession, List.find?_append] at hr ⊢
    rw [hr]
    rfl

/-- What `WriteSessionIfNotExist` leaves to read: a session written before, or the new
`Initial` session, unprepared. -/
theorem ReadSession_WriteSessionIfNotExist_cases {r : Session}
    (h : (s.WriteSessionIfNotExist op hash index createdAt).ReadSession id = some r) :
    s.ReadSession id = some r ∨ r = ⟨op.Id, hash, index, op.«Type», op.Curve, op.Public, hexEncode op.Extra,
      RequestStateInitial, createdAt, none⟩ := by
  cases hr : s.ReadSession id with
  | some r₀ => exact .inl (by rw [← h, ReadSession_WriteSessionIfNotExist_of_some hr])
  | none =>
    unfold WriteSessionIfNotExist at h
    split at h
    · exact absurd (hr ▸ h) (by simp)
    · simp only [ReadSession, List.find?_append] at h hr
      rw [hr] at h
      simp only [Option.none_or, List.find?_singleton] at h
      split at h <;> simp_all

/-- A member's row, added or overwritten, never lowers the number of a session's rows. -/
theorem PrepareSessionSignerIfNotExist_results_length :
    (s.ListSessionSignerResults id).length ≤
      ((s.PrepareSessionSignerIfNotExist sessionId signerId createdAt).ListSessionSignerResults id).length := by
  unfold PrepareSessionSignerIfNotExist
  split
  · exact le_rfl
  · simp only [ListSessionSignerResults, List.filter_append, List.map_append, List.length_append]
    omega

theorem WriteSessionSignerIfNotExist_results_length :
    (s.ListSessionSignerResults id).length ≤
      ((s.WriteSessionSignerIfNotExist sessionId signerId extra createdAt self).ListSessionSignerResults id).length := by
  unfold WriteSessionSignerIfNotExist
  split
  · exact le_rfl
  · simp only [ListSessionSignerResults, List.filter_append, List.map_append, List.length_append]
    omega

theorem UpdateSessionSigner_results_length :
    (s.ListSessionSignerResults id).length ≤
      ((s.UpdateSessionSigner sessionId signerId extra createdAt self).ListSessionSignerResults id).length := by
  dsimp only [UpdateSessionSigner]
  split
  · have hkeep : (fun r : SessionSigner => decide ((if r.SessionId = sessionId ∧ r.SignerId = signerId then
        (⟨sessionId, signerId, hexEncode extra, createdAt, self⟩ : SessionSigner) else r).SessionId = id)) =
        fun r => decide (r.SessionId = id) := by
      funext r
      split_ifs with hr
      · rw [← hr.1]
      · rfl
    simp only [ListSessionSignerResults, List.filter_map, List.length_map, Function.comp_def, hkeep, le_refl]
  · simp only [ListSessionSignerResults, List.filter_append, List.map_append, List.length_append]
    omega

private theorem mem_append_row {l : List SessionSigner} {row r : SessionSigner} (h : r ∈ l ++ [row]) :
    r ∈ l ∨ r.SignerId = row.SignerId :=
  (List.mem_append.mp h).imp id fun h => by rw [List.mem_singleton.mp h]

/-- A row after a member's row is added or overwritten is a row of before, or the
member's. -/
theorem PrepareSessionSignerIfNotExist_rows {r : SessionSigner}
    (h : r ∈ (s.PrepareSessionSignerIfNotExist sessionId signerId createdAt).signers) :
    r ∈ s.signers ∨ r.SignerId = signerId := by
  unfold PrepareSessionSignerIfNotExist at h
  split at h
  exacts [.inl h, mem_append_row h]

theorem WriteSessionSignerIfNotExist_rows {r : SessionSigner}
    (h : r ∈ (s.WriteSessionSignerIfNotExist sessionId signerId extra createdAt self).signers) :
    r ∈ s.signers ∨ r.SignerId = signerId := by
  unfold WriteSessionSignerIfNotExist at h
  split at h
  exacts [.inl h, mem_append_row h]

theorem UpdateSessionSigner_rows {r : SessionSigner}
    (h : r ∈ (s.UpdateSessionSigner sessionId signerId extra createdAt self).signers) :
    r ∈ s.signers ∨ r.SignerId = signerId := by
  dsimp only [UpdateSessionSigner] at h
  split at h
  · obtain ⟨r₀, hr₀, rfl⟩ := List.mem_map.mp h
    split_ifs
    exacts [.inr rfl, .inl hr₀]
  · exact mem_append_row h

end SQLite3Store

/-- `sessionSigners[id]` on the result map. -/
def lookup (signers : List (String × String)) (id : String) : Option String :=
  (signers.find? (·.1 = id)).map (·.2)

end safe.signer

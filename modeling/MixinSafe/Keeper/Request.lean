import MixinSafe.Signer.Operation

namespace safe.keeper.store

/-- `common.Request` with every column of `requestCols`; `Amount` is the decimal. The
network-status handlers read five of its fields, as `keeper.Request`. -/
structure Request where
  Id : String
  MixinHash : String
  MixinIndex : Nat
  AssetId : String
  Amount : ℚ
  Role : UInt8
  Action : UInt8
  Curve : UInt8
  Holder : String
  Extra : String
  State : Nat
  CreatedAt : Nat
deriving DecidableEq, Repr

/-- The requests table (keeper/store/request.go) in rowid order, keyed by `request_id`.
`requestFromRow` scans `updated_at` into a value that nothing reads, so no row keeps it. -/
structure RequestTable where
  rows : List Request
  ids_nodup : (rows.map (·.Id)).Nodup

/-- Whether a row is the one that `FinishRequest`'s `UPDATE` changes. -/
def Finishing (id : String) (r : Request) : Bool := r.Id = id && r.State = RequestStateInitial

/-- The row that `FinishRequest` writes. -/
def Request.finish (r : Request) : Request := { r with State := RequestStateDone }

/-- One row of the scan of `ReadPendingRequest`, `WHERE state=? ORDER BY created_at ASC`:
an `Initial` request replaces the one found so far only when it was created earlier.
SQLite leaves the order of equal `created_at` open; the model takes the first written. -/
def pendingRow (best : Option Request) (r : Request) : Option Request :=
  if r.State = RequestStateInitial ∧ best.all (r.CreatedAt < ·.CreatedAt) then some r else best

/-- One row of the scan of `ReadLatestRequest`, `ORDER BY created_at DESC LIMIT 1`. -/
def latestRow (best : Option Request) (r : Request) : Option Request :=
  if best.all (·.CreatedAt < r.CreatedAt) then some r else best

private theorem requestIds_append {l : List Request} {r : Request} (hl : (l.map (·.Id)).Nodup)
    (hr : ∀ x ∈ l, x.Id ≠ r.Id) : ((l ++ [r]).map (·.Id)).Nodup := by
  rw [List.map_append, List.nodup_append]
  refine ⟨hl, List.nodup_singleton _, ?_⟩
  simp only [List.map_cons, List.map_nil, List.disjoint_singleton, List.mem_map, not_exists, not_and]
  exact hr

private theorem requestIds_finish (l : List Request) (id : String) :
    (l.map fun r => if Finishing id r then r.finish else r).map (·.Id) = l.map (·.Id) := by
  rw [List.map_map]
  exact List.map_congr_left fun r _ => by by_cases h : Finishing id r <;> simp [h, Request.finish]

namespace RequestTable

/-- The empty table. -/
def empty : RequestTable := ⟨[], List.nodup_nil⟩

variable (t : RequestTable)

/-- `ReadRequest`: nothing when no row has the id. -/
def ReadRequest (id : String) : Option Request := t.rows.find? (·.Id = id)

/-- `WriteRequestIfNotExist`: a request of state or role 0 panics, printing the
request's address; a request whose id has a row is not written again. -/
def WriteRequestIfNotExist (req : Request) : Except String RequestTable :=
  if req.State = 0 ∨ req.Role = 0 then throw "panic: (*common.Request)"
  else if h : (t.ReadRequest req.Id).isSome then pure t
  else pure ⟨t.rows ++ [req], requestIds_append t.ids_nodup fun x hx hid => h (by
    simpa [ReadRequest, List.find?_eq_none] using ⟨x, hx, hid⟩)⟩

/-- `FinishRequest`: the `UPDATE` to `Done` of the row of this id in state `Initial`,
through `execOne`, which is not under src/ and is modelled from the spec as failing
unless it changes exactly one row. -/
def FinishRequest (id : String) : Except String RequestTable :=
  if (t.rows.filter (Finishing id)).length = 1 then
    .ok ⟨t.rows.map fun r => if Finishing id r then r.finish else r, by rw [requestIds_finish]; exact t.ids_nodup⟩
  else .error "UPDATE requests affected no row"

/-- `ReadPendingRequest`: the `Initial` request created first. -/
def ReadPendingRequest : Option Request := t.rows.foldl pendingRow none

/-- `ReadLatestRequest`: the request created last. -/
def ReadLatestRequest : Option Request := t.rows.foldl latestRow none

variable {t} {id : String} {r : Request}

theorem ReadRequest_some (h : t.ReadRequest id = some r) : r ∈ t.rows ∧ r.Id = id := by
  have := List.find?_some h
  exact ⟨List.mem_of_find?_eq_some h, by simpa using this⟩

/-- A row is found by its id, the table's ids being unique. -/
theorem ReadRequest_of_mem (h : r ∈ t.rows) : t.ReadRequest r.Id = some r := by
  obtain ⟨rows, hnodup⟩ := t
  induction rows with
  | nil => cases h
  | cons x rows ih =>
    rw [List.map_cons, List.nodup_cons] at hnodup
    rcases List.mem_cons.mp h with rfl | hr
    · simp [ReadRequest]
    · have hne : x.Id ≠ r.Id := fun he => hnodup.1 (he ▸ List.mem_map_of_mem _ hr)
      simpa [ReadRequest, hne] using ih hnodup.2 hr

theorem ReadRequest_eq_some_iff : t.ReadRequest id = some r ↔ r ∈ t.rows ∧ r.Id = id :=
  ⟨ReadRequest_some, fun ⟨hr, hid⟩ => hid ▸ ReadRequest_of_mem hr⟩

variable {t' : RequestTable} {req : Request}

/-- A write adds the request as a new last row, when its id has none, or leaves the
table. -/
theorem WriteRequestIfNotExist_rows (h : t.WriteRequestIfNotExist req = .ok t') :
    t'.rows = t.rows ∨ (t.ReadRequest req.Id = none ∧ t'.rows = t.rows ++ [req]) := by
  unfold WriteRequestIfNotExist at h
  split_ifs at h with hbad hsome
  · cases h; exact .inl rfl
  · cases h; exact .inr ⟨Option.not_isSome_iff_eq_none.mp hsome, rfl⟩

/-- A duplicate delivery changes nothing. -/
theorem WriteRequestIfNotExist_of_isSome (hsome : (t.ReadRequest req.Id).isSome) (hstate : req.State ≠ 0)
    (hrole : req.Role ≠ 0) : t.WriteRequestIfNotExist req = .ok t := by
  simp [WriteRequestIfNotExist, hstate, hrole, hsome]

theorem ReadRequest_WriteRequestIfNotExist (h : t.WriteRequestIfNotExist req = .ok t')
    (hr : t.ReadRequest id = some r) : t'.ReadRequest id = some r := by
  rcases WriteRequestIfNotExist_rows h with hrows | ⟨-, hrows⟩
  · rwa [ReadRequest, hrows]
  · rw [ReadRequest] at hr ⊢
    rw [hrows, List.find?_append, hr]
    rfl

private theorem find?_map_finish (l : List Request) (id id' : String) :
    (l.map fun r => if Finishing id r then r.finish else r).find? (·.Id = id') =
      (l.find? (·.Id = id')).map fun r => if Finishing id r then r.finish else r := by
  rw [List.find?_map]
  congr 2
  funext r
  by_cases h : Finishing id r <;> simp [h, Request.finish]

/-- `FinishRequest` succeeds on a request that is `Initial`, and finishes it alone. -/
theorem FinishRequest_eq_ok (h : t.FinishRequest id = .ok t') :
    (∃ r, t.ReadRequest id = some r ∧ r.State = RequestStateInitial) ∧
      ∀ id', t'.ReadRequest id' = (t.ReadRequest id').map fun r => if Finishing id r then r.finish else r := by
  unfold FinishRequest at h
  split_ifs at h with hone
  cases h
  refine ⟨?_, fun id' => find?_map_finish t.rows id id'⟩
  obtain ⟨x, hx⟩ : ∃ x, x ∈ t.rows.filter (Finishing id) :=
    List.exists_mem_of_length_pos (by omega)
  obtain ⟨hmem, hfin⟩ := List.mem_filter.mp hx
  simp only [Finishing, Bool.and_eq_true, decide_eq_true_eq] at hfin
  exact ⟨x, hfin.1 ▸ ReadRequest_of_mem hmem, hfin.2⟩

/-- `FinishRequest` fails on a request that is missing or not `Initial`. -/
theorem FinishRequest_error (h : ∀ r, t.ReadRequest id = some r → r.State ≠ RequestStateInitial) :
    ∃ e, t.FinishRequest id = .error e := by
  have hnil : t.rows.filter (Finishing id) = [] := List.filter_eq_nil_iff.mpr fun x hx hfin => by
    simp only [Finishing, Bool.and_eq_true, decide_eq_true_eq] at hfin
    exact h x (hfin.1 ▸ ReadRequest_of_mem hx) hfin.2
  exact ⟨"UPDATE requests affected no row", by simp [FinishRequest, hnil]⟩

/-- The scan of `ReadPendingRequest` from a request found so far: the result is that
request or an `Initial` row, created no later than it and than any `Initial` row. -/
theorem foldl_pendingRow_some {l : List Request} {best : Option Request} (h : l.foldl pendingRow best = some r) :
    (best = some r ∨ r ∈ l ∧ r.State = RequestStateInitial) ∧
      (∀ x ∈ l, x.State = RequestStateInitial → r.CreatedAt ≤ x.CreatedAt) ∧ best.all (r.CreatedAt ≤ ·.CreatedAt) := by
  induction l generalizing best with
  | nil => cases h; simp
  | cons x l ih =>
    obtain ⟨hsrc, hmin, hbest⟩ := ih h
    unfold pendingRow at hsrc hbest
    split_ifs at hsrc hbest with hx
    · simp only [Option.all_some, decide_eq_true_eq] at hbest
      refine ⟨?_, ?_, ?_⟩
      · rcases hsrc with hsrc | ⟨hr, hi⟩
        · cases hsrc; exact .inr ⟨List.mem_cons_self _ _, hx.1⟩
        · exact .inr ⟨List.mem_cons_of_mem _ hr, hi⟩
      · simpa [hbest] using hmin
      · cases best with
        | none => rfl
        | some b => simpa using Nat.le_of_lt (Nat.lt_of_le_of_lt hbest (by simpa using hx.2))
    · refine ⟨hsrc.imp_right fun ⟨hr, hi⟩ => ⟨List.mem_cons_of_mem _ hr, hi⟩, ?_, hbest⟩
      simp only [List.mem_cons, forall_eq_or_imp]
      refine ⟨fun hxi => ?_, hmin⟩
      cases best with
      | none => exact absurd ⟨hxi, rfl⟩ hx
      | some b =>
        simp only [Option.all_some, decide_eq_true_eq, not_and, not_lt] at hx hbest
        exact Nat.le_trans hbest (hx hxi)

theorem foldl_pendingRow_none {l : List Request} {best : Option Request} :
    l.foldl pendingRow best = none ↔ best = none ∧ ∀ x ∈ l, x.State ≠ RequestStateInitial := by
  induction l generalizing best with
  | nil => simp
  | cons x l ih =>
    rw [List.foldl_cons, ih]
    unfold pendingRow
    split_ifs with hx
    · simp [hx.1]
    · simp only [List.mem_cons, forall_eq_or_imp]
      constructor
      · rintro ⟨rfl, hl⟩
        exact ⟨rfl, fun hxi => hx ⟨hxi, rfl⟩, hl⟩
      · rintro ⟨rfl, -, hl⟩
        exact ⟨rfl, hl⟩

/-- What `ReadPendingRequest` returns is an `Initial` row of the table. -/
theorem ReadPendingRequest_mem_initial {t : RequestTable} {r : Request} (h : t.ReadPendingRequest = some r) :
    r ∈ t.rows ∧ r.State = RequestStateInitial :=
  (foldl_pendingRow_some h).1.resolve_left (by simp)

end RequestTable

/-- A request that the table holds as finished. -/
def finishedRequest : Request := ⟨"r1", "h", 0, "a", 1, 1, 134, 1, "", "40", RequestStateDone, 5⟩

/-- A finished request and two `Initial` ones, created at 7 and at 4. -/
def pendingTable : RequestTable :=
  ⟨[finishedRequest, { finishedRequest with Id := "r2", State := RequestStateInitial, CreatedAt := 7 },
    { finishedRequest with Id := "r3", State := RequestStateInitial, CreatedAt := 4 }], by decide⟩

namespace RequestTable

variable {t : RequestTable} {r : Request}

end RequestTable

/-- What the table's calls may do to one request: leave it, or finish it from
`Initial`. -/
def RowEvolves (r r' : Request) : Prop := r' = r ∨ (r.State = RequestStateInitial ∧ r' = r.finish)

namespace RowEvolves

theorem refl (r : Request) : RowEvolves r r := .inl rfl

theorem trans {r r' r'' : Request} (h₁ : RowEvolves r r') (h₂ : RowEvolves r' r'') : RowEvolves r r'' := by
  rcases h₁ with rfl | ⟨hi, rfl⟩
  · exact h₂
  · rcases h₂ with rfl | ⟨hi', -⟩
    · exact .inr ⟨hi, rfl⟩
    · exact absurd hi' (by simp [Request.finish, RequestStateDone, RequestStateInitial])

end RowEvolves

namespace RequestTable

/-- Every request of `t` is in `t'`, as it was or finished. -/
def Evolves (t t' : RequestTable) : Prop :=
  ∀ id r, t.ReadRequest id = some r → ∃ r', t'.ReadRequest id = some r' ∧ RowEvolves r r'

theorem Evolves.refl (t : RequestTable) : Evolves t t := fun _ r hr => ⟨r, hr, RowEvolves.refl r⟩

theorem Evolves.trans {t t' t'' : RequestTable} (h₁ : Evolves t t') (h₂ : Evolves t' t'') : Evolves t t'' :=
  fun id r hr =>
    let ⟨r', hr', hev⟩ := h₁ id r hr
    let ⟨r'', hr'', hev'⟩ := h₂ id r' hr'
    ⟨r'', hr'', hev.trans hev'⟩

variable {t t' : RequestTable}

theorem evolves_of_write {req : Request} (h : t.WriteRequestIfNotExist req = .ok t') : Evolves t t' :=
  fun _ r hr => ⟨r, ReadRequest_WriteRequestIfNotExist h hr, RowEvolves.refl r⟩

theorem evolves_of_finish {id : String} (h : t.FinishRequest id = .ok t') : Evolves t t' := fun id' r hr => by
  refine ⟨if Finishing id r then r.finish else r, by rw [(FinishRequest_eq_ok h).2 id', hr]; rfl, ?_⟩
  split_ifs with hf
  · simp only [Finishing, Bool.and_eq_true, decide_eq_true_eq] at hf
    exact .inr ⟨hf.2, rfl⟩
  · exact RowEvolves.refl r

end RequestTable

/-- A call of the requests table. -/
inductive RequestCall where
  | write (req : Request)
  | finish (id : String)

/-- A call's effect on the table: a call that fails rolls its transaction back. -/
def RequestCall.apply (t : RequestTable) : RequestCall → RequestTable
  | .write req => match t.WriteRequestIfNotExist req with
    | .ok t' => t'
    | .error _ => t
  | .finish id => match t.FinishRequest id with
    | .ok t' => t'
    | .error _ => t

/-- A run of calls from a table. -/
def run (t : RequestTable) (calls : List RequestCall) : RequestTable := calls.foldl RequestCall.apply t

theorem RequestCall.apply_evolves (t : RequestTable) (c : RequestCall) : t.Evolves (c.apply t) := by
  cases c with
  | write req =>
    cases h : t.WriteRequestIfNotExist req with
    | ok t' => simpa only [apply, h] using RequestTable.evolves_of_write h
    | error e => simpa only [apply, h] using RequestTable.Evolves.refl t
  | finish id =>
    cases h : t.FinishRequest id with
    | ok t' => simpa only [apply, h] using RequestTable.evolves_of_finish h
    | error e => simpa only [apply, h] using RequestTable.Evolves.refl t

theorem run_evolves (t : RequestTable) (calls : List RequestCall) : t.Evolves (run t calls) := by
  induction calls generalizing t with
  | nil => exact RequestTable.Evolves.refl t
  | cons c calls ih => exact (c.apply_evolves t).trans (ih (c.apply t))

/-- Over every run of the table's calls, a request keeps every field but its state,
which moves only from `Initial` to `Done`. A request in any other state is never
touched again: it reads the same to the end of the run, `ReadPendingRequest` never
returns it, and `FinishRequest` on it fails. -/
theorem run_requests_final (t : RequestTable) (calls : List RequestCall) {id : String} {r : Request}
    (hr : t.ReadRequest id = some r) :
    (∃ r', (run t calls).ReadRequest id = some r' ∧ RowEvolves r r') ∧
      (r.State ≠ RequestStateInitial → (run t calls).ReadRequest id = some r ∧
        (run t calls).ReadPendingRequest ≠ some r ∧ ∃ e, (run t calls).FinishRequest id = .error e) := by
  obtain ⟨r', hr', hev⟩ := run_evolves t calls id r hr
  refine ⟨⟨r', hr', hev⟩, fun hne => ?_⟩
  obtain rfl : r' = r := hev.resolve_right fun ⟨hi, _⟩ => hne hi
  refine ⟨hr', fun hp => hne (RequestTable.ReadPendingRequest_mem_initial hp).2, RequestTable.FinishRequest_error ?_⟩
  intro x hx
  rw [hr'] at hx
  cases hx
  exact hne

/-- The table of the finished request. -/
def finishedTable : RequestTable := ⟨[finishedRequest], List.nodup_singleton _⟩

/-- Delivered again as `Initial` and finished again, the finished request stays as it
was, and a third finish fails. -/
theorem run_requests_final_finished :
    (run finishedTable [.write { finishedRequest with State := RequestStateInitial }, .finish "r1"]).ReadRequest "r1" =
        some finishedRequest ∧
      ∃ e, (run finishedTable [.write { finishedRequest with State := RequestStateInitial }, .finish "r1"]).FinishRequest
        "r1" = .error e :=
  let h := (run_requests_final finishedTable [.write { finishedRequest with State := RequestStateInitial }, .finish "r1"]
    (show finishedTable.ReadRequest "r1" = some finishedRequest from rfl)).2 (by decide)
  ⟨h.1, h.2.2⟩

end safe.keeper.store

namespace safe.keeper

open safe.signer (Operation writeUUID)

/-- `SignerKeygenMaximum`. -/
def SignerKeygenMaximum : Int := 128

/-- Modelled from the spec: `common.ActionObserverRequestSignerKeys` is not under src/;
it is the code 134 of the spec's request of signer keys. -/
def ActionObserverRequestSignerKeys : UInt8 := 134

/-- `fmt.Sprintf("%8d", i)`: the decimal digits, right-aligned in eight columns. -/
def fmtWidth8 (i : Nat) : String := ⟨List.replicate (8 - (toString i).length) ' ' ++ (toString i).data⟩

/-- `fmt.Sprintf("MTG:%v:%d", members, threshold)`. -/
def groupText (members : List String) (threshold : Nat) : String :=
  "MTG:[" ++ " ".intercalate members ++ "]:" ++ toString threshold

/-- The digits of `big.Int.SetString` in base 16: at least one hex digit, of either
case. -/
def hexDigitsValue (ds : List Char) : Option Nat :=
  if ds = [] then none else ds.foldlM (fun acc c => (hexValue c).map (acc * 16 + ·)) 0

/-- `new(big.Int).SetString(s, 16)`: an optional sign, then the digits. -/
def SetStringHex (s : String) : Option Int :=
  match s.data with
  | '-' :: ds => (hexDigitsValue ds).map fun n => -(n : Int)
  | '+' :: ds => (hexDigitsValue ds).map fun n => (n : Int)
  | ds => (hexDigitsValue ds).map fun n => (n : Int)

/-- Modelled from the spec: the keeper's `store.SignatureRequest` is not under src/;
these are the fields `sendSignerSignRequest` reads, the message being the hex sighash. -/
structure store.SignatureRequest where
  RequestId : String
  Signer : String
  Curve : UInt8
  Message : String

/-- What the keeper's requests to the signers read of the node: the signer group of
`node.signer.Genesis`, the asset `node.conf.AssetId` it pays the group in, the
encryption `common.AESEncrypt` under `node.signerAESKey`, the `uuid.FromString` of
`Operation.Encode`, and `mixin.UniqueConversationID`. -/
structure SignerGroup where
  Members : List String
  Threshold : Nat
  AssetId : String
  AESEncrypt : List UInt8 → String → List UInt8
  FromString : String → Option UUID
  UniqueConversationID : String → String → String

/-- A transaction that `buildTransaction` queues. -/
structure Transaction where
  AssetId : String
  Receivers : List String
  Threshold : Nat
  Amount : String
  Memo : List UInt8
  TraceId : String
deriving DecidableEq, Repr

/-- The keeper's requests table and the transactions it has queued. -/
structure Keeper where
  requests : store.RequestTable
  transactions : List Transaction

namespace Keeper

/-- Modelled from the spec: `buildTransaction` is not under src/; it queues the
transaction, and the store error it may return is not modelled. -/
def buildTransaction (k : Keeper) (tx : Transaction) : Keeper := { k with transactions := k.transactions ++ [tx] }

/-- `node.store.FinishRequest` as a handler's last step: the keeper, and the error the
handler returns. -/
def finish (k : Keeper) (id : String) : Keeper × Option String :=
  match k.requests.FinishRequest id with
  | .ok t => ({ k with requests := t }, none)
  | .error e => (k, some e)

end Keeper

namespace SignerGroup

variable (common : Common) (g : SignerGroup)

/-- The operation of the `i`-th key that `sendSignerKeygenRequest` asks for. -/
def keygenOperation (req : store.Request) (i : Nat) : Operation :=
  let id := g.UniqueConversationID req.Id (fmtWidth8 i)
  ⟨g.UniqueConversationID id (groupText g.Members g.Threshold), common.OperationTypeKeygenInput, req.Curve, "", []⟩

/-- `encryptSignerOperation`. -/
def encryptSignerOperation (op : Operation) : Except String (List UInt8) := do
  let extra ← op.Encode g.FromString
  return g.AESEncrypt extra op.Id

/-- `buildSignerTransaction`: an encrypted operation over 160 bytes panics. -/
def buildSignerTransaction (k : Keeper) (op : Operation) : Except String Keeper := do
  let extra ← g.encryptSignerOperation op
  if extra.length > 160 then throw ("panic: node.buildSignerTransaction(" ++ op.format ++ ") omitted " ++ hexEncode extra)
  return k.buildTransaction ⟨g.AssetId, g.Members, g.Threshold, "1", extra, op.Id⟩

/-- `sendSignerKeygenRequest`: the outer error is a panic; the keeper is returned with
the error the function returns. -/
def sendSignerKeygenRequest (k : Keeper) (req : store.Request) : Except String (Keeper × Option String) :=
  if req.Role ≠ common.RequestRoleObserver then throw ("panic: " ++ toString req.Role)
  else if req.Action ≠ ActionObserverRequestSignerKeys then throw ("panic: " ++ toString req.Action)
  else if req.Curve ≠ common.CurveSecp256k1ECDSABitcoin then pure (k.finish req.Id)
  else match SetStringHex req.Extra with
    | some batch =>
      if batch < 1 ∨ batch > SignerKeygenMaximum then pure (k.finish req.Id)
      else do
        let k ← (List.range batch.toNat).foldlM (fun k i => g.buildSignerTransaction k (g.keygenOperation common req i)) k
        pure (k.finish req.Id)
    | none => pure (k.finish req.Id)

/-- The transaction that carries the `i`-th keygen operation: the envelope of the
operation, its id's 16 bytes, type and curve and two empty fields, encrypted. -/
def keygenTransaction (req : store.Request) (i : Nat) : Transaction :=
  let op := g.keygenOperation common req i
  ⟨g.AssetId, g.Members, g.Threshold, "1",
    g.AESEncrypt (writeUUID g.FromString op.Id ++ [op.«Type», op.Curve, 0, 0, 0, 0]) op.Id, op.Id⟩

/-- The operation `sendSignerSignRequest` sends for a signature request whose message
decodes to `extra`: the request's id, and as its public the hex of `common.ShortSum` of
the signer key, `ShortSum` here. -/
def signOperation (ShortSum : String → List UInt8) (req : store.SignatureRequest) (extra : List UInt8) : Operation :=
  ⟨req.RequestId, common.OperationTypeSignInput, req.Curve, hexEncode (ShortSum req.Signer), extra⟩

/-- `sendSignerSignRequest`: a curve other than Bitcoin's panics, as does a message
that is not hex. -/
def sendSignerSignRequest (ShortSum : String → List UInt8) (k : Keeper) (req : store.SignatureRequest) :
    Except String Keeper :=
  if req.Curve ≠ common.CurveSecp256k1ECDSABitcoin then throw ("panic: " ++ toString req.Curve)
  else do
    let extra ← DecodeHexOrPanic req.Message
    g.buildSignerTransaction k (signOperation common ShortSum req extra)

variable {common g} {req : store.Request} {k : Keeper}

/-- A keygen operation always encodes, and is sent as `keygenTransaction` unless its
encryption is over 160 bytes. -/
theorem buildSignerTransaction_keygen (i : Nat) :
    g.buildSignerTransaction k (g.keygenOperation common req i) =
      if (g.keygenTransaction common req i).Memo.length > 160 then
        .error ("panic: node.buildSignerTransaction(" ++ (g.keygenOperation common req i).format ++ ") omitted " ++
          hexEncode (g.keygenTransaction common req i).Memo)
      else .ok (k.buildTransaction (g.keygenTransaction common req i)) := by
  simp only [buildSignerTransaction, encryptSignerOperation, safe.signer.Operation.Encode, keygenOperation,
    keygenTransaction]
  simp [WriteBytes, hexDecode, beBytes]

/-- The batch loop sends the keygen transactions in order while none is over 160
bytes. -/
theorem foldlM_buildSignerTransaction_keygen {n : Nat}
    (hsmall : ∀ i < n, (g.keygenTransaction common req i).Memo.length ≤ 160) :
    (List.range n).foldlM (fun k i => g.buildSignerTransaction k (g.keygenOperation common req i)) k =
      .ok { k with transactions := k.transactions ++ (List.range n).map (g.keygenTransaction common req) } := by
  induction n with
  | zero => simp
  | succ n ih =>
    rw [List.range_succ, List.foldlM_append, ih fun i hi => hsmall i (by omega), ok_bind]
    simp [buildSignerTransaction_keygen, Nat.not_lt.mpr (hsmall n (by omega)), Keeper.buildTransaction]

/-- The batch loop panics once a keygen transaction is over 160 bytes. -/
theorem foldlM_buildSignerTransaction_keygen_panic {n : Nat}
    (hbig : ∃ i < n, (g.keygenTransaction common req i).Memo.length > 160) :
    ∃ e, (List.range n).foldlM (fun k i => g.buildSignerTransaction k (g.keygenOperation common req i)) k = .error e := by
  induction n generalizing k with
  | zero => obtain ⟨i, hi, -⟩ := hbig; omega
  | succ n ih =>
    rw [List.range_succ, List.foldlM_append]
    by_cases hbefore : ∃ i < n, (g.keygenTransaction common req i).Memo.length > 160
    · obtain ⟨e, he⟩ := ih hbefore
      exact ⟨e, by rw [he, error_bind]⟩
    · push_neg at hbefore
      obtain ⟨i, hi, hlen⟩ := hbig
      obtain rfl : i = n := by
        by_contra hne
        exact absurd (hbefore i (by omega)) (by omega)
      rw [foldlM_buildSignerTransaction_keygen hbefore, ok_bind]
      simp [buildSignerTransaction_keygen, hlen]

/-- A request of signer keys from the observer, on the Bitcoin ECDSA curve, with an
extra that `big.Int` reads in base 16 as a number `n` from 1 to 128: the keeper sends
the signers `n` keygen transactions in order, the `i`-th for the operation of id
`UniqueConversationID(UniqueConversationID(req.Id, "%8d" i), "MTG:[members]:threshold")`,
and then finishes the request; it panics exactly when one of them encrypts to more than
160 bytes. On another curve, or with any other extra, it sends nothing and only
finishes the request. -/
theorem sendSignerKeygenRequest_spec (k : Keeper) (req : store.Request)
    (hrole : req.Role = common.RequestRoleObserver) (haction : req.Action = ActionObserverRequestSignerKeys) :
    (∀ n : Nat, req.Curve = common.CurveSecp256k1ECDSABitcoin → SetStringHex req.Extra = some (n : Int) → 1 ≤ n → n ≤ 128 →
      ((∀ i < n, (g.keygenTransaction common req i).Memo.length ≤ 160) →
        g.sendSignerKeygenRequest common k req = .ok (Keeper.finish
          { k with transactions := k.transactions ++ (List.range n).map (g.keygenTransaction common req) } req.Id)) ∧
      ((∃ i < n, (g.keygenTransaction common req i).Memo.length > 160) →
        ∃ e, g.sendSignerKeygenRequest common k req = .error e)) ∧
    ((req.Curve ≠ common.CurveSecp256k1ECDSABitcoin ∨ ∀ b : Int, SetStringHex req.Extra = some b → b < 1 ∨ 128 < b) →
      g.sendSignerKeygenRequest common k req = .ok (k.finish req.Id)) := by
  unfold sendSignerKeygenRequest
  rw [if_neg (not_not_intro hrole), if_neg (not_not_intro haction)]
  refine ⟨fun n hcurve hset h1 h128 => ?_, fun hother => ?_⟩
  · have hrange : ¬ ((n : Int) < 1 ∨ (n : Int) > SignerKeygenMaximum) := by simp only [SignerKeygenMaximum]; omega
    simp only [hcurve, ne_eq, not_true_eq_false, if_false, hset, hrange, Int.toNat_ofNat]
    refine ⟨fun hsmall => ?_, fun hbig => ?_⟩
    · rw [foldlM_buildSignerTransaction_keygen hsmall]
      rfl
    · obtain ⟨e, he⟩ := foldlM_buildSignerTransaction_keygen_panic (k := k) hbig
      exact ⟨e, by rw [he]; rfl⟩
  · by_cases hcurve : req.Curve = common.CurveSecp256k1ECDSABitcoin
    · rw [if_neg (not_not_intro hcurve)]
      have hbad := hother.resolve_left (not_not_intro hcurve)
      cases hset : SetStringHex req.Extra with
      | none => rfl
      | some b =>
        have : b < 1 ∨ b > SignerKeygenMaximum := by simpa [SignerKeygenMaximum] using hbad b hset
        simp only [this, if_true]
        rfl
    · rw [if_pos hcurve]
      rfl

/-- What a signature request that did not panic has sent: one transaction, the
encryption of the envelope of the sign operation on the Bitcoin curve. -/
theorem sendSignerSignRequest_eq_ok {ShortSum : String → List UInt8} {req : store.SignatureRequest} {k' : Keeper}
    (h : g.sendSignerSignRequest common ShortSum k req = .ok k') :
    ∃ extra b, req.Curve = common.CurveSecp256k1ECDSABitcoin ∧ DecodeHexOrPanic req.Message = .ok extra ∧
      (signOperation common ShortSum req extra).Encode g.FromString = .ok b ∧
      k'.transactions = k.transactions ++ [⟨g.AssetId, g.Members, g.Threshold, "1", g.AESEncrypt b req.RequestId,
        req.RequestId⟩] := by
  unfold sendSignerSignRequest at h
  by_cases hcurve : req.Curve = common.CurveSecp256k1ECDSABitcoin
  · rw [if_neg (not_not_intro hcurve)] at h
    obtain ⟨extra, hextra, h⟩ := bind_eq_ok.mp h
    cases hb : (signOperation common ShortSum req extra).Encode g.FromString with
    | error e => simp [buildSignerTransaction, encryptSignerOperation, hb] at h
    | ok b =>
      by_cases hlen : (g.AESEncrypt b (signOperation common ShortSum req extra).Id).length > 160
      · simp [buildSignerTransaction, encryptSignerOperation, hb, hlen] at h
      · simp only [buildSignerTransaction, encryptSignerOperation, hb, hlen, ok_bind, pure_eq_ok, if_false,
          Except.ok.injEq] at h
        exact ⟨extra, b, hcurve, hextra, hb, by rw [← h]; rfl⟩
  · rw [if_pos hcurve] at h
    cases h

/-- A signer group of three members that encrypts nothing and joins the texts of a
conversation id. -/
def fixture : SignerGroup :=
  ⟨["s1", "s2", "s3"], 2, "signer-asset", fun b _ => b, uuid.FromCanonical, fun a b => a ++ b⟩

/-- The observer's request of two signer keys on curve 1, with its extra `02`. -/
def keygenRequest : store.Request := ⟨"r4", "h", 0, "a", 1, 3, 134, 1, "", "02", RequestStateInitial, 9⟩

/-- The keeper holding that request. -/
def keygenKeeper : Keeper := ⟨⟨[keygenRequest], List.nodup_singleton _⟩, []⟩

/-- A signature request of the message `0505` on curve 1. -/
def signRequest : store.SignatureRequest := ⟨"r5", "02ab", 1, "0505"⟩

/-- An 8-byte `ShortSum`. -/
def shortSum (_ : String) : List UInt8 := [1, 2, 3, 4, 5, 6, 7, 8]

/-- The request asks for two keys: the keeper sends two keygen transactions and
finishes it. -/
theorem sendSignerKeygenRequest_spec_fixture :
    fixture.sendSignerKeygenRequest Common.fixture keygenKeeper keygenRequest =
      .ok (Keeper.finish { keygenKeeper with transactions := (List.range 2).map (fixture.keygenTransaction Common.fixture
        keygenRequest) } keygenRequest.Id) :=
  ((sendSignerKeygenRequest_spec keygenKeeper keygenRequest rfl rfl).1 2 rfl rfl (by decide) (by decide)).1 (by decide)

end SignerGroup

end safe.keeper

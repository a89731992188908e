import MixinSafe.Common.Constants

namespace safe.keeper

/-- `bitcoinMinimumFeeRate` and `bitcoinMaximumFeeRate`, in satoshi per vbyte. -/
def bitcoinMinimumFeeRate : Nat := 1
def bitcoinMaximumFeeRate : Nat := 1000

/-- `common.Request`, with the fields these handlers read. -/
structure Request where
  Id : String
  Role : UInt8
  Curve : UInt8
  Extra : String
  CreatedAt : Nat
deriving DecidableEq, Repr

/-- Modelled from the spec: `Request.ExtraBytes` is not under src/; it decodes the
hex of `Extra` and panics on bad hex. -/
def Request.ExtraBytes (r : Request) : Except String (List UInt8) := DecodeHexOrPanic r.Extra

/-- `store.NetworkInfo`. -/
structure NetworkInfo where
  RequestId : String
  Chain : UInt8
  Fee : Nat
  Height : Nat
  Hash : String
  CreatedAt : Nat
deriving DecidableEq, Repr

/-- `store.OperationParams`; the amounts are decimals. -/
structure OperationParams where
  RequestId : String
  Chain : UInt8
  OperationPriceAsset : String
  OperationPriceAmount : ℚ
  TransactionMinimum : ℚ
  CreatedAt : Nat
deriving DecidableEq, Repr

/-- A block as the chain's RPC reports it. -/
structure Block where
  Height : Nat
  Confirmations : Int
deriving DecidableEq, Repr

/-- The keeper's RPC calls, through `bitcoinParams` and `ethereumParams` of the
record's chain. -/
structure Node where
  RPCGetBitcoinBlock : UInt8 → String → Except String (Option Block)
  RPCGetEthereumBlock : UInt8 → String → Except String (Option Block)

/-- The keeper store's network infos and operation params in write order, and the
states the handled requests were finished with. Modelled from the spec: these tables
are not under src/. -/
structure SQLite3Store where
  networkInfos : List NetworkInfo
  operationParams : List OperationParams
  requests : List (String × Nat)

namespace SQLite3Store

variable (s : SQLite3Store)

/-- The empty store. -/
def empty : SQLite3Store := ⟨[], [], []⟩

/-- One row of the scan of `ReadLatestNetworkInfo`: a record of the chain created
no later than `t` replaces the best so far unless that was created later. -/
def latestRow (chain : UInt8) (t : Nat) (best : Option NetworkInfo) (r : NetworkInfo) : Option NetworkInfo :=
  if r.Chain = chain ∧ r.CreatedAt ≤ t ∧ best.all (·.CreatedAt ≤ r.CreatedAt) then some r else best

/-- Modelled from the spec: `ReadLatestNetworkInfo` is the chain's latest record
created no later than `t`; of records created at the same time, the later written. -/
def ReadLatestNetworkInfo (chain : UInt8) (t : Nat) : Option NetworkInfo :=
  s.networkInfos.foldl (latestRow chain t) none

/-- Modelled from the spec: `failRequest` moves the request to `Failed` and writes
nothing else. -/
def failRequest (id : String) : SQLite3Store := { s with requests := s.requests ++ [(id, RequestStateFailed)] }

/-- Modelled from the spec: `WriteNetworkInfoFromRequest` adds the record and
finishes the request. -/
def WriteNetworkInfoFromRequest (info : NetworkInfo) (id : String) : SQLite3Store :=
  { s with networkInfos := s.networkInfos ++ [info], requests := s.requests ++ [(id, RequestStateDone)] }

/-- Modelled from the spec: `WriteOperationParamsFromRequest` adds the params and
finishes the request. -/
def WriteOperationParamsFromRequest (params : OperationParams) (id : String) : SQLite3Store :=
  { s with operationParams := s.operationParams ++ [params], requests := s.requests ++ [(id, RequestStateDone)] }

@[simp] theorem failRequest_networkInfos (id : String) : (s.failRequest id).networkInfos = s.networkInfos := rfl

@[simp] theorem WriteNetworkInfoFromRequest_networkInfos (info : NetworkInfo) (id : String) :
    (s.WriteNetworkInfoFromRequest info id).networkInfos = s.networkInfos ++ [info] := rfl

end SQLite3Store

namespace Node

variable (common : Common) (node : Node)

/-- `verifyBitcoinNetworkInfo`: a 64-digit hash, the same height as the previous
record of that hash or a confirmed block of that height, and a fee rate in range. -/
def verifyBitcoinNetworkInfo (info : NetworkInfo) (old : Option NetworkInfo) : Except String Bool := do
  if info.Hash.length ≠ 64 then return false
  if old.any (·.Hash = info.Hash) then
    if old.any (·.Height ≠ info.Height) then throw ("malicious bitcoin block " ++ info.Hash)
  else
    let block ← (node.RPCGetBitcoinBlock info.Chain info.Hash).mapError
      ("malicious bitcoin block or node not in sync? " ++ info.Hash ++ " " ++ ·)
    let some block := block | throw ("malicious bitcoin block or node not in sync? " ++ info.Hash ++ " <nil>")
    if block.Height ≠ info.Height then throw ("malicious bitcoin block " ++ info.Hash)
    if block.Confirmations = -1 then throw ("malicious bitcoin fork " ++ info.Hash)
  if info.Fee < bitcoinMinimumFeeRate ∨ info.Fee > bitcoinMaximumFeeRate then return false
  return true

/-- `verifyEthereumNetworkInfo`: a 66-character hash, with the same height as the
previous record of that hash or a block of that height. -/
def verifyEthereumNetworkInfo (info : NetworkInfo) (old : Option NetworkInfo) : Except String Bool := do
  if info.Hash.length ≠ 66 then return false
  if old.any (·.Hash = info.Hash) then
    if old.any (·.Height ≠ info.Height) then throw ("malicious bitcoin block " ++ info.Hash)
  else
    let block ← (node.RPCGetEthereumBlock info.Chain info.Hash).mapError
      ("malicious ethereum block or node not in sync? " ++ info.Hash ++ " " ++ ·)
    let some block := block | throw ("malicious ethereum block or node not in sync? " ++ info.Hash ++ " <nil>")
    if block.Height ≠ info.Height then throw ("malicious ethereum block " ++ info.Hash)
  return true

/-- `writeNetworkInfo`: the observer's chain, fee rate, height and block hash,
recorded when not older than the chain's latest record and verified. -/
def writeNetworkInfo (s : SQLite3Store) (req : Request) : Except String SQLite3Store := do
  if req.Role ≠ common.RequestRoleObserver then throw ("panic: " ++ toString req.Role)
  let extra ← req.ExtraBytes
  if extra.length < 17 then return s.failRequest req.Id
  let chain := extra.headD 0
  let fee := BigEndianUint64 (slice extra 1 9)
  let height := BigEndianUint64 (slice extra 9 17)
  let old := s.ReadLatestNetworkInfo chain req.CreatedAt
  if old.any (·.RequestId = req.Id) then return s.failRequest req.Id
  if old.any (·.Height > height) then return s.failRequest req.Id
  if chain ≠ common.SafeCurveChain req.Curve then throw ("panic: " ++ req.Id)
  if common.IsBitcoinChain chain then
    let info : NetworkInfo := ⟨req.Id, chain, fee, height, hexEncode (extra.drop 17), req.CreatedAt⟩
    let valid ← (node.verifyBitcoinNetworkInfo info old).mapError ("panic: node.verifyBitcoinNetworkInfo => " ++ ·)
    if !valid then return s.failRequest req.Id
    return s.WriteNetworkInfoFromRequest info req.Id
  else if common.IsEthereumChain chain then
    let info : NetworkInfo := ⟨req.Id, chain, fee, height, "0x" ++ hexEncode (extra.drop 17), req.CreatedAt⟩
    let valid ← (node.verifyEthereumNetworkInfo info old).mapError ("panic: node.verifyEthereumNetworkInfo => " ++ ·)
    if !valid then return s.failRequest req.Id
    return s.WriteNetworkInfoFromRequest info req.Id
  else return s.failRequest req.Id

end Node

/-- `writeOperationParams`: the chain, the price asset and the two decimal amounts,
scaled by `10^8`, of a 33-byte extra. -/
def writeOperationParams (common : Common) (s : SQLite3Store) (req : Request) : Except String SQLite3Store := do
  if req.Role ≠ common.RequestRoleObserver then throw ("panic: " ++ toString req.Role)
  let extra ← req.ExtraBytes
  if extra.length ≠ 33 then return s.failRequest req.Id
  let chain := extra.headD 0
  if chain ≠ common.SafeCurveChain req.Curve then throw ("panic: " ++ req.Id)
  if chain ∉ [common.SafeChainBitcoin, common.SafeChainLitecoin, common.SafeChainEthereum,
      common.SafeChainPolygon] then return s.failRequest req.Id
  let assetId ← (UUID.FromBytes (slice extra 1 17)).mapError ("panic: " ++ ·)
  let amount : ℚ := (BigEndianUint64 (slice extra 17 25) : ℚ) / 10 ^ 8
  let minimum : ℚ := (BigEndianUint64 (slice extra 25 33) : ℚ) / 10 ^ 8
  return s.WriteOperationParamsFromRequest ⟨req.Id, chain, assetId.String, amount, minimum, req.CreatedAt⟩ req.Id

/-- The slices `writeOperationParams` reads of an extra made of a chain, a UUID and
two big-endian amounts. -/
private theorem params_slices (chain : UInt8) (a : UUID) (x y : Nat) :
    slice (chain :: a.bytes ++ beBytes 8 x ++ beBytes 8 y) 1 17 = a.bytes ∧
      slice (chain :: a.bytes ++ beBytes 8 x ++ beBytes 8 y) 17 25 = beBytes 8 x ∧
      slice (chain :: a.bytes ++ beBytes 8 x ++ beBytes 8 y) 25 33 = beBytes 8 y := by
  simp [slice, a.length_eq, List.drop_append_eq_append_drop, List.take_append_eq_append_take,
    List.drop_eq_nil_of_le]

/-- An observer request on a curve of one of the four chains, whose extra is that
chain, a UUID and two big-endian amounts, is written as those params, the amounts
scaled down by `10^8`. -/
theorem writeOperationParams_ok (common : Common) (s : SQLite3Store) (req : Request) (chain : UInt8) (a : UUID)
    (x y : Nat) (hrole : req.Role = common.RequestRoleObserver)
    (hextra : req.ExtraBytes = .ok (chain :: a.bytes ++ beBytes 8 x ++ beBytes 8 y))
    (hcurve : common.SafeCurveChain req.Curve = chain)
    (hchain : chain ∈ [common.SafeChainBitcoin, common.SafeChainLitecoin, common.SafeChainEthereum,
      common.SafeChainPolygon]) (hx : x < 2 ^ 64) (hy : y < 2 ^ 64) :
    writeOperationParams common s req = .ok (s.WriteOperationParamsFromRequest
      ⟨req.Id, chain, a.String, (x : ℚ) / 10 ^ 8, (y : ℚ) / 10 ^ 8, req.CreatedAt⟩ req.Id) := by
  obtain ⟨hasset, hamount, hminimum⟩ := params_slices chain a x y
  have hlen : (chain :: a.bytes ++ beBytes 8 x ++ beBytes 8 y).length = 33 := by simp [a.length_eq]
  have hbe : ∀ v, v < 2 ^ 64 → BigEndianUint64 (beBytes 8 v) = v := fun v hv => by
    simpa using BigEndianUint64_append v [] hv
  have hhead : (chain :: a.bytes ++ beBytes 8 x ++ beBytes 8 y).headD 0 = chain := rfl
  generalize chain :: a.bytes ++ beBytes 8 x ++ beBytes 8 y = extra at hextra hasset hamount hminimum hlen hhead
  simp only [writeOperationParams, hrole, hextra, hlen, hhead, hcurve, hasset, hamount, hminimum, hbe x hx,
    hbe y hy, hchain, ne_eq, not_true_eq_false, if_false, ok_bind, pure_eq_ok, UUID.FromBytes_bytes, Except.mapError]

end safe.keeper

import MixinSafe.Keeper.Network

namespace safe.observer

/-- The observer's `Asset`, of which the push reads the id. -/
structure Asset where
  AssetId : String

/-- The fields of the observer's `Configuration` that the push reads. -/
structure Configuration where
  PriceAssetId : String
  PriceAmount : String
  TransactionMinimum : String

/-- What the push calls beyond the configuration: the asset lookup, the chain's
parameters, the dummy holder key, and the decimal, UUID and conversation-id
libraries. The decimals of `shopspring/decimal` are rationals. -/
structure PriceServices where
  fetchAssetMeta : String → Except String (Option Asset)
  bitcoinParams : UInt8 → String × String
  bitcoinDummyHolder : String
  RequireFromString : String → Except String ℚ
  DecimalString : ℚ → String
  UUIDFromString : String → Except String UUID
  UniqueConversationID : String → String → String

/-- The arguments of `sendBitcoinKeeperResponse`. -/
structure KeeperResponse where
  Holder : String
  Action : Nat
  Chain : UInt8
  Id : String
  Extra : List UInt8

/-- Modelled from the spec: `common.ActionObserverSetAccountPlan` is not under src/;
it is the code 131 of the spec's operation-params push. -/
def ActionObserverSetAccountPlan : Nat := 131

/-- Modelled from the spec: `sendBitcoinKeeperResponse` is not under src/; the keeper
receives the response as a request of the observer role, on the curve of the
response's chain, carrying the hex of its extra. -/
def KeeperResponse.Request (common : Common) (r : KeeperResponse) (createdAt : Nat) : keeper.Request :=
  ⟨r.Id, common.RequestRoleObserver, common.SafeChainCurve r.Chain, hexEncode r.Extra, createdAt⟩

/-- `decimal.IntPart` and `decimal.BigInt`: the integer part, rounded toward zero. -/
def IntPart (d : ℚ) : Int := d.num.tdiv d.den

/-- `big.Int.IsInt64`. -/
def IsInt64 (x : Int) : Bool := decide (-2 ^ 63 ≤ x ∧ x < 2 ^ 63)

/-- The Go conversion `uint64(x)` of an `int64`. -/
def toUint64 (x : Int) : Nat := (x % 2 ^ 64).toNat

/-- `sendBitcoinPriceInfo`: the price asset, the price and the transaction minimum,
both scaled by `10^8` and checked to be positive `int64` integers, the minimum no
smaller than the dust value, sent to the keeper as a 33-byte extra. -/
def sendBitcoinPriceInfo (conf : Configuration) (svc : PriceServices) (ValueDust : Nat) (chain : UInt8) :
    Except String KeeperResponse := do
  let bitcoinAssetId := (svc.bitcoinParams chain).2
  let asset ← svc.fetchAssetMeta conf.PriceAssetId
  let amount ← (svc.RequireFromString conf.PriceAmount).mapError ("panic: " ++ ·)
  let minimum ← (svc.RequireFromString conf.TransactionMinimum).mapError ("panic: " ++ ·)
  let some asset := asset | throw "panic: nil pointer dereference"
  let amount := amount * 10 ^ 8
  if amount ≤ 0 ∨ amount.den ≠ 1 ∨ !IsInt64 (IntPart amount) then throw ("panic: " ++ conf.PriceAmount)
  let minimum := minimum * 10 ^ 8
  if minimum ≤ 0 ∨ minimum.den ≠ 1 ∨ !IsInt64 (IntPart minimum) then
    throw ("panic: " ++ conf.TransactionMinimum)
  if IntPart minimum < ValueDust then throw ("panic: " ++ conf.TransactionMinimum)
  let dummy := svc.bitcoinDummyHolder
  let id := svc.UniqueConversationID bitcoinAssetId asset.AssetId
  let id := svc.UniqueConversationID id (svc.DecimalString amount)
  let id := svc.UniqueConversationID id (svc.DecimalString minimum)
  let assetId ← (svc.UUIDFromString asset.AssetId).mapError ("panic: " ++ ·)
  let extra := [chain] ++ assetId.bytes
  let extra := BigEndianAppendUint64 extra (toUint64 (IntPart amount))
  let extra := BigEndianAppendUint64 extra (toUint64 (IntPart minimum))
  return ⟨dummy, ActionObserverSetAccountPlan, chain, id, extra⟩

/-- A scaled amount the push admits: a positive integer below `2^63`. -/
def Admissible (d : ℚ) : Prop := d.den = 1 ∧ 0 < d ∧ d < 2 ^ 63

theorem IntPart_of_den_eq_one {d : ℚ} (h : d.den = 1) : IntPart d = d.num := by simp [IntPart, h]

/-- The three checks of a scaled amount are admissibility. -/
theorem scaled_checks_iff (d : ℚ) : ¬(d ≤ 0 ∨ d.den ≠ 1 ∨ (!IsInt64 (IntPart d)) = true) ↔ Admissible d := by
  by_cases hden : d.den = 1
  · have hlt : d < 2 ^ 63 ↔ d.num < 2 ^ 63 := by
      rw [← Rat.coe_int_num_of_den_eq_one hden]
      exact_mod_cast Iff.rfl
    simp only [Admissible, IsInt64, hden, IntPart_of_den_eq_one hden, hlt, ← Rat.num_nonpos, ← Rat.num_pos,
      ne_eq, not_true_eq_false, Bool.not_eq_true', decide_eq_false_iff_not, true_and, false_or]
    omega
  · simp [Admissible, hden]

/-- An admissible scaled amount is framed as its own value. -/
theorem toUint64_IntPart {d : ℚ} (hd : Admissible d) :
    ((toUint64 (IntPart d) : Nat) : ℚ) = d ∧ toUint64 (IntPart d) < 2 ^ 63 := by
  obtain ⟨hden, hpos, hlt⟩ := hd
  have hnum : (d.num : ℚ) = d := Rat.coe_int_num_of_den_eq_one hden
  have h0 : 0 < d.num := Rat.num_pos.mpr hpos
  have h63 : d.num < 2 ^ 63 := by
    rw [← hnum] at hlt
    exact_mod_cast hlt
  rw [IntPart_of_den_eq_one hden, toUint64, Int.emod_eq_of_lt h0.le (by omega)]
  refine ⟨?_, by omega⟩
  rw [← hnum]
  exact_mod_cast Int.toNat_of_nonneg h0.le

section Push

variable {conf : Configuration} {svc : PriceServices} {ValueDust : Nat} {chain : UInt8}

/-- When the push returns, the asset, the two amounts and the UUID were all read, both
scaled amounts are admissible and the minimum is above dust. -/
theorem sendBitcoinPriceInfo_ok_inputs {r : KeeperResponse}
    (h : sendBitcoinPriceInfo conf svc ValueDust chain = .ok r) :
    ∃ asset a P M, svc.fetchAssetMeta conf.PriceAssetId = .ok (some asset) ∧
      svc.RequireFromString conf.PriceAmount = .ok P ∧ svc.RequireFromString conf.TransactionMinimum = .ok M ∧
      svc.UUIDFromString asset.AssetId = .ok a ∧ Admissible (P * 10 ^ 8) ∧ Admissible (M * 10 ^ 8) ∧
      (ValueDust : ℚ) ≤ M * 10 ^ 8 := by
  unfold sendBitcoinPriceInfo at h
  cases hf : svc.fetchAssetMeta conf.PriceAssetId with
  | error e => rw [hf] at h; exact nomatch h
  | ok asset =>
  cases hP : svc.RequireFromString conf.PriceAmount with
  | error e => rw [hf, hP] at h; exact nomatch h
  | ok P =>
  cases hM : svc.RequireFromString conf.TransactionMinimum with
  | error e => rw [hf, hP, hM] at h; exact nomatch h
  | ok M =>
  cases asset with
  | none => rw [hf, hP, hM] at h; exact nomatch h
  | some asset =>
  simp only [hf, hP, hM, Except.mapError, ok_bind] at h
  by_cases hPc : P * 10 ^ 8 ≤ 0 ∨ (P * 10 ^ 8).den ≠ 1 ∨ (!IsInt64 (IntPart (P * 10 ^ 8))) = true
  · simp only [hPc, if_true, throw_eq_error, error_bind] at h
    cases h
  by_cases hMc : M * 10 ^ 8 ≤ 0 ∨ (M * 10 ^ 8).den ≠ 1 ∨ (!IsInt64 (IntPart (M * 10 ^ 8))) = true
  · simp only [hPc, hMc, if_true, if_false, throw_eq_error, error_bind, pure_eq_ok, ok_bind] at h
    cases h
  have hMa := (scaled_checks_iff _).mp hMc
  by_cases hd : IntPart (M * 10 ^ 8) < ValueDust
  · simp only [hPc, hMc, hd, if_true, if_false, throw_eq_error, error_bind, pure_eq_ok, ok_bind] at h
    cases h
  cases ha : svc.UUIDFromString asset.AssetId with
  | error e =>
    simp only [hPc, hMc, hd, ha, if_false, pure_eq_ok, ok_bind, Except.mapError, error_bind] at h
    cases h
  | ok a =>
  have hdust : (ValueDust : ℚ) ≤ M * 10 ^ 8 := by
    rw [← Rat.coe_int_num_of_den_eq_one hMa.1, ← IntPart_of_den_eq_one hMa.1]
    exact_mod_cast not_lt.mp hd
  exact ⟨asset, a, P, M, rfl, rfl, rfl, ha, (scaled_checks_iff _).mp hPc, hMa, hdust⟩

/-- The push returns for every admitted price and minimum. -/
theorem sendBitcoinPriceInfo_eq_ok {asset : Asset} {a : UUID} {P M : ℚ}
    (hf : svc.fetchAssetMeta conf.PriceAssetId = .ok (some asset))
    (hP : svc.RequireFromString conf.PriceAmount = .ok P) (hM : svc.RequireFromString conf.TransactionMinimum = .ok M)
    (ha : svc.UUIDFromString asset.AssetId = .ok a) (hPa : Admissible (P * 10 ^ 8)) (hMa : Admissible (M * 10 ^ 8))
    (hdust : (ValueDust : ℚ) ≤ M * 10 ^ 8) :
    sendBitcoinPriceInfo conf svc ValueDust chain = .ok ⟨svc.bitcoinDummyHolder, ActionObserverSetAccountPlan, chain,
      svc.UniqueConversationID (svc.UniqueConversationID (svc.UniqueConversationID (svc.bitcoinParams chain).2
        asset.AssetId) (svc.DecimalString (P * 10 ^ 8))) (svc.DecimalString (M * 10 ^ 8)),
      chain :: a.bytes ++ beBytes 8 (toUint64 (IntPart (P * 10 ^ 8))) ++
        beBytes 8 (toUint64 (IntPart (M * 10 ^ 8)))⟩ := by
  have hd : ¬IntPart (M * 10 ^ 8) < ValueDust := by
    have hle : (((ValueDust : Int) : ℚ)) ≤ ((M * 10 ^ 8).num : ℚ) := by
      rw [Rat.coe_int_num_of_den_eq_one hMa.1]
      exact_mod_cast hdust
    rw [IntPart_of_den_eq_one hMa.1, not_lt]
    exact_mod_cast hle
  simp only [sendBitcoinPriceInfo, hf, hP, hM, ha, Except.mapError, ok_bind, (scaled_checks_iff _).mpr hPa,
    (scaled_checks_iff _).mpr hMa, hd, if_false, pure_eq_ok]
  rfl

end Push

/-- Every admitted price and minimum on a Bitcoin-family chain reaches the keeper as
a 33-byte extra that passes its checks and is written as exactly the chain, the
asset's UUID, the price and the minimum. -/
theorem sendBitcoinPriceInfo_operation_params (common : Common) (conf : Configuration) (svc : PriceServices)
    (ValueDust : Nat) (chain : UInt8) (asset : Asset) (a : UUID) (P M : ℚ) (s : keeper.SQLite3Store)
    (createdAt : Nat) (hchain : common.IsBitcoinChain chain)
    (hf : svc.fetchAssetMeta conf.PriceAssetId = .ok (some asset))
    (hP : svc.RequireFromString conf.PriceAmount = .ok P) (hM : svc.RequireFromString conf.TransactionMinimum = .ok M)
    (ha : svc.UUIDFromString asset.AssetId = .ok a) (hPa : Admissible (P * 10 ^ 8)) (hMa : Admissible (M * 10 ^ 8))
    (hdust : (ValueDust : ℚ) ≤ M * 10 ^ 8) :
    ∃ r, sendBitcoinPriceInfo conf svc ValueDust chain = .ok r ∧ r.Extra.length = 33 ∧
      keeper.writeOperationParams common s (r.Request common createdAt) =
        .ok (s.WriteOperationParamsFromRequest ⟨r.Id, chain, a.String, P, M, createdAt⟩ r.Id) := by
  refine ⟨_, sendBitcoinPriceInfo_eq_ok hf hP hM ha hPa hMa hdust, by simp [a.length_eq], ?_⟩
  obtain ⟨hPx, hP63⟩ := toUint64_IntPart hPa
  obtain ⟨hMx, hM63⟩ := toUint64_IntPart hMa
  have hcurve : common.SafeCurveChain (common.SafeChainCurve chain) = chain :=
    common.curveChain_chainCurve chain (by rcases hchain with rfl | rfl <;> simp)
  have hmem : chain ∈ [common.SafeChainBitcoin, common.SafeChainLitecoin, common.SafeChainEthereum,
      common.SafeChainPolygon] := by rcases hchain with rfl | rfl <;> simp
  rw [keeper.writeOperationParams_ok common s _ chain a (toUint64 (IntPart (P * 10 ^ 8)))
    (toUint64 (IntPart (M * 10 ^ 8))) rfl ?_ hcurve hmem (by omega) (by omega)]
  · simp [KeeperResponse.Request, hPx, hMx]
  · exact DecodeHexOrPanic_hexEncode _

/-- The price asset of the keeper tests. -/
def priceAsset : UUID :=
  ⟨[0x31, 0xd2, 0xea, 0x9c, 0x95, 0xeb, 0x33, 0x55, 0xb6, 0x5b, 0xba, 0x09, 0x68, 0x53, 0xbc, 0x18], rfl⟩

/-- A configuration pushing the tests' price of 3.0123 and minimum of 0.0001. -/
def priceConfiguration : Configuration := ⟨"31d2ea9c-95eb-3355-b65b-ba096853bc18", "3.0123", "0.0001"⟩

/-- Services that know the price asset and read the two configured decimals. -/
def priceServices : PriceServices where
  fetchAssetMeta := fun id => .ok (some ⟨id⟩)
  bitcoinParams := fun _ => ("", "c6d0c728-2624-429b-8e0d-d9d19b6592fa")
  bitcoinDummyHolder := ""
  RequireFromString := fun s =>
    if s = "3.0123" then .ok (30123 / 10000) else if s = "0.0001" then .ok (1 / 10000) else .error s
  DecimalString := fun _ => ""
  UUIDFromString := fun _ => .ok priceAsset
  UniqueConversationID := fun a b => a ++ b

theorem sendBitcoinPriceInfo_operation_params_tests :
    Common.fixture.IsBitcoinChain 1 ∧ Admissible ((30123 / 10000 : ℚ) * 10 ^ 8) ∧
      Admissible ((1 / 10000 : ℚ) * 10 ^ 8) ∧ ((1000 : Nat) : ℚ) ≤ (1 / 10000 : ℚ) * 10 ^ 8 ∧
      ∃ r, sendBitcoinPriceInfo priceConfiguration priceServices 1000 1 = .ok r ∧ r.Extra.length = 33 ∧
        keeper.writeOperationParams Common.fixture keeper.SQLite3Store.empty (r.Request Common.fixture 0) =
          .ok (keeper.SQLite3Store.empty.WriteOperationParamsFromRequest
            ⟨r.Id, 1, priceAsset.String, 30123 / 10000, 1 / 10000, 0⟩ r.Id) :=
  have hchain : Common.fixture.IsBitcoinChain 1 := .inl rfl
  have hP : Admissible ((30123 / 10000 : ℚ) * 10 ^ 8) := by norm_num [Admissible]
  have hM : Admissible ((1 / 10000 : ℚ) * 10 ^ 8) := by norm_num [Admissible]
  have hdust : ((1000 : Nat) : ℚ) ≤ (1 / 10000 : ℚ) * 10 ^ 8 := by norm_num
  ⟨hchain, hP, hM, hdust, sendBitcoinPriceInfo_operation_params Common.fixture priceConfiguration priceServices
    1000 1 ⟨"31d2ea9c-95eb-3355-b65b-ba096853bc18"⟩ priceAsset _ _ keeper.SQLite3Store.empty 0 hchain rfl rfl rfl
    rfl hP hM hdust⟩

end safe.observer

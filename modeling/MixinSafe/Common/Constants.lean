import MixinSafe.Common.Encoding

namespace safe

/-- Request and row states of the persisted layout. -/
def RequestStateInitial : Nat := 1
def RequestStatePending : Nat := 2
def RequestStateDone : Nat := 3
def RequestStateFailed : Nat := 4

/-- The codes of package `common` read by the modelled functions. They are not under
src/ and the code only tests them for equality, so they are parameters with the
distinctness that the code's switches rely on. `SafeCurveChain` is the keeper's map
from a request's curve to its chain, `SafeChainCurve` the curve the observer sends for
a Bitcoin-family chain; they agree on those chains. -/
structure Common where
  SafeChainBitcoin : UInt8
  SafeChainLitecoin : UInt8
  SafeChainEthereum : UInt8
  SafeChainPolygon : UInt8
  SafeCurveChain : UInt8 → UInt8
  SafeChainCurve : UInt8 → UInt8
  RequestRoleSigner : UInt8
  RequestRoleObserver : UInt8
  RequestFlagNone : UInt8
  OperationTypeKeygenInput : UInt8
  OperationTypeSignInput : UInt8
  OperationTypeKeygenOutput : UInt8
  OperationTypeSignOutput : UInt8
  CurveSecp256k1ECDSABitcoin : UInt8
  CurveSecp256k1ECDSAEthereum : UInt8
  CurveSecp256k1SchnorrBitcoin : UInt8
  CurveEdwards25519Mixin : UInt8
  CurveEdwards25519Default : UInt8
  chains_nodup : [SafeChainBitcoin, SafeChainLitecoin, SafeChainEthereum, SafeChainPolygon].Nodup
  inputs_ne : OperationTypeKeygenInput ≠ OperationTypeSignInput
  curveChain_chainCurve : ∀ c ∈ [SafeChainBitcoin, SafeChainLitecoin], SafeCurveChain (SafeChainCurve c) = c

/-- Codes for running the model on concrete inputs: chains 1 to 4, each chain's
curve the code of the chain itself. -/
def Common.fixture : Common where
  SafeChainBitcoin := 1
  SafeChainLitecoin := 2
  SafeChainEthereum := 3
  SafeChainPolygon := 4
  SafeCurveChain := id
  SafeChainCurve := id
  RequestRoleSigner := 2
  RequestRoleObserver := 3
  RequestFlagNone := 0
  OperationTypeKeygenInput := 1
  OperationTypeSignInput := 2
  OperationTypeKeygenOutput := 11
  OperationTypeSignOutput := 12
  CurveSecp256k1ECDSABitcoin := 1
  CurveSecp256k1ECDSAEthereum := 2
  CurveSecp256k1SchnorrBitcoin := 3
  CurveEdwards25519Mixin := 4
  CurveEdwards25519Default := 5
  chains_nodup := by decide
  inputs_ne := by decide
  curveChain_chainCurve := fun _ _ => rfl

namespace Common

variable (common : Common)

/-- The Bitcoin-family chains, which the observer's Bitcoin code accepts. -/
def IsBitcoinChain (c : UInt8) : Prop := c = common.SafeChainBitcoin ∨ c = common.SafeChainLitecoin

/-- The Ethereum-family chains. -/
def IsEthereumChain (c : UInt8) : Prop := c = common.SafeChainEthereum ∨ c = common.SafeChainPolygon

instance (c : UInt8) : Decidable (common.IsBitcoinChain c) := inferInstanceAs (Decidable (_ ∨ _))
instance (c : UInt8) : Decidable (common.IsEthereumChain c) := inferInstanceAs (Decidable (_ ∨ _))

theorem not_isEthereumChain_of_isBitcoinChain {c : UInt8} (h : common.IsBitcoinChain c) :
    ¬ common.IsEthereumChain c := by
  have hnd := common.chains_nodup
  simp only [List.nodup_cons, List.mem_cons, List.mem_singleton, not_or] at hnd
  rcases h with rfl | rfl <;> rintro (h | h) <;> simp_all

/-- The curves `parseOperation` accepts for a signer session. -/
def IsSignerCurve (crv : UInt8) : Prop :=
  crv ∈ [common.CurveSecp256k1ECDSABitcoin, common.CurveSecp256k1ECDSAEthereum,
    common.CurveSecp256k1SchnorrBitcoin, common.CurveEdwards25519Mixin, common.CurveEdwards25519Default]

instance (crv : UInt8) : Decidable (common.IsSignerCurve crv) := inferInstanceAs (Decidable (_ ∈ _))

end Common

end safe

import MixinSafe.Common.Constants

namespace safe.bitcoin

/-- `wire.OutPoint`, with the hash in its display (`String()`) form. -/
structure OutPoint where
  Hash : String
  Index : Nat
deriving DecidableEq, Repr

/-- The `(transaction_hash, output_index)` key of the output an outpoint spends. -/
def OutPoint.key (p : OutPoint) : String × Nat := (p.Hash, p.Index)

/-- `wire.TxIn`. -/
structure TxIn where
  PreviousOutPoint : OutPoint
  Sequence : Nat
  Witness : List (List UInt8)
deriving DecidableEq, Repr

/-- `wire.TxOut`; the value is the 64-bit pattern that `int64` and `uint64` share. -/
structure TxOut where
  Value : Nat
  PkScript : List UInt8
deriving DecidableEq, Repr

/-- `wire.MsgTx`. -/
structure MsgTx where
  Version : Nat
  TxIn : List TxIn
  TxOut : List TxOut
deriving DecidableEq, Repr

/-- `psbt.PartialSig`. -/
structure PartialSig where
  PubKey : List UInt8
  Signature : List UInt8
deriving DecidableEq, Repr

/-- `psbt.PInput`, of which only the partial signatures are read. -/
structure PInput where
  PartialSigs : List PartialSig
deriving DecidableEq, Repr

/-- `bitcoin.PartiallySignedTransaction`: the unsigned transaction and one
`PInput` per input. -/
structure PartiallySignedTransaction where
  UnsignedTx : MsgTx
  Inputs : List PInput
deriving DecidableEq, Repr

/-- `txscript.SigHashAll`. -/
def SigHashAll : UInt8 := 1

/-- The functions and constants of `apps/bitcoin` and btcd that the observer
calls. Package `apps/bitcoin` is not under src/ and btcd is a library: the model takes
any functions in their place, so every result holds whatever they compute.
`WitnessSigHash` stands for building an accountant's P2WPKH script from its public key
and computing the BIP-143 hash of one input with it. `VerifySignatureDER` parses its
signature as DER before it checks it, and the empty string is not DER. -/
structure Bitcoin where
  MaxTransactionSequence : Nat
  ValueDust : UInt8 → Nat
  MarshalWiredTransaction : MsgTx → UInt8 → Except String (List UInt8)
  TxHash : MsgTx → String
  ParseAddress : String → UInt8 → Except String (List UInt8)
  NewHashFromStr : String → Except String String
  UnmarshalPartiallySignedTransaction : List UInt8 → Option PartiallySignedTransaction
  Marshal : PartiallySignedTransaction → List UInt8
  Hash : PartiallySignedTransaction → String
  SigHash : PartiallySignedTransaction → Nat → List UInt8
  VerifySignatureDER : String → List UInt8 → List UInt8 → Bool
  PubKeyFromPrivate : List UInt8 → List UInt8
  WitnessSigHash : List UInt8 → MsgTx → Nat → Nat → Except String (List UInt8)
  Sign : List UInt8 → List UInt8 → List UInt8
  VerifySignatureDER_nil : ∀ pub hash, VerifySignatureDER pub hash [] = false

/-- A library whose calls all succeed, for running the model on concrete inputs:
transactions hash to the text of their first input's outpoint. -/
def Bitcoin.fixture : Bitcoin where
  MaxTransactionSequence := 0xffffffff
  ValueDust := fun _ => 1000
  MarshalWiredTransaction := fun _ _ => .ok []
  TxHash := fun m => match m.TxIn with
    | i :: _ => "tx" ++ i.PreviousOutPoint.Hash
    | [] => "tx"
  ParseAddress := fun _ _ => .ok []
  NewHashFromStr := fun h => .ok h
  UnmarshalPartiallySignedTransaction := fun _ => none
  Marshal := fun _ => []
  Hash := fun _ => ""
  SigHash := fun _ _ => []
  VerifySignatureDER := fun _ _ sig => !sig.isEmpty
  PubKeyFromPrivate := id
  WitnessSigHash := fun _ _ _ _ => .ok []
  Sign := fun k _ => k
  VerifySignatureDER_nil := fun _ _ => rfl

end safe.bitcoin

import MixinSafe.Signer.Store

namespace safe.signer

/-- `PrepareExtra`, the bytes of `"PREPARE"`. -/
def PrepareExtra : List UInt8 := [80, 82, 69, 80, 65, 82, 69]

/-- `OperationExtraLimit`. -/
def OperationExtraLimit : Nat := 128

/-- The signer node's configuration and the libraries it calls: the MTG memo codec
and group, AES under the node's shared key, the operation codec and the curves.
`VerifyHolder` is the per-curve check of `verifySessionHolder` and
`VerifyCurveSignature` that of `verifySessionSignature`; both panic on other curves.
`CheckAssetBalanceAt` is the keeper asset's balance at a sequence. -/
structure Node where
  id : String
  members : List String
  threshold : Nat
  AppId : String
  AssetId : String
  KeeperAssetId : String
  KeeperAppId : String
  KeeperMembers : List String
  KeeperThreshold : Nat
  GenesisId : String
  CheckTestEnvironment : Bool
  VerifyKernelTransaction : Action → Except String Bool
  HashFromString : String → Except String String
  DecodeMixinExtraHEX : String → String × Option (List UInt8)
  AESDecrypt : List UInt8 → List UInt8
  AESEncrypt : List UInt8 → String → List UInt8
  DecodeOperation : List UInt8 → Except String Operation
  Encode : Operation → List UInt8
  UniqueId : String → String → String
  CheckAssetBalanceAt : Nat → ℚ
  Fingerprint : String → List UInt8
  VerifyHolder : UInt8 → String → Except String Bool
  deriveByPath : UInt8 → List UInt8 → List UInt8 → Except String (List UInt8 × List UInt8)
  VerifyCurveSignature : UInt8 → String → List UInt8 → List UInt8 → List UInt8 → Except String Bool

/-- A four-member node of threshold 1 whose libraries read every memo as a sign
request of session `s1` on curve 1, for running the model on concrete inputs. -/
def Node.fixture : Node where
  id := "m1"
  members := ["m1", "m2", "m3", "m4"]
  threshold := 1
  AppId := "app"
  AssetId := "signer"
  KeeperAssetId := "keeper"
  KeeperAppId := "keeper-app"
  KeeperMembers := ["k1"]
  KeeperThreshold := 1
  GenesisId := "genesis"
  CheckTestEnvironment := true
  VerifyKernelTransaction := fun _ => .ok false
  HashFromString := fun h => .ok h
  DecodeMixinExtraHEX := fun _ => ("app", some [])
  AESDecrypt := fun b => b
  AESEncrypt := fun b _ => b
  DecodeOperation := fun _ => .ok ⟨"s1", 2, 1, "", []⟩
  Encode := fun op => op.Extra
  UniqueId := fun a b => a ++ b
  CheckAssetBalanceAt := fun _ => 1
  Fingerprint := fun _ => []
  VerifyHolder := fun _ _ => .ok true
  deriveByPath := fun _ _ _ => .ok ([], [])
  VerifyCurveSignature := fun _ _ _ _ _ => .ok true

/-- The fields of the MPC library's `protocol.Message` that the node reads; `SSID` is
`none` for a nil slice. -/
structure Message where
  SSID : Option (List UInt8)
  From : String
  RoundNumber : Nat

/-- The MPC library's binary codec of messages and its `Message.IsFor`. -/
structure Protocol where
  MarshalBinary : Message → Except String (List UInt8)
  UnmarshalBinary : List UInt8 → Except String Message
  IsFor : Message → String → Bool

/-- `marshalSessionMessage`: the session id's length byte, the id and the message,
which `common.MarshalPanic` encodes or panics; an id longer than 32 bytes panics. -/
def marshalSessionMessage (P : Protocol) (sessionId : List UInt8) (msg : Message) : Except String (List UInt8) := do
  if sessionId.length > 32 then throw ("panic: " ++ hexEncode sessionId)
  let msb := [UInt8.ofNat sessionId.length] ++ sessionId
  let payload ← (P.MarshalBinary msg).mapError ("panic: " ++ ·)
  return msb ++ payload

/-- What `unmarshalSessionMessage` returns: `short` is a nil id and message with the
error; `frame` is the session id with the outcome of `msg.UnmarshalBinary` on the
rest of the frame. -/
inductive SessionMessage where
  | short (err : String)
  | frame (sessionId : List UInt8) (msg : Except String Message)

/-- `unmarshalSessionMessage`: a frame of at least 16 bytes whose length byte `b[0]`
leaves a byte after the id is split as `b[1:1+b[0]]` and `b[1+b[0]:]`, where `1+b[0]`
is a `byte` sum. -/
def unmarshalSessionMessage (P : Protocol) (b : List UInt8) : Except String SessionMessage := do
  let short := SessionMessage.short ("unmarshalSessionMessage(" ++ hexEncode b ++ ") short")
  if b.length < 16 then return short
  if b.length - 1 ≤ (b.headD 0).toNat then return short
  let sessionId ← sliceChecked b 1 ((1 + (b.headD 0).toNat) % 256)
  let payload ← sliceChecked b ((1 + (b.headD 0).toNat) % 256) b.length
  return .frame sessionId (P.UnmarshalBinary payload)

namespace Node

variable (common : Common) (node : Node)

/-- `verifyKernelTransaction`: whether the action is a kernel deposit. -/
def verifyKernelTransaction (out : Action) : Except String Bool :=
  if node.CheckTestEnvironment then pure false else node.VerifyKernelTransaction out

/-- `findMember`: the member's index, `-1` for a stranger. -/
def findMember (m : String) : Int := if m ∈ node.members then node.members.indexOf m else -1

/-- `parseOperation`: the outer error is a panic, the inner one the error returned. -/
def parseOperation (memo : String) : Except String (Except String Operation) := do
  let (a, m) := node.DecodeMixinExtraHEX memo
  if a ≠ node.AppId then throw ("panic: " ++ memo)
  let some m := m | return .error ("mtg.DecodeMixinExtraHEX(" ++ memo ++ ")")
  return do
    let op ← (node.DecodeOperation (node.AESDecrypt m)).mapError ("common.DecodeOperation => " ++ ·)
    if op.«Type» ≠ common.OperationTypeSignInput ∧ op.«Type» ≠ common.OperationTypeKeygenInput then
      throw ("invalid action " ++ toString op.«Type»)
    if ¬ common.IsSignerCurve op.Curve then throw ("invalid curve " ++ toString op.Curve)
    return op

/-- `parseSignerMessage`: the outer error is a panic, the inner one the error returned. -/
def parseSignerMessage (out : Action) : Except String (Except String Operation) := do
  let (a, memo) := node.DecodeMixinExtraHEX out.Extra
  if a ≠ node.AppId then throw ("panic: " ++ out.Extra)
  return do
    let req ← (node.DecodeOperation (node.AESDecrypt (memo.getD []))).mapError ("common.DecodeOperation => " ++ ·)
    if req.«Type» ≠ common.OperationTypeKeygenInput ∧ req.«Type» ≠ common.OperationTypeSignInput then
      throw ("invalid action " ++ toString req.«Type»)
    return req

/-- One member in the sign case of `verifySessionSignerResults`: the first member
with a result fixes the candidate `sig`, and a member counts when its result is
the candidate's non-empty hex. -/
def signStep (signers : List (String × String)) (acc : Nat × Option (List UInt8)) (id : String) :
    Except String (Nat × Option (List UInt8)) := do
  let sig ← match acc.2, lookup signers id with
    | none, some extra => some <$> DecodeHexOrPanic extra
    | sig, _ => pure sig
  let counted := match lookup signers id with
    | some extra => decide (extra ≠ "" ∧ hexEncode (sig.getD []) = extra)
    | none => false
  return (if counted then acc.1 + 1 else acc.1, sig)

/-- Whether a member counts in the keygen case: its result is the session's public
key and the node's own result. -/
def keygenCounted (session : Session) (signers : List (String × String)) (id : String) : Bool :=
  match lookup signers id with
  | some public => decide (public = session.Public ∧ public = (lookup signers node.id).getD "")
  | none => false

/-- `verifySessionSignerResults`: a keygen is finished when every member counts, a
signature when more than `threshold` members report the candidate. -/
def verifySessionSignerResults (session : Session) (signers : List (String × String)) :
    Except String (Bool × Option (List UInt8)) :=
  if session.Operation = common.OperationTypeKeygenInput then
    pure (decide ((node.members.filter (node.keygenCounted session signers)).length ≥ node.members.length), none)
  else if session.Operation = common.OperationTypeSignInput then do
    let (signed, sig) ← node.members.foldlM (signStep signers) (0, none)
    pure (decide (signed > node.threshold), sig)
  else throw ("panic: " ++ session.Id)

/-- `concatMessageAndSignature`: the message's `uint32` length, the message, the signature. -/
def concatMessageAndSignature (msg sig : List UInt8) : List UInt8 := beBytes 4 msg.length ++ msg ++ sig

/-- `readKeyByFingerPath`: a 12-byte hex fingerprint and path. -/
def readKeyByFingerPath (s : SQLite3Store) (public : String) :
    Except String (String × UInt8 × List UInt8 × List UInt8) :=
  match hexDecode public.toList with
  | some fingerPath =>
    if fingerPath.length ≠ 12 ∨ fingerPath.getD 8 0 > 3 then
      throw ("node.readKeyByFingerPath(" ++ public ++ ") invalid fingerprint")
    else
      let (key, crv, share) := s.ReadKeyByFingerprint (hexEncode (fingerPath.take 8))
      pure (key, crv, share, fingerPath.drop 8)
  | none => throw ("node.readKeyByFingerPath(" ++ public ++ ") invalid fingerprint")

/-- The split at the head of `verifySessionSignature`: the message's `uint32` length
`el` read from `extra[:4]`, nothing when `extra` is shorter than `el + 32`, else the
message `extra[4:4+el]` and the signature `extra[4+el:]`, where `4+el` is a `uint32`
sum. -/
def splitSessionSignature (extra : List UInt8) : Except String (Option (List UInt8 × List UInt8)) := do
  let el := beUint (← sliceChecked extra 0 4)
  if extra.length < el + 32 then return none
  let msg ← sliceChecked extra 4 ((4 + el) % 2 ^ 32)
  let sig ← sliceChecked extra ((4 + el) % 2 ^ 32) extra.length
  return some (msg, sig)

/-- `verifySessionSignature`: the message and signature packed in `extra`, checked
against the key derived along `path`. -/
def verifySessionSignature (crv : UInt8) (holder : String) (extra share path : List UInt8) :
    Except String (Bool × List UInt8) := do
  let some (msg, sig) ← splitSessionSignature extra | return (false, [])
  let (public, _) ← node.deriveByPath crv share path
  let valid ← node.VerifyCurveSignature crv holder public msg sig
  return (valid, sig)

/-- The keygen case after a finished keygen: the keygen output for the session's key. -/
def keygenOutput (s : SQLite3Store) (id : String) (session : Session) (signers : List (String × String)) :
    Except String (Option Operation) := do
  if (lookup signers node.id).getD "" ≠ session.Public then throw ("panic: " ++ session.Public)
  let valid ← node.VerifyHolder session.Curve session.Public
  if !valid then return none
  let (holder, crv, share) := s.ReadKeyByFingerprint (hexEncode (node.Fingerprint session.Public))
  if holder ≠ session.Public ∨ crv ≠ session.Curve then throw ("panic: " ++ session.Public)
  let (public, chainCode) ← node.deriveByPath crv share [0, 0, 0, 0]
  if hexEncode public ≠ session.Public then throw ("panic: " ++ session.Public)
  return some ⟨id, common.OperationTypeKeygenOutput, session.Curve, session.Public,
    [common.RequestRoleSigner] ++ chainCode ++ [common.RequestFlagNone]⟩

/-- The sign case before the output: a prepared `Initial` session goes to `Pending`
with the message and the aggregated signature, and is read again. -/
def markSignPending (s : SQLite3Store) (session : Session) (sig : Option (List UInt8)) :
    Except String (SQLite3Store × Session) :=
  if session.State = RequestStateInitial ∧ session.PreparedAt.isSome then do
    let msg ← DecodeHexOrPanic session.Extra
    let s := s.MarkSessionPending session.Id session.Curve session.Public
      (concatMessageAndSignature msg (sig.getD []))
    let some session := s.ReadSession session.Id | throw "panic: store.ReadSession"
    return (s, session)
  else pure (s, session)

/-- The sign case after a finished signature: the sign output, unless the key's
curve differs or the signature does not verify. -/
def signOutput (s : SQLite3Store) (id : String) (curve : UInt8) (session : Session) :
    Except String (Option Operation) := do
  let (holder, crv, share, path) ← (readKeyByFingerPath s session.Public).mapError ("panic: " ++ ·)
  if crv ≠ curve then return none
  let extra ← DecodeHexOrPanic session.Extra
  let (valid, sig) ← node.verifySessionSignature session.Curve holder extra share path
  if !valid then return none
  return some ⟨id, common.OperationTypeSignOutput, curve, holder, sig⟩

/-- `encryptOperation`. -/
def encryptOperation (op : Operation) : Except String (List UInt8) :=
  let extra := node.Encode op
  if extra.length > OperationExtraLimit then throw ("panic: " ++ hexEncode extra)
  else pure (node.AESEncrypt extra op.Id)

/-- `buildKeeperTransaction`: the keeper transaction of `op`, or the keeper asset
when the group cannot pay for it at `sequence`. -/
def buildKeeperTransaction (op : Operation) (sequence : Nat) : Except String (Option MtgTransaction × String) := do
  let extra ← node.encryptOperation op
  if extra.length > 160 then throw "panic: node.buildKeeperTransaction omitted"
  if !node.CheckTestEnvironment ∧ node.CheckAssetBalanceAt sequence < 1 then return (none, node.KeeperAssetId)
  let traceId := node.UniqueId node.GenesisId op.Id
  return (some ⟨traceId, node.KeeperAppId, node.KeeperAssetId, "1", extra, node.KeeperMembers, node.KeeperThreshold⟩, "")

/-- `processSignerPrepare`: the member's preparation of a sign session, which is
marked prepared once more than `threshold` members prepared. An error panics in
`processAction`. -/
def processSignerPrepare (s : SQLite3Store) (op : Operation) (out : Action) : Except String SQLite3Store := do
  if op.«Type» ≠ common.OperationTypeSignInput then throw "node.processSignerPrepare type"
  if op.Extra ≠ PrepareExtra then throw "panic: PREPARE"
  let some session := s.ReadSession op.Id | throw "panic: store.ReadSession"
  if session.PreparedAt.isSome then return s
  let some sender := out.Senders.head? | throw "panic: index out of range [0]"
  let s := s.PrepareSessionSignerIfNotExist op.Id sender out.CreatedAt
  if (s.ListSessionSignerResults op.Id).length ≤ node.threshold then return s
  return s.MarkSessionPrepared op.Id out.CreatedAt

/-- The session's result row as `processSignerResult` writes it: insert-if-absent
for a keygen, overwrite for a signature. -/
def writeSignerResult (s : SQLite3Store) (session : Session) (op : Operation) (out : Action) : SQLite3Store :=
  let sender := out.Senders.headD ""
  let self := decide (out.Senders = [node.id])
  if session.Operation = common.OperationTypeKeygenInput then
    s.WriteSessionSignerIfNotExist op.Id sender op.Extra out.CreatedAt self
  else if session.Operation = common.OperationTypeSignInput then
    s.UpdateSessionSigner op.Id sender op.Extra out.CreatedAt self
  else s

/-- The output of a finished session: the keeper operation to send, if any, and
the store after the sign case's move to `Pending`. -/
def signerOutput (s : SQLite3Store) (op : Operation) (session : Session) (signers : List (String × String))
    (sig : Option (List UInt8)) : Except String (Option Operation × SQLite3Store) :=
  if session.Operation = common.OperationTypeKeygenInput then do
    let op' ← node.keygenOutput common s op.Id session signers
    return (op', s)
  else if session.Operation = common.OperationTypeSignInput then do
    let (s, session') ← markSignPending s session sig
    let op' ← node.signOutput common s op.Id session.Curve session'
    return (op', s)
  else throw ("panic: " ++ session.Id)

/-- `processSignerResult`: record a member's result; once the session is finished,
build the keeper transaction of its output. -/
def processSignerResult (s : SQLite3Store) (op : Operation) (out : Action) :
    Except String (List MtgTransaction × String × SQLite3Store) := do
  let some session := s.ReadSession op.Id | throw "panic: store.ReadSession"
  if op.Curve ≠ session.Curve ∨ op.«Type» ≠ session.Operation then throw ("panic: " ++ session.Id)
  let s := node.writeSignerResult common s session op out
  let signers := s.ListSessionSignerResults op.Id
  let (finished, sig) ← node.verifySessionSignerResults common session signers
  if !finished then return ([], "", s)
  if signers.length ≤ node.threshold then throw ("panic: " ++ session.Id)
  let (op', s) ← node.signerOutput common s op session signers sig
  let some op' := op' | return ([], "", s)
  let (tx, asset) ← node.buildKeeperTransaction op' out.Sequence
  if asset ≠ "" then return ([], asset, s)
  return (tx.toList, "", s)

/-- `processAction`: the transactions to send and the asset in shortage, with the
store it leaves. -/
def processAction (s : SQLite3Store) (out : Action) : Except String (List MtgTransaction × String × SQLite3Store) := do
  if ← node.verifyKernelTransaction out then return ([], "", s)
  if out.AssetId = node.KeeperAssetId then
    if out.Amount < 1 then throw ("panic: " ++ out.TransactionHash)
    match ← node.parseOperation common out.Extra with
    | .error _ => return ([], "", s)
    | .ok op =>
      let hash ← (node.HashFromString out.TransactionHash).mapError ("panic: " ++ ·)
      return ([], "", s.WriteSessionIfNotExist op hash out.OutputIndex out.CreatedAt)
  else if out.AssetId = node.AssetId then
    if out.Senders.length ≠ 1 ∨ node.findMember (out.Senders.headD "") < 0 then return ([], "", s)
    match ← node.parseSignerMessage common out with
    | .error _ => return ([], "", s)
    | .ok req =>
      if req.Extra = PrepareExtra then
        let s ← (node.processSignerPrepare common s req out).mapError ("panic: " ++ ·)
        return ([], "", s)
      else node.processSignerResult common s req out
  else return ([], "", s)

/-- `ProcessOutput`: the action is processed twice, and `mtg.ReplayCheck` panics
unless both runs return the same transactions and asset. -/
def ProcessOutput (s : SQLite3Store) (out : Action) : Except String (List MtgTransaction × String × SQLite3Store) := do
  let (txs1, asset1, s) ← node.processAction common s out
  let (txs2, asset2, s) ← node.processAction common s out
  if txs1 ≠ txs2 ∨ asset1 ≠ asset2 then throw "panic: mtg.ReplayCheck"
  return (txs1, asset1, s)

/-- One round of `acceptIncomingMessages` on a frame `msb` received from `peer`, up to
the hand-over to the session's channel: the session id and the message when the node
takes it. The log line reads the message's fields before the error is checked. -/
def acceptIncomingMessage (P : Protocol) (peer : String) (msb : List UInt8) :
    Except String (Option (List UInt8 × Message)) := do
  match ← unmarshalSessionMessage P msb with
  | .short _ => throw "panic: runtime error: invalid memory address or nil pointer dereference"
  | .frame _ (.error _) => return none
  | .frame sessionId (.ok msg) =>
    if msg.SSID.isNone then return none
    if msg.From ≠ peer then return none
    if !P.IsFor msg node.id then return none
    return some (sessionId, msg)

end Node

end safe.signer

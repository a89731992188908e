import MixinSafe.Observer.Store

open safe.bitcoin

namespace safe.observer

/-- What `keeperCombineBitcoinTransactionSignatures` hands to the store once every
check passed: `UpdateRecoveryState(Address, Raw, Done)` and
`FinishTransactionSignatures(Hash, Raw)`, with `Raw` the hex of the combined PSBT. -/
structure CombineWrite where
  Address : String
  Hash : String
  Raw : String
  Psbt : PartiallySignedTransaction

/-- One step of building the `signed` map: `signed[r.InputIndex] = decode(r.Signature)`. -/
def addSignature (signed : Nat → List UInt8) (r : SignatureRequest) : Except String (Nat → List UInt8) := do
  let sig ← DecodeHexOrPanic r.Signature
  return fun i => if i = r.InputIndex then sig else signed i

/-- The `signed` map, input index to the keeper's signature; the last request of
an index wins, and an index without request reads `nil`. -/
def signedSignatures (requests : List SignatureRequest) : Except String (Nat → List UInt8) :=
  requests.foldlM addSignature (fun _ => [])

/-- The holder-side check of one required input: a normal input needs the holder's
signature first, a recovery input either the observer's signature alone or both
the holder's and the observer's (`signedByHolderObserver`). -/
def signedByHolderObserver (bitcoin : Bitcoin) (S : PartiallySignedTransaction) (tx : Transaction)
    (opk : String) (input : TxIn) (hpin : PInput) (hsig : PartialSig) : Except String Bool :=
  if input.Sequence = bitcoin.MaxTransactionSequence then
    if hexEncode hsig.PubKey ≠ tx.Holder then throw ("panic: " ++ bitcoin.Hash S) else pure false
  else if hpin.PartialSigs.length = 1 then
    if hexEncode hsig.PubKey ≠ opk then throw ("panic: " ++ bitcoin.Hash S) else pure false
  else
    let pubs := hpin.PartialSigs.map fun sig => hexEncode sig.PubKey
    if tx.Holder ∈ pubs ∧ opk ∈ pubs then pure true else throw ("panic: " ++ bitcoin.Hash S)

/-- The signer-side check of input `idx` of the keeper's response `S`: its first
partial signature is keyed by `spk`, equals `signed[idx]` and verifies. -/
def signerPartialSigs (bitcoin : Bitcoin) (S : PartiallySignedTransaction) (spk : String)
    (signed : Nat → List UInt8) (idx : Nat) : Except String (List PartialSig) := do
  let some spin := S.Inputs[idx]? | throw "panic: index out of range"
  let some ssig := spin.PartialSigs.head? | throw "panic: index out of range [0]"
  if hexEncode ssig.PubKey ≠ spk then throw ("panic: " ++ bitcoin.Hash S)
  if ssig.Signature ≠ signed idx then throw ("panic: " ++ bitcoin.Hash S)
  if !bitcoin.VerifySignatureDER spk (bitcoin.SigHash S idx) ssig.Signature then
    throw ("panic: " ++ bitcoin.Hash S)
  return spin.PartialSigs

/-- One iteration of the loop over `spsbt.UnsignedTx.TxIn`. -/
def combineInput (node : Node) (bitcoin : Bitcoin) (S : PartiallySignedTransaction) (tx : Transaction)
    (spk opk : String) (signed : Nat → List UInt8) (hpsbt : PartiallySignedTransaction) (idx : Nat)
    (input : TxIn) : Except String PartiallySignedTransaction := do
  if !node.checkBitcoinUTXOSignatureRequired input.PreviousOutPoint then return hpsbt
  let some hpin := hpsbt.Inputs[idx]? | throw "panic: index out of range"
  let some hsig := hpin.PartialSigs.head? | throw "panic: index out of range [0]"
  if (← signedByHolderObserver bitcoin S tx opk input hpin hsig) then return hpsbt
  let ssigs ← signerPartialSigs bitcoin S spk signed idx
  return { hpsbt with Inputs := hpsbt.Inputs.set idx { hpin with PartialSigs := hpin.PartialSigs ++ ssigs } }

/-- The loop over the inputs from index `idx` on. -/
def combineLoop (node : Node) (bitcoin : Bitcoin) (S : PartiallySignedTransaction) (tx : Transaction)
    (spk opk : String) (signed : Nat → List UInt8) :
    Nat → List TxIn → PartiallySignedTransaction → Except String PartiallySignedTransaction
  | _, [], hpsbt => pure hpsbt
  | idx, input :: rest, hpsbt => do
    let hpsbt ← combineInput node bitcoin S tx spk opk signed hpsbt idx input
    combineLoop node bitcoin S tx spk opk signed (idx + 1) rest hpsbt

/-- `keeperCombineBitcoinTransactionSignatures`: `none` when it returns before any
write. The holder PSBT is decoded before the safe is read but first used in the
loop, or by `Marshal` when no input is required; a nil one panics there, which is
where the model checks it. A missing approval or safe panics on its first field. -/
def Node.keeperCombineBitcoinTransactionSignatures (node : Node) (common : Common) (bitcoin : Bitcoin)
    (extra : List UInt8) : Except String (Option CombineWrite) := do
  let some S := bitcoin.UnmarshalPartiallySignedTransaction extra | throw "panic: nil pointer dereference"
  let some tx ← node.ReadTransactionApproval (bitcoin.Hash S) | throw "panic: nil pointer dereference"
  if tx.State ≥ RequestStateDone then return none
  if ¬ common.IsBitcoinChain tx.Chain then throw ("panic: " ++ bitcoin.Hash S)
  let b ← DecodeHexOrPanic tx.RawTransaction
  let hpsbt := bitcoin.UnmarshalPartiallySignedTransaction b
  let some safe ← node.ReadSafe tx.Holder | throw "panic: nil pointer dereference"
  let spk ← (node.deriveBIP32WithKeeperPath tx.Signer safe.Path).mapError ("panic: " ++ ·)
  let opk ← (node.deriveBIP32WithKeeperPath safe.Observer safe.Path).mapError ("panic: " ++ ·)
  let requests ← node.ListAllSignaturesForTransaction (bitcoin.Hash S) RequestStateDone
  let signed ← signedSignatures requests
  let some hpsbt := hpsbt | throw "panic: nil pointer dereference"
  let hpsbt ← combineLoop node bitcoin S tx spk opk signed 0 S.UnsignedTx.TxIn hpsbt
  let raw := hexEncode (bitcoin.Marshal hpsbt)
  return some ⟨safe.Address, bitcoin.Hash hpsbt, raw, hpsbt⟩

/-- The signer's half of input `idx`: the first partial signature of the keeper's
response `S` there is keyed by `spk`, is the signature of one of the keeper's Done
requests for `idx` and verifies against `S`'s hash of `idx`; the written list is
the holder's followed by the keeper's. -/
def SignerAppended (bitcoin : Bitcoin) (S : PartiallySignedTransaction) (spk : String)
    (requests : List SignatureRequest) (idx : Nat) (hin : PInput) (sigs : List PartialSig) : Prop :=
  ∃ sin ssig, S.Inputs[idx]? = some sin ∧ sin.PartialSigs.head? = some ssig ∧ hexEncode ssig.PubKey = spk ∧
    (∃ r ∈ requests, r.InputIndex = idx ∧ DecodeHexOrPanic r.Signature = .ok ssig.Signature) ∧
    bitcoin.VerifySignatureDER spk (bitcoin.SigHash S idx) ssig.Signature = true ∧
    sigs = hin.PartialSigs ++ sin.PartialSigs

/-- The two roles behind the partial signatures `sigs` written for input `idx`,
whose holder-side input is `hin`: holder and signer on a normal input; on a
time-locked recovery input the observer, with either the signer or the holder. -/
def TwoRolesSigned (bitcoin : Bitcoin) (S : PartiallySignedTransaction) (tx : Transaction)
    (spk opk : String) (requests : List SignatureRequest) (idx : Nat) (input : TxIn) (hin : PInput)
    (sigs : List PartialSig) : Prop :=
  if input.Sequence = bitcoin.MaxTransactionSequence then
    (∃ hsig, hin.PartialSigs.head? = some hsig ∧ hexEncode hsig.PubKey = tx.Holder) ∧
      SignerAppended bitcoin S spk requests idx hin sigs
  else
    ((∃ hsig, hin.PartialSigs = [hsig] ∧ hexEncode hsig.PubKey = opk) ∧
      SignerAppended bitcoin S spk requests idx hin sigs) ∨
    (tx.Holder ∈ hin.PartialSigs.map (fun sig => hexEncode sig.PubKey) ∧
      opk ∈ hin.PartialSigs.map (fun sig => hexEncode sig.PubKey) ∧ sigs = hin.PartialSigs)

/-- Every index of `signed` holds the signature of one of the requests for it, or
nothing. -/
theorem signedSignatures_spec {requests : List SignatureRequest} {signed : Nat → List UInt8}
    (h : signedSignatures requests = .ok signed) (idx : Nat) :
    (∃ r ∈ requests, r.InputIndex = idx ∧ DecodeHexOrPanic r.Signature = .ok (signed idx)) ∨ signed idx = [] := by
  suffices ∀ acc, requests.foldlM addSignature acc = .ok signed →
      (∃ r ∈ requests, r.InputIndex = idx ∧ DecodeHexOrPanic r.Signature = .ok (signed idx)) ∨
        signed idx = acc idx from this _ h
  clear h
  induction requests with
  | nil => intro acc h; cases h; exact .inr rfl
  | cons r rest ih =>
    intro acc h
    obtain ⟨acc', hstep, hrest⟩ := bind_eq_ok.mp h
    obtain ⟨sig, hsig, hacc⟩ := bind_eq_ok.mp hstep
    cases hacc
    rcases ih _ hrest with ⟨r', hr', hidx, hdec⟩ | hval
    · exact .inl ⟨r', List.mem_cons_of_mem _ hr', hidx, hdec⟩
    · by_cases hi : idx = r.InputIndex
      · simp only [hi, if_true] at hval
        exact .inl ⟨r, List.mem_cons_self _ _, hi.symm, by rw [hi, hval, hsig]⟩
      · simp only [hi, if_false] at hval
        exact .inr hval

theorem signedByHolderObserver_ok {bitcoin : Bitcoin} {S : PartiallySignedTransaction} {tx : Transaction}
    {opk : String} {input : TxIn} {hpin : PInput} {hsig : PartialSig} {b : Bool}
    (h : signedByHolderObserver bitcoin S tx opk input hpin hsig = .ok b) :
    (b = false ∧ input.Sequence = bitcoin.MaxTransactionSequence ∧ hexEncode hsig.PubKey = tx.Holder) ∨
    (b = false ∧ input.Sequence ≠ bitcoin.MaxTransactionSequence ∧ hpin.PartialSigs.length = 1 ∧
      hexEncode hsig.PubKey = opk) ∨
    (b = true ∧ input.Sequence ≠ bitcoin.MaxTransactionSequence ∧
      tx.Holder ∈ hpin.PartialSigs.map (fun sig => hexEncode sig.PubKey) ∧
      opk ∈ hpin.PartialSigs.map (fun sig => hexEncode sig.PubKey)) := by
  simp only [signedByHolderObserver] at h
  by_cases h₁ : input.Sequence = bitcoin.MaxTransactionSequence
  · by_cases h₂ : hexEncode hsig.PubKey = tx.Holder <;> simp [h₁, h₂] at h
    exact .inl ⟨h, h₁, h₂⟩
  by_cases h₃ : hpin.PartialSigs.length = 1
  · by_cases h₄ : hexEncode hsig.PubKey = opk <;> simp [h₁, h₃, h₄] at h
    exact .inr (.inl ⟨h, h₁, h₃, h₄⟩)
  by_cases h₅ : tx.Holder ∈ hpin.PartialSigs.map (fun sig => hexEncode sig.PubKey) ∧
      opk ∈ hpin.PartialSigs.map (fun sig => hexEncode sig.PubKey)
  · simp only [h₁, h₃, h₅, if_false, if_true, and_self] at h
    cases h
    exact .inr (.inr ⟨rfl, h₁, h₅⟩)
  · simp only [h₁, h₃, h₅, if_false] at h
    cases h

theorem signerPartialSigs_ok {bitcoin : Bitcoin} {S : PartiallySignedTransaction} {spk : String}
    {signed : Nat → List UInt8} {idx : Nat} {ssigs : List PartialSig}
    (h : signerPartialSigs bitcoin S spk signed idx = .ok ssigs) :
    ∃ spin ssig, S.Inputs[idx]? = some spin ∧ spin.PartialSigs.head? = some ssig ∧
      hexEncode ssig.PubKey = spk ∧ ssig.Signature = signed idx ∧
      bitcoin.VerifySignatureDER spk (bitcoin.SigHash S idx) ssig.Signature = true ∧ ssigs = spin.PartialSigs := by
  unfold signerPartialSigs at h
  cases hspin : S.Inputs[idx]? with
  | none => simp [hspin] at h
  | some spin =>
    cases hssig : spin.PartialSigs.head? with
    | none => simp [hspin, hssig] at h
    | some ssig =>
      by_cases h₁ : hexEncode ssig.PubKey = spk
      · by_cases h₂ : ssig.Signature = signed idx
        · cases h₃ : bitcoin.VerifySignatureDER spk (bitcoin.SigHash S idx) (signed idx)
          · simp [hspin, hssig, h₁, h₂, h₃] at h
          · simp [hspin, hssig, h₁, h₂, h₃] at h
            exact ⟨spin, ssig, rfl, hssig, h₁, h₂, h₂ ▸ h₃, h.symm⟩
        · simp [hspin, hssig, h₁, h₂] at h
      · simp [hspin, hssig, h₁] at h

section Loop

variable {node : Node} {bitcoin : Bitcoin} {S : PartiallySignedTransaction} {tx : Transaction}
  {spk opk : String} {requests : List SignatureRequest} {signed : Nat → List UInt8}
  (hsigned : ∀ i, (∃ r ∈ requests, r.InputIndex = i ∧ DecodeHexOrPanic r.Signature = .ok (signed i)) ∨
    signed i = [])
include hsigned

/-- A signature that passed the signer-side check is a keeper's signature: an
index without request reads empty, and the empty string does not verify. -/
theorem signerAppended_of_ok {idx : Nat} {ssigs : List PartialSig} (hin : PInput)
    (h : signerPartialSigs bitcoin S spk signed idx = .ok ssigs) :
    SignerAppended bitcoin S spk requests idx hin (hin.PartialSigs ++ ssigs) := by
  obtain ⟨spin, ssig, hspin, hssig, hpub, hsig, hver, rfl⟩ := signerPartialSigs_ok h
  refine ⟨spin, ssig, hspin, hssig, hpub, ?_, hver, rfl⟩
  rcases hsigned idx with hreq | hnil
  · rwa [hsig]
  · rw [hsig, hnil, bitcoin.VerifySignatureDER_nil] at hver
    cases hver

/-- One iteration changes at most input `idx` of the holder PSBT, and leaves a
required input signed by two roles. -/
theorem combineInput_spec {hpsbt hpsbt' : PartiallySignedTransaction} {idx : Nat} {input : TxIn}
    (h : combineInput node bitcoin S tx spk opk signed hpsbt idx input = .ok hpsbt') :
    hpsbt'.UnsignedTx = hpsbt.UnsignedTx ∧ hpsbt'.Inputs.length = hpsbt.Inputs.length ∧
    (∀ i, i ≠ idx → hpsbt'.Inputs[i]? = hpsbt.Inputs[i]?) ∧
    (node.checkBitcoinUTXOSignatureRequired input.PreviousOutPoint = true →
      ∃ hin hin', hpsbt.Inputs[idx]? = some hin ∧ hpsbt'.Inputs[idx]? = some hin' ∧
        TwoRolesSigned bitcoin S tx spk opk requests idx input hin hin'.PartialSigs) := by
  unfold combineInput at h
  cases hreq : node.checkBitcoinUTXOSignatureRequired input.PreviousOutPoint with
  | false =>
    simp only [hreq, Bool.not_false, if_true, pure_eq_ok, Except.ok.injEq] at h
    subst h
    exact ⟨rfl, rfl, fun _ _ => rfl, fun h => by cases h⟩
  | true =>
    cases hin : hpsbt.Inputs[idx]? with
    | none => simp [hreq, hin] at h
    | some hpin =>
    cases hs : hpin.PartialSigs.head? with
    | none => simp [hreq, hin, hs] at h
    | some hsig =>
    simp only [hreq, hin, hs, Bool.not_true, Bool.false_eq_true, if_false, pure_eq_ok, ok_bind] at h
    obtain ⟨b, hb, h⟩ := bind_eq_ok.mp h
    have hlt : idx < hpsbt.Inputs.length := (List.getElem?_eq_some_iff.mp hin).1
    cases b with
    | true =>
      simp only [if_true, pure_eq_ok, Except.ok.injEq] at h
      subst h
      rcases signedByHolderObserver_ok hb with ⟨h, -⟩ | ⟨h, -⟩ | ⟨-, hseq, hh, ho⟩
      · cases h
      · cases h
      refine ⟨rfl, rfl, fun _ _ => rfl, fun _ => ⟨hpin, hpin, rfl, hin, ?_⟩⟩
      rw [TwoRolesSigned, if_neg hseq]
      exact .inr ⟨hh, ho, rfl⟩
    | false =>
      simp only [Bool.false_eq_true, if_false, pure_eq_ok, ok_bind] at h
      obtain ⟨ssigs, hss, h⟩ := bind_eq_ok.mp h
      cases h
      refine ⟨rfl, List.length_set .., fun i hi => List.getElem?_set_ne (Ne.symm hi),
        fun _ => ⟨hpin, _, rfl, List.getElem?_set_self hlt, ?_⟩⟩
      have happ := signerAppended_of_ok hsigned hpin hss
      rcases signedByHolderObserver_ok hb with ⟨-, hseq, hkey⟩ | ⟨-, hseq, hone, hkey⟩ | ⟨h, -⟩
      · rw [TwoRolesSigned, if_pos hseq]
        exact ⟨⟨hsig, hs, hkey⟩, happ⟩
      · obtain ⟨a, ha⟩ := List.length_eq_one.mp hone
        rw [ha, List.head?_cons, Option.some.injEq] at hs
        subst hs
        rw [TwoRolesSigned, if_neg hseq]
        exact .inl ⟨⟨a, ha, hkey⟩, happ⟩
      · cases h

/-- The loop from index `idx` keeps the unsigned transaction, the number of inputs
and every input before `idx`, and leaves every required input `idx + j` signed by
two roles. -/
theorem combineLoop_spec (ins : List TxIn) : ∀ {idx : Nat} {hpsbt hpsbt' : PartiallySignedTransaction},
    combineLoop node bitcoin S tx spk opk signed idx ins hpsbt = .ok hpsbt' →
    hpsbt'.UnsignedTx = hpsbt.UnsignedTx ∧ hpsbt'.Inputs.length = hpsbt.Inputs.length ∧
    (∀ i, i < idx → hpsbt'.Inputs[i]? = hpsbt.Inputs[i]?) ∧
    ∀ j (hj : j < ins.length), node.checkBitcoinUTXOSignatureRequired ins[j].PreviousOutPoint = true →
      ∃ hin hin', hpsbt.Inputs[idx + j]? = some hin ∧ hpsbt'.Inputs[idx + j]? = some hin' ∧
        TwoRolesSigned bitcoin S tx spk opk requests (idx + j) ins[j] hin hin'.PartialSigs := by
  induction ins with
  | nil =>
    intro idx hpsbt hpsbt' h
    cases h
    exact ⟨rfl, rfl, fun _ _ => rfl, fun j hj => absurd hj (Nat.not_lt_zero _)⟩
  | cons input rest ih =>
    intro idx hpsbt hpsbt' h
    obtain ⟨h₁, hstep, hrest⟩ := bind_eq_ok.mp h
    obtain ⟨hu₁, hl₁, hf₁, hr₁⟩ := combineInput_spec hsigned hstep
    obtain ⟨hu₂, hl₂, hf₂, hr₂⟩ := ih hrest
    refine ⟨hu₂.trans hu₁, hl₂.trans hl₁, fun i hi => (hf₂ i (by omega)).trans (hf₁ i (by omega)), ?_⟩
    intro j hj hreq
    cases j with
    | zero =>
      obtain ⟨hin, hin', h0, h0', hroles⟩ := hr₁ hreq
      exact ⟨hin, hin', h0, (hf₂ idx (by omega)).trans h0', hroles⟩
    | succ j =>
      have hidx : idx + (j + 1) = idx + 1 + j := by omega
      obtain ⟨hin, hin', h0, h0', hroles⟩ := hr₂ j (by simpa using hj) hreq
      rw [hf₁ _ (by omega)] at h0
      rw [hidx]
      exact ⟨hin, hin', h0, h0', hroles⟩

end Loop

/-- Whenever `keeperCombineBitcoinTransactionSignatures` reaches its writes, the
approval is below Done on Bitcoin or Litecoin, and the combined holder PSBT it
writes differs from the stored one only in the partial signatures of required
inputs, each of which carries two roles: holder and derived signer on a normal
input; on a recovery input the derived observer, with the signer or the holder.
A signer signature is the keeper's signature for its index and verifies. -/
theorem keeperCombineBitcoinTransactionSignatures_two_roles (node : Node) (common : Common)
    (bitcoin : Bitcoin) (extra : List UInt8) (w : CombineWrite)
    (h : node.keeperCombineBitcoinTransactionSignatures common bitcoin extra = .ok (some w)) :
    ∃ S tx b H safe spk opk requests,
      bitcoin.UnmarshalPartiallySignedTransaction extra = some S ∧
      node.ReadTransactionApproval (bitcoin.Hash S) = .ok (some tx) ∧
      tx.State < RequestStateDone ∧ common.IsBitcoinChain tx.Chain ∧
      DecodeHexOrPanic tx.RawTransaction = .ok b ∧ bitcoin.UnmarshalPartiallySignedTransaction b = some H ∧
      node.ReadSafe tx.Holder = .ok (some safe) ∧
      node.deriveBIP32WithKeeperPath tx.Signer safe.Path = .ok spk ∧
      node.deriveBIP32WithKeeperPath safe.Observer safe.Path = .ok opk ∧
      node.ListAllSignaturesForTransaction (bitcoin.Hash S) RequestStateDone = .ok requests ∧
      w.Address = safe.Address ∧ w.Hash = bitcoin.Hash w.Psbt ∧ w.Raw = hexEncode (bitcoin.Marshal w.Psbt) ∧
      w.Psbt.UnsignedTx = H.UnsignedTx ∧ w.Psbt.Inputs.length = H.Inputs.length ∧
      ∀ idx (hidx : idx < S.UnsignedTx.TxIn.length),
        node.checkBitcoinUTXOSignatureRequired S.UnsignedTx.TxIn[idx].PreviousOutPoint = true →
        ∃ hin win, H.Inputs[idx]? = some hin ∧ w.Psbt.Inputs[idx]? = some win ∧
          TwoRolesSigned bitcoin S tx spk opk requests idx S.UnsignedTx.TxIn[idx] hin win.PartialSigs := by
  unfold Node.keeperCombineBitcoinTransactionSignatures at h
  cases hS : bitcoin.UnmarshalPartiallySignedTransaction extra with
  | none => simp [hS] at h
  | some S =>
  simp only [hS] at h
  obtain ⟨tx?, htx, h⟩ := bind_eq_ok.mp h
  cases tx? with
  | none => simp at h
  | some tx =>
  by_cases hdone : tx.State ≥ RequestStateDone
  · simp [hdone] at h
  by_cases hchain : common.IsBitcoinChain tx.Chain
  swap
  · simp only [hdone, hchain, if_false, not_false_eq_true, if_true, pure_eq_ok, ok_bind, throw_eq_error,
      error_bind] at h
    cases h
  simp only [hdone, hchain, if_false, not_true_eq_false, pure_eq_ok, ok_bind] at h
  obtain ⟨b, hb, h⟩ := bind_eq_ok.mp h
  obtain ⟨safe?, hsafe, h⟩ := bind_eq_ok.mp h
  cases safe? with
  | none => simp at h
  | some safe =>
  obtain ⟨spk, hspk, h⟩ := bind_eq_ok.mp h
  obtain ⟨opk, hopk, h⟩ := bind_eq_ok.mp h
  obtain ⟨requests, hreqs, h⟩ := bind_eq_ok.mp h
  obtain ⟨signed, hsigned, h⟩ := bind_eq_ok.mp h
  cases hH : bitcoin.UnmarshalPartiallySignedTransaction b with
  | none => simp [hH] at h
  | some H =>
  simp only [hH] at h
  obtain ⟨hpsbt, hloop, h⟩ := bind_eq_ok.mp h
  simp only [pure_eq_ok, Except.ok.injEq, Option.some.injEq] at h
  subst h
  obtain ⟨hu, hl, -, hr⟩ := combineLoop_spec (signedSignatures_spec hsigned) S.UnsignedTx.TxIn hloop
  refine ⟨S, tx, b, H, safe, spk, opk, requests, rfl, htx, Nat.lt_of_not_le hdone, hchain, hb, hH, hsafe,
    mapError_eq_ok.mp hspk, mapError_eq_ok.mp hopk, hreqs, rfl, rfl, rfl, hu, hl, fun idx hidx hreq => ?_⟩
  simpa only [Nat.zero_add] using hr idx hidx hreq

/-- A keeper response with one normal input, signed by the key `03`. -/
def combineResponse : PartiallySignedTransaction :=
  ⟨⟨2, [⟨⟨"aa", 0⟩, 0xffffffff, []⟩], []⟩, [⟨[⟨[3], [0x30]⟩]⟩]⟩

/-- The stored holder PSBT of that transaction, signed by the holder key `02`. -/
def combineHolder : PartiallySignedTransaction :=
  ⟨⟨2, [⟨⟨"aa", 0⟩, 0xffffffff, []⟩], []⟩, [⟨[⟨[2], [0x31]⟩]⟩]⟩

/-- A library that decodes `[1]` as the response and anything else as the holder PSBT. -/
def combineBitcoin : Bitcoin :=
  { Bitcoin.fixture with
    UnmarshalPartiallySignedTransaction := fun b => some (if b = [1] then combineResponse else combineHolder) }

/-- A node holding a Bitcoin approval below Done of holder `02` and signer `03`, and
the keeper's Done signature `30` for input 0. -/
def combineNode : Node :=
  { Node.fixture with
    ReadTransactionApproval := fun _ => .ok (some ⟨"t", "02", 1, "02", "signer", "", RequestStateInitial⟩)
    ReadSafe := fun _ => .ok (some ⟨"02", "signer", "observer", "addr", []⟩)
    ListAllSignaturesForTransaction := fun _ _ => .ok [⟨0, "30"⟩]
    deriveBIP32WithKeeperPath := fun k _ => .ok (if k = "signer" then "03" else "04") }

theorem keeperCombineBitcoinTransactionSignatures_two_roles_normal :
    ∃ w, combineNode.keeperCombineBitcoinTransactionSignatures Common.fixture combineBitcoin [1] = .ok (some w) ∧
      ∃ tx : Transaction, tx.State < RequestStateDone ∧ Common.fixture.IsBitcoinChain tx.Chain :=
  have h : combineNode.keeperCombineBitcoinTransactionSignatures Common.fixture combineBitcoin [1] =
      .ok (some ⟨"addr", "", "", ⟨⟨2, [⟨⟨"aa", 0⟩, 0xffffffff, []⟩], []⟩, [⟨[⟨[2], [0x31]⟩, ⟨[3], [0x30]⟩]⟩]⟩⟩) := by
    rfl
  let ⟨_, tx, _, _, _, _, _, _, _, _, hstate, hchain, _⟩ :=
    keeperCombineBitcoinTransactionSignatures_two_roles combineNode Common.fixture combineBitcoin [1] _ h
  ⟨_, h, tx, hstate, hchain⟩

end safe.observer

import MixinSafe.Observer.StoreInvariant

open safe.bitcoin

namespace safe.observer

/-- `uint64` truncation. -/
def u64 (n : Nat) : Nat := n % 2 ^ 64

/-- `uint64` subtraction, which wraps below zero. -/
def u64sub (a b : Nat) : Nat := (a + (2 ^ 64 - b % 2 ^ 64)) % 2 ^ 64

theorem u64_of_lt {n : Nat} (h : n < 2 ^ 64) : u64 n = n := Nat.mod_eq_of_lt h

theorem u64sub_of_le {a b : Nat} (ha : a < 2 ^ 64) (hb : b ≤ a) : u64sub a b = a - b := by
  unfold u64sub
  rw [Nat.mod_eq_of_lt (by omega : b < 2 ^ 64)]
  rw [show a + (2 ^ 64 - b) = (a - b) + 2 ^ 64 by omega, Nat.add_mod_right, Nat.mod_eq_of_lt (by omega)]

/-- The nearest multiple of `d` to `a`, ties to the even one, as its quotient by `d`. -/
def rne (a d : Nat) : Nat :=
  if 2 * (a % d) < d then a / d else if d < 2 * (a % d) then a / d + 1 else a / d + a / d % 2

/-- How many low bits of `a` a float64 drops: the least `e` with `a < 2^(53+e)`, found
within `fuel` halvings. -/
def float64Shift (a : Nat) : Nat → Nat
  | 0 => 0
  | fuel + 1 => if a < 2 ^ 53 then 0 else float64Shift (a / 2) fuel + 1

/-- The float64 nearest `a`, ties to even: `a` rounded to its 53 leading bits. -/
def float64Round (a : Nat) : Nat := rne a (2 ^ float64Shift a a) * 2 ^ float64Shift a a

/-- `uint64(float64(fee)*0.9)` and `uint64(float64(fee)*1.1)`. The constants are the
float64 nearest 0.9, `8106479329266893 / 2^53`, and the one nearest 1.1,
`4953959590107546 / 2^52`. `float64(fee)` and each product are rounded to 53 bits, ties
to even, and `uint64` truncates. The only caller passes `uint64` of a positive `int64`,
below `2^63`, so both products stay below `2^64`, where Go's conversion truncates. -/
def feeRange (fee : Nat) : Nat × Nat :=
  (float64Round (float64Round fee * 8106479329266893) / 2 ^ 53,
    float64Round (float64Round fee * 4953959590107546) / 2 ^ 52)

theorem rne_bounds (a d : Nat) : a / d ≤ rne a d ∧ rne a d ≤ a / d + 1 := by
  unfold rne
  split_ifs <;> omega

theorem float64Shift_le {t : Nat} : ∀ {fuel a : Nat}, a < 2 ^ (53 + t) → float64Shift a fuel ≤ t := by
  induction t with
  | zero =>
    intro fuel a ha
    rw [Nat.add_zero] at ha
    cases fuel <;> simp [float64Shift]
    omega
  | succ t ih =>
    intro fuel a ha
    cases fuel with
    | zero => exact Nat.zero_le _
    | succ fuel =>
      unfold float64Shift
      split_ifs
      · exact Nat.zero_le _
      · have : a / 2 < 2 ^ (53 + t) := by
          rw [Nat.div_lt_iff_lt_mul (by norm_num), ← Nat.pow_succ]
          exact ha
        exact Nat.succ_le_succ (ih this)

theorem float64Round_of_lt {a : Nat} (h : a < 2 ^ 53) : float64Round a = a := by
  have hs : float64Shift a a = 0 := Nat.le_zero.mp (float64Shift_le (t := 0) h)
  simp [float64Round, hs, rne, Nat.mod_one]

/-- The rounding lies between the multiple of the last kept bit below `a` and `a` plus
that bit. -/
theorem float64Round_bounds (a : Nat) :
    a / 2 ^ float64Shift a a * 2 ^ float64Shift a a ≤ float64Round a ∧
      float64Round a ≤ a + 2 ^ float64Shift a a := by
  obtain ⟨hlo, hhi⟩ := rne_bounds a (2 ^ float64Shift a a)
  have := Nat.div_mul_le_self a (2 ^ float64Shift a a)
  refine ⟨Nat.mul_le_mul_right _ hlo, ?_⟩
  calc float64Round a ≤ (a / 2 ^ float64Shift a a + 1) * 2 ^ float64Shift a a := Nat.mul_le_mul_right _ hhi
    _ ≤ a + 2 ^ float64Shift a a := by rw [Nat.succ_mul]; omega

/-- The rounding truncated at a unit `2^k` no finer than its last kept bit is `n`,
when `a` lies at least one such bit below `(n+1)·2^k` and not below `n·2^k`. -/
theorem float64Round_div {a k n : Nat} (hs : float64Shift a a ≤ k) (hlo : n * 2 ^ k ≤ a)
    (hhi : a + 2 ^ float64Shift a a < (n + 1) * 2 ^ k) : float64Round a / 2 ^ k = n := by
  obtain ⟨hr₁, hr₂⟩ := float64Round_bounds a
  have hd : 0 < 2 ^ float64Shift a a := Nat.pos_pow_of_pos _ (by norm_num)
  obtain ⟨j, hj⟩ := Nat.pow_dvd_pow 2 hs
  have hn : n * 2 ^ k = n * j * 2 ^ float64Shift a a := by rw [hj]; ring
  have hmul : n * 2 ^ k ≤ a / 2 ^ float64Shift a a * 2 ^ float64Shift a a :=
    hn ▸ Nat.mul_le_mul_right _ ((Nat.le_div_iff_mul_le hd).mpr (hn ▸ hlo))
  exact Nat.div_eq_of_lt_le (le_trans hmul hr₁) (lt_of_le_of_lt hr₂ hhi)

/-- The range the observer queries is `[⌊0.9·fee⌋, ⌊1.1·fee⌋]` for every fee below
`2^48` satoshi: the float64 constants lie above 0.9 and 1.1 by less than the products
can round away. Below `2^49` the upper bound already exceeds `⌊1.1·fee⌋`. -/
theorem feeRange_tenths :
    (∀ fee, fee < 2 ^ 48 → feeRange fee = (fee * 9 / 10, fee * 11 / 10)) ∧
      ∃ fee, fee < 2 ^ 49 ∧ feeRange fee ≠ (fee * 9 / 10, fee * 11 / 10) := by
  refine ⟨fun fee hfee => ?_, ⟨534540193725859, by decide, by decide⟩⟩
  rw [feeRange, float64Round_of_lt (show fee < 2 ^ 53 by omega)]
  have h9 := @float64Shift_le 48 (fee * 8106479329266893) (fee * 8106479329266893) (by omega)
  have h11 := @float64Shift_le 48 (fee * 4953959590107546) (fee * 4953959590107546) (by omega)
  have hp9 := Nat.pow_le_pow_right (by norm_num : 2 > 0) h9
  have hp11 := Nat.pow_le_pow_right (by norm_num : 2 > 0) h11
  rw [float64Round_div (k := 53) (n := fee * 9 / 10) (by omega) (by omega) (by omega),
    float64Round_div (k := 52) (n := fee * 11 / 10) (by omega) (by omega) (by omega)]

/-- The fee of the retry example, 1000 satoshi: the range `[900, 1100]`. -/
theorem feeRange_tenths_fee_1000 : 1000 < 2 ^ 48 ∧ feeRange 1000 = (900, 1100) :=
  ⟨by decide, feeRange_tenths.1 1000 (by decide)⟩

/-- The greedy loop of `bitcoinRetrieveFeeInputsForTransaction`: add the next
output as an input; once the running `uint64` total covers the estimated virtual
size times the fee rate plus the fee, add the fee output, and the change output
when the change is above dust, and stop. -/
def splitterLoop (bitcoin : Bitcoin) (fee fvb dust : Nat) (script : List UInt8) :
    Nat → List TxIn → List Output → Except String (List TxIn × List TxOut)
  | _, ins, [] => .ok (ins, [])
  | total, ins, utxo :: rest => do
    let total := u64 (total + utxo.Satoshi)
    let hash ← bitcoin.NewHashFromStr utxo.TransactionHash
    let ins := ins ++ [⟨⟨hash, utxo.Index⟩, bitcoin.MaxTransactionSequence, []⟩]
    let estvb := (40 + ins.length * 300 + 2 * 128) / 4
    if total < u64 (u64 (estvb * fvb) + fee) then
      splitterLoop bitcoin fee fvb dust script total ins rest
    else
      let change := u64sub (u64sub total (u64 (estvb * fvb))) fee
      .ok (ins, ⟨fee, script⟩ :: if change > dust then [⟨change, script⟩] else [])

/-- The signing loop of `bitcoinRetrieveFeeInputsForTransaction` over the input
indices `idxs`: input `idx` is signed with the accountant key of `utxos[idx]`. -/
def signAccountantInputs (node : Node) (bitcoin : Bitcoin) (utxos : List Output) :
    MsgTx → List Nat → Except String MsgTx
  | msgTx, [] => .ok msgTx
  | msgTx, idx :: rest => do
    let some input := utxos[idx]? | throw s!"panic: index out of range [{idx}]"
    let accountant ← node.ReadAccountantPrivateKey input.Address
    let b ← DecodeHexOrPanic accountant
    let publicKey := bitcoin.PubKeyFromPrivate b
    let hash ← bitcoin.WitnessSigHash publicKey msgTx idx input.Satoshi
    let sig := bitcoin.Sign b hash ++ [SigHashAll]
    signAccountantInputs node bitcoin utxos
      { msgTx with TxIn := msgTx.TxIn.modify (fun i => { i with Witness := i.Witness ++ [sig, publicKey] }) idx }
      rest

/-- `bitcoinRetrieveFeeInputsForTransaction`, at clock `now`, on the table `s`: an
accountant output whose value lies in `feeRange fee` is assigned to the transaction,
and when there is none a fee splitter is built from the oldest `Initial` accountant
outputs, its first output paying the fee. When the splitter is written the Go code
returns the new output together with the write's error; its only caller discards the
output on error, as the model does. -/
def Node.bitcoinRetrieveFeeInputsForTransaction (node : Node) (bitcoin : Bitcoin) (s : SQLite3Store)
    (now fee fvb : Nat) (tx : Transaction) : Except String (Option Output × SQLite3Store) := do
  let (old, s) ← s.AssignBitcoinUTXOByRangeForTransaction now (feeRange fee).1 (feeRange fee).2 tx
  if old.isSome then return (old, s)
  let utxos := s.ReadBitcoinUTXOs tx.Chain
  let some utxo0 := utxos.head? | return (none, s)
  let receiver := utxo0.Address
  let script ← bitcoin.ParseAddress receiver tx.Chain
  let (ins, outs) ← splitterLoop bitcoin fee fvb (bitcoin.ValueDust tx.Chain) script 0 [] utxos
  if outs = [] then return (none, s)
  let msgTx ← signAccountantInputs node bitcoin utxos ⟨2, ins, outs⟩ (List.range ins.length)
  let raw ← bitcoin.MarshalWiredTransaction msgTx tx.Chain
  let hash := bitcoin.TxHash msgTx
  let some out0 := msgTx.TxOut.head? | throw "panic: index out of range [0]"
  let s' ← s.WriteBitcoinFeeOutput bitcoin now msgTx receiver tx
  return (some ⟨hash, 0, "", out0.Value, 0, 0, none, some (hexEncode raw), 0, 0⟩, s')

/-- Two unspent accountant outputs on chain 1: 1150 satoshi, then 1000 satoshi. -/
def retryStore : SQLite3Store :=
  ⟨[⟨"bb", 0, "acct", 1150, 1, RequestStateInitial, none, none, 1, 1⟩,
    ⟨"aa", 0, "acct", 1000, 1, RequestStateInitial, none, none, 2, 2⟩], by decide⟩

/-- A transaction approval on chain 1. -/
def retryTx : Transaction := ⟨"t", "", 1, "", "", "", RequestStateInitial⟩

/-- A retry with a new fee estimate takes a second output for the same transaction:
the range query has no order, so the older output, now in range, comes before the
one already spent by the transaction. -/
theorem bitcoinRetrieveFeeInputsForTransaction_retry_spends_two :
    ∃ a b s₁ s₂,
      Node.fixture.bitcoinRetrieveFeeInputsForTransaction Bitcoin.fixture retryStore 10 1000 5 retryTx =
        .ok (some a, s₁) ∧
      Node.fixture.bitcoinRetrieveFeeInputsForTransaction Bitcoin.fixture s₁ 20 1200 6 retryTx =
        .ok (some b, s₂) ∧
      a.key ≠ b.key ∧ (s₂.outputs.filter fun o => o.SpentBy = some retryTx.TransactionHash).length = 2 :=
  ⟨_, _, _, _, rfl, rfl, by decide, by decide⟩

/-- The total satoshi of the first `j` outputs of `U`. -/
def prefixTotal (U : List Output) (j : Nat) : Nat := ((U.take j).map (·.Satoshi)).sum

/-- The first `j` outputs of `U` pay the fee and the fee rate `fvb` times the
loop's size estimate for `j` inputs, `(40 + 300·j + 2·128) / 4 = 74 + 75·j`. -/
def Covers (U : List Output) (fee fvb j : Nat) : Prop := (74 + 75 * j) * fvb + fee ≤ prefixTotal U j

instance (U : List Output) (fee fvb j : Nat) : Decidable (Covers U fee fvb j) :=
  inferInstanceAs (Decidable (_ ≤ _))

/-- `j` is the length of the shortest non-empty prefix of `U` that covers. -/
def ShortestCover (U : List Output) (fee fvb j : Nat) : Prop :=
  1 ≤ j ∧ j ≤ U.length ∧ Covers U fee fvb j ∧ ∀ j', 1 ≤ j' → j' < j → ¬ Covers U fee fvb j'

/-- What the first `j` outputs leave over the fee and the size estimate. -/
def splitterChange (U : List Output) (fee fvb j : Nat) : Nat := prefixTotal U j - (74 + 75 * j) * fvb - fee

/-- `i` spends the outpoint of `u`, with the maximal sequence. -/
def SpendsOutput (bitcoin : Bitcoin) (u : Output) (i : TxIn) : Prop :=
  bitcoin.NewHashFromStr u.TransactionHash = .ok i.PreviousOutPoint.Hash ∧
    i.PreviousOutPoint.Index = u.Index ∧ i.Sequence = bitcoin.MaxTransactionSequence

/-- `i`'s witness is a signature with the accountant key of `u`, then that key's public key. -/
def AccountantSigned (node : Node) (bitcoin : Bitcoin) (u : Output) (i : TxIn) : Prop :=
  ∃ key b h, node.ReadAccountantPrivateKey u.Address = .ok key ∧ DecodeHexOrPanic key = .ok b ∧
    i.Witness = [bitcoin.Sign b h ++ [SigHashAll], bitcoin.PubKeyFromPrivate b]

theorem prefixTotal_succ (U : List Output) {k : Nat} (hk : k < U.length) :
    prefixTotal U (k + 1) = prefixTotal U k + U[k].Satoshi := by
  rw [prefixTotal, prefixTotal, List.take_succ, List.getElem?_eq_getElem hk, Option.toList_some,
    List.map_append, List.sum_append]
  simp

theorem prefixTotal_le (U : List Output) (j : Nat) : prefixTotal U j ≤ (U.map (·.Satoshi)).sum := by
  rw [prefixTotal, List.map_take]
  exact (List.take_sublist _ _).sum_le_sum fun _ _ => Nat.zero_le _

section Loop

variable {bitcoin : Bitcoin} {fee fvb dust : Nat} {script : List UInt8} {U : List Output}

/-- The input the loop adds for `u`, before any signature. -/
private def Fresh (bitcoin : Bitcoin) (u : Output) (i : TxIn) : Prop := SpendsOutput bitcoin u i ∧ i.Witness = []

/-- With `uint64` sums exact, the loop started after the first `k` outputs, none
of whose non-empty prefixes covered, either finds no covering prefix, or stops
at the shortest one with the fee output and, above dust, the change output. -/
theorem splitterLoop_spec (hsum : (U.map (·.Satoshi)).sum < 2 ^ 64)
    (hprod : (74 + 75 * U.length) * fvb + fee < 2 ^ 64) (rest : List Output) :
    ∀ k ins, U.drop k = rest → List.Forall₂ (Fresh bitcoin) (U.take k) ins →
      (∀ j, 1 ≤ j → j ≤ k → ¬ Covers U fee fvb j) →
      ∀ res, splitterLoop bitcoin fee fvb dust script (prefixTotal U k) ins rest = .ok res →
        (res.2 = [] ∧ ∀ j, 1 ≤ j → j ≤ U.length → ¬ Covers U fee fvb j) ∨
        (∃ j, ShortestCover U fee fvb j ∧ List.Forall₂ (Fresh bitcoin) (U.take j) res.1 ∧
          res.2 = ⟨fee, script⟩ :: if splitterChange U fee fvb j > dust
            then [⟨splitterChange U fee fvb j, script⟩] else []) := by
  induction rest with
  | nil =>
    intro k ins hdrop _ hnone res h
    cases h
    have hk : U.length ≤ k := List.drop_eq_nil_iff.mp hdrop
    exact .inl ⟨rfl, fun j h1 h2 => hnone j h1 (by omega)⟩
  | cons u rest ih =>
    intro k ins hdrop hins hnone res h
    have hk : k < U.length := by
      by_contra hle
      rw [List.drop_eq_nil_of_le (by omega)] at hdrop
      cases hdrop
    have hcons := List.drop_eq_getElem_cons hk
    rw [hdrop, List.cons.injEq] at hcons
    obtain ⟨hu, hrest⟩ := hcons
    subst hu
    have htotal : u64 (prefixTotal U k + U[k].Satoshi) = prefixTotal U (k + 1) := by
      rw [← prefixTotal_succ U hk]
      exact u64_of_lt (lt_of_le_of_lt (prefixTotal_le U _) hsum)
    have hlen : ins.length = k := by rw [← hins.length_eq, List.length_take]; omega
    have hbound : (74 + 75 * (k + 1)) * fvb + fee < 2 ^ 64 :=
      lt_of_le_of_lt (Nat.add_le_add_right (Nat.mul_le_mul_right _ (by omega)) _) hprod
    simp only [splitterLoop, bind, Except.bind] at h
    split at h
    · cases h
    · rename_i hash hhash
      have hins' : List.Forall₂ (Fresh bitcoin) (U.take (k + 1))
          (ins ++ [⟨⟨hash, U[k].Index⟩, bitcoin.MaxTransactionSequence, []⟩]) := by
        rw [List.take_succ, List.getElem?_eq_getElem hk, Option.toList_some]
        exact List.rel_append hins (List.Forall₂.cons ⟨⟨hhash, rfl, rfl⟩, rfl⟩ List.Forall₂.nil)
      have hest : (40 + (ins ++ [(⟨⟨hash, U[k].Index⟩, bitcoin.MaxTransactionSequence, []⟩ : TxIn)]).length * 300 +
          2 * 128) / 4 = 74 + 75 * (k + 1) := by
        simp only [List.length_append, List.length_singleton, hlen]
        omega
      have hmul : u64 ((74 + 75 * (k + 1)) * fvb) = (74 + 75 * (k + 1)) * fvb := u64_of_lt (by omega)
      have hneed : u64 (u64 ((74 + 75 * (k + 1)) * fvb) + fee) = (74 + 75 * (k + 1)) * fvb + fee := by
        rw [hmul, u64_of_lt hbound]
      rw [htotal, hest, hneed] at h
      split at h
      · rename_i hlt
        exact ih (k + 1) _ hrest.symm hins' (fun j h1 h2 => by
          rcases Nat.lt_or_ge j (k + 1) with hj | hj
          · exact hnone j h1 (by omega)
          · have : j = k + 1 := by omega
            subst this
            exact not_le.mpr hlt) res h
      · rename_i hge
        cases h
        have hcov : Covers U fee fvb (k + 1) := not_lt.mp hge
        have htot : prefixTotal U (k + 1) < 2 ^ 64 := lt_of_le_of_lt (prefixTotal_le U _) hsum
        refine .inr ⟨k + 1, ⟨by omega, hk, hcov, fun j h1 h2 => hnone j h1 (by omega)⟩, hins', ?_⟩
        unfold Covers at hcov
        rw [hmul, u64sub_of_le htot (by omega), u64sub_of_le (by omega) (by omega)]
        rfl

/-- The loop as `bitcoinRetrieveFeeInputsForTransaction` starts it: no input yet
and a zero total. -/
theorem splitterLoop_start (hsum : (U.map (·.Satoshi)).sum < 2 ^ 64)
    (hprod : (74 + 75 * U.length) * fvb + fee < 2 ^ 64) (res : List TxIn × List TxOut)
    (h : splitterLoop bitcoin fee fvb dust script 0 [] U = .ok res) :
    (res.2 = [] ∧ ∀ j, 1 ≤ j → j ≤ U.length → ¬ Covers U fee fvb j) ∨
    (∃ j, ShortestCover U fee fvb j ∧ List.Forall₂ (Fresh bitcoin) (U.take j) res.1 ∧
      res.2 = ⟨fee, script⟩ :: if splitterChange U fee fvb j > dust
        then [⟨splitterChange U fee fvb j, script⟩] else []) :=
  splitterLoop_spec hsum hprod U 0 [] (by simp) (by simp) (fun j h1 h2 => absurd h2 (by omega)) res
    (by simpa [prefixTotal] using h)

end Loop

section Sign

variable {node : Node} {bitcoin : Bitcoin} {utxos : List Output}

/-- The signing loop over the indices `k, …, k+n-1` keeps the outputs and every
outpoint and sequence; it appends to the witness of each of those inputs a
signature with the accountant key of the output at the same index of `utxos`,
and leaves every other witness alone. -/
theorem signAccountantInputs_spec (n : Nat) :
    ∀ k (m m' : MsgTx), signAccountantInputs node bitcoin utxos m (List.range' k n) = .ok m' →
      m'.TxOut = m.TxOut ∧ m'.TxIn.length = m.TxIn.length ∧
      ∀ i (hi : i < m.TxIn.length) (hi' : i < m'.TxIn.length),
        m'.TxIn[i].PreviousOutPoint = m.TxIn[i].PreviousOutPoint ∧ m'.TxIn[i].Sequence = m.TxIn[i].Sequence ∧
        (k ≤ i → i < k + n → ∃ u key b h, utxos[i]? = some u ∧ node.ReadAccountantPrivateKey u.Address = .ok key ∧
          DecodeHexOrPanic key = .ok b ∧
          m'.TxIn[i].Witness = m.TxIn[i].Witness ++ [bitcoin.Sign b h ++ [SigHashAll], bitcoin.PubKeyFromPrivate b]) ∧
        (i < k ∨ k + n ≤ i → m'.TxIn[i].Witness = m.TxIn[i].Witness) := by
  induction n with
  | zero =>
    intro k m m' h
    cases h
    exact ⟨rfl, rfl, fun i _ _ => ⟨rfl, rfl, fun h1 h2 => absurd h2 (by omega), fun _ => rfl⟩⟩
  | succ n ih =>
    intro k m m' h
    rw [List.range'_succ] at h
    cases hu : utxos[k]? with
    | none => simp [signAccountantInputs, hu, throw, throwThe, MonadExceptOf.throw] at h
    | some u =>
      cases hkey : node.ReadAccountantPrivateKey u.Address with
      | error e => simp [signAccountantInputs, hu, hkey, bind, Except.bind] at h
      | ok key =>
        cases hb : DecodeHexOrPanic key with
        | error e => simp [signAccountantInputs, hu, hkey, hb, bind, Except.bind] at h
        | ok b =>
          cases hh : bitcoin.WitnessSigHash (bitcoin.PubKeyFromPrivate b) m k u.Satoshi with
          | error e => simp [signAccountantInputs, hu, hkey, hb, hh, bind, Except.bind] at h
          | ok hash =>
            simp only [signAccountantInputs, hu, hkey, hb, hh, bind, Except.bind] at h
            obtain ⟨hout, hlen, hin⟩ := ih (k + 1) _ m' h
            refine ⟨hout, by simpa using hlen, fun i hi hi' => ?_⟩
            have hi₁ : i < (m.TxIn.modify (fun i => { i with Witness := i.Witness ++
                [bitcoin.Sign b hash ++ [SigHashAll], bitcoin.PubKeyFromPrivate b] }) k).length := by
              simpa using hi
            obtain ⟨hpo, hseq, hinside, houtside⟩ := hin i hi₁ hi'
            simp only [List.getElem_modify] at hpo hseq hinside houtside
            by_cases hik : k = i
            · subst hik
              simp only [if_true] at hpo hseq houtside
              exact ⟨hpo, hseq, fun _ _ => ⟨u, key, b, hash, hu, hkey, hb, houtside (.inl (by omega))⟩,
                fun h => absurd h (by omega)⟩
            · simp only [hik, if_false] at hpo hseq hinside houtside
              refine ⟨hpo, hseq, fun h1 h2 => hinside (by omega) (by omega), fun h => houtside ?_⟩
              omega

end Sign

/-- The inputs the loop adds, once signed, spend the prefix's outputs in order,
each signed with the accountant key of the output it spends. -/
private theorem signed_inputs {node : Node} {bitcoin : Bitcoin} {U : List Output} {j : Nat}
    {ins : List TxIn} {outs : List TxOut} {msgTx : MsgTx}
    (hfresh : List.Forall₂ (Fresh bitcoin) (U.take j) ins)
    (hsign : signAccountantInputs node bitcoin U ⟨2, ins, outs⟩ (List.range ins.length) = .ok msgTx) :
    msgTx.TxOut = outs ∧
      List.Forall₂ (fun u i => SpendsOutput bitcoin u i ∧ AccountantSigned node bitcoin u i) (U.take j) msgTx.TxIn := by
  rw [List.range_eq_range'] at hsign
  obtain ⟨hout, hlen, hat⟩ := signAccountantInputs_spec ins.length 0 _ msgTx hsign
  refine ⟨hout, ?_⟩
  rw [List.forall₂_iff_get] at hfresh ⊢
  obtain ⟨hlen₁, hget⟩ := hfresh
  refine ⟨hlen₁.trans hlen.symm, fun i h₁ h₂ => ?_⟩
  have hi : i < ins.length := by rw [← hlen₁]; exact h₁
  obtain ⟨⟨hhash, hindex, hseq⟩, hwit⟩ := hget i h₁ hi
  obtain ⟨hpo, hseq', hins, -⟩ := hat i hi h₂
  obtain ⟨u, key, b, h, hu, hkey, hb, hw⟩ := hins (Nat.zero_le _) (by simpa using hi)
  have hj : i < U.length := lt_of_lt_of_le h₁ (List.length_take_le' _ _)
  have huj : u = (U.take j).get ⟨i, h₁⟩ := by
    rw [List.getElem?_eq_getElem hj, Option.some.injEq] at hu
    simp [← hu]
  subst huj
  simp only [List.get_eq_getElem] at hhash hindex hseq hwit hpo hseq' hw ⊢
  refine ⟨⟨?_, ?_, ?_⟩, key, b, h, hkey, hb, ?_⟩
  · rw [hpo]; exact hhash
  · rw [hpo]; exact hindex
  · rw [hseq']; exact hseq
  · rw [hw, hwit]; rfl

/-- Three unspent accountant outputs on chain 1, none in the range of a 1000-satoshi fee:
400, 500 and 3000 satoshi, oldest first. -/
def splitterStore : SQLite3Store :=
  ⟨[⟨"aa", 0, "acct", 400, 1, RequestStateInitial, none, none, 1, 1⟩,
    ⟨"bb", 0, "acct", 500, 1, RequestStateInitial, none, none, 2, 2⟩,
    ⟨"cc", 0, "acct", 3000, 1, RequestStateInitial, none, none, 3, 3⟩], by decide⟩

end safe.observer

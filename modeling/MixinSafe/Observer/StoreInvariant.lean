import MixinSafe.Observer.Store

open safe.bitcoin

namespace safe.observer

/-- How the row at one key may change between two states of the table: it did
not exist, it is unchanged, or an `Initial` row with no spender became `Done`
with a spender in one update that changed nothing else but `updated_at`. -/
def RowEvolves (r r' : Option Output) : Prop :=
  r = none ∨ r' = r ∨
    ∃ o t now, r = some o ∧ o.State = RequestStateInitial ∧ o.SpentBy = none ∧ r' = some (o.spend t now)

namespace RowEvolves

theorem refl (r : Option Output) : RowEvolves r r := .inr (.inl rfl)

theorem trans {r r' r'' : Option Output} (h₁ : RowEvolves r r') (h₂ : RowEvolves r' r'') :
    RowEvolves r r'' := by
  rcases h₁ with h | rfl | ⟨o, t, now, rfl, hi, hn, rfl⟩
  · exact .inl h
  · exact h₂
  · rcases h₂ with h | rfl | ⟨o', t', now', h, hi', -, -⟩
    · cases h
    · exact .inr (.inr ⟨o, t, now, rfl, hi, hn, rfl⟩)
    · cases h
      simp [Output.spend, RequestStateDone, RequestStateInitial] at hi'

/-- A row changes state only from `Initial` to `Done`. -/
theorem state_change {o o' : Output} (h : RowEvolves (some o) (some o')) (hne : o'.State ≠ o.State) :
    o.State = RequestStateInitial ∧ o'.State = RequestStateDone := by
  rcases h with h | h | ⟨_, _, _, h, hi, -, h'⟩
  · cases h
  · cases h; exact absurd rfl hne
  · cases h; cases h'; exact ⟨hi, rfl⟩

/-- A `Done` row never changes again. -/
theorem done_frozen {o : Output} {r' : Option Output} (h : RowEvolves (some o) r')
    (hdone : o.State = RequestStateDone) : r' = some o := by
  rcases h with h | h | ⟨_, _, _, h, hi, -, -⟩
  · cases h
  · exact h
  · cases h
    simp [hdone, RequestStateDone, RequestStateInitial] at hi

/-- A spender, once set, is never overwritten. -/
theorem spentBy_kept {o : Output} {r' : Option Output} {t : String} (h : RowEvolves (some o) r')
    (hspent : o.SpentBy = some t) : r' = some o := by
  rcases h with h | h | ⟨_, _, _, h, -, hn, -⟩
  · cases h
  · exact h
  · cases h
    simp [hspent] at hn

end RowEvolves

namespace SQLite3Store

/-- Every row of `s` evolves into the row of `s'` at the same key. -/
def Evolves (s s' : SQLite3Store) : Prop := ∀ k, RowEvolves (s.find k) (s'.find k)

/-- Every `Done` row has a spender. -/
def DoneSpent (s : SQLite3Store) : Prop := ∀ o ∈ s.outputs, o.State = RequestStateDone → o.SpentBy.isSome

theorem Evolves.refl (s : SQLite3Store) : Evolves s s := fun _ => RowEvolves.refl _

theorem Evolves.trans {s s' s'' : SQLite3Store} (h₁ : Evolves s s') (h₂ : Evolves s' s'') : Evolves s s'' :=
  fun k => (h₁ k).trans (h₂ k)

theorem evolves_of_insert {s s' : SQLite3Store} {o : Output} (h : s.insert o = .ok s') : Evolves s s' := by
  intro k
  have hfresh : s.find o.key = none := find_eq_none_iff.mpr (insert_ok_iff.mp ⟨s', h⟩)
  rw [find_of_insert h]
  by_cases hk : o.key = k
  · subst hk
    exact .inl hfresh
  · simpa [hk] using RowEvolves.refl (s.find k)

theorem evolves_of_spend {s s' : SQLite3Store} {k : String × Nat} {t : String} {now : Nat}
    (h : s.spend k t now = .ok s') : Evolves s s' := by
  obtain ⟨o, hf, hi, hn, hf', hother⟩ := spend_spec h
  intro k'
  by_cases hk : k' = k
  · subst hk
    exact .inr (.inr ⟨o, t, now, hf, hi, hn, hf'⟩)
  · rw [hother k' hk]
    exact RowEvolves.refl _

theorem doneSpent_of_insert {s s' : SQLite3Store} {o : Output} (h : s.insert o = .ok s')
    (hs : s.DoneSpent) (ho : o.State = RequestStateDone → o.SpentBy.isSome) : s'.DoneSpent := by
  intro x hx
  rw [insert_outputs h, List.mem_append, List.mem_singleton] at hx
  rcases hx with hx | rfl
  · exact hs x hx
  · exact ho

theorem doneSpent_of_spend {s s' : SQLite3Store} {k : String × Nat} {t : String} {now : Nat}
    (h : s.spend k t now = .ok s') (hs : s.DoneSpent) : s'.DoneSpent := by
  intro x hx
  rw [spend_outputs h, List.mem_map] at hx
  obtain ⟨y, hy, rfl⟩ := hx
  by_cases hsp : y.Spendable k
  · simp [hsp, Output.spend]
  · simpa [hsp] using hs y hy

theorem spendInputs_evolves {s s' : SQLite3Store} {hash : String} {now : Nat} {ins : List TxIn}
    (h : s.spendInputs hash now ins = .ok s') : Evolves s s' ∧ (s.DoneSpent → s'.DoneSpent) := by
  induction ins generalizing s with
  | nil => cases h; exact ⟨Evolves.refl _, id⟩
  | cons i rest ih =>
    simp only [spendInputs, bind, Except.bind] at h
    split at h
    · cases h
    · rename_i s₁ h₁
      obtain ⟨hev, hds⟩ := ih h
      exact ⟨(evolves_of_spend h₁).trans hev, fun hs => hds (doneSpent_of_spend h₁ hs)⟩

theorem insertFeeOutputs_evolves {s s' : SQLite3Store} {hash raw receiver : String} {tx : Transaction}
    {now i : Nat} {outs : List TxOut} (h : s.insertFeeOutputs hash raw receiver tx now i outs = .ok s') :
    Evolves s s' ∧ (s.DoneSpent → s'.DoneSpent) := by
  induction outs generalizing s i with
  | nil => cases h; exact ⟨Evolves.refl _, id⟩
  | cons out rest ih =>
    simp only [insertFeeOutputs, bind, Except.bind] at h
    split at h
    · cases h
    · rename_i s₁ h₁
      obtain ⟨hev, hds⟩ := ih h
      refine ⟨(evolves_of_insert h₁).trans hev, fun hs => hds (doneSpent_of_insert h₁ hs ?_)⟩
      by_cases hi : i = 0 <;> simp [feeOutputRow, hi, RequestStateDone, RequestStateInitial]

theorem WriteBitcoinFeeOutput_evolves {bitcoin : Bitcoin} {s s' : SQLite3Store} {now : Nat} {msgTx : MsgTx}
    {receiver : String} {tx : Transaction} (h : s.WriteBitcoinFeeOutput bitcoin now msgTx receiver tx = .ok s') :
    Evolves s s' ∧ (s.DoneSpent → s'.DoneSpent) := by
  simp only [WriteBitcoinFeeOutput, bind, Except.bind] at h
  split at h
  · cases h
  · split at h
    · cases h
    · rename_i s₁ h₁
      obtain ⟨hev₁, hds₁⟩ := spendInputs_evolves h₁
      obtain ⟨hev₂, hds₂⟩ := insertFeeOutputs_evolves h
      exact ⟨hev₁.trans hev₂, hds₂ ∘ hds₁⟩

/-- Whichever row the `SELECT` returns, the rest of the assignment only spends it. -/
theorem assignSelected_evolves {s s' : SQLite3Store} {now : Nat} {tx : Transaction} {o : Output}
    {r : Option Output} (h : s.assignSelected now tx o = .ok (r, s')) :
    Evolves s s' ∧ (s.DoneSpent → s'.DoneSpent) := by
  unfold assignSelected at h
  split at h
  · cases h; exact ⟨Evolves.refl _, id⟩
  · simp only [bind, Except.bind] at h
    split at h
    · cases h
    · rename_i s₁ h₁
      cases h
      exact ⟨evolves_of_spend h₁, doneSpent_of_spend h₁⟩

theorem Assign_evolves {s s' : SQLite3Store} {now min max : Nat} {tx : Transaction} {r : Option Output}
    (h : s.AssignBitcoinUTXOByRangeForTransaction now min max tx = .ok (r, s')) :
    Evolves s s' ∧ (s.DoneSpent → s'.DoneSpent) := by
  unfold AssignBitcoinUTXOByRangeForTransaction at h
  split at h
  · cases h; exact ⟨Evolves.refl _, id⟩
  · exact assignSelected_evolves h

theorem WriteBitcoinUTXOIfNotExists_evolves {s s' : SQLite3Store} {utxo : Output}
    (h : s.WriteBitcoinUTXOIfNotExists utxo = .ok s') : Evolves s s' ∧ (s.DoneSpent → s'.DoneSpent) := by
  unfold WriteBitcoinUTXOIfNotExists at h
  split at h
  · cases h
  · rename_i hinit
    split at h
    · cases h; exact ⟨Evolves.refl _, id⟩
    · refine ⟨evolves_of_insert h, fun hs => doneSpent_of_insert h hs fun hd => ?_⟩
      simp [not_not.mp hinit, RequestStateDone, RequestStateInitial] at hd

/-- A `Done` row is not spendable. -/
private theorem not_spendableAt_of_find {s : SQLite3Store} {k : String × Nat} {o : Output}
    (hf : s.find k = some o) (hdone : o.State = RequestStateDone) : ¬ s.SpendableAt k := by
  rintro ⟨o', hf', hi, -⟩
  rw [hf] at hf'
  cases hf'
  simp [hdone, RequestStateDone, RequestStateInitial] at hi

theorem spendInputs_spec {s s' : SQLite3Store} {hash : String} {now : Nat} {ins : List TxIn}
    (h : s.spendInputs hash now ins = .ok s') :
    ∀ i ∈ ins, ∃ o, s.find i.PreviousOutPoint.key = some o ∧ o.State = RequestStateInitial ∧
      o.SpentBy = none ∧ s'.find i.PreviousOutPoint.key = some (o.spend hash now) := by
  induction ins generalizing s with
  | nil => intro i hi; cases hi
  | cons a rest ih =>
    simp only [spendInputs, bind, Except.bind] at h
    split at h
    · cases h
    · rename_i s₁ h₁
      obtain ⟨o, hf, hi, hn, hf₁, hother⟩ := spend_spec h₁
      intro i hmem
      rcases List.mem_cons.mp hmem with rfl | hrest
      · have hev := (spendInputs_evolves h).1 i.PreviousOutPoint.key
        rw [hf₁] at hev
        exact ⟨o, hf, hi, hn, hev.done_frozen rfl⟩
      · obtain ⟨o', hf', hi', hn', hs'⟩ := ih h i hrest
        have hne : i.PreviousOutPoint.key ≠ a.PreviousOutPoint.key := by
          intro heq
          rw [heq, hf₁] at hf'
          cases hf'
          simp [Output.spend, RequestStateDone, RequestStateInitial] at hi'
        exact ⟨o', by rw [← hother _ hne, hf'], hi', hn', hs'⟩

theorem spendInputs_error {s : SQLite3Store} {hash : String} {now : Nat} {ins : List TxIn}
    (h : ∃ i ∈ ins, ¬ s.SpendableAt i.PreviousOutPoint.key) : ∃ e, s.spendInputs hash now ins = .error e := by
  induction ins generalizing s with
  | nil => obtain ⟨i, hi, -⟩ := h; cases hi
  | cons a rest ih =>
    cases hsp : s.spend a.PreviousOutPoint.key hash now with
    | error e => exact ⟨e, by simp [spendInputs, hsp, bind, Except.bind]⟩
    | ok s₁ =>
      obtain ⟨i, hmem, hbad⟩ := h
      obtain ⟨o, hf, -, -, hf₁, hother⟩ := spend_spec hsp
      have hbad₁ : ¬ s₁.SpendableAt i.PreviousOutPoint.key := by
        by_cases hk : i.PreviousOutPoint.key = a.PreviousOutPoint.key
        · rw [hk]
          exact not_spendableAt_of_find hf₁ rfl
        · rw [SpendableAt, hother _ hk]
          exact hbad
      have hrest : i ∈ rest := by
        rcases List.mem_cons.mp hmem with rfl | hrest
        · exact absurd (spend_ok_iff.mp ⟨s₁, hsp⟩) hbad
        · exact hrest
      obtain ⟨e, he⟩ := ih ⟨i, hrest, hbad₁⟩
      exact ⟨e, by simp [spendInputs, hsp, bind, Except.bind, he]⟩

/-- Every input of a recorded fee splitter is a row that the same commit moves
from `Initial` with no spender to `Done`, spent by the splitter. -/
theorem WriteBitcoinFeeOutput_spends_inputs {bitcoin : Bitcoin} {s s' : SQLite3Store} {now : Nat}
    {msgTx : MsgTx} {receiver : String} {tx : Transaction}
    (h : s.WriteBitcoinFeeOutput bitcoin now msgTx receiver tx = .ok s') :
    ∀ i ∈ msgTx.TxIn, ∃ o, s.find i.PreviousOutPoint.key = some o ∧ o.State = RequestStateInitial ∧
      o.SpentBy = none ∧ s'.find i.PreviousOutPoint.key = some (o.spend (bitcoin.TxHash msgTx) now) := by
  simp only [WriteBitcoinFeeOutput, bind, Except.bind] at h
  split at h
  · cases h
  · split at h
    · cases h
    · rename_i s₁ h₁
      intro i hi
      obtain ⟨o, hf, hin, hn, hf₁⟩ := spendInputs_spec h₁ i hi
      have hfrozen := ((insertFeeOutputs_evolves h).1 i.PreviousOutPoint.key)
      rw [hf₁] at hfrozen
      exact ⟨o, hf, hin, hn, hfrozen.done_frozen rfl⟩

/-- A splitter with an input that is not an `Initial` row with no spender writes nothing. -/
theorem WriteBitcoinFeeOutput_error {bitcoin : Bitcoin} {s : SQLite3Store} {now : Nat}
    {msgTx : MsgTx} {receiver : String} {tx : Transaction}
    (h : ∃ i ∈ msgTx.TxIn, ¬ s.SpendableAt i.PreviousOutPoint.key) :
    ∃ e, s.WriteBitcoinFeeOutput bitcoin now msgTx receiver tx = .error e := by
  cases hm : bitcoin.MarshalWiredTransaction msgTx tx.Chain with
  | error e => exact ⟨e, by simp [WriteBitcoinFeeOutput, hm, bind, Except.bind]⟩
  | ok raw =>
    obtain ⟨e, he⟩ := @spendInputs_error s (bitcoin.TxHash msgTx) now _ h
    exact ⟨e, by simp [WriteBitcoinFeeOutput, hm, he, bind, Except.bind]⟩

end SQLite3Store

/-- One call of the observer's store on `bitcoin_outputs`. -/
inductive StoreCall where
  | WriteBitcoinUTXOIfNotExists (utxo : Output)
  | AssignBitcoinUTXOByRangeForTransaction (now min max : Nat) (tx : Transaction)
  | WriteBitcoinFeeOutput (now : Nat) (msgTx : MsgTx) (receiver : String) (tx : Transaction)

open SQLite3Store in
/-- The table after a call: what the call commits, or the table as it was when
the call fails and rolls back. -/
def StoreCall.apply (bitcoin : Bitcoin) (s : SQLite3Store) : StoreCall → SQLite3Store
  | .WriteBitcoinUTXOIfNotExists utxo =>
    match s.WriteBitcoinUTXOIfNotExists utxo with
    | .ok s' => s'
    | .error _ => s
  | .AssignBitcoinUTXOByRangeForTransaction now min max tx =>
    match s.AssignBitcoinUTXOByRangeForTransaction now min max tx with
    | .ok (_, s') => s'
    | .error _ => s
  | .WriteBitcoinFeeOutput now msgTx receiver tx =>
    match s.WriteBitcoinFeeOutput bitcoin now msgTx receiver tx with
    | .ok s' => s'
    | .error _ => s

/-- The table after a sequence of calls, serialized by the store mutex. -/
def run (bitcoin : Bitcoin) (s : SQLite3Store) (calls : List StoreCall) : SQLite3Store :=
  calls.foldl (StoreCall.apply bitcoin) s

open SQLite3Store

theorem StoreCall.apply_evolves (bitcoin : Bitcoin) (s : SQLite3Store) (c : StoreCall) :
    Evolves s (c.apply bitcoin s) ∧ (s.DoneSpent → (c.apply bitcoin s).DoneSpent) := by
  cases c with
  | WriteBitcoinUTXOIfNotExists utxo =>
    simp only [apply]
    split
    · rename_i h; exact WriteBitcoinUTXOIfNotExists_evolves h
    · exact ⟨Evolves.refl s, id⟩
  | AssignBitcoinUTXOByRangeForTransaction now min max tx =>
    simp only [apply]
    split
    · rename_i h; exact Assign_evolves h
    · exact ⟨Evolves.refl s, id⟩
  | WriteBitcoinFeeOutput now msgTx receiver tx =>
    simp only [apply]
    split
    · rename_i h; exact WriteBitcoinFeeOutput_evolves h
    · exact ⟨Evolves.refl s, id⟩

theorem run_evolves (bitcoin : Bitcoin) (s : SQLite3Store) (calls : List StoreCall) :
    Evolves s (run bitcoin s calls) ∧ (s.DoneSpent → (run bitcoin s calls).DoneSpent) := by
  induction calls generalizing s with
  | nil => exact ⟨Evolves.refl s, id⟩
  | cons c rest ih =>
    obtain ⟨hev, hds⟩ := c.apply_evolves bitcoin s
    obtain ⟨hev', hds'⟩ := ih (c.apply bitcoin s)
    exact ⟨hev.trans hev', hds' ∘ hds⟩

theorem run_take_of_le (bitcoin : Bitcoin) (s : SQLite3Store) (calls : List StoreCall) {i j : Nat}
    (hij : i ≤ j) :
    run bitcoin s (calls.take j) = run bitcoin (run bitcoin s (calls.take i)) ((calls.take j).drop i) := by
  have hsplit : calls.take j = calls.take i ++ (calls.take j).drop i := by
    conv_lhs => rw [← List.take_append_drop i (calls.take j)]
    rw [List.take_take, Nat.min_eq_left hij]
  rw [run, run, run, ← List.foldl_append, ← hsplit]

/-- Over every sequence of store calls from a table whose `Done` rows have
spenders, between any two points of the run every row is created, left alone,
or moved once from `Initial` with no spender to `Done` with a spender; every
`Done` row keeps a spender; a fee splitter spends each of its inputs in its own
commit, and writes nothing when one of them cannot be so spent. -/
theorem bitcoin_outputs_one_way (bitcoin : Bitcoin) (s : SQLite3Store) (hs : s.DoneSpent)
    (calls : List StoreCall) :
    (∀ i j, i ≤ j → Evolves (run bitcoin s (calls.take i)) (run bitcoin s (calls.take j))) ∧
    (∀ i, (run bitcoin s (calls.take i)).DoneSpent) ∧
    (∀ (t t' : SQLite3Store) now msgTx receiver tx,
      t.WriteBitcoinFeeOutput bitcoin now msgTx receiver tx = .ok t' →
      ∀ i ∈ msgTx.TxIn, ∃ o, t.find i.PreviousOutPoint.key = some o ∧ o.State = RequestStateInitial ∧
        o.SpentBy = none ∧ t'.find i.PreviousOutPoint.key = some (o.spend (bitcoin.TxHash msgTx) now)) ∧
    (∀ (t : SQLite3Store) now msgTx receiver tx, (∃ i ∈ msgTx.TxIn, ¬ t.SpendableAt i.PreviousOutPoint.key) →
      ∃ e, t.WriteBitcoinFeeOutput bitcoin now msgTx receiver tx = .error e) := by
  refine ⟨fun i j hij => ?_, fun i => (run_evolves bitcoin s _).2 hs, fun _ _ _ _ _ _ h =>
    WriteBitcoinFeeOutput_spends_inputs h, fun _ _ _ _ _ h => WriteBitcoinFeeOutput_error h⟩
  rw [run_take_of_le bitcoin s calls hij]
  exact (run_evolves bitcoin _ _).1

/-- Three accountant outputs arrive; a 1000-satoshi fee is assigned to transaction `t`;
then a splitter for transaction `u` spends the other two and writes its fee output and
its change. -/
def oneWayCalls : List StoreCall :=
  [.WriteBitcoinUTXOIfNotExists ⟨"aa", 0, "acct", 1000, 1, RequestStateInitial, none, none, 1, 1⟩,
    .WriteBitcoinUTXOIfNotExists ⟨"bb", 0, "acct", 400, 1, RequestStateInitial, none, none, 2, 2⟩,
    .WriteBitcoinUTXOIfNotExists ⟨"cc", 0, "acct", 700, 1, RequestStateInitial, none, none, 3, 3⟩,
    .AssignBitcoinUTXOByRangeForTransaction 4 900 1100 ⟨"t", "", 1, "", "", "", RequestStateInitial⟩,
    .WriteBitcoinFeeOutput 5 ⟨2, [⟨⟨"bb", 0⟩, 0, []⟩, ⟨⟨"cc", 0⟩, 0, []⟩], [⟨1000, []⟩, ⟨50, []⟩]⟩
      "acct" ⟨"u", "", 1, "", "", "", RequestStateInitial⟩]

/-- Over that run from the empty table the rows only move one way between the inserts
and the end, and every `Done` row keeps its spender; the run leaves four rows `Done`. -/
theorem bitcoin_outputs_one_way_splitter_run :
    SQLite3Store.empty.DoneSpent ∧
      Evolves (run Bitcoin.fixture SQLite3Store.empty (oneWayCalls.take 3))
        (run Bitcoin.fixture SQLite3Store.empty (oneWayCalls.take 5)) ∧
      (run Bitcoin.fixture SQLite3Store.empty (oneWayCalls.take 5)).DoneSpent ∧
      (run Bitcoin.fixture SQLite3Store.empty (oneWayCalls.take 5)).outputs.map (·.State) = [3, 3, 3, 3, 1] :=
  have hs : SQLite3Store.empty.DoneSpent := fun _ h => by cases h
  ⟨hs, (bitcoin_outputs_one_way Bitcoin.fixture SQLite3Store.empty hs oneWayCalls).1 3 5 (by decide),
    (bitcoin_outputs_one_way Bitcoin.fixture SQLite3Store.empty hs oneWayCalls).2.1 5, by decide⟩

end safe.observer

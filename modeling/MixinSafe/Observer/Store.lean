import MixinSafe.Apps.Bitcoin.Wire

open safe.bitcoin

namespace safe.observer

/-- A row of `bitcoin_outputs`. -/
structure Output where
  TransactionHash : String
  Index : Nat
  Address : String
  Satoshi : Nat
  Chain : UInt8
  State : Nat
  SpentBy : Option String
  RawTransaction : Option String
  CreatedAt : Nat
  UpdatedAt : Nat
deriving DecidableEq, Repr

/-- The primary key `(transaction_hash, output_index)`. -/
def Output.key (o : Output) : String × Nat := (o.TransactionHash, o.Index)

/-- What `UPDATE bitcoin_outputs SET state=?,spent_by=?,updated_at=?` writes into a row. -/
def Output.spend (o : Output) (spentBy : String) (now : Nat) : Output :=
  { o with State := RequestStateDone, SpentBy := some spentBy, UpdatedAt := now }

/-- The `WHERE transaction_hash=? AND output_index=? AND state=? AND spent_by IS NULL`
of that update, with the state `Initial`. -/
def Output.Spendable (k : String × Nat) (o : Output) : Bool :=
  o.key = k && o.State = RequestStateInitial && o.SpentBy = none

@[simp] theorem Output.spend_key (o : Output) (t : String) (now : Nat) : (o.spend t now).key = o.key := rfl

/-- The observer's transaction approval, with the fields the modelled code reads. -/
structure Transaction where
  TransactionHash : String
  RawTransaction : String
  Chain : UInt8
  Holder : String
  Signer : String
  Accountant : String
  State : Nat
deriving DecidableEq, Repr

/-- The part of a keeper `Safe` that the observer reads. -/
structure Safe where
  Holder : String
  Signer : String
  Observer : String
  Address : String
  Path : List UInt8
deriving DecidableEq, Repr

/-- A keeper `SignatureRequest`: the hex signature of one input. -/
structure SignatureRequest where
  InputIndex : Nat
  Signature : String
deriving DecidableEq, Repr

/-- The observer `Node`: its reads of its own store and of the keeper store, and
the key derivation it calls. The `bitcoin_outputs` table is passed apart, as the
state the modelled calls change. -/
structure Node where
  ReadTransactionApproval : String → Except String (Option Transaction)
  ReadSafe : String → Except String (Option Safe)
  ListAllSignaturesForTransaction : String → Nat → Except String (List SignatureRequest)
  ReadAccountantPrivateKey : String → Except String String
  deriveBIP32WithKeeperPath : String → List UInt8 → Except String String
  checkBitcoinUTXOSignatureRequired : OutPoint → Bool

/-- A node whose reads all succeed and find nothing, and whose accountant key is
the single byte zero, for running the model on concrete inputs. -/
def Node.fixture : Node where
  ReadTransactionApproval := fun _ => .ok none
  ReadSafe := fun _ => .ok none
  ListAllSignaturesForTransaction := fun _ _ => .ok []
  ReadAccountantPrivateKey := fun _ => .ok "00"
  deriveBIP32WithKeeperPath := fun k _ => .ok k
  checkBitcoinUTXOSignatureRequired := fun _ => true

/-- The `bitcoin_outputs` table in rowid order. Its primary key is unique. Each store
call runs in one database transaction under the store mutex, so it is a function from
the table before to the table after; an error return is a rollback and leaves the table
as it was. -/
structure SQLite3Store where
  outputs : List Output
  keys_nodup : (outputs.map Output.key).Nodup

namespace SQLite3Store

/-- The empty table. -/
def empty : SQLite3Store := ⟨[], List.nodup_nil⟩

/-- The row with primary key `k`. -/
def find (s : SQLite3Store) (k : String × Nat) : Option Output := s.outputs.find? (·.key = k)

/-- `execOne` of the `INSERT` that `buildInsertionSQL` builds: a taken primary
key violates the table's constraint. -/
def insert (s : SQLite3Store) (o : Output) : Except String SQLite3Store :=
  if h : o.key ∈ s.outputs.map Output.key then .error "INSERT bitcoin_outputs UNIQUE constraint failed"
  else .ok ⟨s.outputs ++ [o], by
    rw [List.map_append, List.nodup_append]
    exact ⟨s.keys_nodup, List.nodup_singleton _, by simpa using h⟩⟩

private theorem map_key_spend (l : List Output) (k : String × Nat) (t : String) (now : Nat) :
    (l.map fun o => if o.Spendable k then o.spend t now else o).map Output.key = l.map Output.key := by
  rw [List.map_map]
  exact List.map_congr_left fun o _ => by by_cases h : o.Spendable k <;> simp [h]

/-- Modelled from the spec: `execOne` is not under src/. Following the spec's
atomic assignment ("either all inputs flip, or none"), the spending `UPDATE`
fails, and rolls the commit back, unless it changes exactly one row. -/
def spend (s : SQLite3Store) (k : String × Nat) (t : String) (now : Nat) : Except String SQLite3Store :=
  if (s.outputs.filter (Output.Spendable k)).length = 1 then
    .ok ⟨s.outputs.map fun o => if o.Spendable k then o.spend t now else o, by
      rw [map_key_spend]; exact s.keys_nodup⟩
  else .error "UPDATE bitcoin_outputs affected no row"

/-- A row that the spending `UPDATE` at key `k` matches. -/
def SpendableAt (s : SQLite3Store) (k : String × Nat) : Prop :=
  ∃ o, s.find k = some o ∧ o.State = RequestStateInitial ∧ o.SpentBy = none

private theorem find?_key_of_mem {l : List Output} (hl : (l.map Output.key).Nodup) {o : Output}
    (ho : o ∈ l) : l.find? (·.key = o.key) = some o := by
  induction l with
  | nil => cases ho
  | cons a t ih =>
    rw [List.map_cons, List.nodup_cons] at hl
    rcases List.mem_cons.mp ho with rfl | ht
    · simp
    · have hne : a.key ≠ o.key := fun h => hl.1 (h ▸ List.mem_map_of_mem _ ht)
      simp [hne, ih hl.2 ht]

theorem find_eq_some_iff {s : SQLite3Store} {k : String × Nat} {o : Output} :
    s.find k = some o ↔ o ∈ s.outputs ∧ o.key = k := by
  constructor
  · intro h
    exact ⟨List.mem_of_find?_eq_some h, by simpa using List.find?_some h⟩
  · rintro ⟨ho, rfl⟩
    exact find?_key_of_mem s.keys_nodup ho

theorem find_eq_none_iff {s : SQLite3Store} {k : String × Nat} :
    s.find k = none ↔ k ∉ s.outputs.map Output.key := by
  simp [find, List.find?_eq_none]

/-- In a table with a unique key, a predicate that only a row with `o`'s key can
satisfy, and that `o` satisfies, selects exactly `o`. -/
private theorem filter_eq_singleton {l : List Output} (hl : (l.map Output.key).Nodup) {o : Output}
    (ho : o ∈ l) {p : Output → Bool} (hpo : p o) (hp : ∀ x, p x → x.key = o.key) : l.filter p = [o] := by
  induction l with
  | nil => cases ho
  | cons a t ih =>
    rw [List.map_cons, List.nodup_cons] at hl
    rcases List.mem_cons.mp ho with rfl | ht
    · have hnone : t.filter p = [] := List.filter_eq_nil_iff.mpr fun x hx hpx =>
        hl.1 (hp x hpx ▸ List.mem_map_of_mem _ hx)
      simp [hpo, hnone]
    · have hne : a.key ≠ o.key := fun h => hl.1 (h ▸ List.mem_map_of_mem _ ht)
      have hpa : p a = false := by
        by_contra h
        exact hne (hp a (by simpa using h))
      simp [hpa, ih hl.2 ht]

theorem find_of_insert {s s' : SQLite3Store} {o : Output} (h : s.insert o = .ok s') (k : String × Nat) :
    s'.find k = if o.key = k then some o else s.find k := by
  unfold insert at h
  split at h
  · cases h
  · rename_i hfresh
    cases h
    by_cases hk : o.key = k
    · subst hk
      have : s.find o.key = none := find_eq_none_iff.mpr hfresh
      simp only [find] at this
      simp [find, List.find?_append, this]
    · simp [find, List.find?_append, hk]

theorem insert_ok_iff {s : SQLite3Store} {o : Output} :
    (∃ s', s.insert o = .ok s') ↔ o.key ∉ s.outputs.map Output.key := by
  unfold insert
  split <;> simp_all

private theorem find_map_spend (s : SQLite3Store) (k k' : String × Nat) (t : String) (now : Nat) :
    (s.outputs.map fun o => if o.Spendable k then o.spend t now else o).find? (·.key = k') =
      (s.find k').map fun o => if o.Spendable k then o.spend t now else o := by
  rw [List.find?_map, find]
  congr 2
  funext o
  by_cases h : o.Spendable k <;> simp [h]

/-- The spending `UPDATE` succeeds exactly at a key whose row is `Initial` with
no spender, rewrites that row and no other. -/
theorem spend_spec {s s' : SQLite3Store} {k : String × Nat} {t : String} {now : Nat}
    (h : s.spend k t now = .ok s') :
    ∃ o, s.find k = some o ∧ o.State = RequestStateInitial ∧ o.SpentBy = none ∧
      s'.find k = some (o.spend t now) ∧ ∀ k', k' ≠ k → s'.find k' = s.find k' := by
  unfold spend at h
  split at h
  · rename_i hone
    cases h
    obtain ⟨o, hfilter⟩ := List.length_eq_one.mp hone
    have hmem : o ∈ s.outputs.filter (Output.Spendable k) := by simp [hfilter]
    obtain ⟨ho, hsp⟩ := List.mem_filter.mp hmem
    simp only [Output.Spendable, Bool.and_eq_true, decide_eq_true_eq] at hsp
    obtain ⟨⟨hkey, hinit⟩, hnone⟩ := hsp
    have hfind : s.find k = some o := find_eq_some_iff.mpr ⟨ho, hkey⟩
    refine ⟨o, hfind, hinit, hnone, ?_, fun k' hk' => ?_⟩
    · rw [find, find_map_spend, hfind]
      simp [Output.Spendable, hkey, hinit, hnone]
    · rw [find, find_map_spend]
      cases hf : s.find k' with
      | none => rfl
      | some x =>
        have hxk : x.key = k' := (find_eq_some_iff.mp hf).2
        simp [Output.Spendable, hxk, hk']
  · cases h

theorem spend_ok_iff {s : SQLite3Store} {k : String × Nat} {t : String} {now : Nat} :
    (∃ s', s.spend k t now = .ok s') ↔ s.SpendableAt k := by
  constructor
  · rintro ⟨s', h⟩
    obtain ⟨o, hf, hi, hn, -⟩ := spend_spec h
    exact ⟨o, hf, hi, hn⟩
  · rintro ⟨o, hf, hi, hn⟩
    obtain ⟨ho, hkey⟩ := find_eq_some_iff.mp hf
    have hfilter := filter_eq_singleton s.keys_nodup ho (p := Output.Spendable k)
      (by simp [Output.Spendable, hkey, hi, hn])
      (fun x hx => by simp only [Output.Spendable, Bool.and_eq_true, decide_eq_true_eq] at hx; rw [hx.1.1, hkey])
    simp [spend, hfilter]

theorem insert_outputs {s s' : SQLite3Store} {o : Output} (h : s.insert o = .ok s') :
    s'.outputs = s.outputs ++ [o] := by
  unfold insert at h
  split at h
  · cases h
  · cases h; rfl

theorem spend_outputs {s s' : SQLite3Store} {k : String × Nat} {t : String} {now : Nat}
    (h : s.spend k t now = .ok s') :
    s'.outputs = s.outputs.map fun o => if o.Spendable k then o.spend t now else o := by
  unfold spend at h
  split at h
  · cases h; rfl
  · cases h

/-- The `SELECT` condition of `AssignBitcoinUTXOByRangeForTransaction`:
`(chain=? AND satoshi>=? AND satoshi<=? AND state=?) OR (spent_by=?)`. -/
def InRangeOrSpentBy (min max : Nat) (tx : Transaction) (o : Output) : Bool :=
  (o.Chain = tx.Chain && min ≤ o.Satoshi && o.Satoshi ≤ max && o.State = RequestStateInitial) ||
    o.SpentBy = some tx.TransactionHash

/-- The rest of `AssignBitcoinUTXOByRangeForTransaction` once its `SELECT` has
returned the row `o`; it returns the row as it was read. -/
def assignSelected (s : SQLite3Store) (now : Nat) (tx : Transaction) (o : Output) :
    Except String (Option Output × SQLite3Store) :=
  if o.SpentBy.getD "" = tx.TransactionHash then .ok (some o, s)
  else do
    let s' ← s.spend o.key tx.TransactionHash now
    pure (some o, s')

/-- `AssignBitcoinUTXOByRangeForTransaction`. Its query has no `ORDER BY`; the
model returns the first matching row in rowid order, as SQLite's table scan does. -/
def AssignBitcoinUTXOByRangeForTransaction (s : SQLite3Store) (now min max : Nat) (tx : Transaction) :
    Except String (Option Output × SQLite3Store) :=
  match s.outputs.find? (InRangeOrSpentBy min max tx) with
  | none => .ok (none, s)
  | some o => s.assignSelected now tx o

/-- `WriteBitcoinUTXOIfNotExists`: a non-`Initial` output is a panic, an existing
key is left alone. -/
def WriteBitcoinUTXOIfNotExists (s : SQLite3Store) (utxo : Output) : Except String SQLite3Store :=
  if utxo.State ≠ RequestStateInitial then .error s!"panic: {utxo.State}"
  else if utxo.key ∈ s.outputs.map Output.key then .ok s
  else s.insert utxo

/-- `ReadBitcoinUTXOs`: the chain's `Initial` rows, oldest first, at most 256. -/
def ReadBitcoinUTXOs (s : SQLite3Store) (chain : UInt8) : List Output :=
  ((s.outputs.filter fun o => o.Chain = chain && o.State = RequestStateInitial).insertionSort
    fun a b => a.CreatedAt ≤ b.CreatedAt).take 256

/-- The row `WriteBitcoinFeeOutput` inserts for output `i` of the fee splitter:
output 0 is spent at once by the transaction it pays for. -/
def feeOutputRow (hash raw receiver : String) (tx : Transaction) (now i : Nat) (out : TxOut) : Output :=
  { TransactionHash := hash, Index := i, Address := receiver, Satoshi := out.Value, Chain := tx.Chain,
    State := if i = 0 then RequestStateDone else RequestStateInitial,
    SpentBy := if i = 0 then some tx.TransactionHash else none,
    RawTransaction := some raw, CreatedAt := now, UpdatedAt := now }

/-- The first loop of `WriteBitcoinFeeOutput`: every input of the splitter is spent by it. -/
def spendInputs (s : SQLite3Store) (hash : String) (now : Nat) : List TxIn → Except String SQLite3Store
  | [] => .ok s
  | i :: rest => do
    let s' ← s.spend i.PreviousOutPoint.key hash now
    s'.spendInputs hash now rest

/-- The second loop of `WriteBitcoinFeeOutput`, from output index `i` on. -/
def insertFeeOutputs (s : SQLite3Store) (hash raw receiver : String) (tx : Transaction) (now : Nat) :
    Nat → List TxOut → Except String SQLite3Store
  | _, [] => .ok s
  | i, out :: rest => do
    let s' ← s.insert (feeOutputRow hash raw receiver tx now i out)
    s'.insertFeeOutputs hash raw receiver tx now (i + 1) rest

/-- `WriteBitcoinFeeOutput`. -/
def WriteBitcoinFeeOutput (bitcoin : Bitcoin) (s : SQLite3Store) (now : Nat) (msgTx : MsgTx)
    (receiver : String) (tx : Transaction) : Except String SQLite3Store := do
  let signedBuffer ← bitcoin.MarshalWiredTransaction msgTx tx.Chain
  let hash := bitcoin.TxHash msgTx
  let raw := hexEncode signedBuffer
  let s' ← s.spendInputs hash now msgTx.TxIn
  s'.insertFeeOutputs hash raw receiver tx now 0 msgTx.TxOut

end SQLite3Store

end safe.observer

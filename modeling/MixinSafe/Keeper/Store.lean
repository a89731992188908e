import MixinSafe.Common.Constants

namespace safe.keeper.store

/-- `strings.Join(elems, sep)`, for the one-character separator the store uses. -/
def Join (elems : List String) (sep : Char) : String := ⟨[sep].intercalate (elems.map String.data)⟩

/-- `strings.Split(s, sep)`, for a one-character separator: the pieces between the
separators, so that the empty string is one empty piece. -/
def Split (s : String) (sep : Char) : List String := (s.data.splitOn sep).map String.mk

/-- A Go value of a row: the column types of the safes tables. -/
inductive Value where
  | string (s : String)
  | byte (b : UInt8)
  | duration (d : Int)
  | bytes (b : List UInt8)
  | time (t : Nat)
deriving DecidableEq, Repr

/-- A row as the table keeps it: each column's name with its value. -/
abbrev Row := List (String × Value)

/-- `store.SafeProposal`; `Timelock` is a `time.Duration` and the times are instants. -/
structure SafeProposal where
  RequestId : String
  Chain : UInt8
  Holder : String
  Signer : String
  Observer : String
  Timelock : Int
  Address : String
  Extra : List UInt8
  Receivers : List String
  Threshold : UInt8
  CreatedAt : Nat
  UpdatedAt : Nat
deriving DecidableEq, Repr

/-- `store.Safe`. -/
structure Safe where
  Holder : String
  Chain : UInt8
  Signer : String
  Observer : String
  Timelock : Int
  Address : String
  Extra : List UInt8
  Receivers : List String
  Threshold : UInt8
  RequestId : String
  CreatedAt : Nat
  UpdatedAt : Nat
deriving DecidableEq, Repr

/-- `safeCols`. -/
def safeCols : List String :=
  ["holder", "chain", "signer", "observer", "timelock", "address", "extra", "receivers", "threshold",
    "request_id", "created_at", "updated_at"]

/-- `safeProposalCols`. -/
def safeProposalCols : List String :=
  ["request_id", "chain", "holder", "signer", "observer", "timelock", "address", "extra", "receivers",
    "threshold", "created_at", "updated_at"]

/-- `Safe.values`: the row in the order of `safeCols`. -/
def Safe.values (s : Safe) : List Value :=
  [.string s.Holder, .byte s.Chain, .string s.Signer, .string s.Observer, .duration s.Timelock,
    .string s.Address, .bytes s.Extra, .string (Join s.Receivers ';'), .byte s.Threshold,
    .string s.RequestId, .time s.CreatedAt, .time s.UpdatedAt]

/-- `SafeProposal.values`: the row in the order of `safeProposalCols`. -/
def SafeProposal.values (s : SafeProposal) : List Value :=
  [.string s.RequestId, .byte s.Chain, .string s.Holder, .string s.Signer, .string s.Observer,
    .duration s.Timelock, .string s.Address, .bytes s.Extra, .string (Join s.Receivers ';'),
    .byte s.Threshold, .time s.CreatedAt, .time s.UpdatedAt]

/-- `safeFromRow`: the scan of the columns into the fields, in the order of `safeCols`;
a column of another type fails the scan. -/
def safeFromRow : List Value → Except String Safe
  | [.string holder, .byte chain, .string signer, .string observer, .duration timelock, .string address,
      .bytes extra, .string receivers, .byte threshold, .string requestId, .time createdAt,
      .time updatedAt] =>
    .ok ⟨holder, chain, signer, observer, timelock, address, extra, Split receivers ';', threshold,
      requestId, createdAt, updatedAt⟩
  | _ => .error "sql: Scan error"

/-- `safeProposalFromRow`, in the order of `safeProposalCols`. -/
def safeProposalFromRow : List Value → Except String SafeProposal
  | [.string requestId, .byte chain, .string holder, .string signer, .string observer, .duration timelock,
      .string address, .bytes extra, .string receivers, .byte threshold, .time createdAt,
      .time updatedAt] =>
    .ok ⟨requestId, chain, holder, signer, observer, timelock, address, extra, Split receivers ';',
      threshold, createdAt, updatedAt⟩
  | _ => .error "sql: Scan error"

/-- A query `SELECT cols FROM table WHERE key=?` and the scan of its row, SQLite taken
to keep each column's Go value unchanged: the first row whose `key` column holds `v`,
its columns taken in the order of `cols`; no row is `sql.ErrNoRows`, which the readers
return as `nil, nil`. -/
def readRow {α : Type} (fromRow : List Value → Except String α) (cols : List String) (table : List Row)
    (key v : String) : Except String (Option α) :=
  match table.find? (·.lookup key == some (.string v)) with
  | none => .ok none
  | some row => some <$> fromRow (cols.filterMap row.lookup)

/-- The tables of the keeper's `SQLite3Store` that safe.go writes, in write order,
and the states the requests were finished with. -/
structure SQLite3Store where
  safes : List Row
  safeProposals : List Row
  requests : List (String × Nat)

namespace SQLite3Store

variable (s : SQLite3Store)

/-- `WriteSafeProposalWithRequest`: the insert of the proposal's row and the request
finished as done, in one transaction. -/
def WriteSafeProposalWithRequest (sp : SafeProposal) : SQLite3Store :=
  { s with safeProposals := s.safeProposals ++ [safeProposalCols.zip sp.values],
           requests := s.requests ++ [(sp.RequestId, RequestStateDone)] }

/-- `WriteSafeWithRequest`. -/
def WriteSafeWithRequest (safe : Safe) : SQLite3Store :=
  { s with safes := s.safes ++ [safeCols.zip safe.values],
           requests := s.requests ++ [(safe.RequestId, RequestStateDone)] }

/-- `ReadSafeProposal`. -/
def ReadSafeProposal (requestId : String) : Except String (Option SafeProposal) :=
  readRow safeProposalFromRow safeProposalCols s.safeProposals "request_id" requestId

/-- `ReadSafeProposalByAddress`. -/
def ReadSafeProposalByAddress (addr : String) : Except String (Option SafeProposal) :=
  readRow safeProposalFromRow safeProposalCols s.safeProposals "address" addr

/-- `readSafe`. -/
def readSafe (holder : String) : Except String (Option Safe) :=
  readRow safeFromRow safeCols s.safes "holder" holder

/-- `ReadSafe`: `readSafe` in its own transaction. -/
def ReadSafe (holder : String) : Except String (Option Safe) := s.readSafe holder

/-- `ReadSafeByAddress`. -/
def ReadSafeByAddress (addr : String) : Except String (Option Safe) :=
  readRow safeFromRow safeCols s.safes "address" addr

end SQLite3Store

/-- The receivers as the column gives them back: `Split` of their `Join`. -/
def readBackReceivers (receivers : List String) : List String := Split (Join receivers ';') ';'

/-- Receivers that contain no separator come back as they were written, but for the
empty list, which comes back as one empty receiver. -/
theorem readBackReceivers_eq (receivers : List String) (h : ∀ r ∈ receivers, ';' ∉ r.data) :
    readBackReceivers receivers = if receivers = [] then [""] else receivers := by
  split_ifs with hnil
  · subst hnil
    rfl
  · have hdata : ∀ l ∈ receivers.map String.data, ';' ∉ l := by
      simpa using h
    have hne : receivers.map String.data ≠ [] := by simpa using hnil
    simp only [readBackReceivers, Split, Join, List.splitOn_intercalate _ ';' hdata hne, List.map_map]
    exact List.map_id' receivers

/-- Each record reads back from its own row, with every field as written and the
receivers through `Join` and `Split`. -/
theorem safeFromRow_values (s : Safe) :
    safeFromRow s.values = .ok { s with Receivers := readBackReceivers s.Receivers } := rfl

theorem safeProposalFromRow_values (p : SafeProposal) :
    safeProposalFromRow p.values = .ok { p with Receivers := readBackReceivers p.Receivers } := rfl

/-- A safe and a proposal whose receiver ids contain no `;` read back from their rows
equal to what was written when they have receivers; with none, they read back with
one empty receiver id and every other field as written. -/
theorem FromRow_values_roundtrip (s : Safe) (p : SafeProposal)
    (hs : ∀ r ∈ s.Receivers, ';' ∉ r.data) (hp : ∀ r ∈ p.Receivers, ';' ∉ r.data) :
    (s.Receivers ≠ [] → safeFromRow s.values = .ok s) ∧
      (p.Receivers ≠ [] → safeProposalFromRow p.values = .ok p) ∧
      (s.Receivers = [] → safeFromRow s.values = .ok { s with Receivers := [""] }) ∧
      (p.Receivers = [] → safeProposalFromRow p.values = .ok { p with Receivers := [""] }) := by
  rw [safeFromRow_values, safeProposalFromRow_values, readBackReceivers_eq _ hs, readBackReceivers_eq _ hp]
  refine ⟨fun h => ?_, fun h => ?_, fun h => ?_, fun h => ?_⟩ <;> simp [h]

/-- The bond receiver of the keeper's tests, and a safe and a proposal paying it. -/
def testReceivers : List String := ["e459de8b-4edd-44ff-a119-b1d707f8521a"]

def testSafe : Safe :=
  ⟨"holder", 1, "signer", "observer", 86400, "address", [0, 1], testReceivers, 1, "request", 10, 11⟩

def testSafeProposal : SafeProposal :=
  ⟨"request", 1, "holder", "signer", "observer", 86400, "address", [0, 1], testReceivers, 1, 10, 11⟩

theorem FromRow_values_roundtrip_tests :
    (∀ r ∈ testSafe.Receivers, ';' ∉ r.data) ∧ (∀ r ∈ testSafeProposal.Receivers, ';' ∉ r.data) ∧
      ((testSafe.Receivers ≠ [] → safeFromRow testSafe.values = .ok testSafe) ∧
      (testSafeProposal.Receivers ≠ [] → safeProposalFromRow testSafeProposal.values = .ok testSafeProposal) ∧
      (testSafe.Receivers = [] → safeFromRow testSafe.values = .ok { testSafe with Receivers := [""] }) ∧
      (testSafeProposal.Receivers = [] →
        safeProposalFromRow testSafeProposal.values = .ok { testSafeProposal with Receivers := [""] })) :=
  ⟨by decide, by decide, FromRow_values_roundtrip testSafe testSafeProposal (by decide) (by decide)⟩

/-- A safe with no receivers. -/
def noReceiversSafe : Safe := { testSafe with Receivers := [] }

/-- The safe with no receivers reads back with one empty receiver id, not as written. -/
theorem safeFromRow_no_receivers :
    safeFromRow noReceiversSafe.values = .ok { noReceiversSafe with Receivers := [""] } ∧
      safeFromRow noReceiversSafe.values ≠ .ok noReceiversSafe := by
  refine ⟨rfl, fun h => ?_⟩
  rw [safeFromRow_values] at h
  exact absurd (congrArg Safe.Receivers (Except.ok.inj h)) (by decide)

/-- A record as the store's reads give it back. -/
def Safe.readBack (w : Safe) : Safe := { w with Receivers := readBackReceivers w.Receivers }

def SafeProposal.readBack (w : SafeProposal) : SafeProposal := { w with Receivers := readBackReceivers w.Receivers }

theorem filterMap_lookup_zip {cols : List String} {vals : List Value} (hnodup : cols.Nodup)
    (hlen : cols.length = vals.length) : cols.filterMap (cols.zip vals).lookup = vals := by
  induction cols generalizing vals with
  | nil => cases vals <;> simp_all
  | cons c cols ih =>
    cases vals with
    | nil => simp at hlen
    | cons v vals =>
      obtain ⟨hc, hnodup⟩ := List.nodup_cons.mp hnodup
      have hlook : ∀ c' ∈ cols, List.lookup c' ((c, v) :: cols.zip vals) = List.lookup c' (cols.zip vals) :=
        fun c' hc' => by
          have hne : (c' == c) = false := beq_false_of_ne fun h => hc (h ▸ hc')
          simp only [List.lookup, hne]
      rw [List.zip_cons_cons, List.filterMap_cons, List.filterMap_congr hlook, ih hnodup (by simpa using hlen)]
      simp [List.lookup]

section Reads

variable {α β : Type} (fromRow : List Value → Except String α) {cols : List String} (key : String)
  (values : β → List Value) (keyOf : β → String) (back : β → α)

/-- A read by key over rows inserted from records finds the first record with the
key, when each record's row holds its key and scans back. -/
theorem readRow_insertions (hnodup : cols.Nodup) (hlen : ∀ w, cols.length = (values w).length)
    (hkey : ∀ w, (cols.zip (values w)).lookup key = some (.string (keyOf w)))
    (hread : ∀ w, fromRow (values w) = .ok (back w)) (ws : List β) (v : String) :
    readRow fromRow cols (ws.map fun w => cols.zip (values w)) key v = .ok ((ws.find? (keyOf · = v)).map back) := by
  induction ws with
  | nil => rfl
  | cons w ws ih =>
    by_cases hw : keyOf w = v
    · simp [readRow, hkey, hw, filterMap_lookup_zip hnodup (hlen w), hread]
    · simpa [readRow, hkey, hw] using ih

end Reads

namespace SQLite3Store

/-- A run of safe writes appends one row per safe, finishes each safe's request and
leaves the proposals as they were. -/
theorem foldl_WriteSafeWithRequest (s : SQLite3Store) (ws : List Safe) :
    (ws.foldl WriteSafeWithRequest s).safes = s.safes ++ ws.map (fun w => safeCols.zip w.values) ∧
      (ws.foldl WriteSafeWithRequest s).requests = s.requests ++ ws.map (·.RequestId, RequestStateDone) ∧
      (ws.foldl WriteSafeWithRequest s).safeProposals = s.safeProposals := by
  induction ws generalizing s with
  | nil => simp
  | cons w ws ih => simp [ih, WriteSafeWithRequest]

/-- A run of proposal writes appends one row per proposal, finishes each request and
leaves the safes as they were. -/
theorem foldl_WriteSafeProposalWithRequest (s : SQLite3Store) (ws : List SafeProposal) :
    (ws.foldl WriteSafeProposalWithRequest s).safeProposals =
        s.safeProposals ++ ws.map (fun w => safeProposalCols.zip w.values) ∧
      (ws.foldl WriteSafeProposalWithRequest s).requests = s.requests ++ ws.map (·.RequestId, RequestStateDone) ∧
      (ws.foldl WriteSafeProposalWithRequest s).safes = s.safes := by
  induction ws generalizing s with
  | nil => simp
  | cons w ws ih => simp [ih, WriteSafeProposalWithRequest]

end SQLite3Store

end safe.keeper.store

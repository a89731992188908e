import MixinSafe.Common.Encoding
import MixinSafe.Common.Codec
import Mathlib.Data.List.Sort

namespace safe.ethereum

/-- `common.Address`: twenty bytes, ordered as the big-endian number they spell. -/
abbrev Address := Fin (2 ^ 160)

/-- `Address.Cmp`: `bytes.Compare` of the two addresses. -/
def Address.Cmp (a b : Address) : Int := if a < b then -1 else if a = b then 0 else 1

/-- `common.BytesToAddress`: the last twenty bytes. -/
def BytesToAddress (b : List UInt8) : Address :=
  ⟨beUint (b.drop (b.length - 20)) % 2 ^ 160, Nat.mod_lt _ (by decide)⟩

/-- `hex.DecodeString`. -/
def DecodeString (s : String) : Except String (List UInt8) :=
  match hexDecode s.data with
  | some b => .ok b
  | none => .error "encoding/hex: invalid byte"

/-- The libraries the account code calls (go-ethereum, `sort.Slice`, the ABI packers)
and the package's contract constants, which are not under src/. `HexToAddress` reads
back the checksummed hex `Hex` writes, and `sort.Slice` by a comparison of keys returns
a permutation of its input with the keys in order. -/
structure Ethereum where
  DecompressPubkey : List UInt8 → Except String (List UInt8)
  PubkeyToAddress : List UInt8 → Address
  Hex : Address → String
  HexToAddress : String → Address
  SortSlice : (String → String → Bool) → List String → List String
  Keccak256 : List UInt8 → List UInt8
  SetString16 : String → Nat
  packSetupArguments : List String → Int → List UInt8 → Address → Address → Address → Address → Nat → List UInt8
  packSaltArguments : Nat → List UInt8
  packSafeArguments : String → List UInt8
  EthereumSafeProxyFactoryAddress : String
  EthereumSafeL2Address : String
  EthereumEmptyAddress : String
  EthereumCompatibilityFallbackHandlerAddress : String
  predeterminedSaltNonce : String
  accountContractCode : String
  HexToAddress_Hex : ∀ a, HexToAddress (Hex a) = a
  SortSlice_perm : ∀ less l, (SortSlice less l).Perm l
  SortSlice_sorted : ∀ (key : String → Address) (l : List String),
    (SortSlice (fun a b => (key a).Cmp (key b) == -1) l).Pairwise fun a b => key a ≤ key b

variable (eth : Ethereum)

/-- `ParseEthereumCompressedPublicKey`: the address of a hex compressed key. -/
def ParseEthereumCompressedPublicKey (public : String) : Except String Address := do
  let pub ← DecodeString public
  let publicKey ← eth.DecompressPubkey pub
  return eth.PubkeyToAddress publicKey

/-- The comparison `GetSortedSafeOwners` and `GetSafeAccountAddress` sort owners by. -/
def addressLess (a b : String) : Bool := (eth.HexToAddress a).Cmp (eth.HexToAddress b) == -1

/-- One round of the first loop of `GetSortedSafeOwners`: the key's address. -/
def ownerStep (owners : List String) (pub : String) : Except String (List String) := do
  let addr ← (ParseEthereumCompressedPublicKey eth pub).mapError fun _ => "panic: " ++ pub
  return owners ++ [eth.Hex addr]

/-- One write `addressMap[a] = i`. -/
def addressStep (m : String → Option Nat) (ia : Nat × String) : String → Option Nat :=
  fun a => if a = ia.2 then some ia.1 else m a

/-- `addressMap`: each owner's slot, the last one where an owner repeats. -/
def addressMap (owners : List String) : String → Option Nat :=
  owners.enum.foldl addressStep fun _ => none

/-- One round of the second loop of `GetSortedSafeOwners`: the key goes to the slot of
its address, slot 0 when the address is not an owner. -/
def pubStep (addressMap : String → Option Nat) (pubs : List String) (pub : String) :
    Except String (List String) := do
  let addr ← (ParseEthereumCompressedPublicKey eth pub).mapError fun _ => "panic: nil pointer dereference"
  return pubs.set ((addressMap (eth.Hex addr)).getD 0) pub

/-- `GetSortedSafeOwners`: the owners' addresses in ascending order, and the keys in
the slots of their addresses. -/
def GetSortedSafeOwners (holder signer observer : String) : Except String (List String × List String) := do
  let owners ← [holder, signer, observer].foldlM (ownerStep eth) []
  let owners := eth.SortSlice (addressLess eth) owners
  let addressMap := addressMap owners
  let pubs ← [holder, signer, observer].foldlM (pubStep eth addressMap) (List.replicate 3 "")
  return (owners, pubs)

/-- `getInitializer`: the packed `setup` call of the safe. -/
def getInitializer (owners : List String) (threshold : Int) : List UInt8 :=
  let blankAddress := eth.HexToAddress eth.EthereumEmptyAddress
  let handlerAddress := eth.HexToAddress eth.EthereumCompatibilityFallbackHandlerAddress
  eth.packSetupArguments owners threshold [] blankAddress handlerAddress blankAddress blankAddress 0

/-- `GetSafeAccountAddress`: the CREATE2 address of the proxy for the sorted owners
and the threshold. -/
def GetSafeAccountAddress (owners : List String) (threshold : Int) : Except String Address := do
  let owners := eth.SortSlice (addressLess eth) owners
  let this ← (DecodeString (eth.EthereumSafeProxyFactoryAddress.drop 2)).mapError ("panic: " ++ ·)
  let initializer := getInitializer eth owners threshold
  let nonce := eth.SetString16 (eth.predeterminedSaltNonce.drop 2)
  let encodedNonce := eth.packSaltArguments nonce
  let salt := eth.Keccak256 initializer
  let salt := salt ++ encodedNonce
  let salt := eth.Keccak256 salt
  let code ← (DecodeString (eth.accountContractCode.drop 2)).mapError ("panic: " ++ ·)
  let code := code ++ eth.packSafeArguments eth.EthereumSafeL2Address
  let input := [0xff] ++ this ++ beBytes 32 (beUint salt) ++ eth.Keccak256 code
  return BytesToAddress (eth.Keccak256 input)

theorem Hex_injective : Function.Injective eth.Hex := fun a b h => by
  rw [← eth.HexToAddress_Hex a, h, eth.HexToAddress_Hex]

/-- Strings that are the hex of their own address. -/
def Canonical (l : List String) : Prop := ∀ s ∈ l, eth.Hex (eth.HexToAddress s) = s

private theorem map_Hex_HexToAddress {l : List String} (hc : Canonical eth l) :
    (l.map eth.HexToAddress).map eth.Hex = l := by
  rw [List.map_map]
  conv_rhs => rw [← List.map_id l]
  exact List.map_congr_left hc

/-- Sorting canonical owner strings by address gives one list for every order of the
input: the sorted addresses are unique, and each string is the hex of its address. -/
theorem SortSlice_canonical {l₁ l₂ : List String} (hperm : l₁.Perm l₂) (hc : Canonical eth l₂) :
    eth.SortSlice (addressLess eth) l₁ = eth.SortSlice (addressLess eth) l₂ := by
  have hp₁ := eth.SortSlice_perm (addressLess eth) l₁
  have hp₂ := eth.SortSlice_perm (addressLess eth) l₂
  have hs₁ := eth.SortSlice_sorted eth.HexToAddress l₁
  have hs₂ := eth.SortSlice_sorted eth.HexToAddress l₂
  have hmap : (eth.SortSlice (addressLess eth) l₁).map eth.HexToAddress =
      (eth.SortSlice (addressLess eth) l₂).map eth.HexToAddress :=
    List.eq_of_perm_of_sorted ((hp₁.trans (hperm.trans hp₂.symm)).map _) (List.pairwise_map.mpr hs₁)
      (List.pairwise_map.mpr hs₂)
  calc eth.SortSlice (addressLess eth) l₁
      = ((eth.SortSlice (addressLess eth) l₁).map eth.HexToAddress).map eth.Hex :=
        (map_Hex_HexToAddress eth fun s hs => hc s ((hp₁.trans hperm).subset hs)).symm
    _ = ((eth.SortSlice (addressLess eth) l₂).map eth.HexToAddress).map eth.Hex := by rw [hmap]
    _ = eth.SortSlice (addressLess eth) l₂ := map_Hex_HexToAddress eth fun s hs => hc s (hp₂.subset hs)

/-- The predicted safe address depends on the set of canonical owners and the
threshold only, not on the owners' order. -/
theorem GetSafeAccountAddress_perm (owners owners' : List String) (threshold : Int)
    (hcanon : ∀ s ∈ owners, ∃ a, s = eth.Hex a) (hperm : owners'.Perm owners) :
    GetSafeAccountAddress eth owners' threshold = GetSafeAccountAddress eth owners threshold := by
  have hc : Canonical eth owners := fun s hs => by
    obtain ⟨a, rfl⟩ := hcanon s hs
    rw [eth.HexToAddress_Hex]
  unfold GetSafeAccountAddress
  rw [SortSlice_canonical eth hperm hc]

private theorem foldl_addressStep (l : List String) (hl : l.Nodup) (k : Nat) (m : String → Option Nat) :
    (∀ i (hi : i < l.length), (l.enumFrom k).foldl addressStep m l[i] = some (k + i)) ∧
      ∀ a ∉ l, (l.enumFrom k).foldl addressStep m a = m a := by
  induction l generalizing k m with
  | nil => simp
  | cons x xs ih =>
    obtain ⟨hx, hxs⟩ := List.nodup_cons.mp hl
    obtain ⟨ih₁, ih₂⟩ := ih hxs (k + 1) (addressStep m (k, x))
    simp only [List.enumFrom_cons, List.foldl_cons]
    refine ⟨fun i hi => ?_, fun a ha => ?_⟩
    · cases i with
      | zero => simp [ih₂ x hx, addressStep]
      | succ j =>
        rw [List.getElem_cons_succ, ih₁ j (by simpa using hi)]
        congr 1
        omega
    · rw [List.mem_cons, not_or] at ha
      simp [ih₂ a ha.2, addressStep, ha.1]

/-- Over distinct owners, `addressMap` gives each owner its own slot. -/
theorem addressMap_getElem (owners : List String) (h : owners.Nodup) (i : Nat) (hi : i < owners.length) :
    addressMap owners owners[i] = some i := by
  simpa using (foldl_addressStep owners h 0 _).1 i hi

section Owners

variable {eth} {holder signer observer : String} {ah as ao : Address}
  (hh : ParseEthereumCompressedPublicKey eth holder = .ok ah)
  (hs : ParseEthereumCompressedPublicKey eth signer = .ok as)
  (ho : ParseEthereumCompressedPublicKey eth observer = .ok ao)
include hh hs ho

/-- The first loop collects the keys' addresses in role order. -/
theorem foldlM_ownerStep :
    [holder, signer, observer].foldlM (ownerStep eth) [] = .ok [eth.Hex ah, eth.Hex as, eth.Hex ao] := by
  simp [ownerStep, hh, hs, ho, Except.mapError]

/-- The second loop writes each key at the slot of its address. -/
theorem foldlM_pubStep (am : String → Option Nat) (init : List String) :
    [holder, signer, observer].foldlM (pubStep eth am) init =
      .ok (((init.set ((am (eth.Hex ah)).getD 0) holder).set ((am (eth.Hex as)).getD 0) signer).set
        ((am (eth.Hex ao)).getD 0) observer) := by
  simp [pubStep, hh, hs, ho, Except.mapError]

end Owners

/-- Sorting strings of distinct addresses puts the addresses in strictly ascending order. -/
theorem SortSlice_strict {l : List String} (hl : (l.map eth.HexToAddress).Nodup) :
    ((eth.SortSlice (addressLess eth) l).map eth.HexToAddress).Pairwise (· < ·) :=
  ((List.pairwise_map.mpr (eth.SortSlice_sorted eth.HexToAddress l)).and
    (((eth.SortSlice_perm _ l).map eth.HexToAddress).nodup_iff.mpr hl)).imp fun h => lt_of_le_of_ne h.1 h.2

/-- The slot `addressMap` gives a distinct owner holds that owner. -/
private theorem addressMap_slot {owners : List String} (h : owners.Nodup) {s : String} (hs : s ∈ owners) :
    ∃ i, owners[i]? = some s ∧ (addressMap owners s).getD 0 = i := by
  obtain ⟨i, hi, rfl⟩ := List.getElem_of_mem hs
  exact ⟨i, List.getElem?_eq_getElem hi, by rw [addressMap_getElem owners h i hi]; rfl⟩

/-- Three writes to the distinct slots of three owners fill the slots with the keys
`g` gives the owners. -/
private theorem set_three_eq_map {owners : List String} {i₁ i₂ i₃ : Nat} {x₁ x₂ x₃ : String}
    (g : String → String) (hlen : owners.length = 3) (h₁ : owners[i₁]? = some x₁) (h₂ : owners[i₂]? = some x₂)
    (h₃ : owners[i₃]? = some x₃) (h12 : i₁ ≠ i₂) (h13 : i₁ ≠ i₃) (h23 : i₂ ≠ i₃) :
    (((List.replicate 3 "").set i₁ (g x₁)).set i₂ (g x₂)).set i₃ (g x₃) = owners.map g := by
  have hi₁ := (List.getElem?_eq_some_iff.mp h₁).1
  have hi₂ := (List.getElem?_eq_some_iff.mp h₂).1
  have hi₃ := (List.getElem?_eq_some_iff.mp h₃).1
  apply List.ext_getElem?
  intro i
  rw [List.getElem?_map]
  by_cases hi : i < 3
  · have : i = i₁ ∨ i = i₂ ∨ i = i₃ := by omega
    rcases this with rfl | rfl | rfl
    · rw [List.getElem?_set_ne h13.symm, List.getElem?_set_ne h12.symm, List.getElem?_set_self (by simpa using hi),
        h₁, Option.map_some']
    · rw [List.getElem?_set_ne h23.symm, List.getElem?_set_self (by simpa using hi), h₂, Option.map_some']
    · rw [List.getElem?_set_self (by simpa using hi), h₃, Option.map_some']
  · rw [List.getElem?_eq_none (by simpa using hi), List.getElem?_eq_none (by omega)]
    rfl

/-- For keys with three distinct addresses, the owners are those addresses in strictly
ascending order, and the keys are a permutation of the three that sits slot by slot
with the owners: the key at slot `i` has the address of owner `i`. -/
theorem GetSortedSafeOwners_aligned (holder signer observer : String) (ah as ao : Address)
    (hh : ParseEthereumCompressedPublicKey eth holder = .ok ah)
    (hs : ParseEthereumCompressedPublicKey eth signer = .ok as)
    (ho : ParseEthereumCompressedPublicKey eth observer = .ok ao) (hhs : ah ≠ as) (hho : ah ≠ ao) (hso : as ≠ ao) :
    ∃ owners pubs, GetSortedSafeOwners eth holder signer observer = .ok (owners, pubs) ∧
      owners.Perm [eth.Hex ah, eth.Hex as, eth.Hex ao] ∧ (owners.map eth.HexToAddress).Pairwise (· < ·) ∧
      pubs.Perm [holder, signer, observer] ∧
      ∀ i, i < 3 → ∃ pub a, pubs[i]? = some pub ∧ ParseEthereumCompressedPublicKey eth pub = .ok a ∧
        owners[i]? = some (eth.Hex a) := by
  obtain ⟨owners, hown⟩ : ∃ owners, eth.SortSlice (addressLess eth) [eth.Hex ah, eth.Hex as, eth.Hex ao] = owners :=
    ⟨_, rfl⟩
  have hperm : owners.Perm [eth.Hex ah, eth.Hex as, eth.Hex ao] := hown ▸ eth.SortSlice_perm _ _
  have hlt : (owners.map eth.HexToAddress).Pairwise (· < ·) :=
    hown ▸ SortSlice_strict eth (by simp [eth.HexToAddress_Hex, hhs, hho, hso])
  have hnodup : owners.Nodup := List.Nodup.of_map _ (hlt.imp ne_of_lt)
  obtain ⟨i₁, he₁, hs₁⟩ := addressMap_slot hnodup (hperm.symm.subset (by simp) : eth.Hex ah ∈ owners)
  obtain ⟨i₂, he₂, hs₂⟩ := addressMap_slot hnodup (hperm.symm.subset (by simp) : eth.Hex as ∈ owners)
  obtain ⟨i₃, he₃, hs₃⟩ := addressMap_slot hnodup (hperm.symm.subset (by simp) : eth.Hex ao ∈ owners)
  have hslots : ∀ {i j : Nat} {a b : Address}, owners[i]? = some (eth.Hex a) → owners[j]? = some (eth.Hex b) → a ≠ b → i ≠ j := by
    rintro i j a b hi hj hab rfl
    exact hab (Hex_injective eth (Option.some.inj (hi.symm.trans hj)))
  have hHs : eth.Hex as ≠ eth.Hex ah := fun h => hhs (Hex_injective eth h).symm
  have hHo₁ : eth.Hex ao ≠ eth.Hex ah := fun h => hho (Hex_injective eth h).symm
  have hHo₂ : eth.Hex ao ≠ eth.Hex as := fun h => hso (Hex_injective eth h).symm
  let g : String → String := fun s => if s = eth.Hex ah then holder else if s = eth.Hex as then signer else observer
  have hg₁ : g (eth.Hex ah) = holder := if_pos rfl
  have hg₂ : g (eth.Hex as) = signer := by simp only [g, if_neg hHs, if_true]
  have hg₃ : g (eth.Hex ao) = observer := by simp only [g, if_neg hHo₁, if_neg hHo₂]
  have hpubs := set_three_eq_map g (by simpa using hperm.length_eq) he₁ he₂ he₃ (hslots he₁ he₂ hhs)
    (hslots he₁ he₃ hho) (hslots he₂ he₃ hso)
  rw [hg₁, hg₂, hg₃] at hpubs
  refine ⟨owners, owners.map g, ?_, hperm, hlt, by simpa [hg₁, hg₂, hg₃] using hperm.map g, fun i hi => ?_⟩
  · simp only [GetSortedSafeOwners, foldlM_ownerStep hh hs ho, ok_bind, hown, foldlM_pubStep hh hs ho, hs₁, hs₂,
      hs₃, hpubs, pure_eq_ok]
  · have hi' : i < owners.length := by simpa [hperm.length_eq] using hi
    obtain ⟨o, hoi⟩ : ∃ o, owners[i]? = some o := ⟨owners[i], List.getElem?_eq_getElem hi'⟩
    have hmem : o ∈ [eth.Hex ah, eth.Hex as, eth.Hex ao] := hperm.subset (List.getElem?_mem hoi)
    rw [List.getElem?_map, hoi, Option.map_some']
    simp only [List.mem_cons, List.mem_singleton, List.not_mem_nil, or_false] at hmem
    rcases hmem with rfl | rfl | rfl
    · exact ⟨holder, ah, by rw [hg₁], hh, rfl⟩
    · exact ⟨signer, as, by rw [hg₂], hs, rfl⟩
    · exact ⟨observer, ao, by rw [hg₃], ho, rfl⟩

theorem Address.Cmp_eq_neg_one (a b : Address) : (a.Cmp b == -1) = decide (a < b) := by
  unfold Address.Cmp
  by_cases hab : a < b
  · simp [hab]
  · by_cases he : a = b <;> simp [hab, he]

/-- An instance for running the model: a key is its own uncompressed form and its
address its big-endian value, `Hex` writes the twenty bytes, `sort.Slice` is an
insertion sort, and the hashes and packers are stand-ins. -/
def Ethereum.fixture : Ethereum where
  DecompressPubkey := fun b => .ok b
  PubkeyToAddress := fun b => ⟨beUint b % 2 ^ 160, Nat.mod_lt _ (by decide)⟩
  Hex := fun a => hexEncode (beBytes 20 a.val)
  HexToAddress := fun s => ⟨beUint ((hexDecode s.data).getD []) % 2 ^ 160, Nat.mod_lt _ (by decide)⟩
  SortSlice := fun less l => l.insertionSort fun a b => less b a = false
  Keccak256 := fun b => b
  SetString16 := fun _ => 0
  packSetupArguments := fun _ _ _ _ _ _ _ _ => []
  packSaltArguments := fun _ => []
  packSafeArguments := fun _ => []
  EthereumSafeProxyFactoryAddress := "0x"
  EthereumSafeL2Address := "0x"
  EthereumEmptyAddress := "0x"
  EthereumCompatibilityFallbackHandlerAddress := "0x"
  predeterminedSaltNonce := "0x"
  accountContractCode := "0x"
  HexToAddress_Hex := fun a => by
    ext
    simp [beUint_beBytes, Nat.mod_eq_of_lt (show a.val < 256 ^ 20 from a.isLt)]
  SortSlice_perm := fun _ l => List.perm_insertionSort _ l
  SortSlice_sorted := fun key l => by
    let r : String → String → Prop := fun a b => ((key b).Cmp (key a) == -1) = false
    have hr : ∀ a b, r a b ↔ key a ≤ key b := fun a b => by simp [r, Address.Cmp_eq_neg_one]
    haveI : IsTotal String r := ⟨fun a b => by simp only [hr]; exact le_total _ _⟩
    haveI : IsTrans String r := ⟨fun a b c hab hbc => (hr a c).mpr (((hr a b).mp hab).trans ((hr b c).mp hbc))⟩
    exact (List.sorted_insertionSort r l).imp fun h => (hr _ _).mp h

example : GetSortedSafeOwners Ethereum.fixture "03" "01" "02" =
    .ok ([Ethereum.fixture.Hex 1, Ethereum.fixture.Hex 2, Ethereum.fixture.Hex 3], ["01", "02", "03"]) := by
  rfl

theorem GetSortedSafeOwners_aligned_fixture :
    ParseEthereumCompressedPublicKey Ethereum.fixture "03" = .ok 3 ∧
      ParseEthereumCompressedPublicKey Ethereum.fixture "01" = .ok 1 ∧
      ParseEthereumCompressedPublicKey Ethereum.fixture "02" = .ok 2 ∧ (3 : Address) ≠ 1 ∧ (3 : Address) ≠ 2 ∧
      (1 : Address) ≠ 2 ∧
      ∃ owners pubs, GetSortedSafeOwners Ethereum.fixture "03" "01" "02" = .ok (owners, pubs) ∧
        owners.Perm [Ethereum.fixture.Hex 3, Ethereum.fixture.Hex 1, Ethereum.fixture.Hex 2] ∧
        (owners.map Ethereum.fixture.HexToAddress).Pairwise (· < ·) ∧ pubs.Perm ["03", "01", "02"] ∧
        ∀ i, i < 3 → ∃ pub a, pubs[i]? = some pub ∧ ParseEthereumCompressedPublicKey Ethereum.fixture pub = .ok a ∧
          owners[i]? = some (Ethereum.fixture.Hex a) :=
  have hh : ParseEthereumCompressedPublicKey Ethereum.fixture "03" = .ok 3 := rfl
  have hs : ParseEthereumCompressedPublicKey Ethereum.fixture "01" = .ok 1 := rfl
  have ho : ParseEthereumCompressedPublicKey Ethereum.fixture "02" = .ok 2 := rfl
  have h31 : (3 : Address) ≠ 1 := by decide
  have h32 : (3 : Address) ≠ 2 := by decide
  have h12 : (1 : Address) ≠ 2 := by decide
  ⟨hh, hs, ho, h31, h32, h12,
    GetSortedSafeOwners_aligned Ethereum.fixture "03" "01" "02" 3 1 2 hh hs ho h31 h32 h12⟩

theorem GetSafeAccountAddress_perm_fixture :
    (∀ s ∈ [Ethereum.fixture.Hex 1, Ethereum.fixture.Hex 2], ∃ a, s = Ethereum.fixture.Hex a) ∧
      [Ethereum.fixture.Hex 2, Ethereum.fixture.Hex 1].Perm [Ethereum.fixture.Hex 1, Ethereum.fixture.Hex 2] ∧
      GetSafeAccountAddress Ethereum.fixture [Ethereum.fixture.Hex 2, Ethereum.fixture.Hex 1] 2 =
        GetSafeAccountAddress Ethereum.fixture [Ethereum.fixture.Hex 1, Ethereum.fixture.Hex 2] 2 :=
  have hc : ∀ s ∈ [Ethereum.fixture.Hex 1, Ethereum.fixture.Hex 2], ∃ a, s = Ethereum.fixture.Hex a := by
    simp only [List.mem_cons, List.mem_singleton, List.not_mem_nil, or_false, forall_eq_or_imp, forall_eq]
    exact ⟨⟨1, rfl⟩, ⟨2, rfl⟩⟩
  have hp : [Ethereum.fixture.Hex 2, Ethereum.fixture.Hex 1].Perm [Ethereum.fixture.Hex 1, Ethereum.fixture.Hex 2] :=
    List.Perm.swap _ _ []
  ⟨hc, hp, GetSafeAccountAddress_perm Ethereum.fixture _ _ 2 hc hp⟩

/-- `GnosisSafe`; the address and the transaction hash are Go strings, that is bytes. -/
structure GnosisSafe where
  Sequence : UInt32
  Address : List UInt8
  TxHash : List UInt8
deriving DecidableEq, Repr

/-- `GnosisSafe.Marshal`: the sequence, then the address and the hash after their
lengths; a string longer than a `u16` length panics. -/
def GnosisSafe.Marshal (gs : GnosisSafe) : Except String (List UInt8) := do
  let addr ← WriteBytes gs.Address
  let hash ← WriteBytes gs.TxHash
  return WriteUint32 gs.Sequence.toNat ++ addr ++ hash

/-- `UnmarshalGnosisSafe`: what follows the hash is not read. -/
def UnmarshalGnosisSafe (extra : List UInt8) : Except String GnosisSafe := do
  let (sequence, extra) ← ReadUint32 extra
  let (addr, extra) ← ReadBytes extra
  let (hash, _) ← ReadBytes extra
  return ⟨UInt32.ofNat sequence, addr, hash⟩

/-- `UnmarshalGnosisSafe` reads back what `Marshal` writes, whatever bytes follow it;
and every input it accepts is such a record followed by bytes it ignores. -/
theorem UnmarshalGnosisSafe_Marshal :
    (∀ (gs : GnosisSafe) (b rest : List UInt8), gs.Marshal = .ok b → UnmarshalGnosisSafe (b ++ rest) = .ok gs) ∧
      ∀ (extra : List UInt8) (gs : GnosisSafe), UnmarshalGnosisSafe extra = .ok gs →
        ∃ b rest, gs.Marshal = .ok b ∧ extra = b ++ rest := by
  refine ⟨fun gs b rest h => ?_, fun extra gs h => ?_⟩
  · obtain ⟨addr, haddr, h⟩ := bind_eq_ok.mp h
    obtain ⟨hash, hhash, h⟩ := bind_eq_ok.mp h
    cases h
    have hseq : gs.Sequence.toNat < 2 ^ 32 := gs.Sequence.toNat_lt_size
    have hofNat : UInt32.ofNat gs.Sequence.toNat = gs.Sequence := UInt32.toNat.inj (UInt32.toNat_ofNat_of_lt hseq)
    simp only [UnmarshalGnosisSafe, List.append_assoc, ReadUint32_WriteUint32 hseq, ok_bind,
      ReadBytes_WriteBytes haddr, ReadBytes_WriteBytes hhash, pure_eq_ok, hofNat]
  · obtain ⟨⟨v, e₁⟩, hv, h⟩ := bind_eq_ok.mp h
    obtain ⟨⟨addr, e₂⟩, haddr, h⟩ := bind_eq_ok.mp h
    obtain ⟨⟨hash, e₃⟩, hhash, h⟩ := bind_eq_ok.mp h
    cases h
    obtain ⟨hlt, rfl⟩ := WriteUint32_ReadUint32 hv
    obtain ⟨wa, hwa, rfl⟩ := WriteBytes_ReadBytes haddr
    obtain ⟨wh, hwh, rfl⟩ := WriteBytes_ReadBytes hhash
    have hv : (UInt32.ofNat v).toNat = v := UInt32.toNat_ofNat_of_lt hlt
    refine ⟨WriteUint32 v ++ wa ++ wh, e₃, ?_, by simp⟩
    simp only [GnosisSafe.Marshal, hwa, hwh, ok_bind, hv, pure_eq_ok]

/-- A record of sequence 8760 (a year of hours), read back past a trailing byte. -/
theorem UnmarshalGnosisSafe_Marshal_trailing :
    ∃ b, (⟨8760, [0x30, 0x78, 0x61], [0x30, 0x78, 0x62]⟩ : GnosisSafe).Marshal = .ok b ∧
      UnmarshalGnosisSafe (b ++ [9]) = .ok ⟨8760, [0x30, 0x78, 0x61], [0x30, 0x78, 0x62]⟩ :=
  ⟨_, rfl, UnmarshalGnosisSafe_Marshal.1 _ _ _ rfl⟩

end safe.ethereum

import MixinSafe.Keeper.Network

namespace safe.keeper

variable (common : Common)

/-- A chain's records in write order. -/
def chainRecords (infos : List NetworkInfo) (chain : UInt8) : List NetworkInfo :=
  infos.filter (·.Chain = chain)

/-- How a chain's record follows the one written before it. -/
def Succeeds (p r : NetworkInfo) : Prop :=
  p.CreatedAt ≤ r.CreatedAt ∧ p.Height ≤ r.Height ∧ (p.Hash = r.Hash → p.Height = r.Height)

/-- A record as the chain verifiers admit it: a 64-digit hash and a fee rate in
range on a Bitcoin-family chain, a 0x hash of 64 digits on an Ethereum-family one. -/
def WellFormed (r : NetworkInfo) : Prop :=
  (common.IsBitcoinChain r.Chain ∧ r.Hash.length = 64 ∧
      bitcoinMinimumFeeRate ≤ r.Fee ∧ r.Fee ≤ bitcoinMaximumFeeRate) ∨
    (common.IsEthereumChain r.Chain ∧ ∃ h, r.Hash = "0x" ++ h ∧ h.length = 64)

/-- The invariant of the network-info table. -/
structure NetworkInv (infos : List NetworkInfo) : Prop where
  wellFormed : ∀ r ∈ infos, WellFormed common r
  chained : ∀ chain, (chainRecords infos chain).Chain' Succeeds

/-- Every record was created no later than `t`. -/
def CreatedBy (t : Nat) (infos : List NetworkInfo) : Prop := ∀ r ∈ infos, r.CreatedAt ≤ t

namespace Node

variable (node : Node)

/-- The keeper handling one network-status request: a request that panics is not
committed and leaves the store as it was. -/
def handleNetworkInfo (s : SQLite3Store) (req : Request) : SQLite3Store :=
  match node.writeNetworkInfo common s req with
  | .ok s' => s'
  | .error _ => s

/-- The keeper handling requests one after another. -/
def handleNetworkInfos (s : SQLite3Store) (reqs : List Request) : SQLite3Store :=
  reqs.foldl (node.handleNetworkInfo common) s

end Node

theorem networkInv_nil : NetworkInv common [] := ⟨by simp, fun _ => by simp [chainRecords]⟩

section Latest

variable {chain : UInt8} {t : Nat}

private theorem foldl_latestRow_filter (l : List NetworkInfo) (b : Option NetworkInfo) :
    l.foldl (SQLite3Store.latestRow chain t) b = (chainRecords l chain).foldl (SQLite3Store.latestRow chain t) b := by
  induction l generalizing b with
  | nil => rfl
  | cons r l ih =>
    by_cases hc : r.Chain = chain
    · simp [chainRecords, List.filter_cons, hc, ih]
    · simp [chainRecords, List.filter_cons, hc, SQLite3Store.latestRow, ih]

/-- Over records of the chain created by `t` in order of creation, the scan ends
on the last. -/
private theorem foldl_latestRow_sorted (l : List NetworkInfo) (b : Option NetworkInfo)
    (hl : ∀ r ∈ l, r.Chain = chain ∧ r.CreatedAt ≤ t)
    (hsorted : (b.toList ++ l).Chain' (·.CreatedAt ≤ ·.CreatedAt)) :
    l.foldl (SQLite3Store.latestRow chain t) b = (b.toList ++ l).getLast? := by
  induction l generalizing b with
  | nil => cases b <;> rfl
  | cons r l ih =>
    have hr := hl r (List.mem_cons_self r l)
    have hbr : b.all (·.CreatedAt ≤ r.CreatedAt) := by
      cases b with
      | none => rfl
      | some p => simpa using (List.chain'_cons.mp hsorted).1
    have hstep : SQLite3Store.latestRow chain t b r = some r := by
      simp [SQLite3Store.latestRow, hr.1, hr.2, hbr]
    rw [List.foldl_cons, hstep, ih (some r) (fun x hx => hl x (List.mem_cons_of_mem r hx))
      (hsorted.right_of_append)]
    cases b <;> simp [List.getLast?_append]

/-- On a table whose records are all created by `t`, in order of creation within
each chain, the latest record is the chain's last. -/
theorem ReadLatestNetworkInfo_eq_getLast (s : SQLite3Store) (hby : CreatedBy t s.networkInfos)
    (hsorted : (chainRecords s.networkInfos chain).Chain' (·.CreatedAt ≤ ·.CreatedAt)) :
    s.ReadLatestNetworkInfo chain t = (chainRecords s.networkInfos chain).getLast? := by
  rw [SQLite3Store.ReadLatestNetworkInfo, foldl_latestRow_filter]
  refine foldl_latestRow_sorted _ none (fun r hr => ?_) hsorted
  have hr' := List.mem_filter.mp hr
  exact ⟨of_decide_eq_true hr'.2, hby r hr'.1⟩

end Latest

namespace Node

variable {common} {node : Node} {info : NetworkInfo} {old : Option NetworkInfo}

/-- An accepted Bitcoin-family record has a 64-digit hash, a fee rate in range, and
the height of the latest record when it repeats that record's hash. -/
theorem verifyBitcoinNetworkInfo_true (h : node.verifyBitcoinNetworkInfo info old = .ok true) :
    info.Hash.length = 64 ∧ bitcoinMinimumFeeRate ≤ info.Fee ∧ info.Fee ≤ bitcoinMaximumFeeRate ∧
      ∀ o ∈ old, o.Hash = info.Hash → o.Height = info.Height := by
  unfold verifyBitcoinNetworkInfo at h
  by_cases hl : info.Hash.length = 64
  swap; · simp [hl] at h
  by_cases hh : old.any (·.Hash = info.Hash)
  · simp [hl, hh, ite_eq_iff] at h
    refine ⟨hl, h.2.1, h.2.2, fun o ho _ => ?_⟩
    rw [Option.mem_def] at ho
    simpa [ho] using h.1
  · cases hb : node.RPCGetBitcoinBlock info.Chain info.Hash with
    | error e =>
      simp only [hl, hh, hb, Except.mapError, ne_eq, not_true_eq_false, if_false, Bool.false_eq_true, ok_bind,
        error_bind] at h
      cases h
    | ok b =>
      cases b with
      | none =>
        simp only [hl, hh, hb, Except.mapError, ne_eq, not_true_eq_false, if_false, Bool.false_eq_true, ok_bind,
          throw_eq_error, error_bind] at h
        cases h
      | some block =>
      simp [hl, hh, hb, Except.mapError, ite_eq_iff] at h
      refine ⟨hl, h.2.2.1, h.2.2.2, fun o ho he => ?_⟩
      rw [Option.mem_def] at ho
      simp [ho, he] at hh

/-- An accepted Ethereum-family record has a 66-character hash, and the height of
the latest record when it repeats that record's hash. -/
theorem verifyEthereumNetworkInfo_true (h : node.verifyEthereumNetworkInfo info old = .ok true) :
    info.Hash.length = 66 ∧ ∀ o ∈ old, o.Hash = info.Hash → o.Height = info.Height := by
  unfold verifyEthereumNetworkInfo at h
  by_cases hl : info.Hash.length = 66
  swap; · simp [hl] at h
  by_cases hh : old.any (·.Hash = info.Hash)
  · simp [hl, hh, ite_eq_iff] at h
    refine ⟨hl, fun o ho _ => ?_⟩
    rw [Option.mem_def] at ho
    simpa [ho] using h
  · cases hb : node.RPCGetEthereumBlock info.Chain info.Hash with
    | error e =>
      simp only [hl, hh, hb, Except.mapError, ne_eq, not_true_eq_false, if_false, Bool.false_eq_true, ok_bind,
        error_bind] at h
      cases h
    | ok b =>
      cases b with
      | none =>
        simp only [hl, hh, hb, Except.mapError, ne_eq, not_true_eq_false, if_false, Bool.false_eq_true, ok_bind,
          throw_eq_error, error_bind] at h
        cases h
      | some block =>
      simp [hl, hh, hb, Except.mapError, ite_eq_iff] at h
      refine ⟨hl, fun o ho he => ?_⟩
      rw [Option.mem_def] at ho
      simp [ho, he] at hh

private theorem verified_tail {v : Except String Bool} {g : String → String} {s s' : SQLite3Store}
    {info : NetworkInfo} {id : String}
    (h : (v.mapError g >>= fun valid => if (!valid) = true then Except.ok (s.failRequest id)
      else Except.ok (s.WriteNetworkInfoFromRequest info id)) = .ok s') :
    s' = s.failRequest id ∨ v = .ok true ∧ s' = s.WriteNetworkInfoFromRequest info id := by
  cases v with
  | error e => cases h
  | ok b => cases b <;> simp [Except.mapError] at h <;> simp [h]

/-- What a handled network-status request writes: nothing but the request's
failure, or one well-formed record of the request that is not from the request of
the chain's latest record, not below it, and of its height when it repeats its hash. -/
theorem writeNetworkInfo_ok {s s' : SQLite3Store} {req : Request} (h : node.writeNetworkInfo common s req = .ok s') :
    s' = s.failRequest req.Id ∨
      ∃ extra info, req.ExtraBytes = .ok extra ∧ info.Chain = extra.headD 0 ∧
        info.Height = BigEndianUint64 (slice extra 9 17) ∧ info.CreatedAt = req.CreatedAt ∧
        s' = s.WriteNetworkInfoFromRequest info req.Id ∧
        WellFormed common info ∧ ∀ old, s.ReadLatestNetworkInfo info.Chain req.CreatedAt = some old →
          old.RequestId ≠ req.Id ∧ old.Height ≤ info.Height ∧ (old.Hash = info.Hash → old.Height = info.Height) := by
  unfold writeNetworkInfo at h
  by_cases hrole : req.Role = common.RequestRoleObserver
  swap
  · simp only [hrole, ne_eq, not_false_eq_true, if_true, throw_eq_error, error_bind] at h
    cases h
  cases hx : req.ExtraBytes with
  | error e =>
    simp only [hrole, hx, ne_eq, not_true_eq_false, if_false, ok_bind, pure_eq_ok, error_bind] at h
    cases h
  | ok extra =>
  simp only [hrole, hx, ne_eq, not_true_eq_false, if_false, ok_bind, pure_eq_ok] at h
  generalize hchain : extra.headD 0 = chain at h
  generalize hold : s.ReadLatestNetworkInfo chain req.CreatedAt = old at h
  by_cases hlen : extra.length < 17
  · simp only [hlen, if_true, Except.ok.injEq] at h
    exact .inl h.symm
  by_cases hid : old.any (·.RequestId = req.Id)
  · simp only [hlen, hid, if_true, if_false, pure_eq_ok, ok_bind, Except.ok.injEq] at h
    exact .inl h.symm
  by_cases hlow : old.any (·.Height > BigEndianUint64 (slice extra 9 17))
  · simp only [hlen, hid, hlow, Bool.false_eq_true, if_true, if_false, pure_eq_ok, ok_bind, Except.ok.injEq] at h
    exact .inl h.symm
  by_cases hc : chain = common.SafeCurveChain req.Curve
  swap; · simp [hlen, hid, hlow, hc] at h
  have hprev : ∀ o, old = some o → o.RequestId ≠ req.Id ∧ o.Height ≤ BigEndianUint64 (slice extra 9 17) := by
    rintro o rfl
    simp only [Option.any_some, decide_eq_true_eq, gt_iff_lt] at hid hlow
    exact ⟨hid, Nat.le_of_not_lt hlow⟩
  subst hc
  simp only [hlen, hid, hlow, Bool.false_eq_true, if_false, not_true_eq_false, ite_not, ok_bind, pure_eq_ok] at h
  by_cases hb : common.IsBitcoinChain (common.SafeCurveChain req.Curve)
  · simp only [hb, if_true] at h
    rcases verified_tail h with h | ⟨hv, rfl⟩
    · exact .inl h
    obtain ⟨h64, hmin, hmax, hhash⟩ := verifyBitcoinNetworkInfo_true hv
    refine .inr ⟨extra, _, rfl, hchain.symm, rfl, rfl, rfl, .inl ⟨hb, h64, hmin, hmax⟩, fun o ho => ?_⟩
    have ho' : old = some o := by rw [← hold]; exact ho
    exact ⟨(hprev o ho').1, (hprev o ho').2, hhash o ho'⟩
  by_cases he : common.IsEthereumChain (common.SafeCurveChain req.Curve)
  · simp only [hb, he, if_true, if_false] at h
    rcases verified_tail h with h | ⟨hv, rfl⟩
    · exact .inl h
    obtain ⟨h66, hhash⟩ := verifyEthereumNetworkInfo_true hv
    have h64 : (hexEncode (extra.drop 17)).length = 64 := by
      rw [String.length_append] at h66
      exact Nat.add_left_cancel (h66.trans rfl : 2 + _ = 2 + 64)
    refine .inr ⟨extra, _, rfl, hchain.symm, rfl, rfl, rfl, .inr ⟨he, _, rfl, h64⟩, fun o ho => ?_⟩
    have ho' : old = some o := by rw [← hold]; exact ho
    exact ⟨(hprev o ho').1, (hprev o ho').2, hhash o ho'⟩
  simp only [hb, he, if_false, Except.ok.injEq] at h
  exact .inl h.symm

end Node

theorem NetworkInv.append {infos : List NetworkInfo} {info : NetworkInfo} (hinv : NetworkInv common infos)
    (hwf : WellFormed common info) (hlast : ∀ p ∈ (chainRecords infos info.Chain).getLast?, Succeeds p info) :
    NetworkInv common (infos ++ [info]) where
  wellFormed r hr := by
    rcases List.mem_append.mp hr with hr | hr
    · exact hinv.wellFormed r hr
    · rw [List.mem_singleton.mp hr]
      exact hwf
  chained c := by
    by_cases hc : info.Chain = c
    · subst hc
      simp only [chainRecords, List.filter_append, List.filter_singleton, decide_True, cond_true]
      refine (hinv.chained _).append (List.chain'_singleton _) fun p hp q hq => ?_
      rw [List.head?_cons, Option.mem_def, Option.some_inj] at hq
      exact hq ▸ hlast p hp
    · simpa [chainRecords, List.filter_append, hc] using hinv.chained c

section Run

variable {common} (node : Node)

/-- One request keeps the invariant, given that it is created no earlier than the
records of the table. -/
theorem handleNetworkInfo_inv {s : SQLite3Store} {req : Request} {t : Nat}
    (hinv : NetworkInv common s.networkInfos) (hby : CreatedBy t s.networkInfos) (ht : t ≤ req.CreatedAt) :
    NetworkInv common (node.handleNetworkInfo common s req).networkInfos ∧
      CreatedBy req.CreatedAt (node.handleNetworkInfo common s req).networkInfos ∧
      s.networkInfos <+: (node.handleNetworkInfo common s req).networkInfos := by
  have hby' : CreatedBy req.CreatedAt s.networkInfos := fun r hr => (hby r hr).trans ht
  unfold Node.handleNetworkInfo
  cases hw : node.writeNetworkInfo common s req with
  | error e => exact ⟨hinv, hby', List.prefix_refl _⟩
  | ok s' =>
    rcases Node.writeNetworkInfo_ok hw with rfl | ⟨_, info, -, -, -, hat, rfl, hwf, hold⟩
    · exact ⟨hinv, hby', List.prefix_refl _⟩
    simp only [SQLite3Store.WriteNetworkInfoFromRequest_networkInfos]
    refine ⟨hinv.append common hwf fun p hp => ?_, fun r hr => ?_, List.prefix_append _ _⟩
    · have hmem := (List.mem_filter.mp (List.mem_of_getLast?_eq_some hp)).1
      rw [← ReadLatestNetworkInfo_eq_getLast s hby' ((hinv.chained _).imp fun _ _ h => h.1)] at hp
      obtain ⟨-, hle, hhash⟩ := hold p hp
      exact ⟨hat ▸ hby' p hmem, hle, hhash⟩
    · rcases List.mem_append.mp hr with hr | hr
      · exact hby' r hr
      · rw [List.mem_singleton.mp hr, hat]

/-- Requests handled in order of creation, after every record of the table, keep
the invariant and only add records. -/
theorem handleNetworkInfos_inv (reqs : List Request) (s : SQLite3Store) (t : Nat)
    (hinv : NetworkInv common s.networkInfos) (hby : CreatedBy t s.networkInfos)
    (hsorted : List.Chain (· ≤ ·) t (reqs.map (·.CreatedAt))) :
    NetworkInv common (node.handleNetworkInfos common s reqs).networkInfos ∧
      s.networkInfos <+: (node.handleNetworkInfos common s reqs).networkInfos := by
  induction reqs generalizing s t with
  | nil => exact ⟨hinv, List.prefix_refl _⟩
  | cons req reqs ih =>
    rw [List.map_cons, List.chain_cons] at hsorted
    obtain ⟨hinv', hby', hpre⟩ := handleNetworkInfo_inv node hinv hby hsorted.1
    obtain ⟨hinv'', hpre'⟩ := ih _ _ hinv' hby' hsorted.2
    exact ⟨hinv'', hpre.trans hpre'⟩

end Run

/-- The request repeats the request of its chain's latest record, or reports a
height below that record's. -/
def Stale (s : SQLite3Store) (req : Request) : Prop :=
  ∃ extra old, req.ExtraBytes = .ok extra ∧ 17 ≤ extra.length ∧
    s.ReadLatestNetworkInfo (extra.headD 0) req.CreatedAt = some old ∧
    (old.RequestId = req.Id ∨ BigEndianUint64 (slice extra 9 17) < old.Height)

theorem handleNetworkInfo_of_stale {node : Node} {s : SQLite3Store} {req : Request} (hstale : Stale s req) :
    (node.handleNetworkInfo common s req).networkInfos = s.networkInfos := by
  obtain ⟨extra, old, hx, -, hold, hstale⟩ := hstale
  unfold Node.handleNetworkInfo
  cases hw : node.writeNetworkInfo common s req with
  | error e => rfl
  | ok s' =>
    rcases Node.writeNetworkInfo_ok hw with rfl | ⟨extra', info, hx', hchain, hheight, -, -, -, hprev⟩
    · rfl
    obtain rfl : extra' = extra := Except.ok.inj (hx'.symm.trans hx)
    obtain ⟨hne, hle, -⟩ := hprev old (hchain ▸ hold)
    rcases hstale with hid | hlow
    · exact absurd hid hne
    · rw [hheight] at hle
      omega

/-- Over requests handled in order of creation from a table that keeps the
invariant, each chain's records climb in height, keep a repeated hash's height, and
passed their chain's verifier; the table only grows; and a request that repeats
the latest record's request or reports a lower height writes no record. -/
theorem handleNetworkInfos_height_monotone (common : Common) (node : Node) (s : SQLite3Store) (t : Nat)
    (reqs : List Request) (hinv : NetworkInv common s.networkInfos) (hby : CreatedBy t s.networkInfos)
    (hsorted : List.Chain (· ≤ ·) t (reqs.map (·.CreatedAt))) :
    NetworkInv common (node.handleNetworkInfos common s reqs).networkInfos ∧
      s.networkInfos <+: (node.handleNetworkInfos common s reqs).networkInfos ∧
      ∀ s' req, Stale s' req → (node.handleNetworkInfo common s' req).networkInfos = s'.networkInfos :=
  ⟨(handleNetworkInfos_inv node reqs s t hinv hby hsorted).1, (handleNetworkInfos_inv node reqs s t hinv hby hsorted).2,
    fun _ _ => handleNetworkInfo_of_stale common⟩

/-- A keeper whose RPC nodes report every block at height 100 with 6 confirmations. -/
def Node.fixture : Node where
  RPCGetBitcoinBlock := fun _ _ => .ok (some ⟨100, 6⟩)
  RPCGetEthereumBlock := fun _ _ => .ok (some ⟨100, 6⟩)

/-- Two Bitcoin network-status requests at height 100, then a replay of the second. -/
def networkRequests : List Request :=
  [⟨"r1", 3, 1, hexEncode (1 :: beBytes 8 10 ++ beBytes 8 100 ++ List.replicate 32 0xab), 1⟩,
    ⟨"r2", 3, 1, hexEncode (1 :: beBytes 8 12 ++ beBytes 8 100 ++ List.replicate 32 0xab), 2⟩,
    ⟨"r2", 3, 1, hexEncode (1 :: beBytes 8 20 ++ beBytes 8 100 ++ List.replicate 32 0xab), 3⟩]

example : (Node.fixture.handleNetworkInfos Common.fixture .empty networkRequests).networkInfos.map (·.Fee) =
    [10, 12] := by rfl

theorem handleNetworkInfos_height_monotone_fixture :
    NetworkInv Common.fixture SQLite3Store.empty.networkInfos ∧ CreatedBy 0 SQLite3Store.empty.networkInfos ∧
      List.Chain (· ≤ ·) 0 (networkRequests.map (·.CreatedAt)) ∧
      (NetworkInv Common.fixture
          (Node.fixture.handleNetworkInfos Common.fixture SQLite3Store.empty networkRequests).networkInfos ∧
        SQLite3Store.empty.networkInfos <+:
          (Node.fixture.handleNetworkInfos Common.fixture SQLite3Store.empty networkRequests).networkInfos ∧
        ∀ s' req, Stale s' req →
          (Node.fixture.handleNetworkInfo Common.fixture s' req).networkInfos = s'.networkInfos) :=
  have hinv : NetworkInv Common.fixture SQLite3Store.empty.networkInfos := networkInv_nil _
  have hby : CreatedBy 0 SQLite3Store.empty.networkInfos := fun _ h => absurd h (List.not_mem_nil _)
  have hsorted : List.Chain (· ≤ ·) 0 (networkRequests.map (·.CreatedAt)) := by simp [networkRequests]
  ⟨hinv, hby, hsorted,
    handleNetworkInfos_height_monotone Common.fixture Node.fixture SQLite3Store.empty 0 networkRequests hinv hby hsorted⟩

end safe.keeper

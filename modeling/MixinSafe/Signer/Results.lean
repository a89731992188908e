import MixinSafe.Signer.Node

namespace safe.signer

namespace Node

variable {common : Common} {node : Node} {signers : List (String × String)}

/-- How many of the members `l` reported the hex of `s`. -/
def reportCount (signers : List (String × String)) (l : List String) (s : List UInt8) : Nat :=
  (l.filter fun m => lookup signers m = some (hexEncode s)).length

/-- The first of the members `l` with a result. -/
def firstReporter (signers : List (String × String)) (l : List String) : Option String :=
  l.find? fun m => (lookup signers m).isSome

private theorem reportCount_cons (m : String) (l : List String) (s : List UInt8) :
    reportCount signers (m :: l) s = (if lookup signers m = some (hexEncode s) then 1 else 0) + reportCount signers l s := by
  by_cases h : lookup signers m = some (hexEncode s) <;> simp [reportCount, List.filter_cons, h, Nat.add_comm]

/-- A member is counted for a fixed candidate when it reported the candidate's
hex, which is empty exactly for the empty candidate. -/
theorem signStep_some (s₀ : List UInt8) (m : String) (c : Nat) :
    signStep signers (c, some s₀) m =
      .ok (if lookup signers m = some (hexEncode s₀) ∧ s₀ ≠ [] then c + 1 else c, some s₀) := by
  unfold signStep
  cases lookup signers m with
  | none => simp
  | some e =>
    by_cases he : e = hexEncode s₀
    · subst he
      by_cases h₀ : s₀ = [] <;> simp [h₀, hexEncode_eq_empty_iff]
    · simp [he, Ne.symm he]

/-- The first reporter fixes the candidate by decoding its result. -/
theorem signStep_none_of_lookup {e : String} (m : String) (c : Nat) (hm : lookup signers m = some e) :
    signStep signers (c, none) m = (DecodeHexOrPanic e).map
      fun s₀ => (if e = hexEncode s₀ ∧ s₀ ≠ [] then c + 1 else c, some s₀) := by
  cases hd : DecodeHexOrPanic e with
  | error err => simp [signStep, hm, hd, Except.map]
  | ok s₀ =>
    by_cases he : e = hexEncode s₀
    · subst he
      by_cases h₀ : s₀ = [] <;> simp [signStep, hm, hd, Except.map, h₀, hexEncode_eq_empty_iff]
    · simp [signStep, hm, hd, Except.map, he, Ne.symm he]

/-- Once the candidate is fixed, the loop counts the members that reported its
hex, and none when it is empty. -/
theorem foldlM_signStep_some (s₀ : List UInt8) (l : List String) (c : Nat) :
    l.foldlM (signStep signers) (c, some s₀) =
      .ok (c + if s₀ = [] then 0 else reportCount signers l s₀, some s₀) := by
  induction l generalizing c with
  | nil => simp [reportCount]
  | cons m l ih =>
    simp only [List.foldlM_cons, signStep_some, ok_bind, ih, reportCount_cons]
    by_cases h₀ : s₀ = [] <;> by_cases hm : lookup signers m = some (hexEncode s₀) <;> simp [h₀, hm, Nat.add_assoc]

/-- The sign loop of `verifySessionSignerResults` as a whole: the candidate is the
first reporter's result, decoded, and the count is of the members that reported
its hex. -/
theorem foldlM_signStep_none (l : List String) (c : Nat) :
    l.foldlM (signStep signers) (c, none) =
      match firstReporter signers l with
      | none => .ok (c, none)
      | some m₀ => (DecodeHexOrPanic ((lookup signers m₀).getD "")).map
          fun s₀ => (c + if s₀ = [] then 0 else reportCount signers l s₀, some s₀) := by
  induction l generalizing c with
  | nil => rfl
  | cons m l ih =>
    cases hm : lookup signers m with
    | none =>
      have hstep : signStep signers (c, none) m = .ok (c, none) := by simp [signStep, hm]
      have hskip : firstReporter signers (m :: l) = firstReporter signers l := by
        simp [firstReporter, List.find?_cons, hm]
      have hcount : ∀ s₀, reportCount signers (m :: l) s₀ = reportCount signers l s₀ := by
        simp [reportCount_cons, hm]
      simp only [List.foldlM_cons, hstep, ok_bind, ih, hskip, hcount]
    | some e =>
      have hfirst : firstReporter signers (m :: l) = some m := by simp [firstReporter, List.find?_cons, hm]
      rw [List.foldlM_cons, signStep_none_of_lookup m c hm, hfirst]
      simp only [hm, Option.getD_some]
      cases DecodeHexOrPanic e with
      | error err => rfl
      | ok s₀ =>
        simp only [Except.map, ok_bind, foldlM_signStep_some, reportCount_cons, hm, Option.some.injEq]
        by_cases h₀ : s₀ = [] <;> by_cases he : e = hexEncode s₀ <;> simp [h₀, he, Nat.add_assoc]

/-- The keygen verdict: every member reported the session's public key, the node
itself among them. -/
theorem keygen_finished_iff (session : Session) (hself : node.id ∈ node.members) :
    (node.members.filter (node.keygenCounted session signers)).length ≥ node.members.length ↔
      ∀ m ∈ node.members, lookup signers m = some session.Public := by
  calc _ ↔ (node.members.filter (node.keygenCounted session signers)).length = node.members.length :=
        ⟨fun h => le_antisymm (List.length_filter_le _ _) h, fun h => h.ge⟩
    _ ↔ ∀ m ∈ node.members, node.keygenCounted session signers m = true := List.filter_length_eq_length
    _ ↔ _ := by
      refine ⟨fun h m hm => ?_, fun h m hm => by simp [keygenCounted, h m hm, h node.id hself]⟩
      have hc := h m hm
      simp only [keygenCounted] at hc
      split at hc
      · rename_i pub hpub
        rw [hpub, (of_decide_eq_true hc).1]
      · cases hc

/-- A sign session of session `s1` on curve 1. -/
def signSession : Session := ⟨"s1", "", 0, 2, 1, "", "", RequestStateInitial, 0, none⟩

theorem verifySessionSignerResults_first_reporter_latch :
    Node.fixture.verifySessionSignerResults Common.fixture signSession
        [("m1", "aa"), ("m2", "bb"), ("m3", "bb"), ("m4", "bb")] = .ok (false, some [0xaa]) ∧
      [(0xbb : UInt8)] ≠ [] ∧
      Node.fixture.threshold < reportCount [("m1", "aa"), ("m2", "bb"), ("m3", "bb"), ("m4", "bb")]
        Node.fixture.members [0xbb] ∧
      { Node.fixture with members := ["m4", "m3", "m2", "m1"] }.verifySessionSignerResults Common.fixture
        signSession [("m1", "aa"), ("m2", "bb"), ("m3", "bb"), ("m4", "bb")] = .ok (true, some [0xbb]) :=
  ⟨rfl, by decide, by decide, rfl⟩

/-- What `verifySessionSignerResults` decides, for any results map: a keygen is
finished exactly when every member reported the session's public key. A signature
is accepted only for a non-empty candidate that more than `threshold` members
reported; the candidate is the first reporter's result, and when that is the hex
of `s` the signature is accepted exactly when more than `threshold` members
reported the hex of a non-empty `s`. With no reporter nothing is accepted. -/
theorem verifySessionSignerResults_spec (common : Common) (node : Node) (session : Session)
    (signers : List (String × String)) (hself : node.id ∈ node.members) :
    (session.Operation = common.OperationTypeKeygenInput →
      node.verifySessionSignerResults common session signers =
        .ok (decide (∀ m ∈ node.members, lookup signers m = some session.Public), none)) ∧
    (session.Operation = common.OperationTypeSignInput →
      (∀ sig, node.verifySessionSignerResults common session signers = .ok (true, sig) →
        ∃ s, sig = some s ∧ s ≠ [] ∧ node.threshold < reportCount signers node.members s) ∧
      (∀ m s, firstReporter signers node.members = some m → lookup signers m = some (hexEncode s) →
        node.verifySessionSignerResults common session signers =
          .ok (decide (s ≠ [] ∧ node.threshold < reportCount signers node.members s), some s)) ∧
      (firstReporter signers node.members = none →
        node.verifySessionSignerResults common session signers = .ok (false, none))) := by
  refine ⟨fun hk => ?_, fun hs => ?_⟩
  · simp only [verifySessionSignerResults, hk, if_true, pure_eq_ok, Except.ok.injEq, Prod.mk.injEq, and_true]
    exact decide_eq_decide.mpr (keygen_finished_iff session hself)
  have hverify : node.verifySessionSignerResults common session signers =
      (node.members.foldlM (signStep signers) (0, none)).map fun r => (decide (r.1 > node.threshold), r.2) := by
    simp only [verifySessionSignerResults, hs, common.inputs_ne.symm, if_false, if_true]
    cases node.members.foldlM (signStep signers) (0, none) <;> rfl
  rw [hverify, foldlM_signStep_none]
  refine ⟨fun sig h => ?_, fun m s hm he => ?_, fun hnone => by simp [hnone, Except.map]⟩
  · cases hm : firstReporter signers node.members with
    | none => simp [hm, Except.map] at h
    | some m =>
      simp only [hm] at h
      cases hd : DecodeHexOrPanic ((lookup signers m).getD "") with
      | error e => simp [hd, Except.map] at h
      | ok s₀ =>
        by_cases h₀ : s₀ = [] <;> simp [hd, h₀, Except.map] at h
        exact ⟨s₀, h.2.symm, h₀, h.1⟩
  · by_cases h₀ : s = [] <;> simp [hm, he, h₀, Except.map]

/-- Members `m1` and `m2` report `bb` and `m3` reports `aa`: the first reporter's `bb`
is accepted, reported by two members above the threshold of one. -/
theorem verifySessionSignerResults_spec_reporters :
    Node.fixture.id ∈ Node.fixture.members ∧
      (signSession.Operation = Common.fixture.OperationTypeSignInput →
        Node.fixture.verifySessionSignerResults Common.fixture signSession [("m1", "bb"), ("m2", "bb"), ("m3", "aa")] =
          .ok (true, some [0xbb])) :=
  have hself : Node.fixture.id ∈ Node.fixture.members := by decide
  ⟨hself, fun hs => (((verifySessionSignerResults_spec Common.fixture Node.fixture signSession
    [("m1", "bb"), ("m2", "bb"), ("m3", "aa")] hself).2 hs).2.1 "m1" [0xbb] rfl rfl).trans rfl⟩

end Node

end safe.signer

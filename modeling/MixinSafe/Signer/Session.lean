import MixinSafe.Signer.Framing

namespace safe.signer

/-- `MPCFirstMessageRound`. -/
def MPCFirstMessageRound : Nat := 2

/-- The node's state at run time: the channel of each session, keyed by the hex of its
id, with the messages sent to it in order (`node.sessions`); the ids of the operations
queued (`node.operations`); the operations started, in order; and the frames queued to
peers by `network.QueueMessage`. -/
structure Runtime where
  sessions : String → List Message
  operations : List String
  started : List Operation
  outbox : List (String × List UInt8)

namespace Runtime

/-- The runtime of a node that has just booted. -/
def empty : Runtime := ⟨fun _ => [], [], [], []⟩

variable (rt : Runtime)

/-- `getSession`: the channel of a session, by the hex of its id; a channel the node
has not made yet is empty. -/
def getSession (sessionId : List UInt8) : List Message := rt.sessions (hexEncode sessionId)

/-- `node.getSession(sessionId) <- msg`. -/
def send (sessionId : List UInt8) (msg : Message) : Runtime :=
  { rt with sessions := Function.update rt.sessions (hexEncode sessionId) (rt.getSession sessionId ++ [msg]) }

/-- `queueOperation`: an operation whose id was queued before is dropped, any other is
marked and started. -/
def queueOperation (op : Operation) : Runtime :=
  if op.Id ∈ rt.operations then rt
  else { rt with operations := rt.operations ++ [op.Id], started := rt.started ++ [op] }

/-- `network.QueueMessage(ctx, peer, rmb)`. -/
def QueueMessage (peer : String) (rmb : List UInt8) : Runtime := { rt with outbox := rt.outbox ++ [(peer, rmb)] }

@[simp] theorem send_operations (sid : List UInt8) (msg : Message) : (rt.send sid msg).operations = rt.operations := rfl
@[simp] theorem send_started (sid : List UInt8) (msg : Message) : (rt.send sid msg).started = rt.started := rfl
@[simp] theorem send_outbox (sid : List UInt8) (msg : Message) : (rt.send sid msg).outbox = rt.outbox := rfl
@[simp] theorem QueueMessage_operations (peer : String) (rmb : List UInt8) :
    (rt.QueueMessage peer rmb).operations = rt.operations := rfl
@[simp] theorem QueueMessage_started (peer : String) (rmb : List UInt8) :
    (rt.QueueMessage peer rmb).started = rt.started := rfl

/-- A message sent to a session lands at the end of that session's channel only. -/
theorem getSession_send (sid sid' : List UInt8) (msg : Message) :
    (rt.send sid msg).getSession sid' = if sid' = sid then rt.getSession sid ++ [msg] else rt.getSession sid' := by
  simp only [getSession, send]
  split_ifs with h
  · rw [h, Function.update_same]
  · exact Function.update_noteq (hexEncode_injective.ne h) _ _

/-- The bookkeeping of `queueOperation`: the operations started are those whose ids
are marked, in the same order, and no id is marked twice. -/
structure Valid : Prop where
  started_ids : rt.started.map (·.Id) = rt.operations
  nodup : rt.operations.Nodup

theorem empty_valid : empty.Valid := ⟨rfl, List.nodup_nil⟩

variable {rt}

theorem Valid.send (h : rt.Valid) (sid : List UInt8) (msg : Message) : (rt.send sid msg).Valid :=
  ⟨h.started_ids, h.nodup⟩

theorem Valid.QueueMessage (h : rt.Valid) (peer : String) (rmb : List UInt8) : (rt.QueueMessage peer rmb).Valid :=
  ⟨h.started_ids, h.nodup⟩

theorem Valid.queueOperation (h : rt.Valid) (op : Operation) : (rt.queueOperation op).Valid := by
  unfold Runtime.queueOperation
  split_ifs with hmem
  · exact h
  · exact ⟨by simp [h.started_ids], h.nodup.append (List.nodup_singleton _) (List.disjoint_singleton.mpr hmem)⟩

/-- `queueOperation` starts nothing but the operation it is given, after those
started before. -/
theorem queueOperation_started (rt : Runtime) (op : Operation) :
    ∃ l, (rt.queueOperation op).started = rt.started ++ l ∧ ∀ op' ∈ l, op' = op := by
  unfold Runtime.queueOperation
  split_ifs
  · exact ⟨[], by simp, by simp⟩
  · exact ⟨[op], rfl, by simp⟩

end Runtime

/-- A round of one of the two loops that share the runtime: `acceptIncomingMessages`
on a frame from a peer, read against the store as it is then, or `loopInitialSessions`
queueing the operations of the `Initial` sessions the store lists. -/
inductive Round where
  | incoming (s : SQLite3Store) (peer : String) (msb : List UInt8)
  | initial (sessions : List Operation)

/-- The operations a round may start: one the store lists for `loopInitialSessions`,
or the operation of a session the store holds as `Initial`, with its hex extra decoded. -/
def Round.Starts : Round → Operation → Prop
  | .incoming s _ _, op => ∃ r, s.ReadSession op.Id = some r ∧ r.State = RequestStateInitial ∧
      op.«Type» = r.Operation ∧ op.Curve = r.Curve ∧ op.Public = r.Public ∧ DecodeHexOrPanic r.Extra = .ok op.Extra
  | .initial ops, op => op ∈ ops

/-- The MPC library's handler of one session (`protocol.NewMultiHandler`): the state an
accepted message moves, and the result it gives once its outgoing channel is closed. -/
structure MultiHandler (σ α : Type) where
  Accept : σ → Message → σ
  Result : σ → Except String α

/-- What the select of `handlerLoop` takes in one round. -/
inductive HandlerEvent where
  /-- A message of the handler to send, `none` once its channel is closed. -/
  | listen (msg : Option Message)
  /-- A message from the session's channel. -/
  | incoming (msg : Message)
  /-- `time.After(timeout)` fires. -/
  | timeout

namespace Node

variable (node : Node) (P : Protocol)

/-- One round of the loop of `acceptIncomingMessages` on a frame `msb` from `peer`,
read against the store as it is then: a message `acceptIncomingMessage` hands over goes
to its session's channel. A first-round message then reads its session by the UUID of
the id, which `uuid.Must` requires to be 16 bytes: the operation of an `Initial`
session is queued, and for any other session the peer is answered with the message
`{SSID: sessionId, From: node.id}`, whose `To` is the peer (`Message` does not keep
it). -/
def acceptIncomingMessagesRound (s : SQLite3Store) (rt : Runtime) (peer : String) (msb : List UInt8) :
    Except String Runtime := do
  let some (sessionId, msg) ← node.acceptIncomingMessage P peer msb | return rt
  let rt := rt.send sessionId msg
  if msg.RoundNumber ≠ MPCFirstMessageRound then return rt
  let uid ← (UUID.FromBytes sessionId).mapError ("panic: " ++ ·)
  let some r := s.ReadSession uid.String | return rt
  if r.State = RequestStateInitial then
    let extra ← DecodeHexOrPanic r.Extra
    return rt.queueOperation ⟨r.Id, r.Operation, r.Curve, r.Public, extra⟩
  else
    let rmb ← marshalSessionMessage P sessionId ⟨some sessionId, node.id, 0⟩
    return rt.QueueMessage peer rmb

/-- One round of either loop. -/
def runRound (rt : Runtime) : Round → Except String Runtime
  | .incoming s peer msb => node.acceptIncomingMessagesRound P s rt peer msb
  | .initial ops => .ok (ops.foldl Runtime.queueOperation rt)

/-- The rounds of the two loops, in the order the mutex lets them through; a panic
stops the node. -/
def run (rt : Runtime) (rounds : List Round) : Except String Runtime := rounds.foldlM (node.runRound P) rt

/-- `handlerLoop` over the rounds its select takes, from the handler state `st` with
the frames `out` queued so far: the outcome once a round ends the loop, `none` while it
still runs, and the frames queued. Each message of the handler is framed with the
session id and queued to every member it is for (an error of `QueueMessage` is only
logged); a message from the session's channel whose `SSID` is the session id ends the
loop as expired, and any other is accepted by the handler. -/
def handlerLoop {σ α : Type} (H : MultiHandler σ α) (sessionId : List UInt8) :
    σ → List (String × List UInt8) → List HandlerEvent →
      Except String (Option (Except String α) × List (String × List UInt8))
  | _, out, [] => .ok (none, out)
  | st, out, .listen none :: _ => .ok (some (H.Result st), out)
  | st, out, .listen (some msg) :: evs => do
    let msb ← marshalSessionMessage P sessionId msg
    handlerLoop H sessionId st (out ++ (node.members.filter (P.IsFor msg)).map (·, msb)) evs
  | st, out, .incoming msg :: evs =>
    if sessionId = msg.SSID.getD [] then
      .ok (some (.error ("node.handlerLoop(" ++ hexEncode sessionId ++ ") expired from " ++ msg.From)), out)
    else handlerLoop H sessionId (H.Accept st msg) out evs
  | _, out, .timeout :: _ => .ok (some (.error ("node.handlerLoop(" ++ hexEncode sessionId ++ ") timeout")), out)

variable {node P} {s : SQLite3Store} {rt rt' : Runtime} {peer : String} {msb : List UInt8}

/-- Everything a round of `acceptIncomingMessages` can do: nothing, hand the message to
its session, queue the operation of an `Initial` session, or answer the peer. -/
theorem acceptIncomingMessagesRound_cases (h : node.acceptIncomingMessagesRound P s rt peer msb = .ok rt') :
    rt' = rt ∨ ∃ sessionId msg, (rt' = rt.send sessionId msg ∨
      (∃ op, Round.Starts (.incoming s peer msb) op ∧ rt' = (rt.send sessionId msg).queueOperation op) ∨
      ∃ rmb, rt' = (rt.send sessionId msg).QueueMessage peer rmb) := by
  unfold acceptIncomingMessagesRound at h
  obtain ⟨a, -, h⟩ := bind_eq_ok.mp h
  rcases a with _ | ⟨sessionId, msg⟩
  · exact .inl (by cases h; rfl)
  refine .inr ⟨sessionId, msg, ?_⟩
  dsimp only at h
  split_ifs at h with hround
  · exact .inl (by cases h; rfl)
  simp only [pure_bind] at h
  obtain ⟨uid, -, h⟩ := bind_eq_ok.mp h
  cases hr : s.ReadSession uid.String with
  | none => rw [hr] at h; exact .inl (by cases h; rfl)
  | some r =>
    rw [hr] at h
    dsimp only at h
    split_ifs at h with hstate
    · obtain ⟨extra, hextra, h⟩ := bind_eq_ok.mp h
      cases h
      have hid := SQLite3Store.ReadSession_id hr
      refine .inr (.inl ⟨_, ⟨r, ?_, hstate, rfl, rfl, rfl, hextra⟩, rfl⟩)
      rwa [← hid] at hr
    · obtain ⟨rmb, -, h⟩ := bind_eq_ok.mp h
      exact .inr (.inr ⟨rmb, by cases h; rfl⟩)

/-- A round keeps the bookkeeping of `queueOperation`, and starts only what the round
may start, after the operations started before. -/
theorem runRound_started {rd : Round} (hv : rt.Valid) (h : node.runRound P rt rd = .ok rt') :
    rt'.Valid ∧ ∃ l, rt'.started = rt.started ++ l ∧ ∀ op ∈ l, rd.Starts op := by
  cases rd with
  | incoming s peer msb =>
    rcases acceptIncomingMessagesRound_cases h with rfl | ⟨sid, msg, rfl | ⟨op, hop, rfl⟩ | ⟨rmb, rfl⟩⟩
    · exact ⟨hv, [], by simp, by simp⟩
    · exact ⟨hv.send sid msg, [], by simp, by simp⟩
    · obtain ⟨l, hl, hop'⟩ := Runtime.queueOperation_started (rt.send sid msg) op
      exact ⟨(hv.send sid msg).queueOperation op, l, hl, fun op' h' => hop' op' h' ▸ hop⟩
    · exact ⟨(hv.send sid msg).QueueMessage peer rmb, [], by simp, by simp⟩
  | initial ops =>
    cases h
    induction ops generalizing rt with
    | nil => exact ⟨hv, [], by simp, by simp⟩
    | cons op ops ih =>
      obtain ⟨hv', l, hl, hl'⟩ := ih (hv.queueOperation op)
      obtain ⟨l₀, hl₀, hop⟩ := Runtime.queueOperation_started rt op
      refine ⟨hv', l₀ ++ l, by rw [List.foldl_cons, hl, hl₀, List.append_assoc], fun op' h' => ?_⟩
      rcases List.mem_append.mp h' with h' | h'
      · exact hop op' h' ▸ List.mem_cons_self _ _
      · exact List.mem_cons_of_mem _ (hl' op' h')

/-- A run of rounds keeps the bookkeeping, and every operation it starts is one a
round of the run may start. -/
theorem run_started {rounds : List Round} (hv : rt.Valid) (h : node.run P rt rounds = .ok rt') :
    rt'.Valid ∧ ∃ l, rt'.started = rt.started ++ l ∧ ∀ op ∈ l, ∃ rd ∈ rounds, rd.Starts op := by
  induction rounds generalizing rt with
  | nil => cases h; exact ⟨hv, [], by simp, by simp⟩
  | cons rd rounds ih =>
    obtain ⟨rt₁, h₁, h⟩ := bind_eq_ok.mp h
    obtain ⟨hv₁, l₁, hl₁, hs₁⟩ := runRound_started hv h₁
    obtain ⟨hv', l, hl, hs⟩ := ih hv₁ h
    refine ⟨hv', l₁ ++ l, by rw [hl, hl₁, List.append_assoc], fun op h' => ?_⟩
    rcases List.mem_append.mp h' with h' | h'
    · exact ⟨rd, List.mem_cons_self _ _, hs₁ op h'⟩
    · obtain ⟨rd', hrd', hs'⟩ := hs op h'
      exact ⟨rd', List.mem_cons_of_mem _ hrd', hs'⟩

/-- A codec for running the sessions: a message is its round number, the length of its
`SSID`, the `SSID` and the bytes of its sender; it is for every member but its sender. -/
def Protocol.sessionFixture : Protocol where
  MarshalBinary msg := .ok (UInt8.ofNat msg.RoundNumber :: UInt8.ofNat (msg.SSID.getD []).length ::
    (msg.SSID.getD [] ++ msg.From.data.map fun c => UInt8.ofNat c.toNat))
  UnmarshalBinary
    | r :: k :: rest => .ok ⟨some (rest.take k.toNat), ⟨(rest.drop k.toNat).map fun b => Char.ofNat b.toNat⟩, r.toNat⟩
    | _ => .error "protocol: invalid message"
  IsFor msg id := msg.From != id

/-- The 16-byte id of a session, and its UUID. -/
def fixtureSessionId : List UInt8 := List.replicate 16 7

def fixtureUUID : UUID := ⟨fixtureSessionId, rfl⟩

/-- The frame a member `m2` sends for that session: a first-round message of the
protocol session `[1]`. -/
def fixtureFrame : List UInt8 := 16 :: fixtureSessionId ++ [2, 1, 1, 109, 50]

/-- A store that holds the session as `Initial`, and one where it has moved to `Pending`. -/
def initialStore : SQLite3Store :=
  SQLite3Store.empty.WriteSessionIfNotExist ⟨fixtureUUID.String, 2, 1, "", []⟩ "hash" 0 0

def pendingStore : SQLite3Store := initialStore.MarkSessionPending fixtureUUID.String 1 "" []

/-- A frame `acceptIncomingMessage` hands over is `[|sid|] ++ sid ++ p`, with a payload
that decodes to a message from the peer, for this node, with an `SSID`. -/
theorem acceptIncomingMessage_eq_some {sid : List UInt8} {msg : Message}
    (h : node.acceptIncomingMessage P peer msb = .ok (some (sid, msg))) :
    ∃ p, msb = UInt8.ofNat sid.length :: sid ++ p ∧ sid.length < 255 ∧ P.UnmarshalBinary p = .ok msg ∧
      msg.SSID.isSome ∧ msg.From = peer ∧ P.IsFor msg node.id = true := by
  rcases unmarshalSessionMessage_cases P msb with ⟨-, hu⟩ | ⟨-, -, hu⟩ | ⟨k, sid', p, rfl, hsid, hk, -, -, hu⟩
  · simp [acceptIncomingMessage, hu] at h
  · simp [acceptIncomingMessage, hu] at h
  simp only [acceptIncomingMessage, hu, ok_bind] at h
  cases hp : P.UnmarshalBinary p with
  | error _ => simp [hp] at h
  | ok m =>
    simp only [hp] at h
    split_ifs at h with h₁ h₂ h₃ <;> simp at h
    obtain ⟨rfl, rfl⟩ := h
    have hk' : UInt8.ofNat sid'.length = k := by
      rw [hsid]
      exact UInt8.toNat.inj (UInt8.toNat_ofNat_of_lt k.toNat_lt_size)
    exact ⟨p, by rw [hk'], hsid ▸ hk, hp, Option.isSome_iff_ne_none.mpr (by simpa using h₁), not_not.mp h₂,
      by simpa using h₃⟩

/-- The converse: such a frame, with 16 bytes in all and a payload, is handed over. -/
theorem acceptIncomingMessage_frame {sid p : List UInt8} {msg : Message} (hsid : sid.length < 255) (hp : p ≠ [])
    (h16 : 15 ≤ sid.length + p.length) (hmsg : P.UnmarshalBinary p = .ok msg) (hssid : msg.SSID.isSome)
    (hfrom : msg.From = peer) (hfor : P.IsFor msg node.id = true) :
    node.acceptIncomingMessage P peer (UInt8.ofNat sid.length :: sid ++ p) = .ok (some (sid, msg)) := by
  rw [acceptIncomingMessage, unmarshalSessionMessage_frame P sid p hsid hp h16]
  simp [hmsg, hfrom, hfor, Option.isSome_iff_ne_none.mp hssid]

/-- A first-round message whose session id is not 16 bytes stops the node: `uuid.Must`
panics on the id before the session is read. -/
theorem acceptIncomingMessagesRound_uuid_panic {sessionId : List UInt8} {msg : Message}
    (hacc : node.acceptIncomingMessage P peer msb = .ok (some (sessionId, msg)))
    (hround : msg.RoundNumber = MPCFirstMessageRound) (hlen : sessionId.length ≠ 16) :
    node.acceptIncomingMessagesRound P s rt peer msb =
      .error s!"panic: uuid: UUID must be exactly 16 bytes long, got {sessionId.length} bytes" := by
  simp only [acceptIncomingMessagesRound, hacc, ok_bind, hround, ne_eq, not_true_eq_false, if_false, pure_bind,
    UUID.FromBytes, hlen, dif_neg, not_false_eq_true]
  rfl

/-- Past the hand-over, a round that is not a first round with an id of other than 16
bytes returns, on a store whose sessions hold hex extras and with a codec that
marshals the node's answer. -/
theorem acceptIncomingMessagesRound_ok_of_some {sessionId : List UInt8} {msg : Message}
    (hhex : ∀ id r, s.ReadSession id = some r → ∃ e, DecodeHexOrPanic r.Extra = .ok e)
    (hmarshal : ∀ sid, ∃ p, P.MarshalBinary ⟨some sid, node.id, 0⟩ = .ok p)
    (hacc : node.acceptIncomingMessage P peer msb = .ok (some (sessionId, msg)))
    (hc : msg.RoundNumber = MPCFirstMessageRound → sessionId.length = 16) :
    ∃ rt', node.acceptIncomingMessagesRound P s rt peer msb = .ok rt' := by
  simp only [acceptIncomingMessagesRound, hacc, ok_bind]
  by_cases hround : msg.RoundNumber = MPCFirstMessageRound
  swap
  · simp [hround]
  have hlen := hc hround
  simp only [hround, ne_eq, not_true_eq_false, if_false, pure_bind, UUID.FromBytes, hlen, dif_pos,
    Except.mapError, ok_bind]
  cases hr : s.ReadSession (UUID.String ⟨sessionId, hlen⟩) with
  | none => exact ⟨_, rfl⟩
  | some r =>
    dsimp only
    split_ifs
    · obtain ⟨e, he⟩ := hhex _ r hr
      simp [he]
    · obtain ⟨p, hp⟩ := hmarshal sessionId
      simp [marshalSessionMessage, hp, hlen, Except.mapError]

/-- Which frames from a peer stop the node, on a store whose sessions hold hex extras
and with a codec that marshals the node's answer: exactly the frames shorter than 16
bytes or whose length byte leaves no payload (the log line reads the nil message), the
frames whose length byte is 255 (the `byte` sum `1+b[0]` wraps), and the first-round
messages for the node whose session id is not 16 bytes long (`uuid.Must`). -/
theorem acceptIncomingMessagesRound_panics_iff
    (hhex : ∀ id r, s.ReadSession id = some r → ∃ e, DecodeHexOrPanic r.Extra = .ok e)
    (hmarshal : ∀ sid, ∃ p, P.MarshalBinary ⟨some sid, node.id, 0⟩ = .ok p) :
    (∃ e, node.acceptIncomingMessagesRound P s rt peer msb = .error e) ↔
      msb.length < 16 ∨ msb.length ≤ (msb.headD 0).toNat + 1 ∨ msb.headD 0 = 255 ∨
      ∃ sid p msg, msb = UInt8.ofNat sid.length :: sid ++ p ∧ sid.length < 255 ∧ sid.length ≠ 16 ∧
        P.UnmarshalBinary p = .ok msg ∧ msg.SSID.isSome ∧ msg.From = peer ∧ P.IsFor msg node.id = true ∧
        msg.RoundNumber = MPCFirstMessageRound := by
  have hframe : (∃ e, node.acceptIncomingMessage P peer msb = .error e) →
      ∃ e, node.acceptIncomingMessagesRound P s rt peer msb = .error e := fun ⟨e, he⟩ =>
    ⟨e, by simp [acceptIncomingMessagesRound, he]⟩
  constructor
  · rintro ⟨e, he⟩
    cases hacc : node.acceptIncomingMessage P peer msb with
    | error e' =>
      rcases (acceptIncomingMessage_panics_iff P node peer msb).mp ⟨e', hacc⟩ with h | h | h
      exacts [.inl h, .inr (.inl h), .inr (.inr (.inl h))]
    | ok a =>
      rcases a with _ | ⟨sid, msg⟩
      · simp [acceptIncomingMessagesRound, hacc] at he
      by_cases hc : msg.RoundNumber = MPCFirstMessageRound → sid.length = 16
      · obtain ⟨rt', h'⟩ := acceptIncomingMessagesRound_ok_of_some hhex hmarshal hacc hc
        rw [h'] at he
        cases he
      · obtain ⟨hround, hne⟩ := Classical.not_imp.mp hc
        obtain ⟨p, hmsb, hlt, hmsg, hssid, hfrom, hfor⟩ := acceptIncomingMessage_eq_some hacc
        exact .inr (.inr (.inr ⟨sid, p, msg, hmsb, hlt, hne, hmsg, hssid, hfrom, hfor, hround⟩))
  · rintro (h | h | h | ⟨sid, p, msg, rfl, hlt, hne, hmsg, hssid, hfrom, hfor, hround⟩)
    · exact hframe ((acceptIncomingMessage_panics_iff P node peer msb).mpr (.inl h))
    · exact hframe ((acceptIncomingMessage_panics_iff P node peer msb).mpr (.inr (.inl h)))
    · exact hframe ((acceptIncomingMessage_panics_iff P node peer msb).mpr (.inr (.inr h)))
    have hk : (UInt8.ofNat sid.length).toNat = sid.length := UInt8.toNat_ofNat_of_lt (by unfold UInt8.size; omega)
    have hlen : (UInt8.ofNat sid.length :: sid ++ p).length = sid.length + p.length + 1 := by simp
    by_cases hshort : (UInt8.ofNat sid.length :: sid ++ p).length < 16 ∨
        (UInt8.ofNat sid.length :: sid ++ p).length ≤ ((UInt8.ofNat sid.length :: sid ++ p).headD 0).toNat + 1
    · exact hframe ((acceptIncomingMessage_panics_iff P node peer _).mpr (hshort.elim .inl (.inr ∘ .inl)))
    rw [hlen, List.cons_append, List.headD_cons, hk] at hshort
    have hp : p ≠ [] := List.ne_nil_of_length_pos (by omega)
    exact ⟨_, acceptIncomingMessagesRound_uuid_panic
      (acceptIncomingMessage_frame hlt hp (by omega) hmsg hssid hfrom hfor) hround hne⟩

/-- `m2`'s first-round frame with a session id of 15 bytes stops `m1`. -/
theorem acceptIncomingMessagesRound_panics_iff_fixture :
    (∀ id r, SQLite3Store.empty.ReadSession id = some r → ∃ e, DecodeHexOrPanic r.Extra = .ok e) ∧
      (∀ sid, ∃ p, Protocol.sessionFixture.MarshalBinary ⟨some sid, Node.fixture.id, 0⟩ = .ok p) ∧
      ∃ e, Node.fixture.acceptIncomingMessagesRound Protocol.sessionFixture SQLite3Store.empty Runtime.empty "m2"
        (15 :: List.replicate 15 7 ++ [2, 1, 1, 109, 50]) = .error e :=
  have hhex : ∀ id r, SQLite3Store.empty.ReadSession id = some r → ∃ e, DecodeHexOrPanic r.Extra = .ok e :=
    fun _ _ h => by simp [SQLite3Store.ReadSession, SQLite3Store.empty] at h
  have hmarshal : ∀ sid, ∃ p, Protocol.sessionFixture.MarshalBinary ⟨some sid, Node.fixture.id, 0⟩ = .ok p :=
    fun _ => ⟨_, rfl⟩
  ⟨hhex, hmarshal, (acceptIncomingMessagesRound_panics_iff hhex hmarshal).mpr
    (.inr (.inr (.inr ⟨List.replicate 15 7, [2, 1, 1, 109, 50], ⟨some [1], "m2", 2⟩, rfl, by decide, by decide, rfl,
      rfl, rfl, rfl, rfl⟩)))⟩

section Handler

variable {σ α : Type} {H : MultiHandler σ α} {sessionId : List UInt8}

/-- Whatever rounds the handler loop has run without ending, a message from the
session's channel whose `SSID` is the session id ends it as expired from its sender,
with the frames queued so far. -/
theorem handlerLoop_expired {st : σ} {out out' : List (String × List UInt8)} {evs : List HandlerEvent}
    (hrun : node.handlerLoop P H sessionId st out evs = .ok (none, out')) (msg : Message)
    (hssid : msg.SSID = some sessionId) (rest : List HandlerEvent) :
    node.handlerLoop P H sessionId st out (evs ++ .incoming msg :: rest) =
      .ok (some (.error ("node.handlerLoop(" ++ hexEncode sessionId ++ ") expired from " ++ msg.From)), out') := by
  induction evs generalizing st out with
  | nil =>
    cases hrun
    simp [handlerLoop, hssid]
  | cons ev evs ih =>
    cases ev with
    | listen m =>
      cases m with
      | none => cases hrun
      | some m =>
        obtain ⟨msb, hmsb, hrun⟩ := bind_eq_ok.mp hrun
        simp only [List.cons_append, handlerLoop, hmsb, ok_bind]
        exact ih hrun
    | incoming m =>
      simp only [handlerLoop] at hrun ⊢
      split_ifs at hrun ⊢
      · cases hrun
      · exact ih hrun
    | timeout => cases hrun

/-- The expiry answer between two members `A` and `B`, with the network giving each
frame's sender by its id. When `A` takes from `B` a first-round message for a session
that `A` holds past `Initial`, it queues one frame to `B`; `B` takes that frame from `A`
into the session's channel, as a message of no first round that starts nothing and
answers nothing; and once the message comes out of the channel it ends `B`'s handler
loop for the session as expired from `A`, whatever rounds the loop ran before. -/
theorem acceptIncomingMessagesRound_expire (A B : Node) (sA sB : SQLite3Store) (rtA rtB : Runtime)
    {sessionId payload : List UInt8} {msg : Message} {u : UUID} {r : Session}
    (hacc : A.acceptIncomingMessage P B.id msb = .ok (some (sessionId, msg)))
    (hround : msg.RoundNumber = MPCFirstMessageRound) (hu : UUID.FromBytes sessionId = .ok u)
    (hread : sA.ReadSession u.String = some r) (hstate : r.State ≠ RequestStateInitial)
    (hmarshal : P.MarshalBinary ⟨some sessionId, A.id, 0⟩ = .ok payload) (hpayload : payload ≠ [])
    (hunmarshal : P.UnmarshalBinary payload = .ok ⟨some sessionId, A.id, 0⟩)
    (hfor : P.IsFor ⟨some sessionId, A.id, 0⟩ B.id = true) :
    ∃ rmb, A.acceptIncomingMessagesRound P sA rtA B.id msb = .ok ((rtA.send sessionId msg).QueueMessage B.id rmb) ∧
      B.acceptIncomingMessagesRound P sB rtB A.id rmb = .ok (rtB.send sessionId ⟨some sessionId, A.id, 0⟩) ∧
      ∀ {σ α : Type} (H : MultiHandler σ α) (st : σ) (out out' : List (String × List UInt8)) (evs rest : List HandlerEvent),
        B.handlerLoop P H sessionId st out evs = .ok (none, out') →
        B.handlerLoop P H sessionId st out (evs ++ .incoming ⟨some sessionId, A.id, 0⟩ :: rest) =
          .ok (some (.error ("node.handlerLoop(" ++ hexEncode sessionId ++ ") expired from " ++ A.id)), out') := by
  have hlen : sessionId.length = 16 := by
    unfold UUID.FromBytes at hu
    split at hu
    · assumption
    · cases hu
  obtain ⟨rmb, hrmb, hframe⟩ := unmarshalSessionMessage_marshalSessionMessage P sessionId _ payload
    (by omega) hmarshal hpayload (by omega)
  refine ⟨rmb, ?_, ?_, fun H _ _ _ _ rest hrun => handlerLoop_expired hrun _ rfl rest⟩
  · simp only [acceptIncomingMessagesRound, hacc, ok_bind, hround, ne_eq, not_true_eq_false, if_false, pure_bind, hu,
      Except.mapError, hread, hstate, hrmb, pure_eq_ok]
  · have hB : B.acceptIncomingMessage P A.id rmb = .ok (some (sessionId, ⟨some sessionId, A.id, 0⟩)) := by
      simp [acceptIncomingMessage, hframe, hunmarshal, hfor]
    simp [acceptIncomingMessagesRound, hB, MPCFirstMessageRound]

/-- `m1`, holding the session as `Pending`, answers `m2`'s first-round frame, and `m2`
takes the answer into the session's channel. -/
theorem acceptIncomingMessagesRound_expire_fixture :
    ∃ rmb, Node.fixture.acceptIncomingMessagesRound Protocol.sessionFixture pendingStore Runtime.empty "m2"
        fixtureFrame = .ok ((Runtime.empty.send fixtureSessionId ⟨some [1], "m2", 2⟩).QueueMessage "m2" rmb) ∧
      ({ Node.fixture with id := "m2" }).acceptIncomingMessagesRound Protocol.sessionFixture SQLite3Store.empty
        Runtime.empty "m1" rmb = .ok (Runtime.empty.send fixtureSessionId ⟨some fixtureSessionId, "m1", 0⟩) :=
  (acceptIncomingMessagesRound_expire Node.fixture { Node.fixture with id := "m2" } pendingStore SQLite3Store.empty
    Runtime.empty Runtime.empty (u := fixtureUUID)
    (show Node.fixture.acceptIncomingMessage Protocol.sessionFixture "m2" fixtureFrame =
      .ok (some (fixtureSessionId, ⟨some [1], "m2", 2⟩)) from rfl) rfl rfl rfl (by decide) rfl
    (by decide) rfl rfl).imp fun _ h => ⟨h.1, h.2.1⟩

end Handler

end Node

end safe.signer

/-
  File:      FieldKit/Comms/ModuleComms.lean
  Subject:   `ModuleCommunications` and `ModuleProtocolHandler` (module_comms.cpp).

  The communications object holds one transaction at a time: it has the pending query written to
  its outgoing stream, runs a `TwoWireTask` over it, reads the reply and keeps it until somebody
  takes it. The handlers share it: each has one query waiting (`pending`) and one it believes to
  be on the wire (`active`).

  The queries are objects with virtual functions. `ModuleQueries` is their interface, over names
  `Q` (what the source compares as pointers) and the state `O` of all of them.

  * `settle_settled`, `poll_polled` -- what one poll of the communications object can do;
  * `handleEnqueue_cases`, `handleFinish_cases` -- the two steps of a handler's `handle`.
-/
import FieldKit.Comms.TwoWireTask

namespace FieldKit

/-! ## 1. Queries and replies -/

/-- `fk_module_ReplyType`, as far as the code names its values; `other` are the rest. -/
inductive ReplyType where
  | REPLY_ERROR
  | REPLY_SUCCESS
  | REPLY_BUSY
  | REPLY_RETRY
  | REPLY_CAPABILITIES
  | REPLY_SENSOR_CAPABILITIES
  | REPLY_READING_STATUS
  | REPLY_DATA
  | REPLY_FIRMWARE
  | REPLY_TRANSMISSION_STATUS
  | other (tag : Nat)
  deriving DecidableEq, Repr

/-- The virtual functions of `ModuleQuery`, and how a reply is read from the incoming stream.
    `E` is what the outside decides during one call of `prepare` or `tick`. Only
    `WriteModuleData` overrides `tick`, and it expects no reply. -/
structure ModuleQueries (Q O E R β : Type) where
  replyConfig : Q → ReplyConfig
  prepare : Q → E → O → Ring β → O × Ring β
  tick : Q → E → O → Ring β → O × Ring β
  reply : Q → R → O → O
  decode : List β → Option R
  replyType : R → ReplyType
  tick_keeps : ∀ q e o outgoing, (replyConfig q).expectedReplies ≠ 0 →
    (tick q e o outgoing).2 = outgoing

/-- `ModuleQuery::prepare`: the encoded message, and no more. -/
def ModuleQuery.prepare {β : Type} (encoded : List β) (outgoing : Ring β) : Ring β :=
  { bytes := outgoing.bytes ++ encoded, closed := true }

/-- `TwoWireStatistics`. -/
structure TwoWireStatistics where
  expected : Nat := 0
  missed : Nat := 0
  malformed : Nat := 0
  reply : Nat := 0
  busy : Nat := 0
  retry : Nat := 0
  timeouts : Nat := 0
  deriving DecidableEq, Repr

/-! ## 2. The communications object -/

/-- `ModuleCommunications`. `reply` is the message together with `hasReply`: `none` is
    `hasReply == false`. -/
structure ModuleCommunications (Q R β : Type) where
  started : Uptime := 0
  address : Address := 0
  pending : Option Q := none
  reply : Option R := none
  hasQuery : Bool := false
  twoWireTask : TwoWireTask :=
    { outgoing := true, address := 0, replyConfig := ReplyConfig.Default }
  outgoing : Ring β := {}
  incoming : Ring β := {}

/-- The communications object with what it points to: the query objects and the bus. -/
structure Link (Q O R β B : Type) where
  comms : ModuleCommunications Q R β
  queries : O
  bus : B

/-- What the outside decides during one poll: the clock, how many bytes the outgoing stream
    hands over, how many the incoming one has room for, and `env` for the query. -/
structure Poll (E : Type) where
  clock : Clock
  offered : Nat
  room : Nat
  env : E

namespace ModuleCommunications

variable {Q O E R β B : Type}

/-- `busy()`. -/
def busy (c : ModuleCommunications Q R β) : Bool := decide (0 < c.address)

/-- `available()`. -/
def available (c : ModuleCommunications Q R β) : Bool := c.reply.isSome

/-- `enqueue(destination, mq)`; `none` is its failed assertion. -/
def enqueue (destination : Address) (mq : Q) (c : ModuleCommunications Q R β) :
    Option (ModuleCommunications Q R β) :=
  if c.hasQuery then none
  else some { c with address := destination, pending := some mq, hasQuery := true }

/-- `dequeue()`, of a waiting reply. -/
def dequeue (c : ModuleCommunications Q R β) : ModuleCommunications Q R β :=
  { c with reply := none }

/-- The branch of `task` that writes the query: both streams are cleared, `prepare` fills the
    outgoing one, and a new `TwoWireTask` is set on them. -/
def startQuery (M : ModuleQueries Q O E R β) (p : Poll E) (mq : Q) (l : Link Q O R β B) :
    Link Q O R β B :=
  let (queries, outgoing) := M.prepare mq p.env l.queries Ring.clear
  { l with
    queries := queries
    comms := { l.comms with
      incoming := Ring.clear
      outgoing := outgoing
      twoWireTask := TwoWireTask.enqueued p.clock.checked
        { outgoing := true, address := l.comms.address, replyConfig := M.replyConfig mq }
      hasQuery := false
      reply := none
      started := p.clock.checked } }

/-- The branch of `task` that runs the exchange: one run of the `TwoWireTask`, then `tick`. -/
def runQuery (M : ModuleQueries Q O E R β) (bus : TwoWireBus β B) (p : Poll E) (mq : Q)
    (l : Link Q O R β B) : Link Q O R β B :=
  let (t, w) := l.comms.twoWireTask.run bus p.clock p.offered p.room
    ⟨l.comms.outgoing, l.comms.incoming, l.bus⟩
  let (queries, outgoing) := M.tick mq p.env l.queries w.outgoing
  { queries := queries
    bus := w.bus
    comms := { l.comms with twoWireTask := t, outgoing := outgoing, incoming := w.incoming } }

/-- The end of the transaction: `address = 0`. -/
def release (c : ModuleCommunications Q R β) : ModuleCommunications Q R β :=
  { c with address := 0 }

/-- What `task` does once the `TwoWireTask` has completed, a reply expected: read the reply if
    bytes came. The first component says that it returns idle at once. -/
def readReply (M : ModuleQueries Q O E R β) (c : Clock) (mq : Q) (tws : TwoWireStatistics)
    (s : ModuleCommunications Q R β) : Bool × TwoWireStatistics × ModuleCommunications Q R β :=
  if 0 < s.twoWireTask.received then
    let drained := { s with incoming := { s.incoming with bytes := [] } }
    match M.decode s.incoming.bytes with
    | none => (false, { tws with malformed := tws.malformed + 1 }, drained.release)
    | some r =>
      let cleared := { s with incoming := Ring.clear, outgoing := Ring.clear }
      match M.replyType r with
      | .REPLY_BUSY =>
        (true, { tws with busy := tws.busy + 1 },
          { cleared with
            twoWireTask := TwoWireTask.enqueued c.retried
              { outgoing := false, address := s.address, replyConfig := M.replyConfig mq } })
      | .REPLY_RETRY =>
        (true, { tws with retry := tws.retry + 1 },
          { cleared with hasQuery := true, reply := none })
      | _ =>
        (false, { tws with reply := tws.reply + 1 }, { drained with reply := some r }.release)
  else (false, { tws with missed := tws.missed + 1 }, s.release)

/-- The rest of `task`: the reply of a completed exchange, and the transaction's timeout. -/
def settle (M : ModuleQueries Q O E R β) (c : Clock) (mq : Q) (tws : TwoWireStatistics)
    (s : ModuleCommunications Q R β) :
    TaskEval × TwoWireStatistics × ModuleCommunications Q R β :=
  let config := M.replyConfig mq
  let timeout (tws : TwoWireStatistics) (s : ModuleCommunications Q R β) :=
    if config.transactionTimeout < c.ended - s.started then
      (TaskEval.error, { tws with timeouts := tws.timeouts + 1 }, s.release)
    else (TaskEval.idle, tws, s)
  if s.twoWireTask.completed then
    let tws := { tws with expected := tws.expected + config.expectedReplies }
    if config.expectedReplies = 0 then (.idle, tws, s.release)
    else
      match readReply M c mq tws s with
      | (true, tws, s) => (.idle, tws, s)
      | (false, tws, s) => timeout tws s
  else timeout tws s

/-- `task(tws)`. -/
def task (M : ModuleQueries Q O E R β) (bus : TwoWireBus β B) (p : Poll E)
    (tws : TwoWireStatistics) (l : Link Q O R β B) :
    TaskEval × TwoWireStatistics × Link Q O R β B :=
  match l.comms.pending with
  | some mq =>
    if 0 < l.comms.address then
      let l := if l.comms.hasQuery then startQuery M p mq l else runQuery M bus p mq l
      let (e, tws, comms) := settle M p.clock mq tws l.comms
      (e, tws, { l with comms := comms })
    else (.idle, tws, l)
  | none => (.idle, tws, l)

/-- `task()`: the statistics are dropped. -/
def poll (M : ModuleQueries Q O E R β) (bus : TwoWireBus β B) (p : Poll E)
    (l : Link Q O R β B) : Link Q O R β B :=
  (task M bus p {} l).2.2

end ModuleCommunications

/-! ## 3. The protocol handler -/

/-- `ModuleProtocolHandler::Queued`. -/
structure Queued (Q : Type) where
  address : Address := 0
  query : Option Q := none
  delay : Uptime := 0
  deriving DecidableEq, Repr

/-- `operator bool` of `Queued`. -/
def Queued.isQueued {Q : Type} (q : Queued Q) : Bool := decide (0 < q.address)

/-- `ModuleProtocolHandler`, without its pointer to the communications object. -/
structure ModuleProtocolHandler (Q : Type) where
  active : Queued Q := {}
  pending : Queued Q := {}
  deriving DecidableEq, Repr

/-- `ModuleProtocolHandler::Finished`; `query = none` is its null, a poll that finished nothing. -/
structure Finished (Q R : Type) where
  query : Option Q := none
  reply : Option R := none
  deriving DecidableEq, Repr

/-- `Finished::error()`. -/
def Finished.error {Q R : Type} (replyConfig : Q → ReplyConfig) (f : Finished Q R) : Bool :=
  f.reply.isNone && f.query.any fun q => decide (0 < (replyConfig q).expectedReplies)

namespace ModuleProtocolHandler

variable {Q O E R β B : Type}

/-- `push(address, query, delay)`, at `now`. -/
def push (now : Uptime) (address : Address) (query : Q) (delay : Uptime)
    (_h : ModuleProtocolHandler Q) : ModuleProtocolHandler Q :=
  { active := {}
    pending := { address, query := some query, delay := if 0 < delay then now + delay else 0 } }

/-- `isBusy()`. -/
def isBusy (h : ModuleProtocolHandler Q) : Bool := h.active.isQueued || h.pending.isQueued

/-- The query that `handle` moves onto the wire at `now`, if there is one. -/
def due (now : Uptime) (h : ModuleProtocolHandler Q) (c : ModuleCommunications Q R β) :
    Option Q :=
  if ¬ c.busy ∧ h.pending.delay < now then h.pending.query else none

/-- The first half of `handle`: a query that is due is enqueued. -/
def handleEnqueue (now : Uptime) (h : ModuleProtocolHandler Q) (c : ModuleCommunications Q R β) :
    Option (ModuleProtocolHandler Q × ModuleCommunications Q R β) :=
  match due now h c with
  | some q => (c.enqueue h.pending.address q).map fun c' =>
      ({ active := h.pending, pending := {} }, c')
  | none => some (h, c)

/-- The second half of `handle`: the active query takes a waiting reply, or ends without one. -/
def handleFinish (M : ModuleQueries Q O E R β) (h : ModuleProtocolHandler Q)
    (l : Link Q O R β B) : Finished Q R × ModuleProtocolHandler Q × Link Q O R β B :=
  match h.active.query with
  | none => ({}, h, l)
  | some q =>
    match l.comms.reply with
    | some r =>
      ({ query := some q, reply := some r }, { h with active := {} },
        { l with comms := l.comms.dequeue, queries := M.reply q r l.queries })
    | none =>
      if l.comms.busy then ({}, h, l)
      else ({ query := some q }, { h with active := {} }, l)

/-- `handle()`, at `now`; `none` is a failed assertion. -/
def handle (M : ModuleQueries Q O E R β) (now : Uptime) (h : ModuleProtocolHandler Q)
    (l : Link Q O R β B) :
    Option (Finished Q R × ModuleProtocolHandler Q × Link Q O R β B) :=
  (handleEnqueue now h l.comms).map fun (h', c') => handleFinish M h' { l with comms := c' }

end ModuleProtocolHandler

/-! ## 4. What one poll can do -/

namespace ModuleCommunications

variable {Q O E R β B : Type}

/-- **What `settle` can leave behind**, one constructor for each outcome of the exchange. -/
inductive Settled (M : ModuleQueries Q O E R β) (c : Clock) (mq : Q)
    (s : ModuleCommunications Q R β) : ModuleCommunications Q R β → Prop where
  /-- The exchange goes on. -/
  | running (hc : s.twoWireTask.completed = false)
      (hin : c.ended - s.started ≤ (M.replyConfig mq).transactionTimeout) : Settled M c mq s s
  /-- The transaction timed out. -/
  | expired (hc : s.twoWireTask.completed = false)
      (hout : (M.replyConfig mq).transactionTimeout < c.ended - s.started) :
      Settled M c mq s s.release
  /-- The exchange is over, and no reply was expected. -/
  | silent (hc : s.twoWireTask.completed = true) (he : (M.replyConfig mq).expectedReplies = 0) :
      Settled M c mq s s.release
  /-- The exchange is over, and nothing came back. -/
  | missed (hc : s.twoWireTask.completed = true) (he : (M.replyConfig mq).expectedReplies ≠ 0)
      (hr : s.twoWireTask.bytesReceived = 0) : Settled M c mq s s.release
  /-- What came back is not a reply. -/
  | malformed (hc : s.twoWireTask.completed = true)
      (he : (M.replyConfig mq).expectedReplies ≠ 0) (hr : 0 < s.twoWireTask.bytesReceived)
      (hd : M.decode s.incoming.bytes = none) :
      Settled M c mq s
        { s with incoming := { s.incoming with bytes := [] } }.release
  /-- The module is busy: ask again later, without sending the query again. -/
  | busy (r : R) (hc : s.twoWireTask.completed = true)
      (he : (M.replyConfig mq).expectedReplies ≠ 0) (hr : 0 < s.twoWireTask.bytesReceived)
      (hd : M.decode s.incoming.bytes = some r) (ht : M.replyType r = .REPLY_BUSY) :
      Settled M c mq s
        { s with
          incoming := Ring.clear
          outgoing := Ring.clear
          twoWireTask := TwoWireTask.enqueued c.retried
            { outgoing := false, address := s.address, replyConfig := M.replyConfig mq } }
  /-- The module has no reply: the query goes out again. -/
  | retry (r : R) (hc : s.twoWireTask.completed = true)
      (he : (M.replyConfig mq).expectedReplies ≠ 0) (hr : 0 < s.twoWireTask.bytesReceived)
      (hd : M.decode s.incoming.bytes = some r) (ht : M.replyType r = .REPLY_RETRY) :
      Settled M c mq s
        { s with incoming := Ring.clear, outgoing := Ring.clear, hasQuery := true, reply := none }
  /-- A reply, to be kept until it is taken. -/
  | answered (r : R) (hc : s.twoWireTask.completed = true)
      (he : (M.replyConfig mq).expectedReplies ≠ 0) (hr : 0 < s.twoWireTask.bytesReceived)
      (hd : M.decode s.incoming.bytes = some r) (hb : M.replyType r ≠ .REPLY_BUSY)
      (ht : M.replyType r ≠ .REPLY_RETRY) :
      Settled M c mq s
        { s with incoming := { s.incoming with bytes := [] }, reply := some r }.release

/-- What `readReply` leaves, when it leaves the transaction open and when it does not. -/
private theorem readReply_settled {M : ModuleQueries Q O E R β} {c : Clock} {mq : Q}
    {tws tws' : TwoWireStatistics} {s s' : ModuleCommunications Q R β} {now : Bool}
    (hc : s.twoWireTask.completed = true) (he : (M.replyConfig mq).expectedReplies ≠ 0)
    (h : readReply M c mq tws s = (now, tws', s')) :
    Settled M c mq s s' ∧ (now = false → s'.release = s') := by
  unfold readReply at h
  split at h
  · next hr =>
      split at h
      · next hd =>
          cases h
          exact ⟨.malformed hc he hr hd, fun _ => rfl⟩
      · next r hd =>
          dsimp only at h
          split at h
          · next ht =>
              cases h
              exact ⟨.busy r hc he hr hd ht, fun hn => absurd hn (by decide)⟩
          · next ht =>
              cases h
              exact ⟨.retry r hc he hr hd ht, fun hn => absurd hn (by decide)⟩
          · next hb ht =>
              cases h
              exact ⟨.answered r hc he hr hd hb ht, fun _ => rfl⟩
  · next hr =>
      cases h
      exact ⟨.missed hc he (by simpa [TwoWireTask.received] using hr), fun _ => rfl⟩

/-- **Every end of a poll is one of these.** -/
theorem settle_settled (M : ModuleQueries Q O E R β) (c : Clock) (mq : Q)
    (tws : TwoWireStatistics) (s : ModuleCommunications Q R β) :
    Settled M c mq s (settle M c mq tws s).2.2 := by
  unfold settle
  dsimp only
  split
  · next hc =>
      split
      · next he => exact .silent hc he
      · next he =>
          split
          · next h => exact (readReply_settled hc he h).1
          · next h =>
              obtain ⟨hs, hrel⟩ := readReply_settled hc he h
              split
              · exact (hrel rfl).symm ▸ hs
              · exact hs
  · next hc =>
      rw [Bool.not_eq_true] at hc
      split
      · next hout => exact .expired hc hout
      · next hin => exact .running hc (by simpa using hin)

/-- **What one poll can do**: nothing, write the query, or run the exchange. -/
inductive Polled (M : ModuleQueries Q O E R β) (bus : TwoWireBus β B) (p : Poll E)
    (l : Link Q O R β B) : Link Q O R β B → Prop where
  | idle (h : l.comms.address = 0 ∨ l.comms.pending = none) : Polled M bus p l l
  | started (mq : Q) (c' : ModuleCommunications Q R β) (hp : l.comms.pending = some mq)
      (ha : l.comms.address ≠ 0) (hq : l.comms.hasQuery = true)
      (hs : Settled M p.clock mq (startQuery M p mq l).comms c') :
      Polled M bus p l { startQuery M p mq l with comms := c' }
  | ran (mq : Q) (c' : ModuleCommunications Q R β) (hp : l.comms.pending = some mq)
      (ha : l.comms.address ≠ 0) (hq : l.comms.hasQuery = false)
      (hs : Settled M p.clock mq (runQuery M bus p mq l).comms c') :
      Polled M bus p l { runQuery M bus p mq l with comms := c' }

theorem poll_polled (M : ModuleQueries Q O E R β) (bus : TwoWireBus β B) (p : Poll E)
    (l : Link Q O R β B) : Polled M bus p l (poll M bus p l) := by
  unfold poll task
  split
  · next mq hp =>
      split
      · next ha =>
          have ha : l.comms.address ≠ 0 := by
            intro h
            rw [h] at ha
            exact absurd ha (by decide)
          cases hq : l.comms.hasQuery with
          | true => exact .started mq _ hp ha hq (settle_settled M p.clock mq {} _)
          | false => exact .ran mq _ hp ha hq (settle_settled M p.clock mq {} _)
      · next ha => exact .idle (Or.inl (by simpa using ha))
  · next hp => exact .idle (Or.inr hp)

end ModuleCommunications

/-! ## 5. What one `handle` can do -/

namespace ModuleProtocolHandler

variable {Q O E R β B : Type}

/-- **The first half of `handle`**: nothing, or the pending query is on the wire and active. -/
theorem handleEnqueue_cases {now : Uptime} {h h' : ModuleProtocolHandler Q}
    {c c' : ModuleCommunications Q R β} (he : handleEnqueue now h c = some (h', c')) :
    (due now h c = none ∧ h' = h ∧ c' = c) ∨
    (∃ q, due now h c = some q ∧ h.pending.query = some q ∧ c.address = 0 ∧
      c.hasQuery = false ∧ h' = { active := h.pending, pending := {} } ∧
      c' = { c with address := h.pending.address, pending := some q, hasQuery := true }) := by
  unfold handleEnqueue at he
  split at he
  · next q hdue =>
      have hd := hdue
      unfold due at hd
      split at hd
      · next hfree =>
          rw [Option.map_eq_some_iff] at he
          obtain ⟨c'', henq, heq⟩ := he
          cases heq
          unfold ModuleCommunications.enqueue at henq
          split at henq
          · cases henq
          · next hq =>
              cases henq
              refine Or.inr ⟨q, hdue, hd, ?_, by simpa using hq, rfl, rfl⟩
              simpa [ModuleCommunications.busy] using hfree.1
      · cases hd
  · next hdue =>
      cases he
      exact Or.inl ⟨hdue, rfl, rfl⟩

/-- **The second half**: nothing to say yet, the query ended without a reply, or it took one. -/
theorem handleFinish_cases {M : ModuleQueries Q O E R β} {h h' : ModuleProtocolHandler Q}
    {l l' : Link Q O R β B} {f : Finished Q R} (hf : handleFinish M h l = (f, h', l')) :
    (f = {} ∧ h' = h ∧ l' = l ∧ (h.active.query = none ∨ l.comms.reply = none)) ∨
    (∃ q, h.active.query = some q ∧ l.comms.reply = none ∧ f = { query := some q } ∧
      h' = { h with active := {} } ∧ l' = l) ∨
    (∃ q r, h.active.query = some q ∧ l.comms.reply = some r ∧
      f = { query := some q, reply := some r } ∧ h' = { h with active := {} } ∧
      l' = { l with comms := l.comms.dequeue, queries := M.reply q r l.queries }) := by
  unfold handleFinish at hf
  split at hf
  · next ha =>
      cases hf
      exact Or.inl ⟨rfl, rfl, rfl, Or.inl ha⟩
  · next q ha =>
      split at hf
      · next r hr =>
          cases hf
          exact Or.inr (Or.inr ⟨q, r, ha, hr, rfl, rfl, rfl⟩)
      · next hr =>
          split at hf
          · cases hf
            exact Or.inl ⟨rfl, rfl, rfl, Or.inr hr⟩
          · cases hf
            exact Or.inr (Or.inl ⟨q, ha, hr, rfl, rfl, rfl⟩)

end ModuleProtocolHandler

end FieldKit

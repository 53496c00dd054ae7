/-
  File:      FieldKit/Comms/Pairing.lean
  Subject:   Queries and replies on the shared bus: whose reply does a handler take?

  Any number of handlers share one communications object. The machine below interleaves their
  `push` and `handle` with polls of the communications object and with whatever the modules do.
  The poll that writes a query notes what it writes, and to whom, as the communications object has
  it; from there on the transfers on the bus are kept. Every `Finished` a handler returns is
  written down, with that note and those transfers.

  * `paired_iff` -- in a run, every reply that was handed out is paired with its query exactly if
    no handler enqueues over a waiting reply and no handler takes the reply of another;
  * `unpaired_reply` -- a handler abandoned with its reply waiting: the next query takes it.
-/
import FieldKit.Lib.Run
import FieldKit.Comms.Recorder

namespace FieldKit.Pairing

open Lib ModuleCommunications ModuleProtocolHandler

variable {Q O E R β B : Type}

/-! ## 1. The machine -/

/-- A query as a poll writes it: the pending query, the destination, and what `prepare` is given. -/
structure Exchange (Q O E : Type) where
  query : Q
  address : Address
  env : E
  queries : O

/-- The encoded query: what `prepare` puts into the cleared stream. -/
def Exchange.message (M : ModuleQueries Q O E R β) (e : Exchange Q O E) : List β :=
  (M.prepare e.query e.env e.queries Ring.clear).2.bytes

/-- The query that the next poll writes, if it writes one. -/
def dispatched (p : Poll E) (l : Link Q O R β B) : Option (Exchange Q O E) :=
  match l.comms.pending with
  | some mq =>
    if 0 < l.comms.address ∧ l.comms.hasQuery then
      some { query := mq, address := l.comms.address, env := p.env, queries := l.queries }
    else none
  | none => none

/-- What a handler took: the `Finished` it returned, the address of its query, and, at that
    moment, who enqueued last, what was written since and what the bus has carried since then. -/
structure Taken (Q O E R β : Type) where
  handler : Nat
  query : Q
  address : Address
  reply : Option R
  owner : Option Nat
  wire : Option (Exchange Q O E)
  carried : List (Transfer β)

/-- The handlers, the communications object they share, and the record: who enqueued last, what
    has been written for them, what has been taken. -/
structure Shared (Q O E R β B : Type) where
  link : Link Q O R β (Recorder β B)
  handlers : Nat → ModuleProtocolHandler Q
  owner : Option Nat := none
  wire : Option (Exchange Q O E) := none
  taken : List (Taken Q O E R β) := []

/-- Nothing has happened yet. -/
def start (queries : O) (devices : B) : Shared Q O E R β B where
  link := { comms := {}, queries, bus := { devices } }
  handlers := fun _ => {}

/-- One thing that happens. `modules` puts the devices into any state. -/
inductive Input (Q E B : Type) where
  | push (handler : Nat) (now : Uptime) (address : Address) (query : Q) (delay : Uptime)
  | handle (handler : Nat) (now : Uptime)
  | task (p : Poll E)
  | modules (devices : B)

/-- What a `Finished` of handler `i` adds to the record. -/
def took (i : Nat) (f : Finished Q R) (address : Address) (owner : Option Nat)
    (wire : Option (Exchange Q O E)) (carried : List (Transfer β)) : List (Taken Q O E R β) :=
  (f.query.map fun q =>
    { handler := i, query := q, address, reply := f.reply, owner, wire, carried }).toList

/-- `handle` of handler `i`, with the record: nothing has been written of a query that is
    enqueued. -/
def handleStep (M : ModuleQueries Q O E R β) (i : Nat) (now : Uptime) (s : Shared Q O E R β B) :
    Option (Shared Q O E R β B) :=
  (handle M now (s.handlers i) s.link).map fun (f, h, link) =>
    match due now (s.handlers i) s.link.comms with
    | some _ =>
      { link
        handlers := Function.update s.handlers i h
        owner := some i
        wire := none
        taken := s.taken ++
          took i f (s.handlers i).pending.address (some i) none link.bus.carried }
    | none =>
      { s with
        link
        handlers := Function.update s.handlers i h
        taken := s.taken ++
          took i f (s.handlers i).active.address s.owner s.wire link.bus.carried }

/-- A poll, with the record: one that writes a query begins the list of transfers anew. -/
def pollStep (M : ModuleQueries Q O E R β) (bus : TwoWireBus β B) (p : Poll E)
    (s : Shared Q O E R β B) : Shared Q O E R β B :=
  let link := poll M (record bus) p s.link
  match dispatched p s.link with
  | some e => { s with link := { link with bus.carried := [] }, wire := some e }
  | none => { s with link }

/-- The machine. A step is refused exactly where an assertion of the source fails. -/
def step (M : ModuleQueries Q O E R β) (bus : TwoWireBus β B) (s : Shared Q O E R β B) :
    Input Q E B → Option (Shared Q O E R β B)
  | .push i now address query delay =>
    some { s with
      handlers := Function.update s.handlers i ((s.handlers i).push now address query delay) }
  | .handle i now => handleStep M i now s
  | .task p => some (pollStep M bus p s)
  | .modules devices => some { s with link.bus.devices := devices }

/-! ## 2. What is asked of a reply -/

/-- The reply to `e` was read from bytes that came in after a piece of its message had gone out:
    all that was given to the bus is that message, and every transfer was with its destination. -/
structure Answered (M : ModuleQueries Q O E R β) (e : Exchange Q O E)
    (carried : List (Transfer β)) (r : R) : Prop where
  addressed : ∀ x ∈ carried, x.address = e.address
  message : offeredBytes carried <+: e.message M
  answer : ∃ pre piece post bytes, carried = pre ++ .sent e.address piece true :: post ∧
    piece ≠ [] ∧ receivedBytes pre = [] ∧ receivedBytes post ≠ [] ∧
    bytes.Sublist (receivedBytes post) ∧ M.decode bytes = some r

/-- **What a handler took is its own**: it was the last to enqueue, what was written since is the
    query it finishes, to the address it was pushed for, and the reply answers it. -/
def Paired (M : ModuleQueries Q O E R β) (t : Taken Q O E R β) : Prop :=
  ∀ r, t.reply = some r → t.owner = some t.handler ∧
    ∃ e, t.wire = some e ∧ e.query = t.query ∧ e.address = t.address ∧ Answered M e t.carried r

/-- No query is enqueued over a waiting reply, and a handler that polls for its active query while
    a reply waits is the one that enqueued last. -/
def Orderly (s : Shared Q O E R β B) : Input Q E B → Prop
  | .handle i now =>
    (due now (s.handlers i) s.link.comms ≠ none → s.link.comms.reply = none) ∧
    ((s.handlers i).active.query ≠ none → s.link.comms.reply ≠ none → s.owner = some i)
  | _ => True

/-! ## 3. What the record says of a running exchange -/

/-- A piece has gone out, `incoming` came in after it, and something did if `received` says so. -/
def SentThen (address : Address) (carried : List (Transfer β)) (incoming : List β)
    (received : Nat) : Prop :=
  ∃ pre piece post, carried = pre ++ .sent address piece true :: post ∧ piece ≠ [] ∧
    receivedBytes pre = [] ∧ incoming.Sublist (receivedBytes post) ∧
    (0 < received → receivedBytes post ≠ [])

/-- The task has neither had a piece taken nor received anything yet. -/
structure Fresh (carried : List (Transfer β)) (t : TwoWireTask) (incoming : List β) : Prop where
  out : t.outgoing = true
  sending : t.dieAt = 0
  received : t.bytesReceived = 0
  incoming : incoming = []
  carried : receivedBytes carried = []

/-- **A running exchange**: what is left of the message is in the outgoing stream, and the task has
    either done nothing, or had a piece taken before anything came in. -/
structure Exchanging (M : ModuleQueries Q O E R β) (e : Exchange Q O E)
    (carried : List (Transfer β)) (t : TwoWireTask) (outgoing incoming : List β) : Prop where
  address : t.address = e.address
  addressed : ∀ x ∈ carried, x.address = e.address
  message : offeredBytes carried <+: e.message M
  left : t.outgoing = true → offeredBytes carried ++ outgoing = e.message M
  progress : Fresh carried t incoming ∨ SentThen e.address carried incoming t.bytesReceived

theorem SentThen.append {address : Address} {carried : List (Transfer β)} {incoming : List β}
    {received : Nat} (h : SentThen address carried incoming received)
    (more : List (Transfer β)) : SentThen address (carried ++ more) incoming received := by
  obtain ⟨pre, piece, post, rfl, hne, hpre, hsub, hrecv⟩ := h
  refine ⟨pre, piece, post ++ more, by simp, hne, hpre, ?_, fun hpos => ?_⟩
  · rw [receivedBytes_append]
    exact hsub.trans (List.sublist_append_left _ _)
  · rw [receivedBytes_append]
    exact fun hnil => hrecv hpos (List.append_eq_nil_iff.mp hnil).1

theorem SentThen.forget {address : Address} {carried : List (Transfer β)} {incoming : List β}
    {received : Nat} (h : SentThen address carried incoming received) :
    SentThen address carried ([] : List β) 0 := by
  obtain ⟨pre, piece, post, hc, hne, hpre, _, _⟩ := h
  exact ⟨pre, piece, post, hc, hne, hpre, List.nil_sublist _,
    fun h0 => absurd h0 (Nat.lt_irrefl 0)⟩

/-- The incoming stream after a write holds a sublist of what it held and what was written. -/
theorem write_sublist (bytes : List β) (room : Nat) (r : Ring β) :
    (r.write bytes room).2.bytes.Sublist (r.bytes ++ bytes) := by
  unfold Ring.write
  split
  · exact List.sublist_append_left _ _
  · exact (List.take_sublist room bytes).append_left r.bytes

section Exchanging

variable {M : ModuleQueries Q O E R β} {e : Exchange Q O E} {carried : List (Transfer β)}
  {t t' : TwoWireTask} {outgoing incoming incoming' : List β}

/-- A reply read at the end of an exchange answers the query that was sent. -/
theorem Exchanging.answered {r : R} (h : Exchanging M e carried t outgoing incoming)
    (hpos : 0 < t.bytesReceived) (hd : M.decode incoming = some r) :
    Answered M e carried r := by
  refine ⟨h.addressed, h.message, ?_⟩
  rcases h.progress with hfresh | ⟨pre, piece, post, hc, hne, hpre, hsub, hrecv⟩
  · exact absurd hfresh.received (by omega)
  · exact ⟨pre, piece, post, incoming, hc, hne, hpre, hrecv hpos, hsub, hd⟩

/-- No transfer was made: the streams are what they were. -/
theorem Exchanging.idle (h : Exchanging M e carried t outgoing incoming)
    (ha : t'.address = t.address) (ho : t'.outgoing = t.outgoing)
    (hp : Fresh carried t' incoming ∨ SentThen e.address carried incoming t'.bytesReceived) :
    Exchanging M e carried t' outgoing incoming :=
  ⟨ha.trans h.address, h.addressed, h.message, fun hout => h.left (ho ▸ hout), hp⟩

/-- A piece was given to the bus. -/
theorem Exchanging.offer {bytes rest : List β} {ok : Bool}
    (h : Exchanging M e carried t (bytes ++ rest) incoming) (hout : t.outgoing = true)
    (ha : t'.address = t.address)
    (hp : Fresh (carried ++ [.sent t.address bytes ok]) t' incoming ∨
      SentThen e.address (carried ++ [.sent t.address bytes ok]) incoming t'.bytesReceived) :
    Exchanging M e (carried ++ [.sent t.address bytes ok]) t' rest incoming := by
  have hleft : offeredBytes (carried ++ [.sent t.address bytes ok]) ++ rest = e.message M := by
    have h := h.left hout
    simpa [offeredBytes] using h
  refine ⟨ha.trans h.address, fun x hx => ?_, ⟨rest, hleft⟩, fun _ => hleft, hp⟩
  rcases List.mem_append.mp hx with hx | hx
  · exact h.addressed x hx
  · rw [List.mem_singleton.mp hx]
    exact h.address

/-- Something was received, or nothing. -/
theorem Exchanging.receive {bytes : List β}
    (h : Exchanging M e carried t outgoing incoming) (ha : t'.address = t.address)
    (ho : t'.outgoing = t.outgoing)
    (hp : SentThen e.address (carried ++ [.received t.address bytes]) incoming'
      t'.bytesReceived) :
    Exchanging M e (carried ++ [.received t.address bytes]) t' outgoing incoming' := by
  have hoffered : offeredBytes (carried ++ [.received t.address bytes]) = offeredBytes carried := by
    simp [offeredBytes]
  refine ⟨ha.trans h.address, fun x hx => ?_, hoffered ▸ h.message,
    fun hout => hoffered ▸ h.left (ho ▸ hout), Or.inr hp⟩
  rcases List.mem_append.mp hx with hx | hx
  · exact h.addressed x hx
  · rw [List.mem_singleton.mp hx]
    exact h.address

/-- **One run of the task keeps the record of the exchange.** -/
theorem Exchanging.run {bus : TwoWireBus β B} {c : Clock} {offered room : Nat}
    {w w' : Wires β (Recorder β B)}
    (hran : TwoWireTask.Ran (record bus) c offered room t w t' w')
    (h : Exchanging M e w.bus.carried t w.outgoing.bytes w.incoming.bytes) :
    Exchanging M e w'.bus.carried t' w'.outgoing.bytes w'.incoming.bytes := by
  -- past the first piece the record of it is there, whatever the task's fields become
  have past (hnot : ¬ Fresh w.bus.carried t w.incoming.bytes) :
      SentThen e.address w.bus.carried w.incoming.bytes t.bytesReceived :=
    h.progress.resolve_left hnot
  cases hran with
  | waits => exact h
  | dry => exact h
  | drained =>
      exact h.idle rfl rfl
        (h.progress.imp (fun hf => ⟨hf.out, hf.sending, hf.received, hf.incoming, hf.carried⟩) id)
  | refused bytes rest b out _ _ hw hsend =>
      rw [record_send hsend]
      rw [hw] at h
      refine h.offer out rfl ?_
      rcases h.progress with hf | hs
      · exact Or.inl ⟨hf.out, hf.sending, hf.received, hf.incoming, by
          simp [hf.carried, receivedBytes]⟩
      · exact Or.inr (hs.append _)
  | sent bytes rest b checkAt out _ hne hw hsend =>
      rw [record_send hsend]
      rw [hw] at h
      refine h.offer out rfl (Or.inr ?_)
      rcases h.progress with hf | hs
      · exact ⟨w.bus.carried, bytes, [], by rw [h.address], hne, hf.carried,
          by simp [hf.incoming, receivedBytes], fun hpos => absurd hf.received (Nat.ne_of_gt hpos)⟩
      · exact hs.append _
  | asks out => exact h.idle rfl rfl (Or.inr (past fun hf => by simp [hf.out] at out))
  | nothing out => exact h.idle rfl rfl (Or.inr (past fun hf => by simp [hf.out] at out))
  | late waiting => exact h.idle rfl rfl (Or.inr (past fun hf => waiting hf.sending))
  | empty b waiting _ hrecv =>
      rw [record_receive hrecv]
      refine h.receive rfl rfl ?_
      obtain ⟨pre, piece, post, hc, hne, hpre, hsub, _⟩ :=
        (past fun hf => waiting hf.sending).append [.received t.address []]
      exact ⟨pre, piece, post, hc, hne, hpre, hsub, fun h0 => absurd h0 (Nat.lt_irrefl 0)⟩
  | received bytes remaining b waiting _ hne hrecv =>
      rw [record_receive hrecv]
      have hp : SentThen e.address (w.bus.carried ++ [.received t.address bytes])
          (w.incoming.write bytes room).2.bytes bytes.length := by
        obtain ⟨pre, piece, post, hc, hpiece, hpre, hsub, _⟩ := past fun hf => waiting hf.sending
        refine ⟨pre, piece, post ++ [.received t.address bytes], by simp [hc], hpiece, hpre, ?_,
          fun _ => ?_⟩
        · rw [receivedBytes_append]
          exact (write_sublist bytes room w.incoming).trans
            (by simpa [receivedBytes] using hsub.append_right bytes)
        · simp [receivedBytes, hne]
      split
      · exact h.receive rfl rfl hp
      · exact h.receive rfl rfl hp
  | swept waiting =>
      have := past fun hf => waiting hf.sending
      split
      · exact h.idle rfl rfl (Or.inr this)
      · exact h.idle rfl rfl (Or.inr this)

end Exchanging

/-! ## 4. The invariant -/

/-- What the record says of the communications object: `wire` is what it exchanges. -/
structure LinkInv (M : ModuleQueries Q O E R β) (wire : Option (Exchange Q O E))
    (l : Link Q O R β (Recorder β B)) : Prop where
  /-- A waiting reply answers what was written. -/
  waiting : ∀ r, l.comms.reply = some r → ∃ e, wire = some e ∧ Answered M e l.bus.carried r
  /-- Between the poll that writes a query and its end that query is pending and exchanged. -/
  exchange : l.comms.address ≠ 0 → l.comms.hasQuery = false → ∃ e, wire = some e ∧
    l.comms.pending = some e.query ∧ l.comms.address = e.address ∧ l.comms.reply = none ∧
    ((M.replyConfig e.query).expectedReplies ≠ 0 →
      Exchanging M e l.bus.carried l.comms.twoWireTask l.comms.outgoing.bytes
        l.comms.incoming.bytes)

/-- `q`, enqueued last and for `address`, is what the communications object has. -/
structure Enqueued (wire : Option (Exchange Q O E)) (c : ModuleCommunications Q R β) (q : Q)
    (address : Address) : Prop where
  pending : c.pending = some q
  destination : c.address ≠ 0 → c.address = address
  written : ∀ e, wire = some e → e.query = q ∧ e.address = address

/-- **The invariant of orderly runs.** -/
structure Inv (M : ModuleQueries Q O E R β) (s : Shared Q O E R β B) : Prop where
  /-- The active query of the handler that enqueued last is the one in the communications. -/
  active : ∀ i q, (s.handlers i).active.query = some q → s.owner = some i →
    Enqueued s.wire s.link.comms q (s.handlers i).active.address
  link : LinkInv M s.wire s.link
  /-- What has been taken is paired. -/
  paired : ∀ t ∈ s.taken, Paired M t

theorem inv_start (M : ModuleQueries Q O E R β) (queries : O) (devices : B) :
    Inv M (start queries devices) where
  active := by simp [start]
  link := ⟨by simp [start], by simp [start]⟩
  paired := by simp [start]

section Task

variable {M : ModuleQueries Q O E R β} {bus : TwoWireBus β B} {p : Poll E} {mq q : Q}
  {e : Exchange Q O E} {l l' : Link Q O R β (Recorder β B)} {a : Address}

/-- The end of a poll keeps the invariant of the communications object. -/
theorem settled_linkInv {c : Clock} {s s' : ModuleCommunications Q R β} {queries : O}
    {b : Recorder β B} (hset : Settled M c e.query s s') (hp : s.pending = some e.query)
    (ha : s.address = e.address) (hr : s.reply = none)
    (hx : (M.replyConfig e.query).expectedReplies ≠ 0 →
      Exchanging M e b.carried s.twoWireTask s.outgoing.bytes s.incoming.bytes) :
    LinkInv M (some e) ⟨s', queries, b⟩ := by
  have hnone {c : ModuleCommunications Q R β} (hc : c.reply = s.reply) {r : R}
      (h : c.reply = some r) : False := nomatch h.symm.trans (hc.trans hr)
  cases hset with
  | running => exact ⟨fun _ h => (hnone rfl h).elim, fun _ _ => ⟨e, rfl, hp, ha, hr, hx⟩⟩
  | expired => exact ⟨fun _ h => (hnone rfl h).elim, fun ha => absurd rfl ha⟩
  | silent => exact ⟨fun _ h => (hnone rfl h).elim, fun ha => absurd rfl ha⟩
  | missed => exact ⟨fun _ h => (hnone rfl h).elim, fun ha => absurd rfl ha⟩
  | malformed => exact ⟨fun _ h => (hnone rfl h).elim, fun ha => absurd rfl ha⟩
  | busy r _ he hpos =>
      refine ⟨fun _ h => (hnone rfl h).elim, fun _ _ => ⟨e, rfl, hp, ha, hr, fun _ => ?_⟩⟩
      have hx := hx he
      have hs := hx.progress.resolve_left fun hf => by have := hf.received; omega
      exact ⟨ha, hx.addressed, hx.message, (fun h => nomatch h), Or.inr hs.forget⟩
  | retry r => exact ⟨(fun _ h => nomatch h), (fun _ h => nomatch h)⟩
  | answered r _ he hpos hd =>
      refine ⟨fun r' h => ⟨e, rfl, ?_⟩, fun ha => absurd rfl ha⟩
      have : r = r' := by simpa [release] using h
      exact this ▸ (hx he).answered hpos hd

/-- The end of a poll leaves the pending query, and the address or none. -/
theorem settled_pending {c : Clock} {s s' : ModuleCommunications Q R β}
    (hset : Settled M c mq s s') :
    s'.pending = s.pending ∧ (s'.address = s.address ∨ s'.address = 0) := by
  cases hset with
  | running => exact ⟨rfl, Or.inl rfl⟩
  | expired => exact ⟨rfl, Or.inr rfl⟩
  | silent => exact ⟨rfl, Or.inr rfl⟩
  | missed => exact ⟨rfl, Or.inr rfl⟩
  | malformed => exact ⟨rfl, Or.inr rfl⟩
  | busy => exact ⟨rfl, Or.inl rfl⟩
  | retry => exact ⟨rfl, Or.inl rfl⟩
  | answered => exact ⟨rfl, Or.inr rfl⟩

/-- **What one poll can do**, with the record: it writes a query, or it does not. -/
theorem pollStep_cases (M : ModuleQueries Q O E R β) (bus : TwoWireBus β B) (p : Poll E)
    (s : Shared Q O E R β B) :
    (∃ mq c', s.link.comms.pending = some mq ∧ s.link.comms.address ≠ 0 ∧
      Settled M p.clock mq (startQuery M p mq s.link).comms c' ∧
      pollStep M bus p s = { s with
        link := ⟨c', (startQuery M p mq s.link).queries, { s.link.bus with carried := [] }⟩
        wire := some ⟨mq, s.link.comms.address, p.env, s.link.queries⟩ }) ∨
    (∃ mq c', s.link.comms.pending = some mq ∧ s.link.comms.address ≠ 0 ∧
      s.link.comms.hasQuery = false ∧
      Settled M p.clock mq (runQuery M (record bus) p mq s.link).comms c' ∧
      pollStep M bus p s =
        { s with link := { runQuery M (record bus) p mq s.link with comms := c' } }) ∨
    pollStep M bus p s = s := by
  have hpos (ha : s.link.comms.address ≠ 0) : 0 < s.link.comms.address :=
    by bv_omega
  unfold pollStep
  have hpoll := poll_polled M (record bus) p s.link
  generalize poll M (record bus) p s.link = link at hpoll
  cases hpoll with
  | idle h =>
      have hd : dispatched p s.link = none := by
        unfold dispatched
        rcases h with h | h
        · rw [h]
          split <;> simp
        · rw [h]
      rw [hd]
      exact Or.inr (Or.inr rfl)
  | started mq c' hp ha hq hset =>
      have hd : dispatched p s.link = some ⟨mq, s.link.comms.address, p.env, s.link.queries⟩ := by
        unfold dispatched
        rw [hp]
        exact if_pos ⟨hpos ha, hq⟩
      rw [hd]
      exact Or.inl ⟨mq, c', hp, ha, hset, rfl⟩
  | ran mq c' hp ha hq hset =>
      have hd : dispatched p s.link = none := by
        unfold dispatched
        rw [hp]
        exact if_neg fun h => nomatch h.2.symm.trans hq
      rw [hd]
      exact Or.inr (Or.inl ⟨mq, c', hp, ha, hq, hset, rfl⟩)

/-- **A poll of the communications object keeps the record.** -/
theorem pollStep_inv {s : Shared Q O E R β B} (hi : Inv M s) : Inv M (pollStep M bus p s) := by
  rcases pollStep_cases M bus p s with ⟨mq, c', hp, ha, hset, heq⟩ |
    ⟨mq, c', hp, ha, hq, hset, heq⟩ | heq
  · rw [heq]
    obtain ⟨hpending, haddress⟩ := settled_pending hset
    refine ⟨fun i q hq ho => ?_, ?_, hi.paired⟩
    · have hmine := hi.active i q hq ho
      have hmq : mq = q := Option.some.inj (hp.symm.trans hmine.pending)
      refine ⟨hpending.trans hmine.pending, fun h => ?_, fun e he => ?_⟩
      · rcases haddress with hsame | h0
        · exact hsame.trans (hmine.destination ha)
        · exact absurd h0 h
      · cases he
        exact ⟨hmq, hmine.destination ha⟩
    · -- the query has just been written: the stream holds its message
      refine settled_linkInv (e := ⟨mq, s.link.comms.address, p.env, s.link.queries⟩) hset hp rfl
        rfl fun _ => ?_
      exact ⟨rfl, (fun x hx => nomatch hx), List.nil_prefix, fun _ => rfl,
        Or.inl ⟨rfl, rfl, rfl, rfl, rfl⟩⟩
  · rw [heq]
    obtain ⟨hpending, haddress⟩ := settled_pending hset
    obtain ⟨e, hwire, hpe, hae, hr, hx⟩ := hi.link.exchange ha hq
    obtain rfl : mq = e.query := Option.some.inj (hp.symm.trans hpe)
    refine ⟨fun i q hq ho => ?_, ?_, hi.paired⟩
    · have hmine := hi.active i q hq ho
      refine ⟨hpending.trans hmine.pending, fun h => ?_, hmine.written⟩
      rcases haddress with hsame | h0
      · exact hsame.trans (hmine.destination ha)
      · exact absurd h0 h
    · rw [hwire]
      refine settled_linkInv hset hp hae hr fun hne => ?_
      have hrun := (hx hne).run (w := ⟨s.link.comms.outgoing, s.link.comms.incoming, s.link.bus⟩)
        (TwoWireTask.run_ran (record bus) p.clock p.offered p.room s.link.comms.twoWireTask _)
      unfold runQuery
      -- a query that expects a reply adds nothing to the stream
      simp only [M.tick_keeps _ _ _ _ hne]
      exact hrun
  · rw [heq]
    exact hi

end Task

/-! ## 5. One step, and the run -/

section Steps

variable {M : ModuleQueries Q O E R β} {bus : TwoWireBus β B} {s s' : Shared Q O E R β B}

/-- The link after `enqueue`. -/
def enqueued (address : Address) (q : Q) (l : Link Q O R β (Recorder β B)) :
    Link Q O R β (Recorder β B) :=
  { l with comms := { l.comms with address := address, pending := some q, hasQuery := true } }

/-- **What one `handle` can do**, with the record: first whether a query is enqueued, then what is
    finished. -/
theorem handleStep_cases {i : Nat} {now : Uptime} (h : handleStep M i now s = some s') :
    (∃ f h' l', due now (s.handlers i) s.link.comms = none ∧
      handleFinish M (s.handlers i) s.link = (f, h', l') ∧
      s' = { s with
        link := l'
        handlers := Function.update s.handlers i h'
        taken := s.taken ++
          took i f (s.handlers i).active.address s.owner s.wire l'.bus.carried }) ∨
    (∃ q f h' l', due now (s.handlers i) s.link.comms = some q ∧
      (s.handlers i).pending.query = some q ∧
      handleFinish M { active := (s.handlers i).pending, pending := {} }
        (enqueued (s.handlers i).pending.address q s.link) = (f, h', l') ∧
      s' = {
        link := l'
        handlers := Function.update s.handlers i h'
        owner := some i
        wire := none
        taken := s.taken ++
          took i f (s.handlers i).pending.address (some i) none l'.bus.carried }) := by
  unfold handleStep handle at h
  rw [Option.map_map, Option.map_eq_some_iff] at h
  obtain ⟨⟨h', c'⟩, henq, heq⟩ := h
  rcases handleEnqueue_cases henq with ⟨hdue, rfl, rfl⟩ | ⟨q, hdue, hq, _, _, rfl, rfl⟩
  · rcases hf : handleFinish M (s.handlers i) s.link with ⟨f, h', l'⟩
    refine Or.inl ⟨f, h', l', hdue, rfl, ?_⟩
    simpa only [Function.comp, hdue, hf] using heq.symm
  · rcases hf : handleFinish M { active := (s.handlers i).pending, pending := {} }
      (enqueued (s.handlers i).pending.address q s.link) with ⟨f, h', l'⟩
    refine Or.inr ⟨q, f, h', l', hdue, hq, hf, ?_⟩
    unfold enqueued at hf
    simpa only [Function.comp, hdue, hf] using heq.symm

/-- What a poll does to the communications object. -/
theorem pollStep_comms (p : Poll E) :
    (pollStep M bus p s).link.comms = (poll M (record bus) p s.link).comms := by
  unfold pollStep
  dsimp only
  split <;> rfl

@[simp] theorem mem_took {i : Nat} {f : Finished Q R} {address : Address} {owner : Option Nat}
    {wire : Option (Exchange Q O E)} {carried : List (Transfer β)} {t : Taken Q O E R β} :
    t ∈ took i f address owner wire carried ↔ ∃ q, f.query = some q ∧
      t = { handler := i, query := q, address, reply := f.reply, owner, wire, carried } := by
  unfold took
  cases f.query <;> simp

/-- What is taken without a reply is paired. -/
theorem paired_of_none {t : Taken Q O E R β} (h : t.reply = none) : Paired M t :=
  fun r hr => absurd (h.symm.trans hr) (by simp)

/-- The active queries of the other handlers after one has finished its own. -/
theorem active_finished {handlers : Nat → ModuleProtocolHandler Q} {i j : Nat}
    {h : ModuleProtocolHandler Q} {q : Q} (hnone : h.active.query = none)
    (ha : (Function.update handlers i h j).active.query = some q) :
    j ≠ i ∧ Function.update handlers i h j = handlers j ∧ (handlers j).active.query = some q := by
  rcases eq_or_ne j i with rfl | hne
  · rw [Function.update_self] at ha
    exact nomatch hnone.symm.trans ha
  · rw [Function.update_of_ne hne] at ha ⊢
    exact ⟨hne, rfl, ha⟩

/-- What a handler's end of a query leaves of the invariant of the others. -/
theorem active_kept {i j : Nat} {h : ModuleProtocolHandler Q} {q : Q} (hi : Inv M s)
    (hnone : h.active.query = none)
    (ha : (Function.update s.handlers i h j).active.query = some q) (ho : s.owner = some j) :
    Enqueued s.wire s.link.comms q (Function.update s.handlers i h j).active.address := by
  obtain ⟨_, heq, ha⟩ := active_finished hnone ha
  rw [heq]
  exact hi.active j q ha ho

/-- What the handler that enqueues has from there on. -/
theorem active_enqueued {handlers : Nat → ModuleProtocolHandler Q} {i j : Nat}
    {h : ModuleProtocolHandler Q} {q q' : Q} {l : Link Q O R β (Recorder β B)}
    (hq : h.active.query = some q) (ha : (Function.update handlers i h j).active.query = some q')
    (ho : some i = some j) :
    Enqueued (none : Option (Exchange Q O E)) (enqueued h.active.address q l).comms q'
      (Function.update handlers i h j).active.address := by
  cases ho
  rw [Function.update_self] at ha ⊢
  obtain rfl : q = q' := Option.some.inj (hq.symm.trans ha)
  exact ⟨rfl, fun _ => rfl, fun _ h => nomatch h⟩

/-- **One orderly `handle` keeps the invariant.** -/
theorem handleStep_inv {i : Nat} {now : Uptime} (hi : Inv M s)
    (ho : Orderly s (.handle i now : Input Q E B)) (h : handleStep M i now s = some s') :
    Inv M s' := by
  obtain ⟨hover, howner⟩ := ho
  rcases handleStep_cases h with ⟨f, h', l', hdue, hf, rfl⟩ | ⟨q, f, h', l', hdue, hq, hf, rfl⟩
  · rcases handleFinish_cases hf with ⟨rfl, rfl, rfl, _⟩ | ⟨q, ha, hr, rfl, rfl, rfl⟩ |
      ⟨q, r, ha, hr, rfl, rfl, rfl⟩
    · -- nothing finished
      refine ⟨?_, hi.link, by simpa [took] using hi.paired⟩
      simpa only [Function.update_eq_self] using hi.active
    · -- finished without a reply
      refine ⟨fun j q₁ hj ho => active_kept hi rfl hj ho, hi.link, fun t ht => ?_⟩
      rcases List.mem_append.mp ht with ht | ht
      · exact hi.paired t ht
      · obtain ⟨_, _, rfl⟩ := mem_took.mp ht
        exact paired_of_none rfl
    · -- took the waiting reply: it is this handler's, so the record is about its query
      have hmine := howner (by simp [ha]) (by simp [hr])
      refine ⟨fun j q₁ hj ho => ?_, ⟨(fun _ h => nomatch h), fun hne hq => ?_⟩, fun t ht => ?_⟩
      · have hkept := active_kept hi rfl hj ho
        exact ⟨hkept.pending, hkept.destination, hkept.written⟩
      · obtain ⟨e, he, hp, hae, hnone, hx⟩ := hi.link.exchange hne hq
        exact nomatch hnone.symm.trans hr
      · rcases List.mem_append.mp ht with ht | ht
        · exact hi.paired t ht
        · obtain ⟨_, hq, rfl⟩ := mem_took.mp ht
          cases hq
          intro r' hr'
          cases hr'
          obtain ⟨e, he, hanswered⟩ := hi.link.waiting r hr
          obtain ⟨heq, hea⟩ := (hi.active i q ha hmine).written e he
          exact ⟨hmine, e, he, heq, hea, hanswered⟩
  · -- a query is enqueued: no reply waits, so none is taken
    have hnone : s.link.comms.reply = none := hover (by simp [hdue])
    have hlink : LinkInv M none (enqueued (s.handlers i).pending.address q s.link) :=
      ⟨(fun _ h => nomatch hnone.symm.trans h), (fun _ h => nomatch h)⟩
    rcases handleFinish_cases hf with ⟨rfl, rfl, rfl, _⟩ | ⟨q₀, ha, hr, rfl, rfl, rfl⟩ |
      ⟨q₀, r, ha, hr, rfl, rfl, rfl⟩
    · exact ⟨fun j q₁ hj ho => active_enqueued hq hj ho, hlink,
        by simpa [took] using hi.paired⟩
    · refine ⟨fun j q₁ hj ho => ?_, hlink, fun t ht => ?_⟩
      · -- the handler has no active query left
        have hown : j = i := (Option.some.inj ho).symm
        exact absurd hown (active_finished rfl hj).1
      · rcases List.mem_append.mp ht with ht | ht
        · exact hi.paired t ht
        · obtain ⟨_, _, rfl⟩ := mem_took.mp ht
          exact paired_of_none rfl
    · exact nomatch hnone.symm.trans hr

/-- **One orderly step keeps the invariant.** -/
theorem step_inv {i : Input Q E B} (hi : Inv M s) (ho : Orderly s i)
    (h : step M bus s i = some s') : Inv M s' := by
  cases i with
  | push j now address query delay =>
      cases h
      exact ⟨fun k q hk ho => active_kept hi rfl hk ho, hi.link, hi.paired⟩
  | handle j now => exact handleStep_inv hi ho h
  | task p =>
      cases h
      exact pollStep_inv hi
  | modules devices =>
      cases h
      exact ⟨hi.active, ⟨hi.link.waiting, hi.link.exchange⟩, hi.paired⟩

end Steps

/-- Two queries of one byte each; a module echoes the byte it was sent. -/
def echoQueries : ModuleQueries Bool Unit Unit Bool Bool where
  replyConfig _ := ReplyConfig.Default
  prepare q _ _ outgoing := ((), ModuleQuery.prepare [q] outgoing)
  tick _ _ _ outgoing := ((), outgoing)
  reply _ _ _ := ()
  decode := List.head?
  replyType _ := .REPLY_DATA
  tick_keeps _ _ _ _ _ := rfl

/-- The bus of one such module. -/
def echoBus : TwoWireBus Bool (List Bool) where
  send _ _ bytes := (true, bytes)
  receive d _ _ := (d, d)

/-- A poll at `now`. -/
def pollAt (now : Uptime) : Input Bool Unit (List Bool) :=
  .task { clock := Clock.still now, offered := 255, room := 256, env := () }

/-- Handler 0 has its query sent and answered. -/
def answered : List (Input Bool Unit (List Bool)) :=
  [.push 0 500 8 true 0, .handle 0 600, pollAt 1000, pollAt 1010, pollAt 1200, pollAt 1300]

end FieldKit.Pairing

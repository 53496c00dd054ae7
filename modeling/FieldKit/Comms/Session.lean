/-
  File:      FieldKit/Comms/Session.lean
  Subject:   One handler on a communications object of its own, phase by phase.

  A handler that nobody interferes with goes through the same phases for each query it is given:
  the query waits, is written, is on the wire, and has ended, with a reply or without one.

  * `handle_handled` -- what `handle` does in each phase;
  * `poll_fresh`, `poll_running`, `poll_still` -- what a poll does in each phase;
  * `Stage`, `Move`, `poll_moves` -- the same over a stream library that hands over what it has: a
    message goes out whole, what comes back is read whole, and a poll is a few moves of a small
    machine over the bus.
-/
import FieldKit.Comms.ModuleComms
import Mathlib.Logic.Relation
import Mathlib.Tactic.Common

namespace FieldKit.Session

open ModuleCommunications ModuleProtocolHandler

variable {Q O E R β B : Type}

/-! ## 1. The phases -/

/-- Where a query stands. -/
inductive Phase (Q R : Type) where
  | resting
  | queued (q : Q)
  | fresh (q : Q)
  | running (q : Q)
  | ended (q : Q) (r : Option R)

/-- The query of a phase. -/
def Phase.query : Phase Q R → Option Q
  | .resting => none
  | .queued q | .fresh q | .running q | .ended q _ => some q

/-- No transaction, and no reply waiting. -/
structure AtRest (c : ModuleCommunications Q R β) : Prop where
  address : c.address = 0
  hasQuery : c.hasQuery = false
  reply : c.reply = none

/-- A transaction of `q` at `a`. -/
structure Busy (a : Address) (q : Q) (hasQuery : Bool) (c : ModuleCommunications Q R β) : Prop where
  address : c.address = a
  pending : c.pending = some q
  hasQuery : c.hasQuery = hasQuery
  reply : c.reply = none

/-- A communications object that is busy has a query for an address. -/
theorem Busy.not_idle {a : Address} {q : Q} {hasQuery : Bool} {c : ModuleCommunications Q R β}
    (h : Busy a q hasQuery c) (ha : a ≠ 0) : ¬ (c.address = 0 ∨ c.pending = none) := by
  rintro (h0 | hnone)
  · exact ha (h.address.symm.trans h0)
  · exact absurd (h.pending.symm.trans hnone) (by simp)

/-- **The phases of a handler that only asks the module at `a`**, and of its communications
    object. -/
inductive InPhase (a : Address) :
    ModuleProtocolHandler Q → ModuleCommunications Q R β → Phase Q R → Prop where
  | resting {c : ModuleCommunications Q R β} (rest : AtRest c) : InPhase a {} c .resting
  | queued {c : ModuleCommunications Q R β} (q : Q) (d : Uptime) (rest : AtRest c) :
      InPhase a { pending := ⟨a, some q, d⟩ } c (.queued q)
  | fresh {c : ModuleCommunications Q R β} (q : Q) (d : Uptime) (busy : Busy a q true c) :
      InPhase a { active := ⟨a, some q, d⟩ } c (.fresh q)
  | running {c : ModuleCommunications Q R β} (q : Q) (d : Uptime) (busy : Busy a q false c) :
      InPhase a { active := ⟨a, some q, d⟩ } c (.running q)
  | ended {c : ModuleCommunications Q R β} (q : Q) (d : Uptime) (r : Option R)
      (ha : c.address = 0) (hq : c.hasQuery = false) (hr : c.reply = r) :
      InPhase a { active := ⟨a, some q, d⟩ } c (.ended q r)

variable {M : ModuleQueries Q O E R β} {bus : TwoWireBus β B} {a : Address} {p : Poll E}
  {h h' : ModuleProtocolHandler Q} {l l' : Link Q O R β B} {q : Q} {r : Option R} {now : Uptime}
  {f : Finished Q R}

/-- A transaction keeps the communications object busy. -/
theorem busy_of_ne {c : ModuleCommunications Q R β} (ha : c.address ≠ 0) : c.busy = true := by
  simp only [ModuleCommunications.busy, decide_eq_true_eq]
  generalize c.address = a at ha
  bv_omega

/-- Without a query that is due, `handle` is its second half. -/
theorem handle_of_not_due (hdue : due now h l.comms = none) :
    handle M now h l = some (handleFinish M h l) := by
  simp [handle, handleEnqueue, hdue]

theorem InPhase.eq_of_resting {c : ModuleCommunications Q R β} (hin : InPhase a h c .resting) :
    h = {} := by
  cases hin
  rfl

theorem InPhase.reply_of_ended {c : ModuleCommunications Q R β} (hin : InPhase a h c (.ended q r)) :
    c.reply = r := by
  cases hin
  assumption

theorem InPhase.pending_of_running {c : ModuleCommunications Q R β}
    (hin : InPhase a h c (.running q)) : c.pending = some q := by
  cases hin with
  | running _ _ busy => exact busy.pending

/-- `push` onto a handler at rest. -/
theorem push_queued (hin : InPhase a h l.comms .resting) (q : Q) (delay : Uptime) :
    InPhase a (h.push now a q delay) l.comms (.queued q) := by
  cases hin with
  | resting rest => exact .queued q _ rest

/-- A handler is busy until it rests. -/
theorem isBusy_iff (ha : a ≠ 0) {ph : Phase Q R} (hin : InPhase a h l.comms ph) :
    h.isBusy = true ↔ ph ≠ .resting := by
  have hpos : 0#8 < a := by bv_omega
  cases hin <;> simp [isBusy, Queued.isQueued, hpos]

/-! ## 2. What `handle` does -/

/-- A query that waits goes on waiting, or is enqueued. -/
theorem handle_queued (ha : a ≠ 0) (hin : InPhase a h l.comms (.queued q))
    (hh : handle M now h l = some (f, h', l')) :
    f = {} ∧ ((due now h l.comms = none ∧ h' = h ∧ l' = l) ∨
      (due now h l.comms = some q ∧ InPhase a h' l'.comms (.fresh q) ∧
        l' = { l with comms := { l.comms with address := a, pending := some q, hasQuery := true } })) := by
  cases hin with
  | queued _ d rest =>
      obtain ⟨⟨h1, c1⟩, henq, hfin⟩ := Option.map_eq_some_iff.mp hh
      rcases handleEnqueue_cases henq with ⟨hdue, rfl, rfl⟩ | ⟨q', hdue, hq', -, -, rfl, rfl⟩
      · simp only [handleFinish] at hfin
        cases hfin
        exact ⟨rfl, Or.inl ⟨hdue, rfl, rfl⟩⟩
      · cases hq'
        have hreply := rest.reply
        simp only [handleFinish] at hfin
        split at hfin
        · next hr => exact absurd (hreply.symm.trans hr) (by simp)
        · split at hfin
          · cases hfin
            exact ⟨rfl, Or.inr ⟨hdue, .fresh q d ⟨rfl, rfl, rfl, hreply⟩, rfl⟩⟩
          · next hfree => exact absurd (busy_of_ne ha) hfree

/-- A query that is written or on the wire is waited for. -/
theorem handle_waiting (now : Uptime) (ha : a ≠ 0)
    (hin : InPhase a h l.comms (.fresh q) ∨ InPhase a h l.comms (.running q)) :
    due now h l.comms = none ∧ handle M now h l = some ({}, h, l) := by
  obtain ⟨d, b, rfl, busy⟩ : ∃ d b, h = { active := ⟨a, some q, d⟩ } ∧ Busy a q b l.comms := by
    rcases hin with hin | hin
    · cases hin with
      | fresh _ d busy => exact ⟨d, true, rfl, busy⟩
    · cases hin with
      | running _ d busy => exact ⟨d, false, rfl, busy⟩
  have hdue : due now { active := ⟨a, some q, d⟩ } l.comms = none := by simp [due]
  have hbusy : l.comms.busy = true := busy_of_ne (busy.address ▸ ha)
  refine ⟨hdue, ?_⟩
  rw [handle_of_not_due hdue]
  simp [handleFinish, busy.reply, hbusy]

/-- **A query that has ended is finished, with its reply.** -/
theorem handle_ended (now : Uptime) (hin : InPhase a h l.comms (.ended q r)) :
    due now h l.comms = none ∧ ∃ l', handle M now h l = some ({ query := some q, reply := r }, {}, l') ∧
      InPhase a {} l'.comms .resting ∧ l'.bus = l.bus ∧
      l'.queries = r.elim l.queries (fun r => M.reply q r l.queries) := by
  cases hin with
  | ended _ d r haddr hq hr =>
      have hdue : due now { active := ⟨a, some q, d⟩ } l.comms = none := by simp [due]
      refine ⟨hdue, ?_⟩
      rw [handle_of_not_due hdue]
      cases r with
      | none =>
          have hfree : l.comms.busy = false := by simp [ModuleCommunications.busy, haddr]
          exact ⟨l, by simp [handleFinish, hr, hfree], .resting ⟨haddr, hq, hr⟩, rfl, rfl⟩
      | some r =>
          refine ⟨{ l with comms := l.comms.dequeue, queries := M.reply q r l.queries }, ?_,
            .resting ⟨haddr, hq, rfl⟩, rfl, rfl⟩
          simp only [handleFinish, hr]

/-- **What one `handle` can do**, by the phase of the query: it waits, or the query is enqueued, or
    it is finished. -/
inductive Handled (M : ModuleQueries Q O E R β) (a : Address) (now : Uptime)
    (h : ModuleProtocolHandler Q) (l : Link Q O R β B) :
    Phase Q R → Finished Q R → ModuleProtocolHandler Q → Link Q O R β B → Prop where
  | waits {ph : Phase Q R} (hnot : ∀ q r, ph ≠ .ended q r) (hdue : due now h l.comms = none) :
      Handled M a now h l ph {} h l
  | enqueues {q : Q} {h' : ModuleProtocolHandler Q} {l' : Link Q O R β B}
      (hdue : due now h l.comms = some q) (hin : InPhase a h' l'.comms (.fresh q))
      (hbus : l'.bus = l.bus) (hqueries : l'.queries = l.queries) :
      Handled M a now h l (.queued q) {} h' l'
  | finishes {q : Q} {r : Option R} {l' : Link Q O R β B} (hdue : due now h l.comms = none)
      (hin : InPhase a {} l'.comms .resting) (hbus : l'.bus = l.bus)
      (hqueries : l'.queries = r.elim l.queries (fun r => M.reply q r l.queries)) :
      Handled M a now h l (.ended q r) { query := some q, reply := r } {} l'

/-- **Every `handle` is one of these.** -/
theorem handle_handled (ha : a ≠ 0) {ph : Phase Q R} (hin : InPhase a h l.comms ph)
    (hh : handle M now h l = some (f, h', l')) : Handled M a now h l ph f h' l' := by
  cases ph with
  | resting =>
      obtain rfl : h = {} := hin.eq_of_resting
      have hdue : due now {} l.comms = none := by simp [due]
      rw [handle_of_not_due hdue] at hh
      cases hh
      exact .waits (by simp) hdue
  | queued q =>
      obtain ⟨rfl, ⟨hdue, rfl, rfl⟩ | ⟨hdue, hfresh, rfl⟩⟩ := handle_queued ha hin hh
      · exact .waits (by simp) hdue
      · exact .enqueues hdue hfresh rfl rfl
  | fresh q =>
      obtain ⟨hdue, hsame⟩ := handle_waiting (M := M) now ha (Or.inl hin)
      cases hsame.symm.trans hh
      exact .waits (by simp) hdue
  | running q =>
      obtain ⟨hdue, hsame⟩ := handle_waiting (M := M) now ha (Or.inr hin)
      cases hsame.symm.trans hh
      exact .waits (by simp) hdue
  | ended q r =>
      obtain ⟨hdue, l1, hsame, hrest, hbus, hqueries⟩ :=
        handle_ended (M := M) now hin
      cases hsame.symm.trans hh
      exact .finishes hdue hrest hbus hqueries

/-! ## 3. What a poll does -/

/-- Without a transaction a poll does nothing. -/
theorem poll_still (hl : l.comms.address = 0) : poll M bus p l = l := by
  unfold poll task
  cases l.comms.pending <;> simp [hl]

/-- A query that was enqueued is written; the clock may take its time over it. -/
theorem poll_fresh (bus : TwoWireBus β B) (ha : a ≠ 0) (hin : InPhase a h l.comms (.fresh q)) :
    ∃ c', poll M bus p l = { startQuery M p q l with comms := c' } ∧
      ((c' = (startQuery M p q l).comms ∧ InPhase a h c' (.running q)) ∨
        (InPhase a h c' (.ended q none) ∧ (M.replyConfig q).transactionTimeout <
          p.clock.ended - p.clock.checked)) := by
  cases hin with
  | fresh _ d busy =>
      have hstart : InPhase a { active := ⟨a, some q, d⟩ } (startQuery M p q l).comms
          (.running q) := .running q d ⟨busy.address, busy.pending, rfl, rfl⟩
      -- the bus was only just asked, so nothing closes the transaction but the clock
      have hopen : (startQuery M p q l).comms.twoWireTask.completed = false := by
        simp [startQuery, TwoWireTask.enqueued, TwoWireTask.completed]
      have hpoll := poll_polled M bus p l
      generalize hl' : poll M bus p l = l' at hpoll
      cases hpoll with
      | idle hidle => exact absurd hidle (busy.not_idle ha)
      | ran mq c' _ _ hq => exact absurd (busy.hasQuery.symm.trans hq) (by decide)
      | started mq c' hp _ _ hset =>
          cases busy.pending.symm.trans hp
          refine ⟨c', rfl, ?_⟩
          cases hset with
          | running => exact Or.inl ⟨rfl, hstart⟩
          | expired _ hout => exact Or.inr ⟨.ended q d none rfl rfl rfl, hout⟩
          | silent hc => exact absurd (hopen.symm.trans hc) (by decide)
          | missed hc => exact absurd (hopen.symm.trans hc) (by decide)
          | malformed hc => exact absurd (hopen.symm.trans hc) (by decide)
          | busy _ hc => exact absurd (hopen.symm.trans hc) (by decide)
          | retry _ hc => exact absurd (hopen.symm.trans hc) (by decide)
          | answered _ hc => exact absurd (hopen.symm.trans hc) (by decide)

/-- **A query on the wire**: the exchange runs once, and then the transaction is settled. -/
theorem poll_running (bus : TwoWireBus β B) (ha : a ≠ 0) (hin : InPhase a h l.comms (.running q)) :
    ∃ c', poll M bus p l = { runQuery M bus p q l with comms := c' } ∧
      Settled M p.clock q (runQuery M bus p q l).comms c' ∧
      Busy a q false (runQuery M bus p q l).comms := by
  cases hin with
  | running _ d busy =>
      have hpoll := poll_polled M bus p l
      generalize hl' : poll M bus p l = l' at hpoll
      cases hpoll with
      | idle hidle => exact absurd hidle (busy.not_idle ha)
      | started mq c' _ _ hq => exact absurd (busy.hasQuery.symm.trans hq) (by decide)
      | ran mq c' hp _ _ hset =>
          cases busy.pending.symm.trans hp
          exact ⟨c', rfl, hset, ⟨busy.address, busy.pending, busy.hasQuery, busy.reply⟩⟩

/-- **Where a settled transaction stands.** -/
theorem settled_phase {c : Clock} {s s' : ModuleCommunications Q R β}
    (hin : InPhase a h l.comms (.running q)) (hb : Busy a q false s)
    (hset : Settled M c q s s') : ∃ ph, InPhase a h s' ph ∧ ph.query = some q := by
  cases hin with
  | running _ d _ =>
      cases hset with
      | running => exact ⟨_, .running q d hb, rfl⟩
      | expired => exact ⟨_, .ended q d _ rfl hb.hasQuery rfl, rfl⟩
      | silent => exact ⟨_, .ended q d _ rfl hb.hasQuery rfl, rfl⟩
      | missed => exact ⟨_, .ended q d _ rfl hb.hasQuery rfl, rfl⟩
      | malformed => exact ⟨_, .ended q d _ rfl hb.hasQuery rfl, rfl⟩
      | busy => exact ⟨_, .running q d ⟨hb.address, hb.pending, hb.hasQuery, hb.reply⟩, rfl⟩
      | retry => exact ⟨_, .fresh q d ⟨hb.address, hb.pending, rfl, rfl⟩, rfl⟩
      | answered r => exact ⟨_, .ended q d _ rfl hb.hasQuery rfl, rfl⟩

/-! ## 4. The stages of an exchange -/

/-- Where a query stands, the exchange included: a message that is written, has been sent, or has
    something read for it, or a query that streams and expects no reply. -/
inductive Stage (Q R β : Type) where
  | resting
  | queued (q : Q)
  | fresh (q : Q)
  | unsent (q : Q)
  | asked (q : Q)
  | got (q : Q) (bytes : List β)
  | stream (q : Q)
  | ended (q : Q) (r : Option R)

/-- The phase of a stage. -/
def Stage.phase : Stage Q R β → Phase Q R
  | .resting => .resting
  | .queued q => .queued q
  | .fresh q => .fresh q
  | .unsent q | .asked q | .got q _ | .stream q => .running q
  | .ended q r => .ended q r

theorem Stage.eq_resting {st : Stage Q R β} (h : st.phase = .resting) : st = .resting := by
  cases st <;> first | rfl | cases h

theorem Stage.eq_queued {st : Stage Q R β} (h : st.phase = .queued q) : st = .queued q := by
  cases st <;> cases h
  rfl

theorem Stage.eq_ended {st : Stage Q R β} (h : st.phase = .ended q r) : st = .ended q r := by
  cases st <;> cases h
  rfl

/-- **What the exchange does to the bus**, move by move. `encode` is the message of a query,
    `streamed` says which queries have none, and `S` what the pieces of a stream are like. -/
inductive Move (M : ModuleQueries Q O E R β) (bus : TwoWireBus β B) (a : Address)
    (encode : Q → List β) (streamed : Q → Bool) (S : List β → Prop) :
    B × Stage Q R β → B × Stage Q R β → Prop where
  | written {q : Q} (b : B) (hq : streamed q = false) : Move M bus a encode streamed S
      (b, .fresh q) (b, .unsent q)
  | opened {q : Q} (b : B) (hq : streamed q = true) : Move M bus a encode streamed S
      (b, .fresh q) (b, .stream q)
  | sent {q : Q} {b b' : B} {ok : Bool} (h : bus.send b a (encode q) = (ok, b')) :
      Move M bus a encode streamed S (b, .unsent q) (b', .asked q)
  | nothing {q : Q} {b b' : B} (h : bus.receive b a (serialBufferSize - 1) = ([], b')) :
      Move M bus a encode streamed S (b, .asked q) (b', .asked q)
  | received {q : Q} {b b' : B} {bytes : List β} (hne : bytes ≠ [])
      (h : bus.receive b a (serialBufferSize - 1) = (bytes, b')) :
      Move M bus a encode streamed S (b, .asked q) (b', .got q bytes)
  | piece {q : Q} {b b' : B} {bytes : List β} {ok : Bool} (hS : S bytes)
      (h : bus.send b a bytes = (ok, b')) :
      Move M bus a encode streamed S (b, .stream q) (b', .stream q)
  | busy {q : Q} {b : B} {bytes : List β} {r : R} (hd : M.decode bytes = some r)
      (ht : M.replyType r = .REPLY_BUSY) :
      Move M bus a encode streamed S (b, .got q bytes) (b, .asked q)
  | retry {q : Q} {b : B} {bytes : List β} {r : R} (hd : M.decode bytes = some r)
      (ht : M.replyType r = .REPLY_RETRY) :
      Move M bus a encode streamed S (b, .got q bytes) (b, .fresh q)
  | answered {q : Q} {b : B} {bytes : List β} {r : R} (hd : M.decode bytes = some r)
      (hb : M.replyType r ≠ .REPLY_BUSY) (ht : M.replyType r ≠ .REPLY_RETRY) :
      Move M bus a encode streamed S (b, .got q bytes) (b, .ended q (some r))
  | dropped {q : Q} {b : B} {st : Stage Q R β}
      (hst : st = .unsent q ∨ st = .asked q ∨ (∃ bytes, st = .got q bytes) ∨ st = .stream q) :
      Move M bus a encode streamed S (b, st) (b, .ended q none)

/-- **What is asked of the queries**: a query is one message that fits a transfer and expects one
    reply, or it is streamed and expects none. The message is that of the query objects once it is
    written. `K` is what is known of the query objects. -/
structure Speaks (M : ModuleQueries Q O E R β) (encode : Q → O → List β) (streamed : Q → Bool)
    (K : O → Prop) : Prop where
  one : ∀ q, streamed q = false → (M.replyConfig q).expectedReplies = 1
  none : ∀ q, streamed q = true → (M.replyConfig q).expectedReplies = 0
  prepare : ∀ q e o, streamed q = false →
    (M.prepare q e o Ring.clear).2 =
      { bytes := encode q (M.prepare q e o Ring.clear).1, closed := true }
  tick : ∀ q e o out, streamed q = false → M.tick q e o out = (o, out)
  fits : ∀ q o, K o → streamed q = false → (encode q o).length < serialBufferSize
  kept : ∀ q e o out, K o → K (M.prepare q e o out).1 ∧ K (M.tick q e o out).1

/-- The message has not been sent. -/
structure Unsent (a : Address) (m : List β) (t : TwoWireTask) (outgoing incoming : Ring β) : Prop where
  outgoing : outgoing = { bytes := m, closed := true }
  incoming : incoming = {}
  address : t.address = a
  out : t.outgoing = true
  sending : t.dieAt = 0
  received : t.bytesReceived = 0
  expects : t.repliesRemaining = 1

/-- The message has been sent, and nothing has been read. -/
structure Asked (a : Address) (t : TwoWireTask) (outgoing incoming : Ring β) : Prop where
  outgoing : outgoing.bytes = []
  incoming : incoming = {}
  address : t.address = a
  received : t.bytesReceived = 0
  expects : t.repliesRemaining = 1

/-- These bytes have been read. -/
structure Got (bytes : List β) (t : TwoWireTask) (outgoing incoming : Ring β) : Prop where
  outgoing : outgoing.bytes = []
  incoming : incoming.bytes = bytes
  received : 0 < t.bytesReceived
  expects : t.repliesRemaining = 0

/-- No reply is expected. -/
structure Streams (a : Address) (t : TwoWireTask) : Prop where
  address : t.address = a
  out : t.outgoing = true
  expects : t.repliesRemaining = 0

/-- What the stream library hands over in this poll: everything. -/
structure Whole (p : Poll E) : Prop where
  offered : serialBufferSize ≤ p.offered + 1
  room : serialBufferSize ≤ p.room + 1

/-- Such a poll. -/
def wholePoll (clock : Clock) (env : E) : Poll E where
  clock := clock
  offered := serialBufferSize - 1
  room := serialBufferSize
  env := env

theorem whole_wholePoll (clock : Clock) (env : E) : Whole (wholePoll clock env) :=
  ⟨Nat.le_refl _, Nat.le_succ _⟩

section Ran

variable {p : Poll E} {t t' : TwoWireTask} {w w' : Wires β B}

/-- A message that has not been sent waits, or goes out whole. -/
theorem ran_unsent {m : List β} (hm : m.length < serialBufferSize) (hp : Whole p)
    (hran : TwoWireTask.Ran bus p.clock p.offered p.room t w t' w')
    (hi : Unsent a m t w.outgoing w.incoming) :
    (w'.bus = w.bus ∧ Unsent a m t' w'.outgoing w'.incoming) ∨
    (∃ ok, bus.send w.bus a m = (ok, w'.bus) ∧ Asked a t' w'.outgoing w'.incoming) := by
  -- a read of the outgoing stream hands over the message
  have hwhole {bytes rest : List β} (hw : w.outgoing.bytes = bytes ++ rest)
      (hread : (w.outgoing.read (serialBufferSize - 1) p.offered).1 = some bytes) :
      bytes = m ∧ rest = [] := by
    have hoff := hp.offered
    rw [hi.outgoing] at hw hread
    simp only at hw
    cases m with
    | nil => simp [Ring.read] at hread
    | cons x xs =>
        have htake : (x :: xs).take (min (max 1 p.offered) (serialBufferSize - 1)) = x :: xs := by
          apply List.take_of_length_le
          omega
        simp only [Ring.read, htake, Option.some.injEq] at hread
        subst hread
        exact ⟨rfl, List.self_eq_append_right.mp hw⟩
  cases hran with
  | waits => exact Or.inl ⟨rfl, hi⟩
  | dry => exact Or.inl ⟨rfl, hi⟩
  | drained => exact Or.inl ⟨rfl, hi.outgoing, hi.incoming, hi.address, hi.out, hi.sending,
      hi.received, hi.expects⟩
  | refused bytes rest b _ _ _ hw hsend hread =>
      obtain ⟨rfl, rfl⟩ := hwhole hw hread
      refine Or.inr ⟨false, hi.address ▸ hsend, rfl, hi.incoming, hi.address, hi.received, hi.expects⟩
  | sent bytes rest b _ _ _ _ hw hsend hread =>
      obtain ⟨rfl, rfl⟩ := hwhole hw hread
      exact Or.inr ⟨true, hi.address ▸ hsend, rfl, hi.incoming, hi.address, hi.received, hi.expects⟩
  | asks out => exact absurd (hi.out.symm.trans out) (by decide)
  | nothing out => exact absurd (hi.out.symm.trans out) (by decide)
  | late hw => exact absurd hi.sending hw
  | empty _ hw => exact absurd hi.sending hw
  | received _ _ _ hw => exact absurd hi.sending hw
  | swept hw => exact absurd hi.sending hw

/-- What has been asked waits, or reads what comes back. -/
theorem ran_asked (hsize : ∀ b, ((bus.receive b a (serialBufferSize - 1)).1).length < serialBufferSize)
    (hp : Whole p) (hran : TwoWireTask.Ran bus p.clock p.offered p.room t w t' w')
    (hi : Asked a t w.outgoing w.incoming) :
    (w'.bus = w.bus ∧ Asked a t' w'.outgoing w'.incoming) ∨
    (bus.receive w.bus a (serialBufferSize - 1) = ([], w'.bus) ∧
      Asked a t' w'.outgoing w'.incoming) ∨
    (∃ bytes, bytes ≠ [] ∧ bus.receive w.bus a (serialBufferSize - 1) = (bytes, w'.bus) ∧
      Got bytes t' w'.outgoing w'.incoming) := by
  cases hran with
  | waits => exact Or.inl ⟨rfl, hi⟩
  | dry => exact Or.inl ⟨rfl, hi⟩
  | drained => exact Or.inl ⟨rfl, hi.outgoing, hi.incoming, hi.address, hi.received, hi.expects⟩
  | refused bytes rest b _ _ hne hw =>
      exact absurd (List.append_eq_nil_iff.mp (hw.symm.trans hi.outgoing)).1 hne
  | sent bytes rest b _ _ _ hne hw =>
      exact absurd (List.append_eq_nil_iff.mp (hw.symm.trans hi.outgoing)).1 hne
  | asks => exact Or.inl ⟨rfl, hi.outgoing, hi.incoming, hi.address, hi.received, hi.expects⟩
  | nothing => exact Or.inl ⟨rfl, hi.outgoing, hi.incoming, hi.address, hi.received, hi.expects⟩
  | late => exact Or.inl ⟨rfl, hi.outgoing, hi.incoming, hi.address, hi.received, hi.expects⟩
  | empty b _ _ hrecv =>
      exact Or.inr (Or.inl ⟨hi.address ▸ hrecv, hi.outgoing, hi.incoming, hi.address, rfl, hi.expects⟩)
  | received bytes remaining b _ _ hne hrecv hrem =>
      have hroom := hp.room
      have hlen : bytes.length < serialBufferSize := by
        have := hsize w.bus
        rwa [← hi.address, hrecv] at this
      have hwrite : w.incoming.write bytes p.room = (some bytes.length, { bytes, closed := false }) := by
        rw [hi.incoming]
        have hmin : min p.room bytes.length = bytes.length := by omega
        simp [Ring.write, hmin, List.take_of_length_le (show bytes.length ≤ p.room by omega)]
      have hzero : remaining = 0 := by simp [hrem, hwrite, hi.expects]
      have hpos : 0 < bytes.length := List.length_pos_iff.mpr hne
      refine Or.inr (Or.inr ⟨bytes, hne, hi.address ▸ hrecv, hi.outgoing, by simp [hwrite], ?_, ?_⟩)
      · cases t.outgoing <;> exact hpos
      · cases t.outgoing <;> exact hzero
  | swept _ hr => exact absurd (hi.expects.symm.trans hr) (by decide)

/-- What has been read stays. -/
theorem ran_got {bytes : List β} (hran : TwoWireTask.Ran bus p.clock p.offered p.room t w t' w')
    (hi : Got bytes t w.outgoing w.incoming) :
    w'.bus = w.bus ∧ Got bytes t' w'.outgoing w'.incoming := by
  have hzero := hi.expects
  cases hran with
  | waits => exact ⟨rfl, hi⟩
  | dry => exact ⟨rfl, hi⟩
  | drained => exact ⟨rfl, hi.outgoing, hi.incoming, hi.received, hi.expects⟩
  | refused bytes rest b _ _ hne hw =>
      exact absurd (List.append_eq_nil_iff.mp (hw.symm.trans hi.outgoing)).1 hne
  | sent bytes rest b _ _ _ hne hw =>
      exact absurd (List.append_eq_nil_iff.mp (hw.symm.trans hi.outgoing)).1 hne
  | asks _ expects => exact absurd hzero (by omega)
  | nothing => exact ⟨rfl, hi.outgoing, hi.incoming, hi.received, hi.expects⟩
  | late => exact ⟨rfl, hi.outgoing, hi.incoming, hi.received, hi.expects⟩
  | empty _ _ expects => exact absurd hzero (by omega)
  | received _ _ _ _ expects => exact absurd hzero (by omega)
  | swept =>
      refine ⟨rfl, hi.outgoing, hi.incoming, ?_, ?_⟩
      · cases t.outgoing <;> exact hi.received
      · cases t.outgoing <;> exact hi.expects

/-- A stream sends pieces, and reads nothing. -/
theorem ran_streams (hran : TwoWireTask.Ran bus p.clock p.offered p.room t w t' w')
    (hi : Streams a t) :
    Streams a t' ∧ (w'.bus = w.bus ∨ ∃ bytes ok,
      (w.outgoing.read (serialBufferSize - 1) p.offered).1 = some bytes ∧ bytes ≠ [] ∧
      bus.send w.bus a bytes = (ok, w'.bus)) := by
  have hzero := hi.expects
  have hsame : Streams a t := hi
  cases hran with
  | waits => exact ⟨hi, Or.inl rfl⟩
  | dry => exact ⟨hi, Or.inl rfl⟩
  | drained => exact ⟨⟨hi.address, hi.out, hi.expects⟩, Or.inl rfl⟩
  | refused bytes rest b _ _ hne _ hsend hread =>
      exact ⟨⟨hi.address, hi.out, hi.expects⟩,
        Or.inr ⟨bytes, false, hread, hne, hi.address ▸ hsend⟩⟩
  | sent bytes rest b _ _ _ hne _ hsend hread =>
      exact ⟨⟨hi.address, hi.out, hi.expects⟩, Or.inr ⟨bytes, true, hread, hne, hi.address ▸ hsend⟩⟩
  | asks out => exact absurd (hi.out.symm.trans out) (by decide)
  | nothing out => exact absurd (hi.out.symm.trans out) (by decide)
  | late => exact ⟨⟨hi.address, hi.out, hi.expects⟩, Or.inl rfl⟩
  | empty _ _ expects => exact absurd hzero (by omega)
  | received _ _ _ _ expects => exact absurd hzero (by omega)
  | swept =>
      rw [hi.out, if_pos rfl]
      exact ⟨⟨hi.address, rfl, hi.expects⟩, Or.inl rfl⟩

end Ran

/-! ## 5. A poll is a few moves -/

/-- **The stages of a handler that only asks the module at `a`.** -/
def InStage (encode : Q → O → List β) (streamed : Q → Bool) (a : Address)
    (h : ModuleProtocolHandler Q) (l : Link Q O R β B) : Stage Q R β → Prop
  | .resting => InPhase a h l.comms .resting
  | .queued q => InPhase a h l.comms (.queued q)
  | .fresh q => InPhase a h l.comms (.fresh q)
  | .unsent q => InPhase a h l.comms (.running q) ∧ streamed q = false ∧
      Unsent a (encode q l.queries) l.comms.twoWireTask l.comms.outgoing l.comms.incoming
  | .asked q => InPhase a h l.comms (.running q) ∧ streamed q = false ∧
      Asked a l.comms.twoWireTask l.comms.outgoing l.comms.incoming
  | .got q bytes => InPhase a h l.comms (.running q) ∧ streamed q = false ∧
      Got bytes l.comms.twoWireTask l.comms.outgoing l.comms.incoming
  | .stream q => InPhase a h l.comms (.running q) ∧ streamed q = true ∧
      Streams a l.comms.twoWireTask
  | .ended q r => InPhase a h l.comms (.ended q r)

section Moves

variable {encode : Q → O → List β} {streamed : Q → Bool} {S : List β → Prop} {K : O → Prop}
  {c : Clock}
  {s s' : ModuleCommunications Q R β} {o : O} {b : B}

/-- What a poll did to the bus, and where the query stands after it. -/
def Moved (M : ModuleQueries Q O E R β) (bus : TwoWireBus β B) (a : Address)
    (encode : Q → O → List β) (streamed : Q → Bool) (S : List β → Prop)
    (h : ModuleProtocolHandler Q) (l : Link Q O R β B) (st : Stage Q R β) (l' : Link Q O R β B) :
    Prop :=
  ∃ st', InStage encode streamed a h l' st' ∧
    Relation.ReflTransGen (Move M bus a (encode · l.queries) streamed S) (l.bus, st) (l'.bus, st')

/-- A query that is being exchanged. -/
def Exchanging (q : Q) (st : Stage Q R β) : Prop :=
  st = .unsent q ∨ st = .asked q ∨ (∃ bytes, st = .got q bytes) ∨ st = .stream q

theorem InStage.running {st : Stage Q R β} (hx : Exchanging q st)
    (hin : InStage encode streamed a h l st) : InPhase a h l.comms (.running q) := by
  rcases hx with rfl | rfl | ⟨bytes, rfl⟩ | rfl <;> exact hin.1

theorem InStage.phase {st : Stage Q R β} (hin : InStage encode streamed a h l st) :
    InPhase a h l.comms st.phase := by
  cases st with
  | resting | queued q | fresh q | ended q r => exact hin
  | unsent q | asked q | got q bytes | stream q => exact hin.1

/-- Bytes come only with a reply that was asked for. -/
theorem got_of_received (hM : Speaks M encode streamed K) {st : Stage Q R β} (hx : Exchanging q st)
    (hin : InStage encode streamed a h ⟨s, o, b⟩ st) (he : (M.replyConfig q).expectedReplies ≠ 0)
    (hr : 0 < s.twoWireTask.bytesReceived) :
    st = .got q s.incoming.bytes ∧ streamed q = false := by
  rcases hx with rfl | rfl | ⟨bytes, rfl⟩ | rfl
  · exact absurd hin.2.2.received (by simp only; omega)
  · exact absurd hin.2.2.received (by simp only; omega)
  · exact ⟨by rw [← hin.2.2.incoming], hin.2.1⟩
  · exact absurd (hM.none q hin.2.1) he

/-- **The end of a poll**: the exchange goes on, or one move ends it. -/
theorem settled_moves (hM : Speaks M encode streamed K) (m : Q → List β) {st : Stage Q R β}
    (hx : Exchanging q st) (hin : InStage encode streamed a h ⟨s, o, b⟩ st)
    (hset : Settled M c q s s') :
    ∃ st', InStage encode streamed a h ⟨s', o, b⟩ st' ∧
      Relation.ReflTransGen (Move M bus a m streamed S) (b, st) (b, st') := by
  have hrun := hin.running hx
  have hdropped : Relation.ReflTransGen (Move M bus a m streamed S) (b, st) (b, .ended q none) :=
    .single (.dropped hx)
  cases hrun with
  | running _ d busy =>
      have hended : InPhase a { active := ⟨a, some q, d⟩ } s.release (.ended q none) :=
        .ended q d none rfl busy.hasQuery busy.reply
      cases hset with
      | running => exact ⟨st, hin, .refl⟩
      | expired => exact ⟨.ended q none, hended, hdropped⟩
      | silent => exact ⟨.ended q none, hended, hdropped⟩
      | missed => exact ⟨.ended q none, hended, hdropped⟩
      | malformed =>
          exact ⟨.ended q none, InPhase.ended q d none rfl busy.hasQuery busy.reply, hdropped⟩
      | busy r _ he hr hd ht =>
          obtain ⟨rfl, hq⟩ := got_of_received hM hx hin he hr
          exact ⟨.asked q,
            ⟨InPhase.running q d ⟨busy.address, busy.pending, busy.hasQuery, busy.reply⟩, hq,
              rfl, rfl, busy.address, rfl, hM.one q hq⟩, .single (.busy hd ht)⟩
      | retry r _ he hr hd ht =>
          obtain ⟨rfl, hq⟩ := got_of_received hM hx hin he hr
          exact ⟨.fresh q, InPhase.fresh q d ⟨busy.address, busy.pending, rfl, rfl⟩,
            .single (.retry hd ht)⟩
      | answered r _ he hr hd hb ht =>
          obtain ⟨rfl, hq⟩ := got_of_received hM hx hin he hr
          exact ⟨.ended q (some r), InPhase.ended q d (some r) rfl busy.hasQuery rfl,
            .single (.answered hd hb ht)⟩

/-- **A poll of a query that is being exchanged.** -/
theorem exchange_moves (hM : Speaks M encode streamed K) (hK : K l.queries) (ha : a ≠ 0)
    (hp : Whole p)
    (hsize : ∀ b, (bus.receive b a (serialBufferSize - 1)).1.length < serialBufferSize)
    {st : Stage Q R β} (hx : Exchanging q st) (hin : InStage encode streamed a h l st)
    (hS : ∀ bytes, st = .stream q → bytes ≠ [] →
      (l.comms.outgoing.read (serialBufferSize - 1) p.offered).1 = some bytes → S bytes) :
    Moved M bus a encode streamed S h l st (poll M bus p l) := by
  have hrun := hin.running hx
  obtain ⟨c', hpoll, hset, hb⟩ := poll_running (M := M) (p := p) bus ha hrun
  have hran := TwoWireTask.run_ran bus p.clock p.offered p.room l.comms.twoWireTask
    ⟨l.comms.outgoing, l.comms.incoming, l.bus⟩
  rw [hpoll]
  unfold runQuery at hset hb ⊢
  generalize TwoWireTask.run bus p.clock p.offered p.room l.comms.twoWireTask
    ⟨l.comms.outgoing, l.comms.incoming, l.bus⟩ = res at hran hset hb ⊢
  obtain ⟨t, w⟩ := res
  have hphase {out : Ring β} : InPhase a h { l.comms with
      twoWireTask := t, outgoing := out, incoming := w.incoming } (.running q) := by
    cases hrun with
    | running _ d _ => exact .running q d ⟨hb.address, hb.pending, hb.hasQuery, hb.reply⟩
  -- the run of the exchange is one move or none; what follows is the end of the poll
  have hthen (st1 : Stage Q R β) (hx1 : Exchanging q st1)
      (hin1 : InStage encode streamed a h ⟨{ l.comms with
          twoWireTask := t, outgoing := (M.tick q p.env l.queries w.outgoing).2,
          incoming := w.incoming }, (M.tick q p.env l.queries w.outgoing).1, w.bus⟩ st1)
      (hmove : Relation.ReflTransGen (Move M bus a (encode · l.queries) streamed S)
        (l.bus, st) (w.bus, st1)) :
      Moved M bus a encode streamed S h l st
        { queries := (M.tick q p.env l.queries w.outgoing).1, bus := w.bus, comms := c' } := by
    obtain ⟨st2, hin2, hmove2⟩ := settled_moves hM (encode · l.queries) hx1 hin1 hset
    exact ⟨st2, hin2, hmove.trans hmove2⟩
  have hsame {st1 : Stage Q R β} (hbus : w.bus = l.bus) : Relation.ReflTransGen
      (Move M bus a (encode · l.queries) streamed S) (l.bus, st1) (w.bus, st1) := by
    rw [hbus]
  rcases hx with rfl | rfl | ⟨bytes, rfl⟩ | rfl
  · obtain ⟨-, hq, hu⟩ := hin
    have htick := hM.tick q p.env l.queries w.outgoing hq
    rcases ran_unsent (hM.fits q _ hK hq) hp hran hu with ⟨hbus, hu'⟩ | ⟨ok, hsend, hs'⟩
    · refine hthen (.unsent q) (Or.inl rfl) ⟨hphase, hq, ?_⟩ (hsame hbus)
      rw [htick]
      exact hu'
    · refine hthen (.asked q) (Or.inr (Or.inl rfl)) ⟨hphase, hq, ?_⟩ (.single (.sent hsend))
      rw [htick]
      exact hs'
  · obtain ⟨-, hq, hs⟩ := hin
    have htick := hM.tick q p.env l.queries w.outgoing hq
    rcases ran_asked hsize hp hran hs with ⟨hbus, hs'⟩ | ⟨hrecv, hs'⟩ | ⟨bytes, hne, hrecv, hg⟩
    · refine hthen (.asked q) (Or.inr (Or.inl rfl)) ⟨hphase, hq, ?_⟩ (hsame hbus)
      rw [htick]
      exact hs'
    · refine hthen (.asked q) (Or.inr (Or.inl rfl)) ⟨hphase, hq, ?_⟩ (.single (.nothing hrecv))
      rw [htick]
      exact hs'
    · refine hthen (.got q bytes) (Or.inr (Or.inr (Or.inl ⟨bytes, rfl⟩))) ⟨hphase, hq, ?_⟩
        (.single (.received hne hrecv))
      rw [htick]
      exact hg
  · obtain ⟨-, hq, hg⟩ := hin
    have htick := hM.tick q p.env l.queries w.outgoing hq
    obtain ⟨hbus, hg'⟩ := ran_got hran hg
    refine hthen (.got q bytes) (Or.inr (Or.inr (Or.inl ⟨bytes, rfl⟩))) ⟨hphase, hq, ?_⟩
      (hsame hbus)
    rw [htick]
    exact hg'
  · obtain ⟨-, hq, hs⟩ := hin
    obtain ⟨hs', hbus⟩ := ran_streams hran hs
    refine hthen (.stream q) (Or.inr (Or.inr (Or.inr rfl))) ⟨hphase, hq, hs'⟩ ?_
    rcases hbus with hbus | ⟨bytes, ok, hread, hne, hsend⟩
    · exact hsame hbus
    · exact .single (.piece (hS bytes rfl hne hread) hsend)

/-- **Every poll is a few moves**, and keeps what is known of the query objects. -/
theorem poll_moves (bus : TwoWireBus β B) (hM : Speaks M encode streamed K) (hK : K l.queries) (ha : a ≠ 0)
    (hp : Whole p)
    (hsize : ∀ b, (bus.receive b a (serialBufferSize - 1)).1.length < serialBufferSize)
    {st : Stage Q R β} (hin : InStage encode streamed a h l st)
    (hS : ∀ q bytes, st = .stream q → bytes ≠ [] →
      (l.comms.outgoing.read (serialBufferSize - 1) p.offered).1 = some bytes → S bytes) :
    Moved M bus a encode streamed S h l st (poll M bus p l) := by
  have hstill (h0 : l.comms.address = 0) :
      Moved M bus a encode streamed S h l st (poll M bus p l) := by
    rw [poll_still h0]
    exact ⟨st, hin, .refl⟩
  cases st with
  | resting => exact hstill (by cases hin with | resting rest => exact rest.address)
  | queued q => exact hstill (by cases hin with | queued _ _ rest => exact rest.address)
  | ended q r => exact hstill (by cases hin with | ended _ _ _ h0 => exact h0)
  | unsent q => exact exchange_moves hM hK ha hp hsize (Or.inl rfl) hin (hS q)
  | asked q => exact exchange_moves hM hK ha hp hsize (Or.inr (Or.inl rfl)) hin (hS q)
  | got q bytes =>
      exact exchange_moves hM hK ha hp hsize (Or.inr (Or.inr (Or.inl ⟨bytes, rfl⟩))) hin (hS q)
  | stream q => exact exchange_moves hM hK ha hp hsize (Or.inr (Or.inr (Or.inr rfl))) hin (hS q)
  | fresh q =>
      obtain ⟨c', hpoll, hc⟩ := poll_fresh (M := M) (p := p) bus ha hin
      have haddr : l.comms.address = a := by
        cases hin with | fresh _ _ busy => exact busy.address
      rw [hpoll]
      cases hq : streamed q with
      | false =>
          have hprep := hM.prepare q p.env l.queries hq
          have hw : Relation.ReflTransGen (Move M bus a (encode · l.queries) streamed S)
            (l.bus, .fresh q) (l.bus, .unsent q) := .single (.written l.bus hq)
          rcases hc with ⟨rfl, hph⟩ | ⟨hph, -⟩
          · refine ⟨.unsent q, ⟨hph, hq, ?_⟩, hw⟩
            simp only [startQuery, hprep]
            exact ⟨rfl, rfl, haddr, rfl, rfl, rfl, hM.one q hq⟩
          · exact ⟨.ended q none, hph, hw.tail (.dropped (Or.inl rfl))⟩
      | true =>
          have ho : Relation.ReflTransGen (Move M bus a (encode · l.queries) streamed S)
            (l.bus, .fresh q) (l.bus, .stream q) := .single (.opened l.bus hq)
          rcases hc with ⟨rfl, hph⟩ | ⟨hph, -⟩
          · exact ⟨.stream q, ⟨hph, hq, haddr, rfl, hM.none q hq⟩, ho⟩
          · exact ⟨.ended q none, hph, ho.tail (.dropped (Or.inr (Or.inr (Or.inr rfl))))⟩

/-- The exchange of a query does not end before the query is taken, and none begins by itself. -/
theorem moves_resting {m : Q → List β} {x y : B × Stage Q R β}
    (hmoves : Relation.ReflTransGen (Move M bus a m streamed S) x y) :
    x.2 = .resting ↔ y.2 = .resting := by
  induction hmoves with
  | refl => exact Iff.rfl
  | tail _ hmove ih =>
      rw [ih]
      cases hmove with
      | dropped hst => rcases hst with rfl | rfl | ⟨bytes, rfl⟩ | rfl <;> simp
      | _ => simp

/-- What is known of the query objects stays known. -/
theorem poll_kept (hM : Speaks M encode streamed K) (hK : K l.queries) :
    K (poll M bus p l).queries := by
  have hpoll := poll_polled M bus p l
  generalize poll M bus p l = l' at hpoll
  cases hpoll with
  | idle => exact hK
  | started q => exact (hM.kept q p.env l.queries _ hK).1
  | ran q => exact (hM.kept q p.env l.queries _ hK).2

end Moves

end FieldKit.Session

/-
  File:      FieldKit/Core/Delivery.lean
  Subject:   Does every reading reach the core, and only once?

  `GatherReadings` runs against a module: polls of the core, ticks of the module's main loop and
  bus callbacks in any order, over a bus that neither corrupts nor drops a transfer. `marks` holds
  the readings that the module marked done, `merged` those that were passed to `CoreState::merge`.

  * `delivered_iff` -- in a run that ends with done, every reading that was marked has been merged
    exactly once, exactly if no tick of the module threw a reading away;
  * `reading_lost` -- a query that is sent twice.
-/
import FieldKit.Core.GatherReadings
import FieldKit.Lib.Run
import FieldKit.Module.Readings
import FieldKit.Module.Wire

namespace FieldKit.Delivery

open Lib Session ModuleProtocolHandler GatherReadings

variable {n : Nat} {β : Type}

/-! ## 1. The machine -/

/-- The task and the module. -/
structure Parties (n : Nat) (β : Type) where
  core : GatherReadings β (Wire n β)
  result : TaskEval := .idle
  marks : List IncomingSensorReading := []

/-- One thing that happens. In a poll, `time` is the clock of the core, and `room` what the pipe of
    the module has room for. -/
inductive Input (n : Nat) where
  | task (now : Uptime)
  | poll (clock : Clock) (time : BitVec 32) (room : Nat)
  | tick (t : Tick n)

/-- A task that has just been enqueued, on a communications object and a module that rest. -/
def start (acquired : Bool) (sensors : Nat) (now : Uptime) (remaining : BitVec 32)
    (comms : ModuleCommunications ReadingQuery ModuleReplyMessage β) (queries : ReadingObjects)
    (module : Module n β) : Parties n β where
  core := enqueued acquired sensors now remaining
    { comms := { comms with address := 0, hasQuery := false, reply := none }
      queries := queries
      bus := { module := { module with current := .Idle, child := {} } } }

/-- The machine. The task is not called again once it has ended. -/
def step (P : ModuleProtocol β) (capacity : Nat) (s : Parties n β) :
    Input n → Option (Parties n β)
  | .task now =>
    if s.result.isRunning then
      (s.core.task P now).map fun (e, core) => { s with core, result := e }
    else none
  | .poll clock time room =>
    some { s with
      core.link := ModuleCommunications.poll (readingQueries P) (wire P) (wholePoll clock time)
        { s.core.link with bus.weather := { room } } }
  | .tick t =>
    (s.core.link.bus.module.advance P capacity t).map fun m =>
      { s with core.link.bus.module := m, marks := s.marks ++ t.marked }

/-- **Exactly-once delivery**: what was merged is what was marked. -/
def Delivered (s : Parties n β) : Prop := s.core.merged.Perm s.marks

/-- No tick of the module throws a reading away. -/
def Kept (P : ModuleProtocol β) (s : Parties n β) : Input n → Prop
  | .tick t => s.core.link.bus.module.Kept P s.marks t
  | _ => True

/-! ## 2. The module's side -/

/-- How far the cycle is: the module has not begun, it has begun, or the core has asked for the
    readings. -/
inductive Turn where
  | before
  | begun
  | asked
  deriving DecidableEq

/-- What the module is asked in each turn. -/
def Turn.query : Turn → QueryType
  | .before | .begun => .QUERY_BEGIN_TAKE_READINGS
  | .asked => .QUERY_READING_STATUS

theorem Turn.eq_asked {turn : Turn} (h : turn.query = .QUERY_READING_STATUS) : turn = .asked := by
  cases turn <;> first | rfl | exact absurd h (by decide)

theorem Turn.ne_asked {turn : Turn} (h : turn.query = .QUERY_BEGIN_TAKE_READINGS) :
    turn ≠ .asked := by
  rintro rfl
  exact absurd h (by decide)

/-- Bytes that are read as this reply. -/
structure Encoded (P : ModuleProtocol β) (bytes : List β) (r : ModuleReplyMessage) : Prop where
  ne_nil : bytes ≠ []
  fits : bytes.length < serialBufferSize
  decodes : P.decodeReply bytes = some r

theorem encoded_of_plain {P : ModuleProtocol β} {r : ModuleReplyMessage} (hr : r.Plain) :
    Encoded P (P.encodeReply r) r :=
  ⟨P.reply_ne_nil r hr, P.reply_fits r, P.reply_decodes r hr⟩

theorem Encoded.carried {P : ModuleProtocol β} {bytes : List β} {r : ModuleReplyMessage}
    (h : Encoded P bytes r) : carried P bytes = r.carried := by
  cases bytes with
  | nil => exact absurd rfl h.ne_nil
  | cons b bs => simp only [FieldKit.carried, h.decodes, Option.elim_some]

theorem carried_nil {r : ModuleReplyMessage} (h : r.readingStatus.state ≠ .DONE) :
    r.carried = [] :=
  if_neg h

/-- The module has no reading left to hand over. -/
structure Drained (P : ModuleProtocol β) (m : Module n β) : Prop where
  current : m.current ≠ .Readings
  waiting : waiting m.readings = 0
  unsent : m.unsent P = []

/-- **What an answer says of the module**: `IDLE` that it has nothing left. -/
def Answer (P : ModuleProtocol β) (turn : Turn) (m : Module n β) (r : ModuleReplyMessage) : Prop :=
  r.type = .REPLY_READING_STATUS ∧
    match turn with
    | .before => False
    | .begun => r.readingStatus.state = .BEGIN
    | .asked => r.readingStatus.state = .IDLE → Drained P m

/-- **What is known of the module in each turn.** -/
structure Fit (P : ModuleProtocol β) (turn : Turn) (m : Module n β) : Prop where
  outgoing : m.child.outgoing ≠ [] → ∃ r, Encoded P m.child.outgoing r ∧ Answer P turn m r
  incoming : m.child.incoming ≠ [] → ∃ q, P.decodeQuery m.child.incoming = some q ∧
    q.type = turn.query
  current : m.current = .Idle ∨ m.current = .Servicer ∨ (m.current = .Readings ∧ turn ≠ .before)
  settled : turn ≠ .before → m.current ≠ .Readings → ∀ i, (m.readings i).status ≠ .Busy

section Module

variable {P : ModuleProtocol β} {turn turn' : Turn} {m m' : Module n β} {t : Tick n}
  {r : ModuleReplyMessage}

/-- An answer stays an answer. -/
theorem Answer.mono (h : Answer P turn m r) (hturn : turn = .before ∨ turn' = turn)
    (hdrained : turn = .asked → Drained P m → Drained P m') : Answer P turn' m' r := by
  obtain ⟨htype, h⟩ := h
  rcases hturn with rfl | rfl
  · exact h.elim
  · refine ⟨htype, ?_⟩
    cases turn' with
    | before => exact h
    | begun => exact h
    | asked => exact fun hidle => hdrained rfl (h hidle)

/-- Only queries for readings are asked. -/
theorem Fit.only_readings (hi : Fit P turn m) : OnlyReadings P m where
  current := hi.current.imp id (Or.imp id And.left)
  incoming hne := by
    obtain ⟨q, hq, ht⟩ := hi.incoming hne
    refine ⟨q, hq, ?_⟩
    cases turn with
    | before => exact Or.inl ht
    | begun => exact Or.inl ht
    | asked => exact Or.inr ht

/-- Readings are taken once the cycle has begun. -/
theorem Fit.begun_of_readings (hi : Fit P turn m) (hcur : m.current = .Readings) :
    turn ≠ .before := by
  rcases hi.current with h | h | h
  · exact absurd (h.symm.trans hcur) (by decide)
  · exact absurd (h.symm.trans hcur) (by decide)
  · exact h.2

/-- The query that is read is that of the turn. -/
theorem Fit.queried (hi : Fit P turn m) {q : ModuleQueryMessage} (hq : m.queried P = some q) :
    q.type = turn.query := by
  have hincoming := hi.incoming
  unfold Module.queried at hq
  split at hq
  · cases hq
  · next b bs hb =>
      obtain ⟨q', hq', ht⟩ := hincoming (by simp [hb])
      rw [hb, hq] at hq'
      cases hq'
      exact ht

/-- Before the readings are asked for, no reply has one. -/
theorem Fit.unsent_nil (hi : Fit P turn m) (hturn : turn ≠ .asked) : m.unsent P = [] := by
  by_cases hout : m.child.outgoing = []
  · simp only [Module.unsent, hout, carried]
  · obtain ⟨r, hr, -, hans⟩ := hi.outgoing hout
    rw [Module.unsent, hr.carried]
    cases turn with
    | before => exact hans.elim
    | begun =>
        have hbegin : r.readingStatus.state = .BEGIN := hans
        exact carried_nil (by rw [hbegin]; decide)
    | asked => exact absurd rfl hturn

/-- **A module that has nothing left has nothing left after a tick.** -/
theorem Drained.ticked (h : Drained P m) (hi : Fit P .asked m) (ht : Ticked P m t m') :
    Drained P m' := by
  cases ht with
  | quiet _ _ hchild hreadings hcur' =>
      refine ⟨by rcases hcur' with hc | hc <;> simp [hc], hreadings ▸ h.waiting, ?_⟩
      rw [Module.unsent, hchild]
      exact h.unsent
  | measured i time value hcur => exact absurd hcur h.current
  | restarted => exact ⟨by simp [Module.restarted], waiting_none (by simp [Module.restarted]), rfl⟩
  | began _ hq ht => exact absurd (ht.symm.trans (hi.queried hq)) (by simp [Turn.query])
  | handed i _ _ _ hdone => exact absurd hdone (status_of_waiting h.waiting i)
  | emptied _ _ _ _ _ hout hreadings hcur' =>
      refine ⟨by simp [hcur'], hreadings ▸ h.waiting, ?_⟩
      rw [Module.unsent, hout, (encoded_of_plain (r := idleReply) ⟨rfl, rfl, rfl⟩).carried]
      rfl

/-- The turn after a tick. -/
def Turn.next (turn : Turn) (m' : Module n β) : Turn :=
  match turn with
  | .before => if m'.current = .Readings then .begun else .before
  | _ => turn

theorem Turn.next_of_ne (h : turn ≠ .before) : turn.next m' = turn := by
  cases turn <;> first | rfl | exact absurd rfl h

theorem Turn.next_of_current (h : m'.current ≠ .Readings) : turn.next m' = turn := by
  cases turn <;> simp [Turn.next, h]

theorem Turn.next_of_begun (hask : turn ≠ .asked) (h : m'.current = .Readings) :
    turn.next m' = .begun := by
  cases turn with
  | before => exact if_pos h
  | begun => rfl
  | asked => exact absurd rfl hask

theorem Turn.next_or (m' : Module n β) : turn = .before ∨ turn.next m' = turn := by
  cases turn <;> simp [Turn.next]

/-- A tick leaves the turn as it is, or the module reads that it is to begin. -/
theorem Turn.next_cases (hi : Fit P turn m) (ht : Ticked P m t m') :
    turn.next m' = turn ∨
      (turn = .before ∧ turn.next m' = .begun ∧ m.child.incoming ≠ []) := by
  cases turn with
  | before =>
      by_cases hcur' : m'.current = .Readings
      · have hcur : m.current ≠ .Readings := fun h => hi.begun_of_readings h rfl
        exact Or.inr ⟨rfl, if_pos hcur', ht.entered hcur hcur'⟩
      · exact Or.inl (if_neg hcur')
  | begun => exact Or.inl rfl
  | asked => exact Or.inl rfl

/-- An answer stays an answer after a tick. -/
theorem Answer.ticked (h : Answer P turn m r) (hi : Fit P turn m) (ht : Ticked P m t m') :
    Answer P (turn.next m') m' r :=
  h.mono (Turn.next_or m') fun hturn hd => hd.ticked (hturn ▸ hi) ht

/-- A module whose buffers and readings have not changed. -/
theorem Fit.same (hi : Fit P turn m) (ht : Ticked P m t m') (hchild : m'.child = m.child)
    (hturn : turn.next m' = turn)
    (hcur : m'.current = .Idle ∨ m'.current = .Servicer ∨
      (m'.current = .Readings ∧ turn ≠ .before))
    (hset : turn ≠ .before → m'.current ≠ .Readings → ∀ i, (m'.readings i).status ≠ .Busy) :
    Fit P (turn.next m') m' := by
  refine ⟨fun hne => ?_, ?_, by rwa [hturn], by rwa [hturn]⟩
  · rw [hchild] at hne ⊢
    obtain ⟨r, hr, hans⟩ := hi.outgoing hne
    exact ⟨r, hr, hans.ticked hi ht⟩
  · rw [hchild, hturn]
    exact hi.incoming

/-- A module that has just answered. -/
theorem fit_answered {turn' : Turn} (hr : r.Plain) (hin : m'.child.incoming = [])
    (hout : m'.child.outgoing = P.encodeReply r) (hans : Answer P turn' m' r)
    (hcur : m'.current = .Idle ∨ m'.current = .Servicer ∨
      (m'.current = .Readings ∧ turn' ≠ .before))
    (hset : turn' ≠ .before → m'.current ≠ .Readings → ∀ i, (m'.readings i).status ≠ .Busy) :
    Fit P turn' m' :=
  ⟨fun _ => ⟨r, hout ▸ encoded_of_plain hr, hans⟩, fun hne => absurd hin hne, hcur, hset⟩

/-- **What is known of the module stays known after a tick.** -/
theorem Fit.ticked (hi : Fit P turn m) (ht : Ticked P m t m') : Fit P (turn.next m') m' := by
  have hservicer (hc : m.current = .Servicer) : m.current ≠ .Readings := by simp [hc]
  have htick := ht
  cases ht with
  | quiet _ _ hchild hreadings hcur' hbusy =>
      have hnot : m'.current ≠ .Readings := by rcases hcur' with hc | hc <;> simp [hc]
      refine hi.same htick hchild (Turn.next_of_current hnot) (hcur'.imp id Or.inl) ?_
      intro hne _
      rw [hreadings]
      by_cases hcur : m.current = .Readings
      · exact hbusy hcur
      · exact hi.settled hne hcur
  | measured i time value hcur hbusy =>
      have hne := hi.begun_of_readings hcur
      exact hi.same htick rfl (Turn.next_of_ne hne) (Or.inr (Or.inr ⟨hcur, hne⟩))
        fun _ h => absurd hcur h
  | restarted =>
      rw [Turn.next_of_current (by simp [Module.restarted])]
      exact ⟨fun h => absurd rfl h, fun h => absurd rfl h, Or.inl rfl, fun _ _ _ => by
        simp [Module.restarted]⟩
  | began _ hq htype hin hout _ hcur' =>
      rw [Turn.next_of_begun (Turn.ne_asked ((hi.queried hq).symm.trans htype)) hcur']
      exact fit_answered (r := beginReply) ⟨rfl, rfl, rfl⟩ hin hout ⟨rfl, rfl⟩
        (Or.inr (Or.inr ⟨hcur', by simp⟩)) fun _ h => absurd hcur' h
  | handed i hcur hq htype hdone hin hout hreadings hcur' =>
      obtain rfl := Turn.eq_asked ((hi.queried hq).symm.trans htype)
      refine fit_answered ⟨rfl, rfl, rfl⟩ hin hout ⟨rfl, fun h => (by cases h)⟩ (Or.inl hcur') ?_
      intro hne _ j
      rw [hreadings]
      by_cases hj : j = i
      · subst hj
        simp
      · rw [Function.update_of_ne hj]
        exact hi.settled hne (hservicer hcur) j
  | emptied hcur hq htype hnone hin hout hreadings hcur' =>
      obtain rfl := Turn.eq_asked ((hi.queried hq).symm.trans htype)
      refine fit_answered (r := idleReply) ⟨rfl, rfl, rfl⟩ hin hout ⟨rfl, fun _ => ?_⟩ (Or.inl hcur') ?_
      · refine ⟨by simp [hcur'], hreadings ▸ waiting_none hnone, ?_⟩
        rw [Module.unsent, hout, (encoded_of_plain (r := idleReply) ⟨rfl, rfl, rfl⟩).carried]
        rfl
      · intro hne _
        rw [hreadings]
        exact hi.settled hne (hservicer hcur)

end Module

/-! ## 3. The balance -/

/-- The readings of a cycle: those marked, those merged, and those thrown away. -/
structure Book where
  marks : List IncomingSensorReading
  merged : List IncomingSensorReading
  lost : Multiset IncomingSensorReading

/-- **Every reading is somewhere**: merged, on its way to the core, in the reply that has not been
    sent, in its sensor, or lost. Before the readings are asked for, none can have been sent. -/
def Balanced (P : ModuleProtocol β) (turn : Turn) (k : Book) (flying : List IncomingSensorReading)
    (m : Module n β) : Prop :=
  match turn with
  | .before => k.marks = [] ∧ k.merged = [] ∧ k.lost = 0
  | .begun => k.merged = [] ∧ (↑k.marks : Multiset _) = waiting m.readings + k.lost
  | .asked => (↑k.marks : Multiset IncomingSensorReading) =
      ↑k.merged + ↑flying + (↑(m.unsent P) + waiting m.readings + k.lost)

section Balance

variable {P : ModuleProtocol β} {turn : Turn} {k : Book} {flying : List IncomingSensorReading}
  {m m' : Module n β} {t : Tick n}

/-- What leaves one place is in another. -/
theorem Balanced.moved (hb : Balanced P turn k flying m) {new : List IncomingSensorReading}
    {lost : Multiset IncomingSensorReading} (hbefore : turn = .before → new = [] ∧ lost = 0)
    (hbegun : turn = .begun → waiting m'.readings + lost = waiting m.readings + k.lost + ↑new)
    (hasked : turn = .asked → ↑(m'.unsent P) + waiting m'.readings + lost =
      ↑(m.unsent P) + waiting m.readings + k.lost + ↑new) :
    Balanced P turn ⟨k.marks ++ new, k.merged, lost⟩ flying m' := by
  cases turn with
  | before =>
      obtain ⟨rfl, rfl⟩ := hbefore rfl
      exact ⟨(List.append_nil _).trans hb.1, hb.2.1, rfl⟩
  | begun =>
      refine ⟨hb.1, ?_⟩
      rw [← Multiset.coe_add, hb.2, hbegun rfl]
  | asked =>
      have hb : (↑k.marks : Multiset IncomingSensorReading) =
        ↑k.merged + ↑flying + (↑(m.unsent P) + waiting m.readings + k.lost) := hb
      show (↑(k.marks ++ new) : Multiset IncomingSensorReading) =
        ↑k.merged + ↑flying + (↑(m'.unsent P) + waiting m'.readings + lost)
      rw [← Multiset.coe_add, hb, hasked rfl]
      exact add_assoc _ _ _

/-- Without marks, no reading is anywhere. -/
theorem Balanced.empty (hb : Balanced P turn k flying m) (hfit : Fit P turn m)
    (hne : turn ≠ .before) (h : k.marks = []) :
    m.unsent P = [] ∧ waiting m.readings = 0 ∧ k.lost = 0 := by
  cases turn with
  | before => exact absurd rfl hne
  | begun =>
      have hsum := hb.2
      rw [h, Multiset.coe_nil, eq_comm, add_eq_zero] at hsum
      exact ⟨hfit.unsent_nil (by decide), hsum.1, hsum.2⟩
  | asked =>
      have hsum : (↑k.marks : Multiset IncomingSensorReading) =
        ↑k.merged + ↑flying + (↑(m.unsent P) + waiting m.readings + k.lost) := hb
      rw [h, Multiset.coe_nil, eq_comm] at hsum
      simp only [add_eq_zero] at hsum
      obtain ⟨-, ⟨hunsent, hwaiting⟩, hlost⟩ := hsum
      exact ⟨(Multiset.coe_eq_zero _).mp hunsent, hwaiting, hlost⟩

/-- **The balance over a reboot**: the reply that was not sent and the readings that wait are lost. -/
theorem Balanced.restarted {elapsed : Uptime} (hb : Balanced P turn k flying m)
    (hfit : Fit P turn m) (hlate : moduleIdleRebootInterval < elapsed) : ∃ lost,
      Balanced P turn ⟨k.marks, k.merged, lost⟩ flying m.restarted ∧
      (lost = 0 ↔ k.lost = 0 ∧ m.Kept P k.marks (.idle elapsed)) := by
  have hzero : waiting (m.restarted : Module n β).readings = 0 :=
    waiting_none (by simp [Module.restarted])
  rw [kept_reboot hlate]
  by_cases hbefore : turn = .before
  · subst hbefore
    exact ⟨0, ⟨hb.1, hb.2.1, rfl⟩, by simp [hb.1, hb.2.2]⟩
  · have hmoved : Balanced P turn
        ⟨k.marks ++ [], k.merged, ↑(m.unsent P) + waiting m.readings + k.lost⟩ flying
          m.restarted := by
      refine hb.moved (fun h => absurd h hbefore) ?_ ?_
      · rintro rfl
        rw [hzero, hfit.unsent_nil (by decide)]
        simp
      · rintro rfl
        rw [hzero]
        simp [Module.restarted, Module.unsent, carried]
    rw [List.append_nil] at hmoved
    refine ⟨_, hmoved, ?_⟩
    rw [add_eq_zero, add_eq_zero, Multiset.coe_eq_zero, and_comm]
    refine and_congr_right fun _ => ⟨Or.inr, ?_⟩
    rintro (h | h)
    · obtain ⟨h1, h2, -⟩ := hb.empty hfit hbefore h
      exact ⟨h1, h2⟩
    · exact h

/-- **The balance when the readings begin**: those that still wait from the time before are lost. -/
theorem Balanced.began (hb : Balanced P turn k flying m) (hask : turn ≠ .asked)
    (hzero : waiting m'.readings = 0) : ∃ lost,
      Balanced P .begun ⟨k.marks, k.merged, lost⟩ flying m' ∧
      (lost = 0 ↔ k.lost = 0 ∧ k.marks = []) := by
  cases turn with
  | before =>
      refine ⟨0, ⟨hb.2.1, ?_⟩, by simp [hb.1, hb.2.2]⟩
      rw [hb.1, hzero]
      rfl
  | begun =>
      refine ⟨waiting m.readings + k.lost, ⟨hb.1, ?_⟩, ?_⟩
      · rw [hb.2, hzero, zero_add]
      · rw [add_eq_zero, and_comm]
        refine and_congr_right fun hlost => ?_
        rw [← Multiset.coe_eq_zero, hb.2, hlost, add_zero]
  | asked => exact absurd rfl hask

/-- **The balance when the next reply is written**: the one that was not sent is lost. -/
theorem Balanced.replied (hb : Balanced P .asked k flying m)
    (hkeeps : ↑(m'.unsent P) + waiting m'.readings = waiting m.readings) : ∃ lost,
      Balanced P .asked ⟨k.marks, k.merged, lost⟩ flying m' ∧
      (lost = 0 ↔ k.lost = 0 ∧ m.unsent P = []) := by
  have hmoved : Balanced P .asked ⟨k.marks ++ [], k.merged, ↑(m.unsent P) + k.lost⟩ flying m' := by
    refine hb.moved (fun h => (by cases h)) (fun h => (by cases h)) fun _ => ?_
    rw [hkeeps, Multiset.coe_nil, add_zero]
    abel
  rw [List.append_nil] at hmoved
  refine ⟨_, hmoved, ?_⟩
  rw [add_eq_zero, Multiset.coe_eq_zero, and_comm]

/-- **The balance after a tick**: what is thrown away is lost, and only a tick that is not `Kept`
    throws something away. -/
theorem Balanced.ticked (hb : Balanced P turn k flying m) (hfit : Fit P turn m)
    (ht : Ticked P m t m') : ∃ lost,
      Balanced P (turn.next m') ⟨k.marks ++ t.marked, k.merged, lost⟩ flying m' ∧
      (lost = 0 ↔ k.lost = 0 ∧ m.Kept P k.marks t) := by
  cases ht with
  | quiet hmarked hkept hchild hreadings hcur' =>
      have hnot : m'.current ≠ .Readings := by rcases hcur' with hc | hc <;> simp [hc]
      have hunsent : m'.unsent P = m.unsent P := by rw [Module.unsent, hchild, Module.unsent]
      rw [Turn.next_of_current hnot, hmarked]
      refine ⟨k.lost, hb.moved ?_ ?_ ?_, by simp [hkept]⟩
      · rintro rfl
        exact ⟨rfl, hb.2.2⟩
      · rintro rfl
        simp [hreadings]
      · rintro rfl
        simp [hreadings, hunsent]
  | measured i time value hcur hbusy =>
      have hne := hfit.begun_of_readings hcur
      have hmarked : waiting (PendingReadings.done i time value m).readings =
          waiting m.readings + {{ sensor := i, time, value }} :=
        waiting_marked time value (by simp [hbusy])
      rw [Turn.next_of_ne hne]
      refine ⟨k.lost, hb.moved (fun h => absurd h hne) ?_ ?_, by simp [Module.Kept]⟩
      · rintro rfl
        rw [hmarked, add_right_comm]
        rfl
      · rintro rfl
        rw [hmarked, ← add_assoc, add_right_comm]
        rfl
  | restarted hcur hlate =>
      rw [Turn.next_of_current (by simp [Module.restarted])]
      simpa only [Tick.marked, List.append_nil] using hb.restarted hfit hlate
  | began hcur hq htype hin hout hbusy hcur' =>
      have hask := Turn.ne_asked ((hfit.queried hq).symm.trans htype)
      rw [Turn.next_of_begun hask hcur', kept_serve hq]
      simpa only [htype, hfit.unsent_nil hask, true_and, forall_const, Tick.marked,
        List.append_nil] using hb.began hask (waiting_none (by simp [hbusy]))
  | handed i hcur hq htype hdone hin hout hreadings hcur' =>
      obtain rfl := Turn.eq_asked ((hfit.queried hq).symm.trans htype)
      have hunsent : m'.unsent P = [(m.readings i).outgoing i] := by
        rw [Module.unsent, hout, (encoded_of_plain ⟨rfl, rfl, rfl⟩).carried]
        rfl
      have hkeeps : ↑(m'.unsent P) + waiting m'.readings = waiting m.readings := by
        rw [hunsent, hreadings, waiting_handed hdone, Multiset.coe_singleton, add_comm]
      obtain ⟨lost, hb', hlost⟩ := hb.replied hkeeps
      rw [kept_serve hq]
      simp only [Tick.marked, List.append_nil]
      exact ⟨lost, hb', by simp [htype, hlost]⟩
  | emptied hcur hq htype hnone hin hout hreadings hcur' =>
      obtain rfl := Turn.eq_asked ((hfit.queried hq).symm.trans htype)
      have hunsent : m'.unsent P = [] := by
        rw [Module.unsent, hout, (encoded_of_plain (r := idleReply) ⟨rfl, rfl, rfl⟩).carried]
        rfl
      have hkeeps : ↑(m'.unsent P) + waiting m'.readings = waiting m.readings := by
        rw [hunsent, hreadings, Multiset.coe_nil, zero_add]
      obtain ⟨lost, hb', hlost⟩ := hb.replied hkeeps
      rw [kept_serve hq]
      simp only [Tick.marked, List.append_nil]
      exact ⟨lost, hb', by simp [htype, hlost]⟩

end Balance

/-! ## 4. The core's side -/

/-- The turns in which a query waits, and those in which it has been sent. -/
def Due : ReadingQuery → Turn → Prop
  | .beginTakeReading, turn => turn ≠ .asked
  | .queryReadingStatus, turn => turn ≠ .before

/-- The turns in which a query has been sent. -/
def Sent : ReadingQuery → Turn → Prop
  | .beginTakeReading, turn => turn ≠ .asked
  | .queryReadingStatus, turn => turn = .asked

/-- The reading that the core has received and not looked at. -/
def flying (P : ModuleProtocol β) : Stage ReadingQuery ModuleReplyMessage β →
    List IncomingSensorReading
  | .got _ bytes => carried P bytes
  | .ended _ (some r) => r.carried
  | _ => []

/-- **What each stage of a query says of the cycle.** -/
def At (P : ModuleProtocol β) (turn : Turn) (m : Module n β) :
    Stage ReadingQuery ModuleReplyMessage β → Prop
  | .resting => (turn = .before ∧ m.child.incoming = []) ∨ (turn = .asked ∧ Drained P m)
  | .queued q | .fresh q | .unsent q => Due q turn
  | .asked q => Sent q turn
  | .got q bytes => Sent q turn ∧ ∃ r, Encoded P bytes r ∧
      (r = { type := .REPLY_BUSY } ∨ r = { type := .REPLY_RETRY } ∨ Answer P turn m r)
  | .stream _ => False
  | .ended q (some r) => Sent q turn ∧ Answer P turn m r
  | .ended _ none => False

/-- **What is known of the module in each stage of a query.** -/
structure Evidence (P : ModuleProtocol β) (turn : Turn) (k : Book) (m : Module n β)
    (st : Stage ReadingQuery ModuleReplyMessage β) : Prop where
  fit : Fit P turn m
  balanced : Balanced P turn k (flying P st) m
  stage : At P turn m st

/-- The query has ended without a reply, or `Evidence` is there. -/
def Known (P : ModuleProtocol β) (k : Book) (m : Module n β)
    (st : Stage ReadingQuery ModuleReplyMessage β) : Prop :=
  (∃ q, st = .ended q none) ∨ ∃ turn, Evidence P turn k m st

section Moves

variable {P : ModuleProtocol β} {turn : Turn} {k : Book} {o : ReadingObjects}
  {b b' : Wire n β} {st st' : Stage ReadingQuery ModuleReplyMessage β}

theorem Sent.due {q : ReadingQuery} (h : Sent q turn) : Due q turn := by
  cases q with
  | beginTakeReading => exact h
  | queryReadingStatus =>
      rw [show turn = .asked from h]
      exact (by decide : Turn.asked ≠ .before)

/-- **A stage goes on saying what it says after a tick.** -/
theorem At.ticked {m m' : Module n β} {t : Tick n} (h : At P turn m st) (hi : Fit P turn m)
    (ht : Ticked P m t m') : At P (turn.next m') m' st := by
  have hturn := Turn.next_cases hi ht
  have hsent {q : ReadingQuery} (h : Sent q turn) : Sent q (turn.next m') := by
    rcases hturn with hsame | ⟨rfl, hbegun, -⟩
    · rwa [hsame]
    · rw [hbegun]
      cases q with
      | beginTakeReading => exact (by decide : Turn.begun ≠ .asked)
      | queryReadingStatus => exact absurd h (by decide : Turn.before ≠ .asked)
  have hdue {q : ReadingQuery} (h : Due q turn) : Due q (turn.next m') := by
    rcases hturn with hsame | ⟨rfl, hbegun, -⟩
    · rwa [hsame]
    · rw [hbegun]
      cases q with
      | beginTakeReading => exact (by decide : Turn.begun ≠ .asked)
      | queryReadingStatus => exact (by decide : Turn.begun ≠ .before)
  cases st with
  | resting =>
      rcases h with ⟨rfl, hin⟩ | ⟨rfl, hd⟩
      · rcases hturn with hsame | ⟨-, -, hne⟩
        · exact Or.inl ⟨hsame, ht.incoming_nil hin⟩
        · exact absurd hin hne
      · exact Or.inr ⟨rfl, hd.ticked hi ht⟩
  | queued q | fresh q | unsent q => exact hdue h
  | asked q => exact hsent h
  | got q bytes =>
      obtain ⟨hs, r, hr, hknown⟩ := h
      exact ⟨hsent hs, r, hr, hknown.imp id (Or.imp id fun hans => hans.ticked hi ht)⟩
  | stream q => exact h
  | ended q r =>
      cases r with
      | none => exact h
      | some r => exact ⟨hsent h.1, h.2.ticked hi ht⟩

/-- **A tick of the module keeps what the core has evidence of**, and loses a reading exactly if it
    is not `Kept`. -/
theorem Evidence.ticked {m m' : Module n β} {t : Tick n} (hi : Evidence P turn k m st)
    (ht : Ticked P m t m') : ∃ lost,
      Evidence P (turn.next m') ⟨k.marks ++ t.marked, k.merged, lost⟩ m' st ∧
      (lost = 0 ↔ k.lost = 0 ∧ m.Kept P k.marks t) := by
  obtain ⟨lost, hbalanced, hlost⟩ := hi.balanced.ticked hi.fit ht
  exact ⟨lost, ⟨hi.fit.ticked ht, hbalanced, hi.stage.ticked hi.fit ht⟩, hlost⟩

/-- In fair weather the module is handed the query, whole. -/
theorem wire_send_evidence {q : ReadingQuery} {ok : Bool} {room : Nat}
    (hw : b.weather = { room }) (hi : Evidence P turn k b.module (.unsent q))
    (h : (wire P).send b moduleAddress (P.encodeQuery (o.query q)) = (ok, b')) :
    b'.weather = { room } ∧ ∃ turn', Evidence P turn' k b'.module (.asked q) := by
  have hshort := o.query_short q
  have hdec := P.query_decodes _ hshort
  have hsend : b' = { b with
      module.child := b.module.child.receive (P.encodeQuery (o.query q)) room } := by
    simpa [wire, hw] using (congrArg Prod.snd h).symm
  obtain ⟨b0, bs, hbytes⟩ := List.exists_cons_of_ne_nil (P.query_ne_nil _ hshort)
  subst hsend
  refine ⟨hw, ?_⟩
  rw [hbytes] at hdec ⊢
  have hanswer {turn' : Turn} {r : ModuleReplyMessage}
      (h : Answer P turn b.module r) (hturn : turn' = turn) :
      Answer P turn' { b.module with child := b.module.child.receive (b0 :: bs) room } r :=
    h.mono (Or.inr hturn) fun _ hd => ⟨hd.current, hd.waiting, hd.unsent⟩
  cases q with
  | beginTakeReading =>
      have hask : turn ≠ .asked := hi.stage
      refine ⟨turn, ⟨fun hne => ?_, fun _ => ⟨_, hdec, ?_⟩, hi.fit.current, hi.fit.settled⟩,
        hi.balanced, hask⟩
      · obtain ⟨r, hr, hans⟩ := hi.fit.outgoing hne
        exact ⟨r, hr, hanswer hans rfl⟩
      · cases turn <;> first | rfl | exact absurd rfl hask
  | queryReadingStatus =>
      have hbefore : turn ≠ .before := hi.stage
      refine ⟨.asked, ⟨fun hne => ?_, fun _ => ⟨_, hdec, rfl⟩, ?_, fun _ => hi.fit.settled hbefore⟩,
        ?_, rfl⟩
      · obtain ⟨r, hr, hans⟩ := hi.fit.outgoing hne
        refine ⟨r, hr, ?_⟩
        cases turn with
        | before => exact absurd rfl hbefore
        | begun =>
            have hbegin : r.readingStatus.state = .BEGIN := hans.2
            exact ⟨hans.1, fun h => absurd (hbegin.symm.trans h) (by decide)⟩
        | asked => exact hanswer hans rfl
      · exact hi.fit.current.imp id (Or.imp id fun ⟨h, _⟩ => ⟨h, by decide⟩)
      · cases turn with
        | before => exact absurd rfl hbefore
        | begun =>
            -- nothing has been merged or sent so far
            have hunsent : b.module.unsent P = [] := hi.fit.unsent_nil (by decide)
            obtain ⟨hmerged, hmarks⟩ := hi.balanced
            show (↑k.marks : Multiset IncomingSensorReading) =
              ↑k.merged + ↑(flying P (.asked .queryReadingStatus)) +
                (↑(b.module.unsent P) + waiting b.module.readings + k.lost)
            rw [hmarks, hmerged, hunsent]
            simp [flying]
        | asked => exact hi.balanced

/-- **In fair weather the core is handed the reply that is there**, or hears that there is none. -/
theorem wire_receive_evidence {q : ReadingQuery} {room : Nat} {bytes : List β}
    (hw : b.weather = { room }) (hi : Evidence P turn k b.module (.asked q))
    (h : (wire P).receive b moduleAddress (serialBufferSize - 1) = (bytes, b')) :
    b'.weather = { room } ∧ Evidence P turn k b'.module (.got q bytes) := by
  have hrecv : bytes = ((b.module.child.reply P b.module.current.busy).1).take
        (serialBufferSize - 1) ∧
      b' = { b with module.child := (b.module.child.reply P b.module.current.busy).2 } := by
    have hasked : b.weather.asked = true := by rw [hw]
    have harrived : b.weather.arrived = true := by rw [hw]
    simp only [wire, hasked, harrived, if_true] at h
    exact ⟨(congrArg Prod.fst h).symm, (congrArg Prod.snd h).symm⟩
  obtain ⟨hbytes, rfl⟩ := hrecv
  refine ⟨hw, ?_⟩
  by_cases hout : b.module.child.outgoing = []
  · -- no reply is there
    have hreply : b.module.child.reply P b.module.current.busy =
        (P.encodeReply { type := if b.module.current.busy then .REPLY_BUSY else .REPLY_RETRY },
          b.module.child) := by
      rw [TwoWireChild.reply, hout]
    obtain ⟨r, hr, hplain⟩ : ∃ r : ModuleReplyMessage,
        ({ type := if b.module.current.busy then .REPLY_BUSY else .REPLY_RETRY } :
          ModuleReplyMessage) = r ∧
          (r = { type := .REPLY_BUSY } ∨ r = { type := .REPLY_RETRY }) := by
      cases b.module.current.busy
      · exact ⟨_, rfl, Or.inr rfl⟩
      · exact ⟨_, rfl, Or.inl rfl⟩
    have henc : Encoded P (P.encodeReply r) r :=
      encoded_of_plain (by rcases hplain with rfl | rfl <;> exact ⟨rfl, rfl, rfl⟩)
    rw [hreply, hr, List.take_of_length_le (Nat.le_sub_one_of_lt henc.fits)] at hbytes
    subst hbytes
    have hflying : carried P (P.encodeReply r) = [] := by
      rw [henc.carried]
      rcases hplain with rfl | rfl <;> rfl
    rw [hreply]
    refine ⟨hi.fit, ?_, hi.stage, r, henc, by rcases hplain with h | h <;> simp [h]⟩
    rw [flying, hflying]
    exact hi.balanced
  · obtain ⟨r, hr, hans⟩ := hi.fit.outgoing hout
    have hreply : b.module.child.reply P b.module.current.busy =
        (b.module.child.outgoing, { b.module.child with outgoing := [] }) := by
      unfold TwoWireChild.reply
      split
      · next h => exact absurd h hout
      · next h => rw [h]
    rw [hreply, List.take_of_length_le (Nat.le_sub_one_of_lt hr.fits)] at hbytes
    subst hbytes
    rw [hreply]
    have hdrained : Drained P b.module →
        Drained P { b.module with child := { b.module.child with outgoing := [] } } :=
      fun hd => ⟨hd.current, hd.waiting, rfl⟩
    refine ⟨⟨fun h => absurd rfl h, hi.fit.incoming, hi.fit.current, hi.fit.settled⟩, ?_, hi.stage,
      r, hr, Or.inr (Or.inr (hans.mono (Or.inr rfl) fun _ => hdrained))⟩
    -- the reading moves from the module to the core
    have hb := hi.balanced
    cases turn with
    | before => exact hb
    | begun => exact hb
    | asked =>
        have hb : (↑k.marks : Multiset IncomingSensorReading) =
          ↑k.merged + ↑([] : List IncomingSensorReading) +
            (↑(b.module.unsent P) + waiting b.module.readings + k.lost) := hb
        show (↑k.marks : Multiset IncomingSensorReading) =
          ↑k.merged + ↑(b.module.unsent P) +
            (↑([] : List IncomingSensorReading) + waiting b.module.readings + k.lost)
        rw [hb, Multiset.coe_nil]
        abel

/-- A reply that the exchange keeps to itself has no reading. -/
theorem carried_retried {bytes : List β} {q : ReadingQuery} {r : ModuleReplyMessage}
    (h : At P turn b.module (.got q bytes)) (hd : P.decodeReply bytes = some r)
    (ht : r.type = .REPLY_BUSY ∨ r.type = .REPLY_RETRY) : carried P bytes = [] := by
  obtain ⟨-, r', hr, hknown⟩ := h
  cases hr.decodes.symm.trans hd
  rw [hr.carried]
  rcases hknown with rfl | rfl | ⟨htype, -⟩
  · rfl
  · rfl
  · rw [htype] at ht
    rcases ht with ht | ht <;> cases ht

/-- **One move of the exchange keeps what is known.** -/
theorem move_known {room : Nat} (hw : b.weather = { room })
    (hmove : Move (readingQueries P) (wire P) moduleAddress (fun q => P.encodeQuery (o.query q))
      (fun _ => false) (fun _ => False) (b, st) (b', st'))
    (hi : Known P k b.module st) : b'.weather = { room } ∧ Known P k b'.module st' := by
  rcases hi with ⟨q, rfl⟩ | ⟨turn, hi⟩
  · cases hmove with
    | dropped hst => rcases hst with h | h | ⟨_, h⟩ | h <;> cases h
  · cases hmove with
    | written => exact ⟨hw, Or.inr ⟨turn, hi.fit, hi.balanced, hi.stage⟩⟩
    | opened _ hq => cases hq
    | sent h =>
        obtain ⟨hw', hi'⟩ := wire_send_evidence hw hi h
        exact ⟨hw', Or.inr hi'⟩
    | nothing h =>
        obtain ⟨r, hr, -⟩ := (wire_receive_evidence hw hi h).2.stage.2
        exact absurd rfl hr.ne_nil
    | received _ h =>
        obtain ⟨hw', hi'⟩ := wire_receive_evidence hw hi h
        exact ⟨hw', Or.inr ⟨turn, hi'⟩⟩
    | piece hS => exact hS.elim
    | busy hd ht =>
        have hnil := carried_retried hi.stage hd (Or.inl ht)
        have hbalanced := hi.balanced
        rw [flying, hnil] at hbalanced
        exact ⟨hw, Or.inr ⟨turn, hi.fit, hbalanced, hi.stage.1⟩⟩
    | retry hd ht =>
        have hnil := carried_retried hi.stage hd (Or.inr ht)
        have hbalanced := hi.balanced
        rw [flying, hnil] at hbalanced
        exact ⟨hw, Or.inr ⟨turn, hi.fit, hbalanced, hi.stage.1.due⟩⟩
    | answered hd hb ht =>
        obtain ⟨hsent, r', hr, hknown⟩ := hi.stage
        cases hr.decodes.symm.trans hd
        have hbalanced := hi.balanced
        rw [flying, hr.carried] at hbalanced
        refine ⟨hw, Or.inr ⟨turn, hi.fit, hbalanced, hsent, ?_⟩⟩
        rcases hknown with rfl | rfl | hans
        · exact absurd rfl hb
        · exact absurd rfl ht
        · exact hans
    | dropped => exact ⟨hw, Or.inl ⟨_, rfl⟩⟩

/-- **Any number of moves.** -/
theorem moves_known {room : Nat} (hw : b.weather = { room })
    (hmoves : Relation.ReflTransGen (Move (readingQueries P) (wire P) moduleAddress
      (fun q => P.encodeQuery (o.query q)) (fun _ => false) (fun _ => False)) (b, st) (b', st'))
    (hi : Known P k b.module st) : b'.weather = { room } ∧ Known P k b'.module st' := by
  generalize hx : (b', st') = x at hmoves
  induction hmoves generalizing b' st' with
  | refl => cases hx; exact ⟨hw, hi⟩
  | @tail y _ _ hmove ih =>
      subst hx
      obtain ⟨hw', hi'⟩ := @ih y.1 y.2 rfl
      exact move_known hw' hmove hi'

end Moves

/-! ## 5. One step, and the run -/

/-- The invariant: unless the task has ended in error, the readings balance, and what is lost was
    lost in a step that was not `Kept`. -/
def DeliverInv (P : ModuleProtocol β) (tr : List (Parties n β × Input n)) (s : Parties n β) : Prop :=
  s.result = .error ∨ ∃ st lost,
    InStage (fun q o => P.encodeQuery (o.query q)) (fun _ => false) moduleAddress
      s.core.protocol s.core.link st ∧
    (lost = 0 ↔ Meets (Kept P) tr) ∧
    Known P ⟨s.marks, s.core.merged, lost⟩ s.core.link.bus.module st ∧
    (s.result = .done → st = .resting)

section Steps

variable {P : ModuleProtocol β} {capacity : Nat} {s s' : Parties n β}
  {tr : List (Parties n β × Input n)}

/-- Polls and calls of the task throw nothing away. -/
theorem meets_other {i : Input n} (hi : ∀ t, i ≠ .tick t) :
    Meets (Kept P) (tr ++ [(s, i)]) ↔ Meets (Kept P) tr := by
  rw [meets_concat]
  refine and_iff_left ?_
  cases i with
  | tick t => exact absurd rfl (hi t)
  | _ => trivial

theorem deliverInv_start (acquired : Bool) (sensors : Nat) (now : Uptime) (remaining : BitVec 32)
    (comms : ModuleCommunications ReadingQuery ModuleReplyMessage β) (queries : ReadingObjects)
    (module : Module n β) :
    DeliverInv P [] (start acquired sensors now remaining comms queries module) := by
  have hfit : Fit P .before { module with current := .Idle, child := {} } :=
    ⟨fun h => absurd rfl h, fun h => absurd rfl h, Or.inl rfl, fun h => absurd rfl h⟩
  refine Or.inr ?_
  unfold start enqueued
  split
  · refine ⟨.queued .beginTakeReading, 0, .queued _ _ ⟨rfl, rfl, rfl⟩, by simp, ?_,
      fun h => (by cases h)⟩
    exact Or.inr ⟨.before, hfit, ⟨rfl, rfl, rfl⟩,
      (by decide : Turn.before ≠ .asked)⟩
  · refine ⟨.resting, 0, .resting ⟨rfl, rfl, rfl⟩, by simp, ?_, fun _ => rfl⟩
    exact Or.inr ⟨.before, hfit, ⟨rfl, rfl, rfl⟩, Or.inl ⟨rfl, rfl⟩⟩

/-- **A tick of the module.** -/
theorem Known.ticked {k : Book} {m m' : Module n β}
    {st : Stage ReadingQuery ModuleReplyMessage β} {t : Tick n} (hi : Known P k m st)
    (h : m.advance P capacity t = some m') :
    ∃ lost, Known P ⟨k.marks ++ t.marked, k.merged, lost⟩ m' st ∧
      (lost = 0 ↔ k.lost = 0 ∧ m.Kept P k.marks t) := by
  rcases hi with hdead | ⟨turn, hi⟩
  · by_cases hkept : m.Kept P k.marks t
    · exact ⟨k.lost, Or.inl hdead, by simp [hkept]⟩
    · exact ⟨{{}}, Or.inl hdead, by simp [hkept]⟩
  · obtain ⟨lost, hi', hlost⟩ := hi.ticked (advance_ticked hi.fit.only_readings h)
    exact ⟨lost, Or.inr ⟨_, hi'⟩, hlost⟩

/-- **A query that has ended with a reply.** -/
theorem done_inv (now : Uptime) {q : ReadingQuery} {r : ModuleReplyMessage} {turn : Turn}
    {lost : Multiset IncomingSensorReading} {marks : List IncomingSensorReading}
    (core : GatherReadings β (Wire n β))
    (hin : InPhase moduleAddress core.protocol core.link.comms .resting)
    (hi : Evidence P turn ⟨marks, core.merged, lost⟩ core.link.bus.module (.ended q (some r)))
    (hreply : ∃ o : ReadingObjects, core.link.queries = o.reply r q) :
    ∃ st, InStage (fun q o => P.encodeQuery (o.query q)) (fun _ => false) moduleAddress
        (done now q (some r) core).2.protocol (done now q (some r) core).2.link st ∧
      Known P ⟨marks, (done now q (some r) core).2.merged, lost⟩
        (done now q (some r) core).2.link.bus.module st ∧
      ((done now q (some r) core).1 = .done → st = .resting) := by
  obtain ⟨o, ho⟩ := hreply
  obtain ⟨hsent, htype, hans⟩ := hi.stage
  cases q with
  | beginTakeReading =>
      refine ⟨.queued .queryReadingStatus, push_queued hin _ _, Or.inr ⟨turn, hi.fit, ?_, ?_⟩,
        fun h => (by cases h)⟩
      · cases turn with
        | before => exact hans.elim
        | begun => exact hi.balanced
        | asked => exact absurd rfl hsent
      · cases turn with
        | before => exact hans.elim
        | begun => exact (by decide : Turn.begun ≠ .before)
        | asked => exact absurd rfl hsent
  | queryReadingStatus =>
      obtain rfl : turn = .asked := hsent
      have hans : r.readingStatus.state = .IDLE → Drained P core.link.bus.module := hans
      have hstate : core.link.queries.queryReadingStatus.status = r.readingStatus.state := by
        rw [ho]
        rfl
      have hbalanced : (↑marks : Multiset IncomingSensorReading) = ↑core.merged + ↑r.carried +
        (↑(core.link.bus.module.unsent P) + waiting core.link.bus.module.readings + lost) :=
        hi.balanced
      have hagain (hne : r.readingStatus.state ≠ .DONE) :
          Evidence P .asked ⟨marks, core.merged, lost⟩ core.link.bus.module
            (.queued .queryReadingStatus) := by
        refine ⟨hi.fit, ?_, (by decide : Turn.asked ≠ .before)⟩
        rw [carried_nil hne] at hbalanced
        exact hbalanced
      unfold done
      dsimp only
      rw [hstate]
      cases hr : r.readingStatus.state with
      | BEGIN =>
          exact ⟨.queued .queryReadingStatus, push_queued hin _ _,
            Or.inr ⟨.asked, hagain (by simp [hr])⟩, fun h => (by cases h)⟩
      | BUSY =>
          exact ⟨.queued .queryReadingStatus, push_queued hin _ _,
            Or.inr ⟨.asked, hagain (by simp [hr])⟩, fun h => (by cases h)⟩
      | DONE =>
          refine ⟨.queued .queryReadingStatus, push_queued (l := core.link) hin _ _,
            Or.inr ⟨.asked, hi.fit, ?_, (by decide : Turn.asked ≠ .before)⟩,
            fun h => (by cases h)⟩
          -- the reading is merged
          rw [ModuleReplyMessage.carried, if_pos hr] at hbalanced
          show (↑marks : Multiset IncomingSensorReading) =
            ↑(core.merged ++ [r.sensorReading]) + ↑([] : List IncomingSensorReading) +
              (↑(core.link.bus.module.unsent P) + waiting core.link.bus.module.readings + lost)
          rw [hbalanced, ← Multiset.coe_add, Multiset.coe_nil, add_zero]
      | IDLE =>
          refine ⟨.resting, hin, Or.inr ⟨.asked, hi.fit, ?_, Or.inr ⟨rfl, hans hr⟩⟩, fun _ => rfl⟩
          rw [carried_nil (by simp [hr])] at hbalanced
          exact hbalanced

/-- **One call of the task keeps the invariant.** -/
theorem task_inv {now : Uptime} (hi : DeliverInv P tr s)
    (h : step P capacity s (.task now) = some s') :
    DeliverInv P (tr ++ [(s, .task now)]) s' := by
  simp only [step] at h
  split at h
  case isFalse => cases h
  case isTrue hrun =>
  obtain ⟨⟨e, core⟩, htask, rfl⟩ := Option.map_eq_some_iff.mp h
  have hmeets : Meets (Kept P) (tr ++ [(s, .task now)]) ↔ Meets (Kept P) tr :=
    meets_other (by simp)
  rcases hi with herror | ⟨st, lost, hin, hlost, hknown, -⟩
  · rw [herror] at hrun
    exact absurd hrun (by decide)
  unfold GatherReadings.task at htask
  by_cases hrest : st.phase = .resting
  · have hbusy : ¬ s.core.protocol.isBusy = true := by
      rw [isBusy_iff (by decide) hin.phase]
      simp [hrest]
    rw [if_neg hbusy] at htask
    cases htask
    exact Or.inr ⟨st, lost, hin, hlost.trans hmeets.symm, hknown,
      fun _ => Stage.eq_resting hrest⟩
  · rw [if_pos ((isBusy_iff (by decide) hin.phase).mpr hrest)] at htask
    obtain ⟨⟨f, protocol, link⟩, hhandle, hfin⟩ := Option.map_eq_some_iff.mp htask
    obtain rfl : _ = e := congrArg Prod.fst hfin
    obtain rfl : _ = core := congrArg Prod.snd hfin
    have hhandled := handle_handled (by decide) hin.phase hhandle
    generalize hph : st.phase = ph at hhandled
    cases hhandled with
    | waits => exact Or.inr ⟨st, lost, hin, hlost.trans hmeets.symm, hknown, fun h => (by cases h)⟩
    | @enqueues q _ _ _ hfresh hbus hqueries =>
        obtain rfl := Stage.eq_queued hph
        refine Or.inr ⟨.fresh q, lost, hfresh, hlost.trans hmeets.symm, ?_, fun h => (by cases h)⟩
        rcases hknown with ⟨q', hq'⟩ | ⟨turn, hi⟩
        · cases hq'
        · exact Or.inr ⟨turn, by
            simp only [finish, hbus]
            exact ⟨hi.fit, hi.balanced, hi.stage⟩⟩
    | @finishes q r _ _ hrested hbus hqueries =>
        obtain rfl := Stage.eq_ended hph
        cases r with
        | none => exact Or.inl rfl
        | some r =>
            rcases hknown with ⟨q', hq'⟩ | ⟨turn, hi⟩
            · cases hq'
            · obtain ⟨st', hin', hknown', hdone'⟩ := done_inv now
                { s.core with protocol := {}, link := link } hrested (hbus ▸ hi)
                ⟨s.core.link.queries, hqueries⟩
              exact Or.inr ⟨st', lost, hin', hlost.trans hmeets.symm, hknown', hdone'⟩

/-- **One step keeps the invariant.** -/
theorem step_inv {i : Input n} (hi : DeliverInv P tr s) (h : step P capacity s i = some s') :
    DeliverInv P (tr ++ [(s, i)]) s' := by
  cases i with
  | task now => exact task_inv hi h
  | poll clock time room =>
      cases h
      rcases hi with herror | ⟨st, lost, hin, hlost, hknown, hdone⟩
      · exact Or.inl herror
      have hin' : InStage (fun q o => P.encodeQuery (o.query q)) (fun _ => false) moduleAddress
          s.core.protocol { s.core.link with bus.weather := { room } } st := by
        cases st <;> exact hin
      obtain ⟨st', hin'', hmoves⟩ := poll_moves (wire P) (p := wholePoll clock time)
        (S := fun _ => False) (readingQueries_speaks P) trivial (by decide)
        (whole_wholePoll _ _) (fun b => wire_receive_length P b moduleAddress) hin'
        fun q bytes hst _ _ => by
          subst hst
          exact absurd hin.2.1 Bool.false_ne_true
      refine Or.inr ⟨st', lost, hin'', hlost.trans (meets_other (by simp)).symm,
        (moves_known rfl hmoves hknown).2, fun hd => ?_⟩
      exact (moves_resting hmoves).mp (hdone hd)
  | tick t =>
      obtain ⟨m, hadvance, rfl⟩ := Option.map_eq_some_iff.mp h
      rcases hi with herror | ⟨st, lost, hin, hlost, hknown, hdone⟩
      · exact Or.inl herror
      obtain ⟨lost', hknown', hlost'⟩ := hknown.ticked hadvance
      refine Or.inr ⟨st, lost', ?_, ?_, hknown', hdone⟩
      · cases st <;> exact hin
      · rw [hlost', meets_concat, hlost]
        exact Iff.rfl

end Steps

/-- **In a run that ends with done, every reading that was marked has been merged exactly once,
    exactly if no tick of the module threw one away.** The sensors, the module, the clocks and the
    order of steps are arbitrary. -/
theorem delivered_iff (P : ModuleProtocol β) (capacity : Nat) (acquired : Bool) (sensors : Nat)
    (now : Uptime) (remaining : BitVec 32)
    (comms : ModuleCommunications ReadingQuery ModuleReplyMessage β) (queries : ReadingObjects)
    (module : Module n β) {tr : List (Parties n β × Input n)} {s : Parties n β}
    (h : Run (step P capacity) (start acquired sensors now remaining comms queries module) tr s)
    (hd : s.result = .done) : Delivered s ↔ Meets (Kept P) tr := by
  have hinv := h.inv_steps (DeliverInv P)
    (deliverInv_start acquired sensors now remaining comms queries module)
    fun _ _ _ _ hi hs => step_inv hi hs
  rcases hinv with herror | ⟨st, lost, -, hlost, hknown, hrest⟩
  · exact absurd (hd.symm.trans herror) (by decide)
  obtain rfl := hrest hd
  rw [← hlost]
  rcases hknown with ⟨q, hq⟩ | ⟨turn, hi⟩
  · cases hq
  rcases hi.stage with ⟨rfl, -⟩ | ⟨rfl, hdrained⟩
  · obtain ⟨hmarks, hmerged, hzero⟩ := hi.balanced
    rw [Delivered, show s.core.merged = [] from hmerged, show s.marks = [] from hmarks]
    exact iff_of_true (List.Perm.refl _) hzero
  · have hbalanced : (↑s.marks : Multiset IncomingSensorReading) =
        ↑s.core.merged + ↑([] : List IncomingSensorReading) +
          (↑(s.core.link.bus.module.unsent P) + waiting s.core.link.bus.module.readings + lost) :=
      hi.balanced
    rw [hdrained.unsent, hdrained.waiting, Multiset.coe_nil, add_zero, zero_add, zero_add]
      at hbalanced
    rw [Delivered, ← Multiset.coe_eq_coe, hbalanced, left_eq_add]

/-! ## 6. A module with one sensor -/

/-- A module with one sensor. -/
def oneInfo : ModuleInfo 1 where
  type := 0
  minimumNumberOfReadings := 1
  name := []
  module := []
  sensors _ := ⟨[], []⟩
  uptime := 0
  git := []
  build := []
  compiled := 0

/-- A cycle that has just been enqueued for it. -/
def oneSensor : Parties 1 Frame := start true 1 0 1 {} {} { info := oneInfo }

/-- A poll at `now`. -/
def pollAt (now : Uptime) : Input 1 := .poll (Clock.still now) 0 serialBufferSize

/-- The module reads its query and answers. -/
def serving : List (Input 1) := [.tick (.idle 0), .tick (.serve {})]

/-- A query that is answered in time. -/
def asking (now : Uptime) : List (Input 1) :=
  [.task now, pollAt (now + 100), pollAt (now + 110)] ++ serving ++
  [pollAt (now + 300), pollAt (now + 400), .task (now + 500)]

/-- The readings are begun, and the one sensor is read. -/
def measuring : List (Input 1) := asking 900 ++ [.tick (.measured 0 7 42), .tick .left]

/-- The core asks while the module idles over the query, is told to try again, and sends it again:
    the reading is in the answer to the first, and that is thrown away for the answer to the
    second. -/
def askingTwice : List (Input 1) :=
  [.task 2500, pollAt 2600, pollAt 2610, pollAt 2800, pollAt 2900] ++ serving ++
  [pollAt 2910, pollAt 2920] ++ serving ++ [pollAt 3100, pollAt 3200, .task 3300]

/-- One reading was marked, and none is merged. -/
theorem reading_lost : ¬ ∀ (tr : List (Parties 1 Frame × Input 1)) (s : Parties 1 Frame),
    Run (step frames 1000) oneSensor tr s → s.result = .done → Delivered s := by
  intro hall
  have hexec : (exec (step frames 1000) oneSensor (measuring ++ askingTwice)).map
      (fun s => (s.result, s.core.merged.length, s.marks.length)) = some (.done, 0, 1) := by
    decide +kernel
  obtain ⟨tr, s, hrun, hs⟩ := run_of_exec_map hexec
  simp only [Prod.mk.injEq] at hs
  have hperm := (hall tr s hrun hs.1).length_eq
  omega

instance (P : ModuleProtocol β) (s : Parties n β) : ∀ i, Decidable (Kept P s i)
  | .task _ | .poll _ _ _ => isTrue trivial
  | .tick t => inferInstanceAs (Decidable (s.core.link.bus.module.Kept P s.marks t))

/-- Asked once at a time, the module loses nothing. -/
theorem delivered_iff_answered : ∃ tr s, Run (step frames 1000) oneSensor tr s ∧
    s.result = .done ∧ s.marks.length = 1 ∧ Delivered s := by
  have hexec : (exec (guarded (Kept frames) (step frames 1000)) oneSensor
      (measuring ++ asking 2500 ++ asking 4500)).map
      (fun s => (s.result, s.marks.length)) = some (.done, 1) := by
    decide +kernel
  obtain ⟨tr, s, hrun, hs⟩ := run_of_exec_map hexec
  rw [Prod.mk.injEq] at hs
  obtain ⟨hrun, hC⟩ := hrun.of_guarded
  exact ⟨tr, s, hrun, hs.1, hs.2,
    (delivered_iff frames 1000 true 1 0 1 {} {} { info := oneInfo } hrun hs.1).mpr hC⟩

end FieldKit.Delivery

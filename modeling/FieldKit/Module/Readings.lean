/-
  File:      FieldKit/Module/Readings.lean
  Subject:   Where the readings of a module are while a cycle is under way: marked done, in the reply
             that has not been sent, or gone.

  * `carried`, `unsent`, `waiting` -- the readings in a reply and in the sensors;
  * `Kept` -- the ticks that throw no reading away;
  * `Ticked`, `advance_ticked` -- what one tick of a module that is only asked for readings does.
-/
import FieldKit.Module.Module
import Mathlib.Algebra.BigOperators.Fin
import Mathlib.Data.Multiset.OrderedMonoid
import Mathlib.Tactic.Abel

namespace FieldKit

variable {n : Nat} {β : Type}

/-! ## 1. Readings -/

/-- A sensor's reading as it is sent. -/
def SensorReading.outgoing (i : Fin n) (r : SensorReading) : IncomingSensorReading :=
  { sensor := i, time := r.time, value := r.value }

/-- The reading in a reply. -/
def ModuleReplyMessage.carried (r : ModuleReplyMessage) : List IncomingSensorReading :=
  if r.readingStatus.state = .DONE then [r.sensorReading] else []

/-- The reading in the bytes of a reply. -/
def carried (P : ModuleProtocol β) : List β → List IncomingSensorReading
  | [] => []
  | b :: bs => (P.decodeReply (b :: bs)).elim [] (·.carried)

/-- What a sensor holds. -/
def SensorReading.held (i : Fin n) (r : SensorReading) : Multiset IncomingSensorReading :=
  if r.status = .Done then {r.outgoing i} else 0

/-- **What the sensors hold**: the readings that are done. -/
def waiting (readings : Fin n → SensorReading) : Multiset IncomingSensorReading :=
  ∑ i, (readings i).held i

/-- The reading a tick marks done. -/
def Tick.marked : Tick n → List IncomingSensorReading
  | .measured i time value => [{ sensor := i, time := time, value := value }]
  | _ => []

namespace Module

/-- The reading in the reply that has not been sent. -/
def unsent (P : ModuleProtocol β) (m : Module n β) : List IncomingSensorReading :=
  FieldKit.carried P m.child.outgoing

/-- The query that waits to be read. -/
def queried (P : ModuleProtocol β) (m : Module n β) : Option ModuleQueryMessage :=
  match m.child.incoming with
  | [] => none
  | b :: bs => P.decodeQuery (b :: bs)

/-- The module after a reset: what is not on the flash is as it was built. -/
def restarted (m : Module n β) : Module n β := { info := m.info, flash := m.flash }

/-- A tick of the module, which starts again when it has rebooted. -/
def advance (P : ModuleProtocol β) (capacity : Nat) (m : Module n β) (t : Tick n) :
    Option (Module n β) :=
  (m.tick P capacity t).map fun m => if m.current = .Rebooted then m.restarted else m

/-- **The tick throws no reading away**, `marks` being those of the cycle so far: no query is read
    while a reply with a reading is unsent, readings that are done are not begun again, and there
    is no reboot over them. -/
def Kept (P : ModuleProtocol β) (marks : List IncomingSensorReading) (m : Module n β) :
    Tick n → Prop
  | .serve _ => ∀ q ∈ m.queried P,
      m.unsent P = [] ∧ (q.type = .QUERY_BEGIN_TAKE_READINGS → marks = [])
  | .idle elapsed => moduleIdleRebootInterval < elapsed →
      marks = [] ∨ (m.unsent P = [] ∧ ∀ i, (m.readings i).status ≠ .Done)
  | _ => True

instance (P : ModuleProtocol β) (marks : List IncomingSensorReading) (m : Module n β) :
    ∀ t, Decidable (m.Kept P marks t)
  | .serve _ => inferInstanceAs (Decidable (∀ q ∈ m.queried P, _ ∧ _))
  | .idle _ => inferInstanceAs (Decidable (_ → _))
  | .measured _ _ _ | .left | .message | .open _ | .data _ | .selfFlash => .isTrue trivial

end Module

/-! ## 2. Where a reading goes -/

/-- Nothing is held by sensors that are not done. -/
theorem waiting_none {readings : Fin n → SensorReading} (h : ∀ i, (readings i).status ≠ .Done) :
    waiting readings = 0 :=
  Finset.sum_eq_zero fun i _ => if_neg (h i)

/-- One sensor changes. -/
theorem waiting_update (readings : Fin n → SensorReading) (i : Fin n) (r : SensorReading) :
    waiting (Function.update readings i r) + (readings i).held i = waiting readings + r.held i := by
  have hrest : ∑ j ∈ Finset.univ.erase i, (Function.update readings i r j).held j =
      ∑ j ∈ Finset.univ.erase i, (readings j).held j :=
    Finset.sum_congr rfl fun j hj => by rw [Function.update_of_ne (Finset.ne_of_mem_erase hj)]
  unfold waiting
  rw [← Finset.add_sum_erase _ _ (Finset.mem_univ i), hrest, Function.update_self,
    ← Finset.add_sum_erase _ _ (Finset.mem_univ i)]
  abel

/-- A reading is marked. -/
theorem waiting_marked {readings : Fin n → SensorReading} {i : Fin n} (time value : BitVec 32)
    (h : (readings i).status ≠ .Done) :
    waiting (Function.update readings i { time, value, status := .Done }) =
      waiting readings + {{ sensor := i, time, value }} := by
  have hsum := waiting_update readings i { time, value, status := .Done }
  rwa [SensorReading.held, if_neg h, add_zero] at hsum

/-- A reading is handed over. -/
theorem waiting_handed {readings : Fin n → SensorReading} {i : Fin n}
    (h : (readings i).status = .Done) :
    waiting readings =
      waiting (Function.update readings i { readings i with status := .Idle }) +
        {(readings i).outgoing i} := by
  have hsum := waiting_update readings i { readings i with status := .Idle }
  rw [SensorReading.held, if_pos h, SensorReading.held, if_neg (by simp), add_zero] at hsum
  exact hsum.symm

/-- Sensors that hold nothing are not done. -/
theorem status_of_waiting {readings : Fin n → SensorReading} (h : waiting readings = 0)
    (i : Fin n) : (readings i).status ≠ .Done := by
  intro hdone
  rw [waiting_handed hdone] at h
  exact absurd (congrArg Multiset.card h) (by simp)

/-- **The answer to `QUERY_READING_STATUS`**: the first reading that is done, or the reply as it
    was. -/
theorem readingStatus_cases (elapsed : BitVec 32) (is : List (Fin n)) (reply : ModuleReplyMessage)
    (readings : Fin n → SensorReading) (hidle : reply.readingStatus.state ≠ .BUSY) :
    (∃ pre i post, is = pre ++ i :: post ∧ (∀ j ∈ pre, (readings j).status ≠ .Done) ∧
      (readings i).status = .Done ∧
      ModuleServicer.readingStatus elapsed is reply readings =
        ({ reply with
            readingStatus := { reply.readingStatus with state := .DONE, elapsed := elapsed }
            sensorReading := (readings i).outgoing i },
          Function.update readings i { readings i with status := .Idle })) ∨
    ((∀ i ∈ is, (readings i).status ≠ .Done) ∧
      ModuleServicer.readingStatus elapsed is reply readings = (reply, readings)) := by
  induction is with
  | nil => exact Or.inr ⟨by simp, rfl⟩
  | cons i is ih =>
      -- the state is never the one that is tested
      have hsame (r : ModuleReplyMessage) :
          (if (readings i).status = .Busy ∧ reply.readingStatus.state = .BUSY then r else reply) =
            reply := if_neg fun h => hidle h.2
      unfold ModuleServicer.readingStatus
      dsimp only
      rw [hsame]
      by_cases hdone : (readings i).status = .Done
      · refine Or.inl ⟨[], i, is, rfl, fun j hj => absurd hj List.not_mem_nil, hdone, ?_⟩
        rw [if_pos hdone]
        rfl
      · have hnot : ∀ {l : List (Fin n)}, (∀ j ∈ l, (readings j).status ≠ .Done) →
            ∀ j ∈ i :: l, (readings j).status ≠ .Done := by
          intro l hl j hj
          rcases List.mem_cons.mp hj with rfl | hj
          · exact hdone
          · exact hl j hj
        rw [if_neg hdone]
        refine ih.imp ?_ ?_
        · intro h
          obtain ⟨pre, k, post, rfl, hpre, hk, heq⟩ := h
          exact ⟨i :: pre, k, post, rfl, hnot hpre, hk, heq⟩
        · exact fun ⟨hnone, heq⟩ => ⟨hnot hnone, heq⟩

/-- `Kept` when a query is read. -/
theorem kept_serve {P : ModuleProtocol β} {m : Module n β} {e : Serving} {q : ModuleQueryMessage}
    (hq : m.queried P = some q) (marks : List IncomingSensorReading) :
    m.Kept P marks (.serve e) ↔
      m.unsent P = [] ∧ (q.type = .QUERY_BEGIN_TAKE_READINGS → marks = []) := by
  simp only [Module.Kept, hq, Option.mem_some_iff, forall_eq']

/-- `Kept` over a reboot. -/
theorem kept_reboot {P : ModuleProtocol β} {m : Module n β} {elapsed : Uptime}
    (hlate : moduleIdleRebootInterval < elapsed) (marks : List IncomingSensorReading) :
    m.Kept P marks (.idle elapsed) ↔
      marks = [] ∨ (m.unsent P = [] ∧ waiting m.readings = 0) := by
  simp only [Module.Kept, hlate, forall_const]
  exact or_congr_right (and_congr_right fun _ => ⟨waiting_none, status_of_waiting⟩)

/-! ## 3. What a tick does -/

/-- The answer to `QUERY_BEGIN_TAKE_READINGS`. -/
def beginReply : ModuleReplyMessage where
  type := .REPLY_READING_STATUS
  readingStatus := { state := .BEGIN, backoff := 1000 }

/-- The answer to `QUERY_READING_STATUS` when no reading is done. -/
def idleReply : ModuleReplyMessage where
  type := .REPLY_READING_STATUS
  readingStatus := { state := .IDLE, backoff := 1000 }

/-- The answer that hands a reading over. -/
def doneReply (elapsed : BitVec 32) (r : IncomingSensorReading) : ModuleReplyMessage where
  type := .REPLY_READING_STATUS
  readingStatus := { state := .DONE, backoff := 1000, elapsed := elapsed }
  sensorReading := r

/-- **What one tick of a module that is only asked for readings can do**, one constructor for each:
    it moves on, marks a reading, starts again, or answers one of the two queries. -/
inductive Ticked (P : ModuleProtocol β) (m : Module n β) : Tick n → Module n β → Prop where
  | quiet {t : Tick n} {m' : Module n β} (hmarked : t.marked = [])
      (hkept : ∀ marks, m.Kept P marks t) (hchild : m'.child = m.child)
      (hreadings : m'.readings = m.readings)
      (hcur : m'.current = .Idle ∨ m'.current = .Servicer)
      (hbusy : m.current = .Readings → ∀ i, (m.readings i).status ≠ .Busy) : Ticked P m t m'
  | measured (i : Fin n) (time value : BitVec 32) (hcur : m.current = .Readings)
      (hbusy : (m.readings i).status = .Busy) :
      Ticked P m (.measured i time value) (PendingReadings.done i time value m)
  | restarted {elapsed : Uptime} (hcur : m.current = .Idle)
      (hlate : moduleIdleRebootInterval < elapsed) : Ticked P m (.idle elapsed) m.restarted
  | began {e : Serving} {q : ModuleQueryMessage} {m' : Module n β} (hcur : m.current = .Servicer)
      (hq : m.queried P = some q) (ht : q.type = .QUERY_BEGIN_TAKE_READINGS)
      (hin : m'.child.incoming = []) (hout : m'.child.outgoing = P.encodeReply beginReply)
      (hbusy : ∀ i, (m'.readings i).status = .Busy) (hcur' : m'.current = .Readings) :
      Ticked P m (.serve e) m'
  | handed {e : Serving} {q : ModuleQueryMessage} {m' : Module n β} (i : Fin n)
      (hcur : m.current = .Servicer) (hq : m.queried P = some q)
      (ht : q.type = .QUERY_READING_STATUS) (hdone : (m.readings i).status = .Done)
      (hin : m'.child.incoming = [])
      (hout : m'.child.outgoing = P.encodeReply (doneReply m.elapsed ((m.readings i).outgoing i)))
      (hreadings : m'.readings =
        Function.update m.readings i { m.readings i with status := .Idle })
      (hcur' : m'.current = .Idle) : Ticked P m (.serve e) m'
  | emptied {e : Serving} {q : ModuleQueryMessage} {m' : Module n β} (hcur : m.current = .Servicer)
      (hq : m.queried P = some q) (ht : q.type = .QUERY_READING_STATUS)
      (hnone : ∀ i, (m.readings i).status ≠ .Done) (hin : m'.child.incoming = [])
      (hout : m'.child.outgoing = P.encodeReply idleReply) (hreadings : m'.readings = m.readings)
      (hcur' : m'.current = .Idle) : Ticked P m (.serve e) m'

/-- What a module is asked, when it is only asked for readings. -/
structure OnlyReadings (P : ModuleProtocol β) (m : Module n β) : Prop where
  current : m.current = .Idle ∨ m.current = .Servicer ∨ m.current = .Readings
  incoming : m.child.incoming ≠ [] → ∃ q, P.decodeQuery m.child.incoming = some q ∧
    (q.type = .QUERY_BEGIN_TAKE_READINGS ∨ q.type = .QUERY_READING_STATUS)

/-- A reply without strings is written over whatever was there. -/
theorem write_outgoing {P : ModuleProtocol β} {r : ModuleReplyMessage} (hr : r.Plain)
    (m : Module n β) : (ModuleServicer.write P r m).child.outgoing = P.encodeReply r ∧
      (ModuleServicer.write P r m).child.incoming = m.child.incoming := by
  unfold ModuleServicer.write TwoWireChild.write
  dsimp only
  split
  · next he => exact absurd he (P.reply_ne_nil r hr)
  · next b bs he => exact ⟨he.symm, rfl⟩

section Ticks

variable {P : ModuleProtocol β} {m m' : Module n β} {capacity : Nat}

/-- **The servicer.** -/
theorem serve_ticked {e : Serving} (hm : OnlyReadings P m) (hcur : m.current = .Servicer)
    (h : ModuleServicer.task P e m = some m') : Ticked P m (.serve e) m' := by
  have hread := hm.incoming
  unfold ModuleServicer.task at h
  split at h
  · next hinc =>
      cases h
      refine .quiet rfl (fun marks q hq => ?_) rfl rfl (Or.inr hcur) (fun h => ?_)
      · simp [Module.queried, hinc] at hq
      · exact absurd (hcur.symm.trans h) (by decide)
  · next b bs hinc =>
      obtain ⟨q, hdec, htype⟩ := hread (by simp [hinc])
      have hq : m.queried P = some q := by
        rw [hinc] at hdec
        simpa [Module.queried, hinc] using hdec
      rw [hinc] at hdec
      rw [hdec] at h
      unfold ModuleServicer.handle at h
      dsimp only at h
      rcases htype with ht | ht
      · rw [ht] at h
        cases h
        obtain ⟨hout, hin⟩ := write_outgoing (P := P) (r := beginReply) ⟨rfl, rfl, rfl⟩
          { m with
            child := ({ m.child with incoming := [], outgoing := [] } : TwoWireChild β).clear
            readings := fun i => { m.readings i with status := .Busy }
            number := q.beginTakeReadings.number
            elapsed := 0
            current := .Readings }
        exact .began hcur hq ht hin hout (fun _ => rfl) rfl
      · rw [ht] at h
        dsimp only at h
        rcases readingStatus_cases m.elapsed (List.finRange n) idleReply m.readings (by decide) with
          ⟨_, i, _, _, _, hdone, heq⟩ | ⟨hnone, heq⟩
        · rw [show ({ type := .REPLY_READING_STATUS, readingStatus :=
            { state := .IDLE, backoff := 1000 } } : ModuleReplyMessage) = idleReply from rfl, heq] at h
          cases h
          obtain ⟨hout, hin⟩ := write_outgoing (P := P)
            (r := doneReply m.elapsed ((m.readings i).outgoing i)) ⟨rfl, rfl, rfl⟩
            { m with
              child := ({ m.child with incoming := [], outgoing := [] } : TwoWireChild β).clear
              readings := Function.update m.readings i { m.readings i with status := .Idle }
              current := .Idle }
          exact .handed i hcur hq ht hdone hin hout rfl rfl
        · rw [show ({ type := .REPLY_READING_STATUS, readingStatus :=
            { state := .IDLE, backoff := 1000 } } : ModuleReplyMessage) = idleReply from rfl, heq] at h
          cases h
          obtain ⟨hout, hin⟩ := write_outgoing (P := P) (r := idleReply) ⟨rfl, rfl, rfl⟩
            { m with
              child := ({ m.child with incoming := [], outgoing := [] } : TwoWireChild β).clear
              readings := m.readings
              current := .Idle }
          exact .emptied hcur hq ht (fun i => hnone i (List.mem_finRange i)) hin hout rfl rfl

/-- **Every tick of a module that is only asked for readings is one of these.** -/
theorem advance_ticked {t : Tick n} (hm : OnlyReadings P m) (h : m.advance P capacity t = some m') :
    Ticked P m t m' := by
  obtain ⟨m1, htick, rfl⟩ := Option.map_eq_some_iff.mp h
  have hcurrent := hm.current
  have hnot {c : ModuleState} (hc : m.current = c)
      (hne : c ≠ .Idle ∧ c ≠ .Servicer ∧ c ≠ .Readings) : False := by
    rw [hc] at hcurrent
    rcases hcurrent with h | h | h
    · exact hne.1 h
    · exact hne.2.1 h
    · exact hne.2.2 h
  have hnever (hcur : m.current = .Idle) :
      m.current = .Readings → ∀ i, (m.readings i).status ≠ .Busy :=
    fun h => absurd (hcur.symm.trans h) (by decide)
  cases Module.tick_ran htick with
  | rebooted hcur hlate =>
      rw [if_pos rfl]
      exact .restarted hcur hlate
  | waited hcur hsoon =>
      rw [if_neg (by rw [hcur]; decide)]
      exact .quiet rfl (fun _ h => absurd h hsoon) rfl rfl (Or.inl hcur) (hnever hcur)
  | woken hcur hsoon =>
      rw [if_neg (by simp)]
      exact .quiet rfl (fun _ h => absurd h hsoon) rfl rfl (Or.inr rfl) (hnever hcur)
  | served hcur htask =>
      have hticked := serve_ticked hm hcur htask
      have halive : m1.current ≠ .Rebooted := by
        cases hticked with
        | quiet _ _ _ _ hcur' => rcases hcur' with h | h <;> simp [h]
        | began _ _ _ _ _ _ hcur' => simp [hcur']
        | handed _ _ _ _ _ _ _ _ hcur' => simp [hcur']
        | emptied _ _ _ _ _ _ _ hcur' => simp [hcur']
      rwa [if_neg halive]
  | measured i time value hcur hbusy =>
      rw [if_neg (by simp [PendingReadings.done, hcur])]
      exact .measured i time value hcur hbusy
  | left _ hall =>
      rw [if_neg (by simp)]
      exact .quiet rfl (fun _ => trivial) rfl rfl (Or.inl rfl) (fun _ => hall)
  | messaged hcur => exact (hnot hcur (by simp)).elim
  | opened hcur => exact (hnot hcur (by simp)).elim
  | received _ hcur => exact (hnot hcur (by simp)).elim
  | flashed hcur => exact (hnot hcur (by simp)).elim

/-- No tick gives the module a query. -/
theorem Ticked.incoming_nil {t : Tick n} (h : Ticked P m t m') (hin : m.child.incoming = []) :
    m'.child.incoming = [] := by
  cases h with
  | quiet _ _ hchild => rw [hchild, hin]
  | measured => exact hin
  | restarted => rfl
  | began _ _ _ hin' => exact hin'
  | handed _ _ _ _ _ hin' => exact hin'
  | emptied _ _ _ _ hin' => exact hin'

/-- A module enters its readings only when it is asked to begin them. -/
theorem Ticked.entered {t : Tick n} (h : Ticked P m t m') (hcur : m.current ≠ .Readings)
    (hcur' : m'.current = .Readings) : m.child.incoming ≠ [] := by
  cases h with
  | began _ hq =>
      intro hin
      simp [Module.queried, hin] at hq
  | measured i time value h => exact absurd h hcur
  | quiet _ _ _ _ h => rcases h with h | h <;> exact absurd (h.symm.trans hcur') (by decide)
  | restarted => exact absurd hcur' (by simp [Module.restarted])
  | handed _ _ _ _ _ _ _ _ h => exact absurd (h.symm.trans hcur') (by decide)
  | emptied _ _ _ _ _ _ _ h => exact absurd (h.symm.trans hcur') (by decide)

end Ticks

end FieldKit

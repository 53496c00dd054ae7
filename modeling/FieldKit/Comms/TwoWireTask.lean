/-
  File:      FieldKit/Comms/TwoWireTask.lean
  Subject:   `TwoWireTask` (two_wire_task.cpp): one exchange with one module, polled.

  The task sends what its outgoing stream holds, piece by piece, and then asks for the expected
  replies; after a busy reply it is built without an outgoing stream and only asks. The bus is a
  parameter: `send` and `receive` act on a state `B` that stands for everything at the other end
  of the wires.
-/
import FieldKit.Platform
import FieldKit.Streams

namespace FieldKit

/-- An I2C address. -/
abbrev Address := BitVec 8

/-- `SERIAL_BUFFER_SIZE` of the Arduino core. -/
def serialBufferSize : Nat := 256

/-! ## 1. Reply configurations -/

/-- `ReplyConfig`: its constructors are private, the three values below are all there are. -/
structure ReplyConfig where
  expectedReplies : Nat := 1
  busyDelay : Uptime := 500
  replyDelay : Uptime := 100
  replyTimeout : Uptime := 1 * seconds
  transactionTimeout : Uptime := 5 * seconds
  deriving DecidableEq, Repr

namespace ReplyConfig

/-- `ReplyConfig::Default`. -/
def Default : ReplyConfig := {}

/-- `ReplyConfig::NoReply`. -/
def NoReply : ReplyConfig := { expectedReplies := 0 }

/-- `ReplyConfig::Long`. -/
def Long : ReplyConfig := { transactionTimeout := 30 * seconds }

end ReplyConfig

/-! ## 2. The bus -/

/-- `TwoWireBus`, as its users see it: a send succeeds or fails, a receive hands over what the
    addressed device answered, at most `size` bytes of it. -/
structure TwoWireBus (β B : Type) where
  send : B → Address → List β → Bool × B
  receive : B → Address → Nat → List β × B

/-- What the exchange works on: the two streams of the communications object, and the bus. -/
structure Wires (β B : Type) where
  outgoing : Ring β
  incoming : Ring β
  bus : B

/-! ## 3. The task -/

/-- `TwoWireTask`. `outgoing` says whether it was built with an outgoing stream (`false` is the
    null reader of the busy retry). -/
structure TwoWireTask where
  outgoing : Bool
  address : Address
  replyConfig : ReplyConfig
  dieAt : Uptime := 0
  checkAt : Uptime := 0
  doneAt : Uptime := 0
  bytesReceived : Nat := 0
  repliesRemaining : Nat := 0
  deriving DecidableEq, Repr

namespace TwoWireTask

variable {β B : Type}

/-- `enqueued()`, at `now`. -/
def enqueued (now : Uptime) (t : TwoWireTask) : TwoWireTask :=
  { t with
    dieAt := 0
    checkAt := if t.outgoing then 0 else now + t.replyConfig.busyDelay
    doneAt := 0
    bytesReceived := 0
    repliesRemaining := t.replyConfig.expectedReplies }

/-- `completed()`. -/
def completed (t : TwoWireTask) : Bool := decide (0 < t.doneAt)

/-- `received()`. -/
def received (t : TwoWireTask) : Nat := t.bytesReceived

/-- `done()` and `error()`: both note the time, and nothing else. -/
def ended (c : Clock) (t : TwoWireTask) : TwoWireTask := { t with doneAt := c.finished }

/-- `send()`. `offered` is how many bytes the outgoing stream hands over. -/
def send (bus : TwoWireBus β B) (c : Clock) (offered : Nat) (t : TwoWireTask) (w : Wires β B) :
    TaskEval × TwoWireTask × Wires β B :=
  match w.outgoing.read (serialBufferSize - 1) offered with
  | (none, out) => (.done, t, { w with outgoing := out })
  | (some [], out) => (.idle, t, { w with outgoing := out })
  | (some (byte :: bytes), out) =>
    match bus.send w.bus t.address (byte :: bytes) with
    | (false, b) => (.error, t, { w with outgoing := out, bus := b })
    | (true, b) =>
      let t' := { t with dieAt := c.timed + t.replyConfig.replyTimeout }
      if t'.repliesRemaining = 0 then (.idle, t', { w with outgoing := out, bus := b })
      else
        (.idle, { t' with checkAt := c.delayed + t.replyConfig.replyDelay },
          { w with outgoing := out, bus := b })

/-- The end of `receive()`: without an outgoing stream there is nothing to wait for. -/
def receiveEnd (t : TwoWireTask) (w : Wires β B) : TaskEval × TwoWireTask × Wires β B :=
  if t.outgoing then (.idle, { t with dieAt := 0 }, w) else (.done, t, w)

/-- `receive()`. `room` is how many bytes the incoming stream has room for. -/
def receive (bus : TwoWireBus β B) (room : Nat) (t : TwoWireTask) (w : Wires β B) :
    TaskEval × TwoWireTask × Wires β B :=
  if 0 < t.repliesRemaining then
    match bus.receive w.bus t.address (serialBufferSize - 1) with
    | ([], b) => (.error, { t with bytesReceived := 0 }, { w with bus := b })
    | (byte :: bytes, b) =>
      let (wrote, inc) := w.incoming.write (byte :: bytes) room
      receiveEnd { t with
          bytesReceived := (byte :: bytes).length
          repliesRemaining :=
            if wrote = some (byte :: bytes).length then t.repliesRemaining - 1
            else t.repliesRemaining }
        { w with incoming := inc, bus := b }
  else receiveEnd t w

/-- `task()`. -/
def task (bus : TwoWireBus β B) (c : Clock) (offered room : Nat) (t : TwoWireTask)
    (w : Wires β B) : TaskEval × TwoWireTask × Wires β B :=
  if 0 < t.checkAt ∧ c.checked < t.checkAt then (.idle, t, w)
  else if t.dieAt = 0 then
    if t.outgoing then send bus c offered t w
    else if 0 < t.repliesRemaining then
      (.idle, { t with
        dieAt := c.timed + t.replyConfig.replyTimeout
        checkAt := c.delayed + t.replyConfig.replyDelay }, w)
    else (.done, t, w)
  else if t.dieAt < c.timed then (.error, t, w)
  else receive bus room t w

/-- `simple_task_run` on the task. -/
def run (bus : TwoWireBus β B) (c : Clock) (offered room : Nat) (t : TwoWireTask)
    (w : Wires β B) : TwoWireTask × Wires β B :=
  match task bus c offered room t w with
  | (.done, t', w') => (t'.ended c, w')
  | (.error, t', w') => (t'.ended c, w')
  | (.idle, t', w') => (t', w')
  | (.busy, t', w') => (t', w')

/-! ## 4. What one run can do -/

/-- **What one run of the task can do**, one constructor for each way through it. -/
inductive Ran (bus : TwoWireBus β B) (c : Clock) (offered room : Nat) (t : TwoWireTask)
    (w : Wires β B) : TwoWireTask → Wires β B → Prop where
  /-- `checkAt` has not come. -/
  | waits : Ran bus c offered room t w t w
  /-- The outgoing stream holds nothing yet. -/
  | dry (out : t.outgoing = true) (sending : t.dieAt = 0) (hw : w.outgoing.bytes = [])
      (hc : w.outgoing.closed = false) : Ran bus c offered room t w t w
  /-- EOS of the outgoing stream: done. -/
  | drained (out : t.outgoing = true) (sending : t.dieAt = 0) (hw : w.outgoing.bytes = [])
      (hc : w.outgoing.closed = true) : Ran bus c offered room t w (t.ended c) w
  /-- The bus did not take a piece: error. -/
  | refused (bytes rest : List β) (b : B) (out : t.outgoing = true) (sending : t.dieAt = 0)
      (hne : bytes ≠ []) (hw : w.outgoing.bytes = bytes ++ rest)
      (hsend : bus.send w.bus t.address bytes = (false, b))
      (hread : (w.outgoing.read (serialBufferSize - 1) offered).1 = some bytes) :
      Ran bus c offered room t w (t.ended c)
        { w with outgoing := { w.outgoing with bytes := rest }, bus := b }
  /-- A piece was sent. -/
  | sent (bytes rest : List β) (b : B) (checkAt : Uptime) (out : t.outgoing = true)
      (sending : t.dieAt = 0) (hne : bytes ≠ []) (hw : w.outgoing.bytes = bytes ++ rest)
      (hsend : bus.send w.bus t.address bytes = (true, b))
      (hread : (w.outgoing.read (serialBufferSize - 1) offered).1 = some bytes) :
      Ran bus c offered room t w
        { t with dieAt := c.timed + t.replyConfig.replyTimeout, checkAt := checkAt }
        { w with outgoing := { w.outgoing with bytes := rest }, bus := b }
  /-- Told they were busy: the reply window opens again. -/
  | asks (out : t.outgoing = false) (expects : 0 < t.repliesRemaining) (checkAt : Uptime) :
      Ran bus c offered room t w
        { t with dieAt := c.timed + t.replyConfig.replyTimeout, checkAt := checkAt } w
  /-- Nothing to send and nothing to wait for: done. -/
  | nothing (out : t.outgoing = false) (hr : t.repliesRemaining = 0) :
      Ran bus c offered room t w (t.ended c) w
  /-- The reply window is over: error. -/
  | late (waiting : t.dieAt ≠ 0) (hlate : t.dieAt < c.timed) :
      Ran bus c offered room t w (t.ended c) w
  /-- The reply was empty: error. -/
  | empty (b : B) (waiting : t.dieAt ≠ 0) (expects : 0 < t.repliesRemaining)
      (hrecv : bus.receive w.bus t.address (serialBufferSize - 1) = ([], b)) :
      Ran bus c offered room t w ({ t with bytesReceived := 0 }.ended c) { w with bus := b }
  /-- Bytes came back; with an outgoing stream the task goes back to it, else it is done. -/
  | received (bytes : List β) (remaining : Nat) (b : B) (waiting : t.dieAt ≠ 0)
      (expects : 0 < t.repliesRemaining) (hne : bytes ≠ [])
      (hrecv : bus.receive w.bus t.address (serialBufferSize - 1) = (bytes, b))
      (hrem : remaining = if (w.incoming.write bytes room).1 = some bytes.length then
        t.repliesRemaining - 1 else t.repliesRemaining) :
      Ran bus c offered room t w
        (if t.outgoing then
          { t with bytesReceived := bytes.length, repliesRemaining := remaining, dieAt := 0 }
        else { t with bytesReceived := bytes.length, repliesRemaining := remaining }.ended c)
        { w with incoming := (w.incoming.write bytes room).2, bus := b }
  /-- No reply is expected: the task goes back to its outgoing stream, or is done. -/
  | swept (waiting : t.dieAt ≠ 0) (hr : t.repliesRemaining = 0) :
      Ran bus c offered room t w (if t.outgoing then { t with dieAt := 0 } else t.ended c) w

variable {bus : TwoWireBus β B} {c : Clock} {offered room : Nat}

/-- Leaves of `run` once the result of `task` is known. -/
private theorem run_of_task {t t' : TwoWireTask} {w w' : Wires β B} {e : TaskEval}
    (h : task bus c offered room t w = (e, t', w')) :
    run bus c offered room t w = (if e.isRunning then t' else t'.ended c, w') := by
  unfold run
  rw [h]
  cases e <;> rfl

private theorem send_ran {t : TwoWireTask} {w : Wires β B} (out : t.outgoing = true)
    (sending : t.dieAt = 0) {e : TaskEval} {t' : TwoWireTask} {w' : Wires β B}
    (h : send bus c offered t w = (e, t', w')) :
    Ran bus c offered room t w (if e.isRunning then t' else t'.ended c) w' := by
  unfold send at h
  have hsize : 0 < serialBufferSize - 1 := by decide
  rcases Ring.read_cases hsize offered w.outgoing with ⟨hb, hc, hr⟩ | ⟨hb, hc, hr⟩ | ⟨bytes, rest, hne, hb, hr⟩
  · rw [hr] at h
    cases h
    exact .drained out sending hb hc
  · rw [hr] at h
    cases h
    exact .dry out sending hb hc
  · have hread : (w.outgoing.read (serialBufferSize - 1) offered).1 = some bytes := by rw [hr]
    rw [hr] at h
    cases bytes with
    | nil => exact absurd rfl hne
    | cons byte bytes =>
        dsimp only at h
        split at h
        · next b hsend =>
            cases h
            exact .refused _ rest b out sending hne hb hsend hread
        · next b hsend =>
            split at h
            · cases h
              exact .sent _ rest b t.checkAt out sending hne hb hsend hread
            · cases h
              exact .sent _ rest b _ out sending hne hb hsend hread

private theorem receive_ran {t : TwoWireTask} {w : Wires β B} (waiting : t.dieAt ≠ 0)
    {e : TaskEval} {t' : TwoWireTask} {w' : Wires β B}
    (h : receive bus room t w = (e, t', w')) :
    Ran bus c offered room t w (if e.isRunning then t' else t'.ended c) w' := by
  unfold receive at h
  split at h
  · next expects =>
      split at h
      · next b hrecv =>
          cases h
          exact .empty b waiting expects hrecv
      · next byte bytes b hrecv =>
          have key : Ran bus c offered room t w _ _ :=
            .received (byte :: bytes) _ b waiting expects (by simp) hrecv rfl
          unfold receiveEnd at h
          cases ho : t.outgoing <;> simp only [ho, Bool.false_eq_true, if_true, if_false] at h key <;>
            cases h <;> exact key
  · next hr =>
      have key : Ran bus c offered room t w _ _ := .swept waiting (by omega)
      unfold receiveEnd at h
      cases ho : t.outgoing <;> simp only [ho, Bool.false_eq_true, if_true, if_false] at h key <;>
        cases h <;> exact key

/-- **Every run of the task is one of these.** -/
theorem run_ran (bus : TwoWireBus β B) (c : Clock) (offered room : Nat) (t : TwoWireTask)
    (w : Wires β B) : Ran bus c offered room t w (run bus c offered room t w).1
      (run bus c offered room t w).2 := by
  rcases h : task bus c offered room t w with ⟨e, t', w'⟩
  rw [run_of_task h]
  unfold task at h
  split at h
  · cases h
    exact .waits
  · split at h
    · next sending =>
        split at h
        · next out => exact send_ran out sending h
        · next out =>
            rw [Bool.not_eq_true] at out
            split at h
            · next expects =>
                cases h
                exact .asks out expects _
            · cases h
              exact .nothing out (by omega)
    · next waiting =>
        split at h
        · next hlate =>
            cases h
            exact .late waiting hlate
        · exact receive_ran waiting h

end TwoWireTask

end FieldKit

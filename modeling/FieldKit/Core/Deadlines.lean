/-
  File:      FieldKit/Core/Deadlines.lean
  Subject:   Deadlines stored as a time of the clock: `Power::task`, `ModuleProtocolHandler::handle`
             and `TwoWireTask::task`, when the clock wraps.

  A poll stands with its time, which does not wrap.

  * `plain_onTime_iff` -- `Power` and the handler act in time exactly if the polls up to the first
    one behind the deadline lie in the deadline's period of the clock;
  * `task_stage` -- what a poll of `TwoWireTask` does, by what it finds;
  * `twoWire_onTime_iff` -- when it reports in time that there is no reply;
  * `deadlines_iff` -- all three;
  * `deadlines_wrapped` -- three deadlines set shortly before the clock wraps.
-/
import FieldKit.Comms.ModuleComms
import FieldKit.Core.Power
import FieldKit.Lib.Deadline
import FieldKit.Time

namespace FieldKit.Deadlines

open Lib Time

/-! ## 1. Machines that compare once -/

/-- The polls up to the first one behind the deadline lie in its period. -/
def InPeriod {τ : Type} (time : τ → Nat) (deadline : Nat) (polls : List τ) : Prop :=
  Until (fun p => time p / period = deadline / period) (fun p => time p ≤ deadline) polls

/-- **A machine that only compares the clock with the stored deadline.** -/
theorem plain_onTime_iff {σ τ : Type} {poll : σ → τ → Polled × σ} {time : τ → Nat} {a : Nat}
    {d : Uptime} {s : σ} (hd : d.toNat < 2 ^ 31)
    (hpoll : ∀ p, (poll s p).1 = if clock a + d < clock (time p) then .acts else .waits)
    (hstay : ∀ p, (poll s p).1 = .waits → (poll s p).2 = s) {polls : List τ}
    (hspaced : Spaced time (2 ^ 31) a polls) :
    OnTime poll time (a + d.toNat) s polls ↔ InPeriod time (a + d.toNat) polls := by
  have hperiod : period = 2 ^ 31 + 2 ^ 31 := rfl
  have hacts : ∀ p, (poll s p).1 = .acts ↔ (a + d.toNat) % period < time p % period := by
    intro p
    rw [hpoll p, clock_add, ← clock_lt_iff]
    split
    · next h => exact ⟨fun _ => h, fun _ => rfl⟩
    · next h => exact ⟨fun hw => absurd hw (by decide), fun hw => absurd hw h⟩
  have hwaits : ∀ p, (poll s p).1 = .waits ↔ ¬ clock (a + d.toNat) < clock (time p) := by
    intro p
    rw [hpoll p, clock_add]
    split
    · next h => exact ⟨fun hw => absurd hw (by decide), fun hw => absurd h hw⟩
    · next h => exact ⟨fun _ => h, fun _ => rfl⟩
  have hforgets : ∀ p, (poll s p).1 ≠ .forgets := by
    intro p
    rw [hpoll p]
    split <;> decide
  have hgood : ∀ p, a ≤ time p → time p < a + d.toNat + 2 ^ 31 →
      (Right (a + d.toNat) (time p) (poll s p).1 ↔ time p / period = (a + d.toNat) / period) := by
    intro p hfrom hto
    have hright : Right (a + d.toNat) (time p) (poll s p).1 ↔
        (a + d.toNat < time p → ¬ False) ∧
          (¬ False → ¬ False ∧ time p / period = (a + d.toNat) / period) :=
      right_iff (by omega) (by omega)
        ((hacts p).trans ⟨fun h => ⟨not_false, not_false, h⟩, fun h => h.2.2⟩)
        ⟨fun h => absurd h (hforgets p), fun h => absurd h.2 not_false⟩
    rw [hright]
    exact ⟨fun h => (h.2 not_false).2, fun h => ⟨fun _ => not_false, fun _ => ⟨not_false, h⟩⟩⟩
  rw [onTime_iff hstay hgood polls le_rfl (Nat.le_add_right a _) hspaced]
  refine until_congr (fun p hp => ?_) polls
  rw [hwaits p, clock_lt_iff_of_div_eq hp]
  exact Nat.not_lt

/-! ## 2. The gauge -/

/-- A poll of `Power`, and what the gauge reads then. -/
structure PowerAsk where
  time : Nat
  reading : BatteryReading
  deriving DecidableEq, Repr

/-- A poll so short that all its readings of the clock are the same. -/
def still (now : Uptime) : PowerClock := ⟨now, now, now, now⟩

/-- It acts when it reads the gauge. -/
def powerPoll (interval : Uptime) (sleeping : Bool) (p : Power) (ask : PowerAsk) :
    Polled × Power :=
  let r := p.taskEvery interval sleeping (still (clock ask.time)) ask.reading
  (if r.updated.isSome then .acts else .waits, r.power)

/-- What the poll leaves that reads the gauge at `a`. -/
def armedPower (interval : Uptime) (sleeping : Bool) (a : Nat) (reading : BatteryReading)
    (p : Power) : Power := (p.taskEvery interval sleeping (still (clock a)) reading).power

theorem armedPower_fields (interval : Uptime) (sleeping : Bool) {a : Nat} {p : Power}
    (reading : BatteryReading) (hdue : p.due (clock a) = true) (havailable : p.available = true) :
    (armedPower interval sleeping a reading p).queryTime = clock a + interval ∧
      (armedPower interval sleeping a reading p).available = true := by
  have hdue : p.due (still (clock a)).checked = true := hdue
  rw [armedPower, Power.taskEvery, if_pos hdue, if_pos havailable]
  exact ⟨rfl, havailable⟩

theorem powerPoll_fst {p : Power} (havailable : p.available = true) (interval : Uptime)
    (sleeping : Bool) (ask : PowerAsk) :
    (powerPoll interval sleeping p ask).1 =
      if p.queryTime < clock ask.time then .acts else .waits := by
  show (if (p.taskEvery interval sleeping (still (clock ask.time)) ask.reading).updated.isSome
    then _ else _) = _
  rw [Power.taskEvery, if_pos havailable]
  by_cases hdue : p.queryTime < clock ask.time
  · have hdue' : p.due (still (clock ask.time)).checked = true := decide_eq_true hdue
    rw [if_pos hdue', if_pos hdue]
    rfl
  · have hdue' : ¬ p.due (still (clock ask.time)).checked = true := by
      intro h
      exact hdue (of_decide_eq_true h)
    rw [if_neg hdue', if_neg hdue]
    rfl

theorem powerPoll_waits {p : Power} (havailable : p.available = true) {interval : Uptime}
    {sleeping : Bool} {ask : PowerAsk} (h : (powerPoll interval sleeping p ask).1 = .waits) :
    (powerPoll interval sleeping p ask).2 = p := by
  rw [powerPoll_fst havailable] at h
  have hdue : ¬ p.due (still (clock ask.time)).checked = true := by
    intro hdue
    have hlt : p.queryTime < clock ask.time := of_decide_eq_true hdue
    rw [if_pos hlt] at h
    cases h
  show (p.taskEvery interval sleeping (still (clock ask.time)) ask.reading).power = p
  rw [Power.taskEvery, if_neg hdue]

/-- **When the gauge is read in time.** -/
theorem power_onTime_iff {interval : Uptime} (hinterval : interval.toNat < 2 ^ 31)
    {sleeping : Bool} {a : Nat} {p : Power} (reading : BatteryReading)
    (hdue : p.due (clock a) = true) (havailable : p.available = true) {polls : List PowerAsk}
    (hspaced : Spaced PowerAsk.time (2 ^ 31) a polls) :
    OnTime (powerPoll interval sleeping) PowerAsk.time (a + interval.toNat)
        (armedPower interval sleeping a reading p) polls ↔
      InPeriod PowerAsk.time (a + interval.toNat) polls := by
  obtain ⟨harmed, hstill⟩ := armedPower_fields interval sleeping reading hdue havailable
  refine plain_onTime_iff hinterval (fun ask => ?_) (fun ask => powerPoll_waits hstill) hspaced
  rw [powerPoll_fst hstill, harmed]

/-! ## 3. The protocol handler -/

section Handler

variable {Q O E R β B : Type}

/-- A poll of the handler that finds communications free. -/
structure HandlerAsk (Q O R β B : Type) where
  time : Nat
  link : Link Q O R β B
  free : link.comms.busy = false
  ready : link.comms.hasQuery = false

/-- It acts when it enqueues; with a failed assertion there is nothing to wait for. -/
def handlerPoll (M : ModuleQueries Q O E R β) (h : ModuleProtocolHandler Q)
    (ask : HandlerAsk Q O R β B) : Polled × ModuleProtocolHandler Q :=
  match h.handle M (clock ask.time) ask.link with
  | some (_, h', l) => (if l.comms.hasQuery then .acts else .waits, h')
  | none => (.ends, h)

/-- What a `push` at `a` leaves. -/
def armedHandler (a : Nat) (address : Address) (query : Q) (delay : Uptime)
    (h : ModuleProtocolHandler Q) : ModuleProtocolHandler Q :=
  h.push (clock a) address query delay

/-- What finishes does not take back the query that waits. -/
theorem hasQuery_handleFinish (M : ModuleQueries Q O E R β) (h : ModuleProtocolHandler Q)
    (l : Link Q O R β B) :
    (ModuleProtocolHandler.handleFinish M h l).2.2.comms.hasQuery = l.comms.hasQuery := by
  unfold ModuleProtocolHandler.handleFinish
  split
  · rfl
  · split
    · rfl
    · split <;> rfl

/-- A handler with nothing on the wire. -/
theorem handlerPoll_eq (M : ModuleQueries Q O E R β) {h : ModuleProtocolHandler Q} {q : Q}
    (hactive : h.active.query = none) (hpending : h.pending.query = some q)
    (ask : HandlerAsk Q O R β B) :
    (handlerPoll M h ask).1 = (if h.pending.delay < clock ask.time then .acts else .waits) ∧
      ((handlerPoll M h ask).1 = .waits → (handlerPoll M h ask).2 = h) := by
  have hfree : ¬ ask.link.comms.busy = true := by
    rw [ask.free]
    exact Bool.false_ne_true
  unfold handlerPoll ModuleProtocolHandler.handle ModuleProtocolHandler.handleEnqueue
    ModuleProtocolHandler.due
  by_cases hdue : h.pending.delay < clock ask.time
  · rw [if_pos ⟨hfree, hdue⟩, if_pos hdue, hpending]
    dsimp only
    unfold ModuleCommunications.enqueue
    rw [if_neg (by rw [ask.ready]; exact Bool.false_ne_true)]
    dsimp only [Option.map_some]
    rw [hasQuery_handleFinish, if_pos rfl]
    exact ⟨rfl, fun hw => absurd hw (by decide)⟩
  · rw [if_neg (fun hb => hdue hb.2), if_neg hdue]
    dsimp only [Option.map_some]
    rw [hasQuery_handleFinish]
    dsimp only
    rw [if_neg (by rw [ask.ready]; exact Bool.false_ne_true)]
    refine ⟨rfl, fun _ => ?_⟩
    unfold ModuleProtocolHandler.handleFinish
    rw [hactive]

/-- **When a query pushed with a delay is enqueued in time.** -/
theorem handler_onTime_iff (M : ModuleQueries Q O E R β) {delay : Uptime}
    (hdelay : delay.toNat < 2 ^ 31) (hpos : 0 < delay) {a : Nat} (address : Address) (query : Q)
    (h : ModuleProtocolHandler Q) {polls : List (HandlerAsk Q O R β B)}
    (hspaced : Spaced HandlerAsk.time (2 ^ 31) a polls) :
    OnTime (handlerPoll M) HandlerAsk.time (a + delay.toNat)
        (armedHandler a address query delay h) polls ↔
      InPeriod HandlerAsk.time (a + delay.toNat) polls := by
  have hpoll := handlerPoll_eq (B := B) M (h := armedHandler a address query delay h) (q := query)
    rfl rfl
  have hstored : (armedHandler a address query delay h).pending.delay = clock a + delay :=
    if_pos hpos
  refine plain_onTime_iff hdelay (fun ask => ?_) (fun ask => (hpoll ask).2) hspaced
  rw [(hpoll ask).1, hstored]

end Handler

/-! ## 4. The exchange -/

section Exchange

variable {β B : Type}

/-- `checkAt` has not come: the first guard of `TwoWireTask::task`. -/
def Held (now : Uptime) (t : TwoWireTask) : Prop := 0 < t.checkAt ∧ now < t.checkAt

instance (now : Uptime) (t : TwoWireTask) : Decidable (Held now t) :=
  inferInstanceAs (Decidable (_ ∧ _))

/-- What a poll finds. -/
def stage (now : Uptime) (t : TwoWireTask) : Polled :=
  if Held now t then .waits
  else if t.dieAt = 0 then .forgets
  else if t.dieAt < now then .acts
  else .ends

/-- **What it then does**: it waits; it reports that there is no reply in time; it asks the bus; or
    it goes back to sending and asking, as if no deadline was set. -/
theorem task_stage (bus : TwoWireBus β B) (now : Uptime) (offered room : Nat) (t : TwoWireTask)
    (w : Wires β B) :
    t.task bus (.still now) offered room w =
      match stage now t with
      | .waits => (.idle, t, w)
      | .acts => (.error, t, w)
      | .ends => t.receive bus room w
      | .forgets =>
        if t.outgoing then t.send bus (.still now) offered w
        else if 0 < t.repliesRemaining then
          (.idle, { t with
            dieAt := now + t.replyConfig.replyTimeout
            checkAt := now + t.replyConfig.replyDelay }, w)
        else (.done, t, w) := by
  unfold TwoWireTask.task stage
  by_cases hheld : Held now t
  · have hguard : 0 < t.checkAt ∧ (Clock.still now).checked < t.checkAt := hheld
    rw [if_pos hguard, if_pos hheld]
  · have hguard : ¬ (0 < t.checkAt ∧ (Clock.still now).checked < t.checkAt) := hheld
    rw [if_neg hguard, if_neg hheld]
    by_cases hunset : t.dieAt = 0
    · rw [if_pos hunset, if_pos hunset]
      rfl
    · rw [if_neg hunset, if_neg hunset]
      by_cases hlate : t.dieAt < now
      · have hlate' : t.dieAt < (Clock.still now).timed := hlate
        rw [if_pos hlate', if_pos hlate]
      · have hlate' : ¬ t.dieAt < (Clock.still now).timed := hlate
        rw [if_neg hlate', if_neg hlate]

/-- A poll of the exchange, with the streams and the bus it finds. -/
structure TwoWireAsk (β B : Type) where
  time : Nat
  offered : Nat
  room : Nat
  wires : Wires β B

def twoWirePoll (bus : TwoWireBus β B) (t : TwoWireTask) (ask : TwoWireAsk β B) :
    Polled × TwoWireTask :=
  (stage (clock ask.time) t, (t.task bus (.still (clock ask.time)) ask.offered ask.room ask.wires).2.1)

/-- The deadline of a reply is set at `a`. -/
def Awaits (a : Nat) (t : TwoWireTask) : Prop :=
  t.dieAt = clock a + t.replyConfig.replyTimeout

/-- So it is behind every run that sets it. -/
theorem awaits_of_run {bus : TwoWireBus β B} {a offered room : Nat} {t : TwoWireTask}
    {w : Wires β B} (hunset : t.dieAt = 0)
    (hset : (t.run bus (.still (clock a)) offered room w).1.dieAt ≠ 0) :
    Awaits a (t.run bus (.still (clock a)) offered room w).1 := by
  have hran := TwoWireTask.run_ran bus (.still (clock a)) offered room t w
  revert hran hset
  generalize t.run bus (.still (clock a)) offered room w = r
  obtain ⟨t', w'⟩ := r
  intro hset hran
  cases hran with
  | sent => rfl
  | asks => rfl
  | waits => exact absurd hunset hset
  | dry => exact absurd hunset hset
  | drained => exact absurd hunset hset
  | refused => exact absurd hunset hset
  | nothing => exact absurd hunset hset
  | late waiting => exact absurd hunset waiting
  | empty _ waiting => exact absurd hunset waiting
  | received _ _ _ waiting => exact absurd hunset waiting
  | swept waiting => exact absurd hunset waiting

/-- No poll behind the deadline is held up, and the first one not held up finds the deadline in its
    own period, and not to be 0. -/
def Unheld (t : TwoWireTask) (deadline : Nat) (polls : List (TwoWireAsk β B)) : Prop :=
  Until (fun p => (deadline < p.time → ¬ Held (clock p.time) t) ∧
      (¬ Held (clock p.time) t → deadline % period ≠ 0 ∧ p.time / period = deadline / period))
    (fun p => Held (clock p.time) t) polls

theorem stage_waits_iff (now : Uptime) (t : TwoWireTask) : stage now t = .waits ↔ Held now t := by
  unfold stage
  split
  · next h => exact ⟨fun _ => h, fun _ => rfl⟩
  · next h =>
      refine ⟨fun hw => ?_, fun hheld => absurd hheld h⟩
      split at hw
      · cases hw
      · split at hw <;> cases hw

theorem stage_acts_iff (now : Uptime) (t : TwoWireTask) :
    stage now t = .acts ↔ ¬ Held now t ∧ ¬ t.dieAt = 0 ∧ t.dieAt < now := by
  unfold stage
  split
  · next h => exact ⟨fun ha => absurd ha (by decide), fun ha => absurd h ha.1⟩
  · next h =>
      split
      · next hz => exact ⟨fun ha => absurd ha (by decide), fun ha => absurd hz ha.2.1⟩
      · next hz =>
          split
          · next hlt => exact ⟨fun _ => ⟨h, hz, hlt⟩, fun _ => rfl⟩
          · next hlt => exact ⟨fun ha => absurd ha (by decide), fun ha => absurd ha.2.2 hlt⟩

theorem stage_forgets_iff (now : Uptime) (t : TwoWireTask) :
    stage now t = .forgets ↔ ¬ Held now t ∧ t.dieAt = 0 := by
  unfold stage
  split
  · next h => exact ⟨fun hf => absurd hf (by decide), fun hf => absurd h hf.1⟩
  · next h =>
      split
      · next hz => exact ⟨fun _ => ⟨h, hz⟩, fun _ => rfl⟩
      · next hz =>
          refine ⟨fun hf => ?_, fun hf => absurd hf.2 hz⟩
          split at hf <;> cases hf

/-- **When it is reported in time that there is no reply.** -/
theorem twoWire_onTime_iff (bus : TwoWireBus β B) {a : Nat} {t : TwoWireTask}
    (htimeout : t.replyConfig.replyTimeout.toNat < 2 ^ 31) (hset : Awaits a t)
    {polls : List (TwoWireAsk β B)} (hspaced : Spaced TwoWireAsk.time (2 ^ 31) a polls) :
    OnTime (twoWirePoll bus) TwoWireAsk.time (a + t.replyConfig.replyTimeout.toNat) t polls ↔
      Unheld t (a + t.replyConfig.replyTimeout.toNat) polls := by
  have hperiod : period = 2 ^ 31 + 2 ^ 31 := rfl
  have hdie : t.dieAt = clock (a + t.replyConfig.replyTimeout.toNat) := by
    rw [hset, clock_add]
  have hstay : ∀ p, (twoWirePoll bus t p).1 = .waits → (twoWirePoll bus t p).2 = t := by
    intro p hw
    have hw : stage (clock p.time) t = .waits := hw
    show (t.task bus (.still (clock p.time)) p.offered p.room p.wires).2.1 = t
    rw [task_stage, hw]
  have hgood : ∀ p : TwoWireAsk β B, a ≤ p.time →
      p.time < a + t.replyConfig.replyTimeout.toNat + 2 ^ 31 →
      (Right (a + t.replyConfig.replyTimeout.toNat) p.time (twoWirePoll bus t p).1 ↔
        (a + t.replyConfig.replyTimeout.toNat < p.time → ¬ Held (clock p.time) t) ∧
          (¬ Held (clock p.time) t → (a + t.replyConfig.replyTimeout.toNat) % period ≠ 0 ∧
            p.time / period = (a + t.replyConfig.replyTimeout.toNat) / period)) := by
    intro p hfrom hto
    refine right_iff (by omega) (by omega) ?_ ?_
    · refine (stage_acts_iff (clock p.time) t).trans ?_
      rw [hdie, clock_eq_zero_iff, clock_lt_iff]
    · refine (stage_forgets_iff (clock p.time) t).trans ?_
      rw [hdie, clock_eq_zero_iff]
  rw [onTime_iff hstay hgood polls le_rfl (Nat.le_add_right a _) hspaced]
  exact until_congr (fun p _ => stage_waits_iff (clock p.time) t) polls

end Exchange

/-! ## 5. All three -/

/-- **When the three act in time**, whenever the deadline was set. -/
theorem deadlines_iff {Q O E R β B : Type} (a : Nat) {d : Uptime} (hd : d.toNat < 2 ^ 31) :
    (∀ (sleeping : Bool) (p : Power) (reading : BatteryReading) (polls : List PowerAsk),
      p.due (clock a) = true → p.available = true → Spaced PowerAsk.time (2 ^ 31) a polls →
        (OnTime (powerPoll d sleeping) PowerAsk.time (a + d.toNat)
            (armedPower d sleeping a reading p) polls ↔
          InPeriod PowerAsk.time (a + d.toNat) polls)) ∧
    (∀ (M : ModuleQueries Q O E R β) (address : Address) (query : Q) (h : ModuleProtocolHandler Q)
      (polls : List (HandlerAsk Q O R β B)),
      0 < d → Spaced HandlerAsk.time (2 ^ 31) a polls →
        (OnTime (handlerPoll M) HandlerAsk.time (a + d.toNat)
            (armedHandler a address query d h) polls ↔
          InPeriod HandlerAsk.time (a + d.toNat) polls)) ∧
    (∀ (bus : TwoWireBus β B) (t : TwoWireTask) (polls : List (TwoWireAsk β B)),
      t.replyConfig.replyTimeout = d → Awaits a t →
        Spaced TwoWireAsk.time (2 ^ 31) a polls →
          (OnTime (twoWirePoll bus) TwoWireAsk.time (a + d.toNat) t polls ↔
            Unheld t (a + d.toNat) polls)) := by
  refine ⟨?_, ?_, ?_⟩
  · intro sleeping p reading polls hdue havailable hspaced
    exact power_onTime_iff hd reading hdue havailable hspaced
  · intro M address query h polls hpos hspaced
    exact handler_onTime_iff M hd hpos address query h hspaced
  · intro bus t polls htimeout hset hspaced
    subst htimeout
    exact twoWire_onTime_iff bus hd hset hspaced

/-- A gauge that is there. -/
def gauge : Power := { available := true, status := ⟨false, false, false, 0, 0, 0, 0, 0⟩ }

/-- A reading. -/
def charged : BatteryReading := ⟨4000, 0, 0⟩

/-- Queries of no content. -/
def plainQueries : ModuleQueries Unit Unit Unit Unit Unit where
  replyConfig _ := ReplyConfig.Default
  prepare _ _ o r := (o, r)
  tick _ _ o r := (o, r)
  reply _ _ o := o
  decode _ := none
  replyType _ := .REPLY_SUCCESS
  tick_keeps _ _ _ _ _ := rfl

/-- A poll that finds nothing on the wires. -/
def idleAsk (t : Nat) : HandlerAsk Unit Unit Unit Unit Unit :=
  { time := t, link := ⟨{}, (), ()⟩, free := rfl, ready := rfl }

/-- A bus where nobody answers. -/
def silentBus : TwoWireBus Unit Unit where
  send _ _ _ := (true, ())
  receive _ _ _ := ([], ())

/-- A poll of an exchange with nothing on its streams. -/
def silentAsk (t : Nat) : TwoWireAsk Unit Unit := ⟨t, 0, 0, ⟨{}, {}, ()⟩⟩

/-- An exchange that has sent its query at `a`. -/
def sentAt (a : Nat) : TwoWireTask :=
  { outgoing := true
    address := 1
    replyConfig := ReplyConfig.Default
    dieAt := clock a + 1000
    checkAt := clock a + 100
    repliesRemaining := 1 }

/-- Half a second and a second behind the start all three deadlines are kept. -/
theorem deadlines_from_start :
    OnTime (powerPoll 1000 false) PowerAsk.time 1001 (armedPower 1000 false 1 charged gauge)
        [⟨500, charged⟩, ⟨1002, charged⟩] ∧
      OnTime (handlerPoll plainQueries) HandlerAsk.time 1001 (armedHandler 1 1 () 1000 {})
        [idleAsk 500, idleAsk 1002] ∧
      OnTime (twoWirePoll silentBus) TwoWireAsk.time 1001 (sentAt 1)
        [silentAsk 50, silentAsk 1002] := by
  obtain ⟨hpower, hhandler, hwire⟩ :=
    @deadlines_iff Unit Unit Unit Unit Unit Unit 1 1000 (by decide)
  refine ⟨(hpower false gauge charged _ rfl rfl ?_).mpr ?_, (hhandler plainQueries 1 () {} _ ?_ ?_).mpr ?_,
    (hwire silentBus (sentAt 1) _ rfl rfl ?_).mpr ?_⟩
  · exact ⟨by decide, by decide, by decide, by decide, trivial⟩
  · exact ⟨by decide, fun _ => ⟨by decide, fun h => absurd h (by decide)⟩⟩
  · decide
  · exact ⟨by decide, by decide, by decide, by decide, trivial⟩
  · exact ⟨by decide, fun _ => ⟨by decide, fun h => absurd h (by decide)⟩⟩
  · exact ⟨by decide, by decide, by decide, by decide, trivial⟩
  · exact ⟨⟨by decide, fun h => absurd (by decide) h⟩,
      fun _ => ⟨⟨by decide, fun _ => by decide⟩, fun h => absurd h (by decide)⟩⟩

/-- **Set shortly before the clock wraps**: the gauge is not read when its time has come, a query is
    enqueued a second too early, and after a fifth of the time there is no reply in time. -/
theorem deadlines_wrapped :
    ¬ OnTime (powerPoll powerManagementQueryInterval false) PowerAsk.time (2 ^ 32 - 10000)
        (armedPower powerManagementQueryInterval false (2 ^ 32 - 40000) charged gauge)
        [⟨2 ^ 32 - 20000, charged⟩, ⟨2 ^ 32 + 5, charged⟩] ∧
      ¬ OnTime (handlerPoll plainQueries) HandlerAsk.time (2 ^ 32 + 990)
        (armedHandler (2 ^ 32 - 10) 1 () 1000 {}) [idleAsk (2 ^ 32 - 5)] ∧
      ¬ OnTime (twoWirePoll silentBus) TwoWireAsk.time (2 ^ 32 + 500) (sentAt (2 ^ 32 - 500))
        [silentAsk (2 ^ 32 - 300)] := by
  refine ⟨fun h => ?_, fun h => ?_, fun h => ?_⟩
  · exact absurd ((h.2 rfl).1.2.1 (by decide)) (by decide)
  · exact absurd (h.1.1 rfl) (by decide)
  · exact absurd (h.1.1 rfl) (by decide)

end FieldKit.Deadlines

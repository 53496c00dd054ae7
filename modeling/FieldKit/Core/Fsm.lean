/-
  File:      FieldKit/Core/Fsm.lean
  Subject:   The state machine of the device (tinyfsm.hpp, core_fsm.cpp) and the tasks of its states that
             let the button in: does a state that a press selects stay selected?

  A task calls `alive()`, which runs `UserButton::task`; a press is dispatched to the current state
  from inside, and the task goes on behind it. What a task reads is the environment's, and so is
  which calls of `alive()` deliver a press. A `UserButton::task` delivers one press at most.

  Members of the states are inputs of an activation; what a task leaves in them is left out, and so
  are builds with FK_NATURALIST. `none` is a null pointer, a failed assertion, or a task that has
  not returned.

  * `kept_iff` -- for every state whose task calls `alive()`: exactly when the state that the last
    press selected is the current one after the task has returned;
  * `press_swallowed` -- a long press while readings are taken.
-/
import FieldKit.Platform

namespace FieldKit.CoreDevice

/-! ## 1. States and events -/

/-- The states that are named here; `other` are the rest, which react to no event of their own. -/
inductive State where
  | idle
  | noModules
  | sleep
  | lowPowerSleep
  | checkPower
  | factoryResetCheck
  | factoryReset
  | firmwareHealthCheck
  | firmwareSelfFlash
  | scanAttachedDevices
  | liveDataReading
  | takeReadings
  | checkFirmware
  | upgradeModuleFirmware
  | wifiStartup
  | wifiListening
  | wifiCaptiveListening
  | wifiDisable
  | appServicer
  | startSystem
  | userWakeup
  | turnOff
  | rebootDevice
  | other (n : Nat)
  deriving DecidableEq, Repr

/-- The press events of the button. -/
inductive ButtonEvent where
  | minorButtonPress
  | shortButtonPress
  | longButtonPress
  deriving DecidableEq, Repr

/-- `react`, to a press: where it transits to. `FactoryResetCheck` and `TurnOff` override it. -/
def reactButton (e : ButtonEvent) : State → Option State
  | .turnOff => some .rebootDevice
  | .factoryResetCheck => if e = .longButtonPress then some .factoryReset else none
  | _ =>
    match e with
    | .minorButtonPress => none
    | .shortButtonPress => some .userWakeup
    | .longButtonPress => some .turnOff

/-- `react(LowPowerEvent)`, with or without a console attached. -/
def reactLowPower (console : Bool) : State → Option State
  | .idle | .noModules => if console then none else some .lowPowerSleep
  | _ => none

/-- `react(SchedulerEvent)`. -/
def reactScheduler (deferred : Option State) : State → Option State
  | .idle | .noModules | .wifiListening => deferred
  | _ => none

/-! ## 2. The machine -/

/-- `Fsm`. `selected` is not in the source: where the last press event transited to. -/
structure Fsm where
  previous : Option State := none
  current : State
  resume : Option State := none
  selected : Option State := none
  deriving DecidableEq, Repr

/-- What the environment decides in one `alive()`: whether `Power::task` sends a low power event,
    and what `UserButton::task` sends. -/
structure Alive where
  lowPower : Bool := false
  console : Bool := false
  button : Option ButtonEvent := none
  deriving DecidableEq, Repr

namespace Fsm

/-- `transit(state_ptr)`. -/
def transit (state : State) (m : Fsm) : Fsm :=
  { m with previous := some m.current, current := state }

/-- `back()`. -/
def back (m : Fsm) : Option Fsm := m.previous.map fun state => m.transit state

/-- `resume()`. -/
def resumeState (m : Fsm) : Option Fsm :=
  m.resume.map fun state => { m.transit state with resume := none }

/-- `transitioned()`, asked by `self`. -/
def transitioned (self : State) (m : Fsm) : Bool := decide (m.current ≠ self)

/-- `dispatch` of a press. -/
def button (e : ButtonEvent) (m : Fsm) : Fsm :=
  match reactButton e m.current with
  | some state => { m.transit state with selected := some state }
  | none => m

/-- `dispatch` of a low power event. -/
def lowPower (console : Bool) (m : Fsm) : Fsm :=
  match reactLowPower console m.current with
  | some state => m.transit state
  | none => m

/-- `dispatch` of a scheduler event. -/
def scheduler (deferred : Option State) (m : Fsm) : Fsm :=
  match reactScheduler deferred m.current with
  | some state => m.transit state
  | none => m

/-- `alive()`. -/
def alive (a : Alive) (m : Fsm) : Fsm :=
  let m := if a.lowPower then m.lowPower a.console else m
  match a.button with
  | some e => m.button e
  | none => m

/-- `scheduledTasks()`; `events` are those that are due. -/
def scheduledTasks (events : List (Option State)) (m : Fsm) : Fsm :=
  events.foldl (fun m deferred => m.scheduler deferred) m

/-- A loop that calls `alive()` and does not look where it is. -/
def aliveLoop (as : List Alive) (m : Fsm) : Fsm := as.foldl (fun m a => m.alive a) m

/-- A loop that returns when it has transitioned. -/
def aliveUntil (self : State) : List Alive → Fsm → Fsm
  | [], m => m
  | a :: as, m =>
    if (m.alive a).transitioned self then m.alive a else aliveUntil self as (m.alive a)

end Fsm

/-! ## 3. The tasks -/

/-- `SchedulerCheckInterval` of tuning.h. -/
def schedulerCheckInterval : Uptime := 500

/-- `SleepMinimumSeconds` of tuning.h. -/
def sleepMinimumSeconds : BitVec 32 := 5

/-- What `Idle::task` reads. -/
structure Idle where
  alive : Alive
  checked : Uptime
  uptime : Uptime
  scheduled : List (Option State) := []
  nowUnix : BitVec 32
  nextTask : Option (BitVec 32)
  errors : Bool
  deriving DecidableEq, Repr

/-- It is time to check the scheduler. -/
def Idle.due (i : Idle) : Bool := decide (schedulerCheckInterval < i.uptime - i.checked)

/-- `Idle::task`, behind the scheduler: errors of the file system. -/
def Idle.checkFiles (i : Idle) (m : Fsm) : Fsm :=
  if i.errors then m.transit .rebootDevice else m

def Idle.task (i : Idle) (m : Fsm) : Option Fsm :=
  let m := m.alive i.alive
  if i.due then
    let m := m.scheduledTasks i.scheduled
    if m.transitioned .idle then some m
    else
      match i.nextTask with
      | some time =>
        if sleepMinimumSeconds < time - i.nowUnix then some (m.transit .sleep)
        else some (i.checkFiles m)
      | none => some (m.transit .sleep)
  else some (i.checkFiles m)

/-- What `NoModules::task` reads; `began`, `now` and `later` are its readings of the clock. -/
structure NoModules where
  alive : Alive
  scheduled : List (Option State) := []
  noModulesSleep : Uptime
  noModulesRescan : Uptime
  entered : Uptime
  scanned : Uptime
  began : Uptime
  now : Uptime
  later : Uptime
  deriving DecidableEq, Repr

/-- It is time to look for modules again. -/
def NoModules.rescans (n : NoModules) : Bool :=
  let scanned := if n.entered = 0 then 0 else n.scanned
  decide (0 < n.noModulesRescan ∧ (scanned = 0 ∨ n.noModulesRescan < n.now - scanned))

/-- It is time to start over. -/
def NoModules.sleeps (n : NoModules) : Bool :=
  let entered := if n.entered = 0 then n.began else n.entered
  decide (n.noModulesSleep < n.later - entered)

def NoModules.task (n : NoModules) (m : Fsm) : Option Fsm :=
  let m := (m.alive n.alive).scheduledTasks n.scheduled
  if n.noModulesSleep = 0 then none
  else if n.rescans then some (m.transit .scanAttachedDevices)
  else if n.sleeps then some (m.transit .rebootDevice)
  else some m

/-- `Sleep::sleep`; `alives` are the rounds that there is time for. -/
def sleep (self : State) (alives : List Alive) (m : Fsm) : Option Fsm :=
  let m := m.aliveUntil self alives
  if m.transitioned self then some m else m.back

/-- `LowPowerSleep::task`; `charged` is a battery above the threshold. -/
def lowPowerSleep (charged : Bool) (alives : List Alive) (m : Fsm) : Option Fsm :=
  if charged then some (m.transit .rebootDevice)
  else (sleep .lowPowerSleep alives m).map fun m => m.transit .lowPowerSleep

/-- What `CheckPower::task` reads. -/
structure CheckPower where
  alive : Alive
  low : Bool
  lowPower : Bool
  attached : Bool
  console : Bool
  visited : Bool
  deriving DecidableEq, Repr

def CheckPower.task (c : CheckPower) (m : Fsm) : Option Fsm :=
  let m := m.alive c.alive
  if c.low ∧ c.lowPower ∧ c.attached ∧ c.console = false then some (m.transit .lowPowerSleep)
  else if c.visited then m.back
  else some (m.transit .firmwareHealthCheck)

/-- `FactoryResetCheck::task`, while the button is pressed or a press is pending. -/
def factoryResetCheck (alives : List Alive) (m : Fsm) : Option Fsm :=
  let m := m.aliveUntil .factoryResetCheck alives
  if m.transitioned .factoryResetCheck then some m else some (m.transit .startSystem)

/-- `FirmwareSelfFlash::task`, up to the reset. -/
def firmwareSelfFlash (alives : List Alive) (m : Fsm) : Option Fsm := some (m.aliveLoop alives)

/-- `LiveDataReading::task`. -/
def liveDataReading (alives : List Alive) (m : Fsm) : Option Fsm := (m.aliveLoop alives).back

/-- What `ScanAttachedDevices::task` reads; it is alive until the modules are ready. -/
structure Scan where
  alives : List Alive
  first : Bool
  hasSensorModules : Bool
  noModulesSleep : Uptime
  deriving DecidableEq, Repr

def Scan.task (s : Scan) (m : Fsm) : Option Fsm :=
  let m := m.aliveLoop s.alives
  if s.first then some (m.transit .wifiStartup)
  else if s.hasSensorModules = false ∧ 0 < s.noModulesSleep then some (m.transit .noModules)
  else some (m.transit .idle)

/-- One reading of `TakeReadings`: the rounds of its runner, whether it ended in error, and whether
    a module has responded at all. -/
structure Reading where
  alives : List Alive
  error : Bool := false
  anyResponses : Bool := true
  deriving DecidableEq, Repr

/-- What `TakeReadings::task` reads; `remaining` was set on entry. -/
structure TakeReadings where
  hasSensorModules : Bool
  remaining : BitVec 8
  readings : List Reading
  deriving DecidableEq, Repr

/-- The loop of `TakeReadings::task`; `true` says that no module has responded. -/
def takeLoop : Nat → List Reading → Fsm → Option (Bool × Fsm)
  | 0, _, m => some (false, m)
  | _ + 1, [], _ => none
  | n + 1, r :: rs, m =>
    if r.error then some (!r.anyResponses, m.aliveLoop r.alives)
    else takeLoop n rs (m.aliveLoop r.alives)

def TakeReadings.task (t : TakeReadings) (m : Fsm) : Option Fsm :=
  if t.hasSensorModules then
    (takeLoop t.remaining.toNat t.readings m).bind fun (silent, m) =>
      if silent then some (m.transit .rebootDevice) else m.resumeState
  else m.resumeState

/-- How a download of `CheckFirmware::check` ends: not at all or with another size, with a file
    that is not verified, or with one that is stored. -/
inductive Download where
  | failed
  | unverified
  | storedPending
  | storedIncoming
  deriving DecidableEq, Repr

/-- `CheckFirmware::task`; without a module or a connection there are no rounds. -/
def checkFirmware (alives : List Alive) (end_ : Download) (m : Fsm) : Option Fsm :=
  let m := m.aliveLoop alives
  match end_ with
  | .failed => m.back
  | .unverified => some m
  | .storedPending => some (m.transit .firmwareSelfFlash)
  | .storedIncoming => some (m.transit .upgradeModuleFirmware)

/-- What `WifiState::serve` reads: a client that is waiting, and whether live data are due. -/
structure Serve where
  listen : Bool
  alive : Alive
  scheduled : List (Option State) := []
  readyForReading : Bool
  deriving DecidableEq, Repr

/-- `WifiState::serve`. -/
def serve (s : Serve) (m : Fsm) : Fsm :=
  if s.listen then m.transit .appServicer
  else
    let m := (m.alive s.alive).scheduledTasks s.scheduled
    if s.readyForReading then m.transit .liveDataReading else m

/-- What `WifiListening::task` and `WifiCaptiveListening::task` read: the time they are there for
    (0 is no limit for the first), and since when. -/
structure Listening where
  time : Uptime
  began : Uptime
  now : Uptime
  serve : Serve
  deriving DecidableEq, Repr

/-- The time is over. -/
def Listening.isOver (l : Listening) : Bool := decide (l.time < l.now - l.began)

/-- `WifiListening::task`. -/
def wifiListening (l : Listening) (m : Fsm) : Option Fsm :=
  if 0 < l.time ∧ l.isOver then some (m.transit .wifiDisable) else some (serve l.serve m)

/-- `WifiCaptiveListening::task`. -/
def wifiCaptiveListening (l : Listening) (m : Fsm) : Option Fsm :=
  if l.isOver then some (m.transit .wifiListening) else some (serve l.serve m)

/-- **One activation of a task that calls `alive()`**, with what it reads. -/
inductive Activation where
  | idle (i : Idle)
  | noModules (n : NoModules)
  | sleep (alives : List Alive)
  | lowPowerSleep (charged : Bool) (alives : List Alive)
  | checkPower (c : CheckPower)
  | factoryResetCheck (alives : List Alive)
  | firmwareSelfFlash (alives : List Alive)
  | liveDataReading (alives : List Alive)
  | scanAttachedDevices (s : Scan)
  | takeReadings (t : TakeReadings)
  | checkFirmware (alives : List Alive) (end_ : Download)
  | wifiListening (l : Listening)
  | wifiCaptiveListening (l : Listening)
  deriving DecidableEq, Repr

namespace Activation

/-- The state whose task it is. -/
def state : Activation → State
  | .idle _ => .idle
  | .noModules _ => .noModules
  | .sleep _ => .sleep
  | .lowPowerSleep _ _ => .lowPowerSleep
  | .checkPower _ => .checkPower
  | .factoryResetCheck _ => .factoryResetCheck
  | .firmwareSelfFlash _ => .firmwareSelfFlash
  | .liveDataReading _ => .liveDataReading
  | .scanAttachedDevices _ => .scanAttachedDevices
  | .takeReadings _ => .takeReadings
  | .checkFirmware _ _ => .checkFirmware
  | .wifiListening _ => .wifiListening
  | .wifiCaptiveListening _ => .wifiCaptiveListening

/-- `task()`, when nothing is selected yet. -/
def run (a : Activation) (m : Fsm) : Option Fsm :=
  match a with
  | .idle i => i.task m
  | .noModules n => n.task m
  | .sleep alives => CoreDevice.sleep .sleep alives m
  | .lowPowerSleep charged alives => CoreDevice.lowPowerSleep charged alives m
  | .checkPower c => c.task m
  | .factoryResetCheck alives => CoreDevice.factoryResetCheck alives m
  | .firmwareSelfFlash alives => CoreDevice.firmwareSelfFlash alives m
  | .liveDataReading alives => CoreDevice.liveDataReading alives m
  | .scanAttachedDevices s => s.task m
  | .takeReadings t => t.task m
  | .checkFirmware alives end_ => CoreDevice.checkFirmware alives end_ m
  | .wifiListening l => CoreDevice.wifiListening l m
  | .wifiCaptiveListening l => CoreDevice.wifiCaptiveListening l m

/-- `task()`. -/
def task (a : Activation) (m : Fsm) : Option Fsm := a.run { m with selected := none }

end Activation

/-! ## 4. The property and its condition -/

/-- **The state that the last press selected is the current one.** -/
def Kept (m : Fsm) : Prop := ∀ state, m.selected = some state → m.current = state

/-- No short or long press is delivered. -/
def Quiet (as : List Alive) : Prop :=
  ∀ a ∈ as, a.button ≠ some .shortButtonPress ∧ a.button ≠ some .longButtonPress

/-- What the events select one after the other, beginning in `s`. -/
def selections (s : State) : List ButtonEvent → List State
  | [] => []
  | e :: es =>
    match reactButton e s with
    | some t => t :: selections t es
    | none => selections s es

/-- What the presses of a loop select in `self`. -/
def selects (self : State) (as : List Alive) : List State :=
  selections self (as.filterMap (·.button))

/-- The last two presses that selected a state selected the same. -/
def Again (self : State) (as : List Alive) : Prop := ∃ l t, selects self as = l ++ [t, t]

/-- The rounds of the readings that are taken. -/
def delivered : Nat → List Reading → List Alive
  | 0, _ => []
  | _ + 1, [] => []
  | n + 1, r :: rs => if r.error then r.alives else r.alives ++ delivered n rs

/-- The readings end with one that no module has responded to. -/
def silent : Nat → List Reading → Bool
  | 0, _ => false
  | _ + 1, [] => false
  | n + 1, r :: rs => if r.error then !r.anyResponses else silent n rs

/-- **When no press is swallowed**, state by state. Where a task transits behind `alive()` without
    looking, no press may be delivered before. -/
def Survives (m : Fsm) : Activation → Prop
  | .idle i => Quiet [i.alive] ∨ i.due = true ∨ i.errors = false
  | .noModules n => Quiet [n.alive] ∨ (n.rescans = false ∧ n.sleeps = false)
  | .sleep _ => True
  | .lowPowerSleep charged alives => charged = true ∨ Quiet alives
  | .checkPower c => Quiet [c.alive]
  | .factoryResetCheck _ => True
  | .firmwareSelfFlash _ => True
  | .liveDataReading alives => Quiet alives ∨ Again .liveDataReading alives
  | .scanAttachedDevices s => Quiet s.alives
  | .takeReadings t =>
    t.hasSensorModules = false ∨
      let rounds := delivered t.remaining.toNat t.readings
      Quiet rounds ∨ (selects .takeReadings rounds).getLast? =
        if silent t.remaining.toNat t.readings then some .rebootDevice else m.resume
  | .checkFirmware alives end_ =>
    Quiet alives ∨ end_ = .unverified ∨ (end_ = .failed ∧ Again .checkFirmware alives)
  | .wifiListening l =>
    (0 < l.time ∧ l.isOver = true) ∨ l.serve.listen = true ∨ Quiet [l.serve.alive] ∨
      l.serve.readyForReading = false
  | .wifiCaptiveListening l =>
    l.isOver = true ∨ l.serve.listen = true ∨ Quiet [l.serve.alive] ∨
      l.serve.readyForReading = false

/-! ## 5. Presses -/

/-- Both of its reactions to a press are those of `CoreDevice`. -/
structure Plain (s : State) : Prop where
  turnOff : s ≠ .turnOff
  factoryResetCheck : s ≠ .factoryResetCheck

/-- A state that does not react to a low power event. -/
structure Steady (s : State) : Prop where
  idle : s ≠ .idle
  noModules : s ≠ .noModules

/-- Where a press can lead. -/
def Pressed (t : State) : Prop :=
  t = .userWakeup ∨ t = .turnOff ∨ t = .rebootDevice ∨ t = .factoryReset

theorem reactButton_plain {s : State} (hs : Plain s) (e : ButtonEvent) :
    reactButton e s =
      match e with
      | .minorButtonPress => none
      | .shortButtonPress => some .userWakeup
      | .longButtonPress => some .turnOff := by
  unfold reactButton
  split
  · exact absurd rfl hs.turnOff
  · exact absurd rfl hs.factoryResetCheck
  · rfl

theorem reactButton_pressed {e : ButtonEvent} {s t : State} (h : reactButton e s = some t) :
    Pressed t := by
  unfold reactButton at h
  unfold Pressed
  split at h
  · cases h
    simp
  · split at h
    · cases h
      simp
    · cases h
  · cases e <;> cases h <;> simp

theorem Pressed.steady {t : State} (h : Pressed t) : Steady t := by
  rcases h with rfl | rfl | rfl | rfl <;> exact ⟨nofun, nofun⟩

theorem reactLowPower_steady {s : State} (hs : Steady s) (console : Bool) :
    reactLowPower console s = none := by
  unfold reactLowPower
  split
  · exact absurd rfl hs.idle
  · exact absurd rfl hs.noModules
  · rfl

namespace Fsm

@[simp] theorem transitioned_iff (self : State) (m : Fsm) :
    m.transitioned self = true ↔ m.current ≠ self := decide_eq_true_iff

theorem button_none {e : ButtonEvent} {m : Fsm} (h : reactButton e m.current = none) :
    m.button e = m := by
  unfold button
  rw [h]

theorem button_some {e : ButtonEvent} {m : Fsm} {t : State}
    (h : reactButton e m.current = some t) :
    m.button e = { m.transit t with selected := some t } := by
  unfold button
  rw [h]

/-- A state that does not react to low power is left by a press only. -/
theorem alive_steady {m : Fsm} (hm : Steady m.current) (a : Alive) :
    m.alive a = match a.button with
      | some e => m.button e
      | none => m := by
  have hlow : m.lowPower a.console = m := by
    unfold lowPower
    rw [reactLowPower_steady hm]
  unfold alive
  rw [hlow, ite_self]

theorem scheduler_selected (deferred : Option State) (m : Fsm) :
    (m.scheduler deferred).selected = m.selected := by
  unfold scheduler
  split <;> rfl

theorem scheduledTasks_selected (events : List (Option State)) (m : Fsm) :
    (m.scheduledTasks events).selected = m.selected := by
  unfold scheduledTasks
  induction events generalizing m with
  | nil => rfl
  | cons d events ih => exact (ih _).trans (scheduler_selected d m)

/-- A state that a press leads to reacts to no scheduler event. -/
theorem scheduledTasks_pressed {m : Fsm} (hm : Pressed m.current) (events : List (Option State)) :
    m.scheduledTasks events = m := by
  unfold scheduledTasks
  induction events with
  | nil => rfl
  | cons d events ih =>
      have hd : m.scheduler d = m := by
        unfold scheduler reactScheduler
        rcases hm with hm | hm | hm | hm <;> rw [hm]
      rw [List.foldl_cons, hd, ih]

end Fsm

/-! ## 6. One call of `alive()` -/

theorem kept_of_none {m : Fsm} (h : m.selected = none) : Kept m := by
  intro state hstate
  rw [h] at hstate
  cases hstate

theorem kept_iff_of_some {m : Fsm} {t : State} (h : m.selected = some t) :
    Kept m ↔ m.current = t := by
  unfold Kept
  rw [h]
  constructor
  · exact fun hall => hall t rfl
  · rintro hcurrent _ heq
    cases heq
    exact hcurrent

/-- The machine stands in the state that a press has selected. -/
structure Landed (m : Fsm) (t : State) : Prop where
  selected : m.selected = some t
  current : m.current = t
  pressed : Pressed t

theorem Landed.kept {m : Fsm} {t : State} (h : Landed m t) : Kept m :=
  (kept_iff_of_some h.selected).mpr h.current

/-- A further transition keeps it only where it goes there itself. -/
theorem Landed.kept_transit {m : Fsm} {t : State} (h : Landed m t) (t' : State) :
    Kept (m.transit t') ↔ t' = t := kept_iff_of_some h.selected

theorem Landed.not_kept {m : Fsm} {t : State} (h : Landed m t) (t' : State) (ht' : ¬ Pressed t') :
    ¬ Kept (m.transit t') := by
  rw [h.kept_transit]
  rintro rfl
  exact ht' h.pressed

theorem Landed.scheduledTasks {m : Fsm} {t : State} (h : Landed m t)
    (events : List (Option State)) : m.scheduledTasks events = m :=
  Fsm.scheduledTasks_pressed (h.current ▸ h.pressed) events

/-- **One `alive()`**: nothing is selected, or the machine stands where the press led. -/
theorem alive_cases {m : Fsm} (hnone : m.selected = none) (hplain : Plain m.current) (a : Alive) :
    (Quiet [a] ∧ (m.alive a).selected = none) ∨
      (¬ Quiet [a] ∧ ∃ t, Landed (m.alive a) t ∧ t ≠ .rebootDevice) := by
  obtain ⟨m₁, hm₁, hnone₁, hplain₁⟩ : ∃ m₁, (if a.lowPower then m.lowPower a.console else m) = m₁ ∧
      m₁.selected = none ∧ Plain m₁.current := by
    refine ⟨_, rfl, ?_⟩
    split
    · unfold Fsm.lowPower
      split
      · next t ht =>
          unfold reactLowPower at ht
          split at ht
          · split at ht <;> cases ht
            exact ⟨hnone, nofun, nofun⟩
          · split at ht <;> cases ht
            exact ⟨hnone, nofun, nofun⟩
          · cases ht
      · exact ⟨hnone, hplain⟩
    · exact ⟨hnone, hplain⟩
  unfold Fsm.alive
  rw [hm₁]
  unfold Quiet Fsm.button
  cases hbutton : a.button with
  | none => exact Or.inl ⟨by simp [hbutton], hnone₁⟩
  | some e =>
      dsimp only
      rw [reactButton_plain hplain₁]
      cases e with
      | minorButtonPress => exact Or.inl ⟨by simp [hbutton], hnone₁⟩
      | shortButtonPress =>
          exact Or.inr ⟨by simp [hbutton], .userWakeup, ⟨rfl, rfl, Or.inl rfl⟩, nofun⟩
      | longButtonPress =>
          exact Or.inr ⟨by simp [hbutton], .turnOff, ⟨rfl, rfl, Or.inr (Or.inl rfl)⟩, nofun⟩

/-! ## 7. Loops -/

theorem selections_cons_none {e : ButtonEvent} {s : State} (h : reactButton e s = none)
    (es : List ButtonEvent) : selections s (e :: es) = selections s es := by
  rw [selections, h]

theorem selections_cons_some {e : ButtonEvent} {s t : State} (h : reactButton e s = some t)
    (es : List ButtonEvent) : selections s (e :: es) = t :: selections t es := by
  rw [selections, h]

/-- **A loop that does not look** ends where the last press led, from where the one before it did. -/
theorem aliveLoop_cases {m : Fsm} (hm : Steady m.current) (as : List Alive) :
    (selects m.current as = [] ∧ m.aliveLoop as = m) ∨
      ∃ l t, selects m.current as = l ++ [t] ∧ m.aliveLoop as =
        { m with
          previous := some (l.getLast?.getD m.current), current := t, selected := some t } := by
  unfold selects Fsm.aliveLoop
  induction as generalizing m with
  | nil => exact Or.inl ⟨rfl, rfl⟩
  | cons a as ih =>
      rw [List.foldl_cons, Fsm.alive_steady hm]
      cases hbutton : a.button with
      | none =>
          rw [List.filterMap_cons_none hbutton]
          exact ih hm
      | some e =>
          rw [List.filterMap_cons_some hbutton]
          dsimp only
          cases hreact : reactButton e m.current with
          | none =>
              rw [Fsm.button_none hreact, selections_cons_none hreact]
              exact ih hm
          | some t =>
              rw [Fsm.button_some hreact, selections_cons_some hreact]
              have hsteady : Steady ({ m.transit t with selected := some t } : Fsm).current :=
                (reactButton_pressed hreact).steady
              right
              rcases ih hsteady with ⟨hnil, hend⟩ | ⟨l, t', hsel, hend⟩
              · exact ⟨[], t, congrArg (t :: ·) hnil, hend⟩
              · refine ⟨t :: l, t', congrArg (t :: ·) hsel, hend.trans ?_⟩
                cases l <;> rfl

theorem selections_pressed {s t : State} {es : List ButtonEvent} (h : t ∈ selections s es) :
    Pressed t := by
  induction es generalizing s with
  | nil => cases h
  | cons e es ih =>
      unfold selections at h
      split at h
      · next u hu =>
          rcases List.mem_cons.mp h with rfl | h
          · exact reactButton_pressed hu
          · exact ih h
      · exact ih h

/-- Only short and long presses select something, when they begin in a plain state. -/
theorem selects_nil_iff {s : State} (hs : Plain s) (as : List Alive) :
    selects s as = [] ↔ Quiet as := by
  unfold selects Quiet
  induction as with
  | nil => simp [selections]
  | cons a as ih =>
      rw [List.forall_mem_cons, ← ih]
      cases hbutton : a.button with
      | none =>
          rw [List.filterMap_cons_none hbutton]
          simp
      | some e =>
          rw [List.filterMap_cons_some hbutton]
          have hreact := reactButton_plain hs e
          cases e with
          | minorButtonPress =>
              rw [selections_cons_none hreact]
              simp
          | shortButtonPress =>
              rw [selections_cons_some hreact]
              simp
          | longButtonPress =>
              rw [selections_cons_some hreact]
              simp

/-- **A loop that does not look**: quiet, or the machine stands where the last press led. -/
theorem aliveLoop_landed {m : Fsm} (hplain : Plain m.current)
    (hsteady : Steady m.current) (as : List Alive) :
    (Quiet as ∧ (m.aliveLoop as) = m) ∨
      (¬ Quiet as ∧ ∃ l t, selects m.current as = l ++ [t] ∧ Landed (m.aliveLoop as) t ∧
        (m.aliveLoop as).previous = some (l.getLast?.getD m.current) ∧
        (m.aliveLoop as).resume = m.resume) := by
  rw [← selects_nil_iff hplain as]
  rcases aliveLoop_cases hsteady as with ⟨hnil, hend⟩ | ⟨l, t, hsel, hend⟩
  · exact Or.inl ⟨hnil, hend⟩
  · have hpressed : Pressed t := by
      have hmem : t ∈ selects m.current as := by
        rw [hsel]
        exact List.mem_append_right l (List.mem_singleton_self t)
      exact selections_pressed hmem
    refine Or.inr ⟨by simp [hsel], l, t, hsel, ?_⟩
    rw [hend]
    exact ⟨⟨rfl, rfl, hpressed⟩, rfl, rfl⟩

theorem aliveUntil_stays {self : State} {a : Alive} {m : Fsm} (h : (m.alive a).current = self)
    (as : List Alive) : m.aliveUntil self (a :: as) = (m.alive a).aliveUntil self as :=
  if_neg fun hleft => (Fsm.transitioned_iff self _).mp hleft h

theorem aliveUntil_leaves {self : State} {a : Alive} {m : Fsm} (h : (m.alive a).current ≠ self)
    (as : List Alive) : m.aliveUntil self (a :: as) = m.alive a :=
  if_pos ((Fsm.transitioned_iff self _).mpr h)

/-- **A loop that looks** returns at the first press that selects a state. -/
theorem aliveUntil_cases {m : Fsm} (hsteady : Steady m.current) (hself : ¬ Pressed m.current)
    (as : List Alive) :
    (selects m.current as = [] ∧ m.aliveUntil m.current as = m) ∨
      (selects m.current as ≠ [] ∧ ∃ t, Landed (m.aliveUntil m.current as) t) := by
  unfold selects
  induction as with
  | nil => exact Or.inl ⟨rfl, rfl⟩
  | cons a as ih =>
      have halive := Fsm.alive_steady hsteady a
      cases hbutton : a.button with
      | none =>
          rw [hbutton] at halive
          rw [List.filterMap_cons_none hbutton, aliveUntil_stays (congrArg Fsm.current halive),
            halive]
          exact ih
      | some e =>
          rw [hbutton] at halive
          dsimp only at halive
          rw [List.filterMap_cons_some hbutton]
          cases hreact : reactButton e m.current with
          | none =>
              rw [Fsm.button_none hreact] at halive
              rw [selections_cons_none hreact, aliveUntil_stays (congrArg Fsm.current halive),
                halive]
              exact ih
          | some t =>
              rw [Fsm.button_some hreact] at halive
              have hpressed := reactButton_pressed hreact
              have hleft : (m.alive a).current ≠ m.current := by
                rw [halive]
                intro heq
                exact hself (heq ▸ hpressed)
              rw [selections_cons_some hreact, aliveUntil_leaves hleft, halive]
              exact Or.inr ⟨List.cons_ne_nil _ _, t, rfl, rfl, hpressed⟩

/-! ## 8. The tasks -/

section Tasks

variable {m m' : Fsm}

theorem Idle.checkFiles_selected (i : Idle) (m : Fsm) : (i.checkFiles m).selected = m.selected := by
  unfold Idle.checkFiles
  split <;> rfl

theorem Idle.task_kept_iff {i : Idle} (hnone : m.selected = none) (hcur : m.current = .idle)
    (h : i.task m = some m') : Kept m' ↔ Survives m (.idle i) := by
  have hplain : Plain m.current := hcur ▸ ⟨nofun, nofun⟩
  unfold Survives
  unfold Idle.task at h
  dsimp only at h
  rcases alive_cases hnone hplain i.alive with ⟨hquiet, hnone'⟩ | ⟨hpress, t, hland, hreboot⟩
  · have hsched : ((m.alive i.alive).scheduledTasks i.scheduled).selected = none :=
      (Fsm.scheduledTasks_selected _ _).trans hnone'
    have hkept : m'.selected = none := by
      split at h
      · split at h
        · cases h
          exact hsched
        · split at h
          · split at h
            · cases h
              exact hsched
            · cases h
              exact (i.checkFiles_selected _).trans hsched
          · cases h
            exact hsched
      · cases h
        exact (i.checkFiles_selected _).trans hnone'
    exact ⟨fun _ => Or.inl hquiet, fun _ => kept_of_none hkept⟩
  · rw [hland.scheduledTasks] at h
    by_cases hdue : i.due = true
    · -- the scheduler is checked: `transitioned()` is seen
      have hleft : (m.alive i.alive).transitioned .idle = true := by
        rw [Fsm.transitioned_iff, hland.current]
        exact hland.pressed.steady.idle
      rw [if_pos hdue, if_pos hleft] at h
      cases h
      exact ⟨fun _ => Or.inr (Or.inl hdue), fun _ => hland.kept⟩
    · rw [if_neg hdue] at h
      cases h
      unfold Idle.checkFiles
      by_cases herrors : i.errors = true
      · rw [if_pos herrors, hland.kept_transit]
        simp [hpress, hdue, herrors, Ne.symm hreboot]
      · rw [if_neg herrors]
        exact ⟨fun _ => Or.inr (Or.inr (Bool.eq_false_iff.mpr herrors)), fun _ => hland.kept⟩

theorem NoModules.task_kept_iff {n : NoModules} (hnone : m.selected = none)
    (hcur : m.current = .noModules) (h : n.task m = some m') :
    Kept m' ↔ Survives m (.noModules n) := by
  have hplain : Plain m.current := hcur ▸ ⟨nofun, nofun⟩
  unfold Survives
  unfold NoModules.task at h
  dsimp only at h
  split at h
  · cases h
  · rcases alive_cases hnone hplain n.alive with ⟨hquiet, hnone'⟩ | ⟨hpress, t, hland, hreboot⟩
    · have hsched : ((m.alive n.alive).scheduledTasks n.scheduled).selected = none :=
        (Fsm.scheduledTasks_selected _ _).trans hnone'
      have hkept : m'.selected = none := by
        split at h
        · cases h
          exact hsched
        · split at h <;> cases h <;> exact hsched
      exact ⟨fun _ => Or.inl hquiet, fun _ => kept_of_none hkept⟩
    · rw [hland.scheduledTasks] at h
      split at h
      · next hrescans =>
          cases h
          simp [hpress, hrescans, hland.not_kept .scanAttachedDevices (by simp [Pressed])]
      · next hrescans =>
          split at h
          · next hsleeps =>
              cases h
              rw [hland.kept_transit]
              simp [hpress, hsleeps, Ne.symm hreboot]
          · next hsleeps =>
              cases h
              simp [hland.kept, hrescans, hsleeps]

/-- `Sleep::sleep` looks after every `alive()`. -/
theorem sleep_cases {as : List Alive} (hplain : Plain m.current) (hsteady : Steady m.current)
    (hself : ¬ Pressed m.current) (h : sleep m.current as m = some m') :
    (Quiet as ∧ m'.selected = m.selected) ∨ (¬ Quiet as ∧ ∃ t, Landed m' t) := by
  rw [← selects_nil_iff hplain]
  unfold sleep at h
  dsimp only at h
  rcases aliveUntil_cases hsteady hself as with ⟨hnil, hend⟩ | ⟨hpress, t, hland⟩
  · left
    rw [hend] at h
    refine ⟨hnil, ?_⟩
    split at h
    · cases h
      rfl
    · obtain ⟨_, _, rfl⟩ := Option.map_eq_some_iff.mp h
      rfl
  · right
    have hleft : (m.aliveUntil m.current as).transitioned m.current = true := by
      rw [Fsm.transitioned_iff, hland.current]
      intro heq
      exact hself (heq ▸ hland.pressed)
    rw [if_pos hleft] at h
    cases h
    exact ⟨hpress, t, hland⟩

theorem sleep_kept {as : List Alive} (hnone : m.selected = none) (hcur : m.current = .sleep)
    (h : sleep .sleep as m = some m') : Kept m' := by
  have hplain : Plain m.current := hcur ▸ ⟨nofun, nofun⟩
  have hsteady : Steady m.current := hcur ▸ ⟨nofun, nofun⟩
  rw [← hcur] at h
  rcases sleep_cases hplain hsteady (by simp [hcur, Pressed]) h with ⟨_, hsel⟩ | ⟨_, t, hland⟩
  · exact kept_of_none (hsel.trans hnone)
  · exact hland.kept

theorem lowPowerSleep_kept_iff {charged : Bool} {as : List Alive} (hnone : m.selected = none)
    (hcur : m.current = .lowPowerSleep) (h : lowPowerSleep charged as m = some m') :
    Kept m' ↔ Survives m (.lowPowerSleep charged as) := by
  have hplain : Plain m.current := hcur ▸ ⟨nofun, nofun⟩
  have hsteady : Steady m.current := hcur ▸ ⟨nofun, nofun⟩
  unfold Survives
  unfold lowPowerSleep at h
  split at h
  · next hcharged =>
      cases h
      exact ⟨fun _ => Or.inl hcharged, fun _ => kept_of_none hnone⟩
  · next hcharged =>
      obtain ⟨m₁, hm₁, rfl⟩ := Option.map_eq_some_iff.mp h
      rw [← hcur] at hm₁
      rcases sleep_cases hplain hsteady (by simp [hcur, Pressed]) hm₁ with
        ⟨hquiet, hsel⟩ | ⟨hpress, t, hland⟩
      · exact ⟨fun _ => Or.inr hquiet, fun _ => kept_of_none (hsel.trans hnone)⟩
      · -- `Sleep::sleep` has looked, but `LowPowerSleep::task` goes on
        have hswallowed := hland.not_kept .lowPowerSleep (by simp [Pressed])
        simp [hpress, hcharged, hswallowed]

/-- `back()` behind a loop that does not look goes where the press before the last one led. -/
theorem back_kept_iff {as : List Alive} {l : List State} {t : State}
    (hself : ¬ Pressed m.current) (hsel : selects m.current as = l ++ [t])
    (hland : Landed (m.aliveLoop as) t)
    (hprevious : (m.aliveLoop as).previous = some (l.getLast?.getD m.current))
    (h : (m.aliveLoop as).back = some m') : Kept m' ↔ Again m.current as := by
  unfold Fsm.back at h
  rw [hprevious] at h
  cases h
  rw [hland.kept_transit]
  unfold Again
  rw [hsel]
  rcases List.eq_nil_or_concat l with rfl | ⟨l', u, rfl⟩
  · constructor
    · intro heq
      have hstart : m.current = t := heq
      exact absurd (hstart ▸ hland.pressed) hself
    · intro h
      obtain ⟨l', t', heq⟩ := h
      have hlength := congrArg List.length heq
      simp at hlength
  · have hlast : (l' ++ [u]).getLast?.getD m.current = u := by simp
    rw [List.concat_eq_append, hlast]
    constructor
    · rintro rfl
      exact ⟨l', u, by simp⟩
    · intro h
      obtain ⟨l'', t', heq⟩ := h
      have hsplit : l' ++ [u, t] = l'' ++ [t', t'] := by simpa using heq
      obtain ⟨_, hpair⟩ := List.append_inj' hsplit rfl
      injection hpair with hu hrest
      injection hrest with ht _
      rw [hu, ht]

theorem selections_length (s : State) (es : List ButtonEvent) :
    (selections s es).length ≤ es.length := by
  induction es generalizing s with
  | nil => exact le_rfl
  | cons e es ih =>
      unfold selections
      split
      · exact Nat.succ_le_succ (ih _)
      · exact (ih s).trans (Nat.le_succ _)

theorem CheckPower.task_kept_iff {c : CheckPower} (hnone : m.selected = none)
    (hcur : m.current = .checkPower) (h : c.task m = some m') :
    Kept m' ↔ Survives m (.checkPower c) := by
  have hplain : Plain m.current := hcur ▸ ⟨nofun, nofun⟩
  have hsteady : Steady m.current := hcur ▸ ⟨nofun, nofun⟩
  have hself : ¬ Pressed m.current := by simp [hcur, Pressed]
  unfold Survives
  unfold CheckPower.task at h
  dsimp only at h
  have hloop : m.alive c.alive = m.aliveLoop [c.alive] := rfl
  rw [hloop] at h
  rcases aliveLoop_landed hplain hsteady [c.alive] with
    ⟨hquiet, hend⟩ | ⟨hpress, l, t, hsel, hland, hprevious, _⟩
  · rw [hend] at h
    have hkept : m'.selected = none := by
      split at h
      · cases h
        exact hnone
      · split at h
        · obtain ⟨_, _, rfl⟩ := Option.map_eq_some_iff.mp h
          exact hnone
        · cases h
          exact hnone
    exact ⟨fun _ => hquiet, fun _ => kept_of_none hkept⟩
  · have hswallowed : ¬ Kept m' := by
      split at h
      · cases h
        exact hland.not_kept _ (by simp [Pressed])
      · split at h
        · rw [back_kept_iff hself hsel hland hprevious h]
          -- one call of `alive()` selects one state
          intro h
          obtain ⟨l', t', htwice⟩ := h
          have hone := selections_length m.current ([c.alive].filterMap (·.button))
          have hmost := List.length_filterMap_le (·.button) [c.alive]
          unfold selects at htwice
          rw [htwice] at hone
          simp at hone hmost
          omega
        · cases h
          exact hland.not_kept _ (by simp [Pressed])
    exact ⟨fun hkept => absurd hkept hswallowed, fun hquiet => absurd hquiet hpress⟩

theorem factoryResetCheck_kept {as : List Alive} (hnone : m.selected = none)
    (hcur : m.current = .factoryResetCheck) (h : factoryResetCheck as m = some m') : Kept m' := by
  have hsteady : Steady m.current := hcur ▸ ⟨nofun, nofun⟩
  have hself : ¬ Pressed m.current := by simp [hcur, Pressed]
  unfold factoryResetCheck at h
  dsimp only at h
  rw [← hcur] at h
  rcases aliveUntil_cases hsteady hself as with ⟨_, hend⟩ | ⟨_, t, hland⟩
  · rw [hend] at h
    split at h <;> cases h <;> exact kept_of_none hnone
  · have hleft : (m.aliveUntil m.current as).transitioned m.current = true := by
      rw [Fsm.transitioned_iff, hland.current]
      intro heq
      exact hself (heq ▸ hland.pressed)
    rw [if_pos hleft] at h
    cases h
    exact hland.kept

theorem liveDataReading_kept_iff {as : List Alive} (hnone : m.selected = none)
    (hcur : m.current = .liveDataReading) (h : liveDataReading as m = some m') :
    Kept m' ↔ Survives m (.liveDataReading as) := by
  have hplain : Plain m.current := hcur ▸ ⟨nofun, nofun⟩
  have hsteady : Steady m.current := hcur ▸ ⟨nofun, nofun⟩
  unfold Survives
  unfold liveDataReading at h
  rcases aliveLoop_landed hplain hsteady as with
    ⟨hquiet, hend⟩ | ⟨hpress, l, t, hsel, hland, hprevious, _⟩
  · rw [hend] at h
    obtain ⟨_, _, rfl⟩ := Option.map_eq_some_iff.mp h
    exact ⟨fun _ => Or.inl hquiet, fun _ => kept_of_none hnone⟩
  · rw [back_kept_iff (by simp [hcur, Pressed]) hsel hland hprevious h, hcur]
    exact ⟨Or.inr, fun hor => hor.resolve_left hpress⟩

theorem firmwareSelfFlash_kept {as : List Alive} (hnone : m.selected = none)
    (hcur : m.current = .firmwareSelfFlash) (h : firmwareSelfFlash as m = some m') : Kept m' := by
  have hplain : Plain m.current := hcur ▸ ⟨nofun, nofun⟩
  have hsteady : Steady m.current := hcur ▸ ⟨nofun, nofun⟩
  cases h
  rcases aliveLoop_landed hplain hsteady as with ⟨_, hend⟩ | ⟨_, _, t, _, hland, _⟩
  · rw [hend]
    exact kept_of_none hnone
  · exact hland.kept

theorem Scan.task_kept_iff {s : Scan} (hnone : m.selected = none)
    (hcur : m.current = .scanAttachedDevices) (h : s.task m = some m') :
    Kept m' ↔ Survives m (.scanAttachedDevices s) := by
  have hplain : Plain m.current := hcur ▸ ⟨nofun, nofun⟩
  have hsteady : Steady m.current := hcur ▸ ⟨nofun, nofun⟩
  unfold Survives
  obtain ⟨t', ht', rfl⟩ : ∃ t', ¬ Pressed t' ∧ m' = (m.aliveLoop s.alives).transit t' := by
    unfold Scan.task at h
    dsimp only at h
    split at h
    · cases h
      exact ⟨_, by simp [Pressed], rfl⟩
    · split at h <;> cases h <;> exact ⟨_, by simp [Pressed], rfl⟩
  rcases aliveLoop_landed hplain hsteady s.alives with
    ⟨hquiet, hend⟩ | ⟨hpress, _, t, _, hland, _⟩
  · rw [hend]
    exact ⟨fun _ => hquiet, fun _ => kept_of_none hnone⟩
  · exact ⟨fun hkept => absurd hkept (hland.not_kept t' ht'), fun hquiet => absurd hquiet hpress⟩

/-- The loop of `TakeReadings` is one loop over all its rounds. -/
theorem takeLoop_eq {n : Nat} {rs : List Reading} {b : Bool} (h : takeLoop n rs m = some (b, m')) :
    b = silent n rs ∧ m' = m.aliveLoop (delivered n rs) := by
  induction n generalizing rs m with
  | zero =>
      cases h
      exact ⟨rfl, rfl⟩
  | succ n ih =>
      cases rs with
      | nil => cases h
      | cons r rs =>
          unfold takeLoop at h
          unfold silent delivered
          split at h
          · next herror =>
              cases h
              rw [if_pos herror, if_pos herror]
              exact ⟨rfl, rfl⟩
          · next herror =>
              rw [if_neg herror, if_neg herror]
              obtain ⟨hb, hm⟩ := ih h
              refine ⟨hb, hm.trans ?_⟩
              unfold Fsm.aliveLoop
              rw [List.foldl_append]

theorem TakeReadings.task_kept_iff {r : TakeReadings} (hnone : m.selected = none)
    (hcur : m.current = .takeReadings) (h : r.task m = some m') :
    Kept m' ↔ Survives m (.takeReadings r) := by
  have hplain : Plain m.current := hcur ▸ ⟨nofun, nofun⟩
  have hsteady : Steady m.current := hcur ▸ ⟨nofun, nofun⟩
  unfold Survives
  dsimp only
  unfold TakeReadings.task at h
  split at h
  · next hsensors =>
      obtain ⟨⟨b, m₁⟩, hloop, hend⟩ := Option.bind_eq_some_iff.mp h
      obtain ⟨rfl, rfl⟩ := takeLoop_eq hloop
      dsimp only at hend
      simp only [hsensors, Bool.true_eq_false, false_or]
      rcases aliveLoop_landed hplain hsteady (delivered r.remaining.toNat r.readings) with
        ⟨hquiet, heq⟩ | ⟨hpress, l, t, hsel, hland, _, hresume⟩
      · have hkept : m'.selected = none := by
          rw [heq] at hend
          split at hend
          · cases hend
            exact hnone
          · obtain ⟨_, _, rfl⟩ := Option.map_eq_some_iff.mp hend
            exact hnone
        exact ⟨fun _ => Or.inl hquiet, fun _ => kept_of_none hkept⟩
      · have hlast : (selects .takeReadings (delivered r.remaining.toNat r.readings)).getLast? =
            some t := by
          rw [← hcur, hsel]
          simp
        rw [hlast]
        split at hend
        · next hsilent =>
            cases hend
            rw [hland.kept_transit, if_pos hsilent]
            simp [hpress, eq_comm]
        · next hsilent =>
            obtain ⟨u, hu, rfl⟩ := Option.map_eq_some_iff.mp hend
            rw [if_neg hsilent, ← hresume, hu]
            have hkept : Kept { (m.aliveLoop (delivered r.remaining.toNat r.readings)).transit u with
                resume := none } ↔ u = t := kept_iff_of_some hland.selected
            rw [hkept]
            simp [hpress, eq_comm]
  · next hsensors =>
      obtain ⟨_, _, rfl⟩ := Option.map_eq_some_iff.mp h
      exact ⟨fun _ => Or.inl (Bool.eq_false_iff.mpr hsensors), fun _ => kept_of_none hnone⟩

theorem checkFirmware_kept_iff {as : List Alive} {end_ : Download} (hnone : m.selected = none)
    (hcur : m.current = .checkFirmware) (h : checkFirmware as end_ m = some m') :
    Kept m' ↔ Survives m (.checkFirmware as end_) := by
  have hplain : Plain m.current := hcur ▸ ⟨nofun, nofun⟩
  have hsteady : Steady m.current := hcur ▸ ⟨nofun, nofun⟩
  unfold Survives
  unfold checkFirmware at h
  dsimp only at h
  rcases aliveLoop_landed hplain hsteady as with
    ⟨hquiet, hend⟩ | ⟨hpress, l, t, hsel, hland, hprevious, _⟩
  · have hkept : m'.selected = none := by
      rw [hend] at h
      cases end_ with
      | failed =>
          obtain ⟨_, _, rfl⟩ := Option.map_eq_some_iff.mp h
          exact hnone
      | _ =>
          cases h
          exact hnone
    exact ⟨fun _ => Or.inl hquiet, fun _ => kept_of_none hkept⟩
  · cases end_ with
    | failed =>
        rw [back_kept_iff (by simp [hcur, Pressed]) hsel hland hprevious h, hcur]
        simp [hpress]
    | unverified =>
        cases h
        simp [hland.kept]
    | storedPending =>
        cases h
        simp [hpress, hland.not_kept .firmwareSelfFlash (by simp [Pressed])]
    | storedIncoming =>
        cases h
        simp [hpress, hland.not_kept .upgradeModuleFirmware (by simp [Pressed])]

/-- **`WifiState::serve`**, which both listening states end with. -/
theorem serve_kept_iff (hnone : m.selected = none) (hplain : Plain m.current) (s : Serve) :
    Kept (serve s m) ↔ s.listen = true ∨ Quiet [s.alive] ∨ s.readyForReading = false := by
  unfold serve
  by_cases hlisten : s.listen = true
  · rw [if_pos hlisten]
    exact ⟨fun _ => Or.inl hlisten, fun _ => kept_of_none hnone⟩
  · rw [if_neg hlisten]
    dsimp only
    rcases alive_cases hnone hplain s.alive with ⟨hquiet, hnone'⟩ | ⟨hpress, t, hland, _⟩
    · have hsched : ((m.alive s.alive).scheduledTasks s.scheduled).selected = none :=
        (Fsm.scheduledTasks_selected _ _).trans hnone'
      refine ⟨fun _ => Or.inr (Or.inl hquiet), fun _ => ?_⟩
      split <;> exact kept_of_none hsched
    · rw [hland.scheduledTasks]
      by_cases hready : s.readyForReading = true
      · rw [if_pos hready]
        simp [hlisten, hpress, hready,
          hland.not_kept .liveDataReading (by simp [Pressed])]
      · rw [if_neg hready]
        simp [hland.kept, hready]

/-- A listening state transits away when its time is over, and serves otherwise. -/
theorem listening_kept_iff {late : Prop} [Decidable late] {state : State} {s : Serve}
    (hnone : m.selected = none) (hplain : Plain m.current)
    (h : (if late then some (m.transit state) else some (serve s m)) = some m') :
    Kept m' ↔ late ∨ s.listen = true ∨ Quiet [s.alive] ∨ s.readyForReading = false := by
  split at h
  · next hlate =>
      cases h
      exact ⟨fun _ => Or.inl hlate, fun _ => kept_of_none hnone⟩
  · next hlate =>
      cases h
      rw [serve_kept_iff hnone hplain]
      exact ⟨Or.inr, fun hor => hor.resolve_left hlate⟩

theorem wifiListening_kept_iff {l : Listening} (hnone : m.selected = none)
    (hcur : m.current = .wifiListening) (h : wifiListening l m = some m') :
    Kept m' ↔ Survives m (.wifiListening l) :=
  listening_kept_iff hnone (hcur ▸ ⟨nofun, nofun⟩) h

theorem wifiCaptiveListening_kept_iff {l : Listening} (hnone : m.selected = none)
    (hcur : m.current = .wifiCaptiveListening) (h : wifiCaptiveListening l m = some m') :
    Kept m' ↔ Survives m (.wifiCaptiveListening l) :=
  listening_kept_iff hnone (hcur ▸ ⟨nofun, nofun⟩) h

theorem run_kept_iff (a : Activation) (hnone : m.selected = none) (hcur : m.current = a.state)
    (h : a.run m = some m') : Kept m' ↔ Survives m a := by
  cases a with
  | idle i => exact Idle.task_kept_iff hnone hcur h
  | noModules n => exact NoModules.task_kept_iff hnone hcur h
  | sleep as => exact iff_of_true (sleep_kept hnone hcur h) trivial
  | lowPowerSleep charged as => exact lowPowerSleep_kept_iff hnone hcur h
  | checkPower c => exact CheckPower.task_kept_iff hnone hcur h
  | factoryResetCheck as => exact iff_of_true (factoryResetCheck_kept hnone hcur h) trivial
  | firmwareSelfFlash as => exact iff_of_true (firmwareSelfFlash_kept hnone hcur h) trivial
  | liveDataReading as => exact liveDataReading_kept_iff hnone hcur h
  | scanAttachedDevices s => exact Scan.task_kept_iff hnone hcur h
  | takeReadings t => exact TakeReadings.task_kept_iff hnone hcur h
  | checkFirmware as end_ => exact checkFirmware_kept_iff hnone hcur h
  | wifiListening l => exact wifiListening_kept_iff hnone hcur h
  | wifiCaptiveListening l => exact wifiCaptiveListening_kept_iff hnone hcur h

end Tasks

/-- **A press is not swallowed exactly where `Survives` says so**: for every state whose task calls
    `alive()`, from any pointers, for any presses at any calls, and whatever the task reads. -/
theorem kept_iff (a : Activation) {m m' : Fsm} (hcur : m.current = a.state)
    (h : a.task m = some m') : Kept m' ↔ Survives m a := by
  have hsame : Survives { m with selected := none } a ↔ Survives m a := by
    cases a <;> exact Iff.rfl
  rw [← hsame]
  exact run_kept_iff a rfl hcur h

/-- One reading, and the button is pressed long while it is taken. -/
def pressedReading : Activation :=
  .takeReadings {
    hasSensorModules := true
    remaining := 1
    readings := [{ alives := [{}, { button := some .longButtonPress }, {}] }] }

/-- The device as it takes readings that were scheduled while it was idle. -/
def taking : Fsm :=
  { previous := some (.other 0), current := .takeReadings, resume := some .idle }

/-- `TurnOff` is selected, and the device is idle again. -/
theorem press_swallowed : ¬ ∀ (a : Activation) (m m' : Fsm), m.current = a.state →
    a.task m = some m' → Kept m' := by
  intro hall
  have hkept := hall pressedReading taking
    { previous := some .turnOff, current := .idle, selected := some .turnOff } rfl rfl
  exact absurd (hkept .turnOff rfl) (by decide)

/-- The same press while the device sleeps. -/
theorem kept_iff_sleeping : ∃ m', (Activation.sleep [{ button := some .longButtonPress }]).task
    { previous := some .idle, current := .sleep } = some m' ∧ m'.current = .turnOff ∧
      (Kept m' ↔ Survives { previous := some .idle, current := .sleep }
        (.sleep [{ button := some .longButtonPress }])) :=
  ⟨_, rfl, rfl, kept_iff (.sleep [{ button := some .longButtonPress }]) rfl rfl⟩

end FieldKit.CoreDevice

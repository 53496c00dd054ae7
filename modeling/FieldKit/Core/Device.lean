/-
  File:      FieldKit/Core/Device.lean
  Subject:   The whole device as one machine: every state that it can be in, and the members that
             decide where its tasks go (booting.cpp, startup.cpp, initialized.cpp, wifi_*.cpp,
             transmit_files.cpp, check_firmware.cpp, and the states of Fsm.lean).

  One step is one `CoreDevice::current().task()` of `CoreModule::run`, with what it reads from its
  surroundings; a reset can come between two steps. The machine is refused a step only where
  the code follows a null pointer, fails an assertion or does not return.

  * `scheduledTasks_cases` -- of the tasks that are due at once only the first is begun;
  * `task_went` -- what a task that calls `alive()` can leave behind, whatever comes to it while it
    runs;
  * `went_admits` -- the rule for what may be entered: where the device is, and where it goes back to
    or resumes.
-/
import FieldKit.Lib.Run
import FieldKit.Core.Fsm
import FieldKit.Core.State

namespace FieldKit

/-- `NetworkInfo::valid()`. -/
def NetworkInfo.valid (info : NetworkInfo) : Bool := info.ssid[0] != 0 && info.password[0] != 0

/-- `NetworkSettings::configured()`. -/
def NetworkSettings.configured (settings : NetworkSettings) : Bool :=
  settings.networks.any NetworkInfo.valid

namespace CoreDevice

open Lib

/-! ## 1. The other states -/

namespace State

@[match_pattern] abbrev booting : State := .other 0
@[match_pattern] abbrev configureDevice : State := .other 1
@[match_pattern] abbrev initialized : State := .other 2
@[match_pattern] abbrev beginGatherReadings : State := .other 3
@[match_pattern] abbrev takeGpsReading : State := .other 4
@[match_pattern] abbrev transmitLoraData : State := .other 5
@[match_pattern] abbrev wifiTryNetwork : State := .other 6
@[match_pattern] abbrev wifiCreateAp : State := .other 7
@[match_pattern] abbrev checkAllAttachedFirmware : State := .other 8
@[match_pattern] abbrev wifiTransmitFiles : State := .other 9
@[match_pattern] abbrev wifiTransmitFile : State := .other 10
@[match_pattern] abbrev wifiConnectionCompleted : State := .other 11
@[match_pattern] abbrev wifiDownloadFile : State := .other 12
@[match_pattern] abbrev wifiQueryModule : State := .other 13

end State

/-- What the three tasks of the scheduler defer to (core_module.h). -/
def Cron (s : State) : Prop := s = .beginGatherReadings ∨ s = .wifiStartup ∨ s = .transmitLoraData

instance (s : State) : Decidable (Cron s) := inferInstanceAs (Decidable (_ ∨ _ ∨ _))

/-- The states that react to the scheduler. -/
def Listener (s : State) : Prop := s = .idle ∨ s = .noModules ∨ s = .wifiListening

instance (s : State) : Decidable (Listener s) := inferInstanceAs (Decidable (_ ∨ _ ∨ _))

/-- The scheduler events that come while a task runs. -/
def Activation.scheduled : Activation → List (Option State)
  | .idle i => i.scheduled
  | .noModules n => n.scheduled
  | .wifiListening l => l.serve.scheduled
  | .wifiCaptiveListening l => l.serve.scheduled
  | _ => []

/-- They are those of the three tasks. -/
def Scheduled (events : List (Option State)) : Prop := ∀ e ∈ events, ∀ s, e = some s → Cron s

instance (events : List (Option State)) : Decidable (Scheduled events) :=
  inferInstanceAs (Decidable (∀ e ∈ events, ∀ s, e = some s → Cron s))

/-! ## 2. The device -/

/-- What a session of the WiFi does: it tries a network, it asks for the firmware of a module or for
    its own, and it sends a file. -/
inductive Work where
  | tryNetwork (index : BitVec 8)
  | checkModule (index : BitVec 8)
  | checkOwn
  | transmit (index : BitVec 8)
  deriving DecidableEq, Repr

/-- The machine with the members of its states that decide where it goes. `wifi` says that the WiFi
    is not `disabled()`, `modules` that the modules have power. `given` is what CheckFirmware was told
    to ask for (`none` is its null `module_`), `transmission` what WifiTransmitFile was told to send.
    The last two are not in the source: where the last reading cycle was begun, and what the tasks of
    the last session of the WiFi have done. -/
structure Device where
  fsm : Fsm := { current := .booting }
  visited : Bool := false
  first : Bool := true
  config : Bool := false
  listening : Bool := false
  wifi : Bool := false
  modules : Bool := false
  network : BitVec 8 := 0
  module : BitVec 8 := 0
  file : BitVec 8 := 0
  given : Option Work := none
  transmission : BitVec 8 := 0
  interrupted : Option State := none
  work : List Work := []
  deriving DecidableEq, Repr

/-- How a task of `AppServicer` ends: no query is there yet, it is answered (or nobody asks any more),
    or it is left to another state. -/
inductive Served where
  | waiting
  | answered
  | downloadFile
  | queryModule
  deriving DecidableEq, Repr

/-- One task of the machine, with what it reads. -/
inductive Input where
  | alive (a : Activation)
  | booting
  | factoryReset
  | startSystem
  | initialized
  | firmwareHealthCheck
  | beginGatherReadings
  | takeGpsReading
  | transmitLoraData
  | upgradeModuleFirmware
  | userWakeup
  | turnOff (e : ButtonEvent)
  | rebootDevice (console : Bool)
  | wifiStartup (begun hasInternetAccess : Bool)
  | wifiTryNetwork (settings : NetworkSettings) (connected : Bool)
  | wifiCreateAp (created : Bool)
  | checkAllAttachedFirmware (numberOfModules : Nat)
  | wifiTransmitFiles
  | wifiTransmitFile
  | wifiDisable (hasSensorModules : Bool) (noModulesSleep : Uptime)
  | appServicer (served : Served)
  | wifiDownloadFile
  | wifiQueryModule
  | wifiConnectionCompleted
  deriving DecidableEq

/-- The state whose task it is. -/
def Input.state : Input → State
  | .alive a => a.state
  | .booting => .booting
  | .factoryReset => .factoryReset
  | .startSystem => .startSystem
  | .initialized => .initialized
  | .firmwareHealthCheck => .firmwareHealthCheck
  | .beginGatherReadings => .beginGatherReadings
  | .takeGpsReading => .takeGpsReading
  | .transmitLoraData => .transmitLoraData
  | .upgradeModuleFirmware => .upgradeModuleFirmware
  | .userWakeup => .userWakeup
  | .turnOff _ => .turnOff
  | .rebootDevice _ => .rebootDevice
  | .wifiStartup _ _ => .wifiStartup
  | .wifiTryNetwork _ _ => .wifiTryNetwork
  | .wifiCreateAp _ => .wifiCreateAp
  | .checkAllAttachedFirmware _ => .checkAllAttachedFirmware
  | .wifiTransmitFiles => .wifiTransmitFiles
  | .wifiTransmitFile => .wifiTransmitFile
  | .wifiDisable _ _ => .wifiDisable
  | .appServicer _ => .appServicer
  | .wifiDownloadFile => .wifiDownloadFile
  | .wifiQueryModule => .wifiQueryModule
  | .wifiConnectionCompleted => .wifiConnectionCompleted

/-- The scheduler events that come while it runs. -/
def Input.scheduled : Input → List (Option State)
  | .alive a => a.scheduled
  | _ => []

/-- What a task that calls `alive()` reads, with the members that the device keeps. -/
def Activation.over (d : Device) : Activation → Activation
  | .checkPower c => .checkPower { c with visited := d.visited }
  | .scanAttachedDevices s => .scanAttachedDevices { s with first := d.first }
  | a => a

/-- The battery sends `CheckPower::task` to sleep. -/
def CheckPower.sleeps (c : CheckPower) : Bool :=
  decide (c.low ∧ c.lowPower ∧ c.attached ∧ c.console = false)

/-- `LowPowerSleep::entry` is run, which takes the power from the modules. -/
def Activation.disablesModules : Activation → Bool
  | .idle i => i.alive.lowPower && !i.alive.console
  | .noModules n => n.alive.lowPower && !n.alive.console
  | .lowPowerSleep charged _ => !charged
  | .checkPower c => c.sleeps
  | _ => false

namespace Device

/-- `transit(state_ptr)`. -/
def transit (state : State) (d : Device) : Device := { d with fsm := d.fsm.transit state }

/-- The members that a task which calls `alive()` changes. -/
def members (a : Activation) (d : Device) : Device :=
  let d := if a.disablesModules then { d with modules := false } else d
  match a with
  | .checkPower c => if c.sleeps then d else { d with visited := true }
  | .scanAttachedDevices _ => if d.first then { d with first := false, config := true } else d
  | .checkFirmware _ _ => { d with work := d.work ++ d.given.toList }
  | _ => d

/-- The pointers that it leaves. -/
def moved (fsm : Fsm) (d : Device) : Device :=
  { d with
    fsm
    interrupted :=
      if fsm.current = .beginGatherReadings then some d.fsm.current else d.interrupted }

/-- A task that calls `alive()`. `FirmwareSelfFlash::task` ends in a reset. -/
def alive (a : Activation) (d : Device) : Option Device :=
  match a with
  | .firmwareSelfFlash _ => some {}
  | a => ((a.over d).task d.fsm).map fun fsm => (d.members a).moved fsm

/-- `WifiStartup::task`; a session begins. -/
def wifiStartup (begun hasInternetAccess : Bool) (d : Device) : Device :=
  let d := { d with listening := d.config, config := false, work := [] }
  if d.wifi then
    if hasInternetAccess then { d.transit .wifiTransmitFiles with file := 0 }
    else d.transit .wifiListening
  else if begun then { d.transit .wifiTryNetwork with network := 0, wifi := true }
  else d.transit .wifiDisable

/-- `WifiTryNetwork::task`. -/
def wifiTryNetwork (settings : NetworkSettings) (connected : Bool) (d : Device) : Device :=
  if h : d.network.toNat < 2 then
    if d.listening = false ∧ settings.configured = false then d.transit .wifiDisable
    else if (settings.networks[d.network.toNat]).ssid[0] = 0 then
      { d.transit .wifiTryNetwork with network := d.network + 1 }
    else
      let d := { d with work := d.work ++ [Work.tryNetwork d.network] }
      if connected then { d.transit .checkAllAttachedFirmware with module := 0 }
      else { d.transit .wifiTryNetwork with network := d.network + 1 }
  else d.transit .wifiCreateAp

/-- `CheckAllAttachedFirmware::task`. -/
def checkAllAttachedFirmware (numberOfModules : Nat) (d : Device) : Device :=
  if d.module.toNat < numberOfModules then
    { d.transit .checkFirmware with
      module := d.module + 1, given := some (.checkModule d.module) }
  else if d.module.toNat = numberOfModules then
    { d.transit .checkFirmware with module := d.module + 1, given := some .checkOwn }
  else d.transit .wifiTransmitFiles

/-- `WifiTransmitFiles::task`. -/
def wifiTransmitFiles (d : Device) : Device :=
  if d.file = 2 then
    { d.transit (if d.listening then .wifiListening else .wifiDisable) with file := 0 }
  else
    { d.transit .wifiTransmitFile with transmission := d.file, file := d.file + 1 }

/-- `WifiDisable::task`. -/
def wifiDisable (hasSensorModules : Bool) (noModulesSleep : Uptime) (d : Device) : Device :=
  let d := { d with wifi := false }
  if hasSensorModules = false ∧ 0 < noModulesSleep then d.transit .noModules
  else d.transit .idle

/-- `ApiConnection::task`, after what `service()` has done. -/
def appServicer (served : Served) (d : Device) : Device :=
  match served with
  | .waiting => d
  | .answered => d.transit .wifiConnectionCompleted
  | .downloadFile => d.transit .wifiDownloadFile
  | .queryModule => d.transit .wifiQueryModule

/-- `back()`. -/
def back (d : Device) : Option Device := d.fsm.back.map fun fsm => { d with fsm }

/-- One task. `StartSystem` transits to `ConfigureDevice`, whose `entry` transits on;
    `RebootDevice` resets the device unless a console is attached. -/
def task : Input → Device → Option Device
  | .alive a, d => d.alive a
  | .booting, d => some { d.transit .factoryResetCheck with modules := false }
  | .factoryReset, d => some (d.transit .startSystem)
  | .startSystem, d =>
    some { (d.transit .configureDevice).transit .initialized with modules := true }
  | .initialized, d => some { d.transit .checkPower with visited := false }
  | .firmwareHealthCheck, d => some { d.transit .scanAttachedDevices with first := true }
  | .beginGatherReadings, d =>
    some ({ d with fsm := { d.fsm with resume := d.fsm.previous } }.transit .takeGpsReading)
  | .takeGpsReading, d => some (d.transit .takeReadings)
  | .transmitLoraData, d => d.back
  | .upgradeModuleFirmware, d => some (d.transit .idle)
  | .userWakeup, d => some { d.transit .wifiStartup with config := true }
  | .turnOff e, d =>
    some { d with fsm := d.fsm.button e, wifi := false, modules := false }
  | .rebootDevice console, d => some (if console then d.transit .initialized else {})
  | .wifiStartup begun hasInternetAccess, d => some (d.wifiStartup begun hasInternetAccess)
  | .wifiTryNetwork settings connected, d => some (d.wifiTryNetwork settings connected)
  | .wifiCreateAp created, d => some (d.transit (if created then .wifiListening else .wifiDisable))
  | .checkAllAttachedFirmware n, d => some (d.checkAllAttachedFirmware n)
  | .wifiTransmitFiles, d => some d.wifiTransmitFiles
  | .wifiTransmitFile, d => { d with work := d.work ++ [Work.transmit d.transmission] }.back
  | .wifiDisable hasSensorModules noModulesSleep, d =>
    some (d.wifiDisable hasSensorModules noModulesSleep)
  | .appServicer served, d => some (d.appServicer served)
  | .wifiDownloadFile, d => some (d.transit .wifiConnectionCompleted)
  | .wifiQueryModule, d => some (d.transit .wifiConnectionCompleted)
  | .wifiConnectionCompleted, d => some (d.transit .wifiCaptiveListening)

end Device

/-- What happens to the device. -/
inductive Event where
  | task (i : Input)
  | reset
  deriving DecidableEq

/-- It is the task of the current state, and the scheduler's events are those of its tasks. -/
def Device.Turn (d : Device) (i : Input) : Prop :=
  i.state = d.fsm.current ∧ Scheduled i.scheduled

instance (d : Device) (i : Input) : Decidable (d.Turn i) :=
  inferInstanceAs (Decidable (_ ∧ _))

/-- **The machine**: `CoreModule::run`, and resets. -/
def Device.step (d : Device) : Event → Option Device
  | .task i => if d.Turn i then d.task i else none
  | .reset => some {}

/-! ## 3. What a task leaves behind -/

/-- **What `alive()` leaves behind**, however often it is called: the machine where it was, in low power,
    or where a press led. -/
inductive Nudged (m : Fsm) : Fsm → Prop where
  | same (m' : Fsm) (hp : m'.previous = m.previous) (hc : m'.current = m.current)
      (hr : m'.resume = m.resume) : Nudged m m'
  | lowPower (m' : Fsm) (h : m.current = .idle ∨ m.current = .noModules)
      (hp : m'.previous = some m.current) (hc : m'.current = .lowPowerSleep)
      (hr : m'.resume = m.resume) : Nudged m m'
  | press (m' : Fsm) (q : State)
      (hq : q = m.current ∨ Pressed q ∨
        (q = .lowPowerSleep ∧ (m.current = .idle ∨ m.current = .noModules)))
      (hp : m'.previous = some q) (hc : Pressed m'.current) (hr : m'.resume = m.resume) : Nudged m m'

namespace Nudged

variable {m m₁ : Fsm}

theorem refl (m : Fsm) : Nudged m m := .same m rfl rfl rfl

theorem resume_eq (h : Nudged m m₁) : m₁.resume = m.resume := by
  cases h <;> assumption

theorem lowPower_event (h : Nudged m m₁) (console : Bool) : Nudged m (m₁.lowPower console) := by
  unfold Fsm.lowPower
  split
  · next t ht =>
      have hidle : (m₁.current = .idle ∨ m₁.current = .noModules) ∧ t = .lowPowerSleep := by
        unfold reactLowPower at ht
        split at ht
        · next hc =>
            split at ht <;> cases ht
            exact ⟨Or.inl hc, rfl⟩
        · next hc =>
            split at ht <;> cases ht
            exact ⟨Or.inr hc, rfl⟩
        · cases ht
      obtain ⟨hidle, rfl⟩ := hidle
      cases h with
      | same hp hc hr =>
          rw [hc] at hidle
          exact .lowPower _ hidle (congrArg some hc) rfl hr
      | lowPower _ _ hc _ =>
          rw [hc] at hidle
          rcases hidle with hidle | hidle <;> cases hidle
      | press q _ _ hc _ =>
          rcases hidle with hidle | hidle
          · exact absurd hidle hc.steady.idle
          · exact absurd hidle hc.steady.noModules
  · exact h

theorem button_event (h : Nudged m m₁) (e : ButtonEvent) : Nudged m (m₁.button e) := by
  unfold Fsm.button
  split
  · next t ht =>
      have hpressed := reactButton_pressed ht
      cases h with
      | same hp hc hr => exact .press _ m₁.current (Or.inl hc) rfl hpressed hr
      | lowPower hidle _ hc hr =>
          exact .press _ m₁.current (Or.inr (Or.inr ⟨hc, hidle⟩)) rfl hpressed hr
      | press _ _ _ hc hr => exact .press _ m₁.current (Or.inr (Or.inl hc)) rfl hpressed hr
  · exact h

theorem alive (h : Nudged m m₁) (a : Alive) : Nudged m (m₁.alive a) := by
  unfold Fsm.alive
  have hlow : Nudged m (if a.lowPower then m₁.lowPower a.console else m₁) := by
    split
    · exact h.lowPower_event a.console
    · exact h
  dsimp only
  split
  · exact hlow.button_event _
  · exact hlow

theorem aliveLoop (h : Nudged m m₁) (as : List Alive) : Nudged m (m₁.aliveLoop as) := by
  unfold Fsm.aliveLoop
  induction as generalizing m₁ with
  | nil => exact h
  | cons a as ih => exact ih (h.alive a)

theorem aliveUntil (h : Nudged m m₁) (self : State) (as : List Alive) :
    Nudged m (m₁.aliveUntil self as) := by
  induction as generalizing m₁ with
  | nil => exact h
  | cons a as ih =>
      unfold Fsm.aliveUntil
      split
      · exact h.alive a
      · exact ih (h.alive a)

/-- It listens to the scheduler only where it was before. -/
theorem same_of_listener (h : Nudged m m₁) (hl : Listener m₁.current) :
    m₁.previous = m.previous ∧ m₁.current = m.current := by
  cases h with
  | same hp hc _ => exact ⟨hp, hc⟩
  | lowPower _ _ hc _ =>
      rw [hc] at hl
      rcases hl with hl | hl | hl <;> cases hl
  | press _ _ _ hc _ =>
      rcases hc with hc | hc | hc | hc <;> rw [hc] at hl <;> rcases hl with hl | hl | hl <;> cases hl

end Nudged

theorem Cron.not_listener {s : State} (h : Cron s) : ¬ Listener s := by
  rcases h with rfl | rfl | rfl <;> decide

theorem scheduler_of_not_listener {m : Fsm} (h : ¬ Listener m.current) (e : Option State) :
    m.scheduler e = m := by
  unfold Fsm.scheduler reactScheduler
  split
  · next t ht =>
      split at ht
      · next hc => exact absurd (Or.inl hc) h
      · next hc => exact absurd (Or.inr (Or.inl hc)) h
      · next hc => exact absurd (Or.inr (Or.inr hc)) h
      · cases ht
  · rfl

theorem scheduledTasks_of_not_listener {m : Fsm} (h : ¬ Listener m.current)
    (events : List (Option State)) : m.scheduledTasks events = m := by
  unfold Fsm.scheduledTasks
  induction events with
  | nil => rfl
  | cons e events ih => rw [List.foldl_cons, scheduler_of_not_listener h, ih]

/-- **The scheduler's events lead to the first task that is due**, and the others are lost. -/
theorem scheduledTasks_cases {m : Fsm} {events : List (Option State)} (hs : Scheduled events) :
    m.scheduledTasks events = m ∨
      (Listener m.current ∧ ∃ s, Cron s ∧ some s ∈ events ∧ m.scheduledTasks events = m.transit s) := by
  by_cases hl : Listener m.current
  · induction events with
    | nil => exact Or.inl rfl
    | cons e events ih =>
        have hreact : ∀ d, reactScheduler d m.current = d := by
          intro d
          unfold reactScheduler
          rcases hl with hl | hl | hl <;> rw [hl]
        cases e with
        | none =>
            have hstep : m.scheduledTasks (none :: events) = m.scheduledTasks events := by
              show (m.scheduler none).scheduledTasks events = _
              unfold Fsm.scheduler
              rw [hreact]
            rw [hstep]
            rcases ih fun e he => hs e (List.mem_cons_of_mem _ he) with h | ⟨_, s, hc, hm, h⟩
            · exact Or.inl h
            · exact Or.inr ⟨hl, s, hc, List.mem_cons_of_mem _ hm, h⟩
        | some s =>
            have hc : Cron s := hs (some s) List.mem_cons_self s rfl
            refine Or.inr ⟨hl, s, hc, List.mem_cons_self, ?_⟩
            have hstep : m.scheduler (some s) = m.transit s := by
              unfold Fsm.scheduler
              rw [hreact]
            show (m.scheduler (some s)).scheduledTasks events = _
            rw [hstep]
            exact scheduledTasks_of_not_listener hc.not_listener events
  · exact Or.inl (scheduledTasks_of_not_listener hl events)

/-- What the scheduler leaves behind in the state `self`: the machine as it was, or one of the tasks. -/
def Rung (self : State) (m m' : Fsm) : Prop :=
  m' = m ∨ (m.current = self ∧ ∃ s, Cron s ∧ m' = m.transit s)

/-- **What a task that calls `alive()` leaves behind**, whatever comes while it runs. -/
def Went (m m' : Fsm) : Activation → Prop
  | .idle _ => ∃ m₁, Nudged m m₁ ∧
      (Rung .idle m₁ m' ∨ m' = m₁.transit .rebootDevice ∨
        (m₁.current = .idle ∧ m' = m₁.transit .sleep))
  | .noModules _ => ∃ m₁ m₂, Nudged m m₁ ∧ Rung .noModules m₁ m₂ ∧
      (m' = m₂ ∨ m' = m₂.transit .scanAttachedDevices ∨ m' = m₂.transit .rebootDevice)
  | .sleep _ => ∃ m₁, Nudged m m₁ ∧
      ((m₁.current ≠ .sleep ∧ m' = m₁) ∨ (m₁.current = .sleep ∧ m₁.back = some m'))
  | .lowPowerSleep _ _ => m' = m.transit .rebootDevice ∨
      ∃ m₁ m₂, Nudged m m₁ ∧ ((m₁.current ≠ .lowPowerSleep ∧ m₂ = m₁) ∨
        (m₁.current = .lowPowerSleep ∧ m₁.back = some m₂)) ∧ m' = m₂.transit .lowPowerSleep
  | .checkPower c => ∃ m₁, Nudged m m₁ ∧
      ((c.sleeps = true ∧ m' = m₁.transit .lowPowerSleep) ∨
        (c.visited = true ∧ m₁.back = some m') ∨ m' = m₁.transit .firmwareHealthCheck)
  | .factoryResetCheck _ => ∃ m₁, Nudged m m₁ ∧
      ((m₁.current ≠ .factoryResetCheck ∧ m' = m₁) ∨ m' = m₁.transit .startSystem)
  | .firmwareSelfFlash _ => Nudged m m'
  | .liveDataReading _ => ∃ m₁, Nudged m m₁ ∧ m₁.back = some m'
  | .scanAttachedDevices s => ∃ m₁, Nudged m m₁ ∧
      ((s.first = true ∧ m' = m₁.transit .wifiStartup) ∨
        (s.first = false ∧ (m' = m₁.transit .noModules ∨ m' = m₁.transit .idle)))
  | .takeReadings t => ∃ m₁, Nudged m m₁ ∧
      ((t.hasSensorModules = true ∧ silent t.remaining.toNat t.readings = true ∧
          m' = m₁.transit .rebootDevice) ∨ m₁.resumeState = some m')
  | .checkFirmware _ _ => ∃ m₁, Nudged m m₁ ∧
      (m₁.back = some m' ∨ m' = m₁ ∨ m' = m₁.transit .firmwareSelfFlash ∨
        m' = m₁.transit .upgradeModuleFirmware)
  | .wifiListening l => m' = m.transit .wifiDisable ∨ m' = m.transit .appServicer ∨
      ∃ m₁ m₂, Nudged m m₁ ∧
        (m₂ = m₁ ∨ (m₁.current = .wifiListening ∧
          ∃ s, Cron s ∧ some s ∈ l.serve.scheduled ∧ m₂ = m₁.transit s)) ∧
        (m' = m₂ ∨ (l.serve.readyForReading = true ∧ m' = m₂.transit .liveDataReading))
  | .wifiCaptiveListening _ => m' = m.transit .wifiListening ∨ m' = m.transit .appServicer ∨
      ∃ m₁, Nudged m m₁ ∧ (m' = m₁ ∨ m' = m₁.transit .liveDataReading)

section Tasks

variable {m m' : Fsm}

/-- The scheduler, after `alive()` has been called in a state that listens. -/
theorem rung_scheduledTasks {m₁ : Fsm} {self : State} {events : List (Option State)}
    (h : Nudged m m₁) (hcur : m.current = self) (hs : Scheduled events) :
    Rung self m₁ (m₁.scheduledTasks events) := by
  rcases scheduledTasks_cases (m := m₁) hs with heq | ⟨hl, s, hc, _, heq⟩
  · exact Or.inl heq
  · exact Or.inr ⟨(h.same_of_listener hl).2.trans hcur, s, hc, heq⟩

theorem Idle.task_went {i : Idle} (hcur : m.current = .idle) (hs : Scheduled i.scheduled)
    (h : i.task m = some m') : Went m m' (.idle i) := by
  have hn := (Nudged.refl m).alive i.alive
  refine ⟨_, hn, ?_⟩
  unfold Idle.task at h
  dsimp only at h
  split at h
  · have hrung := rung_scheduledTasks hn hcur hs
    split at h
    · cases h
      exact Or.inl hrung
    · next hstays =>
        have hidle : ((m.alive i.alive).scheduledTasks i.scheduled).current = .idle :=
          not_not.mp fun hne => hstays ((Fsm.transitioned_iff _ _).mpr hne)
        have hsame : (m.alive i.alive).scheduledTasks i.scheduled = m.alive i.alive := by
          rcases hrung with heq | ⟨_, s, hc, heq⟩
          · exact heq
          · rw [heq] at hidle
            exact absurd (Or.inl hidle : Listener s) hc.not_listener
        rw [hsame] at h hidle
        split at h
        · split at h
          · cases h
            exact Or.inr (Or.inr ⟨hidle, rfl⟩)
          · cases h
            unfold Idle.checkFiles
            split
            · exact Or.inr (Or.inl rfl)
            · exact Or.inl (Or.inl rfl)
        · cases h
          exact Or.inr (Or.inr ⟨hidle, rfl⟩)
  · cases h
    unfold Idle.checkFiles
    split
    · exact Or.inr (Or.inl rfl)
    · exact Or.inl (Or.inl rfl)

theorem NoModules.task_went {n : NoModules} (hcur : m.current = .noModules)
    (hs : Scheduled n.scheduled) (h : n.task m = some m') : Went m m' (.noModules n) := by
  have hn := (Nudged.refl m).alive n.alive
  refine ⟨_, _, hn, rung_scheduledTasks hn hcur hs, ?_⟩
  unfold NoModules.task at h
  dsimp only at h
  split at h
  · cases h
  · split at h
    · cases h
      exact Or.inr (Or.inl rfl)
    · split at h <;> cases h
      · exact Or.inr (Or.inr rfl)
      · exact Or.inl rfl

/-- `Sleep::sleep`, in either of its states. -/
theorem sleep_went {self : State} {as : List Alive} (h : sleep self as m = some m') :
    ∃ m₁, Nudged m m₁ ∧
      ((m₁.current ≠ self ∧ m' = m₁) ∨ (m₁.current = self ∧ m₁.back = some m')) := by
  refine ⟨_, (Nudged.refl m).aliveUntil self as, ?_⟩
  unfold sleep at h
  dsimp only at h
  split at h
  · next hleft =>
      cases h
      exact Or.inl ⟨(Fsm.transitioned_iff _ _).mp hleft, rfl⟩
  · next hstays =>
      exact Or.inr ⟨not_not.mp fun hne => hstays ((Fsm.transitioned_iff _ _).mpr hne), h⟩

theorem lowPowerSleep_went {charged : Bool} {as : List Alive}
    (h : lowPowerSleep charged as m = some m') : Went m m' (.lowPowerSleep charged as) := by
  unfold lowPowerSleep at h
  split at h
  · cases h
    exact Or.inl rfl
  · obtain ⟨m₂, hm₂, rfl⟩ := Option.map_eq_some_iff.mp h
    obtain ⟨m₁, hn, hcases⟩ := sleep_went hm₂
    exact Or.inr ⟨m₁, m₂, hn, hcases, rfl⟩

theorem CheckPower.task_went {c : CheckPower} (h : c.task m = some m') :
    Went m m' (.checkPower c) := by
  refine ⟨_, (Nudged.refl m).alive c.alive, ?_⟩
  unfold CheckPower.task at h
  dsimp only at h
  split at h
  · next hsleeps =>
      cases h
      exact Or.inl ⟨decide_eq_true hsleeps, rfl⟩
  · split at h
    · next hvisited => exact Or.inr (Or.inl ⟨hvisited, h⟩)
    · cases h
      exact Or.inr (Or.inr rfl)

theorem factoryResetCheck_went {as : List Alive} (h : factoryResetCheck as m = some m') :
    Went m m' (.factoryResetCheck as) := by
  refine ⟨_, (Nudged.refl m).aliveUntil .factoryResetCheck as, ?_⟩
  unfold factoryResetCheck at h
  dsimp only at h
  split at h <;> cases h
  · next hleft => exact Or.inl ⟨(Fsm.transitioned_iff _ _).mp hleft, rfl⟩
  · exact Or.inr rfl

theorem Scan.task_went {s : Scan} (h : s.task m = some m') :
    Went m m' (.scanAttachedDevices s) := by
  refine ⟨_, (Nudged.refl m).aliveLoop s.alives, ?_⟩
  unfold Scan.task at h
  dsimp only at h
  split at h
  · next hfirst =>
      cases h
      exact Or.inl ⟨hfirst, rfl⟩
  · next hfirst =>
      right
      refine ⟨Bool.eq_false_iff.mpr hfirst, ?_⟩
      split at h <;> cases h
      · exact Or.inl rfl
      · exact Or.inr rfl

/-- The loop of the readings. -/
theorem takeLoop_went {m₁ m₂ : Fsm} {n : Nat} {rs : List Reading} {b : Bool} (hn : Nudged m m₁)
    (h : takeLoop n rs m₁ = some (b, m₂)) : Nudged m m₂ ∧ b = silent n rs := by
  induction rs generalizing n m₁ with
  | nil =>
      cases n with
      | zero =>
          cases h
          exact ⟨hn, rfl⟩
      | succ n => cases h
  | cons r rs ih =>
      cases n with
      | zero =>
          cases h
          exact ⟨hn, rfl⟩
      | succ n =>
          unfold takeLoop at h
          unfold silent
          split at h
          · next herror =>
              cases h
              rw [if_pos herror]
              exact ⟨hn.aliveLoop r.alives, rfl⟩
          · next herror =>
              rw [if_neg herror]
              exact ih (hn.aliveLoop r.alives) h

theorem TakeReadings.task_went {t : TakeReadings} (h : t.task m = some m') :
    Went m m' (.takeReadings t) := by
  unfold TakeReadings.task at h
  split at h
  · next hmodules =>
      obtain ⟨⟨b, m₁⟩, hloop, h⟩ := Option.bind_eq_some_iff.mp h
      obtain ⟨hn, rfl⟩ := takeLoop_went (Nudged.refl m) hloop
      refine ⟨m₁, hn, ?_⟩
      dsimp only at h
      split at h
      · next hsilent =>
          cases h
          exact Or.inl ⟨hmodules, hsilent, rfl⟩
      · exact Or.inr h
  · exact ⟨m, .refl m, Or.inr h⟩

theorem checkFirmware_went {as : List Alive} {end_ : Download}
    (h : checkFirmware as end_ m = some m') : Went m m' (.checkFirmware as end_) := by
  refine ⟨_, (Nudged.refl m).aliveLoop as, ?_⟩
  cases end_ with
  | failed => exact Or.inl h
  | unverified =>
      cases h
      exact Or.inr (Or.inl rfl)
  | storedPending =>
      cases h
      exact Or.inr (Or.inr (Or.inl rfl))
  | storedIncoming =>
      cases h
      exact Or.inr (Or.inr (Or.inr rfl))

theorem wifiListening_went {l : Listening} (hcur : m.current = .wifiListening)
    (hs : Scheduled l.serve.scheduled) (h : wifiListening l m = some m') :
    Went m m' (.wifiListening l) := by
  unfold wifiListening serve at h
  dsimp only at h
  split at h
  · cases h
    exact Or.inl rfl
  · split at h
    · cases h
      exact Or.inr (Or.inl rfl)
    · right
      right
      have hn := (Nudged.refl m).alive l.serve.alive
      refine ⟨_, (m.alive l.serve.alive).scheduledTasks l.serve.scheduled, hn, ?_, ?_⟩
      · rcases scheduledTasks_cases (m := m.alive l.serve.alive) hs with heq | ⟨hl, s, hc, hm, heq⟩
        · exact Or.inl heq
        · exact Or.inr ⟨(hn.same_of_listener hl).2.trans hcur, s, hc, hm, heq⟩
      · split at h <;> cases h
        · next hready => exact Or.inr ⟨hready, rfl⟩
        · exact Or.inl rfl

theorem wifiCaptiveListening_went {l : Listening} (hcur : m.current = .wifiCaptiveListening)
    (h : wifiCaptiveListening l m = some m') : Went m m' (.wifiCaptiveListening l) := by
  unfold wifiCaptiveListening serve at h
  dsimp only at h
  split at h
  · cases h
    exact Or.inl rfl
  · split at h
    · cases h
      exact Or.inr (Or.inl rfl)
    · right
      right
      have hn := (Nudged.refl m).alive l.serve.alive
      have hdeaf : ¬ Listener (m.alive l.serve.alive).current := by
        intro hl
        have hsame := (hn.same_of_listener hl).2
        rw [hsame, hcur] at hl
        rcases hl with hl | hl | hl <;> cases hl
      rw [scheduledTasks_of_not_listener hdeaf] at h
      refine ⟨_, hn, ?_⟩
      split at h <;> cases h
      · exact Or.inr rfl
      · exact Or.inl rfl

/-- **What any of them leaves behind.** -/
theorem run_went (a : Activation) (hcur : m.current = a.state) (hs : Scheduled a.scheduled)
    (h : a.run m = some m') : Went m m' a := by
  cases a with
  | idle i => exact Idle.task_went hcur hs h
  | noModules n => exact NoModules.task_went hcur hs h
  | sleep as => exact sleep_went h
  | lowPowerSleep charged as => exact lowPowerSleep_went h
  | checkPower c => exact CheckPower.task_went h
  | factoryResetCheck as => exact factoryResetCheck_went h
  | firmwareSelfFlash as =>
      cases h
      exact (Nudged.refl m).aliveLoop as
  | liveDataReading as => exact ⟨_, (Nudged.refl m).aliveLoop as, h⟩
  | scanAttachedDevices s => exact Scan.task_went h
  | takeReadings t => exact TakeReadings.task_went h
  | checkFirmware as end_ => exact checkFirmware_went h
  | wifiListening l => exact wifiListening_went hcur hs h
  | wifiCaptiveListening l => exact wifiCaptiveListening_went hcur h

end Tasks

namespace Device

variable {d d' : Device}

theorem step_task {i : Input} (h : d.step (.task i) = some d') : d.Turn i ∧ d.task i = some d' := by
  unfold step at h
  dsimp only at h
  split at h
  · next hturn => exact ⟨hturn, h⟩
  · cases h

/-- The pointers before a task; no press has come yet. -/
def pointers (d : Device) : Fsm := { d.fsm with selected := none }

@[simp] theorem members_fsm (a : Activation) (d : Device) : (d.members a).fsm = d.fsm := by
  unfold members
  cases a <;> dsimp only <;> (repeat' split) <;> rfl

@[simp] theorem members_interrupted (a : Activation) (d : Device) :
    (d.members a).interrupted = d.interrupted := by
  unfold members
  cases a <;> dsimp only <;> (repeat' split) <;> rfl

theorem state_over (a : Activation) : (a.over d).state = a.state := by
  cases a <;> rfl

theorem scheduled_over (a : Activation) : (a.over d).scheduled = a.scheduled := by
  cases a <;> rfl

/-- **A task that calls `alive()`**: the device is reset, or the pointers have gone where the task
    leads and the members are those it leaves. -/
theorem task_went {a : Activation} (hturn : d.Turn (.alive a)) (h : d.task (.alive a) = some d') :
    d' = {} ∨ ∃ m, Went d.pointers m (a.over d) ∧ d' = (d.members a).moved m := by
  obtain ⟨hcur, hs⟩ := hturn
  by_cases hflash : ∃ as, a = .firmwareSelfFlash as
  · obtain ⟨as, rfl⟩ := hflash
    cases h
    exact Or.inl rfl
  · have halive : d.task (.alive a) =
        ((a.over d).task d.fsm).map fun m => (d.members a).moved m := by
      unfold task alive
      cases a with
      | firmwareSelfFlash as => exact absurd ⟨as, rfl⟩ hflash
      | _ => rfl
    rw [halive] at h
    obtain ⟨m, hm, rfl⟩ := Option.map_eq_some_iff.mp h
    refine Or.inr ⟨m, run_went _ ?_ ?_ hm, rfl⟩
    · rw [state_over]
      exact hcur.symm
    · rw [scheduled_over]
      exact hs

end Device

/-! ## 4. What may be entered -/

/-- The states that go back to the one before. -/
def Returning (s : State) : Prop :=
  s = .sleep ∨ s = .lowPowerSleep ∨ s = .checkPower ∨ s = .liveDataReading ∨ s = .checkFirmware ∨
    s = .transmitLoraData ∨ s = .wifiTransmitFile

instance (s : State) : Decidable (Returning s) :=
  inferInstanceAs (Decidable (_ ∨ _ ∨ _ ∨ _ ∨ _ ∨ _ ∨ _))

theorem Pressed.not_returning {s : State} (h : Pressed s) : ¬ Returning s := by
  rcases h with rfl | rfl | rfl | rfl <;> decide

/-- The states of a cycle that know what they resume. -/
def InReadings (s : State) : Prop := s = .takeGpsReading ∨ s = .takeReadings

instance (s : State) : Decidable (InReadings s) := inferInstanceAs (Decidable (_ ∨ _))

theorem Pressed.not_inReadings {s : State} (h : Pressed s) : ¬ InReadings s := by
  rcases h with rfl | rfl | rfl | rfl <;> decide

/-- **Where the device is may be entered**, and so may the state that it goes back to or resumes. -/
structure Admits (A : State → Prop) (m : Fsm) : Prop where
  here : A m.current
  back : Returning m.current ∨ m.current = .beginGatherReadings → ∀ p, m.previous = some p → A p
  resume : InReadings m.current ∨ (Returning m.current ∧ ∃ p, m.previous = some p ∧ InReadings p) →
    ∀ r, m.resume = some r → A r

/-- What the device can be led to at any time. -/
structure Open (A : State → Prop) : Prop where
  pressed : ∀ s, Pressed s → A s
  lowPower : A .lowPowerSleep
  cron : ∀ s, Cron s → A s

/-- Where a task that calls `alive()` goes on its own account. -/
def Activation.targets : Activation → List State
  | .idle _ => [.sleep]
  | .noModules _ => [.scanAttachedDevices]
  | .checkPower _ => [.firmwareHealthCheck]
  | .factoryResetCheck _ => [.startSystem]
  | .scanAttachedDevices s => if s.first then [.wifiStartup] else [.noModules, .idle]
  | .checkFirmware _ _ => [.firmwareSelfFlash, .upgradeModuleFirmware]
  | .wifiListening _ => [.wifiDisable, .appServicer, .liveDataReading]
  | .wifiCaptiveListening _ => [.wifiListening, .appServicer, .liveDataReading]
  | _ => []

section Admitted

variable {A : State → Prop} {m m₁ m' : Fsm}

/-- To any state outside the readings. -/
theorem Admits.transit (h : Admits A m) {t : State} (ht : A t) (ht' : ¬ InReadings t) :
    Admits A (m.transit t) where
  here := ht
  back _ p hp := by
    cases hp
    exact h.here
  resume hb := by
    rcases hb with hb | ⟨_, p, hp, hb⟩
    · exact absurd hb ht'
    · cases hp
      exact h.resume (Or.inl hb)

/-- To a state that neither goes back nor is one of a cycle, from anywhere. -/
theorem admits_plain (m : Fsm) {t : State} (ht : A t)
    (hback : ¬ (Returning t ∨ t = .beginGatherReadings)) (ht' : ¬ InReadings t) :
    Admits A (m.transit t) where
  here := ht
  back h := absurd h hback
  resume h := by
    rcases h with h | ⟨h, _⟩
    · exact absurd h ht'
    · exact absurd (Or.inl h) hback

/-- The device after a reset. -/
theorem admits_boot (ht : A .booting) : Admits A ({} : Device).fsm where
  here := ht
  back h := by
    rcases h with h | h
    · exact absurd h (by show ¬ Returning .booting; decide)
    · cases h
  resume h := by
    rcases h with h | ⟨_, _, h, _⟩
    · exact absurd h (by show ¬ InReadings .booting; decide)
    · cases h

theorem Pressed.not_back {s : State} (h : Pressed s) :
    ¬ (Returning s ∨ s = .beginGatherReadings) := by
  rcases h with rfl | rfl | rfl | rfl <;> decide

theorem Returning.not_inReadings {s : State} (h : Returning s) : ¬ InReadings s := by
  rcases h with rfl | rfl | rfl | rfl | rfl | rfl | rfl <;> decide

theorem Admits.nudged (h : Admits A m) (hA : Open A) (hn : Nudged m m₁) : Admits A m₁ := by
  cases hn with
  | same hp hc hr =>
      refine ⟨hc ▸ h.here, fun hb => ?_, fun hb => ?_⟩
      · rw [hp]
        exact h.back (hc ▸ hb)
      · rw [hr]
        rw [hc, hp] at hb
        exact h.resume hb
  | lowPower hidle hp hc hr =>
      have hcur : ¬ InReadings m.current := by
        rcases hidle with hidle | hidle <;> rw [hidle] <;> decide
      refine ⟨hc ▸ hA.lowPower, fun _ p hp' => ?_, fun hb => ?_⟩
      · rw [hp] at hp'
        cases hp'
        exact h.here
      · rcases hb with hb | ⟨_, p, hp', hb⟩
        · rw [hc] at hb
          exact absurd hb (by decide)
        · rw [hp] at hp'
          cases hp'
          exact absurd hb hcur
  | press q _ hp hc _ =>
      refine ⟨hA.pressed _ hc, fun hb => absurd hb hc.not_back, fun hb => ?_⟩
      rcases hb with hb | ⟨hb, _⟩
      · exact absurd hb hc.not_inReadings
      · exact absurd hb hc.not_returning

/-- **`back()`, after `alive()` was called in a state that goes back.** -/
theorem Admits.back_of (h : Admits A m) (hA : Open A) (hn : Nudged m m₁) (hb : Returning m.current)
    (hstep : m₁.back = some m') : Admits A m' := by
  have hadmits := h.nudged hA hn
  obtain ⟨p, hp, rfl⟩ := Option.map_eq_some_iff.mp hstep
  cases hn with
  | same hp' hc hr =>
      refine ⟨h.back (Or.inl hb) p (hp'.symm.trans hp), fun _ q hq => ?_, fun hin r hr' => ?_⟩
      · cases hq
        exact hadmits.here
      · rcases hin with hin | ⟨_, q, hq, hin⟩
        · exact h.resume (Or.inr ⟨hb, p, hp'.symm.trans hp, hin⟩) r (hr.symm.trans hr')
        · cases hq
          rw [hc] at hin
          exact absurd hin hb.not_inReadings
  | lowPower hidle _ _ _ =>
      rcases hidle with hidle | hidle <;> rw [hidle] at hb <;> exact absurd hb (by decide)
  | press q hq hp' _ _ =>
      rw [hp'] at hp
      cases hp
      rcases hq with rfl | hq | ⟨rfl, _⟩
      · exact hadmits.transit h.here hb.not_inReadings
      · exact hadmits.transit (hA.pressed _ hq) hq.not_inReadings
      · exact hadmits.transit hA.lowPower (by decide)

/-- **`resume()`**, after `alive()` was called in a cycle. -/
theorem Admits.resume_of (h : Admits A m) (hA : Open A) (hn : Nudged m m₁)
    (hcur : InReadings m.current) (hstep : m₁.resumeState = some m') : Admits A m' := by
  obtain ⟨r, hr, rfl⟩ := Option.map_eq_some_iff.mp hstep
  refine ⟨h.resume (Or.inl hcur) r (hn.resume_eq.symm.trans hr), fun _ q hq => ?_, fun _ r' hr' => ?_⟩
  · cases hq
    exact (h.nudged hA hn).here
  · cases hr'

theorem Admits.cron (h : Admits A m) (hA : Open A) {s : State} (hs : Cron s) :
    Admits A (m.transit s) := by
  refine h.transit (hA.cron s hs) ?_
  rcases hs with rfl | rfl | rfl <;> decide

theorem Admits.rung (h : Admits A m) (hA : Open A) {self : State} (hr : Rung self m m') :
    Admits A m' := by
  rcases hr with rfl | ⟨_, s, hs, rfl⟩
  · exact h
  · exact h.cron hA hs

/-- `BeginGatherReadings::task`. -/
theorem Admits.begun (h : Admits A m) (hcur : m.current = .beginGatherReadings)
    (ht : A .takeGpsReading) :
    Admits A ({ m with resume := m.previous }.transit .takeGpsReading) where
  here := ht
  back hb := by
    rcases hb with hb | hb
    · exact absurd hb (by show ¬ Returning .takeGpsReading; decide)
    · cases hb
  resume _ := h.back (Or.inr hcur)

/-- `TakeGpsReading::task`. -/
theorem Admits.located (h : Admits A m) (hcur : m.current = .takeGpsReading)
    (ht : A .takeReadings) : Admits A (m.transit .takeReadings) where
  here := ht
  back hb := by
    rcases hb with hb | hb
    · exact absurd hb (by show ¬ Returning .takeReadings; decide)
    · cases hb
  resume _ := h.resume (Or.inl (Or.inl hcur))

/-- **A task that calls `alive()` leads only to what may be entered**, if its own targets may. -/
theorem went_admits {a : Activation} (hA : Open A) (hcur : m.current = a.state) (h : Admits A m)
    (htargets : ∀ t ∈ a.targets, A t) (hw : Went m m' a) : Admits A m' := by
  have hreboot : A .rebootDevice := hA.pressed _ (Or.inr (Or.inr (Or.inl rfl)))
  cases a with
  | idle i =>
      obtain ⟨m₁, hn, hr | rfl | ⟨_, rfl⟩⟩ := hw
      · exact (h.nudged hA hn).rung hA hr
      · exact (h.nudged hA hn).transit hreboot (by decide)
      · exact (h.nudged hA hn).transit (htargets _ List.mem_cons_self) (by decide)
  | noModules n =>
      obtain ⟨m₁, m₂, hn, hr, rfl | rfl | rfl⟩ := hw
      · exact (h.nudged hA hn).rung hA hr
      · exact ((h.nudged hA hn).rung hA hr).transit (htargets _ List.mem_cons_self) (by decide)
      · exact ((h.nudged hA hn).rung hA hr).transit hreboot (by decide)
  | sleep as =>
      have hcur : m.current = .sleep := hcur
      obtain ⟨m₁, hn, ⟨_, rfl⟩ | ⟨_, hback⟩⟩ := hw
      · exact h.nudged hA hn
      · exact h.back_of hA hn (by rw [hcur]; decide) hback
  | lowPowerSleep charged as =>
      have hcur : m.current = .lowPowerSleep := hcur
      obtain rfl | ⟨m₁, m₂, hn, hback, rfl⟩ := hw
      · exact h.transit hreboot (by decide)
      · have h₂ : Admits A m₂ := by
          rcases hback with ⟨_, rfl⟩ | ⟨_, hback⟩
          · exact h.nudged hA hn
          · exact h.back_of hA hn (by rw [hcur]; decide) hback
        exact h₂.transit hA.lowPower (by decide)
  | checkPower c =>
      have hcur : m.current = .checkPower := hcur
      obtain ⟨m₁, hn, ⟨_, rfl⟩ | ⟨_, hback⟩ | rfl⟩ := hw
      · exact (h.nudged hA hn).transit hA.lowPower (by decide)
      · exact h.back_of hA hn (by rw [hcur]; decide) hback
      · exact (h.nudged hA hn).transit (htargets _ List.mem_cons_self) (by decide)
  | factoryResetCheck as =>
      obtain ⟨m₁, hn, ⟨_, rfl⟩ | rfl⟩ := hw
      · exact h.nudged hA hn
      · exact (h.nudged hA hn).transit (htargets _ List.mem_cons_self) (by decide)
  | firmwareSelfFlash as => exact h.nudged hA hw
  | liveDataReading as =>
      have hcur : m.current = .liveDataReading := hcur
      obtain ⟨m₁, hn, hback⟩ := hw
      exact h.back_of hA hn (by rw [hcur]; decide) hback
  | scanAttachedDevices s =>
      obtain ⟨m₁, hn, ⟨hfirst, rfl⟩ | ⟨hfirst, rfl | rfl⟩⟩ := hw <;>
        exact (h.nudged hA hn).transit (htargets _ (by simp [Activation.targets, hfirst]))
          (by decide)
  | takeReadings t =>
      have hcur : m.current = .takeReadings := hcur
      obtain ⟨m₁, hn, ⟨_, _, rfl⟩ | hresume⟩ := hw
      · exact (h.nudged hA hn).transit hreboot (by decide)
      · exact h.resume_of hA hn (Or.inr hcur) hresume
  | checkFirmware as end_ =>
      have hcur : m.current = .checkFirmware := hcur
      obtain ⟨m₁, hn, hback | rfl | rfl | rfl⟩ := hw
      · exact h.back_of hA hn (by rw [hcur]; decide) hback
      · exact h.nudged hA hn
      · exact (h.nudged hA hn).transit (htargets _ (by simp [Activation.targets])) (by decide)
      · exact (h.nudged hA hn).transit (htargets _ (by simp [Activation.targets])) (by decide)
  | wifiListening l =>
      obtain rfl | rfl | ⟨m₁, m₂, hn, hr, hlast⟩ := hw
      · exact h.transit (htargets _ (by simp [Activation.targets])) (by decide)
      · exact h.transit (htargets _ (by simp [Activation.targets])) (by decide)
      · have h₂ : Admits A m₂ := by
          rcases hr with rfl | ⟨_, s, hs, _, rfl⟩
          · exact h.nudged hA hn
          · exact (h.nudged hA hn).cron hA hs
        rcases hlast with rfl | ⟨_, rfl⟩
        · exact h₂
        · exact h₂.transit (htargets _ (by simp [Activation.targets])) (by decide)
  | wifiCaptiveListening l =>
      obtain rfl | rfl | ⟨m₁, hn, rfl | rfl⟩ := hw
      · exact h.transit (htargets _ (by simp [Activation.targets])) (by decide)
      · exact h.transit (htargets _ (by simp [Activation.targets])) (by decide)
      · exact h.nudged hA hn
      · exact (h.nudged hA hn).transit (htargets _ (by simp [Activation.targets])) (by decide)

end Admitted

/-! ## 5. The way to the access point -/

/-- A task that calls `alive()`. -/
def aliveTask (a : Activation) : Event := .task (.alive a)

/-- From the reset to the access point of a device that knows no network. -/
def toListening : List Event :=
  [.task .booting, aliveTask (.factoryResetCheck []), .task .startSystem, .task .initialized,
   aliveTask (.checkPower {
     alive := {}, low := false, lowPower := true, attached := true, console := false
     visited := false }),
   .task .firmwareHealthCheck,
   aliveTask (.scanAttachedDevices {
     alives := [], first := true, hasSensorModules := true, noModulesSleep := 0 }),
   .task (.wifiStartup true false), .task (.wifiTryNetwork {} false),
   .task (.wifiTryNetwork {} false), .task (.wifiTryNetwork {} false), .task (.wifiCreateAp true)]

end CoreDevice

end FieldKit

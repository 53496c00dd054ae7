/-
  File:      FieldKit/Core/DevicePower.lean
  Subject:   The power of the WiFi and of the modules over whole runs of the device (wifi.cpp,
             wifi_disable.cpp, upgrade_module_firmware.cpp, low_power_sleep.cpp, turn_off.cpp,
             reboot_device.cpp).

  The WiFi is turned on by WifiStartup and off by WifiDisable and TurnOff. A session that upgrades a
  module leaves it on: UpgradeModuleFirmware goes to Idle without WifiDisable.

  The modules have power from StartSystem on. LowPowerSleep takes it, and only a reset gives it
  back, so whatever follows LowPowerSleep without one finds the modules without power.

  * `radio_off_iff` -- the WiFi is off whenever the device idles, waits for modules or is in Sleep,
    exactly in the runs in which no module is upgraded;
  * `modules_powered_iff` -- the modules have power whenever the device is awake, exactly in the runs
    in which nothing but a reset follows low power.
-/
import FieldKit.Core.Device

namespace FieldKit.CoreDevice

open Lib

/-! ## 1. The WiFi -/

section Radio

/-- The device has nothing to do. LowPowerSleep is none of these states: it is entered with the WiFi as
    it is. -/
def Resting (s : State) : Prop := s = .idle ∨ s = .noModules ∨ s = .sleep

/-- The states of a session, after the WiFi was turned on. -/
def Linked (s : State) : Prop :=
  s = .wifiTryNetwork ∨ s = .checkAllAttachedFirmware ∨ s = .checkFirmware ∨
    s = .upgradeModuleFirmware ∨ s = .wifiTransmitFiles

instance (s : State) : Decidable (Resting s) := inferInstanceAs (Decidable (_ ∨ _ ∨ _))

instance (s : State) : Decidable (Linked s) := inferInstanceAs (Decidable (_ ∨ _ ∨ _ ∨ _ ∨ _))

/-- **The WiFi is off when the device has nothing to do.** -/
def RadioOff (d : Device) : Prop := Resting d.fsm.current → d.wifi = false

/-- No module is upgraded. -/
def NotUpgraded (_ : Device) (e : Event) : Prop := e ≠ .task .upgradeModuleFirmware

instance (d : Device) (e : Event) : Decidable (NotUpgraded d e) := inferInstanceAs (Decidable (_ ≠ _))

/-- What may be entered with the WiFi on or off; a scan that is not the first one ends in a state of
    rest. -/
def Suits (wifi first : Bool) (s : State) : Prop :=
  (Resting s ∨ (s = .scanAttachedDevices ∧ first = false) → wifi = false) ∧ (Linked s → wifi = true)

theorem suits_of {wifi first : Bool} {s : State} (hr : ¬ Resting s) (hs : s ≠ .scanAttachedDevices)
    (hl : ¬ Linked s) : Suits wifi first s :=
  ⟨fun h => h.elim (fun h => absurd h hr) fun h => absurd h.1 hs, fun h => absurd h hl⟩

theorem suits_open (wifi first : Bool) : Open (Suits wifi first) where
  pressed s hs := by
    rcases hs with rfl | rfl | rfl | rfl <;> exact suits_of (by decide) (by decide) (by decide)
  lowPower := suits_of (by decide) (by decide) (by decide)
  cron s hs := by
    rcases hs with rfl | rfl | rfl <;> exact suits_of (by decide) (by decide) (by decide)

variable {d d' : Device}

/-- The invariant of the WiFi. -/
def Fitting (d : Device) : Prop := Admits (Suits d.wifi d.first) d.fsm

theorem Fitting.radioOff (h : Fitting d) : RadioOff d := fun hr => h.here.1 (Or.inl hr)

theorem members_wifi (a : Activation) (d : Device) : (d.members a).wifi = d.wifi := by
  unfold Device.members
  cases a <;> dsimp only <;> (repeat' split) <;> rfl

theorem members_first {a : Activation} (h : a.state ≠ .scanAttachedDevices) (d : Device) :
    (d.members a).first = d.first := by
  unfold Device.members
  cases a with
  | scanAttachedDevices s => exact absurd rfl h
  | _ =>
      dsimp only
      (repeat' split) <;> rfl

theorem fitting_boot : Fitting {} :=
  admits_boot (suits_of (by decide) (by decide) (by decide))

/-- The targets of the tasks that call `alive()`, but for those of a scan. -/
theorem targets_suit {a : Activation} {wifi first : Bool} (h : Suits wifi first a.state)
    (hscan : a.state ≠ .scanAttachedDevices) : ∀ t ∈ a.targets, Suits wifi first t := by
  cases a with
  | idle i =>
      have hoff := h.1 (Or.inl (Or.inl rfl))
      simp [Activation.targets, Suits, hoff, Linked]
  | noModules n =>
      have hoff := h.1 (Or.inl (Or.inr (Or.inl rfl)))
      simp [Activation.targets, Suits, hoff, Linked]
  | checkFirmware as end_ =>
      have hon := h.2 (Or.inr (Or.inr (Or.inl rfl)))
      simp [Activation.targets, Suits, hon, Resting]
  | scanAttachedDevices s => exact absurd rfl hscan
  | _ => simp [Activation.targets, Suits, Resting, Linked]

/-- A scan. The first one goes on to the WiFi, the others come to rest. -/
theorem scan_fitting {s : Scan} {m : Fsm} (h : Suits d.wifi d.first .scanAttachedDevices)
    (hw : Went d.pointers m (.scanAttachedDevices { s with first := d.first })) :
    Fitting ((d.members (.scanAttachedDevices s)).moved m) := by
  obtain ⟨m₁, hn, ⟨hfirst, rfl⟩ | ⟨hfirst, hgo⟩⟩ := hw
  · exact admits_plain m₁ (suits_of (by decide) (by decide) (by decide)) (by decide) (by decide)
  · have hfirst : d.first = false := hfirst
    have hoff : d.wifi = false := h.1 (Or.inr ⟨rfl, hfirst⟩)
    show Admits (Suits (d.members (.scanAttachedDevices s)).wifi _) m
    rw [members_wifi, hoff]
    rcases hgo with rfl | rfl
    · exact admits_plain m₁ ⟨fun _ => rfl, fun hl => absurd hl (by decide)⟩ (by decide) (by decide)
    · exact admits_plain m₁ ⟨fun _ => rfl, fun hl => absurd hl (by decide)⟩ (by decide) (by decide)

theorem alive_fitting {a : Activation} (h : Fitting d) (hturn : d.Turn (.alive a))
    (hs : d.task (.alive a) = some d') : Fitting d' := by
  rcases Device.task_went hturn hs with rfl | ⟨m, hw, rfl⟩
  · exact fitting_boot
  · have hcur : d.pointers.current = (a.over d).state :=
      hturn.1.symm.trans (Device.state_over a).symm
    have hadmits : Admits (Suits d.wifi d.first) d.pointers := ⟨h.here, h.back, h.resume⟩
    have hhere : Suits d.wifi d.first (a.over d).state := hcur ▸ hadmits.here
    by_cases hscan : a.state = .scanAttachedDevices
    · cases a with
      | scanAttachedDevices s => exact scan_fitting hhere hw
      | _ => cases hscan
    · show Admits (Suits (d.members a).wifi (d.members a).first) m
      rw [members_wifi, members_first hscan]
      exact went_admits (suits_open _ _) hcur hadmits
        (targets_suit hhere (by rw [Device.state_over]; exact hscan)) hw

/-- A state that may be entered whatever the WiFi does, from anywhere. -/
def Free (s : State) : Prop :=
  (¬ Resting s ∧ s ≠ .scanAttachedDevices ∧ ¬ Linked s) ∧
    ¬ (Returning s ∨ s = .beginGatherReadings) ∧ ¬ InReadings s

instance (s : State) : Decidable (Free s) := inferInstanceAs (Decidable (_ ∧ _))

theorem Free.admits {t : State} (h : Free t) (m : Fsm) (wifi first : Bool) :
    Admits (Suits wifi first) (m.transit t) :=
  admits_plain m (suits_of h.1.1 h.1.2.1 h.1.2.2) h.2.1 h.2.2

theorem wifiStartup_fitting (begun hasInternetAccess : Bool) :
    Fitting (d.wifiStartup begun hasInternetAccess) := by
  unfold Device.wifiStartup
  dsimp only
  split
  · next hon =>
      have hon : d.wifi = true := hon
      split
      · exact admits_plain d.fsm
          ⟨fun hr => by rcases hr with hr | ⟨hr, _⟩ <;> exact absurd hr (by decide), fun _ => hon⟩
          (by decide) (by decide)
      · exact Free.admits (by decide) _ _ _
  · split
    · exact admits_plain d.fsm
        ⟨fun hr => by rcases hr with hr | ⟨hr, _⟩ <;> exact absurd hr (by decide), fun _ => rfl⟩
        (by decide) (by decide)
    · exact Free.admits (by decide) _ _ _

theorem wifiTryNetwork_fitting (h : Suits d.wifi d.first .wifiTryNetwork)
    (settings : NetworkSettings) (connected : Bool) :
    Fitting (d.wifiTryNetwork settings connected) := by
  have hon : d.wifi = true := h.2 (Or.inl rfl)
  have hlinked {t : State} (ht : Linked t) (hr : ¬ Resting t) (hs : t ≠ .scanAttachedDevices)
      (hb : ¬ (Returning t ∨ t = .beginGatherReadings)) (hi : ¬ InReadings t) :
      Admits (Suits d.wifi d.first) (d.fsm.transit t) :=
    admits_plain d.fsm
      ⟨fun h => h.elim (fun h => absurd h hr) fun h => absurd h.1 hs, fun _ => hon⟩ hb hi
  unfold Device.wifiTryNetwork
  split
  · split
    · exact Free.admits (by decide) _ _ _
    · split
      · exact hlinked (by decide) (by decide) (by decide) (by decide) (by decide)
      · split <;> exact hlinked (by decide) (by decide) (by decide) (by decide) (by decide)
  · exact Free.admits (by decide) _ _ _

theorem checkAllAttachedFirmware_fitting (h : Fitting d)
    (hcur : d.fsm.current = .checkAllAttachedFirmware) (n : Nat) :
    Fitting (d.checkAllAttachedFirmware n) := by
  have hon : d.wifi = true := h.here.2 (by rw [hcur]; decide)
  have hgo {t : State} (ht : ¬ Resting t ∧ t ≠ .scanAttachedDevices) (hi : ¬ InReadings t) :
      Admits (Suits d.wifi d.first) (d.fsm.transit t) :=
    h.transit ⟨fun h => h.elim (fun h => absurd h ht.1) fun h => absurd h.1 ht.2, fun _ => hon⟩ hi
  unfold Device.checkAllAttachedFirmware
  split
  · exact hgo (by decide) (by decide)
  · split <;> exact hgo (by decide) (by decide)

theorem wifiTransmitFiles_fitting (h : Fitting d) (hcur : d.fsm.current = .wifiTransmitFiles) :
    Fitting d.wifiTransmitFiles := by
  have hon : d.wifi = true := h.here.2 (by rw [hcur]; decide)
  unfold Device.wifiTransmitFiles
  split
  · show Admits (Suits d.wifi d.first) (d.fsm.transit _)
    split <;> exact Free.admits (by decide) _ _ _
  · exact Admits.transit h (suits_of (by decide) (by decide) (by decide)) (by decide)

/-- A task that goes back without calling `alive()`. -/
theorem back_fitting (h : Fitting d) (hr : Returning d.fsm.current) (hs : d.back = some d') :
    Fitting d' := by
  obtain ⟨m, hm, rfl⟩ := Option.map_eq_some_iff.mp hs
  exact Admits.back_of h (suits_open _ _) (Nudged.refl _) hr hm

/-- **One step** that is no upgrade. -/
theorem task_fitting {i : Input} (h : Fitting d) (hturn : d.Turn i)
    (hi : i ≠ .upgradeModuleFirmware) (hs : d.task i = some d') : Fitting d' := by
  obtain ⟨hcur, -⟩ := id hturn
  have hrest {t : State} (m : Fsm) (ht : ¬ Linked t) (hb : ¬ (Returning t ∨ t = .beginGatherReadings))
      (hi : ¬ InReadings t) : Admits (Suits false d.first) (m.transit t) :=
    admits_plain m ⟨fun _ => rfl, fun hl => absurd hl ht⟩ hb hi
  cases i with
  | alive a => exact alive_fitting h hturn hs
  | upgradeModuleFirmware => exact absurd rfl hi
  | beginGatherReadings =>
      cases hs
      exact Admits.begun h hcur.symm (suits_of (by decide) (by decide) (by decide))
  | takeGpsReading =>
      cases hs
      exact Admits.located h hcur.symm (suits_of (by decide) (by decide) (by decide))
  | transmitLoraData => exact back_fitting h (by rw [← hcur]; decide) hs
  | wifiTransmitFile =>
      have hs : Device.back { d with work := d.work ++ [.transmit d.transmission] } = some d' := hs
      have h : Fitting { d with work := d.work ++ [.transmit d.transmission] } := h
      refine back_fitting h ?_ hs
      show Returning d.fsm.current
      rw [← hcur]
      decide
  | turnOff e =>
      cases hs
      have hpress : d.fsm.button e =
          { d.fsm.transit .rebootDevice with selected := some .rebootDevice } := by
        unfold Fsm.button
        rw [← hcur]
        rfl
      have hreboot : Admits (Suits false d.first) (d.fsm.transit .rebootDevice) :=
        Free.admits (by decide) _ _ _
      show Admits (Suits false d.first) (d.fsm.button e)
      rw [hpress]
      exact ⟨hreboot.here, hreboot.back, hreboot.resume⟩
  | initialized =>
      cases hs
      exact Admits.transit h (suits_of (by decide) (by decide) (by decide)) (by decide)
  | rebootDevice console =>
      cases hs
      split
      · exact Free.admits (by decide) _ _ _
      · exact fitting_boot
  | firmwareHealthCheck =>
      cases hs
      refine admits_plain d.fsm ⟨fun hr => ?_, fun hl => absurd hl (by decide)⟩
        (by decide) (by decide)
      rcases hr with hr | ⟨_, hr⟩
      · exact absurd hr (by decide)
      · cases hr
  | wifiStartup begun hasInternetAccess =>
      cases hs
      exact wifiStartup_fitting begun hasInternetAccess
  | wifiTryNetwork settings connected =>
      cases hs
      have hcur : State.wifiTryNetwork = d.fsm.current := hcur
      exact wifiTryNetwork_fitting (hcur ▸ h.here) settings connected
  | wifiCreateAp created =>
      cases hs
      show Admits (Suits d.wifi d.first) (d.fsm.transit _)
      split <;> exact Free.admits (by decide) _ _ _
  | checkAllAttachedFirmware n =>
      cases hs
      exact checkAllAttachedFirmware_fitting h hcur.symm n
  | wifiTransmitFiles =>
      cases hs
      exact wifiTransmitFiles_fitting h hcur.symm
  | wifiDisable hasSensorModules noModulesSleep =>
      cases hs
      unfold Device.wifiDisable
      dsimp only
      split <;> exact hrest _ (by decide) (by decide) (by decide)
  | appServicer served =>
      cases hs
      cases served with
      | waiting => exact h
      | _ => exact Free.admits (by decide) _ _ _
  | _ =>
      cases hs
      exact Free.admits (by decide) _ _ _

/-- An upgrade leaves the WiFi on. -/
theorem upgrade_on (h : Fitting d) (hturn : d.Turn .upgradeModuleFirmware)
    (hs : d.task .upgradeModuleFirmware = some d') : ¬ RadioOff d' := by
  intro hoff
  have hon : d.wifi = true := h.here.2 (by rw [← hturn.1]; decide)
  cases hs
  have hrest : d.wifi = false := hoff (Or.inl rfl)
  rw [hon] at hrest
  cases hrest

/-- **The WiFi is off whenever the device has nothing to do, exactly in the runs in which no module is
    upgraded.** -/
theorem radio_off_iff {tr : List (Device × Event)} (h : Run Device.step {} tr d) :
    (Meets (fun s _ => RadioOff s) tr ∧ RadioOff d) ↔ Meets NotUpgraded tr := by
  refine h.meets_iff NotUpgraded Fitting RadioOff fitting_boot (fun _ => Fitting.radioOff) ?_
  intro s e s' hI hs
  cases e with
  | reset =>
      cases hs
      exact ⟨fun _ => fitting_boot, fun _ => nofun⟩
  | task i =>
      obtain ⟨hturn, hs⟩ := Device.step_task hs
      refine ⟨fun hC => task_fitting hI hturn (fun hi => hC (congrArg Event.task hi)) hs, ?_⟩
      rintro hP he
      cases he
      exact upgrade_on hI hturn hs hP

/-- No module is upgraded on the way to the access point, where the WiFi is on. -/
theorem radio_off_listening : ∃ tr d, Run Device.step {} tr d ∧ d.wifi = true ∧
    Meets (fun s _ => RadioOff s) tr := by
  have hexec : (exec (guarded NotUpgraded Device.step) {} toListening).map Device.wifi =
      some true := by
    decide +kernel
  obtain ⟨tr, d, hrun, hwifi⟩ := run_of_exec_map hexec
  obtain ⟨hrun, hC⟩ := hrun.of_guarded
  exact ⟨tr, d, hrun, hwifi, ((radio_off_iff hrun).mpr hC).1⟩

end Radio

/-! ## 2. The modules -/

section Modules

/-- The states in which the modules need no power: those before `StartSystem`, and those that the
    device leaves through a reset. -/
def Dark (s : State) : Prop :=
  s = .booting ∨ s = .factoryResetCheck ∨ s = .factoryReset ∨ s = .startSystem ∨
    s = .lowPowerSleep ∨ s = .turnOff ∨ s = .rebootDevice

instance (s : State) : Decidable (Dark s) := inferInstanceAs (Decidable (_ ∨ _ ∨ _ ∨ _ ∨ _ ∨ _ ∨ _))

/-- **The modules have power when the device is awake.** -/
def Powered (d : Device) : Prop := ¬ Dark d.fsm.current → d.modules = true

/-- Nothing but a reset follows low power: no press comes in the `alive()` that takes the power, unless
    the device reboots in the same task; no scan is due then; no console keeps the device from
    its reset. -/
def ResetFollows (d : Device) : Event → Prop
  | .task (.alive (.idle i)) => (Activation.idle i).disablesModules = true →
      i.alive.button = some .shortButtonPress → i.due = false ∧ i.errors = true
  | .task (.alive (.noModules n)) => (Activation.noModules n).disablesModules = true →
      n.rescans = false ∧ (n.alive.button = some .shortButtonPress → n.sleeps = true)
  | .task (.rebootDevice console) => console = true → d.modules = true
  | _ => True

instance (d : Device) (e : Event) : Decidable (ResetFollows d e) := by
  unfold ResetFollows
  split <;> infer_instance

instance (d : Device) : Decidable (Powered d) := inferInstanceAs (Decidable (_ → _))

variable {d d' : Device}

theorem powered_dark (h : Dark d.fsm.current) : Powered d := fun hn => absurd h hn

theorem powered_on (h : d.modules = true) : Powered d := fun _ => h

theorem members_modules {a : Activation} (h : a.disablesModules = false) (d : Device) :
    (d.members a).modules = d.modules := by
  unfold Device.members
  rw [if_neg (by rw [h]; decide)]
  cases a <;> dsimp only <;> (repeat' split) <;> rfl

theorem members_dark {a : Activation} (h : a.disablesModules = true) (d : Device) :
    (d.members a).modules = false := by
  unfold Device.members
  rw [if_pos h]
  cases a with
  | checkPower c =>
      have hsleeps : c.sleeps = true := h
      dsimp only
      rw [if_pos hsleeps]
  | scanAttachedDevices s => cases h
  | _ => rfl

/-- Where `alive()` leaves a device that goes to low power. -/
def sunk : Option ButtonEvent → State
  | some .shortButtonPress => .userWakeup
  | some .longButtonPress => .turnOff
  | _ => .lowPowerSleep

theorem alive_sunk {m : Fsm} {a : Alive} (hcur : m.current = .idle ∨ m.current = .noModules)
    (hlow : (a.lowPower && !a.console) = true) : (m.alive a).current = sunk a.button := by
  obtain ⟨lowPower, console, button⟩ := a
  obtain ⟨rfl, rfl⟩ : lowPower = true ∧ console = false := by
    cases lowPower <;> cases console <;> first | exact ⟨rfl, rfl⟩ | cases hlow
  have hlow : m.lowPower false = m.transit .lowPowerSleep := by
    unfold Fsm.lowPower reactLowPower
    rcases hcur with hcur | hcur <;> rw [hcur] <;> rfl
  unfold Fsm.alive
  dsimp only
  rw [if_pos rfl, hlow]
  rcases button with _ | e
  · rfl
  · cases e <;> rfl

theorem sunk_dark {b : Option ButtonEvent} : Dark (sunk b) ↔ b ≠ some .shortButtonPress := by
  rcases b with _ | e
  · decide
  · cases e <;> decide

theorem sunk_not_listener (b : Option ButtonEvent) : ¬ Listener (sunk b) := by
  rcases b with _ | e
  · decide
  · cases e <;> decide

theorem idle_sunk {i : Idle} {m m' : Fsm} (hcur : m.current = .idle)
    (hlow : (Activation.idle i).disablesModules = true) (h : i.task m = some m') :
    Dark m'.current ↔ (i.alive.button = some .shortButtonPress → i.due = false ∧ i.errors = true) := by
  have hsunk := alive_sunk (Or.inl hcur) hlow
  have hleft : (m.alive i.alive).transitioned .idle = true := by
    rw [Fsm.transitioned_iff, hsunk]
    rintro hidle
    exact sunk_not_listener _ (Or.inl hidle)
  unfold Idle.task at h
  dsimp only at h
  rw [scheduledTasks_of_not_listener (by rw [hsunk]; exact sunk_not_listener _), if_pos hleft] at h
  split at h
  · next hdue =>
      cases h
      rw [hsunk, sunk_dark]
      exact ⟨fun hne hshort => absurd hshort hne,
        fun himp hshort => absurd (himp hshort).1 (by rw [hdue]; decide)⟩
  · next hdue =>
      have hdue : i.due = false := Bool.eq_false_iff.mpr hdue
      cases h
      unfold Idle.checkFiles
      split
      · next herrors => exact ⟨fun _ _ => ⟨hdue, herrors⟩, fun _ => by show Dark .rebootDevice; decide⟩
      · next herrors =>
          rw [hsunk, sunk_dark]
          exact ⟨fun hne hshort => absurd hshort hne, fun himp hshort => herrors (himp hshort).2⟩

theorem noModules_sunk {n : NoModules} {m m' : Fsm} (hcur : m.current = .noModules)
    (hlow : (Activation.noModules n).disablesModules = true) (h : n.task m = some m') :
    Dark m'.current ↔ n.rescans = false ∧
      (n.alive.button = some .shortButtonPress → n.sleeps = true) := by
  have hsunk := alive_sunk (Or.inr hcur) hlow
  unfold NoModules.task at h
  dsimp only at h
  rw [scheduledTasks_of_not_listener (by rw [hsunk]; exact sunk_not_listener _)] at h
  split at h
  · cases h
  · split at h
    · next hrescans =>
        cases h
        refine ⟨fun hd => absurd hd (by show ¬ Dark .scanAttachedDevices; decide), fun hn => ?_⟩
        exact absurd hn.1 (by rw [hrescans]; decide)
    · next hrescans =>
        have hrescans : n.rescans = false := Bool.eq_false_iff.mpr hrescans
        split at h
        · next hsleeps =>
            cases h
            exact ⟨fun _ => ⟨hrescans, fun _ => hsleeps⟩, fun _ => by show Dark .rebootDevice; decide⟩
        · next hsleeps =>
            cases h
            rw [hsunk, sunk_dark]
            exact ⟨fun hne => ⟨hrescans, fun hshort => absurd hshort hne⟩,
              fun hn hshort => hsleeps (hn.2 hshort)⟩

/-- While the device looks for a factory reset only a long press is heard. -/
theorem aliveUntil_factoryResetCheck {m : Fsm} (hcur : m.current = .factoryResetCheck)
    (as : List Alive) :
    (m.aliveUntil .factoryResetCheck as).current = .factoryResetCheck ∨
      (m.aliveUntil .factoryResetCheck as).current = .factoryReset := by
  have hone (m : Fsm) (hcur : m.current = .factoryResetCheck) (a : Alive) :
      (m.alive a).current = .factoryResetCheck ∨ (m.alive a).current = .factoryReset := by
    have hlow : m.lowPower a.console = m := by
      unfold Fsm.lowPower reactLowPower
      rw [hcur]
    unfold Fsm.alive
    dsimp only
    rw [hlow, ite_self]
    split
    · next e _ =>
        unfold Fsm.button reactButton
        rw [hcur]
        cases e with
        | longButtonPress => exact Or.inr rfl
        | _ => exact Or.inl hcur
    · exact Or.inl hcur
  induction as generalizing m with
  | nil => exact Or.inl hcur
  | cons a as ih =>
      unfold Fsm.aliveUntil
      split
      · exact hone m hcur a
      · next hstays =>
          exact ih (not_not.mp fun hne => hstays ((Fsm.transitioned_iff _ _).mpr hne))

/-- The tasks that call `alive()` in the dark. -/
theorem dark_alive {a : Activation} (h : Dark a.state) :
    (∃ as, a = .factoryResetCheck as) ∨ ∃ charged as, a = .lowPowerSleep charged as := by
  cases a with
  | factoryResetCheck as => exact Or.inl ⟨as, rfl⟩
  | lowPowerSleep charged as => exact Or.inr ⟨charged, as, rfl⟩
  | _ => rcases h with h | h | h | h | h | h | h <;> cases h

theorem factoryResetCheck_powered {as : List Alive} (hcur : d.fsm.current = .factoryResetCheck)
    (hs : d.task (.alive (.factoryResetCheck as)) = some d') : Powered d' := by
  obtain ⟨m, hm, rfl⟩ := Option.map_eq_some_iff.mp hs
  refine powered_dark ?_
  show Dark m.current
  have hm : factoryResetCheck as d.pointers = some m := hm
  unfold factoryResetCheck at hm
  dsimp only at hm
  split at hm
  · cases hm
    rcases aliveUntil_factoryResetCheck (m := d.pointers) hcur as with h | h <;> rw [h] <;> decide
  · cases hm
    show Dark .startSystem
    decide

theorem lowPowerSleep_powered {charged : Bool} {as : List Alive}
    (hs : d.task (.alive (.lowPowerSleep charged as)) = some d') : Powered d' := by
  obtain ⟨m, hm, rfl⟩ := Option.map_eq_some_iff.mp hs
  refine powered_dark ?_
  show Dark m.current
  rcases lowPowerSleep_went hm with rfl | ⟨_, _, _, _, rfl⟩
  · show Dark .rebootDevice
    decide
  · show Dark .lowPowerSleep
    decide

/-- A task that takes no power from the modules. -/
theorem alive_powered {a : Activation} (h : Powered d) (hon : a.disablesModules = false)
    (hturn : d.Turn (.alive a)) (hs : d.task (.alive a) = some d') : Powered d' := by
  by_cases hcur : Dark d.fsm.current
  · have hstate : a.state = d.fsm.current := hturn.1
    rw [← hstate] at hcur
    rcases dark_alive hcur with ⟨as, rfl⟩ | ⟨charged, as, rfl⟩
    · exact factoryResetCheck_powered hturn.1.symm hs
    · exact lowPowerSleep_powered hs
  · rcases Device.task_went hturn hs with rfl | ⟨m, _, rfl⟩
    · exact powered_dark (by show Dark .booting; decide)
    · refine powered_on ?_
      show (d.members a).modules = true
      rw [members_modules hon]
      exact h hcur

/-- A task that takes it. -/
theorem alive_sinks {a : Activation} (hoff : a.disablesModules = true) (hturn : d.Turn (.alive a))
    (hs : d.task (.alive a) = some d') : Powered d' ↔ ResetFollows d (.task (.alive a)) := by
  have hdark (m : Fsm) : Powered ((d.members a).moved m) ↔ Dark m.current := by
    have hmodules : ((d.members a).moved m).modules = false := members_dark hoff d
    refine ⟨fun hp => not_not.mp fun hn => ?_, fun hd => powered_dark hd⟩
    have hon := hp hn
    rw [hmodules] at hon
    cases hon
  cases a with
  | idle i =>
      obtain ⟨m, hm, rfl⟩ := Option.map_eq_some_iff.mp hs
      rw [hdark, idle_sunk (m := d.pointers) hturn.1.symm hoff hm]
      exact ⟨fun himp _ => himp, fun himp => himp hoff⟩
  | noModules n =>
      obtain ⟨m, hm, rfl⟩ := Option.map_eq_some_iff.mp hs
      rw [hdark, noModules_sunk (m := d.pointers) hturn.1.symm hoff hm]
      exact ⟨fun himp _ => himp, fun himp => himp hoff⟩
  | lowPowerSleep charged as => exact ⟨fun _ => trivial, fun _ => lowPowerSleep_powered hs⟩
  | checkPower c =>
      have hsleeps : (c.low ∧ c.lowPower ∧ c.attached ∧ c.console = false) := of_decide_eq_true hoff
      obtain ⟨m, hm, rfl⟩ := Option.map_eq_some_iff.mp hs
      have hm : CheckPower.task { c with visited := d.visited } d.pointers = some m := hm
      unfold CheckPower.task at hm
      dsimp only at hm
      rw [if_pos hsleeps] at hm
      cases hm
      exact ⟨fun _ => trivial, fun _ => powered_dark (by show Dark .lowPowerSleep; decide)⟩
  | _ => cases hoff

/-- The other tasks leave the power of the modules as it is. -/
theorem task_modules {i : Input} (hi : ¬ Dark i.state) (halive : ∀ a, i ≠ .alive a)
    (hs : d.task i = some d') : d'.modules = d.modules := by
  cases i with
  | alive a => exact absurd rfl (halive a)
  | booting | factoryReset | startSystem => exact absurd (by show Dark _; decide) hi
  | turnOff e => exact absurd (by show Dark .turnOff; decide) hi
  | rebootDevice console => exact absurd (by show Dark .rebootDevice; decide) hi
  | transmitLoraData | wifiTransmitFile =>
      obtain ⟨m, _, rfl⟩ := Option.map_eq_some_iff.mp hs
      rfl
  | wifiStartup begun hasInternetAccess =>
      cases hs
      unfold Device.wifiStartup
      dsimp only
      (repeat' split) <;> rfl
  | wifiTryNetwork settings connected =>
      cases hs
      unfold Device.wifiTryNetwork
      (repeat' split) <;> rfl
  | checkAllAttachedFirmware n =>
      cases hs
      unfold Device.checkAllAttachedFirmware
      (repeat' split) <;> rfl
  | wifiTransmitFiles =>
      cases hs
      unfold Device.wifiTransmitFiles
      split <;> rfl
  | wifiDisable hasSensorModules noModulesSleep =>
      cases hs
      unfold Device.wifiDisable
      dsimp only
      split <;> rfl
  | appServicer served =>
      cases hs
      cases served <;> rfl
  | _ =>
      cases hs
      rfl

theorem task_powered {i : Input} (h : Powered d) (hturn : d.Turn i) (hi : ¬ Dark i.state)
    (halive : ∀ a, i ≠ .alive a) (hs : d.task i = some d') : Powered d' := by
  refine powered_on ?_
  rw [task_modules hi halive hs]
  exact h (by rw [← hturn.1]; exact hi)

/-- **One step** keeps the modules powered if and only if it leads nowhere but to a reset. -/
theorem step_powered {e : Event} (h : Powered d) (hs : d.step e = some d') :
    Powered d' ↔ ResetFollows d e := by
  cases e with
  | reset =>
      cases hs
      exact ⟨fun _ => trivial, fun _ => powered_dark (by show Dark .booting; decide)⟩
  | task i =>
      obtain ⟨hturn, hs⟩ := Device.step_task hs
      cases i with
      | alive a =>
          cases hoff : a.disablesModules with
          | true => exact alive_sinks hoff hturn hs
          | false =>
              refine ⟨fun _ => ?_, fun _ => alive_powered h hoff hturn hs⟩
              cases a <;> first | trivial | exact fun hon => absurd (hoff.symm.trans hon) (by decide)
      | rebootDevice console =>
          cases hs
          cases console with
          | true =>
              exact ⟨fun hp _ => hp (by show ¬ Dark .initialized; decide),
                fun hm => powered_on (hm rfl)⟩
          | false => exact ⟨fun _ => nofun, fun _ => powered_dark (by show Dark .booting; decide)⟩
      | turnOff e =>
          cases hs
          refine ⟨fun _ => trivial, fun _ => powered_dark ?_⟩
          have hcur : d.fsm.current = .turnOff := hturn.1.symm
          show Dark (d.fsm.button e).current
          unfold Fsm.button reactButton
          rw [hcur]
          show Dark .rebootDevice
          decide
      | booting =>
          cases hs
          exact ⟨fun _ => trivial, fun _ => powered_dark (by show Dark .factoryResetCheck; decide)⟩
      | factoryReset =>
          cases hs
          exact ⟨fun _ => trivial, fun _ => powered_dark (by show Dark .startSystem; decide)⟩
      | startSystem =>
          cases hs
          exact ⟨fun _ => trivial, fun _ => powered_on rfl⟩
      | _ =>
          refine ⟨fun _ => trivial, fun _ => task_powered h hturn ?_ (fun _ => Input.noConfusion) hs⟩
          rintro (h | h | h | h | h | h | h) <;> cases h

/-- **The modules have power whenever the device is awake, exactly in the runs in which nothing but a
    reset follows low power.** -/
theorem modules_powered_iff {tr : List (Device × Event)} (h : Run Device.step {} tr d) :
    (Meets (fun s _ => Powered s) tr ∧ Powered d) ↔ Meets ResetFollows tr :=
  h.meets_iff ResetFollows Powered Powered (powered_dark (by show Dark .booting; decide))
    (fun _ hp => hp) fun _ _ _ hp hs =>
      ⟨(step_powered hp hs).mpr, (step_powered hp hs).mp⟩

/-- A short press in the `alive()` that takes the power. -/
def pressed : Event :=
  aliveTask (.idle {
    alive := { lowPower := true, button := some .shortButtonPress }, checked := 0, uptime := 0
    nowUnix := 0, nextTask := none, errors := false })

/-- From the access point to Idle. -/
def toIdle : List Event :=
  toListening ++ [aliveTask (.wifiListening {
    time := 1, began := 0, now := 2, serve := { listen := false, alive := {}, readyForReading := false } }),
   .task (.wifiDisable true 0)]

/-- **A press in low power** wakes the device with its modules without power. -/
theorem pressed_unpowered : ∃ tr d, Run Device.step {} tr d ∧ ¬ Meets ResetFollows tr := by
  have hexec : (exec Device.step {} (toIdle ++ [pressed])).map
      (fun d => decide (Powered d)) = some false := by
    decide +kernel
  obtain ⟨tr, d, hrun, hoff⟩ := run_of_exec_map hexec
  refine ⟨tr, d, hrun, fun hC => ?_⟩
  exact of_decide_eq_false hoff ((modules_powered_iff hrun).mpr hC).2

end Modules

end CoreDevice

end FieldKit

/-
  File:      FieldKit/Core/ReadingCycle.lean
  Subject:   Cycles of readings on the whole device: BeginGatherReadings keeps where it came from,
             TakeReadings resumes there (begin_gather_readings.cpp, take_gps_reading.cpp,
             take_readings.cpp, live_data_reading.cpp, wifi_states.cpp).

  `resume()` clears its pointer, and `back()` exchanges two states. They agree only as long as no
  state that goes back was entered from within a cycle. `WifiState::serve` can do that: it looks for
  live data after it has let the scheduler begin a cycle, and does not look whether one was begun.

  * `never_null` -- in every run in which no `serve` finds live data and readings due at once, no task
    follows a null pointer;
  * `cycle_resumes` -- there every cycle ends in the state that it has interrupted, whatever was
    pressed meanwhile, or in RebootDevice if no module has answered;
  * `coincidence_fatal` -- where they are due at once, the device can be led to a null pointer.
-/
import FieldKit.Core.Device

namespace FieldKit.CoreDevice

open Lib

/-! ## 1. The property and its condition -/

/-- The readings of a cycle are all there, up to one that ends in error. -/
def enough : Nat → List Reading → Bool
  | 0, _ => true
  | _ + 1, [] => false
  | n + 1, r :: rs => r.error || enough n rs

/-- A task that comes to its end, if no pointer is null: its loop is given what it reads, and its
    assertion holds. -/
def Input.Returns : Input → Prop
  | .alive (.noModules n) => n.noModulesSleep ≠ 0
  | .alive (.takeReadings t) =>
    t.hasSensorModules = true → enough t.remaining.toNat t.readings = true
  | _ => True

/-- No module has answered while readings were taken. -/
def TakeReadings.Silent (t : TakeReadings) : Prop :=
  t.hasSensorModules = true ∧ silent t.remaining.toNat t.readings = true

/-- The `serve` of `WifiListening::task`, if that is what happens. -/
def Event.serve : Event → Option Serve
  | .task (.alive (.wifiListening l)) => some l.serve
  | _ => none

/-- It does not find readings and live data due at once. -/
def Apart (_ : Device) (e : Event) : Prop :=
  ∀ s ∈ e.serve, s.readyForReading = true → some .beginGatherReadings ∉ s.scheduled

instance (d : Device) (e : Event) : Decidable (Apart d e) :=
  inferInstanceAs (Decidable (∀ s ∈ e.serve, s.readyForReading = true → _))

/-- The states of a cycle of readings. -/
def Cycle (s : State) : Prop :=
  s = .beginGatherReadings ∨ s = .takeGpsReading ∨ s = .takeReadings

instance (s : State) : Decidable (Cycle s) := inferInstanceAs (Decidable (_ ∨ _ ∨ _))

/-- The cycle goes on: one of its states has its task. -/
def InCycle (d : Device) (e : Event) : Prop := Cycle d.fsm.current ∧ e ≠ .reset

instance (d : Device) (e : Event) : Decidable (InCycle d e) :=
  inferInstanceAs (Decidable (_ ∧ _))

/-- Outside a cycle nothing goes back into one. -/
structure Outside (m : Fsm) : Prop where
  cycle : ¬ Cycle m.current
  returns : Returning m.current → ∃ p, m.previous = some p ∧ ¬ Cycle p

/-- **The pointers are sound**: a cycle knows the state that it has interrupted, which is one that listens
    to the scheduler, and nothing else goes back into a cycle. -/
structure Sound (m : Fsm) (interrupted : Option State) : Prop where
  begun : m.current = .beginGatherReadings →
    ∃ p, m.previous = some p ∧ Listener p ∧ interrupted = some p
  reading : m.current = .takeGpsReading ∨ m.current = .takeReadings →
    ∃ r, m.resume = some r ∧ Listener r ∧ interrupted = some r
  outside : ¬ Cycle m.current → Outside m

/-! ## 2. Transitions -/

theorem Pressed.not_cycle {s : State} (h : Pressed s) : ¬ Cycle s := by
  rcases h with rfl | rfl | rfl | rfl <;> decide

theorem Listener.not_cycle {s : State} (h : Listener s) : ¬ Cycle s := by
  rcases h with rfl | rfl | rfl <;> decide

theorem Listener.not_returning {s : State} (h : Listener s) : ¬ Returning s := by
  rcases h with rfl | rfl | rfl <;> decide

theorem Returning.not_cycle {s : State} (h : Returning s) : ¬ Cycle s := by
  rcases h with rfl | rfl | rfl | rfl | rfl | rfl | rfl <;> decide

section Rules

variable {m m₁ m' : Fsm} {o : Option State}

theorem Outside.sound (h : Outside m) (o : Option State) : Sound m o where
  begun hb := absurd (Or.inl hb) h.cycle
  reading hb := absurd (Or.inr hb) h.cycle
  outside _ := h

theorem outside_transit (m : Fsm) {t : State} (ht : ¬ Cycle t)
    (hback : Returning t → ¬ Cycle m.current) : Outside (m.transit t) :=
  ⟨ht, fun h => ⟨m.current, rfl, hback h⟩⟩

/-- To a state that neither is one of a cycle nor goes back. -/
theorem outside_plain (m : Fsm) {t : State} (ht : ¬ Cycle t) (hback : ¬ Returning t) :
    Outside (m.transit t) :=
  outside_transit m ht fun h => absurd h hback

theorem Outside.nudged (h : Outside m) (hn : Nudged m m₁) : Outside m₁ := by
  cases hn with
  | same hp hc _ =>
      refine ⟨hc ▸ h.cycle, fun hb => ?_⟩
      rw [hp]
      exact h.returns (hc ▸ hb)
  | lowPower hidle hp hc _ =>
      refine ⟨by rw [hc]; decide, fun _ => ⟨m.current, hp, ?_⟩⟩
      rcases hidle with hidle | hidle <;> rw [hidle] <;> decide
  | press q _ hp hc _ => exact ⟨hc.not_cycle, fun hb => absurd hb hc.not_returning⟩

/-- **`back()`, after `alive()` was called in a state that goes back**: there is a state to go to, and it
    is not one of a cycle. -/
theorem Outside.back (h : Outside m) (hn : Nudged m m₁) (hb : Returning m.current) :
    ∃ p, m₁.back = some (m₁.transit p) ∧ Outside (m₁.transit p) := by
  cases hn with
  | same hp hc _ =>
      obtain ⟨p, hprev, hp'⟩ := h.returns hb
      refine ⟨p, ?_, outside_transit m₁ hp' fun _ => hc ▸ h.cycle⟩
      unfold Fsm.back
      rw [hp, hprev]
      rfl
  | lowPower hidle _ _ _ =>
      rcases hidle with hidle | hidle <;> rw [hidle] at hb <;> exact absurd hb (by decide)
  | press q hq hp hc _ =>
      refine ⟨q, ?_, outside_transit m₁ ?_ fun _ => hc.not_cycle⟩
      · unfold Fsm.back
        rw [hp]
        rfl
      · rcases hq with rfl | hq | ⟨rfl, _⟩
        · exact h.cycle
        · exact hq.not_cycle
        · decide

theorem Outside.back_of (h : Outside m) (hn : Nudged m m₁) (hb : Returning m.current)
    (hstep : m₁.back = some m') : Outside m' := by
  obtain ⟨p, hp, hs⟩ := h.back hn hb
  rw [hstep] at hp
  cases hp
  exact hs

/-- **`resume()`** leads back to the state that was interrupted. -/
theorem Sound.resume (h : Sound m o) (hcur : m.current = .takeReadings) (hn : Nudged m m₁) :
    ∃ r, Listener r ∧ o = some r ∧ m₁.resumeState = some { m₁.transit r with resume := none } := by
  obtain ⟨r, hr, hl, ho⟩ := h.reading (Or.inr hcur)
  refine ⟨r, hl, ho, ?_⟩
  unfold Fsm.resumeState
  rw [hn.resume_eq, hr]
  rfl

/-- What the scheduler begins: a cycle that knows where it was begun, or something else. -/
theorem sound_cron {s : State} (hl : Listener m.current) (hs : Cron s) (o : Option State) :
    Sound (m.transit s) (if s = .beginGatherReadings then some m.current else o) := by
  rcases hs with rfl | rfl | rfl
  · refine ⟨fun _ => ⟨m.current, rfl, hl, rfl⟩, fun hb => ?_, fun hb => ?_⟩
    · rcases hb with hb | hb <;> cases hb
    · exact absurd (Or.inl rfl) hb
  · exact (outside_plain m (by decide) (by decide)).sound _
  · exact (outside_transit m (by decide) fun _ => hl.not_cycle).sound _

theorem sound_rung {self : State} (h : Outside m) (hn : Nudged m m₁) (hcur : m.current = self)
    (hl : Listener self) (hr : Rung self m₁ m') (o : Option State) :
    Sound m' (if m'.current = .beginGatherReadings then some m.current else o) := by
  rcases hr with rfl | ⟨hself, s, hs, rfl⟩
  · exact (h.nudged hn).sound _
  · rw [hcur, ← hself]
    exact sound_cron (hself ▸ hl) hs o

end Rules

/-! ## 3. One task -/

section Steps

variable {m m' : Fsm} {o : Option State}

/-- **A task that calls `alive()` keeps the pointers sound**, if live data and readings are apart. -/
theorem went_sound {a : Activation} (hcur : m.current = a.state) (h : Sound m o)
    (hapart : Apart {} (.task (.alive a))) (hw : Went m m' a) :
    Sound m' (if m'.current = .beginGatherReadings then some m.current else o) := by
  cases a with
  | idle i =>
      have hcur : m.current = .idle := hcur
      have hout := h.outside (by rw [hcur]; decide)
      obtain ⟨m₁, hn, hr | rfl | ⟨hidle, rfl⟩⟩ := hw
      · exact sound_rung hout hn hcur (by decide) hr o
      · exact (outside_plain m₁ (by decide) (by decide)).sound _
      · exact (outside_transit m₁ (by decide) fun _ => by rw [hidle]; decide).sound _
  | noModules n =>
      have hcur : m.current = .noModules := hcur
      have hout := h.outside (by rw [hcur]; decide)
      obtain ⟨m₁, m₂, hn, hr, rfl | rfl | rfl⟩ := hw
      · exact sound_rung hout hn hcur (by decide) hr o
      · exact (outside_plain m₂ (by decide) (by decide)).sound _
      · exact (outside_plain m₂ (by decide) (by decide)).sound _
  | sleep as =>
      have hcur : m.current = .sleep := hcur
      have hout := h.outside (by rw [hcur]; decide)
      obtain ⟨m₁, hn, ⟨_, rfl⟩ | ⟨_, hback⟩⟩ := hw
      · exact (hout.nudged hn).sound _
      · exact (hout.back_of hn (by rw [hcur]; decide) hback).sound _
  | lowPowerSleep charged as =>
      have hcur : m.current = .lowPowerSleep := hcur
      have hout := h.outside (by rw [hcur]; decide)
      obtain rfl | ⟨m₁, m₂, hn, hback, rfl⟩ := hw
      · exact (outside_plain m (by decide) (by decide)).sound _
      · have hout₂ : Outside m₂ := by
          rcases hback with ⟨_, rfl⟩ | ⟨_, hback⟩
          · exact hout.nudged hn
          · exact hout.back_of hn (by rw [hcur]; decide) hback
        exact (outside_transit m₂ (by decide) fun _ => hout₂.cycle).sound _
  | checkPower c =>
      have hcur : m.current = .checkPower := hcur
      have hout := h.outside (by rw [hcur]; decide)
      obtain ⟨m₁, hn, ⟨_, rfl⟩ | ⟨_, hback⟩ | rfl⟩ := hw
      · exact (outside_transit m₁ (by decide) fun _ => (hout.nudged hn).cycle).sound _
      · exact (hout.back_of hn (by rw [hcur]; decide) hback).sound _
      · exact (outside_plain m₁ (by decide) (by decide)).sound _
  | factoryResetCheck as =>
      have hcur : m.current = .factoryResetCheck := hcur
      have hout := h.outside (by rw [hcur]; decide)
      obtain ⟨m₁, hn, ⟨_, rfl⟩ | rfl⟩ := hw
      · exact (hout.nudged hn).sound _
      · exact (outside_plain m₁ (by decide) (by decide)).sound _
  | firmwareSelfFlash as =>
      have hcur : m.current = .firmwareSelfFlash := hcur
      have hout := h.outside (by rw [hcur]; decide)
      exact (hout.nudged hw).sound _
  | liveDataReading as =>
      have hcur : m.current = .liveDataReading := hcur
      have hout := h.outside (by rw [hcur]; decide)
      obtain ⟨m₁, hn, hback⟩ := hw
      exact (hout.back_of hn (by rw [hcur]; decide) hback).sound _
  | scanAttachedDevices s =>
      obtain ⟨m₁, _, ⟨_, rfl⟩ | ⟨_, rfl | rfl⟩⟩ := hw <;>
        exact (outside_plain m₁ (by decide) (by decide)).sound _
  | takeReadings t =>
      have hcur : m.current = .takeReadings := hcur
      obtain ⟨m₁, hn, ⟨_, _, rfl⟩ | hresume⟩ := hw
      · exact (outside_plain m₁ (by decide) (by decide)).sound _
      · obtain ⟨r, hl, _, hr⟩ := h.resume hcur hn
        rw [hresume] at hr
        cases hr
        exact Outside.sound ⟨hl.not_cycle, fun hb => absurd hb hl.not_returning⟩ _
  | checkFirmware as end_ =>
      have hcur : m.current = .checkFirmware := hcur
      have hout := h.outside (by rw [hcur]; decide)
      obtain ⟨m₁, hn, hback | rfl | rfl | rfl⟩ := hw
      · exact (hout.back_of hn (by rw [hcur]; decide) hback).sound _
      · exact (hout.nudged hn).sound _
      · exact (outside_plain m₁ (by decide) (by decide)).sound _
      · exact (outside_plain m₁ (by decide) (by decide)).sound _
  | wifiListening l =>
      have hcur : m.current = .wifiListening := hcur
      have hout := h.outside (by rw [hcur]; decide)
      obtain rfl | rfl | ⟨m₁, m₂, hn, hr, rfl | ⟨hready, rfl⟩⟩ := hw
      · exact (outside_plain m (by decide) (by decide)).sound _
      · exact (outside_plain m (by decide) (by decide)).sound _
      · refine sound_rung hout hn hcur (by decide) ?_ o
        exact hr.imp_right fun ⟨hself, s, hs, _, heq⟩ => ⟨hself, s, hs, heq⟩
      · -- live data are due: no cycle was begun in front of them
        refine (outside_transit m₂ (by decide) fun _ => ?_).sound _
        rcases hr with rfl | ⟨_, s, hs, hmem, rfl⟩
        · exact (hout.nudged hn).cycle
        · rcases hs with rfl | rfl | rfl
          · exact absurd hmem (hapart l.serve rfl hready)
          · show ¬ Cycle .wifiStartup
            decide
          · show ¬ Cycle .transmitLoraData
            decide
  | wifiCaptiveListening l =>
      have hcur : m.current = .wifiCaptiveListening := hcur
      have hout := h.outside (by rw [hcur]; decide)
      obtain rfl | rfl | ⟨m₁, hn, rfl | rfl⟩ := hw
      · exact (outside_plain m (by decide) (by decide)).sound _
      · exact (outside_plain m (by decide) (by decide)).sound _
      · exact (hout.nudged hn).sound _
      · exact (outside_transit m₁ (by decide) fun _ => (hout.nudged hn).cycle).sound _

end Steps

section Device

variable {d d' : Device}

theorem sound_boot : Sound ({} : Device).fsm none := by
  refine Outside.sound ⟨?_, fun hb => ?_⟩ none
  · show ¬ Cycle .booting
    decide
  · exact absurd hb (by show ¬ Returning .booting; decide)

theorem Sound.pointers {o : Option State} (h : Sound d.fsm o) : Sound d.pointers o where
  begun := h.begun
  reading := h.reading
  outside hc := ⟨hc, (h.outside hc).returns⟩

theorem apart_over (a : Activation) (h : Apart d (.task (.alive a))) :
    Apart {} (.task (.alive (a.over d))) := by
  cases a <;> exact h

/-- **One step keeps the pointers sound.** -/
theorem step_sound {e : Event} (h : Sound d.fsm d.interrupted) (hC : Apart d e)
    (hs : d.step e = some d') : Sound d'.fsm d'.interrupted := by
  cases e with
  | reset =>
      cases hs
      exact sound_boot
  | task i =>
      obtain ⟨hturn, hs⟩ := Device.step_task hs
      cases i with
      | alive a =>
          rcases Device.task_went hturn hs with rfl | ⟨m, hw, rfl⟩
          · exact sound_boot
          · unfold Device.moved
            rw [Device.members_fsm, Device.members_interrupted]
            have hcur : d.pointers.current = (a.over d).state :=
              hturn.1.symm.trans (Device.state_over a).symm
            have hsound := went_sound hcur h.pointers (apart_over a hC) hw
            exact hsound
      | beginGatherReadings =>
          cases hs
          obtain ⟨p, hp, hl, ho⟩ := h.begun hturn.1.symm
          refine ⟨fun hb => ?_, fun _ => ⟨p, hp, hl, ho⟩, fun hb => ?_⟩
          · cases hb
          · exact absurd (Or.inr (Or.inl rfl)) hb
      | takeGpsReading =>
          cases hs
          obtain ⟨r, hr, hl, ho⟩ := h.reading (Or.inl hturn.1.symm)
          refine ⟨fun hb => ?_, fun _ => ⟨r, hr, hl, ho⟩, fun hb => ?_⟩
          · cases hb
          · exact absurd (Or.inr (Or.inr rfl)) hb
      | transmitLoraData =>
          have hcur : d.fsm.current = .transmitLoraData := hturn.1.symm
          obtain ⟨fsm, hback, rfl⟩ := Option.map_eq_some_iff.mp hs
          exact ((h.outside (by rw [hcur]; decide)).back_of (.refl _) (by rw [hcur]; decide)
            hback).sound _
      | wifiTransmitFile =>
          have hcur : d.fsm.current = .wifiTransmitFile := hturn.1.symm
          obtain ⟨fsm, hback, rfl⟩ := Option.map_eq_some_iff.mp hs
          exact ((h.outside (by rw [hcur]; decide)).back_of (.refl _) (by rw [hcur]; decide)
            hback).sound _
      | turnOff e =>
          have hcur : d.fsm.current = .turnOff := hturn.1.symm
          cases hs
          have hn := (Nudged.refl d.fsm).button_event e
          exact ((h.outside (by rw [hcur]; decide)).nudged hn).sound _
      | rebootDevice console =>
          cases hs
          cases console with
          | true => exact (outside_plain d.fsm (by decide) (by decide)).sound _
          | false => exact sound_boot
      | wifiStartup begun internet =>
          cases hs
          unfold Device.wifiStartup
          dsimp only
          repeat' split
          all_goals exact (outside_plain d.fsm (by decide) (by decide)).sound _
      | wifiTryNetwork settings connected =>
          cases hs
          unfold Device.wifiTryNetwork
          repeat' split
          all_goals exact (outside_plain d.fsm (by decide) (by decide)).sound _
      | wifiCreateAp created =>
          cases hs
          cases created <;> exact (outside_plain d.fsm (by decide) (by decide)).sound _
      | checkAllAttachedFirmware n =>
          have hcur : d.fsm.current = .checkAllAttachedFirmware := hturn.1.symm
          cases hs
          unfold Device.checkAllAttachedFirmware
          repeat' split
          all_goals
            exact (outside_transit d.fsm (by decide) fun _ => by rw [hcur]; decide).sound _
      | wifiTransmitFiles =>
          have hcur : d.fsm.current = .wifiTransmitFiles := hturn.1.symm
          cases hs
          unfold Device.wifiTransmitFiles
          split
          · cases d.listening <;> exact (outside_plain d.fsm (by decide) (by decide)).sound _
          · exact (outside_transit d.fsm (by decide) fun _ => by rw [hcur]; decide).sound _
      | wifiDisable modules time =>
          cases hs
          unfold Device.wifiDisable
          dsimp only
          split <;> exact (outside_plain d.fsm (by decide) (by decide)).sound _
      | appServicer served =>
          have hcur : d.fsm.current = .appServicer := hturn.1.symm
          cases hs
          cases served with
          | waiting => exact (h.outside (by rw [hcur]; decide)).sound _
          | answered => exact (outside_plain d.fsm (by decide) (by decide)).sound _
          | downloadFile => exact (outside_plain d.fsm (by decide) (by decide)).sound _
          | queryModule => exact (outside_plain d.fsm (by decide) (by decide)).sound _
      | initialized =>
          have hcur : d.fsm.current = .initialized := hturn.1.symm
          cases hs
          exact (outside_transit d.fsm (by decide) fun _ => by rw [hcur]; decide).sound _
      | startSystem =>
          cases hs
          exact (outside_plain (d.fsm.transit _) (by decide) (by decide)).sound _
      | _ =>
          cases hs
          exact (outside_plain d.fsm (by decide) (by decide)).sound _

/-! ## 4. Progress -/

theorem takeLoop_isSome {n : Nat} {rs : List Reading} (h : enough n rs = true) (m : Fsm) :
    ∃ m₁, takeLoop n rs m = some (silent n rs, m₁) := by
  induction rs generalizing n m with
  | nil =>
      cases n with
      | zero => exact ⟨m, rfl⟩
      | succ n => cases h
  | cons r rs ih =>
      cases n with
      | zero => exact ⟨m, rfl⟩
      | succ n =>
          unfold takeLoop silent
          split
          · exact ⟨_, rfl⟩
          · next herror =>
              refine ih ?_ _
              unfold enough at h
              rw [Bool.eq_false_iff.mpr herror] at h
              exact h

/-- `TakeReadings::task` with sound pointers: there is a state to resume. -/
theorem takeReadings_isSome {t : TakeReadings} {m : Fsm} {o : Option State} (h : Sound m o)
    (hcur : m.current = .takeReadings) (hr : Input.Returns (.alive (.takeReadings t))) :
    ∃ m', t.task m = some m' := by
  unfold TakeReadings.task
  split
  · next hmodules =>
      obtain ⟨m₁, hloop⟩ := takeLoop_isSome (hr hmodules) m
      have hn := (takeLoop_went (Nudged.refl m) hloop).1
      obtain ⟨_, _, _, hresume⟩ := h.resume hcur hn
      rw [hloop, Option.bind_some]
      dsimp only
      split
      · exact ⟨_, rfl⟩
      · exact ⟨_, hresume⟩
  · obtain ⟨_, _, _, hresume⟩ := h.resume hcur (.refl m)
    exact ⟨_, hresume⟩

/-- **Where `TakeReadings::task` ends**: it resumes the state that was interrupted, if a module has
    answered, else it reboots. -/
theorem takeReadings_ends {t : TakeReadings} {m m' : Fsm} {p : State} (h : Sound m (some p))
    (hcur : m.current = .takeReadings) (htask : t.task m = some m') :
    (¬ t.Silent → m'.current = p) ∧ (t.Silent → m'.current = .rebootDevice) := by
  have resumed {m₁ : Fsm} (hn : Nudged m m₁) (hend : m₁.resumeState = some m') :
      m'.current = p := by
    obtain ⟨r, _, ho, hresume⟩ := h.resume hcur hn
    cases ho
    cases hend.symm.trans hresume
    rfl
  unfold TakeReadings.task at htask
  split at htask
  · next hmodules =>
      obtain ⟨⟨b, m₁⟩, hloop, htask⟩ := Option.bind_eq_some_iff.mp htask
      obtain ⟨hn, rfl⟩ := takeLoop_went (Nudged.refl m) hloop
      dsimp only at htask
      split at htask
      · next hsilent =>
          cases htask
          exact ⟨fun hne => absurd ⟨hmodules, hsilent⟩ hne, fun _ => rfl⟩
      · next hsilent => exact ⟨fun _ => resumed hn htask, fun hs => absurd hs.2 hsilent⟩
  · next hmodules => exact ⟨fun _ => resumed (.refl m) htask, fun hs => absurd hs.1 hmodules⟩

/-- `Sleep::sleep` with a state to go back to. -/
theorem sleep_isSome {self : State} {m : Fsm} (h : Outside m) (hcur : m.current = self)
    (hb : Returning self) (as : List Alive) : ∃ m', sleep self as m = some m' := by
  have hn := (Nudged.refl m).aliveUntil self as
  unfold sleep
  dsimp only
  split
  · exact ⟨_, rfl⟩
  · obtain ⟨p, hp, _⟩ := h.back hn (hcur ▸ hb)
    exact ⟨_, hp⟩

/-- **A task that calls `alive()` follows no null pointer.** -/
theorem run_isSome {a : Activation} {m : Fsm} {o : Option State} (h : Sound m o)
    (hcur : m.current = a.state) (hr : Input.Returns (.alive a)) : ∃ m', a.run m = some m' := by
  cases a with
  | idle i =>
      show ∃ m', i.task m = some m'
      unfold Idle.task
      dsimp only
      repeat' split
      all_goals exact ⟨_, rfl⟩
  | noModules n =>
      show ∃ m', n.task m = some m'
      unfold NoModules.task
      dsimp only
      rw [if_neg hr]
      repeat' split
      all_goals exact ⟨_, rfl⟩
  | sleep as =>
      have hcur : m.current = .sleep := hcur
      exact sleep_isSome (h.outside (by rw [hcur]; decide)) hcur (by decide) as
  | lowPowerSleep charged as =>
      have hcur : m.current = .lowPowerSleep := hcur
      obtain ⟨m₁, hm₁⟩ := sleep_isSome (h.outside (by rw [hcur]; decide)) hcur (by decide) as
      show ∃ m', lowPowerSleep charged as m = some m'
      unfold lowPowerSleep
      split
      · exact ⟨_, rfl⟩
      · rw [hm₁]
        exact ⟨_, rfl⟩
  | checkPower c =>
      have hcur : m.current = .checkPower := hcur
      obtain ⟨p, hp, _⟩ := (h.outside (by rw [hcur]; decide)).back
        ((Nudged.refl m).alive c.alive) (by rw [hcur]; decide)
      show ∃ m', c.task m = some m'
      unfold CheckPower.task
      dsimp only
      repeat' split
      · exact ⟨_, rfl⟩
      · exact ⟨_, hp⟩
      · exact ⟨_, rfl⟩
  | factoryResetCheck as =>
      show ∃ m', factoryResetCheck as m = some m'
      unfold factoryResetCheck
      dsimp only
      split <;> exact ⟨_, rfl⟩
  | firmwareSelfFlash as => exact ⟨_, rfl⟩
  | liveDataReading as =>
      have hcur : m.current = .liveDataReading := hcur
      obtain ⟨p, hp, _⟩ := (h.outside (by rw [hcur]; decide)).back
        ((Nudged.refl m).aliveLoop as) (by rw [hcur]; decide)
      exact ⟨_, hp⟩
  | scanAttachedDevices s =>
      show ∃ m', s.task m = some m'
      unfold Scan.task
      dsimp only
      repeat' split
      all_goals exact ⟨_, rfl⟩
  | takeReadings t =>
      exact takeReadings_isSome h hcur hr
  | checkFirmware as end_ =>
      have hcur : m.current = .checkFirmware := hcur
      obtain ⟨p, hp, _⟩ := (h.outside (by rw [hcur]; decide)).back
        ((Nudged.refl m).aliveLoop as) (by rw [hcur]; decide)
      cases end_ with
      | failed => exact ⟨_, hp⟩
      | unverified => exact ⟨_, rfl⟩
      | storedPending => exact ⟨_, rfl⟩
      | storedIncoming => exact ⟨_, rfl⟩
  | wifiListening l =>
      show ∃ m', wifiListening l m = some m'
      unfold wifiListening
      split <;> exact ⟨_, rfl⟩
  | wifiCaptiveListening l =>
      show ∃ m', wifiCaptiveListening l m = some m'
      unfold wifiCaptiveListening
      split <;> exact ⟨_, rfl⟩

/-- **With sound pointers every task leads somewhere.** -/
theorem task_isSome {i : Input} (h : Sound d.fsm d.interrupted) (hturn : d.Turn i)
    (hr : i.Returns) : ∃ d', d.task i = some d' := by
  cases i with
  | alive a =>
      have hcur : d.pointers.current = (a.over d).state :=
        hturn.1.symm.trans (Device.state_over a).symm
      have hr' : Input.Returns (.alive (a.over d)) := by
        cases a <;> exact hr
      obtain ⟨m, hm⟩ := run_isSome h.pointers hcur hr'
      show ∃ d', d.alive a = some d'
      unfold Device.alive
      split
      · exact ⟨_, rfl⟩
      · exact ⟨_, Option.map_eq_some_iff.mpr ⟨_, hm, rfl⟩⟩
  | transmitLoraData =>
      have hcur : d.fsm.current = .transmitLoraData := hturn.1.symm
      obtain ⟨p, hp, _⟩ := (h.outside (by rw [hcur]; decide)).back (.refl _)
        (by rw [hcur]; decide)
      exact ⟨_, Option.map_eq_some_iff.mpr ⟨_, hp, rfl⟩⟩
  | wifiTransmitFile =>
      have hcur : d.fsm.current = .wifiTransmitFile := hturn.1.symm
      obtain ⟨p, hp, _⟩ := (h.outside (by rw [hcur]; decide)).back (.refl _)
        (by rw [hcur]; decide)
      exact ⟨_, Option.map_eq_some_iff.mpr ⟨_, hp, rfl⟩⟩
  | _ => exact ⟨_, rfl⟩

theorem run_sound {tr : List (Device × Event)} (h : Run Device.step {} tr d)
    (hC : Meets Apart tr) : Sound d.fsm d.interrupted :=
  h.inv_meets Apart (fun d => Sound d.fsm d.interrupted) sound_boot
    (fun _ _ _ hi hC hs => step_sound hi hC hs) hC

/-- **No task follows a null pointer**, in every run in which live data and readings are apart: whatever
    task has its turn, with whatever it reads, the device goes on. -/
theorem never_null {tr : List (Device × Event)} (h : Run Device.step {} tr d)
    (hC : Meets Apart tr) {i : Input} (hturn : d.Turn i) (hr : i.Returns) :
    ∃ d', d.step (.task i) = some d' := by
  obtain ⟨d', hd'⟩ := task_isSome (run_sound h hC) hturn hr
  refine ⟨d', ?_⟩
  unfold Device.step
  dsimp only
  rw [if_pos hturn]
  exact hd'

/-- **Only a task that lets the scheduler in begins a cycle**, and the device keeps where. -/
theorem interrupted_of_begun {i : Input} (h : Sound d.fsm d.interrupted)
    (hs : d.step (.task i) = some d') (hbegun : d'.fsm.current = .beginGatherReadings) :
    d'.interrupted = some d.fsm.current := by
  obtain ⟨hturn, hs⟩ := Device.step_task hs
  cases i with
  | alive a =>
      rcases Device.task_went hturn hs with rfl | ⟨m, _, rfl⟩
      · cases hbegun
      · have hm : m.current = .beginGatherReadings := hbegun
        unfold Device.moved
        dsimp only
        rw [if_pos hm, Device.members_fsm]
  | transmitLoraData =>
      have hcur : d.fsm.current = .transmitLoraData := hturn.1.symm
      obtain ⟨fsm, hback, rfl⟩ := Option.map_eq_some_iff.mp hs
      have hout := (h.outside (by rw [hcur]; decide)).back_of (.refl _) (by rw [hcur]; decide) hback
      exact absurd (Or.inl hbegun) hout.cycle
  | wifiTransmitFile =>
      have hcur : d.fsm.current = .wifiTransmitFile := hturn.1.symm
      obtain ⟨fsm, hback, rfl⟩ := Option.map_eq_some_iff.mp hs
      have hout := (h.outside (by rw [hcur]; decide)).back_of (.refl _) (by rw [hcur]; decide) hback
      exact absurd (Or.inl hbegun) hout.cycle
  | turnOff e =>
      have hcur : d.fsm.current = .turnOff := hturn.1.symm
      cases hs
      have hout := (h.outside (by rw [hcur]; decide)).nudged ((Nudged.refl d.fsm).button_event e)
      exact absurd (Or.inl hbegun) hout.cycle
  | rebootDevice console =>
      cases hs
      cases console <;> cases hbegun
  | wifiStartup begun internet =>
      cases hs
      unfold Device.wifiStartup at hbegun
      dsimp only at hbegun
      split at hbegun
      · split at hbegun <;> cases hbegun
      · split at hbegun <;> cases hbegun
  | wifiTryNetwork settings connected =>
      cases hs
      unfold Device.wifiTryNetwork at hbegun
      repeat' split at hbegun
      all_goals cases hbegun
  | wifiCreateAp created =>
      cases hs
      cases created <;> cases hbegun
  | checkAllAttachedFirmware n =>
      cases hs
      unfold Device.checkAllAttachedFirmware at hbegun
      repeat' split at hbegun
      all_goals cases hbegun
  | wifiTransmitFiles =>
      cases hs
      unfold Device.wifiTransmitFiles at hbegun
      split at hbegun
      · cases hl : d.listening <;> rw [hl] at hbegun <;> cases hbegun
      · cases hbegun
  | wifiDisable modules time =>
      cases hs
      unfold Device.wifiDisable at hbegun
      dsimp only at hbegun
      split at hbegun <;> cases hbegun
  | appServicer served =>
      have hcur : d.fsm.current = .appServicer := hturn.1.symm
      cases hs
      cases served with
      | waiting => exact nomatch hcur.symm.trans hbegun
      | _ => cases hbegun
  | _ =>
      cases hs
      cases hbegun

/-- The states of a cycle in their order. -/
def cycleState : Nat → State
  | 0 => .beginGatherReadings
  | 1 => .takeGpsReading
  | _ => .takeReadings

/-- A cycle that has interrupted `p` is under way; `n` of its tasks are done. -/
structure Underway (p : State) (n : Nat) (d : Device) : Prop where
  stage : n ≤ 2
  current : d.fsm.current = cycleState n
  sound : Sound d.fsm d.interrupted
  interrupted : d.interrupted = some p

theorem Underway.cycle {p : State} {n : Nat} (h : Underway p n d) : Cycle d.fsm.current := by
  rw [h.current]
  match n with
  | 0 => exact Or.inl rfl
  | 1 => exact Or.inr (Or.inl rfl)
  | _ + 2 => exact Or.inr (Or.inr rfl)

/-- **One task of a cycle**: the next one comes, or the cycle has ended. -/
theorem underway_step {p : State} {n : Nat} (h : Underway p n d) {e : Event} (he : e ≠ .reset)
    (hs : d.step e = some d') :
    (n + 1 ≤ 2 ∧ Underway p (n + 1) d') ∨
    (n = 2 ∧ ∃ t, e = aliveTask (.takeReadings t) ∧ (¬ t.Silent → d'.fsm.current = p) ∧
      (t.Silent → d'.fsm.current = .rebootDevice)) := by
  obtain ⟨hle, hcur, hsound, ho⟩ := h
  cases e with
  | reset => exact absurd rfl he
  | task i =>
      obtain ⟨hturn, htask⟩ := Device.step_task hs
      have hstate : i.state = cycleState n := hturn.1.trans hcur
      have hnext (hserve : (Event.task i).serve = none) : Sound d'.fsm d'.interrupted :=
        step_sound hsound (fun s hs => nomatch hserve.symm.trans hs) hs
      match n, hle with
      | 0, _ =>
          cases i with
          | beginGatherReadings =>
              cases htask
              exact Or.inl ⟨by decide, by decide, rfl, hnext rfl, ho⟩
          | alive a => cases a <;> cases hstate
          | _ => cases hstate
      | 1, _ =>
          cases i with
          | takeGpsReading =>
              cases htask
              exact Or.inl ⟨by decide, by decide, rfl, hnext rfl, ho⟩
          | alive a => cases a <;> cases hstate
          | _ => cases hstate
      | 2, _ =>
          cases i with
          | alive a =>
              cases a with
              | takeReadings t =>
                  obtain ⟨m, hm, rfl⟩ := Option.map_eq_some_iff.mp htask
                  have hm : t.task d.pointers = some m := hm
                  have hsound : Sound d.fsm (some p) := ho ▸ hsound
                  exact Or.inr ⟨rfl, t, rfl, takeReadings_ends hsound.pointers hcur hm⟩
              | _ => cases hstate
          | _ => cases hstate

/-- **Every cycle of readings ends in the state that it has interrupted**, in such a run: one that
    listens to the scheduler. It has three tasks, each of which leads on if it returns; only a cycle
    in which no module has answered ends elsewhere, in RebootDevice. -/
theorem cycle_resumes {tr tr' : List (Device × Event)} (h : Run Device.step {} tr d)
    (hC : Meets Apart tr) {i : Input} (hi : Apart d (.task i)) {d₁ : Device}
    (hbegin : d.step (.task i) = some d₁) (hbegun : d₁.fsm.current = .beginGatherReadings)
    (hrun : Run Device.step d₁ tr' d') (hcycle : Meets InCycle tr') :
    Listener d.fsm.current ∧ tr'.length ≤ 3 ∧
    ((Cycle d'.fsm.current ∧
        ∀ i, d'.Turn i → i.Returns → ∃ d'', d'.step (.task i) = some d'') ∨
      ∃ t, (tr'.map (·.2)).getLast? = some (aliveTask (.takeReadings t)) ∧
        (¬ t.Silent → d'.fsm.current = d.fsm.current) ∧
        (t.Silent → d'.fsm.current = .rebootDevice)) := by
  have hsound := run_sound h hC
  have hsound₁ := step_sound hsound hi hbegin
  have ho := interrupted_of_begun hsound hbegin hbegun
  obtain ⟨p, _, hl, hp⟩ := hsound₁.begun hbegun
  obtain rfl : d.fsm.current = p := Option.some.inj (ho.symm.trans hp)
  have hwhole : (tr'.length ≤ 2 ∧ Underway d.fsm.current tr'.length d') ∨
      (tr'.length = 3 ∧ ¬ Cycle d'.fsm.current ∧
        ∃ t, (tr'.map (·.2)).getLast? = some (aliveTask (.takeReadings t)) ∧
          (¬ t.Silent → d'.fsm.current = d.fsm.current) ∧
          (t.Silent → d'.fsm.current = .rebootDevice)) := by
    induction hrun with
    | start => exact Or.inl ⟨by decide, by decide, hbegun, hsound₁, ho⟩
    | step tr₁ s e s' _ hs ih =>
        obtain ⟨hcycle, hin, he⟩ := (meets_concat InCycle tr₁ s e).mp hcycle
        rw [List.length_append, List.length_singleton, List.map_append, List.map_singleton,
          List.getLast?_concat]
        rcases ih hcycle with ⟨_, hway⟩ | ⟨_, hout, _⟩
        · rcases underway_step hway he hs with ⟨hlt, hway⟩ | ⟨hn, t, rfl, hend, hreboot⟩
          · exact Or.inl ⟨hlt, hway⟩
          · refine Or.inr ⟨by rw [hn], ?_, t, rfl, hend, hreboot⟩
            by_cases hsilent : t.Silent
            · rw [hreboot hsilent]
              decide
            · rw [hend hsilent]
              exact hl.not_cycle
        · exact absurd hin hout
  rcases hwhole with ⟨hle, hway⟩ | ⟨hlen, _, hend⟩
  · refine ⟨hl, by omega, Or.inl ⟨hway.cycle, fun i hturn hr => ?_⟩⟩
    obtain ⟨d'', hd''⟩ := task_isSome hway.sound hturn hr
    refine ⟨d'', ?_⟩
    unfold Device.step
    dsimp only
    rw [if_pos hturn]
    exact hd''
  · exact ⟨hl, by omega, Or.inr hend⟩

end Device

/-! ## 5. Runs -/

/-- The scheduler begins a cycle there; `live` says that live data are due as well. -/
def listens (live : Bool) : Event :=
  aliveTask (.wifiListening {
    time := 0, began := 0, now := 0
    serve := {
      listen := false, alive := {}, scheduled := [some .beginGatherReadings]
      readyForReading := live } })

/-- No sensor module is attached. -/
def skips : TakeReadings := { hasSensorModules := false, remaining := 0, readings := [] }

/-- The cycle up to `TakeReadings`. -/
def toReadings : List Event := [.task .beginGatherReadings, .task .takeGpsReading]

/-- **Live data and readings due at once**: the cycle resumes LiveDataReading, that goes back to
    TakeReadings, and there is nothing left to resume. -/
theorem coincidence_fatal : ∃ tr d, Run Device.step {} tr d ∧
    d.Turn (.alive (.takeReadings skips)) ∧ Input.Returns (.alive (.takeReadings skips)) ∧
      d.step (aliveTask (.takeReadings skips)) = none := by
  have hexec : (exec Device.step {} (toListening ++ [listens true, aliveTask (.liveDataReading [])] ++
      toReadings ++ [aliveTask (.takeReadings skips), aliveTask (.liveDataReading [])])).map
        (fun d => (decide (d.Turn (.alive (.takeReadings skips))),
          d.step (aliveTask (.takeReadings skips)))) = some (true, none) := by
    decide +kernel
  obtain ⟨tr, d, hrun, hd⟩ := run_of_exec_map hexec
  obtain ⟨hturn, hnone⟩ := Prod.mk.inj hd
  exact ⟨tr, d, hrun, of_decide_eq_true hturn, nofun, hnone⟩

/-- A run whose steps keep them apart, up to `TakeReadings`. -/
theorem apart_readings : ∃ tr d, Run Device.step {} tr d ∧ Meets Apart tr ∧
    d.Turn (.alive (.takeReadings skips)) := by
  have hexec : (exec (guarded Apart Device.step) {} (toListening ++ [listens false] ++
      toReadings)).map (fun d => decide (d.Turn (.alive (.takeReadings skips)))) = some true := by
    decide +kernel
  obtain ⟨tr, d, hrun, hturn⟩ := run_of_exec_map hexec
  obtain ⟨hrun, hC⟩ := hrun.of_guarded
  exact ⟨tr, d, hrun, hC, of_decide_eq_true hturn⟩

/-- `TakeReadings` goes on there. -/
theorem never_null_reading : ∃ tr d d', Run Device.step {} tr d ∧
    d.step (aliveTask (.takeReadings skips)) = some d' := by
  obtain ⟨tr, d, hrun, hC, hturn⟩ := apart_readings
  obtain ⟨d', hd'⟩ := never_null hrun hC hturn nofun
  exact ⟨tr, d, d', hrun, hd'⟩

/-- And it resumes where the cycle was begun. -/
theorem cycle_resumes_listening : ∃ tr tr' d d₁ d', Run Device.step {} tr d ∧
    d.step (listens false) = some d₁ ∧ Run Device.step d₁ tr' d' ∧ tr'.length = 3 ∧
    d'.fsm.current = d.fsm.current := by
  have hexec : (exec (guarded Apart Device.step) {} toListening).map (fun d =>
      (decide (Apart d (listens false)), ((d.step (listens false)).map fun d₁ =>
        (d₁.fsm.current, ((exec (guarded InCycle Device.step) d₁
          (toReadings ++ [aliveTask (.takeReadings skips)])).map (·.fsm.current)))))) =
      some (true, some (.beginGatherReadings, some .wifiListening)) := by decide +kernel
  obtain ⟨tr, d, hrun, hd⟩ := run_of_exec_map hexec
  obtain ⟨hrun, hC⟩ := hrun.of_guarded
  obtain ⟨hi, hd⟩ := Prod.mk.inj hd
  obtain ⟨d₁, hbegin, hd₁⟩ := Option.map_eq_some_iff.mp hd
  obtain ⟨hbegun, hend⟩ := Prod.mk.inj hd₁
  obtain ⟨d', hexec', hcur⟩ := Option.map_eq_some_iff.mp hend
  obtain ⟨tr', hrun', hinputs⟩ := run_of_exec hexec'
  obtain ⟨hrun', hcycle⟩ := hrun'.of_guarded
  have hlen : tr'.length = 3 := by
    rw [← List.length_map (·.2), hinputs]
    rfl
  obtain ⟨_, _, ⟨hstill, _⟩ | ⟨t, ht, hback, _⟩⟩ :=
    cycle_resumes hrun hC (of_decide_eq_true hi) hbegin hbegun hrun' hcycle
  · rw [hcur] at hstill
    exact absurd hstill (by decide)
  · have hlast : aliveTask (.takeReadings skips) = aliveTask (.takeReadings t) :=
      Option.some.inj ((congrArg List.getLast? hinputs).symm.trans ht)
    obtain rfl := Activation.takeReadings.inj (Input.alive.inj (Event.task.inj hlast))
    exact ⟨tr, tr', d, d₁, d', hrun, hbegin, hrun', hlen, hback fun hsilent => nomatch hsilent.1⟩

end FieldKit.CoreDevice

/-
  File:      FieldKit/Core/Power.lean
  Subject:   `Power::task` (power_management.cpp): from the voltage of the gauge to the status of
             the battery, and what `CheckPower::task` makes of it.

  Voltages and percentages are rationals. The loop over `naive_map` is an interpolation between its
  entries; the flag that a battery is attached goes through it untouched.

  * `estimate_eq` -- what the loop comes to at every voltage;
  * `percentage_bounds`, `percentage_mono`, `percentage_table` -- the percentage is as it should be;
  * `drives_iff` -- the status drives the sleep exactly below the voltage of a battery;
  * `checkPower_sleeps_iff` -- when `CheckPower` goes to sleep, for every status.
-/
import Mathlib.Data.Rat.Cast.Order
import Mathlib.Tactic.NormNum
import FieldKit.Core.Fsm
import FieldKit.Lib.Interpolation

namespace FieldKit

open Lib

/-! ## 1. The percentage -/

/-- `MapEntry`. -/
structure MapEntry where
  p : ℚ
  mv : ℚ
  deriving DecidableEq, Repr

/-- `naive_map`. -/
def naiveMap : List MapEntry :=
  [⟨0, 3500⟩, ⟨1 / 10, 3570⟩, ⟨2 / 10, 3640⟩, ⟨3 / 10, 3710⟩, ⟨4 / 10, 3780⟩, ⟨5 / 10, 3850⟩,
    ⟨6 / 10, 3920⟩, ⟨7 / 10, 3990⟩, ⟨8 / 10, 4060⟩, ⟨9 / 10, 4130⟩, ⟨1, 4200⟩]

/-- The loop over `naive_map`, behind the entry `before`, with the two variables it sets. -/
def estimateFrom (voltage : ℚ) (before : Option MapEntry) (attached : Bool) (percentage : ℚ) :
    List MapEntry → Bool × ℚ
  | [] => (attached, percentage)
  | e :: rest =>
    if voltage < e.mv then
      match before with
      | none => (false, 0)
      | some start =>
        let f := (voltage - start.mv) / (e.mv - start.mv)
        (attached, ((e.p - start.p) * f + start.p) * 100)
    else estimateFrom voltage (some e) attached (e.p * 100) rest

/-- Whether a battery is attached, and its percentage. -/
def estimate (voltage : ℚ) : Bool × ℚ := estimateFrom voltage none false 0 naiveMap

/-! ## 2. The poll -/

/-- `BatteryReading`. -/
structure BatteryReading where
  voltage : ℚ
  ma : ℚ
  coulombs : ℚ
  deriving DecidableEq, Repr

/-- `reliable()`. -/
def BatteryReading.reliable (r : BatteryReading) : Bool :=
  decide (3000 ≤ r.voltage ∧ r.voltage < 5000)

/-- `BatteryStatus`. -/
structure BatteryStatus where
  attached : Bool
  low : Bool
  ok : Bool
  voltage : ℚ
  coulombs : ℚ
  delta : ℚ
  percentage : ℚ
  ma : ℚ
  deriving DecidableEq, Repr

/-- `BatteryLowPowerSleepThreshold` of tuning.h. -/
def batteryLowPowerSleepThreshold : ℚ := 10

/-- `BatteryLowPowerResumeThreshold` of tuning.h. -/
def batteryLowPowerResumeThreshold : ℚ := 30

/-- `PowerManagementQueryInterval` of tuning.h. -/
def powerManagementQueryInterval : Uptime := 30 * seconds

/-- `PowerManagementAlertInterval` of tuning.h. -/
def powerManagementAlertInterval : Uptime := 1 * minutes

/-- `Power`. -/
structure Power where
  available : Bool := false
  reliable : Bool := false
  queryTime : Uptime := 0
  lastAlert : Uptime := 0
  status : BatteryStatus
  deriving DecidableEq, Repr

/-- What one poll reads from `fk_uptime()`, in the order in which it asks: against `query_time_`,
    against `last_alert_`, for `last_alert_`, for `query_time_`. -/
structure PowerClock where
  checked : Uptime
  alerting : Uptime
  alerted : Uptime
  armed : Uptime
  deriving DecidableEq, Repr

/-- What a poll leaves: the status it hands to `updateBattery`, and whether it sends a low power
    event. -/
structure PowerPoll where
  power : Power
  updated : Option BatteryStatus := none
  lowPowerEvent : Bool := false
  deriving DecidableEq, Repr

namespace Power

/-- It is time to read the gauge. -/
def due (now : Uptime) (p : Power) : Bool := decide (p.queryTime < now)

/-- The status made of a reading. -/
def update (reading : BatteryReading) (p : Power) : BatteryStatus :=
  let percentage := (estimate reading.voltage).2
  { attached := (estimate reading.voltage).1
    low := decide (percentage < batteryLowPowerSleepThreshold)
    ok := decide (batteryLowPowerResumeThreshold < percentage)
    voltage := reading.voltage
    coulombs := reading.coulombs
    delta := if p.queryTime = 0 then 0 else reading.coulombs - p.status.coulombs
    percentage := percentage
    ma := reading.ma }

/-- `Power::task`, with `interval` for `PowerManagementQueryInterval`; `sleeping` is the
    configuration's `low_power`. -/
def taskEvery (interval : Uptime) (sleeping : Bool) (c : PowerClock) (reading : BatteryReading)
    (p : Power) : PowerPoll :=
  if p.due c.checked then
    if p.available then
      let status := p.update reading
      let alert := decide (powerManagementAlertInterval < c.alerting - p.lastAlert)
      { power := { p with
          status := status
          reliable := reading.reliable
          lastAlert := if alert then c.alerted else p.lastAlert
          queryTime := c.armed + interval }
        updated := some status
        lowPowerEvent := alert && status.low && sleeping }
    else { power := { p with queryTime := c.armed + interval } }
  else { power := p }

/-- `Power::task`. -/
def task : Bool → PowerClock → BatteryReading → Power → PowerPoll :=
  taskEvery powerManagementQueryInterval

end Power

/-- `CheckPower::task` reads the status that `Power` has. -/
def BatteryStatus.check (status : BatteryStatus) (lowPower console visited : Bool)
    (alive : CoreDevice.Alive) : CoreDevice.CheckPower :=
  { alive := alive
    low := status.low
    lowPower := lowPower
    attached := status.attached
    console := console
    visited := visited }

/-! ## 3. The percentage at every voltage -/

/-- An entry, as a point of the table. -/
def MapEntry.point (e : MapEntry) : ℚ × ℚ := (e.mv, e.p)

/-- The first entry of `naive_map`: a voltage below it is none of a battery. -/
def MapEntry.empty : MapEntry := ⟨0, 3500⟩

namespace Power

theorem estimateFrom_some (v : ℚ) (start : MapEntry) (attached : Bool) (rest : List MapEntry) :
    estimateFrom v (some start) attached (start.p * 100) rest =
      (attached, interpolateFrom start.point (rest.map MapEntry.point) v * 100) := by
  induction rest generalizing start with
  | nil => rfl
  | cons e rest ih =>
      rw [estimateFrom, List.map_cons, interpolateFrom]
      show (if v < e.mv then _ else _) = (attached, (if v < e.mv then _ else _) * 100)
      split
      · rfl
      · exact ih e

/-- The entries behind the first one, as points. -/
def points : List (ℚ × ℚ) := naiveMap.tail.map MapEntry.point

/-- The loop, in one line. -/
theorem estimate_eq (v : ℚ) :
    estimate v = (false, if v < 3500 then 0 else interpolateFrom MapEntry.empty.point points v * 100) := by
  show (if v < 3500 then (false, 0) else estimateFrom v (some MapEntry.empty) false
    (MapEntry.empty.p * 100) naiveMap.tail) = _
  rw [estimateFrom_some]
  split <;> rfl

/-- The entries go up. -/
theorem points_rise : Rises (MapEntry.empty.point :: points) := by
  unfold Rises points naiveMap MapEntry.empty MapEntry.point
  simp only [List.tail_cons, List.map_cons, List.map_nil, List.isChain_cons_cons,
    List.isChain_singleton]
  norm_num

theorem percentage_bounds (v : ℚ) : 0 ≤ (estimate v).2 ∧ (estimate v).2 ≤ 100 := by
  rw [estimate_eq]
  dsimp only
  split
  · norm_num
  · next hge =>
      obtain ⟨hlow, hhigh⟩ := interpolateFrom_bounds points_rise (not_lt.mp hge)
      have hfirst : MapEntry.empty.point.2 = 0 := rfl
      have hlast : ((MapEntry.empty.point :: points).getLast (by simp)).2 = 1 := rfl
      rw [hfirst] at hlow
      rw [hlast] at hhigh
      constructor <;> linarith

theorem percentage_mono {v w : ℚ} (hvw : v ≤ w) : (estimate v).2 ≤ (estimate w).2 := by
  by_cases hv : v < 3500
  · have hzero : (estimate v).2 = 0 := by
      rw [estimate_eq]
      exact if_pos hv
    rw [hzero]
    exact (percentage_bounds w).1
  · have hw : ¬ w < 3500 := fun h => hv (lt_of_le_of_lt hvw h)
    rw [estimate_eq, estimate_eq]
    dsimp only
    rw [if_neg hv, if_neg hw]
    have hmono := interpolateFrom_mono points_rise (not_lt.mp hv) hvw
    linarith

theorem percentage_table {e : MapEntry} (he : e ∈ naiveMap) : (estimate e.mv).2 = e.p * 100 := by
  have hmem : e.point ∈ MapEntry.empty.point :: points := List.mem_map_of_mem he
  have hge : ¬ e.mv < 3500 := by
    rcases List.mem_cons.mp hmem with heq | hrest
    · rw [show e.mv = 3500 from congrArg Prod.fst heq]
      exact lt_irrefl _
    · exact not_lt.mpr (points_rise.lt_of_mem hrest).le
  rw [estimate_eq]
  dsimp only
  rw [if_neg hge]
  exact congrArg (· * 100) (interpolateFrom_mem points_rise hmem)

/-! ## 4. The status drives the sleep -/

/-- A poll that reads `v` leaves this status. -/
def Computes (v : ℚ) (status : BatteryStatus) : Prop :=
  ∃ (sleeping : Bool) (c : PowerClock) (reading : BatteryReading) (p : Power),
    p.due c.checked = true ∧ p.available = true ∧ reading.voltage = v ∧
      (task sleeping c reading p).power.status = status

theorem Computes.fields {v : ℚ} {status : BatteryStatus} (h : Computes v status) :
    status.attached = false ∧ status.percentage = (estimate v).2 ∧
      status.low = decide ((estimate v).2 < 10) := by
  obtain ⟨sleeping, c, reading, p, hdue, havailable, rfl, rfl⟩ := h
  rw [task, taskEvery, if_pos hdue, if_pos havailable]
  refine ⟨?_, rfl, rfl⟩
  show (estimate reading.voltage).1 = false
  rw [estimate_eq]

/-- What the status of a voltage is for. -/
structure Drives (v : ℚ) : Prop where
  /-- There is a battery from 3500 on. -/
  attached : ∀ status, Computes v status → (status.attached = true ↔ 3500 ≤ v)
  range : ∀ status, Computes v status → 0 ≤ status.percentage ∧ status.percentage ≤ 100
  mono : ∀ w status status', v ≤ w → Computes v status → Computes w status' →
    status.percentage ≤ status'.percentage
  table : ∀ e ∈ naiveMap, e.mv = v → ∀ status, Computes v status → status.percentage = e.p * 100
  /-- `CheckPower` goes to sleep for a battery that is low. What it goes back to is not that. -/
  sleeps : ∀ status, Computes v status → ∀ (visited : Bool) (alive : CoreDevice.Alive)
    (m m' : CoreDevice.Fsm), m.current = .checkPower → m.previous ≠ some .lowPowerSleep →
      (status.check true false visited alive).task m = some m' →
        (m'.current = .lowPowerSleep ↔ 3500 ≤ v ∧ status.percentage < 10)

theorem previous_alive {m : CoreDevice.Fsm} (hcur : m.current = .checkPower)
    (hprevious : m.previous ≠ some .lowPowerSleep) (a : CoreDevice.Alive) :
    (m.alive a).previous ≠ some .lowPowerSleep := by
  have hlow : (if a.lowPower then m.lowPower a.console else m) = m := by
    unfold CoreDevice.Fsm.lowPower
    rw [hcur]
    exact ite_self m
  unfold CoreDevice.Fsm.alive
  rw [hlow]
  dsimp only
  split
  · unfold CoreDevice.Fsm.button
    split
    · show some m.current ≠ some .lowPowerSleep
      rw [hcur]
      decide
    · exact hprevious
  · exact hprevious

/-- **When `CheckPower` goes to sleep**, whatever the status says: with a battery that is low and attached,
    where the configuration has it so and no console is attached. -/
theorem checkPower_sleeps_iff {c : CoreDevice.CheckPower} {m m' : CoreDevice.Fsm}
    (hcur : m.current = .checkPower) (hprevious : m.previous ≠ some .lowPowerSleep)
    (h : c.task m = some m') :
    m'.current = .lowPowerSleep ↔
      c.low = true ∧ c.lowPower = true ∧ c.attached = true ∧ c.console = false := by
  unfold CoreDevice.CheckPower.task at h
  dsimp only at h
  split at h
  · next hsleeps =>
      cases h
      exact iff_of_true rfl hsleeps
  · next hskip =>
      refine iff_of_false ?_ hskip
      split at h
      · obtain ⟨state, hstate, rfl⟩ := Option.map_eq_some_iff.mp h
        intro hsleep
        refine previous_alive hcur hprevious c.alive ?_
        rw [hstate]
        exact congrArg some hsleep
      · cases h
        exact CoreDevice.State.noConfusion

/-- What goes with the flag not set. -/
theorem drives_of_lt {v : ℚ} (hv : v < 3500) : Drives v where
  attached status h := by
    rw [h.fields.1]
    exact ⟨fun hset => absurd hset Bool.false_ne_true, fun hge => absurd hv (not_lt.mpr hge)⟩
  range status h := by
    rw [h.fields.2.1]
    exact percentage_bounds v
  mono w status status' hvw h h' := by
    rw [h.fields.2.1, h'.fields.2.1]
    exact percentage_mono hvw
  table e he heq status h := by
    rw [h.fields.2.1, ← heq]
    exact percentage_table he
  sleeps status h visited alive m m' hcur hprevious hm :=
    ⟨fun hsleep => absurd ((checkPower_sleeps_iff hcur hprevious hm).mp hsleep).2.2.1
        (Bool.eq_false_iff.mp h.fields.1),
      fun hboth => absurd hv (not_lt.mpr hboth.1)⟩

/-- A first poll that finds the gauge. -/
def firstPower : Power where
  available := true
  status := ⟨false, false, false, 0, 0, 0, 0, 0⟩

/-- Every voltage is read by some poll. -/
theorem exists_computes (v : ℚ) : ∃ status, Computes v status :=
  ⟨_, false, ⟨1, 1, 1, 1⟩, ⟨v, 0, 0⟩, firstPower, rfl, rfl, rfl, rfl⟩

/-- A battery is not seen. -/
theorem not_drives {v : ℚ} (hv : 3500 ≤ v) : ¬ Drives v := by
  intro h
  obtain ⟨status, hstatus⟩ := exists_computes v
  have hset := (h.attached status hstatus).mpr hv
  rw [hstatus.fields.1] at hset
  exact Bool.false_ne_true hset

/-- **The status drives the sleep exactly where there is no battery.** -/
theorem drives_iff (v : ℚ) : Drives v ↔ v < 3500 := by
  constructor
  · intro h
    exact lt_of_not_ge fun hge => not_drives hge h
  · exact drives_of_lt

/-- A battery of 3510 mV, with less than two percent left, is not seen. -/
theorem battery_unseen : ¬ Drives 3510 := not_drives (by norm_num)

end Power

end FieldKit

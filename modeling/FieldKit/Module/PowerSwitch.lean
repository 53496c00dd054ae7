/-
  File:      FieldKit/Module/PowerSwitch.lean
  Subject:   `PowerSwitch` and `ModuleHardware` (hardware.cpp): the power of the SPI bus, counted by
             those who hold it and switched off with a delay.

  The last release leaves the count at one and arms a time to switch off; whoever polls behind that
  time does it. `SpiEnabler` takes in its constructor and releases in its destructor, so that there
  is no release without a take before it.

  * `held_iff` -- in which runs the power is never cut while somebody holds it, nor too early;
  * `held_plain` -- without a minimum time and a touch, in every run;
  * `cut_while_held` -- a run in which a take during the delay does not stop it.
-/
import FieldKit.Lib.Run
import FieldKit.Platform

namespace FieldKit

open Lib

/-! ## 1. The switch -/

/-- `PowerSwitch`. -/
structure PowerSwitch where
  refs : BitVec 8 := 0
  timeOn : Uptime := 0
  timeOff : Uptime := 0
  minimumOn : BitVec 16 := 0
  deriving DecidableEq, Repr

namespace PowerSwitch

/-- `on()`. -/
def on (s : PowerSwitch) : Bool := decide (0 < s.timeOn)

/-- `has_been_on_for(time)`. -/
def hasBeenOnFor (now time : Uptime) (s : PowerSwitch) : Bool :=
  s.on && decide (time < now - s.timeOn)

/-- `minimum_on_`, as a time. -/
def minimum (s : PowerSwitch) : Uptime := s.minimumOn.zeroExtend 32

/-- `take()`, with whether it switched on. -/
def take (now : Uptime) (s : PowerSwitch) : Bool × PowerSwitch :=
  if s.refs = 0 then (true, { s with timeOn := now, timeOff := 0, refs := s.refs + 1 })
  else (false, { s with refs := s.refs + 1 })

/-- What `release` and `task` leave when they report that it is switched off. -/
def released (s : PowerSwitch) : PowerSwitch := { s with timeOn := 0, timeOff := 0, refs := 0 }

/-- `release()`, with its report. -/
def release (now : Uptime) (s : PowerSwitch) : Bool × PowerSwitch :=
  if 0 < s.refs then
    if s.refs = 1 then
      if 0 < s.timeOff then
        if s.timeOff < now then (true, s.released) else (false, s)
      else if 0 < s.minimumOn then (false, { s with timeOff := s.timeOn + s.minimum })
      else (true, s.released)
    else (false, { s with refs := s.refs - 1 })
  else (false, s)

/-- `task()`, with its report. -/
def task (now : Uptime) (s : PowerSwitch) : Bool × PowerSwitch :=
  if 0 < s.timeOff ∧ s.timeOff < now then (true, s.released) else (false, s)

/-- `touch()`. -/
def touch (now : Uptime) (s : PowerSwitch) : PowerSwitch := { s with timeOff := now + s.minimum }

end PowerSwitch

/-- `ModuleHardware`, with whether the board's SPI power is on. -/
structure ModuleHardware where
  spiPower : PowerSwitch := {}
  spiOn : Bool := false
  deriving DecidableEq, Repr

namespace ModuleHardware

/-- `spi_take()`. -/
def spiTake (now : Uptime) (m : ModuleHardware) : ModuleHardware :=
  let (taken, spiPower) := m.spiPower.take now
  { spiPower, spiOn := if taken then true else m.spiOn }

/-- `spi_release()`, with what the switch reports. -/
def spiRelease (now : Uptime) (m : ModuleHardware) : Bool × ModuleHardware :=
  let (released, spiPower) := m.spiPower.release now
  (released, { spiPower, spiOn := if released then false else m.spiOn })

/-- `task()`, with what the switch reports. -/
def task (now : Uptime) (m : ModuleHardware) : Bool × ModuleHardware :=
  let (released, spiPower) := m.spiPower.task now
  (released, { spiPower, spiOn := if released then false else m.spiOn })

end ModuleHardware

/-! ## 2. The machine -/

namespace SpiPower

/-- The hardware; how many hold the power, and the last reading of the clock. -/
structure Power where
  hardware : ModuleHardware
  holders : Nat := 0
  clock : Uptime := 0
  deriving DecidableEq, Repr

/-- What can be asked of the switch. -/
inductive Op where
  | take
  | release
  | task
  | touch
  deriving DecidableEq, Repr

/-- What is asked, and when. -/
abbrev Input := Op × Uptime

/-- What one call does, and whether it reports that the power is switched off. -/
def call (s : Power) : Input → Bool × Power
  | (.take, now) =>
    (false, ⟨s.hardware.spiTake now, s.holders + 1, now⟩)
  | (.release, now) =>
    let (released, hardware) := s.hardware.spiRelease now
    (released, ⟨hardware, s.holders - 1, now⟩)
  | (.task, now) =>
    let (released, hardware) := s.hardware.task now
    (released, ⟨hardware, s.holders, now⟩)
  | (.touch, now) =>
    (false, ⟨{ s.hardware with spiPower := s.hardware.spiPower.touch now }, s.holders, now⟩)

/-- The clock does not go back and is not 0; fewer than 256 hold the power, and nobody releases it
    who does not hold it. -/
def Allowed (s : Power) (i : Input) : Prop :=
  i.2 ≠ 0 ∧ s.clock ≤ i.2 ∧ (i.1 = .take → s.holders + 1 < 256) ∧ (i.1 = .release → 0 < s.holders)

instance (s : Power) (i : Input) : Decidable (Allowed s i) :=
  inferInstanceAs (Decidable (_ ∧ _ ∧ _ ∧ _))

def step (s : Power) (i : Input) : Option Power :=
  if Allowed s i then some (call s i).2 else none

/-- Off, with this minimum time. -/
def initial (minimumOn : BitVec 16) : Power := { hardware := { spiPower := { minimumOn } } }

/-! ## 3. The property and its condition -/

/-- It has been on for its minimum time. -/
def Served (s : PowerSwitch) (now : Uptime) : Prop := s.timeOn.toNat + s.minimumOn.toNat ≤ now.toNat

/-- The time to switch off is set, and over. -/
def Expired (s : PowerSwitch) (now : Uptime) : Prop := 0 < s.timeOff ∧ s.timeOff < now

/-- **Behind this call the power is on while somebody holds it**, and if it was switched off, then
    not before its minimum time. -/
def Held (s : Power) (i : Input) : Prop :=
  (0 < (call s i).2.holders →
      (call s i).2.hardware.spiPower.on = true ∧ (call s i).2.hardware.spiOn = true) ∧
    ((call s i).1 = true → (call s i).2.holders = 0 ∧
      (s.hardware.spiPower.on = true → Served s.hardware.spiPower i.2))

/-- The condition: `task` does not find the time to switch off over while somebody holds the power,
    or before the minimum time is; and a `release` that finds the count at one, and nothing to
    wait for, is the last, and not before the minimum time. -/
def Sound (s : Power) : Input → Prop
  | (.take, _) => True
  | (.release, now) => s.hardware.spiPower.refs = 1 →
      Expired s.hardware.spiPower now ∨
        s.hardware.spiPower.timeOff = 0 ∧ s.hardware.spiPower.minimumOn = 0 →
      s.holders = 1 ∧ Served s.hardware.spiPower now
  | (.task, now) => Expired s.hardware.spiPower now →
      s.holders = 0 ∧ (s.hardware.spiPower.on = true → Served s.hardware.spiPower now)
  | (.touch, _) => True

instance (s : PowerSwitch) (now : Uptime) : Decidable (Served s now) :=
  inferInstanceAs (Decidable (_ ≤ _))

instance (s : PowerSwitch) (now : Uptime) : Decidable (Expired s now) :=
  inferInstanceAs (Decidable (_ ∧ _))

instance (s : Power) : ∀ i, Decidable (Sound s i)
  | (.take, _) => .isTrue trivial
  | (.release, _) => inferInstanceAs (Decidable (_ → _ ∨ _ ∧ _ → _ ∧ _))
  | (.task, _) => inferInstanceAs (Decidable (_ → _ ∧ (_ → _)))
  | (.touch, _) => .isTrue trivial

/-! ## 4. What one call can do -/

/-- What a `release` reports, and what it leaves otherwise. -/
theorem release_cases (now : Uptime) (s : PowerSwitch) :
    (s.refs = 1 ∧ (Expired s now ∨ s.timeOff = 0 ∧ s.minimumOn = 0) ∧
        s.release now = (true, s.released)) ∨
      (¬ (s.refs = 1 ∧ (Expired s now ∨ s.timeOff = 0 ∧ s.minimumOn = 0)) ∧
        ∃ s', s.release now = (false, s') ∧ s'.timeOn = s.timeOn) := by
  unfold PowerSwitch.release
  by_cases hrefs : 0 < s.refs
  · rw [if_pos hrefs]
    by_cases hone : s.refs = 1
    · rw [if_pos hone]
      by_cases hset : 0 < s.timeOff
      · have hoff : s.timeOff ≠ 0 := fun h => absurd (h ▸ hset) (by decide)
        rw [if_pos hset]
        by_cases hover : s.timeOff < now
        · exact Or.inl ⟨hone, Or.inl ⟨hset, hover⟩, if_pos hover⟩
        · refine Or.inr ⟨fun h => ?_, s, if_neg hover, rfl⟩
          exact h.2.elim (fun h => hover h.2) fun h => hoff h.1
      · have hoff : s.timeOff = 0 := by simpa using hset
        rw [if_neg hset]
        by_cases hminimum : 0 < s.minimumOn
        · refine Or.inr ⟨fun h => ?_, _, if_pos hminimum, rfl⟩
          exact h.2.elim (fun h => hset h.1) fun h => absurd (h.2 ▸ hminimum) (by decide)
        · have hzero : s.minimumOn = 0 := by simpa using hminimum
          exact Or.inl ⟨hone, Or.inr ⟨hoff, hzero⟩, if_neg hminimum⟩
    · exact Or.inr ⟨fun h => hone h.1, _, if_neg hone, rfl⟩
  · have hzero : s.refs = 0 := by simpa using hrefs
    refine Or.inr ⟨fun h => ?_, s, if_neg hrefs, rfl⟩
    rw [hzero] at h
    exact absurd h.1 (by decide)

theorem call_take {s : Power} {now : Uptime} {taken : Bool} {p : PowerSwitch}
    (h : s.hardware.spiPower.take now = (taken, p)) :
    call s (.take, now) = (false, ⟨{
      spiPower := p
      spiOn := if taken then true else s.hardware.spiOn }, s.holders + 1, now⟩) := by
  rw [call, ModuleHardware.spiTake, h]

theorem call_release {s : Power} {now : Uptime} {released : Bool} {p : PowerSwitch}
    (h : s.hardware.spiPower.release now = (released, p)) :
    call s (.release, now) = (released, ⟨{
      spiPower := p
      spiOn := if released then false else s.hardware.spiOn }, s.holders - 1, now⟩) := by
  rw [call, ModuleHardware.spiRelease, h]

theorem call_task {s : Power} {now : Uptime} {released : Bool} {p : PowerSwitch}
    (h : s.hardware.spiPower.task now = (released, p)) :
    call s (.task, now) = (released, ⟨{
      spiPower := p
      spiOn := if released then false else s.hardware.spiOn }, s.holders, now⟩) := by
  rw [call, ModuleHardware.task, h]

/-- The invariant: whoever holds the power, and a count that is not 0, have it on; and the board's
    power is the switch's. -/
structure Inv (s : Power) : Prop where
  on : 0 < s.holders ∨ s.hardware.spiPower.refs ≠ 0 → s.hardware.spiPower.timeOn ≠ 0
  same : s.hardware.spiOn = s.hardware.spiPower.on

theorem on_iff (s : PowerSwitch) : s.on = true ↔ s.timeOn ≠ 0 := by
  unfold PowerSwitch.on
  rw [decide_eq_true_iff]
  constructor
  · intro h hzero
    rw [hzero] at h
    exact absurd h (by decide)
  · intro h
    exact Nat.pos_of_ne_zero fun hzero => h (BitVec.eq_of_toNat_eq hzero)

theorem Inv.initial (minimumOn : BitVec 16) : Inv (initial minimumOn) where
  on := fun h => h.elim (fun h => absurd h (Nat.lt_irrefl 0)) fun h => absurd rfl h
  same := rfl

/-- What holds the power finds it on. -/
theorem Inv.powered {s : Power} (h : Inv s) (hs : 0 < s.holders) :
    s.hardware.spiPower.on = true ∧ s.hardware.spiOn = true := by
  have hon := (on_iff _).mpr (h.on (Or.inl hs))
  exact ⟨hon, h.same.trans hon⟩

/-! ## 5. Steps and runs -/

/-- A call that reports nothing. -/
theorem Inv.held {s : Power} {i : Input} (h : Inv (call s i).2) (hsilent : (call s i).1 = false) :
    Held s i :=
  ⟨h.powered, fun hreported => absurd (hsilent.symm.trans hreported) Bool.false_ne_true⟩

/-- A call that switches off and leaves `n` who hold the power. -/
theorem cut_step {s : Power} {i : Input} {n : Nat} {now : Uptime}
    (hcall : call s i =
      (true, ⟨{ spiPower := s.hardware.spiPower.released, spiOn := false }, n, now⟩)) :
    (n = 0 → Inv (call s i).2) ∧
      (Held s i ↔
        n = 0 ∧ (s.hardware.spiPower.on = true → Served s.hardware.spiPower i.2)) := by
  unfold Held
  rw [hcall]
  constructor
  · intro hnobody
    exact ⟨fun h => h.elim (fun h => absurd hnobody (Nat.ne_of_gt h)) fun h => absurd rfl h, rfl⟩
  · constructor
    · intro hheld
      exact hheld.2 rfl
    · intro h
      exact ⟨fun hn => absurd h.1 (Nat.ne_of_gt hn), fun _ => h⟩

/-- A take. -/
theorem take_step {s : Power} (hi : Inv s) {now : Uptime} (hnow : now ≠ 0) :
    Inv (call s (.take, now)).2 ∧ Held s (.take, now) := by
  have hinv : Inv (call s (.take, now)).2 := by
    by_cases hrefs : s.hardware.spiPower.refs = 0
    · rw [call_take (if_pos hrefs)]
      exact ⟨fun _ => hnow, ((on_iff _).mpr hnow).symm⟩
    · rw [call_take (if_neg hrefs)]
      exact ⟨fun _ => hi.on (Or.inr hrefs), hi.same⟩
  exact ⟨hinv, hinv.held rfl⟩

/-- A release. -/
theorem release_step {s : Power} (hi : Inv s) {now : Uptime} (hholds : 0 < s.holders) :
    (Sound s (.release, now) → Inv (call s (.release, now)).2) ∧
      (Sound s (.release, now) ↔ Held s (.release, now)) := by
  rcases release_cases now s.hardware.spiPower with
    ⟨hone, hdue, hrelease⟩ | ⟨hnot, s', hrelease, htime⟩
  · have hcall := call_release hrelease
    obtain ⟨hinv, hheld⟩ := cut_step hcall
    have hon : s.hardware.spiPower.on = true := (hi.powered hholds).1
    rw [hheld]
    constructor
    · intro hsound
      exact hinv (by rw [(hsound hone hdue).1])
    · constructor
      · intro hsound
        obtain ⟨hholder, hserved⟩ := hsound hone hdue
        exact ⟨by rw [hholder], fun _ => hserved⟩
      · intro hnobody _ _
        obtain ⟨hlast, hserved⟩ := hnobody
        exact ⟨by omega, hserved hon⟩
  · have hcall := call_release hrelease
    have hsound : Sound s (.release, now) := fun hone hdue => absurd ⟨hone, hdue⟩ hnot
    have hinv : Inv (call s (.release, now)).2 := by
      rw [hcall]
      constructor
      · intro _
        show s'.timeOn ≠ 0
        rw [htime]
        exact hi.on (Or.inl hholds)
      · show s.hardware.spiOn = s'.on
        rw [hi.same, PowerSwitch.on, PowerSwitch.on, htime]
    exact ⟨fun _ => hinv, fun _ => hinv.held (congrArg Prod.fst hcall), fun _ => hsound⟩

/-- A poll. -/
theorem task_step {s : Power} (hi : Inv s) (now : Uptime) :
    (Sound s (.task, now) → Inv (call s (.task, now)).2) ∧
      (Sound s (.task, now) ↔ Held s (.task, now)) := by
  by_cases hover : Expired s.hardware.spiPower now
  · obtain ⟨hinv, hheld⟩ := cut_step (call_task (if_pos hover))
    rw [hheld]
    constructor
    · intro hsound
      exact hinv (hsound hover).1
    · constructor
      · intro hsound
        exact hsound hover
      · intro hnobody _
        exact hnobody
  · have hcall := call_task (s := s) (if_neg hover)
    have hinv : Inv (call s (.task, now)).2 := by
      rw [hcall]
      exact ⟨hi.on, hi.same⟩
    exact ⟨fun _ => hinv, fun _ => hinv.held (congrArg Prod.fst hcall),
      fun _ h => absurd h hover⟩

/-- A touch. -/
theorem touch_step {s : Power} (hi : Inv s) (now : Uptime) :
    Inv (call s (.touch, now)).2 ∧ Held s (.touch, now) := by
  have hinv : Inv (call s (.touch, now)).2 := ⟨hi.on, hi.same⟩
  exact ⟨hinv, hinv.held rfl⟩

/-- **A call keeps the power for those who hold it exactly under its condition.** -/
theorem call_step {s : Power} {i : Input} (hi : Inv s) (ha : Allowed s i) :
    (Sound s i → Inv (call s i).2) ∧ (Sound s i ↔ Held s i) := by
  obtain ⟨op, now⟩ := i
  obtain ⟨hnow, _, _, hholds⟩ := ha
  cases op with
  | take =>
      obtain ⟨hinv, hheld⟩ := take_step hi hnow
      exact ⟨fun _ => hinv, fun _ => hheld, fun _ => trivial⟩
  | release => exact release_step hi (hholds rfl)
  | task => exact task_step hi now
  | touch =>
      obtain ⟨hinv, hheld⟩ := touch_step hi now
      exact ⟨fun _ => hinv, fun _ => hheld, fun _ => trivial⟩

theorem step_eq_some {s s' : Power} {i : Input} (h : step s i = some s') :
    Allowed s i ∧ s' = (call s i).2 := by
  unfold step at h
  split at h
  · next ha =>
      cases h
      exact ⟨ha, rfl⟩
  · cases h

/-- **In which runs the power is never cut while somebody holds it, nor too early.** -/
theorem held_iff (minimumOn : BitVec 16) {tr : List (Power × Input)} {s : Power}
    (h : Run step (initial minimumOn) tr s) : Meets Held tr ↔ Meets Sound tr := by
  refine (h.meets_congr_of Sound Held Inv (Inv.initial minimumOn) ?_ ?_).symm
  · intro s i s' hi hsound hs
    obtain ⟨ha, rfl⟩ := step_eq_some hs
    exact (call_step hi ha).1 hsound
  · intro s i s' hi hs
    exact (call_step hi (step_eq_some hs).1).2

/-- Taken and released, and switched off behind the minimum time. -/
def servedInputs : List Input := [(.take, 1), (.release, 1), (.task, 50), (.task, 102)]

/-- The power is held as long as it is to be. -/
theorem held_served : ∃ tr s, Run step (initial 100) tr s ∧ tr.map (·.2) = servedInputs ∧
    s.hardware.spiOn = false ∧ Meets Held tr := by
  have hexec : ∃ s, exec (guarded Sound step) (initial 100) servedInputs = some s ∧
      s.hardware.spiOn = false := by
    refine ⟨⟨{ spiPower := { minimumOn := 100 } }, 0, 102⟩, ?_, rfl⟩
    decide
  obtain ⟨s, hexec, hoff⟩ := hexec
  obtain ⟨tr, hguarded, hinputs⟩ := run_of_exec hexec
  obtain ⟨hrun, hsound⟩ := hguarded.of_guarded
  exact ⟨tr, s, hrun, hinputs, hoff, (held_iff 100 hrun).mpr hsound⟩

/-- **A take during the delay does not stop it**: the power is cut under the second holder. -/
theorem cut_while_held : ¬ ∀ (minimumOn : BitVec 16) (tr : List (Power × Input)) (s : Power),
    Run step (initial minimumOn) tr s → Meets Held tr := by
  intro hall
  have hexec : (exec step (initial 100) [(.take, 1), (.release, 1), (.take, 50)]).map
      (fun s => (s, decide (Allowed s (.task, 102)), (call s (.task, 102)).1,
        (call s (.task, 102)).2.holders)) = some (⟨{ spiPower := ⟨2, 1, 101, 100⟩, spiOn := true },
          1, 50⟩, true, true, 1) := by decide
  obtain ⟨tr, s, hrun, hs⟩ := run_of_exec_map hexec
  simp only [Prod.mk.injEq] at hs
  obtain ⟨-, hallowed, hreported, hholders⟩ := hs
  have hstep : step s (.task, 102) = some (call s (.task, 102)).2 :=
    if_pos (of_decide_eq_true hallowed)
  have hheld := hall 100 _ _ (.step tr s (.task, 102) _ hrun hstep)
  have hlast : Held s (.task, 102) := ((meets_concat Held tr s (.task, 102)).mp hheld).2
  have hnobody := (hlast.2 hreported).1
  rw [hholders] at hnobody
  cases hnobody

/-! ### Without a minimum time -/

/-- Nobody touches the switch. -/
def Untouched (_ : Power) (i : Input) : Prop := i.1 ≠ .touch

/-- The count is exact, and no time to switch off is ever set. -/
structure Plain (s : Power) : Prop where
  inv : Inv s
  counted : s.hardware.spiPower.refs.toNat = s.holders
  unset : s.hardware.spiPower.timeOff = 0
  minimum : s.hardware.spiPower.minimumOn = 0
  before : s.hardware.spiPower.timeOn.toNat ≤ s.clock.toNat

theorem Plain.sound {s : Power} (h : Plain s) {i : Input} (ha : Allowed s i) : Sound s i := by
  obtain ⟨op, now⟩ := i
  have hset : ¬ Expired s.hardware.spiPower now := fun hover =>
    absurd (h.unset ▸ hover.1) (by decide)
  cases op with
  | take => trivial
  | release =>
      intro hone _
      have hclock : s.clock.toNat ≤ now.toNat := ha.2.1
      refine ⟨by rw [← h.counted, hone]; rfl, ?_⟩
      unfold Served
      rw [h.minimum]
      exact h.before.trans hclock
  | task => exact fun hover => absurd hover hset
  | touch => trivial

theorem Plain.initial : Plain (initial 0) where
  inv := Inv.initial 0
  counted := rfl
  unset := rfl
  minimum := rfl
  before := Nat.le_refl 0

/-- One more, below 256. -/
theorem toNat_succ {refs : BitVec 8} {n : Nat} (h : refs.toNat = n) (hn : n + 1 < 256) :
    (refs + 1).toNat = n + 1 := by
  rw [BitVec.toNat_add, h]
  exact Nat.mod_eq_of_lt hn

/-- **A call keeps the count exact.** -/
theorem Plain.call {s : Power} {i : Input} (h : Plain s) (hi : i.1 ≠ .touch) (ha : Allowed s i) :
    Plain (call s i).2 := by
  have hinv := (call_step h.inv ha).1 (h.sound ha)
  obtain ⟨op, now⟩ := i
  obtain ⟨_, hclock, hroom, hholds⟩ := ha
  have hbefore : s.hardware.spiPower.timeOn.toNat ≤ now.toNat := h.before.trans hclock
  cases op with
  | take =>
      have hcounted := toNat_succ h.counted (hroom rfl)
      by_cases hrefs : s.hardware.spiPower.refs = 0
      · have htake : s.hardware.spiPower.take now = (true, { s.hardware.spiPower with
            timeOn := now, timeOff := 0, refs := s.hardware.spiPower.refs + 1 }) := if_pos hrefs
        rw [call_take htake] at hinv ⊢
        exact ⟨hinv, hcounted, rfl, h.minimum, Nat.le_refl _⟩
      · have htake : s.hardware.spiPower.take now = (false, { s.hardware.spiPower with
            refs := s.hardware.spiPower.refs + 1 }) := if_neg hrefs
        rw [call_take htake] at hinv ⊢
        exact ⟨hinv, hcounted, h.unset, h.minimum, hbefore⟩
  | release =>
      have hpos : 0 < s.hardware.spiPower.refs := by
        show 0 < s.hardware.spiPower.refs.toNat
        rw [h.counted]
        exact hholds rfl
      by_cases hone : s.hardware.spiPower.refs = 1
      · have hrelease : s.hardware.spiPower.release now = (true, s.hardware.spiPower.released) := by
          unfold PowerSwitch.release
          rw [if_pos hpos, if_pos hone, h.unset, if_neg (by decide), h.minimum, if_neg (by decide)]
        have hlast : s.holders = 1 := by rw [← h.counted, hone]; rfl
        rw [call_release hrelease] at hinv ⊢
        exact ⟨hinv, by rw [hlast]; rfl, rfl, h.minimum, Nat.zero_le _⟩
      · have hrelease : s.hardware.spiPower.release now =
            (false, { s.hardware.spiPower with refs := s.hardware.spiPower.refs - 1 }) := by
          unfold PowerSwitch.release
          rw [if_pos hpos, if_neg hone]
        have hcounted : (s.hardware.spiPower.refs - 1).toNat = s.holders - 1 := by
          have hcount := h.counted
          have hholders := hholds rfl
          bv_omega
        rw [call_release hrelease] at hinv ⊢
        exact ⟨hinv, hcounted, h.unset, h.minimum, hbefore⟩
  | task =>
      have htask : s.hardware.spiPower.task now = (false, s.hardware.spiPower) := by
        unfold PowerSwitch.task
        rw [h.unset]
        exact if_neg fun hover => absurd hover.1 (by decide)
      rw [call_task htask] at hinv ⊢
      exact ⟨hinv, h.counted, h.unset, h.minimum, hbefore⟩
  | touch => exact absurd rfl hi

/-- **Without a minimum time and a touch the power is held in every run.** -/
theorem held_plain {tr : List (Power × Input)} {s : Power} (h : Run step (initial 0) tr s)
    (htr : Meets Untouched tr) : Meets Held tr := by
  have hplain : Meets Untouched tr → Plain s ∧ Meets Held tr := by
    refine h.inv_steps (fun tr s => Meets Untouched tr → Plain s ∧ Meets Held tr) ?_ ?_
    · exact fun _ => ⟨Plain.initial, meets_nil Held⟩
    · intro tr s i s' ih hs htr
      obtain ⟨htr, hi⟩ := (meets_concat Untouched tr s i).mp htr
      obtain ⟨hp, hheld⟩ := ih htr
      obtain ⟨ha, rfl⟩ := step_eq_some hs
      have hstep := (call_step hp.inv ha).2.mp (hp.sound ha)
      exact ⟨hp.call hi ha, (meets_concat Held tr s i).mpr ⟨hheld, hstep⟩⟩
  exact (hplain htr).2

end SpiPower

end FieldKit

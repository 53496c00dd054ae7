/-
  File:      FieldKit/Core/LiveSchedule.lean
  Subject:   `LiveDataManager` (live_data.h): when is a live reading due, on a clock that wraps?

  A poll of an app sets the interval (`configure`), every round of `WifiState::serve` asks whether a
  reading is due, and if one is, `LiveDataReading::task` takes it and calls `completed`. Beside the
  manager stands the schedule that it is to keep, on a time that does not wrap: the app is given a
  reading whenever its interval has gone by since the last one and since its last poll, and is
  forgotten 30 seconds behind that. (With FK_NATURALIST nothing calls `completed`.)

  * `live_schedule_iff` -- over a run whose rounds are short, manager and schedule agree exactly if
    every round within the 30 seconds finds the deadline in its own period of the clock, and the
    first one behind them does not come in the 30 seconds behind a period;
  * `live_starved` -- a poll puts the deadline off: an app that polls again before its interval is over
    is never given a reading.
-/
import FieldKit.Lib.Deadline
import FieldKit.Lib.Run
import FieldKit.Time

namespace FieldKit.LiveSchedule

open Lib Time

/-! ## 1. The manager -/

/-- `LivePollInactivity`. -/
def livePollInactivity : Uptime := 30 * seconds

/-- `LiveDataManager`. -/
structure LiveDataManager where
  enabled : Uptime := 0
  previouslyRead : Uptime := 0
  interval : Uptime := 0
  reading : Uptime := 0
  deriving DecidableEq, Repr

namespace LiveDataManager

/-- `completed()`. -/
def completed (now : Uptime) (m : LiveDataManager) : LiveDataManager :=
  if m.interval = 0 then { m with reading := 0, enabled := 0, previouslyRead := 0 }
  else { m with reading := now + m.interval }

/-- `configure(interval)`, with what it and `completed()` read of the clock. -/
def configure (interval enabledAt readAt completedAt : Uptime) (m : LiveDataManager) :
    LiveDataManager :=
  completed completedAt { m with
    enabled := if m.enabled = 0 then enabledAt else m.enabled
    previouslyRead := readAt
    interval }

/-- `is_ready_for_reading()`, with what it reads of the clock. -/
def isReadyForReading (asked compared : Uptime) (m : LiveDataManager) : Bool × LiveDataManager :=
  if livePollInactivity < asked - m.previouslyRead then
    -- what `configure(0)` reads of the clock is not kept
    (false, m.configure 0 compared compared compared)
  else if 0 < m.interval ∧ m.reading < compared then (true, { m with reading := 0 })
  else (false, m)

end LiveDataManager

/-! ## 2. The schedule -/

/-- What an app has asked for, when it has last, and when the next reading is due. -/
structure Session where
  interval : Nat
  polled : Nat
  due : Nat
  deriving DecidableEq, Repr

/-- The app, if there is one, and whether a reading is being taken for it. -/
structure Schedule where
  session : Option Session := none
  reading : Bool := false
  deriving DecidableEq, Repr

namespace Schedule

/-- A poll. -/
def poll (interval polled armed : Nat) (s : Schedule) : Schedule :=
  { s with
    session := if interval = 0 then none else some { interval, polled, due := armed + interval } }

/-- A round. -/
def round (asked compared : Nat) (s : Schedule) : Schedule :=
  match s.session with
  | none => s
  | some q =>
    if q.polled + livePollInactivity.toNat < asked then { s with session := none }
    else { s with reading := decide (q.due < compared) }

/-- A reading has been taken. -/
def completed (now : Nat) (s : Schedule) : Schedule where
  session := s.session.map fun q => { q with due := now + q.interval }
  reading := false

end Schedule

/-! ## 3. Both, side by side -/

/-- The time, the manager, whether `LiveDataReading` is taking a reading, and the schedule. -/
structure World where
  now : Nat := 0
  live : LiveDataManager := {}
  reading : Bool := false
  schedule : Schedule := {}
  deriving DecidableEq, Repr

/-- A poll of an app, a round of `serve`, or the end of a reading, with the times of the readings of the
    clock. -/
inductive Input where
  | poll (interval : Uptime) (enabledAt readAt completedAt : Nat)
  | round (asked compared : Nat)
  | completed (time : Nat)
  deriving DecidableEq, Repr

/-- The machine. `LiveDataReading::task` follows upon the round that finds a reading due, and does not
    end before it is completed. -/
def step (s : World) : Input → Option World
  | .poll interval enabledAt readAt completedAt =>
    if s.reading = false ∧ s.now ≤ enabledAt ∧ enabledAt ≤ readAt ∧ readAt ≤ completedAt then
      some { s with
        now := completedAt
        live := s.live.configure interval (clock enabledAt) (clock readAt) (clock completedAt)
        schedule := s.schedule.poll interval.toNat readAt completedAt }
    else none
  | .round asked compared =>
    if s.reading = false ∧ s.now ≤ asked ∧ asked ≤ compared then
      let (reading, live) := s.live.isReadyForReading (clock asked) (clock compared)
      some { now := compared, live, reading, schedule := s.schedule.round asked compared }
    else none
  | .completed time =>
    if s.reading = true ∧ s.now ≤ time then
      some {
        now := time
        live := s.live.completed (clock time)
        reading := false
        schedule := s.schedule.completed time }
    else none

/-- **The manager agrees with the schedule**: on whether there is an app, and on whether it is given a
    reading. -/
def Agrees (s : World) : Prop :=
  (s.live.interval = 0 ↔ s.schedule.session = none) ∧ s.reading = s.schedule.reading

/-- A round compares soon after it has asked. -/
def Brisk (_ : World) : Input → Prop
  | .round asked compared => compared < asked + 2 ^ 31
  | _ => True

/-- **A round finds the deadline in its own period**, and, if the app is silent, is not so late that the
    clock says it is not. -/
def Timely (s : World) : Input → Prop
  | .round asked compared => ∀ q ∈ s.schedule.session,
    (q.polled + livePollInactivity.toNat < asked →
      livePollInactivity.toNat < (asked - q.polled) % period) ∧
    (asked ≤ q.polled + livePollInactivity.toNat → compared / period = q.due / period)
  | _ => True

instance (s : World) (i : Input) : Decidable (Brisk s i) :=
  match i with
  | .round asked compared => inferInstanceAs (Decidable (compared < asked + 2 ^ 31))
  | .poll _ _ _ _ | .completed _ => inferInstanceAs (Decidable True)

instance (s : World) (i : Input) : Decidable (Timely s i) :=
  match i with
  | .round _ _ => inferInstanceAs (Decidable (∀ q ∈ s.schedule.session, _))
  | .poll _ _ _ _ | .completed _ => inferInstanceAs (Decidable True)

/-! ## 4. The steps -/

/-- What the manager keeps of a session. -/
structure Keeps (now : Nat) (m : LiveDataManager) (reading : Bool) (q : Session) : Prop where
  interval : m.interval.toNat = q.interval
  asked : 0 < q.interval
  polled : m.previouslyRead = clock q.polled
  before : q.polled ≤ now
  due : reading = false → m.reading = clock q.due
  far : q.due ≤ now + q.interval
  near : q.polled + q.interval ≤ q.due

theorem Keeps.ne_zero {now : Nat} {m : LiveDataManager} {reading : Bool} {q : Session}
    (h : Keeps now m reading q) : m.interval ≠ 0 := by
  intro hzero
  have hpos := h.asked
  rw [← h.interval, hzero] at hpos
  exact absurd hpos (by decide)

/-- The invariant. -/
structure Inv (s : World) : Prop where
  off : s.schedule.session = none → s.live.interval = 0
  on : ∀ q, s.schedule.session = some q → Keeps s.now s.live s.reading q
  reading : s.reading = s.schedule.reading

theorem Inv.agrees {s : World} (hi : Inv s) : Agrees s := by
  refine ⟨⟨fun hzero => ?_, hi.off⟩, hi.reading⟩
  cases hsession : s.schedule.session with
  | none => rfl
  | some q =>
      exact absurd hzero (hi.on q hsession).ne_zero

section Steps

variable {s s' : World}

theorem configure_zero (a b c : Uptime) (m : LiveDataManager) : m.configure 0 a b c = {} := by
  simp [LiveDataManager.configure, LiveDataManager.completed]

theorem completed_eq {m : LiveDataManager} (h : m.interval ≠ 0) (now : Uptime) :
    m.completed now = { m with reading := now + m.interval } := if_neg h

/-- **A poll** begins a session, or ends it. -/
theorem poll_inv (hi : Inv s) {interval : Uptime} {a b c : Nat}
    (h : step s (.poll interval a b c) = some s') : Inv s' := by
  simp only [step] at h
  split at h
  · next hguard =>
      obtain ⟨hreading, hnow, hread, hcompleted⟩ := hguard
      cases h
      by_cases hzero : interval = 0
      · subst hzero
        refine ⟨fun _ => ?_, fun q hq => (by simp [Schedule.poll] at hq), hi.reading⟩
        show (s.live.configure 0 (clock a) (clock b) (clock c)).interval = 0
        rw [configure_zero]
      · have hpos : 0 < interval.toNat :=
          Nat.pos_of_ne_zero fun h => hzero (BitVec.eq_of_toNat_eq h)
        have hsome : (s.schedule.poll interval.toNat b c).session =
            some { interval := interval.toNat, polled := b, due := c + interval.toNat } :=
          if_neg (Nat.ne_of_gt hpos)
        refine ⟨fun hnone => ?_, fun q hq => ?_, hi.reading⟩
        · exact absurd (hsome.symm.trans hnone) (by simp)
        · cases hsome.symm.trans hq
          simp only [LiveDataManager.configure]
          rw [completed_eq hzero]
          exact ⟨rfl, hpos, rfl, hcompleted, fun _ => clock_add c interval, Nat.le_refl _,
            Nat.add_le_add_right hcompleted _⟩
  · cases h

/-- **A reading that has been taken** puts the deadline off. -/
theorem completed_inv (hi : Inv s) {time : Nat} (h : step s (.completed time) = some s') : Inv s' := by
  simp only [step] at h
  split at h
  · next hguard =>
      obtain ⟨hreading, hnow⟩ := hguard
      cases h
      refine ⟨fun hnone => ?_, fun q hq => ?_, rfl⟩
      · have hzero := hi.off (Option.map_eq_none_iff.mp hnone)
        simp [LiveDataManager.completed, hzero]
      · obtain ⟨q, hsession, rfl⟩ := Option.map_eq_some_iff.mp hq
        have hkeeps := hi.on q hsession
        rw [completed_eq hkeeps.ne_zero]
        refine ⟨hkeeps.interval, hkeeps.asked, hkeeps.polled, hkeeps.before.trans hnow, fun _ => ?_,
          Nat.le_refl _, Nat.add_le_add_right (hkeeps.before.trans hnow) _⟩
        show clock time + s.live.interval = _
        rw [clock_add, hkeeps.interval]
  · cases h

/-- What a round says, by what it finds. -/
theorem isReady_eq (m : LiveDataManager) (asked compared : Uptime) :
    m.isReadyForReading asked compared =
      if livePollInactivity < asked - m.previouslyRead then (false, {})
      else if 0 < m.interval ∧ m.reading < compared then (true, { m with reading := 0 })
      else (false, m) := by
  unfold LiveDataManager.isReadyForReading
  rw [configure_zero]

/-- The clock says that the app is silent. -/
theorem silent_iff {polled asked : Nat} (h : polled ≤ asked) :
    livePollInactivity < clock asked - clock polled ↔
      livePollInactivity.toNat < (asked - polled) % period := by
  have hadd : clock asked = clock polled + BitVec.ofNat 32 (asked - polled) := by
    rw [clock, clock, ← BitVec.ofNat_add, Nat.add_sub_cancel' h]
  rw [hadd, BitVec.add_comm, BitVec.add_sub_cancel, BitVec.lt_def, BitVec.toNat_ofNat]
  rfl

/-- The clock says that the deadline is over, and is right in the deadline's period. -/
theorem over_iff {due compared : Nat} (hfrom : due < compared + period)
    (hto : compared < due + period) :
    (clock due < clock compared ↔ due < compared) ↔ compared / period = due / period := by
  rw [clock_lt_iff]
  rcases Nat.lt_or_ge due compared with hlate | hearly
  · rw [mod_lt_mod_iff (Nat.le_of_lt hlate) hto]
    exact ⟨fun h => (h.mpr hlate).2.symm, fun h => ⟨fun _ => hlate, fun _ => ⟨hlate, h.symm⟩⟩⟩
  · rw [mod_lt_mod_iff_of_ge hearly hfrom]
    constructor
    · intro h
      by_contra hne
      exact absurd (h.mp fun heq => hne heq.symm) (Nat.not_lt.mpr hearly)
    · intro h
      exact ⟨fun hne => absurd h.symm hne, fun hlate => absurd hlate (Nat.not_lt.mpr hearly)⟩

/-- What a round leaves. -/
theorem round_cases {asked compared : Nat} (h : step s (.round asked compared) = some s') :
    s.reading = false ∧ s.now ≤ asked ∧ asked ≤ compared ∧
      s' = { now := compared
             live := (s.live.isReadyForReading (clock asked) (clock compared)).2
             reading := (s.live.isReadyForReading (clock asked) (clock compared)).1
             schedule := s.schedule.round asked compared } := by
  simp only [step] at h
  split at h
  · next hguard =>
      cases h
      exact ⟨hguard.1, hguard.2.1, hguard.2.2, rfl⟩
  · cases h

/-- **A round** without an app. -/
theorem round_off (hi : Inv s) (hnone : s.schedule.session = none) {asked compared : Nat}
    (h : step s (.round asked compared) = some s') : Inv s' := by
  have hzero := hi.off hnone
  obtain ⟨hreading, -, -, rfl⟩ := round_cases h
  have hround : s.schedule.round asked compared = s.schedule := by
    unfold Schedule.round
    rw [hnone]
  have hready : (s.live.isReadyForReading (clock asked) (clock compared)).1 = false ∧
      (s.live.isReadyForReading (clock asked) (clock compared)).2.interval = 0 := by
    rw [isReady_eq]
    split
    · exact ⟨rfl, rfl⟩
    · rw [if_neg fun hdue => absurd (hzero ▸ hdue.1) (by decide)]
      exact ⟨rfl, hzero⟩
  refine ⟨fun _ => hready.2, fun q hq => ?_, ?_⟩
  · rw [hround, hnone] at hq
    cases hq
  · rw [hround, hready.1, ← hi.reading, hreading]

/-- A session goes on. -/
theorem Keeps.later {now now' : Nat} {m : LiveDataManager} {q : Session} (h : Keeps now m false q)
    (hle : now ≤ now') {reading : Bool} {r : Uptime} (hreading : reading = false → r = m.reading) :
    Keeps now' { m with reading := r } reading q where
  interval := h.interval
  asked := h.asked
  polled := h.polled
  before := h.before.trans hle
  due hr := (hreading hr).trans (h.due rfl)
  far := h.far.trans (Nat.add_le_add_right hle _)
  near := h.near

/-- What a round says to an app that is not silent. -/
theorem isReady_heard {now : Nat} {m : LiveDataManager} {q : Session} (h : Keeps now m false q)
    {asked compared : Uptime} (hheard : ¬ livePollInactivity < asked - m.previouslyRead) :
    m.isReadyForReading asked compared = (decide (clock q.due < compared),
      { m with reading := if clock q.due < compared then 0 else m.reading }) := by
  have hpos : 0 < m.interval := by
    rw [BitVec.lt_def, h.interval]
    exact h.asked
  rw [isReady_eq, if_neg hheard, h.due rfl]
  by_cases hdue : clock q.due < compared
  · rw [if_pos ⟨hpos, hdue⟩, if_pos hdue, decide_eq_true hdue]
  · rw [if_neg fun hboth => hdue hboth.2, if_neg hdue, decide_eq_false hdue, ← h.due rfl]

/-- **A round** leaves the manager with the schedule exactly if it is timely. -/
theorem round_on (hi : Inv s) {q : Session} (hsome : s.schedule.session = some q)
    {asked compared : Nat} (hbrisk : compared < asked + 2 ^ 31)
    (h : step s (.round asked compared) = some s') :
    (Timely s (.round asked compared) → Inv s') ∧ (Agrees s' → Timely s (.round asked compared)) := by
  obtain ⟨hreading, hnow, hcompared, rfl⟩ := round_cases h
  have hkeeps := hi.on q hsome
  rw [hreading] at hkeeps
  have hpolled : q.polled ≤ asked := hkeeps.before.trans hnow
  have hclock := silent_iff hpolled
  rw [← hkeeps.polled] at hclock
  have hround : s.schedule.round asked compared =
      if q.polled + livePollInactivity.toNat < asked then { s.schedule with session := none }
      else { s.schedule with reading := decide (q.due < compared) } := by
    simp [Schedule.round, hsome]
  have htimely : Timely s (.round asked compared) ↔
      (q.polled + livePollInactivity.toNat < asked →
        livePollInactivity.toNat < (asked - q.polled) % period) ∧
      (asked ≤ q.polled + livePollInactivity.toNat → compared / period = q.due / period) := by
    simp [Timely, hsome]
  rw [htimely, hround]
  by_cases hsilent : q.polled + livePollInactivity.toNat < asked
  · rw [if_pos hsilent]
    by_cases hquiet : livePollInactivity.toNat < (asked - q.polled) % period
    · rw [isReady_eq, if_pos (hclock.mpr hquiet)]
      exact ⟨fun _ => ⟨fun _ => rfl, fun q hq => (nomatch hq), hreading.symm.trans hi.reading⟩,
        fun _ => ⟨fun _ => hquiet, fun hle => absurd hsilent (Nat.not_lt.mpr hle)⟩⟩
    · rw [isReady_heard hkeeps (fun hlt => hquiet (hclock.mp hlt))]
      exact ⟨fun ht => absurd (ht.1 hsilent) hquiet,
        fun ha => absurd (ha.1.mpr rfl) hkeeps.ne_zero⟩
  · rw [if_neg hsilent]
    have hle := Nat.not_lt.mp hsilent
    have hinactivity : livePollInactivity.toNat = 30000 := rfl
    have hperiod : period = 2 ^ 32 := rfl
    have hinterval : q.interval < 2 ^ 32 := hkeeps.interval ▸ s.live.interval.isLt
    have hfar := hkeeps.far
    have hnear := hkeeps.near
    have hheard : ¬ livePollInactivity.toNat < (asked - q.polled) % period := by
      rw [Nat.mod_eq_of_lt (by omega)]
      omega
    rw [isReady_heard hkeeps (fun hlt => hheard (hclock.mp hlt))]
    have hover : (clock q.due < clock compared ↔ q.due < compared) ↔
        compared / period = q.due / period := over_iff (by omega) (by omega)
    constructor
    · intro ht
      have hsame := hover.mpr (ht.2 hle)
      refine ⟨fun hnone => ?_, fun q' hq => ?_, ?_⟩
      · exact absurd (hsome.symm.trans hnone) (by simp)
      · cases hsome.symm.trans hq
        exact hkeeps.later (hnow.trans hcompared) fun hr => if_neg (of_decide_eq_false hr)
      · exact decide_eq_decide.mpr hsame
    · intro ha
      exact ⟨fun hlt => absurd hlt hsilent, fun _ => hover.mp (decide_eq_decide.mp ha.2)⟩

/-- **Every step**, of a round that compares soon. -/
theorem step_agrees (hi : Inv s) {i : Input} (hB : Brisk s i) (h : step s i = some s') :
    (Timely s i → Inv s') ∧ (Agrees s' → Timely s i) := by
  cases i with
  | poll interval enabledAt readAt completedAt => exact ⟨fun _ => poll_inv hi h, fun _ => trivial⟩
  | completed time => exact ⟨fun _ => completed_inv hi h, fun _ => trivial⟩
  | round asked compared =>
      cases hsession : s.schedule.session with
      | none => exact ⟨fun _ => round_off hi hsession h, fun _ q hq => (by simp [hsession] at hq)⟩
      | some q => exact round_on hi hsession hB h

end Steps

theorem inv_start : Inv {} := ⟨fun _ => rfl, fun _ h => (nomatch h), rfl⟩

/-- **The manager keeps to the schedule all along a run exactly if every round of it is timely.** -/
theorem live_schedule_iff {tr : List (World × Input)} {s : World} (h : Run step {} tr s)
    (hB : Meets Brisk tr) : (Meets (fun s _ => Agrees s) tr ∧ Agrees s) ↔ Meets Timely tr :=
  h.meets_iff_under Brisk Timely Inv Agrees inv_start (fun _ hi => hi.agrees)
    (fun _ _ _ hi hB hs => step_agrees hi hB hs) hB

/-- A poll half a second before the clock wraps, and a round behind it: a reading is due at once. -/
def wrapped : List Input :=
  [.poll 1000 4294966796 4294966796 4294966796, .round 4294966800 4294966800]

theorem live_schedule_wrapped : ∃ tr s, Run step {} tr s ∧
    (s.reading, s.schedule.reading) = (true, false) ∧
    ((Meets (fun s _ => Agrees s) tr ∧ Agrees s) ↔ Meets Timely tr) := by
  have hexec : (exec (guarded Brisk step) {} wrapped).map
      (fun s => (s.reading, s.schedule.reading)) = some (true, false) := by decide +kernel
  obtain ⟨tr, s, hrun, hs⟩ := run_of_exec_map hexec
  obtain ⟨hrun, hbrisk⟩ := hrun.of_guarded
  exact ⟨tr, s, hrun, hs, live_schedule_iff hrun hbrisk⟩

/-! ## 5. Starving -/

/-- **The app polls again before its interval is over**: no round comes behind it. -/
def Eager (s : World) : Input → Prop
  | .round _ compared => ∀ q ∈ s.schedule.session, compared ≤ q.polled + q.interval
  | _ => True

instance (s : World) (i : Input) : Decidable (Eager s i) :=
  match i with
  | .round _ compared =>
    inferInstanceAs (Decidable (∀ q ∈ s.schedule.session, compared ≤ q.polled + q.interval))
  | .poll _ _ _ _ | .completed _ => inferInstanceAs (Decidable True)

/-- An eager app's round finds nothing due. -/
theorem eager_step {s s' : World} {i : Input} (hi : Inv s) (hreading : s.reading = false)
    (hi' : Inv s') (hE : Eager s i) (h : step s i = some s') : s'.reading = false := by
  cases i with
  | poll interval enabledAt readAt completedAt =>
      simp only [step] at h
      split at h
      · cases h
        exact hreading
      · cases h
  | completed time =>
      simp only [step, hreading, Bool.false_eq_true, false_and, if_false] at h
      cases h
  | round asked compared =>
      obtain ⟨-, -, -, rfl⟩ := round_cases h
      rw [hi'.reading]
      show (s.schedule.round asked compared).reading = false
      have hnone : s.schedule.reading = false := hi.reading ▸ hreading
      unfold Schedule.round
      split
      · exact hnone
      · next q hsession =>
          have hnear := (hi.on q hsession).near
          have heager : compared ≤ q.polled + q.interval := hE q hsession
          split
          · exact hnone
          · exact decide_eq_false (Nat.not_lt.mpr (heager.trans hnear))

/-- **An eager app is never given a reading**: every poll puts the deadline off. -/
theorem live_starved {tr : List (World × Input)} {s : World} (h : Run step {} tr s)
    (hC : Meets (fun s i => Brisk s i ∧ Timely s i ∧ Eager s i) tr) : s.reading = false := by
  have hinv : Inv s ∧ s.reading = false :=
    h.inv_meets (fun s i => Brisk s i ∧ Timely s i ∧ Eager s i)
      (fun s => Inv s ∧ s.reading = false) ⟨inv_start, rfl⟩
      (fun s i s' hi hC hs =>
        have hi' := (step_agrees hi.1 hC.1 hs).1 hC.2.1
        ⟨hi', eager_step hi.1 hi.2 hi' hC.2.2 hs⟩) hC
  exact hinv.2

/-- An interval of one second, and a poll every 900 milliseconds. -/
def eager : List Input :=
  [.poll 1000 100 100 100, .round 999 999, .poll 1000 1000 1000 1000, .round 1899 1899,
   .poll 1000 1900 1900 1900, .round 2799 2799]

theorem live_starved_eager : ∃ tr s, Run step {} tr s ∧
    (s.now, s.live.interval) = (2799, 1000) ∧ s.reading = false := by
  have hexec : (exec (guarded (fun s i => Brisk s i ∧ Timely s i ∧ Eager s i) step) {} eager).map
      (fun s => (s.now, s.live.interval)) = some (2799, 1000) := by decide +kernel
  obtain ⟨tr, s, hrun, hs⟩ := run_of_exec_map hexec
  obtain ⟨hrun, hmeets⟩ := hrun.of_guarded
  exact ⟨tr, s, hrun, hs, live_starved hrun hmeets⟩

end FieldKit.LiveSchedule

/-
  File:      FieldKit/Core/Sleep.lean
  Subject:   `Sleep::sleep` (sleep.cpp) and what `Idle::task` hands to it: how long the device
             sleeps on a clock that wraps.

  The loop compares the clock with the time to stop, delays for one of three times and is alive.
  The environment decides how long everything else takes, and what happens meanwhile. Time does not
  wrap; what the loop reads of it does.

  * `run_sleep` -- the loop is `sleep` of the state machine, over the rounds that there was time for;
  * `honours_iff_sound` -- one round, and `honoured_iff`, a whole run: it sleeps as long as it is
    to exactly if the clock does not wrap in between;
  * `handed_wakes` -- what `Idle` hands to it ends before the next task is due;
  * `sleep_wrapped` -- the clock wraps in front of the time to stop, and just behind it.
-/
import FieldKit.Core.Fsm
import FieldKit.Lib.Deadline
import FieldKit.Lib.Run
import FieldKit.Time

namespace FieldKit.Sleeping

open Lib Time CoreDevice

/-! ## 1. The watchdog -/

/-- The period of `WDT_PERIOD_8X`: what `fk_wdt_enable` returns. -/
def wdtEnabled : Nat := 8192

/-- `fk_wdt_period`. -/
def wdtPeriod (ms : Nat) : Nat := if wdtEnabled ≤ ms then wdtEnabled else 0

theorem wdtPeriod_le (ms : Nat) : wdtPeriod ms ≤ ms := by
  unfold wdtPeriod
  split
  · next h => exact h
  · exact Nat.zero_le ms

/-- `Watchdog::sleep`: by how much it adjusts the clock, and what remains for its delays. -/
def watchdogSleep (remaining : Nat) : Nat × Nat :=
  if 0 < wdtPeriod remaining then
    let (adjusted, rest) := watchdogSleep (remaining - wdtPeriod remaining)
    (wdtPeriod remaining + adjusted, rest)
  else (0, remaining)
termination_by remaining
decreasing_by
  have hle := wdtPeriod_le remaining
  omega

/-- What is adjusted and what remains is what was asked for. -/
theorem watchdogSleep_add (remaining : Nat) :
    (watchdogSleep remaining).1 + (watchdogSleep remaining).2 = remaining := by
  induction remaining using watchdogSleep.induct with
  | case1 remaining h ih =>
      have hle := wdtPeriod_le remaining
      rw [watchdogSleep, if_pos h]
      dsimp only
      omega
  | case2 remaining h =>
      rw [watchdogSleep, if_neg h]
      exact Nat.zero_add remaining

/-! ## 2. The loop -/

/-- `SleepMaximumGranularity` of tuning.h. -/
def sleepMaximumGranularity : Uptime := 8192

/-- A call of `Sleep::sleep`: the state it is called in, `configuration.sleeping.deep`, the time at
    which it starts and its argument. -/
structure Sleep where
  state : State
  deep : Bool
  started : Nat
  maximum : BitVec 32
  deriving DecidableEq, Repr

/-- The loop goes on; an event has transitioned away; it is over and goes back. -/
inductive Phase where
  | asleep
  | left
  | returned
  deriving DecidableEq, Repr

/-- What the loop keeps, in front of its check. -/
structure Sleeper where
  phase : Phase := .asleep
  time : Nat
  canSleep : Bool := false
  activity : Uptime
  fsm : Fsm
  deriving DecidableEq, Repr

/-- What the environment decides in one round: how long it takes from the check to the comparison
    with the activity, from there to `left`, and behind the delay to the next check; whether there is a
    console; and in `alive()`, what happens, what it returns and when the button was last down. -/
structure Round where
  asked : Nat
  measured : Nat
  rest : Nat
  console : Bool
  alive : Alive
  busy : Bool
  activity : Option Uptime := none
  deriving DecidableEq, Repr

namespace Sleep

/-- `stopping`. -/
def stopping (c : Sleep) : Uptime := clock c.started + c.maximum * 1000

/-- The time to stop. -/
def deadline (c : Sleep) : Nat := c.started + c.maximum.toNat * 1000

/-- The condition of the loop. -/
def goesOn (c : Sleep) (s : Sleeper) : Bool := decide (clock s.time < c.stopping)

end Sleep

namespace Round

/-- When the clock is read for `left`. -/
def measuredAt (s : Sleeper) (r : Round) : Nat := s.time + r.asked + r.measured

/-- It may sleep, and the button was not down for a while. -/
def idle (s : Sleeper) (r : Round) : Bool :=
  s.canSleep && decide (s.activity = 0 ∨ 10000 < clock (s.time + r.asked) - s.activity)

/-- `left`. -/
def left (c : Sleep) (s : Sleeper) (r : Round) : Uptime := c.stopping - clock (r.measuredAt s)

/-- It sleeps with the watchdog. -/
def dozes (c : Sleep) (s : Sleeper) (r : Round) : Bool :=
  r.idle s && c.deep && !r.console && decide (sleepMaximumGranularity < r.left c s)

/-- When the delay is over. -/
def delayedTo (c : Sleep) (s : Sleeper) (r : Round) : Nat :=
  if r.dozes c s then r.measuredAt s + (watchdogSleep sleepMaximumGranularity.toNat).1
  else if r.idle s then r.measuredAt s + 1000
  else s.time + r.asked + 10

/-- The body of the loop. -/
def body (c : Sleep) (s : Sleeper) (r : Round) : Sleeper :=
  let fsm := s.fsm.alive r.alive
  { phase := if fsm.transitioned c.state then .left else .asleep
    time := r.delayedTo c s + r.rest
    canSleep := !r.busy
    activity := r.activity.getD s.activity
    fsm := fsm }

end Round

/-- The check, and the body behind it. -/
def step (c : Sleep) (s : Sleeper) (r : Round) : Option Sleeper :=
  match s.phase with
  | .asleep => if c.goesOn s then some (r.body c s) else some { s with phase := .returned }
  | .left => none
  | .returned => none

theorem step_body {c : Sleep} {s : Sleeper} (r : Round) (hphase : s.phase = .asleep)
    (hgo : c.goesOn s = true) : step c s r = some (r.body c s) := by
  unfold step
  rw [hphase]
  dsimp only
  rw [if_pos hgo]

/-- In front of the loop; `flushed` is how long flushing the files takes. -/
def initial (c : Sleep) (flushed : Nat) (activity : Uptime) (fsm : Fsm) : Sleeper :=
  { time := c.started + flushed, activity := activity, fsm := fsm }

/-- Where the state machine is when the loop is over. -/
def Sleeper.result (s : Sleeper) : Option Fsm :=
  match s.phase with
  | .asleep => none
  | .left => some s.fsm
  | .returned => s.fsm.back

/-- What happens in the rounds that there was time for. -/
def alives (c : Sleep) (tr : List (Sleeper × Round)) : List Alive :=
  (tr.filter fun p => c.goesOn p.1).map fun p => p.2.alive

/-! ## 3. The loop as the state machine has it -/

/-- Where the rounds so far have got. -/
def Tracks (c : Sleep) (m : Fsm) (tr : List (Sleeper × Round)) (s : Sleeper) : Prop :=
  (s.phase = .asleep → s.fsm.transitioned c.state = false ∧
    ∀ more, m.aliveUntil c.state (alives c tr ++ more) = s.fsm.aliveUntil c.state more) ∧
  (s.phase ≠ .asleep → s.fsm.transitioned c.state = decide (s.phase = .left) ∧
    m.aliveUntil c.state (alives c tr) = s.fsm)

theorem alives_concat (c : Sleep) (tr : List (Sleeper × Round)) (s : Sleeper) (r : Round) :
    alives c (tr ++ [(s, r)]) = if c.goesOn s then alives c tr ++ [r.alive] else alives c tr := by
  unfold alives
  rw [List.filter_append, List.map_append]
  cases hgo : c.goesOn s
  · rw [List.filter_cons_of_neg (by simp [hgo]), List.filter_nil, List.map_nil, List.append_nil]
    exact (if_neg Bool.false_ne_true).symm
  · rw [List.filter_cons_of_pos (by simp [hgo]), List.filter_nil]
    exact (if_pos rfl).symm

theorem tracks_step {c : Sleep} {m : Fsm} {tr : List (Sleeper × Round)} {s s' : Sleeper} {r : Round}
    (hi : Tracks c m tr s) (hs : step c s r = some s') : Tracks c m (tr ++ [(s, r)]) s' := by
  unfold step at hs
  split at hs
  · next hphase =>
      obtain ⟨hhere, huntil⟩ := hi.1 hphase
      unfold Tracks
      rw [alives_concat]
      cases hgo : c.goesOn s
      · rw [hgo, if_neg Bool.false_ne_true] at hs
        cases hs
        refine ⟨fun h => absurd h Phase.noConfusion, fun _ => ⟨hhere, ?_⟩⟩
        have hend := huntil []
        rw [List.append_nil] at hend
        exact hend
      · rw [hgo, if_pos rfl] at hs
        cases hs
        rw [if_pos rfl]
        have hround : ∀ more, m.aliveUntil c.state (alives c tr ++ [r.alive] ++ more) =
            if (s.fsm.alive r.alive).transitioned c.state then s.fsm.alive r.alive
            else (s.fsm.alive r.alive).aliveUntil c.state more := by
          intro more
          rw [List.append_assoc, huntil]
          rfl
        cases hwent : (s.fsm.alive r.alive).transitioned c.state
        · have hphase' : (r.body c s).phase = .asleep := by
            show (if (s.fsm.alive r.alive).transitioned c.state then _ else _) = _
            rw [hwent]
            rfl
          refine ⟨fun _ => ⟨hwent, fun more => ?_⟩, fun h => absurd hphase' h⟩
          rw [hround, hwent]
          rfl
        · have hphase' : (r.body c s).phase = .left := by
            show (if (s.fsm.alive r.alive).transitioned c.state then _ else _) = _
            rw [hwent]
            rfl
          refine ⟨fun h => absurd (hphase'.symm.trans h) (by decide), fun _ => ⟨?_, ?_⟩⟩
          · rw [hphase']
            exact hwent
          · have hend := hround []
            rw [List.append_nil, hwent] at hend
            exact hend
  · cases hs
  · cases hs

/-- **The loop is `sleep` of the state machine**, over the rounds that there was time for. -/
theorem run_sleep {c : Sleep} {flushed : Nat} {activity : Uptime} {m : Fsm}
    {tr : List (Sleeper × Round)} {s : Sleeper} (hcur : m.current = c.state)
    (h : Run (step c) (initial c flushed activity m) tr s) (hover : s.phase ≠ .asleep) :
    CoreDevice.sleep c.state (alives c tr) m = s.result := by
  have hstart : Tracks c m [] (initial c flushed activity m) := by
    refine ⟨fun _ => ⟨?_, fun _ => rfl⟩, fun h => absurd rfl h⟩
    exact decide_eq_false fun hne => hne hcur
  have htracks := h.inv_steps (Tracks c m) hstart fun tr s r s' hi hs => tracks_step hi hs
  obtain ⟨hwent, hend⟩ := htracks.2 hover
  unfold CoreDevice.sleep Sleeper.result
  dsimp only
  rw [hend, hwent]
  cases hphase : s.phase
  · exact absurd hphase hover
  · exact if_pos rfl
  · exact if_neg Bool.false_ne_true

/-! ## 4. As long as it is to -/

/-- What a round is for: the loop is over exactly from the time to stop on, and the watchdog is only
    used when more than its granularity remains. -/
def Honours (c : Sleep) (s : Sleeper) (r : Round) : Prop :=
  (c.goesOn s = true ↔ s.time < c.deadline) ∧
    (c.goesOn s = true → r.dozes c s = true →
      r.measuredAt s + sleepMaximumGranularity.toNat < c.deadline)

/-- When it is that: a check in front of the time to stop lies in its period of the clock, one behind
    it does not find the clock wrapped below it, and it is not behind it that the watchdog is taken. -/
def Sound (c : Sleep) (s : Sleeper) (r : Round) : Prop :=
  (s.time < c.deadline → s.time / period = c.deadline / period) ∧
    (c.deadline ≤ s.time → ¬ s.time % period < c.deadline % period) ∧
    (c.goesOn s = true → r.dozes c s = true → r.measuredAt s ≤ c.deadline)

section Loop

variable {c : Sleep} {s s' : Sleeper} {r : Round}

theorem Sleep.stopping_eq (hmax : c.maximum.toNat * 1000 < period) :
    c.stopping = clock c.deadline := by
  have hms : (c.maximum * 1000).toNat = c.maximum.toNat * 1000 := by
    rw [BitVec.toNat_mul]
    exact Nat.mod_eq_of_lt hmax
  rw [Sleep.stopping, clock_add, hms]
  rfl

theorem Sleep.goesOn_iff (hmax : c.maximum.toNat * 1000 < period) (s : Sleeper) :
    c.goesOn s = true ↔ s.time % period < c.deadline % period := by
  rw [Sleep.goesOn, decide_eq_true_iff, Sleep.stopping_eq hmax]
  exact clock_lt_iff s.time c.deadline

/-- What dozes has read more than the granularity. -/
theorem Round.left_of_dozes (h : r.dozes c s = true) : sleepMaximumGranularity < r.left c s := by
  unfold Round.dozes at h
  exact of_decide_eq_true (Bool.and_eq_true_iff.mp h).2

/-- **One round.** -/
theorem honours_iff_sound (hmax : c.maximum.toNat * 1000 < period) (hfrom : c.started ≤ s.time)
    (r : Round) : Honours c s r ↔ Sound c s r := by
  have hreach : c.deadline < s.time + period := by
    unfold Sleep.deadline
    omega
  have hgo := Sleep.goesOn_iff hmax s
  -- in front of the time to stop, and behind it
  have hchecks : (c.goesOn s = true ↔ s.time < c.deadline) ↔
      (s.time < c.deadline → s.time / period = c.deadline / period) ∧
        (c.deadline ≤ s.time → ¬ s.time % period < c.deadline % period) := by
    rw [hgo]
    rcases Nat.lt_or_ge s.time c.deadline with hearly | hlate
    · rw [mod_lt_mod_iff (Nat.le_of_lt hearly) hreach]
      constructor
      · intro h
        exact ⟨fun _ => (h.mpr hearly).2, fun hge => absurd hearly (Nat.not_lt.mpr hge)⟩
      · intro h
        exact ⟨fun hlt => hlt.1, fun hlt => ⟨hlt, h.1 hlt⟩⟩
    · constructor
      · intro h
        exact ⟨fun hlt => absurd hlt (Nat.not_lt.mpr hlate),
          fun _ hlt => absurd (h.mp hlt) (Nat.not_lt.mpr hlate)⟩
      · intro h
        exact ⟨fun hlt => absurd hlt (h.2 hlate), fun hlt => absurd hlt (Nat.not_lt.mpr hlate)⟩
  -- the difference is what remains as long as something does
  have hdoze : r.dozes c s = true →
      (r.measuredAt s + sleepMaximumGranularity.toNat < c.deadline ↔
        r.measuredAt s ≤ c.deadline) := by
    intro h
    have hleft := Round.left_of_dozes h
    constructor
    · intro hlt
      omega
    · intro hle
      have hwithin : c.deadline < r.measuredAt s + period := by
        unfold Round.measuredAt
        omega
      rw [Round.left, Sleep.stopping_eq hmax, BitVec.lt_def, clock_sub_toNat hle hwithin] at hleft
      omega
  unfold Honours Sound
  rw [hchecks, and_assoc]
  refine and_congr_right fun _ => and_congr_right fun _ => ?_
  constructor
  · intro h hgoes hdozes
    exact (hdoze hdozes).mp (h hgoes hdozes)
  · intro h hgoes hdozes
    exact (hdoze hdozes).mpr (h hgoes hdozes)

theorem Round.le_delayedTo (c : Sleep) (s : Sleeper) (r : Round) : s.time ≤ r.delayedTo c s := by
  unfold Round.delayedTo Round.measuredAt
  split
  · omega
  · split <;> omega

theorem time_step (hs : step c s r = some s') : s.time ≤ s'.time := by
  unfold step at hs
  split at hs
  · split at hs
    · cases hs
      exact Nat.le_trans (r.le_delayedTo c s) (Nat.le_add_right _ r.rest)
    · cases hs
      exact le_rfl
  · cases hs
  · cases hs

/-- **A whole run.** -/
theorem honoured_iff {flushed : Nat} {activity : Uptime} {m : Fsm} {tr : List (Sleeper × Round)}
    (hmax : c.maximum.toNat * 1000 < period)
    (h : Run (step c) (initial c flushed activity m) tr s) :
    Meets (Honours c) tr ↔ Meets (Sound c) tr :=
  h.meets_congr (Honours c) (Sound c) (fun s => c.started ≤ s.time)
    (Nat.le_add_right c.started flushed) (fun _ _ _ hi hs => Nat.le_trans hi (time_step hs))
    fun _ _ _ hi _ => honours_iff_sound hmax hi _

end Loop

/-! ## 5. What `Idle` hands to it -/

/-- `SleepLeadingWakeupSeconds` of tuning.h. -/
def sleepLeadingWakeupSeconds : BitVec 32 := 5

/-- What `Idle::task` hands to `Sleep`, if it is time to check the scheduler. -/
def sleepingFor (i : Idle) : Option (BitVec 32) :=
  match i.nextTask with
  | some time =>
    let seconds := time - i.nowUnix
    if sleepMinimumSeconds < seconds then some (seconds - sleepLeadingWakeupSeconds) else none
  | none => some 300

/-- It transits there exactly if there is something to hand over. -/
theorem idle_task_eq {i : Idle} {m : Fsm} (hdue : i.due = true)
    (hstays : ((m.alive i.alive).scheduledTasks i.scheduled).transitioned .idle = false) :
    i.task m = some (if (sleepingFor i).isSome
      then ((m.alive i.alive).scheduledTasks i.scheduled).transit .sleep
      else i.checkFiles ((m.alive i.alive).scheduledTasks i.scheduled)) := by
  unfold Idle.task sleepingFor
  dsimp only
  rw [if_pos hdue, hstays, if_neg Bool.false_ne_true]
  cases i.nextTask with
  | none => rfl
  | some time =>
      dsimp only
      split <;> rfl

/-- Besides its delay a round takes no more than four seconds. -/
def Round.Prompt (r : Round) : Prop := r.asked + r.measured + r.rest ≤ 4000

instance (r : Round) : Decidable r.Prompt := inferInstanceAs (Decidable (_ ≤ _))

section Handed

variable {c : Sleep} {s s' : Sleeper} {r : Round}

/-- A round that begins before the time to stop ends at most one delay behind it. -/
theorem body_time_lt (hearly : s.time < c.deadline) (hprompt : r.Prompt)
    (hdozes : r.dozes c s = true →
      r.measuredAt s + sleepMaximumGranularity.toNat < c.deadline) :
    (r.body c s).time < c.deadline + 5000 := by
  have hadjusted := watchdogSleep_add sleepMaximumGranularity.toNat
  unfold Round.Prompt at hprompt
  show r.delayedTo c s + r.rest < c.deadline + 5000
  unfold Round.delayedTo
  split
  · next h =>
      have hleft := hdozes h
      omega
  · split
    · unfold Round.measuredAt
      omega
    · omega

theorem handed_seconds {i : Idle} {time d : BitVec 32} (hnext : i.nextTask = some time)
    (hd : sleepingFor i = some d) : d.toNat + 5 = (time - i.nowUnix).toNat := by
  unfold sleepingFor at hd
  rw [hnext] at hd
  dsimp only at hd
  split at hd
  · next hlt =>
      cases hd
      have hmin : 5 < (time - i.nowUnix).toNat := hlt
      have hfive : sleepLeadingWakeupSeconds ≤ time - i.nowUnix := BitVec.le_def.mpr (Nat.le_of_lt hmin)
      rw [BitVec.toNat_sub_of_le hfive]
      show (time - i.nowUnix).toNat - 5 + 5 = _
      omega
  · cases hd

/-- **It ends before the next task is due**, as long as the rounds take no longer than that. -/
theorem handed_wakes {i : Idle} {time d : BitVec 32} (hnext : i.nextTask = some time)
    (hsoon : (time - i.nowUnix).toNat ≤ 2 ^ 32 / 1000) (hd : sleepingFor i = some d)
    (hhanded : c.maximum = d) {flushed : Nat} (hflushed : flushed < 5000) {activity : Uptime} {m : Fsm}
    {tr : List (Sleeper × Round)} (h : Run (step c) (initial c flushed activity m) tr s)
    (hsound : Meets (Sound c) tr) (hprompt : Meets (fun _ r => r.Prompt) tr) :
    s.time < c.started + (time - i.nowUnix).toNat * 1000 := by
  have hseconds := handed_seconds hnext hd
  rw [← hhanded] at hseconds
  have hmax : c.maximum.toNat * 1000 < period := by
    unfold period
    omega
  have hdue : c.deadline + 5000 = c.started + (time - i.nowUnix).toNat * 1000 := by
    unfold Sleep.deadline
    omega
  rw [← hdue]
  refine (h.inv_meets (fun s r => Sound c s r ∧ r.Prompt)
    (fun s => c.started ≤ s.time ∧ s.time < c.deadline + 5000) ?_ ?_ ?_).2
  · refine ⟨Nat.le_add_right c.started flushed, ?_⟩
    show c.started + flushed < c.deadline + 5000
    unfold Sleep.deadline
    omega
  · intro s r s' hi hmeets hs
    obtain ⟨hsound, hprompt⟩ := hmeets
    refine ⟨Nat.le_trans hi.1 (time_step hs), ?_⟩
    obtain ⟨hgoes, hdozes⟩ := (honours_iff_sound hmax hi.1 r).mpr hsound
    unfold step at hs
    split at hs
    · split at hs
      · next hgo =>
          cases hs
          exact body_time_lt (hgoes.mp hgo) hprompt (hdozes hgo)
      · cases hs
        exact hi.2
    · cases hs
    · cases hs
  · intro p hp
    exact ⟨hsound p hp, hprompt p hp⟩

end Handed

/-! ## 6. The whole -/

/-- **When `Sleep` sleeps as long as it is to**; and then what `Idle` has handed to it wakes the device
    before the task is due. -/
theorem sleeps_iff {c : Sleep} (hmax : c.maximum.toNat * 1000 < period) {flushed : Nat}
    {activity : Uptime} {m : Fsm} {tr : List (Sleeper × Round)} {s : Sleeper}
    (h : Run (step c) (initial c flushed activity m) tr s) :
    (Meets (Honours c) tr ↔ Meets (Sound c) tr) ∧
      (Meets (Sound c) tr → flushed < 5000 → Meets (fun _ r => r.Prompt) tr →
        ∀ (i : Idle) (time : BitVec 32), i.nextTask = some time →
          (time - i.nowUnix).toNat ≤ 2 ^ 32 / 1000 → sleepingFor i = some c.maximum →
            s.time < c.started + (time - i.nowUnix).toNat * 1000) :=
  ⟨honoured_iff hmax h, fun hsound hflushed hprompt _ _ hnext hsoon hd =>
    handed_wakes hnext hsoon hd rfl hflushed h hsound hprompt⟩

/-- Entered from `Idle`. -/
def entered : Fsm := { previous := some .idle, current := .sleep }

/-- A round in which nothing happens. -/
def quiet : Round :=
  { asked := 0, measured := 0, rest := 0, console := false, alive := {}, busy := false }

/-- A sleep of one second, for a task in six. -/
def second : Sleep := ⟨.sleep, true, 7, 1⟩

/-- What `Idle` reads then. -/
def sixSeconds : Idle :=
  { alive := {}, checked := 0, uptime := 1000, nowUnix := 100, nextTask := some 106, errors := false }

instance (c : Sleep) (s : Sleeper) (r : Round) : Decidable (Sound c s r) :=
  inferInstanceAs (Decidable (_ ∧ _))

/-- The second is slept, and the task is still to come. -/
theorem second_slept : ∃ tr s, Run (step second) (initial second 0 0 entered) tr s ∧
    s.phase = .returned ∧ Meets (Honours second) tr ∧ s.time < 7 + 6000 := by
  have hexec : ∃ s, exec (guarded (fun s r => Sound second s r ∧ r.Prompt) (step second))
      (initial second 0 0 entered) [quiet, quiet, quiet] = some s ∧ s.phase = .returned := by
    refine ⟨⟨.returned, 1017, true, 0, entered⟩, ?_, rfl⟩
    decide
  obtain ⟨s, hexec, hreturned⟩ := hexec
  obtain ⟨tr, hguarded, _⟩ := run_of_exec hexec
  obtain ⟨hrun, hmeets⟩ := hguarded.of_guarded
  obtain ⟨hhonours, hwakes⟩ := sleeps_iff (c := second) (by decide) hrun
  have hsound : Meets (Sound second) tr := fun p hp => (hmeets p hp).1
  exact ⟨tr, s, hrun, hreturned, hhonours.mpr hsound,
    hwakes hsound (by decide) (fun p hp => (hmeets p hp).2) sixSeconds 106 rfl (by decide) (by decide)⟩

/-- Ten seconds, one second before the clock wraps. -/
def acrossWrap : Sleep := ⟨.sleep, true, 2 ^ 32 - 1000, 10⟩

/-- One second, up to the last millisecond before the clock wraps. -/
def upToWrap : Sleep := ⟨.sleep, true, 2 ^ 32 - 1001, 1⟩

/-- Behind it: the clock has wrapped. -/
def wrapped : Sleeper := ⟨.asleep, 2 ^ 32 + 9, true, 0, entered⟩

/-- **When the clock wraps**: it returns at once; and with nothing left it sleeps on, with the
    watchdog. -/
theorem sleep_wrapped :
    (∃ tr s, Run (step acrossWrap) (initial acrossWrap 0 0 entered) tr s ∧
      ¬ Meets (Honours acrossWrap) tr) ∧
    (∃ tr s, Run (step upToWrap) (initial upToWrap 0 0 entered) tr s ∧
      ¬ Meets (Honours upToWrap) tr) := by
  constructor
  · refine ⟨_, _, .step [] _ quiet _ .start (by decide : step acrossWrap
      (initial acrossWrap 0 0 entered) quiet =
        some ⟨.returned, 2 ^ 32 - 1000, false, 0, entered⟩), fun h => ?_⟩
    have hround := h _ (List.mem_append_right _ (List.mem_singleton.mpr rfl))
    exact absurd (hround.1.mpr (by decide)) (by decide)
  · have hexec : exec (step upToWrap) (initial upToWrap 0 0 entered) [quiet, quiet] =
        some wrapped := by decide
    obtain ⟨tr, hrun, _⟩ := run_of_exec hexec
    have hgo : upToWrap.goesOn wrapped = true := by decide
    refine ⟨_, _, .step tr wrapped quiet _ hrun (step_body quiet rfl hgo), fun h => ?_⟩
    have hround := h _ (List.mem_append_right _ (List.mem_singleton.mpr rfl))
    exact absurd (hround.1.mp hgo) (by decide)

end FieldKit.Sleeping

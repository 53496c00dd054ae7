/-
  File:      FieldKit/Core/UserButton.lean
  Subject:   The button (user_button.cpp): a task and an interrupt handler that share their members.

  The handler runs at any time, also between two statements of the task; the task looks now and then.
  One step is the handler, a statement of the task, or time that passes. A press is what the handler
  has seen; what the LEDs show is left out.

  * `button_truthful` -- if the button does not change while the task measures it or reads what is
    pending, and no press takes `2^32` ms, every event that is sent is that of its press: no more
    than the press was long, no less than it was when the task last found it down;
  * `button_once` -- whatever the order, no press is sent twice;
  * `tap_turns_off` -- a tap that comes up while it is measured, and is sent as a long press.
-/
import FieldKit.Lib.Run
import FieldKit.Core.Fsm

namespace FieldKit.UserButton

open Lib CoreDevice

/-! ## 1. The machine -/

/-- `PendingButtonEvent`. -/
inductive PendingButtonEvent where
  | none
  | short
  | long
  deriving DecidableEq, Repr

/-- `ButtonShortPressDuration` of tuning.h. -/
def buttonShortPressDuration : Uptime := 2 * seconds

/-- `ButtonLongPressDuration` of tuning.h. -/
def buttonLongPressDuration : Uptime := 5 * seconds

/-- Where the task is: before the statement that is named. -/
inductive Place where
  | idle
  | changed
  | released
  | clear
  | settle
  | held
  | notify
  | notified
  | long
  | setLong
  | short
  | setShort
  deriving DecidableEq, Repr

/-- An event that was sent. `held` is how long its press was, `seen` how long it had been when the
    task last found the button down. -/
structure Sent where
  event : ButtonEvent
  seen : Nat
  held : Nat
  deriving DecidableEq, Repr

/-- `UserButton`, and the clock. What is not in the source: when the last press has begun and ended
    (`down`, `up`), how long it had been when the task found it down (`looked` the one that is running,
    `seen` the last one), how many there were, and what was sent. -/
structure Button where
  wasPressed : Bool := false
  pressed : Bool := false
  changedAt : Uptime := 0
  notified : Uptime := 0
  pending : PendingButtonEvent := .none
  place : Place := .idle
  now : Nat := 0
  down : Nat := 0
  up : Nat := 0
  looked : Nat := 0
  seen : Nat := 0
  presses : Nat := 0
  sent : List Sent := []
  deriving DecidableEq, Repr

namespace Button

/-- `fk_uptime()`. -/
def uptime (b : Button) : Uptime := BitVec.ofNat 32 b.now

/-- How long the last press is, or was. -/
def held (b : Button) : Nat := (if b.pressed then b.now else b.up) - b.down

/-- `handler()`, when the pin reads `value`. -/
def handler (value : Bool) (b : Button) : Button :=
  if value ≠ b.pressed then
    if value then
      { b with
        pressed := true, pending := .none, changedAt := b.uptime, notified := 0
        down := b.now, seen := 0, presses := b.presses + 1 }
    else { b with pressed := false, changedAt := 0, up := b.now }
  else b

end Button

/-- The event that is sent for what is pending. -/
def PendingButtonEvent.event : PendingButtonEvent → ButtonEvent
  | .long => .longButtonPress
  | .short => .shortButtonPress
  | .none => .minorButtonPress

/-- One statement of `task()`. -/
def Button.task (b : Button) : Button :=
  match b.place with
  | .idle => { b with place := if b.wasPressed ≠ b.pressed then .changed else .held }
  | .changed => { b with place := if b.pressed then .settle else .released }
  | .released =>
    { b with
      place := .clear, seen := 0, sent := b.sent ++ [⟨b.pending.event, b.seen, b.held⟩] }
  | .clear => { b with place := .settle, pending := .none }
  | .settle => { b with place := .held, wasPressed := b.pressed }
  | .held =>
    if b.pressed then { b with place := .notify, looked := b.held } else { b with place := .idle }
  | .notify => { b with place := if 250 < b.uptime - b.notified then .notified else .long }
  | .notified => { b with place := .long, notified := b.uptime }
  | .long =>
    { b with place := if buttonLongPressDuration < b.uptime - b.changedAt then .setLong else .short }
  | .setLong => { b with place := .idle, pending := .long, seen := b.looked }
  | .short =>
    if buttonShortPressDuration < b.uptime - b.changedAt then { b with place := .setShort }
    else { b with place := .idle, seen := b.looked }
  | .setShort => { b with place := .idle, pending := .short, seen := b.looked }

/-- What happens to the button. -/
inductive Event where
  | tick (n : Nat)
  | handler (value : Bool)
  | task
  deriving DecidableEq, Repr

/-- **The machine**: the handler between any two statements. -/
def Button.step (b : Button) : Event → Option Button
  | .tick n => some { b with now := b.now + n }
  | .handler value => some (b.handler value)
  | .task => some b.task

/-! ## 2. Every event is that of its press -/

/-- What a press of so many milliseconds is: minor, short or long. -/
def kind (t : Nat) : Nat := if 5000 < t then 2 else if 2000 < t then 1 else 0

/-- The same of an event. -/
def rank : ButtonEvent → Nat
  | .minorButtonPress => 0
  | .shortButtonPress => 1
  | .longButtonPress => 2

/-- **The event is that of its press.** -/
def Sent.Right (r : Sent) : Prop := kind r.seen ≤ rank r.event ∧ rank r.event ≤ kind r.held

/-- The places at which the pin may change, and those at which it may come up; and the task finds no press
    that is as long as the clock goes. -/
def Calm (b : Button) : Event → Prop
  | .handler value => value ≠ b.pressed →
      b.place = .idle ∨ b.place = .changed ∨ b.place = .clear ∨ b.place = .settle ∨ b.place = .held ∨
        (value = false ∧ (b.place = .setLong ∨ b.place = .setShort))
  | .task => b.pressed = true → b.held < 2 ^ 32
  | .tick _ => True

instance (b : Button) (e : Event) : Decidable (Calm b e) := by
  unfold Calm
  split <;> infer_instance

theorem kind_le_two (t : Nat) : kind t ≤ 2 := by
  unfold kind
  split
  · exact Nat.le_refl _
  · split <;> omega

theorem kind_mono {s t : Nat} (h : s ≤ t) : kind s ≤ kind t := by
  unfold kind
  split
  · rw [if_pos (by omega)]
  · split <;> split <;> (try split) <;> omega

theorem kind_le_one {t : Nat} (h : t ≤ 5000) : kind t ≤ 1 := by
  unfold kind
  rw [if_neg (by omega)]
  split <;> omega

theorem kind_eq_zero {t : Nat} (h : t ≤ 2000) : kind t = 0 := by
  unfold kind
  rw [if_neg (by omega), if_neg (by omega)]

/-- What the task relies on at a place. -/
def Ready (b : Button) : Place → Prop
  | .released => b.pressed = false
  | .clear => b.seen = 0
  | .notify | .notified | .long => b.pressed = true ∧ b.looked ≤ b.held
  | .short => b.pressed = true ∧ b.looked ≤ b.held ∧ b.looked ≤ 5000
  | .setLong => 5000 < b.held
  | .setShort => 2000 < b.held ∧ b.looked ≤ 5000
  | _ => True

/-- **The invariant.** -/
structure Sound (b : Button) : Prop where
  down : b.down ≤ b.now
  changedAt : b.pressed = true → b.changedAt = BitVec.ofNat 32 b.down
  seen : kind b.seen ≤ rank b.pending.event
  held : rank b.pending.event ≤ kind b.held
  ready : Ready b b.place
  sent : ∀ r ∈ b.sent, r.Right

variable {b b' : Button}

/-- The time of the press may grow, and the button come up where nothing measures it. -/
theorem Ready.mono {p : Place} (h : Ready b p) (hheld : b.held ≤ b'.held)
    (hlooked : b'.looked = b.looked) (hseen : b'.seen = b.seen)
    (hpressed : b'.pressed = b.pressed ∨ p = .setLong ∨ p = .setShort) : Ready b' p := by
  cases p with
  | released =>
      rcases hpressed with hpressed | hp | hp
      · exact hpressed.trans h
      · cases hp
      · cases hp
  | clear => exact hseen.trans h
  | notify | notified | long =>
      rcases hpressed with hpressed | hp | hp
      · exact ⟨hpressed.trans h.1, by rw [hlooked]; exact h.2.trans hheld⟩
      · cases hp
      · cases hp
  | short =>
      rcases hpressed with hpressed | hp | hp
      · exact ⟨hpressed.trans h.1, by rw [hlooked]; exact h.2.1.trans hheld, by rw [hlooked]; exact h.2.2⟩
      · cases hp
      · cases hp
  | setLong => exact Nat.lt_of_lt_of_le h hheld
  | setShort => exact ⟨Nat.lt_of_lt_of_le h.1 hheld, by rw [hlooked]; exact h.2⟩
  | _ => trivial

theorem tick_sound (h : Sound b) (n : Nat) : Sound { b with now := b.now + n } := by
  have hle : b.held ≤ ({ b with now := b.now + n } : Button).held := by
    unfold Button.held
    dsimp only
    split <;> omega
  exact ⟨Nat.le_add_right_of_le h.down, h.changedAt, h.seen, h.held.trans (kind_mono hle),
    h.ready.mono hle rfl rfl (Or.inl rfl), h.sent⟩

theorem press_sound (h : Sound b) (hp : b.pressed = false) (hcalm : Calm b (.handler true)) :
    Sound (b.handler true) := by
  have hpress : b.handler true = { b with
      pressed := true, pending := .none, changedAt := b.uptime, notified := 0
      down := b.now, seen := 0, presses := b.presses + 1 } := by
    unfold Button.handler
    rw [hp, if_pos (by decide), if_pos rfl]
  rw [hpress]
  refine ⟨Nat.le_refl _, fun _ => rfl, Nat.le_refl _, Nat.zero_le _, ?_, h.sent⟩
  rcases hcalm (by rw [hp]; decide) with hplace | hplace | hplace | hplace | hplace | ⟨hv, _⟩
  · show Ready _ b.place
    rw [hplace]
    trivial
  · show Ready _ b.place
    rw [hplace]
    trivial
  · show Ready _ b.place
    rw [hplace]
    rfl
  · show Ready _ b.place
    rw [hplace]
    trivial
  · show Ready _ b.place
    rw [hplace]
    trivial
  · cases hv

theorem release_sound (h : Sound b) (hp : b.pressed = true) (hcalm : Calm b (.handler false)) :
    Sound (b.handler false) := by
  have hrelease : b.handler false = { b with pressed := false, changedAt := 0, up := b.now } := by
    unfold Button.handler
    rw [hp, if_pos (by decide), if_neg (by decide)]
  have hheld : ({ b with pressed := false, changedAt := 0, up := b.now } : Button).held = b.held := by
    unfold Button.held
    rw [hp]
    rfl
  rw [hrelease]
  refine ⟨h.down, nofun, h.seen, by rw [hheld]; exact h.held, ?_, h.sent⟩
  have hready := h.ready
  show Ready _ b.place
  rcases hcalm (by rw [hp]; decide) with hplace | hplace | hplace | hplace | hplace | ⟨_, hplace⟩
  · rw [hplace]
    trivial
  · rw [hplace]
    trivial
  · rw [hplace] at hready ⊢
    exact hready
  · rw [hplace]
    trivial
  · rw [hplace]
    trivial
  · exact hready.mono (Nat.le_of_eq hheld.symm) rfl rfl (Or.inr hplace)

/-- The handler. -/
theorem handler_sound {value : Bool} (h : Sound b) (hcalm : Calm b (.handler value)) :
    Sound (b.handler value) := by
  cases hp : b.pressed with
  | false =>
      cases value with
      | true => exact press_sound h hp hcalm
      | false =>
          have hsame : b.handler false = b := by
            unfold Button.handler
            rw [hp, if_neg (by decide)]
          rw [hsame]
          exact h
  | true =>
      cases value with
      | false => exact release_sound h hp hcalm
      | true =>
          have hsame : b.handler true = b := by
            unfold Button.handler
            rw [hp, if_neg (by decide)]
          rw [hsame]
          exact h

/-- What the task reads off the clock is the time of the press. -/
theorem uptime_sub (h : Sound b) (hp : b.pressed = true) (hshort : b.held < 2 ^ 32) :
    (b.uptime - b.changedAt).toNat = b.held := by
  have hheld : b.held = b.now - b.down := by
    unfold Button.held
    rw [if_pos hp]
  have hle := h.down
  rw [h.changedAt hp, Button.uptime, BitVec.toNat_sub, BitVec.toNat_ofNat, BitVec.toNat_ofNat]
  omega

theorem kind_long {t : Nat} (h : 5000 < t) : 2 ≤ kind t := by
  unfold kind
  rw [if_pos h]

theorem kind_short {t : Nat} (h : 2000 < t) : 1 ≤ kind t := by
  unfold kind
  rw [if_pos h]
  split <;> omega

/-- The comparison with `ButtonLongPressDuration`. -/
theorem long_sound (h : Sound b) (hplace : b.place = .long) (hcalm : Calm b .task) :
    Sound { b with
      place := if buttonLongPressDuration < b.uptime - b.changedAt then .setLong else .short } := by
  obtain ⟨hp, hlooked⟩ : b.pressed = true ∧ b.looked ≤ b.held := by
    have hready := h.ready
    rw [hplace] at hready
    exact hready
  have htime := uptime_sub h hp (hcalm hp)
  refine ⟨h.down, h.changedAt, h.seen, h.held, ?_, h.sent⟩
  show Ready _ (if _ then _ else _)
  split
  · next hlong =>
      have hlong : 5000 < (b.uptime - b.changedAt).toNat := hlong
      rw [htime] at hlong
      exact hlong
  · next hlong =>
      have hle : (b.uptime - b.changedAt).toNat ≤ 5000 := Nat.le_of_not_lt hlong
      rw [htime] at hle
      exact ⟨hp, hlooked, hlooked.trans hle⟩

/-- The comparison with `ButtonShortPressDuration`. -/
theorem short_sound (h : Sound b) (hplace : b.place = .short) (hcalm : Calm b .task) :
    Sound (if buttonShortPressDuration < b.uptime - b.changedAt then { b with place := .setShort }
      else { b with place := .idle, seen := b.looked }) := by
  obtain ⟨hp, hlooked, hle⟩ : b.pressed = true ∧ b.looked ≤ b.held ∧ b.looked ≤ 5000 := by
    have hready := h.ready
    rw [hplace] at hready
    exact hready
  have htime := uptime_sub h hp (hcalm hp)
  split
  · next hshort =>
      have hshort : 2000 < (b.uptime - b.changedAt).toNat := hshort
      rw [htime] at hshort
      exact ⟨h.down, h.changedAt, h.seen, h.held, ⟨hshort, hle⟩, h.sent⟩
  · next hshort =>
      have hminor : (b.uptime - b.changedAt).toNat ≤ 2000 := Nat.le_of_not_lt hshort
      rw [htime] at hminor
      refine ⟨h.down, h.changedAt, ?_, h.held, trivial, h.sent⟩
      show kind b.looked ≤ _
      rw [kind_eq_zero (hlooked.trans hminor)]
      exact Nat.zero_le _

/-- The event is sent. -/
theorem released_sound (h : Sound b) : Sound { b with
    place := .clear, seen := 0, sent := b.sent ++ [⟨b.pending.event, b.seen, b.held⟩] } := by
  refine ⟨h.down, h.changedAt, ?_, h.held, rfl, fun r hr => ?_⟩
  · show kind 0 ≤ _
    rw [kind_eq_zero (Nat.zero_le _)]
    exact Nat.zero_le _
  · rcases List.mem_append.mp hr with hr | hr
    · exact h.sent r hr
    · cases List.mem_singleton.mp hr
      exact ⟨h.seen, h.held⟩

/-- **A statement of the task.** -/
theorem task_sound (h : Sound b) (hcalm : Calm b .task) : Sound b.task := by
  have hready := h.ready
  unfold Button.task
  split
  · refine ⟨h.down, h.changedAt, h.seen, h.held, ?_, h.sent⟩
    show Ready _ (if _ then _ else _)
    split <;> trivial
  · refine ⟨h.down, h.changedAt, h.seen, h.held, ?_, h.sent⟩
    show Ready _ (if _ then _ else _)
    split
    · trivial
    · next hup => exact Bool.eq_false_iff.mpr hup
  · exact released_sound h
  · next hplace =>
      rw [hplace] at hready
      have hseen : b.seen = 0 := hready
      refine ⟨h.down, h.changedAt, ?_, Nat.zero_le _, trivial, h.sent⟩
      show kind b.seen ≤ 0
      rw [hseen, kind_eq_zero (Nat.zero_le _)]
  · exact ⟨h.down, h.changedAt, h.seen, h.held, trivial, h.sent⟩
  · split
    · next hp => exact ⟨h.down, h.changedAt, h.seen, h.held, ⟨hp, Nat.le_refl _⟩, h.sent⟩
    · exact ⟨h.down, h.changedAt, h.seen, h.held, trivial, h.sent⟩
  · next hplace =>
      rw [hplace] at hready
      refine ⟨h.down, h.changedAt, h.seen, h.held, ?_, h.sent⟩
      show Ready _ (if _ then _ else _)
      split <;> exact hready
  · next hplace =>
      rw [hplace] at hready
      exact ⟨h.down, h.changedAt, h.seen, h.held, hready, h.sent⟩
  · next hplace => exact long_sound h hplace hcalm
  · next hplace =>
      rw [hplace] at hready
      have hlong : 5000 < b.held := hready
      exact ⟨h.down, h.changedAt, kind_le_two _, kind_long hlong, trivial, h.sent⟩
  · next hplace => exact short_sound h hplace hcalm
  · next hplace =>
      rw [hplace] at hready
      obtain ⟨hshort, hle⟩ : 2000 < b.held ∧ b.looked ≤ 5000 := hready
      exact ⟨h.down, h.changedAt, kind_le_one hle, kind_short hshort, trivial, h.sent⟩

theorem step_sound {e : Event} (h : Sound b) (hcalm : Calm b e) (hs : b.step e = some b') :
    Sound b' := by
  cases e with
  | tick n =>
      cases hs
      exact tick_sound h n
  | handler value =>
      cases hs
      exact handler_sound h hcalm
  | task =>
      cases hs
      exact task_sound h hcalm

/-- **Every event that is sent is that of its press**, in every order of the handler and the statements
    of the task in which the button does not change while it is measured. -/
theorem button_truthful {tr : List (Button × Event)} (h : Run Button.step {} tr b)
    (hC : Meets Calm tr) : ∀ r ∈ b.sent, r.Right := by
  have hinit : Sound {} := ⟨Nat.le_refl _, nofun, Nat.le_refl _, Nat.le_refl _, trivial, nofun⟩
  exact (h.inv_meets Calm Sound hinit (fun _ _ _ hi hc hs => step_sound hi hc hs) hC).sent

/-- Until a task has come to its end. -/
def toIdle (n : Nat) : List Event := List.replicate n .task

/-- A press of six seconds, between the tasks. -/
def longPress : List Event :=
  [.handler true] ++ toIdle 8 ++ [.tick 6000] ++ toIdle 6 ++ [.handler false] ++ toIdle 7

/-- It is sent as a long press, and so it should be. -/
theorem button_truthful_long : ∃ r : Sent, r = ⟨.longButtonPress, 6000, 6000⟩ ∧ r.Right := by
  have hexec : (exec (guarded Calm Button.step) {} longPress).map Button.sent =
      some [⟨.longButtonPress, 6000, 6000⟩] := by
    decide +kernel
  obtain ⟨tr, b, hrun, hsent⟩ := run_of_exec_map hexec
  obtain ⟨hrun, hC⟩ := hrun.of_guarded
  exact ⟨_, rfl, button_truthful hrun hC _ (by rw [hsent]; exact List.mem_singleton.mpr rfl)⟩

/-- A tap of 50 ms that comes up while it is measured. -/
def tap : List Event :=
  [.tick 10000, .handler true] ++ toIdle 6 ++ [.tick 50, .handler false] ++ toIdle 5

/-- **It is sent as a long press**, which turns the device off: `changedAt_` is 0 by then. -/
theorem tap_turns_off : ∃ tr b, Run Button.step {} tr b ∧
    b.sent = [⟨.longButtonPress, 0, 50⟩] := by
  have hexec : (exec Button.step {} tap).map Button.sent = some [⟨.longButtonPress, 0, 50⟩] := by
    decide +kernel
  exact run_of_exec_map hexec

/-! ## 3. No press is sent twice -/

/-- The events that can still come of the presses so far, from where the task is. -/
def owed (wasPressed pressed : Bool) : Place → Nat
  | .changed => 1
  | .released => if pressed then 2 else 1
  | .clear | .settle => if pressed then 1 else 0
  | _ => if wasPressed || pressed then 1 else 0

theorem owed_press (wasPressed : Bool) (p : Place) :
    owed wasPressed true p ≤ owed wasPressed false p + 1 := by
  cases p <;> cases wasPressed <;> decide

theorem owed_release (wasPressed : Bool) (p : Place) :
    owed wasPressed false p ≤ owed wasPressed true p := by
  cases p <;> cases wasPressed <;> decide

/-- What was sent and what can still come are no more than the presses. -/
def Counted (b : Button) : Prop := b.sent.length + owed b.wasPressed b.pressed b.place ≤ b.presses

theorem handler_counted (h : Counted b) (value : Bool) : Counted (b.handler value) := by
  unfold Counted at h
  unfold Button.handler
  split
  · next hchange =>
      split
      · next hv =>
          have hp : b.pressed = false := by
            rw [hv] at hchange
            exact Bool.eq_false_iff.mpr fun hp => hchange hp.symm
          rw [hp] at h
          have hle := owed_press b.wasPressed b.place
          show b.sent.length + owed b.wasPressed true b.place ≤ b.presses + 1
          omega
      · next hv =>
          have hp : b.pressed = true := by
            rw [Bool.eq_false_iff.mpr hv] at hchange
            exact Bool.eq_true_of_not_eq_false fun hp => hchange hp.symm
          rw [hp] at h
          exact (Nat.add_le_add_left (owed_release b.wasPressed b.place) _).trans h
  · exact h

theorem task_counted (h : Counted b) : Counted b.task := by
  unfold Counted at h
  unfold Button.task
  split
  · next hplace =>
      rw [hplace] at h
      show b.sent.length + owed b.wasPressed b.pressed (if _ then _ else _) ≤ b.presses
      split
      · next hne =>
          have hone : owed b.wasPressed b.pressed .changed = owed b.wasPressed b.pressed .idle := by
            revert hne
            cases b.wasPressed <;> cases b.pressed <;> decide
          rw [hone]
          exact h
      · exact h
  · next hplace =>
      rw [hplace] at h
      show b.sent.length + owed b.wasPressed b.pressed (if _ then _ else _) ≤ b.presses
      split
      · next hp =>
          rw [hp] at h ⊢
          exact h
      · next hp =>
          rw [Bool.eq_false_iff.mpr hp] at h ⊢
          exact h
  · next hplace =>
      rw [hplace] at h
      show (b.sent ++ [_]).length + owed b.wasPressed b.pressed .clear ≤ b.presses
      have hone : owed b.wasPressed b.pressed .clear + 1 = owed b.wasPressed b.pressed .released := by
        cases b.pressed <;> rfl
      rw [List.length_append, List.length_singleton]
      omega
  · next hplace =>
      rw [hplace] at h
      exact h
  · next hplace =>
      rw [hplace] at h
      have hone : owed b.pressed b.pressed .held = owed b.wasPressed b.pressed .settle := by
        cases b.pressed <;> rfl
      show b.sent.length + owed b.pressed b.pressed .held ≤ b.presses
      rw [hone]
      exact h
  all_goals
    next hplace =>
      rw [hplace] at h
      first
      | exact h
      | split <;> exact h

/-- **No press is sent twice**, in any order of the handler and the statements of the task. -/
theorem button_once {tr : List (Button × Event)} (h : Run Button.step {} tr b) :
    b.sent.length ≤ b.presses := by
  have hcounted : Counted b := by
    refine h.inv Counted (Nat.le_refl _) fun s e s' hi hs => ?_
    cases e with
    | tick n =>
        cases hs
        exact hi
    | handler value =>
        cases hs
        exact handler_counted hi value
    | task =>
        cases hs
        exact task_counted hi
  exact (Nat.le_add_right _ _).trans hcounted

/-- The tap above was sent once. -/
theorem button_once_tap : ∃ tr b, Run Button.step {} tr b ∧ b.sent ≠ [] ∧
    b.sent.length ≤ b.presses := by
  have hexec : (exec Button.step {} tap).map Button.sent = some [⟨.longButtonPress, 0, 50⟩] := by
    decide +kernel
  obtain ⟨tr, b, hrun, hsent⟩ := run_of_exec_map hexec
  exact ⟨tr, b, hrun, by rw [hsent]; exact List.cons_ne_nil _ _, button_once hrun⟩

end FieldKit.UserButton

/-
  File:      FieldKit/Leds.lean
  Subject:   The animations of the LED (leds.cpp): three slots, searched by priority.

  What the pixel shows is the hardware's. `active_` of an animation is never read, and is left out.

  * `keyed_iff` -- in which runs the slots are a set keyed by priority: a priority is cancelled
    only while the last slot is free or holds it, and the lowest one is not pushed twice;
  * `cancelled_comes_back` -- a run in which an animation is copied by the cancel of another.
-/
import FieldKit.Lib.Run
import FieldKit.Platform

namespace FieldKit.Leds

open Lib

/-! ## 1. Animations -/

/-- `AnimationType`. -/
inductive AnimationType where
  | none
  | done
  | static
  | blink
  | fade
  | wheel
  deriving DecidableEq, Repr

/-- `Priority`: an `enum class` over `uint8_t`. -/
abbrev Priority := BitVec 8

namespace Priority

def Lowest : Priority := 0
def Normal : Priority := 1
def Wifi : Priority := 20
def Alive : Priority := 25
def Readings : Priority := 30
def Button : Priority := 200
def Highest : Priority := 255

end Priority

/-- `get_color`. -/
def getColor (r g b : BitVec 8) : BitVec 32 :=
  (r.zeroExtend 32 <<< 16) ||| (g.zeroExtend 32 <<< 8) ||| b.zeroExtend 32

/-- `LedAnimation`; the default is `LedAnimation{ }`, which is none. -/
structure LedAnimation where
  type : AnimationType := .none
  priority : Priority := Priority.Lowest
  color : BitVec 32 := 0
  period : BitVec 16 := 0
  duration : BitVec 16 := 0
  started : Uptime := 0
  deriving DecidableEq, Repr

namespace LedAnimation

/-- `none()`. -/
def none (la : LedAnimation) : Bool := decide (la.type = .none)

/-- `done()`. -/
def done (la : LedAnimation) : Bool := decide (la.type = .done)

/-- The color of a wheel, `elapsed` into it. -/
def wheel (elapsed period : BitVec 32) : BitVec 32 :=
  let factor := (elapsed % period) * 255 / period
  let position := 255 - factor % 255
  if position < 85 then
    getColor ((255 - position * 3).truncate 8) 0 ((position * 3).truncate 8)
  else if position < 170 then
    getColor 0 (((position - 85) * 3).truncate 8) ((255 - (position - 85) * 3).truncate 8)
  else
    getColor (((position - 170) * 3).truncate 8) ((255 - (position - 170) * 3).truncate 8) 0

/-- The color of a fade: every channel is scaled. -/
def fade (color elapsed period : BitVec 32) : BitVec 32 :=
  let half := period / 2
  let factor := if half < elapsed % period then period - elapsed % period else elapsed % period
  let channel (c : BitVec 32) : BitVec 8 := ((c &&& 0xff) * factor / half).truncate 8
  getColor (channel (color >>> 16)) (channel (color >>> 8)) (channel color)

/-- `update()`, at `now`: the color, and the animation, which is done when its time is over. -/
def update (now : Uptime) (la : LedAnimation) : BitVec 32 × LedAnimation :=
  let elapsed := now - la.started
  let period := la.period.zeroExtend 32
  if 0 < la.duration ∧ la.duration.zeroExtend 32 < elapsed then (0, { la with type := .done })
  else
    match la.type with
    | .static => (la.color, la)
    | .wheel => (wheel elapsed period, la)
    | .blink => (if elapsed % period < period / 2 then la.color else 0, la)
    | .fade => (fade la.color elapsed period, la)
    | .none | .done => (0, la)

end LedAnimation

/-! ## 2. The slots -/

/-- `active_`. -/
abbrev Slots := Vector LedAnimation 3

/-- The slots from the first to the last. -/
def order : List (Fin 3) := [0, 1, 2]

/-- `get_available`; `none` is `ActiveSize`. -/
def getAvailable (priority : Priority) (active : Slots) : Option (Fin 3) :=
  (order.find? fun i => active[i].priority = priority) <|>
    (order.find? fun i => active[i].none) <|>
    (order.find? fun i => active[i].priority < priority)

/-- `pushAnimation(disabled, incoming)`. -/
def pushAnimation (disabled : Bool) (incoming : LedAnimation) (active : Slots) : Slots :=
  if disabled then active
  else
    match getAvailable incoming.priority active with
    | some available => active.set available incoming
    | none => active

/-- One slot of `cancel`: it is cleared, and then every slot from it on is copied into it. -/
def cancelAt (priority : Priority) (active : Slots) (i : Fin 3) : Slots :=
  if active[i].priority = priority then
    (order.filter (i ≤ ·)).foldl (fun active j => active.set i.val active[j.val])
      (active.set i.val {})
  else active

/-- `cancel(priority)`. -/
def cancel (priority : Priority) (active : Slots) : Slots := order.foldl (cancelAt priority) active

/-- The loop of `Leds::task`, with what it carries along. -/
structure Selection where
  active : Slots
  selected : Priority := Priority.Lowest
  color : BitVec 32 := 0

/-- One slot of `task`. -/
def taskAt (now : Uptime) (s : Selection) (i : Fin 3) : Selection :=
  if s.active[i].none then s
  else if s.active[i].done then { s with active := s.active.set i {} }
  else if s.selected < s.active[i].priority then
    let (color, la) := s.active[i].update now
    { active := s.active.set i la, selected := s.active[i].priority, color }
  else s

/-- `task()`, at `now`, with the color it shows. -/
def task (now : Uptime) (active : Slots) : Selection := order.foldl (taskAt now) { active }

/-- `off()`. -/
def off (active : Slots) : Slots := order.foldl (fun active i => active.set i.val {}) active

/-! ## 3. The machine -/

/-- What can happen to the slots. -/
inductive Input where
  | push (incoming : LedAnimation)
  | cancel (priority : Priority)
  | task (now : Uptime)
  | off
  deriving DecidableEq, Repr

/-- The LED is not disabled. -/
def next (active : Slots) : Input → Slots
  | .push incoming => pushAnimation false incoming active
  | .cancel priority => Leds.cancel priority active
  | .task now => (Leds.task now active).active
  | .off => Leds.off active

def step (active : Slots) (i : Input) : Option Slots := some (next active i)

/-- No slot is occupied. -/
def empty : Slots := Vector.replicate 3 {}

/-- The slot holds an animation. -/
def Occupied (la : LedAnimation) : Prop := la.type ≠ .none

instance (la : LedAnimation) : Decidable (Occupied la) := inferInstanceAs (Decidable (_ ≠ _))

/-- **No two occupied slots have the same priority.** -/
def Unique (active : Slots) : Prop :=
  ∀ i j : Fin 3, Occupied active[i] → Occupied active[j] →
    active[i].priority = active[j].priority → i = j

/-- What a step is to leave: a push takes one slot and no other, or is dropped by slots that all hold a
    priority at least as high, and a cancel leaves every animation but its own, once. -/
def Leaves (active active' : Slots) : Input → Prop
  | .push incoming =>
      (∃ j : Fin 3, active'[j] = incoming ∧ ∀ i : Fin 3, i ≠ j → active'[i] = active[i]) ∨
        active' = active ∧
          ∀ i : Fin 3, Occupied active[i] ∧ incoming.priority ≤ active[i].priority
  | .cancel priority => ∀ i : Fin 3,
      (Occupied active'[i] → active'[i].priority ≠ priority) ∧
        (Occupied active[i] → active[i].priority ≠ priority →
          ∃ j : Fin 3, active'[j] = active[i] ∧ ∀ k : Fin 3, active'[k] = active[i] → k = j)
  | .task _ => True
  | .off => True

/-- **The slots are a set keyed by priority**, behind this step. -/
def Keyed (active : Slots) (i : Input) : Prop :=
  Unique (next active i) ∧ Leaves active (next active i) i

/-- The condition: a cancel finds no slot of its priority in front of an occupied last one, and a
    push finds no free slot in front of the one that holds its priority (which is then the
    lowest). -/
def Sound (active : Slots) : Input → Prop
  | .push incoming => Occupied incoming → ∀ i j : Fin 3, i < j →
      Occupied active[j] → active[j].priority = incoming.priority →
        active[i].priority ≠ incoming.priority
  | .cancel priority => (∃ i : Fin 3, i < 2 ∧ active[i].priority = priority) → ¬ Occupied active[2]
  | .task _ => True
  | .off => True

instance (active : Slots) : Decidable (Unique active) :=
  inferInstanceAs (Decidable (∀ i j : Fin 3, Occupied active[i] → Occupied active[j] →
    active[i].priority = active[j].priority → i = j))

instance (active : Slots) : ∀ i, Decidable (Sound active i)
  | .push incoming => inferInstanceAs (Decidable (Occupied incoming → ∀ i j : Fin 3, i < j →
      Occupied active[j] → active[j].priority = incoming.priority →
        active[i].priority ≠ incoming.priority))
  | .cancel priority => inferInstanceAs (Decidable
      ((∃ i : Fin 3, i < 2 ∧ active[i].priority = priority) → ¬ Occupied active[2]))
  | .task _ => .isTrue trivial
  | .off => .isTrue trivial

/-! ## 4. What the operations do -/

/-- Three slots, by name. -/
theorem slots_eq (active : Slots) : active = #v[active[0], active[1], active[2]] := by
  apply Vector.ext
  intro i hi
  match i, hi with
  | 0, _ => rfl
  | 1, _ => rfl
  | 2, _ => rfl

/-- **A cancel puts the last slot into every slot of the priority**, and clears the last. -/
theorem cancel_eq (priority : Priority) (a b c : LedAnimation) :
    cancel priority #v[a, b, c] =
      #v[if a.priority = priority then c else a, if b.priority = priority then c else b,
        if c.priority = priority then {} else c] := by
  unfold cancel cancelAt
  by_cases ha : a.priority = priority <;> by_cases hb : b.priority = priority <;>
    by_cases hc : c.priority = priority <;> simp [order, ha, hb, hc]

theorem off_eq (active : Slots) : off active = empty := by
  rw [slots_eq active]
  rfl

/-- A slot that was written, and the others. -/
theorem set_same (active : Slots) (k : Fin 3) (la : LedAnimation) : (active.set k.val la)[k] = la :=
  Vector.getElem_set_self _

theorem set_other (active : Slots) {k i : Fin 3} (h : k ≠ i) (la : LedAnimation) :
    (active.set k.val la)[i] = active[i] :=
  Vector.getElem_set_ne _ _ fun heq => h (Fin.ext heq)

theorem three_slots (i : Fin 3) : i = 0 ∨ i = 1 ∨ i = 2 := by
  revert i
  decide

/-- The first slot with a property. -/
theorem find_order (q : Fin 3 → Bool) :
    (∃ k, order.find? q = some k ∧ q k = true ∧ ∀ i < k, q i = false) ∨
      (order.find? q = none ∧ ∀ i, q i = false) := by
  cases h0 : q 0 with
  | true => exact Or.inl ⟨0, by simp [order, h0], h0, fun i hi => absurd hi (Fin.not_lt_zero i)⟩
  | false =>
      cases h1 : q 1 with
      | true =>
          refine Or.inl ⟨1, by simp [order, h0, h1], h1, fun i hi => ?_⟩
          rcases three_slots i with rfl | rfl | rfl
          · exact h0
          · exact absurd hi (by decide)
          · exact absurd hi (by decide)
      | false =>
          cases h2 : q 2 with
          | true =>
              refine Or.inl ⟨2, by simp [order, h0, h1, h2], h2, fun i hi => ?_⟩
              rcases three_slots i with rfl | rfl | rfl
              · exact h0
              · exact h1
              · exact absurd hi (by decide)
          | false =>
              refine Or.inr ⟨by simp [order, h0, h1, h2], fun i => ?_⟩
              rcases three_slots i with rfl | rfl | rfl
              · exact h0
              · exact h1
              · exact h2

/-- **Where a push goes**: to the first slot of its priority; if there is none, to a free slot or one
    with less; else nowhere. -/
theorem getAvailable_cases (priority : Priority) (active : Slots) :
    (∃ k, getAvailable priority active = some k ∧ active[k].priority = priority ∧
        ∀ i < k, active[i].priority ≠ priority) ∨
      (∃ k, getAvailable priority active = some k ∧ ∀ i : Fin 3, active[i].priority ≠ priority) ∨
      (getAvailable priority active = none ∧
        ∀ i : Fin 3, Occupied active[i] ∧ priority < active[i].priority) := by
  unfold getAvailable
  rcases find_order fun i => decide (active[i].priority = priority) with
    ⟨k, hfind, hk, hfirst⟩ | ⟨hfind, hnone⟩
  · rw [hfind]
    exact Or.inl ⟨k, rfl, of_decide_eq_true hk, fun i hi => of_decide_eq_false (hfirst i hi)⟩
  · have hother : ∀ i : Fin 3, active[i].priority ≠ priority := fun i =>
      of_decide_eq_false (hnone i)
    rw [hfind]
    rcases find_order fun i => active[i].none with ⟨k, hfind, _⟩ | ⟨hfind, hfree⟩
    · rw [hfind]
      exact Or.inr (Or.inl ⟨k, rfl, hother⟩)
    · rw [hfind]
      rcases find_order fun i => decide (active[i].priority < priority) with
        ⟨k, hfind, _⟩ | ⟨hfind, hless⟩
      · rw [hfind]
        exact Or.inr (Or.inl ⟨k, rfl, hother⟩)
      · rw [hfind]
        refine Or.inr (Or.inr ⟨rfl, fun i => ⟨of_decide_eq_false (hfree i), ?_⟩⟩)
        have hle : ¬ active[i].priority < priority := of_decide_eq_false (hless i)
        exact BitVec.lt_of_le_ne (BitVec.not_lt.mp hle) (Ne.symm (hother i))

/-- An animation is gone, done, or as it was: nothing new takes its priority. -/
def Fades (la la' : LedAnimation) : Prop :=
  Occupied la' → Occupied la ∧ la'.priority = la.priority

theorem Fades.refl (la : LedAnimation) : Fades la la := fun h => ⟨h, rfl⟩

theorem Fades.trans {a b c : LedAnimation} (h : Fades a b) (h' : Fades b c) : Fades a c := by
  intro hc
  obtain ⟨hb, hpriority⟩ := h' hc
  obtain ⟨ha, hpriority'⟩ := h hb
  exact ⟨ha, hpriority.trans hpriority'⟩

theorem fades_free (la : LedAnimation) : Fades la {} := fun h => absurd rfl h

/-- Slots that only fade stay apart. -/
theorem Unique.fades {active active' : Slots} (h : Unique active)
    (hfades : ∀ i : Fin 3, Fades active[i] active'[i]) : Unique active' := by
  intro i j hi hj hpriority
  obtain ⟨hi, hpi⟩ := hfades i hi
  obtain ⟨hj, hpj⟩ := hfades j hj
  exact h i j hi hj (hpi.symm.trans (hpriority.trans hpj))

theorem unique_empty : Unique empty := by
  intro i j hi
  exact absurd (Vector.getElem_replicate _ ▸ hi) (by decide)

/-- Slots of which one is written stay apart, if no other holds its priority. -/
theorem unique_set {active : Slots} (hu : Unique active) {k : Fin 3} {la : LedAnimation}
    (h : Occupied la → ∀ j : Fin 3, k ≠ j → Occupied active[j] → active[j].priority ≠ la.priority) :
    Unique (active.set k.val la) := by
  intro i j hi hj hpriority
  by_cases hki : k = i
  · subst hki
    by_cases hkj : k = j
    · exact hkj
    · rw [set_same] at hi hpriority
      rw [set_other _ hkj] at hj hpriority
      exact absurd hpriority.symm (h hi j hkj hj)
  · rw [set_other _ hki] at hi hpriority
    by_cases hkj : k = j
    · subst hkj
      rw [set_same] at hj hpriority
      exact absurd hpriority (h hj i hki hi)
    · rw [set_other _ hkj] at hj hpriority
      exact hu i j hi hj hpriority

theorem update_fades (now : Uptime) {la : LedAnimation} (h : Occupied la) :
    Fades la (la.update now).2 := by
  intro _
  refine ⟨h, ?_⟩
  unfold LedAnimation.update
  dsimp only
  split
  · rfl
  · split <;> rfl

/-- One slot of `task`. -/
theorem taskAt_fades (now : Uptime) (s : Selection) (i k : Fin 3) :
    Fades s.active[k] (taskAt now s i).active[k] := by
  have hset : ∀ la, (i = k → Fades s.active[k] la) → Fades s.active[k] (s.active.set i.val la)[k] := by
    intro la h
    by_cases hk : i = k
    · subst hk
      rw [set_same]
      exact h rfl
    · rw [set_other _ hk]
      exact Fades.refl _
  unfold taskAt
  split
  · exact Fades.refl _
  · next hoccupied =>
      split
      · exact hset {} fun _ => fades_free _
      · split
        · rcases hupdate : s.active[i].update now with ⟨color, la⟩
          refine hset la fun hk => ?_
          subst hk
          have hfades := update_fades now fun hnone => hoccupied (decide_eq_true hnone)
          rwa [hupdate] at hfades
        · exact Fades.refl _

theorem tasks_fade (now : Uptime) (k : Fin 3) (is : List (Fin 3)) (s : Selection) :
    Fades s.active[k] (is.foldl (taskAt now) s).active[k] := by
  induction is generalizing s with
  | nil => exact Fades.refl _
  | cons i is ih => exact (taskAt_fades now s i k).trans (ih (taskAt now s i))

theorem task_fades (now : Uptime) (active : Slots) (k : Fin 3) :
    Fades active[k] (task now active).active[k] :=
  tasks_fade now k order { active }

/-! ## 5. Which steps keep the slots keyed -/

/-- **A cancel that meets the condition** clears the slots of its priority, and no others. -/
theorem cancel_sound {priority : Priority} {active : Slots} (h : Sound active (.cancel priority))
    (k : Fin 3) :
    (active[k].priority ≠ priority ∧ (cancel priority active)[k] = active[k]) ∨
      (active[k].priority = priority ∧ ¬ Occupied (cancel priority active)[k]) := by
  have hlast : ∀ i : Fin 3, i < 2 → active[i].priority = priority → ¬ Occupied active[2] :=
    fun i hi hpriority => h ⟨i, hi, hpriority⟩
  have hslot : (cancel priority active)[k] =
      if active[k].priority = priority then (if k < 2 then active[2] else {}) else active[k] := by
    rw [slots_eq active, cancel_eq]
    rcases three_slots k with rfl | rfl | rfl <;> rfl
  rw [hslot]
  by_cases hpriority : active[k].priority = priority
  · refine Or.inr ⟨hpriority, ?_⟩
    rw [if_pos hpriority]
    split
    · next hk => exact hlast k hk hpriority
    · exact fun hfree => hfree rfl
  · exact Or.inl ⟨hpriority, if_neg hpriority⟩

theorem cancel_keyed {priority : Priority} {active : Slots} (hu : Unique active)
    (h : Sound active (.cancel priority)) : Keyed active (.cancel priority) := by
  have hkept : ∀ k : Fin 3, Occupied (cancel priority active)[k] →
      active[k].priority ≠ priority ∧ (cancel priority active)[k] = active[k] := fun k hk =>
    (cancel_sound h k).resolve_right fun hgone => hgone.2 hk
  have hunique : Unique (cancel priority active) := by
    refine hu.fades fun k hk => ?_
    have hkeep := (hkept k hk).2
    rw [hkeep] at hk ⊢
    exact ⟨hk, rfl⟩
  have hleaves : Leaves active (cancel priority active) (.cancel priority) := by
    intro i
    constructor
    · intro hi
      rw [(hkept i hi).2]
      exact (hkept i hi).1
    · intro hi hpriority
      rcases cancel_sound h i with ⟨_, hkeep⟩ | ⟨hgone, _⟩
      · refine ⟨i, hkeep, fun k hk => ?_⟩
        have hoccupied : Occupied (cancel priority active)[k] := by rw [hk]; exact hi
        have heq : active[k] = active[i] := (hkept k hoccupied).2.symm.trans hk
        refine hu k i ?_ hi (by rw [heq])
        rw [heq]
        exact hi
      · exact absurd hgone hpriority
  exact ⟨hunique, hleaves⟩

/-- **Else the last slot is copied**: it stays behind, or appears twice. -/
theorem sound_of_cancel_keyed {priority : Priority} {active : Slots}
    (h : Keyed active (.cancel priority)) : Sound active (.cancel priority) := by
  intro hfound hlast
  obtain ⟨i, hi, hpriority⟩ := hfound
  obtain ⟨hunique, hleaves⟩ := h
  have hcopy : (cancel priority active)[i] = active[2] := by
    rw [slots_eq active] at hpriority ⊢
    rw [cancel_eq]
    rcases three_slots i with rfl | rfl | rfl
    · exact if_pos hpriority
    · exact if_pos hpriority
    · exact absurd hi (by decide)
  by_cases hsame : active[2].priority = priority
  · have hgone := (hleaves i).1 (by show Occupied (cancel priority active)[i]; rwa [hcopy])
    exact hgone (by show (cancel priority active)[i].priority = priority; rw [hcopy, hsame])
  · have hstays : (cancel priority active)[(2 : Fin 3)] = active[2] := by
      rw [slots_eq active] at hsame ⊢
      rw [cancel_eq]
      exact if_neg hsame
    have heq : i = 2 := hunique i 2
      (by show Occupied (cancel priority active)[i]; rwa [hcopy])
      (by show Occupied (cancel priority active)[(2 : Fin 3)]; rwa [hstays])
      (by show (cancel priority active)[i].priority = (cancel priority active)[(2 : Fin 3)].priority
          rw [hcopy, hstays])
    exact absurd hi (by rw [heq]; decide)

/-- A slot is taken, and no other. -/
theorem leaves_set (incoming : LedAnimation) (active : Slots) (k : Fin 3) :
    Leaves active (active.set k.val incoming) (.push incoming) :=
  Or.inl ⟨k, set_same active k incoming, fun _ hi => set_other active hi.symm incoming⟩

theorem next_push (incoming : LedAnimation) (active : Slots) :
    next active (.push incoming) =
      match getAvailable incoming.priority active with
      | some available => active.set available.val incoming
      | none => active := rfl

/-- A push with its condition. -/
theorem push_keyed_iff (incoming : LedAnimation) {active : Slots} (hu : Unique active) :
    Sound active (.push incoming) ↔ Keyed active (.push incoming) := by
  rcases getAvailable_cases incoming.priority active with
    ⟨k, hk, hpriority, hfirst⟩ | ⟨k, hk, hother⟩ | ⟨hnone, hfull⟩
  · -- it replaces the first slot of its priority
    have hset : next active (.push incoming) = active.set k.val incoming := by rw [next_push, hk]
    have hleaves : Leaves active (next active (.push incoming)) (.push incoming) := by
      rw [hset]
      exact leaves_set incoming active k
    constructor
    · intro hsound
      refine ⟨?_, hleaves⟩
      have hbehind : Occupied incoming → ∀ j : Fin 3, k ≠ j → Occupied active[j] →
          active[j].priority ≠ incoming.priority := by
        intro hincoming j hne hj hpj
        rcases lt_or_gt_of_ne hne with hlt | hgt
        · exact hsound hincoming k j hlt hj hpj hpriority
        · exact hfirst j hgt hpj
      rw [hset]
      exact unique_set hu hbehind
    · intro hkeyed hincoming i j hlt hj hpj hpi
      have hunique : Unique (active.set k.val incoming) := hset ▸ hkeyed.1
      have hle : ¬ i < k := fun h => hfirst i h hpi
      have hne : k ≠ j := fun h => hle (h ▸ hlt)
      refine hne (hunique k j ?_ ?_ ?_)
      · rwa [set_same]
      · rwa [set_other _ hne]
      · rw [set_same, set_other _ hne, hpj]
  · -- no slot has its priority
    have hset : next active (.push incoming) = active.set k.val incoming := by rw [next_push, hk]
    refine ⟨fun _ => ?_, fun _ _ i j _ _ hpj => absurd hpj (hother j)⟩
    unfold Keyed
    rw [hset]
    exact ⟨unique_set hu fun _ j _ _ => hother j, leaves_set incoming active k⟩
  · -- it is dropped
    have hsame : next active (.push incoming) = active := by rw [next_push, hnone]
    refine ⟨fun _ => ⟨by rwa [hsame], Or.inr ⟨hsame, fun i =>
      ⟨(hfull i).1, BitVec.le_of_lt (hfull i).2⟩⟩⟩, fun _ _ i j _ _ hpj => ?_⟩
    have hlt := (hfull j).2
    rw [hpj] at hlt
    exact absurd hlt (BitVec.lt_irrefl _)

/-- **A step keeps the slots keyed exactly under its condition.** -/
theorem sound_iff_keyed {active : Slots} (hu : Unique active) (i : Input) :
    Sound active i ↔ Keyed active i := by
  cases i with
  | push incoming => exact push_keyed_iff incoming hu
  | cancel priority => exact ⟨cancel_keyed hu, sound_of_cancel_keyed⟩
  | task now =>
      exact ⟨fun _ => ⟨hu.fades (task_fades now active), trivial⟩, fun _ => trivial⟩
  | off =>
      refine ⟨fun _ => ⟨?_, trivial⟩, fun _ => trivial⟩
      show Unique (off active)
      rw [off_eq]
      exact unique_empty

/-- **In which runs the slots are a set keyed by priority.** -/
theorem keyed_iff {tr : List (Slots × Input)} {active : Slots} (h : Run step empty tr active) :
    Meets Keyed tr ↔ Meets Sound tr := by
  refine (h.meets_congr_of Sound Keyed Unique unique_empty ?_ ?_).symm
  · intro s i s' hu hsound hs
    cases hs
    exact ((sound_iff_keyed hu i).mp hsound).1
  · intro s i _ hu _
    exact sound_iff_keyed hu i

/-- `notifyWifiOn`, `notifyReadingsBegin` and `notifyButtonPressed`. -/
def wifi : LedAnimation := { type := .static, priority := Priority.Wifi, color := getColor 233 51 255 }
def readings : LedAnimation :=
  { type := .static, priority := Priority.Readings, color := getColor 255 175 10 }
def button : LedAnimation :=
  { type := .static, priority := Priority.Button, color := getColor 0 16 16 }

/-- Readings are begun and done while the Wifi is on. -/
theorem keyed_readings : ∃ tr active, Run step empty tr active ∧
    tr.map (·.2) = [.push wifi, .push readings, .cancel Priority.Readings] ∧ Meets Keyed tr := by
  have hexec : ∃ active, exec (guarded Sound step) empty
      [.push wifi, .push readings, .cancel Priority.Readings] = some active :=
    Option.isSome_iff_exists.mp (by decide)
  obtain ⟨active, hexec⟩ := hexec
  obtain ⟨tr, hguarded, hinputs⟩ := run_of_exec hexec
  obtain ⟨hrun, hsound⟩ := hguarded.of_guarded
  exact ⟨tr, active, hrun, hinputs, (keyed_iff hrun).mpr hsound⟩

/-- **The Wifi goes off while the button is down**: the button's animation is there twice, and one of
    the two will outlast its cancel. -/
theorem cancelled_comes_back : ¬ ∀ (tr : List (Slots × Input)) (active : Slots),
    Run step empty tr active → Meets Keyed tr := by
  intro hall
  have hexec : (exec step empty [.push wifi, .push readings, .push button,
      .cancel Priority.Wifi]).map (fun active => decide (Unique active)) = some false := by decide
  obtain ⟨tr, active, hrun, htwice⟩ := run_of_exec_map hexec
  have hunique : Unique active := hrun.inv_meets Keyed Unique unique_empty
    (fun _ _ _ _ hkeyed hs => by cases hs; exact hkeyed.1) (hall tr active hrun)
  exact absurd hunique (of_decide_eq_false htwice)

end FieldKit.Leds

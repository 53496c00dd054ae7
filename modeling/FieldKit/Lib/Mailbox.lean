/-
  File:      FieldKit/Lib/Mailbox.lean
  Subject:   Boxes that hold what was put into them last, and are all emptied when they are read.

  A history is a list of events, numbered from 0. What lies in a box carries the number of the event
  that put it there, or the box it lay in before the history.

  * `boxes_iff` -- what lies in a box was put there, or lay there before, and since then nothing
    newer was put into it, and nothing was emptied;
  * `waits_unique` -- what lies in a box waits for one emptying at most.
-/
import Mathlib.Data.List.Induction
import Mathlib.Logic.Function.Basic
import Mathlib.Tactic.Common

namespace FieldKit.Lib

variable {κ ν : Type}

/-- What happens to the boxes. -/
inductive BoxEvent (κ ν : Type) where
  | put (k : κ) (v : ν)
  | drain

/-- Where something comes from: an event, or the box it lay in before all events. -/
inductive Origin (κ : Type) where
  | event (n : Nat)
  | before (k : κ)
  deriving DecidableEq

/-- What lies in a box, with its origin. -/
structure Letter (κ ν : Type) where
  origin : Origin κ
  value : ν

/-- Event `n`. -/
def receive [DecidableEq κ] (n : Nat) (b : κ → Option (Letter κ ν)) :
    BoxEvent κ ν → κ → Option (Letter κ ν)
  | .put k v => Function.update b k (some ⟨.event n, v⟩)
  | .drain => fun _ => none

/-- The boxes after a history. -/
def boxes [DecidableEq κ] (before : κ → Option ν) (es : List (BoxEvent κ ν)) :
    κ → Option (Letter κ ν) :=
  es.zipIdx.foldl (fun b p => receive p.2 b p.1) fun k => (before k).map (⟨.before k, ·⟩)

/-- The event replaces what lies in the box, or empties it. -/
def Touches (k : κ) (e : BoxEvent κ ν) : Prop := e = .drain ∨ ∃ v, e = .put k v

/-- `v` came into the box from there. -/
def Comes (before : κ → Option ν) (es : List (BoxEvent κ ν)) (k : κ) (v : ν) : Origin κ → Prop
  | .event n => es[n]? = some (.put k v)
  | .before k' => k' = k ∧ before k = some v

/-- Event `m` is after it. -/
def After (m : Nat) : Origin κ → Prop
  | .event n => n < m
  | .before _ => True

/-- **It came into the box, and no event after it has touched the box.** -/
def Lies (before : κ → Option ν) (es : List (BoxEvent κ ν)) (k : κ) (o : Origin κ) (v : ν) : Prop :=
  Comes before es k v o ∧ ∀ m, After m o → ∀ e, es[m]? = some e → ¬ Touches k e

/-- **What has this origin waits for event `d`**, which is an emptying, and no event in between has
    touched the box. -/
def Waits (before : κ → Option ν) (es : List (BoxEvent κ ν)) (o : Origin κ) (d : Nat) : Prop :=
  es[d]? = some .drain ∧ ∃ k v, Comes before es k v o ∧ After d o ∧
    ∀ m, After m o → m < d → ∀ e, es[m]? = some e → ¬ Touches k e

/-- One origin, one box. -/
theorem Comes.unique {before : κ → Option ν} {es : List (BoxEvent κ ν)} {k k' : κ} {v v' : ν}
    {o : Origin κ} (h : Comes before es k v o) (h' : Comes before es k' v' o) : k = k' := by
  cases o with
  | event n => exact (BoxEvent.put.inj (Option.some.inj (h.symm.trans h'))).1
  | before => exact h.1.symm.trans h'.1

/-- An event more that does not touch the box. -/
theorem untouched_concat {es : List (BoxEvent κ ν)} {k : κ} {e : BoxEvent κ ν} {o : Origin κ}
    (h : ∀ m, After m o → ∀ e', es[m]? = some e' → ¬ Touches k e') (he : ¬ Touches k e) :
    ∀ m, After m o → ∀ e', (es ++ [e])[m]? = some e' → ¬ Touches k e' := by
  intro m hm e' he'
  rcases Nat.lt_or_ge m es.length with hlt | hge
  · rw [List.getElem?_append_left hlt] at he'
    exact h m hm e' he'
  · rw [List.getElem?_append_right hge] at he'
    obtain rfl := List.mem_singleton.mp (List.mem_of_getElem? he')
    exact he

/-- One event less. -/
theorem untouched_of_concat {es : List (BoxEvent κ ν)} {k : κ} {e : BoxEvent κ ν} {o : Origin κ}
    (h : ∀ m, After m o → ∀ e', (es ++ [e])[m]? = some e' → ¬ Touches k e') :
    ∀ m, After m o → ∀ e', es[m]? = some e' → ¬ Touches k e' := by
  intro m hm e' he'
  obtain ⟨hlt, _⟩ := List.getElem?_eq_some_iff.mp he'
  refine h m hm e' ?_
  rw [List.getElem?_append_left hlt]
  exact he'

/-- One event more. -/
theorem lies_concat {before : κ → Option ν} {es : List (BoxEvent κ ν)} {k : κ} {e : BoxEvent κ ν}
    {o : Origin κ} {v : ν} :
    Lies before (es ++ [e]) k o v ↔
      (o = .event es.length ∧ e = .put k v) ∨ (Lies before es k o v ∧ ¬ Touches k e) := by
  have hlast : (es ++ [e])[es.length]? = some e := List.getElem?_concat_length
  constructor
  · intro h
    obtain ⟨hcomes, huntouched⟩ := h
    cases o with
    | event n =>
        have hn : (es ++ [e])[n]? = some (.put k v) := hcomes
        obtain ⟨hlt, _⟩ := List.getElem?_eq_some_iff.mp hn
        rw [List.length_append, List.length_singleton] at hlt
        rcases Nat.lt_or_eq_of_le (Nat.le_of_lt_succ hlt) with hlt | rfl
        · rw [List.getElem?_append_left hlt] at hn
          exact Or.inr ⟨⟨hn, untouched_of_concat huntouched⟩, huntouched es.length hlt e hlast⟩
        · exact Or.inl ⟨rfl, Option.some.inj (hlast.symm.trans hn)⟩
    | before =>
        exact Or.inr ⟨⟨hcomes, untouched_of_concat huntouched⟩,
          huntouched es.length trivial e hlast⟩
  · rintro (⟨rfl, rfl⟩ | ⟨⟨hcomes, huntouched⟩, he⟩)
    · refine ⟨hlast, fun m hm e' he' => ?_⟩
      obtain ⟨hlt, _⟩ := List.getElem?_eq_some_iff.mp he'
      rw [List.length_append, List.length_singleton] at hlt
      exact absurd hm (Nat.not_lt.mpr (Nat.le_of_lt_succ hlt))
    · refine ⟨?_, untouched_concat huntouched he⟩
      cases o with
      | event n =>
          obtain ⟨hlt, _⟩ := List.getElem?_eq_some_iff.mp hcomes
          exact (List.getElem?_append_left hlt).trans hcomes
      | before => exact hcomes

section Boxes

variable [DecidableEq κ] {before : κ → Option ν} {es : List (BoxEvent κ ν)} {k : κ}

theorem boxes_nil (k : κ) : boxes before [] k = (before k).map (⟨.before k, ·⟩) := rfl

theorem boxes_concat (es : List (BoxEvent κ ν)) (e : BoxEvent κ ν) :
    boxes before (es ++ [e]) = receive es.length (boxes before es) e := by
  unfold boxes
  rw [List.zipIdx_append, List.foldl_append, Nat.zero_add]
  rfl

theorem receive_put (n : Nat) (b : κ → Option (Letter κ ν)) (k k' : κ) (v : ν) :
    receive n b (.put k' v) k = if k = k' then some ⟨.event n, v⟩ else b k :=
  Function.update_apply b k' _ k

/-- **What one event leaves in a box**: what it put there, or what was there and is not touched. -/
theorem receive_iff {m : Nat} {o : Origin κ} {b : κ → Option (Letter κ ν)} {e : BoxEvent κ ν}
    {v : ν} : receive m b e k = some ⟨o, v⟩ ↔
      (o = .event m ∧ e = .put k v) ∨ (b k = some ⟨o, v⟩ ∧ ¬ Touches k e) := by
  unfold Touches
  cases e with
  | drain => simp [receive]
  | put k' w =>
      rw [receive_put]
      by_cases hk : k = k'
      · subst hk
        simp [eq_comm]
      · simp [hk, Ne.symm hk]

/-- **What lies in a box** came there, and nothing has touched it since. -/
theorem boxes_iff {o : Origin κ} {v : ν} :
    boxes before es k = some ⟨o, v⟩ ↔ Lies before es k o v := by
  induction es using List.reverseRecOn with
  | nil =>
      rw [boxes_nil]
      unfold Lies Comes
      cases o with
      | event n => cases before k <;> simp
      | before k' => cases before k <;> simp [eq_comm]
  | append_singleton es e ih => rw [boxes_concat, receive_iff, lies_concat, ih]

/-- **What is read when the boxes are emptied** is what was waiting for it. -/
theorem waits_iff (before : κ → Option ν) {o : Origin κ} {d : Nat} (hd : es[d]? = some .drain) :
    Waits before es o d ↔ ∃ k v, boxes before (es.take d) k = some ⟨o, v⟩ := by
  unfold Waits
  rw [and_iff_right hd]
  refine exists_congr fun k => exists_congr fun v => ?_
  rw [boxes_iff]
  unfold Lies
  simp only [List.getElem?_take]
  have hcomes : Comes before (es.take d) k v o ↔ Comes before es k v o ∧ After d o := by
    cases o with
    | event n =>
        show (es.take d)[n]? = _ ↔ es[n]? = _ ∧ n < d
        rw [List.getElem?_take]
        split
        · next hlt => exact (and_iff_left hlt).symm
        · next hlt => exact ⟨(fun h => nomatch h), fun h => absurd h.2 hlt⟩
    | before => exact (and_iff_left trivial).symm
  rw [hcomes, and_assoc]
  refine and_congr_right fun _ => and_congr_right fun _ =>
    ⟨fun h m hm e he => ?_, fun h m hm hmd e he => h m hm e ?_⟩
  · split at he
    · next hmd => exact h m hm hmd e he
    · cases he
  · rw [if_pos hmd]
    exact he

end Boxes

/-- **It waits for one emptying at most.** -/
theorem waits_unique {before : κ → Option ν} {es : List (BoxEvent κ ν)} {o : Origin κ} {d d' : Nat}
    (h : Waits before es o d) (h' : Waits before es o d') : d = d' := by
  obtain ⟨hd, _, _, _, hafter, hbetween⟩ := h
  obtain ⟨hd', _, _, _, hafter', hbetween'⟩ := h'
  rcases Nat.lt_trichotomy d d' with hdd | hdd | hdd
  · exact absurd (Or.inl rfl) (hbetween' d hafter hdd _ hd)
  · exact hdd
  · exact absurd (Or.inl rfl) (hbetween d' hafter' hdd _ hd')

end FieldKit.Lib

/-
  File:      FieldKit/Lib/Run.lean
  Subject:   Runs of a partial machine, with the steps they took.

  A machine is a partial function `step : σ → ι → Option σ` (the state, and what the environment
  puts in). A run records every step with the state it was taken in, so that a condition on
  steps can be asked of a whole run.

  * `Run.inv` -- an invariant of every step is an invariant of every run;
  * `Run.inv_meets` -- the same under a condition that every step of the run meets;
  * `Run.inv_steps` -- an invariant of the steps taken and the state reached;
  * `Run.meets_iff`, `Run.meets_iff_under` -- what holds all along a run exactly if every step meets
    a condition;
  * `Run.meets_congr_of`, `Run.meets_congr` -- conditions that agree under an invariant;
  * `Run.before`, `Run.take` -- every step of a run was taken at the end of a shorter run;
  * `Run.reaches` -- a run whose steps can be chosen such that a measure gets smaller comes to an end;
  * `Run.length_add_le` -- a run whose steps make a measure smaller is no longer than it;
  * `exec`, `run_of_exec`, `run_of_exec_map` -- runs that the machine itself computes, for concrete
    inputs;
  * `guarded`, `Run.of_guarded` -- the same for runs whose steps meet a condition.
-/
import Mathlib.Data.List.Basic

namespace FieldKit.Lib

variable {σ ι : Type}

/-- **The runs of `step` from `s0`**: the steps taken, oldest first, and the state reached. -/
inductive Run (step : σ → ι → Option σ) (s0 : σ) : List (σ × ι) → σ → Prop where
  | start : Run step s0 [] s0
  | step (tr : List (σ × ι)) (s : σ) (i : ι) (s' : σ) (h : Run step s0 tr s)
      (hs : step s i = some s') : Run step s0 (tr ++ [(s, i)]) s'

/-- Every step of the run meets the condition `C` on its state and its input. -/
def Meets (C : σ → ι → Prop) (tr : List (σ × ι)) : Prop :=
  ∀ p ∈ tr, C p.1 p.2

@[simp] theorem meets_nil (C : σ → ι → Prop) : Meets C [] :=
  fun _ h => absurd h List.not_mem_nil

@[simp] theorem meets_concat (C : σ → ι → Prop) (tr : List (σ × ι)) (s : σ) (i : ι) :
    Meets C (tr ++ [(s, i)]) ↔ Meets C tr ∧ C s i := by
  simp only [Meets, List.mem_append, List.mem_singleton]
  constructor
  · intro h
    exact ⟨fun p hp => h p (Or.inl hp), h (s, i) (Or.inr rfl)⟩
  · rintro ⟨h, hi⟩ p (hp | rfl)
    · exact h p hp
    · exact hi

theorem Meets.take {C : σ → ι → Prop} {tr : List (σ × ι)} (h : Meets C tr) (n : Nat) :
    Meets C (tr.take n) :=
  fun p hp => h p (List.mem_of_mem_take hp)

section Rules

variable {step : σ → ι → Option σ} {s0 s : σ} {tr : List (σ × ι)}

/-- **The invariant rule.** -/
theorem Run.inv (I : σ → Prop) (h0 : I s0)
    (hstep : ∀ s i s', I s → step s i = some s' → I s') (h : Run step s0 tr s) : I s := by
  induction h with
  | start => exact h0
  | step tr s i s' _ hs ih => exact hstep s i s' ih hs

/-- **The invariant rule under a condition** that every step of the run meets. -/
theorem Run.inv_meets (C : σ → ι → Prop) (I : σ → Prop) (h0 : I s0)
    (hstep : ∀ s i s', I s → C s i → step s i = some s' → I s')
    (h : Run step s0 tr s) (hC : Meets C tr) : I s := by
  induction h with
  | start => exact h0
  | step tr s i s' _ hs ih =>
      obtain ⟨hC, hi⟩ := (meets_concat C tr s i).mp hC
      exact hstep s i s' (ih hC) hi hs

/-- **The invariant rule for the steps taken** as well as for the state reached. -/
theorem Run.inv_steps (I : List (σ × ι) → σ → Prop) (h0 : I [] s0)
    (hstep : ∀ tr s i s', I tr s → step s i = some s' → I (tr ++ [(s, i)]) s')
    (h : Run step s0 tr s) : I tr s := by
  induction h with
  | start => exact h0
  | step tr s i s' _ hs ih => exact hstep tr s i s' ih hs

/-- **What a run keeps all along exactly under a condition**: `P` is seen, `I` is what keeps it. A
    step that meets the condition keeps `I`, and one that does not loses `P`. This is so in runs
    whose steps all meet `D`. -/
theorem Run.meets_iff_under (D C : σ → ι → Prop) (I P : σ → Prop) (h0 : I s0)
    (hP : ∀ s, I s → P s)
    (hstep : ∀ s i s', I s → D s i → step s i = some s' → (C s i → I s') ∧ (P s' → C s i))
    (h : Run step s0 tr s) (hD : Meets D tr) :
    (Meets (fun s _ => P s) tr ∧ P s) ↔ Meets C tr := by
  have hinv : ∀ {tr s}, Run step s0 tr s → Meets D tr → Meets C tr → I s := by
    intro tr s h hD hC
    exact h.inv_meets (fun s i => D s i ∧ C s i) I h0
      (fun s i s' hi hc hs => (hstep s i s' hi hc.1 hs).1 hc.2) fun p hp => ⟨hD p hp, hC p hp⟩
  induction h with
  | start => exact ⟨fun _ => meets_nil _, fun _ => ⟨meets_nil _, hP _ h0⟩⟩
  | step tr s i s' h hs ih =>
      obtain ⟨hD, hd⟩ := (meets_concat D tr s i).mp hD
      rw [meets_concat, meets_concat]
      constructor
      · intro h
        obtain ⟨hbefore, hafter⟩ := h
        have hC := (ih hD).mp hbefore
        exact ⟨hC, (hstep s i s' (hinv h hD hC) hd hs).2 hafter⟩
      · intro h
        obtain ⟨hC, hi⟩ := h
        exact ⟨(ih hD).mpr hC, hP _ ((hstep s i s' (hinv h hD hC) hd hs).1 hi)⟩

/-- The same in every run. -/
theorem Run.meets_iff (C : σ → ι → Prop) (I P : σ → Prop) (h0 : I s0) (hP : ∀ s, I s → P s)
    (hstep : ∀ s i s', I s → step s i = some s' → (C s i → I s') ∧ (P s' → C s i))
    (h : Run step s0 tr s) : (Meets (fun s _ => P s) tr ∧ P s) ↔ Meets C tr :=
  h.meets_iff_under (fun _ _ => True) C I P h0 hP (fun s i s' hi _ hs => hstep s i s' hi hs)
    fun _ _ => trivial

/-- **Two conditions that agree wherever the invariant holds** are met by the same runs, if steps that
    meet the first keep it. -/
theorem Run.meets_congr_of (C D : σ → ι → Prop) (I : σ → Prop) (h0 : I s0)
    (hstep : ∀ s i s', I s → C s i → step s i = some s' → I s')
    (hagree : ∀ s i s', I s → step s i = some s' → (C s i ↔ D s i))
    (h : Run step s0 tr s) : Meets C tr ↔ Meets D tr := by
  induction h with
  | start => exact ⟨fun _ => meets_nil _, fun _ => meets_nil _⟩
  | step tr s i s' h hs ih =>
      rw [meets_concat, meets_concat]
      constructor
      · intro hC
        have hi := h.inv_meets C I h0 hstep hC.1
        exact ⟨ih.mp hC.1, (hagree s i s' hi hs).mp hC.2⟩
      · intro hD
        have hC := ih.mpr hD.1
        have hi := h.inv_meets C I h0 hstep hC
        exact ⟨hC, (hagree s i s' hi hs).mpr hD.2⟩

/-- The same if every step keeps it. -/
theorem Run.meets_congr (C D : σ → ι → Prop) (I : σ → Prop) (h0 : I s0)
    (hstep : ∀ s i s', I s → step s i = some s' → I s')
    (hagree : ∀ s i s', I s → step s i = some s' → (C s i ↔ D s i))
    (h : Run step s0 tr s) : Meets C tr ↔ Meets D tr :=
  h.meets_congr_of C D I h0 (fun s i s' hi _ hs => hstep s i s' hi hs) hagree

/-- A step of the run was taken at the end of a run that is a prefix of it. -/
theorem Run.before (h : Run step s0 tr s) {p : σ × ι} (hp : p ∈ tr) :
    ∃ tr', Run step s0 tr' p.1 ∧ tr' <+: tr := by
  induction h with
  | start => exact absurd hp List.not_mem_nil
  | step tr s i s' h _ ih =>
      rcases List.mem_append.mp hp with hp | hp
      · obtain ⟨tr', hr, hpre⟩ := ih hp
        exact ⟨tr', hr, hpre.trans (List.prefix_append _ _)⟩
      · rw [List.mem_singleton] at hp
        subst hp
        exact ⟨tr, h, List.prefix_append _ _⟩

/-- **The step with this number** was taken at the end of the steps before it. -/
theorem Run.take (h : Run step s0 tr s) {n : Nat} {p : σ × ι} (hp : tr[n]? = some p) :
    Run step s0 (tr.take n) p.1 ∧ ∃ s', step p.1 p.2 = some s' := by
  induction h with
  | start => cases hp
  | step tr s i s' h hs ih =>
      obtain ⟨hlt, hget⟩ := List.getElem?_eq_some_iff.mp hp
      rw [List.length_append, List.length_singleton] at hlt
      rcases Nat.lt_or_eq_of_le (Nat.le_of_lt_succ hlt) with hlt | rfl
      · rw [List.getElem?_append_left hlt] at hp
        rw [List.take_append_of_le_length (Nat.le_of_lt hlt)]
        exact ih hp
      · rw [List.getElem?_concat_length] at hp
        cases hp
        rw [List.take_left]
        exact ⟨h, s', hs⟩

/-- **A run that goes on until `Q` comes there**, if as long as it has not some step keeps the invariant
    and makes the measure smaller. -/
theorem Run.reaches (I Q : σ → Prop) (μ : σ → Nat)
    (hstep : ∀ s, I s → ¬ Q s → ∃ i s', step s i = some s' ∧ I s' ∧ μ s' < μ s)
    (h : Run step s0 tr s) (hi : I s) : ∃ tr' s', Run step s0 tr' s' ∧ Q s' := by
  induction hn : μ s using Nat.strongRecOn generalizing tr s with
  | ind n ih =>
      by_cases hQ : Q s
      · exact ⟨tr, s, h, hQ⟩
      · obtain ⟨i, s', hs, hi', hlt⟩ := hstep s hi hQ
        exact ih (μ s') (hn ▸ hlt) (.step tr s i s' h hs) hi' rfl

/-- **A run whose steps all make the measure smaller**: its length and what is left are no more than the
    measure it began with. -/
theorem Run.length_add_le (C : σ → ι → Prop) (I : σ → Prop) (μ : σ → Nat) (h0 : I s0)
    (hstep : ∀ s i s', I s → C s i → step s i = some s' → I s' ∧ μ s' < μ s)
    (h : Run step s0 tr s) (hC : Meets C tr) : tr.length + μ s ≤ μ s0 := by
  have hI : ∀ {tr s}, Run step s0 tr s → Meets C tr → I s := fun h hC =>
    h.inv_meets C I h0 (fun s i s' hi hc hs => (hstep s i s' hi hc hs).1) hC
  induction h with
  | start => exact Nat.le_of_eq (Nat.zero_add _)
  | step tr s i s' h hs ih =>
      obtain ⟨hC, hc⟩ := (meets_concat C tr s i).mp hC
      have hbefore := ih hC
      have hlt := (hstep s i s' (hI h hC) hc hs).2
      rw [List.length_append, List.length_singleton]
      omega

end Rules

/-- The state the machine computes from a list of inputs, if no step is refused. -/
def exec (step : σ → ι → Option σ) : σ → List ι → Option σ
  | s, [] => some s
  | s, i :: is => (step s i).bind (exec step · is)

theorem run_append_exec {step : σ → ι → Option σ} {s0 : σ} :
    ∀ {is : List ι} {tr : List (σ × ι)} {s s' : σ}, Run step s0 tr s → exec step s is = some s' →
      ∃ tr', Run step s0 (tr ++ tr') s' ∧ tr'.map (·.2) = is
  | [], tr, s, s', h, he => by
      cases he
      exact ⟨[], by simpa using h, rfl⟩
  | i :: is, tr, s, s', h, he => by
      obtain ⟨t, hst, he⟩ := Option.bind_eq_some_iff.mp he
      obtain ⟨tr', hr, hmap⟩ := run_append_exec (.step tr s i t h hst) he
      exact ⟨(s, i) :: tr', by simpa using hr, by simp [hmap]⟩

/-- **What the machine computes is a run on these inputs.** -/
theorem run_of_exec {step : σ → ι → Option σ} {s s' : σ} {is : List ι}
    (h : exec step s is = some s') : ∃ tr, Run step s tr s' ∧ tr.map (·.2) = is := by
  obtain ⟨tr, hr, hmap⟩ := run_append_exec .start h
  exact ⟨tr, by simpa using hr, hmap⟩

/-- The same, read off the state reached. -/
theorem run_of_exec_map {α : Type} {step : σ → ι → Option σ} {s : σ} {is : List ι} {f : σ → α}
    {v : α} (h : (exec step s is).map f = some v) : ∃ tr s', Run step s tr s' ∧ f s' = v := by
  obtain ⟨s', hs, hv⟩ := Option.map_eq_some_iff.mp h
  obtain ⟨tr, hr, _⟩ := run_of_exec hs
  exact ⟨tr, s', hr, hv⟩

/-- The machine that refuses every step that does not meet `C`. -/
def guarded (C : σ → ι → Prop) [∀ s i, Decidable (C s i)] (step : σ → ι → Option σ) (s : σ)
    (i : ι) : Option σ :=
  if C s i then step s i else none

/-- **Its runs are the runs whose steps meet `C`.** -/
theorem Run.of_guarded {C : σ → ι → Prop} [∀ s i, Decidable (C s i)] {step : σ → ι → Option σ}
    {s0 s : σ} {tr : List (σ × ι)} (h : Run (guarded C step) s0 tr s) :
    Run step s0 tr s ∧ Meets C tr := by
  induction h with
  | start => exact ⟨.start, meets_nil C⟩
  | step tr s i s' _ hs ih =>
      unfold guarded at hs
      split at hs
      · next hC => exact ⟨.step tr s i s' ih.1 hs, (meets_concat C tr s i).mpr ⟨ih.2, hC⟩⟩
      · cases hs

end FieldKit.Lib

/-
  File:      FieldKit/Lib/Resume.lean
  Subject:   A sequence that is handed over in portions: what is there of it on the other side?

  A portion says where it begins. Portions may overlap, and the sequence may grow behind them.

  * `Covers.concat` -- a portion that begins where everything was covered covers up to its end;
  * `Held.getElem?` -- what is covered by portions of a sequence is on the other side as it is here;
  * `joined_concat` -- portions that follow upon one another make up the beginning of the sequence.
-/
import Mathlib.Data.List.Basic

namespace FieldKit.Lib

variable {α : Type}

/-- A portion: where it begins, and what it holds. -/
structure Portion (α : Type) where
  start : Nat
  items : List α
  deriving DecidableEq, Repr

namespace Portion

/-- Where it ends. -/
def stop (p : Portion α) : Nat := p.start + p.items.length

/-- It holds what stands there. -/
def Of (content : List α) (p : Portion α) : Prop := p.items <+: content.drop p.start

/-- Growing changes no portion. -/
theorem Of.mono {content content' : List α} {p : Portion α} (h : p.Of content)
    (hgrown : content <+: content') : p.Of content' := by
  obtain ⟨more, rfl⟩ := hgrown
  unfold Of
  rw [List.drop_append]
  exact h.trans (List.prefix_append _ _)

theorem Of.getElem? {content : List α} {p : Portion α} (h : p.Of content) {i : Nat}
    (hstart : p.start ≤ i) (hstop : i < p.stop) : p.items[i - p.start]? = content[i]? := by
  obtain ⟨rest, hrest⟩ := h
  have hin : i - p.start < p.items.length := by
    unfold stop at hstop
    omega
  rw [← List.getElem?_append_left hin, hrest, List.getElem?_drop, Nat.add_sub_cancel' hstart]

/-- It ends inside of the sequence if it begins there. -/
theorem Of.stop_le {content : List α} {p : Portion α} (h : p.Of content)
    (hstart : p.start ≤ content.length) : p.stop ≤ content.length := by
  have hlength := h.length_le
  rw [List.length_drop] at hlength
  unfold stop
  omega

end Portion

/-- **Every place in front of `n` is in one of the portions.** -/
def Covers (ps : List (Portion α)) (n : Nat) : Prop := ∀ i < n, ∃ p ∈ ps, p.start ≤ i ∧ i < p.stop

@[simp] theorem covers_zero (ps : List (Portion α)) : Covers ps 0 := fun i h => absurd h (Nat.not_lt_zero i)

theorem Covers.mono {ps : List (Portion α)} {m n : Nat} (h : Covers ps n) (hle : m ≤ n) : Covers ps m :=
  fun i hi => h i (Nat.lt_of_lt_of_le hi hle)

theorem Covers.append {ps : List (Portion α)} {n : Nat} (h : Covers ps n) (qs : List (Portion α)) :
    Covers (ps ++ qs) n := by
  intro i hi
  obtain ⟨p, hp, hin⟩ := h i hi
  exact ⟨p, List.mem_append_left qs hp, hin⟩

/-- **A portion that begins where everything was covered.** -/
theorem Covers.concat {ps : List (Portion α)} {p : Portion α} (h : Covers ps p.start) :
    Covers (ps ++ [p]) p.stop := by
  intro i hi
  by_cases hstart : i < p.start
  · exact h.append [p] i hstart
  · exact ⟨p, List.mem_concat_self, Nat.le_of_not_lt hstart, hi⟩

/-- **What is in front of `n` is on the other side**: the sequence goes so far, and portions of it cover
    that. -/
structure Held (content : List α) (ps : List (Portion α)) (n : Nat) : Prop where
  le : n ≤ content.length
  of : ∀ p ∈ ps, p.Of content
  covers : Covers ps n

namespace Held

variable {content content' : List α} {ps : List (Portion α)} {m n : Nat}

theorem none (content : List α) {ps : List (Portion α)} (h : ∀ p ∈ ps, p.Of content) :
    Held content ps 0 :=
  ⟨Nat.zero_le _, h, covers_zero ps⟩

theorem less (h : Held content ps n) (hle : m ≤ n) : Held content ps m :=
  ⟨Nat.le_trans hle h.le, h.of, h.covers.mono hle⟩

theorem grow (h : Held content ps n) (hgrown : content <+: content') : Held content' ps n :=
  ⟨Nat.le_trans h.le hgrown.length_le, fun p hp => (h.of p hp).mono hgrown, h.covers⟩

/-- Another portion changes nothing of that. -/
theorem more (h : Held content ps n) {p : Portion α} (hp : p.Of content) :
    Held content (ps ++ [p]) n := by
  refine ⟨h.le, fun q hq => ?_, h.covers.append [p]⟩
  rcases List.mem_append.mp hq with hq | hq
  · exact h.of q hq
  · exact List.mem_singleton.mp hq ▸ hp

/-- **A portion that begins where everything was held.** -/
theorem concat {p : Portion α} (h : Held content ps p.start) (hp : p.Of content) :
    Held content (ps ++ [p]) p.stop :=
  ⟨hp.stop_le h.le, (h.more hp).of, h.covers.concat⟩

/-- **Every item is there**, in its place in a portion. -/
theorem getElem? (h : Held content ps n) {i : Nat} (hi : i < n) :
    ∃ p ∈ ps, p.start ≤ i ∧ p.items[i - p.start]? = content[i]? := by
  obtain ⟨p, hp, hstart, hstop⟩ := h.covers i hi
  exact ⟨p, hp, hstart, (h.of p hp).getElem? hstart hstop⟩

end Held

/-- The portions, one behind the other. -/
def joined (ps : List (Portion α)) : List α := ps.flatMap (·.items)

/-- **A portion that begins where the others end.** -/
theorem joined_concat {content : List α} {ps : List (Portion α)} {p : Portion α}
    (h : joined ps = content.take p.start) (hp : p.Of content) :
    joined (ps ++ [p]) = content.take p.stop := by
  have hitems : p.items = (content.drop p.start).take p.items.length := List.prefix_iff_eq_take.mp hp
  unfold joined at h ⊢
  rw [List.flatMap_append, h, List.flatMap_singleton, Portion.stop, List.take_add, ← hitems]

end FieldKit.Lib

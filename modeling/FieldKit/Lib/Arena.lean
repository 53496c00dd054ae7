/-
  File:      FieldKit/Lib/Arena.lean
  Subject:   Pieces of memory stacked one upon the other.

  The newest piece comes first in the list, and ends where the next one will begin.

  * `Stacked.bounds` -- every piece lies in between;
  * `Stacked.apart` -- no two of them overlap;
  * `Stacked.sum` -- together they take all there is;
  * `Stacked.append` -- one stack upon another;
  * `Stacked.aligned` -- if their lengths are multiples of a number, so are their places.
-/
import Mathlib.Algebra.Ring.Nat

namespace FieldKit.Lib

/-- A piece of memory. -/
structure Piece where
  start : Nat
  length : Nat
  deriving DecidableEq, Repr

/-- Where it ends. -/
def Piece.stop (p : Piece) : Nat := p.start + p.length

/-- They have no place in common. -/
def Apart (p q : Piece) : Prop := p.stop ≤ q.start ∨ q.stop ≤ p.start

/-- The pieces fill the memory from `low` up to where they have got. -/
def Stacked (low : Nat) : Nat → List Piece → Prop
  | high, [] => high = low
  | high, p :: ps => high = p.stop ∧ Stacked low p.start ps

namespace Stacked

variable {low high : Nat} {ps : List Piece}

theorem le (h : Stacked low high ps) : low ≤ high := by
  induction ps generalizing high with
  | nil => exact Nat.le_of_eq h.symm
  | cons p ps ih =>
      rw [h.1]
      exact Nat.le_trans (ih h.2) (Nat.le_add_right p.start p.length)

/-- **Every piece lies in between.** -/
theorem bounds (h : Stacked low high ps) {p : Piece} (hp : p ∈ ps) :
    low ≤ p.start ∧ p.stop ≤ high := by
  induction ps generalizing high with
  | nil => exact absurd hp List.not_mem_nil
  | cons q ps ih =>
      rcases List.mem_cons.mp hp with rfl | hp
      · exact ⟨h.2.le, Nat.le_of_eq h.1.symm⟩
      · obtain ⟨hlow, hstop⟩ := ih h.2 hp
        rw [h.1]
        exact ⟨hlow, Nat.le_trans hstop (Nat.le_add_right q.start q.length)⟩

/-- **One stack upon another.** -/
theorem append {mid : Nat} {qs : List Piece} (h : Stacked mid high ps) (hlow : Stacked low mid qs) :
    Stacked low high (ps ++ qs) := by
  induction ps generalizing high with
  | nil =>
      have hhigh : high = mid := h
      rw [hhigh]
      exact hlow
  | cons p ps ih => exact ⟨h.1, ih h.2⟩

/-- **No two of them overlap.** -/
theorem apart (h : Stacked low high ps) : ps.Pairwise Apart := by
  induction ps generalizing high with
  | nil => exact List.Pairwise.nil
  | cons p ps ih => exact List.pairwise_cons.mpr ⟨fun q hq => Or.inr (h.2.bounds hq).2, ih h.2⟩

/-- **Together they take all there is.** -/
theorem sum (h : Stacked low high ps) : low + (ps.map Piece.length).sum = high := by
  induction ps generalizing high with
  | nil => exact h.symm
  | cons p ps ih =>
      have hrest := ih h.2
      rw [List.map_cons, List.sum_cons, h.1, Piece.stop]
      omega

/-- **They begin at multiples** of what their lengths are multiples of. -/
theorem aligned {k : Nat} (h : Stacked low high ps) (hlow : k ∣ low)
    (hlengths : ∀ p ∈ ps, k ∣ p.length) : k ∣ high ∧ ∀ p ∈ ps, k ∣ p.start := by
  induction ps generalizing high with
  | nil =>
      have hhigh : high = low := h
      rw [hhigh]
      exact ⟨hlow, fun p hp => absurd hp List.not_mem_nil⟩
  | cons p ps ih =>
      obtain ⟨hstart, hrest⟩ := ih h.2 fun q hq => hlengths q (List.mem_cons_of_mem p hq)
      refine ⟨?_, fun q hq => ?_⟩
      · rw [h.1]
        exact Nat.dvd_add hstart (hlengths p List.mem_cons_self)
      · rcases List.mem_cons.mp hq with rfl | hq
        · exact hstart
        · exact hrest q hq

end Stacked

end FieldKit.Lib

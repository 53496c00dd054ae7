/-
  File:      FieldKit/Pool.lean
  Subject:   `Pool` (pool.cpp): memory that is handed out piece by piece and taken back at once.

  Only what is left matters: where a piece lies is decided by what was handed out before it. A
  failed assertion of `malloc` is `none`.
-/
import FieldKit.Platform

namespace FieldKit

/-- `alignedSize`, of `AlignedOn` 4. -/
def alignedSize (size : Nat) : Nat :=
  if size % 4 ≠ 0 then size + (4 - size % 4) else size

theorem alignedSize_of_four {n : Nat} (h : n % 4 = 0) : alignedSize n = n := if_neg (by simp [h])

theorem le_alignedSize (n : Nat) : n ≤ alignedSize n := by
  unfold alignedSize
  split <;> omega

theorem alignedSize_pos (n : Nat) : 0 < alignedSize (n + 1) := by
  unfold alignedSize
  split <;> omega

/-- `Pool`: no more is left of it than it has. -/
structure Pool where
  size : Nat
  remaining : Nat
  frozen : Bool := false
  fits : remaining ≤ size

namespace Pool

/-- A pool of `size` bytes, nothing of it handed out. -/
def empty (size : Nat) : Pool := { size, remaining := size, fits := le_rfl }

/-- `allocated()`. -/
def allocated (p : Pool) : Nat := p.size - p.remaining

/-- `clear()`. -/
def clear (p : Pool) : Pool := empty p.size

/-- `malloc(size)`. -/
def malloc (size : Nat) (p : Pool) : Option Pool :=
  if p.frozen = false ∧ alignedSize size ≤ p.size ∧ alignedSize size ≤ p.remaining then
    some { p with
      remaining := p.remaining - alignedSize size
      fits := (Nat.sub_le _ _).trans p.fits }
  else none

/-- `strdup(str)`: a null pointer stays one, and takes nothing. -/
def strdup (str : Option (List Byte)) (p : Pool) : Option Pool :=
  match str with
  | none => some p
  | some text => p.malloc (text.length + 1)

/-- Pieces of these sizes, one after another. -/
def mallocs : List Nat → Pool → Option Pool
  | [], p => some p
  | size :: sizes, p => (p.malloc size).bind (mallocs sizes)

theorem malloc_allocated {size : Nat} {p p' : Pool} (h : p.malloc size = some p') :
    p'.allocated = p.allocated + alignedSize size ∧ p'.size = p.size ∧ p'.frozen = p.frozen := by
  unfold malloc at h
  split at h
  · next hroom =>
      cases h
      have hfits := p.fits
      unfold allocated
      exact ⟨by dsimp only; omega, rfl, rfl⟩
  · cases h

/-- **What pieces take of a pool.** -/
theorem mallocs_allocated {sizes : List Nat} {p p' : Pool} (h : p.mallocs sizes = some p') :
    p'.allocated = p.allocated + (sizes.map alignedSize).sum ∧ p'.size = p.size ∧
      p'.frozen = p.frozen := by
  induction sizes generalizing p with
  | nil =>
      cases h
      exact ⟨rfl, rfl, rfl⟩
  | cons size sizes ih =>
      obtain ⟨p₁, hp₁, h⟩ := Option.bind_eq_some_iff.mp h
      obtain ⟨hallocated, hsize, hfrozen⟩ := malloc_allocated hp₁
      obtain ⟨hallocated', hsize', hfrozen'⟩ := ih h
      refine ⟨?_, hsize'.trans hsize, hfrozen'.trans hfrozen⟩
      rw [hallocated', hallocated, List.map_cons, List.sum_cons, Nat.add_assoc]

/-- What `malloc` does, in numbers. -/
theorem malloc_cases {p : Pool} (hfrozen : p.frozen = false) (size : Nat) :
    (alignedSize size ≤ p.remaining ∧ ∃ p', p.malloc size = some p' ∧
        p'.remaining + alignedSize size = p.remaining ∧ p'.frozen = false) ∨
      (¬ alignedSize size ≤ p.remaining ∧ p.malloc size = none) := by
  have hfits := p.fits
  unfold Pool.malloc
  by_cases hroom : alignedSize size ≤ p.remaining
  · refine Or.inl ⟨hroom, _, if_pos ⟨hfrozen, hroom.trans hfits, hroom⟩, ?_, hfrozen⟩
    dsimp only
    omega
  · exact Or.inr ⟨hroom, if_neg fun h => hroom h.2.2⟩

/-- **Pieces are to be had exactly if there is enough for all of them.** -/
theorem mallocs_cases {p : Pool} (hfrozen : p.frozen = false) (sizes : List Nat) :
    ((sizes.map alignedSize).sum ≤ p.remaining ∧ ∃ p', p.mallocs sizes = some p' ∧
        p'.remaining + (sizes.map alignedSize).sum = p.remaining ∧ p'.frozen = false) ∨
      (¬ (sizes.map alignedSize).sum ≤ p.remaining ∧ p.mallocs sizes = none) := by
  induction sizes generalizing p with
  | nil => exact Or.inl ⟨Nat.zero_le _, p, rfl, rfl, hfrozen⟩
  | cons size sizes ih =>
      rw [List.map_cons, List.sum_cons, mallocs]
      rcases malloc_cases hfrozen size with ⟨_, p₁, hp₁, hremaining, hfrozen₁⟩ | ⟨hroom, hnone⟩
      · rw [hp₁, Option.bind_some]
        rcases ih hfrozen₁ with ⟨hrest, p', hp', hremaining', hfrozen'⟩ | ⟨hrest, hnone⟩
        · exact Or.inl ⟨by omega, p', hp', by omega, hfrozen'⟩
        · exact Or.inr ⟨by omega, hnone⟩
      · exact Or.inr ⟨by omega, by rw [hnone, Option.bind_none]⟩

@[simp] theorem allocated_empty (size : Nat) : (empty size).allocated = 0 := Nat.sub_self size

end Pool

end FieldKit

/-
  File:      FieldKit/Lib/Crc.lean
  Subject:   Reflected cyclic redundancy checks, of any width and polynomial: bit by bit, and from a
             table.

  The register is shifted out at its low end. A shift is linear in exclusive or, so many shifts are
  those of the low bits alone, which a table can hold, and the other bits moved down.

  * `shifts_low` -- `n` shifts from a table of the low `n` bits;
  * `shifts_symbol` -- a symbol of `m + n` bits is taken in at once, or in two parts.
-/
import Mathlib.Data.BitVec

namespace FieldKit.Lib.Crc

variable {w : Nat} (poly : BitVec w)

/-! ## 1. Shifts -/

/-- One bit is shifted out. -/
def shift (c : BitVec w) : BitVec w := if c.getLsbD 0 then (c >>> 1) ^^^ poly else c >>> 1

/-- `n` bits are shifted out. -/
def shifts : Nat → BitVec w → BitVec w
  | 0, c => c
  | n + 1, c => shift poly (shifts n c)

/-- The checksum, bit by bit, of symbols of `k` bits. -/
def checksum {k : Nat} (init : BitVec w) (data : List (BitVec k)) : BitVec w :=
  data.foldl (fun c d => shifts poly k (c ^^^ d.setWidth w)) init

/-- **A shift is linear.** -/
theorem shift_xor (c d : BitVec w) : shift poly (c ^^^ d) = shift poly c ^^^ shift poly d := by
  have hmove : ∀ a b p : BitVec w, a ^^^ b ^^^ p = a ^^^ p ^^^ b := fun a b p => by
    rw [BitVec.xor_assoc, BitVec.xor_comm b p, ← BitVec.xor_assoc]
  unfold shift
  rw [BitVec.getLsbD_xor, BitVec.ushiftRight_xor_distrib]
  cases c.getLsbD 0 <;> cases d.getLsbD 0
  · simp
  · simp [BitVec.xor_assoc]
  · simpa using hmove _ _ _
  · -- the polynomial is added twice
    have htwice : (c >>> 1 ^^^ poly) ^^^ (d >>> 1 ^^^ poly) = c >>> 1 ^^^ d >>> 1 := by
      rw [← BitVec.xor_assoc, hmove _ poly, BitVec.xor_assoc, BitVec.xor_self, BitVec.xor_zero]
    simpa using htwice.symm

theorem shifts_xor (n : Nat) (c d : BitVec w) :
    shifts poly n (c ^^^ d) = shifts poly n c ^^^ shifts poly n d := by
  induction n with
  | zero => rfl
  | succ n ih => rw [shifts, ih, shift_xor, shifts, shifts]

theorem shifts_add (m n : Nat) (c : BitVec w) :
    shifts poly (m + n) c = shifts poly n (shifts poly m c) := by
  induction n with
  | zero => rfl
  | succ n ih => rw [Nat.add_succ, shifts, ih, shifts]

/-! ## 2. Low bits -/

/-- The low `n` bits. -/
def low (n : Nat) (c : BitVec w) : BitVec w := (c.setWidth n).setWidth w

@[simp] theorem getLsbD_low (n i : Nat) (c : BitVec w) :
    (low n c).getLsbD i = (decide (i < n) && c.getLsbD i) := by
  unfold low
  rw [BitVec.getLsbD_setWidth, BitVec.getLsbD_setWidth]
  by_cases hi : i < w
  · simp [hi]
  · simp [hi, BitVec.getLsbD_of_ge c i (Nat.le_of_not_lt hi)]

/-- Where the low bits are clear, shifts only move. -/
theorem shifts_clear {n : Nat} {c : BitVec w} (h : ∀ i < n, c.getLsbD i = false) :
    shifts poly n c = c >>> n := by
  induction n with
  | zero => exact (BitVec.ushiftRight_zero c).symm
  | succ n ih =>
      have hclear : (c >>> n).getLsbD 0 = false := by
        rw [BitVec.getLsbD_ushiftRight]
        exact h n (Nat.lt_succ_self n)
      rw [shifts, ih fun i hi => h i (Nat.lt_succ_of_lt hi), shift, hclear, if_neg Bool.false_ne_true,
        ← BitVec.shiftRight_add]

/-- **From a table**: the shifts of the low bits, and the others moved down. -/
theorem shifts_low (n : Nat) (c : BitVec w) :
    shifts poly n c = shifts poly n (low n c) ^^^ (c >>> n) := by
  have hsplit : c = low n c ^^^ (c ^^^ low n c) := by
    rw [BitVec.xor_comm c, ← BitVec.xor_assoc, BitVec.xor_self, BitVec.zero_xor]
  have hclear : ∀ i < n, (c ^^^ low n c).getLsbD i = false := by
    intro i hi
    simp [hi]
  have hmoved : (c ^^^ low n c) >>> n = c >>> n := by
    refine BitVec.eq_of_getLsbD_eq fun i _ => ?_
    have hnot : ¬ n + i < n := by omega
    simp [hnot]
  calc shifts poly n c = shifts poly n (low n c ^^^ (c ^^^ low n c)) := by rw [← hsplit]
    _ = shifts poly n (low n c) ^^^ shifts poly n (c ^^^ low n c) := shifts_xor poly n _ _
    _ = shifts poly n (low n c) ^^^ (c >>> n) := by rw [shifts_clear poly hclear, hmoved]

/-- **A symbol in two parts**: its low `m` bits, and then the next `n`. -/
theorem shifts_symbol (m n : Nat) (c d : BitVec w) :
    shifts poly (m + n) (c ^^^ d) =
      shifts poly n (shifts poly m (low m (c ^^^ d)) ^^^ (c >>> m) ^^^ (d >>> m)) := by
  rw [shifts_add, shifts_low poly m, BitVec.ushiftRight_xor_distrib, BitVec.xor_assoc]

end FieldKit.Lib.Crc

/-
  File:      FieldKit/Lib/LittleEndian.lean
  Subject:   Unsigned integers as little-endian bytes.
-/
import Mathlib.Data.BitVec

namespace FieldKit.Lib

/-- The lowest `k` bytes of `x`, the low one first. -/
def toLE : Nat → Nat → List (BitVec 8)
  | 0, _ => []
  | k + 1, x => BitVec.ofNat 8 x :: toLE k (x / 256)

/-- The number that little-endian bytes denote. -/
def ofLE : List (BitVec 8) → Nat
  | [] => 0
  | b :: bs => b.toNat + 256 * ofLE bs

@[simp] theorem length_toLE (k x : Nat) : (toLE k x).length = k := by
  induction k generalizing x with
  | zero => rfl
  | succ k ih => simp [toLE, ih]

/-- **Reading back what was written**, up to the bytes that were. -/
theorem ofLE_toLE (k x : Nat) : ofLE (toLE k x) = x % 256 ^ k := by
  induction k generalizing x with
  | zero => simp [toLE, ofLE, Nat.mod_one]
  | succ k ih =>
      have hsplit : x % (256 * 256 ^ k) = x % 256 + 256 * (x / 256 % 256 ^ k) := Nat.mod_mul
      simp only [toLE, ofLE, ih, BitVec.toNat_ofNat]
      rw [pow_succ' 256 k, hsplit]

/-- A word that fits is read back whole. -/
theorem ofLE_toLE_word {w : Nat} (k : Nat) (hk : w = 8 * k) (x : BitVec w) :
    BitVec.ofNat w (ofLE (toLE k x.toNat)) = x := by
  have hpow : 256 ^ k = 2 ^ w := by
    rw [hk, pow_mul]
    rfl
  rw [ofLE_toLE, hpow, Nat.mod_eq_of_lt x.isLt, BitVec.ofNat_toNat, BitVec.setWidth_eq]

end FieldKit.Lib

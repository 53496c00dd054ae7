/-
  File:      FieldKit/Time.lean
  Subject:   Time, which does not wrap, and what `fk_uptime()` reads of it.

  * `clock_add` -- adding to a reading is reading later;
  * `clock_lt_iff` -- readings compare as remainders;
  * `clock_sub_le`, `clock_sub_toNat` -- their difference is no more than the time in between, and just
    that if it is less than a period.
-/
import FieldKit.Platform

namespace FieldKit.Time

/-- The period of the clock. -/
def period : Nat := 2 ^ 32

/-- What the clock reads at the time `t`. -/
def clock (t : Nat) : Uptime := BitVec.ofNat 32 t

theorem clock_toNat (t : Nat) : (clock t).toNat = t % period := BitVec.toNat_ofNat t 32

theorem clock_add (a : Nat) (d : Uptime) : clock a + d = clock (a + d.toNat) := by
  rw [clock, clock, BitVec.ofNat_add, BitVec.ofNat_toNat, BitVec.setWidth_eq]

theorem clock_lt_iff (x y : Nat) : clock x < clock y ↔ x % period < y % period := by
  rw [BitVec.lt_def, clock_toNat, clock_toNat]

theorem clock_eq_zero_iff (x : Nat) : clock x = 0 ↔ x % period = 0 := by
  rw [BitVec.toNat_eq, clock_toNat]
  rfl

/-- In one period the clock tells the order. -/
theorem clock_lt_iff_of_div_eq {x y : Nat} (h : y / period = x / period) :
    clock x < clock y ↔ x < y := by
  have hx := Nat.div_add_mod x period
  have hy := Nat.div_add_mod y period
  rw [h] at hy
  rw [clock_lt_iff]
  omega

/-- What the clock reads in between is no more than what went by. -/
theorem clock_sub_le {x y : Nat} (hxy : x ≤ y) : (clock y - clock x).toNat ≤ y - x := by
  have hadd : clock y = clock x + BitVec.ofNat 32 (y - x) := by
    rw [clock, clock, ← BitVec.ofNat_add, Nat.add_sub_cancel' hxy]
  rw [hadd, BitVec.add_comm, BitVec.add_sub_cancel, BitVec.toNat_ofNat]
  exact Nat.mod_le _ _

/-- Differences survive the wrap. -/
theorem clock_sub_toNat {x y : Nat} (hxy : x ≤ y) (hy : y < x + period) :
    (clock y - clock x).toNat = y - x := by
  have hadd : clock y = clock x + BitVec.ofNat 32 (y - x) := by
    rw [clock_add, BitVec.toNat_ofNat, Nat.mod_eq_of_lt (by unfold period at hy; omega),
      Nat.add_sub_cancel' hxy]
  rw [hadd, BitVec.add_comm, BitVec.add_sub_cancel, BitVec.toNat_ofNat,
    Nat.mod_eq_of_lt (by unfold period at hy; omega)]

end FieldKit.Time

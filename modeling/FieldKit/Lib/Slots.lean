/-
  File:      FieldKit/Lib/Slots.lean
  Subject:   A sequence cut into slots of one size, one of which is written.

  * `slot_setSlot` -- the slot that is written is read back, and the others are as they were.
-/
import Mathlib.Data.List.Basic

namespace FieldKit.Lib

variable {α : Type}

/-- Slot `k`, of slots of this size. -/
def slot (size k : Nat) (l : List α) : List α := (l.drop (size * k)).take size

/-- Slot `k` is written. -/
def setSlot (size k : Nat) (x l : List α) : List α :=
  l.take (size * k) ++ (x ++ l.drop (size * k + size))

theorem length_setSlot {size k : Nat} {x l : List α} (hx : x.length = size)
    (hk : size * k + size ≤ l.length) : (setSlot size k x l).length = l.length := by
  unfold setSlot
  rw [List.length_append, List.length_append, List.length_take, List.length_drop, hx]
  omega

theorem slot_setSlot_self {size k : Nat} {x l : List α} (hx : x.length = size)
    (hk : size * k ≤ l.length) : slot size k (setSlot size k x l) = x := by
  have hfront : (l.take (size * k)).length = size * k := List.length_take_of_le hk
  unfold slot setSlot
  rw [List.drop_left' hfront, List.take_left' hx]

/-- A slot in front. -/
theorem slot_setSlot_before {size j k : Nat} {x l : List α} (hjk : j < k)
    (hk : size * k ≤ l.length) : slot size j (setSlot size k x l) = slot size j l := by
  have hend : size * j + size ≤ size * k := by
    rw [← Nat.mul_succ]
    exact Nat.mul_le_mul_left size hjk
  have hfront : (l.take (size * k)).length = size * k := List.length_take_of_le hk
  unfold slot setSlot
  rw [List.drop_append_of_le_length (by omega), List.take_append_of_le_length, List.drop_take,
    List.take_take]
  · congr 1
    omega
  · rw [List.length_drop]
    omega

/-- A slot behind. -/
theorem slot_setSlot_after {size j k : Nat} {x l : List α} (hjk : k < j) (hx : x.length = size)
    (hk : size * k + size ≤ l.length) : slot size j (setSlot size k x l) = slot size j l := by
  have hend : size * k + size ≤ size * j := by
    rw [← Nat.mul_succ]
    exact Nat.mul_le_mul_left size hjk
  have hfront : (l.take (size * k)).length = size * k := List.length_take_of_le (by omega)
  have hdrop : (setSlot size k x l).drop (size * j) = l.drop (size * j) := by
    unfold setSlot
    rw [← List.append_assoc, List.drop_append, List.drop_eq_nil_of_le, List.nil_append,
      List.drop_drop, List.length_append, hfront, hx]
    · congr 1
      omega
    · rw [List.length_append, hfront, hx]
      exact hend
  unfold slot
  rw [hdrop]

/-- **The slot that is written is read back, and the others are as they were.** -/
theorem slot_setSlot {size j k : Nat} {x l : List α} (hx : x.length = size)
    (hk : size * k + size ≤ l.length) :
    slot size j (setSlot size k x l) = if j = k then x else slot size j l := by
  split
  · next heq =>
      subst heq
      exact slot_setSlot_self hx (by omega)
  · next hne =>
      rcases Nat.lt_or_gt_of_ne hne with hlt | hgt
      · exact slot_setSlot_before hlt (by omega)
      · exact slot_setSlot_after hgt hx hk

end FieldKit.Lib

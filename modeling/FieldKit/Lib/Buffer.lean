/-
  File:      FieldKit/Lib/Buffer.lean
  Subject:   Arrays of a fixed size, and what is written to them with a check of the range.

  * `put_eq_some` -- what fits is written;
  * `take_splice` -- what is in front is as it was;
  * `put_ended` -- elements, and one more that ends them;
  * `text_eq` -- the string in front of its 0.
-/
import FieldKit.Lib.CString

namespace FieldKit.Lib

variable {α : Type} {n : Nat}

/-! ## 1. Writing and reading -/

/-- The elements from `i` on replaced by those of `l`. -/
def splice (v : Vector α n) (i : Nat) (l : List α) (h : i + l.length ≤ n) : Vector α n :=
  ⟨(v.toList.take i ++ l ++ v.toList.drop (i + l.length)).toArray, by
    rw [List.size_toArray, List.length_append, List.length_append, List.length_take,
      List.length_drop, Vector.length_toList]
    omega⟩

/-- The same with a check; `none` is out of range. -/
def put (v : Vector α n) (i : Nat) (l : List α) : Option (Vector α n) :=
  if h : i + l.length ≤ n then some (splice v i l h) else none

/-- `len` elements from `i` on; `none` is out of range. -/
def slice (v : Vector α n) (i len : Nat) : Option (List α) :=
  if i + len ≤ n then some ((v.toList.drop i).take len) else none

@[simp] theorem toList_splice (v : Vector α n) (i : Nat) (l : List α) (h : i + l.length ≤ n) :
    (splice v i l h).toList = v.toList.take i ++ l ++ v.toList.drop (i + l.length) := rfl

/-- **What fits is written.** -/
theorem put_eq_some (v : Vector α n) {i : Nat} {l : List α} (h : i + l.length ≤ n) :
    put v i l = some (splice v i l h) := dif_pos h

/-- In front there is what was there, and then what was written. -/
theorem take_splice (v : Vector α n) {i k : Nat} {l : List α} (h : i + l.length ≤ n)
    (hk : k ≤ l.length) : (splice v i l h).toList.take (i + k) = v.toList.take i ++ l.take k := by
  have hfront : (v.toList.take i).length = i := by
    rw [List.length_take, Vector.length_toList]
    omega
  have hwhole : i + k = (v.toList.take i).length + k := by rw [hfront]
  rw [toList_splice, List.append_assoc, hwhole, List.take_length_add_append,
    List.take_append_of_le_length hk]

/-- **Elements are written, and behind them one that ends them.** -/
theorem put_ended (v : Vector α n) {i : Nat} {l : List α} (z : α) (h : i + l.length + 1 ≤ n) :
    ∃ v' v'' rest, put v i l = some v' ∧ put v' (i + l.length) [z] = some v'' ∧
      v''.toList = v.toList.take i ++ l ++ z :: rest := by
  have hfits : i + l.length ≤ n := Nat.le_of_succ_le h
  have hfront := take_splice v hfits (Nat.le_refl l.length)
  refine ⟨_, _, (splice v i l hfits).toList.drop (i + l.length + 1), put_eq_some v hfits,
    put_eq_some _ h, ?_⟩
  rw [toList_splice, hfront, List.take_length, List.append_assoc _ [z]]
  rfl

/-! ## 2. Strings -/

/-- The string from `i` on; `none` if nothing in the array ends it. -/
def text (v : Vector (BitVec 8) n) (i : Nat) : Option (List (BitVec 8)) := ctext (v.toList.drop i)

theorem text_eq {v : Vector (BitVec 8) n} {front string rest : List (BitVec 8)}
    (h : v.toList = front ++ string ++ 0 :: rest) (hzero : 0 ∉ string) :
    text v front.length = some string := by
  rw [text, h, List.append_assoc, List.drop_left]
  exact ctext_ended hzero rest

end FieldKit.Lib

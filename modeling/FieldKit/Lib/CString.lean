/-
  File:      FieldKit/Lib/CString.lean
  Subject:   Strings in arrays: the bytes in front of the first 0.

  * `ctext_eq_some_iff`, `ctext_append_zero` -- the string at the front of an array;
  * `getElem?_ended`, `getElem?_inside` -- the bytes of the string, and the 0 behind them;
  * `strncpy_eq_append`, `strncpy_eq_take` -- a copy into an array, with and without room for the 0;
  * `ctext_strncpy_iff` -- the array holds the string exactly if there is room.
-/
import Mathlib.Data.BitVec

namespace FieldKit.Lib

/-! ## 1. The string at the front -/

/-- The string at the front of an array; `none` if nothing in the array ends it. -/
def ctext : List (BitVec 8) → Option (List (BitVec 8))
  | [] => none
  | c :: cs => if c = 0 then some [] else (ctext cs).map (c :: ·)

/-- Bytes that are not 0 belong to the string. -/
theorem ctext_append {text : List (BitVec 8)} (h : 0 ∉ text) (rest : List (BitVec 8)) :
    ctext (text ++ rest) = (ctext rest).map (text ++ ·) := by
  induction text with
  | nil => simp
  | cons c cs ih =>
      rw [List.mem_cons, not_or] at h
      rw [List.cons_append, ctext, if_neg (Ne.symm h.1), ih h.2, Option.map_map]
      rfl

/-- The string in front of its 0. -/
theorem ctext_ended {text : List (BitVec 8)} (h : 0 ∉ text) (rest : List (BitVec 8)) :
    ctext (text ++ 0 :: rest) = some text := by
  rw [ctext_append h, ctext, if_pos rfl, Option.map_some, List.append_nil]

/-- The string of any bytes with a 0 behind them ends at the first 0. -/
theorem ctext_append_zero (l rest : List (BitVec 8)) :
    ctext (l ++ 0 :: rest) = some (l.takeWhile (· != 0)) := by
  induction l with
  | nil => rfl
  | cons c cs ih =>
      rw [List.cons_append, ctext]
      by_cases hc : c = 0
      · rw [if_pos hc, List.takeWhile_cons_of_neg (by simp [hc])]
      · have hne : (c != 0) = true := bne_iff_ne.mpr hc
        rw [if_neg hc, ih, List.takeWhile_cons, if_pos hne]
        rfl

/-- **What the string at the front is.** -/
theorem ctext_eq_some_iff {l text : List (BitVec 8)} :
    ctext l = some text ↔ 0 ∉ text ∧ ∃ rest, l = text ++ 0 :: rest := by
  constructor
  · intro h
    induction l generalizing text with
    | nil => cases h
    | cons c cs ih =>
        rw [ctext] at h
        split at h
        · next hc =>
            cases h
            exact ⟨List.not_mem_nil, cs, by rw [hc]; rfl⟩
        · next hc =>
            obtain ⟨tail, htail, rfl⟩ := Option.map_eq_some_iff.mp h
            obtain ⟨hzero, rest, rfl⟩ := ih htail
            refine ⟨?_, rest, rfl⟩
            rw [List.mem_cons, not_or]
            exact ⟨Ne.symm hc, hzero⟩
  · intro h
    obtain ⟨hzero, rest, rfl⟩ := h
    exact ctext_ended hzero rest

/-- A 0 ends the string, if nothing does before. -/
theorem ctext_of_getElem? {l : List (BitVec 8)} {k : Nat} (h : l[k]? = some 0) :
    ∃ text, ctext l = some text ∧ text.length ≤ k := by
  obtain ⟨hk, hzero⟩ := List.getElem?_eq_some_iff.mp h
  have hlist : l = l.take k ++ 0 :: l.drop (k + 1) := by
    rw [← hzero, List.getElem_cons_drop hk, List.take_append_drop]
  refine ⟨(l.take k).takeWhile (· != 0), ?_, ?_⟩
  · have hfront := ctext_append_zero (l.take k) (l.drop (k + 1))
    rwa [← hlist] at hfront
  · exact Nat.le_trans (List.takeWhile_prefix _).length_le (List.length_take_le k l)

section Bytes

variable {l text : List (BitVec 8)}

/-- The 0 behind the string. -/
theorem getElem?_ended (h : ctext l = some text) : l[text.length]? = some 0 := by
  obtain ⟨_, rest, rfl⟩ := ctext_eq_some_iff.mp h
  rw [List.getElem?_append_right (Nat.le_refl _), Nat.sub_self]
  rfl

/-- Its bytes. -/
theorem getElem?_inside (h : ctext l = some text) {i : Nat} (hi : i < text.length) :
    l[i]? = text[i]? ∧ l[i]? ≠ some 0 := by
  obtain ⟨hzero, rest, rfl⟩ := ctext_eq_some_iff.mp h
  rw [List.getElem?_append_left hi]
  exact ⟨rfl, fun heq => hzero (List.mem_of_getElem? heq)⟩

end Bytes

/-! ## 2. Copies -/

/-- `strncpy`: what an array of `n` bytes holds afterwards. -/
def strncpy (n : Nat) (text : List (BitVec 8)) : List (BitVec 8) :=
  text.take n ++ List.replicate (n - text.length) 0

@[simp] theorem length_strncpy (n : Nat) (text : List (BitVec 8)) : (strncpy n text).length = n := by
  simp only [strncpy, List.length_append, List.length_take, List.length_replicate]
  omega

/-- With room for it, a 0 stands behind the copy. -/
theorem strncpy_eq_append {n : Nat} {text : List (BitVec 8)} (h : text.length < n) :
    strncpy n text = text ++ 0 :: List.replicate (n - text.length - 1) 0 := by
  obtain ⟨k, hk⟩ : ∃ k, n - text.length = k + 1 := ⟨n - text.length - 1, by omega⟩
  rw [strncpy, List.take_of_length_le (Nat.le_of_lt h), hk, List.replicate_succ,
    Nat.add_sub_cancel]

/-- Without, nothing does. -/
theorem strncpy_eq_take {n : Nat} {text : List (BitVec 8)} (h : n ≤ text.length) :
    strncpy n text = text.take n := by
  rw [strncpy, Nat.sub_eq_zero_of_le h, List.replicate_zero, List.append_nil]

/-- A copy with room is read back, whatever is behind the array. -/
theorem ctext_strncpy {n : Nat} {text : List (BitVec 8)} (hzero : 0 ∉ text) (h : text.length < n)
    (behind : List (BitVec 8)) : ctext (strncpy n text ++ behind) = some text := by
  rw [strncpy_eq_append h, List.append_assoc, List.cons_append, ctext_ended hzero]

/-- **The array itself holds the string, cut to leave room for the 0, exactly if there is room.** -/
theorem ctext_strncpy_iff {n : Nat} {text : List (BitVec 8)} (hzero : 0 ∉ text) :
    ctext (strncpy n text) = some (text.take (n - 1)) ↔ text.length < n := by
  constructor
  · intro h
    refine Nat.lt_of_not_le fun hlong => ?_
    obtain ⟨_, rest, heq⟩ := ctext_eq_some_iff.mp h
    rw [strncpy_eq_take hlong] at heq
    have hmem : 0 ∈ text.take n := heq ▸ List.mem_append_right _ List.mem_cons_self
    exact hzero (List.mem_of_mem_take hmem)
  · intro h
    rw [List.take_of_length_le (Nat.le_sub_one_of_lt h)]
    have hread := ctext_strncpy hzero h []
    rwa [List.append_nil] at hread

end FieldKit.Lib

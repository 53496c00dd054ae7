/-
  File:      FieldKit/Lib/Memory.lean
  Subject:   Memory: a byte at every address.

  * `read_write`, `read_write_part` -- what was written is read back, whole and in part;
  * `write_outside` -- everything else is as it was;
  * `write_append`, `write_prepend` -- two writes that are one;
  * `word_write_part` -- a little-endian word in what was written;
  * `strlen_of_cstring` -- the length of a string that is ended by 0.
-/
import FieldKit.Lib.LittleEndian

namespace FieldKit.Lib

/-- A byte at every address. -/
abbrev Memory := Nat → BitVec 8

namespace Memory

/-! ## 1. Bytes -/

/-- The `n` bytes from `a` on. -/
def read (m : Memory) (a n : Nat) : List (BitVec 8) := (List.range n).map fun i => m (a + i)

/-- These bytes from `a` on. -/
def write (m : Memory) (a : Nat) (bytes : List (BitVec 8)) : Memory := fun x =>
  if a ≤ x ∧ x < a + bytes.length then bytes.getD (x - a) 0 else m x

/-- `memcpy`, of places that do not overlap. -/
def copy (m : Memory) (destination source n : Nat) : Memory :=
  m.write destination (m.read source n)

@[simp] theorem length_read (m : Memory) (a n : Nat) : (m.read a n).length = n := by
  simp [read]

theorem write_outside (m : Memory) {a x : Nat} {bytes : List (BitVec 8)}
    (h : x < a ∨ a + bytes.length ≤ x) : m.write a bytes x = m x := by
  unfold write
  rw [if_neg]
  omega

theorem write_inside (m : Memory) (a : Nat) {bytes : List (BitVec 8)} {i : Nat}
    (h : i < bytes.length) : m.write a bytes (a + i) = bytes[i] := by
  unfold write
  rw [if_pos ⟨Nat.le_add_right a i, Nat.add_lt_add_left h a⟩, Nat.add_sub_cancel_left]
  simp [List.getD, h]

/-- Places that hold the same are read the same. -/
theorem read_congr {m m' : Memory} {a b n : Nat} (h : ∀ i < n, m' (b + i) = m (a + i)) :
    m'.read b n = m.read a n :=
  List.map_congr_left fun i hi => h i (List.mem_range.mp hi)

/-- **A part of what was written.** -/
theorem read_write_part (m : Memory) (a : Nat) (front bytes behind : List (BitVec 8)) :
    (m.write a (front ++ (bytes ++ behind))).read (a + front.length) bytes.length = bytes := by
  apply List.ext_getElem
  · exact length_read _ _ _
  · intro i _ hi
    have hin : front.length + i < (front ++ (bytes ++ behind)).length := by
      simp only [List.length_append]
      omega
    simp only [read, List.getElem_map, List.getElem_range, Nat.add_assoc]
    rw [m.write_inside a hin, List.getElem_append_right (Nat.le_add_right _ _)]
    simp only [Nat.add_sub_cancel_left]
    rw [List.getElem_append_left hi]

/-- **What was written is read back.** -/
theorem read_write (m : Memory) (a : Nat) (bytes : List (BitVec 8)) :
    (m.write a bytes).read a bytes.length = bytes := by
  have hpart := m.read_write_part a [] bytes []
  rwa [List.append_nil] at hpart

/-- What is written behind. -/
theorem write_append (m : Memory) (a : Nat) (bytes more : List (BitVec 8)) :
    (m.write a bytes).write (a + bytes.length) more = m.write a (bytes ++ more) := by
  funext x
  by_cases hmore : a + bytes.length ≤ x ∧ x < a + bytes.length + more.length
  · obtain ⟨i, rfl⟩ := Nat.exists_eq_add_of_le hmore.1
    have hi : i < more.length := by omega
    have hin : bytes.length + i < (bytes ++ more).length := by
      rw [List.length_append]
      omega
    rw [write_inside _ _ hi, Nat.add_assoc, write_inside _ _ hin]
    simp
  · rw [write_outside _ (by omega)]
    by_cases hbytes : a ≤ x ∧ x < a + bytes.length
    · obtain ⟨i, rfl⟩ := Nat.exists_eq_add_of_le hbytes.1
      have hi : i < bytes.length := by omega
      have hin : i < (bytes ++ more).length := by
        rw [List.length_append]
        omega
      rw [write_inside _ _ hi, write_inside _ _ hin, List.getElem_append_left hi]
    · rw [write_outside _ (by omega), write_outside _ (by rw [List.length_append]; omega)]

/-- What is written in front. -/
theorem write_prepend (m : Memory) (a : Nat) (bytes more : List (BitVec 8)) :
    (m.write (a + bytes.length) more).write a bytes = m.write a (bytes ++ more) := by
  rw [← write_append]
  funext x
  by_cases hbytes : a ≤ x ∧ x < a + bytes.length
  · obtain ⟨i, rfl⟩ := Nat.exists_eq_add_of_le hbytes.1
    have hi : i < bytes.length := by omega
    rw [write_inside _ _ hi, write_outside _ (by omega), write_inside _ _ hi]
  · rw [write_outside _ (by omega)]
    have hsame : m.write a bytes x = m x := write_outside m (by omega)
    unfold write at hsame ⊢
    rw [hsame]

/-- One place behind another. -/
theorem read_add (m : Memory) (a n k : Nat) :
    m.read a (n + k) = m.read a n ++ m.read (a + n) k := by
  unfold read
  rw [List.range_add, List.map_append, List.map_map]
  simp only [Function.comp_def, Nat.add_assoc]

/-- What was copied. -/
theorem copy_inside (m : Memory) {destination source n i : Nat} (h : i < n) :
    m.copy destination source n (destination + i) = m (source + i) := by
  have hlength : i < (m.read source n).length := by rwa [length_read]
  unfold copy
  rw [m.write_inside destination hlength]
  simp [read]

/-! ## 2. Words -/

/-- The word of four bytes at `a`, the low byte first. -/
def word (m : Memory) (a : Nat) : Nat := ofLE (m.read a 4)

theorem word_congr {m m' : Memory} {a b : Nat} (h : ∀ i < 4, m' (b + i) = m (a + i)) :
    m'.word b = m.word a :=
  congrArg ofLE (read_congr h)

/-- **A word in what was written.** -/
theorem word_write_part (m : Memory) (a : Nat) (front behind : List (BitVec 8)) {x : Nat}
    (hx : x < 2 ^ 32) :
    (m.write a (front ++ (toLE 4 x ++ behind))).word (a + front.length) = x := by
  have hpart := m.read_write_part a front (toLE 4 x) behind
  rw [length_toLE] at hpart
  unfold word
  rw [hpart, ofLE_toLE]
  exact Nat.mod_eq_of_lt hx

/-! ## 3. Strings -/

/-- `strlen`; `none` if nothing ends the string in front of `limit`. -/
def strlen (m : Memory) (a : Nat) : Nat → Option Nat
  | 0 => none
  | limit + 1 => if m a = 0 then some 0 else (strlen m (a + 1) limit).map (· + 1)

/-- `text` stands at `a`, ended by 0. -/
structure CString (m : Memory) (a : Nat) (text : List (BitVec 8)) : Prop where
  nonzero : 0 ∉ text
  bytes : m.read a (text.length + 1) = text ++ [0]

theorem CString.text {m : Memory} {a : Nat} {text : List (BitVec 8)} (h : m.CString a text) :
    m.read a text.length = text := by
  have hbytes := h.bytes
  rw [read_add] at hbytes
  exact (List.append_inj hbytes (length_read m a _)).1

theorem CString.ended {m : Memory} {a : Nat} {text : List (BitVec 8)} (h : m.CString a text) :
    m (a + text.length) = 0 := by
  have hbytes := h.bytes
  rw [read_add] at hbytes
  have hlast := (List.append_inj hbytes (length_read m a _)).2
  simpa [read] using hlast

theorem CString.tail {m : Memory} {a : Nat} {c : BitVec 8} {text : List (BitVec 8)}
    (h : m.CString a (c :: text)) : m a = c ∧ m.CString (a + 1) text := by
  have hbytes := h.bytes
  rw [List.length_cons, Nat.add_comm (text.length + 1) 1, read_add] at hbytes
  have hsplit : m.read a 1 = [c] ∧ m.read (a + 1) (text.length + 1) = text ++ [0] :=
    List.append_inj hbytes (length_read m a 1)
  refine ⟨by simpa [read] using hsplit.1, fun hzero => h.nonzero (List.mem_cons_of_mem _ hzero),
    hsplit.2⟩

/-- **The length of a string.** -/
theorem strlen_of_cstring {m : Memory} {a limit : Nat} {text : List (BitVec 8)}
    (h : m.CString a text) (hlimit : text.length < limit) : m.strlen a limit = some text.length := by
  induction text generalizing a limit with
  | nil =>
      obtain ⟨limit, rfl⟩ := Nat.exists_eq_add_of_lt hlimit
      have hzero : m a = 0 := h.ended
      rw [List.length_nil, Nat.zero_add, strlen, if_pos hzero]
  | cons c text ih =>
      obtain ⟨hc, htail⟩ := h.tail
      obtain ⟨limit, rfl⟩ : ∃ k, limit = k + 1 :=
        ⟨limit - 1, by rw [List.length_cons] at hlimit; omega⟩
      have hne : m a ≠ 0 := by
        rw [hc]
        exact fun hzero => h.nonzero (hzero ▸ List.mem_cons_self)
      rw [strlen, if_neg hne, ih htail (Nat.lt_of_succ_lt_succ hlimit)]
      rfl

end Memory

end FieldKit.Lib

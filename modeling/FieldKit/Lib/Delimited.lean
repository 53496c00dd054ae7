/-
  File:      FieldKit/Lib/Delimited.lean
  Subject:   Fields on a wire: a tag, the length as a number of base 128, and so many bytes.

  * `ofVarint_toVarint` -- a number is read back, and what follows it is left;
  * `readFields_writeFields` -- so are the fields that were written one behind another;
  * `readRecords_take` -- of records that were cut off anywhere the whole ones are read.
-/
import Mathlib.Data.BitVec

namespace FieldKit.Lib

/-! ## 1. Numbers of base 128 -/

/-- Seven bits a byte, the lowest first; the high bit says that more follow. -/
def toVarint (n : Nat) : List (BitVec 8) :=
  if n < 128 then [BitVec.ofNat 8 n] else BitVec.ofNat 8 (n % 128 + 128) :: toVarint (n / 128)
termination_by n
decreasing_by omega

/-- The number in front, and what is behind it. -/
def ofVarint : List (BitVec 8) → Option (Nat × List (BitVec 8))
  | [] => none
  | b :: rest =>
    if b.toNat < 128 then some (b.toNat, rest)
    else (ofVarint rest).map fun p => (b.toNat - 128 + 128 * p.1, p.2)

/-- **A number is read back.** -/
theorem ofVarint_toVarint (n : Nat) (rest : List (BitVec 8)) :
    ofVarint (toVarint n ++ rest) = some (n, rest) := by
  induction n using Nat.strongRecOn with
  | ind n ih =>
      rw [toVarint]
      by_cases hlast : n < 128
      · have hbyte : (BitVec.ofNat 8 n).toNat = n := by
          rw [BitVec.toNat_ofNat]
          omega
        rw [if_pos hlast, List.singleton_append, ofVarint, hbyte, if_pos hlast]
      · have hbyte : (BitVec.ofNat 8 (n % 128 + 128)).toNat = n % 128 + 128 := by
          rw [BitVec.toNat_ofNat]
          omega
        have hvalue : n % 128 + 128 - 128 + 128 * (n / 128) = n := by omega
        rw [if_neg hlast, List.cons_append, ofVarint, hbyte, if_neg (by omega),
          ih (n / 128) (by omega), Option.map_some, hvalue]

/-! ## 2. Fields -/

section Fields

variable {F : Type} (tag : F → BitVec 8)

/-- One field. -/
def writeField (p : F × List (BitVec 8)) : List (BitVec 8) :=
  tag p.1 :: (toVarint p.2.length ++ p.2)

/-- The fields that are known, up to the first that is not; `limit` bounds their number. -/
def readFields (known : List F) : Nat → List (BitVec 8) → List (F × List (BitVec 8))
  | 0, _ => []
  | _ + 1, [] => []
  | limit + 1, b :: rest =>
    match known.find? fun f => tag f = b, ofVarint rest with
    | some f, some (n, rest) =>
      if n ≤ rest.length then (f, rest.take n) :: readFields known limit (rest.drop n) else []
    | _, _ => []

variable {tag}

theorem find_tag (htag : Function.Injective tag) {known : List F} {f : F} (hf : f ∈ known) :
    known.find? (fun g => tag g = tag f) = some f := by
  induction known with
  | nil => exact absurd hf List.not_mem_nil
  | cons g known ih =>
      by_cases hg : tag g = tag f
      · have hfirst : decide (tag g = tag f) = true := decide_eq_true hg
        rw [List.find?_cons, hfirst, htag hg]
      · have hne : f ≠ g := fun h => hg (h ▸ rfl)
        have hfirst : decide (tag g = tag f) = false := decide_eq_false hg
        rw [List.find?_cons, hfirst]
        exact ih ((List.mem_cons.mp hf).resolve_left hne)

/-- **Fields are read back**, in their order. -/
theorem readFields_writeFields (htag : Function.Injective tag) {known : List F}
    {fs : List (F × List (BitVec 8))} (hknown : ∀ p ∈ fs, p.1 ∈ known) {limit : Nat}
    (hlimit : fs.length ≤ limit) :
    readFields tag known limit (fs.flatMap (writeField tag)) = fs := by
  induction fs generalizing limit with
  | nil => cases limit <;> rfl
  | cons p fs ih =>
      obtain ⟨f, bytes⟩ := p
      obtain ⟨limit, rfl⟩ : ∃ k, limit = k + 1 :=
        ⟨limit - 1, by rw [List.length_cons] at hlimit; omega⟩
      have hfind := find_tag htag (hknown (f, bytes) List.mem_cons_self)
      rw [List.flatMap_cons, writeField, List.cons_append, List.append_assoc, readFields, hfind,
        ofVarint_toVarint]
      dsimp only
      rw [if_pos (List.length_append ▸ Nat.le_add_right _ _), List.take_left, List.drop_left,
        ih (fun q hq => hknown q (List.mem_cons_of_mem _ hq)) (Nat.le_of_succ_le_succ hlimit)]

/-- Every field takes bytes. -/
theorem length_le_writeFields (tag : F → BitVec 8) (fs : List (F × List (BitVec 8))) :
    fs.length ≤ (fs.flatMap (writeField tag)).length := by
  induction fs with
  | nil => exact Nat.le_refl _
  | cons p fs ih =>
      rw [List.flatMap_cons, List.length_append, writeField, List.length_cons, List.length_cons]
      omega

end Fields

/-! ## 3. Records -/

/-- What is there of a number that was cut off is no number. -/
theorem ofVarint_take {n k : Nat} (hk : k < (toVarint n).length) :
    ofVarint ((toVarint n).take k) = none := by
  induction n using Nat.strongRecOn generalizing k with
  | ind n ih =>
      rw [toVarint] at hk ⊢
      cases k with
      | zero => rfl
      | succ k =>
          by_cases hlast : n < 128
          · rw [if_pos hlast, List.length_singleton] at hk
            omega
          · have hbyte : (BitVec.ofNat 8 (n % 128 + 128)).toNat = n % 128 + 128 := by
              rw [BitVec.toNat_ofNat]
              omega
            rw [if_neg hlast] at hk ⊢
            rw [List.take_succ_cons, ofVarint, hbyte, if_neg (by omega),
              ih (n / 128) (by omega) (Nat.lt_of_succ_lt_succ hk), Option.map_none]

/-- A record: its length in front of it. -/
def delimit (bytes : List (BitVec 8)) : List (BitVec 8) := toVarint bytes.length ++ bytes

/-- The records, up to the first that is not there as a whole; `limit` bounds their number. -/
def readRecords : Nat → List (BitVec 8) → List (List (BitVec 8))
  | 0, _ => []
  | limit + 1, bytes =>
    match ofVarint bytes with
    | some (n, rest) =>
      if n ≤ rest.length then rest.take n :: readRecords limit (rest.drop n) else []
    | none => []

/-- How many records end within the first `n` bytes. -/
def whole : List (List (BitVec 8)) → Nat → Nat
  | [], _ => 0
  | m :: ms, n => if (delimit m).length ≤ n then whole ms (n - (delimit m).length) + 1 else 0

/-- All of them do, if that is all. -/
theorem whole_all (ms : List (List (BitVec 8))) : whole ms (ms.flatMap delimit).length = ms.length := by
  induction ms with
  | nil => rfl
  | cons m ms ih =>
      rw [List.flatMap_cons, List.length_append, whole, if_pos (Nat.le_add_right _ _),
        Nat.add_sub_cancel_left, ih, List.length_cons]

/-- A record that was cut off is not read. -/
theorem readRecords_cut {m : List (BitVec 8)} {n : Nat} (hn : n < (delimit m).length) (limit : Nat) :
    readRecords limit ((delimit m).take n) = [] := by
  cases limit with
  | zero => rfl
  | succ limit =>
      unfold readRecords delimit
      by_cases hlength : n < (toVarint m.length).length
      · rw [List.take_append_of_le_length (Nat.le_of_lt hlength), ofVarint_take hlength]
      · unfold delimit at hn
        rw [List.length_append] at hn
        rw [List.take_append, List.take_of_length_le (Nat.le_of_not_lt hlength), ofVarint_toVarint]
        dsimp only
        rw [if_neg]
        rw [List.length_take]
        omega

/-- **Of records that were cut off anywhere the whole ones are read**, in their order. -/
theorem readRecords_take (ms : List (List (BitVec 8))) (n : Nat) {limit : Nat}
    (hlimit : ms.length ≤ limit) :
    readRecords limit ((ms.flatMap delimit).take n) = ms.take (whole ms n) := by
  induction ms generalizing n limit with
  | nil =>
      rw [List.flatMap_nil, List.take_nil, List.take_nil]
      cases limit <;> rfl
  | cons m ms ih =>
      obtain ⟨limit, rfl⟩ : ∃ k, limit = k + 1 :=
        ⟨limit - 1, by rw [List.length_cons] at hlimit; omega⟩
      rw [List.flatMap_cons, whole]
      by_cases hfits : (delimit m).length ≤ n
      · rw [if_pos hfits, List.take_append, List.take_of_length_le hfits, List.take_succ_cons,
          readRecords, delimit, List.append_assoc, ofVarint_toVarint]
        dsimp only
        rw [if_pos (List.length_append ▸ Nat.le_add_right _ _), List.take_left, List.drop_left,
          ← delimit, ih _ (Nat.le_of_succ_le_succ hlimit)]
      · have hcut := Nat.lt_of_not_le hfits
        rw [if_neg hfits, List.take_append_of_le_length (Nat.le_of_lt hcut),
          readRecords_cut hcut, List.take_zero]

/-- One record is read back. -/
theorem readRecords_record (m : List (BitVec 8)) : readRecords 1 (delimit m) = [m] := by
  have hone := readRecords_take [m] (delimit m).length (Nat.le_refl 1)
  rw [List.flatMap_singleton, List.take_length] at hone
  rw [hone, whole, if_pos (Nat.le_refl _)]
  rfl

end FieldKit.Lib

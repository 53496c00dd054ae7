/-
  File:      FieldKit/Lib/Interpolation.lean
  Subject:   Interpolation in a table of points, over an ordered field.

  * `interpolateFrom_bounds` -- nothing is below the first point or above the last;
  * `interpolateFrom_mono` -- where the table does not fall, neither does what is interpolated;
  * `interpolateFrom_mem` -- the points of the table are met.
-/
import Mathlib.Algebra.Order.Field.Basic
import Mathlib.Data.List.Chain
import Mathlib.Tactic.Linarith

namespace FieldKit.Lib

/-- The line through two points. -/
def line {K : Type} [Field K] (a b : K × K) (x : K) : K := (b.2 - a.2) * ((x - a.1) / (b.1 - a.1)) + a.2

/-- From the point `a` on; behind the last point there is its value. -/
def interpolateFrom {K : Type} [Field K] [LinearOrder K] (a : K × K) : List (K × K) → K → K
  | [], _ => a.2
  | b :: rest, x => if x < b.1 then line a b x else interpolateFrom b rest x

/-- The points lie from left to right, and do not fall. -/
def Rises {K : Type} [LT K] [LE K] (table : List (K × K)) : Prop :=
  table.IsChain fun a b => a.1 < b.1 ∧ a.2 ≤ b.2

/-- The first point of a line is on it. -/
theorem line_left {K : Type} [Field K] (a b : K × K) : line a b a.1 = a.2 := by
  rw [line, sub_self, zero_div, mul_zero, zero_add]

/-- Points lie behind the first one. -/
theorem Rises.lt_of_mem {K : Type} [Preorder K] {a p : K × K} {rest : List (K × K)}
    (h : Rises (a :: rest)) (hp : p ∈ rest) : a.1 < p.1 := by
  induction rest generalizing a with
  | nil => exact absurd hp List.not_mem_nil
  | cons b rest ih =>
      obtain ⟨⟨hab, _⟩, hrest⟩ := List.isChain_cons_cons.mp h
      rcases List.mem_cons.mp hp with rfl | hp
      · exact hab
      · exact hab.trans (ih hrest hp)

section Points

variable {K : Type} [Field K] [LinearOrder K] {a : K × K} {rest : List (K × K)}

/-- The first point is met. -/
theorem interpolateFrom_left (h : Rises (a :: rest)) : interpolateFrom a rest a.1 = a.2 := by
  cases rest with
  | nil => rfl
  | cons b rest =>
      rw [interpolateFrom, if_pos (List.isChain_cons_cons.mp h).1.1, line_left]

/-- **The points of the table are met.** -/
theorem interpolateFrom_mem (h : Rises (a :: rest)) {p : K × K} (hp : p ∈ a :: rest) :
    interpolateFrom a rest p.1 = p.2 := by
  induction rest generalizing a with
  | nil =>
      rw [List.mem_singleton.mp hp]
      rfl
  | cons b rest ih =>
      rcases List.mem_cons.mp hp with rfl | hp
      · exact interpolateFrom_left h
      · have hrest := (List.isChain_cons_cons.mp h).2
        have hge : ¬ p.1 < b.1 := by
          rcases List.mem_cons.mp hp with rfl | hp
          · exact lt_irrefl _
          · exact not_lt.mpr (Rises.lt_of_mem hrest hp).le
        rw [interpolateFrom, if_neg hge]
        exact ih hrest hp

end Points

section Order

variable {K : Type} [Field K] [LinearOrder K] [IsStrictOrderedRing K]

section Line

variable {a b : K × K} {x y : K}

/-- How far along, between 0 and 1. -/
theorem ratio_bounds (hab : a.1 < b.1) (hx : a.1 ≤ x) (hx' : x ≤ b.1) :
    0 ≤ (x - a.1) / (b.1 - a.1) ∧ (x - a.1) / (b.1 - a.1) ≤ 1 := by
  have hpos : 0 < b.1 - a.1 := sub_pos.mpr hab
  exact ⟨div_nonneg (sub_nonneg.mpr hx) hpos.le, (div_le_one hpos).mpr (by linarith)⟩

theorem line_bounds (hab : a.1 < b.1) (hrise : a.2 ≤ b.2) (hx : a.1 ≤ x) (hx' : x ≤ b.1) :
    a.2 ≤ line a b x ∧ line a b x ≤ b.2 := by
  obtain ⟨hlow, hhigh⟩ := ratio_bounds hab hx hx'
  have hdiff : 0 ≤ b.2 - a.2 := sub_nonneg.mpr hrise
  have hnonneg := mul_nonneg hdiff hlow
  have hle := mul_le_of_le_one_right hdiff hhigh
  unfold line
  constructor <;> linarith

theorem line_mono (hab : a.1 < b.1) (hrise : a.2 ≤ b.2) (hxy : x ≤ y) :
    line a b x ≤ line a b y := by
  have hpos : 0 < b.1 - a.1 := sub_pos.mpr hab
  have hratio : (x - a.1) / (b.1 - a.1) ≤ (y - a.1) / (b.1 - a.1) :=
    div_le_div_of_nonneg_right (sub_le_sub_right hxy a.1) hpos.le
  have hmul := mul_le_mul_of_nonneg_left hratio (sub_nonneg.mpr hrise)
  unfold line
  linarith

end Line

section Table

variable {a : K × K} {rest : List (K × K)} {x y : K}

/-- What is interpolated lies between the first point and the last. -/
theorem interpolateFrom_bounds (h : Rises (a :: rest)) (hx : a.1 ≤ x) :
    a.2 ≤ interpolateFrom a rest x ∧ interpolateFrom a rest x ≤ ((a :: rest).getLast (by simp)).2 := by
  induction rest generalizing a x with
  | nil => exact ⟨le_rfl, le_rfl⟩
  | cons b rest ih =>
      obtain ⟨⟨hab, hrise⟩, hrest⟩ := List.isChain_cons_cons.mp h
      rw [interpolateFrom, List.getLast_cons (List.cons_ne_nil b rest)]
      split
      · next hlt =>
          obtain ⟨hlow, hhigh⟩ := line_bounds hab hrise hx hlt.le
          obtain ⟨hfrom, hto⟩ := ih hrest le_rfl
          exact ⟨hlow, hhigh.trans (hfrom.trans hto)⟩
      · next hge =>
          obtain ⟨hlow, hhigh⟩ := ih hrest (not_lt.mp hge)
          exact ⟨hrise.trans hlow, hhigh⟩

/-- **It does not fall.** -/
theorem interpolateFrom_mono (h : Rises (a :: rest)) (hx : a.1 ≤ x) (hxy : x ≤ y) :
    interpolateFrom a rest x ≤ interpolateFrom a rest y := by
  induction rest generalizing a with
  | nil => exact le_rfl
  | cons b rest ih =>
      obtain ⟨⟨hab, hrise⟩, hrest⟩ := List.isChain_cons_cons.mp h
      rw [interpolateFrom, interpolateFrom]
      by_cases hxb : x < b.1
      · rw [if_pos hxb]
        by_cases hyb : y < b.1
        · rw [if_pos hyb]
          exact line_mono hab hrise hxy
        · rw [if_neg hyb]
          exact (line_bounds hab hrise hx hxb.le).2.trans
            (interpolateFrom_bounds hrest (not_lt.mp hyb)).1
      · have hyb : ¬ y < b.1 := fun h => hxb (lt_of_le_of_lt hxy h)
        rw [if_neg hxb, if_neg hyb]
        exact ih hrest (not_lt.mp hxb)

end Table

end Order

end FieldKit.Lib

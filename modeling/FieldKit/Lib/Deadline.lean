/-
  File:      FieldKit/Lib/Deadline.lean
  Subject:   Deadlines on a clock that wraps, and polls that look for them.

  Times are numbers that grow; what is compared are their remainders. A machine is polled from the
  state in which it waits for a deadline.

  * `mod_lt_mod_iff`, `mod_lt_mod_iff_of_ge` -- comparing remainders compares the times exactly as
    long as both are in one period;
  * `right_iff` -- what a poll has to find that compares remainders;
  * `onTime_iff` -- a machine is on time exactly if every poll that finds it waiting is good.
-/
import Mathlib.Data.Nat.Init

namespace FieldKit.Lib

/-! ## 1. Remainders -/

section Remainders

variable {W x y : Nat}

/-- A later time has the greater remainder exactly if it is in the same period. -/
theorem mod_lt_mod_iff (hxy : x ≤ y) (hy : y < x + W) :
    x % W < y % W ↔ x < y ∧ x / W = y / W := by
  have hx := Nat.div_add_mod x W
  have hy' := Nat.div_add_mod y W
  have hmono := Nat.div_le_div_right (c := W) hxy
  rcases Nat.lt_or_eq_of_le hmono with hlt | heq
  · have hstep : W * (x / W) + W ≤ W * (y / W) := by
      rw [← Nat.mul_succ]
      exact Nat.mul_le_mul_left W hlt
    constructor
    · intro h
      omega
    · intro h
      exact absurd h.2 (Nat.ne_of_lt hlt)
  · rw [heq] at hx
    constructor
    · intro h
      exact ⟨by omega, heq⟩
    · intro h
      omega

/-- An earlier time has the greater remainder exactly if it is in another period. -/
theorem mod_lt_mod_iff_of_ge (hyx : y ≤ x) (hx : x < y + W) : x % W < y % W ↔ x / W ≠ y / W := by
  have hx' := Nat.div_add_mod x W
  have hy' := Nat.div_add_mod y W
  have hmono := Nat.div_le_div_right (c := W) hyx
  rcases Nat.lt_or_eq_of_le hmono with hlt | heq
  · have hstep : W * (y / W) + W ≤ W * (x / W) := by
      rw [← Nat.mul_succ]
      exact Nat.mul_le_mul_left W hlt
    constructor
    · intro _
      exact Nat.ne_of_gt hlt
    · intro _
      omega
  · rw [← heq] at hx'
    constructor
    · intro h
      omega
    · intro h
      exact absurd heq.symm h

end Remainders

/-! ## 2. Polls -/

/-- What a poll of a machine that waits for a deadline comes to: it waits on; it acts, since the
    deadline is over; what it waits for ends before; or it has forgotten the deadline. -/
inductive Polled where
  | waits
  | acts
  | ends
  | forgets
  deriving DecidableEq, Repr

/-- The times follow each other, less than `H` apart. -/
def Spaced {τ : Type} (time : τ → Nat) (H : Nat) : Nat → List τ → Prop
  | _, [] => True
  | a, p :: ps => a ≤ time p ∧ time p < a + H ∧ Spaced time H (time p) ps

/-- `good` holds of every poll up to the first that is not of those that `go` on. -/
def Until {τ : Type} (good go : τ → Prop) : List τ → Prop
  | [] => True
  | p :: ps => good p ∧ (go p → Until good go ps)

/-- What a poll is to come to: nothing is done before the deadline, and nothing but that behind it. -/
def Right (deadline t : Nat) (o : Polled) : Prop :=
  (o = .acts → deadline ≤ t) ∧ (deadline < t → o = .acts) ∧ o ≠ .forgets

/-- **A poll that compares remainders** comes to what it is to come to exactly if it is not held up
    behind the deadline, and, if it is not held up, finds the deadline in its own period and not
    taken for none. -/
theorem right_iff {W deadline t : Nat} {o : Polled} {held unset : Prop} (hfrom : deadline < t + W)
    (hto : t < deadline + W) (hacts : o = .acts ↔ ¬ held ∧ ¬ unset ∧ deadline % W < t % W)
    (hforgets : o = .forgets ↔ ¬ held ∧ unset) :
    Right deadline t o ↔
      (deadline < t → ¬ held) ∧ (¬ held → ¬ unset ∧ t / W = deadline / W) := by
  unfold Right
  rw [hacts, ne_eq, hforgets]
  by_cases hheld : held
  · constructor
    · intro h
      exact ⟨fun hlate => absurd hheld (h.2.1 hlate).1, fun hfree => absurd hheld hfree⟩
    · intro h
      exact ⟨fun hfree => absurd hheld hfree.1, fun hlate => absurd hheld (h.1 hlate),
        fun hfree => hfree.1 hheld⟩
  by_cases hunset : unset
  · constructor
    · intro h
      exact absurd ⟨hheld, hunset⟩ h.2.2
    · intro h
      exact absurd hunset (h.2 hheld).1
  rcases Nat.lt_or_ge deadline t with hlate | hearly
  · rw [mod_lt_mod_iff (Nat.le_of_lt hlate) hto]
    constructor
    · intro h
      exact ⟨fun _ => hheld, fun _ => ⟨hunset, (h.2.1 hlate).2.2.2.symm⟩⟩
    · intro h
      exact ⟨fun _ => Nat.le_of_lt hlate,
        fun _ => ⟨hheld, hunset, hlate, (h.2 hheld).2.symm⟩, fun hno => hunset hno.2⟩
  · rw [mod_lt_mod_iff_of_ge hearly hfrom]
    constructor
    · intro h
      refine ⟨fun hlate => absurd hlate (Nat.not_lt.mpr hearly), fun _ => ⟨hunset, ?_⟩⟩
      refine Decidable.byContradiction fun hne => ?_
      -- it acts, which is right only on the spot, and there the period is the same
      have hle := h.1 ⟨hheld, hunset, fun heq => hne heq.symm⟩
      exact hne (by rw [Nat.le_antisymm hearly hle])
    · intro h
      exact ⟨fun hact => absurd (h.2 hheld).2.symm hact.2.2,
        fun hlate => absurd hlate (Nat.not_lt.mpr hearly), fun hno => hunset hno.2⟩

section Polls

variable {σ τ : Type}

/-- **On time**: so it is at every poll that finds the machine waiting. -/
def OnTime (poll : σ → τ → Polled × σ) (time : τ → Nat) (deadline : Nat) : σ → List τ → Prop
  | _, [] => True
  | s, p :: ps => Right deadline (time p) (poll s p).1 ∧
      ((poll s p).1 = .waits → OnTime poll time deadline (poll s p).2 ps)

/-- **A machine is on time exactly if every poll that finds it waiting is good**, if waiting leaves
    it as it is. -/
theorem onTime_iff {poll : σ → τ → Polled × σ} {time : τ → Nat} {deadline H a : Nat} {s : σ}
    {good : τ → Prop} (hstay : ∀ p, (poll s p).1 = .waits → (poll s p).2 = s)
    (hgood : ∀ p, a ≤ time p → time p < deadline + H →
      (Right deadline (time p) (poll s p).1 ↔ good p))
    (ps : List τ) {last : Nat} (hlast : a ≤ last) (hle : last ≤ deadline)
    (hspaced : Spaced time H last ps) :
    OnTime poll time deadline s ps ↔ Until good (fun p => (poll s p).1 = .waits) ps := by
  induction ps generalizing last with
  | nil => exact Iff.rfl
  | cons p ps ih =>
      obtain ⟨hfrom, hto, hspaced⟩ := hspaced
      have hp := hgood p (Nat.le_trans hlast hfrom) (by omega)
      -- behind a poll that was right and waits the deadline is still to come
      have hrest : Right deadline (time p) (poll s p).1 → (poll s p).1 = .waits →
          (OnTime poll time deadline (poll s p).2 ps ↔
            Until good (fun p => (poll s p).1 = .waits) ps) := by
        intro hright hwaits
        have hbefore : time p ≤ deadline := by
          refine Nat.le_of_not_lt fun hlate => ?_
          rw [hright.2.1 hlate] at hwaits
          cases hwaits
        rw [hstay p hwaits]
        exact ih (Nat.le_trans hlast hfrom) hbefore hspaced
      constructor
      · intro h
        obtain ⟨hright, h⟩ := h
        exact ⟨hp.mp hright, fun hwaits => (hrest hright hwaits).mp (h hwaits)⟩
      · intro h
        obtain ⟨hg, h⟩ := h
        exact ⟨hp.mpr hg, fun hwaits => (hrest (hp.mpr hg) hwaits).mpr (h hwaits)⟩

/-- Polls that go on under the one condition go on under the other, if they agree where it is
    good. -/
theorem until_congr {good go go' : τ → Prop} (h : ∀ p, good p → (go p ↔ go' p)) (ps : List τ) :
    Until good go ps ↔ Until good go' ps := by
  induction ps with
  | nil => exact Iff.rfl
  | cons p ps ih =>
      refine and_congr_right fun hg => ?_
      rw [h p hg, ih]

end Polls

end FieldKit.Lib

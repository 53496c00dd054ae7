/-
  File:      FieldKit/Streams.lean
  Subject:   The streams of lwstreams that the firmware is written over.

  lwstreams is not part of the repository. What the code relies on is modelled here, with the
  amounts that the library decides (how many bytes one read hands over, how many a write takes)
  left to the environment:

  * `Ring` -- `lws::CircularStreams`: bytes come out in the order they went in, and a read
    reports EOS (`none`) only once the stream is closed and drained;
  * `BufferedStreamCopier` -- `copy` refills its buffer from the reader only when it is empty,
    offers the buffered bytes to the writer, keeps what was not taken, and answers EOS when the
    reader or the writer does;
  * `copy_conserves`, `copy_cases` -- nothing is lost on the way, and what a copy can do.
-/
import Mathlib.Data.List.Basic

namespace FieldKit

variable {β ρ ω : Type}

/-! ## 1. The ring stream -/

/-- A `lws::CircularStreams`: the bytes written and not yet read, oldest first. -/
structure Ring (β : Type) where
  bytes : List β := []
  closed : Bool := false
  deriving DecidableEq, Repr

namespace Ring

/-- `clear()`: empty and open again. -/
def clear : Ring β := {}

/-- `close()` of the writing side. -/
def close (r : Ring β) : Ring β := { r with closed := true }

/-- `read(ptr, size)`: `none` is EOS, `some []` is "nothing yet". A read of a ring that holds
    bytes hands over at least one and at most `size` of them; `offered` is how many the library
    would. -/
def read (size offered : Nat) (r : Ring β) : Option (List β) × Ring β :=
  match r.bytes with
  | [] => (if r.closed then none else some [], r)
  | b :: bs =>
    let n := min (max 1 offered) size
    (some ((b :: bs).take n), { r with bytes := (b :: bs).drop n })

/-- `write(ptr, size)`: EOS on a closed ring, else a prefix of `bs` is taken; `room` is how many
    bytes there is room for. -/
def write (bs : List β) (room : Nat) (r : Ring β) : Option Nat × Ring β :=
  if r.closed then (none, r)
  else (some (min room bs.length), { r with bytes := r.bytes ++ bs.take room })

/-- **What a read can do**: EOS of a closed and drained ring, nothing on an open and drained one,
    or a non-empty prefix. -/
theorem read_cases {size : Nat} (hsize : 0 < size) (offered : Nat) (r : Ring β) :
    (r.bytes = [] ∧ r.closed = true ∧ r.read size offered = (none, r)) ∨
    (r.bytes = [] ∧ r.closed = false ∧ r.read size offered = (some [], r)) ∨
    (∃ bs rest, bs ≠ [] ∧ r.bytes = bs ++ rest ∧
      r.read size offered = (some bs, { r with bytes := rest })) := by
  unfold read
  cases h : r.bytes with
  | nil =>
      cases hc : r.closed with
      | true => exact Or.inl ⟨rfl, rfl, by simp⟩
      | false => exact Or.inr (Or.inl ⟨rfl, rfl, by simp⟩)
  | cons b bs =>
      refine Or.inr (Or.inr ⟨(b :: bs).take (min (max 1 offered) size),
        (b :: bs).drop (min (max 1 offered) size), ?_, (List.take_append_drop _ _).symm, rfl⟩)
      have hn : 0 < min (max 1 offered) size := by omega
      intro he
      have := congrArg List.length he
      simp only [List.length_take, List.length_cons, List.length_nil] at this
      omega

end Ring

/-! ## 2. The buffered copier -/

/-- A `lws::BufferedStreamCopier<Size>`: the bytes read and not yet taken by the writer. -/
structure BufferedStreamCopier (β : Type) where
  buffer : List β := []
  deriving DecidableEq, Repr

namespace BufferedStreamCopier

/-- The second half of `copy`: the buffered bytes are offered to the writer. -/
def offer (write : List β → ω → Option Nat × ω) (c : BufferedStreamCopier β) (w : ω) :
    Option Nat × BufferedStreamCopier β × ω :=
  match write c.buffer w with
  | (none, w') => (none, c, w')
  | (some n, w') => (some n, { buffer := c.buffer.drop n }, w')

/-- `copy(reader, writer)`: `none` is EOS, else the number of bytes the writer took. -/
def copy (read : ρ → Option (List β) × ρ) (write : List β → ω → Option Nat × ω)
    (c : BufferedStreamCopier β) (r : ρ) (w : ω) :
    Option Nat × BufferedStreamCopier β × ρ × ω :=
  match c.buffer with
  | [] =>
    match read r with
    | (none, r') => (none, c, r', w)
    | (some [], r') => (some 0, c, r', w)
    | (some (b :: bs), r') =>
      let (n, c', w') := offer write { buffer := b :: bs } w
      (n, c', r', w')
  | _ :: _ =>
    let (n, c', w') := offer write c w
    (n, c', r, w')

variable {γ : Type} {read : ρ → Option (List β) × ρ} {write : List β → ω → Option Nat × ω}
  {rest : ρ → List β} {taken : ω → List γ} {f : β → γ}

/-- The reader hands over what it has, in order. -/
structure ReadsFrom (read : ρ → Option (List β) × ρ) (rest : ρ → List β) : Prop where
  eos : ∀ r r', read r = (none, r') → rest r = [] ∧ rest r' = []
  some : ∀ r r' bs, read r = (some bs, r') → rest r = bs ++ rest r'

/-- The writer takes a prefix of what it is offered, as `f` has it. -/
structure WritesTo (write : List β → ω → Option Nat × ω) (taken : ω → List γ) (f : β → γ) :
    Prop where
  eos : ∀ bs w w', write bs w = (none, w') → taken w' = taken w
  some : ∀ bs w w' n, write bs w = (some n, w') → taken w' = taken w ++ (bs.take n).map f

/-- Offering loses nothing. -/
theorem offer_conserves (hw : WritesTo write taken f) {c c' : BufferedStreamCopier β} {w w' : ω}
    {n : Option Nat} (h : offer write c w = (n, c', w')) :
    taken w' ++ c'.buffer.map f = taken w ++ c.buffer.map f := by
  unfold offer at h
  split at h
  · next w1 hwrite =>
      cases h
      rw [hw.eos _ _ _ hwrite]
  · next k w1 hwrite =>
      cases h
      rw [hw.some _ _ _ _ hwrite, List.append_assoc, ← List.map_append, List.take_append_drop]

/-- What is held does not grow. -/
theorem offer_shrinks {c c' : BufferedStreamCopier β} {w w' : ω} {n : Option Nat}
    (h : offer write c w = (n, c', w')) : c'.buffer.length ≤ c.buffer.length := by
  unfold offer at h
  split at h
  · cases h
    exact Nat.le_refl _
  · cases h
    exact (List.drop_suffix _ _).length_le

/-- **Copying loses nothing**: what was taken, what is held and what is left to read stay in
    order. -/
theorem copy_conserves (hr : ReadsFrom read rest) (hw : WritesTo write taken f)
    {c c' : BufferedStreamCopier β} {r r' : ρ} {w w' : ω} {n : Option Nat}
    (h : copy read write c r w = (n, c', r', w')) :
    taken w' ++ (c'.buffer ++ rest r').map f = taken w ++ (c.buffer ++ rest r).map f := by
  unfold copy at h
  split at h
  · next hb =>
      split at h
      · next r1 hread =>
          cases h
          obtain ⟨h1, h2⟩ := hr.eos _ _ hread
          rw [h1, h2]
      · next r1 hread =>
          cases h
          rw [hr.some _ _ _ hread, List.nil_append]
      · next b bs r1 hread =>
          rcases ho : offer write { buffer := b :: bs } w with ⟨k, c1, w1⟩
          rw [ho] at h
          cases h
          rw [hr.some _ _ _ hread, hb, List.nil_append, List.map_append, List.map_append,
            ← List.append_assoc, ← List.append_assoc, offer_conserves hw ho]
  · rcases ho : offer write c w with ⟨k, c1, w1⟩
    rw [ho] at h
    cases h
    rw [List.map_append, List.map_append, ← List.append_assoc, ← List.append_assoc,
      offer_conserves hw ho]

/-- **What a copy can do**: EOS of the reader over an empty buffer, nothing read, or a write whose
    result it answers. -/
theorem copy_cases {c c' : BufferedStreamCopier β} {r r' : ρ} {w w' : ω} {n : Option Nat}
    (h : copy read write c r w = (n, c', r', w')) :
    (n = none ∧ c'.buffer = [] ∧ read r = (none, r') ∧ w' = w) ∨ (n = some 0 ∧ w' = w) ∨
      ∃ bs, write bs w = (n, w') := by
  have offered {c c' : BufferedStreamCopier β} {w' : ω} {n : Option Nat}
      (ho : offer write c w = (n, c', w')) : write c.buffer w = (n, w') := by
    unfold offer at ho
    split at ho <;> cases ho <;> assumption
  unfold copy at h
  split at h
  · next hb =>
      split at h
      · next hread =>
          cases h
          exact Or.inl ⟨rfl, hb, hread, rfl⟩
      · cases h
        exact Or.inr (Or.inl ⟨rfl, rfl⟩)
      · next b bs r1 hread =>
          rcases ho : offer write { buffer := b :: bs } w with ⟨k, c1, w1⟩
          rw [ho] at h
          cases h
          exact Or.inr (Or.inr ⟨_, offered ho⟩)
  · rcases ho : offer write c w with ⟨k, c1, w1⟩
    rw [ho] at h
    cases h
    exact Or.inr (Or.inr ⟨_, offered ho⟩)

end BufferedStreamCopier

end FieldKit

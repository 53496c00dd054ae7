/-
  File:      FieldKit/PoolMemory.lean
  Subject:   Where the pieces of a `Pool` (pool.cpp) lie: pointers and sizes of 32 bits, what `copy`
             and `strdup` write, and the child that `freeze` makes in the rest of the memory.

  The accounting alone is `FieldKit.Pool`. A failed assertion is `none`.

  * `malloc_spec` -- what `malloc` hands out, and `malloc_refines`, what it does to the accounting;
  * `serve_spec` -- every request is answered with a piece at the end, and writes nothing else;
  * `inv_step` -- the pieces of parent and child are stacked one upon the other;
  * `blocks_apart` -- in every run all pieces are aligned, inside and apart, and keep what was written.
-/
import FieldKit.Lib.Arena
import FieldKit.Lib.CString
import FieldKit.Lib.Memory
import FieldKit.Lib.Run
import FieldKit.Pool

namespace FieldKit.PoolMemory

open Lib

/-- A `void *`. -/
abbrev Pointer := BitVec 32

/-- `alignedSize`, of a `size_t`. -/
def alignedSize (size : BitVec 32) : BitVec 32 :=
  if size % 4 ≠ 0 then size + (4 - size % 4) else size

/-! ## 1. The pool -/

/-- `Pool`. -/
structure Pool where
  block : Pointer
  ptr : Pointer
  remaining : BitVec 32
  size : BitVec 32
  frozen : Bool := false
  deriving DecidableEq, Repr

namespace Pool

/-- The constructor. -/
def create (size : BitVec 32) (block : Pointer) : Pool :=
  { block := block, ptr := block, remaining := size, size := size }

/-- `allocated()`. -/
def allocated (p : Pool) : BitVec 32 := p.size - p.remaining

/-- `clear()`. -/
def clear (p : Pool) : Pool := { p with ptr := p.block, remaining := p.size, frozen := false }

/-- `malloc(size)`. -/
def malloc (size : BitVec 32) (p : Pool) : Option (Pointer × Pool) :=
  let aligned := alignedSize size
  if p.frozen = false ∧ aligned ≤ p.size ∧ aligned ≤ p.remaining then
    some (p.ptr, { p with ptr := p.ptr + aligned, remaining := p.remaining - aligned })
  else none

/-- `copy(ptr, size)`. -/
def copy (m : Memory) (source : Pointer) (size : BitVec 32) (p : Pool) :
    Option (Pointer × Pool × Memory) :=
  (p.malloc size).map fun (a, p) => (a, p, m.copy a.toNat source.toNat size.toNat)

/-- The length of a string, which ends somewhere in the memory. -/
def strlen (m : Memory) (str : Pointer) : Option Nat := m.strlen str.toNat (2 ^ 32 - str.toNat)

/-- `strdup(str)`. -/
def strdup (m : Memory) (str : Pointer) (p : Pool) : Option (Pointer × Pool × Memory) :=
  if str = 0 then some (0, p, m)
  else
    (strlen m str).bind fun length =>
      (p.malloc (BitVec.ofNat 32 (length + 1))).map fun (a, p) =>
        (a, p, m.write a.toNat (strncpy (length + 1) (m.read str.toNat length)))

/-- `freeze(name)`: the parent, and the child. -/
def freeze (p : Pool) : Pool × Pool := ({ p with frozen := true }, create p.remaining p.ptr)

end Pool

/-! ## 2. Requests -/

/-- A piece that was handed out: its place, the size that was asked for, and what was written to it. -/
structure Block where
  address : Pointer
  size : BitVec 32
  content : List Byte
  deriving DecidableEq, Repr

/-- The memory it takes. -/
def Block.piece (b : Block) : Piece := ⟨b.address.toNat, FieldKit.alignedSize b.size.toNat⟩

/-- A call of `malloc`, `copy` or `strdup`. -/
inductive Request where
  | malloc (size : BitVec 32)
  | copy (source : Pointer) (size : BitVec 32)
  | strdup (str : Pointer)
  deriving DecidableEq, Repr

/-- The size of the piece it asks for. -/
def Request.size (m : Memory) : Request → Nat
  | .malloc size => size.toNat
  | .copy _ size => size.toNat
  | .strdup str => ((Pool.strlen m str).map (· + 1)).getD 0

/-- What a request leaves, with the piece that is handed out; `strdup` of null hands out none. -/
def serve (m : Memory) (p : Pool) : Request → Option (Option Block × Pool × Memory)
  | .malloc size => (p.malloc size).map fun (a, p) => (some ⟨a, size, []⟩, p, m)
  | .copy source size =>
    (p.copy m source size).map fun (a, p, m') =>
      (some ⟨a, size, m.read source.toNat size.toNat⟩, p, m')
  | .strdup str =>
    (p.strdup m str).map fun (a, p, m') =>
      (if str = 0 then none
        else some ⟨a, BitVec.ofNat 32 (Request.size m (.strdup str)),
          strncpy (Request.size m (.strdup str)) (m.read str.toNat (Request.size m (.strdup str) - 1))⟩,
        p, m')

/-- The memory with a pool, the child that it was frozen for, and what both have handed out since
    they were cleared last, the newest piece first. -/
structure Heap where
  memory : Memory
  parent : Pool
  child : Option Pool := none
  parentBlocks : List Block := []
  childBlocks : List Block := []

/-- What its users do. -/
inductive Input where
  | parent (r : Request)
  | clear
  | freeze
  | child (r : Request)
  | clearChild
  deriving DecidableEq, Repr

/-- One call. The parent is frozen once until it is cleared, and then the child is used no more. -/
def step (s : Heap) : Input → Option Heap
  | .parent r => (serve s.memory s.parent r).map fun (new, p, m) =>
      { s with memory := m, parent := p, parentBlocks := new.toList ++ s.parentBlocks }
  | .clear => some { s with
      parent := s.parent.clear, child := none, parentBlocks := [], childBlocks := [] }
  | .freeze =>
    if s.child.isNone then
      some { s with parent := s.parent.freeze.1, child := some s.parent.freeze.2 }
    else none
  | .child r => s.child.bind fun c => (serve s.memory c r).map fun (new, c, m) =>
      { s with memory := m, child := some c, childBlocks := new.toList ++ s.childBlocks }
  | .clearChild => s.child.map fun c => { s with child := some c.clear, childBlocks := [] }

/-- A pool in its block. -/
def initial (block : Pointer) (size : BitVec 32) (m : Memory) : Heap :=
  { memory := m, parent := Pool.create size block }

/-- Nothing is asked for whose aligned size is no `size_t`. -/
def Bounded (s : Heap) : Input → Prop
  | .parent r => r.size s.memory < 2 ^ 32 - 3
  | .child r => r.size s.memory < 2 ^ 32 - 3
  | .clear => True
  | .freeze => True
  | .clearChild => True

instance (s : Heap) : (i : Input) → Decidable (Bounded s i)
  | .parent r => inferInstanceAs (Decidable (r.size s.memory < 2 ^ 32 - 3))
  | .child r => inferInstanceAs (Decidable (r.size s.memory < 2 ^ 32 - 3))
  | .clear => inferInstanceAs (Decidable True)
  | .freeze => inferInstanceAs (Decidable True)
  | .clearChild => inferInstanceAs (Decidable True)

/-! ## 3. One request -/

theorem alignedSize_toNat {size : BitVec 32} (h : size.toNat < 2 ^ 32 - 3) :
    (alignedSize size).toNat = FieldKit.alignedSize size.toNat := by
  have hmod : (size % 4).toNat = size.toNat % 4 := BitVec.toNat_umod
  have hlt := Nat.mod_lt size.toNat (show 0 < 4 by decide)
  unfold alignedSize FieldKit.alignedSize
  by_cases hzero : size.toNat % 4 = 0
  · have hzero' : size % 4 = 0 := BitVec.eq_of_toNat_eq (hmod.trans hzero)
    rw [if_neg (not_not.mpr hzero'), if_neg (not_not.mpr hzero)]
  · have hzero' : size % 4 ≠ 0 := by
      intro h
      rw [h] at hmod
      exact hzero hmod.symm
    have hrest : (4 - size % 4).toNat = 4 - size.toNat % 4 := by
      rw [BitVec.toNat_sub_of_le (BitVec.le_def.mpr (by rw [hmod]; exact Nat.le_of_lt hlt)), hmod]
      rfl
    rw [if_pos hzero', if_pos hzero, BitVec.toNat_add, hrest, Nat.mod_eq_of_lt (by omega)]

theorem four_dvd_alignedSize (n : Nat) : 4 ∣ FieldKit.alignedSize n := by
  unfold FieldKit.alignedSize
  split <;> omega

namespace Pool

/-- The pool is somewhere in its block, which does not reach around the end of the memory. -/
structure Valid (p : Pool) : Prop where
  low : p.block.toNat ≤ p.ptr.toNat
  ends : p.ptr.toNat + p.remaining.toNat = p.block.toNat + p.size.toNat
  room : p.block.toNat + p.size.toNat < 2 ^ 32

theorem Valid.create {size : BitVec 32} {block : Pointer} (h : block.toNat + size.toNat < 2 ^ 32) :
    (create size block).Valid := ⟨le_rfl, rfl, h⟩

/-- No assertion of `malloc` fails. -/
def Fits (size : BitVec 32) (p : Pool) : Prop :=
  p.frozen = false ∧ alignedSize size ≤ p.size ∧ alignedSize size ≤ p.remaining

theorem malloc_of_fits {size : BitVec 32} {p : Pool} (h : p.Fits size) :
    p.malloc size = some (p.ptr, { p with
      ptr := p.ptr + alignedSize size
      remaining := p.remaining - alignedSize size }) := if_pos h

theorem malloc_of_not_fits {size : BitVec 32} {p : Pool} (h : ¬ p.Fits size) :
    p.malloc size = none := if_neg h

/-- **What `malloc` hands out.** -/
theorem malloc_spec {p p' : Pool} {size : BitVec 32} {a : Pointer} (hp : p.Valid)
    (hsize : size.toNat < 2 ^ 32 - 3) (h : p.malloc size = some (a, p')) :
    p.frozen = false ∧ a = p.ptr ∧ p'.Valid ∧ p'.block = p.block ∧ p'.size = p.size ∧
      p'.frozen = p.frozen ∧ p'.ptr.toNat = p.ptr.toNat + FieldKit.alignedSize size.toNat := by
  have haligned := alignedSize_toNat hsize
  by_cases hfits : p.Fits size
  · rw [malloc_of_fits hfits] at h
    cases h
    obtain ⟨hfrozen, _, hremaining⟩ := hfits
    have hle := BitVec.le_def.mp hremaining
    have hlow := hp.low
    have hends := hp.ends
    have hroom := hp.room
    have hptr : (p.ptr + alignedSize size).toNat =
        p.ptr.toNat + FieldKit.alignedSize size.toNat := by
      rw [BitVec.toNat_add, haligned, Nat.mod_eq_of_lt (by omega)]
    have hrest : (p.remaining - alignedSize size).toNat =
        p.remaining.toNat - FieldKit.alignedSize size.toNat := by
      rw [BitVec.toNat_sub_of_le hremaining, haligned]
    refine ⟨hfrozen, rfl, ⟨?_, ?_, hroom⟩, rfl, rfl, rfl, hptr⟩
    · show p.block.toNat ≤ (p.ptr + alignedSize size).toNat
      omega
    · show (p.ptr + alignedSize size).toNat + (p.remaining - alignedSize size).toNat =
        p.block.toNat + p.size.toNat
      rw [hptr, hrest]
      omega
  · rw [malloc_of_not_fits hfits] at h
    cases h

/-- The pool in numbers. -/
def account (p : Pool) (hp : p.Valid) : FieldKit.Pool where
  size := p.size.toNat
  remaining := p.remaining.toNat
  frozen := p.frozen
  fits := by
    have hlow := hp.low
    have hends := hp.ends
    omega

/-- **In numbers `malloc` is that of the accounting.** -/
theorem malloc_refines {p : Pool} {size : BitVec 32} (hp : p.Valid)
    (hsize : size.toNat < 2 ^ 32 - 3) :
    (∀ a p', p.malloc size = some (a, p') →
      ∃ hp' : p'.Valid, (p.account hp).malloc size.toNat = some (p'.account hp')) ∧
      (p.malloc size = none → (p.account hp).malloc size.toNat = none) := by
  have haligned := alignedSize_toNat hsize
  have hsame : p.Fits size ↔ (p.account hp).frozen = false ∧
      FieldKit.alignedSize size.toNat ≤ (p.account hp).size ∧
        FieldKit.alignedSize size.toNat ≤ (p.account hp).remaining := by
    rw [Fits, BitVec.le_def, BitVec.le_def, haligned]
    rfl
  unfold FieldKit.Pool.malloc
  by_cases hfits : p.Fits size
  · rw [if_pos (hsame.mp hfits)]
    refine ⟨fun a p' h => ⟨(malloc_spec hp hsize h).2.2.1, ?_⟩, fun h => ?_⟩
    · rw [malloc_of_fits hfits] at h
      cases h
      simp only [account, BitVec.toNat_sub_of_le hfits.2.2, haligned]
    · rw [malloc_of_fits hfits] at h
      cases h
  · refine ⟨fun a p' h => ?_, fun _ => if_neg fun hall => hfits (hsame.mpr hall)⟩
    rw [malloc_of_not_fits hfits] at h
    cases h

end Pool

/-- A request is answered by a piece at the end of the pool, and only that is written. -/
structure Answered (m : Memory) (p : Pool) (b : Block) (p' : Pool) (m' : Memory) : Prop where
  thawed : p.frozen = false
  valid : p'.Valid
  block : p'.block = p.block
  size : p'.size = p.size
  address : b.address = p.ptr
  stop : p'.ptr.toNat = b.piece.stop
  within : b.content.length ≤ b.size.toNat
  written : m' = m.write b.address.toNat b.content

theorem answered_of_malloc {m : Memory} {p p' : Pool} {size : BitVec 32} {a : Pointer}
    {content : List Byte} (hp : p.Valid) (hsize : size.toNat < 2 ^ 32 - 3)
    (h : p.malloc size = some (a, p')) (hwithin : content.length ≤ size.toNat) :
    Answered m p ⟨a, size, content⟩ p' (m.write a.toNat content) := by
  obtain ⟨hfrozen, rfl, hvalid, hblock, hsame, _, hptr⟩ := Pool.malloc_spec hp hsize h
  exact ⟨hfrozen, hvalid, hblock, hsame, rfl, hptr, hwithin, rfl⟩

theorem write_nil (m : Memory) (a : Nat) : m.write a [] = m :=
  funext fun x => m.write_outside (by rw [List.length_nil]; omega)

/-- **Every request**, if it is not one for a copy of null. -/
theorem serve_spec {m m' : Memory} {p p' : Pool} {r : Request} {new : Option Block}
    (hp : p.Valid) (hsize : r.size m < 2 ^ 32 - 3) (h : serve m p r = some (new, p', m')) :
    (new = none ∧ p' = p ∧ m' = m) ∨ ∃ b, new = some b ∧ Answered m p b p' m' := by
  cases r with
  | malloc size =>
      obtain ⟨⟨a, q⟩, hmalloc, heq⟩ := Option.map_eq_some_iff.mp h
      cases heq
      have hanswered : Answered m p ⟨a, size, []⟩ p' (m.write a.toNat []) :=
        answered_of_malloc hp hsize hmalloc (Nat.zero_le _)
      rw [write_nil] at hanswered
      exact Or.inr ⟨_, rfl, hanswered⟩
  | copy source size =>
      obtain ⟨⟨a, q, m₁⟩, hcopy, heq⟩ := Option.map_eq_some_iff.mp h
      cases heq
      obtain ⟨⟨a, q⟩, hmalloc, heq⟩ := Option.map_eq_some_iff.mp hcopy
      cases heq
      exact Or.inr ⟨_, rfl, answered_of_malloc hp hsize hmalloc
        (Nat.le_of_eq (m.length_read source.toNat size.toNat))⟩
  | strdup str =>
      obtain ⟨⟨a, q, m₁⟩, hdup, heq⟩ := Option.map_eq_some_iff.mp h
      cases heq
      unfold Pool.strdup at hdup
      by_cases hnull : str = 0
      · rw [if_pos hnull] at hdup
        cases hdup
        rw [if_pos hnull]
        exact Or.inl ⟨rfl, rfl, rfl⟩
      · rw [if_neg hnull] at hdup
        obtain ⟨length, hlength, hdup⟩ := Option.bind_eq_some_iff.mp hdup
        obtain ⟨⟨a, q⟩, hmalloc, heq⟩ := Option.map_eq_some_iff.mp hdup
        cases heq
        have hasked : Request.size m (.strdup str) = length + 1 := by
          rw [Request.size, hlength]
          rfl
        rw [hasked] at hsize
        have hnat : (BitVec.ofNat 32 (length + 1)).toNat = length + 1 := by
          rw [BitVec.toNat_ofNat, Nat.mod_eq_of_lt (by omega)]
        rw [if_neg hnull, hasked, Nat.add_sub_cancel]
        refine Or.inr ⟨_, rfl, answered_of_malloc hp (by rw [hnat]; exact hsize) hmalloc ?_⟩
        rw [hnat, length_strncpy]

/-! ## 4. A pool with what it has handed out -/

/-- The pieces fill the pool up to where it has got, and hold what was written to them. -/
structure Serves (p : Pool) (m : Memory) (blocks : List Block) : Prop where
  valid : p.Valid
  stacked : Stacked p.block.toNat p.ptr.toNat (blocks.map Block.piece)
  within : ∀ b ∈ blocks, b.content.length ≤ b.size.toNat
  kept : ∀ b ∈ blocks, m.read b.address.toNat b.content.length = b.content

namespace Serves

variable {p p' : Pool} {m m' : Memory} {blocks : List Block} {b : Block}

/-- Nothing handed out. -/
theorem create {size : BitVec 32} {block : Pointer} (m : Memory)
    (h : block.toNat + size.toNat < 2 ^ 32) : Serves (Pool.create size block) m [] where
  valid := .create h
  stacked := rfl
  within := fun _ hb => absurd hb List.not_mem_nil
  kept := fun _ hb => absurd hb List.not_mem_nil

theorem piece_bounds (h : Serves p m blocks) (hb : b ∈ blocks) :
    p.block.toNat ≤ b.address.toNat ∧ b.address.toNat + b.size.toNat ≤ b.piece.stop ∧
      b.piece.stop ≤ p.ptr.toNat := by
  obtain ⟨hlow, hstop⟩ := h.stacked.bounds (List.mem_map_of_mem hb)
  exact ⟨hlow, Nat.add_le_add_left (le_alignedSize b.size.toNat) b.address.toNat, hstop⟩

/-- What is written behind the pool's pieces leaves them as they are. -/
theorem write (h : Serves p m blocks) {a : Nat} (ha : p.ptr.toNat ≤ a) (bytes : List Byte) :
    Serves p (m.write a bytes) blocks where
  valid := h.valid
  stacked := h.stacked
  within := h.within
  kept b hb := by
    obtain ⟨_, hsize, hstop⟩ := h.piece_bounds hb
    have hwithin := h.within b hb
    rw [← h.kept b hb, Memory.length_read]
    exact Memory.read_congr fun i hi => m.write_outside (Or.inl (by omega))

/-- One piece more. -/
theorem answered (h : Serves p m blocks) (ha : Answered m p b p' m') :
    Serves p' m' (b :: blocks) := by
  have hrest := h.write (Nat.le_of_eq (congrArg BitVec.toNat ha.address).symm) b.content
  rw [← ha.written] at hrest
  refine ⟨ha.valid, ⟨ha.stop, ?_⟩, ?_, ?_⟩
  · show Stacked p'.block.toNat b.address.toNat (blocks.map Block.piece)
    rw [ha.block, ha.address]
    exact h.stacked
  · intro c hc
    rcases List.mem_cons.mp hc with rfl | hc
    · exact ha.within
    · exact h.within c hc
  · intro c hc
    rcases List.mem_cons.mp hc with rfl | hc
    · rw [ha.written]
      exact m.read_write c.address.toNat c.content
    · exact hrest.kept c hc

/-- `allocated()` is the sum of the aligned sizes. -/
theorem allocated (h : Serves p m blocks) :
    p.allocated.toNat = (blocks.map fun b => FieldKit.alignedSize b.size.toNat).sum := by
  have hsum := h.stacked.sum
  have hends := h.valid.ends
  have hlow := h.valid.low
  rw [List.map_map] at hsum
  have hremaining : p.remaining ≤ p.size := BitVec.le_def.mpr (by omega)
  rw [Pool.allocated, BitVec.toNat_sub_of_le hremaining]
  have hsame : (blocks.map fun b => FieldKit.alignedSize b.size.toNat).sum =
      (blocks.map (Piece.length ∘ Block.piece)).sum := rfl
  omega

end Serves

/-! ## 5. The runs -/

/-- The pieces of the parent are stacked in the block, and those of the child upon them. -/
structure Inv (block : Pointer) (size : BitVec 32) (s : Heap) : Prop where
  parent : Serves s.parent s.memory s.parentBlocks
  same : s.parent.block = block ∧ s.parent.size = size
  child : ∀ c, s.child = some c → Serves c s.memory s.childBlocks ∧ s.parent.frozen = true ∧
    c.block = s.parent.ptr ∧ c.size = s.parent.remaining
  alone : s.child = none → s.childBlocks = []

section Runs

variable {block : Pointer} {size : BitVec 32} {s s' : Heap}

theorem inv_initial (m : Memory) (hroom : block.toNat + size.toNat < 2 ^ 32) :
    Inv block size (initial block size m) :=
  ⟨.create m hroom, ⟨rfl, rfl⟩, fun _ h => absurd h.symm (Option.some_ne_none _), fun _ => rfl⟩

/-- What the parent is asked for. -/
theorem parent_step (hi : Inv block size s) {r : Request} (hsize : r.size s.memory < 2 ^ 32 - 3)
    (hs : step s (.parent r) = some s') : Inv block size s' := by
  obtain ⟨⟨new, p, m⟩, hserve, rfl⟩ := Option.map_eq_some_iff.mp hs
  rcases serve_spec hi.parent.valid hsize hserve with ⟨rfl, rfl, rfl⟩ | ⟨b, rfl, ha⟩
  · exact hi
  · -- there is no child, since the parent is not frozen
    have hnochild : s.child = none := by
      cases hchild : s.child with
      | none => rfl
      | some c =>
          have hfrozen := (hi.child c hchild).2.1
          rw [ha.thawed] at hfrozen
          cases hfrozen
    refine ⟨hi.parent.answered ha, ⟨ha.block.trans hi.same.1, ha.size.trans hi.same.2⟩,
      fun c hc => ?_, hi.alone⟩
    rw [hnochild] at hc
    cases hc

/-- What the child is asked for. -/
theorem child_step (hi : Inv block size s) {r : Request} (hsize : r.size s.memory < 2 ^ 32 - 3)
    (hs : step s (.child r) = some s') : Inv block size s' := by
  obtain ⟨c, hchild, hs⟩ := Option.bind_eq_some_iff.mp hs
  obtain ⟨⟨new, c', m⟩, hserve, rfl⟩ := Option.map_eq_some_iff.mp hs
  obtain ⟨hserves, hfrozen, hblock, hrest⟩ := hi.child c hchild
  rcases serve_spec hserves.valid hsize hserve with ⟨rfl, rfl, rfl⟩ | ⟨b, rfl, ha⟩
  · refine ⟨hi.parent, hi.same, fun d hd => ?_, fun h => absurd h (Option.some_ne_none _)⟩
    cases hd
    exact ⟨hserves, hfrozen, hblock, hrest⟩
  · -- what is written lies behind the parent's pieces
    have hbehind : s.parent.ptr.toNat ≤ b.address.toNat := by
      rw [ha.address, ← hblock]
      exact hserves.valid.low
    have hparent := hi.parent.write hbehind b.content
    rw [← ha.written] at hparent
    refine ⟨hparent, hi.same, fun d hd => ?_, fun h => absurd h (Option.some_ne_none _)⟩
    cases hd
    exact ⟨hserves.answered ha, hfrozen, ha.block.trans hblock, ha.size.trans hrest⟩

theorem inv_step (hi : Inv block size s) {i : Input} (hbounded : Bounded s i)
    (hs : step s i = some s') : Inv block size s' := by
  cases i with
  | parent r => exact parent_step hi hbounded hs
  | child r => exact child_step hi hbounded hs
  | clear =>
      cases hs
      exact ⟨.create s.memory hi.parent.valid.room, hi.same,
        fun _ h => absurd h.symm (Option.some_ne_none _), fun _ => rfl⟩
  | freeze =>
      have hs : (if s.child.isNone = true then some { s with
          parent := s.parent.freeze.1, child := some s.parent.freeze.2 } else none) = some s' := hs
      split at hs
      · next hnone =>
          cases hs
          have hroom : s.parent.ptr.toNat + s.parent.remaining.toNat < 2 ^ 32 := by
            rw [hi.parent.valid.ends]
            exact hi.parent.valid.room
          refine ⟨⟨⟨hi.parent.valid.low, hi.parent.valid.ends, hi.parent.valid.room⟩,
            hi.parent.stacked, hi.parent.within, hi.parent.kept⟩, hi.same, fun c hc => ?_,
            fun h => absurd h (Option.some_ne_none _)⟩
          cases hc
          rw [hi.alone (Option.isNone_iff_eq_none.mp hnone)]
          exact ⟨.create s.memory hroom, rfl, rfl, rfl⟩
      · cases hs
  | clearChild =>
      obtain ⟨c, hchild, rfl⟩ := Option.map_eq_some_iff.mp hs
      obtain ⟨hserves, hfrozen, hblock, hrest⟩ := hi.child c hchild
      refine ⟨hi.parent, hi.same, fun d hd => ?_, fun h => absurd h (Option.some_ne_none _)⟩
      cases hd
      exact ⟨.create s.memory hserves.valid.room, hfrozen, hblock, hrest⟩

/-- All pieces, the child's in front. -/
def Heap.blocks (s : Heap) : List Block := s.childBlocks ++ s.parentBlocks

/-- What the pieces of a pool are to be. -/
structure Good (block : Pointer) (size : BitVec 32) (s : Heap) : Prop where
  aligned : ∀ b ∈ s.blocks, 4 ∣ b.address.toNat
  inside : ∀ b ∈ s.blocks, block.toNat ≤ b.address.toNat ∧
    b.address.toNat + b.size.toNat ≤ b.piece.stop ∧ b.piece.stop ≤ block.toNat + size.toNat
  apart : (s.blocks.map Block.piece).Pairwise Apart
  kept : ∀ b ∈ s.blocks, s.memory.read b.address.toNat b.content.length = b.content
  allocated : s.parent.allocated.toNat =
    (s.parentBlocks.map fun b => FieldKit.alignedSize b.size.toNat).sum
  allocatedChild : ∀ c, s.child = some c →
    c.allocated.toNat = (s.childBlocks.map fun b => FieldKit.alignedSize b.size.toNat).sum
  cleared : s.parent.clear = Pool.create size block
  clearedChild : ∀ c, s.child = some c → c.clear = s.parent.freeze.2

theorem four_dvd_pieces {blocks : List Block} {p : Piece} (hp : p ∈ blocks.map Block.piece) :
    4 ∣ p.length := by
  obtain ⟨b, _, rfl⟩ := List.mem_map.mp hp
  exact four_dvd_alignedSize b.size.toNat

/-- **All pieces are one stack** in the block: the child's upon the parent's. -/
theorem Inv.stacked (hi : Inv block size s) :
    ∃ high, Stacked block.toNat high (s.blocks.map Block.piece) ∧
      high ≤ block.toNat + size.toNat := by
  obtain ⟨hsame, hsize⟩ := hi.same
  have hparent := hi.parent.stacked
  have hends := hi.parent.valid.ends
  rw [hsame] at hparent hends
  rw [hsize] at hends
  rw [Heap.blocks, List.map_append]
  cases hchild : s.child with
  | none =>
      rw [hi.alone hchild]
      exact ⟨s.parent.ptr.toNat, hparent, by omega⟩
  | some c =>
      obtain ⟨hserves, _, hfrom, hrest⟩ := hi.child c hchild
      have hstacked := hserves.stacked
      have hends' := hserves.valid.ends
      rw [hfrom] at hstacked hends'
      rw [hrest] at hends'
      exact ⟨c.ptr.toNat, hstacked.append hparent, by omega⟩

theorem Inv.good (hi : Inv block size s) (hblock : 4 ∣ block.toNat) : Good block size s := by
  obtain ⟨high, hstacked, hhigh⟩ := hi.stacked
  have hchild : ∀ b ∈ s.childBlocks, ∃ c, s.child = some c := by
    intro b hb
    cases hchild : s.child with
    | none =>
        rw [hi.alone hchild] at hb
        exact absurd hb List.not_mem_nil
    | some c => exact ⟨c, rfl⟩
  refine ⟨fun b hb => ?_, fun b hb => ?_, hstacked.apart, fun b hb => ?_, hi.parent.allocated,
    fun c hc => (hi.child c hc).1.allocated, ?_, fun c hc => ?_⟩
  · exact (hstacked.aligned hblock fun p hp => four_dvd_pieces hp).2 _ (List.mem_map_of_mem hb)
  · obtain ⟨hlow, hstop⟩ := hstacked.bounds (List.mem_map_of_mem hb)
    exact ⟨hlow, Nat.add_le_add_left (le_alignedSize b.size.toNat) b.address.toNat,
      Nat.le_trans hstop hhigh⟩
  · rcases List.mem_append.mp hb with hb | hb
    · obtain ⟨c, hc⟩ := hchild b hb
      exact (hi.child c hc).1.kept b hb
    · exact hi.parent.kept b hb
  · rw [← hi.same.1, ← hi.same.2]
    rfl
  · obtain ⟨_, _, hfrom, hrest⟩ := hi.child c hc
    show Pool.create c.size c.block = Pool.create s.parent.remaining s.parent.ptr
    rw [hfrom, hrest]

/-- **In every run the pieces are aligned, inside and apart, and keep what was written to them.** -/
theorem blocks_apart (hblock : 4 ∣ block.toNat) (hroom : block.toNat + size.toNat < 2 ^ 32)
    {m : Memory} {tr : List (Heap × Input)} (h : Run step (initial block size m) tr s)
    (hbounded : Meets Bounded tr) : Good block size s :=
  (h.inv_meets Bounded (Inv block size) (inv_initial m hroom)
    (fun _ _ _ hi hb hs => inv_step hi hb hs) hbounded).good hblock

end Runs

/-- Thirteen bytes and a copy of five, and three bytes of the child. -/
def requests : List Input :=
  [.parent (.malloc 13), .parent (.copy 0x100 5), .freeze, .child (.malloc 3)]

/-- They lie one behind the other, at multiples of four. -/
theorem requests_apart : ∃ tr s, Run step (initial 0x1000 64 fun _ => 7) tr s ∧
    s.blocks.map Block.address = [0x1018, 0x1010, 0x1000] ∧ Good 0x1000 64 s := by
  have hexec : (exec (guarded Bounded step) (initial 0x1000 64 fun _ => 7) requests).map
      (fun s => s.blocks.map Block.address) = some [0x1018, 0x1010, 0x1000] := by decide
  obtain ⟨tr, s, hguarded, haddresses⟩ := run_of_exec_map hexec
  obtain ⟨hrun, hbounded⟩ := hguarded.of_guarded
  exact ⟨tr, s, hrun, haddresses, blocks_apart (by decide) (by decide) hrun hbounded⟩

end FieldKit.PoolMemory

/-
  File:      FieldKit/ChecksumStreams.lean
  Subject:   The streams that keep a checksum of what goes through them (checksum_streams.cpp), and what
             that checksum is.

  The stream beneath is the environment's: of the buffer of a call it hands over or accepts as many
  bytes as it returns, and none if it returns zero or less.

  * `crc32Update_shifts` -- the two table steps of a byte are eight bits of the polynomial;
  * `streams_checksum` -- whatever the calls are, and whatever they return.
-/
import FieldKit.Checksums
import FieldKit.Lib.Crc

namespace FieldKit

open Lib

/-! ## 1. The streams -/

/-- A call of the stream beneath: the buffer, as a read leaves it or a write is given it, and what it
    returns. -/
structure StreamCall where
  buffer : List Byte
  bytes : Int
  fits : bytes ≤ buffer.length := by decide
  deriving DecidableEq, Repr

/-- The bytes that it delivered, or accepted. -/
def StreamCall.moved (c : StreamCall) : List Byte := c.buffer.take c.bytes.toNat

/-- The loop over the bytes of a call. -/
def crcLoop : Nat → List Byte → BitVec 32 → BitVec 32
  | n + 1, b :: ptr, crc => crcLoop n ptr (crc32Update crc b)
  | _, _, crc => crc

/-- `Crc32Reader`. -/
structure Crc32Reader where
  crc : BitVec 32 := ~~~0
  deriving DecidableEq, Repr

/-- `Crc32Writer`. -/
structure Crc32Writer where
  crc : BitVec 32 := ~~~0
  deriving DecidableEq, Repr

/-- `read(ptr, size)`. -/
def Crc32Reader.read (r : Crc32Reader) (c : StreamCall) : Int × Crc32Reader :=
  (c.bytes, { crc := crcLoop c.bytes.toNat c.buffer r.crc })

/-- `checksum()`. -/
def Crc32Reader.checksum (r : Crc32Reader) : BitVec 32 := r.crc

/-- `write(ptr, size)`. -/
def Crc32Writer.write (w : Crc32Writer) (c : StreamCall) : Int × Crc32Writer :=
  (c.bytes, { crc := crcLoop c.bytes.toNat c.buffer w.crc })

/-- `checksum()`. -/
def Crc32Writer.checksum (w : Crc32Writer) : BitVec 32 := w.crc

/-- A new reader, after these calls. -/
def Crc32Reader.reads (calls : List StreamCall) : Crc32Reader :=
  calls.foldl (fun r c => (r.read c).2) {}

/-- A new writer, after these calls. -/
def Crc32Writer.writes (calls : List StreamCall) : Crc32Writer :=
  calls.foldl (fun w c => (w.write c).2) {}

/-- `crc32_checksum(data, size)`. -/
def crc32Checksum (data : List Byte) : BitVec 32 := ~~~crcLoop data.length data (~~~0)

/-! ## 2. Bit by bit -/

/-- The polynomial of CRC-32, reflected. -/
def crc32Polynomial : BitVec 32 := 0xedb88320

/-- **The reference**: bit by bit, all ones at first, not inverted at the end. -/
def crc32Reference (data : List Byte) : BitVec 32 :=
  Crc.checksum crc32Polynomial (BitVec.allOnes 32) data

/-- The table holds four bits of every index. -/
theorem crcTable_shifts (i : BitVec 8) :
    crcTable (i &&& 0x0f) = Crc.shifts crc32Polynomial 4 (Crc.low 4 (i.setWidth 32)) := by
  revert i
  decide +kernel

/-- The index of a table step is all that counts of the register and of the byte. -/
theorem crcTable_index (crc : BitVec 32) (data : Byte) :
    crcTable ((crc.setWidth 8 ^^^ data) &&& 0x0f) =
      Crc.shifts crc32Polynomial 4 (Crc.low 4 (crc ^^^ data.setWidth 32)) := by
  have hlow : Crc.low 4 ((crc.setWidth 8 ^^^ data).setWidth 32) =
      Crc.low 4 (crc ^^^ data.setWidth 32) := by
    refine BitVec.eq_of_getLsbD_eq fun i hi => ?_
    simp only [Crc.getLsbD_low, BitVec.getLsbD_setWidth, BitVec.getLsbD_xor, hi, decide_true,
      Bool.true_and]
    by_cases hfour : i < 4
    · have height : i < 8 := by omega
      simp [hfour, height]
    · simp [hfour]
  rw [crcTable_shifts, hlow]

/-- **A byte, in two table steps, is eight bits.** -/
theorem crc32Update_shifts (crc : BitVec 32) (data : Byte) :
    crc32Update crc data = Crc.shifts crc32Polynomial 8 (crc ^^^ data.setWidth 32) := by
  have hhigh : data.setWidth 32 >>> 4 = (data >>> 4).setWidth 32 := by
    refine BitVec.eq_of_getLsbD_eq fun i hi => ?_
    simp only [BitVec.getLsbD_ushiftRight, BitVec.getLsbD_setWidth, hi, decide_true, Bool.true_and]
    by_cases hend : 4 + i < 32
    · simp [hend]
    · simp [hend, BitVec.getLsbD_of_ge data (4 + i) (by omega)]
  have hover : (data >>> 4).setWidth 32 >>> 4 = 0#32 := by
    revert data
    decide +kernel
  unfold crc32Update
  dsimp only
  rw [crcTable_index crc data, Crc.shifts_symbol crc32Polynomial 4 4, hhigh]
  generalize Crc.shifts crc32Polynomial 4 (Crc.low 4 (crc ^^^ data.setWidth 32)) ^^^ (crc >>> 4) = c
  rw [crcTable_index, Crc.shifts_low crc32Polynomial 4 (c ^^^ _), BitVec.ushiftRight_xor_distrib,
    hover, BitVec.xor_zero]

/-- **What the streams keep is the reference.** -/
theorem crc32Of_reference (data : List Byte) : crc32Of data = crc32Reference data := by
  unfold crc32Of crc32Reference Crc.checksum
  congr 1
  funext crc b
  exact crc32Update_shifts crc b

/-! ## 3. Any calls -/

theorem crcLoop_foldl (n : Nat) (ptr : List Byte) (crc : BitVec 32) :
    crcLoop n ptr crc = (ptr.take n).foldl crc32Update crc := by
  induction n generalizing ptr crc with
  | zero =>
      rw [List.take_zero]
      cases ptr <;> rfl
  | succ n ih =>
      cases ptr with
      | nil => rfl
      | cons b ptr => exact ih ptr (crc32Update crc b)

/-- One call, from any checksum on. -/
theorem crcLoop_moved (c : StreamCall) (data : List Byte) :
    crcLoop c.bytes.toNat c.buffer (crc32Of data) = crc32Of (data ++ c.moved) := by
  rw [crcLoop_foldl, crc32Of_append]
  rfl

/-- Any calls, from any checksum on. -/
theorem calls_moved (calls : List StreamCall) (data : List Byte) :
    calls.foldl (fun crc c => crcLoop c.bytes.toNat c.buffer crc) (crc32Of data) =
      crc32Of (data ++ calls.flatMap StreamCall.moved) := by
  induction calls generalizing data with
  | nil => rw [List.foldl_nil, List.flatMap_nil, List.append_nil]
  | cons c calls ih =>
      rw [List.foldl_cons, crcLoop_moved, ih, List.flatMap_cons, List.append_assoc]

/-- **A reader** has the checksum of what was delivered to it. -/
theorem reads_moved (calls : List StreamCall) :
    (Crc32Reader.reads calls).checksum = crc32Of (calls.flatMap StreamCall.moved) := by
  have hcrc : calls.foldl (fun crc c => crcLoop c.bytes.toNat c.buffer crc) (crc32Of []) =
      (Crc32Reader.reads calls).crc := List.foldl_hom Crc32Reader.crc fun _ _ => rfl
  exact hcrc.symm.trans (calls_moved calls [])

/-- **So has a writer**, of what was accepted. -/
theorem writes_moved (calls : List StreamCall) :
    (Crc32Writer.writes calls).checksum = crc32Of (calls.flatMap StreamCall.moved) := by
  have hcrc : calls.foldl (fun crc c => crcLoop c.bytes.toNat c.buffer crc) (crc32Of []) =
      (Crc32Writer.writes calls).crc := List.foldl_hom Crc32Writer.crc fun _ _ => rfl
  exact hcrc.symm.trans (calls_moved calls [])

/-- **The checksum of the streams is the bitwise CRC of what was transferred**, whatever the calls
    were and whatever they returned; so a sender and a receiver of the same bytes agree, and
    `crc32_checksum` is the complement of the same value. -/
theorem streams_checksum :
    (∀ calls, (Crc32Reader.reads calls).checksum =
      crc32Reference (calls.flatMap StreamCall.moved)) ∧
    (∀ calls, (Crc32Writer.writes calls).checksum =
      crc32Reference (calls.flatMap StreamCall.moved)) ∧
    (∀ sent received, sent.flatMap StreamCall.moved = received.flatMap StreamCall.moved →
      (Crc32Writer.writes sent).checksum = (Crc32Reader.reads received).checksum) ∧
    ∀ data, crc32Checksum data = ~~~crc32Reference data := by
  refine ⟨fun calls => ?_, fun calls => ?_, fun sent received hsame => ?_, fun data => ?_⟩
  · rw [reads_moved, crc32Of_reference]
  · rw [writes_moved, crc32Of_reference]
  · rw [writes_moved, reads_moved, hsame]
  · have hall : crcLoop data.length data (~~~0) = crc32Of data := by
      rw [crcLoop_foldl, List.take_length]
      rfl
    rw [crc32Checksum, hall, crc32Of_reference]

end FieldKit

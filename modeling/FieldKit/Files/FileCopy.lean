/-
  File:      FieldKit/Files/FileCopy.lean
  Subject:   Reading a range of a file (file_reader.cpp) and copying it to a socket
             (file_copy_operation.cpp, wifi_client.cpp).

  `size_t` and the reader's own numbers have 32 bits; the file system's have 64. What the file
  hands over, what the socket takes and when it goes away is up to the environment. The fields
  that `status()` logs elapsed times from are left out.

  * `CopyInv` -- the reader is ahead of the socket by what the copier holds;
  * `copy_inv` -- copying keeps it that way.
-/
import FieldKit.Platform
import FieldKit.Streams
import Mathlib.Tactic.Common

namespace FieldKit

/-! ## 1. The reader -/

/-- `FileReader`; `position` is that of the file beneath. -/
structure FileReader where
  offset : BitVec 32 := 0
  length : BitVec 32 := 0
  position : Nat := 0
  opened : Bool := false
  done : Bool := false
  deriving DecidableEq, Repr

namespace FileReader

/-- `size()`. -/
def size (r : FileReader) : BitVec 32 := r.length + r.offset

/-- `tell()`, a `size_t`. -/
def tell (r : FileReader) : BitVec 32 := BitVec.ofNat 32 r.position

/-- `open(offset, length)` over a file of `fileSize` bytes. A seek stops at the end of the file;
    `seeks` says whether it succeeds. -/
def «open» (offset length : BitVec 32) (fileSize : Nat) (seeks : Bool) (r : FileReader) :
    Bool × FileReader :=
  if seeks then
    let remaining : BitVec 64 := BitVec.ofNat 64 fileSize - offset.setWidth 64
    (true,
      { offset
        length :=
          if length = 0 ∨ remaining < length.setWidth 64 then remaining.setWidth 32 else length
        position := min offset.toNat fileSize
        opened := true
        done := false })
  else (false, { r with offset, length, opened := false, done := true })

/-- `read(ptr, size)`: the file is read until `size` bytes or the end of the range are reached or
    it has nothing more; `available` is how many bytes it hands over at most. -/
def read (content : List Byte) (size available : Nat) (r : FileReader) :
    Option (List Byte) × FileReader :=
  if r.done then (none, r)
  else
    let remaining := min size (r.size - r.tell).toNat
    let bytes := (content.drop r.position).take (min available remaining)
    let position := r.position + bytes.length
    (if bytes = [] then none else some bytes,
      { r with position
               done := decide (bytes.length < remaining) ||
                 decide (BitVec.ofNat 32 position = r.size) })

/-- **A read hands over what the file moves on by**, at most `size` bytes. -/
theorem read_cases (content : List Byte) (size available : Nat) (r : FileReader) :
    (∃ d, r.read content size available = (none, { r with done := d })) ∨
    (∃ bytes d, bytes ≠ [] ∧ bytes.length ≤ size ∧
      bytes = (content.drop r.position).take bytes.length ∧
      r.read content size available =
        (some bytes, { r with position := r.position + bytes.length, done := d })) := by
  unfold read
  split
  · next h => exact Or.inl ⟨true, by rw [← h]⟩
  · dsimp only
    generalize hn : min available (min size (r.size - r.tell).toNat) = n
    rcases eq_or_ne ((content.drop r.position).take n) [] with hb | hb
    · left
      rw [hb]
      exact ⟨_, by rw [if_pos rfl]; rfl⟩
    · right
      refine ⟨_, _, hb, ?_, ?_, by rw [if_neg hb]⟩
      · rw [List.length_take]
        omega
      · rw [List.length_take, ← List.take_eq_take_min]

end FileReader

/-! ## 2. The copy -/

/-- What one turn of the copy loop meets: how much the file hands over, whether the socket is
    connected, and how much it takes. -/
structure Turn where
  available : Nat
  connected : Bool
  accepted : Nat
  deriving DecidableEq, Repr

/-- `WifiWriter::write`, over the bytes the socket has taken so far. -/
def WifiWriter.write (t : Turn) (bytes sent : List Byte) : Option Nat × List Byte :=
  if t.connected then (some (min t.accepted bytes.length), sent ++ bytes.take t.accepted)
  else (none, sent)

/-- The socket takes a prefix. -/
theorem WifiWriter.writes (t : Turn) :
    BufferedStreamCopier.WritesTo (WifiWriter.write t) (id : List Byte → List Byte) id where
  eos bs w w' h := by
    unfold WifiWriter.write at h
    split at h
    · cases h
    · cases h
      rfl
  some bs w w' n h := by
    unfold WifiWriter.write at h
    split at h
    · cases h
      rw [List.map_id, List.take_eq_take_min]
      rfl
    · cases h

/-- `FileCopyOperation`. -/
structure FileCopyOperation where
  streamCopier : BufferedStreamCopier Byte := {}
  copied : BitVec 32 := 0
  total : BitVec 32 := 0
  reader : FileReader := {}
  busy : Bool := false
  deriving DecidableEq, Repr

namespace FileCopyOperation

/-- `FileCopyBufferSize`. -/
def bufferSize : Nat := 256

/-- `isFinished()`. -/
def isFinished (o : FileCopyOperation) : Bool := !o.busy

/-- `tell()`. -/
def tell (o : FileCopyOperation) : BitVec 32 := o.reader.tell

/-- `size()`. -/
def size (o : FileCopyOperation) : BitVec 32 := o.reader.size

/-- `remaining()`. -/
def remaining (o : FileCopyOperation) : BitVec 32 := o.size - o.tell

/-- `prepare(reader, settings)`, for a reader over a file of `fileSize` bytes. -/
def prepare (offset length : BitVec 32) (fileSize : Nat) (seeks : Bool) (o : FileCopyOperation) :
    Bool × FileCopyOperation :=
  match ({} : FileReader).open offset length fileSize seeks with
  | (false, reader) => (false, { o with reader, streamCopier := {} })
  | (true, reader) =>
    (true,
      { reader, streamCopier := {}, copied := 0, busy := true, total := reader.size - reader.tell })

/-- `copy(writer)`: turns until one moves nothing or ends the copy, or the time is up. -/
def copy (content : List Byte) :
    List Turn → FileCopyOperation → List Byte → FileCopyOperation × List Byte
  | [], o, sent => (o, sent)
  | t :: ts, o, sent =>
    match o.streamCopier.copy (FileReader.read content bufferSize t.available)
        (WifiWriter.write t) o.reader sent with
    | (none, streamCopier, reader, sent) => ({ o with streamCopier, reader, busy := false }, sent)
    | (some 0, streamCopier, reader, sent) => ({ o with streamCopier, reader }, sent)
    | (some (n + 1), streamCopier, reader, sent) =>
      copy content ts
        { o with streamCopier, reader, copied := o.copied + BitVec.ofNat 32 (n + 1) } sent

end FileCopyOperation

/-! ## 3. How far the reader is ahead -/

/-- **The reader is ahead of the socket by what the copier holds**: from the byte the copy began
    at, the file has been cut into what was taken and what is held. -/
structure CopyInv (content : List Byte) (start : Nat) (o : FileCopyOperation)
    (sent : List Byte) : Prop where
  bytes : sent ++ o.streamCopier.buffer = (content.drop start).take (o.reader.position - start)
  position : o.reader.position = start + sent.length + o.streamCopier.buffer.length
  held : o.streamCopier.buffer.length ≤ FileCopyOperation.bufferSize

section Copy

variable {content : List Byte} {start : Nat} {o : FileCopyOperation} {sent : List Byte}

/-- The copier, the reader and the socket, as one turn finds and leaves them. -/
def Ahead (content : List Byte) (start : Nat) (c : BufferedStreamCopier Byte) (r : FileReader)
    (sent : List Byte) : Prop :=
  CopyInv content start { streamCopier := c, reader := r } sent

/-- Offering moves bytes from the copier to the socket. -/
theorem offer_ahead {t : Turn} {c c' : BufferedStreamCopier Byte} {r : FileReader}
    {sent' : List Byte} {n : Option Nat} (hi : Ahead content start c r sent)
    (h : c.offer (WifiWriter.write t) sent = (n, c', sent')) : Ahead content start c' r sent' := by
  have hcons : sent' ++ c'.buffer = sent ++ c.buffer := by
    simpa using BufferedStreamCopier.offer_conserves (WifiWriter.writes t) h
  have hlen := congrArg List.length hcons
  rw [List.length_append, List.length_append] at hlen
  have hposition : r.position = start + sent.length + c.buffer.length := hi.position
  refine ⟨hcons.trans hi.bytes, ?_, (BufferedStreamCopier.offer_shrinks h).trans hi.held⟩
  show r.position = start + sent'.length + c'.buffer.length
  omega

/-- **One turn keeps the reader ahead by what the copier holds.** -/
theorem turn_ahead {t : Turn} {c c' : BufferedStreamCopier Byte} {r r' : FileReader}
    {sent' : List Byte} {n : Option Nat} (hi : Ahead content start c r sent)
    (h : c.copy (FileReader.read content FileCopyOperation.bufferSize t.available)
      (WifiWriter.write t) r sent = (n, c', r', sent')) : Ahead content start c' r' sent' := by
  unfold BufferedStreamCopier.copy at h
  cases hb : c.buffer with
  | cons b bs =>
      simp only [hb] at h
      generalize ho : c.offer (WifiWriter.write t) sent = res at h
      obtain ⟨n', c'', sent''⟩ := res
      cases h
      exact offer_ahead hi ho
  | nil =>
      simp only [hb] at h
      rcases FileReader.read_cases content FileCopyOperation.bufferSize t.available r with
        ⟨d, hr⟩ | ⟨bytes, d, hne, hlen, hbytes, hr⟩
      · simp only [hr] at h
        cases h
        exact ⟨hi.bytes, hi.position, hi.held⟩
      · obtain ⟨b, bs, rfl⟩ := List.exists_cons_of_ne_nil hne
        simp only [hr] at h
        generalize ho : BufferedStreamCopier.offer (WifiWriter.write t) ⟨b :: bs⟩ sent = res at h
        obtain ⟨n', c'', sent''⟩ := res
        cases h
        have hsent : sent = (content.drop start).take (r.position - start) := by
          simpa [hb] using hi.bytes
        have hpos : r.position = start + sent.length := by simpa [hb] using hi.position
        refine offer_ahead (c := ⟨b :: bs⟩) ⟨?_, ?_, hlen⟩ ho
        · show sent ++ (b :: bs) =
            (content.drop start).take (r.position + (b :: bs).length - start)
          have hsplit : r.position + (b :: bs).length - start =
              (r.position - start) + (b :: bs).length := by omega
          rw [hsplit, List.take_add, ← hsent, List.drop_drop,
            show start + (r.position - start) = r.position by omega, ← hbytes]
        · show r.position + (b :: bs).length = start + sent.length + (b :: bs).length
          omega

/-- **Copying keeps the reader ahead by what the copier holds.** -/
theorem copy_inv (ts : List Turn) (hi : CopyInv content start o sent) :
    CopyInv content start (o.copy content ts sent).1 (o.copy content ts sent).2 := by
  induction ts generalizing o sent with
  | nil => exact hi
  | cons t ts ih =>
      unfold FileCopyOperation.copy
      have hc : Ahead content start o.streamCopier o.reader sent := ⟨hi.bytes, hi.position, hi.held⟩
      split
      · next h =>
          have ha := turn_ahead hc h
          exact ⟨ha.bytes, ha.position, ha.held⟩
      · next h =>
          have ha := turn_ahead hc h
          exact ⟨ha.bytes, ha.position, ha.held⟩
      · next h =>
          have ha := turn_ahead hc h
          exact ih ⟨ha.bytes, ha.position, ha.held⟩

end Copy

end FieldKit

/-
  File:      FieldKit/Files/FileSystem.lean
  Subject:   The files on the card (file_system.cpp) and the upload cursors that are kept in one of
             them (file_cursors.cpp).

  A phylum file is an append-only byte sequence that an erase empties. The cursors of all files
  are one record, appended to the system file each time one of them changes; the last record
  counts. The write takes as much of the record as it likes, and the bytes of the record that
  nobody sets are whatever memory held.

  * `lookup_append_record` -- the record appended last is the one that is looked up;
  * `position_save` -- what a save changes whose write takes the record whole or not at all.
-/
import FieldKit.Lib.LittleEndian
import FieldKit.Lib.Slots
import FieldKit.Platform

namespace FieldKit

open Lib

/-! ## 1. The files -/

/-- `FileNumber`, in the order of `descriptors_`. -/
inductive FileNumber where
  | System
  | EmergencyLog
  | LogsA
  | LogsB
  | Data
  deriving DecidableEq, Repr

/-- The value of the enumerator. -/
def FileNumber.toNat : FileNumber → Nat
  | .System => 0
  | .EmergencyLog => 1
  | .LogsA => 2
  | .LogsB => 3
  | .Data => 4

/-- The two log files, of which one is written. -/
inductive LogFile where
  | LogsA
  | LogsB
  deriving DecidableEq, Repr

namespace LogFile

/-- `Files::logFileNumber`. -/
def number : LogFile → FileNumber
  | .LogsA => .LogsA
  | .LogsB => .LogsB

/-- The log file that is not written. -/
def other : LogFile → LogFile
  | .LogsA => .LogsB
  | .LogsB => .LogsA

theorem number_ne_system (l : LogFile) : l.number ≠ .System := by cases l <;> decide

end LogFile

/-- The card: what the files hold, and which of the two log files is written. -/
structure Disk where
  content : FileNumber → List Byte := fun _ => []
  log : LogFile := .LogsA

namespace Disk

/-- A successful `write` at the end of a file. -/
def append (f : FileNumber) (bytes : List Byte) (d : Disk) : Disk :=
  { d with content := Function.update d.content f (d.content f ++ bytes) }

/-- The files that `gone` says are erased. -/
def erase (gone : FileNumber → Bool) (d : Disk) : Disk :=
  { d with content := fun f => if gone f then [] else d.content f }

end Disk

/-! ## 2. The cursors -/

/-- `FileCursor`, without its reserved bytes. -/
structure FileCursor where
  time : BitVec 32 := 0
  position : BitVec 64 := 0
  deriving DecidableEq, Repr

/-- `FileCursors`. -/
abbrev FileCursors := FileNumber → FileCursor

/-- What memory holds in the bytes of a cursor that nobody sets: four between the time and the
    position, and `reserved` with the two bytes behind it. -/
structure Slack where
  gap : BitVec 32 := 0
  reserved : BitVec 576 := 0
  deriving DecidableEq, Repr

namespace FileCursors

/-- `sizeof(FileCursor)`. -/
def slotSize : Nat := 88

/-- `sizeof(FileCursors)`. -/
def size : Nat := 440

/-- A `FileCursor` as it lies in memory. -/
def cursorBytes (c : FileCursor) (k : Slack) : List Byte :=
  toLE 4 c.time.toNat ++ toLE 4 k.gap.toNat ++ toLE 8 c.position.toNat ++
    toLE 72 k.reserved.toNat

/-- One cursor from its bytes: the time at 0, the position at 8; the rest is not read. -/
def decodeOne (bytes : List Byte) : FileCursor where
  time := BitVec.ofNat 32 (ofLE (bytes.take 4))
  position := BitVec.ofNat 64 (ofLE ((bytes.drop 8).take 8))

/-- `cursors[number]` of a record. -/
def decode (bytes : List Byte) : FileCursors := fun f => decodeOne (bytes.drop (88 * f.toNat))

/-- `cursors = { }`: the constructor sets the time and the position only. -/
def blankRecord (k : FileNumber → Slack) : List Byte :=
  cursorBytes {} (k .System) ++ (cursorBytes {} (k .EmergencyLog) ++ (cursorBytes {} (k .LogsA) ++
    (cursorBytes {} (k .LogsB) ++ cursorBytes {} (k .Data))))

@[simp] theorem length_cursorBytes (c : FileCursor) (k : Slack) :
    (cursorBytes c k).length = slotSize := by
  simp [cursorBytes, slotSize]

@[simp] theorem length_blankRecord (k : FileNumber → Slack) : (blankRecord k).length = size := by
  simp [blankRecord, slotSize, size]

/-- The cursor is read back, whatever lies in the bytes that are not read. -/
theorem decodeOne_cursorBytes (c : FileCursor) (k : Slack) (rest : List Byte) :
    decodeOne (cursorBytes c k ++ rest) = c := by
  have htime : (cursorBytes c k ++ rest).take 4 = toLE 4 c.time.toNat := by
    simp [cursorBytes]
  have hpos : ((cursorBytes c k ++ rest).drop 8).take 8 = toLE 8 c.position.toNat := by
    simp [cursorBytes, List.drop_append, List.take_append]
  unfold decodeOne
  rw [htime, hpos, ofLE_toLE_word 4 rfl, ofLE_toLE_word 8 rfl]

/-- A cursor is read from its slot alone. -/
theorem decode_slot (bytes : List Byte) (f : FileNumber) :
    decode bytes f = decodeOne (slot slotSize f.toNat bytes) := by
  unfold decode decodeOne slot slotSize
  rw [List.take_take, List.drop_take, List.take_take]
  rfl

/-- Every slot lies inside the record. -/
theorem slot_inside (f : FileNumber) : slotSize * f.toNat + slotSize ≤ size := by
  cases f <;> decide

/-- The slots of two files are two. -/
theorem toNat_inj (f g : FileNumber) : f.toNat = g.toNat ↔ f = g := by
  cases f <;> cases g <;> decide

theorem decode_blankRecord (k : FileNumber → Slack) : decode (blankRecord k) = fun _ => {} := by
  have hlast (c : FileCursor) (k : Slack) : decodeOne (cursorBytes c k) = c := by
    simpa using decodeOne_cursorBytes c k []
  funext f
  cases f <;>
    simp [decode, blankRecord, FileNumber.toNat, slotSize, List.drop_append,
      List.drop_eq_nil_of_le, decodeOne_cursorBytes, hlast]

end FileCursors

/-! ## 3. Looking up and saving -/

namespace FileCursorManager

open FileCursors

/-- The cursors that `lookup(cursors)` finds in what the system file holds. -/
def lookup (system : List Byte) : FileCursors :=
  if system.length < size then fun _ => {} else decode (system.drop (system.length - size))

/-- `lookup(file)`. -/
def position (f : FileNumber) (d : Disk) : BitVec 64 := (lookup (d.content .System) f).position

/-- What `lookup(cursors)` leaves in its argument if it returns true. -/
def lookupRecord (k : FileNumber → Slack) (system : List Byte) : List Byte :=
  if system.length < size then blankRecord k else system.drop (system.length - size)

/-- `lookup(cursors)` returns true: there is nothing to read, or it is read. -/
def found (readable : Bool) (system : List Byte) : Bool :=
  decide (system.length < size) || readable

end FileCursorManager

/-- What a call of `save` meets: the clock, whether the last record can be read, how many bytes of
    the new one the write takes, and what memory holds. -/
structure Saving where
  now : BitVec 32 := 0
  readable : Bool := true
  accepted : Nat := FileCursors.size
  slack : Slack := {}
  blank : FileNumber → Slack := fun _ => {}

namespace Saving

open FileCursors FileCursorManager

/-- `cursors[file] = { clock.getTime(), position }`, in the record that was looked up. -/
def record (o : Saving) (f : FileNumber) (position : BitVec 64) (system : List Byte) : List Byte :=
  setSlot slotSize f.toNat (cursorBytes { time := o.now, position } o.slack)
    (lookupRecord o.blank system)

/-- `save` returns true: a byte at least has been written. -/
def returns (o : Saving) (system : List Byte) : Bool :=
  found o.readable system && decide (0 < o.accepted)

/-- The write, if there is one, takes the record whole or not at all. -/
def Whole (o : Saving) (system : List Byte) : Prop :=
  found o.readable system = true → o.accepted = 0 ∨ size ≤ o.accepted

instance (o : Saving) (system : List Byte) : Decidable (o.Whole system) :=
  inferInstanceAs (Decidable (_ → _))

end Saving

namespace FileCursorManager

open FileCursors

/-- `save(file, position)`: what it returns, and what the system file holds afterwards. The number
    of bytes that `write` returns becomes a `bool`. -/
def saveTo (f : FileNumber) (position : BitVec 64) (o : Saving) (system : List Byte) :
    Bool × List Byte :=
  if found o.readable system then
    let written := (o.record f position system).take o.accepted
    (decide (0 < written.length), system ++ written)
  else (false, system)

/-- `save(file, position)`, on the card. -/
def save (f : FileNumber) (position : BitVec 64) (o : Saving) (d : Disk) : Bool × Disk :=
  let result := saveTo f position o (d.content .System)
  (result.1, { d with content := Function.update d.content .System result.2 })

section Save

variable (f g : FileNumber) (p : BitVec 64) (o : Saving) (system : List Byte) (d : Disk)

@[simp] theorem length_lookupRecord (k : FileNumber → Slack) :
    (lookupRecord k system).length = size := by
  unfold lookupRecord
  split
  · exact length_blankRecord k
  · next h =>
      rw [List.length_drop]
      omega

/-- **What `lookup(cursors)` finds.** -/
theorem decode_lookupRecord (k : FileNumber → Slack) :
    decode (lookupRecord k system) = lookup system := by
  unfold lookupRecord lookup
  split
  · exact decode_blankRecord k
  · rfl

@[simp] theorem length_record : (o.record f p system).length = size := by
  unfold Saving.record
  rw [length_setSlot (length_cursorBytes _ _), length_lookupRecord]
  rw [length_lookupRecord]
  exact slot_inside f

/-- **The record that is written** has the new cursor, and those that were looked up. -/
theorem decode_record : decode (o.record f p system) =
    Function.update (lookup system) f { time := o.now, position := p } := by
  have hinside : slotSize * f.toNat + slotSize ≤ (lookupRecord o.blank system).length := by
    rw [length_lookupRecord]
    exact slot_inside f
  funext g
  rw [decode_slot, Saving.record, slot_setSlot (length_cursorBytes _ _) hinside,
    ← decode_lookupRecord system o.blank]
  by_cases hg : g = f
  · rw [if_pos ((toNat_inj g f).mpr hg), hg, Function.update_self]
    simpa using decodeOne_cursorBytes { time := o.now, position := p } o.slack []
  · rw [if_neg (mt (toNat_inj g f).mp hg), Function.update_of_ne hg, decode_slot]

/-- **A record at the end of the file is the one that is looked up.** -/
theorem lookup_append_record (bytes : List Byte) (h : bytes.length = size) :
    lookup (system ++ bytes) = decode bytes := by
  unfold lookup
  rw [if_neg (by simp [h]), List.length_append, h, Nat.add_sub_cancel, List.drop_left]

/-- What a save returns. -/
theorem saveTo_fst : (saveTo f p o system).1 = o.returns system := by
  unfold saveTo Saving.returns
  split
  · next hfound =>
      simp only [hfound, Bool.true_and, List.length_take, length_record]
      exact decide_eq_decide.mpr (by rw [lt_min_iff]; exact and_iff_left (by decide))
  · next hfound =>
      rw [Bool.not_eq_true] at hfound
      rw [hfound]
      rfl

/-- **A save whose write is whole or nothing**: if it returns true its cursor is the new one, and
    otherwise all are as they were. -/
theorem lookup_saveTo (hw : o.Whole system) : lookup (saveTo f p o system).2 =
    if o.returns system = true
    then Function.update (lookup system) f { time := o.now, position := p }
    else lookup system := by
  unfold saveTo Saving.returns
  split
  · next hfound =>
      rw [hfound]
      rcases hw hfound with hnone | hall
      · simp [hnone]
      · have htake : (o.record f p system).take o.accepted = o.record f p system :=
          List.take_of_length_le (by rw [length_record]; exact hall)
        have hpos : 0 < o.accepted := Nat.lt_of_lt_of_le (by decide) hall
        rw [htake, decide_eq_true hpos, Bool.and_self, if_pos rfl,
          lookup_append_record _ _ (length_record f p o system), decode_record]
  · next hfound =>
      rw [Bool.not_eq_true] at hfound
      rw [hfound]
      rfl

theorem content_save_system :
    (save f p o d).2.content .System = (saveTo f p o (d.content .System)).2 := by
  unfold save
  simp only [Function.update_self]

/-- **What a save changes** whose write is whole or nothing: the position of its own file. -/
theorem position_save (hw : o.Whole (d.content .System)) : position g (save f p o d).2 =
    if o.returns (d.content .System) = true ∧ g = f then p else position g d := by
  have hlookup := congrFun (lookup_saveTo f p o (d.content .System) hw) g
  unfold position
  rw [content_save_system, hlookup]
  rcases eq_or_ne g f with rfl | hne
  · by_cases hsaved : o.returns (d.content .System) = true
    · rw [if_pos hsaved, if_pos ⟨hsaved, rfl⟩, Function.update_self]
    · rw [if_neg hsaved, if_neg (mt And.left hsaved)]
  · rw [if_neg (mt And.right hne)]
    split
    · rw [Function.update_of_ne hne]
    · rfl

/-- The other files are left alone. -/
theorem content_save {g : FileNumber} (hg : g ≠ .System) :
    (save f p o d).2.content g = d.content g :=
  Function.update_of_ne hg _ _

/-- The system file is only appended to. -/
theorem content_save_append : ∃ written,
    (save f p o d).2.content .System = d.content .System ++ written := by
  rw [content_save_system]
  unfold saveTo
  split
  · exact ⟨_, rfl⟩
  · exact ⟨[], (List.append_nil _).symm⟩

end Save

end FileCursorManager

/-! ## 4. Opening and erasing -/

/-- What `open_file_or_truncate` meets: the file opens; it does not, is erased, and opens then or
    not; or it cannot even be erased. -/
inductive OpenOutcome where
  | opened
  | truncated (reopened : Bool)
  | failed
  deriving DecidableEq, Repr

namespace OpenOutcome

/-- The file was erased. -/
def erased : OpenOutcome → Bool
  | .truncated _ => true
  | _ => false

/-- The file is open. -/
def isOpen : OpenOutcome → Bool
  | .opened => true
  | .truncated reopened => reopened
  | .failed => false

end OpenOutcome

/-- What `openSystemFiles` meets for its three files, and whether the first log file is in its
    final block. -/
structure Opening where
  logsA : OpenOutcome := .opened
  logsB : OpenOutcome := .opened
  data : OpenOutcome := .opened
  finalBlockA : Bool := false
  deriving DecidableEq, Repr

namespace Opening

/-- The files `openSystemFiles` erases: it stops at the first one it cannot open. -/
def truncates (o : Opening) : FileNumber → Bool
  | .LogsA => o.logsA.erased
  | .LogsB => o.logsA.isOpen && o.logsB.erased
  | .Data => o.logsA.isOpen && o.logsB.isOpen && o.data.erased
  | _ => false

/-- All three files are open. -/
def succeeds (o : Opening) : Bool := o.logsA.isOpen && o.logsB.isOpen && o.data.isOpen

end Opening

namespace FileSystem

/-- `openSystemFiles()`. -/
def openSystemFiles (o : Opening) (d : Disk) : Bool × Disk :=
  let d := d.erase o.truncates
  (o.succeeds,
    if o.succeeds then { d with log := if o.finalBlockA then .LogsB else .LogsA } else d)

/-- `eraseAll()`: `erased` says which of the erases succeed. -/
def eraseAll (erased : FileNumber → Bool) (o : Opening) (d : Disk) : Bool × Disk :=
  let (opened, d) := openSystemFiles o (d.erase erased)
  (opened && erased .System && erased .EmergencyLog && erased .LogsA && erased .LogsB &&
    erased .Data, d)

/-- `erase(number)`: `erased` says whether the erase succeeds. -/
def erase (number : FileNumber) (erased : Bool) (o : Opening) (d : Disk) : Bool × Disk :=
  let (opened, d) := openSystemFiles o (d.erase fun f => erased && decide (f = number))
  (opened && erased, d)

end FileSystem

/-- What `Files::swapLogsIfNecessary` meets. -/
structure Swap where
  finalBlock : Bool
  erased : Bool
  opened : Bool
  deriving DecidableEq, Repr

namespace Files

/-- `swapLogsIfNecessary()`. -/
def swapLogsIfNecessary (w : Swap) (d : Disk) : Disk :=
  if w.finalBlock ∧ w.erased then
    let d' := d.erase fun f => decide (f = d.log.other.number)
    if w.opened then { d' with log := d.log.other } else d'
  else d

end Files

end FieldKit

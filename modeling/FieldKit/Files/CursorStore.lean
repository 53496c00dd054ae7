/-
  File:      FieldKit/Files/CursorStore.lean
  Subject:   The cursors as a map that lies in a growing file (file_cursors.cpp), to the byte.

  Saves of any files follow one upon the other, on the system file alone. The number of bytes a
  write took becomes a `bool`, so that a short one is reported as a success and leaves the end of
  the file between two records.

  * `saves_counted` -- in a run of saves whose writes are whole or nothing every file has the
    position of its last save that returned true, and no save changes the cursor of another file;
  * `short_write_counts` -- a write that takes a part of the record moves all cursors by one file.
-/
import FieldKit.Lib.Run
import FieldKit.Files.FileSystem

namespace FieldKit.CursorStore

open Lib FileCursors

/-! ## 1. A save -/

/-- A call of `save(file, position)`, with what it meets. -/
structure Save extends Saving where
  file : FileNumber
  position : BitVec 64

namespace Save

/-- The cursor that is set. -/
def cursor (w : Save) : FileCursor where
  time := w.now
  position := w.position

/-- `save(file, position)`: what it returns and what the system file holds afterwards. -/
def run (w : Save) (system : List Byte) : Bool × List Byte :=
  FileCursorManager.saveTo w.file w.position w.toSaving system

/-- The write, if there is one, takes the record whole or not at all. -/
def Whole (system : List Byte) (w : Save) : Prop := w.toSaving.Whole system

instance (system : List Byte) (w : Save) : Decidable (Whole system w) :=
  inferInstanceAs (Decidable (w.toSaving.Whole system))

end Save

/-- **A save whose write is whole or nothing**: if it returns true its cursor is the new one, and
    otherwise all are as they were. -/
theorem lookup_save (w : Save) (system : List Byte) (hw : w.Whole system) :
    FileCursorManager.lookup (w.run system).2 =
      if (w.run system).1 = true
      then Function.update (FileCursorManager.lookup system) w.file w.cursor
      else FileCursorManager.lookup system := by
  have hlookup := FileCursorManager.lookup_saveTo w.file w.position w.toSaving system hw
  rw [← FileCursorManager.saveTo_fst w.file w.position] at hlookup
  exact hlookup

/-! ## 2. Runs of saves -/

/-- The system file, and for every file the position of its last save that returned true. -/
structure Store where
  system : List Byte := []
  last : FileNumber → BitVec 64 := fun _ => 0

/-- One save. -/
def step (s : Store) (w : Save) : Option Store :=
  some {
    system := (w.run s.system).2
    last := if (w.run s.system).1 then Function.update s.last w.file w.position else s.last }

/-- **`lookup(f)` is the position of the last save that returned true.** -/
def LastCounts (s : Store) : Prop :=
  ∀ f, (FileCursorManager.lookup s.system f).position = s.last f

/-- **A save does not change the cursor of another file.** -/
def Frames (s : Store) (w : Save) : Prop :=
  ∀ f, f ≠ w.file → FileCursorManager.lookup (w.run s.system).2 f =
    FileCursorManager.lookup s.system f

/-- Writes that are whole or nothing keep other files' cursors. -/
theorem frames_of_whole {s : Store} {w : Save} (hw : w.Whole s.system) : Frames s w := by
  intro f hne
  rw [lookup_save w s.system hw]
  split
  · exact Function.update_of_ne hne _ _
  · rfl

/-- One save whose write is whole or nothing. -/
theorem step_lastCounts {s s' : Store} {w : Save} (hi : LastCounts s) (hw : w.Whole s.system)
    (h : step s w = some s') : LastCounts s' := by
  cases h
  intro f
  show (FileCursorManager.lookup (w.run s.system).2 f).position =
    (if (w.run s.system).1 = true then Function.update s.last w.file w.position else s.last) f
  rw [lookup_save w s.system hw]
  split
  · by_cases hf : f = w.file
    · rw [hf, Function.update_self, Function.update_self]
      rfl
    · rw [Function.update_of_ne hf, Function.update_of_ne hf]
      exact hi f
  · exact hi f

/-- **In a run whose writes are whole or nothing the last save counts**, in every state, and no
    save changes another file's cursor. -/
theorem saves_counted {tr : List (Store × Save)} {s : Store} (h : Run step {} tr s)
    (hw : Meets (fun s w => w.Whole s.system) tr) :
    Meets (fun s w => LastCounts s ∧ Frames s w) tr ∧ LastCounts s := by
  have hstart : LastCounts {} := fun f => by
    simp [FileCursorManager.lookup, size]
  have hall {tr : List (Store × Save)} {s : Store} (h : Run step {} tr s)
      (hw : Meets (fun s w => w.Whole s.system) tr) : LastCounts s :=
    h.inv_meets _ LastCounts hstart (fun s w s' hi hw hs => step_lastCounts hi hw hs) hw
  refine ⟨fun p hp => ?_, hall h hw⟩
  obtain ⟨tr', hr, hpre⟩ := h.before hp
  exact ⟨hall hr fun q hq => hw q (hpre.subset hq), frames_of_whole (hw p hp)⟩

/-- Two saves, of whose second record the write takes one cursor. -/
def shortSecond : List Save :=
  [{ file := .Data, position := 100 }, { file := .LogsA, position := 7, accepted := slotSize }]

/-- The position of the first is then found under another file. -/
theorem short_write_counts : ¬ ∀ (tr : List (Store × Save)) (s : Store), Run step {} tr s →
    Meets (fun s w => LastCounts s ∧ Frames s w) tr ∧ LastCounts s := by
  intro hall
  have hexec : (exec step {} shortSecond).map (fun s =>
      ((FileCursorManager.lookup s.system .Data).position, s.last .Data)) = some (0, 100) := by
    decide +kernel
  obtain ⟨tr, s, hrun, hs⟩ := run_of_exec_map hexec
  rw [Prod.mk.injEq] at hs
  have hdata := (hall tr s hrun).2 .Data
  rw [hs.1, hs.2] at hdata
  exact absurd hdata (by decide)

/-- Two saves whose records are written whole. -/
theorem saves_counted_whole : ∃ tr s, Run step {} tr s ∧ s.last .LogsA = 7 ∧
    Meets (fun s w => LastCounts s ∧ Frames s w) tr ∧ LastCounts s := by
  have hexec : (exec (guarded (fun s w => w.Whole s.system) step) {}
      [{ file := .Data, position := 100 }, { file := .LogsA, position := 7 }]).map
      (fun s => s.last .LogsA) = some 7 := by decide +kernel
  obtain ⟨tr, s, hrun, hs⟩ := run_of_exec_map hexec
  obtain ⟨hrun, hw⟩ := hrun.of_guarded
  exact ⟨tr, s, hrun, hs, saves_counted hrun hw⟩

end FieldKit.CursorStore

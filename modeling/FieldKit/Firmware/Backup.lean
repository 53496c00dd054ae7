/-
  File:      FieldKit/Firmware/Backup.lean
  Subject:   `FirmwareStorage::backup` (firmware_storage.cpp): is the backup the program that runs?

  The program lies in the NVM from `FIRMWARE_NVM_PROGRAM_ADDRESS` on. How many bytes a write to the
  file accepts, and where the allocator puts the file, is the environment's.

  * `copy_eq` -- what the copying loop writes: every piece from the beginning of the program;
  * `backup_iff` -- a backup that reports success is the program exactly if the pieces add up to its
    size and each of them lies where the program begins once more, or if there was a backup before
    and they do not add up;
  * `backup_repeats` -- a program whose second kilobyte is not its first.
-/
import FieldKit.Firmware.Storage
import FieldKit.Lib.LittleEndian

namespace FieldKit.Backup

open Lib FirmwareStorage

/-! ## 1. The operation -/

/-- The bytes of the NVM, from `FIRMWARE_NVM_PROGRAM_ADDRESS` on. -/
abbrev Program := Nat → Byte

/-- The bytes from an offset on. -/
def Program.slice (program : Program) (offset size : Nat) : List Byte :=
  (List.range size).map fun j => program (offset + j)

/-- `header.size`. -/
def programSize : Nat := 256 * 1024 - 2048

/-- What one call of `write` in the loop is given. -/
def pieceSize : Nat := 1024

/-- The header of the backup: version, time, size and the first byte of the etag are set. -/
def newHeader (time : BitVec 32) (old : List Byte) : List Byte :=
  toLE 4 1 ++ (toLE 4 time.toNat ++ (toLE 4 programSize ++
    ((old.drop 12).take 64 ++ (0 :: old.drop 77))))

/-- What the environment decides: the clock, how much of the header and of every piece the file
    accepts (and nothing any more in the end), where the file is put, and whether the state is
    saved. -/
structure Media where
  time : BitVec 32
  headerAccepted : Nat
  accepted : List Nat
  beginning : BlockAddress
  valid : beginning.valid = true
  blocks : Nat
  formatted : 0 < blocks
  saved : Bool

/-- The loop: `ptr` is never moved on. -/
def copy (program : Program) : List Nat → Nat → List Byte → Nat × List Byte
  | [], bytes, file => (bytes, file)
  | a :: as, bytes, file =>
    if bytes < programSize then
      let written := min a pieceSize
      if written = 0 then (bytes, file)
      else copy program as (bytes + written) (file ++ (program.slice 0 pieceSize).take written)
    else (bytes, file)

/-- The flash with the file that was written. -/
def withFile (e : Media) (file : List Byte) (fl : Flash) : Flash :=
  { fl with table := fl.table.put e.beginning e.valid ⟨file, e.blocks, e.formatted⟩ }

/-- `backup()`: what it returns, and the flash it leaves. The allocator puts a file where there is
    none. -/
def backup (e : Media) (program : Program) (fl : Flash) : Option (Bool × Flash) :=
  if fl.table.exist e.beginning then none
  else
    let header := (newHeader e.time (header .Backup fl).2).take e.headerAccepted
    if header.length ≠ headerSize then some (false, withFile e header fl)
    else
      let (bytes, file) := copy program e.accepted 0 header
      let fl := withFile e file fl
      if bytes = programSize then
        let (updated, fl) := FirmwareStorage.update .Backup e.beginning e.saved fl
        if updated then some (true, fl) else some (false, fl)
      else some (true, fl)

/-! ## 2. What a backup should be -/

/-- **A header of version 1 and the size of the program, and then the program.** -/
def IsBackup (program : Program) (content : List Byte) : Prop :=
  ∃ header, content = header ++ program.slice 0 programSize ∧ header.length = headerSize ∧
    header.take 4 = toLE 4 1 ∧ (header.drop 8).take 4 = toLE 4 programSize

/-- The backup bank, as it is in memory, designates such a file; the bank on the flash does so only
    once the flash state is saved. -/
def BackedUp (program : Program) (fl : Flash) : Prop :=
  ∃ f, fl.table.files (fl.state.banks .Backup) = some f ∧ IsBackup program f.content

/-- The sizes of the pieces that the file accepts, from `bytes` on: what the environment decides,
    cut where the loop has enough or a write accepts nothing. -/
def pieces : List Nat → Nat → List Nat
  | [], _ => []
  | a :: as, bytes =>
    if bytes < programSize ∧ min a pieceSize ≠ 0 then
      min a pieceSize :: pieces as (bytes + min a pieceSize)
    else []

/-- Wherever a piece begins, the program begins once more, for as long as the piece is. -/
def Repeats (program : Program) : Nat → List Nat → Prop
  | _, [] => True
  | offset, n :: ns => (∀ j < n, program (offset + j) = program j) ∧ Repeats program (offset + n) ns

/-- **When a backup is right**, if its header is written: its pieces add up, the program repeats
    itself at each of them, and the bank did not already hold the address of the new file; or they
    do not add up, and the bank keeps a backup. -/
def Right (e : Media) (program : Program) (fl : Flash) : Prop :=
  headerSize ≤ e.headerAccepted →
    if (pieces e.accepted 0).sum = programSize then
      Repeats program 0 (pieces e.accepted 0) ∧ fl.state.banks .Backup ≠ e.beginning
    else BackedUp program fl

/-! ## 3. The loop -/

section Loop

variable {program : Program}

@[simp] theorem slice_length (offset size : Nat) : (program.slice offset size).length = size := by
  simp [Program.slice]

theorem slice_take {n size : Nat} (h : n ≤ size) (offset : Nat) :
    (program.slice offset size).take n = program.slice offset n := by
  unfold Program.slice
  rw [← List.map_take, List.take_range, Nat.min_eq_left h]

/-- A stretch of the program in two parts. -/
theorem slice_add (offset n m : Nat) :
    program.slice offset (n + m) = program.slice offset n ++ program.slice (offset + n) m := by
  unfold Program.slice
  rw [List.range_add, List.map_append, List.map_map]
  congr 1
  refine List.map_congr_left fun j _ => ?_
  rw [Function.comp_apply, Nat.add_assoc]

theorem slice_eq_iff (o o' n : Nat) :
    program.slice o n = program.slice o' n ↔ ∀ j < n, program (o + j) = program (o' + j) := by
  unfold Program.slice
  rw [List.map_inj_left]
  exact ⟨fun h j hj => h j (List.mem_range.mpr hj), fun h j hj => h j (List.mem_range.mp hj)⟩

/-- **What the loop writes**: every piece is taken from the beginning of the program. -/
theorem copy_eq (accepted : List Nat) (bytes : Nat) (file : List Byte) :
    copy program accepted bytes file =
      (bytes + (pieces accepted bytes).sum,
        file ++ (pieces accepted bytes).flatMap fun n => program.slice 0 n) := by
  induction accepted generalizing bytes file with
  | nil => simp [copy, pieces]
  | cons a as ih =>
      unfold copy pieces
      by_cases hmore : bytes < programSize
      · rw [if_pos hmore]
        by_cases hzero : min a pieceSize = 0
        · rw [if_pos hzero, if_neg fun h => h.2 hzero]
          simp
        · rw [if_neg hzero, if_pos ⟨hmore, hzero⟩, ih, slice_take (Nat.min_le_right _ _),
            List.sum_cons, List.flatMap_cons, Nat.add_assoc, List.append_assoc]
      · rw [if_neg hmore, if_neg fun h => hmore h.1]
        simp

/-- **The pieces make up the program exactly if it repeats itself at each of them.** -/
theorem repeats_iff (offset : Nat) (ns : List Nat) :
    ((ns.flatMap fun n => program.slice 0 n) = program.slice offset ns.sum) ↔
      Repeats program offset ns := by
  induction ns generalizing offset with
  | nil => exact ⟨fun _ => trivial, fun _ => rfl⟩
  | cons n ns ih =>
      rw [List.flatMap_cons, List.sum_cons, slice_add, Repeats, ← ih]
      have hlength : (program.slice 0 n).length = (program.slice offset n).length := by simp
      have hhead : program.slice 0 n = program.slice offset n ↔
          ∀ j < n, program (offset + j) = program j := by
        rw [eq_comm, slice_eq_iff]
        simp only [Nat.zero_add]
      rw [← hhead]
      constructor
      · exact fun h => List.append_inj h hlength
      · intro h
        obtain ⟨hfirst, hrest⟩ := h
        rw [hfirst, hrest]

end Loop

/-! ## 4. The backup -/

section Backup

variable {e : Media} {program : Program} {fl : Flash}

theorem header_length (bank : FirmwareBank) (fl : Flash) :
    (header bank fl).2.length = headerSize := by
  unfold header
  cases fl.table.files (fl.state.banks bank) with
  | none => simp
  | some f =>
      have htake := List.length_take_le headerSize f.content
      dsimp only
      rw [List.length_append, List.length_replicate]
      omega

theorem newHeader_length (time : BitVec 32) {old : List Byte} (h : old.length = headerSize) :
    (newHeader time old).length = headerSize := by
  unfold newHeader
  simp only [List.length_append, List.length_cons, List.length_take, List.length_drop,
    length_toLE, h]
  rfl

/-- A file that begins with the header of a backup. -/
theorem isBackup_iff (time : BitVec 32) {old rest : List Byte} (h : old.length = headerSize) :
    IsBackup program (newHeader time old ++ rest) ↔ rest = program.slice 0 programSize := by
  have hlength := newHeader_length time h
  constructor
  · intro h
    obtain ⟨header, hcontent, hheader, _, _⟩ := h
    exact (List.append_inj hcontent (hlength.trans hheader.symm)).2
  · intro hrest
    refine ⟨newHeader time old, congrArg _ hrest, hlength, ?_, ?_⟩
    · exact List.take_left' (length_toLE 4 1)
    · have hdrop : (newHeader time old).drop 8 = toLE 4 programSize ++
          ((old.drop 12).take 64 ++ (0 :: old.drop 77)) := by
        unfold newHeader
        rw [← List.append_assoc]
        exact List.drop_left' (by simp)
      rw [hdrop]
      exact List.take_left' (length_toLE 4 programSize)

/-- A new file is not in the way of another bank. -/
theorem backedUp_withFile (hfree : fl.table.exist e.beginning = false) (file : List Byte) :
    BackedUp program (withFile e file fl) ↔
      BackedUp program fl ∨
        (fl.state.banks .Backup = e.beginning ∧ IsBackup program file) := by
  unfold BackedUp withFile
  dsimp only
  rw [FileTable.files_put]
  rcases eq_or_ne (fl.state.banks .Backup) e.beginning with hsame | hne
  · rw [hsame, Function.update_self]
    have hmissing : fl.table.files e.beginning = none := by
      simpa [FileTable.exist] using hfree
    simp [hmissing]
  · rw [Function.update_of_ne hne]
    simp [hne]

/-- **The bank after a backup that went through**: it designates the new file, unless the address
    was its own, and the file was erased again. -/
theorem backedUp_update (file : List Byte) :
    BackedUp program (FirmwareStorage.update .Backup e.beginning e.saved (withFile e file fl)).2 ↔
      fl.state.banks .Backup ≠ e.beginning ∧ IsBackup program file := by
  rw [update_flash]
  unfold BackedUp FirmwareStorage.setBank withFile
  dsimp only
  rw [Function.update_self, FileTable.files_erase, FileTable.files_put]
  rcases eq_or_ne (fl.state.banks .Backup) e.beginning with hsame | hne
  · rw [hsame, Function.update_self]
    simp
  · rw [Function.update_of_ne hne.symm, Function.update_self]
    simp [hne]

/-- The file of a backup whose header is written. -/
def backupFile (e : Media) (program : Program) (fl : Flash) : List Byte :=
  newHeader e.time (header .Backup fl).2 ++
    (pieces e.accepted 0).flatMap fun n => program.slice 0 n

/-- **What a backup comes to**: nothing but a header that is not written is reported. -/
theorem backup_eq (hfree : fl.table.exist e.beginning = false) :
    backup e program fl = some
      (if e.headerAccepted < headerSize then
        (false, withFile e ((newHeader e.time (header .Backup fl).2).take e.headerAccepted) fl)
      else (true,
        if (pieces e.accepted 0).sum = programSize then
          (FirmwareStorage.update .Backup e.beginning e.saved
            (withFile e (backupFile e program fl) fl)).2
        else withFile e (backupFile e program fl) fl)) := by
  have hlength := newHeader_length e.time (header_length .Backup fl)
  unfold backup
  rw [hfree]
  dsimp only
  rw [List.length_take, hlength]
  by_cases hheader : e.headerAccepted < headerSize
  · rw [if_pos hheader, if_neg Bool.false_ne_true, if_pos (by omega)]
  · rw [if_neg hheader, if_neg Bool.false_ne_true, if_neg (by omega),
      List.take_of_length_le (by omega), copy_eq, Nat.zero_add]
    unfold FirmwareStorage.update
    dsimp only
    by_cases hsum : (pieces e.accepted 0).sum = programSize
    · rw [if_pos hsum, if_pos hsum, if_pos rfl]
      rfl
    · rw [if_neg hsum, if_neg hsum]
      rfl

/-- Pieces that add up make up the program where it repeats itself. -/
theorem isBackup_file (hsum : (pieces e.accepted 0).sum = programSize) :
    IsBackup program (backupFile e program fl) ↔ Repeats program 0 (pieces e.accepted 0) := by
  unfold backupFile
  rw [isBackup_iff e.time (header_length .Backup fl), ← repeats_iff, hsum]

/-- Pieces that do not add up make up nothing. -/
theorem not_isBackup_file (hsum : (pieces e.accepted 0).sum ≠ programSize) :
    ¬ IsBackup program (backupFile e program fl) := by
  unfold backupFile
  rw [isBackup_iff e.time (header_length .Backup fl)]
  intro hsame
  have hlengths := congrArg List.length hsame
  exact hsum (by simpa [List.length_flatMap] using hlengths)

/-- **A backup that reports success is the program in exactly these cases.** -/
theorem backup_iff {returned : Bool} {fl' : Flash}
    (h : backup e program fl = some (returned, fl')) :
    (returned = true → BackedUp program fl') ↔ Right e program fl := by
  have hfree : fl.table.exist e.beginning = false := by
    by_contra hexist
    unfold backup at h
    rw [if_pos (by simpa using hexist)] at h
    cases h
  rw [backup_eq hfree] at h
  unfold Right
  by_cases hheader : e.headerAccepted < headerSize
  · rw [if_pos hheader] at h
    cases h
    exact ⟨fun _ hwritten => absurd hheader (Nat.not_lt.mpr hwritten), fun _ h => nomatch h⟩
  · rw [if_neg hheader] at h
    cases h
    have hright : ∀ P : Prop, (true = true → P) ↔ (headerSize ≤ e.headerAccepted → P) :=
      fun P => ⟨fun hP _ => hP rfl, fun hP _ => hP (Nat.not_lt.mp hheader)⟩
    rw [hright]
    by_cases hsum : (pieces e.accepted 0).sum = programSize
    · rw [if_pos hsum, if_pos hsum, backedUp_update, isBackup_file hsum, and_comm]
    · rw [if_neg hsum, if_neg hsum, backedUp_withFile hfree]
      simp [not_isBackup_file hsum]

theorem seven_valid : ({ block := 7, position := 0 } : BlockAddress).valid = true := rfl

/-- A file that accepts everything, of a bank that designates nothing. -/
def wholeMedia : Media where
  time := 0
  headerAccepted := headerSize
  accepted := List.replicate 254 pieceSize
  beginning := { block := 7, position := 0 }
  valid := seven_valid
  blocks := 1
  formatted := Nat.one_pos
  saved := true

/-- The first kilobyte of the program is written over and over. -/
theorem backup_repeats : ¬ ∀ (e : Media) (program : Program) (fl : Flash) (returned : Bool)
    (fl' : Flash), backup e program fl = some (returned, fl') → returned = true →
      BackedUp program fl' := by
  intro hall
  let program : Program := fun i => if i < pieceSize then 0 else 1
  have hpieces : pieces wholeMedia.accepted 0 = List.replicate 254 pieceSize := by decide +kernel
  have hsum : (pieces wholeMedia.accepted 0).sum = programSize := by
    rw [hpieces]
    decide +kernel
  have hbacked := hall wholeMedia program {} _ _ (backup_eq rfl) rfl
  rw [if_pos hsum, backedUp_update, isBackup_file hsum] at hbacked
  -- the second piece begins where the program goes on
  rw [hpieces] at hbacked
  exact absurd (hbacked.2.2.1 0 (by decide)) (by decide)

/-- A file that accepts nothing of the program. -/
def fullMedia : Media := { wholeMedia with accepted := [] }

/-- Success is reported, and there is no backup. -/
theorem backup_iff_full : ∃ fl', backup fullMedia (fun _ => 0) {} = some (true, fl') ∧
    ((true = true → BackedUp (fun _ => 0) fl') ↔ Right fullMedia (fun _ => 0) {}) :=
  ⟨_, backup_eq rfl, backup_iff (backup_eq rfl)⟩

end Backup

end FieldKit.Backup

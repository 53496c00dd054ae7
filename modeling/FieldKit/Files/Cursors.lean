/-
  File:      FieldKit/Files/Cursors.lean
  Subject:   Do the upload cursors stay inside their files?

  Appends, log swaps, uploads, erases from the app and reopening act on the files and on the
  cursors in any order. Beside them stands what the uploads have covered: the number of bytes, from
  the beginning of a file as it has been since it was last erased, that have been transmitted
  without a gap.

  * `cursors_sound_iff` -- in a run whose saves write a record whole or not at all, the cursors stay
    inside what is covered exactly if no file is erased from under its cursor, and no upload saves
    the position of a file erased since;
  * `cursor_left_behind` -- two log swaps after an upload.
-/
import FieldKit.Lib.Run
import FieldKit.Files.FileSystem

namespace FieldKit.Cursors

open Lib FileCursorManager

/-! ## 1. The machine -/

/-- An upload in progress: its file, the end of its reader and the reader's position. `stale` says
    that the file was erased since. -/
structure Upload where
  file : FileNumber
  limit : Nat
  tell : Nat
  stale : Bool
  deriving DecidableEq, Repr

/-- The card, what the uploads have covered, and the upload that is going on. -/
structure Store where
  disk : Disk := {}
  covered : FileNumber → Nat := fun _ => 0
  upload : Option Upload := none

/-- What can happen to the card. The outcomes of the file system are part of it: a log entry is
    written as far as it is accepted. -/
inductive Input where
  | appendLog (bytes : List Byte) (accepted : Nat) (swap : Swap)
  | appendData (bytes : List Byte)
  | uploadOpen (file : FileNumber) (readable : Bool)
  | uploadRead (count : Nat)
  | uploadSave (saving : Saving)
  | uploadFailed
  | eraseFile (number : FileNumber) (erased : Bool) (opening : Opening) (saving : Saving)
  | eraseAll (erased : FileNumber → Bool) (opening : Opening)
  | reopen (opening : Opening)

/-- The files that an input erases. -/
def erases (s : Store) : Input → FileNumber → Bool
  | .appendLog bytes accepted swap, f =>
    decide (bytes.length ≤ accepted) && swap.finalBlock && swap.erased &&
      decide (f = s.disk.log.other.number)
  | .eraseFile number erased opening _, f =>
    (erased && decide (f = number)) || opening.truncates f
  | .eraseAll erased opening, f => erased f || opening.truncates f
  | .reopen opening, f => opening.truncates f
  | _, _ => false

/-- The state over another card, some of whose files were erased on the way to it. -/
def Store.over (s : Store) (gone : FileNumber → Bool) (disk : Disk) : Store where
  disk := disk
  covered f := if gone f then 0 else s.covered f
  upload := s.upload.map fun u => if gone u.file then { u with stale := true } else u

/-- `beginFileCopy` at an offset: the reader begins there, or not at all if nothing remains. -/
def openAt (f : FileNumber) (offset : Nat) (s : Store) : Store :=
  let limit := (s.disk.content f).length
  let start := min offset limit
  if limit = start then s
  else { s with upload := some { file := f, limit, tell := start, stale := false } }

/-- `TransmitFileTask::openFile`: the copy begins at the cursor, cut to 32 bits. A cursor that
    cannot be read counts as 0. -/
def openUpload (f : FileNumber) (readable : Bool) (s : Store) : Store :=
  openAt f (if readable then (position f s.disk).toNat % 2 ^ 32 else 0) s

/-- `TransmitFileTask` after a 200: `fileCopy.tell()`, a `size_t`, is saved. -/
def saveUpload (o : Saving) (u : Upload) (s : Store) : Store where
  disk := (save u.file (BitVec.ofNat 64 (u.tell % 2 ^ 32)) o s.disk).2
  covered :=
    if u.stale then s.covered
    else Function.update s.covered u.file (max (s.covered u.file) u.tell)
  upload := none

/-- The card before the cursor of an erased file is put back. -/
def erasing (number : FileNumber) (erased : Bool) (opening : Opening) (d : Disk) : Disk :=
  (FileSystem.erase number erased opening d).2

/-- The machine. -/
def step (s : Store) (i : Input) : Option Store :=
  match i with
  | .appendLog bytes accepted swap =>
    let disk := s.disk.append s.disk.log.number (bytes.take accepted)
    if bytes.length ≤ accepted then
      some (s.over (erases s i) (Files.swapLogsIfNecessary swap disk))
    else some { s with disk }
  | .appendData bytes => some { s with disk := s.disk.append .Data bytes }
  | .uploadOpen f readable => if s.upload.isNone then some (openUpload f readable s) else none
  | .uploadRead count =>
    some { s with upload := s.upload.map fun u => { u with tell := min (u.tell + count) u.limit } }
  | .uploadSave saving => s.upload.map fun u => saveUpload saving u s
  | .uploadFailed => some { s with upload := none }
  | .eraseFile number erased opening saving =>
    some (s.over (erases s i) (save number 0 saving (erasing number erased opening s.disk)).2)
  | .eraseAll erased opening =>
    some (s.over (erases s i) (FileSystem.eraseAll erased opening s.disk).2)
  | .reopen opening => some (s.over (erases s i) (FileSystem.openSystemFiles opening s.disk).2)

/-! ## 2. Soundness, and what endangers it -/

/-- **Every cursor is inside its file, and behind it everything has been transmitted** since the
    file was last erased. -/
def Sound (s : Store) : Prop :=
  ∀ f, (position f s.disk).toNat ≤ (s.disk.content f).length ∧
    (position f s.disk).toNat ≤ s.covered f

/-- **Every save of a cursor writes its record whole or not at all.** -/
def WholeSaves (s : Store) : Input → Prop
  | .uploadSave saving => saving.Whole (s.disk.content .System)
  | .eraseFile number erased opening saving =>
    saving.Whole ((erasing number erased opening s.disk).content .System)
  | _ => True

/-- The cursors that an input puts back to 0 itself: all of them when the system file goes, and
    the one of a file erased from the app if the save succeeds. -/
def resets (s : Store) : Input → FileNumber → Bool
  | .eraseFile number erased opening saving, f =>
    (erased && decide (number = .System)) ||
      (saving.returns ((erasing number erased opening s.disk).content .System) &&
        decide (f = number))
  | .eraseAll erased _, _ => erased .System
  | _, _ => false

/-- No file is erased from under its cursor, and no upload saves a position of a file that was
    erased under its reader. -/
def Careful (s : Store) : Input → Prop
  | .uploadSave saving => ∀ u, s.upload = some u →
      saving.returns (s.disk.content .System) = true → u.stale = true → u.tell % 2 ^ 32 = 0
  | i => ∀ f, erases s i f = true → position f s.disk = 0 ∨ resets s i f = true

/-- The invariant. -/
structure CursorInv (s : Store) : Prop where
  behind : ∀ f, (position f s.disk).toNat ≤ s.covered f
  inside : ∀ f, s.covered f ≤ (s.disk.content f).length
  upload : ∀ u, s.upload = some u → u.stale = false →
    u.tell ≤ u.limit ∧ u.limit ≤ (s.disk.content u.file).length
  stale : ∀ u, s.upload = some u → u.stale = true → s.covered u.file = 0

theorem CursorInv.sound {s : Store} (hi : CursorInv s) : Sound s :=
  fun f => ⟨(hi.behind f).trans (hi.inside f), hi.behind f⟩

theorem cursorInv_start : CursorInv {} where
  behind f := by simp [position, FileCursorManager.lookup, FileCursors.size]
  inside _ := Nat.zero_le _
  upload _ h := by simp at h
  stale _ h := by simp at h

/-! ## 3. Going over to another card -/

section Over

variable {s : Store} {gone : FileNumber → Bool} {d : Disk}

/-- **Erasing keeps the invariant if the cursors of the erased files are 0 afterwards.** -/
theorem over_inv (hi : CursorInv s)
    (hgone : ∀ f, gone f = true → position f d = 0)
    (hkept : ∀ f, gone f = false → position f d ≤ position f s.disk)
    (hlen : ∀ f, gone f = false → (s.disk.content f).length ≤ (d.content f).length) :
    CursorInv (s.over gone d) := by
  refine ⟨fun f => ?_, fun f => ?_, fun u hu hstale => ?_, fun u hu hstale => ?_⟩
  · cases hg : gone f with
    | true => simp [Store.over, hgone f hg]
    | false =>
        have hle : (position f d).toNat ≤ (position f s.disk).toNat := hkept f hg
        simpa [Store.over, hg] using hle.trans (hi.behind f)
  · cases hg : gone f with
    | true => simp [Store.over, hg]
    | false => simpa [Store.over, hg] using (hi.inside f).trans (hlen f hg)
  · obtain ⟨v, hv, rfl⟩ := Option.map_eq_some_iff.mp hu
    cases hg : gone v.file with
    | true => simp [hg] at hstale
    | false =>
        simp only [hg, Bool.false_eq_true, if_false] at hstale ⊢
        obtain ⟨htell, hlimit⟩ := hi.upload v hv hstale
        exact ⟨htell, hlimit.trans (hlen v.file hg)⟩
  · obtain ⟨v, hv, rfl⟩ := Option.map_eq_some_iff.mp hu
    cases hg : gone v.file with
    | true => simp [Store.over, hg]
    | false =>
        simp only [hg, Bool.false_eq_true, if_false] at hstale ⊢
        simpa [Store.over, hg] using hi.stale v hv hstale

/-- A cursor left on an erased file is not sound. -/
theorem not_sound_over {f : FileNumber} (hg : gone f = true) (hp : position f d ≠ 0) :
    ¬ Sound (s.over gone d) := by
  intro h
  have hzero : (position f d).toNat ≤ 0 := by simpa [Store.over, hg] using (h f).2
  exact hp (BitVec.eq_of_toNat_eq (by simpa using hzero))

end Over

/-- What a card and the one after an erasing input have to do with each other. -/
structure Erasing (gone cleared : FileNumber → Bool) (d d' : Disk) : Prop where
  position : ∀ f, FileCursorManager.position f d' =
    if cleared f = true then 0 else FileCursorManager.position f d
  content : ∀ f, gone f = false → (d.content f).length ≤ (d'.content f).length

/-! ## 4. The erasing inputs -/

theorem position_erase (f : FileNumber) (gone : FileNumber → Bool) (d : Disk) :
    position f (d.erase gone) = if gone .System = true then 0 else position f d := by
  unfold position Disk.erase
  dsimp only
  split
  · rfl
  · rfl

/-- Only what the files hold matters. -/
theorem Erasing.congr {gone cleared : FileNumber → Bool} {d d' d'' : Disk}
    (he : Erasing gone cleared d d') (h : d''.content = d'.content) :
    Erasing gone cleared d d'' where
  position f := by
    unfold FileCursorManager.position
    rw [h]
    exact he.position f
  content f hg := by
    rw [h]
    exact he.content f hg

theorem position_append {g : FileNumber} (hg : g ≠ .System) (f : FileNumber) (bytes : List Byte)
    (d : Disk) : position f (d.append g bytes) = position f d := by
  simp [position, Disk.append, Ne.symm hg]

theorem length_append (f g : FileNumber) (bytes : List Byte) (d : Disk) :
    (d.content f).length ≤ ((d.append g bytes).content f).length := by
  unfold Disk.append
  rcases eq_or_ne f g with rfl | hne
  · simp
  · simp [hne]

theorem length_save (f g : FileNumber) (p : BitVec 64) (o : Saving) (d : Disk) :
    (d.content f).length ≤ ((save g p o d).2.content f).length := by
  rcases eq_or_ne f .System with rfl | hne
  · obtain ⟨written, hcontent⟩ := content_save_append g p o d
    rw [hcontent, List.length_append]
    exact Nat.le_add_right _ _
  · exact Nat.le_of_eq (congrArg List.length (content_save g p o d hne).symm)

@[simp] theorem content_openSystemFiles (o : Opening) (d : Disk) :
    (FileSystem.openSystemFiles o d).2.content = (d.erase o.truncates).content := by
  unfold FileSystem.openSystemFiles
  dsimp only
  split <;> rfl

/-- The cursors are those in the system file, whatever else is on the card. -/
theorem position_congr {d d' : Disk} (h : d'.content = d.content) (f : FileNumber) :
    position f d' = position f d := by
  unfold position
  rw [h]

/-- Opening never truncates the system file. -/
@[simp] theorem truncates_system (o : Opening) : o.truncates .System = false := rfl

/-- Erasing and then opening. -/
theorem erase_open (erased : FileNumber → Bool) (o : Opening) (d : Disk) :
    Erasing (fun f => erased f || o.truncates f) (fun _ => erased .System) d
      (FileSystem.openSystemFiles o (d.erase erased)).2 where
  position f := by
    rw [position_congr (content_openSystemFiles o (d.erase erased)), position_erase,
      truncates_system]
    simpa using position_erase f erased d
  content f hg := by
    rw [Bool.or_eq_false_iff] at hg
    simp [Disk.erase, hg.1, hg.2]

/-- A log is appended to, and the other one erased if the first is full. -/
theorem erasing_swap {bytes : List Byte} {accepted : Nat} (hall : bytes.length ≤ accepted)
    (swap : Swap) (s : Store) :
    Erasing (erases s (.appendLog bytes accepted swap)) (fun _ => false) s.disk
      (Files.swapLogsIfNecessary swap
        (s.disk.append s.disk.log.number (bytes.take accepted))) := by
  rw [List.take_of_length_le hall]
  have hpos (f : FileNumber) := position_append s.disk.log.number_ne_system f bytes s.disk
  have hlen (f : FileNumber) := length_append f s.disk.log.number bytes s.disk
  have hother : s.disk.log.other.number ≠ .System := s.disk.log.other.number_ne_system
  have hlog : (s.disk.append s.disk.log.number bytes).log = s.disk.log := rfl
  unfold Files.swapLogsIfNecessary
  split
  · next hswap =>
      have hcontent : ∀ f, position f ((s.disk.append s.disk.log.number bytes).erase
          fun f => decide (f = s.disk.log.other.number)) = position f s.disk := by
        intro f
        rw [position_erase, hpos]
        simp [Ne.symm hother]
      have hkept : ∀ f, erases s (.appendLog bytes accepted swap) f = false →
          (s.disk.content f).length ≤ (((s.disk.append s.disk.log.number bytes).erase
            fun f => decide (f = s.disk.log.other.number)).content f).length := by
        intro f hg
        have hne : f ≠ s.disk.log.other.number := by
          simpa [erases, hall, hswap.1, hswap.2] using hg
        simpa [Disk.erase, hne] using hlen f
      rw [hlog]
      have herased : Erasing (erases s (.appendLog bytes accepted swap)) (fun _ => false) s.disk
          ((s.disk.append s.disk.log.number bytes).erase
            fun f => decide (f = s.disk.log.other.number)) :=
        ⟨fun f => by simpa using hcontent f, hkept⟩
      dsimp only
      split
      · exact herased.congr rfl
      · exact herased
  · exact ⟨fun f => by simpa using hpos f, fun f _ => hlen f⟩

/-- One file is erased, the others are opened again, and the cursor is put back. -/
theorem erasing_eraseFile {number : FileNumber} {erased : Bool} {o : Opening} {saving : Saving}
    {s : Store} (hw : WholeSaves s (.eraseFile number erased o saving)) :
    Erasing (erases s (.eraseFile number erased o saving))
      (resets s (.eraseFile number erased o saving)) s.disk
      (save number 0 saving (erasing number erased o s.disk)).2 := by
  obtain ⟨hpos, hlen⟩ := erase_open (fun f => erased && decide (f = number)) o s.disk
  refine ⟨fun f => ?_, fun f hg => ?_⟩
  · have hf : position f (erasing number erased o s.disk) =
        if (erased && decide (number = .System)) = true then 0 else position f s.disk := by
      have hopened := hpos f
      simp only [@eq_comm _ FileNumber.System] at hopened
      exact hopened
    rw [position_save _ _ _ _ _ hw, hf]
    simp only [resets]
    by_cases hr : saving.returns ((erasing number erased o s.disk).content .System) = true <;>
      cases erased <;> by_cases hn : f = number <;> by_cases hs : number = .System <;>
      simp [hr, hn, hs]
  · refine (hlen f ?_).trans (length_save f number 0 saving _)
    simpa [erases] using hg

/-- All files are erased, as far as that succeeds. -/
theorem erasing_eraseAll (erased : FileNumber → Bool) (o : Opening) (s : Store) :
    Erasing (erases s (.eraseAll erased o)) (resets s (.eraseAll erased o)) s.disk
      (FileSystem.eraseAll erased o s.disk).2 := by
  obtain ⟨hpos, hlen⟩ := erase_open erased o s.disk
  exact ⟨hpos, hlen⟩

/-- The files are opened again. -/
theorem erasing_reopen (o : Opening) (s : Store) :
    Erasing (erases s (.reopen o)) (resets s (.reopen o)) s.disk
      (FileSystem.openSystemFiles o s.disk).2 := by
  have hnone : s.disk.erase (fun _ => false) = s.disk := by simp [Disk.erase]
  obtain ⟨hpos, hlen⟩ := erase_open (fun _ => false) o s.disk
  rw [hnone] at hpos hlen
  exact ⟨hpos, fun f hg => hlen f (by simpa [erases] using hg)⟩

/-! ## 5. One step, and the run -/

section Steps

variable {s s' : Store}

/-- **An erasing step keeps the invariant if it is careful.** -/
theorem erasing_inv {gone cleared : FileNumber → Bool} {d : Disk} (hi : CursorInv s)
    (he : Erasing gone cleared s.disk d)
    (hC : ∀ f, gone f = true → position f s.disk = 0 ∨ cleared f = true) :
    CursorInv (s.over gone d) := by
  refine over_inv hi (fun f hg => ?_) (fun f _ => ?_) he.content
  · rw [he.position]
    rcases hC f hg with hzero | hclear
    · simp [hzero]
    · simp [hclear]
  · rw [he.position]
    split
    · exact Nat.zero_le _
    · exact BitVec.le_refl _

/-- **And is unsound if it is not.** -/
theorem erasing_not_sound {gone cleared : FileNumber → Bool} {d : Disk}
    (he : Erasing gone cleared s.disk d)
    (hC : ¬ ∀ f, gone f = true → position f s.disk = 0 ∨ cleared f = true) :
    ¬ Sound (s.over gone d) := by
  simp only [not_forall, not_or] at hC
  obtain ⟨f, hg, hne, hclear⟩ := hC
  refine not_sound_over hg ?_
  rw [he.position, if_neg hclear]
  exact hne

/-- An input that erases, with the card it leads to. -/
def ErasesTo (s : Store) (i : Input) (d : Disk) : Prop :=
  step s i = some (s.over (erases s i) d) ∧ Erasing (erases s i) (resets s i) s.disk d ∧
  (Careful s i ↔ ∀ f, erases s i f = true → position f s.disk = 0 ∨ resets s i f = true)

theorem erasesTo_eraseFile {number : FileNumber} {erased : Bool} {o : Opening} {saving : Saving}
    (hw : WholeSaves s (.eraseFile number erased o saving)) :
    ErasesTo s (.eraseFile number erased o saving)
      (save number 0 saving (erasing number erased o s.disk)).2 :=
  ⟨rfl, erasing_eraseFile hw, Iff.rfl⟩

theorem erasesTo_eraseAll (s : Store) (erased : FileNumber → Bool) (o : Opening) :
    ErasesTo s (.eraseAll erased o) (FileSystem.eraseAll erased o s.disk).2 :=
  ⟨rfl, erasing_eraseAll erased o s, Iff.rfl⟩

theorem erasesTo_reopen (s : Store) (o : Opening) :
    ErasesTo s (.reopen o) (FileSystem.openSystemFiles o s.disk).2 :=
  ⟨rfl, erasing_reopen o s, Iff.rfl⟩

theorem erasesTo_appendLog {bytes : List Byte} {accepted : Nat} (hall : bytes.length ≤ accepted)
    (swap : Swap) (s : Store) : ErasesTo s (.appendLog bytes accepted swap)
      (Files.swapLogsIfNecessary swap
        (s.disk.append s.disk.log.number (bytes.take accepted))) :=
  ⟨if_pos hall, erasing_swap hall swap s, Iff.rfl⟩

theorem ErasesTo.inv {i : Input} {d : Disk} (he : ErasesTo s i d) (hi : CursorInv s)
    (hC : Careful s i) (h : step s i = some s') : CursorInv s' := by
  obtain ⟨hstep, her, hcareful⟩ := he
  rw [hstep, Option.some.injEq] at h
  exact h ▸ erasing_inv hi her (hcareful.mp hC)

theorem ErasesTo.not_sound {i : Input} {d : Disk} (he : ErasesTo s i d)
    (hC : ¬ Careful s i) (h : step s i = some s') : ¬ Sound s' := by
  obtain ⟨hstep, her, hcareful⟩ := he
  rw [hstep, Option.some.injEq] at h
  exact h ▸ erasing_not_sound her (fun h => hC (hcareful.mpr h))

/-- The position that an upload saves. -/
theorem toNat_saved (t : Nat) : (BitVec.ofNat 64 (t % 2 ^ 32)).toNat = t % 2 ^ 32 := by
  rw [BitVec.toNat_ofNat]
  exact Nat.mod_eq_of_lt ((Nat.mod_lt t (by decide)).trans (by decide))

/-- **An upload's save keeps the invariant**, unless it is of a file erased under its reader. -/
theorem saveUpload_inv {u : Upload} {o : Saving} (hi : CursorInv s) (hu : s.upload = some u)
    (hw : o.Whole (s.disk.content .System))
    (hC : o.returns (s.disk.content .System) = true → u.stale = true → u.tell % 2 ^ 32 = 0) :
    CursorInv (saveUpload o u s) := by
  refine ⟨fun f => ?_, fun f => ?_, fun v hv => absurd hv (by simp [saveUpload]),
    fun v hv => absurd hv (by simp [saveUpload])⟩
  · show (position f (save u.file _ o s.disk).2).toNat ≤ (saveUpload o u s).covered f
    have hold : s.covered f ≤ (saveUpload o u s).covered f := by
      unfold saveUpload
      dsimp only
      split
      · exact Nat.le_refl _
      · rcases eq_or_ne f u.file with rfl | hne
        · simp
        · simp [hne]
    rw [position_save _ _ _ _ _ hw]
    split
    · next hsave =>
        obtain ⟨hsaved, rfl⟩ := hsave
        rw [toNat_saved]
        cases hst : u.stale with
        | true => rw [hC hsaved hst]; exact Nat.zero_le _
        | false =>
            simp only [saveUpload, hst, Bool.false_eq_true, if_false, Function.update_self]
            exact (Nat.mod_le _ _).trans (Nat.le_max_right _ _)
    · exact (hi.behind f).trans hold
  · show (saveUpload o u s).covered f ≤ ((save u.file _ o s.disk).2.content f).length
    have hlen := length_save f u.file (BitVec.ofNat 64 (u.tell % 2 ^ 32)) o s.disk
    refine Nat.le_trans ?_ hlen
    unfold saveUpload
    dsimp only
    split
    · exact hi.inside f
    · next hst =>
        rcases eq_or_ne f u.file with rfl | hne
        · obtain ⟨htell, hlimit⟩ := hi.upload u hu (by simpa using hst)
          simpa using ⟨hi.inside u.file, htell.trans hlimit⟩
        · simpa [hne] using hi.inside f

theorem openAt_inv {f : FileNumber} (offset : Nat) (hi : CursorInv s) :
    CursorInv (openAt f offset s) := by
  unfold openAt
  dsimp only
  split
  · exact hi
  · refine ⟨hi.behind, hi.inside, fun u hu _ => ?_, fun u hu hst => ?_⟩
    · cases hu
      exact ⟨Nat.min_le_right _ _, Nat.le_refl _⟩
    · cases hu
      cases hst

/-- What is appended to a file leaves the cursors where they are. -/
theorem append_inv (hi : CursorInv s) {g : FileNumber} (hg : g ≠ .System) (bytes : List Byte) :
    CursorInv { s with disk := s.disk.append g bytes } := by
  refine ⟨fun f => ?_, fun f => (hi.inside f).trans (length_append f g bytes s.disk),
    fun u hu hst => ?_, hi.stale⟩
  · rw [position_append hg]
    exact hi.behind f
  · obtain ⟨htell, hlimit⟩ := hi.upload u hu hst
    exact ⟨htell, hlimit.trans (length_append u.file g bytes s.disk)⟩

/-- **One careful step keeps the invariant.** -/
theorem step_inv {i : Input} (hi : CursorInv s) (hw : WholeSaves s i) (hC : Careful s i)
    (h : step s i = some s') : CursorInv s' := by
  cases i with
  | appendLog bytes accepted swap =>
      by_cases hall : bytes.length ≤ accepted
      · exact (erasesTo_appendLog hall swap s).inv hi hC h
      · simp only [step, if_neg hall, Option.some.injEq] at h
        exact h ▸ append_inv hi s.disk.log.number_ne_system (bytes.take accepted)
  | appendData bytes =>
      cases h
      exact append_inv hi (by decide) bytes
  | uploadOpen f readable =>
      simp only [step] at h
      split at h
      · cases h
        exact openAt_inv _ hi
      · cases h
  | uploadRead count =>
      cases h
      refine ⟨hi.behind, hi.inside, fun u hu hst => ?_, fun u hu hst => ?_⟩
      · obtain ⟨v, hv, rfl⟩ := Option.map_eq_some_iff.mp hu
        exact ⟨Nat.min_le_right _ _, (hi.upload v hv hst).2⟩
      · obtain ⟨v, hv, rfl⟩ := Option.map_eq_some_iff.mp hu
        exact hi.stale v hv hst
  | uploadSave saving =>
      obtain ⟨u, hu, rfl⟩ := Option.map_eq_some_iff.mp h
      exact saveUpload_inv hi hu hw (hC u hu)
  | uploadFailed =>
      cases h
      exact ⟨hi.behind, hi.inside, fun u hu => absurd hu (by simp),
        fun u hu => absurd hu (by simp)⟩
  | eraseFile number erased o saving => exact (erasesTo_eraseFile hw).inv hi hC h
  | eraseAll erased o => exact (erasesTo_eraseAll s erased o).inv hi hC h
  | reopen o => exact (erasesTo_reopen s o).inv hi hC h

/-- **A step that is not careful leaves a cursor behind.** -/
theorem careless_step {i : Input} (hi : CursorInv s) (hw : WholeSaves s i) (hC : ¬ Careful s i)
    (h : step s i = some s') : ¬ Sound s' := by
  cases i with
  | appendLog bytes accepted swap =>
      by_cases hall : bytes.length ≤ accepted
      · exact (erasesTo_appendLog hall swap s).not_sound hC h
      · exact absurd (fun f hg => by simp [erases, hall] at hg) hC
  | appendData => exact absurd (fun f hg => by simp [erases] at hg) hC
  | uploadOpen => exact absurd (fun f hg => by simp [erases] at hg) hC
  | uploadRead => exact absurd (fun f hg => by simp [erases] at hg) hC
  | uploadFailed => exact absurd (fun f hg => by simp [erases] at hg) hC
  | uploadSave saving =>
      simp only [Careful, not_forall] at hC
      obtain ⟨u, hu, hsaved, hstale, hne⟩ := hC
      simp only [step, hu, Option.map_some, Option.some.injEq] at h
      subst h
      intro hs
      have hle : (position u.file (saveUpload saving u s).disk).toNat ≤ s.covered u.file := by
        simpa [saveUpload, hstale] using (hs u.file).2
      rw [hi.stale u hu hstale] at hle
      have hpos : position u.file (saveUpload saving u s).disk =
          BitVec.ofNat 64 (u.tell % 2 ^ 32) := by
        show position u.file (save u.file _ saving s.disk).2 = _
        rw [position_save _ _ _ _ _ hw, if_pos ⟨hsaved, rfl⟩]
      rw [hpos, toNat_saved] at hle
      exact hne (Nat.le_zero.mp hle)
  | eraseFile number erased o saving => exact (erasesTo_eraseFile hw).not_sound hC h
  | eraseAll erased o => exact (erasesTo_eraseAll s erased o).not_sound hC h
  | reopen o => exact (erasesTo_reopen s o).not_sound hC h

end Steps

/-- **The cursors stay sound all along a run exactly if every step of it is careful**, where every
    save writes its record whole or not at all. -/
theorem cursors_sound_iff {tr : List (Store × Input)} {s : Store} (h : Run step {} tr s)
    (hw : Meets WholeSaves tr) : (Meets (fun s _ => Sound s) tr ∧ Sound s) ↔ Meets Careful tr := by
  refine h.meets_iff_under WholeSaves Careful CursorInv Sound cursorInv_start
    (fun _ hi => hi.sound) ?_ hw
  intro s i s' hi hw hs
  refine ⟨fun hC => step_inv hi hw hC hs, fun hsound => ?_⟩
  by_contra hC
  exact careless_step hi hw hC hs hsound

/-- A log is uploaded, and then rotated out and in again. -/
def rotated : List Input :=
  [.appendLog [1, 2, 3] 3 ⟨false, true, true⟩, .uploadOpen .LogsA true, .uploadRead 3,
   .uploadSave { now := 5 }, .appendLog [4] 1 ⟨true, true, true⟩,
   .appendLog [5] 1 ⟨true, true, true⟩]

/-- Its cursor is left at 3 in an empty file. -/
theorem cursor_left_behind : ¬ ∀ (tr : List (Store × Input)) (s : Store), Run step {} tr s →
    Sound s := by
  intro hall
  have hexec : (exec step {} rotated).map (fun s =>
      (position .LogsA s.disk, s.disk.content .LogsA)) = some (3, []) := by decide +kernel
  obtain ⟨tr, s, hrun, hs⟩ := run_of_exec_map hexec
  rw [Prod.mk.injEq] at hs
  have := (hall tr s hrun .LogsA).1
  rw [hs.1, hs.2] at this
  exact absurd this (by decide)

instance (s : Store) (i : Input) : Decidable (WholeSaves s i) :=
  match i with
  | .uploadSave saving => inferInstanceAs (Decidable (saving.Whole _))
  | .eraseFile _ _ _ saving => inferInstanceAs (Decidable (saving.Whole _))
  | .appendLog _ _ _ | .appendData _ | .uploadOpen _ _ | .uploadRead _ | .uploadFailed
  | .eraseAll _ _ | .reopen _ => inferInstanceAs (Decidable True)

/-- As long as the log is only appended to, its cursor stays where the upload left it. -/
theorem cursors_sound_iff_uploaded : ∃ tr s, Run step {} tr s ∧
    position .LogsA s.disk = 3 ∧
    ((Meets (fun s _ => Sound s) tr ∧ Sound s) ↔ Meets Careful tr) := by
  have hexec : (exec (guarded WholeSaves step) {} (rotated.take 5)).map
      (fun s => position .LogsA s.disk) = some 3 := by decide +kernel
  obtain ⟨tr, s, hrun, hs⟩ := run_of_exec_map hexec
  obtain ⟨hrun, hw⟩ := hrun.of_guarded
  exact ⟨tr, s, hrun, hs, cursors_sound_iff hrun hw⟩

end FieldKit.Cursors

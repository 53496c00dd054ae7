/-
  File:      FieldKit/Firmware/Storage.lean
  Subject:   `FirmwareStorage` (firmware_storage.cpp) over the serial flash and its flash state.

  The flash holds files, each named by the address of its beginning, and one super block with the
  addresses of the firmware banks. The super block is also kept in memory, where it is changed
  first; `save` writes it out and may fail. Whatever reaches the flash is written down in order
  (`FlashWrite`), so that a reset can be put between any two writes.

  phylum, the file system, is not part of the repository: where its allocator puts a new file, and
  whether a save succeeds, is left to the environment.

  * `update_flash` -- what `update` does to the flash, in order;
  * `update_safe_iff` -- when no cut of `update` leaves a bank that designates an erased file.
-/
import FieldKit.Platform

namespace FieldKit

/-! ## 1. Addresses, files and banks -/

/-- `phylum::BlockAddress`. The default one is invalid. -/
structure BlockAddress where
  block : BitVec 32 := BitVec.allOnes 32
  position : BitVec 32 := 0
  deriving DecidableEq, Repr

/-- `valid()`. -/
def BlockAddress.valid (a : BlockAddress) : Bool := decide (a.block ≠ BitVec.allOnes 32)

/-- A file of the flash: what was written to it, and the number of blocks it lies in. -/
structure File where
  content : List Byte := []
  blocks : Nat := 1
  formatted : 0 < blocks := by decide
  deriving DecidableEq, Repr

/-- The files of the flash, by the address of their beginning. -/
structure FileTable where
  files : BlockAddress → Option File
  invalid_missing : ∀ a, a.valid = false → files a = none

namespace FileTable

/-- `open(a)` and `exists()`. -/
def exist (t : FileTable) (a : BlockAddress) : Bool := (t.files a).isSome

/-- No files at all. -/
def empty : FileTable := ⟨fun _ => none, fun _ _ => rfl⟩

/-- The table with a file gone. -/
def erase (t : FileTable) (a : BlockAddress) : FileTable where
  files := Function.update t.files a none
  invalid_missing b hb := by
    rcases eq_or_ne b a with rfl | hne
    · simp
    · simpa [hne] using t.invalid_missing b hb

/-- The table with a file at a valid address. -/
def put (t : FileTable) (a : BlockAddress) (ha : a.valid = true) (f : File) : FileTable where
  files := Function.update t.files a (some f)
  invalid_missing b hb := by
    rcases eq_or_ne b a with rfl | hne
    · exact absurd (ha.symm.trans hb) (by decide)
    · simpa [hne] using t.invalid_missing b hb

@[simp] theorem files_erase (t : FileTable) (a : BlockAddress) :
    (t.erase a).files = Function.update t.files a none := rfl

@[simp] theorem files_put (t : FileTable) (a : BlockAddress) (ha : a.valid = true) (f : File) :
    (t.put a ha f).files = Function.update t.files a (some f) := rfl

end FileTable

/-- `FirmwareBank`. -/
inductive FirmwareBank where
  | Backup
  | Pending
  | Incoming
  | Safe
  | Reserved0
  | Reserved1
  deriving DecidableEq, Repr

/-- The cast of a bank number of a message; beyond the table the source reads and writes
    outside `banks`. -/
def FirmwareBank.ofNumber (n : BitVec 32) : Option FirmwareBank :=
  match n.toNat with
  | 0 => some .Backup
  | 1 => some .Pending
  | 2 => some .Incoming
  | 3 => some .Safe
  | 4 => some .Reserved0
  | 5 => some .Reserved1
  | _ => none

/-- `MinimumFlashState`, as far as the firmware storage uses it. -/
structure MinimumFlashState where
  banks : FirmwareBank → BlockAddress := fun _ => {}

/-! ## 2. The flash -/

/-- One write that reaches the flash: a super block, or the erasure of one block of a file. -/
inductive FlashWrite where
  | superBlock (image : MinimumFlashState)
  | eraseBlock (file : BlockAddress) (index : Nat)

/-- The flash and the flash state: `state` in memory, the rest on the flash. -/
structure Flash where
  state : MinimumFlashState := {}
  persisted : MinimumFlashState := {}
  table : FileTable := FileTable.empty

namespace Flash

/-- The effect of one write. A file is gone with its last block. -/
def apply (fl : Flash) : FlashWrite → Flash
  | .superBlock image => { fl with persisted := image }
  | .eraseBlock a i =>
    match fl.table.files a with
    | some f => if i + 1 = f.blocks then { fl with table := fl.table.erase a } else fl
    | none => fl

/-- `flashState_->save()`, with its outcome. -/
def save (ok : Bool) (fl : Flash) : List FlashWrite :=
  if ok then [.superBlock fl.state] else []

/-- `erase_all_blocks()`. -/
def eraseAllBlocks (a : BlockAddress) (fl : Flash) : List FlashWrite :=
  match fl.table.files a with
  | some f => (List.range f.blocks).map (.eraseBlock a)
  | none => []

/-- A reset: the state in memory is what `locate` finds on the flash. -/
def reset (fl : Flash) : Flash := { fl with state := fl.persisted }

end Flash

/-! ## 3. The operations -/

namespace FirmwareStorage

/-- `verify(address, size)`: the file exists and has exactly this size. -/
def verify (address : BlockAddress) (size : BitVec 32) (fl : Flash) : Bool :=
  match fl.table.files address with
  | some f => decide (f.content.length = size.toNat)
  | none => false

/-- `sizeof(firmware_header_t)`: three words, and two arrays of 64 bytes. -/
def headerSize : Nat := 140

/-- `header(bank, header)`: whether all of the header is read, and the bytes it then has, of which
    those that are not read are zeros. -/
def header (bank : FirmwareBank) (fl : Flash) : Bool × List Byte :=
  let bytes := match fl.table.files (fl.state.banks bank) with
    | some f => f.content.take headerSize
    | none => []
  (decide (bytes.length = headerSize), bytes ++ List.replicate (headerSize - bytes.length) 0)

/-- The in-memory half of `update`. -/
def setBank (bank : FirmwareBank) (beginning : BlockAddress) (fl : Flash) : Flash :=
  { fl with state.banks := Function.update fl.state.banks bank beginning }

/-- The writes of `update(bank, beginning)`: the save, and then, whatever came of it, the erasure
    of the file that the bank designated before. -/
def updateWrites (bank : FirmwareBank) (beginning : BlockAddress) (saved : Bool) (fl : Flash) :
    List FlashWrite :=
  (setBank bank beginning fl).save saved ++
    if (fl.state.banks bank).valid then fl.eraseAllBlocks (fl.state.banks bank) else []

/-- `update(bank, beginning)`: what it returns, and the flash it leaves. -/
def update (bank : FirmwareBank) (beginning : BlockAddress) (saved : Bool) (fl : Flash) :
    Bool × Flash :=
  (true, (updateWrites bank beginning saved fl).foldl Flash.apply (setBank bank beginning fl))

/-- `erase(writer)`, of the open file. -/
def erase (opened : BlockAddress) (fl : Flash) : Flash :=
  (fl.eraseAllBlocks opened).foldl Flash.apply fl

end FirmwareStorage

/-! ## 4. What the writes do -/

open FirmwareStorage

/-- Blocks before the last one are erased without a visible change. -/
private theorem eraseBlocks_before_last (a : BlockAddress) (fl : Flash) {f : File}
    (hf : fl.table.files a = some f) :
    ∀ n, n < f.blocks → ((List.range n).map (FlashWrite.eraseBlock a)).foldl Flash.apply fl = fl := by
  intro n
  induction n with
  | zero => intro _; rfl
  | succ n ih =>
      intro hn
      have hlast : n + 1 ≠ f.blocks := by omega
      rw [List.range_succ, List.map_append, List.foldl_append, ih (by omega)]
      simp [Flash.apply, hf, hlast]

/-- What `verify` finds. -/
theorem verify_iff {a : BlockAddress} {size : BitVec 32} {fl : Flash} :
    FirmwareStorage.verify a size fl = true ↔
      ∃ f, fl.table.files a = some f ∧ f.content.length = size.toNat := by
  unfold FirmwareStorage.verify
  cases fl.table.files a <;> simp

/-- **`erase_all_blocks` removes the file, and changes nothing else.** -/
theorem eraseAllBlocks_apply (a : BlockAddress) (fl : Flash) :
    (fl.eraseAllBlocks a).foldl Flash.apply fl = { fl with table := fl.table.erase a } := by
  unfold Flash.eraseAllBlocks
  cases hf : fl.table.files a with
  | none =>
      have : fl.table.erase a = fl.table := by
        have hfun : Function.update fl.table.files a none = fl.table.files := by
          rw [← hf, Function.update_eq_self]
        cases ht : fl.table
        simp only [ht] at hfun
        simp [FileTable.erase, hfun]
      simp [this]
  | some f =>
      obtain ⟨n, hn⟩ : ∃ n, f.blocks = n + 1 := ⟨f.blocks - 1, by have := f.formatted; omega⟩
      simp only [hn, List.range_succ, List.map_append, List.foldl_append, List.map_cons,
        List.map_nil, List.foldl_cons, List.foldl_nil]
      rw [eraseBlocks_before_last a fl hf n (by omega)]
      simp [Flash.apply, hf, hn]

/-- Erasures leave the super block alone. -/
theorem persisted_erasures {ws : List FlashWrite} (h : ∀ w ∈ ws, ∃ a i, w = .eraseBlock a i)
    (fl : Flash) : (ws.foldl Flash.apply fl).persisted = fl.persisted := by
  induction ws generalizing fl with
  | nil => rfl
  | cons w ws ih =>
      obtain ⟨a, i, rfl⟩ := h w (by simp)
      rw [List.foldl_cons, ih (fun w hw => h w (by simp [hw]))]
      unfold Flash.apply
      dsimp only
      split
      · split <;> rfl
      · rfl

/-- What `erase_all_blocks` writes. -/
theorem mem_eraseAllBlocks {a : BlockAddress} {fl : Flash} {w : FlashWrite} :
    w ∈ fl.eraseAllBlocks a ↔
      ∃ f i, fl.table.files a = some f ∧ i < f.blocks ∧ w = .eraseBlock a i := by
  unfold Flash.eraseAllBlocks
  cases fl.table.files a <;> simp [eq_comm]

/-- **The flash after `update`**: the file the bank designated in memory is gone, whatever came
    of the save. -/
theorem update_flash (bank : FirmwareBank) (beginning : BlockAddress) (saved : Bool) (fl : Flash) :
    (update bank beginning saved fl).2 =
      { state := (setBank bank beginning fl).state
        persisted := if saved then (setBank bank beginning fl).state else fl.persisted
        table := fl.table.erase (fl.state.banks bank) } := by
  have hmissing (hv : (fl.state.banks bank).valid = false) :
      fl.table.erase (fl.state.banks bank) = fl.table := by
    have := eraseAllBlocks_apply (fl.state.banks bank) fl
    simp only [Flash.eraseAllBlocks, fl.table.invalid_missing _ hv, List.foldl_nil] at this
    exact (congrArg Flash.table this).symm
  unfold update updateWrites
  cases saved <;> cases hv : (fl.state.banks bank).valid
  · simp [Flash.save, setBank, hmissing hv]
  · simp only [Flash.save, if_true, Bool.false_eq_true, if_false, List.nil_append]
    exact eraseAllBlocks_apply (fl.state.banks bank) (setBank bank beginning fl)
  · simp [Flash.save, Flash.apply, setBank, hmissing hv]
  · simp only [Flash.save, if_true, List.cons_append, List.nil_append, List.foldl_cons]
    exact eraseAllBlocks_apply (fl.state.banks bank)
      { setBank bank beginning fl with persisted := (setBank bank beginning fl).state }

/-! ## 5. Resets inside `update` -/

/-- No block of the file that `bank` designates on the flash is among the writes made so far. -/
def Designates (bank : FirmwareBank) (fl : Flash) (written : List FlashWrite) : Prop :=
  ∀ i, FlashWrite.eraseBlock (fl.persisted.banks bank) i ∉ written

/-- **`update` is safe**: wherever it is cut, the bank on the flash designates a file it has not
    erased from, and it does not report success over a failed save. -/
def UpdateSafe (bank : FirmwareBank) (beginning : BlockAddress) (saved : Bool) (fl : Flash) : Prop :=
  (∀ written, written <+: updateWrites bank beginning saved fl →
    Designates bank (written.foldl Flash.apply (setBank bank beginning fl)) written) ∧
  (saved = false → (update bank beginning saved fl).1 = false)

/-- With the address the bank already holds, `update` erases the very file it persists. -/
theorem not_designates_same {bank : FirmwareBank} {beginning : BlockAddress} {fl : Flash}
    (hsame : fl.state.banks bank = beginning) (hexist : fl.table.exist beginning = true) :
    ¬ Designates bank (update bank beginning true fl).2 (updateWrites bank beginning true fl) := by
  intro hdes
  obtain ⟨f, hf⟩ := Option.isSome_iff_exists.mp hexist
  have hvalid : beginning.valid = true := by
    by_contra hv
    rw [Bool.not_eq_true] at hv
    exact absurd (hf.symm.trans (fl.table.invalid_missing _ hv)) (by simp)
  have hbank : (update bank beginning true fl).2.persisted.banks bank = beginning := by
    rw [update_flash]
    simp [setBank]
  -- its first block is among the writes
  refine hdes 0 ?_
  rw [hbank]
  refine List.mem_append_right _ ?_
  rw [hsame, if_pos hvalid]
  exact mem_eraseAllBlocks.mpr ⟨f, 0, hf, f.formatted, rfl⟩

/-- After a save, wherever it is cut, the bank designates a file that `update` leaves alone. -/
theorem designates_saved {bank : FirmwareBank} {beginning : BlockAddress} {fl : Flash}
    {written : List FlashWrite}
    (hnot : ¬ (fl.state.banks bank = beginning ∧ fl.table.exist beginning = true))
    (hpre : written <+: updateWrites bank beginning true fl) :
    Designates bank (written.foldl Flash.apply (setBank bank beginning fl)) written := by
  intro i hmem
  have herase : ∀ w ∈ (if (fl.state.banks bank).valid then
      fl.eraseAllBlocks (fl.state.banks bank) else []), ∃ f i,
      fl.table.files (fl.state.banks bank) = some f ∧
        w = .eraseBlock (fl.state.banks bank) i := by
    intro w hw
    split at hw
    · obtain ⟨f, i, hf, _, rfl⟩ := mem_eraseAllBlocks.mp hw
      exact ⟨f, i, hf, rfl⟩
    · exact absurd hw List.not_mem_nil
  cases written with
  | nil => exact absurd hmem List.not_mem_nil
  | cons w ws =>
      -- the save comes first, so from here on the flash holds the new address
      obtain ⟨rfl, hws⟩ : w = .superBlock (setBank bank beginning fl).state ∧ ws <+:
          (if (fl.state.banks bank).valid then fl.eraseAllBlocks (fl.state.banks bank) else []) :=
        List.cons_prefix_cons.mp (by simpa [updateWrites, Flash.save] using hpre)
      have hpers : ((FlashWrite.superBlock (setBank bank beginning fl).state :: ws).foldl
          Flash.apply (setBank bank beginning fl)).persisted.banks bank = beginning := by
        rw [List.foldl_cons, persisted_erasures]
        · simp [Flash.apply, setBank]
        · intro w hw
          obtain ⟨_, i, _, rfl⟩ := herase w (hws.subset hw)
          exact ⟨_, i, rfl⟩
      rw [hpers] at hmem
      rcases List.mem_cons.mp hmem with hmem | hmem
      · cases hmem
      · obtain ⟨f, j, hf, heq⟩ := herase _ (hws.subset hmem)
        have haddr : beginning = fl.state.banks bank := by
          injection heq
        refine hnot ⟨haddr.symm, ?_⟩
        rw [FileTable.exist, haddr, hf]
        rfl

/-- **`update` is safe exactly if the save succeeds and the bank did not already hold the new
    address, of a file that is there.** -/
theorem update_safe_iff (bank : FirmwareBank) (beginning : BlockAddress) (saved : Bool)
    (fl : Flash) :
    UpdateSafe bank beginning saved fl ↔
      saved = true ∧ ¬ (fl.state.banks bank = beginning ∧ fl.table.exist beginning = true) := by
  constructor
  · intro h
    obtain ⟨hcut, hreport⟩ := h
    cases saved with
    | false => exact absurd (hreport rfl) (by simp [update])
    | true =>
        refine ⟨rfl, fun ⟨hsame, hexist⟩ => ?_⟩
        exact not_designates_same hsame hexist (hcut _ List.prefix_rfl)
  · intro h
    obtain ⟨rfl, hnot⟩ := h
    exact ⟨fun written hpre => designates_saved hnot hpre, fun h => absurd h (by decide)⟩

/-- A flash whose pending bank holds a committed file. -/
def committedFlash : Flash where
  state := { banks := fun _ => { block := 7, position := 0 } }
  persisted := { banks := fun _ => { block := 7, position := 0 } }
  table := FileTable.empty.put { block := 7, position := 0 } rfl { content := [1, 2, 3] }

/-- The save fails, and the committed file is erased all the same. -/
theorem update_unsafe : ¬ ∀ (bank : FirmwareBank) (beginning : BlockAddress) (saved : Bool)
    (fl : Flash), UpdateSafe bank beginning saved fl := by
  intro hall
  obtain ⟨hcut, _⟩ := hall .Pending { block := 9, position := 0 } false committedFlash
  have hwritten : updateWrites .Pending { block := 9, position := 0 } false committedFlash =
      [.eraseBlock { block := 7, position := 0 } 0] := rfl
  exact hcut _ List.prefix_rfl 0 (hwritten ▸ List.mem_singleton_self _)

end FieldKit

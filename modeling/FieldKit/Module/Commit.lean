/-
  File:      FieldKit/Module/Commit.lean
  Subject:   Which firmware a module commits: `QUERY_DATA_VERIFY` after any history of queries,
             streams and flash failures.

  The module is watched: every run of `ModuleReceiveData` is written down when it ends, with the
  number of bytes it read (counted without wrap-around) and what it left in its file.

  * `CommitInv` -- what `dataCopyStatus` says of the last run;
  * `handle_cases` -- what one query does to the flash;
  * `commit_safe` -- a bank is only ever set by a `QUERY_DATA_VERIFY` that calls `update` for the
    file of the last run, which received what was announced, has the size that was verified, and
    has the checksum that was sent.
-/
import FieldKit.Lib.Run
import FieldKit.Module.Module

namespace FieldKit.Commit

open Lib ModuleServicer

variable {n : Nat} {β : Type}

/-! ## 1. The watched module -/

/-- A finished run of `ModuleReceiveData`. -/
structure ReceiveRun where
  file : BlockAddress
  announced : BitVec 32
  received : Nat
  stored : List Byte
  kept : Bool
  deriving DecidableEq, Repr

/-- The module, the bytes read in the run that is going on, and the finished runs, last one
    first. -/
structure Watched (n : Nat) (β : Type) where
  module : Module n β
  count : Nat := 0
  runs : List ReceiveRun := []

/-- A module that has just booted, over any flash. -/
def boot (info : ModuleInfo n) (flash : Flash) : Watched n β := { module := { info, flash } }

/-- A bus callback, or a tick of the main loop. -/
inductive Input (n : Nat) (β : Type) where
  | receive (bytes : List β) (room : Nat)
  | reply
  | tick (t : Tick n)

/-- The content of a file, none if it is not there. -/
def contentOf (a : BlockAddress) (fl : Flash) : List Byte :=
  match fl.table.files a with
  | some f => f.content
  | none => []

/-- What a tick adds to the record. -/
def watch (P : ModuleProtocol β) (t : Tick n) (s : Watched n β) : Nat × List ReceiveRun :=
  match t, s.module.current with
  | .open _, .ReceiveData _ => (0, s.runs)
  | .data r, .Receiving settings p =>
    match ModuleReceiveData.next r settings p s.module with
    | (none, _) =>
      (s.count, { file := p.opened, announced := settings.size, received := s.count,
                  stored := contentOf p.opened s.module.flash,
                  kept := decide (p.received = settings.size) &&
                    FirmwareStorage.verify p.opened settings.size s.module.flash } :: s.runs)
    | (some bs, _) => (s.count + (P.raw bs).length, s.runs)
  | _, _ => (s.count, s.runs)

/-- The watched module's machine. -/
def step (P : ModuleProtocol β) (capacity : Nat) (s : Watched n β) :
    Input n β → Option (Watched n β)
  | .receive bytes room =>
    some { s with module.child := s.module.child.receive bytes room }
  | .reply =>
    some { s with module.child := (s.module.child.reply P s.module.current.busy).2 }
  | .tick t =>
    (s.module.tick P capacity t).map fun m =>
      { module := m, count := (watch P t s).1, runs := (watch P t s).2 }

/-- The servicer reads this query in the step. -/
def Serves (P : ModuleProtocol β) (s : Watched n β) (i : Input n β) (e : Serving)
    (query : ModuleQueryMessage) : Prop :=
  i = .tick (.serve e) ∧ s.module.current = .Servicer ∧ s.module.child.incoming ≠ [] ∧
    P.decodeQuery s.module.child.incoming = some query

/-- **The step commits**: it answers a `QUERY_DATA_VERIFY`, and the flash has changed, or the module
    goes on to flash itself. -/
def Commits (P : ModuleProtocol β) (s : Watched n β) (i : Input n β) (s' : Watched n β)
    (e : Serving) (data : DataQuery) : Prop :=
  ∃ query, Serves P s i e query ∧ query.type = .QUERY_DATA_VERIFY ∧ query.data = data ∧
    (s'.module.flash ≠ s.module.flash ∨ s'.module.current = .FirmwareSelfFlash)

/-- The step has a bank forget an address that makes no sense (`reclaim`). -/
def Forgets (P : ModuleProtocol β) (s : Watched n β) (i : Input n β) (s' : Watched n β)
    (bank : FirmwareBank) : Prop :=
  (∃ e query, Serves P s i e query ∧ query.type = .QUERY_DATA_PREPARE) ∧
    s'.module.flash.state.banks bank = {}

/-! ## 2. What the servicer does -/

@[simp] theorem write_current (P : ModuleProtocol β) (r : ModuleReplyMessage) (m : Module n β) :
    (write P r m).current = m.current := rfl

/-- No file has appeared or changed. -/
def FilesKept (fl fl' : Flash) : Prop :=
  ∀ a f, fl'.table.files a = some f → fl.table.files a = some f

theorem filesKept_refl (fl : Flash) : FilesKept fl fl := fun _ _ h => h

theorem filesKept_erase (fl : Flash) (a : BlockAddress) {fl' : Flash}
    (h : fl'.table = fl.table.erase a) : FilesKept fl fl' := by
  intro b f hf
  rw [h, FileTable.files_erase] at hf
  rcases eq_or_ne b a with rfl | hne
  · simp at hf
  · simpa [hne] using hf

theorem filesKept_reclaim (e : Serving) (fl : Flash) : FilesKept fl (fl.reclaim e) := by
  intro a f hf
  simp only [Flash.reclaim] at hf
  split at hf
  · cases hf
  · exact hf

theorem filesKept_update (bank : FirmwareBank) (a : BlockAddress) (saved : Bool) (fl : Flash) :
    FilesKept fl (FirmwareStorage.update bank a saved fl).2 :=
  filesKept_erase fl (fl.state.banks bank) (by rw [update_flash])

/-- What one query leaves alone, whatever it is. -/
structure Kept (m m' : Module n β) : Prop where
  status : m'.dataCopyStatus = m.dataCopyStatus
  files : FilesKept m.flash m'.flash
  idle : ∀ settings p, m'.current ≠ .Receiving settings p

/-- A transition that does not enter the loop. -/
theorem kept_moved (m : Module n β) (current : ModuleState)
    (h : ∀ settings p, current ≠ .Receiving settings p) : Kept m { m with current := current } :=
  ⟨rfl, filesKept_refl _, h⟩

/-- **What a query does to the flash**: a `QUERY_DATA_VERIFY` whose checks have passed calls
    `update`; any other query leaves the flash, unless it is a `QUERY_DATA_PREPARE`, and does not
    lead to `ModuleFirmwareSelfFlash`. -/
inductive Effect (e : Serving) (query : ModuleQueryMessage) (m m' : Module n β) : Prop where
  | updated {bank : FirmwareBank} {address : BlockAddress}
      (htype : query.type = .QUERY_DATA_VERIFY)
      (hverify : verify query.data m = some (.commit bank address))
      (hflash : m'.flash = (FirmwareStorage.update bank address e.saved m.flash).2)
  | reclaimed (htype : query.type = .QUERY_DATA_PREPARE) (hflash : m'.flash = m.flash.reclaim e)
      (hcur : m'.current ≠ .FirmwareSelfFlash)
  | none (hflash : m'.flash = m.flash) (hcur : m'.current ≠ .FirmwareSelfFlash)

/-- **Every query has one of these effects**, and leaves `dataCopyStatus`. -/
theorem handle_cases {P : ModuleProtocol β} {e : Serving} {query : ModuleQueryMessage}
    {m m' : Module n β} (h : handle P e query m = some m') :
    m'.dataCopyStatus = m.dataCopyStatus ∧ (∀ settings p, m'.current ≠ .Receiving settings p) ∧
      Effect e query m m' := by
  unfold handle at h
  dsimp only at h
  split at h
  case h_2 =>
    split at h
    · cases h
      exact ⟨rfl, fun _ _ => by simp, .none rfl (by simp)⟩
    · cases h
  case h_5 =>
    split at h
    · cases h
      exact ⟨rfl, fun _ _ => by simp, .none rfl (by simp)⟩
    · cases h
      exact ⟨rfl, fun _ _ => by simp, .none rfl (by simp)⟩
  case h_6 htype =>
    split at h
    · cases h
      exact ⟨rfl, fun _ _ => by simp, .reclaimed htype rfl (by simp)⟩
    · cases h
      exact ⟨rfl, fun _ _ => by simp, .reclaimed htype rfl (by simp)⟩
  case h_7 htype =>
    split at h
    · cases h
    · next hverify =>
        split at h
        · cases h
          exact ⟨rfl, fun _ _ => by simp, .updated htype hverify rfl⟩
        · cases h
          exact ⟨rfl, fun _ _ => by simp, .updated htype hverify rfl⟩
    · cases h
      exact ⟨rfl, fun _ _ => by simp, .none rfl (by simp)⟩
  all_goals
    cases h
    exact ⟨rfl, fun _ _ => by simp, .none rfl (by simp)⟩

/-- **No query changes `dataCopyStatus` or adds to a file.** -/
theorem handle_kept {P : ModuleProtocol β} {e : Serving} {query : ModuleQueryMessage}
    {m m' : Module n β} (h : handle P e query m = some m') : Kept m m' := by
  obtain ⟨hstatus, hidle, heffect⟩ := handle_cases h
  refine ⟨hstatus, ?_, hidle⟩
  cases heffect with
  | updated _ _ hflash => exact hflash ▸ filesKept_update _ _ _ _
  | reclaimed _ hflash => exact hflash ▸ filesKept_reclaim e _
  | none hflash => exact hflash ▸ filesKept_refl _

theorem task_kept {P : ModuleProtocol β} {e : Serving} {m m' : Module n β}
    (hs : m.current = .Servicer) (h : ModuleServicer.task P e m = some m') : Kept m m' := by
  unfold ModuleServicer.task at h
  split at h
  · cases h
    exact ⟨rfl, filesKept_refl _, fun _ _ => by simp [hs]⟩
  · split at h
    · cases h
      exact ⟨rfl, filesKept_refl _, fun _ _ => by simp⟩
    · obtain ⟨hst, hf, hidle⟩ := handle_kept h
      exact ⟨hst, hf, hidle⟩

/-! ## 3. The invariant -/

/-- **What is known of the last run**: either nothing is pending, or the pending file is the one
    it kept, as it left it. -/
def Pending (s : Watched n β) : Prop :=
  s.module.dataCopyStatus.pending.valid = false ∨
  ∃ run rest, s.runs = run :: rest ∧ run.kept = true ∧
    run.file = s.module.dataCopyStatus.pending ∧ run.received = run.announced.toNat ∧
    s.module.dataCopyStatus.checksum = crc32Of run.stored ∧
    ∀ f, s.module.flash.table.files run.file = some f → f.content = run.stored

/-- **What is known inside the loop**: nothing is pending, the checksum is that of the file, and
    the count is exact unless it could have wrapped. -/
structure Streaming (capacity : Nat) (settings : ModuleCopySettings) (p : ReceiveProgress)
    (s : Watched n β) : Prop where
  forgotten : s.module.dataCopyStatus.pending.valid = false
  stored : ∀ f, s.module.flash.table.files p.opened = some f →
    f.content.length ≤ capacity ∧ p.crc = crc32Of f.content
  counted : settings.size.toNat + fileCopyBufferSize ≤ 2 ^ 32 → p.received.toNat = s.count

/-- The invariant of the watched module. -/
structure CommitInv (capacity : Nat) (s : Watched n β) : Prop where
  pending : Pending s
  streaming : ∀ settings p, s.module.current = .Receiving settings p →
    Streaming capacity settings p s

section Steps

variable {P : ModuleProtocol β} {capacity : Nat} {s s' : Watched n β}

theorem commitInv_boot (info : ModuleInfo n) (flash : Flash) :
    CommitInv capacity (boot info flash : Watched n β) where
  pending := Or.inl rfl
  streaming := by
    intro settings p h
    exact absurd h (by simp [boot])

/-- A step that touches neither the status nor the record, and adds to no file. -/
theorem CommitInv.keep (hi : CommitInv capacity s) {m : Module n β}
    (hk : Kept s.module m) (count : Nat) :
    CommitInv capacity { module := m, count, runs := s.runs } := by
  refine ⟨?_, fun settings p h => absurd h (hk.idle settings p)⟩
  rcases hi.pending with hp | ⟨run, rest, hr, hkept, hfile, hrecv, hsum, hcont⟩
  · exact Or.inl (by rw [← hp, ← hk.status])
  · refine Or.inr ⟨run, rest, hr, hkept, hfile.trans (by rw [hk.status]), hrecv,
      (by rw [hk.status]; exact hsum), fun f hf => hcont f (hk.files _ f hf)⟩

/-- **The end of a run**: it is either kept, and then counted exactly, or forgotten. -/
theorem finish_inv (hcap : capacity + fileCopyBufferSize ≤ 2 ^ 32) {settings : ModuleCopySettings}
    {p : ReceiveProgress} (hs : Streaming capacity settings p s) (pipe : Ring β) :
    CommitInv capacity
      { module := ModuleReceiveData.finish settings p { s.module with child.pipe := pipe }
        count := s.count
        runs := { file := p.opened, announced := settings.size, received := s.count,
                  stored := contentOf p.opened s.module.flash,
                  kept := decide (p.received = settings.size) &&
                    FirmwareStorage.verify p.opened settings.size s.module.flash } :: s.runs } := by
  unfold ModuleReceiveData.finish
  dsimp only
  split
  · next hkeep =>
      obtain ⟨hsize, hver⟩ := hkeep
      obtain ⟨f, hf, hlen⟩ := verify_iff.mp hver
      obtain ⟨hle, hcrc⟩ := hs.stored f hf
      have hcontent : contentOf p.opened s.module.flash = f.content := by simp [contentOf, hf]
      -- the file has the announced size, so the size fits the flash and the count is exact
      have hcount : s.count = settings.size.toNat := by
        rw [← hs.counted (by omega), hsize]
      refine ⟨Or.inr ⟨_, _, rfl, by simp [hsize, hver], rfl, hcount, ?_, ?_⟩, fun _ _ h => by cases h⟩
      · rw [hcontent]
        exact hcrc
      · intro f' hf'
        rw [hcontent]
        cases hf.symm.trans hf'
        rfl
  · exact ⟨Or.inl hs.forgotten, fun _ _ h => by cases h⟩

/-- The write of a round, as the invariant sees it. -/
theorem store_stored {r : Round} {bytes : List Byte} {p : ReceiveProgress} {fl : Flash}
    (h : ∀ f, fl.table.files p.opened = some f →
      f.content.length ≤ capacity ∧ p.crc = crc32Of f.content) (f : File)
    (hf : (ModuleReceiveData.store capacity r bytes p fl).2.table.files p.opened = some f) :
    f.content.length ≤ capacity ∧
      (ModuleReceiveData.store capacity r bytes p fl).1 = crc32Of f.content := by
  unfold ModuleReceiveData.store at hf ⊢
  split at hf
  · next hnone => exact absurd (hnone.symm.trans hf) (by simp)
  · next g hg =>
      obtain ⟨hle, hcrc⟩ := h g hg
      simp only [FileTable.files_put, Function.update_self, Option.some.injEq] at hf
      subst hf
      constructor
      · simp only [List.length_append, List.length_take]
        omega
      · rw [crc32Of_append, ← hcrc]

/-- What the loop reads is at most a buffer. -/
theorem next_length {r : Round} {settings : ModuleCopySettings} {p : ReceiveProgress}
    {m : Module n β} {bs : List β} {pipe : Ring β}
    (h : ModuleReceiveData.next r settings p m = (some bs, pipe)) :
    p.received < settings.size ∧ bs.length ≤ fileCopyBufferSize := by
  unfold ModuleReceiveData.next at h
  split at h
  · next hgo =>
      refine ⟨hgo.1, ?_⟩
      unfold Ring.read at h
      split at h
      · split at h
        · cases h
        · cases h
          exact Nat.zero_le _
      · cases h
        exact (List.length_take_le _ _).trans (Nat.min_le_right _ _)
  · cases h

/-- **One round of the loop keeps the invariant**, the wrap-around of `received` included. -/
theorem round_inv (hcap : capacity + fileCopyBufferSize ≤ 2 ^ 32) {settings : ModuleCopySettings}
    {p : ReceiveProgress} (r : Round) (hcur : s.module.current = .Receiving settings p)
    (hi : CommitInv capacity s) :
    CommitInv capacity
      { module := ModuleReceiveData.round P capacity r settings p s.module
        count := (watch P (.data r) s).1
        runs := (watch P (.data r) s).2 } := by
  have hs := hi.streaming settings p hcur
  rcases hnext : ModuleReceiveData.next r settings p s.module with ⟨_ | bs, pipe⟩
  · simp only [ModuleReceiveData.round, watch, hcur, hnext]
    exact finish_inv hcap hs pipe
  · obtain ⟨hlt, hlen⟩ := next_length hnext
    cases bs with
    | nil =>
        have hraw : P.raw [] = [] := List.length_eq_zero_iff.mp
          (Nat.le_zero.mp (P.raw_length []))
        simp only [ModuleReceiveData.round, watch, hcur, hnext, hraw, List.length_nil,
          Nat.add_zero]
        refine ⟨Or.inl hs.forgotten, fun settings' p' h => ?_⟩
        cases h
        exact ⟨hs.forgotten, hs.stored, hs.counted⟩
    | cons b bs =>
        simp only [ModuleReceiveData.round, watch, hcur, hnext]
        refine ⟨Or.inl hs.forgotten, fun settings' p' h => ?_⟩
        cases h
        refine ⟨hs.forgotten, store_stored hs.stored, fun hsize => ?_⟩
        have hraw := (P.raw_length (b :: bs)).trans hlen
        have hlt : p.received.toNat < settings.size.toNat := hlt
        have hcount := hs.counted hsize
        rw [BitVec.toNat_add, BitVec.toNat_ofNat, ← hcount]
        have hsmall : (P.raw (b :: bs)).length < 2 ^ 32 := by
          have : fileCopyBufferSize = 256 := rfl
          omega
        rw [Nat.mod_eq_of_lt hsmall, Nat.mod_eq_of_lt (by omega)]

/-- **One step keeps the invariant.** -/
theorem step_inv (hcap : capacity + fileCopyBufferSize ≤ 2 ^ 32) (i : Input n β)
    (hi : CommitInv capacity s) (h : step P capacity s i = some s') : CommitInv capacity s' := by
  cases i with
  | receive bytes room =>
      cases h
      exact ⟨hi.pending, fun settings p hc =>
        let hs := hi.streaming settings p hc
        ⟨hs.forgotten, hs.stored, hs.counted⟩⟩
  | reply =>
      cases h
      exact ⟨hi.pending, fun settings p hc =>
        let hs := hi.streaming settings p hc
        ⟨hs.forgotten, hs.stored, hs.counted⟩⟩
  | tick t =>
      obtain ⟨m, htick, rfl⟩ := Option.map_eq_some_iff.mp h
      cases Module.tick_ran htick with
      | rebooted => exact hi.keep (kept_moved s.module .Rebooted (by simp)) _
      | waited hcur => exact hi.keep ⟨rfl, filesKept_refl _, fun _ _ => by simp [hcur]⟩ _
      | woken => exact hi.keep (kept_moved s.module .Servicer (by simp)) _
      | served hcur htask => exact hi.keep (task_kept hcur htask) _
      | measured i time value hcur =>
          have hk : Kept s.module (PendingReadings.done i time value s.module) :=
            ⟨rfl, filesKept_refl _, fun _ _ => by simp [PendingReadings.done, hcur]⟩
          exact hi.keep hk _
      | left => exact hi.keep (kept_moved s.module .Idle (by simp)) _
      | messaged => exact hi.keep (kept_moved s.module .Idle (by simp)) _
      | opened hcur hbegin =>
          unfold ModuleReceiveData.begin at hbegin
          split at hbegin
          · cases hbegin
            refine ⟨Or.inl rfl, fun settings' p' hc => ?_⟩
            cases hc
            refine ⟨rfl, fun f hf => ?_, fun _ => by simp [watch, hcur]⟩
            simp only [FileTable.files_put, Function.update_self, Option.some.injEq] at hf
            subst hf
            exact ⟨Nat.zero_le _, rfl⟩
          · cases hbegin
      | received r hcur => exact round_inv hcap r hcur hi
      | flashed => exact hi.keep (kept_moved s.module .Rebooted (by simp)) _

end Steps

/-! ## 4. What is committed -/

/-- What a commit must come from: the last run, kept, of exactly the announced length, whose file
    has the verified size and, byte for byte, the checksum that was sent. -/
structure Committable (s : Watched n β) (data : DataQuery) (address : BlockAddress) : Prop where
  last : ∃ run rest, s.runs = run :: rest ∧ run.kept = true ∧ run.file = address ∧
    run.received = run.announced.toNat ∧
    ∃ f, s.module.flash.table.files address = some f ∧ f.content = run.stored ∧
      f.content.length = data.size.toNat ∧ uint32Of data.checksum = some (crc32Of f.content)

/-- **What has been checked before a commit**: the bank, the checksum, and the size of the pending
    file. -/
theorem checked_of_commit {data : DataQuery} {m : Module n β} {bank : FirmwareBank}
    {address : BlockAddress} (h : verify data m = some (.commit bank address)) :
    FirmwareBank.ofNumber data.bank = some bank ∧ m.dataCopyStatus.pending = address ∧
      uint32Of data.checksum = some m.dataCopyStatus.checksum ∧
      FirmwareStorage.verify m.dataCopyStatus.pending data.size m.flash = true := by
  unfold verify at h
  split at h
  · cases h
  · next expected hsum =>
      split at h
      case isFalse => cases h
      case isTrue hmatch =>
      split at h
      case isFalse => cases h
      case isTrue hver =>
      split at h
      · next hbank =>
          cases h
          exact ⟨hbank, rfl, hmatch ▸ hsum, hver⟩
      · cases h

/-- **What is about to be committed is the last run's.** -/
theorem committable {capacity : Nat} {s : Watched n β} (hi : CommitInv capacity s)
    {data : DataQuery} {bank : FirmwareBank} {address : BlockAddress}
    (hverify : verify data s.module = some (.commit bank address)) :
    Committable s data address := by
  obtain ⟨-, haddr, hsum, hver⟩ := checked_of_commit hverify
  obtain ⟨f, hf, hlen⟩ := verify_iff.mp hver
  rcases hi.pending with hp | ⟨run, rest, hr, hkept, hfile, hrecv, hcrc, hcont⟩
  · -- nothing is pending, so there is no file
    exact absurd (hf.symm.trans (s.module.flash.table.invalid_missing _ hp)) (by simp)
  · have hstored := hcont f (by rw [hfile]; exact hf)
    refine ⟨run, rest, hr, hkept, hfile.trans haddr, hrecv, f, haddr ▸ hf, hstored, hlen, ?_⟩
    rw [hsum, hcrc, hstored]

section Banks

variable {P : ModuleProtocol β} {capacity : Nat} {s s' : Watched n β} {i : Input n β}

/-- A message that is read has the effect of its query. -/
theorem task_effect {e : Serving} {query : ModuleQueryMessage} {m m' : Module n β}
    (hne : m.child.incoming ≠ []) (hquery : P.decodeQuery m.child.incoming = some query)
    (h : ModuleServicer.task P e m = some m') : Effect e query m m' := by
  unfold ModuleServicer.task at h
  split at h
  · next hinc => exact absurd hinc hne
  · next b bs hinc =>
      rw [← hinc, hquery] at h
      obtain ⟨-, -, heffect⟩ := handle_cases h
      cases heffect with
      | updated htype hverify hflash => exact .updated htype hverify hflash
      | reclaimed htype hflash hcur => exact .reclaimed htype hflash hcur
      | none hflash hcur => exact .none hflash hcur

/-- Without a query the flash is left. -/
theorem task_unread {e : Serving} {m m' : Module n β} (hnot : ∀ query, m.child.incoming ≠ [] →
    P.decodeQuery m.child.incoming ≠ some query) (h : ModuleServicer.task P e m = some m') :
    m'.flash = m.flash := by
  unfold ModuleServicer.task at h
  split at h
  · cases h
    rfl
  · next b bs hinc =>
      split at h
      · cases h
        rfl
      · next query hquery => exact absurd (hinc ▸ hquery) (hnot query (by simp [hinc]))

/-- Storing what was received sets no bank. -/
theorem banks_round (r : Round) (settings : ModuleCopySettings) (p : ReceiveProgress)
    (m : Module n β) :
    (ModuleReceiveData.round P capacity r settings p m).flash.state = m.flash.state := by
  unfold ModuleReceiveData.round
  split
  · unfold ModuleReceiveData.finish
    dsimp only
    split
    · rfl
    · unfold FirmwareStorage.erase
      rw [eraseAllBlocks_apply]
  · rfl
  · unfold ModuleReceiveData.store
    dsimp only
    split <;> rfl

/-- **A step that sets a bank is one of the servicer's.** -/
theorem banks_kept (hs : step P capacity s i = some s')
    (hnot : ∀ e query, ¬ Serves P s i e query) :
    s'.module.flash.state.banks = s.module.flash.state.banks := by
  cases i with
  | receive bytes room =>
      cases hs
      rfl
  | reply =>
      cases hs
      rfl
  | tick t =>
      obtain ⟨m, htick, rfl⟩ := Option.map_eq_some_iff.mp hs
      cases Module.tick_ran htick with
      | @served e _ hcur htask =>
          rw [task_unread (fun query hne hquery => hnot e query ⟨rfl, hcur, hne, hquery⟩) htask]
      | opened hcur hbegin =>
          unfold ModuleReceiveData.begin at hbegin
          split at hbegin
          · cases hbegin
            rfl
          · cases hbegin
      | received r hcur => exact congrArg MinimumFlashState.banks (banks_round r _ _ _)
      | _ => rfl

/-- The query that a step serves, with its effect. -/
theorem serves_effect {e : Serving} {query : ModuleQueryMessage} (hserves : Serves P s i e query)
    (hs : step P capacity s i = some s') : Effect e query s.module s'.module := by
  obtain ⟨rfl, hcur, hne, hquery⟩ := hserves
  obtain ⟨m, htick, rfl⟩ := Option.map_eq_some_iff.mp hs
  cases Module.tick_ran htick with
  | served _ htask => exact task_effect hne hquery htask

end Banks

/-- **A module commits only what it has just received, whole and unharmed**: in any run, a step that
    commits leaves the flash that `update` makes for such a file, and no other step sets a bank. -/
theorem commit_safe (P : ModuleProtocol β) (capacity : Nat)
    (hcap : capacity + fileCopyBufferSize ≤ 2 ^ 32) (info : ModuleInfo n) (flash : Flash)
    {tr : List (Watched n β × Input n β)} {s : Watched n β}
    (h : Run (step P capacity) (boot info flash) tr s) {i : Input n β} {s' : Watched n β}
    (hs : step P capacity s i = some s') :
    (∀ e data, Commits P s i s' e data → ∃ bank address,
      FirmwareBank.ofNumber data.bank = some bank ∧ Committable s data address ∧
      s'.module.flash = (FirmwareStorage.update bank address e.saved s.module.flash).2) ∧
    ∀ bank, s'.module.flash.state.banks bank ≠ s.module.flash.state.banks bank →
      (∃ e data, Commits P s i s' e data ∧ FirmwareBank.ofNumber data.bank = some bank) ∨
        Forgets P s i s' bank := by
  have hi := h.inv (CommitInv capacity) (commitInv_boot info flash)
    (fun _ i _ hi hs => step_inv hcap i hi hs)
  constructor
  · intro e data hcommits
    obtain ⟨query, hserves, htype, rfl, hchanged⟩ := hcommits
    cases serves_effect hserves hs with
    | @updated bank address _ hverify hflash =>
        exact ⟨bank, address, (checked_of_commit hverify).1, committable hi hverify, hflash⟩
    | reclaimed hprepare => exact absurd (htype.symm.trans hprepare) (by simp)
    | none hflash hcur => exact absurd hchanged (not_or.mpr ⟨not_not.mpr hflash, hcur⟩)
  · intro bank hbank
    by_cases hserves : ∃ e query, Serves P s i e query
    · obtain ⟨e, query, hserves⟩ := hserves
      cases serves_effect hserves hs with
      | @updated set address htype hverify hflash =>
          refine Or.inl ⟨e, query.data, ⟨query, hserves, htype, rfl, Or.inl fun hsame => ?_⟩, ?_⟩
          · exact hbank (by rw [hsame])
          · rw [hflash, update_flash] at hbank
            rw [(checked_of_commit hverify).1]
            by_contra hne
            exact hbank (Function.update_of_ne (fun h => hne (congrArg some h.symm)) _ _)
      | reclaimed htype hflash =>
          refine Or.inr ⟨⟨e, query, hserves, htype⟩, ?_⟩
          rw [hflash] at hbank ⊢
          simp only [Flash.reclaim] at hbank ⊢
          split at hbank
          · next hsenseless => exact if_pos hsenseless
          · exact absurd rfl hbank
      | none hflash => exact absurd (by rw [hflash]) hbank
    · refine absurd (congrFun (banks_kept hs fun e query h => hserves ⟨e, query, h⟩) bank) hbank

/-- A module without sensors. -/
def bareInfo : ModuleInfo 0 where
  type := 1
  minimumNumberOfReadings := 1
  name := []
  module := []
  sensors := Fin.elim0
  uptime := 0
  git := []
  build := []
  compiled := 0

/-- The checksum of the bytes 1, 2 and 3, as it is sent. -/
def transferSum : Text := [0xe2, 0x7f, 0x43, 0xaa]

/-- The query that verifies it. -/
def verification : ModuleQueryMessage where
  type := .QUERY_DATA_VERIFY
  data := { size := 3, bank := 1, checksum := transferSum }

/-- A transfer of three bytes, and its verification. -/
def transfer : List (Input 0 Frame) :=
  [.receive [.query { type := .QUERY_DATA_PREPARE, data := { size := 3, bank := 1 } }] 256,
   .tick (.idle 0), .tick (.serve {}), .tick (.open { block := 7, position := 0 }),
   .receive [.byte 1, .byte 2, .byte 3] 256, .tick (.data {}), .tick (.data {}),
   .receive [.query verification] 256, .tick (.idle 0)]

/-- At its end the servicer commits the file of the transfer. -/
theorem commit_safe_transfer : ∃ tr s s' address,
    Run (step frames 1000) (boot bareInfo {}) tr s ∧
    step frames 1000 s (.tick (.serve {})) = some s' ∧
    s'.module.flash = (FirmwareStorage.update .Pending address true s.module.flash).2 ∧
    Committable s verification.data address := by
  have hexec : (exec (step frames 1000) (boot bareInfo {}) transfer).map (fun s =>
      (s.module.current, s.module.child.incoming,
        (step frames 1000 s (.tick (.serve {}))).map (·.module.current))) =
      some (ModuleState.Servicer, [Frame.query verification], some .FirmwareSelfFlash) := by
    decide +kernel
  obtain ⟨tr, s, hrun, hs⟩ := run_of_exec_map hexec
  simp only [Prod.mk.injEq] at hs
  obtain ⟨hcur, hinc, hflashes⟩ := hs
  obtain ⟨s', hstep, hself⟩ := Option.map_eq_some_iff.mp hflashes
  obtain ⟨bank, address, hbank, hsafe, hflash⟩ :=
    (commit_safe frames 1000 (by decide) bareInfo {} hrun hstep).1 {} verification.data
      ⟨verification, ⟨rfl, hcur, by simp [hinc], by rw [hinc]; rfl⟩, rfl, rfl, Or.inr hself⟩
  obtain rfl : FirmwareBank.Pending = bank := Option.some.inj hbank
  exact ⟨tr, s, s', address, hrun, hstep, hflash, hsafe⟩

end FieldKit.Commit

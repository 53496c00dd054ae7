/-
  File:      FieldKit/Files/TransmitFile.lean
  Subject:   `TransmitFileTask` (transmit_file.cpp): does the saved cursor stay behind what the
             server has been sent?

  One call of `task()` while connected has two halves, and they are two steps of the machine: it
  reads the response and copies (`poll`), and then it looks at the status and at the connection
  (`settle`). The response, the socket and the file system are the environment's.

  * `saved_within_iff` -- in a run, every saved position is within what the connection's socket
    took exactly if no 200 is acted on while the copier holds bytes;
  * `saved_ahead` -- a 200 that comes early.
-/
import FieldKit.Lib.Run
import FieldKit.Files.FileCopy
import FieldKit.Files.FileSystem
import FieldKit.Http.ResponseParser

namespace FieldKit.Transmission

open Lib FileCursorManager

/-! ## 1. The task -/

/-- `WifiTransmitBusyWaitMax`. -/
def busyWaitMax : Uptime := 10 * seconds

/-- `WifiTransmitFileMaximumTries`. -/
def maximumTries : BitVec 8 := 3

/-- `TransmitFileTask`. -/
structure TransmitFileTask where
  parser : HttpResponseParser := {}
  copyFinishedAt : Uptime := 0
  connected : Bool := false
  tries : BitVec 8 := 0
  deriving DecidableEq, Repr

/-- Where the task stands: finished or not begun, to be called, or halfway through a call. -/
inductive Stage where
  | stopped
  | waiting
  | polled
  deriving DecidableEq, Repr

/-- The task, the copy operation it shares, the card, and what is to be remembered of a connection:
    the cursor it was opened at and the bytes of the file that its socket has taken. -/
structure Upload where
  task : TransmitFileTask := {}
  fileCopy : FileCopyOperation := {}
  disk : Disk := {}
  cursor : BitVec 64 := 0
  sent : List Byte := []
  stage : Stage := .stopped

/-- What a call meets that is not connected: is the cursor readable, does the file open and seek,
    is the server reached, and can the beginning of the body be encoded? -/
structure Connecting where
  readable : Bool := true
  opened : Bool := true
  seeks : Bool := true
  reached : Bool := true
  encoded : Bool := true
  deriving DecidableEq, Repr

/-- What the first half of a call meets. -/
structure Polling where
  arrived : List Byte
  turns : List Turn
  deriving DecidableEq, Repr

/-- What the second half of a call meets: two readings of the clock, the connection, and the save
    of the cursor. -/
structure Settling where
  finishedAt : Uptime
  now : Uptime
  connected : Bool
  saving : Saving := {}

/-- What follows from the result of a call. -/
def Upload.after (r : TaskEval) (s : Upload) : Upload :=
  { s with stage := if r.isRunning then .waiting else .stopped }

/-- `enqueued()`. -/
def enqueued (s : Upload) : Upload :=
  { s with
    task := { s.task with tries := 0, connected := false, copyFinishedAt := 0 }
    stage := .waiting }

/-- `openFile()`, with `FileSystem::beginFileCopy`. -/
def openFile (f : FileNumber) (e : Connecting) (s : Upload) : Bool × Upload :=
  let cursor := if e.readable then position f s.disk else 0
  if e.opened then
    let (prepared, fileCopy) :=
      s.fileCopy.prepare (cursor.setWidth 32) 0 (s.disk.content f).length e.seeks
    (prepared && fileCopy.remaining != 0 && !decide (fileCopy.size < fileCopy.tell),
      { s with fileCopy, cursor, sent := [] })
  else (false, s)

/-- `openConnection()`, with `writeBeginning`. -/
def openConnection (e : Connecting) (s : Upload) : TaskEval × Upload :=
  let task := { s.task with copyFinishedAt := 0, parser := s.task.parser.begin }
  if e.reached && e.encoded then (.idle, { s with task := { task with connected := true } })
  else (.error, { s with task })

/-- `task()` while not connected. -/
def connect (f : FileNumber) (e : Connecting) (s : Upload) : TaskEval × Upload :=
  match openFile f e s with
  | (false, s) => (.done, s)
  | (true, s) => openConnection e s

/-- `task()` while connected, up to the end of the copying. -/
def poll (f : FileNumber) (e : Polling) (s : Upload) : Upload :=
  let s := { s with
    task.parser := e.arrived.foldl HttpResponseParser.write s.task.parser
    stage := .polled }
  if s.fileCopy.isFinished then s
  else
    let (fileCopy, sent) := s.fileCopy.copy (s.disk.content f) e.turns s.sent
    { s with fileCopy, sent }

/-- The position that `task()` saves, if it does: `fileCopy.tell()`, once there is a 200. -/
def saving (s : Upload) : Option (BitVec 64) :=
  if s.task.parser.statusCode = 200 then some (s.fileCopy.tell.setWidth 64) else none

/-- The rest of `task()` while connected. -/
def settle (f : FileNumber) (e : Settling) (s : Upload) : TaskEval × Upload :=
  let finishedAt :=
    if s.fileCopy.isFinished ∧ s.task.copyFinishedAt = 0 then e.finishedAt
    else s.task.copyFinishedAt
  let stopped := s.fileCopy.isFinished && decide (busyWaitMax < e.now - finishedAt)
  let s := { s with task.copyFinishedAt := finishedAt }
  if e.connected = false ∨ stopped = true ∨ s.task.parser.statusCode ≠ 0 then
    match saving s with
    | some position => (.done, { s with disk := (save f position e.saving s.disk).2 })
    | none =>
      let tries := s.task.tries + 1
      if maximumTries ≤ tries then (.error, { s with task.tries := tries })
      else (.busy,
        { s with task := { s.task with tries, connected := false, copyFinishedAt := 0 } })
  else (.idle, s)

/-- `task()`. -/
def task (f : FileNumber) (c : Connecting) (p : Polling) (t : Settling) (s : Upload) :
    TaskEval × Upload :=
  if s.task.connected then settle f t (poll f p s) else connect f c s

/-! ## 2. The machine -/

/-- The task is enqueued, or called. -/
inductive Input where
  | enqueued
  | connect (e : Connecting)
  | poll (e : Polling)
  | settle (e : Settling)

/-- A task that has never been enqueued, over any card. -/
def start (d : Disk) : Upload := { disk := d }

/-- The machine. -/
def step (f : FileNumber) (s : Upload) : Input → Option Upload
  | .enqueued => some (enqueued s)
  | .connect e =>
    if s.stage = .waiting ∧ s.task.connected = false then
      some ((connect f e s).2.after (connect f e s).1)
    else none
  | .poll e =>
    if s.stage = .waiting ∧ s.task.connected = true then some (poll f e s)
    else none
  | .settle e =>
    if s.stage = .polled then some ((settle f e s).2.after (settle f e s).1) else none

/-- **What the second half of a call can do**: save the position and be done, give up or try
    again, or go on. Beside the card, it changes the task alone. -/
theorem settle_cases (f : FileNumber) (e : Settling) (s : Upload) :
    (∃ p task, saving s = some p ∧
      settle f e s = (.done, { s with task, disk := (save f p e.saving s.disk).2 })) ∨
    (∃ task, saving s = none ∧ settle f e s = (.error, { s with task })) ∨
    (∃ task, saving s = none ∧ task.connected = false ∧
      (task.tries = s.task.tries + 1 ∧ ¬ maximumTries ≤ task.tries) ∧
      settle f e s = (.busy, { s with task })) ∨
    (∃ task, saving s = none ∧ task.connected = s.task.connected ∧
      (task.tries = s.task.tries ∧ task.parser = s.task.parser) ∧
      settle f e s = (.idle, { s with task })) := by
  unfold settle
  dsimp only
  generalize (if s.fileCopy.isFinished = true ∧ s.task.copyFinishedAt = 0 then e.finishedAt
    else s.task.copyFinishedAt) = finishedAt
  split
  · split
    · next p hp => exact Or.inl ⟨p, _, hp, rfl⟩
    · next hp =>
        split
        · exact Or.inr (Or.inl ⟨_, hp, rfl⟩)
        · next htries => exact Or.inr (Or.inr (Or.inl ⟨_, hp, rfl, ⟨rfl, htries⟩, rfl⟩))
  · next hopen =>
      have hstatus : s.task.parser.statusCode = 0 := by
        by_contra h
        exact hopen (Or.inr (Or.inr h))
      exact Or.inr (Or.inr (Or.inr
        ⟨{ s.task with copyFinishedAt := finishedAt }, by simp [saving, hstatus], rfl, ⟨rfl, rfl⟩,
          rfl⟩))

/-! ## 3. The saved position -/

/-- **The position that is saved is within the cursor the connection started from and the bytes of
    the file that its socket took.** -/
def Within (s : Upload) : Input → Prop
  | .settle _ => ∀ p, saving s = some p → p.toNat ≤ s.cursor.toNat + s.sent.length
  | _ => True

/-- A 200 is acted on only when the copier holds no bytes, or when the position in the file has
    gone beyond 32 bits. -/
def Drained (s : Upload) : Input → Prop
  | .settle _ => s.task.parser.statusCode = 200 → s.fileCopy.streamCopier.buffer = [] ∨
      2 ^ 32 ≤ s.cursor.toNat + s.sent.length + s.fileCopy.streamCopier.buffer.length
  | _ => True

/-- The invariant: as long as a connection is used, its copy began at the cursor. -/
structure UploadInv (f : FileNumber) (s : Upload) : Prop where
  polled : s.stage = .polled → s.task.connected = true
  copying : s.stage ≠ .stopped → s.task.connected = true →
    CopyInv (s.disk.content f) (s.cursor.setWidth 32).toNat s.fileCopy s.sent

/-- A copy that has something to do begins at the offset. -/
theorem prepare_copyInv {o o' : FileCopyOperation} {offset : BitVec 32} {seeks : Bool}
    (content : List Byte) (h : o.prepare offset 0 content.length seeks = (true, o'))
    (hrem : o'.remaining ≠ 0) : CopyInv content offset.toNat o' [] := by
  cases seeks with
  | false => simp [FileCopyOperation.prepare, FileReader.open] at h
  | true =>
      simp only [FileCopyOperation.prepare, FileReader.open, if_true, true_or,
        Prod.mk.injEq, true_and] at h
      subst h
      have hsize : (BitVec.ofNat 64 content.length - offset.setWidth 64).setWidth 32 + offset =
          BitVec.ofNat 32 content.length := by bv_omega
      have hmin : min offset.toNat content.length = offset.toNat := by
        by_contra hne
        refine hrem ?_
        have hle : min offset.toNat content.length = content.length := by omega
        simp [FileCopyOperation.remaining, FileCopyOperation.size, FileCopyOperation.tell,
          FileReader.size, FileReader.tell, hsize, hle]
      refine ⟨?_, ?_, Nat.zero_le _⟩
      · simp [hmin]
      · simp [hmin]

section Invariant

variable {f : FileNumber} {s s' : Upload}

/-- A file that has been opened is copied from the cursor. -/
theorem openFile_copyInv {e : Connecting} (h : openFile f e s = (true, s')) :
    CopyInv (s'.disk.content f) (s'.cursor.setWidth 32).toNat s'.fileCopy s'.sent := by
  unfold openFile at h
  dsimp only at h
  split at h
  · generalize hp : s.fileCopy.prepare _ _ _ _ = res at h
    obtain ⟨prepared, fileCopy⟩ := res
    simp only [Prod.mk.injEq, Bool.and_eq_true, bne_iff_ne] at h
    obtain ⟨⟨⟨rfl, hrem⟩, -⟩, rfl⟩ := h
    exact prepare_copyInv _ hp hrem
  · cases h

/-- **One step keeps the invariant.** -/
theorem step_inv {i : Input} (hi : UploadInv f s) (h : step f s i = some s') : UploadInv f s' := by
  cases i with
  | enqueued =>
      cases h
      exact ⟨fun h => (by cases h), fun _ h => (by cases h)⟩
  | connect e =>
      simp only [step] at h
      split at h
      · next hs =>
          cases h
          unfold connect
          generalize ho : openFile f e s = res
          obtain ⟨opened, s1⟩ := res
          cases opened with
          | false => exact ⟨fun h => (by cases h), fun h => absurd rfl h⟩
          | true =>
              have hcopy := openFile_copyInv ho
              simp only [openConnection]
              split
              · exact ⟨fun _ => rfl, fun _ _ => hcopy⟩
              · exact ⟨fun h => (by cases h), fun h => absurd rfl h⟩
      · cases h
  | poll e =>
      simp only [step] at h
      split at h
      · next hs =>
          cases h
          have hcopy := hi.copying (by simp [hs.1]) hs.2
          unfold poll
          dsimp only
          split
          · exact ⟨fun _ => hs.2, fun _ _ => hcopy⟩
          · exact ⟨fun _ => hs.2, fun _ _ => copy_inv e.turns hcopy⟩
      · cases h
  | settle e =>
      simp only [step] at h
      split at h
      · next hs =>
          cases h
          have hcopy := hi.copying (by simp [hs]) (hi.polled hs)
          rcases settle_cases f e s with ⟨p, task, -, h⟩ | ⟨task, -, h⟩ | ⟨task, -, hconn, -, h⟩ |
            ⟨task, -, -, -, h⟩
          · rw [h]
            exact ⟨fun h => (by cases h), fun h => absurd rfl h⟩
          · rw [h]
            exact ⟨fun h => (by cases h), fun h => absurd rfl h⟩
          · rw [h]
            exact ⟨fun h => (by cases h), fun _ h => absurd (hconn.symm.trans h) (by decide)⟩
          · rw [h]
            exact ⟨fun h => (by cases h), fun _ _ => hcopy⟩
      · cases h

/-- **A position is within what was sent exactly if nothing is held back.** The reader's own
    position has 32 bits; beyond that it falls behind what was sent. -/
theorem within_iff_drained (hi : UploadInv f s) (i : Input) (h : step f s i = some s') :
    Within s i ↔ Drained s i := by
  cases i with
  | settle e =>
      simp only [step] at h
      split at h
      · next hs =>
          have hcopy := hi.copying (by simp [hs]) (hi.polled hs)
          have hpos := hcopy.position
          have hheld := hcopy.held
          simp only [FileCopyOperation.bufferSize, BitVec.toNat_setWidth] at hpos hheld
          have htell : (s.fileCopy.tell.setWidth 64).toNat = s.fileCopy.reader.position % 2 ^ 32 := by
            simp only [FileCopyOperation.tell, FileReader.tell, BitVec.toNat_setWidth,
              BitVec.toNat_ofNat]
            omega
          by_cases h200 : s.task.parser.statusCode = 200
          · simp only [Within, Drained, saving, h200, if_true, Option.some.injEq, forall_eq',
              forall_const, htell]
            rw [← List.length_eq_zero_iff]
            omega
          · have hnone : saving s = none := if_neg h200
            simp only [Within, Drained, hnone]
            exact ⟨fun _ h => absurd h h200, fun _ p hp => nomatch hp⟩
      · cases h
  | enqueued => exact Iff.rfl
  | connect e => exact Iff.rfl
  | poll e => exact Iff.rfl

end Invariant

/-- **Every saved position is within what was sent exactly if every 200 finds the copier drained.**
    The file, the card and the order of calls are arbitrary. -/
theorem saved_within_iff {f : FileNumber} {d : Disk} {tr : List (Upload × Input)} {s : Upload}
    (h : Run (step f) (start d) tr s) : Meets Within tr ↔ Meets Drained tr :=
  h.meets_congr Within Drained (UploadInv f) ⟨fun h => (by cases h), fun h => absurd rfl h⟩
    (fun _ _ _ hi hs => step_inv hi hs) fun _ i _ hi hs => within_iff_drained hi i hs

/-- A card with three bytes of data. -/
def threeBytes : Disk where
  content f := if f = .Data then [1, 2, 3] else []

/-- "HTTP/1.1 200 ". -/
def ok200 : List Byte :=
  ['H', 'T', 'T', 'P', '/', '1', '.', '1', ' ', '2', '0', '0', ' '].map ascii

/-- All three bytes are read, the socket takes one of them, and a 200 arrives. -/
def early : List Input :=
  [.enqueued, .connect {}, .poll ⟨[], [⟨3, true, 1⟩, ⟨0, true, 0⟩]⟩,
   .settle ⟨5, 5, true, {}⟩, .poll ⟨ok200, [⟨0, true, 0⟩]⟩]

/-- The cursor is saved behind all three. -/
theorem saved_ahead : ¬ ∀ (f : FileNumber) (d : Disk) (tr : List (Upload × Input)) (s : Upload),
    Run (step f) (start d) tr s → Meets Within tr := by
  intro hall
  have hexec : (exec (step .Data) (start threeBytes) early).map (fun s =>
      (s.stage, saving s, s.cursor, s.sent)) = some (.polled, some 3, 0, [1]) := by decide +kernel
  obtain ⟨tr, s, hrun, hs⟩ := run_of_exec_map hexec
  simp only [Prod.mk.injEq] at hs
  obtain ⟨hstage, hsaving, hcursor, hsent⟩ := hs
  have hstep := Run.step tr s (.settle ⟨6, 6, true, {}⟩) _ hrun (by simp [step, hstage]; rfl)
  have hwithin := ((meets_concat _ _ _ _).mp (hall _ _ _ _ hstep)).2 3 hsaving
  rw [hcursor, hsent] at hwithin
  exact absurd hwithin (by decide)

/-- A 200 that comes when everything has been taken: the cursor is saved behind the file. -/
theorem saved_within_iff_complete : ∃ tr s, Run (step .Data) (start threeBytes) tr s ∧
    position .Data s.disk = 3 ∧ (Meets Within tr ↔ Meets Drained tr) := by
  have hexec : (exec (step .Data) (start threeBytes)
      [.enqueued, .connect {}, .poll ⟨[], [⟨3, true, 3⟩, ⟨0, true, 0⟩]⟩,
       .settle ⟨5, 5, true, {}⟩, .poll ⟨ok200, []⟩, .settle ⟨6, 6, true, {}⟩]).map
      (fun s => position .Data s.disk) = some 3 := by decide +kernel
  obtain ⟨tr, s, hrun, hs⟩ := run_of_exec_map hexec
  exact ⟨tr, s, hrun, hs, saved_within_iff hrun⟩

end FieldKit.Transmission

/-
  File:      FieldKit/Files/LogRotation.lean
  Subject:   The two log files (file_system.cpp): which of them does a swap erase?

  A record is written by `debug_write_log` and numbered as it comes into a file, whole or not. A
  whole one brings `swapLogsIfNecessary`. Which file is written is not stored: the running code has
  it in `log_`, and `openSystemFiles` finds it again from `in_final_block()` of the first file.

  * `onto_swapLogsIfNecessary`, `onto_openSystemFiles` -- what both do is what they do to the card;
  * `logs_iff` -- in a run, the file written stays the newer one exactly if the system files are
    never opened again while the first file is full, is written and the second one holds records;
  * `keeps_newest` -- then no swap erases a record newer than one it keeps;
  * `old_log_kept` -- a reboot between the record that fills the first file and its swap.
-/
import FieldKit.Lib.Run
import FieldKit.Files.FileSystem

namespace FieldKit.LogRotation

open Lib

/-! ## 1. The logs -/

/-- What came into a log file of a record, numbered in the order of writing. -/
structure LogRecord where
  number : Nat
  bytes : List Byte
  deriving DecidableEq, Repr

/-- `in_final_block()`, which is phylum's: an append leaves a file in its final block, and an erased
    file is not in it. -/
structure FinalBlock where
  holds : LogFile → List LogRecord → Bool
  append : ∀ l xs r, holds l xs = true → holds l (xs ++ [r]) = true
  erased : ∀ l, holds l [] = false

/-- The two log files, and `log_`. `swapping` stands between the write of a whole record and its
    swap. -/
structure Logs where
  content : LogFile → List LogRecord := fun _ => []
  log : LogFile := .LogsA
  next : Nat := 0
  swapping : Bool := false

namespace Logs

/-- A record at the end of the file that is written, of which something came in. -/
def append (bytes : List Byte) (s : Logs) : Logs :=
  { s with
    content := Function.update s.content s.log (s.content s.log ++ [⟨s.next, bytes⟩])
    next := s.next + 1 }

/-- The files that `gone` says are erased. -/
def erase (gone : FileNumber → Bool) (s : Logs) : Logs :=
  { s with content := fun l => if gone l.number then [] else s.content l }

/-- The bytes of the records, on a card. -/
def onto (s : Logs) (d : Disk) : Disk where
  content
    | .LogsA => (s.content .LogsA).flatMap (·.bytes)
    | .LogsB => (s.content .LogsB).flatMap (·.bytes)
    | f => d.content f
  log := s.log

end Logs

/-- What `debug_write_log` meets: the message is encoded or not, the file is open or not, and takes
    so much of it. -/
structure LogWrite where
  trace : Bool := false
  peripheralsEnabled : Bool := true
  encoded : Option (List Byte)
  isOpen : Bool := true
  accepted : Nat
  deriving DecidableEq, Repr

/-- `debug_write_log`, up to the swap. -/
def debugWriteLog (w : LogWrite) (s : Logs) : Logs :=
  if w.trace then s
  else if !w.peripheralsEnabled then s
  else
    match w.encoded with
    | none => s
    | some buffer =>
      if w.isOpen then
        let written := buffer.take w.accepted
        let s := if written = [] then s else s.append written
        if written.length ≠ buffer.length then s else { s with swapping := true }
      else s

section Final

variable (final : FinalBlock)

/-- `Files::swapLogsIfNecessary()`. -/
def swapLogsIfNecessary (erased opened : Bool) (s : Logs) : Logs :=
  if final.holds s.log (s.content s.log) ∧ erased then
    let s' := s.erase fun f => decide (f = s.log.other.number)
    if opened then { s' with log := s.log.other } else s'
  else s

/-- `FileSystem::openSystemFiles()`, behind erases of its own. -/
def openSystemFiles (gone : FileNumber → Bool) (o : Opening) (s : Logs) : Logs :=
  let s := s.erase fun f => gone f || o.truncates f
  if o.succeeds then
    { s with log := if final.holds .LogsA (s.content .LogsA) then .LogsB else .LogsA }
  else s

/-- What can happen to the logs. A reboot comes at any point, also where a swap would come. -/
inductive Input where
  | debugWriteLog (w : LogWrite)
  | swapLogsIfNecessary (erased opened : Bool)
  | erase (number : FileNumber) (erased : Bool) (opening : Opening)
  | eraseAll (erased : FileNumber → Bool) (opening : Opening)
  | reboot (formatted : Bool) (opening : Opening)

/-- The machine. A file system that cannot be set up is a failed assertion. -/
def step (s : Logs) : Input → Option Logs
  | .debugWriteLog w => if s.swapping then none else some (debugWriteLog w s)
  | .swapLogsIfNecessary erased opened =>
    if s.swapping then some { swapLogsIfNecessary final erased opened s with swapping := false }
    else none
  | .erase number erased opening =>
    if s.swapping then none
    else some (openSystemFiles final (fun f => erased && decide (f = number)) opening s)
  | .eraseAll erased opening =>
    if s.swapping then none else some (openSystemFiles final erased opening s)
  | .reboot formatted opening =>
    if opening.succeeds then
      some (openSystemFiles final (fun _ => formatted) opening { s with swapping := false })
    else none

end Final

section Card

variable (final : FinalBlock) (s : Logs) (d : Disk)

/-- Two cards that hold the same. -/
theorem disk_ext {d d' : Disk} (hcontent : ∀ f, d.content f = d'.content f) (hlog : d.log = d'.log) :
    d = d' := by
  cases d
  cases d'
  dsimp only at hcontent hlog
  rw [funext hcontent, hlog]

/-- An append of the logs is one of the card. -/
theorem onto_append (bytes : List Byte) :
    (s.append bytes).onto d = (s.onto d).append s.log.number bytes := by
  refine disk_ext (fun f => ?_) rfl
  cases hlog : s.log <;> cases f <;> simp [Logs.onto, Logs.append, Disk.append, LogFile.number, hlog]

/-- So is an erase. -/
theorem onto_erase (gone : FileNumber → Bool) :
    (s.erase gone).onto (d.erase gone) = (s.onto d).erase gone := by
  refine disk_ext (fun f => ?_) rfl
  cases hgone : gone f <;> cases f <;>
    simp [Logs.onto, Logs.erase, Disk.erase, LogFile.number, hgone]

/-- Two erases are one. -/
theorem erase_erase (gone gone' : FileNumber → Bool) :
    (s.erase gone).erase gone' = s.erase fun f => gone f || gone' f := by
  unfold Logs.erase
  congr 1
  funext l
  cases hgone : gone l.number <;> cases hgone' : gone' l.number <;> simp [hgone, hgone']

/-- **A swap of the logs is the swap of the card.** -/
theorem onto_swapLogsIfNecessary (erased opened : Bool) :
    (swapLogsIfNecessary final erased opened s).onto d =
      Files.swapLogsIfNecessary ⟨final.holds s.log (s.content s.log), erased, opened⟩
        (s.onto d) := by
  have herase : (s.onto d).erase (fun f => decide (f = s.log.other.number)) =
      (s.erase fun f => decide (f = s.log.other.number)).onto d := by
    refine disk_ext (fun f => ?_) rfl
    cases hlog : s.log <;> cases f <;>
      simp [Logs.onto, Logs.erase, Disk.erase, LogFile.number, LogFile.other]
  have hlog : (s.onto d).log = s.log := rfl
  unfold swapLogsIfNecessary Files.swapLogsIfNecessary
  rw [hlog, herase]
  dsimp only
  split
  · split <;> rfl
  · rfl

/-- **The system files of the logs are opened as those of the card.** -/
theorem onto_openSystemFiles (gone : FileNumber → Bool) (o : Opening) :
    (openSystemFiles final gone o s).onto ((d.erase gone).erase o.truncates) =
      (FileSystem.openSystemFiles
        { o with
          finalBlockA :=
            final.holds .LogsA ((s.erase fun f => gone f || o.truncates f).content .LogsA) }
        ((s.onto d).erase gone)).2 := by
  have herase : (s.erase fun f => gone f || o.truncates f).onto ((d.erase gone).erase o.truncates) =
      ((s.onto d).erase gone).erase o.truncates := by
    rw [← erase_erase, onto_erase, onto_erase]
  unfold openSystemFiles FileSystem.openSystemFiles
  dsimp only
  have htruncates (b : Bool) : Opening.truncates { o with finalBlockA := b } = o.truncates := rfl
  have hsucceeds (b : Bool) : Opening.succeeds { o with finalBlockA := b } = o.succeeds := rfl
  generalize final.holds .LogsA _ = b
  rw [htruncates b, hsucceeds b, ← herase]
  split <;> rfl

end Card

/-! ## 2. Which file is the newer one -/

/-- All of the first file was written before all of the second. -/
def Older (xs ys : List LogRecord) : Prop := ∀ x ∈ xs, ∀ y ∈ ys, x.number < y.number

@[simp] theorem older_nil_left (ys : List LogRecord) : Older [] ys :=
  fun _ hx => nomatch hx

@[simp] theorem older_nil_right (xs : List LogRecord) : Older xs [] :=
  fun _ _ _ hy => nomatch hy

/-- Of two files that hold something, one only is the older. -/
theorem not_older_of_older {xs ys : List LogRecord} (h : Older xs ys) (hx : xs ≠ [])
    (hy : ys ≠ []) : ¬ Older ys xs := by
  obtain ⟨x, hx⟩ := List.exists_mem_of_ne_nil xs hx
  obtain ⟨y, hy⟩ := List.exists_mem_of_ne_nil ys hy
  intro h'
  have hlt := h x hx y hy
  have hgt := h' y hy x hx
  omega

/-- **The file that is written is the newer one.** -/
def Ordered (s : Logs) : Prop := Older (s.content s.log.other) (s.content s.log)

/-- **A swap erases only records older than all it keeps.** -/
def Keeps (final : FinalBlock) (s : Logs) : Input → Prop
  | .swapLogsIfNecessary erased _ =>
    final.holds s.log (s.content s.log) = true → erased = true → Ordered s
  | _ => True

/-- The files an input erases before it finds `log_` again. -/
def reopens : Input → Option (FileNumber → Bool)
  | .erase number erased opening =>
    if opening.succeeds then some fun f => (erased && decide (f = number)) || opening.truncates f
    else none
  | .eraseAll erased opening =>
    if opening.succeeds then some fun f => erased f || opening.truncates f else none
  | .reboot formatted opening =>
    if opening.succeeds then some fun f => formatted || opening.truncates f else none
  | _ => none

/-- Behind these erases the first file is not both written and full while the second one holds
    records. -/
def DrainedBy (final : FinalBlock) (gone : FileNumber → Bool) (s : Logs) : Prop :=
  s.log = .LogsA → final.holds .LogsA ((s.erase gone).content .LogsA) = true →
    (s.erase gone).content .LogsB = []

instance (final : FinalBlock) (gone : FileNumber → Bool) (s : Logs) :
    Decidable (DrainedBy final gone s) :=
  inferInstanceAs (Decidable (_ → _ → _))

/-- **So it is wherever the system files are opened again.** -/
def Drained (final : FinalBlock) (s : Logs) (i : Input) : Prop :=
  ∀ gone ∈ reopens i, DrainedBy final gone s

instance (final : FinalBlock) (s : Logs) (i : Input) : Decidable (Drained final s i) :=
  inferInstanceAs (Decidable (∀ gone ∈ reopens i, DrainedBy final gone s))

/-- The invariant: while the second file is written, the first one is full or empty. -/
structure LogInv (final : FinalBlock) (s : Logs) : Prop where
  numbered : ∀ l, ∀ r ∈ s.content l, r.number < s.next
  ordered : Ordered s
  full : s.log = .LogsB →
    final.holds .LogsA (s.content .LogsA) = true ∨ s.content .LogsA = []

/-! ## 3. What the operations keep -/

section Operations

variable {final : FinalBlock} {s : Logs}

/-- An erase leaves a file as it is, or empty. -/
theorem content_erase (gone : FileNumber → Bool) (s : Logs) (l : LogFile) :
    (s.erase gone).content l = s.content l ∨ (s.erase gone).content l = [] := by
  dsimp only [Logs.erase]
  split
  · exact Or.inr rfl
  · exact Or.inl rfl

theorem Older.erase {l m : LogFile} (gone : FileNumber → Bool)
    (h : Older (s.content l) (s.content m)) :
    Older ((s.erase gone).content l) ((s.erase gone).content m) := by
  rcases content_erase gone s l with hl | hl <;> rcases content_erase gone s m with hm | hm <;>
    simp [hl, hm, h]

/-- Erasing keeps the invariant, whatever goes. -/
theorem LogInv.erase (gone : FileNumber → Bool) (h : LogInv final s) :
    LogInv final (s.erase gone) where
  numbered l r hr := by
    rcases content_erase gone s l with hl | hl
    · rw [hl] at hr
      exact h.numbered l r hr
    · rw [hl] at hr
      cases hr
  ordered := h.ordered.erase gone
  full hlog := by
    rcases content_erase gone s .LogsA with hA | hA
    · rw [hA]
      exact h.full hlog
    · exact Or.inr hA

/-- So does what comes in at the end of the file that is written: it is the newest record. -/
theorem LogInv.append (bytes : List Byte) (h : LogInv final s) : LogInv final (s.append bytes) := by
  have hother : s.log.other ≠ s.log := by cases s.log <;> decide
  have hlog : (s.append bytes).content s.log = s.content s.log ++ [⟨s.next, bytes⟩] :=
    Function.update_self ..
  have hkept : (s.append bytes).content s.log.other = s.content s.log.other :=
    Function.update_of_ne hother ..
  refine ⟨fun l r hr => ?_, ?_, fun hB => ?_⟩
  · have hnext : (s.append bytes).next = s.next + 1 := rfl
    by_cases hl : l = s.log
    · subst hl
      rw [hlog, List.mem_append, List.mem_singleton] at hr
      rcases hr with hr | rfl
      · have hlt := h.numbered _ r hr
        omega
      · exact Nat.lt_succ_self _
    · have hl' : l = s.log.other := by
        revert hl
        cases s.log <;> cases l <;> decide
      subst hl'
      rw [hkept] at hr
      have hlt := h.numbered _ r hr
      omega
  · intro x hx y hy
    have hx : x ∈ s.content s.log.other := hkept ▸ hx
    have hy : y ∈ s.content s.log ++ [⟨s.next, bytes⟩] := hlog ▸ hy
    rcases List.mem_append.mp hy with hy | hy
    · exact h.ordered x hx y hy
    · rw [List.mem_singleton.mp hy]
      exact h.numbered _ x hx
  · have hB : s.log = .LogsB := hB
    have hA := hkept
    rw [hB] at hA
    change (s.append bytes).content .LogsA = s.content .LogsA at hA
    rw [hA]
    exact h.full hB

/-- `swapping` does not matter to it. -/
theorem LogInv.swapping (b : Bool) (h : LogInv final s) : LogInv final { s with swapping := b } :=
  ⟨h.numbered, h.ordered, h.full⟩

/-- A write keeps the invariant. -/
theorem LogInv.debugWriteLog (w : LogWrite) (h : LogInv final s) :
    LogInv final (debugWriteLog w s) := by
  unfold LogRotation.debugWriteLog
  split
  · exact h
  split
  · exact h
  split
  · exact h
  split
  · next buffer _ _ =>
      have happend : LogInv final
          (if buffer.take w.accepted = [] then s else s.append (buffer.take w.accepted)) := by
        split
        · exact h
        · exact h.append _
      dsimp only
      split
      · exact happend
      · exact happend.swapping true
  · exact h

/-- What a swap erases: the other file. -/
theorem content_erase_other (s : Logs) :
    (s.erase fun f => decide (f = s.log.other.number)).content s.log.other = [] ∧
      (s.erase fun f => decide (f = s.log.other.number)).content s.log = s.content s.log := by
  have hother : s.log.number ≠ s.log.other.number := by cases s.log <;> decide
  exact ⟨if_pos (decide_eq_true rfl), if_neg (by simpa using hother)⟩

/-- A swap keeps the invariant: it leaves a full file for an empty one. -/
theorem LogInv.swap (erased opened : Bool) (h : LogInv final s) :
    LogInv final (swapLogsIfNecessary final erased opened s) := by
  unfold swapLogsIfNecessary
  split
  · next hfinal =>
      obtain ⟨hgone, hkept⟩ := content_erase_other s
      have herase := h.erase fun f => decide (f = s.log.other.number)
      dsimp only
      split
      · refine ⟨herase.numbered, ?_, fun hB => ?_⟩
        · unfold Ordered
          dsimp only
          rw [hgone]
          exact older_nil_right _
        · have hA : s.log = .LogsA := by
            revert hB
            dsimp only
            cases s.log <;> decide
          rw [hA] at hkept hfinal
          refine Or.inl ?_
          rw [← hkept] at hfinal
          simpa only [hA] using hfinal.1
      · exact herase
  · exact h

/-- **Finding the file that is written again**, behind the erases: it is the newer one still, unless
    the first file is full and was written, and the second one holds records. -/
theorem LogInv.find (h : LogInv final s) :
    ((s.log = .LogsA → final.holds .LogsA (s.content .LogsA) = true → s.content .LogsB = []) →
      LogInv final
        { s with log := if final.holds .LogsA (s.content .LogsA) then .LogsB else .LogsA }) ∧
    (Ordered { s with log := if final.holds .LogsA (s.content .LogsA) then .LogsB else .LogsA } →
      s.log = .LogsA → final.holds .LogsA (s.content .LogsA) = true → s.content .LogsB = []) := by
  have hordered := h.ordered
  unfold Ordered at hordered
  cases hfinal : final.holds .LogsA (s.content .LogsA) with
  | true =>
      refine ⟨fun hC => ⟨h.numbered, ?_, fun _ => Or.inl hfinal⟩, fun hO hA _ => ?_⟩
      · show Older (s.content .LogsA) (s.content .LogsB)
        cases hlog : s.log with
        | LogsA =>
            rw [hC hlog rfl]
            exact older_nil_right _
        | LogsB =>
            rw [hlog] at hordered
            exact hordered
      · have hO : Older (s.content .LogsA) (s.content .LogsB) := hO
        have hne : s.content .LogsA ≠ [] := by
          intro hnil
          rw [hnil, final.erased] at hfinal
          cases hfinal
        rw [hA] at hordered
        by_contra hB
        exact not_older_of_older hO hne hB hordered
  | false =>
      refine ⟨fun _ => ⟨h.numbered, ?_, fun hB => nomatch hB⟩, fun _ _ hf => nomatch hf⟩
      show Older (s.content .LogsB) (s.content .LogsA)
      cases hlog : s.log with
      | LogsA =>
          rw [hlog] at hordered
          exact hordered
      | LogsB =>
          rcases h.full hlog with hf | hnil
          · rw [hfinal] at hf
            cases hf
          · rw [hnil]
            exact older_nil_right _

/-- **Opening the system files again.** -/
theorem LogInv.openSystemFiles (gone : FileNumber → Bool) {o : Opening} (ho : o.succeeds = true)
    (h : LogInv final s) :
    (DrainedBy final (fun f => gone f || o.truncates f) s →
      LogInv final (LogRotation.openSystemFiles final gone o s)) ∧
    (Ordered (LogRotation.openSystemFiles final gone o s) →
      DrainedBy final (fun f => gone f || o.truncates f) s) := by
  unfold LogRotation.openSystemFiles
  dsimp only
  rw [if_pos ho]
  exact (h.erase _).find

/-- Where they cannot be opened, something may have been erased. -/
theorem LogInv.openSystemFiles_failed (gone : FileNumber → Bool) {o : Opening}
    (ho : ¬ o.succeeds = true) (h : LogInv final s) :
    LogInv final (LogRotation.openSystemFiles final gone o s) := by
  unfold LogRotation.openSystemFiles
  dsimp only
  rw [if_neg ho]
  exact h.erase _

end Operations

/-! ## 4. Runs -/

section Runs

variable {final : FinalBlock} {s s' : Logs} {i : Input} {tr : List (Logs × Input)}

/-- What a step keeps, and what it needs. -/
theorem LogInv.step (h : LogInv final s) (hs : step final s i = some s') :
    (Drained final s i → LogInv final s') ∧ (Ordered s' → Drained final s i) := by
  cases i with
  | debugWriteLog w =>
      obtain ⟨_, heq⟩ := Option.ite_none_left_eq_some.mp hs
      cases heq
      exact ⟨fun _ => h.debugWriteLog w, fun _ gone hgone => nomatch hgone⟩
  | swapLogsIfNecessary erased opened =>
      obtain ⟨_, heq⟩ := Option.ite_none_right_eq_some.mp hs
      cases heq
      exact ⟨fun _ => (h.swap erased opened).swapping false, fun _ gone hgone => nomatch hgone⟩
  | erase number erased opening =>
      obtain ⟨_, heq⟩ := Option.ite_none_left_eq_some.mp hs
      cases heq
      by_cases ho : opening.succeeds = true
      · simpa [Drained, reopens, ho] using
          h.openSystemFiles (fun f => erased && decide (f = number)) ho
      · refine ⟨fun _ => h.openSystemFiles_failed _ ho, fun _ gone hgone => ?_⟩
        simp [reopens, ho] at hgone
  | eraseAll erased opening =>
      obtain ⟨_, heq⟩ := Option.ite_none_left_eq_some.mp hs
      cases heq
      by_cases ho : opening.succeeds = true
      · simpa [Drained, reopens, ho] using h.openSystemFiles erased ho
      · refine ⟨fun _ => h.openSystemFiles_failed _ ho, fun _ gone hgone => ?_⟩
        simp [reopens, ho] at hgone
  | reboot formatted opening =>
      obtain ⟨ho, heq⟩ := Option.ite_none_right_eq_some.mp hs
      cases heq
      have hdrained : Drained final s (.reboot formatted opening) ↔
          DrainedBy final (fun f => formatted || opening.truncates f)
            { s with swapping := false } := by
        simp only [Drained, reopens, if_pos ho, Option.mem_some_iff, forall_eq']
        exact Iff.rfl
      rw [hdrained]
      exact (h.swapping false).openSystemFiles (fun _ => formatted) ho

/-- Empty files. -/
theorem LogInv.start (final : FinalBlock) : LogInv final {} where
  numbered _ _ hr := nomatch hr
  ordered := older_nil_left _
  full _ := Or.inr rfl

/-- **The file that is written stays the newer one exactly if the system files are never opened
    again while the first file is full, is written and the second one holds records.** -/
theorem logs_iff (h : Run (step final) {} tr s) :
    (Meets (fun s _ => Ordered s) tr ∧ Ordered s) ↔ Meets (Drained final) tr :=
  h.meets_iff (Drained final) (LogInv final) Ordered (LogInv.start final) (fun _ hi => hi.ordered)
    fun _ _ _ hi hs => hi.step hs

/-- **Then no swap erases a record newer than one it keeps.** -/
theorem keeps_newest (h : Run (step final) {} tr s) (hC : Meets (Drained final) tr) :
    Meets (Keeps final) tr := by
  have hordered := ((logs_iff h).mpr hC).1
  intro p hp
  have hp := hordered p hp
  cases hi : p.2 with
  | swapLogsIfNecessary erased opened => exact fun _ _ => hp
  | debugWriteLog w => trivial
  | erase number erased opening => trivial
  | eraseAll erased opening => trivial
  | reboot formatted opening => trivial


end Runs

/-- Files of one block. -/
def oneBlock : FinalBlock where
  holds _ xs := !xs.isEmpty
  append _ xs r _ := by cases xs <;> rfl
  erased _ := rfl

/-- A record of one byte, written whole. -/
def oneByte : Input := .debugWriteLog { encoded := some [0], accepted := 1 }

/-- A swap in which nothing fails. -/
def swaps : Input := .swapLogsIfNecessary true true

/-- A reboot while the second file is written, and a swap of it. -/
theorem keeps_newest_reboot : ∃ tr s, Run (step oneBlock) {} tr s ∧
    (s.content .LogsA = [] ∧ s.content .LogsB = [⟨1, [0]⟩]) ∧
    Meets (Keeps oneBlock) tr := by
  have hexec : (exec (guarded (Drained oneBlock) (step oneBlock)) {}
      [oneByte, swaps, .reboot false {}, oneByte, swaps]).map
      (fun s => (s.content .LogsA, s.content .LogsB)) = some ([], [⟨1, [0]⟩]) := by
    decide
  obtain ⟨tr, s, hrun, hcontent⟩ := run_of_exec_map hexec
  obtain ⟨hrun, hC⟩ := hrun.of_guarded
  exact ⟨tr, s, hrun, Prod.mk.inj hcontent, keeps_newest hrun hC⟩

/-- **The swap erases the log that held the newest records when the call came**, while the other
    log, all of which had been written before, is kept. -/
def LosesNewest (final : FinalBlock) (s : Logs) : Input → Prop
  | .swapLogsIfNecessary erased _ =>
    final.holds s.log (s.content s.log) = true ∧ erased = true ∧
      s.content s.log.other ≠ [] ∧ (s.content s.log).dropLast ≠ [] ∧
      Older (s.content s.log).dropLast (s.content s.log.other)
  | _ => False

/-- Records 0 to 2 fill the files in turn; a reboot comes between record 2, which fills the first
    file again, and its swap. **Record 3 then goes to the second file, and the first one is
    erased.** -/
theorem old_log_kept : ∃ tr s, Run (step oneBlock) {} tr s ∧
    (∃ p ∈ tr, LosesNewest oneBlock p.1 p.2) ∧ ¬ Meets (Keeps oneBlock) tr := by
  have hexec : (exec (step oneBlock) {}
      [oneByte, swaps, oneByte, swaps, oneByte, .reboot false {}, oneByte]).map
      (fun s => (s.log, s.content .LogsA, s.content .LogsB, s.swapping)) =
        some (.LogsB, [⟨2, [0]⟩], [⟨1, [0]⟩, ⟨3, [0]⟩], true) := by decide
  obtain ⟨tr, s, hr, heq⟩ := run_of_exec_map hexec
  obtain ⟨hlog, hA, hB, hswapping⟩ : s.log = .LogsB ∧ s.content .LogsA = [⟨2, [0]⟩] ∧
      s.content .LogsB = [⟨1, [0]⟩, ⟨3, [0]⟩] ∧ s.swapping = true := by
    simpa using heq
  have hstep : step oneBlock s swaps = some
      { swapLogsIfNecessary oneBlock true true s with swapping := false } := if_pos hswapping
  have hlast : (s, swaps) ∈ tr ++ [(s, swaps)] :=
    List.mem_append_right _ (List.mem_singleton_self _)
  have hlogs : s.content s.log = [⟨1, [0]⟩, ⟨3, [0]⟩] ∧ s.content s.log.other = [⟨2, [0]⟩] := by
    rw [hlog]
    exact ⟨hB, hA⟩
  refine ⟨_, _, .step tr s swaps _ hr hstep, ⟨_, hlast, ?_⟩, fun hmeets => ?_⟩
  · unfold swaps LosesNewest Older
    dsimp only
    rw [hlogs.1, hlogs.2]
    exact ⟨rfl, rfl, by decide, by decide, by decide⟩
  · have hordered : Ordered s := hmeets _ hlast (by dsimp only; rw [hlogs.1]; rfl) rfl
    unfold Ordered at hordered
    rw [hlogs.1, hlogs.2] at hordered
    exact absurd (hordered ⟨2, [0]⟩ (by decide) ⟨1, [0]⟩ (by decide)) (by decide)

end FieldKit.LogRotation

/-
  File:      FieldKit/Files/Delivered.lean
  Subject:   What the server has of a file (transmit_file.cpp, file_cursors.cpp, file_system.cpp): is it
             all there, over any number of uploads?

  Uploads are those of `TransmitFile.lean`; between their calls the card is acted on as in `Cursors.lean`,
  uploads of other files save their cursors, and the station can be reset. `WifiTransmitFile` calls the
  task until it stops, so the copy operation is used by others only when it has stopped. Beside this stand
  the portions that were acknowledged: what the socket of a connection took that was answered with a 200.

  * `all_delivered` -- in any run in which every 200 finds the copier drained, the file is not erased from
    under its cursor or its upload, and cursors are written whole or not at all, the server has every byte
    in front of the cursor, in its place;
  * `delivered_once` -- and each of them once and in order, if no cursor is lost, or saved in vain;
  * `records_delivered` -- there, of a data file to which records are appended, the server reads the
    first ones, up to the last that ends in front of the cursor.
-/
import FieldKit.Lib.Delimited
import FieldKit.Lib.Resume
import FieldKit.Files.Cursors
import FieldKit.Files.Attempts

namespace FieldKit.Delivered

open Lib FileCursorManager
open Transmission (Upload UploadInv Connecting Polling Settling saving connect openFile openConnection)

/-! ## 1. The machine -/

/-- The uploads of a file, and what was acknowledged since it was last erased, oldest first. -/
structure Station where
  upload : Upload
  acked : List (Portion Byte) := []

/-- What happens: the task is enqueued or called, something acts on the card, an upload of another file
    saves its position, the copy operation has been used, or the station is reset. -/
inductive Input where
  | task (i : Transmission.Input)
  | card (i : Cursors.Input)
  | other (g : FileNumber) (position : BitVec 64) (saving : Saving)
  | copy (o : FileCopyOperation)
  | reset (o : Opening)

/-- What a call finds acknowledged: a 200 is acted on by saving a position. -/
def acknowledged (s : Upload) : Transmission.Input → List (Portion Byte)
  | .settle _ =>
    if (saving s).isSome then [{ start := (s.cursor.setWidth 32).toNat, items := s.sent }] else []
  | _ => []

/-- The same over another card. With the file, what was acknowledged of it is gone. -/
def Station.onto (s : Station) (d : Disk) (erased : Bool) : Station where
  upload := { s.upload with disk := d }
  acked := if erased then [] else s.acked

/-- A reset: the task is not enqueued. -/
def Station.restarted (s : Station) : Station where
  upload := Transmission.start s.upload.disk
  acked := s.acked

/-- The machine, for the file `f`. -/
def step (f : FileNumber) (s : Station) : Input → Option Station
  | .task i => (Transmission.step f s.upload i).map fun upload =>
    { upload, acked := s.acked ++ acknowledged s.upload i }
  | .card i => (Cursors.step { disk := s.upload.disk } i).map fun store =>
    s.onto store.disk (Cursors.erases { disk := s.upload.disk } i f)
  | .other g position saving =>
    if g ≠ f then some (s.onto (save g position saving s.upload.disk).2 false) else none
  | .copy o =>
    if s.upload.stage = .stopped then some { s with upload := { s.upload with fileCopy := o } } else none
  | .reset o =>
    some (s.restarted.onto (FileSystem.openSystemFiles o s.upload.disk).2 (o.truncates f))

/-- The content of the file, and its cursor. -/
def Station.content (f : FileNumber) (s : Station) : List Byte := s.upload.disk.content f

def Station.cursor (f : FileNumber) (s : Station) : Nat := (position f s.upload.disk).toNat

/-- **Every 200 finds the copier drained, the file is not erased from under its cursor or its upload, and
    a save of a cursor writes the record whole or not at all.** -/
def Careful (f : FileNumber) (s : Station) : Input → Prop
  | .task i => Transmission.Drained s.upload i ∧ ∀ e, i = .settle e →
    (saving s.upload).isSome = true → e.saving.Whole (s.upload.disk.content .System)
  | .card i => Cursors.WholeSaves { disk := s.upload.disk } i ∧
    (Cursors.erases { disk := s.upload.disk } i f = true → s.upload.stage = .stopped ∧
      (position f s.upload.disk = 0 ∨ Cursors.resets { disk := s.upload.disk } i f = true))
  | .other _ _ saving => saving.Whole (s.upload.disk.content .System)
  | .copy _ => True
  | .reset o => o.truncates f = true → position f s.upload.disk = 0

instance (s : Upload) (i : Transmission.Input) : Decidable (Transmission.Drained s i) :=
  match i with
  | .settle _ => inferInstanceAs (Decidable (_ → _))
  | .enqueued | .connect _ | .poll _ => inferInstanceAs (Decidable True)

instance (s : Upload) (i : Transmission.Input) : Decidable (∀ e, i = .settle e →
    (saving s).isSome = true → e.saving.Whole (s.disk.content .System)) :=
  match i with
  | .settle e => decidable_of_iff
      ((saving s).isSome = true → e.saving.Whole (s.disk.content .System))
      ⟨fun h _ he => Transmission.Input.settle.inj he ▸ h, fun h => h e rfl⟩
  | .enqueued | .connect _ | .poll _ => isTrue fun _ he => nomatch he

instance (f : FileNumber) (s : Station) (i : Input) : Decidable (Careful f s i) :=
  match i with
  | .task i => inferInstanceAs (Decidable (Transmission.Drained s.upload i ∧ ∀ e, i = .settle e →
      (saving s.upload).isSome = true → e.saving.Whole (s.upload.disk.content .System)))
  | .card i => inferInstanceAs (Decidable (Cursors.WholeSaves _ i ∧ (_ → _)))
  | .other _ _ saving => inferInstanceAs (Decidable (saving.Whole _))
  | .copy _ => inferInstanceAs (Decidable True)
  | .reset _ => inferInstanceAs (Decidable (_ → _))

/-! ## 2. What acts on the card -/

section Card

variable {f : FileNumber} {d : Disk}

theorem content_append (f g : FileNumber) (bytes : List Byte) (d : Disk) :
    (d.append g bytes).content f = d.content f ++ if f = g then bytes else [] := by
  unfold Disk.append
  rcases eq_or_ne f g with rfl | hne
  · simp
  · simp [hne]

theorem content_open (o : Opening) (d : Disk) :
    (FileSystem.openSystemFiles o d).2.content f =
      if o.truncates f = true then [] else d.content f := by
  rw [Cursors.content_openSystemFiles]
  rfl

/-- Erasing, and then opening. -/
theorem content_erase_open (erased : FileNumber → Bool) (o : Opening) (d : Disk) :
    (FileSystem.openSystemFiles o (d.erase erased)).2.content f =
      if (erased f || o.truncates f) = true then [] else d.content f := by
  rw [content_open]
  show (if o.truncates f = true then [] else if erased f = true then [] else d.content f) = _
  cases erased f <;> cases o.truncates f <;> rfl

/-- A log that is full makes way for the other one. -/
theorem content_swap (swap : Swap) (d : Disk) :
    (Files.swapLogsIfNecessary swap d).content f =
      if (swap.finalBlock && swap.erased && decide (f = d.log.other.number)) = true then []
      else d.content f := by
  unfold Files.swapLogsIfNecessary
  by_cases hswap : swap.finalBlock = true ∧ swap.erased = true
  · rw [if_pos hswap, hswap.1, hswap.2]
    dsimp only
    split
    · rfl
    · rfl
  · rw [if_neg hswap]
    have hno : (swap.finalBlock && swap.erased) = false := by
      rw [← Bool.not_eq_true, Bool.and_eq_true]
      exact hswap
    rw [hno]
    rfl

theorem disk_openAt (g : FileNumber) (offset : Nat) (s : Cursors.Store) :
    (Cursors.openAt g offset s).disk = s.disk := by
  unfold Cursors.openAt
  dsimp only
  split
  · rfl
  · rfl

/-- What is appended to a file. -/
def appended (d : Disk) : Cursors.Input → FileNumber → List Byte
  | .appendLog bytes accepted _, f => if f = d.log.number then bytes.take accepted else []
  | .appendData bytes, f => if f = .Data then bytes else []
  | _, _ => []

/-- **A file is erased, or appended to.** -/
theorem card_content (hf : f ≠ .System) {i : Cursors.Input} {c : Cursors.Store}
    (h : Cursors.step { disk := d } i = some c) :
    c.disk.content f = if Cursors.erases { disk := d } i f = true then []
      else d.content f ++ appended d i f := by
  cases i with
  | appendLog bytes accepted swap =>
      simp only [Cursors.step] at h
      split at h
      · next hall =>
          cases h
          show (Files.swapLogsIfNecessary swap
            (d.append d.log.number (bytes.take accepted))).content f = _
          rw [content_swap, content_append, Cursors.erases, decide_eq_true hall, Bool.true_and]
          rfl
      · next hall =>
          cases h
          show (d.append d.log.number (bytes.take accepted)).content f = _
          rw [content_append, Cursors.erases, decide_eq_false hall]
          rfl
  | appendData bytes =>
      cases h
      exact content_append f .Data bytes d
  | uploadOpen g readable =>
      cases h
      rw [Cursors.openUpload, disk_openAt]
      exact (List.append_nil _).symm
  | uploadRead count =>
      cases h
      exact (List.append_nil _).symm
  | uploadSave saving => cases h
  | uploadFailed =>
      cases h
      exact (List.append_nil _).symm
  | eraseFile number erased o saving =>
      cases h
      show (save number 0 saving (Cursors.erasing number erased o d)).2.content f = _
      rw [content_save _ _ _ _ hf]
      simp only [appended, List.append_nil]
      exact content_erase_open _ o d
  | eraseAll erased o =>
      cases h
      simp only [appended, List.append_nil]
      exact content_erase_open erased o d
  | reopen o =>
      cases h
      simp only [appended, List.append_nil]
      exact content_open o d

/-- **A file that is not erased can only grow.** -/
theorem card_grows (hf : f ≠ .System) {i : Cursors.Input} {c : Cursors.Store}
    (h : Cursors.step { disk := d } i = some c)
    (hkept : Cursors.erases { disk := d } i f = false) : d.content f <+: c.disk.content f := by
  rw [card_content hf h, hkept]
  exact List.prefix_append _ _

/-- **A cursor is kept, or put back to 0.** -/
theorem card_position {i : Cursors.Input} {c : Cursors.Store}
    (hw : Cursors.WholeSaves { disk := d } i) (h : Cursors.step { disk := d } i = some c) :
    position f c.disk =
      if Cursors.resets { disk := d } i f = true then 0 else position f d := by
  cases i with
  | appendLog bytes accepted swap =>
      simp only [Cursors.step] at h
      split at h
      · next hall =>
          cases h
          exact (Cursors.erasing_swap hall swap { disk := d }).position f
      · cases h
        exact Cursors.position_append d.log.number_ne_system f (bytes.take accepted) d
  | appendData bytes =>
      cases h
      exact Cursors.position_append (by decide) f bytes d
  | uploadOpen g readable =>
      cases h
      rw [Cursors.openUpload, disk_openAt]
      rfl
  | uploadRead count =>
      cases h
      rfl
  | uploadSave saving => cases h
  | uploadFailed =>
      cases h
      rfl
  | eraseFile number erased o saving =>
      cases h
      exact (Cursors.erasing_eraseFile hw).position f
  | eraseAll erased o =>
      cases h
      exact (Cursors.erasing_eraseAll erased o { disk := d }).position f
  | reopen o =>
      cases h
      exact (Cursors.erasing_reopen o { disk := d }).position f

end Card

/-! ## 3. The invariant -/

/-- A growing file does not disturb a copy. -/
theorem copyInv_grow {content content' sent : List Byte} {start : Nat} {o : FileCopyOperation}
    (h : CopyInv content start o sent) (hgrown : content <+: content') :
    CopyInv content' start o sent := by
  obtain ⟨more, rfl⟩ := hgrown
  refine ⟨?_, h.position, h.held⟩
  have hlength := congrArg List.length h.bytes
  rw [List.length_append, List.length_take, List.length_drop] at hlength
  have hposition := h.position
  rw [h.bytes, List.drop_append, List.take_append_of_le_length]
  rw [List.length_drop]
  omega

/-- **The server has what is in front of the cursor**, and what is in front of the place where the
    present connection has begun. -/
structure Inv (f : FileNumber) (s : Station) : Prop where
  held : Held (s.content f) s.acked (s.cursor f)
  small : s.cursor f < 2 ^ 32
  upload : UploadInv f s.upload
  begun : s.upload.stage ≠ .stopped → s.upload.task.connected = true →
    s.upload.cursor.toNat < 2 ^ 32 ∧ Held (s.content f) s.acked s.upload.cursor.toNat

section Steps

variable {f : FileNumber} {s s' : Station}

/-- **A call that leaves the card** changes nothing of what is held. -/
theorem Inv.over (hi : Inv f s) {u : Upload} (hdisk : u.disk = s.upload.disk)
    (hupload : UploadInv f u)
    (hbegun : u.stage ≠ .stopped → u.task.connected = true →
      u.cursor.toNat < 2 ^ 32 ∧ Held (s.content f) s.acked u.cursor.toNat) :
    Inv f { upload := u, acked := s.acked } := by
  refine ⟨?_, ?_, hupload, fun hstage hconnected => ?_⟩
  · show Held (u.disk.content f) s.acked (position f u.disk).toNat
    rw [hdisk]
    exact hi.held
  · show (position f u.disk).toNat < 2 ^ 32
    rw [hdisk]
    exact hi.small
  · show u.cursor.toNat < 2 ^ 32 ∧ Held (u.disk.content f) s.acked u.cursor.toNat
    rw [hdisk]
    exact hbegun hstage hconnected

/-- What the socket has taken is what stands there. -/
theorem sent_of {content sent : List Byte} {start : Nat} {o : FileCopyOperation}
    (h : CopyInv content start o sent) : (⟨start, sent⟩ : Portion Byte).Of content := by
  have hprefix : sent <+: (content.drop start).take (o.reader.position - start) :=
    h.bytes ▸ List.prefix_append sent _
  exact hprefix.trans (List.take_prefix _ _)

/-- A file that is opened is sent from the cursor, or from its beginning. -/
theorem openFile_begins (f : FileNumber) (e : Connecting) (u : Upload) (h : (openFile f e u).1 = true) :
    (openFile f e u).2.cursor = if e.readable then position f u.disk else 0 := by
  unfold openFile at h ⊢
  dsimp only at h ⊢
  split at h
  · next hopened => rw [if_pos hopened]
  · cases h

/-- **A call that is not connected** keeps the card, and begins at the cursor. -/
theorem connect_begins {e : Connecting} {u u' : Upload}
    (h : Transmission.step f u (.connect e) = some u') :
    u'.disk = u.disk ∧
      (u'.stage ≠ .stopped → u'.cursor = if e.readable then position f u.disk else 0) := by
  simp only [Transmission.step] at h
  split at h
  · cases h
    rw [Transmission.connect_eq]
    have hdisk := (Transmission.openFile_keeps f e u).2
    split
    · next hopened =>
        have hcursor := openFile_begins f e u hopened
        unfold openConnection
        dsimp only
        split
        · exact ⟨hdisk, fun _ => hcursor⟩
        · exact ⟨hdisk, fun hstage => absurd rfl hstage⟩
    · exact ⟨hdisk, fun hstage => absurd rfl hstage⟩
  · cases h

/-- **A call that copies** keeps the card, and where the connection has begun. -/
theorem poll_leaves {e : Polling} {u u' : Upload}
    (h : Transmission.step f u (.poll e) = some u') :
    u.stage ≠ .stopped ∧ u.task.connected = true ∧ u'.disk = u.disk ∧ u'.cursor = u.cursor := by
  simp only [Transmission.step] at h
  split at h
  · next hguard =>
      cases h
      refine ⟨by simp [hguard.1], hguard.2, (Transmission.poll_keeps f e u).1, ?_⟩
      unfold Transmission.poll
      dsimp only
      split
      · rfl
      · rfl
  · cases h

/-- **A call that looks at the status** saves the position and stops, or it keeps the card, and where
    the connection has begun. -/
theorem settle_leaves {e : Settling} {u u' : Upload}
    (h : Transmission.step f u (.settle e) = some u') :
    u.stage = .polled ∧
      ((∃ p, saving u = some p ∧ u'.stage = .stopped ∧ u'.disk = (save f p e.saving u.disk).2) ∨
        saving u = none ∧ u'.disk = u.disk ∧ u'.cursor = u.cursor) := by
  simp only [Transmission.step] at h
  split at h
  · next hstage =>
      cases h
      refine ⟨hstage, ?_⟩
      rcases Transmission.settle_cases f e u with ⟨p, task, hsave, h⟩ | ⟨task, hsave, h⟩ |
        ⟨task, hsave, -, -, h⟩ | ⟨task, hsave, -, -, h⟩
      · rw [h]
        exact Or.inl ⟨p, hsave, rfl, rfl⟩
      · rw [h]
        exact Or.inr ⟨hsave, rfl, rfl⟩
      · rw [h]
        exact Or.inr ⟨hsave, rfl, rfl⟩
      · rw [h]
        exact Or.inr ⟨hsave, rfl, rfl⟩
  · cases h

/-- What the connection was given, from where it has begun. -/
def portion (u : Upload) : Portion Byte := { start := u.cursor.toNat, items := u.sent }

/-- **A connection that is looked at** has copied from its cursor, in front of which everything is held. -/
theorem Inv.connection (hi : Inv f s) (hstage : s.upload.stage = .polled) :
    (s.upload.stage ≠ .stopped ∧ s.upload.task.connected = true) ∧
      (s.upload.cursor.setWidth 32).toNat = s.upload.cursor.toNat ∧
      CopyInv (s.content f) s.upload.cursor.toNat s.upload.fileCopy s.upload.sent ∧
      Held (s.content f) s.acked s.upload.cursor.toNat := by
  have hconnected := hi.upload.polled hstage
  have hrunning : s.upload.stage ≠ .stopped := by simp [hstage]
  obtain ⟨hcursor, hbegun⟩ := hi.begun hrunning hconnected
  have hstart : (s.upload.cursor.setWidth 32).toNat = s.upload.cursor.toNat := by
    rw [BitVec.toNat_setWidth]
    exact Nat.mod_eq_of_lt hcursor
  have hcopy := hi.upload.copying hrunning hconnected
  rw [hstart] at hcopy
  exact ⟨⟨hrunning, hconnected⟩, hstart, hcopy, hbegun⟩

/-- **What is acknowledged is a portion of the file**, and begins where everything is held. -/
theorem acknowledged_of (hi : Inv f s) (hstage : s.upload.stage = .polled) :
    (portion s.upload).Of (s.content f) ∧ Held (s.content f) s.acked (portion s.upload).start ∧
      ∀ e, acknowledged s.upload (.settle e) =
        if (saving s.upload).isSome then [portion s.upload] else [] := by
  obtain ⟨-, hstart, hcopy, hbegun⟩ := hi.connection hstage
  refine ⟨sent_of hcopy, hbegun, fun e => ?_⟩
  unfold acknowledged
  rw [hstart]
  rfl

/-- A saved position is one of a `size_t`. -/
theorem saving_small {u : Upload} {p : BitVec 64} (h : saving u = some p) : p.toNat < 2 ^ 32 := by
  unfold saving at h
  split at h
  · cases h
    rw [BitVec.toNat_setWidth, Nat.mod_eq_of_lt (by omega)]
    exact u.fileCopy.tell.isLt
  · cases h

/-- **A call that looks at the status**: what is acknowledged reaches up to the position that is saved. -/
theorem inv_settle (hf : f ≠ .System) (hi : Inv f s) {e : Settling} {u : Upload}
    (hC : Careful f s (.task (.settle e)))
    (hs : Transmission.step f s.upload (.settle e) = some u) :
    Inv f { upload := u, acked := s.acked ++ acknowledged s.upload (.settle e) } := by
  have hupload := Transmission.step_inv hi.upload hs
  have hwithin := (Transmission.within_iff_drained hi.upload _ hs).mpr hC.1
  obtain ⟨hstage, hleaves⟩ := settle_leaves hs
  obtain ⟨hof, hbegun, hacked⟩ := acknowledged_of hi hstage
  rw [hacked]
  rcases hleaves with ⟨p, hsave, hstopped, hdisk⟩ | ⟨hsave, hdisk, hcursor⟩
  · have hcontent : u.disk.content f = s.content f := by
      rw [hdisk]
      exact content_save f p e.saving s.upload.disk hf
    have hposition : position f u.disk =
        if e.saving.returns (s.upload.disk.content .System) = true ∧ f = f then p
        else position f s.upload.disk := by
      rw [hdisk]
      exact position_save f f p e.saving s.upload.disk (hC.2 e rfl (by rw [hsave]; rfl))
    rw [hsave, Option.isSome_some, if_pos rfl]
    have hheld : Held (s.content f) (s.acked ++ [portion s.upload]) (position f u.disk).toNat := by
      rw [hposition]
      split
      · exact (hbegun.concat hof).less (hwithin p hsave)
      · exact hi.held.more hof
    refine ⟨?_, ?_, hupload, fun h => absurd hstopped h⟩
    · show Held (u.disk.content f) _ (position f u.disk).toNat
      rw [hcontent]
      exact hheld
    · show (position f u.disk).toNat < 2 ^ 32
      rw [hposition]
      split
      · exact saving_small hsave
      · exact hi.small
  · rw [hsave, if_neg (by simp), List.append_nil]
    obtain ⟨hrunning, hconnected⟩ := (hi.connection hstage).1
    exact hi.over hdisk hupload fun _ _ => hcursor ▸ hi.begun hrunning hconnected

/-- **A call of the task.** -/
theorem inv_task (hf : f ≠ .System) (hi : Inv f s) {i : Transmission.Input} {u : Upload}
    (hC : Careful f s (.task i)) (hs : Transmission.step f s.upload i = some u) :
    Inv f { upload := u, acked := s.acked ++ acknowledged s.upload i } := by
  have hupload := Transmission.step_inv hi.upload hs
  cases i with
  | enqueued =>
      cases hs
      simp only [acknowledged, List.append_nil]
      exact hi.over rfl hupload fun _ h => nomatch h
  | connect e =>
      obtain ⟨hdisk, hcursor⟩ := connect_begins hs
      simp only [acknowledged, List.append_nil]
      refine hi.over hdisk hupload fun hstage _ => ?_
      rw [hcursor hstage]
      -- a cursor that cannot be read counts as 0: everything is sent again
      split
      · exact ⟨hi.small, hi.held⟩
      · exact ⟨by decide, hi.held.less (Nat.zero_le _)⟩
  | poll e =>
      obtain ⟨hstage, hconnected, hdisk, hcursor⟩ := poll_leaves hs
      simp only [acknowledged, List.append_nil]
      exact hi.over hdisk hupload fun _ _ => hcursor ▸ hi.begun hstage hconnected
  | settle e => exact inv_settle hf hi hC hs

/-- A cursor that was 0, or is put back. -/
theorem position_gone {p p' : BitVec 64} {cleared : Bool} (h : p' = if cleared = true then 0 else p)
    (hzero : p = 0 ∨ cleared = true) : p' = 0 := by
  rw [h]
  split
  · rfl
  · next hcleared => exact hzero.resolve_right hcleared

/-- **Another card**, on which the file has grown, or is erased with its cursor at 0 and no upload
    going on. -/
theorem Inv.onto (hi : Inv f s) {d : Disk} {cleared erased : Bool}
    (hposition : position f d = if cleared = true then 0 else position f s.upload.disk)
    (hkept : erased = false → s.content f <+: d.content f)
    (herased : erased = true →
      s.upload.stage = .stopped ∧ (position f s.upload.disk = 0 ∨ cleared = true)) :
    Inv f (s.onto d erased) := by
  have hle : (position f d).toNat ≤ s.cursor f := by
    rw [hposition]
    split
    · exact Nat.zero_le _
    · exact Nat.le_refl _
  cases erased with
  | true =>
      obtain ⟨hstage, hzero⟩ := herased rfl
      have hposition := position_gone hposition hzero
      refine ⟨?_, hle.trans_lt hi.small, ⟨fun h => ?_, fun h => absurd hstage h⟩,
        fun h => absurd hstage h⟩
      · show Held (d.content f) [] (position f d).toNat
        rw [hposition]
        exact Held.none _ fun p hp => absurd hp List.not_mem_nil
      · exact absurd (hstage.symm.trans h) (by decide)
  | false =>
      have hgrown := hkept rfl
      refine ⟨(hi.held.grow hgrown).less hle, hle.trans_lt hi.small,
        ⟨hi.upload.polled, fun hstage hconnected => ?_⟩, fun hstage hconnected => ?_⟩
      · exact copyInv_grow (hi.upload.copying hstage hconnected) hgrown
      · obtain ⟨hcursor, hbegun⟩ := hi.begun hstage hconnected
        exact ⟨hcursor, hbegun.grow hgrown⟩

theorem Inv.restarted (hi : Inv f s) : Inv f s.restarted :=
  hi.over rfl ⟨fun h => (by cases h), fun h => absurd rfl h⟩ fun h => absurd rfl h

/-- **A save of another file's position** leaves the file, and its cursor. -/
theorem other_keeps (hf : f ≠ .System) {g : FileNumber} (hg : g ≠ f) (p : BitVec 64) {o : Saving}
    {d : Disk} (hw : o.Whole (d.content .System)) :
    position f (save g p o d).2 = (if false = true then 0 else position f d) ∧
      d.content f <+: (save g p o d).2.content f := by
  refine ⟨?_, content_save g p o d hf ▸ List.prefix_rfl⟩
  rw [position_save g f p o d hw]
  exact if_neg fun h => hg h.2.symm

/-- The card of a reset is reopened. -/
theorem reopened (o : Opening) (d : Disk) :
    Cursors.step { disk := d } (.reopen o) =
      some (Cursors.Store.over { disk := d } o.truncates (FileSystem.openSystemFiles o d).2) := rfl

/-- **A careful step keeps the invariant.** -/
theorem step_inv (hf : f ≠ .System) {i : Input} (hi : Inv f s) (hC : Careful f s i)
    (h : step f s i = some s') : Inv f s' := by
  cases i with
  | task i =>
      obtain ⟨u, hu, rfl⟩ := Option.map_eq_some_iff.mp h
      exact inv_task hf hi hC hu
  | card i =>
      obtain ⟨c, hc, rfl⟩ := Option.map_eq_some_iff.mp h
      exact hi.onto (card_position hC.1 hc) (card_grows hf hc) hC.2
  | other g p o =>
      simp only [step] at h
      split at h
      · next hg =>
          cases h
          obtain ⟨hposition, hcontent⟩ := other_keeps hf hg p hC
          exact hi.onto hposition (fun _ => hcontent) fun h => nomatch h
      · cases h
  | copy o =>
      simp only [step] at h
      split at h
      · next hstage =>
          cases h
          exact hi.over rfl ⟨fun h => absurd (hstage.symm.trans h) (by decide), fun h => absurd hstage h⟩
            fun h => absurd hstage h
      · cases h
  | reset o =>
      cases h
      have hreopened := reopened o s.upload.disk
      have hwhole : Cursors.WholeSaves { disk := s.upload.disk } (.reopen o) := trivial
      exact hi.restarted.onto (card_position hwhole hreopened) (card_grows hf hreopened)
        fun herased => ⟨rfl, Or.inl (hC herased)⟩

end Steps

/-- The invariant at the beginning: no cursor, nothing acknowledged. -/
theorem inv_start {f : FileNumber} {d : Disk} (hzero : position f d = 0) :
    Inv f { upload := Transmission.start d } := by
  refine ⟨?_, ?_, ⟨fun h => (by cases h), fun h => absurd rfl h⟩, fun h => absurd rfl h⟩
  · show Held (d.content f) [] (position f d).toNat
    rw [hzero]
    exact Held.none _ fun p hp => absurd hp List.not_mem_nil
  · show (position f d).toNat < 2 ^ 32
    rw [hzero]
    decide

/-- **The server has every byte in front of the cursor**, in its place in a portion it has acknowledged,
    in any run whose steps are careful: over any number of uploads that break off, start again or are
    cut short by a reset, and while the file grows. -/
theorem all_delivered {f : FileNumber} (hf : f ≠ .System) {d : Disk} (hzero : position f d = 0)
    {tr : List (Station × Input)} {s : Station}
    (h : Run (step f) { upload := Transmission.start d } tr s) (hC : Meets (Careful f) tr) :
    s.cursor f ≤ (s.content f).length ∧
      ∀ i < s.cursor f, ∃ p ∈ s.acked, p.start ≤ i ∧
        p.items[i - p.start]? = (s.content f)[i]? := by
  have hi : Inv f s := h.inv_meets (Careful f) (Inv f) (inv_start hzero)
    (fun _ _ _ hi hC hs => step_inv hf hi hC hs) hC
  exact ⟨hi.held.le, fun i hlt => hi.held.getElem? hlt⟩

/-- A call that connects, one that copies up to `n` bytes and hears a 200, and the rest of that call. -/
def uploads (e : Connecting) (n : Nat) : List Input :=
  [.task .enqueued, .task (.connect e),
   .task (.poll ⟨Transmission.ok200, [⟨n, true, n⟩, ⟨0, true, 0⟩]⟩),
   .task (.settle ⟨6, 6, true, {}⟩)]

/-- The file is uploaded, and after it a log; the station is reset while it uploads what has come, and
    then the cursor cannot be read. -/
def again : List Input :=
  uploads {} 3 ++ [.other .LogsA 7 {}, .card (.appendData [4, 5])] ++ (uploads {} 2).take 3 ++ [.reset {}] ++
    uploads { readable := false } 5

theorem all_delivered_again : ∃ tr s,
    Run (step .Data) { upload := Transmission.start Transmission.threeBytes } tr s ∧
    (s.acked, s.cursor .Data) = ([⟨0, [1, 2, 3]⟩, ⟨0, [1, 2, 3, 4, 5]⟩], 5) ∧
    s.cursor .Data ≤ (s.content .Data).length ∧
      ∀ i < s.cursor .Data, ∃ p ∈ s.acked, p.start ≤ i ∧
        p.items[i - p.start]? = (s.content .Data)[i]? := by
  have hexec : (exec (guarded (Careful .Data) (step .Data))
      { upload := Transmission.start Transmission.threeBytes } again).map
      (fun s => (s.acked, s.cursor .Data)) =
      some ([⟨0, [1, 2, 3]⟩, ⟨0, [1, 2, 3, 4, 5]⟩], 5) := by decide +kernel
  obtain ⟨tr, s, hrun, hs⟩ := run_of_exec_map hexec
  obtain ⟨hrun, hcareful⟩ := hrun.of_guarded
  exact ⟨tr, s, hrun, hs, all_delivered (by decide) (by decide +kernel) hrun hcareful⟩

/-! ## 4. Once -/

/-- **No cursor is lost, or saved in vain**: it can be read, a 200 finds the copier empty and the file
    within 32 bits, its position is saved, and the cursor is put back only with the file. -/
def Smooth (f : FileNumber) (s : Station) : Input → Prop
  | .task (.connect e) => e.readable = true
  | .task (.settle e) => (saving s.upload).isSome = true →
    s.upload.fileCopy.streamCopier.buffer = [] ∧ (s.content f).length < 2 ^ 32 ∧
      e.saving.returns (s.upload.disk.content .System) = true
  | .card i => Cursors.resets { disk := s.upload.disk } i f = true →
    Cursors.erases { disk := s.upload.disk } i f = true
  | _ => True

instance (f : FileNumber) (s : Station) (i : Input) : Decidable (Smooth f s i) :=
  match i with
  | .task (.settle _) => inferInstanceAs (Decidable (_ → _))
  | .task (.connect e) => inferInstanceAs (Decidable (e.readable = true))
  | .task .enqueued | .task (.poll _) => inferInstanceAs (Decidable True)
  | .card _ => inferInstanceAs (Decidable (_ → _))
  | .other _ _ _ | .copy _ | .reset _ => inferInstanceAs (Decidable True)

/-- **What was acknowledged is the file up to the cursor**, and a connection begins there. -/
structure Once (f : FileNumber) (s : Station) : Prop where
  inv : Inv f s
  all : joined s.acked = (s.content f).take (s.cursor f)
  begun : s.upload.stage ≠ .stopped → s.upload.task.connected = true →
    s.upload.cursor = position f s.upload.disk

section Once

variable {f : FileNumber} {s s' : Station}

/-- A copier that is empty has given everything to the socket: the position that is saved is the end of
    the portion. -/
theorem saving_stop (hi : Inv f s) (hstage : s.upload.stage = .polled) {p : BitVec 64}
    (hsave : saving s.upload = some p) (hempty : s.upload.fileCopy.streamCopier.buffer = [])
    (hsmall : (s.content f).length < 2 ^ 32) : p.toNat = (portion s.upload).stop := by
  obtain ⟨-, -, hcopy, hbegun⟩ := hi.connection hstage
  have hposition := hcopy.position
  have hstop := (acknowledged_of hi hstage).1.stop_le hbegun.le
  rw [hempty, List.length_nil, Nat.add_zero] at hposition
  unfold saving at hsave
  split at hsave
  · cases hsave
    simp only [FileCopyOperation.tell, FileReader.tell, BitVec.toNat_setWidth, BitVec.toNat_ofNat,
      hposition]
    simp only [portion, Portion.stop] at hstop ⊢
    omega
  · cases hsave

/-- **A call that leaves the card and acknowledges nothing.** -/
theorem Once.over (ho : Once f s) {u : Upload} (hdisk : u.disk = s.upload.disk)
    (hi : Inv f { upload := u, acked := s.acked })
    (hbegun : u.stage ≠ .stopped → u.task.connected = true →
      u.cursor = position f s.upload.disk) : Once f { upload := u, acked := s.acked } := by
  refine ⟨hi, ?_, fun hstage hconnected => ?_⟩
  · show joined s.acked = (u.disk.content f).take (position f u.disk).toNat
    rw [hdisk]
    exact ho.all
  · show u.cursor = position f u.disk
    rw [hdisk]
    exact hbegun hstage hconnected

/-- **A call of the task**: what is acknowledged follows upon what was. -/
theorem once_task (hf : f ≠ .System) (ho : Once f s) {i : Transmission.Input} {u : Upload}
    (hC : Careful f s (.task i)) (hS : Smooth f s (.task i))
    (hs : Transmission.step f s.upload i = some u) :
    Once f { upload := u, acked := s.acked ++ acknowledged s.upload i } := by
  have hi := inv_task hf ho.inv hC hs
  cases i with
  | enqueued =>
      cases hs
      simp only [acknowledged, List.append_nil] at hi ⊢
      exact ho.over rfl hi fun _ h => nomatch h
  | connect e =>
      obtain ⟨hdisk, hcursor⟩ := connect_begins hs
      simp only [acknowledged, List.append_nil] at hi ⊢
      refine ho.over hdisk hi fun hstage _ => ?_
      rw [hcursor hstage]
      exact if_pos hS
  | poll e =>
      obtain ⟨hstage, hconnected, hdisk, hcursor⟩ := poll_leaves hs
      simp only [acknowledged, List.append_nil] at hi ⊢
      exact ho.over hdisk hi fun _ _ => hcursor.trans (ho.begun hstage hconnected)
  | settle e =>
      obtain ⟨hstage, hleaves⟩ := settle_leaves hs
      obtain ⟨hrunning, hconnected⟩ := (ho.inv.connection hstage).1
      have hbegun := ho.begun hrunning hconnected
      obtain ⟨hof, -, hacked⟩ := acknowledged_of ho.inv hstage
      rw [hacked] at hi ⊢
      rcases hleaves with ⟨p, hsave, hstopped, hdisk⟩ | ⟨hsave, hdisk, hcursor⟩
      · rw [hsave, Option.isSome_some, if_pos rfl] at hi ⊢
        obtain ⟨hempty, hsmall, hsaved⟩ := hS (by rw [hsave]; rfl)
        have hposition : (position f u.disk).toNat = (portion s.upload).stop := by
          rw [hdisk, position_save _ _ _ _ _ (hC.2 e rfl (by rw [hsave]; rfl)),
            if_pos ⟨hsaved, rfl⟩]
          exact saving_stop ho.inv hstage hsave hempty hsmall
        have hcontent : u.disk.content f = s.content f := by
          rw [hdisk]
          exact content_save f p e.saving s.upload.disk hf
        have hall : joined s.acked = (s.content f).take (portion s.upload).start := by
          rw [ho.all, portion, hbegun]
          rfl
        refine ⟨hi, ?_, fun h => absurd hstopped h⟩
        show joined (s.acked ++ [portion s.upload]) =
          (u.disk.content f).take (position f u.disk).toNat
        rw [hposition, hcontent]
        exact joined_concat hall hof
      · rw [hsave, Option.isSome_none, if_neg Bool.false_ne_true, List.append_nil] at hi ⊢
        exact ho.over hdisk hi fun _ _ => hcursor.trans hbegun

/-- **Another card**: the cursor is put back exactly if the file is erased. -/
theorem Once.onto (ho : Once f s) {d : Disk} {cleared erased : Bool}
    (hi : Inv f (s.onto d erased))
    (hposition : position f d = if cleared = true then 0 else position f s.upload.disk)
    (hkept : erased = false → s.content f <+: d.content f)
    (herased : erased = true →
      s.upload.stage = .stopped ∧ (position f s.upload.disk = 0 ∨ cleared = true))
    (hcleared : cleared = true → erased = true) : Once f (s.onto d erased) := by
  cases erased with
  | true =>
      obtain ⟨hstage, hzero⟩ := herased rfl
      have hposition := position_gone hposition hzero
      refine ⟨hi, ?_, fun h => absurd hstage h⟩
      show joined [] = (d.content f).take (position f d).toNat
      rw [hposition]
      rfl
  | false =>
      have hsame : position f d = position f s.upload.disk := by
        rw [hposition, if_neg fun h => Bool.false_ne_true (hcleared h)]
      refine ⟨hi, ?_, fun hstage hconnected => ?_⟩
      · show joined s.acked = (d.content f).take (position f d).toNat
        obtain ⟨more, hmore⟩ := hkept rfl
        rw [hsame, ho.all, ← hmore]
        exact (List.take_append_of_le_length ho.inv.held.le).symm
      · exact (ho.begun hstage hconnected).trans hsame.symm

/-- **A careful and smooth step keeps it.** -/
theorem once_step (hf : f ≠ .System) {i : Input} (ho : Once f s) (hC : Careful f s i)
    (hS : Smooth f s i) (h : step f s i = some s') : Once f s' := by
  have hi := step_inv hf ho.inv hC h
  cases i with
  | task i =>
      obtain ⟨u, hu, rfl⟩ := Option.map_eq_some_iff.mp h
      exact once_task hf ho hC hS hu
  | card i =>
      obtain ⟨c, hc, rfl⟩ := Option.map_eq_some_iff.mp h
      exact ho.onto hi (card_position hC.1 hc) (card_grows hf hc) hC.2 hS
  | other g p o =>
      simp only [step] at h
      split at h
      · next hg =>
          cases h
          obtain ⟨hposition, hcontent⟩ := other_keeps hf hg p hC
          exact ho.onto hi hposition (fun _ => hcontent) (fun h => nomatch h) fun h => nomatch h
      · cases h
  | copy o =>
      simp only [step] at h
      split at h
      · next hstage =>
          cases h
          exact ho.over rfl hi fun h => absurd hstage h
      · cases h
  | reset o =>
      cases h
      have hrestarted : Once f s.restarted := ho.over rfl ho.inv.restarted fun h => absurd rfl h
      have hreopened := reopened o s.upload.disk
      have hwhole : Cursors.WholeSaves { disk := s.upload.disk } (.reopen o) := trivial
      exact hrestarted.onto hi (card_position hwhole hreopened) (card_grows hf hreopened)
        (fun herased => ⟨rfl, Or.inl (hC herased)⟩) fun h => nomatch h

end Once

/-- **In any run whose steps are careful and smooth** what was acknowledged is the file up to the
    cursor. -/
theorem once_run {f : FileNumber} (hf : f ≠ .System) {d : Disk} (hzero : position f d = 0)
    {tr : List (Station × Input)} {s : Station}
    (h : Run (step f) { upload := Transmission.start d } tr s)
    (hC : Meets (fun s i => Careful f s i ∧ Smooth f s i) tr) : Once f s := by
  have hstart : Once f { upload := Transmission.start d } := by
    refine ⟨inv_start hzero, ?_, fun h => absurd rfl h⟩
    show joined [] = (d.content f).take (position f d).toNat
    rw [hzero]
    rfl
  exact h.inv_meets (fun s i => Careful f s i ∧ Smooth f s i) (Once f) hstart
    (fun _ _ _ ho hC hs => once_step hf ho hC.1 hC.2 hs) hC

/-- **Every byte in front of the cursor was acknowledged once, and in order**: what was acknowledged
    since the file was erased, one portion behind the other, is the file up to the cursor. -/
theorem delivered_once {f : FileNumber} (hf : f ≠ .System) {d : Disk} (hzero : position f d = 0)
    {tr : List (Station × Input)} {s : Station}
    (h : Run (step f) { upload := Transmission.start d } tr s)
    (hC : Meets (fun s i => Careful f s i ∧ Smooth f s i) tr) :
    joined s.acked = (s.content f).take (s.cursor f) :=
  (once_run hf hzero h hC).all

/-- The same without the last upload, which the cursor lets begin where the first one ended. -/
theorem delivered_once_resumed : ∃ tr s,
    Run (step .Data) { upload := Transmission.start Transmission.threeBytes } tr s ∧
    (s.acked, s.cursor .Data) = ([⟨0, [1, 2, 3]⟩, ⟨3, [4, 5]⟩], 5) ∧
    joined s.acked = (s.content .Data).take (s.cursor .Data) := by
  have hexec : (exec (guarded (fun s i => Careful .Data s i ∧ Smooth .Data s i) (step .Data))
      { upload := Transmission.start Transmission.threeBytes } (again.take 10 ++ uploads {} 2)).map
      (fun s => (s.acked, s.cursor .Data)) =
      some ([⟨0, [1, 2, 3]⟩, ⟨3, [4, 5]⟩], 5) := by decide +kernel
  obtain ⟨tr, s, hrun, hs⟩ := run_of_exec_map hexec
  obtain ⟨hrun, hmeets⟩ := hrun.of_guarded
  exact ⟨tr, s, hrun, hs, delivered_once (by decide) (by decide +kernel) hrun hmeets⟩

/-! ## 5. Records -/

/-- What is appended to the data file is a whole record. -/
def Recorded : Input → Prop
  | .card (.appendData bytes) => ∃ m, delimit m = bytes
  | _ => True

instance (bytes : List Byte) : Decidable (∃ m, delimit m = bytes) :=
  decidable_of_iff (∃ m ∈ readRecords 1 bytes, delimit m = bytes)
    ⟨fun ⟨m, _, h⟩ => ⟨m, h⟩,
      fun ⟨m, h⟩ => ⟨m, h ▸ (readRecords_record m).symm ▸ List.mem_singleton_self m, h⟩⟩

instance (i : Input) : Decidable (Recorded i) :=
  match i with
  | .card (.appendData bytes) => inferInstanceAs (Decidable (∃ m, delimit m = bytes))
  | .card (.appendLog _ _ _) | .card (.uploadOpen _ _) | .card (.uploadRead _)
  | .card (.uploadSave _) | .card .uploadFailed | .card (.eraseFile _ _ _ _)
  | .card (.eraseAll _ _) | .card (.reopen _) => inferInstanceAs (Decidable True)
  | .task _ | .other _ _ _ | .copy _ | .reset _ => inferInstanceAs (Decidable True)

/-- The data file is a sequence of records. -/
def Records (s : Station) : Prop := ∃ ms : List (List Byte), s.content .Data = ms.flatMap delimit

/-- A call of the task writes to the system file at most. -/
theorem task_content {f : FileNumber} (hf : f ≠ .System) {u u' : Upload} {i : Transmission.Input}
    (h : Transmission.step f u i = some u') : u'.disk.content f = u.disk.content f := by
  cases i with
  | enqueued =>
      cases h
      rfl
  | connect e => rw [(connect_begins h).1]
  | poll e => rw [(poll_leaves h).2.2.1]
  | settle e =>
      rcases (settle_leaves h).2 with ⟨p, -, -, hdisk⟩ | ⟨-, hdisk, -⟩
      · rw [hdisk]
        exact content_save f p e.saving u.disk hf
      · rw [hdisk]

/-- **Records stay records.** -/
theorem records_step {s s' : Station} {i : Input} (hr : Records s) (hi : Recorded i)
    (h : step .Data s i = some s') : Records s' := by
  obtain ⟨ms, hms⟩ := hr
  -- the file is what it was, or erased
  have hkept {content : List Byte} (hsame : content = s.content .Data ∨ content = []) :
      ∃ ms : List (List Byte), content = ms.flatMap delimit := by
    rcases hsame with hsame | hnone
    · exact ⟨ms, hsame.trans hms⟩
    · exact ⟨[], hnone⟩
  cases i with
  | task i =>
      obtain ⟨u, hu, rfl⟩ := Option.map_eq_some_iff.mp h
      exact hkept (Or.inl (task_content (by decide) hu))
  | card i =>
      obtain ⟨c, hc, rfl⟩ := Option.map_eq_some_iff.mp h
      have hcontent := card_content (f := .Data) (by decide) hc
      show ∃ ms : List (List Byte), c.disk.content .Data = ms.flatMap delimit
      rw [hcontent]
      split
      · exact hkept (Or.inr rfl)
      · cases i with
        | appendData bytes =>
            obtain ⟨m, rfl⟩ := hi
            refine ⟨ms ++ [m], ?_⟩
            rw [List.flatMap_append, List.flatMap_singleton, ← hms]
            rfl
        | appendLog bytes accepted swap =>
            refine hkept (Or.inl ?_)
            have hother : FileNumber.Data ≠ s.upload.disk.log.number := by
              cases s.upload.disk.log <;> decide
            rw [appended, if_neg hother]
            exact List.append_nil _
        | _ => exact hkept (Or.inl (List.append_nil _))
  | other g p o =>
      simp only [step] at h
      split at h
      · cases h
        exact hkept (Or.inl (content_save g p o s.upload.disk (by decide)))
      · cases h
  | copy o =>
      simp only [step] at h
      split at h
      · cases h
        exact ⟨ms, hms⟩
      · cases h
  | reset o =>
      cases h
      show ∃ ms : List (List Byte), (FileSystem.openSystemFiles o s.upload.disk).2.content .Data = _
      rw [content_open]
      split
      · exact hkept (Or.inr rfl)
      · exact hkept (Or.inl rfl)

/-- **The server reads the records of the data file, up to the last that ends in front of the cursor**,
    each once and in order; and all of them when the cursor is at the end. -/
theorem records_delivered {d : Disk} (hempty : d.content .Data = []) (hzero : position .Data d = 0)
    {tr : List (Station × Input)} {s : Station}
    (h : Run (step .Data) { upload := Transmission.start d } tr s)
    (hC : Meets (fun s i => (Careful .Data s i ∧ Smooth .Data s i) ∧ Recorded i) tr) :
    ∃ ms : List (List Byte), s.content .Data = ms.flatMap delimit ∧
      (∀ limit, ms.length ≤ limit →
        readRecords limit (joined s.acked) = ms.take (whole ms (s.cursor .Data))) ∧
      (s.cursor .Data = (s.content .Data).length → whole ms (s.cursor .Data) = ms.length) := by
  have honce := (once_run (by decide) hzero h fun p hp => (hC p hp).1).all
  have hstart : Records { upload := Transmission.start d } := ⟨[], hempty⟩
  obtain ⟨ms, hms⟩ : Records s :=
    h.inv_meets (fun s i => (Careful .Data s i ∧ Smooth .Data s i) ∧ Recorded i) Records
      hstart (fun _ _ _ hr hC hs => records_step hr hC.2 hs) hC
  refine ⟨ms, hms, fun limit hlimit => ?_, fun hend => ?_⟩
  · rw [honce, hms]
    exact readRecords_take ms _ hlimit
  · rw [hend, hms]
    exact whole_all ms

/-- Two records, of which an upload is given one and a byte, and the rest the next one. -/
def twoRecords : List Input :=
  [.card (.appendData (delimit [7, 8])), .card (.appendData (delimit [9]))] ++ uploads {} 4 ++ uploads {} 1

theorem records_delivered_two : ∃ tr s,
    Run (step .Data) { upload := Transmission.start {} } tr s ∧
    s.acked = [⟨0, [2, 7, 8, 1]⟩, ⟨4, [9]⟩] ∧
    ∃ ms : List (List Byte), s.content .Data = ms.flatMap delimit ∧
      (∀ limit, ms.length ≤ limit →
        readRecords limit (joined s.acked) = ms.take (whole ms (s.cursor .Data))) ∧
      (s.cursor .Data = (s.content .Data).length → whole ms (s.cursor .Data) = ms.length) := by
  have hexec : (exec (guarded (fun s i => (Careful .Data s i ∧ Smooth .Data s i) ∧ Recorded i)
      (step .Data)) { upload := Transmission.start {} } twoRecords).map (·.acked) =
      some [⟨0, [2, 7, 8, 1]⟩, ⟨4, [9]⟩] := by decide +kernel
  obtain ⟨tr, s, hrun, hs⟩ := run_of_exec_map hexec
  obtain ⟨hrun, hmeets⟩ := hrun.of_guarded
  exact ⟨tr, s, hrun, hs, records_delivered rfl (by decide +kernel) hrun hmeets⟩

end FieldKit.Delivered

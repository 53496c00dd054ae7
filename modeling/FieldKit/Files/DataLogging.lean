/-
  File:      FieldKit/Files/DataLogging.lean
  Subject:   `DataLogging` (data_logging.cpp): does the data file begin with metadata?

  A record is what nanopb makes of a message, with its length in front: never empty, or nothing if
  it fails. How much of it the file takes is the environment's. What the file holds is written down
  record by record, each with the bytes that came into it.

  `tell()` is the position of the open file. Opening one to write puts it at the end; where the
  files cannot be opened again after an erase, the old one stays, and its position.

  * `append_first_iff` -- one call on an empty file;
  * `first_iff` -- in a run, the file begins with metadata exactly if whatever comes first into an
    empty file is a whole metadata record;
  * `status_first` -- metadata that cannot be encoded.
-/
import FieldKit.Lib.Run
import FieldKit.Files.FileSystem

namespace FieldKit.DataLogging

open Lib

/-! ## 1. The data file -/

/-- The messages that are appended. -/
inductive RecordKind where
  | metadata
  | status
  | location
  | reading
  deriving DecidableEq, Repr

/-- A record as it is encoded: there is at least its length. -/
structure Encoded where
  bytes : List Byte
  delimited : bytes ≠ [] := by decide
  deriving DecidableEq, Repr

/-- What came into the file of a record. -/
structure Piece where
  kind : RecordKind
  record : Encoded
  written : Nat
  deriving DecidableEq, Repr

/-- The data file, and the position of the open one. -/
structure DataFile where
  pieces : List Piece := []
  tell : Nat := 0
  deriving DecidableEq, Repr

namespace DataFile

/-- `size()`. -/
def size (f : DataFile) : Nat := (f.pieces.map (·.written)).sum

/-- `write(buffer, bytes, true)`, of which the file takes so many. -/
def write (kind : RecordKind) (record : Encoded) (written : Nat) (f : DataFile) : DataFile :=
  if written = 0 then f
  else { pieces := f.pieces ++ [⟨kind, record, written⟩], tell := f.tell + written }

/-- The file behind an erase, or not; and opened again, or not. -/
def reopen (gone : Bool) (opened : Bool) (f : DataFile) : DataFile :=
  let f := { f with pieces := if gone then [] else f.pieces }
  if opened then { f with tell := f.size } else f

end DataFile

/-! ## 2. Appending -/

/-- What becomes of a message: `none` if its size or its bytes cannot be had, and how much the file
    takes of it. -/
structure Write where
  encoded : Option Encoded
  accepted : Nat
  deriving DecidableEq, Repr

/-- `append(message)`. -/
def append (kind : RecordKind) (w : Write) (f : DataFile) : Nat × DataFile :=
  match w.encoded with
  | none => (0, f)
  | some record =>
    let written := min w.accepted record.bytes.length
    let f := f.write kind record written
    if written ≠ record.bytes.length then (0, f) else (record.bytes.length, f)

/-- `appendMetadata(state)`: what `append` returns is only logged. -/
def appendMetadata (w : Write) (f : DataFile) : Bool × DataFile :=
  (true, (append .metadata w f).2)

/-- `appendMetadataIfNecessary(state)`. -/
def appendMetadataIfNecessary (w : Write) (f : DataFile) : Bool × DataFile :=
  if 0 < f.tell then (true, f) else appendMetadata w f

/-- A record, behind the metadata. -/
def appendRecord (kind : RecordKind) (metadata w : Write) (f : DataFile) : Bool × DataFile :=
  let (ok, f) := appendMetadataIfNecessary metadata f
  if ok then (true, (append kind w f).2) else (false, f)

/-- `appendStatus(state)`. -/
def appendStatus : Write → Write → DataFile → Bool × DataFile := appendRecord .status

/-- `appendLocation(state, location)`. -/
def appendLocation : Write → Write → DataFile → Bool × DataFile := appendRecord .location

/-- `appendReading(state, location, readingNumber, sensorId, sensor, reading)`. -/
def appendReading : Write → Write → DataFile → Bool × DataFile := appendRecord .reading

/-- What can happen to the data file. A reboot formats the card, or not. -/
inductive Input where
  | appendMetadata (w : Write)
  | appendStatus (metadata w : Write)
  | appendLocation (metadata w : Write)
  | appendReading (metadata w : Write)
  | erase (number : FileNumber) (erased : Bool) (opening : Opening)
  | eraseAll (erased : FileNumber → Bool) (opening : Opening)
  | reboot (formatted : Bool) (opening : Opening)

/-- The machine. A file system that cannot be set up is a failed assertion. -/
def step (f : DataFile) : Input → Option DataFile
  | .appendMetadata w => some (appendMetadata w f).2
  | .appendStatus metadata w => some (appendStatus metadata w f).2
  | .appendLocation metadata w => some (appendLocation metadata w f).2
  | .appendReading metadata w => some (appendReading metadata w f).2
  | .erase number erased opening =>
    some (f.reopen ((erased && decide (number = .Data)) || opening.truncates .Data)
      opening.succeeds)
  | .eraseAll erased opening =>
    some (f.reopen (erased .Data || opening.truncates .Data) opening.succeeds)
  | .reboot formatted opening =>
    if opening.succeeds then some (f.reopen (formatted || opening.truncates .Data) true) else none

/-! ## 3. What comes first -/

/-- The piece is a whole metadata record. -/
def Piece.IsMetadata (p : Piece) : Prop :=
  p.kind = .metadata ∧ p.written = p.record.bytes.length

/-- **The file is empty, or its first record is a complete metadata record.** -/
def First (f : DataFile) : Prop := ∀ p ∈ f.pieces.head?, p.IsMetadata

/-- Nothing of the message comes into the file. -/
def Write.Nothing (w : Write) : Prop := w.encoded = none ∨ w.accepted = 0

/-- All of it does. -/
def Write.Whole (w : Write) : Prop := ∃ record ∈ w.encoded, record.bytes.length ≤ w.accepted

/-- **What comes first into an empty file is a whole metadata record**: metadata comes whole or not
    at all, and nothing else comes where it does not, or where it is not asked for. -/
def Fresh (f : DataFile) : Input → Prop
  | .appendMetadata w => f.pieces = [] → w.Whole ∨ w.Nothing
  | .appendStatus metadata w | .appendLocation metadata w | .appendReading metadata w =>
    f.pieces = [] →
      if 0 < f.tell then w.Nothing else metadata.Whole ∨ (metadata.Nothing ∧ w.Nothing)
  | _ => True

section Appends

variable {f : DataFile}

/-- What an append leaves in the file. -/
theorem append_cases (kind : RecordKind) (w : Write) (f : DataFile) :
    (w.Nothing ∧ (append kind w f).2 = f) ∨
      ∃ record written, ¬ w.Nothing ∧ (w.Whole ↔ written = record.bytes.length) ∧
        (append kind w f).2.pieces = f.pieces ++ [⟨kind, record, written⟩] := by
  unfold append
  cases hencoded : w.encoded with
  | none => exact Or.inl ⟨Or.inl hencoded, rfl⟩
  | some record =>
      have hsame : ∀ n m : Nat, ∀ g : DataFile,
          (if n ≠ m then (0, g) else (m, g)).2 = g := by
        intro n m g
        split <;> rfl
      have hlength : 0 < record.bytes.length := List.length_pos_iff.mpr record.delimited
      dsimp only
      rw [hsame]
      unfold DataFile.write
      by_cases hzero : w.accepted = 0
      · refine Or.inl ⟨Or.inr hzero, ?_⟩
        rw [if_pos (by rw [hzero, Nat.zero_min])]
      · refine Or.inr ⟨record, min w.accepted record.bytes.length, ?_, ?_, ?_⟩
        · unfold Write.Nothing
          simp [hencoded, hzero]
        · unfold Write.Whole
          simp [hencoded]
        · rw [if_neg (by omega)]

theorem not_nothing_of_whole {w : Write} (h : w.Whole) : ¬ w.Nothing := by
  obtain ⟨record, hrecord, hlength⟩ := h
  have hpos : 0 < record.bytes.length := List.length_pos_iff.mpr record.delimited
  rintro (hnone | hzero)
  · rw [hnone] at hrecord
    cases hrecord
  · omega

/-- A file that holds something begins as before. -/
theorem first_append (kind : RecordKind) (w : Write) (hne : f.pieces ≠ []) :
    (append kind w f).2.pieces ≠ [] ∧ (First (append kind w f).2 ↔ First f) := by
  rcases append_cases kind w f with ⟨_, heq⟩ | ⟨record, written, _, _, heq⟩
  · rw [heq]
    exact ⟨hne, Iff.rfl⟩
  · unfold First
    rw [heq, List.head?_append_of_ne_nil _ hne]
    exact ⟨List.append_ne_nil_of_left_ne_nil hne _, Iff.rfl⟩

/-- An empty file begins with what is appended to it. -/
theorem first_append_nil (kind : RecordKind) (w : Write) (hnil : f.pieces = []) :
    First (append kind w f).2 ↔ (kind = .metadata ∧ w.Whole) ∨ w.Nothing := by
  rcases append_cases kind w f with ⟨hnothing, heq⟩ | ⟨record, written, hcomes, hwhole, heq⟩
  · rw [heq]
    unfold First
    rw [hnil]
    exact iff_of_true (fun p hp => nomatch hp) (Or.inr hnothing)
  · unfold First
    rw [heq, hnil, hwhole]
    simp [Piece.IsMetadata, hcomes]

/-- Metadata comes first, or it does not. -/
theorem append_metadata_first (w : Write) (hfirst : First f) :
    First (append .metadata w f).2 ↔ (f.pieces = [] → w.Whole ∨ w.Nothing) := by
  by_cases hnil : f.pieces = []
  · rw [first_append_nil .metadata w hnil]
    simp [hnil]
  · rw [(first_append .metadata w hnil).2]
    exact iff_of_true hfirst fun h => absurd h hnil

/-- What the file is when the record comes: its metadata was asked for if nothing was in it. -/
theorem appendRecord_snd (kind : RecordKind) (metadata w : Write) (f : DataFile) :
    (appendRecord kind metadata w f).2 =
      (append kind w (if 0 < f.tell then f else (append .metadata metadata f).2)).2 := by
  unfold appendRecord appendMetadataIfNecessary appendMetadata
  by_cases htell : 0 < f.tell
  · rw [if_pos htell, if_pos htell]
    rfl
  · rw [if_neg htell, if_neg htell]
    rfl

/-- **One call**: the record of a call never makes up for its metadata. -/
theorem append_first_iff (kind : RecordKind) (hkind : kind ≠ .metadata) (metadata w : Write)
    (hfirst : First f) :
    First (appendRecord kind metadata w f).2 ↔
      (f.pieces = [] →
        if 0 < f.tell then w.Nothing else metadata.Whole ∨ (metadata.Nothing ∧ w.Nothing)) := by
  rw [appendRecord_snd]
  by_cases hnil : f.pieces = []
  · by_cases htell : 0 < f.tell
    · rw [if_pos htell, first_append_nil kind w hnil, if_pos htell]
      simp [hnil, hkind]
    · rw [if_neg htell, if_neg htell]
      rcases append_cases .metadata metadata f with
        ⟨hnothing, heq⟩ | ⟨record, written, hcomes, _, heq⟩
      · have hnot : ¬ metadata.Whole := fun h => not_nothing_of_whole h hnothing
        rw [heq, first_append_nil kind w hnil]
        simp [hnil, hkind, hnothing, hnot]
      · have hne : (append .metadata metadata f).2.pieces ≠ [] := by
          rw [heq]
          exact List.append_ne_nil_of_right_ne_nil _ (List.cons_ne_nil _ _)
        rw [(first_append kind w hne).2, append_metadata_first metadata hfirst]
        simp [hcomes]
  · have hmetadata := first_append .metadata metadata hnil
    have hbefore : First (if 0 < f.tell then f else (append .metadata metadata f).2) ∧
        (if 0 < f.tell then f else (append .metadata metadata f).2).pieces ≠ [] := by
      split
      · exact ⟨hfirst, hnil⟩
      · exact ⟨hmetadata.2.mpr hfirst, hmetadata.1⟩
    rw [(first_append kind w hbefore.2).2]
    exact iff_of_true hbefore.1 fun h => absurd h hnil

/-- A file that is erased, or not, and opened again begins as before. -/
theorem first_reopen (gone opened : Bool) (hfirst : First f) : First (f.reopen gone opened) := by
  have hpieces : (f.reopen gone opened).pieces = if gone then [] else f.pieces := by
    cases opened <;> rfl
  unfold First
  rw [hpieces]
  split
  · exact fun p hp => nomatch hp
  · exact hfirst

end Appends

/-! ## 4. Runs -/

/-- What a step makes of a file that begins with metadata. -/
theorem step_first_iff {f f' : DataFile} {i : Input} (hfirst : First f) (hs : step f i = some f') :
    First f' ↔ Fresh f i := by
  cases i with
  | appendMetadata w =>
      cases hs
      exact append_metadata_first w hfirst
  | appendStatus metadata w =>
      cases hs
      exact append_first_iff .status (by decide) metadata w hfirst
  | appendLocation metadata w =>
      cases hs
      exact append_first_iff .location (by decide) metadata w hfirst
  | appendReading metadata w =>
      cases hs
      exact append_first_iff .reading (by decide) metadata w hfirst
  | erase number erased opening =>
      cases hs
      exact iff_of_true (first_reopen _ _ hfirst) trivial
  | eraseAll erased opening =>
      cases hs
      exact iff_of_true (first_reopen _ _ hfirst) trivial
  | reboot formatted opening =>
      obtain ⟨_, heq⟩ := Option.ite_none_right_eq_some.mp hs
      cases heq
      exact iff_of_true (first_reopen _ _ hfirst) trivial

/-- **In every run the data file begins with metadata exactly if what comes first into an empty
    file always is a whole metadata record.** -/
theorem first_iff {tr : List (DataFile × Input)} {f : DataFile} (h : Run step {} tr f) :
    (Meets (fun f _ => First f) tr ∧ First f) ↔ Meets Fresh tr := by
  have hempty : First {} := fun p hp => nomatch hp
  refine h.meets_iff Fresh First First hempty (fun _ hf => hf) ?_
  intro f i f' hf hs
  exact ⟨(step_first_iff hf hs).mpr, (step_first_iff hf hs).mp⟩

/-- A message of two bytes that the file takes. -/
def shortMessage : Write where
  encoded := some { bytes := [1, 0] }
  accepted := 2

/-- A message that cannot be encoded. -/
def noMessage : Write where
  encoded := none
  accepted := 0

/-- A status behind its metadata. -/
theorem first_iff_status : ∃ tr f, Run step {} tr f ∧ f.pieces.map (·.kind) = [.metadata, .status] ∧
    ((Meets (fun f _ => First f) tr ∧ First f) ↔ Meets Fresh tr) := by
  have hexec : (exec step {} [.appendStatus shortMessage shortMessage]).map
      (fun f => f.pieces.map (·.kind)) = some [.metadata, .status] := by decide
  obtain ⟨tr, f, hr, hkinds⟩ := run_of_exec_map hexec
  exact ⟨tr, f, hr, hkinds, first_iff hr⟩

/-- **A status whose metadata cannot be encoded**: the file begins with the status. -/
theorem status_first : ¬ ∀ tr f, Run step {} tr f → f.pieces ≠ [] → First f := by
  have hexec : (exec step {} [.appendStatus noMessage shortMessage]).map
      (fun f => f.pieces.map (·.kind)) = some [.status] := by decide
  intro hall
  obtain ⟨tr, f, hr, hkinds⟩ := run_of_exec_map hexec
  obtain ⟨p, hp, hkind⟩ := List.map_eq_singleton_iff.mp hkinds
  have hmetadata : p.kind = .metadata :=
    (hall tr f hr (by rw [hp]; exact List.cons_ne_nil _ _) p (by rw [hp]; exact Option.mem_some_self p)).1
  rw [hkind] at hmetadata
  cases hmetadata

end FieldKit.DataLogging

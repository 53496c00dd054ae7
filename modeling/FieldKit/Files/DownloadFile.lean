/-
  File:      FieldKit/Files/DownloadFile.lean
  Subject:   Does a download deliver what its header announces (download_file_task.cpp)?

  The header announces `size() - tell()` of the one file copy that all transfers share, and
  `beginFileCopy` may fail before it has prepared that copy: the failure is logged, and the task
  goes on with what an earlier transfer left behind.

  * `read_rest`, `copyOrDone_conserves` -- what the copy holds and has yet to read is what it sends;
  * `download_delivers_iff` -- the header and the bytes are those of the request for metadata only,
    or a range within the file, and otherwise by chance;
  * `leftover_delivered` -- of a file that cannot be opened the rest of another one is sent.
-/
import FieldKit.Files.ReadRange

namespace FieldKit

/-! ## 1. What a copy has yet to send -/

namespace FileReader

/-- What the reads of an opened reader hand over, one after the other. -/
def rest (content : List Byte) (r : FileReader) : List Byte :=
  if r.done then [] else (content.drop r.position).take (r.size - r.tell).toNat

/-- Moving on by `n` bytes of what is left. -/
theorem left_after (r : FileReader) {n : Nat} (hn : n ≤ (r.size - r.tell).toNat) :
    (r.size - BitVec.ofNat 32 (r.position + n)).toNat = (r.size - r.tell).toNat - n := by
  have hleft := (r.size - r.tell).isLt
  have hsplit : r.size - BitVec.ofNat 32 (r.position + n) =
      (r.size - r.tell) - BitVec.ofNat 32 n := by
    rw [BitVec.ofNat_add, sub_add_eq_sub_sub]
    rfl
  rw [hsplit, BitVec.toNat_sub, BitVec.toNat_ofNat]
  omega

/-- What is left after a read that filled its buffer, or came to the end of the file. -/
theorem rest_after (content : List Byte) {r : FileReader} (hdone : r.done = false) {n : Nat}
    (hn : n ≤ (r.size - r.tell).toNat) {r' : FileReader}
    (hr' : r' = { r with
      position := r.position + ((content.drop r.position).take n).length
      done := decide (((content.drop r.position).take n).length < n) ||
        decide (BitVec.ofNat 32 (r.position + ((content.drop r.position).take n).length) =
          r.size) }) :
    rest content r = (content.drop r.position).take n ++ rest content r' := by
  have hrest : rest content r = (content.drop r.position).take (r.size - r.tell).toNat := by
    simp [rest, hdone]
  rw [hrest]
  rcases Nat.lt_or_ge (content.drop r.position).length n with hshort | hfull
  · have hdone' : r'.done = true := by
      rw [hr', List.take_of_length_le (Nat.le_of_lt hshort)]
      show (decide (_ < n) || _) = true
      rw [decide_eq_true hshort, Bool.true_or]
    rw [List.take_of_length_le (by omega), List.take_of_length_le (by omega)]
    simp [rest, hdone']
  · have hlen : ((content.drop r.position).take n).length = n := List.length_take_of_le hfull
    rw [hlen] at hr'
    have hnext : rest content r' =
        (content.drop (r.position + n)).take ((r.size - r.tell).toNat - n) := by
      rw [← left_after r hn, hr']
      unfold rest
      dsimp only
      split
      · next hend =>
          have hsize : BitVec.ofNat 32 (r.position + n) = r.size := by simpa using hend
          rw [hsize]
          simp
      · rfl
    rw [hnext, ← List.drop_drop, ← List.take_add, Nat.add_sub_cancel' hn]

/-- A read that hands over nothing is the last one. -/
theorem rest_end (content : List Byte) (r : FileReader) {size : Nat} (hsize : 0 < size)
    {r' : FileReader} (hr' : r'.done = (decide (0 < min size (r.size - r.tell).toNat) ||
      decide (BitVec.ofNat 32 r.position = r.size))) : rest content r' = [] := by
  have hdone : r'.done = true := by
    rw [hr', Bool.or_eq_true, decide_eq_true_eq, decide_eq_true_eq]
    rcases Nat.eq_zero_or_pos (r.size - r.tell).toNat with hzero | hpos
    · right
      have hsub : r.size - r.tell = 0 := BitVec.eq_of_toNat_eq hzero
      exact (sub_eq_zero.mp hsub).symm
    · exact Or.inl (lt_min hsize hpos)
  simp [rest, hdone]

/-- **The reads hand over what `rest` says**, of a file that never hands over less than it has. -/
theorem read_rest {size available : Nat} (content : List Byte) (hsize : 0 < size)
    (hall : size ≤ available) :
    BufferedStreamCopier.ReadsFrom (FileReader.read content size available) (rest content) := by
  have hread (r : FileReader) (hdone : r.done = false) :
      ∃ bytes r', FileReader.read content size available r =
        (if bytes = [] then none else some bytes, r') ∧
      rest content r = bytes ++ rest content r' ∧ (bytes = [] → rest content r' = []) := by
    unfold FileReader.read
    rw [if_neg (by simp [hdone])]
    dsimp only
    rw [Nat.min_eq_right (Nat.le_trans (Nat.min_le_left _ _) hall)]
    refine ⟨_, _, rfl, rest_after content hdone (Nat.min_le_right _ _) rfl, fun hnil => ?_⟩
    refine rest_end content r hsize ?_
    rw [hnil]
    rfl
  constructor
  · intro r r' h
    cases hdone : r.done with
    | true =>
        have hr : r' = r := by
          unfold FileReader.read at h
          rw [if_pos hdone] at h
          cases h
          rfl
        rw [hr]
        simp [rest, hdone]
    | false =>
        obtain ⟨bytes, r1, hr, hrest, hend⟩ := hread r hdone
        rw [hr, Prod.mk.injEq] at h
        obtain ⟨hnone, rfl⟩ := h
        split at hnone
        · next hnil =>
            rw [hrest, hnil, hend hnil]
            exact ⟨rfl, rfl⟩
        · cases hnone
  · intro r r' bs h
    cases hdone : r.done with
    | true =>
        unfold FileReader.read at h
        rw [if_pos hdone] at h
        cases h
    | false =>
        obtain ⟨bytes, r1, hr, hrest, -⟩ := hread r hdone
        rw [hr, Prod.mk.injEq] at h
        obtain ⟨hsome, rfl⟩ := h
        split at hsome
        · cases hsome
        · cases hsome
          exact hrest

end FileReader

namespace FileCopyOperation

/-- What the copy has yet to send. -/
def pending (content : List Byte) (o : FileCopyOperation) : List Byte :=
  if o.busy then o.streamCopier.buffer ++ o.reader.rest content else []

/-- A turn over a file that hands over what it has and a socket that stays connected. -/
def Steady (t : Turn) : Prop := bufferSize ≤ t.available ∧ t.connected = true

/-- The copier, the reader and the socket in one steady turn: nothing is lost, and EOS means that
    there is nothing left. -/
theorem turn_conserves {content : List Byte} {t : Turn} (ht : Steady t)
    {c c' : BufferedStreamCopier Byte} {r r' : FileReader} {sent sent' : List Byte}
    {n : Option Nat} (h : c.copy (FileReader.read content bufferSize t.available)
      (WifiWriter.write t) r sent = (n, c', r', sent')) :
    sent' ++ (c'.buffer ++ r'.rest content) = sent ++ (c.buffer ++ r.rest content) ∧
      (n = none → c'.buffer ++ r'.rest content = []) := by
  have hreads := FileReader.read_rest content (by decide : 0 < bufferSize) ht.1
  refine ⟨?_, fun hn => ?_⟩
  · simpa using BufferedStreamCopier.copy_conserves hreads (WifiWriter.writes t) h
  · rcases BufferedStreamCopier.copy_cases h with ⟨-, hbuffer, hread, -⟩ | ⟨hsome, -⟩ | ⟨bs, hwrite⟩
    · rw [hbuffer, (hreads.eos _ _ hread).2, List.nil_append]
    · rw [hn] at hsome
      cases hsome
    · unfold WifiWriter.write at hwrite
      rw [if_pos ht.2, hn] at hwrite
      cases hwrite

/-- **Copying sends what is pending**, as far as it gets. -/
theorem copy_conserves (content : List Byte) {ts : List Turn} (hts : ∀ t ∈ ts, Steady t)
    (o : FileCopyOperation) (sent : List Byte) (hbusy : o.busy = true) :
    (o.copy content ts sent).2 ++ (o.copy content ts sent).1.pending content =
      sent ++ o.pending content := by
  induction ts generalizing o sent with
  | nil => rfl
  | cons t ts ih =>
      have ht := hts t List.mem_cons_self
      have hpending : o.pending content = o.streamCopier.buffer ++ o.reader.rest content := by
        simp [pending, hbusy]
      rw [hpending]
      unfold copy
      split
      · next h =>
          obtain ⟨hturn, hend⟩ := turn_conserves ht h
          rw [hend rfl, List.append_nil] at hturn
          rw [← hturn]
          simp [pending]
      · next h =>
          rw [← (turn_conserves ht h).1]
          simp [pending, hbusy]
      · next n c' r' sent' h =>
          have hnext := ih (fun t ht => hts t (List.mem_cons_of_mem _ ht))
            { o with
              streamCopier := c', reader := r', copied := o.copied + BitVec.ofNat 32 (n + 1) }
            sent' hbusy
          rw [hnext, ← (turn_conserves ht h).1]
          simp [pending, hbusy]

end FileCopyOperation

/-! ## 2. The task -/

/-- The metadata record, as it is encoded; its size is a `size_t`. -/
structure MetadataRecord where
  bytes : List Byte
  fits : bytes.length < 2 ^ 32

/-- What `beginFileCopy` meets: the file opens, and the seek succeeds or not; it does not open, and
    the reader of an earlier copy is left over a file object that is closed; or no copy has given
    the reader a file yet. -/
inductive BeginOutcome where
  | opened (seeks : Bool)
  | closed (tell : Nat) (content : List Byte)
  | noFile

/-- A download: the settings, with the two flags that are looked at, the file, what
    `beginFileCopy` meets, and the metadata record: whether it is encoded, and whether the header
    is then taken. -/
structure DownloadFile where
  offset : BitVec 32
  length : BitVec 32
  metadataOnly : Bool
  prependMetadata : Bool
  content : List Byte
  addressable : content.length < 2 ^ 64
  begun : BeginOutcome
  record : MetadataRecord
  encoded : Bool
  headerTaken : Bool

/-- `DownloadFileTask`: the shared file copy, `fileData.size` of the header, and what the socket has
    taken after the header. -/
structure DownloadState where
  fileCopy : FileCopyOperation
  began : Bool := false
  announced : BitVec 32 := 0
  sent : List Byte := []

namespace DownloadFile

open FileCopyOperation ReadRange

/-- The bytes the shared file copy reads. -/
def source (d : DownloadFile) : List Byte :=
  match d.begun with
  | .closed _ content => content
  | _ => d.content

/-- `beginFileCopy`, over the file copy that an earlier transfer has left. -/
def beginFileCopy (d : DownloadFile) (o : FileCopyOperation) : FileCopyOperation :=
  match d.begun with
  | .opened seeks => (o.prepare d.offset d.length d.content.length seeks).2
  | .closed position _ => { o with reader := { o.reader with position } }
  | .noFile => o

/-- `enqueued()`. -/
def enqueued (d : DownloadFile) (o : FileCopyOperation) : DownloadState where
  fileCopy := d.beginFileCopy o

/-- The metadata that is sent. -/
def metadata (d : DownloadFile) : List Byte :=
  if d.prependMetadata || d.metadataOnly then d.record.bytes else []

/-- `calculateTotalSize(metadataSize)`. -/
def calculateTotalSize (d : DownloadFile) (o : FileCopyOperation) : BitVec 32 :=
  (if d.prependMetadata || d.metadataOnly then BitVec.ofNat 32 d.record.bytes.length else 0) +
    if d.metadataOnly then 0 else o.remaining

/-- `writeHeader`, and the metadata behind the header. -/
def writeHeader (d : DownloadFile) (s : DownloadState) : DownloadState :=
  { s with began := true, announced := d.calculateTotalSize s.fileCopy, sent := d.metadata }

/-- `task()`, once the header is written. -/
def copyOrDone (d : DownloadFile) (turns : List Turn) (s : DownloadState) :
    TaskEval × DownloadState :=
  if !d.metadataOnly && !s.fileCopy.isFinished then
    let (fileCopy, sent) := s.fileCopy.copy d.source turns s.sent
    (.idle, { s with fileCopy, sent })
  else (.done, s)

/-- `task()`; `none` is the version of a file that the reader does not have. -/
def task (d : DownloadFile) (turns : List Turn) (s : DownloadState) :
    Option (TaskEval × DownloadState) :=
  if s.began then some (d.copyOrDone turns s)
  else if d.encoded then
    match d.begun with
    | .noFile => none
    | _ =>
      if d.headerTaken then some (d.copyOrDone turns (d.writeHeader s)) else some (.error, s)
  else some (.error, s)

/-- The task is polled until it is done. -/
def run (d : DownloadFile) : List (List Turn) → DownloadState → Option DownloadState
  | [], _ => none
  | turns :: polls, s =>
    match d.task turns s with
    | some (.done, s') => some s'
    | some (e, s') => if e.isRunning then d.run polls s' else none
    | none => none

/-! ## 3. What is announced and what is sent -/

/-- **The download delivers what its header announces**: as many bytes, the metadata record if it is
    asked for, and the range unless only the metadata are. -/
def Delivers (d : DownloadFile) (s : DownloadState) : Prop :=
  s.sent.length = s.announced.toNat ∧
    s.sent = d.metadata ++ if d.metadataOnly then [] else range d.content d.offset d.length

/-- What a copy has yet to send is the range, and with the metadata it is as long as the header
    says. -/
def Copies (d : DownloadFile) (o : FileCopyOperation) : Prop :=
  o.pending d.source = range d.content d.offset d.length ∧
    (BitVec.ofNat 32 d.metadata.length + o.remaining).toNat =
      d.metadata.length + (range d.content d.offset d.length).length

/-- **When it does**: only the metadata are asked for; or the file opens, the range is within it, and
    the size of everything has 32 bits; or the seek fails, nothing was asked for, and that is what
    `offset + length` comes to; or the copy that was left behind is by chance the one asked for. -/
def Announced (d : DownloadFile) (o : FileCopyOperation) : Prop :=
  d.metadataOnly = true ∨
  match d.begun with
  | .opened true =>
    Within d.content.length d.offset d.length ∧
      d.metadata.length + (range d.content d.offset d.length).length < 2 ^ 32
  | .opened false => d.content.length ≤ d.offset.toNat ∧ d.offset + d.length = 0
  | .closed position _ => d.Copies { o with reader := { o.reader with position } }
  | .noFile => False

/-! ## 4. The task, poll after poll -/

section Run

variable {d : DownloadFile}

/-- What is sent, and what is still to be sent. -/
def outgoing (d : DownloadFile) (s : DownloadState) : List Byte :=
  s.sent ++ if d.metadataOnly then [] else s.fileCopy.pending d.source

/-- **A poll after the header keeps what goes out**, and when it is done nothing is left. -/
theorem copyOrDone_conserves {turns : List Turn} (hts : ∀ t ∈ turns, Steady t)
    (s : DownloadState) :
    d.outgoing (d.copyOrDone turns s).2 = d.outgoing s ∧
      (d.copyOrDone turns s).2.announced = s.announced ∧
      (d.copyOrDone turns s).2.began = s.began ∧
      ((d.copyOrDone turns s).1 = .done → (d.copyOrDone turns s).2.sent = d.outgoing s) := by
  unfold copyOrDone outgoing
  split
  · next h =>
      rw [Bool.and_eq_true, Bool.not_eq_true', Bool.not_eq_true'] at h
      have hbusy : s.fileCopy.busy = true := by simpa [isFinished] using h.2
      refine ⟨?_, rfl, rfl, fun hd => nomatch hd⟩
      simpa [h.1] using copy_conserves d.source hts s.fileCopy s.sent hbusy
  · next h =>
      refine ⟨rfl, rfl, rfl, fun _ => ?_⟩
      cases hm : d.metadataOnly with
      | true => simp
      | false =>
          have hbusy : s.fileCopy.busy = false := by simpa [hm, isFinished] using h
          simp [pending, hbusy]

/-- What a task that has begun ends with. -/
theorem run_began {polls : List (List Turn)} (hts : ∀ turns ∈ polls, ∀ t ∈ turns, Steady t)
    {s s' : DownloadState} (hbegan : s.began = true) (h : d.run polls s = some s') :
    s'.sent = d.outgoing s ∧ s'.announced = s.announced := by
  induction polls generalizing s with
  | nil => cases h
  | cons turns polls ih =>
      have htask : d.task turns s = some (d.copyOrDone turns s) := by
        unfold task
        rw [if_pos hbegan]
      obtain ⟨hout, hann, hkept, hdone⟩ :=
        copyOrDone_conserves (d := d) (hts turns List.mem_cons_self) s
      rw [run, htask] at h
      generalize d.copyOrDone turns s = result at h hout hann hkept hdone
      obtain ⟨e, s1⟩ := result
      dsimp only at hout hann hkept hdone
      cases e with
      | done =>
          cases h
          exact ⟨hdone rfl, hann⟩
      | error => cases h
      | idle | busy =>
          obtain ⟨hsent, hsize⟩ := ih (fun turns ht => hts turns (List.mem_cons_of_mem _ ht))
            (hkept.trans hbegan) h
          exact ⟨hsent.trans hout, hsize.trans hann⟩

/-- The first poll: the header is written, or the task does not go on. -/
theorem task_first (turns : List Turn) {s : DownloadState} (hbegan : s.began = false) :
    (d.begun ≠ .noFile ∧ d.task turns s = some (d.copyOrDone turns (d.writeHeader s))) ∨
      d.task turns s = none ∨ d.task turns s = some (.error, s) := by
  unfold task
  rw [if_neg (by simp [hbegan])]
  cases d.encoded with
  | false => exact Or.inr (Or.inr rfl)
  | true =>
      cases d.headerTaken with
      | false =>
          cases hbegun : d.begun with
          | noFile => exact Or.inr (Or.inl rfl)
          | opened | closed => exact Or.inr (Or.inr rfl)
      | true =>
          cases hbegun : d.begun with
          | noFile => exact Or.inr (Or.inl rfl)
          | opened | closed => exact Or.inl ⟨by simp, rfl⟩

/-- **What a task ends with**: the metadata and what was pending when it began, and the size that
    the header gave. -/
theorem run_done {polls : List (List Turn)} (hts : ∀ turns ∈ polls, ∀ t ∈ turns, Steady t)
    {o : FileCopyOperation} {s : DownloadState} (h : d.run polls (d.enqueued o) = some s) :
    s.sent = d.metadata ++
        (if d.metadataOnly then [] else (d.beginFileCopy o).pending d.source) ∧
      s.announced = d.calculateTotalSize (d.beginFileCopy o) ∧ d.begun ≠ .noFile := by
  cases polls with
  | nil => cases h
  | cons turns polls =>
      rcases task_first (d := d) turns (rfl : (d.enqueued o).began = false) with
        ⟨hfile, htask⟩ | htask | htask
      · have hsame : d.run (turns :: polls) (d.enqueued o) =
            d.run (turns :: polls) (d.writeHeader (d.enqueued o)) := by
          rw [run, run, htask]
          rfl
        rw [hsame] at h
        obtain ⟨hsent, hann⟩ := run_began hts rfl h
        exact ⟨hsent, hann, hfile⟩
      · rw [run, htask] at h
        cases h
      · rw [run, htask] at h
        cases h

end Run

/-! ## 5. What a prepared copy has to send -/

section Prepared

variable (d : DownloadFile)

/-- The reader that `prepare` opens. -/
def openedReader (d : DownloadFile) : FileReader :=
  (({} : FileReader).open d.offset d.length d.content.length true).2

/-- The range that was asked for. -/
def requested (d : DownloadFile) : List Byte := range d.content d.offset d.length

/-- **What `remaining()` says of a range that begins inside the file**: its length, in 32 bits. -/
theorem left_opened (hinside : d.offset.toNat ≤ d.content.length) :
    (d.openedReader.size - d.openedReader.tell).toNat = d.requested.length % 2 ^ 32 := by
  have htell : d.openedReader.tell = BitVec.ofNat 32 d.offset.toNat := by
    show BitVec.ofNat 32 (min d.offset.toNat d.content.length) = _
    rw [Nat.min_eq_left hinside]
  have hsize := size_open d.offset d.length {} d.addressable
  rw [if_pos hinside, ← length_range] at hsize
  rw [htell]
  show ((({} : FileReader).open d.offset d.length d.content.length true).2.size - _).toNat = _
  rw [hsize, BitVec.toNat_sub, BitVec.toNat_ofNat, BitVec.toNat_ofNat]
  show _ = (range d.content d.offset d.length).length % 2 ^ 32
  have hoffset := d.offset.isLt
  omega

/-- **What `remaining()` says otherwise**: nothing, if the range is within the file. -/
theorem left_opened_behind (hbehind : d.content.length < d.offset.toNat) :
    d.requested = [] ∧ ((d.openedReader.size - d.openedReader.tell).toNat = 0 ↔
      Within d.content.length d.offset d.length) := by
  have hnil : d.requested = [] := by
    unfold requested
    rw [range_eq_take, List.drop_eq_nil_of_le (Nat.le_of_lt hbehind), List.take_nil]
  have hshort : d.content.length < 2 ^ 32 := hbehind.trans d.offset.isLt
  refine ⟨hnil, fun hzero => ?_, fun hwithin => ?_⟩
  · refine within_of_remaining d.offset d.length {} hshort ?_
    show _ = d.requested.length
    rw [hnil]
    exact hzero
  · have hleft := (open_at d.offset d.length {} hshort hwithin).remaining hshort
    rw [show range d.content d.offset d.length = [] from hnil] at hleft
    exact hleft

/-- What the reader that `prepare` opens hands over. -/
theorem rest_opened : d.openedReader.rest d.content =
    (d.content.drop (min d.offset.toNat d.content.length)).take
      (d.openedReader.size - d.openedReader.tell).toNat := rfl

/-- The metadata have a size. -/
theorem length_metadata : d.metadata.length < 2 ^ 32 := by
  unfold metadata
  split
  · exact d.record.fits
  · decide

/-- The sum that the header announces is no less than its parts. -/
theorem announced_eq_iff {m n : Nat} (hm : m < 2 ^ 32) (left : BitVec 32) :
    (BitVec.ofNat 32 m + left).toNat = m + n ↔ left.toNat = n ∧ m + n < 2 ^ 32 := by
  have hleft := left.isLt
  rw [BitVec.toNat_add, BitVec.toNat_ofNat]
  omega

variable (o : FileCopyOperation)

/-- **A file that opens**: what is copied and announced is the range, if it is within the file and
    everything has a size. -/
theorem copies_opened (hbegun : d.begun = .opened true) :
    d.Copies (d.beginFileCopy o) ↔ Within d.content.length d.offset d.length ∧
      d.metadata.length + d.requested.length < 2 ^ 32 := by
  have hcopy : d.beginFileCopy o = (o.prepare d.offset d.length d.content.length true).2 := by
    unfold beginFileCopy
    rw [hbegun]
  have hsource : d.source = d.content := by
    unfold source
    rw [hbegun]
  have hpending : (d.beginFileCopy o).pending d.source = d.openedReader.rest d.content := by
    rw [hcopy, hsource]
    rfl
  have hleft : (d.beginFileCopy o).remaining = d.openedReader.size - d.openedReader.tell := by
    rw [hcopy]
    rfl
  unfold Copies
  rw [hpending, hleft]
  show _ ∧ _ = _ + d.requested.length ↔ _
  rw [announced_eq_iff d.length_metadata, rest_opened]
  rcases Nat.lt_or_ge d.content.length d.offset.toNat with hbehind | hinside
  · obtain ⟨hnil, hwithin⟩ := d.left_opened_behind hbehind
    rw [show range d.content d.offset d.length = [] from hnil, hnil, List.length_nil, hwithin,
      Nat.min_eq_right (Nat.le_of_lt hbehind), List.drop_length, List.take_nil]
    exact ⟨fun h => h.2, fun h => ⟨rfl, h⟩⟩
  · rw [d.left_opened hinside, Nat.min_eq_left hinside]
    constructor
    · intro h
      obtain ⟨-, -, hsum⟩ := h
      exact ⟨Or.inl hinside, hsum⟩
    · intro h
      obtain ⟨-, hsum⟩ := h
      have hmod : d.requested.length % 2 ^ 32 = d.requested.length :=
        Nat.mod_eq_of_lt (by omega)
      rw [hmod]
      exact ⟨(range_eq_take d.offset d.length).symm, rfl, hsum⟩

/-- **A file whose seek fails**: nothing is copied, and `offset + length` is announced. -/
theorem copies_unsought (hbegun : d.begun = .opened false) :
    d.Copies (d.beginFileCopy o) ↔
      d.content.length ≤ d.offset.toNat ∧ d.offset + d.length = 0 := by
  have hcopy : d.beginFileCopy o = (o.prepare d.offset d.length d.content.length false).2 := by
    unfold beginFileCopy
    rw [hbegun]
  have hpending : (d.beginFileCopy o).pending d.source = [] := by
    rw [hcopy]
    unfold pending
    split <;> rfl
  have hleft : (d.beginFileCopy o).remaining = d.offset + d.length := by
    rw [hcopy]
    show d.length + d.offset - BitVec.ofNat 32 0 = _
    rw [BitVec.add_comm]
    simp
  have hnil : range d.content d.offset d.length = [] ↔ d.content.length ≤ d.offset.toNat := by
    rw [← List.length_eq_zero_iff, length_range]
    split
    · exact Nat.sub_eq_zero_iff_le
    · next hlength =>
        have hpos : d.length.toNat ≠ 0 := fun h => hlength (BitVec.eq_of_toNat_eq h)
        omega
  unfold Copies
  rw [hpending, hleft, announced_eq_iff d.length_metadata, ← hnil]
  constructor
  · intro h
    obtain ⟨hrange, hzero, -⟩ := h
    rw [← hrange] at hzero
    exact ⟨hrange.symm, BitVec.eq_of_toNat_eq hzero⟩
  · intro h
    obtain ⟨hrange, hzero⟩ := h
    rw [hrange, hzero]
    exact ⟨rfl, rfl, d.length_metadata⟩

/-- **When what is copied and announced is the range.** -/
theorem copies_iff (hfile : d.begun ≠ .noFile) (hdata : d.metadataOnly = false) :
    d.Copies (d.beginFileCopy o) ↔ d.Announced o := by
  unfold Announced
  rw [hdata]
  simp only [Bool.false_eq_true, false_or]
  cases hbegun : d.begun with
  | opened seeks =>
      cases seeks with
      | true => exact d.copies_opened o hbegun
      | false => exact d.copies_unsought o hbegun
  | closed position content =>
      have hcopy : d.beginFileCopy o = { o with reader := { o.reader with position } } := by
        unfold beginFileCopy
        rw [hbegun]
      rw [hcopy]
  | noFile => exact absurd hbegun hfile

end Prepared

/-- **When a download that is done has delivered what its header announced.** -/
theorem download_delivers_iff (d : DownloadFile) (o : FileCopyOperation)
    (polls : List (List Turn)) (hts : ∀ turns ∈ polls, ∀ t ∈ turns, Steady t) (s : DownloadState)
    (h : d.run polls (d.enqueued o) = some s) : d.Delivers s ↔ d.Announced o := by
  obtain ⟨hsent, hsize, hfile⟩ := run_done hts h
  unfold Delivers
  rw [hsent, hsize]
  cases hdata : d.metadataOnly with
  | true =>
      have htotal : d.calculateTotalSize (d.beginFileCopy o) =
          BitVec.ofNat 32 d.metadata.length := by
        simp [calculateTotalSize, metadata, hdata]
      rw [htotal, BitVec.toNat_ofNat, Nat.mod_eq_of_lt d.length_metadata]
      simp [Announced, hdata]
  | false =>
      have htotal : d.calculateTotalSize (d.beginFileCopy o) =
          BitVec.ofNat 32 d.metadata.length + (d.beginFileCopy o).remaining := by
        unfold calculateTotalSize metadata
        rw [hdata]
        cases d.prependMetadata <;> rfl
      rw [htotal, ← copies_iff d o hfile hdata]
      simp only [Bool.false_eq_true, if_false]
      rw [List.append_cancel_left_eq]
      unfold Copies
      constructor
      · intro h
        obtain ⟨hlen, hbytes⟩ := h
        rw [hbytes, List.length_append] at hlen
        exact ⟨hbytes, hlen.symm⟩
      · intro h
        obtain ⟨hbytes, hlen⟩ := h
        rw [hbytes, List.length_append]
        exact ⟨hlen.symm, rfl⟩

/-- A turn that takes a whole buffer. -/
def wholeTurn : Turn := ⟨256, true, 256⟩

/-- The middle of a file of five bytes, behind two of metadata. -/
def middle : DownloadFile where
  offset := 1
  length := 3
  metadataOnly := false
  prependMetadata := true
  content := [1, 2, 3, 4, 5]
  addressable := by decide
  begun := .opened true
  record := ⟨[8, 9], by decide⟩
  encoded := true
  headerTaken := true

/-- Two turns and a last poll. -/
def twoTurns : List (List Turn) := [[wholeTurn, wholeTurn], []]

theorem twoTurns_steady : ∀ turns ∈ twoTurns, ∀ t ∈ turns, Steady t := by
  simp [twoTurns, wholeTurn, Steady, bufferSize]

/-- It is announced as five bytes, and they are sent. -/
theorem download_delivers_iff_middle : ∃ s,
    middle.run twoTurns (middle.enqueued {}) = some s ∧
      s.announced = 5 ∧ (middle.Delivers s ↔ middle.Announced {}) := by
  have hrun : (middle.run twoTurns (middle.enqueued {})).map (·.announced) = some 5 := by
    decide +kernel
  obtain ⟨s, hs, hann⟩ := Option.map_eq_some_iff.mp hrun
  exact ⟨s, hs, hann, download_delivers_iff middle {} twoTurns twoTurns_steady s hs⟩

/-- The same request, of a file that does not open. -/
def middleClosed : DownloadFile := { middle with begun := .closed 0 [] }

/-- An upload of another file was broken off before its last two bytes. -/
def brokenOff : FileCopyOperation where
  streamCopier := ⟨[6, 7]⟩
  reader := { offset := 0, length := 9, position := 9, opened := true, done := true }
  busy := true

/-- They are what is sent, and something else is announced. -/
theorem leftover_delivered : ¬ ∀ (d : DownloadFile) (o : FileCopyOperation)
    (polls : List (List Turn)), (∀ turns ∈ polls, ∀ t ∈ turns, Steady t) → ∀ s : DownloadState,
    d.run polls (d.enqueued o) = some s → d.Delivers s := by
  intro hall
  have hrun : (middleClosed.run twoTurns (middleClosed.enqueued brokenOff)).map
      (fun s => (s.sent, s.announced)) = some ([8, 9, 6, 7], 11) := by decide +kernel
  obtain ⟨s, hs, hout⟩ := Option.map_eq_some_iff.mp hrun
  rw [Prod.mk.injEq] at hout
  have hlen := (hall middleClosed brokenOff twoTurns twoTurns_steady s hs).1
  rw [hout.1, hout.2] at hlen
  exact absurd hlen (by decide)

end DownloadFile

end FieldKit

/-
  File:      FieldKit/Firmware/Download.lean
  Subject:   `CheckFirmware::check` (check_firmware.cpp) behind its request: what is downloaded, and when
             is it committed?

  The socket hands over the response as it likes: which rounds of the outer loop find how many
  bytes, and when the connection ends, is the environment's. The flash file keeps what it accepts
  of every write. What is not in the source is what has been received, what the parser was fed, what
  was given to the file, and whether it was short.

  `check` does not begin its parser: what its buffer for the etag holds is not known (`garbage`).
  The request, the lights and the states that follow are left out.

  * `download_committed` -- what a download does with any response that has a well-formed head,
    however it is delivered, and exactly when it is committed;
  * `cut_body_committed` -- a body that is cut off at its declared length.
-/
import FieldKit.Firmware.Storage
import FieldKit.Http.ResponseHead
import FieldKit.Lib.LittleEndian

namespace FieldKit.CheckFirmware

open Lib HttpResponseParser

/-! ## 1. The header of a firmware file -/

/-- `firmware_header_t`. -/
structure FirmwareHeader where
  version : BitVec 32 := 0
  time : BitVec 32 := 0
  size : BitVec 32 := 0
  module : List Byte := []
  etag : List Byte := []
  deriving DecidableEq, Repr

/-- `FIRMWARE_HEADER_MODULE_MAXIMUM` and `FIRMWARE_HEADER_TAG_MAXIMUM`. -/
def nameMaximum : Nat := 64

/-- `strncpy` of a string into an array of zeros, but for its last byte. -/
def charArray (s : List Byte) : List Byte :=
  let kept := (s.takeWhile (· ≠ 0)).take (nameMaximum - 1)
  kept ++ List.replicate (nameMaximum - kept.length) 0

/-- The header as it lies in memory. -/
def FirmwareHeader.bytes (h : FirmwareHeader) : List Byte :=
  toLE 4 h.version.toNat ++ (toLE 4 h.time.toNat ++ (toLE 4 h.size.toNat ++
    (charArray h.module ++ charArray h.etag)))

/-- `sizeof(firmware_header_t)`. -/
def sizeofHeader : Nat := 140

/-- The header of a file that is downloaded: what the parser says of it. -/
def downloadHeader (p : HttpResponseParser) : FirmwareHeader where
  version := 1
  size := p.contentLength
  etag := p.etag

theorem charArray_length (s : List Byte) : (charArray s).length = nameMaximum := by
  unfold charArray
  have hkept := List.length_take_le (nameMaximum - 1) (s.takeWhile (· ≠ 0))
  have hmax : nameMaximum = 64 := rfl
  rw [List.length_append, List.length_replicate]
  omega

@[simp] theorem header_length (h : FirmwareHeader) : h.bytes.length = sizeofHeader := by
  simp only [FirmwareHeader.bytes, List.length_append, length_toLE, charArray_length]
  rfl

/-! ## 2. The download -/

/-- `WifiSocketBufferSize` of tuning.h. -/
def wifiSocketBufferSize : Nat := 1472

/-- `WifiConnectionTimeout` of tuning.h. -/
def wifiConnectionTimeout : Uptime := 20 * seconds

/-- What the environment decides while bytes are available: how many a read into the buffer hands
    over, how many the file accepts of them and of the header before them, and the clock. -/
structure Read where
  size : Nat
  positive : 0 < size
  fits : size ≤ wifiSocketBufferSize
  headerAccepted : Nat
  accepted : Nat
  now : Uptime

/-- A round of the outer loop: the clock, and the reads of the inner loop. -/
structure Round where
  now : Uptime
  reads : List Read

/-- The variables of `check`, and its socket: what is still to come of the response. -/
structure Download where
  rest : List Byte
  httpParser : HttpResponseParser
  writer : Bool := false
  file : List Byte := []
  total : BitVec 32 := 0
  activity : Uptime
  received : List Byte := []
  fed : List Byte := []
  writes : List (List Byte) := []
  short : Bool := false
  deriving DecidableEq, Repr

namespace Download

/-- `writer->write(bytes)`, of which the file accepts the first. -/
def write (bytes : List Byte) (accepted : Nat) (d : Download) : Download :=
  { d with
    file := d.file ++ bytes.take accepted
    writes := d.writes ++ [bytes]
    short := d.short || decide (accepted < bytes.length) }

/-- `firmwareStorage.write()`, and the header, once. -/
def openFile (accepted : Nat) (d : Download) : Download :=
  if d.writer then d
  else { d with writer := true }.write (downloadHeader d.httpParser).bytes accepted

/-- What is done with bytes of the body. -/
def store (r : Read) (bytes : List Byte) (d : Download) : Download :=
  if d.httpParser.statusCode = 200 then
    let d := (d.openFile r.headerAccepted).write bytes r.accepted
    { d with total := d.total + BitVec.ofNat 32 bytes.length, activity := r.now }
  else d

/-- The inner loop, once: one byte of the header, or as many of the body as the socket likes. -/
def read (r : Read) (d : Download) : Download :=
  match d.rest with
  | [] => d
  | c :: cs =>
    if d.httpParser.readingHeader then
      { d with
        rest := cs
        httpParser := d.httpParser.write c
        received := d.received ++ [c]
        fed := d.fed ++ [c] }
    else
      let bytes := d.rest.take r.size
      { d with rest := d.rest.drop r.size, received := d.received ++ bytes }.store r bytes

/-- The outer loop; behind the last round the socket is not connected any more. -/
def poll : List Round → Download → Download
  | [], d => d
  | r :: rs, d =>
    if wifiConnectionTimeout < r.now - d.activity then d
    else poll rs (r.reads.foldl (fun d x => d.read x) d)

/-- The parser as it is constructed. -/
def newParser (garbage : List Byte) : HttpResponseParser := { etag := garbage }

/-- Behind the request. -/
def start (response garbage : List Byte) (now : Uptime) : Download where
  rest := response
  httpParser := newParser garbage
  activity := now

end Download

/-! ## 3. The commit -/

/-- Where the allocator puts the file, the bank it is for, and what comes of saving the state. -/
structure Target where
  bank : FirmwareBank
  beginning : BlockAddress
  valid : beginning.valid = true
  blocks : Nat
  formatted : 0 < blocks
  saved : Bool

/-- How `check` ends. -/
inductive Outcome where
  | failed
  | unverified
  | committed
  deriving DecidableEq, Repr

/-- The flash with the file that was written. -/
def withFile (t : Target) (fl : Flash) (d : Download) : Flash :=
  if d.writer then
    { fl with table := fl.table.put t.beginning t.valid ⟨d.file, t.blocks, t.formatted⟩ }
  else fl

/-- `check`, behind its loops. -/
def finish (t : Target) (fl : Flash) (d : Download) : Outcome × Flash :=
  let fl := withFile t fl d
  if 0 < d.total ∧ d.writer = true then
    if d.total = d.httpParser.contentLength then
      if FirmwareStorage.verify t.beginning (d.total + BitVec.ofNat 32 sizeofHeader) fl then
        (.committed, (FirmwareStorage.update t.bank t.beginning t.saved fl).2)
      else (.unverified, fl)
    else (.failed, fl)
  else (.failed, fl)

/-! ## 4. What is received, fed and written -/

theorem write_withTag (p : HttpResponseParser) (g : List Byte) (c : Byte) :
    ∃ g', ({ p with etag := g } : HttpResponseParser).write c = { p.write c with etag := g' } := by
  unfold HttpResponseParser.write
  split
  · refine ⟨g, ?_⟩
    unfold writeStatus push
    dsimp only
    split
    · split
      · rfl
      · split <;> rfl
    · rfl
  · split
    · exact ⟨_, rfl⟩
    · refine ⟨g, ?_⟩
      unfold push
      dsimp only
      split <;> rfl

/-- **What the buffer for the etag holds at first** changes nothing but the etag. -/
theorem feed_withTag (bytes : List Byte) (p : HttpResponseParser) (g : List Byte) :
    ∃ g', ({ p with etag := g } : HttpResponseParser).feed bytes =
      { p.feed bytes with etag := g' } := by
  induction bytes generalizing p g with
  | nil => exact ⟨g, rfl⟩
  | cons c cs ih =>
      obtain ⟨g', hwrite⟩ := write_withTag p g c
      obtain ⟨g'', hfeed⟩ := ih (p.write c) g'
      exact ⟨g'', by rw [feed_cons, hwrite, hfeed, feed_cons]⟩

/-- A new parser reads a head like one that was begun. -/
theorem feed_newParser (garbage bytes : List Byte) :
    ((Download.newParser garbage).feed bytes).readingHeader =
        (({} : HttpResponseParser).begin.feed bytes).readingHeader ∧
      ((Download.newParser garbage).feed bytes).statusCode =
        (({} : HttpResponseParser).begin.feed bytes).statusCode ∧
      ((Download.newParser garbage).feed bytes).contentLength =
        (({} : HttpResponseParser).begin.feed bytes).contentLength := by
  have hnew : Download.newParser garbage =
      ({ ({} : HttpResponseParser).begin with etag := garbage } : HttpResponseParser) := rfl
  obtain ⟨g, hfeed⟩ := feed_withTag bytes ({} : HttpResponseParser).begin garbage
  rw [hnew, hfeed]
  exact ⟨rfl, rfl, rfl⟩

/-- The parser behind a head. -/
def headRead (h : ResponseHead) (garbage : List Byte) : HttpResponseParser :=
  (Download.newParser garbage).feed h.bytes

/-- The header of the file that comes with a head. -/
def headerBytes (h : ResponseHead) (garbage : List Byte) : List Byte :=
  (downloadHeader (headRead h garbage)).bytes

theorem headRead_status (h : ResponseHead) (garbage : List Byte) :
    (headRead h garbage).statusCode = 200 ↔ h.status = 200 := by
  unfold headRead
  rw [(feed_newParser garbage h.bytes).2.1, ← BitVec.toNat_inj, head_status]
  rfl

theorem headRead_length (h : ResponseHead) (garbage : List Byte) :
    (headRead h garbage).contentLength.toNat = h.contentLength := by
  unfold headRead
  rw [(feed_newParser garbage h.bytes).2.2, head_contentLength]

/-- **What the file has accepted** of the bytes it was given. -/
structure Accepts (bytes : List Byte) (d : Download) : Prop where
  writes : d.writes.flatten = bytes
  whole : d.short = false → d.file = bytes
  cut : d.short = true → d.file.length < bytes.length

theorem Accepts.write {bytes : List Byte} {d : Download} (h : Accepts bytes d)
    (more : List Byte) (accepted : Nat) : Accepts (bytes ++ more) (d.write more accepted) where
  writes := by simp [Download.write, h.writes]
  whole hshort := by
    obtain ⟨hbefore, hmore⟩ := Bool.or_eq_false_iff.mp hshort
    have htake : more.take accepted = more :=
      List.take_of_length_le (Nat.le_of_not_lt (of_decide_eq_false hmore))
    show d.file ++ more.take accepted = bytes ++ more
    rw [h.whole hbefore, htake]
  cut hshort := by
    show (d.file ++ more.take accepted).length < (bytes ++ more).length
    rw [List.length_append, List.length_append, List.length_take]
    rcases Bool.eq_false_or_eq_true d.short with hbefore | hbefore
    · have hcut := h.cut hbefore
      omega
    · have hmore : accepted < more.length := by
        unfold Download.write at hshort
        rw [hbefore, Bool.false_or] at hshort
        exact of_decide_eq_true hshort
      rw [h.whole hbefore]
      omega

/-- Nothing is written. -/
structure Closed (d : Download) : Prop where
  writer : d.writer = false
  total : d.total = 0
  writes : d.writes = []
  file : d.file = []
  short : d.short = false

theorem Closed.accepts {d : Download} (h : Closed d) : Accepts [] d where
  writes := by rw [h.writes]; rfl
  whole _ := h.file
  cut hshort := by
    rw [h.short] at hshort
    cases hshort

/-- The header and these bytes are written. -/
structure Opened (bytes : List Byte) (d : Download) : Prop where
  writer : d.writer = true
  total : d.total = BitVec.ofNat 32 bytes.length
  accepts : Accepts ((downloadHeader d.httpParser).bytes ++ bytes) d

/-- What has been done with the part of the body that was received. -/
inductive Stored (d : Download) (b : List Byte) : Prop where
  | nothing (h : d.httpParser.statusCode ≠ 200 ∨ b = []) (closed : Closed d)
  | written (h : d.httpParser.statusCode = 200) (hb : b ≠ []) (opened : Opened b d)

theorem Stored.store {d : Download} {b : List Byte} (h : Stored d b) (r : Read)
    {bytes : List Byte} (hbytes : bytes ≠ []) : Stored (d.store r bytes) (b ++ bytes) := by
  unfold Download.store
  split
  · next hstatus =>
      have hopened : Accepts ((downloadHeader d.httpParser).bytes ++ b) (d.openFile r.headerAccepted) ∧
          d.total = BitVec.ofNat 32 b.length ∧ (d.openFile r.headerAccepted).writer = true ∧
          (d.openFile r.headerAccepted).total = d.total ∧
          (d.openFile r.headerAccepted).httpParser = d.httpParser := by
        unfold Download.openFile
        cases h with
        | nothing hnot closed =>
            obtain rfl : b = [] := hnot.resolve_left fun hne => hne hstatus
            have hclosed : Accepts [] ({ d with writer := true } : Download) :=
              ⟨closed.accepts.writes, closed.accepts.whole, closed.accepts.cut⟩
            have hwritten := hclosed.write (downloadHeader d.httpParser).bytes r.headerAccepted
            rw [if_neg (by simp [closed.writer]), List.append_nil]
            exact ⟨hwritten, closed.total, rfl, rfl, rfl⟩
        | written _ _ opened =>
            rw [if_pos opened.writer]
            exact ⟨opened.accepts, opened.total, opened.writer, rfl, rfl⟩
      obtain ⟨haccepts, htotal, hwriter, hsame, hparser⟩ := hopened
      have hwritten := haccepts.write bytes r.accepted
      rw [List.append_assoc] at hwritten
      refine .written (hparser ▸ hstatus) (by simp [hbytes]) ⟨hwriter, ?_, ?_⟩
      · show (d.openFile r.headerAccepted).total + _ = _
        rw [hsame, htotal, List.length_append, BitVec.ofNat_add]
      · have hheader : downloadHeader ((d.openFile r.headerAccepted).write bytes r.accepted).httpParser =
            downloadHeader d.httpParser := congrArg downloadHeader hparser
        rw [← hheader] at hwritten
        exact ⟨hwritten.writes, hwritten.whole, hwritten.cut⟩
  · next hstatus =>
      cases h with
      | nothing _ closed => exact .nothing (Or.inl hstatus) closed
      | written hcode _ _ => exact absurd hcode hstatus

/-- What the socket hands over is not stored yet. -/
theorem Stored.moved {d : Download} {b : List Byte} (h : Stored d b) (rest received : List Byte) :
    Stored { d with rest, received } b := by
  cases h with
  | nothing hnot closed =>
      exact .nothing hnot ⟨closed.writer, closed.total, closed.writes, closed.file, closed.short⟩
  | written hstatus hb opened =>
      exact .written hstatus hb
        ⟨opened.writer, opened.total, opened.accepts.writes, opened.accepts.whole,
          opened.accepts.cut⟩

/-- The file has nothing to do with the socket and the parser. -/
theorem store_frame (r : Read) (bytes : List Byte) (d : Download) :
    (d.store r bytes).rest = d.rest ∧ (d.store r bytes).received = d.received ∧
      (d.store r bytes).fed = d.fed ∧ (d.store r bytes).httpParser = d.httpParser := by
  unfold Download.store Download.openFile
  split
  · dsimp only
    split <;> exact ⟨rfl, rfl, rfl, rfl⟩
  · exact ⟨rfl, rfl, rfl, rfl⟩

/-! ## 5. Any segmentation -/

section Segments

variable {h : ResponseHead} {body garbage : List Byte} {d : Download}

/-- **Where a download is**, before and behind the end of the head. -/
inductive Stage (h : ResponseHead) (body garbage : List Byte) (d : Download) : Prop where
  | head (pre post : List Byte) (hsplit : h.bytes = pre ++ post) (hpost : post ≠ [])
      (hrest : d.rest = post ++ body) (hreceived : d.received = pre) (hfed : d.fed = pre)
      (hparser : d.httpParser = (Download.newParser garbage).feed pre) (closed : Closed d)
  | body (b post : List Byte) (hsplit : body = b ++ post) (hrest : d.rest = post)
      (hreceived : d.received = h.bytes ++ b) (hfed : d.fed = h.bytes)
      (hparser : d.httpParser = headRead h garbage) (stored : Stored d b)

theorem head_ne_nil (h : ResponseHead) : h.bytes ≠ [] := by
  rw [bytes_eq_front]
  exact List.append_ne_nil_of_right_ne_nil _ (List.cons_ne_nil _ _)

theorem stage_start (h : ResponseHead) (body garbage : List Byte) (now : Uptime) :
    Stage h body garbage (Download.start (h.bytes ++ body) garbage now) :=
  .head [] h.bytes rfl (head_ne_nil h) rfl rfl rfl rfl ⟨rfl, rfl, rfl, rfl, rfl⟩

/-- **A read inside the head**: the parser is fed one byte. -/
theorem stage_read_head {pre : List Byte} {c : Byte} {cs : List Byte}
    (hsplit : h.bytes = pre ++ c :: cs) (hrest : d.rest = c :: cs ++ body)
    (hreceived : d.received = pre) (hfed : d.fed = pre)
    (hparser : d.httpParser = (Download.newParser garbage).feed pre) (closed : Closed d) (r : Read) :
    Stage h body garbage (d.read r) := by
  have hproper : pre ≠ h.bytes := by
    intro heq
    have hlength := congrArg List.length hsplit
    rw [List.length_append, ← heq, List.length_cons] at hlength
    omega
  have hhead : d.httpParser.readingHeader = true := by
    rw [hparser, (feed_newParser garbage pre).1]
    exact (head_ends h).1 pre ⟨c :: cs, hsplit.symm⟩ hproper
  have hread : d.read r = { d with
      rest := cs ++ body
      httpParser := d.httpParser.write c
      received := d.received ++ [c]
      fed := d.fed ++ [c] } := by
    unfold Download.read
    rw [hrest, List.cons_append]
    dsimp only
    rw [if_pos hhead]
  have hfeed : d.httpParser.write c = (Download.newParser garbage).feed (pre ++ [c]) := by
    rw [hparser, feed_append]
    rfl
  have hclosed : Closed (d.read r) := by
    rw [hread]
    exact ⟨closed.writer, closed.total, closed.writes, closed.file, closed.short⟩
  rw [hread] at hclosed ⊢
  rcases List.eq_nil_or_concat cs with rfl | ⟨_, _, hcs⟩
  · -- the last byte of the head
    refine .body [] body rfl rfl ?_ ?_ ?_ (.nothing (Or.inr rfl) hclosed)
    · rw [List.append_nil, hsplit, hreceived]
    · rw [hsplit, hfed]
    · rw [headRead, hsplit]
      exact hfeed
  · refine .head (pre ++ [c]) cs (by simp [hsplit]) (by simp [hcs]) rfl ?_ ?_ hfeed hclosed
    · rw [hreceived]
    · rw [hfed]

/-- **A read behind the head**, of any size: what it hands over is stored. -/
theorem stage_read_body {b : List Byte} {c : Byte} {cs : List Byte}
    (hsplit : body = b ++ c :: cs) (hrest : d.rest = c :: cs)
    (hreceived : d.received = h.bytes ++ b) (hfed : d.fed = h.bytes)
    (hparser : d.httpParser = headRead h garbage) (stored : Stored d b) (r : Read) :
    Stage h body garbage (d.read r) := by
  have hover : d.httpParser.readingHeader = false := by
    rw [hparser, headRead, (feed_newParser garbage h.bytes).1]
    exact (head_ends h).2
  have hbytes : (c :: cs).take r.size ≠ [] := by
    have hsize := r.positive
    obtain ⟨n, hn⟩ : ∃ n, r.size = n + 1 := ⟨r.size - 1, by omega⟩
    rw [hn, List.take_succ_cons]
    exact List.cons_ne_nil _ _
  have hmoved : Stored ({ d with
      rest := (c :: cs).drop r.size
      received := d.received ++ (c :: cs).take r.size } : Download) b := stored.moved _ _
  unfold Download.read
  rw [hrest]
  dsimp only
  rw [hover, if_neg Bool.false_ne_true]
  obtain ⟨hrest', hreceived', hfed', hparser'⟩ := store_frame r ((c :: cs).take r.size)
    ({ d with
      rest := (c :: cs).drop r.size
      received := d.received ++ (c :: cs).take r.size } : Download)
  refine .body (b ++ (c :: cs).take r.size) ((c :: cs).drop r.size) ?_ hrest' ?_ ?_ ?_
    (hmoved.store r hbytes)
  · rw [List.append_assoc, List.take_append_drop]
    exact hsplit
  · rw [hreceived', hreceived, List.append_assoc]
  · exact hfed'.trans hfed
  · exact hparser'.trans hparser

/-- **One read**, of any size. -/
theorem stage_read (hd : Stage h body garbage d) (r : Read) :
    Stage h body garbage (d.read r) := by
  cases hd with
  | head pre post hsplit hpost hrest hreceived hfed hparser closed =>
      obtain ⟨c, cs, rfl⟩ := List.exists_cons_of_ne_nil hpost
      exact stage_read_head hsplit hrest hreceived hfed hparser closed r
  | body b post hsplit hrest hreceived hfed hparser stored =>
      cases post with
      | nil =>
          unfold Download.read
          rw [hrest]
          exact .body b [] hsplit hrest hreceived hfed hparser stored
      | cons c cs => exact stage_read_body hsplit hrest hreceived hfed hparser stored r

theorem stage_reads (hd : Stage h body garbage d) (rs : List Read) :
    Stage h body garbage (rs.foldl (fun d r => d.read r) d) := by
  induction rs generalizing d with
  | nil => exact hd
  | cons r rs ih => exact ih (stage_read hd r)

/-- **Any rounds.** -/
theorem stage_poll (hd : Stage h body garbage d) (rounds : List Round) :
    Stage h body garbage (d.poll rounds) := by
  induction rounds generalizing d with
  | nil => exact hd
  | cons r rs ih =>
      unfold Download.poll
      split
      · exact hd
      · exact ih (stage_reads hd r.reads)

/-- The part of the body that was received. -/
def bodyReceived (h : ResponseHead) (d : Download) : List Byte := d.received.drop h.bytes.length

/-- **What has been done so far**, in terms of what was received. -/
structure Progress (h : ResponseHead) (body garbage : List Byte) (d : Download) : Prop where
  received : d.received ++ d.rest = h.bytes ++ body
  fed : d.fed = h.bytes.take d.received.length
  parser : d.httpParser = (Download.newParser garbage).feed d.fed
  stored : Stored d (bodyReceived h d)
  begun : bodyReceived h d ≠ [] → d.fed = h.bytes

/-- When some of the body was received, the parser has read the head. -/
theorem Progress.parser_head (hd : Progress h body garbage d) (hsome : bodyReceived h d ≠ []) :
    d.httpParser = headRead h garbage := by
  rw [hd.parser, hd.begun hsome]
  rfl

theorem Stage.progress (hd : Stage h body garbage d) : Progress h body garbage d := by
  cases hd with
  | head pre post hsplit hpost hrest hreceived hfed hparser closed =>
      have hlength : pre.length ≤ h.bytes.length := by
        rw [hsplit, List.length_append]
        exact Nat.le_add_right _ _
      have hnone : bodyReceived h d = [] := by
        unfold bodyReceived
        rw [hreceived, List.drop_eq_nil_iff]
        exact hlength
      refine ⟨?_, ?_, ?_, ?_, fun hsome => absurd hnone hsome⟩
      · rw [hreceived, hrest, hsplit, List.append_assoc]
      · rw [hfed, hreceived, hsplit, List.take_left]
      · rw [hparser, hfed]
      · rw [hnone]
        exact .nothing (Or.inr rfl) closed
  | body b post hsplit hrest hreceived hfed hparser stored =>
      have hbody : bodyReceived h d = b := by
        unfold bodyReceived
        rw [hreceived, List.drop_left]
      refine ⟨?_, ?_, ?_, ?_, fun _ => hfed⟩
      · rw [hreceived, hrest, hsplit, List.append_assoc]
      · rw [hfed, hreceived, List.length_append, List.take_of_length_le (Nat.le_add_right _ _)]
      · rw [hparser, hfed]
        rfl
      · rw [hbody]
        exact stored

end Segments

/-! ## 6. The commit -/

section Commit

variable {h : ResponseHead} {body garbage : List Byte} {d : Download}

theorem verify_withFile (t : Target) (fl : Flash) (hd : d.writer = true) (size : BitVec 32) :
    FirmwareStorage.verify t.beginning size (withFile t fl d) = true ↔
      d.file.length = size.toNat := by
  have hfile : (withFile t fl d).table.files t.beginning =
      some ⟨d.file, t.blocks, t.formatted⟩ := by
    unfold withFile
    rw [if_pos hd]
    exact Function.update_self _ _ _
  rw [verify_iff]
  constructor
  · intro h
    obtain ⟨f, hf, hsize⟩ := h
    rw [hfile] at hf
    cases hf
    exact hsize
  · exact fun hsize => ⟨_, hfile, hsize⟩

/-- **What `check` makes of a download**, in its own terms. -/
theorem finish_outcome (t : Target) (fl : Flash) (d : Download) : (finish t fl d).1 =
    if (0 < d.total ∧ d.writer = true) ∧ d.total = d.httpParser.contentLength then
      if d.file.length = (d.total + BitVec.ofNat 32 sizeofHeader).toNat then .committed
      else .unverified
    else .failed := by
  unfold finish
  dsimp only
  by_cases hbegun : 0 < d.total ∧ d.writer = true
  · rw [if_pos hbegun]
    by_cases htotal : d.total = d.httpParser.contentLength
    · have hall : (0 < d.total ∧ d.writer = true) ∧ d.total = d.httpParser.contentLength :=
        ⟨hbegun, htotal⟩
      have hverify := verify_withFile t fl hbegun.2 (d.total + BitVec.ofNat 32 sizeofHeader)
      rw [if_pos htotal, if_pos hall]
      split
      · next htrue => rw [if_pos (hverify.mp htrue)]
      · next hfalse => rw [if_neg (mt hverify.mpr hfalse)]
    · have hnot : ¬ ((0 < d.total ∧ d.writer = true) ∧ d.total = d.httpParser.contentLength) :=
        fun hall => htotal hall.2
      rw [if_neg htotal, if_neg hnot]
  · have hnot : ¬ ((0 < d.total ∧ d.writer = true) ∧ d.total = d.httpParser.contentLength) :=
      fun hall => hbegun hall.1
    rw [if_neg hbegun, if_neg hnot]

/-- When it commits. -/
theorem finish_committed {t : Target} {fl : Flash} :
    (finish t fl d).1 = .committed ↔
      0 < d.total ∧ d.writer = true ∧ d.total = d.httpParser.contentLength ∧
        d.file.length = (d.total + BitVec.ofNat 32 sizeofHeader).toNat := by
  rw [finish_outcome]
  split
  · next hall =>
      split
      · next hlength => exact iff_of_true rfl ⟨hall.1.1, hall.1.2, hall.2, hlength⟩
      · next hlength => exact iff_of_false (by simp) fun h => hlength h.2.2.2
  · next hnot => exact iff_of_false (by simp) fun h => hnot ⟨⟨h.1, h.2.1⟩, h.2.2.1⟩

/-- A content length fits, with the header. -/
theorem contentLength_lt (h : ResponseHead) : h.contentLength < 2 ^ 31 := by
  unfold ResponseHead.contentLength
  cases hlast : (h.headers.filter (IsLength ·)).getLast? with
  | none => exact Nat.pow_pos (by decide)
  | some line => exact (h.number line hlast).2

/-- **When `check` commits**, in terms of the response: the body that was received is counted modulo
    2^32. -/
theorem committed_iff_received (hd : Progress h body garbage d) (t : Target) (fl : Flash) :
    (finish t fl d).1 = .committed ↔
      h.status = 200 ∧ (bodyReceived h d).length % 2 ^ 32 ≠ 0 ∧
        (bodyReceived h d).length % 2 ^ 32 = h.contentLength ∧
        d.file.length = sizeofHeader + (bodyReceived h d).length % 2 ^ 32 := by
  rw [finish_committed]
  cases hd.stored with
  | nothing hnot closed =>
      refine iff_of_false (by simp [closed.writer]) ?_
      intro h
      obtain ⟨hstatus, hlength, _, _⟩ := h
      have hsome : bodyReceived h d ≠ [] := by
        intro hnil
        rw [hnil] at hlength
        exact hlength rfl
      refine (hnot.resolve_right hsome) ?_
      rw [hd.parser_head hsome]
      exact (headRead_status h garbage).mpr hstatus
  | written hstatus hsome opened =>
      have hparser := hd.parser_head hsome
      have htotal : d.total.toNat = (bodyReceived h d).length % 2 ^ 32 := by
        rw [opened.total, BitVec.toNat_ofNat]
      have hpositive : 0 < d.total ↔ (bodyReceived h d).length % 2 ^ 32 ≠ 0 := by
        rw [BitVec.lt_def, htotal]
        exact Nat.pos_iff_ne_zero
      have hlength : d.total = d.httpParser.contentLength ↔
          (bodyReceived h d).length % 2 ^ 32 = h.contentLength := by
        rw [← BitVec.toNat_inj, htotal, hparser, headRead_length]
      rw [hparser, headRead_status] at hstatus
      rw [hpositive, hlength]
      have hfits := contentLength_lt h
      have hsize : (bodyReceived h d).length % 2 ^ 32 = h.contentLength →
          (d.total + BitVec.ofNat 32 sizeofHeader).toNat =
            sizeofHeader + (bodyReceived h d).length % 2 ^ 32 := by
        intro heq
        have hheader : sizeofHeader = 140 := rfl
        rw [BitVec.toNat_add, htotal, BitVec.toNat_ofNat, heq]
        omega
      constructor
      · intro h
        obtain ⟨hpos, _, hcl, hfile⟩ := h
        exact ⟨hstatus, hpos, hcl, hfile.trans (hsize hcl)⟩
      · intro h
        obtain ⟨_, hpos, hcl, hfile⟩ := h
        exact ⟨hpos, opened.writer, hcl, hfile.trans (hsize hcl).symm⟩

/-- What is written of a response. -/
theorem writes_received (hd : Progress h body garbage d) :
    d.writes.flatten = if h.status = 200 ∧ bodyReceived h d ≠ [] then
      headerBytes h garbage ++ bodyReceived h d else [] := by
  cases hd.stored with
  | nothing hnot closed =>
      rw [closed.writes, if_neg]
      · rfl
      · intro h
        obtain ⟨hstatus, hsome⟩ := h
        refine (hnot.resolve_right hsome) ?_
        rw [hd.parser_head hsome]
        exact (headRead_status h garbage).mpr hstatus
  | written hstatus hsome opened =>
      have hparser := hd.parser_head hsome
      rw [hparser, headRead_status] at hstatus
      rw [opened.accepts.writes, if_pos ⟨hstatus, hsome⟩, hparser]
      rfl

/-- What the file holds. -/
theorem accepts_received (hd : Progress h body garbage d) (hstatus : h.status = 200)
    (hsome : bodyReceived h d ≠ []) :
    Accepts (headerBytes h garbage ++ bodyReceived h d) d ∧ d.writer = true := by
  have hparser := hd.parser_head hsome
  have hcode : d.httpParser.statusCode = 200 := by
    rw [hparser]
    exact (headRead_status h garbage).mpr hstatus
  cases hd.stored with
  | nothing hnot closed => exact absurd hcode (hnot.resolve_right hsome)
  | written _ _ opened =>
      have haccepts := opened.accepts
      rw [hparser] at haccepts
      exact ⟨haccepts, opened.writer⟩

end Commit

/-- **A download**: what is fed, what is written, and when and what is committed. `b` is the part of
    the body that was received. -/
structure Downloads (h : ResponseHead) (body garbage : List Byte) (t : Target) (fl : Flash)
    (d : Download) (b : List Byte) : Prop where
  /-- What was received, and what was not, is the response. -/
  received : d.received ++ d.rest = h.bytes ++ body ∧ b = d.received.drop h.bytes.length
  /-- The parser is fed exactly the head. -/
  fed : d.fed = h.bytes.take d.received.length
  /-- Exactly the body is written, behind the header. -/
  writes : d.writes.flatten = if h.status = 200 ∧ b ≠ [] then headerBytes h garbage ++ b else []
  /-- `total` counts modulo 2^32, and a short write is seen in the size of the file only. -/
  counted : (finish t fl d).1 = .committed ↔ h.status = 200 ∧ b.length % 2 ^ 32 ≠ 0 ∧
    b.length % 2 ^ 32 = h.contentLength ∧ d.file.length = sizeofHeader + b.length % 2 ^ 32
  /-- What is committed is whole. -/
  committed : b.length < 2 ^ 32 → ((finish t fl d).1 = .committed ↔
    h.status = 200 ∧ b ≠ [] ∧ b.length = h.contentLength ∧ d.short = false)
  /-- The bank holds the header and the body. -/
  bank : b.length < 2 ^ 32 → (finish t fl d).1 = .committed →
    (finish t fl d).2.state.banks t.bank = t.beginning ∧
      (fl.state.banks t.bank ≠ t.beginning →
        ((finish t fl d).2.table.files t.beginning).map (·.content) =
          some (headerBytes h garbage ++ b))
  /-- Otherwise no bank is touched. -/
  untouched : (finish t fl d).1 ≠ .committed →
    (finish t fl d).2.state = fl.state ∧ (finish t fl d).2.persisted = fl.persisted

theorem withFile_state (t : Target) (fl : Flash) (d : Download) :
    (withFile t fl d).state = fl.state ∧ (withFile t fl d).persisted = fl.persisted := by
  unfold withFile
  split <;> exact ⟨rfl, rfl⟩

/-- What `check` leaves on the flash. -/
theorem finish_flash (t : Target) (fl : Flash) (d : Download) :
    (finish t fl d).2 = if (finish t fl d).1 = .committed then
      (FirmwareStorage.update t.bank t.beginning t.saved (withFile t fl d)).2
    else withFile t fl d := by
  unfold finish
  dsimp only
  split
  · split
    · split <;> rfl
    · rfl
  · rfl

/-- **What the loops leave is a download** of the body that was received. -/
theorem downloads_received {h : ResponseHead} {body garbage : List Byte} {d : Download}
    (hd : Progress h body garbage d) (t : Target) (fl : Flash) :
    Downloads h body garbage t fl d (bodyReceived h d) := by
  have hcounted := committed_iff_received hd t fl
  have hcommitted : (bodyReceived h d).length < 2 ^ 32 → ((finish t fl d).1 = .committed ↔
      h.status = 200 ∧ bodyReceived h d ≠ [] ∧ (bodyReceived h d).length = h.contentLength ∧
        d.short = false) := by
    intro hlt
    rw [hcounted, Nat.mod_eq_of_lt hlt, List.length_eq_zero_iff.ne]
    refine and_congr_right fun hstatus => and_congr_right fun hsome => and_congr_right fun _ => ?_
    have haccepts := (accepts_received hd hstatus hsome).1
    have hsize : (headerBytes h garbage ++ bodyReceived h d).length =
        sizeofHeader + (bodyReceived h d).length := by
      rw [List.length_append, headerBytes, header_length]
    rw [← hsize]
    constructor
    · intro hwhole
      by_contra hshort
      have hcut := haccepts.cut (by simpa using hshort)
      omega
    · intro hshort
      rw [haccepts.whole hshort]
  refine ⟨⟨hd.received, rfl⟩, hd.fed, writes_received hd, hcounted, hcommitted,
    fun hlt hdone => ?_, fun hnot => ?_⟩
  · obtain ⟨hstatus, hsome, _, hshort⟩ := (hcommitted hlt).mp hdone
    obtain ⟨haccepts, hwriter⟩ := accepts_received hd hstatus hsome
    obtain ⟨hstate, _⟩ := withFile_state t fl d
    rw [finish_flash, if_pos hdone, update_flash]
    constructor
    · exact Function.update_self _ _ _
    · intro hfresh
      have hother : t.beginning ≠ (withFile t fl d).state.banks t.bank := by
        rw [hstate]
        exact hfresh.symm
      rw [FileTable.files_erase, Function.update_of_ne hother]
      unfold withFile
      rw [if_pos hwriter, FileTable.files_put, Function.update_self, ← haccepts.whole hshort]
      rfl
  · rw [finish_flash, if_neg hnot]
    exact withFile_state t fl d

/-- **Any response with a well-formed head, delivered in any pieces**, to a file that may accept
    less than it is given: the parser is fed the head, the body is written behind the header, and it
    is committed exactly if the status is 200 and the file has accepted all of a body as long as was
    declared. -/
theorem download_committed (h : ResponseHead) (body garbage : List Byte) (started : Uptime)
    (rounds : List Round) (t : Target) (fl : Flash) :
    ∃ b, Downloads h body garbage t fl
      ((Download.start (h.bytes ++ body) garbage started).poll rounds) b :=
  ⟨_, downloads_received (stage_poll (stage_start h body garbage started) rounds).progress t fl⟩

/-- A read of one byte, which the file accepts. -/
def oneRead : Read where
  size := 1
  positive := Nat.one_pos
  fits := Nat.le_of_ble_eq_true rfl
  headerAccepted := sizeofHeader
  accepted := 1
  now := 0

/-- A new file at an address of its own. -/
def incoming : Target where
  bank := .Incoming
  beginning := { block := 9, position := 0 }
  valid := rfl
  blocks := 1
  formatted := Nat.one_pos
  saved := true

/-- The body is two bytes, one of them is declared, and the connection ends behind that one: it is
    committed, though the connection has ended early. -/
theorem cut_body_committed : ¬ ∀ (h : ResponseHead) (body garbage : List Byte) (started : Uptime)
    (rounds : List Round) (t : Target) (fl : Flash),
    let d := (Download.start (h.bytes ++ body) garbage started).poll rounds
    (d.rest = [] → ((finish t fl d).1 = .committed ↔
      h.status = 200 ∧ body ≠ [] ∧ body.length = h.contentLength ∧ d.short = false)) ∧
    (d.rest ≠ [] → (finish t fl d).1 ≠ .committed) := by
  intro hall
  obtain ⟨_, hearly⟩ := hall oneByte [1, 2] [] 0 [⟨0, List.replicate 39 oneRead⟩] incoming {}
  have hrest : ((Download.start (oneByte.bytes ++ [1, 2]) [] 0).poll
      [⟨0, List.replicate 39 oneRead⟩]).rest = [2] := by decide +kernel
  have hdone : (finish incoming {} ((Download.start (oneByte.bytes ++ [1, 2]) [] 0).poll
      [⟨0, List.replicate 39 oneRead⟩])).1 = .committed := by decide +kernel
  exact hearly (by rw [hrest]; exact List.cons_ne_nil _ _) hdone

end FieldKit.CheckFirmware

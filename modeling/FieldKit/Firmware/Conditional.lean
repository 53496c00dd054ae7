/-
  File:      FieldKit/Firmware/Conditional.lean
  Subject:   Conditional requests (check_firmware.cpp): the etag of an image goes from the response that
             brought it into the header of its file, and from there into the next request.

  The server is a function from the bytes of a request to a response. That it does not send what the
  device has is asked of it only for requests in which it reads the image's own etag.

  * `tag_sent` -- after an image was committed, every request for its bank carries the etag that the
    server gave it;
  * `downloaded_once` -- so an image is downloaded once, over any run of checks of all banks and of
    resets.
-/
import FieldKit.Http.RequestHead
import FieldKit.Firmware.Backup
import FieldKit.Firmware.Download
import FieldKit.Lib.CString
import FieldKit.Lib.Run

namespace FieldKit.CheckFirmware

open Lib HttpResponseParser FirmwareStorage

/-! ## 1. The request -/

/-- What a request says of the device. -/
structure Device where
  path : List Byte
  server : List Byte
  version : List Byte
  build : List Byte
  deviceId : List Byte
  compiled : BitVec 32
  deriving DecidableEq, Repr

/-- Its texts hold no CR and no LF. -/
structure Device.Plain (s : Device) : Prop where
  path : FieldKit.Plain s.path
  server : FieldKit.Plain s.server
  version : FieldKit.Plain s.version
  build : FieldKit.Plain s.build
  deviceId : FieldKit.Plain s.deviceId

/-- `header.etag` of what `header(bank, header)` has read, if the version is not the invalid one. -/
def headerTag (header : List Byte) : Option (List Byte) :=
  if header.take 4 = toLE 4 (2 ^ 32 - 1) then none else ctext (header.drop 76)

/-- The headers of a request of `check`. -/
def requestHeaders (s : Device) (header : List Byte) : OutgoingHttpHeaders where
  version := some s.version
  build := some s.build
  deviceId := some s.deviceId
  etag := headerTag header
  compiled := s.compiled

/-- The request of `check`. In front of the etag stands the end of `header.module`. -/
def request (s : Device) (bank : FirmwareBank) (fl : Flash) : List Byte :=
  let header := (FirmwareStorage.header bank fl).2
  HttpHeadersWriter.writeHeaders s.path s.server (literal ['G', 'E', 'T']) (header.getD 75 0)
    (requestHeaders s header)

/-- The name of the field that carries an etag. -/
def ifNoneMatch : List Byte :=
  literal ['I', 'f', '-', 'N', 'o', 'n', 'e', '-', 'M', 'a', 't', 'c', 'h']

/-- The server reads this etag in the request. -/
def Carries (tag bytes : List Byte) : Prop :=
  ∃ first fields body, readRequest bytes = some (first, fields, body) ∧ (ifNoneMatch, tag) ∈ fields

/-! ## 2. From the response to the file -/

section Tag

variable {h : ResponseHead}

/-- The response has an etag. -/
def Tagged (h : ResponseHead) : Prop := ∃ line ∈ h.headers, IsTag line

theorem tag_line (htag : Tagged h) :
    ∃ line, (h.headers.filter (IsTag ·)).getLast? = some line ∧ line ∈ h.headers ∧ IsTag line ∧
      h.etag = line.drop etagName.length := by
  obtain ⟨line, hline, hkind⟩ := htag
  have hmem : line ∈ h.headers.filter (IsTag ·) := List.mem_filter.mpr ⟨hline, decide_eq_true hkind⟩
  cases hlast : (h.headers.filter (IsTag ·)).getLast? with
  | none =>
      rw [List.getLast?_eq_none_iff.mp hlast] at hmem
      cases hmem
  | some last =>
      obtain ⟨hin, hlastKind⟩ := List.mem_filter.mp (List.mem_of_getLast? hlast)
      refine ⟨last, rfl, hin, of_decide_eq_true hlastKind, ?_⟩
      unfold ResponseHead.etag
      rw [hlast]
      rfl

/-- It is a string, and no longer than what the parser keeps of a line. -/
theorem tag_text (htag : Tagged h) : (∀ c ∈ h.etag, isLineEnd c = false ∧ c ≠ 0) ∧ h.etag.length ≤ 57 := by
  obtain ⟨line, _, hline, hkind, hetag⟩ := tag_line htag
  rw [hetag]
  refine ⟨fun c hc => (h.lines line hline).2 c (List.mem_of_mem_drop hc), ?_⟩
  have hshort := h.short line hline (Or.inr hkind)
  rw [List.length_drop]
  show line.length - 6 ≤ 57
  omega

theorem declaredTag_tagged (htag : Tagged h) : declaredTag h.bytes = some h.etag := by
  obtain ⟨line, hlast, hline, hkind, hetag⟩ := tag_line htag
  have hcut : cut line = line := List.take_of_length_le (h.short line hline (Or.inr hkind))
  unfold declaredTag
  rw [filterMap_head tagOf (by decide) h ((tagOf_eq _).trans (if_neg h.plain.2)),
    List.filterMap_congr fun line _ => tagOf_eq line, filterMap_kind, List.getLast?_map, hlast,
    Option.map_some, hcut, hetag]

/-- The parser of `check` behind the second space. -/
theorem feed_status_newParser (garbage lines : List Byte) :
    (Download.newParser garbage).feed
        (h.version ++ ascii ' ' :: (numeral h.status ++ ascii ' ' :: lines)) =
      ({ reading (BitVec.ofInt 16 (atoi (cut (numeral h.status)))) {} with
        etag := garbage } : HttpResponseParser).feed lines := by
  have hspaces : (Download.newParser garbage).spacesSeen < 2 := (by decide : (0 : BitVec 8) < 2)
  have hnumeral : ascii ' ' ∉ numeral h.status := not_mem_numeral h.status (by decide)
  rw [feed_append, feed_word rfl hspaces h.word [] rfl, feed_cons]
  show ({ Download.newParser garbage with spacesSeen := 1 } : HttpResponseParser).feed _ = _
  rw [feed_append, feed_word (p := { Download.newParser garbage with spacesSeen := 1 }) rfl
    (show (1 : BitVec 8) < 2 by decide) hnumeral [] rfl, feed_cons]
  rfl

/-- **A new parser reads the etag**, whatever its memory held before. -/
theorem headRead_tag (htag : Tagged h) (garbage : List Byte) : (headRead h garbage).etag = h.etag := by
  have hstatus := status_ne_zero h
  have hdeclared := declaredTag_tagged htag
  unfold declaredTag headerLines at hdeclared
  unfold ResponseHead.bytes at hdeclared
  rw [afterStatus_line h.word (not_mem_numeral h.status (by decide))] at hdeclared
  simp only [hstatus, if_false] at hdeclared
  unfold headRead ResponseHead.bytes
  rw [feed_status_newParser,
    (feed_lines _ (p := { reading (BitVec.ofInt 16 (atoi (cut (numeral h.status)))) {} with
      etag := garbage }) hstatus [] rfl).2.2, hdeclared]
  rfl

/-! ## 3. From the file to the request -/

theorem charArray_text {t : List Byte} (ht : ∀ c ∈ t, c ≠ 0) (hlength : t.length ≤ 63) :
    charArray t = t ++ List.replicate (64 - t.length) 0 := by
  have hkept : (t.takeWhile (· ≠ 0)).take (nameMaximum - 1) = t := by
    rw [List.takeWhile_eq_self_iff.mpr fun c hc => decide_eq_true (ht c hc)]
    exact List.take_of_length_le hlength
  unfold charArray
  dsimp only
  rw [hkept]
  rfl

/-- **The header of a downloaded file shows the etag**, and a zero in front of it. -/
theorem headerTag_download {p : HttpResponseParser} (ht : ∀ c ∈ p.etag, c ≠ 0)
    (hlength : p.etag.length ≤ 57) :
    headerTag (downloadHeader p).bytes = some p.etag ∧ (downloadHeader p).bytes.getD 75 0 = 0 := by
  have hbytes : (downloadHeader p).bytes =
      (toLE 4 1 ++ (toLE 4 0 ++ toLE 4 p.contentLength.toNat) ++ List.replicate 64 0) ++
        charArray p.etag := by
    unfold FirmwareHeader.bytes
    simp only [List.append_assoc]
    rfl
  have hfront : (toLE 4 1 ++ (toLE 4 0 ++ toLE 4 p.contentLength.toNat)).length = 12 := by
    simp only [List.length_append, length_toLE]
  constructor
  · have hvalid : (downloadHeader p).bytes.take 4 ≠ toLE 4 (2 ^ 32 - 1) := by
      rw [hbytes, List.append_assoc, List.append_assoc, List.take_left' (length_toLE 4 1)]
      decide
    have harray : (downloadHeader p).bytes.drop 76 = charArray p.etag := by
      rw [hbytes]
      exact List.drop_left' (by rw [List.length_append, hfront, List.length_replicate])
    obtain ⟨n, hn⟩ : ∃ n, 64 - p.etag.length = n + 1 := ⟨63 - p.etag.length, by omega⟩
    unfold headerTag
    rw [if_neg hvalid, harray, charArray_text ht (by omega), hn, List.replicate_succ]
    exact ctext_ended (fun h0 => ht 0 h0 rfl) _
  · rw [hbytes, List.getD_eq_getElem?_getD, List.append_assoc,
      List.getElem?_append_right (by rw [hfront]; decide), hfront,
      List.getElem?_append_left (by decide)]
    rfl

/-- What is sent for an etag: it goes in quotes, if it does not begin or end with one. -/
def sentTag (h : ResponseHead) : List Byte := HttpHeadersWriter.quoted 0 h.etag

/-- The bank designates a file that came with this head. -/
def Holds (bank : FirmwareBank) (h : ResponseHead) (garbage body : List Byte) (fl : Flash) : Prop :=
  (fl.table.files (fl.state.banks bank)).map (·.content) = some (headerBytes h garbage ++ body)

theorem readHeader_holds {bank : FirmwareBank} {garbage body : List Byte} {fl : Flash}
    (hholds : Holds bank h garbage body fl) : (FirmwareStorage.header bank fl).2 = headerBytes h garbage := by
  obtain ⟨f, hf, hcontent⟩ := Option.map_eq_some_iff.mp hholds
  have hlength : (headerBytes h garbage).length = headerSize := header_length _
  unfold FirmwareStorage.header
  rw [hf]
  dsimp only
  rw [hcontent, List.take_left' hlength, hlength, Nat.sub_self, List.replicate_zero, List.append_nil]

/-- **The next request for the bank carries the etag** of its image. -/
theorem tag_sent {s : Device} {bank : FirmwareBank} {garbage body : List Byte} {fl : Flash}
    (hs : s.Plain) (htag : Tagged h) (hholds : Holds bank h garbage body fl) :
    Carries (sentTag h) (request s bank fl) := by
  obtain ⟨htext, hlength⟩ := tag_text htag
  have hetag := headRead_tag htag garbage
  obtain ⟨hheader, hbefore⟩ := headerTag_download (p := headRead h garbage)
    (by rw [hetag]; exact fun c hc => (htext c hc).2) (by rw [hetag]; exact hlength)
  rw [hetag] at hheader
  have hplain : Plain h.etag := by
    intro c hc
    have hends : ¬ (c = ascii '\n' ∨ c = ascii '\r') := of_decide_eq_false (htext c hc).1
    exact ⟨fun hcr => hends (Or.inr hcr), fun hlf => hends (Or.inl hlf)⟩
  have hheaders : (requestHeaders s (headerBytes h garbage)).Plain := by
    refine ⟨plain_none, ?_, ?_, ?_, ?_⟩
    · exact fun t ht => Option.mem_some.mp ht ▸ hs.version
    · exact fun t ht => Option.mem_some.mp ht ▸ hs.build
    · exact fun t ht => Option.mem_some.mp ht ▸ hs.deviceId
    · intro t ht
      have htext : headerTag (headerBytes h garbage) = some t := ht
      rw [show headerBytes h garbage = (downloadHeader (headRead h garbage)).bytes from rfl, hheader]
        at htext
      exact Option.some.inj htext ▸ hplain
  have hmethod : Plain (literal ['G', 'E', 'T']) := by
    unfold Plain
    decide
  have hplains : ∀ f ∈ HttpHeadersWriter.fields s.server ((headerBytes h garbage).getD 75 0)
      (requestHeaders s (headerBytes h garbage)), ∀ value ∈ f.2, Plain value :=
    fields_plain hs.server hheaders
  have hread := readRequest_fields (plain_requestLine hs.path hmethod)
    (requestLine_ne_nil s.path (literal ['G', 'E', 'T'])) fields_names hplains []
  unfold request
  rw [readHeader_holds hholds]
  rw [List.append_nil] at hread
  refine ⟨_, _, _, hread, List.mem_filterMap.mpr
    ⟨(['I', 'f', '-', 'N', 'o', 'n', 'e', '-', 'M', 'a', 't', 'c', 'h'], some (sentTag h)), ?_, rfl⟩⟩
  have hvalue : (requestHeaders s (headerBytes h garbage)).etag.map
      (HttpHeadersWriter.quoted ((headerBytes h garbage).getD 75 0)) = some (sentTag h) := by
    show (headerTag (headerBytes h garbage)).map _ = _
    unfold headerBytes
    rw [hheader, hbefore]
    rfl
  rw [← hvalue]
  unfold HttpHeadersWriter.fields
  simp only [List.mem_cons, true_or, or_true]

end Tag

/-! ## 4. Checks, backups and resets -/

/-- A check that reaches the server: the response is a head and a body, and comes in any pieces. -/
structure Check where
  device : Device
  head : ResponseHead
  body : List Byte
  garbage : List Byte
  started : Uptime
  rounds : List Round
  target : Target

/-- Behind the loops. -/
def Check.download (c : Check) : Download :=
  (Download.start (c.head.bytes ++ c.body) c.garbage c.started).poll c.rounds

/-- What happens to the banks. -/
inductive Event where
  | check (c : Check)
  | backup (e : Backup.Media) (program : Backup.Program)
  | reset

/-- One event. The allocator puts a file where there is none. -/
def step (fl : Flash) : Event → Option Flash
  | .check c => if fl.table.exist c.target.beginning then none else some (finish c.target fl c.download).2
  | .backup e program => (Backup.backup e program fl).map (·.2)
  | .reset => some fl.reset

/-- The server does not send an image to a device that shows its etag. -/
def Honoured (bank : FirmwareBank) (tag : List Byte) (fl : Flash) : Event → Prop
  | .check c => c.target.bank = bank →
      c.device.Plain ∧ (Carries tag (request c.device bank fl) → c.head.status ≠ 200)
  | _ => True

/-- The event commits an image to the bank. -/
def Commits (bank : FirmwareBank) (fl : Flash) : Event → Prop
  | .check c => c.target.bank = bank ∧ (finish c.target fl c.download).1 = .committed
  | _ => False

section Once

variable {bank : FirmwareBank} {a : BlockAddress} {content : List Byte} {fl fl' : Flash}

/-- **The bank designates this file**, in memory and on the flash, and no other bank does. -/
structure Kept (bank : FirmwareBank) (a : BlockAddress) (content : List Byte) (fl : Flash) : Prop where
  file : (fl.table.files a).map (·.content) = some content
  state : ∀ b, fl.state.banks b = a ↔ b = bank
  persisted : ∀ b, fl.persisted.banks b = a ↔ b = bank

theorem Kept.exist (h : Kept bank a content fl) : fl.table.exist a = true := by
  obtain ⟨f, hf, _⟩ := Option.map_eq_some_iff.mp h.file
  rw [FileTable.exist, hf]
  rfl

/-- A file at another address. -/
theorem Kept.put (h : Kept bank a content fl) {b : BlockAddress} (hvalid : b.valid = true)
    (hb : b ≠ a) (f : File) : Kept bank a content { fl with table := fl.table.put b hvalid f } where
  file := by
    rw [FileTable.files_put, Function.update_of_ne hb.symm]
    exact h.file
  state := h.state
  persisted := h.persisted

/-- An update of another bank. -/
theorem Kept.update (h : Kept bank a content fl) {other : FirmwareBank} (hother : other ≠ bank)
    {b : BlockAddress} (hb : b ≠ a) (saved : Bool) :
    Kept bank a content (FirmwareStorage.update other b saved fl).2 := by
  have hstate : ∀ x, (setBank other b fl).state.banks x = a ↔ x = bank := by
    intro x
    show Function.update fl.state.banks other b x = a ↔ x = bank
    rcases eq_or_ne x other with rfl | hx
    · rw [Function.update_self]
      exact iff_of_false hb hother
    · rw [Function.update_of_ne hx]
      exact h.state x
  rw [update_flash]
  refine ⟨?_, hstate, ?_⟩
  · have herased : a ≠ fl.state.banks other := fun heq => hother ((h.state other).mp heq.symm)
    show (Function.update fl.table.files (fl.state.banks other) none a).map _ = _
    rw [Function.update_of_ne herased]
    exact h.file
  · cases saved with
    | false => exact h.persisted
    | true => exact hstate

theorem Kept.withFile (h : Kept bank a content fl) {t : Target} (hfree : t.beginning ≠ a)
    (d : Download) : Kept bank a content (withFile t fl d) := by
  unfold CheckFirmware.withFile
  split
  · exact h.put t.valid hfree _
  · exact h

/-- **A check** that commits nothing to this bank. -/
theorem Kept.finish (h : Kept bank a content fl) {t : Target} {d : Download}
    (hfree : t.beginning ≠ a) (hbank : ¬ (t.bank = bank ∧ (finish t fl d).1 = .committed)) :
    Kept bank a content (finish t fl d).2 := by
  rw [finish_flash]
  split
  · next hdone =>
      exact (h.withFile hfree d).update (fun heq => hbank ⟨heq, hdone⟩) hfree t.saved
  · exact h.withFile hfree d

/-- **A backup**, if the bank is not that of the backups. -/
theorem Kept.backup (h : Kept bank a content fl) (hbank : bank ≠ .Backup) {e : Backup.Media}
    {program : Backup.Program} {returned : Bool}
    (hbackup : Backup.backup e program fl = some (returned, fl')) : Kept bank a content fl' := by
  have hfree : fl.table.exist e.beginning = false := by
    by_contra hexist
    unfold Backup.backup at hbackup
    rw [if_pos (by simpa using hexist)] at hbackup
    cases hbackup
  have hne : e.beginning ≠ a := by
    rintro rfl
    rw [h.exist] at hfree
    cases hfree
  rw [Backup.backup_eq hfree] at hbackup
  split at hbackup
  · cases hbackup
    exact h.put e.valid hne _
  · split at hbackup
    · cases hbackup
      exact (h.put e.valid hne _).update hbank.symm hne e.saved
    · cases hbackup
      exact h.put e.valid hne _

theorem Kept.holds {h : ResponseHead} {garbage body : List Byte}
    (hkept : Kept bank a (headerBytes h garbage ++ body) fl) : Holds bank h garbage body fl := by
  unfold Holds
  rw [(hkept.state bank).mpr rfl]
  exact hkept.file

variable {h : ResponseHead} {garbage body : List Byte}

/-- The part of the body that a check has received. -/
def Check.received (c : Check) : List Byte := bodyReceived c.head c.download

theorem Check.downloads (c : Check) (fl : Flash) :
    Downloads c.head c.body c.garbage c.target fl c.download c.received :=
  downloads_received (stage_poll (stage_start c.head c.body c.garbage c.started) c.rounds).progress
    c.target fl

/-- A check that commits has been sent a 200. -/
theorem committed_status (c : Check) (fl : Flash)
    (hdone : (finish c.target fl c.download).1 = .committed) : c.head.status = 200 := by
  exact ((c.downloads fl).counted.mp hdone).1

/-- **While the bank holds the image, no check commits another one.** -/
theorem Kept.not_commits (hkept : Kept bank a (headerBytes h garbage ++ body) fl) (htag : Tagged h)
    {i : Event} (hi : Honoured bank (sentTag h) fl i) : ¬ Commits bank fl i := by
  intro hcommits
  cases i with
  | check c =>
      obtain ⟨hbank, hdone⟩ := hcommits
      obtain ⟨hplain, hserver⟩ := hi hbank
      exact hserver (tag_sent hplain htag hkept.holds) (committed_status c fl hdone)
  | backup _ _ => exact hcommits
  | reset => exact hcommits

/-- **One event.** -/
theorem Kept.step (hkept : Kept bank a (headerBytes h garbage ++ body) fl) (htag : Tagged h)
    (hbank : bank ≠ .Backup) {i : Event} (hi : Honoured bank (sentTag h) fl i)
    (hs : step fl i = some fl') : Kept bank a (headerBytes h garbage ++ body) fl' := by
  have hnot := hkept.not_commits htag hi
  cases i with
  | check c =>
      unfold CheckFirmware.step at hs
      dsimp only at hs
      split at hs
      · cases hs
      · next hfree =>
          cases hs
          have hne : c.target.beginning ≠ a := by
            intro heq
            exact hfree (heq ▸ hkept.exist)
          exact hkept.finish hne hnot
  | backup e program =>
      obtain ⟨⟨returned, fl''⟩, hbackup, rfl⟩ := Option.map_eq_some_iff.mp hs
      exact hkept.backup hbank hbackup
  | reset =>
      cases hs
      exact ⟨hkept.file, hkept.persisted, hkept.persisted⟩

/-- **What a committed check leaves**: a file with the body it has received, as long as was declared. -/
theorem kept_committed {c : Check} {fl : Flash} (hbody : c.body.length < 2 ^ 32)
    (hsaved : c.target.saved = true) (hnew : ∀ b, fl.state.banks b ≠ c.target.beginning)
    (hdone : (finish c.target fl c.download).1 = .committed) :
    (c.received <+: c.body ∧ c.received.length = c.head.contentLength) ∧
      Kept c.target.bank c.target.beginning (headerBytes c.head c.garbage ++ c.received)
        (finish c.target fl c.download).2 := by
  have hb := c.downloads fl
  obtain ⟨hreceived, hdrop⟩ := hb.received
  have hbegins : c.received <+: c.body := by
    have hrest := congrArg (List.drop c.head.bytes.length) hreceived
    rw [List.drop_left, List.drop_append, ← hdrop] at hrest
    exact ⟨_, hrest⟩
  have hlt : c.received.length < 2 ^ 32 := Nat.lt_of_le_of_lt hbegins.length_le hbody
  have hfile := (hb.bank hlt hdone).2 (hnew c.target.bank)
  have hstate : ∀ x, (finish c.target fl c.download).2.state.banks x = c.target.beginning ↔
      x = c.target.bank := by
    intro x
    rw [finish_flash, if_pos hdone, update_flash]
    show Function.update (withFile c.target fl c.download).state.banks c.target.bank
      c.target.beginning x = _ ↔ _
    rcases eq_or_ne x c.target.bank with rfl | hx
    · rw [Function.update_self]
      exact iff_of_true rfl rfl
    · rw [Function.update_of_ne hx, (withFile_state _ _ _).1]
      exact iff_of_false (hnew x) hx
  refine ⟨⟨hbegins, ((hb.committed hlt).mp hdone).2.2.1⟩, hfile, hstate, ?_⟩
  have hsame : (finish c.target fl c.download).2.persisted = (finish c.target fl c.download).2.state := by
    rw [finish_flash, if_pos hdone, update_flash, hsaved]
    rfl
  rw [hsame]
  exact hstate

/-- **An image is downloaded once**: after a check has committed it and the state was saved, in any run
    of checks of all banks, backups and resets, as long as the server does not send an image to a
    device that shows its etag, nothing more is committed to the bank, and it holds the body that the
    check has received, which is as long as was declared. -/
theorem downloaded_once {c : Check} {tr : List (Flash × Event)} (hbank : c.target.bank ≠ .Backup)
    (htag : Tagged c.head) (hbody : c.body.length < 2 ^ 32) (hsaved : c.target.saved = true)
    (hnew : ∀ b, fl.state.banks b ≠ c.target.beginning)
    (hdone : (finish c.target fl c.download).1 = .committed)
    (h : Run step (finish c.target fl c.download).2 tr fl')
    (hserver : Meets (Honoured c.target.bank (sentTag c.head)) tr) :
    Meets (fun fl i => ¬ Commits c.target.bank fl i) tr ∧
      (c.received <+: c.body ∧ c.received.length = c.head.contentLength) ∧
      Holds c.target.bank c.head c.garbage c.received fl' := by
  obtain ⟨hreceived, hkept⟩ := kept_committed hbody hsaved hnew hdone
  have hinv : ∀ {tr fl'}, Run step (finish c.target fl c.download).2 tr fl' →
      Meets (Honoured c.target.bank (sentTag c.head)) tr →
      Kept c.target.bank c.target.beginning (headerBytes c.head c.garbage ++ c.received) fl' :=
    fun h hserver => h.inv_meets _ _ hkept (fun _ _ _ hk hi hs => hk.step htag hbank hi hs) hserver
  refine ⟨fun p hp => ?_, hreceived, (hinv h hserver).holds⟩
  obtain ⟨tr', hbefore, hpre⟩ := h.before hp
  exact (hinv hbefore fun q hq => hserver q (hpre.subset hq)).not_commits htag (hserver p hp)

end Once

/-- "HTTP/1.1 200 OK", with a content length of 1 and the etag "a". -/
def taggedByte : ResponseHead :=
  { oneByte with
    headers := [contentLengthName ++ [ascii '1'], etagName ++ literal ['"', 'a', '"']]
    lines := by decide
    short := by decide
    number := by decide }

/-- "HTTP/1.1 304 -". -/
def notModified : ResponseHead where
  version := literal ['H', 'T', 'T', 'P', '/', '1', '.', '1']
  status := 304
  reason := literal ['-']
  headers := []
  word := by decide
  positive := by decide
  bounded := by decide
  phrase := by decide
  plain := by decide
  lines := by decide
  short := by decide
  number := by decide

/-- A check of the incoming bank. -/
def incomingCheck (head : ResponseHead) (body : List Byte) (block : BitVec 32)
    (hvalid : (⟨block, 0⟩ : BlockAddress).valid = true) : Check where
  device := ⟨[], [], [], [], [], 0⟩
  head := head
  body := body
  garbage := []
  started := 0
  rounds := [⟨0, List.replicate 64 oneRead⟩]
  target := { incoming with beginning := ⟨block, 0⟩, valid := hvalid }

/-- Downloaded, and asked for again after a reset. -/
theorem downloaded_once_reset : ∃ tr fl',
    tr.map (·.2) = [.reset, .check (incomingCheck notModified [] 10 rfl)] ∧
      Run step (finish incoming {} (incomingCheck taggedByte [1] 9 rfl).download).2 tr fl' ∧
      Holds .Incoming taggedByte [] (incomingCheck taggedByte [1] 9 rfl).received fl' := by
  have hexec : (exec step (finish incoming {} (incomingCheck taggedByte [1] 9 rfl).download).2
      [.reset, .check (incomingCheck notModified [] 10 rfl)]).isSome = true := by decide +kernel
  obtain ⟨fl', hfl⟩ := Option.isSome_iff_exists.mp hexec
  obtain ⟨tr, hrun, hinputs⟩ := run_of_exec hfl
  have hserver : Meets (Honoured .Incoming (sentTag taggedByte)) tr := by
    intro p hp
    have hmem : p.2 ∈ [Event.reset, .check (incomingCheck notModified [] 10 rfl)] :=
      hinputs ▸ List.mem_map_of_mem hp
    rcases List.mem_cons.mp hmem with heq | hmem
    · rw [heq]
      trivial
    · rw [List.mem_singleton.mp hmem]
      have hnil : Plain [] := fun c hc => absurd hc List.not_mem_nil
      exact fun _ => ⟨⟨hnil, hnil, hnil, hnil, hnil⟩, fun _ => by decide⟩
  have hdone : (finish incoming {} (incomingCheck taggedByte [1] 9 rfl).download).1 = .committed := by
    decide +kernel
  obtain ⟨-, -, hholds⟩ := downloaded_once (c := incomingCheck taggedByte [1] 9 rfl)
    (by decide) (by unfold Tagged; decide) (by decide) rfl (fun b => by cases b <;> decide) hdone hrun
    hserver
  exact ⟨tr, fl', hinputs, hrun, hholds⟩

end FieldKit.CheckFirmware

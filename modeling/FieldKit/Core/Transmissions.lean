/-
  File:      FieldKit/Core/Transmissions.lean
  Subject:   Sending firmware to a module (transmissions.cpp): the three queries, and the task that
             pushes one after the other.

  The reader is what it hands over until EOS. `delay(500)` and what `status()` logs are left out.

  * `tick_flow` -- one `tick` of `WriteModuleData` loses nothing, and closes the stream only when
    nothing is left.
-/
import FieldKit.Checksums
import FieldKit.Lib.LittleEndian
import FieldKit.Comms.Session
import FieldKit.Module.Module

namespace FieldKit

open Lib Session

/-! ## 1. The queries -/

/-- The queries of a transfer, as `PrepareTransmissionData` compares them. -/
inductive TransferQuery where
  | prepareModuleDataTransfer
  | writeModuleData
  | verifyModuleData
  deriving DecidableEq, Repr

/-- `WriteModuleData`: `reader` is what the reader still has to hand over, `size` what it says of
    itself; `checksum` is `crc_` of the `Crc32Reader` around it. -/
structure WriteModuleData where
  reader : List Byte
  size : BitVec 32
  checksum : BitVec 32 := BitVec.allOnes 32
  streamCopier : BufferedStreamCopier Byte := {}
  total : BitVec 32 := 0
  copied : BitVec 32 := 0
  deriving DecidableEq, Repr

/-- What the environment decides in one `tick`: how many bytes the reader hands over, and how many
    the outgoing stream has room for. -/
structure Ticking where
  offered : Nat := fileCopyBufferSize
  room : Nat := serialBufferSize
  deriving DecidableEq, Repr

namespace WriteModuleData

variable {β : Type}

/-- `WriteModuleData` over a reader of these bytes. -/
def ofContent (content : List Byte) : WriteModuleData where
  reader := content
  size := BitVec.ofNat 32 content.length

/-- `Crc32Reader::read`, of the reader and the checksum so far. -/
def read (offered : Nat) : List Byte × BitVec 32 → Option (List Byte) × List Byte × BitVec 32
  | ([], crc) => (none, [], crc)
  | (b :: bs, crc) =>
    let n := min (max 1 offered) fileCopyBufferSize
    (some ((b :: bs).take n), (b :: bs).drop n, ((b :: bs).take n).foldl crc32Update crc)

/-- `prepare(message, outgoing)`: the stream is left open and empty. -/
def prepare (w : WriteModuleData) : WriteModuleData := { w with total := w.size, copied := 0 }

/-- `tick(outgoing)`. -/
def tick (P : ModuleProtocol β) (e : Ticking) (w : WriteModuleData) (outgoing : Ring β) :
    WriteModuleData × Ring β :=
  if 0 < w.total then
    match w.streamCopier.copy (read e.offered)
        (fun bytes ring => Ring.write (bytes.map P.byte) e.room ring) (w.reader, w.checksum)
        outgoing with
    | (none, streamCopier, (reader, checksum), outgoing) =>
      ({ w with streamCopier, reader, checksum, total := 0 }, outgoing.close)
    | (some n, streamCopier, (reader, checksum), outgoing) =>
      ({ w with streamCopier, reader, checksum, copied := w.copied + BitVec.ofNat 32 n }, outgoing)
  else (w, outgoing)

/-- What has not been put into the stream yet. -/
def left (w : WriteModuleData) : List Byte := w.streamCopier.buffer ++ w.reader

theorem reads (offered : Nat) :
    BufferedStreamCopier.ReadsFrom (read offered) (fun r : List Byte × BitVec 32 => r.1) where
  eos r r' h := by
    obtain ⟨bs, crc⟩ := r
    cases bs with
    | nil => cases h; exact ⟨rfl, rfl⟩
    | cons b bs => cases h
  some r r' bs h := by
    obtain ⟨cs, crc⟩ := r
    cases cs with
    | nil => cases h
    | cons c cs => cases h; exact (List.take_append_drop _ _).symm

theorem writes (P : ModuleProtocol β) (room : Nat) :
    BufferedStreamCopier.WritesTo
      (fun (bytes : List Byte) ring => Ring.write (bytes.map P.byte) room ring) Ring.bytes P.byte where
  eos bs w w' h := by
    unfold Ring.write at h
    split at h
    · cases h; rfl
    · cases h
  some bs w w' n h := by
    unfold Ring.write at h
    split at h
    · cases h
    · cases h
      rw [List.map_take, List.length_map, List.take_eq_take_min, List.length_map]

/-- A closed stream is left as it is. -/
theorem write_closed {P : ModuleProtocol β} {room : Nat} {bytes : List Byte} {n : Option Nat}
    {ring ring' : Ring β} (h : Ring.write (bytes.map P.byte) room ring = (n, ring')) :
    (ring.closed = true → ring' = ring) ∧ (n = none → ring.closed = true) ∧
      ring'.closed = ring.closed := by
  unfold Ring.write at h
  split at h
  · next hc => cases h; exact ⟨fun _ => rfl, fun _ => hc, rfl⟩
  · next hc => cases h; exact ⟨fun h => absurd h hc, fun h => (by cases h), rfl⟩

/-- **One tick**: nothing is lost, and the stream is closed only when nothing is left. -/
theorem tick_flow (P : ModuleProtocol β) (e : Ticking) (w : WriteModuleData) (outgoing : Ring β)
    (hempty : outgoing.closed = true → w.left = []) :
    (w.tick P e outgoing).2.bytes ++ (w.tick P e outgoing).1.left.map P.byte =
        outgoing.bytes ++ w.left.map P.byte ∧
      ((w.tick P e outgoing).2.closed = true → (w.tick P e outgoing).1.left = []) := by
  unfold tick
  split
  · generalize hcopy : BufferedStreamCopier.copy _ _ _ _ _ = res
    obtain ⟨n, streamCopier, ⟨reader, checksum⟩, ring⟩ := res
    have hcons := BufferedStreamCopier.copy_conserves (reads e.offered) (writes P e.room) hcopy
    have hcases := BufferedStreamCopier.copy_cases hcopy
    -- over a closed stream nothing was left, so nothing is
    have hstill (hc : outgoing.closed = true) (hring : ring = outgoing) :
        streamCopier.buffer ++ reader = [] := by
      have hleft : w.streamCopier.buffer ++ w.reader = [] := hempty hc
      rw [hring, hleft, List.map_nil] at hcons
      exact List.map_eq_nil_iff.mp (List.append_cancel_left hcons)
    cases n with
    | none =>
        refine ⟨hcons, fun _ => ?_⟩
        rcases hcases with ⟨-, hb, hread, -⟩ | ⟨h, -⟩ | ⟨bs, hwrite⟩
        · have hr : reader = [] := ((reads e.offered).eos _ _ hread).2
          simp only [left, hb, List.nil_append]
          exact hr
        · cases h
        · obtain ⟨hsame, hnone, -⟩ := write_closed hwrite
          exact hstill (hnone rfl) (hsame (hnone rfl))
    | some n =>
        refine ⟨hcons, fun hclose => ?_⟩
        rcases hcases with ⟨h, -⟩ | ⟨-, hring⟩ | ⟨bs, hwrite⟩
        · cases h
        · exact hstill (hring ▸ hclose) hring
        · obtain ⟨hsame, -, hkept⟩ := write_closed hwrite
          have hc : outgoing.closed = true := hkept.symm.trans hclose
          exact hstill hc (hsame hc)
  · exact ⟨rfl, hempty⟩

end WriteModuleData

/-- The query objects of a transfer. -/
structure TransferObjects where
  settings : ModuleCopySettings
  writeModuleData : WriteModuleData
  expectedChecksum : BitVec 32 := 0
  deriving DecidableEq, Repr

namespace TransferObjects

/-- `PrepareModuleDataTransfer::query`. -/
def prepareModuleDataTransfer (o : TransferObjects) : ModuleQueryMessage where
  type := .QUERY_DATA_PREPARE
  data := { size := o.settings.size, bank := o.settings.bank, etag := o.settings.etag }

/-- `VerifyModuleData::query`. -/
def verifyModuleData (o : TransferObjects) : ModuleQueryMessage where
  type := .QUERY_DATA_VERIFY
  data := { size := o.settings.size, bank := o.settings.bank, etag := o.settings.etag,
            checksum := toLE 4 o.expectedChecksum.toNat }

end TransferObjects

/-- **The virtual functions of the three queries.** Their `reply` does nothing. -/
def transferQueries {β : Type} (P : ModuleProtocol β) :
    ModuleQueries TransferQuery TransferObjects Ticking ModuleReplyMessage β where
  replyConfig
    | .prepareModuleDataTransfer => ReplyConfig.Long
    | .writeModuleData => ReplyConfig.NoReply
    | .verifyModuleData => ReplyConfig.Default
  prepare q _ o outgoing :=
    match q with
    | .prepareModuleDataTransfer =>
      (o, ModuleQuery.prepare (P.encodeQuery o.prepareModuleDataTransfer) outgoing)
    | .writeModuleData => ({ o with writeModuleData := o.writeModuleData.prepare }, outgoing)
    | .verifyModuleData => (o, ModuleQuery.prepare (P.encodeQuery o.verifyModuleData) outgoing)
  tick q e o outgoing :=
    match q with
    | .writeModuleData =>
      let (writeModuleData, outgoing) := o.writeModuleData.tick P e outgoing
      ({ o with writeModuleData }, outgoing)
    | _ => (o, outgoing)
  reply _ _ o := o
  decode := P.decodeReply
  replyType r := r.type
  tick_keeps q _ _ _ h := by
    cases q with
    | writeModuleData => exact absurd rfl h
    | _ => rfl

/-! ## 2. The task -/

/-- The link of a transfer. -/
abbrev TransferLink (β B : Type) :=
  Link TransferQuery TransferObjects ModuleReplyMessage β B

/-- `PrepareTransmissionData`, with the communications object it is given. -/
structure PrepareTransmissionData (β B : Type) where
  protocol : ModuleProtocolHandler TransferQuery
  link : TransferLink β B

namespace PrepareTransmissionData

variable {β B : Type}

/-- The address the firmware is sent to. -/
def moduleAddress : Address := 8

/-- `enqueued()`. -/
def enqueued (now : Uptime) (link : TransferLink β B) : PrepareTransmissionData β B where
  protocol := ({} : ModuleProtocolHandler TransferQuery).push now moduleAddress .prepareModuleDataTransfer 0
  link := link

/-- What `task()` does with what `handle` returned. -/
def finish (P : ModuleProtocol β) (now : Uptime) (f : Finished TransferQuery ModuleReplyMessage)
    (s : PrepareTransmissionData β B) : TaskEval × PrepareTransmissionData β B :=
  match f.query with
  | none => (.busy, s)
  | some q =>
    if f.error (transferQueries P).replyConfig then (.error, s)
    else
      match q with
      | .prepareModuleDataTransfer =>
        (.busy, { s with protocol := s.protocol.push now moduleAddress .writeModuleData 0 })
      | .writeModuleData =>
        (.busy,
          { protocol := s.protocol.push now moduleAddress .verifyModuleData 0
            link := { s.link with
              queries.expectedChecksum := s.link.queries.writeModuleData.checksum } })
      | .verifyModuleData => (.busy, s)

/-- `task()`; `none` is a failed assertion. -/
def task (P : ModuleProtocol β) (now : Uptime) (s : PrepareTransmissionData β B) :
    Option (TaskEval × PrepareTransmissionData β B) :=
  if s.protocol.isBusy then
    (s.protocol.handle (transferQueries P) now s.link).map fun (f, protocol, link) =>
      finish P now f { protocol, link }
  else some (.done, s)

/-- **What a finished query leads to**, one constructor for each: there is no reply where one is
    expected, or the next query is pushed, or none is left. -/
inductive Concluded (now : Uptime) (l : TransferLink β B) :
    TransferQuery → Option ModuleReplyMessage → TaskEval → PrepareTransmissionData β B → Prop where
  | failed {q : TransferQuery} : Concluded now l q none .error ⟨{}, l⟩
  | prepared (r : ModuleReplyMessage) : Concluded now l .prepareModuleDataTransfer (some r) .busy
      ⟨({} : ModuleProtocolHandler TransferQuery).push now moduleAddress .writeModuleData 0, l⟩
  | written (r : Option ModuleReplyMessage) : Concluded now l .writeModuleData r .busy
      ⟨({} : ModuleProtocolHandler TransferQuery).push now moduleAddress .verifyModuleData 0,
        { l with queries.expectedChecksum := l.queries.writeModuleData.checksum }⟩
  | verified (r : ModuleReplyMessage) : Concluded now l .verifyModuleData (some r) .busy ⟨{}, l⟩

/-- **Every finished query leads to one of these.** -/
theorem finish_concluded (P : ModuleProtocol β) (now : Uptime) (q : TransferQuery)
    (r : Option ModuleReplyMessage) (l : TransferLink β B) :
    Concluded now l q r (finish P now { query := some q, reply := r } ⟨{}, l⟩).1
      (finish P now { query := some q, reply := r } ⟨{}, l⟩).2 := by
  cases q with
  | prepareModuleDataTransfer =>
      cases r with
      | none => exact .failed
      | some r => exact .prepared r
  | writeModuleData => cases r <;> exact .written _
  | verifyModuleData =>
      cases r with
      | none => exact .failed
      | some r => exact .verified r

/-- **What one call of the task can do**, one constructor for each: it is done, it waits, its query
    is enqueued, or its query is finished. -/
inductive Tasked (P : ModuleProtocol β) (now : Uptime) (s : PrepareTransmissionData β B) :
    Phase TransferQuery ModuleReplyMessage → TaskEval → PrepareTransmissionData β B → Prop where
  | done (hdue : s.protocol.due now s.link.comms = none)
      (hh : s.protocol.handle (transferQueries P) now s.link = some ({}, s.protocol, s.link)) :
      Tasked P now s .resting .done s
  | waits {ph : Phase TransferQuery ModuleReplyMessage} (hne : ph ≠ .resting)
      (hnot : ∀ q r, ph ≠ .ended q r) (hdue : s.protocol.due now s.link.comms = none)
      (hh : s.protocol.handle (transferQueries P) now s.link = some ({}, s.protocol, s.link)) :
      Tasked P now s ph .busy s
  | enqueues {q : TransferQuery} {h : ModuleProtocolHandler TransferQuery} {l : TransferLink β B}
      (hdue : s.protocol.due now s.link.comms = some q)
      (hh : s.protocol.handle (transferQueries P) now s.link = some ({}, h, l))
      (hin : InPhase moduleAddress h l.comms (.fresh q)) (hbus : l.bus = s.link.bus)
      (hqueries : l.queries = s.link.queries) : Tasked P now s (.queued q) .busy { protocol := h, link := l }
  | finishes {q : TransferQuery} {r : Option ModuleReplyMessage} {l : TransferLink β B}
      (hdue : s.protocol.due now s.link.comms = none)
      (hh : s.protocol.handle (transferQueries P) now s.link =
        some ({ query := some q, reply := r }, {}, l))
      (hin : InPhase moduleAddress {} l.comms .resting) (hbus : l.bus = s.link.bus)
      (hqueries : l.queries = s.link.queries) :
      Tasked P now s (.ended q r) (finish P now { query := some q, reply := r } ⟨{}, l⟩).1
        (finish P now { query := some q, reply := r } ⟨{}, l⟩).2

/-- **Every call of the task is one of these.** -/
theorem task_tasked {P : ModuleProtocol β} {now : Uptime} {s s' : PrepareTransmissionData β B}
    {ph : Phase TransferQuery ModuleReplyMessage} {e : TaskEval}
    (hin : InPhase moduleAddress s.protocol s.link.comms ph) (h : task P now s = some (e, s')) :
    Tasked P now s ph e s' := by
  have ha : moduleAddress ≠ 0 := by decide
  have hbusy := isBusy_iff ha hin
  unfold task at h
  by_cases hrest : ph = .resting
  · subst hrest
    rw [if_neg (by simpa using hbusy)] at h
    cases h
    have hempty : s.protocol = {} := hin.eq_of_resting
    have hdue : s.protocol.due now s.link.comms = none := by
      rw [hempty]
      simp [ModuleProtocolHandler.due]
    refine .done hdue ?_
    rw [handle_of_not_due hdue, hempty]
    rfl
  · rw [if_pos (hbusy.mpr hrest)] at h
    obtain ⟨⟨f, h1, l1⟩, hhandle, hfin⟩ := Option.map_eq_some_iff.mp h
    obtain rfl : _ = e := congrArg Prod.fst hfin
    obtain rfl : _ = s' := congrArg Prod.snd hfin
    cases handle_handled ha hin hhandle with
    | waits hnot hdue => exact .waits hrest hnot hdue hhandle
    | enqueues hdue hfresh hbus hqueries => exact .enqueues hdue hhandle hfresh hbus hqueries
    | @finishes q r _ hdue hrested hbus hqueries =>
        refine .finishes hdue hhandle hrested hbus (hqueries.trans ?_)
        cases r <;> rfl

end PrepareTransmissionData

end FieldKit

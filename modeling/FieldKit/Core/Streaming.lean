/-
  File:      FieldKit/Core/Streaming.lean
  Subject:   Is firmware streamed to its last byte before the core goes on to `QUERY_DATA_VERIFY`?

  A transfer is watched over any bus, whose devices may change between polls as they like. Each
  time the task is told that `WriteModuleData` is finished, it is written down whether that was
  called an error, whether the task went on, and what had been sent since the query was enqueued.

  * `streamed_whole` -- in a run in which the bus takes every piece and neither the reply window
    nor the transaction runs out while there are bytes to send, nothing is cut short unnoticed;
  * `streamed_short` -- a bus that refuses the one piece there is.
-/
import FieldKit.Lib.Run
import FieldKit.Comms.Recorder
import FieldKit.Core.Transmissions

namespace FieldKit.Streaming

open Lib Session PrepareTransmissionData ModuleCommunications ModuleProtocolHandler

variable {β B : Type}

/-! ## 1. The machine -/

/-- What the task was told of a finished `WriteModuleData`. -/
structure Report (β : Type) where
  error : Bool
  goesOn : Bool
  sent : List β
  deriving DecidableEq, Repr

/-- A transfer, the last result of its task, and the reports. -/
structure Watched (β B : Type) where
  core : PrepareTransmissionData β (Recorder β B)
  result : TaskEval := .busy
  reports : List (Report β) := []

/-- One thing that happens. `modules` puts the devices into any state. -/
inductive Input (B : Type) where
  | task (now : Uptime)
  | poll (p : Poll Ticking)
  | modules (devices : B)

/-- A transfer that has just been enqueued, on a communications object that rests. -/
def start (now : Uptime) (comms : ModuleCommunications TransferQuery ModuleReplyMessage β)
    (settings : ModuleCopySettings) (content : List Byte) (devices : B) : Watched β B where
  core := enqueued now
    { comms := { comms with address := 0, hasQuery := false, reply := none }
      queries := { settings, writeModuleData := WriteModuleData.ofContent content }
      bus := { devices } }

/-- What a call of `task()` adds to the reports. -/
def reported (P : ModuleProtocol β) (now : Uptime) (s : Watched β B) : List (Report β) :=
  match s.core.protocol.handle (transferQueries P) now s.core.link with
  | some (f, protocol, link) =>
    if f.query = some .writeModuleData then
      [{ error := f.error (transferQueries P).replyConfig
         goesOn := decide ((finish P now f { protocol, link }).2.protocol.pending.query =
           some .verifyModuleData)
         sent := sentBytes s.core.link.bus.carried }]
    else []
  | none => []

/-- The record of the bus begins anew with every query. -/
def renew (now : Uptime) (s : Watched β B) (core : PrepareTransmissionData β (Recorder β B)) :
    PrepareTransmissionData β (Recorder β B) :=
  if (due now s.core.protocol s.core.link.comms).isSome then
    { core with link := { core.link with bus.carried := [] } }
  else core

/-- The machine. The task is not called again once it has ended. -/
def step (P : ModuleProtocol β) (bus : TwoWireBus β B) (s : Watched β B) :
    Input B → Option (Watched β B)
  | .task now =>
    if s.result.isRunning then
      (task P now s.core).map fun (e, core) =>
        { core := renew now s core, result := e, reports := s.reports ++ reported P now s }
    else none
  | .poll p =>
    some { s with core.link := ModuleCommunications.poll (transferQueries P) (record bus) p s.core.link }
  | .modules devices => some { s with core.link.bus.devices := devices }

/-! ## 2. What is asked of a report -/

/-- **Everything had been sent, or it was called an error and the task did not go on.** -/
def Faithful (P : ModuleProtocol β) (content : List Byte) (r : Report β) : Prop :=
  r.sent = content.map P.byte ∨ (r.error = true ∧ r.goesOn = false)

/-- What is still to be sent. -/
def unsent (P : ModuleProtocol β) (l : TransferLink β (Recorder β B)) : List β :=
  l.comms.outgoing.bytes ++ l.queries.writeModuleData.left.map P.byte

/-- The bus takes the piece that a poll offers it, if it offers one. -/
def takes (bus : TwoWireBus β B) (p : Poll Ticking) (l : TransferLink β (Recorder β B)) : Bool :=
  match (l.comms.outgoing.read (serialBufferSize - 1) p.offered).1 with
  | some (b :: bs) =>
    decide (l.comms.twoWireTask.dieAt ≠ 0) ||
      (bus.send l.bus.devices l.comms.twoWireTask.address (b :: bs)).1
  | _ => true

/-- While there are bytes to send, neither the reply window nor the transaction is over. -/
def InTime (P : ModuleProtocol β) (p : Poll Ticking) (l : TransferLink β (Recorder β B)) : Prop :=
  unsent P l ≠ [] →
    (l.comms.twoWireTask.dieAt = 0 ∨ ¬ l.comms.twoWireTask.dieAt < p.clock.timed) ∧
    ¬ ReplyConfig.NoReply.transactionTimeout < p.clock.ended - l.comms.started

/-- **A poll that does not cut a stream short.** -/
def Unhurried (P : ModuleProtocol β) (bus : TwoWireBus β B) (s : Watched β B) : Input B → Prop
  | .poll p =>
    s.core.link.comms.address ≠ 0 → s.core.link.comms.pending = some .writeModuleData →
      (s.core.link.comms.hasQuery = true → s.core.link.queries.writeModuleData.left ≠ [] →
        ¬ ReplyConfig.NoReply.transactionTimeout < p.clock.ended - p.clock.checked) ∧
      (s.core.link.comms.hasQuery = false →
        takes bus p s.core.link = true ∧ InTime P p s.core.link)
  | _ => True

/-! ## 3. The invariant -/

/-- **What is known of a stream on the wire**: sent, waiting in the stream and left to read, the
    bytes are the reader's, in order; and the exchange has not ended. -/
structure OnWire (P : ModuleProtocol β) (content : List Byte) (carried : List (Transfer β))
    (t : TwoWireTask) (outgoing : Ring β) (w : WriteModuleData) : Prop where
  bytes : content.map P.byte = sentBytes carried ++ (outgoing.bytes ++ w.left.map P.byte)
  closed : outgoing.closed = true → w.left = []
  outgoing : t.outgoing = true
  silent : t.repliesRemaining = 0

/-- What is known of the stream in each phase. -/
def Flow (P : ModuleProtocol β) (content : List Byte) (l : TransferLink β (Recorder β B)) :
    Phase TransferQuery ModuleReplyMessage → Prop
  | .queued .writeModuleData => l.queries.writeModuleData.left = content
  | .fresh .writeModuleData =>
    l.queries.writeModuleData.left = content ∧ sentBytes l.bus.carried = []
  | .running .writeModuleData =>
    OnWire P content l.bus.carried l.comms.twoWireTask l.comms.outgoing
      l.queries.writeModuleData ∧ l.comms.twoWireTask.completed = false
  | .ended .writeModuleData r => r = none ∧ sentBytes l.bus.carried = content.map P.byte
  | ph => ph.query = some .prepareModuleDataTransfer → l.queries.writeModuleData.left = content

/-- The invariant. -/
structure StreamInv (P : ModuleProtocol β) (content : List Byte) (s : Watched β B) : Prop where
  phase : ∃ ph, InPhase moduleAddress s.core.protocol s.core.link.comms ph ∧
    Flow P content s.core.link ph
  reports : ∀ r ∈ s.reports, Faithful P content r

/-- The other queries leave the stream alone. -/
theorem flow_of_query {P : ModuleProtocol β} {content : List Byte}
    {l : TransferLink β (Recorder β B)} {ph : Phase TransferQuery ModuleReplyMessage}
    {q : TransferQuery} (hq : ph.query = some q) (hne : q ≠ .writeModuleData) :
    Flow P content l ph ↔ (q = .prepareModuleDataTransfer →
      l.queries.writeModuleData.left = content) := by
  cases ph with
  | resting => cases hq
  | queued q' | fresh q' | running q' | ended q' r =>
      cases hq
      cases q with
      | writeModuleData => exact absurd rfl hne
      | prepareModuleDataTransfer => simp [Flow, Phase.query]
      | verifyModuleData => simp [Flow, Phase.query]

section Polls

variable {P : ModuleProtocol β} {bus : TwoWireBus β B} {content : List Byte} {p : Poll Ticking}
  {l : TransferLink β (Recorder β B)} {h : ModuleProtocolHandler TransferQuery}

/-- **One run of the exchange moves bytes from the stream to the bus**, and ends only when there
    are none left. -/
theorem ran_onWire {t t' : TwoWireTask} {w w' : Wires β (Recorder β B)} {wd : WriteModuleData}
    (hran : TwoWireTask.Ran (record bus) p.clock p.offered p.room t w t' w')
    (hi : OnWire P content w.bus.carried t w.outgoing wd) (hdone : t.completed = false)
    (htakes : ∀ bytes, t.dieAt = 0 → bytes ≠ [] →
      (w.outgoing.read (serialBufferSize - 1) p.offered).1 = some bytes →
      (bus.send w.bus.devices t.address bytes).1 = true)
    (hintime : w.outgoing.bytes ++ wd.left.map P.byte ≠ [] → t.dieAt = 0 ∨ ¬ t.dieAt < p.clock.timed) :
    OnWire P content w'.bus.carried t' w'.outgoing wd ∧
      w'.outgoing.bytes <:+ w.outgoing.bytes ∧
      (t'.completed = true → w'.outgoing.bytes ++ wd.left.map P.byte = []) := by
  have hnot : ¬ t.completed = true := by simp [hdone]
  cases hran with
  | waits => exact ⟨hi, List.suffix_rfl, fun h => absurd h hnot⟩
  | dry => exact ⟨hi, List.suffix_rfl, fun h => absurd h hnot⟩
  | drained _ _ hw hc =>
      refine ⟨⟨hi.bytes, hi.closed, hi.outgoing, hi.silent⟩, List.suffix_rfl, fun _ => ?_⟩
      rw [hw, hi.closed hc]
      rfl
  | refused bytes rest b _ hs hne hw hsend hread =>
      have hok := htakes bytes hs hne hread
      simp only [record, Prod.mk.injEq] at hsend
      exact absurd (hsend.1.symm.trans hok) (by decide)
  | sent bytes rest b _ _ _ hne hw hsend =>
      refine ⟨⟨?_, hi.closed, hi.outgoing, hi.silent⟩, hw ▸ List.suffix_append _ _,
        fun h => absurd h hnot⟩
      rw [record_send hsend, hi.bytes, hw]
      simp [sentBytes]
  | asks out => exact absurd (hi.outgoing.symm.trans out) (by decide)
  | nothing out => exact absurd (hi.outgoing.symm.trans out) (by decide)
  | late hw hlate =>
      refine ⟨⟨hi.bytes, hi.closed, hi.outgoing, hi.silent⟩, List.suffix_rfl, fun _ => ?_⟩
      by_contra hne
      rcases hintime hne with h0 | hin
      · exact hw h0
      · exact hin hlate
  | empty _ _ expects => exact absurd hi.silent (by omega)
  | received _ _ _ _ expects => exact absurd hi.silent (by omega)
  | swept _ _ =>
      rw [hi.outgoing, if_pos rfl]
      exact ⟨⟨hi.bytes, hi.closed, rfl, hi.silent⟩, List.suffix_rfl, fun h => absurd h hnot⟩

/-- **One poll of a stream on the wire.** -/
theorem running_flow {c' : ModuleCommunications TransferQuery ModuleReplyMessage β}
    (hin : InPhase moduleAddress h l.comms (.running .writeModuleData))
    (hi : OnWire P content l.bus.carried l.comms.twoWireTask l.comms.outgoing
      l.queries.writeModuleData) (hdone : l.comms.twoWireTask.completed = false)
    (htakes : takes bus p l = true) (hintime : InTime P p l)
    (hset : Settled (transferQueries P) p.clock .writeModuleData
      (runQuery (transferQueries P) (record bus) p .writeModuleData l).comms c') :
    ∃ ph, InPhase moduleAddress h c' ph ∧ Flow P content
      { runQuery (transferQueries P) (record bus) p .writeModuleData l with comms := c' } ph := by
  have hran := TwoWireTask.run_ran (record bus) p.clock p.offered p.room l.comms.twoWireTask
    ⟨l.comms.outgoing, l.comms.incoming, l.bus⟩
  obtain ⟨hw, hsuffix, hend⟩ := ran_onWire hran hi hdone
    (fun bytes hdie hne hread => by
      obtain ⟨b, bs, rfl⟩ := List.exists_cons_of_ne_nil hne
      simpa [takes, hread, hdie] using htakes)
    (fun hne => (hintime hne).1)
  unfold runQuery at hset ⊢
  generalize TwoWireTask.run (record bus) p.clock p.offered p.room l.comms.twoWireTask
    ⟨l.comms.outgoing, l.comms.incoming, l.bus⟩ = res at hran hw hsuffix hend hset ⊢
  obtain ⟨t, w⟩ := res
  obtain ⟨hbytes, hclosed⟩ :=
    WriteModuleData.tick_flow P p.env l.queries.writeModuleData w.outgoing hw.closed
  have hcontent := hw.bytes
  simp only [transferQueries] at hset hbytes hclosed ⊢
  -- with nothing left of it, the stream has been sent
  have hall (hnil : w.outgoing.bytes ++ l.queries.writeModuleData.left.map P.byte = []) :
      sentBytes w.bus.carried = content.map P.byte := by
    rw [hcontent, hnil, List.append_nil]
  cases hin with
  | running _ d busy =>
      cases hset with
      | running hc =>
          refine ⟨_, .running _ d ⟨busy.address, busy.pending, busy.hasQuery, busy.reply⟩, ?_, hc⟩
          exact ⟨hcontent.trans (by rw [← hbytes]), hclosed, hw.outgoing, hw.silent⟩
      | expired _ hout =>
          refine ⟨_, .ended _ d none rfl busy.hasQuery busy.reply, rfl, hall ?_⟩
          have hnil : unsent P l = [] := by
            by_contra hne
            exact (hintime hne).2 hout
          obtain ⟨hring, hleft⟩ := List.append_eq_nil_iff.mp hnil
          rw [hring] at hsuffix
          rw [List.suffix_nil.mp hsuffix, hleft]
          rfl
      | silent hc =>
          exact ⟨_, .ended _ d none rfl busy.hasQuery busy.reply, rfl, hall (hend hc)⟩
      | missed _ he => exact absurd rfl he
      | malformed _ he => exact absurd rfl he
      | busy _ _ he => exact absurd rfl he
      | retry _ _ he => exact absurd rfl he
      | answered _ _ he => exact absurd rfl he

/-- **A poll that does not cut the stream short keeps what is known of it.** -/
theorem poll_flow {ph : Phase TransferQuery ModuleReplyMessage}
    (hin : InPhase moduleAddress h l.comms ph) (hi : Flow P content l ph)
    (hC : l.comms.address ≠ 0 → l.comms.pending = some .writeModuleData →
      (l.comms.hasQuery = true → l.queries.writeModuleData.left ≠ [] →
        ¬ ReplyConfig.NoReply.transactionTimeout < p.clock.ended - p.clock.checked) ∧
      (l.comms.hasQuery = false → takes bus p l = true ∧ InTime P p l)) :
    ∃ ph, InPhase moduleAddress h (ModuleCommunications.poll (transferQueries P) (record bus) p l).comms ph ∧
      Flow P content (ModuleCommunications.poll (transferQueries P) (record bus) p l) ph := by
  have ha : moduleAddress ≠ 0 := by decide
  have hstill (h0 : l.comms.address = 0) :
      ∃ ph, InPhase moduleAddress h (ModuleCommunications.poll (transferQueries P) (record bus) p l).comms ph ∧
        Flow P content (ModuleCommunications.poll (transferQueries P) (record bus) p l) ph := by
    rw [poll_still h0]
    exact ⟨ph, hin, hi⟩
  cases ph with
  | resting => cases hin with | resting rest => exact hstill rest.address
  | queued q => cases hin with | queued _ _ rest => exact hstill rest.address
  | ended q r => cases hin with | ended _ _ _ h0 => exact hstill h0
  | fresh q =>
      obtain ⟨c', hpoll, hc⟩ := poll_fresh (M := transferQueries P) (p := p) (record bus) ha hin
      rw [hpoll]
      cases q with
      | writeModuleData =>
          have hbusy : Busy moduleAddress .writeModuleData true l.comms := by
            cases hin with | fresh _ _ busy => exact busy
          obtain ⟨hcond, -⟩ := hC (hbusy.address ▸ ha) hbusy.pending
          obtain ⟨hleft, hsent⟩ := hi
          rcases hc with ⟨rfl, hph⟩ | ⟨hph, hout⟩
          · refine ⟨_, hph, ⟨?_, fun h => ?_, rfl, rfl⟩, rfl⟩
            · show content.map P.byte = sentBytes l.bus.carried ++
                ([] ++ l.queries.writeModuleData.left.map P.byte)
              rw [hsent, hleft]
              rfl
            · exact absurd h Bool.false_ne_true
          · refine ⟨_, hph, rfl, ?_⟩
            have hnil : l.queries.writeModuleData.left = [] := by
              by_contra hne
              exact hcond hbusy.hasQuery hne hout
            show sentBytes l.bus.carried = content.map P.byte
            rw [hsent, ← hleft, hnil]
            rfl
      | prepareModuleDataTransfer =>
          have hleft : l.queries.writeModuleData.left = content := hi rfl
          rcases hc with ⟨rfl, hph⟩ | ⟨hph, -⟩
          · exact ⟨_, hph, fun _ => hleft⟩
          · exact ⟨_, hph, fun _ => hleft⟩
      | verifyModuleData =>
          rcases hc with ⟨rfl, hph⟩ | ⟨hph, -⟩
          · exact ⟨_, hph, fun h => (by cases h)⟩
          · exact ⟨_, hph, fun h => (by cases h)⟩
  | running q =>
      obtain ⟨c', hpoll, hset, hbusy⟩ :=
        poll_running (M := transferQueries P) (p := p) (record bus) ha hin
      rw [hpoll]
      have hb : Busy moduleAddress q false l.comms := by
        cases hin with | running _ _ busy => exact busy
      cases q with
      | writeModuleData =>
          obtain ⟨htakes, hintime⟩ := (hC (hb.address ▸ ha) hb.pending).2 hb.hasQuery
          exact running_flow hin hi.1 hi.2 htakes hintime hset
      | prepareModuleDataTransfer =>
          obtain ⟨ph, hph, hquery⟩ := settled_phase hin hbusy hset
          exact ⟨ph, hph, (flow_of_query hquery (by decide)).mpr fun _ => hi rfl⟩
      | verifyModuleData =>
          obtain ⟨ph, hph, hquery⟩ := settled_phase hin hbusy hset
          exact ⟨ph, hph, (flow_of_query hquery (by decide)).mpr fun h => (by cases h)⟩

end Polls

section Steps

variable {P : ModuleProtocol β} {bus : TwoWireBus β B} {content : List Byte} {s s' : Watched β B}

theorem streamInv_start (now : Uptime)
    (comms : ModuleCommunications TransferQuery ModuleReplyMessage β)
    (settings : ModuleCopySettings) (devices : B) :
    StreamInv P content (start now comms settings content devices) where
  phase := ⟨.queued .prepareModuleDataTransfer, .queued _ _ ⟨rfl, rfl, rfl⟩, fun _ => rfl⟩
  reports := by simp [start]

/-- A step that reports nothing. -/
theorem StreamInv.quiet (hi : StreamInv P content s)
    {core : PrepareTransmissionData β (Recorder β B)} {result : TaskEval}
    (hph : ∃ ph, InPhase moduleAddress core.protocol core.link.comms ph ∧ Flow P content core.link ph) :
    StreamInv P content { core, result, reports := s.reports ++ [] } :=
  ⟨hph, by simpa using hi.reports⟩

/-- Nothing is reported unless something is finished. -/
theorem reported_nil {now : Uptime} {h : ModuleProtocolHandler TransferQuery}
    {l : TransferLink β (Recorder β B)}
    (hh : s.core.protocol.handle (transferQueries P) now s.core.link = some ({}, h, l)) :
    reported P now s = [] := by
  unfold reported
  rw [hh]
  rfl

/-- **One call of the task keeps the invariant.** -/
theorem task_inv {now : Uptime} (hi : StreamInv P content s)
    (h : step P bus s (.task now) = some s') : StreamInv P content s' := by
  obtain ⟨ph, hin, hflow⟩ := hi.phase
  simp only [step] at h
  split at h
  case isFalse => cases h
  case isTrue =>
  obtain ⟨⟨e, core⟩, htask, rfl⟩ := Option.map_eq_some_iff.mp h
  have htasked := task_tasked hin htask
  dsimp only
  cases htasked with
  | done hdue hh | waits _ _ hdue hh =>
      rw [reported_nil hh]
      simp only [renew, hdue, Option.isSome_none, Bool.false_eq_true, if_false]
      exact hi.quiet ⟨_, hin, hflow⟩
  | @enqueues q _ l hdue hh hfresh hbus hqueries =>
      rw [reported_nil hh]
      simp only [renew, hdue, Option.isSome_some, if_true]
      refine hi.quiet ⟨_, hfresh, ?_⟩
      cases q with
      | writeModuleData => exact ⟨hqueries ▸ hflow, rfl⟩
      | prepareModuleDataTransfer => exact fun _ => hqueries ▸ hflow rfl
      | verifyModuleData => exact fun h => (by cases h)
  | @finishes q r l hdue hh hrest hbus hqueries =>
      simp only [renew, hdue, Option.isSome_none, Bool.false_eq_true, if_false]
      refine ⟨?_, fun rep hrep => ?_⟩
      · have hcon := finish_concluded P now q r l
        generalize finish P now { query := some q, reply := r } ⟨{}, l⟩ = out at hcon ⊢
        obtain ⟨e, core⟩ := out
        cases hcon with
        | failed | verified => exact ⟨_, hrest, fun h => (by cases h)⟩
        | prepared =>
            refine ⟨_, push_queued hrest .writeModuleData 0, ?_⟩
            show l.queries.writeModuleData.left = content
            rw [hqueries]
            exact hflow rfl
        | written => exact ⟨_, push_queued (l := l) hrest .verifyModuleData 0, fun h => (by cases h)⟩
      · rcases List.mem_append.mp hrep with hrep | hrep
        · exact hi.reports rep hrep
        · unfold reported at hrep
          rw [hh] at hrep
          dsimp only at hrep
          split at hrep
          · next hwrite =>
              cases hwrite
              obtain ⟨-, hsent⟩ := hflow
              rw [List.mem_singleton] at hrep
              exact Or.inl (hrep ▸ hsent)
          · exact absurd hrep List.not_mem_nil

/-- **One step keeps the invariant.** -/
theorem step_inv {i : Input B} (hi : StreamInv P content s) (hC : Unhurried P bus s i)
    (h : step P bus s i = some s') : StreamInv P content s' := by
  cases i with
  | task now => exact task_inv hi h
  | poll p =>
      cases h
      obtain ⟨ph, hin, hflow⟩ := hi.phase
      exact ⟨poll_flow hin hflow hC, hi.reports⟩
  | modules devices =>
      cases h
      obtain ⟨ph, hin, hflow⟩ := hi.phase
      refine ⟨⟨ph, hin, ?_⟩, hi.reports⟩
      cases ph with
      | resting => exact hflow
      | queued q | fresh q | running q | ended q r => cases q <;> exact hflow

end Steps

/-- **A stream that is never hurried is never cut short unnoticed.** The reader, the bus, the
    devices and the order of polls are arbitrary. -/
theorem streamed_whole (P : ModuleProtocol β) (bus : TwoWireBus β B) (now : Uptime)
    (comms : ModuleCommunications TransferQuery ModuleReplyMessage β)
    (settings : ModuleCopySettings) (content : List Byte) (devices : B)
    {tr : List (Watched β B × Input B)} {s : Watched β B}
    (h : Run (step P bus) (start now comms settings content devices) tr s)
    (hC : Meets (Unhurried P bus) tr) : ∀ r ∈ s.reports, Faithful P content r :=
  (h.inv_meets (Unhurried P bus) (StreamInv P content) (streamInv_start now comms settings devices)
    (fun _ _ _ hi hC hs => step_inv hi hC hs) hC).reports

/-! ## 4. One byte of firmware -/

/-- A module that answers every message, behind a bus that takes streamed bytes if `ok` says so. -/
def oneModule (ok : Bool) : TwoWireBus Frame Unit where
  send _ _ bytes := (ok || Frame.bytes bytes = [], ())
  receive _ _ _ := ([.reply { type := .REPLY_DATA }], ())

/-- A poll at `now`. -/
def pollAt (now : Uptime) : Input Unit :=
  .poll { clock := Clock.still now, offered := 255, room := 256, env := {} }

/-- The transfer of one byte, until the task is told that it is over. -/
def oneByte : List (Input Unit) :=
  [.task 900, pollAt 1000, pollAt 1010, pollAt 1200, pollAt 1300, .task 1400, .task 1500,
   pollAt 1600, pollAt 1610, pollAt 1620, pollAt 1630, pollAt 1640, .task 1700]

/-- The byte is refused; the task is told of no error, and goes on to `QUERY_DATA_VERIFY`. -/
theorem streamed_short : ¬ ∀ (tr : List (Watched Frame Unit × Input Unit)) (s : Watched Frame Unit),
    Run (step frames (oneModule false)) (start 0 {} { bank := 1, size := 1 } [7] ()) tr s →
      ∀ r ∈ s.reports, Faithful frames [7] r := by
  intro hall
  have hexec : (exec (step frames (oneModule false)) (start 0 {} { bank := 1, size := 1 } [7] ())
      oneByte).map (·.reports) = some [{ error := false, goesOn := true, sent := [] }] := rfl
  obtain ⟨tr, s, hrun, hreports⟩ := run_of_exec_map hexec
  rcases hall tr s hrun _ (hreports ▸ List.mem_singleton_self _) with h | ⟨h, -⟩
  · exact absurd h (by decide)
  · exact absurd h (by decide)

instance [DecidableEq β] (P : ModuleProtocol β) (p : Poll Ticking)
    (l : TransferLink β (Recorder β B)) : Decidable (InTime P p l) :=
  inferInstanceAs (Decidable (_ → _ ∧ _))

instance [DecidableEq β] (P : ModuleProtocol β) (bus : TwoWireBus β B) (s : Watched β B) :
    ∀ i, Decidable (Unhurried P bus s i)
  | .poll _ => inferInstanceAs (Decidable (_ → _ → (_ → _ → _) ∧ (_ → _ ∧ _)))
  | .task _ => inferInstanceAs (Decidable True)
  | .modules _ => inferInstanceAs (Decidable True)

/-- When it is taken, it has been sent by the time the task is told so. -/
theorem streamed_whole_sent : ∃ tr s,
    Run (step frames (oneModule true)) (start 0 {} { bank := 1, size := 1 } [7] ()) tr s ∧
    s.reports = [{ error := false, goesOn := true, sent := [.byte 7] }] ∧
    ∀ r ∈ s.reports, Faithful frames [7] r := by
  have hexec : (exec (guarded (Unhurried frames (oneModule true)) (step frames (oneModule true)))
      (start 0 {} { bank := 1, size := 1 } [7] ()) oneByte).map (·.reports) =
      some [{ error := false, goesOn := true, sent := [.byte 7] }] := by decide
  obtain ⟨tr, s, hrun, hreports⟩ := run_of_exec_map hexec
  obtain ⟨hrun, hC⟩ := hrun.of_guarded
  exact ⟨tr, s, hrun, hreports, streamed_whole frames (oneModule true) 0 {} _ [7] () hrun hC⟩

end FieldKit.Streaming

/-
  File:      FieldKit/Core/Agreement.lean
  Subject:   Do the core and the module agree on what became of a firmware transfer?

  The task that sends the firmware runs against a module: polls of the core, ticks of the module's
  main loop and bus callbacks in any order, over a bus that may lose any transfer.

  * `transfer_agrees` -- in a run in which no `REPLY_ERROR` is handed to the task, no piece of the
    firmware reads as a query and no save of the module's flash state fails, the task is done only
    if the bank on the module's flash designates what it has received;
  * `transfer_disagrees` -- a module that cannot allocate the file.
-/
import FieldKit.Core.Transmissions
import FieldKit.Module.Commit
import FieldKit.Module.Wire

namespace FieldKit.Agreement

open Lib Session PrepareTransmissionData ModuleProtocolHandler

variable {n : Nat} {β : Type}

/-! ## 1. The machine -/

/-- The task and the module, which is on the bus; `taken` lists the replies that were handed to the
    task. -/
structure Parties (n : Nat) (β : Type) where
  core : PrepareTransmissionData β (Wire n β)
  result : TaskEval := .busy
  taken : List (TransferQuery × ReplyType) := []

/-- One thing that happens. -/
inductive Input (n : Nat) where
  | task (now : Uptime)
  | poll (clock : Clock) (env : Ticking) (weather : Weather)
  | tick (t : Tick n)

/-- A transfer that has just been enqueued, on a communications object and a module that rest. -/
def start (now : Uptime) (comms : ModuleCommunications TransferQuery ModuleReplyMessage β)
    (settings : ModuleCopySettings) (content : List Byte) (module : Module n β) : Parties n β where
  core := enqueued now
    { comms := { comms with address := 0, hasQuery := false, reply := none }
      queries := { settings, writeModuleData := WriteModuleData.ofContent content }
      bus := { module := { module with current := .Idle, child := {} } } }

/-- The reply that a call of `task()` is handed. -/
def handed (P : ModuleProtocol β) (now : Uptime) (s : Parties n β) :
    List (TransferQuery × ReplyType) :=
  match s.core.protocol.handle (transferQueries P) now s.core.link with
  | some ({ query := some q, reply := some r }, _, _) => [(q, r.type)]
  | _ => []

/-- The machine. The task is not called again once it has ended. -/
def step (P : ModuleProtocol β) (capacity : Nat) (s : Parties n β) :
    Input n → Option (Parties n β)
  | .task now =>
    if s.result.isRunning then
      (task P now s.core).map fun (e, core) =>
        { s with core, result := e, taken := s.taken ++ handed P now s }
    else none
  | .poll clock env weather =>
    some { s with
      core.link := ModuleCommunications.poll (transferQueries P) (wire P) (wholePoll clock env)
        { s.core.link with bus.weather := weather } }
  | .tick t =>
    (s.core.link.bus.module.tick P capacity t).map fun m =>
      { s with core.link.bus.module := m }

/-! ## 2. What is asked -/

/-- **The module has committed**: on its flash, the bank with this number designates the file that
    it has received last. -/
def Committed (bank : BitVec 32) (m : Module n β) : Prop :=
  ∃ b, FirmwareBank.ofNumber bank = some b ∧ m.dataCopyStatus.pending.valid = true ∧
    m.flash.persisted.banks b = m.dataCopyStatus.pending

/-- **The core and the module agree**: done means committed, a `REPLY_ERROR` is an error, and after
    a failed `QUERY_DATA_PREPARE` no byte is taken from the reader. -/
structure Agreed (bank : BitVec 32) (content : List Byte) (s : Parties n β) : Prop where
  done : s.result = .done → Committed bank s.core.link.bus.module ∧
    (.verifyModuleData, .REPLY_SUCCESS) ∈ s.taken
  errors : ∀ q, (q, ReplyType.REPLY_ERROR) ∈ s.taken → s.result = .error
  prepared : (.prepareModuleDataTransfer, .REPLY_ERROR) ∈ s.taken →
    s.core.link.queries.writeModuleData.reader = content

/-- No `REPLY_ERROR` is waiting for the task, the next piece of the firmware does not read as a
    query, and a save of the flash state succeeds. -/
def Plain (P : ModuleProtocol β) (s : Parties n β) : Input n → Prop
  | .task _ =>
    match s.core.link.comms.reply with
    | some r => r.type ≠ .REPLY_ERROR
    | none => True
  | .poll _ _ _ =>
    s.core.link.comms.pending = some .writeModuleData →
      match (s.core.link.comms.outgoing.read (serialBufferSize - 1) (serialBufferSize - 1)).1 with
      | some piece => P.decodeQuery piece = none
      | none => True
  | .tick (.serve e) => e.saved = true
  | .tick _ => True

/-! ## 3. The module's side -/

/-- The module is not about to read a query. -/
def Engaged (m : Module n β) : Prop := m.current ≠ .Idle ∧ m.current ≠ .Servicer

/-- The module has committed, and does nothing any more but flash itself. -/
def Ended (bank : BitVec 32) (m : Module n β) : Prop :=
  (m.current = .FirmwareSelfFlash ∨ m.current = .Rebooted) ∧ Committed bank m

/-- **What is known of the module**: an answer other than an error keeps it engaged, and it reads
    only what the core has sent. Once its answer to `QUERY_DATA_PREPARE` is `past`, another
    `QUERY_DATA_PREPARE` that is still there will not be handled any more. -/
structure Fit (P : ModuleProtocol β) (past : Bool) (bank : BitVec 32) (m : Module n β) : Prop where
  outgoing : m.child.outgoing = [] ∨ ∃ r, m.child.outgoing = P.encodeReply r ∧
    (r.type = .REPLY_ERROR ∨ (Engaged m ∧
      ((past = false ∧ r.type = .REPLY_DATA) ∨ (r.type = .REPLY_SUCCESS ∧ Ended bank m))))
  incoming : m.child.incoming ≠ [] → ∀ q, P.decodeQuery m.child.incoming = some q →
    (q.type = .QUERY_DATA_VERIFY ∧ q.data.bank = bank) ∨
      (q.type = .QUERY_DATA_PREPARE ∧ (past = true → Engaged m))
  current : m.current ≠ .Readings ∧ m.current ≠ .Message

section Module

variable {P : ModuleProtocol β} {past : Bool} {bank : BitVec 32} {m m' : Module n β}
  {capacity : Nat}

/-- **A module that has ended stays as it is.** -/
theorem tick_ended {t : Tick n} (he : Ended bank m) (h : m.tick P capacity t = some m') :
    Ended bank m' := by
  have hnot {current : ModuleState} (hcur : m.current = current)
      (hself : current ≠ .FirmwareSelfFlash) (hrebooted : current ≠ .Rebooted) :
      Ended bank m' :=
    absurd he.1 (by simp [hcur, hself, hrebooted])
  cases Module.tick_ran h with
  | flashed => exact ⟨Or.inr rfl, he.2⟩
  | rebooted hcur => exact hnot hcur (by simp) (by simp)
  | waited => exact he
  | woken hcur => exact hnot hcur (by simp) (by simp)
  | served hcur => exact hnot hcur (by simp) (by simp)
  | measured i time value hcur => exact hnot hcur (by simp) (by simp)
  | left hcur => exact hnot hcur (by simp) (by simp)
  | messaged hcur => exact hnot hcur (by simp) (by simp)
  | opened hcur => exact hnot hcur (by simp) (by simp)
  | received r hcur => exact hnot hcur (by simp) (by simp)

/-- A module that has just written a reply, and has nothing to read. -/
theorem fit_write {r : ModuleReplyMessage} (hout : m.child.outgoing = [])
    (hinc : m.child.incoming = []) (hcur : m.current ≠ .Readings ∧ m.current ≠ .Message)
    (hr : r.type = .REPLY_ERROR ∨ (Engaged m ∧
      ((past = false ∧ r.type = .REPLY_DATA) ∨ (r.type = .REPLY_SUCCESS ∧ Ended bank m)))) :
    Fit P past bank (ModuleServicer.write P r m) := by
  refine ⟨?_, ?_, hcur⟩
  · unfold ModuleServicer.write TwoWireChild.write
    dsimp only
    split
    · exact Or.inl hout
    · next b bs he => exact Or.inr ⟨r, he.symm, hr⟩
  · have hkept : (ModuleServicer.write P r m).child.incoming = m.child.incoming := by
      unfold ModuleServicer.write TwoWireChild.write
      dsimp only
      split <;> rfl
    rw [hkept, hinc]
    exact fun h => absurd rfl h

/-- The module moves on without touching its buffers. -/
theorem Fit.moved (hi : Fit P past bank m) (hout : m'.child.outgoing = m.child.outgoing)
    (hinc : m'.child.incoming = m.child.incoming) (heng : Engaged m → Engaged m')
    (hend : Ended bank m → Ended bank m')
    (hcur : m'.current ≠ .Readings ∧ m'.current ≠ .Message) : Fit P past bank m' := by
  refine ⟨?_, ?_, hcur⟩
  · rw [hout]
    exact hi.outgoing.imp id fun ⟨r, hr, h⟩ =>
      ⟨r, hr, h.imp id fun ⟨he, h⟩ => ⟨heng he, h.imp id (And.imp id hend)⟩⟩
  · rw [hinc]
    exact fun hne q hq => (hi.incoming hne q hq).imp id fun ⟨ht, he⟩ => ⟨ht, fun hp => heng (he hp)⟩

/-- A commit whose save succeeds is on the flash. -/
theorem committed_update {data : DataQuery} {b : FirmwareBank} {address : BlockAddress}
    (hbank : data.bank = bank) (hv : ModuleServicer.verify data m = some (.commit b address))
    (hstatus : m'.dataCopyStatus = m.dataCopyStatus)
    (hflash : m'.flash = (FirmwareStorage.update b address true m.flash).2) :
    Committed bank m' := by
  obtain ⟨hnumber, haddr, -, hver⟩ := Commit.checked_of_commit hv
  obtain ⟨f, hf, -⟩ := verify_iff.mp hver
  refine ⟨b, hbank ▸ hnumber, ?_, ?_⟩
  · rw [hstatus]
    by_contra hinvalid
    rw [Bool.not_eq_true] at hinvalid
    exact absurd (hf.symm.trans (m.flash.table.invalid_missing _ hinvalid)) (by simp)
  · rw [hflash, update_flash, if_pos rfl, hstatus, haddr]
    exact Function.update_self _ _ _

/-- **The servicer answers what it has read**: an error, or it is engaged. -/
theorem task_fit {e : Serving} (hi : Fit P past bank m) (hcur : m.current = .Servicer)
    (h : ModuleServicer.task P e m = some m') (hsaved : e.saved = true) : Fit P past bank m' := by
  unfold ModuleServicer.task at h
  split at h
  · cases h
    exact hi
  · next b bs hinc =>
      split at h
      · cases h
        refine ⟨hi.outgoing.imp id fun ⟨r, hr, h⟩ => ⟨r, hr, h.imp id fun ⟨he, _⟩ => ?_⟩,
          fun h => absurd rfl h, by simp⟩
        exact absurd hcur he.2
      · next query hq =>
          have hdec : P.decodeQuery m.child.incoming = some query := by rw [hinc]; exact hq
          unfold ModuleServicer.handle at h
          dsimp only at h
          rcases hi.incoming (by simp [hinc]) query hdec with ⟨hverify, hbank⟩ | ⟨hprepare, heng⟩
          · rw [hverify] at h
            dsimp only at h
            split at h
            · cases h
            · next b address hv =>
                have hv' : ModuleServicer.verify query.data m = some (.commit b address) := hv
                rw [hsaved] at h
                cases h
                refine fit_write rfl rfl (by simp) (Or.inr ⟨⟨by simp, by simp⟩, Or.inr ⟨rfl, ?_⟩⟩)
                exact ⟨Or.inl rfl, committed_update hbank hv' rfl rfl⟩
            · cases h
              exact fit_write rfl rfl (by simp) (Or.inl rfl)
          · -- past its answer, the module would be engaged, and not the servicer's
            have hpast : past = false := by
              by_contra hp
              rw [Bool.not_eq_false] at hp
              exact (heng hp).2 hcur
            rw [hprepare] at h
            dsimp only at h
            split at h
            · cases h
              exact fit_write rfl rfl (by simp)
                (Or.inr ⟨⟨by simp, by simp⟩, Or.inl ⟨hpast, rfl⟩⟩)
            · cases h
              exact fit_write rfl rfl (by simp) (Or.inl rfl)

/-- **One tick of the module keeps what is known of it.** -/
theorem tick_fit {t : Tick n} (hi : Fit P past bank m) (h : m.tick P capacity t = some m')
    (hsaved : ∀ e, t = .serve e → e.saved = true) : Fit P past bank m' := by
  have hidle (hcur : m.current = .Idle) : ¬ Engaged m := fun he => he.1 hcur
  have hend : Ended bank m → Ended bank m' := fun he => tick_ended he h
  cases Module.tick_ran h with
  | rebooted hcur => exact hi.moved rfl rfl (fun he => absurd he (hidle hcur)) hend (by simp)
  | waited => exact hi
  | woken hcur => exact hi.moved rfl rfl (fun he => absurd he (hidle hcur)) hend (by simp)
  | served hcur htask => exact task_fit hi hcur htask (hsaved _ rfl)
  | measured i time value hcur => exact absurd hcur hi.current.1
  | left hcur => exact absurd hcur hi.current.1
  | messaged hcur => exact absurd hcur hi.current.2
  | opened _ hbegin =>
      unfold ModuleReceiveData.begin at hbegin
      split at hbegin
      · cases hbegin
        exact hi.moved rfl rfl (fun _ => ⟨by simp, by simp⟩) hend (by simp)
      · cases hbegin
  | received r hcur =>
      have heng : Engaged m := ⟨by simp [hcur], by simp [hcur]⟩
      unfold ModuleReceiveData.round at hend ⊢
      split
      · unfold ModuleReceiveData.finish
        dsimp only
        split
        · exact ⟨Or.inl rfl, fun h => absurd rfl h, by simp⟩
        · exact ⟨Or.inl rfl, fun h => absurd rfl h, by simp⟩
      · next hnext =>
          rw [hnext] at hend
          exact hi.moved rfl rfl (fun _ => heng) hend hi.current
      · next hnext =>
          rw [hnext] at hend
          exact hi.moved rfl rfl (fun _ => ⟨by simp, by simp⟩) hend (by simp)
  | flashed => exact hi.moved rfl rfl (fun _ => ⟨by simp, by simp⟩) hend (by simp)

/-- The bus hands the module something it does not read, or something it was sent. -/
theorem receive_fit {bytes : List β} {room : Nat} (hi : Fit P past bank m)
    (hb : bytes ≠ [] → ∀ q, P.decodeQuery bytes = some q →
      (q.type = .QUERY_DATA_VERIFY ∧ q.data.bank = bank) ∨
        (q.type = .QUERY_DATA_PREPARE ∧ past = false)) :
    Fit P past bank { m with child := m.child.receive bytes room } := by
  unfold TwoWireChild.receive
  split
  · exact hi
  · refine ⟨hi.outgoing, fun hne q hq => (hb hne q hq).imp id fun ⟨ht, hp⟩ => ⟨ht, fun h => ?_⟩,
      hi.current⟩
    exact absurd (hp.symm.trans h) (by decide)

/-- What is known of the module once its reply is on the bus. -/
theorem reply_fit (hi : Fit P past bank m) (busy : Bool) :
    Fit P past bank { m with child := (m.child.reply P busy).2 } := by
  unfold TwoWireChild.reply
  split
  · exact hi
  · exact ⟨Or.inl rfl, hi.incoming, hi.current⟩

end Module

/-! ## 4. The core's side -/

/-- The messages of the transfer. -/
def encode (P : ModuleProtocol β) (q : TransferQuery) (o : TransferObjects) : List β :=
  match q with
  | .prepareModuleDataTransfer => P.encodeQuery o.prepareModuleDataTransfer
  | .writeModuleData => []
  | .verifyModuleData => P.encodeQuery o.verifyModuleData

/-- The query that streams. -/
def streamed (q : TransferQuery) : Bool := decide (q = .writeModuleData)

/-- The queries that are pushed after `QUERY_DATA_PREPARE` has been answered. -/
def isPast (q : TransferQuery) : Bool := decide (q ≠ .prepareModuleDataTransfer)

/-- The etag is that of a firmware header, and the firmware is for this bank. -/
def Tagged (bank : BitVec 32) (o : TransferObjects) : Prop :=
  o.settings.etag.length ≤ 64 ∧ o.settings.bank = bank

theorem prepare_short {bank : BitVec 32} {o : TransferObjects} (h : Tagged bank o) :
    o.prepareModuleDataTransfer.Short :=
  ⟨h.1, Nat.zero_le _⟩

theorem verify_short {bank : BitVec 32} {o : TransferObjects} (h : Tagged bank o) :
    o.verifyModuleData.Short :=
  ⟨h.1, (length_toLE 4 _).le⟩

/-- **The queries of a transfer are messages, but for the one that streams.** -/
theorem speaks (P : ModuleProtocol β) (bank : BitVec 32) :
    Speaks (transferQueries P) (encode P) streamed (Tagged bank) where
  one q hq := by cases q <;> first | rfl | exact absurd hq (by decide)
  none q hq := by cases q <;> first | rfl | exact absurd hq (by decide)
  prepare q e o hq := by cases q <;> first | rfl | exact absurd hq (by decide)
  tick q e o out hq := by cases q <;> first | rfl | exact absurd hq (by decide)
  fits q o hK hq := by
    cases q with
    | prepareModuleDataTransfer => exact P.query_fits _ (prepare_short hK)
    | writeModuleData => exact absurd hq (by decide)
    | verifyModuleData => exact P.query_fits _ (verify_short hK)
  kept q e o out hK := by cases q <;> exact ⟨hK, hK⟩

/-- **What the type of a reply to `q` says**, unless it is an error. -/
def Known (P : ModuleProtocol β) (bank : BitVec 32) (m : Module n β) (q : TransferQuery) (t : ReplyType) :
    Prop :=
  t = .REPLY_ERROR ∨
    match q with
    | .prepareModuleDataTransfer => Fit P true bank m
    | .writeModuleData => True
    | .verifyModuleData => t = .REPLY_SUCCESS ∧ Ended bank m

/-- **What is known of the module in each stage of a query.** -/
def Evidence (P : ModuleProtocol β) (bank : BitVec 32) (m : Module n β) :
    Stage TransferQuery ModuleReplyMessage β → Prop
  | .resting => True
  | .queued q | .fresh q | .unsent q | .asked q | .stream q => Fit P (isPast q) bank m
  | .got q bytes => Fit P (isPast q) bank m ∧ ∀ r, P.decodeReply bytes = some r →
      r.type = .REPLY_BUSY ∨ r.type = .REPLY_RETRY ∨ Known P bank m q r.type
  | .ended q r => Fit P (isPast q) bank m ∧ ∀ r', r = some r' → Known P bank m q r'.type

section Moves

variable {P : ModuleProtocol β} {bank : BitVec 32} {o : TransferObjects}
  {b b' : Wire n β} {st st' : Stage TransferQuery ModuleReplyMessage β}

/-- What a send leaves of the module. -/
theorem wire_send_fit {past : Bool} {a : Address} {bytes : List β} {ok : Bool}
    (hi : Fit P past bank b.module) (h : (wire P).send b a bytes = (ok, b'))
    (hb : bytes ≠ [] → ∀ q, P.decodeQuery bytes = some q →
      (q.type = .QUERY_DATA_VERIFY ∧ q.data.bank = bank) ∨
        (q.type = .QUERY_DATA_PREPARE ∧ past = false)) : Fit P past bank b'.module := by
  simp only [wire, Prod.mk.injEq] at h
  obtain ⟨-, rfl⟩ := h
  split
  · exact receive_fit hi hb
  · exact hi

/-- **What a receive brings in**: nothing, what the child says of itself, or what the module has
    answered, and then the module is past it. -/
theorem wire_receive_known {q : TransferQuery} {a : Address} {bytes : List β}
    (hi : Fit P (isPast q) bank b.module)
    (h : (wire P).receive b a (serialBufferSize - 1) = (bytes, b')) :
    Fit P (isPast q) bank b'.module ∧ (bytes ≠ [] → ∀ r, P.decodeReply bytes = some r →
      r.type = .REPLY_BUSY ∨ r.type = .REPLY_RETRY ∨ Known P bank b'.module q r.type) := by
  unfold wire at h
  dsimp only at h
  split at h
  case isFalse => cases h; exact ⟨hi, fun h => absurd rfl h⟩
  case isTrue =>
  have hwhole (r : ModuleReplyMessage) : (P.encodeReply r).take (serialBufferSize - 1) =
      P.encodeReply r := by
    have := P.reply_fits r
    exact List.take_of_length_le (by omega)
  simp only [Prod.mk.injEq] at h
  obtain ⟨hbytes, rfl⟩ := h
  refine ⟨reply_fit hi _, fun hne r hr => ?_⟩
  have harr : bytes = (b.module.child.reply P b.module.current.busy).1.take (serialBufferSize - 1) := by
    rw [← hbytes] at hne ⊢
    split
    · rfl
    · next hlost => exact absurd (if_neg hlost) hne
  rw [harr] at hr
  unfold TwoWireChild.reply at hr ⊢
  split at hr
  · next hnone =>
      simp only at hr
      rw [hwhole] at hr
      have htype := P.reply_type _ _ hr
      simp only at htype
      split at htype
      · exact Or.inl htype
      · exact Or.inr (Or.inl htype)
  · next x xs hout =>
      rcases hi.outgoing with hnil | ⟨r', hr', hcase⟩
      · exact absurd (hout.symm.trans hnil) (by simp)
      · simp only at hr
        rw [← hout, hr', hwhole] at hr
        have htype := P.reply_type _ _ hr
        rw [htype]
        refine Or.inr (Or.inr ?_)
        rcases hcase with herr | ⟨heng, hcase⟩
        · exact Or.inl herr
        · right
          cases q with
          | prepareModuleDataTransfer =>
              -- it has answered, so it is engaged, and its answer is gone
              refine ⟨Or.inl rfl, fun hne q hq => ?_, hi.current⟩
              exact (hi.incoming hne q hq).imp id fun ⟨ht, _⟩ => ⟨ht, fun _ => heng⟩
          | writeModuleData => trivial
          | verifyModuleData =>
              rcases hcase with ⟨hpast, -⟩ | hcase
              · exact absurd hpast (by decide)
              · exact hcase

/-- **One move of the exchange keeps what is known.** -/
theorem move_evidence (hK : Tagged bank o)
    (hmove : Move (transferQueries P) (wire P) moduleAddress (encode P · o) streamed
      (fun bytes => P.decodeQuery bytes = none) (b, st) (b', st'))
    (hi : Evidence P bank b.module st) : Evidence P bank b'.module st' := by
  cases hmove with
  | written => exact hi
  | opened => exact hi
  | @sent q _ _ ok h =>
      refine wire_send_fit hi h fun hne query hq => ?_
      cases q with
      | prepareModuleDataTransfer =>
          simp only [encode, P.query_decodes _ (prepare_short hK), Option.some.injEq] at hq
          exact Or.inr ⟨hq ▸ rfl, rfl⟩
      | writeModuleData => exact absurd rfl hne
      | verifyModuleData =>
          simp only [encode, P.query_decodes _ (verify_short hK), Option.some.injEq] at hq
          exact Or.inl ⟨hq ▸ rfl, hq ▸ hK.2⟩
  | nothing h => exact (wire_receive_known hi h).1
  | received hne h => exact ⟨(wire_receive_known hi h).1, (wire_receive_known hi h).2 hne⟩
  | piece hS h => exact wire_send_fit hi h fun _ query hq => absurd (hS.symm.trans hq) (by simp)
  | busy => exact hi.1
  | retry => exact hi.1
  | answered hd hb ht =>
      refine ⟨hi.1, fun r' hr' => ?_⟩
      cases hr'
      rcases hi.2 _ hd with h | h | h
      · exact absurd h hb
      · exact absurd h ht
      · exact h
  | dropped hst =>
      refine ⟨?_, fun r' hr' => (by cases hr')⟩
      rcases hst with rfl | rfl | ⟨bytes, rfl⟩ | rfl
      · exact hi
      · exact hi
      · exact hi.1
      · exact hi

/-- **Any number of moves.** -/
theorem moves_evidence (hK : Tagged bank o)
    (hmoves : Relation.ReflTransGen (Move (transferQueries P) (wire P) moduleAddress (encode P · o)
      streamed (fun bytes => P.decodeQuery bytes = none)) (b, st) (b', st'))
    (hi : Evidence P bank b.module st) : Evidence P bank b'.module st' := by
  generalize hx : (b', st') = x at hmoves
  induction hmoves generalizing b' st' with
  | refl => cases hx; exact hi
  | tail _ hmove ih => subst hx; exact move_evidence hK hmove (ih rfl)

/-- **A tick of the module keeps what the core has evidence of.** -/
theorem tick_evidence {capacity : Nat} {t : Tick n} {m m' : Module n β}
    (hi : Evidence P bank m st) (h : m.tick P capacity t = some m')
    (hsaved : ∀ e, t = .serve e → e.saved = true) : Evidence P bank m' st := by
  have hfit {past : Bool} (hf : Fit P past bank m) : Fit P past bank m' := tick_fit hf h hsaved
  have hknown {q : TransferQuery} {t : ReplyType} (hk : Known P bank m q t) :
      Known P bank m' q t := by
    refine hk.imp id fun hk => ?_
    cases q with
    | prepareModuleDataTransfer => exact hfit hk
    | writeModuleData => trivial
    | verifyModuleData => exact ⟨hk.1, tick_ended hk.2 h⟩
  cases st with
  | resting => trivial
  | queued q | fresh q | unsent q | asked q | stream q => exact hfit hi
  | got q bytes => exact ⟨hfit hi.1, fun r hr => (hi.2 r hr).imp id (Or.imp id hknown)⟩
  | ended q r => exact ⟨hfit hi.1, fun r' hr' => hknown (hi.2 r' hr')⟩

end Moves

/-! ## 5. One step, and the run -/

/-- The invariant. -/
structure AgreeInv (P : ModuleProtocol β) (bank : BitVec 32) (s : Parties n β) : Prop where
  tagged : Tagged bank s.core.link.queries
  stage : ∃ st, InStage (encode P) streamed moduleAddress s.core.protocol s.core.link st ∧
    Evidence P bank s.core.link.bus.module st ∧
    (s.result = .done → st = .resting) ∧
    (st = .resting → s.result ≠ .error →
      Ended bank s.core.link.bus.module ∧ (.verifyModuleData, .REPLY_SUCCESS) ∈ s.taken)
  taken : ∀ q, (q, ReplyType.REPLY_ERROR) ∉ s.taken

theorem AgreeInv.agreed {P : ModuleProtocol β} {bank : BitVec 32} {content : List Byte}
    {s : Parties n β} (hi : AgreeInv P bank s) : Agreed bank content s := by
  obtain ⟨st, -, -, hdone, hrest⟩ := hi.stage
  refine ⟨fun hd => ?_, fun q hq => absurd hq (hi.taken q), fun hq => absurd hq (hi.taken _)⟩
  obtain ⟨hended, hmem⟩ := hrest (hdone hd) (by simp [hd])
  exact ⟨hended.2, hmem⟩

section Steps

variable {P : ModuleProtocol β} {bank : BitVec 32} {capacity : Nat} {s s' : Parties n β}

theorem agreeInv_start (now : Uptime)
    (comms : ModuleCommunications TransferQuery ModuleReplyMessage β)
    (settings : ModuleCopySettings) (hetag : settings.etag.length ≤ 64) (content : List Byte)
    (module : Module n β) : AgreeInv P settings.bank (start now comms settings content module) where
  tagged := ⟨hetag, rfl⟩
  stage := by
    refine ⟨.queued .prepareModuleDataTransfer, .queued _ _ ⟨rfl, rfl, rfl⟩, ?_,
      fun h => (by cases h), fun h => (by cases h)⟩
    exact ⟨Or.inl rfl, fun h => absurd rfl h, by simp [start, enqueued]⟩
  taken := by simp [start]

/-- **A finished query, unless its reply is an error**: the core rests only over a commit, or after
    an error. -/
theorem finish_inv (now : Uptime) {q : TransferQuery} {r : Option ModuleReplyMessage}
    {l : TransferLink β (Wire n β)}
    (hin : InPhase moduleAddress {} l.comms .resting)
    (hfit : Fit P (isPast q) bank l.bus.module)
    (hknown : ∀ r', r = some r' → Known P bank l.bus.module q r'.type)
    (hplain : ∀ r', r = some r' → r'.type ≠ .REPLY_ERROR)
    {e : TaskEval} {core : PrepareTransmissionData β (Wire n β)}
    (h : finish P now { query := some q, reply := r } ⟨{}, l⟩ = (e, core)) :
    ∃ st, InStage (encode P) streamed moduleAddress core.protocol core.link st ∧
      (Tagged bank l.queries → Tagged bank core.link.queries) ∧
      Evidence P bank core.link.bus.module st ∧ (e = .done → st = .resting) ∧
      (st = .resting → e ≠ .error → Ended bank core.link.bus.module ∧
        q = .verifyModuleData ∧ ∃ r', r = some r' ∧ r'.type = .REPLY_SUCCESS) := by
  have hcon := finish_concluded P now q r l
  rw [h] at hcon
  cases hcon with
  | failed =>
      exact ⟨.resting, hin, id, trivial, fun h => (by cases h), fun _ h => absurd rfl h⟩
  | prepared r' =>
      refine ⟨.queued .writeModuleData, push_queued hin _ _, id, ?_, fun h => (by cases h),
        fun h => (by cases h)⟩
      rcases hknown r' rfl with he | hpast
      · exact absurd he (hplain r' rfl)
      · exact hpast
  | written =>
      exact ⟨.queued .verifyModuleData, push_queued (l := l) hin _ _, id, hfit,
        fun h => (by cases h), fun h => (by cases h)⟩
  | verified r' =>
      refine ⟨.resting, hin, id, trivial, fun h => (by cases h), fun _ _ => ?_⟩
      rcases hknown r' rfl with he | ⟨hsuccess, hcommitted⟩
      · exact absurd he (hplain r' rfl)
      · exact ⟨hcommitted, rfl, r', rfl, hsuccess⟩

/-- **One call of the task keeps the invariant**, unless it is handed an error. -/
theorem task_inv {now : Uptime} (hi : AgreeInv P bank s) (hC : Plain P s (.task now))
    (h : step P capacity s (.task now) = some s') : AgreeInv P bank s' := by
  obtain ⟨st, hin, hev, hdone, hrest⟩ := hi.stage
  simp only [step] at h
  split at h
  case isFalse => cases h
  case isTrue hrun =>
  obtain ⟨⟨e, core⟩, htask, rfl⟩ := Option.map_eq_some_iff.mp h
  have htasked := task_tasked hin.phase htask
  have hnone {h' : ModuleProtocolHandler TransferQuery} {l : TransferLink β (Wire n β)}
      (hh : s.core.protocol.handle (transferQueries P) now s.core.link = some ({}, h', l)) :
      s.taken ++ handed P now s = s.taken := by
    unfold handed
    rw [hh]
    exact List.append_nil _
  have hnoerror : s.result ≠ .error := by
    intro he
    rw [he] at hrun
    exact absurd hrun (by decide)
  generalize hph : st.phase = ph at htasked
  cases htasked with
  | done hdue hh =>
      obtain rfl := Stage.eq_resting hph
      refine ⟨hi.tagged, ⟨.resting, hin, trivial, fun _ => rfl, fun _ _ => ?_⟩, ?_⟩
      · rw [hnone hh]
        exact hrest rfl hnoerror
      · rw [hnone hh]
        exact hi.taken
  | waits hne _ hdue hh =>
      refine ⟨hi.tagged, ⟨st, hin, hev, fun h => (by cases h), fun h => ?_⟩, ?_⟩
      · exact absurd (by rw [← hph, h]; rfl) hne
      · rw [hnone hh]
        exact hi.taken
  | @enqueues q h' l hdue hh hfresh hbus hqueries =>
      obtain rfl := Stage.eq_queued hph
      refine ⟨by rw [hqueries]; exact hi.tagged, ⟨.fresh q, hfresh, ?_, fun h => (by cases h),
        fun h => (by cases h)⟩, ?_⟩
      · rw [hbus]
        exact hev
      · rw [hnone hh]
        exact hi.taken
  | @finishes q r l hdue hh hrested hbus hqueries =>
      obtain rfl := Stage.eq_ended hph
      obtain ⟨hfit, hknown⟩ := hev
      have hreply : s.core.link.comms.reply = r := hin.phase.reply_of_ended
      have hplain : ∀ r', r = some r' → r'.type ≠ .REPLY_ERROR := by
        intro r' hr'
        simpa [Plain, hreply, hr'] using hC
      have hhanded : handed P now s = (r.map fun r' => (q, r'.type)).toList := by
        unfold handed
        rw [hh]
        cases r <;> rfl
      have htaken : ∀ q', (q', ReplyType.REPLY_ERROR) ∉ s.taken ++ handed P now s := by
        intro q' hmem
        rcases List.mem_append.mp hmem with hmem | hmem
        · exact hi.taken q' hmem
        · rw [hhanded] at hmem
          cases r with
          | none => exact absurd hmem List.not_mem_nil
          | some r' =>
              have heq : (q', ReplyType.REPLY_ERROR) = (q, r'.type) := List.mem_singleton.mp hmem
              exact hplain r' rfl (congrArg Prod.snd heq).symm
      generalize hout : finish P now { query := some q, reply := r } ⟨{}, l⟩ = out
      obtain ⟨e, core⟩ := out
      obtain ⟨st', hin', htag, hev', hdone', hrest'⟩ :=
        finish_inv now hrested (hbus ▸ hfit) (fun r' hr' => hbus ▸ hknown r' hr') hplain hout
      refine ⟨htag (hqueries ▸ hi.tagged), ⟨st', hin', hev', hdone', fun hst he => ?_⟩, htaken⟩
      obtain ⟨hcommitted, rfl, r', rfl, hsuccess⟩ := hrest' hst he
      refine ⟨hcommitted, List.mem_append_right _ ?_⟩
      rw [hhanded]
      exact List.mem_singleton.mpr (congrArg (Prod.mk _) hsuccess.symm)

/-- At rest a poll does nothing. -/
theorem poll_resting {h : ModuleProtocolHandler TransferQuery} {l : TransferLink β (Wire n β)}
    {p : Poll Ticking}
    (hin : InStage (encode P) streamed moduleAddress h l .resting) :
    ModuleCommunications.poll (transferQueries P) (wire P) p l = l := by
  cases hin.phase with
  | resting rest => exact poll_still rest.address

/-- **One plain step keeps the invariant.** -/
theorem step_inv {i : Input n} (hi : AgreeInv P bank s) (hC : Plain P s i)
    (h : step P capacity s i = some s') : AgreeInv P bank s' := by
  cases i with
  | task now => exact task_inv hi hC h
  | poll clock env weather =>
      cases h
      obtain ⟨st, hin, hev, hdone, hrest⟩ := hi.stage
      have hin' : InStage (encode P) streamed moduleAddress s.core.protocol
          { s.core.link with bus.weather := weather } st := by
        cases st <;> exact hin
      -- a stream is that of `WriteModuleData`, and its pieces do not read as queries
      have hS : ∀ q bytes, st = .stream q → bytes ≠ [] →
          (s.core.link.comms.outgoing.read (serialBufferSize - 1)
            (wholePoll clock env).offered).1 = some bytes → P.decodeQuery bytes = none := by
        intro q bytes hst _ hread
        subst hst
        obtain ⟨hphase, hq, -⟩ := hin
        have hwrite : q = .writeModuleData := by simpa [streamed] using hq
        have hpending : s.core.link.comms.pending = some .writeModuleData :=
          hwrite ▸ hphase.pending_of_running
        have := hC hpending
        rwa [show (s.core.link.comms.outgoing.read (serialBufferSize - 1)
          (serialBufferSize - 1)).1 = some bytes from hread] at this
      obtain ⟨st', hin'', hmoves⟩ := poll_moves (wire P) (p := wholePoll clock env)
        (l := { s.core.link with bus.weather := weather })
        (S := fun bytes => P.decodeQuery bytes = none) (speaks P bank) hi.tagged (by decide)
        (whole_wholePoll _ _) (fun b => wire_receive_length P b moduleAddress) hin' hS
      refine ⟨poll_kept (K := Tagged bank) (speaks P bank) hi.tagged,
        ⟨st', hin'', moves_evidence hi.tagged hmoves hev,
        fun hd => ?_, fun hst he => ?_⟩, hi.taken⟩
      · exact (moves_resting hmoves).mp (hdone hd)
      · obtain rfl := (moves_resting hmoves).mpr hst
        rw [poll_resting hin']
        exact hrest rfl he
  | tick t =>
      obtain ⟨m, htick, rfl⟩ := Option.map_eq_some_iff.mp h
      obtain ⟨st, hin, hev, hdone, hrest⟩ := hi.stage
      refine ⟨hi.tagged, ⟨st, ?_, ?_, hdone, fun hst he => ?_⟩, hi.taken⟩
      · cases st <;> exact hin
      · exact tick_evidence hev htick fun e he => by
          subst he
          exact hC
      · obtain ⟨hended, hmem⟩ := hrest hst he
        exact ⟨tick_ended hended htick, hmem⟩

end Steps

/-- **In a plain run the core and the module agree.** The firmware, the bank, the module with its
    flash, the bus and the order of steps are arbitrary. -/
theorem transfer_agrees (P : ModuleProtocol β) (capacity : Nat) (now : Uptime)
    (comms : ModuleCommunications TransferQuery ModuleReplyMessage β)
    (settings : ModuleCopySettings) (hetag : settings.etag.length ≤ 64) (content : List Byte)
    (module : Module n β) {tr : List (Parties n β × Input n)} {s : Parties n β}
    (h : Run (step P capacity) (start now comms settings content module) tr s)
    (hC : Meets (Plain P) tr) : Agreed settings.bank content s :=
  (h.inv_meets (Plain P) (AgreeInv P settings.bank) (agreeInv_start now comms settings hetag content module)
    (fun _ _ _ hi hC hs => step_inv hi hC hs) hC).agreed

/-! ## 6. A firmware of three bytes -/

/-- The transfer of three bytes to a module without sensors. -/
def threeBytes : Parties 0 Frame :=
  start 0 {} { bank := 1, size := 3 } [1, 2, 3] { info := Commit.bareInfo }

/-- A poll at `now`, in fair weather. -/
def pollAt (now : Uptime) : Input 0 := .poll (Clock.still now) {} {}

/-- `QUERY_DATA_PREPARE` is sent, handled and answered, and the bytes are sent; `opens` is what the
    module does in between. -/
def sending (e : Serving) (opens : List (Input 0)) : List (Input 0) :=
  [.task 900, pollAt 1000, pollAt 1010, .tick (.idle 0), .tick (.serve e), pollAt 1200,
   pollAt 1300, .task 1400, .task 1500] ++ opens ++
  [pollAt 1600, pollAt 1610, pollAt 1620, pollAt 1630, pollAt 1640, .task 1700]

/-- `QUERY_DATA_VERIFY` is sent, handled and answered. -/
def verifying : List (Input 0) :=
  [.task 1800, pollAt 1900, pollAt 1910, .tick (.idle 0), .tick (.serve {}), pollAt 2100,
   pollAt 2200, .task 2300, .task 2400]

/-- The module cannot allocate the file and says so, twice; the core streams the firmware all the
    same, and is done. -/
theorem transfer_disagrees : ¬ ∀ (tr : List (Parties 0 Frame × Input 0)) (s : Parties 0 Frame),
    Run (step frames 1000) threeBytes tr s → Agreed 1 [1, 2, 3] s := by
  intro hall
  have hexec : (exec (step frames 1000) threeBytes
      (sending { preallocated := false } [] ++ verifying)).map (fun s =>
        (s.result, s.core.link.bus.module.dataCopyStatus.pending.valid)) =
      some (.done, false) := by decide +kernel
  obtain ⟨tr, s, hrun, hs⟩ := run_of_exec_map hexec
  rw [Prod.mk.injEq] at hs
  obtain ⟨b, -, hvalid, -⟩ := ((hall tr s hrun).done hs.1).1
  exact absurd (hs.2.symm.trans hvalid) (by decide)

instance (P : ModuleProtocol β) (s : Parties n β) : ∀ i, Decidable (Plain P s i)
  | .task _ =>
    match h : s.core.link.comms.reply with
    | some r => decidable_of_iff (r.type ≠ .REPLY_ERROR) (by simp [Plain, h])
    | none => isTrue (by simp [Plain, h])
  | .poll _ _ _ =>
    match h : (s.core.link.comms.outgoing.read (serialBufferSize - 1) (serialBufferSize - 1)).1 with
    | some piece =>
      decidable_of_iff (s.core.link.comms.pending = some .writeModuleData →
        (P.decodeQuery piece).isNone = true) (by simp [Plain, h])
    | none => isTrue (by simp [Plain, h])
  | .tick (.serve e) => inferInstanceAs (Decidable (e.saved = true))
  | .tick (.idle _) | .tick (.measured _ _ _) | .tick .left | .tick .message | .tick (.open _)
  | .tick (.data _) | .tick .selfFlash => isTrue trivial

/-- A module that can commits, and the core is done. -/
theorem transfer_agrees_committed : ∃ tr s, Run (step frames 1000) threeBytes tr s ∧
    s.result = .done ∧ Agreed 1 [1, 2, 3] s := by
  have hexec : (exec (guarded (Plain frames) (step frames 1000)) threeBytes
      (sending {} [.tick (.open { block := 7, position := 0 })] ++
        [.tick (.data {}), .tick (.data {})] ++ verifying)).map (·.result) = some .done := by
    decide +kernel
  obtain ⟨tr, s, hrun, hresult⟩ := run_of_exec_map hexec
  obtain ⟨hrun, hC⟩ := hrun.of_guarded
  exact ⟨tr, s, hrun, hresult,
    transfer_agrees frames 1000 0 {} _ (by decide) [1, 2, 3] _ hrun hC⟩

end FieldKit.Agreement

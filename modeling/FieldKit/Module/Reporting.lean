/-
  File:      FieldKit/Module/Reporting.lean
  Subject:   `QUERY_READING_STATUS` (module_servicer.cpp): is a module called idle too early?

  Readings are begun, finish in any order, and are asked for at any time. Beside the module stand
  the readings that have finished since they were begun, sensor by sensor, and those that replies
  have carried. A reading that is measured again before it is asked for takes the place of the old
  one.

  * `handle_status` -- what an answer is: the first reading that is done, or `IDLE`;
  * `truthful_iff` -- in a run, all answers are right exactly if no question comes when a sensor is
    still busy and no reading is done;
  * `busy_called_idle` -- a module that has just begun.
-/
import FieldKit.Lib.Run
import FieldKit.Module.Readings

namespace FieldKit.Reporting

open Lib

variable {n : Nat} {β : Type}

/-! ## 1. The machine -/

/-- What a sensor holds, if it is done. -/
def pending (readings : Fin n → SensorReading) (i : Fin n) : List IncomingSensorReading :=
  if (readings i).status = .Done then [(readings i).outgoing i] else []

/-- A module, and what has finished and what has been reported of every sensor, oldest first. -/
structure Ledger (n : Nat) (β : Type) where
  module : Module n β
  finished : Fin n → List IncomingSensorReading
  reported : Fin n → List IncomingSensorReading

/-- A module as it is found, with any readings. -/
def start (m : Module n β) : Ledger n β where
  module := m
  finished := pending m.readings
  reported _ := []

/-- What can happen: readings are begun, one finishes, and the status is asked for. -/
inductive Input (n : Nat) where
  | begin (e : Serving) (query : ModuleQueryMessage)
      (type : query.type = .QUERY_BEGIN_TAKE_READINGS)
  | done (i : Fin n) (time value : BitVec 32)
  | status (e : Serving) (query : ModuleQueryMessage) (type : query.type = .QUERY_READING_STATUS)

/-- A reading that has finished, after these. -/
def finish (readings : Fin n → SensorReading) (i : Fin n) (r : IncomingSensorReading)
    (finished : List IncomingSensorReading) : List IncomingSensorReading :=
  (if (readings i).status = .Done then finished.dropLast else finished) ++ [r]

/-- The machine. -/
def step (P : ModuleProtocol β) (s : Ledger n β) : Input n → Option (Ledger n β)
  | .begin e query _ => (ModuleServicer.handle P e query s.module).map start
  | .done i time value => some { s with
      module := PendingReadings.done i time value s.module
      finished := Function.update s.finished i
        (finish s.module.readings i { sensor := i, time, value } (s.finished i)) }
  | .status e query _ => (ModuleServicer.handle P e query s.module).map fun m =>
      { s with
        module := m
        reported := fun i => s.reported i ++
          (carried P m.child.outgoing).filter fun r => decide (r.sensor = i.val) }

/-! ## 2. Right answers -/

/-- **A right answer to these readings**, and what it leaves of them. -/
structure Right (readings : Fin n → SensorReading) (reply : ModuleReplyMessage)
    (readings' : Fin n → SensorReading) : Prop where
  type : reply.type = .REPLY_READING_STATUS
  done : ∀ i, (readings i).status = .Done → (∀ j < i, (readings j).status ≠ .Done) →
    reply.readingStatus.state = .DONE ∧ reply.sensorReading = (readings i).outgoing i ∧
      readings' = Function.update readings i { readings i with status := .Idle }
  busy : (∀ i, (readings i).status ≠ .Done) → (∃ i, (readings i).status = .Busy) →
    reply.readingStatus.state = .BUSY ∧ readings' = readings
  idle : reply.readingStatus.state = .IDLE ↔ ∀ i, (readings i).status = .Idle

/-- **Every question is answered, and answered right**; and with `IDLE` every reading that has
    finished has been reported, each once. -/
def Truthful (P : ModuleProtocol β) (s : Ledger n β) : Input n → Prop
  | .status e query _ => ∃ m reply, ModuleServicer.handle P e query s.module = some m ∧
      P.decodeReply m.child.outgoing = some reply ∧ Right s.module.readings reply m.readings ∧
        (reply.readingStatus.state = .IDLE → ∀ i, s.reported i = s.finished i)
  | _ => True

/-- **No question comes when a sensor is still busy and no reading is done.** -/
def Answerable (s : Ledger n β) : Input n → Prop
  | .status .. =>
    (∃ i, (s.module.readings i).status = .Done) ∨ ∀ i, (s.module.readings i).status ≠ .Busy
  | _ => True

/-- What has finished has been reported, or is still held. -/
def LedgerInv (s : Ledger n β) : Prop :=
  ∀ i, s.finished i = s.reported i ++ pending s.module.readings i

theorem ledgerInv_start (m : Module n β) : LedgerInv (start m) := fun _ => rfl

/-! ## 3. The answer -/

section Answers

variable {P : ModuleProtocol β} {m : Module n β}

theorem carried_encode {r : ModuleReplyMessage} (hr : r.Plain) :
    carried P (P.encodeReply r) = r.carried := by
  have hdecodes := P.reply_decodes r hr
  unfold carried
  split
  · next hnil => exact absurd hnil (P.reply_ne_nil r hr)
  · next b bs hbytes =>
      rw [← hbytes, hdecodes]
      rfl

/-- **What an answer is**: the first reading that is done, which is then idle, or `IDLE`. -/
theorem handle_status (e : Serving) {query : ModuleQueryMessage}
    (hq : query.type = .QUERY_READING_STATUS) :
    ∃ m', ModuleServicer.handle P e query m = some m' ∧
      ((∃ i, (m.readings i).status = .Done ∧ (∀ j < i, (m.readings j).status ≠ .Done) ∧
          m'.child.outgoing = P.encodeReply (doneReply m.elapsed ((m.readings i).outgoing i)) ∧
          m'.readings = Function.update m.readings i { m.readings i with status := .Idle }) ∨
        ((∀ i, (m.readings i).status ≠ .Done) ∧ m'.child.outgoing = P.encodeReply idleReply ∧
          m'.readings = m.readings)) := by
  unfold ModuleServicer.handle
  rw [hq]
  dsimp only
  refine ⟨_, rfl, ?_⟩
  rcases readingStatus_cases m.elapsed (List.finRange n) idleReply m.readings (by decide) with
    ⟨pre, i, post, hsplit, hpre, hdone, heq⟩ | ⟨hnone, heq⟩
  · left
    refine ⟨i, hdone, fun j hj => hpre j ?_, ?_, ?_⟩
    · -- the loop goes through the sensors in order
      have hsorted : (pre ++ i :: post).Pairwise (· < ·) := by
        rw [← hsplit]
        exact List.pairwise_lt_finRange n
      have hmem : j ∈ pre ++ i :: post := hsplit ▸ List.mem_finRange j
      rcases List.mem_append.mp hmem with hmem | hmem
      · exact hmem
      · have hbehind := (List.pairwise_cons.mp (List.pairwise_append.mp hsorted).2.1).1
        rcases List.mem_cons.mp hmem with rfl | hmem
        · exact absurd hj (lt_irrefl j)
        · exact absurd (hbehind j hmem) (lt_asymm hj)
    · unfold idleReply at heq
      rw [heq]
      exact (write_outgoing ⟨rfl, rfl, rfl⟩ _).1
    · unfold idleReply at heq
      rw [heq]
      rfl
  · right
    refine ⟨fun i => hnone i (List.mem_finRange i), ?_, ?_⟩
    · unfold idleReply at heq
      rw [heq]
      exact (write_outgoing ⟨rfl, rfl, rfl⟩ _).1
    · unfold idleReply at heq
      rw [heq]
      rfl

/-- What is read back of an answer. -/
theorem decode_plain {r : ModuleReplyMessage} (hr : r.Plain) {m' : Module n β}
    (hout : m'.child.outgoing = P.encodeReply r) : P.decodeReply m'.child.outgoing = some r := by
  rw [hout, P.reply_decodes r hr]

theorem pending_of_ne (readings readings' : Fin n → SensorReading) {i : Fin n}
    (h : readings' i = readings i) : pending readings' i = pending readings i := by
  unfold pending
  rw [h]

/-- The first reading that is done is right, and leaves the others alone. -/
theorem right_done {readings : Fin n → SensorReading} {i : Fin n} (elapsed : BitVec 32)
    (hdone : (readings i).status = .Done) (hfirst : ∀ j < i, (readings j).status ≠ .Done) :
    Right readings (doneReply elapsed ((readings i).outgoing i))
      (Function.update readings i { readings i with status := .Idle }) where
  type := rfl
  done k hk hkfirst := by
    have hki : k = i := by
      rcases lt_trichotomy k i with hlt | heq | hgt
      · exact absurd hk (hfirst k hlt)
      · exact heq
      · exact absurd hdone (hkfirst i hgt)
    subst hki
    exact ⟨rfl, rfl, rfl⟩
  busy hnone _ := absurd hdone (hnone i)
  idle := by
    refine ⟨fun h => (nomatch h), fun hall => ?_⟩
    have hidle := hall i
    rw [hdone] at hidle
    cases hidle

/-- `IDLE` is right when no reading is done or busy. -/
theorem right_idle {readings : Fin n → SensorReading} (hnone : ∀ i, (readings i).status ≠ .Done)
    (hbusy : ∀ i, (readings i).status ≠ .Busy) : Right readings idleReply readings where
  type := rfl
  done i hi _ := absurd hi (hnone i)
  busy _ hb := by
    obtain ⟨i, hi⟩ := hb
    exact absurd hi (hbusy i)
  idle := by
    refine ⟨fun _ i => ?_, fun _ => rfl⟩
    cases hstatus : (readings i).status with
    | Idle => rfl
    | Busy => exact absurd hstatus (hbusy i)
    | Done => exact absurd hstatus (hnone i)

end Answers

/-! ## 4. Runs -/

section Runs

variable {P : ModuleProtocol β} {s s' : Ledger n β}

/-- A reading that finishes. -/
theorem done_inv (hs : LedgerInv s) (i : Fin n) (time value : BitVec 32) :
    LedgerInv { s with
      module := PendingReadings.done i time value s.module
      finished := Function.update s.finished i
        (finish s.module.readings i { sensor := i, time, value } (s.finished i)) } := by
  intro j
  have hj := hs j
  unfold PendingReadings.done
  dsimp only
  rcases eq_or_ne j i with rfl | hne
  · have hheld : (if (s.module.readings j).status = .Done then (s.finished j).dropLast
        else s.finished j) = s.reported j := by
      rw [hj]
      unfold pending
      split
      · exact List.dropLast_concat
      · exact List.append_nil _
    rw [Function.update_self]
    unfold finish
    rw [hheld]
    unfold pending
    rw [Function.update_self, if_pos rfl]
    rfl
  · rw [Function.update_of_ne hne, hj,
      pending_of_ne _ (Function.update s.module.readings i _)
        (Function.update_of_ne hne _ _)]

/-- A reading that is handed over. -/
theorem handed_inv (hs : LedgerInv s) {i : Fin n} {m : Module n β}
    (hdone : (s.module.readings i).status = .Done)
    (hreadings : m.readings =
      Function.update s.module.readings i { s.module.readings i with status := .Idle }) :
    LedgerInv { s with
      module := m
      reported := fun j => s.reported j ++
        [(s.module.readings i).outgoing i].filter fun r => decide (r.sensor = j.val) } := by
  intro j
  have hj := hs j
  show s.finished j = (s.reported j ++ _) ++ pending m.readings j
  rw [hj, List.append_assoc]
  congr 1
  rcases eq_or_ne j i with rfl | hne
  · unfold pending
    rw [hreadings, Function.update_self, if_pos hdone]
    simp [SensorReading.outgoing]
  · have hother : ¬ i.val = j.val := fun h => hne (Fin.ext h.symm)
    rw [pending_of_ne s.module.readings m.readings
      (by rw [hreadings, Function.update_of_ne hne])]
    simp [SensorReading.outgoing, hother]

/-- **What has finished has been reported, or is still held**, after every step. -/
theorem step_inv {i : Input n} (hs : LedgerInv s) (h : step P s i = some s') : LedgerInv s' := by
  cases i with
  | begin e query type =>
      obtain ⟨m, _, rfl⟩ := Option.map_eq_some_iff.mp h
      exact ledgerInv_start m
  | done i time value =>
      cases h
      exact done_inv hs i time value
  | status e query type =>
      obtain ⟨m, hm, rfl⟩ := Option.map_eq_some_iff.mp h
      obtain ⟨m', hm', ⟨i, hdone, _, hout, hreadings⟩ | ⟨_, hout, hreadings⟩⟩ :=
        handle_status (P := P) (m := s.module) e type
      · obtain rfl : m = m' := Option.some.inj (hm.symm.trans hm')
        rw [hout, carried_encode ⟨rfl, rfl, rfl⟩]
        exact handed_inv hs hdone hreadings
      · obtain rfl : m = m' := Option.some.inj (hm.symm.trans hm')
        rw [hout, carried_encode ⟨rfl, rfl, rfl⟩]
        intro j
        have hj := hs j
        show s.finished j = (s.reported j ++ []) ++ pending m.readings j
        rw [hreadings, List.append_nil, hj]

/-- **One question**: it is answered right exactly if it is not asked too early. -/
theorem step_truthful_iff (hs : LedgerInv s) (i : Input n) :
    Truthful P s i ↔ Answerable s i := by
  cases i with
  | begin e query type => exact Iff.rfl
  | done i time value => exact Iff.rfl
  | status e query type =>
      obtain ⟨m, hm, ⟨i, hdone, hfirst, hout, hreadings⟩ | ⟨hnone, hout, hreadings⟩⟩ :=
        handle_status (P := P) (m := s.module) e type
      · refine ⟨fun _ => Or.inl ⟨i, hdone⟩, fun _ => ?_⟩
        refine ⟨m, _, hm, decode_plain ⟨rfl, rfl, rfl⟩ hout, ?_, fun h => nomatch h⟩
        rw [hreadings]
        exact right_done _ hdone hfirst
      · constructor
        · intro h
          obtain ⟨m', r, hm', hr, hright, _⟩ := h
          obtain rfl : m = m' := Option.some.inj (hm.symm.trans hm')
          rw [decode_plain ⟨rfl, rfl, rfl⟩ hout] at hr
          cases hr
          refine Or.inr fun i hbusy => ?_
          have hstate := (hright.busy hnone ⟨i, hbusy⟩).1
          cases hstate
        · intro hask
          have hbusy : ∀ i, (s.module.readings i).status ≠ .Busy :=
            hask.resolve_left fun ⟨i, hi⟩ => hnone i hi
          refine ⟨m, _, hm, decode_plain ⟨rfl, rfl, rfl⟩ hout, ?_, fun _ i => ?_⟩
          · rw [hreadings]
            exact right_idle hnone hbusy
          · have hi := hs i
            unfold pending at hi
            rw [if_neg (hnone i), List.append_nil] at hi
            exact hi.symm

/-- **All answers of a run are right exactly if no question comes when a sensor is still busy and no
    reading is done.** -/
theorem truthful_iff {m : Module n β} {tr : List (Ledger n β × Input n)}
    (h : Run (step P) (start m) tr s) : Meets (Truthful P) tr ↔ Meets Answerable tr :=
  h.meets_congr (Truthful P) Answerable LedgerInv (ledgerInv_start m)
    (fun _ _ _ hs hstep => step_inv hs hstep) fun _ i _ hs _ => step_truthful_iff hs i

end Runs

/-- A module with one sensor. -/
def oneSensor : Module 1 Frame where
  info := { type := 1, minimumNumberOfReadings := 1, name := [], module := [],
            sensors := fun _ => ⟨[], []⟩, uptime := 0, git := [], build := [], compiled := 0 }

/-- A cycle that is asked about when its reading is done, and again. -/
def askedDone : List (Input 1) :=
  [.begin {} { type := .QUERY_BEGIN_TAKE_READINGS } rfl, .done ⟨0, Nat.one_pos⟩ 7 21,
   .status {} { type := .QUERY_READING_STATUS } rfl,
   .status {} { type := .QUERY_READING_STATUS } rfl]

/-- The reading is reported, and then the module is idle. -/
theorem truthful_iff_done : ∃ tr s, Run (step frames) (start oneSensor) tr s ∧
    s.reported 0 = [{ sensor := 0, time := 7, value := 21 }] ∧
    (Meets (Truthful frames) tr ↔ Meets Answerable tr) := by
  have hexec : (exec (step frames) (start oneSensor) askedDone).map (·.reported 0) =
      some [{ sensor := 0, time := 7, value := 21 }] := by decide +kernel
  obtain ⟨tr, s, hrun, hs⟩ := run_of_exec_map hexec
  exact ⟨tr, s, hrun, hs, truthful_iff hrun⟩

/-- Readings are begun, and the module is called idle. -/
theorem busy_called_idle : ¬ ∀ (n : Nat) (m : Module n Frame)
    (tr : List (Ledger n Frame × Input n)) (s : Ledger n Frame),
    Run (step frames) (start m) tr s → Meets (Truthful frames) tr := by
  intro hall
  let asked : Input 1 := .status {} { type := .QUERY_READING_STATUS } rfl
  let begun : Module 1 Frame := { oneSensor with readings := fun _ => { status := .Busy } }
  obtain ⟨s, hstep⟩ : ∃ s, step frames (start begun) asked = some s := ⟨_, rfl⟩
  have hmeets := hall 1 begun [(start begun, asked)] s (.step [] _ _ _ .start hstep)
  obtain ⟨m, r, hm, hr, hright, _⟩ := hmeets _ (List.mem_singleton_self _)
  cases hm
  cases hr
  have hidle := hright.idle.mp rfl 0
  cases hidle

end FieldKit.Reporting

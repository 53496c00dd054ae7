/-
  File:      FieldKit/Core/ScanProgress.lean
  Subject:   Does a scan come to an end (attached_devices.cpp)? Whatever modules reply, and whether or
             not the bus could be acquired.

  Here `AttachedDevices` goes over any list of addresses that is ended by 0, and has the protocol
  handler through which it asks. Beside it stands what the scan that is going on has asked of which
  address, and what was announced there.

  * `moving_iff` -- in a run, every poll that returns busy leaves a query in the handler exactly if
    the bus is acquired wherever a scan begins;
  * `run_counted` -- a scan asks twice at every stop, and once for every sensor announced there;
  * `scan_progress` -- both, and what the second means if no address stands twice in the list;
  * `stalled` -- a scan that begins while the bus is taken never moves again;
  * `bus_taken` -- such a scan.
-/
import Mathlib.Data.List.GetD
import FieldKit.Lib.Run
import FieldKit.Core.AttachedDevices

namespace FieldKit.ScanProgress

open Lib Attached

/-! ## 1. The scan -/

/-- Addresses, in front of the 0 that ends them. -/
structure AddressList where
  entries : List Address
  nonzero : ∀ a ∈ entries, a ≠ 0 := by decide

/-- `addresses[index]`. -/
def AddressList.at (list : AddressList) (index : BitVec 8) : Address :=
  list.entries.getD index.toNat 0

/-- `AttachedDevices`, with what its query objects hold, and the communications object. `asked` and
    `announced` are not in the source: what this scan has asked, and how many sensors an address
    has announced in it. -/
structure Devices (O β B : Type) where
  addressIndex : BitVec 8 := 0
  type : BitVec 8 := 0
  numberOfSensors : BitVec 8 := 0
  sensor : BitVec 8 := 0
  scanning : Bool := false
  protocol : ModuleProtocolHandler ScanQuery := {}
  link : Link ScanQuery O ModuleReplyMessage β B
  asked : List (Address × ScanQuery) := []
  announced : Address → Nat := fun _ => 0

section Scan

variable {O E β B : Type} (list : AddressList)

namespace Devices

/-- `protocol.push(address, query)`, at the address that the scan is at. -/
def push (now : Uptime) (q : ScanQuery) (s : Devices O β B) : Devices O β B :=
  { s with
    protocol := s.protocol.push now (list.at s.addressIndex) q 0
    asked := s.asked ++ [(list.at s.addressIndex, q)] }

/-- `query(address)`. -/
def query (now : Uptime) (s : Devices O β B) : Devices O β B :=
  ({ s with type := 0, numberOfSensors := 0 } : Devices O β B).push list now .queryCapabilities

/-- `resume()`. -/
def resume (now : Uptime) (s : Devices O β B) : Devices O β B :=
  if 0 < list.at s.addressIndex then s.query list now else { s with scanning := false }

/-- `scan()`; `acquired` is what `tryAcquire` returns. -/
def scan (now : Uptime) (acquired : Bool) (s : Devices O β B) : Devices O β B :=
  if acquired then
    ({ s with addressIndex := 0, asked := [], announced := fun _ => 0 } : Devices O β B).resume
      list now
  else s

/-- `addressIndex++; resume()`. -/
def next (now : Uptime) (s : Devices O β B) : Devices O β B :=
  ({ s with addressIndex := s.addressIndex + 1 } : Devices O β B).resume list now

/-- `done(finished)`, behind the `reply` of the query object. -/
def done (SENSOR : BitVec 8) (now : Uptime) (q : ScanQuery) (r : ModuleReplyMessage)
    (s : Devices O β B) : Devices O β B :=
  match q with
  | .queryCapabilities =>
    let n := BitVec.ofNat 8 r.capabilities.numberOfSensors
    let s : Devices O β B := { s with
      type := r.capabilities.type
      numberOfSensors := n
      announced := Function.update s.announced (list.at s.addressIndex)
        (s.announced (list.at s.addressIndex) + n.toNat) }
    if s.type = SENSOR then
      if 0 < s.numberOfSensors then
        ({ s with sensor := 0 } : Devices O β B).push list now (.querySensorCapabilities 0)
      else s.next list now
    else s.next list now
  | .querySensorCapabilities _ =>
    let s : Devices O β B := { s with sensor := s.sensor + 1 }
    if s.sensor < s.numberOfSensors then s.push list now (.querySensorCapabilities s.sensor)
    else s.push list now .queryFirmware
  | .queryFirmware => s.next list now

/-- `error(finished)`. -/
def error (now : Uptime) (q : ScanQuery) (s : Devices O β B) : Devices O β B :=
  match q with
  | .querySensorCapabilities _ => { s with scanning := false }
  | _ => s.next list now

/-- What `task()` does with what `handle` returned. All three queries have `ReplyConfig::Default`,
    which expects a reply: one that ended without a reply is in error. -/
def finished (SENSOR : BitVec 8) (now : Uptime) (f : Finished ScanQuery ModuleReplyMessage)
    (s : Devices O β B) : Devices O β B :=
  match f.query, f.reply with
  | none, _ => s
  | some q, some r => s.done list SENSOR now q r
  | some q, none => s.error list now q

/-- The first part of `task()`: a scan begins, if none is going on. -/
def begin (now : Uptime) (acquired : Bool) (s : Devices O β B) : Devices O β B :=
  if s.scanning = false then ({ s with scanning := true } : Devices O β B).scan list now acquired
  else s

/-- `task()`; `none` is a failed assertion of `enqueue`. -/
def task (SENSOR : BitVec 8) (M : ModuleQueries ScanQuery O E ModuleReplyMessage β) (now : Uptime)
    (acquired : Bool) (s : Devices O β B) : Option (Devices O β B) :=
  let s := s.begin list now acquired
  (s.protocol.handle M now s.link).map fun (f, protocol, link) =>
    ({ s with protocol, link } : Devices O β B).finished list SENSOR now f

/-- What `task()` returns, behind it. -/
def result (s : Devices O β B) : TaskEval := if s.scanning then .busy else .done

end Devices

/-- What comes next: a poll, a poll of the communications object, or something that the modules
    do. -/
inductive Input (E B : Type) where
  | task (now : Uptime) (acquired : Bool)
  | communications (p : Poll E)
  | modules (devices : B)

/-- The machine. -/
def step (SENSOR : BitVec 8) (M : ModuleQueries ScanQuery O E ModuleReplyMessage β)
    (bus : TwoWireBus β B) (s : Devices O β B) : Input E B → Option (Devices O β B)
  | .task now acquired => s.task list SENSOR M now acquired
  | .communications p => some { s with link := ModuleCommunications.poll M bus p s.link }
  | .modules devices => some { s with link := { s.link with bus := devices } }

end Scan

/-! ## 2. What is to be shown -/

section Statements

variable {O E β B : Type}

/-- **Where `task()` returns busy, the handler has a query**, pending or active. -/
def Moving (s : Devices O β B) : Prop := s.result = .busy → s.protocol.isBusy = true

/-- The bus is acquired where a scan begins. -/
def Acquired (s : Devices O β B) : Input E B → Prop
  | .task _ acquired => s.scanning = false → acquired = true
  | _ => True

/-- How many queries this scan has had for an address. -/
def count (a : Address) (s : Devices O β B) : Nat := s.asked.countP fun p => decide (p.1 = a)

/-- **No more than two, and one for every sensor that was announced.** -/
def Bounded (s : Devices O β B) : Prop := ∀ a, count a s ≤ 2 + s.announced a

/-- The handler has this query, pending or active, and nothing else. -/
def Holds (h : ModuleProtocolHandler ScanQuery) (q : ScanQuery) : Prop :=
  (h.active.query = some q ∧ 0 < h.active.address ∧ h.pending = {}) ∨
    (h.active = {} ∧ h.pending.query = some q ∧ 0 < h.pending.address)

end Statements

/-! ## 3. The handler -/

section Handler

variable {O E β B : Type} {M : ModuleQueries ScanQuery O E ModuleReplyMessage β} {now : Uptime}
  {h h' : ModuleProtocolHandler ScanQuery} {q : ScanQuery}
  {l l' : Link ScanQuery O ModuleReplyMessage β B} {f : Finished ScanQuery ModuleReplyMessage}

theorem isBusy_of_holds (hh : Holds h q) : h.isBusy = true := by
  unfold ModuleProtocolHandler.isBusy
  rw [Bool.or_eq_true]
  rcases hh with ⟨_, ha, _⟩ | ⟨_, _, ha⟩
  · exact Or.inl (decide_eq_true ha)
  · exact Or.inr (decide_eq_true ha)

theorem holds_push {a : Address} (ha : 0 < a) : Holds (h.push now a q 0) q :=
  Or.inr ⟨rfl, rfl, ha⟩

/-- **A query is held until it is finished**, and nothing is held behind it. -/
theorem handle_holds (hh : Holds h q) (hs : h.handle M now l = some (f, h', l')) :
    (f.query = none ∧ Holds h' q) ∨ (f.query = some q ∧ h' = {}) := by
  obtain ⟨⟨h1, c1⟩, henq, hfin⟩ := Option.map_eq_some_iff.mp hs
  have hh1 : Holds h1 q := by
    rcases ModuleProtocolHandler.handleEnqueue_cases henq with
      ⟨_, rfl, _⟩ | ⟨q', _, hpend, _, _, rfl, _⟩
    · exact hh
    · rcases hh with ⟨_, _, hnone⟩ | ⟨_, hq, ha⟩
      · rw [hnone] at hpend
        cases hpend
      · exact Or.inl ⟨hq, ha, rfl⟩
  -- a query that finishes is the active one, and nothing is pending beside it
  have hended : ∀ q', h1.active.query = some q' → q' = q ∧ { h1 with active := {} } = ({} :
      ModuleProtocolHandler ScanQuery) := by
    intro q' hq'
    rcases hh1 with ⟨hq, _, hpend⟩ | ⟨hact, _, _⟩
    · refine ⟨Option.some.inj (hq'.symm.trans hq), ?_⟩
      rw [hpend]
    · rw [hact] at hq'
      cases hq'
  rcases ModuleProtocolHandler.handleFinish_cases hfin with
    ⟨rfl, rfl, _, _⟩ | ⟨q', hq', _, rfl, rfl, _⟩ | ⟨q', r, hq', _, rfl, rfl, _⟩
  · exact Or.inl ⟨rfl, hh1⟩
  · obtain ⟨rfl, hempty⟩ := hended q' hq'
    exact Or.inr ⟨rfl, hempty⟩
  · obtain ⟨rfl, hempty⟩ := hended q' hq'
    exact Or.inr ⟨rfl, hempty⟩

/-- A handler without a query finishes nothing. -/
theorem handle_empty
    (hs : ({} : ModuleProtocolHandler ScanQuery).handle M now l = some (f, h', l')) :
    f.query = none ∧ h' = {} := by
  obtain ⟨⟨h1, c1⟩, henq, hfin⟩ := Option.map_eq_some_iff.mp hs
  have hh1 : h1 = {} := by
    rcases ModuleProtocolHandler.handleEnqueue_cases henq with ⟨_, rfl, _⟩ | ⟨_, _, hpend, _⟩
    · rfl
    · cases hpend
  subst hh1
  rcases ModuleProtocolHandler.handleFinish_cases hfin with
    ⟨rfl, rfl, _, _⟩ | ⟨_, hq', _⟩ | ⟨_, _, hq', _⟩
  · exact ⟨rfl, rfl⟩
  · cases hq'
  · cases hq'

end Handler

/-! ## 4. What a finished query leads to -/

section Moves

variable {O β B : Type} {list : AddressList} {SENSOR : BitVec 8} {now : Uptime}

/-- What the scan knows behind the reply to `queryCapabilities`. -/
def Devices.capable (list : AddressList) (type n : BitVec 8) (s : Devices O β B) :
    Devices O β B :=
  { s with
    type
    numberOfSensors := n
    announced := Function.update s.announced (list.at s.addressIndex)
      (s.announced (list.at s.addressIndex) + n.toNat) }

/-- **Where a scan can go when its query is finished.** -/
inductive Went (list : AddressList) (now : Uptime) (s : Devices O β B) :
    ScanQuery → Devices O β B → Prop where
  /-- The module has sensors: the first is asked for. -/
  | asksSensors (type n : BitVec 8) (hn : 0 < n) :
      Went list now s .queryCapabilities
        (({ s.capable list type n with sensor := 0 } : Devices O β B).push list now
          (.querySensorCapabilities 0))
  /-- It has none, or is no sensor module: the next address. -/
  | skips (type n : BitVec 8) : Went list now s .queryCapabilities ((s.capable list type n).next list now)
  /-- It does not answer. -/
  | passes : Went list now s .queryCapabilities (s.next list now)
  | asksNext (j : BitVec 8) (hn : s.sensor + 1 < s.numberOfSensors) :
      Went list now s (.querySensorCapabilities j)
        (({ s with sensor := s.sensor + 1 } : Devices O β B).push list now
          (.querySensorCapabilities (s.sensor + 1)))
  | asksFirmware (j : BitVec 8) :
      Went list now s (.querySensorCapabilities j)
        (({ s with sensor := s.sensor + 1 } : Devices O β B).push list now .queryFirmware)
  /-- A sensor that is not answered for ends the scan. -/
  | fails (j : BitVec 8) :
      Went list now s (.querySensorCapabilities j) { s with scanning := false }
  | leaves : Went list now s .queryFirmware (s.next list now)

/-- **It goes nowhere else.** -/
theorem finished_went {q : ScanQuery} {f : Finished ScanQuery ModuleReplyMessage}
    (hq : f.query = some q) (s : Devices O β B) :
    Went list now s q (s.finished list SENSOR now f) := by
  unfold Devices.finished
  rw [hq]
  cases f.reply with
  | some r =>
      show Went list now s q (s.done list SENSOR now q r)
      cases q with
      | queryCapabilities =>
          unfold Devices.done
          dsimp only
          split
          · split
            · next hn => exact .asksSensors _ _ hn
            · exact .skips _ _
          · exact .skips _ _
      | querySensorCapabilities j =>
          unfold Devices.done
          dsimp only
          split
          · next hn => exact .asksNext j hn
          · exact .asksFirmware j
      | queryFirmware => exact .leaves
  | none =>
      show Went list now s q (s.error list now q)
      cases q with
      | queryCapabilities => exact .passes
      | querySensorCapabilities j => exact .fails j
      | queryFirmware => exact .leaves

theorem finished_none {f : Finished ScanQuery ModuleReplyMessage} (hf : f.query = none)
    (s : Devices O β B) : s.finished list SENSOR now f = s := by
  unfold Devices.finished
  rw [hf]

/-- **What `task()` can do** to a scan that goes on: nothing is finished, or the query that was
    held. -/
theorem task_cases {E : Type} {M : ModuleQueries ScanQuery O E ModuleReplyMessage β}
    {acquired : Bool} {s s' : Devices O β B} (h : s.task list SENSOR M now acquired = some s') :
    ((s.begin list now acquired).protocol = {} → ∃ link,
      s' = { s.begin list now acquired with link }) ∧
    ∀ q, Holds (s.begin list now acquired).protocol q →
      (∃ protocol link, Holds protocol q ∧
        s' = { s.begin list now acquired with protocol, link }) ∨
      ∃ link, Went list now { s.begin list now acquired with protocol := {}, link } q s' := by
  obtain ⟨⟨f, protocol, link⟩, hhandle, rfl⟩ := Option.map_eq_some_iff.mp h
  refine ⟨fun hempty => ⟨link, ?_⟩, fun q hq => ?_⟩
  · rw [hempty] at hhandle
    obtain ⟨hf, rfl⟩ := handle_empty hhandle
    dsimp only
    rw [finished_none hf, ← hempty]
  · rcases handle_holds hq hhandle with ⟨hf, hheld⟩ | ⟨hf, rfl⟩
    · exact Or.inl ⟨protocol, link, hheld, finished_none hf _⟩
    · exact Or.inr ⟨link, finished_went hf _⟩

/-- `resume` asks at the address it is at, or is behind the last. -/
theorem resume_cases (list : AddressList) (now : Uptime) (s : Devices O β B) :
    (0 < list.at s.addressIndex ∧ s.resume list now = s.query list now) ∨
      (list.at s.addressIndex = 0 ∧ s.resume list now = { s with scanning := false }) := by
  unfold Devices.resume
  split
  · next ha => exact Or.inl ⟨ha, rfl⟩
  · next ha => exact Or.inr ⟨by simpa using ha, rfl⟩

end Moves

/-! ## 5. A scan that goes on has a query -/

section Progress

variable {O E β B : Type} {list : AddressList} {SENSOR : BitVec 8} {now : Uptime}

/-- Nothing is held where nothing is scanned, and a scan is at an address, with a query. -/
structure Kept (list : AddressList) (s : Devices O β B) : Prop where
  idle : s.scanning = false → s.protocol = {}
  going : s.scanning = true → 0 < list.at s.addressIndex ∧ ∃ q, Holds s.protocol q

/-- It does not matter what the link does. -/
theorem Kept.link {s : Devices O β B} (h : Kept list s)
    (link : Link ScanQuery O ModuleReplyMessage β B) : Kept list { s with link } :=
  ⟨h.idle, h.going⟩

theorem moving_of_kept {s : Devices O β B} (h : Kept list s) : Moving s := by
  intro hbusy
  cases hscan : s.scanning with
  | false =>
      rw [Devices.result, hscan] at hbusy
      cases hbusy
  | true =>
      obtain ⟨_, q, hq⟩ := h.going hscan
      exact isBusy_of_holds hq

/-- The query of a scan that goes on, or of none. -/
theorem kept_push {s : Devices O β B} (hscan : s.scanning = true)
    (ha : 0 < list.at s.addressIndex) (q : ScanQuery) : Kept list (s.push list now q) where
  idle hfalse := by
    rw [Devices.push, hscan] at hfalse
    cases hfalse
  going _ := ⟨ha, q, holds_push (h := s.protocol) ha⟩

theorem kept_resume {s : Devices O β B} (hscan : s.scanning = true) (hempty : s.protocol = {}) :
    Kept list (s.resume list now) := by
  rcases resume_cases list now s with ⟨ha, heq⟩ | ⟨_, heq⟩
  · rw [heq]
    exact kept_push (s := { s with type := 0, numberOfSensors := 0 }) hscan ha .queryCapabilities
  · rw [heq]
    exact ⟨fun _ => hempty, fun htrue => nomatch htrue⟩

theorem kept_went {s s' : Devices O β B} {q : ScanQuery} (hscan : s.scanning = true)
    (hempty : s.protocol = {}) (ha : 0 < list.at s.addressIndex) (h : Went list now s q s') :
    Kept list s' := by
  cases h with
  | asksSensors type n _ =>
      exact kept_push (s := { s.capable list type n with sensor := 0 }) hscan ha _
  | skips type n => exact kept_resume hscan hempty
  | passes => exact kept_resume hscan hempty
  | asksNext j _ => exact kept_push (s := { s with sensor := s.sensor + 1 }) hscan ha _
  | asksFirmware j => exact kept_push (s := { s with sensor := s.sensor + 1 }) hscan ha _
  | fails j => exact ⟨fun _ => hempty, fun htrue => nomatch htrue⟩
  | leaves => exact kept_resume hscan hempty

/-- A poll keeps the invariant where its beginning does. -/
theorem kept_task {M : ModuleQueries ScanQuery O E ModuleReplyMessage β} {acquired : Bool}
    {s s' : Devices O β B} (hk : Kept list (s.begin list now acquired))
    (h : s.task list SENSOR M now acquired = some s') : Kept list s' := by
  obtain ⟨hidle, hheld⟩ := task_cases h
  cases hscan : (s.begin list now acquired).scanning with
  | false =>
      obtain ⟨link, rfl⟩ := hidle (hk.idle hscan)
      exact hk.link link
  | true =>
      obtain ⟨ha, q, hq⟩ := hk.going hscan
      rcases hheld q hq with ⟨protocol, link, hq', rfl⟩ | ⟨link, hwent⟩
      · exact ⟨fun hfalse => absurd (hscan.symm.trans hfalse) (by decide), fun _ => ⟨ha, q, hq'⟩⟩
      · exact kept_went (s := { s.begin list now acquired with protocol := {}, link }) hscan rfl
          ha hwent

theorem kept_begin {s : Devices O β B} {acquired : Bool} (hk : Kept list s)
    (hacquired : s.scanning = false → acquired = true) :
    Kept list (s.begin list now acquired) := by
  unfold Devices.begin
  split
  · next hscan =>
      rw [hacquired hscan]
      exact kept_resume rfl (hk.idle hscan)
  · exact hk

/-- **A scan that begins while the bus is taken** is busy without a query. -/
theorem begin_taken {s : Devices O β B} (hscan : s.scanning = false) :
    s.begin list now false = { s with scanning := true } := by
  unfold Devices.begin
  rw [if_pos hscan]
  rfl

/-- The scan is busy, and asks nothing. -/
def Stalled (s : Devices O β B) : Prop := s.scanning = true ∧ s.protocol = {}

theorem not_moving_of_stalled {s : Devices O β B} (h : Stalled s) : ¬ Moving s := by
  intro hmoving
  have hbusy := hmoving (by rw [Devices.result, h.1]; rfl)
  rw [h.2] at hbusy
  cases hbusy

theorem stalled_task {M : ModuleQueries ScanQuery O E ModuleReplyMessage β} {acquired : Bool}
    {s s' : Devices O β B} (hs : Stalled (s.begin list now acquired))
    (h : s.task list SENSOR M now acquired = some s') : Stalled s' := by
  obtain ⟨link, rfl⟩ := (task_cases h).1 hs.2
  exact hs

/-- **Nothing moves it any more**, whatever modules do and whether or not the bus is free again. -/
theorem stalled {M : ModuleQueries ScanQuery O E ModuleReplyMessage β} {bus : TwoWireBus β B}
    {s0 s : Devices O β B} {tr : List (Devices O β B × Input E B)} (h0 : Stalled s0)
    (h : Run (step list SENSOR M bus) s0 tr s) : Stalled s := by
  refine h.inv Stalled h0 fun s i s' hs hstep => ?_
  cases i with
  | task now acquired =>
      refine stalled_task ?_ hstep
      unfold Devices.begin
      rw [if_neg (by rw [hs.1]; decide)]
      exact hs
  | communications p =>
      cases hstep
      exact hs
  | modules devices =>
      cases hstep
      exact hs

/-- **A run in which every poll that returns busy leaves a query** is one in which the bus is
    acquired wherever a scan begins. -/
theorem moving_iff {M : ModuleQueries ScanQuery O E ModuleReplyMessage β} {bus : TwoWireBus β B}
    {s0 s : Devices O β B} {tr : List (Devices O β B × Input E B)}
    (h0 : s0.scanning = false) (hp : s0.protocol = {})
    (h : Run (step list SENSOR M bus) s0 tr s) :
    (Meets (fun s _ => Moving s) tr ∧ Moving s) ↔ Meets Acquired tr := by
  refine h.meets_iff Acquired (Kept list) Moving ⟨fun _ => hp, fun ht => absurd (h0.symm.trans ht) (by decide)⟩
    (fun _ => moving_of_kept) fun s i s' hk hstep => ?_
  cases i with
  | task now acquired =>
      refine ⟨fun hC => kept_task (kept_begin hk hC) hstep, fun hmoving hscan => ?_⟩
      cases acquired with
      | true => rfl
      | false =>
          refine absurd hmoving (not_moving_of_stalled (stalled_task ?_ hstep))
          rw [begin_taken hscan]
          exact ⟨rfl, hk.idle hscan⟩
  | communications p =>
      cases hstep
      exact ⟨fun _ => hk.link _, fun _ => trivial⟩
  | modules devices =>
      cases hstep
      exact ⟨fun _ => hk.link _, fun _ => trivial⟩

end Progress

/-! ## 6. How often it asks -/

section Counting

variable {O E β B : Type} {list : AddressList} {SENSOR : BitVec 8} {now : Uptime}

/-- How much may still be asked at a stop, behind this query. -/
def rest (s : Devices O β B) : ScanQuery → Nat
  | .queryCapabilities => 1
  | .querySensorCapabilities j => s.numberOfSensors.toNat - j.toNat
  | .queryFirmware => 0

/-- **What has been asked, and what may still be asked here**: two queries for every stop so far,
    and one for every sensor announced. -/
def Tally (list : AddressList) (more : Nat) (s : Devices O β B) : Prop :=
  ∀ a, count a s + (if a = list.at s.addressIndex then more else 0) ≤
    2 * (list.entries.take s.addressIndex.toNat).count a + s.announced a +
      (if a = list.at s.addressIndex then 2 else 0)

/-- What has been asked at the stops in front of this one. -/
def Passed (list : AddressList) (s : Devices O β B) : Prop :=
  ∀ a, count a s ≤ 2 * (list.entries.take s.addressIndex.toNat).count a + s.announced a

/-- What has been asked, over the whole list. -/
def Within (list : AddressList) (s : Devices O β B) : Prop :=
  ∀ a, count a s ≤ 2 * list.entries.count a + s.announced a

/-- The scan is at an address of the list, and holds a query. -/
structure Asks (list : AddressList) (s : Devices O β B) (q : ScanQuery) : Prop where
  held : Holds s.protocol q
  inside : s.addressIndex.toNat < list.entries.length
  sensor : ∀ j, q = .querySensorCapabilities j → j = s.sensor ∧ s.sensor < s.numberOfSensors
  tally : Tally list (rest s q) s

/-- Nothing is held where nothing is scanned; a query that is held is accounted for, and
    so are all that have been asked. -/
structure Counted (list : AddressList) (s : Devices O β B) : Prop where
  idle : s.scanning = false → s.protocol = {}
  within : Within list s
  going : s.protocol = {} ∨ ∃ q, Asks list s q

/-- It does not matter what the link does. -/
theorem Counted.link {s : Devices O β B} (h : Counted list s)
    (link : Link ScanQuery O ModuleReplyMessage β B) : Counted list { s with link } := by
  refine ⟨h.idle, h.within, h.going.imp_right ?_⟩
  intro h
  obtain ⟨q, hasks⟩ := h
  exact ⟨q, hasks.held, hasks.inside, hasks.sensor, hasks.tally⟩

theorem inside_of_at {index : BitVec 8} (ha : 0 < list.at index) :
    index.toNat < list.entries.length := by
  by_contra hout
  unfold AddressList.at at ha
  rw [List.getD_eq_default _ _ (Nat.le_of_not_lt hout)] at ha
  exact absurd ha (by decide)

theorem at_of_inside {index : BitVec 8} (hin : index.toNat < list.entries.length) :
    0 < list.at index := by
  unfold AddressList.at
  rw [List.getD_eq_getElem _ _ hin]
  have hne := list.nonzero _ (List.getElem_mem hin)
  exact BitVec.lt_def.mpr (Nat.pos_of_ne_zero fun h => hne (BitVec.eq_of_toNat_eq h))

/-- One stop more. -/
theorem count_take_succ {index : BitVec 8} (hin : index.toNat < list.entries.length)
    (a : Address) : (list.entries.take (index.toNat + 1)).count a =
      (list.entries.take index.toNat).count a + if a = list.at index then 1 else 0 := by
  have hat : list.at index = list.entries[index.toNat] := List.getD_eq_getElem _ _ hin
  rw [List.take_succ_eq_append_getElem hin, List.count_append, List.count_singleton, ← hat]
  simp only [beq_iff_eq, eq_comm (b := a)]

theorem count_push (s : Devices O β B) (q : ScanQuery) (a : Address) :
    count a (s.push list now q) =
      count a s + if a = list.at s.addressIndex then 1 else 0 := by
  unfold count Devices.push
  rw [List.countP_append, List.countP_singleton]
  simp only [decide_eq_true_eq, eq_comm (b := a)]

/-- What has been asked up to here is within what may be asked at all. -/
theorem within_of_passed {s : Devices O β B} (h : Passed list s) : Within list s := by
  intro a
  have hsub := (List.take_sublist s.addressIndex.toNat list.entries).count_le a
  have := h a
  omega

theorem within_of_tally {s : Devices O β B} {more : Nat}
    (hin : s.addressIndex.toNat < list.entries.length) (h : Tally list more s) :
    Within list s := by
  intro a
  have hsub := (List.take_sublist (s.addressIndex.toNat + 1) list.entries).count_le a
  rw [count_take_succ hin] at hsub
  have := h a
  by_cases ha : a = list.at s.addressIndex
  · rw [if_pos ha] at hsub
    rw [if_pos ha, if_pos ha] at this
    omega
  · rw [if_neg ha] at hsub
    rw [if_neg ha, if_neg ha] at this
    omega

/-- **A query more**, of those that may still be asked. -/
theorem counted_push (more : Nat) {s : Devices O β B} {q : ScanQuery}
    (hscan : s.scanning = true) (hin : s.addressIndex.toNat < list.entries.length)
    (hsensor : ∀ j, q = .querySensorCapabilities j → j = s.sensor ∧ s.sensor < s.numberOfSensors)
    (htally : Tally list more s) (hmore : rest s q + 1 ≤ more) :
    Counted list (s.push list now q) := by
  have hpushed : Tally list (rest s q) (s.push list now q) := by
    intro a
    have := htally a
    rw [count_push]
    show _ + (if a = list.at s.addressIndex then rest s q else 0) ≤
      2 * (list.entries.take s.addressIndex.toNat).count a + s.announced a +
        (if a = list.at s.addressIndex then 2 else 0)
    split <;> rename_i ha
    · rw [if_pos ha, if_pos ha] at this
      omega
    · rw [if_neg ha, if_neg ha] at this
      omega
  have hasks : Asks list (s.push list now q) q :=
    ⟨holds_push (h := s.protocol) (at_of_inside hin), hin, hsensor, hpushed⟩
  exact ⟨fun hfalse => absurd (hscan.symm.trans hfalse) (by decide),
    within_of_tally (s := s.push list now q) hin hpushed, Or.inr ⟨q, hasks⟩⟩

theorem counted_resume {s : Devices O β B} (hscan : s.scanning = true) (hempty : s.protocol = {})
    (hpassed : Passed list s) : Counted list (s.resume list now) := by
  rcases resume_cases list now s with ⟨ha, heq⟩ | ⟨_, heq⟩
  · rw [heq]
    refine counted_push 2 (s := { s with type := 0, numberOfSensors := 0 }) hscan
      (inside_of_at ha) (fun _ h => nomatch h) (fun a => ?_) (Nat.le_refl _)
    exact Nat.add_le_add_right (hpassed a) _
  · rw [heq]
    exact ⟨fun _ => hempty, within_of_passed hpassed, Or.inl hempty⟩

/-- The next stop, if `addressIndex` does not wrap. -/
theorem counted_next {s : Devices O β B} {more : Nat} (hfit : list.entries.length ≤ 255)
    (hscan : s.scanning = true) (hempty : s.protocol = {})
    (hin : s.addressIndex.toNat < list.entries.length) (htally : Tally list more s) :
    Counted list (s.next list now) := by
  have hnext : (s.addressIndex + 1).toNat = s.addressIndex.toNat + 1 := by
    rw [BitVec.toNat_add]
    exact Nat.mod_eq_of_lt (Nat.lt_of_le_of_lt (Nat.le_trans hin hfit) (by decide))
  refine counted_resume (s := { s with addressIndex := s.addressIndex + 1 }) hscan hempty ?_
  intro a
  have := htally a
  show count a s ≤ 2 * (list.entries.take (s.addressIndex + 1).toNat).count a + s.announced a
  rw [hnext, count_take_succ hin]
  by_cases ha : a = list.at s.addressIndex
  · rw [if_pos ha, if_pos ha] at this
    rw [if_pos ha]
    omega
  · rw [if_neg ha, if_neg ha] at this
    rw [if_neg ha]
    exact this

/-- What the reply to `queryCapabilities` announces may be asked for. -/
theorem tally_capable {s : Devices O β B} {more : Nat} (type n : BitVec 8)
    (h : Tally list more s) : Tally list (more + n.toNat) (s.capable list type n) := by
  intro a
  have := h a
  unfold Devices.capable
  show count a s + (if a = list.at s.addressIndex then more + n.toNat else 0) ≤
    2 * (list.entries.take s.addressIndex.toNat).count a +
      Function.update s.announced (list.at s.addressIndex)
        (s.announced (list.at s.addressIndex) + n.toNat) a +
      (if a = list.at s.addressIndex then 2 else 0)
  split <;> rename_i ha
  · rw [if_pos ha, if_pos ha] at this
    subst ha
    rw [Function.update_self]
    omega
  · rw [if_neg ha, if_neg ha] at this
    rw [Function.update_of_ne ha]
    exact this

/-- **Wherever a scan goes, everything stays accounted for.** -/
theorem counted_went {s s' : Devices O β B} {q : ScanQuery} (hfit : list.entries.length ≤ 255)
    (hscan : s.scanning = true) (hempty : s.protocol = {})
    (hin : s.addressIndex.toNat < list.entries.length)
    (hsensor : ∀ j, q = .querySensorCapabilities j → j = s.sensor ∧ s.sensor < s.numberOfSensors)
    (htally : Tally list (rest s q) s) (h : Went list now s q s') : Counted list s' := by
  cases h with
  | asksSensors type n hn =>
      refine counted_push (1 + n.toNat) (s := { s.capable list type n with sensor := 0 }) hscan
        hin (fun j hj => ?_) (tally_capable type n htally) ?_
      · cases hj
        exact ⟨rfl, hn⟩
      · show n.toNat - 0 + 1 ≤ 1 + n.toNat
        omega
  | skips type n =>
      exact counted_next (s := s.capable list type n) hfit hscan hempty hin
        (tally_capable type n htally)
  | passes => exact counted_next hfit hscan hempty hin htally
  | asksNext j hn =>
      obtain ⟨rfl, hlt⟩ := hsensor j rfl
      refine counted_push _ (s := { s with sensor := s.sensor + 1 }) hscan hin (fun j hj => ?_)
        htally ?_
      · cases hj
        exact ⟨rfl, hn⟩
      · -- `sensor` is below a `uint8_t`, and does not wrap
        have hnext : (s.sensor + 1).toNat = s.sensor.toNat + 1 := by
          rw [BitVec.toNat_add]
          have := BitVec.lt_def.mp hlt
          have := s.numberOfSensors.isLt
          exact Nat.mod_eq_of_lt (by change s.sensor.toNat + 1 < 2 ^ 8; omega)
        show s.numberOfSensors.toNat - (s.sensor + 1).toNat + 1 ≤
          s.numberOfSensors.toNat - s.sensor.toNat
        have := BitVec.lt_def.mp hlt
        rw [hnext]
        omega
  | asksFirmware j =>
      obtain ⟨rfl, hlt⟩ := hsensor j rfl
      refine counted_push _ (s := { s with sensor := s.sensor + 1 }) hscan hin
        (fun _ h => nomatch h) htally ?_
      have := BitVec.lt_def.mp hlt
      show 0 + 1 ≤ s.numberOfSensors.toNat - s.sensor.toNat
      omega
  | fails j => exact ⟨fun _ => hempty, within_of_tally hin htally, Or.inl hempty⟩
  | leaves => exact counted_next hfit hscan hempty hin htally

theorem counted_begin {s : Devices O β B} {acquired : Bool} (hc : Counted list s) :
    Counted list (s.begin list now acquired) := by
  unfold Devices.begin
  split
  · next hscan =>
      cases acquired with
      | true =>
          exact counted_resume (s := { s with
            scanning := true, addressIndex := 0, asked := [], announced := fun _ => 0 }) rfl
            (hc.idle hscan) (fun a => Nat.zero_le _)
      | false => exact ⟨fun _ => hc.idle hscan, hc.within, Or.inl (hc.idle hscan)⟩
  · exact hc

theorem counted_task {M : ModuleQueries ScanQuery O E ModuleReplyMessage β} {acquired : Bool}
    {s s' : Devices O β B} (hfit : list.entries.length ≤ 255) (hc : Counted list s)
    (h : s.task list SENSOR M now acquired = some s') : Counted list s' := by
  have hb : Counted list (s.begin list now acquired) := counted_begin hc
  obtain ⟨hidle, hheld⟩ := task_cases h
  rcases hb.going with hempty | ⟨q, hasks⟩
  · obtain ⟨link, rfl⟩ := hidle hempty
    exact ⟨hb.idle, hb.within, Or.inl hempty⟩
  · have hscan : (s.begin list now acquired).scanning = true := by
      by_contra hfalse
      have hbusy := isBusy_of_holds hasks.held
      rw [hb.idle (by simpa using hfalse)] at hbusy
      cases hbusy
    rcases hheld q hasks.held with ⟨protocol, link, hq', rfl⟩ | ⟨link, hwent⟩
    · exact ⟨fun hfalse => absurd (hscan.symm.trans hfalse) (by decide), hb.within,
        Or.inr ⟨q, hq', hasks.inside, hasks.sensor, hasks.tally⟩⟩
    · exact counted_went (s := { s.begin list now acquired with protocol := {}, link }) hfit hscan
        rfl hasks.inside hasks.sensor hasks.tally hwent

/-- **A scan asks twice at every stop, and once for every sensor announced there.** -/
theorem run_counted {M : ModuleQueries ScanQuery O E ModuleReplyMessage β} {bus : TwoWireBus β B}
    {s0 s : Devices O β B} {tr : List (Devices O β B × Input E B)}
    (hfit : list.entries.length ≤ 255) (h0 : Counted list s0)
    (h : Run (step list SENSOR M bus) s0 tr s) : Within list s := by
  have hcounted : Counted list s := by
    refine h.inv (Counted list) h0 fun s i s' hc hstep => ?_
    cases i with
    | task now acquired => exact counted_task hfit hc hstep
    | communications p =>
        cases hstep
        exact hc.link _
    | modules devices =>
        cases hstep
        exact hc.link _
  exact hcounted.within

end Counting

/-! ## 7. The scan -/

section Scans

variable {O E β B : Type} {list : AddressList}

/-- Where no address stands twice, there is one stop for each. -/
theorem bounded_of_within {s : Devices O β B} (hone : list.entries.Nodup)
    (h : Within list s) : Bounded s := by
  intro a
  have hstop : list.entries.count a ≤ 1 := List.nodup_iff_count_le_one.mp hone a
  have := h a
  omega

/-- Addresses that are all different are fewer than `uint8_t` counts. -/
theorem length_of_nodup (hone : list.entries.Nodup) : list.entries.length ≤ 255 := by
  have hcons : ((0 : Address) :: list.entries).Nodup :=
    List.nodup_cons.mpr ⟨fun h => list.nonzero 0 h rfl, hone⟩
  have hall := (hcons.map BitVec.toFin_injective).length_le_card
  rw [List.length_map, Fintype.card_fin, List.length_cons] at hall
  omega

/-- **Scans**, over every list, whatever the modules do: each poll that returns busy leaves a query
    in the handler exactly if the bus is acquired wherever a scan begins; and a scan asks an
    address no more than twice and once for every sensor it announced, if it stands in the list
    once. -/
theorem scan_progress (list : AddressList) (SENSOR : BitVec 8)
    (M : ModuleQueries ScanQuery O E ModuleReplyMessage β) (bus : TwoWireBus β B)
    (link : Link ScanQuery O ModuleReplyMessage β B)
    {tr : List (Devices O β B × Input E B)} {s : Devices O β B}
    (h : Run (step list SENSOR M bus) { link } tr s) :
    ((Meets (fun s _ => Moving s) tr ∧ Moving s) ↔ Meets Acquired tr) ∧
      (list.entries.length ≤ 255 → Within list s) ∧ (list.entries.Nodup → Bounded s) := by
  have hcount : list.entries.length ≤ 255 → Within list s := fun hfit =>
    run_counted hfit ⟨fun _ => rfl, fun _ => Nat.zero_le _, Or.inl rfl⟩ h
  exact ⟨moving_iff rfl rfl h, hcount,
    fun hone => bounded_of_within hone (hcount (length_of_nodup hone))⟩

end Scans

/-! ## 8. A module with one sensor -/

/-- The queries of a scan, and what a module with one sensor answers. -/
def oneSensor : ModuleQueries ScanQuery Unit Unit ModuleReplyMessage ScanQuery where
  replyConfig _ := ReplyConfig.Default
  prepare q _ _ outgoing := ((), ModuleQuery.prepare [q] outgoing)
  tick _ _ _ outgoing := ((), outgoing)
  reply _ _ _ := ()
  decode bytes := bytes.head?.map fun
    | .queryCapabilities =>
      { type := .REPLY_CAPABILITIES, capabilities := { type := 1, numberOfSensors := 1 } }
    | .querySensorCapabilities _ => { type := .REPLY_SENSOR_CAPABILITIES }
    | .queryFirmware => { type := .REPLY_FIRMWARE }
  replyType r := r.type
  tick_keeps _ _ _ _ _ := rfl

/-- Its bus: what was sent is what is read back. -/
def echoBus : TwoWireBus ScanQuery (List ScanQuery) where
  send _ _ bytes := (true, bytes)
  receive d _ _ := (d, d)

/-- A scan of the address 8. -/
def machine : Devices Unit ScanQuery (List ScanQuery) → Input Unit (List ScanQuery) →
    Option (Devices Unit ScanQuery (List ScanQuery)) :=
  step { entries := [8] } 1 oneSensor echoBus

/-- A poll of the communications object. -/
def pollAt (now : Uptime) : Input Unit (List ScanQuery) :=
  .communications { clock := Clock.still now, offered := 255, room := 256, env := () }

/-- The last reply is taken, and the next query sent and answered. -/
def exchange (t : Uptime) : List (Input Unit (List ScanQuery)) :=
  [.task (t + 100) true, .task (t + 200) true, pollAt (t + 1000), pollAt (t + 1010),
   pollAt (t + 1200), pollAt (t + 1300)]

/-- Another task has the bus where the scan begins. -/
theorem bus_taken : ¬ ∀ tr s, Run machine { link := ⟨{}, (), []⟩ } tr s → Moving s := by
  intro hall
  have hexec : (exec machine { link := ⟨{}, (), []⟩ } [.task 100 false]).map
      (fun s => (s.scanning, s.protocol)) = some (true, {}) := rfl
  obtain ⟨tr, s, hrun, hs⟩ := run_of_exec_map hexec
  rw [Prod.mk.injEq] at hs
  exact not_moving_of_stalled hs (hall tr s hrun)

instance (s : Devices Unit ScanQuery (List ScanQuery)) :
    ∀ i, Decidable (Acquired (E := Unit) (B := List ScanQuery) s i)
  | .task _ acquired => inferInstanceAs (Decidable (s.scanning = false → acquired = true))
  | .communications _ => isTrue trivial
  | .modules _ => isTrue trivial

/-- A scan that is completed, with three queries. -/
theorem scan_progress_one : ∃ tr s, Run machine { link := ⟨{}, (), []⟩ } tr s ∧
    Meets Acquired tr ∧ s.scanning = false ∧ count 8 s = 3 ∧ s.announced 8 = 1 ∧
    (((Meets (fun s _ => Moving s) tr ∧ Moving s) ↔ Meets Acquired tr) ∧
      (1 ≤ 255 → Within { entries := [8] } s) ∧ ([(8 : Address)].Nodup → Bounded s)) := by
  have hexec : (exec (guarded Acquired machine) { link := ⟨{}, (), []⟩ }
      (exchange 0 ++ exchange 2000 ++ exchange 4000 ++ [.task 6000 true])).map
        (fun s => (s.scanning, count 8 s, s.announced 8)) = some (false, 3, 1) := by
    decide +kernel
  obtain ⟨tr, s, hrun, hs⟩ := run_of_exec_map hexec
  obtain ⟨hrun, hC⟩ := hrun.of_guarded
  rw [Prod.mk.injEq, Prod.mk.injEq] at hs
  exact ⟨tr, s, hrun, hC, hs.1, hs.2.1, hs.2.2, scan_progress _ 1 oneSensor echoBus _ hrun⟩

end FieldKit.ScanProgress

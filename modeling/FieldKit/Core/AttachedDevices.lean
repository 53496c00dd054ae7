/-
  File:      FieldKit/Core/AttachedDevices.lean
  Subject:   Scanning for modules (attached_devices.cpp): what does a scan leave in `CoreState`?

  A scan asks at each address for capabilities, then for those of every sensor, then for the
  firmware, and merges what comes back. It ends behind the last address (`doneScanning`), or with
  `scanFailure` when a sensor is not answered for. Every query ends with its own reply or without
  one.

  Two scans with the same replies are compared: what they ask does not depend on the list they
  find, and so neither does the memory they spend beside the arrays.

  * `scan_alone_iff` -- of any list that can be there before: what a scan leaves is what its
    replies alone decide exactly if the list was empty and none of its memory was in use;
  * `module_gone` -- a module that does not answer any more.
-/
import FieldKit.Core.Modules

namespace FieldKit.Attached

open Lib

/-! ## 1. The scan -/

/-- The queries of a scan. -/
inductive ScanQuery where
  | queryCapabilities
  | querySensorCapabilities (sensor : BitVec 8)
  | queryFirmware
  deriving DecidableEq, Repr

/-- The replies to the queries of a scan, or silence. -/
abbrev Replies := Address → ScanQuery → Option ModuleReplyMessage

/-- `AttachedDevices`, without the list: where the scan is, what the query objects hold, and the
    query that was pushed last. `done` says that `doneScanning` was called. -/
structure ScanState where
  addressIndex : Nat := 0
  type : BitVec 8 := 0
  numberOfSensors : BitVec 8 := 0
  sensor : BitVec 8 := 0
  asked : Option (Address × ScanQuery) := none
  scanning : Bool := true
  done : Bool := false
  deriving DecidableEq, Repr

/-- The addresses of `ScanAttachedDevices`, ended by 0. -/
def addresses (index : Nat) : Address := [7, 8, 9].getD index 0

namespace ScanState

/-- `query(address)`. -/
def query (address : Address) (d : ScanState) : ScanState :=
  { d with type := 0, numberOfSensors := 0, asked := some (address, .queryCapabilities) }

/-- `resume()`: `doneScanning` behind the last address. -/
def resume (d : ScanState) : ScanState :=
  if 0 < addresses d.addressIndex then d.query (addresses d.addressIndex)
  else { d with asked := none, scanning := false, done := true }

/-- `scan()`, with the bus acquired. -/
def scan : ScanState := resume {}

/-- `addressIndex++; resume()`. -/
def next (d : ScanState) : ScanState := resume { d with addressIndex := d.addressIndex + 1 }

/-- `push(address, querySensorCapabilities)`, at `sensor`. -/
def askSensor (d : ScanState) : ScanState :=
  { d with asked := some (addresses d.addressIndex, .querySensorCapabilities d.sensor) }

/-- What `reply` of the query object and `done` do to it, but for the merge. `SENSOR` is
    `fk_module_ModuleType_SENSOR`. -/
def answered (SENSOR : BitVec 8) (q : ScanQuery) (r : ModuleReplyMessage) (d : ScanState) :
    ScanState :=
  match q with
  | .queryCapabilities =>
    let d : ScanState := { d with
      type := r.capabilities.type
      numberOfSensors := BitVec.ofNat 8 r.capabilities.numberOfSensors }
    if d.type = SENSOR then
      if 0 < d.numberOfSensors then { d with sensor := 0 }.askSensor else d.next
    else d.next
  | .querySensorCapabilities _ =>
    let d : ScanState := { d with sensor := d.sensor + 1 }
    if d.sensor < d.numberOfSensors then d.askSensor
    else { d with asked := some (addresses d.addressIndex, .queryFirmware) }
  | .queryFirmware => d.next

/-- What `error` does to it. -/
def failed (q : ScanQuery) (d : ScanState) : ScanState :=
  match q with
  | .querySensorCapabilities _ => { d with asked := none, scanning := false }
  | _ => d.next

/-- The query that is asked is finished, with its reply or without. -/
def finish (SENSOR : BitVec 8) (ρ : Replies) (d : ScanState) : ScanState :=
  match d.asked with
  | none => d
  | some (address, q) =>
    match ρ address q with
    | some r => d.answered SENSOR q r
    | none => d.failed q

end ScanState

/-- `AttachedDevices`, with the list that it fills. -/
structure AttachedDevices where
  scan : ScanState := ScanState.scan
  state : Modules

/-- `done` and `error`, of the list: replies are merged, but for those to `queryFirmware`; a sensor
    that is not answered for fails the scan. -/
def mergeFinished (now : BitVec 32) (address : Address) (q : ScanQuery)
    (reply : Option ModuleReplyMessage) (s : Modules) : Option Modules :=
  match q, reply with
  | .queryFirmware, _ => some s
  | _, some r => s.merge now address r
  | .querySensorCapabilities _, none => some s.scanFailure
  | .queryCapabilities, none => some s

/-- `task()`, at `now`, when the query that was pushed is finished. It is not called when nothing
    is scanned any more. -/
def AttachedDevices.task (SENSOR : BitVec 8) (ρ : Replies) (now : BitVec 32)
    (d : AttachedDevices) : Option AttachedDevices :=
  match d.scan.asked with
  | none => none
  | some (address, q) =>
    (mergeFinished now (addresses d.scan.addressIndex) q (ρ address q) d.state).map fun state =>
      { scan := d.scan.finish SENSOR ρ, state }

/-- The first queries of a scan. `now` is the clock. -/
def polls (SENSOR : BitVec 8) (ρ : Replies) (now : Nat → BitVec 32) :
    Nat → AttachedDevices → Option AttachedDevices
  | 0, d => some d
  | n + 1, d => (polls SENSOR ρ now n d).bind fun d' => d'.task SENSOR ρ (now n)

/-! ## 2. What a scan leaves -/

/-- What is known of a module, but for its readings. -/
structure ModuleView where
  address : Address
  type : BitVec 8
  numberOfSensors : BitVec 8
  name : Text
  module : Text
  sensors : List (Option SensorInfo)
  deriving DecidableEq, Repr

/-- The list of modules, and how much of its pool is in use. -/
structure View where
  modules : List ModuleView
  allocated : Nat
  deriving DecidableEq, Repr

def viewModule (m : ModuleInfo) : ModuleView where
  address := m.address
  type := m.type
  numberOfSensors := m.numberOfSensors
  name := m.name
  module := m.module
  sensors := m.sensors

def view (s : Modules) : View where
  modules := s.modules.map viewModule
  allocated := s.pool.allocated

/-- **A scan with these replies is completed, and leaves `v`.** -/
def Leaves (SENSOR : BitVec 8) (ρ : Replies) (s : Modules) (v : View) : Prop :=
  ∃ now n d, polls SENSOR ρ now n { state := s } = some d ∧ d.scan.done = true ∧ view d.state = v

/-- `v` is what these replies alone decide: what they leave in a new list, and nothing else; and
    only modules that answered are in it. -/
def Alone (SENSOR : BitVec 8) (ρ : Replies) (v : View) : Prop :=
  (∀ w, Leaves SENSOR ρ {} w ↔ w = v) ∧
    ∀ m ∈ v.modules, ρ m.address .queryCapabilities ≠ none

/-- **Nothing is in the list, and nothing in use.** -/
def Vacant (s : Modules) : Prop := s.modules = [] ∧ s.pool.allocated = 0

/-! ## 3. Readings, accesses and the clock do not matter -/

/-- A module without its readings. -/
def stripModule (m : ModuleInfo) : ModuleInfo := { m with readings := [] }

/-- A list without readings, and without the record of accesses. -/
def strip (s : Modules) : Modules where
  pool := s.pool
  modules := s.modules.map stripModule

@[simp] theorem strip_pool (s : Modules) : (strip s).pool = s.pool := rfl

theorem view_strip (s : Modules) : view (strip s) = view s := by
  unfold view strip
  dsimp only
  rw [List.map_map]
  rfl

theorem getModule_strip (address : Address) (s : Modules) :
    (strip s).getModule address = s.getModule address := by
  unfold Modules.getModule strip
  dsimp only
  rw [List.findIdx?_map]
  rfl

/-- Writing into a module, of which only the readings may get into its readings. -/
theorem strip_modify {f f' : ModuleInfo → ModuleInfo}
    (hf : ∀ m, stripModule (f m) = stripModule (f' (stripModule m))) (l : List ModuleInfo) (k : Nat) :
    (l.modify k f).map stripModule = ((l.map stripModule).modify k f').map stripModule := by
  induction l generalizing k with
  | nil => cases k <;> rfl
  | cons m l ih =>
      cases k with
      | zero =>
          show stripModule (f m) :: l.map stripModule =
            stripModule (f' (stripModule m)) :: (l.map stripModule).map stripModule
          rw [hf, List.map_map]
          rfl
      | succ k => exact congrArg (stripModule m :: ·) (ih k)

theorem strip_eq {s s' : Modules} (hpool : s.pool = s'.pool)
    (hmodules : s.modules.map stripModule = s'.modules.map stripModule) : strip s = strip s' := by
  unfold strip
  rw [hpool, hmodules]

theorem strip_access (as : List Access) (s : Modules) : strip (s.access as) = strip s := rfl

theorem stripModules_strip (s : Modules) :
    (strip s).modules.map stripModule = s.modules.map stripModule := by
  unfold strip
  dsimp only
  rw [List.map_map]
  rfl

theorem strip_strip (s : Modules) : strip (strip s) = strip s :=
  strip_eq rfl (stripModules_strip s)

theorem mergeCapabilities_strip (address : Address) (c : Capabilities) (s : Modules) :
    (s.mergeCapabilities address c).map strip =
      ((strip s).mergeCapabilities address c).map strip := by
  have hdescribe : ∀ m, stripModule (Modules.describe address c m) =
      stripModule (Modules.describe address c (stripModule m)) := fun _ => rfl
  unfold Modules.mergeCapabilities Modules.getOrCreateModule
  rw [getModule_strip]
  cases s.getModule address with
  | some k =>
      simp only [Option.bind_eq_bind, Option.bind_some, strip_pool]
      cases s.pool.strdup (some c.name) with
      | none => rfl
      | some p =>
          dsimp only [Option.bind_some]
          cases p.strdup (some c.module) with
          | none => rfl
          | some p => exact congrArg some (strip_eq rfl (strip_modify hdescribe s.modules k))
  | none =>
      simp only [Option.bind_eq_bind, strip_pool]
      cases s.pool.malloc moduleInfoSize with
      | none => rfl
      | some p =>
          dsimp only [Option.bind_some]
          cases p.malloc (sensorInfoSize * (BitVec.ofNat 8 c.numberOfSensors).toNat) with
          | none => rfl
          | some p =>
              dsimp only [Option.bind_some]
              cases p.malloc (sensorReadingSize * (BitVec.ofNat 8 c.numberOfSensors).toNat) with
              | none => rfl
              | some p =>
                  simp only [Option.pure_def, Option.bind_some]
                  cases p.strdup (some c.name) with
                  | none => rfl
                  | some p =>
                      dsimp only [Option.bind_some]
                      cases p.strdup (some c.module) with
                      | none => rfl
                      | some p =>
                          refine congrArg some (strip_eq rfl ?_)
                          dsimp only
                          rw [modify_append_cons s.modules _ [],
                            modify_append_cons (strip s).modules _ [], List.map_append,
                            List.map_append, stripModules_strip]

theorem mergeSensorCapabilities_strip (address : Address) (c : SensorCapabilities) (s : Modules) :
    (s.mergeSensorCapabilities address c).map strip =
      ((strip s).mergeSensorCapabilities address c).map strip := by
  have hname : ∀ m, stripModule (Modules.nameSensor c m) =
      stripModule (Modules.nameSensor c (stripModule m)) := fun _ => rfl
  unfold Modules.mergeSensorCapabilities
  rw [getModule_strip]
  cases s.getModule address with
  | none => rfl
  | some k =>
      have hget : (strip s).modules[k]? = (s.modules[k]?).map stripModule := List.getElem?_map
      simp only [Option.bind_eq_bind, Option.bind_some, strip_pool, hget]
      cases s.modules[k]? with
      | none => rfl
      | some m =>
          simp only [Option.map_some, Option.bind_some]
          cases s.pool.strdup (some c.name) with
          | none => rfl
          | some p =>
              dsimp only [Option.bind_some]
              cases p.strdup (some c.unitOfMeasure) with
              | none => rfl
              | some p => exact congrArg some (strip_eq rfl (strip_modify hname s.modules k))

theorem mergeReading_strip (now now' : BitVec 32) (k : Nat) (incoming : IncomingSensorReading)
    (s : Modules) :
    (s.mergeReading now k incoming).map strip =
      ((strip s).mergeReading now' k incoming).map strip := by
  have hstore : ∀ m, stripModule (Modules.storeReading now incoming m) =
      stripModule (Modules.storeReading now' incoming (stripModule m)) := by
    intro m
    unfold Modules.storeReading stripModule
    dsimp only
  have hget : (strip s).modules[k]? = (s.modules[k]?).map stripModule := List.getElem?_map
  unfold Modules.mergeReading
  simp only [Option.bind_eq_bind, hget]
  cases s.modules[k]? with
  | none => simp only [Option.map_none, Option.bind_none]
  | some m =>
      simp only [Option.map_some, Option.bind_some, Option.pure_def, strip_access]
      exact congrArg some (strip_eq rfl (strip_modify hstore s.modules k))

/-- **What is merged does not depend on them.** -/
theorem merge_strip (now now' : BitVec 32) (address : Address) (r : ModuleReplyMessage)
    (s : Modules) :
    (s.merge now address r).map strip = ((strip s).merge now' address r).map strip := by
  unfold Modules.merge
  split
  · exact mergeCapabilities_strip address _ s
  · exact mergeSensorCapabilities_strip address _ s
  · rw [getModule_strip]
    cases s.getModule address with
    | none => rfl
    | some k =>
        simp only [Option.bind_eq_bind, Option.bind_some]
        split
        · exact mergeReading_strip now now' k _ s
        · exact congrArg some (strip_strip s).symm
  · exact congrArg some (strip_strip s).symm

/-! ## 4. Two scans with the same replies -/

section Lockstep

variable {SENSOR : BitVec 8} {ρ : Replies}

/-- **One more query**: it was asked, and its reply is merged. -/
theorem task_finished {now : BitVec 32} {e d : AttachedDevices}
    (h : AttachedDevices.task SENSOR ρ now e = some d) :
    ∃ address q state, e.scan.asked = some (address, q) ∧
      mergeFinished now (addresses e.scan.addressIndex) q (ρ address q) e.state = some state ∧
      d = { scan := e.scan.finish SENSOR ρ, state } := by
  unfold AttachedDevices.task at h
  cases hasked : e.scan.asked with
  | none =>
      rw [hasked] at h
      cases h
  | some p =>
      rw [hasked] at h
      obtain ⟨state, hmerged, rfl⟩ := Option.map_eq_some_iff.mp h
      exact ⟨p.1, p.2, state, rfl, hmerged, rfl⟩

theorem mergeFinished_strip (now now' : BitVec 32) (address : Address) (q : ScanQuery)
    (reply : Option ModuleReplyMessage) (s : Modules) :
    (mergeFinished now address q reply s).map strip =
      (mergeFinished now' address q reply (strip s)).map strip := by
  unfold mergeFinished
  cases q with
  | queryFirmware => exact congrArg some (strip_strip s).symm
  | queryCapabilities =>
      cases reply with
      | none => exact congrArg some (strip_strip s).symm
      | some r => exact merge_strip now now' address r s
  | querySensorCapabilities sensor =>
      cases reply with
      | none => rfl
      | some r => exact merge_strip now now' address r s

/-- **Two lists that differ in their readings only are filled alike.** -/
theorem polls_strip {now : Nat → BitVec 32} (now' : Nat → BitVec 32) {s s' : Modules} (hs : strip s = strip s')
    {n : Nat} {d : AttachedDevices} (hd : polls SENSOR ρ now n { state := s } = some d) :
    ∃ d', polls SENSOR ρ now' n { state := s' } = some d' ∧ d'.scan = d.scan ∧
      strip d'.state = strip d.state := by
  induction n generalizing d with
  | zero =>
      cases hd
      exact ⟨_, rfl, rfl, hs.symm⟩
  | succ n ih =>
      obtain ⟨e, he, htask⟩ := Option.bind_eq_some_iff.mp hd
      obtain ⟨e', he', hscan, hstate⟩ := ih he
      obtain ⟨address, q, t, hasked, ht, rfl⟩ := task_finished htask
      have hmerged := (mergeFinished_strip (now' n) 0 (addresses e.scan.addressIndex) q
        (ρ address q) e'.state).trans ((congrArg (fun x =>
          (mergeFinished 0 (addresses e.scan.addressIndex) q (ρ address q) x).map strip)
            hstate).trans (mergeFinished_strip (now n) 0 (addresses e.scan.addressIndex) q
              (ρ address q) e.state).symm)
      rw [ht] at hmerged
      obtain ⟨t', ht', hstrip⟩ := Option.map_eq_some_iff.mp hmerged
      refine ⟨{ scan := e.scan.finish SENSOR ρ, state := t' }, ?_, rfl, hstrip⟩
      rw [polls, he', Option.bind_some, AttachedDevices.task, hscan, hasked]
      dsimp only
      rw [ht']
      rfl

/-- Where a scan is depends on its replies alone. -/
theorem polls_scan {now : Nat → BitVec 32} {s : Modules} {n : Nat} {d : AttachedDevices}
    (hd : polls SENSOR ρ now n { state := s } = some d) :
    d.scan = (ScanState.finish SENSOR ρ)^[n] ScanState.scan := by
  induction n generalizing d with
  | zero =>
      cases hd
      rfl
  | succ n ih =>
      obtain ⟨e, he, htask⟩ := Option.bind_eq_some_iff.mp hd
      rw [Function.iterate_succ_apply', ← ih he]
      obtain ⟨_, _, _, _, _, rfl⟩ := task_finished htask
      rfl

/-- What a scan state owes: nothing is asked behind `doneScanning`, and only an address that has
    answered is asked for more. -/
structure Asking (ρ : Replies) (d : ScanState) : Prop where
  ended : d.done = true → d.asked = none
  address : ∀ a q, d.asked = some (a, q) → a = addresses d.addressIndex ∧
    (q ≠ .queryCapabilities → ρ a .queryCapabilities ≠ none)

theorem asking_resume {d : ScanState} (hdone : d.done = false) : Asking ρ d.resume := by
  unfold ScanState.resume
  split
  · refine ⟨fun h => absurd (hdone.symm.trans h) (by decide), fun a q h => ?_⟩
    cases h
    exact ⟨rfl, fun hq => absurd rfl hq⟩
  · exact ⟨fun _ => rfl, fun _ _ h => nomatch h⟩

theorem asking_finish {d : ScanState} (h : Asking ρ d) : Asking ρ (d.finish SENSOR ρ) := by
  unfold ScanState.finish
  cases hasked : d.asked with
  | none => exact h
  | some p =>
      obtain ⟨a, q⟩ := p
      obtain ⟨ha, hanswered⟩ := h.address a q hasked
      have hdone : d.done = false := by
        by_contra hd
        have hnone := h.ended (by simpa using hd)
        rw [hasked] at hnone
        cases hnone
      have hopen : ¬ d.done = true := by simp [hdone]
      dsimp only
      cases hreply : ρ a q with
      | none =>
          cases q with
          | querySensorCapabilities sensor => exact ⟨fun _ => rfl, fun _ _ h => nomatch h⟩
          | queryCapabilities => exact asking_resume hdone
          | queryFirmware => exact asking_resume hdone
      | some r =>
          cases q with
          | queryFirmware => exact asking_resume hdone
          | queryCapabilities =>
              have hmore : ρ (addresses d.addressIndex) .queryCapabilities ≠ none := by
                rw [← ha, hreply]
                simp
              unfold ScanState.answered
              dsimp only
              split
              · split
                · refine ⟨fun h => absurd h hopen, fun a' q' h => ?_⟩
                  cases h
                  exact ⟨rfl, fun _ => hmore⟩
                · exact asking_resume hdone
              · exact asking_resume hdone
          | querySensorCapabilities sensor =>
              have hmore : ρ (addresses d.addressIndex) .queryCapabilities ≠ none := by
                rw [← ha]
                exact hanswered (by simp)
              unfold ScanState.answered
              dsimp only
              split
              · refine ⟨fun h => absurd h hopen, fun a' q' h => ?_⟩
                cases h
                exact ⟨rfl, fun _ => hmore⟩
              · refine ⟨fun h => absurd h hopen, fun a' q' h => ?_⟩
                cases h
                exact ⟨rfl, fun _ => hmore⟩

theorem asking_iterate (SENSOR : BitVec 8) (ρ : Replies) (n : Nat) :
    Asking ρ ((ScanState.finish SENSOR ρ)^[n] ScanState.scan) := by
  induction n with
  | zero => exact asking_resume (d := {}) rfl
  | succ n ih =>
      rw [Function.iterate_succ_apply']
      exact asking_finish ih

/-- **Two scans with the same replies take the same number of queries.** -/
theorem polls_length {now now' : Nat → BitVec 32} {s s' : Modules} {n n' : Nat}
    {d d' : AttachedDevices} (hd : polls SENSOR ρ now n { state := s } = some d)
    (hd' : polls SENSOR ρ now' n' { state := s' } = some d') (hdone : d.scan.done = true)
    (hdone' : d'.scan.done = true) : n = n' := by
  -- a scan that is done at `k` does not get behind `k`
  have hle : ∀ {k : Nat} {now : Nat → BitVec 32} {s : Modules} {m : Nat} {d : AttachedDevices},
      ((ScanState.finish SENSOR ρ)^[k] ScanState.scan).done = true →
      polls SENSOR ρ now m { state := s } = some d → m ≤ k := by
    intro k now s m d hk hm
    by_contra hlt
    obtain ⟨j, rfl⟩ := Nat.exists_eq_add_of_lt (Nat.lt_of_not_le hlt)
    have hstep : ∃ e, polls SENSOR ρ now (k + 1) { state := s } = some e := by
      clear hlt
      induction j generalizing d with
      | zero => exact ⟨d, hm⟩
      | succ j ih =>
          obtain ⟨e, he, _⟩ := Option.bind_eq_some_iff.mp hm
          exact ih he
    obtain ⟨e, he⟩ := hstep
    obtain ⟨f, hf, htask⟩ := Option.bind_eq_some_iff.mp he
    have hnone : f.scan.asked = none := by
      rw [polls_scan hf]
      exact (asking_iterate SENSOR ρ k).ended hk
    obtain ⟨_, _, _, hasked, _⟩ := task_finished htask
    exact absurd (hnone.symm.trans hasked) (by simp)
  rw [polls_scan hd] at hdone
  rw [polls_scan hd'] at hdone'
  exact le_antisymm (hle hdone' hd) (hle hdone hd')

end Lockstep

/-! ## 5. The memory that is spent -/

/-- What a module and its arrays take. -/
def footprint (m : ModuleInfo) : Nat :=
  moduleInfoSize + sensorInfoSize * m.sensors.length + sensorReadingSize * m.sensors.length

/-- What the modules of a list and their arrays take. -/
def weight (s : Modules) : Nat := (s.modules.map footprint).sum

/-- What is in use beside them. -/
def slack (s : Modules) : Int := s.pool.allocated - weight s

/-- What a reply takes for its strings. -/
def spent (r : ModuleReplyMessage) : Nat :=
  match r.type with
  | .REPLY_CAPABILITIES =>
    alignedSize (r.capabilities.name.length + 1) + alignedSize (r.capabilities.module.length + 1)
  | .REPLY_SENSOR_CAPABILITIES =>
    alignedSize (r.sensorCapabilities.name.length + 1) +
      alignedSize (r.sensorCapabilities.unitOfMeasure.length + 1)
  | _ => 0

/-- What a merge does to the memory: what it spends is in use beside the arrays, and a module more
    is not to be had for nothing. -/
structure Spends (s s' : Modules) (cost : Nat) : Prop where
  slack : slack s' = slack s + cost
  size : s'.pool.size = s.pool.size
  frozen : s'.pool.frozen = s.pool.frozen
  modules : s'.modules.length ≤ s.modules.length + cost

theorem weight_append_cons {s : Modules} {pre post : List ModuleInfo} {m : ModuleInfo}
    (h : s.modules = pre ++ m :: post) :
    weight s = (pre.map footprint).sum + footprint m + (post.map footprint).sum := by
  unfold weight
  rw [h, List.map_append, List.sum_append, List.map_cons, List.sum_cons]
  omega

/-- A module is written into, and strings are stored. -/
theorem spends_replace {s s' : Modules} {pre post : List ModuleInfo} {m m' : ModuleInfo}
    {sizes : List Nat} (hmodules : s.modules = pre ++ m :: post)
    (hmodules' : s'.modules = pre ++ m' :: post) (hsensors : m'.sensors.length = m.sensors.length)
    (hpool : s.pool.mallocs sizes = some s'.pool) :
    Spends s s' (sizes.map alignedSize).sum := by
  obtain ⟨hallocated, hsize, hfrozen⟩ := Pool.mallocs_allocated hpool
  have hfoot : footprint m' = footprint m := by
    unfold footprint
    rw [hsensors]
  refine ⟨?_, hsize, hfrozen, ?_⟩
  · unfold slack
    rw [weight_append_cons hmodules, weight_append_cons hmodules', hfoot, hallocated]
    push_cast
    omega
  · rw [hmodules, hmodules']
    simp only [List.length_append, List.length_cons]
    omega

/-- **What a merge spends.** -/
theorem merge_spends {now : BitVec 32} {address : Address} {r : ModuleReplyMessage}
    {s s' : Modules} (h : s.merge now address r = some s') : Spends s s' (spent r) := by
  have hsame : Spends s s 0 := ⟨by simp, rfl, rfl, le_rfl⟩
  unfold Modules.merge at h
  unfold spent
  cases htype : r.type with
  | REPLY_CAPABILITIES =>
      rw [htype] at h
      obtain ⟨_, ⟨_, _, hmodules', hpool⟩ | ⟨pre, m, post, hmodules, _, _, hmodules', hpool⟩⟩ :=
        mergeCapabilities_cases h
      · obtain ⟨hallocated, hsize, hfrozen⟩ := Pool.mallocs_allocated hpool
        generalize (BitVec.ofNat 8 r.capabilities.numberOfSensors).toNat = n at hmodules' hallocated
        simp only [List.map_cons, List.map_nil, List.sum_cons, List.sum_nil] at hallocated
        have hinfo : alignedSize moduleInfoSize = moduleInfoSize := by decide
        have hsensors : alignedSize (sensorInfoSize * n) = sensorInfoSize * n :=
          alignedSize_of_four (by unfold sensorInfoSize; omega)
        have hreadings : alignedSize (sensorReadingSize * n) = sensorReadingSize * n :=
          alignedSize_of_four (by unfold sensorReadingSize; omega)
        have hpos := alignedSize_pos r.capabilities.name.length
        refine ⟨?_, hsize, hfrozen, ?_⟩
        · unfold slack weight
          rw [hmodules', List.map_append, List.sum_append, List.map_singleton, List.sum_singleton,
            hallocated, hinfo, hsensors, hreadings]
          unfold footprint Modules.describe
          dsimp only
          rw [List.length_replicate]
          push_cast
          omega
        · rw [hmodules', List.length_append, List.length_singleton]
          dsimp only
          omega
      · have hsensors : (Modules.describe address r.capabilities m).sensors.length =
            m.sensors.length := rfl
        exact spends_replace hmodules hmodules' hsensors hpool
  | REPLY_SENSOR_CAPABILITIES =>
      rw [htype] at h
      obtain ⟨pre, m, post, hmodules, _, _, hmodules', _, hpool⟩ := mergeSensorCapabilities_cases h
      exact spends_replace hmodules hmodules' List.length_set hpool
  | REPLY_READING_STATUS =>
      rw [htype] at h
      obtain ⟨k, hk, h⟩ := Option.bind_eq_some_iff.mp h
      split at h
      · obtain ⟨pre, m, post, hmodules, _, _, hmodules', _, hpool⟩ := mergeReading_cases hk h
        have hnothing : s.pool.mallocs [] = some s'.pool := congrArg some hpool.symm
        exact spends_replace hmodules hmodules' rfl hnothing
      · cases h
        exact hsame
  | _ =>
      rw [htype] at h
      cases h
      exact hsame

/-- What a scan state spends with the next reply. -/
def due (ρ : Replies) (d : ScanState) : Nat :=
  match d.asked with
  | some (_, .queryFirmware) => 0
  | some (address, q) => ((ρ address q).map spent).getD 0
  | none => 0

/-- What the first queries of a scan spend. -/
def dues (SENSOR : BitVec 8) (ρ : Replies) (n : Nat) : Nat :=
  ((List.range n).map fun k => due ρ ((ScanState.finish SENSOR ρ)^[k] ScanState.scan)).sum

section Memory

variable {SENSOR : BitVec 8} {ρ : Replies}

/-- What is merged is what is due, unless a sensor is not answered for. -/
theorem mergeFinished_slack {now : BitVec 32} {address : Address} {q : ScanQuery} {d : ScanState}
    {s t : Modules} (hasked : d.asked = some (address, q))
    (ht : mergeFinished now address q (ρ address q) s = some t)
    (hanswered : ∀ sensor, q = .querySensorCapabilities sensor → ρ address q ≠ none) :
    slack t = slack s + due ρ d := by
  unfold due
  rw [hasked]
  unfold mergeFinished at ht
  cases q with
  | queryFirmware =>
      cases ht
      simp
  | queryCapabilities =>
      dsimp only at ht ⊢
      cases hreply : ρ address .queryCapabilities with
      | none =>
          rw [hreply] at ht
          cases ht
          simp
      | some r =>
          rw [hreply] at ht
          exact (merge_spends ht).slack
  | querySensorCapabilities sensor =>
      dsimp only at ht ⊢
      cases hreply : ρ address (.querySensorCapabilities sensor) with
      | none => exact absurd hreply (hanswered sensor rfl)
      | some r =>
          rw [hreply] at ht
          exact (merge_spends ht).slack

/-- A scan that is not answered for a sensor is neither asking nor done. -/
theorem finish_failed (SENSOR : BitVec 8) {address : Address} {sensor : BitVec 8} {d : ScanState}
    (hasked : d.asked = some (address, .querySensorCapabilities sensor)) (hdone : d.done = false)
    (hreply : ρ address (.querySensorCapabilities sensor) = none) :
    (d.finish SENSOR ρ).asked = none ∧ (d.finish SENSOR ρ).done = false := by
  unfold ScanState.finish
  rw [hasked]
  dsimp only
  rw [hreply]
  exact ⟨rfl, hdone⟩

/-- **What a scan spends beside the arrays depends on its replies alone**, unless it fails. -/
theorem polls_slack {now : Nat → BitVec 32} {s : Modules} {n : Nat} {d : AttachedDevices}
    (hd : polls SENSOR ρ now n { state := s } = some d)
    (hopen : d.scan.asked ≠ none ∨ d.scan.done = true) :
    slack d.state = slack s + dues SENSOR ρ n := by
  induction n generalizing d with
  | zero =>
      cases hd
      simp [dues]
  | succ n ih =>
      obtain ⟨e, he, htask⟩ := Option.bind_eq_some_iff.mp hd
      have hscan := polls_scan he
      have hdues : dues SENSOR ρ (n + 1) = dues SENSOR ρ n + due ρ e.scan := by
        unfold dues
        rw [List.range_succ, List.map_append, List.sum_append, List.map_singleton,
          List.sum_singleton, ← hscan]
      obtain ⟨address, q, t, hasked, ht, rfl⟩ := task_finished htask
      have hasking := asking_iterate SENSOR ρ n
      rw [← hscan] at hasking
      have ha := (hasking.address address q hasked).1
      rw [← ha] at ht
      have hslack := ih he (Or.inl (by simp [hasked]))
      have hdone : e.scan.done = false := by
        by_contra hdone
        have hnone := hasking.ended (by simpa using hdone)
        rw [hasked] at hnone
        cases hnone
      have hspent : slack t = slack e.state + due ρ e.scan := by
        refine mergeFinished_slack hasked ht fun sensor hq hreply => ?_
        subst hq
        obtain ⟨hnot, hnever⟩ := finish_failed SENSOR hasked hdone hreply
        rcases hopen with hopen | hopen
        · exact hopen hnot
        · exact absurd (hnever.symm.trans hopen) (by decide)
      rw [hdues]
      push_cast
      omega

/-! ## 6. Any number of scans -/

theorem leaves_congr {s s' : Modules} {v : View} (hs : strip s = strip s')
    (h : Leaves SENSOR ρ s v) : Leaves SENSOR ρ s' v := by
  obtain ⟨now, n, d, hd, hdone, hv⟩ := h
  obtain ⟨d', hd', hscan, hstate⟩ := polls_strip now hs hd
  refine ⟨now, n, d', hd', hscan ▸ hdone, ?_⟩
  rw [← hv, ← view_strip, hstate, view_strip]

/-- **What a scan leaves is decided by its replies and the list before.** -/
theorem leaves_unique {s : Modules} {v w : View} (hv : Leaves SENSOR ρ s v)
    (hw : Leaves SENSOR ρ s w) : v = w := by
  obtain ⟨now, n, d, hd, hdone, rfl⟩ := hv
  obtain ⟨now', n', e, he, hedone, rfl⟩ := hw
  obtain rfl := polls_length hd he hdone hedone
  obtain ⟨e', he', _, hstate⟩ := polls_strip now' rfl hd
  rw [he] at he'
  cases he'
  rw [← view_strip d.state, ← hstate, view_strip]

/-- What holds of every list: its modules have cost something beside their arrays. -/
structure Kept (s : Modules) : Prop where
  size : s.pool.size = 2048
  frozen : s.pool.frozen = false
  slack : (s.modules.length : Int) ≤ slack s

theorem kept_start : Kept {} := ⟨rfl, rfl, by decide⟩

theorem step_kept {s s' : Modules} {i : Input} (hs : Kept s) (h : step s i = some s') :
    Kept s' := by
  cases i with
  | merge now address reply =>
      have hspends := merge_spends h
      refine ⟨hspends.size.trans hs.size, hspends.frozen.trans hs.frozen, ?_⟩
      have hmodules := hspends.modules
      have hslack := hs.slack
      rw [hspends.slack]
      omega
  | scanFailure =>
      cases h
      have hallocated : (s.scanFailure).pool.allocated = 0 := Pool.allocated_empty _
      refine ⟨hs.size, rfl, ?_⟩
      unfold slack
      rw [hallocated]
      exact le_rfl
  | numberOfReadings stale =>
      cases h
      exact ⟨hs.size, hs.frozen, hs.slack⟩
  | getReading stale index =>
      obtain ⟨r, hr, rfl⟩ := Option.map_eq_some_iff.mp h
      unfold Modules.getReading at hr
      obtain ⟨p, _, rfl⟩ := Option.map_eq_some_iff.mp hr
      exact ⟨hs.size, hs.frozen, hs.slack⟩
  | clearReadings stale =>
      cases h
      have hmodules : (s.clearReadings stale).modules.length = s.modules.length :=
        List.length_map _
      have hweight : weight (s.clearReadings stale) = weight s := by
        unfold weight
        show ((s.modules.map (Modules.clearModule stale)).map footprint).sum = _
        rw [List.map_map]
        rfl
      have hslack := hs.slack
      refine ⟨hs.size, hs.frozen, ?_⟩
      unfold slack at hslack ⊢
      rw [hmodules, hweight]
      exact hslack

/-- An empty list whose memory is free is a new one. -/
theorem strip_vacant {s : Modules} (hs : Kept s) (h : Vacant s) : strip s = strip {} := by
  obtain ⟨hmodules, hallocated⟩ := h
  have hpool : s.pool = Pool.empty 2048 := by
    have hsize := hs.size
    have hfrozen := hs.frozen
    have hfits := s.pool.fits
    unfold Pool.allocated at hallocated
    rcases hp : s.pool with ⟨size, remaining, frozen, fits⟩
    rw [hp] at hsize hfrozen hfits hallocated
    dsimp only at hsize hfrozen hfits hallocated
    obtain rfl : remaining = 2048 := by omega
    subst hsize hfrozen
    rfl
  exact strip_eq hpool (congrArg _ hmodules)

/-- Two scans that leave the same began with the same in use beside the arrays. -/
theorem leaves_slack {s s' : Modules} {v : View} (h : Leaves SENSOR ρ s v)
    (h' : Leaves SENSOR ρ s' v) : slack s = slack s' := by
  obtain ⟨now, n, d, hd, hdone, hv⟩ := h
  obtain ⟨now', n', d', hd', hdone', hv'⟩ := h'
  obtain rfl := polls_length hd hd' hdone hdone'
  have hslack := polls_slack hd (Or.inr hdone)
  have hslack' := polls_slack hd' (Or.inr hdone')
  have hweight : ∀ t : Modules, weight t = ((view t).modules.map fun m =>
      moduleInfoSize + sensorInfoSize * m.sensors.length +
        sensorReadingSize * m.sensors.length).sum := by
    intro t
    unfold weight view
    rw [List.map_map]
    rfl
  have hallocated : ∀ t : Modules, t.pool.allocated = (view t).allocated := fun _ => rfl
  have hsame : slack d.state = slack d'.state := by
    unfold slack
    rw [hweight, hweight, hallocated, hallocated, hv, hv']
  omega

/-- **A scan that leaves what a new list would be left with began with an empty one.** -/
theorem vacant_of_leaves {s : Modules} {v : View} (hs : Kept s) (h : Leaves SENSOR ρ s v)
    (h' : Leaves SENSOR ρ {} v) : Vacant s := by
  have hslack := leaves_slack h h'
  have hzero : slack ({} : Modules) = 0 := by decide
  have hkept := hs.slack
  have hmodules : s.modules = [] := by
    rw [hslack, hzero] at hkept
    exact List.length_eq_zero_iff.mp (by omega)
  refine ⟨hmodules, ?_⟩
  have hweight : weight s = 0 := by
    unfold weight
    rw [hmodules]
    rfl
  unfold slack at hslack hzero
  rw [hweight] at hslack
  omega

/-- The addresses that a merge leaves in the list. -/
theorem merge_addresses {now : BitVec 32} {address : Address} {r : ModuleReplyMessage}
    {s s' : Modules} (h : s.merge now address r = some s') :
    ∀ m' ∈ s'.modules, m'.address = address ∨ ∃ m ∈ s.modules, m.address = m'.address := by
  intro x hx
  rcases merge_modules h with hsame | ⟨m, ha, hmodules'⟩ | ⟨pre, m, m', post, hmodules, hmodules', _, ha'⟩
  · exact Or.inr ⟨x, hsame ▸ hx, rfl⟩
  · rw [hmodules'] at hx
    rcases List.mem_append.mp hx with hx | hx
    · exact Or.inr ⟨x, hx, rfl⟩
    · rw [List.mem_singleton.mp hx]
      exact Or.inl ha
  · rw [hmodules'] at hx
    rcases mem_replaced hx with rfl | hx
    · exact Or.inl ha'
    · exact Or.inr ⟨x, hmodules ▸ hx, rfl⟩

/-- **Only modules that have answered come into the list.** -/
theorem polls_answered {now : Nat → BitVec 32} {s : Modules} (hs : s.modules = []) {n : Nat}
    {d : AttachedDevices} (hd : polls SENSOR ρ now n { state := s } = some d) :
    ∀ m ∈ d.state.modules, ρ m.address .queryCapabilities ≠ none := by
  induction n generalizing d with
  | zero =>
      cases hd
      intro m hm
      rw [hs] at hm
      cases hm
  | succ n ih =>
      obtain ⟨e, he, htask⟩ := Option.bind_eq_some_iff.mp hd
      have hasking := asking_iterate SENSOR ρ n
      rw [← polls_scan he] at hasking
      obtain ⟨address, q, t, hasked, ht, rfl⟩ := task_finished htask
      obtain ⟨ha, hanswered⟩ := hasking.address address q hasked
      rw [← ha] at ht
      -- a reply that is merged is from an address that has answered for its capabilities
      have hmerge : ∀ r, e.state.merge (now n) address r = some t →
          ρ address .queryCapabilities ≠ none →
          ∀ m ∈ t.modules, ρ m.address .queryCapabilities ≠ none := by
        intro r hr hmore m hm
        rcases merge_addresses hr m hm with hm | ⟨m', hm', hm⟩
        · rw [hm]
          exact hmore
        · rw [← hm]
          exact ih he m' hm'
      unfold mergeFinished at ht
      cases q with
      | queryFirmware =>
          cases ht
          exact fun m hm => ih he m hm
      | queryCapabilities =>
          cases hreply : ρ address .queryCapabilities with
          | none =>
              rw [hreply] at ht
              cases ht
              exact fun m hm => ih he m hm
          | some r =>
              rw [hreply] at ht
              exact hmerge r ht (by simp [hreply])
      | querySensorCapabilities sensor =>
          cases hreply : ρ address (.querySensorCapabilities sensor) with
          | none =>
              rw [hreply] at ht
              cases ht
              exact fun m hm => absurd hm List.not_mem_nil
          | some r =>
              rw [hreply] at ht
              exact hmerge r ht (hanswered (by simp))

end Memory

/-- **What a scan leaves is what its replies alone decide exactly if the list was empty before and
    none of its memory was in use**; and then it takes no more memory than there is for a new list.
    This is so for every list that can be there before a scan. -/
theorem scan_alone_iff (SENSOR : BitVec 8) {tr : List (Modules × Input)} {s : Modules}
    (h : Run step {} tr s) :
    (∀ ρ v, Leaves SENSOR ρ s v → (Alone SENSOR ρ v ↔ Vacant s)) ∧
      (Vacant s → ∀ ρ v, Leaves SENSOR ρ {} v → Leaves SENSOR ρ s v) := by
  have hs : Kept s := h.inv Kept kept_start fun _ _ _ hs hstep => step_kept hs hstep
  refine ⟨fun ρ v hv => ⟨fun halone => ?_, fun hvacant => ?_⟩, fun hvacant ρ v hv => ?_⟩
  · exact vacant_of_leaves hs hv ((halone.1 v).mpr rfl)
  · have hnew : Leaves SENSOR ρ {} v := leaves_congr (strip_vacant hs hvacant) hv
    refine ⟨fun w => ⟨fun hw => leaves_unique hw hnew, fun hw => hw ▸ hnew⟩, ?_⟩
    obtain ⟨now, n, d, hd, _, rfl⟩ := hnew
    intro m hm
    obtain ⟨m', hm', rfl⟩ := List.mem_map.mp hm
    exact polls_answered rfl hd m' hm'
  · exact leaves_congr (strip_vacant hs hvacant).symm hv

/-- Every address is silent. -/
def silence : Replies := fun _ _ => none

/-- A module at address 8 is in the list; then nothing answers, and it is still there. -/
theorem module_gone : ¬ ∀ (SENSOR : BitVec 8) (tr : List (Modules × Input)) (s : Modules)
    (ρ : Replies) (v : View), Run step {} tr s → Leaves SENSOR ρ s v → Alone SENSOR ρ v := by
  intro hall
  have hexec : (exec step {} [.merge 0 8 (announce 0)]).map
      (fun s => s.modules.map (·.address)) = some [8] := by decide +kernel
  obtain ⟨tr, s, hrun, hs⟩ := run_of_exec_map hexec
  have hleaves : Leaves 1 silence s (view s) := ⟨fun _ => 0, 3, _, rfl, rfl, rfl⟩
  obtain ⟨m, hm, ha⟩ := List.map_eq_singleton_iff.mp hs
  have hmem : viewModule m ∈ (view s).modules :=
    List.mem_map_of_mem (hm ▸ List.mem_singleton_self m)
  exact (hall 1 tr s silence _ hrun hleaves).2 _ hmem rfl

/-- A module that answers at address 8. -/
def oneModule : Replies := fun address q =>
  if address = 8 ∧ q = .queryCapabilities then some (announce 0) else none

/-- After a failed scan the list is empty, and a scan leaves what answered. -/
theorem scan_alone_iff_cleared : ∃ tr s v, Run step {} tr s ∧ Leaves 1 oneModule s v ∧
    v.modules.map (·.address) = [8] ∧
    ((∀ ρ v, Leaves 1 ρ s v → (Alone 1 ρ v ↔ Vacant s)) ∧
      (Vacant s → ∀ ρ v, Leaves 1 ρ {} v → Leaves 1 ρ s v)) := by
  have hexec : exec step {} [.scanFailure] = some ({} : Modules).scanFailure := rfl
  obtain ⟨tr, hrun, _⟩ := run_of_exec hexec
  exact ⟨_, _, _, hrun, ⟨fun _ => 0, 3, _, rfl, rfl, rfl⟩, rfl, scan_alone_iff 1 hrun⟩

end FieldKit.Attached

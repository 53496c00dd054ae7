/-
  File:      FieldKit/Core/ScanMemory.lean
  Subject:   The memory of a scan (attached_devices.cpp): does a full scan fit in the two pools?

  Every reply is decoded with memory of the Main pool, which is not cleared while a scan goes on; its
  strings are then copied into the pool of `CoreState`, where the modules and their arrays are. A
  decoded string that is empty takes nothing, a copied one takes its end.

  What a query costs does not depend on what is in the pools, so the costs of a scan add up.

  * `task_devices` -- the scan and the list are those of `AttachedDevices`;
  * `completes_step` -- a scan is completed if its next query is paid for and the rest is;
  * `fleet_completes_iff` -- a scan of any modules that answer properly is completed exactly if
    their strings, decoded, take no more than the Main pool has, and their modules, arrays and
    strings no more than the other pool;
  * `names_beyond_pool` -- one module of thirty-two sensors.
-/
import FieldKit.Core.AttachedDevices
import FieldKit.Protobuf.Demand

namespace FieldKit.ScanMemory

open Attached Protobuf

/-! ## 1. Modules that answer -/

/-- A sensor, as a module has it. -/
structure Sensor where
  name : Text
  unitOfMeasure : Text
  deriving DecidableEq, Repr

/-- A module on the bus: what it replies with. The number of its sensors is a `uint8_t`. -/
structure Answering where
  type : BitVec 8
  name : Text
  module : Text
  git : Text
  build : Text
  sensors : List Sensor
  pendingEtag : Text := []
  goodEtag : Text := []
  minimumNumberOfReadings : Nat := 1
  compiled : BitVec 32 := 0
  requiredUptime : BitVec 8 := 0
  few : sensors.length < 256 := by decide
  deriving DecidableEq, Repr

/-- The modules, by their addresses. -/
abbrev Fleet := Address → Option Answering

namespace Answering

/-- `info->sensors[sensor]`, of one of its sensors. -/
def sensor (m : Answering) (sensor : BitVec 8) : Sensor :=
  (m.sensors[sensor.toNat]?).getD { name := [], unitOfMeasure := [] }

/-- `ModuleServicer::handle`, of the queries of a scan. -/
def reply (m : Answering) : ScanQuery → ModuleReplyMessage
  | .queryCapabilities =>
    { type := .REPLY_CAPABILITIES
      capabilities :=
        { type := m.type, name := m.name, module := m.module, git := m.git, build := m.build
          numberOfSensors := m.sensors.length
          minimumNumberOfReadings := m.minimumNumberOfReadings
          compiled := m.compiled, requiredUptime := m.requiredUptime } }
  | .querySensorCapabilities sensor =>
    { type := .REPLY_SENSOR_CAPABILITIES
      sensorCapabilities :=
        { id := sensor.toNat, name := (m.sensor sensor).name
          unitOfMeasure := (m.sensor sensor).unitOfMeasure } }
  | .queryFirmware => { type := .REPLY_FIRMWARE }

/-- The strings of these replies. Whatever other string is sent is empty. -/
def strings (m : Answering) : ScanQuery → List (ModuleReplyField × Text)
  | .queryCapabilities =>
    [(.capabilitiesName, m.name), (.capabilitiesModule, m.module),
      (.capabilitiesFirmwareGit, m.git), (.capabilitiesFirmwareBuild, m.build)]
  | .querySensorCapabilities sensor =>
    [(.sensorCapabilitiesName, (m.sensor sensor).name),
      (.sensorCapabilitiesUnitOfMeasure, (m.sensor sensor).unitOfMeasure)]
  | .queryFirmware => [(.firmwarePendingEtag, m.pendingEtag), (.firmwareGoodEtag, m.goodEtag)]

/-- The fields of the reply. -/
def fields (m : Answering) (q : ScanQuery) : List (ModuleReplyField × Value) :=
  (m.strings q).map fun p => (p.1, { bytes := p.2 })

/-- The reply on the wire. -/
def wire (m : Answering) (q : ScanQuery) : List (Occurrence .ModuleReplyMessage) :=
  wireOf (m := .ModuleReplyMessage) (m.fields q)

end Answering

/-- What a fleet replies. -/
def replies (fleet : Fleet) : Replies := fun address q => (fleet address).map (·.reply q)

/-! ## 2. The scan -/

/-- A scan, the list that it fills, and the Main pool. -/
structure Scanning where
  scan : ScanState := ScanState.scan
  state : Modules := {}
  main : Pool := .empty 512

/-- A reply is decoded, if one comes. -/
def receive (itemSize : Nat) (module : Option Answering) (q : ScanQuery) (main : Pool) :
    Option Pool :=
  match module with
  | none => some main
  | some m =>
    match decodeMessage itemSize main (m.wire q) with
    | .ok _ h => some h.pool
    | .error _ _ => none

section Scan

variable (SENSOR : BitVec 8) (itemSize : Nat) (now : BitVec 32) (fleet : Fleet)

/-- `task()`, when the query that was pushed is finished. A failed assertion is `none`. `now` is the
    clock, of which these replies do not make use. -/
def task (s : Scanning) : Option Scanning :=
  match s.scan.asked with
  | none => none
  | some (address, q) => do
    let main ← receive itemSize (fleet address) q s.main
    let state ← mergeFinished now (addresses s.scan.addressIndex) q (replies fleet address q) s.state
    return { scan := s.scan.finish SENSOR (replies fleet), state, main }

/-- What it does to the scan and to the list is what `AttachedDevices` does. -/
theorem task_devices {s s' : Scanning} (h : task SENSOR itemSize now fleet s = some s') :
    AttachedDevices.task SENSOR (replies fleet) now { scan := s.scan, state := s.state } =
      some { scan := s'.scan, state := s'.state } := by
  unfold task at h
  unfold AttachedDevices.task
  cases hasked : s.scan.asked with
  | none =>
      rw [hasked] at h
      cases h
  | some p =>
      rw [hasked] at h
      simp only [Option.bind_eq_bind, Option.bind_eq_some_iff, Option.pure_def,
        Option.some.injEq] at h
      obtain ⟨main, _, state, hstate, rfl⟩ := h
      dsimp only
      rw [hstate, Option.map_some]

/-- So many queries. -/
def tasks : Nat → Scanning → Option Scanning
  | 0, s => some s
  | n + 1, s => (task SENSOR itemSize now fleet s).bind (tasks n)

/-- **The scan comes to `doneScanning`**: no assertion fails on the way. -/
def Completes (s : Scanning) : Prop :=
  ∃ n s', tasks SENSOR itemSize now fleet n s = some s' ∧ s'.scan.done = true

end Scan

/-! ## 3. What it costs -/

/-- What a decoded string takes. -/
def decoded (t : Text) : Nat := if t.length = 0 then 0 else alignedSize (t.length + 1)

/-- What a copied string takes. -/
def copied (t : Text) : Nat := alignedSize (t.length + 1)

section Costs

variable (SENSOR : BitVec 8)

/-- What a module takes of the Main pool. Its sensors, and behind them its firmware, are asked for
    only if it is a sensor module and has some. -/
def mainCost (m : Answering) : Nat :=
  decoded m.name + decoded m.module + decoded m.git + decoded m.build +
    if m.type = SENSOR ∧ m.sensors ≠ [] then
      (m.sensors.map fun x => decoded x.name + decoded x.unitOfMeasure).sum +
        (decoded m.pendingEtag + decoded m.goodEtag)
    else 0

/-- What a module takes of the pool of `CoreState`. -/
def stateCost (m : Answering) : Nat :=
  moduleInfoSize + sensorInfoSize * m.sensors.length + sensorReadingSize * m.sensors.length +
    copied m.name + copied m.module +
    if m.type = SENSOR ∧ m.sensors ≠ [] then
      (m.sensors.map fun x => copied x.name + copied x.unitOfMeasure).sum
    else 0

/-- What the modules of a fleet take together. -/
def total (cost : Answering → Nat) (fleet : Fleet) : Nat :=
  (([7, 8, 9] : List Address).map fun a => ((fleet a).map cost).getD 0).sum

end Costs

/-! ## 4. One query -/

/-- What a query leaves is to be had for its cost, and not at all if there is less. -/
def Charges {σ : Type} (r : Option σ) (remaining cost : Nat) (left : σ → Pool) (P : σ → Prop) :
    Prop :=
  (cost ≤ remaining ∧ ∃ s, r = some s ∧ (left s).remaining + cost = remaining ∧
      (left s).frozen = false ∧ P s) ∨
    (¬ cost ≤ remaining ∧ r = none)

/-- Copies are charged what they take of their pool. -/
theorem mallocs_charges {σ : Type} {pool : Pool} (hfrozen : pool.frozen = false) {sizes : List Nat}
    {cost : Nat} (hcost : (sizes.map alignedSize).sum = cost) {f : Pool → σ} {left : σ → Pool}
    {P : σ → Prop} (hleft : ∀ p, left (f p) = p) (hP : ∀ p, P (f p)) :
    Charges ((pool.mallocs sizes).map f) pool.remaining cost left P := by
  subst hcost
  rcases Pool.mallocs_cases hfrozen sizes with
    ⟨hroom, p, hp, hremaining, hfrozen'⟩ | ⟨hroom, hnone⟩
  · rw [hp, Option.map_some]
    refine Or.inl ⟨hroom, f p, rfl, ?_, ?_, hP p⟩
    · rw [hleft]
      exact hremaining
    · rw [hleft]
      exact hfrozen'
  · rw [hnone, Option.map_none]
    exact Or.inr ⟨hroom, rfl⟩

/-- **What the strings of a reply take of the Main pool.** -/
theorem receive_charges (itemSize : Nat) (m : Answering) (q : ScanQuery) {main : Pool}
    (hfrozen : main.frozen = false) :
    Charges (receive itemSize (some m) q main) main.remaining
      ((m.strings q).map fun p => decoded p.2).sum id fun _ => True := by
  have hdistinct : ((m.fields q).map (·.1)).Nodup := by
    cases q <;> simp [Answering.fields, Answering.strings]
  have hread : Readable (m.fields q) := by
    intro p hp
    obtain ⟨x, _, rfl⟩ := List.mem_map.mp hp
    rfl
  have hcost : takenFields (WireMessage.callback .ModuleReplyMessage) (m.fields q) =
      ((m.strings q).map fun p => decoded p.2).sum := by
    cases q <;> rfl
  have hdemand := decodeMessage_wireOf (m := .ModuleReplyMessage) itemSize hdistinct hread hfrozen
  rw [hcost] at hdemand
  unfold receive Answering.wire
  dsimp only
  rcases hdemand with ⟨hroom, r, h, hrun, hremaining, hfrozen'⟩ | ⟨hroom, e, h, hrun, _⟩
  · rw [hrun]
    exact Or.inl ⟨hroom, h.pool, rfl, hremaining, hfrozen', trivial⟩
  · rw [hrun]
    exact Or.inr ⟨hroom, rfl⟩

/-- **Capabilities of a module that is not in the list.** -/
theorem mergeCapabilities_new {address : Address} (c : Capabilities) {s : Modules}
    (hnew : s.getModule address = none) :
    s.mergeCapabilities address c =
      (s.pool.mallocs [moduleInfoSize, sensorInfoSize * (BitVec.ofNat 8 c.numberOfSensors).toNat,
        sensorReadingSize * (BitVec.ofNat 8 c.numberOfSensors).toNat, c.name.length + 1,
        c.module.length + 1]).map fun pool =>
          { s with
            pool
            modules := s.modules ++ [Modules.describe address c
              { sensors := List.replicate (BitVec.ofNat 8 c.numberOfSensors).toNat none
                readings := List.replicate (BitVec.ofNat 8 c.numberOfSensors).toNat none }] } := by
  generalize hn : (BitVec.ofNat 8 c.numberOfSensors).toNat = n
  unfold Modules.mergeCapabilities Modules.getOrCreateModule Pool.strdup
  rw [hnew]
  simp only [hn, Pool.mallocs, Option.bind_eq_bind, Option.pure_def]
  cases s.pool.malloc moduleInfoSize with
  | none => rfl
  | some p₁ =>
      simp only [Option.bind_some]
      cases p₁.malloc (sensorInfoSize * n) with
      | none => rfl
      | some p₂ =>
          simp only [Option.bind_some]
          cases p₂.malloc (sensorReadingSize * n) with
          | none => rfl
          | some p₃ =>
              simp only [Option.bind_some]
              cases p₃.malloc (c.name.length + 1) with
              | none => rfl
              | some p₄ =>
                  simp only [Option.bind_some]
                  cases p₄.malloc (c.module.length + 1) with
                  | none => rfl
                  | some p₅ =>
                      simp only [Option.bind_some, Option.map_some]
                      rw [modify_append_cons s.modules _ [] _]

/-- **Capabilities of a sensor of a module in the list.** -/
theorem mergeSensorCapabilities_known {address : Address} (c : SensorCapabilities) {s : Modules}
    {pre post : List ModuleInfo} {m : ModuleInfo} (hmodules : s.modules = pre ++ m :: post)
    (hk : s.getModule address = some pre.length) :
    ∃ f : Pool → Modules, s.mergeSensorCapabilities address c =
        (s.pool.mallocs [c.name.length + 1, c.unitOfMeasure.length + 1]).map f ∧
      ∀ pool, (f pool).pool = pool ∧ (f pool).modules = pre ++ Modules.nameSensor c m :: post := by
  have hm : s.modules[pre.length]? = some m := by
    rw [hmodules]
    simp
  refine ⟨fun pool => ({ s with pool, modules := s.modules.modify pre.length (Modules.nameSensor c) } :
    Modules).access [⟨c.id, m.sensors.length⟩], ?_, fun pool => ⟨rfl, ?_⟩⟩
  · unfold Modules.mergeSensorCapabilities Pool.strdup
    rw [hk]
    simp only [Pool.mallocs, Option.bind_eq_bind, Option.pure_def, Option.bind_some, hm]
    cases s.pool.malloc (c.name.length + 1) with
    | none => rfl
    | some p₁ =>
        simp only [Option.bind_some]
        cases p₁.malloc (c.unitOfMeasure.length + 1) with
        | none => rfl
        | some p₂ => rfl
  · show s.modules.modify pre.length _ = _
    rw [hmodules, modify_append_cons]

/-- All modules of the list are at addresses that come before. -/
def Upto (k : Nat) (s : Modules) : Prop := ∀ m ∈ s.modules, ∃ j < k, m.address = addresses j

/-- So they are, and the module at this address is one of them. -/
def Here (k : Nat) (s : Modules) : Prop :=
  Upto (k + 1) s ∧ ∃ m ∈ s.modules, m.address = addresses k

theorem Upto.next {k : Nat} {s : Modules} (h : Upto k s) : Upto (k + 1) s := by
  intro m hm
  obtain ⟨j, hj, ha⟩ := h m hm
  exact ⟨j, by omega, ha⟩

/-- The addresses are different. -/
theorem addresses_injective : ∀ j < 3, ∀ k < 3, addresses j = addresses k → j = k := by decide

/-- A module at an address that is asked for the first time is not in the list. -/
theorem Upto.getModule {k : Nat} (hk : k < 3) {s : Modules} (h : Upto k s) :
    s.getModule (addresses k) = none := by
  rcases getModule_cases (addresses k) s with ⟨hnone, _⟩ | ⟨pre, m, post, hmodules, _, ha, _⟩
  · exact hnone
  · obtain ⟨j, hj, ha'⟩ := h m (by rw [hmodules]; exact List.mem_append_right _ List.mem_cons_self)
    have heq := addresses_injective j (by omega) k hk (ha'.symm.trans ha)
    omega

/-- The module at this address is described anew. -/
theorem Here.replaced {k : Nat} {s s' : Modules} (h : Here k s) {pre post : List ModuleInfo}
    {y y' : ModuleInfo} (hmodules : s.modules = pre ++ y :: post)
    (hmodules' : s'.modules = pre ++ y' :: post) (hy' : y'.address = addresses k) : Here k s' := by
  refine ⟨fun z hz => ?_, y', ?_, hy'⟩
  · rw [hmodules', List.mem_append, List.mem_cons] at hz
    rcases hz with hz | rfl | hz
    · exact h.1 z (by rw [hmodules]; exact List.mem_append_left _ hz)
    · exact ⟨k, Nat.lt_succ_self k, hy'⟩
    · exact h.1 z (by rw [hmodules]; exact List.mem_append_right _ (List.mem_cons_of_mem _ hz))
  · rw [hmodules']
    exact List.mem_append_right _ List.mem_cons_self

section Merges

variable (now : BitVec 32) {k : Nat} {s : Modules}

/-- What a module takes of the pool of `CoreState` when it is seen. -/
def seenCost (m : Answering) : Nat :=
  moduleInfoSize + sensorInfoSize * m.sensors.length + sensorReadingSize * m.sensors.length +
    copied m.name + copied m.module

theorem capabilities_charges (m : Answering) (hk : k < 3) (h : Upto k s)
    (hfrozen : s.pool.frozen = false) :
    Charges (mergeFinished now (addresses k) .queryCapabilities (some (m.reply .queryCapabilities)) s)
      s.pool.remaining (seenCost m) (·.pool) (Here k) := by
  have hfew := m.few
  have hn : (BitVec.ofNat 8 m.sensors.length).toNat = m.sensors.length := by
    rw [BitVec.toNat_ofNat]
    exact Nat.mod_eq_of_lt hfew
  have hmerge : mergeFinished now (addresses k) .queryCapabilities
      (some (m.reply .queryCapabilities)) s =
        s.mergeCapabilities (addresses k) (m.reply .queryCapabilities).capabilities := rfl
  rw [hmerge, mergeCapabilities_new _ (h.getModule hk)]
  have hcost : (List.map alignedSize
      [moduleInfoSize,
        sensorInfoSize * (BitVec.ofNat 8
          (m.reply .queryCapabilities).capabilities.numberOfSensors).toNat,
        sensorReadingSize * (BitVec.ofNat 8
          (m.reply .queryCapabilities).capabilities.numberOfSensors).toNat,
        (m.reply .queryCapabilities).capabilities.name.length + 1,
        (m.reply .queryCapabilities).capabilities.module.length + 1]).sum = seenCost m := by
    have hinfo : alignedSize moduleInfoSize = moduleInfoSize := by decide
    have hsensors : alignedSize (sensorInfoSize * m.sensors.length) =
        sensorInfoSize * m.sensors.length :=
      alignedSize_of_four (by unfold sensorInfoSize; omega)
    have hreadings : alignedSize (sensorReadingSize * m.sensors.length) =
        sensorReadingSize * m.sensors.length :=
      alignedSize_of_four (by unfold sensorReadingSize; omega)
    unfold seenCost copied Answering.reply
    dsimp only
    rw [hn]
    simp only [List.map_cons, List.map_nil, List.sum_cons, List.sum_nil, hinfo, hsensors, hreadings]
    omega
  refine mallocs_charges hfrozen hcost (fun _ => rfl) fun pool => ⟨fun x hx => ?_, ?_⟩
  · dsimp only at hx
    rcases List.mem_append.mp hx with hx | hx
    · exact h.next x hx
    · rw [List.mem_singleton.mp hx]
      exact ⟨k, Nat.lt_succ_self k, rfl⟩
  · exact ⟨_, List.mem_append_right _ (List.mem_singleton_self _), rfl⟩

theorem sensor_charges (m : Answering) (sensor : BitVec 8) (h : Here k s)
    (hfrozen : s.pool.frozen = false) :
    Charges (mergeFinished now (addresses k) (.querySensorCapabilities sensor)
        (some (m.reply (.querySensorCapabilities sensor))) s)
      s.pool.remaining (copied (m.sensor sensor).name + copied (m.sensor sensor).unitOfMeasure)
      (·.pool) (Here k) := by
  have hmerge : mergeFinished now (addresses k) (.querySensorCapabilities sensor)
      (some (m.reply (.querySensorCapabilities sensor))) s =
        s.mergeSensorCapabilities (addresses k)
          (m.reply (.querySensorCapabilities sensor)).sensorCapabilities := rfl
  obtain ⟨x, hx, hxa⟩ := h.2
  rcases getModule_cases (addresses k) s with ⟨_, hnot⟩ | ⟨pre, y, post, hmodules, hget, hy, _⟩
  · exact absurd hxa (hnot x hx)
  obtain ⟨f, hf, hleft⟩ := mergeSensorCapabilities_known
    (m.reply (.querySensorCapabilities sensor)).sensorCapabilities hmodules hget
  rw [hmerge, hf]
  have hcost : (List.map alignedSize
      [(m.reply (.querySensorCapabilities sensor)).sensorCapabilities.name.length + 1,
        (m.reply (.querySensorCapabilities sensor)).sensorCapabilities.unitOfMeasure.length +
          1]).sum = copied (m.sensor sensor).name + copied (m.sensor sensor).unitOfMeasure := by
    simp only [List.map_cons, List.map_nil, List.sum_cons, List.sum_nil, Nat.add_zero]
    rfl
  exact mallocs_charges hfrozen hcost (fun p => (hleft p).1) fun p =>
    h.replaced hmodules (hleft p).2 hy

end Merges

/-! ## 5. The whole scan -/

section Scan

variable {SENSOR : BitVec 8} {itemSize : Nat} {now : BitVec 32} {fleet : Fleet}

/-- **A scan that asks is completed if its next query is paid for and what comes then is.** -/
theorem completes_step {s : Scanning} (hdone : s.scan.done = false) :
    Completes SENSOR itemSize now fleet s ↔
      ∃ s', task SENSOR itemSize now fleet s = some s' ∧ Completes SENSOR itemSize now fleet s' := by
  constructor
  · intro h
    obtain ⟨n, s', hrun, hdone'⟩ := h
    cases n with
    | zero =>
        cases hrun
        exact absurd (hdone.symm.trans hdone') (by decide)
    | succ n =>
        obtain ⟨t, ht, hrun⟩ := Option.bind_eq_some_iff.mp hrun
        exact ⟨t, ht, n, s', hrun, hdone'⟩
  · intro h
    obtain ⟨t, ht, n, s', hrun, hdone'⟩ := h
    exact ⟨n + 1, s', Option.bind_eq_some_iff.mpr ⟨t, ht, hrun⟩, hdone'⟩

/-- From here on, with such a list, a scan is completed exactly if the pools have so much left. -/
def Needs (SENSOR : BitVec 8) (itemSize : Nat) (now : BitVec 32) (fleet : Fleet)
    (V : Modules → Prop) (d : ScanState) (inMain inState : Nat) : Prop :=
  ∀ (state : Modules) (main : Pool), main.frozen = false → state.pool.frozen = false → V state →
    (Completes SENSOR itemSize now fleet { scan := d, state, main } ↔
      inMain ≤ main.remaining ∧ inState ≤ state.pool.remaining)

/-- Costs are compared as numbers. -/
theorem Needs.of_eq {V : Modules → Prop} {d : ScanState} {a a' b b' : Nat}
    (h : Needs SENSOR itemSize now fleet V d a b) (ha : a = a') (hb : b = b') :
    Needs SENSOR itemSize now fleet V d a' b' := ha ▸ hb ▸ h

/-- **The costs of a query and of what comes then add up.** -/
theorem needs_step {V V' : Modules → Prop} {d : ScanState} {address : Address} {q : ScanQuery}
    (hasked : d.asked = some (address, q)) (hdone : d.done = false) {a b inMain inState : Nat}
    (hmain : ∀ main : Pool, main.frozen = false →
      Charges (receive itemSize (fleet address) q main) main.remaining a id fun _ => True)
    (hstate : ∀ s : Modules, s.pool.frozen = false → V s →
      Charges (mergeFinished now (addresses d.addressIndex) q (replies fleet address q) s)
        s.pool.remaining b (·.pool) V')
    (hthen : Needs SENSOR itemSize now fleet V' (d.finish SENSOR (replies fleet)) inMain inState) :
    Needs SENSOR itemSize now fleet V d (a + inMain) (b + inState) := by
  intro state main hmainFrozen hstateFrozen hV
  rw [completes_step hdone]
  have htask : task SENSOR itemSize now fleet { scan := d, state, main } =
      (receive itemSize (fleet address) q main).bind fun main' =>
        (mergeFinished now (addresses d.addressIndex) q (replies fleet address q) state).bind
          fun state' => some
            { scan := d.finish SENSOR (replies fleet), state := state', main := main' } := by
    unfold task
    rw [hasked]
    rfl
  rw [htask]
  rcases hmain main hmainFrozen with ⟨hroom, main', hmain', hremaining, hfrozen', _⟩ | ⟨hroom, hnone⟩
  · rcases hstate state hstateFrozen hV with
      ⟨hroom₂, state', hstate', hremaining₂, hfrozen₂, hV'⟩ | ⟨hroom₂, hnone⟩
    · rw [hmain', Option.bind_some, hstate', Option.bind_some]
      have hrest := hthen state' main' hfrozen' hfrozen₂ hV'
      dsimp only [id] at hremaining hremaining₂
      constructor
      · intro h
        obtain ⟨s', heq, hcompletes⟩ := h
        cases heq
        obtain ⟨h₁, h₂⟩ := hrest.mp hcompletes
        exact ⟨by omega, by omega⟩
      · intro h
        obtain ⟨h₁, h₂⟩ := h
        exact ⟨_, rfl, hrest.mpr ⟨by omega, by omega⟩⟩
    · rw [hmain', Option.bind_some, hnone]
      exact iff_of_false (fun ⟨_, heq, _⟩ => (nomatch heq)) fun h => hroom₂ (by omega)
  · rw [hnone]
    exact iff_of_false (fun ⟨_, heq, _⟩ => (nomatch heq)) fun h => hroom (by omega)

/-- A scan that is done needs nothing. -/
theorem needs_done (V : Modules → Prop) {d : ScanState} (hdone : d.done = true) :
    Needs SENSOR itemSize now fleet V d 0 0 :=
  fun _ _ _ _ _ => iff_of_true ⟨0, _, rfl, hdone⟩ ⟨Nat.zero_le _, Nat.zero_le _⟩

/-- The scan asks this of the address. -/
structure At (k : Nat) (q : ScanQuery) (d : ScanState) : Prop where
  index : d.addressIndex = k
  asked : d.asked = some (addresses k, q)
  going : d.done = false

/-- The scan comes to the address, or is done behind the last one. -/
def Comes (k : Nat) (d : ScanState) : Prop :=
  if k < 3 then At k .queryCapabilities d else d.done = true

theorem comes_resume {k : Nat} (hk : k ≤ 3) {d : ScanState} (hindex : d.addressIndex = k)
    (hdone : d.done = false) : Comes k d.resume := by
  unfold Comes ScanState.resume
  rw [hindex]
  by_cases hlt : k < 3
  · have hpos : 0 < addresses k := (by decide : ∀ k < 3, 0 < addresses k) k hlt
    rw [if_pos hlt, if_pos hpos]
    exact ⟨hindex, rfl, hdone⟩
  · have heq : k = 3 := by omega
    subst heq
    rw [if_neg hlt]
    rfl

theorem comes_next {k : Nat} (hk : k < 3) {d : ScanState} (hindex : d.addressIndex = k)
    (hdone : d.done = false) : Comes (k + 1) d.next :=
  comes_resume hk (congrArg (· + 1) hindex) hdone

/-- How a query is finished. -/
theorem finish_answered {k : Nat} {q : ScanQuery} {d : ScanState} (hat : At k q d) {m : Answering}
    (hm : fleet (addresses k) = some m) :
    d.finish SENSOR (replies fleet) = d.answered SENSOR q (m.reply q) := by
  unfold ScanState.finish replies
  rw [hat.asked]
  dsimp only
  rw [hm, Option.map_some]

section Module

variable {k i n inMain inState : Nat} {m : Answering} {d : ScanState}

/-- What must be left for the addresses that come. -/
def Ready (SENSOR : BitVec 8) (itemSize : Nat) (now : BitVec 32) (fleet : Fleet)
    (k inMain inState : Nat) : Prop :=
  ∀ d, Comes k d → Needs SENSOR itemSize now fleet (Upto k) d inMain inState

/-- The firmware of a module: the etags are decoded, and nothing is merged. -/
theorem firmware_needs (hk : k < 3) (hm : fleet (addresses k) = some m)
    (hat : At k .queryFirmware d) (hthen : Ready SENSOR itemSize now fleet (k + 1) inMain inState) :
    Needs SENSOR itemSize now fleet (Here k) d
      (decoded m.pendingEtag + decoded m.goodEtag + inMain) inState := by
  have hneeds := needs_step (V := Here k) (a := decoded m.pendingEtag + decoded m.goodEtag) (b := 0)
    hat.asked hat.going (fun main hfrozen => ?_) (fun s hfrozen hhere => ?_)
    (hthen (d.finish SENSOR (replies fleet)) ?_)
  · rw [Nat.zero_add] at hneeds
    exact hneeds
  · rw [hm]
    exact receive_charges itemSize m .queryFirmware hfrozen
  · exact Or.inl ⟨Nat.zero_le _, s, rfl, rfl, hfrozen, hhere.1⟩
  · rw [finish_answered hat hm]
    exact comes_next hk hat.index hat.going

omit inMain inState in
/-- The sensor at a position. -/
theorem sensor_at {pre rest : List Sensor} {x : Sensor} (hsensors : m.sensors = pre ++ x :: rest) :
    m.sensor (BitVec.ofNat 8 pre.length) = x := by
  have hfew := m.few
  have hlength : pre.length < 256 := by
    rw [hsensors, List.length_append, List.length_cons] at hfew
    omega
  have hn : (BitVec.ofNat 8 pre.length).toNat = pre.length := by
    rw [BitVec.toNat_ofNat]
    exact Nat.mod_eq_of_lt hlength
  unfold Answering.sensor
  rw [hn, hsensors, List.getElem?_append_right le_rfl, Nat.sub_self]
  rfl

/-- Numbers of sensors are compared as they are. -/
theorem sensor_lt {i n : Nat} (hi : i < 256) (hn : n < 256) :
    BitVec.ofNat 8 i < BitVec.ofNat 8 n ↔ i < n := by
  rw [BitVec.lt_def, BitVec.toNat_ofNat, BitVec.toNat_ofNat, Nat.mod_eq_of_lt hi,
    Nat.mod_eq_of_lt hn]

/-- What is asked behind a sensor: the next one, or the firmware. -/
theorem answered_sensor (SENSOR : BitVec 8) (hat : At k (.querySensorCapabilities (BitVec.ofNat 8 i)) d)
    (hsensor : d.sensor = BitVec.ofNat 8 i) (hnumber : d.numberOfSensors = BitVec.ofNat 8 n)
    (hi : i + 1 < 256) (hn : n < 256) (q : ScanQuery) (r : ModuleReplyMessage)
    (hq : q = .querySensorCapabilities (BitVec.ofNat 8 i)) :
    (i + 1 < n → At k (.querySensorCapabilities (BitVec.ofNat 8 (i + 1))) (d.answered SENSOR q r) ∧
        (d.answered SENSOR q r).sensor = BitVec.ofNat 8 (i + 1) ∧
        (d.answered SENSOR q r).numberOfSensors = BitVec.ofNat 8 n) ∧
      (¬ i + 1 < n → At k .queryFirmware (d.answered SENSOR q r)) := by
  subst hq
  have hnext : d.sensor + 1 = BitVec.ofNat 8 (i + 1) := by
    rw [hsensor]
    exact (BitVec.ofNat_add i 1).symm
  unfold ScanState.answered
  dsimp only
  rw [hnext, hnumber]
  constructor
  · intro hlt
    rw [if_pos ((sensor_lt hi hn).mpr hlt)]
    refine ⟨⟨hat.index, ?_, hat.going⟩, rfl, rfl⟩
    unfold ScanState.askSensor
    dsimp only
    rw [hat.index]
  · intro hlt
    rw [if_neg fun h => hlt ((sensor_lt hi hn).mp h)]
    refine ⟨hat.index, ?_, hat.going⟩
    dsimp only
    rw [hat.index]

/-- One sensor of a module. -/
theorem sensor_needs (hm : fleet (addresses k) = some m) {pre rest : List Sensor} {x : Sensor}
    (hsensors : m.sensors = pre ++ x :: rest)
    (hat : At k (.querySensorCapabilities (BitVec.ofNat 8 pre.length)) d)
    (hthen : Needs SENSOR itemSize now fleet (Here k)
      (d.answered SENSOR (.querySensorCapabilities (BitVec.ofNat 8 pre.length))
        (m.reply (.querySensorCapabilities (BitVec.ofNat 8 pre.length)))) inMain inState) :
    Needs SENSOR itemSize now fleet (Here k) d
      (decoded x.name + decoded x.unitOfMeasure + inMain)
      (copied x.name + copied x.unitOfMeasure + inState) := by
  have hx := sensor_at hsensors
  have hreply : replies fleet (addresses k) (.querySensorCapabilities (BitVec.ofNat 8 pre.length)) =
      some (m.reply (.querySensorCapabilities (BitVec.ofNat 8 pre.length))) := by
    unfold replies
    rw [hm, Option.map_some]
  rw [← finish_answered hat hm] at hthen
  rw [← hx]
  refine needs_step hat.asked hat.going (fun main hfrozen => ?_) (fun s hfrozen hhere => ?_) hthen
  · rw [hm]
    exact receive_charges itemSize m (.querySensorCapabilities _) hfrozen
  · rw [hreply, hat.index]
    exact sensor_charges now m _ hhere hfrozen

/-- **The sensors of a module, one after another**, and what comes behind them. -/
theorem sensors_needs (hm : fleet (addresses k) = some m) (rest : List Sensor)
    (hthen : ∀ d', At k .queryFirmware d' →
      Needs SENSOR itemSize now fleet (Here k) d' inMain inState) :
    ∀ (pre : List Sensor) (x : Sensor) (d : ScanState), m.sensors = pre ++ x :: rest →
      At k (.querySensorCapabilities (BitVec.ofNat 8 pre.length)) d →
      d.sensor = BitVec.ofNat 8 pre.length → d.numberOfSensors = BitVec.ofNat 8 m.sensors.length →
      Needs SENSOR itemSize now fleet (Here k) d
        (((x :: rest).map fun y => decoded y.name + decoded y.unitOfMeasure).sum + inMain)
        (((x :: rest).map fun y => copied y.name + copied y.unitOfMeasure).sum + inState) := by
  have hfew := m.few
  induction rest with
  | nil =>
      intro pre x d hsensors hat hsensor hnumber
      have hlength : m.sensors.length = pre.length + 1 := by
        rw [hsensors, List.length_append, List.length_singleton]
      obtain ⟨_, hlast⟩ := answered_sensor SENSOR hat hsensor hnumber (by omega) hfew
        _ (m.reply (.querySensorCapabilities (BitVec.ofNat 8 pre.length))) rfl
      exact sensor_needs hm hsensors hat (hthen _ (hlast (by omega)))
  | cons y rest ih =>
      intro pre x d hsensors hat hsensor hnumber
      have hlength : m.sensors.length = pre.length + (rest.length + 2) := by
        rw [hsensors, List.length_append, List.length_cons, List.length_cons]
      obtain ⟨hmore, _⟩ := answered_sensor SENSOR hat hsensor hnumber (by omega) hfew
        _ (m.reply (.querySensorCapabilities (BitVec.ofNat 8 pre.length))) rfl
      obtain ⟨hat', hsensor', hnumber'⟩ := hmore (by omega)
      have hpre : pre.length + 1 = (pre ++ [x]).length := by
        rw [List.length_append, List.length_singleton]
      rw [hpre] at hat' hsensor'
      have hrest := ih (pre ++ [x]) y _ (by rw [hsensors, List.append_assoc]; rfl) hat' hsensor'
        hnumber'
      have hadd (f : Sensor → Nat) (c : Nat) : f x + (((y :: rest).map f).sum + c) =
          ((x :: y :: rest).map f).sum + c := by
        simp only [List.map_cons, List.sum_cons]
        omega
      exact (sensor_needs hm hsensors hat hrest).of_eq
        (hadd (fun y => decoded y.name + decoded y.unitOfMeasure) inMain)
        (hadd (fun y => copied y.name + copied y.unitOfMeasure) inState)

/-- The capabilities of a module, and what comes behind them. -/
theorem capabilities_needs (hk : k < 3) (hm : fleet (addresses k) = some m)
    (hat : At k .queryCapabilities d)
    (hthen : Needs SENSOR itemSize now fleet (Here k)
      (d.answered SENSOR .queryCapabilities (m.reply .queryCapabilities)) inMain inState) :
    Needs SENSOR itemSize now fleet (Upto k) d
      (decoded m.name + decoded m.module + decoded m.git + decoded m.build + inMain)
      (seenCost m + inState) := by
  have hreply : replies fleet (addresses k) .queryCapabilities = some (m.reply .queryCapabilities) := by
    unfold replies
    rw [hm, Option.map_some]
  rw [← finish_answered hat hm] at hthen
  refine needs_step hat.asked hat.going (fun main hfrozen => ?_) (fun s hfrozen hupto => ?_) hthen
  · have hcharges := receive_charges itemSize m .queryCapabilities hfrozen
    have hsum : ((m.strings .queryCapabilities).map fun p => decoded p.2).sum =
        decoded m.name + decoded m.module + decoded m.git + decoded m.build := by
      simp only [Answering.strings, List.map_cons, List.map_nil, List.sum_cons, List.sum_nil]
      omega
    rw [hsum] at hcharges
    rw [hm]
    exact hcharges
  · rw [hreply, hat.index]
    exact capabilities_charges now m hk hupto hfrozen

/-- **One module**, from its capabilities on. -/
theorem module_needs (hk : k < 3) (hm : fleet (addresses k) = some m)
    (hat : At k .queryCapabilities d) (hthen : Ready SENSOR itemSize now fleet (k + 1) inMain inState) :
    Needs SENSOR itemSize now fleet (Upto k) d (mainCost SENSOR m + inMain)
      (stateCost SENSOR m + inState) := by
  have hfew := m.few
  have hpositive : 0 < BitVec.ofNat 8 m.sensors.length ↔ m.sensors ≠ [] := by
    rw [← List.length_pos_iff]
    exact sensor_lt (by decide) hfew
  -- nothing more is asked of it
  have hnothing : ∀ e : ScanState, e.addressIndex = k → e.done = false →
      Needs SENSOR itemSize now fleet (Here k) e.next inMain inState := by
    intro e hindex hgoing state main hmain hstate hhere
    exact hthen _ (comes_next hk hindex hgoing) state main hmain hstate hhere.1
  have hanswered : d.answered SENSOR .queryCapabilities (m.reply .queryCapabilities) =
      if m.type = SENSOR then
        if 0 < BitVec.ofNat 8 m.sensors.length then
          ({ d with type := m.type, numberOfSensors := BitVec.ofNat 8 m.sensors.length, sensor := 0 } :
            ScanState).askSensor
        else
          ({ d with type := m.type, numberOfSensors := BitVec.ofNat 8 m.sensors.length } :
            ScanState).next
      else
        ({ d with type := m.type, numberOfSensors := BitVec.ofNat 8 m.sensors.length } :
          ScanState).next := rfl
  unfold mainCost stateCost
  by_cases hmore : m.type = SENSOR ∧ m.sensors ≠ []
  · rw [if_pos hmore, if_pos hmore]
    obtain ⟨x, rest, hsensors⟩ := List.exists_cons_of_ne_nil hmore.2
    rw [if_pos hmore.1, if_pos (hpositive.mpr hmore.2)] at hanswered
    have hasked : At k (.querySensorCapabilities (BitVec.ofNat 8 ([] : List Sensor).length))
        (d.answered SENSOR .queryCapabilities (m.reply .queryCapabilities)) := by
      rw [hanswered]
      refine ⟨hat.index, ?_, hat.going⟩
      unfold ScanState.askSensor
      dsimp only
      rw [hat.index]
      rfl
    have hneeds := sensors_needs hm rest (fun d' hat' => firmware_needs hk hm hat' hthen) [] x _
      hsensors hasked (by rw [hanswered]; rfl) (by rw [hanswered]; rfl)
    rw [← hsensors] at hneeds
    exact (capabilities_needs hk hm hat hneeds).of_eq (by omega)
      (by unfold seenCost; omega)
  · rw [if_neg hmore, if_neg hmore]
    have hneeds : Needs SENSOR itemSize now fleet (Here k)
        (d.answered SENSOR .queryCapabilities (m.reply .queryCapabilities)) inMain inState := by
      rw [hanswered]
      split
      · next htype =>
          split
          · next hpos => exact absurd ⟨htype, hpositive.mp hpos⟩ hmore
          · exact hnothing _ hat.index hat.going
      · exact hnothing _ hat.index hat.going
    exact (capabilities_needs hk hm hat hneeds).of_eq (by omega) (by unfold seenCost; omega)

/-- **One address**: its module, or silence. -/
theorem address_needs (hk : k < 3) (hthen : Ready SENSOR itemSize now fleet (k + 1) inMain inState) :
    Ready SENSOR itemSize now fleet k
      (((fleet (addresses k)).map (mainCost SENSOR)).getD 0 + inMain)
      (((fleet (addresses k)).map (stateCost SENSOR)).getD 0 + inState) := by
  intro d hcomes
  unfold Comes at hcomes
  rw [if_pos hk] at hcomes
  cases hm : fleet (addresses k) with
  | some m => exact module_needs hk hm hcomes hthen
  | none =>
      have hreply : replies fleet (addresses k) .queryCapabilities = none := by
        unfold replies
        rw [hm, Option.map_none]
      have hfinish : d.finish SENSOR (replies fleet) = d.next := by
        unfold ScanState.finish
        rw [hcomes.asked]
        dsimp only
        rw [hreply]
        rfl
      have hmain : ∀ main : Pool, main.frozen = false →
          Charges (receive itemSize (fleet (addresses k)) .queryCapabilities main) main.remaining 0
            id fun _ => True := by
        intro main hfrozen
        rw [hm]
        exact Or.inl ⟨Nat.zero_le _, main, rfl, rfl, hfrozen, trivial⟩
      have hstate : ∀ s : Modules, s.pool.frozen = false → Upto k s →
          Charges (mergeFinished now (addresses d.addressIndex) .queryCapabilities
            (replies fleet (addresses k) .queryCapabilities) s) s.pool.remaining 0 (·.pool)
            (Upto (k + 1)) := by
        intro s hfrozen hupto
        rw [hreply]
        exact Or.inl ⟨Nat.zero_le _, s, rfl, rfl, hfrozen, hupto.next⟩
      have hnext := hthen d.next (comes_next hk hcomes.index hcomes.going)
      rw [← hfinish] at hnext
      exact needs_step hcomes.asked hcomes.going hmain hstate hnext

end Module

/-- What a scan needs from its beginning on. -/
theorem scan_needs (SENSOR : BitVec 8) (itemSize : Nat) (now : BitVec 32) (fleet : Fleet) :
    Needs SENSOR itemSize now fleet (Upto 0) ScanState.scan (total (mainCost SENSOR) fleet)
      (total (stateCost SENSOR) fleet) := by
  have hlast : Ready SENSOR itemSize now fleet 3 0 0 := fun d hd => needs_done _ hd
  have hall := address_needs (k := 0) (by decide) (address_needs (by decide)
    (address_needs (by decide) hlast))
  exact hall ScanState.scan (comes_resume (by decide) rfl rfl)

/-- Nothing is in a cleared list. -/
theorem upto_cleared : Upto 0 {} := fun _ hm => nomatch hm

/-- **A scan of modules that answer properly is completed, from cleared pools, exactly if they fit:
    their decoded strings in the Main pool, and the modules with their arrays and copied strings in
    the pool of `CoreState`.** -/
theorem fleet_completes_iff (SENSOR : BitVec 8) (itemSize : Nat) (now : BitVec 32) (fleet : Fleet) :
    Completes SENSOR itemSize now fleet {} ↔
      total (mainCost SENSOR) fleet ≤ 512 ∧ total (stateCost SENSOR) fleet ≤ 2048 :=
  scan_needs SENSOR itemSize now fleet {} (.empty 512) rfl rfl upto_cleared

end Scan

/-- The bytes of the strings of a reply. Up to 128 of them, with whatever numbers, tags and lengths a
    reply has besides, fit a transfer of 255 bytes. -/
def Answering.text (m : Answering) (q : ScanQuery) : Nat :=
  ((m.strings q).map fun p => p.2.length).sum

/-- A sensor with a name of eight bytes and a unit of four. -/
def eightAndFour : Sensor where
  name := List.replicate 8 97
  unitOfMeasure := List.replicate 4 97

/-- A module of thirty-two such sensors. -/
def thirtyTwo : Answering where
  type := 1
  name := [97]
  module := [97]
  git := [97]
  build := [97]
  sensors := List.replicate 32 eightAndFour

/-- It is the only module. -/
def onlyThirtyTwo : Fleet := fun a => if a = 8 then some thirtyTwo else none

/-- Each of its replies is short. -/
theorem thirtyTwo_text (q : ScanQuery) : thirtyTwo.text q ≤ 128 := by
  cases q with
  | queryCapabilities => decide
  | queryFirmware => decide
  | querySensorCapabilities sensor =>
      unfold Answering.text Answering.strings Answering.sensor thirtyTwo
      dsimp only
      rw [List.getElem?_replicate]
      split
      · decide
      · decide

/-- **One module with as many sensors as there may be**: their decoded names take more than the Main
    pool has. -/
theorem names_beyond_pool : ¬ ∀ (SENSOR : BitVec 8) (itemSize : Nat) (now : BitVec 32)
    (fleet : Fleet), total (fun m => m.sensors.length) fleet ≤ 32 →
      (∀ address m, fleet address = some m → ∀ q, m.text q ≤ 128) →
      Completes SENSOR itemSize now fleet {} := by
  intro hall
  have htext : ∀ address m, onlyThirtyTwo address = some m → ∀ q, m.text q ≤ 128 := by
    intro address m hm q
    unfold onlyThirtyTwo at hm
    split at hm
    · cases hm
      exact thirtyTwo_text q
    · cases hm
  have hcompletes := hall 1 16 0 onlyThirtyTwo (by decide +kernel) htext
  have hneeds := (scan_needs 1 16 0 onlyThirtyTwo {} (.empty 512) rfl rfl upto_cleared).mp hcompletes
  have hmain : total (mainCost 1) onlyThirtyTwo = 656 := by decide +kernel
  rw [hmain] at hneeds
  exact absurd hneeds.1 (by decide)

end FieldKit.ScanMemory

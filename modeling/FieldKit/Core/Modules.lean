/-
  File:      FieldKit/Core/Modules.lean
  Subject:   The attached modules in `CoreState` (core_state.cpp, module_info.h).

  A module is described by what it replies. Its two arrays are made when it is seen for the first
  time, as long as its first reply tells; their memory is not cleared. Other replies set the number
  of sensors, or carry an index into the arrays.

  Beside the list stands every access to an array: the index, and how many elements there are.

  * `sound_iff` -- in a run, the arrays hold all sensors and every access is inside them exactly if
    no known module announces more sensors than it has room for, and no reply names a sensor
    beyond;
  * `sensors_announced` -- a module that is asked twice.
-/
import FieldKit.Lib.Run
import FieldKit.Module.Messages
import FieldKit.Pool

namespace FieldKit.Attached

open Lib

/-! ## 1. Modules -/

/-- `SensorInfo`. -/
structure SensorInfo where
  name : Text
  unitOfMeasure : Text
  deriving DecidableEq, Repr

/-- `SensorReadingStatus`. -/
inductive SensorReadingStatus where
  | Idle
  | Busy
  | Done
  deriving DecidableEq, Repr

/-- `SensorReading`; `value` holds the bits of the float. -/
structure SensorReading where
  time : BitVec 32
  value : BitVec 32
  status : SensorReadingStatus
  deriving DecidableEq, Repr

/-- `ModuleInfo`, with its two arrays. An element that nothing was written to yet is `none`. -/
structure ModuleInfo where
  type : BitVec 8 := 0
  address : Address := 0
  numberOfSensors : BitVec 8 := 0
  minimumNumberOfReadings : BitVec 8 := 0
  name : Text := []
  module : Text := []
  sensors : List (Option SensorInfo)
  readings : List (Option SensorReading)
  compiled : BitVec 32 := 0
  uptime : BitVec 8 := 0
  deriving DecidableEq, Repr

/-- The sizes of `ModuleInfo`, `SensorInfo` and `SensorReading` where pointers have four bytes. -/
def moduleInfoSize : Nat := 32
def sensorInfoSize : Nat := 8
def sensorReadingSize : Nat := 12

/-- An access to an array. -/
structure Access where
  index : Nat
  size : Nat
  deriving DecidableEq, Repr

/-- The list of attached modules, its pool, and the accesses to their arrays so far. -/
structure Modules where
  pool : Pool := Pool.empty 2048
  modules : List ModuleInfo := []
  accesses : List Access := []

/-- What the memory of an element holds that nothing was written to. -/
abbrev Stale := ModuleInfo → Nat → SensorReading

namespace Modules

/-- Accesses are written down. -/
def access (as : List Access) (s : Modules) : Modules := { s with accesses := s.accesses ++ as }

/-- `getModule(address)`, the position in the list; `none` is its failed assertion. -/
def getModule (address : Address) (s : Modules) : Option Nat :=
  s.modules.findIdx? fun m => decide (m.address = address)

/-- `getOrCreateModule(address, numberOfSensors)`, with the position in the list. -/
def getOrCreateModule (address : Address) (numberOfSensors : BitVec 8) (s : Modules) :
    Option (Nat × Modules) :=
  match s.getModule address with
  | some k => some (k, s)
  | none => do
    let n := numberOfSensors.toNat
    let pool ← s.pool.malloc moduleInfoSize
    let pool ← pool.malloc (sensorInfoSize * n)
    let pool ← pool.malloc (sensorReadingSize * n)
    let module : ModuleInfo :=
      { sensors := List.replicate n none, readings := List.replicate n none }
    return (s.modules.length, { s with pool, modules := s.modules ++ [module] })

/-- What REPLY_CAPABILITIES writes into a module. -/
def describe (address : Address) (c : Capabilities) (m : ModuleInfo) : ModuleInfo :=
  { m with
    address := address
    type := c.type
    numberOfSensors := BitVec.ofNat 8 c.numberOfSensors
    minimumNumberOfReadings := BitVec.ofNat 8 c.minimumNumberOfReadings
    name := c.name
    module := c.module
    compiled := c.compiled
    uptime := c.requiredUptime }

/-- `merge(address, reply)` of REPLY_CAPABILITIES. A string is what its `arg` points to. -/
def mergeCapabilities (address : Address) (c : Capabilities) (s : Modules) : Option Modules := do
  let (k, s) ← s.getOrCreateModule address (BitVec.ofNat 8 c.numberOfSensors)
  let pool ← s.pool.strdup (some c.name)
  let pool ← pool.strdup (some c.module)
  return { s with pool, modules := s.modules.modify k (describe address c) }

/-- What REPLY_SENSOR_CAPABILITIES writes into a module. -/
def nameSensor (c : SensorCapabilities) (m : ModuleInfo) : ModuleInfo :=
  { m with
    sensors := m.sensors.set c.id (some { name := c.name, unitOfMeasure := c.unitOfMeasure }) }

/-- `merge(address, reply)` of REPLY_SENSOR_CAPABILITIES. -/
def mergeSensorCapabilities (address : Address) (c : SensorCapabilities) (s : Modules) :
    Option Modules := do
  let k ← s.getModule address
  let m ← s.modules[k]?
  let pool ← s.pool.strdup (some c.name)
  let pool ← pool.strdup (some c.unitOfMeasure)
  return { s with pool, modules := s.modules.modify k (nameSensor c) }.access
    [⟨c.id, m.sensors.length⟩]

/-- `isTimeOff(time)`. The `abs` is that of a `long`: a difference of `2^31` stays negative, and counts as
    none. -/
def isTimeOff (now time : BitVec 32) : Bool :=
  decide (time = 0) || (5 * 60 : BitVec 32).slt (now - time).abs

/-- What a reading writes into a module. `sensor` is a `uint8_t`. -/
def storeReading (now : BitVec 32) (incoming : IncomingSensorReading) (m : ModuleInfo) :
    ModuleInfo :=
  let time := if isTimeOff now incoming.time then now else incoming.time
  { m with
    readings := m.readings.set (incoming.sensor % 256)
      (some { time, value := incoming.value, status := .Done }) }

/-- `merge(module, incoming)`, without the appended reading. -/
def mergeReading (now : BitVec 32) (k : Nat) (incoming : IncomingSensorReading) (s : Modules) :
    Option Modules := do
  let m ← s.modules[k]?
  let sensor := incoming.sensor % 256
  return { s with modules := s.modules.modify k (storeReading now incoming) }.access
    [⟨sensor, m.readings.length⟩, ⟨sensor, m.sensors.length⟩]

/-- `merge(address, reply)`, at `now`. -/
def merge (now : BitVec 32) (address : Address) (reply : ModuleReplyMessage) (s : Modules) :
    Option Modules :=
  match reply.type with
  | .REPLY_CAPABILITIES => s.mergeCapabilities address reply.capabilities
  | .REPLY_SENSOR_CAPABILITIES => s.mergeSensorCapabilities address reply.sensorCapabilities
  | .REPLY_READING_STATUS => do
    let k ← s.getModule address
    if reply.readingStatus.state = .DONE then s.mergeReading now k reply.sensorReading
    else return s
  | _ => some s

/-- `scanFailure()`; `started()` does the same with the list. -/
def scanFailure (s : Modules) : Modules := { s with pool := s.pool.clear, modules := [] }

/-- The sensors that the loops over all modules visit. -/
def visited (s : Modules) : List (ModuleInfo × Nat) :=
  s.modules.flatMap fun m => (List.range m.numberOfSensors.toNat).map fun j => (m, j)

/-- The access to `m->readings[j].status` in these loops. -/
def statusAccess (p : ModuleInfo × Nat) : Access := ⟨p.2, p.1.readings.length⟩

/-- `m->readings[j]`, as it is read. -/
def reading (stale : Stale) (m : ModuleInfo) (j : Nat) : SensorReading :=
  ((m.readings[j]?).getD none).getD (stale m j)

/-- `numberOfReadings()`. -/
def numberOfReadings (stale : Stale) (s : Modules) : Nat × Modules :=
  (s.visited.countP fun (m, j) => decide ((reading stale m j).status = .Done),
    s.access (s.visited.map statusAccess))

/-- The loop of `getReading`: what it finds, and the accesses on the way. -/
def findReading (stale : Stale) (index : Nat) :
    Nat → List (ModuleInfo × Nat) → Option (ModuleInfo × Nat) × List Access
  | _, [] => (none, [])
  | number, (m, j) :: rest =>
    if (reading stale m j).status = .Done then
      if number = index then
        (some (m, j), [statusAccess (m, j), ⟨j, m.sensors.length⟩, ⟨j, m.readings.length⟩])
      else
        let (found, as) := findReading stale index (number + 1) rest
        (found, statusAccess (m, j) :: as)
    else
      let (found, as) := findReading stale index number rest
      (found, statusAccess (m, j) :: as)

/-- `getReading(index)`; `none` is its failed assertion. -/
def getReading (stale : Stale) (index : Nat) (s : Modules) :
    Option ((Nat × Option SensorInfo × SensorReading) × Modules) :=
  let (found, as) := findReading stale index 0 s.visited
  found.map fun (m, j) => ((j, (m.sensors[j]?).getD none, reading stale m j), s.access as)

/-- `clearReadings()` of one module. -/
def clearModule (stale : Stale) (m : ModuleInfo) : ModuleInfo :=
  { m with
    readings := m.readings.mapIdx fun j r =>
      if j < m.numberOfSensors.toNat then some { r.getD (stale m j) with status := .Idle } else r }

/-- `clearReadings()`. -/
def clearReadings (stale : Stale) (s : Modules) : Modules :=
  { s with modules := s.modules.map (clearModule stale) }.access
    (s.visited.map statusAccess)

end Modules

/-! ## 2. The machine -/

/-- What is done with the list. -/
inductive Input where
  | merge (now : BitVec 32) (address : Address) (reply : ModuleReplyMessage)
  | scanFailure
  | numberOfReadings (stale : Stale)
  | getReading (stale : Stale) (index : Nat)
  | clearReadings (stale : Stale)

/-- The machine. A step is refused exactly where an assertion of the source fails. -/
def step (s : Modules) : Input → Option Modules
  | .merge now address reply => s.merge now address reply
  | .scanFailure => some s.scanFailure
  | .numberOfReadings stale => some (s.numberOfReadings stale).2
  | .getReading stale index => (s.getReading stale index).map Prod.snd
  | .clearReadings stale => some (s.clearReadings stale)

/-- **The arrays of every module hold its sensors, every access was inside its array, and no two
    modules have the same address.** -/
structure Sound (s : Modules) : Prop where
  sensors : ∀ m ∈ s.modules, m.numberOfSensors.toNat ≤ m.sensors.length
  readings : ∀ m ∈ s.modules, m.numberOfSensors.toNat ≤ m.readings.length
  inside : ∀ a ∈ s.accesses, a.index < a.size
  distinct : (s.modules.map (·.address)).Nodup

/-- The module at an address that is known. -/
def known (address : Address) (s : Modules) : Option ModuleInfo :=
  (s.getModule address).bind fun k => s.modules[k]?

/-- **A reply fits a module**: its sensors have room, and the sensor it names is one of them. -/
def FitsModule (reply : ModuleReplyMessage) (m : ModuleInfo) : Prop :=
  match reply.type with
  | .REPLY_CAPABILITIES =>
    reply.capabilities.numberOfSensors % 256 ≤ m.sensors.length ∧
      reply.capabilities.numberOfSensors % 256 ≤ m.readings.length
  | .REPLY_SENSOR_CAPABILITIES => reply.sensorCapabilities.id < m.sensors.length
  | .REPLY_READING_STATUS =>
    reply.readingStatus.state = .DONE →
      reply.sensorReading.sensor % 256 < m.readings.length ∧
        reply.sensorReading.sensor % 256 < m.sensors.length
  | _ => True

/-- A reply fits the module that is known at its address, if there is one. -/
def Fits (s : Modules) : Input → Prop
  | .merge _ address reply => ∀ m, known address s = some m → FitsModule reply m
  | _ => True

/-! ## 3. What one operation does -/

/-- The element behind a part of a list. -/
theorem modify_append_cons {α : Type} (pre : List α) (m : α) (post : List α) (f : α → α) :
    (pre ++ m :: post).modify pre.length f = pre ++ f m :: post := by
  induction pre with
  | nil => rfl
  | cons x pre ih => exact congrArg (x :: ·) ih

/-- An element of a list in which one was replaced. -/
theorem mem_replaced {α : Type} {pre post : List α} {m m' x : α} (hx : x ∈ pre ++ m' :: post) :
    x = m' ∨ x ∈ pre ++ m :: post := by
  rcases List.mem_append.mp hx with hx | hx
  · exact Or.inr (List.mem_append_left _ hx)
  · rcases List.mem_cons.mp hx with rfl | hx
    · exact Or.inl rfl
    · exact Or.inr (List.mem_append_right _ (List.mem_cons_of_mem _ hx))

section Steps

variable {s s' : Modules}

/-- **What `getModule` finds**: the first module at the address, if there is one. -/
theorem getModule_cases (address : Address) (s : Modules) :
    (s.getModule address = none ∧ ∀ m ∈ s.modules, m.address ≠ address) ∨
      ∃ pre m post, s.modules = pre ++ m :: post ∧ s.getModule address = some pre.length ∧
        m.address = address ∧ known address s = some m := by
  unfold known
  cases hk : s.getModule address with
  | none =>
      refine Or.inl ⟨rfl, fun m hm => ?_⟩
      have hnot := List.findIdx?_eq_none_iff.mp hk m hm
      exact of_decide_eq_false hnot
  | some k =>
      obtain ⟨hlt, hmatch, _⟩ := List.findIdx?_eq_some_iff_getElem.mp hk
      refine Or.inr ⟨s.modules.take k, s.modules[k], s.modules.drop (k + 1), ?_, ?_, ?_, ?_⟩
      · rw [← List.drop_eq_getElem_cons hlt, List.take_append_drop]
      · rw [List.length_take_of_le hlt.le]
      · exact of_decide_eq_true hmatch
      · rw [Option.bind_some, List.getElem?_eq_getElem hlt]

/-- One module replaced by another at its address leaves the addresses as they are. -/
theorem addresses_replaced {pre post : List ModuleInfo} {m m' : ModuleInfo}
    (hmodules : s.modules = pre ++ m :: post) (hmodules' : s'.modules = pre ++ m' :: post)
    (haddress : m'.address = m.address) :
    s'.modules.map (·.address) = s.modules.map (·.address) := by
  rw [hmodules, hmodules', List.map_append, List.map_append, List.map_cons, List.map_cons,
    haddress]

/-- What has to hold of a module that takes the place of another, and of the accesses made. -/
def FitsIn (m : ModuleInfo) (as : List Access) : Prop :=
  (m.numberOfSensors.toNat ≤ m.sensors.length ∧ m.numberOfSensors.toNat ≤ m.readings.length) ∧
    ∀ a ∈ as, a.index < a.size

/-- **One module replaced by another at its address.** -/
theorem sound_replace {pre post : List ModuleInfo} {m m' : ModuleInfo} {as : List Access}
    (hs : Sound s) (hmodules : s.modules = pre ++ m :: post)
    (hmodules' : s'.modules = pre ++ m' :: post) (haddress : m'.address = m.address)
    (haccesses : s'.accesses = s.accesses ++ as) : Sound s' ↔ FitsIn m' as := by
  constructor
  · intro hs'
    have hm' : m' ∈ s'.modules := by
      rw [hmodules']
      exact List.mem_append_right _ List.mem_cons_self
    refine ⟨⟨hs'.sensors m' hm', hs'.readings m' hm'⟩, fun a ha => hs'.inside a ?_⟩
    rw [haccesses]
    exact List.mem_append_right _ ha
  · intro h
    obtain ⟨⟨hsensors, hreadings⟩, hinside⟩ := h
    have hold : ∀ x ∈ s'.modules, x = m' ∨ x ∈ s.modules := by
      intro x hx
      rw [hmodules'] at hx
      rw [hmodules]
      exact mem_replaced hx
    refine ⟨fun x hx => ?_, fun x hx => ?_, fun a ha => ?_, ?_⟩
    · rcases hold x hx with rfl | hx
      · exact hsensors
      · exact hs.sensors x hx
    · rcases hold x hx with rfl | hx
      · exact hreadings
      · exact hs.readings x hx
    · rw [haccesses] at ha
      rcases List.mem_append.mp ha with ha | ha
      · exact hs.inside a ha
      · exact hinside a ha
    · rw [addresses_replaced hmodules hmodules' haddress]
      exact hs.distinct

/-- The accesses of a step that leaves the list alone. -/
theorem sound_access {as : List Access} (hs : Sound s) (hinside : ∀ a ∈ as, a.index < a.size) :
    Sound (s.access as) := by
  refine ⟨hs.sensors, hs.readings, fun a ha => ?_, hs.distinct⟩
  rcases List.mem_append.mp ha with ha | ha
  · exact hs.inside a ha
  · exact hinside a ha

/-- **What capabilities do**: a new module at the end of the list, with room for its sensors, or
    another description of a module that is there. -/
theorem mergeCapabilities_cases {address : Address} {c : Capabilities}
    (h : s.mergeCapabilities address c = some s') :
    s'.accesses = s.accesses ∧
      (((∀ m ∈ s.modules, m.address ≠ address) ∧ known address s = none ∧
          s'.modules = s.modules ++ [Modules.describe address c
            { sensors := List.replicate (BitVec.ofNat 8 c.numberOfSensors).toNat none
              readings := List.replicate (BitVec.ofNat 8 c.numberOfSensors).toNat none }] ∧
          s.pool.mallocs
            [moduleInfoSize, sensorInfoSize * (BitVec.ofNat 8 c.numberOfSensors).toNat,
              sensorReadingSize * (BitVec.ofNat 8 c.numberOfSensors).toNat, c.name.length + 1,
              c.module.length + 1] = some s'.pool) ∨
        ∃ pre m post, s.modules = pre ++ m :: post ∧ m.address = address ∧
          known address s = some m ∧
          s'.modules = pre ++ Modules.describe address c m :: post ∧
          s.pool.mallocs [c.name.length + 1, c.module.length + 1] = some s'.pool) := by
  unfold Modules.mergeCapabilities Modules.getOrCreateModule at h
  rcases getModule_cases address s with ⟨hnone, hnew⟩ | ⟨pre, m, post, hmodules, hk, ha, hknown⟩
  · rw [hnone] at h
    simp only [Option.bind_eq_bind, Option.bind_eq_some_iff, Option.pure_def,
      Option.some.injEq] at h
    obtain ⟨⟨k, s₁⟩, ⟨p₁, hp₁, p₂, hp₂, p₃, hp₃, heq⟩, p₄, hp₄, p₅, hp₅, rfl⟩ := h
    cases heq
    unfold Pool.strdup at hp₄ hp₅
    refine ⟨rfl, Or.inl ⟨hnew, ?_, ?_, ?_⟩⟩
    · unfold known
      rw [hnone]
      rfl
    · dsimp only
      exact modify_append_cons s.modules _ [] _
    · dsimp only at hp₄ hp₅ ⊢
      simp only [Pool.mallocs, hp₁, hp₂, hp₃, hp₄, hp₅, Option.bind_some]
  · rw [hk] at h
    simp only [Option.bind_eq_bind, Option.bind_some, Option.bind_eq_some_iff, Option.pure_def,
      Option.some.injEq] at h
    obtain ⟨p₄, hp₄, p₅, hp₅, rfl⟩ := h
    unfold Pool.strdup at hp₄ hp₅
    refine ⟨rfl, Or.inr ⟨pre, m, post, hmodules, ha, hknown, ?_, ?_⟩⟩
    · dsimp only
      rw [hmodules]
      exact modify_append_cons pre m post _
    · dsimp only at hp₄ hp₅ ⊢
      simp only [Pool.mallocs, hp₄, hp₅, Option.bind_some]

/-- **What sensor capabilities do**: one element of the array is written. -/
theorem mergeSensorCapabilities_cases {address : Address} {c : SensorCapabilities}
    (h : s.mergeSensorCapabilities address c = some s') :
    ∃ pre m post, s.modules = pre ++ m :: post ∧ m.address = address ∧
      known address s = some m ∧
      s'.modules = pre ++ Modules.nameSensor c m :: post ∧
      s'.accesses = s.accesses ++ [⟨c.id, m.sensors.length⟩] ∧
      s.pool.mallocs [c.name.length + 1, c.unitOfMeasure.length + 1] = some s'.pool := by
  unfold Modules.mergeSensorCapabilities at h
  rcases getModule_cases address s with ⟨hnone, _⟩ | ⟨pre, m, post, hmodules, hk, ha, hknown⟩
  · rw [hnone] at h
    cases h
  · rw [hk] at h
    have hm : s.modules[pre.length]? = some m := by
      rw [hmodules]
      simp
    simp only [Option.bind_eq_bind, Option.bind_some, hm, Option.bind_eq_some_iff,
      Option.pure_def, Option.some.injEq] at h
    obtain ⟨p₁, hp₁, p₂, hp₂, rfl⟩ := h
    unfold Pool.strdup at hp₁ hp₂
    refine ⟨pre, m, post, hmodules, ha, hknown, ?_, rfl, ?_⟩
    · show s.modules.modify pre.length _ = _
      rw [hmodules, modify_append_cons]
    · show _ = some p₂
      dsimp only at hp₁ hp₂
      simp only [Pool.mallocs, hp₁, hp₂, Option.bind_some]

/-- **What a reading does**: one element of the other array is written. -/
theorem mergeReading_cases {now : BitVec 32} {address : Address}
    {incoming : IncomingSensorReading} {k : Nat} (hk : s.getModule address = some k)
    (h : s.mergeReading now k incoming = some s') :
    ∃ pre m post, s.modules = pre ++ m :: post ∧ m.address = address ∧
      known address s = some m ∧
      s'.modules = pre ++ Modules.storeReading now incoming m :: post ∧
      s'.accesses = s.accesses ++
        [⟨incoming.sensor % 256, m.readings.length⟩, ⟨incoming.sensor % 256, m.sensors.length⟩] ∧
      s'.pool = s.pool := by
  unfold Modules.mergeReading at h
  rcases getModule_cases address s with ⟨hnone, _⟩ | ⟨pre, m, post, hmodules, hk', ha, hknown⟩
  · rw [hnone] at hk
    cases hk
  · rw [hk'] at hk
    cases hk
    have hm : s.modules[pre.length]? = some m := by
      rw [hmodules]
      simp
    simp only [Option.bind_eq_bind, Option.bind_some, hm, Option.pure_def,
      Option.some.injEq] at h
    subst h
    refine ⟨pre, m, post, hmodules, ha, hknown, ?_, rfl, rfl⟩
    show s.modules.modify pre.length _ = _
    rw [hmodules, modify_append_cons]

/-- **What a merge does to the list**: nothing, one module more at its end, or one module at the
    address replaced by another. -/
theorem merge_modules {now : BitVec 32} {address : Address} {reply : ModuleReplyMessage}
    (h : s.merge now address reply = some s') :
    s'.modules = s.modules ∨ (∃ m, m.address = address ∧ s'.modules = s.modules ++ [m]) ∨
      ∃ pre m m' post, s.modules = pre ++ m :: post ∧ s'.modules = pre ++ m' :: post ∧
        m.address = address ∧ m'.address = address := by
  unfold Modules.merge at h
  split at h
  · obtain ⟨_, ⟨_, _, hmodules', _⟩ | ⟨pre, m, post, hmodules, ha, _, hmodules', _⟩⟩ :=
      mergeCapabilities_cases h
    · exact Or.inr (Or.inl ⟨_, rfl, hmodules'⟩)
    · exact Or.inr (Or.inr ⟨pre, m, _, post, hmodules, hmodules', ha, rfl⟩)
  · obtain ⟨pre, m, post, hmodules, ha, _, hmodules', _⟩ := mergeSensorCapabilities_cases h
    exact Or.inr (Or.inr ⟨pre, m, _, post, hmodules, hmodules', ha, ha⟩)
  · obtain ⟨k, hk, h⟩ := Option.bind_eq_some_iff.mp h
    split at h
    · obtain ⟨pre, m, post, hmodules, ha, _, hmodules', _⟩ := mergeReading_cases hk h
      exact Or.inr (Or.inr ⟨pre, m, _, post, hmodules, hmodules', ha, ha⟩)
    · cases h
      exact Or.inl rfl
  · cases h
    exact Or.inl rfl

/-- The loops over all modules stay inside. -/
theorem visited_inside (hs : Sound s) {p : ModuleInfo × Nat} (hp : p ∈ s.visited) :
    p.2 < p.1.sensors.length ∧ p.2 < p.1.readings.length := by
  obtain ⟨m, hm, hj⟩ := List.mem_flatMap.mp hp
  obtain ⟨j, hrange, rfl⟩ := List.mem_map.mp hj
  have hlt := List.mem_range.mp hrange
  exact ⟨hlt.trans_le (hs.sensors m hm), hlt.trans_le (hs.readings m hm)⟩

theorem findReading_inside (stale : Stale) (index : Nat) (ps : List (ModuleInfo × Nat))
    (hps : ∀ p ∈ ps, p.2 < p.1.sensors.length ∧ p.2 < p.1.readings.length) (number : Nat) :
    ∀ a ∈ (Modules.findReading stale index number ps).2, a.index < a.size := by
  induction ps generalizing number with
  | nil => exact fun a ha => absurd ha List.not_mem_nil
  | cons p rest ih =>
      obtain ⟨m, j⟩ := p
      obtain ⟨hsensors, hreadings⟩ := hps (m, j) List.mem_cons_self
      have hrest := ih fun q hq => hps q (List.mem_cons_of_mem _ hq)
      intro a ha
      unfold Modules.findReading at ha
      split at ha
      · split at ha
        · simp only [List.mem_cons, List.not_mem_nil, or_false] at ha
          rcases ha with rfl | rfl | rfl
          · exact hreadings
          · exact hsensors
          · exact hreadings
        · rcases List.mem_cons.mp ha with rfl | ha
          · exact hreadings
          · exact hrest _ a ha
      · rcases List.mem_cons.mp ha with rfl | ha
        · exact hreadings
        · exact hrest _ a ha

theorem statusAccess_inside (hs : Sound s) :
    ∀ a ∈ s.visited.map Modules.statusAccess, a.index < a.size := by
  intro a ha
  obtain ⟨p, hp, rfl⟩ := List.mem_map.mp ha
  exact (visited_inside hs hp).2

/-- **`clearReadings` keeps the arrays.** -/
theorem clearReadings_sound (hs : Sound s) (stale : Stale) : Sound (s.clearReadings stale) := by
  refine sound_access (s := { s with modules := _ }) ?_ (statusAccess_inside hs)
  refine ⟨fun m hm => ?_, fun m hm => ?_, hs.inside, ?_⟩
  · obtain ⟨m, hmem, rfl⟩ := List.mem_map.mp hm
    exact hs.sensors m hmem
  · obtain ⟨m, hmem, rfl⟩ := List.mem_map.mp hm
    have hlength : (Modules.clearModule stale m).readings.length = m.readings.length :=
      List.length_mapIdx
    rw [hlength]
    exact hs.readings m hmem
  · have hsame : (s.modules.map (Modules.clearModule stale)).map (·.address) =
        s.modules.map (·.address) := by
      rw [List.map_map]
      rfl
    show ((s.modules.map (Modules.clearModule stale)).map (·.address)).Nodup
    rw [hsame]
    exact hs.distinct

/-- A new module fits. -/
theorem describe_new (address : Address) (c : Capabilities) :
    FitsIn (Modules.describe address c
      { sensors := List.replicate (BitVec.ofNat 8 c.numberOfSensors).toNat none
        readings := List.replicate (BitVec.ofNat 8 c.numberOfSensors).toNat none }) [] := by
  unfold FitsIn Modules.describe
  dsimp only
  rw [List.length_replicate, List.length_replicate]
  exact ⟨⟨le_rfl, le_rfl⟩, fun a ha => absurd ha List.not_mem_nil⟩

/-- **One module more, at an address of its own.** -/
theorem sound_append {m : ModuleInfo} (hs : Sound s) (hnew : ∀ x ∈ s.modules, x.address ≠ m.address)
    (hmodules' : s'.modules = s.modules ++ [m]) (haccesses : s'.accesses = s.accesses)
    (hm : FitsIn m []) : Sound s' := by
  have hold : ∀ x ∈ s'.modules, x ∈ s.modules ∨ x = m := by
    intro x hx
    rw [hmodules'] at hx
    exact (List.mem_append.mp hx).imp_right List.mem_singleton.mp
  refine ⟨fun x hx => ?_, fun x hx => ?_, fun a ha => ?_, ?_⟩
  · rcases hold x hx with hx | rfl
    · exact hs.sensors x hx
    · exact hm.1.1
  · rcases hold x hx with hx | rfl
    · exact hs.readings x hx
    · exact hm.1.2
  · rw [haccesses] at ha
    exact hs.inside a ha
  · rw [hmodules', List.map_append]
    refine List.Nodup.append hs.distinct (List.nodup_singleton _) fun a ha ha' => ?_
    obtain ⟨x, hx, rfl⟩ := List.mem_map.mp ha
    exact hnew x hx (List.mem_singleton.mp ha')

/-- Capabilities are merged soundly exactly if the arrays have room for what they announce. -/
theorem mergeCapabilities_sound_iff {address : Address} {c : Capabilities} (hs : Sound s)
    (h : s.mergeCapabilities address c = some s') :
    Sound s' ↔ ∀ m, known address s = some m →
      c.numberOfSensors % 256 ≤ m.sensors.length ∧ c.numberOfSensors % 256 ≤ m.readings.length := by
  obtain ⟨haccesses, ⟨hnew, hknown, hmodules', _⟩ |
    ⟨pre, m, post, hmodules, ha, hknown, hmodules', _⟩⟩ := mergeCapabilities_cases h
  · rw [hknown]
    refine ⟨fun _ m hm => ?_, fun _ => ?_⟩
    · cases hm
    · exact sound_append hs hnew hmodules' haccesses (describe_new address _)
  · have hsame : (Modules.describe address c m).address = m.address := ha.symm
    rw [hknown, sound_replace hs hmodules hmodules' hsame
      (haccesses.trans (List.append_nil _).symm)]
    unfold FitsIn Modules.describe
    dsimp only
    rw [BitVec.toNat_ofNat]
    constructor
    · rintro ⟨hroom, _⟩ x hx
      cases hx
      exact hroom
    · exact fun hfits => ⟨hfits m rfl, fun a ha => nomatch ha⟩

/-- A sensor's capabilities are merged soundly exactly if there is such a sensor. -/
theorem mergeSensorCapabilities_sound_iff {address : Address} {c : SensorCapabilities}
    (hs : Sound s) (h : s.mergeSensorCapabilities address c = some s') :
    Sound s' ↔ ∀ m, known address s = some m → c.id < m.sensors.length := by
  obtain ⟨pre, m, post, hmodules, ha, hknown, hmodules', haccesses, _⟩ :=
    mergeSensorCapabilities_cases h
  have hm : m ∈ s.modules := by
    rw [hmodules]
    exact List.mem_append_right _ List.mem_cons_self
  have hsame : (Modules.nameSensor c m).address = m.address := rfl
  rw [hknown, sound_replace hs hmodules hmodules' hsame haccesses]
  unfold FitsIn Modules.nameSensor
  dsimp only
  rw [List.length_set]
  constructor
  · rintro ⟨_, hinside⟩ x hx
    cases hx
    exact hinside _ (List.mem_singleton_self _)
  · intro hfits
    refine ⟨⟨hs.sensors m hm, hs.readings m hm⟩, fun a ha => ?_⟩
    rw [List.mem_singleton.mp ha]
    exact hfits m rfl

/-- A reading is merged soundly exactly if both arrays have its sensor. -/
theorem mergeReading_sound_iff {now : BitVec 32} {address : Address}
    {incoming : IncomingSensorReading} {k : Nat} (hs : Sound s)
    (hk : s.getModule address = some k) (h : s.mergeReading now k incoming = some s') :
    Sound s' ↔ ∀ m, known address s = some m →
      incoming.sensor % 256 < m.readings.length ∧ incoming.sensor % 256 < m.sensors.length := by
  obtain ⟨pre, m, post, hmodules, ha, hknown, hmodules', haccesses, _⟩ := mergeReading_cases hk h
  have hm : m ∈ s.modules := by
    rw [hmodules]
    exact List.mem_append_right _ List.mem_cons_self
  have hsame : (Modules.storeReading now incoming m).address = m.address := rfl
  rw [hknown, sound_replace hs hmodules hmodules' hsame haccesses]
  unfold FitsIn Modules.storeReading
  dsimp only
  rw [List.length_set]
  constructor
  · rintro ⟨_, hinside⟩ x hx
    cases hx
    exact ⟨hinside _ List.mem_cons_self,
      hinside _ (List.mem_cons_of_mem _ (List.mem_singleton_self _))⟩
  · intro hfits
    obtain ⟨hreadings, hsensors⟩ := hfits m rfl
    refine ⟨⟨hs.sensors m hm, hs.readings m hm⟩, fun a ha => ?_⟩
    rcases List.mem_cons.mp ha with rfl | ha
    · exact hreadings
    · rw [List.mem_singleton.mp ha]
      exact hsensors

/-- **A reply is merged soundly exactly if it fits its module.** -/
theorem merge_sound_iff {now : BitVec 32} {address : Address} {reply : ModuleReplyMessage}
    (hs : Sound s) (h : s.merge now address reply = some s') :
    Sound s' ↔ Fits s (.merge now address reply) := by
  unfold Modules.merge at h
  cases htype : reply.type with
  | REPLY_CAPABILITIES =>
      rw [htype] at h
      simp only [Fits, FitsModule, htype]
      exact mergeCapabilities_sound_iff hs h
  | REPLY_SENSOR_CAPABILITIES =>
      rw [htype] at h
      simp only [Fits, FitsModule, htype]
      exact mergeSensorCapabilities_sound_iff hs h
  | REPLY_READING_STATUS =>
      rw [htype] at h
      simp only [Fits, FitsModule, htype]
      obtain ⟨k, hk, h⟩ := Option.bind_eq_some_iff.mp h
      by_cases hdone : reply.readingStatus.state = .DONE
      · rw [if_pos hdone] at h
        rw [mergeReading_sound_iff hs hk h]
        exact ⟨fun hfits m hm _ => hfits m hm, fun hfits m hm => hfits m hm hdone⟩
      · rw [if_neg hdone] at h
        cases h
        exact ⟨fun _ _ _ hd => absurd hd hdone, fun _ => hs⟩
  | _ =>
      rw [htype] at h
      cases h
      simp only [Fits, FitsModule, htype]
      exact ⟨fun _ _ _ => trivial, fun _ => hs⟩

/-- **What one step does to the arrays.** -/
theorem step_sound_iff {i : Input} (hs : Sound s) (h : step s i = some s') :
    Sound s' ↔ Fits s i := by
  cases i with
  | merge now address reply => exact merge_sound_iff hs h
  | scanFailure =>
      cases h
      refine ⟨fun _ => trivial, fun _ => ⟨?_, ?_, hs.inside, List.nodup_nil⟩⟩
      · exact fun m hm => absurd hm List.not_mem_nil
      · exact fun m hm => absurd hm List.not_mem_nil
  | numberOfReadings stale =>
      cases h
      exact ⟨fun _ => trivial, fun _ => sound_access hs (statusAccess_inside hs)⟩
  | getReading stale index =>
      refine ⟨fun _ => trivial, fun _ => ?_⟩
      obtain ⟨r, hr, rfl⟩ := Option.map_eq_some_iff.mp h
      unfold Modules.getReading at hr
      obtain ⟨p, _, rfl⟩ := Option.map_eq_some_iff.mp hr
      exact sound_access hs (findReading_inside stale index _ (fun q hq => visited_inside hs hq) 0)
  | clearReadings stale =>
      cases h
      exact ⟨fun _ => trivial, fun _ => clearReadings_sound hs stale⟩

end Steps

theorem sound_start : Sound {} where
  sensors _ hm := absurd hm List.not_mem_nil
  readings _ hm := absurd hm List.not_mem_nil
  inside _ ha := absurd ha List.not_mem_nil
  distinct := List.nodup_nil

/-- **The arrays are sound all along a run exactly if every reply fits its module.** -/
theorem sound_iff {tr : List (Modules × Input)} {s : Modules} (h : Run step {} tr s) :
    (Meets (fun s _ => Sound s) tr ∧ Sound s) ↔ Meets Fits tr :=
  h.meets_iff Fits Sound Sound sound_start (fun _ hs => hs) fun _ _ _ hs hstep =>
    ⟨(step_sound_iff hs hstep).mpr, (step_sound_iff hs hstep).mp⟩

/-- Capabilities of `n` sensors. -/
def announce (n : Nat) : ModuleReplyMessage :=
  { type := .REPLY_CAPABILITIES, capabilities := { numberOfSensors := n } }

/-- The module at address 8 announces one sensor, and then three: the arrays still have one. -/
theorem sensors_announced : ¬ ∀ (tr : List (Modules × Input)) (s : Modules),
    Run step {} tr s → Sound s := by
  intro hall
  have hexec : (exec step {} [.merge 0 8 (announce 1), .merge 0 8 (announce 3)]).map
      (fun s => s.modules.map fun m => (m.numberOfSensors, m.sensors.length)) =
    some [(3, 1)] := by decide +kernel
  obtain ⟨tr, s, hrun, hs⟩ := run_of_exec_map hexec
  obtain ⟨m, hm⟩ := List.map_eq_singleton_iff.mp hs
  have hsensors := (hall tr s hrun).sensors m (by rw [hm.1]; exact List.mem_singleton_self m)
  obtain ⟨hn, hlength⟩ := Prod.mk.inj hm.2
  rw [hn, hlength] at hsensors
  exact absurd hsensors (by decide)

/-- Two sensors, and a reading of the second. -/
def twoSensors : List Input :=
  [.merge 0 8 (announce 2),
   .merge 7 8 { type := .REPLY_READING_STATUS, readingStatus := { state := .DONE }
                sensorReading := { sensor := 1, time := 7 } },
   .getReading (fun _ _ => { time := 0, value := 0, status := .Idle }) 0]

/-- All of it is inside. -/
theorem sound_iff_twoSensors : ∃ tr s, Run step {} tr s ∧ s.accesses.length = 6 ∧
    ((Meets (fun s _ => Sound s) tr ∧ Sound s) ↔ Meets Fits tr) := by
  have hexec : (exec step {} twoSensors).map (fun s => s.accesses.length) = some 6 := by
    decide +kernel
  obtain ⟨tr, s, hrun, hs⟩ := run_of_exec_map hexec
  exact ⟨tr, s, hrun, hs, sound_iff hrun⟩

end FieldKit.Attached

/-
  File:      FieldKit/Core/Attribution.lean
  Subject:   The data file as its reader sees it (core_state.cpp, data_logging.cpp, data_messages.cpp):
             under which metadata does a reading stand?

  A logged reading carries the number of its sensor, and nothing of its module. What that number stands
  for is in the metadata in front of it. Beside what is written of a reading stands the module into
  which it was merged.

  A record comes whole or not at all into the file, and an erased file is opened again; what fails is the
  environment's. `current` says that metadata was appended since the list of modules was last changed.

  * `sensors_tables`, `modules_tables` -- what the metadata of a list says;
  * `attributed` -- in any run in which no reading is merged inside of a scan or behind one whose
    metadata was not appended, nothing comes into an empty file in front of its metadata, and only one
    module has sensors, whoever looks up the sensor of a reading in the metadata in front of it finds
    what the module said of it.
-/
import FieldKit.Core.Metadata
import FieldKit.Core.State

namespace FieldKit.Attribution

open Lib Attached Metadata

/-! ## 1. The data file -/

/-- `loggedReading` of a record, and the module that it was merged into. -/
structure LoggedReading where
  location : DeviceLocation
  reading : BitVec 32
  time : BitVec 32
  sensor : Nat
  value : BitVec 32
  module : ModuleInfo
  deriving DecidableEq

/-- A record of the data file. -/
inductive Record where
  | metadata (message : DataRecordMetadataMessage)
  | status
  | location (fix : DeviceLocation)
  | reading (r : LoggedReading)
  deriving DecidableEq

/-- The core state, with the modules and the data file. -/
structure Core where
  core : CoreState := {}
  modules : Modules := {}
  file : List Record := []
  current : Bool := false

/-- What comes of the metadata and of the record behind it, and the clocks. -/
structure Appends where
  metadata : Bool := true
  record : Bool := true
  now : BitVec 32 := 0
  uptime : Uptime := 0

section Machine

variable (station : Station)

/-- `appendMetadata(state)`. -/
def appendMetadata (w : Appends) (c : Core) : Core :=
  if w.metadata then
    { c with
      file := c.file ++ [.metadata (.of station w.now w.uptime c.modules)]
      current := true }
  else c

/-- `appendMetadataIfNecessary(state)`. -/
def appendMetadataIfNecessary (w : Appends) (c : Core) : Core :=
  if c.file = [] then appendMetadata station w c else c

/-- A record, behind the metadata. -/
def appendRecord (w : Appends) (r : Record) (c : Core) : Core :=
  let c := appendMetadataIfNecessary station w c
  if w.record then { c with file := c.file ++ [r] } else c

/-- The reading that `merge(address, reply)` appends. -/
def logged (core : CoreState) (now : BitVec 32) (address : Address) (reply : ModuleReplyMessage)
    (s : Modules) : Option LoggedReading :=
  if reply.type = .REPLY_READING_STATUS ∧ reply.readingStatus.state = .DONE then
    (known address s).map fun m =>
      { location := core.location
        reading := core.readingNumber
        time := if Modules.isTimeOff now reply.sensorReading.time then now
          else reply.sensorReading.time
        sensor := reply.sensorReading.sensor % 256
        value := reply.sensorReading.value
        module := m }
  else none

/-- The reply describes a module. -/
def describes (reply : ModuleReplyMessage) : Bool :=
  decide (reply.type = .REPLY_CAPABILITIES ∨ reply.type = .REPLY_SENSOR_CAPABILITIES)

/-- What happens to the modules and to the data file. `status` are the appends of the status behind
    another record; the core state is started at a reboot, and when the app has everything erased. -/
inductive Input where
  | started (reboot : Bool) (w status : Appends)
  | merge (now : BitVec 32) (address : Address) (reply : ModuleReplyMessage) (w : Appends)
  | doneScanning (w status : Appends)
  | scanFailure
  | clearReadings (stale : Stale)
  | takingReadings
  | updateLocation (fix : DeviceLocation) (now : BitVec 32) (saved : Bool) (w status : Appends)
  | eraseFile

/-- What `started()` does in front of its appends. -/
def restarted (reboot : Bool) (c : Core) : Core :=
  { c with
    core := if reboot then c.core.reboot else c.core.started
    modules := if reboot then {} else c.modules.scanFailure
    current := false }

/-- `updateLocation(fix)` in front of its appends. -/
def located (fix : DeviceLocation) (c : Core) : Core :=
  { c with core := { c.core with location := fix } }

/-- The machine. A merge is refused where an assertion of the source fails. -/
def step (c : Core) : Input → Option Core
  | .started reboot w status =>
    some (appendRecord station status .status (appendMetadata station w (restarted reboot c)))
  | .merge now address reply w => do
    let modules ← c.modules.merge now address reply
    match logged c.core now address reply c.modules with
    | some r => some (appendRecord station w (.reading r) { c with modules })
    | none => some { c with modules, current := c.current && !describes reply }
  | .doneScanning w status => some (appendRecord station status .status (appendMetadata station w c))
  | .scanFailure => some { c with modules := c.modules.scanFailure, current := false }
  | .clearReadings stale => some { c with modules := c.modules.clearReadings stale }
  | .takingReadings => some { c with core := c.core.takingReadings }
  | .updateLocation fix now saved w status =>
    let c := appendRecord station status .status
      (appendRecord station w (.location fix) (located fix c))
    some { c with core := c.core.updateLocation fix now saved }
  | .eraseFile => some { c with file := [] }

/-! ## 2. What a reader finds -/

/-- The metadata that stands last. -/
def lastMetadata (file : List Record) : Option DataRecordMetadataMessage :=
  (file.filterMap fun r => match r with
    | .metadata message => some message
    | _ => none).getLast?

/-- **The metadata says what the sensor of a reading is**: its module is there, and under its number
    stands one sensor, which is what the module said of it. -/
structure Describes (message : DataRecordMetadataMessage) (r : LoggedReading) : Prop where
  module : (r.module.address, r.module.name) ∈
    message.tables.modules.map fun w => (w.2.address, w.2.name)
  sensor : (message.tables.sensors.map (·.2)).filter (fun e => decide (e.number = r.sensor)) =
    [⟨r.sensor, (r.module.sensors[r.sensor]?).getD none⟩]

/-- **Every reading stands under metadata that says what its sensor is.** -/
def Attributed (file : List Record) : Prop :=
  ∀ n r, file[n]? = some (.reading r) →
    ∃ message, lastMetadata (file.take n) = some message ∧ Describes message r

/-- Nothing comes into an empty file in front of its metadata. -/
def Leads (c : Core) (w : Appends) : Prop := c.file = [] → w.record = true → w.metadata = true

/-- The sensor is one of the module's, and no other module has sensors. -/
def Sole (s : Modules) (r : LoggedReading) : Prop :=
  r.sensor < r.module.numberOfSensors.toNat ∧
    s.modules.filter (fun m => decide (m.numberOfSensors ≠ 0)) = [r.module]

instance (c : Core) (w : Appends) : Decidable (Leads c w) :=
  inferInstanceAs (Decidable (_ → _ → _))

instance (s : Modules) (r : LoggedReading) : Decidable (Sole s r) :=
  inferInstanceAs (Decidable (_ ∧ _))

/-- **No reading is merged before the metadata of the present list is in the file**: not inside of a
    scan, and not behind one whose metadata was not appended; nor of a module beside another one with
    sensors. -/
def Careful (c : Core) : Input → Prop
  | .started reboot w status => Leads (appendMetadata station w (restarted reboot c)) status
  | .merge now address reply w =>
    ∀ r ∈ logged c.core now address reply c.modules,
      Leads c w ∧ c.current = true ∧ Sole c.modules r
  | .doneScanning w status => Leads (appendMetadata station w c) status
  | .updateLocation fix _ _ w status =>
    Leads c w ∧ Leads (appendRecord station w (.location fix) (located fix c)) status
  | _ => True

instance (c : Core) : ∀ i, Decidable (Careful station c i)
  | .started _ _ _ => inferInstanceAs (Decidable (Leads _ _))
  | .merge _ _ _ _ => inferInstanceAs (Decidable (∀ r ∈ logged _ _ _ _ _, _ ∧ _ ∧ _))
  | .doneScanning _ _ => inferInstanceAs (Decidable (Leads _ _))
  | .scanFailure => .isTrue trivial
  | .clearReadings _ => .isTrue trivial
  | .takingReadings => .isTrue trivial
  | .updateLocation _ _ _ _ _ => inferInstanceAs (Decidable (_ ∧ _))
  | .eraseFile => .isTrue trivial

end Machine

/-! ## 3. What the metadata of a list says -/

/-- The sensors of a module. -/
def entries (m : ModuleInfo) : List SensorEntry :=
  (List.range m.numberOfSensors.toNat).map fun i => ⟨i, (m.sensors[i]?).getD none⟩

theorem sensors_inner (m : ModuleInfo) (is : List Nat) (t : Tables) :
    (is.foldl (Tables.addSensor m) t).sensors.map (·.2) =
        t.sensors.map (·.2) ++ is.map (fun i => ⟨i, (m.sensors[i]?).getD none⟩) ∧
      (is.foldl (Tables.addSensor m) t).modules = t.modules := by
  induction is generalizing t with
  | nil => exact ⟨(List.append_nil _).symm, rfl⟩
  | cons i is ih =>
      obtain ⟨hsensors, hmodules⟩ := ih (t.addSensor m i)
      refine ⟨?_, hmodules⟩
      rw [List.foldl_cons, hsensors]
      show (t.sensors ++ [_]).map Prod.snd ++ _ = _
      rw [List.map_append, List.append_assoc]
      rfl

/-- **The sensors of all modules**, one module behind the other. -/
theorem sensors_tables (ms : List ModuleInfo) (t : Tables) :
    (ms.foldl Tables.addModule t).sensors.map (·.2) =
      t.sensors.map (·.2) ++ ms.flatMap entries := by
  induction ms generalizing t with
  | nil => exact (List.append_nil _).symm
  | cons m ms ih =>
      rw [List.foldl_cons, ih, List.flatMap_cons, ← List.append_assoc]
      exact congrArg (· ++ _) (sensors_inner m _ t).1

/-- **The modules.** -/
theorem modules_tables (ms : List ModuleInfo) (t : Tables) :
    (ms.foldl Tables.addModule t).modules.map (fun w => (w.2.address, w.2.name)) =
      t.modules.map (fun w => (w.2.address, w.2.name)) ++ ms.map fun m => (m.address, m.name) := by
  induction ms generalizing t with
  | nil => exact (List.append_nil _).symm
  | cons m ms ih =>
      rw [List.foldl_cons, ih, List.map_cons, ← List.singleton_append, ← List.append_assoc]
      refine congrArg (· ++ _) ?_
      show ((((List.range _).foldl (Tables.addSensor m) t).modules) ++ [_]).map _ = _
      rw [(sensors_inner m _ t).2, List.map_append]
      rfl

/-- One number, out of those of a module. -/
theorem entries_number {m : ModuleInfo} {k : Nat} (hk : k < m.numberOfSensors.toNat) :
    (entries m).filter (fun e => decide (e.number = k)) = [⟨k, (m.sensors[k]?).getD none⟩] := by
  have honce : (List.range m.numberOfSensors.toNat).filter (fun i => decide (i = k)) = [k] := by
    rw [List.filter_eq, List.count_eq_one_of_mem List.nodup_range (List.mem_range.mpr hk)]
    rfl
  unfold entries
  rw [List.filter_map]
  show ((List.range m.numberOfSensors.toNat).filter (fun i => decide (i = k))).map _ = _
  rw [honce]
  rfl

/-- A module without sensors adds none. -/
theorem entries_filter (ms : List ModuleInfo) :
    ms.flatMap entries =
      (ms.filter fun m => decide (m.numberOfSensors ≠ 0)).flatMap entries := by
  induction ms with
  | nil => rfl
  | cons m ms ih =>
      rw [List.flatMap_cons, ih]
      by_cases hnone : m.numberOfSensors = 0
      · rw [List.filter_cons_of_neg (by simp [hnone])]
        unfold entries
        rw [hnone]
        rfl
      · have hsome : m.numberOfSensors ≠ 0 := hnone
        rw [List.filter_cons_of_pos (by simpa using hsome), List.flatMap_cons]

/-- **The metadata of a list describes a reading** of its only module with sensors. -/
theorem describes_of {message : DataRecordMetadataMessage} {s : Modules} {r : LoggedReading}
    (htables : message.tables = s.modules.foldl Tables.addModule {}) (hsole : Sole s r) :
    Describes message r := by
  obtain ⟨hsensor, honly⟩ := hsole
  have hmem : r.module ∈ s.modules :=
    (List.mem_filter.mp (honly ▸ List.mem_singleton_self r.module)).1
  constructor
  · rw [htables, modules_tables]
    exact List.mem_append_right _ (List.mem_map_of_mem hmem)
  · rw [htables, sensors_tables, entries_filter, honly, List.flatMap_singleton]
    exact entries_number hsensor

/-! ## 4. The invariant -/

/-- **Metadata that is current is that of the present list**, and all readings so far are attributed. -/
structure Inv (c : Core) : Prop where
  file : Attributed c.file
  present : c.current = true → c.file ≠ [] → ∃ message, lastMetadata c.file = some message ∧
    message.tables = c.modules.modules.foldl Tables.addModule {}

theorem lastMetadata_concat (file : List Record) (r : Record) : lastMetadata (file ++ [r]) =
    match r with
    | .metadata message => some message
    | _ => lastMetadata file := by
  unfold lastMetadata
  cases r <;> simp

/-- A record that is no reading, or stands under the right metadata. -/
theorem Attributed.concat {file : List Record} (h : Attributed file) {r : Record}
    (hr : ∀ x, r = .reading x →
      ∃ message, lastMetadata file = some message ∧ Describes message x) :
    Attributed (file ++ [r]) := by
  intro n x hx
  rcases Nat.lt_trichotomy n file.length with hlt | rfl | hgt
  · rw [List.getElem?_append_left hlt] at hx
    rw [List.take_append_of_le_length (Nat.le_of_lt hlt)]
    exact h n x hx
  · rw [List.getElem?_concat_length] at hx
    rw [List.take_left]
    exact hr x (Option.some.inj hx)
  · rw [List.getElem?_eq_none (by rw [List.length_append]; exact hgt)] at hx
    cases hx

section Steps

variable {station : Station} {c : Core}

variable (station) in
theorem appendMetadata_inv (h : Inv c) (w : Appends) :
    Inv (appendMetadata station w c) ∧ (appendMetadata station w c).modules = c.modules := by
  unfold appendMetadata
  split
  · refine ⟨⟨h.file.concat (fun x => Record.noConfusion), fun _ _ => ?_⟩, rfl⟩
    exact ⟨_, lastMetadata_concat _ _, rfl⟩
  · exact ⟨h, rfl⟩

variable (station) in
/-- **Metadata in front of everything.** -/
theorem appendMetadataIfNecessary_inv (h : Inv c) {w : Appends} (hlead : Leads c w) :
    Inv (appendMetadataIfNecessary station w c) ∧
      (appendMetadataIfNecessary station w c).modules = c.modules ∧
      (w.record = true → (appendMetadataIfNecessary station w c).file ≠ []) ∧
      (c.current = true → (appendMetadataIfNecessary station w c).current = true) := by
  unfold appendMetadataIfNecessary
  split
  · next hempty =>
      obtain ⟨hinv, hmodules⟩ := appendMetadata_inv station h w
      refine ⟨hinv, hmodules, fun hrecord => ?_, fun hcurrent => ?_⟩
      · unfold appendMetadata
        rw [if_pos (hlead hempty hrecord)]
        exact List.append_ne_nil_of_right_ne_nil _ (List.cons_ne_nil _ _)
      · unfold appendMetadata
        split
        · rfl
        · exact hcurrent
  · next hsome => exact ⟨h, rfl, fun _ => hsome, id⟩

/-- **A record**; a reading of the present list. -/
theorem appendRecord_inv (h : Inv c) {w : Appends} (hlead : Leads c w) {r : Record}
    (hr : ∀ x, r = .reading x → c.current = true ∧
      ∀ message : DataRecordMetadataMessage,
        message.tables = c.modules.modules.foldl Tables.addModule {} → Describes message x)
    (hplain : ∀ message, r ≠ .metadata message) : Inv (appendRecord station w r c) := by
  obtain ⟨hinv, hmodules, hfile, hcurrent⟩ := appendMetadataIfNecessary_inv station h hlead
  unfold appendRecord
  dsimp only
  split
  · next hrecord =>
      have hlast : lastMetadata ((appendMetadataIfNecessary station w c).file ++ [r]) =
          lastMetadata (appendMetadataIfNecessary station w c).file := by
        rw [lastMetadata_concat]
        cases r with
        | metadata message => exact absurd rfl (hplain message)
        | status => rfl
        | location fix => rfl
        | reading x => rfl
      refine ⟨hinv.file.concat fun x hx => ?_, fun hnow _ => ?_⟩
      · obtain ⟨hcur, hdescribes⟩ := hr x hx
        obtain ⟨message, hmessage, htables⟩ := hinv.present (hcurrent hcur) (hfile hrecord)
        exact ⟨message, hmessage, hdescribes message (hmodules ▸ htables)⟩
      · show ∃ message, lastMetadata (_ ++ [r]) = some message ∧ _
        rw [hlast]
        exact hinv.present hnow (hfile hrecord)
  · exact hinv

/-- What the metadata says of a list whose readings changed. -/
theorem Inv.readings (h : Inv c) {s : Modules}
    (hs : s.modules.foldl Tables.addModule {} = c.modules.modules.foldl Tables.addModule {}) :
    Inv { c with modules := s } where
  file := h.file
  present hcurrent hfile := by
    obtain ⟨message, hmessage, htables⟩ := h.present hcurrent hfile
    exact ⟨message, hmessage, htables.trans hs.symm⟩

/-- A list whose metadata was not appended. -/
theorem Inv.outdated (h : Inv c) (s : Modules) : Inv { c with modules := s, current := false } where
  file := h.file
  present hcurrent := absurd hcurrent Bool.false_ne_true

/-- One module replaced by another that is described alike. -/
theorem tables_replace {pre post : List ModuleInfo} {m m' : ModuleInfo}
    (hsame : ∀ t, Tables.addModule t m' = Tables.addModule t m) :
    (pre ++ m' :: post).foldl Tables.addModule {} = (pre ++ m :: post).foldl Tables.addModule {} := by
  rw [List.foldl_append, List.foldl_append, List.foldl_cons, List.foldl_cons, hsame]

/-- A reading describes no module. -/
theorem logged_describes {now : BitVec 32} {address : Address} {reply : ModuleReplyMessage}
    {s : Modules} {r : LoggedReading} {core : CoreState}
    (hlogged : logged core now address reply s = some r) : describes reply = false := by
  unfold logged at hlogged
  split at hlogged
  · next hkind =>
      unfold describes
      rw [hkind.1]
      rfl
  · cases hlogged

/-- **A reply that describes no module** leaves the list as it is described. -/
theorem merge_tables {now : BitVec 32} {address : Address} {reply : ModuleReplyMessage} {s s' : Modules}
    (hmerge : s.merge now address reply = some s') (hreply : describes reply = false) :
    s'.modules.foldl Tables.addModule {} = s.modules.foldl Tables.addModule {} := by
  have hnot := of_decide_eq_false hreply
  unfold Modules.merge at hmerge
  split at hmerge
  · next htype => exact absurd (Or.inl htype) hnot
  · next htype => exact absurd (Or.inr htype) hnot
  · obtain ⟨k, hk, hmerge⟩ := Option.bind_eq_some_iff.mp hmerge
    split at hmerge
    · obtain ⟨pre, m, post, hmodules, _, _, hmodules', _⟩ := mergeReading_cases hk hmerge
      rw [hmodules, hmodules']
      exact tables_replace fun t => rfl
    · cases hmerge
      rfl
  · cases hmerge
    rfl

/-- Metadata, and a status behind it. -/
theorem metadata_status_inv (h : Inv c) {w status : Appends}
    (hlead : Leads (appendMetadata station w c) status) :
    Inv (appendRecord station status .status (appendMetadata station w c)) :=
  appendRecord_inv (appendMetadata_inv station h w).1 hlead (fun _ => Record.noConfusion)
    fun _ => Record.noConfusion

/-- **One step.** -/
theorem step_inv {c' : Core} {i : Input} (h : Inv c) (hi : Careful station c i)
    (hs : step station c i = some c') : Inv c' := by
  cases i with
  | started reboot w status =>
      cases hs
      have hrestarted : Inv (restarted reboot c) :=
        ⟨h.file, fun hcurrent => absurd hcurrent Bool.false_ne_true⟩
      exact metadata_status_inv hrestarted hi
  | merge now address reply w =>
      obtain ⟨modules, hmerge, hs⟩ := Option.bind_eq_some_iff.mp hs
      cases hlogged : logged c.core now address reply c.modules with
      | some r =>
          obtain ⟨hlead, hcurrent, hsole⟩ := hi r hlogged
          have htables := merge_tables hmerge (logged_describes hlogged)
          rw [hlogged] at hs
          cases hs
          refine appendRecord_inv (h.readings htables) hlead (fun x hx => ?_) fun _ => Record.noConfusion
          cases hx
          exact ⟨hcurrent, fun message hmessage => describes_of (hmessage.trans htables) hsole⟩
      | none =>
          rw [hlogged] at hs
          cases hs
          cases hreply : describes reply with
          | true =>
              rw [Bool.not_true, Bool.and_false]
              exact h.outdated modules
          | false =>
              rw [Bool.not_false, Bool.and_true]
              exact h.readings (merge_tables hmerge hreply)
  | doneScanning w status =>
      cases hs
      exact metadata_status_inv h hi
  | scanFailure =>
      cases hs
      exact h.outdated _
  | clearReadings stale =>
      cases hs
      refine h.readings ?_
      show (c.modules.modules.map (Modules.clearModule stale)).foldl Tables.addModule {} = _
      rw [List.foldl_map]
      rfl
  | takingReadings =>
      cases hs
      exact ⟨h.file, h.present⟩
  | updateLocation fix now saved w status =>
      obtain ⟨hlead, hstatus⟩ := hi
      cases hs
      have hlocated : Inv (located fix c) := ⟨h.file, h.present⟩
      have hlocation : Inv (appendRecord station w (.location fix) (located fix c)) :=
        appendRecord_inv hlocated hlead (fun _ => Record.noConfusion) fun _ => Record.noConfusion
      have hboth : Inv (appendRecord station status .status
          (appendRecord station w (.location fix) (located fix c))) :=
        appendRecord_inv hlocation hstatus (fun _ => Record.noConfusion) fun _ => Record.noConfusion
      exact ⟨hboth.file, hboth.present⟩
  | eraseFile =>
      cases hs
      exact ⟨fun n r hr => (by cases hr), fun _ hfile => absurd rfl hfile⟩

end Steps

/-- **Every reading in the data file stands under the right metadata**, in any run from an empty file in
    which the steps are careful. -/
theorem attributed {station : Station} {c : Core} {tr : List (Core × Input)}
    (h : Run (step station) {} tr c) (hC : Meets (Careful station) tr) : Attributed c.file :=
  (h.inv_meets (Careful station) Inv ⟨fun n r hr => (by cases hr), fun _ hfile => absurd rfl hfile⟩
    (fun _ _ _ hi hc hs => step_inv hi hc hs) hC).file

/-- The capabilities of a module with one sensor, those of the sensor, and a reading of it; and another one
    behind an erase. -/
def oneSensor : List Input :=
  [.started true {} {},
   .merge 0 8 { type := .REPLY_CAPABILITIES, capabilities := { type := 1, numberOfSensors := 1 } } {},
   .merge 0 8 { type := .REPLY_SENSOR_CAPABILITIES, sensorCapabilities := { id := 0 } } {},
   .doneScanning {} {}, .takingReadings,
   .merge 9 8 { type := .REPLY_READING_STATUS, readingStatus := { state := .DONE } } {}, .eraseFile,
   .merge 9 8 { type := .REPLY_READING_STATUS, readingStatus := { state := .DONE } } {}]

/-- Behind the erase the file begins with metadata once more. -/
theorem attributed_one : ∃ tr c, Run (step {}) {} tr c ∧ c.file.length = 2 ∧ Attributed c.file := by
  have hexec : (exec (guarded (Careful {}) (step {})) {} oneSensor).map (·.file.length) = some 2 := by
    decide +kernel
  obtain ⟨tr, c, hguarded, hlength⟩ := run_of_exec_map hexec
  obtain ⟨hrun, hC⟩ := hguarded.of_guarded
  exact ⟨tr, c, hrun, hlength, attributed hrun hC⟩

/-- A module that is asked for a reading before its scan is done. -/
def interrupted : List Input :=
  [.started true {} {},
   .merge 0 8 { type := .REPLY_CAPABILITIES, capabilities := { type := 1, numberOfSensors := 1 } } {},
   .takingReadings,
   .merge 9 8 { type := .REPLY_READING_STATUS, readingStatus := { state := .DONE } } {}]

/-- **A scan that is cut short leaves readings without their sensor**: the metadata in front of them is
    that of the boot. -/
theorem interrupted_unattributed : ∃ tr c, Run (step {}) {} tr c ∧ ¬ Attributed c.file := by
  have hexec : (exec (step {}) {} interrupted).map (fun c =>
      ((lastMetadata (c.file.take 2)).map (·.tables.modules), c.file[2]?.map fun r =>
        match r with
        | .reading _ => true
        | _ => false)) = some (some [], some true) := by decide +kernel
  obtain ⟨tr, c, hrun, hfile⟩ := run_of_exec_map hexec
  obtain ⟨hmodules, hreading⟩ := Prod.mk.inj hfile
  refine ⟨tr, c, hrun, fun hattributed => ?_⟩
  obtain ⟨record, hrecord, hkind⟩ := Option.map_eq_some_iff.mp hreading
  cases record with
  | reading r =>
      obtain ⟨message, hlast, hdescribes⟩ := hattributed 2 r hrecord
      rw [hlast] at hmodules
      have hnone : message.tables.modules = [] := Option.some.inj hmodules
      have hmodule := hdescribes.module
      rw [hnone] at hmodule
      cases hmodule
  | metadata message => cases hkind
  | status => cases hkind
  | location fix => cases hkind

end FieldKit.Attribution

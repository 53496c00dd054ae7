/-
  File:      FieldKit/Core/Metadata.lean
  Subject:   `DataRecordMetadataMessage` (data_messages.cpp): do the attached modules fit its arrays?

  The constructor goes over the list of modules and writes one element for each sensor and one for
  each module. Every write stands with the index it goes to.

  * `tables_indices` -- the elements that are written: from 0 on, without a gap;
  * `fits_iff` -- of any list: everything fits exactly if there are no more sensors and no more
    modules than there is room for;
  * `metadata_fits_iff` -- of any list that the scanned addresses can build: exactly if what they
    last announced adds up to no more sensors than there is room for;
  * `sensors_beyond_array` -- three modules of eleven sensors.
-/
import Mathlib.Algebra.BigOperators.Group.Finset.Basic
import FieldKit.Core.AttachedDevices

namespace FieldKit.Metadata

open Lib Attached

/-! ## 1. The message -/

/-- `MaximumNumberOfSensors`. -/
def maximumNumberOfSensors : Nat := 32

/-- `MaximumNumberOfModules`. -/
def maximumNumberOfModules : Nat := 4

/-- `fk_data_SensorInfo`: the sensor whose name and unit are encoded, if anything is known of it. -/
structure SensorEntry where
  number : Nat
  sensor : Option SensorInfo
  deriving DecidableEq, Repr

/-- `fk_data_ModuleInfo`. -/
structure ModuleEntry where
  position : Nat
  address : Address
  name : Text
  deriving DecidableEq, Repr

/-- The two arrays, as what is written to them and where, and the two indices. -/
structure Tables where
  sensors : List (Nat × SensorEntry) := []
  sensorIndex : Nat := 0
  modules : List (Nat × ModuleEntry) := []
  numberOfModules : Nat := 0
  deriving DecidableEq, Repr

namespace Tables

/-- The body of the inner loop. -/
def addSensor (m : ModuleInfo) (t : Tables) (i : Nat) : Tables :=
  { t with
    sensors := t.sensors ++ [(t.sensorIndex, ⟨i, (m.sensors[i]?).getD none⟩)]
    sensorIndex := t.sensorIndex + 1 }

/-- The body of the outer loop. -/
def addModule (t : Tables) (m : ModuleInfo) : Tables :=
  let t := (List.range m.numberOfSensors.toNat).foldl (addSensor m) t
  { t with
    modules := t.modules ++ [(t.numberOfModules, ⟨t.numberOfModules, m.address, m.name⟩)]
    numberOfModules := t.numberOfModules + 1 }

end Tables

/-- `CoreState::numberOfSensors()`. -/
def numberOfSensors (s : Modules) : Nat := (s.modules.map fun m => m.numberOfSensors.toNat).sum

/-- What the station tells of itself. -/
structure Station where
  deviceId : List Byte := []
  git : Text := []
  build : Text := []
  resetCause : BitVec 32 := 0
  deriving DecidableEq, Repr

/-- `DataRecordMetadataMessage`. `battery`, `memory` and `busy` of its status are 0. -/
structure DataRecordMetadataMessage where
  tables : Tables
  sensorsArray : Nat
  modulesArray : Nat
  station : Station
  time : BitVec 32
  uptime : Uptime
  deriving DecidableEq, Repr

/-- The constructor. -/
def DataRecordMetadataMessage.of (station : Station) (time : BitVec 32) (uptime : Uptime)
    (s : Modules) : DataRecordMetadataMessage where
  tables := s.modules.foldl Tables.addModule {}
  sensorsArray := numberOfSensors s
  modulesArray := (s.modules.foldl Tables.addModule {}).numberOfModules
  station := station
  time := time
  uptime := uptime

/-- **Every write is inside its array, and the elements that were written are those that the lengths
    count.** -/
structure Fits (message : DataRecordMetadataMessage) : Prop where
  sensors : ∀ w ∈ message.tables.sensors, w.1 < maximumNumberOfSensors
  modules : ∀ w ∈ message.tables.modules, w.1 < maximumNumberOfModules
  sensorsArray : message.tables.sensors.map (·.1) = List.range message.sensorsArray
  modulesArray : message.tables.modules.map (·.1) = List.range message.modulesArray

/-! ## 2. The loops -/

/-- Both arrays are written from their beginning on, without a gap. -/
structure Tables.Filled (t : Tables) : Prop where
  sensors : t.sensors.map (·.1) = List.range t.sensorIndex
  modules : t.modules.map (·.1) = List.range t.numberOfModules

/-- The next element is the one behind the last. -/
theorem range_next {α : Type} {ws : List (Nat × α)} {n : Nat} (h : ws.map (·.1) = List.range n)
    (x : α) : (ws ++ [(n, x)]).map (·.1) = List.range (n + 1) := by
  rw [List.map_append, h, List.map_singleton, List.range_succ]

theorem addSensor_filled (m : ModuleInfo) (i : Nat) {t : Tables} (h : t.Filled) :
    (t.addSensor m i).Filled where
  sensors := range_next h.sensors _
  modules := h.modules

/-- **The inner loop**: so many sensors more, and the modules as before. -/
theorem addSensors_filled (m : ModuleInfo) (is : List Nat) {t : Tables} (h : t.Filled) :
    (is.foldl (Tables.addSensor m) t).Filled ∧
      (is.foldl (Tables.addSensor m) t).sensorIndex = t.sensorIndex + is.length ∧
      (is.foldl (Tables.addSensor m) t).numberOfModules = t.numberOfModules := by
  induction is generalizing t with
  | nil => exact ⟨h, rfl, rfl⟩
  | cons i is ih =>
      obtain ⟨hfilled, hindex, hmodules⟩ := ih (addSensor_filled m i h)
      refine ⟨hfilled, ?_, hmodules⟩
      rw [List.foldl_cons, hindex, List.length_cons]
      show t.sensorIndex + 1 + is.length = _
      omega

/-- **The outer loop.** -/
theorem tables_indices (ms : List ModuleInfo) {t : Tables} (h : t.Filled) :
    (ms.foldl Tables.addModule t).Filled ∧
      (ms.foldl Tables.addModule t).sensorIndex =
        t.sensorIndex + (ms.map fun m => m.numberOfSensors.toNat).sum ∧
      (ms.foldl Tables.addModule t).numberOfModules = t.numberOfModules + ms.length := by
  induction ms generalizing t with
  | nil => exact ⟨h, rfl, rfl⟩
  | cons m ms ih =>
      obtain ⟨hfilled, hindex, hmodules⟩ :=
        addSensors_filled m (List.range m.numberOfSensors.toNat) h
      have hnext : (t.addModule m).Filled := ⟨hfilled.sensors, range_next hfilled.modules _⟩
      obtain ⟨hfilled', hindex', hmodules'⟩ := ih hnext
      refine ⟨hfilled', ?_, ?_⟩
      · rw [List.foldl_cons, hindex', List.map_cons, List.sum_cons, ← Nat.add_assoc]
        congr 1
        rw [List.length_range] at hindex
        exact hindex
      · rw [List.foldl_cons, hmodules', List.length_cons]
        have hone : (t.addModule m).numberOfModules = t.numberOfModules + 1 :=
          congrArg (· + 1) hmodules
        omega

/-- Elements from 0 on are inside an array exactly if there are not too many. -/
theorem indices_inside {α : Type} (cap : Nat) {ws : List (Nat × α)} {n : Nat}
    (h : ws.map (·.1) = List.range n) : (∀ w ∈ ws, w.1 < cap) ↔ n ≤ cap := by
  have hmem : (∀ w ∈ ws, w.1 < cap) ↔ ∀ k ∈ List.range n, k < cap := by
    rw [← h]
    simp
  rw [hmem]
  simp only [List.mem_range]
  constructor
  · intro hall
    by_contra hlt
    exact absurd (hall cap (Nat.not_le.mp hlt)) (Nat.lt_irrefl cap)
  · exact fun hle k hk => hk.trans_le hle

/-- **A list fits exactly if it has no more sensors and no more modules than there is room for.** -/
theorem fits_iff (station : Station) (time : BitVec 32) (uptime : Uptime) (s : Modules) :
    Fits (.of station time uptime s) ↔
      numberOfSensors s ≤ maximumNumberOfSensors ∧ s.modules.length ≤ maximumNumberOfModules := by
  obtain ⟨hfilled, hindex, hmodules⟩ := tables_indices s.modules (t := {}) ⟨rfl, rfl⟩
  have hsensors : (s.modules.foldl Tables.addModule {}).sensorIndex = numberOfSensors s :=
    hindex.trans (Nat.zero_add _)
  have hlength : (s.modules.foldl Tables.addModule {}).numberOfModules = s.modules.length :=
    hmodules.trans (Nat.zero_add _)
  have hsensorsInside := indices_inside maximumNumberOfSensors hfilled.sensors
  have hmodulesInside := indices_inside maximumNumberOfModules hfilled.modules
  rw [hsensors] at hsensorsInside
  rw [hlength] at hmodulesInside
  constructor
  · exact fun h => ⟨hsensorsInside.mp h.sensors, hmodulesInside.mp h.modules⟩
  · intro h
    obtain ⟨h32, h4⟩ := h
    refine ⟨hsensorsInside.mpr h32, hmodulesInside.mpr h4, ?_, hfilled.modules⟩
    exact hfilled.sensors.trans (congrArg List.range hsensors)

/-! ## 3. What the addresses announce -/

/-- The addresses that are scanned. -/
def scanned : List Address := [7, 8, 9]

/-- A reply comes from an address that is scanned. -/
def Scanned : Input → Prop
  | .merge _ address _ => address ∈ scanned
  | _ => True

instance : (i : Input) → Decidable (Scanned i)
  | .merge _ address _ => inferInstanceAs (Decidable (address ∈ scanned))
  | .scanFailure | .numberOfReadings _ | .getReading _ _ | .clearReadings _ => .isTrue trivial

/-- What is known to be announced at an address, after one more step. -/
def hear (address : Address) (n : Nat) : Input → Nat
  | .merge _ a reply =>
    if reply.type = .REPLY_CAPABILITIES ∧ a = address then reply.capabilities.numberOfSensors % 256
    else n
  | .scanFailure => 0
  | _ => n

/-- **How many sensors the address last announced**, as a `uint8_t` holds it, since the list was
    last cleared. -/
def announced (address : Address) (tr : List (Modules × Input)) : Nat :=
  tr.foldl (fun n p => hear address n p.2) 0

theorem announced_concat (address : Address) (tr : List (Modules × Input)) (s : Modules)
    (i : Input) : announced address (tr ++ [(s, i)]) = hear address (announced address tr) i := by
  unfold announced
  rw [List.foldl_append]
  rfl

/-- The list is what was announced. -/
structure Counted (tr : List (Modules × Input)) (s : Modules) : Prop where
  scanned : ∀ m ∈ s.modules, m.address ∈ scanned
  distinct : (s.modules.map (·.address)).Nodup
  announced : ∀ m ∈ s.modules, m.numberOfSensors.toNat = announced m.address tr
  silent : ∀ a, (∀ m ∈ s.modules, m.address ≠ a) → Metadata.announced a tr = 0

section Steps

variable {tr tr' : List (Modules × Input)} {s s' : Modules}

/-- What the inner fields of a module are does not matter. -/
theorem Counted.congr (h : Counted tr s)
    (hsame : s'.modules.map (fun m => (m.address, m.numberOfSensors)) =
      s.modules.map fun m => (m.address, m.numberOfSensors))
    (htr : ∀ a, Metadata.announced a tr' = Metadata.announced a tr) : Counted tr' s' := by
  have hmem : ∀ m' ∈ s'.modules, ∃ m ∈ s.modules,
      m.address = m'.address ∧ m.numberOfSensors = m'.numberOfSensors := by
    intro m' hm'
    have hpair := List.mem_map_of_mem (f := fun m : ModuleInfo => (m.address, m.numberOfSensors)) hm'
    rw [hsame] at hpair
    obtain ⟨m, hm, heq⟩ := List.mem_map.mp hpair
    exact ⟨m, hm, Prod.mk.inj heq⟩
  have haddresses : s'.modules.map (·.address) = s.modules.map (·.address) := by
    have hfst := congrArg (List.map Prod.fst) hsame
    rw [List.map_map, List.map_map] at hfst
    exact hfst
  refine ⟨fun m' hm' => ?_, ?_, fun m' hm' => ?_, fun a ha => ?_⟩
  · obtain ⟨m, hm, haddress, _⟩ := hmem m' hm'
    exact haddress ▸ h.scanned m hm
  · rw [haddresses]
    exact h.distinct
  · obtain ⟨m, hm, haddress, hn⟩ := hmem m' hm'
    rw [htr, ← haddress, ← hn]
    exact h.announced m hm
  · rw [htr]
    refine h.silent a fun m hm hma => ?_
    have haddress : a ∈ s'.modules.map (·.address) := by
      rw [haddresses]
      exact hma ▸ List.mem_map_of_mem hm
    obtain ⟨m', hm', heq⟩ := List.mem_map.mp haddress
    exact ha m' hm' heq

/-- One module more, of an address that had none. -/
theorem Counted.added (h : Counted tr s) {x : ModuleInfo}
    (hnew : ∀ m ∈ s.modules, m.address ≠ x.address) (hmodules : s'.modules = s.modules ++ [x])
    (hscanned : x.address ∈ Metadata.scanned)
    (hhere : x.numberOfSensors.toNat = Metadata.announced x.address tr')
    (helsewhere : ∀ a, a ≠ x.address → Metadata.announced a tr' = Metadata.announced a tr) :
    Counted tr' s' := by
  have hfresh : x.address ∉ s.modules.map (·.address) := by
    intro hmem
    obtain ⟨m, hm, hma⟩ := List.mem_map.mp hmem
    exact hnew m hm hma
  refine ⟨fun m hm => ?_, ?_, fun m hm => ?_, fun a hnone => ?_⟩
  · rw [hmodules, List.mem_append, List.mem_singleton] at hm
    rcases hm with hm | rfl
    · exact h.scanned m hm
    · exact hscanned
  · rw [hmodules, List.map_append, List.map_singleton]
    exact h.distinct.append (List.nodup_singleton _) (List.disjoint_singleton.mpr hfresh)
  · rw [hmodules, List.mem_append, List.mem_singleton] at hm
    rcases hm with hm | rfl
    · rw [helsewhere _ (hnew m hm)]
      exact h.announced m hm
    · exact hhere
  · rw [hmodules] at hnone
    have hne : a ≠ x.address := fun heq =>
      hnone _ (List.mem_append_right _ (List.mem_singleton_self _)) heq.symm
    rw [helsewhere a hne]
    exact h.silent a fun m hm => hnone m (List.mem_append_left _ hm)

/-- One module in the place of another of its address. -/
theorem Counted.replaced (h : Counted tr s) {pre post : List ModuleInfo} {m x : ModuleInfo}
    (hmodules : s.modules = pre ++ m :: post) (haddress : m.address = x.address)
    (hmodules' : s'.modules = pre ++ x :: post)
    (hhere : x.numberOfSensors.toNat = Metadata.announced x.address tr')
    (helsewhere : ∀ a, a ≠ x.address → Metadata.announced a tr' = Metadata.announced a tr) :
    Counted tr' s' := by
  have haddresses : s'.modules.map (·.address) = s.modules.map (·.address) := by
    rw [hmodules', hmodules, List.map_append, List.map_append, List.map_cons, List.map_cons,
      haddress]
  -- addresses are distinct, so the others are of other addresses
  have hmem : ∀ m' ∈ s'.modules, m' = x ∨ (m' ∈ s.modules ∧ m'.address ≠ x.address) := by
    intro m' hm'
    have hdistinct := h.distinct
    rw [hmodules, List.map_append, List.map_cons, List.nodup_append] at hdistinct
    obtain ⟨_, hpost, hpre⟩ := hdistinct
    rw [hmodules', List.mem_append, List.mem_cons] at hm'
    rw [hmodules, List.mem_append, List.mem_cons]
    rcases hm' with hm' | rfl | hm'
    · refine Or.inr ⟨Or.inl hm', fun heq => ?_⟩
      exact hpre _ (List.mem_map_of_mem hm') _ List.mem_cons_self (heq.trans haddress.symm)
    · exact Or.inl rfl
    · refine Or.inr ⟨Or.inr (Or.inr hm'), fun heq => ?_⟩
      exact (List.nodup_cons.mp hpost).1 (haddress ▸ heq ▸ List.mem_map_of_mem hm')
  have hhas : m ∈ s.modules := by
    rw [hmodules]
    exact List.mem_append_right _ List.mem_cons_self
  have hhas' : x ∈ s'.modules := by
    rw [hmodules']
    exact List.mem_append_right _ List.mem_cons_self
  refine ⟨fun m' hm' => ?_, haddresses ▸ h.distinct, fun m' hm' => ?_, fun a hnone => ?_⟩
  · rcases hmem m' hm' with rfl | ⟨hm, _⟩
    · exact haddress ▸ h.scanned m hhas
    · exact h.scanned m' hm
  · rcases hmem m' hm' with rfl | ⟨hm, hne⟩
    · exact hhere
    · rw [helsewhere _ hne]
      exact h.announced m' hm
  · rw [helsewhere a fun heq => hnone x hhas' heq.symm]
    refine h.silent a fun y hy hya => ?_
    have hmem' : a ∈ s'.modules.map (·.address) := by
      rw [haddresses]
      exact hya ▸ List.mem_map_of_mem hy
    obtain ⟨y', hy', heq⟩ := List.mem_map.mp hmem'
    exact hnone y' hy' heq

/-- Capabilities: at this address the new number counts, elsewhere everything is as before. -/
theorem counted_capabilities {now : BitVec 32} {address : Address} {r : ModuleReplyMessage}
    (h : Counted tr s) (htype : r.type = .REPLY_CAPABILITIES) (hscanned : address ∈ scanned)
    (hs : s.mergeCapabilities address r.capabilities = some s') :
    Counted (tr ++ [(s, .merge now address r)]) s' := by
  have hhere : (BitVec.ofNat 8 r.capabilities.numberOfSensors).toNat =
      Metadata.announced address (tr ++ [(s, .merge now address r)]) := by
    rw [announced_concat, BitVec.toNat_ofNat]
    exact (if_pos ⟨htype, rfl⟩).symm
  have helsewhere : ∀ a, a ≠ address →
      Metadata.announced a (tr ++ [(s, .merge now address r)]) = Metadata.announced a tr := by
    intro a ha
    rw [announced_concat]
    exact if_neg fun hc => ha hc.2.symm
  obtain ⟨_, ⟨hnew, _, hmodules', _⟩ | ⟨pre, m, post, hmodules, ha, _, hmodules', _⟩⟩ :=
    mergeCapabilities_cases hs
  · exact h.added hnew hmodules' hscanned hhere helsewhere
  · exact h.replaced hmodules ha hmodules' hhere helsewhere

/-- Every other reply leaves the addresses and the numbers as they are. -/
theorem merge_same {now : BitVec 32} {address : Address} {r : ModuleReplyMessage}
    (htype : r.type ≠ .REPLY_CAPABILITIES) (hs : s.merge now address r = some s') :
    s'.modules.map (fun m => (m.address, m.numberOfSensors)) =
      s.modules.map fun m => (m.address, m.numberOfSensors) := by
  have hreplace : ∀ {pre post : List ModuleInfo} {m m' : ModuleInfo},
      s.modules = pre ++ m :: post → s'.modules = pre ++ m' :: post →
      (m'.address, m'.numberOfSensors) = (m.address, m.numberOfSensors) →
      s'.modules.map (fun m => (m.address, m.numberOfSensors)) =
        s.modules.map fun m => (m.address, m.numberOfSensors) := by
    intro pre post m m' hbefore hafter heq
    rw [hbefore, hafter, List.map_append, List.map_append, List.map_cons, List.map_cons, heq]
  unfold Modules.merge at hs
  cases hcase : r.type with
  | REPLY_CAPABILITIES => exact absurd hcase htype
  | REPLY_SENSOR_CAPABILITIES =>
      rw [hcase] at hs
      obtain ⟨pre, m, post, hmodules, _, _, hmodules', _⟩ := mergeSensorCapabilities_cases hs
      exact hreplace hmodules hmodules' rfl
  | REPLY_READING_STATUS =>
      rw [hcase] at hs
      obtain ⟨k, hk, hs⟩ := Option.bind_eq_some_iff.mp hs
      split at hs
      · obtain ⟨pre, m, post, hmodules, _, _, hmodules', _⟩ := mergeReading_cases hk hs
        exact hreplace hmodules hmodules' rfl
      · cases hs
        rfl
  | _ =>
      rw [hcase] at hs
      cases hs
      rfl

/-- **One step.** -/
theorem counted_step {i : Input} (h : Counted tr s) (hscanned : Scanned i)
    (hs : step s i = some s') : Counted (tr ++ [(s, i)]) s' := by
  cases i with
  | merge now address r =>
      by_cases htype : r.type = .REPLY_CAPABILITIES
      · have hs : s.merge now address r = some s' := hs
        unfold Modules.merge at hs
        rw [htype] at hs
        exact counted_capabilities h htype hscanned hs
      · refine h.congr (merge_same htype hs) fun a => ?_
        rw [announced_concat]
        exact if_neg fun hc => htype hc.1
  | scanFailure =>
      cases hs
      refine ⟨fun m hm => (nomatch hm), List.nodup_nil, fun m hm => (nomatch hm), fun a _ => ?_⟩
      rw [announced_concat]
      rfl
  | numberOfReadings stale =>
      cases hs
      exact h.congr rfl fun a => announced_concat a tr s _
  | getReading stale index =>
      obtain ⟨r, hr, rfl⟩ := Option.map_eq_some_iff.mp hs
      unfold Modules.getReading at hr
      obtain ⟨q, _, rfl⟩ := Option.map_eq_some_iff.mp hr
      exact h.congr rfl fun a => announced_concat a tr s _
  | clearReadings stale =>
      cases hs
      refine h.congr ?_ fun a => announced_concat a tr s _
      show (s.modules.map (Modules.clearModule stale)).map _ = _
      rw [List.map_map]
      rfl

/-- **The sensors of the list are those that the scanned addresses announced.** -/
theorem Counted.numberOfSensors (h : Counted tr s) :
    numberOfSensors s = (Metadata.scanned.map fun a => Metadata.announced a tr).sum := by
  have hlist : Metadata.numberOfSensors s =
      ((s.modules.map (·.address)).map fun a => Metadata.announced a tr).sum := by
    unfold Metadata.numberOfSensors
    rw [List.map_map]
    exact congrArg List.sum (List.map_congr_left h.announced)
  have hnodup : Metadata.scanned.Nodup := by decide
  have hsub : (s.modules.map (·.address)).toFinset ⊆ Metadata.scanned.toFinset := by
    intro a ha
    obtain ⟨m, hm, rfl⟩ := List.mem_map.mp (List.mem_toFinset.mp ha)
    exact List.mem_toFinset.mpr (h.scanned m hm)
  rw [hlist, ← List.sum_toFinset _ h.distinct, ← List.sum_toFinset _ hnodup]
  refine Finset.sum_subset hsub fun a _ hnot => h.silent a fun m hm hma => hnot ?_
  exact List.mem_toFinset.mpr (hma ▸ List.mem_map_of_mem hm)

/-- There are never more modules than there is room for. -/
theorem Counted.modules (h : Counted tr s) : s.modules.length ≤ maximumNumberOfModules := by
  have hsub : s.modules.map (·.address) ⊆ Metadata.scanned := by
    intro a ha
    obtain ⟨m, hm, rfl⟩ := List.mem_map.mp ha
    exact h.scanned m hm
  have hlength := (h.distinct.subperm hsub).length_le
  rw [List.length_map] at hlength
  exact hlength.trans (by decide)

end Steps

/-- Nothing was announced, and nothing is in the list. -/
theorem counted_start : Counted [] {} where
  scanned _ hm := nomatch hm
  distinct := List.nodup_nil
  announced _ hm := nomatch hm
  silent _ _ := rfl

/-- **In every run the metadata message fits its arrays exactly if what the scanned addresses last
    announced adds up to no more sensors than there is room for.** -/
theorem metadata_fits_iff {tr : List (Modules × Input)} {s : Modules} (h : Run step {} tr s)
    (hscanned : Meets (fun _ => Scanned) tr) (station : Station) (time : BitVec 32)
    (uptime : Uptime) :
    Fits (.of station time uptime s) ↔
      (scanned.map fun a => announced a tr).sum ≤ maximumNumberOfSensors := by
  have hcounted : Counted tr s := by
    refine h.inv_steps (fun tr s => Meets (fun _ => Scanned) tr → Counted tr s)
      (fun _ => counted_start) ?_ hscanned
    intro tr s i s' hi hs hmeets
    obtain ⟨hmeets, hscan⟩ := (meets_concat _ tr s i).mp hmeets
    exact counted_step (hi hmeets) hscan hs
  rw [fits_iff, hcounted.numberOfSensors]
  exact and_iff_left hcounted.modules

/-- Three modules of eleven sensors. -/
def elevens : List Input :=
  [.merge 0 7 (announce 11), .merge 0 8 (announce 11), .merge 0 9 (announce 11)]

/-- **Thirty-three sensors have room in the list, but not in the message.** -/
theorem sensors_beyond_array : ¬ ∀ (tr : List (Modules × Input)) (s : Modules) (station : Station)
    (time : BitVec 32) (uptime : Uptime), Run step {} tr s → Meets (fun _ => Scanned) tr →
      Fits (.of station time uptime s) := by
  intro hall
  have hexec : (exec (guarded (fun _ => Scanned) step) {} elevens).map
      (fun s => (numberOfSensors s, s.modules.length)) = some (33, 3) := by decide +kernel
  obtain ⟨tr, s, hguarded, heq⟩ := run_of_exec_map hexec
  obtain ⟨hrun, hscanned⟩ := hguarded.of_guarded
  have hfits := (fits_iff {} 0 0 s).mp (hall tr s {} 0 0 hrun hscanned)
  rw [(Prod.mk.inj heq).1] at hfits
  exact absurd hfits.1 (by decide)

/-- One module of eleven sensors. -/
theorem metadata_fits_iff_eleven : ∃ tr s, Run step {} tr s ∧ numberOfSensors s = 11 ∧
    (Fits (.of {} 0 0 s) ↔
      (scanned.map fun a => announced a tr).sum ≤ maximumNumberOfSensors) := by
  have hexec : (exec (guarded (fun _ => Scanned) step) {} [.merge 0 7 (announce 11)]).map
      numberOfSensors = some 11 := by decide +kernel
  obtain ⟨tr, s, hguarded, heq⟩ := run_of_exec_map hexec
  obtain ⟨hrun, hscanned⟩ := hguarded.of_guarded
  exact ⟨tr, s, hrun, heq, metadata_fits_iff hrun hscanned {} 0 0⟩

end FieldKit.Metadata

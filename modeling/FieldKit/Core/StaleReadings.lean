/-
  File:      FieldKit/Core/StaleReadings.lean
  Subject:   The status of a sensor that was not read yet (core_state.cpp, pool.cpp): is every
             reading that is Done one that was taken?

  The arrays of a new module are taken from the pool, and nothing is written into them. So the
  status of a sensor is what the memory held before: at first what the pool was built on, and after
  `scanFailure` what the modules and names before it have left there.

  Here a merge is given the bytes that lie where a new array would come to lie, so that any memory
  and any reuse of it is covered. Beside the list stands what was taken: for each sensor the reading
  that was merged last, since its module was entered and since the readings were cleared.

  * `honest_iff` -- in a run whose replies fit their modules, every reading that is Done was taken,
    all along, exactly if the memory that becomes the status of a sensor never says Done of a
    reading that was not taken;
  * `reading_again` -- after a failed scan the reading of before is there again.
-/
import FieldKit.Core.LiveData

namespace FieldKit.Attached

open Lib

/-! ## 1. The machine -/

/-- The list, the memory of its arrays, and what was taken. -/
structure Live where
  state : Modules := {}
  memory : Memory
  taken : Address × Nat → Option SensorReading := fun _ => none

/-- What is called. `bytes` is what lies where the array of a new module would be. -/
inductive CoreInput where
  | merge (now : BitVec 32) (address : Address) (reply : ModuleReplyMessage)
      (bytes : Nat → SensorReading)
  | scanFailure
  | clearReadings
  | poll

/-- What is taken with a reply: nothing of a new module yet, and a reading. -/
def take (now : BitVec 32) (address : Address) (reply : ModuleReplyMessage) (s : Live) :
    Address × Nat → Option SensorReading :=
  match reply.type with
  | .REPLY_CAPABILITIES =>
    match known address s.state with
    | none => fun k => if k.1 = address then none else s.taken k
    | some _ => s.taken
  | .REPLY_READING_STATUS =>
    if reply.readingStatus.state = .DONE then
      Function.update s.taken (address, reply.sensorReading.sensor % 256)
        (some (stored now reply.sensorReading))
    else s.taken
  | _ => s.taken

/-- The memory of the arrays, with that of a new module. -/
def enter (address : Address) (reply : ModuleReplyMessage) (bytes : Nat → SensorReading)
    (s : Live) : Memory :=
  match reply.type, known address s.state with
  | .REPLY_CAPABILITIES, none => Function.update s.memory address bytes
  | _, _ => s.memory

/-- The machine. `started()` does to the list what `scanFailure()` does. -/
def coreStep (s : Live) : CoreInput → Option Live
  | .merge now address reply bytes =>
    (s.state.merge now address reply).map fun state =>
      { state, memory := enter address reply bytes s, taken := take now address reply s }
  | .scanFailure => some { s with state := s.state.scanFailure, taken := fun _ => none }
  | .clearReadings =>
    some { s with state := s.state.clearReadings (unwritten s.memory), taken := fun _ => none }
  | .poll => (s.state.poll (unwritten s.memory)).map fun p =>
    { s with state := p.2, taken := fun _ => none }

/-- Every sensor of this module that is Done was taken. -/
def Taken (memory : Memory) (taken : Address × Nat → Option SensorReading) (m : ModuleInfo) :
    Prop :=
  ∀ j < m.numberOfSensors.toNat, ∀ r, doneReading memory m j = some r →
    taken (m.address, j) = some r

/-- **No reading is there that was not taken**, and so none is counted or reported. -/
structure Honest (s : Live) : Prop where
  taken : ∀ m ∈ s.state.modules, Taken s.memory s.taken m
  counted : (s.state.numberOfReadings (unwritten s.memory)).1 ≤
    (sensorsOf s.state).countP fun k => (s.taken k).isSome
  reported : ∀ reply s', s.state.poll (unwritten s.memory) = some (reply, s') →
    ∀ x ∈ reply, ∃ k r, k ∈ sensorsOf s.state ∧ s.taken k = some r ∧ x = sample k.2 r

/-- **A reply fits the arrays of its module**: see `Fits`. -/
def CoreFits (s : Live) : CoreInput → Prop
  | .merge now address reply _ => Fits s.state (.merge now address reply)
  | _ => True

/-- **The memory that becomes the status of a sensor does not say Done**, where capabilities make
    it one: in the array of a new module, or behind the sensors that a module had. There it may be
    a reading that was taken. -/
def Clean (s : Live) : CoreInput → Prop
  | .merge _ address reply bytes =>
    reply.type = .REPLY_CAPABILITIES →
      match known address s.state with
      | none => ∀ j < reply.capabilities.numberOfSensors % 256, (bytes j).status ≠ .Done
      | some m => ∀ j, m.numberOfSensors.toNat ≤ j →
          j < reply.capabilities.numberOfSensors % 256 → ∀ r, doneReading s.memory m j = some r →
            s.taken (address, j) = some r
  | _ => True

/-! ## 2. What is seen of it -/

section Steps

variable {s s' : Live}

/-- **What is Done was taken: so the polls see nothing else.** -/
theorem honest_of_taken (hs : Roomy s.state)
    (htaken : ∀ m ∈ s.state.modules, Taken s.memory s.taken m) : Honest s := by
  have hcontent : ∀ k ∈ sensorsOf s.state, ∀ r, content s.memory s.state k = some r →
      s.taken k = some r := by
    intro k hk r hr
    obtain ⟨m, hknown, hj⟩ := (mem_sensorsOf hs).mp hk
    obtain ⟨hm, ha⟩ := known_mem hknown
    unfold content at hr
    rw [hknown, Option.bind_some] at hr
    have hdone := htaken m hm k.2 hj r hr
    rw [ha] at hdone
    exact hdone
  refine ⟨htaken, ?_, fun reply s' hpoll x hx => ?_⟩
  · have hlength := congrArg List.length (doneReadings_eq s.memory hs)
    rw [List.length_map] at hlength
    rw [numberOfReadings_eq, hlength, List.length_filterMap_eq_countP]
    refine List.countP_mono_left fun k hk hsome => ?_
    rw [Option.isSome_map] at hsome
    obtain ⟨r, hr⟩ := Option.isSome_iff_exists.mp hsome
    rw [hcontent k hk r hr]
    rfl
  · obtain ⟨_, t, hpoll', _⟩ := poll_readings (unwritten s.memory) s.state
    obtain ⟨rfl, _⟩ := Prod.mk.inj (Option.some.inj (hpoll.symm.trans hpoll'))
    rw [doneReadings_eq s.memory hs, List.mem_filterMap] at hx
    obtain ⟨k, hk, hx⟩ := hx
    obtain ⟨r, hr, rfl⟩ := Option.map_eq_some_iff.mp hx
    exact ⟨k, r, hk, hcontent k hk r hr, rfl⟩

/-! ## 3. One step -/

/-- What is known of a module depends on its own memory and its own sensors. -/
theorem taken_congr {memory memory' : Memory} {taken taken' : Address × Nat → Option SensorReading}
    {m : ModuleInfo} (hmemory : memory' m.address = memory m.address)
    (htaken : ∀ j, taken' (m.address, j) = taken (m.address, j)) :
    Taken memory' taken' m ↔ Taken memory taken m := by
  unfold Taken doneReading Modules.reading unwritten
  rw [hmemory]
  simp only [htaken]

/-- The module that is replaced is asked for anew, and the others are as they were. -/
theorem taken_replace {P : ModuleInfo → Prop} {pre post : List ModuleInfo} {m m' : ModuleInfo}
    (hP : ∀ x ∈ pre ++ m :: post, P x) : (∀ x ∈ pre ++ m' :: post, P x) ↔ P m' := by
  rw [List.forall_mem_append, List.forall_mem_cons] at hP ⊢
  exact ⟨fun h => h.2.1, fun h => ⟨hP.1, h, hP.2.2⟩⟩

/-- What capabilities make of the sensors, of a module that is new. -/
theorem capabilities_new {address : Address} {c : Capabilities} {state : Modules}
    {bytes : Nat → SensorReading} (htaken : ∀ m ∈ s.state.modules, Taken s.memory s.taken m)
    (hnew : ∀ m ∈ s.state.modules, m.address ≠ address)
    (hmodules : state.modules = s.state.modules ++ [Modules.describe address c
      { sensors := List.replicate (BitVec.ofNat 8 c.numberOfSensors).toNat none
        readings := List.replicate (BitVec.ofNat 8 c.numberOfSensors).toNat none }]) :
    (∀ m ∈ state.modules, Taken (Function.update s.memory address bytes)
        (fun k => if k.1 = address then none else s.taken k) m) ↔
      ∀ j < c.numberOfSensors % 256, (bytes j).status ≠ .Done := by
  have hold : ∀ m ∈ s.state.modules, Taken (Function.update s.memory address bytes)
      (fun k => if k.1 = address then none else s.taken k) m := by
    intro m hm
    exact (taken_congr (Function.update_of_ne (hnew m hm) _ _) fun j => if_neg (hnew m hm)).mpr
      (htaken m hm)
  rw [hmodules, List.forall_mem_append, List.forall_mem_singleton, and_iff_right hold]
  unfold Taken doneReading Modules.reading unwritten Modules.describe
  dsimp only
  have hread : ∀ n j : Nat, ((List.replicate n (none : Option SensorReading))[j]?).getD none = none := by
    intro n j
    rw [List.getElem?_replicate]
    split <;> rfl
  simp only [hread, Option.getD_none, if_pos, BitVec.toNat_ofNat, Function.update_self]
  refine forall_congr' fun j => forall_congr' fun _ => ⟨fun h hdone => ?_, fun h r hr => ?_⟩
  · rw [if_pos hdone] at h
    cases h _ rfl
  · rw [if_neg h] at hr
    cases hr

/-- What capabilities make of the sensors, of a module that is there. -/
theorem capabilities_again {address : Address} {c : Capabilities} {state : Modules}
    {pre post : List ModuleInfo} {m : ModuleInfo}
    (htaken : ∀ m ∈ s.state.modules, Taken s.memory s.taken m)
    (hmodules : s.state.modules = pre ++ m :: post) (ha : m.address = address)
    (hmodules' : state.modules = pre ++ Modules.describe address c m :: post) :
    (∀ m ∈ state.modules, Taken s.memory s.taken m) ↔
      ∀ j, m.numberOfSensors.toNat ≤ j → j < c.numberOfSensors % 256 →
        ∀ r, doneReading s.memory m j = some r → s.taken (address, j) = some r := by
  subst ha
  rw [hmodules] at htaken
  have hm := htaken m (List.mem_append_right _ List.mem_cons_self)
  -- the description is another, and the readings are the same
  have hsame : ∀ j, doneReading s.memory (Modules.describe m.address c m) j =
      doneReading s.memory m j := fun _ => rfl
  have hn : (Modules.describe m.address c m).numberOfSensors.toNat = c.numberOfSensors % 256 :=
    BitVec.toNat_ofNat _ _
  rw [hmodules', taken_replace htaken]
  unfold Taken
  rw [hn]
  simp only [hsame]
  constructor
  · exact fun h j _ hj r hr => h j hj r hr
  · intro h j hj r hr
    rcases Nat.lt_or_ge j m.numberOfSensors.toNat with hlt | hge
    · exact hm j hlt r hr
    · exact h j hge hj r hr

/-- **Capabilities keep what was taken exactly if the memory is clean.** -/
theorem capabilities_taken_iff {now : BitVec 32} {address : Address} {reply : ModuleReplyMessage}
    {bytes : Nat → SensorReading} {state : Modules} (htype : reply.type = .REPLY_CAPABILITIES)
    (htaken : ∀ m ∈ s.state.modules, Taken s.memory s.taken m)
    (h : s.state.mergeCapabilities address reply.capabilities = some state) :
    (∀ m ∈ state.modules, Taken (enter address reply bytes s) (take now address reply s) m) ↔
      Clean s (.merge now address reply bytes) := by
  unfold Clean enter take
  simp only [htype, forall_const]
  obtain ⟨_, ⟨hnew, hknown, hmodules', _⟩ | ⟨pre, m, post, hmodules, ha, hknown, hmodules', _⟩⟩ :=
    mergeCapabilities_cases h
  · rw [hknown]
    exact capabilities_new htaken hnew hmodules'
  · rw [hknown]
    exact capabilities_again htaken hmodules ha hmodules'

/-- A reading is taken, and is Done. -/
theorem reading_taken {now : BitVec 32} {address : Address} {incoming : IncomingSensorReading}
    {state : Modules} {k : Nat} (hs : Roomy s.state)
    (htaken : ∀ m ∈ s.state.modules, Taken s.memory s.taken m)
    (hlt : ∀ m, known address s.state = some m → incoming.sensor % 256 < m.readings.length)
    (hk : s.state.getModule address = some k)
    (h : s.state.mergeReading now k incoming = some state) :
    ∀ m ∈ state.modules, Taken s.memory
      (Function.update s.taken (address, incoming.sensor % 256) (some (stored now incoming))) m := by
  obtain ⟨pre, m, post, hmodules, rfl, hknown, hmodules', _⟩ := mergeReading_cases hk h
  have hothers : ∀ x ∈ s.state.modules, x.address ≠ m.address → Taken s.memory
      (Function.update s.taken (m.address, incoming.sensor % 256) (some (stored now incoming)))
      x := by
    intro x hx hne
    refine (taken_congr rfl fun j => Function.update_of_ne ?_ _ _).mpr (htaken x hx)
    exact fun heq => hne (Prod.mk.inj heq).1
  rw [hmodules', List.forall_mem_append, List.forall_mem_cons]
  have hne := hs.others hmodules
  refine ⟨fun x hx => hothers x ?_ (hne x (List.mem_append_left _ hx)), ?_,
    fun x hx => hothers x ?_ (hne x (List.mem_append_right _ hx))⟩
  · exact hmodules ▸ List.mem_append_left _ hx
  · intro j hj r hr
    rw [doneReading_store (hlt m hknown)] at hr
    show Function.update _ _ _ (m.address, j) = _
    rw [Function.update_apply]
    simp only [Prod.mk.injEq, true_and]
    split at hr
    · next heq => rw [if_pos heq, hr]
    · next hne =>
        rw [if_neg hne]
        exact htaken m (hmodules ▸ List.mem_append_right _ List.mem_cons_self) j hj r hr
  · exact hmodules ▸ List.mem_append_right _ (List.mem_cons_of_mem _ hx)

/-- Where the readings were cleared, none is Done. -/
theorem cleared_taken {memory : Memory} {state state' : Modules} (hs : Roomy state)
    (hmodules : state'.modules = state.modules.map (Modules.clearModule (unwritten memory)))
    (taken : Address × Nat → Option SensorReading) :
    ∀ m ∈ state'.modules, Taken memory taken m := by
  intro m hm j hj r hr
  rw [hmodules] at hm
  obtain ⟨m, hmem, rfl⟩ := List.mem_map.mp hm
  have hlt : j < m.numberOfSensors.toNat := hj
  rw [doneReading_clear hlt (hlt.trans_le (hs.readings m hmem))] at hr
  cases hr

/-- **A merge keeps what was taken exactly if the memory is clean.** -/
theorem merge_taken_iff {now : BitVec 32} {address : Address} {reply : ModuleReplyMessage}
    {bytes : Nat → SensorReading} {state : Modules} (hs : Roomy s.state)
    (htaken : ∀ m ∈ s.state.modules, Taken s.memory s.taken m)
    (hfits : Fits s.state (.merge now address reply))
    (h : s.state.merge now address reply = some state) :
    (∀ m ∈ state.modules, Taken (enter address reply bytes s) (take now address reply s) m) ↔
      Clean s (.merge now address reply bytes) := by
  unfold Modules.merge at h
  -- only capabilities make anything the status of a sensor
  have hclean : reply.type ≠ .REPLY_CAPABILITIES → Clean s (.merge now address reply bytes) :=
    fun hne htype => absurd htype hne
  cases htype : reply.type with
  | REPLY_CAPABILITIES =>
      rw [htype] at h
      exact capabilities_taken_iff htype htaken h
  | REPLY_SENSOR_CAPABILITIES =>
      rw [htype] at h
      refine iff_of_true ?_ (hclean (by rw [htype]; nofun))
      obtain ⟨pre, m, post, hmodules, _, _, hmodules', _⟩ := mergeSensorCapabilities_cases h
      unfold enter take
      simp only [htype]
      rw [hmodules']
      rw [hmodules] at htaken
      exact (taken_replace htaken).mpr (htaken m (List.mem_append_right _ List.mem_cons_self))
  | REPLY_READING_STATUS =>
      rw [htype] at h
      refine iff_of_true ?_ (hclean (by rw [htype]; nofun))
      obtain ⟨k, hk, h⟩ := Option.bind_eq_some_iff.mp h
      unfold enter take
      simp only [htype]
      by_cases hdone : reply.readingStatus.state = .DONE
      · rw [if_pos hdone] at h ⊢
        refine reading_taken hs htaken (fun m hm => ?_) hk h
        have hroom := hfits m hm
        unfold FitsModule at hroom
        rw [htype] at hroom
        exact (hroom hdone).1
      · rw [if_neg hdone] at h ⊢
        cases h
        exact htaken
  | _ =>
      rw [htype] at h
      refine iff_of_true ?_ (hclean (by rw [htype]; nofun))
      cases h
      unfold enter take
      simp only [htype]
      exact htaken

/-- The loop of a poll reads inside the arrays. -/
theorem samples_sound {stale : Stale} {state : Modules} (hs : Sound state) {n : Nat} :
    ∀ {xs state'}, samples stale state n = some (xs, state') → Sound state' := by
  induction n with
  | zero =>
      intro xs state' h
      cases h
      exact hs
  | succ n ih =>
      intro xs state' h
      obtain ⟨⟨ys, t⟩, hloop, h⟩ := Option.bind_eq_some_iff.mp h
      obtain ⟨⟨⟨_, _, r⟩, t'⟩, hget, h⟩ := Option.bind_eq_some_iff.mp h
      cases h
      have hstep : step t (.getReading stale n) = some state' :=
        Option.map_eq_some_iff.mpr ⟨_, hget, rfl⟩
      exact (step_sound_iff (ih hloop) hstep).mpr trivial

theorem poll_sound {stale : Stale} {state state' : Modules} {xs : List LiveDataSample}
    (hs : Sound state) (h : state.poll stale = some (xs, state')) : Sound state' := by
  obtain ⟨⟨ys, t⟩, hloop, h⟩ := Option.bind_eq_some_iff.mp h
  cases h
  have hcounted : Sound (state.numberOfReadings stale).2 := sound_access hs (statusAccess_inside hs)
  exact clearReadings_sound (samples_sound hcounted hloop) stale

/-- **What one step does to what was taken.** -/
theorem coreStep_taken {i : CoreInput} (hs : Sound s.state)
    (htaken : ∀ m ∈ s.state.modules, Taken s.memory s.taken m) (hfits : CoreFits s i)
    (h : coreStep s i = some s') :
    Sound s'.state ∧ ((∀ m ∈ s'.state.modules, Taken s'.memory s'.taken m) ↔ Clean s i) := by
  cases i with
  | merge now address reply bytes =>
      obtain ⟨state, hmerge, rfl⟩ := Option.map_eq_some_iff.mp h
      exact ⟨(merge_sound_iff hs hmerge).mpr hfits, merge_taken_iff hs.roomy htaken hfits hmerge⟩
  | scanFailure =>
      cases h
      refine ⟨(step_sound_iff (i := .scanFailure) hs rfl).mpr trivial, iff_of_true ?_ trivial⟩
      exact fun m hm => absurd hm List.not_mem_nil
  | clearReadings =>
      cases h
      exact ⟨clearReadings_sound hs _, iff_of_true (cleared_taken hs.roomy rfl _) trivial⟩
  | poll =>
      obtain ⟨⟨xs, t⟩, hpoll, rfl⟩ := Option.map_eq_some_iff.mp h
      obtain ⟨_, t', hpoll', hmodules, _⟩ := poll_readings (unwritten s.memory) s.state
      obtain ⟨_, rfl⟩ := Prod.mk.inj (Option.some.inj (hpoll.symm.trans hpoll'))
      exact ⟨poll_sound hs hpoll, iff_of_true (cleared_taken hs.roomy hmodules _) trivial⟩

end Steps

/-! ## 4. Every run -/

/-- **In every run whose replies fit their modules, no reading is there that was not taken, all
    along, exactly if the memory is clean wherever it becomes the status of a sensor.** What the
    memory holds, at the start and whenever it is used again, is arbitrary. -/
theorem honest_iff {memory : Memory} {tr : List (Live × CoreInput)} {s : Live}
    (h : Run coreStep { memory } tr s) (hfits : Meets CoreFits tr) :
    (Meets (fun s _ => Honest s) tr ∧ Honest s) ↔ Meets Clean tr := by
  refine h.meets_iff_under CoreFits Clean
    (fun s => Sound s.state ∧ ∀ m ∈ s.state.modules, Taken s.memory s.taken m) Honest
    ⟨sound_start, fun m hm => absurd hm List.not_mem_nil⟩
    (fun s hs => honest_of_taken hs.1.roomy hs.2) (fun s i s' hs hd hstep => ?_) hfits
  obtain ⟨hsound, htaken⟩ := coreStep_taken hs.1 hs.2 hd hstep
  exact ⟨fun hclean => ⟨hsound, htaken.mpr hclean⟩, fun hhonest => htaken.mp hhonest.taken⟩

/-- Memory that holds zeros. -/
def zeros : Memory := fun _ _ => ⟨0, 0, .Idle⟩

/-- A module with one sensor, and then its reading. -/
def measured : List CoreInput :=
  [.merge 0 8 (announce 1) (zeros 8),
   .merge 7 8 { type := .REPLY_READING_STATUS, readingStatus := { state := .DONE }
                sensorReading := { sensor := 0, time := 7, value := 42 } } (zeros 8)]

/-- What the array holds then. When the pool has been cleared, the same blocks are taken from it
    again, and the new array lies where this one was. -/
def left (j : Nat) : SensorReading :=
  ((exec coreStep { memory := zeros } measured).bind fun s =>
    s.state.modules.head?.map fun m => Modules.reading (unwritten s.memory) m j).getD (zeros 8 j)

/-- A reading is merged, a scan fails, and the module is found again: its sensor is Done, and no
    reading was taken. -/
theorem reading_again : ¬ ∀ (memory : Memory) (tr : List (Live × CoreInput)) (s : Live),
    Run coreStep { memory } tr s → Honest s := by
  intro hall
  have hexec : (exec coreStep { memory := zeros }
      (measured ++ [.scanFailure, .merge 9 8 (announce 1) left])).map (fun s =>
        (s.state.modules.map fun m => (m.address, m.numberOfSensors, doneReading s.memory m 0),
          s.taken (8, 0))) =
    some ([(8, 1, some ⟨7, 42, .Done⟩)], none) := by decide +kernel
  obtain ⟨tr, s, hrun, hs⟩ := run_of_exec_map hexec
  obtain ⟨hmodules, htaken⟩ := Prod.mk.inj hs
  obtain ⟨m, hm, heq⟩ := List.map_eq_singleton_iff.mp hmodules
  simp only [Prod.mk.injEq] at heq
  obtain ⟨ha, hn, hdone⟩ := heq
  have hfound := (hall zeros tr s hrun).taken m (hm ▸ List.mem_singleton_self m) 0
    (by rw [hn]; decide) _ hdone
  rw [ha, htaken] at hfound
  cases hfound

/-- In clean memory, a reading is merged and is polled. -/
theorem honest_iff_measured : ∃ tr s, Run coreStep { memory := zeros } tr s ∧
    tr.map (·.2) = measured ++ [.poll] ∧
    ((Meets (fun s _ => Honest s) tr ∧ Honest s) ↔ Meets Clean tr) := by
  obtain ⟨tr, s, hrun, hinputs, hfits⟩ : ∃ tr s, Run coreStep { memory := zeros } tr s ∧
      tr.map (·.2) = measured ++ [.poll] ∧ Meets CoreFits tr := by
    refine ⟨_, _, .step _ _ .poll _ (.step _ _ _ _ (.step [] _ _ _ .start rfl) rfl) rfl, rfl, ?_⟩
    simp only [meets_concat, meets_nil, true_and]
    refine ⟨⟨?_, ?_⟩, trivial⟩
    · intro m hm
      cases hm
    · intro m hm
      cases hm
      exact fun _ => ⟨by decide, by decide⟩
  exact ⟨tr, s, hrun, hinputs, honest_iff hrun hfits⟩

end FieldKit.Attached

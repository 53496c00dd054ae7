/-
  File:      FieldKit/Core/Gathering.lean
  Subject:   Taking readings from the modules that a scan has found (take_readings.cpp,
             gather_readings.cpp, core_state.cpp).

  `hasSensorModules` counts the sensor modules at any address, and so does the guard of
  `GatherReadings::enqueued`. The queries that it pushes, and the merges of what comes back, are for
  one fixed address.

  The bus, the clocks and the order of the calls are those of the environment, and any number of
  cycles may follow one another on the same list.

  * `gathers_iff` -- every query goes to a sensor module of the list, and every merge finds its
    module, exactly if there is no sensor module in the list or one of them is at this address;
  * `other_address` -- a scan finds the only sensor module at another address;
  * `late_device` -- a device that the scan did not find answers a cycle.
-/
import FieldKit.Core.AttachedDevices
import FieldKit.Core.GatherReadings

namespace FieldKit.Attached

open Lib

/-! ## 1. The guard -/

/-- `numberOfModules(type)`. -/
def Modules.numberOfModules (type : BitVec 8) (s : Modules) : Nat :=
  s.modules.countP fun m => decide (m.type = type)

/-- `hasSensorModules()`. `SENSOR` is `fk_module_ModuleType_SENSOR`. -/
def Modules.hasSensorModules (SENSOR : BitVec 8) (s : Modules) : Bool :=
  decide (0 < s.numberOfModules SENSOR)

/-- **A sensor module of the list is at this address.** -/
def SensorAt (SENSOR : BitVec 8) (s : Modules) (address : Address) : Prop :=
  ∃ m ∈ s.modules, m.address = address ∧ m.type = SENSOR

/-! ## 2. The cycles -/

section Gathering

variable {β B : Type}

/-- A cycle of readings, with the list that it merges into. -/
structure Gathering (β B : Type) where
  gather : GatherReadings β B
  state : Modules

/-- What `done(finished)` merges: the reply to a status query that says DONE. Without a reply the
    query would be in error. -/
def mergeDue (f : Finished ReadingQuery ModuleReplyMessage) (o : ReadingObjects) :
    Option ModuleReplyMessage :=
  match f.query with
  | some .queryReadingStatus => if o.queryReadingStatus.status = .DONE then f.reply else none
  | _ => none

namespace Gathering

/-- A new `GatherReadings` on the same communications object. -/
def enqueued (SENSOR : BitVec 8) (acquired : Bool) (now : Uptime) (remaining : BitVec 32)
    (g : Gathering β B) : Gathering β B :=
  { g with
    gather := GatherReadings.enqueued acquired (g.state.numberOfModules SENSOR) now remaining
      g.gather.link }

/-- What `task()` would merge at `now`. -/
def merges (P : ModuleProtocol β) (now : Uptime) (g : Gathering β B) :
    Option ModuleReplyMessage :=
  if g.gather.protocol.isBusy then
    (g.gather.protocol.handle (readingQueries P) now g.gather.link).bind fun (f, _, link) =>
      mergeDue f link.queries
  else none

/-- `state->merge(8, *finished.reply)`, if there is anything to merge. -/
def merge (time : BitVec 32) (due : Option ModuleReplyMessage) (s : Modules) : Option Modules :=
  match due with
  | some r => s.merge time GatherReadings.moduleAddress r
  | none => some s

/-- `task()`, with its merge; `time` is that of the clock. -/
def task (P : ModuleProtocol β) (now : Uptime) (time : BitVec 32) (g : Gathering β B) :
    Option (Gathering β B) :=
  if g.gather.protocol.isBusy then
    (g.gather.protocol.handle (readingQueries P) now g.gather.link).bind fun (f, protocol, link) =>
      (merge time (mergeDue f link.queries) g.state).map fun state =>
        { gather := (GatherReadings.finish P now f { g.gather with protocol, link }).2, state }
  else some g

/-- `moduleCommunications->task()`. -/
def poll (P : ModuleProtocol β) (bus : TwoWireBus β B) (p : Poll (BitVec 32))
    (g : Gathering β B) : Gathering β B :=
  { g with
    gather := { g.gather with
      link := ModuleCommunications.poll (readingQueries P) bus p g.gather.link } }

end Gathering

/-- What is called. -/
inductive GatherInput where
  | enqueued (acquired : Bool) (now : Uptime) (remaining : BitVec 32)
  | task (now : Uptime) (time : BitVec 32)
  | poll (p : Poll (BitVec 32))

/-- The cycles. A step is refused exactly where an assertion of the source fails. -/
def gatherStep (SENSOR : BitVec 8) (P : ModuleProtocol β) (bus : TwoWireBus β B)
    (g : Gathering β B) : GatherInput → Option (Gathering β B)
  | .enqueued acquired now remaining => some (g.enqueued SENSOR acquired now remaining)
  | .task now time => g.task P now time
  | .poll p => some (g.poll P bus p)

/-- **Every query that is pushed is addressed to a sensor module of the list that was scanned**, and
    what is merged finds its module. -/
structure Gathers (SENSOR : BitVec 8) (P : ModuleProtocol β) (scanned : Modules)
    (g : Gathering β B) : Prop where
  pending : g.gather.protocol.pending.query ≠ none →
    SensorAt SENSOR scanned g.gather.protocol.pending.address
  active : g.gather.protocol.active.query ≠ none →
    SensorAt SENSOR scanned g.gather.protocol.active.address
  finds : ∀ now, g.merges P now ≠ none → g.state.getModule GatherReadings.moduleAddress ≠ none

/-- A scan is done, and has left this list. -/
def Scanned (SENSOR : BitVec 8) (s : Modules) : Prop :=
  ∃ s₀ ρ now n d, polls SENSOR ρ now n { state := s₀ } = some d ∧ d.scan.done = true ∧ d.state = s

/-- It is the `task()` of gather_readings.cpp. -/
theorem task_gather {P : ModuleProtocol β} {now : Uptime} {time : BitVec 32}
    {g g' : Gathering β B} (h : g.task P now time = some g') :
    ∃ e, g.gather.task P now = some (e, g'.gather) := by
  unfold Gathering.task at h
  unfold GatherReadings.task
  split at h
  · next hbusy =>
      rw [if_pos hbusy]
      obtain ⟨⟨f, protocol, link⟩, hhandle, h⟩ := Option.bind_eq_some_iff.mp h
      obtain ⟨state, _, rfl⟩ := Option.map_eq_some_iff.mp h
      exact ⟨_, by rw [hhandle]; rfl⟩
  · next hidle =>
      cases h
      exact ⟨.done, if_neg hidle⟩

/-! ## 3. One step -/

/-- What is queued is for the one address. -/
structure Fixed (h : ModuleProtocolHandler ReadingQuery) : Prop where
  pending : h.pending.query ≠ none → h.pending.address = GatherReadings.moduleAddress
  active : h.active.query ≠ none → h.active.address = GatherReadings.moduleAddress

theorem fixed_empty : Fixed {} := ⟨fun h => absurd rfl h, fun h => absurd rfl h⟩

theorem fixed_push (now : Uptime) (q : ReadingQuery) (delay : Uptime)
    (h : ModuleProtocolHandler ReadingQuery) :
    Fixed (h.push now GatherReadings.moduleAddress q delay) :=
  ⟨fun _ => rfl, fun h => absurd rfl h⟩

/-- `handle` moves queries on, and makes none. -/
theorem fixed_handle {P : ModuleProtocol β} {now : Uptime}
    {h h' : ModuleProtocolHandler ReadingQuery} {l l' : ReadingLink β B}
    {f : Finished ReadingQuery ModuleReplyMessage} (hh : Fixed h)
    (heq : h.handle (readingQueries P) now l = some (f, h', l')) : Fixed h' := by
  obtain ⟨⟨h₁, c₁⟩, henqueue, hfinish⟩ := Option.map_eq_some_iff.mp heq
  have hfixed : Fixed h₁ := by
    rcases ModuleProtocolHandler.handleEnqueue_cases henqueue with
      ⟨_, rfl, _⟩ | ⟨_, _, _, _, _, rfl, _⟩
    · exact hh
    · exact ⟨fun h => absurd rfl h, hh.pending⟩
  rcases ModuleProtocolHandler.handleFinish_cases hfinish with
    ⟨_, rfl, _⟩ | ⟨_, _, _, _, rfl, _⟩ | ⟨_, _, _, _, _, rfl, _⟩
  · exact hfixed
  · exact ⟨hfixed.pending, fun h => absurd rfl h⟩
  · exact ⟨hfixed.pending, fun h => absurd rfl h⟩

/-- `done` and `error` push to the one address, or nothing. -/
theorem fixed_finish (P : ModuleProtocol β) (now : Uptime)
    (f : Finished ReadingQuery ModuleReplyMessage) {s : GatherReadings β B}
    (hs : Fixed s.protocol) : Fixed (GatherReadings.finish P now f s).2.protocol := by
  unfold GatherReadings.finish
  cases f.query with
  | none => exact hs
  | some q =>
      dsimp only
      split
      · exact hs
      · unfold GatherReadings.done
        cases q with
        | beginTakeReading => exact fixed_push now _ _ s.protocol
        | queryReadingStatus =>
            dsimp only
            split
            · exact fixed_push now _ _ s.protocol
            · exact fixed_push now _ _ s.protocol
            · exact fixed_push now _ _ s.protocol
            · exact hs

/-- What is known at an address before a merge is known after it. -/
theorem merge_keeps {now : BitVec 32} {address : Address} {r : ModuleReplyMessage}
    {s s' : Modules} (h : s.merge now address r = some s') :
    ∀ m ∈ s.modules, ∃ m' ∈ s'.modules, m'.address = m.address := by
  intro x hx
  rcases merge_modules h with hsame | ⟨m, _, hmodules'⟩ | ⟨pre, m, m', post, hmodules, hmodules', ha, ha'⟩
  · exact ⟨x, hsame ▸ hx, rfl⟩
  · exact ⟨x, hmodules' ▸ List.mem_append_left _ hx, rfl⟩
  · rw [hmodules] at hx
    rw [hmodules']
    rcases mem_replaced hx with rfl | hx
    · exact ⟨m', List.mem_append_right _ List.mem_cons_self, ha'.trans ha.symm⟩
    · exact ⟨x, hx, rfl⟩

theorem getModule_ne_none {address : Address} {s : Modules} {m : ModuleInfo} (hm : m ∈ s.modules)
    (ha : m.address = address) : s.getModule address ≠ none := by
  rcases getModule_cases address s with ⟨_, hnot⟩ | ⟨pre, _, _, _, hk, _⟩
  · exact absurd ha (hnot m hm)
  · rw [hk]
    exact Option.some_ne_none _

/-- **What the cycles keep** once there is a module at the one address. -/
structure GatherInv (g : Gathering β B) : Prop where
  fixed : Fixed g.gather.protocol
  known : ∃ m ∈ g.state.modules, m.address = GatherReadings.moduleAddress

variable {SENSOR : BitVec 8} {P : ModuleProtocol β} {bus : TwoWireBus β B}

theorem gatherStep_inv {g g' : Gathering β B} {i : GatherInput} (hg : GatherInv g)
    (h : gatherStep SENSOR P bus g i = some g') : GatherInv g' := by
  cases i with
  | enqueued acquired now remaining =>
      cases h
      refine ⟨?_, hg.known⟩
      unfold Gathering.enqueued GatherReadings.enqueued
      dsimp only
      split
      · exact fixed_push now _ _ {}
      · exact fixed_empty
  | poll p =>
      cases h
      exact ⟨hg.fixed, hg.known⟩
  | task now time =>
      have htask : g.task P now time = some g' := h
      unfold Gathering.task at htask
      split at htask
      · obtain ⟨⟨f, protocol, link⟩, hhandle, htask⟩ := Option.bind_eq_some_iff.mp htask
        obtain ⟨state, hmerge, rfl⟩ := Option.map_eq_some_iff.mp htask
        refine ⟨fixed_finish P now f (fixed_handle hg.fixed hhandle), ?_⟩
        dsimp only at hmerge ⊢
        unfold Gathering.merge at hmerge
        split at hmerge
        · obtain ⟨m, hm, ha⟩ := hg.known
          obtain ⟨m', hm', ha'⟩ := merge_keeps hmerge m hm
          exact ⟨m', hm', ha'.trans ha⟩
        · cases hmerge
          exact hg.known
      · cases htask
        exact hg

/-! ## 4. Every run -/

/-- **Wherever the cycles lead, they ask a sensor module of the list and find what they merge
    into, exactly if one of its sensor modules is at the one address, or it has none.** -/
theorem gathers_iff (SENSOR : BitVec 8) (P : ModuleProtocol β) (bus : TwoWireBus β B)
    (link : ReadingLink β B) (s : Modules) :
    (s.hasSensorModules SENSOR = true → ∀ tr g,
        Run (gatherStep SENSOR P bus) { gather := { link }, state := s } tr g →
          Gathers SENSOR P s g) ↔
      (s.hasSensorModules SENSOR = true → SensorAt SENSOR s GatherReadings.moduleAddress) := by
  refine forall_congr' fun hsensor => ⟨fun hall => ?_, fun hat tr g hrun => ?_⟩
  · -- the guard holds, so the first cycle pushes its first query
    have hrun : Run (gatherStep SENSOR P bus) { gather := { link }, state := s } _ _ :=
      .step [] _ (.enqueued true 0 0) _ .start rfl
    have hcount : s.numberOfModules SENSOR ≠ 0 :=
      Nat.ne_of_gt (of_decide_eq_true hsensor)
    have hpending := (hall _ _ hrun).pending
    unfold Gathering.enqueued GatherReadings.enqueued at hpending
    dsimp only at hpending
    rw [if_pos ⟨rfl, hcount⟩] at hpending
    exact hpending (Option.some_ne_none _)
  · obtain ⟨m, hm, ha, htype⟩ := hat
    have hinv : GatherInv g := hrun.inv GatherInv ⟨fixed_empty, m, hm, ha⟩
      fun _ _ _ hg hstep => gatherStep_inv hg hstep
    obtain ⟨m', hm', ha'⟩ := hinv.known
    refine ⟨fun hq => ?_, fun hq => ?_, fun _ _ => getModule_ne_none hm' ha'⟩
    · exact ⟨m, hm, ha.trans (hinv.fixed.pending hq).symm, htype⟩
    · exact ⟨m, hm, ha.trans (hinv.fixed.active hq).symm, htype⟩

end Gathering

/-- Only the module at address 7 answers a scan. It has one sensor. -/
def onlySeven : Replies := fun address q =>
  if address = 7 then
    match q with
    | .queryCapabilities =>
      some { type := .REPLY_CAPABILITIES, capabilities := { type := 1, numberOfSensors := 1 } }
    | .querySensorCapabilities _ => some { type := .REPLY_SENSOR_CAPABILITIES }
    | .queryFirmware => none
  else none

/-- A device that has a reading, whatever it is asked. -/
def reporting : TwoWireBus Frame Unit where
  send _ _ _ := (true, ())
  receive _ _ _ :=
    ([.reply { type := .REPLY_READING_STATUS, readingStatus := { state := .DONE } }], ())

/-- The cycles on what a scan of module 7 leaves. -/
def afterScan (is : List GatherInput) : Option (AttachedDevices × Gathering Frame Unit) :=
  (polls 1 onlySeven (fun _ => 0) 5 { state := {} }).bind fun d =>
    (exec (gatherStep 1 frames reporting) { gather := { link := ⟨{}, {}, ()⟩ }, state := d.state }
      is).map fun g => (d, g)

theorem run_afterScan {α : Type} {is : List GatherInput}
    {f : AttachedDevices × Gathering Frame Unit → α} {v : α} (h : (afterScan is).map f = some v) :
    ∃ d tr g, polls 1 onlySeven (fun _ => 0) 5 { state := {} } = some d ∧
      Run (gatherStep 1 frames reporting)
        { gather := { link := ⟨{}, {}, ()⟩ }, state := d.state } tr g ∧ f (d, g) = v := by
  obtain ⟨⟨d, g⟩, hafter, hv⟩ := Option.map_eq_some_iff.mp h
  obtain ⟨d', hd, hg⟩ := Option.bind_eq_some_iff.mp hafter
  obtain ⟨g', hexec, heq⟩ := Option.map_eq_some_iff.mp hg
  cases heq
  obtain ⟨tr, hrun, _⟩ := run_of_exec hexec
  exact ⟨d, tr, g, hd, hrun, hv⟩

/-- The only sensor module is at address 7, and the first query goes to address 8. -/
theorem other_address : ¬ ∀ (SENSOR : BitVec 8) (P : ModuleProtocol Frame)
    (bus : TwoWireBus Frame Unit) (link : ReadingLink Frame Unit) (s : Modules),
    Scanned SENSOR s → s.hasSensorModules SENSOR = true → ∀ tr g,
      Run (gatherStep SENSOR P bus) { gather := { link }, state := s } tr g →
        Gathers SENSOR P s g := by
  intro hall
  have hafter : (afterScan [.enqueued true 0 1]).map (fun p =>
      ((p.1.scan.done, p.1.state.hasSensorModules 1, p.1.state.modules.map (·.address)),
        (p.2.gather.protocol.pending.query.isSome, p.2.gather.protocol.pending.address))) =
    some ((true, true, [7]), (true, 8)) := by decide +kernel
  obtain ⟨d, tr, g, hd, hrun, hv⟩ := run_afterScan hafter
  simp only [Prod.mk.injEq] at hv
  obtain ⟨⟨hdone, hsensor, hmodules⟩, hquery, haddress⟩ := hv
  obtain ⟨m, hm, ha, _⟩ := (hall 1 frames reporting _ d.state ⟨_, _, _, _, d, hd, hdone, rfl⟩ hsensor
    tr g hrun).pending (Option.isSome_iff_ne_none.mp hquery)
  have hmem : m.address ∈ d.state.modules.map (·.address) := List.mem_map_of_mem hm
  rw [hmodules, ha, haddress] at hmem
  exact absurd hmem (by decide)

/-- A poll at `now`. -/
def gatherPoll (now : Uptime) : GatherInput :=
  .poll { clock := Clock.still now, offered := 0, room := serialBufferSize, env := 0 }

/-- A device at address 8 did not answer the scan, but it answers both queries: its reading is to
    be merged, and there is no such module. -/
theorem late_device : ¬ ∀ (SENSOR : BitVec 8) (P : ModuleProtocol Frame)
    (bus : TwoWireBus Frame Unit) (link : ReadingLink Frame Unit) (s : Modules),
    Scanned SENSOR s → s.hasSensorModules SENSOR = true → ∀ tr g,
      Run (gatherStep SENSOR P bus) { gather := { link }, state := s } tr g →
        ∀ now, g.merges P now ≠ none → g.state.getModule GatherReadings.moduleAddress ≠ none := by
  intro hall
  have hafter : (afterScan ([.enqueued true 0 1] ++
      [.task 900 0, gatherPoll 1000, gatherPoll 1010, gatherPoll 1200, gatherPoll 1300] ++
      [.task 1400 0, .task 2500 0] ++
      [gatherPoll 2600, gatherPoll 2610, gatherPoll 2800, gatherPoll 2900])).map (fun p =>
        (p.1.scan.done, p.1.state.hasSensorModules 1, (p.2.merges frames 3000).isSome,
          p.2.state.getModule GatherReadings.moduleAddress)) =
    some (true, true, true, none) := by decide +kernel
  obtain ⟨d, tr, g, hd, hrun, hv⟩ := run_afterScan hafter
  simp only [Prod.mk.injEq] at hv
  obtain ⟨hdone, hsensor, hmerges, hnone⟩ := hv
  exact hall 1 frames reporting _ d.state ⟨_, _, _, _, d, hd, hdone, rfl⟩ hsensor tr g hrun 3000
    (Option.isSome_iff_ne_none.mp hmerges) hnone

end FieldKit.Attached

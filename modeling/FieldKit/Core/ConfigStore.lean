/-
  File:      FieldKit/Core/ConfigStore.lean
  Subject:   What a reboot brings back (core_state.cpp, flash_state.h, flash_storage.h).

  The core state, the copy of the super block and the super block itself are the store of
  `Durable.lean`. A state whose time is 0 is taken for one that was never saved, so a save at a clock
  of 0 counts for nothing. `FirmwareStorage::update` saves the same flash state, and with it what a
  failed save has left in the copy; it is none of the operations here.

  * `step_refines` -- every operation of the core state is one of the store, or two;
  * `reboot_restores` -- after any run, a reboot brings back what was saved last, as it was then, if
    the clock was not 0 and nothing was formatted since; else the defaults.
-/
import FieldKit.Lib.Durable
import FieldKit.Core.State

namespace FieldKit.ConfigStore

open Lib

/-! ## 1. The machine -/

/-- What happens to the core state: the fix of the GPS, the app, a reading cycle, and resets. -/
inductive Input where
  | updateLocation (fix : DeviceLocation) (now : BitVec 32) (saved : Bool)
  | configureIdentity (identity : DeviceIdentity) (now : BitVec 32) (saved : Bool)
  | configureNetwork (settings : NetworkSettings) (uptime now : BitVec 32) (saved : Bool)
  | takingReadings
  | reset (filesErased formatted : Bool)
  | reboot

/-- One of them. -/
def step (c : CoreState) : Input → CoreState
  | .updateLocation fix now saved => c.updateLocation fix now saved
  | .configureIdentity identity now saved => c.configureIdentity identity now saved
  | .configureNetwork settings uptime now saved => c.configureNetwork settings uptime now saved
  | .takingReadings => c.takingReadings
  | .reset filesErased formatted => c.reset filesErased formatted
  | .reboot => c.reboot

/-- The core as it comes up over any flash. -/
def boot (flash : PersistedState) : CoreState := CoreState.reboot { storage := { flash := flash } }

/-! ## 2. The store behind it -/

/-- What is kept of the core state. -/
structure Config where
  deviceIdentity : DeviceIdentity := {}
  networkSettings : NetworkSettings := {}
  location : DeviceLocation := {}
  readingNumber : BitVec 32 := 0
  deriving DecidableEq

/-- The fields of the core state. -/
def config (c : CoreState) : Config :=
  ⟨c.deviceIdentity, c.networkSettings, c.location, c.readingNumber⟩

/-- What `started()` finds in a persisted state. -/
def view (p : PersistedState) : Option Config :=
  if p.time = 0 then none
  else some ⟨p.deviceIdentity, p.networkSettings, p.location, p.readingNumber⟩

/-- The core state as a store. -/
def store (c : CoreState) : Durable Config where
  live := config c
  staged := view c.storage.state
  durable := view c.storage.flash

theorem store_ext {c : CoreState} {s : Durable Config} (hlive : config c = s.live)
    (hstaged : view c.storage.state = s.staged) (hdurable : view c.storage.flash = s.durable) :
    store c = s := by
  unfold store
  rw [hlive, hstaged, hdurable]

theorem store_save (c : CoreState) (now : BitVec 32) (ok : Bool) :
    store (c.save now ok) = (store c).apply {} (.commit (decide (now ≠ 0)) ok) := by
  have hview : view { c.copyTo c.storage.state with time := now } =
      if decide (now ≠ 0) then some (config c) else none := by
    unfold view
    by_cases hnow : now = 0
    · rw [if_pos hnow, decide_eq_false (not_not_intro hnow)]
      rfl
    · rw [if_neg hnow, decide_eq_true hnow]
      rfl
  cases ok with
  | false => exact store_ext rfl hview rfl
  | true => exact store_ext rfl hview hview

theorem store_started (c : CoreState) : store c.started = (store c).apply {} .load := by
  unfold CoreState.started
  split
  · next hclean =>
      have hnone : view c.storage.state = none := if_pos hclean
      refine store_ext ?_ ?_ rfl
      · show config c = (view c.storage.state).getD (config c)
        rw [hnone]
        rfl
      · show view (c.copyTo c.storage.state) = view c.storage.state
        rw [hnone]
        exact if_pos hclean
  · next hloaded =>
      have hsome : view c.storage.state = some _ := if_neg hloaded
      refine store_ext ?_ rfl rfl
      show _ = (view c.storage.state).getD (config c)
      rw [hsome]
      rfl

theorem store_format (c : CoreState) (ok : Bool) :
    store (c.formatAll ok) = (store c).apply {} (.format ok) := by
  cases ok <;> rfl

theorem store_reboot (c : CoreState) : store c.reboot = (store c).apply {} .restart :=
  store_started { storage := c.storage.locate }

/-- What an input is for the store. -/
def ops : Input → List (Durable.Op Config)
  | .updateLocation fix now saved =>
    [.change fun g => { g with location := fix }, .commit (decide (now ≠ 0)) saved]
  | .configureIdentity identity now saved =>
    [.change fun g => { g with deviceIdentity := identity }, .commit (decide (now ≠ 0)) saved]
  | .configureNetwork settings uptime now saved =>
    [.change fun g => { g with networkSettings := { settings with version := uptime } },
      .commit (decide (now ≠ 0)) saved]
  | .takingReadings => [.change fun g => { g with readingNumber := g.readingNumber + 1 }]
  | .reset true formatted => [.load, .format formatted]
  | .reset false formatted => [.format formatted]
  | .reboot => [.restart]

/-- **The core state refines the store.** -/
theorem step_refines (c : CoreState) (i : Input) :
    store (step c i) = (ops i).foldl (Durable.apply {}) (store c) := by
  cases i with
  | updateLocation fix now saved => exact store_save { c with location := fix } now saved
  | configureIdentity identity now saved =>
      exact store_save { c with deviceIdentity := identity } now saved
  | configureNetwork settings uptime now saved =>
      exact store_save { c with networkSettings := { settings with version := uptime } } now saved
  | takingReadings => rfl
  | reset filesErased formatted =>
      cases filesErased with
      | false => exact store_format c formatted
      | true =>
          show store (c.started.formatAll formatted) = _
          rw [store_format, store_started]
          rfl
  | reboot => exact store_reboot c

/-! ## 3. What was saved last -/

/-- The clock of a successful save. -/
def Input.saved : Input → Option (BitVec 32)
  | .updateLocation _ now true => some now
  | .configureIdentity _ now true => some now
  | .configureNetwork _ _ now true => some now
  | _ => none

/-- A successful format. -/
def Input.formatted : Input → Bool
  | .reset _ true => true
  | _ => false

/-- The flash is written. -/
def Input.writes (i : Input) : Bool := i.saved.isSome || i.formatted

/-- What that leaves there: the core state behind a save, if the clock was set. -/
def written (c : CoreState) (i : Input) : Option Config :=
  match i.saved with
  | some now => if now = 0 then none else some (config (step c i))
  | none => none

/-- **What the last write of a run has left**, or what the core came up with. -/
def lastSaved (flash : PersistedState) (tr : List (CoreState × Input)) : Option Config :=
  match (tr.filter fun p => p.2.writes).getLast? with
  | some (c, i) => written c i
  | none => view flash

theorem lastSaved_concat (flash : PersistedState) (tr : List (CoreState × Input)) (c : CoreState)
    (i : Input) : lastSaved flash (tr ++ [(c, i)]) =
      if i.writes then written c i else lastSaved flash tr := by
  unfold lastSaved
  rw [List.filter_append, List.filter_cons]
  cases i.writes <;> simp

theorem written_save {c : CoreState} {i : Input} {now : BitVec 32} (hi : i.saved = some now)
    {s : Durable Config} (hs : s.live = config (step c i)) :
    written c i = s.written (.commit (decide (now ≠ 0)) true) := by
  unfold written
  rw [hi]
  dsimp only
  split
  · next hzero =>
      rw [decide_eq_false (not_not_intro hzero)]
      rfl
  · next hdated =>
      rw [decide_eq_true hdated, ← hs]
      rfl

/-- **A run of the core state is a run of the store**, with the same last write. -/
theorem run_refines {flash : PersistedState} {tr : List (CoreState × Input)} {c : CoreState}
    (h : Run (fun c i => some (step c i)) (boot flash) tr c) :
    ∃ tr', Run (fun s op => some (s.apply {} op)) (store (boot flash)) tr' (store c) ∧
      Durable.lastWritten (view flash) tr' = lastSaved flash tr := by
  induction h with
  | start => exact ⟨[], .start, rfl⟩
  | step tr c i c' _ hs ih =>
      cases hs
      obtain ⟨tr', hrun, hlast⟩ := ih
      rw [step_refines, lastSaved_concat, ← hlast]
      -- a save writes exactly if it succeeds
      have hsave : ∀ (f : Config → Config) (now : BitVec 32) (ok : Bool),
          ops i = [.change f, .commit (decide (now ≠ 0)) ok] →
          i.saved = (if ok then some now else none) → i.formatted = false →
          f (config c) = config (step c i) →
          ∃ tr'', Run (fun s op => some (s.apply {} op)) (store (boot flash)) tr''
              ((ops i).foldl (Durable.apply {}) (store c)) ∧
            Durable.lastWritten (view flash) tr'' =
              if i.writes then written c i else Durable.lastWritten (view flash) tr' := by
        intro f now ok hops hsaved hformat hconfig
        obtain ⟨tr'', hrun', hlast'⟩ := Durable.run_two hrun (view flash)
          (show (Durable.Op.change f).writes = false from rfl) (.commit (decide (now ≠ 0)) ok)
        rw [hops]
        refine ⟨tr'', hrun', hlast'.trans ?_⟩
        unfold Input.writes
        rw [hsaved, hformat]
        cases ok with
        | false => rfl
        | true => exact (written_save hsaved hconfig).symm
      cases i with
      | updateLocation fix now saved => exact hsave _ now saved rfl (by cases saved <;> rfl) rfl rfl
      | configureIdentity identity now saved =>
          exact hsave _ now saved rfl (by cases saved <;> rfl) rfl rfl
      | configureNetwork settings uptime now saved =>
          exact hsave _ now saved rfl (by cases saved <;> rfl) rfl rfl
      | takingReadings =>
          exact Durable.run_one hrun (view flash)
            (.change fun g => { g with readingNumber := g.readingNumber + 1 })
      | reset filesErased formatted =>
          have hload : (Durable.Op.load : Durable.Op Config).writes = false := rfl
          cases filesErased with
          | false =>
              cases formatted with
              | false => exact Durable.run_one hrun (view flash) (.format false)
              | true => exact Durable.run_one hrun (view flash) (.format true)
          | true =>
              cases formatted with
              | false => exact Durable.run_two hrun (view flash) hload (.format false)
              | true => exact Durable.run_two hrun (view flash) hload (.format true)
      | reboot => exact Durable.run_one hrun (view flash) .restart

/-- **A reboot brings back what was saved last**, if the clock was set at that time and nothing was
    formatted since, and else the defaults; whatever else was changed, saved in vain or reset. -/
theorem reboot_restores {flash : PersistedState} {tr : List (CoreState × Input)} {c : CoreState}
    (h : Run (fun c i => some (step c i)) (boot flash) tr c) :
    config c.reboot = (lastSaved flash tr).getD {} := by
  obtain ⟨tr', hrun, hlast⟩ := run_refines h
  have hlive := Durable.restart_live hrun
  have hdurable : (store (boot flash)).durable = view flash := by
    unfold boot
    rw [store_reboot]
    rfl
  rw [hdurable, hlast] at hlive
  rw [← hlive, ← store_reboot]
  rfl

/-- A name. -/
def named (b : Byte) : DeviceIdentity := { device := Vector.replicate 41 b }

/-- The first name is saved, and the second is not. -/
theorem reboot_restores_name : ∃ tr c, Run (fun c i => some (step c i)) (boot {}) tr c ∧
    c.deviceIdentity = named 2 ∧ (config c.reboot).deviceIdentity = named 1 := by
  have hfirst : Run (fun c i => some (step c i)) (boot {}) _ _ :=
    .step [] (boot {}) (.configureIdentity (named 1) 5 true) _ .start rfl
  have hrun := Run.step _ _ (.configureIdentity (named 2) 6 false) _ hfirst rfl
  exact ⟨_, _, hrun, rfl, congrArg Config.deviceIdentity (reboot_restores hrun)⟩

end FieldKit.ConfigStore

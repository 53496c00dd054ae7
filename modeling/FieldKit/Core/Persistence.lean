/-
  File:      FieldKit/Core/Persistence.lean
  Subject:   What the core remembers over reboots: reading numbers, and a reset.

  * `numbers_increase` -- reading numbers grow from cycle to cycle in every run whose reboots find
    them saved; `numbers_reused` -- a run that uses one twice;
  * `reset_kept_iff` -- a reset holds exactly if nothing is saved before the next reboot, unless
    nothing was configured; `reset_undone` -- a run that brings the old configuration back.
-/
import FieldKit.Lib.Run
import FieldKit.Core.State

namespace FieldKit

open Lib

/-! ## 1. Reading cycles -/

namespace Numbering

/-- The core with its data file: the readings appended, each with its cycle and its number, oldest
    first. `cycle` counts the cycles begun, `gathering` says that one is under way. -/
structure Logged where
  core : CoreState := {}
  cycle : Nat := 0
  gathering : Bool := false
  appended : List (Nat × BitVec 32) := []

/-- What can happen to the core. `written` says whether the append succeeds. -/
inductive Input where
  | beginCycle
  | merge (written : Bool)
  | updateLocation (fix : DeviceLocation) (now : BitVec 32) (saved : Bool)
  | configureIdentity (identity : DeviceIdentity) (now : BitVec 32) (saved : Bool)
  | configureNetwork (settings : NetworkSettings) (uptime now : BitVec 32) (saved : Bool)
  | reboot

/-- The machine. `GatherReadings::enqueued` takes a number for the cycle, `CoreState::merge`
    appends under the number the core state has; there is no merge outside a cycle. -/
def step (s : Logged) : Input → Option Logged
  | .beginCycle =>
    some { s with core := s.core.takingReadings, cycle := s.cycle + 1, gathering := true }
  | .merge written =>
    if s.gathering then
      some { s with appended :=
        if written then s.appended ++ [(s.cycle, s.core.readingNumber)] else s.appended }
    else none
  | .updateLocation fix now saved => some { s with core := s.core.updateLocation fix now saved }
  | .configureIdentity identity now saved =>
    some { s with core := s.core.configureIdentity identity now saved }
  | .configureNetwork settings uptime now saved =>
    some { s with core := s.core.configureNetwork settings uptime now saved }
  | .reboot => some { s with core := s.core.reboot, gathering := false }

/-- A core that has just booted over any flash, its data file empty. -/
def boot (flash : PersistedState) : Logged :=
  { core := CoreState.reboot { storage := { flash := flash } } }

/-- **Numbers grow from one cycle to the next.** -/
def Increasing (appended : List (Nat × BitVec 32)) : Prop :=
  appended.Pairwise fun p q => p.1 ≠ q.1 → p.2 < q.2

/-- A reboot finds a saved state that is not behind the data file, and no cycle is begun on the
    last number there is. -/
def Saved (s : Logged) : Input → Prop
  | .beginCycle => s.core.readingNumber ≠ BitVec.allOnes 32
  | .reboot => ∀ p ∈ s.appended,
      s.core.storage.flash.time ≠ 0 ∧ p.2 ≤ s.core.storage.flash.readingNumber
  | _ => True

instance (s : Logged) : ∀ i, Decidable (Saved s i)
  | .beginCycle => inferInstanceAs (Decidable (_ ≠ _))
  | .merge _ => .isTrue trivial
  | .updateLocation _ _ _ => .isTrue trivial
  | .configureIdentity _ _ _ => .isTrue trivial
  | .configureNetwork _ _ _ _ => .isTrue trivial
  | .reboot => inferInstanceAs (Decidable (∀ p ∈ s.appended, _ ∧ _))

/-- The invariant: no number in the file is ahead of the core's, and while a cycle is under way
    those of other cycles are behind it. -/
structure NumberInv (s : Logged) : Prop where
  bounded : ∀ p ∈ s.appended, p.1 ≤ s.cycle ∧ p.2 ≤ s.core.readingNumber
  behind : s.gathering = true → ∀ p ∈ s.appended, p.1 ≠ s.cycle → p.2 < s.core.readingNumber
  increasing : Increasing s.appended

theorem numberInv_boot (flash : PersistedState) : NumberInv (boot flash) where
  bounded := by simp [boot]
  behind := by simp [boot]
  increasing := List.Pairwise.nil

/-- The number a reboot loads. -/
theorem readingNumber_reboot (c : CoreState) (h : c.storage.flash.time ≠ 0) :
    c.reboot.readingNumber = c.storage.flash.readingNumber := by
  unfold CoreState.reboot CoreState.started FlashState.locate
  rw [if_neg h]
  rfl

/-- One more than a number that is not the last is above it. -/
theorem lt_succ_of_le {k m : BitVec 32} (hk : k ≤ m) (hm : m ≠ BitVec.allOnes 32) : k < m + 1 := by
  have hne : m.toNat ≠ 2 ^ 32 - 1 := fun h => hm (BitVec.eq_of_toNat_eq (by simpa using h))
  have hlt := m.isLt
  have hk : k.toNat ≤ m.toNat := hk
  show k.toNat < (m + 1).toNat
  rw [BitVec.toNat_add, Nat.mod_eq_of_lt (by simp; omega)]
  simp
  omega

/-- **One step keeps the numbers apart.** -/
theorem step_inv {s s' : Logged} {i : Input} (hi : NumberInv s) (hC : Saved s i)
    (h : step s i = some s') : NumberInv s' := by
  cases i with
  | beginCycle =>
      cases h
      have hlt : ∀ p ∈ s.appended, p.2 < s.core.readingNumber + 1 := fun p hp =>
        lt_succ_of_le (hi.bounded p hp).2 hC
      exact ⟨fun p hp => ⟨(hi.bounded p hp).1.trans (Nat.le_succ _), BitVec.le_of_lt (hlt p hp)⟩,
        fun _ p hp _ => hlt p hp, hi.increasing⟩
  | merge written =>
      simp only [step] at h
      split at h
      · next hg =>
          cases h
          cases written with
          | false => exact hi
          | true =>
              refine ⟨fun p hp => ?_, fun _ p hp hne => ?_, ?_⟩
              · rcases List.mem_append.mp hp with hp | hp
                · exact hi.bounded p hp
                · rw [List.mem_singleton.mp hp]
                  exact ⟨Nat.le_refl _, BitVec.le_refl _⟩
              · rcases List.mem_append.mp hp with hp | hp
                · exact hi.behind hg p hp hne
                · rw [List.mem_singleton.mp hp] at hne
                  exact absurd rfl hne
              · refine List.pairwise_append.mpr ⟨hi.increasing, List.pairwise_singleton _ _, ?_⟩
                intro p hp q hq hne
                rw [List.mem_singleton.mp hq] at hne ⊢
                exact hi.behind hg p hp hne
      · cases h
  | updateLocation => cases h; exact ⟨hi.bounded, hi.behind, hi.increasing⟩
  | configureIdentity => cases h; exact ⟨hi.bounded, hi.behind, hi.increasing⟩
  | configureNetwork => cases h; exact ⟨hi.bounded, hi.behind, hi.increasing⟩
  | reboot =>
      cases h
      refine ⟨fun p hp => ⟨(hi.bounded p hp).1, ?_⟩, fun hg => absurd hg (by simp), hi.increasing⟩
      obtain ⟨htime, hle⟩ := hC p hp
      rw [readingNumber_reboot s.core htime]
      exact hle

/-- **In every run whose reboots find the numbers saved, they increase from cycle to cycle.** -/
theorem numbers_increase (flash : PersistedState) {tr : List (Logged × Input)} {s : Logged}
    (h : Run step (boot flash) tr s) (hC : Meets Saved tr) : Increasing s.appended :=
  (h.inv_meets Saved NumberInv (numberInv_boot flash)
    (fun _ _ _ hi hC hs => step_inv hi hC hs) hC).increasing

/-- Two cycles with a reboot between them and nothing saved. -/
def unsaved : List Input := [.beginCycle, .merge true, .reboot, .beginCycle, .merge true]

/-- Both cycles append under number 1. -/
theorem numbers_reused : ¬ ∀ (flash : PersistedState) (tr : List (Logged × Input)) (s : Logged),
    Run step (boot flash) tr s → Increasing s.appended := by
  intro hall
  have hexec : (exec step (boot {}) unsaved).map (·.appended) = some [(1, 1), (2, 1)] := by decide
  obtain ⟨tr, s, hrun, happ⟩ := run_of_exec_map hexec
  have := hall {} tr s hrun
  rw [happ] at this
  exact absurd this (by simp [Increasing])

/-- The same two cycles with a location saved in the first. -/
def saved : List Input :=
  [.beginCycle, .merge true, .updateLocation {} 5 true, .reboot, .beginCycle, .merge true]

/-- They append under 1 and under 2. -/
theorem numbers_increase_saved : ∃ tr s, Run step (boot {}) tr s ∧
    s.appended = [(1, 1), (2, 2)] ∧ Increasing s.appended := by
  have hexec : (exec (guarded Saved step) (boot {}) saved).map (·.appended) =
      some [(1, 1), (2, 2)] := by decide
  obtain ⟨tr, s, hguarded, happ⟩ := run_of_exec_map hexec
  obtain ⟨hrun, hC⟩ := hguarded.of_guarded
  exact ⟨tr, s, hrun, happ, numbers_increase {} hrun hC⟩

end Numbering

/-! ## 2. A reset requested by the app -/

namespace Reset

/-- What can happen after the reset: no configuration by the app. -/
inductive Input where
  | updateLocation (fix : DeviceLocation) (now : BitVec 32) (saved : Bool)
  | takingReadings
  | other
  | reboot

/-- One of them; `other` are the battery, the address, scans and merged readings, which touch
    nothing that is persisted. -/
def step (c : CoreState) : Input → CoreState
  | .updateLocation fix now saved => c.updateLocation fix now saved
  | .takingReadings => c.takingReadings
  | .other => c
  | .reboot => c.reboot

/-- Identity and network settings as the factory leaves them. -/
def Factory (identity : DeviceIdentity) (settings : NetworkSettings) : Prop :=
  identity = {} ∧ settings = {}

instance (identity : DeviceIdentity) (settings : NetworkSettings) :
    Decidable (Factory identity settings) :=
  inferInstanceAs (Decidable (_ ∧ _))

/-- The flash holds the factory defaults. -/
def FlashFactory (c : CoreState) : Prop :=
  Factory c.storage.flash.deviceIdentity c.storage.flash.networkSettings

/-- So do the fields of the core state. -/
def CoreFactory (c : CoreState) : Prop := Factory c.deviceIdentity c.networkSettings

/-- A location is saved before the first reboot. -/
def SavesFirst : List Input → Prop
  | [] => False
  | .updateLocation _ _ true :: _ => True
  | .reboot :: _ => False
  | _ :: is => SavesFirst is

/-- **Reset and never undone**: in every state from here on the flash holds the defaults. -/
def Kept (c : CoreState) (is : List Input) : Prop :=
  ∀ is', is' <+: is → FlashFactory (is'.foldl step c)

theorem flashFactory_reset (filesErased : Bool) (c : CoreState) :
    FlashFactory (c.reset filesErased true) := ⟨rfl, rfl⟩

/-- Over a flash with the defaults, a reboot gives them to the core state. -/
theorem coreFactory_reboot {c : CoreState} (h : FlashFactory c) : CoreFactory c.reboot := by
  unfold CoreState.reboot CoreState.started FlashState.locate
  split
  · exact ⟨rfl, rfl⟩
  · exact h

theorem flashFactory_reboot {c : CoreState} (h : FlashFactory c) : FlashFactory c.reboot := by
  unfold CoreState.reboot CoreState.started
  split
  · exact h
  · exact h

/-- **With the defaults on the flash and in the core state, nothing brings anything else back.** -/
theorem step_factory {c : CoreState} (i : Input) (hf : FlashFactory c) (hc : CoreFactory c) :
    FlashFactory (step c i) ∧ CoreFactory (step c i) := by
  cases i with
  | updateLocation fix now saved =>
      cases saved with
      | false => exact ⟨hf, hc⟩
      | true => exact ⟨hc, hc⟩
  | takingReadings => exact ⟨hf, hc⟩
  | other => exact ⟨hf, hc⟩
  | reboot => exact ⟨flashFactory_reboot hf, coreFactory_reboot hf⟩

theorem kept_of_factory {c : CoreState} (is : List Input) (hf : FlashFactory c)
    (hc : CoreFactory c) : Kept c is := by
  induction is generalizing c with
  | nil =>
      intro is' hpre
      rw [List.prefix_nil.mp hpre]
      exact hf
  | cons i is ih =>
      intro is' hpre
      cases is' with
      | nil => exact hf
      | cons j js =>
          obtain ⟨rfl, hjs⟩ := List.cons_prefix_cons.mp hpre
          obtain ⟨hf', hc'⟩ := step_factory j hf hc
          exact ih hf' hc' js hjs

/-- The states of a run are those of its rest, one step on, and the first one. -/
theorem kept_cons {c : CoreState} {i : Input} {is : List Input} (hf : FlashFactory c) :
    Kept c (i :: is) ↔ Kept (step c i) is := by
  constructor
  · intro h is' hpre
    exact h (i :: is') (List.cons_prefix_cons.mpr ⟨rfl, hpre⟩)
  · intro h is' hpre
    cases is' with
    | nil => exact hf
    | cons j js =>
        obtain ⟨rfl, hjs⟩ := List.cons_prefix_cons.mp hpre
        exact h js hjs

/-- While the core state still holds another configuration, the first save brings it back and the
    first reboot forgets it. -/
theorem kept_iff_of_configured {c : CoreState} (is : List Input) (hf : FlashFactory c)
    (hc : ¬ CoreFactory c) : Kept c is ↔ ¬ SavesFirst is := by
  induction is generalizing c with
  | nil =>
      refine ⟨fun _ h => h, fun _ is' hpre => ?_⟩
      rw [List.prefix_nil.mp hpre]
      exact hf
  | cons i is ih =>
      rw [kept_cons hf]
      cases i with
      | updateLocation fix now saved =>
          cases saved with
          | false => exact ih hf hc
          | true =>
              refine iff_of_false (fun h => hc ?_) (fun h => h trivial)
              exact h [] List.nil_prefix
      | takingReadings => exact ih hf hc
      | other => exact ih hf hc
      | reboot =>
          refine iff_of_true ?_ id
          exact kept_of_factory is (flashFactory_reboot hf) (coreFactory_reboot hf)

/-- Nothing was configured: what the core state holds after the reset, which is what `started()`
    loads if it is called and finds a saved state, are the defaults. -/
def Unconfigured (filesErased : Bool) (c : CoreState) : Prop :=
  if filesErased = true ∧ c.storage.state.time ≠ 0 then
    Factory c.storage.state.deviceIdentity c.storage.state.networkSettings
  else Factory c.deviceIdentity c.networkSettings

theorem coreFactory_reset (filesErased : Bool) (c : CoreState) :
    CoreFactory (c.reset filesErased true) ↔ Unconfigured filesErased c := by
  unfold CoreFactory CoreState.reset CoreState.formatAll CoreState.started Unconfigured
  cases filesErased with
  | false => exact Iff.rfl
  | true =>
      by_cases ht : c.storage.state.time = 0
      · simp only [ht, if_true, ne_eq, not_true_eq_false, and_false, if_false]
      · simp only [ht, if_true, if_false, ne_eq, not_false_eq_true, and_self]
        exact Iff.rfl

/-- **A reset is never undone exactly if no location is saved before the first reboot, or nothing
    was configured.** -/
theorem reset_kept_iff (filesErased : Bool) (c : CoreState) (is : List Input) :
    Kept (c.reset filesErased true) is ↔ Unconfigured filesErased c ∨ ¬ SavesFirst is := by
  rw [← coreFactory_reset]
  by_cases hc : CoreFactory (c.reset filesErased true)
  · exact iff_of_true (kept_of_factory is (flashFactory_reset filesErased c) hc) (Or.inl hc)
  · rw [kept_iff_of_configured is (flashFactory_reset filesErased c) hc]
    exact ⟨Or.inr, fun h => h.resolve_left hc⟩

/-- A core configured by the app: the device has a name, and it has been saved. -/
def configured : CoreState :=
  ({} : CoreState).configureIdentity { device := Vector.replicate 41 1 } 5 true

/-- The first location after the reset writes the old name back. -/
theorem reset_undone : ¬ ∀ (filesErased : Bool) (c : CoreState) (is : List Input),
    Kept (c.reset filesErased true) is := by
  intro hall
  have := hall true configured [.updateLocation {} 9 true] _ List.prefix_rfl
  exact absurd this (by unfold FlashFactory; decide)

end Reset

end FieldKit

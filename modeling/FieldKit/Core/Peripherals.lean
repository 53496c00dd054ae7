/-
  File:      FieldKit/Core/Peripherals.lean
  Subject:   The lock of the module bus, `peripherals.twoWire1()` (peripherals.h), and the three tasks
             that take it: is it given back?

  `AttachedDevices`, `GatherReadings` and `AppModuleQueryTask` share the lock and the communications
  object. Each is an object on the stack of the loop that drives it, and `owner` is its address: an
  address is used again when the loop has ended. Any number of loops may be under way.

  Modules, bus and clock are the environment's, but for a clock at zero: `acquiredAt` would say
  that the bus is free. What `CoreState` and the application are told is left out.

  * `given_iff` -- the lock is given back in exactly the runs in which `WifiQueryModule` never gives
    up on a query that is not answered;
  * `retry_keeps_bus` -- a module that asks for one retry after the other.
-/
import FieldKit.Lib.Run
import FieldKit.Core.AttachedDevices
import FieldKit.Core.GatherReadings

namespace FieldKit.Peripherals

open Lib Attached

/-! ## 1. The lock -/

/-- The address of a task. -/
abbrev Pointer := Nat

/-- A reading of the clock that is not zero. -/
abbrev Ticking := { now : Uptime // now ≠ 0 }

/-- `Peripheral`. -/
structure Peripheral where
  acquiredAt : Uptime := 0
  owner : Option Pointer := none
  deriving DecidableEq, Repr

namespace Peripheral

/-- `available()`. -/
def available (p : Peripheral) : Bool := decide (p.acquiredAt = 0)

/-- `tryAcquire(newOwner)`, at `now`. -/
def tryAcquire (now : Ticking) (newOwner : Pointer) (p : Peripheral) : Bool × Peripheral :=
  if p.available then (true, { acquiredAt := now, owner := some newOwner }) else (false, p)

/-- `isOwner(anOwner)`. -/
def isOwner (anOwner : Pointer) (p : Peripheral) : Bool := decide (p.owner = some anOwner)

/-- `release(anOwner)`; `none` is a failed assertion. -/
def release (anOwner : Pointer) (p : Peripheral) : Option Peripheral :=
  if p.isOwner anOwner ∧ p.available = false then some {} else none

/-- `if (isOwner(this)) release(this)`. -/
def giveBack (anOwner : Pointer) (p : Peripheral) : Option Peripheral :=
  if p.isOwner anOwner then p.release anOwner else some p

end Peripheral

/-! ## 2. The tasks -/

/-- The queries of the three tasks. -/
inductive BusQuery where
  | scan (q : ScanQuery)
  | reading (q : ReadingQuery)
  | custom
  deriving DecidableEq, Repr

/-- What a task is, with what it keeps. `scan = none` is `scanning == false` before the first poll;
    `started` belongs to the loop of `WifiQueryModule`. -/
inductive Job where
  | attachedDevices (scan : Option ScanState)
  | gatherReadings
  | appModuleQuery (started : Uptime)
  deriving DecidableEq, Repr

/-- A task that is driven by its loop. `held` is not in the source: the task has acquired the bus. -/
structure Driven where
  job : Job
  protocol : ModuleProtocolHandler BusQuery := {}
  held : Bool := false
  deriving DecidableEq, Repr

/-- What a poll of a task works on. -/
structure Turn (O β B : Type) where
  twoWire1 : Peripheral
  task : Driven
  link : Link BusQuery O ModuleReplyMessage β B

section Tasks

variable {O E β B : Type}

namespace Turn

/-- `tryAcquire(this)`, of the lock. -/
def tryAcquire (now : Ticking) (self : Pointer) (t : Turn O β B) : Bool × Turn O β B :=
  let (acquired, twoWire1) := t.twoWire1.tryAcquire now self
  (acquired, { t with twoWire1, task := { t.task with held := t.task.held || acquired } })

/-- `protocol.push(address, query, delay)`. -/
def push (now : Uptime) (address : Address) (q : BusQuery) (delay : Uptime) (t : Turn O β B) :
    Turn O β B :=
  { t with task := { t.task with protocol := t.task.protocol.push now address q delay } }

/-- `protocol.handle()`; `none` is a failed assertion. -/
def handle (M : ModuleQueries BusQuery O E ModuleReplyMessage β) (now : Uptime) (t : Turn O β B) :
    Option (Finished BusQuery ModuleReplyMessage × Turn O β B) :=
  (t.task.protocol.handle M now t.link).map fun (f, protocol, link) =>
    (f, { t with task := { t.task with protocol }, link })

/-- The lock is given back as `give` says, and the task returns `e`. -/
def finish (e : TaskEval) (give : Peripheral → Option Peripheral) (t : Turn O β B) :
    Option (TaskEval × Turn O β B) :=
  (give t.twoWire1).map fun twoWire1 => (e, { t with twoWire1 })

end Turn

/-! ### AttachedDevices -/

/-- `done(finished)` or `error(finished)`, of the scan. None of the queries overrides
    `replyConfig`: without a reply they are in error. -/
def scanFinished (SENSOR : BitVec 8) (q : BusQuery) (reply : Option ModuleReplyMessage)
    (d : ScanState) : ScanState :=
  match q, reply with
  | .scan q, some r => d.answered SENSOR q r
  | .scan q, none => d.failed q
  | _, some _ => { d with asked := none }
  | _, none => d.next

/-- What the scan pushed, if it pushed anything. -/
def pushAsked (now : Uptime) (d : ScanState) (t : Turn O β B) : Turn O β B :=
  let t := { t with task := { t.task with job := .attachedDevices (some d) } }
  match d.asked with
  | some (address, q) => t.push now address (.scan q) 0
  | none => t

/-- `scan()`: without the bus nothing is asked, and `scanning` stays true. -/
def beginScan (now : Ticking) (self : Pointer) (t : Turn O β B) : ScanState × Turn O β B :=
  match t.tryAcquire now self with
  | (true, t) => (ScanState.scan, pushAsked now ScanState.scan t)
  | (false, t) => ({}, pushAsked now {} t)

/-- `AttachedDevices::task()`. It releases the bus where it clears `scanning`. -/
def attachedDevices (SENSOR : BitVec 8) (M : ModuleQueries BusQuery O E ModuleReplyMessage β)
    (now : Ticking) (self : Pointer) (scan : Option ScanState) (t : Turn O β B) :
    Option (TaskEval × Turn O β B) :=
  let (d, t) := match scan with
    | none => beginScan now self t
    | some d => (d, t)
  (t.handle M now).bind fun (f, t) =>
    match f.query with
    | none => some (.busy, t)
    | some q =>
      let d := scanFinished SENSOR q f.reply d
      if d.scanning then some (.busy, pushAsked now d t)
      else (pushAsked now d t).finish .done (·.giveBack self)

/-! ### GatherReadings -/

/-- `GatherReadings::enqueued()`; `sensors` counts the attached modules that have sensors. -/
def enqueueReadings (now : Ticking) (self : Pointer) (sensors : Nat) (t : Turn O β B) :
    Turn O β B :=
  match t.tryAcquire now self with
  | (false, t) => t
  | (true, t) =>
    if sensors = 0 then t
    else t.push now GatherReadings.moduleAddress (.reading .beginTakeReading) 0

/-- `GatherReadings::done(finished)`. -/
def readingDone (now : Uptime) (q : BusQuery) (r : ModuleReplyMessage) (t : Turn O β B) :
    TaskEval × Turn O β B :=
  let delay := GatherReadings.delay ⟨r.readingStatus.backoff, r.readingStatus.state⟩
  let status := t.push now GatherReadings.moduleAddress (.reading .queryReadingStatus)
  match q with
  | .reading .beginTakeReading => (.idle, status delay)
  | .reading .queryReadingStatus =>
    match r.readingStatus.state with
    | .BEGIN | .BUSY => (.idle, status delay)
    | .DONE => (.idle, status 0)
    | .IDLE => (.done, t)
  | _ => (.idle, t)

/-- What `GatherReadings::task()` does with what `handle` returned. -/
def readingFinished (now : Uptime) (f : Finished BusQuery ModuleReplyMessage) (t : Turn O β B) :
    TaskEval × Turn O β B :=
  match f.query, f.reply with
  | none, _ => (.idle, t)
  | some q, some r => readingDone now q r t
  | some (.reading _), none => (.error, t)
  | some _, none => (.idle, t)

/-- `GatherReadings::task()` under `simple_task_run`: its `done()` and `error()` release the bus. -/
def gatherReadings (M : ModuleQueries BusQuery O E ModuleReplyMessage β) (now : Ticking)
    (self : Pointer) (t : Turn O β B) : Option (TaskEval × Turn O β B) :=
  if t.task.protocol.isBusy then
    (t.handle M now).bind fun (f, t) =>
      let (e, t) := readingFinished now f t
      if e.isRunning then some (e, t) else t.finish e (·.giveBack self)
  else t.finish .done (·.giveBack self)

/-! ### AppModuleQueryTask -/

/-- `AppModuleQueryTask::enqueued()`; `none` is a failed assertion. -/
def enqueueQuery (now : Ticking) (self : Pointer) (t : Turn O β B) : Option (Turn O β B) :=
  match t.tryAcquire now self with
  | (true, t) => some (t.push now 8 .custom 0)
  | (false, _) => none

/-- `AppModuleQueryTask::task()`: `done` and `error` release the bus. -/
def appModuleQuery (M : ModuleQueries BusQuery O E ModuleReplyMessage β) (now : Ticking)
    (self : Pointer) (t : Turn O β B) : Option (TaskEval × Turn O β B) :=
  (t.handle M now).bind fun (f, t) =>
    match f.query, f.reply with
    | none, _ => some (.idle, t)
    | some _, some _ => t.finish .done (·.release self)
    | some _, none => t.finish .error (·.release self)

/-- One poll of a task by its loop. -/
def runTask (SENSOR : BitVec 8) (M : ModuleQueries BusQuery O E ModuleReplyMessage β)
    (now : Ticking) (self : Pointer) (t : Turn O β B) : Option (TaskEval × Turn O β B) :=
  match t.task.job with
  | .attachedDevices scan => attachedDevices SENSOR M now self scan t
  | .gatherReadings => gatherReadings M now self t
  | .appModuleQuery _ => appModuleQuery M now self t

/-! ## 3. The loops -/

/-- The lock, the communications object, and the tasks whose loops are under way. -/
structure Bus (O β B : Type) where
  twoWire1 : Peripheral := {}
  link : Link BusQuery O ModuleReplyMessage β B
  live : Pointer → Option Driven := fun _ => none

/-- What comes next. `checked` is the reading that the loop of `WifiQueryModule` compares, `acquired`
    the one that the lock is acquired at. -/
inductive Input (E B : Type) where
  | scan (self : Pointer)
  | gather (self : Pointer) (acquired : Ticking) (sensors : Nat)
  | query (self : Pointer) (acquired : Ticking) (started : Uptime)
  | poll (self : Pointer) (now : Ticking) (checked : Uptime)
  | communications (p : Poll E)
  | modules (devices : B)

namespace Bus

/-- The lock, a task and the communications object after a turn. -/
def update (s : Bus O β B) (self : Pointer) (task : Option Driven) (t : Turn O β B) : Bus O β B where
  twoWire1 := t.twoWire1
  link := t.link
  live := Function.update s.live self task

/-- A task before its first turn. -/
def turn (s : Bus O β B) (task : Driven) : Turn O β B where
  twoWire1 := s.twoWire1
  task := task
  link := s.link

end Bus

/-- The loop of `WifiQueryModule` breaks after 10 seconds; the others go on. -/
def Job.breaks (checked : Uptime) : Job → Bool
  | .appModuleQuery started => decide (10000 < checked - started)
  | _ => false

/-- **One step**; `none` is a failed assertion, or an address that is in use or not. -/
def step (SENSOR : BitVec 8) (M : ModuleQueries BusQuery O E ModuleReplyMessage β)
    (bus : TwoWireBus β B) (s : Bus O β B) : Input E B → Option (Bus O β B)
  | .scan self =>
    match s.live self with
    | some _ => none
    | none => some { s with
        live := Function.update s.live self (some { job := .attachedDevices none }) }
  | .gather self acquired sensors =>
    match s.live self with
    | some _ => none
    | none =>
      let t := enqueueReadings acquired self sensors (s.turn { job := .gatherReadings })
      some (s.update self (some t.task) t)
  | .query self acquired started =>
    match s.live self with
    | some _ => none
    | none =>
      (enqueueQuery acquired self (s.turn { job := .appModuleQuery started })).map fun t =>
        s.update self (some t.task) t
  | .poll self now checked =>
    match s.live self with
    | none => none
    | some task =>
      (runTask SENSOR M now self (s.turn task)).map fun (e, t) =>
        if e.isRunning ∧ task.job.breaks checked = false then s.update self (some t.task) t
        else s.update self none t
  | .communications p => some { s with link := ModuleCommunications.poll M bus p s.link }
  | .modules devices => some { s with link := { s.link with bus := devices } }

/-- Nothing is under way. -/
def start (queries : O) (devices : B) : Bus O β B where
  link := { comms := {}, queries := queries, bus := devices }

/-- **The lock is given back**: a task that owns it is one whose loop is under way, and there are no
    two of them. -/
structure Given (s : Bus O β B) : Prop where
  back : ∀ a, s.twoWire1.isOwner a = true → s.live a ≠ none
  one : ∀ a b d e, s.live a = some d → s.live b = some e → d.held = true → e.held = true → a = b

/-- The query of the handler is on the wire, or goes there now, and its transaction is over: a
    reply is waiting, or the communications object is not busy any more. -/
def Over (now : Uptime) (h : ModuleProtocolHandler BusQuery)
    (c : ModuleCommunications BusQuery ModuleReplyMessage β) : Prop :=
  ∃ h' c', h.handleEnqueue now c = some (h', c') ∧ h'.active.query ≠ none ∧
    (c'.available = true ∨ c'.busy = false)

/-- **`WifiQueryModule` does not give up**: where its loop breaks, the transaction is over. -/
def Patient (s : Bus O β B) : Input E B → Prop
  | .poll self now checked => ∀ d started, s.live self = some d →
      d.job = .appModuleQuery started → 10000 < checked - started →
        Over now d.protocol s.link.comms
  | _ => True

/-! ## 4. What a turn does to the lock -/

namespace Peripheral

@[simp] theorem isOwner_iff (a : Pointer) (p : Peripheral) :
    p.isOwner a = true ↔ p.owner = some a := decide_eq_true_iff

theorem release_cases {a : Pointer} {p p' : Peripheral} (h : p.release a = some p') :
    p.owner = some a ∧ p' = {} := by
  unfold release at h
  split at h
  · next hp =>
      cases h
      exact ⟨(isOwner_iff a p).mp hp.1, rfl⟩
  · cases h

theorem giveBack_cases {a : Pointer} {p p' : Peripheral} (h : p.giveBack a = some p') :
    (p.owner = some a ∧ p' = {}) ∨ (p.owner ≠ some a ∧ p' = p) := by
  unfold giveBack at h
  split at h
  · exact Or.inl (release_cases h)
  · next hp =>
      cases h
      exact Or.inr ⟨fun howner => hp ((isOwner_iff a p).mpr howner), rfl⟩

end Peripheral

/-- **What may happen to the lock in a turn**: nothing, or the task acquires it. -/
def Takes (now : Ticking) (self : Pointer) (t t' : Turn O β B) : Prop :=
  (t'.twoWire1 = t.twoWire1 ∧ t'.task.held = t.task.held) ∨
    (t.twoWire1.available = true ∧ t'.twoWire1 = ⟨now, some self⟩ ∧ t'.task.held = true)

/-- **What may happen to it at the end of a task**: it is given back, or was not the task's. -/
def Returns (self : Pointer) (p p' : Peripheral) : Prop :=
  (p.owner = some self ∧ p' = {}) ∨ (p.owner ≠ some self ∧ p' = p)

section Turns

variable {SENSOR : BitVec 8} {M : ModuleQueries BusQuery O E ModuleReplyMessage β} {now : Ticking}
  {self : Pointer} {t t' : Turn O β B} {e : TaskEval}

theorem takes_refl (t : Turn O β B) : Takes now self t t := Or.inl ⟨rfl, rfl⟩

/-- A turn goes on with the same lock, held or not. -/
theorem Takes.congr {t'' : Turn O β B} (h : Takes now self t t')
    (hlock : t''.twoWire1 = t'.twoWire1) (hheld : t''.task.held = t'.task.held) :
    Takes now self t t'' := by
  unfold Takes
  rw [hlock, hheld]
  exact h

theorem tryAcquire_takes {acquired : Bool} (h : t.tryAcquire now self = (acquired, t')) :
    Takes now self t t' ∧ t'.task.job = t.task.job ∧ (acquired = true → t'.task.held = true) := by
  unfold Turn.tryAcquire Peripheral.tryAcquire at h
  by_cases hfree : t.twoWire1.available = true
  · rw [if_pos hfree] at h
    cases h
    exact ⟨Or.inr ⟨hfree, rfl, Bool.or_true _⟩, rfl, fun _ => Bool.or_true _⟩
  · rw [if_neg hfree] at h
    cases h
    exact ⟨Or.inl ⟨rfl, Bool.or_false _⟩, rfl, fun h => nomatch h⟩

theorem handle_kept {f : Finished BusQuery ModuleReplyMessage} {now : Uptime}
    (h : t.handle M now = some (f, t')) :
    t'.twoWire1 = t.twoWire1 ∧ t'.task.held = t.task.held ∧ t'.task.job = t.task.job := by
  obtain ⟨p, _, hp⟩ := Option.map_eq_some_iff.mp h
  cases hp
  exact ⟨rfl, rfl, rfl⟩

theorem pushAsked_kept (now : Uptime) (d : ScanState) (t : Turn O β B) :
    (pushAsked now d t).twoWire1 = t.twoWire1 ∧ (pushAsked now d t).task.held = t.task.held ∧
      (pushAsked now d t).task.job = .attachedDevices (some d) := by
  unfold pushAsked
  dsimp only
  split <;> exact ⟨rfl, rfl, rfl⟩

theorem beginScan_takes {d : ScanState} (h : beginScan now self t = (d, t')) :
    Takes now self t t' ∧ t'.task.job = .attachedDevices (some d) := by
  unfold beginScan at h
  split at h
  · next hacquire =>
      cases h
      obtain ⟨hlock, hheld, hjob⟩ := pushAsked_kept now ScanState.scan _
      exact ⟨(tryAcquire_takes hacquire).1.congr hlock hheld, hjob⟩
  · next hacquire =>
      cases h
      obtain ⟨hlock, hheld, hjob⟩ := pushAsked_kept now {} _
      exact ⟨(tryAcquire_takes hacquire).1.congr hlock hheld, hjob⟩

theorem readingFinished_kept (now : Uptime) (f : Finished BusQuery ModuleReplyMessage)
    (t : Turn O β B) :
    (readingFinished now f t).2.twoWire1 = t.twoWire1 ∧
      (readingFinished now f t).2.task.held = t.task.held ∧
      (readingFinished now f t).2.task.job = t.task.job := by
  unfold readingFinished
  split
  · exact ⟨rfl, rfl, rfl⟩
  · unfold readingDone
    dsimp only
    split
    · exact ⟨rfl, rfl, rfl⟩
    · split <;> exact ⟨rfl, rfl, rfl⟩
    · exact ⟨rfl, rfl, rfl⟩
  · exact ⟨rfl, rfl, rfl⟩
  · exact ⟨rfl, rfl, rfl⟩

/-- **What one poll of a task does to the lock.** -/
inductive Polled (now : Ticking) (self : Pointer) (t : Turn O β B) :
    TaskEval → Turn O β B → Prop where
  /-- The loop goes on. -/
  | goesOn {e : TaskEval} {t' : Turn O β B} (he : e.isRunning = true)
      (ht : Takes now self t t')
      (hjob : t'.task.job = t.task.job ∨ ∃ d, t'.task.job = .attachedDevices (some d)) :
      Polled now self t e t'
  /-- The task has ended. -/
  | ends {e : TaskEval} {t' : Turn O β B} (t₁ : Turn O β B) (he : e.isRunning = false)
      (ht : Takes now self t t₁) (hreturns : Returns self t₁.twoWire1 t'.twoWire1) :
      Polled now self t e t'

theorem finish_polled {t₁ : Turn O β B} {r : TaskEval} {give : Peripheral → Option Peripheral}
    (ht : Takes now self t t₁) (hr : r.isRunning = false)
    (hgive : ∀ p', give t₁.twoWire1 = some p' → Returns self t₁.twoWire1 p')
    (h : t₁.finish r give = some (e, t')) : Polled now self t e t' := by
  obtain ⟨p', hp', h⟩ := Option.map_eq_some_iff.mp h
  cases h
  exact .ends t₁ hr ht (hgive p' hp')

theorem attachedDevices_polled {scan : Option ScanState}
    (hjob : t.task.job = .attachedDevices scan)
    (h : attachedDevices SENSOR M now self scan t = some (e, t')) : Polled now self t e t' := by
  have hbegun : ∃ d t₀, Takes now self t t₀ ∧ t₀.task.job = .attachedDevices (some d) ∧
      ((t₀.handle M now).bind fun (f, t) =>
        match f.query with
        | none => some (TaskEval.busy, t)
        | some q =>
          let d := scanFinished SENSOR q f.reply d
          if d.scanning then some (.busy, pushAsked now d t)
          else (pushAsked now d t).finish .done (·.giveBack self)) = some (e, t') := by
    unfold attachedDevices at h
    cases scan with
    | some d => exact ⟨d, t, takes_refl t, hjob, h⟩
    | none => exact ⟨_, _, (beginScan_takes rfl).1, (beginScan_takes rfl).2, h⟩
  obtain ⟨d, t₀, ht, hjob₀, h⟩ := hbegun
  obtain ⟨⟨f, t₁⟩, hhandle, h⟩ := Option.bind_eq_some_iff.mp h
  obtain ⟨hlock, hheld, hjob₁⟩ := handle_kept hhandle
  have ht₁ : Takes now self t t₁ := ht.congr hlock hheld
  dsimp only at h
  split at h
  · cases h
    exact .goesOn rfl ht₁ (Or.inr ⟨d, hjob₁.trans hjob₀⟩)
  · next q _ =>
      obtain ⟨hlock', hheld', hjob'⟩ := pushAsked_kept now (scanFinished SENSOR q f.reply d) t₁
      split at h
      · cases h
        exact .goesOn rfl (ht₁.congr hlock' hheld') (Or.inr ⟨_, hjob'⟩)
      · exact finish_polled (ht₁.congr hlock' hheld') rfl
          (fun _ => Peripheral.giveBack_cases) h

theorem gatherReadings_polled (h : gatherReadings M now self t = some (e, t')) :
    Polled now self t e t' := by
  unfold gatherReadings at h
  split at h
  · obtain ⟨⟨f, t₁⟩, hhandle, h⟩ := Option.bind_eq_some_iff.mp h
    obtain ⟨hlock, hheld, hjob⟩ := handle_kept hhandle
    obtain ⟨hlock', hheld', hjob'⟩ := readingFinished_kept now f t₁
    have ht : Takes now self t (readingFinished now f t₁).2 :=
      (takes_refl t).congr (hlock'.trans hlock) (hheld'.trans hheld)
    dsimp only at h
    split at h
    · next he =>
        cases h
        exact .goesOn he ht (Or.inl (hjob'.trans hjob))
    · next he =>
        exact finish_polled ht (Bool.eq_false_iff.mpr he) (fun _ => Peripheral.giveBack_cases) h
  · exact finish_polled (takes_refl t) rfl (fun _ => Peripheral.giveBack_cases) h

theorem appModuleQuery_polled (h : appModuleQuery M now self t = some (e, t')) :
    Polled now self t e t' := by
  obtain ⟨⟨f, t₁⟩, hhandle, h⟩ := Option.bind_eq_some_iff.mp h
  obtain ⟨hlock, hheld, hjob⟩ := handle_kept hhandle
  have ht : Takes now self t t₁ := (takes_refl t).congr hlock hheld
  have hrelease : ∀ p', t₁.twoWire1.release self = some p' → Returns self t₁.twoWire1 p' :=
    fun _ hp => Or.inl (Peripheral.release_cases hp)
  dsimp only at h
  split at h
  · cases h
    exact .goesOn rfl ht (Or.inl hjob)
  · exact finish_polled ht rfl hrelease h
  · exact finish_polled ht rfl hrelease h

theorem runTask_polled (h : runTask SENSOR M now self t = some (e, t')) :
    Polled now self t e t' := by
  unfold runTask at h
  split at h
  · next hjob => exact attachedDevices_polled hjob h
  · exact gatherReadings_polled h
  · exact appModuleQuery_polled h

/-- What `handle` finishes, once the query that was due is on the wire. -/
theorem handleFinish_query (h : ModuleProtocolHandler BusQuery)
    (l : Link BusQuery O ModuleReplyMessage β B) :
    (h.handleFinish M l).1.query ≠ none ↔
      h.active.query ≠ none ∧ (l.comms.available = true ∨ l.comms.busy = false) := by
  unfold ModuleProtocolHandler.handleFinish ModuleCommunications.available
  cases h.active.query with
  | none => simp
  | some q =>
      cases l.comms.reply with
      | some r => simp
      | none => cases l.comms.busy <;> simp

/-- **A query runs on exactly when its transaction is not over.** -/
theorem appModuleQuery_running (h : appModuleQuery M now self t = some (e, t')) :
    e.isRunning = true ↔ ¬ Over now t.task.protocol t.link.comms := by
  obtain ⟨⟨f, t₁⟩, hhandle, h⟩ := Option.bind_eq_some_iff.mp h
  obtain ⟨⟨f', protocol, link⟩, hf, heq⟩ := Option.map_eq_some_iff.mp hhandle
  cases heq
  obtain ⟨⟨h', c'⟩, henqueue, hfinish⟩ := Option.map_eq_some_iff.mp hf
  have hquery : f.query = (h'.handleFinish M { t.link with comms := c' }).1.query :=
    congrArg (·.1.query) hfinish.symm
  have hover : Over now t.task.protocol t.link.comms ↔ f.query ≠ none := by
    rw [hquery, handleFinish_query]
    constructor
    · intro h
      obtain ⟨_, _, heq, hover⟩ := h
      rw [henqueue] at heq
      cases heq
      exact hover
    · exact fun hover => ⟨h', c', henqueue, hover⟩
  have hends : ∀ {r : TaskEval} {give : Peripheral → Option Peripheral} {t₁ : Turn O β B},
      t₁.finish r give = some (e, t') → e = r := by
    intro r give t₁ hfin
    obtain ⟨_, _, heq⟩ := Option.map_eq_some_iff.mp hfin
    cases heq
    rfl
  rw [hover]
  dsimp only at h
  split at h
  · next hnone =>
      cases h
      simp [hnone, TaskEval.isRunning]
  · next hsome _ =>
      rw [hends h]
      simp [hsome, TaskEval.isRunning]
  · next hsome _ =>
      rw [hends h]
      simp [hsome, TaskEval.isRunning]

end Turns

/-! ## 5. The lock and who holds it -/

/-- **The owner of the lock is the task that holds it**, a free lock has no owner, and a query
    always holds it. -/
structure Inv (p : Peripheral) (live : Pointer → Option Driven) : Prop where
  owner : ∀ a, p.owner = some a ↔ ∃ d, live a = some d ∧ d.held = true
  free : p.available = true → p.owner = none
  query : ∀ a d n, live a = some d → d.job = .appModuleQuery n → d.held = true

theorem inv_start : Inv {} fun _ => none where
  owner a := by simp
  free _ := rfl
  query _ _ _ h := nomatch h

section Lock

variable {p p' : Peripheral} {live : Pointer → Option Driven} {self : Pointer}

/-- Whether queries hold the lock, when one task is changed. -/
theorem query_update (h : ∀ a d n, live a = some d → d.job = .appModuleQuery n → d.held = true)
    {task : Option Driven} (hq : ∀ d n, task = some d → d.job = .appModuleQuery n → d.held = true)
    (a : Pointer) (d : Driven) (n : Uptime) (hlive : Function.update live self task a = some d)
    (hjob : d.job = .appModuleQuery n) : d.held = true := by
  by_cases ha : a = self
  · subst ha
    rw [Function.update_self] at hlive
    exact hq d n hlive hjob
  · rw [Function.update_of_ne ha] at hlive
    exact h a d n hlive hjob

/-- A task is put in that does not hold the lock. -/
theorem Inv.add (hi : Inv p live) (hself : live self = none) {d : Driven} (hd : d.held = false)
    (hq : ∀ n, d.job ≠ .appModuleQuery n) : Inv p (Function.update live self (some d)) where
  owner a := by
    rw [hi.owner a]
    by_cases ha : a = self
    · subst ha
      simp [hself, hd]
    · rw [Function.update_of_ne ha]
  free := hi.free
  query := query_update hi.query fun d' n heq hjob => by
    cases heq
    exact absurd hjob (hq n)

/-- A task is changed, but not in whether it holds the lock. -/
theorem Inv.keep (hi : Inv p live) {d d' : Driven} (hself : live self = some d)
    (hheld : d'.held = d.held) (hq : ∀ n, d'.job = .appModuleQuery n → d'.held = true) :
    Inv p (Function.update live self (some d')) where
  owner a := by
    rw [hi.owner a]
    by_cases ha : a = self
    · subst ha
      simp [hself, hheld]
    · rw [Function.update_of_ne ha]
  free := hi.free
  query := query_update hi.query fun d'' n heq hjob => by
    cases heq
    exact hq n hjob

/-- A task acquires the lock. -/
theorem Inv.acquire (hi : Inv p live) (hfree : p.available = true) (now : Ticking) {d : Driven}
    (hd : d.held = true) : Inv ⟨now, some self⟩ (Function.update live self (some d)) where
  owner a := by
    by_cases ha : a = self
    · subst ha
      simp [hd]
    · rw [Function.update_of_ne ha, ← hi.owner a, hi.free hfree]
      simp [Ne.symm ha]
  free havailable := absurd (of_decide_eq_true havailable) now.2
  query := query_update hi.query fun d' n heq _ => by
    cases heq
    exact hd

/-- A task ends and gives the lock back, or does not own it. -/
theorem Inv.remove (hi : Inv p live) (h : Returns self p p') :
    Inv p' (Function.update live self none) where
  owner a := by
    by_cases ha : a = self
    · subst ha
      rcases h with ⟨_, rfl⟩ | ⟨hother, rfl⟩
      · simp
      · simp [hother]
    · rw [Function.update_of_ne ha, ← hi.owner a]
      rcases h with ⟨howner, rfl⟩ | ⟨_, rfl⟩
      · rw [howner]
        simp [Ne.symm ha]
      · rfl
  free havailable := by
    rcases h with ⟨_, rfl⟩ | ⟨_, rfl⟩
    · rfl
    · exact hi.free havailable
  query := query_update hi.query fun _ _ heq => nomatch heq

end Lock

section Steps

variable {SENSOR : BitVec 8} {M : ModuleQueries BusQuery O E ModuleReplyMessage β}
  {bus : TwoWireBus β B} {s s' : Bus O β B} {now : Ticking} {self : Pointer}

/-- **After a turn of a task, new or not.** -/
theorem Inv.turn (hi : Inv s.twoWire1 s.live) {d : Driven} {t : Turn O β B}
    (hself : s.live self = some d ∨ (s.live self = none ∧ d.held = false))
    (ht : Takes now self (s.turn d) t)
    (hq : ∀ n, t.task.job = .appModuleQuery n → t.task.held = true) :
    Inv t.twoWire1 (Function.update s.live self (some t.task)) := by
  rcases ht with ⟨hlock, hheld⟩ | ⟨hfree, hlock, hheld⟩
  · rw [hlock]
    rcases hself with hself | ⟨hself, hd⟩
    · exact hi.keep hself hheld hq
    · have hnot : t.task.held = false := hheld.trans hd
      refine hi.add hself hnot fun n hjob => ?_
      rw [hq n hjob] at hnot
      cases hnot
  · rw [hlock]
    exact hi.acquire hfree now hheld

theorem Inv.given (hi : Inv s.twoWire1 s.live) : Given s where
  back a ha := by
    obtain ⟨d, hd, _⟩ := (hi.owner a).mp ((Peripheral.isOwner_iff a _).mp ha)
    rw [hd]
    exact Option.some_ne_none d
  one a b d e ha hb hd he := by
    have howner := (hi.owner a).mpr ⟨d, ha, hd⟩
    rw [(hi.owner b).mpr ⟨e, hb, he⟩] at howner
    exact (Option.some.inj howner).symm

theorem enqueueReadings_takes (acquired : Ticking) (sensors : Nat) (t : Turn O β B) :
    Takes acquired self t (enqueueReadings acquired self sensors t) ∧
      (enqueueReadings acquired self sensors t).task.job = t.task.job := by
  unfold enqueueReadings
  split
  · next hacquire =>
      obtain ⟨ht, hjob, _⟩ := tryAcquire_takes hacquire
      exact ⟨ht, hjob⟩
  · next hacquire =>
      obtain ⟨ht, hjob, _⟩ := tryAcquire_takes hacquire
      split
      · exact ⟨ht, hjob⟩
      · exact ⟨ht.congr rfl rfl, hjob⟩

theorem enqueueQuery_takes {acquired : Ticking} {t t' : Turn O β B}
    (h : enqueueQuery acquired self t = some t') :
    Takes acquired self t t' ∧ t'.task.held = true := by
  unfold enqueueQuery at h
  split at h
  · next hacquire =>
      cases h
      obtain ⟨ht, _, hheld⟩ := tryAcquire_takes hacquire
      exact ⟨ht.congr rfl rfl, hheld rfl⟩
  · cases h

/-- **Patience, seen from the loop**: it does not break while the task runs. Only a query's loop
    breaks, and a query runs on exactly if it is not over. -/
theorem patient_poll_iff (checked : Uptime) {d : Driven} {e : TaskEval} {t : Turn O β B}
    (hself : s.live self = some d) (hrun : runTask SENSOR M now self (s.turn d) = some (e, t)) :
    Patient s (.poll self now checked : Input E B) ↔
      (d.job.breaks checked = true → e.isRunning = false) := by
  have hquery : ∀ started, d.job = .appModuleQuery started →
      (e.isRunning = true ↔ ¬ Over now d.protocol s.link.comms) := by
    intro started hjob
    unfold runTask at hrun
    have hturn : (s.turn d).task.job = .appModuleQuery started := hjob
    rw [hturn] at hrun
    exact appModuleQuery_running hrun
  unfold Patient
  constructor
  · intro hp hbreaks
    unfold Job.breaks at hbreaks
    split at hbreaks
    · next started hjob =>
        have hover := hp d started hself hjob (of_decide_eq_true hbreaks)
        exact Bool.eq_false_iff.mpr fun hrunning => (hquery started hjob).mp hrunning hover
    · cases hbreaks
  · intro hends d' started hself' hjob hlate
    rw [hself] at hself'
    cases hself'
    by_contra hover
    have hbreaks : d.job.breaks checked = true := by
      rw [hjob]
      exact decide_eq_true hlate
    have hrunning := (hquery started hjob).mpr hover
    rw [hends hbreaks] at hrunning
    cases hrunning

/-- **One poll of a task.** If the loop breaks before the task has ended, the task still owns the
    lock. -/
theorem poll_inv {checked : Uptime} (hi : Inv s.twoWire1 s.live)
    (h : step SENSOR M bus s (.poll self now checked) = some s') :
    (Patient s (.poll self now checked : Input E B) ∧ Inv s'.twoWire1 s'.live) ∨
      (¬ Patient s (.poll self now checked : Input E B) ∧ ¬ Given s') := by
  unfold step at h
  dsimp only at h
  split at h
  · cases h
  · next d hself =>
      obtain ⟨⟨e, t⟩, hrun, heq⟩ := Option.map_eq_some_iff.mp h
      dsimp only at heq
      have hpatient := patient_poll_iff (E := E) checked hself hrun
      cases runTask_polled hrun with
      | ends t₁ he ht hreturns =>
          rw [if_neg (by simp [he])] at heq
          subst heq
          refine Or.inl ⟨hpatient.mpr fun _ => he, ?_⟩
          -- only whether the task held the lock matters, and then it is gone
          have hlast : Inv t₁.twoWire1
              (Function.update s.live self (some { t₁.task with job := .gatherReadings })) :=
            hi.turn (t := { t₁ with task := { t₁.task with job := .gatherReadings } }) (Or.inl hself)
              (ht.congr rfl rfl) fun _ hjob => nomatch hjob
          have hgone := hlast.remove hreturns
          rw [Function.update_idem] at hgone
          exact hgone
      | goesOn he ht hjob =>
          by_cases hbreaks : d.job.breaks checked = true
          · rw [if_neg (by simp [hbreaks])] at heq
            subst heq
            refine Or.inr ⟨fun hp => ?_, fun hgiven => ?_⟩
            · rw [hpatient.mp hp hbreaks] at he
              cases he
            · have hheld : d.held = true := by
                unfold Job.breaks at hbreaks
                split at hbreaks
                · next n hquery => exact hi.query self d n hself hquery
                · cases hbreaks
              have howner : t.twoWire1.owner = some self := by
                rcases ht with ⟨hlock, _⟩ | ⟨_, hlock, _⟩
                · rw [hlock]
                  exact (hi.owner self).mpr ⟨d, hself, hheld⟩
                · rw [hlock]
              exact hgiven.back self ((Peripheral.isOwner_iff self _).mpr howner)
                (by simp [Bus.update])
          · have hgoes := Bool.eq_false_iff.mpr hbreaks
            rw [if_pos ⟨he, hgoes⟩] at heq
            subst heq
            refine Or.inl ⟨hpatient.mpr fun h => absurd h hbreaks, hi.turn (Or.inl hself) ht ?_⟩
            intro n hquery
            rcases hjob with hjob | ⟨_, hjob⟩
            · have hheld := hi.query self d n hself (hjob.symm.trans hquery)
              rcases ht with ⟨_, hkept⟩ | ⟨_, _, hheld'⟩
              · exact hkept.trans hheld
              · exact hheld'
            · rw [hjob] at hquery
              cases hquery

/-- **One step**: patient, and the lock stays with who holds it, or it is not given back. -/
theorem step_inv {i : Input E B} (hi : Inv s.twoWire1 s.live) (h : step SENSOR M bus s i = some s') :
    (Patient s i ∧ Inv s'.twoWire1 s'.live) ∨ (¬ Patient s i ∧ ¬ Given s') := by
  cases i with
  | poll self now checked => exact poll_inv hi h
  | scan self =>
      unfold step at h
      dsimp only at h
      split at h
      · cases h
      · next hself =>
          cases h
          exact Or.inl ⟨trivial, hi.add hself rfl fun _ hjob => nomatch hjob⟩
  | gather self acquired sensors =>
      unfold step at h
      dsimp only at h
      split at h
      · cases h
      · next hself =>
          cases h
          obtain ⟨ht, hjob⟩ := enqueueReadings_takes acquired sensors
            (s.turn { job := .gatherReadings })
          refine Or.inl ⟨trivial, hi.turn (Or.inr ⟨hself, rfl⟩) ht fun n hquery => ?_⟩
          rw [hjob] at hquery
          cases hquery
  | query self acquired started =>
      unfold step at h
      dsimp only at h
      split at h
      · cases h
      · next hself =>
          obtain ⟨t, ht, rfl⟩ := Option.map_eq_some_iff.mp h
          obtain ⟨htakes, hheld⟩ := enqueueQuery_takes ht
          exact Or.inl ⟨trivial, hi.turn (Or.inr ⟨hself, rfl⟩) htakes fun _ _ => hheld⟩
  | communications p =>
      cases h
      exact Or.inl ⟨trivial, hi⟩
  | modules devices =>
      cases h
      exact Or.inl ⟨trivial, hi⟩

end Steps

/-! ## 6. Whole runs -/

/-- **The lock is given back in exactly the runs in which `WifiQueryModule` never gives up** on a
    query whose transaction is not over: in all its states, for any modules, and for any order of
    the tasks. -/
theorem given_iff (SENSOR : BitVec 8) (M : ModuleQueries BusQuery O E ModuleReplyMessage β)
    (bus : TwoWireBus β B) (queries : O) (devices : B) {tr : List (Bus O β B × Input E B)}
    {s : Bus O β B} (h : Run (step SENSOR M bus) (start queries devices) tr s) :
    (Meets (fun s _ => Given s) tr ∧ Given s) ↔ Meets Patient tr := by
  refine h.meets_iff Patient (fun s => Inv s.twoWire1 s.live) Given inv_start
    (fun _ hi => hi.given) ?_
  intro s i s' hi hs
  rcases step_inv hi hs with ⟨hp, hi'⟩ | ⟨himpatient, hnot⟩
  · exact ⟨fun _ => hi', fun _ => hp⟩
  · exact ⟨fun hp => absurd hp himpatient, fun hgiven => absurd hgiven hnot⟩

end Tasks

/-! ## 7. A module that asks for one retry after the other -/

/-- Every query is a byte; whatever comes back is a reply of one type. -/
def replying (type : ReplyType) : ModuleQueries BusQuery Unit Unit ModuleReplyMessage Bool where
  replyConfig _ := ReplyConfig.Default
  prepare _ _ _ outgoing := ((), ModuleQuery.prepare [true] outgoing)
  tick _ _ _ outgoing := ((), outgoing)
  reply _ _ _ := ()
  decode bytes := bytes.head?.map fun _ => { type }
  replyType r := r.type
  tick_keeps _ _ _ _ _ := rfl

/-- A module that answers with what it was sent. -/
def echoBus : TwoWireBus Bool (List Bool) where
  send _ _ bytes := (true, bytes)
  receive d _ _ := (d, d)

/-- A reading of the clock. -/
def tick (n : Nat) : Ticking :=
  if h : BitVec.ofNat 32 n ≠ 0 then ⟨_, h⟩ else ⟨1, by decide⟩

/-- What the loop of the task at 4096 does at `now`: a poll of the task, and of the
    communications. -/
def roundAt (now : Ticking) : List (Input Unit (List Bool)) :=
  [.poll 4096 now now,
    .communications { clock := Clock.still now, offered := 255, room := 256, env := () }]

/-- A query at 500, and the rounds of `n` exchanges: the query is sent, and answered. -/
def exchanges (n : Nat) : List (Input Unit (List Bool)) :=
  .query 4096 (tick 500) 500 :: (List.range n).flatMap fun k =>
    [0, 10, 120, 130].flatMap fun offset => roundAt (tick (500 + 200 * k + offset))

/-- After 50 retries the loop gives up, and the lock is still the task's. -/
theorem retry_keeps_bus : ¬ ∀ (tr : List (Bus Unit Bool (List Bool) × Input Unit (List Bool)))
    (s : Bus Unit Bool (List Bool)),
    Run (step 1 (replying .REPLY_RETRY) echoBus) (start () []) tr s → Given s := by
  intro hall
  have hexec : (exec (step 1 (replying .REPLY_RETRY) echoBus) (start () [])
      (exchanges 50 ++ roundAt (tick 10510))).map
        (fun s => (s.twoWire1.owner, (s.live 4096).isNone)) = some (some 4096, true) := by
    decide +kernel
  obtain ⟨tr, s, hrun, hs⟩ := run_of_exec_map hexec
  obtain ⟨howner, hlive⟩ := Prod.mk.inj hs
  exact (hall tr s hrun).back 4096 ((Peripheral.isOwner_iff 4096 _).mpr howner)
    (Option.isNone_iff_eq_none.mp hlive)

/-- A query that is answered gives the lock back. -/
theorem given_iff_answered : ∃ tr s,
    Run (step 1 (replying (.other 0)) echoBus) (start () []) tr s ∧ s.twoWire1 = {} ∧
    ((Meets (fun s _ => Given s) tr ∧ Given s) ↔ Meets Patient tr) := by
  have hexec : (exec (step 1 (replying (.other 0)) echoBus) (start () [])
      (exchanges 1 ++ [.poll 4096 (tick 700) 700])).map (·.twoWire1) = some {} := by
    decide +kernel
  obtain ⟨tr, s, hrun, hs⟩ := run_of_exec_map hexec
  exact ⟨tr, s, hrun, hs, given_iff 1 (replying (.other 0)) echoBus () [] hrun⟩

end FieldKit.Peripherals

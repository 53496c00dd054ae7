/-
  File:      FieldKit/Core/Gps.lean
  Subject:   `GpsService` (gps.cpp): of which characters does a location come?

  `TinyGPS` is not of the source: it is what it makes of a character and what it reads of them, whatever
  that is. `alive()` lets the service read what has arrived, `TakeGpsReading` has it save what there is.
  Beside the state stand the characters it has heard, each with the time at which it was read at the
  earliest, and what it has saved, oldest first. Sentences that are traced, the LED and the clock's
  chip are left out.

  * `gps_total` -- in any run the echo stays inside its buffer, and no assertion fails;
  * `fixes_new` -- every location that is saved as valid is what TinyGPS makes of characters heard since
    the one before: none counts for two;
  * `fixes_fresh` -- and none is older than the interval at which TinyGPS is cleared, and the longest
    time between two rounds.
-/
import FieldKit.Lib.Run
import FieldKit.Core.State
import FieldKit.Time

namespace FieldKit.Gps

open Lib Time

/-! ## 1. The service -/

/-- `GpsReading`, as far as it is not only logged; `unixtime` is that of `toDateTime()`. Floats are their
    bits. -/
structure GpsReading where
  satellites : BitVec 8
  flon : BitVec 32
  flat : BitVec 32
  altitude : BitVec 32
  date : BitVec 32
  time : BitVec 32
  unixtime : BitVec 32
  deriving DecidableEq, Repr

/-- `TinyGPS`: new, with a character more, and read; and its numbers for what it does not know. -/
structure TinyGPS (γ : Type) where
  fresh : γ
  encode : γ → Byte → γ
  reading : γ → GpsReading
  invalidSatellites : BitVec 8
  invalidAngle : BitVec 32 → Bool
  invalidDate : BitVec 32
  invalidTime : BitVec 32

/-- `Configuration::Gps`. -/
structure Configuration where
  onDuration : Uptime := 20 * minutes
  statusInterval : Uptime := 10 * seconds
  clearInterval : Uptime := 5 * minutes
  requiredSatellites : BitVec 8 := 1
  echo : Bool := false
  deriving DecidableEq, Repr

/-- `GpsService`. -/
structure GpsService (γ : Type) where
  gps : γ
  configured : Bool := false
  disabled : Bool := false
  initial : Bool := false
  cleared : Uptime := 0
  status : Uptime := 0
  position : BitVec 16 := 0
  buffer : Vector Byte 64 := Vector.replicate 64 0

/-- A character, and the time from which on it was read. -/
structure Heard where
  time : Nat
  char : Byte
  deriving DecidableEq, Repr

/-- What was saved, when it was decided on: a fix, with the characters it comes of (those from `start` up
    to `stop` of all), or that there is none. -/
inductive Event where
  | fix (decided : Nat) (location : DeviceLocation) (start stop : Nat)
  | noFix (decided : Nat)
  deriving DecidableEq

/-- The service and the core state; the time, what was heard, from where on TinyGPS has heard it, when it
    was cleared and when that was looked at, and what was saved. -/
structure World (γ : Type) where
  gps : GpsService γ
  core : CoreState
  now : Nat := 0
  heard : List Heard := []
  start : Nat := 0
  clearedAt : Nat := 0
  checked : Nat := 0
  log : List Event := []

/-- What a round meets: the times of its readings of the clock, what arrived, and the save of a location,
    if there is one. -/
structure Round where
  began : Nat
  configured : Nat
  clears : Nat
  cleared : Nat
  reports : Nat
  reported : Nat
  lasts : Nat
  arrived : List Byte
  savedAt : BitVec 32
  saved : Bool
  deriving DecidableEq, Repr

/-- `'\n'`, `'\r'` and `'$'`. -/
def newline : Byte := 10

def carriageReturn : Byte := 13

def dollar : Byte := 36

section Service

variable {γ : Type} (T : TinyGPS γ) (cfg : Configuration)

/-- `valid()`. -/
def GpsReading.valid (r : GpsReading) : Bool :=
  if r.satellites = T.invalidSatellites then false
  else if r.satellites < cfg.requiredSatellites then false
  else if T.invalidAngle r.flon then false
  else if T.invalidAngle r.flat then false
  else if r.date = T.invalidDate then false
  else if r.time = T.invalidTime then false
  else true

/-- The location of a reading. -/
def GpsReading.location (r : GpsReading) : DeviceLocation where
  valid := 1
  time := r.unixtime
  coordinates := #v[r.flon, r.flat, r.altitude]

/-- `buffer_[position_] = c`; a write outside the buffer is `none`. -/
def GpsService.put (c : Byte) (g : GpsService γ) : Option (GpsService γ) :=
  if h : g.position.toNat < 64 then some { g with buffer := g.buffer.set g.position.toNat c h } else none

/-- A character for the echo. -/
def GpsService.echo (c : Byte) (g : GpsService γ) : Option (GpsService γ) :=
  if c = newline ∨ c = carriageReturn ∨ g.position = 63 then do
    let g ← if 0 < g.position ∧ g.buffer[0] = dollar then g.put 0 else some g
    return { g with position := 0 }
  else do
    let g ← g.put c
    return { g with position := g.position + 1 }

/-- The body of the loop over the serial port. -/
def GpsService.hear (g : GpsService γ) (c : Byte) : Option (GpsService γ) :=
  let g := { g with gps := T.encode g.gps c }
  if cfg.echo then g.echo c else some g

/-- TinyGPS is new. -/
def World.renewed (s : World γ) : World γ :=
  { s with gps := { s.gps with gps := T.fresh }, start := s.heard.length }

/-- The first part of `read()`. -/
def World.configure (p : Round) (s : World γ) : World γ :=
  if s.gps.configured then s
  else
    let s := s.renewed T
    { s with
      gps := { s.gps with
        configured := true
        position := 0
        cleared := clock p.began
        status := clock p.configured }
      clearedAt := p.began }

/-- The loop. -/
def World.hears (p : Round) (s : World γ) : Option (World γ) :=
  (p.arrived.foldlM (GpsService.hear T cfg) s.gps).map fun gps =>
    { s with gps, heard := s.heard ++ p.arrived.map fun c => { time := p.configured, char := c } }

/-- What comes of the interval at which TinyGPS is cleared. -/
def World.clear (p : Round) (s : World γ) : World γ :=
  let s := { s with checked := p.clears }
  if 0 < cfg.clearInterval ∧ cfg.clearInterval < clock p.clears - s.gps.cleared then
    let s := s.renewed T
    { s with gps := { s.gps with cleared := clock p.cleared }, clearedAt := p.cleared }
  else s

/-- What `save(fix)` does. -/
def World.fixed (fix : GpsReading) (decided : Nat) (savedAt : BitVec 32) (saved : Bool) (s : World γ) :
    World γ :=
  let e : Event := .fix decided fix.location s.start s.heard.length
  let s := s.renewed T
  { s with
    gps := { s.gps with initial := true }
    core := s.core.updateLocation fix.location savedAt saved
    log := s.log ++ [e] }

/-- `save(fix)`, with its assertions. -/
def World.saveFix (fix : GpsReading) (decided : Nat) (savedAt : BitVec 32) (saved : Bool) (s : World γ) :
    Option (World γ) :=
  if s.gps.disabled = false ∧ fix.valid T cfg = true then some (s.fixed T fix decided savedAt saved)
  else none

/-- What comes of the status interval. -/
def World.report (p : Round) (s : World γ) : Option (World γ) :=
  if 0 < cfg.statusInterval ∧ cfg.statusInterval < clock p.reports - s.gps.status then do
    let fix := T.reading s.gps.gps
    let s ← if fix.valid T cfg then s.saveFix T cfg fix p.reports p.savedAt p.saved else some s
    return { s with gps := { s.gps with status := clock p.reported } }
  else some s

/-- The end of `read()`. -/
def World.last (p : Round) (s : World γ) : World γ :=
  let s := { s with now := p.lasts }
  if 0 < cfg.onDuration ∧ cfg.onDuration < clock p.lasts then
    { s with gps := { s.gps with disabled := true } }
  else s

/-- `read()`. -/
def World.read (p : Round) (s : World γ) : Option (World γ) :=
  if s.gps.disabled then some { s with now := p.lasts }
  else do
    let s ← (s.configure T p).hears T cfg p
    let s ← (s.clear T cfg p).report T cfg p
    return s.last cfg p

/-- `save()`. -/
def World.save (decided : Nat) (savedAt : BitVec 32) (saved : Bool) (s : World γ) :
    Option (World γ) :=
  let s := { s with now := decided }
  if s.gps.disabled then some s
  else
    let fix := T.reading s.gps.gps
    if fix.valid T cfg then s.saveFix T cfg fix decided savedAt saved
    else
      some { s with
        core := s.core.updateLocation {} savedAt saved
        log := s.log ++ [.noFix decided] }

/-- What happens: a round of `alive()`, or `TakeGpsReading`. -/
inductive Input where
  | read (p : Round)
  | save (time : Nat) (savedAt : BitVec 32) (saved : Bool)
  deriving DecidableEq, Repr

/-- Time does not go back. -/
def InOrder (now : Nat) : Input → Prop
  | .read p => now ≤ p.began ∧ p.began ≤ p.configured ∧ p.configured ≤ p.clears ∧ p.clears ≤ p.cleared ∧
    p.cleared ≤ p.reports ∧ p.reports ≤ p.reported ∧ p.reported ≤ p.lasts
  | .save time _ _ => now ≤ time

instance (now : Nat) (i : Input) : Decidable (InOrder now i) :=
  match i with
  | .read _ => inferInstanceAs (Decidable (_ ∧ _))
  | .save time _ _ => inferInstanceAs (Decidable (now ≤ time))

/-- The machine. -/
def step (s : World γ) (i : Input) : Option (World γ) :=
  if InOrder s.now i then
    match i with
    | .read p => s.read T cfg p
    | .save time savedAt saved => s.save T cfg time savedAt saved
  else none

/-- After a reset. -/
def start (core : CoreState) : World γ where
  gps := { gps := T.fresh }
  core := core

end Service

/-! ## 2. What is saved -/

section Saved

variable {γ : Type} (T : TinyGPS γ) (cfg : Configuration)

/-- What TinyGPS makes of characters. -/
def decoded (heard : List Heard) : γ := heard.foldl (fun g c => T.encode g c.char) T.fresh

/-- The characters from one place up to another. -/
def between (heard : List Heard) (a b : Nat) : List Heard := (heard.take b).drop a

/-- **A fix is what TinyGPS makes of its characters**, and valid. -/
def Event.Sound (heard : List Heard) : Event → Prop
  | .fix _ location a b =>
    (T.reading (decoded T (between heard a b))).valid T cfg = true ∧
      location = (T.reading (decoded T (between heard a b))).location
  | .noFix _ => True

/-- The characters end in front of a place. -/
def Event.Before (n : Nat) : Event → Prop
  | .fix _ _ a b => a ≤ b ∧ b ≤ n
  | .noFix _ => True

/-- **Two fixes have no character in common.** -/
def Apart : Event → Event → Prop
  | .fix _ _ _ b, .fix _ _ a _ => b ≤ a
  | _, _ => True

/-- What was saved last. -/
def Event.location : Event → DeviceLocation
  | .fix _ location _ _ => location
  | .noFix _ => {}

/-- The location of the core state, which is that of the beginning if nothing was saved. -/
def located (core : CoreState) (log : List Event) : DeviceLocation :=
  (log.getLast?.map Event.location).getD core.location

/-- The invariant. -/
structure Inv (core : CoreState) (s : World γ) : Prop where
  position : s.gps.position.toNat < 64
  start : s.start ≤ s.heard.length
  fed : s.gps.gps = decoded T (s.heard.drop s.start)
  sound : ∀ e ∈ s.log, e.Sound T cfg s.heard
  before : ∀ e ∈ s.log, e.Before s.start
  apart : s.log.Pairwise Apart
  located : s.core.location = located core s.log

/-- All characters from one place on. -/
theorem between_all (heard : List Heard) (a : Nat) :
    between heard a heard.length = heard.drop a := by
  unfold between
  rw [List.take_length]

/-- There are none behind the last. -/
theorem not_heard {heard : List Heard} {c : Heard} (hc : c ∈ heard.drop heard.length) : False := by
  rw [List.drop_length] at hc
  cases hc

variable {T cfg} {core : CoreState} {s : World γ}

/-- TinyGPS that is new has heard nothing. -/
theorem Inv.renewed (hi : Inv T cfg core s) : Inv T cfg core (s.renewed T) where
  position := hi.position
  start := Nat.le_refl _
  fed := by
    show T.fresh = decoded T (s.heard.drop s.heard.length)
    rw [List.drop_length]
    rfl
  sound := hi.sound
  before e he := by
    have hbefore := hi.before e he
    cases e with
    | fix decided location a b => exact ⟨hbefore.1, hbefore.2.trans hi.start⟩
    | noFix decided => trivial
  apart := hi.apart
  located := hi.located

variable (T) in
theorem configure_inv (hi : Inv T cfg core s) (p : Round) : Inv T cfg core (s.configure T p) := by
  unfold World.configure
  split
  · exact hi
  · have hrenewed := hi.renewed
    exact ⟨(by decide : (0 : BitVec 16).toNat < 64), hrenewed.start, hrenewed.fed, hrenewed.sound,
      hrenewed.before, hrenewed.apart, hrenewed.located⟩

/-- **A character for the echo** stays inside of the buffer. -/
theorem echo_some {g : GpsService γ} (hposition : g.position.toNat < 64) (c : Byte) :
    ∃ position buffer, position.toNat < 64 ∧ g.echo c = some { g with position, buffer } := by
  have hput (c : Byte) : g.put c = some { g with buffer := g.buffer.set g.position.toNat c hposition } :=
    dif_pos hposition
  unfold GpsService.echo
  split
  · split
    · rw [hput]
      exact ⟨0, _, by decide, rfl⟩
    · exact ⟨0, g.buffer, by decide, rfl⟩
  · next hend =>
      rw [hput]
      refine ⟨g.position + 1, _, ?_, rfl⟩
      have hne : g.position ≠ 63 := fun h => hend (Or.inr (Or.inr h))
      have hne : g.position.toNat ≠ 63 := fun h => hne (BitVec.eq_of_toNat_eq h)
      rw [BitVec.toNat_add]
      show (g.position.toNat + 1) % 2 ^ 16 < 64
      omega

variable (T cfg) in
/-- **One character.** -/
theorem hear_some {g : GpsService γ} (hposition : g.position.toNat < 64) (c : Byte) :
    ∃ position buffer, position.toNat < 64 ∧
      g.hear T cfg c = some { g with gps := T.encode g.gps c, position, buffer } := by
  unfold GpsService.hear
  dsimp only
  split
  · exact echo_some (g := { g with gps := T.encode g.gps c }) hposition c
  · exact ⟨g.position, g.buffer, hposition, rfl⟩

variable (T cfg) in
/-- **All that have arrived.** -/
theorem hearAll_some (cs : List Byte) {g : GpsService γ} (hposition : g.position.toNat < 64) :
    ∃ position buffer, position.toNat < 64 ∧
      cs.foldlM (GpsService.hear T cfg) g =
        some { g with gps := cs.foldl T.encode g.gps, position, buffer } := by
  induction cs generalizing g with
  | nil => exact ⟨g.position, g.buffer, hposition, rfl⟩
  | cons c cs ih =>
      obtain ⟨position, buffer, hlt, hhear⟩ := hear_some T cfg hposition c
      obtain ⟨position', buffer', hlt', hrest⟩ :=
        ih (g := { g with gps := T.encode g.gps c, position, buffer }) hlt
      refine ⟨position', buffer', hlt', ?_⟩
      rw [List.foldlM_cons, hhear]
      exact hrest

/-- The characters of a fix stay where they are. -/
theorem between_append {heard : List Heard} {b : Nat} (hb : b ≤ heard.length) (more : List Heard)
    (a : Nat) : between (heard ++ more) a b = between heard a b := by
  unfold between
  rw [List.take_append_of_le_length hb]

/-- **The loop** hears what has arrived. -/
theorem hears_some (hi : Inv T cfg core s) (p : Round) :
    ∃ gps position buffer, s.hears T cfg p = some { s with
        gps := { s.gps with gps, position, buffer }
        heard := s.heard ++ p.arrived.map fun c => { time := p.configured, char := c } } ∧
      Inv T cfg core { s with
        gps := { s.gps with gps, position, buffer }
        heard := s.heard ++ p.arrived.map fun c => { time := p.configured, char := c } } := by
  obtain ⟨position, buffer, hlt, hall⟩ := hearAll_some T cfg p.arrived hi.position
  refine ⟨p.arrived.foldl T.encode s.gps.gps, position, buffer, ?_, hlt, ?_, ?_, ?_, hi.before, hi.apart,
    hi.located⟩
  · unfold World.hears
    rw [hall]
    rfl
  · show s.start ≤ (s.heard ++ _).length
    rw [List.length_append]
    exact hi.start.trans (Nat.le_add_right _ _)
  · show p.arrived.foldl T.encode s.gps.gps = decoded T ((s.heard ++ _).drop s.start)
    rw [List.drop_append_of_le_length hi.start, hi.fed]
    unfold decoded
    rw [List.foldl_append, List.foldl_map]
  · intro e he
    have hsound := hi.sound e he
    have hbefore := hi.before e he
    cases e with
    | fix decided location a b =>
        show _ ∧ _
        rw [between_append (hbefore.2.trans hi.start)]
        exact hsound
    | noFix decided => trivial

variable (cfg) in
theorem clear_inv (hi : Inv T cfg core s) (p : Round) : Inv T cfg core (s.clear T cfg p) := by
  have hrenewed := hi.renewed
  unfold World.clear
  dsimp only
  split
  · exact ⟨hrenewed.position, hrenewed.start, hrenewed.fed, hrenewed.sound, hrenewed.before,
      hrenewed.apart, hrenewed.located⟩
  · exact ⟨hi.position, hi.start, hi.fed, hi.sound, hi.before, hi.apart, hi.located⟩

/-- What is saved last is located. -/
theorem located_concat (core : CoreState) (log : List Event) (e : Event) :
    located core (log ++ [e]) = e.location := by
  unfold located
  rw [List.getLast?_concat]
  rfl

/-- **A fix that is saved.** -/
theorem fixed_inv (hi : Inv T cfg core s) (hvalid : (T.reading s.gps.gps).valid T cfg = true)
    (decided : Nat) (savedAt : BitVec 32) (saved : Bool) :
    Inv T cfg core (s.fixed T (T.reading s.gps.gps) decided savedAt saved) := by
  have hrenewed := hi.renewed
  refine ⟨hrenewed.position, hrenewed.start, hrenewed.fed, fun e he => ?_, fun e he => ?_, ?_, ?_⟩
  · rcases List.mem_append.mp he with he | he
    · exact hi.sound e he
    · have hnew : (Event.fix decided (T.reading s.gps.gps).location s.start s.heard.length).Sound T cfg
          s.heard := by
        show _ ∧ _
        rw [between_all, ← hi.fed]
        exact ⟨hvalid, rfl⟩
      cases List.mem_singleton.mp he
      exact hnew
  · rcases List.mem_append.mp he with he | he
    · exact hrenewed.before e he
    · cases List.mem_singleton.mp he
      exact ⟨hi.start, Nat.le_refl _⟩
  · refine List.pairwise_append.mpr ⟨hi.apart, List.pairwise_singleton _ _, fun e he f hf => ?_⟩
    cases List.mem_singleton.mp hf
    have hbefore := hi.before e he
    cases e with
    | fix decided' location a b => exact hbefore.2
    | noFix decided' => trivial
  · exact (located_concat core s.log
      (.fix decided (T.reading s.gps.gps).location s.start s.heard.length)).symm

variable (T cfg) in
/-- **What comes of the status interval**: nothing but its time, or a fix. -/
theorem report_some (hdisabled : s.gps.disabled = false) (p : Round) :
    ∃ s' status, s.report T cfg p = some { s' with gps := { s'.gps with status } } ∧
      (s' = s ∨ (T.reading s.gps.gps).valid T cfg = true ∧
        s' = s.fixed T (T.reading s.gps.gps) p.reports p.savedAt p.saved) := by
  unfold World.report
  split
  · by_cases hvalid : (T.reading s.gps.gps).valid T cfg = true
    · have hsave : s.saveFix T cfg (T.reading s.gps.gps) p.reports p.savedAt p.saved =
          some (s.fixed T (T.reading s.gps.gps) p.reports p.savedAt p.saved) :=
        if_pos ⟨hdisabled, hvalid⟩
      dsimp only
      rw [if_pos hvalid, hsave]
      exact ⟨_, _, rfl, Or.inr ⟨hvalid, rfl⟩⟩
    · dsimp only
      rw [if_neg hvalid]
      exact ⟨s, _, rfl, Or.inl rfl⟩
  · exact ⟨s, s.gps.status, rfl, Or.inl rfl⟩

/-- The parts of a round leave the service as able as it was. -/
theorem configure_disabled (s : World γ) (p : Round) :
    (s.configure T p).gps.disabled = s.gps.disabled := by
  unfold World.configure
  split
  · rfl
  · rfl

theorem clear_disabled (s : World γ) (p : Round) :
    (s.clear T cfg p).gps.disabled = s.gps.disabled := by
  unfold World.clear
  dsimp only
  split
  · rfl
  · rfl

/-- **A round**, part by part. -/
theorem read_some (hi : Inv T cfg core s) (hdisabled : s.gps.disabled = false) (p : Round) :
    ∃ gps position buffer s' status,
      let heard : World γ := { s.configure T p with
        gps := { (s.configure T p).gps with gps, position, buffer }
        heard := (s.configure T p).heard ++ p.arrived.map fun c => { time := p.configured, char := c } }
      let cleared := heard.clear T cfg p
      Inv T cfg core cleared ∧
      s.read T cfg p = some (World.last cfg p { s' with gps := { s'.gps with status } }) ∧
      (s' = cleared ∨ (T.reading cleared.gps.gps).valid T cfg = true ∧
        s' = cleared.fixed T (T.reading cleared.gps.gps) p.reports p.savedAt p.saved) := by
  obtain ⟨gps, position, buffer, hhears, hheard⟩ := hears_some (configure_inv T hi p) p
  have hcleared := clear_inv cfg hheard p
  have hable : (World.clear T cfg p { s.configure T p with
      gps := { (s.configure T p).gps with gps, position, buffer }
      heard := (s.configure T p).heard ++ p.arrived.map fun c =>
        { time := p.configured, char := c } }).gps.disabled = false := by
    rw [clear_disabled]
    exact (configure_disabled s p).trans hdisabled
  obtain ⟨s', status, hreport, hcases⟩ := report_some T cfg hable p
  refine ⟨gps, position, buffer, s', status, hcleared, ?_, hcases⟩
  unfold World.read
  rw [if_neg (by rw [hdisabled]; exact Bool.false_ne_true), hhears]
  dsimp only [Option.bind_eq_bind, Option.bind_some]
  rw [hreport]
  rfl

/-- A status, and the end of a round. -/
theorem Inv.last (hi : Inv T cfg core s) (p : Round) (status : Uptime) :
    Inv T cfg core (World.last cfg p { s with gps := { s.gps with status } }) := by
  unfold World.last
  dsimp only
  split
  · exact ⟨hi.position, hi.start, hi.fed, hi.sound, hi.before, hi.apart, hi.located⟩
  · exact ⟨hi.position, hi.start, hi.fed, hi.sound, hi.before, hi.apart, hi.located⟩

variable (T cfg) in
/-- **`save()`** of a service that is on: a fix, or that there is none. -/
theorem save_some (hdisabled : s.gps.disabled = false) (time : Nat) (savedAt : BitVec 32) (saved : Bool) :
    ((T.reading s.gps.gps).valid T cfg = true ∧ s.save T cfg time savedAt saved =
        some (World.fixed T (T.reading s.gps.gps) time savedAt saved { s with now := time })) ∨
      s.save T cfg time savedAt saved = some { s with
        now := time
        core := s.core.updateLocation {} savedAt saved
        log := s.log ++ [.noFix time] } := by
  unfold World.save
  dsimp only
  rw [if_neg (by rw [hdisabled]; exact Bool.false_ne_true)]
  by_cases hvalid : (T.reading s.gps.gps).valid T cfg = true
  · rw [if_pos hvalid]
    exact Or.inl ⟨hvalid, if_pos ⟨hdisabled, hvalid⟩⟩
  · rw [if_neg hvalid]
    exact Or.inr rfl

/-- That there is no fix. -/
theorem noFix_inv (hi : Inv T cfg core s) (time : Nat) (savedAt : BitVec 32) (saved : Bool) :
    Inv T cfg core { s with
      now := time
      core := s.core.updateLocation {} savedAt saved
      log := s.log ++ [.noFix time] } := by
  refine ⟨hi.position, hi.start, hi.fed, fun e he => ?_, fun e he => ?_, ?_, ?_⟩
  · rcases List.mem_append.mp he with he | he
    · exact hi.sound e he
    · cases List.mem_singleton.mp he
      trivial
  · rcases List.mem_append.mp he with he | he
    · exact hi.before e he
    · cases List.mem_singleton.mp he
      trivial
  · refine List.pairwise_append.mpr ⟨hi.apart, List.pairwise_singleton _ _, fun e _ f hf => ?_⟩
    cases List.mem_singleton.mp hf
    cases e <;> trivial
  · exact (located_concat core s.log (.noFix time)).symm

variable (T cfg) in
/-- **Every step comes about, and keeps the invariant**, if time does not go back. -/
theorem step_some (hi : Inv T cfg core s) {i : Input} (horder : InOrder s.now i) :
    ∃ s', step T cfg s i = some s' ∧ Inv T cfg core s' := by
  unfold step
  rw [if_pos horder]
  cases i with
  | read p =>
      cases hdisabled : s.gps.disabled with
      | true =>
          refine ⟨{ s with now := p.lasts }, if_pos hdisabled, ?_⟩
          exact ⟨hi.position, hi.start, hi.fed, hi.sound, hi.before, hi.apart, hi.located⟩
      | false =>
          obtain ⟨gps, position, buffer, s', status, hcleared, hread, hcases⟩ := read_some hi hdisabled p
          refine ⟨_, hread, ?_⟩
          rcases hcases with rfl | ⟨hvalid, rfl⟩
          · exact hcleared.last p status
          · exact (fixed_inv hcleared hvalid p.reports p.savedAt p.saved).last p status
  | save time savedAt saved =>
      have hnow : Inv T cfg core { s with now := time } :=
        ⟨hi.position, hi.start, hi.fed, hi.sound, hi.before, hi.apart, hi.located⟩
      cases hdisabled : s.gps.disabled with
      | true => exact ⟨{ s with now := time }, if_pos hdisabled, hnow⟩
      | false =>
          rcases save_some T cfg hdisabled time savedAt saved with ⟨hvalid, hsave⟩ | hsave
          · exact ⟨_, hsave, fixed_inv hnow hvalid time savedAt saved⟩
          · exact ⟨_, hsave, noFix_inv hi time savedAt saved⟩

end Saved

/-! ## 3. How old it is -/

/-- None of its characters is older. -/
def Event.Young (heard : List Heard) (age : Nat) : Event → Prop
  | .fix decided _ a b => ∀ c ∈ between heard a b, decided ≤ c.time + age
  | .noFix _ => True

section Age

variable {γ : Type} {T : TinyGPS γ} {cfg : Configuration} {core : CoreState} {s s' : World γ}

/-- **Rounds follow each other soon**, as long as the service is on, and `TakeGpsReading` upon them: no
    more than `H` after TinyGPS was looked at. -/
def Prompt (H : Nat) (s : World γ) : Input → Prop
  | .read p => s.gps.disabled = false →
    (s.gps.configured = true → p.clears ≤ s.checked + H) ∧ p.lasts ≤ p.began + H
  | .save time _ _ => s.gps.disabled = false → s.gps.configured = true → time ≤ s.checked + H

instance (H : Nat) (s : World γ) (i : Input) : Decidable (Prompt H s i) :=
  match i with
  | .read _ => inferInstanceAs (Decidable (_ → _ ∧ _))
  | .save _ _ _ => inferInstanceAs (Decidable (_ → _ → _))

variable (cfg) in
/-- **What is known of the times**, up to the time `t`: when TinyGPS was cleared, that it was looked at
    soon after that, and that it has heard nothing older. -/
structure Aged (H t : Nat) (s : World γ) : Prop where
  cleared : s.gps.cleared = clock s.clearedAt
  past : s.clearedAt ≤ t
  checked : s.checked ≤ s.clearedAt + cfg.clearInterval.toNat
  later : ∀ c ∈ s.heard.drop s.start, s.clearedAt ≤ c.time
  idle : s.gps.configured = false → s.heard = []
  young : ∀ e ∈ s.log, e.Young s.heard (cfg.clearInterval.toNat + H)

variable {H t : Nat}

theorem configure_aged (ha : Aged cfg H t s) {p : Round} (hbegan : t ≤ p.began) :
    Aged cfg H p.began (s.configure T p) := by
  unfold World.configure
  split
  · exact ⟨ha.cleared, ha.past.trans hbegan, ha.checked, ha.later, ha.idle, ha.young⟩
  · exact ⟨rfl, Nat.le_refl _, ha.checked.trans (Nat.add_le_add_right (ha.past.trans hbegan) _),
      fun c hc => (not_heard hc).elim, fun h => (by cases h), ha.young⟩

theorem hears_aged (hi : Inv T cfg core s) (ha : Aged cfg H t s) (hconfigured : s.gps.configured = true)
    {p : Round} (hheard : t ≤ p.configured) (gps : γ) (position : BitVec 16) (buffer : Vector Byte 64) :
    Aged cfg H t { s with
      gps := { s.gps with gps, position, buffer }
      heard := s.heard ++ p.arrived.map fun c => { time := p.configured, char := c } } := by
  refine ⟨ha.cleared, ha.past, ha.checked, fun c hc => ?_, fun h => absurd (hconfigured.symm.trans h)
    (by decide), fun e he => ?_⟩
  · have hc : c ∈ (s.heard ++ p.arrived.map fun c =>
        ({ time := p.configured, char := c } : Heard)).drop s.start := hc
    rw [List.drop_append_of_le_length hi.start] at hc
    rcases List.mem_append.mp hc with hc | hc
    · exact ha.later c hc
    · obtain ⟨b, -, rfl⟩ := List.mem_map.mp hc
      exact ha.past.trans hheard
  · have hyoung := ha.young e he
    have hbefore := hi.before e he
    cases e with
    | fix decided location a b =>
        show ∀ c ∈ between _ a b, _
        rw [between_append (hbefore.2.trans hi.start)]
        exact hyoung
    | noFix decided => trivial

/-- **TinyGPS is looked at**: it was cleared no longer ago than the interval, or it is now. -/
theorem clear_aged (ha : Aged cfg H t s) {p : Round} (hinterval : 0 < cfg.clearInterval)
    (hperiod : cfg.clearInterval.toNat + H < period)
    (hclears : p.clears ≤ s.clearedAt + cfg.clearInterval.toNat + H) (ht : t ≤ p.clears)
    (hcleared : p.clears ≤ p.cleared) :
    Aged cfg H p.cleared (s.clear T cfg p) ∧ (s.clear T cfg p).checked = p.clears := by
  have hpast : s.clearedAt ≤ p.clears := ha.past.trans ht
  unfold World.clear
  dsimp only
  split
  · exact ⟨⟨rfl, Nat.le_refl _, hcleared.trans (Nat.le_add_right _ _),
      fun c hc => (not_heard hc).elim, ha.idle, ha.young⟩, rfl⟩
  · next hkept =>
      have hle : (clock p.clears - s.gps.cleared).toNat ≤ cfg.clearInterval.toNat :=
        Nat.le_of_not_lt fun hlt => hkept ⟨hinterval, hlt⟩
      rw [ha.cleared, clock_sub_toNat hpast (by omega)] at hle
      exact ⟨⟨ha.cleared, hpast.trans hcleared, by show p.clears ≤ s.clearedAt + _; omega,
        ha.later, ha.idle, ha.young⟩, rfl⟩

/-- **A fix**, decided on soon after TinyGPS was looked at. -/
theorem fixed_aged (ha : Aged cfg H t s) {decided : Nat} (hdecided : s.heard.drop s.start = [] ∨
      decided ≤ s.clearedAt + cfg.clearInterval.toNat + H) (fix : GpsReading) (savedAt : BitVec 32)
    (saved : Bool) : Aged cfg H t (s.fixed T fix decided savedAt saved) := by
  have hnew : (Event.fix decided fix.location s.start s.heard.length).Young s.heard
      (cfg.clearInterval.toNat + H) := by
    intro c hc
    rw [between_all] at hc
    rcases hdecided with hnone | hsoon
    · rw [hnone] at hc
      cases hc
    · have hlater := ha.later c hc
      omega
  refine ⟨ha.cleared, ha.past, ha.checked, fun c hc => (not_heard hc).elim, ha.idle, fun e he => ?_⟩
  rcases List.mem_append.mp he with he | he
  · exact ha.young e he
  · cases List.mem_singleton.mp he
    exact hnew

theorem last_aged (ha : Aged cfg H t s) {p : Round} (hlasts : t ≤ p.lasts) (status : Uptime) :
    Aged cfg H (World.last cfg p { s with gps := { s.gps with status } }).now
      (World.last cfg p { s with gps := { s.gps with status } }) := by
  unfold World.last
  dsimp only
  split
  · exact ⟨ha.cleared, ha.past.trans hlasts, ha.checked, ha.later, ha.idle, ha.young⟩
  · exact ⟨ha.cleared, ha.past.trans hlasts, ha.checked, ha.later, ha.idle, ha.young⟩

theorem configured_configure (s : World γ) (p : Round) : (s.configure T p).gps.configured = true := by
  unfold World.configure
  split
  · next h => exact h
  · rfl

/-- When TinyGPS is looked at, it was not cleared long ago. -/
theorem clears_le (ha : Aged cfg H s.now s) {p : Round}
    (hprompt : (s.gps.configured = true → p.clears ≤ s.checked + H) ∧ p.lasts ≤ p.began + H)
    (hclears : p.clears ≤ p.lasts) :
    p.clears ≤ (s.configure T p).clearedAt + cfg.clearInterval.toNat + H := by
  have hchecked := ha.checked
  unfold World.configure
  split
  · next hconfigured =>
      have hle := hprompt.1 hconfigured
      omega
  · have hle := hprompt.2
    show p.clears ≤ p.began + _ + _
    omega

/-- **A prompt step.** -/
theorem step_aged (hinterval : 0 < cfg.clearInterval) (hperiod : cfg.clearInterval.toNat + H < period)
    (hi : Inv T cfg core s) (ha : Aged cfg H s.now s) {i : Input} (hprompt : Prompt H s i)
    (h : step T cfg s i = some s') : Aged cfg H s'.now s' := by
  unfold step at h
  split at h
  · next horder =>
      cases i with
      | read p =>
          obtain ⟨hbegan, hconfigured, hclears, hcleared, hreports, hreported, hlasts⟩ := horder
          cases hdisabled : s.gps.disabled with
          | true =>
              have hsame : s.read T cfg p = some { s with now := p.lasts } := if_pos hdisabled
              cases hsame.symm.trans h
              exact ⟨ha.cleared, ha.past.trans (by show s.now ≤ p.lasts; omega), ha.checked, ha.later,
                ha.idle, ha.young⟩
          | false =>
              obtain ⟨gps, position, buffer, s1, status, -, hread, hcases⟩ := read_some hi hdisabled p
              have hprompt := hprompt hdisabled
              have hfirst := configure_aged (T := T) ha hbegan
              have hheard := hears_aged (configure_inv T hi p) hfirst (configured_configure s p) hconfigured
                gps position buffer
              obtain ⟨hlooked, hchecked⟩ := clear_aged (T := T) hheard hinterval hperiod
                (clears_le ha hprompt (by omega)) (by omega) hcleared
              cases hread.symm.trans h
              rcases hcases with rfl | ⟨-, rfl⟩
              · exact last_aged hlooked (by omega) status
              · refine last_aged (fixed_aged hlooked (Or.inr ?_) _ _ _) (by omega) status
                have hsoon := hlooked.checked
                have hle := hprompt.2
                rw [hchecked] at hsoon
                omega
      | save time savedAt saved =>
          have hnow : Aged cfg H time { s with now := time } :=
            ⟨ha.cleared, ha.past.trans horder, ha.checked, ha.later, ha.idle, ha.young⟩
          cases hdisabled : s.gps.disabled with
          | true =>
              have hsame : s.save T cfg time savedAt saved = some { s with now := time } := if_pos hdisabled
              cases hsame.symm.trans h
              exact hnow
          | false =>
              have hsoon : s.heard.drop s.start = [] ∨
                  time ≤ s.clearedAt + cfg.clearInterval.toNat + H := by
                cases hconfigured : s.gps.configured with
                | true =>
                    have hle := hprompt hdisabled hconfigured
                    have hchecked := ha.checked
                    exact Or.inr (by omega)
                | false => exact Or.inl (by rw [ha.idle hconfigured, List.drop_nil])
              rcases save_some T cfg hdisabled time savedAt saved with ⟨-, hsave⟩ | hsave
              · cases hsave.symm.trans h
                exact fixed_aged hnow hsoon _ _ _
              · cases hsave.symm.trans h
                refine ⟨ha.cleared, ha.past.trans horder, ha.checked, ha.later, ha.idle, fun e he => ?_⟩
                rcases List.mem_append.mp he with he | he
                · exact ha.young e he
                · cases List.mem_singleton.mp he
                  trivial
  · cases h

end Age

/-! ## 4. Runs -/

section Runs

variable {γ : Type} (T : TinyGPS γ) (cfg : Configuration)

theorem inv_start (core : CoreState) : Inv T cfg core (start T core) where
  position := (by decide : (0 : BitVec 16).toNat < 64)
  start := Nat.le_refl _
  fed := rfl
  sound _ he := absurd he List.not_mem_nil
  before _ he := absurd he List.not_mem_nil
  apart := List.Pairwise.nil
  located := rfl

theorem aged_start (H : Nat) (core : CoreState) : Aged cfg H (start T core).now (start T core) where
  cleared := rfl
  past := Nat.le_refl _
  checked := Nat.zero_le _
  later _ hc := absurd hc List.not_mem_nil
  idle _ := rfl
  young _ he := absurd he List.not_mem_nil

variable {T cfg} {core : CoreState} {tr : List (World γ × Input)} {s : World γ}

/-- **One step.** -/
theorem step_inv {s' : World γ} {i : Input} (hi : Inv T cfg core s) (hs : step T cfg s i = some s') :
    Inv T cfg core s' := by
  have horder : InOrder s.now i := by
    unfold step at hs
    split at hs
    · next horder => exact horder
    · cases hs
  obtain ⟨s'', hs'', hi'⟩ := step_some T cfg hi horder
  cases hs''.symm.trans hs
  exact hi'

theorem inv_run (h : Run (step T cfg) (start T core) tr s) : Inv T cfg core s :=
  h.inv (Inv T cfg core) (inv_start T cfg core) fun _ _ _ hi hs => step_inv hi hs

/-- **Whatever characters arrive**, no write goes outside of the echo's buffer and no assertion fails. -/
theorem gps_total (h : Run (step T cfg) (start T core) tr s) {i : Input} (horder : InOrder s.now i) :
    ∃ s', step T cfg s i = some s' := by
  obtain ⟨s', hs, -⟩ := step_some T cfg (inv_run h) horder
  exact ⟨s', hs⟩

/-- **Every fix is new**: it is what TinyGPS makes of characters that no other fix comes of, and it is valid;
    and the location of the core state is that of the last one, or none if there was none then. -/
theorem fixes_new (h : Run (step T cfg) (start T core) tr s) :
    (∀ e ∈ s.log, e.Sound T cfg s.heard ∧ e.Before s.heard.length) ∧ s.log.Pairwise Apart ∧
      s.core.location = located core s.log := by
  have hi := inv_run h
  refine ⟨fun e he => ⟨hi.sound e he, ?_⟩, hi.apart, hi.located⟩
  have hbefore := hi.before e he
  cases e with
  | fix decided location a b => exact ⟨hbefore.1, hbefore.2.trans hi.start⟩
  | noFix decided => trivial

/-- What a receiver sends that has a fix. -/
def sentences : List Byte :=
  ("$GPRMC,045104.000,A,3014.1985,N,09749.2873,W,0.67,161.46,030913,,,A*7B\r\n".toList ++
    "$GPGGA,045104.000,3014.1985,N,09749.2873,W,1,09,1.2,211.6,M,-22.5,M,,0000*62\r\n".toList).map
    fun c => BitVec.ofNat 8 c.toNat

/-- What TinyGPS reads of it, and what it reads of nothing. -/
def fixed : GpsReading :=
  ⟨9, 0xc2c3a496, 0x41f1e4a4, 0x4353999a, 30913, 4510400, 1378183864⟩

def unknown : GpsReading := ⟨0xff, 0x447a0000, 0x447a0000, 0x49742400, 0, 0xffffffff, 0⟩

/-- TinyGPS, as far as these sentences are concerned. -/
def tinyGps : TinyGPS (List Byte) where
  fresh := []
  encode g c := g ++ [c]
  reading g := if g = sentences then fixed else unknown
  invalidSatellites := 0xff
  invalidAngle a := a = 0x4e6e6b28
  invalidDate := 0
  invalidTime := 0xffffffff

/-- A round so short that all its readings of the clock are the same. -/
def round (time : Nat) (arrived : List Byte) : Round :=
  ⟨time, time, time, time, time, time, time, arrived, 0, true⟩

/-- The sentences are heard and reported; a reading behind that finds no fix, and one that has heard them
    again does. -/
def heardTwice : List Input :=
  [.read (round 1000 []), .read (round 12000 sentences), .save 12100 0 true,
   .read (round 21000 sentences), .save 21500 0 true]

theorem fixes_new_twice : ∃ tr s, Run (step tinyGps { echo := true }) (start tinyGps {}) tr s ∧
    s.log = [.fix 12000 fixed.location 0 150, .noFix 12100, .fix 21500 fixed.location 150 300] ∧
    (∀ e ∈ s.log, e.Sound tinyGps { echo := true } s.heard ∧ e.Before s.heard.length) ∧
      s.log.Pairwise Apart ∧ s.core.location = located {} s.log := by
  have hexec : (exec (step tinyGps { echo := true }) (start tinyGps {}) heardTwice).map (·.log) =
      some [.fix 12000 fixed.location 0 150, .noFix 12100, .fix 21500 fixed.location 150 300] := by
    decide +kernel
  obtain ⟨tr, s, hrun, hlog⟩ := run_of_exec_map hexec
  exact ⟨tr, s, hrun, hlog, fixes_new hrun⟩

/-- **Every fix is fresh**, however the clock wraps: none of its characters is older than the interval at
    which TinyGPS is cleared, and the time that a round, and one behind it, takes. -/
theorem fixes_fresh (hinterval : 0 < cfg.clearInterval) {H : Nat}
    (hperiod : cfg.clearInterval.toNat + H < period) (h : Run (step T cfg) (start T core) tr s)
    (hC : Meets (Prompt H) tr) : ∀ e ∈ s.log, e.Young s.heard (cfg.clearInterval.toNat + H) := by
  have hboth : Inv T cfg core s ∧ Aged cfg H s.now s :=
    h.inv_meets (Prompt H) (fun s => Inv T cfg core s ∧ Aged cfg H s.now s)
      ⟨inv_start T cfg core, aged_start T cfg H core⟩
      (fun _ _ _ hi hC hs => ⟨step_inv hi.1 hs, step_aged hinterval hperiod hi.1 hi.2 hC hs⟩) hC
  exact hboth.2.young

/-- Rounds no more than twelve seconds apart. -/
theorem fixes_fresh_twice : ∃ tr s, Run (step tinyGps {}) (start tinyGps {}) tr s ∧
    s.log = [.fix 12000 fixed.location 0 150, .noFix 12100, .fix 21500 fixed.location 150 300] ∧
    ∀ e ∈ s.log, e.Young s.heard (({} : Configuration).clearInterval.toNat + 12000) := by
  have hexec : (exec (guarded (Prompt 12000) (step tinyGps {})) (start tinyGps {}) heardTwice).map
      (·.log) =
      some [.fix 12000 fixed.location 0 150, .noFix 12100, .fix 21500 fixed.location 150 300] := by
    decide +kernel
  obtain ⟨tr, s, hrun, hlog⟩ := run_of_exec_map hexec
  obtain ⟨hrun, hprompt⟩ := hrun.of_guarded
  exact ⟨tr, s, hrun, hlog, fixes_fresh (by decide) (by decide) hrun hprompt⟩

end Runs

end FieldKit.Gps

/-
  File:      FieldKit/Firmware/CheckTask.lean
  Subject:   The transitions of one activation of `CheckFirmware::task` (check_firmware.cpp).

  The download is that of `Download.lean`, over any response, and the states are those of
  `Fsm.lean`. Every round of the outer loop calls `alive()`, which may dispatch a press of the
  button to the current state; besides, the task goes back or on to the flashing.

  * `finish_unverified` -- when the file that was written is not verified;
  * `check_once_iff` -- when an activation performs exactly one transition, of its own;
  * `unverified_stays` -- a file that is not verified leaves the state where it is, so that the main
    loop runs the same check again.
-/
import FieldKit.Core.Fsm
import FieldKit.Firmware.Download

namespace FieldKit.CheckTask

open CheckFirmware HttpResponseParser
open CoreDevice (State ButtonEvent Alive Fsm reactLowPower reactButton)

/-! ## 1. The activation -/

/-- What an activation of `CheckFirmware::task` meets: is there a module, is the server reached, what
    comes of the request in which rounds, with the `alive()` of each, and the flash. -/
structure Check where
  moduleGiven : Bool
  connected : Bool
  response : List Byte
  garbage : List Byte
  started : Uptime
  rounds : List (Round × Alive)
  target : Target
  previous : State

/-- A transition: of a press, `back()`, or to another state. -/
inductive Transition where
  | press (state : State)
  | back
  | into (state : State)
  deriving DecidableEq, Repr

/-- The states that one `alive()` transits to. -/
def reactions (a : Alive) (m : Fsm) : List State :=
  let m' := if a.lowPower then m.lowPower a.console else m
  (if a.lowPower then reactLowPower a.console m.current else none).toList ++
    (a.button.bind fun e => reactButton e m'.current).toList

/-- The states that calls of `alive()` transit to, one after the other. -/
def pressed : List Alive → Fsm → List State
  | [], _ => []
  | a :: as, m => reactions a m ++ pressed as (m.alive a)

/-- The calls of `alive()` in the rounds of the outer loop: none behind the round that takes too
    long. -/
def alives : List (Round × Alive) → Download → List Alive
  | [], _ => []
  | (r, a) :: rs, d =>
    a :: if wifiConnectionTimeout < r.now - d.activity then []
      else alives rs (r.reads.foldl (fun d x => d.read x) d)

namespace Check

variable (c : Check)

/-- Behind the request. -/
def begun : Download := Download.start c.response c.garbage c.started

/-- Behind the loops. -/
def download : Download := c.begun.poll (c.rounds.map (·.1))

/-- The state machine in which the task is called. -/
def machine : Fsm := { previous := some c.previous, current := .checkFirmware }

/-- The calls of `alive()`: without a module or a connection there are none. -/
def calls : List Alive := if c.moduleGiven && c.connected then alives c.rounds c.begun else []

/-- How `task` ends. -/
def ending (fl : Flash) : Outcome :=
  if c.moduleGiven && c.connected then (finish c.target fl c.download).1 else .failed

/-- What `task` does at its end: a file that is not verified is left with `return`. -/
def last (fl : Flash) : Option Transition :=
  match c.ending fl with
  | .failed => some .back
  | .unverified => none
  | .committed =>
    if c.target.bank = .Pending then some (.into .firmwareSelfFlash)
    else some (.into .upgradeModuleFirmware)

/-- **The transitions of one activation**, in order. -/
def transitions (fl : Flash) : List Transition :=
  (pressed c.calls c.machine).map .press ++ (c.last fl).toList

/-- How `Fsm.lean` calls the ending. -/
def outcome (fl : Flash) : CoreDevice.Download :=
  match c.ending fl with
  | .failed => .failed
  | .unverified => .unverified
  | .committed => if c.target.bank = .Pending then .storedPending else .storedIncoming

/-- The state machine behind the activation. -/
def after (fl : Flash) : Option Fsm := CoreDevice.checkFirmware c.calls (c.outcome fl) c.machine

end Check

/-! ## 2. What is stored of any response -/

/-- What has been done with what was received: the parser has what was fed to it, and what came
    behind its head is stored. -/
structure Tallied (garbage : List Byte) (d : Download) (body : List Byte) : Prop where
  received : d.received = d.fed ++ body
  parser : d.httpParser = (Download.newParser garbage).feed d.fed
  head : d.httpParser.readingHeader = true → body = []
  stored : Stored d body

section Tally

variable {garbage body : List Byte} {d : Download}

/-- **One read**, of any response. -/
theorem tallied_read (hd : Tallied garbage d body) (r : Read) :
    ∃ body', Tallied garbage (d.read r) body' := by
  unfold Download.read
  cases hrest : d.rest with
  | nil => exact ⟨body, hd⟩
  | cons c cs =>
      dsimp only
      split
      · next hhead =>
          obtain rfl := hd.head hhead
          have hclosed : Closed d := by
            cases hd.stored with
            | nothing _ closed => exact closed
            | written _ hsome _ => exact absurd rfl hsome
          refine ⟨[], ?_, ?_, fun _ => rfl, .nothing (Or.inr rfl)
            ⟨hclosed.writer, hclosed.total, hclosed.writes, hclosed.file, hclosed.short⟩⟩
          · rw [hd.received, List.append_nil, List.append_nil]
          · rw [feed_append, ← hd.parser]
            rfl
      · next hover =>
          have hbytes : (c :: cs).take r.size ≠ [] := by
            intro hnil
            rcases List.take_eq_nil_iff.mp hnil with hzero | hcons
            · exact absurd hzero (Nat.ne_of_gt r.positive)
            · cases hcons
          have hmoved : Stored ({ d with
              rest := (c :: cs).drop r.size
              received := d.received ++ (c :: cs).take r.size } : Download) body :=
            hd.stored.moved _ _
          obtain ⟨-, hreceived, hfed, hparser⟩ := store_frame r ((c :: cs).take r.size)
            ({ d with
              rest := (c :: cs).drop r.size
              received := d.received ++ (c :: cs).take r.size } : Download)
          refine ⟨body ++ (c :: cs).take r.size, ?_, ?_, ?_, hmoved.store r hbytes⟩
          · rw [hreceived, hfed, ← List.append_assoc, ← hd.received]
          · rw [hparser, hfed]
            exact hd.parser
          · rw [hparser]
            exact fun hhead => absurd hhead hover

theorem tallied_reads (hd : Tallied garbage d body) (rs : List Read) :
    ∃ body', Tallied garbage (rs.foldl (fun d r => d.read r) d) body' := by
  induction rs generalizing d body with
  | nil => exact ⟨body, hd⟩
  | cons r rs ih =>
      obtain ⟨body', hread⟩ := tallied_read hd r
      exact ih hread

/-- **Any rounds.** -/
theorem tallied_poll (hd : Tallied garbage d body) (rounds : List Round) :
    ∃ body', Tallied garbage (d.poll rounds) body' := by
  induction rounds generalizing d body with
  | nil => exact ⟨body, hd⟩
  | cons r rs ih =>
      unfold Download.poll
      split
      · exact ⟨body, hd⟩
      · obtain ⟨body', hreads⟩ := tallied_reads hd r.reads
        exact ih hreads

/-- When what was written is not verified, in the terms of `check`. -/
theorem finish_unverified_iff {t : Target} {fl : Flash} :
    (finish t fl d).1 = .unverified ↔
      0 < d.total ∧ d.writer = true ∧ d.total = d.httpParser.contentLength ∧
        d.file.length ≠ (d.total + BitVec.ofNat 32 sizeofHeader).toNat := by
  rw [finish_outcome]
  split
  · next hall =>
      split
      · next hlength => exact iff_of_false (by simp) fun h => h.2.2.2 hlength
      · next hlength => exact iff_of_true rfl ⟨hall.1.1, hall.1.2, hall.2, hlength⟩
  · next hnot => exact iff_of_false (by simp) fun h => hnot ⟨⟨h.1, h.2.1⟩, h.2.2.1⟩

/-- What came of a response behind its head. -/
def bodyOf (d : Download) : List Byte := d.received.drop d.fed.length

/-- **The status is 200 and all of the body has come that was declared**, counted in 32 bits, but the
    file on the flash is not as long as the header and the body. -/
structure FellShort (d : Download) : Prop where
  status : d.httpParser.statusCode = 200
  some : (bodyOf d).length % 2 ^ 32 ≠ 0
  declared : (bodyOf d).length % 2 ^ 32 = d.httpParser.contentLength.toNat
  file : d.file.length ≠ (sizeofHeader + (bodyOf d).length) % 2 ^ 32

/-- **When the file that was written is not verified**, whatever the response. -/
theorem finish_unverified (hd : Tallied garbage d body) (t : Target) (fl : Flash) :
    (finish t fl d).1 = .unverified ↔ FellShort d := by
  have hbody : bodyOf d = body := by
    unfold bodyOf
    rw [hd.received, List.drop_left]
  rw [finish_unverified_iff]
  cases hd.stored with
  | nothing hnot closed =>
      refine iff_of_false (by simp [closed.writer]) fun h => ?_
      have hsome := h.some
      rw [hbody, hnot.resolve_left fun hne => hne h.status] at hsome
      exact hsome rfl
  | written hstatus hsome opened =>
      have htotal : d.total.toNat = (bodyOf d).length % 2 ^ 32 := by
        rw [opened.total, BitVec.toNat_ofNat, hbody]
      have hpositive : 0 < d.total ↔ (bodyOf d).length % 2 ^ 32 ≠ 0 := by
        rw [BitVec.lt_def, htotal]
        exact Nat.pos_iff_ne_zero
      have hdeclared : d.total = d.httpParser.contentLength ↔
          (bodyOf d).length % 2 ^ 32 = d.httpParser.contentLength.toNat := by
        rw [← BitVec.toNat_inj, htotal]
      have hsize : (d.total + BitVec.ofNat 32 sizeofHeader).toNat =
          (sizeofHeader + (bodyOf d).length) % 2 ^ 32 := by
        rw [BitVec.toNat_add, htotal, BitVec.toNat_ofNat, ← Nat.add_mod, Nat.add_comm]
      rw [hpositive, hdeclared, hsize]
      exact ⟨fun h => ⟨hstatus, h.1, h.2.2.1, h.2.2.2⟩,
        fun h => ⟨h.some, opened.writer, h.declared, h.file⟩⟩

end Tally

/-! ## 3. Presses -/

/-- No press that transits is delivered. -/
def Unpressed (as : List Alive) : Prop :=
  ∀ a ∈ as, a.button = none ∨ a.button = some .minorButtonPress

section Presses

variable {m : Fsm}

/-- A low power event does nothing while firmware is checked. -/
theorem lowPower_check (hm : m.current = .checkFirmware) (console : Bool) :
    m.lowPower console = m := by
  unfold Fsm.lowPower
  rw [hm]
  rfl

/-- While firmware is checked only a press transits, and not the shortest. -/
theorem reactions_check (hm : m.current = .checkFirmware) (a : Alive) :
    reactions a m = [] ↔ a.button = none ∨ a.button = some .minorButtonPress := by
  have hlow : (if a.lowPower then m.lowPower a.console else m) = m := by
    split
    · exact lowPower_check hm a.console
    · rfl
  have hevent : (if a.lowPower then reactLowPower a.console m.current else none) = none := by
    rw [hm]
    split <;> rfl
  unfold reactions
  rw [hevent, hlow]
  dsimp only
  rw [hm]
  cases a.button with
  | none => exact iff_of_true rfl (Or.inl rfl)
  | some e => cases e <;> simp [reactButton]

/-- An `alive()` that transits nowhere leaves the machine. -/
theorem alive_unpressed (hm : m.current = .checkFirmware) {a : Alive}
    (ha : a.button = none ∨ a.button = some .minorButtonPress) : m.alive a = m := by
  have hlow : (if a.lowPower then m.lowPower a.console else m) = m := by
    split
    · exact lowPower_check hm a.console
    · rfl
  unfold Fsm.alive
  rw [hlow]
  rcases ha with ha | ha
  · rw [ha]
  · rw [ha]
    show m.button .minorButtonPress = m
    unfold Fsm.button
    rw [hm]
    rfl

/-- **No transition is made in the rounds exactly if no press is delivered.** -/
theorem pressed_nil_iff (hm : m.current = .checkFirmware) (as : List Alive) :
    pressed as m = [] ↔ Unpressed as := by
  induction as generalizing m with
  | nil => exact iff_of_true rfl fun a ha => absurd ha List.not_mem_nil
  | cons a as ih =>
      unfold pressed
      rw [List.append_eq_nil_iff, reactions_check hm]
      constructor
      · rintro ⟨ha, has⟩ b hb
        rw [alive_unpressed hm ha, ih hm] at has
        rcases List.mem_cons.mp hb with rfl | hb
        · exact ha
        · exact has b hb
      · intro hall
        have ha := hall a List.mem_cons_self
        refine ⟨ha, ?_⟩
        rw [alive_unpressed hm ha, ih hm]
        exact fun b hb => hall b (List.mem_cons_of_mem a hb)

end Presses

/-! ## 4. One transition -/

namespace Check

variable (c : Check) (fl : Flash)

/-- **The activation performs exactly one transition**: back, or on to the flashing. -/
def EndsOnce : Prop := ∃ t, c.transitions fl = [t] ∧ ∀ state, t ≠ .press state

/-- No press is delivered, and no file falls short. -/
def Undisturbed : Prop :=
  c.moduleGiven = true → c.connected = true →
    Unpressed (alives c.rounds c.begun) ∧ ¬ FellShort c.download

/-- What is stored of the response. -/
theorem tallied_download : ∃ body, Tallied c.garbage c.download body :=
  have hstart : Tallied c.garbage _ [] :=
    ⟨rfl, rfl, fun _ => rfl, .nothing (Or.inr rfl) ⟨rfl, rfl, rfl, rfl, rfl⟩⟩
  tallied_poll hstart _

/-- The task makes a transition of its own at its end, unless a file falls short. -/
theorem last_isSome : (∃ t, c.last fl = some t) ↔
    ¬ (c.moduleGiven = true ∧ c.connected = true ∧ FellShort c.download) := by
  obtain ⟨body, hd⟩ := c.tallied_download
  have hending : c.ending fl = .unverified ↔
      c.moduleGiven = true ∧ c.connected = true ∧ FellShort c.download := by
    rw [← finish_unverified hd c.target fl, ← and_assoc, ← Bool.and_eq_true]
    unfold ending
    split
    · next h => exact ⟨fun he => ⟨h, he⟩, fun he => he.2⟩
    · next h => exact iff_of_false (by simp) fun he => h he.1
  rw [← hending]
  unfold last
  cases c.ending fl with
  | failed => exact iff_of_true ⟨_, rfl⟩ (by simp)
  | unverified => exact iff_of_false (by simp) (by simp)
  | committed =>
      dsimp only
      split
      · exact iff_of_true ⟨_, rfl⟩ (by simp)
      · exact iff_of_true ⟨_, rfl⟩ (by simp)

/-- What the task does at its end is not a press. -/
theorem last_own {t : Transition} (h : c.last fl = some t) (state : State) : t ≠ .press state := by
  unfold last at h
  split at h
  · cases h
    exact Transition.noConfusion
  · cases h
  · split at h <;> cases h <;> exact Transition.noConfusion

/-- One transition of its own, in its two parts. -/
theorem endsOnce_iff : c.EndsOnce fl ↔
    pressed c.calls c.machine = [] ∧ ∃ t, c.last fl = some t := by
  unfold EndsOnce transitions
  constructor
  · intro h
    obtain ⟨t, hone, hown⟩ := h
    cases hp : pressed c.calls c.machine with
    | nil =>
        rw [hp] at hone
        refine ⟨rfl, t, ?_⟩
        cases hlast : c.last fl with
        | none => simp [hlast] at hone
        | some t' =>
            rw [hlast] at hone
            cases hone
            rfl
    | cons state states =>
        rw [hp, List.map_cons, List.cons_append, List.cons.injEq] at hone
        exact absurd hone.1.symm (hown state)
  · intro h
    obtain ⟨hp, t, hlast⟩ := h
    rw [hp, hlast]
    exact ⟨t, rfl, c.last_own fl hlast⟩

end Check

/-- **When an activation performs exactly one transition**: without a module or a connection always,
    and otherwise if no press is delivered in its rounds and the file that is written is not
    shorter than what it was given. -/
theorem check_once_iff (c : Check) (fl : Flash) : c.EndsOnce fl ↔ c.Undisturbed := by
  rw [c.endsOnce_iff, c.last_isSome, pressed_nil_iff rfl]
  unfold Check.calls Check.Undisturbed
  cases c.moduleGiven <;> cases c.connected <;> simp [Unpressed]

/-! ## 5. What the main loop runs next -/

section Next

variable (c : Check) (fl : Flash)

/-- Rounds without a press leave the machine. -/
theorem aliveLoop_unpressed {m : Fsm} (hm : m.current = .checkFirmware) {as : List Alive}
    (has : Unpressed as) : m.aliveLoop as = m := by
  induction as with
  | nil => rfl
  | cons a as ih =>
      have ha := alive_unpressed hm (has a List.mem_cons_self)
      show Fsm.aliveLoop as (m.alive a) = m
      rw [ha]
      exact ih fun b hb => has b (List.mem_cons_of_mem a hb)

/-- The rounds of an activation that has one transition. -/
theorem once_unpressed (h : c.EndsOnce fl) : Unpressed c.calls :=
  (pressed_nil_iff rfl c.calls).mp ((c.endsOnce_iff fl).mp h).1

/-- **Behind one transition** the main loop runs another state, if the task was not called from
    itself. -/
theorem once_leaves (h : c.EndsOnce fl) (hprevious : c.previous ≠ .checkFirmware) :
    ∃ m, c.after fl = some m ∧ m.current ≠ .checkFirmware := by
  obtain ⟨-, t, hlast⟩ := (c.endsOnce_iff fl).mp h
  have hquiet : c.machine.aliveLoop c.calls = c.machine :=
    aliveLoop_unpressed rfl (once_unpressed c fl h)
  unfold Check.after CoreDevice.checkFirmware
  rw [hquiet]
  unfold Check.last at hlast
  unfold Check.outcome
  cases hending : c.ending fl with
  | failed => exact ⟨_, rfl, hprevious⟩
  | unverified =>
      rw [hending] at hlast
      cases hlast
  | committed =>
      dsimp only
      by_cases hbank : c.target.bank = .Pending
      · rw [if_pos hbank]
        exact ⟨c.machine.transit .firmwareSelfFlash, rfl, fun h => nomatch h⟩
      · rw [if_neg hbank]
        exact ⟨c.machine.transit .upgradeModuleFirmware, rfl, fun h => nomatch h⟩

/-- **Behind a file that falls short** it runs the same check again. -/
theorem unverified_stays (hcalls : Unpressed c.calls)
    (h : c.moduleGiven = true ∧ c.connected = true ∧ FellShort c.download) :
    c.after fl = some c.machine := by
  have hlast : c.last fl = none := by
    by_contra hne
    obtain ⟨t, ht⟩ := Option.ne_none_iff_exists'.mp hne
    exact (c.last_isSome fl).mp ⟨t, ht⟩ h
  have hquiet : c.machine.aliveLoop c.calls = c.machine := aliveLoop_unpressed rfl hcalls
  unfold Check.after CoreDevice.checkFirmware
  rw [hquiet]
  unfold Check.last at hlast
  unfold Check.outcome
  cases hending : c.ending fl with
  | failed =>
      rw [hending] at hlast
      cases hlast
  | unverified => rfl
  | committed =>
      rw [hending] at hlast
      dsimp only at hlast
      split at hlast <;> cases hlast

end Next

/-- A read of one byte, of which the flash accepts nothing. -/
def refusedRead : Read := { oneRead with accepted := 0 }

/-- A body of one byte comes whole, and the flash is full behind the header. -/
def flashFull : Check where
  moduleGiven := true
  connected := true
  response := oneByte.bytes ++ [1]
  garbage := []
  started := 0
  rounds := [(⟨0, List.replicate 39 refusedRead⟩, {})]
  target := incoming
  previous := .other 0

/-- No transition is made. -/
theorem flashFull_stays : ¬ ∀ (c : Check) (fl : Flash), c.EndsOnce fl := by
  intro hall
  obtain ⟨t, hone, -⟩ := hall flashFull {}
  have hnone : flashFull.transitions {} = [] := by decide +kernel
  rw [hnone] at hone
  cases hone

end FieldKit.CheckTask

/-
  File:      FieldKit/Core/WifiSession.lean
  Subject:   A session of the WiFi (wifi_startup.cpp, wifi_try_network.cpp, check_firmware.cpp,
             transmit_files.cpp): what it does, in which order, and for how long.

  A session begins in WifiStartup. Unless the device is connected already it looks for a network, asks
  for the firmware of each module and then for its own; then it sends the file of the readings and
  that of the log. CheckFirmware and WifiTransmitFile go back to the state they came from, whose
  index is where the session stands; a press in CheckFirmware makes it go back to itself and ask again.

  * `session_order` -- what a session has done is, up to repetitions, always the beginning of its
    plan, whatever presses come, and all of it before it ends;
  * `session_bounded` -- a session that no press and no broken image holds up is over after
    `2 * n + 11` tasks, `n` the number of modules.
-/
import FieldKit.Core.Device

namespace FieldKit.CoreDevice

open Lib

/-! ## 1. The plan -/

/-- The states of a session. -/
def Session (s : State) : Prop :=
  s = .wifiStartup ∨ s = .wifiTryNetwork ∨ s = .checkAllAttachedFirmware ∨ s = .checkFirmware ∨
    s = .wifiTransmitFiles ∨ s = .wifiTransmitFile

/-- It asks for firmware. -/
def Checking (s : State) : Prop := s = .checkAllAttachedFirmware ∨ s = .checkFirmware

/-- It sends files. -/
def Sending (s : State) : Prop := s = .wifiTransmitFiles ∨ s = .wifiTransmitFile

instance (s : State) : Decidable (Session s) :=
  inferInstanceAs (Decidable (_ ∨ _ ∨ _ ∨ _ ∨ _ ∨ _))

instance (s : State) : Decidable (Checking s) := inferInstanceAs (Decidable (_ ∨ _))

instance (s : State) : Decidable (Sending s) := inferInstanceAs (Decidable (_ ∨ _))

/-- The networks that it may try. -/
def networks : List Work := [.tryNetwork 0, .tryNetwork 1]

/-- The firmware that it asks for: that of `n` modules, and its own. -/
def checks (n : Nat) : List Work :=
  (List.range n).map (fun i => Work.checkModule (BitVec.ofNat 8 i)) ++ [.checkOwn]

/-- The files that it sends. -/
def files : List Work := [.transmit 0, .transmit 1]

/-- What comes in front of the files; `on` says that the WiFi was on when the session began, `tries`
    are the networks that were tried. -/
def online (on : Bool) (n : Nat) (tries : List Work) : List Work :=
  if on then [] else tries ++ checks n

/-- **The plan.** -/
def plan (on : Bool) (n : Nat) (tries : List Work) : List Work := online on n tries ++ files

/-- `ws` is `us` with some of its entries repeated in their place. -/
inductive Repeats : List Work → List Work → Prop where
  | nil : Repeats [] []
  | new {ws us : List Work} (h : Repeats ws us) (w : Work) : Repeats (ws ++ [w]) (us ++ [w])
  | again {ws us : List Work} {w : Work} (h : Repeats ws (us ++ [w])) :
      Repeats (ws ++ [w]) (us ++ [w])

/-- **The work is the beginning of a plan**, up to repetitions; of the networks only some were tried. -/
def Follows (on : Bool) (n : Nat) (work : List Work) : Prop :=
  ∃ tries once, tries.Sublist networks ∧ Repeats work once ∧ once <+: plan on n tries

theorem Repeats.refl (ws : List Work) : Repeats ws ws := by
  induction ws using List.reverseRecOn with
  | nil => exact .nil
  | append_singleton ws w ih => exact ih.new w

@[simp] theorem length_checks (n : Nat) : (checks n).length = n + 1 := by
  simp [checks]

theorem checks_take_module {n k : Nat} (h : k < n) :
    (checks n).take (k + 1) = (checks n).take k ++ [.checkModule (BitVec.ofNat 8 k)] := by
  have hk : k < (checks n).length := by
    rw [length_checks]
    omega
  rw [List.take_succ_eq_append_getElem hk]
  congr 2
  simp [checks, h]

theorem checks_take_own (n : Nat) :
    (checks n).take (n + 1) = (checks n).take n ++ [.checkOwn] := by
  have hn : n < (checks n).length := by simp
  rw [List.take_succ_eq_append_getElem hn]
  congr 2
  simp [checks]

/-! ## 2. The invariant -/

/-- What CheckFirmware has to do: `done` is asked for, and what it was given is not, or once or more. -/
def Asking (n k : Nat) (d : Device) : Prop :=
  ∃ tries done w, tries.Sublist networks ∧ d.given = some w ∧ (checks n).take k = done ++ [w] ∧
    (Repeats d.work (tries ++ done) ∨ Repeats d.work (tries ++ (checks n).take k))

/-- What WifiTransmitFile has to do. -/
def Transmitting (on : Bool) (n k : Nat) (d : Device) : Prop :=
  ∃ tries done, tries.Sublist networks ∧ files.take k = done ++ [.transmit d.transmission] ∧
    Repeats d.work (online on n tries ++ done)

/-- **Where the session stands**, from its indices. -/
structure Going (on : Bool) (n : Nat) (d : Device) : Prop where
  starting : d.fsm.current = .wifiStartup → d.wifi = on
  fresh : ¬ Sending d.fsm.current → d.file = 0
  trying : d.fsm.current = .wifiTryNetwork →
    on = false ∧ d.network.toNat ≤ 2 ∧ d.work.Sublist (networks.take d.network.toNat)
  checking : d.fsm.current = .checkAllAttachedFirmware → on = false ∧ d.module.toNat ≤ n + 1 ∧
    ∃ tries, tries.Sublist networks ∧ Repeats d.work (tries ++ (checks n).take d.module.toNat)
  asking : d.fsm.current = .checkFirmware →
    on = false ∧ d.module.toNat ≤ n + 1 ∧ Asking n d.module.toNat d
  back : d.fsm.current = .checkFirmware → ∀ p, d.fsm.previous = some p → Session p → Checking p
  sending : d.fsm.current = .wifiTransmitFiles → d.file.toNat ≤ 2 ∧
    ∃ tries, tries.Sublist networks ∧ Repeats d.work (online on n tries ++ files.take d.file.toNat)
  transmitting : d.fsm.current = .wifiTransmitFile →
    d.file.toNat ≤ 2 ∧ Transmitting on n d.file.toNat d
  sent : d.fsm.current = .wifiTransmitFile → d.fsm.previous = some .wifiTransmitFiles
  left : ¬ Session d.fsm.current → Follows on n d.work

variable {on : Bool} {n : Nat} {d d' : Device}

/-- What is not asked of the other states. -/
theorem going_left (hs : ¬ Session d.fsm.current) (hf : d.file = 0) (hw : Follows on n d.work) :
    Going on n d where
  starting h := absurd (by rw [h]; decide) hs
  fresh _ := hf
  trying h := absurd (by rw [h]; decide) hs
  checking h := absurd (by rw [h]; decide) hs
  asking h := absurd (by rw [h]; decide) hs
  back h := absurd (by rw [h]; decide) hs
  sending h := absurd (by rw [h]; decide) hs
  transmitting h := absurd (by rw [h]; decide) hs
  sent h := absurd (by rw [h]; decide) hs
  left _ := hw

theorem going_trying (hcur : d.fsm.current = .wifiTryNetwork) (hf : d.file = 0)
    (hn : d.network.toNat ≤ 2) (hw : d.work.Sublist (networks.take d.network.toNat)) :
    Going false n d where
  starting h := absurd (hcur.symm.trans h) (by decide)
  fresh _ := hf
  trying _ := ⟨rfl, hn, hw⟩
  checking h := absurd (hcur.symm.trans h) (by decide)
  asking h := absurd (hcur.symm.trans h) (by decide)
  back h := absurd (hcur.symm.trans h) (by decide)
  sending h := absurd (hcur.symm.trans h) (by decide)
  transmitting h := absurd (hcur.symm.trans h) (by decide)
  sent h := absurd (hcur.symm.trans h) (by decide)
  left h := absurd (by rw [hcur]; decide) h

theorem going_checking (hcur : d.fsm.current = .checkAllAttachedFirmware) (hf : d.file = 0)
    (hm : d.module.toNat ≤ n + 1) {tries : List Work} (htries : tries.Sublist networks)
    (hw : Repeats d.work (tries ++ (checks n).take d.module.toNat)) : Going false n d where
  starting h := absurd (hcur.symm.trans h) (by decide)
  fresh _ := hf
  trying h := absurd (hcur.symm.trans h) (by decide)
  checking _ := ⟨rfl, hm, tries, htries, hw⟩
  asking h := absurd (hcur.symm.trans h) (by decide)
  back h := absurd (hcur.symm.trans h) (by decide)
  sending h := absurd (hcur.symm.trans h) (by decide)
  transmitting h := absurd (hcur.symm.trans h) (by decide)
  sent h := absurd (hcur.symm.trans h) (by decide)
  left h := absurd (by rw [hcur]; decide) h

theorem going_asking (hcur : d.fsm.current = .checkFirmware) (hf : d.file = 0)
    (hback : ∀ p, d.fsm.previous = some p → Session p → Checking p)
    (hm : d.module.toNat ≤ n + 1) (hw : Asking n d.module.toNat d) : Going false n d where
  starting h := absurd (hcur.symm.trans h) (by decide)
  fresh _ := hf
  trying h := absurd (hcur.symm.trans h) (by decide)
  checking h := absurd (hcur.symm.trans h) (by decide)
  asking _ := ⟨rfl, hm, hw⟩
  back _ := hback
  sending h := absurd (hcur.symm.trans h) (by decide)
  transmitting h := absurd (hcur.symm.trans h) (by decide)
  sent h := absurd (hcur.symm.trans h) (by decide)
  left h := absurd (by rw [hcur]; decide) h

theorem going_sending (hcur : d.fsm.current = .wifiTransmitFiles) (hf : d.file.toNat ≤ 2)
    {tries : List Work} (htries : tries.Sublist networks)
    (hw : Repeats d.work (online on n tries ++ files.take d.file.toNat)) : Going on n d where
  starting h := absurd (hcur.symm.trans h) (by decide)
  fresh h := absurd (Or.inl hcur) h
  trying h := absurd (hcur.symm.trans h) (by decide)
  checking h := absurd (hcur.symm.trans h) (by decide)
  asking h := absurd (hcur.symm.trans h) (by decide)
  back h := absurd (hcur.symm.trans h) (by decide)
  sending _ := ⟨hf, tries, htries, hw⟩
  transmitting h := absurd (hcur.symm.trans h) (by decide)
  sent h := absurd (hcur.symm.trans h) (by decide)
  left h := absurd (by rw [hcur]; decide) h

theorem going_transmitting (hcur : d.fsm.current = .wifiTransmitFile) (hf : d.file.toNat ≤ 2)
    (hback : d.fsm.previous = some .wifiTransmitFiles) (hw : Transmitting on n d.file.toNat d) :
    Going on n d where
  starting h := absurd (hcur.symm.trans h) (by decide)
  fresh h := absurd (Or.inr hcur) h
  trying h := absurd (hcur.symm.trans h) (by decide)
  checking h := absurd (hcur.symm.trans h) (by decide)
  asking h := absurd (hcur.symm.trans h) (by decide)
  back h := absurd (hcur.symm.trans h) (by decide)
  sending h := absurd (hcur.symm.trans h) (by decide)
  transmitting _ := ⟨hf, hw⟩
  sent _ := hback
  left h := absurd (by rw [hcur]; decide) h

theorem follows_checks {tries work : List Work} {k : Nat} (htries : tries.Sublist networks)
    (hw : Repeats work (tries ++ (checks n).take k)) : Follows false n work := by
  refine ⟨tries, _, htries, hw, ?_⟩
  unfold plan online
  rw [if_neg Bool.false_ne_true, List.append_assoc, List.prefix_append_right_inj]
  exact (List.take_prefix k _).trans (List.prefix_append _ _)

theorem follows_files {tries work : List Work} {k : Nat} (htries : tries.Sublist networks)
    (hw : Repeats work (online on n tries ++ files.take k)) : Follows on n work :=
  ⟨tries, _, htries, hw, (List.prefix_append_right_inj _).mpr (List.take_prefix k _)⟩

theorem follows_tries {work : List Work} {k : Nat} (hw : work.Sublist (networks.take k)) :
    Follows false n work := by
  refine follows_checks (k := 0) (hw.trans (List.take_sublist k _)) ?_
  rw [List.take_zero, List.append_nil]
  exact .refl work

/-- What is done so far is the beginning of the plan. -/
theorem Going.follows (h : Going on n d) (hs : d.fsm.current ≠ .wifiStartup) :
    Follows on n d.work := by
  by_cases hsession : Session d.fsm.current
  · rcases hsession with hcur | hcur | hcur | hcur | hcur | hcur
    · exact absurd hcur hs
    · obtain ⟨rfl, _, hw⟩ := h.trying hcur
      exact follows_tries hw
    · obtain ⟨rfl, _, tries, htries, hw⟩ := h.checking hcur
      exact follows_checks htries hw
    · obtain ⟨rfl, _, tries, done, w, htries, _, htake, hw⟩ := h.asking hcur
      rcases hw with hw | hw
      · have hdone : done = (checks n).take done.length := by
          have hpre : done <+: checks n :=
            (List.prefix_append done [w]).trans (htake ▸ List.take_prefix _ _)
          exact (List.prefix_iff_eq_take.mp hpre)
        rw [hdone] at hw
        exact follows_checks htries hw
      · exact follows_checks htries hw
    · obtain ⟨_, tries, htries, hw⟩ := h.sending hcur
      exact follows_files htries hw
    · obtain ⟨_, tries, done, htries, htake, hw⟩ := h.transmitting hcur
      refine ⟨tries, _, htries, hw, (List.prefix_append_right_inj _).mpr ?_⟩
      exact (List.prefix_append done _).trans (htake ▸ List.take_prefix _ _)
  · exact h.left hsession

/-! ## 3. One task of a session -/

/-- The number of modules that a task reads. -/
def Event.numberOfModules : Event → Option Nat
  | .task (.checkAllAttachedFirmware k) => some k
  | _ => none

/-- A step of a session with `n` modules. -/
def InSession (n : Nat) (d : Device) (e : Event) : Prop :=
  Session d.fsm.current ∧ ∀ k ∈ e.numberOfModules, k = n

instance (n : Nat) (d : Device) (e : Event) : Decidable (InSession n d e) :=
  inferInstanceAs (Decidable (_ ∧ _))

theorem follows_nil : Follows on n [] := ⟨[], [], List.nil_sublist _, .nil, List.nil_prefix⟩

theorem going_reset : Going on n {} :=
  going_left (by show ¬ Session .booting; decide) rfl follows_nil

theorem wifiStartup_going (h : Going on n d) (hcur : d.fsm.current = .wifiStartup)
    (begun hasInternetAccess : Bool) : Going on n (d.wifiStartup begun hasInternetAccess) := by
  have hon := h.starting hcur
  have hfile := h.fresh (by rw [hcur]; decide)
  unfold Device.wifiStartup
  dsimp only
  split
  · next hwifi =>
      have hwifi : d.wifi = true := hwifi
      obtain rfl : on = true := hon.symm.trans hwifi
      split
      · exact going_sending rfl (Nat.zero_le _) (List.nil_sublist _) .nil
      · exact going_left (by show ¬ Session .wifiListening; decide) hfile follows_nil
  · next hwifi =>
      have hwifi : d.wifi = false := Bool.eq_false_iff.mpr hwifi
      obtain rfl : on = false := hon.symm.trans hwifi
      split
      · exact going_trying rfl hfile (Nat.zero_le _) (List.nil_sublist _)
      · exact going_left (by show ¬ Session .wifiDisable; decide) hfile follows_nil

theorem wifiTryNetwork_going (h : Going on n d) (hcur : d.fsm.current = .wifiTryNetwork)
    (settings : NetworkSettings) (connected : Bool) :
    Going on n (d.wifiTryNetwork settings connected) := by
  obtain ⟨rfl, _, hwork⟩ := h.trying hcur
  have hfile := h.fresh (by rw [hcur]; decide)
  unfold Device.wifiTryNetwork
  split
  · next hlt =>
      have hsucc : (d.network + 1).toNat = d.network.toNat + 1 := by
        rw [BitVec.toNat_add, Nat.mod_eq_of_lt (by show d.network.toNat + 1 < 256; omega)]
        rfl
      have hnext : (d.network + 1).toNat ≤ 2 := by omega
      have htake : networks.take (d.network + 1).toNat =
          networks.take d.network.toNat ++ [.tryNetwork d.network] := by
        obtain hzero | hone : d.network = 0 ∨ d.network = 1 := by
          have h01 : d.network.toNat = 0 ∨ d.network.toNat = 1 := by omega
          exact h01.imp (fun h => BitVec.eq_of_toNat_eq h) fun h => BitVec.eq_of_toNat_eq h
        · rw [hzero]
          rfl
        · rw [hone]
          rfl
      have hskipped : d.work.Sublist (networks.take (d.network + 1).toNat) :=
        htake ▸ hwork.trans (List.sublist_append_left _ _)
      have htried : (d.work ++ [Work.tryNetwork d.network]).Sublist
          (networks.take (d.network + 1).toNat) := htake ▸ hwork.append_right _
      split
      · exact going_left (by show ¬ Session .wifiDisable; decide) hfile (follows_tries hwork)
      · split
        · exact going_trying rfl hfile hnext hskipped
        · dsimp only
          split
          · refine going_checking rfl hfile (Nat.zero_le _)
              (htried.trans (List.take_sublist _ _)) ?_
            rw [List.append_assoc]
            exact .refl _
          · exact going_trying rfl hfile hnext htried
  · exact going_left (by show ¬ Session .wifiCreateAp; decide) hfile (follows_tries hwork)

theorem checkAllAttachedFirmware_going (h : Going on n d) (hn : n < 255)
    (hcur : d.fsm.current = .checkAllAttachedFirmware) : Going on n (d.checkAllAttachedFirmware n) := by
  obtain ⟨rfl, hle, tries, htries, hwork⟩ := h.checking hcur
  have hfile := h.fresh (by rw [hcur]; decide)
  have hback {m : Fsm} (hm : m = d.fsm.transit .checkFirmware) (p : State) (hp : m.previous = some p)
      (_ : Session p) : Checking p := by
    subst hm
    cases hp
    exact Or.inl hcur
  unfold Device.checkAllAttachedFirmware
  split
  · next hlt =>
      have hsucc : (d.module + 1).toNat = d.module.toNat + 1 := by
        rw [BitVec.toNat_add, Nat.mod_eq_of_lt (by show d.module.toNat + 1 < 256; omega)]
        rfl
      have htake : (checks n).take (d.module + 1).toNat =
          (checks n).take d.module.toNat ++ [.checkModule d.module] := by
        rw [hsucc, checks_take_module hlt, BitVec.ofNat_toNat, BitVec.setWidth_eq]
      exact going_asking rfl hfile (hback rfl) (by show (d.module + 1).toNat ≤ _; omega)
        ⟨tries, _, _, htries, rfl, htake, Or.inl hwork⟩
  · split
    · next heq =>
        have hsucc : (d.module + 1).toNat = n + 1 := by
          rw [BitVec.toNat_add, heq, Nat.mod_eq_of_lt (by show n + 1 < 256; omega)]
          rfl
        have htake : (checks n).take (d.module + 1).toNat =
            (checks n).take d.module.toNat ++ [.checkOwn] := by
          rw [hsucc, checks_take_own, heq]
        exact going_asking rfl hfile (hback rfl) (by show (d.module + 1).toNat ≤ _; omega)
          ⟨tries, _, _, htries, rfl, htake, Or.inl hwork⟩
    · next hlt hne =>
        obtain heq : d.module.toNat = n + 1 := by omega
        have hfile' : d.file.toNat = 0 := by rw [hfile]; rfl
        refine going_sending rfl (by show d.file.toNat ≤ 2; omega) htries ?_
        show Repeats d.work (online false n tries ++ files.take d.file.toNat)
        rw [heq, ← length_checks n, List.take_length] at hwork
        rw [hfile', List.take_zero, List.append_nil]
        exact hwork

theorem wifiTransmitFiles_going (h : Going on n d) (hcur : d.fsm.current = .wifiTransmitFiles) :
    Going on n d.wifiTransmitFiles := by
  obtain ⟨hle, tries, htries, hwork⟩ := h.sending hcur
  unfold Device.wifiTransmitFiles
  split
  · next hdone =>
      refine going_left ?_ rfl (follows_files htries hwork)
      show ¬ Session (if d.listening = true then State.wifiListening else State.wifiDisable)
      split <;> decide
  · next hmore =>
      have hlt : d.file.toNat < 2 := by
        refine Nat.lt_of_le_of_ne hle fun heq => hmore ?_
        exact BitVec.eq_of_toNat_eq heq
      have hsucc : (d.file + 1).toNat = d.file.toNat + 1 := by
        rw [BitVec.toNat_add, Nat.mod_eq_of_lt (by show d.file.toNat + 1 < 256; omega)]
        rfl
      have htake : files.take (d.file + 1).toNat =
          files.take d.file.toNat ++ [.transmit d.file] := by
        rw [hsucc]
        obtain hzero | hone : d.file = 0 ∨ d.file = 1 := by
          have h01 : d.file.toNat = 0 ∨ d.file.toNat = 1 := by omega
          exact h01.imp (fun h => BitVec.eq_of_toNat_eq h) fun h => BitVec.eq_of_toNat_eq h
        · rw [hzero]
          rfl
        · rw [hone]
          rfl
      exact going_transmitting rfl (by show (d.file + 1).toNat ≤ 2; omega) (congrArg some hcur)
        ⟨tries, _, htries, htake, hwork⟩

theorem Pressed.not_session {s : State} (h : Pressed s) : ¬ Session s := by
  rcases h with rfl | rfl | rfl | rfl <;> decide

/-- Where `alive()` leaves CheckFirmware: there, or where a press led; and where it goes back to then. -/
theorem nudged_checkFirmware {m m₁ : Fsm} (hcur : m.current = .checkFirmware) (hn : Nudged m m₁) :
    (m₁.current = .checkFirmware ∧ m₁.previous = m.previous) ∨
      (¬ Session m₁.current ∧ ∀ p, m₁.previous = some p → Session p → p = .checkFirmware) := by
  cases hn with
  | same hp hc _ => exact Or.inl ⟨hc.trans hcur, hp⟩
  | lowPower hidle _ _ _ =>
      rw [hcur] at hidle
      rcases hidle with hidle | hidle <;> cases hidle
  | press q hq hp hc _ =>
      refine Or.inr ⟨hc.not_session, fun p hp' hs => ?_⟩
      rw [hp] at hp'
      cases hp'
      rcases hq with rfl | hq | ⟨rfl, _⟩
      · exact hcur
      · exact absurd hs hq.not_session
      · exact absurd hs (by decide)

/-- CheckFirmware, whatever comes while it asks: it goes back to where it came from, or the session is
    left. -/
theorem checkFirmware_going (h : Going on n d) {as : List Alive} {end_ : Download}
    (hturn : d.Turn (.alive (.checkFirmware as end_)))
    (hs : d.task (.alive (.checkFirmware as end_)) = some d') : Going on n d' := by
  have hcur : d.fsm.current = .checkFirmware := hturn.1.symm
  obtain ⟨rfl, hle, tries, done, w, htries, hgiven, htake, hwork⟩ := h.asking hcur
  have hfile := h.fresh (by rw [hcur]; decide)
  rcases Device.task_went hturn hs with rfl | ⟨m, hw, rfl⟩
  · exact going_reset
  · -- whatever it goes to, what it was given is asked for
    have hasked : Repeats (d.work ++ d.given.toList) (tries ++ (checks n).take d.module.toNat) := by
      rw [hgiven, htake, ← List.append_assoc]
      rcases hwork with hwork | hwork
      · exact hwork.new w
      · rw [htake, ← List.append_assoc] at hwork
        exact hwork.again
    have hfollows : Follows false n (d.work ++ d.given.toList) := follows_checks htries hasked
    have hagain : Asking n d.module.toNat { d with work := d.work ++ d.given.toList } :=
      ⟨tries, done, w, htries, hgiven, htake, Or.inr hasked⟩
    obtain ⟨m₁, hn, hback | rfl | rfl | rfl⟩ := hw
    · obtain ⟨p, hp, rfl⟩ := Option.map_eq_some_iff.mp hback
      by_cases hsession : Session p
      · have hgo : Checking p := by
          rcases nudged_checkFirmware (m := d.pointers) hcur hn with ⟨_, hsame⟩ | ⟨_, hpress⟩
          · exact h.back hcur p (hsame.symm.trans hp) hsession
          · exact Or.inr (hpress p hp hsession)
        rcases hgo with rfl | rfl
        · exact going_checking rfl hfile hle htries hasked
        · refine going_asking rfl hfile (fun q hq hs => ?_) hle hagain
          cases hq
          rcases nudged_checkFirmware (m := d.pointers) hcur hn with ⟨hc, _⟩ | ⟨hout, _⟩
          · exact Or.inr hc
          · exact absurd hs hout
      · exact going_left hsession hfile hfollows
    · rcases nudged_checkFirmware (m := d.pointers) hcur hn with ⟨hc, hsame⟩ | ⟨hout, _⟩
      · exact going_asking hc hfile (fun p hp => h.back hcur p (hsame.symm.trans hp)) hle hagain
      · exact going_left hout hfile hfollows
    · exact going_left (by show ¬ Session .firmwareSelfFlash; decide) hfile hfollows
    · exact going_left (by show ¬ Session .upgradeModuleFirmware; decide) hfile hfollows

theorem wifiTransmitFile_going (h : Going on n d) (hcur : d.fsm.current = .wifiTransmitFile)
    (hs : d.task .wifiTransmitFile = some d') : Going on n d' := by
  obtain ⟨hle, tries, done, htries, htake, hwork⟩ := h.transmitting hcur
  obtain ⟨m, hm, rfl⟩ := Option.map_eq_some_iff.mp hs
  obtain ⟨p, hp, rfl⟩ := Option.map_eq_some_iff.mp hm
  have hp : d.fsm.previous = some p := hp
  rw [h.sent hcur] at hp
  cases hp
  refine going_sending rfl hle htries ?_
  show Repeats (d.work ++ [.transmit d.transmission]) (_ ++ files.take d.file.toNat)
  rw [htake, ← List.append_assoc]
  exact hwork.new _

/-- The tasks of a session. -/
theorem session_inputs {i : Input} (h : Session i.state) :
    (∃ b a, i = .wifiStartup b a) ∨ (∃ s c, i = .wifiTryNetwork s c) ∨
      (∃ k, i = .checkAllAttachedFirmware k) ∨ (∃ as end_, i = .alive (.checkFirmware as end_)) ∨
        i = .wifiTransmitFiles ∨ i = .wifiTransmitFile := by
  cases i with
  | wifiStartup b a => exact Or.inl ⟨b, a, rfl⟩
  | wifiTryNetwork s c => exact Or.inr (Or.inl ⟨s, c, rfl⟩)
  | checkAllAttachedFirmware k => exact Or.inr (Or.inr (Or.inl ⟨k, rfl⟩))
  | wifiTransmitFiles => exact Or.inr (Or.inr (Or.inr (Or.inr (Or.inl rfl))))
  | wifiTransmitFile => exact Or.inr (Or.inr (Or.inr (Or.inr (Or.inr rfl))))
  | alive a =>
      cases a with
      | checkFirmware as end_ => exact Or.inr (Or.inr (Or.inr (Or.inl ⟨as, end_, rfl⟩)))
      | _ => rcases h with h | h | h | h | h | h <;> cases h
  | _ => rcases h with h | h | h | h | h | h <;> cases h

/-- **One step of a session.** -/
theorem step_going {e : Event} (hn : n < 255) (h : Going on n d) (hC : InSession n d e)
    (hs : d.step e = some d') : Going on n d' := by
  cases e with
  | reset =>
      cases hs
      exact going_reset
  | task i =>
      obtain ⟨hturn, hs⟩ := Device.step_task hs
      have hcur : i.state = d.fsm.current := hturn.1
      rcases session_inputs (hcur ▸ hC.1) with
        ⟨b, a, rfl⟩ | ⟨settings, c, rfl⟩ | ⟨k, rfl⟩ | ⟨as, end_, rfl⟩ | rfl | rfl
      · cases hs
        exact wifiStartup_going h hcur.symm b a
      · cases hs
        exact wifiTryNetwork_going h hcur.symm settings c
      · cases hs
        obtain rfl : k = n := hC.2 k rfl
        exact checkAllAttachedFirmware_going h hn hcur.symm
      · exact checkFirmware_going h hturn hs
      · cases hs
        exact wifiTransmitFiles_going h hcur.symm
      · exact wifiTransmitFile_going h hcur.symm hs

/-! ## 4. Where a session begins -/

/-- The index of the files is at the first one, but for the device that sends them. -/
def Parked (d : Device) : Prop :=
  d.file = 0 ∨ d.fsm.current = .wifiTransmitFiles ∨
    (d.fsm.current = .wifiTransmitFile ∧ d.fsm.previous = some .wifiTransmitFiles)

theorem members_file (a : Activation) (d : Device) : (d.members a).file = d.file := by
  unfold Device.members
  cases a <;> dsimp only <;> (repeat' split) <;> rfl

theorem task_file {i : Input} (hi : i ≠ .wifiTransmitFiles) (hturn : d.Turn i)
    (h : d.file = 0) (hs : d.task i = some d') : d'.file = 0 := by
  cases i with
  | alive a =>
      rcases Device.task_went hturn hs with rfl | ⟨m, _, rfl⟩
      · rfl
      · exact (members_file a d).trans h
  | wifiTransmitFiles => exact absurd rfl hi
  | transmitLoraData | wifiTransmitFile =>
      obtain ⟨m, _, rfl⟩ := Option.map_eq_some_iff.mp hs
      exact h
  | rebootDevice console =>
      cases hs
      cases console
      · rfl
      · exact h
  | wifiStartup begun hasInternetAccess =>
      cases hs
      unfold Device.wifiStartup
      dsimp only
      (repeat' split) <;> first | rfl | exact h
  | wifiTryNetwork settings connected =>
      cases hs
      unfold Device.wifiTryNetwork
      (repeat' split) <;> exact h
  | checkAllAttachedFirmware n =>
      cases hs
      unfold Device.checkAllAttachedFirmware
      (repeat' split) <;> exact h
  | wifiDisable hasSensorModules noModulesSleep =>
      cases hs
      unfold Device.wifiDisable
      dsimp only
      split <;> exact h
  | appServicer served =>
      cases hs
      cases served <;> exact h
  | _ =>
      cases hs
      exact h

theorem step_parked {e : Event} (h : Parked d) (hs : d.step e = some d') : Parked d' := by
  cases e with
  | reset =>
      cases hs
      exact Or.inl rfl
  | task i =>
      obtain ⟨hturn, hs⟩ := Device.step_task hs
      by_cases hi : i = .wifiTransmitFiles
      · subst hi
        cases hs
        unfold Device.wifiTransmitFiles
        split
        · exact Or.inl rfl
        · have hcur : d.fsm.current = .wifiTransmitFiles := hturn.1.symm
          exact Or.inr (Or.inr ⟨rfl, congrArg some hcur⟩)
      · rcases h with hfile | hcur | ⟨hcur, hprev⟩
        · exact Or.inl (task_file hi hturn hfile hs)
        · have hstate : i.state = .wifiTransmitFiles := hturn.1.trans hcur
          rcases session_inputs (by rw [hstate]; decide) with
            ⟨_, _, rfl⟩ | ⟨_, _, rfl⟩ | ⟨_, rfl⟩ | ⟨_, _, rfl⟩ | rfl | rfl <;>
            first | exact absurd rfl hi | cases hstate
        · have hstate : i.state = .wifiTransmitFile := hturn.1.trans hcur
          rcases session_inputs (by rw [hstate]; decide) with
            ⟨_, _, rfl⟩ | ⟨_, _, rfl⟩ | ⟨_, rfl⟩ | ⟨_, _, rfl⟩ | rfl | rfl <;>
            cases hstate
          obtain ⟨m, hm, rfl⟩ := Option.map_eq_some_iff.mp hs
          obtain ⟨p, hp, rfl⟩ := Option.map_eq_some_iff.mp hm
          rw [hprev] at hp
          cases hp
          exact Or.inr (Or.inl rfl)

theorem run_parked {tr : List (Device × Event)} (h : Run Device.step {} tr d) : Parked d :=
  h.inv Parked (Or.inl rfl) fun _ _ _ hp hs => step_parked hp hs

/-- WifiStartup, in any run. -/
theorem run_going {tr : List (Device × Event)} (h : Run Device.step {} tr d)
    (hcur : d.fsm.current = .wifiStartup) : Going d.wifi n d where
  starting _ := rfl
  fresh _ := by
    rcases run_parked h with hfile | hsend | ⟨hsend, _⟩
    · exact hfile
    · exact absurd (hcur.symm.trans hsend) (by decide)
    · exact absurd (hcur.symm.trans hsend) (by decide)
  trying h := absurd (hcur.symm.trans h) (by decide)
  checking h := absurd (hcur.symm.trans h) (by decide)
  asking h := absurd (hcur.symm.trans h) (by decide)
  back h := absurd (hcur.symm.trans h) (by decide)
  sending h := absurd (hcur.symm.trans h) (by decide)
  transmitting h := absurd (hcur.symm.trans h) (by decide)
  sent h := absurd (hcur.symm.trans h) (by decide)
  left h := absurd (by rw [hcur]; decide) h

/-! ## 5. Sessions -/

section Sessions

variable {d₀ : Device} {tr₀ tr : List (Device × Event)}

/-- **What a session has done is the beginning of its plan**, up to repetitions, in every run that comes
    to WifiStartup and goes on in the states of the session, whatever it reads and whatever presses
    come; before it leaves WifiTransmitFiles it has done all of it. -/
theorem session_order (hn : n < 255) (h₀ : Run Device.step {} tr₀ d₀)
    (hstart : d₀.fsm.current = .wifiStartup) (h : Run Device.step d₀ tr d)
    (hC : Meets (InSession n) tr) :
    (d.fsm.current ≠ .wifiStartup → Follows d₀.wifi n d.work) ∧
      (d.fsm.current = .wifiTransmitFiles → d.file = 2 →
        ∃ tries, tries.Sublist networks ∧ Repeats d.work (plan d₀.wifi n tries)) := by
  have hgoing : Going d₀.wifi n d :=
    h.inv_meets (InSession n) (Going d₀.wifi n) (run_going h₀ hstart)
      (fun _ _ _ hg hC hs => step_going hn hg hC hs) hC
  refine ⟨hgoing.follows, fun hcur hfile => ?_⟩
  obtain ⟨_, tries, htries, hwork⟩ := hgoing.sending hcur
  rw [hfile] at hwork
  exact ⟨tries, htries, hwork⟩

/-- CheckFirmware was not left by a press. -/
def Straight (d : Device) : Prop :=
  d.fsm.current = .checkFirmware → d.fsm.previous = some .checkAllAttachedFirmware

/-- What comes while CheckFirmware asks, and how it ends. -/
def Event.checkFirmware : Event → Option (List Alive × Download)
  | .task (.alive (.checkFirmware as end_)) => some (as, end_)
  | _ => none

/-- A step of a session that no press and no broken image holds up. -/
def Undisturbed (n : Nat) (d : Device) (e : Event) : Prop :=
  InSession n d e ∧ ∀ c ∈ e.checkFirmware, Quiet c.1 ∧ c.2 ≠ .unverified

instance (as : List Alive) : Decidable (Quiet as) :=
  inferInstanceAs (Decidable (∀ a ∈ as, _ ∧ _))

instance (n : Nat) (d : Device) (e : Event) : Decidable (Undisturbed n d e) :=
  inferInstanceAs (Decidable (_ ∧ _))

/-- **The tasks that are left** at most. -/
def tasksLeft (n : Nat) (d : Device) : Nat :=
  match d.fsm.current with
  | .wifiStartup => 2 * n + 11
  | .wifiTryNetwork => if d.network.toNat < 2 then 2 * n + 10 - d.network.toNat else 1
  | .checkAllAttachedFirmware => 2 * (n + 1 - d.module.toNat) + 6
  | .checkFirmware => 2 * (n + 1 - d.module.toNat) + 7
  | .wifiTransmitFiles => 2 * (2 - d.file.toNat) + 1
  | .wifiTransmitFile => 2 * (2 - d.file.toNat) + 2
  | _ => 0

theorem tasksLeft_pos (h : Session d.fsm.current) : 0 < tasksLeft n d := by
  unfold tasksLeft
  rcases h with hcur | hcur | hcur | hcur | hcur | hcur <;> rw [hcur]
  case inr.inl =>
    show 0 < if d.network.toNat < 2 then 2 * n + 10 - d.network.toNat else 1
    split <;> omega
  all_goals exact Nat.succ_pos _

theorem wifiStartup_less (hcur : d.fsm.current = .wifiStartup) (begun hasInternetAccess : Bool) :
    Straight (d.wifiStartup begun hasInternetAccess) ∧
      tasksLeft n (d.wifiStartup begun hasInternetAccess) < tasksLeft n d := by
  have hleft : tasksLeft n d = 2 * n + 11 := by
    unfold tasksLeft
    rw [hcur]
  rw [hleft]
  unfold Device.wifiStartup
  dsimp only
  split
  · split
    · exact ⟨nofun, by show 2 * (2 - 0) + 1 < _; omega⟩
    · exact ⟨nofun, Nat.succ_pos _⟩
  · split
    · exact ⟨nofun, by show 2 * n + 10 - 0 < _; omega⟩
    · exact ⟨nofun, Nat.succ_pos _⟩

theorem wifiTryNetwork_less (hcur : d.fsm.current = .wifiTryNetwork) (settings : NetworkSettings)
    (connected : Bool) :
    Straight (d.wifiTryNetwork settings connected) ∧
      tasksLeft n (d.wifiTryNetwork settings connected) < tasksLeft n d := by
  have hleft : tasksLeft n d =
      if d.network.toNat < 2 then 2 * n + 10 - d.network.toNat else 1 := by
    unfold tasksLeft
    rw [hcur]
    rfl
  rw [hleft]
  unfold Device.wifiTryNetwork
  by_cases hlt : d.network.toNat < 2
  · rw [dif_pos hlt, if_pos hlt]
    have hnext : (if (d.network + 1).toNat < 2 then 2 * n + 10 - (d.network + 1).toNat else 1) <
        2 * n + 10 - d.network.toNat := by
      have hsucc : (d.network + 1).toNat = d.network.toNat + 1 := by
        rw [BitVec.toNat_add, Nat.mod_eq_of_lt (by show d.network.toNat + 1 < 256; omega)]
        rfl
      split <;> omega
    split
    · exact ⟨nofun, by show 0 < _; omega⟩
    · split
      · exact ⟨nofun, hnext⟩
      · split
        · exact ⟨nofun, by show 2 * (n + 1 - 0) + 6 < _; omega⟩
        · exact ⟨nofun, hnext⟩
  · rw [dif_neg hlt, if_neg hlt]
    exact ⟨nofun, Nat.succ_pos _⟩

theorem checkAllAttachedFirmware_less (h : Going on n d) (hn : n < 255)
    (hcur : d.fsm.current = .checkAllAttachedFirmware) :
    Straight (d.checkAllAttachedFirmware n) ∧
      tasksLeft n (d.checkAllAttachedFirmware n) < tasksLeft n d := by
  have hleft : tasksLeft n d = 2 * (n + 1 - d.module.toNat) + 6 := by
    unfold tasksLeft
    rw [hcur]
    rfl
  have hfile : d.file.toNat = 0 := by
    rw [h.fresh (by rw [hcur]; decide)]
    rfl
  rw [hleft]
  have hnext (hle : d.module.toNat ≤ n) :
      2 * (n + 1 - (d.module + 1).toNat) + 7 < 2 * (n + 1 - d.module.toNat) + 6 := by
    rw [BitVec.toNat_add]
    show 2 * (n + 1 - (d.module.toNat + 1) % 256) + 7 < _
    omega
  unfold Device.checkAllAttachedFirmware
  split
  · next hlt => exact ⟨fun _ => congrArg some hcur, hnext (Nat.le_of_lt hlt)⟩
  · split
    · next heq => exact ⟨fun _ => congrArg some hcur, hnext (Nat.le_of_eq heq)⟩
    · exact ⟨nofun, by show 2 * (2 - d.file.toNat) + 1 < _; omega⟩

theorem wifiTransmitFiles_less (h : Going on n d) (hcur : d.fsm.current = .wifiTransmitFiles) :
    Straight d.wifiTransmitFiles ∧ tasksLeft n d.wifiTransmitFiles < tasksLeft n d := by
  have hleft : tasksLeft n d = 2 * (2 - d.file.toNat) + 1 := by
    unfold tasksLeft
    rw [hcur]
    rfl
  have hle := (h.sending hcur).1
  rw [hleft]
  unfold Device.wifiTransmitFiles
  split
  · show (_ → _) ∧ _
    cases d.listening <;> exact ⟨nofun, Nat.succ_pos _⟩
  · next hmore =>
      have hlt : d.file.toNat < 2 :=
        Nat.lt_of_le_of_ne hle fun heq => hmore (BitVec.eq_of_toNat_eq heq)
      refine ⟨nofun, ?_⟩
      show 2 * (2 - (d.file + 1).toNat) + 2 < _
      rw [BitVec.toNat_add]
      show 2 * (2 - (d.file.toNat + 1) % 256) + 2 < _
      omega

/-- What goes back to CheckAllAttachedFirmware, or leaves the session. -/
theorem checkFirmware_less {as : List Alive} {end_ : Download} (hquiet : Quiet as)
    (hend : end_ ≠ .unverified) (hstraight : Straight d)
    (hturn : d.Turn (.alive (.checkFirmware as end_)))
    (hs : d.task (.alive (.checkFirmware as end_)) = some d') :
    Straight d' ∧ tasksLeft n d' < tasksLeft n d := by
  have hcur : d.fsm.current = .checkFirmware := hturn.1.symm
  have hleft : tasksLeft n d = 2 * (n + 1 - d.module.toNat) + 7 := by
    unfold tasksLeft
    rw [hcur]
  have hloop : d.pointers.aliveLoop as = d.pointers := by
    have hcur : d.pointers.current = .checkFirmware := hcur
    rcases aliveLoop_landed (m := d.pointers) (by rw [hcur]; exact ⟨by decide, by decide⟩)
      (by rw [hcur]; exact ⟨by decide, by decide⟩) as with ⟨_, h⟩ | ⟨h, _⟩
    · exact h
    · exact absurd hquiet h
  rw [hleft]
  obtain ⟨m, hm, rfl⟩ := Option.map_eq_some_iff.mp hs
  have hm : checkFirmware as end_ d.pointers = some m := hm
  unfold checkFirmware at hm
  rw [hloop] at hm
  cases end_ with
  | failed =>
      obtain ⟨p, hp, rfl⟩ := Option.map_eq_some_iff.mp hm
      have hp : d.fsm.previous = some p := hp
      rw [hstraight hcur] at hp
      cases hp
      exact ⟨nofun, Nat.lt_succ_self _⟩
  | unverified => exact absurd rfl hend
  | storedPending =>
      cases hm
      exact ⟨nofun, Nat.succ_pos _⟩
  | storedIncoming =>
      cases hm
      exact ⟨nofun, Nat.succ_pos _⟩

theorem wifiTransmitFile_less (h : Going on n d) (hcur : d.fsm.current = .wifiTransmitFile)
    (hs : d.task .wifiTransmitFile = some d') : Straight d' ∧ tasksLeft n d' < tasksLeft n d := by
  have hleft : tasksLeft n d = 2 * (2 - d.file.toNat) + 2 := by
    unfold tasksLeft
    rw [hcur]
    rfl
  obtain ⟨m, hm, rfl⟩ := Option.map_eq_some_iff.mp hs
  obtain ⟨p, hp, rfl⟩ := Option.map_eq_some_iff.mp hm
  have hp : d.fsm.previous = some p := hp
  rw [h.sent hcur] at hp
  cases hp
  rw [hleft]
  exact ⟨nofun, Nat.lt_succ_self _⟩

/-- **Every such step leaves fewer.** -/
theorem step_undisturbed {e : Event} (hn : n < 255) (h : Going on n d) (hstraight : Straight d)
    (hC : Undisturbed n d e) (hs : d.step e = some d') :
    Straight d' ∧ tasksLeft n d' < tasksLeft n d := by
  cases e with
  | reset =>
      cases hs
      refine ⟨nofun, ?_⟩
      exact tasksLeft_pos hC.1.1
  | task i =>
      obtain ⟨hturn, hs⟩ := Device.step_task hs
      have hcur : i.state = d.fsm.current := hturn.1
      rcases session_inputs (hcur ▸ hC.1.1) with
        ⟨b, a, rfl⟩ | ⟨settings, c, rfl⟩ | ⟨k, rfl⟩ | ⟨as, end_, rfl⟩ | rfl | rfl
      · cases hs
        exact wifiStartup_less hcur.symm b a
      · cases hs
        exact wifiTryNetwork_less hcur.symm settings c
      · cases hs
        obtain rfl : k = n := hC.1.2 k rfl
        exact checkAllAttachedFirmware_less h hn hcur.symm
      · obtain ⟨hquiet, hend⟩ := hC.2 (as, end_) rfl
        exact checkFirmware_less hquiet hend hstraight hturn hs
      · cases hs
        exact wifiTransmitFiles_less h hcur.symm
      · exact wifiTransmitFile_less h hcur.symm hs

/-- **A session that nothing holds up is over after `2 * n + 11` tasks.** -/
theorem session_bounded (hn : n < 255) (h₀ : Run Device.step {} tr₀ d₀)
    (hstart : d₀.fsm.current = .wifiStartup) (h : Run Device.step d₀ tr d)
    (hC : Meets (Undisturbed n) tr) : tr.length ≤ 2 * n + 11 := by
  have hbound := h.length_add_le (Undisturbed n) (fun d => Going d₀.wifi n d ∧ Straight d)
    (tasksLeft n) ⟨run_going h₀ hstart, fun hcur => absurd (hstart.symm.trans hcur) (by decide)⟩
    (fun _ _ _ hI hC hs =>
      have hstep := step_undisturbed hn hI.1 hI.2 hC hs
      ⟨⟨step_going hn hI.1 hC.1 hs, hstep.1⟩, hstep.2⟩) hC
  have hfirst : tasksLeft n d₀ = 2 * n + 11 := by
    unfold tasksLeft
    rw [hstart]
  omega

/-- From the reset to the first session. -/
def toStartup : List Event := toListening.take 7

/-- A network that the device knows. -/
def known : NetworkSettings :=
  { networks := #v[{ ssid := Vector.replicate 33 1, password := Vector.replicate 33 1 }, {}] }

/-- A session with one module that nothing holds up, up to its end. -/
def oneModule : List Event :=
  [.task (.wifiStartup true false), .task (.wifiTryNetwork known true),
   .task (.checkAllAttachedFirmware 1), aliveTask (.checkFirmware [] .failed),
   .task (.checkAllAttachedFirmware 1), aliveTask (.checkFirmware [{}] .failed),
   .task (.checkAllAttachedFirmware 1), .task .wifiTransmitFiles, .task .wifiTransmitFile,
   .task .wifiTransmitFiles, .task .wifiTransmitFile]

/-- It is such a session, and the files are sent. -/
theorem oneModule_run : ∃ d₀ tr₀ d tr, Run Device.step {} tr₀ d₀ ∧ d₀.fsm.current = .wifiStartup ∧
    Run Device.step d₀ tr d ∧ Meets (Undisturbed 1) tr ∧
      d₀.wifi = false ∧ d.fsm.current = .wifiTransmitFiles ∧ d.file = 2 := by
  have hexec : (exec Device.step {} toStartup).bind (fun d₀ =>
      (exec (guarded (Undisturbed 1) Device.step) d₀ oneModule).map fun d =>
        ((d₀.fsm.current, d₀.wifi), (d.fsm.current, d.file))) =
      some ((.wifiStartup, false), (.wifiTransmitFiles, 2)) := by
    decide +kernel
  obtain ⟨d₀, h₀, hexec⟩ := Option.bind_eq_some_iff.mp hexec
  obtain ⟨tr₀, hrun₀, _⟩ := run_of_exec h₀
  obtain ⟨tr, d, hrun, hd⟩ := run_of_exec_map hexec
  obtain ⟨hrun, hC⟩ := hrun.of_guarded
  obtain ⟨⟨hstart, hwifi⟩, hcur, hfile⟩ := Prod.mk.inj hd |>.imp Prod.mk.inj Prod.mk.inj
  exact ⟨d₀, tr₀, d, tr, hrun₀, hstart, hrun, hC, hwifi, hcur, hfile⟩

/-- It has done all of its plan. -/
theorem session_order_one : ∃ d₀ tr d tries, Run Device.step d₀ tr d ∧
    Repeats d.work (tries ++ [.checkModule 0, .checkOwn, .transmit 0, .transmit 1]) := by
  obtain ⟨d₀, tr₀, d, tr, h₀, hstart, h, hC, hwifi, hcur, hfile⟩ := oneModule_run
  obtain ⟨tries, _, hwork⟩ :=
    (session_order (by decide) h₀ hstart h fun p hp => (hC p hp).1).2 hcur hfile
  rw [hwifi] at hwork
  unfold plan online at hwork
  rw [if_neg Bool.false_ne_true, List.append_assoc] at hwork
  exact ⟨d₀, tr, d, tries, h, hwork⟩

/-- And it was in time. -/
theorem session_bounded_one : ∃ d₀ tr d, Run Device.step d₀ tr d ∧
    d.fsm.current = .wifiTransmitFiles ∧ tr.length ≤ 2 * 1 + 11 := by
  obtain ⟨d₀, tr₀, d, tr, h₀, hstart, h, hC, _, hcur, _⟩ := oneModule_run
  exact ⟨d₀, tr, d, h, hcur, session_bounded (by decide) h₀ hstart h hC⟩

end Sessions

end FieldKit.CoreDevice

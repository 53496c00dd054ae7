/-
  File:      FieldKit/Comms/Transaction.lean
  Subject:   From when a transaction's timeout counts.

  `ReplyConfig::transaction_timeout` is meant for an entire transaction, from the query to a reply
  that is not busy. `ModuleCommunications` counts it from `started`. Beside the machine of the
  shared bus stands the reading of the clock at which the running transaction was dispatched
  first.

  * `started_fixed_iff` -- in a run, `started` stays the time of the first dispatch exactly if no
    query is dispatched again at another time;
  * `started_fixed_of_no_retry` -- REPLY_BUSY never moves it;
  * `retry_moves_start` -- REPLY_RETRY does.
-/
import FieldKit.Comms.Pairing

namespace FieldKit.Transaction

open Lib ModuleCommunications ModuleProtocolHandler Pairing

variable {Q O E R β B : Type}

/-! ## 1. The machine -/

/-- The shared bus, and when the transaction enqueued last was first dispatched. -/
structure Watched (Q O E R β B : Type) where
  shared : Shared Q O E R β B
  dispatched : Option Uptime := none

/-- Nothing has happened yet. -/
def start (queries : O) (devices : B) : Watched Q O E R β B where
  shared := Pairing.start queries devices

/-- The next poll writes the query. -/
def Dispatching (c : ModuleCommunications Q R β) : Prop :=
  c.address ≠ 0 ∧ c.hasQuery = true ∧ c.pending.isSome = true

instance (c : ModuleCommunications Q R β) : Decidable (Dispatching c) :=
  inferInstanceAs (Decidable (_ ∧ _ ∧ _))

/-- An enqueued query begins a transaction; the first poll that writes it is kept. -/
def watch (s : Watched Q O E R β B) : Input Q E B → Option Uptime
  | .handle i now =>
    if (due now (s.shared.handlers i) s.shared.link.comms).isSome then none else s.dispatched
  | .task p =>
    if Dispatching s.shared.link.comms then some (s.dispatched.getD p.clock.checked)
    else s.dispatched
  | _ => s.dispatched

/-- The machine of the shared bus, watched. -/
def step (M : ModuleQueries Q O E R β) (bus : TwoWireBus β B) (s : Watched Q O E R β B)
    (i : Input Q E B) : Option (Watched Q O E R β B) :=
  (Pairing.step M bus s.shared i).map fun shared => { shared, dispatched := watch s i }

/-! ## 2. What is asked of a transaction -/

/-- **`started` is the time of the first dispatch.** -/
def Fixed (s : Watched Q O E R β B) : Prop :=
  ∀ t, s.dispatched = some t → s.shared.link.comms.started = t

/-- No query that has been dispatched is dispatched again, or else at the very same time. -/
def Once (s : Watched Q O E R β B) : Input Q E B → Prop
  | .task p => Dispatching s.shared.link.comms → ∀ t, s.dispatched = some t → p.clock.checked = t
  | _ => True

theorem fixed_start (queries : O) (devices : B) :
    Fixed (start queries devices : Watched Q O E R β B) := by
  intro t ht
  change none = some t at ht
  cases ht

/-! ## 3. One step, and the run -/

section Steps

variable {M : ModuleQueries Q O E R β} {bus : TwoWireBus β B} {s s' : Watched Q O E R β B}

/-- No outcome of an exchange moves `started`. -/
theorem settled_started {c : Clock} {mq : Q} {m m' : ModuleCommunications Q R β}
    (h : Settled M c mq m m') : m'.started = m.started := by
  cases h <;> rfl

/-- Nor does the exchange itself. -/
theorem runQuery_started {C : Type} (M : ModuleQueries Q O E R β) (bus : TwoWireBus β C)
    (p : Poll E) (mq : Q) (l : Link Q O R β C) :
    (runQuery M bus p mq l).comms.started = l.comms.started := rfl

theorem not_dispatching {c : ModuleCommunications Q R β} (h : c.address = 0 ∨ c.pending = none) :
    ¬ Dispatching c := by
  intro h
  obtain ⟨ha, _, hp⟩ := h
  rcases h with h | h
  · exact ha h
  · rw [h] at hp
    cases hp

/-- **A poll moves `started` when it writes the query, and only then.** -/
theorem polled_started {C : Type} {bus : TwoWireBus β C} {p : Poll E} {l l' : Link Q O R β C}
    (h : Polled M bus p l l') :
    l'.comms.started = if Dispatching l.comms then p.clock.checked else l.comms.started := by
  cases h with
  | idle h => rw [if_neg (not_dispatching h)]
  | started mq c' hp ha hq hs =>
      rw [if_pos ⟨ha, hq, by rw [hp]; rfl⟩]
      exact settled_started hs
  | ran mq c' hp ha hq hs =>
      rw [if_neg]
      · exact (settled_started hs).trans (runQuery_started M bus p mq l)
      · intro h
        obtain ⟨_, hq', _⟩ := h
        rw [hq] at hq'
        cases hq'

/-- The finishing half of `handle` leaves the transaction alone. -/
theorem handleFinish_comms {h h' : ModuleProtocolHandler Q} {l l' : Link Q O R β B}
    {f : Finished Q R} (hf : handleFinish M h l = (f, h', l')) :
    l'.comms.started = l.comms.started ∧ l'.comms.address = l.comms.address ∧
      l'.comms.hasQuery = l.comms.hasQuery := by
  rcases handleFinish_cases hf with ⟨_, _, rfl, _⟩ | ⟨_, _, _, _, _, rfl⟩ |
    ⟨_, _, _, _, _, _, rfl⟩
  · exact ⟨rfl, rfl, rfl⟩
  · exact ⟨rfl, rfl, rfl⟩
  · exact ⟨rfl, rfl, rfl⟩

theorem watch_handle (s : Watched Q O E R β B) (i : Nat) (now : Uptime) :
    watch s (.handle i now : Input Q E B) =
      if (due now (s.shared.handlers i) s.shared.link.comms).isSome then none
      else s.dispatched := rfl

/-- **What `handle` does to the transaction**: it goes on untouched, or a new one begins. -/
theorem handle_watched {i : Nat} {now : Uptime} {shared : Shared Q O E R β B}
    (h : handleStep M i now s.shared = some shared) :
    (watch s (.handle i now : Input Q E B) = s.dispatched ∧
        shared.link.comms.started = s.shared.link.comms.started ∧
        shared.link.comms.address = s.shared.link.comms.address ∧
        shared.link.comms.hasQuery = s.shared.link.comms.hasQuery) ∨
      watch s (.handle i now : Input Q E B) = none := by
  rw [watch_handle]
  rcases handleStep_cases h with ⟨f, h', l', hdue, hf, rfl⟩ | ⟨q, f, h', l', hdue, _, _, rfl⟩
  · rw [hdue]
    exact Or.inl ⟨rfl, handleFinish_comms hf⟩
  · rw [hdue]
    exact Or.inr rfl

/-- **What one step does to the start of the transaction.** -/
theorem step_fixed_iff {i : Input Q E B} (hfixed : Fixed s) (h : step M bus s i = some s') :
    Fixed s' ↔ Once s i := by
  obtain ⟨shared, hshared, rfl⟩ := Option.map_eq_some_iff.mp h
  cases i with
  | push =>
      cases hshared
      exact ⟨fun _ => trivial, fun _ => hfixed⟩
  | modules =>
      cases hshared
      exact ⟨fun _ => trivial, fun _ => hfixed⟩
  | handle i now =>
      refine ⟨fun _ => trivial, fun _ t ht => ?_⟩
      rcases handle_watched (E := E) hshared with ⟨hwatch, hstarted, _⟩ | hwatch
      · exact hstarted.trans (hfixed t (hwatch.symm.trans ht))
      · cases hwatch.symm.trans ht
  | task p =>
      cases hshared
      have hstarted : (pollStep M bus p s.shared).link.comms.started =
          if Dispatching s.shared.link.comms then p.clock.checked
          else s.shared.link.comms.started :=
        (congrArg _ (pollStep_comms p)).trans
          (polled_started (poll_polled M (record bus) p s.shared.link))
      by_cases hd : Dispatching s.shared.link.comms
      · -- the query is written: `started` is the reading of this poll
        have hwatch : watch s (.task p : Input Q E B) =
            some (s.dispatched.getD p.clock.checked) := if_pos hd
        rw [if_pos hd] at hstarted
        constructor
        · intro hfixed' _ t ht
          rw [ht] at hwatch
          exact hstarted.symm.trans (hfixed' t hwatch)
        · intro honce t ht
          have ht : s.dispatched.getD p.clock.checked = t :=
            Option.some.inj (hwatch.symm.trans ht)
          refine hstarted.trans ?_
          cases hdisp : s.dispatched with
          | none =>
              rw [hdisp] at ht
              exact ht
          | some t' =>
              rw [hdisp] at ht
              exact (honce hd t' hdisp).trans ht
      · have hwatch : watch s (.task p : Input Q E B) = s.dispatched := if_neg hd
        rw [if_neg hd] at hstarted
        exact ⟨fun _ hd' => absurd hd' hd,
          fun _ t ht => hstarted.trans (hfixed t (hwatch.symm.trans ht))⟩

end Steps

/-- **The start of the transaction stays where it was all along a run exactly if no query is
    dispatched again at another time.** -/
theorem started_fixed_iff (M : ModuleQueries Q O E R β) (bus : TwoWireBus β B) (queries : O)
    (devices : B) {tr : List (Watched Q O E R β B × Input Q E B)} {s : Watched Q O E R β B}
    (h : Run (step M bus) (start queries devices) tr s) :
    (Meets (fun s _ => Fixed s) tr ∧ Fixed s) ↔ Meets Once tr :=
  h.meets_iff Once Fixed Fixed (fixed_start queries devices) (fun _ hfixed => hfixed)
    fun _ _ _ hfixed hs => ⟨(step_fixed_iff hfixed hs).mpr, (step_fixed_iff hfixed hs).mp⟩

/-! ## 4. Busy and retry -/

/-- Once dispatched, a transaction under way has no query to write. -/
def Underway (s : Watched Q O E R β B) : Prop :=
  s.dispatched ≠ none → s.shared.link.comms.address ≠ 0 → s.shared.link.comms.hasQuery = false

section Busy

variable {M : ModuleQueries Q O E R β} {bus : TwoWireBus β B} {s s' : Watched Q O E R β B}

/-- Without a retry no outcome of an exchange asks for the query again. -/
theorem settled_hasQuery
    (hnever : ∀ bytes r, M.decode bytes = some r → M.replyType r ≠ .REPLY_RETRY) {c : Clock}
    {mq : Q} {m m' : ModuleCommunications Q R β} (h : Settled M c mq m m')
    (hq : m.hasQuery = false) : m'.hasQuery = false := by
  cases h with
  | retry r _ _ _ hd ht => exact absurd ht (hnever _ r hd)
  | _ => exact hq

/-- A poll does nothing, or leaves no query to write. -/
theorem polled_hasQuery
    (hnever : ∀ bytes r, M.decode bytes = some r → M.replyType r ≠ .REPLY_RETRY) {C : Type}
    {bus : TwoWireBus β C} {p : Poll E} {l l' : Link Q O R β C} (h : Polled M bus p l l') :
    (¬ Dispatching l.comms ∧ l' = l) ∨ l'.comms.hasQuery = false := by
  cases h with
  | idle h => exact Or.inl ⟨not_dispatching h, rfl⟩
  | started mq c' _ _ _ hs => exact Or.inr (settled_hasQuery hnever hs rfl)
  | ran mq c' _ _ hq hs => exact Or.inr (settled_hasQuery hnever hs hq)

/-- **One step of modules that never ask for a retry.** -/
theorem step_underway
    (hnever : ∀ bytes r, M.decode bytes = some r → M.replyType r ≠ .REPLY_RETRY)
    {i : Input Q E B} (hu : Underway s) (h : step M bus s i = some s') : Underway s' := by
  obtain ⟨shared, hshared, rfl⟩ := Option.map_eq_some_iff.mp h
  cases i with
  | push =>
      cases hshared
      exact hu
  | modules =>
      cases hshared
      exact hu
  | handle i now =>
      rcases handle_watched (E := E) hshared with ⟨hwatch, _, ha, hq⟩ | hwatch
      · intro hd haddr
        rw [hwatch] at hd
        exact hq.trans (hu hd (ha ▸ haddr))
      · exact fun hd => absurd hwatch hd
  | task p =>
      cases hshared
      intro hd haddr
      have hcomms : (pollStep M bus p s.shared).link.comms =
          (poll M (record bus) p s.shared.link).comms := pollStep_comms p
      rcases polled_hasQuery hnever (poll_polled M (record bus) p s.shared.link) with
        ⟨hidle, hsame⟩ | hq
      · have hwatch : watch s (.task p : Input Q E B) = s.dispatched := if_neg hidle
        rw [hwatch] at hd
        change (pollStep M bus p s.shared).link.comms.address ≠ 0 at haddr
        show (pollStep M bus p s.shared).link.comms.hasQuery = false
        rw [hcomms, hsame] at haddr ⊢
        exact hu hd haddr
      · exact (congrArg _ hcomms).trans hq

/-- **BUSY never moves the start**: it stays where it was in every run of modules that never ask
    for a retry. -/
theorem started_fixed_of_no_retry
    (hnever : ∀ bytes r, M.decode bytes = some r → M.replyType r ≠ .REPLY_RETRY) (queries : O)
    (devices : B) {tr : List (Watched Q O E R β B × Input Q E B)}
    (h : Run (step M bus) (start queries devices) tr s) : Fixed s := by
  have hboth : Fixed s ∧ Underway s := by
    refine h.inv (fun s => Fixed s ∧ Underway s)
      ⟨fixed_start queries devices, fun hd => absurd rfl hd⟩ ?_
    rintro s i s' ⟨hfixed, hu⟩ hs
    refine ⟨(step_fixed_iff hfixed hs).mpr ?_, step_underway hnever hu hs⟩
    cases i with
    | task p =>
        rintro ⟨ha, hq, _⟩ t ht
        rw [hu (by simp [ht]) ha] at hq
        cases hq
    | _ => trivial
  exact hboth.1

end Busy

/-- A module that answers every query with REPLY_RETRY. -/
def retryQueries : ModuleQueries Bool Unit Unit Bool Bool :=
  { echoQueries with replyType := fun _ => .REPLY_RETRY }

/-- A query is pushed, dispatched at 1000, and answered. -/
def retried : List (Input Bool Unit (List Bool)) :=
  [.push 0 500 8 true 0, .handle 0 600, pollAt 1000, pollAt 1010, pollAt 1200, pollAt 1300]

/-- The next poll dispatches it again, and the timeout counts from there. -/
theorem retry_moves_start : ¬ ∀ (tr : List _) (s : Watched Bool Unit Unit Bool Bool (List Bool)),
    Run (step retryQueries echoBus) (start () []) tr s → Fixed s := by
  intro hall
  have hexec : (exec (step retryQueries echoBus) (start () []) (retried ++ [pollAt 5000])).map
      (fun s => (s.dispatched, s.shared.link.comms.started)) = some (some 1000, 5000) := by
    decide +kernel
  obtain ⟨tr, s, hrun, hs⟩ := run_of_exec_map hexec
  rw [Prod.mk.injEq] at hs
  have hstarted := hall tr s hrun 1000 hs.1
  rw [hs.2] at hstarted
  exact absurd hstarted (by decide)

/-- Up to there it counts from the first dispatch. -/
theorem started_fixed_iff_retried : ∃ tr s,
    Run (step retryQueries echoBus) (start () []) tr s ∧ s.shared.link.comms.hasQuery = true ∧
    ((Meets (fun s _ => Fixed s) tr ∧ Fixed s) ↔ Meets Once tr) := by
  have hexec : (exec (step retryQueries echoBus) (start () []) retried).map
      (fun s => s.shared.link.comms.hasQuery) = some true := by decide +kernel
  obtain ⟨tr, s, hrun, hs⟩ := run_of_exec_map hexec
  exact ⟨tr, s, hrun, hs, started_fixed_iff retryQueries echoBus () [] hrun⟩

end FieldKit.Transaction

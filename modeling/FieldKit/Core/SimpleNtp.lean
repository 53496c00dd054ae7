/-
  File:      FieldKit/Core/SimpleNtp.lean
  Subject:   `SimpleNTP` (simple_ntp.cpp): how often are the time servers asked?

  `WifiState::serve` calls the task in every round and does not look at what it returns; nothing calls
  `enqueued`. The times of the readings of the clock do not wrap, what is read of them does. A time of 0
  stands for none, so what is stamped when the clock reads 0 is forgotten.

  Beside the state stands what was sent and set so far, oldest first.

  * `newEpoch_seconds` -- the time in a packet is read right, also behind 2036;
  * `polite` -- in any run, whatever packets come and however the clock wraps, two requests are more
    than two seconds apart, and the servers are left alone for 24 hours behind a packet, unless the
    clock read 0 at the first of them, or at the packet; the requests go to the two servers in turn.
-/
import FieldKit.Lib.Run
import FieldKit.Time

namespace FieldKit.Ntp

open Lib Time

/-! ## 1. The task -/

/-- `NtpSyncInterval`. -/
def syncInterval : Uptime := 24 * (60 * minutes)

/-- `NtpRetryAfter`. -/
def retryAfter : Uptime := 2 * seconds

/-- `SeventyYears`. -/
def seventyYears : BitVec 32 := 2208988800

/-- `NumberOfAddresses`. -/
def numberOfAddresses : Nat := 2

/-- The members of `SimpleNTP`. -/
structure SimpleNTP where
  addressIndex : BitVec 8 := 0
  initialized : Bool := false
  lastSent : Uptime := 0
  lastSynced : Uptime := 0
  deriving DecidableEq, Repr

/-- What a call of `task` meets: the times of its readings of the clock, and the buffer behind `read`,
    if there is a packet. -/
structure Poll where
  internet : Bool
  asked : Nat
  retried : Nat
  sent : Nat
  synced : Nat
  packet : Option (List Byte)
  deriving DecidableEq, Repr

/-- What is sent to which server, and what is set; each with the time at which it was decided on, and the
    time that is kept of it. -/
inductive Event where
  | request (address decided stamped : Nat)
  | synced (epoch : BitVec 32) (decided stamped : Nat)
  deriving DecidableEq, Repr

/-- `newEpoch`: the seconds at 40, most significant byte first. -/
def newEpoch (buffer : List Byte) : BitVec 32 :=
  BitVec.ofNat 32 (((buffer.getD 40 0).toNat * 256 + (buffer.getD 41 0).toNat) * 65536 +
    ((buffer.getD 42 0).toNat * 256 + (buffer.getD 43 0).toNat)) - seventyYears

/-- The request, if there was none or the last one was long ago. -/
def retry (p : Poll) (n : SimpleNTP) : SimpleNTP × List Event :=
  if n.lastSent = 0 ∨ retryAfter < clock p.retried - n.lastSent then
    ({ n with initialized := true, addressIndex := n.addressIndex + 1, lastSent := clock p.sent },
      [.request (n.addressIndex.toNat % numberOfAddresses) p.retried p.sent])
  else (n, [])

/-- The packet. -/
def receive (p : Poll) (n : SimpleNTP) : (TaskEval × SimpleNTP) × List Event :=
  match p.packet with
  | some buffer =>
    ((.done, { n with lastSynced := clock p.synced, initialized := false }),
      [.synced (newEpoch buffer) p.asked p.synced])
  | none => ((.busy, n), [])

/-- `task()`. -/
def task (p : Poll) (n : SimpleNTP) : (TaskEval × SimpleNTP) × List Event :=
  if ¬ p.internet then ((.done, n), [])
  else if 0 < n.lastSynced ∧ clock p.asked - n.lastSynced < syncInterval then ((.done, n), [])
  else
    let (n, sent) := retry p n
    let (result, set) := receive p n
    (result, sent ++ set)

/-- The time, the task, and what it has done so far. -/
structure World where
  now : Nat := 0
  ntp : SimpleNTP := {}
  log : List Event := []
  deriving DecidableEq, Repr

/-- A call of the task; time does not go back. -/
def step (s : World) (p : Poll) : Option World :=
  if s.now ≤ p.asked ∧ p.asked ≤ p.retried ∧ p.retried ≤ p.sent ∧ p.sent ≤ p.synced then
    let (result, events) := task p s.ntp
    some { now := p.synced, ntp := result.2, log := s.log ++ events }
  else none

/-! ## 2. The time in a packet -/

/-- **Seconds since 1900, of which a packet holds the last 32 bits, are seconds since 1970 again.** -/
theorem newEpoch_seconds (time : BitVec 32) {buffer : List Byte}
    (hbytes : ∀ i < 4, (buffer.getD (40 + i) 0).toNat =
      (time + seventyYears).toNat / 256 ^ (3 - i) % 256) : newEpoch buffer = time := by
  have h0 := hbytes 0 (by decide)
  have h1 := hbytes 1 (by decide)
  have h2 := hbytes 2 (by decide)
  have h3 := hbytes 3 (by decide)
  have hlt := (time + seventyYears).isLt
  have hall : ((buffer.getD 40 0).toNat * 256 + (buffer.getD 41 0).toNat) * 65536 +
      ((buffer.getD 42 0).toNat * 256 + (buffer.getD 43 0).toNat) = (time + seventyYears).toNat := by
    simp only [Nat.add_zero, Nat.sub_zero, Nat.reduceAdd, Nat.reduceSub, Nat.reducePow] at h0 h1 h2 h3
    rw [h0, h1, h2, h3]
    omega
  unfold newEpoch
  rw [hall, BitVec.ofNat_toNat, BitVec.setWidth_eq, BitVec.add_sub_cancel]

/-! ## 3. The servers -/

/-- The time at which an event was decided on. -/
def Event.decided : Event → Nat
  | .request _ decided _ => decided
  | .synced _ decided _ => decided

/-- **An earlier event leaves the servers alone until a later one.** -/
def LeavesAlone : Event → Event → Prop
  | .request _ _ stamped, .request _ decided _ =>
    clock stamped ≠ 0 → stamped + retryAfter.toNat < decided
  | .synced _ _ stamped, e => clock stamped ≠ 0 → stamped + syncInterval.toNat ≤ e.decided
  | .request _ _ _, .synced _ _ _ => True

/-- The server of a request. -/
def Event.address : Event → Option Nat
  | .request address _ _ => some address
  | .synced _ _ _ => none

/-- **All of them do, and the servers are asked in turn.** -/
structure Polite (log : List Event) : Prop where
  spaced : log.Pairwise LeavesAlone
  turns : ∃ k, log.filterMap Event.address = (List.range k).map (· % numberOfAddresses)

/-- What is remembered of an event. -/
def Remembered (now : Nat) (n : SimpleNTP) : Event → Prop
  | .request _ _ stamped =>
    clock stamped = 0 ∨ stamped + retryAfter.toNat < now ∨ (stamped ≤ now ∧ n.lastSent = clock stamped)
  | .synced _ _ stamped =>
    clock stamped = 0 ∨ stamped + syncInterval.toNat ≤ now ∨
      (stamped ≤ now ∧ n.lastSynced = clock stamped)

/-- The invariant. -/
structure Inv (s : World) : Prop where
  spaced : s.log.Pairwise LeavesAlone
  remembered : ∀ e ∈ s.log, Remembered s.now s.ntp e
  turns : ∃ k, s.log.filterMap Event.address = (List.range k).map (· % numberOfAddresses) ∧
    s.ntp.addressIndex.toNat = k % 256

section Steps

variable {now : Nat} {n : SimpleNTP} {log : List Event} {p : Poll}

/-- Time goes on. -/
theorem Remembered.later {now' : Nat} {e : Event} (h : Remembered now n e) (hnow : now ≤ now') :
    Remembered now' n e := by
  cases e with
  | request address decided stamped =>
      rcases h with hzero | hlong | ⟨hbefore, hsent⟩
      · exact Or.inl hzero
      · exact Or.inr (Or.inl (Nat.lt_of_lt_of_le hlong hnow))
      · exact Or.inr (Or.inr ⟨Nat.le_trans hbefore hnow, hsent⟩)
  | synced epoch decided stamped =>
      rcases h with hzero | hlong | ⟨hbefore, hsynced⟩
      · exact Or.inl hzero
      · exact Or.inr (Or.inl (Nat.le_trans hlong hnow))
      · exact Or.inr (Or.inr ⟨Nat.le_trans hbefore hnow, hsynced⟩)

theorem Inv.later {now' : Nat} (h : Inv ⟨now, n, log⟩) (hnow : now ≤ now') : Inv ⟨now', n, log⟩ :=
  ⟨h.spaced, fun e he => (h.remembered e he).later hnow, h.turns⟩

/-- **When the task asks again**, all packets lie behind it by so much. -/
def Due (p : Poll) (log : List Event) : Prop :=
  ∀ e ∈ log, ∀ epoch decided stamped, e = .synced epoch decided stamped →
    clock stamped ≠ 0 → stamped + syncInterval.toNat ≤ p.asked

theorem due_of (h : Inv ⟨now, n, log⟩) (hnow : now ≤ p.asked)
    (hask : ¬ (0 < n.lastSynced ∧ clock p.asked - n.lastSynced < syncInterval)) : Due p log := by
  rintro e he epoch decided stamped rfl hstamped
  rcases h.remembered _ he with hzero | hlong | ⟨hbefore, hsynced⟩
  · exact absurd hzero hstamped
  · exact Nat.le_trans hlong hnow
  · have hpos : 0 < n.lastSynced := by
      rw [hsynced, BitVec.lt_def]
      exact Nat.pos_of_ne_zero fun hzero => hstamped (BitVec.eq_of_toNat_eq hzero)
    have hlong : ¬ clock p.asked - n.lastSynced < syncInterval := fun hlt => hask ⟨hpos, hlt⟩
    rw [hsynced, BitVec.lt_def] at hlong
    have hbefore : stamped ≤ now := hbefore
    have hle := clock_sub_le (Nat.le_trans hbefore hnow)
    omega

/-- **The request.** -/
theorem retry_inv (h : Inv ⟨now, n, log⟩) (hdue : Due p log) (hasked : now ≤ p.asked)
    (hretried : p.asked ≤ p.retried) (hsent : p.retried ≤ p.sent) :
    Inv ⟨p.sent, (retry p n).1, log ++ (retry p n).2⟩ ∧ Due p (log ++ (retry p n).2) := by
  have hnow : now ≤ p.sent := Nat.le_trans hasked (Nat.le_trans hretried hsent)
  unfold retry
  split
  · next hagain =>
      -- the last request was long ago
      have hlong : ∀ e ∈ log, ∀ address decided stamped, e = .request address decided stamped →
          clock stamped ≠ 0 → stamped + retryAfter.toNat < p.retried := by
        rintro e he address decided stamped rfl hstamped
        rcases h.remembered _ he with hzero | hlong | ⟨hbefore, hlast⟩
        · exact absurd hzero hstamped
        · exact Nat.lt_of_lt_of_le hlong (Nat.le_trans hasked hretried)
        · have hbefore : stamped ≤ now := hbefore
          have hlast : n.lastSent = clock stamped := hlast
          rcases hagain with hnone | hlater
          · exact absurd (hlast ▸ hnone) hstamped
          · rw [hlast, BitVec.lt_def] at hlater
            have hle := clock_sub_le (Nat.le_trans hbefore (Nat.le_trans hasked hretried))
            omega
      refine ⟨⟨?_, ?_, ?_⟩, ?_⟩
      · refine List.pairwise_append.mpr ⟨h.spaced, List.pairwise_singleton _ _, fun e he f hf => ?_⟩
        rw [List.mem_singleton.mp hf]
        cases e with
        | request address decided stamped => exact hlong _ he _ _ _ rfl
        | synced epoch decided stamped =>
            exact fun hstamped => Nat.le_trans (hdue _ he _ _ _ rfl hstamped) hretried
      · intro e he
        rcases List.mem_append.mp he with he | he
        · cases e with
          | request address decided stamped =>
              by_cases hstamped : clock stamped = 0
              · exact Or.inl hstamped
              · exact Or.inr (Or.inl (Nat.lt_of_lt_of_le (hlong _ he _ _ _ rfl hstamped) hsent))
          | synced epoch decided stamped => exact (h.remembered _ he).later hnow
        · rw [List.mem_singleton.mp he]
          exact Or.inr (Or.inr ⟨Nat.le_refl _, rfl⟩)
      · obtain ⟨k, hturns, hindex⟩ := h.turns
        refine ⟨k + 1, ?_, ?_⟩
        · have hindex : n.addressIndex.toNat = k % 256 := hindex
          have hnext : n.addressIndex.toNat % numberOfAddresses = k % numberOfAddresses := by
            rw [hindex]
            unfold numberOfAddresses
            omega
          rw [List.filterMap_append, hturns, List.range_succ, List.map_append]
          show _ ++ [n.addressIndex.toNat % numberOfAddresses] = _ ++ [k % numberOfAddresses]
          rw [hnext]
        · have hindex : n.addressIndex.toNat = k % 256 := hindex
          show (n.addressIndex + 1).toNat = _
          rw [BitVec.toNat_add, hindex]
          show (k % 256 + 1) % 256 = _
          omega
      · intro e he epoch decided stamped heq
        rcases List.mem_append.mp he with he | he
        · exact hdue e he epoch decided stamped heq
        · rw [List.mem_singleton.mp he] at heq
          cases heq
  · rw [List.append_nil]
    exact ⟨h.later hnow, hdue⟩

/-- **The packet.** -/
theorem receive_inv (h : Inv ⟨now, n, log⟩) (hdue : Due p log) (hasked : p.asked ≤ now)
    (hsynced : now ≤ p.synced) :
    Inv ⟨p.synced, (receive p n).1.2, log ++ (receive p n).2⟩ := by
  unfold receive
  cases p.packet with
  | none =>
      rw [List.append_nil]
      exact h.later hsynced
  | some buffer =>
      refine ⟨?_, ?_, ?_⟩
      · refine List.pairwise_append.mpr ⟨h.spaced, List.pairwise_singleton _ _, fun e he f hf => ?_⟩
        rw [List.mem_singleton.mp hf]
        cases e with
        | request address decided stamped => trivial
        | synced epoch decided stamped => exact hdue _ he _ _ _ rfl
      · intro e he
        rcases List.mem_append.mp he with he | he
        · cases e with
          | request address decided stamped => exact (h.remembered _ he).later hsynced
          | synced epoch decided stamped =>
              by_cases hstamped : clock stamped = 0
              · exact Or.inl hstamped
              · exact Or.inr (Or.inl (Nat.le_trans (hdue _ he _ _ _ rfl hstamped)
                  (Nat.le_trans hasked hsynced)))
        · rw [List.mem_singleton.mp he]
          exact Or.inr (Or.inr ⟨Nat.le_refl _, rfl⟩)
      · obtain ⟨k, hturns, hindex⟩ := h.turns
        refine ⟨k, ?_, hindex⟩
        rw [List.filterMap_append, hturns]
        exact List.append_nil _

/-- **One call.** -/
theorem task_inv (h : Inv ⟨now, n, log⟩) (hasked : now ≤ p.asked) (hretried : p.asked ≤ p.retried)
    (hsent : p.retried ≤ p.sent) (hsynced : p.sent ≤ p.synced) :
    Inv ⟨p.synced, (task p n).1.2, log ++ (task p n).2⟩ := by
  have hnow : now ≤ p.synced :=
    Nat.le_trans hasked (Nat.le_trans hretried (Nat.le_trans hsent hsynced))
  unfold task
  split
  · rw [List.append_nil]
    exact h.later hnow
  · split
    · rw [List.append_nil]
      exact h.later hnow
    · next hask =>
        obtain ⟨hretry, hdue⟩ := retry_inv h (due_of h hasked hask) hasked hretried hsent
        have hreceive := receive_inv hretry hdue (Nat.le_trans hretried hsent) hsynced
        rw [List.append_assoc] at hreceive
        exact hreceive

theorem step_inv {s s' : World} (h : Inv s) (hs : step s p = some s') : Inv s' := by
  unfold step at hs
  split at hs
  · next htimes =>
      obtain ⟨hasked, hretried, hsent, hsynced⟩ := htimes
      have htask := task_inv h hasked hretried hsent hsynced
      cases hs
      exact htask
  · cases hs

end Steps

/-- **The servers are left alone**, in any run of the task. -/
theorem polite {tr : List (World × Poll)} {s : World} (h : Run step {} tr s) : Polite s.log := by
  have hinv : Inv s :=
    h.inv Inv ⟨List.Pairwise.nil, fun e he => absurd he List.not_mem_nil, 0, rfl, rfl⟩
      fun _ _ _ hi hs => step_inv hi hs
  obtain ⟨k, hturns, _⟩ := hinv.turns
  exact ⟨hinv.spaced, k, hturns⟩

/-- A call at which all readings of the clock are the same. -/
def poll (time : Nat) (packet : Option (List Byte)) : Poll := ⟨true, time, time, time, time, packet⟩

/-- Asked, asked again, answered; and asked the next day, behind the wrap of the clock. -/
theorem polite_wrapped : ∃ tr s, Run step {} tr s ∧ s.log =
    [.request 0 4294960000 4294960000, .request 1 4294962001 4294962001,
      .synced (-seventyYears) 4294962001 4294962001, .request 0 4381362001 4381362001] ∧
    Polite s.log := by
  have hexec : (exec step {} [poll 4294960000 none, poll 4294962000 none,
      poll 4294962001 (some []), poll 4295000000 none, poll 4381362001 none]).map (·.log) = some
    [.request 0 4294960000 4294960000, .request 1 4294962001 4294962001,
      .synced (-seventyYears) 4294962001 4294962001, .request 0 4381362001 4381362001] := by
    decide +kernel
  obtain ⟨tr, s, hrun, hlog⟩ := run_of_exec_map hexec
  exact ⟨tr, s, hrun, hlog, polite hrun⟩

end FieldKit.Ntp

/-
  File:      FieldKit/Core/LiveData.lean
  Subject:   Live data (app_servicer.cpp, core_state.cpp): is every reading that was merged reported?

  A poll counts the readings that are Done, asks for one after the other by its number, and clears
  them. To the poll, the sensors of the list are boxes: a reading is put into one by a merge, and
  the poll empties all.

  * `poll_readings` -- a poll of any list reports the readings that are Done, in the order of the
    list, and no reading is asked for in vain;
  * `polled_once` -- over any run of merges and polls, a reading, merged or Done at the start, is in
    the reply to the first poll after it, unless a newer one of its sensor came first, and in no
    other reply.
-/
import FieldKit.Core.Modules
import FieldKit.Lib.Mailbox

namespace FieldKit.Attached

open Lib

/-! ## 1. The poll -/

/-- `fk_app_LiveDataSample`. -/
structure LiveDataSample where
  sensor : Nat
  time : BitVec 32
  value : BitVec 32
  deriving DecidableEq, Repr

/-- The sample of a reading. -/
def sample (sensor : Nat) (r : SensorReading) : LiveDataSample := ⟨sensor, r.time, r.value⟩

/-- The loop of QUERY_LIVE_DATA_POLL, over the first readings. -/
def samples (stale : Stale) (s : Modules) : Nat → Option (List LiveDataSample × Modules)
  | 0 => some ([], s)
  | i + 1 => do
    let (xs, s) ← samples stale s i
    let ((id, _, r), s) ← s.getReading stale i
    return (xs ++ [sample id r], s)

/-- QUERY_LIVE_DATA_POLL: the samples of its reply; `none` is a failed assertion. -/
def Modules.poll (stale : Stale) (s : Modules) : Option (List LiveDataSample × Modules) := do
  let (numberOfReadings, s) := s.numberOfReadings stale
  let (xs, s) ← samples stale s numberOfReadings
  return (xs, s.clearReadings stale)

/-- **The readings that are Done**, in the order of the list and of the sensors. -/
def Modules.doneReadings (stale : Stale) (s : Modules) : List (ModuleInfo × Nat) :=
  s.visited.filter fun (m, j) => decide ((reading stale m j).status = .Done)

/-- The sample of one of them. -/
def sampleOf (stale : Stale) (p : ModuleInfo × Nat) : LiveDataSample :=
  sample p.2 (Modules.reading stale p.1 p.2)

section Poll

variable {stale : Stale} {s : Modules}

theorem numberOfReadings_eq (stale : Stale) (s : Modules) :
    (s.numberOfReadings stale).1 = (s.doneReadings stale).length :=
  List.countP_eq_length_filter

/-- **The loop of `getReading` finds the reading with this number**, counted from `number`. -/
theorem findReading_eq (stale : Stale) {index number : Nat} (hle : number ≤ index)
    (ps : List (ModuleInfo × Nat)) :
    (Modules.findReading stale index number ps).1 =
      (ps.filter fun (m, j) =>
        decide ((Modules.reading stale m j).status = .Done))[index - number]? := by
  induction ps generalizing number with
  | nil => rfl
  | cons p rest ih =>
      obtain ⟨m, j⟩ := p
      unfold Modules.findReading
      by_cases hdone : (Modules.reading stale m j).status = .Done
      · rw [if_pos hdone, List.filter_cons_of_pos (by simpa using hdone)]
        by_cases hnumber : number = index
        · rw [if_pos hnumber, hnumber, Nat.sub_self]
          rfl
        · rw [if_neg hnumber]
          have hsub : index - number = (index - (number + 1)) + 1 := by omega
          rw [hsub, List.getElem?_cons_succ]
          exact ih (by omega)
      · rw [if_neg hdone, List.filter_cons_of_neg (by simpa using hdone)]
        exact ih hle

/-- **What `getReading` returns**; the list stays as it is. -/
theorem getReading_eq (stale : Stale) (index : Nat) (s : Modules) :
    ∃ as, s.getReading stale index = ((s.doneReadings stale)[index]?).map fun p =>
      ((p.2, (p.1.sensors[p.2]?).getD none, Modules.reading stale p.1 p.2), s.access as) := by
  have hfound := findReading_eq stale (Nat.zero_le index) s.visited
  refine ⟨(Modules.findReading stale index 0 s.visited).2, ?_⟩
  unfold Modules.getReading
  dsimp only
  rw [hfound]
  rfl

/-- **The loop reports the first readings.** -/
theorem samples_eq (stale : Stale) (s : Modules) {n : Nat} (hn : n ≤ (s.doneReadings stale).length) :
    ∃ as, samples stale s n =
      some (((s.doneReadings stale).take n).map (sampleOf stale), s.access as) := by
  induction n with
  | zero => exact ⟨[], by simp [samples, Modules.access]⟩
  | succ n ih =>
      obtain ⟨as, hloop⟩ := ih (by omega)
      obtain ⟨as', hget⟩ := getReading_eq stale n (s.access as)
      have hsame : (s.access as).doneReadings stale = s.doneReadings stale := rfl
      have hlt : n < (s.doneReadings stale).length := hn
      rw [hsame, List.getElem?_eq_getElem hlt, Option.map_some] at hget
      refine ⟨as ++ as', ?_⟩
      have htwice : (s.access as).access as' = s.access (as ++ as') := by
        simp only [Modules.access, List.append_assoc]
      unfold samples
      simp only [Option.bind_eq_bind, hloop, Option.bind_some, hget, Option.pure_def, htwice]
      rw [List.take_add_one, List.getElem?_eq_getElem hlt, List.map_append]
      rfl

/-- **A poll reports every reading that is Done, in order**, whatever the list; then all readings
    are cleared. -/
theorem poll_readings (stale : Stale) (s : Modules) :
    (∀ index < (s.numberOfReadings stale).1, s.getReading stale index ≠ none) ∧
      ∃ s', s.poll stale = some ((s.doneReadings stale).map (sampleOf stale), s') ∧
        s'.modules = s.modules.map (Modules.clearModule stale) ∧ s'.pool = s.pool := by
  refine ⟨fun index hindex => ?_, ?_⟩
  · rw [numberOfReadings_eq] at hindex
    obtain ⟨as, hget⟩ := getReading_eq stale index s
    rw [hget, List.getElem?_eq_getElem hindex]
    exact Option.some_ne_none _
  · have hsame : (s.numberOfReadings stale).2.doneReadings stale = s.doneReadings stale := rfl
    obtain ⟨as, hloop⟩ := samples_eq stale (s.numberOfReadings stale).2
      (numberOfReadings_eq stale s).le
    refine ⟨((s.numberOfReadings stale).2.access as).clearReadings stale, ?_, rfl, rfl⟩
    unfold Modules.poll
    dsimp only
    rw [hloop, hsame, numberOfReadings_eq, List.take_length]
    rfl

end Poll

/-! ## 2. Merges and polls -/

/-- What the elements of the arrays hold that nothing was written to. It stays as it is. -/
abbrev Memory := Address → Nat → SensorReading

/-- This memory, as the loops over all modules read it. -/
def unwritten (memory : Memory) : Stale := fun m j => memory m.address j

/-- The calls between which readings must not get lost. -/
inductive LiveInput where
  | merge (now : BitVec 32) (address : Address) (incoming : IncomingSensorReading)
  | poll

/-- The machine. A step is refused exactly where an assertion of the source fails. -/
def liveStep (memory : Memory) (s : Modules) : LiveInput → Option Modules
  | .merge now address incoming =>
    (s.getModule address).bind fun k => s.mergeReading now k incoming
  | .poll => (s.poll (unwritten memory)).map Prod.snd

/-- **The sensor of a reading is one of its module.** -/
def InRange (s : Modules) : LiveInput → Prop
  | .merge _ address incoming =>
    ∀ m, known address s = some m → incoming.sensor % 256 < m.numberOfSensors.toNat
  | .poll => True

/-- **There is room for the status of every sensor**, and no two modules have the same address. -/
structure Roomy (s : Modules) : Prop where
  readings : ∀ m ∈ s.modules, m.numberOfSensors.toNat ≤ m.readings.length
  distinct : (s.modules.map (·.address)).Nodup

theorem Sound.roomy {s : Modules} (hs : Sound s) : Roomy s := ⟨hs.readings, hs.distinct⟩

/-- What a reading leaves in the array. -/
def stored (now : BitVec 32) (incoming : IncomingSensorReading) : SensorReading where
  time := if Modules.isTimeOff now incoming.time then now else incoming.time
  value := incoming.value
  status := .Done

/-- A step, as the boxes see it: there is one for each sensor. -/
def event : Modules × LiveInput → BoxEvent (Address × Nat) SensorReading
  | (_, .merge now address incoming) =>
    .put (address, incoming.sensor % 256) (stored now incoming)
  | (_, .poll) => .drain

/-! ## 3. The sensors as boxes -/

/-- The reading of a sensor, if it is Done. -/
def doneReading (memory : Memory) (m : ModuleInfo) (j : Nat) : Option SensorReading :=
  let r := Modules.reading (unwritten memory) m j
  if r.status = .Done then some r else none

/-- **What lies in the box of a sensor.** -/
def content (memory : Memory) (s : Modules) (k : Address × Nat) : Option SensorReading :=
  (known k.1 s).bind fun m => doneReading memory m k.2

/-- The sensors of the list, in order. -/
def sensorsOf (s : Modules) : List (Address × Nat) := s.visited.map fun p => (p.1.address, p.2)

/-- What lies in the boxes at the start: the readings of the sensors of the list that are Done. -/
def first (memory : Memory) (s : Modules) (k : Address × Nat) : Option SensorReading :=
  if k ∈ sensorsOf s then content memory s k else none

/-- Where a sample comes from: the step that merged its reading, or a reading that was Done at the
    start. -/
def Carries (memory : Memory) (s₀ : Modules) (tr : List (Modules × LiveInput)) :
    Origin (Address × Nat) → LiveDataSample → Prop
  | .event n, x => ∃ s now address incoming, tr[n]? = some (s, .merge now address incoming) ∧
      x = sample (incoming.sensor % 256) (stored now incoming)
  | .before k, x => ∃ r, first memory s₀ k = some r ∧ x = sample k.2 r

/-- **What is asked of the poll of step `d`**, in `s`: its samples are the readings that are Done,
    and no `getReading` fails on the way. Every sample comes from a reading that was Done at the
    start, or from the step that merged it; no two come from the same, and the ones that are
    named are those whose reading waits for this poll, and for no other: no newer one has replaced
    it, and no poll has reported it. -/
structure OncePolled (memory : Memory) (s₀ : Modules) (tr : List (Modules × LiveInput)) (d : Nat)
    (s : Modules) (reply : List LiveDataSample) (origins : List (Origin (Address × Nat))) :
    Prop where
  getReading : ∀ index < (s.numberOfReadings (unwritten memory)).1,
    s.getReading (unwritten memory) index ≠ none
  replied : ∃ s', s.poll (unwritten memory) = some (reply, s')
  done : reply = (s.doneReadings (unwritten memory)).map (sampleOf (unwritten memory))
  carried : List.Forall₂ (Carries memory s₀ tr) origins reply
  distinct : origins.Nodup
  waiting : ∀ o, o ∈ origins ↔ Waits (first memory s₀) (tr.map event) o d
  once : ∀ o d', o ∈ origins → Waits (first memory s₀) (tr.map event) o d' → d' = d

section Boxes

variable {memory : Memory} {s s' : Modules}

theorem known_eq_find (address : Address) (s : Modules) :
    known address s = s.modules.find? fun m => decide (m.address = address) := by
  unfold known Modules.getModule
  exact List.find?_eq_bind_findIdx?_getElem?.symm

theorem known_mem {address : Address} {m : ModuleInfo} (h : known address s = some m) :
    m ∈ s.modules ∧ m.address = address := by
  rw [known_eq_find] at h
  have ha := List.find?_some h
  exact ⟨List.mem_of_find?_eq_some h, of_decide_eq_true ha⟩

/-- A module of the list is the one that is known at its address. -/
theorem known_of_mem (hs : Roomy s) {m : ModuleInfo} (hm : m ∈ s.modules) :
    known m.address s = some m := by
  rcases getModule_cases m.address s with ⟨_, hnot⟩ | ⟨pre, x, post, hmodules, _, ha, hknown⟩
  · exact absurd rfl (hnot m hm)
  · have hx : x ∈ s.modules := by
      rw [hmodules]
      exact List.mem_append_right _ List.mem_cons_self
    rw [hknown, List.inj_on_of_nodup_map hs.distinct hx hm ha]

/-- The other modules have other addresses. -/
theorem Roomy.others {pre post : List ModuleInfo} {m : ModuleInfo} (hs : Roomy s)
    (hmodules : s.modules = pre ++ m :: post) : ∀ x ∈ pre ++ post, x.address ≠ m.address := by
  have hdistinct := hs.distinct
  rw [hmodules, List.map_append, List.map_cons, List.nodup_middle, List.nodup_cons,
    ← List.map_append] at hdistinct
  exact fun x hx ha => hdistinct.1 (ha ▸ List.mem_map_of_mem hx)

/-- **One module replaced by another at its address.** -/
theorem known_replace {pre post : List ModuleInfo} {m m' : ModuleInfo} (hs : Roomy s)
    (hmodules : s.modules = pre ++ m :: post) (hmodules' : s'.modules = pre ++ m' :: post)
    (haddress : m'.address = m.address) (a : Address) :
    known a s' = if a = m.address then some m' else known a s := by
  rw [known_eq_find, known_eq_find, hmodules, hmodules', List.find?_append, List.find?_append]
  by_cases ha : a = m.address
  · have hnone : pre.find? (fun x => decide (x.address = a)) = none := by
      rw [List.find?_eq_none]
      intro x hx
      simpa [ha] using hs.others hmodules x (List.mem_append_left _ hx)
    rw [if_pos ha, hnone, Option.none_or, List.find?_cons_of_pos (by simp [ha, haddress])]
  · rw [if_neg ha, List.find?_cons_of_neg (by simp [haddress, Ne.symm ha]),
      List.find?_cons_of_neg (by simp [Ne.symm ha])]

theorem sensorsOf_eq (s : Modules) : sensorsOf s = s.modules.flatMap fun m =>
    (List.range m.numberOfSensors.toNat).map fun j => (m.address, j) := by
  unfold sensorsOf Modules.visited
  rw [List.map_flatMap]
  simp only [List.map_map]
  rfl

/-- The sensors of a list are those of its modules. -/
theorem mem_sensorsOf (hs : Roomy s) {k : Address × Nat} :
    k ∈ sensorsOf s ↔ ∃ m, known k.1 s = some m ∧ k.2 < m.numberOfSensors.toNat := by
  rw [sensorsOf_eq, List.mem_flatMap]
  constructor
  · intro h
    obtain ⟨m, hm, hk⟩ := h
    obtain ⟨j, hj, rfl⟩ := List.mem_map.mp hk
    exact ⟨m, known_of_mem hs hm, List.mem_range.mp hj⟩
  · intro h
    obtain ⟨m, hm, hj⟩ := h
    obtain ⟨hmem, ha⟩ := known_mem hm
    exact ⟨m, hmem, List.mem_map.mpr ⟨k.2, List.mem_range.mpr hj, Prod.ext ha rfl⟩⟩

/-- What is read where something was written. -/
theorem doneReading_store {now : BitVec 32} {incoming : IncomingSensorReading} {m : ModuleInfo}
    (hlt : incoming.sensor % 256 < m.readings.length) (j : Nat) :
    doneReading memory (Modules.storeReading now incoming m) j =
      if j = incoming.sensor % 256 then some (stored now incoming) else doneReading memory m j := by
  unfold doneReading Modules.reading Modules.storeReading
  dsimp only
  rw [List.getElem?_set]
  by_cases hj : j = incoming.sensor % 256
  · rw [if_pos hj, if_pos hj.symm, if_pos hlt]
    rfl
  · rw [if_neg hj, if_neg (Ne.symm hj)]
    rfl

/-- What is read where the status was cleared. -/
theorem doneReading_clear {m : ModuleInfo} {j : Nat} (hj : j < m.numberOfSensors.toNat)
    (hlt : j < m.readings.length) :
    doneReading memory (Modules.clearModule (unwritten memory) m) j = none := by
  unfold doneReading Modules.reading Modules.clearModule
  dsimp only
  rw [List.getElem?_mapIdx, List.getElem?_eq_getElem hlt, Option.map_some, if_pos hj]
  rfl

/-- One module replaced by another with as many sensors, and room for them. -/
theorem Roomy.replaced {pre post : List ModuleInfo} {m m' : ModuleInfo} (hs : Roomy s)
    (hmodules : s.modules = pre ++ m :: post) (hmodules' : s'.modules = pre ++ m' :: post)
    (haddress : m'.address = m.address) (hroom : m'.numberOfSensors.toNat ≤ m'.readings.length) :
    Roomy s' := by
  refine ⟨fun x hx => ?_, ?_⟩
  · rw [hmodules'] at hx
    rcases mem_replaced hx with rfl | hx
    · exact hroom
    · exact hs.readings x (hmodules ▸ hx)
  · rw [addresses_replaced hmodules hmodules' haddress]
    exact hs.distinct

theorem sensorsOf_replaced {pre post : List ModuleInfo} {m m' : ModuleInfo}
    (hmodules : s.modules = pre ++ m :: post) (hmodules' : s'.modules = pre ++ m' :: post)
    (haddress : m'.address = m.address) (hn : m'.numberOfSensors = m.numberOfSensors) :
    sensorsOf s' = sensorsOf s := by
  rw [sensorsOf_eq, sensorsOf_eq, hmodules, hmodules', List.flatMap_append, List.flatMap_append,
    List.flatMap_cons, List.flatMap_cons, haddress, hn]

/-- **What a merge does**: the reading is put into the box of its sensor. -/
theorem merge_content {now : BitVec 32} {address : Address} {incoming : IncomingSensorReading}
    (hs : Roomy s) (hrange : InRange s (.merge now address incoming))
    (h : liveStep memory s (.merge now address incoming) = some s') :
    Roomy s' ∧ sensorsOf s' = sensorsOf s ∧ ∀ k, content memory s' k =
      if k = (address, incoming.sensor % 256) then some (stored now incoming)
      else content memory s k := by
  obtain ⟨i, hi, h⟩ := Option.bind_eq_some_iff.mp h
  obtain ⟨pre, m, post, hmodules, ha, hknown, hmodules', _⟩ := mergeReading_cases hi h
  have hroom := hs.readings m (known_mem hknown).1
  have hlt := (hrange m hknown).trans_le hroom
  have hlength : (Modules.storeReading now incoming m).readings.length = m.readings.length :=
    List.length_set
  refine ⟨hs.replaced hmodules hmodules' rfl (hlength ▸ hroom),
    sensorsOf_replaced hmodules hmodules' rfl rfl, fun k => ?_⟩
  obtain ⟨a, j⟩ := k
  unfold content
  dsimp only
  rw [known_replace hs hmodules hmodules' rfl, ha]
  by_cases hka : a = address
  · subst hka
    rw [if_pos rfl, Option.bind_some, doneReading_store hlt, hknown, Option.bind_some]
    simp only [Prod.mk.injEq, true_and]
  · rw [if_neg hka, if_neg fun heq => hka (Prod.mk.inj heq).1]

/-- **What a poll does**: the boxes are emptied. -/
theorem poll_content {xs : List LiveDataSample} (hs : Roomy s)
    (h : s.poll (unwritten memory) = some (xs, s')) :
    Roomy s' ∧ sensorsOf s' = sensorsOf s ∧ ∀ k ∈ sensorsOf s, content memory s' k = none := by
  obtain ⟨_, t, hpoll, hmodules, _⟩ := poll_readings (unwritten memory) s
  obtain ⟨rfl, rfl⟩ := Prod.mk.inj (Option.some.inj (h.symm.trans hpoll))
  have hlength : ∀ m : ModuleInfo,
      (Modules.clearModule (unwritten memory) m).readings.length = m.readings.length :=
    fun _ => List.length_mapIdx
  refine ⟨⟨fun m hm => ?_, ?_⟩, ?_, fun k hk => ?_⟩
  · rw [hmodules] at hm
    obtain ⟨m, hmem, rfl⟩ := List.mem_map.mp hm
    rw [hlength]
    exact hs.readings m hmem
  · rw [hmodules, List.map_map]
    exact hs.distinct
  · rw [sensorsOf_eq, sensorsOf_eq, hmodules, List.flatMap_map]
    rfl
  · obtain ⟨m, hm, hj⟩ := (mem_sensorsOf hs).mp hk
    have hlt := hj.trans_le (hs.readings m (known_mem hm).1)
    unfold content
    rw [known_eq_find] at hm ⊢
    rw [hmodules, List.find?_map]
    show ((s.modules.find? fun m => decide (m.address = k.1)).map _).bind _ = _
    rw [hm, Option.map_some, Option.bind_some]
    exact doneReading_clear hj hlt

/-- **What is in the boxes is what a poll reports.** -/
theorem doneReadings_eq (memory : Memory) (hs : Roomy s) :
    (s.doneReadings (unwritten memory)).map (sampleOf (unwritten memory)) =
      (sensorsOf s).filterMap fun k => (content memory s k).map (sample k.2) := by
  unfold sensorsOf Modules.doneReadings
  rw [List.filterMap_map, ← List.filterMap_eq_map, List.filterMap_filter]
  refine List.filterMap_congr fun p hp => ?_
  obtain ⟨m, hm, hj⟩ := List.mem_flatMap.mp hp
  obtain ⟨j, _, rfl⟩ := List.mem_map.mp hj
  show _ = ((known m.address s).bind fun m => doneReading memory m j).map (sample j)
  rw [known_of_mem hs hm, Option.bind_some]
  unfold doneReading
  dsimp only
  by_cases hdone : (Modules.reading (unwritten memory) m j).status = .Done
  · rw [if_pos (by simpa using hdone), if_pos hdone]
    rfl
  · rw [if_neg (by simpa using hdone), if_neg hdone]
    rfl

/-! ## 4. Every run -/

/-- **What a run of merges and polls keeps**: the boxes are what its steps have left in them. -/
structure BoxesInv (memory : Memory) (s₀ : Modules) (tr : List (Modules × LiveInput))
    (s : Modules) : Prop where
  roomy : Roomy s
  sensors : sensorsOf s = sensorsOf s₀
  boxes : ∀ k ∈ sensorsOf s₀,
    content memory s k = (boxes (first memory s₀) (tr.map event) k).map (·.value)

theorem boxesInv_start (memory : Memory) {s₀ : Modules} (hs₀ : Roomy s₀) :
    BoxesInv memory s₀ [] s₀ := by
  refine ⟨hs₀, rfl, fun k hk => ?_⟩
  rw [List.map_nil, boxes_nil, first, if_pos hk]
  cases content memory s₀ k <;> rfl

theorem step_boxesInv {s₀ : Modules} {tr : List (Modules × LiveInput)} {i : LiveInput}
    (hinv : BoxesInv memory s₀ tr s) (hrange : InRange s i) (h : liveStep memory s i = some s') :
    BoxesInv memory s₀ (tr ++ [(s, i)]) s' := by
  cases i with
  | merge now address incoming =>
      obtain ⟨hroomy, hsensors, hcontent⟩ := merge_content hinv.roomy hrange h
      refine ⟨hroomy, hsensors.trans hinv.sensors, fun k hk => ?_⟩
      rw [hcontent k, List.map_append, List.map_singleton, boxes_concat, event, receive_put]
      split
      · rfl
      · exact hinv.boxes k hk
  | poll =>
      obtain ⟨⟨xs, t⟩, hpoll, rfl⟩ := Option.map_eq_some_iff.mp h
      obtain ⟨hroomy, hsensors, hcontent⟩ := poll_content hinv.roomy hpoll
      refine ⟨hroomy, hsensors.trans hinv.sensors, fun k hk => ?_⟩
      rw [List.map_append, List.map_singleton, boxes_concat]
      exact hcontent k (hinv.sensors.symm ▸ hk)

theorem run_boxesInv {s₀ : Modules} {tr : List (Modules × LiveInput)} (hs₀ : Roomy s₀)
    (h : Run (liveStep memory) s₀ tr s) (hrange : Meets InRange tr) :
    BoxesInv memory s₀ tr s := by
  induction h with
  | start => exact boxesInv_start memory hs₀
  | step tr s i s' _ hs ih =>
      obtain ⟨hrange, hi⟩ := (meets_concat InRange tr s i).mp hrange
      exact step_boxesInv (ih hrange) hi hs

theorem sensorsOf_nodup (hs : Roomy s) : (sensorsOf s).Nodup := by
  rw [sensorsOf_eq, List.nodup_flatMap]
  constructor
  · intro m _
    exact List.nodup_range.map fun _ _ h => (Prod.mk.inj h).2
  · refine (List.pairwise_map.mp hs.distinct).imp fun {m m'} hne => ?_
    intro k hk hk'
    obtain ⟨_, _, rfl⟩ := List.mem_map.mp hk
    obtain ⟨_, _, heq⟩ := List.mem_map.mp hk'
    exact hne (Prod.mk.inj heq).1.symm

/-- A reading that is merged is of a sensor of the list. -/
theorem merge_sensor {now : BitVec 32} {address : Address} {incoming : IncomingSensorReading}
    (hs : Roomy s) (hrange : InRange s (.merge now address incoming))
    (h : liveStep memory s (.merge now address incoming) = some s') :
    (address, incoming.sensor % 256) ∈ sensorsOf s := by
  obtain ⟨i, hi, h⟩ := Option.bind_eq_some_iff.mp h
  obtain ⟨_, m, _, _, _, hknown, _⟩ := mergeReading_cases hi h
  exact (mem_sensorsOf hs).mpr ⟨m, hknown, hrange m hknown⟩

/-- The step that put something into a box. -/
theorem event_put {tr : List (Modules × LiveInput)} {n : Nat} {k : Address × Nat}
    {v : SensorReading} (h : (tr.map event)[n]? = some (.put k v)) :
    ∃ s now address incoming, tr[n]? = some (s, .merge now address incoming) ∧
      k = (address, incoming.sensor % 256) ∧ v = stored now incoming := by
  rw [List.getElem?_map, Option.map_eq_some_iff] at h
  obtain ⟨⟨s, i⟩, hn, h⟩ := h
  cases i with
  | merge now address incoming =>
      cases h
      exact ⟨s, now, address, incoming, hn, rfl, rfl⟩
  | poll => cases h

/-- What a poll finds in the boxes, sensor after sensor. -/
def letters (memory : Memory) (s₀ : Modules) (tr : List (Modules × LiveInput)) :
    List ((Address × Nat) × Letter (Address × Nat) SensorReading) :=
  (sensorsOf s₀).filterMap fun k =>
    (boxes (first memory s₀) (tr.map event) k).map fun l => (k, l)

theorem mem_letters {s₀ : Modules} {tr : List (Modules × LiveInput)} {k : Address × Nat}
    {l : Letter (Address × Nat) SensorReading} :
    (k, l) ∈ letters memory s₀ tr ↔
      k ∈ sensorsOf s₀ ∧ boxes (first memory s₀) (tr.map event) k = some l := by
  unfold letters
  rw [List.mem_filterMap]
  constructor
  · intro h
    obtain ⟨k', hk', h⟩ := h
    obtain ⟨l', hl', heq⟩ := Option.map_eq_some_iff.mp h
    cases heq
    exact ⟨hk', hl'⟩
  · intro h
    obtain ⟨hk, hl⟩ := h
    exact ⟨k, hk, by rw [hl]; rfl⟩

/-- **The letters are what the poll reports.** -/
theorem letters_reply {s₀ : Modules} {tr : List (Modules × LiveInput)}
    (hinv : BoxesInv memory s₀ tr s) :
    (s.doneReadings (unwritten memory)).map (sampleOf (unwritten memory)) =
      (letters memory s₀ tr).map fun p => sample p.1.2 p.2.value := by
  rw [doneReadings_eq memory hinv.roomy, hinv.sensors]
  unfold letters
  rw [List.map_filterMap]
  refine List.filterMap_congr fun k hk => ?_
  rw [hinv.boxes k hk, Option.map_map, Option.map_map]
  rfl

/-- A letter comes from where it says. -/
theorem letters_come {s₀ : Modules} {tr : List (Modules × LiveInput)} {k : Address × Nat}
    {o : Origin (Address × Nat)} {v : SensorReading} (h : (k, ⟨o, v⟩) ∈ letters memory s₀ tr) :
    Comes (first memory s₀) (tr.map event) k v o :=
  (boxes_iff.mp (mem_letters.mp h).2).1

theorem letters_carry {s₀ : Modules} {tr : List (Modules × LiveInput)}
    {p : (Address × Nat) × Letter (Address × Nat) SensorReading} (hp : p ∈ letters memory s₀ tr) :
    Carries memory s₀ tr p.2.origin (sample p.1.2 p.2.value) := by
  obtain ⟨k, o, v⟩ := p
  cases o with
  | event n =>
      obtain ⟨s, now, address, incoming, hn, rfl, rfl⟩ := event_put (letters_come hp)
      exact ⟨s, now, address, incoming, hn, rfl⟩
  | before k' =>
      obtain ⟨rfl, hfirst⟩ := letters_come hp
      exact ⟨v, hfirst, rfl⟩

/-- **No origin is named twice**: what comes from it came into one box only. -/
theorem letters_nodup {s₀ : Modules} (hs₀ : Roomy s₀) (tr : List (Modules × LiveInput)) :
    ((letters memory s₀ tr).map (·.2.origin)).Nodup := by
  have hkeys : (letters memory s₀ tr).Pairwise fun p q => p.1 ≠ q.1 := by
    unfold letters
    rw [List.pairwise_filterMap]
    refine (sensorsOf_nodup hs₀).imp fun {k k'} hne => ?_
    intro p hp q hq heq
    obtain ⟨_, _, rfl⟩ := Option.map_eq_some_iff.mp hp
    obtain ⟨_, _, rfl⟩ := Option.map_eq_some_iff.mp hq
    exact hne heq
  unfold List.Nodup
  rw [List.pairwise_map]
  refine hkeys.imp_of_mem fun {p q} hp hq hne => ?_
  obtain ⟨k, o, v⟩ := p
  obtain ⟨k', o', v'⟩ := q
  rintro rfl
  exact hne ((letters_come hp).unique (letters_come hq))

/-- What a step of the run put into a box is of a sensor of the list. -/
theorem run_sensor {s₀ : Modules} {tr : List (Modules × LiveInput)} (hs₀ : Roomy s₀)
    (h : Run (liveStep memory) s₀ tr s) (hrange : Meets InRange tr) {n : Nat} {k : Address × Nat}
    {v : SensorReading} (hn : (tr.map event)[n]? = some (.put k v)) : k ∈ sensorsOf s₀ := by
  obtain ⟨s₁, now, address, incoming, hmerge, rfl, _⟩ := event_put hn
  obtain ⟨hbefore, s₂, hstep⟩ := h.take hmerge
  have hinv := run_boxesInv hs₀ hbefore (hrange.take n)
  rw [← hinv.sensors]
  exact merge_sensor hinv.roomy (hrange _ (List.mem_of_getElem? hmerge)) hstep

/-- **What is named** is what is still in a box. -/
theorem origin_mem_iff {s₀ : Modules} {tr : List (Modules × LiveInput)} (hs₀ : Roomy s₀)
    (h : Run (liveStep memory) s₀ tr s) (hrange : Meets InRange tr) {o : Origin (Address × Nat)} :
    o ∈ (letters memory s₀ tr).map (·.2.origin) ↔
      ∃ k v, boxes (first memory s₀) (tr.map event) k = some ⟨o, v⟩ := by
  rw [List.mem_map]
  constructor
  · intro h
    obtain ⟨⟨k, origin, v⟩, hmem, rfl⟩ := h
    exact ⟨k, v, (mem_letters.mp hmem).2⟩
  · intro h
    obtain ⟨k, v, hbox⟩ := h
    have hcomes := (boxes_iff.mp hbox).1
    have hk : k ∈ sensorsOf s₀ := by
      cases o with
      | event n => exact run_sensor hs₀ h hrange hcomes
      | before k' =>
          by_contra hk
          exact nomatch hcomes.2.symm.trans (if_neg hk)
    exact ⟨(k, ⟨o, v⟩), mem_letters.mpr ⟨hk, hbox⟩, rfl⟩

/-- **Every reading, merged or Done at the start, is reported exactly once, unless a newer one of
    its sensor replaces it first**: this holds of every poll in a run of merges and polls, on any
    list. -/
theorem polled_once (memory : Memory) {s₀ : Modules} (hs₀ : Roomy s₀)
    {tr : List (Modules × LiveInput)} {s : Modules} (h : Run (liveStep memory) s₀ tr s)
    (hrange : Meets InRange tr) {d : Nat} {s' : Modules} (hd : tr[d]? = some (s', .poll)) :
    ∃ reply origins, OncePolled memory s₀ tr d s' reply origins := by
  have hbefore := (h.take hd).1
  have hsub := hrange.take d
  obtain ⟨hget, s'', hpoll, _⟩ := poll_readings (unwritten memory) s'
  have horigins : ∀ o, o ∈ (letters memory s₀ (tr.take d)).map (·.2.origin) ↔
      Waits (first memory s₀) (tr.map event) o d := by
    intro o
    have hdrain : (tr.map event)[d]? = some .drain := by
      rw [List.getElem?_map, hd]
      rfl
    rw [waits_iff (first memory s₀) hdrain, ← List.map_take]
    exact origin_mem_iff hs₀ hbefore hsub
  refine ⟨_, (letters memory s₀ (tr.take d)).map (·.2.origin), hget, ⟨s'', hpoll⟩, rfl, ?_,
    letters_nodup hs₀ _, horigins,
    fun o d' hmem hwaits => waits_unique hwaits ((horigins o).mp hmem)⟩
  rw [letters_reply (run_boxesInv hs₀ hbefore hsub), List.forall₂_map_left_iff,
    List.forall₂_map_right_iff, List.forall₂_same]
  intro p hp
  have hcarries := letters_carry hp
  cases ho : p.2.origin with
  | event n =>
      rw [ho] at hcarries
      obtain ⟨s₁, now, address, incoming, hstep, hx⟩ := hcarries
      rw [List.getElem?_take] at hstep
      split at hstep
      · exact ⟨s₁, now, address, incoming, hstep, hx⟩
      · cases hstep
  | before k =>
      rw [ho] at hcarries
      exact hcarries

end Boxes

instance (s : Modules) : ∀ i, Decidable (InRange s i)
  | .merge _ address incoming =>
    match hm : known address s with
    | none => isTrue fun m h => absurd (hm.symm.trans h) (Option.some_ne_none m).symm
    | some m =>
      decidable_of_iff (incoming.sensor % 256 < m.numberOfSensors.toNat)
        ⟨fun h _ h' => Option.some.inj (hm.symm.trans h') ▸ h, fun h => h m hm⟩
  | .poll => isTrue trivial

/-- Two sensors, and nothing was read yet. -/
def twoBoxes : Modules where
  modules := [{ address := 8, numberOfSensors := 2, sensors := [none, none]
                readings := [none, none] }]

/-- The second sensor is read twice, and the first once, before a poll. -/
theorem polled_once_twice : ∃ tr s s', Run (liveStep fun _ _ => ⟨0, 0, .Idle⟩) twoBoxes tr s ∧
    tr[3]? = some (s', .poll) ∧
    ∃ reply origins, OncePolled (fun _ _ => ⟨0, 0, .Idle⟩) twoBoxes tr 3 s' reply origins := by
  have hexec : (exec (guarded InRange (liveStep fun _ _ => ⟨0, 0, .Idle⟩)) twoBoxes
      [.merge 7 8 { sensor := 1, time := 7, value := 1 },
       .merge 7 8 { sensor := 1, time := 7, value := 2 },
       .merge 7 8 { sensor := 0, time := 7, value := 3 }, .poll, .poll]).isSome := by
    decide +kernel
  obtain ⟨s, hs⟩ := Option.isSome_iff_exists.mp hexec
  obtain ⟨tr, hrun, hinputs⟩ := run_of_exec hs
  obtain ⟨hrun, hC⟩ := hrun.of_guarded
  have hroomy : Roomy twoBoxes := ⟨by decide, by decide⟩
  have hpoll : (tr.map (·.2))[3]? = some .poll := by rw [hinputs]; rfl
  rw [List.getElem?_map, Option.map_eq_some_iff] at hpoll
  obtain ⟨⟨s', i⟩, hd, rfl⟩ := hpoll
  exact ⟨tr, s, s', hrun, hd, polled_once _ hroomy hrun hC hd⟩

end FieldKit.Attached

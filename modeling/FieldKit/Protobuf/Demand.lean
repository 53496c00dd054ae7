/-
  File:      FieldKit/Protobuf/Demand.lean
  Subject:   How much of the pool does a message take that is decoded from a buffer?

  Whatever stands in a buffer can be read: a value ends a decoding only where the pool fails it, by
  an assertion or because it is not there any more. So a decoding comes to its end exactly if no
  field takes memory that has occurred before, and if what is taken is not more than what is left.

  * `taken_eq` -- what a message takes: its fields, and its networks;
  * `decodeFields_demand` -- the fields of one structure;
  * `decode_demand` -- a message.
-/
import FieldKit.Lib.Refine
import FieldKit.Protobuf.Decode

namespace FieldKit.Protobuf

open Lib

/-! ## 1. What is taken -/

/-- What a callback takes of the pool, padding included. -/
def Callback.takes : Callback → Value → Nat
  | .string, v => if v.bytes.length = 0 then 0 else alignedSize (v.bytes.length + 1)
  | .data, v => alignedSize (pbDataSize + v.bytes.length)

section Fields

variable {F : Type} [DecidableEq F] (callback : F → Callback)

/-- What the fields of one structure take. -/
def takenFields (fs : List (F × Value)) : Nat := (fs.map fun p => (callback p.1).takes p.2).sum

/-- No field takes memory behind another occurrence of it. -/
def Single (fs : List (F × Value)) : Prop :=
  fs.Pairwise fun p q => p.1 = q.1 → (callback q.1).takes q.2 = 0

/-- Everything can be read. -/
def Readable (fs : List (F × Value)) : Prop := ∀ p ∈ fs, p.2.readable = true

end Fields

/-- What a message takes, behind `n` networks: each of them with an array of all of them. -/
def taken {m : WireMessage} (itemSize : Nat) : Nat → List (Occurrence m) → Nat
  | _, [] => 0
  | n, .value f v :: rest => (m.callback f).takes v + taken itemSize n rest
  | n, .network _ item :: rest =>
    takenFields NetworkField.callback item + alignedSize (itemSize * (n + 1)) +
      taken itemSize (n + 1) rest

/-- What networks take, behind `n` others. -/
def takenItems (itemSize : Nat) : Nat → List (List (NetworkField × Value)) → Nat
  | _, [] => 0
  | n, item :: rest =>
    takenFields NetworkField.callback item + alignedSize (itemSize * (n + 1)) +
      takenItems itemSize (n + 1) rest

/-- It does not matter where between the fields the networks stand. -/
theorem taken_eq {m : WireMessage} (itemSize n : Nat) (wire : List (Occurrence m)) :
    taken itemSize n wire =
      takenFields m.callback (values wire) + takenItems itemSize n (items wire) := by
  induction wire generalizing n with
  | nil => rfl
  | cons o rest ih =>
      cases o with
      | value f v =>
          have hvalues : takenFields m.callback (values (.value f v :: rest)) =
              (m.callback f).takes v + takenFields m.callback (values rest) := List.sum_cons
          rw [taken, ih, hvalues, Nat.add_assoc]
          rfl
      | network _ item =>
          rw [taken, ih]
          show _ = takenFields m.callback (values rest) +
            (_ + takenItems itemSize (n + 1) (items rest))
          omega

/-- **No field takes memory behind another occurrence of it**, in the message or in a network. -/
structure SingleAll {m : WireMessage} (wire : List (Occurrence m)) : Prop where
  values : Single m.callback (values wire)
  items : ∀ item ∈ items wire, Single NetworkField.callback item

/-- A buffer holds all of the message. -/
structure ReadableAll {m : WireMessage} (wire : List (Occurrence m)) : Prop where
  values : Readable (values wire)
  items : ∀ item ∈ items wire, Readable item

/-! ## 2. How a decoding ends -/

variable {α β : Type}

/-- The decoding comes to its end, and has taken so much. -/
def Serves (r : EStateM.Result Halt Heap α) (p : Pool) (n : Nat) : Prop :=
  ∃ a h, r = .ok a h ∧ h.pool.remaining + n = p.remaining ∧ h.pool.frozen = false

/-- The decoding ends with an assertion, or with something that is not a pool. -/
def Breaks (r : EStateM.Result Halt Heap α) : Prop := ∃ e h, r = .error e h ∧ e ≠ .refused

theorem Breaks.bind {x : Decoding α} {h : Heap} (hx : Breaks (x h)) (f : α → Decoding β) :
    Breaks ((x >>= f) h) := by
  obtain ⟨e, h', hrun, he⟩ := hx
  rw [bind_run, hrun]
  exact ⟨e, h', rfl, he⟩

/-- Memory is taken and a value that can be read is read into it. -/
theorem taken_demand {v : Value} (hread : v.readable = true) {arg : Arg} {h : Heap}
    (hfrozen : h.pool.frozen = false) (size : Nat) (stored : Arg) :
    (arg = .pool ∧ alignedSize size ≤ h.pool.remaining ∧
        ∃ p, (do poolMalloc arg size; pbRead v; return stored : Decoding Arg)
            { h with found := h.found ++ [arg] } =
              .ok stored { pool := p, found := h.found ++ [arg] } ∧
          p.remaining + alignedSize size = h.pool.remaining ∧ p.frozen = false) ∨
      (¬ (arg = .pool ∧ alignedSize size ≤ h.pool.remaining) ∧
        Breaks ((do poolMalloc arg size; pbRead v; return stored : Decoding Arg)
          { h with found := h.found ++ [arg] })) := by
  rw [bind_run]
  unfold poolMalloc
  cases arg with
  | pool =>
      dsimp only
      rcases Pool.malloc_cases hfrozen size with ⟨hroom, p, hp, hremaining, hfrozen'⟩ | ⟨hroom, hnone⟩
      · refine Or.inl ⟨rfl, hroom, p, ?_, hremaining, hfrozen'⟩
        rw [hp]
        dsimp only
        rw [bind_run, pbRead, if_pos hread]
        rfl
      · refine Or.inr ⟨fun hc => hroom hc.2, ?_⟩
        rw [hnone]
        exact ⟨.asserted, _, rfl, Halt.noConfusion⟩
  | _ => exact Or.inr ⟨fun hc => Arg.noConfusion hc.1, .wild, _, rfl, Halt.noConfusion⟩

/-- **One callback**: it needs the pool if it takes memory, and so much of it. -/
theorem call_demand (c : Callback) {v : Value} (hread : v.readable = true) (arg : Arg) {h : Heap}
    (hfrozen : h.pool.frozen = false) :
    ((arg ≠ .pool → c.takes v = 0) ∧ c.takes v ≤ h.pool.remaining ∧
        ∃ p, c.call v arg h = .ok (c.content v) { pool := p, found := h.found ++ [arg] } ∧
          p.remaining + c.takes v = h.pool.remaining ∧ p.frozen = false) ∨
      (¬ ((arg ≠ .pool → c.takes v = 0) ∧ c.takes v ≤ h.pool.remaining) ∧
        Breaks (c.call v arg h)) := by
  have hpos : ∀ n, alignedSize (n + 1) ≠ 0 := fun n => (alignedSize_pos n).ne'
  cases c with
  | string =>
      show _ ∨ _ ∧ Breaks (pbDecodeString v arg h)
      by_cases hnil : v.bytes.length = 0
      · have htakes : Callback.string.takes v = 0 := if_pos hnil
        have hcontent : Callback.string.content v = .literal := if_pos hnil
        refine Or.inl ⟨fun _ => htakes, htakes ▸ Nat.zero_le _, h.pool, ?_, ?_, hfrozen⟩
        · rw [hcontent]
          exact pbDecodeString_empty hnil arg h
        · rw [htakes, Nat.add_zero]
      · have htakes : Callback.string.takes v = alignedSize (v.bytes.length + 1) := if_neg hnil
        have hcontent : Callback.string.content v = .string v.bytes := if_neg hnil
        rw [htakes, hcontent]
        show ((_ → _) ∧ _ ∧ ∃ p, pbDecodeString v arg h = _ ∧ _) ∨ _
        rw [pbDecodeString_bytes hnil]
        rcases taken_demand hread hfrozen (v.bytes.length + 1) (.string v.bytes) with
          ⟨harg, hroom, hok⟩ | ⟨hnot, hbreaks⟩
        · exact Or.inl ⟨fun hne => absurd harg hne, hroom, hok⟩
        · refine Or.inr ⟨fun hc => hnot ⟨?_, hc.2⟩, hbreaks⟩
          by_contra harg
          exact hpos _ (hc.1 harg)
  | data =>
      have hsize : pbDataSize + v.bytes.length = v.bytes.length + 7 + 1 := by
        unfold pbDataSize
        omega
      rcases taken_demand hread hfrozen (pbDataSize + v.bytes.length) (.data v.bytes) with
        ⟨harg, hroom, hok⟩ | ⟨hnot, hbreaks⟩
      · exact Or.inl ⟨fun hne => absurd harg hne, hroom, hok⟩
      · refine Or.inr ⟨fun hc => hnot ⟨?_, hc.2⟩, hbreaks⟩
        by_contra harg
        have hzero : alignedSize (pbDataSize + v.bytes.length) = 0 := hc.1 harg
        rw [hsize] at hzero
        exact hpos _ hzero

/-! ## 3. Structures and messages -/

section Structures

variable {F : Type} [DecidableEq F] {callback : F → Callback}

/-- The fields can be decoded with what their `arg`s are and what is left: no memory is taken where
    the pool is gone, or goes on the way. -/
structure Affords (callback : F → Callback) (args : F → Arg) (fs : List (F × Value))
    (remaining : Nat) : Prop where
  gone : ∀ p ∈ fs, args p.1 ≠ .pool → (callback p.1).takes p.2 = 0
  single : Single callback fs
  room : takenFields callback fs ≤ remaining

/-- One field less. -/
theorem affords_cons (callback : F → Callback) (args : F → Arg) (f : F) (v : Value) (rest : List (F × Value)) {r r' : Nat}
    (hr : r' + (callback f).takes v = r) (hfirst : args f ≠ .pool → (callback f).takes v = 0) :
    Affords callback args ((f, v) :: rest) r ↔
      Affords callback (Function.update args f ((callback f).content v)) rest r' := by
  have hsum : takenFields callback ((f, v) :: rest) =
      (callback f).takes v + takenFields callback rest := List.sum_cons
  constructor
  · intro h
    obtain ⟨hgone, hsingle, hroom⟩ := h
    obtain ⟨hbehind, hsingle⟩ := List.pairwise_cons.mp hsingle
    refine ⟨fun p hp hne => ?_, hsingle, by omega⟩
    by_cases hf : p.1 = f
    · exact hbehind p hp hf.symm
    · rw [Function.update_of_ne hf] at hne
      exact hgone p (List.mem_cons_of_mem _ hp) hne
  · intro h
    obtain ⟨hgone, hsingle, hroom⟩ := h
    refine ⟨fun p hp hne => ?_, List.pairwise_cons.mpr ⟨fun p hp hf => ?_, hsingle⟩, by omega⟩
    · rcases List.mem_cons.mp hp with rfl | hp
      · exact hfirst hne
      · refine hgone p hp ?_
        by_cases hf : p.1 = f
        · rw [hf, Function.update_self]
          exact content_ne_pool _ v
        · rw [Function.update_of_ne hf]
          exact hne
    · refine hgone p hp ?_
      have hf : f = p.1 := hf
      rw [← hf, Function.update_self]
      exact content_ne_pool _ v

/-- **The fields of one structure.** -/
theorem decodeFields_demand (callback : F → Callback) {fs : List (F × Value)}
    (hread : Readable fs) (args : F → Arg)
    {h : Heap} (hfrozen : h.pool.frozen = false) :
    (Affords callback args fs h.pool.remaining ∧
        Serves (decodeFields callback args fs h) h.pool (takenFields callback fs)) ∨
      (¬ Affords callback args fs h.pool.remaining ∧
        Breaks (decodeFields callback args fs h)) := by
  induction fs generalizing args h with
  | nil =>
      refine Or.inl ⟨⟨fun p hp => (nomatch hp), List.Pairwise.nil, Nat.zero_le _⟩, ?_⟩
      exact ⟨args, h, rfl, rfl, hfrozen⟩
  | cons p rest ih =>
      obtain ⟨f, v⟩ := p
      have hsum : takenFields callback ((f, v) :: rest) =
          (callback f).takes v + takenFields callback rest := List.sum_cons
      rw [decodeFields]
      have hv : v.readable = true := hread (f, v) List.mem_cons_self
      rcases call_demand (callback f) hv (args f) hfrozen with
        ⟨hfirst, _, p, hcall, hremaining, hfrozen'⟩ | ⟨hnot, hbreaks⟩
      · rw [bind_of_ok hcall, affords_cons callback args f v rest hremaining hfirst, hsum]
        rcases ih (fun q hq => hread q (List.mem_cons_of_mem _ hq))
          (Function.update args f ((callback f).content v)) (h := ⟨p, _⟩) hfrozen' with
            ⟨hafford, a, h', hrun, hrest, hfrozen''⟩ | ⟨hnot, hbreaks⟩
        · refine Or.inl ⟨hafford, a, h', hrun, ?_, hfrozen''⟩
          dsimp only at hrest
          omega
        · exact Or.inr ⟨hnot, hbreaks⟩
      · refine Or.inr ⟨fun hafford => hnot ⟨hafford.gone _ List.mem_cons_self, ?_⟩, hbreaks.bind _⟩
        have hroom := hafford.room
        omega

omit [DecidableEq F] in
/-- A structure that is decoded from the beginning. -/
theorem affords_fresh (callback : F → Callback) (fs : List (F × Value)) (remaining : Nat) :
    Affords callback (fun _ => .pool) fs remaining ↔
      Single callback fs ∧ takenFields callback fs ≤ remaining :=
  ⟨fun h => ⟨h.single, h.room⟩, fun h => ⟨fun _ _ hne => absurd rfl hne, h.1, h.2⟩⟩

end Structures

section Messages

variable {m : WireMessage} {itemSize : Nat}

/-- The message can be decoded with what its `arg`s are and what is left, behind `n` networks. -/
structure AffordsAll (itemSize n : Nat) (args : m.Field → Arg) (wire : List (Occurrence m))
    (remaining : Nat) : Prop where
  gone : ∀ p ∈ values wire, args p.1 ≠ .pool → (m.callback p.1).takes p.2 = 0
  single : SingleAll wire
  room : taken itemSize n wire ≤ remaining

/-- One field less. -/
theorem affordsAll_value {n : Nat} (args : m.Field → Arg) (f : m.Field) (v : Value)
    (rest : List (Occurrence m)) {r r' : Nat} (hr : r' + (m.callback f).takes v = r)
    (hfirst : args f ≠ .pool → (m.callback f).takes v = 0) :
    AffordsAll itemSize n args (.value f v :: rest) r ↔
      AffordsAll itemSize n (Function.update args f ((m.callback f).content v)) rest r' := by
  have hfields := affords_cons m.callback args f v (values rest)
    (r := (m.callback f).takes v + takenFields m.callback (values rest)) (Nat.add_comm _ _) hfirst
  have htaken : taken itemSize n (.value f v :: rest) =
      (m.callback f).takes v + taken itemSize n rest := rfl
  constructor
  · intro h
    obtain ⟨hgone, ⟨hvalues, hitems⟩, hroom⟩ := h
    obtain ⟨hgone, hvalues, _⟩ := hfields.mp ⟨hgone, hvalues, le_of_eq List.sum_cons⟩
    exact ⟨hgone, ⟨hvalues, hitems⟩, by omega⟩
  · intro h
    obtain ⟨hgone, ⟨hvalues, hitems⟩, hroom⟩ := h
    obtain ⟨hgone, hvalues, _⟩ := hfields.mpr ⟨hgone, hvalues, le_rfl⟩
    exact ⟨hgone, ⟨hvalues, hitems⟩, by omega⟩

/-- One network less. -/
theorem affordsAll_network {n : Nat} (hm : m = .AppQueryMessage) (args : m.Field → Arg)
    (item : List (NetworkField × Value)) (rest : List (Occurrence m)) {r r' : Nat}
    (hr : r' + (takenFields NetworkField.callback item + alignedSize (itemSize * (n + 1))) = r)
    (hsingle : Single NetworkField.callback item) :
    AffordsAll itemSize n args (.network hm item :: rest) r ↔
      AffordsAll itemSize (n + 1) args rest r' := by
  have htaken : taken itemSize n (.network hm item :: rest) =
      takenFields NetworkField.callback item + alignedSize (itemSize * (n + 1)) +
        taken itemSize (n + 1) rest := rfl
  constructor
  · intro h
    obtain ⟨hgone, ⟨hvalues, hitems⟩, hroom⟩ := h
    exact ⟨hgone, ⟨hvalues, fun i hi => hitems i (List.mem_cons_of_mem _ hi)⟩, by omega⟩
  · intro h
    obtain ⟨hgone, ⟨hvalues, hitems⟩, hroom⟩ := h
    refine ⟨hgone, ⟨hvalues, fun i hi => ?_⟩, by omega⟩
    rcases List.mem_cons.mp hi with rfl | hi
    · exact hsingle
    · exact hitems i hi

/-- **One network**: its fields, and an array of all networks. -/
theorem networkItemDecode_demand (itemSize : Nat) {item : List (NetworkField × Value)}
    (hread : Readable item)
    (networks : List NetworkInfo) {h : Heap} (hfrozen : h.pool.frozen = false) :
    (Single NetworkField.callback item ∧ takenFields NetworkField.callback item +
          alignedSize (itemSize * (networks.length + 1)) ≤ h.pool.remaining ∧
        ∃ info h', networkItemDecode itemSize networks item h = .ok (networks ++ [info]) h' ∧
          h'.pool.remaining + (takenFields NetworkField.callback item +
            alignedSize (itemSize * (networks.length + 1))) = h.pool.remaining ∧
          h'.pool.frozen = false) ∨
      (¬ (Single NetworkField.callback item ∧ takenFields NetworkField.callback item +
          alignedSize (itemSize * (networks.length + 1)) ≤ h.pool.remaining) ∧
        Breaks (networkItemDecode itemSize networks item h)) := by
  rw [networkItemDecode_run itemSize]
  rcases decodeFields_demand NetworkField.callback hread (fun _ => .pool) hfrozen with
    ⟨hafford, info, h', hrun, hremaining, hfrozen'⟩ | ⟨hnot, e, h', hrun, he⟩
  · obtain ⟨hsingle, hfields⟩ := (affords_fresh _ _ _).mp hafford
    rw [hrun]
    dsimp only
    rcases Pool.malloc_cases hfrozen' (itemSize * (networks.length + 1)) with
      ⟨hroom, p, hp, hremaining', hfrozen''⟩ | ⟨hroom, hnone⟩
    · rw [hp]
      refine Or.inl ⟨hsingle, by omega, info, _, rfl, ?_, hfrozen''⟩
      dsimp only
      omega
    · rw [hnone]
      refine Or.inr ⟨fun hc => hroom ?_, .asserted, _, rfl, Halt.noConfusion⟩
      have hsum := hc.2
      omega
  · rw [hrun]
    refine Or.inr ⟨fun hc => hnot ?_, e, h', rfl, he⟩
    exact (affords_fresh _ _ _).mpr ⟨hc.1, (Nat.le_add_right _ _).trans hc.2⟩

/-- **A message**: it is decoded to its end, with so much taken, exactly if it can be afforded. -/
theorem decode_demand (itemSize : Nat) {wire : List (Occurrence m)} (hread : ReadableAll wire) (msg : Message m)
    {h : Heap} (hfrozen : h.pool.frozen = false) :
    (AffordsAll itemSize msg.networks.length msg.args wire h.pool.remaining ∧
        Serves (decode itemSize msg wire h) h.pool (taken itemSize msg.networks.length wire)) ∨
      (¬ AffordsAll itemSize msg.networks.length msg.args wire h.pool.remaining ∧
        Breaks (decode itemSize msg wire h)) := by
  induction wire generalizing msg h with
  | nil =>
      refine Or.inl ⟨⟨fun p hp => (nomatch hp), ⟨List.Pairwise.nil, fun i hi => (nomatch hi)⟩,
        Nat.zero_le _⟩, msg, h, rfl, rfl, hfrozen⟩
  | cons o rest ih =>
      cases o with
      | value f v =>
          have hread' : ReadableAll rest :=
            ⟨fun p hp => hread.values p (List.mem_cons_of_mem _ hp), hread.items⟩
          have htaken : taken itemSize msg.networks.length (.value f v :: rest) =
              (m.callback f).takes v + taken itemSize msg.networks.length rest := rfl
          rw [decode_value]
          have hv : v.readable = true := hread.values (f, v) List.mem_cons_self
          rcases call_demand (m.callback f) hv (msg.args f) hfrozen with
            ⟨hfirst, _, p, hcall, hremaining, hfrozen'⟩ | ⟨hnot, hbreaks⟩
          · rw [bind_of_ok hcall, affordsAll_value msg.args f v rest hremaining hfirst, htaken]
            rcases ih hread' { msg with
                args := Function.update msg.args f ((m.callback f).content v) }
                (h := ⟨p, _⟩) hfrozen' with
              ⟨hafford, a, h', hrun, hrest, hfrozen''⟩ | ⟨hnot, hbreaks⟩
            · refine Or.inl ⟨hafford, a, h', hrun, ?_, hfrozen''⟩
              dsimp only at hrest
              omega
            · exact Or.inr ⟨hnot, hbreaks⟩
          · refine Or.inr ⟨fun hafford => hnot ⟨?_, ?_⟩, hbreaks.bind _⟩
            · exact hafford.gone (f, v) List.mem_cons_self
            · have hroom := hafford.room
              omega
      | network hm item =>
          have hread' : ReadableAll rest :=
            ⟨hread.values, fun i hi => hread.items i (List.mem_cons_of_mem _ hi)⟩
          have htaken : taken itemSize msg.networks.length (.network hm item :: rest) =
              takenFields NetworkField.callback item +
                alignedSize (itemSize * (msg.networks.length + 1)) +
                taken itemSize (msg.networks.length + 1) rest := rfl
          rw [decode_network]
          rcases networkItemDecode_demand itemSize
              (hread.items item List.mem_cons_self) msg.networks hfrozen with
            ⟨hsingle, _, info, h', hrun, hremaining, hfrozen'⟩ | ⟨hnot, hbreaks⟩
          · rw [bind_of_ok hrun, affordsAll_network hm msg.args item rest hremaining hsingle, htaken]
            have hih := ih hread' { msg with networks := msg.networks ++ [info] } hfrozen'
            have hlength : (msg.networks ++ [info]).length = msg.networks.length + 1 :=
              List.length_append
            dsimp only at hih
            rw [hlength] at hih
            rcases hih with ⟨hafford, a, h'', hrun', hrest, hfrozen''⟩ | ⟨hnot, hbreaks⟩
            · refine Or.inl ⟨hafford, a, h'', hrun', ?_, hfrozen''⟩
              omega
            · exact Or.inr ⟨hnot, hbreaks⟩
          · refine Or.inr ⟨fun hafford => hnot ⟨?_, ?_⟩, hbreaks.bind _⟩
            · exact hafford.single.items item List.mem_cons_self
            · have hroom := hafford.room
              omega

end Messages

section Values

variable {m : WireMessage}

/-- A wire message of string and bytes fields alone. -/
def wireOf (fs : List (m.Field × Value)) : List (Occurrence m) := fs.map fun p => .value p.1 p.2

theorem values_wireOf (fs : List (m.Field × Value)) : values (wireOf fs) = fs := by
  unfold values wireOf
  rw [List.filterMap_map]
  exact List.filterMap_some

theorem items_wireOf (fs : List (m.Field × Value)) : items (wireOf fs) = [] := by
  unfold items wireOf
  rw [List.filterMap_map]
  exact List.filterMap_none fs

theorem taken_wireOf (itemSize n : Nat) (fs : List (m.Field × Value)) :
    taken itemSize n (wireOf fs) = takenFields m.callback fs := by
  induction fs with
  | nil => rfl
  | cons p fs ih =>
      show (m.callback p.1).takes p.2 + taken itemSize n (wireOf fs) = _
      rw [ih]
      exact List.sum_cons.symm

/-- **A message of fields that are all different** is decoded exactly if there is enough. -/
theorem decodeMessage_wireOf (itemSize : Nat) {fs : List (m.Field × Value)}
    (hdistinct : (fs.map (·.1)).Nodup) (hread : Readable fs) {p : Pool}
    (hfrozen : p.frozen = false) :
    (takenFields m.callback fs ≤ p.remaining ∧
        Serves (decodeMessage itemSize p (wireOf fs)) p (takenFields m.callback fs)) ∨
      (¬ takenFields m.callback fs ≤ p.remaining ∧
        Breaks (decodeMessage itemSize p (wireOf fs))) := by
  have hsingle : SingleAll (wireOf fs) := by
    refine ⟨?_, fun item hitem => ?_⟩
    · rw [values_wireOf]
      exact (List.pairwise_map.mp hdistinct).imp fun hne heq => absurd heq hne
    · rw [items_wireOf] at hitem
      cases hitem
  have hreadAll : ReadableAll (wireOf fs) := by
    refine ⟨?_, fun item hitem => ?_⟩
    · rw [values_wireOf]
      exact hread
    · rw [items_wireOf] at hitem
      cases hitem
  have hafford : AffordsAll itemSize 0 (forDecode m).args (wireOf fs) p.remaining ↔
      takenFields m.callback fs ≤ p.remaining := by
    rw [← taken_wireOf itemSize 0]
    exact ⟨fun h => h.room, fun h => ⟨fun _ _ hne => absurd rfl hne, hsingle, h⟩⟩
  have hdemand := decode_demand itemSize hreadAll (forDecode m)
    (h := { pool := p }) hfrozen
  have hlength : (forDecode m).networks.length = 0 := rfl
  rw [hlength, hafford, taken_wireOf] at hdemand
  exact hdemand

end Values

end FieldKit.Protobuf

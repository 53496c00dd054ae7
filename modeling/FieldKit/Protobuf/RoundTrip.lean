/-
  File:      FieldKit/Protobuf/RoundTrip.lean
  Subject:   A query that is encoded and decoded again: its strings, its block of bytes and its
             networks.

  * `occurrences_queryBytes` -- what nanopb finds in an encoded query, in the order of the fields;
  * `wire_demand` -- it is decoded from any pool with room for its content;
  * `carries_of_holds` -- what the decoder leaves in memory is the content that was encoded;
  * `round_trip` -- from memory to memory.
-/
import FieldKit.Lib.Delimited
import FieldKit.Protobuf.Consumers
import FieldKit.Protobuf.Demand
import FieldKit.Protobuf.Encode

namespace FieldKit.InMemory

open Lib Protobuf

/-! ## 1. What nanopb finds -/

section Finds

variable (nb : Nanopb)

/-- The two fields of a network that have a callback. -/
def networkField : AppField × List Byte → Option (NetworkField × Value)
  | (.ssid, bytes) => some (.ssid, { bytes })
  | (.password, bytes) => some (.password, { bytes })
  | _ => none

/-- What `pb_decode` finds in a network. -/
def networkFields (bytes : List Byte) : List (NetworkField × Value) :=
  (nb.decode .networkInfo bytes).filterMap networkField

/-- The fields that `AppQueryMessage::forDecode` gives a callback. -/
def occurrence : AppField × List Byte → Option (Occurrence .AppQueryMessage)
  | (.device, bytes) => some (.value AppQueryField.identityDevice { bytes })
  | (.stream, bytes) => some (.value AppQueryField.identityStream { bytes })
  | (.message, bytes) => some (.value AppQueryField.moduleMessage { bytes })
  | (.networks, bytes) => some (.network rfl (networkFields nb bytes))
  | _ => none

/-- What `pb_decode` finds in one field of a query. -/
def inField (p : AppField × List Byte) : List (Occurrence .AppQueryMessage) :=
  match p.1.submessage with
  | some m => (nb.decode m p.2).filterMap (occurrence nb)
  | none => []

/-- **What `pb_decode` finds in a query.** -/
def occurrences (bytes : List Byte) : List (Occurrence .AppQueryMessage) :=
  (nb.decode .query bytes).flatMap (inField nb)

/-- The fields with callbacks, in the order in which they are found. -/
def leaves : List AppField :=
  (nb.order .query).flatMap fun f =>
    match f.submessage with
    | some m => nb.order m
    | none => []

variable {nb}

/-- The fields of one message are found again. -/
theorem decode_partsOf (c : Content) (m : AppMessage) :
    nb.decode m (nb.encode m fun g => (partsOf nb c m g).flatMap (nb.field g)) =
      (nb.order m).flatMap fun g => (leafParts nb c g).map fun bytes => (g, bytes) := by
  rw [nb.decode_encode]
  refine List.flatMap_congr fun g hg => ?_
  rw [partsOf, if_pos ((nb.mem_order m g).mp hg)]

/-- **An encoded query**, in the order of its fields. -/
theorem occurrences_queryBytes (c : Content) :
    occurrences nb (queryBytes nb c) = (leaves nb).flatMap fun g =>
      ((leafParts nb c g).map fun bytes => (g, bytes)).filterMap (occurrence nb) := by
  unfold occurrences queryBytes leaves
  rw [nb.decode_encode, List.flatMap_assoc, List.flatMap_assoc]
  refine List.flatMap_congr fun f _ => ?_
  unfold queryParts
  cases hsub : f.submessage with
  | none => rfl
  | some m =>
      have hin : ∀ bytes, inField nb (f, bytes) =
          (nb.decode m bytes).filterMap (occurrence nb) := by
        intro bytes
        unfold inField
        rw [hsub]
      simp only [List.map_cons, List.map_nil, List.flatMap_cons, List.flatMap_nil, List.append_nil]
      rw [hin, decode_partsOf, List.filterMap_flatMap]

theorem nodup_leaves (nb : Nanopb) : (leaves nb).Nodup := by
  refine List.nodup_flatMap.mpr ⟨fun f _ => ?_, ?_⟩
  · cases f.submessage with
    | none => exact List.nodup_nil
    | some m => exact nb.nodup_order m
  · refine (nb.nodup_order .query).imp fun {f f'} hne g hg hg' => hne ?_
    -- a field is in one message only
    have hparent : ∀ f : AppField, (g ∈ match f.submessage with
        | some m => nb.order m
        | none => []) → f.submessage = some g.parent := by
      intro f hg
      cases hsub : f.submessage with
      | none =>
          rw [hsub] at hg
          exact absurd hg List.not_mem_nil
      | some m =>
          rw [hsub] at hg
          rw [(nb.mem_order m g).mp hg]
    exact AppField.submessage_inj (hparent f hg) (hparent f' hg')

end Finds

/-! ## 2. Every field once -/

section Fields

variable {nb : Nanopb}

theorem mem_leaves {g : AppField} : g ∈ leaves nb ↔
    g.parent = .identity ∨ g.parent = .networkSettings ∨ g.parent = .module := by
  unfold leaves
  rw [List.mem_flatMap]
  constructor
  · intro h
    obtain ⟨f, _, hg⟩ := h
    cases f with
    | identity => exact Or.inl ((nb.mem_order .identity g).mp hg)
    | networkSettings => exact Or.inr (Or.inl ((nb.mem_order .networkSettings g).mp hg))
    | module => exact Or.inr (Or.inr ((nb.mem_order .module g).mp hg))
    | _ => exact absurd hg List.not_mem_nil
  · rintro (hg | hg | hg)
    · exact ⟨.identity, (nb.mem_order .query _).mpr rfl, (nb.mem_order .identity g).mpr hg⟩
    · exact ⟨.networkSettings, (nb.mem_order .query _).mpr rfl,
        (nb.mem_order .networkSettings g).mpr hg⟩
    · exact ⟨.module, (nb.mem_order .query _).mpr rfl, (nb.mem_order .module g).mpr hg⟩

/-- The fields with callbacks are these four, in some order. -/
theorem leaves_perm (nb : Nanopb) :
    List.Perm (leaves nb) [.device, .stream, .networks, .message] := by
  refine (List.perm_ext_iff_of_nodup (nodup_leaves nb) (by decide)).mpr fun g => ?_
  rw [mem_leaves]
  cases g <;> decide

/-- And those of a network these two. -/
theorem order_perm (nb : Nanopb) : List.Perm (nb.order .networkInfo) [.ssid, .password] := by
  refine (List.perm_ext_iff_of_nodup (nb.nodup_order .networkInfo) (by decide)).mpr fun g => ?_
  rw [nb.mem_order]
  cases g <;> decide

/-- The string and bytes fields of a query. -/
def valueOf (c : Content) : AppField → Option (AppQueryField × Value)
  | .device => some (.identityDevice, { bytes := c.device })
  | .stream => some (.identityStream, { bytes := c.stream })
  | .message => some (.moduleMessage, { bytes := c.message })
  | _ => none

/-- The fields of a network. -/
def networkValueOf (n : Network) : AppField → Option (NetworkField × Value)
  | .ssid => some (.ssid, { bytes := n.ssid })
  | .password => some (.password, { bytes := n.password })
  | _ => none

theorem values_queryBytes (c : Content) :
    values (occurrences nb (queryBytes nb c)) = (leaves nb).filterMap (valueOf c) := by
  rw [occurrences_queryBytes, List.filterMap_eq_flatMap_toList]
  unfold values
  rw [List.filterMap_flatMap]
  refine List.flatMap_congr fun g _ => ?_
  cases g with
  | networks =>
      show List.filterMap _ (List.filterMap _ (List.map _ (List.map _ c.networks))) = []
      rw [List.map_map, List.filterMap_map, List.filterMap_filterMap]
      exact List.filterMap_none c.networks
  | _ => rfl

theorem networkFields_networkBytes (n : Network) :
    networkFields nb (networkBytes nb n) =
      (nb.order .networkInfo).filterMap (networkValueOf n) := by
  unfold networkFields networkBytes
  rw [nb.decode_encode, List.filterMap_flatMap, List.filterMap_eq_flatMap_toList]
  refine List.flatMap_congr fun g _ => ?_
  cases g <;> rfl

/-- Only one element of a list contributes. -/
theorem flatMap_single {α β : Type} [DecidableEq α] {l : List α} (hl : l.Nodup) {a : α}
    (ha : a ∈ l) (found : List β) : l.flatMap (fun x => if x = a then found else []) = found := by
  induction l with
  | nil => exact absurd ha List.not_mem_nil
  | cons x l ih =>
      obtain ⟨hx, hl⟩ := List.nodup_cons.mp hl
      rw [List.flatMap_cons]
      rcases List.mem_cons.mp ha with rfl | ha
      · have hrest : l.flatMap (fun y => if y = a then found else []) = [] := by
          refine List.flatMap_eq_nil_iff.mpr fun y hy => if_neg ?_
          rintro rfl
          exact hx hy
        rw [if_pos rfl, hrest, List.append_nil]
      · rw [if_neg (fun h : x = a => hx (h ▸ ha)), ih hl ha, List.nil_append]

/-- **The networks are found in their order.** -/
theorem items_queryBytes (c : Content) :
    items (occurrences nb (queryBytes nb c)) =
      c.networks.map fun n => (nb.order .networkInfo).filterMap (networkValueOf n) := by
  have hin : AppField.networks ∈ leaves nb := mem_leaves.mpr (Or.inr (Or.inl rfl))
  rw [occurrences_queryBytes]
  unfold items
  rw [List.filterMap_flatMap, ← flatMap_single (nodup_leaves nb) hin (c.networks.map _)]
  refine List.flatMap_congr fun g _ => ?_
  cases g with
  | networks =>
      show List.filterMap _ (List.filterMap _ (List.map _ (List.map _ c.networks))) = _
      rw [List.map_map, List.filterMap_map, List.filterMap_filterMap, if_pos rfl,
        ← List.filterMap_eq_map]
      refine List.filterMap_congr fun n _ => ?_
      exact congrArg some (networkFields_networkBytes n)
  | _ => rfl

end Fields

/-! ## 3. Where there is room -/

section Room

variable {nb : Nanopb}

/-- What the networks take of a pool: two strings each, and an array of all so far. -/
def roomNetworks : Nat → List Network → Nat
  | _, [] => 0
  | k, n :: networks =>
    Callback.string.takes { bytes := n.ssid } + Callback.string.takes { bytes := n.password } +
      alignedSize (networkInfoSize * (k + 1)) + roomNetworks (k + 1) networks

/-- **What a query takes of a pool.** -/
def room (c : Content) : Nat :=
  Callback.string.takes { bytes := c.device } + Callback.string.takes { bytes := c.stream } +
    Callback.data.takes { bytes := c.message } + roomNetworks 0 c.networks

/-- The fields of a query, each of them once. -/
def fieldsOf (c : Content) : List (AppQueryField × Value) :=
  [(.identityDevice, { bytes := c.device }), (.identityStream, { bytes := c.stream }),
    (.moduleMessage, { bytes := c.message })]

/-- Those of a network. -/
def fieldsOfNetwork (n : Network) : List (NetworkField × Value) :=
  [(.ssid, { bytes := n.ssid }), (.password, { bytes := n.password })]

theorem values_perm (nb : Nanopb) (c : Content) :
    List.Perm (values (occurrences nb (queryBytes nb c))) (fieldsOf c) := by
  rw [values_queryBytes]
  exact (leaves_perm nb).filterMap (valueOf c)

theorem networkFields_perm (nb : Nanopb) (n : Network) :
    List.Perm ((nb.order .networkInfo).filterMap (networkValueOf n)) (fieldsOfNetwork n) :=
  (order_perm nb).filterMap (networkValueOf n)

section Permuted

variable {F : Type} [DecidableEq F] {callback : F → Callback} {fs gs : List (F × Value)}

omit [DecidableEq F] in
theorem takenFields_perm (callback : F → Callback) (h : List.Perm fs gs) :
    takenFields callback fs = takenFields callback gs := (h.map _).sum_nat

omit [DecidableEq F] in
/-- Fields that are all different. -/
theorem single_of_perm (h : List.Perm fs gs) (hone : (gs.map (·.1)).Nodup) :
    Single callback fs := by
  have hall : (fs.map (·.1)).Nodup := (h.map _).nodup_iff.mpr hone
  exact (List.pairwise_map.mp hall).imp fun hne heq => absurd heq hne

omit [DecidableEq F] in
theorem readable_of_perm (h : List.Perm fs gs) (hread : Readable gs) : Readable fs :=
  fun p hp => hread p (h.mem_iff.mp hp)

/-- The only occurrence of a field is the last. -/
theorem lastOf_of_nodup (hone : (fs.map (·.1)).Nodup) {f : F} {v : Value} (hf : (f, v) ∈ fs) :
    lastOf f fs = some v := by
  induction fs with
  | nil => exact absurd hf List.not_mem_nil
  | cons p fs ih =>
      obtain ⟨g, w⟩ := p
      rw [List.map_cons, List.nodup_cons] at hone
      rw [lastOf]
      rcases List.mem_cons.mp hf with heq | hf
      · cases heq
        have hnone : lastOf f fs = none := lastOf_absent fun p hp hfirst =>
          hone.1 (List.mem_map.mpr ⟨p, hp, hfirst⟩)
        rw [hnone, if_pos rfl]
        rfl
      · rw [ih hone.2 hf]
        rfl

theorem lastOf_of_perm (h : List.Perm fs gs) (hone : (gs.map (·.1)).Nodup) {f : F} {v : Value}
    (hf : (f, v) ∈ gs) : lastOf f fs = some v :=
  lastOf_of_nodup ((h.map _).nodup_iff.mpr hone) (h.mem_iff.mpr hf)

end Permuted

theorem readable_fieldsOf (c : Content) : Readable (fieldsOf c) := by
  intro p hp
  rcases List.mem_cons.mp hp with rfl | hp
  · rfl
  · rcases List.mem_cons.mp hp with rfl | hp
    · rfl
    · rw [List.mem_singleton.mp hp]

theorem readable_fieldsOfNetwork (n : Network) : Readable (fieldsOfNetwork n) := by
  intro p hp
  rcases List.mem_cons.mp hp with rfl | hp
  · rfl
  · rw [List.mem_singleton.mp hp]

theorem takenItems_networks (nb : Nanopb) (k : Nat) (networks : List Network) :
    takenItems networkInfoSize k
        (networks.map fun n => (nb.order .networkInfo).filterMap (networkValueOf n)) =
      roomNetworks k networks := by
  induction networks generalizing k with
  | nil => rfl
  | cons n networks ih =>
      have hfields := takenFields_perm NetworkField.callback (networkFields_perm nb n)
      rw [List.map_cons, takenItems, ih, hfields]
      rfl

theorem taken_queryBytes (nb : Nanopb) (c : Content) :
    taken networkInfoSize 0 (occurrences nb (queryBytes nb c)) = room c := by
  have hfields : takenFields WireMessage.AppQueryMessage.callback (fieldsOf c) =
      Callback.string.takes { bytes := c.device } + (Callback.string.takes { bytes := c.stream } +
        (Callback.data.takes { bytes := c.message } + 0)) := rfl
  rw [taken_eq, takenFields_perm _ (values_perm nb c), items_queryBytes, takenItems_networks,
    hfields]
  unfold room
  omega

/-- What a decoded query holds, of this content. -/
structure HoldsContent (r : Message .AppQueryMessage) (c : Content) : Prop where
  args : ∀ f v, (f, v) ∈ fieldsOf c → r.args f = (AppQueryField.callback f).content v
  networks : List.Forall₂ (fun n info =>
    ∀ f v, (f, v) ∈ fieldsOfNetwork n → info f = (NetworkField.callback f).content v)
      c.networks r.networks

/-- **A pool with room for its content** is enough for a query. -/
theorem wire_demand (nb : Nanopb) (c : Content) {p : Pool} (hfrozen : p.frozen = false)
    (hroom : room c ≤ p.remaining) :
    ∃ r h, Protobuf.decodeMessage networkInfoSize p (occurrences nb (queryBytes nb c)) = .ok r h ∧
      HoldsContent r c := by
  have hkeys : ((fieldsOf c).map (·.1)).Nodup := by
    show [AppQueryField.identityDevice, .identityStream, .moduleMessage].Nodup
    decide
  have hnetworkKeys : ∀ n, ((fieldsOfNetwork n).map (·.1)).Nodup := by
    intro n
    show [NetworkField.ssid, .password].Nodup
    decide
  have hsingle : SingleAll (occurrences nb (queryBytes nb c)) := by
    refine ⟨single_of_perm (values_perm nb c) hkeys, fun item hitem => ?_⟩
    rw [items_queryBytes] at hitem
    obtain ⟨n, _, rfl⟩ := List.mem_map.mp hitem
    exact single_of_perm (networkFields_perm nb n) (hnetworkKeys n)
  have hread : ReadableAll (occurrences nb (queryBytes nb c)) := by
    refine ⟨readable_of_perm (values_perm nb c) (readable_fieldsOf c), fun item hitem => ?_⟩
    rw [items_queryBytes] at hitem
    obtain ⟨n, _, rfl⟩ := List.mem_map.mp hitem
    exact readable_of_perm (networkFields_perm nb n) (readable_fieldsOfNetwork n)
  have htaken := taken_queryBytes nb c
  rcases decode_demand networkInfoSize hread (Protobuf.forDecode .AppQueryMessage)
      (h := { pool := p }) hfrozen with ⟨_, r, h, hok, _⟩ | ⟨hnot, _⟩
  · refine ⟨r, h, hok, ?_⟩
    obtain ⟨hargs, hnetworks⟩ := decodeMessage_holdsLast hok
    refine ⟨fun f v hf => hargs f v (lastOf_of_perm (values_perm nb c) hkeys hf), ?_⟩
    rw [items_queryBytes, List.forall₂_map_left_iff] at hnetworks
    exact hnetworks.imp fun n info hinfo f v hf =>
      hinfo f v (lastOf_of_perm (networkFields_perm nb n) (hnetworkKeys n) hf)
  · exact absurd ⟨fun _ _ hne => absurd rfl hne, hsingle, htaken ▸ hroom⟩ hnot

end Room

/-! ## 4. What is left in memory -/

section Left

variable {L : Layout} {s : Store} {h : Heap}

/-- The `arg`s of a decoded query. -/
def Decoded.query (d : Decoded .AppQueryMessage) : Query where
  device := d.args AppQueryField.identityDevice
  stream := d.args AppQueryField.identityStream
  message := d.args AppQueryField.moduleMessage
  networks := d.networksArray

/-- **A string that was decoded.** -/
theorem stringAt_of_points (hrel : Related L s h) {a : Nat} {text : List Byte} (hnul : 0 ∉ text)
    (hp : Points L s a (Callback.string.content { bytes := text })) :
    StringAt s.memory a text := by
  by_cases hnil : text.length = 0
  · have hliteral : a = L.literal := by
      have hcontent : Callback.string.content { bytes := text } = .literal := if_pos hnil
      rwa [hcontent] at hp
    rw [List.length_eq_zero_iff] at hnil
    subst hnil hliteral
    by_cases hzero : L.literal = 0
    · exact Or.inl ⟨hzero, rfl⟩
    · refine Or.inr ⟨hzero, ⟨List.not_mem_nil, ?_⟩, by decide⟩
      show [s.memory (L.literal + 0)] = [0]
      rw [Nat.add_zero, hrel.literal]
  · have hstring : Points L s a (.string text) := by
      have hcontent : Callback.string.content { bytes := text } = .string text := if_neg hnil
      rwa [hcontent] at hp
    obtain ⟨hh, hread⟩ := hstring
    obtain ⟨hne, _, _, hbound⟩ := hh.bounds hrel.size
    exact Or.inr ⟨hne, ⟨hnul, hread⟩, by unfold addressSpace; omega⟩

/-- **A block that was decoded.** -/
theorem dataAt_of_points (hrel : Related L s h) {a : Nat} {bytes : List Byte}
    (hp : Points L s a (.data bytes)) : DataAt s.memory a bytes := by
  obtain ⟨hh, hlength, hbuffer, hread⟩ := hp
  obtain ⟨hne, _, _, _⟩ := hh.bounds hrel.size
  refine ⟨hne, hlength, Or.inr ?_⟩
  rw [hbuffer]
  exact ⟨by omega, hread⟩

/-- Networks that stand one behind another. -/
theorem networksFrom_of_items {memory : Memory} {a : Nat} {networks : List Network}
    (h : ∀ (i : Nat) (hi : i < networks.length),
      NetworkAt memory (a + networkInfoSize * i) networks[i]) :
    NetworksFrom memory a networks := by
  induction networks generalizing a with
  | nil => trivial
  | cons n networks ih =>
      refine ⟨h 0 (Nat.zero_lt_succ _), ih fun i hi => ?_⟩
      have hnext := h (i + 1) (Nat.succ_lt_succ hi)
      rw [List.getElem_cons_succ, Nat.mul_add, Nat.mul_one, Nat.add_comm _ networkInfoSize,
        ← Nat.add_assoc] at hnext
      exact hnext

/-- A string of a content is ended by its NUL. -/
structure Content.NulFree (c : Content) : Prop where
  device : 0 ∉ c.device
  stream : 0 ∉ c.stream
  networks : ∀ n ∈ c.networks, 0 ∉ n.ssid ∧ 0 ∉ n.password

/-- **What the decoder leaves in memory is what the message holds.** -/
theorem carries_of_holds {d : Decoded .AppQueryMessage} {r : Message .AppQueryMessage}
    {c : Content} (hnul : c.NulFree) (hrel : Related L s h) (hd : Holds L s d r)
    (hr : HoldsContent r c) : Carries s.memory d.query c := by
  have hpoints : ∀ f v, (f, v) ∈ fieldsOf c →
      Points L s (d.args f) ((AppQueryField.callback f).content v) := by
    intro f v hf
    have harg := hd.args f
    rwa [hr.args f v hf] at harg
  have hlength : c.networks.length = r.networks.length := hr.networks.length_eq
  refine ⟨?_, ?_, ?_, hd.networks.length.trans hlength.symm, ?_⟩
  · exact stringAt_of_points hrel hnul.device
      (hpoints .identityDevice { bytes := c.device } (by simp [fieldsOf]))
  · exact stringAt_of_points hrel hnul.stream
      (hpoints .identityStream { bytes := c.stream } (by simp [fieldsOf]))
  · exact dataAt_of_points hrel
      (hpoints .moduleMessage { bytes := c.message } (by simp [fieldsOf]))
  · refine networksFrom_of_items fun i hi => ?_
    have hi' : i < r.networks.length := hlength ▸ hi
    obtain ⟨hssid, hpassword⟩ := hnul.networks _ (List.getElem_mem hi)
    have hinfo := hr.networks.get hi hi'
    obtain ⟨hs, hp⟩ := hd.networks.items i hi'
    simp only [List.get_eq_getElem] at hinfo
    rw [hinfo .ssid { bytes := c.networks[i].ssid } (by simp [fieldsOfNetwork])] at hs
    rw [hinfo .password { bytes := c.networks[i].password } (by simp [fieldsOfNetwork])] at hp
    exact ⟨stringAt_of_points hrel hssid hs, stringAt_of_points hrel hpassword hp⟩

theorem nulFree_of_stringAt {memory : Memory} {a : Nat} {text : List Byte}
    (h : StringAt memory a text) : 0 ∉ text := by
  rcases h with ⟨_, rfl⟩ | ⟨_, hstring, _⟩
  · exact List.not_mem_nil
  · exact hstring.nonzero

theorem nulFree_of_networksFrom {memory : Memory} {a : Nat} {networks : List Network}
    (h : NetworksFrom memory a networks) : ∀ n ∈ networks, 0 ∉ n.ssid ∧ 0 ∉ n.password := by
  induction networks generalizing a with
  | nil => exact fun _ hn => absurd hn List.not_mem_nil
  | cons n networks ih =>
      intro n' hn
      rcases List.mem_cons.mp hn with rfl | hn
      · exact ⟨nulFree_of_stringAt h.1.1, nulFree_of_stringAt h.1.2⟩
      · exact ih h.2 n' hn

/-- **From memory to memory**: a query that is encoded is decoded with any pool that has room, and
    then the memory holds the same strings, the same block of bytes, and the same networks in the
    same order. -/
theorem round_trip (nb : Nanopb) (L : Layout) {memory : Memory} {q : Query} {c : Content}
    (hq : Carries memory q c) {s : Store} (hsize : s.pool.size = L.size)
    (hliteral : s.memory L.literal = 0) (hfrozen : s.pool.frozen = false)
    (hroom : room c ≤ s.pool.remaining) :
    ∃ bytes d s', encodeQuery nb memory q = some bytes ∧
      decodeMessage L s (occurrences nb bytes) = .ok d s' ∧ Carries s'.memory d.query c := by
  have hnul : c.NulFree := ⟨nulFree_of_stringAt hq.device, nulFree_of_stringAt hq.stream,
    nulFree_of_networksFrom hq.networks⟩
  obtain ⟨r, h, hok, hr⟩ := wire_demand nb c hfrozen hroom
  have hrefines := decodeMessage_refines (L := L) (occurrences nb (queryBytes nb c)) hsize hliteral
  rw [hok] at hrefines
  generalize hrun : decodeMessage L s (occurrences nb (queryBytes nb c)) = result at hrefines
  cases hrefines with
  | ok d _ s' _ hrel _ hd =>
      exact ⟨_, d, s', encodeQuery_eq nb hq, hrun, carries_of_holds hnul hrel hd hr⟩

end Left

/-! ## 5. A query of two networks -/

/-- The fields of a message, in some order. -/
def fieldOrder : AppMessage → List AppField
  | .query => [.identity, .networkSettings, .module]
  | .identity => [.device, .stream]
  | .networkSettings => [.networks]
  | .module => [.message]
  | .networkInfo => [.ssid, .password]

/-- A tag: the number of a field, of wire type 2. -/
def fieldTag (f : AppField) : Byte :=
  BitVec.ofNat 8 (8 * match f with
    | .identity => 1
    | .networkSettings => 2
    | .module => 3
    | .device => 4
    | .stream => 5
    | .networks => 6
    | .message => 7
    | .ssid => 8
    | .password => 9) + 2

theorem fieldTag_injective : Function.Injective fieldTag := by
  intro f g h
  cases f <;> cases g <;> first | rfl | exact absurd h (by decide)

/-- Messages of tags, lengths and bytes. -/
def wireFormat : Nanopb where
  tag f := [fieldTag f]
  varint := toVarint
  encode m parts := (fieldOrder m).flatMap parts
  decode m bytes := readFields fieldTag (fieldOrder m) bytes.length bytes
  order := fieldOrder
  mem_order m f := by cases m <;> cases f <;> decide
  nodup_order m := by cases m <;> decide
  decode_encode m parts := by
    have hwritten : ((fieldOrder m).flatMap fun f =>
        (parts f).flatMap (delimited (fun f => [fieldTag f]) toVarint f)) =
        ((fieldOrder m).flatMap fun f => (parts f).map fun bytes => (f, bytes)).flatMap
          (writeField fieldTag) := by
      rw [List.flatMap_assoc]
      refine List.flatMap_congr fun f _ => ?_
      rw [List.flatMap_map]
      rfl
    rw [hwritten]
    refine readFields_writeFields fieldTag_injective (fun p hp => ?_)
      (length_le_writeFields fieldTag _)
    obtain ⟨f, hf, hp⟩ := List.mem_flatMap.mp hp
    obtain ⟨bytes, _, rfl⟩ := List.mem_map.mp hp
    exact hf

/-- A device, two ssids and a password; two bytes; and two networks, of which the first has a null
    pointer for its password. -/
def sent : Memory :=
  Memory.write (fun _ => 0) 16
    ([97, 0, 98, 0, 99, 0, 100, 0] ++ toLE 4 2 ++ toLE 4 32 ++ [1, 2, 0, 0] ++
      (toLE 4 0 ++ toLE 4 18 ++ toLE 4 0 ++ toLE 4 0) ++
      (toLE 4 0 ++ toLE 4 20 ++ toLE 4 0 ++ toLE 4 22))

/-- The query in it; the stream is a null pointer. -/
def sentQuery : Query where
  device := 16
  stream := 0
  message := 24
  networks := { length := 2, buffer := 36 }

/-- Its content. -/
def twoNetworks : Content where
  device := [97]
  stream := []
  message := [1, 2]
  networks := [{ ssid := [98], password := [] }, { ssid := [99], password := [100] }]

/-- A pool of 256 bytes. -/
def place : Layout where
  block := 0x20000000
  size := 256
  self := 0x20001000
  literal := 0x1000
  decodeString := 0x2001
  block_pos := by decide
  block_fits := by decide
  self_pos := by decide
  self_fits := by decide
  self_outside := by decide
  literal_fits := by decide
  literal_outside := by decide
  literal_ne := by decide

theorem carries_sent : Carries sent sentQuery twoNetworks where
  device := Or.inr ⟨by decide, ⟨by decide, by decide⟩, by decide⟩
  stream := Or.inl ⟨rfl, rfl⟩
  message := ⟨by decide, by decide, Or.inr ⟨by decide, by decide⟩⟩
  length := rfl
  networks := by
    refine ⟨⟨Or.inr ⟨by decide, ⟨by decide, by decide⟩, by decide⟩, Or.inl ⟨by decide, rfl⟩⟩,
      ⟨Or.inr ⟨by decide, ⟨by decide, by decide⟩, by decide⟩,
        Or.inr ⟨by decide, ⟨by decide, by decide⟩, by decide⟩⟩, trivial⟩

/-- It arrives. -/
theorem round_trip_two : ∃ bytes d s', encodeQuery wireFormat sent sentQuery = some bytes ∧
    decodeMessage place ⟨fun _ => 0, Pool.empty 256⟩ (occurrences wireFormat bytes) = .ok d s' ∧
      Carries s'.memory d.query twoNetworks :=
  round_trip wireFormat place carries_sent rfl rfl rfl (by decide)

end FieldKit.InMemory

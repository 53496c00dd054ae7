/-
  File:      FieldKit/Protobuf/InMemory.lean
  Subject:   The callbacks of protobuf.cpp and `pb_network_info_item_decode` (app_messages.cpp), with
             the memory that they write into.

  In `Decode` the `arg` of a field holds what it points to. Here it holds an address: the pool hands
  out places one behind another, strings and blocks are written there, and the array of networks is
  copied to a new place, behind everything else, for every network that arrives.

  * `call_refines` -- one callback: what it writes is what `Decode` says that it holds;
  * `networkItemDecode_refines` -- the array is what it was, and one network more;
  * `decode_refines` -- a message.
-/
import FieldKit.Lib.Memory
import FieldKit.Lib.Refine
import FieldKit.Protobuf.Decode

namespace FieldKit.InMemory

open Lib Protobuf

/-! ## 1. Where things lie -/

/-- The addresses of the pool's memory, of the `Pool` itself, of the literal `""` and of
    `pb_decode_string`. Addresses have four bytes. -/
structure Layout where
  block : Nat
  size : Nat
  self : Nat
  literal : Nat
  decodeString : Nat
  block_pos : 0 < block
  block_fits : block + size < 2 ^ 32
  self_pos : 0 < self
  self_fits : self < 2 ^ 32
  self_outside : self < block ∨ block + size ≤ self
  literal_fits : literal < 2 ^ 32
  literal_outside : literal < block ∨ block + size ≤ literal
  literal_ne : literal ≠ self

/-- The memory, and the pool. -/
structure Store where
  memory : Memory
  pool : Pool

/-- A part of the decoder. -/
abbrev Storing (α : Type) := EStateM Halt Store α

/-- `memcpy`, into memory of one's own. -/
def store (a : Nat) (bytes : List Byte) : Storing Unit := fun s =>
  .ok () { s with memory := s.memory.write a bytes }

/-- `memcpy(destination, source, n)`. -/
def memcpy (destination source n : Nat) : Storing Unit := fun s =>
  .ok () { s with memory := s.memory.copy destination source n }

/-- The word at an address. -/
def load (a : Nat) : Storing Nat := fun s => .ok (s.memory.word a) s

/-- `pb_read(stream, a, v.length)`. -/
def pbRead (v : Value) (a : Nat) : Storing Unit := fun s =>
  if v.readable then .ok () { s with memory := s.memory.write a v.bytes } else .error .refused s

section Decoder

variable (L : Layout)

/-- `((Pool *)arg)->malloc(size)`. -/
def poolMalloc (arg size : Nat) : Storing Nat := fun s =>
  if arg = L.self then
    match s.pool.malloc size with
    | some p => .ok (L.block + s.pool.allocated) { s with pool := p }
    | none => .error .asserted s
  else .error .wild s

/-- `pb_decode_string`. -/
def pbDecodeString (v : Value) (arg : Nat) : Storing Nat :=
  if v.bytes.length = 0 then return L.literal
  else do
    let ptr ← poolMalloc L arg (v.bytes.length + 1)
    pbRead v ptr
    store (ptr + v.bytes.length) [0]
    return ptr

/-- `pb_data_allocate`: `length` and then `buffer`, which is right behind. -/
def pbDataAllocate (arg size : Nat) : Storing Nat := do
  let data ← poolMalloc L arg (pbDataSize + size)
  store (data + 4) (toLE 4 (data + pbDataSize))
  store data (toLE 4 size)
  return data

/-- `pb_decode_data`. -/
def pbDecodeData (v : Value) (arg : Nat) : Storing Nat := do
  let data ← pbDataAllocate L arg v.bytes.length
  let buffer ← load (data + 4)
  pbRead v buffer
  return data

/-- The callback is called. -/
def call : Callback → Value → Nat → Storing Nat
  | .string => pbDecodeString L
  | .data => pbDecodeData L

/-- The fields of one structure. -/
def decodeFields {F : Type} [DecidableEq F] (callback : F → Callback) (args : F → Nat) :
    List (F × Value) → Storing (F → Nat)
  | [] => pure args
  | (f, v) :: rest => do
    let arg ← call L (callback f) v (args f)
    decodeFields callback (Function.update args f arg) rest

/-- `sizeof(fk_app_NetworkInfo)`: two callbacks, each a function and an `arg`. -/
def networkInfoSize : Nat := 16

/-- `fk_app_NetworkInfo`. -/
def infoBytes (info : NetworkField → Nat) : List Byte :=
  toLE 4 L.decodeString ++ (toLE 4 (info .ssid) ++
    (toLE 4 L.decodeString ++ toLE 4 (info .password)))

/-- `pb_array_t`, but for what `forDecode` sets once. -/
structure PbArray where
  length : Nat := 0
  buffer : Nat := 0
  deriving DecidableEq, Repr

/-- `if (previous != nullptr)`: the networks so far. -/
def copyPrevious (buffer previous n : Nat) : Storing Unit :=
  if previous ≠ 0 then memcpy buffer previous n else pure ()

/-- The second half of `pb_network_info_item_decode`: the array has a new place. -/
def pbArrayAppend (array : PbArray) (info : NetworkField → Nat) : Storing PbArray := do
  let length := array.length + 1
  let buffer ← poolMalloc L L.self (networkInfoSize * length)
  copyPrevious buffer array.buffer ((length - 1) * networkInfoSize)
  store (buffer + (length - 1) * networkInfoSize) (infoBytes L info)
  return { length, buffer }

/-- `pb_network_info_item_decode`. -/
def networkItemDecode (array : PbArray) (item : List (NetworkField × Value)) :
    Storing PbArray := do
  let info ← decodeFields L NetworkField.callback (fun _ => L.self) item
  pbArrayAppend L array info

/-- A message: the `arg` of each field, and `networksArray`. -/
structure Decoded (m : WireMessage) where
  args : m.Field → Nat
  networksArray : PbArray := {}

/-- `forDecode`. -/
def forDecode (m : WireMessage) : Decoded m where
  args _ := L.self

/-- One occurrence. -/
def decodeOccurrence {m : WireMessage} (msg : Decoded m) : Occurrence m → Storing (Decoded m)
  | .value f v => do
    let arg ← call L (m.callback f) v (msg.args f)
    return { msg with args := Function.update msg.args f arg }
  | .network _ item => do
    let networksArray ← networkItemDecode L msg.networksArray item
    return { msg with networksArray := networksArray }

/-- `pb_decode`, over the occurrences. -/
def decode {m : WireMessage} (msg : Decoded m) : List (Occurrence m) → Storing (Decoded m)
  | [] => pure msg
  | o :: rest => do
    let msg ← decodeOccurrence L msg o
    decode msg rest

/-- A wire message is decoded with a pool. -/
def decodeMessage {m : WireMessage} (s : Store) (wire : List (Occurrence m)) :
    EStateM.Result Halt Store (Decoded m) :=
  decode L (forDecode L m) wire s

end Decoder

/-! ## 2. What an address means -/

section Meaning

variable (L : Layout)

/-- So many bytes, of what the pool has handed out. -/
structure Handed (s : Store) (a n : Nat) : Prop where
  low : L.block ≤ a
  high : a + n ≤ L.block + s.pool.allocated

/-- What stands at an address. -/
def Points (s : Store) (a : Nat) : Arg → Prop
  | .null => a = 0
  | .pool => a = L.self
  | .literal => a = L.literal
  | .string text => Handed L s a (text.length + 1) ∧
      s.memory.read a (text.length + 1) = text ++ [0]
  | .data bytes => Handed L s a (pbDataSize + bytes.length) ∧ s.memory.word a = bytes.length ∧
      s.memory.word (a + 4) = a + pbDataSize ∧
        s.memory.read (a + pbDataSize) bytes.length = bytes

/-- A network stands at an address. -/
def InfoAt (s : Store) (a : Nat) (info : Protobuf.NetworkInfo) : Prop :=
  Points L s (s.memory.word (a + 4)) (info .ssid) ∧
    Points L s (s.memory.word (a + 12)) (info .password)

/-- **The array holds these networks**, one behind another. -/
structure ArrayAt (s : Store) (array : PbArray) (networks : List Protobuf.NetworkInfo) : Prop where
  length : array.length = networks.length
  null : array.buffer = 0 ↔ networks = []
  handed : networks ≠ [] → Handed L s array.buffer (networkInfoSize * networks.length)
  items : ∀ (i : Nat) (h : i < networks.length),
    InfoAt L s (array.buffer + networkInfoSize * i) networks[i]

/-- **The two states of a decoder.** -/
structure Related (s : Store) (h : Heap) : Prop where
  pool : s.pool = h.pool
  size : s.pool.size = L.size
  literal : s.memory L.literal = 0

/-- **What later states keep**: what the pool has handed out, and what stands there. -/
structure Extends (s s' : Store) : Prop where
  allocated : s.pool.allocated ≤ s'.pool.allocated
  kept : ∀ x, L.block ≤ x → x < L.block + s.pool.allocated → s'.memory x = s.memory x

/-- **The decoded message is this one.** -/
structure Holds {m : WireMessage} (s : Store) (d : Decoded m) (msg : Message m) : Prop where
  args : ∀ f, Points L s (d.args f) (msg.args f)
  networks : ArrayAt L s d.networksArray msg.networks

end Meaning

section Keeping

variable {L : Layout} {s s' : Store}

theorem extends_refl (s : Store) : Extends L s s := ⟨le_rfl, fun _ _ _ => rfl⟩

theorem extends_trans (a b c : Store) (h : Extends L a b) (h' : Extends L b c) :
    Extends L a c where
  allocated := h.allocated.trans h'.allocated
  kept x hlow hhigh := by
    have hlater : x < L.block + b.pool.allocated := by
      have := h.allocated
      omega
    rw [h'.kept x hlow hlater, h.kept x hlow hhigh]

theorem Handed.later (h : Extends L s s') {a n : Nat} (hh : Handed L s a n) : Handed L s' a n :=
  ⟨hh.low, hh.high.trans (Nat.add_le_add_left h.allocated _)⟩

theorem Handed.kept (h : Extends L s s') {a n : Nat} (hh : Handed L s a n) {k : Nat} (hk : k < n) :
    s'.memory (a + k) = s.memory (a + k) := by
  have := hh.low
  have := hh.high
  exact h.kept (a + k) (by omega) (by omega)

theorem Handed.read (h : Extends L s s') {a n : Nat} (hh : Handed L s a n) {k c : Nat}
    (hk : k + c ≤ n) : s'.memory.read (a + k) c = s.memory.read (a + k) c :=
  Memory.read_congr fun i hi => by
    rw [Nat.add_assoc]
    exact hh.kept h (by omega)

theorem Handed.word (h : Extends L s s') {a n : Nat} (hh : Handed L s a n) {k : Nat}
    (hk : k + 4 ≤ n) : s'.memory.word (a + k) = s.memory.word (a + k) :=
  congrArg ofLE (hh.read h hk)

/-- **What stands at an address stays there.** -/
theorem Points.later (h : Extends L s s') {a : Nat} {arg : Arg} (hp : Points L s a arg) :
    Points L s' a arg := by
  cases arg with
  | null => exact hp
  | pool => exact hp
  | literal => exact hp
  | string text =>
      obtain ⟨hh, hread⟩ := hp
      have hsame := hh.read h (k := 0) (c := text.length + 1) (by omega)
      rw [Nat.add_zero] at hsame
      exact ⟨hh.later h, hsame.trans hread⟩
  | data bytes =>
      obtain ⟨hh, hlength, hbuffer, hread⟩ := hp
      have hfirst := hh.word h (k := 0) (by unfold pbDataSize; omega)
      rw [Nat.add_zero] at hfirst
      exact ⟨hh.later h, hfirst.trans hlength,
        (hh.word h (k := 4) (by unfold pbDataSize; omega)).trans hbuffer,
        (hh.read h (k := pbDataSize) le_rfl).trans hread⟩

/-- A network that stands somewhere stands wherever its bytes are. -/
theorem InfoAt.moved (h : Extends L s s') {a b : Nat} {info : Protobuf.NetworkInfo}
    (hinfo : InfoAt L s a info)
    (hbytes : ∀ k < networkInfoSize, s'.memory (b + k) = s.memory (a + k)) :
    InfoAt L s' b info := by
  have hword : ∀ k, k + 4 ≤ networkInfoSize →
      s'.memory.word (b + k) = s.memory.word (a + k) := fun k hk =>
    Memory.word_congr fun i hi => by
      rw [Nat.add_assoc, Nat.add_assoc]
      exact hbytes (k + i) (by omega)
  unfold InfoAt
  rw [hword 4 (by decide), hword 12 (by decide)]
  exact ⟨hinfo.1.later h, hinfo.2.later h⟩

theorem ArrayAt.later (h : Extends L s s') {array : PbArray}
    {networks : List Protobuf.NetworkInfo} (ha : ArrayAt L s array networks) :
    ArrayAt L s' array networks where
  length := ha.length
  null := ha.null
  handed hne := (ha.handed hne).later h
  items i hi := by
    have hne : networks ≠ [] := List.ne_nil_of_length_pos (by omega)
    refine (ha.items i hi).moved h fun k hk => ?_
    have hin : networkInfoSize * i + k < networkInfoSize * networks.length := by
      unfold networkInfoSize at hk ⊢
      omega
    rw [Nat.add_assoc]
    exact (ha.handed hne).kept h hin

/-- No more is handed out than there is. -/
theorem allocated_le (hs : s.pool.size = L.size) : s.pool.allocated ≤ L.size := by
  rw [← hs]
  exact Nat.sub_le _ _

/-- What is handed out lies in the memory of the pool. -/
theorem Handed.bounds (hs : s.pool.size = L.size) {a n : Nat} (hh : Handed L s a n) :
    a ≠ 0 ∧ L.block ≤ a ∧ a + n ≤ L.block + L.size ∧ a + n < 2 ^ 32 := by
  have := allocated_le hs
  have := L.block_pos
  have := L.block_fits
  have := hh.low
  have := hh.high
  omega

/-- Nothing that is decoded is taken for the pool. -/
theorem Points.ne_self {a : Nat} {arg : Arg} (hs : s.pool.size = L.size) (hp : Points L s a arg)
    (harg : arg ≠ .pool) : a ≠ L.self := by
  have hself := L.self_outside
  cases arg with
  | null =>
      have := L.self_pos
      have hp : a = 0 := hp
      omega
  | pool => exact absurd rfl harg
  | literal =>
      have hp : a = L.literal := hp
      rw [hp]
      exact L.literal_ne
  | string text =>
      obtain ⟨_, hlow, hhigh, _⟩ := hp.1.bounds hs
      omega
  | data bytes =>
      obtain ⟨_, hlow, hhigh, _⟩ := hp.1.bounds hs
      unfold pbDataSize at hhigh
      omega

/-- An address is a word. -/
theorem Points.fits {a : Nat} {arg : Arg} (hs : s.pool.size = L.size) (hp : Points L s a arg) :
    a < 2 ^ 32 := by
  cases arg with
  | null =>
      have hp : a = 0 := hp
      omega
  | pool =>
      have hp : a = L.self := hp
      rw [hp]
      exact L.self_fits
  | literal =>
      have hp : a = L.literal := hp
      rw [hp]
      exact L.literal_fits
  | string text =>
      obtain ⟨_, _, _, hfits⟩ := hp.1.bounds hs
      omega
  | data bytes =>
      obtain ⟨_, _, _, hfits⟩ := hp.1.bounds hs
      omega

end Keeping

/-! ## 3. One callback -/

section Calls

variable {L : Layout} {s : Store} {h : Heap} {p : Pool} {size : Nat}

/-- Where the pool takes the next piece from. -/
def next (L : Layout) (s : Store) : Nat := L.block + s.pool.allocated

theorem poolMalloc_ok (hm : s.pool.malloc size = some p) :
    poolMalloc L L.self size s = .ok (next L s) { s with pool := p } := by
  unfold poolMalloc
  rw [if_pos rfl, hm]
  rfl

theorem poolMalloc_none (hm : s.pool.malloc size = none) :
    poolMalloc L L.self size s = .error .asserted s := by
  unfold poolMalloc
  rw [if_pos rfl, hm]

theorem poolMalloc_wild {a : Nat} (ha : a ≠ L.self) :
    poolMalloc L a size s = .error .wild s := by
  unfold poolMalloc
  rw [if_neg ha]

/-- Memory that differs only where nothing has been handed out. -/
def Apart (L : Layout) (s : Store) (m : Memory) : Prop :=
  ∀ x, x < next L s ∨ L.block + L.size ≤ x → m x = s.memory x

theorem apart_self (s : Store) : Apart L s s.memory := fun _ _ => rfl

theorem Apart.write {m : Memory} (hm : Apart L s m) {a : Nat} {bytes : List Byte}
    (hlow : next L s ≤ a) (hhigh : a + bytes.length ≤ L.block + L.size) :
    Apart L s (m.write a bytes) := by
  intro x hx
  rw [Memory.write_outside m (by omega)]
  exact hm x hx

/-- A piece is handed out, in front of the end of the block. -/
theorem malloc_next (hs : s.pool.size = L.size) (hm : s.pool.malloc size = some p) :
    next L s + size ≤ L.block + p.allocated ∧ next L s + size ≤ L.block + L.size ∧
      s.pool.allocated ≤ p.allocated ∧ p.size = L.size := by
  obtain ⟨hallocated, hsize, _⟩ := Pool.malloc_allocated hm
  have haligned := le_alignedSize size
  have hlast : p.allocated ≤ p.size := Nat.sub_le _ _
  unfold next
  omega

/-- **A piece more**, with something written into it. -/
theorem related_taken (hrel : Related L s h) (hm : s.pool.malloc size = some p) {m : Memory}
    (hapart : Apart L s m) (found : List Arg) :
    Related L ⟨m, p⟩ ⟨p, found⟩ ∧ Extends L s ⟨m, p⟩ ∧ Handed L ⟨m, p⟩ (next L s) size := by
  obtain ⟨hhigh, _, hmore, hsize⟩ := malloc_next hrel.size hm
  refine ⟨⟨rfl, hsize, ?_⟩, ⟨hmore, fun x _ hx => hapart x (Or.inl hx)⟩,
    ⟨Nat.le_add_right _ _, hhigh⟩⟩
  have hout : L.literal < next L s ∨ L.block + L.size ≤ L.literal := by
    have := L.literal_outside
    unfold next
    omega
  exact (hapart _ hout).trans hrel.literal

/-- **A callback that takes memory**, and reads into it. -/
theorem taken_refines {v : Value} {a : Nat} {arg stored : Arg} {x : Storing Nat}
    (hrel : Related L s h) (harg : Points L s a arg)
    (hwild : a ≠ L.self → x s = .error .wild s)
    (hnone : a = L.self → s.pool.malloc size = none → x s = .error .asserted s)
    (hrefused : a = L.self → ∀ p, s.pool.malloc size = some p → v.readable = false →
      ∃ s', x s = .error .refused s')
    (hdone : a = L.self → ∀ p, s.pool.malloc size = some p → v.readable = true →
      ∃ m, x s = .ok (next L s) ⟨m, p⟩ ∧ Apart L s m ∧
        (Handed L ⟨m, p⟩ (next L s) size → Points L ⟨m, p⟩ (next L s) stored)) :
    Refines (Related L) (Extends L) s (Points L) (x s)
      ((do Protobuf.poolMalloc arg size; Protobuf.pbRead v; return stored : Decoding Arg) h) := by
  rw [bind_run]
  unfold Protobuf.poolMalloc
  by_cases hpool : arg = .pool
  · subst hpool
    have ha : a = L.self := harg
    dsimp only
    rw [← hrel.pool]
    cases hm : s.pool.malloc size with
    | none =>
        rw [hnone ha hm]
        exact .error _ _ _
    | some p =>
        dsimp only
        rw [bind_run, Protobuf.pbRead]
        cases hread : v.readable with
        | false =>
            obtain ⟨s', hrun⟩ := hrefused ha p hm hread
            rw [hrun]
            exact .error _ _ _
        | true =>
            obtain ⟨m, hrun, hapart, hpoints⟩ := hdone ha p hm hread
            obtain ⟨hrel', hext, hhanded⟩ := related_taken hrel hm hapart h.found
            rw [hrun]
            exact .ok _ _ _ _ hrel' hext (hpoints hhanded)
  · rw [hwild (harg.ne_self hrel.size hpool)]
    cases arg with
    | pool => exact absurd rfl hpool
    | _ => exact .error _ _ _

theorem pbRead_ok {v : Value} (hread : v.readable = true) (a : Nat) (s : Store) :
    pbRead v a s = .ok () { s with memory := s.memory.write a v.bytes } := by
  unfold pbRead
  rw [if_pos hread]

theorem pbRead_refused {v : Value} (hread : v.readable = false) (a : Nat) (s : Store) :
    pbRead v a s = .error .refused s := by
  unfold pbRead
  rw [if_neg (by rw [hread]; decide)]

theorem load_run (a : Nat) (s : Store) : load a s = .ok (s.memory.word a) s := rfl

theorem pbDecodeString_refines {v : Value} {a : Nat} {arg : Arg} (hrel : Related L s h)
    (harg : Points L s a arg) :
    Refines (Related L) (Extends L) s (Points L) (pbDecodeString L v a s)
      (Protobuf.pbDecodeString v arg h) := by
  unfold pbDecodeString Protobuf.pbDecodeString
  by_cases hnil : v.bytes.length = 0
  · rw [if_pos hnil, if_pos hnil]
    exact .ok _ _ _ _ ⟨hrel.pool, hrel.size, hrel.literal⟩ (extends_refl s) rfl
  · rw [if_neg hnil, if_neg hnil]
    refine taken_refines (h := { h with found := h.found ++ [arg] })
      ⟨hrel.pool, hrel.size, hrel.literal⟩ harg ?_ ?_ ?_ ?_
    · exact fun ha => bind_of_error (poolMalloc_wild ha)
    · rintro rfl hm
      exact bind_of_error (poolMalloc_none hm)
    · rintro rfl p hm hread
      refine ⟨{ s with pool := p }, ?_⟩
      rw [bind_of_ok (poolMalloc_ok hm)]
      exact bind_of_error (pbRead_refused hread _ _)
    · rintro rfl p hm hread
      obtain ⟨_, hend, _, _⟩ := malloc_next hrel.size hm
      refine ⟨s.memory.write (next L s) (v.bytes ++ [0]), ?_, ?_, fun hhanded => ⟨hhanded, ?_⟩⟩
      · rw [bind_of_ok (poolMalloc_ok hm), bind_of_ok (pbRead_ok hread _ _),
          ← Memory.write_append]
        rfl
      · refine (apart_self s).write le_rfl ?_
        rw [List.length_append]
        exact hend
      · have hback := s.memory.read_write (next L s) (v.bytes ++ [0])
        rwa [List.length_append] at hback

/-- `pb_data_allocate`, where the pool has room. -/
theorem pbDataAllocate_ok (hm : s.pool.malloc (pbDataSize + size) = some p) :
    pbDataAllocate L L.self size s = .ok (next L s)
      ⟨s.memory.write (next L s) (toLE 4 size ++ toLE 4 (next L s + pbDataSize)), p⟩ := by
  unfold pbDataAllocate
  rw [bind_of_ok (poolMalloc_ok hm), ← Memory.write_prepend, length_toLE]
  rfl

theorem pbDecodeData_refines {v : Value} {a : Nat} {arg : Arg} (hrel : Related L s h)
    (harg : Points L s a arg) :
    Refines (Related L) (Extends L) s (Points L) (pbDecodeData L v a s)
      (Protobuf.pbDecodeData v arg h) := by
  have hfail : ∀ {e : Halt} {s' : Store}, pbDataAllocate L a v.bytes.length s = .error e s' →
      pbDecodeData L v a s = .error e s' := fun hx => bind_of_error hx
  refine taken_refines (h := { h with found := h.found ++ [arg] })
    ⟨hrel.pool, hrel.size, hrel.literal⟩ harg ?_ ?_ ?_ ?_
  · exact fun ha => hfail (bind_of_error (poolMalloc_wild ha))
  · rintro rfl hm
    exact hfail (bind_of_error (poolMalloc_none hm))
  · rintro rfl p hm hread
    refine ⟨⟨s.memory.write (next L s) (toLE 4 v.bytes.length ++ toLE 4 (next L s + pbDataSize)),
      p⟩, ?_⟩
    unfold pbDecodeData
    rw [bind_of_ok (pbDataAllocate_ok hm), bind_of_ok (load_run _ _)]
    exact bind_of_error (pbRead_refused hread _ _)
  · rintro rfl p hm hread
    obtain ⟨_, hend, _, _⟩ := malloc_next hrel.size hm
    have hfits := L.block_fits
    have hlength : v.bytes.length < 2 ^ 32 := by omega
    have hbuffer : next L s + pbDataSize < 2 ^ 32 := by omega
    have hfour : (toLE 4 v.bytes.length).length = 4 := length_toLE 4 _
    -- the header is written first, and the bytes behind it
    have hload : load (next L s + 4) ⟨s.memory.write (next L s) (toLE 4 v.bytes.length ++
        toLE 4 (next L s + pbDataSize)), p⟩ = .ok (next L s + pbDataSize)
          ⟨s.memory.write (next L s) (toLE 4 v.bytes.length ++
            toLE 4 (next L s + pbDataSize)), p⟩ := by
      have hword := s.memory.word_write_part (next L s) (toLE 4 v.bytes.length) [] hbuffer
      rw [List.append_nil, hfour] at hword
      exact congrArg (fun b => EStateM.Result.ok b _) hword
    refine ⟨s.memory.write (next L s)
      (toLE 4 v.bytes.length ++ (toLE 4 (next L s + pbDataSize) ++ v.bytes)), ?_, ?_,
      fun hhanded => ⟨hhanded, ?_, ?_, ?_⟩⟩
    · have hwritten := s.memory.write_append (next L s)
        (toLE 4 v.bytes.length ++ toLE 4 (next L s + pbDataSize)) v.bytes
      rw [List.length_append, length_toLE, length_toLE, List.append_assoc] at hwritten
      unfold pbDecodeData
      rw [bind_of_ok (pbDataAllocate_ok hm), bind_of_ok hload, bind_of_ok (pbRead_ok hread _ _)]
      exact congrArg (fun m => EStateM.Result.ok (next L s) (Store.mk m p)) hwritten
    · refine (apart_self s).write le_rfl ?_
      simp only [List.length_append, length_toLE]
      unfold pbDataSize at hend
      omega
    · exact s.memory.word_write_part (next L s) [] _ hlength
    · have hword := s.memory.word_write_part (next L s) (toLE 4 v.bytes.length) v.bytes hbuffer
      rwa [hfour] at hword
    · have hback := s.memory.read_write_part (next L s)
        (toLE 4 v.bytes.length ++ toLE 4 (next L s + pbDataSize)) v.bytes []
      rw [List.append_nil, List.append_assoc, List.length_append, length_toLE, length_toLE] at hback
      exact hback

/-- **One callback**: what it writes is what its field holds. -/
theorem call_refines (c : Callback) (v : Value) {a : Nat} {arg : Arg} (hrel : Related L s h)
    (harg : Points L s a arg) :
    Refines (Related L) (Extends L) s (Points L) (call L c v a s) (c.call v arg h) := by
  cases c with
  | string => exact pbDecodeString_refines hrel harg
  | data => exact pbDecodeData_refines hrel harg

end Calls

/-! ## 4. Structures, and the array -/

section Structures

variable {L : Layout} {s : Store} {h : Heap}

/-- **The fields of one structure.** -/
theorem decodeFields_refines {F : Type} [DecidableEq F] (callback : F → Callback)
    (fs : List (F × Value)) {args : F → Nat} {args' : F → Arg} (hrel : Related L s h)
    (hargs : ∀ f, Points L s (args f) (args' f)) :
    Refines (Related L) (Extends L) s (fun s r r' => ∀ f, Points L s (r f) (r' f))
      (decodeFields L callback args fs s) (Protobuf.decodeFields callback args' fs h) := by
  induction fs generalizing s h args args' with
  | nil => exact .ok _ _ _ _ hrel (extends_refl s) hargs
  | cons p rest ih =>
      obtain ⟨f, v⟩ := p
      refine (call_refines (callback f) v hrel (hargs f)).bind extends_trans ?_
      intro a arg s' h' hrel' hext ha
      refine ih hrel' fun g => ?_
      by_cases hg : g = f
      · subst hg
        rw [Function.update_self, Function.update_self]
        exact ha
      · rw [Function.update_of_ne hg, Function.update_of_ne hg]
        exact (hargs g).later hext

theorem length_infoBytes (L : Layout) (info : NetworkField → Nat) :
    (infoBytes L info).length = networkInfoSize := by
  simp [infoBytes, networkInfoSize]

/-- What is written for one network. -/
theorem infoAt_written {p : Pool} {m : Memory} {a : Nat} {info : NetworkField → Nat}
    {info' : Protobuf.NetworkInfo} (hs : s.pool.size = L.size)
    (hinfo : ∀ f, Points L s (info f) (info' f))
    (hext : Extends L s ⟨m.write a (infoBytes L info), p⟩) :
    InfoAt L ⟨m.write a (infoBytes L info), p⟩ a info' := by
  have hssid := m.word_write_part a (toLE 4 L.decodeString)
    (toLE 4 L.decodeString ++ toLE 4 (info .password)) ((hinfo .ssid).fits hs)
  have hpassword := m.word_write_part a
    (toLE 4 L.decodeString ++ (toLE 4 (info .ssid) ++ toLE 4 L.decodeString)) []
    ((hinfo .password).fits hs)
  rw [length_toLE] at hssid
  simp only [List.append_assoc, List.append_nil, List.length_append, length_toLE] at hpassword
  unfold InfoAt
  refine ⟨?_, ?_⟩
  · show Points L _ ((m.write a (infoBytes L info)).word (a + 4)) (info' .ssid)
    unfold infoBytes at hext ⊢
    rw [hssid]
    exact (hinfo .ssid).later hext
  · show Points L _ ((m.write a (infoBytes L info)).word (a + 12)) (info' .password)
    unfold infoBytes at hext ⊢
    rw [hpassword]
    exact (hinfo .password).later hext

/-- The networks so far are copied, if there are any. -/
theorem copied {array : PbArray} {networks : List Protobuf.NetworkInfo} {p : Pool}
    (hrel : Related L s h) (ha : ArrayAt L s array networks)
    (hm : s.pool.malloc (networkInfoSize * (networks.length + 1)) = some p) :
    ∃ m, copyPrevious (next L s) array.buffer ((networks.length + 1 - 1) * networkInfoSize)
        { s with pool := p } = .ok () ⟨m, p⟩ ∧ Apart L s m ∧
      ∀ k < networkInfoSize * networks.length,
        m (next L s + k) = s.memory (array.buffer + k) := by
  unfold copyPrevious
  by_cases hnone : networks = []
  · refine ⟨s.memory, ?_, apart_self s, fun k hk => ?_⟩
    · rw [if_neg (fun hne => hne (ha.null.mpr hnone))]
      rfl
    · rw [hnone] at hk
      exact absurd hk (Nat.not_lt_zero k)
  · obtain ⟨_, hend, _, _⟩ := malloc_next hrel.size hm
    have hsize : (networks.length + 1 - 1) * networkInfoSize =
        networkInfoSize * networks.length := by
      rw [Nat.add_sub_cancel, Nat.mul_comm]
    refine ⟨s.memory.copy (next L s) array.buffer (networkInfoSize * networks.length), ?_, ?_,
      fun k hk => Memory.copy_inside _ hk⟩
    · rw [if_pos (fun hzero => hnone (ha.null.mp hzero)), hsize]
      rfl
    · refine (apart_self s).write le_rfl ?_
      rw [Memory.length_read]
      unfold networkInfoSize at hend ⊢
      omega

/-- **The array at its new place**: what it was, and one network more. -/
theorem pbArrayAppend_refines {array : PbArray} {networks : List Protobuf.NetworkInfo}
    {info : NetworkField → Nat} {info' : Protobuf.NetworkInfo} (hrel : Related L s h)
    (ha : ArrayAt L s array networks) (hinfo : ∀ f, Points L s (info f) (info' f)) :
    Refines (Related L) (Extends L) s (ArrayAt L) (pbArrayAppend L array info s)
      ((do Protobuf.poolMalloc .pool (networkInfoSize * (networks.length + 1))
           return networks ++ [info'] : Decoding (List Protobuf.NetworkInfo)) h) := by
  rw [bind_run]
  unfold Protobuf.poolMalloc pbArrayAppend
  dsimp only
  rw [← hrel.pool, ha.length]
  cases hm : s.pool.malloc (networkInfoSize * (networks.length + 1)) with
  | none =>
      rw [bind_of_error (poolMalloc_none hm)]
      exact .error _ _ _
  | some p =>
      obtain ⟨_, hend, _, _⟩ := malloc_next hrel.size hm
      obtain ⟨m, hcopy, hapart, hbytes⟩ := copied hrel ha hm
      have hplace : (networks.length + 1 - 1) * networkInfoSize =
          networkInfoSize * networks.length := by
        rw [Nat.add_sub_cancel, Nat.mul_comm]
      have hwritten : Apart L s (m.write (next L s + networkInfoSize * networks.length)
          (infoBytes L info)) := by
        refine hapart.write (Nat.le_add_right _ _) ?_
        rw [length_infoBytes]
        unfold networkInfoSize at hend ⊢
        omega
      obtain ⟨hrel', hext, hhanded⟩ := related_taken hrel hm hwritten h.found
      rw [bind_of_ok (poolMalloc_ok hm), bind_of_ok hcopy, hplace]
      refine .ok _ _ _ _ hrel' hext ⟨?_, ?_, fun _ => ?_, fun i hi => ?_⟩
      · have hlength : (networks ++ [info']).length = networks.length + 1 := List.length_append
        exact hlength.symm
      · have hpos : next L s ≠ 0 := by
          have := L.block_pos
          unfold next
          omega
        exact ⟨fun hzero => absurd hzero hpos, fun hnil => absurd hnil (by simp)⟩
      · rw [List.length_append]
        exact hhanded
      · rw [List.length_append, List.length_singleton] at hi
        rcases Nat.lt_succ_iff_lt_or_eq.mp hi with hlt | rfl
        · -- a network that was there before, with its bytes at the new place
          rw [List.getElem_append_left hlt]
          refine (ha.items i hlt).moved hext fun k hk => ?_
          have hin : networkInfoSize * i + k < networkInfoSize * networks.length := by
            unfold networkInfoSize at hk ⊢
            omega
          dsimp only
          rw [Nat.add_assoc, Memory.write_outside m (by omega), Nat.add_assoc]
          exact hbytes _ hin
        · rw [List.getElem_append_right le_rfl]
          simp only [Nat.sub_self, List.getElem_cons_zero]
          exact infoAt_written hrel.size hinfo hext

/-- **One network**: its strings, and the array behind them. -/
theorem networkItemDecode_refines {array : PbArray} {networks : List Protobuf.NetworkInfo}
    (item : List (NetworkField × Value)) (hrel : Related L s h)
    (ha : ArrayAt L s array networks) :
    Refines (Related L) (Extends L) s (ArrayAt L) (networkItemDecode L array item s)
      (Protobuf.networkItemDecode networkInfoSize networks item h) := by
  have hpool : ∀ _ : NetworkField, Points L s L.self .pool := fun _ => rfl
  refine (decodeFields_refines NetworkField.callback item hrel hpool).bind extends_trans ?_
  intro info info' s' h' hrel' hext hinfo
  exact pbArrayAppend_refines hrel' (ha.later hext) hinfo

end Structures

/-! ## 5. A message -/

section Messages

variable {L : Layout} {m : WireMessage} {s : Store} {h : Heap}

theorem decodeOccurrence_refines (o : Occurrence m) {d : Decoded m} {msg : Message m}
    (hrel : Related L s h) (hd : Holds L s d msg) :
    Refines (Related L) (Extends L) s (Holds L) (decodeOccurrence L d o s)
      (Protobuf.decodeOccurrence networkInfoSize msg o h) := by
  cases o with
  | value f v =>
      refine (call_refines (m.callback f) v hrel (hd.args f)).bind extends_trans ?_
      intro a arg s' h' hrel' hext ha
      refine .ok _ _ _ _ hrel' (extends_refl s') ⟨fun g => ?_, hd.networks.later hext⟩
      dsimp only
      by_cases hg : g = f
      · subst hg
        rw [Function.update_self, Function.update_self]
        exact ha
      · rw [Function.update_of_ne hg, Function.update_of_ne hg]
        exact (hd.args g).later hext
  | network _ item =>
      refine (networkItemDecode_refines item hrel hd.networks).bind extends_trans ?_
      intro array networks s' h' hrel' hext ha
      exact .ok _ _ _ _ hrel' (extends_refl s') ⟨fun g => (hd.args g).later hext, ha⟩

/-- **A message**: where `Decode` says that it is decoded, it is, and what it says that the message
    holds stands in the pool. -/
theorem decode_refines (wire : List (Occurrence m)) {d : Decoded m} {msg : Message m}
    (hrel : Related L s h) (hd : Holds L s d msg) :
    Refines (Related L) (Extends L) s (Holds L) (decode L d wire s)
      (Protobuf.decode networkInfoSize msg wire h) := by
  induction wire generalizing s h d msg with
  | nil => exact .ok _ _ _ _ hrel (extends_refl s) hd
  | cons o rest ih =>
      refine (decodeOccurrence_refines o hrel hd).bind extends_trans ?_
      intro d' msg' s' h' hrel' _ hd'
      exact ih hrel' hd'

/-- Nothing is held before. -/
theorem holds_forDecode (L : Layout) (m : WireMessage) (s : Store) :
    Holds L s (forDecode L m) (Protobuf.forDecode m) where
  args _ := rfl
  networks := ⟨rfl, ⟨fun _ => rfl, fun _ => rfl⟩, fun hne => absurd rfl hne,
    fun _ hi => absurd hi (Nat.not_lt_zero _)⟩

/-- **From the beginning.** -/
theorem decodeMessage_refines (wire : List (Occurrence m)) (hsize : s.pool.size = L.size)
    (hliteral : s.memory L.literal = 0) :
    Refines (Related L) (Extends L) s (Holds L) (decodeMessage L s wire)
      (Protobuf.decodeMessage networkInfoSize s.pool wire) :=
  decode_refines wire ⟨rfl, hsize, hliteral⟩ (holds_forDecode L m s)

end Messages

end FieldKit.InMemory

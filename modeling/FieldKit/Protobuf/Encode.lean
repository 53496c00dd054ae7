/-
  File:      FieldKit/Protobuf/Encode.lean
  Subject:   How string, bytes and array fields are encoded (protobuf.cpp): the callbacks read them
             from memory.

  nanopb is a parameter: how it writes tags and lengths, how it puts a message together from what
  its fields write, and what it finds there again. That these belong together is all that is
  known of it.

  * `pbEncodeString_eq`, `pbEncodeData_eq`, `pbEncodeArray_eq` -- what the callbacks write;
  * `encodeQuery_eq` -- a query.
-/
import FieldKit.Protobuf.InMemory

namespace FieldKit.InMemory

open Lib Protobuf

/-! ## 1. nanopb -/

/-- `fk_app_WireMessageQuery` and the messages inside it. -/
inductive AppMessage where
  | query
  | identity
  | networkSettings
  | module
  | networkInfo
  deriving DecidableEq, Repr

/-- Their fields: those that are messages, and those that have a callback. -/
inductive AppField where
  | identity
  | networkSettings
  | module
  | device
  | stream
  | networks
  | message
  | ssid
  | password
  deriving DecidableEq, Repr

/-- The message that a field is in. -/
def AppField.parent : AppField → AppMessage
  | .identity => .query
  | .networkSettings => .query
  | .module => .query
  | .device => .identity
  | .stream => .identity
  | .networks => .networkSettings
  | .message => .module
  | .ssid => .networkInfo
  | .password => .networkInfo

/-- The message that a field of the query is. -/
def AppField.submessage : AppField → Option AppMessage
  | .identity => some .identity
  | .networkSettings => some .networkSettings
  | .module => some .module
  | _ => none

theorem AppField.submessage_inj {f f' : AppField} {m : AppMessage} (h : f.submessage = some m)
    (h' : f'.submessage = some m) : f = f' := by
  cases f <;> cases h <;> cases f' <;> first | rfl | cases h'

/-- One field on the wire: its tag, its length, and its bytes. -/
def delimited (tag : AppField → List Byte) (varint : Nat → List Byte) (f : AppField)
    (bytes : List Byte) : List Byte :=
  tag f ++ (varint bytes.length ++ bytes)

/-- **nanopb**: `pb_encode_tag_for_field` and `pb_encode_varint`; `pb_encode`, of what each field
    writes; `pb_decode`, with the bytes that every field is given. What it relies on: fields that
    are written one by one are found one by one, message by message in the order of its fields. -/
structure Nanopb where
  tag : AppField → List Byte
  varint : Nat → List Byte
  encode : AppMessage → (AppField → List Byte) → List Byte
  decode : AppMessage → List Byte → List (AppField × List Byte)
  order : AppMessage → List AppField
  mem_order : ∀ m f, f ∈ order m ↔ f.parent = m
  nodup_order : ∀ m, (order m).Nodup
  decode_encode : ∀ (m : AppMessage) (parts : AppField → List (List Byte)),
    decode m (encode m fun f => (parts f).flatMap (delimited tag varint f)) =
      (order m).flatMap fun f => (parts f).map fun bytes => (f, bytes)

/-! ## 2. What is encoded -/

/-- The addresses that there are. -/
def addressSpace : Nat := 2 ^ 32

/-- A string; a null pointer is an empty one. -/
def StringAt (memory : Memory) (a : Nat) (text : List Byte) : Prop :=
  (a = 0 ∧ text = []) ∨ (a ≠ 0 ∧ memory.CString a text ∧ text.length < addressSpace)

/-- A block of bytes, with its `pb_data_t` in front; `buffer` may be null if it has none. -/
structure DataAt (memory : Memory) (a : Nat) (bytes : List Byte) : Prop where
  nonnull : a ≠ 0
  length : memory.word a = bytes.length
  bytes : (memory.word (a + 4) = 0 ∧ bytes = []) ∨
    (memory.word (a + 4) ≠ 0 ∧ memory.read (memory.word (a + 4)) bytes.length = bytes)

/-- The ssid and the password of a network. -/
structure Network where
  ssid : List Byte
  password : List Byte
  deriving DecidableEq, Repr

/-- A network, with the `arg` of each of its two fields. -/
def NetworkAt (memory : Memory) (a : Nat) (n : Network) : Prop :=
  StringAt memory (memory.word (a + 4)) n.ssid ∧ StringAt memory (memory.word (a + 12)) n.password

/-- The networks from `a` on. -/
def NetworksFrom (memory : Memory) : Nat → List Network → Prop
  | _, [] => True
  | a, n :: networks =>
    NetworkAt memory a n ∧ NetworksFrom memory (a + networkInfoSize) networks

/-- The `arg`s of a query. -/
structure Query where
  device : Nat
  stream : Nat
  message : Nat
  networks : PbArray

/-- What they stand for. -/
structure Content where
  device : List Byte
  stream : List Byte
  message : List Byte
  networks : List Network
  deriving DecidableEq, Repr

/-- **A query with this content.** -/
structure Carries (memory : Memory) (q : Query) (c : Content) : Prop where
  device : StringAt memory q.device c.device
  stream : StringAt memory q.stream c.stream
  message : DataAt memory q.message c.message
  length : q.networks.length = c.networks.length
  networks : NetworksFrom memory q.networks.buffer c.networks

/-! ## 3. The callbacks -/

section Encoders

variable (nb : Nanopb) (memory : Memory)

/-- nanopb's `pb_encode_string(stream, buffer, size)`. -/
def Nanopb.string (bytes : List Byte) : List Byte := nb.varint bytes.length ++ bytes

/-- `pb_encode_string`: what it writes, if the string ends. -/
def pbEncodeString (f : AppField) (arg : Nat) : Option (List Byte) :=
  if arg = 0 then some (nb.tag f ++ nb.string [])
  else (memory.strlen arg addressSpace).map fun n => nb.tag f ++ nb.string (memory.read arg n)

/-- `pb_encode_data`: what it writes. -/
def pbEncodeData (f : AppField) (arg : Nat) : List Byte :=
  if arg = 0 then []
  else
    let length := memory.word arg
    let ptr := memory.word (arg + 4)
    nb.tag f ++ (nb.varint length ++ if ptr ≠ 0 then memory.read ptr length else [])

/-- nanopb's `pb_encode_submessage`, of a network. -/
def pbEncodeNetworkInfo (ptr : Nat) : Option (List Byte) := do
  let ssid ← pbEncodeString nb memory .ssid (memory.word (ptr + 4))
  let password ← pbEncodeString nb memory .password (memory.word (ptr + 12))
  return nb.string (nb.encode .networkInfo fun
    | .ssid => ssid
    | .password => password
    | _ => [])

/-- The loop of `pb_encode_array`. -/
def pbEncodeItems (f : AppField) : Nat → Nat → Option (List Byte)
  | 0, _ => some []
  | n + 1, ptr => do
    let item ← pbEncodeNetworkInfo nb memory ptr
    let rest ← pbEncodeItems f n (ptr + networkInfoSize)
    return nb.tag f ++ item ++ rest

/-- `pb_encode_array`. -/
def pbEncodeArray (f : AppField) (array : PbArray) : Option (List Byte) :=
  pbEncodeItems nb memory f array.length array.buffer

/-- A field of the query that is a message itself. -/
def pbEncodeSubmessage (f : AppField) (m : AppMessage) (parts : AppField → List Byte) :
    List Byte :=
  nb.tag f ++ nb.string (nb.encode m parts)

/-- `pb_encode`, of a query whose fields have the callbacks of protobuf.cpp. -/
def encodeQuery (q : Query) : Option (List Byte) := do
  let device ← pbEncodeString nb memory .device q.device
  let stream ← pbEncodeString nb memory .stream q.stream
  let networks ← pbEncodeArray nb memory .networks q.networks
  return nb.encode .query fun
    | .identity => pbEncodeSubmessage nb .identity .identity fun
      | .device => device
      | .stream => stream
      | _ => []
    | .networkSettings => pbEncodeSubmessage nb .networkSettings .networkSettings fun
      | .networks => networks
      | _ => []
    | .module => pbEncodeSubmessage nb .module .module fun
      | .message => pbEncodeData nb memory .message q.message
      | _ => []
    | _ => []

end Encoders

/-! ## 4. What they write -/

section Writes

variable (nb : Nanopb) {memory : Memory}

/-- One field on the wire. -/
abbrev Nanopb.field (nb : Nanopb) : AppField → List Byte → List Byte := delimited nb.tag nb.varint

/-- **A string.** -/
theorem pbEncodeString_eq (f : AppField) {a : Nat} {text : List Byte}
    (h : StringAt memory a text) : pbEncodeString nb memory f a = some (nb.field f text) := by
  unfold pbEncodeString
  rcases h with ⟨rfl, rfl⟩ | ⟨hne, hstring, hlength⟩
  · rw [if_pos rfl]
    rfl
  · rw [if_neg hne, Memory.strlen_of_cstring hstring hlength, Option.map_some, hstring.text]
    rfl

/-- **A block of bytes.** -/
theorem pbEncodeData_eq (f : AppField) {a : Nat} {bytes : List Byte}
    (h : DataAt memory a bytes) : pbEncodeData nb memory f a = nb.field f bytes := by
  unfold pbEncodeData
  rw [if_neg h.nonnull]
  dsimp only
  rw [h.length]
  rcases h.bytes with ⟨hnull, rfl⟩ | ⟨hne, hread⟩
  · rw [if_neg (fun hne => hne hnull)]
    rfl
  · rw [if_pos hne, hread]
    rfl

/-- What a network writes, field by field. -/
def networkParts (n : Network) : AppField → List (List Byte)
  | .ssid => [n.ssid]
  | .password => [n.password]
  | _ => []

/-- A network as a message. -/
def networkBytes (nb : Nanopb) (n : Network) : List Byte :=
  nb.encode .networkInfo fun f => (networkParts n f).flatMap (nb.field f)

theorem pbEncodeNetworkInfo_eq {a : Nat} {n : Network} (h : NetworkAt memory a n) :
    pbEncodeNetworkInfo nb memory a = some (nb.string (networkBytes nb n)) := by
  unfold pbEncodeNetworkInfo
  rw [pbEncodeString_eq nb .ssid h.1, pbEncodeString_eq nb .password h.2]
  refine congrArg (fun parts => some (nb.string (nb.encode .networkInfo parts))) ?_
  funext f
  cases f with
  | ssid => exact (List.append_nil _).symm
  | password => exact (List.append_nil _).symm
  | _ => rfl

/-- **The networks**, one by one. -/
theorem pbEncodeItems_eq (f : AppField) {a : Nat} {networks : List Network}
    (h : NetworksFrom memory a networks) :
    pbEncodeItems nb memory f networks.length a =
      some ((networks.map (networkBytes nb)).flatMap (nb.field f)) := by
  induction networks generalizing a with
  | nil => rfl
  | cons n networks ih =>
      have hone := pbEncodeNetworkInfo_eq nb h.1
      rw [List.length_cons, pbEncodeItems, hone, ih h.2]
      rfl

theorem pbEncodeArray_eq (f : AppField) {array : PbArray} {networks : List Network}
    (hlength : array.length = networks.length)
    (h : NetworksFrom memory array.buffer networks) :
    pbEncodeArray nb memory f array =
      some ((networks.map (networkBytes nb)).flatMap (nb.field f)) := by
  unfold pbEncodeArray
  rw [hlength]
  exact pbEncodeItems_eq nb f h

/-- What the callbacks of a query write, field by field. -/
def leafParts (nb : Nanopb) (c : Content) : AppField → List (List Byte)
  | .device => [c.device]
  | .stream => [c.stream]
  | .message => [c.message]
  | .networks => c.networks.map (networkBytes nb)
  | _ => []

/-- The fields of one message inside a query. -/
def partsOf (nb : Nanopb) (c : Content) (m : AppMessage) (f : AppField) : List (List Byte) :=
  if f.parent = m then leafParts nb c f else []

/-- What the fields of a query write. -/
def queryParts (nb : Nanopb) (c : Content) (f : AppField) : List (List Byte) :=
  match f.submessage with
  | some m => [nb.encode m fun g => (partsOf nb c m g).flatMap (nb.field g)]
  | none => []

/-- A query as a message. -/
def queryBytes (nb : Nanopb) (c : Content) : List Byte :=
  nb.encode .query fun f => (queryParts nb c f).flatMap (nb.field f)

/-- **A query.** -/
theorem encodeQuery_eq {q : Query} {c : Content} (h : Carries memory q c) :
    encodeQuery nb memory q = some (queryBytes nb c) := by
  have harray := pbEncodeArray_eq nb .networks h.length h.networks
  unfold encodeQuery
  rw [pbEncodeString_eq nb .device h.device, pbEncodeString_eq nb .stream h.stream, harray,
    pbEncodeData_eq nb .message h.message]
  refine congrArg (fun parts => some (nb.encode .query parts)) ?_
  have hone : ∀ f bytes, ([bytes] : List (List Byte)).flatMap (nb.field f) = nb.field f bytes :=
    fun f bytes => List.append_nil _
  funext f
  cases f with
  | identity =>
      refine Eq.trans ?_ (hone .identity _).symm
      refine congrArg (fun parts => nb.tag .identity ++ nb.string (nb.encode .identity parts)) ?_
      funext g
      cases g with
      | device => exact (hone .device _).symm
      | stream => exact (hone .stream _).symm
      | _ => rfl
  | networkSettings =>
      refine Eq.trans ?_ (hone .networkSettings _).symm
      refine congrArg (fun parts => nb.tag .networkSettings ++
        nb.string (nb.encode .networkSettings parts)) ?_
      funext g
      cases g with
      | networks => rfl
      | _ => rfl
  | module =>
      refine Eq.trans ?_ (hone .module _).symm
      refine congrArg (fun parts => nb.tag .module ++ nb.string (nb.encode .module parts)) ?_
      funext g
      cases g with
      | message => exact (hone .message _).symm
      | _ => rfl
  | _ => rfl

end Writes

end FieldKit.InMemory

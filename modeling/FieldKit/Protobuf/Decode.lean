/-
  File:      FieldKit/Protobuf/Decode.lean
  Subject:   How messages from outside are decoded: the callbacks of protobuf.cpp and the
             `forDecode` of the three messages (module_messages.h, app_messages.cpp).

  A string or bytes field is decoded by a callback that nanopb calls once for every time the field
  occurs, with the `arg` of the field. Before decoding that `arg` is the `Pool` to take memory
  from; the callback puts the value there.

  nanopb is not part of the repository: a wire message is the list of what it finds there, in
  order, of the fields that have a callback.

  * `decodeMessage_holdsLast` -- what a message holds after decoding, field by field;
  * `live_iff` -- every callback finds a `Pool` exactly if no field it gets to occurs twice;
  * `etag_twice` -- a message with two etags.
-/
import Mathlib.Data.List.Basic
import Mathlib.Logic.Function.Basic
import FieldKit.Pool

namespace FieldKit.Protobuf

/-! ## 1. The callbacks -/

/-- What the `arg` of a field can point to. -/
inductive Arg where
  /-- Nothing. -/
  | null
  /-- The `Pool` that `forDecode` puts there. -/
  | pool
  /-- The string literal `""`. -/
  | literal
  /-- A string in the pool. -/
  | string (text : List Byte)
  /-- A `pb_data_t` in the pool. -/
  | data (bytes : List Byte)
  deriving DecidableEq, Repr

/-- One occurrence of a string or bytes field: what stands there, and whether the stream lets it
    be read to its end. -/
structure Value where
  bytes : List Byte
  readable : Bool := true
  deriving DecidableEq, Repr

/-- The pool, and what every callback so far has found in its `arg`, oldest first. -/
structure Heap where
  pool : Pool
  found : List Arg := []

/-- Why a message is not decoded to its end: a callback returned false, an assertion of the pool
    failed, or something that is not a `Pool` was used as one. -/
inductive Halt where
  | refused
  | asserted
  | wild
  deriving DecidableEq, Repr

/-- A part of the decoder. -/
abbrev Decoding (α : Type) := EStateM Halt Heap α

/-- A callback is entered. -/
def called (arg : Arg) : Decoding Unit := fun h =>
  .ok () { h with found := h.found ++ [arg] }

/-- `((Pool *)arg)->malloc(size)`. -/
def poolMalloc (arg : Arg) (size : Nat) : Decoding Unit := fun h =>
  match arg with
  | .pool =>
    match h.pool.malloc size with
    | some p => .ok () { h with pool := p }
    | none => .error .asserted h
  | _ => .error .wild h

/-- `pb_read`, of everything that stands there. -/
def pbRead (v : Value) : Decoding Unit := fun h =>
  if v.readable then .ok () h else .error .refused h

/-- `pb_decode_string`. -/
def pbDecodeString (v : Value) (arg : Arg) : Decoding Arg := do
  called arg
  if v.bytes.length = 0 then
    return .literal
  else
    poolMalloc arg (v.bytes.length + 1)
    pbRead v
    return .string v.bytes

/-- An empty string takes nothing from the pool. -/
theorem pbDecodeString_empty {v : Value} (hnil : v.bytes.length = 0) (arg : Arg) (h : Heap) :
    pbDecodeString v arg h = .ok .literal { h with found := h.found ++ [arg] } := by
  unfold pbDecodeString
  rw [if_pos hnil]
  rfl

theorem pbDecodeString_bytes {v : Value} (hnil : ¬ v.bytes.length = 0) (arg : Arg) (h : Heap) :
    pbDecodeString v arg h =
      (do poolMalloc arg (v.bytes.length + 1); pbRead v; return .string v.bytes :
        Decoding Arg) { h with found := h.found ++ [arg] } := by
  unfold pbDecodeString
  rw [if_neg hnil]
  rfl

/-- `sizeof(pb_data_t)`: a length and a pointer. -/
def pbDataSize : Nat := 8

/-- `pb_decode_data`, with `pb_data_allocate`. -/
def pbDecodeData (v : Value) (arg : Arg) : Decoding Arg := do
  called arg
  poolMalloc arg (pbDataSize + v.bytes.length)
  pbRead v
  return .data v.bytes

/-- The `funcs.decode` of a field. -/
inductive Callback where
  | string
  | data
  deriving DecidableEq, Repr

/-- The callback is called. -/
def Callback.call : Callback → Value → Arg → Decoding Arg
  | .string => pbDecodeString
  | .data => pbDecodeData

/-- The fields of one structure, as nanopb goes through them: the callback of each is called with
    the `arg` of the field. -/
def decodeFields {F : Type} [DecidableEq F] (callback : F → Callback) (args : F → Arg) :
    List (F × Value) → Decoding (F → Arg)
  | [] => pure args
  | (f, v) :: rest => do
    let arg ← (callback f).call v (args f)
    decodeFields callback (Function.update args f arg) rest

/-! ## 2. The messages -/

/-- The messages that come from outside. -/
inductive WireMessage where
  | ModuleQueryMessage
  | ModuleReplyMessage
  | AppQueryMessage
  deriving DecidableEq, Repr

/-- The string and bytes fields of `ModuleQueryMessage`. -/
inductive ModuleQueryField where
  | customMessage
  | dataChecksum
  | dataData
  | dataEtag
  deriving DecidableEq, Repr

/-- The string and bytes fields of `ModuleReplyMessage`. -/
inductive ModuleReplyField where
  | errorMessage
  | capabilitiesName
  | capabilitiesModule
  | capabilitiesFirmwareGit
  | capabilitiesFirmwareBuild
  | sensorCapabilitiesName
  | sensorCapabilitiesUnitOfMeasure
  | customMessage
  | firmwareActiveEtag
  | firmwarePendingEtag
  | firmwareGoodEtag
  deriving DecidableEq, Repr

/-- The string and bytes fields of `AppQueryMessage`. -/
inductive AppQueryField where
  | identityDevice
  | identityStream
  | moduleMessage
  deriving DecidableEq, Repr

/-- The fields of one network in `AppQueryMessage`. -/
inductive NetworkField where
  | ssid
  | password
  deriving DecidableEq, Repr

/-- The string and bytes fields of a message. -/
def WireMessage.Field : WireMessage → Type
  | .ModuleQueryMessage => ModuleQueryField
  | .ModuleReplyMessage => ModuleReplyField
  | .AppQueryMessage => AppQueryField

instance : (m : WireMessage) → DecidableEq m.Field
  | .ModuleQueryMessage => inferInstanceAs (DecidableEq ModuleQueryField)
  | .ModuleReplyMessage => inferInstanceAs (DecidableEq ModuleReplyField)
  | .AppQueryMessage => inferInstanceAs (DecidableEq AppQueryField)

/-- `ModuleQueryMessage::forDecode`, of the callbacks. -/
def ModuleQueryField.callback : ModuleQueryField → Callback
  | .customMessage => .data
  | .dataChecksum => .data
  | .dataData => .data
  | .dataEtag => .string

/-- `ModuleReplyMessage::forDecode`, of the callbacks. -/
def ModuleReplyField.callback : ModuleReplyField → Callback
  | .customMessage => .data
  | _ => .string

/-- `AppQueryMessage::forDecode`, of the callbacks. -/
def AppQueryField.callback : AppQueryField → Callback
  | .identityDevice => .string
  | .identityStream => .string
  | .moduleMessage => .data

/-- The callbacks of `pb_network_info_item_decode`. -/
def NetworkField.callback : NetworkField → Callback
  | .ssid => .string
  | .password => .string

/-- The callbacks of a message. -/
def WireMessage.callback : (m : WireMessage) → m.Field → Callback
  | .ModuleQueryMessage => ModuleQueryField.callback
  | .ModuleReplyMessage => ModuleReplyField.callback
  | .AppQueryMessage => AppQueryField.callback

/-- A network: the `arg` of each of its fields. -/
abbrev NetworkInfo := NetworkField → Arg

/-- A message: the `arg` of each string and bytes field, and what `networksArray` holds. -/
structure Message (m : WireMessage) where
  args : m.Field → Arg
  networks : List NetworkInfo := []

/-- `forDecode`, of the three messages. -/
def forDecode (m : WireMessage) : Message m where
  args _ := .pool
  networks := []

/-- What nanopb finds in a wire message: a string or bytes field, or, in an `AppQueryMessage`, a
    network with its own fields. -/
inductive Occurrence (m : WireMessage) where
  | value (f : m.Field) (v : Value)
  | network (h : m = .AppQueryMessage) (item : List (NetworkField × Value))

/-- `pb_network_info_item_decode`: the array is copied behind the new network. `itemSize` is
    `sizeof(fk_app_NetworkInfo)`. -/
def networkItemDecode (itemSize : Nat) (networks : List NetworkInfo)
    (item : List (NetworkField × Value)) : Decoding (List NetworkInfo) := do
  let info ← decodeFields NetworkField.callback (fun _ => .pool) item
  poolMalloc .pool (itemSize * (networks.length + 1))
  return networks ++ [info]

/-- One occurrence. -/
def decodeOccurrence {m : WireMessage} (itemSize : Nat) (msg : Message m) :
    Occurrence m → Decoding (Message m)
  | .value f v => do
    let arg ← (m.callback f).call v (msg.args f)
    return { msg with args := Function.update msg.args f arg }
  | .network _ item => do
    let networks ← networkItemDecode itemSize msg.networks item
    return { msg with networks := networks }

/-- `pb_decode`, over the occurrences. -/
def decode {m : WireMessage} (itemSize : Nat) (msg : Message m) :
    List (Occurrence m) → Decoding (Message m)
  | [] => pure msg
  | o :: rest => do
    let msg ← decodeOccurrence itemSize msg o
    decode itemSize msg rest

theorem decode_value {m : WireMessage} (itemSize : Nat) (msg : Message m) (f : m.Field)
    (v : Value) (rest : List (Occurrence m)) :
    decode itemSize msg (.value f v :: rest) = (m.callback f).call v (msg.args f) >>= fun arg =>
      decode itemSize { msg with args := Function.update msg.args f arg } rest := by
  simp only [decode, decodeOccurrence, bind_assoc, pure_bind]

theorem decode_network {m : WireMessage} (itemSize : Nat) (msg : Message m)
    (hm : m = .AppQueryMessage) (item : List (NetworkField × Value))
    (rest : List (Occurrence m)) :
    decode itemSize msg (.network hm item :: rest) =
      networkItemDecode itemSize msg.networks item >>= fun networks =>
        decode itemSize { msg with networks := networks } rest := by
  simp only [decode, decodeOccurrence, bind_assoc, pure_bind]

/-- A wire message is decoded with a pool. -/
def decodeMessage {m : WireMessage} (itemSize : Nat) (pool : Pool) (wire : List (Occurrence m)) :
    EStateM.Result Halt Heap (Message m) :=
  decode itemSize (forDecode m) wire { pool }

/-! ## 3. What one callback can do -/

/-- What a callback puts into the `arg` of its field. -/
def Callback.content : Callback → Value → Arg
  | .string, v => if v.bytes.length = 0 then .literal else .string v.bytes
  | .data, v => .data v.bytes

/-- What a callback that finds the pool leaves of it; `none` if it does not come to its end. -/
def Callback.room : Callback → Value → Pool → Option Pool
  | .string, v, p =>
    if v.bytes.length = 0 then some p
    else if v.readable then p.malloc (v.bytes.length + 1) else none
  | .data, v, p => if v.readable then p.malloc (pbDataSize + v.bytes.length) else none

/-- One part of the decoder after another. -/
theorem bind_run {α β : Type} (x : Decoding α) (f : α → Decoding β) (h : Heap) :
    (x >>= f) h =
      match x h with
      | .ok a h' => f a h'
      | .error e h' => .error e h' := by
  show EStateM.bind x f h = _
  unfold EStateM.bind
  cases x h <;> rfl

/-- What is decoded is not the pool. -/
theorem content_ne_pool (c : Callback) (v : Value) : c.content v ≠ .pool := by
  cases c with
  | string =>
      unfold Callback.content
      dsimp only
      split
      · exact Arg.noConfusion
      · exact Arg.noConfusion
  | data => exact Arg.noConfusion

/-- **What one call can do**: put the value there, or end the decoding. -/
inductive Called (c : Callback) (v : Value) (arg : Arg) (h : Heap) :
    EStateM.Result Halt Heap Arg → Prop where
  | done (p : Pool) (hroom : arg = .pool → c.room v h.pool = some p) :
      Called c v arg h (.ok (c.content v) { pool := p, found := h.found ++ [arg] })
  | halted (e : Halt) (p : Pool) (hroom : arg = .pool → c.room v h.pool = none) :
      Called c v arg h (.error e { pool := p, found := h.found ++ [arg] })

/-- Memory is taken and the value read into it. -/
theorem taken_called (c : Callback) (v : Value) (arg : Arg) (h : Heap) (size : Nat)
    (hroom : c.room v h.pool = if v.readable then h.pool.malloc size else none) (stored : Arg)
    (hstored : c.content v = stored) :
    Called c v arg h ((do poolMalloc arg size; pbRead v; return stored : Decoding Arg)
      { h with found := h.found ++ [arg] }) := by
  subst hstored
  rw [bind_run]
  unfold poolMalloc
  cases arg with
  | pool =>
      dsimp only
      cases hm : h.pool.malloc size with
      | none =>
          refine .halted .asserted h.pool fun _ => ?_
          rw [hroom, hm, ite_self]
      | some p =>
          dsimp only
          rw [bind_run, pbRead]
          by_cases hr : v.readable = true
          · rw [if_pos hr]
            refine .done p fun _ => ?_
            rw [hroom, if_pos hr, hm]
          · rw [if_neg hr]
            refine .halted .refused p fun _ => ?_
            rw [hroom, if_neg hr]
  | null => exact .halted .wild h.pool fun hp => Arg.noConfusion hp
  | literal => exact .halted .wild h.pool fun hp => Arg.noConfusion hp
  | string text => exact .halted .wild h.pool fun hp => Arg.noConfusion hp
  | data bytes => exact .halted .wild h.pool fun hp => Arg.noConfusion hp

theorem call_called (c : Callback) (v : Value) (arg : Arg) (h : Heap) :
    Called c v arg h (c.call v arg h) := by
  cases c with
  | string =>
      show Called .string v arg h (pbDecodeString v arg h)
      by_cases hnil : v.bytes.length = 0
      · have hcontent : Callback.string.content v = .literal := if_pos hnil
        rw [pbDecodeString_empty hnil, ← hcontent]
        exact .done h.pool fun _ => if_pos hnil
      · rw [pbDecodeString_bytes hnil]
        exact taken_called .string v arg h _ (if_neg hnil) _ (if_neg hnil)
  | data => exact taken_called .data v arg h _ rfl _ rfl

/-! ## 4. What a message holds after decoding -/

/-- The last occurrence of a field. -/
def lastOf {F : Type} [DecidableEq F] (f : F) : List (F × Value) → Option Value
  | [] => none
  | (g, v) :: rest => (lastOf f rest).or (if g = f then some v else none)

/-- The string and bytes fields of a wire message. -/
def values {m : WireMessage} (wire : List (Occurrence m)) : List (m.Field × Value) :=
  wire.filterMap fun
    | .value f v => some (f, v)
    | .network _ _ => none

/-- The networks of a wire message. -/
def items {m : WireMessage} (wire : List (Occurrence m)) : List (List (NetworkField × Value)) :=
  wire.filterMap fun
    | .value _ _ => none
    | .network _ item => some item

/-- What a field holds behind its occurrences: the last of them, or what it held before. -/
def held {F : Type} [DecidableEq F] (callback : F → Callback) (args : F → Arg)
    (fs : List (F × Value)) (f : F) : Arg :=
  ((lastOf f fs).map (callback f).content).getD (args f)

section Held

variable {F : Type} [DecidableEq F] {callback : F → Callback}

/-- One occurrence more in front. -/
theorem held_cons (args : F → Arg) (f : F) (v : Value) (rest : List (F × Value)) :
    held callback (Function.update args f ((callback f).content v)) rest =
      held callback args ((f, v) :: rest) := by
  funext g
  unfold held
  rw [lastOf]
  cases lastOf g rest with
  | some w => rfl
  | none =>
      by_cases hg : f = g
      · subst hg
        rw [Function.update_self, if_pos rfl]
        rfl
      · rw [Function.update_of_ne (Ne.symm hg), if_neg hg]
        rfl

/-- **The fields of one structure**, when they are decoded to their end. -/
theorem decodeFields_held {fs : List (F × Value)} {args r : F → Arg} {h h' : Heap}
    (hok : decodeFields callback args fs h = .ok r h') : r = held callback args fs := by
  induction fs generalizing args h with
  | nil =>
      cases hok
      rfl
  | cons p rest ih =>
      obtain ⟨f, v⟩ := p
      rw [decodeFields, bind_run] at hok
      have hcall := call_called (callback f) v (args f) h
      cases hcall' : (callback f).call v (args f) h with
      | error e h'' =>
          rw [hcall'] at hok
          cases hok
      | ok a h'' =>
          rw [hcall'] at hok hcall
          cases hcall
          rw [ih hok, held_cons]

end Held

/-- **What a message holds after decoding**: each field what its last occurrence says, or else
    what it held before; and each network its own fields, or else the pool. -/
theorem decode_held {m : WireMessage} {itemSize : Nat} {wire : List (Occurrence m)}
    {msg r : Message m} {h h' : Heap} (hok : decode itemSize msg wire h = .ok r h') :
    r.args = held m.callback msg.args (values wire) ∧
      r.networks = msg.networks ++
        (items wire).map (held NetworkField.callback fun _ => .pool) := by
  induction wire generalizing msg h with
  | nil =>
      cases hok
      exact ⟨rfl, (List.append_nil _).symm⟩
  | cons o rest ih =>
      rw [decode, bind_run] at hok
      cases o with
      | value f v =>
          rw [decodeOccurrence, bind_run] at hok
          have hcall := call_called (m.callback f) v (msg.args f) h
          cases hcall' : (m.callback f).call v (msg.args f) h with
          | error e h'' =>
              rw [hcall'] at hok
              cases hok
          | ok a h'' =>
              rw [hcall'] at hok hcall
              cases hcall
              obtain ⟨hargs, hnetworks⟩ := ih hok
              exact ⟨hargs.trans (held_cons _ _ _ _), hnetworks⟩
      | network hm item =>
          rw [decodeOccurrence, bind_run, networkItemDecode, bind_run] at hok
          cases hfields : decodeFields NetworkField.callback (fun _ => .pool) item h with
          | error e h'' =>
              rw [hfields] at hok
              cases hok
          | ok info h'' =>
              rw [hfields] at hok
              dsimp only at hok
              rw [bind_run, poolMalloc] at hok
              cases hm : h''.pool.malloc (itemSize * (msg.networks.length + 1)) with
              | none =>
                  rw [hm] at hok
                  cases hok
              | some p =>
                  rw [hm] at hok
                  obtain ⟨hargs, hnetworks⟩ := ih hok
                  refine ⟨hargs, hnetworks.trans ?_⟩
                  rw [decodeFields_held hfields]
                  exact List.append_assoc _ _ _

/-! ## 5. Where every callback finds its pool -/

/-- Every callback so far has found the pool. -/
def Live (h : Heap) : Prop := ∀ arg ∈ h.found, arg = .pool

/-- The memory at the end of a decoding, whatever its end. -/
def heapOf {α : Type} : EStateM.Result Halt Heap α → Heap
  | .ok _ h => h
  | .error _ h => h

/-- What the fields of one structure leave of a pool, each occurring once. -/
def roomFields {F : Type} (callback : F → Callback) :
    List (F × Value) → Pool → Option Pool
  | [], p => some p
  | (f, v) :: rest, p => ((callback f).room v p).bind (roomFields callback rest)

/-- What a network leaves of a pool, behind `n` others. -/
def roomItem (itemSize n : Nat) (item : List (NetworkField × Value)) (p : Pool) : Option Pool :=
  (roomFields NetworkField.callback item p).bind fun p' => p'.malloc (itemSize * (n + 1))

/-- Of the fields that are got to, as far as the pool lasts, none is among `seen` or occurs twice. -/
def OnceIn {F : Type} (callback : F → Callback) : Pool → List F → List (F × Value) → Prop
  | _, _, [] => True
  | p, seen, (f, v) :: rest =>
    f ∉ seen ∧ ∀ p', (callback f).room v p = some p' → OnceIn callback p' (f :: seen) rest

/-- **No field that is got to occurs twice**: no string or bytes field of the message itself, and
    none inside one of its networks. `n` networks and the fields `seen` have gone before. -/
def OnceEach {m : WireMessage} (itemSize : Nat) :
    Pool → Nat → List m.Field → List (Occurrence m) → Prop
  | _, _, _, [] => True
  | p, n, seen, .value f v :: rest =>
    f ∉ seen ∧
      ∀ p', (m.callback f).room v p = some p' → OnceEach itemSize p' n (f :: seen) rest
  | p, n, seen, .network _ item :: rest =>
    OnceIn NetworkField.callback p [] item ∧
      ∀ p', roomItem itemSize n item p = some p' → OnceEach itemSize p' (n + 1) seen rest

/-- A callback adds what it finds. -/
theorem Called.found {c : Callback} {v : Value} {arg : Arg} {h : Heap}
    {r : EStateM.Result Halt Heap Arg} (hcall : Called c v arg h r) :
    (heapOf r).found = h.found ++ [arg] := by
  cases hcall <;> rfl

/-- What is found is never forgotten. -/
def Grows {α : Type} (x : Decoding α) : Prop := ∀ h, h.found <+: (heapOf (x h)).found

theorem Grows.live {α : Type} {x : Decoding α} (hgrows : Grows x) {h : Heap}
    (hlive : Live (heapOf (x h))) : Live h :=
  fun arg harg => hlive arg ((hgrows h).subset harg)

theorem Grows.bind {α β : Type} {x : Decoding α} {rest : α → Decoding β} (hx : Grows x)
    (hrest : ∀ a, Grows (rest a)) : Grows (x >>= rest) := by
  intro h
  have hfirst := hx h
  rw [bind_run]
  cases hrun : x h with
  | error e h' =>
      rw [hrun] at hfirst
      exact hfirst
  | ok a h' =>
      rw [hrun] at hfirst
      exact hfirst.trans (hrest a h')

theorem grows_pure {α : Type} (a : α) : Grows (pure a) := fun _ => List.prefix_rfl

theorem grows_call (c : Callback) (v : Value) (arg : Arg) : Grows (c.call v arg) :=
  fun h => ⟨_, (call_called c v arg h).found.symm⟩

theorem grows_malloc (arg : Arg) (size : Nat) : Grows (poolMalloc arg size) := by
  intro h
  unfold poolMalloc
  cases arg with
  | pool =>
      dsimp only
      cases h.pool.malloc size with
      | none => exact List.prefix_rfl
      | some p => exact List.prefix_rfl
  | _ => exact List.prefix_rfl

/-- **A callback, and what comes after it**: the callback has to find the pool, and what comes
    after it, if it comes to its end, has what is left. -/
theorem call_live {α : Type} {c : Callback} {v : Value} {arg : Arg} {h : Heap} (hlive : Live h)
    {rest : Arg → Decoding α} (hgrows : ∀ a, Grows (rest a)) {P : Pool → Prop}
    (hrest : ∀ p found, arg = .pool → Live { pool := p, found } →
      (Live (heapOf (rest (c.content v) { pool := p, found })) ↔ P p)) :
    Live (heapOf ((c.call v arg >>= rest) h)) ↔
      arg = .pool ∧ ∀ p, c.room v h.pool = some p → P p := by
  have hall : Grows (c.call v arg >>= rest) := (grows_call c v arg).bind hgrows
  rw [bind_run]
  cases hrun : c.call v arg h with
  | error e h' =>
      have hcall := call_called c v arg h
      rw [hrun] at hcall
      cases hcall with
      | halted _ p hroom =>
          constructor
          · intro hl
            have harg : arg = .pool := hl arg (List.mem_append_right _ (List.mem_singleton_self _))
            refine ⟨harg, fun p' hp' => ?_⟩
            rw [hroom harg] at hp'
            cases hp'
          · rintro ⟨rfl, _⟩ a ha
            rcases List.mem_append.mp ha with ha | ha
            · exact hlive a ha
            · exact List.mem_singleton.mp ha
  | ok a h' =>
      have hcall := call_called c v arg h
      rw [hrun] at hcall
      cases hcall with
      | done p hroom =>
          have hfound : Live { pool := p, found := h.found ++ [arg] } ↔ arg = .pool := by
            constructor
            · exact fun hl => hl arg (List.mem_append_right _ (List.mem_singleton_self _))
            · rintro rfl a ha
              rcases List.mem_append.mp ha with ha | ha
              · exact hlive a ha
              · exact List.mem_singleton.mp ha
          constructor
          · intro hl
            have hlive' := (hgrows _).live hl
            have harg := hfound.mp hlive'
            refine ⟨harg, fun p' hp' => ?_⟩
            rw [hroom harg] at hp'
            cases hp'
            exact (hrest p _ harg hlive').mp hl
          · intro h
            obtain ⟨harg, hP⟩ := h
            exact (hrest p _ harg (hfound.mpr harg)).mpr (hP p (hroom harg))

section Fields

variable {F : Type} [DecidableEq F] {callback : F → Callback}

theorem grows_decodeFields (args : F → Arg) (fs : List (F × Value)) :
    Grows (decodeFields callback args fs) := by
  induction fs generalizing args with
  | nil => exact grows_pure args
  | cons p rest ih => exact (grows_call _ p.2 _).bind fun a => ih _

/-- The fields that have been seen are those whose `arg` is no longer the pool. -/
def Seen (args : F → Arg) (seen : List F) : Prop := ∀ f, args f = .pool ↔ f ∉ seen

theorem Seen.update {args : F → Arg} {seen : List F} (h : Seen args seen) (f : F) (v : Value) :
    Seen (Function.update args f ((callback f).content v)) (f :: seen) := by
  intro g
  rw [List.mem_cons, not_or]
  by_cases hg : g = f
  · subst hg
    rw [Function.update_self]
    exact ⟨fun hp => absurd hp (content_ne_pool _ v), fun hp => absurd rfl hp.1⟩
  · rw [Function.update_of_ne hg, h g]
    exact ⟨fun hp => ⟨hg, hp⟩, fun hp => hp.2⟩

/-- **The fields of one structure**: every callback finds the pool exactly if none that is got to
    occurs twice. -/
theorem decodeFields_live (callback : F → Callback) (fs : List (F × Value)) {args : F → Arg} {h : Heap} (hlive : Live h)
    {seen : List F} (hseen : Seen args seen) :
    Live (heapOf (decodeFields callback args fs h)) ↔ OnceIn callback h.pool seen fs := by
  induction fs generalizing args h seen with
  | nil => exact ⟨fun _ => trivial, fun _ => hlive⟩
  | cons p rest ih =>
      obtain ⟨f, v⟩ := p
      rw [decodeFields, OnceIn, ← hseen f]
      exact call_live hlive (fun a => grows_decodeFields _ rest)
        fun p found _ hlive' => ih hlive' (hseen.update f v)

/-- Then the pool alone tells where the decoding ends, and with what left. -/
theorem decodeFields_room (callback : F → Callback) (fs : List (F × Value)) {args : F → Arg} {h : Heap} {seen : List F}
    (hseen : Seen args seen) (honce : OnceIn callback h.pool seen fs) :
    roomFields callback fs h.pool =
      match decodeFields callback args fs h with
      | .ok _ h' => some h'.pool
      | .error _ _ => none := by
  induction fs generalizing args h seen with
  | nil => rfl
  | cons p rest ih =>
      obtain ⟨f, v⟩ := p
      have harg := (hseen f).mpr honce.1
      rw [decodeFields, bind_run, roomFields]
      have hcall := call_called (callback f) v (args f) h
      cases hrun : (callback f).call v (args f) h with
      | error e h' =>
          rw [hrun] at hcall
          cases hcall with
          | halted _ p hroom => rw [hroom harg, Option.bind_none]
      | ok a h' =>
          rw [hrun] at hcall
          cases hcall with
          | done p hroom =>
              rw [hroom harg, Option.bind_some]
              exact ih (h := { pool := p, found := _ }) (hseen.update f v)
                (honce.2 p (hroom harg))

end Fields

/-! ## 6. Messages -/

section Messages

variable (itemSize : Nat)

theorem grows_networkItemDecode (networks : List NetworkInfo)
    (item : List (NetworkField × Value)) :
    Grows (networkItemDecode itemSize networks item) :=
  (grows_decodeFields _ item).bind fun _ => (grows_malloc _ _).bind fun _ => grows_pure _

/-- How the decoding of a network ends. -/
theorem networkItemDecode_run (networks : List NetworkInfo) (item : List (NetworkField × Value))
    (h : Heap) :
    networkItemDecode itemSize networks item h =
      match decodeFields NetworkField.callback (fun _ => .pool) item h with
      | .error e h' => .error e h'
      | .ok info h' =>
        match h'.pool.malloc (itemSize * (networks.length + 1)) with
        | none => .error .asserted h'
        | some p => .ok (networks ++ [info]) { h' with pool := p } := by
  rw [networkItemDecode, bind_run]
  cases decodeFields NetworkField.callback (fun _ => .pool) item h with
  | error e h' => rfl
  | ok info h' =>
      dsimp only
      rw [bind_run]
      unfold poolMalloc
      cases h'.pool.malloc (itemSize * (networks.length + 1)) with
      | none => rfl
      | some p => rfl

/-- **A network, and what comes after it.** -/
theorem network_live {α : Type} {networks : List NetworkInfo}
    {item : List (NetworkField × Value)} {h : Heap} (hlive : Live h)
    {rest : List NetworkInfo → Decoding α} (hgrows : ∀ a, Grows (rest a)) {P : Pool → Prop}
    (hrest : ∀ info h', Live h' →
      (Live (heapOf (rest (networks ++ [info]) h')) ↔ P h'.pool)) :
    Live (heapOf ((networkItemDecode itemSize networks item >>= rest) h)) ↔
      OnceIn NetworkField.callback h.pool [] item ∧
        ∀ p, roomItem itemSize networks.length item h.pool = some p → P p := by
  have hseen : Seen (fun _ : NetworkField => Arg.pool) [] := fun f => by simp
  have hfields := decodeFields_live NetworkField.callback item hlive hseen
  have hroom := fun honce => decodeFields_room NetworkField.callback item (h := h) hseen honce
  rw [bind_run, networkItemDecode_run itemSize]
  unfold roomItem
  cases hrun : decodeFields NetworkField.callback (fun _ => .pool) item h with
  | error e h' =>
      rw [hrun] at hfields hroom
      refine hfields.trans ⟨fun honce => ⟨honce, fun p hp => ?_⟩, fun honce => honce.1⟩
      rw [hroom honce] at hp
      cases hp
  | ok info h' =>
      rw [hrun] at hfields hroom
      dsimp only at hfields hroom ⊢
      cases hm : h'.pool.malloc (itemSize * (networks.length + 1)) with
      | none =>
          refine hfields.trans ⟨fun honce => ⟨honce, fun p hp => ?_⟩, fun honce => honce.1⟩
          rw [hroom honce, Option.bind_some, hm] at hp
          cases hp
      | some p =>
          dsimp only
          constructor
          · intro hl
            have hlive' : Live { h' with pool := p } := (hgrows _).live hl
            have honce := hfields.mp hlive'
            refine ⟨honce, fun p' hp' => ?_⟩
            rw [hroom honce, Option.bind_some, hm] at hp'
            cases hp'
            exact (hrest info _ hlive').mp hl
          · intro h
            obtain ⟨honce, hP⟩ := h
            have hlive' : Live { h' with pool := p } := hfields.mpr honce
            refine (hrest info _ hlive').mpr (hP p ?_)
            rw [hroom honce, Option.bind_some, hm]

variable {m : WireMessage}

theorem grows_decodeOccurrence (msg : Message m) (o : Occurrence m) :
    Grows (decodeOccurrence itemSize msg o) := by
  cases o with
  | value f v => exact (grows_call _ v _).bind fun a => grows_pure _
  | network _ item => exact (grows_networkItemDecode itemSize _ item).bind fun a => grows_pure _

theorem grows_decode (msg : Message m) (wire : List (Occurrence m)) :
    Grows (decode itemSize msg wire) := by
  induction wire generalizing msg with
  | nil => exact grows_pure msg
  | cons o rest ih => exact (grows_decodeOccurrence itemSize msg o).bind fun a => ih a

/-- **A message**: every callback finds the pool exactly if no field that is got to occurs
    twice. -/
theorem decode_live (wire : List (Occurrence m)) {msg : Message m} {h : Heap} (hlive : Live h)
    {seen : List m.Field} (hseen : Seen msg.args seen) :
    Live (heapOf (decode itemSize msg wire h)) ↔
      OnceEach itemSize h.pool msg.networks.length seen wire := by
  induction wire generalizing msg h seen with
  | nil => exact ⟨fun _ => trivial, fun _ => hlive⟩
  | cons o rest ih =>
      cases o with
      | value f v =>
          rw [decode_value, OnceEach, ← hseen f]
          exact call_live hlive (fun a => grows_decode itemSize _ rest)
            fun p found _ hlive' => ih hlive' (hseen.update f v)
      | network hm item =>
          rw [decode_network, OnceEach]
          refine network_live itemSize hlive (fun a => grows_decode itemSize _ rest) fun info h' hlive' => ?_
          have hlength : (msg.networks ++ [info]).length = msg.networks.length + 1 :=
            List.length_append
          rw [← hlength]
          exact ih hlive' hseen

end Messages

/-- Every field that occurs holds the content of its last occurrence, and every network likewise. -/
structure HoldsLast {m : WireMessage} (wire : List (Occurrence m)) (r : Message m) : Prop where
  args : ∀ f v, lastOf f (values wire) = some v → r.args f = (m.callback f).content v
  networks : List.Forall₂
    (fun item info => ∀ f v, lastOf f item = some v → info f = (NetworkField.callback f).content v)
    (items wire) r.networks

theorem held_of_lastOf {F : Type} [DecidableEq F] {callback : F → Callback} {args : F → Arg}
    {fs : List (F × Value)} {f : F} {v : Value} (hlast : lastOf f fs = some v) :
    held callback args fs f = (callback f).content v := by
  unfold held
  rw [hlast]
  rfl

/-- What is decoded to its end holds what it should. -/
theorem decodeMessage_holdsLast {m : WireMessage} {itemSize : Nat} {pool : Pool}
    {wire : List (Occurrence m)} {r : Message m} {h : Heap}
    (hok : decodeMessage itemSize pool wire = .ok r h) : HoldsLast wire r := by
  obtain ⟨hargs, hnetworks⟩ := decode_held hok
  refine ⟨fun f v hlast => ?_, ?_⟩
  · rw [hargs, held_of_lastOf hlast]
  · rw [hnetworks]
    show List.Forall₂ _ (items wire) ((items wire).map _)
    rw [List.forall₂_map_right_iff, List.forall₂_same]
    exact fun item _ f v hlast => held_of_lastOf hlast

/-- **Every callback finds its pool, and every field ends with its last occurrence, exactly if no
    field that is got to occurs twice.** -/
theorem live_iff (m : WireMessage) (itemSize : Nat) (pool : Pool) (wire : List (Occurrence m)) :
    (Live (heapOf (decodeMessage itemSize pool wire)) ∧
      ∀ r h, decodeMessage itemSize pool wire = .ok r h → HoldsLast wire r) ↔
    OnceEach itemSize pool 0 [] wire := by
  have hseen : Seen (forDecode m).args [] := fun f => by simp [forDecode]
  have hempty : Live { pool } := fun _ harg => absurd harg List.not_mem_nil
  have hlive := decode_live itemSize wire hempty hseen
  exact ⟨fun h => hlive.mp h.1, fun h => ⟨hlive.mpr h, fun _ _ => decodeMessage_holdsLast⟩⟩

/-- A query with two etags. -/
def twoEtags : List (Occurrence .ModuleQueryMessage) :=
  [.value ModuleQueryField.dataEtag { bytes := [97] },
   .value ModuleQueryField.dataEtag { bytes := [98] }]

/-- The second callback takes the first etag for the pool. -/
theorem etag_twice : ¬ ∀ (m : WireMessage) (itemSize : Nat) (pool : Pool)
    (wire : List (Occurrence m)),
    Live (heapOf (decodeMessage itemSize pool wire)) ∧
      ∀ r h, decodeMessage itemSize pool wire = .ok r h → HoldsLast wire r := by
  intro hall
  have hfound : (heapOf (decodeMessage 16 (Pool.empty 64) twoEtags)).found =
      [.pool, .string [97]] := rfl
  have hlive := (hall _ 16 (Pool.empty 64) twoEtags).1 (.string [97])
  rw [hfound] at hlive
  exact Arg.noConfusion (hlive (by simp))

end FieldKit.Protobuf

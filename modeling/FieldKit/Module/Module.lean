/-
  File:      FieldKit/Module/Module.lean
  Subject:   A module: its bus callbacks (two_wire_child.cpp) and the states of its main loop
             (module_idle.cpp, module_servicer.cpp, module_receive_data.cpp).

  One step is one call of the current state's `task()`, or one bus callback; the long loop of
  `ModuleReceiveData::task` is taken one round at a time, since callbacks fire inside it. What the
  hardware decides in a step is part of the step's input. `none` is an access outside the tables
  or a failed assertion: the program has no next state there.

  * `Module.tick`, `Module.Ran` -- one tick of the main loop, and what it can do.
-/
import FieldKit.Checksums
import FieldKit.Lib.CString
import FieldKit.Lib.LittleEndian
import FieldKit.Firmware.Storage
import FieldKit.Module.Messages

namespace FieldKit

/-! ## 1. The state -/

/-- `SensorReadingStatus`. -/
inductive SensorReadingStatus where
  | Idle
  | Busy
  | Done
  deriving DecidableEq, Repr

/-- `SensorReading`. -/
structure SensorReading where
  time : BitVec 32 := 0
  value : BitVec 32 := 0
  status : SensorReadingStatus := .Idle
  deriving DecidableEq, Repr

/-- `SensorInfo`. -/
structure SensorInfo where
  name : Text
  unitOfMeasure : Text
  deriving DecidableEq, Repr

/-- `ModuleInfo`, of a module with `n` sensors; the readings, which change, are in `Module`. The
    last three are what the firmware knows of its own build. -/
structure ModuleInfo (n : Nat) where
  type : BitVec 8
  minimumNumberOfReadings : Nat
  name : Text
  module : Text
  sensors : Fin n → SensorInfo
  uptime : BitVec 8
  git : Text
  build : Text
  compiled : BitVec 32

/-- `TwoWireChild`: the two message buffers (empty at `pos == 0`) and the pipe of streamed data. -/
structure TwoWireChild (β : Type) where
  outgoing : List β := []
  incoming : List β := []
  pipe : Ring β := {}

/-- `ModuleCopySettings`; a null etag is the empty one. -/
structure ModuleCopySettings where
  bank : BitVec 32
  size : BitVec 32
  etag : Text := []
  deriving DecidableEq, Repr

/-- The variables of the loop in `ModuleReceiveData::task`: the open file, `received`, and the
    checksum of the writer. -/
structure ReceiveProgress where
  opened : BlockAddress
  received : BitVec 32
  crc : BitVec 32
  deriving DecidableEq, Repr

/-- `DataCopyStatus`. -/
structure DataCopyStatus where
  checksum : BitVec 32 := 0
  pending : BlockAddress := {}
  deriving DecidableEq, Repr

/-- The states of the main loop. `Readings` and `Message` are the sensor's own; `Receiving` is
    `ModuleReceiveData` inside its loop; a module that has `Rebooted` runs another program. -/
inductive ModuleState where
  | Idle
  | Servicer
  | Readings
  | Message
  | ReceiveData (settings : ModuleCopySettings)
  | Receiving (settings : ModuleCopySettings) (progress : ReceiveProgress)
  | FirmwareSelfFlash
  | Rebooted
  deriving DecidableEq, Repr

/-- `busy()`: only `ModuleIdle` overrides it. -/
def ModuleState.busy : ModuleState → Bool
  | .Idle => false
  | _ => true

/-- A module with `n` sensors. `number` and `elapsed` are `ModuleServicer::pending`. -/
structure Module (n : Nat) (β : Type) where
  info : ModuleInfo n
  current : ModuleState := .Idle
  child : TwoWireChild β := {}
  readings : Fin n → SensorReading := fun _ => {}
  number : BitVec 32 := 0
  elapsed : BitVec 32 := 0
  flash : Flash := {}
  dataCopyStatus : DataCopyStatus := {}

variable {n : Nat} {β : Type}

/-! ## 2. The bus callbacks -/

namespace TwoWireChild

/-- `receive(bytes)`: the message buffer is overwritten, and the pipe takes what it has room for. -/
def receive (bytes : List β) (room : Nat) (c : TwoWireChild β) : TwoWireChild β :=
  match bytes with
  | [] => c
  | b :: bs => { c with incoming := b :: bs, pipe := (c.pipe.write (b :: bs) room).2 }

/-- `reply()`: what goes out on the bus. -/
def reply (P : ModuleProtocol β) (busy : Bool) (c : TwoWireChild β) : List β × TwoWireChild β :=
  match c.outgoing with
  | [] => (P.encodeReply { type := if busy then .REPLY_BUSY else .REPLY_RETRY }, c)
  | b :: bs => (b :: bs, { c with outgoing := [] })

/-- `outgoing().write(reply)`; an encoding that fails leaves the buffer as it was. -/
def write (P : ModuleProtocol β) (r : ModuleReplyMessage) (c : TwoWireChild β) : TwoWireChild β :=
  match P.encodeReply r with
  | [] => c
  | b :: bs => { c with outgoing := b :: bs }

/-- `clear()`: the pipe. -/
def clear (c : TwoWireChild β) : TwoWireChild β := { c with pipe := Ring.clear }

end TwoWireChild

/-! ## 3. The servicer -/

/-- What the hardware decides while one query is handled: whether the sensor has a state for
    custom messages; what becomes of the flash in `reclaim` (addresses that make no sense, files
    that are gone) and `preallocate`; whether a save of the flash state succeeds. -/
structure Serving where
  hasMessage : Bool := false
  senseless : BlockAddress → Bool := fun _ => false
  unused : BlockAddress → Bool := fun _ => false
  reclaimed : Bool := true
  preallocated : Bool := true
  saved : Bool := true

/-- `SerialFlashFileSystem::reclaim`: addresses outside the geometry are forgotten, and files that
    no bank designates any more may go. -/
def Flash.reclaim (e : Serving) (fl : Flash) : Flash :=
  let banks := fun b => if e.senseless (fl.state.banks b) then {} else fl.state.banks b
  { fl with
    state := { fl.state with banks := banks }
    table :=
      { files := fun a =>
          if e.unused a ∧ ∀ b ∈ [FirmwareBank.Backup, .Pending, .Incoming, .Safe, .Reserved0,
            .Reserved1], banks b ≠ a then none else fl.table.files a
        invalid_missing := fun a ha => by simp [fl.table.invalid_missing a ha] } }

namespace ModuleServicer

/-- The loop over the sensors that answers `QUERY_READING_STATUS`: it stops at the first reading
    that is done, and marks it idle. -/
def readingStatus (elapsed : BitVec 32) : List (Fin n) → ModuleReplyMessage →
    (Fin n → SensorReading) → ModuleReplyMessage × (Fin n → SensorReading)
  | [], reply, readings => (reply, readings)
  | i :: is, reply, readings =>
    let reply :=
      -- the state of the reply is tested where it was to be set
      if (readings i).status = .Busy ∧ reply.readingStatus.state = .BUSY then
        { reply with readingStatus.state := .BUSY }
      else reply
    if (readings i).status = .Done then
      ({ reply with
          readingStatus := { reply.readingStatus with state := .DONE, elapsed := elapsed }
          sensorReading := { sensor := i, time := (readings i).time, value := (readings i).value } },
        Function.update readings i { readings i with status := .Idle })
    else readingStatus elapsed is reply readings

/-- What `QUERY_DATA_VERIFY` comes to before the bank is touched. -/
inductive Verified where
  | mismatch
  | wrongSize
  | commit (bank : FirmwareBank) (address : BlockAddress)
  deriving DecidableEq, Repr

/-- The checks of `QUERY_DATA_VERIFY`. -/
def verify (data : DataQuery) (m : Module n β) : Option Verified :=
  match uint32Of data.checksum with
  | none => none
  | some expectedChecksum =>
    if m.dataCopyStatus.checksum = expectedChecksum then
      if FirmwareStorage.verify m.dataCopyStatus.pending data.size m.flash then
        match FirmwareBank.ofNumber data.bank with
        | some bank => some (.commit bank m.dataCopyStatus.pending)
        | none => none
      else some .wrongSize
    else some .mismatch

/-- The reply is written to the outgoing buffer. -/
def write (P : ModuleProtocol β) (r : ModuleReplyMessage) (m : Module n β) : Module n β :=
  { m with child := m.child.write P r }

/-- What `QUERY_FIRMWARE` is told of a bank. A tag without its zero is read on behind the header; here
    it ends with the header. -/
def firmwareImage (bank : FirmwareBank) (fl : Flash) : FirmwareImage :=
  let (found, header) := FirmwareStorage.header bank fl
  if found then
    { etag := (Lib.ctext (header.drop 76)).getD (header.drop 76)
      size := BitVec.ofNat 32 (Lib.ofLE ((header.drop 8).take 4)) }
  else {}

/-- `handle(query)`, the transition it makes included. -/
def handle (P : ModuleProtocol β) (e : Serving) (query : ModuleQueryMessage) (m : Module n β) :
    Option (Module n β) :=
  let m := { m with child := m.child.clear }
  match query.type with
  | .QUERY_CAPABILITIES =>
    some (write P
      { type := .REPLY_CAPABILITIES
        capabilities :=
          { version := P.version, type := m.info.type, name := m.info.name,
            module := m.info.module, numberOfSensors := n,
            minimumNumberOfReadings := m.info.minimumNumberOfReadings, git := m.info.git,
            build := m.info.build, compiled := m.info.compiled, requiredUptime := m.info.uptime } }
      { m with current := .Idle })
  | .QUERY_SENSOR_CAPABILITIES =>
    if h : query.sensor.toNat < n then
      let sensor := m.info.sensors ⟨query.sensor.toNat, h⟩
      some (write P
        { type := .REPLY_SENSOR_CAPABILITIES
          sensorCapabilities := { id := query.sensor.toNat, name := sensor.name,
                                  unitOfMeasure := sensor.unitOfMeasure } }
        { m with current := .Idle })
    else none
  | .QUERY_BEGIN_TAKE_READINGS =>
    some (write P
      { type := .REPLY_READING_STATUS, readingStatus := { state := .BEGIN, backoff := 1000 } }
      { m with
        readings := fun i => { m.readings i with status := .Busy }
        number := query.beginTakeReadings.number
        elapsed := 0
        current := .Readings })
  | .QUERY_READING_STATUS =>
    let (reply, readings) := readingStatus m.elapsed (List.finRange n)
      { type := .REPLY_READING_STATUS, readingStatus := { state := .IDLE, backoff := 1000 } }
      m.readings
    some (write P reply { m with readings := readings, current := .Idle })
  | .QUERY_CUSTOM =>
    if e.hasMessage then some { m with current := .Message }
    else some (write P { type := .REPLY_ERROR } { m with current := .Idle })
  | .QUERY_DATA_PREPARE =>
    let m := { m with flash := m.flash.reclaim e }
    if e.reclaimed ∧ e.preallocated then
      some (write P { type := .REPLY_DATA }
        { m with current := .ReceiveData { bank := query.data.bank, size := query.data.size } })
    else some (write P { type := .REPLY_ERROR } { m with current := .Idle })
  | .QUERY_DATA_VERIFY =>
    match verify query.data m with
    | none => none
    | some (.commit bank address) =>
      let updated := FirmwareStorage.update bank address e.saved m.flash
      if updated.1 then
        some (write P { type := .REPLY_SUCCESS }
          { m with flash := updated.2, current := .FirmwareSelfFlash })
      else some (write P { type := .REPLY_ERROR } { m with flash := updated.2, current := .Idle })
    | some _ => some (write P { type := .REPLY_ERROR } { m with current := .Idle })
  | .QUERY_DATA_APPEND => some (write P { type := .REPLY_DATA } { m with current := .Idle })
  | .QUERY_DATA_CLEAR => some (write P { type := .REPLY_DATA } { m with current := .Idle })
  | .QUERY_FIRMWARE =>
    some (write P
      { type := .REPLY_FIRMWARE
        firmware := { pending := firmwareImage .Pending m.flash, good := firmwareImage .Safe m.flash } }
      { m with current := .Idle })
  | .QUERY_BEGIN_TRANSMISSION =>
    some (write P { type := .REPLY_TRANSMISSION_STATUS } { m with current := .Idle })
  | .QUERY_TRANSMISSION_STATUS =>
    some (write P { type := .REPLY_TRANSMISSION_STATUS } { m with current := .Idle })
  | .other _ => some (write P { type := .REPLY_ERROR } { m with current := .Idle })

/-- `task()`: a message that is waiting is read, a reply that is still there is dropped. -/
def task (P : ModuleProtocol β) (e : Serving) (m : Module n β) : Option (Module n β) :=
  match m.child.incoming with
  | [] => some m
  | b :: bs =>
    match P.decodeQuery (b :: bs) with
    | none => some { m with child := { m.child with incoming := [] }, current := .Idle }
    | some query =>
      handle P e query { m with child := { m.child with incoming := [], outgoing := [] } }

end ModuleServicer

/-! ## 4. The other states -/

/-- `ModuleIdleRebootInterval`. -/
def moduleIdleRebootInterval : Uptime := 120 * minutes

/-- `ModuleIdle::task()`; `elapsed` since the state was entered. -/
def ModuleIdle.task (elapsed : Uptime) (m : Module n β) : Module n β :=
  if moduleIdleRebootInterval < elapsed then { m with current := .Rebooted }
  else if m.child.incoming.isEmpty then m
  else { m with current := .Servicer }

/-- `PendingReadings::done(i, value)` at `time`, as the sensor's readings state calls it. -/
def PendingReadings.done (i : Fin n) (time value : BitVec 32) (m : Module n β) : Module n β :=
  { m with readings := Function.update m.readings i { time, value, status := .Done } }

/-- `FileCopyBufferSize`. -/
def fileCopyBufferSize : Nat := 256

/-- `TwoWireStreamingTimeout`. -/
def twoWireStreamingTimeout : Uptime := 3 * 1000

/-- What the hardware decides in one round of the receiving loop: the time since the last mark,
    how much the pipe hands over and the file takes, and how many blocks that adds. -/
structure Round where
  elapsed : Uptime := 0
  offered : Nat := fileCopyBufferSize
  accepted : Nat := fileCopyBufferSize
  grown : Nat := 0

namespace ModuleReceiveData

/-- The beginning of `task()`: a new file is formatted at a free address, and what was known of an
    earlier one is forgotten. -/
def begin (address : BlockAddress) (settings : ModuleCopySettings) (m : Module n β) :
    Option (Module n β) :=
  if h : address.valid = true ∧ m.flash.table.exist address = false then
    some { m with
      flash := { m.flash with table := m.flash.table.put address h.1 { formatted := Nat.one_pos } }
      dataCopyStatus := {}
      child := m.child.clear
      current := .Receiving settings
        { opened := address, received := 0, crc := BitVec.allOnes 32 } }
  else none

/-- The end of `task()`: the file is kept if the count and the size on the flash are right. -/
def finish (settings : ModuleCopySettings) (p : ReceiveProgress) (m : Module n β) : Module n β :=
  let child := { m.child with incoming := [], outgoing := [] }
  if p.received = settings.size ∧ FirmwareStorage.verify p.opened settings.size m.flash then
    { m with
      dataCopyStatus := { checksum := p.crc, pending := p.opened }
      child := child
      current := .Idle }
  else
    { m with flash := FirmwareStorage.erase p.opened m.flash, child := child, current := .Idle }

/-- The write of one round, on a flash that holds at most `capacity` bytes in a file: a prefix is
    appended, and the checksum runs over that prefix. -/
def store (capacity : Nat) (r : Round) (bytes : List Byte) (p : ReceiveProgress) (fl : Flash) :
    BitVec 32 × Flash :=
  match h : fl.table.files p.opened with
  | none => (p.crc, fl)
  | some f =>
    let taken := bytes.take (min r.accepted (capacity - f.content.length))
    (taken.foldl crc32Update p.crc,
      { fl with
        table := fl.table.put p.opened
          (by
            by_contra hv
            rw [Bool.not_eq_true] at hv
            exact absurd (h.symm.trans (fl.table.invalid_missing _ hv)) (by simp))
          { content := f.content ++ taken, blocks := f.blocks + r.grown,
            formatted := Nat.add_pos_left f.formatted _ } })

/-- What the loop reads next; `none` is where it is left: enough received, nothing for too long,
    or EOS. -/
def next (r : Round) (settings : ModuleCopySettings) (p : ReceiveProgress) (m : Module n β) :
    Option (List β) × Ring β :=
  if p.received < settings.size ∧ ¬ twoWireStreamingTimeout < r.elapsed then
    m.child.pipe.read fileCopyBufferSize r.offered
  else (none, m.child.pipe)

/-- One round of the loop, or its end. -/
def round (P : ModuleProtocol β) (capacity : Nat) (r : Round) (settings : ModuleCopySettings)
    (p : ReceiveProgress) (m : Module n β) : Module n β :=
  match next r settings p m with
  | (none, pipe) => finish settings p { m with child.pipe := pipe }
  | (some [], pipe) => { m with child.pipe := pipe }
  | (some (b :: bs), pipe) =>
    let bytes := P.raw (b :: bs)
    let (crc, flash) := store capacity r bytes p m.flash
    { m with
      child.pipe := pipe
      flash := flash
      current := .Receiving settings
        { p with received := p.received + BitVec.ofNat 32 bytes.length, crc := crc } }

end ModuleReceiveData

/-! ## 5. One step -/

/-- One call of the current state's `task()`. `measured` and `left` are the sensor's readings
    state: each reading is marked done once, and the state is left when none is missing. -/
inductive Tick (n : Nat) where
  | idle (elapsed : Uptime)
  | serve (e : Serving)
  | measured (i : Fin n) (time value : BitVec 32)
  | left
  | message
  | open (address : BlockAddress)
  | data (r : Round)
  | selfFlash

/-- The main loop. A tick that is not the current state's is refused. -/
def Module.tick (P : ModuleProtocol β) (capacity : Nat) (m : Module n β) :
    Tick n → Option (Module n β)
  | .idle elapsed => if m.current = .Idle then some (ModuleIdle.task elapsed m) else none
  | .serve e => if m.current = .Servicer then ModuleServicer.task P e m else none
  | .measured i time value =>
    if m.current = .Readings ∧ (m.readings i).status = .Busy then
      some (PendingReadings.done i time value m)
    else none
  | .left =>
    if m.current = .Readings ∧ ∀ i, (m.readings i).status ≠ .Busy then
      some { m with current := .Idle }
    else none
  | .message => if m.current = .Message then some { m with current := .Idle } else none
  | .open address =>
    match m.current with
    | .ReceiveData settings => ModuleReceiveData.begin address settings m
    | _ => none
  | .data r =>
    match m.current with
    | .Receiving settings p => some (ModuleReceiveData.round P capacity r settings p m)
    | _ => none
  | .selfFlash =>
    if m.current = .FirmwareSelfFlash then some { m with current := .Rebooted } else none

/-- **What one tick can do**, one constructor for each state of the main loop; idling, the module
    reboots, waits, or goes to the servicer. -/
inductive Module.Ran (P : ModuleProtocol β) (capacity : Nat) (m : Module n β) :
    Tick n → Module n β → Prop where
  | rebooted {elapsed : Uptime} (hcur : m.current = .Idle)
      (hlate : moduleIdleRebootInterval < elapsed) :
      Ran P capacity m (.idle elapsed) { m with current := .Rebooted }
  | waited {elapsed : Uptime} (hcur : m.current = .Idle)
      (hsoon : ¬ moduleIdleRebootInterval < elapsed) : Ran P capacity m (.idle elapsed) m
  | woken {elapsed : Uptime} (hcur : m.current = .Idle)
      (hsoon : ¬ moduleIdleRebootInterval < elapsed) :
      Ran P capacity m (.idle elapsed) { m with current := .Servicer }
  | served {e : Serving} {m' : Module n β} (hcur : m.current = .Servicer)
      (htask : ModuleServicer.task P e m = some m') : Ran P capacity m (.serve e) m'
  | measured (i : Fin n) (time value : BitVec 32) (hcur : m.current = .Readings)
      (hbusy : (m.readings i).status = .Busy) :
      Ran P capacity m (.measured i time value) (PendingReadings.done i time value m)
  | left (hcur : m.current = .Readings) (hall : ∀ i, (m.readings i).status ≠ .Busy) :
      Ran P capacity m .left { m with current := .Idle }
  | messaged (hcur : m.current = .Message) :
      Ran P capacity m .message { m with current := .Idle }
  | opened {settings : ModuleCopySettings} {address : BlockAddress} {m' : Module n β}
      (hcur : m.current = .ReceiveData settings)
      (hbegin : ModuleReceiveData.begin address settings m = some m') :
      Ran P capacity m (.open address) m'
  | received {settings : ModuleCopySettings} {p : ReceiveProgress} (r : Round)
      (hcur : m.current = .Receiving settings p) :
      Ran P capacity m (.data r) (ModuleReceiveData.round P capacity r settings p m)
  | flashed (hcur : m.current = .FirmwareSelfFlash) :
      Ran P capacity m .selfFlash { m with current := .Rebooted }

/-- **Every tick is one of these.** -/
theorem Module.tick_ran {P : ModuleProtocol β} {capacity : Nat} {m m' : Module n β} {t : Tick n}
    (h : m.tick P capacity t = some m') : Module.Ran P capacity m t m' := by
  cases t with
  | idle elapsed =>
      simp only [Module.tick] at h
      split at h
      · next hcur =>
          cases h
          unfold ModuleIdle.task
          split
          · next hlate => exact .rebooted hcur hlate
          · next hsoon =>
              split
              · exact .waited hcur hsoon
              · exact .woken hcur hsoon
      · cases h
  | serve e =>
      simp only [Module.tick] at h
      split at h
      · next hcur => exact .served hcur h
      · cases h
  | measured i time value =>
      simp only [Module.tick] at h
      split at h
      · next hcur =>
          cases h
          exact .measured i time value hcur.1 hcur.2
      · cases h
  | left =>
      simp only [Module.tick] at h
      split at h
      · next hcur =>
          cases h
          exact .left hcur.1 hcur.2
      · cases h
  | message =>
      simp only [Module.tick] at h
      split at h
      · next hcur =>
          cases h
          exact .messaged hcur
      · cases h
  | «open» address =>
      simp only [Module.tick] at h
      split at h
      · next hcur => exact .opened hcur h
      · cases h
  | data r =>
      simp only [Module.tick] at h
      split at h
      · next hcur =>
          cases h
          exact .received r hcur
      · cases h
  | selfFlash =>
      simp only [Module.tick] at h
      split at h
      · next hcur =>
          cases h
          exact .flashed hcur
      · cases h

end FieldKit

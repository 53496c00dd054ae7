/-
  File:      FieldKit/Core/State.lean
  Subject:   `CoreState` and the state it persists (core_state.cpp, flash_state.h,
             network_settings.h, flash_storage.h).

  The configuration is held three times: in the fields of `CoreState`, in the copy of the super
  block that the flash state keeps in memory (`storage_->state()`), and on the flash.
-/
import FieldKit.Platform

namespace FieldKit

/-! ## 1. What is persisted -/

/-- `DeviceIdentity`. The default constructor ends both strings at once; the bytes behind them are
    left as zeros here. -/
structure DeviceIdentity where
  device : Vector Byte 41 := Vector.replicate 41 0
  stream : Vector Byte 9 := Vector.replicate 9 0
  deriving DecidableEq

/-- `NetworkInfo`. -/
structure NetworkInfo where
  ssid : Vector Byte 33 := Vector.replicate 33 0
  password : Vector Byte 33 := Vector.replicate 33 0
  deriving DecidableEq

/-- `NetworkSettings`. -/
structure NetworkSettings where
  createAccessPoint : Bool := true
  version : BitVec 32 := 0
  networks : Vector NetworkInfo 2 := Vector.replicate 2 {}
  deriving DecidableEq

/-- `DeviceLocation`; the coordinates hold the bits of floats. -/
structure DeviceLocation where
  valid : BitVec 32 := 0
  time : BitVec 32 := 0
  coordinates : Vector (BitVec 32) 3 := Vector.replicate 3 0
  deriving DecidableEq

/-- `PersistedState`; the firmware banks are not the core state's. -/
structure PersistedState where
  time : BitVec 32 := 0
  deviceIdentity : DeviceIdentity := {}
  networkSettings : NetworkSettings := {}
  location : DeviceLocation := {}
  readingNumber : BitVec 32 := 0
  deriving DecidableEq

/-- `FlashState<PersistedState>`: the copy in memory, and the flash. -/
structure FlashState where
  state : PersistedState := {}
  flash : PersistedState := {}
  deriving DecidableEq

namespace FlashState

/-- `save()`, with its outcome. -/
def save (ok : Bool) (st : FlashState) : FlashState :=
  if ok then { st with flash := st.state } else st

/-- `erase()`: a default-constructed state is created and located. -/
def erase (ok : Bool) (st : FlashState) : FlashState := if ok then {} else st

/-- `initialize()` after a reset: the state on the flash is located. -/
def locate (st : FlashState) : FlashState := { st with state := st.flash }

end FlashState

/-! ## 2. The core state -/

/-- `CoreState`, as far as it is persisted, with its storage. -/
structure CoreState where
  deviceIdentity : DeviceIdentity := {}
  networkSettings : NetworkSettings := {}
  location : DeviceLocation := {}
  readingNumber : BitVec 32 := 0
  storage : FlashState := {}
  deriving DecidableEq

namespace CoreState

/-- `copyFrom(state)`. -/
def copyFrom (state : PersistedState) (c : CoreState) : CoreState :=
  { c with
    deviceIdentity := state.deviceIdentity
    networkSettings := state.networkSettings
    location := state.location
    readingNumber := state.readingNumber }

/-- `copyTo(state)`. -/
def copyTo (state : PersistedState) (c : CoreState) : PersistedState :=
  { state with
    deviceIdentity := c.deviceIdentity
    networkSettings := c.networkSettings
    location := c.location
    readingNumber := c.readingNumber }

/-- `started()`: a state that was never saved is a clean slate, any other is loaded. -/
def started (c : CoreState) : CoreState :=
  if c.storage.state.time = 0 then
    { c with storage := { c.storage with state := c.copyTo c.storage.state } }
  else c.copyFrom c.storage.state

/-- `save()`, at `now`. -/
def save (now : BitVec 32) (ok : Bool) (c : CoreState) : CoreState :=
  { c with
    storage := { c.storage with state := { c.copyTo c.storage.state with time := now } }.save ok }

/-- `updateLocation(fix)`. -/
def updateLocation (fix : DeviceLocation) (now : BitVec 32) (ok : Bool) (c : CoreState) :
    CoreState :=
  { c with location := fix }.save now ok

/-- `configure(identity)`. -/
def configureIdentity (newIdentity : DeviceIdentity) (now : BitVec 32) (ok : Bool)
    (c : CoreState) : CoreState :=
  { c with deviceIdentity := newIdentity }.save now ok

/-- `configure(settings)`, at `uptime`. -/
def configureNetwork (newSettings : NetworkSettings) (uptime now : BitVec 32) (ok : Bool)
    (c : CoreState) : CoreState :=
  { c with networkSettings := { newSettings with version := uptime } }.save now ok

/-- `takingReadings()`: a `uint32_t` is incremented. -/
def takingReadings (c : CoreState) : CoreState := { c with readingNumber := c.readingNumber + 1 }

/-- `formatAll()`. -/
def formatAll (ok : Bool) (c : CoreState) : CoreState :=
  { c with storage := c.storage.erase ok }

/-- A reset of the processor at any point: the flash state is located, a new `CoreState` is
    constructed, and `started()` is called. -/
def reboot (c : CoreState) : CoreState := started { storage := c.storage.locate }

/-- `QUERY_RESET`: `DataReplies::eraseAll`, which starts the core state again if the files could
    be erased, and then `formatAll`. -/
def reset (filesErased formatted : Bool) (c : CoreState) : CoreState :=
  (if filesErased then c.started else c).formatAll formatted

end CoreState

end FieldKit

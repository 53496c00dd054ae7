/-
  File:      FieldKit/Core/StoredNames.lean
  Subject:   The names that the app sends and the device keeps (flash_state.h, network_settings.h,
             app_servicer.cpp).

  Names are copied into arrays of fixed size by `strncpy` and read again as strings. A reply reads
  them out of a copy of the whole struct, so that a name that does not end in its array goes on in
  the next one, and at last in whatever is `beyond` the struct.

  * `names_kept_iff` -- the names are kept exactly if every one is shorter than its array;
  * `device_unended` -- one that is as long.
-/
import FieldKit.Core.State
import FieldKit.Lib.CString

namespace FieldKit

open Lib

/-! ## 1. Copies -/

/-- `strncpy` into an array. -/
def nameArray (n : Nat) (name : List Byte) : Vector Byte n :=
  ⟨(strncpy n name).toArray, by rw [List.size_toArray, length_strncpy]⟩

@[simp] theorem toList_nameArray (n : Nat) (name : List Byte) :
    (nameArray n name).toList = strncpy n name := rfl

namespace DeviceIdentity

/-- `DeviceIdentity(d, s)`. -/
def ofNames (d s : List Byte) : DeviceIdentity :=
  { device := nameArray 41 d, stream := nameArray 9 s }

/-- The memory from `device` on. -/
def bytes (identity : DeviceIdentity) : List Byte :=
  identity.device.toList ++ identity.stream.toList

end DeviceIdentity

namespace NetworkInfo

/-- `NetworkInfo(_ssid, _password)`. -/
def ofNames (ssid password : List Byte) : NetworkInfo :=
  { ssid := nameArray 33 ssid, password := nameArray 33 password }

/-- The memory from `ssid` on. -/
def bytes (info : NetworkInfo) : List Byte := info.ssid.toList ++ info.password.toList

end NetworkInfo

/-- The memory from a network on, to the end of the settings. -/
def NetworkSettings.bytesFrom (settings : NetworkSettings) (i : Nat) : List Byte :=
  (settings.networks.toList.drop i).flatMap NetworkInfo.bytes

/-! ## 2. The servicer -/

namespace AppServicer

/-- A network as the app sends it: its name, and its password. -/
abbrev Network := List Byte × List Byte

/-- `configureIdentity()`. -/
def configureIdentity (device stream : List Byte) (now : BitVec 32) (ok : Bool) (c : CoreState) :
    CoreState :=
  c.configureIdentity (DeviceIdentity.ofNames device stream) now ok

/-- The settings that `configureNetworkSettings` makes of the old ones: networks that the app did
    not send are cleared, and those for which there is no place are dropped. -/
def newSettings (createAccessPoint : Bool) (networks : List Network) (settings : NetworkSettings) :
    NetworkSettings :=
  { settings with
    createAccessPoint
    networks := Vector.ofFn fun i =>
      match networks[i.val]? with
      | some (ssid, password) => NetworkInfo.ofNames ssid password
      | none => {} }

/-- `configureNetworkSettings()`. -/
def configureNetworkSettings (createAccessPoint : Bool) (networks : List Network)
    (uptime now : BitVec 32) (ok : Bool) (c : CoreState) : CoreState :=
  c.configureNetwork (newSettings createAccessPoint networks c.networkSettings) uptime now ok

/-- `identityReply()`: the two names that are encoded. -/
def identityReply (beyond : List Byte) (c : CoreState) : Option (List Byte) × Option (List Byte) :=
  (ctext (c.deviceIdentity.bytes ++ beyond),
    ctext (c.deviceIdentity.stream.toList ++ beyond))

/-- `networkSettingsReply()`: the two names of a network. -/
def networkSettingsReply (beyond : List Byte) (c : CoreState) (i : Nat) :
    Option (List Byte) × Option (List Byte) :=
  (ctext (c.networkSettings.bytesFrom i ++ beyond),
    ctext ((c.networkSettings.bytesFrom i).drop 33 ++ beyond))

/-! ## 3. The property and its condition -/

/-- What the app sends. The names are strings. -/
structure Names where
  device : List Byte
  stream : List Byte
  createAccessPoint : Bool
  networks : List Network
  strings : 0 ∉ device ∧ 0 ∉ stream
  networkStrings : ∀ p ∈ networks, 0 ∉ p.1 ∧ 0 ∉ p.2

/-- The network with this number; one that is not sent has empty names. -/
def Names.network (n : Names) (i : Nat) : Network := n.networks.getD i ([], [])

/-- **The names are in their arrays**, ended, and cut to leave room for the end. -/
structure Stored (n : Names) (identity : DeviceIdentity) (settings : NetworkSettings) : Prop where
  device : ctext identity.device.toList = some (n.device.take 40)
  stream : ctext identity.stream.toList = some (n.stream.take 8)
  networks : ∀ i : Fin 2,
    ctext settings.networks[i].ssid.toList = some ((n.network i).1.take 32) ∧
      ctext settings.networks[i].password.toList = some ((n.network i).2.take 32)

/-- **The replies return them.** -/
structure Replied (n : Names) (c : CoreState) : Prop where
  identity : ∀ beyond,
    identityReply beyond c = (some (n.device.take 40), some (n.stream.take 8))
  networks : ∀ beyond (i : Fin 2), networkSettingsReply beyond c i =
    (some ((n.network i).1.take 32), some ((n.network i).2.take 32))

/-- Both, in the core state and in what is persisted. -/
structure Kept (n : Names) (c : CoreState) : Prop where
  core : Stored n c.deviceIdentity c.networkSettings
  persisted : Stored n c.storage.state.deviceIdentity c.storage.state.networkSettings
  replied : Replied n c

/-- **Every name is shorter than its array.** -/
structure Fits (n : Names) : Prop where
  device : n.device.length < 41
  stream : n.stream.length < 9
  networks : ∀ i : Fin 2, (n.network i).1.length < 33 ∧ (n.network i).2.length < 33

/-- One save: the time it is made at, and its outcome. -/
structure Save where
  now : BitVec 32
  ok : Bool

/-- The app configures both, in either order. -/
def configure (identityFirst : Bool) (n : Names) (uptime : BitVec 32) (first second : Save)
    (c : CoreState) : CoreState :=
  if identityFirst then
    configureNetworkSettings n.createAccessPoint n.networks uptime second.now second.ok
      (configureIdentity n.device n.stream first.now first.ok c)
  else
    configureIdentity n.device n.stream second.now second.ok
      (configureNetworkSettings n.createAccessPoint n.networks uptime first.now first.ok c)

/-! ## 4. When names are kept -/

/-- What is left of the names is in the core state, and what is persisted is what is there. -/
theorem configure_fields (identityFirst : Bool) (n : Names) (uptime : BitVec 32)
    (first second : Save) (c : CoreState) :
    let c' := configure identityFirst n uptime first second c
    c'.deviceIdentity = DeviceIdentity.ofNames n.device n.stream ∧
      c'.networkSettings.networks =
        (newSettings n.createAccessPoint n.networks c.networkSettings).networks ∧
      c'.storage.state.deviceIdentity = c'.deviceIdentity ∧
      c'.storage.state.networkSettings = c'.networkSettings ∧
      (second.ok = true → c'.storage.flash = c'.storage.state ∧
        c'.storage.flash.time = second.now) := by
  obtain ⟨now, ok⟩ := first
  obtain ⟨now', ok'⟩ := second
  cases identityFirst <;> cases ok <;> cases ok' <;>
    refine ⟨rfl, rfl, rfl, rfl, fun h => ?_⟩ <;>
    first
      | exact ⟨rfl, rfl⟩
      | cases h

/-- Names that are sent have no 0, and those that are not sent have nothing. -/
theorem Names.network_strings (n : Names) (i : Nat) : 0 ∉ (n.network i).1 ∧ 0 ∉ (n.network i).2 := by
  unfold Names.network
  rw [List.getD_eq_getElem?_getD]
  cases hi : n.networks[i]? with
  | none => exact ⟨List.not_mem_nil, List.not_mem_nil⟩
  | some p => exact n.networkStrings p (List.mem_of_getElem? hi)

/-- The arrays of a network: copies of its names. -/
theorem newSettings_network (createAccessPoint : Bool) (networks : List Network)
    (settings : NetworkSettings) (i : Fin 2) :
    let info := (newSettings createAccessPoint networks settings).networks[i]
    info.ssid.toList = strncpy 33 (networks.getD i.val ([], [])).1 ∧
      info.password.toList = strncpy 33 (networks.getD i.val ([], [])).2 := by
  have hinfo : (newSettings createAccessPoint networks settings).networks[i] =
      match networks[i.val]? with
      | some (ssid, password) => NetworkInfo.ofNames ssid password
      | none => {} := Vector.getElem_ofFn _
  rw [hinfo, List.getD_eq_getElem?_getD]
  cases networks[i.val]? with
  | none => exact ⟨rfl, rfl⟩
  | some p => exact ⟨rfl, rfl⟩

section Kept

variable {n : Names} {c : CoreState}

/-- What the configured fields are. -/
structure Configured (n : Names) (identity : DeviceIdentity) (settings : NetworkSettings) : Prop where
  identity : identity = DeviceIdentity.ofNames n.device n.stream
  ssid : ∀ i : Fin 2, settings.networks[i].ssid.toList = strncpy 33 (n.network i).1
  password : ∀ i : Fin 2, settings.networks[i].password.toList = strncpy 33 (n.network i).2

/-- **The arrays hold the names exactly if there is room.** -/
theorem stored_iff {identity : DeviceIdentity} {settings : NetworkSettings}
    (h : Configured n identity settings) : Stored n identity settings ↔ Fits n := by
  have hdevice : identity.device.toList = strncpy 41 n.device := by rw [h.identity]; rfl
  have hstream : identity.stream.toList = strncpy 9 n.stream := by rw [h.identity]; rfl
  constructor
  · intro hs
    refine ⟨(ctext_strncpy_iff n.strings.1).mp ?_, (ctext_strncpy_iff n.strings.2).mp ?_,
      fun i => ⟨(ctext_strncpy_iff (n.network_strings i).1).mp ?_,
        (ctext_strncpy_iff (n.network_strings i).2).mp ?_⟩⟩
    · rw [← hdevice]; exact hs.device
    · rw [← hstream]; exact hs.stream
    · rw [← h.ssid i]; exact (hs.networks i).1
    · rw [← h.password i]; exact (hs.networks i).2
  · intro hf
    refine ⟨?_, ?_, fun i => ⟨?_, ?_⟩⟩
    · rw [hdevice]; exact (ctext_strncpy_iff n.strings.1).mpr hf.device
    · rw [hstream]; exact (ctext_strncpy_iff n.strings.2).mpr hf.stream
    · rw [h.ssid i]; exact (ctext_strncpy_iff (n.network_strings i).1).mpr (hf.networks i).1
    · rw [h.password i]; exact (ctext_strncpy_iff (n.network_strings i).2).mpr (hf.networks i).2

/-- The memory from a network on begins with its two arrays. -/
theorem bytesFrom_eq (settings : NetworkSettings) (i : Fin 2) :
    ∃ rest, settings.bytesFrom i =
      settings.networks[i].ssid.toList ++ (settings.networks[i].password.toList ++ rest) := by
  have hlt : i.val < settings.networks.toList.length := by
    rw [Vector.length_toList]
    exact i.isLt
  refine ⟨(settings.networks.toList.drop (i + 1)).flatMap NetworkInfo.bytes, ?_⟩
  rw [NetworkSettings.bytesFrom, List.drop_eq_getElem_cons hlt, List.flatMap_cons,
    NetworkInfo.bytes, List.append_assoc]
  rfl

/-- **Names that fit are returned.** -/
theorem replied_of_fits (h : Configured n c.deviceIdentity c.networkSettings) (hf : Fits n) :
    Replied n c := by
  have hdevice : n.device.take 40 = n.device := List.take_of_length_le (by have := hf.device; omega)
  have hstream : n.stream.take 8 = n.stream := List.take_of_length_le (by have := hf.stream; omega)
  constructor
  · intro beyond
    rw [identityReply, h.identity, hdevice, hstream]
    refine Prod.ext ?_ (ctext_strncpy n.strings.2 hf.stream beyond)
    show ctext ((strncpy 41 n.device ++ strncpy 9 n.stream) ++ beyond) = some n.device
    rw [List.append_assoc, ctext_strncpy n.strings.1 hf.device]
  · intro beyond i
    obtain ⟨rest, hbytes⟩ := bytesFrom_eq c.networkSettings i
    obtain ⟨hssid, hpassword⟩ := hf.networks i
    rw [networkSettingsReply, hbytes, h.ssid i, h.password i, List.append_assoc, List.append_assoc,
      List.take_of_length_le (Nat.le_of_lt_succ hssid),
      List.take_of_length_le (Nat.le_of_lt_succ hpassword),
      List.drop_left' (length_strncpy 33 _)]
    refine Prod.ext (ctext_strncpy (n.network_strings i).1 hssid _) ?_
    show ctext ((strncpy 33 (n.network i).2 ++ rest) ++ beyond) = some (n.network i).2
    rw [List.append_assoc, ctext_strncpy (n.network_strings i).2 hpassword]

/-- **Configured names are kept exactly if they fit.** -/
theorem configured_kept_iff (h : Configured n c.deviceIdentity c.networkSettings)
    (hidentity : c.storage.state.deviceIdentity = c.deviceIdentity)
    (hsettings : c.storage.state.networkSettings = c.networkSettings) : Kept n c ↔ Fits n := by
  constructor
  · intro hk
    exact (stored_iff h).mp hk.core
  · intro hf
    have hstored := (stored_iff h).mpr hf
    exact ⟨hstored, by rwa [hidentity, hsettings], replied_of_fits h hf⟩

end Kept

/-- **Names are kept, also over a restart that loads them, exactly if each is shorter than its
    array.** -/
theorem names_kept_iff (identityFirst : Bool) (n : Names) (uptime : BitVec 32)
    (first second : Save) (c : CoreState) :
    (Kept n (configure identityFirst n uptime first second c) ∧
        (second.ok = true → second.now ≠ 0 →
          Kept n (configure identityFirst n uptime first second c).reboot)) ↔ Fits n := by
  obtain ⟨hidentity, hnetworks, hstate, hsettings, hsaved⟩ :=
    configure_fields identityFirst n uptime first second c
  have hconfigured : Configured n (configure identityFirst n uptime first second c).deviceIdentity
      (configure identityFirst n uptime first second c).networkSettings := by
    refine ⟨hidentity, fun i => ?_, fun i => ?_⟩
    · rw [hnetworks]
      exact (newSettings_network _ _ _ i).1
    · rw [hnetworks]
      exact (newSettings_network _ _ _ i).2
  constructor
  · intro h
    exact (configured_kept_iff hconfigured hstate hsettings).mp h.1
  · intro hf
    refine ⟨(configured_kept_iff hconfigured hstate hsettings).mpr hf, fun hok hnow => ?_⟩
    obtain ⟨hflash, htime⟩ := hsaved hok
    have hreboot : (configure identityFirst n uptime first second c).reboot =
        CoreState.copyFrom (configure identityFirst n uptime first second c).storage.flash
          { storage := (configure identityFirst n uptime first second c).storage.locate } := by
      unfold CoreState.reboot CoreState.started FlashState.locate
      rw [if_neg (by rw [htime]; exact hnow)]
    rw [hreboot]
    refine (configured_kept_iff ?_ rfl rfl).mpr hf
    show Configured n (configure identityFirst n uptime first second c).storage.flash.deviceIdentity
      (configure identityFirst n uptime first second c).storage.flash.networkSettings
    rw [hflash, hstate, hsettings]
    exact hconfigured

/-- A device name of 41 bytes, one more than there is room for. -/
def longName : Names where
  device := List.replicate 41 (BitVec.ofNat 8 97)
  stream := []
  createAccessPoint := false
  networks := []
  strings := ⟨fun h => absurd (List.eq_of_mem_replicate h) (by decide), List.not_mem_nil⟩
  networkStrings := fun _ h => absurd h List.not_mem_nil

/-- **It does not end in its array.** -/
theorem device_unended : ¬ ∀ (identityFirst : Bool) (n : Names) (uptime : BitVec 32)
    (first second : Save) (c : CoreState),
    Kept n (configure identityFirst n uptime first second c) ∧
      (second.ok = true → second.now ≠ 0 →
        Kept n (configure identityFirst n uptime first second c).reboot) := by
  intro hall
  have hstored := (hall true longName 1 ⟨1, true⟩ ⟨1, true⟩ {}).1.core.device
  exact absurd hstored (by decide)

end AppServicer

end FieldKit

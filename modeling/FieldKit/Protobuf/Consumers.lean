/-
  File:      FieldKit/Protobuf/Consumers.lean
  Subject:   What the readers of a decoded message find in a field that was absent.

  A field that does not occur in a wire message keeps the `Pool` that `forDecode` put into its
  `arg`. The readers take `arg` for a string or for a `pb_data_t`.

  * `clean_iff` -- a reader finds nothing but absent values in absent fields exactly if none of
    the fields that it reads is absent;
  * `git_exposed` -- a reply without capabilities.
-/
import FieldKit.Protobuf.Decode

namespace FieldKit.Protobuf

/-! ## 1. The readers -/

/-- The functions that read string and bytes fields of a decoded message. -/
inductive Consumer where
  /-- `QueryCapabilities::reply`, whose `firmware()` is tested against `nullptr`. -/
  | queryCapabilitiesReply
  /-- `AttachedDevices::done`, of a sensor module. -/
  | attachedDevicesDone
  /-- `QuerySensorCapabilities::reply`. -/
  | querySensorCapabilitiesReply
  /-- `QueryFirmware::reply`. -/
  | queryFirmwareReply
  /-- `CoreState::merge`, of REPLY_CAPABILITIES. -/
  | mergeCapabilities
  /-- `CoreState::merge`, of REPLY_SENSOR_CAPABILITIES. -/
  | mergeSensorCapabilities
  /-- `AppModuleQueryTask::done`. -/
  | appModuleQueryTaskDone
  /-- QUERY_DATA_PREPARE in module_servicer.cpp. -/
  | dataPrepare
  /-- QUERY_DATA_VERIFY in module_servicer.cpp. -/
  | dataVerify
  /-- `AppServicer::configureNetworkSettings`. -/
  | configureNetworkSettings
  /-- `AppServicer::configureIdentity`. -/
  | configureIdentity
  /-- `CustomModuleQuery::query`. -/
  | customModuleQuery
  deriving DecidableEq, Repr

/-- The message that a reader reads. -/
def Consumer.message : Consumer → WireMessage
  | .queryCapabilitiesReply => .ModuleReplyMessage
  | .attachedDevicesDone => .ModuleReplyMessage
  | .querySensorCapabilitiesReply => .ModuleReplyMessage
  | .queryFirmwareReply => .ModuleReplyMessage
  | .mergeCapabilities => .ModuleReplyMessage
  | .mergeSensorCapabilities => .ModuleReplyMessage
  | .appModuleQueryTaskDone => .ModuleReplyMessage
  | .dataPrepare => .ModuleQueryMessage
  | .dataVerify => .ModuleQueryMessage
  | .configureNetworkSettings => .AppQueryMessage
  | .configureIdentity => .AppQueryMessage
  | .customModuleQuery => .AppQueryMessage

/-- The fields that it reads. -/
def Consumer.reads : (c : Consumer) → List c.message.Field
  | .queryCapabilitiesReply =>
    [ModuleReplyField.capabilitiesFirmwareGit, ModuleReplyField.capabilitiesFirmwareBuild]
  | .attachedDevicesDone =>
    [ModuleReplyField.capabilitiesName, ModuleReplyField.capabilitiesModule]
  | .querySensorCapabilitiesReply => [ModuleReplyField.sensorCapabilitiesName]
  | .queryFirmwareReply =>
    [ModuleReplyField.firmwareGoodEtag, ModuleReplyField.firmwarePendingEtag]
  | .mergeCapabilities => [ModuleReplyField.capabilitiesName, ModuleReplyField.capabilitiesModule]
  | .mergeSensorCapabilities =>
    [ModuleReplyField.sensorCapabilitiesName, ModuleReplyField.sensorCapabilitiesUnitOfMeasure]
  | .appModuleQueryTaskDone => [ModuleReplyField.customMessage]
  | .dataPrepare => [ModuleQueryField.dataEtag]
  | .dataVerify => [ModuleQueryField.dataChecksum]
  | .configureNetworkSettings => []
  | .configureIdentity => [AppQueryField.identityDevice, AppQueryField.identityStream]
  | .customModuleQuery => [AppQueryField.moduleMessage]

/-- `MaximumRememberedNetworks`. -/
def maximumRememberedNetworks : Nat := 2

/-- How many networks it reads, of those that were sent: `ssid` and `password` of each. -/
def Consumer.networks : Consumer → Nat
  | .configureNetworkSettings => maximumRememberedNetworks
  | _ => 0

/-! ## 2. What they find -/

/-- A null pointer, an empty string or no bytes. -/
def Arg.Blank : Arg → Prop
  | .null => True
  | .pool => False
  | .literal => True
  | .string text => text = []
  | .data bytes => bytes = []

/-- A field does not occur. -/
def Absent {F : Type} (f : F) (fs : List (F × Value)) : Prop := ∀ p ∈ fs, p.1 ≠ f

/-- **What a reader finds in absent fields is null or empty.** -/
structure Clean (c : Consumer) (wire : List (Occurrence c.message)) (r : Message c.message) :
    Prop where
  fields : ∀ f ∈ c.reads, Absent f (values wire) → (r.args f).Blank
  networks : ∀ (i : Nat) (item : List (NetworkField × Value)) (info : NetworkInfo),
    i < c.networks → (items wire)[i]? = some item → r.networks[i]? = some info →
      ∀ f, Absent f item → (info f).Blank

/-- **Everything that a reader reads has been sent.** -/
structure Complete (c : Consumer) (wire : List (Occurrence c.message)) : Prop where
  fields : ∀ f ∈ c.reads, ¬ Absent f (values wire)
  networks : ∀ (i : Nat) (item : List (NetworkField × Value)),
    i < c.networks → (items wire)[i]? = some item → ∀ f, ¬ Absent f item

theorem lastOf_absent {F : Type} [DecidableEq F] {f : F} {fs : List (F × Value)}
    (habsent : Absent f fs) : lastOf f fs = none := by
  induction fs with
  | nil => rfl
  | cons p rest ih =>
      obtain ⟨g, v⟩ := p
      have hg : g ≠ f := habsent (g, v) List.mem_cons_self
      rw [lastOf, ih fun q hq => habsent q (List.mem_cons_of_mem _ hq), if_neg hg]
      rfl

/-- **An absent field holds what it held before.** -/
theorem held_absent {F : Type} [DecidableEq F] {callback : F → Callback} {args : F → Arg}
    {f : F} {fs : List (F × Value)} (habsent : Absent f fs) :
    held callback args fs f = args f := by
  unfold held
  rw [lastOf_absent habsent]
  rfl

/-- **A reader finds nothing but absent values in absent fields exactly if none of the fields that
    it reads is absent.** -/
theorem clean_iff (c : Consumer) (itemSize : Nat) (pool : Pool)
    (wire : List (Occurrence c.message)) {r : Message c.message} {h : Heap}
    (hok : decodeMessage itemSize pool wire = .ok r h) : Clean c wire r ↔ Complete c wire := by
  obtain ⟨hargs, hnetworks⟩ := decode_held hok
  have hinfo : ∀ (i : Nat) (item : List (NetworkField × Value)), (items wire)[i]? = some item →
      r.networks[i]? = some (held NetworkField.callback (fun _ => .pool) item) := by
    intro i item hi
    rw [hnetworks]
    show (List.map _ (items wire))[i]? = _
    rw [List.getElem?_map, hi]
    rfl
  constructor
  · intro hclean
    refine ⟨fun f hf habsent => ?_, fun i item hi hitem f habsent => ?_⟩
    · have hblank := hclean.fields f hf habsent
      rw [hargs, held_absent habsent] at hblank
      exact hblank
    · have hblank := hclean.networks i item _ hi hitem (hinfo i item hitem) f habsent
      rw [held_absent habsent] at hblank
      exact hblank
  · intro hcomplete
    exact ⟨fun f hf habsent => absurd habsent (hcomplete.fields f hf),
      fun i item _ hi hitem _ f habsent => absurd habsent (hcomplete.networks i item hi hitem f)⟩

/-- A reply of two versions. -/
def versions : List (Occurrence Consumer.queryCapabilitiesReply.message) :=
  [.value ModuleReplyField.capabilitiesFirmwareGit { bytes := [97] },
   .value ModuleReplyField.capabilitiesFirmwareBuild { bytes := [98] }]

/-- It is read. -/
theorem clean_iff_versions : ∃ r h,
    decodeMessage 16 (Pool.empty 64) versions = .ok r h ∧
      r.args ModuleReplyField.capabilitiesFirmwareGit = .string [97] ∧
      (Clean .queryCapabilitiesReply versions r ↔ Complete .queryCapabilitiesReply versions) :=
  ⟨_, _, rfl, rfl, clean_iff .queryCapabilitiesReply 16 (Pool.empty 64) versions rfl⟩

/-- In a reply without capabilities the version is the pool. -/
theorem git_exposed : ¬ ∀ (c : Consumer) (itemSize : Nat) (pool : Pool)
    (wire : List (Occurrence c.message)) (r : Message c.message) (h : Heap),
    decodeMessage itemSize pool wire = .ok r h → Clean c wire r := by
  intro hall
  have hclean := hall .queryCapabilitiesReply 16 (Pool.empty 64) [] _ _ rfl
  exact hclean.fields ModuleReplyField.capabilitiesFirmwareGit List.mem_cons_self
    fun _ hp => absurd hp List.not_mem_nil

end FieldKit.Protobuf

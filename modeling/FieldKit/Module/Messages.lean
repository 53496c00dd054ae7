/-
  File:      FieldKit/Module/Messages.lean
  Subject:   `ModuleQueryMessage`, `ModuleReplyMessage` (module_messages.h) and the wire protocol.

  A message is a flat record, as nanopb decodes it: the submessages that were not sent hold their
  defaults. How a message is written as bytes is not part of the repository (`ModuleProtocol`).
-/
import FieldKit.Comms.ModuleComms

namespace FieldKit

/-- The text of a string or bytes field. -/
abbrev Text := List Byte

/-! ## 1. Queries -/

/-- `fk_module_QueryType`, as far as the code names its values; `other` are the rest. -/
inductive QueryType where
  | QUERY_CAPABILITIES
  | QUERY_SENSOR_CAPABILITIES
  | QUERY_BEGIN_TAKE_READINGS
  | QUERY_READING_STATUS
  | QUERY_CUSTOM
  | QUERY_DATA_PREPARE
  | QUERY_DATA_VERIFY
  | QUERY_DATA_APPEND
  | QUERY_DATA_CLEAR
  | QUERY_FIRMWARE
  | QUERY_BEGIN_TRANSMISSION
  | QUERY_TRANSMISSION_STATUS
  | other (tag : Nat)
  deriving DecidableEq, Repr

/-- The `beginTakeReadings` of a query. -/
structure BeginTakeReadings where
  callerTime : BitVec 32 := 0
  index : BitVec 32 := 0
  number : BitVec 32 := 0
  deriving DecidableEq, Repr

/-- The `data` of a query. -/
structure DataQuery where
  size : BitVec 32 := 0
  kind : BitVec 32 := 0
  bank : BitVec 32 := 0
  etag : Text := []
  checksum : Text := []
  deriving DecidableEq, Repr

/-- `ModuleQueryMessage`. -/
structure ModuleQueryMessage where
  type : QueryType
  sensor : BitVec 32 := 0
  beginTakeReadings : BeginTakeReadings := {}
  data : DataQuery := {}
  deriving DecidableEq, Repr

/-- The strings are no longer than the tag of a firmware header and a checksum. -/
def ModuleQueryMessage.Short (q : ModuleQueryMessage) : Prop :=
  q.data.etag.length ≤ 64 ∧ q.data.checksum.length ≤ 4

/-! ## 2. Replies -/

/-- `fk_module_ReadingState`. -/
inductive ReadingState where
  | IDLE
  | BEGIN
  | BUSY
  | DONE
  deriving DecidableEq, Repr

/-- The `readingStatus` of a reply. -/
structure ReadingStatus where
  state : ReadingState := .IDLE
  backoff : Uptime := 0
  elapsed : BitVec 32 := 0
  deriving DecidableEq, Repr

/-- The `sensorReading` of a reply; `value` holds the bits of the float. -/
structure IncomingSensorReading where
  sensor : Nat := 0
  time : BitVec 32 := 0
  value : BitVec 32 := 0
  deriving DecidableEq, Repr

/-- The `capabilities` of a reply. -/
structure Capabilities where
  version : BitVec 32 := 0
  type : BitVec 8 := 0
  name : Text := []
  module : Text := []
  numberOfSensors : Nat := 0
  minimumNumberOfReadings : Nat := 0
  git : Text := []
  build : Text := []
  compiled : BitVec 32 := 0
  requiredUptime : BitVec 8 := 0
  deriving DecidableEq, Repr

/-- The `sensorCapabilities` of a reply. -/
structure SensorCapabilities where
  id : Nat := 0
  name : Text := []
  unitOfMeasure : Text := []
  deriving DecidableEq, Repr

/-- What a reply says of one firmware image. -/
structure FirmwareImage where
  etag : Text := []
  size : BitVec 32 := 0
  deriving DecidableEq, Repr

/-- The `firmware` of a reply. -/
structure FirmwareReply where
  pending : FirmwareImage := {}
  good : FirmwareImage := {}
  deriving DecidableEq, Repr

/-- `ModuleReplyMessage`. -/
structure ModuleReplyMessage where
  type : ReplyType
  readingStatus : ReadingStatus := {}
  sensorReading : IncomingSensorReading := {}
  capabilities : Capabilities := {}
  sensorCapabilities : SensorCapabilities := {}
  firmware : FirmwareReply := {}
  deriving DecidableEq, Repr

namespace ModuleReplyMessage

/-- No string field is set. -/
def Plain (r : ModuleReplyMessage) : Prop :=
  r.capabilities = {} ∧ r.sensorCapabilities = {} ∧ r.firmware = {}

end ModuleReplyMessage

/-! ## 3. The protocol -/

/-- How messages are written on the wire and read back, and how streamed bytes are. What the code
    relies on: a short query and a plain reply fit a transfer and are read back as they were, and
    a reply is never read as one of another type. An encoding that fails writes nothing. -/
structure ModuleProtocol (β : Type) where
  /-- `FK_MODULE_PROTOCOL_VERSION`. -/
  version : BitVec 32
  encodeQuery : ModuleQueryMessage → List β
  decodeQuery : List β → Option ModuleQueryMessage
  encodeReply : ModuleReplyMessage → List β
  decodeReply : List β → Option ModuleReplyMessage
  /-- A streamed byte, and the bytes of a transfer as streamed data sees them. -/
  byte : Byte → β
  raw : List β → List Byte
  raw_byte : ∀ bs, raw (bs.map byte) = bs
  raw_length : ∀ bs, (raw bs).length ≤ bs.length
  query_ne_nil : ∀ q, q.Short → encodeQuery q ≠ []
  query_fits : ∀ q, q.Short → (encodeQuery q).length < serialBufferSize
  query_decodes : ∀ q, q.Short → decodeQuery (encodeQuery q) = some q
  reply_ne_nil : ∀ r, r.Plain → encodeReply r ≠ []
  reply_fits : ∀ r, (encodeReply r).length < serialBufferSize
  reply_decodes : ∀ r, r.Plain → decodeReply (encodeReply r) = some r
  reply_type : ∀ r r', decodeReply (encodeReply r) = some r' → r'.type = r.type

/-! ## 4. Frames -/

/-- A wire on which a message is one symbol, and streamed data is bytes. -/
inductive Frame where
  | query (q : ModuleQueryMessage)
  | reply (r : ModuleReplyMessage)
  | byte (b : Byte)
  deriving DecidableEq, Repr

/-- The query in a transfer, if it is one. -/
def Frame.query? : List Frame → Option ModuleQueryMessage
  | .query q :: _ => some q
  | _ => none

/-- The reply in a transfer, if it is one. -/
def Frame.reply? : List Frame → Option ModuleReplyMessage
  | .reply r :: _ => some r
  | _ => none

/-- The streamed bytes of a transfer. -/
def Frame.bytes : List Frame → List Byte
  | .byte b :: fs => b :: Frame.bytes fs
  | _ :: fs => Frame.bytes fs
  | [] => []

theorem Frame.bytes_map_byte (bs : List Byte) : Frame.bytes (bs.map .byte) = bs := by
  induction bs with
  | nil => rfl
  | cons b bs ih => simp [Frame.bytes, ih]

theorem Frame.bytes_length (fs : List Frame) : (Frame.bytes fs).length ≤ fs.length := by
  induction fs with
  | nil => exact Nat.le_refl 0
  | cons f fs ih => cases f <;> simp only [Frame.bytes, List.length_cons] <;> omega

/-- **The protocol of frames**, on which the concrete runs of this development are made. -/
def frames : ModuleProtocol Frame where
  version := 1
  encodeQuery q := [.query q]
  decodeQuery := Frame.query?
  encodeReply r := [.reply r]
  decodeReply := Frame.reply?
  byte := .byte
  raw := Frame.bytes
  raw_byte := Frame.bytes_map_byte
  raw_length := Frame.bytes_length
  query_ne_nil _ _ := by simp
  query_fits _ _ := by simp [serialBufferSize]
  query_decodes _ _ := rfl
  reply_ne_nil _ _ := by simp
  reply_fits _ := by simp [serialBufferSize]
  reply_decodes _ _ := rfl
  reply_type r r' h := by
    cases h
    rfl

end FieldKit

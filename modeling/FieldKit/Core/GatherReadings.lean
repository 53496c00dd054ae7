/-
  File:      FieldKit/Core/GatherReadings.lean
  Subject:   Taking readings from a module (gather_readings.cpp): the two queries, and the task that
             asks for one reading after the other.

  `CoreState::merge` is what the task is for, and what it was called with is kept. The lights, the
  lock of the bus and what is only logged (`startedAt`, `retries`) are left out.
-/
import FieldKit.Comms.Session
import FieldKit.Module.Messages

namespace FieldKit

open Session ModuleProtocolHandler

/-! ## 1. The queries -/

/-- The queries of a cycle, as `GatherReadings` compares them. -/
inductive ReadingQuery where
  | beginTakeReading
  | queryReadingStatus
  deriving DecidableEq, Repr

/-- What the last reply left in a query object. -/
structure LastReply where
  backoff : Uptime := 0
  status : ReadingState := .IDLE
  deriving DecidableEq, Repr

/-- The query objects of a cycle; `callerTime` is that of the message that was last written. -/
structure ReadingObjects where
  remaining : BitVec 32 := 0
  callerTime : BitVec 32 := 0
  beginTakeReading : LastReply := {}
  queryReadingStatus : LastReply := {}
  deriving DecidableEq, Repr

/-- `BeginTakeReading::query` and `QueryReadingStatus::query`. -/
def ReadingObjects.query (o : ReadingObjects) : ReadingQuery → ModuleQueryMessage
  | .beginTakeReading =>
    { type := .QUERY_BEGIN_TAKE_READINGS
      beginTakeReadings := { callerTime := o.callerTime, index := 0, number := o.remaining } }
  | .queryReadingStatus => { type := .QUERY_READING_STATUS }

/-- `reply(message)`, the same in both. -/
def ReadingObjects.reply (r : ModuleReplyMessage) (o : ReadingObjects) :
    ReadingQuery → ReadingObjects
  | .beginTakeReading => { o with beginTakeReading := ⟨r.readingStatus.backoff, r.readingStatus.state⟩ }
  | .queryReadingStatus =>
    { o with queryReadingStatus := ⟨r.readingStatus.backoff, r.readingStatus.state⟩ }

theorem ReadingObjects.query_short (o : ReadingObjects) (q : ReadingQuery) : (o.query q).Short := by
  cases q <;> exact ⟨Nat.zero_le _, Nat.zero_le _⟩

/-- **The virtual functions of the two queries.** The environment of a `prepare` is the clock. -/
def readingQueries {β : Type} (P : ModuleProtocol β) :
    ModuleQueries ReadingQuery ReadingObjects (BitVec 32) ModuleReplyMessage β where
  replyConfig _ := ReplyConfig.Default
  prepare q time o outgoing :=
    let o := match q with
      | .beginTakeReading => { o with callerTime := time }
      | .queryReadingStatus => o
    (o, ModuleQuery.prepare (P.encodeQuery (o.query q)) outgoing)
  tick _ _ o outgoing := (o, outgoing)
  reply q r o := o.reply r q
  decode := P.decodeReply
  replyType r := r.type
  tick_keeps _ _ _ _ _ := rfl

/-- **Both queries are messages.** -/
theorem readingQueries_speaks {β : Type} (P : ModuleProtocol β) :
    Speaks (readingQueries P) (fun q o => P.encodeQuery (o.query q)) (fun _ => false)
      (fun _ => True) where
  one _ _ := rfl
  none _ h := absurd h (by decide)
  prepare q _ _ _ := by cases q <;> rfl
  tick _ _ _ _ _ := rfl
  fits q o _ _ := P.query_fits _ (o.query_short q)
  kept _ _ _ _ _ := ⟨trivial, trivial⟩

/-! ## 2. The task -/

/-- The link of a cycle. -/
abbrev ReadingLink (β B : Type) := Link ReadingQuery ReadingObjects ModuleReplyMessage β B

/-- `GatherReadings`, with the communications object it is given. `merged` holds the readings that
    `CoreState::merge` was called with, oldest first. -/
structure GatherReadings (β B : Type) where
  protocol : ModuleProtocolHandler ReadingQuery := {}
  link : ReadingLink β B
  merged : List IncomingSensorReading := []

namespace GatherReadings

variable {β B : Type}

/-- The address the readings are taken from. -/
def moduleAddress : Address := 8

/-- The delay before the next status query. -/
def delay (r : LastReply) : Uptime := if 0 < r.backoff then r.backoff else 300

/-- `enqueued()`; `acquired` says whether the bus was free, `sensors` counts the attached modules
    that have sensors. Where it returns early, nothing is pushed. -/
def enqueued (acquired : Bool) (sensors : Nat) (now : Uptime) (remaining : BitVec 32)
    (link : ReadingLink β B) : GatherReadings β B :=
  if acquired ∧ sensors ≠ 0 then
    { protocol := ({} : ModuleProtocolHandler ReadingQuery).push now moduleAddress
        .beginTakeReading 0
      link := { link with queries.remaining := remaining } }
  else { link := link }

/-- `push(8, queryReadingStatus, delay)`. -/
def pushStatus (now delay : Uptime) (s : GatherReadings β B) : GatherReadings β B :=
  { s with protocol := s.protocol.push now moduleAddress .queryReadingStatus delay }

/-- `done(finished)`. Without a reply the query would be in error, so there is one to merge. -/
def done (now : Uptime) (q : ReadingQuery) (reply : Option ModuleReplyMessage)
    (s : GatherReadings β B) : TaskEval × GatherReadings β B :=
  match q with
  | .beginTakeReading => (.idle, s.pushStatus now (delay s.link.queries.beginTakeReading))
  | .queryReadingStatus =>
    match s.link.queries.queryReadingStatus.status with
    | .BEGIN | .BUSY => (.idle, s.pushStatus now (delay s.link.queries.queryReadingStatus))
    | .DONE =>
      (.idle,
        { s with merged := s.merged ++ (reply.map ModuleReplyMessage.sensorReading).toList }.pushStatus now 0)
    | .IDLE => (.done, s)

/-- What `task()` does with what `handle` returned. -/
def finish (P : ModuleProtocol β) (now : Uptime) (f : Finished ReadingQuery ModuleReplyMessage)
    (s : GatherReadings β B) : TaskEval × GatherReadings β B :=
  match f.query with
  | none => (.idle, s)
  | some q => if f.error (readingQueries P).replyConfig then (.error, s) else done now q f.reply s

/-- `task()`; `none` is a failed assertion. -/
def task (P : ModuleProtocol β) (now : Uptime) (s : GatherReadings β B) :
    Option (TaskEval × GatherReadings β B) :=
  if s.protocol.isBusy then
    (s.protocol.handle (readingQueries P) now s.link).map fun (f, protocol, link) =>
      finish P now f { s with protocol, link }
  else some (.done, s)

end GatherReadings

end FieldKit

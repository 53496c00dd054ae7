/-
  File:      FieldKit/Core/AppSession.lean
  Subject:   The connections of the app (api_connection.cpp, app_servicer.cpp, wifi_client.h,
             wifi_query_module.cpp, app_module_query_task.cpp, wifi_download_file.cpp,
             download_file_task.cpp): who is sent what?

  One buffer and one client serve all connections, for queries and for replies. How queries and replies
  are coded is nanopb's; what a reply says of the station, what the socket accepts and when the app goes
  away is the environment's. The bytes of the file behind a header are those of `DownloadFile.lean`.

  Beside the state stands what came of the connections so far.

  * `connections_answered` -- any run, whatever the apps send, falls apart into its connections, each of
    which is served once, and what came of it is decided by its own tasks: who does not ask is sent
    nothing, who asks is sent the reply to the query that was built for him, or the beginning of it;
    and the connection is closed, unless the app has left before. The header of a file is sent twice
    if the socket does not accept it whole.
-/
import FieldKit.Lib.Run
import FieldKit.Core.ApiConnection

namespace FieldKit.AppSession

open Lib
open Api (ApiConnection wifiConnectionTimeout wifiSocketBufferSize)

/-! ## 1. Queries and replies -/

/-- `fk_app_QueryType`. -/
inductive QueryType where
  | QUERY_CAPABILITIES
  | QUERY_LIVE_DATA_POLL
  | QUERY_CONFIGUE_SCHEDULES
  | QUERY_SCHEDULES
  | QUERY_RESET
  | QUERY_FORMAT
  | QUERY_FILES
  | QUERY_DOWNLOAD_FILE
  | QUERY_ERASE_FILE
  | QUERY_NETWORK_SETTINGS
  | QUERY_CONFIGURE_NETWORK_SETTINGS
  | QUERY_IDENTITY
  | QUERY_CONFIGURE_IDENTITY
  | QUERY_STATUS
  | QUERY_MODULE
  | QUERY_METADATA
  | QUERY_CONFIGURE_SENSOR
  | other (n : BitVec 32)
  deriving DecidableEq, Repr

/-- `fk_app_ReplyType`; `initial` is that of a reply whose type is not set. -/
inductive ReplyType where
  | initial
  | REPLY_SUCCESS
  | REPLY_ERROR
  | REPLY_CAPABILITIES
  | REPLY_LIVE_DATA_POLL
  | REPLY_FILES
  | REPLY_DOWNLOAD_FILE
  | REPLY_NETWORK_SETTINGS
  | REPLY_IDENTITY
  | REPLY_STATUS
  | REPLY_MODULE
  | REPLY_METADATA
  deriving DecidableEq, Repr

/-- `AppReplyMessage`: its type, and what it says. -/
structure Reply where
  type : ReplyType
  content : List Byte
  deriving DecidableEq, Repr

/-- The type of the reply that `handle()` writes; `none` where it leaves that to another state. -/
def replyType : QueryType → Option ReplyType
  | .QUERY_CAPABILITIES => some .REPLY_CAPABILITIES
  | .QUERY_LIVE_DATA_POLL => some .REPLY_LIVE_DATA_POLL
  | .QUERY_CONFIGUE_SCHEDULES => some .initial
  | .QUERY_SCHEDULES => some .initial
  | .QUERY_RESET => some .REPLY_SUCCESS
  | .QUERY_FORMAT => some .REPLY_SUCCESS
  | .QUERY_FILES => some .REPLY_FILES
  | .QUERY_DOWNLOAD_FILE => none
  | .QUERY_ERASE_FILE => some .REPLY_FILES
  | .QUERY_NETWORK_SETTINGS => some .REPLY_NETWORK_SETTINGS
  | .QUERY_CONFIGURE_NETWORK_SETTINGS => some .REPLY_NETWORK_SETTINGS
  | .QUERY_IDENTITY => some .REPLY_IDENTITY
  | .QUERY_CONFIGURE_IDENTITY => some .REPLY_IDENTITY
  | .QUERY_STATUS => some .REPLY_STATUS
  | .QUERY_MODULE => none
  | .QUERY_METADATA => some .REPLY_METADATA
  | .QUERY_CONFIGURE_SENSOR => some .REPLY_ERROR
  | .other _ => some .REPLY_ERROR

/-! ## 2. The connections -/

/-- `WifiConnection`: is the client one, and what its buffer holds. -/
structure WifiConnection where
  client : Bool := false
  buffer : List Byte := []
  deriving DecidableEq, Repr

/-- What came of a connection: the query, what was sent, and whether it was closed. -/
structure Exchange where
  query : Option QueryType := none
  sent : List Byte := []
  closed : Bool := false
  deriving DecidableEq, Repr

/-- The states that have to do with it. -/
inductive Phase where
  | listening
  | appServicer
  | wifiQueryModule
  | wifiDownloadFile
  | wifiConnectionCompleted
  deriving DecidableEq, Repr

/-- The station; the connection it serves, and those it has served. -/
structure Station where
  phase : Phase := .listening
  connection : WifiConnection := {}
  api : ApiConnection := {}
  exchange : Exchange := {}
  finished : List Exchange := []
  deriving DecidableEq, Repr

/-- What a reply comes upon: what it says, whether the metadata in it can be encoded, how much of it the
    socket accepts, and whether the app is there at the end. -/
structure Conditions where
  content : List Byte := []
  metadata : Bool := true
  accepted : Nat
  connected : Bool := true
  deriving DecidableEq, Repr

/-- What comes of a query that is passed on to the module. -/
inductive ModuleResult where
  | replied (isError : Bool)
  | failed
  | timedOut
  deriving DecidableEq, Repr

/-- A task of one of the states; `accept` is a connection that `serve` accepts. -/
inductive Input where
  | accept
  | appServicer (now : Uptime) (received : List Byte) (c : Conditions)
  | wifiQueryModule (result : ModuleResult) (c : Conditions)
  | wifiDownloadFile (headerAccepted : Nat) (data : List Byte) (c : Conditions)
  | wifiConnectionCompleted
  deriving DecidableEq, Repr

section Machine

variable (decode : List Byte → Option QueryType) (encode : Reply → Option (List Byte))

namespace Station

/-- `MessageBuffer::write(reply)`, which says whether the reply is written. -/
def write (r : Reply) (s : Station) : Bool × Station :=
  match encode r with
  | some bytes =>
    if bytes.length ≤ wifiSocketBufferSize then
      (true, { s with connection := { s.connection with buffer := bytes } })
    else (false, s)
  | none => (false, s)

/-- `WifiMessageBuffer::write()`, of which the socket accepts so much, and how many bytes it did. -/
def send (accepted : Nat) (s : Station) : Nat × Station :=
  if s.connection.client then
    (min accepted s.connection.buffer.length,
      { s with
        connection := { s.connection with
          buffer := if s.connection.buffer.length ≤ accepted then [] else s.connection.buffer }
        exchange := { s.exchange with
          sent := s.exchange.sent ++ s.connection.buffer.take accepted } })
  else (0, s)

/-- `WifiConnection::flush()`. -/
def flush (accepted : Nat) (s : Station) : Station :=
  if s.connection.buffer = [] then s else (s.send accepted).2

/-- `WifiConnection::close()`. -/
def close (s : Station) : Station :=
  { s with
    connection := { s.connection with client := false }
    exchange := { s.exchange with closed := true } }

/-- The closing in `flushAndClose()`, if the connection `isConnected()`. -/
def stop (c : Conditions) (s : Station) : Station :=
  if s.connection.client && c.connected then s.close else s

/-- `flushAndClose()`. -/
def flushAndClose (c : Conditions) (s : Station) : Station := (s.flush c.accepted).stop c

/-- `transit<WifiConnectionCompleted>()`. -/
def completed (s : Station) : Station :=
  { s with phase := .wifiConnectionCompleted, finished := s.finished ++ [s.exchange] }

/-- `handle()`, with the closing behind it. -/
def handle (query : QueryType) (c : Conditions) (s : Station) : Station :=
  match query with
  | .QUERY_DOWNLOAD_FILE => { s with phase := .wifiDownloadFile }
  | .QUERY_MODULE => { s with phase := .wifiQueryModule }
  | query =>
    match replyType query with
    | some type =>
      let s := if query = .QUERY_METADATA ∧ c.metadata = false then s
        else (s.write encode ⟨type, c.content⟩).2
      (s.flushAndClose c).completed
    | none => s

/-- `task()` of `AppServicer`: `readQuery()`, and what becomes of the query. -/
def appServicer (now : Uptime) (received : List Byte) (c : Conditions) (s : Station) : Station :=
  if s.api.Expired now then (s.close.flushAndClose c).completed
  else
    let api := if s.api.dieAt = 0 then { s.api with dieAt := now + wifiConnectionTimeout } else s.api
    match received with
    | [] => { s with api }
    | bytes =>
      let s := { s with
        api := { api with bytesRead := api.bytesRead + bytes.length }
        connection := { s.connection with buffer := bytes } }
      match decode bytes with
      | none => (s.close.flushAndClose c).completed
      | some query =>
        handle encode query c { s with
          connection := { s.connection with buffer := [] }
          exchange := { s.exchange with query := some query } }

/-- `WifiQueryModule::task()`. -/
def wifiQueryModule (result : ModuleResult) (c : Conditions) (s : Station) : Station :=
  let s := match result with
    | .replied isError =>
      (s.write encode ⟨if isError then .REPLY_ERROR else .REPLY_MODULE, c.content⟩).2
    | .failed => (s.write encode ⟨.REPLY_ERROR, c.content⟩).2
    | .timedOut => s
  (s.flushAndClose c).completed

/-- `writeHeader()`, which says whether the socket has accepted all of the header. -/
def writeHeader (accepted : Nat) (c : Conditions) (s : Station) : Bool × Station :=
  let (written, s) := s.write encode ⟨.REPLY_DOWNLOAD_FILE, c.content⟩
  if written then
    let size := s.connection.buffer.length
    let (bytesWritten, s) := s.send accepted
    (bytesWritten = size, s)
  else (false, s)

/-- `WifiDownloadFile::task()`: the header, and behind it what is copied. -/
def wifiDownloadFile (headerAccepted : Nat) (data : List Byte) (c : Conditions) (s : Station) :
    Station :=
  let s :=
    if c.metadata then
      let (wrote, s) := s.writeHeader encode headerAccepted c
      if wrote then { s with exchange := { s.exchange with sent := s.exchange.sent ++ data } } else s
    else s
  (s.flushAndClose c).completed

end Station

/-- **The machine**: the task of the current state. -/
def step (s : Station) : Input → Option Station
  | .accept =>
    if s.phase = .listening then
      some { s with
        phase := .appServicer, connection := { client := true }, api := {}, exchange := {} }
    else none
  | .appServicer now received c =>
    if s.phase = .appServicer ∧ received.length ≤ wifiSocketBufferSize then
      some (s.appServicer decode encode now received c)
    else none
  | .wifiQueryModule result c =>
    if s.phase = .wifiQueryModule then some (s.wifiQueryModule encode result c) else none
  | .wifiDownloadFile headerAccepted data c =>
    if s.phase = .wifiDownloadFile then some (s.wifiDownloadFile encode headerAccepted data c)
    else none
  | .wifiConnectionCompleted =>
    if s.phase = .wifiConnectionCompleted then some { s with phase := .listening } else none

end Machine

/-! ## 3. What is sent -/

/-- The type of reply that answers a query at once. The two of schedules are answered with a reply whose
    type is not set, a file and a module are answered by the states that follow. -/
def Answers : QueryType → ReplyType → Prop
  | .QUERY_CAPABILITIES, type => type = .REPLY_CAPABILITIES
  | .QUERY_LIVE_DATA_POLL, type => type = .REPLY_LIVE_DATA_POLL
  | .QUERY_CONFIGUE_SCHEDULES, type => type = .initial
  | .QUERY_SCHEDULES, type => type = .initial
  | .QUERY_RESET, type => type = .REPLY_SUCCESS
  | .QUERY_FORMAT, type => type = .REPLY_SUCCESS
  | .QUERY_FILES, type => type = .REPLY_FILES
  | .QUERY_DOWNLOAD_FILE, _ => False
  | .QUERY_ERASE_FILE, type => type = .REPLY_FILES
  | .QUERY_NETWORK_SETTINGS, type => type = .REPLY_NETWORK_SETTINGS
  | .QUERY_CONFIGURE_NETWORK_SETTINGS, type => type = .REPLY_NETWORK_SETTINGS
  | .QUERY_IDENTITY, type => type = .REPLY_IDENTITY
  | .QUERY_CONFIGURE_IDENTITY, type => type = .REPLY_IDENTITY
  | .QUERY_STATUS, type => type = .REPLY_STATUS
  | .QUERY_MODULE, _ => False
  | .QUERY_METADATA, type => type = .REPLY_METADATA
  | .QUERY_CONFIGURE_SENSOR, type => type = .REPLY_ERROR
  | .other _, type => type = .REPLY_ERROR

/-- What the module has said, as it is passed on to the app. -/
def ModuleResult.passed : ModuleResult → Option ReplyType
  | .replied false => some .REPLY_MODULE
  | .replied true => some .REPLY_ERROR
  | .failed => some .REPLY_ERROR
  | .timedOut => none

/-- **The reply that a task builds for a query**: of a type that answers it, with what this task is given
    to say. Nobody is answered whose module has not answered in time, nor whose metadata cannot be
    encoded. -/
inductive Built : QueryType → Input → Reply → Prop where
  | own {query : QueryType} {type : ReplyType} (now : Uptime) (received : List Byte) (c : Conditions)
      (answers : Answers query type) (metadata : query = .QUERY_METADATA → c.metadata = true) :
      Built query (.appServicer now received c) ⟨type, c.content⟩
  | module {result : ModuleResult} {type : ReplyType} (c : Conditions)
      (passed : result.passed = some type) :
      Built .QUERY_MODULE (.wifiQueryModule result c) ⟨type, c.content⟩
  | file (headerAccepted : Nat) (data : List Byte) (c : Conditions) (metadata : c.metadata = true) :
      Built .QUERY_DOWNLOAD_FILE (.wifiDownloadFile headerAccepted data c)
        ⟨.REPLY_DOWNLOAD_FILE, c.content⟩

/-- **What a task sends of an encoded reply**: as much as the socket accepts; of the header of a file all
    of it and what is copied, or its beginning twice. -/
inductive Sent (bytes : List Byte) : Input → List Byte → Prop where
  | own (now : Uptime) (received : List Byte) (c : Conditions) :
      Sent bytes (.appServicer now received c) (bytes.take c.accepted)
  | module (result : ModuleResult) (c : Conditions) :
      Sent bytes (.wifiQueryModule result c) (bytes.take c.accepted)
  | file (headerAccepted : Nat) (data : List Byte) (c : Conditions)
      (whole : bytes.length ≤ headerAccepted) :
      Sent bytes (.wifiDownloadFile headerAccepted data c) (bytes ++ data)
  | twice (headerAccepted : Nat) (data : List Byte) (c : Conditions)
      (part : headerAccepted < bytes.length) :
      Sent bytes (.wifiDownloadFile headerAccepted data c)
        (bytes.take headerAccepted ++ bytes.take c.accepted)

/-- The app is gone when its connection should be closed. -/
def Input.Gone : Input → Prop
  | .appServicer _ _ c => c.connected = false
  | .wifiQueryModule _ c => c.connected = false
  | .wifiDownloadFile _ _ c => c.connected = false
  | _ => False

section Sessions

variable {decode : List Byte → Option QueryType} {encode : Reply → Option (List Byte)}

variable (encode) in
/-- What the last task sends to an app that has asked: of the reply that it builds, if that is encoded
    and fits the buffer, else nothing. -/
def Replied (query : QueryType) (last : Input) (sent : List Byte) : Prop :=
  (∃ r bytes, Built query last r ∧ encode r = some bytes ∧ bytes.length ≤ wifiSocketBufferSize ∧
    Sent bytes last sent) ∨
  (sent = [] ∧ ∀ r bytes, Built query last r → encode r = some bytes →
    wifiSocketBufferSize < bytes.length)

variable (decode) in
/-- The last task has read nothing that is a query, or it comes too late behind the first. -/
def Refused (is : List Input) : Prop :=
  ∃ now received c, is.getLast? = some (.appServicer now received c) ∧
    (decode received = none ∨ ∃ began c', .appServicer began [] c' ∈ is ∧
      began + wifiConnectionTimeout < now)

/-- The tasks of one connection, from where it was accepted. -/
def Begun (is : List Input) : Prop := ∃ rest, is = .accept :: rest ∧ .accept ∉ rest

variable (decode) in
/-- The app has sent this query. -/
def Asked (is : List Input) (query : QueryType) : Prop :=
  ∃ now received c, .appServicer now received c ∈ is ∧ decode received = some query

variable (decode encode) in
/-- **What came of a connection is as it should be**, by its own tasks. -/
structure Proper (is : List Input) (e : Exchange) : Prop where
  begun : Begun is
  asked : ∀ query, e.query = some query → Asked decode is query
  unasked : e.query = none → e.sent = [] ∧ Refused decode is
  reply : ∀ query, e.query = some query →
    ∃ last, is.getLast? = some last ∧ Replied encode query last e.sent
  ended : e.closed = true ∨ ∃ last, is.getLast? = some last ∧ last.Gone

/-- A connection with nothing sent yet. -/
structure Serving (query : Option QueryType) (s : Station) : Prop where
  connection : s.connection = { client := true }
  exchange : s.exchange = { query }

/-- What has been asked of the station in a phase in which it serves somebody. -/
def Phase.asked : Phase → Option (Option QueryType)
  | .appServicer => some none
  | .wifiQueryModule => some (some .QUERY_MODULE)
  | .wifiDownloadFile => some (some .QUERY_DOWNLOAD_FILE)
  | .listening => none
  | .wifiConnectionCompleted => none

variable (decode) in
/-- **The connection that is served now**, and its tasks so far. -/
structure Open (is : List Input) (s : Station) : Prop where
  idle : s.phase.asked = none → is = []
  begun : ∀ query, s.phase.asked = some query → Begun is
  serving : ∀ query, s.phase.asked = some query → Serving query s
  asked : ∀ query, s.phase.asked = some (some query) → Asked decode is query
  dieAt : s.phase = .appServicer → s.api.dieAt ≠ 0 →
    ∃ began c, .appServicer began [] c ∈ is ∧ s.api.dieAt = began + wifiConnectionTimeout

/-- The tasks of the connections: all but those of WifiConnectionCompleted. -/
def tasks (is : List Input) : List Input := is.filter fun i => decide (i ≠ .wifiConnectionCompleted)

variable (decode encode) in
/-- **The invariant**: the tasks are those of the connections that are over, one behind the other, and of
    the one that is not. -/
def Inv (is : List Input) (s : Station) : Prop :=
  ∃ past now, tasks is = past.flatten ++ now ∧ List.Forall₂ (Proper decode encode) past s.finished ∧
    Open decode now s

theorem tasks_concat (is : List Input) {i : Input} (hi : i ≠ .wifiConnectionCompleted) :
    tasks (is ++ [i]) = tasks is ++ [i] := by
  unfold tasks
  rw [List.filter_append, List.filter_singleton]
  simp [hi]

variable (encode) in
/-- What `write` leaves alone, and what the buffer holds then. -/
theorem write_cases (r : Reply) (s : Station) :
    (s.write encode r = (false, s) ∧
      ∀ bytes, encode r = some bytes → wifiSocketBufferSize < bytes.length) ∨
    ∃ bytes, encode r = some bytes ∧ bytes.length ≤ wifiSocketBufferSize ∧
      s.write encode r = (true, { s with connection := { s.connection with buffer := bytes } }) := by
  unfold Station.write
  cases hencode : encode r with
  | none => exact Or.inl ⟨rfl, fun _ h => nomatch h⟩
  | some bytes =>
      dsimp only
      split
      · next hfits => exact Or.inr ⟨bytes, rfl, hfits, rfl⟩
      · next hlong => exact Or.inl ⟨rfl, fun _ h => Option.some.inj h ▸ Nat.lt_of_not_le hlong⟩

/-- What is sent to an app that is there. -/
theorem send_open {s : Station} (hopen : s.connection.client = true) (accepted : Nat) :
    s.send accepted = (min accepted s.connection.buffer.length, { s with
      connection := { s.connection with
        buffer := if s.connection.buffer.length ≤ accepted then [] else s.connection.buffer }
      exchange := { s.exchange with
        sent := s.exchange.sent ++ s.connection.buffer.take accepted } }) :=
  if_pos hopen

/-- A connection that is open is closed, unless the app is gone. -/
theorem stop_open {s : Station} (hopen : s.connection.client = true) (c : Conditions) :
    (s.stop c).exchange.query = s.exchange.query ∧ (s.stop c).exchange.sent = s.exchange.sent ∧
      ((s.stop c).exchange.closed = true ∨ c.connected = false) ∧
      (s.stop c).finished = s.finished := by
  unfold Station.stop
  rw [hopen]
  cases c.connected with
  | false => exact ⟨rfl, rfl, Or.inr rfl, rfl⟩
  | true => exact ⟨rfl, rfl, Or.inl rfl, rfl⟩

/-- **The end of a connection that is open**: the buffer is sent as far as the socket accepts it. -/
theorem flushAndClose_open {s : Station} (hopen : s.connection.client = true) (c : Conditions) :
    (s.flushAndClose c).exchange.query = s.exchange.query ∧
      (s.flushAndClose c).exchange.sent = s.exchange.sent ++ s.connection.buffer.take c.accepted ∧
      ((s.flushAndClose c).exchange.closed = true ∨ c.connected = false) ∧
      (s.flushAndClose c).finished = s.finished := by
  unfold Station.flushAndClose Station.flush
  split
  · next hempty =>
      rw [hempty, List.take_nil, List.append_nil]
      exact stop_open hopen c
  · rw [send_open hopen]
    exact stop_open (s := { s with
      connection := { s.connection with
        buffer := if s.connection.buffer.length ≤ c.accepted then [] else s.connection.buffer }
      exchange := { s.exchange with
        sent := s.exchange.sent ++ s.connection.buffer.take c.accepted } }) hopen c

/-- On a connection that is closed already nothing is sent. -/
theorem flushAndClose_closed {s : Station} (hclosed : s.connection.client = false)
    (c : Conditions) : s.flushAndClose c = s := by
  have hflush : s.flush c.accepted = s := by
    unfold Station.flush Station.send
    rw [hclosed]
    exact ite_self s
  unfold Station.flushAndClose
  rw [hflush]
  unfold Station.stop
  rw [hclosed]
  rfl

/-! ## 4. The tasks -/

theorem Serving.client {query : Option QueryType} {s : Station} (h : Serving query s) :
    s.connection.client = true := by
  rw [h.connection]

theorem Serving.buffer {query : Option QueryType} {s : Station} (h : Serving query s) :
    s.connection.buffer = [] := by
  rw [h.connection]

theorem Serving.query_eq {query : Option QueryType} {s : Station} (h : Serving query s) :
    s.exchange.query = query := by
  rw [h.exchange]

theorem Serving.sent {query : Option QueryType} {s : Station} (h : Serving query s) :
    s.exchange.sent = [] := by
  rw [h.exchange]

/-- **A connection is over** with this task. -/
theorem inv_completed {is now : List Input} {past : List (List Input)} {s t : Station} {i : Input}
    (hi : i ≠ .wifiConnectionCompleted) (htasks : tasks is = past.flatten ++ now)
    (hpast : List.Forall₂ (Proper decode encode) past s.finished)
    (hfinished : t.finished = s.finished) (hproper : Proper decode encode (now ++ [i]) t.exchange) :
    Inv decode encode (is ++ [i]) t.completed := by
  refine ⟨past ++ [now ++ [i]], [], ?_, ?_, ?_⟩
  · rw [tasks_concat is hi, htasks, List.flatten_append, List.flatten_singleton, List.append_nil,
      List.append_assoc]
  · show List.Forall₂ _ _ (t.finished ++ [t.exchange])
    rw [hfinished]
    exact List.rel_append hpast (.cons hproper .nil)
  · exact ⟨fun _ => rfl, (fun _ h => nomatch h), (fun _ h => nomatch h), (fun _ h => nomatch h),
      fun h => nomatch h⟩

/-- The connection goes on with this task. -/
theorem begun_concat {is : List Input} (h : Begun is) {i : Input} (hi : i ≠ .accept) :
    Begun (is ++ [i]) := by
  obtain ⟨rest, rfl, hrest⟩ := h
  refine ⟨rest ++ [i], rfl, fun hmem => ?_⟩
  rcases List.mem_append.mp hmem with hmem | hmem
  · exact hrest hmem
  · exact hi (List.mem_singleton.mp hmem).symm

theorem Asked.concat {is : List Input} {query : QueryType} (h : Asked decode is query) (i : Input) :
    Asked decode (is ++ [i]) query := by
  obtain ⟨now, received, c, hmem, hdecode⟩ := h
  exact ⟨now, received, c, List.mem_append_left _ hmem, hdecode⟩

/-- **What came of an app that has asked**: what was sent is what the last task sends. -/
theorem proper_asked {now : List Input} {t : Station} {query : QueryType} {i : Input}
    {c : Conditions} (hbegun : Begun now) (hi : i ≠ .accept) (hgone : i.Gone ↔ c.connected = false)
    (hasked : Asked decode (now ++ [i]) query) (hclient : t.connection.client = true)
    (hquery : t.exchange.query = some query)
    (hreplied : Replied encode query i
      (t.exchange.sent ++ t.connection.buffer.take c.accepted)) :
    Proper decode encode (now ++ [i]) (t.flushAndClose c).exchange := by
  obtain ⟨hkept, hsent, hended, _⟩ := flushAndClose_open hclient c
  have hlast : (now ++ [i]).getLast? = some i := List.getLast?_concat
  rw [hquery] at hkept
  refine ⟨begun_concat hbegun hi, fun other hother => ?_,
    (fun hnone => nomatch hkept.symm.trans hnone), fun other hother => ?_,
    hended.imp_right fun h => ⟨i, hlast, hgone.mpr h⟩⟩
  · cases hkept.symm.trans hother
    exact hasked
  · cases hkept.symm.trans hother
    exact ⟨i, hlast, hsent ▸ hreplied⟩

/-- **What came of an app that is refused.** -/
theorem proper_refused {now : List Input} {t : Station} {i : Input} (hbegun : Begun now)
    (hi : i ≠ .accept) (hexchange : t.exchange = {}) (hrefused : Refused decode (now ++ [i]))
    (c : Conditions) :
    Proper decode encode (now ++ [i]) (t.close.flushAndClose c).exchange := by
  rw [flushAndClose_closed (s := t.close) rfl]
  unfold Station.close
  rw [hexchange]
  exact ⟨begun_concat hbegun hi, (fun _ h => nomatch h), fun _ => ⟨rfl, hrefused⟩,
    (fun _ h => nomatch h), Or.inl rfl⟩

/-- **A reply from the buffer**, or none: one that is written is sent as far as the socket accepts it. -/
theorem replied_write {s : Station} {query : QueryType} (hserving : Serving (some query) s)
    {r : Reply} {i : Input} (c : Conditions) (hbuilt : Built query i r)
    (hunique : ∀ r', Built query i r' → r' = r)
    (hsent : ∀ bytes, Sent bytes i (bytes.take c.accepted)) :
    Replied encode query i ((s.write encode r).2.exchange.sent ++
      (s.write encode r).2.connection.buffer.take c.accepted) := by
  rcases write_cases encode r s with ⟨hwrite, hlong⟩ | ⟨bytes, hencode, hfits, hwrite⟩
  · rw [hwrite]
    refine Or.inr ⟨?_, fun r' bytes hbuilt' hencode => ?_⟩
    · dsimp only
      rw [hserving.sent, hserving.buffer, List.take_nil, List.append_nil]
    · rw [hunique r' hbuilt'] at hencode
      exact hlong bytes hencode
  · rw [hwrite]
    dsimp only
    rw [hserving.sent, List.nil_append]
    exact Or.inl ⟨r, bytes, hbuilt, hencode, hfits, hsent bytes⟩

/-- Nothing is sent where no reply is built. -/
theorem replied_nothing {s : Station} {query : QueryType} (hserving : Serving (some query) s)
    {i : Input} (c : Conditions) (hnone : ∀ r, ¬ Built query i r) :
    Replied encode query i (s.exchange.sent ++ s.connection.buffer.take c.accepted) := by
  refine Or.inr ⟨?_, fun r _ hbuilt => absurd hbuilt (hnone r)⟩
  rw [hserving.sent, hserving.buffer, List.take_nil, List.append_nil]

variable (encode) in
theorem write_client (r : Reply) (s : Station) :
    (s.write encode r).2.connection.client = s.connection.client ∧
      (s.write encode r).2.exchange = s.exchange ∧ (s.write encode r).2.finished = s.finished := by
  rcases write_cases encode r s with ⟨hwrite, _⟩ | ⟨bytes, _, _, hwrite⟩
  · rw [hwrite]
    exact ⟨rfl, rfl, rfl⟩
  · rw [hwrite]
    exact ⟨rfl, rfl, rfl⟩

/-- A reply that `handle()` writes is one to the query. -/
theorem answers_of_replyType {query : QueryType} {type : ReplyType}
    (h : replyType query = some type) : Answers query type := by
  cases query with
  | QUERY_DOWNLOAD_FILE => cases h
  | QUERY_MODULE => cases h
  | _ => exact (Option.some.inj h).symm

/-- `handle()` of a query that it answers itself. -/
theorem handle_of_replyType {query : QueryType} {type : ReplyType}
    (h : replyType query = some type) (c : Conditions) (s : Station) :
    s.handle encode query c =
      ((if query = .QUERY_METADATA ∧ c.metadata = false then s
        else (s.write encode ⟨type, c.content⟩).2).flushAndClose c).completed := by
  cases query with
  | QUERY_DOWNLOAD_FILE => cases h
  | QUERY_MODULE => cases h
  | _ => cases h; rfl

/-- The queries that `handle()` leaves to another state. -/
theorem replyType_eq_none {query : QueryType} (h : replyType query = none) :
    query = .QUERY_DOWNLOAD_FILE ∨ query = .QUERY_MODULE := by
  cases query with
  | QUERY_DOWNLOAD_FILE => exact Or.inl rfl
  | QUERY_MODULE => exact Or.inr rfl
  | _ => cases h

/-- The reply that `handle()` builds is the only one. -/
theorem built_own {query : QueryType} {type : ReplyType} (h : replyType query = some type)
    {now : Uptime} {received : List Byte} {c : Conditions} {r : Reply}
    (hbuilt : Built query (.appServicer now received c) r) :
    r = ⟨type, c.content⟩ ∧ (query = .QUERY_METADATA → c.metadata = true) := by
  cases hbuilt with
  | own _ _ _ hanswers hmetadata =>
      refine ⟨?_, hmetadata⟩
      have htype := answers_of_replyType h
      cases query with
      | QUERY_DOWNLOAD_FILE => cases h
      | QUERY_MODULE => cases h
      | _ =>
          cases hanswers
          cases htype
          rfl

theorem inv_handle {is now : List Input} {past : List (List Input)} {s : Station}
    {query : QueryType} {time : Uptime} {received : List Byte} {c : Conditions}
    (htasks : tasks is = past.flatten ++ now)
    (hpast : List.Forall₂ (Proper decode encode) past s.finished) (hbegun : Begun now)
    (hdecode : decode received = some query) (hserving : Serving (some query) s) :
    Inv decode encode (is ++ [.appServicer time received c]) (s.handle encode query c) := by
  have hasked : Asked decode (now ++ [.appServicer time received c]) query :=
    ⟨time, received, c, List.mem_append_right _ (List.mem_singleton_self _), hdecode⟩
  have hbegun' := begun_concat (i := .appServicer time received c) hbegun Input.noConfusion
  have hgoes : tasks (is ++ [.appServicer time received c]) =
      past.flatten ++ (now ++ [.appServicer time received c]) := by
    rw [tasks_concat is Input.noConfusion, htasks, List.append_assoc]
  -- another state goes on with it
  have hleft {phase : Phase} (hphase : phase.asked = some (some query))
      (hother : phase ≠ .appServicer) :
      Inv decode encode (is ++ [.appServicer time received c]) { s with phase } := by
    refine ⟨past, _, hgoes, hpast, (fun hnone => nomatch hphase.symm.trans hnone),
      fun _ _ => hbegun', fun other h => ?_, fun other h => ?_, fun h => absurd h hother⟩
    · obtain rfl := Option.some.inj (hphase.symm.trans h)
      exact ⟨hserving.connection, hserving.exchange⟩
    · obtain rfl := Option.some.inj (Option.some.inj (hphase.symm.trans h))
      exact hasked
  cases htype : replyType query with
  | none =>
      rcases replyType_eq_none htype with rfl | rfl
      · exact hleft rfl Phase.noConfusion
      · exact hleft rfl Phase.noConfusion
  | some type =>
      rw [handle_of_replyType htype]
      obtain ⟨hclient, hexchange, hfinished⟩ := write_client encode ⟨type, c.content⟩ s
      by_cases hmetadata : query = .QUERY_METADATA ∧ c.metadata = false
      · rw [if_pos hmetadata]
        refine inv_completed Input.noConfusion htasks hpast
          (flushAndClose_open hserving.client c).2.2.2 ?_
        refine proper_asked hbegun Input.noConfusion Iff.rfl hasked hserving.client
          hserving.query_eq (replied_nothing hserving c fun r hbuilt => ?_)
        rw [(built_own htype hbuilt).2 hmetadata.1] at hmetadata
        exact absurd hmetadata.2 (by decide)
      · rw [if_neg hmetadata]
        refine inv_completed Input.noConfusion htasks hpast
          ((flushAndClose_open (hclient.trans hserving.client) c).2.2.2.trans hfinished) ?_
        refine proper_asked hbegun Input.noConfusion Iff.rfl hasked
          (hclient.trans hserving.client) ((congrArg _ hexchange).trans hserving.query_eq)
          (replied_write hserving c ?_ (fun r' h => (built_own htype h).1)
            fun bytes => .own time received c)
        refine .own time received c (answers_of_replyType htype) fun hquery => ?_
        by_contra hnot
        exact hmetadata ⟨hquery, Bool.eq_false_iff.mpr hnot⟩

/-- **The query is read.** -/
theorem Inv.appServicer {is : List Input} {s : Station} (h : Inv decode encode is s)
    (hphase : s.phase = .appServicer) (time : Uptime) (received : List Byte) (c : Conditions) :
    Inv decode encode (is ++ [.appServicer time received c])
      (s.appServicer decode encode time received c) := by
  obtain ⟨past, now, htasks, hpast, hopen⟩ := h
  have hphase' : s.phase.asked = some none := by rw [hphase]; rfl
  have hserving : Serving none s := hopen.serving none hphase'
  have hbegun : Begun now := hopen.begun none hphase'
  have hlast : (now ++ [Input.appServicer time received c]).getLast? =
      some (.appServicer time received c) := List.getLast?_concat
  unfold Station.appServicer
  split
  · next hexpired =>
      obtain ⟨began, c', hmem, hdie⟩ := hopen.dieAt hphase hexpired.1
      refine inv_completed Input.noConfusion htasks hpast
        ((congrArg Station.finished (flushAndClose_closed (s := s.close) rfl c)).trans rfl) ?_
      refine proper_refused hbegun Input.noConfusion hserving.exchange
        ⟨time, received, c, hlast, Or.inr ⟨began, c', List.mem_append_left _ hmem, ?_⟩⟩ c
      exact hdie ▸ hexpired.2
  · dsimp only
    cases received with
    | nil =>
        refine ⟨past, now ++ [Input.appServicer time [] c], ?_, hpast, ?_⟩
        · rw [tasks_concat is Input.noConfusion, htasks, List.append_assoc]
        · refine ⟨(fun hnone => nomatch hphase'.symm.trans hnone),
            fun _ _ => begun_concat hbegun Input.noConfusion, fun query hasked => ?_,
            (fun query hasked => nomatch hphase'.symm.trans hasked), fun _ hdie => ?_⟩
          · obtain rfl := Option.some.inj (hphase'.symm.trans hasked)
            exact ⟨hserving.connection, hserving.exchange⟩
          · by_cases hzero : s.api.dieAt = 0
            · exact ⟨time, c, List.mem_append_right _ (List.mem_singleton_self _), by
                dsimp only
                rw [if_pos hzero]⟩
            · obtain ⟨began, c', hmem, heq⟩ := hopen.dieAt hphase hzero
              exact ⟨began, c', List.mem_append_left _ hmem, by
                dsimp only
                rw [if_neg hzero, heq]⟩
    | cons byte rest =>
        dsimp only
        cases hdecode : decode (byte :: rest) with
        | none =>
            dsimp only
            refine inv_completed Input.noConfusion htasks hpast ?_ ?_
            · rw [flushAndClose_closed rfl]
              rfl
            · refine proper_refused hbegun Input.noConfusion ?_
                ⟨time, byte :: rest, c, hlast, Or.inl hdecode⟩ c
              exact hserving.exchange
        | some query =>
            dsimp only
            refine inv_handle htasks ?_ hbegun hdecode ⟨?_, ?_⟩
            · exact hpast
            · rw [hserving.connection]
            · rw [hserving.exchange]

/-- **The module is asked.** -/
theorem Inv.wifiQueryModule {is : List Input} {s : Station} (h : Inv decode encode is s)
    (hphase : s.phase = .wifiQueryModule) (result : ModuleResult) (c : Conditions) :
    Inv decode encode (is ++ [.wifiQueryModule result c])
      (s.wifiQueryModule encode result c) := by
  obtain ⟨past, now, htasks, hpast, hopen⟩ := h
  have hphase' : s.phase.asked = some (some .QUERY_MODULE) := by rw [hphase]; rfl
  have hserving := hopen.serving _ hphase'
  have hbegun := hopen.begun _ hphase'
  have hasked := (hopen.asked _ hphase').concat (.wifiQueryModule result c)
  -- a reply that is passed on
  have hpassed {type : ReplyType} (htype : result.passed = some type) :
      Inv decode encode (is ++ [.wifiQueryModule result c])
        ((s.write encode ⟨type, c.content⟩).2.flushAndClose c).completed := by
    obtain ⟨hclient, hexchange, hfinished⟩ := write_client encode ⟨type, c.content⟩ s
    refine inv_completed Input.noConfusion htasks hpast
      ((flushAndClose_open (hclient.trans hserving.client) c).2.2.2.trans hfinished) ?_
    refine proper_asked hbegun Input.noConfusion Iff.rfl hasked (hclient.trans hserving.client)
      ((congrArg _ hexchange).trans hserving.query_eq)
      (replied_write hserving c (.module c htype) (fun r' hbuilt => ?_)
        fun bytes => .module result c)
    cases hbuilt with
    | module _ htype' =>
        cases htype.symm.trans htype'
        rfl
  unfold Station.wifiQueryModule
  cases result with
  | replied isError =>
      cases isError with
      | false => exact hpassed rfl
      | true => exact hpassed rfl
  | failed => exact hpassed rfl
  | timedOut =>
      refine inv_completed Input.noConfusion htasks hpast
        (flushAndClose_open hserving.client c).2.2.2 ?_
      refine proper_asked hbegun Input.noConfusion Iff.rfl hasked hserving.client
        hserving.query_eq (replied_nothing hserving c fun r hbuilt => ?_)
      cases hbuilt with
      | module _ htype => cases htype

variable (encode) in
/-- **The header**: nothing is written, or all of it is sent, or it stays in the buffer, sent in part. -/
theorem writeHeader_cases {s : Station} {query : Option QueryType} (h : Serving query s)
    (accepted : Nat) (c : Conditions) :
    (s.writeHeader encode accepted c = (false, s) ∧
      ∀ bytes, encode ⟨.REPLY_DOWNLOAD_FILE, c.content⟩ = some bytes →
        wifiSocketBufferSize < bytes.length) ∨
    ∃ bytes, encode ⟨.REPLY_DOWNLOAD_FILE, c.content⟩ = some bytes ∧
      bytes.length ≤ wifiSocketBufferSize ∧
      (bytes.length ≤ accepted ∧ s.writeHeader encode accepted c =
          (true, { s with exchange := { s.exchange with sent := bytes } }) ∨
        accepted < bytes.length ∧ s.writeHeader encode accepted c = (false, { s with
          connection := { s.connection with buffer := bytes }
          exchange := { s.exchange with sent := bytes.take accepted } })) := by
  unfold Station.writeHeader
  rcases write_cases encode ⟨.REPLY_DOWNLOAD_FILE, c.content⟩ s with
    ⟨hwrite, hlong⟩ | ⟨bytes, hencode, hfits, hwrite⟩
  · rw [hwrite]
    exact Or.inl ⟨rfl, hlong⟩
  · refine Or.inr ⟨bytes, hencode, hfits, ?_⟩
    rw [hwrite]
    dsimp only
    rw [if_pos rfl, send_open (s := { s with
      connection := { s.connection with buffer := bytes } }) h.client]
    dsimp only
    rw [h.sent, List.nil_append]
    by_cases hall : bytes.length ≤ accepted
    · refine Or.inl ⟨hall, ?_⟩
      rw [if_pos hall, List.take_of_length_le hall, Nat.min_eq_right hall, h.connection]
      simp only [decide_true]
    · refine Or.inr ⟨Nat.lt_of_not_le hall, ?_⟩
      have hpart : min accepted bytes.length ≠ bytes.length := by omega
      rw [if_neg hall, decide_eq_false hpart]

/-- What is built of a file. -/
theorem built_file {headerAccepted : Nat} {data : List Byte} {c : Conditions} {r : Reply}
    (h : Built .QUERY_DOWNLOAD_FILE (.wifiDownloadFile headerAccepted data c) r) :
    r = ⟨.REPLY_DOWNLOAD_FILE, c.content⟩ ∧ c.metadata = true := by
  cases h with
  | file _ _ _ hmetadata => exact ⟨rfl, hmetadata⟩

/-- **A file is sent.** -/
theorem Inv.wifiDownloadFile {is : List Input} {s : Station} (h : Inv decode encode is s)
    (hphase : s.phase = .wifiDownloadFile) (headerAccepted : Nat) (data : List Byte)
    (c : Conditions) : Inv decode encode (is ++ [.wifiDownloadFile headerAccepted data c])
      (s.wifiDownloadFile encode headerAccepted data c) := by
  obtain ⟨past, now, htasks, hpast, hopen⟩ := h
  have hphase' : s.phase.asked = some (some .QUERY_DOWNLOAD_FILE) := by rw [hphase]; rfl
  have hserving := hopen.serving _ hphase'
  have hbegun := hopen.begun _ hphase'
  have hasked := (hopen.asked _ hphase').concat (.wifiDownloadFile headerAccepted data c)
  -- what is in the buffer at the end goes out behind what was sent
  have hend {t : Station} (hfinished : t.finished = s.finished)
      (hclient : t.connection.client = true)
      (hquery : t.exchange.query = some .QUERY_DOWNLOAD_FILE)
      (hreplied : Replied encode .QUERY_DOWNLOAD_FILE (.wifiDownloadFile headerAccepted data c)
        (t.exchange.sent ++ t.connection.buffer.take c.accepted)) :
      Inv decode encode (is ++ [.wifiDownloadFile headerAccepted data c])
        (t.flushAndClose c).completed :=
    inv_completed Input.noConfusion htasks hpast
      ((flushAndClose_open hclient c).2.2.2.trans hfinished)
      (proper_asked hbegun Input.noConfusion Iff.rfl hasked hclient hquery hreplied)
  unfold Station.wifiDownloadFile
  by_cases hmetadata : c.metadata = true
  · have hbuilt := Built.file headerAccepted data c hmetadata
    rw [if_pos hmetadata]
    rcases writeHeader_cases encode hserving headerAccepted c with
      ⟨hwrote, hlong⟩ | ⟨bytes, hencode, hfits, ⟨hwhole, hwrote⟩ | ⟨hpart, hwrote⟩⟩
    · rw [hwrote]
      refine hend rfl hserving.client hserving.query_eq (Or.inr ⟨?_, fun r bytes hr hencode => ?_⟩)
      · dsimp only
        rw [if_neg Bool.false_ne_true, hserving.sent, hserving.buffer, List.take_nil,
          List.append_nil]
      · rw [(built_file hr).1] at hencode
        exact hlong bytes hencode
    · rw [hwrote]
      refine hend rfl hserving.client hserving.query_eq
        (Or.inl ⟨_, bytes, hbuilt, hencode, hfits, ?_⟩)
      dsimp only
      rw [if_pos rfl, hserving.buffer, List.take_nil, List.append_nil]
      exact .file headerAccepted data c hwhole
    · rw [hwrote]
      exact hend rfl hserving.client hserving.query_eq
        (Or.inl ⟨_, bytes, hbuilt, hencode, hfits, .twice headerAccepted data c hpart⟩)
  · rw [if_neg hmetadata]
    exact hend rfl hserving.client hserving.query_eq
      (replied_nothing hserving c fun r hr => hmetadata (built_file hr).2)

/-- **One step keeps the invariant.** -/
theorem Inv.step {is : List Input} {s s' : Station} {i : Input} (h : Inv decode encode is s)
    (hs : step decode encode s i = some s') : Inv decode encode (is ++ [i]) s' := by
  cases i with
  | accept =>
      simp only [AppSession.step] at hs
      split at hs
      · next hphase =>
          cases hs
          obtain ⟨past, now, htasks, hpast, hopen⟩ := h
          obtain rfl : now = [] := hopen.idle (by rw [hphase]; rfl)
          refine ⟨past, [.accept], ?_, hpast, (fun h => nomatch h),
            fun _ _ => ⟨[], rfl, List.not_mem_nil⟩, fun query hasked => ?_, (fun _ h => nomatch h),
            fun _ hdie => absurd rfl hdie⟩
          · rw [tasks_concat is Input.noConfusion, htasks, List.append_nil]
          · obtain rfl := Option.some.inj hasked
            exact ⟨rfl, rfl⟩
      · cases hs
  | appServicer now received c =>
      simp only [AppSession.step] at hs
      split at hs
      · next hphase =>
          cases hs
          exact h.appServicer hphase.1 now received c
      · cases hs
  | wifiQueryModule result c =>
      simp only [AppSession.step] at hs
      split at hs
      · next hphase =>
          cases hs
          exact h.wifiQueryModule hphase result c
      · cases hs
  | wifiDownloadFile headerAccepted data c =>
      simp only [AppSession.step] at hs
      split at hs
      · next hphase =>
          cases hs
          exact h.wifiDownloadFile hphase headerAccepted data c
      · cases hs
  | wifiConnectionCompleted =>
      simp only [AppSession.step] at hs
      split at hs
      · next hphase =>
          cases hs
          obtain ⟨past, now, htasks, hpast, hopen⟩ := h
          obtain rfl : now = [] := hopen.idle (by rw [hphase]; rfl)
          refine ⟨past, [], ?_, hpast, fun _ => rfl, (fun _ h => nomatch h),
            (fun _ h => nomatch h), (fun _ h => nomatch h), fun h => nomatch h⟩
          unfold tasks at htasks ⊢
          rw [List.filter_append, htasks]
          exact List.append_nil _
      · cases hs

/-! ## 5. Runs -/

/-- The station serves somebody. -/
def Phase.serves : Phase → Nat
  | .appServicer => 1
  | .wifiQueryModule => 1
  | .wifiDownloadFile => 1
  | .listening => 0
  | .wifiConnectionCompleted => 0

/-- The connections that have been accepted. -/
def accepts (tr : List (Station × Input)) : Nat := tr.countP fun p => p.2 = .accept

/-- How many connections are over, and with the one that is not how many there were. -/
def Station.served (s : Station) : Nat := s.finished.length + s.phase.serves

theorem served_completed {t : Station} {l : List Exchange} (h : t.finished = l) :
    t.completed.served = l.length + 1 := by
  unfold Station.served Station.completed
  dsimp only
  rw [List.length_append, h]
  rfl

theorem write_finished (r : Reply) (s : Station) :
    (s.write encode r).2.finished = s.finished :=
  (write_client encode r s).2.2

theorem flushAndClose_finished (c : Conditions) (s : Station) :
    (s.flushAndClose c).finished = s.finished := by
  cases hclient : s.connection.client with
  | false => rw [flushAndClose_closed hclient c]
  | true => exact (flushAndClose_open hclient c).2.2.2

/-- `handle()` ends the connection or leaves it to a state that will. -/
theorem handle_served (query : QueryType) (c : Conditions) (s : Station) :
    (s.handle encode query c).served = s.finished.length + 1 := by
  cases htype : replyType query with
  | none => rcases replyType_eq_none htype with rfl | rfl <;> rfl
  | some type =>
      rw [handle_of_replyType htype]
      refine served_completed ((flushAndClose_finished _ _).trans ?_)
      split
      · rfl
      · exact write_finished _ _

theorem appServicer_served {s : Station} (hphase : s.phase = .appServicer) (now : Uptime)
    (received : List Byte) (c : Conditions) :
    (s.appServicer decode encode now received c).served = s.finished.length + 1 := by
  unfold Station.appServicer
  split
  · exact served_completed (flushAndClose_finished _ _)
  · dsimp only
    cases received with
    | nil =>
        unfold Station.served
        rw [hphase]
        rfl
    | cons byte rest =>
        dsimp only
        split
        · exact served_completed (flushAndClose_finished _ _)
        · exact handle_served _ _ _

theorem wifiQueryModule_served (result : ModuleResult) (c : Conditions) (s : Station) :
    (s.wifiQueryModule encode result c).served = s.finished.length + 1 := by
  unfold Station.wifiQueryModule
  refine served_completed ((flushAndClose_finished _ _).trans ?_)
  cases result with
  | replied isError => exact write_finished _ _
  | failed => exact write_finished _ _
  | timedOut => rfl

variable (encode) in
theorem writeHeader_finished (accepted : Nat) (c : Conditions) (s : Station) :
    (s.writeHeader encode accepted c).2.finished = s.finished := by
  unfold Station.writeHeader
  rcases write_cases encode ⟨.REPLY_DOWNLOAD_FILE, c.content⟩ s with
    ⟨hwrite, _⟩ | ⟨bytes, _, _, hwrite⟩
  · rw [hwrite]
    rfl
  · rw [hwrite]
    dsimp only
    rw [if_pos rfl]
    unfold Station.send
    split
    · rfl
    · rfl

theorem wifiDownloadFile_served (headerAccepted : Nat) (data : List Byte) (c : Conditions)
    (s : Station) :
    (s.wifiDownloadFile encode headerAccepted data c).served = s.finished.length + 1 := by
  unfold Station.wifiDownloadFile
  refine served_completed ((flushAndClose_finished _ _).trans ?_)
  split
  · have hkept := writeHeader_finished encode headerAccepted c s
    rcases hheader : s.writeHeader encode headerAccepted c with ⟨wrote, t⟩
    rw [hheader] at hkept
    cases wrote with
    | false => exact hkept
    | true => exact hkept
  · rfl

/-- **One step serves nobody twice and forgets nobody.** -/
theorem step_served {s s' : Station} {i : Input} (hs : step decode encode s i = some s') :
    s'.served = s.served + if i = .accept then 1 else 0 := by
  have hserves : ∀ {phase : Phase}, s.phase = phase → s.served = s.finished.length + phase.serves :=
    fun h => h ▸ rfl
  cases i with
  | accept =>
      simp only [step] at hs
      split at hs
      · next hphase =>
          cases hs
          rw [hserves hphase, if_pos rfl]
          rfl
      · cases hs
  | appServicer now received c =>
      simp only [step] at hs
      split at hs
      · next hphase =>
          cases hs
          rw [appServicer_served hphase.1, hserves hphase.1, if_neg Input.noConfusion]
          rfl
      · cases hs
  | wifiQueryModule result c =>
      simp only [step] at hs
      split at hs
      · next hphase =>
          cases hs
          rw [wifiQueryModule_served, hserves hphase, if_neg Input.noConfusion]
          rfl
      · cases hs
  | wifiDownloadFile headerAccepted data c =>
      simp only [step] at hs
      split at hs
      · next hphase =>
          cases hs
          rw [wifiDownloadFile_served, hserves hphase, if_neg Input.noConfusion]
          rfl
      · cases hs
  | wifiConnectionCompleted =>
      simp only [step] at hs
      split at hs
      · next hphase =>
          cases hs
          rw [hserves hphase, if_neg Input.noConfusion]
          rfl
      · cases hs

/-- **Every connection is served once and as it should be**: all that have been accepted are over but the
    one that is served now, and the tasks fall apart into those of the connections. -/
theorem connections_answered {tr : List (Station × Input)} {s : Station}
    (h : Run (step decode encode) {} tr s) :
    s.finished.length + s.phase.serves = accepts tr ∧
      ∃ past now, tasks (tr.map (·.2)) = past.flatten ++ now ∧
        List.Forall₂ (Proper decode encode) past s.finished ∧ Open decode now s := by
  constructor
  · refine h.inv_steps (fun tr s => s.served = accepts tr) rfl fun tr s i s' hserved hs => ?_
    unfold accepts at hserved ⊢
    rw [step_served hs, hserved, List.countP_append, List.countP_singleton]
    simp only [decide_eq_true_eq]
  · have hstart : Inv decode encode [] {} :=
      ⟨[], [], rfl, .nil, fun _ => rfl, (fun _ h => nomatch h), (fun _ h => nomatch h),
        (fun _ h => nomatch h), fun h => nomatch h⟩
    refine h.inv_steps (fun tr s => Inv decode encode (tr.map (·.2)) s) hstart
      fun tr s i s' hinv hs => ?_
    rw [List.map_append, List.map_singleton]
    exact hinv.step hs

end Sessions

/-- An app that asks for the status, whose reply the socket does not accept whole, and one that sends
    nothing that is a query. -/
def twoApps : List Input :=
  [.accept, .appServicer 5 [] { accepted := 0 },
    .appServicer 10 [2, 1, 13] { content := [7, 8], accepted := 2 }, .wifiConnectionCompleted,
    .accept, .appServicer 20 [0] { accepted := 9, connected := false }]

/-- Who sends three bytes asks for the status. -/
def threeBytes (bytes : List Byte) : Option QueryType :=
  if bytes.length = 3 then some .QUERY_STATUS else none

/-- A reply as it is sent: its length, and what it says. -/
def delimited (r : Reply) : Option (List Byte) := some (r.content.length :: r.content)

theorem connections_answered_two : ∃ tr s, Run (step threeBytes delimited) {} tr s ∧
    s.finished = [{ query := some .QUERY_STATUS, sent := [2, 7], closed := true },
      { closed := true }] ∧
    (s.finished.length + s.phase.serves = accepts tr ∧
      ∃ past now, tasks (tr.map (·.2)) = past.flatten ++ now ∧
        List.Forall₂ (Proper threeBytes delimited) past s.finished ∧ Open threeBytes now s) := by
  have hexec : (exec (step threeBytes delimited) {} twoApps).map (·.finished) =
      some [{ query := some .QUERY_STATUS, sent := [2, 7], closed := true },
        { closed := true }] := by
    decide +kernel
  obtain ⟨tr, s, hrun, hfinished⟩ := run_of_exec_map hexec
  exact ⟨tr, s, hrun, hfinished, connections_answered hrun⟩

end FieldKit.AppSession

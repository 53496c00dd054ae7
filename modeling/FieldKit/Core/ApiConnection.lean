/-
  File:      FieldKit/Core/ApiConnection.lean
  Subject:   `ApiConnection::readQuery` (api_connection.cpp): can an app trip an assertion?

  A query is decoded from the buffer of the connection, with memory from the cleared Main pool.
  What nanopb finds in the bytes is nanopb's: the fields that have a callback, in order, up to the
  end of the message or to where it is malformed.

  * `decodeQuery_decided_iff` -- of any pool: the decoding ends with a query or refuses the bytes
    exactly if no field takes memory behind another occurrence of it, and there is enough;
  * `readQuery_decided_iff` -- the connection yields a query or is closed exactly then;
  * `query_beyond_pool` -- a query for a module that is longer than the pool.
-/
import FieldKit.Protobuf.Demand

namespace FieldKit.Api

open Lib Protobuf

/-! ## 1. The connection -/

/-- What nanopb finds in the bytes of a query, of the fields that have a callback. -/
inductive Found where
  | value (f : AppQueryField) (bytes : List Byte)
  | network (item : List (NetworkField × List Byte))
  deriving DecidableEq, Repr

/-- How the bytes end: with the message, or where they are malformed, perhaps in a network some of
    whose fields were found. -/
inductive Ending where
  | complete
  | malformed
  | malformedNetwork (item : List (NetworkField × List Byte))
  deriving DecidableEq, Repr

/-- What nanopb makes of bytes. -/
structure Parsed where
  found : List Found
  ending : Ending
  deriving DecidableEq, Repr

/-- The fields of a network. Everything can be read that stands in a buffer. -/
def networkFields (item : List (NetworkField × List Byte)) : List (NetworkField × Value) :=
  item.map fun p => (p.1, { bytes := p.2 })

def Found.occurrence : Found → Occurrence .AppQueryMessage
  | .value f bytes => .value f { bytes }
  | .network item => .network rfl (networkFields item)

/-- The wire message, up to where it ends. -/
def Parsed.wire (p : Parsed) : List (Occurrence .AppQueryMessage) := p.found.map Found.occurrence

/-- `pb_decode_delimited`, of a query. -/
def decodeQuery (itemSize : Nat) (p : Parsed) : Decoding (Message .AppQueryMessage) := do
  let message ← decode itemSize (forDecode .AppQueryMessage) p.wire
  match p.ending with
  | .complete => return message
  | .malformed => throw .refused
  | .malformedNetwork item =>
    let _ ← decodeFields NetworkField.callback (fun _ => .pool) (networkFields item)
    throw .refused

section ReadQuery

variable (nanopb : List Byte → Parsed) (itemSize : Nat)

/-- `MessageBuffer::read(query)`, of what was received. -/
def bufferRead (received : List Byte) : Decoding (Message .AppQueryMessage) := do
  if received.length = 0 then throw .asserted
  decodeQuery itemSize (nanopb received)

/-- `ApiConnection`. -/
structure ApiConnection where
  dieAt : Uptime := 0
  bytesRead : Nat := 0
  deriving DecidableEq, Repr

/-- What comes of a call: nothing was there to read, a query is decoded, the connection is closed, or
    the station stands still. -/
inductive Answer where
  | waiting
  | query (message : Message .AppQueryMessage)
  | closed
  | halted (why : Halt)

/-- `WifiConnectionTimeout`. -/
def wifiConnectionTimeout : Uptime := 20 * seconds

/-- `WifiSocketBufferSize`. -/
def wifiSocketBufferSize : Nat := 1472

/-- The size of the Main pool. -/
def mainPoolSize : Nat := 512

/-- The connection is past its time. -/
def ApiConnection.Expired (now : Uptime) (c : ApiConnection) : Prop :=
  c.dieAt ≠ 0 ∧ c.dieAt < now

instance (now : Uptime) (c : ApiConnection) : Decidable (c.Expired now) :=
  inferInstanceAs (Decidable (_ ∧ _))

/-- `readQuery()` at `now`, with what the connection has received. -/
def readQuery (pool : Pool) (now : Uptime) (received : List Byte) (c : ApiConnection) :
    Answer × ApiConnection :=
  if c.Expired now then (.closed, c)
  else
    let c := if c.dieAt = 0 then { c with dieAt := now + wifiConnectionTimeout } else c
    if 0 < received.length then
      let c := { c with bytesRead := c.bytesRead + received.length }
      match bufferRead nanopb itemSize received { pool } with
      | .ok message _ => (.query message, c)
      | .error .refused _ => (.closed, c)
      | .error why _ => (.halted why, c)
    else (.waiting, c)

end ReadQuery

/-- **A query is decoded or the connection is closed**, if anything was received. -/
def Answer.Decided (a : Answer) : Prop := ∀ why, a ≠ .halted why

/-! ## 2. When it is decided -/

/-- What the last network takes, if it is malformed. Its array is not made. -/
def takenEnding : Ending → Nat
  | .malformedNetwork item => takenFields NetworkField.callback (networkFields item)
  | _ => 0

/-- **The fields can be decoded with so much memory**: no field takes memory behind another
    occurrence of it, in the query or in one network, and they do not take more. -/
structure Decodable (itemSize size : Nat) (p : Parsed) : Prop where
  single : SingleAll p.wire
  ending : ∀ item, p.ending = .malformedNetwork item →
    Single NetworkField.callback (networkFields item)
  room : taken itemSize 0 p.wire + takenEnding p.ending ≤ size

theorem readable_networkFields (item : List (NetworkField × List Byte)) :
    Readable (networkFields item) := by
  intro p hp
  obtain ⟨q, _, rfl⟩ := List.mem_map.mp hp
  rfl

/-- Whatever stands in the buffer can be read. -/
theorem readable_wire (p : Parsed) : ReadableAll p.wire := by
  unfold Parsed.wire
  induction p.found with
  | nil => exact ⟨fun q hq => (nomatch hq), fun item hitem => (nomatch hitem)⟩
  | cons x rest ih =>
      cases x with
      | value f bytes =>
          refine ⟨fun q hq => ?_, ih.items⟩
          rcases List.mem_cons.mp hq with rfl | hq
          · rfl
          · exact ih.values q hq
      | network item =>
          refine ⟨ih.values, fun i hi => ?_⟩
          rcases List.mem_cons.mp hi with rfl | hi
          · exact readable_networkFields item
          · exact ih.items i hi

/-- **The decoding of a query is decided exactly if its fields can be decoded.** -/
theorem decodeQuery_decided_iff (itemSize : Nat) (p : Parsed) {h : Heap}
    (hfrozen : h.pool.frozen = false) :
    ¬ Breaks (decodeQuery itemSize p h) ↔ Decodable itemSize h.pool.remaining p := by
  have hpool : ∀ n r, AffordsAll itemSize n (forDecode .AppQueryMessage).args p.wire r ↔
      SingleAll p.wire ∧ taken itemSize n p.wire ≤ r :=
    fun n r => ⟨fun h => ⟨h.single, h.room⟩, fun h => ⟨fun _ _ hne => absurd rfl hne, h.1, h.2⟩⟩
  rcases decode_demand itemSize (readable_wire p) (forDecode .AppQueryMessage)
    hfrozen with ⟨hafford, message, h', hrun, hremaining, hfrozen'⟩ | ⟨hnot, hbreaks⟩
  · obtain ⟨hsingle, hroom⟩ := (hpool _ _).mp hafford
    have hlength : (forDecode .AppQueryMessage).networks.length = 0 := rfl
    rw [hlength] at hremaining hroom
    unfold decodeQuery
    rw [bind_of_ok hrun]
    cases hending : p.ending with
    | complete =>
        refine iff_of_true (fun ⟨e, h'', herror, _⟩ => (nomatch herror)) ⟨hsingle, ?_, ?_⟩
        · exact fun item hitem => nomatch hending.symm.trans hitem
        · rw [hending]
          exact hroom
    | malformed =>
        refine iff_of_true (fun ⟨e, h'', herror, he⟩ => ?_) ⟨hsingle, ?_, ?_⟩
        · cases herror
          exact he rfl
        · exact fun item hitem => nomatch hending.symm.trans hitem
        · rw [hending]
          exact hroom
    | malformedNetwork item =>
        dsimp only
        rcases decodeFields_demand NetworkField.callback
          (readable_networkFields item) (fun _ => .pool) hfrozen' with
          ⟨hafford', info, h'', hrun', _⟩ | ⟨hnot', hbreaks⟩
        · obtain ⟨hsingle', hroom'⟩ := (affords_fresh _ _ _).mp hafford'
          rw [bind_of_ok hrun']
          refine iff_of_true (fun ⟨e, h'', herror, he⟩ => ?_) ⟨hsingle, ?_, ?_⟩
          · cases herror
            exact he rfl
          · intro item' hitem'
            cases hending.symm.trans hitem'
            exact hsingle'
          · rw [hending]
            show _ + takenFields NetworkField.callback (networkFields item) ≤ _
            omega
        · refine iff_of_false (fun hn => hn (hbreaks.bind _)) fun hdecodable => hnot' ?_
          have hroom' := hdecodable.room
          rw [hending] at hroom'
          unfold takenEnding at hroom'
          dsimp only at hroom'
          exact (affords_fresh _ _ _).mpr ⟨hdecodable.ending item hending, by omega⟩
  · refine iff_of_false (fun hn => hn (hbreaks.bind _)) fun hdecodable => hnot ?_
    have hroom := hdecodable.room
    exact (hpool _ _).mpr ⟨hdecodable.single, (Nat.le_add_right _ _).trans hroom⟩

/-- Of a connection that is not past its time and has received something, the decoding decides. -/
theorem readQuery_decided (nanopb : List Byte → Parsed) (itemSize : Nat) (pool : Pool)
    {now : Uptime} {received : List Byte} {c : ApiConnection} (hlive : ¬ c.Expired now)
    (hne : received ≠ []) :
    (readQuery nanopb itemSize pool now received c).1.Decided ↔
      ¬ Breaks (decodeQuery itemSize (nanopb received) { pool }) := by
  have hlength : 0 < received.length := List.length_pos_iff.mpr hne
  have hread : bufferRead nanopb itemSize received = decodeQuery itemSize (nanopb received) := by
    unfold bufferRead
    rw [if_neg hlength.ne']
  unfold readQuery
  rw [if_neg hlive]
  dsimp only
  rw [if_pos hlength, hread]
  cases decodeQuery itemSize (nanopb received) { pool } with
  | ok message h' =>
      exact iff_of_true (fun why => Answer.noConfusion) fun ⟨e, h'', herror, _⟩ => nomatch herror
  | error e h' =>
      cases e with
      | refused =>
          refine iff_of_true (fun why => Answer.noConfusion) fun ⟨e, h'', herror, he⟩ => ?_
          cases herror
          exact he rfl
      | asserted =>
          exact iff_of_false (fun hd => hd .asserted rfl)
            fun hn => hn ⟨.asserted, h', rfl, Halt.noConfusion⟩
      | wild =>
          exact iff_of_false (fun hd => hd .wild rfl)
            fun hn => hn ⟨.wild, h', rfl, Halt.noConfusion⟩

/-- **A call of `readQuery` with the cleared Main pool yields a query or closes the connection
    exactly if the fields of what it has received can be decoded with 512 bytes.** -/
theorem readQuery_decided_iff (nanopb : List Byte → Parsed) (itemSize : Nat) (now : Uptime)
    (received : List Byte) (c : ApiConnection) :
    (readQuery nanopb itemSize (.empty mainPoolSize) now received c).1.Decided ↔
      (¬ c.Expired now → received ≠ [] → Decodable itemSize mainPoolSize (nanopb received)) := by
  by_cases hexpired : c.Expired now
  · unfold readQuery
    rw [if_pos hexpired]
    exact iff_of_true (fun why => Answer.noConfusion) fun hn => absurd hexpired hn
  · by_cases hnil : received = []
    · subst hnil
      unfold readQuery
      rw [if_neg hexpired]
      exact iff_of_true (fun why => Answer.noConfusion) fun _ hn => absurd rfl hn
    · rw [readQuery_decided nanopb itemSize _ hexpired hnil,
        decodeQuery_decided_iff itemSize (nanopb received) rfl]
      exact ⟨fun h _ _ => h, fun h => h hexpired hnil⟩

/-- A length of two bytes, as a varint. -/
def varint (n : Nat) : List Byte := [BitVec.ofNat 8 (n % 128 + 128), BitVec.ofNat 8 (n / 128)]

/-- A delimited query for a module, whatever the tags of its two fields are: eight bytes, and the
    message for the module. -/
def moduleQuery (module message : Byte) (payload : List Byte) : List Byte :=
  varint (payload.length + 6) ++ (module :: varint (payload.length + 3)) ++
    (message :: varint payload.length) ++ payload

/-- What nanopb finds in such a query. -/
def foundModuleQuery (bytes : List Byte) : Parsed where
  found := [.value .moduleMessage (bytes.drop 8)]
  ending := .complete

/-- **A query of less than half the buffer**: its message for the module takes more than the pool
    has. -/
theorem query_beyond_pool : ¬ ∀ (nanopb : List Byte → Parsed) (itemSize : Nat) (now : Uptime)
    (received : List Byte) (c : ApiConnection), received.length ≤ wifiSocketBufferSize →
      (readQuery nanopb itemSize (.empty mainPoolSize) now received c).1.Decided := by
  intro hall
  let query := moduleQuery 10 10 (List.replicate 505 0)
  have hlength : query.length = 513 := by decide +kernel
  have hdecided := hall foundModuleQuery 16 0 query {} (by rw [hlength]; decide)
  rw [readQuery_decided _ _ _ (fun hexpired => hexpired.1 rfl)
    (List.ne_nil_of_length_pos (by rw [hlength]; decide)),
    decodeQuery_decided_iff 16 _ rfl] at hdecided
  have hroom := hdecided.room
  have htaken : taken 16 0 (foundModuleQuery query).wire = 516 := by decide +kernel
  rw [htaken] at hroom
  exact absurd hroom (by decide)

end FieldKit.Api

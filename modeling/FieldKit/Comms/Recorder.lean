/-
  File:      FieldKit/Comms/Recorder.lean
  Subject:   A bus that writes down what it carries.

  The bus the firmware sees is left as it is; beside the state of the devices stands the list of
  the transfers made, which no function of the firmware reads.
-/
import FieldKit.Comms.ModuleComms

namespace FieldKit

/-- One transfer on the bus: a piece sent, with the outcome, or what a receive handed over. -/
inductive Transfer (β : Type) where
  | sent (address : Address) (bytes : List β) (ok : Bool)
  | received (address : Address) (bytes : List β)
  deriving DecidableEq, Repr

/-- The devices on the bus, and the transfers since the record was begun, oldest first. -/
structure Recorder (β B : Type) where
  devices : B
  carried : List (Transfer β) := []

variable {β B : Type}

/-- The same bus, recorded. -/
def record (bus : TwoWireBus β B) : TwoWireBus β (Recorder β B) where
  send b a bytes :=
    let (ok, d) := bus.send b.devices a bytes
    (ok, { devices := d, carried := b.carried ++ [.sent a bytes ok] })
  receive b a size :=
    let (bytes, d) := bus.receive b.devices a size
    (bytes, { devices := d, carried := b.carried ++ [.received a bytes] })

/-- The bytes that a list of transfers brought in. -/
def receivedBytes : List (Transfer β) → List β
  | [] => []
  | .sent _ _ _ :: ts => receivedBytes ts
  | .received _ bytes :: ts => bytes ++ receivedBytes ts

/-- The device a transfer was with. -/
def Transfer.address : Transfer β → Address
  | .sent a _ _ => a
  | .received a _ => a

/-- The bytes that were given to the bus, whether it took them or not. -/
def offeredBytes : List (Transfer β) → List β
  | [] => []
  | .sent _ bytes _ :: ts => bytes ++ offeredBytes ts
  | .received _ _ :: ts => offeredBytes ts

/-- The bytes that a list of transfers took out, the failed ones left aside. -/
def sentBytes : List (Transfer β) → List β
  | [] => []
  | .sent _ bytes true :: ts => bytes ++ sentBytes ts
  | .sent _ _ false :: ts => sentBytes ts
  | .received _ _ :: ts => sentBytes ts

@[simp] theorem receivedBytes_append (ts us : List (Transfer β)) :
    receivedBytes (ts ++ us) = receivedBytes ts ++ receivedBytes us := by
  induction ts with
  | nil => rfl
  | cons t ts ih => cases t <;> simp [receivedBytes, ih]

@[simp] theorem offeredBytes_append (ts us : List (Transfer β)) :
    offeredBytes (ts ++ us) = offeredBytes ts ++ offeredBytes us := by
  induction ts with
  | nil => rfl
  | cons t ts ih => cases t <;> simp [offeredBytes, ih]

@[simp] theorem sentBytes_append (ts us : List (Transfer β)) :
    sentBytes (ts ++ us) = sentBytes ts ++ sentBytes us := by
  induction ts with
  | nil => rfl
  | cons t ts ih =>
      cases t with
      | sent a bytes ok => cases ok <;> simp [sentBytes, ih]
      | received a bytes => simp [sentBytes, ih]

/-- A recorded send is in the record. -/
theorem record_send {bus : TwoWireBus β B} {b b' : Recorder β B} {a : Address} {bytes : List β}
    {ok : Bool} (h : (record bus).send b a bytes = (ok, b')) :
    b'.carried = b.carried ++ [.sent a bytes ok] := by
  simp only [record, Prod.mk.injEq] at h
  obtain ⟨hok, hb⟩ := h
  rw [← hb, ← hok]

/-- So is a recorded receive. -/
theorem record_receive {bus : TwoWireBus β B} {b b' : Recorder β B} {a : Address} {size : Nat}
    {bytes : List β} (h : (record bus).receive b a size = (bytes, b')) :
    b'.carried = b.carried ++ [.received a bytes] := by
  simp only [record, Prod.mk.injEq] at h
  obtain ⟨hbytes, hb⟩ := h
  rw [← hb, ← hbytes]

end FieldKit

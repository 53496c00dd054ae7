/-
  File:      FieldKit/Module/Wire.lean
  Subject:   The bus with one module at its other end.

  A send is the module's `receive` callback, a receive its `reply` callback. What goes wrong on
  the way is the weather of the moment; in fair weather nothing does.
-/
import FieldKit.Module.Module

namespace FieldKit

variable {n : Nat} {β : Type}

/-- What happens to a transfer: whether the module's callback is called, and whether the core hears
    of it; `room` is what the module's pipe has room for. -/
structure Weather where
  delivered : Bool := true
  acked : Bool := true
  asked : Bool := true
  arrived : Bool := true
  room : Nat := serialBufferSize
  deriving DecidableEq, Repr

/-- The module at the other end. -/
structure Wire (n : Nat) (β : Type) where
  module : Module n β
  weather : Weather := {}

/-- **The bus of one module.** -/
def wire (P : ModuleProtocol β) : TwoWireBus β (Wire n β) where
  send b _ bytes :=
    (b.weather.acked,
      if b.weather.delivered then
        { b with module.child := b.module.child.receive bytes b.weather.room }
      else b)
  receive b _ size :=
    if b.weather.asked then
      let (bytes, child) := b.module.child.reply P b.module.current.busy
      (if b.weather.arrived then bytes.take size else [], { b with module.child := child })
    else ([], b)

/-- What comes back fits a transfer. -/
theorem wire_receive_length (P : ModuleProtocol β) (b : Wire n β) (a : Address) :
    (((wire P).receive b a (serialBufferSize - 1)).1).length < serialBufferSize := by
  have hsize : serialBufferSize = 256 := rfl
  unfold wire
  dsimp only
  split
  · split
    · rw [List.length_take]
      omega
    · rw [List.length_nil]
      omega
  · rw [List.length_nil]
    omega

end FieldKit

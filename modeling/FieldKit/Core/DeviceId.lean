/-
  File:      FieldKit/Core/DeviceId.lean
  Subject:   `DeviceId` (device_id.cpp): the id read from an EEPROM or, without it, from the serial
             number of the chip, and its text.

  * `initializeOn_eq` -- the first attempt is accepted, whatever it has read;
  * `toString_eq` -- the text of the id, inside its buffer, and `accepted_text_inj`, of no other id;
  * `usable_iff` -- only a usable id is accepted exactly if the first attempt finds one;
  * `blank_accepted` -- an EEPROM that answers nothing but ones.
-/
import FieldKit.Comms.TwoWireTask
import FieldKit.Lib.Buffer

namespace FieldKit

open Lib

/-! ## 1. The id -/

/-- `DeviceId`. -/
structure DeviceId where
  len : Nat := 0
  data : Vector Byte 16 := Vector.replicate 16 0
  buffer : Vector Byte 37 := Vector.replicate 37 0
  deriving DecidableEq, Repr

namespace DeviceId

/-- The bytes of the id. -/
def bytes (d : DeviceId) : List Byte := d.data.toList.take d.len

/-- The address of `MacAddressEeprom`. -/
def eeprom : Address := 0x50

/-- What `TwoWireBus::receive` stores of what comes, at most `size` bytes. -/
def receive (size : Nat) (hsize : size ≤ 16) (bytes : List Byte) (id : Vector Byte 16) :
    Vector Byte 16 :=
  splice id 0 (bytes.take size) (by
    rw [List.length_take]
    omega)

section Bus

variable {B : Type}

/-- `read128bMac(id)`; how much has come is not looked at. -/
def read128bMac (bus : TwoWireBus Byte B) (id : Vector Byte 16) (b : B) :
    Bool × Vector Byte 16 × B :=
  match bus.send b eeprom [0xf8] with
  | (false, b) => (false, id, b)
  | (true, b) =>
    let (bytes, b) := bus.receive b eeprom 8
    (true, receive 8 (by decide) bytes id, b)

/-- One attempt of `initialize`; `serial` are the bytes of `SerialNumber`. -/
def attempt (bus : TwoWireBus Byte B) (serial : Vector Byte 16) (d : DeviceId) (b : B) :
    DeviceId × B :=
  match read128bMac bus (Vector.replicate 16 0) b with
  | (false, _, b) => ({ d with data := serial, len := 16 }, b)
  | (true, id, b) => ({ d with data := id, len := 8 }, b)

/-- The loop over the bytes: there is one that is not all ones or not 0. -/
def looksGood (d : DeviceId) : Bool := d.bytes.any fun c => c != 0xff || c != 0x0

/-- The loop of `initialize`, with so many attempts left. -/
def initializeFrom (bus : TwoWireBus Byte B) (serial : Vector Byte 16) :
    Nat → DeviceId → B → Bool × DeviceId × B
  | 0, d, b => (false, d, b)
  | n + 1, d, b =>
    let (d, b) := attempt bus serial d b
    if d.looksGood then (true, d, b) else initializeFrom bus serial n d b

/-- `initialize(bus)`. -/
def initializeOn (bus : TwoWireBus Byte B) (serial : Vector Byte 16) :
    DeviceId → B → Bool × DeviceId × B := initializeFrom bus serial 3

end Bus

/-- A digit of `%x`. -/
def hexDigit (n : Nat) : Byte := BitVec.ofNat 8 (if n < 10 then 0x30 + n else 0x57 + n)

/-- `%02x` of a byte. -/
def hex (c : Byte) : List Byte := [hexDigit (c.toNat / 16), hexDigit (c.toNat % 16)]

/-- The loop of `toString`, from the index `i` on: each byte is printed behind the ones before it,
    with a 0. -/
def print (i : Nat) : List Byte → Vector Byte 37 → Option (Vector Byte 37)
  | [], buffer => some buffer
  | c :: cs, buffer => (put buffer (i * 2) (hex c ++ [0])).bind (print (i + 1) cs)

/-- `toString()`: the id with its buffer; `none` is a write outside of it. -/
def toString (d : DeviceId) : Option DeviceId :=
  (print 0 d.bytes d.buffer).map fun buffer => { d with buffer := buffer }

/-! ## 2. The text -/

/-- A digit stands for one number. -/
theorem hexDigit_inj {m n : Nat} (hm : m < 16) (hn : n < 16) (h : hexDigit m = hexDigit n) :
    m = n := by
  unfold hexDigit at h
  have hval := congrArg BitVec.toNat h
  rw [BitVec.toNat_ofNat, BitVec.toNat_ofNat] at hval
  split at hval <;> split at hval <;> omega

theorem hex_inj {c c' : Byte} (h : hex c = hex c') : c = c' := by
  have hc := c.isLt
  have hc' := c'.isLt
  injection h with hhigh hrest
  injection hrest with hlow _
  have hhigh := hexDigit_inj (by omega) (by omega) hhigh
  have hlow := hexDigit_inj (by omega) (by omega) hlow
  apply BitVec.eq_of_toNat_eq
  omega

/-- No digit is 0. -/
theorem zero_notMem_hex (c : Byte) : 0 ∉ hex c := by
  have hdigit : ∀ n < 16, hexDigit n ≠ 0 := by decide
  have hc := c.isLt
  unfold hex
  rw [List.mem_cons, List.mem_singleton, not_or]
  exact ⟨(hdigit _ (by omega)).symm, (hdigit _ (by omega)).symm⟩

/-- Ids of one text are the same. -/
theorem flatMap_hex_inj : ∀ {l l' : List Byte}, l.flatMap hex = l'.flatMap hex → l = l'
  | [], [], _ => rfl
  | [], c :: cs, h => by cases h
  | c :: cs, [], h => by cases h
  | c :: cs, c' :: cs', h => by
      rw [List.flatMap_cons, List.flatMap_cons] at h
      obtain ⟨hc, hcs⟩ := List.append_inj h rfl
      rw [hex_inj hc, flatMap_hex_inj hcs]

/-- **What is printed**, if there is room for it. -/
theorem print_eq {cs : List Byte} (i : Nat) (buffer : Vector Byte 37) (hne : cs ≠ [])
    (hroom : (i + cs.length) * 2 + 1 ≤ 37) :
    ∃ buffer' rest, print i cs buffer = some buffer' ∧
      buffer'.toList = buffer.toList.take (i * 2) ++ cs.flatMap hex ++ 0 :: rest := by
  induction cs generalizing i buffer with
  | nil => exact absurd rfl hne
  | cons c cs ih =>
      rw [List.length_cons] at hroom
      have hfits : i * 2 + (hex c ++ [0]).length ≤ 37 := by
        show i * 2 + 3 ≤ 37
        omega
      rw [print, put_eq_some buffer hfits, Option.bind_some]
      cases cs with
      | nil =>
          refine ⟨_, buffer.toList.drop (i * 2 + 3), rfl, ?_⟩
          rw [toList_splice, List.flatMap_cons, List.flatMap_nil, List.append_nil]
          simp [hex]
      | cons c' cs =>
          obtain ⟨buffer', rest, hprint, hlist⟩ :=
            ih (i + 1) (splice buffer (i * 2) (hex c ++ [0]) hfits) (List.cons_ne_nil c' cs) (by omega)
          refine ⟨buffer', rest, hprint, ?_⟩
          have hfront : (splice buffer (i * 2) (hex c ++ [0]) hfits).toList.take ((i + 1) * 2) =
              buffer.toList.take (i * 2) ++ hex c := by
            rw [show (i + 1) * 2 = i * 2 + 2 by omega, take_splice buffer hfits (Nat.le_add_right 2 1)]
            rfl
          have hstring : (c :: c' :: cs).flatMap hex = hex c ++ (c' :: cs).flatMap hex :=
            List.flatMap_cons
          rw [hlist, hfront, hstring, ← List.append_assoc]

/-- **The text of an id**, inside its buffer. -/
theorem toString_eq {d : DeviceId} (hne : d.bytes ≠ []) :
    ∃ d', d.toString = some d' ∧ text d'.buffer 0 = some (d.bytes.flatMap hex) := by
  have hlength : d.bytes.length ≤ 16 := by
    unfold bytes
    rw [List.length_take, Vector.length_toList]
    exact Nat.min_le_right d.len 16
  obtain ⟨buffer', rest, hprint, hlist⟩ := print_eq 0 d.buffer hne (by omega)
  have hzero : 0 ∉ d.bytes.flatMap hex := by
    intro hmem
    obtain ⟨c, _, hc⟩ := List.mem_flatMap.mp hmem
    exact zero_notMem_hex c hc
  have htext : buffer'.toList = [] ++ d.bytes.flatMap hex ++ 0 :: rest := by
    rw [hlist, Nat.zero_mul, List.take_zero]
  refine ⟨{ d with buffer := buffer' }, ?_, text_eq htext hzero⟩
  rw [toString, hprint]
  rfl

/-! ## 3. Which ids are accepted -/

/-- There is a byte that is neither 0 nor all ones. -/
def Usable (l : List Byte) : Prop := ∃ c ∈ l, c ≠ 0x00 ∧ c ≠ 0xff

instance (l : List Byte) : Decidable (Usable l) := inferInstanceAs (Decidable (∃ c ∈ l, _))

section Bus

variable {B : Type} {bus : TwoWireBus Byte B} {serial : Vector Byte 16}

/-- Every attempt leaves some bytes. -/
theorem attempt_bytes_ne_nil (bus : TwoWireBus Byte B) (serial : Vector Byte 16) (d : DeviceId)
    (b : B) : (attempt bus serial d b).1.bytes ≠ [] := by
  intro hnil
  have hlength := congrArg List.length hnil
  unfold attempt at hlength
  split at hlength
  · unfold bytes at hlength
    rw [List.length_take, Vector.length_toList] at hlength
    cases hlength
  · unfold bytes at hlength
    rw [List.length_take, Vector.length_toList] at hlength
    cases hlength

/-- Bytes look good. -/
theorem looksGood_of_ne_nil {d : DeviceId} (hne : d.bytes ≠ []) : d.looksGood = true := by
  obtain ⟨c, cs, hbytes⟩ := List.exists_cons_of_ne_nil hne
  have hone : (c != 0xff || c != 0x0) = true := by
    by_cases hc : c = 0xff
    · rw [hc]
      rfl
    · rw [bne_iff_ne.mpr hc, Bool.true_or]
  rw [looksGood, hbytes, List.any_cons, hone, Bool.true_or]

/-- **The first attempt is accepted.** -/
theorem initializeOn_eq (bus : TwoWireBus Byte B) (serial : Vector Byte 16) (d : DeviceId) (b : B) :
    initializeOn bus serial d b = (true, attempt bus serial d b) := by
  rw [initializeOn, initializeFrom]
  dsimp only
  rw [if_pos (looksGood_of_ne_nil (attempt_bytes_ne_nil bus serial d b))]

/-- What the attempts come to, if each is made. -/
def tried (bus : TwoWireBus Byte B) (serial : Vector Byte 16) (d : DeviceId) (b : B) :
    Nat → DeviceId × B
  | 0 => attempt bus serial d b
  | k + 1 => attempt bus serial (tried bus serial d b k).1 (tried bus serial d b k).2

/-- Some `initialize` has left this id and returned true. -/
def Accepted (d : DeviceId) : Prop :=
  ∃ (B : Type) (bus : TwoWireBus Byte B) (serial : Vector Byte 16) (d0 : DeviceId) (b b' : B),
    initializeOn bus serial d0 b = (true, d, b')

/-- What `initialize` is for. -/
structure Selects (bus : TwoWireBus Byte B) (serial : Vector Byte 16) (d : DeviceId) (b : B) :
    Prop where
  /-- It returns true with a usable id, of the first of three attempts that finds one. -/
  accepts : (initializeOn bus serial d b).1 = true →
    ∃ k < 3, (initializeOn bus serial d b).2 = tried bus serial d b k ∧
      Usable (tried bus serial d b k).1.bytes ∧ ∀ j < k, ¬ Usable (tried bus serial d b j).1.bytes
  /-- It returns false when none does. -/
  refuses : (initializeOn bus serial d b).1 = false →
    ∀ k < 3, ¬ Usable (tried bus serial d b k).1.bytes
  /-- The text of the id is in its buffer, and that of no other. -/
  text : (initializeOn bus serial d b).1 = true →
    ∃ d' s, (initializeOn bus serial d b).2.1.toString = some d' ∧ text d'.buffer 0 = some s ∧
      ∀ e e', Accepted e → e.toString = some e' → text e'.buffer 0 = some s →
        e.bytes = (initializeOn bus serial d b).2.1.bytes

/-- The EEPROM sends a usable byte, or, if it is not there, the serial number has one. -/
def FirstUsable (bus : TwoWireBus Byte B) (serial : Vector Byte 16) (b : B) : Prop :=
  match bus.send b eeprom [0xf8] with
  | (true, b) => Usable ((bus.receive b eeprom 8).1.take 8)
  | (false, _) => Usable serial.toList

theorem accepted_bytes_ne_nil {d : DeviceId} (h : Accepted d) : d.bytes ≠ [] := by
  obtain ⟨B, bus, serial, d0, b, b', h⟩ := h
  rw [initializeOn_eq] at h
  injection h with _ h
  have hd : d = (attempt bus serial d0 b).1 := congrArg Prod.fst h.symm
  rw [hd]
  exact attempt_bytes_ne_nil bus serial d0 b

/-- **No other id has its text.** -/
theorem accepted_text_inj {d e d' e' : DeviceId} {s : List Byte} (hd : Accepted d) (he : Accepted e)
    (hd' : d.toString = some d') (he' : e.toString = some e') (hs : text d'.buffer 0 = some s)
    (hs' : text e'.buffer 0 = some s) : e.bytes = d.bytes := by
  obtain ⟨d'', hd'', htext⟩ := toString_eq (accepted_bytes_ne_nil hd)
  obtain ⟨e'', he'', htext'⟩ := toString_eq (accepted_bytes_ne_nil he)
  rw [hd'] at hd''
  rw [he'] at he''
  cases hd''
  cases he''
  rw [hs] at htext
  rw [hs'] at htext'
  exact flatMap_hex_inj (Option.some.inj (htext'.symm.trans htext))

/-- Zeros behind what has come make nothing usable. -/
theorem usable_attempt_iff (bus : TwoWireBus Byte B) (serial : Vector Byte 16) (d : DeviceId)
    (b : B) : Usable (attempt bus serial d b).1.bytes ↔ FirstUsable bus serial b := by
  unfold FirstUsable attempt read128bMac
  rcases bus.send b eeprom [0xf8] with ⟨sent, b⟩
  cases sent with
  | false =>
      show Usable (serial.toList.take 16) ↔ Usable serial.toList
      rw [List.take_of_length_le (by rw [Vector.length_toList])]
  | true =>
      have hbytes : ∀ l : List Byte, l.length ≤ 8 →
          ((([] : List Byte) ++ l ++ (List.replicate 16 0).drop (0 + l.length)).take 8) =
            l ++ List.replicate (8 - l.length) 0 := by
        intro l hl
        rw [List.nil_append, Nat.zero_add, List.drop_replicate, List.take_append,
          List.take_of_length_le hl, List.take_replicate, Nat.min_eq_left (by omega)]
      show Usable (((([] : List Byte) ++ (bus.receive b eeprom 8).1.take 8 ++
        (List.replicate 16 0).drop (0 + ((bus.receive b eeprom 8).1.take 8).length)).take 8)) ↔ _
      rw [hbytes _ (by rw [List.length_take]; exact Nat.min_le_left 8 _)]
      constructor
      · intro h
        obtain ⟨c, hc, hzero, hones⟩ := h
        rcases List.mem_append.mp hc with hc | hc
        · exact ⟨c, hc, hzero, hones⟩
        · exact absurd (List.eq_of_mem_replicate hc) hzero
      · intro h
        obtain ⟨c, hc, husable⟩ := h
        exact ⟨c, List.mem_append_left _ hc, husable⟩

/-- **Only a usable id is accepted exactly if the first attempt finds one.** -/
theorem usable_iff (bus : TwoWireBus Byte B) (serial : Vector Byte 16) (d : DeviceId) (b : B) :
    Selects bus serial d b ↔ FirstUsable bus serial b := by
  rw [← usable_attempt_iff bus serial d b]
  have haccepted : Accepted (attempt bus serial d b).1 :=
    ⟨B, bus, serial, d, b, _, initializeOn_eq bus serial d b⟩
  constructor
  · intro h
    have htrue : (initializeOn bus serial d b).1 = true := by rw [initializeOn_eq]
    obtain ⟨k, _, heq, husable, _⟩ := h.accepts htrue
    rw [initializeOn_eq] at heq
    rw [show attempt bus serial d b = tried bus serial d b k from heq]
    exact husable
  · intro h
    refine ⟨fun _ => ⟨0, by decide, ?_, h, fun j hj => absurd hj (Nat.not_lt_zero j)⟩,
      fun hfalse => ?_, fun _ => ?_⟩
    · rw [initializeOn_eq]
      rfl
    · rw [initializeOn_eq] at hfalse
      cases hfalse
    · rw [initializeOn_eq]
      obtain ⟨d', hd', htext⟩ := toString_eq (attempt_bytes_ne_nil bus serial d b)
      exact ⟨d', _, hd', htext, fun e e' he he' hs =>
        accepted_text_inj haccepted he hd' he' htext hs⟩

/-- An EEPROM that answers nothing but ones. -/
def blankBus : TwoWireBus Byte Unit where
  send _ _ _ := (true, ())
  receive _ _ n := (List.replicate n 0xff, ())

/-- **The id of all ones is accepted**, and no second attempt is made. -/
theorem blank_accepted : ¬ Selects blankBus (Vector.replicate 16 1) {} () := by
  intro h
  obtain ⟨k, _, heq, husable, _⟩ := h.accepts (by rw [initializeOn_eq])
  rw [← heq, initializeOn_eq] at husable
  exact absurd husable (by decide)

end Bus

end DeviceId

end FieldKit

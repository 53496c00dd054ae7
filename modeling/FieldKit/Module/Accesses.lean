/-
  File:      FieldKit/Module/Accesses.lean
  Subject:   Where `ModuleServicer::handle` (module_servicer.cpp) reaches into the tables of a module:
             `info->sensors`, `info->readings`, `firmwares.banks`, and the bytes of a checksum.

  The accesses are listed in the order in which they are made. Behind the first one that is outside
  nothing is known of what follows. The bank of `QUERY_DATA_PREPARE` goes into the settings of
  `ModuleReceiveData`, which only logs it.

  * `handle_none_iff` -- the model of `handle` is stuck exactly where an access is outside;
  * `inside_iff` -- the queries whose accesses are all inside;
  * `sensor_beyond` -- a query for a sensor that the module does not have.
-/
import FieldKit.Module.Module

namespace FieldKit.Accesses

variable {n : Nat} {β : Type}

/-! ## 1. The accesses -/

/-- `FirmwareBank::NumberOfBanks`. -/
def numberOfBanks : Nat := 6

/-- An access: to an element of one of the tables, or to the first four of so many bytes. -/
inductive Access where
  | sensors (index : Nat)
  | readings (index : Nat)
  | banks (index : Int)
  | checksum (length : Nat)
  deriving DecidableEq, Repr

/-- **The access is inside**, of a module with `n` sensors. -/
def Access.Inside (n : Nat) : Access → Prop
  | .sensors index => index < n
  | .readings index => index < n
  | .banks index => 0 ≤ index ∧ index < numberOfBanks
  | .checksum length => 4 ≤ length

/-- The loop that answers `QUERY_READING_STATUS`. -/
def readingStatus (readings : Fin n → SensorReading) : List (Fin n) → List Access
  | [] => []
  | i :: is =>
    .readings i :: if (readings i).status = .Done then [] else readingStatus readings is

/-- `header(bank, header)`, of a bank of the source. -/
def header (bank : Nat) : List Access := [.banks bank]

/-- `update(bank, beginning)`: the address is read, and written. -/
def update (bank : BitVec 32) : List Access := [.banks bank.toInt, .banks bank.toInt]

/-- `QUERY_DATA_VERIFY`: the bank is used when the checksum is right and the file has its size. -/
def verify (data : DataQuery) (m : Module n β) : List Access :=
  .checksum data.checksum.length ::
    match uint32Of data.checksum with
    | none => []
    | some expectedChecksum =>
      if m.dataCopyStatus.checksum = expectedChecksum ∧
          FirmwareStorage.verify m.dataCopyStatus.pending data.size m.flash then
        update data.bank
      else []

/-- The accesses of `handle(query)`. -/
def handle (query : ModuleQueryMessage) (m : Module n β) : List Access :=
  match query.type with
  | .QUERY_CAPABILITIES => []
  | .QUERY_SENSOR_CAPABILITIES => [.sensors query.sensor.toNat]
  | .QUERY_BEGIN_TAKE_READINGS => (List.range n).map .readings
  | .QUERY_READING_STATUS => readingStatus m.readings (List.finRange n)
  | .QUERY_CUSTOM => []
  -- `reclaim` goes through all banks
  | .QUERY_DATA_PREPARE => (List.range numberOfBanks).map fun i : Nat => .banks i
  | .QUERY_DATA_VERIFY => verify query.data m
  | .QUERY_DATA_APPEND => []
  | .QUERY_DATA_CLEAR => []
  -- `Pending` and `Safe`
  | .QUERY_FIRMWARE => header 1 ++ header 3
  | .QUERY_BEGIN_TRANSMISSION => []
  | .QUERY_TRANSMISSION_STATUS => []
  | .other _ => []

/-- **A query stays inside the tables**: the sensor it names is there; a checksum has its four
    bytes, and where it is that of the file that was received, and the size as well, there is such
    a bank. -/
def Contained (query : ModuleQueryMessage) (m : Module n β) : Prop :=
  match query.type with
  | .QUERY_SENSOR_CAPABILITIES => query.sensor.toNat < n
  | .QUERY_DATA_VERIFY =>
    4 ≤ query.data.checksum.length ∧
      (uint32Of query.data.checksum = some m.dataCopyStatus.checksum →
        FirmwareStorage.verify m.dataCopyStatus.pending query.data.size m.flash = true →
          query.data.bank.toNat < numberOfBanks)
  | _ => True

/-! ## 2. Inside -/

/-- The loop stays inside. -/
theorem readingStatus_inside (readings : Fin n → SensorReading) (is : List (Fin n)) :
    ∀ a ∈ readingStatus readings is, a.Inside n := by
  induction is with
  | nil => exact fun a ha => absurd ha List.not_mem_nil
  | cons i is ih =>
      intro a ha
      unfold readingStatus at ha
      rcases List.mem_cons.mp ha with rfl | ha
      · exact i.isLt
      · split at ha
        · exact absurd ha List.not_mem_nil
        · exact ih a ha

/-- Bank numbers are inside the table as they are, and not when they are taken for negative. -/
theorem bank_inside (bank : BitVec 32) :
    (Access.banks bank.toInt).Inside n ↔ bank.toNat < numberOfBanks := by
  have hbank := bank.isLt
  show (0 ≤ bank.toInt ∧ bank.toInt < (numberOfBanks : Int)) ↔ _
  unfold numberOfBanks
  rw [BitVec.toInt_eq_toNat_cond]
  split <;> omega

theorem bank_ofNumber (bank : BitVec 32) :
    FirmwareBank.ofNumber bank = none ↔ ¬ bank.toNat < numberOfBanks := by
  unfold FirmwareBank.ofNumber numberOfBanks
  split <;> simp_all
  -- none of the six
  omega

theorem uint32Of_none {bytes : List Byte} : uint32Of bytes = none ↔ bytes.length < 4 := by
  unfold uint32Of
  split
  · simp
  · next hne =>
      refine ⟨fun _ => ?_, fun _ => rfl⟩
      match bytes with
      | [] | [_] | [_, _] | [_, _, _] => simp
      | b0 :: b1 :: b2 :: b3 :: rest => exact absurd rfl (hne b0 b1 b2 b3 rest)

/-- **`QUERY_DATA_VERIFY`.** -/
theorem verify_inside (data : DataQuery) (m : Module n β) :
    (∀ a ∈ verify data m, a.Inside n) ↔
      4 ≤ data.checksum.length ∧
        (uint32Of data.checksum = some m.dataCopyStatus.checksum →
          FirmwareStorage.verify m.dataCopyStatus.pending data.size m.flash = true →
            data.bank.toNat < numberOfBanks) := by
  unfold verify
  rw [List.forall_mem_cons]
  refine and_congr_right fun hlength => ?_
  cases hchecksum : uint32Of data.checksum with
  | none => exact absurd hlength (Nat.not_le.mpr (uint32Of_none.mp hchecksum))
  | some expectedChecksum =>
      dsimp only
      rw [Option.some_inj]
      split
      · next hmatch =>
          unfold update
          simp only [List.forall_mem_cons, bank_inside]
          exact ⟨fun h _ _ => h.1,
            fun h => ⟨h hmatch.1.symm hmatch.2, h hmatch.1.symm hmatch.2,
              fun a ha => absurd ha List.not_mem_nil⟩⟩
      · next hmatch =>
          exact ⟨fun _ hsame hsize => absurd ⟨hsame.symm, hsize⟩ hmatch,
            fun _ a ha => absurd ha List.not_mem_nil⟩

/-- **The accesses of `handle` are inside exactly for these queries.** -/
theorem inside_iff (query : ModuleQueryMessage) (m : Module n β) :
    (∀ a ∈ handle query m, a.Inside n) ↔ Contained query m := by
  have hnone : (∀ a ∈ ([] : List Access), a.Inside n) ↔ True :=
    iff_true_intro fun a ha => absurd ha List.not_mem_nil
  unfold handle Contained
  cases query.type with
  | QUERY_SENSOR_CAPABILITIES => exact List.forall_mem_singleton
  | QUERY_BEGIN_TAKE_READINGS =>
      refine iff_true_intro fun a ha => ?_
      obtain ⟨i, hi, rfl⟩ := List.mem_map.mp ha
      exact List.mem_range.mp hi
  | QUERY_READING_STATUS =>
      exact iff_true_intro (readingStatus_inside m.readings (List.finRange n))
  | QUERY_DATA_PREPARE =>
      refine iff_true_intro fun a ha => ?_
      obtain ⟨i, hi, rfl⟩ := List.mem_map.mp ha
      exact ⟨Int.natCast_nonneg i, Int.ofNat_lt.mpr (List.mem_range.mp hi)⟩
  | QUERY_DATA_VERIFY => exact verify_inside query.data m
  | QUERY_FIRMWARE =>
      refine iff_true_intro fun a ha => ?_
      unfold header at ha
      simp only [List.cons_append, List.nil_append, List.mem_cons, List.not_mem_nil, or_false] at ha
      rcases ha with rfl | rfl <;> exact ⟨by decide, by decide⟩
  | _ => exact hnone

/-! ## 3. The model of `handle` -/

/-- The checks go on exactly where their accesses are inside. -/
theorem verify_none_iff (data : DataQuery) (m : Module n β) :
    ModuleServicer.verify data m = none ↔ ¬ ∀ a ∈ verify data m, a.Inside n := by
  rw [verify_inside]
  unfold ModuleServicer.verify
  cases hchecksum : uint32Of data.checksum with
  | none =>
      have hshort := uint32Of_none.mp hchecksum
      exact iff_of_true rfl fun hc => Nat.not_le.mpr hshort hc.1
  | some expectedChecksum =>
      have hlength : 4 ≤ data.checksum.length := by
        by_contra hshort
        rw [uint32Of_none.mpr (Nat.not_le.mp hshort)] at hchecksum
        cases hchecksum
      dsimp only
      rw [Option.some_inj]
      by_cases hsame : m.dataCopyStatus.checksum = expectedChecksum
      · by_cases hsize : FirmwareStorage.verify m.dataCopyStatus.pending data.size m.flash = true
        · rw [if_pos hsame, if_pos hsize]
          cases hbank : FirmwareBank.ofNumber data.bank with
          | none =>
              have hbeyond := (bank_ofNumber data.bank).mp hbank
              exact iff_of_true rfl fun hc => hbeyond (hc.2 hsame.symm hsize)
          | some bank =>
              have hthere : data.bank.toNat < numberOfBanks := by
                by_contra hbeyond
                rw [(bank_ofNumber data.bank).mpr hbeyond] at hbank
                cases hbank
              exact iff_of_false (fun hnone => nomatch hnone)
                (not_not_intro ⟨hlength, fun _ _ => hthere⟩)
        · rw [if_pos hsame, if_neg hsize]
          exact iff_of_false (fun hnone => nomatch hnone)
            (not_not_intro ⟨hlength, fun _ hc => absurd hc hsize⟩)
      · rw [if_neg hsame]
        exact iff_of_false (fun hnone => nomatch hnone)
          (not_not_intro ⟨hlength, fun hc => absurd hc.symm hsame⟩)

/-- **`handle` goes on exactly where every access is inside.** -/
theorem handle_none_iff (P : ModuleProtocol β) (e : Serving) (query : ModuleQueryMessage)
    (m : Module n β) :
    ModuleServicer.handle P e query m = none ↔ ¬ Contained query m := by
  unfold Contained ModuleServicer.handle
  cases query.type with
  | QUERY_SENSOR_CAPABILITIES =>
      dsimp only
      split
      · next hinside => exact iff_of_false (fun hnone => nomatch hnone) (not_not_intro hinside)
      · next hbeyond => exact iff_of_true rfl hbeyond
  | QUERY_DATA_VERIFY =>
      have hchecks := verify_none_iff query.data { m with child := m.child.clear }
      rw [verify_inside] at hchecks
      refine Iff.trans ?_ hchecks
      dsimp only
      generalize ModuleServicer.verify query.data { m with child := m.child.clear } = checks
      -- what is left of the branch replies, whatever the checks say
      cases checks with
      | none => exact iff_of_true rfl rfl
      | some v =>
          cases v with
          | commit bank address =>
              dsimp only
              split <;> exact iff_of_false (fun hnone => nomatch hnone) (fun hnone => nomatch hnone)
          | wrongSize | mismatch =>
              exact iff_of_false (fun hnone => nomatch hnone) (fun hnone => nomatch hnone)
  | QUERY_CUSTOM =>
      dsimp only
      split <;> simp
  | QUERY_DATA_PREPARE =>
      dsimp only
      split <;> simp
  | _ => simp

/-- A module with one sensor is asked for another. -/
theorem sensor_beyond : ¬ ∀ (n : Nat) (query : ModuleQueryMessage) (m : Module n Frame),
    ∀ a ∈ handle query m, a.Inside n := by
  intro hall
  let m : Module 1 Frame :=
    { info := { type := 1, minimumNumberOfReadings := 1, name := [], module := [],
                sensors := fun _ => ⟨[], []⟩, uptime := 0, git := [], build := [], compiled := 0 } }
  have hinside := hall 1 { type := .QUERY_SENSOR_CAPABILITIES, sensor := 200 } m (.sensors 200)
    (List.mem_singleton_self _)
  change 200 < 1 at hinside
  exact absurd hinside (by decide)

end FieldKit.Accesses

import CubemarsDriver.Can.Frame
import CubemarsDriver.Foundation.BitFields

namespace CubemarsDriver.Can

open Foundation Foundation.BitFields

/-! # The command payload as a row of bit fields

The eight bytes of a payload form one number, the first byte on top.  The
shifts and masks of `send_and_receive` put five fields one after the other into
this number, in an order that depends on the series of the motor. -/

/-- The number whose digits are the bytes of a payload. -/
def Payload.number (data : Payload) : Nat :=
  concat (fun _ => 8) (fun place : Fin 8 => (data.get place).toNat) (List.finRange 8)

def CommandFields.packed (series : SeriesType) (fields : CommandFields) : Payload :=
  match series with
  | .v2 => fields.packV2
  | .v3 => fields.packV3

/-- The order of the fields in the payload of a series. -/
def fieldOrder : SeriesType → List CommandField
  | .v2 => [.position, .velocity, .kp, .kd, .effort]
  | .v3 => [.kp, .kd, .position, .velocity, .effort]

theorem commandPayload_packed {K : Type} [Scalar K] (config : JointConfig K) (cmd : JointCmd K) :
    commandPayload config cmd = (commandFields config cmd).packed config.seriesType := by
  rw [commandPayload]
  cases config.seriesType <;> rfl

theorem Payload.byte_lt (data : Payload) (place : Fin 8) : (data.get place).toNat < 2 ^ 8 :=
  (data.get place).isLt

theorem Payload.number_lt (data : Payload) : data.number < 2 ^ 64 :=
  concat_lt fun place _ => data.byte_lt place

theorem Payload.cut_number (data : Payload) (place : Fin 8) :
    cut (fun _ => 8) (List.finRange 8) data.number place = (data.get place).toNat := by
  rw [Payload.number]
  exact cut_concat (List.nodup_finRange 8) (fun place _ => data.byte_lt place)
    (List.mem_finRange place)

theorem Payload.number_injective : Function.Injective Payload.number := by
  intro left right same
  apply Vector.ext
  intro place bound
  have byte : (left.get ⟨place, bound⟩).toNat = (right.get ⟨place, bound⟩).toNat := by
    rw [← Payload.cut_number, same, Payload.cut_number]
  exact BitVec.eq_of_toNat_eq byte

theorem Payload.number_bytes (first second third fourth fifth sixth seventh eighth : BitVec 8) :
    Payload.number #v[first, second, third, fourth, fifth, sixth, seventh, eighth] =
      first.toNat * 2 ^ 56 + (second.toNat * 2 ^ 48 + (third.toNat * 2 ^ 40 +
        (fourth.toNat * 2 ^ 32 + (fifth.toNat * 2 ^ 24 + (sixth.toNat * 2 ^ 16 +
          (seventh.toNat * 2 ^ 8 + eighth.toNat)))))) := by
  have places : List.finRange 8 = [0, 1, 2, 3, 4, 5, 6, 7] := by decide
  rw [Payload.number, places]
  simp only [concat, total, Nat.add_zero, Nat.pow_zero, Nat.mul_one]
  rfl

theorem fieldOrder_nodup (series : SeriesType) : (fieldOrder series).Nodup := by
  cases series <;> decide

theorem mem_fieldOrder (series : SeriesType) (field : CommandField) :
    field ∈ fieldOrder series := by
  cases series <;> cases field <;> decide

theorem total_fieldOrder (series : SeriesType) :
    total CommandField.bits (fieldOrder series) = 64 := by
  cases series <;> rfl

/-- The number that the fields form in the order of a series. -/
def CommandFields.joined (series : SeriesType) (fields : CommandFields) : Nat :=
  concat CommandField.bits (fun field => (fields.get field).toNat) (fieldOrder series)

/-- The bytes of a command are the big-endian concatenation of its fields. -/
theorem number_packed (series : SeriesType) {fields : CommandFields} (fits : fields.Fits) :
    (fields.packed series).number = fields.joined series := by
  obtain ⟨pDes, vDes, tFf, kp, kd⟩ := fields
  have velocity : vDes.toNat < 4096 := fits .velocity
  have proportional : kp.toNat < 4096 := fits .kp
  have derivative : kd.toNat < 4096 := fits .kd
  have effort : tFf.toNat < 4096 := fits .effort
  cases series with
  | v2 =>
      have joined : CommandFields.joined .v2 ⟨pDes, vDes, tFf, kp, kd⟩ = pDes.toNat * 2 ^ 48 +
          (vDes.toNat * 2 ^ 36 + (kp.toNat * 2 ^ 24 + (kd.toNat * 2 ^ 12 + tFf.toNat))) := by
        simp [CommandFields.joined, fieldOrder, concat, total, CommandField.bits,
          CommandFields.get]
      simp only [joined, CommandFields.packed, CommandFields.packV2, Payload.number_bytes]
      rw [toNat_highByte, toNat_lowByte, toNat_upperEight _ velocity,
        toNat_sharedByte _ _ proportional, toNat_lowByte, toNat_upperEight _ derivative,
        toNat_sharedByte _ _ effort, toNat_lowByte]
      omega
  | v3 =>
      have joined : CommandFields.joined .v3 ⟨pDes, vDes, tFf, kp, kd⟩ = kp.toNat * 2 ^ 52 +
          (kd.toNat * 2 ^ 40 + (pDes.toNat * 2 ^ 24 + (vDes.toNat * 2 ^ 12 + tFf.toNat))) := by
        simp [CommandFields.joined, fieldOrder, concat, total, CommandField.bits,
          CommandFields.get]
      simp only [joined, CommandFields.packed, CommandFields.packV3, Payload.number_bytes]
      rw [toNat_upperEight _ proportional, toNat_sharedByte _ _ derivative, toNat_lowByte,
        toNat_highByte, toNat_lowByte, toNat_upperEight _ velocity,
        toNat_sharedByte _ _ effort, toNat_lowByte]
      omega

def CommandFields.ofValues (value : CommandField → Nat) : CommandFields where
  pDes := BitVec.ofNat 16 (value .position)
  vDes := BitVec.ofNat 16 (value .velocity)
  tFf := BitVec.ofNat 16 (value .effort)
  kp := BitVec.ofNat 16 (value .kp)
  kd := BitVec.ofNat 16 (value .kd)

theorem CommandField.two_pow_bits_le (field : CommandField) : 2 ^ field.bits ≤ 2 ^ 16 := by
  cases field <;> decide

theorem CommandFields.toNat_get_ofValues {value : CommandField → Nat}
    (fits : ∀ field : CommandField, value field < 2 ^ field.bits) (field : CommandField) :
    ((CommandFields.ofValues value).get field).toNat = value field := by
  have narrow : value field % 2 ^ 16 = value field :=
    Nat.mod_eq_of_lt ((fits field).trans_le field.two_pow_bits_le)
  cases field <;> exact narrow

theorem CommandFields.ext_get {left right : CommandFields}
    (same : ∀ field, left.get field = right.get field) : left = right := by
  obtain ⟨pDes, vDes, tFf, kp, kd⟩ := left
  obtain ⟨pDes', vDes', tFf', kp', kd'⟩ := right
  have position : pDes = pDes' := same .position
  have velocity : vDes = vDes' := same .velocity
  have effort : tFf = tFf' := same .effort
  have proportional : kp = kp' := same .kp
  have derivative : kd = kd' := same .kd
  rw [position, velocity, effort, proportional, derivative]

variable {series : SeriesType} {fields other : CommandFields}

/-- A field is found in its place of the payload. -/
theorem cut_packed (fits : fields.Fits) (field : CommandField) :
    cut CommandField.bits (fieldOrder series) (fields.packed series).number field =
      (fields.get field).toNat := by
  rw [number_packed series fits]
  exact cut_concat (fieldOrder_nodup series) (fun key _ => fits key) (mem_fieldOrder series field)

theorem packed_injective (fits : fields.Fits) (fitsOther : other.Fits)
    (same : fields.packed series = other.packed series) : fields = other := by
  apply CommandFields.ext_get
  intro field
  apply BitVec.eq_of_toNat_eq
  have own : cut CommandField.bits (fieldOrder series) (fields.packed series).number field =
      (fields.get field).toNat := cut_packed fits field
  rw [← own, same, cut_packed fitsOther field]

/-- Every payload is the packing of the fields that are cut out of it. -/
theorem packed_surjective (series : SeriesType) (data : Payload) :
    ∃ fields : CommandFields, fields.Fits ∧ fields.packed series = data := by
  let value : CommandField → Nat := cut CommandField.bits (fieldOrder series) data.number
  have within : ∀ field : CommandField, value field < 2 ^ field.bits := fun field => cut_lt _
  have values := CommandFields.toNat_get_ofValues within
  have fits : (CommandFields.ofValues value).Fits := fun field => by
    rw [values]
    exact within field
  refine ⟨CommandFields.ofValues value, fits, Payload.number_injective ?_⟩
  have small : data.number < 2 ^ total CommandField.bits (fieldOrder series) := by
    rw [total_fieldOrder]
    exact data.number_lt
  rw [number_packed series fits, CommandFields.joined, concat_congr fun field _ => values field]
  exact concat_cut (fieldOrder_nodup series) small

/-- Bits outside the place of the one field that differs are the same in both payloads. -/
theorem testBit_packed_other (fits : fields.Fits) (fitsOther : other.Fits)
    {changed : CommandField} (same : ∀ field, field ≠ changed → fields.get field = other.get field)
    {bit : Nat} (outside : ¬ Covers CommandField.bits (fieldOrder series) changed bit) :
    (fields.packed series).number.testBit bit = (other.packed series).number.testBit bit := by
  rw [number_packed series fits, number_packed series fitsOther]
  apply testBit_concat_other (fieldOrder_nodup series) (fun key _ => fits key)
    (fun key _ => fitsOther key) _ outside
  intro field different
  rw [same field different]

/-- The payload bytes are the fields of the command one after the other, every
payload is the packing of exactly one command, and a change of one field only
changes bits in the place of that field. -/
theorem payload_concatenates_fields {K : Type} [Scalar K] (series : SeriesType) :
    (∀ (config : JointConfig K) (cmd : JointCmd K),
      commandPayload config cmd = (commandFields config cmd).packed config.seriesType) ∧
    (∀ fields : CommandFields, fields.Fits →
      (fields.packed series).number = fields.joined series) ∧
    Function.Bijective
      (fun fields : { fields : CommandFields // fields.Fits } => fields.1.packed series) ∧
    ∀ (fields other : CommandFields) (changed : CommandField), fields.Fits → other.Fits →
      (∀ field, field ≠ changed → fields.get field = other.get field) →
      ∀ bit, ¬ Covers CommandField.bits (fieldOrder series) changed bit →
        (fields.packed series).number.testBit bit = (other.packed series).number.testBit bit := by
  refine ⟨commandPayload_packed, fun _ => number_packed series, ⟨?injective, ?surjective⟩, ?bits⟩
  case injective =>
    intro left right same
    exact Subtype.ext (packed_injective left.2 right.2 same)
  case surjective =>
    intro data
    obtain ⟨fields, fits, packed⟩ := packed_surjective series data
    exact ⟨⟨fields, fits⟩, packed⟩
  case bits =>
    intro fields other changed fits fitsOther same bit outside
    exact testBit_packed_other fits fitsOther same outside

/-- A V3 command whose gains and torque share a byte with their neighbours. -/
theorem payload_concatenates_fields_gains :
    (CommandFields.packed .v3 ⟨0x8000, 0x123, 0x456, 0x789, 0xABC⟩).number =
      0x789ABC8000123456 := by
  have fits : CommandFields.Fits ⟨0x8000, 0x123, 0x456, 0x789, 0xABC⟩ := by
    intro field
    cases field <;> decide
  rw [(payload_concatenates_fields (K := ℚ) .v3).2.1 _ fits]
  decide

end CubemarsDriver.Can

import CubemarsDriver.Can.Handshake
import CubemarsDriver.Can.Payload

namespace CubemarsDriver.Can

open Foundation.Quantizer

/-! # Commands that a motor takes for control frames

A V2 motor gets its commands and its control sequences under the same identifier.  The payload of
a command can be that of a control sequence, and then the motor is not moved but switched on, off
or to a new origin. -/

inductive ControlSequence where
  | startMotorControlMode
  | exitMotorControlMode
  | setZeroPosition
deriving DecidableEq, Repr

namespace ControlSequence

def payload : ControlSequence → Payload
  | .startMotorControlMode => startMotorControlModeSequence
  | .exitMotorControlMode => exitMotorControlModeSequence
  | .setZeroPosition => setZeroPositionSequence

/-- The integer in the place of the torque. -/
def torqueInt : ControlSequence → Nat
  | .startMotorControlMode => 4092
  | .exitMotorControlMode => 4093
  | .setZeroPosition => 4094

/-- What the fields of a command are when it has the payload of the sequence. -/
def fieldValue (sequence : ControlSequence) (field : CommandField) : Nat :=
  if field = .effort then sequence.torqueInt else 2 ^ field.bits - 1

variable {sequence : ControlSequence}

theorem torqueInt_bounds : 0 < sequence.torqueInt ∧ sequence.torqueInt + 1 ≤ 2 ^ 12 - 1 := by
  cases sequence <;> decide

theorem fieldValue_lt (field : CommandField) : sequence.fieldValue field < 2 ^ field.bits := by
  have torque : 0 < sequence.torqueInt ∧ sequence.torqueInt + 1 ≤ 2 ^ 12 - 1 := torqueInt_bounds
  have positive := Nat.two_pow_pos field.bits
  unfold fieldValue
  split
  · rename_i effort
    rw [effort]
    exact lt_of_lt_of_le (Nat.lt_succ_self _) (torque.2.trans (by decide))
  · omega

theorem payload_packed :
    sequence.payload = (CommandFields.ofValues sequence.fieldValue).packV2 := by
  cases sequence <;> decide

end ControlSequence

/-- Every field but the torque is at its upper limit. -/
def Saturated (config : JointConfig ℚ) (cmd : JointCmd ℚ) : Prop :=
  ∀ field, field ≠ .effort → upper config field ≤ wanted config cmd field

variable {config : JointConfig ℚ} {cmd : JointCmd ℚ} {sequence : ControlSequence}

theorem packV2_inj {fields other : CommandFields} (fits : fields.Fits) (otherFits : other.Fits) :
    fields.packV2 = other.packV2 ↔ fields = other := by
  constructor
  · intro same
    rw [← unpackCommandV2_packV2 fits, same, unpackCommandV2_packV2 otherFits]
  · exact congrArg _

theorem ofValues_fits {value : CommandField → Nat}
    (small : ∀ field : CommandField, value field < 2 ^ field.bits) :
    (CommandFields.ofValues value).Fits := fun field => by
  rw [CommandFields.toNat_get_ofValues small]
  exact small field

theorem commandFields_eq_iff (ranged : ∀ field, lower config field < upper config field)
    {value : CommandField → Nat} (small : ∀ field : CommandField, value field < 2 ^ field.bits) :
    commandFields config cmd = CommandFields.ofValues value ↔
      ∀ field, fieldInt config cmd field = value field := by
  constructor
  · intro same field
    rw [← commandFields_get ranged, same, CommandFields.toNat_get_ofValues small]
  · intro same
    refine CommandFields.ext_get fun field => BitVec.eq_of_toNat_eq ?_
    rw [commandFields_get ranged, same, CommandFields.toNat_get_ofValues small]

/-- A field has its highest integer from the upper limit on. -/
theorem fieldInt_top_iff (ranged : ∀ field, lower config field < upper config field)
    (field : CommandField) :
    fieldInt config cmd field = 2 ^ field.bits - 1 ↔ upper config field ≤ wanted config cmd field := by
  have range := ranged field
  have cells : 0 < 2 ^ field.bits - 1 := by cases field <;> decide
  have within := limited_mem range (wanted config cmd field)
  have most : level (2 ^ field.bits - 1) (lower config field) (upper config field)
      (limited config field (wanted config cmd field)) ≤ 2 ^ field.bits - 1 := level_le range within.2
  have top : levelValue (2 ^ field.bits - 1) (lower config field) (upper config field)
      (2 ^ field.bits - 1) = upper config field := levelValue_top cells
  rw [fieldInt_eq_level ranged, Nat.le_antisymm_iff, and_iff_right most, le_level_iff range within.1 cells, limited,
    levelValue_le_limited range cells le_rfl cells, top]

/-- The torque has one of the integers in between as long as it is in the cell of that integer. -/
theorem fieldInt_effort_iff (ranged : ∀ field, lower config field < upper config field)
    {index : Nat} (positive : 0 < index) (bound : index + 1 ≤ 2 ^ 12 - 1) :
    fieldInt config cmd .effort = index ↔
      levelValue (2 ^ 12 - 1) config.iMin config.iMax index ≤ directed config cmd.torque ∧
        directed config cmd.torque < levelValue (2 ^ 12 - 1) config.iMin config.iMax (index + 1) := by
  have range : config.iMin < config.iMax := ranged .effort
  have cells : 0 < 2 ^ 12 - 1 := by decide
  have within := limited_mem (ranged .effort) (wanted config cmd .effort)
  rw [fieldInt_eq_level ranged, show CommandField.effort.bits = 12 from rfl,
    level_eq_iff (ranged .effort) within.1 cells]
  have reached {index : Nat} (positive : 0 < index) (bound : index ≤ 2 ^ 12 - 1) :
      levelValue (2 ^ 12 - 1) config.iMin config.iMax index ≤
        min (max config.iMin (directed config cmd.torque)) config.iMax ↔
        levelValue (2 ^ 12 - 1) config.iMin config.iMax index ≤ directed config cmd.torque :=
    levelValue_le_limited range cells bound positive
  have low := reached positive (by omega)
  have high := (reached (Nat.succ_pos index) bound).not
  rw [not_le, not_le] at high
  exact and_congr low high

/-- A V2 command has the payload of a control sequence exactly if position, velocity and both
gains are at their upper limits and the torque is in the one cell that the sequence has, between
one and three steps below its own limit. -/
theorem command_mistaken_iff (series : config.seriesType = .v2)
    (ranged : ∀ field, lower config field < upper config field) :
    commandPayload config cmd = sequence.payload ↔ Saturated config cmd ∧
      levelValue (2 ^ 12 - 1) config.iMin config.iMax sequence.torqueInt ≤
        directed config cmd.torque ∧
      directed config cmd.torque <
        levelValue (2 ^ 12 - 1) config.iMin config.iMax (sequence.torqueInt + 1) := by
  have payload : commandPayload config cmd = (commandFields config cmd).packV2 := by
    rw [commandPayload, series]
  rw [payload, ControlSequence.payload_packed, packV2_inj (commandFields_fits ranged)
    (ofValues_fits ControlSequence.fieldValue_lt),
    commandFields_eq_iff ranged ControlSequence.fieldValue_lt,
    ← fieldInt_effort_iff ranged ControlSequence.torqueInt_bounds.1 ControlSequence.torqueInt_bounds.2]
  constructor
  · intro values
    refine ⟨fun field other => ?_, values .effort⟩
    rw [← fieldInt_top_iff ranged, values field, ControlSequence.fieldValue, if_neg other]
  · intro mistaken field
    obtain ⟨saturated, torque⟩ := mistaken
    by_cases effort : field = .effort
    · rw [effort, torque]
      rfl
    · rw [ControlSequence.fieldValue, if_neg effort, fieldInt_top_iff ranged]
      exact saturated field effort

section Example

/-- Full speed and gains at the end of the range, and two steps less than the full torque. -/
theorem command_mistaken_iff_ak80 :
    commandPayload (ak80 1) { pos := 13, vel := 80, torque := 12 - 2 * (24 / 4095), kp := 500, kd := 5 } =
      ControlSequence.exitMotorControlMode.payload := by
  refine (command_mistaken_iff rfl ak80_ranged).mpr ⟨fun field other => ?_, ?_, ?_⟩
  · cases field with
    | effort => exact absurd rfl other
    | _ => norm_num [upper, wanted, directed, ak80]
  · norm_num [levelValue, directed, ak80, ControlSequence.torqueInt]
  · norm_num [levelValue, directed, ak80, ControlSequence.torqueInt]

end Example

end CubemarsDriver.Can

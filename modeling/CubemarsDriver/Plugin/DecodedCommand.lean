import CubemarsDriver.Plugin.PackCmd

namespace CubemarsDriver.Plugin

open Can Foundation Foundation.Quantizer

/-! # What a motor reads out of a packed command

The upper end of a range has one integer more than its field has room for.  The field then reads
as zero, and where it shares a byte the bit that is left over goes into its neighbour. -/

/-- Every integer is at most the first one that its field has no room for. -/
def AlmostFits (fields : CommandFields) : Prop :=
  ∀ field : CommandField, (fields.get field).toNat ≤ 2 ^ field.bits

/-- A bit of the neighbour falls on the lowest bit. -/
def spillInto (own spill : Nat) : Nat := if spill = 0 then own else own / 2 * 2 + 1

theorem toNat_upperEight_mod (word : BitVec 16) :
    ((word >>> 4).setWidth 8).toNat = word.toNat % 4096 / 16 := by
  rw [BitVec.toNat_setWidth, toNat_shiftRight]
  omega

theorem toNat_sharedByte_le (word : BitVec 16) {next : BitVec 16} (bound : next.toNat ≤ 4096) :
    ((((word &&& 0xF#16) <<< 4) ||| (next >>> 8)).setWidth 8).toNat =
      spillInto (word.toNat % 16) (next.toNat / 4096) * 16 + next.toNat % 4096 / 256 := by
  rcases bound.lt_or_eq with fits | full
  · rw [toNat_sharedByte word next fits, Nat.mod_eq_of_lt fits, Nat.div_eq_of_lt fits]
    rfl
  · have nibble : (word &&& 0xF#16).toNat = word.toNat % 16 := toNat_and_mask word 4 (by decide)
    have spill : ∀ low < 16, (low * 16 ||| 16) = (low / 2 * 2 + 1) * 16 := by decide
    have some : word.toNat % 16 < 16 := Nat.mod_lt _ (by decide)
    have room : word.toNat % 16 * 2 ^ 4 % 2 ^ 16 = word.toNat % 16 * 16 := by omega
    rw [BitVec.toNat_setWidth, BitVec.toNat_or, BitVec.toNat_shiftLeft, toNat_shiftRight, nibble,
      Nat.shiftLeft_eq, full, room]
    show (word.toNat % 16 * 16 ||| 16) % 256 = (word.toNat % 16 / 2 * 2 + 1) * 16 + 0
    rw [spill _ some]
    omega

/-- What the bytes read as when the integers almost fit. -/
def decodedWord (fields : CommandFields) : CommandField → Nat
  | .position => fields.pDes.toNat
  | .velocity => spillInto (fields.vDes.toNat % 4096) (fields.kp.toNat / 4096)
  | .kp => fields.kp.toNat % 4096
  | .kd => spillInto (fields.kd.toNat % 4096) (fields.tFf.toNat / 4096)
  | .effort => fields.tFf.toNat % 4096

theorem spillInto_nibbles (own spill : Nat) :
    own / 16 * 16 + spillInto (own % 16) spill = spillInto own spill := by
  unfold spillInto
  split <;> omega

theorem unpackCommandV2_almost {fields : CommandFields} (almost : AlmostFits fields)
    (field : CommandField) :
    ((unpackCommandV2 fields.packV2).get field).toNat = decodedWord fields field := by
  obtain ⟨pDes, vDes, tFf, kp, kd⟩ := fields
  have proportional : kp.toNat ≤ 4096 := almost .kp
  have effort : tFf.toNat ≤ 4096 := almost .effort
  have joined (own : BitVec 16) (spill : Nat) {rest : Nat} (small : rest < 16) :
      own.toNat % 4096 / 16 * 16 + (spillInto (own.toNat % 16) spill * 16 + rest) / 16 =
        spillInto (own.toNat % 4096) spill := by
    have nibbles := spillInto_nibbles (own.toNat % 4096) spill
    rw [Nat.mod_mod_of_dvd _ (by decide : 16 ∣ 4096)] at nibbles
    omega
  cases field <;>
    simp only [CommandFields.get, decodedWord, unpackCommandV2, CommandFields.packV2,
      Vector.getElem_mk, List.getElem_toArray, List.getElem_cons_zero, List.getElem_cons_succ]
  · rw [toNat_joinBytes, toNat_highByte, toNat_lowByte]
    omega
  · rw [toNat_joinUpperNibble, toNat_upperEight_mod, toNat_sharedByte_le _ proportional]
    exact joined _ _ (by omega)
  · rw [toNat_joinLowerNibble, toNat_sharedByte_le _ proportional, toNat_lowByte]
    omega
  · rw [toNat_joinUpperNibble, toNat_upperEight_mod, toNat_sharedByte_le _ effort]
    exact joined _ _ (by omega)
  · rw [toNat_joinLowerNibble, toNat_sharedByte_le _ effort, toNat_lowByte]
    omega

section Command

variable {config : JointConfig ℚ} {cmd : JointCmd ℚ} {mode : JointMode}

/-- The clamped value has reached the end of its range. -/
def AtLimit (cmd : JointCmd ℚ) (config : JointConfig ℚ) (mode : JointMode) (field : CommandField) :
    Prop :=
  clampedValue cmd config mode field = upper config field

instance instDecidableAtLimit (cmd : JointCmd ℚ) (config : JointConfig ℚ) (mode : JointMode)
    (field : CommandField) : Decidable (AtLimit cmd config mode field) :=
  inferInstanceAs (Decidable (_ = _))

/-- The integer of a field, which wraps around at the end of the range. -/
def wrappedInt (cmd : JointCmd ℚ) (config : JointConfig ℚ) (mode : JointMode) (field : CommandField) :
    Nat :=
  if AtLimit cmd config mode field then 0
  else level (2 ^ field.bits) (lower config field) (upper config field)
    (clampedValue cmd config mode field)

/-- What the motor reads: the torque's last integer reaches into the derivative gain, and that of
the proportional gain into the velocity. -/
def decodedInt (cmd : JointCmd ℚ) (config : JointConfig ℚ) (mode : JointMode) (field : CommandField) :
    Nat :=
  let spill (neighbour : CommandField) : Nat := if AtLimit cmd config mode neighbour then 1 else 0
  match field with
  | .velocity => spillInto (wrappedInt cmd config mode .velocity) (spill .kp)
  | .kd => spillInto (wrappedInt cmd config mode .kd) (spill .effort)
  | field => wrappedInt cmd config mode field

/-- The integer of a field before it is cut to the field's width. -/
def commandLevel (cmd : JointCmd ℚ) (config : JointConfig ℚ) (mode : JointMode)
    (field : CommandField) : Nat :=
  level (2 ^ field.bits) (lower config field) (upper config field)
    (clampedValue cmd config mode field)

/-- What is left of the integers of a command. -/
def receivedLevel (levels : CommandField → Nat) : CommandField → Nat
  | .velocity => spillInto (levels .velocity % 4096) (levels .kp / 4096)
  | .kd => spillInto (levels .kd % 4096) (levels .effort / 4096)
  | field => levels field % 2 ^ field.bits

section Levels

variable (cmd : JointCmd ℚ) (mode : JointMode)

theorem commandLevel_le (ranged : ∀ field, lower config field < upper config field)
    (field : CommandField) : commandLevel cmd config mode field ≤ 2 ^ field.bits ∧
      (commandLevel cmd config mode field = 2 ^ field.bits ↔ AtLimit cmd config mode field) := by
  have within : lower config field ≤ clampedValue cmd config mode field ∧
      clampedValue cmd config mode field ≤ upper config field := limited_mem (ranged field) _
  obtain ⟨above, below⟩ := within
  have bound : commandLevel cmd config mode field ≤ 2 ^ field.bits := level_le (ranged field) below
  have inside : commandLevel cmd config mode field < 2 ^ field.bits ↔
      clampedValue cmd config mode field < upper config field :=
    level_lt_iff (ranged field) above below (Nat.two_pow_pos field.bits)
  refine ⟨bound, ?_⟩
  rw [AtLimit]
  constructor
  · intro full
    exact below.antisymm (not_lt.mp fun less => (inside.mpr less).ne full)
  · intro limit
    rw [commandLevel, limit]
    exact level_top (ranged field)

theorem fieldInt_eq_commandLevel (ranged : ∀ field, lower config field < upper config field)
    (field : CommandField) : fieldInt cmd config mode field = commandLevel cmd config mode field :=
  fieldInt_eq_level ranged field

theorem uint16_level (ranged : ∀ field, lower config field < upper config field)
    {field : CommandField} (twelve : field ≠ .position) :
    (BitVec.ofInt 16 (fieldInt cmd config mode field)).toNat = commandLevel cmd config mode field := by
  have bound := (commandLevel_le cmd mode ranged field).1
  have bits : field.bits = 12 := by cases field <;> first | rfl | exact absurd rfl twelve
  rw [bits] at bound
  rw [fieldInt_eq_commandLevel cmd mode ranged, BitVec.toNat_ofInt]
  omega

theorem commandLevel_mod (ranged : ∀ field, lower config field < upper config field)
    (field : CommandField) :
    commandLevel cmd config mode field % 2 ^ field.bits = wrappedInt cmd config mode field := by
  obtain ⟨bound, full⟩ := commandLevel_le cmd mode ranged field
  rw [wrappedInt]
  split
  next limit => rw [full.mpr limit, Nat.mod_self]
  next inside => exact Nat.mod_eq_of_lt (bound.lt_of_ne fun same => inside (full.mp same))

theorem commandLevel_div (ranged : ∀ field, lower config field < upper config field)
    (field : CommandField) : commandLevel cmd config mode field / 2 ^ field.bits =
      if AtLimit cmd config mode field then 1 else 0 := by
  obtain ⟨bound, full⟩ := commandLevel_le cmd mode ranged field
  split
  next limit => rw [full.mpr limit, Nat.div_self (Nat.two_pow_pos _)]
  next inside => exact Nat.div_eq_of_lt (bound.lt_of_ne fun same => inside (full.mp same))

end Levels

/-- What the motor reads, whether the last integer of a field has been reached or not. -/
theorem received_levels (ranged : ∀ field, lower config field < upper config field)
    (field : CommandField) :
    ((unpackCommandV2 (packCmd cmd config mode).data).get field).toNat =
      receivedLevel (commandLevel cmd config mode) field := by
  have twelve {field : CommandField} (other : field ≠ .position) := uint16_level cmd mode ranged other
  have almost : AlmostFits { pDes := BitVec.ofInt 16 (fieldInt cmd config mode .position)
                             vDes := BitVec.ofInt 16 (fieldInt cmd config mode .velocity)
                             tFf := BitVec.ofInt 16 (fieldInt cmd config mode .effort)
                             kp := BitVec.ofInt 16 (fieldInt cmd config mode .kp)
                             kd := BitVec.ofInt 16 (fieldInt cmd config mode .kd) } := by
    intro field
    have bound := (commandLevel_le cmd mode ranged field).1
    cases field with
    | position => exact Nat.le_of_lt (BitVec.isLt _)
    | _ =>
        rw [← twelve (by decide)] at bound
        exact bound
  rw [packCmd, unpackCommandV2_almost almost]
  cases field with
  | position =>
      have bound := (commandLevel_le cmd mode ranged .position).1
      simp only [decodedWord, receivedLevel, fieldInt_eq_commandLevel cmd mode ranged,
        BitVec.toNat_ofInt, CommandField.bits] at bound ⊢
      omega
  | _ => simp only [decodedWord, receivedLevel, twelve, ne_eq, reduceCtorEq,
      not_false_eq_true, CommandField.bits, Nat.reducePow]

/-- What a motor reads out of the frame of any command. -/
theorem decoded_command (ranged : ∀ field, lower config field < upper config field)
    (field : CommandField) :
    ((unpackCommandV2 (packCmd cmd config mode).data).get field).toNat =
      decodedInt cmd config mode field := by
  have wrapped := commandLevel_mod cmd mode ranged
  have spilled := commandLevel_div cmd mode ranged
  rw [received_levels ranged]
  cases field with
  | velocity => exact congrArg₂ spillInto (wrapped .velocity) (spilled .kp)
  | kd => exact congrArg₂ spillInto (wrapped .kd) (spilled .effort)
  | _ => exact wrapped _

/-- A command of the largest torque arrives as the smallest one, and with another gain. -/
theorem decoded_command_top_torque :
    let received := unpackCommandV2 (packCmd ⟨0, 0, 12, 100, 2⟩ (ak80 1) .position).data
    (received.get .effort).toNat = 0 ∧ (received.get .kd).toNat = 1639 := by
  have values : decodedInt ⟨0, 0, 12, 100, 2⟩ (ak80 1) .position .effort = 0 ∧
      decodedInt ⟨0, 0, 12, 100, 2⟩ (ak80 1) .position .kd = 1639 := by decide +kernel
  exact ⟨(decoded_command ak80_ranged .effort).trans values.1,
    (decoded_command ak80_ranged .kd).trans values.2⟩

end Command

end CubemarsDriver.Plugin

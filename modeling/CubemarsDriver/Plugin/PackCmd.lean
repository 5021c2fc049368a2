import CubemarsDriver.Can.Frame

namespace CubemarsDriver.Plugin

open Can Foundation.Quantizer

/-! # `pack_cmd` of the ros2_control plugin

The plugin has its own conversion functions.  Its encoder cuts a range into
`2 ^ bits` cells while its decoder spreads the integers over `2 ^ bits - 1`
steps, so that the upper end of a range has no integer of its own. -/

section Model

variable {K : Type} [Scalar K]

def floatToUint (x xMin xMax : K) (bits : Nat) : Int :=
  let span := xMax - xMin
  let x := if x < xMin then xMin else if xMax < x then xMax else x
  Scalar.truncate ((x - xMin) * (Scalar.ofRat (2 ^ bits : Nat) / span))

def uintToFloat (xInt : Int) (xMin xMax : K) (bits : Nat) : K :=
  let span := xMax - xMin
  let offset := xMin
  Scalar.ofRat xInt * span / Scalar.ofRat (2 ^ bits - 1 : Nat) + offset

/-- The command after inversion, the mode's choice of gains and the limits. -/
def limitCmd (cmd : JointCmd K) (jointConfig : JointConfig K) (controlMode : JointMode) : JointCmd K :=
  let invert (value : K) := if jointConfig.invert then value * Scalar.ofRat (-1) else value
  let kd := Scalar.clamp jointConfig.kdMin jointConfig.kdMax cmd.kd
  let (kp, kd) := match controlMode with
    | .position => (Scalar.clamp jointConfig.kpMin jointConfig.kpMax cmd.kp, kd)
    | .velocity => (Scalar.zero, kd)
    | _ => (Scalar.zero, Scalar.zero)
  { pos := Scalar.clamp jointConfig.pMin jointConfig.pMax (invert cmd.pos)
    vel := Scalar.clamp jointConfig.vMin jointConfig.vMax (invert cmd.vel)
    torque := Scalar.clamp jointConfig.iMin jointConfig.iMax (invert cmd.torque)
    kp, kd }

/-- `float_to_uint` of one field, before it is narrowed to sixteen bits. -/
def fieldInt (cmd : JointCmd K) (jointConfig : JointConfig K) (controlMode : JointMode)
    (field : CommandField) : Int :=
  let limited := limitCmd cmd jointConfig controlMode
  match field with
  | .position => floatToUint limited.pos jointConfig.pMin jointConfig.pMax 16
  | .velocity => floatToUint limited.vel jointConfig.vMin jointConfig.vMax 12
  | .kp => floatToUint limited.kp jointConfig.kpMin jointConfig.kpMax 12
  | .kd => floatToUint limited.kd jointConfig.kdMin jointConfig.kdMax 12
  | .effort => floatToUint limited.torque jointConfig.iMin jointConfig.iMax 12

/-- The bytes are those of the V2 layout. -/
def packCmd (cmd : JointCmd K) (jointConfig : JointConfig K) (controlMode : JointMode) : CanFrame :=
  let uint16 (field : CommandField) := BitVec.ofInt 16 (fieldInt cmd jointConfig controlMode field)
  { canId := jointConfig.canId
    len := 8
    data := CommandFields.packV2 {
      pDes := uint16 .position, vDes := uint16 .velocity, tFf := uint16 .effort
      kp := uint16 .kp, kd := uint16 .kd } }

end Model

/-- The value a field is meant to carry: the command of the field in the motor's
direction, zero where the mode forbids the gain, limited to the field's range. -/
def clampedValue (cmd : JointCmd ℚ) (config : JointConfig ℚ) (mode : JointMode)
    (field : CommandField) : ℚ :=
  let directed (value : ℚ) := if config.invert then -value else value
  let wanted := match field with
    | .position => directed cmd.pos
    | .velocity => directed cmd.vel
    | .effort => directed cmd.torque
    | .kp => if mode = .position then cmd.kp else 0
    | .kd => if mode = .position ∨ mode = .velocity then cmd.kd else 0
  min (max (lower config field) wanted) (upper config field)

section Encoder

variable {config : JointConfig ℚ} {cmd : JointCmd ℚ} {mode : JointMode}

theorem limited_mem {lo hi : ℚ} (range : lo < hi) (x : ℚ) :
    lo ≤ min (max lo x) hi ∧ min (max lo x) hi ≤ hi :=
  ⟨le_min (le_max_left lo x) range.le, min_le_right _ _⟩

theorem limited_limited {lo hi : ℚ} (range : lo < hi) (x : ℚ) :
    min (max lo (min (max lo x) hi)) hi = min (max lo x) hi := by
  obtain ⟨above, below⟩ := limited_mem range x
  rw [max_eq_right above, min_eq_left below]

/-- Over exact arithmetic the encoder is the quantiser with `2 ^ bits` cells. -/
theorem floatToUint_eq_level {lo hi : ℚ} (range : lo < hi) (x : ℚ) (bits : Nat) :
    floatToUint x lo hi bits = level (2 ^ bits) lo hi (min (max lo x) hi) := by
  have limited : (if x < lo then lo else if hi < x then hi else x) = min (max lo x) hi := by
    split
    · rw [max_eq_left (le_of_lt ‹_›), min_eq_left range.le]
    · rw [max_eq_right (not_lt.mp ‹_›)]
      split
      · rw [min_eq_right (le_of_lt ‹_›)]
      · rw [min_eq_left (not_lt.mp ‹_›)]
  have width := sub_pos.mpr range
  have nonneg : 0 ≤ (min (max lo x) hi - lo) * (((2 ^ bits : Nat) : ℚ) / (hi - lo)) :=
    mul_nonneg (sub_nonneg.mpr (limited_mem range x).1) (div_nonneg (Nat.cast_nonneg _) width.le)
  change Scalar.truncate (((if x < lo then lo else if hi < x then hi else x) - lo) *
    (((2 ^ bits : Nat) : ℚ) / (hi - lo))) = _
  rw [limited, Scalar.truncate_rat_of_nonneg nonneg, level, mul_div_assoc', div_mul_eq_mul_div]

theorem fieldInt_eq_level (ranged : ∀ field, lower config field < upper config field)
    (field : CommandField) : fieldInt cmd config mode field =
      level (2 ^ field.bits) (lower config field) (upper config field)
        (clampedValue cmd config mode field) := by
  have negated (value : ℚ) : value * Scalar.ofRat (-1) = -value := mul_neg_one value
  have range := ranged field
  cases field <;>
    simp only [fieldInt, limitCmd, clampedValue, Scalar.clamp_rat, negated, CommandField.bits,
      lower, upper] at range ⊢
  · rw [floatToUint_eq_level range, limited_limited range]
  · rw [floatToUint_eq_level range, limited_limited range]
  · cases mode <;> simp only [reduceCtorEq, if_false, if_true]
    all_goals rw [floatToUint_eq_level range]
    all_goals first | rfl | rw [limited_limited range]
  · cases mode <;> simp only [reduceCtorEq, or_false, or_true, if_false, if_true]
    all_goals rw [floatToUint_eq_level range]
    all_goals first | rfl | rw [limited_limited range]
  · rw [floatToUint_eq_level range, limited_limited range]

end Encoder

/-- Every integer fits its field, and every field decodes to within one step of
the clamped value. -/
def PackFaithful (cmd : JointCmd ℚ) (config : JointConfig ℚ) (mode : JointMode) : Prop :=
  ∀ field : CommandField,
    fieldInt cmd config mode field < 2 ^ field.bits ∧
      |uintToFloat ((unpackCommandV2 (packCmd cmd config mode).data).get field).toNat
          (lower config field) (upper config field) field.bits -
        clampedValue cmd config mode field| <
      stepSize (2 ^ field.bits - 1) (lower config field) (upper config field)

theorem packCmd_get (cmd : JointCmd ℚ) (config : JointConfig ℚ) (mode : JointMode)
    (level : CommandField → Nat)
    (levels : ∀ field, fieldInt cmd config mode field = level field)
    (fits : ∀ field : CommandField, level field < 2 ^ field.bits) (field : CommandField) :
    ((unpackCommandV2 (packCmd cmd config mode).data).get field).toNat = level field := by
  have narrowed (field : CommandField) :
      (BitVec.ofInt 16 (fieldInt cmd config mode field)).toNat = level field := by
    have bound : level field < 65536 := by
      have fit := fits field
      cases field <;> simp only [CommandField.bits] at fit <;> omega
    rw [levels, BitVec.toNat_ofInt]
    omega
  simp only [packCmd]
  rw [unpackCommandV2_packV2]
  · cases field <;> exact narrowed _
  · intro other
    have fit := fits other
    rw [← narrowed other] at fit
    cases other <;> exact fit

/-- Packing is faithful exactly if no clamped value is the maximum of its range. -/
theorem pack_faithful_iff {cmd : JointCmd ℚ} {config : JointConfig ℚ} {mode : JointMode}
    (ranged : ∀ field, lower config field < upper config field) :
    PackFaithful cmd config mode ↔
      ∀ field, clampedValue cmd config mode field < upper config field := by
  have within (field : CommandField) : lower config field ≤ clampedValue cmd config mode field ∧
      clampedValue cmd config mode field ≤ upper config field := limited_mem (ranged field) _
  have fits (field : CommandField) :
      fieldInt cmd config mode field < 2 ^ field.bits ↔
        clampedValue cmd config mode field < upper config field := by
    rw [fieldInt_eq_level ranged field, ← level_lt_iff (ranged field) (within field).1
      (within field).2 (Nat.two_pow_pos field.bits)]
    exact_mod_cast Iff.rfl
  constructor
  · intro faithful field
    exact (fits field).mp (faithful field).1
  · intro below field
    refine ⟨(fits field).mpr (below field), ?_⟩
    rw [packCmd_get cmd config mode _ (fieldInt_eq_level ranged) fun other => by
      have fit := (fits other).mpr (below other)
      rw [fieldInt_eq_level ranged other] at fit
      exact_mod_cast fit]
    have cells : 2 ^ field.bits = 2 ^ field.bits - 1 + 1 :=
      (Nat.sub_add_cancel (Nat.two_pow_pos field.bits)).symm
    have some : 0 < 2 ^ field.bits - 1 := by cases field <;> decide
    have close := abs_levelValue_level_succ_sub_lt (ranged field) (within field).1 (below field) some
    rw [← cells] at close
    exact close

section Example

theorem pack_faithful_iff_ak80 :
    PackFaithful ⟨1, 0, 0, 100, 1⟩ (ak80 1) .position ↔
      ∀ field, clampedValue ⟨1, 0, 0, 100, 1⟩ (ak80 1) .position field < upper (ak80 1) field :=
  pack_faithful_iff ak80_ranged

/-- A position command at the upper limit is packed as `2 ^ 16`. -/
theorem pack_not_faithful :
    ¬ ∀ (cmd : JointCmd ℚ) (config : JointConfig ℚ) (mode : JointMode),
      (∀ field, lower config field < upper config field) → PackFaithful cmd config mode := by
  intro claim
  have fits := (claim ⟨25 / 2, 0, 0, 100, 1⟩ (ak80 1) .position ak80_ranged .position).1
  have top : clampedValue ⟨25 / 2, 0, 0, 100, 1⟩ (ak80 1) .position .position =
      upper (ak80 1) .position := by
    simp only [clampedValue, lower, upper, ak80]
    norm_num
  rw [fieldInt_eq_level ak80_ranged, top, level_top (ak80_ranged .position)] at fits
  exact absurd fits (by decide)

end Example

end CubemarsDriver.Plugin

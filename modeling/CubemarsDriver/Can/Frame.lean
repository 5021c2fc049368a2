import CubemarsDriver.Com
import CubemarsDriver.Foundation.Nibbles
import CubemarsDriver.Foundation.Quantizer

namespace CubemarsDriver.Can

/-! # Frames of the CAN bus and the motors' payload formats -/

def canEffFlag : BitVec 32 := 0x80000000
def canErrFlag : BitVec 32 := 0x20000000
def canSffMask : BitVec 32 := 0x7FF
def canEffMask : BitVec 32 := 0x1FFFFFFF
def canMaxDlen : Nat := 8

abbrev Payload := Vector (BitVec 8) 8

/-- The byte in which a V2 motor names itself. -/
def Payload.motorId (data : Payload) : BitVec 8 := data[0]

/-- The byte in which a motor reports its error. -/
def Payload.errorByte (data : Payload) : BitVec 8 := data[7]

/-- The byte in which a motor reports its temperature. -/
def Payload.temperatureByte (data : Payload) : BitVec 8 := data[6]

structure CanFrame where
  canId : BitVec 32
  len : Nat
  data : Payload
deriving DecidableEq, Repr

section Conversion

variable {K : Type} [Scalar K]

/-- Converts a float to an unsigned int, given range and number of bits. -/
def floatToUint (x xMin xMax : K) (bits : Nat) : Nat :=
  let span := xMax - xMin
  let x := if x < xMin then xMin else if xMax < x then xMax else x
  (Scalar.truncate ((x - xMin) * Scalar.ofRat (2 ^ bits - 1 : Nat) / span)).toNat

/-- Converts an unsigned int to a float, given range and number of bits. -/
def uintToFloat (xInt : Nat) (xMin xMax : K) (bits : Nat) : K :=
  let span := xMax - xMin
  let offset := xMin
  Scalar.ofRat xInt * span / Scalar.ofRat (2 ^ bits - 1 : Nat) + offset

end Conversion

section Rational

open Foundation.Quantizer

variable {lo hi x : ℚ} {bits : Nat}

/-- Over exact arithmetic `float_to_uint` is the quantiser with `2 ^ bits - 1` cells. -/
theorem floatToUint_rat (range : lo < hi) (above : lo ≤ x) (below : x ≤ hi) :
    floatToUint x lo hi bits = level (2 ^ bits - 1) lo hi x := by
  have width := sub_pos.mpr range
  have unclamped : (if x < lo then lo else if hi < x then hi else x) = x := by
    rw [if_neg (not_lt.mpr above), if_neg (not_lt.mpr below)]
  have nonneg : 0 ≤ (x - lo) * ((2 ^ bits - 1 : Nat) : ℚ) / (hi - lo) :=
    div_nonneg (mul_nonneg (sub_nonneg.mpr above) (Nat.cast_nonneg _)) width.le
  change (Scalar.truncate (((if x < lo then lo else if hi < x then hi else x) - lo) *
    ((2 ^ bits - 1 : Nat) : ℚ) / (hi - lo))).toNat = _
  rw [unclamped, Scalar.truncate_rat_of_nonneg nonneg, Int.toNat_natCast, level,
    div_mul_eq_mul_div]

/-- Over exact arithmetic `uint_to_float` is the dequantiser with `2 ^ bits - 1` steps. -/
theorem uintToFloat_rat (index : Nat) :
    uintToFloat index lo hi bits = levelValue (2 ^ bits - 1) lo hi index := rfl

end Rational

open Foundation

/-- The five integers `send_and_receive` computes for one joint. -/
structure CommandFields where
  pDes : BitVec 16
  vDes : BitVec 16
  tFf : BitVec 16
  kp : BitVec 16
  kd : BitVec 16
deriving DecidableEq, Repr

def CommandFields.packV2 (fields : CommandFields) : Payload :=
  #v[(fields.pDes >>> 8).setWidth 8,
    (fields.pDes &&& 0xFF#16).setWidth 8,
    (fields.vDes >>> 4).setWidth 8,
    (((fields.vDes &&& 0xF#16) <<< 4) ||| (fields.kp >>> 8)).setWidth 8,
    (fields.kp &&& 0xFF#16).setWidth 8,
    (fields.kd >>> 4).setWidth 8,
    (((fields.kd &&& 0xF#16) <<< 4) ||| (fields.tFf >>> 8)).setWidth 8,
    (fields.tFf &&& 0xFF#16).setWidth 8]

def CommandFields.packV3 (fields : CommandFields) : Payload :=
  #v[(fields.kp >>> 4).setWidth 8,
    (((fields.kp &&& 0xF#16) <<< 4) ||| (fields.kd >>> 8)).setWidth 8,
    (fields.kd &&& 0xFF#16).setWidth 8,
    (fields.pDes >>> 8).setWidth 8,
    (fields.pDes &&& 0xFF#16).setWidth 8,
    (fields.vDes >>> 4).setWidth 8,
    (((fields.vDes &&& 0xF#16) <<< 4) ||| (fields.tFf >>> 8)).setWidth 8,
    (fields.tFf &&& 0xFF#16).setWidth 8]

/-- The fields of a command, in the order of the V2 payload. -/
inductive CommandField where
  | position
  | velocity
  | kp
  | kd
  | effort
deriving DecidableEq, Repr

def CommandField.bits : CommandField → Nat
  | .position => 16
  | _ => 12

def CommandFields.get (fields : CommandFields) : CommandField → BitVec 16
  | .position => fields.pDes
  | .velocity => fields.vDes
  | .kp => fields.kp
  | .kd => fields.kd
  | .effort => fields.tFf

/-- Every integer fits the bits its field has in the payload. -/
def CommandFields.Fits (fields : CommandFields) : Prop :=
  ∀ field : CommandField, (fields.get field).toNat < 2 ^ field.bits

/-- The integers a V2 motor reads out of a payload. -/
def unpackCommandV2 (data : Payload) : CommandFields where
  pDes := (data[0].setWidth 16 <<< 8) ||| data[1].setWidth 16
  vDes := (data[2].setWidth 16 <<< 4) ||| (data[3] >>> 4).setWidth 16
  kp := ((data[3] &&& 0xF#8).setWidth 16 <<< 8) ||| data[4].setWidth 16
  kd := (data[5].setWidth 16 <<< 4) ||| (data[6] >>> 4).setWidth 16
  tFf := ((data[6] &&& 0xF#8).setWidth 16 <<< 8) ||| data[7].setWidth 16

/-- No field spills into its neighbours. -/
theorem unpackCommandV2_packV2 {fields : CommandFields} (fits : fields.Fits) :
    unpackCommandV2 fields.packV2 = fields := by
  obtain ⟨pDes, vDes, tFf, kp, kd⟩ := fields
  have velocity : vDes.toNat < 4096 := fits .velocity
  have proportional : kp.toNat < 4096 := fits .kp
  have derivative : kd.toNat < 4096 := fits .kd
  have effort : tFf.toNat < 4096 := fits .effort
  simp only [unpackCommandV2, CommandFields.packV2, Vector.getElem_mk, List.getElem_toArray,
    List.getElem_cons_zero, List.getElem_cons_succ]
  congr 1 <;> apply BitVec.eq_of_toNat_eq
  · rw [toNat_joinBytes, toNat_highByte, toNat_lowByte]
    omega
  · rw [toNat_joinUpperNibble, toNat_upperEight _ velocity, toNat_sharedByte _ _ proportional]
    omega
  · rw [toNat_joinLowerNibble, toNat_sharedByte _ _ effort, toNat_lowByte]
    omega
  · rw [toNat_joinLowerNibble, toNat_sharedByte _ _ proportional, toNat_lowByte]
    omega
  · rw [toNat_joinUpperNibble, toNat_upperEight _ derivative, toNat_sharedByte _ _ effort]
    omega

section Command

variable {K : Type} [Scalar K]

/-- Inversion, clamping and quantisation of one field of a command. -/
def fieldInt (config : JointConfig K) (cmd : JointCmd K) (field : CommandField) : Nat :=
  let pDesF := if config.invert then -cmd.pos else cmd.pos
  let vDesF := if config.invert then -cmd.vel else cmd.vel
  let tFfF := if config.invert then -cmd.torque else cmd.torque
  let quantize (value lower upper : K) (bits : Nat) : Nat :=
    floatToUint (Scalar.clamp lower upper value) lower upper bits
  match field with
  | .position => quantize pDesF config.pMin config.pMax 16
  | .velocity => quantize vDesF config.vMin config.vMax 12
  | .kp => quantize cmd.kp config.kpMin config.kpMax 12
  | .kd => quantize cmd.kd config.kdMin config.kdMax 12
  | .effort => quantize tFfF config.iMin config.iMax 12

/-- The integers are narrowed to sixteen bits. -/
def commandFields (config : JointConfig K) (cmd : JointCmd K) : CommandFields :=
  let uint16 (field : CommandField) : BitVec 16 := BitVec.ofNat 16 (fieldInt config cmd field)
  { pDes := uint16 .position, vDes := uint16 .velocity, tFf := uint16 .effort
    kp := uint16 .kp, kd := uint16 .kd }

def commandPayload (config : JointConfig K) (cmd : JointCmd K) : Payload :=
  match config.seriesType with
  | .v2 => (commandFields config cmd).packV2
  | .v3 => (commandFields config cmd).packV3

def commandCanId (config : JointConfig K) : BitVec 32 :=
  match config.seriesType with
  | .v2 => config.canId
  | .v3 => ((config.canId ||| (CanPacketId.setMit <<< 8)) &&& canEffMask) ||| canEffFlag

end Command

def lower (config : JointConfig ℚ) : CommandField → ℚ
  | .position => config.pMin
  | .velocity => config.vMin
  | .kp => config.kpMin
  | .kd => config.kdMin
  | .effort => config.iMin

def upper (config : JointConfig ℚ) : CommandField → ℚ
  | .position => config.pMax
  | .velocity => config.vMax
  | .kp => config.kpMax
  | .kd => config.kdMax
  | .effort => config.iMax

theorem ak80_ranged (field : CommandField) : lower (ak80 1) field < upper (ak80 1) field := by
  cases field <;> norm_num [lower, upper, ak80]

def limited (config : JointConfig ℚ) (field : CommandField) (value : ℚ) : ℚ :=
  min (max (lower config field) value) (upper config field)

theorem limited_mem {config : JointConfig ℚ} {field : CommandField}
    (range : lower config field < upper config field) (value : ℚ) :
    lower config field ≤ limited config field value ∧
      limited config field value ≤ upper config field :=
  ⟨le_min (le_max_left _ _) range.le, min_le_right _ _⟩

/-- The sign change of an inverted joint. -/
def directed (config : JointConfig ℚ) (value : ℚ) : ℚ := if config.invert then -value else value

/-- The value of a command that a field carries, in the motor's direction. -/
def wanted (config : JointConfig ℚ) (cmd : JointCmd ℚ) : CommandField → ℚ
  | .position => directed config cmd.pos
  | .velocity => directed config cmd.vel
  | .kp => cmd.kp
  | .kd => cmd.kd
  | .effort => directed config cmd.torque

section Ranged

open Foundation.Quantizer

variable {config : JointConfig ℚ} {cmd : JointCmd ℚ}

theorem fieldInt_eq_level (ranged : ∀ field, lower config field < upper config field)
    (field : CommandField) : fieldInt config cmd field =
      level (2 ^ field.bits - 1) (lower config field) (upper config field)
        (limited config field (wanted config cmd field)) := by
  have range := ranged field
  have within := limited_mem range (wanted config cmd field)
  cases field <;>
    · simp only [lower, upper, limited, wanted, directed, fieldInt, Scalar.clamp_rat,
        CommandField.bits] at range within ⊢
      exact floatToUint_rat range within.1 within.2

theorem fieldInt_lt (ranged : ∀ field, lower config field < upper config field)
    (field : CommandField) : fieldInt config cmd field < 2 ^ field.bits := by
  have below : fieldInt config cmd field ≤ 2 ^ field.bits - 1 := by
    rw [fieldInt_eq_level ranged]
    exact level_le (ranged field) (limited_mem (ranged field) (wanted config cmd field)).2
  have positive := Nat.two_pow_pos field.bits
  omega

/-- The integers of a command survive the narrowing. -/
theorem commandFields_get (ranged : ∀ field, lower config field < upper config field)
    (field : CommandField) :
    ((commandFields config cmd).get field).toNat = fieldInt config cmd field := by
  have fits : fieldInt config cmd field < 2 ^ field.bits := fieldInt_lt ranged field
  have narrow : fieldInt config cmd field < 2 ^ 16 :=
    fits.trans_le (Nat.pow_le_pow_right two_pos (by cases field <;> decide))
  cases field <;> exact Nat.mod_eq_of_lt narrow

theorem commandFields_fits (ranged : ∀ field, lower config field < upper config field) :
    (commandFields config cmd).Fits := fun field => by
  rw [commandFields_get ranged]
  exact fieldInt_lt ranged field

/-- Decoding a field gives the limited value to within one step. -/
theorem abs_decoded_sub_lt (ranged : ∀ field, lower config field < upper config field)
    (field : CommandField) :
    |uintToFloat ((commandFields config cmd).get field).toNat (lower config field)
        (upper config field) field.bits - limited config field (wanted config cmd field)| <
      stepSize (2 ^ field.bits - 1) (lower config field) (upper config field) := by
  rw [commandFields_get ranged, fieldInt_eq_level ranged, uintToFloat_rat]
  exact abs_levelValue_level_sub_lt (ranged field) (limited_mem (ranged field) _).1
    (by cases field <;> decide)

end Ranged

def mPi : ℚ := 3.14159265358979323846

/-- The raw integers of a V2 reply. -/
structure ReplyFields where
  pInt : BitVec 16
  vInt : BitVec 16
  iInt : BitVec 16
deriving DecidableEq, Repr

def unpackV2 (data : Payload) : ReplyFields where
  pInt := (data[1].setWidth 16 <<< 8) ||| data[2].setWidth 16
  vInt := (data[3].setWidth 16 <<< 4) ||| (data[4] >>> 4).setWidth 16
  iInt := ((data[4] &&& 0xF#8).setWidth 16 <<< 8) ||| data[5].setWidth 16

section Reply

variable {K : Type} [Scalar K]

/-- What a reply says about a joint, before inversion. -/
structure Measurement (K : Type) where
  pos : K
  vel : K
  torque : K
  temp : K
  deviceStatus : ErrorCode
deriving DecidableEq

def decodeV3 (config : JointConfig K) (data : Payload) : Measurement K :=
  let signed (high low : BitVec 8) : ℚ :=
    (((high.setWidth 16 <<< 8) ||| low.setWidth 16).toInt : ℚ)
  let pInt := signed data[0] data[1]
  let vInt := signed data[2] data[3]
  let iInt := signed data[4] data[5]
  { pos := Scalar.ofRat pInt * Scalar.ofRat 0.1 * (Scalar.ofRat mPi / Scalar.ofRat 180)
    vel := Scalar.ofRat vInt * Scalar.ofRat 10 * (Scalar.ofRat 2 * Scalar.ofRat mPi /
      (Scalar.ofRat (config.numerOfPolePairs.toNat * config.gearRatio.toNat : Nat) *
        Scalar.ofRat 60))
    torque := Scalar.ofRat iInt * Scalar.ofRat 0.01 * config.torqueConstant
    temp := Scalar.ofRat data[6].toInt
    deviceStatus := ErrorCode.ofByte data.errorByte }

def decodeV2 (config : JointConfig K) (data : Payload) : Measurement K :=
  let fields := unpackV2 data
  { pos := uintToFloat fields.pInt.toNat config.pMin config.pMax 16
    vel := uintToFloat fields.vInt.toNat config.vMin config.vMax 12
    torque := uintToFloat fields.iInt.toNat config.iMin config.iMax 12
    temp := Scalar.ofRat (data[6].toNat - 40 : Int)
    deviceStatus := ErrorCode.ofByte data.errorByte }

/-- The sign change of an inverted joint. -/
def Measurement.inverted (measurement : Measurement K) (invert : Bool) : Measurement K :=
  if invert then
    { measurement with
      pos := -measurement.pos, vel := -measurement.vel, torque := -measurement.torque }
  else measurement

/-- A reply's measurement in the joint's direction of rotation.  V3 motors reply
with extended CAN ids, V2 motors with standard ones. -/
def decodeReply (config : JointConfig K) (frame : CanFrame) : Measurement K :=
  (if frame.canId &&& canEffFlag ≠ 0 then decodeV3 config frame.data
    else decodeV2 config frame.data).inverted config.invert

/-- The index of the joint a non-error frame resolves to. -/
def resolve (configs : List (JointConfig K)) (frame : CanFrame) : Option Nat :=
  if frame.canId &&& canEffFlag ≠ 0 then
    if (frame.canId &&& canEffMask) >>> 8 ≠ CanPacketId.response then none
    else configs.findIdx? fun config => config.canId == frame.canId &&& 0xFF
  else configs.findIdx? fun config => config.canId == frame.data.motorId.setWidth 32

omit [Scalar K] in
theorem resolve_lt {configs : List (JointConfig K)} {frame : CanFrame} {joint : Nat}
    (resolved : resolve configs frame = some joint) : joint < configs.length := by
  unfold resolve at resolved
  split at resolved
  · split at resolved
    · contradiction
    · exact (List.findIdx?_eq_some_iff_findIdx_eq.mp resolved).1
  · exact (List.findIdx?_eq_some_iff_findIdx_eq.mp resolved).1

end Reply

end CubemarsDriver.Can

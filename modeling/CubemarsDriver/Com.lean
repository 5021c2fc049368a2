import CubemarsDriver.Scalar

namespace CubemarsDriver

inductive JointMode where
  | undefined
  | position
  | velocity
  | effort
  | error
deriving DecidableEq, Repr

/-- `ErrorCode`; the wire carries a whole byte, and values past `MOTOR_STALL`
are kept as they came. -/
inductive ErrorCode where
  | noFault
  | motorOverTemp
  | overCurrent
  | overVoltage
  | underVoltage
  | encoderFault
  | mosfetOverTemp
  | motorStall
  | other (raw : BitVec 8)
deriving DecidableEq, Repr

/-- `static_cast<ErrorCode>` of a data byte. -/
def ErrorCode.ofByte (byte : BitVec 8) : ErrorCode :=
  match byte.toNat with
  | 0 => .noFault
  | 1 => .motorOverTemp
  | 2 => .overCurrent
  | 3 => .overVoltage
  | 4 => .underVoltage
  | 5 => .encoderFault
  | 6 => .mosfetOverTemp
  | 7 => .motorStall
  | _ => .other byte

inductive ComStatus where
  | success
  | canWriteFailed
  | canReadFailed
  | canNoResponse
  | canWriteFailedButResponseReceived
deriving DecidableEq, Repr

inductive SeriesType where
  | v2
  | v3
deriving DecidableEq, Repr

namespace CanPacketId

def setCurrent : BitVec 32 := 1
def setOriginHere : BitVec 32 := 5
def setMit : BitVec 32 := 8
def response : BitVec 32 := 0x29

end CanPacketId

structure JointConfig (K : Type) where
  canId : BitVec 32
  name : String := ""
  pMin : K
  pMax : K
  vMin : K
  vMax : K
  iMin : K
  iMax : K
  kpMin : K
  kpMax : K
  kdMin : K
  kdMax : K
  invert : Bool := false
  replyOnOwnId : Bool := false
  seriesType : SeriesType := .v2
  numerOfPolePairs : BitVec 8 := 21
  gearRatio : BitVec 8 := 9
  torqueConstant : K
  currentMesurementHasSign : Bool := true
deriving DecidableEq

structure JointCmd (K : Type) where
  pos : K
  vel : K
  torque : K
  kp : K
  kd : K
deriving DecidableEq

structure JointState (K : Type) where
  pos : K
  vel : K
  torque : K
  temp : K
  deviceStatus : ErrorCode
  communicationStatus : ComStatus
  comErrno : Int
  rxTimestampNs : Int
  sendTimestampNs : Int
  dequeueTimestampNs : Int
  enqueueTimestampNs : Int
  rxHwTimestampNs : Int
deriving DecidableEq

/-- `joint_config_per_motor_type`. -/
def jointConfigPerMotorType {K : Type} [Scalar K] : List (String × JointConfig K) :=
  let v2 (position velocity current : ℚ) (invert replyOnOwnId : Bool) : JointConfig K :=
    { canId := 0, pMin := Scalar.ofRat (-position), pMax := Scalar.ofRat position,
      vMin := Scalar.ofRat (-velocity), vMax := Scalar.ofRat velocity,
      iMin := Scalar.ofRat (-current), iMax := Scalar.ofRat current,
      kpMin := Scalar.zero, kpMax := Scalar.ofRat 500,
      kdMin := Scalar.zero, kdMax := Scalar.ofRat 5,
      invert, replyOnOwnId, torqueConstant := Scalar.one }
  let v3 (position velocity current : ℚ) (gearRatio : BitVec 8) (torqueConstant : ℚ)
      (currentMesurementHasSign : Bool) : JointConfig K :=
    { v2 position velocity current false false with
      seriesType := .v3, gearRatio, torqueConstant := Scalar.ofRat torqueConstant,
      currentMesurementHasSign }
  [("AK10-9", v2 12.5 50 65 false true),
    ("AK10-9_plastic_screw", v2 12.5 50 65 false false),
    ("AK80-6", v2 12.5 76 12 false true),
    ("AK80-6_V1p1", v2 12.5 22.5 12 true true),
    ("AK10-9v3", v3 12.56 28 54 9 1.1314 false),
    ("AK80-8v3", v3 12.5 37.5 32 8 1.0566 true)]

/-- An AK80-6 joint. -/
def ak80 (canId : BitVec 32) : JointConfig ℚ where
  canId
  pMin := -25 / 2
  pMax := 25 / 2
  vMin := -76
  vMax := 76
  iMin := -12
  iMax := 12
  kpMin := 0
  kpMax := 500
  kdMin := 0
  kdMax := 5
  replyOnOwnId := true
  torqueConstant := 1

/-- The exceptions the driver raises or lets through; all of them are caught as
`std::exception`. -/
inductive Exception where
  | outOfRange
  | rangeError
  | canInterfaceError
  | canDeviceError (canId : BitVec 32)
  | motorError (canId : BitVec 32) (errorCode : ErrorCode)
  | parameterUninitialized (name : String)
  | parameterType (name : String)
  | invalidArgument
deriving DecidableEq, Repr

end CubemarsDriver

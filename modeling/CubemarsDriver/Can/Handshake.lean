import CubemarsDriver.Can.Device
import CubemarsDriver.Foundation.Path

namespace CubemarsDriver.Can

open Foundation

/-! # Starting and ending motor control

A control frame is written and one frame is read back.  The read of a handshake
skips no error frames. -/

abbrev CanPath (K : Type) := Path (CubemarsCan K) Exception

variable {K : Type}

def startMotorControlModeSequence : Payload := #v[0xFF, 0xFF, 0xFF, 0xFF, 0xFF, 0xFF, 0xFF, 0xFC]
def exitMotorControlModeSequence : Payload := #v[0xFF, 0xFF, 0xFF, 0xFF, 0xFF, 0xFF, 0xFF, 0xFD]
def setZeroPositionSequence : Payload := #v[0xFF, 0xFF, 0xFF, 0xFF, 0xFF, 0xFF, 0xFF, 0xFE]

/-- The data of a reply: the motor's id, five bytes of state, the temperature and no fault. -/
def replyOfMotor (motorId : BitVec 8) : Payload := #v[motorId, 0, 0, 0, 0, 0, 0, 0]

def writeSendFrame : CanPath K WriteResult where
  run can :=
    let (result, socket) := can.socket.write can.sendFrame
    (.returned result, { can with socket })

def readFrame : CanPath K ReadResult where
  run can :=
    let (result, socket) := can.socket.read
    (.returned result, { can with socket })

def setReceiveTimeout (sec usec : Int) : CanPath K Bool where
  run can :=
    let (ok, socket) := can.socket.setReceiveTimeout sec usec
    (.returned ok, { can with socket })

/-- The copy of a control sequence into the first data bytes. -/
def copySequence (sequence : List (BitVec 8)) (data : Payload) : Payload :=
  Vector.ofFn fun byte => sequence[byte.val]?.getD data[byte]

def sendControlFrameV2 (canId : BitVec 32) (controlSequence : Payload) : CanPath K Unit := do
  Path.update fun can => { can with sendFrame :=
    { can.sendFrame with canId, data := copySequence controlSequence.toList can.sendFrame.data } }
  match ← writeSendFrame with
  | .failed _ => Path.throw (.canDeviceError canId)
  | .written _ =>
      match ← readFrame with
      | .failed _ => Path.throw (.canDeviceError canId)
      | .frame reply =>
          if reply.frame.data.motorId.setWidth 32 ≠ canId then Path.throw (.canDeviceError canId)
          else
            let errCode := ErrorCode.ofByte reply.frame.data.errorByte
            if errCode ≠ .noFault then Path.throw (.motorError canId errCode)

def sendControlFrameV3 (canId modeId : BitVec 32) (controlSequence : List (BitVec 8)) :
    CanPath K Unit := do
  Path.update fun can => { can with sendFrame :=
    { canId := ((canId ||| (modeId <<< 8)) &&& canEffMask) ||| canEffFlag
      len := controlSequence.length
      data := copySequence controlSequence can.sendFrame.data } }
  let result ← writeSendFrame
  Path.update fun can => { can with sendFrame := { can.sendFrame with len := canMaxDlen } }
  match result with
  | .failed _ => Path.throw (.canDeviceError canId)
  | .written _ =>
      match ← readFrame with
      | .failed _ => Path.throw (.canDeviceError canId)
      | .frame reply =>
          if reply.frame.canId &&& 0xFF ≠ canId then Path.throw (.canDeviceError canId)
          else
            let errCode := ErrorCode.ofByte reply.frame.data.errorByte
            if errCode ≠ .noFault then Path.throw (.motorError canId errCode)

def sendZeroCurrent (canId : BitVec 32) : CanPath K Unit :=
  sendControlFrameV3 canId CanPacketId.setCurrent [0, 0, 0, 0]

/-- The attempts to get a V3 motor to respond.  Only device errors are retried. -/
def connect (canId : BitVec 32) : Nat → CanPath K Unit
  | 0 => Path.throw (.canDeviceError canId)
  | trials + 1 =>
      Path.tryCatch (sendZeroCurrent canId) fun
        | .canDeviceError _ => connect canId trials
        | other => Path.throw other

/-- The receive timeout is raised since setting the zero position takes a few seconds. -/
def setZeroPosition (config : JointConfig K) : CanPath K Unit := do
  let ok ← setReceiveTimeout 10 0
  Path.when (ok = false) (Path.throw .canInterfaceError)
  match config.seriesType with
  | .v2 => sendControlFrameV2 config.canId setZeroPositionSequence
  | .v3 => sendControlFrameV3 config.canId CanPacketId.setOriginHere [1]

def resetReceiveTimeout : CanPath K Unit := do
  let sec ← Path.read CubemarsCan.socketTimeoutSec
  let usec ← Path.read CubemarsCan.socketTimeoutUsec
  let ok ← setReceiveTimeout sec usec
  Path.when (ok = false) (Path.throw .canInterfaceError)

def startMotorControlMode (jointId : Nat) (setZeroPositionOnEnable : Bool) : CanPath K Unit := do
  match ← Path.read fun can : CubemarsCan K => can.jointConfigs[jointId]? with
  | none => Path.throw .rangeError
  | some config =>
      let maxInitialConnectionTrials ← Path.read CubemarsCan.maxInitialConnectionTrials
      Path.when (config.seriesType = .v3) (connect config.canId maxInitialConnectionTrials)
      Path.when setZeroPositionOnEnable (setZeroPosition config)
      match config.seriesType with
      | .v2 => sendControlFrameV2 config.canId startMotorControlModeSequence
      | .v3 => sendZeroCurrent config.canId
      Path.when setZeroPositionOnEnable resetReceiveTimeout

def endMotorControlMode (jointId : Nat) : CanPath K Unit := do
  match ← Path.read fun can : CubemarsCan K => can.jointConfigs[jointId]? with
  | none => Path.throw .rangeError
  | some config =>
      match config.seriesType with
      | .v2 => sendControlFrameV2 config.canId exitMotorControlModeSequence
      | .v3 => sendZeroCurrent config.canId

def startMotorControlModeAll (setZeroPositionOnEnable : Bool) : CanPath K Unit :=
  Path.loopBelow (fun can => can.jointConfigs.length) fun joint =>
    startMotorControlMode joint setZeroPositionOnEnable

def endMotorControlModeAll : CanPath K Unit :=
  Path.loopBelow (fun can => can.jointConfigs.length) endMotorControlMode

section Keeps

variable {configs : List (JointConfig K)}

/-- A path is defined and, however it ends, leaves the joints as they are. -/
def KeepsJoints (path : CanPath K α) : Prop :=
  ∀ configs, Path.Keeps (fun can : CubemarsCan K => can.jointConfigs = configs) path

theorem writeSendFrame_keeps : KeepsJoints (writeSendFrame : CanPath K WriteResult) :=
  fun _ _ same => same

theorem readFrame_keeps : KeepsJoints (readFrame : CanPath K ReadResult) :=
  fun _ _ same => same

theorem setReceiveTimeout_keeps (sec usec : Int) :
    KeepsJoints (setReceiveTimeout sec usec : CanPath K Bool) := fun _ _ same => same

theorem sendControlFrameV2_keeps (canId : BitVec 32) (controlSequence : Payload) :
    KeepsJoints (sendControlFrameV2 canId controlSequence : CanPath K Unit) := by
  intro configs
  refine Path.Keeps.bind (Path.Keeps.update fun _ same => same) fun _ => ?_
  refine Path.Keeps.bind (writeSendFrame_keeps configs) fun result => ?_
  cases result with
  | failed errno => exact Path.Keeps.throw _
  | written enqueueNs =>
      refine Path.Keeps.bind (readFrame_keeps configs) fun result => ?_
      cases result with
      | failed errno => exact Path.Keeps.throw _
      | frame reply =>
          refine Path.Keeps.ite (fun _ => Path.Keeps.throw _) fun _ => ?_
          exact Path.Keeps.ite (fun _ => Path.Keeps.throw _) fun _ => Path.Keeps.pure _

theorem sendControlFrameV3_keeps (canId modeId : BitVec 32) (controlSequence : List (BitVec 8)) :
    KeepsJoints (sendControlFrameV3 canId modeId controlSequence : CanPath K Unit) := by
  intro configs
  refine Path.Keeps.bind (Path.Keeps.update fun _ same => same) fun _ => ?_
  refine Path.Keeps.bind (writeSendFrame_keeps configs) fun result => ?_
  refine Path.Keeps.bind (Path.Keeps.update fun _ same => same) fun _ => ?_
  cases result with
  | failed errno => exact Path.Keeps.throw _
  | written enqueueNs =>
      refine Path.Keeps.bind (readFrame_keeps configs) fun result => ?_
      cases result with
      | failed errno => exact Path.Keeps.throw _
      | frame reply =>
          refine Path.Keeps.ite (fun _ => Path.Keeps.throw _) fun _ => ?_
          exact Path.Keeps.ite (fun _ => Path.Keeps.throw _) fun _ => Path.Keeps.pure _

theorem connect_keeps (canId : BitVec 32) (trials : Nat) :
    KeepsJoints (connect canId trials : CanPath K Unit) := by
  induction trials with
  | zero => exact fun _ => Path.Keeps.throw _
  | succ trials ih =>
      intro configs
      refine Path.Keeps.tryCatch (sendControlFrameV3_keeps _ _ _ configs) fun exception => ?_
      cases exception with
      | canDeviceError failedId => exact ih configs
      | _ => exact Path.Keeps.throw _

theorem setZeroPosition_keeps (config : JointConfig K) : KeepsJoints (setZeroPosition config) := by
  intro configs
  refine Path.Keeps.bind (setReceiveTimeout_keeps _ _ configs) fun ok => ?_
  refine Path.Keeps.bind (Path.Keeps.when fun _ => Path.Keeps.throw _) fun _ => ?_
  cases config.seriesType with
  | v2 => exact sendControlFrameV2_keeps _ _ configs
  | v3 => exact sendControlFrameV3_keeps _ _ _ configs

theorem resetReceiveTimeout_keeps : KeepsJoints (resetReceiveTimeout : CanPath K Unit) := by
  intro configs
  refine Path.Keeps.bind (Path.Keeps.read _) fun sec => ?_
  refine Path.Keeps.bind (Path.Keeps.read _) fun usec => ?_
  refine Path.Keeps.bind (setReceiveTimeout_keeps _ _ configs) fun ok => ?_
  exact Path.Keeps.when fun _ => Path.Keeps.throw _

theorem endMotorControlMode_keeps (jointId : Nat) :
    KeepsJoints (endMotorControlMode jointId : CanPath K Unit) := by
  intro configs
  refine Path.Keeps.bind (Path.Keeps.read _) fun found => ?_
  cases found with
  | none => exact Path.Keeps.throw _
  | some config =>
      simp only
      cases config.seriesType with
      | v2 => exact sendControlFrameV2_keeps _ _ configs
      | v3 => exact sendControlFrameV3_keeps _ _ _ configs

theorem startMotorControlMode_keeps (jointId : Nat) (setZeroPositionOnEnable : Bool) :
    KeepsJoints (startMotorControlMode jointId setZeroPositionOnEnable : CanPath K Unit) := by
  intro configs
  refine Path.Keeps.bind (Path.Keeps.read _) fun found => ?_
  cases found with
  | none => exact Path.Keeps.throw _
  | some config =>
      refine Path.Keeps.bind (Path.Keeps.read _) fun trials => ?_
      refine Path.Keeps.bind (Path.Keeps.when fun _ => connect_keeps _ _ configs) fun _ => ?_
      refine Path.Keeps.bind (Path.Keeps.when fun _ => setZeroPosition_keeps _ configs) fun _ => ?_
      have reset : Path.Keeps (fun can : CubemarsCan K => can.jointConfigs = configs)
          (Path.when (setZeroPositionOnEnable = true) resetReceiveTimeout) :=
        Path.Keeps.when fun _ => resetReceiveTimeout_keeps configs
      cases config.seriesType with
      | v2 => exact Path.Keeps.bind (sendControlFrameV2_keeps _ _ configs) fun _ => reset
      | v3 => exact Path.Keeps.bind (sendControlFrameV3_keeps _ _ _ configs) fun _ => reset

theorem endMotorControlModeAll_keeps :
    KeepsJoints (endMotorControlModeAll : CanPath K Unit) := fun configs =>
  Path.Keeps.loopBelow fun joint =>
    (endMotorControlMode_keeps joint configs).strengthen_pre fun _ holds => holds.1

end Keeps

end CubemarsDriver.Can

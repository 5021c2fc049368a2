import CubemarsDriver.Can.Handshake
import CubemarsDriver.Plugin.ModeSwitch
import CubemarsDriver.Plugin.PackCmd
import Mathlib.Data.List.Sort

namespace CubemarsDriver.Plugin

open Can

/-! # The plugin on the bus

The plugin talks to its motors over one socket: control frames when it is activated and
deactivated, and in each cycle a command to every joint and then as many reads. -/

/-- What `::read` gives; a read of no bytes leaves the frame all zero. -/
inductive ReadResult where
  | failed
  | nothing
  | frame (frame : CanFrame)
deriving DecidableEq, Repr

inductive SocketEvent where
  | wrote (frame : CanFrame) (accepted : Bool)
  | read (result : ReadResult)
deriving DecidableEq, Repr

/-- What the coming system calls return; past the end they fail.  The log has the calls
so far, oldest first. -/
structure CanSocket where
  writes : List Bool := []
  reads : List ReadResult := []
  log : List SocketEvent := []
deriving DecidableEq, Repr

inductive CallbackReturn where
  | success
  | error
deriving DecidableEq, Repr

/-- The plugin once `on_configure` has set up the socket. -/
structure ConnectedInterface (K : Type) (count : Nat) extends CubemarsHardwareInterface K count where
  hwJointConfigs : Vector (JointConfig K) count
  setZeroPosOnStartup : Bool := false
  hwCommandsKp : Vector K count
  hwCommandsKd : Vector K count
  hwStatesVelocity : Vector K count
  hwStatesEffort : Vector K count
  hwStatesTemperature : Vector K count
  canSocket : CanSocket := {}

/-- The entries of the `hw_states_` vectors that belong to one joint. -/
structure JointStates (K : Type) where
  position : K
  velocity : K
  effort : K
  temperature : K
deriving DecidableEq

variable {K : Type} {count : Nat}

/-- The only frames that the socket lets through are those of the configured joints: the
filter compares the low eleven bits of the identifiers. -/
def rfilter (configs : Vector (JointConfig K) count) : List CanFilter :=
  configs.toList.map fun config => { canId := config.canId, canMask := canSffMask }

/-- The joints in descending order of their identifiers. -/
def sortedIdx (configs : Vector (JointConfig K) count) : List (Fin count) :=
  (List.finRange count).insertionSort fun first second =>
    (configs.get second).canId ≤ (configs.get first).canId

def findCanId (configs : Vector (JointConfig K) count) (canId : BitVec 32) : Option (Fin count) :=
  (List.finRange count).find? fun joint => (configs.get joint).canId = canId

def writeToCan (frame : CanFrame) (plugin : ConnectedInterface K count) :
    ReturnType × ConnectedInterface K count :=
  let accepted := plugin.canSocket.writes.head?.getD false
  let canSocket := { plugin.canSocket with
    writes := plugin.canSocket.writes.tail
    log := plugin.canSocket.log ++ [.wrote frame accepted] }
  (if accepted then .ok else .error, { plugin with canSocket })

def readFromCan (plugin : ConnectedInterface K count) : ReadResult × ConnectedInterface K count :=
  let result := plugin.canSocket.reads.head?.getD .failed
  let canSocket := { plugin.canSocket with
    reads := plugin.canSocket.reads.tail
    log := plugin.canSocket.log ++ [.read result] }
  (result, { plugin with canSocket })

namespace ConnectedInterface

def states (plugin : ConnectedInterface K count) (joint : Fin count) : JointStates K where
  position := plugin.hwStatesPosition.get joint
  velocity := plugin.hwStatesVelocity.get joint
  effort := plugin.hwStatesEffort.get joint
  temperature := plugin.hwStatesTemperature.get joint

def setStates (plugin : ConnectedInterface K count) (joint : Fin count) (states : JointStates K) :
    ConnectedInterface K count :=
  { plugin with
    hwStatesPosition := plugin.hwStatesPosition.set joint states.position joint.isLt
    hwStatesVelocity := plugin.hwStatesVelocity.set joint states.velocity joint.isLt
    hwStatesEffort := plugin.hwStatesEffort.set joint states.effort joint.isLt
    hwStatesTemperature := plugin.hwStatesTemperature.set joint states.temperature joint.isLt }

end ConnectedInterface

section Reply

variable [Scalar K]

/-- What a reply says about its joint. -/
def replyStates (config : JointConfig K) (data : Payload) : JointStates K :=
  let fields := unpackV2 data
  let invert (value : K) : K := if config.invert then -value else value
  { position := invert (uintToFloat fields.pInt.toNat config.pMin config.pMax 16)
    velocity := invert (uintToFloat fields.vInt.toNat config.vMin config.vMax 12)
    effort := invert (uintToFloat fields.iInt.toNat config.iMin config.iMax 12)
    temperature := Scalar.ofRat ((data.temperatureByte.toNat : ℚ) - 40) }

/-- A frame of an unknown sender reports no fault. -/
def unpackReply (frame : CanFrame) (plugin : ConnectedInterface K count) :
    ErrorCode × ConnectedInterface K count :=
  match findCanId plugin.hwJointConfigs frame.canId with
  | none => (.noFault, plugin)
  | some joint =>
      (ErrorCode.ofByte frame.data.errorByte,
        plugin.setStates joint (replyStates (plugin.hwJointConfigs.get joint) frame.data))

def sendControlFrame (canId : BitVec 32) (controlSequence : Payload)
    (plugin : ConnectedInterface K count) : ReturnType × ConnectedInterface K count :=
  match writeToCan { canId, len := 8, data := controlSequence } plugin with
  | (.error, plugin) => (.error, plugin)
  | (.ok, plugin) =>
      match readFromCan plugin with
      | (.failed, plugin) => (.error, plugin)
      | (.nothing, plugin) => (.error, plugin)
      | (.frame frame, plugin) =>
          if frame.canId ≠ canId then (.error, plugin)
          else
            let (errorCode, plugin) := unpackReply frame plugin
            (if errorCode = .noFault then .ok else .error, plugin)

def startMotorControlMode (canId : BitVec 32) :
    ConnectedInterface K count → ReturnType × ConnectedInterface K count :=
  sendControlFrame canId startMotorControlModeSequence

def exitMotorControlMode (canId : BitVec 32) :
    ConnectedInterface K count → ReturnType × ConnectedInterface K count :=
  sendControlFrame canId exitMotorControlModeSequence

def setZeroPosition (canId : BitVec 32) :
    ConnectedInterface K count → ReturnType × ConnectedInterface K count :=
  sendControlFrame canId setZeroPositionSequence

/-- The loop of `on_activate` over the joints. -/
def activateJoints : List (JointConfig K) → ConnectedInterface K count →
    CallbackReturn × ConnectedInterface K count
  | [], plugin => (.success, plugin)
  | joint :: rest, plugin =>
      match if plugin.setZeroPosOnStartup then setZeroPosition joint.canId plugin
        else (.ok, plugin) with
      | (.error, plugin) => (.error, plugin)
      | (.ok, plugin) =>
          match startMotorControlMode joint.canId plugin with
          | (.error, plugin) => (.error, plugin)
          | (.ok, plugin) => activateJoints rest plugin

def onActivate (plugin : ConnectedInterface K count) :
    CallbackReturn × ConnectedInterface K count :=
  activateJoints plugin.hwJointConfigs.toList plugin

def writeCommands : List (Fin count) → ConnectedInterface K count →
    ReturnType × ConnectedInterface K count
  | [], plugin => (.ok, plugin)
  | joint :: rest, plugin =>
      let cmd : JointCmd K :=
        { pos := plugin.hwCommandsPosition.get joint
          vel := plugin.hwCommandsVelocity.get joint
          torque := plugin.hwCommandsEffort.get joint
          kp := plugin.hwCommandsKp.get joint
          kd := plugin.hwCommandsKd.get joint }
      match writeToCan (packCmd cmd (plugin.hwJointConfigs.get joint)
        (plugin.hwControlLevel.get joint)) plugin with
      | (.error, plugin) => (.error, plugin)
      | (.ok, plugin) => writeCommands rest plugin

/-- One read for every joint, whichever joint the frames come from. -/
def readReplies : List (Fin count) → ConnectedInterface K count →
    ReturnType × ConnectedInterface K count
  | [], plugin => (.ok, plugin)
  | _ :: rest, plugin =>
      match readFromCan plugin with
      | (.failed, plugin) => (.error, plugin)
      | (.nothing, plugin) => (.error, plugin)
      | (.frame frame, plugin) =>
          if frame.canId = 0 then (.error, plugin)
          else
            match unpackReply frame plugin with
            | (.noFault, plugin) => readReplies rest plugin
            | (_, plugin) => (.error, plugin)

def write (plugin : ConnectedInterface K count) : ReturnType × ConnectedInterface K count :=
  match writeCommands (sortedIdx plugin.hwJointConfigs) plugin with
  | (.error, plugin) => (.error, plugin)
  | (.ok, plugin) => readReplies (sortedIdx plugin.hwJointConfigs) plugin

end Reply

end CubemarsDriver.Plugin

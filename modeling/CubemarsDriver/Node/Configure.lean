import CubemarsDriver.Foundation.Rows
import CubemarsDriver.Node.Lifecycle
import Mathlib.Data.List.Sort
import Mathlib.Data.String.Basic

namespace CubemarsDriver

open Foundation Can

/-! # `on_configure`

Parameters are read from an assignment: the value every parameter has been set to.
A parameter that has not been set has the default of its declaration, if there is
one.  It is declared once in the life of the node, which matters for `msg_idx`: its
default is the position of the joint in the configuration that declares it. -/

inductive ParameterType where
  | bool
  | integer
  | double
  | string
  | stringArray
deriving DecidableEq, Repr

inductive ParameterValue (K : Type) where
  | bool (value : Bool)
  | integer (value : Int)
  | double (value : K)
  | string (value : String)
  | stringArray (value : List String)
deriving DecidableEq

abbrev Assignment (K : Type) := String → Option (ParameterValue K)

abbrev Checked (α : Type) := Except Exception α

variable {K : Type}

def ParameterValue.type : ParameterValue K → ParameterType
  | .bool _ => .bool
  | .integer _ => .integer
  | .double _ => .double
  | .string _ => .string
  | .stringArray _ => .stringArray

namespace Assignment

/-- `declare_parameter` refuses a value of another type. -/
def declare (assignment : Assignment K) : List (String × ParameterType) → Checked Unit
  | [] => .ok ()
  | (name, type) :: rest =>
      match assignment name with
      | none => assignment.declare rest
      | some value =>
          if value.type = type then assignment.declare rest else .error (.parameterType name)

/-- `get_parameter(name)`, converted. -/
def get {α : Type} (assignment : Assignment K) (convert : ParameterValue K → Option α)
    (name : String) (default : Option α) : Checked α :=
  match assignment name with
  | some value =>
      match convert value with
      | some converted => .ok converted
      | none => .error (.parameterType name)
  | none =>
      match default with
      | some value => .ok value
      | none => .error (.parameterUninitialized name)

def getBool (assignment : Assignment K) (name : String) (default : Option Bool) : Checked Bool :=
  assignment.get (fun | .bool value => some value | _ => none) name default

def getInteger (assignment : Assignment K) (name : String) (default : Option Int) : Checked Int :=
  assignment.get (fun | .integer value => some value | _ => none) name default

def getDouble (assignment : Assignment K) (name : String) (default : Option K) : Checked K :=
  assignment.get (fun | .double value => some value | _ => none) name default

def getString (assignment : Assignment K) (name : String) (default : Option String) :
    Checked String :=
  assignment.get (fun | .string value => some value | _ => none) name default

def getStringArray (assignment : Assignment K) (name : String) : Checked (List String) :=
  assignment.get (fun | .stringArray value => some value | _ => none) name none

end Assignment

namespace Node

def globalParameters : List (String × ParameterType) :=
  [("joints", .stringArray), ("default_damping_KD", .double), ("enable_loopback", .bool),
    ("can_socket_timeout_usec", .integer), ("can_socket_timeout_sec", .integer),
    ("frequency", .integer), ("watchdog_frequency", .integer),
    ("friction_compensation_sign_steepness", .double), ("publish_ros2_joint_state", .bool),
    ("damping_on_motor_error", .bool), ("max_can_errors_before_motor_shutdown", .integer),
    ("can_initial_connection_trials", .integer), ("enable_tx_timestamping", .bool),
    ("enable_can_error_frames", .bool)]

def jointParameterName (joint field : String) : String := "joint_defintions." ++ joint ++ "." ++ field

def jointParameterTypes : List (String × ParameterType) :=
  [("msg_idx", .integer), ("can_interface", .string), ("can_id", .integer),
    ("motor_type", .string), ("invert", .bool), ("tau_c", .double), ("tau_s", .double),
    ("v_s", .double), ("k", .double), ("k_a", .double), ("b", .double),
    ("transmission_ratio", .double), ("set_zero_position_on_configure", .bool),
    ("zero_position", .double), ("pos_limit_min", .double), ("pos_limit_max", .double),
    ("vel_filter_size", .integer), ("vel_filter_type", .string), ("alpha", .double),
    ("beta", .double), ("pos_median_filter_size", .integer)]

def jointParameterNames (joint : String) : List (String × ParameterType) :=
  jointParameterTypes.map fun (field, type) => (jointParameterName joint field, type)

/-- `std::numeric_limits<double>::max()`. -/
def doubleMax : ℚ := (2 ^ 53 - 1) * 2 ^ 971

/-- The conversion of an `int64_t` to an `unsigned int`. -/
def toUnsigned (value : Int) : Nat := (BitVec.ofInt 32 value).toNat

/-- What the validation has seen: `can_interfaces_names_` in its order, and the
identifiers that are taken. -/
structure Seen where
  canInterfacesNames : List String := []
  canIdPerInterface : List (String × BitVec 32) := []
  msgIdxs : List (BitVec 32) := []
  maxMsgIdx : Nat := 0

/-- The insertion into a `std::set`. -/
def insertName (name : String) (names : List String) : List String :=
  if name ∈ names then names else names.orderedInsert (· ≤ ·) name

section Validation

variable [Scalar K]

/-- The default that has been declared for `msg_idx`, or else the one that is declared
when the name comes first. -/
def msgIdxDefaults (node : Node K) (jointNames : List String) (name : String) : Nat :=
  (node.declaredMsgIdxs.lookup name).getD (jointNames.idxOf name)

def msgIdxParameter (assignment : Assignment K) (defaults : String → Nat) (name : String) :
    Checked Int :=
  assignment.getInteger (jointParameterName name "msg_idx") (some (defaults name))

/-- `none` if the definition is rejected. -/
def validateJoint (assignment : Assignment K) (defaults : String → Nat) (name : String)
    (seen : Seen) : Checked (Option Seen) := do
  let canInterface ← assignment.getString (jointParameterName name "can_interface") none
  let msgIdx ← msgIdxParameter assignment defaults name
  if BitVec.ofInt 32 msgIdx ∈ seen.msgIdxs ∨ msgIdx < 0 then pure none
  else do
    let canId ← assignment.getInteger (jointParameterName name "can_id") none
    if (canInterface, BitVec.ofInt 32 canId) ∈ seen.canIdPerInterface then pure none
    else do
      let _ ← assignment.getString (jointParameterName name "motor_type") none
      let transmissionRatio ← assignment.getDouble
        (jointParameterName name "transmission_ratio") (some Scalar.one)
      if transmissionRatio ≤ Scalar.zero then pure none
      else pure (some {
        canInterfacesNames := insertName canInterface seen.canInterfacesNames
        canIdPerInterface := (canInterface, BitVec.ofInt 32 canId) :: seen.canIdPerInterface
        msgIdxs := BitVec.ofInt 32 msgIdx :: seen.msgIdxs
        maxMsgIdx := if seen.maxMsgIdx < msgIdx then toUnsigned msgIdx else seen.maxMsgIdx })

/-- Declare and validate the joints one by one. -/
def validateJoints (assignment : Assignment K) (defaults : String → Nat) :
    List String → Seen → Checked (Option Seen)
  | [], seen => pure (some seen)
  | name :: rest, seen => do
      assignment.declare (jointParameterNames name)
      match ← validateJoint assignment defaults name seen with
      | none => pure none
      | some seen => validateJoints assignment defaults rest seen

/-- The joints whose declaration the loop begins: it ends at the first that does not pass. -/
def reachedJoints (assignment : Assignment K) (defaults : String → Nat) :
    List String → Seen → List String
  | [], _ => []
  | name :: rest, seen =>
      name :: match (do
          assignment.declare (jointParameterNames name)
          validateJoint assignment defaults name seen : Checked (Option Seen)) with
        | .ok (some seen) => reachedJoints assignment defaults rest seen
        | _ => []

/-- Where `msg_idx` has been set, its default is not used. -/
def declareMsgIdxs (assignment : Assignment K) (jointNames : List String) (node : Node K) : Node K :=
  let defaults := node.msgIdxDefaults jointNames
  let unset (name : String) : Bool := (assignment (jointParameterName name "msg_idx")).isNone
  let declared := (reachedJoints assignment defaults jointNames {}).filter unset
  { node with
    declaredMsgIdxs := node.declaredMsgIdxs ++ declared.map fun name => (name, defaults name) }

/-- Everything one joint contributes to the tables. -/
structure JointSettings (K : Type) where
  canInterfaceId : Nat
  config : JointConfig K
  params : JointParameters K
  alpha : K
  beta : K

def velFilterType : String → Option VelFilterType
  | "none" => some .none
  | "moving_average" => some .movingAverage
  | "alpha_beta" => some .alphaBeta
  | _ => none

def readFriction (assignment : Assignment K) (name : String) : Checked (FrictionParameters K) := do
  let field (field : String) (default : K) : Checked K :=
    assignment.getDouble (jointParameterName name field) (some default)
  let tauC ← field "tau_c" Scalar.zero
  let tauS ← field "tau_s" Scalar.zero
  let vS ← field "v_s" Scalar.one
  let k ← field "k" Scalar.one
  let kA ← field "k_a" Scalar.one
  let b ← field "b" Scalar.zero
  pure { tauC, tauS, vS, k, kA, b }

/-- `joint_config_per_motor_type.at(motor_type)`. -/
def motorTypeConfig (motorType : String) : Checked (JointConfig K) :=
  match jointConfigPerMotorType.lookup motorType with
  | some config => .ok config
  | none => .error .outOfRange

/-- The parameters of one joint; `none` if a filter setting is rejected. -/
def readJoint (assignment : Assignment K) (defaults : String → Nat) (names : List String)
    (name : String) : Checked (Option (JointSettings K)) := do
  let motorType ← assignment.getString (jointParameterName name "motor_type") none
  let motorConfig ← motorTypeConfig motorType
  let canId ← assignment.getInteger (jointParameterName name "can_id") none
  let invert ← assignment.getBool (jointParameterName name "invert") (some false)
  let msgIdx ← msgIdxParameter assignment defaults name
  let canInterface ← assignment.getString (jointParameterName name "can_interface") none
  let velFilterSize ← assignment.getInteger (jointParameterName name "vel_filter_size") (some 0)
  let velFilterName ← assignment.getString
    (jointParameterName name "vel_filter_type") (some "moving_average")
  match velFilterType velFilterName with
  | none => pure none
  | some velFilterType => do
      let alpha ← assignment.getDouble (jointParameterName name "alpha") (some (Scalar.ofRat 0.85))
      let beta ← assignment.getDouble (jointParameterName name "beta") (some (Scalar.ofRat 0.005))
      let medianSizeRaw ← assignment.getInteger
        (jointParameterName name "pos_median_filter_size") (some 0)
      let medianSize := (BitVec.ofInt 32 medianSizeRaw).toInt
      if medianSize < 0 then pure none
      else do
        let posLimitMin ← assignment.getDouble
          (jointParameterName name "pos_limit_min") (some (Scalar.ofRat (-doubleMax)))
        let posLimitMax ← assignment.getDouble
          (jointParameterName name "pos_limit_max") (some (Scalar.ofRat doubleMax))
        let transmissionRatio ← assignment.getDouble
          (jointParameterName name "transmission_ratio") (some Scalar.one)
        let frictionParameters ← readFriction assignment name
        let zeroPosition ← assignment.getDouble
          (jointParameterName name "zero_position") (some Scalar.zero)
        let setZeroPositionOnStartup ← assignment.getBool
          (jointParameterName name "set_zero_position_on_configure") (some false)
        pure (some {
          canInterfaceId := names.idxOf canInterface
          config := { motorConfig with canId := BitVec.ofInt 32 canId, invert }
          params := {
            posLimitMin, posLimitMax, transmissionRatio, frictionParameters
            velFilterSize := toUnsigned velFilterSize
            velFilterType
            posMedianFilterSize := medianSize.toNat
            zeroPosition, setZeroPositionOnStartup
            msgIdx := toUnsigned msgIdx
            name }
          alpha, beta })

end Validation

section Tables

variable [Scalar K]

def initialJointCmd : JointCmd K where
  pos := Scalar.zero
  vel := Scalar.zero
  torque := Scalar.zero
  kp := Scalar.zero
  kd := Scalar.zero

def initialJointState : JointState K where
  pos := Scalar.zero
  vel := Scalar.zero
  torque := Scalar.zero
  temp := Scalar.zero
  deviceStatus := .noFault
  communicationStatus := .success
  comErrno := 0
  rxTimestampNs := 0
  sendTimestampNs := 0
  dequeueTimestampNs := 0
  enqueueTimestampNs := 0
  rxHwTimestampNs := 0

/-- The command of `on_configure`: no torque until the first real command arrives. -/
def zeroCommand (length : Nat) : JointCommand K where
  position := List.replicate length Scalar.zero
  velocity := List.replicate length Scalar.zero
  effort := List.replicate length Scalar.zero
  kp := List.replicate length Scalar.zero
  kd := List.replicate length Scalar.zero

def JointTables.resize (tables : JointTables K) (count : Nat) : JointTables K :=
  { tables with
    jointCommandsPerCanInterface := Foundation.resize tables.jointCommandsPerCanInterface count []
    jointStatesPerCanInterface := Foundation.resize tables.jointStatesPerCanInterface count []
    jointParametersPerCanInterface :=
      Foundation.resize tables.jointParametersPerCanInterface count []
    jointVelFiltersPerCanInterface :=
      Foundation.resize tables.jointVelFiltersPerCanInterface count []
    jointAbFiltersPerCanInterface := Foundation.resize tables.jointAbFiltersPerCanInterface count []
    jointPosMedianFiltersPerCanInterface :=
      Foundation.resize tables.jointPosMedianFiltersPerCanInterface count []
    lastJointRxNsPerCanInterface :=
      Foundation.resize tables.lastJointRxNsPerCanInterface count [] }

def InterfaceTables.resize (tables : InterfaceTables K) (count : Nat) (now : Int) :
    InterfaceTables K where
  numCanErrorsPerInterfaces := Foundation.resize tables.numCanErrorsPerInterfaces count 0
  lastCanCycleTimes := Foundation.resize tables.lastCanCycleTimes count now
  lastCycleEndNsPerCanInterface := Foundation.resize tables.lastCycleEndNsPerCanInterface count 0
  canInterfaceFrequencyMsg := Foundation.resize tables.canInterfaceFrequencyMsg count Scalar.zero
  canTxFillDurationMsg := Foundation.resize tables.canTxFillDurationMsg count none
  canRxDurationMsg := Foundation.resize tables.canRxDurationMsg count none
  canProcessingMsg := Foundation.resize tables.canProcessingMsg count none
  canIntercycleGapMsg := Foundation.resize tables.canIntercycleGapMsg count none

/-- `std::numeric_limits<int64_t>::max()`. -/
def int64Max : Int := 2 ^ 63 - 1

def JointMessages.resize (messages : JointMessages K) (length : Nat) : JointMessages K where
  position := Foundation.resize messages.position length Scalar.zero
  velocity := Foundation.resize messages.velocity length Scalar.zero
  effort := Foundation.resize messages.effort length Scalar.zero
  jointTempMsg := Foundation.resize messages.jointTempMsg length Scalar.zero
  jointStateAgeMsg := Foundation.resize messages.jointStateAgeMsg length none
  jointRxDeliveryMsg := Foundation.resize messages.jointRxDeliveryMsg length none
  jointRxHwTimestampMsg := Foundation.resize messages.jointRxHwTimestampMsg length none
  jointReplyAfterTxMsg := Foundation.resize messages.jointReplyAfterTxMsg length none
  jointCmdToBusLatencyMsg := Foundation.resize messages.jointCmdToBusLatencyMsg length none
  jointMotorReplyLatencyMsg := Foundation.resize messages.jointMotorReplyLatencyMsg length none
  jointEnqueueToWireMsg := Foundation.resize messages.jointEnqueueToWireMsg length none
  jointRxNs := List.replicate length 0
  jointRxDeliveryFloorNs := List.replicate length int64Max
  jointRxHwBaseNs := List.replicate length 0
  unfilteredVelocityMsg := Foundation.resize messages.unfilteredVelocityMsg length none
  unfilteredPositionMsg := Foundation.resize messages.unfilteredPositionMsg length none

/-- Everything `on_configure` resizes between the validation and the first joint. -/
def prepareTables (seen : Seen) (numJoints : Nat) (now : Int) (node : Node K) : Node K :=
  let numCanInterfaces := seen.canInterfacesNames.length
  let jointMsgLength := (seen.maxMsgIdx + 1) % 2 ^ 32
  { node with
    jointMsgLength, numJoints
    tables := JointTables.resize node.tables numCanInterfaces
    interfaces := InterfaceTables.resize node.interfaces numCanInterfaces now
    canInterfaces := Foundation.resize node.canInterfaces numCanInterfaces none
    commThreads := List.replicate numCanInterfaces {}
    jointCmdPtr := some (zeroCommand jointMsgLength)
    messages := JointMessages.resize node.messages jointMsgLength }

/-- `rows[index].push_back(value)`. -/
def pushAt {α : Type} (rows : List (List α)) (index : Nat) (value : α) : Option (List (List α)) := do
  storeAt rows index ((← rows[index]?) ++ [value])

/-- `map[key] = value`. -/
def assignKey {α : Type} (map : List (String × α)) (key : String) (value : α) : List (String × α) :=
  map.filter (fun entry => entry.1 ≠ key) ++ [(key, value)]

/-- Append one joint to the tables of its interface. -/
def appendJoint (settings : JointSettings K) (tables : JointTables K) : Option (JointTables K) := do
  let index := settings.canInterfaceId
  let params := settings.params
  let jointParametersPerCanInterface ← pushAt tables.jointParametersPerCanInterface index params
  let size := (jointParametersPerCanInterface[index]?.getD []).length
  some {
    jointCommandsPerCanInterface :=
      ← pushAt tables.jointCommandsPerCanInterface index initialJointCmd
    jointStatesPerCanInterface :=
      ← pushAt tables.jointStatesPerCanInterface index initialJointState
    jointParametersPerCanInterface
    jointVelFiltersPerCanInterface :=
      ← pushAt tables.jointVelFiltersPerCanInterface index (.create params.velFilterSize)
    jointAbFiltersPerCanInterface :=
      ← pushAt tables.jointAbFiltersPerCanInterface index (.create settings.alpha settings.beta)
    jointPosMedianFiltersPerCanInterface :=
      ← pushAt tables.jointPosMedianFiltersPerCanInterface index
        (.create params.posMedianFilterSize)
    lastJointRxNsPerCanInterface := ← pushAt tables.lastJointRxNsPerCanInterface index 0
    jointNameToCanIfaceAndIdx :=
      assignKey tables.jointNameToCanIfaceAndIdx params.name (index, size - 1) }

end Tables

section Callback

variable [Scalar K]

def checked {α : Type} (result : Checked α) : NodePath K α :=
  match result with
  | .ok value => pure value
  | .error exception => Path.throw exception

/-- `joint_configs_per_can_interface`. -/
abbrev JointConfigs (K : Type) := List (List (JointConfig K))

/-- Append the joints one by one; `none` where a filter setting is rejected. -/
def buildTables (assignment : Assignment K) (defaults : String → Nat) (names : List String) :
    List String → JointConfigs K → NodePath K (Option (JointConfigs K))
  | [], configs => pure (some configs)
  | name :: rest, configs => do
      match ← checked (readJoint assignment defaults names name) with
      | none => pure none
      | some settings => do
          let configs ← Path.element fun _ => pushAt configs settings.canInterfaceId settings.config
          Path.updateDefined fun node =>
            (appendJoint settings node.tables).map fun tables => { node with tables }
          buildTables assignment defaults names rest configs

/-- What the operating system and the bus answer to an attempt, by interface name. -/
structure Bus where
  setup : String → SetupStep → Bool
  socket : String → Socket

/-- Create the interfaces in the order of their names. -/
def createInterfaces (assignment : Assignment K) (bus : Bus) (configs : JointConfigs K) :
    List (String × Nat) → NodePath K Unit
  | [] => pure ()
  | (name, index) :: rest => do
      let jointConfigs ← Path.element fun _ => configs[index]?
      let enableLoopback ← checked (assignment.getBool "enable_loopback" (some true))
      let timeoutSec ← checked (assignment.getInteger "can_socket_timeout_sec" (some 0))
      let timeoutUsec ← checked (assignment.getInteger "can_socket_timeout_usec" (some 1000))
      let trials ← checked (assignment.getInteger "can_initial_connection_trials" (some 10))
      let enableTxTimestamping ← Path.read Node.enableTxTimestamping
      let enableCanErrorFrames ← Path.read Node.enableCanErrorFrames
      let can ← checked (CubemarsCan.create name enableLoopback jointConfigs timeoutSec timeoutUsec
        (toUnsigned trials) enableTxTimestamping enableCanErrorFrames (bus.setup name)
        (bus.socket name))
      Path.updateDefined fun node => (storeAt node.canInterfaces index (some can)).map
        fun canInterfaces => { node with canInterfaces }
      createInterfaces assignment bus configs rest

/-- Whether an iteration of a loop that goes on after failures failed. -/
def anyFailed {ι : Type} (body : ι → NodePath K Bool) : List ι → NodePath K Bool
  | [] => pure false
  | item :: rest => do
      let failed ← body item
      let others ← anyFailed body rest
      pure (failed || others)

/-- A log message names the motor by `joint_configs_per_can_interface[index][joint]`. -/
def nameConfig (configs : JointConfigs K) (index joint : Nat) : NodePath K Unit := do
  let _ ← canInterface index
  let _ ← Path.element fun _ => configs[index]?.bind fun row => row[joint]?

def enableMotor (configs : JointConfigs K) (index joint : Nat) : NodePath K Bool := do
  let params ← jointParameters index joint
  match ← Path.attempt (do
      handshake index (.start joint params.setZeroPositionOnStartup)
      nameConfig configs index joint) with
  | .ok () => pure false
  | .error _ => pure true

def enableInterface (configs : JointConfigs K) (index : Nat) : NodePath K Bool := do
  let joints ← jointCount index
  anyFailed (enableMotor configs index) (List.range joints)

/-- Enable all motors; `true` if one of them failed. -/
def enableMotors (configs : JointConfigs K) : NodePath K Bool := do
  let interfaces ← Path.read numInterfaces
  anyFailed (enableInterface configs) (List.range interfaces)

def disableAfterFailure (configs : JointConfigs K) (index : Nat) : NodePath K Unit := do
  let joints ← jointCount index
  Path.loopBelow (fun _ => joints) fun joint =>
    Path.tryCatch (handshake index (.exit joint)) fun _ => nameConfig configs index joint

/-- Create the publisher timer, and the subscription after it. -/
def startPublishing : NodePath K Unit := do
  let frequency ← Path.read Node.frequency
  createTimer frequency
  Path.update fun node => { node with publishTimer := true, jointCmdSub := true }

/-- The supervisor timer is created once and kept for the node's lifetime. -/
def startSupervisor : NodePath K Unit := do
  let supervisorTimer ← Path.read Node.supervisorTimer
  Path.when (supervisorTimer = false) do
    let watchdogFrequency ← Path.read Node.watchdogFrequency
    createTimer watchdogFrequency
    Path.update fun node => { node with supervisorTimer := true }

/-- Enable the motors and start the comm threads, or disable the motors again. -/
def startMotors (configs : JointConfigs K) : NodePath K CallbackReturn := do
  if ← enableMotors configs then do
    Path.loopBelow numInterfaces (disableAfterFailure configs)
    clearInterfaces
    pure .error
  else do
    Path.update fun node => { node with onSetParametersHandle := true }
    startSupervisor
    Path.loopBelow numInterfaces startCommThread
    pure .success

/-- The global settings, up to the joint names. -/
def readGlobals (assignment : Assignment K) : NodePath K (List String) := do
  let dampingOnMotorError ← checked (assignment.getBool "damping_on_motor_error" (some true))
  let maxCanErrors ←
    checked (assignment.getInteger "max_can_errors_before_motor_shutdown" (some 1))
  let enableTxTimestamping ← checked (assignment.getBool "enable_tx_timestamping" (some true))
  let enableCanErrorFrames ← checked (assignment.getBool "enable_can_error_frames" (some false))
  Path.update fun node => { node with
    dampingOnMotorError, maxCanErrorsBeforeMotorShutdown := toUnsigned maxCanErrors
    enableTxTimestamping, enableCanErrorFrames }
  let jointNames ← checked (assignment.getStringArray "joints")
  let defaultDampingKD ← checked (assignment.getDouble "default_damping_KD" none)
  let frequency ← checked (assignment.getInteger "frequency" (some 1000))
  let watchdogFrequency ← checked (assignment.getInteger "watchdog_frequency" (some 100))
  Path.update fun node => { node with defaultDampingKD, frequency, watchdogFrequency }
  pure jointNames

/-- The `try` block of `on_configure`. -/
def configureNode (assignment : Assignment K) (bus : Bus) (now : Int) :
    NodePath K CallbackReturn := do
  let jointNames ← readGlobals assignment
  let defaults ← Path.read fun node : Node K => node.msgIdxDefaults jointNames
  Path.update (declareMsgIdxs assignment jointNames)
  match ← checked (validateJoints assignment defaults jointNames {}) with
  | none => pure .failure
  | some seen => do
      Path.update (prepareTables seen jointNames.length now)
      let names := seen.canInterfacesNames
      match ← buildTables assignment defaults names jointNames
          (List.replicate names.length []) with
      | none => pure .failure
      | some configs => do
          createInterfaces assignment bus configs names.zipIdx
          startPublishing
          startMotors configs

def onConfigure (assignment : Assignment K) (bus : Bus) (now : Int) :
    NodePath K CallbackReturn := do
  checked (assignment.declare globalParameters)
  Path.tryCatch (configureNode assignment bus now) fun
    | .parameterUninitialized _ => pure .error
    | .canInterfaceError => do
        clearInterfaces
        pure .error
    | other => Path.throw other

def configure (assignment : Assignment K) (bus : Bus) (now : Int) : NodePath K Unit :=
  transition .unconfigured .inactive (onConfigure assignment bus now)

end Callback

end Node

end CubemarsDriver

import CubemarsDriver.Can.Exchange
import CubemarsDriver.Can.Handshake
import CubemarsDriver.Filters
import CubemarsDriver.Foundation.Mutex

namespace CubemarsDriver

open Foundation Can

/-! # The state of the hardware node

Publishers, services and the texts of log messages are left out, and so is the
optional second joint state message, a copy of the first.  The accesses that a
log message makes to name its joint are kept. -/

/-- The lifecycle states a callback can observe; `inTransition` stands for all
transition states. -/
inductive Lifecycle where
  | unconfigured
  | inactive
  | active
  | finalized
  | inTransition
deriving DecidableEq, Repr

inductive CallbackReturn where
  | success
  | failure
  | error
deriving DecidableEq, Repr

structure FrictionParameters (K : Type) where
  tauC : K
  tauS : K
  vS : K
  k : K
  kA : K
  b : K
deriving DecidableEq

inductive VelFilterType where
  | none
  | movingAverage
  | alphaBeta
deriving DecidableEq, Repr

structure JointParameters (K : Type) where
  posLimitMin : K
  posLimitMax : K
  transmissionRatio : K
  frictionParameters : FrictionParameters K
  velFilterSize : Nat
  velFilterType : VelFilterType
  posMedianFilterSize : Nat
  zeroPosition : K
  setZeroPositionOnStartup : Bool
  msgIdx : Nat
  name : String
deriving DecidableEq

structure JointCommand (K : Type) where
  position : List K
  velocity : List K
  effort : List K
  kp : List K
  kd : List K
  stampNs : Int := 0
deriving DecidableEq

/-- All arrays have the given length. -/
def JointCommand.Sized {K : Type} (command : JointCommand K) (length : Nat) : Prop :=
  command.position.length = length ∧ command.velocity.length = length ∧
    command.effort.length = length ∧ command.kp.length = length ∧ command.kd.length = length

instance {K : Type} (command : JointCommand K) (length : Nat) :
    Decidable (command.Sized length) := inferInstanceAs (Decidable (_ ∧ _))

/-- The tables with a row for every interface and an entry for every joint of it. -/
structure JointTables (K : Type) where
  jointCommandsPerCanInterface : List (List (JointCmd K)) := []
  jointStatesPerCanInterface : List (List (JointState K)) := []
  jointParametersPerCanInterface : List (List (JointParameters K)) := []
  jointVelFiltersPerCanInterface : List (List (MovingAverage K)) := []
  jointAbFiltersPerCanInterface : List (List (AlphaBetaFilter K)) := []
  jointPosMedianFiltersPerCanInterface : List (List (MedianFilter K)) := []
  lastJointRxNsPerCanInterface : List (List Int) := []
  jointNameToCanIfaceAndIdx : List (String × Nat × Nat) := []
deriving DecidableEq

/-- The tables and messages with an entry for every interface.  A message entry
that is not a number is `none`. -/
structure InterfaceTables (K : Type) where
  numCanErrorsPerInterfaces : List Nat := []
  lastCanCycleTimes : List Int := []
  lastCycleEndNsPerCanInterface : List Int := []
  canInterfaceFrequencyMsg : List K := []
  canTxFillDurationMsg : List (Option K) := []
  canRxDurationMsg : List (Option K) := []
  canProcessingMsg : List (Option K) := []
  canIntercycleGapMsg : List (Option K) := []
deriving DecidableEq

/-- The messages with an entry for every message index. -/
structure JointMessages (K : Type) where
  position : List K := []
  velocity : List K := []
  effort : List K := []
  jointTempMsg : List K := []
  jointStateAgeMsg : List (Option K) := []
  jointRxDeliveryMsg : List (Option K) := []
  jointRxHwTimestampMsg : List (Option K) := []
  jointReplyAfterTxMsg : List (Option K) := []
  jointCmdToBusLatencyMsg : List (Option K) := []
  jointMotorReplyLatencyMsg : List (Option K) := []
  jointEnqueueToWireMsg : List (Option K) := []
  jointRxNs : List Int := []
  jointRxDeliveryFloorNs : List Int := []
  jointRxHwBaseNs : List Int := []
  unfilteredVelocityMsg : List (Option K) := []
  unfilteredPositionMsg : List (Option K) := []
deriving DecidableEq

structure CommThread where
  running : Bool := false
  joinable : Bool := false
deriving DecidableEq, Repr

/-- A call into an interface that exchanges control frames with motors. -/
inductive HandshakeStep where
  | start (joint : Nat) (setZero : Bool)
  | exit (joint : Nat)
  | exitAll
deriving DecidableEq, Repr

/-- What a path does that other threads can observe, in order.  The source keeps
no such record. -/
inductive NodeEvent where
  | communicationLocked (mode : LockMode)
  | communicationUnlocked (mode : LockMode)
  | jointStateMsgLocked (mode : LockMode)
  | jointStateMsgUnlocked (mode : LockMode)
  | interfaceUsed (canInterface : Nat)
  | handshake (canInterface : Nat) (step : HandshakeStep) (attempts : List WriteAttempt)
      (raised : Option Exception)
  | interfacesCleared
  | threadSignalled (canInterface : Nat)
  | threadJoined (canInterface : Nat) (holdingMutex : Bool)
  | threadStarted (canInterface : Nat)
deriving DecidableEq, Repr

structure Response where
  success : Bool := false
  message : String := ""
deriving DecidableEq, Repr

structure Node (K : Type) where
  lifecycle : Lifecycle := .unconfigured
  dampingOnMotorError : Bool := false
  maxCanErrorsBeforeMotorShutdown : Nat := 0
  enableTxTimestamping : Bool := false
  enableCanErrorFrames : Bool := false
  defaultDampingKD : K
  /-- The period of the publisher timer is the inverse of this. -/
  frequency : Int := 0
  /-- The period of the other timers is the inverse of this. -/
  watchdogFrequency : Int := 0
  /-- The defaults of `msg_idx` that earlier configurations have declared. -/
  declaredMsgIdxs : List (String × Nat) := []
  msgReceived : Bool := false
  numJoints : Nat := 0
  jointMsgLength : Nat := 0
  jointCmdPtr : Option (JointCommand K) := none
  cmdRxNs : Int := 0
  tables : JointTables K := {}
  interfaces : InterfaceTables K := {}
  messages : JointMessages K := {}
  canInterfaces : List (Option (CubemarsCan K)) := []
  commThreads : List CommThread := []
  cleanupRequested : Bool := false
  watchdogTimer : Bool := false
  supervisorTimer : Bool := false
  publishTimer : Bool := false
  jointCmdSub : Bool := false
  onSetParametersHandle : Bool := false
  canCommunicationMutex : Mutex := .unlocked
  jointStateMsgMutex : Mutex := .unlocked
  response : Response := {}
  log : List NodeEvent := []

abbrev NodePath (K : Type) := Path (Node K) Exception

/-- The call a handshake step makes. -/
def HandshakeStep.path {K : Type} : HandshakeStep → CanPath K Unit
  | .start joint setZero => startMotorControlMode joint setZero
  | .exit joint => endMotorControlMode joint
  | .exitAll => endMotorControlModeAll

namespace Node

variable {K : Type}

def recorded (node : Node K) (event : NodeEvent) : Node K :=
  { node with log := node.log ++ [event] }

def lockCommunication (mode : LockMode) : NodePath K Unit :=
  Path.updateDefined fun node => (node.canCommunicationMutex.acquire mode).map fun mutex =>
    { node.recorded (.communicationLocked mode) with canCommunicationMutex := mutex }

def unlockCommunication (mode : LockMode) : NodePath K Unit :=
  Path.updateDefined fun node => (node.canCommunicationMutex.release mode).map fun mutex =>
    { node.recorded (.communicationUnlocked mode) with canCommunicationMutex := mutex }

def lockJointStateMsg (mode : LockMode) : NodePath K Unit :=
  Path.updateDefined fun node => (node.jointStateMsgMutex.acquire mode).map fun mutex =>
    { node.recorded (.jointStateMsgLocked mode) with jointStateMsgMutex := mutex }

def unlockJointStateMsg (mode : LockMode) : NodePath K Unit :=
  Path.updateDefined fun node => (node.jointStateMsgMutex.release mode).map fun mutex =>
    { node.recorded (.jointStateMsgUnlocked mode) with jointStateMsgMutex := mutex }

/-- The path of this thread holds one of the two mutexes. -/
def holdsMutex (node : Node K) : Bool :=
  node.canCommunicationMutex.hold.isSome || node.jointStateMsgMutex.hold.isSome

/-- `can_interfaces_[index]`, which the source dereferences at once. -/
def canInterface (index : Nat) : NodePath K (CubemarsCan K) := do
  Path.update fun node => node.recorded (.interfaceUsed index)
  Path.element fun node => node.canInterfaces[index]?.join

/-- What a handshake with this interface writes and how it ends. -/
def handshakeEvent (index : Nat) (step : HandshakeStep) (can : CubemarsCan K) : NodeEvent :=
  let (outcome, after) := step.path.run can
  .handshake index step (after.socket.attempts.drop can.socket.attempts.length)
    (match outcome with
      | .thrown exception => some exception
      | _ => none)

/-- Perform a handshake on `can_interfaces_[index]`. -/
def handshake (index : Nat) (step : HandshakeStep) : NodePath K Unit where
  run node :=
    match node.canInterfaces[index]?.join with
    | none => (.undefined, node.recorded (.interfaceUsed index))
    | some can =>
        let (outcome, after) := step.path.run can
        (outcome, { node.recorded (handshakeEvent index step can) with
          canInterfaces := node.canInterfaces.set index (some after) })

/-- `can_interfaces_.clear()`. -/
def clearInterfaces : NodePath K Unit :=
  Path.update fun node => { node.recorded .interfacesCleared with canInterfaces := [] }

def respond (success : Bool) (message : String) : NodePath K Unit :=
  Path.update fun node => { node with response := { success, message } }

def numInterfaces (node : Node K) : Nat := node.canInterfaces.length

def commThread (index : Nat) : NodePath K CommThread :=
  Path.element fun node => node.commThreads[index]?

/-- An access to `comm_threads_[index]` that other threads can observe. -/
def changeThread (index : Nat) (event : NodeEvent) (change : CommThread → CommThread) :
    NodePath K Unit :=
  Path.updateDefined fun node =>
    if index < node.commThreads.length then
      some { node.recorded event with commThreads := node.commThreads.modify index change }
    else none

def signalThread (index : Nat) : NodePath K Unit :=
  changeThread index (.threadSignalled index) fun thread => { thread with running := false }

/-- `join`; the joined thread has run to its end. -/
def joinThread (index : Nat) : NodePath K Unit := do
  let holdingMutex ← Path.read holdsMutex
  changeThread index (.threadJoined index holdingMutex) fun thread =>
    { thread with joinable := false }

def startCommThread (index : Nat) : NodePath K Unit := do
  let thread ← commThread index
  Path.when (thread.running = false) do
    Path.when thread.joinable (joinThread index)
    changeThread index (.threadStarted index) fun _ => { running := true, joinable := true }

def stopCommThread (index : Nat) : NodePath K Unit := do
  signalThread index
  let thread ← commThread index
  Path.when thread.joinable (joinThread index)

def threadCount (node : Node K) : Nat := node.commThreads.length

/-- All threads are signalled before the first one is joined. -/
def stopAllCommThreads : NodePath K Unit := do
  Path.loopBelow threadCount signalThread
  Path.loopBelow threadCount fun index => do
    let thread ← commThread index
    Path.when thread.joinable (joinThread index)

def jointParameters (canInterface joint : Nat) : NodePath K (JointParameters K) :=
  Path.element fun node =>
    node.tables.jointParametersPerCanInterface[canInterface]?.bind fun row => row[joint]?

/-- The joints of one interface, counted by their parameters. -/
def jointCount (index : Nat) : NodePath K Nat := do
  let row ← Path.element fun node => node.tables.jointParametersPerCanInterface[index]?
  pure row.length

/-- `can_interfaces_[index]->get_can_id(joint)`, which checks its argument. -/
def getCanId (index joint : Nat) : NodePath K (BitVec 32) := do
  let can ← canInterface index
  match can.jointConfigs[joint]? with
  | some config => pure config.canId
  | none => Path.throw .outOfRange

/-- Name a joint in a log message. -/
def nameJoint (index joint : Nat) : NodePath K Unit := do
  let _ ← jointParameters index joint
  let _ ← getCanId index joint

end Node

section Example

def exampleParams (msgIdx : Nat) (transmissionRatio : ℚ) : JointParameters ℚ where
  posLimitMin := -100
  posLimitMax := 100
  transmissionRatio
  frictionParameters := { tauC := 0, tauS := 0, vS := 1, k := 1, kA := 1, b := 0 }
  velFilterSize := 0
  velFilterType := .none
  posMedianFilterSize := 0
  zeroPosition := 0
  setZeroPositionOnStartup := false
  msgIdx
  name := "joint"

def exampleCommand (length : Nat) : JointCommand ℚ where
  position := List.replicate length 0
  velocity := List.replicate length 0
  effort := List.replicate length 0
  kp := List.replicate length 0
  kd := List.replicate length 0

/-- A configured node; joint and interface `i` have message index `i` and CAN id `i + 1`. -/
def exampleNode (lifecycle : Lifecycle) (transmissionRatio : ℚ) (sockets : List Socket) : Node ℚ :=
  let count := sockets.length
  { lifecycle
    defaultDampingKD := 1
    maxCanErrorsBeforeMotorShutdown := 10
    numJoints := count
    jointMsgLength := count
    jointCmdPtr := some (exampleCommand count)
    tables := {
      jointCommandsPerCanInterface := List.replicate count [⟨0, 0, 0, 0, 0⟩]
      jointStatesPerCanInterface := List.replicate count [freshState]
      jointParametersPerCanInterface :=
        (List.range count).map fun index => [exampleParams index transmissionRatio]
      jointVelFiltersPerCanInterface := List.replicate count [.create 0]
      jointAbFiltersPerCanInterface := List.replicate count [.create 1 1]
      jointPosMedianFiltersPerCanInterface := List.replicate count [.create 0]
      lastJointRxNsPerCanInterface := List.replicate count [0] }
    interfaces := {
      numCanErrorsPerInterfaces := List.replicate count 0
      lastCanCycleTimes := List.replicate count 0
      lastCycleEndNsPerCanInterface := List.replicate count 0
      canInterfaceFrequencyMsg := List.replicate count 0
      canTxFillDurationMsg := List.replicate count none
      canRxDurationMsg := List.replicate count none
      canProcessingMsg := List.replicate count none
      canIntercycleGapMsg := List.replicate count none }
    messages := {
      position := List.replicate count 0
      velocity := List.replicate count 0
      effort := List.replicate count 0
      jointTempMsg := List.replicate count 0
      jointStateAgeMsg := List.replicate count none
      jointRxDeliveryMsg := List.replicate count none
      jointRxHwTimestampMsg := List.replicate count none
      jointReplyAfterTxMsg := List.replicate count none
      jointCmdToBusLatencyMsg := List.replicate count none
      jointMotorReplyLatencyMsg := List.replicate count none
      jointEnqueueToWireMsg := List.replicate count none
      jointRxNs := List.replicate count 0
      jointRxDeliveryFloorNs := List.replicate count 0
      jointRxHwBaseNs := List.replicate count 0
      unfilteredVelocityMsg := List.replicate count none
      unfilteredPositionMsg := List.replicate count none }
    canInterfaces := sockets.zipIdx.map fun (socket, index) =>
      some (exampleCan (BitVec.ofNat 32 (index + 1)) socket)
    commThreads := List.replicate count { running := true, joinable := true } }

end Example

end CubemarsDriver

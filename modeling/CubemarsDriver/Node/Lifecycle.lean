import CubemarsDriver.Node.State

namespace CubemarsDriver.Node

open Foundation Can

/-! # Lifecycle callbacks and transitions

`on_configure` has a module of its own. -/

variable {K : Type}

/-- Disable one motor; an error is logged and the cleanup goes on. -/
def disableMotor (index joint : Nat) : NodePath K Unit :=
  Path.tryCatch (handshake index (.exit joint)) fun _ => do
    let _ ← jointParameters index joint
    let _ ← canInterface index

/-- Disable the motors of one interface, counted by its commands. -/
def disableMotors (index : Nat) : NodePath K Unit := do
  let row ← Path.element fun node => node.tables.jointCommandsPerCanInterface[index]?
  Path.loopBelow (fun _ => row.length) (disableMotor index)

/-- Everything `on_cleanup` clears while it holds both mutexes. -/
def clearTables (node : Node K) : Node K := { node with
  tables := {}
  interfaces := { canInterfaceFrequencyMsg := node.interfaces.canInterfaceFrequencyMsg }
  jointCmdSub := false
  messages := { node.messages with
    jointStateAgeMsg := [], jointRxDeliveryMsg := [], jointRxHwTimestampMsg := []
    jointReplyAfterTxMsg := [], jointCmdToBusLatencyMsg := [], jointMotorReplyLatencyMsg := []
    jointEnqueueToWireMsg := [], jointRxNs := [], jointRxDeliveryFloorNs := []
    jointRxHwBaseNs := [], unfilteredVelocityMsg := [], unfilteredPositionMsg := [] } }

/-- What `on_cleanup` resets after it has released them. -/
def clearMessages (node : Node K) : Node K := { node with
  jointCmdPtr := none
  messages := { node.messages with
    position := [], velocity := [], effort := [], jointTempMsg := [] } }

def onCleanup : NodePath K CallbackReturn := do
  Path.update fun node => { node with onSetParametersHandle := false, publishTimer := false }
  stopAllCommThreads
  Path.update fun node => { node with commThreads := [] }
  lockCommunication .exclusive
  lockJointStateMsg .exclusive
  Path.loopBelow numInterfaces disableMotors
  clearInterfaces
  Path.update clearTables
  unlockJointStateMsg .exclusive
  unlockCommunication .exclusive
  Path.update clearMessages
  pure .success

/-- What `on_error` resets after a failed configuration. -/
def clearAfterConfigure (node : Node K) : Node K := { node with
  jointCmdPtr := none
  tables := {}
  interfaces := {
    lastCanCycleTimes := node.interfaces.lastCanCycleTimes
    canInterfaceFrequencyMsg := node.interfaces.canInterfaceFrequencyMsg }
  messages := {} }

def onError (previousState : Lifecycle) : NodePath K CallbackReturn :=
  match previousState with
  | .unconfigured => do
      Path.update fun node => { node with
        onSetParametersHandle := false, jointCmdSub := false, publishTimer := false }
      stopAllCommThreads
      Path.update fun node => { node with commThreads := [] }
      Path.update clearAfterConfigure
      pure .success
  | _ => pure .failure

def setLifecycle (lifecycle : Lifecycle) : NodePath K Unit :=
  Path.update fun node => { node with lifecycle }

/-- The state a transition ends in.  An error is handed to `on_error`. -/
def settle (start goal : Lifecycle) : CallbackReturn → NodePath K Unit
  | .success => setLifecycle goal
  | .failure => setLifecycle start
  | .error => do
      match ← onError start with
      | .success => setLifecycle .unconfigured
      | _ => setLifecycle .finalized

/-- A transition of the lifecycle library: it is refused outside its start state,
and an exception of its callback counts as an error. -/
def transition (start goal : Lifecycle) (callback : NodePath K CallbackReturn) :
    NodePath K Unit := do
  let lifecycle ← Path.read Node.lifecycle
  Path.when (lifecycle = start) do
    setLifecycle .inTransition
    let result ← Path.tryCatch callback fun _ => pure .error
    settle start goal result

def cleanup : NodePath K Unit := transition .inactive .unconfigured onCleanup

/-- `create_timer`, which refuses a period that is negative or infinite. -/
def createTimer (frequency : Int) : NodePath K Unit :=
  Path.when (frequency ≤ 0) (Path.throw .invalidArgument)

def onActivate : NodePath K CallbackReturn := do
  let msgReceived ← Path.read Node.msgReceived
  if msgReceived then
    let watchdogFrequency ← Path.read Node.watchdogFrequency
    createTimer watchdogFrequency
    Path.update fun node => { node with watchdogTimer := true }
    pure .success
  else pure .failure

def activate : NodePath K Unit := transition .inactive .active onActivate

section Commands

variable [Scalar K]

/-- The command with only damping. -/
def dampingCommand (node : Node K) : JointCommand K where
  position := List.replicate node.jointMsgLength Scalar.zero
  velocity := List.replicate node.jointMsgLength Scalar.zero
  effort := List.replicate node.jointMsgLength Scalar.zero
  kp := List.replicate node.jointMsgLength Scalar.zero
  kd := List.replicate node.jointMsgLength node.defaultDampingKD

def storeDamping (node : Node K) : Node K := { node with jointCmdPtr := some node.dampingCommand }

def onDeactivate : NodePath K CallbackReturn := do
  Path.update storeDamping
  Path.update fun node => { node with watchdogTimer := false, msgReceived := false }
  pure .success

def deactivate : NodePath K Unit := transition .active .inactive onDeactivate

def watchdogTimerCallback : NodePath K Unit := do
  let msgReceived ← Path.read Node.msgReceived
  Path.when (msgReceived = false) deactivate
  Path.update fun node => { node with msgReceived := false }

def supervisorCallback : NodePath K Unit := do
  let requested ← Path.read Node.cleanupRequested
  Path.update fun node => { node with cleanupRequested := false }
  Path.when requested cleanup

/-- Shutting down goes through the callbacks of the states below. -/
def onShutdown (previousState : Lifecycle) : NodePath K CallbackReturn := do
  Path.when (previousState = .active) (Path.tryCatch (do let _ ← onDeactivate) fun _ => pure ())
  Path.when (previousState = .active ∨ previousState = .inactive)
    (Path.tryCatch (do let _ ← onCleanup) fun _ => pure ())
  pure .success

/-- The store of a command that was accepted at the time `cmdRxNs`. -/
def storeCommand (command : JointCommand K) (cmdRxNs : Int) (node : Node K) : Node K :=
  { node with cmdRxNs, jointCmdPtr := some command }

/-- The latency that is published for a stamped command. -/
def controllerLatency (command : JointCommand K) (now : Int) : Option K :=
  if 0 < command.stampNs then
    some (Scalar.ofRat (now - command.stampNs : Int) / Scalar.ofRat 1000)
  else none

def jointCmdMsgCallback (command : JointCommand K) (cmdRxNs now : Int) :
    NodePath K (Option K) := do
  let jointMsgLength ← Path.read Node.jointMsgLength
  if command.Sized jointMsgLength then
    Path.update fun node => { node with msgReceived := true }
    let lifecycle ← Path.read Node.lifecycle
    Path.when (lifecycle = .active) (Path.update (storeCommand command cmdRxNs))
    pure (controllerLatency command now)
  else pure none

end Commands

end CubemarsDriver.Node

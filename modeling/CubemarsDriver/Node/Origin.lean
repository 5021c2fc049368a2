import CubemarsDriver.Node.Lifecycle

namespace CubemarsDriver.Node

open Foundation Can

/-! # The services that set motor origins

Both services disable the motors, enable them again with a new origin, and on a
device error try to disable everything before they unconfigure the node. -/

variable {K : Type}

def notConfiguredMessage : String := "Node not in CONFIGURED state"
def canErrorMessage : String := "Error in CAN communication, see log"
def allMotorsSetMessage : String := "All motors set to origin"

def setMotorOrigin (index joint : Nat) : NodePath K Unit := do
  nameJoint index joint
  handshake index (.exit joint)
  nameJoint index joint
  handshake index (.start joint true)
  nameJoint index joint

/-- The emergency loop of the first service: it runs past the last interface. -/
def disableAllAndOneMore : NodePath K Unit := do
  Path.loopBelow (fun node => node.numInterfaces + 1) fun other => handshake other .exitAll
  clearInterfaces

/-- The handler of a device error; the loop over the interfaces goes on after it. -/
def handleOriginError (index : Nat) : NodePath K Unit := do
  let _ ← canInterface index
  Path.tryCatch disableAllAndOneMore fun _ => do let _ ← canInterface index
  unlockCommunication .exclusive
  respond false canErrorMessage
  cleanup

def setMotorOrigins (index : Nat) : NodePath K Unit := do
  let count ← jointCount index
  Path.loopBelow (fun _ => count) (setMotorOrigin index)

def setInterfaceOrigins (index : Nat) : NodePath K Unit :=
  Path.tryCatch (setMotorOrigins index) fun _ => handleOriginError index

def setAllMotorsOriginHereCallback : NodePath K Unit := do
  let lifecycle ← Path.read Node.lifecycle
  if lifecycle ≠ .inactive then respond false notConfiguredMessage
  else do
    stopAllCommThreads
    lockCommunication .exclusive
    Path.loopBelow numInterfaces setInterfaceOrigins
    Path.loopBelow numInterfaces startCommThread
    respond true allMotorsSetMessage
    unlockCommunication .exclusive

/-- The first joint with the message index, interface by interface. -/
def findMotor (motorId : Nat) (node : Node K) : Option (Nat × Nat) :=
  node.tables.jointParametersPerCanInterface.zipIdx.findSome? fun (row, index) =>
    (row.findIdx? fun params => params.msgIdx == motorId).map fun joint => (index, joint)

def restartMotors (index target : Nat) : NodePath K Unit := do
  let count ← jointCount index
  Path.loopBelow (fun _ => count) fun joint => do
    nameJoint index joint
    handshake index (.exit joint)
  Path.loopBelow (fun _ => count) fun joint => do
    Path.when (joint = target) (nameJoint index joint)
    handshake index (.start joint (joint = target))
    nameJoint index joint

/-- The emergency loop of the second service. -/
def disableAll : NodePath K Unit := do
  Path.loopBelow numInterfaces fun other => handshake other .exitAll
  clearInterfaces

def motorNotFoundMessage (motorId : Int) : String := "Motor ID " ++ toString motorId ++ " not found"

def motorSetMessage (motorId : Int) (name : String) : String :=
  "Motor " ++ toString motorId ++ " (" ++ name ++ ") set to origin"

def setMotorOriginHereCallback (motorId : Int) : NodePath K Unit := do
  let lifecycle ← Path.read Node.lifecycle
  if lifecycle ≠ .inactive then respond false notConfiguredMessage
  else
    match ← Path.read (findMotor (motorId.emod (2 ^ 32)).toNat) with
    | none => respond false (motorNotFoundMessage motorId)
    | some (index, target) => do
        stopCommThread index
        lockCommunication .exclusive
        match ← Path.attempt (restartMotors index target) with
        | .error _ => do
            let _ ← canInterface index
            Path.tryCatch disableAll fun _ => pure ()
            unlockCommunication .exclusive
            respond false canErrorMessage
            cleanup
        | .ok () => do
            startCommThread index
            let params ← jointParameters index target
            respond true (motorSetMessage motorId params.name)
            unlockCommunication .exclusive

end CubemarsDriver.Node

import CubemarsDriver.Plugin.ActivationHandshakes
import CubemarsDriver.Plugin.StoppedJoints

namespace CubemarsDriver.Plugin

open Can

/-! # The plugin as a component of ros2_control

The framework initialises the plugin with the joints of the robot description and then calls it
back, and controllers set the commands in between.  What the plugin does on the bus goes to the
descriptor of the socket it has set up last. -/

/-- `std::stoi` and `std::stod`, which throw where a text does not start with a number, and
`quiet_NaN`. -/
class StdNumbers (K : Type) where
  stoi : String → Option Int
  stod : String → Option K
  quietNaN : K

structure CommandInterfaceInfo where
  name : String
  initialValue : String := ""

/-- A parameter that is not given is an empty text. -/
structure ComponentInfo where
  name : String
  parameters : String → String
  commandInterfaces : List CommandInterfaceInfo

structure HardwareInfo (count : Nat) where
  hardwareParameters : String → String
  joints : Vector ComponentInfo count

def isTrue (value : String) : Bool := value = "True" ∨ value = "true" ∨ value = "1"

/-- A CAN socket in the kernel: the options that have been set. -/
structure RawSocket where
  descriptor : Nat
  loopback : Option Bool := none
  filter : Option (List CanFilter) := none
  boundTo : Option String := none
  receiveTimeoutUs : Option Nat := none
deriving DecidableEq, Repr

/-- A system call on a descriptor. -/
structure Transfer where
  descriptor : Option Nat
  event : SocketEvent
deriving DecidableEq, Repr

structure ManagedInterface (K : Type) (count : Nat) extends ConnectedInterface K count where
  infoJoints : Vector ComponentInfo count
  canInterface : String
  enableLoopback : Bool
  /-- The number is not determined until the first socket is created. -/
  canSocketFd : Option Nat := none
  /-- The sockets that the plugin has created and not closed. -/
  openSockets : List RawSocket := []
  traffic : List Transfer := []
  destroyed : Bool := false

inductive Ending where
  | returned (result : CallbackReturn)
  | threw
deriving DecidableEq, Repr

variable {K : Type} {count : Nat}

def ManagedInterface.descriptors (component : ManagedInterface K count) : List Nat :=
  component.openSockets.map RawSocket.descriptor

namespace ConnectedInterface

/-- The entries of the `hw_commands_` vectors that belong to one joint. -/
def cmd (plugin : ConnectedInterface K count) (joint : Fin count) : JointCmd K where
  pos := plugin.hwCommandsPosition.get joint
  vel := plugin.hwCommandsVelocity.get joint
  torque := plugin.hwCommandsEffort.get joint
  kp := plugin.hwCommandsKp.get joint
  kd := plugin.hwCommandsKd.get joint

def setCmd (plugin : ConnectedInterface K count) (joint : Fin count) (cmd : JointCmd K) :
    ConnectedInterface K count :=
  { plugin with
    hwCommandsPosition := plugin.hwCommandsPosition.set joint cmd.pos joint.isLt
    hwCommandsVelocity := plugin.hwCommandsVelocity.set joint cmd.vel joint.isLt
    hwCommandsEffort := plugin.hwCommandsEffort.set joint cmd.torque joint.isLt
    hwCommandsKp := plugin.hwCommandsKp.set joint cmd.kp joint.isLt
    hwCommandsKd := plugin.hwCommandsKd.set joint cmd.kd joint.isLt }

end ConnectedInterface

section Init

variable [Scalar K] [StdNumbers K]

/-- `none` if one of the conversions throws. -/
def readJointConfig (joint : ComponentInfo) : Option (JointConfig K) := do
  let number (key : String) : Option K := StdNumbers.stod (joint.parameters key)
  let canId ← StdNumbers.stoi K (joint.parameters "can_id")
  let kdMin ← number "kd_min"
  let kdMax ← number "kd_max"
  let kpMin ← number "kp_min"
  let kpMax ← number "kp_max"
  let pMin ← number "pos_min"
  let pMax ← number "pos_max"
  let vMin ← number "vel_min"
  let vMax ← number "vel_max"
  let iMin ← number "effort_min"
  let iMax ← number "effort_max"
  some {
    canId := BitVec.ofInt 32 canId
    name := joint.name
    kdMin, kdMax, kpMin, kpMax, pMin, pMax, vMin, vMax, iMin, iMax
    invert := isTrue (joint.parameters "invert")
    torqueConstant := Scalar.one }

inductive Initialisation (K : Type) (count : Nat) where
  | success (component : ManagedInterface K count)
  | error
  | threw

/-- The framework's own initialisation comes first. -/
def onInit (initialised : Bool) (info : HardwareInfo count) : Initialisation K count :=
  let configs (joint : Fin count) : Option (JointConfig K) := readJointConfig (info.joints.get joint)
  if ¬initialised then .error
  else if info.hardwareParameters "can_interface" = "" then .error
  else if converted : ∀ joint, (configs joint).isSome then
    .success {
      jointNames := info.joints.map ComponentInfo.name
      infoJoints := info.joints
      canInterface := info.hardwareParameters "can_interface"
      enableLoopback := isTrue (info.hardwareParameters "enable_loopback")
      setZeroPosOnStartup := isTrue (info.hardwareParameters "set_zero_pos_on_startup")
      hwJointConfigs := Vector.ofFn fun joint => (configs joint).get (converted joint)
      hwCommandsPosition := .replicate count StdNumbers.quietNaN
      hwCommandsVelocity := .replicate count StdNumbers.quietNaN
      hwCommandsEffort := .replicate count StdNumbers.quietNaN
      hwCommandsKp := .replicate count StdNumbers.quietNaN
      hwCommandsKd := .replicate count StdNumbers.quietNaN
      hwStatesPosition := .replicate count StdNumbers.quietNaN
      hwStatesVelocity := .replicate count StdNumbers.quietNaN
      hwStatesEffort := .replicate count StdNumbers.quietNaN
      hwStatesTemperature := .replicate count StdNumbers.quietNaN
      hwControlLevel := .replicate count .undefined }
  else .threw

end Init

/-- What the system calls of `setup_socket` return. -/
structure SocketCalls where
  socket : Option Nat
  setLoopback : Bool := true
  setFilter : Bool := true
  findIndex : Bool := true
  bind : Bool := true
  setTimeout : Bool := true
deriving DecidableEq, Repr

/-- The socket that `setup_socket` leaves, and whether it got to the end. -/
def prepareSocket (calls : SocketCalls) (enableLoopback : Bool) (filter : List CanFilter)
    (canInterface : String) (socket : RawSocket) : CallbackReturn × RawSocket :=
  if ¬calls.setLoopback then (.error, socket)
  else
    let socket := { socket with loopback := some enableLoopback }
    if ¬calls.setFilter then (.error, socket)
    else
      let socket := { socket with filter := some filter }
      if ¬calls.findIndex then (.error, socket)
      else if ¬calls.bind then (.error, socket)
      else
        let socket := { socket with boundTo := some canInterface }
        if ¬calls.setTimeout then (.error, socket)
        else (.success, { socket with receiveTimeoutUs := some 500000 })

def setupSocket (calls : SocketCalls) (component : ManagedInterface K count) :
    CallbackReturn × ManagedInterface K count :=
  match calls.socket with
  | none => (.error, component)
  | some descriptor =>
      let (result, socket) := prepareSocket calls component.enableLoopback
        (rfilter component.hwJointConfigs) component.canInterface { descriptor }
      (result, { component with
        canSocketFd := some descriptor
        openSockets := socket :: component.openSockets })

section Configure

variable [Scalar K] [StdNumbers K] (names : InterfaceNames)

/-- An interface of another name has no initial value, and `stod` is called for no empty one. -/
def setInitialValue (interface : CommandInterfaceInfo) (cmd : JointCmd K) : Option (JointCmd K) :=
  let assign (set : K → JointCmd K) : Option (JointCmd K) :=
    if interface.initialValue = "" then some cmd
    else (StdNumbers.stod interface.initialValue).map set
  if interface.name = names.position then assign fun pos => { cmd with pos }
  else if interface.name = names.velocity then assign fun vel => { cmd with vel }
  else if interface.name = names.effort then assign fun torque => { cmd with torque }
  else if interface.name = names.proportionalGain then assign fun kp => { cmd with kp }
  else if interface.name = names.derivativeGain then assign fun kd => { cmd with kd }
  else some cmd

/-- The command that the interfaces leave, and whether they got to the end. -/
def setInitialValues : List CommandInterfaceInfo → JointCmd K → Bool × JointCmd K
  | [], cmd => (true, cmd)
  | interface :: rest, cmd =>
      match setInitialValue names interface cmd with
      | none => (false, cmd)
      | some cmd => setInitialValues rest cmd

def zeroCommands (plugin : ConnectedInterface K count) : ConnectedInterface K count :=
  { plugin with
    hwCommandsPosition := .replicate count Scalar.zero
    hwCommandsVelocity := .replicate count Scalar.zero
    hwCommandsEffort := .replicate count Scalar.zero
    hwCommandsKp := .replicate count Scalar.zero
    hwCommandsKd := .replicate count Scalar.zero }

def zeroStates : JointStates K where
  position := Scalar.zero
  velocity := Scalar.zero
  effort := Scalar.zero
  temperature := Scalar.zero

def configureJoints (infoJoints : Vector ComponentInfo count) :
    List (Fin count) → ConnectedInterface K count → Ending × ConnectedInterface K count
  | [], plugin => (.returned .success, plugin)
  | joint :: rest, plugin =>
      match setInitialValues names (infoJoints.get joint).commandInterfaces (plugin.cmd joint) with
      | (false, cmd) => (.threw, plugin.setCmd joint cmd)
      | (true, cmd) =>
          configureJoints infoJoints rest ((plugin.setCmd joint cmd).setStates joint zeroStates)

/-- The modes of the joints stay what they are. -/
def onConfigure (calls : SocketCalls) (component : ManagedInterface K count) :
    Ending × ManagedInterface K count :=
  match setupSocket calls component with
  | (.error, component) => (.returned .error, component)
  | (.success, component) =>
      let (ending, plugin) := configureJoints names component.infoJoints (List.finRange count)
        (zeroCommands component.toConnectedInterface)
      (ending, { component with toConnectedInterface := plugin })

end Configure

/-- What is done on the socket is done on the descriptor that the plugin has at the time. -/
def onBus {α : Type} (callback : ConnectedInterface K count → α × ConnectedInterface K count)
    (writes : List Bool) (reads : List ReadResult) (component : ManagedInterface K count) :
    α × ManagedInterface K count :=
  let (result, plugin) := callback { component.toConnectedInterface with canSocket := { writes, reads } }
  (result, { component with
    toConnectedInterface := { plugin with canSocket := {} }
    traffic := component.traffic ++ plugin.canSocket.log.map fun event =>
      { descriptor := component.canSocketFd, event } })

/-- The plugin keeps the number of the descriptor, which the system may give to another file. -/
def onCleanup (component : ManagedInterface K count) : CallbackReturn × ManagedInterface K count :=
  (.success, { component with
    openSockets := component.openSockets.filter fun socket =>
      some socket.descriptor ≠ component.canSocketFd })

section Callbacks

variable [Scalar K]

/-- The loop of `on_deactivate` over the joints; a joint that fails does not end it. -/
def deactivateJoints : List (JointConfig K) → CallbackReturn → ConnectedInterface K count →
    CallbackReturn × ConnectedInterface K count
  | [], retVal, plugin => (retVal, plugin)
  | joint :: rest, retVal, plugin =>
      match exitMotorControlMode joint.canId plugin with
      | (.ok, plugin) => deactivateJoints rest retVal plugin
      | (.error, plugin) => deactivateJoints rest .error plugin

def onDeactivate (plugin : ConnectedInterface K count) :
    CallbackReturn × ConnectedInterface K count :=
  deactivateJoints plugin.hwJointConfigs.toList .success plugin

/-- What the framework and the controllers do with the plugin, with the results of the system
calls that it makes. -/
inductive Callback (K : Type) (count : Nat) where
  | onConfigure (calls : SocketCalls)
  | onActivate (writes : List Bool) (reads : List ReadResult)
  | onDeactivate (writes : List Bool) (reads : List ReadResult)
  | onCleanup
  | read
  | write (writes : List Bool) (reads : List ReadResult)
  | prepareCommandModeSwitch (startInterfaces stopInterfaces : List String)
  | setCommand (joint : Fin count) (cmd : JointCmd K)
  | destroy (writes : List Bool) (reads : List ReadResult)

variable [StdNumbers K] (names : InterfaceNames)

/-- `socket` gives no number of a descriptor that is open. -/
def operate (component : ManagedInterface K count) (callback : Callback K count) :
    Option (ManagedInterface K count) :=
  if component.destroyed then none
  else match callback with
    | .onConfigure calls =>
        if ∃ descriptor ∈ calls.socket, descriptor ∈ component.descriptors then none
        else some (onConfigure names calls component).2
    | .onActivate writes reads => some (onBus onActivate writes reads component).2
    | .onDeactivate writes reads => some (onBus onDeactivate writes reads component).2
    | .onCleanup => some (onCleanup component).2
    | .read => some component
    | .write writes reads => some (onBus write writes reads component).2
    | .prepareCommandModeSwitch startInterfaces stopInterfaces =>
        let (_, toCubemarsHardwareInterface) := prepareCommandModeSwitch names startInterfaces
          stopInterfaces component.toCubemarsHardwareInterface
        some { component with toCubemarsHardwareInterface }
    | .setCommand joint cmd =>
        some { component with toConnectedInterface := component.setCmd joint cmd }
    | .destroy writes reads =>
        some { (onBus onDeactivate writes reads component).2 with destroyed := true }

end Callbacks

end CubemarsDriver.Plugin

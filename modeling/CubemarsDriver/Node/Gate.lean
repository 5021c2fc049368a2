import CubemarsDriver.Node.ConfiguredBy
import CubemarsDriver.Node.Cycle
import CubemarsDriver.Node.Origin
import CubemarsDriver.Node.SetParameters

namespace CubemarsDriver

open Foundation Can

/-! # What the callbacks leave alone

Most of what the callbacks do leaves the lifecycle state and the flags alone that
decide which transitions happen, and much of it mutexes and threads as well. -/

def NodeEvent.isJoin : NodeEvent → Bool
  | .threadJoined .. => true
  | _ => false

namespace Node

variable {K : Type} {index joint : Nat} {mode : LockMode}

structure Gate where
  lifecycle : Lifecycle
  msgReceived : Bool
  watchdogTimer : Bool
  cleanupRequested : Bool
deriving DecidableEq, Repr

def gate (node : Node K) : Gate where
  lifecycle := node.lifecycle
  msgReceived := node.msgReceived
  watchdogTimer := node.watchdogTimer
  cleanupRequested := node.cleanupRequested

/-- The joins a path has made. -/
def joins (node : Node K) : List NodeEvent := node.log.filter NodeEvent.isJoin

structure Surroundings where
  gate : Gate
  joins : List NodeEvent
  communicationHold : Option LockMode
  jointStateMsgHold : Option LockMode
  commThreads : List CommThread

def surroundings (node : Node K) : Surroundings where
  gate := node.gate
  joins := node.joins
  communicationHold := node.canCommunicationMutex.hold
  jointStateMsgHold := node.jointStateMsgMutex.hold
  commThreads := node.commThreads

/-- The path leaves lifecycle and flags alone, however it ends. -/
abbrev Passive {α : Type} (path : NodePath K α) : Prop := Path.Preserves gate path

/-- The path leaves mutexes and threads alone as well. -/
abbrev StandsAside {α : Type} (path : NodePath K α) : Prop := Path.Preserves surroundings path

theorem StandsAside.passive {α : Type} {path : NodePath K α} (aside : StandsAside path) :
    Passive path := aside.weaken fun _ _ same => congrArg Surroundings.gate same

theorem recorded_joins (node : Node K) {event : NodeEvent} (other : event.isJoin = false) :
    (node.recorded event).joins = node.joins := by
  simp [joins, recorded, other]

theorem recorded_surroundings (node : Node K) {event : NodeEvent} (other : event.isJoin = false) :
    (node.recorded event).surroundings = node.surroundings :=
  congrArg (fun joins => { node.surroundings with joins }) (recorded_joins node other)

theorem lockCommunication_passive : Passive (lockCommunication mode : NodePath K Unit) :=
  Path.Evolves.updateFound fun _ _ => rfl

theorem unlockCommunication_passive : Passive (unlockCommunication mode : NodePath K Unit) :=
  Path.Evolves.updateFound fun _ _ => rfl

theorem lockJointStateMsg_passive : Passive (lockJointStateMsg mode : NodePath K Unit) :=
  Path.Evolves.updateFound fun _ _ => rfl

theorem unlockJointStateMsg_passive : Passive (unlockJointStateMsg mode : NodePath K Unit) :=
  Path.Evolves.updateFound fun _ _ => rfl

theorem canInterface_aside : StandsAside (canInterface index : NodePath K (CubemarsCan K)) :=
  Path.Evolves.bind (Path.Evolves.update fun node => recorded_surroundings node rfl) fun _ =>
    Path.Evolves.element _

theorem nameJoint_aside : StandsAside (nameJoint index joint : NodePath K Unit) := by
  refine Path.Evolves.bind (Path.Evolves.element _) fun _ => ?_
  refine Path.Evolves.bind (Path.Evolves.bind canInterface_aside fun can => ?_) fun _ =>
    Path.Evolves.pure _
  split
  · exact Path.Evolves.pure _
  · exact Path.Evolves.throw _

theorem jointParameters_aside :
    StandsAside (jointParameters index joint : NodePath K (JointParameters K)) := Path.Evolves.element _

theorem jointCount_aside : StandsAside (jointCount index : NodePath K Nat) :=
  Path.Evolves.bind (Path.Evolves.element _) fun _ => Path.Evolves.pure _

theorem handshake_aside (step : HandshakeStep) :
    StandsAside (handshake index step : NodePath K Unit) := by
  intro node
  cases found : node.canInterfaces[index]?.join with
  | none =>
      simp only [handshake, found]
      exact recorded_surroundings node rfl
  | some can =>
      rw [handshake_run step found]
      exact recorded_surroundings node rfl

theorem clearInterfaces_aside : StandsAside (clearInterfaces : NodePath K Unit) :=
  Path.Evolves.update fun node => recorded_surroundings node rfl

theorem respond_aside (success : Bool) (message : String) :
    StandsAside (respond success message : NodePath K Unit) := Path.Evolves.update fun _ => rfl

theorem checked_aside {α : Type} (result : Checked α) : StandsAside (checked result : NodePath K α) :=
  checked_evolves result

theorem changeThread_passive (event : NodeEvent) (change : CommThread → CommThread) :
    Passive (changeThread index event change : NodePath K Unit) := by
  refine Path.Evolves.updateDefined fun node after changed => ?_
  rw [Option.ite_none_right_eq_some, Option.some.injEq] at changed
  obtain ⟨_, rfl⟩ := changed
  rfl

theorem joinThread_passive : Passive (joinThread index : NodePath K Unit) :=
  Path.Evolves.bind (Path.Evolves.read _) fun _ => changeThread_passive _ _

theorem startCommThread_passive : Passive (startCommThread index : NodePath K Unit) :=
  Path.Evolves.bind (Path.Evolves.element _) fun _ => Path.Evolves.when fun _ =>
    Path.Evolves.bind (Path.Evolves.when fun _ => joinThread_passive) fun _ =>
      changeThread_passive _ _

theorem stopCommThread_passive : Passive (stopCommThread index : NodePath K Unit) :=
  Path.Evolves.bind (changeThread_passive _ _) fun _ =>
    Path.Evolves.bind (Path.Evolves.element _) fun _ => Path.Evolves.when fun _ => joinThread_passive

theorem stopAllCommThreads_passive : Passive (stopAllCommThreads : NodePath K Unit) :=
  Path.Evolves.bind (Path.Evolves.loopBelow fun _ => changeThread_passive _ _) fun _ =>
    Path.Evolves.loopBelow fun _ => Path.Evolves.bind (Path.Evolves.element _) fun _ =>
      Path.Evolves.when fun _ => joinThread_passive

theorem disableMotor_aside : StandsAside (disableMotor index joint : NodePath K Unit) :=
  Path.Evolves.tryCatch (handshake_aside _) fun _ =>
    Path.Evolves.bind jointParameters_aside fun _ =>
      Path.Evolves.bind canInterface_aside fun _ => Path.Evolves.pure _

theorem disableMotors_aside : StandsAside (disableMotors index : NodePath K Unit) :=
  Path.Evolves.bind (Path.Evolves.element _) fun _ =>
    Path.Evolves.loopBelow fun _ => disableMotor_aside

theorem onCleanup_passive : Passive (onCleanup : NodePath K CallbackReturn) := by
  refine Path.Evolves.bind (Path.Evolves.update fun _ => rfl) fun _ => ?_
  refine Path.Evolves.bind stopAllCommThreads_passive fun _ => ?_
  refine Path.Evolves.bind (Path.Evolves.update fun _ => rfl) fun _ => ?_
  refine Path.Evolves.bind lockCommunication_passive fun _ => ?_
  refine Path.Evolves.bind lockJointStateMsg_passive fun _ => ?_
  refine Path.Evolves.bind (Path.Evolves.loopBelow fun _ => disableMotors_aside.passive) fun _ => ?_
  refine Path.Evolves.bind clearInterfaces_aside.passive fun _ => ?_
  refine Path.Evolves.bind (Path.Evolves.update fun _ => rfl) fun _ => ?_
  refine Path.Evolves.bind unlockJointStateMsg_passive fun _ => ?_
  refine Path.Evolves.bind unlockCommunication_passive fun _ => ?_
  exact Path.Evolves.bind (Path.Evolves.update fun _ => rfl) fun _ => Path.Evolves.pure _

theorem onError_passive (previousState : Lifecycle) :
    Passive (onError previousState : NodePath K CallbackReturn) := by
  cases previousState with
  | unconfigured =>
      refine Path.Evolves.bind (Path.Evolves.update fun _ => rfl) fun _ => ?_
      refine Path.Evolves.bind stopAllCommThreads_passive fun _ => ?_
      refine Path.Evolves.bind (Path.Evolves.update fun _ => rfl) fun _ => ?_
      exact Path.Evolves.bind (Path.Evolves.update fun _ => rfl) fun _ => Path.Evolves.pure _
  | inactive => exact Path.Evolves.pure _
  | active => exact Path.Evolves.pure _
  | finalized => exact Path.Evolves.pure _
  | inTransition => exact Path.Evolves.pure _

section Configuration

variable [Scalar K] {assignment : Assignment K} {configs : JointConfigs K}

omit [Scalar K] in
theorem readGlobals_aside : StandsAside (readGlobals assignment) :=
  readGlobals_evolves (fun _ _ _ _ _ => rfl) fun _ _ _ _ => rfl

theorem buildTables_aside {defaults : String → Nat} {names : List String} (rest : List String) :
    StandsAside (buildTables assignment defaults names rest configs) :=
  buildTables_evolves (fun _ _ _ _ => rfl) rest

omit [Scalar K] in
theorem createInterfaces_aside {bus : Bus} (items : List (String × Nat)) :
    StandsAside (createInterfaces assignment bus configs items) :=
  createInterfaces_evolves (fun _ _ => rfl) items

omit [Scalar K] in
theorem nameConfig_aside : StandsAside (nameConfig configs index joint : NodePath K Unit) :=
  Path.Evolves.bind canInterface_aside fun _ =>
    Path.Evolves.bind (Path.Evolves.element _) fun _ => Path.Evolves.pure _

omit [Scalar K] in
theorem enableMotor_aside : StandsAside (enableMotor configs index joint) := by
  refine Path.Evolves.bind jointParameters_aside fun _ => ?_
  refine Path.Evolves.bind (Path.Evolves.attempt (Path.Evolves.bind (handshake_aside _) fun _ =>
    nameConfig_aside)) fun result => ?_
  cases result <;> exact Path.Evolves.pure _

omit [Scalar K] in
theorem enableMotors_aside : StandsAside (enableMotors configs) :=
  Path.Evolves.bind (Path.Evolves.read _) fun _ => anyFailed_evolves (fun _ =>
    Path.Evolves.bind jointCount_aside fun _ => anyFailed_evolves (fun _ => enableMotor_aside) _) _

omit [Scalar K] in
theorem disableAfterFailure_aside : StandsAside (disableAfterFailure configs index) :=
  Path.Evolves.bind jointCount_aside fun _ => Path.Evolves.loopBelow fun _ =>
    Path.Evolves.tryCatch (handshake_aside _) fun _ => nameConfig_aside

omit [Scalar K] in
theorem createTimer_aside (frequency : Int) : StandsAside (createTimer frequency : NodePath K Unit) :=
  createTimer_evolves frequency

omit [Scalar K] in
theorem startPublishing_aside : StandsAside (startPublishing : NodePath K Unit) :=
  startPublishing_evolves fun _ => rfl

omit [Scalar K] in
theorem startSupervisor_aside : StandsAside (startSupervisor : NodePath K Unit) :=
  startSupervisor_evolves fun _ => rfl

omit [Scalar K] in
theorem startMotors_passive : Passive (startMotors configs) := by
  refine Path.Evolves.bind enableMotors_aside.passive fun failed =>
    Path.Evolves.ite (fun _ => ?_) fun _ => ?_
  · refine Path.Evolves.bind (Path.Evolves.loopBelow fun _ => disableAfterFailure_aside.passive)
      fun _ => ?_
    exact Path.Evolves.bind clearInterfaces_aside.passive fun _ => Path.Evolves.pure _
  · refine Path.Evolves.bind (Path.Evolves.update fun _ => rfl) fun _ => ?_
    refine Path.Evolves.bind startSupervisor_aside.passive fun _ => ?_
    exact Path.Evolves.bind (Path.Evolves.loopBelow fun _ => startCommThread_passive) fun _ =>
      Path.Evolves.pure _

theorem configureNode_passive {bus : Bus} {now : Int} :
    Passive (configureNode assignment bus now) :=
  configureNode_evolves readGlobals_aside.passive (fun _ _ _ => rfl) (fun _ _ _ => rfl)
    (fun _ _ _ _ => (buildTables_aside _).passive) (fun _ _ => (createInterfaces_aside _).passive)
    startPublishing_aside.passive fun _ => startMotors_passive

omit [Scalar K] in
/-- The handler of `on_configure`. -/
theorem configureHandler_aside (exception : Exception) : StandsAside (match exception with
    | .parameterUninitialized _ => pure .error
    | .canInterfaceError => do
        clearInterfaces
        pure .error
    | other => Path.throw other : NodePath K CallbackReturn) := by
  cases exception with
  | parameterUninitialized name => exact Path.Evolves.pure _
  | canInterfaceError =>
      exact Path.Evolves.bind clearInterfaces_aside fun _ => Path.Evolves.pure _
  | outOfRange => exact Path.Evolves.throw _
  | rangeError => exact Path.Evolves.throw _
  | canDeviceError canId => exact Path.Evolves.throw _
  | motorError canId errorCode => exact Path.Evolves.throw _
  | parameterType name => exact Path.Evolves.throw _
  | invalidArgument => exact Path.Evolves.throw _

theorem onConfigure_passive {bus : Bus} {now : Int} : Passive (onConfigure assignment bus now) :=
  Path.Evolves.bind (checked_aside _).passive fun _ =>
    Path.Evolves.tryCatch configureNode_passive fun exception =>
      (configureHandler_aside exception).passive

section Batch

variable {relation : Node K → Node K → Prop} [IsPreorder (Node K) relation]

omit [Scalar K] in
theorem locate_evolves (name : String) :
    Path.Evolves relation (locate name : NodePath K (Nat × Nat)) := by
  refine Path.Evolves.bind (Path.Evolves.read _) fun found => ?_
  cases found with
  | none => exact Path.Evolves.throw _
  | some position => exact Path.Evolves.pure _

theorem checkUpdates_evolves [StdToString K] (updates : List (String × PerJointUpdate K)) :
    Path.Evolves relation (checkUpdates updates) := by
  induction updates with
  | nil => exact Path.Evolves.pure _
  | cons entry rest ih =>
      refine Path.Evolves.bind (locate_evolves _) fun _ => ?_
      refine Path.Evolves.bind (Path.Evolves.element _) fun _ => ?_
      refine Path.Evolves.bind (Path.Evolves.element _) fun _ => ?_
      split
      · exact Path.Evolves.pure _
      · exact ih

/-- A batch changes the global settings and the tables, if it changes anything. -/
theorem onSetParametersCallback_evolves [StdToString K]
    (globals : ∀ (node : Node K) pending, relation node (applyGlobals pending node))
    (stored : ∀ (node : Node K) index joint update tables,
      applyToTables index joint update node.tables = some tables → relation node { node with tables })
    (order : IterationOrder (String × PerJointUpdate K)) (batch : List (Parameter K)) :
    Path.Evolves relation (onSetParametersCallback order batch) := by
  refine Path.Evolves.bind (Path.Evolves.read _) fun parsed => ?_
  cases parsed with
  | error reason => exact Path.Evolves.pure _
  | ok pending =>
      refine Path.Evolves.bind (checkUpdates_evolves _) fun checks => ?_
      cases checks with
      | error reason => exact Path.Evolves.pure _
      | ok value =>
          refine Path.Evolves.bind (Path.Evolves.update fun node => globals node pending) fun _ => ?_
          refine Path.Evolves.bind (Path.Evolves.forEach (fun entry => ?_) _) fun _ =>
            Path.Evolves.pure _
          refine Path.Evolves.bind (locate_evolves _) fun position =>
            Path.Evolves.updateDefined fun node after changed => ?_
          obtain ⟨tables, applied, rfl⟩ := Option.map_eq_some_iff.mp changed
          exact stored node _ _ _ tables applied

end Batch

theorem onSetParametersCallback_aside [StdToString K]
    (order : IterationOrder (String × PerJointUpdate K)) (batch : List (Parameter K)) :
    StandsAside (onSetParametersCallback order batch) :=
  onSetParametersCallback_evolves (fun _ _ => rfl) (fun _ _ _ _ _ _ => rfl) order batch

end Configuration

theorem setMotorOrigin_aside : StandsAside (setMotorOrigin index joint : NodePath K Unit) :=
  Path.Evolves.bind nameJoint_aside fun _ => Path.Evolves.bind (handshake_aside _) fun _ =>
    Path.Evolves.bind nameJoint_aside fun _ => Path.Evolves.bind (handshake_aside _) fun _ =>
      nameJoint_aside

theorem setMotorOrigins_aside : StandsAside (setMotorOrigins index : NodePath K Unit) :=
  Path.Evolves.bind jointCount_aside fun _ => Path.Evolves.loopBelow fun _ => setMotorOrigin_aside

theorem disableAll_aside : StandsAside (disableAll : NodePath K Unit) :=
  Path.Evolves.bind (Path.Evolves.loopBelow fun _ => handshake_aside _) fun _ =>
    clearInterfaces_aside

theorem disableAllAndOneMore_aside : StandsAside (disableAllAndOneMore : NodePath K Unit) :=
  Path.Evolves.bind (Path.Evolves.loopBelow fun _ => handshake_aside _) fun _ =>
    clearInterfaces_aside

theorem restartMotors_aside {target : Nat} :
    StandsAside (restartMotors index target : NodePath K Unit) := by
  refine Path.Evolves.bind jointCount_aside fun _ => ?_
  refine Path.Evolves.bind (Path.Evolves.loopBelow fun _ => Path.Evolves.bind nameJoint_aside
    fun _ => handshake_aside _) fun _ => Path.Evolves.loopBelow fun _ => ?_
  exact Path.Evolves.bind (Path.Evolves.when fun _ => nameJoint_aside) fun _ =>
    Path.Evolves.bind (handshake_aside _) fun _ => nameJoint_aside

end Node

end CubemarsDriver

import CubemarsDriver.Foundation.LockOrder
import CubemarsDriver.Node.Joins
import CubemarsDriver.Node.Publishing

namespace CubemarsDriver

open Foundation Can

/-! # The locks of a path

A path of the executor is seen by the comm threads as a script: the mutexes it takes and gives
back, and the threads it signals, joins and starts. -/

inductive NodeLock where
  | jointParams
  | canCommunication
  | jointStateMsg
deriving DecidableEq, Repr

/-- The order in which the mutexes are taken. -/
def NodeLock.rank : NodeLock → Nat
  | .jointParams => 0
  | .canCommunication => 1
  | .jointStateMsg => 2

theorem NodeLock.rank_le (lock : NodeLock) : lock.rank ≤ 2 := by cases lock <;> decide

inductive ThreadWork where
  | signal (canInterface : Nat)
  | start (canInterface : Nat)
deriving DecidableEq, Repr

abbrev NodeStep := LockStep NodeLock ThreadWork

/-- The executor comes first, then the comm threads. -/
def executorParty : Nat := 0

def commParty (canInterface : Nat) : Nat := canInterface + 1

def NodeEvent.lockStep : NodeEvent → Option NodeStep
  | .communicationLocked mode => some (.take .canCommunication mode)
  | .communicationUnlocked mode => some (.give .canCommunication mode)
  | .jointStateMsgLocked mode => some (.take .jointStateMsg mode)
  | .jointStateMsgUnlocked mode => some (.give .jointStateMsg mode)
  | .threadSignalled index => some (.work (.signal index))
  | .threadJoined index _ => some (.await (commParty index))
  | .threadStarted index => some (.work (.start index))
  | _ => none

/-- Which threads run, and which have to be joined. -/
structure ThreadFlags where
  running : Nat → Bool
  joinable : Nat → Bool

namespace ThreadFlags

/-- A thread is joined once it has been told to stop, and one that has to be joined is not
replaced. -/
def Allows (flags : ThreadFlags) : NodeStep → Prop
  | .await (index + 1) => flags.joinable index = true ∧ flags.running index = false
  | .work (.start index) => flags.joinable index = false
  | _ => True

def after (flags : ThreadFlags) : NodeStep → ThreadFlags
  | .work (.signal index) => { flags with running := Function.update flags.running index false }
  | .work (.start index) => {
      running := Function.update flags.running index true
      joinable := Function.update flags.joinable index true }
  | .await (index + 1) => { flags with joinable := Function.update flags.joinable index false }
  | _ => flags

end ThreadFlags

/-- What decides whether the executor may take a step. -/
structure ScriptState where
  holding : Holding NodeLock
  flags : ThreadFlags

namespace ScriptState

def Allows (state : ScriptState) (step : NodeStep) : Prop :=
  step.InOrder NodeLock.rank state.holding ∧ state.flags.Allows step

def after (state : ScriptState) (step : NodeStep) : ScriptState where
  holding := step.holdingAfter state.holding
  flags := state.flags.after step

end ScriptState

namespace Node

variable {K : Type} {index joint : Nat} {mode : LockMode}

def runnings (threads : List CommThread) (index : Nat) : Bool :=
  threads[index]?.any CommThread.running

def threadFlags (threads : List CommThread) : ThreadFlags where
  running := runnings threads
  joinable := joinables threads

def nodeHolding (jointParams communication jointStateMsg : Option LockMode) : Holding NodeLock
  | .jointParams => jointParams
  | .canCommunication => communication
  | .jointStateMsg => jointStateMsg

section Holding

variable {jointParams communication jointStateMsg : Option LockMode}

theorem nodeHolding_communication (mode : Option LockMode) :
    Function.update (nodeHolding jointParams communication jointStateMsg) .canCommunication mode =
      nodeHolding jointParams mode jointStateMsg := by
  funext lock
  cases lock <;> rfl

theorem nodeHolding_jointStateMsg (mode : Option LockMode) :
    Function.update (nodeHolding jointParams communication jointStateMsg) .jointStateMsg mode =
      nodeHolding jointParams communication mode := by
  funext lock
  cases lock <;> rfl

theorem nodeHolding_jointParams (mode : Option LockMode) :
    Function.update (nodeHolding jointParams communication jointStateMsg) .jointParams mode =
      nodeHolding mode communication jointStateMsg := by
  funext lock
  cases lock <;> rfl

theorem nodeHolding_nothing : nodeHolding none none none = Holding.nothing := by
  funext lock
  cases lock <;> rfl

end Holding

/-- No path of the executor holds the mutex of the joint parameters. -/
def Surroundings.scriptState (surroundings : Surroundings) : ScriptState where
  holding := nodeHolding none surroundings.communicationHold surroundings.jointStateMsgHold
  flags := threadFlags surroundings.commThreads

/-- The steps so far. -/
def lockScript (node : Node K) : List NodeStep := node.log.filterMap NodeEvent.lockStep

/-- The path from one node to the other is a script whose every step is allowed. -/
def Scripted (before after : Node K) : Prop :=
  ∃ steps, after.lockScript = before.lockScript ++ steps ∧
    Replays ScriptState.Allows ScriptState.after before.surroundings.scriptState steps
      after.surroundings.scriptState

variable {base node after : Node K}

theorem scripted_self : Scripted base base := ⟨[], (List.append_nil _).symm, rfl⟩

theorem Scripted.append {steps : List NodeStep} (scripted : Scripted base node)
    (script : after.lockScript = node.lockScript ++ steps)
    (replays : Replays ScriptState.Allows ScriptState.after node.surroundings.scriptState steps
      after.surroundings.scriptState) : Scripted base after := by
  obtain ⟨before, scriptBefore, replayed⟩ := scripted
  exact ⟨before ++ steps, by rw [script, scriptBefore, List.append_assoc], replayed.append replays⟩

theorem Scripted.unscripted (scripted : Scripted base node)
    (script : after.lockScript = node.lockScript)
    (same : after.surroundings.scriptState = node.surroundings.scriptState) : Scripted base after :=
  scripted.append (script.trans (List.append_nil _).symm) same.symm

theorem lockScript_recorded (node : Node K) (event : NodeEvent) :
    (node.recorded event).lockScript = node.lockScript ++ event.lockStep.toList := by
  rw [lockScript, recorded, List.filterMap_append]
  cases told : event.lockStep <;> simp [lockScript, told]

/-- The timers, the subscription and the handle that exist while the node is configured. -/
structure Amenities where
  publishTimer : Bool
  jointCmdSub : Bool
  onSetParametersHandle : Bool
  supervisorTimer : Bool
deriving DecidableEq, Repr

def amenities (node : Node K) : Amenities where
  publishTimer := node.publishTimer
  jointCmdSub := node.jointCmdSub
  onSetParametersHandle := node.onSetParametersHandle
  supervisorTimer := node.supervisorTimer

/-- What a path behind the scenes leaves alone. -/
structure Scene where
  surroundings : Surroundings
  amenities : Amenities
  script : List NodeStep

def scene (node : Node K) : Scene where
  surroundings := node.surroundings
  amenities := node.amenities
  script := node.lockScript

/-- The path takes no step, and leaves mutexes, threads, lifecycle and timers alone. -/
abbrev Offstage {α : Type} (path : NodePath K α) : Prop := Path.Preserves scene path

theorem recorded_offstage (node : Node K) {event : NodeEvent} (silent : event.lockStep = none) :
    (node.recorded event).scene = node.scene := by
  have other : event.isJoin = false := by
    cases event <;> first | rfl | cases silent
  have script := lockScript_recorded node event
  rw [silent, Option.toList_none, List.append_nil] at script
  rw [scene, recorded_surroundings node other, script]
  rfl

section Offstage

theorem canInterface_offstage : Offstage (canInterface index : NodePath K (CubemarsCan K)) :=
  Path.Evolves.bind (Path.Evolves.update fun node => recorded_offstage node rfl) fun _ =>
    Path.Evolves.element _

theorem jointParameters_offstage :
    Offstage (jointParameters index joint : NodePath K (JointParameters K)) := Path.Evolves.element _

theorem nameJoint_offstage : Offstage (nameJoint index joint : NodePath K Unit) := by
  refine Path.Evolves.bind jointParameters_offstage fun _ => ?_
  refine Path.Evolves.bind (Path.Evolves.bind canInterface_offstage fun can => ?_) fun _ =>
    Path.Evolves.pure _
  split
  · exact Path.Evolves.pure _
  · exact Path.Evolves.throw _

theorem jointCount_offstage : Offstage (jointCount index : NodePath K Nat) :=
  Path.Evolves.bind (Path.Evolves.element _) fun _ => Path.Evolves.pure _

theorem handshake_offstage (step : HandshakeStep) :
    Offstage (handshake index step : NodePath K Unit) := by
  intro node
  cases found : node.canInterfaces[index]?.join with
  | none =>
      simp only [handshake, found]
      exact recorded_offstage node rfl
  | some can =>
      rw [handshake_run step found]
      exact recorded_offstage node rfl

theorem clearInterfaces_offstage : Offstage (clearInterfaces : NodePath K Unit) :=
  Path.Evolves.update fun node => recorded_offstage node rfl

theorem respond_offstage (success : Bool) (message : String) :
    Offstage (respond success message : NodePath K Unit) := Path.Evolves.update fun _ => rfl

theorem disableMotors_offstage : Offstage (disableMotors index : NodePath K Unit) :=
  Path.Evolves.bind (Path.Evolves.element _) fun _ => Path.Evolves.loopBelow fun _ =>
    Path.Evolves.tryCatch (handshake_offstage _) fun _ =>
      Path.Evolves.bind jointParameters_offstage fun _ =>
        Path.Evolves.bind canInterface_offstage fun _ => Path.Evolves.pure _

theorem setMotorOrigins_offstage : Offstage (setMotorOrigins index : NodePath K Unit) := by
  refine Path.Evolves.bind jointCount_offstage fun _ => Path.Evolves.loopBelow fun _ => ?_
  refine Path.Evolves.bind nameJoint_offstage fun _ => ?_
  refine Path.Evolves.bind (handshake_offstage _) fun _ => ?_
  refine Path.Evolves.bind nameJoint_offstage fun _ => ?_
  exact Path.Evolves.bind (handshake_offstage _) fun _ => nameJoint_offstage

theorem restartMotors_offstage {target : Nat} :
    Offstage (restartMotors index target : NodePath K Unit) := by
  refine Path.Evolves.bind jointCount_offstage fun _ => ?_
  refine Path.Evolves.bind (Path.Evolves.loopBelow fun _ => Path.Evolves.bind nameJoint_offstage
    fun _ => handshake_offstage _) fun _ => Path.Evolves.loopBelow fun _ => ?_
  refine Path.Evolves.bind (Path.Evolves.when fun _ => nameJoint_offstage) fun _ => ?_
  exact Path.Evolves.bind (handshake_offstage _) fun _ => nameJoint_offstage

theorem disableAll_offstage : Offstage (disableAll : NodePath K Unit) :=
  Path.Evolves.bind (Path.Evolves.loopBelow fun _ => handshake_offstage _) fun _ =>
    clearInterfaces_offstage

theorem disableAllAndOneMore_offstage : Offstage (disableAllAndOneMore : NodePath K Unit) :=
  Path.Evolves.bind (Path.Evolves.loopBelow fun _ => handshake_offstage _) fun _ =>
    clearInterfaces_offstage

section Configuration

variable [Scalar K] {assignment : Assignment K} {configs : JointConfigs K}

omit [Scalar K] in
theorem checked_offstage {α : Type} (result : Checked α) :
    Offstage (checked result : NodePath K α) := checked_evolves result

omit [Scalar K] in
theorem readGlobals_offstage : Offstage (readGlobals assignment) :=
  readGlobals_evolves (fun _ _ _ _ _ => rfl) fun _ _ _ _ => rfl

theorem buildTables_offstage {defaults : String → Nat} {names : List String} (rest : List String) :
    Offstage (buildTables assignment defaults names rest configs) :=
  buildTables_evolves (fun _ _ _ _ => rfl) rest

omit [Scalar K] in
theorem createInterfaces_offstage {bus : Bus} (items : List (String × Nat)) :
    Offstage (createInterfaces assignment bus configs items) :=
  createInterfaces_evolves (fun _ _ => rfl) items

omit [Scalar K] in
theorem createTimer_offstage (frequency : Int) : Offstage (createTimer frequency : NodePath K Unit) :=
  createTimer_evolves frequency

omit [Scalar K] in
theorem nameConfig_offstage : Offstage (nameConfig configs index joint : NodePath K Unit) :=
  Path.Evolves.bind canInterface_offstage fun _ =>
    Path.Evolves.bind (Path.Evolves.element _) fun _ => Path.Evolves.pure _

omit [Scalar K] in
theorem enableMotor_offstage : Offstage (enableMotor configs index joint) := by
  refine Path.Evolves.bind jointParameters_offstage fun _ => ?_
  refine Path.Evolves.bind (Path.Evolves.attempt (Path.Evolves.bind (handshake_offstage _) fun _ =>
    nameConfig_offstage)) fun result => ?_
  cases result <;> exact Path.Evolves.pure _

omit [Scalar K] in
theorem enableMotors_offstage : Offstage (enableMotors configs) :=
  Path.Evolves.bind (Path.Evolves.read _) fun _ => anyFailed_evolves (fun _ =>
    Path.Evolves.bind jointCount_offstage fun _ =>
      anyFailed_evolves (fun _ => enableMotor_offstage) _) _

omit [Scalar K] in
theorem disableAfterFailure_offstage : Offstage (disableAfterFailure configs index) :=
  Path.Evolves.bind jointCount_offstage fun _ => Path.Evolves.loopBelow fun _ =>
    Path.Evolves.tryCatch (handshake_offstage _) fun _ => nameConfig_offstage

theorem onSetParametersCallback_offstage [StdToString K]
    (order : IterationOrder (String × PerJointUpdate K)) (batch : List (Parameter K)) :
    Offstage (onSetParametersCallback order batch) :=
  onSetParametersCallback_evolves (fun _ _ => rfl) (fun _ _ _ _ _ _ => rfl) order batch

end Configuration

end Offstage

end Node

end CubemarsDriver

import CubemarsDriver.Foundation.Interleaving
import CubemarsDriver.Node.CycleRules
import CubemarsDriver.Node.Origin

namespace CubemarsDriver.Node

open Foundation Can

/-! # Operations of a running node

The node moves by the callbacks of the executor and the cycles of the comm
threads, one after the other. -/

variable {K : Type}

/-- The clocks as a cycle reads them. -/
structure CycleTimes where
  currentTime : Int := 0
  entryNs : Int := 0
  endNs : Int := 0

/-- A cycle that no other thread interferes with. -/
def CycleTimes.env (times : CycleTimes) : CycleEnv where
  currentTime := times.currentTime
  entryNs := times.entryNs
  endNs := times.endNs

inductive Operation (K : Type) where
  | configure (assignment : Assignment K) (bus : Bus) (now : Int)
  | cleanup
  | activate
  | deactivate
  | shutdown
  | jointCmd (command : JointCommand K) (cmdRxNs now : Int)
  | watchdogTimer
  | supervisorTimer
  | canCycle (canInterface : Nat) (times : CycleTimes)
  | setAllMotorsOriginHere
  | setMotorOriginHere (motorId : Int)
  | setParameters (order : IterationOrder (String × PerJointUpdate K)) (batch : List (Parameter K))

section Paths

variable [Scalar K]

/-- A shutdown is possible from every primary state but the last. -/
def shutdown : NodePath K Unit := do
  let lifecycle ← Path.read Node.lifecycle
  Path.when (lifecycle = .unconfigured ∨ lifecycle = .inactive ∨ lifecycle = .active)
    (transition lifecycle .finalized (onShutdown lifecycle))

variable [StdToString K] [Libm K]

def Operation.path : Operation K → NodePath K Unit
  | .configure assignment bus now => Node.configure assignment bus now
  | .cleanup => Node.cleanup
  | .activate => Node.activate
  | .deactivate => Node.deactivate
  | .shutdown => Node.shutdown
  | .jointCmd command cmdRxNs now => do let _ ← jointCmdMsgCallback command cmdRxNs now
  | .watchdogTimer => watchdogTimerCallback
  | .supervisorTimer => supervisorCallback
  | .canCycle canInterface times => do let _ ← canCycleCallback canInterface times.env
  | .setAllMotorsOriginHere => setAllMotorsOriginHereCallback
  | .setMotorOriginHere motorId => setMotorOriginHereCallback motorId
  | .setParameters order batch => do let _ ← onSetParametersCallback order batch

end Paths

/-- A callback runs only while what invokes it exists. -/
def Operation.enabled (node : Node K) : Operation K → Bool
  | .jointCmd .. => node.jointCmdSub
  | .watchdogTimer => node.watchdogTimer
  | .supervisorTimer => node.supervisorTimer
  | .canCycle canInterface _ => node.commThreads[canInterface]?.any CommThread.running
  | .setParameters .. => node.onSetParametersHandle
  | _ => true

/-- The node after an operation, if the operation ends well. -/
def operate [Scalar K] [StdToString K] [Libm K] (node : Node K) (operation : Operation K) :
    Option (Node K) :=
  if operation.enabled node then
    match operation.path.run node with
    | (.returned _, after) => some after
    | _ => none
  else none

/-- The state of a constructed node.  What has no initial value is left open. -/
structure Constructed (node : Node K) : Prop where
  lifecycle : node.lifecycle = .unconfigured
  declaredMsgIdxs : node.declaredMsgIdxs = []
  jointCmdPtr : node.jointCmdPtr = none
  tables : node.tables = {}
  interfaces : node.interfaces = {}
  messages : node.messages = {}
  canInterfaces : node.canInterfaces = []
  commThreads : node.commThreads = []
  cleanupRequested : node.cleanupRequested = false
  watchdogTimer : node.watchdogTimer = false
  supervisorTimer : node.supervisorTimer = false
  jointCmdSub : node.jointCmdSub = false
  onSetParametersHandle : node.onSetParametersHandle = false
  canCommunicationMutex : node.canCommunicationMutex.hold = none
  jointStateMsgMutex : node.jointStateMsgMutex.hold = none
  log : node.log = []

theorem freshNode_constructed : Constructed freshNode := by
  constructor <;> rfl

section Operate

variable [Scalar K] [StdToString K] [Libm K] {node after : Node K} {operation : Operation K}

theorem operate_some : operate node operation = some after ↔
    operation.enabled node = true ∧ operation.path.run node = (.returned (), after) := by
  rw [operate]
  split
  · rename_i enabled
    cases run : operation.path.run node with
    | mk outcome reached => cases outcome <;> simp [enabled]
  · rename_i disabled
    simp [disabled]

end Operate

section Transitions

variable {start goal : Lifecycle} {callback : NodePath K CallbackReturn} {node middle after : Node K}
variable {result : CallbackReturn}

/-- The state an error leads to. -/
def lifecycleAfterError : CallbackReturn → Lifecycle
  | .success => .unconfigured
  | _ => .finalized

theorem settle_returned (run : (settle start goal result).run middle = (.returned (), after)) :
    match result with
    | .success => after = { middle with lifecycle := goal }
    | .failure => after = { middle with lifecycle := start }
    | .error => ∃ handled errored, (onError start).run middle = (.returned handled, errored) ∧
        after = { errored with lifecycle := lifecycleAfterError handled } := by
  cases result with
  | success =>
      cases run
      rfl
  | failure =>
      cases run
      rfl
  | error =>
      rw [settle, Path.bind_run_returned] at run
      obtain ⟨handled, errored, errorRun, settled⟩ := run
      refine ⟨handled, errored, errorRun, ?_⟩
      cases handled <;> cases settled <;> rfl

/-- A transition is refused, or its callback returns or throws and the lifecycle settles. -/
theorem transition_returned (run : (transition start goal callback).run node = (.returned (), after)) :
    node.lifecycle ≠ start ∧ after = node ∨ node.lifecycle = start ∧ ∃ result middle,
      (Path.tryCatch callback fun _ => pure .error).run { node with lifecycle := .inTransition } =
        (.returned result, middle) ∧
      (settle start goal result).run middle = (.returned (), after) := by
  rw [transition, Path.read_bind] at run
  by_cases possible : node.lifecycle = start
  · rw [Path.when, if_pos possible, setLifecycle, Path.update_bind, Path.bind_run_returned] at run
    exact .inr ⟨possible, run⟩
  · rw [Path.when, if_neg possible, Path.pure_run] at run
    cases run
    exact .inl ⟨possible, rfl⟩

/-- The flags stay as they are, and the node does not become active. -/
def Quiet (before after : Node K) : Prop :=
  after.gate = { before.gate with lifecycle := after.lifecycle } ∧
    (after.lifecycle = before.lifecycle ∨ after.lifecycle ≠ .active)

instance instIsPreorderQuiet : IsPreorder (Node K) Quiet where
  refl _ := ⟨rfl, .inl rfl⟩
  trans before middle after := by
    rintro ⟨first, ends⟩ ⟨second, endsAfter⟩
    refine ⟨by rw [second, first], ?_⟩
    rcases endsAfter with same | passive
    · rw [same]
      exact ends
    · exact .inr passive

theorem Passive.quiet {α : Type} {path : NodePath K α} (passive : Passive path) :
    Path.Evolves Quiet path := by
  refine passive.weaken fun before after same => ?_
  have gate : after.gate = before.gate := same
  have lifecycle : after.lifecycle = before.lifecycle := congrArg Gate.lifecycle gate
  exact ⟨by rw [gate, lifecycle]; rfl, .inl lifecycle⟩

theorem setLifecycle_quiet {lifecycle : Lifecycle} (passive : lifecycle ≠ .active) :
    Path.Evolves Quiet (setLifecycle lifecycle : NodePath K Unit) :=
  Path.Evolves.update fun _ => ⟨rfl, .inr passive⟩

theorem transition_quiet (fromPassive : start ≠ .active) (toPassive : goal ≠ .active)
    (quiet : Path.Evolves Quiet callback) : Path.Evolves Quiet (transition start goal callback) := by
  refine Path.Evolves.bind (Path.Evolves.read _) fun _ => Path.Evolves.when fun _ => ?_
  refine Path.Evolves.bind (setLifecycle_quiet nofun) fun _ => ?_
  refine Path.Evolves.bind (Path.Evolves.tryCatch quiet fun _ => Path.Evolves.pure _) fun result => ?_
  cases result with
  | success => exact setLifecycle_quiet toPassive
  | failure => exact setLifecycle_quiet fromPassive
  | error =>
      refine Path.Evolves.bind (onError_passive start).quiet fun handled => ?_
      cases handled <;> exact setLifecycle_quiet nofun

theorem cleanup_quiet : Path.Evolves Quiet (cleanup : NodePath K Unit) :=
  transition_quiet nofun nofun onCleanup_passive.quiet

end Transitions

/-- The node after an activation that has not been refused. -/
def activated (node : Node K) : Node K :=
  if 0 < node.watchdogFrequency then { node with lifecycle := .active, watchdogTimer := true }
  else { node with lifecycle := .finalized }

theorem onActivate_run (received : node.msgReceived = true) : onActivate.run node =
    if 0 < node.watchdogFrequency then (.returned .success, { node with watchdogTimer := true })
    else (.thrown .invalidArgument, node) := by
  rw [onActivate, Path.read_bind, if_pos received, Path.read_bind, Path.bind_run, createTimer_run]
  by_cases positive : 0 < node.watchdogFrequency
  · rw [if_pos positive, if_pos positive]
    rfl
  · rw [if_neg positive, if_neg positive]

theorem activate_run (node : Node K) : activate.run node = (.returned (),
    if node.lifecycle = .inactive ∧ node.msgReceived = true then node.activated else node) := by
  by_cases inactive : node.lifecycle = .inactive
  · cases received : node.msgReceived with
    | false =>
        cases node
        simp_all [activate, transition, Path.when, setLifecycle, onActivate, settle, Path.bind_run,
          Path.tryCatch, Path.attempt]
    | true =>
        let moving : Node K := { node with lifecycle := .inTransition }
        have called := onActivate_run (show moving.msgReceived = true from received)
        rw [activate, transition, Path.read_bind, Path.when, if_pos inactive, setLifecycle,
          Path.update_bind, if_pos ⟨inactive, rfl⟩, activated]
        by_cases positive : 0 < node.watchdogFrequency
        · rw [if_pos positive] at called
          rw [Path.bind_returned (Path.tryCatch_returned called), if_pos positive]
          rfl
        · rw [if_neg positive] at called
          rw [Path.bind_returned (Path.tryCatch_thrown called), if_neg positive]
          rfl
  · simp [activate, transition, Path.when, inactive]

section Deactivation

variable [Scalar K]

/-- The node after a deactivation. -/
def deactivated (node : Node K) : Node K :=
  { node.storeDamping with lifecycle := .inactive, watchdogTimer := false, msgReceived := false }

theorem deactivate_run (node : Node K) : deactivate.run node = (.returned (),
    if node.lifecycle = .active then node.deactivated else node) := by
  by_cases active : node.lifecycle = .active
  · simp [deactivate, transition, Path.when, setLifecycle, onDeactivate, settle, Path.bind_run,
      Path.tryCatch, Path.attempt, active, deactivated, storeDamping, dampingCommand]
  · simp [deactivate, transition, Path.when, active]

end Deactivation

section Origins

variable {index joint : Nat}

theorem handleOriginError_quiet : Path.Evolves Quiet (handleOriginError index : NodePath K Unit) := by
  refine Path.Evolves.bind canInterface_aside.passive.quiet fun _ => ?_
  refine Path.Evolves.bind (Path.Evolves.tryCatch disableAllAndOneMore_aside.passive.quiet fun _ =>
    Path.Evolves.bind canInterface_aside.passive.quiet fun _ => Path.Evolves.pure _) fun _ => ?_
  refine Path.Evolves.bind unlockCommunication_passive.quiet fun _ => ?_
  exact Path.Evolves.bind (respond_aside _ _).passive.quiet fun _ => cleanup_quiet

theorem setAllMotorsOriginHereCallback_quiet :
    Path.Evolves Quiet (setAllMotorsOriginHereCallback : NodePath K Unit) := by
  refine Path.Evolves.bind (Path.Evolves.read _) fun _ => Path.Evolves.ite (fun _ => ?_) fun _ => ?_
  · exact (respond_aside _ _).passive.quiet
  · refine Path.Evolves.bind stopAllCommThreads_passive.quiet fun _ => ?_
    refine Path.Evolves.bind lockCommunication_passive.quiet fun _ => ?_
    refine Path.Evolves.bind (Path.Evolves.loopBelow fun _ => ?_) fun _ => ?_
    · exact Path.Evolves.tryCatch setMotorOrigins_aside.passive.quiet fun _ => handleOriginError_quiet
    · refine Path.Evolves.bind (Path.Evolves.loopBelow fun _ => startCommThread_passive.quiet)
        fun _ => ?_
      exact Path.Evolves.bind (respond_aside _ _).passive.quiet fun _ => unlockCommunication_passive.quiet

theorem setMotorOriginHereCallback_quiet (motorId : Int) :
    Path.Evolves Quiet (setMotorOriginHereCallback motorId : NodePath K Unit) := by
  refine Path.Evolves.bind (Path.Evolves.read _) fun _ => Path.Evolves.ite (fun _ => ?_) fun _ => ?_
  · exact (respond_aside _ _).passive.quiet
  refine Path.Evolves.bind (Path.Evolves.read _) fun found => ?_
  rcases found with _ | ⟨index, target⟩
  · exact (respond_aside _ _).passive.quiet
  refine Path.Evolves.bind stopCommThread_passive.quiet fun _ => ?_
  refine Path.Evolves.bind lockCommunication_passive.quiet fun _ => ?_
  refine Path.Evolves.bind (Path.Evolves.attempt restartMotors_aside.passive.quiet) fun restarted => ?_
  cases restarted with
  | error exception =>
      refine Path.Evolves.bind canInterface_aside.passive.quiet fun _ => ?_
      refine Path.Evolves.bind (Path.Evolves.tryCatch disableAll_aside.passive.quiet fun _ =>
        Path.Evolves.pure _) fun _ => ?_
      refine Path.Evolves.bind unlockCommunication_passive.quiet fun _ => ?_
      exact Path.Evolves.bind (respond_aside _ _).passive.quiet fun _ => cleanup_quiet
  | ok value =>
      refine Path.Evolves.bind startCommThread_passive.quiet fun _ => ?_
      refine Path.Evolves.bind jointParameters_aside.passive.quiet fun _ => ?_
      exact Path.Evolves.bind (respond_aside _ _).passive.quiet fun _ => unlockCommunication_passive.quiet

end Origins

section Effects

variable [Scalar K] {node after : Node K}

/-- A node that leaves this state for one in which it is not active, with the flags it had. -/
def Gate.Leaves (start : Lifecycle) (before after : Gate) : Prop :=
  after = before ∨ before.lifecycle = start ∧ after.lifecycle ≠ .active ∧
    after = { before with lifecycle := after.lifecycle }

def Gate.activated (gate : Gate) (watchdogFrequency : Int) : Gate :=
  if gate.lifecycle = .inactive ∧ gate.msgReceived = true then
    if 0 < watchdogFrequency then { gate with lifecycle := .active, watchdogTimer := true }
    else { gate with lifecycle := .finalized }
  else gate

def Gate.deactivated (gate : Gate) : Gate :=
  if gate.lifecycle = .active then
    { gate with lifecycle := .inactive, watchdogTimer := false, msgReceived := false }
  else gate

/-- The flags after an operation, as far as they are determined. -/
def Operation.Changes (node : Node K) (after : Gate) : Operation K → Prop
  | .configure .. => node.gate.Leaves .unconfigured after
  | .cleanup => node.gate.Leaves .inactive after
  | .activate => after = node.gate.activated node.watchdogFrequency
  | .deactivate => after = node.gate.deactivated
  | .shutdown => after = node.gate ∨ after.lifecycle = .finalized ∨ after.lifecycle = .unconfigured
  | .jointCmd command _ _ => after = { node.gate with
      msgReceived := node.msgReceived || decide (command.Sized node.jointMsgLength) }
  | .watchdogTimer => after = { (if node.msgReceived then node.gate else node.gate.deactivated) with
      msgReceived := false }
  | .supervisorTimer => Gate.Leaves .inactive { node.gate with cleanupRequested := false } after
  | .canCycle .. => { after with cleanupRequested := node.cleanupRequested } = node.gate ∨
      node.lifecycle = .active ∧
        { after with cleanupRequested := node.cleanupRequested } = node.gate.deactivated
  | .setAllMotorsOriginHere => node.gate.Leaves .inactive after
  | .setMotorOriginHere _ => node.gate.Leaves .inactive after
  | .setParameters .. => after = node.gate

omit [Scalar K] in
theorem activate_gate (run : activate.run node = (.returned (), after)) :
    after.gate = node.gate.activated node.watchdogFrequency := by
  rw [activate_run, Prod.mk.injEq] at run
  rw [← run.2, apply_ite gate, activated, apply_ite gate]
  rfl

theorem deactivate_gate (run : deactivate.run node = (.returned (), after)) :
    after.gate = node.gate.deactivated := by
  rw [deactivate_run, Prod.mk.injEq] at run
  rw [← run.2, apply_ite gate]
  rfl

omit [Scalar K] in
theorem Quiet.leaves {start : Lifecycle} (quiet : Quiet node after) (started : node.lifecycle = start)
    (passive : start ≠ .active) : node.gate.Leaves start after.gate := by
  obtain ⟨same, ends⟩ := quiet
  refine .inr ⟨started, ?_, same⟩
  rcases ends with unmoved | ended
  · exact fun active => passive (started ▸ unmoved ▸ active)
  · exact ended

omit [Scalar K] in
theorem transition_leaves {start goal : Lifecycle} {callback : NodePath K CallbackReturn}
    (fromPassive : start ≠ .active) (toPassive : goal ≠ .active) (passive : Passive callback)
    (run : (transition start goal callback).run node = (.returned (), after)) :
    node.gate.Leaves start after.gate := by
  obtain ⟨_, rfl⟩ | ⟨started, _⟩ := transition_returned run
  · exact .inl rfl
  · exact Quiet.leaves ((transition_quiet fromPassive toPassive passive.quiet).of_run run) started
      fromPassive

omit [Scalar K] in
theorem shutdown_settles [Scalar K] (run : shutdown.run node = (.returned (), after)) :
    after = node ∨ after.lifecycle = .finalized ∨ after.lifecycle = .unconfigured := by
  rw [shutdown, Path.read_bind, Path.when] at run
  split at run
  · obtain ⟨_, rfl⟩ | ⟨_, result, middle, callbackRun, settled⟩ := transition_returned run
    · exact .inl rfl
    have ending := settle_returned settled
    cases result with
    | success =>
        rw [ending]
        exact .inr (.inl rfl)
    | failure =>
        -- the callback itself always reports a success
        rw [Path.tryCatch_run_returned] at callbackRun
        obtain returned | ⟨_, _, _, handled⟩ := callbackRun
        · simp only [onShutdown, Path.bind_run_returned] at returned
          obtain ⟨_, _, _, _, _, _, impossible⟩ := returned
          cases impossible
        · cases handled
    | error =>
        obtain ⟨handled, errored, _, rfl⟩ := ending
        cases handled with
        | success => exact .inr (.inr rfl)
        | failure => exact .inr (.inl rfl)
        | error => exact .inr (.inl rfl)
  · cases run
    exact .inl rfl

/-- What a cycle does to the flags while no other thread moves. -/
def Cycled (before after : Node K) : Prop :=
  { after.gate with cleanupRequested := before.cleanupRequested } = before.gate ∨
    before.lifecycle = .active ∧
      { after.gate with cleanupRequested := before.cleanupRequested } = before.gate.deactivated

instance instIsPreorderCycled : IsPreorder (Node K) Cycled where
  refl _ := .inl rfl
  trans before middle after := by
    simp only [Cycled, Gate.deactivated, gate, Gate.mk.injEq]
    grind

omit [Scalar K] in
theorem Cycled.of_gate {before after : Node K} (same : after.gate = before.gate) :
    Cycled before after := .inl (by rw [same]; rfl)

theorem deactivate_cycled : Path.Evolves Cycled (deactivate : NodePath K Unit) := by
  intro node
  by_cases active : node.lifecycle = .active
  · refine .inr ⟨active, ?_⟩
    rw [← deactivate_gate (deactivate_run node), deactivate_run]
    simp only [if_pos active]
    rfl
  · rw [deactivate_run, if_neg active]
    exact .inl rfl

theorem cycled (start : Node K) (index : Nat) (times : CycleTimes) :
    CycleRules (Cycled start) (fun _ _ _ => True) index times.env where
  work _ _ same := ⟨fun reached => trans_of Cycled reached
    (Cycled.of_gate (congrArg (fun still => still.surroundings.gate) same)), fun _ _ _ => trivial⟩
  lockCommunication _ := .of_evolves (lockCommunication_passive.weaken fun _ _ => Cycled.of_gate)
  unlockCommunication _ := .of_evolves (unlockCommunication_passive.weaken fun _ _ => Cycled.of_gate)
  lockJointStateMsg _ := .of_evolves (lockJointStateMsg_passive.weaken fun _ _ => Cycled.of_gate)
  unlockJointStateMsg _ := .of_evolves (unlockJointStateMsg_passive.weaken fun _ _ => Cycled.of_gate)
  observeLifecycle _ _ := .of_evolves (Path.Evolves.bind (Path.Evolves.update fun _ => .inl rfl)
    fun _ => Path.Evolves.read _)
  observeRunning _ _ := .of_evolves (Path.Evolves.bind (Path.Evolves.update fun _ => .inl rfl)
    fun _ => Path.Evolves.bind (Path.Evolves.element _) fun _ => Path.Evolves.pure _)
  deactivate := .of_evolves deactivate_cycled
  request _ _ reached _ := ⟨trans_of Cycled reached (.inl rfl), trivial⟩

theorem jointCmd_gate {command : JointCommand K} {cmdRxNs now : Int} {published : Option K}
    (run : (jointCmdMsgCallback command cmdRxNs now).run node = (.returned published, after)) :
    after.gate = { node.gate with
      msgReceived := node.msgReceived || decide (command.Sized node.jointMsgLength) } := by
  rw [jointCmdMsgCallback, Path.read_bind] at run
  split at run <;> rename_i sized
  · rw [Path.update_bind, Path.read_bind, Path.when] at run
    simp only [sized, decide_true, Bool.or_true]
    split at run
    · cases run
      rfl
    · cases run
      rfl
  · cases run
    simp [sized, gate]

theorem watchdogTimer_gate (run : watchdogTimerCallback.run node = (.returned (), after)) :
    after.gate = { (if node.msgReceived then node.gate else node.gate.deactivated) with
      msgReceived := false } := by
  rw [watchdogTimerCallback, Path.read_bind, Path.when] at run
  cases received : node.msgReceived with
  | true =>
      rw [received] at run
      cases run
      rfl
  | false =>
      rw [received, if_pos rfl, Path.bind_run_returned] at run
      obtain ⟨_, middle, deactivation, rest⟩ := run
      cases rest
      rw [if_neg Bool.false_ne_true, ← deactivate_gate deactivation]
      rfl

omit [Scalar K] in
theorem supervisorTimer_gate (run : supervisorCallback.run node = (.returned (), after)) :
    Gate.Leaves .inactive { node.gate with cleanupRequested := false } after.gate := by
  rw [supervisorCallback, Path.read_bind, Path.update_bind, Path.when] at run
  split at run
  · exact transition_leaves (by decide) (by decide) onCleanup_passive run
  · cases run
    exact .inl rfl

omit [Scalar K] in
theorem setAllMotorsOriginHere_gate
    (run : setAllMotorsOriginHereCallback.run node = (.returned (), after)) :
    node.gate.Leaves .inactive after.gate := by
  by_cases inactive : node.lifecycle = .inactive
  · exact Quiet.leaves (setAllMotorsOriginHereCallback_quiet.of_run run) inactive (by decide)
  · rw [setAllMotorsOriginHereCallback, Path.read_bind, if_pos inactive] at run
    cases run
    exact .inl rfl

omit [Scalar K] in
theorem setMotorOriginHere_gate {motorId : Int}
    (run : (setMotorOriginHereCallback motorId).run node = (.returned (), after)) :
    node.gate.Leaves .inactive after.gate := by
  by_cases inactive : node.lifecycle = .inactive
  · exact Quiet.leaves ((setMotorOriginHereCallback_quiet motorId).of_run run) inactive (by decide)
  · rw [setMotorOriginHereCallback, Path.read_bind, if_pos inactive] at run
    cases run
    exact .inl rfl

variable [StdToString K] [Libm K]

/-- What an operation that ends well does to the flags. -/
theorem Operation.changes {operation : Operation K}
    (run : operation.path.run node = (.returned (), after)) : operation.Changes node after.gate := by
  cases operation with
  | configure assignment bus now =>
      exact transition_leaves (by decide) (by decide) onConfigure_passive run
  | cleanup => exact transition_leaves (by decide) (by decide) onCleanup_passive run
  | activate => exact activate_gate run
  | deactivate => exact deactivate_gate run
  | shutdown => exact (shutdown_settles run).imp_left (congrArg gate)
  | jointCmd command cmdRxNs now =>
      obtain ⟨published, _, callback, ends⟩ := Path.bind_run_returned.mp run
      cases ends
      exact jointCmd_gate callback
  | watchdogTimer => exact watchdogTimer_gate run
  | supervisorTimer => exact supervisorTimer_gate run
  | canCycle canInterface times =>
      obtain ⟨exit, _, callback, ends⟩ := Path.bind_run_returned.mp run
      cases ends
      exact ((canCycleCallback_cycles (cycled node canInterface times)).of_returned
        (refl_of Cycled node) trivial callback).1
  | setAllMotorsOriginHere => exact setAllMotorsOriginHere_gate run
  | setMotorOriginHere motorId => exact setMotorOriginHere_gate run
  | setParameters order batch =>
      obtain ⟨result, _, callback, ends⟩ := Path.bind_run_returned.mp run
      cases ends
      exact (onSetParametersCallback_aside order batch).passive.of_run callback

end Effects

end CubemarsDriver.Node

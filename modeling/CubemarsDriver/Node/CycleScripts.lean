import CubemarsDriver.Node.ExecutorScripts

namespace CubemarsDriver.Node

open Foundation Can

/-! # The scripts of the comm threads

A cycle holds the mutex of the joint parameters all the time, takes the other two in order and
gives both back before it returns.  It waits for no thread. -/

variable {K : Type} {index joint : Nat} {mode : LockMode}

/-- How the node's two mutexes are held. -/
def holds (node : Node K) : Option LockMode × Option LockMode :=
  (node.canCommunicationMutex.hold, node.jointStateMsgMutex.hold)

/-- The cycle so far is a script that only takes and gives back mutexes, whether or not the mutex
of the joint parameters is held.  It leaves the timers alone. -/
structure CycleScripted (base node : Node K) : Prop where
  script : ∃ steps, node.lockScript = base.lockScript ++ steps ∧
    (∀ jointParams, ScriptInOrder NodeLock.rank (nodeHolding jointParams none none) steps
      (nodeHolding jointParams node.holds.1 node.holds.2)) ∧
    ∀ step ∈ steps, step.isLock = true
  amenities : node.amenities = base.amenities

variable {base node after : Node K} {communication jointStateMsg : Option LockMode}

abbrev CarriesCycle {α : Type} (base : Node K) (before : Option LockMode × Option LockMode)
    (path : NodePath K α) (final : Option LockMode × Option LockMode) : Prop :=
  Path.Confines (CycleScripted base) (fun node => node.holds = before) path
    (fun _ node => node.holds = final) fun _ => True

theorem cycleScripted_self (free : base.holds = (none, none)) : CycleScripted base base where
  script := ⟨[], (List.append_nil _).symm, fun jointParams => by rw [free]; rfl, nofun⟩
  amenities := rfl

theorem CycleScripted.step {action : NodeStep} (scripted : CycleScripted base node)
    (amenities : after.amenities = node.amenities)
    (script : after.lockScript = node.lockScript ++ [action])
    (isLock : action.isLock = true)
    (inOrder : ∀ jointParams,
      action.InOrder NodeLock.rank (nodeHolding jointParams node.holds.1 node.holds.2))
    (leads : ∀ jointParams, action.holdingAfter (nodeHolding jointParams node.holds.1 node.holds.2) =
      nodeHolding jointParams after.holds.1 after.holds.2) : CycleScripted base after := by
  obtain ⟨⟨steps, before, ordered, locks⟩, kept⟩ := scripted
  have last (jointParams : Option LockMode) : ScriptInOrder NodeLock.rank
      (nodeHolding jointParams node.holds.1 node.holds.2) [action]
      (nodeHolding jointParams after.holds.1 after.holds.2) :=
    ⟨inOrder jointParams, leads jointParams⟩
  refine ⟨⟨steps ++ [action], by rw [script, before, List.append_assoc],
    fun jointParams => Replays.append (ordered jointParams) (last jointParams), fun step member => ?_⟩,
    amenities.trans kept⟩
  rcases List.mem_append.mp member with earlier | new
  · exact locks step earlier
  · rw [List.mem_singleton.mp new]
    exact isLock

theorem lockCommunication_cycle : CarriesCycle base (none, none)
    (lockCommunication mode : NodePath K Unit) (some mode, none) := by
  refine Path.Confines.updateDefined fun node after scripted free taken => ?_
  obtain ⟨mutex, acquired, rfl⟩ := Option.map_eq_some_iff.mp taken
  have held := Mutex.hold_of_acquire acquired
  have ends : ({ node.recorded (.communicationLocked mode) with canCommunicationMutex := mutex } :
      Node K).holds = (some mode, none) := Prod.ext held (Prod.mk.inj free).2
  refine ⟨scripted.step rfl (lockScript_recorded node (.communicationLocked mode)) rfl ?_ ?_, ends⟩
  · intro jointParams other holds
    rw [free] at holds
    cases other with
    | jointParams => decide
    | canCommunication => exact absurd rfl holds
    | jointStateMsg => exact absurd rfl holds
  · intro jointParams
    rw [ends, free]
    exact nodeHolding_communication _

theorem unlockCommunication_cycle : CarriesCycle base (communication, jointStateMsg)
    (unlockCommunication mode : NodePath K Unit) (none, jointStateMsg) := by
  refine Path.Confines.updateDefined fun node after scripted was given => ?_
  obtain ⟨mutex, released, rfl⟩ := Option.map_eq_some_iff.mp given
  have held := Mutex.held_of_release released
  have ends : ({ node.recorded (.communicationUnlocked mode) with canCommunicationMutex := mutex } :
      Node K).holds = (none, jointStateMsg) :=
    Prod.ext (Mutex.hold_of_release released) (Prod.mk.inj was).2
  refine ⟨scripted.step rfl (lockScript_recorded node (.communicationUnlocked mode)) rfl (fun _ => held) ?_, ends⟩
  intro jointParams
  rw [ends, was]
  exact nodeHolding_communication _

theorem lockJointStateMsg_cycle : CarriesCycle base (none, none)
    (lockJointStateMsg mode : NodePath K Unit) (none, some mode) := by
  refine Path.Confines.updateDefined fun node after scripted free taken => ?_
  obtain ⟨mutex, acquired, rfl⟩ := Option.map_eq_some_iff.mp taken
  have held := Mutex.hold_of_acquire acquired
  have ends : ({ node.recorded (.jointStateMsgLocked mode) with jointStateMsgMutex := mutex } :
      Node K).holds = (none, some mode) := Prod.ext (Prod.mk.inj free).1 held
  refine ⟨scripted.step rfl (lockScript_recorded node (.jointStateMsgLocked mode)) rfl ?_ ?_, ends⟩
  · intro jointParams other holds
    rw [free] at holds
    cases other with
    | jointParams => decide
    | canCommunication => exact absurd rfl holds
    | jointStateMsg => exact absurd rfl holds
  · intro jointParams
    rw [ends, free]
    exact nodeHolding_jointStateMsg _

theorem unlockJointStateMsg_cycle : CarriesCycle base (communication, jointStateMsg)
    (unlockJointStateMsg mode : NodePath K Unit) (communication, none) := by
  refine Path.Confines.updateDefined fun node after scripted was given => ?_
  obtain ⟨mutex, released, rfl⟩ := Option.map_eq_some_iff.mp given
  have held := Mutex.held_of_release released
  have ends : ({ node.recorded (.jointStateMsgUnlocked mode) with jointStateMsgMutex := mutex } :
      Node K).holds = (communication, none) :=
    Prod.ext (Prod.mk.inj was).1 (Mutex.hold_of_release released)
  refine ⟨scripted.step rfl (lockScript_recorded node (.jointStateMsgUnlocked mode)) rfl (fun _ => held) ?_, ends⟩
  intro jointParams
  rw [ends, was]
  exact nodeHolding_jointStateMsg _

/-- The path takes no step, and leaves mutexes and timers alone. -/
abbrev Lockless {α : Type} (path : NodePath K α) : Prop :=
  Path.Preserves (fun node : Node K => ((node.holds, node.amenities), node.lockScript)) path

theorem Lockless.carries {α : Type} {path : NodePath K α} (lockless : Lockless path)
    (held : Option LockMode × Option LockMode) : CarriesCycle base held path held := by
  refine (Path.Confines.of_preserves lockless (fun before after same scripted => ?_)
    fun before after same known => ?_).consequence (fun _ => id) (fun _ _ => id) fun _ _ => trivial
  · obtain ⟨kept, script⟩ := Prod.mk.inj same
    obtain ⟨holds, amenities⟩ := Prod.mk.inj kept
    exact ⟨by rw [holds, script]; exact scripted.script, amenities.trans scripted.amenities⟩
  · exact (congrArg (fun known => known.1.1) same).trans known

theorem Offstage.lockless {α : Type} {path : NodePath K α} (offstage : Offstage path) :
    Lockless path := offstage.weaken fun before after same => by
  have holds : after.holds = before.holds := congrArg (fun scene : Scene =>
    (scene.surroundings.communicationHold, scene.surroundings.jointStateMsgHold)) same
  exact Prod.ext (Prod.ext holds (congrArg Scene.amenities same)) (congrArg Scene.script same)

section Cycle

variable [Scalar K] {env : CycleEnv}

omit [Scalar K] in
theorem observeLifecycle_lockless (point : CyclePoint) :
    Lockless (observeLifecycle env point : NodePath K Lifecycle) :=
  Path.Evolves.bind (Path.Evolves.update fun _ => rfl) fun _ => Path.Evolves.read _

omit [Scalar K] in
theorem observeRunning_lockless (point : CyclePoint) :
    Lockless (observeRunning env point index : NodePath K Bool) :=
  Path.Evolves.bind (Path.Evolves.update fun _ => rfl) fun _ =>
    Path.Evolves.bind (Path.Evolves.element _) fun _ => Path.Evolves.pure _

theorem deactivate_lockless : Lockless (deactivate : NodePath K Unit) := by
  intro node
  rw [deactivate_run]
  split <;> rfl

theorem giveUp_lockless (point : CyclePoint) : Lockless (giveUp env point : NodePath K Unit) :=
  Path.Evolves.bind (observeLifecycle_lockless _) fun _ =>
    Path.Evolves.ite (fun _ => deactivate_lockless) fun _ => Path.Evolves.update fun _ => rfl

theorem checkStatus_lockless : Lockless (checkStatus env index joint : NodePath K Unit) := by
  refine Path.Evolves.bind (Path.Evolves.element _) fun state => ?_
  refine Path.Evolves.bind (Path.Evolves.when fun _ => ?_) fun _ =>
    Path.Evolves.when fun _ => nameJoint_offstage.lockless
  refine Path.Evolves.bind nameJoint_offstage.lockless fun _ => ?_
  refine Path.Evolves.bind (observeLifecycle_lockless _) fun _ => ?_
  refine Path.Evolves.bind (Path.Evolves.read _) fun _ => ?_
  exact Path.Evolves.when fun _ => deactivate_lockless

omit [Scalar K] in
theorem countErrors_lockless : Lockless (countErrors index : NodePath K Bool) := by
  refine Path.Evolves.bind (Path.Evolves.element _) fun rows => ?_
  refine Path.Evolves.bind (Path.Evolves.element _) fun counted => ?_
  refine Path.Evolves.bind (Path.Evolves.read _) fun limit => ?_
  refine Path.Evolves.ite (fun _ => ?_) fun _ => Path.Evolves.ite (fun _ => ?_) fun _ => ?_
  · exact Path.Evolves.bind (Path.Evolves.update fun _ => rfl) fun _ =>
      Path.Evolves.bind canInterface_offstage.lockless fun _ => Path.Evolves.pure _
  · exact Path.Evolves.bind canInterface_offstage.lockless fun _ => Path.Evolves.pure _
  · exact Path.Evolves.bind (Path.Evolves.update fun _ => rfl) fun _ => Path.Evolves.pure _

omit [Scalar K] in
theorem changeTables_lockless (change : JointTables K → Option (JointTables K)) :
    Lockless (changeTables change : NodePath K Unit) := Path.Evolves.updateFound fun _ _ => rfl

theorem startCycle_lockless : Lockless (startCycle index env : NodePath K K) :=
  Path.Evolves.bind (Path.Evolves.element _) fun _ =>
    Path.Evolves.bind (Path.Evolves.update fun _ => rfl) fun _ => Path.Evolves.pure _

theorem sendAndReceive_lockless : Lockless (sendAndReceive index : NodePath K Unit) := by
  intro node
  have used : (node.recorded (.interfaceUsed index)).lockScript = node.lockScript :=
    congrArg Scene.script (recorded_offstage node rfl)
  simp only [sendAndReceive]
  split
  · exact Prod.ext rfl used
  · exact Prod.ext rfl used

omit [Scalar K] in
theorem isConfigured_lockless : Lockless (isConfigured env : NodePath K Bool) :=
  Path.Evolves.bind (observeLifecycle_lockless _) fun _ =>
    Path.Evolves.ite (fun _ => Path.Evolves.pure _) fun _ =>
      Path.Evolves.bind (observeLifecycle_lockless _) fun _ => Path.Evolves.pure _

theorem checkLimits_lockless : Lockless (checkLimits env index : NodePath K (Option Nat)) :=
  Path.Evolves.bind (observeLifecycle_lockless _) fun _ =>
    Path.Evolves.ite (fun _ => Path.Evolves.element _) fun _ => Path.Evolves.pure _

theorem lockedExchange_cycle :
    CarriesCycle base (none, none) (lockedExchange index : NodePath K _) (none, none) := by
  have exchange : Lockless (Path.attempt (sendAndReceive index) : NodePath K _) :=
    Path.Evolves.attempt sendAndReceive_lockless
  refine Path.Confines.bind lockCommunication_cycle fun _ => ?_
  refine Path.Confines.bind (exchange.carries _) fun result => ?_
  exact Path.Confines.bind unlockCommunication_cycle fun _ => Lockless.carries (Path.Evolves.pure _) _

theorem writeTimings_lockless {frequency : K} {txFillNs rxDurNs : Int} :
    Lockless (Path.updateDefined (writeTimings index env frequency txFillNs rxDurNs)) := by
  refine Path.Evolves.updateDefined fun node after written => ?_
  simp only [writeTimings, Option.bind_eq_bind, Option.bind_eq_some_iff, Option.some.injEq] at written
  obtain ⟨_, _, _, _, _, _, _, _, _, _, _, _, rfl⟩ := written
  rfl

theorem finishCycle_cycle {frequency : K} : CarriesCycle base (none, some .shared)
    (finishCycle index env frequency : NodePath K CycleExit) (none, none) := by
  refine Path.Confines.bind (checkLimits_lockless.carries _) fun violated => ?_
  cases violated with
  | some joint =>
      refine Path.Confines.bind (jointParameters_offstage.lockless.carries _) fun _ => ?_
      refine Path.Confines.bind (canInterface_offstage.lockless.carries _) fun _ => ?_
      refine Path.Confines.bind unlockJointStateMsg_cycle fun _ => ?_
      exact Path.Confines.bind (deactivate_lockless.carries _) fun _ =>
        Lockless.carries (Path.Evolves.pure _) _
  | none =>
      refine Path.Confines.bind (canInterface_offstage.lockless.carries _) fun can => ?_
      refine Path.Confines.bind (writeTimings_lockless.carries _) fun _ => ?_
      refine Path.Confines.bind unlockJointStateMsg_cycle fun _ => ?_
      have rest : Lockless (do
          let missing ← Path.read (txTsMissing index)
          Path.when (0 < missing) (do let _ ← canInterface index)
          pure .completed : NodePath K CycleExit) :=
        Path.Evolves.bind (Path.Evolves.read _) fun _ => Path.Evolves.bind (Path.Evolves.when fun _ =>
          Path.Evolves.bind canInterface_offstage.lockless fun _ => Path.Evolves.pure _) fun _ =>
            Path.Evolves.pure _
      exact rest.carries _

theorem writeBackCycle_cycle {frequency : K} : CarriesCycle base (none, none)
    (writeBackCycle index env frequency : NodePath K CycleExit) (none, none) := by
  refine Path.Confines.bind lockJointStateMsg_cycle fun _ => ?_
  refine Path.Confines.bind ((observeRunning_lockless _).carries _) fun running =>
    Path.Confines.ite (fun _ => ?_) fun _ => ?_
  · refine Path.Confines.bind (canInterface_offstage.lockless.carries _) fun can => ?_
    have written : Lockless (Path.updateDefined fun node : Node K =>
        (writeBack index node.cmdRxNs can.txFillEndNs node.tables node.messages).map
          fun messages => { node with messages }) := Path.Evolves.updateFound fun _ _ => rfl
    exact Path.Confines.bind (written.carries _) fun _ => finishCycle_cycle
  · exact Path.Confines.bind unlockJointStateMsg_cycle fun _ =>
      Lockless.carries (Path.Evolves.pure _) _

theorem handleReplies_cycle {frequency : K} : CarriesCycle base (none, none)
    (handleReplies index env frequency : NodePath K CycleExit) (none, none) := by
  refine Path.Confines.bind (canInterface_offstage.lockless.carries _) fun _ => ?_
  refine Path.Confines.bind (Lockless.carries (Path.Evolves.element _) _) fun rows => ?_
  have checked : Lockless
      (Path.loopBelow (fun _ => rows.cmds.length) (checkStatus env index) : NodePath K Unit) :=
    Path.Evolves.loopBelow fun _ => checkStatus_lockless
  refine Path.Confines.bind (checked.carries _) fun _ => ?_
  refine Path.Confines.bind (countErrors_lockless.carries _) fun few =>
    Path.Confines.ite (fun _ => ?_) fun _ => ?_
  · have processed {found : Node K → Option (JointTables K × JointMessages K)} :
        Lockless (Path.updateDefined fun node => (found node).map
          fun written => { node with tables := written.1, messages := written.2 }) :=
      Path.Evolves.updateFound fun _ _ => rfl
    exact Path.Confines.bind (processed.carries _) fun _ => writeBackCycle_cycle
  · exact Path.Confines.bind ((giveUp_lockless _).carries _) fun _ =>
      Lockless.carries (Path.Evolves.pure _) _

variable [Libm K]

theorem exchangeCommand_cycle {frequency : K} {command : JointCommand K} :
    CarriesCycle base (none, none)
      (exchangeCommand index env frequency command : NodePath K CycleExit) (none, none) := by
  refine Path.Confines.bind ((changeTables_lockless _).carries _) fun _ => ?_
  refine Path.Confines.bind ((observeLifecycle_lockless _).carries _) fun lifecycle => ?_
  have scaled : Lockless (Path.when (lifecycle = .active) do
      changeTables (compensateFriction index)
      changeTables (applyTransmissionRatios index) : NodePath K Unit) :=
    Path.Evolves.when fun _ => Path.Evolves.bind (changeTables_lockless _) fun _ =>
      changeTables_lockless _
  refine Path.Confines.bind (scaled.carries _) fun _ => ?_
  refine Path.Confines.bind lockedExchange_cycle fun result => ?_
  cases result with
  | error exception =>
      exact Path.Confines.bind ((giveUp_lockless _).carries _) fun _ =>
        Lockless.carries (Path.Evolves.pure _) _
  | ok value => exact handleReplies_cycle

/-- A cycle that returns has given back what it took. -/
theorem canCycleCallback_cycle : CarriesCycle base (none, none)
    (canCycleCallback index env : NodePath K CycleExit) (none, none) := by
  refine Path.Confines.bind (isConfigured_lockless.carries _) fun configured =>
    Path.Confines.ite (fun _ => ?_) fun _ => Lockless.carries (Path.Evolves.pure _) _
  refine Path.Confines.bind (Lockless.carries (Path.Evolves.element _) _) fun _ => ?_
  refine Path.Confines.bind (startCycle_lockless.carries _) fun frequency => ?_
  refine Path.Confines.bind ((observeRunning_lockless _).carries _) fun running =>
    Path.Confines.ite (fun _ => ?_) fun _ => Lockless.carries (Path.Evolves.pure _) _
  refine Path.Confines.bind (Lockless.carries (Path.Evolves.read _) _) fun command => ?_
  cases command with
  | none => exact Lockless.carries (Path.Evolves.pure _) _
  | some command => exact exchangeCommand_cycle

end Cycle

end CubemarsDriver.Node

import CubemarsDriver.Can.ExchangeFrame
import CubemarsDriver.Foundation.Confines
import CubemarsDriver.Node.Gate

namespace CubemarsDriver.Node

open Foundation Can

/-! # What a cycle may change

A cycle works on the rows, messages and sockets of its interface.  Everything else
it changes at a few points, and a relation that allows what happens there relates
the states before and after the whole cycle. -/

variable {K : Type} {index joint : Nat} {mode : LockMode}

/-- What the work of a cycle on its interface leaves alone. -/
structure Still (K : Type) where
  surroundings : Surroundings
  dampingOnMotorError : Bool
  maxCanErrorsBeforeMotorShutdown : Nat
  defaultDampingKD : K
  jointMsgLength : Nat
  jointCmdPtr : Option (JointCommand K)
  jointLists : List (Option (List (JointConfig K)))
  commandCounts : List Nat
  jointParameters : List (List (JointParameters K))
  jointNames : List (String × Nat × Nat)
  messageLengths : List Nat
  jointCmdSub : Bool
  onSetParametersHandle : Bool
  supervisorTimer : Bool
  declaredMsgIdxs : List (String × Nat)
  watchdogFrequency : Int

/-- The commands of every interface, counted. -/
def commandRows (tables : JointTables K) : List Nat :=
  tables.jointCommandsPerCanInterface.map List.length

def still (node : Node K) : Still K where
  surroundings := node.surroundings
  dampingOnMotorError := node.dampingOnMotorError
  maxCanErrorsBeforeMotorShutdown := node.maxCanErrorsBeforeMotorShutdown
  defaultDampingKD := node.defaultDampingKD
  jointMsgLength := node.jointMsgLength
  jointCmdPtr := node.jointCmdPtr
  jointLists := node.jointLists
  commandCounts := commandRows node.tables
  jointParameters := node.tables.jointParametersPerCanInterface
  jointNames := node.tables.jointNameToCanIfaceAndIdx
  messageLengths := node.messages.lengths
  jointCmdSub := node.jointCmdSub
  onSetParametersHandle := node.onSetParametersHandle
  supervisorTimer := node.supervisorTimer
  declaredMsgIdxs := node.declaredMsgIdxs
  watchdogFrequency := node.watchdogFrequency

/-- The path does no more than the work on an interface, however it ends. -/
abbrev Works {α : Type} (path : NodePath K α) : Prop := Path.Preserves still path

theorem recorded_still (node : Node K) {event : NodeEvent} (other : event.isJoin = false) :
    (node.recorded event).still = node.still :=
  congrArg (fun surroundings => ({ node.still with surroundings } : Still K))
    (recorded_surroundings node other)

theorem canInterface_works : Works (canInterface index : NodePath K (CubemarsCan K)) :=
  Path.Evolves.bind (Path.Evolves.update fun node => recorded_still node rfl) fun _ =>
    Path.Evolves.element _

theorem nameJoint_works : Works (nameJoint index joint : NodePath K Unit) := by
  refine Path.Evolves.bind (Path.Evolves.element _) fun _ => ?_
  refine Path.Evolves.bind (Path.Evolves.bind canInterface_works fun can => ?_) fun _ =>
    Path.Evolves.pure _
  split
  · exact Path.Evolves.pure _
  · exact Path.Evolves.throw _

section Replies

attribute [local instance] Path.lawfulMonad

variable [Scalar K] [Libm K] {env : CycleEnv}

/-- A cycle up to the replies: the `return` it ends at, or the frequency to go on with. -/
def untilReplies (index : Nat) (env : CycleEnv) : NodePath K (Except CycleExit K) := do
  if ← isConfigured env then do
    let _ ← Path.element fun node => cycleRows index node.tables
    let frequency ← startCycle index env
    if ← observeRunning env .loading index then
      match ← Path.read Node.jointCmdPtr with
      | none => pure (.error .noCommand)
      | some command => do
          changeTables (loadCommand index command)
          let lifecycle ← observeLifecycle env .scaling
          Path.when (lifecycle = .active) do
            changeTables (compensateFriction index)
            changeTables (applyTransmissionRatios index)
          match ← lockedExchange index with
          | .error _ => do
              giveUp env .sendFailed
              pure (.error .sendFailed)
          | .ok () => pure (.ok frequency)
    else pure (.error .stopped)
  else pure (.error .notConfigured)

theorem canCycleCallback_eq : canCycleCallback index env = (untilReplies index env >>= fun
    | .error exit => pure exit
    | .ok frequency => handleReplies index env frequency : NodePath K CycleExit) := by
  simp only [canCycleCallback, untilReplies, bind_assoc]
  congr 1
  funext configured
  cases configured with
  | false => rfl
  | true =>
      simp only [if_true, bind_assoc]
      congr 1
      funext rows
      congr 1
      funext frequency
      congr 1
      funext running
      cases running with
      | false => rfl
      | true =>
          simp only [if_true, bind_assoc]
          congr 1
          funext command
          cases command with
          | none => rfl
          | some command =>
              simp only [exchangeCommand, bind_assoc]
              congr 1
              funext loaded
              congr 1
              funext lifecycle
              congr 1
              funext scaled
              congr 1
              funext result
              cases result with
              | error exception => simp only [bind_assoc, pure_bind]
              | ok value => rfl

end Replies

section Work

variable [Scalar K]

theorem sendAndReceive_works : Works (sendAndReceive index : NodePath K Unit) := by
  intro node
  simp only [sendAndReceive]
  split
  · rename_i can rows found _
    have same := (sendAndReceive_frames rows.cmds { can, states := rows.states }).jointConfigs
    exact (congrArg (fun jointLists => ({ (node.recorded (.interfaceUsed index)).still with
      jointLists } : Still K)) (jointLists_set found same)).trans (recorded_still node rfl)
  · exact recorded_still node rfl

theorem startCycle_works (env : CycleEnv) : Works (startCycle index env : NodePath K K) :=
  Path.Evolves.bind (Path.Evolves.element _) fun _ =>
    Path.Evolves.bind (Path.Evolves.update fun _ => rfl) fun _ => Path.Evolves.pure _

omit [Scalar K] in
theorem countErrors_works : Works (countErrors index : NodePath K Bool) := by
  refine Path.Evolves.bind (Path.Evolves.element _) fun rows => ?_
  refine Path.Evolves.bind (Path.Evolves.element _) fun counted => ?_
  refine Path.Evolves.bind (Path.Evolves.read _) fun limit => ?_
  refine Path.Evolves.ite (fun _ => ?_) fun _ => Path.Evolves.ite (fun _ => ?_) fun _ => ?_
  · exact Path.Evolves.bind (Path.Evolves.update fun _ => rfl) fun _ =>
      Path.Evolves.bind canInterface_works fun _ => Path.Evolves.pure _
  · exact Path.Evolves.bind canInterface_works fun _ => Path.Evolves.pure _
  · exact Path.Evolves.bind (Path.Evolves.update fun _ => rfl) fun _ => Path.Evolves.pure _

omit [Scalar K] in
/-- A loop over the joints changes no parameters and adds no commands. -/
def Reworked (tables after : JointTables K) : Prop :=
  commandRows after = commandRows tables ∧
    after.jointParametersPerCanInterface = tables.jointParametersPerCanInterface ∧
      after.jointNameToCanIfaceAndIdx = tables.jointNameToCanIfaceAndIdx

omit [Scalar K] in
theorem reworked_works {node : Node K} {tables : JointTables K} {messages : JointMessages K}
    (reworked : Reworked node.tables tables) (lengths : messages.lengths = node.messages.lengths) :
    ({ node with tables, messages } : Node K).still = node.still := by
  obtain ⟨commands, params, names⟩ := reworked
  simp [still, surroundings, gate, joins, jointLists, commands, params, names, lengths]

omit [Scalar K] in
theorem changeTables_works {change : JointTables K → Option (JointTables K)}
    (reworks : ∀ tables after, change tables = some after → Reworked tables after) :
    Works (changeTables change : NodePath K Unit) := by
  refine Path.Evolves.updateDefined fun node after changed => ?_
  obtain ⟨tables, found, rfl⟩ := Option.map_eq_some_iff.mp changed
  exact reworked_works (reworks _ _ found) rfl

omit [Scalar K] in
theorem map_length_set {α : Type} {table : List (List α)} {row changed : List α}
    (found : table[index]? = some row) (size : changed.length = row.length) :
    (table.set index changed).map List.length = table.map List.length := by
  rw [List.map_set]
  apply set_same_getElem?
  rw [List.getElem?_map, found, Option.map_some, size]

omit [Scalar K] in
theorem changeCmds_reworks {change : CycleRows K → Option (List (JointCmd K))}
    (sized : ∀ rows cmds, change rows = some cmds → cmds.length = rows.cmds.length)
    {tables after : JointTables K} (changed : changeCmds index change tables = some after) :
    Reworked tables after := by
  simp only [changeCmds, cycleRows, Option.bind_eq_bind, Option.bind_eq_some_iff,
    Option.some.injEq] at changed
  obtain ⟨_, ⟨cmds, found, _, _, _, _, rfl⟩, changedCmds, computed, rfl⟩ := changed
  exact ⟨map_length_set found (sized _ _ computed), rfl, rfl⟩

theorem loadCommand_reworks {command : JointCommand K} {tables after : JointTables K}
    (changed : loadCommand index command tables = some after) : Reworked tables after :=
  changeCmds_reworks (fun _ _ collected => (collect_eq_some.mp collected).1) changed

theorem compensateFriction_reworks [Libm K] {tables after : JointTables K}
    (changed : compensateFriction index tables = some after) : Reworked tables after :=
  changeCmds_reworks (fun _ _ collected => (collect_eq_some.mp collected).1) changed

theorem applyTransmissionRatios_reworks {tables after : JointTables K}
    (changed : applyTransmissionRatios index tables = some after) : Reworked tables after :=
  changeCmds_reworks (fun _ _ collected => (collect_eq_some.mp collected).1) changed

theorem processStates_reworks {tables after : JointTables K} {messages messages' : JointMessages K}
    (processed : processStates index tables messages = some (after, messages')) :
    Reworked tables after := by
  simp only [processStates, filterPositions, filterVelocities, rescaleStates, changeStates,
    Option.bind_eq_bind, Option.bind_eq_some_iff, Option.some.injEq, Prod.mk.injEq] at processed
  obtain ⟨_, _, _, ⟨_, _, _, _, _, _, rfl⟩, _, ⟨_, _, _, _, _, _, _, _, _, _, rfl⟩, _, _, _,
    ⟨_, _, _, _, rfl⟩, rfl, _⟩ := processed
  exact ⟨rfl, rfl, rfl⟩

section Messages

variable {params : JointParameters K} {state snapshot : JointState K} {cmdRxNs txFillEndNs : Int}
variable {messages after : JointMessages K}

theorem publishUnfiltered_lengths {tables : JointTables K} {snapshot : List (JointState K)}
    (published : publishUnfiltered index snapshot tables messages = some after) :
    after.lengths = messages.lengths := by
  simp only [publishUnfiltered, publishUnfilteredJoint, Option.bind_eq_bind,
    Option.bind_eq_some_iff] at published
  obtain ⟨rows, _, published⟩ := published
  refine accumulate_invariant (fun _ value => value.lengths = messages.lengths) rfl
    (fun joint before next bound same step => ?_) published
  simp only [Option.bind_eq_some_iff, storeAt_eq_some, Option.some.injEq] at step
  obtain ⟨_, _, _, _, _, _, _, ⟨_, rfl⟩, _, ⟨_, rfl⟩, rfl⟩ := step
  simpa [JointMessages.lengths] using same

theorem processStates_lengths {tables tablesAfter : JointTables K}
    (processed : processStates index tables messages = some (tablesAfter, after)) :
    after.lengths = messages.lengths := by
  simp only [processStates, Option.bind_eq_bind, Option.bind_eq_some_iff, Option.some.injEq,
    Prod.mk.injEq] at processed
  obtain ⟨_, _, _, _, _, _, _, published, _, _, _, rfl⟩ := processed
  exact publishUnfiltered_lengths published

omit [Scalar K] in
theorem storeRxNs_length {times stored : List Int} (done : storeRxNs index state times = some stored) :
    stored.length = times.length := by
  unfold storeRxNs at done
  split at done
  · rw [(storeAt_eq_some.mp done).2, List.length_set]
  · cases done
    rfl

theorem storeState_lengths (stored : storeState params state messages = some after) :
    after.lengths = messages.lengths := by
  simp only [storeState, Option.bind_eq_bind, Option.bind_eq_some_iff, storeAt_eq_some,
    Option.some.injEq] at stored
  obtain ⟨_, ⟨_, rfl⟩, _, ⟨_, rfl⟩, _, ⟨_, rfl⟩, _, ⟨_, rfl⟩, _, rxNs, rfl⟩ := stored
  simp [JointMessages.lengths, storeRxNs_length rxNs]

theorem deliverRx_lengths (delivered : deliverRx index state messages = some after) :
    after.lengths = messages.lengths := by
  unfold deliverRx at delivered
  split at delivered
  · simp only [Option.bind_eq_bind, Option.bind_eq_some_iff, storeAt_eq_some,
      Option.some.injEq] at delivered
    obtain ⟨_, _, _, ⟨_, rfl⟩, rfl⟩ := delivered
    simp [JointMessages.lengths]
  · simp only [Option.bind_eq_bind, Option.bind_eq_some_iff, storeAt_eq_some,
      Option.some.injEq] at delivered
    obtain ⟨_, ⟨_, rfl⟩, rfl⟩ := delivered
    simp [JointMessages.lengths]

theorem deliverRxHw_lengths (delivered : deliverRxHw index state messages = some after) :
    after.lengths = messages.lengths := by
  unfold deliverRxHw at delivered
  split at delivered
  · simp only [Option.bind_eq_bind, Option.bind_eq_some_iff, storeAt_eq_some,
      Option.some.injEq] at delivered
    obtain ⟨_, _, _, ⟨_, rfl⟩, rfl⟩ := delivered
    simp [JointMessages.lengths]
  · simp only [Option.bind_eq_bind, Option.bind_eq_some_iff, storeAt_eq_some,
      Option.some.injEq] at delivered
    obtain ⟨_, ⟨_, rfl⟩, rfl⟩ := delivered
    simp [JointMessages.lengths]

theorem storeLatencies_lengths
    (stored : storeLatencies index cmdRxNs txFillEndNs state messages = some after) :
    after.lengths = messages.lengths := by
  simp only [storeLatencies, Option.bind_eq_bind, Option.bind_eq_some_iff, storeAt_eq_some,
    Option.some.injEq] at stored
  obtain ⟨_, ⟨_, rfl⟩, _, ⟨_, rfl⟩, _, ⟨_, rfl⟩, _, ⟨_, rfl⟩, rfl⟩ := stored
  simp [JointMessages.lengths]

theorem writeBack_lengths {tables : JointTables K}
    (written : writeBack index cmdRxNs txFillEndNs tables messages = some after) :
    after.lengths = messages.lengths := by
  simp only [writeBack, writeBackJoint, Option.bind_eq_bind, Option.bind_eq_some_iff] at written
  obtain ⟨rows, _, written⟩ := written
  refine accumulate_invariant (fun _ value => value.lengths = messages.lengths) rfl
    (fun joint before next bound same step => ?_) written
  simp only [Option.bind_eq_some_iff] at step
  obtain ⟨_, _, _, _, _, stored, _, rx, _, rxHw, latencies⟩ := step
  rw [storeLatencies_lengths latencies, deliverRxHw_lengths rxHw, deliverRx_lengths rx,
    storeState_lengths stored, same]

end Messages

/-- What holds throughout a cycle and what holds where it holds mutexes in a certain
way: its work keeps both, and so does everything it does besides. -/
structure CycleRules (always : Node K → Prop) (calm : Option LockMode → Option LockMode → Node K → Prop)
    (index : Nat) (env : CycleEnv) : Prop where
  work : ∀ before after, after.still = before.still →
    (always before → always after) ∧ ∀ holds holds', calm holds holds' before → calm holds holds' after
  lockCommunication : ∀ mode, Path.Confines always (calm none none) (lockCommunication mode)
    (fun _ => calm (some mode) none) fun _ => True
  unlockCommunication : ∀ mode, Path.Confines always (calm (some mode) none)
    (unlockCommunication mode) (fun _ => calm none none) fun _ => True
  lockJointStateMsg : ∀ mode, Path.Confines always (calm none none) (lockJointStateMsg mode)
    (fun _ => calm none (some mode)) fun _ => True
  unlockJointStateMsg : ∀ mode, Path.Confines always (calm none (some mode))
    (unlockJointStateMsg mode) (fun _ => calm none none) fun _ => True
  observeLifecycle : ∀ point holds, Path.Confines always (calm none holds)
    (observeLifecycle env point) (fun _ => calm none holds) fun _ => True
  observeRunning : ∀ point holds, Path.Confines always (calm none holds)
    (observeRunning env point index) (fun _ => calm none holds) fun _ => True
  deactivate : Path.Confines always (calm none none) deactivate (fun _ => calm none none)
    fun _ => True
  request : ∀ node : Node K, node.lifecycle ≠ .active → always node → calm none none node →
    always { node with cleanupRequested := true } ∧
      calm none none { node with cleanupRequested := true }

section Cycle

variable {always : Node K → Prop} {calm : Option LockMode → Option LockMode → Node K → Prop}
variable {env : CycleEnv} (rules : CycleRules always calm index env)
variable {holds holds' : Option LockMode} {frequency : K}

/-- The path keeps what holds throughout a cycle, with the mutexes held like this. -/
abbrev Cycles {α : Type} (always : Node K → Prop) (before : Node K → Prop) (path : NodePath K α)
    (after : Node K → Prop) : Prop :=
  Path.Confines always before path (fun _ => after) fun _ => True

omit [Scalar K] in
theorem cycles_pure {α : Type} {pre : Node K → Prop} (value : α) :
    Cycles always pre (pure value : NodePath K α) pre := fun _ kept holds => ⟨kept, holds⟩

omit [Scalar K] in
theorem cycles_read {α : Type} {pre : Node K → Prop} (component : Node K → α) :
    Cycles always pre (Path.read component : NodePath K α) pre :=
  (Path.Confines.read component).weaken_post fun _ _ => And.left

omit [Scalar K] in
theorem cycles_element {α : Type} {pre : Node K → Prop} (found : Node K → Option α) :
    Cycles always pre (Path.element found : NodePath K α) pre :=
  (Path.Confines.element found).weaken_post fun _ _ => And.left

include rules

theorem Works.cycles {α : Type} {path : NodePath K α} (works : Works path) :
    Cycles always (calm holds holds') path (calm holds holds') :=
  (Path.Confines.of_preserves works (fun before after same => (rules.work before after same).1)
    fun before after same => (rules.work before after same).2 _ _).consequence
      (fun _ => id) (fun _ _ => id) fun _ _ => trivial

theorem lockedExchange_cycles : Cycles always (calm none none)
    (lockedExchange index : NodePath K (Except Exception Unit)) (calm none none) := by
  have exchange : Works (Path.attempt (sendAndReceive index : NodePath K Unit)) :=
    Path.Evolves.attempt sendAndReceive_works
  refine Path.Confines.bind (rules.lockCommunication _) fun _ => ?_
  refine Path.Confines.bind (Works.cycles rules exchange) fun _ => ?_
  exact Path.Confines.bind (rules.unlockCommunication _) fun _ => cycles_pure _

theorem checkStatus_cycles :
    Cycles always (calm none none) (checkStatus env index joint) (calm none none) := by
  refine Path.Confines.bind (cycles_element _) fun state => ?_
  refine Path.Confines.bind (Path.Confines.when fun _ => ?_) fun _ =>
    Path.Confines.when fun _ => Works.cycles rules nameJoint_works
  refine Path.Confines.bind (Works.cycles rules nameJoint_works) fun _ => ?_
  refine Path.Confines.bind (rules.observeLifecycle _ _) fun lifecycle => ?_
  exact Path.Confines.bind (cycles_read _) fun _ => Path.Confines.when fun _ => rules.deactivate

theorem giveUp_cycles (point : CyclePoint) :
    Cycles always (calm none none) (giveUp env point) (calm none none) := by
  intro node kept calmBefore
  have observed := rules.observeLifecycle point none node kept calmBefore
  have run : (giveUp env point).run node =
      (if env.lifecycle point node.lifecycle = .active then Node.deactivate
        else Path.update fun node => { node with cleanupRequested := true }).run
        { node with lifecycle := env.lifecycle point node.lifecycle } := rfl
  rw [run]
  split
  · exact rules.deactivate _ observed.1 observed.2
  · exact rules.request _ ‹_› observed.1 observed.2

theorem finishCycle_cycles : Cycles always (calm none (some .shared))
    (finishCycle index env frequency) (calm none none) := by
  have checks : Cycles always (calm none (some .shared))
      (checkLimits env index : NodePath K (Option Nat)) (calm none (some .shared)) :=
    Path.Confines.bind (rules.observeLifecycle _ _) fun _ =>
      Path.Confines.ite (fun _ => cycles_element _) fun _ => cycles_pure _
  refine Path.Confines.bind checks fun violating => ?_
  cases violating with
  | some joint =>
      refine Path.Confines.bind (cycles_element _) fun _ => ?_
      refine Path.Confines.bind (Works.cycles rules canInterface_works) fun _ => ?_
      refine Path.Confines.bind (rules.unlockJointStateMsg _) fun _ => ?_
      exact Path.Confines.bind rules.deactivate fun _ => cycles_pure _
  | none =>
      refine Path.Confines.bind (Works.cycles rules canInterface_works) fun can => ?_
      have timings : Works (Path.updateDefined (writeTimings index env frequency can.txFillDurationNs
          can.rxDurationNs)) := by
        refine Path.Evolves.updateDefined fun node after changed => ?_
        simp only [writeTimings, Option.bind_eq_bind, Option.bind_eq_some_iff,
          Option.some.injEq] at changed
        obtain ⟨_, _, _, _, _, _, _, _, _, _, _, _, rfl⟩ := changed
        rfl
      refine Path.Confines.bind (Works.cycles rules timings) fun _ => ?_
      refine Path.Confines.bind (rules.unlockJointStateMsg _) fun _ => ?_
      refine Path.Confines.bind (cycles_read _) fun _ => ?_
      refine Path.Confines.bind (Path.Confines.when fun _ => ?_) fun _ => cycles_pure _
      exact Path.Confines.bind (Works.cycles rules canInterface_works) fun _ => cycles_pure _

theorem writeBackCycle_cycles :
    Cycles always (calm none none) (writeBackCycle index env frequency) (calm none none) := by
  refine Path.Confines.bind (rules.lockJointStateMsg _) fun _ => ?_
  refine Path.Confines.bind (rules.observeRunning _ _) fun running =>
    Path.Confines.ite (fun _ => ?_) fun _ => ?_
  · refine Path.Confines.bind (Works.cycles rules canInterface_works) fun can => ?_
    refine Path.Confines.bind (Works.cycles rules (Path.Evolves.updateDefined
      fun node after changed => ?_)) fun _ => finishCycle_cycles rules
    obtain ⟨messages, written, rfl⟩ := Option.map_eq_some_iff.mp changed
    exact reworked_works ⟨rfl, rfl, rfl⟩ (writeBack_lengths written)
  · exact Path.Confines.bind (rules.unlockJointStateMsg _) fun _ => cycles_pure _

theorem handleReplies_cycles :
    Cycles always (calm none none) (handleReplies index env frequency) (calm none none) := by
  refine Path.Confines.bind (Works.cycles rules canInterface_works) fun _ => ?_
  refine Path.Confines.bind (cycles_element _) fun rows => ?_
  refine Path.Confines.bind (Path.Confines.loopBelow fun _ => checkStatus_cycles rules) fun _ => ?_
  refine Path.Confines.bind (Works.cycles rules countErrors_works) fun few =>
    Path.Confines.ite (fun _ => ?_) fun _ => ?_
  · refine Path.Confines.bind (Works.cycles rules (Path.Evolves.updateDefined
      fun node after changed => ?_)) fun _ => writeBackCycle_cycles rules
    obtain ⟨⟨tables, messages⟩, processed, rfl⟩ := Option.map_eq_some_iff.mp changed
    exact reworked_works (processStates_reworks processed) (processStates_lengths processed)
  · exact Path.Confines.bind (giveUp_cycles rules _) fun _ => cycles_pure _

theorem untilReplies_cycles [Libm K] :
    Cycles always (calm none none) (untilReplies index env) (calm none none) := by
  have configured : Cycles always (calm none none) (isConfigured env) (calm none none) :=
    Path.Confines.bind (rules.observeLifecycle _ _) fun _ =>
      Path.Confines.ite (fun _ => cycles_pure _) fun _ =>
        Path.Confines.bind (rules.observeLifecycle _ _) fun _ => cycles_pure _
  refine Path.Confines.bind configured fun configured => Path.Confines.ite (fun _ => ?_) fun _ =>
    cycles_pure _
  refine Path.Confines.bind (cycles_element _) fun _ => ?_
  refine Path.Confines.bind (Works.cycles rules (startCycle_works env)) fun frequency => ?_
  refine Path.Confines.bind (rules.observeRunning _ _) fun running =>
    Path.Confines.ite (fun _ => ?_) fun _ => cycles_pure _
  refine Path.Confines.bind (cycles_read _) fun command => ?_
  cases command with
  | none => exact cycles_pure _
  | some command =>
      refine Path.Confines.bind (Works.cycles rules (changeTables_works fun _ _ =>
        loadCommand_reworks)) fun _ => ?_
      refine Path.Confines.bind (rules.observeLifecycle _ _) fun lifecycle => ?_
      refine Path.Confines.bind (Path.Confines.when fun _ => ?_) fun _ => ?_
      · exact Path.Confines.bind (Works.cycles rules (changeTables_works fun _ _ =>
          compensateFriction_reworks)) fun _ => Works.cycles rules (changeTables_works fun _ _ =>
            applyTransmissionRatios_reworks)
      · refine Path.Confines.bind (lockedExchange_cycles rules) fun result => ?_
        cases result with
        | error exception =>
            exact Path.Confines.bind (giveUp_cycles rules _) fun _ => cycles_pure _
        | ok value => exact cycles_pure _

theorem canCycleCallback_cycles [Libm K] :
    Cycles always (calm none none) (canCycleCallback index env) (calm none none) := by
  rw [canCycleCallback_eq]
  refine Path.Confines.bind (untilReplies_cycles rules) fun result => ?_
  cases result with
  | error exit => exact cycles_pure exit
  | ok frequency => exact handleReplies_cycles rules

end Cycle

end Work

end CubemarsDriver.Node

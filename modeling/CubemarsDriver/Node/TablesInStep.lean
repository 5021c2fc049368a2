import CubemarsDriver.Node.JointNames
import CubemarsDriver.Node.WriteBack

namespace CubemarsDriver.Node

open Foundation Can

/-! # Tables in step

Whatever has happened to a node, each joint that has parameters has its filters.  What a
configuration stores for a joint can therefore be compared with the constraints of a batch. -/

variable {K : Type} [Scalar K] {index joint : Nat} {env : CycleEnv} {node after : Node K}
variable {tables changed : JointTables K}

/-- The sizes of the rows of the parameters and of each kind of filter. -/
def rowSizes (tables : JointTables K) : List (List Nat) :=
  [tables.jointParametersPerCanInterface.map List.length,
    tables.jointAbFiltersPerCanInterface.map List.length,
    tables.jointVelFiltersPerCanInterface.map List.length,
    tables.jointPosMedianFiltersPerCanInterface.map List.length]

/-- All rows of an interface have one size. -/
def TablesInStep (tables : JointTables K) : Prop :=
  ∀ sizes ∈ rowSizes tables, sizes = tables.jointParametersPerCanInterface.map List.length

omit [Scalar K] in
theorem tablesInStep_iff : TablesInStep tables ↔
    tables.jointAbFiltersPerCanInterface.map List.length =
      tables.jointParametersPerCanInterface.map List.length ∧
    tables.jointVelFiltersPerCanInterface.map List.length =
      tables.jointParametersPerCanInterface.map List.length ∧
    tables.jointPosMedianFiltersPerCanInterface.map List.length =
      tables.jointParametersPerCanInterface.map List.length := by
  simp [TablesInStep, rowSizes]

omit [Scalar K] in
theorem TablesInStep.of_sizes (inStep : TablesInStep tables) (same : rowSizes changed = rowSizes tables) :
    TablesInStep changed := by
  have parameters : changed.jointParametersPerCanInterface.map List.length =
      tables.jointParametersPerCanInterface.map List.length := (List.cons.inj same).1
  rw [TablesInStep, same, parameters]
  exact inStep

omit [Scalar K] in
theorem TablesInStep.resize (inStep : TablesInStep tables) (count : Nat) :
    TablesInStep (JointTables.resize tables count) := by
  obtain ⟨alphaBetas, averages, medians⟩ := tablesInStep_iff.mp inStep
  simp only [tablesInStep_iff, JointTables.resize, resize_sizes, alphaBetas, averages, medians,
    and_self]

theorem TablesInStep.appendJoint {settings : JointSettings K} (inStep : TablesInStep tables)
    (appended : appendJoint settings tables = some changed) : TablesInStep changed := by
  simp only [Node.appendJoint, Option.bind_eq_bind, Option.bind_eq_some_iff,
    Option.some.injEq] at appended
  obtain ⟨params, paramsPushed, _, _, _, _, averages, averagesPushed, alphaBetas, alphaBetasPushed,
    medians, mediansPushed, _, _, rfl⟩ := appended
  obtain ⟨sameAlphaBetas, sameAverages, sameMedians⟩ := tablesInStep_iff.mp inStep
  simp only [tablesInStep_iff, pushAt_sizes paramsPushed, pushAt_sizes averagesPushed,
    pushAt_sizes alphaBetasPushed, pushAt_sizes mediansPushed, sameAlphaBetas, sameAverages,
    sameMedians, and_self]

theorem TablesInStep.applyToTables {update : PerJointUpdate K} (inStep : TablesInStep tables)
    (applied : applyToTables index joint update tables = some changed) : TablesInStep changed := by
  simp only [Node.applyToTables, Option.bind_eq_bind, Option.bind_eq_some_iff,
    Option.some.injEq] at applied
  obtain ⟨_, params, _, alphaBetas, _, averages, _, medians, rfl⟩ := applied
  refine inStep.of_sizes ?_
  simp only [rowSizes, changeEntry_sizes params, changeEntry_sizes alphaBetas,
    changeEntry_sizes averages, changeEntry_sizes medians]

section Cycles

variable {α : Type} {size : JointTables K → α} {fact : JointTables K → Prop}

/-- A fact that a cycle keeps: it replaces commands and states by as many others. -/
structure CycleFact (fact : JointTables K → Prop) : Prop where
  cmds : ∀ index rows cmds tables, cycleRows index tables = some rows →
    cmds.length = rows.cmds.length → fact tables → fact (withCmds index cmds tables)
  states : ∀ index rows states tables, cycleRows index tables = some rows →
    states.length = rows.states.length → fact tables → fact (withStates index states tables)
  processed : ∀ index tables changed messages written,
    processStates index tables messages = some (changed, written) → fact tables → fact changed

/-- A path that keeps a fact about the tables. -/
abbrev KeepsFact {β : Type} (fact : JointTables K → Prop) (path : NodePath K β) : Prop :=
  Path.Maintains (fun node => fact node.tables) path

omit [Scalar K] in
theorem keepsFact_of_tables {β : Type} {path : NodePath K β} (same : Path.Preserves Node.tables path) :
    KeepsFact fact path :=
  same.weaken fun before after tables holds => by
    show fact after.tables
    rwa [show after.tables = before.tables from tables]

omit [Scalar K] in
theorem keepsFact_of_data {β : Type} {path : NodePath K β} (same : Path.Preserves data path) :
    KeepsFact fact path :=
  keepsFact_of_tables fun node => congrArg CycleData.tables (same node)

namespace CycleFact

variable (kept : CycleFact fact)

include kept

theorem changeCmds_keeps {change : CycleRows K → Option (List (JointCmd K))}
    (sized : ∀ rows cmds, change rows = some cmds → cmds.length = rows.cmds.length) :
    KeepsFact fact (changeTables (changeCmds index change) : NodePath K Unit) := by
  apply Path.Evolves.updateDefined
  intro node after changed
  obtain ⟨tables, found, rfl⟩ := Option.map_eq_some_iff.mp changed
  simp only [changeCmds, Option.bind_eq_bind, Option.bind_eq_some_iff, Option.some.injEq] at found
  obtain ⟨rows, rowsFound, cmds, computed, rfl⟩ := found
  exact kept.cmds index rows cmds node.tables rowsFound (sized rows cmds computed)

theorem lockedExchange_keeps :
    KeepsFact fact (lockedExchange index : NodePath K (Except Exception Unit)) := by
  have exchanges : KeepsFact fact (sendAndReceive index : NodePath K Unit) := by
    intro node
    simp only [sendAndReceive]
    split
    · rename_i can rows _ rowsFound
      exact kept.states index rows _ node.tables rowsFound
        (sendAndReceive_frames rows.cmds { can, states := rows.states }).states
    · exact id
  apply Path.Evolves.bind (keepsFact_of_data lockCommunication_data)
  intro _
  apply Path.Evolves.bind (Path.Evolves.attempt exchanges)
  intro _
  exact Path.Evolves.bind (keepsFact_of_data unlockCommunication_data) fun _ => Path.Evolves.pure _

omit kept in
theorem giveUp_keeps (point : CyclePoint) : KeepsFact fact (giveUp env point : NodePath K Unit) :=
  Path.Evolves.bind (keepsFact_of_data observeLifecycle_data) fun _ => Path.Evolves.ite
    (fun _ => keepsFact_of_data deactivate_data) fun _ => Path.Evolves.update fun _ => id

omit kept in
theorem writeBackCycle_keeps {frequency : K} :
    KeepsFact fact (writeBackCycle index env frequency) := by
  apply Path.Evolves.bind (keepsFact_of_data lockJointStateMsg_data)
  intro _
  apply Path.Evolves.bind (keepsFact_of_data (data_of_view observeRunning_view))
  intro running
  apply Path.Evolves.ite
  · intro _
    apply Path.Evolves.bind (keepsFact_of_data canInterface_data)
    intro _
    exact Path.Evolves.bind (Path.Evolves.updateFound fun _ _ => id) fun _ =>
      keepsFact_of_data finishCycle_data
  · intro _
    exact Path.Evolves.bind (keepsFact_of_data unlockJointStateMsg_data) fun _ => Path.Evolves.pure _

theorem handleReplies_keeps {frequency : K} :
    KeepsFact fact (handleReplies index env frequency) := by
  apply Path.Evolves.bind (keepsFact_of_data canInterface_data)
  intro _
  refine Path.Evolves.bind (Path.Evolves.element _) fun rows => ?_
  apply Path.Evolves.bind (Path.Evolves.loopBelow fun _ => keepsFact_of_data checkStatus_data)
  intro _
  apply Path.Evolves.bind (keepsFact_of_data countErrors_data)
  intro few
  apply Path.Evolves.ite
  · intro _
    refine Path.Evolves.bind (Path.Evolves.updateDefined fun node after changed => ?_) fun _ =>
      writeBackCycle_keeps
    obtain ⟨⟨_, _⟩, processed, rfl⟩ := Option.map_eq_some_iff.mp changed
    exact kept.processed index node.tables _ _ _ processed
  · intro _
    exact Path.Evolves.bind (giveUp_keeps _) fun _ => Path.Evolves.pure _

theorem untilReplies_keeps [Libm K] :
    KeepsFact fact (untilReplies index env : NodePath K (Except CycleExit K)) := by
  have configured : KeepsFact fact (isConfigured env : NodePath K Bool) :=
    Path.Evolves.bind (keepsFact_of_data observeLifecycle_data) fun _ => Path.Evolves.ite
      (fun _ => Path.Evolves.pure _) fun _ =>
        Path.Evolves.bind (keepsFact_of_data observeLifecycle_data) fun _ => Path.Evolves.pure _
  refine Path.Evolves.bind configured fun _ => Path.Evolves.ite (fun _ => ?_) fun _ =>
    Path.Evolves.pure _
  refine Path.Evolves.bind (Path.Evolves.element _) fun _ => ?_
  apply Path.Evolves.bind (keepsFact_of_data (data_of_view startCycle_view))
  intro frequency
  refine Path.Evolves.bind (keepsFact_of_data (data_of_view observeRunning_view)) fun _ =>
    Path.Evolves.ite (fun _ => ?_) fun _ => Path.Evolves.pure _
  refine Path.Evolves.bind (Path.Evolves.read _) fun command => ?_
  cases command with
  | none => exact Path.Evolves.pure _
  | some command =>
      have loads : KeepsFact fact (changeTables (loadCommand index command) : NodePath K Unit) :=
        kept.changeCmds_keeps fun _ _ computed => (collect_eq_some.mp computed).1
      have compensates : KeepsFact fact (changeTables (compensateFriction index) : NodePath K Unit) :=
        kept.changeCmds_keeps fun _ _ computed => (collect_eq_some.mp computed).1
      have scales : KeepsFact fact (changeTables (applyTransmissionRatios index) : NodePath K Unit) :=
        kept.changeCmds_keeps fun _ _ computed => (collect_eq_some.mp computed).1
      apply Path.Evolves.bind loads
      intro _
      apply Path.Evolves.bind (keepsFact_of_data observeLifecycle_data)
      intro _
      refine Path.Evolves.bind (Path.Evolves.when fun _ =>
        Path.Evolves.bind compensates fun _ => scales) fun _ => ?_
      apply Path.Evolves.bind kept.lockedExchange_keeps
      intro result
      cases result with
      | error exception => exact Path.Evolves.bind (giveUp_keeps _) fun _ => Path.Evolves.pure _
      | ok value => exact Path.Evolves.pure _

theorem canCycleCallback_keeps [Libm K] :
    KeepsFact fact (canCycleCallback index env : NodePath K CycleExit) := by
  rw [canCycleCallback_eq]
  apply Path.Evolves.bind kept.untilReplies_keeps
  intro result
  cases result with
  | error exit => exact Path.Evolves.pure _
  | ok frequency => exact kept.handleReplies_keeps

end CycleFact

/-- What a cycle does not change. -/
structure CycleMeasure (size : JointTables K → α) : Prop where
  cmds : ∀ index rows cmds tables, cycleRows index tables = some rows →
    cmds.length = rows.cmds.length → size (withCmds index cmds tables) = size tables
  states : ∀ index rows states tables, cycleRows index tables = some rows →
    states.length = rows.states.length → size (withStates index states tables) = size tables
  processed : ∀ index tables changed messages written,
    processStates index tables messages = some (changed, written) → size changed = size tables

namespace CycleMeasure

variable (measure : CycleMeasure size)

include measure

theorem holds_still (value : α) : CycleFact fun tables => size tables = value where
  cmds _ _ _ _ found sized same := (measure.cmds _ _ _ _ found sized).trans same
  states _ _ _ _ found sized same := (measure.states _ _ _ _ found sized).trans same
  processed _ _ _ _ _ processed same := (measure.processed _ _ _ _ _ processed).trans same

theorem canCycleCallback_keeps [Libm K] : Path.Preserves (fun node => size node.tables)
    (canCycleCallback index env : NodePath K CycleExit) :=
  fun node => (measure.holds_still (size node.tables)).canCycleCallback_keeps node rfl

end CycleMeasure

omit [Scalar K] in
theorem set_overlay_sizes {rows : List (List α)} {row : List α}
    (found : rows[index]? = some row) (updates : List (Option α)) :
    (rows.set index (overlay row updates)).map List.length = rows.map List.length :=
  set_sizes found (overlay_length row updates)

theorem filterPositions_sizes (filtered : filterPositions index tables = some changed) :
    rowSizes changed = rowSizes tables := by
  simp only [filterPositions, Option.bind_eq_bind, Option.bind_eq_some_iff,
    Option.some.injEq] at filtered
  obtain ⟨_, _, medians, found, _, _, rfl⟩ := filtered
  simp only [rowSizes, withStates, set_overlay_sizes found]

theorem filterVelocities_sizes (filtered : filterVelocities index tables = some changed) :
    rowSizes changed = rowSizes tables := by
  simp only [filterVelocities, Option.bind_eq_bind, Option.bind_eq_some_iff,
    Option.some.injEq] at filtered
  obtain ⟨_, _, averages, averagesFound, alphaBetas, alphaBetasFound, _, _, _, _, rfl⟩ := filtered
  simp only [rowSizes, withStates, set_overlay_sizes averagesFound, set_overlay_sizes alphaBetasFound]

theorem processStates_sizes {messages written : JointMessages K}
    (processed : processStates index tables messages = some (changed, written)) :
    rowSizes changed = rowSizes tables := by
  simp only [processStates, Option.bind_eq_bind, Option.bind_eq_some_iff, Option.some.injEq,
    Prod.mk.injEq] at processed
  obtain ⟨_, _, positioned, positions, filtered, velocities, _, _, rescaled, rescales, rfl, _⟩ :=
    processed
  simp only [rescaleStates, changeStates, Option.bind_eq_bind, Option.bind_eq_some_iff,
    Option.some.injEq] at rescales
  obtain ⟨_, _, _, _, rfl⟩ := rescales
  exact (filterVelocities_sizes velocities).trans (filterPositions_sizes positions)

theorem rowSizes_measure : CycleMeasure (rowSizes (K := K)) where
  cmds _ _ _ _ _ _ := rfl
  states _ _ _ _ _ _ := rfl
  processed _ _ _ _ _ := processStates_sizes

end Cycles

section Runs

variable {assignment : Assignment K} {bus : Bus} {now : Int} {fact : JointTables K → Prop}

/-- A fact about the tables that whatever changes them keeps. -/
structure TableRules [Libm K] (fact : JointTables K → Prop) : Prop where
  empty : fact {}
  resize : ∀ tables count, fact tables → fact (JointTables.resize tables count)
  append : ∀ settings tables changed, fact tables → appendJoint settings tables = some changed →
    fact changed
  apply : ∀ index joint update tables changed, fact tables →
    applyToTables index joint update tables = some changed → fact changed
  cycle : ∀ index env, Path.Maintains (fun node => fact node.tables)
    (canCycleCallback index env : NodePath K CycleExit)

namespace TableRules

variable [Libm K] (rules : TableRules fact)

include rules

theorem configureNode : Path.Maintains (fun node => fact node.tables)
    (configureNode assignment bus now : NodePath K CallbackReturn) := by
  refine configureNode_evolves ?_ ?_ ?_ ?_ ?_ ?_ ?_
  · exact keepsFact_of_tables (readGlobals_evolves (fun _ _ _ _ _ => rfl) fun _ _ _ _ => rfl)
  · exact fun _ _ _ => id
  · exact fun node _ _ holds => rules.resize node.tables _ holds
  · exact fun _ _ _ _ => buildTables_evolves (fun _ _ _ appended holds =>
      rules.append _ _ _ holds appended) _
  · exact fun _ _ => keepsFact_of_tables (createInterfaces_evolves (fun _ _ => rfl) _)
  · exact startPublishing_evolves fun _ => id
  · exact fun _ => keepsFact_of_tables startMotors_tables

theorem retained (holds : fact node.tables) (retains : Retains node after) : fact after.tables := by
  rcases retains.tables with emptied | ⟨same, _⟩
  · rw [emptied.1]
    exact rules.empty
  · rwa [same]

theorem configure : Path.Maintains (fun node => fact node.tables)
    (configure assignment bus now : NodePath K Unit) :=
  configure_maintains (fun _ _ retains holds => rules.retained holds retains)
    (fun _ _ holds => holds) rules.configureNode

/-- Such a fact holds of the tables whatever happens to a node. -/
theorem operate [StdToString K] {operation : Operation K} (holds : fact node.tables)
    (moved : operate node operation = some after) : fact after.tables := by
  obtain ⟨_, run⟩ := operate_some.mp moved
  by_cases configuring : ∃ assignment bus now, operation = .configure assignment bus now
  · obtain ⟨assignment, bus, now, rfl⟩ := configuring
    exact rules.configure.of_run run holds
  · have kept : Path.Maintains (fun node => fact node.tables) operation.path :=
      Operation.keeps (fun _ _ retains holds => rules.retained holds retains)
        (fun index times _ => rules.cycle index times.env)
        (fun order batch _ => onSetParametersCallback_evolves (fun _ _ => id)
          (fun _ _ _ _ _ applied holds => rules.apply _ _ _ _ _ holds applied) order batch)
        fun assignment bus now same => configuring ⟨assignment, bus, now, same⟩
    exact kept.of_run run holds

end TableRules

theorem tablesInStep_rules [Libm K] : TableRules (TablesInStep (K := K)) where
  empty := tablesInStep_iff.mpr ⟨rfl, rfl, rfl⟩
  resize _ count inStep := inStep.resize count
  append _ _ _ inStep appended := inStep.appendJoint appended
  apply _ _ _ _ _ inStep applied := inStep.applyToTables applied
  cycle _ _ := rowSizes_measure.canCycleCallback_keeps.weaken fun _ _ same inStep => inStep.of_sizes same

/-- The tables of the node are in step. -/
def InStepNode (node : Node K) : Prop := TablesInStep node.tables

theorem operate_inStep [StdToString K] [Libm K] {operation : Operation K} (inStep : InStepNode node)
    (moved : operate node operation = some after) : InStepNode after :=
  tablesInStep_rules.operate inStep moved

/-- After a successful configuration, whatever came before, the constraints hold exactly if the
parameters that were given meet them: `on_configure` checks none of them. -/
theorem constraints_met_iff [StdToString K] [Libm K] {start : Node K}
    {operations : List (Operation K)} (constructed : Constructed start)
    (run : runSteps operate start operations = some node)
    (success : (onConfigure assignment bus now).run node = (.returned .success, after)) :
    MeetsConstraints assignment after ↔ AssignmentConstrained assignment := by
  have inStep : InStepNode node := by
    refine invariant_of_run (fun _ _ _ inStep _ => operate_inStep inStep) ?_ everyStep_true run
    rw [InStepNode, constructed.tables]
    exact tablesInStep_rules.empty
  exact onConfigure_constrained_iff (tablesInStep_iff.mp inStep).1.symm success

end Runs

section Example

attribute [local instance] libmAtRest

/-- The defaults are within the constraints. -/
theorem legAssignment_constrained : AssignmentConstrained (legAssignment []) := by
  have defaults (name : String) (member : name ∈ ["hip", "knee"]) :
      DefinitionConstrained (legAssignment []) name := by
    have unset (field : String) (other : field ∈ ["alpha", "beta", "pos_limit_min", "pos_limit_max",
        "vel_filter_size"]) : legAssignment [] (jointParameterName name field) = none := by
      revert field
      rcases List.mem_pair.mp member with rfl | rfl <;> decide +kernel
    constructor
    case filter =>
      refine ⟨_, _, by rw [Assignment.getDouble, Assignment.get, unset _ (by decide)],
        by rw [Assignment.getDouble, Assignment.get, unset _ (by decide)], ?_⟩
      constructor <;> decide +kernel
    case limits =>
      exact ⟨_, _, by rw [Assignment.getDouble, Assignment.get, unset _ (by decide)],
        by rw [Assignment.getDouble, Assignment.get, unset _ (by decide)], by decide +kernel⟩
    case velFilterSize =>
      exact ⟨0, by rw [Assignment.getInteger, Assignment.get, unset _ (by decide)], by decide⟩
  constructor
  case joints =>
    intro names given
    cases given
    exact defaults
  case maxCanErrors => exact ⟨1, rfl, by decide⟩

/-- Configured once, cleaned up and configured again. -/
theorem constraints_met_iff_leg : ∃ node after : Node ℚ,
    runSteps operate freshNode [.configure (legAssignment []) legBus 0, .cleanup] = some node ∧
      (onConfigure (legAssignment []) legBus 0).run node = (.returned .success, after) ∧
      MeetsConstraints (legAssignment []) after := by
  obtain ⟨node, run, success⟩ := Option.map_eq_some_iff.mp
    (show (runSteps operate freshNode [.configure (legAssignment []) legBus 0, .cleanup]).map
      (fun node => ((onConfigure (legAssignment []) legBus 0).run node).1) =
        some (.returned .success) by decide +kernel)
  exact ⟨node, _, run, Prod.ext success rfl, (constraints_met_iff freshNode_constructed run
    (Prod.ext success rfl)).mpr legAssignment_constrained⟩

/-- An unstable filter that `on_set_parameters_callback` would refuse. -/
def unstableFilter : List (String × ParameterValue ℚ) :=
  [("alpha", .double (1 / 10)), ("beta", .double (3 / 10))]

theorem unstable_filter_is_accepted :
    ((onConfigure (legAssignment unstableFilter) legBus 0).run freshNode).1 = .returned .success ∧
      ¬ MeetsConstraints (legAssignment unstableFilter) (legNode unstableFilter) := by
  refine ⟨by decide +kernel, fun meets => ?_⟩
  obtain ⟨params, found⟩ : ∃ params,
      jointEntry (legNode unstableFilter).tables.jointParametersPerCanInterface 0 0 = some params :=
    Option.isSome_iff_exists.mp (by decide +kernel)
  have filter : jointEntry (legNode unstableFilter).tables.jointAbFiltersPerCanInterface 0 0 =
      some (.create (1 / 10) (3 / 10)) := by decide +kernel
  have bounded := (meets.joints 0 0 params _ found filter).1.betaBounded
  exact absurd bounded (by decide +kernel)

end Example

end CubemarsDriver.Node

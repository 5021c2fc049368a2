import CubemarsDriver.Filters.MovingAverage
import CubemarsDriver.Node.FilterSwitch
import CubemarsDriver.Node.TablesInStep

namespace CubemarsDriver.Node

open Foundation Can

/-! # Safety of the moving averages

A cycle decides by the size stored for a joint whether it updates the joint's moving average,
which has a size of its own.  The two may differ, but the average always has room for as many
samples as are stored. -/

variable {K : Type} [Scalar K] {index joint : Nat} {env : CycleEnv} {node after : Node K}
variable {tables changed : JointTables K}

/-- In tables that are in step each average has room for the stored number of samples. -/
structure AveragesFit (tables : JointTables K) : Prop where
  inStep : TablesInStep tables
  fit : ∀ index joint params filter,
    jointEntry tables.jointParametersPerCanInterface index joint = some params →
    jointEntry tables.jointVelFiltersPerCanInterface index joint = some filter →
    filter.Sound ∧ params.velFilterSize ≤ filter.buffersize

omit [Scalar K] in
theorem AveragesFit.resize (fits : AveragesFit tables) (count : Nat) :
    AveragesFit (JointTables.resize tables count) :=
  ⟨fits.inStep.resize count, fun index joint params filter paramsFound filterFound =>
    fits.fit index joint params filter (jointEntry_of_resize paramsFound)
      (jointEntry_of_resize filterFound)⟩

theorem AveragesFit.appendJoint {settings : JointSettings K} (fits : AveragesFit tables)
    (appended : appendJoint settings tables = some changed) : AveragesFit changed := by
  refine ⟨fits.inStep.appendJoint appended, ?_⟩
  simp only [Node.appendJoint, Option.bind_eq_bind, Option.bind_eq_some_iff,
    Option.some.injEq] at appended
  obtain ⟨params, paramsPushed, _, _, _, _, averages, averagesPushed, _, _, _, _, _, _, rfl⟩ := appended
  intro index joint joined filter paramsFound filterFound
  rw [jointEntry_pushAt paramsPushed] at paramsFound
  rw [jointEntry_pushAt averagesPushed,
    length_of_sizes (tablesInStep_iff.mp fits.inStep).2.1] at filterFound
  split at paramsFound
  · rename_i last
    rw [if_pos last] at filterFound
    cases paramsFound
    cases filterFound
    exact ⟨MovingAverage.create_sound _, le_rfl⟩
  · rename_i earlier
    rw [if_neg earlier] at filterFound
    exact fits.fit index joint joined filter paramsFound filterFound

theorem PerJointUpdate.average_fits {update : PerJointUpdate K} {params : JointParameters K}
    {filter : MovingAverage K} (fits : filter.Sound ∧ params.velFilterSize ≤ filter.buffersize) :
    (update.average filter).Sound ∧
      (update.params params).velFilterSize ≤ (update.average filter).buffersize := by
  cases given : update.velFilterSize with
  | none => simpa only [PerJointUpdate.average, PerJointUpdate.params, given, Option.map_none,
      Option.getD_none] using fits
  | some size => simpa only [PerJointUpdate.average, PerJointUpdate.params, given, Option.map_some,
      Option.getD_some] using MovingAverage.resize_room fits.1 (toUnsigned size)

theorem AveragesFit.applyToTables {update : PerJointUpdate K} (fits : AveragesFit tables)
    (applied : applyToTables index joint update tables = some changed) : AveragesFit changed := by
  refine ⟨fits.inStep.applyToTables applied, ?_⟩
  simp only [Node.applyToTables, Option.bind_eq_bind, Option.bind_eq_some_iff,
    Option.some.injEq] at applied
  obtain ⟨_, paramsChanged, _, _, _, averagesChanged, _, _, rfl⟩ := applied
  intro place position params filter paramsFound filterFound
  rw [jointEntry_changeEntry paramsChanged] at paramsFound
  rw [jointEntry_changeEntry averagesChanged] at filterFound
  split at paramsFound
  · rename_i own
    rw [if_pos own] at filterFound
    obtain ⟨oldParams, oldParamsFound, rfl⟩ := Option.map_eq_some_iff.mp paramsFound
    obtain ⟨oldFilter, oldFilterFound, rfl⟩ := Option.map_eq_some_iff.mp filterFound
    exact PerJointUpdate.average_fits
      (fits.fit place position oldParams oldFilter oldParamsFound oldFilterFound)
  · rename_i other
    rw [if_neg other] at filterFound
    exact fits.fit place position params filter paramsFound filterFound

theorem velocityFiltered_average {params : JointParameters K} {state : JointState K}
    {filters : VelocityFilters K} {result : JointState K × VelocityFilters K}
    {filter : MovingAverage K} (computed : velocityFiltered params state filters = some result)
    (replaced : result.2.movingAverage = some filter) :
    ∃ old value average, filters.movingAverage = some old ∧ old.update value = some (average, filter) := by
  unfold velocityFiltered at computed
  split at computed
  · split at computed
    · simp only [Option.bind_eq_bind, Option.bind_eq_some_iff, Option.some.injEq] at computed
      obtain ⟨old, oldFound, ⟨average, updated⟩, update, rfl⟩ := computed
      cases replaced
      exact ⟨old, state.vel, average, oldFound, update⟩
    · cases computed
      cases replaced
  · split at computed
    · simp only [Option.bind_eq_bind, Option.bind_eq_some_iff, Option.some.injEq] at computed
      obtain ⟨_, _, _, _, rfl⟩ := computed
      cases replaced
    · cases computed
      cases replaced
  · cases computed
    cases replaced

/-- After the velocity filters an average is the old one or an update of it. -/
theorem filterVelocities_averages {filter : MovingAverage K}
    (filtered : filterVelocities index tables = some changed) {place : Nat}
    (found : jointEntry changed.jointVelFiltersPerCanInterface place joint = some filter) :
    ∃ old, jointEntry tables.jointVelFiltersPerCanInterface place joint = some old ∧
      (filter = old ∨ ∃ value average, old.update value = some (average, filter)) := by
  simp only [filterVelocities, Option.bind_eq_bind, Option.bind_eq_some_iff,
    Option.some.injEq] at filtered
  obtain ⟨rows, _, averages, averagesFound, _, _, _, _, results, collected, rfl⟩ := filtered
  rw [jointEntry_set averagesFound] at found
  split at found
  · rename_i own
    subst own
    rw [overlay_getElem?, Option.map_eq_some_iff] at found
    obtain ⟨old, oldFound, replaced⟩ := found
    refine ⟨old, by rw [jointEntry, averagesFound, Option.bind_some, oldFound], ?_⟩
    cases updated : ((results.map Prod.snd).map VelocityFilters.movingAverage)[joint]?.join with
    | none =>
        rw [updated, Option.getD_none] at replaced
        exact .inl replaced.symm
    | some average =>
        rw [updated, Option.getD_some] at replaced
        subst replaced
        simp only [List.map_map, List.getElem?_map, Option.join_eq_some_iff,
          Option.map_eq_some_iff] at updated
        obtain ⟨result, resultFound, average⟩ := updated
        obtain ⟨size, entries⟩ := collect_eq_some.mp collected
        have bound := (List.getElem?_eq_some_iff.mp resultFound).1
        have entry := entries joint (size ▸ bound)
        simp only [resultFound, Option.bind_eq_some_iff] at entry
        obtain ⟨params, _, state, _, computed⟩ := entry
        obtain ⟨oldUpdated, value, vel, same, update⟩ := velocityFiltered_average computed average
        rw [oldFound, Option.some.injEq] at same
        subst same
        exact .inr ⟨value, vel, update⟩
  · exact ⟨filter, found, .inl rfl⟩

theorem AveragesFit.filterVelocities (fits : AveragesFit tables)
    (filtered : filterVelocities index tables = some changed) : AveragesFit changed := by
  refine ⟨fits.inStep.of_sizes (filterVelocities_sizes filtered), ?_⟩
  intro place joint params filter paramsFound filterFound
  have same : changed.jointParametersPerCanInterface = tables.jointParametersPerCanInterface := by
    simp only [Node.filterVelocities, Option.bind_eq_bind, Option.bind_eq_some_iff,
      Option.some.injEq] at filtered
    obtain ⟨_, _, _, _, _, _, _, _, _, _, rfl⟩ := filtered
    rfl
  rw [same] at paramsFound
  obtain ⟨old, oldFound, rfl | ⟨value, average, update⟩⟩ :=
    filterVelocities_averages filtered filterFound
  · exact fits.fit place joint params filter paramsFound oldFound
  · obtain ⟨sound, enough⟩ := fits.fit place joint params old paramsFound oldFound
    have updated := MovingAverage.update_spec sound update
    exact ⟨updated.sound, updated.buffersize ▸ enough⟩

omit [Scalar K] in
theorem AveragesFit.of_same (fits : AveragesFit tables) (sizes : rowSizes changed = rowSizes tables)
    (params : changed.jointParametersPerCanInterface = tables.jointParametersPerCanInterface)
    (averages : changed.jointVelFiltersPerCanInterface = tables.jointVelFiltersPerCanInterface) :
    AveragesFit changed := by
  refine ⟨fits.inStep.of_sizes sizes, ?_⟩
  rw [params, averages]
  exact fits.fit

theorem AveragesFit.filterPositions (fits : AveragesFit tables)
    (filtered : filterPositions index tables = some changed) : AveragesFit changed := by
  have sizes := filterPositions_sizes filtered
  simp only [Node.filterPositions, Option.bind_eq_bind, Option.bind_eq_some_iff,
    Option.some.injEq] at filtered
  obtain ⟨_, _, _, _, _, _, rfl⟩ := filtered
  exact fits.of_same sizes rfl rfl

theorem AveragesFit.processStates {messages written : JointMessages K} (fits : AveragesFit tables)
    (processed : processStates index tables messages = some (changed, written)) :
    AveragesFit changed := by
  simp only [Node.processStates, Option.bind_eq_bind, Option.bind_eq_some_iff, Option.some.injEq,
    Prod.mk.injEq] at processed
  obtain ⟨_, _, positioned, positions, filtered, velocities, _, _, rescaled, rescales, rfl, _⟩ :=
    processed
  simp only [rescaleStates, changeStates, Option.bind_eq_bind, Option.bind_eq_some_iff,
    Option.some.injEq] at rescales
  obtain ⟨_, _, _, _, rfl⟩ := rescales
  exact ((fits.filterPositions positions).filterVelocities velocities).of_same rfl rfl rfl

theorem averagesFit_cycle : CycleFact (AveragesFit (K := K)) where
  cmds _ _ _ _ _ _ fits := fits.of_same rfl rfl rfl
  states _ _ _ _ _ _ fits := fits.of_same rfl rfl rfl
  processed _ _ _ _ _ processed fits := fits.processStates processed

theorem averagesFit_rules [Libm K] : TableRules (AveragesFit (K := K)) where
  empty := ⟨tablesInStep_iff.mpr ⟨rfl, rfl, rfl⟩, fun _ _ _ _ found => by cases found⟩
  resize _ count fits := fits.resize count
  append _ _ _ fits appended := fits.appendJoint appended
  apply _ _ _ _ _ fits applied := fits.applyToTables applied
  cycle _ _ := averagesFit_cycle.canCycleCallback_keeps

section Filters

attribute [local instance] Path.lawfulMonad

variable [Libm K]

/-- A cycle up to the filters: the `return` it ends at, or the frequency to go on with. -/
def untilFilters (index : Nat) (env : CycleEnv) : NodePath K (Except CycleExit K) := do
  match ← untilReplies index env with
  | .error exit => pure (.error exit)
  | .ok frequency => do
      let _ ← canInterface index
      let rows ← Path.element fun node => cycleRows index node.tables
      Path.loopBelow (fun _ => rows.cmds.length) (checkStatus env index)
      if ← countErrors index then pure (.ok frequency)
      else do
        giveUp env .tooManyErrors
        pure (.error .tooManyErrors)

theorem canCycleCallback_filters : canCycleCallback index env = (untilFilters index env >>= fun
    | .error exit => pure exit
    | .ok frequency => do
        Path.updateDefined fun node => (processStates index node.tables node.messages).map
          fun (tables, messages) => { node with tables, messages }
        writeBackCycle index env frequency : NodePath K CycleExit) := by
  rw [canCycleCallback_eq, untilFilters, bind_assoc]
  congr 1
  funext replied
  cases replied with
  | error exit => simp only [pure_bind]
  | ok frequency =>
      simp only [handleReplies, bind_assoc]
      congr 1
      funext can
      congr 1
      funext rows
      congr 1
      funext checked
      congr 1
      funext few
      cases few with
      | false => simp only [Bool.false_eq_true, if_false, bind_assoc, pure_bind]
      | true => simp only [if_true, pure_bind]

/-- The moving average that a cycle from this state updates for a joint. -/
def updatedAverage (index joint : Nat) (env : CycleEnv) (node : Node K) : Option (MovingAverage K) :=
  match (untilFilters index env).run node with
  | (.returned (.ok _), filtering) => do
      let tables ← filterPositions index filtering.tables
      let params ← jointEntry tables.jointParametersPerCanInterface index joint
      let filter ← jointEntry tables.jointVelFiltersPerCanInterface index joint
      if params.velFilterType = .movingAverage ∧ 1 < params.velFilterSize then some filter else none
  | _ => none

theorem AveragesFit.untilFilters (fits : AveragesFit node.tables) {outcome : Outcome Exception _}
    (run : (untilFilters index env).run node = (outcome, after)) : AveragesFit after.tables := by
  have keeps : KeepsFact (AveragesFit (K := K)) (Node.untilFilters index env) := by
    apply Path.Evolves.bind averagesFit_cycle.untilReplies_keeps
    intro replied
    cases replied with
    | error exit => exact Path.Evolves.pure _
    | ok frequency =>
        apply Path.Evolves.bind (keepsFact_of_data canInterface_data)
        intro _
        refine Path.Evolves.bind (Path.Evolves.element _) fun rows => ?_
        apply Path.Evolves.bind (Path.Evolves.loopBelow fun _ => keepsFact_of_data checkStatus_data)
        intro _
        apply Path.Evolves.bind (keepsFact_of_data countErrors_data)
        intro few
        exact Path.Evolves.ite (fun _ => Path.Evolves.pure _) fun _ =>
          Path.Evolves.bind (CycleFact.giveUp_keeps _) fun _ => Path.Evolves.pure _
  exact keeps.of_run run fits

end Filters

section Runs

variable [Libm K] [StdToString K]

/-- The moving averages of the node fit what is stored for them. -/
def AveragesFitNode (node : Node K) : Prop := AveragesFit node.tables

/-- Whatever has happened to a node, a cycle updates a moving average safely. -/
theorem average_update_safe {start : Node K} {operations : List (Operation K)}
    (constructed : Constructed start) (run : runSteps operate start operations = some node)
    {filter : MovingAverage K} (updated : updatedAverage index joint env node = some filter) :
    filter.UpdateSafe := by
  have empty : AveragesFitNode start := by
    rw [AveragesFitNode, constructed.tables]
    exact averagesFit_rules.empty
  have fits : AveragesFitNode node := invariant_of_run
    (fun _ _ _ fits _ moved => averagesFit_rules.operate fits moved) empty everyStep_true run
  unfold updatedAverage at updated
  split at updated
  · rename_i frequency filtering reached
    simp only [Option.bind_eq_bind, Option.bind_eq_some_iff] at updated
    obtain ⟨tables, positions, params, paramsFound, stored, filterFound, chosen⟩ := updated
    split at chosen
    · rename_i averages
      cases chosen
      obtain ⟨sound, enough⟩ := ((AveragesFit.untilFilters fits reached).filterPositions positions).fit
        index joint params filter paramsFound filterFound
      exact sound.updateSafe (by omega)
    · cases chosen
  · cases updated

end Runs

section Example

attribute [local instance] libmAtRest

def averagingAssignment : Assignment ℚ := exampleAssignment ["hip"] (exampleDefinition "hip" 1 "AK80-6"
  [("vel_filter_type", .string "moving_average"), ("vel_filter_size", .integer 3)])

def averagingBus : Node.Bus where
  setup _ _ := true
  socket _ := {
    writes := List.replicate 6 (.written 0)
    reads := exampleReply 1 1 :: [1, 2, 3, 4].map (hipReply 0x8000) }

/-- The average is full when its size is reduced. -/
def averagingRun : List (Operation ℚ) :=
  [.configure averagingAssignment averagingBus 0, .canCycle 0 {}, .canCycle 0 {}, .canCycle 0 {},
    .setParameters asListed [{ name := "joint_defintions.hip.vel_filter_size", value := .integer 2 }]]

def velFilterSizeAt (index joint : Nat) (node : Node K) : Option Nat :=
  (jointEntry node.tables.jointParametersPerCanInterface index joint).map (·.velFilterSize)

/-- The stored size is two, the average has kept a size of three. -/
theorem average_update_safe_hip : ∃ (node : Node ℚ) (filter : MovingAverage ℚ),
    runSteps operate freshNode averagingRun = some node ∧ velFilterSizeAt 0 0 node = some 2 ∧
      updatedAverage 0 0 {} node = some filter ∧ filter.buffersize = 3 ∧ filter.UpdateSafe := by
  obtain ⟨node, run, observed⟩ := Option.map_eq_some_iff.mp
    (show (runSteps operate freshNode averagingRun).map (fun node =>
      (velFilterSizeAt 0 0 node, (updatedAverage 0 0 {} node).map MovingAverage.buffersize)) =
        some (some 2, some 3) by decide +kernel)
  rw [Prod.mk.injEq] at observed
  obtain ⟨filter, updated, size⟩ := Option.map_eq_some_iff.mp observed.2
  exact ⟨node, filter, run, observed.1, updated, size,
    average_update_safe freshNode_constructed run updated⟩

end Example

end CubemarsDriver.Node

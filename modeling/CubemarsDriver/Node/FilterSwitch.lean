import CubemarsDriver.Node.CycleFilters
import CubemarsDriver.Node.LoadedCommands

namespace CubemarsDriver.Node

open Foundation Can

/-! # Switching to the alpha-beta filter

A switch changes the type of the filter and nothing else.  The filter goes on from
the estimate and from the time of the reply at which it was left. -/

variable {K : Type} {index joint other : Nat} {node after : Node K} {tables changed : JointTables K}

structure Estimate (K : Type) where
  x : K
  v : K
  initialized : Bool
  lastRxNs : Int
deriving DecidableEq

def estimate (index joint : Nat) (tables : JointTables K) : Option (Estimate K) := do
  let filter ← jointEntry tables.jointAbFiltersPerCanInterface index joint
  let lastRxNs ← jointEntry tables.lastJointRxNsPerCanInterface index joint
  some { x := filter.x, v := filter.v, initialized := filter.initialized, lastRxNs }

theorem estimate_congr (alphaBeta : jointEntry changed.jointAbFiltersPerCanInterface index joint =
      jointEntry tables.jointAbFiltersPerCanInterface index joint)
    (lastRxNs : jointEntry changed.lastJointRxNsPerCanInterface index joint =
      jointEntry tables.lastJointRxNsPerCanInterface index joint) :
    estimate index joint changed = estimate index joint tables := by
  rw [estimate, alphaBeta, lastRxNs, estimate]

theorem estimate_of_filtering (same : after.filtering = node.filtering) :
    estimate index joint after.tables = estimate index joint node.tables :=
  estimate_congr (congrArg (fun filtering => jointEntry filtering.alphaBetas index joint) same)
    (congrArg (fun filtering => jointEntry filtering.lastRxNs index joint) same)

theorem map_getD_none {α : Type} (value : Option α) : value.map (Option.getD none) = value := by
  cases value <;> rfl

/-- What new gains do not change. -/
def running (filter : AlphaBetaFilter K) : K × K × Bool := (filter.x, filter.v, filter.initialized)

section Operations

variable [Scalar K]

theorem applyToTables_estimate {update : PerJointUpdate K} {place : Nat}
    (applied : applyToTables other place update tables = some changed) :
    estimate index joint changed = estimate index joint tables := by
  simp only [applyToTables, Option.bind_eq_bind, Option.bind_eq_some_iff, Option.some.injEq] at applied
  obtain ⟨_, _, filters, filtersChanged, _, _, _, _, rfl⟩ := applied
  have rows := changeEntry_map running filtersChanged fun _ => rfl
  have same : (jointEntry filters index joint).map running =
      (jointEntry tables.jointAbFiltersPerCanInterface index joint).map running := by
    rw [← jointEntry_map, rows, jointEntry_map]
  simp only [estimate]
  cases after : jointEntry filters index joint with
  | none =>
      rw [after, Option.map_none, eq_comm, Option.map_eq_none_iff] at same
      rw [same]
  | some filter =>
      rw [after, Option.map_some, eq_comm, Option.map_eq_some_iff] at same
      obtain ⟨old, found, equal⟩ := same
      simp only [running, Prod.mk.injEq] at equal
      simp only [found, Option.bind_eq_bind, Option.bind_some, equal]

/-- The state of the joint that a cycle from this node hands to the velocity filters.
Its position is the measured one, less the outliers that the median filter rejects. -/
def measured [Libm K] (index joint : Nat) (env : CycleEnv) (node : Node K) : Option (JointState K) := do
  let rows ← cycleRows index node.tables
  let can ← node.canInterfaces[index]?.join
  let cmds ← motorCmds (env.scales node.lifecycle) (← node.jointCmdPtr) rows
  let exchanged := ((Can.sendAndReceive cmds).run { can, states := rows.states }).2
  positioned index joint (withStates index exchanged.states (withCmds index cmds node.tables))

/-- A cycle from this node publishes a position of the joint from a fresh reply. -/
def PublishesFresh [Libm K] (index joint : Nat) (times : CycleTimes) (node : Node K) : Prop :=
  (writtenBack index times.env node).isSome = true ∧ ∃ state,
    measured index joint times.env node = some state ∧ state.communicationStatus = .success

variable [Libm K] {rows : CycleRows K} {can : CubemarsCan K} {cmds : List (JointCmd K)}
variable {exchanged : Exchange K} {env : CycleEnv} {times : CycleTimes} {exit : CycleExit}

theorem WritesBack.measured (writes : WritesBack index env node rows can cmds exchanged after) :
    measured index joint env node = positioned index joint
      (withStates index exchanged.states (withCmds index cmds node.tables)) := by
  obtain ⟨command, loaded, built⟩ := writes.loaded
  simp only [Node.measured, writes.rowsFound, writes.canFound, loaded, built, writes.exchanges,
    Option.bind_eq_bind, Option.bind_some]

/-- What the filters make of the joints in a cycle that writes back. -/
theorem WritesBack.processed (writes : WritesBack index env node rows can cmds exchanged after) :
    ∃ states, ProcessedRow index { rows with cmds, states := exchanged.states }
      (withStates index exchanged.states (withCmds index cmds node.tables)) after.tables states := by
  obtain ⟨_, _, _, processed, _⟩ := writes.written
  exact processStates_row processed
    (cycleRows_withStates (cycleRows_withCmds writes.rowsFound cmds) exchanged.states)

omit [Libm K] in
theorem velocityFiltered_quiet {params : JointParameters K} {state : JointState K}
    {filters : VelocityFilters K} {result : JointState K × VelocityFilters K}
    (computed : velocityFiltered params state filters = some result)
    (quiet : params.velFilterType ≠ .alphaBeta ∨ state.communicationStatus ≠ .success) :
    result.1.pos = state.pos ∧ result.2.alphaBeta = none ∧ result.2.lastRxNs = none := by
  unfold velocityFiltered at computed
  split at computed
  · split at computed
    · simp only [Option.bind_eq_bind, Option.bind_eq_some_iff, Option.some.injEq] at computed
      obtain ⟨_, _, _, _, rfl⟩ := computed
      exact ⟨rfl, rfl, rfl⟩
    · cases computed
      exact ⟨rfl, rfl, rfl⟩
  · rename_i type
    rw [if_neg (quiet.resolve_left (not_not_intro type))] at computed
    cases computed
    exact ⟨rfl, rfl, rfl⟩
  · cases computed
    exact ⟨rfl, rfl, rfl⟩

/-- A cycle that publishes no position from a fresh reply leaves the estimate alone. -/
theorem canCycleCallback_estimate {canInterface : Nat} (running : Running canInterface node)
    (quiet : canInterface = index → ¬ PublishesFresh index joint times node)
    (run : (canCycleCallback canInterface times.env).run node = (.returned exit, after)) :
    estimate index joint after.tables = estimate index joint node.tables := by
  by_cases wrote : exit.WroteBack
  · obtain ⟨rows, can, cmds, exchanged, writes⟩ := canCycleCallback_writesBack run wrote
    obtain ⟨states, processed⟩ := writes.processed
    by_cases own : canInterface = index
    · subst own
      cases found : states[joint]? with
      | none =>
          obtain ⟨alphaBeta, lastRxNs⟩ := processed.absent joint found
          exact estimate_congr alphaBeta lastRxNs
      | some state =>
          obtain ⟨params, paramsFound⟩ := processed.params joint state found
          obtain ⟨result, ⟨⟨_, computed⟩, alphaBeta, lastRxNs⟩, _⟩ :=
            processed.joints joint params state paramsFound found
          have silent : state.communicationStatus ≠ .success := fun replied =>
            quiet rfl ⟨by rw [writtenBack_eq_some.mpr ⟨exit, run, wrote⟩]; rfl, state,
              by rw [writes.measured, processed.positioned, found], replied⟩
          obtain ⟨_, noFilter, noTime⟩ := velocityFiltered_quiet computed (.inr silent)
          rw [noFilter] at alphaBeta
          rw [noTime] at lastRxNs
          exact estimate_congr (alphaBeta.trans (map_getD_none _)) (lastRxNs.trans (map_getD_none _))
    · obtain ⟨alphaBeta, lastRxNs⟩ := processed.others index joint (Ne.symm own)
      exact estimate_congr alphaBeta lastRxNs
  · exact estimate_of_filtering (filtering_of_not_wroteBack running run wrote)

variable [StdToString K] {operation : Operation K} {left : Estimate K}

/-- The joint has the estimate it was left with, if it has one. -/
def LeftWith (left : Estimate K) (index joint : Nat) (node : Node K) : Prop :=
  ∀ other, estimate index joint node.tables = some other → other = left

/-- The operation publishes no position of the joint from a fresh reply and does not
configure the node anew. -/
def Waits (index joint : Nat) (node : Node K) (operation : Operation K) : Prop :=
  operation.Meanwhile node ∧
    ∀ times, operation = .canCycle index times → ¬ PublishesFresh index joint times node

omit [Scalar K] [Libm K] [StdToString K] in
theorem LeftWith.retained (leftWith : LeftWith left index joint node) (retains : Retains node after) :
    LeftWith left index joint after := by
  rcases retains.tables with wiped | ⟨tables, _⟩
  · intro other found
    rw [wiped.1] at found
    cases found
  · unfold LeftWith
    rwa [tables]

omit [Libm K] in
theorem onSetParametersCallback_leftWith (order : IterationOrder (String × PerJointUpdate K))
    (batch : List (Parameter K)) :
    Path.Maintains (LeftWith left index joint) (onSetParametersCallback order batch) := by
  refine onSetParametersCallback_evolves (fun _ _ => id) (fun node _ _ _ tables applied leftWith =>
    ?_) order batch
  intro other found
  rw [applyToTables_estimate applied] at found
  exact leftWith other found

theorem operate_leftWith (leftWith : LeftWith left index joint node)
    (waits : Waits index joint node operation) (moved : operate node operation = some after) :
    LeftWith left index joint after := by
  obtain ⟨meanwhile, quiet⟩ := waits
  obtain ⟨enabled, run⟩ := operate_some.mp moved
  by_cases configuring : ∃ assignment bus now, operation = .configure assignment bus now
  · obtain ⟨assignment, bus, now, rfl⟩ := configuring
    obtain ⟨_, rfl⟩ | ⟨unconfigured, _⟩ := transition_returned run
    · exact leftWith
    · exact absurd unconfigured (meanwhile assignment bus now rfl)
  by_cases cycling : ∃ canInterface times, operation = .canCycle canInterface times
  · obtain ⟨canInterface, times, rfl⟩ := cycling
    obtain ⟨exit, _, callback, ends⟩ := Path.bind_run_returned.mp run
    cases ends
    intro other found
    rw [canCycleCallback_estimate enabled (fun same => quiet times (same ▸ rfl)) callback] at found
    exact leftWith other found
  · have kept : Path.Maintains (LeftWith left index joint) operation.path :=
      Operation.keeps (fun _ _ retains leftWith => leftWith.retained retains)
        (fun canInterface times same => absurd ⟨canInterface, times, same⟩ cycling)
        (fun order batch _ => onSetParametersCallback_leftWith order batch) fun assignment bus now same =>
          configuring ⟨assignment, bus, now, same⟩
    exact kept.of_run run leftWith

/-- The transmission ratios of the joints of every interface. -/
def ratioRows (tables : JointTables K) : List (List K) :=
  tables.jointParametersPerCanInterface.map fun row => row.map (·.transmissionRatio)

/-- Message indices are not shared and transmission ratios are positive. -/
structure Geared (node : Node K) : Prop where
  unshared : Unshared (indexRows node.tables)
  ratios : ∀ index joint ratio, jointEntry (ratioRows node.tables) index joint = some ratio →
    ¬ ratio ≤ Scalar.zero

omit [Libm K] [StdToString K] in
theorem Geared.of_rows (geared : Geared node)
    (indices : indexRows after.tables = indexRows node.tables)
    (ratios : ratioRows after.tables = ratioRows node.tables) : Geared after :=
  ⟨by rw [indices]; exact geared.unshared, by rw [ratios]; exact geared.ratios⟩

omit [Libm K] [StdToString K] in
theorem Geared.of_params (geared : Geared node)
    (same : after.tables.jointParametersPerCanInterface = node.tables.jointParametersPerCanInterface) :
    Geared after :=
  geared.of_rows (by rw [indexRows, same, indexRows]) (by rw [ratioRows, same, ratioRows])

omit [Libm K] [StdToString K] in
theorem Geared.retained (geared : Geared node) (retains : Retains node after) : Geared after := by
  rcases retains.tables with wiped | ⟨tables, _⟩
  · constructor
    · rw [wiped.1]
      exact fun _ _ _ _ _ impossible => by simp [jointEntry, indexRows] at impossible
    · rw [wiped.1]
      exact fun _ _ _ impossible => by simp [jointEntry, ratioRows] at impossible
  · exact geared.of_params (by rw [tables])

omit [Libm K] in
theorem onSetParametersCallback_geared (order : IterationOrder (String × PerJointUpdate K))
    (batch : List (Parameter K)) : Path.Maintains Geared (onSetParametersCallback order batch) := by
  refine onSetParametersCallback_evolves (fun _ _ geared => geared.of_params rfl)
    (fun node _ _ _ tables applied geared => ?_) order batch
  have indices := applyToTables_indexRows applied
  simp only [applyToTables, Option.bind_eq_bind, Option.bind_eq_some_iff, Option.some.injEq] at applied
  obtain ⟨_, paramsChanged, _, _, _, _, _, _, rfl⟩ := applied
  exact geared.of_rows indices (changeEntry_map _ paramsChanged fun _ => rfl)

omit [Libm K] [StdToString K] in
theorem ConfiguredBy.geared {assignment : Assignment K} {left : Node K} {accepted : Accepted K}
    (configured : ConfiguredBy assignment left accepted node) : Geared node := by
  refine ⟨configured.unshared, fun index joint ratio found => ?_⟩
  rw [ratioRows, jointEntry_map, configured.params_eq, Option.map_eq_some_iff] at found
  obtain ⟨_, entry, rfl⟩ := found
  obtain ⟨_, settings, there, rfl⟩ := jointEntry_rowsOf.mp entry
  obtain ⟨name, member, read⟩ := configured.readFrom_of_mem
    (List.mem_filter.mp (List.mem_of_getElem? there)).1
  obtain ⟨ratio, ratioRead, positive⟩ :=
    configured.validated_joints.ratios name (List.mem_reverse.mpr member)
  rw [read.transmissionRatio, Except.ok.injEq] at ratioRead
  rwa [ratioRead]

theorem operate_geared
    (ready : node.lifecycle = .inactive ∨ node.lifecycle = .active → Geared node)
    (moved : operate node operation = some after) :
    after.lifecycle = .inactive ∨ after.lifecycle = .active → Geared after := by
  refine operate_whileConfigured (fun _ _ _ _ _ _ configured => configured.geared.of_params rfl)
    (fun other => ?_) ready moved
  refine Operation.keeps (fun _ _ retains geared => geared.retained retains) (fun index times _ => ?_)
    (fun order batch _ => onSetParametersCallback_geared order batch) other
  exact fun _ geared => (canCycleCallback_cycles (reworkRules index times.env
    fun before after reworks geared => geared.of_params reworks.tables.2.1)).always_after geared trivial

end Operations

section Switch

/-- The estimate that an update would publish is the measurement itself: the filter
starts afresh, or follows measurements alone, or has predicted this one. -/
def Estimate.Agrees (left : Estimate ℚ) (alpha : ℚ) (state : JointState ℚ) : Prop :=
  left.initialized = false ∨ left.lastRxNs = 0 ∨ state.rxTimestampNs ≤ left.lastRxNs ∨ alpha = 1 ∨
    left.x + left.v * ((state.rxTimestampNs - left.lastRxNs : Int) / 10 ^ 9) = state.pos

theorem update_eq_measurement_iff (filter : AlphaBetaFilter ℚ) (measurement dt : ℚ) :
    (filter.update measurement dt).x = measurement ↔ filter.initialized = false ∨ dt ≤ 0 ∨
      filter.alpha = 1 ∨ filter.x + filter.v * dt = measurement := by
  have zero : (Scalar.zero : ℚ) = 0 := rfl
  rw [AlphaBetaFilter.update, zero]
  split
  · rename_i restarts
    have afresh : filter.initialized = false ∨ dt ≤ 0 := by simpa using restarts
    simp only [true_iff]
    exact afresh.imp_right .inl
  · rename_i runs
    obtain ⟨initialized, positive⟩ : filter.initialized = true ∧ ¬ dt ≤ 0 := by
      simpa [not_or] using runs
    simp only [initialized, positive, Bool.true_eq_false, false_or]
    have split : filter.x + filter.v * dt + filter.alpha * (measurement - (filter.x + filter.v * dt)) -
        measurement = (filter.alpha - 1) * (measurement - (filter.x + filter.v * dt)) := by ring
    rw [← sub_eq_zero, split, mul_eq_zero, sub_eq_zero, sub_eq_zero, eq_comm (a := measurement)]

/-- The position that is published for a measurement that no filter changes. -/
def measuredPosition (params : JointParameters ℚ) (state : JointState ℚ) : ℚ :=
  (writtenReading params (toJointSpace params state)).position

theorem position_of_reading {messages : JointMessages ℚ} {entry : JointReading ℚ}
    (found : reading messages index = some entry) : messages.position[index]? = some entry.position := by
  simp only [reading, Option.bind_eq_bind, Option.bind_eq_some_iff, Option.some.injEq] at found
  obtain ⟨position, there, _, _, _, _, rfl⟩ := found
  exact there

variable [Libm ℚ] {before switched waited after : Node ℚ} {params : JointParameters ℚ}
variable {order : IterationOrder (String × PerJointUpdate ℚ)} {batch : List (Parameter ℚ)}
variable {left : Estimate ℚ} {alpha : ℚ} {state : JointState ℚ} {times : CycleTimes}

def velFilterTypeAt (index joint : Nat) (node : Node K) : Option VelFilterType :=
  (jointEntry node.tables.jointParametersPerCanInterface index joint).map (·.velFilterType)

/-- The batch switches the joint to the alpha-beta filter. -/
structure SwitchesOn (index joint : Nat) (order : IterationOrder (String × PerJointUpdate ℚ))
    (batch : List (Parameter ℚ)) (before switched : Node ℚ) : Prop where
  accepted : operate before (.setParameters order batch) = some switched
  other : velFilterTypeAt index joint before ≠ some .alphaBeta
  chosen : velFilterTypeAt index joint switched = some .alphaBeta

/-- The first cycle after the switch that publishes a position from a fresh reply. -/
structure FirstFresh (index joint : Nat) (times : CycleTimes) (switched waited after : Node ℚ)
    (params : JointParameters ℚ) (state : JointState ℚ) : Prop where
  waits : ∃ waiting, EveryStep operate (Waits index joint) switched waiting ∧
    runSteps operate switched waiting = some waited
  cycle : writtenBack index times.env waited = some after
  measures : measured index joint times.env waited = some state
  replied : state.communicationStatus = .success
  known : jointEntry waited.tables.jointParametersPerCanInterface index joint = some params

/-- What a cycle that reads a fresh reply of the joint publishes. -/
theorem published_position (geared : Geared waited)
    (cycle : writtenBack index times.env waited = some after)
    (measures : measured index joint times.env waited = some state)
    (known : jointEntry waited.tables.jointParametersPerCanInterface index joint = some params) :
    ∃ result movingAverage, velocityFiltered params state {
        movingAverage
        alphaBeta := jointEntry waited.tables.jointAbFiltersPerCanInterface index joint
        lastRxNs := jointEntry waited.tables.lastJointRxNsPerCanInterface index joint } =
          some result ∧
      after.messages.position[params.msgIdx]? = some (measuredPosition params result.1) := by
  obtain ⟨exit, run, wrote⟩ := writtenBack_eq_some.mp cycle
  obtain ⟨rows, can, cmds, exchanged, writes⟩ := canCycleCallback_writesBack run wrote
  obtain ⟨states, processed⟩ := writes.processed
  have paramsRow := (cycleRows_eq_some.mp writes.rowsFound).2.2
  have paramsFound : rows.params[joint]? = some params := by
    rwa [jointEntry, paramsRow, Option.bind_some] at known
  have stateFound : states[joint]? = some state := by
    rw [← processed.positioned, ← writes.measured, measures]
  obtain ⟨result, ⟨⟨movingAverage, computed⟩, _, _⟩, rescaled⟩ :=
    processed.joints joint params state paramsFound stateFound
  obtain ⟨final, found⟩ := processed.found
  rw [jointEntry, (cycleRows_eq_some.mp found).2.1, Option.bind_some] at rescaled
  obtain ⟨_, cmdRxNs, txFillEndNs, _, written⟩ := writes.written
  have own : OwnIndex { rows with cmds, states := final } joint params := by
    intro otherJoint otherParams otherFound same
    have entry (place : Nat) (entry : JointParameters ℚ) (there : rows.params[place]? = some entry) :
        jointEntry (indexRows waited.tables) index place = some entry.msgIdx := by
      rw [jointEntry_indexRows, jointEntry, paramsRow, Option.bind_some, there]
      rfl
    exact (geared.unshared index otherJoint index joint params.msgIdx
      (same ▸ entry otherJoint otherParams otherFound) (entry joint params paramsFound)).2
  exact ⟨result, movingAverage, computed,
    position_of_reading (writeBack_reading written found rescaled paramsFound own)⟩

omit [Libm ℚ] in
theorem measuredPosition_inj {first second : JointState ℚ} (positive : 0 < params.transmissionRatio) :
    measuredPosition params first = measuredPosition params second ↔ first.pos = second.pos := by
  have one : (Scalar.one : ℚ) = 1 := rfl
  have nonzero : (1 : ℚ) / params.transmissionRatio ≠ 0 := (one_div_pos.mpr positive).ne'
  simp only [measuredPosition, writtenReading, toJointSpace, one, add_left_inj]
  exact mul_left_inj' nonzero

omit [Libm ℚ] in
/-- What the alpha-beta filter makes of a fresh reply. -/
theorem velocityFiltered_fresh {filters : VelocityFilters ℚ} {result : JointState ℚ × VelocityFilters ℚ}
    (type : params.velFilterType = .alphaBeta) (replied : state.communicationStatus = .success)
    (computed : velocityFiltered params state filters = some result) :
    ∃ filter lastNs, filters.alphaBeta = some filter ∧ filters.lastRxNs = some lastNs ∧
      result.1.pos = (filter.update state.pos (if lastNs = 0 then 0
        else ((state.rxTimestampNs - lastNs : Int) : ℚ) / 10 ^ 9)).x := by
  simp only [velocityFiltered, type, replied, if_true, Option.bind_eq_bind, Option.bind_eq_some_iff,
    Option.some.injEq] at computed
  obtain ⟨lastNs, lastFound, filter, filterFound, rfl⟩ := computed
  exact ⟨filter, lastNs, filterFound, lastFound, rfl⟩

omit [Libm ℚ] in
theorem dt_nonpos_iff (rxNs lastNs : Int) :
    (if lastNs = 0 then 0 else ((rxNs - lastNs : Int) : ℚ) / 10 ^ 9) ≤ 0 ↔
      lastNs = 0 ∨ rxNs ≤ lastNs := by
  by_cases first : lastNs = 0
  · simp [first]
  · rw [if_neg first, div_le_iff₀ (by norm_num), zero_mul, Int.cast_nonpos]
    simp only [first, false_or]
    omega

omit [Libm ℚ] in
theorem update_agrees_iff {filter : AlphaBetaFilter ℚ} {lastNs : Int}
    (found : left = ⟨filter.x, filter.v, filter.initialized, lastNs⟩) :
    (filter.update state.pos (if lastNs = 0 then 0
        else ((state.rxTimestampNs - lastNs : Int) : ℚ) / 10 ^ 9)).x = state.pos ↔
      left.Agrees filter.alpha state := by
  rw [update_eq_measurement_iff, dt_nonpos_iff, Estimate.Agrees, found]
  by_cases first : lastNs = 0
  · simp [first]
  · simp only [first, if_false, false_or]

/-- A cycle that nothing interferes with writes back only on a configured node. -/
theorem configured_of_writtenBack (cycle : writtenBack index times.env waited = some after) :
    waited.lifecycle = .inactive ∨ waited.lifecycle = .active := by
  obtain ⟨exit, run, wrote⟩ := writtenBack_eq_some.mp cycle
  by_contra unconfigured
  have refused : decide (waited.lifecycle = .active ∨ waited.lifecycle = .inactive) = false := by
    rw [decide_eq_false_iff_not, or_comm]
    exact unconfigured
  rw [canCycleCallback, Path.bind_returned (isConfigured_undisturbed times waited), refused] at run
  cases run
  rcases wrote with impossible | impossible <;> cases impossible

/-- After a switch to the alpha-beta filter, the first position that is published from a
fresh reply is the measured one exactly if the filter is switched off again by then or
if the estimate that it was left with agrees with the reply. -/
theorem first_position_is_measured_iff {start : Node ℚ} {earlier : List (Operation ℚ)}
    (constructed : Constructed start) (run : runSteps operate start earlier = some before)
    (switches : SwitchesOn index joint order batch before switched)
    (fresh : FirstFresh index joint times switched waited after params state)
    (gain : (jointEntry waited.tables.jointAbFiltersPerCanInterface index joint).map (·.alpha) =
      some alpha)
    (found : estimate index joint before.tables = some left) :
    after.messages.position[params.msgIdx]? = some (measuredPosition params state) ↔
      params.velFilterType ≠ .alphaBeta ∨ left.Agrees alpha state := by
  obtain ⟨⟨waiting, waits, waitingRun⟩, cycle, measures, replied, known⟩ := fresh
  have unconfigured : start.lifecycle ≠ .inactive ∧ start.lifecycle ≠ .active := by
    rw [constructed.lifecycle]
    exact ⟨nofun, nofun⟩
  have whole : runSteps operate start (earlier ++ .setParameters order batch :: waiting) = some waited :=
    runSteps_append.mpr ⟨before, run, runSteps_cons.mpr ⟨switched, switches.accepted, waitingRun⟩⟩
  have geared : Geared waited :=
    invariant_of_run (fun _ _ _ ready _ => operate_geared ready)
      (fun configured => absurd configured (not_or.mpr unconfigured)) everyStep_true whole
      (configured_of_writtenBack cycle)
  have leftBefore : LeftWith left index joint before := fun other foundOther =>
    Option.some.inj (foundOther.symm.trans found)
  have leftSwitched : LeftWith left index joint switched := by
    obtain ⟨_, switching⟩ := operate_some.mp switches.accepted
    obtain ⟨_, _, callback, ends⟩ := Path.bind_run_returned.mp switching
    cases ends
    exact (onSetParametersCallback_leftWith order batch).of_run callback leftBefore
  have leftWaited : LeftWith left index joint waited :=
    invariant_of_run (fun _ _ _ leftWith waits => operate_leftWith leftWith waits) leftSwitched
      waits waitingRun
  have positive : 0 < params.transmissionRatio := by
    refine not_le.mp (geared.ratios index joint params.transmissionRatio ?_)
    rw [ratioRows, jointEntry_map, known]
    rfl
  obtain ⟨result, _, computed, published⟩ := published_position geared cycle measures known
  rw [published, Option.some.injEq, measuredPosition_inj positive]
  by_cases type : params.velFilterType = .alphaBeta
  · obtain ⟨filter, lastNs, filterFound, lastFound, estimated⟩ :=
      velocityFiltered_fresh type replied computed
    change jointEntry waited.tables.jointAbFiltersPerCanInterface index joint = _ at filterFound
    change jointEntry waited.tables.lastJointRxNsPerCanInterface index joint = _ at lastFound
    have gains : filter.alpha = alpha := by simpa [filterFound] using gain
    have leftThere := leftWaited ⟨filter.x, filter.v, filter.initialized, lastNs⟩ (by
      rw [estimate, filterFound, lastFound]
      rfl)
    rw [estimated, update_agrees_iff leftThere.symm, gains]
    simp [type]
  · obtain ⟨same, _⟩ := velocityFiltered_quiet computed (.inl type)
    simp [same, type]

end Switch

section Example

attribute [local instance] libmAtRest

/-- A reply of the first motor at rest in the given position. -/
def hipReply (position : BitVec 16) (rxNs : Int) : ReadResult :=
  .frame {
    frame := {
      canId := 1, len := 8
      data := #v[1, position.extractLsb' 8 8, position.extractLsb' 0 8, 0, 0, 0, 0, 0] }
    rxNs, rxHwNs := rxNs, dequeueNs := rxNs }

/-- The motor moves for a second and is back seven seconds later. -/
def hipBus : Node.Bus where
  setup _ _ := true
  socket _ := {
    writes := List.replicate 8 (.written 0)
    reads := [exampleReply 1 1, hipReply 0x8000 1000000000, hipReply 0xC000 2000000000,
      hipReply 0x8000 9000000000] }

def hipAssignment : Assignment ℚ := exampleAssignment ["hip"]
  (exampleDefinition "hip" 1 "AK80-6" [("vel_filter_type", .string "alpha_beta")])

def hipFilterType (type : String) : List (Parameter ℚ) :=
  [{ name := "joint_defintions.hip.vel_filter_type", value := .string type }]

def hipFiltered : List (Operation ℚ) :=
  [.configure hipAssignment hipBus 0, .canCycle 0 {}, .canCycle 0 {}]

def hipUnfiltered : List (Operation ℚ) := [.setParameters asListed (hipFilterType "none")]

/-- The estimate after the second reply. -/
def hipEstimate : Estimate ℚ := ⟨46423 / 8738, 2048 / 65535, true, 2000000000⟩

theorem hip_switches : ∃ filtered before switched after params state,
    runSteps operate freshNode hipFiltered = some filtered ∧
      velFilterTypeAt 0 0 filtered = some .alphaBeta ∧
      runSteps operate filtered hipUnfiltered = some before ∧
      SwitchesOn 0 0 asListed (hipFilterType "alpha_beta") before switched ∧
      FirstFresh 0 0 {} switched switched after params state ∧
      (jointEntry switched.tables.jointAbFiltersPerCanInterface 0 0).map (·.alpha) =
        some (85 / 100) ∧
      estimate 0 0 before.tables = some hipEstimate ∧
      after.messages.position[params.msgIdx]? = some (543869 / 655350) ∧
      measuredPosition params state = 5 / 26214 := by
  have observed : ((runSteps operate freshNode hipFiltered).bind fun filtered =>
      (runSteps operate filtered hipUnfiltered).bind fun before =>
      (operate before (.setParameters asListed (hipFilterType "alpha_beta"))).bind fun switched =>
      (writtenBack 0 ({} : CycleTimes).env switched).bind fun after =>
      (measured 0 0 ({} : CycleTimes).env switched).bind fun state =>
      (jointEntry switched.tables.jointParametersPerCanInterface 0 0).bind fun params =>
        some ([filtered, before, switched].map (velFilterTypeAt 0 0), state.communicationStatus,
          estimate 0 0 before.tables,
          [(jointEntry switched.tables.jointAbFiltersPerCanInterface 0 0).map (·.alpha),
            after.messages.position[params.msgIdx]?, some (measuredPosition params state)])) =
      some ([some .alphaBeta, some .none, some .alphaBeta], .success, some hipEstimate,
        [some (85 / 100), some (543869 / 655350), some (5 / 26214)]) := by
    decide +kernel
  simp only [Option.bind_eq_some_iff, Option.some.injEq, Prod.mk.injEq, List.map_cons,
    List.map_nil, List.cons.injEq, and_true] at observed
  obtain ⟨filtered, run, before, off, switched, on, after, cycle, state, measures, params, known,
    ⟨used, other, chosen⟩, replied, left, gain, published, position⟩ := observed
  exact ⟨filtered, before, switched, after, params, state, run, used, off,
    ⟨on, by rw [other]; decide, chosen⟩, ⟨⟨[], trivial, rfl⟩, cycle, measures, replied, known⟩,
    gain, left, published, position⟩

/-- The position that is published after the pause is extrapolated over its seven seconds. -/
theorem first_position_is_extrapolated : ∃ filtered before switched waited after params state,
    runSteps operate freshNode hipFiltered = some filtered ∧
      velFilterTypeAt 0 0 filtered = some .alphaBeta ∧
      runSteps operate filtered hipUnfiltered = some before ∧
      SwitchesOn 0 0 asListed (hipFilterType "alpha_beta") before switched ∧
      FirstFresh 0 0 {} switched waited after params state ∧
      after.messages.position[params.msgIdx]? ≠ some (measuredPosition params state) := by
  obtain ⟨filtered, before, switched, after, params, state, run, used, off, switches, fresh, _, _,
    published, position⟩ := hip_switches
  refine ⟨filtered, before, switched, switched, after, params, state, run, used, off, switches,
    fresh, ?_⟩
  rw [published, position, ne_eq, Option.some.injEq]
  norm_num

theorem first_position_is_measured_iff_hip : ∃ (after : Node ℚ) (params : JointParameters ℚ)
    (state : JointState ℚ),
    after.messages.position[params.msgIdx]? = some (measuredPosition params state) ↔
      params.velFilterType ≠ .alphaBeta ∨ hipEstimate.Agrees (85 / 100) state := by
  obtain ⟨filtered, before, switched, after, params, state, run, _, off, switches, fresh, gain, left,
    _⟩ := hip_switches
  exact ⟨after, params, state, first_position_is_measured_iff freshNode_constructed
    (runSteps_append.mpr ⟨filtered, run, off⟩) switches fresh gain left⟩

end Example

end CubemarsDriver.Node

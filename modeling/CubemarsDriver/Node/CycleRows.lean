import CubemarsDriver.Node.Cycle

namespace CubemarsDriver.Node

open Foundation Can

/-! # What the loops of a cycle compute for one joint -/

section Rows

variable {K : Type} {index : Nat} {tables after : JointTables K} {rows : CycleRows K}

theorem cycleRows_eq_some : cycleRows index tables = some rows ↔
    tables.jointCommandsPerCanInterface[index]? = some rows.cmds ∧
      tables.jointStatesPerCanInterface[index]? = some rows.states ∧
      tables.jointParametersPerCanInterface[index]? = some rows.params := by
  obtain ⟨cmds, states, params⟩ := rows
  constructor
  · intro found
    simp only [cycleRows, Option.bind_eq_bind, Option.bind_eq_some_iff, Option.some.injEq,
      CycleRows.mk.injEq] at found
    obtain ⟨_, first, _, second, _, third, rfl, rfl, rfl⟩ := found
    exact ⟨first, second, third⟩
  · rintro ⟨first, second, third⟩
    simp [cycleRows, first, second, third]

theorem cycleRows_withCmds (found : cycleRows index tables = some rows) (cmds : List (JointCmd K)) :
    cycleRows index (withCmds index cmds tables) = some { rows with cmds } := by
  rw [cycleRows_eq_some] at found ⊢
  exact ⟨set_getElem?_self cmds found.1, found.2⟩

theorem cycleRows_withStates (found : cycleRows index tables = some rows)
    (states : List (JointState K)) :
    cycleRows index (withStates index states tables) = some { rows with states } := by
  rw [cycleRows_eq_some] at found ⊢
  exact ⟨found.1, set_getElem?_self states found.2.1, found.2.2⟩

theorem changeCmds_eq_some {change : CycleRows K → Option (List (JointCmd K))}
    (found : cycleRows index tables = some rows) :
    changeCmds index change tables = some after ↔
      ∃ cmds, change rows = some cmds ∧ after = withCmds index cmds tables := by
  simp only [changeCmds, found, Option.bind_eq_bind, Option.bind_some, Option.bind_eq_some_iff,
    Option.some.injEq, @eq_comm _ after]

theorem changeStates_eq_some {change : CycleRows K → Option (List (JointState K))}
    (found : cycleRows index tables = some rows) :
    changeStates index change tables = some after ↔
      ∃ states, change rows = some states ∧ after = withStates index states tables := by
  simp only [changeStates, found, Option.bind_eq_bind, Option.bind_some, Option.bind_eq_some_iff,
    Option.some.injEq, @eq_comm _ after]

end Rows

variable {K : Type} [Scalar K] {index joint : Nat} {tables after : JointTables K}
variable {rows : CycleRows K} {params : JointParameters K}

section Commands

variable {command : JointCommand K} {cmds : List (JointCmd K)} {cmd : JointCmd K}
variable {state : JointState K}

theorem loadedCmds_getElem? (loaded : loadedCmds command rows = some cmds)
    (bound : joint < rows.cmds.length) (found : rows.params[joint]? = some params) :
    cmds[joint]? = loadedCmd command params := by
  rw [← (collect_eq_some.mp loaded).2 joint bound, found]
  rfl

theorem loadedCmds_length (loaded : loadedCmds command rows = some cmds) :
    cmds.length = rows.cmds.length := (collect_eq_some.mp loaded).1

theorem compensatedCmds_getElem? [Libm K] (compensated : compensatedCmds rows = some cmds)
    (cmdFound : rows.cmds[joint]? = some cmd) (found : rows.params[joint]? = some params)
    (stateFound : rows.states[joint]? = some state) :
    cmds[joint]? = some { cmd with
      torque := cmd.torque + frictionTorque params.frictionParameters state.vel } := by
  rw [← (collect_eq_some.mp compensated).2 joint (List.getElem?_eq_some_iff.mp cmdFound).1]
  simp [cmdFound, found, stateFound]

theorem compensatedCmds_length [Libm K] (compensated : compensatedCmds rows = some cmds) :
    cmds.length = rows.cmds.length := (collect_eq_some.mp compensated).1

theorem motorSpaceCmds_getElem? (scaled : motorSpaceCmds rows = some cmds)
    (cmdFound : rows.cmds[joint]? = some cmd) (found : rows.params[joint]? = some params) :
    cmds[joint]? = some (toMotorSpace params cmd) := by
  rw [← (collect_eq_some.mp scaled).2 joint (List.getElem?_eq_some_iff.mp cmdFound).1]
  simp [cmdFound, found]

theorem motorSpaceCmds_length (scaled : motorSpaceCmds rows = some cmds) :
    cmds.length = rows.cmds.length := (collect_eq_some.mp scaled).1

/-- The commands a cycle hands to the interface. -/
def motorCmds [Libm K] (active : Bool) (command : JointCommand K) (rows : CycleRows K) :
    Option (List (JointCmd K)) := do
  let cmds ← loadedCmds command rows
  if active then
    let cmds ← compensatedCmds { rows with cmds }
    motorSpaceCmds { rows with cmds }
  else some cmds

/-- The motor command of one joint of an active node. -/
def motorCmd [Libm K] (params : JointParameters K) (vel : K) (cmd : JointCmd K) : JointCmd K :=
  toMotorSpace params { cmd with
    torque := cmd.torque + frictionTorque params.frictionParameters vel }

theorem motorCmds_length [Libm K] {active : Bool} (built : motorCmds active command rows = some cmds) :
    cmds.length = rows.cmds.length := by
  simp only [motorCmds, Option.bind_eq_bind, Option.bind_eq_some_iff] at built
  obtain ⟨loaded, load, built⟩ := built
  have size := loadedCmds_length load
  cases active with
  | false => cases built; exact size
  | true =>
      obtain ⟨compensated, compensate, scale⟩ := Option.bind_eq_some_iff.mp built
      rw [motorSpaceCmds_length scale, ← size]
      exact compensatedCmds_length compensate

theorem motorCmds_getElem? [Libm K] (built : motorCmds true command rows = some cmds)
    (bound : joint < rows.cmds.length) (found : rows.params[joint]? = some params)
    (stateFound : rows.states[joint]? = some state) :
    cmds[joint]? = (loadedCmd command params).map (motorCmd params state.vel) := by
  simp only [motorCmds, Option.bind_eq_bind, Option.bind_eq_some_iff, if_true] at built
  obtain ⟨loaded, load, compensated, compensate, scale⟩ := built
  have first := loadedCmds_getElem? load bound found
  obtain ⟨cmd, cmdFound⟩ : ∃ cmd, loaded[joint]? = some cmd :=
    ⟨_, List.getElem?_eq_getElem (by rw [loadedCmds_length load]; exact bound)⟩
  have second := compensatedCmds_getElem? compensate cmdFound found stateFound
  rw [motorSpaceCmds_getElem? scale second found, ← first, cmdFound]
  rfl

end Commands

section States

variable {states : List (JointState K)} {state : JointState K}

/-- No filter touches the joint. -/
def Unfiltered (params : JointParameters K) : Prop :=
  params.velFilterType = .none ∧ params.posMedianFilterSize ≤ 1

/-- What a loop over the states leaves: the parameters and commands, the number
of states, and the state of a joint that has no filters. -/
def KeepsUnfiltered (index : Nat) (before after : JointTables K) : Prop :=
  ∀ rows, cycleRows index before = some rows → ∃ states,
    cycleRows index after = some { rows with states } ∧ states.length = rows.states.length ∧
    ∀ (joint : Nat) (params : JointParameters K) (state : JointState K),
      rows.params[joint]? = some params → Unfiltered params →
      rows.states[joint]? = some state → states[joint]? = some state

theorem filterPositions_keeps (filtered : filterPositions index tables = some after) :
    KeepsUnfiltered index tables after := by
  intro rows found
  simp only [filterPositions, found, Option.bind_eq_bind, Option.bind_some,
    Option.bind_eq_some_iff, Option.some.injEq] at filtered
  obtain ⟨filters, filtersFound, results, collected, rfl⟩ := filtered
  obtain ⟨size, entries⟩ := collect_eq_some.mp collected
  refine ⟨results.map Prod.fst, cycleRows_withStates found _, by simp [size], ?_⟩
  intro joint params state paramsFound unfiltered stateFound
  have entry := entries joint (List.getElem?_eq_some_iff.mp stateFound).1
  have untouched : medianFiltered params state filters[joint]? = some (state, none) :=
    if_neg fun both => by have := unfiltered.2; omega
  simp only [paramsFound, stateFound, Option.bind_some, untouched] at entry
  rw [List.getElem?_map, ← entry]
  rfl

theorem filterVelocities_keeps (filtered : filterVelocities index tables = some after) :
    KeepsUnfiltered index tables after := by
  intro rows found
  simp only [filterVelocities, found, Option.bind_eq_bind, Option.bind_some,
    Option.bind_eq_some_iff, Option.some.injEq] at filtered
  obtain ⟨averages, _, alphaBetas, _, lastRxNs, _, results, collected, rfl⟩ := filtered
  obtain ⟨size, entries⟩ := collect_eq_some.mp collected
  refine ⟨results.map Prod.fst, cycleRows_withStates found _, by simp [size], ?_⟩
  intro joint params state paramsFound unfiltered stateFound
  have entry := entries joint (List.getElem?_eq_some_iff.mp stateFound).1
  simp only [paramsFound, stateFound, Option.bind_some, velocityFiltered, unfiltered.1] at entry
  rw [List.getElem?_map, ← entry]
  rfl

theorem jointSpaceStates_getElem? (rescaled : jointSpaceStates rows = some states)
    (stateFound : rows.states[joint]? = some state) (found : rows.params[joint]? = some params) :
    states[joint]? = some (toJointSpace params state) := by
  rw [← (collect_eq_some.mp rescaled).2 joint (List.getElem?_eq_some_iff.mp stateFound).1]
  simp [stateFound, found]

end States

/-- The joint state a message holds at an index. -/
structure JointReading (K : Type) where
  position : K
  velocity : K
  effort : K
deriving DecidableEq

def reading (messages : JointMessages K) (index : Nat) : Option (JointReading K) := do
  some {
    position := ← messages.position[index]?
    velocity := ← messages.velocity[index]?
    effort := ← messages.effort[index]? }

/-- The joint state that is written for a rescaled state. -/
def writtenReading (params : JointParameters K) (state : JointState K) : JointReading K where
  position := state.pos + params.zeroPosition
  velocity := state.vel
  effort := state.torque

section Messages

variable {state : JointState K} {messages written : JointMessages K} {cmdRxNs txFillEndNs : Int}

/-- What the messages say of the joint states, and when these have arrived. -/
def stateEntries (messages : JointMessages K) : List K × List K × List K × List Int :=
  (messages.position, messages.velocity, messages.effort, messages.jointRxNs)

omit [Scalar K] in
theorem reading_of_same (same : stateEntries written = stateEntries messages) (index : Nat) :
    reading written index = reading messages index := by
  simp only [stateEntries, Prod.mk.injEq] at same
  simp only [reading, same]

/-- Only the entry of the joint is written. -/
def WritesReading (params : JointParameters K) (state : JointState K)
    (before after : JointMessages K) : Prop :=
  reading after params.msgIdx = some (writtenReading params state) ∧
    ∀ other, other ≠ params.msgIdx → reading after other = reading before other

theorem storeState_writes (stored : storeState params state messages = some written) :
    WritesReading params state messages written := by
  simp only [storeState, Option.bind_eq_bind, Option.bind_eq_some_iff, storeAt_eq_some,
    Option.some.injEq] at stored
  obtain ⟨_, ⟨posBound, rfl⟩, _, ⟨velBound, rfl⟩, _, ⟨effortBound, rfl⟩, _, _, _, _, rfl⟩ := stored
  constructor
  · simp [reading, writtenReading, posBound, velBound, effortBound]
  · intro other different
    simp [reading, List.getElem?_set_ne (Ne.symm different)]

theorem deliverRx_same (stored : deliverRx index state messages = some written) :
    stateEntries written = stateEntries messages := by
  rw [deliverRx] at stored
  split at stored
  all_goals
    simp only [Option.bind_eq_bind, Option.bind_eq_some_iff, Option.some.injEq] at stored
  · obtain ⟨_, _, _, _, rfl⟩ := stored
    rfl
  · obtain ⟨_, _, rfl⟩ := stored
    rfl

theorem deliverRxHw_same (stored : deliverRxHw index state messages = some written) :
    stateEntries written = stateEntries messages := by
  rw [deliverRxHw] at stored
  split at stored
  all_goals
    simp only [Option.bind_eq_bind, Option.bind_eq_some_iff, Option.some.injEq] at stored
  · obtain ⟨_, _, _, _, rfl⟩ := stored
    rfl
  · obtain ⟨_, _, rfl⟩ := stored
    rfl

theorem storeLatencies_same
    (stored : storeLatencies index cmdRxNs txFillEndNs state messages = some written) :
    stateEntries written = stateEntries messages := by
  simp only [storeLatencies, Option.bind_eq_bind, Option.bind_eq_some_iff,
    Option.some.injEq] at stored
  obtain ⟨_, _, _, _, _, _, _, _, rfl⟩ := stored
  rfl

/-- Besides its state a joint has latencies written. -/
theorem writeBackJoint_stores
    (stored : writeBackJoint cmdRxNs txFillEndNs params state messages = some written) :
    ∃ first, storeState params state messages = some first ∧
      stateEntries written = stateEntries first := by
  simp only [writeBackJoint, Option.bind_eq_bind, Option.bind_eq_some_iff] at stored
  obtain ⟨first, storing, second, rx, third, rxHw, latencies⟩ := stored
  exact ⟨first, storing, (storeLatencies_same latencies).trans
    ((deliverRxHw_same rxHw).trans (deliverRx_same rx))⟩

theorem writeBackJoint_writes
    (stored : writeBackJoint cmdRxNs txFillEndNs params state messages = some written) :
    WritesReading params state messages written := by
  obtain ⟨first, storing, same⟩ := writeBackJoint_stores stored
  obtain ⟨own, others⟩ := storeState_writes storing
  exact ⟨(reading_of_same same _).trans own,
    fun other different => (reading_of_same same other).trans (others other different)⟩

theorem publishUnfiltered_same {snapshot : List (JointState K)}
    (published : publishUnfiltered index snapshot tables messages = some written) :
    stateEntries written = stateEntries messages := by
  simp only [publishUnfiltered, Option.bind_eq_bind, Option.bind_eq_some_iff] at published
  obtain ⟨rows, _, ended⟩ := published
  apply accumulate_invariant (fun _ value => stateEntries value = stateEntries messages) rfl ?_ ended
  intro joint before after _ same step
  simp only [publishUnfilteredJoint, Option.bind_eq_bind, Option.bind_eq_some_iff,
    Option.some.injEq] at step
  obtain ⟨_, _, _, _, _, _, _, _, _, _, rfl⟩ := step
  exact same

/-- No other joint of the row shares the message index. -/
def OwnIndex (rows : CycleRows K) (joint : Nat) (params : JointParameters K) : Prop :=
  ∀ other (otherParams : JointParameters K), rows.params[other]? = some otherParams →
    otherParams.msgIdx = params.msgIdx → other = joint

theorem writeBack_reading (written_back : writeBack index cmdRxNs txFillEndNs tables messages =
      some written) (found : cycleRows index tables = some rows)
    (stateFound : rows.states[joint]? = some state) (paramsFound : rows.params[joint]? = some params)
    (own : OwnIndex rows joint params) :
    reading written params.msgIdx = some (writtenReading params state) := by
  simp only [writeBack, found, Option.bind_eq_bind, Option.bind_some] at written_back
  refine accumulate_invariant (fun index value => joint < index →
    reading value params.msgIdx = some (writtenReading params state)) (fun early => by omega) ?_
    written_back (List.getElem?_eq_some_iff.mp stateFound).1
  intro index before after _ earlier step passed
  simp only [Option.bind_eq_some_iff] at step
  obtain ⟨otherParams, otherFound, otherState, otherStateFound, step⟩ := step
  obtain ⟨writesOwn, keepsOthers⟩ := writeBackJoint_writes step
  by_cases same : index = joint
  · subst same
    cases paramsFound.symm.trans otherFound
    cases stateFound.symm.trans otherStateFound
    exact writesOwn
  · rw [keepsOthers _ fun equal => same (own index otherParams otherFound equal.symm)]
    exact earlier (by omega)

end Messages

/-- A cycle leaves the rescaled state of a joint without filters. -/
theorem processStates_unfiltered {messages written : JointMessages K}
    (processed : processStates index tables messages = some (after, written))
    (found : cycleRows index tables = some rows) :
    ∃ states, cycleRows index after = some { rows with states } ∧
      states.length = rows.states.length ∧
      (∀ (joint : Nat) (params : JointParameters K) (state : JointState K),
        rows.params[joint]? = some params → Unfiltered params →
        rows.states[joint]? = some state → states[joint]? = some (toJointSpace params state)) ∧
      ∀ other, reading written other = reading messages other := by
  simp only [processStates, Option.bind_eq_bind, Option.bind_eq_some_iff, Option.some.injEq,
    Prod.mk.injEq] at processed
  obtain ⟨snapshot, _, positioned, positions, filtered, velocities, published, publish, rescaled,
    rescale, rfl, rfl⟩ := processed
  obtain ⟨first, firstRows, firstSize, firstKept⟩ := filterPositions_keeps positions rows found
  obtain ⟨second, secondRows, secondSize, secondKept⟩ :=
    filterVelocities_keeps velocities _ firstRows
  obtain ⟨states, scaling, rfl⟩ := (changeStates_eq_some secondRows).mp rescale
  refine ⟨states, cycleRows_withStates secondRows states, ?_, ?_,
    reading_of_same (publishUnfiltered_same publish)⟩
  · rw [(collect_eq_some.mp scaling).1]
    exact secondSize.trans firstSize
  · intro joint params state paramsFound unfiltered stateFound
    exact jointSpaceStates_getElem? scaling
      (secondKept joint params state paramsFound unfiltered
        (firstKept joint params state paramsFound unfiltered stateFound)) paramsFound

end CubemarsDriver.Node

import CubemarsDriver.Node.Entries
import CubemarsDriver.Node.WriteBack

namespace CubemarsDriver.Node

open Foundation Can

/-! # Where the written positions come from

A reply replaces the position of a joint's state.  Behind the exchange a cycle filters and
rescales it where it is stored, and a cycle that is not stopped writes it back. -/

variable {K : Type} [Scalar K] {index joint : Nat} {env : CycleEnv}

/-- When the reply of a state has arrived, and how the joint's last exchange has ended. -/
structure Arrival where
  rxNs : Int
  status : ComStatus
deriving DecidableEq

def arrival (state : JointState K) : Arrival := ⟨state.rxTimestampNs, state.communicationStatus⟩

/-- The position of a state, and its arrival. -/
def located (state : JointState K) : K × Arrival := (state.pos, arrival state)

/-- The settings and the filters of a joint, as a cycle finds them. -/
structure Processing (K : Type) where
  params : JointParameters K
  median : Option (MedianFilter K)
  velocity : VelocityFilters K

def Processing.of (tables : JointTables K) (index joint : Nat) (params : JointParameters K) :
    Processing K where
  params := params
  median := jointEntry tables.jointPosMedianFiltersPerCanInterface index joint
  velocity :=
    { movingAverage := jointEntry tables.jointVelFiltersPerCanInterface index joint
      alphaBeta := jointEntry tables.jointAbFiltersPerCanInterface index joint
      lastRxNs := jointEntry tables.lastJointRxNsPerCanInterface index joint }

def processing (index joint : Nat) (tables : JointTables K) : Option (Processing K) :=
  (jointEntry tables.jointParametersPerCanInterface index joint).map (.of tables index joint)

namespace Processing

/-- The state of a joint behind the filters and the rescaling. -/
def apply (processing : Processing K) (state : JointState K) : Option (JointState K) := do
  let median ← medianFiltered processing.params state processing.median
  let velocity ← velocityFiltered processing.params median.1 processing.velocity
  some (toJointSpace processing.params velocity.1)

/-- What becomes of a position in a cycle in which the joint's reply has arrived like this; only
an alpha-beta filter for the velocity changes the position too. -/
def position (processing : Processing K) (arrived : JointState K) (pos : K) : Option K := do
  let median ← medianFiltered processing.params { arrived with pos } processing.median
  let pos ← if processing.params.velFilterType = .alphaBeta then
      (velocityFiltered processing.params median.1 processing.velocity).map fun result => result.1.pos
    else some median.1.pos
  some (toJointSpace processing.params { arrived with pos }).pos

end Processing

section Processing

variable {tables changed : JointTables K} {messages written : JointMessages K}
variable {params : JointParameters K} {state other next : JointState K} {joint : Nat}

omit [Scalar K] in
theorem located_iff : located other = located state ↔ other.pos = state.pos ∧
    other.rxTimestampNs = state.rxTimestampNs ∧
      other.communicationStatus = state.communicationStatus := by
  simp only [located, arrival, Prod.mk.injEq, Arrival.mk.injEq]

theorem medianFiltered_located {filter : Option (MedianFilter K)}
    {result : JointState K × Option (MedianFilter K)} (same : located other = located state)
    (computed : medianFiltered params state filter = some result) :
    arrival result.1 = arrival state ∧ ∃ otherResult,
      medianFiltered params other filter = some otherResult ∧ located otherResult.1 = located result.1 := by
  obtain ⟨pos, rxNs, status⟩ := located_iff.mp same
  rw [medianFiltered] at computed
  simp only [medianFiltered, status, pos]
  split at computed
  · rename_i filters
    simp only [Option.bind_eq_bind, Option.bind_eq_some_iff, Option.some.injEq] at computed
    obtain ⟨_, rfl, _, update, rfl⟩ := computed
    simp only [if_pos filters, Option.bind_eq_bind, Option.bind_some, update]
    exact ⟨rfl, _, rfl, located_iff.mpr ⟨rfl, rxNs, rfl⟩⟩
  · rename_i passes
    cases computed
    rw [if_neg passes]
    exact ⟨rfl, _, rfl, same⟩

theorem alphaBeta_located {filters : VelocityFilters K} {result : JointState K × VelocityFilters K}
    (kind : params.velFilterType = .alphaBeta) (same : located other = located state)
    (computed : velocityFiltered params state filters = some result) :
    arrival result.1 = arrival state ∧ ∃ otherResult,
      velocityFiltered params other filters = some otherResult ∧ otherResult.1.pos = result.1.pos := by
  obtain ⟨pos, rxNs, status⟩ := located_iff.mp same
  simp only [velocityFiltered, kind] at computed
  simp only [velocityFiltered, kind, status, rxNs, pos]
  split at computed
  · rename_i replied
    simp only [Option.bind_eq_bind, Option.bind_eq_some_iff, Option.some.injEq] at computed
    obtain ⟨_, lastFound, _, found, rfl⟩ := computed
    simp only [if_pos replied, lastFound, found, Option.bind_eq_bind, Option.bind_some]
    exact ⟨rfl, _, rfl, rfl⟩
  · rename_i silent
    cases computed
    rw [if_neg silent]
    exact ⟨rfl, _, rfl, pos⟩

theorem velocityFiltered_keeps {filters : VelocityFilters K} {result : JointState K × VelocityFilters K}
    (kind : params.velFilterType ≠ .alphaBeta)
    (computed : velocityFiltered params state filters = some result) :
    located result.1 = located state := by
  unfold velocityFiltered at computed
  split at computed
  · split at computed
    · simp only [Option.bind_eq_bind, Option.bind_eq_some_iff, Option.some.injEq] at computed
      obtain ⟨_, _, _, _, rfl⟩ := computed
      rfl
    · cases computed
      rfl
  · exact absurd ‹_› kind
  · cases computed
    rfl

/-- A state that has been processed keeps its arrival, and its position is what becomes of the
earlier one. -/
theorem Processing.apply_some {processing : Processing K} (computed : processing.apply state = some next) :
    arrival next = arrival state ∧ processing.position next state.pos = some next.pos := by
  simp only [Processing.apply, Option.bind_eq_bind, Option.bind_eq_some_iff, Option.some.injEq] at computed
  obtain ⟨median, medianFound, velocity, velocityFound, rfl⟩ := computed
  have kept : arrival velocity.1 = arrival median.1 := by
    by_cases kind : processing.params.velFilterType = .alphaBeta
    · exact (alphaBeta_located kind rfl velocityFound).1
    · exact (Prod.mk.inj (velocityFiltered_keeps kind velocityFound)).2
  have arrived : arrival velocity.1 = arrival state :=
    kept.trans (medianFiltered_located rfl medianFound).1
  refine ⟨arrived, ?_⟩
  obtain ⟨_, otherMedian, otherFound, sameMedian⟩ := medianFiltered_located
    (show located { toJointSpace processing.params velocity.1 with pos := state.pos } = located state from
      Prod.ext rfl arrived) medianFound
  simp only [Processing.position, otherFound, Option.bind_eq_bind, Option.bind_some]
  by_cases kind : processing.params.velFilterType = .alphaBeta
  · obtain ⟨_, otherVelocity, velocityComputed, samePos⟩ :=
      alphaBeta_located kind sameMedian velocityFound
    rw [if_pos kind, velocityComputed]
    simp only [Option.map_some, Option.bind_some, samePos, toJointSpace]
  · have samePos : velocity.1.pos = median.1.pos :=
      (Prod.mk.inj (velocityFiltered_keeps kind velocityFound)).1
    rw [if_neg kind, (Prod.mk.inj sameMedian).1]
    simp only [samePos, toJointSpace]

/-- The states of an interface have been processed; of the rest only filters have changed. -/
structure ProcessesRow (index : Nat) (tables changed : JointTables K) (rows : CycleRows K)
    (states : List (JointState K)) : Prop where
  found : cycleRows index tables = some rows
  size : states.length = rows.states.length
  processed : ∀ (joint : Nat) (next : JointState K), states[joint]? = some next →
    ∃ settings state, processing index joint tables = some settings ∧
      rows.states[joint]? = some state ∧ settings.apply state = some next
  stored : changed.jointStatesPerCanInterface = tables.jointStatesPerCanInterface.set index states
  cmds : changed.jointCommandsPerCanInterface = tables.jointCommandsPerCanInterface
  params : changed.jointParametersPerCanInterface = tables.jointParametersPerCanInterface

theorem filterPositions_entries (filtered : filterPositions index tables = some changed) :
    ∃ rows states medians, cycleRows index tables = some rows ∧
      states.length = rows.states.length ∧
      (∀ (joint : Nat) (next : JointState K), states[joint]? = some next →
        ∃ params state after, rows.params[joint]? = some params ∧ rows.states[joint]? = some state ∧
          medianFiltered params state (jointEntry tables.jointPosMedianFiltersPerCanInterface index joint) =
            some (next, after)) ∧
      changed = { withStates index states tables with jointPosMedianFiltersPerCanInterface := medians } := by
  simp only [filterPositions, Option.bind_eq_bind, Option.bind_eq_some_iff,
    Option.some.injEq] at filtered
  obtain ⟨rows, found, filters, filtersFound, results, collected, rfl⟩ := filtered
  obtain ⟨size, entries⟩ := collect_eq_some.mp collected
  refine ⟨rows, results.map Prod.fst, _, found, (List.length_map _).trans size, ?_, rfl⟩
  intro joint next nextFound
  rw [List.getElem?_map, Option.map_eq_some_iff] at nextFound
  obtain ⟨result, resultFound, rfl⟩ := nextFound
  have bound := (List.getElem?_eq_some_iff.mp resultFound).1
  have computed := entries joint (size ▸ bound)
  simp only [resultFound, Option.bind_eq_some_iff] at computed
  obtain ⟨params, paramsFound, state, stateFound, computed⟩ := computed
  refine ⟨params, state, result.2, paramsFound, stateFound, ?_⟩
  rw [jointEntry, filtersFound, Option.bind_some]
  exact computed

theorem filterVelocities_entries (filtered : filterVelocities index tables = some changed) :
    ∃ rows states averages alphaBetas lastRxNs, cycleRows index tables = some rows ∧
      states.length = rows.states.length ∧
      (∀ (joint : Nat) (next : JointState K), states[joint]? = some next →
        ∃ params state after, rows.params[joint]? = some params ∧ rows.states[joint]? = some state ∧
          velocityFiltered params state
            { movingAverage := jointEntry tables.jointVelFiltersPerCanInterface index joint
              alphaBeta := jointEntry tables.jointAbFiltersPerCanInterface index joint
              lastRxNs := jointEntry tables.lastJointRxNsPerCanInterface index joint } =
            some (next, after)) ∧
      changed = { withStates index states tables with
        jointVelFiltersPerCanInterface := averages
        jointAbFiltersPerCanInterface := alphaBetas
        lastJointRxNsPerCanInterface := lastRxNs } := by
  simp only [filterVelocities, Option.bind_eq_bind, Option.bind_eq_some_iff,
    Option.some.injEq] at filtered
  obtain ⟨rows, found, averages, averagesFound, alphaBetas, alphaBetasFound, lastRxNs, lastFound,
    results, collected, rfl⟩ := filtered
  obtain ⟨size, entries⟩ := collect_eq_some.mp collected
  refine ⟨rows, results.map Prod.fst, _, _, _, found, (List.length_map _).trans size, ?_, rfl⟩
  intro joint next nextFound
  rw [List.getElem?_map, Option.map_eq_some_iff] at nextFound
  obtain ⟨result, resultFound, rfl⟩ := nextFound
  have bound := (List.getElem?_eq_some_iff.mp resultFound).1
  have computed := entries joint (size ▸ bound)
  simp only [resultFound, Option.bind_eq_some_iff] at computed
  obtain ⟨params, paramsFound, state, stateFound, computed⟩ := computed
  refine ⟨params, state, result.2, paramsFound, stateFound, ?_⟩
  simp only [jointEntry, averagesFound, alphaBetasFound, lastFound, Option.bind_some]
  exact computed

theorem rescaleStates_entries (rescaled : rescaleStates index tables = some changed) :
    ∃ rows states, cycleRows index tables = some rows ∧ states.length = rows.states.length ∧
      (∀ (joint : Nat) (next : JointState K), states[joint]? = some next →
        ∃ params state, rows.params[joint]? = some params ∧ rows.states[joint]? = some state ∧
          next = toJointSpace params state) ∧
      changed = withStates index states tables := by
  simp only [rescaleStates, changeStates, Option.bind_eq_bind, Option.bind_eq_some_iff,
    Option.some.injEq] at rescaled
  obtain ⟨rows, found, states, collected, rfl⟩ := rescaled
  obtain ⟨size, entries⟩ := collect_eq_some.mp collected
  refine ⟨rows, states, found, size, ?_, rfl⟩
  intro joint next nextFound
  have bound := (List.getElem?_eq_some_iff.mp nextFound).1
  have computed := entries joint (size ▸ bound)
  simp only [nextFound, Option.bind_eq_bind, Option.bind_eq_some_iff, Option.some.injEq] at computed
  obtain ⟨params, paramsFound, state, stateFound, rfl⟩ := computed
  exact ⟨params, state, paramsFound, stateFound, rfl⟩

theorem processStates_rows
    (processed : processStates index tables messages = some (changed, written)) :
    ∃ rows states, ProcessesRow index tables changed rows states := by
  simp only [processStates, Option.bind_eq_bind, Option.bind_eq_some_iff, Option.some.injEq,
    Prod.mk.injEq] at processed
  obtain ⟨_, _, _, positions, _, velocities, _, _, _, rescales, rfl, _⟩ := processed
  obtain ⟨rows, medianStates, medians, found, medianSize, medianEntries, rfl⟩ :=
    filterPositions_entries positions
  obtain ⟨velocityRows, velocityStates, _, _, _, velocityFound, velocitySize, velocityEntries, rfl⟩ :=
    filterVelocities_entries velocities
  obtain ⟨finalRows, states, finalFound, size, entries, rfl⟩ := rescaleStates_entries rescales
  cases (cycleRows_withStates found medianStates).symm.trans velocityFound
  cases (cycleRows_withStates (cycleRows_withStates found medianStates) velocityStates).symm.trans finalFound
  refine ⟨rows, states, found, size.trans (velocitySize.trans medianSize), ?_, ?_, rfl, rfl⟩
  · intro joint next nextFound
    obtain ⟨params, velocityState, paramsFound, velocityStateFound, rfl⟩ := entries joint next nextFound
    obtain ⟨_, medianState, filters, velocityParams, medianStateFound, velocity⟩ :=
      velocityEntries joint velocityState velocityStateFound
    cases paramsFound.symm.trans velocityParams
    obtain ⟨_, state, median', medianParams, stateFound, median⟩ :=
      medianEntries joint medianState medianStateFound
    cases paramsFound.symm.trans medianParams
    have row := (cycleRows_eq_some.mp found).2.2
    refine ⟨.of tables index joint params, state, ?_, stateFound, ?_⟩
    · rw [processing, jointEntry, row, Option.bind_some, paramsFound, Option.map_some]
    · simp only [Processing.apply, Processing.of, median, Option.bind_eq_bind, Option.bind_some]
      rw [Option.bind_eq_some_iff]
      exact ⟨_, velocity, rfl⟩
  · simp only [withStates, List.set_set]

end Processing

section WriteBack

variable {tables : JointTables K} {messages written : JointMessages K} {rows : CycleRows K}
variable {params : JointParameters K} {state : JointState K} {cmdRxNs txFillEndNs : Int}

/-- The written position and the stored arrival time at a message index. -/
def stampAt (messages : JointMessages K) (msgIdx : Nat) : Option K × Option Int :=
  (messages.position[msgIdx]?, messages.jointRxNs[msgIdx]?)

/-- The arrival time is that of the state, if it has just replied. -/
def writtenRxNs (state : JointState K) (old : Option Int) : Option Int :=
  if state.communicationStatus = .success then some state.rxTimestampNs else old

/-- Only the entries of the joint are written. -/
def WritesStamp (params : JointParameters K) (state : JointState K)
    (before after : JointMessages K) : Prop :=
  stampAt after params.msgIdx = (some (state.pos + params.zeroPosition),
    writtenRxNs state before.jointRxNs[params.msgIdx]?) ∧
  ∀ other, other ≠ params.msgIdx → stampAt after other = stampAt before other

omit [Scalar K] in
theorem stampAt_of_same (same : stateEntries written = stateEntries messages) (msgIdx : Nat) :
    stampAt written msgIdx = stampAt messages msgIdx := by
  simp only [stateEntries, Prod.mk.injEq] at same
  simp only [stampAt, same]

theorem storeState_stamps (stored : storeState params state messages = some written) :
    WritesStamp params state messages written := by
  simp only [storeState, Option.bind_eq_bind, Option.bind_eq_some_iff, storeAt_eq_some,
    Option.some.injEq] at stored
  obtain ⟨_, ⟨bound, rfl⟩, _, _, _, _, _, _, times, timed, rfl⟩ := stored
  rw [storeRxNs] at timed
  simp only [WritesStamp, stampAt, writtenRxNs, List.getElem?_set_self bound, Prod.mk.injEq, true_and]
  split at timed
  · rename_i replied
    obtain ⟨timesBound, rfl⟩ := storeAt_eq_some.mp timed
    rw [if_pos replied, List.getElem?_set_self timesBound]
    refine ⟨rfl, fun other different => ?_⟩
    rw [List.getElem?_set_ne (Ne.symm different), List.getElem?_set_ne (Ne.symm different)]
    exact ⟨rfl, rfl⟩
  · rename_i silent
    cases timed
    rw [if_neg silent]
    refine ⟨rfl, fun other different => ?_⟩
    rw [List.getElem?_set_ne (Ne.symm different)]
    exact ⟨rfl, rfl⟩

theorem writeBackJoint_stamps
    (stored : writeBackJoint cmdRxNs txFillEndNs params state messages = some written) :
    WritesStamp params state messages written := by
  obtain ⟨first, storing, same⟩ := writeBackJoint_stores stored
  obtain ⟨own, others⟩ := storeState_stamps storing
  exact ⟨(stampAt_of_same same _).trans own,
    fun other different => (stampAt_of_same same other).trans (others other different)⟩

/-- The entries of a joint with its own message index. -/
theorem writeBack_stamps (written_back : writeBack index cmdRxNs txFillEndNs tables messages =
      some written) (found : cycleRows index tables = some rows)
    (stateFound : rows.states[joint]? = some state) (paramsFound : rows.params[joint]? = some params)
    (own : OwnIndex rows joint params) :
    stampAt written params.msgIdx = (some (state.pos + params.zeroPosition),
      writtenRxNs state messages.jointRxNs[params.msgIdx]?) := by
  simp only [writeBack, found, Option.bind_eq_bind, Option.bind_some] at written_back
  have reached : stampAt written params.msgIdx = if joint < rows.states.length then
      (some (state.pos + params.zeroPosition), writtenRxNs state messages.jointRxNs[params.msgIdx]?)
      else stampAt messages params.msgIdx := by
    apply accumulate_invariant (fun reached value => stampAt value params.msgIdx = if joint < reached
      then (some (state.pos + params.zeroPosition),
        writtenRxNs state messages.jointRxNs[params.msgIdx]?)
      else stampAt messages params.msgIdx) rfl ?_ written_back
    intro place before after _ earlier step
    simp only [Option.bind_eq_some_iff] at step
    obtain ⟨otherParams, otherFound, otherState, otherStateFound, step⟩ := step
    obtain ⟨writesOwn, keepsOthers⟩ := writeBackJoint_stamps step
    by_cases same : place = joint
    · subst same
      cases paramsFound.symm.trans otherFound
      cases stateFound.symm.trans otherStateFound
      rw [if_neg (by omega)] at earlier
      rw [writesOwn, if_pos (by omega), (Prod.mk.inj earlier).2]
    · rw [keepsOthers _ fun equal => same (own place otherParams otherFound equal.symm), earlier]
      have still : joint < place + 1 ↔ joint < place := by omega
      simp only [still]
  rw [reached, if_pos (List.getElem?_eq_some_iff.mp stateFound).1]

/-- The entries of other message indices. -/
theorem writeBack_others (written_back : writeBack index cmdRxNs txFillEndNs tables messages =
      some written) (found : cycleRows index tables = some rows) {msgIdx : Nat}
    (others : ∀ (joint : Nat) (params : JointParameters K), joint < rows.states.length →
      rows.params[joint]? = some params → params.msgIdx ≠ msgIdx) :
    stampAt written msgIdx = stampAt messages msgIdx := by
  simp only [writeBack, found, Option.bind_eq_bind, Option.bind_some] at written_back
  apply accumulate_invariant (fun _ value => stampAt value msgIdx = stampAt messages msgIdx) rfl ?_
    written_back
  intro joint before after bound same step
  simp only [Option.bind_eq_some_iff] at step
  obtain ⟨params, paramsFound, _, _, step⟩ := step
  rw [(writeBackJoint_stamps step).2 msgIdx (others joint params bound paramsFound).symm, same]

end WriteBack

/-- A reply of a joint, and the joint's motor. -/
structure Heard (K : Type) where
  config : JointConfig K
  reply : Reply

/-- The position that a reply has measured. -/
def Heard.position (heard : Heard K) : K := (decodeReply heard.config heard.reply.frame).pos

/-- A successful joint has replied, and its state has the arrival time of the reply. -/
def Answers (heard : Option (Heard K)) (state : JointState K) : Prop :=
  state.communicationStatus = .success →
    ∃ reply, heard = some reply ∧ state.rxTimestampNs = reply.reply.rxNs

omit [Scalar K] in
theorem Answers.of_arrival {heard : Option (Heard K)} {state after : JointState K}
    (answers : Answers heard state) (same : arrival after = arrival state) : Answers heard after := by
  have status : after.communicationStatus = state.communicationStatus := congrArg Arrival.status same
  have rxNs : after.rxTimestampNs = state.rxTimestampNs := congrArg Arrival.rxNs same
  unfold Answers
  rwa [status, rxNs]

/-- The position of a joint of which a cycle has heard this. -/
def heardPosition (heard : Option (Heard K)) (before : K) : K := (heard.map Heard.position).getD before

/-- The rows of commands and states have an entry for each joint of their interface. -/
def Matched (node : Node K) : Prop :=
  ∀ (index : Nat) (joints : List (JointConfig K)) (rows : CycleRows K),
    node.jointLists[index]? = some (some joints) → cycleRows index node.tables = some rows →
    rows.cmds.length = joints.length ∧ rows.states.length = joints.length

section Exchange

variable [Libm K] {node replied : Node K} {rows : CycleRows K} {can : CubemarsCan K}
variable {cmds : List (JointCmd K)} {exchanged : Exchange K} {frequency : K}

/-- The last reply of a joint that a cycle from this state reads, if the cycle gets that far. -/
def heard (index joint : Nat) (env : CycleEnv) (node : Node K) : Option (Heard K) :=
  match (untilReplies index env).run node with
  | (.returned (.ok _), _) => do
      let can ← node.canInterfaces[index]?.join
      let config ← can.jointConfigs[joint]?
      let reply ← replyRead index joint node
      some { config, reply }
  | _ => none

theorem Exchanges.sized {result : Except Exception Unit} (matched : Matched node)
    (exchanges : Exchanges index env node rows can cmds result exchanged) :
    Exchange.Sized { can, states := rows.states } ∧ cmds.length = can.jointConfigs.length := by
  have joints : node.jointLists[index]? = some (some can.jointConfigs) := by
    rw [jointLists, List.getElem?_map, Option.join_eq_some_iff.mp exchanges.canFound]
    rfl
  obtain ⟨cmdCount, stateCount⟩ := matched index can.jointConfigs rows joints exchanges.rowsFound
  obtain ⟨_, _, built⟩ := exchanges.loaded
  exact ⟨stateCount, (motorCmds_length built).trans cmdCount⟩

theorem Exchanges.hears (matched : Matched node)
    (exchanges : Exchanges index env node rows can cmds (.ok ()) exchanged)
    (reached : (untilReplies index env).run node = (.returned (.ok frequency), replied)) :
    exchanged.can.jointConfigs = can.jointConfigs ∧ exchanged.states.length = rows.states.length ∧
    ∀ (joint : Nat) (before state : JointState K), rows.states[joint]? = some before →
      exchanged.states[joint]? = some state →
      state.pos = heardPosition (heard index joint env node) before.pos ∧
        Answers (heard index joint env node) state := by
  obtain ⟨sized, counted⟩ := exchanges.sized matched
  obtain ⟨delivery, sent, delivered⟩ := sendAndReceive_delivers sized counted
  cases sent.symm.trans (Path.attempt_run_ok.mp exchanges.attempt)
  refine ⟨delivered.frame.jointConfigs, delivered.frame.states, ?_⟩
  intro joint before state beforeFound stateFound
  obtain ⟨config, first, configFound, firstFound, report⟩ := delivered.state_report sized stateFound
  cases beforeFound.symm.trans firstFound
  have read : replyRead index joint node = lastReply can.jointConfigs
      (Exchange.events { can, states := rows.states }) joint can.jointConfigs.length := by
    rw [replyRead, exchanges.canFound]
    rfl
  have heardAs : heard index joint env node =
      (replyRead index joint node).map fun reply => { config, reply } := by
    simp only [heard, reached, exchanges.canFound, configFound, Option.bind_eq_bind, Option.bind_some]
    cases replyRead index joint node <;> rfl
  have measured : (Report.ofState state).measurement = ((replyRead index joint node).map fun reply =>
      decodeReply config reply.frame).getD (Report.ofState before).measurement := by
    rw [report, read]
    exact (reportAfter_measurement _).1
  have answered : Answers (heard index joint env node) state := by
    intro success
    obtain ⟨other, reply, otherFound, last, replyReport⟩ :=
      delivered.success_report sized stateFound success
    rw [heardAs, read, last]
    exact ⟨_, rfl, congrArg Report.rxNs replyReport⟩
  refine ⟨(congrArg Measurement.pos measured).trans ?_, answered⟩
  rw [heardAs, heardPosition]
  cases replyRead index joint node <;> rfl

end Exchange

section Cycle

variable {node replied after : Node K} {exit : CycleExit} {frequency : K} {rows : CycleRows K}

theorem processStates_same {tables changed : JointTables K} {messages written : JointMessages K}
    (processed : processStates index tables messages = some (changed, written)) :
    stateEntries written = stateEntries messages := by
  simp only [processStates, Option.bind_eq_bind, Option.bind_eq_some_iff, Option.some.injEq,
    Prod.mk.injEq] at processed
  obtain ⟨_, _, _, _, _, _, _, published, _, _, _, rfl⟩ := processed
  exact publishUnfiltered_same published

/-- What is written of the states of an interface in a cycle that ends like this. -/
structure WrittenOf (index : Nat) (exit : CycleExit) (before after : Node K) : Prop where
  params : after.tables.jointParametersPerCanInterface = before.tables.jointParametersPerCanInterface
  stopped : ¬ exit.WroteBack → stateEntries after.messages = stateEntries before.messages
  written : exit.WroteBack → ∃ cmdRxNs txFillEndNs unfiltered,
    stateEntries unfiltered = stateEntries before.messages ∧
      writeBack index cmdRxNs txFillEndNs after.tables unfiltered = some after.messages

/-- What becomes of a position behind the exchange of a cycle that ends like this. -/
def positionAfter (exit : CycleExit) (settings : Option (Processing K)) (arrived : JointState K)
    (pos : K) : Option K :=
  if exit.Processed then settings.bind fun settings => settings.position arrived pos else some pos

/-- The states of an interface behind a cycle that ends like this. -/
structure PositionsOf (index : Nat) (exit : CycleExit) (tables : JointTables K)
    (before after : List (JointState K)) : Prop where
  size : after.length = before.length
  entries : ∀ (joint : Nat) (state next : JointState K), before[joint]? = some state →
    after[joint]? = some next → arrival next = arrival state ∧
      positionAfter exit (processing index joint tables) next state.pos = some next.pos

theorem ProcessesRow.positions {tables changed : JointTables K} {states : List (JointState K)}
    (processes : ProcessesRow index tables changed rows states) (processed : exit.Processed) :
    PositionsOf index exit tables rows.states states where
  size := processes.size
  entries := by
    intro joint state next found nextFound
    obtain ⟨settings, _, settingsFound, stateFound, computed⟩ := processes.processed joint next nextFound
    cases found.symm.trans stateFound
    obtain ⟨arrived, position⟩ := Processing.apply_some computed
    refine ⟨arrived, ?_⟩
    rw [positionAfter, if_pos processed, settingsFound, Option.bind_some, position]

theorem handleReplies_positions (found : cycleRows index replied.tables = some rows)
    (run : (handleReplies index env frequency).run replied = (.returned exit, after)) :
    WrittenOf index exit replied after ∧ ∃ states,
      PositionsOf index exit replied.tables rows.states states ∧
      after.tables.jointStatesPerCanInterface =
        replied.tables.jointStatesPerCanInterface.set index states := by
  rcases handleReplies_run run with ⟨rfl, same⟩ | ⟨tables, unfiltered, processed, ended⟩
  · simp only [data, CycleData.mk.injEq] at same
    have silent : ¬ CycleExit.tooManyErrors.WroteBack := by decide
    refine ⟨⟨by rw [same.1], fun _ => by rw [same.2.2], fun wrote => absurd wrote silent⟩, rows.states,
      ⟨rfl, ?_⟩, ?_⟩
    · intro joint state next stateFound nextFound
      cases stateFound.symm.trans nextFound
      exact ⟨rfl, if_neg (by decide)⟩
    · rw [same.1, set_same_getElem? (cycleRows_eq_some.mp found).2.1]
  · have entries := processStates_same processed
    obtain ⟨processedRows, states, processes⟩ := processStates_rows processed
    cases found.symm.trans processes.found
    rcases ended with ⟨rfl, same⟩ | ⟨wrote, cmdRxNs, txFillEndNs, messages, written, same⟩
    · simp only [data, CycleData.mk.injEq] at same
      have silent : ¬ CycleExit.stoppedBeforeWriteBack.WroteBack := by decide
      refine ⟨⟨by rw [same.1, processes.params], fun _ => by rw [same.2.2, entries],
        fun wrote => absurd wrote silent⟩, states, processes.positions (.inl rfl), ?_⟩
      rw [same.1, processes.stored]
    · simp only [data, CycleData.mk.injEq] at same
      refine ⟨⟨by rw [same.1, processes.params], fun silent => absurd wrote silent, fun _ => ?_⟩, states,
        processes.positions (.inr wrote), by rw [same.1, processes.stored]⟩
      refine ⟨cmdRxNs, txFillEndNs, unfiltered, entries, ?_⟩
      rw [same.1, same.2.2, written]

variable [Libm K]

/-- What a cycle makes of the positions of its interface. -/
structure CyclePositions (index : Nat) (env : CycleEnv) (node : Node K) (exit : CycleExit)
    (after : Node K) : Prop where
  written : WrittenOf index exit node after
  others : ∀ other joint, other ≠ index →
    jointEntry after.tables.jointStatesPerCanInterface other joint =
      jointEntry node.tables.jointStatesPerCanInterface other joint
  own : ∀ joint state, jointEntry node.tables.jointStatesPerCanInterface index joint = some state →
    ∃ next, jointEntry after.tables.jointStatesPerCanInterface index joint = some next ∧
      positionAfter exit (processing index joint node.tables) next
        (heardPosition (heard index joint env node) state.pos) = some next.pos
  answered : exit.WroteBack → ∀ joint next,
    jointEntry after.tables.jointStatesPerCanInterface index joint = some next →
      Answers (heard index joint env node) next ∧
        (jointEntry node.tables.jointStatesPerCanInterface index joint).isSome = true

theorem cyclePositions_unreached {early : CycleExit}
    (first : (untilReplies index env).run node = (.returned (.error early), after))
    (unprocessed : ¬ early.Processed) (same : after.data = node.data) :
    CyclePositions index env node early after := by
  have silent : ¬ early.WroteBack := fun wrote => unprocessed (.inr wrote)
  simp only [data, CycleData.mk.injEq] at same
  constructor
  case written =>
    exact ⟨by rw [same.1], fun _ => by rw [same.2.2], fun wrote => absurd wrote silent⟩
  case others => exact fun _ _ _ => by rw [same.1]
  case own =>
    intro joint state found
    have unheard : heard index joint env node = none := by simp only [heard, first]
    rw [same.1, unheard]
    exact ⟨state, found, if_neg unprocessed⟩
  case answered => exact fun wrote => absurd wrote silent

theorem cyclePositions_reached {can : CubemarsCan K} {cmds : List (JointCmd K)}
    {exchanged : Exchange K} (matched : Matched node)
    (first : (untilReplies index env).run node = (.returned (.ok frequency), replied))
    (exchanges : Exchanges index env node rows can cmds (.ok ()) exchanged)
    (repliedData : replied.data = exchangedData index exchanged
      { node.data with tables := withCmds index cmds node.tables })
    (run : (handleReplies index env frequency).run replied = (.returned exit, after)) :
    CyclePositions index env node exit after := by
  obtain ⟨_, count, states⟩ := exchanges.hears matched first
  simp only [data, exchangedData, CycleData.mk.injEq] at repliedData
  obtain ⟨repliedTables, _, repliedMessages⟩ := repliedData
  have found : cycleRows index replied.tables = some { rows with cmds, states := exchanged.states } := by
    rw [repliedTables]
    exact cycleRows_withStates (cycleRows_withCmds exchanges.rowsFound cmds) exchanged.states
  obtain ⟨written, final, positions, stored⟩ := handleReplies_positions found run
  have row := (cycleRows_eq_some.mp exchanges.rowsFound).2.1
  rw [repliedTables] at stored
  simp only [withStates, withCmds, List.set_set] at stored
  have size : final.length = rows.states.length := positions.size.trans count
  have settings (joint : Nat) : processing index joint replied.tables = processing index joint node.tables := by
    rw [repliedTables]
    rfl
  have entry (joint : Nat) (before next : JointState K) (beforeFound : rows.states[joint]? = some before)
      (nextFound : final[joint]? = some next) :
      positionAfter exit (processing index joint node.tables) next
        (heardPosition (heard index joint env node) before.pos) = some next.pos ∧
          Answers (heard index joint env node) next := by
    have bound := (List.getElem?_eq_some_iff.mp nextFound).1
    have stateFound := List.getElem?_eq_getElem (positions.size ▸ bound : joint < exchanged.states.length)
    obtain ⟨measured, answers⟩ := states joint before _ beforeFound stateFound
    obtain ⟨arrived, position⟩ := positions.entries joint _ next stateFound nextFound
    rw [← measured, ← settings]
    exact ⟨position, answers.of_arrival arrived⟩
  constructor
  case written =>
    refine ⟨?_, ?_, ?_⟩
    · rw [written.params, repliedTables]
      rfl
    · rw [← repliedMessages]
      exact written.stopped
    · rw [← repliedMessages]
      exact written.written
  case others =>
    intro other joint different
    rw [stored, jointEntry_set row, if_neg different]
  case own =>
    intro joint before beforeFound
    rw [jointEntry, row, Option.bind_some] at beforeFound
    have bound : joint < final.length := by
      rw [size]
      exact (List.getElem?_eq_some_iff.mp beforeFound).1
    have nextFound := List.getElem?_eq_getElem bound
    refine ⟨_, ?_, (entry joint before _ beforeFound nextFound).1⟩
    rw [stored, jointEntry_set row, if_pos rfl, nextFound]
  case answered =>
    intro _ joint next nextFound
    rw [stored, jointEntry_set row, if_pos rfl] at nextFound
    have bound : joint < rows.states.length := by
      rw [← size]
      exact (List.getElem?_eq_some_iff.mp nextFound).1
    have beforeFound := List.getElem?_eq_getElem bound
    refine ⟨(entry joint _ next beforeFound nextFound).2, ?_⟩
    rw [jointEntry, row, Option.bind_some, beforeFound]
    rfl

theorem canCycleCallback_positions (matched : Matched node)
    (run : (canCycleCallback index env).run node = (.returned exit, after)) :
    CyclePositions index env node exit after := by
  rw [canCycleCallback_eq, Path.bind_run_returned] at run
  obtain ⟨result, replied, first, run⟩ := run
  have ends := untilReplies_run first
  cases result with
  | error early =>
      cases run
      obtain ⟨unprocessed, same | ⟨rows, can, cmds, exception, exchanged, exchanges⟩⟩ := ends
      · exact cyclePositions_unreached first unprocessed same
      · -- an exchange over rows that match does not throw
        obtain ⟨sized, counted⟩ := exchanges.sized matched
        obtain ⟨_, sent, _⟩ := sendAndReceive_delivers sized counted
        cases sent.symm.trans (Path.attempt_run_error.mp exchanges.attempt)
  | ok frequency =>
      obtain ⟨rows, can, cmds, exchanged, exchanges, repliedData⟩ := ends
      exact cyclePositions_reached matched first exchanges repliedData run

end Cycle

end CubemarsDriver.Node

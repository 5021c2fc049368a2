import CubemarsDriver.Node.LoadedCommands
import CubemarsDriver.Node.Provenance
import CubemarsDriver.Node.TablesInStep

namespace CubemarsDriver.Node

open Foundation Can

/-! # The places of the joints

Each joint of an interface has a command and a state, and an entry of its own in the
messages. -/

variable {K : Type} [Scalar K] {index joint : Nat} {env : CycleEnv} {node after : Node K}
variable {tables changed : JointTables K}

/-- The sizes of the rows that a cycle works on. -/
def workSizes (tables : JointTables K) : List Nat × List Nat × List Nat :=
  (tables.jointCommandsPerCanInterface.map List.length,
    tables.jointStatesPerCanInterface.map List.length,
    tables.jointParametersPerCanInterface.map List.length)

/-- Each joint with parameters has a command and a state. -/
def Level (tables : JointTables K) : Prop :=
  (workSizes tables).1 = (workSizes tables).2.2 ∧ (workSizes tables).2.1 = (workSizes tables).2.2

omit [Scalar K] in
theorem Level.of_sizes (level : Level tables) (same : workSizes changed = workSizes tables) :
    Level changed := by
  unfold Level at level ⊢
  rwa [same]

omit [Scalar K] in
theorem Level.resize (level : Level tables) (count : Nat) : Level (JointTables.resize tables count) := by
  obtain ⟨cmds, states⟩ := level
  simp only [workSizes] at cmds states
  simp only [Level, workSizes, JointTables.resize, resize_sizes, cmds, states, and_self]

theorem Level.appendJoint {settings : JointSettings K} (level : Level tables)
    (appended : appendJoint settings tables = some changed) : Level changed := by
  simp only [Node.appendJoint, Option.bind_eq_bind, Option.bind_eq_some_iff,
    Option.some.injEq] at appended
  obtain ⟨params, paramsPushed, cmds, cmdsPushed, states, statesPushed, _, _, _, _, _, _, _, _, rfl⟩ :=
    appended
  obtain ⟨sameCmds, sameStates⟩ := level
  simp only [workSizes] at sameCmds sameStates
  simp only [Level, workSizes, pushAt_sizes paramsPushed, pushAt_sizes cmdsPushed,
    pushAt_sizes statesPushed, sameCmds, sameStates, and_self]

theorem Level.applyToTables {update : PerJointUpdate K} (level : Level tables)
    (applied : applyToTables index joint update tables = some changed) : Level changed := by
  simp only [Node.applyToTables, Option.bind_eq_bind, Option.bind_eq_some_iff,
    Option.some.injEq] at applied
  obtain ⟨_, params, _, _, _, _, _, _, rfl⟩ := applied
  apply level.of_sizes
  simp only [workSizes, changeEntry_sizes params]

theorem ProcessesRow.workSizes {rows : CycleRows K} {states : List (JointState K)}
    (processes : ProcessesRow index tables changed rows states) : workSizes changed = workSizes tables := by
  have row := (cycleRows_eq_some.mp processes.found).2.1
  simp only [Node.workSizes, processes.stored, processes.cmds, processes.params,
    set_sizes row processes.size]

theorem workSizes_measure : CycleMeasure (workSizes (K := K)) where
  cmds index rows cmds tables found sized := by
    simp only [workSizes, withCmds, set_sizes (cycleRows_eq_some.mp found).1 sized]
  states index rows states tables found sized := by
    simp only [workSizes, withStates, set_sizes (cycleRows_eq_some.mp found).2.1 sized]
  processed _ _ _ _ _ processed := by
    obtain ⟨_, _, processes⟩ := processStates_rows processed
    exact processes.workSizes

theorem level_rules [Libm K] : TableRules (Level (K := K)) where
  empty := ⟨rfl, rfl⟩
  resize _ count level := level.resize count
  append _ _ _ level appended := level.appendJoint appended
  apply _ _ _ _ _ level applied := level.applyToTables applied
  cycle _ _ := workSizes_measure.canCycleCallback_keeps.weaken fun _ _ same level => level.of_sizes same

/-- The message index and the zero position of every joint. -/
def placements (tables : JointTables K) : List (List (Nat × K)) :=
  tables.jointParametersPerCanInterface.map fun row =>
    row.map fun params => (params.msgIdx, params.zeroPosition)

omit [Scalar K] in
theorem jointEntry_placements (tables : JointTables K) (index joint : Nat) :
    jointEntry (placements tables) index joint =
      (jointEntry tables.jointParametersPerCanInterface index joint).map
        fun params => (params.msgIdx, params.zeroPosition) :=
  jointEntry_map _ _ _ _

/-- Each joint of an interface has its parameters, and a message index of its own. -/
structure Placed (node : Node K) : Prop where
  sized : ∀ (index : Nat) (joints : List (JointConfig K)) (row : List (Nat × K)),
    node.jointLists[index]? = some (some joints) → (placements node.tables)[index]? = some row →
    row.length = joints.length
  unshared : ∀ index joint index' joint' msgIdx zero zero',
    jointEntry (placements node.tables) index joint = some (msgIdx, zero) →
    jointEntry (placements node.tables) index' joint' = some (msgIdx, zero') →
    index = index' ∧ joint = joint'

omit [Scalar K] in
theorem Placed.of_same (placed : Placed node) (lists : after.jointLists = node.jointLists)
    (places : placements after.tables = placements node.tables) : Placed after := by
  constructor
  · rw [lists, places]
    exact placed.sized
  · rw [places]
    exact placed.unshared

omit [Scalar K] in
theorem placed_of_empty (empty : after.tables = {}) : Placed after := by
  constructor <;> simp [empty, placements, jointEntry]

omit [Scalar K] in
theorem Placed.retained (placed : Placed node) (retains : Retains node after) : Placed after := by
  rcases retains.tables with emptied | ⟨tables, _⟩
  · exact placed_of_empty emptied.1
  · rcases retains.lists with cleared | lists
    · refine ⟨fun _ _ _ impossible => by simp [cleared] at impossible, ?_⟩
      rw [tables]
      exact placed.unshared
    · exact placed.of_same lists (by rw [tables])

theorem applyToTables_placements {update : PerJointUpdate K}
    (applied : applyToTables index joint update tables = some changed) :
    placements changed = placements tables := by
  simp only [applyToTables, Option.bind_eq_bind, Option.bind_eq_some_iff, Option.some.injEq] at applied
  obtain ⟨params, paramsChanged, _, _, _, _, _, _, rfl⟩ := applied
  exact changeEntry_map _ paramsChanged fun _ => rfl

theorem applyToTables_states {update : PerJointUpdate K}
    (applied : applyToTables index joint update tables = some changed) :
    changed.jointStatesPerCanInterface = tables.jointStatesPerCanInterface := by
  simp only [applyToTables, Option.bind_eq_bind, Option.bind_eq_some_iff, Option.some.injEq] at applied
  obtain ⟨_, _, _, _, _, _, _, _, rfl⟩ := applied
  rfl

theorem ConfiguredBy.placed {assignment : Assignment K} {left : Node K} {accepted : Accepted K}
    (configured : ConfiguredBy assignment left accepted node) : Placed node := by
  constructor
  case sized =>
    intro index joints row found placesFound
    obtain ⟨bound, rfl⟩ := configured.joints_eq found
    rw [placements, configured.params_eq, List.getElem?_map, rowsOf_getElem? _ bound,
      Option.map_some, Option.some.injEq] at placesFound
    rw [← placesFound]
    simp only [List.length_map]
  case unshared =>
    intro index joint index' joint' msgIdx zero zero' found found'
    rw [jointEntry_placements, Option.map_eq_some_iff] at found found'
    obtain ⟨params, entry, same⟩ := found
    obtain ⟨params', entry', same'⟩ := found'
    apply configured.unshared index joint index' joint' msgIdx
    · rw [jointEntry_indexRows, entry, Option.map_some, (Prod.mk.inj same).1]
    · rw [jointEntry_indexRows, entry', Option.map_some, (Prod.mk.inj same').1]

omit [Scalar K] in
theorem Placed.matched (placed : Placed node) (level : Level node.tables) : Matched node := by
  intro index joints rows joined found
  obtain ⟨cmds, states, params⟩ := cycleRows_eq_some.mp found
  have places : (placements node.tables)[index]? = some
      (rows.params.map fun params => (params.msgIdx, params.zeroPosition)) := by
    rw [placements, List.getElem?_map, params, Option.map_some]
  have size := placed.sized index joints _ joined places
  rw [List.length_map] at size
  obtain ⟨cmdSizes, stateSizes⟩ := level
  have cmdSize := congrArg (fun sizes => sizes[index]?) cmdSizes
  have stateSize := congrArg (fun sizes => sizes[index]?) stateSizes
  simp only [workSizes, List.getElem?_map, cmds, states, params, Option.map_some,
    Option.some.injEq] at cmdSize stateSize
  omega

section Written

variable {exit : CycleExit} {place : Nat × K} {stored : JointState K} {rows : CycleRows K} {msgIdx : Nat}

omit [Scalar K] in
/-- The parameters of a joint among the rows of its interface. -/
theorem placement_params
    (params : after.tables.jointParametersPerCanInterface = node.tables.jointParametersPerCanInterface)
    (rowsFound : cycleRows index after.tables = some rows) (joint : Nat) :
    jointEntry (placements node.tables) index joint =
      rows.params[joint]?.map fun params => (params.msgIdx, params.zeroPosition) := by
  rw [jointEntry_placements, ← params, jointEntry, (cycleRows_eq_some.mp rowsFound).2.2, Option.bind_some]

theorem WrittenOf.own (written : WrittenOf index exit node after) (placed : Placed node)
    (wrote : exit.WroteBack) (found : jointEntry (placements node.tables) index joint = some place)
    (storedFound : jointEntry after.tables.jointStatesPerCanInterface index joint = some stored) :
    stampAt after.messages place.1 =
      (some (stored.pos + place.2), writtenRxNs stored node.messages.jointRxNs[place.1]?) := by
  obtain ⟨cmdRxNs, txFillEndNs, unfiltered, entries, writes⟩ := written.written wrote
  obtain ⟨rows, rowsFound, _⟩ := Option.bind_eq_some_iff.mp writes
  have places := placement_params written.params rowsFound
  obtain ⟨params, paramsFound, rfl⟩ := Option.map_eq_some_iff.mp ((places joint).symm.trans found)
  rw [jointEntry, (cycleRows_eq_some.mp rowsFound).2.1, Option.bind_some] at storedFound
  have own : OwnIndex rows joint params := by
    intro other otherParams otherFound same
    have otherPlace := (places other).trans (congrArg (Option.map _) otherFound)
    rw [Option.map_some, same] at otherPlace
    exact (placed.unshared index other index joint _ _ _ otherPlace found).2
  simp only [stateEntries, Prod.mk.injEq] at entries
  rw [writeBack_stamps writes rowsFound storedFound paramsFound own, entries.2.2.2]

/-- Nothing is written for a message index that no joint with a state has. -/
theorem WrittenOf.others (written : WrittenOf index exit node after) (wrote : exit.WroteBack)
    (others : ∀ joint zero, jointEntry (placements node.tables) index joint = some (msgIdx, zero) →
      jointEntry after.tables.jointStatesPerCanInterface index joint = none) :
    stampAt after.messages msgIdx = stampAt node.messages msgIdx := by
  obtain ⟨cmdRxNs, txFillEndNs, unfiltered, entries, writes⟩ := written.written wrote
  obtain ⟨rows, rowsFound, _⟩ := Option.bind_eq_some_iff.mp writes
  rw [← stampAt_of_same entries, writeBack_others writes rowsFound]
  rintro joint params bound paramsFound rfl
  have place := placement_params written.params rowsFound joint
  rw [paramsFound, Option.map_some] at place
  have absent := others joint params.zeroPosition place
  rw [jointEntry, (cycleRows_eq_some.mp rowsFound).2.1, Option.bind_some,
    List.getElem?_eq_getElem bound] at absent
  cases absent

end Written

end CubemarsDriver.Node

import CubemarsDriver.Node.CycleRows

namespace CubemarsDriver

open Foundation Can

/-! # What a configured node has

Every interface has a row in each table, and a row has an entry for every joint
of the interface. -/

variable {K : Type}

structure InterfaceTables.Sized (interfaces : InterfaceTables K) (count : Nat) : Prop where
  errors : interfaces.numCanErrorsPerInterfaces.length = count
  cycleTimes : interfaces.lastCanCycleTimes.length = count
  cycleEnds : interfaces.lastCycleEndNsPerCanInterface.length = count
  frequency : interfaces.canInterfaceFrequencyMsg.length = count
  txFill : interfaces.canTxFillDurationMsg.length = count
  rx : interfaces.canRxDurationMsg.length = count
  processing : interfaces.canProcessingMsg.length = count
  gap : interfaces.canIntercycleGapMsg.length = count

structure JointMessages.Sized (messages : JointMessages K) (length : Nat) : Prop where
  position : messages.position.length = length
  velocity : messages.velocity.length = length
  effort : messages.effort.length = length
  temp : messages.jointTempMsg.length = length
  age : messages.jointStateAgeMsg.length = length
  rxDelivery : messages.jointRxDeliveryMsg.length = length
  rxHwTimestamp : messages.jointRxHwTimestampMsg.length = length
  replyAfterTx : messages.jointReplyAfterTxMsg.length = length
  cmdToBus : messages.jointCmdToBusLatencyMsg.length = length
  motorReply : messages.jointMotorReplyLatencyMsg.length = length
  enqueueToWire : messages.jointEnqueueToWireMsg.length = length
  rxNs : messages.jointRxNs.length = length
  rxDeliveryFloor : messages.jointRxDeliveryFloorNs.length = length
  rxHwBase : messages.jointRxHwBaseNs.length = length
  unfilteredVelocity : messages.unfilteredVelocityMsg.length = length
  unfilteredPosition : messages.unfilteredPositionMsg.length = length

/-- The lengths of the messages. -/
def JointMessages.lengths (messages : JointMessages K) : List Nat :=
  [messages.position.length, messages.velocity.length, messages.effort.length,
    messages.jointTempMsg.length, messages.jointStateAgeMsg.length,
    messages.jointRxDeliveryMsg.length, messages.jointRxHwTimestampMsg.length,
    messages.jointReplyAfterTxMsg.length, messages.jointCmdToBusLatencyMsg.length,
    messages.jointMotorReplyLatencyMsg.length, messages.jointEnqueueToWireMsg.length,
    messages.jointRxNs.length, messages.jointRxDeliveryFloorNs.length,
    messages.jointRxHwBaseNs.length, messages.unfilteredVelocityMsg.length,
    messages.unfilteredPositionMsg.length]

namespace Node

/-- Everything the tables hold for one interface, and the joints of the interface. -/
structure InterfaceRows (K : Type) where
  configs : List (JointConfig K)
  cmds : List (JointCmd K)
  states : List (JointState K)
  params : List (JointParameters K)
  averages : List (MovingAverage K)
  alphaBetas : List (AlphaBetaFilter K)
  medians : List (MedianFilter K)
  lastRxNs : List Int

def interfaceRows (index : Nat) (tables : JointTables K)
    (canInterfaces : List (Option (CubemarsCan K))) : Option (InterfaceRows K) := do
  let can ← canInterfaces[index]?.join
  let cmds ← tables.jointCommandsPerCanInterface[index]?
  let states ← tables.jointStatesPerCanInterface[index]?
  let params ← tables.jointParametersPerCanInterface[index]?
  let averages ← tables.jointVelFiltersPerCanInterface[index]?
  let alphaBetas ← tables.jointAbFiltersPerCanInterface[index]?
  let medians ← tables.jointPosMedianFiltersPerCanInterface[index]?
  let lastRxNs ← tables.lastJointRxNsPerCanInterface[index]?
  some { configs := can.jointConfigs, cmds, states, params, averages, alphaBetas, medians, lastRxNs }

structure InterfaceRows.Fit (rows : InterfaceRows K) (jointMsgLength : Nat) : Prop where
  cmds : rows.cmds.length = rows.configs.length
  states : rows.states.length = rows.configs.length
  params : rows.params.length = rows.configs.length
  averages : rows.averages.length = rows.configs.length
  alphaBetas : rows.alphaBetas.length = rows.configs.length
  medians : rows.medians.length = rows.configs.length
  lastRxNs : rows.lastRxNs.length = rows.configs.length
  msgIdx : ∀ params ∈ rows.params, params.msgIdx < jointMsgLength
  averagesReady : ∀ (joint : Nat) (params : JointParameters K) (filter : MovingAverage K),
    rows.params[joint]? = some params → rows.averages[joint]? = some filter →
    1 < params.velFilterSize → filter.Ready
  mediansReady : ∀ filter ∈ rows.medians, filter.Ready

/-- The rows of every interface fit it. -/
def RowsFit (jointMsgLength : Nat) (tables : JointTables K)
    (canInterfaces : List (Option (CubemarsCan K))) : Prop :=
  ∀ index, index < canInterfaces.length → ∃ rows,
    interfaceRows index tables canInterfaces = some rows ∧ rows.Fit jointMsgLength

/-- What `on_configure` sets up; of the comm threads only their number. -/
structure Setup (K : Type) where
  tables : JointTables K
  interfaces : InterfaceTables K
  messages : JointMessages K
  canInterfaces : List (Option (CubemarsCan K))
  threads : Nat
  jointCmdPtr : Option (JointCommand K)
  jointMsgLength : Nat

@[simp] def setup (node : Node K) : Setup K where
  tables := node.tables
  interfaces := node.interfaces
  messages := node.messages
  canInterfaces := node.canInterfaces
  threads := node.commThreads.length
  jointCmdPtr := node.jointCmdPtr
  jointMsgLength := node.jointMsgLength

structure Setup.Valid (setup : Setup K) : Prop where
  rows : RowsFit setup.jointMsgLength setup.tables setup.canInterfaces
  params : setup.tables.jointParametersPerCanInterface.length = setup.canInterfaces.length
  threads : setup.threads = setup.canInterfaces.length
  interfaces : setup.interfaces.Sized setup.canInterfaces.length
  messages : setup.messages.Sized setup.jointMsgLength
  command : ∀ command, setup.jointCmdPtr = some command → command.Sized setup.jointMsgLength

section Rows

variable {index other joint length : Nat} {tables after : JointTables K}
variable {canInterfaces : List (Option (CubemarsCan K))} {rows : InterfaceRows K}

theorem interfaceRows_eq_some : interfaceRows index tables canInterfaces = some rows ↔
    canInterfaces[index]?.join.map CubemarsCan.jointConfigs = some rows.configs ∧
      tables.jointCommandsPerCanInterface[index]? = some rows.cmds ∧
      tables.jointStatesPerCanInterface[index]? = some rows.states ∧
      tables.jointParametersPerCanInterface[index]? = some rows.params ∧
      tables.jointVelFiltersPerCanInterface[index]? = some rows.averages ∧
      tables.jointAbFiltersPerCanInterface[index]? = some rows.alphaBetas ∧
      tables.jointPosMedianFiltersPerCanInterface[index]? = some rows.medians ∧
      tables.lastJointRxNsPerCanInterface[index]? = some rows.lastRxNs := by
  simp only [interfaceRows, Option.bind_eq_bind, Option.bind_eq_some_iff, Option.some.injEq,
    Option.map_eq_some_iff]
  constructor
  · rintro ⟨can, canFound, _, cmds, _, states, _, params, _, averages, _, alphaBetas, _, medians, _,
      lastRxNs, rfl⟩
    exact ⟨⟨can, canFound, rfl⟩, cmds, states, params, averages, alphaBetas, medians, lastRxNs⟩
  · rintro ⟨⟨can, canFound, joints⟩, cmds, states, params, averages, alphaBetas, medians, lastRxNs⟩
    cases rows
    cases joints
    exact ⟨can, canFound, _, cmds, _, states, _, params, _, averages, _, alphaBetas, _, medians, _,
      lastRxNs, rfl⟩

theorem interfaceRows_cycleRows (found : interfaceRows index tables canInterfaces = some rows) :
    cycleRows index tables = some ⟨rows.cmds, rows.states, rows.params⟩ := by
  obtain ⟨_, cmds, states, params, _⟩ := interfaceRows_eq_some.mp found
  simp [cycleRows, cmds, states, params]

/-- A change of one row that leaves the others alone. -/
theorem RowsFit.update (index : Nat) (fits : RowsFit length tables canInterfaces)
    (others : ∀ other, other ≠ index →
      interfaceRows other after canInterfaces = interfaceRows other tables canInterfaces)
    (own : interfaceRows index after canInterfaces = some rows) (fit : rows.Fit length) :
    RowsFit length after canInterfaces := by
  intro other bound
  by_cases same : other = index
  · subst same
    exact ⟨rows, own, fit⟩
  · rw [others other same]
    exact fits other bound

theorem interfaceRows_withCmds (found : interfaceRows index tables canInterfaces = some rows)
    (cmds : List (JointCmd K)) :
    interfaceRows index (withCmds index cmds tables) canInterfaces = some { rows with cmds } := by
  have parts := interfaceRows_eq_some.mp found
  exact interfaceRows_eq_some.mpr ⟨parts.1, set_getElem?_self _ parts.2.1, parts.2.2⟩

theorem interfaceRows_withStates (found : interfaceRows index tables canInterfaces = some rows)
    (states : List (JointState K)) :
    interfaceRows index (withStates index states tables) canInterfaces =
      some { rows with states } := by
  have parts := interfaceRows_eq_some.mp found
  exact interfaceRows_eq_some.mpr
    ⟨parts.1, parts.2.1, set_getElem?_self _ parts.2.2.1, parts.2.2.2⟩

theorem RowsFit.withCmds {cmds : List (JointCmd K)} (fits : RowsFit length tables canInterfaces)
    (found : interfaceRows index tables canInterfaces = some rows) (fit : rows.Fit length)
    (sized : cmds.length = rows.cmds.length) :
    RowsFit length (withCmds index cmds tables) canInterfaces := by
  refine fits.update index (fun other different => ?_) (interfaceRows_withCmds found cmds)
    { fit with cmds := sized.trans fit.cmds }
  simp [interfaceRows, Node.withCmds, List.getElem?_set_ne (Ne.symm different)]

theorem RowsFit.withStates {states : List (JointState K)}
    (fits : RowsFit length tables canInterfaces)
    (found : interfaceRows index tables canInterfaces = some rows) (fit : rows.Fit length)
    (sized : states.length = rows.states.length) :
    RowsFit length (withStates index states tables) canInterfaces := by
  refine fits.update index (fun other different => ?_) (interfaceRows_withStates found states)
    { fit with states := sized.trans fit.states }
  simp [interfaceRows, Node.withStates, List.getElem?_set_ne (Ne.symm different)]

/-- An interface may be replaced by one with the same joints. -/
theorem interfaceRows_setCan {can changed : CubemarsCan K}
    (found : canInterfaces[index]?.join = some can)
    (joints : changed.jointConfigs = can.jointConfigs) (other : Nat) :
    interfaceRows other tables (canInterfaces.set index (some changed)) =
      interfaceRows other tables canInterfaces := by
  by_cases same : other = index
  · subst same
    simp only [interfaceRows, found, set_getElem?_self _ (Option.join_eq_some_iff.mp found),
      Option.join_some, Option.bind_eq_bind, Option.bind_some, joints]
  · simp only [interfaceRows, List.getElem?_set_ne (Ne.symm same)]

theorem RowsFit.setCan {can changed : CubemarsCan K} (fits : RowsFit length tables canInterfaces)
    (found : canInterfaces[index]?.join = some can)
    (joints : changed.jointConfigs = can.jointConfigs) :
    RowsFit length tables (canInterfaces.set index (some changed)) := by
  intro other bound
  rw [List.length_set] at bound
  rw [interfaceRows_setCan found joints]
  exact fits other bound

end Rows

section Entries

variable {joint length : Nat} {rows : InterfaceRows K}
variable (fit : rows.Fit length) (bound : joint < rows.configs.length)

include fit bound

theorem InterfaceRows.Fit.params_exists :
    ∃ params, rows.params[joint]? = some params ∧ params.msgIdx < length := by
  have found := List.getElem?_eq_getElem (show joint < rows.params.length by rw [fit.params]; exact bound)
  exact ⟨_, found, fit.msgIdx _ (List.mem_of_getElem? found)⟩

theorem InterfaceRows.Fit.cmds_exists : ∃ cmd, rows.cmds[joint]? = some cmd :=
  ⟨_, List.getElem?_eq_getElem (by rw [fit.cmds]; exact bound)⟩

theorem InterfaceRows.Fit.states_exists : ∃ state, rows.states[joint]? = some state :=
  ⟨_, List.getElem?_eq_getElem (by rw [fit.states]; exact bound)⟩

end Entries

theorem exampleNode_rows (lifecycle : Lifecycle) (ratio : ℚ) (sockets : List Socket) (index : Nat)
    (bound : index < sockets.length) :
    interfaceRows index (exampleNode lifecycle ratio sockets).tables
      (exampleNode lifecycle ratio sockets).canInterfaces = some {
        configs := [ak80 (BitVec.ofNat 32 (index + 1))], cmds := [⟨0, 0, 0, 0, 0⟩]
        states := [freshState], params := [exampleParams index ratio]
        averages := [.create 0], alphaBetas := [.create 1 1], medians := [.create 0]
        lastRxNs := [0] } := by
  rw [interfaceRows_eq_some]
  simp [exampleNode, bound, exampleCan]

theorem exampleNode_valid (lifecycle : Lifecycle) (ratio : ℚ) (sockets : List Socket) :
    (exampleNode lifecycle ratio sockets).setup.Valid where
  rows index bound := by
    have inRange : index < sockets.length := by simpa [exampleNode] using bound
    refine ⟨_, exampleNode_rows lifecycle ratio sockets index inRange, ?_⟩
    constructor
    case msgIdx => simpa [exampleParams, exampleNode] using inRange
    case averagesReady =>
      intro joint params filter paramsFound _ large
      have same := List.mem_of_getElem? paramsFound
      rw [List.mem_singleton.mp same] at large
      simp [exampleParams] at large
    case mediansReady => simpa using MedianFilter.create_ready 0
    all_goals rfl
  params := by simp [exampleNode]
  threads := by simp [exampleNode]
  interfaces := by constructor <;> simp [exampleNode]
  messages := by constructor <;> simp [exampleNode]
  command := by simp [exampleNode, exampleCommand, JointCommand.Sized]

end Node

end CubemarsDriver

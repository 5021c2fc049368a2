import CubemarsDriver.Foundation.Rows
import CubemarsDriver.Node.Lifecycle

namespace CubemarsDriver.Node

open Foundation Can

/-! # `can_cycle_callback`

One cycle of a comm thread.  Its loops over the joints of the interface compute
on the rows of the tables; what it shares with other threads is read at named
points, at which the environment may have changed it. -/

/-- The points at which a cycle reads the lifecycle state or its `running` flag. -/
inductive CyclePoint where
  | entryActive
  | entryInactive
  | loading
  | scaling
  | sendFailed
  | deviceFault (joint : Nat)
  | tooManyErrors
  | writingBack
  | checkingLimits
deriving DecidableEq, Repr

/-- What other threads and the clocks do during a cycle. -/
structure CycleEnv where
  lifecycle : CyclePoint → Lifecycle → Lifecycle := fun _ same => same
  stops : CyclePoint → Bool := fun _ => false
  currentTime : Int := 0
  entryNs : Int := 0
  endNs : Int := 0

/-- The `return` a cycle ends at. -/
inductive CycleExit where
  | notConfigured
  | stopped
  | noCommand
  | sendFailed
  | tooManyErrors
  | stoppedBeforeWriteBack
  | limitViolated
  | completed
deriving DecidableEq, Repr

variable {K : Type}

def observeLifecycle (env : CycleEnv) (point : CyclePoint) : NodePath K Lifecycle := do
  Path.update fun node => { node with lifecycle := env.lifecycle point node.lifecycle }
  Path.read Node.lifecycle

/-- Another thread may have cleared the flag. -/
def observeRunning (env : CycleEnv) (point : CyclePoint) (index : Nat) : NodePath K Bool := do
  Path.update fun node => { node with commThreads := node.commThreads.modify index fun thread =>
    { thread with running := thread.running && !env.stops point } }
  let thread ← commThread index
  pure thread.running

/-- `joint_cmds`, `joint_states` and `joint_params`. -/
structure CycleRows (K : Type) where
  cmds : List (JointCmd K)
  states : List (JointState K)
  params : List (JointParameters K)

def cycleRows (index : Nat) (tables : JointTables K) : Option (CycleRows K) := do
  let cmds ← tables.jointCommandsPerCanInterface[index]?
  let states ← tables.jointStatesPerCanInterface[index]?
  let params ← tables.jointParametersPerCanInterface[index]?
  some { cmds, states, params }

def withCmds (index : Nat) (row : List (JointCmd K)) (tables : JointTables K) : JointTables K :=
  { tables with
    jointCommandsPerCanInterface := tables.jointCommandsPerCanInterface.set index row }

def withStates (index : Nat) (row : List (JointState K)) (tables : JointTables K) : JointTables K :=
  { tables with jointStatesPerCanInterface := tables.jointStatesPerCanInterface.set index row }

/-- A loop over the joints that recomputes their commands. -/
def changeCmds (index : Nat) (change : CycleRows K → Option (List (JointCmd K)))
    (tables : JointTables K) : Option (JointTables K) := do
  let rows ← cycleRows index tables
  let cmds ← change rows
  some (withCmds index cmds tables)

/-- A loop over the joints that recomputes their states. -/
def changeStates (index : Nat) (change : CycleRows K → Option (List (JointState K)))
    (tables : JointTables K) : Option (JointTables K) := do
  let rows ← cycleRows index tables
  let states ← change rows
  some (withStates index states tables)

/-- A computation on the tables alone. -/
def changeTables (change : JointTables K → Option (JointTables K)) : NodePath K Unit :=
  Path.updateDefined fun node => (change node.tables).map fun tables => { node with tables }

section Commands

variable [Scalar K]

def loadedCmd (command : JointCommand K) (params : JointParameters K) : Option (JointCmd K) := do
  let pos ← command.position[params.msgIdx]?
  let vel ← command.velocity[params.msgIdx]?
  let torque ← command.effort[params.msgIdx]?
  let kp ← command.kp[params.msgIdx]?
  let kd ← command.kd[params.msgIdx]?
  some { pos := pos - params.zeroPosition, vel, torque, kp, kd }

def loadedCmds (command : JointCommand K) (rows : CycleRows K) : Option (List (JointCmd K)) :=
  collect (fun joint => rows.params[joint]?.bind (loadedCmd command)) rows.cmds.length

/-- Stribeck friction. -/
def frictionTorque [Libm K] (friction : FrictionParameters K) (vel : K) : K :=
  let signVel := Libm.tanh (friction.kA * vel)
  friction.tauC * signVel + (friction.tauS - friction.tauC) *
    Libm.exp (-Libm.pow (Libm.fabs vel / friction.vS) friction.k) * signVel + friction.b * vel

def compensatedCmds [Libm K] (rows : CycleRows K) : Option (List (JointCmd K)) :=
  collect (fun joint => do
    let cmd ← rows.cmds[joint]?
    let params ← rows.params[joint]?
    let state ← rows.states[joint]?
    some { cmd with
      torque := cmd.torque + frictionTorque params.frictionParameters state.vel }) rows.cmds.length

def toMotorSpace (params : JointParameters K) (cmd : JointCmd K) : JointCmd K :=
  { cmd with
    pos := cmd.pos * params.transmissionRatio
    vel := cmd.vel * params.transmissionRatio
    torque := cmd.torque * (Scalar.one / params.transmissionRatio) }

def motorSpaceCmds (rows : CycleRows K) : Option (List (JointCmd K)) :=
  collect (fun joint => do
    let cmd ← rows.cmds[joint]?
    let params ← rows.params[joint]?
    some (toMotorSpace params cmd)) rows.cmds.length

/-- The loops over the joints that turn the command into motor commands. -/
def loadCommand (index : Nat) (command : JointCommand K) :
    JointTables K → Option (JointTables K) := changeCmds index (loadedCmds command)

def compensateFriction [Libm K] (index : Nat) : JointTables K → Option (JointTables K) :=
  changeCmds index compensatedCmds

def applyTransmissionRatios (index : Nat) : JointTables K → Option (JointTables K) :=
  changeCmds index motorSpaceCmds

/-- `can_interfaces_[index]->send_and_receive(joint_cmds, joint_states)`. -/
def sendAndReceive (index : Nat) : NodePath K Unit where
  run node :=
    match node.canInterfaces[index]?.join, cycleRows index node.tables with
    | some can, some rows =>
        let (outcome, after) := (Can.sendAndReceive rows.cmds).run { can, states := rows.states }
        (outcome, { node.recorded (.interfaceUsed index) with
          tables := withStates index after.states node.tables
          canInterfaces := node.canInterfaces.set index (some after.can) })
    | _, _ => (.undefined, node.recorded (.interfaceUsed index))

/-- Go into damping if active, otherwise ask the supervisor for a cleanup. -/
def giveUp (env : CycleEnv) (point : CyclePoint) : NodePath K Unit := do
  let lifecycle ← observeLifecycle env point
  if lifecycle = .active then deactivate
  else Path.update fun node => { node with cleanupRequested := true }

def jointState (index joint : Nat) : NodePath K (JointState K) :=
  Path.element fun node =>
    node.tables.jointStatesPerCanInterface[index]?.bind fun row => row[joint]?

def checkStatus (env : CycleEnv) (index joint : Nat) : NodePath K Unit := do
  let state ← jointState index joint
  Path.when (state.deviceStatus ≠ .noFault) do
    nameJoint index joint
    let lifecycle ← observeLifecycle env (.deviceFault joint)
    let dampingOnMotorError ← Path.read Node.dampingOnMotorError
    Path.when (lifecycle = .active ∧ dampingOnMotorError) deactivate
  Path.when (state.communicationStatus ≠ .success) (nameJoint index joint)

def canErrorsInThisCycle (rows : CycleRows K) : Nat :=
  (rows.states.take rows.cmds.length).countP fun state => state.communicationStatus ≠ .success

def unsignedModulus : Nat := 2 ^ 32

/-- Count the communication errors; `false` if there have been too many. -/
def countErrors (index : Nat) : NodePath K Bool := do
  let rows ← Path.element fun node => cycleRows index node.tables
  let errors := canErrorsInThisCycle rows
  let counted ← Path.element fun node => node.interfaces.numCanErrorsPerInterfaces[index]?
  let limit ← Path.read Node.maxCanErrorsBeforeMotorShutdown
  let total := (counted + errors) % unsignedModulus
  let setCounter (count : Nat) : NodePath K Unit := Path.update fun node =>
    { node with interfaces := { node.interfaces with
      numCanErrorsPerInterfaces := node.interfaces.numCanErrorsPerInterfaces.set index count } }
  if errors = 0 ∧ 0 < counted then do
    setCounter 0
    let _ ← canInterface index
    pure true
  else if limit ≤ total then do
    let _ ← canInterface index
    pure false
  else do
    setCounter total
    pure true

/-- The median filter rejects outliers; it is not fed in a cycle without a reply. -/
def medianFiltered (params : JointParameters K) (state : JointState K)
    (filter : Option (MedianFilter K)) : Option (JointState K × Option (MedianFilter K)) :=
  if 1 < params.posMedianFilterSize ∧ state.communicationStatus = .success then do
    let (pos, filter) ← (← filter).update state.pos
    some ({ state with pos }, some filter)
  else some (state, none)

def filterPositions (index : Nat) (tables : JointTables K) : Option (JointTables K) := do
  let rows ← cycleRows index tables
  let filters ← tables.jointPosMedianFiltersPerCanInterface[index]?
  let results ← collect (fun joint => do
    medianFiltered (← rows.params[joint]?) (← rows.states[joint]?) filters[joint]?)
    rows.states.length
  some { withStates index (results.map Prod.fst) tables with
    jointPosMedianFiltersPerCanInterface :=
      tables.jointPosMedianFiltersPerCanInterface.set index
        (overlay filters (results.map Prod.snd)) }

/-- The velocity filters of one joint and the time of the reply they last used. -/
structure VelocityFilters (K : Type) where
  movingAverage : Option (MovingAverage K)
  alphaBeta : Option (AlphaBetaFilter K)
  lastRxNs : Option Int

def VelocityFilters.untouched : VelocityFilters K := ⟨none, none, none⟩

/-- The moving average is updated in every cycle, the alpha-beta filter only with a reply. -/
def velocityFiltered (params : JointParameters K) (state : JointState K)
    (filters : VelocityFilters K) : Option (JointState K × VelocityFilters K) :=
  match params.velFilterType with
  | .movingAverage =>
      if 1 < params.velFilterSize then do
        let (vel, filter) ← (← filters.movingAverage).update state.vel
        some ({ state with vel }, { VelocityFilters.untouched with movingAverage := some filter })
      else some (state, .untouched)
  | .alphaBeta =>
      if state.communicationStatus = .success then do
        let lastNs ← filters.lastRxNs
        let jointDt : K := if lastNs = 0 then Scalar.zero
          else Scalar.ofRat (state.rxTimestampNs - lastNs : Int) / Scalar.ofRat (10 ^ 9)
        let filter := (← filters.alphaBeta).update state.pos jointDt
        some ({ state with pos := filter.x, vel := filter.v },
          { VelocityFilters.untouched with
            alphaBeta := some filter, lastRxNs := some state.rxTimestampNs })
      else some (state, .untouched)
  | .none => some (state, .untouched)

def filterVelocities (index : Nat) (tables : JointTables K) : Option (JointTables K) := do
  let rows ← cycleRows index tables
  let averages ← tables.jointVelFiltersPerCanInterface[index]?
  let alphaBetas ← tables.jointAbFiltersPerCanInterface[index]?
  let lastRxNs ← tables.lastJointRxNsPerCanInterface[index]?
  let results ← collect (fun joint => do
    velocityFiltered (← rows.params[joint]?) (← rows.states[joint]?)
      { movingAverage := averages[joint]?, alphaBeta := alphaBetas[joint]?
        lastRxNs := lastRxNs[joint]? })
    rows.states.length
  let filters := results.map Prod.snd
  some { withStates index (results.map Prod.fst) tables with
    jointVelFiltersPerCanInterface := tables.jointVelFiltersPerCanInterface.set index
      (overlay averages (filters.map VelocityFilters.movingAverage))
    jointAbFiltersPerCanInterface := tables.jointAbFiltersPerCanInterface.set index
      (overlay alphaBetas (filters.map VelocityFilters.alphaBeta))
    lastJointRxNsPerCanInterface := tables.lastJointRxNsPerCanInterface.set index
      (overlay lastRxNs (filters.map VelocityFilters.lastRxNs)) }

/-- The unfiltered message entries of one joint, from the snapshot taken before
the filters and the status in `state`. -/
def publishUnfilteredJoint (params : JointParameters K) (state snapshot : JointState K)
    (messages : JointMessages K) : Option (JointMessages K) := do
  let fresh (value : K) : Option K :=
    if state.communicationStatus = .success then some value else none
  let unfilteredVelocityMsg ← storeAt messages.unfilteredVelocityMsg params.msgIdx
    (fresh (snapshot.vel / params.transmissionRatio))
  let unfilteredPositionMsg ← storeAt messages.unfilteredPositionMsg params.msgIdx
    (fresh (snapshot.pos / params.transmissionRatio + params.zeroPosition))
  some { messages with unfilteredVelocityMsg, unfilteredPositionMsg }

def publishUnfiltered (index : Nat) (snapshot : List (JointState K)) (tables : JointTables K)
    (messages : JointMessages K) : Option (JointMessages K) := do
  let rows ← cycleRows index tables
  accumulate (fun joint messages => do
    publishUnfilteredJoint (← rows.params[joint]?) (← rows.states[joint]?) (← snapshot[joint]?)
      messages) rows.states.length messages

def toJointSpace (params : JointParameters K) (state : JointState K) : JointState K :=
  { state with
    pos := state.pos * (Scalar.one / params.transmissionRatio)
    vel := state.vel * (Scalar.one / params.transmissionRatio)
    torque := state.torque * params.transmissionRatio }

def jointSpaceStates (rows : CycleRows K) : Option (List (JointState K)) :=
  collect (fun joint => do
    some (toJointSpace (← rows.params[joint]?) (← rows.states[joint]?))) rows.states.length

/-- The states are rescaled where they are stored. -/
def rescaleStates (index : Nat) : JointTables K → Option (JointTables K) :=
  changeStates index jointSpaceStates

/-- The joint states of a cycle that has not given up. -/
def processStates (index : Nat) (tables : JointTables K) (messages : JointMessages K) :
    Option (JointTables K × JointMessages K) := do
  let snapshot ← tables.jointStatesPerCanInterface[index]?
  let tables ← filterPositions index tables
  let tables ← filterVelocities index tables
  let messages ← publishUnfiltered index snapshot tables messages
  let tables ← rescaleStates index tables
  some (tables, messages)

def microseconds (ns : Int) : K := Scalar.ofRat ns / Scalar.ofRat 1000

/-- A difference of two times, if it could be taken. -/
def latency (known : Prop) [Decidable known] (ns : Int) : Option K :=
  if known then some (microseconds ns) else none

/-- The delay between the hardware and the software arrival time, above the
smallest one seen. -/
def deliverRx (index : Nat) (state : JointState K) (messages : JointMessages K) :
    Option (JointMessages K) :=
  if state.communicationStatus = .success ∧ 0 < state.rxTimestampNs ∧ 0 < state.rxHwTimestampNs then do
    let offsetNs := state.rxTimestampNs - state.rxHwTimestampNs
    let floorNs := min offsetNs (← messages.jointRxDeliveryFloorNs[index]?)
    some { messages with
      jointRxDeliveryFloorNs := messages.jointRxDeliveryFloorNs.set index floorNs
      jointRxDeliveryMsg := ← storeAt messages.jointRxDeliveryMsg index
        (some (microseconds (offsetNs - floorNs))) }
  else do
    some { messages with jointRxDeliveryMsg := ← storeAt messages.jointRxDeliveryMsg index none }

/-- The hardware arrival time since the joint's first reply. -/
def deliverRxHw (index : Nat) (state : JointState K) (messages : JointMessages K) :
    Option (JointMessages K) :=
  if state.communicationStatus = .success ∧ 0 < state.rxHwTimestampNs then do
    let storedNs ← messages.jointRxHwBaseNs[index]?
    let baseNs := if storedNs = 0 then state.rxHwTimestampNs else storedNs
    some { messages with
      jointRxHwBaseNs := messages.jointRxHwBaseNs.set index baseNs
      jointRxHwTimestampMsg := ← storeAt messages.jointRxHwTimestampMsg index
        (some (microseconds (state.rxHwTimestampNs - baseNs))) }
  else do
    some { messages with
      jointRxHwTimestampMsg := ← storeAt messages.jointRxHwTimestampMsg index none }

/-- Without a reply the time of the last one is kept. -/
def storeRxNs (index : Nat) (state : JointState K) (times : List Int) : Option (List Int) :=
  if state.communicationStatus = .success then storeAt times index state.rxTimestampNs
  else some times

/-- The values are stale if there was no reply. -/
def storeState (params : JointParameters K) (state : JointState K) (messages : JointMessages K) :
    Option (JointMessages K) := do
  let index := params.msgIdx
  some { messages with
    position := ← storeAt messages.position index (state.pos + params.zeroPosition)
    velocity := ← storeAt messages.velocity index state.vel
    effort := ← storeAt messages.effort index state.torque
    jointTempMsg := ← storeAt messages.jointTempMsg index state.temp
    jointRxNs := ← storeRxNs index state messages.jointRxNs }

def storeLatencies (index : Nat) (cmdRxNs txFillEndNs : Int) (state : JointState K)
    (messages : JointMessages K) : Option (JointMessages K) := do
  let replied := state.communicationStatus = .success
  some { messages with
    jointMotorReplyLatencyMsg := ← storeAt messages.jointMotorReplyLatencyMsg index
      (latency (replied ∧ 0 < state.sendTimestampNs ∧ state.sendTimestampNs ≤ state.rxTimestampNs)
        (state.rxTimestampNs - state.sendTimestampNs))
    jointCmdToBusLatencyMsg := ← storeAt messages.jointCmdToBusLatencyMsg index
      (latency (0 < state.sendTimestampNs ∧ 0 < cmdRxNs) (state.sendTimestampNs - cmdRxNs))
    jointReplyAfterTxMsg := ← storeAt messages.jointReplyAfterTxMsg index
      (latency (0 < state.dequeueTimestampNs ∧ 0 < txFillEndNs)
        (state.dequeueTimestampNs - txFillEndNs))
    jointEnqueueToWireMsg := ← storeAt messages.jointEnqueueToWireMsg index
      (latency (0 < state.sendTimestampNs ∧ 0 < state.enqueueTimestampNs)
        (state.sendTimestampNs - state.enqueueTimestampNs)) }

/-- The entries of one joint. -/
def writeBackJoint (cmdRxNs txFillEndNs : Int) (params : JointParameters K) (state : JointState K)
    (messages : JointMessages K) : Option (JointMessages K) := do
  let messages ← storeState params state messages
  let messages ← deliverRx params.msgIdx state messages
  let messages ← deliverRxHw params.msgIdx state messages
  storeLatencies params.msgIdx cmdRxNs txFillEndNs state messages

def writeBack (index : Nat) (cmdRxNs txFillEndNs : Int) (tables : JointTables K)
    (messages : JointMessages K) : Option (JointMessages K) := do
  let rows ← cycleRows index tables
  accumulate (fun joint messages => do
    writeBackJoint cmdRxNs txFillEndNs (← rows.params[joint]?) (← rows.states[joint]?) messages)
    rows.states.length messages

/-- Joints that replied but whose command has no transmission time. -/
def txTsMissing (index : Nat) (node : Node K) : Nat :=
  if node.enableTxTimestamping then
    (node.tables.jointStatesPerCanInterface[index]?.getD []).countP fun state =>
      state.communicationStatus = .success ∧ state.sendTimestampNs = 0
  else 0

/-- A joint whose written position is outside its limits. -/
def limitViolated (index joint : Nat) (node : Node K) : Option Bool := do
  let params ← node.tables.jointParametersPerCanInterface[index]?.bind fun row => row[joint]?
  let position ← node.messages.position[params.msgIdx]?
  some (decide (position < params.posLimitMin ∨ params.posLimitMax < position))

/-- The limits are checked joint by joint up to the first violation. -/
def violatingJoint (index : Nat) (node : Node K) : Nat → Nat → Option (Option Nat)
  | 0, _ => some none
  | joints + 1, joint => do
      if ← node.limitViolated index joint then some (some joint)
      else violatingJoint index node joints (joint + 1)

def checkLimits (env : CycleEnv) (index : Nat) : NodePath K (Option Nat) := do
  let lifecycle ← observeLifecycle env .checkingLimits
  if lifecycle = .active then
    Path.element fun node => do
      node.violatingJoint index (← node.tables.jointStatesPerCanInterface[index]?).length 0
  else pure none

/-- The timings of the cycle. -/
def writeTimings (index : Nat) (env : CycleEnv) (frequency : K) (txFillNs rxDurNs : Int)
    (node : Node K) : Option (Node K) := do
  let interfaces := node.interfaces
  let prevEndNs ← interfaces.lastCycleEndNsPerCanInterface[index]?
  let totalNs := env.endNs - env.entryNs
  some { node with interfaces := { interfaces with
    canInterfaceFrequencyMsg := ← storeAt interfaces.canInterfaceFrequencyMsg index frequency
    canTxFillDurationMsg := ← storeAt interfaces.canTxFillDurationMsg index
      (some (microseconds txFillNs))
    canRxDurationMsg := ← storeAt interfaces.canRxDurationMsg index (some (microseconds rxDurNs))
    canProcessingMsg := ← storeAt interfaces.canProcessingMsg index
      (some (microseconds (totalNs - txFillNs - rxDurNs)))
    canIntercycleGapMsg := ← storeAt interfaces.canIntercycleGapMsg index
      (latency (0 < prevEndNs) (env.entryNs - prevEndNs))
    lastCycleEndNsPerCanInterface := interfaces.lastCycleEndNsPerCanInterface.set index env.endNs } }

end Commands

section Cycle

variable [Scalar K]

/-- Note the time of the cycle; the frequency is that of the time since the last one. -/
def startCycle (index : Nat) (env : CycleEnv) : NodePath K K := do
  let lastNs ← Path.element fun node => node.interfaces.lastCanCycleTimes[index]?
  Path.update fun node => { node with interfaces := { node.interfaces with
    lastCanCycleTimes := node.interfaces.lastCanCycleTimes.set index env.currentTime } }
  let dt : K := Scalar.ofRat (env.currentTime - lastNs : Int) / Scalar.ofRat (10 ^ 9)
  pure (Scalar.one / dt)

/-- The exchange under the shared lock; its exceptions are handled after the release. -/
def lockedExchange (index : Nat) : NodePath K (Except Exception Unit) := do
  lockCommunication .shared
  let result ← Path.attempt (sendAndReceive index)
  unlockCommunication .shared
  pure result

def isConfigured (env : CycleEnv) : NodePath K Bool := do
  let first ← observeLifecycle env .entryActive
  if first = .active then pure true
  else do
    let second ← observeLifecycle env .entryInactive
    pure (second = .inactive)

/-- The end of the critical section: limits and timings. -/
def finishCycle (index : Nat) (env : CycleEnv) (frequency : K) : NodePath K CycleExit := do
  match ← checkLimits env index with
  | some joint => do
      let _ ← jointParameters index joint
      let _ ← canInterface index
      unlockJointStateMsg .shared
      deactivate
      pure .limitViolated
  | none => do
      let can ← canInterface index
      Path.updateDefined (writeTimings index env frequency can.txFillDurationNs can.rxDurationNs)
      unlockJointStateMsg .shared
      let missing ← Path.read (txTsMissing index)
      Path.when (0 < missing) (do let _ ← canInterface index)
      pure .completed

/-- The critical section of the write-back. -/
def writeBackCycle (index : Nat) (env : CycleEnv) (frequency : K) : NodePath K CycleExit := do
  lockJointStateMsg .shared
  if ← observeRunning env .writingBack index then do
    let can ← canInterface index
    Path.updateDefined fun node =>
      (writeBack index node.cmdRxNs can.txFillEndNs node.tables node.messages).map
        fun messages => { node with messages }
    finishCycle index env frequency
  else do
    unlockJointStateMsg .shared
    pure .stoppedBeforeWriteBack

/-- What follows a successful exchange. -/
def handleReplies (index : Nat) (env : CycleEnv) (frequency : K) : NodePath K CycleExit := do
  let _ ← canInterface index
  let rows ← Path.element fun node => cycleRows index node.tables
  Path.loopBelow (fun _ => rows.cmds.length) (checkStatus env index)
  if ← countErrors index then do
    Path.updateDefined fun node => (processStates index node.tables node.messages).map
      fun (tables, messages) => { node with tables, messages }
    writeBackCycle index env frequency
  else do
    giveUp env .tooManyErrors
    pure .tooManyErrors

/-- What follows the load of a command. -/
def exchangeCommand [Libm K] (index : Nat) (env : CycleEnv) (frequency : K)
    (command : JointCommand K) : NodePath K CycleExit := do
  changeTables (loadCommand index command)
  let lifecycle ← observeLifecycle env .scaling
  Path.when (lifecycle = .active) do
    changeTables (compensateFriction index)
    changeTables (applyTransmissionRatios index)
  match ← lockedExchange index with
  | .error _ => do
      giveUp env .sendFailed
      pure .sendFailed
  | .ok () => handleReplies index env frequency

def canCycleCallback [Libm K] (index : Nat) (env : CycleEnv) : NodePath K CycleExit := do
  if ← isConfigured env then do
    let _ ← Path.element fun node => cycleRows index node.tables
    let frequency ← startCycle index env
    if ← observeRunning env .loading index then
      match ← Path.read Node.jointCmdPtr with
      | none => pure .noCommand
      | some command => exchangeCommand index env frequency command
    else pure .stopped
  else pure .notConfigured

end Cycle

end CubemarsDriver.Node

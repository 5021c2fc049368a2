import CubemarsDriver.Can.Delivery
import CubemarsDriver.Node.CycleFits
import CubemarsDriver.Node.Held

namespace CubemarsDriver.Node

open Foundation Can

/-! # Every path through a cycle is defined and gives back its mutexes -/

variable {K : Type} [Scalar K] {held : Locks} {raised : Exception → Node K → Prop}
variable {index joint count : Nat} {env : CycleEnv} {point : CyclePoint}

/-- What a cycle knows of its interface; the lifecycle state may change under it. -/
def Cycling (index count : Nat) (setup : Setup K) (_ : Lifecycle) : Prop :=
  setup.Valid ∧ setup.HasJoints index count

omit [Scalar K] in
theorem cycling_knows : Knows (K := K) (Cycling index count) index count where
  rowed _ _ known := known.1.rows
  joints _ _ known := known.2
  exchange _ _ _ _ known found same := ⟨known.1.exchange found same, known.2.exchange found same⟩

omit [Scalar K] in
theorem cycling_threaded : Threaded (K := K) (Cycling index count) index := by
  intro setup lifecycle known
  rw [known.1.threads]
  exact known.2.bound

omit [Scalar K] in
theorem Cycling.rows {node : Node K} (known : Held (Cycling index count) held node) :
    ∃ rows, interfaceRows index node.tables node.canInterfaces = some rows ∧
      rows.Fit node.jointMsgLength ∧ rows.configs.length = count := by
  obtain ⟨rows, _, found, fit, size, _⟩ := known.1.2.rows known.1.1.rows
  exact ⟨rows, found, fit, size⟩

omit [Scalar K] in
theorem changeTables_stays {change : JointTables K → Option (JointTables K)}
    (fits : ∀ node : Node K, Held (Cycling index count) held node → ∃ after,
      change node.tables = some after ∧
        Refit node.jointMsgLength node.canInterfaces node.tables after) :
    Stays (Cycling index count) held raised (changeTables change) := by
  refine Path.Ensures.updateDefined fun node known => ?_
  obtain ⟨after, changed, refit⟩ := fits node known
  refine ⟨_, Option.map_eq_some_iff.mpr ⟨after, changed, rfl⟩, ⟨?_, known.1.2⟩, known.2⟩
  exact { known.1.1 with
    rows := refit.rows
    params := (congrArg List.length refit.params).trans known.1.1.params }

omit [Scalar K] in
theorem observeLifecycle_stays :
    Stays (K := K) (Cycling index count) held raised (observeLifecycle env point) :=
  fun _ known => known

omit [Scalar K] in
theorem observeRunning_stays :
    Stays (K := K) (Cycling index count) held raised (observeRunning env point index) := by
  refine Path.Ensures.updateBind (fun node known => ?_) ?_
  · simp only [Held, setup, locks, List.length_modify]
    exact known
  · exact Path.Ensures.bind (commThread_stays cycling_threaded) fun _ _ known => known

theorem startCycle_stays : Stays (K := K) (Cycling index count) held raised (startCycle index env) := by
  refine Path.Ensures.elementBind (fun node known => ?_) fun lastNs => ?_
  · have sized := known.1.1.interfaces.cycleTimes
    exact ⟨_, List.getElem?_eq_getElem (sized.symm ▸ known.1.2.bound)⟩
  · refine Path.Ensures.strengthen_pre ?_ fun _ both => both.1
    refine Path.Ensures.updateBind (fun node known => ⟨⟨?_, known.1.2⟩, known.2⟩) fun _ known => known
    exact { known.1.1 with interfaces := { known.1.1.interfaces with
      cycleTimes := List.length_set.trans known.1.1.interfaces.cycleTimes } }

theorem sendAndReceive_stays :
    Stays (K := K) (Cycling index count) held raised (sendAndReceive index) := by
  intro node known
  obtain ⟨rows, can, found, fit, size, canFound, configs⟩ := known.1.2.rows known.1.1.rows
  have rowsFound : cycleRows index node.tables = some rows.cycle := interfaceRows_cycleRows found
  have canFound : node.canInterfaces[index]?.join = some can := canFound
  have sized : Exchange.Sized { can, states := rows.states } := by
    rw [Exchange.Sized, configs]
    exact fit.states
  obtain ⟨after, run, delivered⟩ := sendAndReceive_delivers sized (configs ▸ fit.cmds)
  have run : (Can.sendAndReceive rows.cycle.cmds).run { can, states := rows.cycle.states } =
    (.returned (), after) := run
  have joints : after.can.jointConfigs = can.jointConfigs := delivered.frame.jointConfigs
  simp only [sendAndReceive, canFound, rowsFound, run]
  refine ⟨⟨?_, known.1.2.exchange canFound joints⟩, known.2⟩
  exact { known.1.1 with
    rows := (known.1.1.rows.withStates found fit delivered.frame.states).setCan canFound joints
    params := known.1.1.params.trans List.length_set.symm
    threads := known.1.1.threads.trans List.length_set.symm
    interfaces := by
      have sized := known.1.1.interfaces
      simp only [setup, List.length_set] at sized ⊢
      exact sized }

theorem lockedExchange_stays {other : Option LockMode} :
    Stays (K := K) (Cycling index count) (none, other) raised (lockedExchange index) := by
  refine Path.Ensures.bind lockCommunication_holds fun _ => ?_
  have exchange : Stays (K := K) (Cycling index count) (some .shared, other) raised
      (Path.attempt (sendAndReceive index)) := Path.Ensures.attempt sendAndReceive_stays
  refine Path.Ensures.bind exchange fun _ => ?_
  exact Path.Ensures.bind unlockCommunication_holds fun _ _ known => known

theorem onDeactivate_stays :
    Path.Ensures (Held (Cycling (K := K) index count) held) onDeactivate
      (fun result node => result = .success ∧ Held (Cycling index count) held node) raised := by
  refine Path.Ensures.updateBind (fun node known => ⟨⟨?_, known.1.2⟩, known.2⟩) ?_
  · refine { known.1.1 with command := ?_ }
    rintro _ ⟨⟩
    simp [JointCommand.Sized, dampingCommand, storeDamping]
  · exact Path.Ensures.updateBind (fun _ known => known) fun _ known => ⟨rfl, known⟩

theorem deactivate_stays : Stays (K := K) (Cycling index count) held raised deactivate := by
  refine Path.Ensures.anyRead fun lifecycle => ?_
  refine Path.Ensures.when (fun _ => ?_) fun _ _ known => known
  refine Path.Ensures.updateBind (fun _ known => known) ?_
  refine Path.Ensures.bind (Path.Ensures.tryCatch
    (onDeactivate_stays : Path.Ensures _ _ _ fun _ _ => False) fun _ _ => False.elim)
    fun result => ?_
  intro node both
  obtain ⟨rfl, known⟩ := both
  exact known

theorem giveUp_stays : Stays (K := K) (Cycling index count) held raised (giveUp env point) :=
  Path.Ensures.bind observeLifecycle_stays fun _ =>
    Path.Ensures.ite (fun _ => deactivate_stays) fun _ _ known => known

omit [Scalar K] in
theorem jointState_stays (bound : joint < count) :
    Stays (K := K) (Cycling index count) held raised (jointState index joint) := by
  refine Path.Ensures.element fun node known => ?_
  obtain ⟨rows, found, fit, size⟩ := Cycling.rows known
  obtain ⟨state, stateFound⟩ := fit.states_exists (size.symm ▸ bound)
  refine ⟨state, ?_, known⟩
  rw [(interfaceRows_eq_some.mp found).2.2.1, Option.bind_some, stateFound]

theorem checkStatus_stays (bound : joint < count) :
    Stays (K := K) (Cycling index count) held raised (checkStatus env index joint) := by
  refine Path.Ensures.bind (jointState_stays bound) fun state => ?_
  refine Path.Ensures.bind (Path.Ensures.when (fun _ => ?_) fun _ _ known => known) fun _ =>
    Path.Ensures.when (fun _ => nameJoint_stays cycling_knows bound) fun _ _ known => known
  refine Path.Ensures.bind (nameJoint_stays cycling_knows bound) fun _ => ?_
  refine Path.Ensures.bind observeLifecycle_stays fun _ => ?_
  refine Path.Ensures.anyRead fun _ => ?_
  exact Path.Ensures.when (fun _ => deactivate_stays) fun _ _ known => known

omit [Scalar K] in
theorem countErrors_stays :
    Stays (K := K) (Cycling index count) held raised (countErrors index) := by
  refine Path.Ensures.elementBind (fun node known => ?_) fun rows => ?_
  · obtain ⟨rows, found, _⟩ := Cycling.rows known
    exact ⟨_, interfaceRows_cycleRows found⟩
  refine Path.Ensures.strengthen_pre ?_ fun _ both => both.1
  refine Path.Ensures.elementBind (fun node known => ?_) fun counted => ?_
  · exact ⟨_, List.getElem?_eq_getElem (known.1.1.interfaces.errors.symm ▸ known.1.2.bound)⟩
  refine Path.Ensures.strengthen_pre ?_ fun _ both => both.1
  refine Path.Ensures.anyRead fun limit => ?_
  have counter (total : Nat) (node : Node K) (known : Held (Cycling index count) held node) :
      Held (Cycling index count) held { node with interfaces := { node.interfaces with
        numCanErrorsPerInterfaces := node.interfaces.numCanErrorsPerInterfaces.set index total } } :=
    ⟨⟨{ known.1.1 with interfaces := { known.1.1.interfaces with
      errors := List.length_set.trans known.1.1.interfaces.errors } }, known.1.2⟩, known.2⟩
  refine Path.Ensures.ite (fun _ => ?_) fun _ => Path.Ensures.ite (fun _ => ?_) fun _ => ?_
  · exact Path.Ensures.updateBind (counter 0) <|
      Path.Ensures.bind (canInterface_stays cycling_knows) fun _ _ known => known
  · exact Path.Ensures.bind (canInterface_stays cycling_knows) fun _ _ known => known
  · exact Path.Ensures.updateBind (counter _) fun _ known => known

theorem processStates_stays : Stays (K := K) (Cycling index count) held raised
    (Path.updateDefined fun node => (processStates index node.tables node.messages).map
      fun (tables, messages) => { node with tables, messages }) := by
  refine Path.Ensures.updateDefined fun node known => ?_
  obtain ⟨after, written, processed, refit, sized⟩ :=
    processStates_fits known.1.1.rows known.1.2.bound known.1.1.messages
  refine ⟨_, Option.map_eq_some_iff.mpr ⟨(after, written), processed, rfl⟩,
    ⟨?_, known.1.2⟩, known.2⟩
  exact { known.1.1 with
    rows := refit.rows
    params := (congrArg List.length refit.params).trans known.1.1.params
    messages := sized }

theorem writeBack_stays (txFillEndNs : Int) : Stays (K := K) (Cycling index count) held raised
    (Path.updateDefined fun node =>
      (writeBack index node.cmdRxNs txFillEndNs node.tables node.messages).map
        fun messages => { node with messages }) := by
  refine Path.Ensures.updateDefined fun node known => ?_
  obtain ⟨written, stored, sized⟩ :=
    writeBack_exists known.1.1.rows known.1.2.bound known.1.1.messages
  exact ⟨_, Option.map_eq_some_iff.mpr ⟨written, stored, rfl⟩,
    ⟨{ known.1.1 with messages := sized }, known.1.2⟩, known.2⟩

theorem limitViolated_exists {node : Node K} (known : Held (Cycling index count) held node)
    (bound : joint < count) : ∃ violated, node.limitViolated index joint = some violated := by
  obtain ⟨rows, found, fit, size⟩ := Cycling.rows known
  obtain ⟨params, paramsFound, msgIdx⟩ := fit.params_exists (size.symm ▸ bound)
  have sized : node.messages.position.length = node.jointMsgLength :=
    known.1.1.messages.position
  simp only [limitViolated, (interfaceRows_eq_some.mp found).2.2.2.1, paramsFound,
    Option.bind_eq_bind, Option.bind_some, List.getElem?_eq_getElem (sized.symm ▸ msgIdx)]
  exact ⟨_, rfl⟩

theorem violatingJoint_exists {node : Node K} (known : Held (Cycling index count) held node)
    {joints : Nat} (total : joint + joints = count) :
    ∃ violating, violatingJoint index node joints joint = some violating ∧
      ∀ found, violating = some found → found < count := by
  induction joints generalizing joint with
  | zero => exact ⟨none, rfl, by simp⟩
  | succ joints ih =>
      obtain ⟨violated, checked⟩ := limitViolated_exists known (show joint < count by omega)
      simp only [violatingJoint, checked, Option.bind_eq_bind, Option.bind_some]
      cases violated with
      | true =>
          refine ⟨some joint, rfl, ?_⟩
          rintro _ ⟨⟩
          omega
      | false =>
          simp only [Bool.false_eq_true, if_false]
          exact ih (by omega)

theorem checkLimits_stays : Path.Ensures (Held (Cycling (K := K) index count) held)
    (checkLimits env index)
    (fun violating node => Held (Cycling index count) held node ∧
      ∀ found, violating = some found → found < count) raised := by
  refine Path.Ensures.bind observeLifecycle_stays fun lifecycle => ?_
  refine Path.Ensures.ite (fun _ => Path.Ensures.element fun node known => ?_)
    fun _ node known => ⟨known, by simp⟩
  obtain ⟨rows, found, fit, size⟩ := Cycling.rows known
  obtain ⟨violating, checked, within⟩ := violatingJoint_exists known (Nat.zero_add count)
  refine ⟨violating, ?_, known, within⟩
  simp only [(interfaceRows_eq_some.mp found).2.2.1, Option.bind_eq_bind, Option.bind_some,
    fit.states, size, checked]

theorem writeTimings_stays (frequency : K) (txFillNs rxDurNs : Int) :
    Stays (Cycling index count) held raised
      (Path.updateDefined (writeTimings index env frequency txFillNs rxDurNs)) := by
  refine Path.Ensures.updateDefined fun node known => ?_
  have sized : node.interfaces.Sized node.canInterfaces.length := known.1.1.interfaces
  have bound : index < node.canInterfaces.length := known.1.2.bound
  simp only [writeTimings, List.getElem?_eq_getElem (sized.cycleEnds.symm ▸ bound),
    storeAt_some _ (sized.frequency.symm ▸ bound), storeAt_some _ (sized.txFill.symm ▸ bound),
    storeAt_some _ (sized.rx.symm ▸ bound), storeAt_some _ (sized.processing.symm ▸ bound),
    storeAt_some _ (sized.gap.symm ▸ bound), Option.bind_eq_bind, Option.bind_some,
    Option.some.injEq, exists_eq_left']
  refine ⟨⟨{ known.1.1 with interfaces := ?_ }, known.1.2⟩, known.2⟩
  exact { sized with
    cycleEnds := List.length_set.trans sized.cycleEnds
    frequency := List.length_set.trans sized.frequency
    txFill := List.length_set.trans sized.txFill
    rx := List.length_set.trans sized.rx
    processing := List.length_set.trans sized.processing
    gap := List.length_set.trans sized.gap }

theorem finishCycle_stays (frequency : K) {other : Option LockMode} :
    Path.Ensures (Held (Cycling index count) (other, some .shared)) (finishCycle index env frequency)
      (fun _ => Held (Cycling index count) (other, none)) raised := by
  refine Path.Ensures.bind checkLimits_stays fun violating => ?_
  cases violating with
  | some found =>
      intro node both
      have bound := both.2 found rfl
      refine Path.Ensures.bind (jointParameters_stays cycling_knows bound) (fun _ => ?_) node both.1
      refine Path.Ensures.bind (canInterface_stays cycling_knows) fun _ => ?_
      refine Path.Ensures.bind unlockJointStateMsg_holds fun _ => ?_
      exact Path.Ensures.bind deactivate_stays fun _ _ known => known
  | none =>
      refine Path.Ensures.strengthen_pre ?_ fun _ both => both.1
      refine Path.Ensures.bind (canInterface_stays cycling_knows) fun can => ?_
      refine Path.Ensures.bind (writeTimings_stays frequency _ _) fun _ => ?_
      refine Path.Ensures.bind unlockJointStateMsg_holds fun _ => ?_
      refine Path.Ensures.anyRead fun missing => ?_
      refine Path.Ensures.bind (Path.Ensures.when (fun _ => ?_) fun _ _ known => known)
        fun _ _ known => known
      exact Path.Ensures.bind (canInterface_stays cycling_knows) fun _ _ known => known

theorem writeBackCycle_stays (frequency : K) {other : Option LockMode} :
    Stays (Cycling index count) (other, none) raised (writeBackCycle index env frequency) := by
  refine Path.Ensures.bind lockJointStateMsg_holds fun _ => ?_
  refine Path.Ensures.bind observeRunning_stays fun running => ?_
  refine Path.Ensures.ite (fun _ => ?_) fun _ =>
    Path.Ensures.bind unlockJointStateMsg_holds fun _ _ known => known
  refine Path.Ensures.bind (canInterface_stays cycling_knows) fun can => ?_
  exact Path.Ensures.bind (writeBack_stays can.txFillEndNs) fun _ => finishCycle_stays frequency

theorem handleReplies_stays (frequency : K) :
    Stays (Cycling index count) (none, none) raised (handleReplies index env frequency) := by
  refine Path.Ensures.bind (canInterface_stays cycling_knows) fun _ => ?_
  refine Path.Ensures.elementBind (fun node known => ?_) fun rows => ?_
  · obtain ⟨rows, found, _⟩ := Cycling.rows known
    exact ⟨_, interfaceRows_cycleRows found⟩
  intro node both
  have size : rows.cmds.length = count := by
    obtain ⟨found, rowsFound, fit, size⟩ := Cycling.rows both.1
    have same := both.2.symm.trans (interfaceRows_cycleRows rowsFound)
    rw [Option.some.inj same, fit.cmds, size]
  refine Path.Ensures.bind (Path.Ensures.loopWithin fun joint => ?_) (fun _ => ?_) node both.1
  · intro node inside
    exact checkStatus_stays (size ▸ inside.2) node inside.1
  · refine Path.Ensures.bind countErrors_stays fun counted => ?_
    refine Path.Ensures.ite (fun _ => ?_) fun _ =>
      Path.Ensures.bind giveUp_stays fun _ _ known => known
    exact Path.Ensures.bind processStates_stays fun _ => writeBackCycle_stays frequency

theorem loadCommand_stays {command : JointCommand K} :
    Path.Ensures (fun node => Held (Cycling index count) held node ∧
        command.Sized node.jointMsgLength)
      (changeTables (loadCommand index command)) (fun _ => Held (Cycling index count) held)
      raised := by
  refine Path.Ensures.updateDefined fun node both => ?_
  obtain ⟨known, sized⟩ := both
  obtain ⟨after, loaded, refit⟩ := loadCommand_fits known.1.1.rows known.1.2.bound sized
  refine ⟨_, Option.map_eq_some_iff.mpr ⟨after, loaded, rfl⟩, ⟨?_, known.1.2⟩, known.2⟩
  exact { known.1.1 with
    rows := refit.rows
    params := (congrArg List.length refit.params).trans known.1.1.params }

theorem exchangeCommand_stays [Libm K] (frequency : K) {command : JointCommand K} :
    Path.Ensures (fun node => Held (Cycling index count) (none, none) node ∧
        command.Sized node.jointMsgLength)
      (exchangeCommand index env frequency command)
      (fun _ => Held (Cycling index count) (none, none)) raised := by
  refine Path.Ensures.bind loadCommand_stays fun _ => ?_
  refine Path.Ensures.bind observeLifecycle_stays fun lifecycle => ?_
  have scaled : Stays (Cycling index count) (none, none) raised
      (do changeTables (compensateFriction (K := K) index)
          changeTables (applyTransmissionRatios index)) :=
    Path.Ensures.bind (changeTables_stays fun _ known =>
        compensateFriction_fits known.1.1.rows known.1.2.bound) fun _ =>
      changeTables_stays fun _ known =>
        applyTransmissionRatios_fits known.1.1.rows known.1.2.bound
  refine Path.Ensures.bind (Path.Ensures.when (fun _ => scaled) fun _ _ known => known) fun _ => ?_
  refine Path.Ensures.bind lockedExchange_stays fun result => ?_
  cases result with
  | error exception => exact Path.Ensures.bind giveUp_stays fun _ _ known => known
  | ok value => exact handleReplies_stays frequency

omit [Scalar K] in
theorem isConfigured_stays :
    Stays (K := K) (Cycling index count) held raised (isConfigured env) := by
  refine Path.Ensures.bind observeLifecycle_stays fun first => ?_
  refine Path.Ensures.ite (fun _ _ known => known) fun _ => ?_
  exact Path.Ensures.bind observeLifecycle_stays fun _ _ known => known

/-- Every path through a cycle returns with both mutexes given back. -/
theorem canCycleCallback_stays [Libm K] :
    Stays (Cycling (K := K) index count) (none, none) raised (canCycleCallback index env) := by
  refine Path.Ensures.bind isConfigured_stays fun configured => ?_
  refine Path.Ensures.ite (fun _ => ?_) fun _ _ known => known
  refine Path.Ensures.elementBind (fun node known => ?_) fun rows => ?_
  · obtain ⟨rows, found, _⟩ := Cycling.rows known
    exact ⟨_, interfaceRows_cycleRows found⟩
  refine Path.Ensures.strengthen_pre ?_ fun _ both => both.1
  refine Path.Ensures.bind startCycle_stays fun frequency => ?_
  refine Path.Ensures.bind observeRunning_stays fun running => ?_
  refine Path.Ensures.ite (fun _ => ?_) fun _ _ known => known
  refine Path.Ensures.readBind fun loaded => ?_
  cases loaded with
  | none => exact fun _ both => both.1
  | some command =>
      exact (exchangeCommand_stays frequency).strengthen_pre fun node both =>
        ⟨both.1, both.1.1.1.command command both.2⟩

end CubemarsDriver.Node

import CubemarsDriver.Node.Configured

namespace CubemarsDriver.Node

open Foundation Can

/-! # The computations of a cycle on rows that fit

They are defined and leave rows that fit. -/

variable {K : Type} {index joint length : Nat} {tables : JointTables K}
variable {canInterfaces : List (Option (CubemarsCan K))} {rows : InterfaceRows K}

/-- The tables after a computation of a cycle. -/
structure Refit (length : Nat) (canInterfaces : List (Option (CubemarsCan K)))
    (tables after : JointTables K) : Prop where
  rows : RowsFit length after canInterfaces
  params : after.jointParametersPerCanInterface = tables.jointParametersPerCanInterface

/-- The rows of a cycle among those of the interface. -/
def InterfaceRows.cycle (rows : InterfaceRows K) : CycleRows K := ⟨rows.cmds, rows.states, rows.params⟩

section Commands

variable [Scalar K] {command : JointCommand K}

theorem loadedCmd_exists {params : JointParameters K} (sized : command.Sized length)
    (bound : params.msgIdx < length) : ∃ cmd, loadedCmd command params = some cmd := by
  obtain ⟨position, velocity, effort, kp, kd⟩ := sized
  simp only [loadedCmd, List.getElem?_eq_getElem (position ▸ bound),
    List.getElem?_eq_getElem (velocity ▸ bound), List.getElem?_eq_getElem (effort ▸ bound),
    List.getElem?_eq_getElem (kp ▸ bound), List.getElem?_eq_getElem (kd ▸ bound)]
  exact ⟨_, rfl⟩

theorem loadedCmds_exists (fit : rows.Fit length) (sized : command.Sized length) :
    ∃ cmds, loadedCmds command rows.cycle = some cmds := by
  apply collect_some
  intro joint bound
  obtain ⟨params, found, msgIdx⟩ := fit.params_exists (fit.cmds ▸ bound)
  obtain ⟨cmd, loaded⟩ := loadedCmd_exists sized msgIdx
  exact ⟨cmd, by simp only [InterfaceRows.cycle, found, Option.bind_some, loaded]⟩

theorem compensatedCmds_exists [Libm K] (fit : rows.Fit length) :
    ∃ cmds, compensatedCmds rows.cycle = some cmds := by
  apply collect_some
  intro joint bound
  have joints : joint < rows.configs.length := fit.cmds ▸ bound
  obtain ⟨params, paramsFound, _⟩ := fit.params_exists joints
  obtain ⟨cmd, cmdFound⟩ := fit.cmds_exists joints
  obtain ⟨state, stateFound⟩ := fit.states_exists joints
  simp only [InterfaceRows.cycle, paramsFound, cmdFound, stateFound]
  exact ⟨_, rfl⟩

theorem motorSpaceCmds_exists (fit : rows.Fit length) :
    ∃ cmds, motorSpaceCmds rows.cycle = some cmds := by
  apply collect_some
  intro joint bound
  have joints : joint < rows.configs.length := fit.cmds ▸ bound
  obtain ⟨params, paramsFound, _⟩ := fit.params_exists joints
  obtain ⟨cmd, cmdFound⟩ := fit.cmds_exists joints
  simp only [InterfaceRows.cycle, paramsFound, cmdFound]
  exact ⟨_, rfl⟩

omit [Scalar K] in
/-- A loop over the commands that is defined and keeps their number. -/
theorem changeCmds_fits {change : CycleRows K → Option (List (JointCmd K))}
    {cmds : List (JointCmd K)} (fits : RowsFit length tables canInterfaces)
    (found : interfaceRows index tables canInterfaces = some rows) (fit : rows.Fit length)
    (changed : change rows.cycle = some cmds) (sized : cmds.length = rows.cmds.length) :
    ∃ after, changeCmds index change tables = some after ∧ Refit length canInterfaces tables after :=
  ⟨withCmds index cmds tables,
    (changeCmds_eq_some (interfaceRows_cycleRows found)).mpr ⟨cmds, changed, rfl⟩,
    fits.withCmds found fit sized, rfl⟩

theorem loadCommand_fits (fits : RowsFit length tables canInterfaces)
    (bound : index < canInterfaces.length) (sized : command.Sized length) :
    ∃ after, loadCommand index command tables = some after ∧
      Refit length canInterfaces tables after := by
  obtain ⟨rows, found, fit⟩ := fits index bound
  obtain ⟨cmds, loaded⟩ := loadedCmds_exists fit sized
  exact changeCmds_fits fits found fit loaded (loadedCmds_length loaded)

theorem compensateFriction_fits [Libm K] (fits : RowsFit length tables canInterfaces)
    (bound : index < canInterfaces.length) :
    ∃ after, compensateFriction index tables = some after ∧
      Refit length canInterfaces tables after := by
  obtain ⟨rows, found, fit⟩ := fits index bound
  obtain ⟨cmds, compensated⟩ := compensatedCmds_exists fit
  exact changeCmds_fits fits found fit compensated (compensatedCmds_length compensated)

theorem applyTransmissionRatios_fits (fits : RowsFit length tables canInterfaces)
    (bound : index < canInterfaces.length) :
    ∃ after, applyTransmissionRatios index tables = some after ∧
      Refit length canInterfaces tables after := by
  obtain ⟨rows, found, fit⟩ := fits index bound
  obtain ⟨cmds, scaled⟩ := motorSpaceCmds_exists fit
  exact changeCmds_fits fits found fit scaled (motorSpaceCmds_length scaled)

end Commands

section States

variable [Scalar K] {params : JointParameters K} {state : JointState K}

theorem medianFiltered_ready {filter : MedianFilter K} (ready : filter.Ready) :
    ∃ result, medianFiltered params state (some filter) = some result ∧
      ∀ updated, result.2 = some updated → updated.Ready := by
  rw [medianFiltered]
  split
  · obtain ⟨pos, after, updated, readyAfter⟩ := MedianFilter.update_ready ready state.pos
    refine ⟨({ state with pos }, some after), by simp [updated], ?_⟩
    rintro _ ⟨⟩
    exact readyAfter
  · exact ⟨(state, none), rfl, by simp⟩

theorem filterPositions_fits (fits : RowsFit length tables canInterfaces)
    (bound : index < canInterfaces.length) :
    ∃ after, filterPositions index tables = some after ∧ Refit length canInterfaces tables after := by
  obtain ⟨rows, found, fit⟩ := fits index bound
  obtain ⟨configs, cmds, states, params, averages, alphaBetas, medians, lastRxNs⟩ :=
    interfaceRows_eq_some.mp found
  obtain ⟨results, collected, size, ready⟩ : ∃ results : List (JointState K × Option (MedianFilter K)),
      collect (fun joint => rows.params[joint]?.bind fun params =>
        rows.states[joint]?.bind fun state => medianFiltered params state rows.medians[joint]?)
        rows.states.length = some results ∧ results.length = rows.states.length ∧
      ∀ (joint : Nat) (result : JointState K × Option (MedianFilter K)),
        results[joint]? = some result → ∀ updated, result.2 = some updated → updated.Ready := by
    apply collect_exists
    intro joint joints
    rw [fit.states] at joints
    obtain ⟨params, paramsFound, _⟩ := fit.params_exists joints
    obtain ⟨state, stateFound⟩ := fit.states_exists joints
    have medianFound := List.getElem?_eq_getElem (fit.medians ▸ joints)
    rw [paramsFound, stateFound, medianFound]
    exact medianFiltered_ready (fit.mediansReady _ (List.mem_of_getElem? medianFound))
  have fitAfter : InterfaceRows.Fit { rows with
      states := results.map Prod.fst
      medians := overlay rows.medians (results.map Prod.snd) } length := by
    refine { fit with
      states := ?_, medians := (overlay_length ..).trans fit.medians, mediansReady := ?_ }
    · rw [List.length_map, size]
      exact fit.states
    · intro filter member
      rcases mem_overlay member with old | updated
      · exact fit.mediansReady filter old
      · obtain ⟨result, resultFound, same⟩ := List.mem_map.mp updated
        obtain ⟨joint, _, rfl⟩ := List.mem_iff_getElem.mp resultFound
        exact ready joint _ (List.getElem?_eq_getElem _) filter same
  simp only [filterPositions, interfaceRows_cycleRows found, medians, Option.bind_eq_bind,
    Option.bind_some, collected, Option.some.injEq, exists_eq_left']
  refine ⟨fits.update index (fun other different => ?_) ?_ fitAfter, rfl⟩
  · simp [interfaceRows, withStates, List.getElem?_set_ne (Ne.symm different)]
  · exact interfaceRows_eq_some.mpr ⟨configs, cmds, set_getElem?_self _ states, params, averages,
      alphaBetas, set_getElem?_self _ medians, lastRxNs⟩

/-- The filters of one joint. -/
theorem velocityFiltered_ready {average : MovingAverage K} {alphaBeta : AlphaBetaFilter K}
    {lastNs : Int} (ready : 1 < params.velFilterSize → average.Ready) :
    ∃ result, velocityFiltered params state
        { movingAverage := some average, alphaBeta := some alphaBeta, lastRxNs := some lastNs } =
          some result ∧
      ∀ updated, result.2.movingAverage = some updated → updated.Ready := by
  cases type : params.velFilterType with
  | none => exact ⟨(state, .untouched), by simp [velocityFiltered, type], by simp [VelocityFilters.untouched]⟩
  | movingAverage =>
      by_cases large : 1 < params.velFilterSize
      · obtain ⟨vel, after, updated, readyAfter⟩ := MovingAverage.update_ready (ready large) state.vel
        refine ⟨_, by simp [velocityFiltered, type, large, updated]; rfl, ?_⟩
        rintro _ ⟨⟩
        exact readyAfter
      · exact ⟨(state, .untouched), by simp [velocityFiltered, type, large],
          by simp [VelocityFilters.untouched]⟩
  | alphaBeta =>
      by_cases replied : state.communicationStatus = .success
      · exact ⟨_, by simp [velocityFiltered, type, replied]; rfl, by simp [VelocityFilters.untouched]⟩
      · exact ⟨(state, .untouched), by simp [velocityFiltered, type, replied],
          by simp [VelocityFilters.untouched]⟩

theorem filterVelocities_fits (fits : RowsFit length tables canInterfaces)
    (bound : index < canInterfaces.length) :
    ∃ after, filterVelocities index tables = some after ∧ Refit length canInterfaces tables after := by
  obtain ⟨rows, found, fit⟩ := fits index bound
  obtain ⟨configs, cmds, states, params, averages, alphaBetas, medians, lastRxNs⟩ :=
    interfaceRows_eq_some.mp found
  obtain ⟨results, collected, size, ready⟩ : ∃ results : List (JointState K × VelocityFilters K),
      collect (fun joint => rows.params[joint]?.bind fun params =>
        rows.states[joint]?.bind fun state => velocityFiltered params state
          { movingAverage := rows.averages[joint]?, alphaBeta := rows.alphaBetas[joint]?
            lastRxNs := rows.lastRxNs[joint]? })
        rows.states.length = some results ∧ results.length = rows.states.length ∧
      ∀ (joint : Nat) (result : JointState K × VelocityFilters K), results[joint]? = some result →
        ∀ updated, result.2.movingAverage = some updated → updated.Ready := by
    apply collect_exists
    intro joint joints
    rw [fit.states] at joints
    obtain ⟨params, paramsFound, _⟩ := fit.params_exists joints
    obtain ⟨state, stateFound⟩ := fit.states_exists joints
    have averageFound := List.getElem?_eq_getElem (fit.averages ▸ joints)
    rw [paramsFound, stateFound, averageFound, List.getElem?_eq_getElem (fit.alphaBetas ▸ joints),
      List.getElem?_eq_getElem (fit.lastRxNs ▸ joints)]
    exact velocityFiltered_ready (fit.averagesReady joint params _ paramsFound averageFound)
  have fitAfter : InterfaceRows.Fit { rows with
      states := results.map Prod.fst
      averages := overlay rows.averages ((results.map Prod.snd).map VelocityFilters.movingAverage)
      alphaBetas := overlay rows.alphaBetas ((results.map Prod.snd).map VelocityFilters.alphaBeta)
      lastRxNs := overlay rows.lastRxNs ((results.map Prod.snd).map VelocityFilters.lastRxNs) }
      length := by
    refine { fit with
      states := ?_
      averages := (overlay_length ..).trans fit.averages
      alphaBetas := (overlay_length ..).trans fit.alphaBetas
      lastRxNs := (overlay_length ..).trans fit.lastRxNs
      averagesReady := ?_ }
    · rw [List.length_map, size]
      exact fit.states
    · intro joint params filter paramsFound filterFound large
      rw [overlay_getElem?, Option.map_eq_some_iff] at filterFound
      obtain ⟨old, oldFound, same⟩ := filterFound
      cases updated : ((results.map Prod.snd).map VelocityFilters.movingAverage)[joint]?.join with
      | none =>
          rw [updated, Option.getD_none] at same
          exact same ▸ fit.averagesReady joint params old paramsFound oldFound large
      | some average =>
          rw [updated, Option.getD_some] at same
          simp only [List.map_map, List.getElem?_map, Option.join_eq_some_iff,
            Option.map_eq_some_iff] at updated
          obtain ⟨result, resultFound, average⟩ := updated
          exact same ▸ ready joint result resultFound _ average
  simp only [filterVelocities, interfaceRows_cycleRows found, averages, alphaBetas, lastRxNs,
    Option.bind_eq_bind, Option.bind_some, collected, Option.some.injEq, exists_eq_left']
  refine ⟨fits.update index (fun other different => ?_) ?_ fitAfter, rfl⟩
  · simp [interfaceRows, withStates, List.getElem?_set_ne (Ne.symm different)]
  · exact interfaceRows_eq_some.mpr ⟨configs, cmds, set_getElem?_self _ states, params,
      set_getElem?_self _ averages, set_getElem?_self _ alphaBetas, medians,
      set_getElem?_self _ lastRxNs⟩

theorem rescaleStates_fits (fits : RowsFit length tables canInterfaces)
    (bound : index < canInterfaces.length) :
    ∃ after, rescaleStates index tables = some after ∧ Refit length canInterfaces tables after := by
  obtain ⟨rows, found, fit⟩ := fits index bound
  obtain ⟨states, rescaled⟩ : ∃ states, jointSpaceStates rows.cycle = some states := by
    apply collect_some
    intro joint joints
    have bound : joint < rows.configs.length := fit.states ▸ joints
    obtain ⟨params, paramsFound, _⟩ := fit.params_exists bound
    obtain ⟨state, stateFound⟩ := fit.states_exists bound
    simp only [InterfaceRows.cycle, paramsFound, stateFound]
    exact ⟨_, rfl⟩
  exact ⟨_, (changeStates_eq_some (interfaceRows_cycleRows found)).mpr ⟨states, rescaled, rfl⟩,
    fits.withStates found fit (collect_eq_some.mp rescaled).1, rfl⟩

end States

section Messages

variable [Scalar K] {params : JointParameters K} {state snapshot : JointState K}
variable {messages : JointMessages K} {cmdRxNs txFillEndNs : Int}

theorem publishUnfilteredJoint_exists (sized : messages.Sized length)
    (bound : params.msgIdx < length) :
    ∃ written, publishUnfilteredJoint params state snapshot messages = some written ∧
      written.Sized length := by
  simp only [publishUnfilteredJoint, storeAt_some _ (sized.unfilteredVelocity.symm ▸ bound),
    storeAt_some _ (sized.unfilteredPosition.symm ▸ bound), Option.bind_eq_bind, Option.bind_some,
    Option.some.injEq, exists_eq_left']
  exact { sized with
    unfilteredVelocity := List.length_set.trans sized.unfilteredVelocity
    unfilteredPosition := List.length_set.trans sized.unfilteredPosition }

theorem publishUnfiltered_exists {snapshot : List (JointState K)}
    (found : interfaceRows index tables canInterfaces = some rows) (fit : rows.Fit length)
    (snapped : snapshot.length = rows.configs.length) (sized : messages.Sized length) :
    ∃ written, publishUnfiltered index snapshot tables messages = some written ∧
      written.Sized length := by
  simp only [publishUnfiltered, interfaceRows_cycleRows found, Option.bind_eq_bind, Option.bind_some]
  apply accumulate_some (fun _ (written : JointMessages K) => written.Sized length) sized
  intro joint before joints sizedBefore
  rw [fit.states] at joints
  obtain ⟨params, paramsFound, msgIdx⟩ := fit.params_exists joints
  obtain ⟨state, stateFound⟩ := fit.states_exists joints
  rw [paramsFound, stateFound, List.getElem?_eq_getElem (snapped ▸ joints)]
  exact publishUnfilteredJoint_exists sizedBefore msgIdx

theorem processStates_fits (fits : RowsFit length tables canInterfaces)
    (bound : index < canInterfaces.length) (sized : messages.Sized length) :
    ∃ after written, processStates index tables messages = some (after, written) ∧
      Refit length canInterfaces tables after ∧ written.Sized length := by
  obtain ⟨rows, found, fit⟩ := fits index bound
  obtain ⟨first, positions, firstFits⟩ := filterPositions_fits fits bound
  obtain ⟨second, velocities, secondFits⟩ := filterVelocities_fits firstFits.rows bound
  obtain ⟨secondRows, secondFound, secondFit⟩ := secondFits.rows index bound
  obtain ⟨joints, _, states, _⟩ := interfaceRows_eq_some.mp found
  have sameJoints := joints.symm.trans (interfaceRows_eq_some.mp secondFound).1
  obtain ⟨written, published, writtenSized⟩ := publishUnfiltered_exists secondFound secondFit
    (by rw [fit.states, Option.some.inj sameJoints]) sized
  obtain ⟨after, rescaled, afterFits⟩ := rescaleStates_fits secondFits.rows bound
  refine ⟨after, written, ?_, ⟨afterFits.rows, ?_⟩, writtenSized⟩
  · simp only [processStates, states, positions, velocities, published, rescaled,
      Option.bind_eq_bind, Option.bind_some]
  · rw [afterFits.params, secondFits.params, firstFits.params]

omit [Scalar K] in
theorem storeRxNs_exists (state : JointState K) {position : Nat} {times : List Int} (bound : position < times.length) :
    ∃ stored, storeRxNs position state times = some stored ∧ stored.length = times.length := by
  rw [storeRxNs]
  split
  · exact ⟨_, storeAt_some _ bound, List.length_set⟩
  · exact ⟨times, rfl, rfl⟩

theorem storeState_exists (state : JointState K) (sized : messages.Sized length) (bound : params.msgIdx < length) :
    ∃ written, storeState params state messages = some written ∧ written.Sized length := by
  obtain ⟨rxNs, stored, rxSize⟩ := storeRxNs_exists state (sized.rxNs.symm ▸ bound)
  simp only [storeState, storeAt_some _ (sized.position.symm ▸ bound),
    storeAt_some _ (sized.velocity.symm ▸ bound), storeAt_some _ (sized.effort.symm ▸ bound),
    storeAt_some _ (sized.temp.symm ▸ bound), stored, Option.bind_eq_bind, Option.bind_some,
    Option.some.injEq, exists_eq_left']
  exact { sized with
    position := List.length_set.trans sized.position
    velocity := List.length_set.trans sized.velocity
    effort := List.length_set.trans sized.effort
    temp := List.length_set.trans sized.temp
    rxNs := rxSize.trans sized.rxNs }

theorem deliverRx_exists (state : JointState K) {position : Nat} (sized : messages.Sized length)
    (bound : position < length) :
    ∃ written, deliverRx position state messages = some written ∧ written.Sized length := by
  have delivery {value : Option K} := storeAt_some value (sized.rxDelivery.symm ▸ bound)
  rw [deliverRx]
  split
  · simp only [delivery, List.getElem?_eq_getElem (sized.rxDeliveryFloor.symm ▸ bound),
      Option.bind_eq_bind, Option.bind_some, Option.some.injEq, exists_eq_left']
    exact { sized with
      rxDelivery := List.length_set.trans sized.rxDelivery
      rxDeliveryFloor := List.length_set.trans sized.rxDeliveryFloor }
  · simp only [delivery, Option.bind_eq_bind, Option.bind_some, Option.some.injEq, exists_eq_left']
    exact { sized with rxDelivery := List.length_set.trans sized.rxDelivery }

theorem deliverRxHw_exists (state : JointState K) {position : Nat}
    (sized : messages.Sized length) (bound : position < length) :
    ∃ written, deliverRxHw position state messages = some written ∧ written.Sized length := by
  have timestamp {value : Option K} := storeAt_some value (sized.rxHwTimestamp.symm ▸ bound)
  rw [deliverRxHw]
  split
  · simp only [timestamp, List.getElem?_eq_getElem (sized.rxHwBase.symm ▸ bound),
      Option.bind_eq_bind, Option.bind_some, Option.some.injEq, exists_eq_left']
    exact { sized with
      rxHwTimestamp := List.length_set.trans sized.rxHwTimestamp
      rxHwBase := List.length_set.trans sized.rxHwBase }
  · simp only [timestamp, Option.bind_eq_bind, Option.bind_some, Option.some.injEq, exists_eq_left']
    exact { sized with rxHwTimestamp := List.length_set.trans sized.rxHwTimestamp }

theorem storeLatencies_exists {position : Nat} (sized : messages.Sized length)
    (bound : position < length) :
    ∃ written, storeLatencies position cmdRxNs txFillEndNs state messages = some written ∧
      written.Sized length := by
  simp only [storeLatencies, storeAt_some _ (sized.motorReply.symm ▸ bound),
    storeAt_some _ (sized.cmdToBus.symm ▸ bound), storeAt_some _ (sized.replyAfterTx.symm ▸ bound),
    storeAt_some _ (sized.enqueueToWire.symm ▸ bound), Option.bind_eq_bind, Option.bind_some,
    Option.some.injEq, exists_eq_left']
  exact { sized with
    motorReply := List.length_set.trans sized.motorReply
    cmdToBus := List.length_set.trans sized.cmdToBus
    replyAfterTx := List.length_set.trans sized.replyAfterTx
    enqueueToWire := List.length_set.trans sized.enqueueToWire }

theorem writeBackJoint_exists (sized : messages.Sized length) (bound : params.msgIdx < length) :
    ∃ written, writeBackJoint cmdRxNs txFillEndNs params state messages = some written ∧
      written.Sized length := by
  obtain ⟨first, storing, firstSized⟩ := storeState_exists state sized bound
  obtain ⟨second, rx, secondSized⟩ := deliverRx_exists state firstSized bound
  obtain ⟨third, rxHw, thirdSized⟩ := deliverRxHw_exists state secondSized bound
  simp only [writeBackJoint, storing, rx, rxHw, Option.bind_eq_bind, Option.bind_some]
  exact storeLatencies_exists thirdSized bound

theorem writeBack_exists (fits : RowsFit length tables canInterfaces)
    (bound : index < canInterfaces.length) (sized : messages.Sized length) :
    ∃ written, writeBack index cmdRxNs txFillEndNs tables messages = some written ∧
      written.Sized length := by
  obtain ⟨rows, found, fit⟩ := fits index bound
  simp only [writeBack, interfaceRows_cycleRows found, Option.bind_eq_bind, Option.bind_some]
  apply accumulate_some (fun _ (written : JointMessages K) => written.Sized length) sized
  intro joint before joints sizedBefore
  rw [fit.states] at joints
  obtain ⟨params, paramsFound, msgIdx⟩ := fit.params_exists joints
  obtain ⟨state, stateFound⟩ := fit.states_exists joints
  rw [paramsFound, stateFound]
  exact writeBackJoint_exists sizedBefore msgIdx

end Messages

end CubemarsDriver.Node

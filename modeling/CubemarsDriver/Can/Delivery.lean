import CubemarsDriver.Can.Trace

namespace CubemarsDriver.Can

open Foundation

/-! # What `send_and_receive` does

The two loops are summarised by what they leave: every joint's report, the
frames handed to the socket and the results left unread. -/

variable {K : Type} [Scalar K]

omit [Scalar K] in
theorem Exchange.updateState_some {exchange : Exchange K} {index : Nat}
    (change : JointState K → JointState K) (bound : index < exchange.states.length) :
    exchange.updateState index change =
      some { exchange with states := exchange.states.modify index change } := if_pos bound

/-- The report of one joint, if there is such a joint. -/
def Exchange.report (exchange : Exchange K) (joint : Nat) : Option (Report K) :=
  exchange.states[joint]?.map Report.ofState

/-- What a call never changes: the joints and the number of states. -/
structure Exchange.Frame (before after : Exchange K) : Prop where
  jointConfigs : after.can.jointConfigs = before.can.jointConfigs
  states : after.states.length = before.states.length

/-- The caller's states are one per joint. -/
def Exchange.Sized (exchange : Exchange K) : Prop :=
  exchange.states.length = exchange.can.jointConfigs.length

namespace Exchange

variable {before middle after : Exchange K}

omit [Scalar K] in
theorem Frame.refl (exchange : Exchange K) : exchange.Frame exchange := ⟨rfl, rfl⟩

omit [Scalar K] in
theorem Frame.trans (first : before.Frame middle) (second : middle.Frame after) :
    before.Frame after where
  jointConfigs := second.jointConfigs.trans first.jointConfigs
  states := second.states.trans first.states

omit [Scalar K] in
theorem Sized.transport (sized : before.Sized) (frame : before.Frame after) : after.Sized := by
  rw [Sized, frame.states, frame.jointConfigs, sized]

end Exchange

/-- The frame of one command. -/
def commandFrame (len : Nat) (config : JointConfig K) (cmd : JointCmd K) : CanFrame where
  canId := commandCanId config
  len
  data := commandPayload config cmd

/-- The state of a joint after its command was handed to the socket. -/
def writtenState (result : WriteResult) (state : JointState K) : JointState K :=
  let cleared := { state with
    sendTimestampNs := 0, dequeueTimestampNs := 0, enqueueTimestampNs := 0 }
  match result with
  | .failed errno => { cleared with comErrno := errno, communicationStatus := .canWriteFailed }
  | .written enqueueNs => { cleared with
      enqueueTimestampNs := enqueueNs, communicationStatus := .canNoResponse }

omit [Scalar K] in
theorem report_writtenState (result : WriteResult) (state : JointState K) :
    Report.ofState (writtenState result state) =
      (Report.ofState state).withStatus (writtenStatus result.accepted) := by
  cases result <;> rfl

def Exchange.afterWrite (exchange : Exchange K) (index : Nat) (frame : CanFrame)
    (written : WriteResult × Socket) : Exchange K where
  can := { exchange.can with
    sendFrame := frame
    socket := written.2
    sendOk := exchange.can.sendOk.set index written.1.accepted
    sendOkSized := List.length_set.trans exchange.can.sendOkSized }
  states := exchange.states.modify index (writtenState written.1)

omit [Scalar K] in
theorem writeFrame_bind {β : Type} (next : WriteResult → ExchangePath K β) (exchange : Exchange K) :
    (writeFrame >>= next).run exchange =
      (next (exchange.can.socket.write exchange.can.sendFrame).1).run { exchange with
        can := { exchange.can with
          socket := (exchange.can.socket.write exchange.can.sendFrame).2 } } := rfl

/-- One command is handed to the socket, and nothing else happens. -/
theorem writeCommand_run {cmds : List (JointCmd K)} {exchange : Exchange K} {index : Nat}
    {config : JointConfig K} {cmd : JointCmd K}
    (configFound : exchange.can.jointConfigs[index]? = some config)
    (cmdFound : cmds[index]? = some cmd) (stateBound : index < exchange.states.length)
    (flagBound : index < exchange.can.sendOk.length) :
    let frame := commandFrame exchange.can.sendFrame.len config cmd
    (writeCommand cmds index).run exchange =
      (.returned (), exchange.afterWrite index frame (exchange.can.socket.write frame)) := by
  simp only [writeCommand, Path.element_bind, configFound, cmdFound, Path.updateDefined_bind,
    Path.update_bind, Exchange.updateState, stateBound, if_true, writeFrame_bind, commandFrame]
  generalize exchange.can.socket.write _ = written
  rcases written with ⟨_ | _, socket⟩ <;>
    simp [Path.updateDefined_bind, Path.updateDefined_run, Exchange.updateState, Exchange.setSendOk,
      stateBound, flagBound, List.modify_modify_eq, Function.comp_def] <;> rfl

/-- The attempts of one write phase, in joint order. -/
def commandAttempts (cmds : List (JointCmd K)) (start : Exchange K) : List WriteAttempt :=
  List.zipWith WriteAttempt.mk
    (List.zipWith (commandFrame start.can.sendFrame.len) start.can.jointConfigs cmds)
    (sendFlags start.can.jointConfigs.length start.can.socket.writes)

structure Written (cmds : List (JointCmd K)) (start : Exchange K) (index : Nat)
    (exchange : Exchange K) : Prop where
  frame : start.Frame exchange
  frameLength : exchange.can.sendFrame.len = start.can.sendFrame.len
  writes : exchange.can.socket.writes = start.can.socket.writes.drop index
  reads : exchange.can.socket.reads = start.can.socket.reads
  attempts : exchange.can.socket.attempts =
    start.can.socket.attempts ++ (commandAttempts cmds start).take index
  sendOk : ∀ joint, joint < index →
    exchange.can.sendOk[joint]? = some (commandWritten start.can.socket.writes joint)
  report : ∀ joint, exchange.report joint =
    if joint < index then
      (start.report joint).map
        (Report.withStatus · (writtenStatus (commandWritten start.can.socket.writes joint)))
    else start.report joint

omit [Scalar K] in
theorem write_accepted (socket : Socket) (frame : CanFrame) :
    (socket.write frame).1.accepted = commandWritten socket.writes 0 := by
  rcases pending : socket.writes with _ | ⟨_ | _, _⟩ <;>
    simp [Socket.write, pending, commandWritten, WriteResult.accepted]

theorem write_socket (socket : Socket) (frame : CanFrame) :
    (socket.write frame).2.writes = socket.writes.tail ∧
      (socket.write frame).2.reads = socket.reads ∧
      (socket.write frame).2.attempts =
        socket.attempts ++ [⟨frame, commandWritten socket.writes 0⟩] := by
  rcases pending : socket.writes with _ | ⟨_ | _, _⟩ <;>
    simp [Socket.write, pending, commandWritten, WriteResult.accepted]

theorem commandAttempts_getElem? {cmds : List (JointCmd K)} {start : Exchange K} {index : Nat}
    {config : JointConfig K} {cmd : JointCmd K}
    (configFound : start.can.jointConfigs[index]? = some config)
    (cmdFound : cmds[index]? = some cmd) :
    (commandAttempts cmds start)[index]? =
      some ⟨commandFrame start.can.sendFrame.len config cmd,
        commandWritten start.can.socket.writes index⟩ := by
  have bound : index < start.can.jointConfigs.length :=
    (List.getElem?_eq_some_iff.mp configFound).1
  simp [commandAttempts, List.getElem?_zipWith, configFound, cmdFound, sendFlags,
    List.getElem?_range bound]

omit [Scalar K] in
theorem commandWritten_drop (writes : List WriteResult) (index : Nat) :
    commandWritten (writes.drop index) 0 = commandWritten writes index := by
  rw [commandWritten, List.getElem?_drop, Nat.add_zero, commandWritten]

theorem written_step {cmds : List (JointCmd K)} {start exchange : Exchange K} {index : Nat}
    (sized : start.Sized) (enough : start.can.jointConfigs.length ≤ cmds.length)
    (bound : index < start.can.jointConfigs.length) (invariant : Written cmds start index exchange) :
    ∃ after, (writeCommand cmds index).run exchange = (.returned (), after) ∧
      Written cmds start (index + 1) after := by
  obtain ⟨config, configFound⟩ : ∃ config, start.can.jointConfigs[index]? = some config :=
    ⟨_, List.getElem?_eq_getElem bound⟩
  obtain ⟨cmd, cmdFound⟩ : ∃ cmd, cmds[index]? = some cmd :=
    ⟨_, List.getElem?_eq_getElem (by omega)⟩
  have exchangeSized := sized.transport invariant.frame
  have sameConfigs := invariant.frame.jointConfigs
  have flagBound : index < exchange.can.sendOk.length := by
    rw [exchange.can.sendOkSized, sameConfigs]; exact bound
  have run := writeCommand_run (by rw [sameConfigs]; exact configFound) cmdFound
    (by rw [exchangeSized, sameConfigs]; exact bound) flagBound
  have accepted : ∀ frame, (exchange.can.socket.write frame).1.accepted =
      commandWritten start.can.socket.writes index := by
    intro frame
    rw [write_accepted, invariant.writes, commandWritten_drop]
  obtain ⟨writes, reads, attempts⟩ := write_socket exchange.can.socket
    (commandFrame exchange.can.sendFrame.len config cmd)
  refine ⟨_, run, ?_⟩
  constructor
  case frame =>
    exact invariant.frame.trans ⟨rfl, List.length_modify ..⟩
  case frameLength => exact invariant.frameLength
  case writes => rw [Exchange.afterWrite, writes, invariant.writes, List.tail_drop]
  case reads => rw [Exchange.afterWrite, reads, invariant.reads]
  case attempts =>
    rw [Exchange.afterWrite, attempts, invariant.attempts, List.take_add_one,
      commandAttempts_getElem? configFound cmdFound, invariant.writes, commandWritten_drop,
      invariant.frameLength, List.append_assoc]
    rfl
  case sendOk =>
    intro joint below
    rw [Exchange.afterWrite, List.getElem?_set, accepted]
    by_cases same : index = joint
    · subst same
      rw [if_pos rfl, if_pos flagBound]
    · rw [if_neg same, invariant.sendOk joint (by omega)]
  case report =>
    intro joint
    have previous := invariant.report joint
    rw [Exchange.report] at previous ⊢
    rw [Exchange.afterWrite, List.getElem?_modify]
    by_cases same : index = joint
    · subst same
      rw [if_neg (Nat.lt_irrefl _)] at previous
      rw [if_pos (Nat.lt_succ_self _), ← previous]
      cases exchange.states[index]? with
      | none => rfl
      | some state => simp [report_writtenState, accepted]
    · have sameSide : joint < index + 1 ↔ joint < index := by omega
      simp only [same, if_false, sameSide, ← previous]
      cases exchange.states[joint]? <;> rfl

theorem writeLoop_ensures {cmds : List (JointCmd K)} {start : Exchange K} (sized : start.Sized)
    (enough : start.can.jointConfigs.length ≤ cmds.length) :
    Path.Ensures (· = start) (Path.loopBelow numJoints (writeCommand cmds))
      (fun _ => Written cmds start start.can.jointConfigs.length) (fun _ _ => False) := by
  apply (Path.Ensures.loopBelow start.can.jointConfigs.length (Written cmds start)
    ?sized ?step).strengthen_pre
  case sized =>
    intro index exchange invariant
    rw [numJoints, invariant.frame.jointConfigs]
  case step =>
    intro index bound
    apply Path.Ensures.of_runs
    intro exchange invariant
    exact ⟨(), written_step sized enough bound invariant⟩
  rintro exchange rfl
  constructor <;> simp [Exchange.Frame.refl]

/-- The interface after the inner receive loop of a slot. -/
def Exchange.afterRead (exchange : Exchange K) (index : Nat) : Exchange K where
  can :=
    let slot := readSlot 0 exchange.can.socket.reads
    { exchange.can with
      recvOk := exchange.can.recvOk.set index false
      recvOkSized := List.length_set.trans exchange.can.recvOkSized
      lastErrorCount := exchange.can.lastErrorCount + slot.errorCanids.length
      lastErrorCanid := slot.errorCanids.getLast?.getD exchange.can.lastErrorCanid
      socket := { exchange.can.socket with
        reads := slot.rest
        errno := slot.errno.getD exchange.can.socket.errno } }
  states := exchange.states

def Exchange.afterFailedRead (exchange : Exchange K) (index : Nat) : Exchange K :=
  { exchange.afterRead index with
    states := exchange.states.modify index fun state => { state with
      communicationStatus := .canReadFailed
      comErrno := (exchange.afterRead index).can.socket.errno } }

def Exchange.afterReply (exchange : Exchange K) (index joint : Nat) (config : JointConfig K)
    (sent : Bool) (reply : Reply) : Exchange K where
  can := { (exchange.afterRead index).can with
    recvOk := (exchange.afterRead index).can.recvOk.set joint true
    recvOkSized := List.length_set.trans (exchange.afterRead index).can.recvOkSized }
  states := exchange.states.modify joint (repliedState config sent reply)

omit [Scalar K] in
theorem receiveReply_bind {β : Type} (next : Option Reply → ExchangePath K β) (index : Nat)
    (exchange : Exchange K) :
    (receiveReply >>= next).run { exchange with
        can := { exchange.can with
          recvOk := exchange.can.recvOk.set index false
          recvOkSized := List.length_set.trans exchange.can.recvOkSized } } =
      (next (readSlot 0 exchange.can.socket.reads).reply).run (exchange.afterRead index) := rfl

/-- A slot whose command was not written does nothing. -/
theorem receiveSlot_skipped {exchange : Exchange K} {index : Nat}
    (skipped : exchange.can.sendOk[index]? = some false) :
    (receiveSlot index).run exchange = (.returned (), exchange) := by
  simp [receiveSlot, Path.element_bind, skipped]

theorem receiveSlot_failed {exchange : Exchange K} {index : Nat}
    (sent : exchange.can.sendOk[index]? = some true) (recvBound : index < exchange.can.recvOk.length)
    (stateBound : index < exchange.states.length)
    (failed : (readSlot 0 exchange.can.socket.reads).reply = none) :
    (receiveSlot index).run exchange = (.returned (), exchange.afterFailedRead index) := by
  simp only [receiveSlot, Path.element_bind, sent, if_true, Path.updateDefined_bind,
    Exchange.setRecvOk, recvBound, receiveReply_bind, failed, Path.read_bind,
    Path.updateDefined_run]
  rw [Exchange.updateState_some _ (by exact stateBound)]
  rfl

theorem receiveSlot_unknown {exchange : Exchange K} {index : Nat} {reply : Reply}
    (sent : exchange.can.sendOk[index]? = some true) (recvBound : index < exchange.can.recvOk.length)
    (received : (readSlot 0 exchange.can.socket.reads).reply = some reply)
    (unresolved : resolve exchange.can.jointConfigs reply.frame = none) :
    (receiveSlot index).run exchange = (.returned (), exchange.afterRead index) := by
  have unresolved' : resolve (exchange.afterRead index).can.jointConfigs reply.frame = none :=
    unresolved
  simp only [receiveSlot, Path.element_bind, sent, if_true, Path.updateDefined_bind,
    Exchange.setRecvOk, recvBound, receiveReply_bind, received, Path.read_bind, unresolved',
    Path.pure_run]

theorem receiveSlot_replied {exchange : Exchange K} {index joint : Nat} {reply : Reply}
    {config : JointConfig K} {jointSent : Bool} (sized : exchange.Sized)
    (sent : exchange.can.sendOk[index]? = some true) (recvBound : index < exchange.can.recvOk.length)
    (received : (readSlot 0 exchange.can.socket.reads).reply = some reply)
    (resolved : resolve exchange.can.jointConfigs reply.frame = some joint)
    (configFound : exchange.can.jointConfigs[joint]? = some config)
    (jointSentFound : exchange.can.sendOk[joint]? = some jointSent) :
    (receiveSlot index).run exchange =
      (.returned (), exchange.afterReply index joint config jointSent reply) := by
  have resolved' : resolve (exchange.afterRead index).can.jointConfigs reply.frame = some joint :=
    resolved
  have configFound' : (exchange.afterRead index).can.jointConfigs[joint]? = some config :=
    configFound
  have jointBound : joint < (exchange.afterRead index).can.recvOk.length := by
    rw [(exchange.afterRead index).can.recvOkSized]
    exact resolve_lt resolved
  have stateBound : joint < exchange.states.length := by
    rw [sized]
    exact resolve_lt resolved
  simp only [receiveSlot, Path.element_bind, sent, if_true, Path.updateDefined_bind,
    Exchange.setRecvOk, recvBound, receiveReply_bind, received, Path.read_bind, resolved',
    configFound', jointBound, Path.updateDefined_run]
  rw [show (exchange.afterRead index).can.sendOk[joint]? = some jointSent from jointSentFound]
  simp only
  rw [Exchange.updateState_some _ (by exact stateBound)]
  rfl

structure Received (start : Exchange K) (index : Nat) (exchange : Exchange K) : Prop where
  frame : start.Frame exchange
  sendOk : exchange.can.sendOk = start.can.sendOk
  frameLength : exchange.can.sendFrame.len = start.can.sendFrame.len
  writes : exchange.can.socket.writes = start.can.socket.writes
  attempts : exchange.can.socket.attempts = start.can.socket.attempts
  reads : exchange.can.socket.reads =
    slotRest (start.can.sendOk.take index) start.can.socket.reads
  report : ∀ joint config sent, start.can.jointConfigs[joint]? = some config →
    start.can.sendOk[joint]? = some sent →
    exchange.report joint = (start.report joint).map fun report =>
      reportAfter start.can.jointConfigs config sent joint
        (slotEvents start.can.sendOk start.can.socket.reads) report index

/-- One slot extends the invariant by what its event does to each report. -/
theorem Received.extend {start exchange after : Exchange K} {index : Nat} {ok : Bool}
    (invariant : Received start index exchange) (okFound : start.can.sendOk[index]? = some ok)
    (frame : exchange.Frame after) (sendOk : after.can.sendOk = exchange.can.sendOk)
    (sendFrame : after.can.sendFrame = exchange.can.sendFrame)
    (writes : after.can.socket.writes = exchange.can.socket.writes)
    (attempts : after.can.socket.attempts = exchange.can.socket.attempts)
    (reads : after.can.socket.reads =
      if ok then (readSlot 0 exchange.can.socket.reads).rest else exchange.can.socket.reads)
    (observed : ∀ joint config sent, start.can.jointConfigs[joint]? = some config →
      start.can.sendOk[joint]? = some sent → after.report joint = (exchange.report joint).map
        (SlotEvent.observe start.can.jointConfigs config sent joint index
          (if ok then (readSlot 0 exchange.can.socket.reads).event else .skipped))) :
    Received start (index + 1) after where
  frame := invariant.frame.trans frame
  sendOk := sendOk.trans invariant.sendOk
  frameLength := by rw [sendFrame, invariant.frameLength]
  writes := writes.trans invariant.writes
  attempts := attempts.trans invariant.attempts
  reads := by rw [reads, slotRest_take_succ okFound, invariant.reads]
  report := by
    intro joint config sent configFound sentFound
    rw [observed joint config sent configFound sentFound,
      invariant.report joint config sent configFound sentFound, Option.map_map, invariant.reads]
    congr 1
    funext report
    exact (reportAfter_succ (slotEvents_getElem? okFound)).symm

theorem received_step {start exchange : Exchange K} {index : Nat} (sized : start.Sized)
    (bound : index < start.can.jointConfigs.length) (invariant : Received start index exchange) :
    ∃ after, (receiveSlot index).run exchange = (.returned (), after) ∧
      Received start (index + 1) after := by
  obtain ⟨ok, okFound⟩ : ∃ ok, start.can.sendOk[index]? = some ok :=
    ⟨_, List.getElem?_eq_getElem (by rw [start.can.sendOkSized]; exact bound)⟩
  have exchangeSized := sized.transport invariant.frame
  have sameConfigs := invariant.frame.jointConfigs
  have recvBound : index < exchange.can.recvOk.length := by
    rw [exchange.can.recvOkSized, sameConfigs]; exact bound
  have stateBound : index < exchange.states.length := by
    rw [exchangeSized, sameConfigs]; exact bound
  have okFound' := okFound
  rw [← invariant.sendOk] at okFound'
  cases ok with
  | false =>
      refine ⟨exchange, receiveSlot_skipped okFound', ?_⟩
      apply invariant.extend okFound (Exchange.Frame.refl exchange) rfl rfl rfl rfl rfl
      intro joint config sent _ _
      simp [observe_skipped]
  | true =>
      cases slot : (readSlot 0 exchange.can.socket.reads).reply with
      | none =>
          refine ⟨_, receiveSlot_failed okFound' recvBound stateBound slot, ?_⟩
          have frame : exchange.Frame (exchange.afterFailedRead index) := by
            constructor <;> simp [Exchange.afterFailedRead, Exchange.afterRead]
          apply invariant.extend okFound frame rfl rfl rfl rfl rfl
          · intro joint config sent _ _
            simp only [Exchange.report, Exchange.afterFailedRead, List.getElem?_modify, if_true,
              SlotRead.event, slot]
            by_cases same : index = joint
            · subst same
              rw [observe_own_failure]
              cases exchange.states[index]? <;> simp
              rfl
            · rw [observe_other_failure same]
              simp [same]
      | some reply =>
          cases resolved : resolve exchange.can.jointConfigs reply.frame with
          | none =>
              refine ⟨_, receiveSlot_unknown okFound' recvBound slot resolved, ?_⟩
              have frame : exchange.Frame (exchange.afterRead index) := by
                constructor <;> simp [Exchange.afterRead]
              apply invariant.extend okFound frame rfl rfl rfl rfl rfl
              intro joint config sent _ _
              rw [sameConfigs] at resolved
              simp only [if_true, SlotRead.event, slot]
              rw [observe_other_reply (by simp [resolved])]
              rw [Option.map_id]
              rfl
          | some owner =>
              have ownerBound := resolve_lt resolved
              obtain ⟨config, configFound⟩ : ∃ config, exchange.can.jointConfigs[owner]? = some config :=
                ⟨_, List.getElem?_eq_getElem ownerBound⟩
              obtain ⟨sent, sentFound⟩ : ∃ sent, exchange.can.sendOk[owner]? = some sent :=
                ⟨_, List.getElem?_eq_getElem (by rw [exchange.can.sendOkSized]; exact ownerBound)⟩
              refine ⟨_, receiveSlot_replied exchangeSized okFound' recvBound slot resolved
                configFound sentFound, ?_⟩
              have frame : exchange.Frame (exchange.afterReply index owner config sent reply) := by
                constructor <;> simp [Exchange.afterReply, Exchange.afterRead]
              apply invariant.extend okFound frame rfl rfl rfl rfl rfl
              intro joint jointConfig jointSent jointConfigFound jointSentFound
              rw [sameConfigs] at resolved configFound
              rw [invariant.sendOk] at sentFound
              simp only [Exchange.report, Exchange.afterReply, List.getElem?_modify, if_true,
                SlotRead.event, slot]
              by_cases same : owner = joint
              · subst same
                cases configFound.symm.trans jointConfigFound
                cases sentFound.symm.trans jointSentFound
                rw [observe_own_reply resolved]
                cases exchange.states[owner]? <;> simp [report_repliedState]
              · rw [observe_other_reply (by simpa [resolved] using same)]
                simp [same]

theorem receiveLoop_ensures {start : Exchange K} (sized : start.Sized) :
    Path.Ensures (· = start) (Path.loopBelow numJoints receiveSlot)
      (fun _ => Received start start.can.jointConfigs.length) (fun _ _ => False) := by
  apply (Path.Ensures.loopBelow start.can.jointConfigs.length (Received start)
    ?sized ?step).strengthen_pre
  case sized =>
    intro index exchange invariant
    rw [numJoints, invariant.frame.jointConfigs]
  case step =>
    intro index bound
    apply Path.Ensures.of_runs
    intro exchange invariant
    exact ⟨(), received_step sized bound invariant⟩
  rintro exchange rfl
  constructor <;> simp [Exchange.Frame.refl, slotRest, reportAfter]

/-- Between the two states nothing happened that a report or the socket shows. -/
structure Exchange.Quiet (before after : Exchange K) : Prop where
  frame : before.Frame after
  sendOk : after.can.sendOk = before.can.sendOk
  frameLength : after.can.sendFrame.len = before.can.sendFrame.len
  writes : after.can.socket.writes = before.can.socket.writes
  reads : after.can.socket.reads = before.can.socket.reads
  attempts : after.can.socket.attempts = before.can.socket.attempts
  report : ∀ joint, after.report joint = before.report joint

section Quiet

omit [Scalar K]

variable {start before middle after : Exchange K}

theorem Exchange.Quiet.refl (exchange : Exchange K) : exchange.Quiet exchange :=
  ⟨Exchange.Frame.refl exchange, rfl, rfl, rfl, rfl, rfl, fun _ => rfl⟩

theorem Exchange.Quiet.trans (first : before.Quiet middle) (second : middle.Quiet after) :
    before.Quiet after where
  frame := first.frame.trans second.frame
  sendOk := second.sendOk.trans first.sendOk
  frameLength := second.frameLength.trans first.frameLength
  writes := second.writes.trans first.writes
  reads := second.reads.trans first.reads
  attempts := second.attempts.trans first.attempts
  report joint := (second.report joint).trans (first.report joint)

/-- A path that only adds diagnostics. -/
def Quietly {α : Type} (start : Exchange K) (path : ExchangePath K α) : Prop :=
  Path.Ensures start.Quiet path (fun _ => start.Quiet) (fun _ _ => False)

theorem socket_now_quiet (socket : Socket) :
    socket.now.2.writes = socket.writes ∧ socket.now.2.reads = socket.reads ∧
      socket.now.2.attempts = socket.attempts := by
  unfold Socket.now
  cases socket.clock <;> simp

theorem clockGettime_quiet : Quietly start clockGettime := by
  intro exchange quiet
  obtain ⟨writes, reads, attempts⟩ := socket_now_quiet exchange.can.socket
  exact quiet.trans ⟨⟨rfl, rfl⟩, rfl, rfl, writes, reads, attempts, fun _ => rfl⟩

theorem update_quiet {change : Exchange K → Exchange K}
    (quiet : ∀ exchange : Exchange K, exchange.Quiet (change exchange)) :
    Quietly start (Path.update change) :=
  fun exchange before => before.trans (quiet exchange)

theorem updateState_quiet {joint : Nat} {change : JointState K → JointState K}
    {exchange : Exchange K} (same : ∀ state, Report.ofState (change state) = Report.ofState state) :
    exchange.Quiet { exchange with states := exchange.states.modify joint change } := by
  refine ⟨⟨rfl, List.length_modify ..⟩, rfl, rfl, rfl, rfl, rfl, fun other => ?_⟩
  simp only [Exchange.report, List.getElem?_modify]
  cases exchange.states[other]? with
  | none => rfl
  | some state => by_cases this : joint = other <;> simp [this, same]

theorem collectTxTimestamp_quiet (sized : start.Sized) (entry : ErrorQueueEntry) :
    Quietly start (collectTxTimestamp entry) := by
  apply Path.Ensures.bind (update_quiet fun exchange => ?_) fun _ => ?_
  · exact ⟨⟨rfl, rfl⟩, rfl, rfl, rfl, rfl, rfl, fun _ => rfl⟩
  refine Path.Ensures.ite (fun _ => ?_) (fun _ => fun _ quiet => quiet)
  refine Path.Ensures.readBind fun found => ?_
  cases found with
  | none => exact fun exchange quiet => quiet.1
  | some joint =>
      apply Path.Ensures.of_runs
      rintro exchange ⟨quiet, found⟩
      have bound := (List.findIdx?_eq_some_iff_findIdx_eq.mp found).1
      have stateBound : joint < exchange.states.length := by
        rw [sized.transport quiet.frame]
        exact bound
      exact ⟨(), _, Path.updateDefined_some (Exchange.updateState_some _ stateBound),
        quiet.trans (updateState_quiet fun _ => rfl)⟩

theorem collectTxTimestamps_quiet (sized : start.Sized) : Quietly start collectTxTimestamps := by
  apply Path.Ensures.bind (update_quiet fun exchange => ?_) fun _ => ?_
  · exact ⟨⟨rfl, rfl⟩, rfl, rfl, rfl, rfl, rfl, fun _ => rfl⟩
  apply Path.Ensures.readBind fun entries => ?_
  apply (Path.Ensures.bind (update_quiet fun exchange => ?_) fun _ => ?_).strengthen_pre
    (fun _ holds => holds.1)
  · exact ⟨⟨rfl, rfl⟩, rfl, rfl, rfl, rfl, rfl, fun _ => rfl⟩
  exact Path.Ensures.forEach _ fun entry _ => collectTxTimestamp_quiet sized entry

end Quiet

/-- What the call makes of the report of a joint. -/
def deliveredReport (exchange : Exchange K) (joint : Nat) (config : JointConfig K)
    (report : Report K) : Report K :=
  let configs := exchange.can.jointConfigs
  let writes := exchange.can.socket.writes
  let sent := commandWritten writes joint
  reportAfter configs config sent joint
    (slotEvents (sendFlags configs.length writes) exchange.can.socket.reads)
    (report.withStatus (writtenStatus sent)) configs.length

structure Delivered (cmds : List (JointCmd K)) (before after : Exchange K) : Prop where
  frame : before.Frame after
  frameLength : after.can.sendFrame.len = before.can.sendFrame.len
  writes : after.can.socket.writes =
    before.can.socket.writes.drop before.can.jointConfigs.length
  reads : after.can.socket.reads =
    slotRest (sendFlags before.can.jointConfigs.length before.can.socket.writes)
      before.can.socket.reads
  attempts : after.can.socket.attempts =
    before.can.socket.attempts ++ commandAttempts cmds before
  report : ∀ joint config, before.can.jointConfigs[joint]? = some config →
    after.report joint = (before.report joint).map (deliveredReport before joint config)

theorem Written.sendOk_eq {cmds : List (JointCmd K)} {start exchange : Exchange K}
    (written : Written cmds start start.can.jointConfigs.length exchange) :
    exchange.can.sendOk = sendFlags start.can.jointConfigs.length start.can.socket.writes := by
  apply List.ext_getElem?
  intro joint
  by_cases bound : joint < start.can.jointConfigs.length
  · rw [written.sendOk joint bound]
    simp [sendFlags, List.getElem?_range bound]
  · have short : exchange.can.sendOk.length = start.can.jointConfigs.length := by
      rw [exchange.can.sendOkSized, written.frame.jointConfigs]
    rw [List.getElem?_eq_none (by omega), List.getElem?_eq_none (by simp [sendFlags]; omega)]

theorem commandAttempts_length {cmds : List (JointCmd K)} {start : Exchange K}
    (enough : start.can.jointConfigs.length ≤ cmds.length) :
    (commandAttempts cmds start).length = start.can.jointConfigs.length := by
  simp [commandAttempts, sendFlags, enough]

omit [Scalar K] in
theorem checkSizes_run {cmds : List (JointCmd K)} {exchange : Exchange K}
    (counted : cmds.length = exchange.can.jointConfigs.length) :
    (checkSizes cmds).run exchange = (.returned (), exchange) := by
  simp [checkSizes, numJoints, counted]

/-- With neither size right the call fails before anything is written. -/
theorem sendAndReceive_mismatch {cmds : List (JointCmd K)} {exchange : Exchange K}
    (states : cmds.length ≠ exchange.states.length)
    (joints : cmds.length ≠ exchange.can.jointConfigs.length) :
    (sendAndReceive cmds).run exchange = (.thrown .outOfRange, exchange) ∨
      (sendAndReceive cmds).run exchange = (.undefined, exchange) := by
  have checked : (checkSizes cmds).run exchange =
      (if exchange.can.jointConfigs.length ≤ sizeMessageLength then Path.throw .outOfRange
        else Path.element fun _ => none : ExchangePath K Unit).run exchange := by
    simp only [checkSizes, Path.read_bind]
    rw [if_pos (show _ ∧ cmds.length ≠ numJoints exchange from ⟨states, joints⟩)]
    rfl
  rw [sendAndReceive]
  by_cases short : exchange.can.jointConfigs.length ≤ sizeMessageLength
  · rw [if_pos short] at checked
    exact .inl (Path.bind_thrown checked)
  · rw [if_neg short] at checked
    exact .inr (Path.bind_undefined checked)

/-- The three phases together. -/
theorem delivered_of_phases {cmds : List (JointCmd K)} {before start written filled received
    after : Exchange K} (sized : before.Sized)
    (counted : cmds.length = before.can.jointConfigs.length) (started : before.Quiet start)
    (writing : Written cmds start start.can.jointConfigs.length written)
    (waiting : written.Quiet filled)
    (receiving : Received filled filled.can.jointConfigs.length received)
    (ending : received.Quiet after) : Delivered cmds before after := by
  have startSized := sized.transport started.frame
  have configs := started.frame.jointConfigs
  have filledConfigs : filled.can.jointConfigs = before.can.jointConfigs := by
    rw [waiting.frame.jointConfigs, writing.frame.jointConfigs, configs]
  have flags : filled.can.sendOk =
      sendFlags before.can.jointConfigs.length before.can.socket.writes := by
    rw [waiting.sendOk, writing.sendOk_eq, configs, started.writes]
  have flagCount : filled.can.sendOk.length = before.can.jointConfigs.length := by
    simp [flags, sendFlags]
  have sameAttempts : commandAttempts cmds start = commandAttempts cmds before := by
    rw [commandAttempts, commandAttempts, configs, started.frameLength, started.writes]
  have enough : start.can.jointConfigs.length ≤ cmds.length := by rw [configs, counted]
  have filledReads : filled.can.socket.reads = before.can.socket.reads := by
    rw [waiting.reads, writing.reads, started.reads]
  constructor
  case frame =>
    exact started.frame.trans <| writing.frame.trans <| waiting.frame.trans <|
      receiving.frame.trans ending.frame
  case frameLength =>
    rw [ending.frameLength, receiving.frameLength, waiting.frameLength, writing.frameLength,
      started.frameLength]
  case writes =>
    rw [ending.writes, receiving.writes, waiting.writes, writing.writes, started.writes, configs]
  case reads =>
    rw [ending.reads, receiving.reads, filledReads, filledConfigs,
      List.take_of_length_le flagCount.le, flags]
  case attempts =>
    rw [ending.attempts, receiving.attempts, waiting.attempts, writing.attempts, started.attempts,
      ← commandAttempts_length enough, List.take_length, sameAttempts]
  case report =>
    intro joint config configFound
    have bound : joint < before.can.jointConfigs.length := (List.getElem?_eq_some_iff.mp configFound).1
    have sent : filled.can.sendOk[joint]? =
        some (commandWritten before.can.socket.writes joint) := by
      rw [flags, sendFlags, List.getElem?_map, List.getElem?_range bound]
      rfl
    rw [ending.report, receiving.report joint config _ (by rw [filledConfigs]; exact configFound) sent,
      waiting.report, writing.report, if_pos (by rw [configs]; exact bound), started.report,
      Option.map_map, filledConfigs, flags, filledReads, started.writes]
    rfl

/-- What the call delivers with as many commands and states as there are joints. -/
theorem sendAndReceive_delivers {cmds : List (JointCmd K)} {before : Exchange K}
    (sized : before.Sized) (counted : cmds.length = before.can.jointConfigs.length) :
    ∃ after, (sendAndReceive cmds).run before = (.returned (), after) ∧
      Delivered cmds before after := by
  have starting : Quietly before clockGettime := clockGettime_quiet
  obtain ⟨startNs, start, startRun, started⟩ := starting.returns (Exchange.Quiet.refl before)
  have startSized := sized.transport started.frame
  obtain ⟨_, written, writeRun, writing⟩ := (writeLoop_ensures startSized
    (by rw [started.frame.jointConfigs, counted])).returns rfl
  have counting : Quietly written clockGettime := clockGettime_quiet
  obtain ⟨endNs, counted', countRun, counting⟩ := counting.returns (Exchange.Quiet.refl written)
  let filled : Exchange K := { counted' with can := { counted'.can with
    txFillEndNs := endNs, txFillDurationNs := endNs - startNs, lastErrorCount := 0 } }
  have waiting : written.Quiet filled :=
    counting.trans ⟨⟨rfl, rfl⟩, rfl, rfl, rfl, rfl, rfl, fun _ => rfl⟩
  have filledSized := (startSized.transport writing.frame).transport waiting.frame
  obtain ⟨_, received, receiveRun, receiving⟩ := (receiveLoop_ensures filledSized).returns rfl
  have timing : Quietly received clockGettime := clockGettime_quiet
  obtain ⟨receivedNs, timed, timeRun, timing⟩ := timing.returns (Exchange.Quiet.refl received)
  let measured : Exchange K := { timed with can := { timed.can with
    rxDurationNs := receivedNs - timed.can.txFillEndNs } }
  have measuring : received.Quiet measured :=
    timing.trans ⟨⟨rfl, rfl⟩, rfl, rfl, rfl, rfl, rfl, fun _ => rfl⟩
  have ending : ∃ after, (if timed.can.enableTxTimestamping then collectTxTimestamps
      else pure () : ExchangePath K Unit).run measured = (.returned (), after) ∧
      received.Quiet after := by
    split
    · obtain ⟨_, after, run, quiet⟩ :=
        (collectTxTimestamps_quiet (filledSized.transport receiving.frame)).returns measuring
      exact ⟨after, run, quiet⟩
    · exact ⟨measured, rfl, measuring⟩
  obtain ⟨after, endRun, ending⟩ := ending
  refine ⟨after, ?_, delivered_of_phases sized counted started writing waiting receiving ending⟩
  rw [sendAndReceive, Path.bind_returned (checkSizes_run counted), Path.bind_returned startRun,
    Path.bind_returned writeRun, Path.bind_returned countRun, Path.update_bind,
    Path.bind_returned receiveRun, Path.bind_returned timeRun, Path.update_bind, Path.read_bind]
  exact endRun

end CubemarsDriver.Can

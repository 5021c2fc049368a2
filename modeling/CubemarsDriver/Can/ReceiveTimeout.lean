import CubemarsDriver.Can.HandshakeReply

namespace CubemarsDriver.Can

open Foundation

/-! # The receive timeout while a motor is enabled

Setting the zero position raises the timeout, which is reset at the end only: every
handshake in between that throws leaves it raised. -/

variable {K : Type} {can after : CubemarsCan K} {joint trials : Nat} {setZero : Bool}
variable {config : JointConfig K} {call : ControlCall}

/-- The results that writes and reads will have. -/
structure Results where
  writes : List WriteResult
  reads : List ReadResult
deriving DecidableEq, Repr

/-- The frame that the next handshake reads. -/
def Results.reply (results : Results) : Option Reply :=
  handshakeReply { writes := results.writes, reads := results.reads }

/-- A handshake reads only if its frame has been written. -/
def Results.next : Results → Results
  | ⟨.written _ :: writes, reads⟩ => ⟨writes, reads.tail⟩
  | ⟨writes, reads⟩ => ⟨writes.tail, reads⟩

/-- How a handshake ends. -/
def ControlCall.outcome (call : ControlCall) (results : Results) : Outcome Exception Unit :=
  match results.reply with
  | none => .thrown (.canDeviceError call.canId)
  | some reply =>
      if call.checkedId reply.frame ≠ call.canId then .thrown (.canDeviceError call.canId)
      else if ErrorCode.ofByte reply.frame.data.errorByte ≠ .noFault then
        .thrown (.motorError call.canId (ErrorCode.ofByte reply.frame.data.errorByte))
      else .returned ()

/-- The results left when a motor has answered within the trials. -/
def ControlCall.connected (call : ControlCall) : Nat → Results → Option Results
  | 0, _ => none
  | trials + 1, results =>
      match call.outcome results with
      | .returned () => some results.next
      | .thrown (.canDeviceError _) => call.connected trials results.next
      | _ => none

namespace CubemarsCan

def results (can : CubemarsCan K) : Results := ⟨can.socket.writes, can.socket.reads⟩

/-- The timeout that the socket is configured with. -/
def timeout (can : CubemarsCan K) : Int × Int := (can.socketTimeoutSec, can.socketTimeoutUsec)

/-- All later calls of `setsockopt` succeed. -/
def SettingSucceeds (can : CubemarsCan K) : Prop := ∀ ok ∈ can.socket.timeoutSettings, ok = true

end CubemarsCan

/-- What no handshake changes. -/
def timeouts (can : CubemarsCan K) : (Int × Int) × List Bool × (Int × Int) :=
  (can.socket.receiveTimeout, can.socket.timeoutSettings, can.timeout)

theorem writeSendFrame_timeouts :
    Path.Preserves timeouts (writeSendFrame : CanPath K WriteResult) := by
  intro can
  change timeouts { can with socket := (can.socket.write can.sendFrame).2 } = timeouts can
  unfold Socket.write
  split <;> rfl

theorem readFrame_timeouts : Path.Preserves timeouts (readFrame : CanPath K ReadResult) := by
  intro can
  change timeouts { can with socket := can.socket.read.2 } = timeouts can
  unfold Socket.read
  split <;> rfl

theorem ControlCall.path_timeouts (call : ControlCall) :
    Path.Preserves timeouts (call.path : CanPath K Unit) :=
  call.path_evolves (fun _ _ => rfl) writeSendFrame_timeouts readFrame_timeouts

theorem check_results {id canId : BitVec 32} {errCode : ErrorCode} :
    (if id ≠ canId then Path.throw (.canDeviceError canId)
      else if errCode ≠ .noFault then Path.throw (.motorError canId errCode)
      else pure () : CanPath K Unit).run can =
    ((if id ≠ canId then .thrown (.canDeviceError canId)
      else if errCode ≠ .noFault then .thrown (.motorError canId errCode)
      else .returned ()), can) := by
  split
  · rfl
  · split <;> rfl

/-- A handshake uses the next results and ends as they say. -/
theorem ControlCall.path_results (call : ControlCall) (can : CubemarsCan K) :
    (call.path.run can).1 = call.outcome can.results ∧
      (call.path.run can).2.results = can.results.next := by
  cases call with
  | v2 canId controlSequence =>
      simp only [path, sendControlFrameV2, Path.update_bind, writeSendFrame_bind, outcome,
        Results.reply, handshakeReply, CubemarsCan.results]
      cases writes : can.socket.writes with
      | nil => simp [Socket.write, writes, Results.next, ControlCall.canId]
      | cons result rest =>
          cases result with
          | failed errno => simp [Socket.write, writes, Results.next, ControlCall.canId]
          | written enqueueNs =>
              simp only [Socket.write, writes, readFrame_bind]
              cases reads : can.socket.reads with
              | nil => simp [Socket.read, Results.next, ControlCall.canId]
              | cons result rest =>
                  cases result with
                  | failed errno => simp [Socket.read, Results.next, ControlCall.canId]
                  | frame reply =>
                      simp only [Socket.read, check_results]
                      exact ⟨rfl, rfl⟩
  | v3 canId modeId controlSequence =>
      simp only [path, sendControlFrameV3, Path.update_bind, writeSendFrame_bind, outcome,
        Results.reply, handshakeReply, CubemarsCan.results]
      cases writes : can.socket.writes with
      | nil => simp [Socket.write, writes, Results.next, ControlCall.canId]
      | cons result rest =>
          cases result with
          | failed errno => simp [Socket.write, writes, Results.next, ControlCall.canId]
          | written enqueueNs =>
              simp only [Socket.write, writes, readFrame_bind]
              cases reads : can.socket.reads with
              | nil => simp [Socket.read, Results.next, ControlCall.canId]
              | cons result rest =>
                  cases result with
                  | failed errno => simp [Socket.read, Results.next, ControlCall.canId]
                  | frame reply =>
                      simp only [Socket.read, check_results]
                      exact ⟨rfl, rfl⟩

theorem ControlCall.path_returns (answered : call.outcome can.results = .returned ()) :
    ∃ after, call.path.run can = (.returned (), after) ∧ after.results = can.results.next ∧
      timeouts after = timeouts can :=
  ⟨_, Prod.ext ((call.path_results can).1.trans answered) rfl, (call.path_results can).2,
    (call.path_timeouts).of_run rfl⟩

/-- A handshake that is not answered throws, and nothing behind it runs. -/
theorem ControlCall.path_throws {next : Unit → CanPath K Unit}
    (unanswered : call.outcome can.results ≠ .returned ()) :
    timeouts ((call.path >>= next).run can).2 = timeouts can := by
  have kept : timeouts (call.path.run can).2 = timeouts can := (call.path_timeouts).of_run rfl
  have outcome := (call.path_results can).1
  cases ends : call.path.run can with
  | mk result after =>
      rw [ends] at kept outcome
      cases result with
      | returned value => exact absurd outcome.symm unanswered
      | thrown exception => rw [Path.bind_thrown ends, kept]
      | undefined => rw [Path.bind_undefined ends, kept]

/-- The handshake that is repeated until a V3 motor responds. -/
def connectCall (canId : BitVec 32) : ControlCall := .v3 canId CanPacketId.setCurrent [0, 0, 0, 0]

theorem connect_results (canId : BitVec 32) (trials : Nat) (can : CubemarsCan K) :
    match (connectCall canId).connected trials can.results with
    | some left => ∃ after, (connect canId trials).run can = (.returned (), after) ∧
        after.results = left ∧ timeouts after = timeouts can
    | none => ∃ exception after, (connect canId trials).run can = (.thrown exception, after) ∧
        timeouts after = timeouts can := by
  induction trials generalizing can with
  | zero => exact ⟨_, _, rfl, rfl⟩
  | succ trials ih =>
      have kept : timeouts ((connectCall canId).path.run can).2 = timeouts can :=
        ((connectCall canId).path_timeouts).of_run rfl
      obtain ⟨outcome, left⟩ := (connectCall canId).path_results can
      rw [ControlCall.connected]
      cases ends : (connectCall canId).path.run can with
      | mk result after =>
          rw [ends] at kept outcome left
          rw [← outcome]
          cases result with
          | returned value => exact ⟨after, Path.tryCatch_returned ends, left, kept⟩
          | undefined =>
              -- no handshake is undefined
              unfold ControlCall.outcome at outcome
              split at outcome
              · cases outcome
              · split at outcome
                · cases outcome
                · split at outcome <;> cases outcome
          | thrown exception =>
              cases exception with
              | canDeviceError failedId =>
                  have retried : (connect canId (trials + 1)).run can = (connect canId trials).run after :=
                    Path.tryCatch_thrown ends
                  have later := ih after
                  rw [show after.results = can.results.next from left] at later
                  simp only [retried, ← kept]
                  exact later
              | _ => exact ⟨_, after, Path.tryCatch_thrown ends, kept⟩

theorem setReceiveTimeout_succeeds (succeeds : can.SettingSucceeds) (sec usec : Int) :
    ∃ after, (setReceiveTimeout sec usec).run can = (.returned true, after) ∧
      after.socket.receiveTimeout = (sec, usec) ∧ after.timeout = can.timeout ∧
      after.results = can.results ∧ after.SettingSucceeds := by
  cases settings : can.socket.timeoutSettings with
  | nil =>
      refine ⟨{ can with socket := { can.socket with receiveTimeout := (sec, usec) } }, ?_, rfl, rfl,
        rfl, succeeds⟩
      simp only [setReceiveTimeout, Socket.setReceiveTimeout, settings]
  | cons ok rest =>
      obtain rfl : ok = true := succeeds ok (by rw [settings]; exact List.mem_cons_self)
      refine ⟨{ can with socket := { can.socket with
        timeoutSettings := rest, receiveTimeout := (sec, usec) } }, ?_, rfl, rfl, rfl, ?_⟩
      · simp only [setReceiveTimeout, Socket.setReceiveTimeout, settings]
      · exact fun other member => succeeds other (by rw [settings]; exact List.mem_cons_of_mem _ member)

theorem resetReceiveTimeout_resets (succeeds : can.SettingSucceeds) :
    (resetReceiveTimeout.run can).2.socket.receiveTimeout = can.timeout ∧
      (resetReceiveTimeout.run can).2.timeout = can.timeout := by
  obtain ⟨after, run, set, same, _⟩ :=
    setReceiveTimeout_succeeds succeeds can.socketTimeoutSec can.socketTimeoutUsec
  rw [resetReceiveTimeout, Path.read_bind, Path.read_bind, Path.bind_returned run]
  exact ⟨set, same⟩

/-- The timeout is raised, and the zero position is set. -/
theorem setZeroPosition_raises (config : JointConfig K) (succeeds : can.SettingSucceeds) :
    ∃ raised : CubemarsCan K, (setZeroPosition config).run can = (originCall config).path.run raised ∧
      raised.socket.receiveTimeout = (10, 0) ∧ raised.timeout = can.timeout ∧
      raised.results = can.results ∧ raised.SettingSucceeds := by
  obtain ⟨raised, run, set, same, results, succeeds⟩ := setReceiveTimeout_succeeds succeeds 10 0
  refine ⟨raised, ?_, set, same, results, succeeds⟩
  rw [setZeroPosition_eq, Path.bind_returned run]
  rfl

/-- The two handshakes behind the raising of the timeout are answered. -/
def AnswersZeroing (config : JointConfig K) (results : Results) : Prop :=
  (originCall config).outcome results = .returned () ∧
    (enableCall config).outcome results.next = .returned ()

instance instDecidableAnswersZeroing (config : JointConfig K) (results : Results) :
    Decidable (AnswersZeroing config results) := inferInstanceAs (Decidable (_ ∧ _))

theorem enableResponding_plain : Path.Preserves timeouts (enableResponding config false) :=
  Path.Evolves.bind (Path.Evolves.pure _) fun _ =>
    Path.Evolves.bind (enableCall config).path_timeouts fun _ => Path.Evolves.pure _

theorem enableResponding_restores_iff (succeeds : can.SettingSucceeds) :
    ((enableResponding config true).run can).2.timeout = can.timeout ∧
      (((enableResponding config true).run can).2.socket.receiveTimeout = can.timeout ↔
        AnswersZeroing config can.results ∨ can.timeout = (10, 0)) := by
  obtain ⟨raised, run, set, same, results, succeeds⟩ :=
    setZeroPosition_raises config succeeds
  have whole : (enableResponding config true).run can = ((originCall config).path >>= fun _ => do
      (enableCall config).path
      resetReceiveTimeout).run raised := by
    rw [enableResponding, Path.bind_run, Path.when, if_pos rfl, run, ← Path.bind_run]
    rfl
  have stuck {ended : CubemarsCan K} (kept : timeouts ended = timeouts raised)
      (unanswered : ¬ AnswersZeroing config can.results) : ended.timeout = can.timeout ∧
        (ended.socket.receiveTimeout = can.timeout ↔
          AnswersZeroing config can.results ∨ can.timeout = (10, 0)) := by
    simp only [timeouts, Prod.mk.injEq] at kept
    obtain ⟨still, _, unmoved⟩ := kept
    rw [still, unmoved, set]
    exact ⟨same, by simp only [unanswered, false_or, eq_comm]⟩
  rw [whole]
  by_cases zeroed : (originCall config).outcome raised.results = .returned ()
  · obtain ⟨middle, zeroing, left, kept⟩ := ControlCall.path_returns zeroed
    rw [Path.bind_returned zeroing]
    by_cases enabled : (enableCall config).outcome middle.results = .returned ()
    · obtain ⟨ended, enables, _, keeps⟩ := ControlCall.path_returns enabled
      rw [Path.bind_returned enables]
      have both : timeouts ended = timeouts raised := keeps.trans kept
      simp only [timeouts, Prod.mk.injEq] at both
      obtain ⟨_, settings, unmoved⟩ := both
      have succeedsThen : ended.SettingSucceeds := by rwa [CubemarsCan.SettingSucceeds, settings]
      obtain ⟨reset, timeout⟩ := resetReceiveTimeout_resets succeedsThen
      rw [reset, timeout, unmoved, same]
      rw [results] at zeroed left
      rw [left] at enabled
      exact ⟨rfl, fun _ => .inl ⟨zeroed, enabled⟩, fun _ => rfl⟩
    · rw [results] at left
      rw [left] at enabled
      have unanswered : ¬ AnswersZeroing config can.results := fun both => enabled both.2
      exact stuck ((ControlCall.path_throws (by rwa [left])).trans kept) unanswered
  · have unanswered : ¬ AnswersZeroing config can.results := fun both => zeroed (results ▸ both.1)
    exact stuck (ControlCall.path_throws zeroed) unanswered

/-- The motor whose start raises the timeout, with the results left at that point. -/
def CubemarsCan.raising (can : CubemarsCan K) (joint : Nat) (setZero : Bool) :
    Option (JointConfig K × Results) :=
  if setZero then do
    let config ← can.jointConfigs[joint]?
    let results ← match config.seriesType with
      | .v2 => some can.results
      | .v3 => (connectCall config.canId).connected can.maxInitialConnectionTrials can.results
    some (config, results)
  else none

/-- The timeout is not raised, or it is reset, or it need not be. -/
def RestoresTimeout (can : CubemarsCan K) (joint : Nat) (setZero : Bool) : Prop :=
  match can.raising joint setZero with
  | none => can.socket.receiveTimeout = can.timeout
  | some (config, results) => AnswersZeroing config results ∨ can.timeout = (10, 0)

theorem startMotorControlMode_restores_iff (joint : Nat) (setZero : Bool)
    (succeeds : can.SettingSucceeds) :
    ((startMotorControlMode joint setZero).run can).2.socket.receiveTimeout = can.timeout ↔
      RestoresTimeout can joint setZero := by
  have unraised {ended : CubemarsCan K} (kept : timeouts ended = timeouts can)
      (none : can.raising joint setZero = none) :
      ended.socket.receiveTimeout = can.timeout ↔ RestoresTimeout can joint setZero := by
    simp only [timeouts, Prod.mk.injEq] at kept
    rw [RestoresTimeout, none, kept.1]
  cases found : can.jointConfigs[joint]? with
  | none =>
      have absent : can.raising joint setZero = none := by
        cases setZero
        · rfl
        · rw [CubemarsCan.raising, found]
          rfl
      refine unraised ?_ absent
      rw [startMotorControlMode, Path.read_bind, found]
      rfl
  | some config =>
      rw [startMotorControlMode_run found, enableMotor]
      cases series : config.seriesType with
      | v2 =>
          cases setZero with
          | false => exact unraised ((enableResponding_plain).of_run rfl) rfl
          | true =>
              have raises : can.raising joint true = some (config, can.results) := by
                simp [CubemarsCan.raising, found, series]
              rw [RestoresTimeout, raises]
              exact (enableResponding_restores_iff succeeds).2
      | v3 =>
          have trials := connect_results config.canId can.maxInitialConnectionTrials can
          cases connected : (connectCall config.canId).connected can.maxInitialConnectionTrials
              can.results with
          | none =>
              rw [connected] at trials
              obtain ⟨exception, stopped, throws, kept⟩ := trials
              have absent : can.raising joint setZero = none := by
                simp [CubemarsCan.raising, found, series, connected]
              refine unraised ?_ absent
              rw [Path.when, if_pos rfl, Path.bind_thrown throws, kept]
          | some left =>
              rw [connected] at trials
              obtain ⟨middle, returns, results, kept⟩ := trials
              rw [Path.when, if_pos rfl, Path.bind_returned returns]
              cases setZero with
              | false =>
                  have keeps : timeouts ((enableResponding config false).run middle).2 = timeouts middle :=
                    (enableResponding_plain).of_run rfl
                  exact unraised (keeps.trans kept) rfl
              | true =>
                  have raises : can.raising joint true = some (config, left) := by
                    simp [CubemarsCan.raising, found, series, connected]
                  simp only [timeouts, Prod.mk.injEq] at kept
                  obtain ⟨_, settings, same⟩ := kept
                  have succeedsThen : middle.SettingSucceeds := by
                    rwa [CubemarsCan.SettingSucceeds, settings]
                  rw [RestoresTimeout, raises, ← same, ← results]
                  exact (enableResponding_restores_iff succeedsThen).2

section Example

/-- A V2 motor that answers the given number of handshakes. -/
def zeroingCan (answers : Nat) : CubemarsCan ℚ := exampleCan 1 {
  writes := List.replicate 2 (.written 0)
  reads := List.replicate answers
    (.frame { frame := enabledReply, rxNs := 0, rxHwNs := 0, dequeueNs := 0 })
  receiveTimeout := (0, 1000) }

theorem zeroingCan_succeeds (answers : Nat) : (zeroingCan answers).SettingSucceeds :=
  fun _ impossible => absurd impossible List.not_mem_nil

theorem startMotorControlMode_restores_iff_zeroing :
    ((startMotorControlMode 0 true).run (zeroingCan 2)).2.socket.receiveTimeout = (0, 1000) := by
  have answered : RestoresTimeout (zeroingCan 2) 0 true :=
    .inl (show AnswersZeroing (ak80 1 : JointConfig ℚ) (zeroingCan 2).results by decide +kernel)
  exact (startMotorControlMode_restores_iff 0 true (zeroingCan_succeeds 2)).mpr answered

/-- Without an answer to the set-zero frame the timeout stays at ten seconds. -/
theorem unanswered_zeroing_leaves_timeout :
    (zeroingCan 0).socket.receiveTimeout = (zeroingCan 0).timeout ∧
      (zeroingCan 0).socket.timeoutSettings = [] ∧
      ((startMotorControlMode 0 true).run (zeroingCan 0)).1 = .thrown (.canDeviceError 1) ∧
      ((startMotorControlMode 0 true).run (zeroingCan 0)).2.socket.receiveTimeout = (10, 0) ∧
      (10, 0) ≠ (zeroingCan 0).timeout := by
  decide +kernel

end Example

end CubemarsDriver.Can

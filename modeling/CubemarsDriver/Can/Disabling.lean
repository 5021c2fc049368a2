import CubemarsDriver.Can.Delivery
import CubemarsDriver.Can.HandshakeReply

namespace CubemarsDriver.Can

open Foundation

/-! # The frames that disable motors

A motor answers a disable frame or it does not; the frame has been handed to the
socket either way. -/

variable {K : Type} {can after : CubemarsCan K} {config : JointConfig K} {joint : Nat}

/-- A V2 motor leaves motor control, a V3 motor is told to apply no current. -/
def CanFrame.Disables (frame : CanFrame) (config : JointConfig K) : Prop :=
  match config.seriesType with
  | .v2 => frame.canId = config.canId ∧ frame.data = exitMotorControlModeSequence
  | .v3 => frame.canId =
        ((config.canId ||| (CanPacketId.setCurrent <<< 8)) &&& canEffMask) ||| canEffFlag ∧
      frame.len = 4 ∧ frame.data.toList.take 4 = [0, 0, 0, 0]

def CubemarsCan.attempts (can : CubemarsCan K) : List WriteAttempt := can.socket.attempts

theorem readFrame_attempts : Path.Preserves CubemarsCan.attempts (readFrame : CanPath K ReadResult) := by
  intro can
  have same : can.socket.read.2.attempts = can.socket.attempts := by
    unfold Socket.read
    split <;> rfl
  exact same

theorem checkReply_attempts {id canId : BitVec 32} {errCode : ErrorCode} :
    Path.Preserves CubemarsCan.attempts (if id ≠ canId then Path.throw (.canDeviceError canId)
      else if errCode ≠ .noFault then Path.throw (.motorError canId errCode)
      else pure () : CanPath K Unit) :=
  Path.Evolves.ite (fun _ => Path.Evolves.throw _) fun _ =>
    Path.Evolves.ite (fun _ => Path.Evolves.throw _) fun _ => Path.Evolves.pure _

/-- A path that writes its frame once attempts that frame, however it ends. -/
theorem writeSendFrame_attempts {α : Type} {next : WriteResult → CanPath K α}
    (rest : ∀ result, Path.Preserves CubemarsCan.attempts (next result)) :
    ((writeSendFrame >>= next).run can).2.attempts =
      can.attempts ++ [⟨can.sendFrame, commandWritten can.socket.writes 0⟩] := by
  rw [writeSendFrame_bind]
  exact (rest _ _).trans (write_socket can.socket can.sendFrame).2.2

theorem copySequence_whole (sequence data : Payload) :
    copySequence sequence.toList data = sequence := by
  apply Vector.ext
  intro byte bound
  simp [copySequence]

/-- The frame a call writes. -/
def ControlCall.frame (call : ControlCall) (sendFrame : CanFrame) : CanFrame :=
  match call with
  | v2 canId controlSequence => { sendFrame with canId, data := controlSequence }
  | v3 canId modeId controlSequence => {
      canId := ((canId ||| (modeId <<< 8)) &&& canEffMask) ||| canEffFlag
      len := controlSequence.length
      data := copySequence controlSequence sendFrame.data }

/-- A call attempts its frame, however it ends. -/
theorem ControlCall.path_attempts (call : ControlCall) : (call.path.run can).2.attempts =
    can.attempts ++ [⟨call.frame can.sendFrame, commandWritten can.socket.writes 0⟩] := by
  cases call with
  | v2 canId controlSequence =>
      simp only [path, sendControlFrameV2, Path.update_bind, copySequence_whole]
      refine writeSendFrame_attempts fun result => ?_
      cases result with
      | failed errno => exact Path.Evolves.throw _
      | written enqueueNs =>
          refine Path.Evolves.bind readFrame_attempts fun result => ?_
          cases result with
          | failed errno => exact Path.Evolves.throw _
          | frame reply => exact checkReply_attempts
  | v3 canId modeId controlSequence =>
      simp only [path, sendControlFrameV3, Path.update_bind]
      refine writeSendFrame_attempts fun result => ?_
      refine Path.Evolves.bind (Path.Evolves.update fun _ => rfl) fun _ => ?_
      cases result with
      | failed errno => exact Path.Evolves.throw _
      | written enqueueNs =>
          refine Path.Evolves.bind readFrame_attempts fun result => ?_
          cases result with
          | failed errno => exact Path.Evolves.throw _
          | frame reply => exact checkReply_attempts

/-- A call returns only if its frame has been accepted. -/
theorem ControlCall.returned_written {call : ControlCall} (returned : (call.path.run can).1 = .returned ()) :
    commandWritten can.socket.writes 0 = true := by
  obtain ⟨reply, read, _⟩ := call.returned_iff.mp returned
  unfold handshakeReply at read
  split at read
  · rename_i writes _
    simp [writes, commandWritten, WriteResult.accepted]
  · cases read

/-- The call that disables a motor. -/
def disableCall (config : JointConfig K) : ControlCall :=
  match config.seriesType with
  | .v2 => .v2 config.canId exitMotorControlModeSequence
  | .v3 => .v3 config.canId CanPacketId.setCurrent [0, 0, 0, 0]

theorem endMotorControlMode_run (found : can.jointConfigs[joint]? = some config) :
    (endMotorControlMode joint).run can = (disableCall config).path.run can := by
  simp only [endMotorControlMode, Path.read_bind, found, disableCall]
  cases config.seriesType <;> rfl

theorem disableCall_frame (config : JointConfig K) (sendFrame : CanFrame) :
    ((disableCall config).frame sendFrame).Disables config := by
  unfold disableCall CanFrame.Disables
  cases config.seriesType with
  | v2 => exact ⟨rfl, rfl⟩
  | v3 => exact ⟨rfl, rfl, rfl⟩

/-- Disabling a motor of the interface attempts its disable frame. -/
theorem endMotorControlMode_attempts (found : can.jointConfigs[joint]? = some config) :
    ∃ attempt, attempt.frame.Disables config ∧
      ((endMotorControlMode joint).run can).2.attempts = can.attempts ++ [attempt] := by
  rw [endMotorControlMode_run found, ControlCall.path_attempts]
  exact ⟨_, disableCall_frame config can.sendFrame, rfl⟩

/-- Disabling all motors, if it gets to the end, has attempted the frame of each. -/
theorem endMotorControlModeAll_attempts
    (run : endMotorControlModeAll.run can = (.returned (), after)) :
    ∃ attempted, after.attempts = can.attempts ++ attempted ∧
      ∀ config ∈ can.jointConfigs, ∃ attempt ∈ attempted, attempt.frame.Disables config := by
  obtain ⟨reached, ⟨same, attempted, log, covered⟩, finished⟩ := Path.loopBelow_returned
    (fun reached (state : CubemarsCan K) => state.jointConfigs = can.jointConfigs ∧
      ∃ attempted, state.attempts = can.attempts ++ attempted ∧
        ∀ joint config, joint < reached → can.jointConfigs[joint]? = some config →
          ∃ attempt ∈ attempted, attempt.frame.Disables config)
    (by
      intro reached before next invariant bound step
      obtain ⟨same, attempted, log, covered⟩ := invariant
      obtain ⟨attempt, disables, attempts⟩ :=
        endMotorControlMode_attempts (List.getElem?_eq_getElem bound)
      have keeps := endMotorControlMode_keeps reached can.jointConfigs before same
      rw [step] at attempts keeps
      refine ⟨keeps, attempted ++ [attempt], by rw [attempts, log, List.append_assoc],
        fun joint config below found => ?_⟩
      rcases Nat.lt_succ_iff_lt_or_eq.mp below with earlier | rfl
      · obtain ⟨own, member, disabled⟩ := covered joint config earlier found
        exact ⟨own, List.mem_append_left _ member, disabled⟩
      · rw [← same, List.getElem?_eq_getElem bound, Option.some.injEq] at found
        exact ⟨attempt, by simp, found ▸ disables⟩)
    ⟨rfl, [], by simp, fun _ _ impossible => absurd impossible (Nat.not_lt_zero _)⟩ run
  refine ⟨attempted, log, fun config member => ?_⟩
  obtain ⟨joint, bound, rfl⟩ := List.getElem_of_mem member
  refine covered joint _ ?_ (List.getElem?_eq_getElem bound)
  rw [same] at finished
  omega

end CubemarsDriver.Can

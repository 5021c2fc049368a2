import CubemarsDriver.Can.ExchangeFrame
import CubemarsDriver.Can.OriginFrames
import CubemarsDriver.Can.ReplyStatus
import CubemarsDriver.Foundation.Interleaving

namespace CubemarsDriver.Can

open Foundation

/-! # The send frame that all senders share

The cycle and the V2 control frames rely on the full length of the send frame and set only
its identifier and its data.  The V3 control frames set a shorter length and put the full
one back before they do anything that can throw. -/

variable {K : Type}

inductive CanOperation (K : Type) where
  | startMotorControlMode (joint : Nat) (setZero : Bool)
  | endMotorControlMode (joint : Nat)
  | startMotorControlModeAll (setZero : Bool)
  | endMotorControlModeAll
  | sendAndReceive (cmds : List (JointCmd K)) (states : List (JointState K))

/-- The frame is the one the call describes: its length is that of its own sequence, and its
first bytes are that sequence. -/
def ControlCall.Writes (call : ControlCall) (frame : CanFrame) : Prop :=
  match call with
  | .v2 canId controlSequence => frame = { canId, len := canMaxDlen, data := controlSequence }
  | .v3 canId modeId controlSequence =>
      frame.canId = ((canId ||| (modeId <<< 8)) &&& canEffMask) ||| canEffFlag ∧
        frame.len = controlSequence.length ∧
        frame.data.toList.take controlSequence.length = controlSequence

/-- The frames with which a joint is enabled. -/
def StartFrame (setZero : Bool) (config : JointConfig K) (frame : CanFrame) : Prop :=
  (enableCall config).Writes frame ∨ setZero = true ∧ (originCall config).Writes frame

def EndFrame (config : JointConfig K) (frame : CanFrame) : Prop := (disableCall config).Writes frame

section Model

variable [Scalar K]

def CubemarsCan.perform (can : CubemarsCan K) : CanOperation K → Outcome Exception Unit × CubemarsCan K
  | .startMotorControlMode joint setZero => (startMotorControlMode joint setZero).run can
  | .endMotorControlMode joint => (endMotorControlMode joint).run can
  | .startMotorControlModeAll setZero => (startMotorControlModeAll setZero).run can
  | .endMotorControlModeAll => endMotorControlModeAll.run can
  | .sendAndReceive cmds states =>
      let (outcome, exchange) := (sendAndReceive cmds).run { can, states }
      (outcome, exchange.can)

/-- The interface goes on after an operation that returned or threw. -/
def CubemarsCan.operate (can : CubemarsCan K) (operation : CanOperation K) :
    Option (CubemarsCan K) :=
  match can.perform operation with
  | (.undefined, _) => none
  | (_, after) => some after

/-- Every frame the operation hands to the socket is one of its own, for the joint it is for.
The frames of a cycle come in the order of the joints. -/
def CanOperation.Meant (configs : List (JointConfig K)) (attempted : List WriteAttempt) :
    CanOperation K → Prop
  | .startMotorControlMode joint setZero => ∀ attempt ∈ attempted,
      ∃ config, configs[joint]? = some config ∧ StartFrame setZero config attempt.frame
  | .endMotorControlMode joint => ∀ attempt ∈ attempted,
      ∃ config, configs[joint]? = some config ∧ EndFrame config attempt.frame
  | .startMotorControlModeAll setZero => ∀ attempt ∈ attempted,
      ∃ config ∈ configs, StartFrame setZero config attempt.frame
  | .endMotorControlModeAll => ∀ attempt ∈ attempted,
      ∃ config ∈ configs, EndFrame config attempt.frame
  | .sendAndReceive cmds _ => ∀ (index : Nat) (attempt : WriteAttempt), attempted[index]? = some attempt →
      ∃ config cmd, configs[index]? = some config ∧ cmds[index]? = some cmd ∧
        attempt.frame = commandFrame canMaxDlen config cmd

end Model

/-- The path hands only such frames to the socket, and leaves the full length behind. -/
def WritesOnly (allowed : CanFrame → Prop) (before after : CubemarsCan K) : Prop :=
  after.jointConfigs = before.jointConfigs ∧
    (before.sendFrame.len = canMaxDlen → after.sendFrame.len = canMaxDlen ∧
      ∃ attempted, after.attempts = before.attempts ++ attempted ∧
        ∀ attempt ∈ attempted, allowed attempt.frame)

instance instIsPreorderWritesOnly (allowed : CanFrame → Prop) :
    IsPreorder (CubemarsCan K) (WritesOnly allowed) where
  refl can := ⟨rfl, fun full => ⟨full, [], by simp, nofun⟩⟩
  trans before middle after first second := by
    refine ⟨second.1.trans first.1, fun full => ?_⟩
    obtain ⟨fullMiddle, early, earlyLog, earlyAllowed⟩ := first.2 full
    obtain ⟨fullAfter, late, lateLog, lateAllowed⟩ := second.2 fullMiddle
    refine ⟨fullAfter, early ++ late, ?_, ?_⟩
    · rw [lateLog, earlyLog, List.append_assoc]
    · intro attempt member
      rcases List.mem_append.mp member with member | member
      · exact earlyAllowed attempt member
      · exact lateAllowed attempt member

variable {can : CubemarsCan K} {config : JointConfig K} {allowed : CanFrame → Prop}

theorem WritesOnly.mono {wider : CanFrame → Prop} {before after : CubemarsCan K}
    (writes : WritesOnly allowed before after) (subset : ∀ frame, allowed frame → wider frame) :
    WritesOnly wider before after := by
  refine ⟨writes.1, fun full => ?_⟩
  obtain ⟨fullAfter, attempted, log, all⟩ := writes.2 full
  exact ⟨fullAfter, attempted, log, fun attempt member => subset _ (all attempt member)⟩

/-- A path that touches neither the joints, the send frame nor the frames handed over. -/
theorem writesOnly_of_silent {α : Type} {path : CanPath K α}
    (joints : Path.Preserves CubemarsCan.jointConfigs path)
    (sendFrame : Path.Preserves CubemarsCan.sendFrame path)
    (attempts : Path.Preserves CubemarsCan.attempts path) :
    Path.Evolves (WritesOnly allowed) path := by
  intro can
  have sameFrame : (path.run can).2.sendFrame = can.sendFrame := sendFrame can
  have sameAttempts : (path.run can).2.attempts = can.attempts := attempts can
  refine ⟨joints can, fun full => ⟨?_, [], ?_, nofun⟩⟩
  · rw [sameFrame, full]
  · rw [sameAttempts, List.append_nil]

theorem setReceiveTimeout_writesOnly (sec usec : Int) :
    Path.Evolves (WritesOnly allowed) (setReceiveTimeout sec usec : CanPath K Bool) :=
  writesOnly_of_silent (fun _ => rfl) (fun _ => rfl) (setReceiveTimeout_attempts sec usec)

theorem resetReceiveTimeout_writesOnly :
    Path.Evolves (WritesOnly allowed) (resetReceiveTimeout : CanPath K Unit) := by
  refine Path.Evolves.bind (Path.Evolves.read _) fun sec => ?_
  refine Path.Evolves.bind (Path.Evolves.read _) fun usec => ?_
  refine Path.Evolves.bind (setReceiveTimeout_writesOnly _ _) fun ok => ?_
  exact Path.Evolves.when fun _ => Path.Evolves.throw _

theorem full_of_preserves {path : CanPath K Unit}
    (preserves : Path.Preserves CubemarsCan.sendFrame path)
    (full : can.sendFrame.len = canMaxDlen) : (path.run can).2.sendFrame.len = canMaxDlen := by
  have same : (path.run can).2.sendFrame = can.sendFrame := preserves can
  rw [same, full]

/-- The full length is back behind every call, whether it returns or throws. -/
theorem ControlCall.path_frameLength (call : ControlCall) (full : can.sendFrame.len = canMaxDlen) :
    (call.path.run can).2.sendFrame.len = canMaxDlen := by
  have check (id canId : BitVec 32) (errCode : ErrorCode) :
      Path.Preserves CubemarsCan.sendFrame (if id ≠ canId then Path.throw (.canDeviceError canId)
        else if errCode ≠ .noFault then Path.throw (.motorError canId errCode)
        else pure () : CanPath K Unit) :=
    Path.Evolves.ite (fun _ => Path.Evolves.throw _) fun _ =>
      Path.Evolves.ite (fun _ => Path.Evolves.throw _) fun _ => Path.Evolves.pure _
  have read : Path.Preserves CubemarsCan.sendFrame (readFrame : CanPath K ReadResult) :=
    fun _ => rfl
  have written : Path.Preserves CubemarsCan.sendFrame (writeSendFrame : CanPath K WriteResult) :=
    fun _ => rfl
  cases call with
  | v2 canId controlSequence =>
      simp only [path, sendControlFrameV2, Path.update_bind]
      refine full_of_preserves (Path.Evolves.bind written fun result => ?_) full
      cases result with
      | failed errno => exact Path.Evolves.throw _
      | written enqueueNs =>
          refine Path.Evolves.bind read fun result => ?_
          cases result with
          | failed errno => exact Path.Evolves.throw _
          | frame reply => exact check _ _ _
  | v3 canId modeId controlSequence =>
      simp only [path, sendControlFrameV3, Path.update_bind, writeSendFrame_bind]
      refine full_of_preserves ?_ rfl
      split
      · exact Path.Evolves.throw _
      · refine Path.Evolves.bind read fun result => ?_
        cases result with
        | failed errno => exact Path.Evolves.throw _
        | frame reply => exact check _ _ _

theorem copySequence_take (sequence : List (BitVec 8)) (data : Payload)
    (short : sequence.length ≤ 8) :
    (copySequence sequence data).toList.take sequence.length = sequence := by
  apply List.ext_getElem?
  intro index
  by_cases within : index < sequence.length
  · have inData : index < 8 := by omega
    rw [List.getElem?_take_of_lt within]
    simp [copySequence, within, inData]
  · rw [List.getElem?_eq_none (by simp; omega), List.getElem?_eq_none (by omega)]

/-- The `static_assert` on the length of a V3 control sequence. -/
def ControlCall.Fits : ControlCall → Prop
  | v2 .. => True
  | v3 _ _ controlSequence => controlSequence.length ≤ canMaxDlen

theorem ControlCall.writes_frame {call : ControlCall} (fits : call.Fits) {sendFrame : CanFrame}
    (full : sendFrame.len = canMaxDlen) : call.Writes (call.frame sendFrame) := by
  cases call with
  | v2 canId controlSequence => simp only [Writes, frame, full]
  | v3 canId modeId controlSequence => exact ⟨rfl, rfl, copySequence_take _ _ fits⟩

theorem ControlCall.path_writesOnly {call : ControlCall} (fits : call.Fits)
    (own : ∀ frame, call.Writes frame → allowed frame) :
    Path.Evolves (WritesOnly allowed) (call.path : CanPath K Unit) := by
  intro can
  have joints : Path.Preserves CubemarsCan.jointConfigs (call.path : CanPath K Unit) :=
    call.path_evolves (fun _ _ => rfl) (fun _ => rfl) fun _ => rfl
  refine ⟨joints can, fun full => ⟨call.path_frameLength full, _, call.path_attempts, ?_⟩⟩
  intro attempt member
  obtain rfl := List.mem_singleton.mp member
  exact own _ (call.writes_frame fits full)

theorem enableCall_fits (config : JointConfig K) : (enableCall config).Fits := by
  unfold enableCall
  cases config.seriesType with
  | v2 => trivial
  | v3 => exact (by decide : (4 : Nat) ≤ canMaxDlen)

theorem originCall_fits (config : JointConfig K) : (originCall config).Fits := by
  unfold originCall
  cases config.seriesType with
  | v2 => trivial
  | v3 => exact (by decide : (1 : Nat) ≤ canMaxDlen)

theorem disableCall_fits (config : JointConfig K) : (disableCall config).Fits := by
  unfold disableCall
  cases config.seriesType with
  | v2 => trivial
  | v3 => exact (by decide : (4 : Nat) ≤ canMaxDlen)

theorem connect_writesOnly {canId : BitVec 32} (trials : Nat)
    (own : ∀ frame, (ControlCall.v3 canId CanPacketId.setCurrent [0, 0, 0, 0]).Writes frame →
      allowed frame) :
    Path.Evolves (WritesOnly allowed) (connect canId trials : CanPath K Unit) := by
  induction trials with
  | zero => exact Path.Evolves.throw _
  | succ trials ih =>
      have fits : (ControlCall.v3 canId CanPacketId.setCurrent [0, 0, 0, 0]).Fits :=
        (by decide : (4 : Nat) ≤ canMaxDlen)
      refine Path.Evolves.tryCatch (ControlCall.path_writesOnly fits own) fun exception => ?_
      cases exception with
      | canDeviceError failedId => exact ih
      | _ => exact Path.Evolves.throw _

theorem enableMotor_writesOnly (config : JointConfig K) (trials : Nat) (setZero : Bool) :
    Path.Evolves (WritesOnly (StartFrame setZero config)) (enableMotor config trials setZero) := by
  refine Path.Evolves.bind (Path.Evolves.when fun series => ?_) fun _ => ?_
  · apply connect_writesOnly
    intro frame writes
    left
    rwa [enableCall, series]
  refine Path.Evolves.bind (Path.Evolves.when fun sets => ?_) fun _ => ?_
  · rw [setZeroPosition_eq]
    refine Path.Evolves.bind (setReceiveTimeout_writesOnly _ _) fun ok => ?_
    refine Path.Evolves.bind (Path.Evolves.when fun _ => Path.Evolves.throw _) fun _ => ?_
    exact ControlCall.path_writesOnly (originCall_fits config) fun frame writes => .inr ⟨sets, writes⟩
  refine Path.Evolves.bind ?_ fun _ => Path.Evolves.when fun _ => resetReceiveTimeout_writesOnly
  exact ControlCall.path_writesOnly (enableCall_fits config) fun frame => .inl

theorem startMotorControlMode_writesOnly (joint : Nat) (setZero : Bool) (can : CubemarsCan K) :
    WritesOnly (fun frame => ∃ config, can.jointConfigs[joint]? = some config ∧
      StartFrame setZero config frame) can ((startMotorControlMode joint setZero).run can).2 := by
  cases found : can.jointConfigs[joint]? with
  | none =>
      rw [startMotorControlMode_missing found]
      exact refl_of (WritesOnly _) can
  | some config =>
      rw [startMotorControlMode_run found]
      exact (enableMotor_writesOnly config _ setZero can).mono fun frame own => ⟨config, rfl, own⟩

theorem endMotorControlMode_writesOnly (joint : Nat) (can : CubemarsCan K) :
    WritesOnly (fun frame => ∃ config, can.jointConfigs[joint]? = some config ∧
      EndFrame config frame) can ((endMotorControlMode joint).run can).2 := by
  cases found : can.jointConfigs[joint]? with
  | none =>
      simp only [endMotorControlMode, Path.read_bind, found]
      exact refl_of (WritesOnly _) can
  | some config =>
      rw [endMotorControlMode_run found]
      exact ControlCall.path_writesOnly (disableCall_fits config)
        (fun frame own => ⟨config, rfl, own⟩) can

/-- A loop over the joints writes what its rounds write. -/
theorem allMotors_writesOnly {body : Nat → CanPath K Unit} {own : JointConfig K → CanFrame → Prop}
    (step : ∀ joint can, WritesOnly (fun frame => ∃ config,
      can.jointConfigs[joint]? = some config ∧ own config frame) can ((body joint).run can).2)
    (can : CubemarsCan K) : WritesOnly (fun frame => ∃ config ∈ can.jointConfigs, own config frame)
      can ((Path.loopBelow (fun can => can.jointConfigs.length) body).run can).2 := by
  have looped : Path.Confines (WritesOnly (fun frame => ∃ config ∈ can.jointConfigs,
      own config frame) can) (fun _ => True)
      (Path.loopBelow (fun can => can.jointConfigs.length) body) (fun _ _ => True)
      fun _ => True := by
    refine Path.Confines.loopBelow fun joint => Path.Confines.of_related (step joint) ?_
      fun _ _ _ => id
    intro before after writes reached
    apply trans_of (WritesOnly _) reached
    refine writes.mono ?_
    rintro frame ⟨config, found, mine⟩
    rw [reached.1] at found
    exact ⟨config, List.mem_of_getElem? found, mine⟩
  exact looped.always_after (refl_of (WritesOnly _) can) trivial

section Exchange

variable [Scalar K] {cmds : List (JointCmd K)} {start exchange : Exchange K} {index : Nat}

omit [Scalar K] in
theorem handOver_attempts (index : Nat) (exchange : Exchange K) :
    let after := ((writeFrame >>= recordWrite index).run exchange).2
    after.can.sendFrame = exchange.can.sendFrame ∧
      ∃ accepted, after.can.socket.attempts =
        exchange.can.socket.attempts ++ [⟨exchange.can.sendFrame, accepted⟩] := by
  rw [writeFrame_bind]
  have recorded := recordWrite_silent index (exchange.can.socket.write exchange.can.sendFrame).1
    { exchange with can := { exchange.can with
      socket := (exchange.can.socket.write exchange.can.sendFrame).2 } }
  have handed := (write_socket exchange.can.socket exchange.can.sendFrame).2.2
  exact ⟨recorded.sendFrame, _, recorded.attempts.trans handed⟩

/-- One round of the write loop hands over the frame of its joint, or nothing and does not
return. -/
theorem writeCommand_attempts (cmds : List (JointCmd K)) (index : Nat) (exchange : Exchange K) :
    let result := (writeCommand cmds index).run exchange
    result.2.can.sendFrame.len = exchange.can.sendFrame.len ∧
      (result.1 ≠ .returned () ∧
          result.2.can.socket.attempts = exchange.can.socket.attempts ∨
        ∃ config cmd accepted, exchange.can.jointConfigs[index]? = some config ∧
          cmds[index]? = some cmd ∧ result.2.can.socket.attempts = exchange.can.socket.attempts ++
            [⟨commandFrame exchange.can.sendFrame.len config cmd, accepted⟩]) := by
  simp only [writeCommand_eq, Path.element_bind]
  cases configFound : exchange.can.jointConfigs[index]? with
  | none => exact ⟨rfl, .inl ⟨by simp, rfl⟩⟩
  | some config =>
      simp only
      cases cmdFound : cmds[index]? with
      | none => exact ⟨rfl, .inl ⟨by simp, rfl⟩⟩
      | some cmd =>
          simp only [Path.update_bind, Path.updateDefined_bind]
          split
          next prepared updated =>
            have silent := (updateState_silent index _).of_run (Path.updateDefined_some updated)
            have frame : prepared.can.sendFrame =
                commandFrame exchange.can.sendFrame.len config cmd := silent.sendFrame
            have attempts : prepared.can.socket.attempts = exchange.can.socket.attempts :=
              silent.attempts
            obtain ⟨same, accepted, handed⟩ := handOver_attempts index prepared
            rw [frame, attempts] at handed
            constructor
            · rw [same, frame]
              rfl
            · exact .inr ⟨config, cmd, accepted, rfl, rfl, handed⟩
          next => exact ⟨rfl, .inl ⟨by simp, rfl⟩⟩

/-- The frames handed over since the start are those of the first joints' commands. -/
def CommandsOf (cmds : List (JointCmd K)) (start exchange : Exchange K) : Prop :=
  exchange.can.jointConfigs = start.can.jointConfigs ∧
    exchange.can.sendFrame.len = canMaxDlen ∧
    ∃ attempted, exchange.can.socket.attempts = start.can.socket.attempts ++ attempted ∧
      ∀ (index : Nat) (attempt : WriteAttempt), attempted[index]? = some attempt →
        ∃ config cmd, start.can.jointConfigs[index]? = some config ∧ cmds[index]? = some cmd ∧
          attempt.frame = commandFrame canMaxDlen config cmd

theorem CommandsOf.silent {after : Exchange K} (commands : CommandsOf cmds start exchange)
    (silent : exchange.Silent after) : CommandsOf cmds start after := by
  obtain ⟨joints, full, attempted, log, own⟩ := commands
  refine ⟨silent.jointConfigs.trans joints, ?_, attempted, silent.attempts.trans log, own⟩
  rw [silent.sendFrame, full]

/-- One round adds the frame of its joint behind those of the joints before it. -/
theorem writeCommand_commands (index : Nat) :
    Path.Confines (CommandsOf cmds start)
      (fun exchange => exchange.can.jointConfigs = start.can.jointConfigs ∧
        exchange.can.socket.attempts.length = start.can.socket.attempts.length + index)
      (writeCommand cmds index)
      (fun _ exchange => exchange.can.jointConfigs = start.can.jointConfigs ∧
        exchange.can.socket.attempts.length = start.can.socket.attempts.length + (index + 1))
      fun _ => True := by
  intro exchange commands counted
  obtain ⟨joints, full, attempted, log, own⟩ := commands
  have kept := (writeCommand_frames cmds index exchange).jointConfigs.trans joints
  have handed := writeCommand_attempts cmds index exchange
  have size : attempted.length = index := by
    have total := counted.2
    rw [log, List.length_append] at total
    omega
  cases run : (writeCommand cmds index).run exchange with
  | mk outcome after =>
      simp only [run, full, joints] at kept handed
      obtain ⟨length, ⟨unfinished, attempts⟩ | ⟨config, cmd, accepted, configFound, cmdFound, attempts⟩⟩ :=
        handed
      · refine ⟨⟨kept, length, attempted, attempts.trans log, own⟩, ?_⟩
        cases outcome with
        | returned value => exact absurd rfl unfinished
        | thrown exception => trivial
        | undefined => trivial
      · have logAfter : after.can.socket.attempts = start.can.socket.attempts ++
            (attempted ++ [⟨commandFrame canMaxDlen config cmd, accepted⟩]) := by
          rw [attempts, log, List.append_assoc]
        refine ⟨⟨kept, length, _, logAfter, ?_⟩, ?_⟩
        · intro position attempt found
          by_cases earlier : position < attempted.length
          · rw [List.getElem?_append_left earlier] at found
            exact own position attempt found
          · rw [List.getElem?_append_right (Nat.not_lt.mp earlier), List.getElem?_singleton] at found
            split at found
            next first =>
              obtain rfl := Option.some.inj found
              have here : position = index := by omega
              rw [here]
              exact ⟨config, cmd, configFound, cmdFound, rfl⟩
            next => cases found
        · have lengthAfter : after.can.socket.attempts.length =
              start.can.socket.attempts.length + (index + 1) := by
            rw [logAfter]
            simp [size]
          cases outcome with
          | returned value => exact ⟨kept, lengthAfter⟩
          | thrown exception => trivial
          | undefined => trivial

/-- However the call ends, it has handed over the frames of the first joints' commands. -/
theorem sendAndReceive_commands (cmds : List (JointCmd K)) (start : Exchange K)
    (full : start.can.sendFrame.len = canMaxDlen) :
    CommandsOf cmds start ((sendAndReceive cmds).run start).2 := by
  have silent {α : Type} {path : ExchangePath K α} (quiet : Path.Evolves Exchange.Silent path) :
      Path.Confines (CommandsOf cmds start)
        (fun exchange => exchange.can.jointConfigs = start.can.jointConfigs ∧
          exchange.can.socket.attempts.length = start.can.socket.attempts.length)
        path (fun _ exchange => exchange.can.jointConfigs = start.can.jointConfigs ∧
          exchange.can.socket.attempts.length = start.can.socket.attempts.length)
        fun _ => True := by
    refine (Path.Confines.of_related quiet (fun _ _ related commands => commands.silent related)
      ?_).consequence (fun _ => id) (fun _ _ => id) fun _ _ => trivial
    intro before after related counted
    rwa [related.jointConfigs, related.attempts]
  have later {path : ExchangePath K Unit} (quiet : Path.Evolves Exchange.Silent path) :
      Path.Confines (CommandsOf cmds start) (fun _ => True) path (fun _ _ => True) fun _ => True :=
    Path.Confines.of_related quiet (fun _ _ related commands => commands.silent related)
      fun _ _ _ => id
  have writes : Path.Confines (CommandsOf cmds start)
      (fun exchange => exchange.can.jointConfigs = start.can.jointConfigs ∧
        exchange.can.socket.attempts.length = start.can.socket.attempts.length)
      (Path.loopBelow numJoints (writeCommand cmds)) (fun _ _ => True) fun _ => True :=
    (Path.Confines.loopCount start.can.jointConfigs.length
      (fun index (exchange : Exchange K) => exchange.can.jointConfigs = start.can.jointConfigs ∧
        exchange.can.socket.attempts.length = start.can.socket.attempts.length + index)
      (fun _ exchange counted => congrArg List.length counted.1)
      writeCommand_commands).weaken_post fun _ _ _ => trivial
  have whole : Path.Confines (CommandsOf cmds start)
      (fun exchange => exchange.can.jointConfigs = start.can.jointConfigs ∧
        exchange.can.socket.attempts.length = start.can.socket.attempts.length)
      (sendAndReceive cmds) (fun _ _ => True) fun _ => True := by
    rw [sendAndReceive_eq]
    refine Path.Confines.bind (silent (checkSizes_silent cmds)) fun _ => ?_
    refine Path.Confines.bind (silent clockGettime_silent) fun _ => ?_
    exact Path.Confines.bind writes fun _ => later (receivePhase_silent _)
  exact whole.always_after ⟨rfl, full, [], by simp, by simp⟩ ⟨rfl, rfl⟩

theorem perform_writes (can : CubemarsCan K) (full : can.sendFrame.len = canMaxDlen)
    (operation : CanOperation K) :
    let after := (can.perform operation).2
    after.jointConfigs = can.jointConfigs ∧ after.sendFrame.len = canMaxDlen ∧
      ∃ attempted, after.attempts = can.attempts ++ attempted ∧
        operation.Meant can.jointConfigs attempted := by
  cases operation with
  | startMotorControlMode joint setZero =>
      obtain ⟨joints, writes⟩ := startMotorControlMode_writesOnly joint setZero can
      exact ⟨joints, writes full⟩
  | endMotorControlMode joint =>
      obtain ⟨joints, writes⟩ := endMotorControlMode_writesOnly joint can
      exact ⟨joints, writes full⟩
  | startMotorControlModeAll setZero =>
      obtain ⟨joints, writes⟩ := allMotors_writesOnly
        (fun joint can => startMotorControlMode_writesOnly joint setZero can) can
      exact ⟨joints, writes full⟩
  | endMotorControlModeAll =>
      obtain ⟨joints, writes⟩ := allMotors_writesOnly endMotorControlMode_writesOnly can
      exact ⟨joints, writes full⟩
  | sendAndReceive cmds states =>
      obtain ⟨joints, length, attempted, log, own⟩ :=
        sendAndReceive_commands cmds { can, states } full
      exact ⟨joints, length, attempted, log, own⟩

/-- What holds between any two operations: the send frame has its full length. -/
def CubemarsCan.Ready (jointConfigs : List (JointConfig K)) (can : CubemarsCan K) : Prop :=
  can.jointConfigs = jointConfigs ∧ can.sendFrame.len = canMaxDlen

theorem operate_keeps {jointConfigs : List (JointConfig K)} (can : CubemarsCan K)
    (operation : CanOperation K) (next : CubemarsCan K) (invariant : can.Ready jointConfigs)
    (_ : True) (taken : can.operate operation = some next) : next.Ready jointConfigs := by
  obtain ⟨joints, full, _⟩ := perform_writes can invariant.2 operation
  have same : (can.perform operation).2 = next := by
    unfold CubemarsCan.operate at taken
    split at taken
    · cases taken
    next performed =>
      rw [performed]
      exact Option.some.inj taken
  rw [same] at joints full
  exact ⟨joints.trans invariant.1, full⟩

/-- Whatever an interface has been used for, and whichever of its calls threw, every frame of
the next operation has the length, the identifier and the payload it is meant to have. -/
theorem frames_as_meant {canInterface : String} {enableLoopback : Bool}
    {jointConfigs : List (JointConfig K)} {timeoutSec timeoutUsec : Int} {trials : Nat}
    {enableTxTimestamping enableCanErrorFrames : Bool} {setup : SetupStep → Bool} {socket : Socket}
    {created can : CubemarsCan K} {operations : List (CanOperation K)}
    (construction : CubemarsCan.create canInterface enableLoopback jointConfigs timeoutSec
      timeoutUsec trials enableTxTimestamping enableCanErrorFrames setup socket = .ok created)
    (run : runSteps CubemarsCan.operate created operations = some can)
    (operation : CanOperation K) :
    ∃ attempted, (can.perform operation).2.attempts = can.attempts ++ attempted ∧
      operation.Meant jointConfigs attempted := by
  have initial : created.Ready jointConfigs := by
    unfold CubemarsCan.create at construction
    split at construction
    · obtain rfl := Except.ok.inj construction
      exact ⟨rfl, rfl⟩
    · cases construction
  have reached : can.Ready jointConfigs :=
    invariant_of_run operate_keeps initial everyStep_true run
  obtain ⟨_, _, attempted, log, meant⟩ := perform_writes can reached.2 operation
  rw [reached.1] at meant
  exact ⟨attempted, log, meant⟩

end Exchange

section Example

def v3Motor : JointConfig ℚ := { ak80 9 with seriesType := .v3 }

def createdCan : CubemarsCan ℚ where
  canInterface := "can0"
  enableLoopback := false
  enableTxTimestamping := false
  enableCanErrorFrames := false
  jointConfigs := [v3Motor]
  socketTimeoutSec := 0
  socketTimeoutUsec := 1000
  maxInitialConnectionTrials := 1
  sendOk := [false]
  recvOk := [false]
  sendOkSized := (exampleCan 9 {}).sendOkSized
  recvOkSized := (exampleCan 9 {}).recvOkSized
  sendFrame := { canId := 0, len := 8, data := Vector.replicate 8 0 }
  socket := { filters := [jointFilter v3Motor], receiveTimeout := (0, 1000) }

def unansweredCan : CubemarsCan ℚ := (createdCan.perform (.startMotorControlMode 0 true)).2

theorem frames_as_meant_unanswered :
    ∃ attempted, (unansweredCan.perform (.sendAndReceive [zeroCmd] [freshState])).2.attempts =
        unansweredCan.attempts ++ attempted ∧
      (CanOperation.sendAndReceive [zeroCmd] [freshState]).Meant [v3Motor] attempted :=
  frames_as_meant (show CubemarsCan.create "can0" false [v3Motor] 0 1000 1 false false
      (fun _ => true) {} = .ok createdCan from rfl)
    (show runSteps CubemarsCan.operate createdCan [.startMotorControlMode 0 true] =
      some unansweredCan from rfl) _

end Example

end CubemarsDriver.Can

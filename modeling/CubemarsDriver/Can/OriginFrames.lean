import CubemarsDriver.Can.Disabling
import CubemarsDriver.Foundation.Confines

namespace CubemarsDriver.Can

open Foundation

/-! # The frames that set an origin

Enabling a motor writes such a frame only where it is asked to, and then once at most. -/

variable {K : Type} {can after : CubemarsCan K} {config : JointConfig K} {joint : Nat}
variable {setZero : Bool}

/-- A frame that tells a motor to take its position for zero. -/
def CanFrame.SetsOrigin (frame : CanFrame) : Prop :=
  frame.data = setZeroPositionSequence ∨
    frame.canId &&& canEffFlag ≠ 0 ∧ frame.len = 1 ∧ frame.data.get 0 = 1

instance instDecidableSetsOrigin (frame : CanFrame) : Decidable frame.SetsOrigin :=
  inferInstanceAs (Decidable (_ ∨ _))

/-- The frame that tells this motor to. -/
def CanFrame.SetsOriginOf (frame : CanFrame) (config : JointConfig K) : Prop :=
  match config.seriesType with
  | .v2 => frame.canId = config.canId ∧ frame.data = setZeroPositionSequence
  | .v3 => frame.canId =
        ((config.canId ||| (CanPacketId.setOriginHere <<< 8)) &&& canEffMask) ||| canEffFlag ∧
      frame.len = 1 ∧ frame.data.get 0 = 1

/-- The frame that enables this motor. -/
def CanFrame.Enables (frame : CanFrame) (config : JointConfig K) : Prop :=
  match config.seriesType with
  | .v2 => frame.canId = config.canId ∧ frame.data = startMotorControlModeSequence
  | .v3 => frame.Disables config

/-- The origins that frames handed to a socket set, in order. -/
def origins (attempts : List WriteAttempt) : List CanFrame :=
  (attempts.map WriteAttempt.frame).filter (·.SetsOrigin)

theorem origins_append (attempts more : List WriteAttempt) :
    origins (attempts ++ more) = origins attempts ++ origins more := by
  rw [origins, List.map_append, List.filter_append, origins, origins]

theorem origins_singleton (attempt : WriteAttempt) :
    origins [attempt] = if attempt.frame.SetsOrigin then [attempt.frame] else [] := by
  by_cases sets : attempt.frame.SetsOrigin <;> simp [origins, sets]

theorem copySequence_first (first : BitVec 8) (rest : List (BitVec 8)) (data : Payload) :
    (copySequence (first :: rest) data).get 0 = first := by
  show (copySequence (first :: rest) data)[0] = first
  simp [copySequence]

theorem extended_ne_zero (canId : BitVec 32) : (canId ||| canEffFlag) &&& canEffFlag ≠ 0 := by
  intro none
  have flag := congrArg (fun bits : BitVec 32 => bits.getLsbD 31) none
  simp [canEffFlag] at flag

theorem CanFrame.SetsOriginOf.setsOrigin {frame : CanFrame} (sets : frame.SetsOriginOf config) :
    frame.SetsOrigin := by
  unfold SetsOriginOf at sets
  cases series : config.seriesType with
  | v2 =>
      simp only [series] at sets
      exact .inl sets.2
  | v3 =>
      simp only [series] at sets
      exact .inr ⟨by rw [sets.1]; exact extended_ne_zero _, sets.2⟩

theorem originCall_frame (config : JointConfig K) (sendFrame : CanFrame) :
    ((originCall config).frame sendFrame).SetsOriginOf config := by
  unfold originCall CanFrame.SetsOriginOf
  cases config.seriesType with
  | v2 => exact ⟨rfl, rfl⟩
  | v3 => exact ⟨rfl, rfl, copySequence_first 1 [] _⟩

theorem enableCall_frame (config : JointConfig K) (sendFrame : CanFrame) :
    ((enableCall config).frame sendFrame).Enables config := by
  unfold enableCall CanFrame.Enables
  cases series : config.seriesType with
  | v2 => exact ⟨rfl, rfl⟩
  | v3 =>
      have disables := disableCall_frame config sendFrame
      rwa [disableCall, series] at disables

/-- No frame of the call sets an origin. -/
def ControlCall.Plain (call : ControlCall) : Prop := ∀ sendFrame, ¬ (call.frame sendFrame).SetsOrigin

theorem zeroCurrent_plain (canId modeId : BitVec 32) : (ControlCall.v3 canId modeId [0, 0, 0, 0]).Plain := by
  rintro sendFrame (same | ⟨_, length, _⟩)
  · have first := congrArg (fun data : Payload => data.get 0) same
    simp only [ControlCall.frame, copySequence_first] at first
    exact absurd first (by decide)
  · exact absurd length (by decide : (4 : Nat) ≠ 1)

theorem sequence_plain {canId : BitVec 32} {sequence : Payload} (other : sequence ≠ setZeroPositionSequence)
    (first : sequence.get 0 ≠ 1) : (ControlCall.v2 canId sequence).Plain := by
  rintro sendFrame (same | ⟨_, _, one⟩)
  · exact other same
  · exact first one

theorem disableCall_plain (config : JointConfig K) : (disableCall config).Plain := by
  unfold disableCall
  cases config.seriesType with
  | v2 => exact sequence_plain (by decide) (by decide)
  | v3 => exact zeroCurrent_plain _ _

theorem enableCall_plain (config : JointConfig K) : (enableCall config).Plain := by
  unfold enableCall
  cases config.seriesType with
  | v2 => exact sequence_plain (by decide) (by decide)
  | v3 => exact zeroCurrent_plain _ _

/-- The path has attempted frames, none of which sets an origin. -/
def OriginFree (before after : CubemarsCan K) : Prop :=
  ∃ attempted, after.attempts = before.attempts ++ attempted ∧ origins attempted = []

instance instIsPreorderOriginFree : IsPreorder (CubemarsCan K) OriginFree where
  refl can := ⟨[], by simp, rfl⟩
  trans before middle after first second := by
    obtain ⟨attempted, log, free⟩ := first
    obtain ⟨more, logAfter, freeAfter⟩ := second
    exact ⟨attempted ++ more, by rw [logAfter, log, List.append_assoc],
      by rw [origins_append, free, freeAfter, List.append_nil]⟩

theorem originFree_of_attempts {α : Type} {path : CanPath K α}
    (same : Path.Preserves CubemarsCan.attempts path) : Path.Evolves OriginFree path := by
  refine same.weaken fun before after kept => ⟨[], ?_, rfl⟩
  rw [List.append_nil]
  exact kept

theorem ControlCall.Plain.path_originFree {call : ControlCall} (plain : call.Plain) :
    Path.Evolves OriginFree (call.path : CanPath K Unit) := by
  intro can
  refine ⟨_, call.path_attempts, ?_⟩
  rw [origins_singleton, if_neg (plain _)]

theorem setReceiveTimeout_attempts (sec usec : Int) :
    Path.Preserves CubemarsCan.attempts (setReceiveTimeout sec usec : CanPath K Bool) := by
  intro can
  have same : (can.socket.setReceiveTimeout sec usec).2.attempts = can.socket.attempts := by
    unfold Socket.setReceiveTimeout
    split <;> rfl
  exact same

theorem resetReceiveTimeout_attempts :
    Path.Preserves CubemarsCan.attempts (resetReceiveTimeout : CanPath K Unit) := by
  refine Path.Evolves.bind (Path.Evolves.read _) fun sec => ?_
  refine Path.Evolves.bind (Path.Evolves.read _) fun usec => ?_
  refine Path.Evolves.bind (setReceiveTimeout_attempts _ _) fun ok => ?_
  exact Path.Evolves.when fun _ => Path.Evolves.throw _

theorem connect_originFree (canId : BitVec 32) (trials : Nat) :
    Path.Evolves OriginFree (connect canId trials : CanPath K Unit) := by
  induction trials with
  | zero => exact Path.Evolves.throw _
  | succ trials ih =>
      refine Path.Evolves.tryCatch (zeroCurrent_plain canId _).path_originFree fun exception => ?_
      cases exception with
      | canDeviceError failedId => exact ih
      | _ => exact Path.Evolves.throw _

theorem endMotorControlMode_originFree (joint : Nat) :
    Path.Evolves OriginFree (endMotorControlMode joint : CanPath K Unit) := by
  intro can
  cases found : can.jointConfigs[joint]? with
  | none =>
      simp only [endMotorControlMode, Path.read_bind, found]
      exact refl_of OriginFree can
  | some config =>
      rw [endMotorControlMode_run found]
      exact (disableCall_plain config).path_originFree can

theorem endMotorControlModeAll_originFree :
    Path.Evolves OriginFree (endMotorControlModeAll : CanPath K Unit) :=
  Path.Evolves.loopBelow endMotorControlMode_originFree

theorem startMotorControlMode_missing (missing : can.jointConfigs[joint]? = none) :
    (startMotorControlMode joint setZero).run can = (.thrown .rangeError, can) := by
  simp only [startMotorControlMode, Path.read_bind, missing]
  rfl

theorem startMotorControlMode_originFree (joint : Nat) :
    Path.Evolves OriginFree (startMotorControlMode joint false : CanPath K Unit) := by
  intro can
  cases found : can.jointConfigs[joint]? with
  | none =>
      rw [startMotorControlMode_missing found]
      exact refl_of OriginFree can
  | some config =>
      rw [startMotorControlMode_run found]
      have enables : Path.Evolves OriginFree (enableMotor config can.maxInitialConnectionTrials false) := by
        refine Path.Evolves.bind (Path.Evolves.when fun _ => connect_originFree _ _) fun _ => ?_
        refine Path.Evolves.bind (Path.Evolves.when fun sets => Bool.noConfusion sets) fun _ => ?_
        refine Path.Evolves.bind (enableCall_plain config).path_originFree fun _ => ?_
        exact Path.Evolves.when fun sets => Bool.noConfusion sets
      exact enables can

/-- The path has attempted at most one frame that sets an origin, which is that of the motor. -/
def SetsOnce (config : JointConfig K) (before after : CubemarsCan K) : Prop :=
  ∃ attempted, after.attempts = before.attempts ++ attempted ∧
    (origins attempted = [] ∨ ∃ frame, origins attempted = [frame] ∧ frame.SetsOriginOf config)

theorem OriginFree.setsOnce (free : OriginFree can after) : SetsOnce config can after := by
  obtain ⟨attempted, log, none⟩ := free
  exact ⟨attempted, log, .inl none⟩

theorem SetsOnce.later {before : CubemarsCan K} (once : SetsOnce config before can)
    (free : OriginFree can after) : SetsOnce config before after := by
  obtain ⟨attempted, log, sets⟩ := once
  obtain ⟨more, logAfter, none⟩ := free
  refine ⟨attempted ++ more, by rw [logAfter, log, List.append_assoc], ?_⟩
  rwa [origins_append, none, List.append_nil]

/-- Before the call that sets the origin no frame has set one, behind it none does. -/
theorem enableMotor_setsOnce (config : JointConfig K) (trials : Nat) (setZero : Bool) :
    SetsOnce config can ((enableMotor config trials setZero).run can).2 := by
  have free {α : Type} {path : CanPath K α} (evolves : Path.Evolves OriginFree path) :
      Path.Confines (SetsOnce config can) (OriginFree can) path (fun _ => OriginFree can)
        fun _ => True :=
    (Path.Confines.of_related evolves (fun _ _ related once => once.later related)
      fun _ _ related free => trans_of OriginFree free related).consequence
      (fun _ => id) (fun _ _ => id) fun _ _ => trivial
  have later {path : CanPath K Unit} (evolves : Path.Evolves OriginFree path) :
      Path.Confines (SetsOnce config can) (fun _ => True) path (fun _ _ => True) fun _ => True :=
    Path.Confines.of_related evolves (fun _ _ related once => once.later related) fun _ _ _ => id
  have sets : Path.Confines (SetsOnce config can) (OriginFree can) (originCall config).path
      (fun _ _ => True) fun _ => True := by
    refine (Path.Confines.of_run (fun state _ free => ?_) fun _ _ _ _ _ _ => trivial).consequence
      (fun _ => id) (fun _ _ _ => trivial) fun _ => id
    obtain ⟨attempted, log, none⟩ := free
    refine ⟨attempted ++ [_], by rw [ControlCall.path_attempts, log, List.append_assoc], .inr ?_⟩
    have own := originCall_frame config state.sendFrame
    refine ⟨_, ?_, own⟩
    rw [origins_append, none, List.nil_append, origins_singleton, if_pos own.setsOrigin]
  have enabling : Path.Confines (SetsOnce config can) (OriginFree can)
      (enableMotor config trials setZero) (fun _ _ => True) fun _ => True := by
    refine Path.Confines.bind (free (Path.Evolves.when fun _ => connect_originFree _ _)) fun _ => ?_
    refine Path.Confines.bind (?_ : Path.Confines _ _ _ (fun _ _ => True) _) fun _ =>
      Path.Confines.bind (later (enableCall_plain config).path_originFree) fun _ =>
        later (Path.Evolves.when fun _ => originFree_of_attempts resetReceiveTimeout_attempts)
    refine Path.Confines.ite (fun _ => ?_) fun _ _ kept _ => ⟨kept, trivial⟩
    rw [setZeroPosition_eq]
    refine Path.Confines.bind (free (originFree_of_attempts (setReceiveTimeout_attempts _ _))) fun ok => ?_
    exact Path.Confines.bind (free (Path.Evolves.when fun _ => Path.Evolves.throw _)) fun _ => sets
  exact enabling.always_after (refl_of OriginFree can).setsOnce (refl_of OriginFree can)

theorem startMotorControlMode_setsOnce (found : can.jointConfigs[joint]? = some config) :
    SetsOnce config can ((startMotorControlMode joint setZero).run can).2 := by
  rw [startMotorControlMode_run found]
  exact enableMotor_setsOnce config _ setZero

/-- The path has handed frames to the socket. -/
def Sends (before after : CubemarsCan K) : Prop := before.attempts <+: after.attempts

instance instIsPreorderSends : IsPreorder (CubemarsCan K) Sends where
  refl can := List.prefix_refl can.attempts
  trans _ _ _ first second := first.trans second

theorem OriginFree.sends (free : OriginFree can after) : Sends can after := by
  obtain ⟨attempted, log, _⟩ := free
  exact ⟨attempted, log.symm⟩

theorem ControlCall.path_sends (call : ControlCall) : Path.Evolves Sends (call.path : CanPath K Unit) :=
  fun _ => ⟨_, call.path_attempts.symm⟩

/-- A motor that has been disabled was sent its frame. -/
theorem endMotorControlMode_returned
    (run : (endMotorControlMode joint).run can = (.returned (), after)) : ∃ config frame,
      can.jointConfigs[joint]? = some config ∧ after.attempts = can.attempts ++ [⟨frame, true⟩] ∧
      frame.Disables config := by
  cases found : can.jointConfigs[joint]? with
  | none =>
      simp only [endMotorControlMode, Path.read_bind, found] at run
      cases run
  | some config =>
      rw [endMotorControlMode_run found] at run
      have attempted : ((disableCall config).path.run can).2.attempts = _ :=
        ControlCall.path_attempts _
      rw [ControlCall.returned_written (congrArg Prod.fst run), run] at attempted
      exact ⟨config, _, rfl, attempted, disableCall_frame config can.sendFrame⟩

/-- A motor that has been enabled was sent its frame. -/
theorem enableMotor_returned {trials : Nat}
    (run : (enableMotor config trials setZero).run can = (.returned (), after)) :
    ∃ attempted frame, after.attempts = can.attempts ++ attempted ++ [⟨frame, true⟩] ∧
      frame.Enables config := by
  simp only [enableMotor, enableResponding, Path.bind_run_returned] at run
  obtain ⟨_, connected, connection, _, zeroed, zeroing, _, enabled, enabling, reset⟩ := run
  have connects : Sends can connected :=
    OriginFree.sends ((Path.Evolves.when fun _ => connect_originFree _ _).of_run connection)
  have zeroes : Path.Evolves Sends (setZeroPosition config) := by
    rw [setZeroPosition_eq]
    exact Path.Evolves.bind ((originFree_of_attempts
      (setReceiveTimeout_attempts _ _)).weaken fun _ _ => OriginFree.sends) fun _ =>
        Path.Evolves.bind (Path.Evolves.when fun _ => Path.Evolves.throw _) fun _ =>
          ControlCall.path_sends _
  obtain ⟨earlier, log⟩ : Sends can zeroed := trans_of Sends connects
    ((Path.Evolves.when fun _ => zeroes).of_run zeroing)
  have attempted : ((enableCall config).path.run zeroed).2.attempts = _ := ControlCall.path_attempts _
  rw [ControlCall.returned_written (congrArg Prod.fst enabling), enabling] at attempted
  have resets : after.attempts = enabled.attempts := by
    have same : Path.Preserves CubemarsCan.attempts (Path.when (setZero = true)
        (resetReceiveTimeout : CanPath K Unit)) :=
      Path.Evolves.when fun _ => resetReceiveTimeout_attempts
    exact same.of_run reset
  exact ⟨earlier, _, by rw [resets, attempted, log], enableCall_frame config zeroed.sendFrame⟩

theorem startMotorControlMode_returned
    (run : (startMotorControlMode joint setZero).run can = (.returned (), after)) :
    ∃ config attempted frame, can.jointConfigs[joint]? = some config ∧
      after.attempts = can.attempts ++ attempted ++ [⟨frame, true⟩] ∧ frame.Enables config := by
  cases found : can.jointConfigs[joint]? with
  | none =>
      rw [startMotorControlMode_missing found] at run
      cases run
  | some config =>
      rw [startMotorControlMode_run found] at run
      obtain ⟨attempted, frame, attempts, enables⟩ := enableMotor_returned run
      exact ⟨config, attempted, frame, rfl, attempts, enables⟩

end CubemarsDriver.Can

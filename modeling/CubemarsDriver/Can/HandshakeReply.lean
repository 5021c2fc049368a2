import CubemarsDriver.Can.Handshake
import CubemarsDriver.Foundation.Relations

namespace CubemarsDriver.Can

open Foundation

/-! # What a control handshake takes for a reply

The cycle skips error frames and looks at the kind of a frame before it looks at
the motor's id.  A handshake looks at one byte and the error byte only: neither
at the kind of the frame, nor at its length, nor at the identifier of a V2 reply. -/

variable {K : Type} {can after : CubemarsCan K} {reply : Reply}

def canRtrFlag : BitVec 32 := 0x40000000

/-- A call of `send_control_frameV2` or `send_control_frameV3`. -/
inductive ControlCall where
  | v2 (canId : BitVec 32) (controlSequence : Payload)
  | v3 (canId modeId : BitVec 32) (controlSequence : List (BitVec 8))
deriving DecidableEq

namespace ControlCall

def path : ControlCall → CanPath K Unit
  | v2 canId controlSequence => sendControlFrameV2 canId controlSequence
  | v3 canId modeId controlSequence => sendControlFrameV3 canId modeId controlSequence

def canId : ControlCall → BitVec 32
  | v2 canId _ => canId
  | v3 canId _ _ => canId

/-- The id the call compares with the motor's. -/
def checkedId (call : ControlCall) (frame : CanFrame) : BitVec 32 :=
  match call with
  | v2 .. => frame.data.motorId.setWidth 32
  | v3 .. => frame.canId &&& 0xFF

/-- A data frame of eight bytes as the motors of the series answer with: with the
own identifier or 0 a V2 motor, with the packet id of a response a V3 motor. -/
def ReplyKind (call : ControlCall) (frame : CanFrame) : Prop :=
  frame.canId &&& canErrFlag = 0 ∧ frame.canId &&& canRtrFlag = 0 ∧ frame.len = 8 ∧
    match call with
    | v2 canId _ => frame.canId &&& canEffFlag = 0 ∧
        (frame.canId &&& canSffMask = canId ∨ frame.canId &&& canSffMask = 0)
    | v3 .. => frame.canId &&& canEffFlag ≠ 0 ∧
        (frame.canId &&& canEffMask) >>> 8 = CanPacketId.response

instance (call : ControlCall) (frame : CanFrame) : Decidable (call.ReplyKind frame) := by
  cases call <;> exact inferInstanceAs (Decidable (_ ∧ _ ∧ _ ∧ _))

/-- The id of the motor and no fault. -/
def Matches (call : ControlCall) (frame : CanFrame) : Prop :=
  call.checkedId frame = call.canId ∧ ErrorCode.ofByte frame.data.errorByte = .noFault

instance (call : ControlCall) (frame : CanFrame) : Decidable (call.Matches frame) :=
  inferInstanceAs (Decidable (_ ∧ _))

/-- A reply of the addressed motor that reports no fault. -/
def Genuine (call : ControlCall) (frame : CanFrame) : Prop :=
  call.ReplyKind frame ∧ call.Matches frame

/-- No reply of the motor, but with its id in the compared byte and no fault. -/
def Impostor (call : ControlCall) (frame : CanFrame) : Prop :=
  ¬ call.ReplyKind frame ∧ call.Matches frame

instance (call : ControlCall) (frame : CanFrame) : Decidable (call.Genuine frame) :=
  inferInstanceAs (Decidable (_ ∧ _))

instance (call : ControlCall) (frame : CanFrame) : Decidable (call.Impostor frame) :=
  inferInstanceAs (Decidable (_ ∧ _))

end ControlCall

/-- The frame a handshake reads, if its own frame is written. -/
def handshakeReply (socket : Socket) : Option Reply :=
  match socket.writes, socket.reads with
  | .written _ :: _, .frame reply :: _ => some reply
  | _, _ => none

theorem writeSendFrame_bind {α : Type} (next : WriteResult → CanPath K α) :
    (writeSendFrame >>= next).run can = (next (can.socket.write can.sendFrame).1).run
      { can with socket := (can.socket.write can.sendFrame).2 } := rfl

theorem readFrame_bind {α : Type} (next : ReadResult → CanPath K α) :
    (readFrame >>= next).run can = (next can.socket.read.1).run
      { can with socket := can.socket.read.2 } := rfl

theorem check_returned {id canId : BitVec 32} {errCode : ErrorCode} :
    ((if id ≠ canId then Path.throw (.canDeviceError canId)
      else if errCode ≠ .noFault then Path.throw (.motorError canId errCode)
      else pure () : CanPath K Unit).run can).1 = .returned () ↔ id = canId ∧ errCode = .noFault := by
  by_cases same : id = canId
  · by_cases fault : errCode = .noFault <;> simp [same, fault]
  · simp [same]

/-- A handshake returns exactly if it reads the id and no fault. -/
theorem ControlCall.returned_iff (call : ControlCall) :
    (call.path.run can).1 = .returned () ↔
      ∃ reply, handshakeReply can.socket = some reply ∧ call.Matches reply.frame := by
  cases call with
  | v2 canId controlSequence =>
      simp only [path, sendControlFrameV2, Path.update_bind, writeSendFrame_bind, handshakeReply]
      cases writes : can.socket.writes with
      | nil => simp [Socket.write, writes]
      | cons result rest =>
          cases result with
          | failed errno => simp [Socket.write, writes]
          | written enqueueNs =>
              simp only [Socket.write, writes, readFrame_bind]
              cases reads : can.socket.reads with
              | nil => simp [Socket.read]
              | cons result rest =>
                  cases result with
                  | failed errno => simp [Socket.read]
                  | frame reply =>
                      simp only [Socket.read, Option.some.injEq, exists_eq_left']
                      exact check_returned
  | v3 canId modeId controlSequence =>
      simp only [path, sendControlFrameV3, Path.update_bind, writeSendFrame_bind, handshakeReply]
      cases writes : can.socket.writes with
      | nil => simp [Socket.write, writes]
      | cons result rest =>
          cases result with
          | failed errno => simp [Socket.write, writes]
          | written enqueueNs =>
              simp only [Socket.write, writes, readFrame_bind]
              cases reads : can.socket.reads with
              | nil => simp [Socket.read]
              | cons result rest =>
                  cases result with
                  | failed errno => simp [Socket.read]
                  | frame reply =>
                      simp only [Socket.read, Option.some.injEq, exists_eq_left']
                      exact check_returned

theorem ControlCall.genuine_iff (call : ControlCall) :
    ((call.path.run can).1 = .returned () →
      ∃ reply, handshakeReply can.socket = some reply ∧ call.Genuine reply.frame) ↔
    ∀ reply, handshakeReply can.socket = some reply → ¬ call.Impostor reply.frame := by
  constructor
  · intro genuine reply read impostor
    obtain ⟨other, otherRead, kind, _⟩ := genuine (call.returned_iff.mpr ⟨reply, read, impostor.2⟩)
    cases read.symm.trans otherRead
    exact impostor.1 kind
  · intro honest returned
    obtain ⟨reply, read, accepted⟩ := call.returned_iff.mp returned
    have kind : call.ReplyKind reply.frame := by
      by_contra other
      exact honest reply read ⟨other, accepted⟩
    exact ⟨reply, read, kind, accepted⟩

/-- Frames are read in their order. -/
def Reads (before after : CubemarsCan K) : Prop := after.socket.reads <:+ before.socket.reads

instance : IsPreorder (CubemarsCan K) Reads where
  refl can := List.suffix_refl can.socket.reads
  trans _ _ _ first second := second.trans first

theorem writeSendFrame_reads : Path.Evolves Reads (writeSendFrame : CanPath K WriteResult) := by
  intro can
  have same : (can.socket.write can.sendFrame).2.reads = can.socket.reads := by
    unfold Socket.write
    split <;> rfl
  change (can.socket.write can.sendFrame).2.reads <:+ can.socket.reads
  simp only [same, List.suffix_refl]

theorem readFrame_reads : Path.Evolves Reads (readFrame : CanPath K ReadResult) := by
  intro can
  change can.socket.read.2.reads <:+ can.socket.reads
  unfold Socket.read
  split
  · exact List.suffix_refl _
  · next reads => simp [reads]
  · next reads => simp [reads]

theorem setReceiveTimeout_reads (sec usec : Int) :
    Path.Evolves Reads (setReceiveTimeout sec usec : CanPath K Bool) := by
  intro can
  have same : (can.socket.setReceiveTimeout sec usec).2.reads = can.socket.reads := by
    unfold Socket.setReceiveTimeout
    split <;> rfl
  change (can.socket.setReceiveTimeout sec usec).2.reads <:+ can.socket.reads
  simp only [same, List.suffix_refl]

/-- What every write and read keeps, and every change of the send frame, is kept. -/
theorem ControlCall.path_evolves {relation : CubemarsCan K → CubemarsCan K → Prop}
    [IsPreorder (CubemarsCan K) relation] (call : ControlCall)
    (framed : ∀ can sendFrame, relation can { can with sendFrame })
    (written : Path.Evolves relation (writeSendFrame : CanPath K WriteResult))
    (read : Path.Evolves relation (readFrame : CanPath K ReadResult)) :
    Path.Evolves relation (call.path : CanPath K Unit) := by
  have check (id canId : BitVec 32) (errCode : ErrorCode) : Path.Evolves relation
      (if id ≠ canId then Path.throw (.canDeviceError canId)
        else if errCode ≠ .noFault then Path.throw (.motorError canId errCode)
        else pure () : CanPath K Unit) :=
    Path.Evolves.ite (fun _ => Path.Evolves.throw _) fun _ =>
      Path.Evolves.ite (fun _ => Path.Evolves.throw _) fun _ => Path.Evolves.pure _
  cases call with
  | v2 canId controlSequence =>
      refine Path.Evolves.bind (Path.Evolves.update fun can => framed can _) fun _ => ?_
      refine Path.Evolves.bind written fun result => ?_
      cases result with
      | failed errno => exact Path.Evolves.throw _
      | written enqueueNs =>
          refine Path.Evolves.bind read fun result => ?_
          cases result with
          | failed errno => exact Path.Evolves.throw _
          | frame reply => exact check _ _ _
  | v3 canId modeId controlSequence =>
      refine Path.Evolves.bind (Path.Evolves.update fun can => framed can _) fun _ => ?_
      refine Path.Evolves.bind written fun result => ?_
      refine Path.Evolves.bind (Path.Evolves.update fun can => framed can _) fun _ => ?_
      cases result with
      | failed errno => exact Path.Evolves.throw _
      | written enqueueNs =>
          refine Path.Evolves.bind read fun result => ?_
          cases result with
          | failed errno => exact Path.Evolves.throw _
          | frame reply => exact check _ _ _

theorem ControlCall.path_reads (call : ControlCall) :
    Path.Evolves Reads (call.path : CanPath K Unit) :=
  call.path_evolves (fun _ _ => List.suffix_refl _) writeSendFrame_reads readFrame_reads

theorem connect_reads (canId : BitVec 32) (trials : Nat) :
    Path.Evolves Reads (connect canId trials : CanPath K Unit) := by
  induction trials with
  | zero => exact Path.Evolves.throw _
  | succ trials ih =>
      refine Path.Evolves.tryCatch (ControlCall.path_reads
        (.v3 canId CanPacketId.setCurrent [0, 0, 0, 0])) fun exception => ?_
      cases exception with
      | canDeviceError failedId => exact ih
      | _ => exact Path.Evolves.throw _

theorem setZeroPosition_reads (config : JointConfig K) :
    Path.Evolves Reads (setZeroPosition config) := by
  refine Path.Evolves.bind (setReceiveTimeout_reads _ _) fun ok => ?_
  refine Path.Evolves.bind (Path.Evolves.when fun _ => Path.Evolves.throw _) fun _ => ?_
  cases config.seriesType with
  | v2 => exact ControlCall.path_reads (.v2 config.canId setZeroPositionSequence)
  | v3 => exact ControlCall.path_reads (.v3 config.canId CanPacketId.setOriginHere [1])

/-- The handshake that enables a motor. -/
def enableCall (config : JointConfig K) : ControlCall :=
  match config.seriesType with
  | .v2 => .v2 config.canId startMotorControlModeSequence
  | .v3 => .v3 config.canId CanPacketId.setCurrent [0, 0, 0, 0]

/-- The handshake that sets the origin of a motor. -/
def originCall (config : JointConfig K) : ControlCall :=
  match config.seriesType with
  | .v2 => .v2 config.canId setZeroPositionSequence
  | .v3 => .v3 config.canId CanPacketId.setOriginHere [1]

theorem setZeroPosition_eq (config : JointConfig K) : setZeroPosition config = (do
    let ok ← setReceiveTimeout 10 0
    Path.when (ok = false) (Path.throw .canInterfaceError)
    (originCall config).path) := by
  unfold setZeroPosition originCall
  cases config.seriesType <;> rfl

/-- How a motor is enabled once it responds. -/
def enableResponding (config : JointConfig K) (setZero : Bool) : CanPath K Unit := do
  Path.when setZero (setZeroPosition config)
  (enableCall config).path
  Path.when setZero resetReceiveTimeout

/-- What enabling a motor does once its joint is found. -/
def enableMotor (config : JointConfig K) (trials : Nat) (setZero : Bool) : CanPath K Unit := do
  Path.when (config.seriesType = .v3) (connect config.canId trials)
  enableResponding config setZero

theorem startMotorControlMode_run {joint : Nat} {setZero : Bool} {config : JointConfig K}
    (found : can.jointConfigs[joint]? = some config) :
    (startMotorControlMode joint setZero).run can =
      (enableMotor config can.maxInitialConnectionTrials setZero).run can := by
  simp only [startMotorControlMode, Path.read_bind, found, enableMotor, enableResponding, enableCall]
  cases config.seriesType <;> rfl

/-- A motor is enabled only by a handshake that returned. -/
theorem startMotorControlMode_handshake {joint : Nat} {setZero : Bool} {config : JointConfig K}
    (found : can.jointConfigs[joint]? = some config)
    (run : (startMotorControlMode joint setZero).run can = (.returned (), after)) :
    ∃ before, Reads can before ∧ ((enableCall config).path.run before).1 = .returned () := by
  rw [startMotorControlMode_run found] at run
  simp only [enableMotor, enableResponding, Path.bind_run_returned] at run
  obtain ⟨_, connected, connection, _, zeroed, zeroing, _, enabled, handshake, _⟩ := run
  have reads : Reads can zeroed := trans_of Reads
    ((Path.Evolves.when fun _ => connect_reads _ _).of_run connection)
    ((Path.Evolves.when fun _ => setZeroPosition_reads config).of_run zeroing)
  exact ⟨zeroed, reads, congrArg Prod.fst handshake⟩

theorem handshakeReply_mem {socket : Socket} (read : handshakeReply socket = some reply) :
    .frame reply ∈ socket.reads := by
  unfold handshakeReply at read
  split at read
  · next reads =>
      cases read
      simp [reads]
  · cases read

/-- No frame in the queue looks like a reply of the motor without being one. -/
def Honest (call : ControlCall) (can : CubemarsCan K) : Prop :=
  ∀ reply, .frame reply ∈ can.socket.reads → ¬ call.Impostor reply.frame

/-- A handshake takes the frame it reads rightly for a reply exactly if that frame
is no impostor; without impostors only a motor that answered is enabled. -/
theorem handshake_genuine_iff (can : CubemarsCan K) :
    (∀ call : ControlCall, ((call.path.run can).1 = .returned () →
      ∃ reply, handshakeReply can.socket = some reply ∧ call.Genuine reply.frame) ↔
        ∀ reply, handshakeReply can.socket = some reply → ¬ call.Impostor reply.frame) ∧
    ∀ joint setZero config, can.jointConfigs[joint]? = some config →
      Honest (enableCall config) can → ((startMotorControlMode joint setZero).run can).1 = .returned () →
      ∃ reply, .frame reply ∈ can.socket.reads ∧ (enableCall config).Genuine reply.frame := by
  refine ⟨fun call => call.genuine_iff, fun joint setZero config found honest returned => ?_⟩
  obtain ⟨before, reads, handshake⟩ := startMotorControlMode_handshake found
    (Prod.ext returned rfl : (startMotorControlMode joint setZero).run can = (.returned (), _))
  have genuine := (enableCall config).genuine_iff.mpr fun reply read =>
    honest reply (reads.subset (handshakeReply_mem read))
  obtain ⟨reply, read, answers⟩ := genuine handshake
  exact ⟨reply, reads.subset (handshakeReply_mem read), answers⟩

section Example

/-- The reply of a V2 motor to its enabling. -/
def enabledReply : CanFrame where
  canId := 0
  len := 8
  data := replyOfMotor 1

def answeringCan : CubemarsCan ℚ := exampleCan 1 {
  writes := [.written 0]
  reads := [.frame { frame := enabledReply, rxNs := 0, rxHwNs := 0, dequeueNs := 0 }] }

theorem handshake_genuine_iff_answering : ∃ reply,
    .frame reply ∈ answeringCan.socket.reads ∧ (enableCall (ak80 1 : JointConfig ℚ)).Genuine reply.frame := by
  refine (handshake_genuine_iff answeringCan).2 0 false (ak80 1) rfl ?_ (by decide +kernel)
  intro reply member
  obtain rfl : reply = _ := by simpa [answeringCan, exampleCan] using member
  decide +kernel

/-- The error frame of an arbitration lost, as the kernel reports it. -/
def lostArbitration : CanFrame where
  canId := canErrFlag ||| 2
  len := 8
  data := replyOfMotor 1

def errorFrameCan : CubemarsCan ℚ := exampleCan 1 {
  writes := [.written 0]
  reads := [.frame { frame := lostArbitration, rxNs := 0, rxHwNs := 0, dequeueNs := 0 }] }

/-- Both handshakes return on the error frame, and the motor counts as enabled. -/
theorem error_frame_is_taken_for_a_reply :
    (((ControlCall.v3 2 CanPacketId.setCurrent [0, 0, 0, 0]).path.run errorFrameCan).1 =
        .returned () ∧
      ((ControlCall.v2 1 startMotorControlModeSequence).path.run errorFrameCan).1 = .returned () ∧
      ((startMotorControlMode 0 false).run errorFrameCan).1 = .returned ()) ∧
    (handshakeReply errorFrameCan.socket).map (fun reply => reply.frame) = some lostArbitration ∧
    lostArbitration.canId &&& canErrFlag ≠ 0 ∧
    ¬ (ControlCall.v3 2 CanPacketId.setCurrent [0, 0, 0, 0]).Genuine lostArbitration ∧
    ¬ (ControlCall.v2 1 startMotorControlModeSequence).Genuine lostArbitration := by
  decide +kernel

/-- The bytes of a reply under the identifier of another node. -/
example : (ControlCall.v2 1 startMotorControlModeSequence).Impostor { enabledReply with canId := 5 } := by
  decide

end Example

end CubemarsDriver.Can

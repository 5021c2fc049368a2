import CubemarsDriver.Node.WriteBack

namespace CubemarsDriver.Node

open Foundation Foundation.Quantizer Can

/-! # From a command to a joint state

If the motor replies with the integers it was sent, the joint state that is
written back is the command, limited to the motor's range, up to one
quantisation step. -/

/-- A V2 reply with the position, velocity and torque of a command frame. -/
def Echoes (frame : CanFrame) (reply : Reply) : Prop :=
  reply.frame.canId &&& canEffFlag = 0 ∧
    unpackV2 reply.frame.data = {
      pInt := (unpackCommandV2 frame.data).pDes
      vInt := (unpackCommandV2 frame.data).vDes
      iInt := (unpackCommandV2 frame.data).tFf }

instance (frame : CanFrame) (reply : Reply) : Decidable (Echoes frame reply) :=
  inferInstanceAs (Decidable (_ ∧ _))

/-- A joint-space value, limited to the motor's range. -/
def limitedPosition (params : JointParameters ℚ) (config : JointConfig ℚ) (position : ℚ) : ℚ :=
  let motor := (position - params.zeroPosition) * params.transmissionRatio
  directed config (limited config .position (directed config motor)) / params.transmissionRatio +
    params.zeroPosition

def limitedVelocity (params : JointParameters ℚ) (config : JointConfig ℚ) (velocity : ℚ) : ℚ :=
  let motor := velocity * params.transmissionRatio
  directed config (limited config .velocity (directed config motor)) / params.transmissionRatio

def limitedEffort (params : JointParameters ℚ) (config : JointConfig ℚ) (effort : ℚ) : ℚ :=
  let motor := effort / params.transmissionRatio
  directed config (limited config .effort (directed config motor)) * params.transmissionRatio

/-- One quantisation step of a field in motor units. -/
def fieldStep (config : JointConfig ℚ) (field : CommandField) : ℚ :=
  stepSize (2 ^ field.bits - 1) (lower config field) (upper config field)

section Decoding

variable {config : JointConfig ℚ} {cmd : JointCmd ℚ} {frame : CanFrame} {reply : Reply}

theorem abs_directed_sub (left right : ℚ) :
    |directed config left - directed config right| = |left - right| := by
  simp only [directed]
  split
  · rw [neg_sub_neg, abs_sub_comm]
  · rfl

/-- The measurement of an echoed command. -/
theorem decodeReply_echo (ranged : ∀ field, lower config field < upper config field)
    (payload : frame.data = (commandFields config cmd).packV2) (echoes : Echoes frame reply) :
    |(decodeReply config reply.frame).pos -
        directed config (limited config .position (directed config cmd.pos))| <
        fieldStep config .position ∧
      |(decodeReply config reply.frame).vel -
        directed config (limited config .velocity (directed config cmd.vel))| <
        fieldStep config .velocity ∧
      |(decodeReply config reply.frame).torque -
        directed config (limited config .effort (directed config cmd.torque))| <
        fieldStep config .effort := by
  have decoded (field : CommandField) :
      |uintToFloat ((commandFields config cmd).get field).toNat (lower config field)
          (upper config field) field.bits - limited config field (wanted config cmd field)| <
        fieldStep config field := abs_decoded_sub_lt ranged field
  have fields := echoes.2
  rw [payload, unpackCommandV2_packV2 (commandFields_fits ranged)] at fields
  have standard : decodeReply config reply.frame =
      (decodeV2 config reply.frame.data).inverted config.invert := by
    rw [decodeReply, if_neg (not_not.mpr echoes.1)]
  have motor : (decodeReply config reply.frame).pos =
        directed config (decodeV2 config reply.frame.data).pos ∧
      (decodeReply config reply.frame).vel =
        directed config (decodeV2 config reply.frame.data).vel ∧
      (decodeReply config reply.frame).torque =
        directed config (decodeV2 config reply.frame.data).torque := by
    rw [standard, Measurement.inverted]
    simp only [directed]
    split <;> exact ⟨rfl, rfl, rfl⟩
  rw [motor.1, motor.2.1, motor.2.2, abs_directed_sub, abs_directed_sub, abs_directed_sub]
  simp only [decodeV2, fields]
  exact ⟨decoded .position, decoded .velocity, decoded .effort⟩

end Decoding

section RoundTrip

variable [Libm ℚ] {index joint : Nat} {params : JointParameters ℚ} {config : JointConfig ℚ}
variable {env : CycleEnv} {node after : Node ℚ} {reply : Reply}

/-- Without friction parameters nothing is added to the effort. -/
theorem frictionTorque_zero {friction : FrictionParameters ℚ} (tauC : friction.tauC = 0)
    (tauS : friction.tauS = 0) (b : friction.b = 0) (vel : ℚ) : frictionTorque friction vel = 0 := by
  simp only [frictionTorque, tauC, tauS, b, zero_mul, sub_self, add_zero]

/-- The joint-space values a command asks for. -/
def asked (command : JointCommand ℚ) (index : Nat) : Option (JointReading ℚ) := do
  some {
    position := ← command.position[index]?
    velocity := ← command.velocity[index]?
    effort := ← command.effort[index]? }

omit [Libm ℚ] in
theorem loadedCmd_asked {command : JointCommand ℚ} {wanted : JointReading ℚ} {cmd : JointCmd ℚ}
    (entries : asked command params.msgIdx = some wanted)
    (loaded : loadedCmd command params = some cmd) :
    cmd.pos = wanted.position - params.zeroPosition ∧ cmd.vel = wanted.velocity ∧
      cmd.torque = wanted.effort := by
  simp only [asked, Option.bind_eq_bind, Option.bind_eq_some_iff, Option.some.injEq] at entries
  simp only [loadedCmd, Option.bind_eq_bind, Option.bind_eq_some_iff, Option.some.injEq] at loaded
  obtain ⟨position, posFound, velocity, velFound, effort, effortFound, rfl⟩ := entries
  obtain ⟨pos, posLoaded, vel, velLoaded, torque, torqueLoaded, kp, _, kd, _, rfl⟩ := loaded
  cases posFound.symm.trans posLoaded
  cases velFound.symm.trans velLoaded
  cases effortFound.symm.trans torqueLoaded
  exact ⟨rfl, rfl, rfl⟩

/-- An active cycle in which the joint's motor replies with the integers it was sent. -/
structure EchoedCycle (index joint : Nat) (params : JointParameters ℚ) (config : JointConfig ℚ)
    (env : CycleEnv) (node after : Node ℚ) (wanted : JointReading ℚ) (frame : CanFrame)
    (reply : Reply) : Prop where
  has : HasJoint index joint params config node
  active : env.scales node.lifecycle = true
  commanded : (node.jointCmdPtr.bind fun command => asked command params.msgIdx) = some wanted
  cycle : writtenBack index env node = some after
  sent : sentFrame index joint node after = some frame
  replied : replyRead index joint node = some reply
  echoes : Echoes frame reply

/-- The reading agrees with the limited command up to one step, in joint units.
The effort is only comparable without friction compensation. -/
structure WithinOneStep (params : JointParameters ℚ) (config : JointConfig ℚ)
    (wanted written : JointReading ℚ) : Prop where
  position : |written.position - limitedPosition params config wanted.position| <
    fieldStep config .position / params.transmissionRatio
  velocity : |written.velocity - limitedVelocity params config wanted.velocity| <
    fieldStep config .velocity / params.transmissionRatio
  effort : params.frictionParameters.tauC = 0 → params.frictionParameters.tauS = 0 →
    params.frictionParameters.b = 0 →
    |written.effort - limitedEffort params config wanted.effort| <
      fieldStep config .effort * params.transmissionRatio

theorem withinOneStep {wanted : JointReading ℚ} {vel : ℚ} {cmd : JointCmd ℚ}
    {measured : JointState ℚ} (positive : 0 < params.transmissionRatio)
    (position : cmd.pos = wanted.position - params.zeroPosition)
    (velocity : cmd.vel = wanted.velocity) (effort : cmd.torque = wanted.effort)
    (pos : |measured.pos - directed config (limited config .position
      (directed config (motorCmd params vel cmd).pos))| < fieldStep config .position)
    (rate : |measured.vel - directed config (limited config .velocity
      (directed config (motorCmd params vel cmd).vel))| < fieldStep config .velocity)
    (torque : |measured.torque - directed config (limited config .effort
      (directed config (motorCmd params vel cmd).torque))| < fieldStep config .effort) :
    WithinOneStep params config wanted (writtenReading params (toJointSpace params measured)) := by
  have one : (Scalar.one : ℚ) = 1 := rfl
  simp only [motorCmd, toMotorSpace, position, velocity, effort, one] at pos rate torque
  constructor
  · simp only [writtenReading, toJointSpace, limitedPosition, one, mul_one_div,
      add_sub_add_right_eq_sub, ← sub_div, abs_div, abs_of_pos positive]
    exact div_lt_div_of_pos_right pos positive
  · simp only [writtenReading, toJointSpace, limitedVelocity, one, mul_one_div, ← sub_div, abs_div,
      abs_of_pos positive]
    exact div_lt_div_of_pos_right rate positive
  · intro tauC tauS b
    rw [frictionTorque_zero tauC tauS b, add_zero, mul_one_div] at torque
    simp only [writtenReading, toJointSpace, limitedEffort, ← sub_mul, abs_mul, abs_of_pos positive]
    exact mul_lt_mul_of_pos_right torque positive

/-- What is written back is what was asked for, up to one quantisation step, and
every integer fits its field. -/
theorem command_round_trip {wanted : JointReading ℚ} {frame : CanFrame}
    (cycle : EchoedCycle index joint params config env node after wanted frame reply)
    (unfiltered : Unfiltered params) (positive : 0 < params.transmissionRatio)
    (series : config.seriesType = .v2)
    (ranged : ∀ field, lower config field < upper config field) :
    ∃ motor written, frame.data = (commandFields config motor).packV2 ∧
      (∀ field, fieldInt config motor field < 2 ^ field.bits) ∧
      reading after.messages params.msgIdx = some written ∧
      WithinOneStep params config wanted written := by
  obtain ⟨_, motor, before, state, cycled⟩ :=
    canCycleCallback_joint cycle.has unfiltered cycle.cycle
  have commanded := cycled.commanded cycle.active
  obtain ⟨len, sent⟩ := cycled.sent
  cases sent.symm.trans cycle.sent
  have payload : (commandFrame len config motor).data = (commandFields config motor).packV2 := by
    rw [commandFrame, commandPayload, series]
  have measured := cycled.measured
  rw [cycle.replied, Option.map_some, Option.getD_some] at measured
  have decoded := decodeReply_echo ranged payload cycle.echoes
  rw [← measured] at decoded
  obtain ⟨command, stored, loaded⟩ := Option.bind_eq_some_iff.mp commanded
  obtain ⟨cmd, load, rfl⟩ := Option.map_eq_some_iff.mp loaded
  have entries := cycle.commanded
  rw [stored, Option.bind_some] at entries
  obtain ⟨position, velocity, effort⟩ := loadedCmd_asked entries load
  exact ⟨_, _, payload, fieldInt_lt ranged, cycled.written,
    withinOneStep positive position velocity effort decoded.1 decoded.2.1 decoded.2.2⟩

end RoundTrip

section Example

attribute [local instance] libmAtRest

/-- The zero command of an AK80-6, echoed. -/
def echoReply : Reply where
  frame := { canId := 1, len := 8, data := #v[1, 0x7F, 0xFF, 0x7F, 0xF7, 0xFF, 65, 0] }
  rxNs := 2000
  rxHwNs := 1000
  dequeueNs := 3000

def echoNode : Node ℚ := exampleNode .active 2 [{
  writes := [.written 10]
  reads := [.frame echoReply] }]

theorem echoNode_echoes : ∃ after frame,
    EchoedCycle 0 0 (exampleParams 0 2) (ak80 1) {} echoNode after ⟨0, 0, 0⟩ frame echoReply := by
  obtain ⟨after, cycle⟩ : ∃ after, writtenBack 0 {} echoNode = some after :=
    Option.isSome_iff_exists.mp (by decide +kernel)
  obtain ⟨frame, sent⟩ : ∃ frame, ((writtenBack 0 {} echoNode).bind fun after =>
      sentFrame 0 0 echoNode after) = some frame := Option.isSome_iff_exists.mp (by decide +kernel)
  have echoes : ((writtenBack 0 {} echoNode).bind fun after =>
      sentFrame 0 0 echoNode after).all (Echoes · echoReply) = true := by decide +kernel
  rw [sent, Option.all_some, decide_eq_true_eq] at echoes
  rw [cycle, Option.bind_some] at sent
  refine ⟨after, frame, ?_, rfl, by decide +kernel, cycle, sent, by decide +kernel, echoes⟩
  refine ⟨_, _, rfl, rfl, rfl, rfl, rfl, rfl, ?_⟩
  intro other otherParams found _
  exact Nat.lt_one_iff.mp (List.getElem?_eq_some_iff.mp found).1

theorem command_round_trip_zero : ∃ (after : Node ℚ) (frame : CanFrame) (motor : JointCmd ℚ)
    (written : JointReading ℚ), frame.data = (commandFields (ak80 1) motor).packV2 ∧
      (∀ field, fieldInt (ak80 1) motor field < 2 ^ field.bits) ∧
      reading after.messages 0 = some written ∧
      WithinOneStep (exampleParams 0 2) (ak80 1) ⟨0, 0, 0⟩ written := by
  obtain ⟨after, frame, cycle⟩ := echoNode_echoes
  exact ⟨after, frame, command_round_trip cycle ⟨rfl, Nat.zero_le 1⟩ two_pos rfl ak80_ranged⟩

end Example

end CubemarsDriver.Node

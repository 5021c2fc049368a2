import CubemarsDriver.Can.Addressing
import CubemarsDriver.Can.HandshakeReply
import CubemarsDriver.Node.ConfiguredBy

namespace CubemarsDriver

open Foundation Can

/-! # Identifiers on the wire

The `can_id` of a joint is a parameter of 64 bits.  It is narrowed, combined with
a packet id and cut to the identifier of a frame, and a motor answers with one
byte of it. -/

variable {K : Type}

namespace Can

/-- The identifier of a frame on the wire. -/
inductive WireId where
  | standard (id : BitVec 11)
  | extended (id : BitVec 29)
deriving DecidableEq, Repr

def wireId (canId : BitVec 32) : WireId :=
  if canId &&& canEffFlag ≠ 0 then .extended ((canId &&& canEffMask).setWidth 29)
  else .standard ((canId &&& canSffMask).setWidth 11)

def WireId.lowByte : WireId → BitVec 8
  | .standard id => id.setWidth 8
  | .extended id => id.setWidth 8

/-- A frame a motor answers with: it names itself by the low byte of its id, a V2
motor in the first byte of its data and a V3 motor in the identifier. -/
def AnswersAs (config : JointConfig K) (frame : CanFrame) : Prop :=
  frame.canId &&& canErrFlag = 0 ∧
    match config.seriesType with
    | .v2 => frame.canId &&& canEffFlag = 0 ∧ frame.data.motorId = config.canId.setWidth 8
    | .v3 => frame.canId &&& canEffFlag ≠ 0 ∧
        (frame.canId &&& canEffMask) >>> 8 = CanPacketId.response ∧
        (frame.canId &&& 0xFF).setWidth 8 = config.canId.setWidth 8

/-- Everything the motor of a joint answers is taken for an answer of the joint. -/
def AnswersResolve (configs : List (JointConfig K)) (joint : Nat) (config : JointConfig K) : Prop :=
  ∀ frame, AnswersAs config frame → resolve configs frame = some joint

/-- A mask that covers the low byte leaves it alone. -/
theorem masked_lowByte {canId mask : BitVec 32} {width : Nat} (wide : 8 ≤ width)
    (covers : mask.setWidth 8 = BitVec.allOnes 8) :
    ((canId &&& mask).setWidth width).setWidth 8 = canId.setWidth 8 := by
  rw [BitVec.setWidth_setWidth_of_le _ wide, BitVec.setWidth_and, covers, BitVec.and_allOnes]

theorem lowByte_wireId (canId : BitVec 32) : (wireId canId).lowByte = canId.setWidth 8 := by
  unfold wireId
  split
  · exact masked_lowByte (by decide) (by decide)
  · exact masked_lowByte (by decide) (by decide)

/-- The packet id and the flag leave the low byte of the id alone. -/
theorem lowByte_commandCanId (config : JointConfig K) :
    (commandCanId config).setWidth 8 = config.canId.setWidth 8 := by
  unfold commandCanId
  cases config.seriesType with
  | v2 => rfl
  | v3 =>
      have flag : canEffFlag.setWidth 8 = 0#8 := by decide
      have packet : (CanPacketId.setMit <<< 8).setWidth 8 = 0#8 := by decide
      have mask : canEffMask.setWidth 8 = BitVec.allOnes 8 := by decide
      simp only [BitVec.setWidth_or, BitVec.setWidth_and, flag, packet, mask, BitVec.or_zero,
        BitVec.and_allOnes]

theorem lowByte_inj {canId canId' : BitVec 32} (byte : canId.toNat < 256)
    (byte' : canId'.toNat < 256) (same : canId.setWidth 8 = canId'.setWidth 8) :
    canId = canId' := by
  rw [← setWidth_lowByte byte, same, setWidth_lowByte byte']

section Joints

variable {configs : List (JointConfig K)} {config other : JointConfig K} {joint : Nat}

theorem wireIds_differ (byte : config.canId.toNat < 256) (byte' : other.canId.toNat < 256)
    (different : config.canId ≠ other.canId) :
    wireId (commandCanId config) ≠ wireId (commandCanId other) := by
  intro same
  have bytes := congrArg WireId.lowByte same
  rw [lowByte_wireId, lowByte_wireId, lowByte_commandCanId, lowByte_commandCanId] at bytes
  exact different (lowByte_inj byte byte' bytes)

theorem AnswersAs.motorReply {frame : CanFrame} (answers : AnswersAs config frame)
    (byte : config.canId.toNat < 256) : MotorReply config frame := by
  obtain ⟨data, form⟩ := answers
  refine ⟨data, ?_⟩
  cases series : config.seriesType with
  | v2 =>
      simp only [series] at form
      exact ⟨form.1, by rw [form.2, setWidth_lowByte byte]⟩
  | v3 =>
      simp only [series] at form
      refine ⟨form.1, form.2.1, lowByte_inj ?_ byte form.2.2⟩
      rw [BitVec.toNat_and]
      exact lt_of_le_of_lt Nat.and_le_right (by decide)

theorem answersResolve (distinct : (configs.map JointConfig.canId).Nodup)
    (found : configs[joint]? = some config) (byte : config.canId.toNat < 256) :
    AnswersResolve configs joint config :=
  fun _ answers => (answers.motorReply byte).resolves distinct found

end Joints

end Can

namespace Node

variable {assignment : Assignment K} {left : Node K} {accepted : Accepted K}
variable {node after : Node K} {bus : Bus} {now : Int} {index joint : Nat}
variable {joints : List (JointConfig K)}

/-- A handshake compares one byte, so only ids of one byte are enabled. -/
theorem Enabled.byte {config : JointConfig K} (enabled : Enabled joints joint)
    (found : joints[joint]? = some config) : config.canId.toNat < 256 := by
  obtain ⟨setZero, can, after, rfl, run⟩ := enabled
  obtain ⟨before, _, returned⟩ := startMotorControlMode_handshake found run
  obtain ⟨reply, _, own, _⟩ := (ControlCall.returned_iff _).mp returned
  have id : (enableCall config).canId = config.canId := by
    unfold enableCall
    split <;> rfl
  rw [← id, ← own]
  unfold ControlCall.checkedId
  split
  · rw [BitVec.toNat_setWidth]
    omega
  · rw [BitVec.toNat_and]
    exact lt_of_le_of_lt Nat.and_le_right (by decide)

section Accepted

variable [Scalar K]

/-- Whatever `on_configure` accepts, the joints of an interface have command frames of
different identifiers, and every answer of a motor resolves to its own joint. -/
theorem accepted_joints_have_own_ids {can : CubemarsCan K} {first second : Nat}
    {config config' : JointConfig K}
    (run : (onConfigure assignment bus now).run node = (.returned .success, after))
    (found : after.canInterfaces[index]?.join = some can)
    (there : can.jointConfigs[first]? = some config)
    (there' : can.jointConfigs[second]? = some config') (different : first ≠ second) :
    wireId (commandCanId config) ≠ wireId (commandCanId config') ∧
      AnswersResolve can.jointConfigs first config ∧
      AnswersResolve can.jointConfigs second config' := by
  obtain ⟨accepted, configured⟩ := onConfigure_configuredBy run
  have joints : after.jointLists[index]? = some (some can.jointConfigs) := by
    rw [jointLists, List.getElem?_map, Option.join_eq_some_iff.mp found]
    rfl
  have distinct := configured.canIds_distinct joints
  obtain ⟨bound, _⟩ := List.getElem?_eq_some_iff.mp there
  obtain ⟨bound', _⟩ := List.getElem?_eq_some_iff.mp there'
  have byte := (configured.joint_enabled joints bound).byte there
  have byte' := (configured.joint_enabled joints bound').byte there'
  refine ⟨wireIds_differ byte byte' ?_, answersResolve distinct there byte,
    answersResolve distinct there' byte'⟩
  intro same
  have index := findIdx_canId distinct there'
  rw [← same, findIdx_canId distinct there, Option.some.injEq] at index
  exact different index

end Accepted

theorem accepted_joints_have_own_ids_leg : ∃ can hip knee,
    (legNode []).canInterfaces[0]?.join = some can ∧ can.jointConfigs = [hip, knee] ∧
      wireId (commandCanId hip) ≠ wireId (commandCanId knee) ∧
      AnswersResolve can.jointConfigs 0 hip ∧ AnswersResolve can.jointConfigs 1 knee := by
  have success : ((onConfigure (legAssignment []) legBus 0).run freshNode).1 =
      .returned .success := by decide +kernel
  obtain ⟨can, found⟩ : ∃ can, (legNode []).canInterfaces[0]?.join = some can :=
    Option.isSome_iff_exists.mp (by decide +kernel)
  obtain ⟨hip, knee, joints⟩ : ∃ hip knee, can.jointConfigs = [hip, knee] := by
    have two : ((legNode []).canInterfaces[0]?.join.map fun can => can.jointConfigs.length) =
        some 2 := by decide +kernel
    rw [found, Option.map_some, Option.some.injEq] at two
    exact List.length_eq_two.mp two
  refine ⟨can, hip, knee, found, joints, ?_⟩
  exact accepted_joints_have_own_ids (Prod.ext success rfl) found (by rw [joints]; rfl)
    (by rw [joints]; rfl) (by decide)

end Node

end CubemarsDriver

import CubemarsDriver.Can.Bus

namespace CubemarsDriver.Can

/-! # Filters and reply lookup

The constructor and the receive loop each encode the addresses of the replies,
once as the filter of the socket and once as a search for the joint.  The kernel
passes a frame that agrees with an entry of the filter on the bits of its mask. -/

def Socket.Passes (socket : Socket) (frame : CanFrame) : Prop := Can.Passes socket.filters frame

variable {K : Type}

/-- The frame the motor of a joint replies with. -/
def ReplyFrame (config : JointConfig K) (frame : CanFrame) : Prop :=
  match config.seriesType with
  | .v2 => frame.canId = (if config.replyOnOwnId then config.canId else 0) ∧
      frame.data.motorId.setWidth 32 = config.canId
  | .v3 => frame.canId = canEffFlag ||| 0x2900 ||| config.canId

/-- An id of one byte is known by its low byte. -/
theorem setWidth_lowByte {canId : BitVec 32} (byte : canId.toNat < 256) :
    (canId.setWidth 8).setWidth 32 = canId := by
  apply BitVec.eq_of_toNat_eq
  simp only [BitVec.toNat_setWidth]
  omega

/-- What holds of every id made of a byte holds of the ids below 256. -/
theorem forall_byte (property : BitVec 32 → Prop)
    (bytes : ∀ byte : BitVec 8, property (byte.setWidth 32)) {canId : BitVec 32}
    (byte : canId.toNat < 256) : property canId := by
  rw [← setWidth_lowByte byte]
  exact bytes _

section Identifiers

variable {canId : BitVec 32}

theorem standard_plain (byte : canId.toNat < 256) :
    canId &&& canErrFlag = 0 ∧ canId &&& canEffFlag = 0 :=
  forall_byte (fun canId => canId &&& canErrFlag = 0 ∧ canId &&& canEffFlag = 0)
    (by decide +kernel) byte

/-- The filter entry of a V3 joint and the identifier of its replies are the same number. -/
theorem response_canId :
    canId ||| (CanPacketId.response <<< 8) ||| canEffFlag = canEffFlag ||| 0x2900 ||| canId := by
  rw [BitVec.or_comm _ canEffFlag, BitVec.or_comm canId, ← BitVec.or_assoc]
  rfl

/-- How the receive loop reads the identifier of a V3 reply. -/
theorem response_fields (byte : canId.toNat < 256) :
    (canEffFlag ||| 0x2900 ||| canId) &&& canErrFlag = 0 ∧
      (canEffFlag ||| 0x2900 ||| canId) &&& canEffFlag ≠ 0 ∧
      ((canEffFlag ||| 0x2900 ||| canId) &&& canEffMask) >>> 8 = CanPacketId.response ∧
      (canEffFlag ||| 0x2900 ||| canId) &&& 0xFF = canId :=
  forall_byte (fun canId => (canEffFlag ||| 0x2900 ||| canId) &&& canErrFlag = 0 ∧
      (canEffFlag ||| 0x2900 ||| canId) &&& canEffFlag ≠ 0 ∧
      ((canEffFlag ||| 0x2900 ||| canId) &&& canEffMask) >>> 8 = CanPacketId.response ∧
      (canEffFlag ||| 0x2900 ||| canId) &&& 0xFF = canId) (by decide +kernel) byte

/-- Two words that agree under a mask agree under every part of it. -/
theorem masked_part {left right mask : BitVec 32} (part : BitVec 32)
    (same : left &&& mask = right &&& mask)
    (inside : mask &&& part = part) : left &&& part = right &&& part := by
  rw [← inside, ← BitVec.and_assoc, ← BitVec.and_assoc, same]

end Identifiers

variable {config : JointConfig K} {configs : List (JointConfig K)} {frame : CanFrame}

theorem ReplyFrame.matches (reply : ReplyFrame config frame) :
    (jointFilter config).Matches frame.canId := by
  unfold ReplyFrame at reply
  unfold jointFilter CanFilter.Matches
  cases series : config.seriesType with
  | v2 =>
      simp only [series] at reply
      rw [reply.1]
      cases config.replyOnOwnId <;> rfl
  | v3 =>
      simp only [series] at reply
      rw [reply, response_canId]

theorem ReplyFrame.motorReply (reply : ReplyFrame config frame)
    (byte : config.canId.toNat < 256) : MotorReply config frame := by
  unfold ReplyFrame at reply
  unfold MotorReply
  cases series : config.seriesType with
  | v2 =>
      simp only [series] at reply ⊢
      have plain : frame.canId &&& canErrFlag = 0 ∧ frame.canId &&& canEffFlag = 0 := by
        rw [reply.1]
        split
        · exact standard_plain byte
        · decide
      exact ⟨plain.1, plain.2, reply.2⟩
  | v3 =>
      simp only [series] at reply ⊢
      rw [reply]
      exact response_fields byte

/-- An extended frame only matches the entry of a V3 joint, and then is a reply of its motor. -/
theorem extended_matches (extended : frame.canId &&& canEffFlag ≠ 0)
    (byte : config.canId.toNat < 256) (passes : (jointFilter config).Matches frame.canId) :
    config.seriesType = .v3 ∧
      (frame.canId &&& canEffMask) >>> 8 = CanPacketId.response ∧
      frame.canId &&& 0xFF = config.canId := by
  unfold jointFilter CanFilter.Matches at passes
  cases series : config.seriesType with
  | v2 =>
      have standard : ∀ canId : BitVec 32, canId.toNat < 256 →
          frame.canId &&& (canSffMask ||| canEffFlag) = canId &&& (canSffMask ||| canEffFlag) →
          frame.canId &&& canEffFlag = 0 := by
        intro canId small same
        rw [masked_part canEffFlag same (by decide)]
        exact (standard_plain small).2
      simp only [series] at passes
      cases own : config.replyOnOwnId with
      | true =>
          rw [own] at passes
          exact absurd (standard config.canId byte passes) extended
      | false =>
          rw [own] at passes
          exact absurd (standard 0 (by decide) passes) extended
  | v3 =>
      simp only [series, response_canId] at passes
      obtain ⟨_, _, response, id⟩ := response_fields byte
      refine ⟨rfl, ?_, ?_⟩
      · rw [masked_part canEffMask passes (by decide)]
        exact response
      · rw [masked_part 0xFF passes (by decide)]
        exact id

theorem resolve_extended {joint : Nat} (extended : frame.canId &&& canEffFlag ≠ 0)
    (response : (frame.canId &&& canEffMask) >>> 8 = CanPacketId.response)
    (id : frame.canId &&& 0xFF = config.canId)
    (distinct : (configs.map JointConfig.canId).Nodup) (found : configs[joint]? = some config) :
    resolve configs frame = some joint := by
  rw [resolve, if_pos extended, if_neg (by simpa using response), id]
  exact findIdx_canId distinct found

section Constructed

variable {canInterface : String} {enableLoopback enableTxTimestamping enableCanErrorFrames : Bool}
variable {sec usec : Int} {trials : Nat} {setup : SetupStep → Bool} {socket : Socket}
variable {can : CubemarsCan K}

theorem create_filters (created : CubemarsCan.create canInterface enableLoopback configs sec usec
      trials enableTxTimestamping enableCanErrorFrames setup socket = .ok can) :
    can.jointConfigs = configs ∧ can.socket.filters = configs.map jointFilter := by
  unfold CubemarsCan.create at created
  split at created
  · cases created
    exact ⟨rfl, rfl⟩
  · cases created

/-- On an interface whose joints have distinct ids of one byte, the reply of
every motor passes the filter and is taken for a reply of its joint, and an
extended frame that passes is taken for a reply of a V3 joint. -/
theorem replies_pass_and_resolve (distinct : (configs.map JointConfig.canId).Nodup)
    (bytes : ∀ config ∈ configs, config.canId.toNat < 256)
    (created : CubemarsCan.create canInterface enableLoopback configs sec usec trials
      enableTxTimestamping enableCanErrorFrames setup socket = .ok can) :
    (∀ joint config frame, configs[joint]? = some config → ReplyFrame config frame →
      can.socket.Passes frame ∧ frame.canId &&& canErrFlag = 0 ∧
        resolve can.jointConfigs frame = some joint) ∧
    ∀ frame, frame.canId &&& canEffFlag ≠ 0 → can.socket.Passes frame →
      ∃ joint config, resolve can.jointConfigs frame = some joint ∧
        can.jointConfigs[joint]? = some config ∧ config.seriesType = .v3 := by
  obtain ⟨joints, filters⟩ := create_filters created
  rw [joints]
  refine ⟨?replies, ?extended⟩
  case replies =>
    intro joint config frame found reply
    have member := List.mem_of_getElem? found
    have motor := reply.motorReply (bytes config member)
    refine ⟨⟨jointFilter config, ?_, reply.matches⟩, motor.1, motor.resolves distinct found⟩
    rw [filters]
    exact List.mem_map_of_mem member
  case extended =>
    rintro frame extended ⟨filter, entry, passes⟩
    rw [filters, List.mem_map] at entry
    obtain ⟨config, member, rfl⟩ := entry
    obtain ⟨joint, found⟩ := List.getElem?_of_mem member
    obtain ⟨series, response, id⟩ := extended_matches extended (bytes config member) passes
    exact ⟨joint, config, resolve_extended extended response id distinct found, found, series⟩

/-- Three motors of the three kinds on one bus. -/
def mixedConfigs : List (JointConfig ℚ) :=
  [ak80 1, { ak80 2 with replyOnOwnId := false }, { ak80 3 with seriesType := .v3 }]

theorem replies_pass_and_resolve_mixed : ∃ can : CubemarsCan ℚ,
    CubemarsCan.create "can0" true mixedConfigs 0 1000 10 false false (fun _ => true) {} =
      .ok can ∧
    can.socket.Passes { canId := 0x80002903, len := 8, data := Vector.replicate 8 0 } ∧
    resolve can.jointConfigs { canId := 0x80002903, len := 8, data := Vector.replicate 8 0 } =
      some 2 := by
  obtain ⟨can, created⟩ : ∃ can, CubemarsCan.create "can0" true mixedConfigs 0 1000 10 false
    false (fun _ => true) {} = .ok can := ⟨_, rfl⟩
  have reply : ReplyFrame { ak80 3 with seriesType := .v3 }
      { canId := 0x80002903, len := 8, data := Vector.replicate 8 0 } := by
    show (0x80002903 : BitVec 32) = canEffFlag ||| 0x2900 ||| 3
    decide
  have both := (replies_pass_and_resolve (by decide) (by decide) created).1 2 _ _ rfl reply
  exact ⟨can, created, both.1, both.2.2⟩

end Constructed

end CubemarsDriver.Can

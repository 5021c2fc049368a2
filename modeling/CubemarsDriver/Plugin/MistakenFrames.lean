import CubemarsDriver.Can.MistakenCommands
import CubemarsDriver.Plugin.SwitchedGains

namespace CubemarsDriver.Plugin

open Can Foundation Foundation.Quantizer

/-! # Commands of the plugin that a motor takes for control frames

The plugin's encoder has no integer for the end of a range, so a command at its limits is not the
one that is mistaken: it is the one just below all of them. -/

theorem packV2_unpack (data : Payload) : (unpackCommandV2 data).packV2 = data := by
  obtain ⟨fields, fits, packed⟩ := packed_surjective .v2 data
  have packedV2 : fields.packV2 = data := packed
  rw [← packedV2, unpackCommandV2_packV2 fits]

/-- Integers that leave nothing to be cut off are read as they are. -/
theorem receivedLevel_eq_iff {levels value : CommandField → Nat}
    (bound : ∀ field : CommandField, levels field ≤ 2 ^ field.bits)
    (small : ∀ field : CommandField, value field < 2 ^ field.bits) (some : ∀ field, value field ≠ 0) :
    (∀ field, receivedLevel levels field = value field) ↔ ∀ field, levels field = value field := by
  have alone {field : CommandField} (read : levels field % 2 ^ field.bits = value field) :
      levels field = value field := by
    rcases (bound field).lt_or_eq with less | full
    · rwa [Nat.mod_eq_of_lt less] at read
    · rw [full, Nat.mod_self] at read
      exact absurd read.symm (some field)
  constructor
  · intro read
    have kp : levels .kp = value .kp := alone (read .kp)
    have effort : levels .effort = value .effort := alone (read .effort)
    have kpSpill : levels .kp / 4096 = 0 := Nat.div_eq_of_lt (kp ▸ small .kp)
    have effortSpill : levels .effort / 4096 = 0 := Nat.div_eq_of_lt (effort ▸ small .effort)
    have velocity := read .velocity
    have kd := read .kd
    rw [receivedLevel, kpSpill] at velocity
    rw [receivedLevel, effortSpill] at kd
    intro field
    cases field with
    | position => exact alone (read .position)
    | velocity => exact alone velocity
    | kp => exact kp
    | kd => exact alone kd
    | effort => exact effort
  · intro same field
    have whole (field : CommandField) : levels field % 2 ^ field.bits = value field := by
      rw [same, Nat.mod_eq_of_lt (small field)]
    have spill (field : CommandField) : levels field / 2 ^ field.bits = 0 := by
      rw [same, Nat.div_eq_of_lt (small field)]
    cases field with
    | velocity => exact congrArg₂ spillInto (whole .velocity) (spill .kp)
    | kd => exact congrArg₂ spillInto (whole .kd) (spill .effort)
    | _ => exact whole _

variable {count : Nat} {cmd : JointCmd ℚ} {config : JointConfig ℚ} {mode : JointMode}
variable {sequence : ControlSequence}

/-- The value is in the cell that the field has in the control sequence. -/
def InCell (sequence : ControlSequence) (config : JointConfig ℚ) (field : CommandField) (value : ℚ) :
    Prop :=
  levelValue (2 ^ field.bits) (lower config field) (upper config field) (sequence.fieldValue field) ≤
      value ∧
    value < levelValue (2 ^ field.bits) (lower config field) (upper config field)
      (sequence.fieldValue field + 1)

instance instDecidableInCell (sequence : ControlSequence) (config : JointConfig ℚ)
    (field : CommandField) (value : ℚ) : Decidable (InCell sequence config field value) :=
  inferInstanceAs (Decidable (_ ∧ _))

theorem fieldValue_ne_zero (field : CommandField) : sequence.fieldValue field ≠ 0 := by
  have torque : 0 < sequence.torqueInt ∧ _ := ControlSequence.torqueInt_bounds
  unfold ControlSequence.fieldValue
  split
  · exact torque.1.ne'
  · cases field <;> decide

theorem commandLevel_eq_iff (ranged : ∀ field, lower config field < upper config field)
    (field : CommandField) : commandLevel cmd config mode field = sequence.fieldValue field ↔
      InCell sequence config field (clampedValue cmd config mode field) := by
  have above : lower config field ≤ clampedValue cmd config mode field :=
    (limited_mem (ranged field) _).1
  exact level_eq_iff (ranged field) above (Nat.two_pow_pos field.bits)

/-- A command of the plugin has the payload of a control sequence exactly if position, velocity and
both gains are in the last cell of their ranges, below its end, and the torque in that of the
sequence. -/
theorem packed_mistaken_iff (ranged : ∀ field, lower config field < upper config field) :
    (packCmd cmd config mode).data = sequence.payload ↔
      ∀ field, InCell sequence config field (clampedValue cmd config mode field) := by
  let fields := CommandFields.ofValues sequence.fieldValue
  have fits : fields.Fits := ofValues_fits ControlSequence.fieldValue_lt
  have cells : (∀ field, InCell sequence config field (clampedValue cmd config mode field)) ↔
      ∀ field, commandLevel cmd config mode field = sequence.fieldValue field :=
    forall_congr' fun field => (commandLevel_eq_iff ranged field).symm
  have bound := fun field => (commandLevel_le cmd mode ranged field).1
  rw [cells, ← receivedLevel_eq_iff bound ControlSequence.fieldValue_lt fieldValue_ne_zero,
    ControlSequence.payload_packed]
  constructor
  · intro same field
    rw [← received_levels ranged, same, unpackCommandV2_packV2 fits]
    exact CommandFields.toNat_get_ofValues ControlSequence.fieldValue_lt field
  · intro read
    have same : unpackCommandV2 (packCmd cmd config mode).data = fields := by
      refine CommandFields.ext_get fun field => BitVec.eq_of_toNat_eq ?_
      rw [received_levels ranged, read]
      exact (CommandFields.toNat_get_ofValues ControlSequence.fieldValue_lt field).symm
    rw [← packV2_unpack (packCmd cmd config mode).data, same]

/-- Over a run of the plugin, a frame of the cycle has the payload of a control sequence exactly if
the command of its joint is in the cells of the sequence, and only if the last accepted switch has
started the joint's position interface. -/
theorem frames_mistaken_iff [StdNumbers ℚ] {names : InterfaceNames} {initialised : Bool}
    {info : HardwareInfo count} {start component after : ManagedInterface ℚ count}
    {callbacks : List (Callback ℚ count)} {writes : List Bool} {reads : List ReadResult}
    (init : onInit initialised info = .success start) (unique : start.jointNames.toList.Nodup)
    (ranged : ∀ joint field, lower (start.hwJointConfigs.get joint) field <
      upper (start.hwJointConfigs.get joint) field)
    (bottom : ∀ joint, (start.hwJointConfigs.get joint).kpMin = 0)
    (run : runSteps (operate names) start callbacks = some component)
    (written : operate names component (.write writes reads) = some after) :
    ∀ frame ∈ acceptedFrames (eventsSince component after), ∃ joint : Fin count,
      frame = commandFrame component.toConnectedInterface joint ∧
        ∀ sequence : ControlSequence,
          (frame.data = sequence.payload ↔ ∀ field,
            InCell sequence (start.hwJointConfigs.get joint) field
              (clampedValue (component.cmd joint) (start.hwJointConfigs.get joint)
                (component.hwControlLevel.get joint) field)) ∧
          (frame.data = sequence.payload → .position ∈ startedModes names start callbacks joint) := by
  intro frame accepted
  obtain ⟨joint, own, packed, listed⟩ := command_of_run init unique run written accepted
  rw [packed]
  refine ⟨joint, packed.symm.trans own, fun sequence => ?_⟩
  refine ⟨packed_mistaken_iff (ranged joint), fun mistaken => ?_⟩
  have position : component.hwControlLevel.get joint = .position := by
    apply received_kp (ranged joint) (bottom joint)
    rw [mistaken, ControlSequence.payload_packed,
      unpackCommandV2_packV2 (ofValues_fits ControlSequence.fieldValue_lt),
      CommandFields.toNat_get_ofValues ControlSequence.fieldValue_lt]
    exact fieldValue_ne_zero .kp
  rw [position] at listed
  exact listed.resolve_left (by decide)

section Example

attribute [local instance] rangeNumbers

/-- Just below the limits, and three cells below that of the torque. -/
def almostFull : List (Callback ℚ 1) :=
  [.prepareCommandModeSwitch ["left/position"] [],
    .setCommand leftJoint { pos := mkRat 40959 4096, vel := mkRat 2559 256
                            torque := mkRat 10225 1024, kp := mkRat 5119 512, kd := mkRat 5119 512 }]

/-- The cycle takes the motor out of motor control mode. -/
theorem frames_mistaken_iff_left : ∃ start component after : ManagedInterface ℚ 1,
    onInit true rangedMotor = .success start ∧
      runSteps (operate interfaceNames) start almostFull = some component ∧
      operate interfaceNames component (.write [true] []) = some after ∧
      ∃ frame ∈ acceptedFrames (eventsSince component after),
        frame.data = ControlSequence.exitMotorControlMode.payload := by
  obtain ⟨start, init, unique, ranged, bottom, ran, cells, sent⟩ : ∃ start : ManagedInterface ℚ 1,
      onInit true rangedMotor = .success start ∧ start.jointNames.toList.Nodup ∧
        (∀ joint field, lower (start.hwJointConfigs.get joint) field <
          upper (start.hwJointConfigs.get joint) field) ∧
        (∀ joint, (start.hwJointConfigs.get joint).kpMin = 0) ∧
        (runSteps (operate interfaceNames) start (almostFull ++ [.write [true] []])).isSome ∧
        (∀ component ∈ runSteps (operate interfaceNames) start almostFull,
          ∀ joint, ∀ field ∈ fieldOrder .v2, InCell .exitMotorControlMode
            (start.hwJointConfigs.get joint) field (clampedValue (component.cmd joint)
              (start.hwJointConfigs.get joint) (component.hwControlLevel.get joint) field)) ∧
        ∀ component ∈ runSteps (operate interfaceNames) start almostFull,
          ∀ after ∈ operate interfaceNames component (.write [true] []),
            (acceptedFrames (eventsSince component after)).length = 1 := by
    refine ⟨_, rfl, by decide +kernel, fun joint field => ?_, by decide +kernel, by decide +kernel,
      by decide +kernel, by decide +kernel⟩
    obtain rfl : joint = 0 := Subsingleton.elim joint 0
    cases field <;> decide +kernel
  obtain ⟨after, ended⟩ := Option.isSome_iff_exists.mp ran
  obtain ⟨component, run, last⟩ := runSteps_append.mp ended
  obtain ⟨_, written, same⟩ := runSteps_cons.mp last
  cases same
  obtain ⟨frame, only⟩ := List.length_eq_one_iff.mp (sent component run after written)
  have accepted : frame ∈ acceptedFrames (eventsSince component after) := by
    rw [only]
    exact List.mem_singleton_self frame
  obtain ⟨joint, _, mistaken⟩ :=
    frames_mistaken_iff init unique ranged bottom run written frame accepted
  have exit := (mistaken .exitMotorControlMode).1.mpr fun field =>
    cells component run joint field (mem_fieldOrder .v2 field)
  exact ⟨start, component, after, init, run, written, frame, accepted, exit⟩

end Example

end CubemarsDriver.Plugin

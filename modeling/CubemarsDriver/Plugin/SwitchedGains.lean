import CubemarsDriver.Plugin.DecodedCommand
import CubemarsDriver.Plugin.ModePriority
import CubemarsDriver.Plugin.ReplyLag

namespace CubemarsDriver.Plugin

open Can Foundation

/-! # Which switch a motor's gains come from

`pack_cmd` takes the gains of a joint only in the modes that use them, and the modes are those of
the last switch that was accepted, whatever has come after it. -/

variable {count : Nat}

section Modes

variable {K : Type} [Scalar K] [StdNumbers K] {names : InterfaceNames}
variable {start component next final : ManagedInterface K count} {callback : Callback K count}
variable {callbacks : List (Callback K count)} {switches : List (List String)}

/-- The start interfaces of a switch that is accepted. -/
def acceptedSwitch (names : InterfaceNames) (component : ManagedInterface K count) :
    Callback K count → Option (List String)
  | .prepareCommandModeSwitch startInterfaces stopInterfaces =>
      if (prepareCommandModeSwitch names startInterfaces stopInterfaces
        component.toCubemarsHardwareInterface).1 = .ok then some startInterfaces else none
  | _ => none

def acceptedSwitches (names : InterfaceNames) (start : ManagedInterface K count)
    (callbacks : List (Callback K count)) : List (List String) :=
  eventsAlong (operate names) (acceptedSwitch names) start callbacks

/-- The start interfaces of the last switch, if there has been one. -/
def lastStarted (switches : List (List String)) : List String := switches.getLast?.getD []

/-- The modes are those that the last switch gives. -/
def FollowsSwitches (names : InterfaceNames) (component : ManagedInterface K count)
    (switches : List (List String)) : Prop :=
  startModes names component.jointNames (lastStarted switches) (.replicate count .undefined) =
    some component.hwControlLevel

omit [StdNumbers K] in
/-- A switch gives all joints new modes, or it is refused and gives none. -/
theorem switch_modes (startInterfaces stopInterfaces : List String)
    (plugin : CubemarsHardwareInterface K count) :
    let switched := prepareCommandModeSwitch names startInterfaces stopInterfaces plugin
    (switched.1 = .error ∧ switched.2.hwControlLevel = plugin.hwControlLevel) ∨
      (switched.1 = .ok ∧ startModes names plugin.jointNames startInterfaces
        (.replicate count .undefined) = some switched.2.hwControlLevel) := by
  cases started : startModes names plugin.jointNames startInterfaces
      (Vector.replicate count .undefined) with
  | none => exact .inl (by simp [prepareCommandModeSwitch, started])
  | some newModes => exact .inr (by simp [prepareCommandModeSwitch, started])

theorem FollowsSwitches.step (follows : FollowsSwitches names component switches)
    (ran : operate names component callback = some next) :
    FollowsSwitches names next (switches ++ (acceptedSwitch names component callback).toList) := by
  have keeps := (operate_run ran).2
  have jointNames : next.jointNames = component.jointNames := keeps.jointNames
  have unchanged (silent : acceptedSwitch names component callback = none)
      (modes : next.hwControlLevel = component.hwControlLevel) :
      FollowsSwitches names next (switches ++ (acceptedSwitch names component callback).toList) := by
    rw [silent, Option.toList_none, List.append_nil, FollowsSwitches, jointNames, modes]
    exact follows
  cases callback with
  | prepareCommandModeSwitch startInterfaces stopInterfaces =>
      have modes : next.hwControlLevel = (prepareCommandModeSwitch names startInterfaces stopInterfaces
          component.toCubemarsHardwareInterface).2.hwControlLevel := by
        unfold operate at ran
        split at ran
        · cases ran
        · cases ran
          rfl
      rcases switch_modes startInterfaces stopInterfaces component.toCubemarsHardwareInterface with
        ⟨refused, same⟩ | ⟨ok, started⟩
      · apply unchanged _ (modes.trans same)
        rw [acceptedSwitch, refused]
        rfl
      · have accepted : acceptedSwitch names component
            (.prepareCommandModeSwitch startInterfaces stopInterfaces) = some startInterfaces := by
          rw [acceptedSwitch, if_pos ok]
        rw [accepted, FollowsSwitches, jointNames, lastStarted, Option.toList_some,
          List.getLast?_concat, Option.getD_some, started, modes]
  | _ => exact unchanged rfl (keeps.hwControlLevel fun _ _ same => by cases same)

/-- After every run of an initialised plugin the modes are those of the last accepted switch. -/
theorem follows_switches {initialised : Bool} {info : HardwareInfo count}
    (init : onInit initialised info = .success start)
    (run : runSteps (operate names) start callbacks = some final) :
    FollowsSwitches names final (acceptedSwitches names start callbacks) := by
  have initial : FollowsSwitches names start [] := by
    have undefined : start.hwControlLevel = .replicate count .undefined := by
      simp only [onInit] at init
      split_ifs at init
      cases init
      rfl
    rw [FollowsSwitches, undefined]
    rfl
  have kept : FollowsSwitches names final ([] ++ acceptedSwitches names start callbacks) := by
    apply invariant_of_events _ initial everyStep_true run
    exact fun _ _ _ _ follows _ ran => FollowsSwitches.step follows ran
  rwa [List.nil_append] at kept

omit [Scalar K] [StdNumbers K] in
/-- A joint's mode is the highest one that the last accepted switch lists for it. -/
theorem mode_of_last_switch (follows : FollowsSwitches names component switches)
    (unique : component.jointNames.toList.Nodup) (joint : Fin count) :
    IsGreatest (insert .undefined
        (ListedModes names (lastStarted switches) (component.jointNames.get joint)))
      (component.hwControlLevel.get joint) := by
  have greatest := startModes_greatest unique undefined_sound follows joint
  rwa [get_undefined joint] at greatest

theorem run_setup (run : runSteps (operate names) start callbacks = some final) :
    final.jointNames = start.jointNames ∧ final.hwJointConfigs = start.hwJointConfigs := by
  induction callbacks generalizing start with
  | nil =>
      cases run
      exact ⟨rfl, rfl⟩
  | cons callback rest ih =>
      obtain ⟨next, taken, remaining⟩ := runSteps_cons.mp run
      have keeps := (operate_run taken).2
      obtain ⟨jointNames, configs⟩ := ih remaining
      exact ⟨jointNames.trans keeps.jointNames, configs.trans keeps.hwJointConfigs⟩

theorem mem_of_accepted {frames : List CanFrame} {writes : List Bool} {frame : CanFrame}
    (accepted : frame ∈ acceptedFrames (sentEvents frames writes)) : frame ∈ frames := by
  induction frames generalizing writes with
  | nil => cases accepted
  | cons first rest ih =>
      rw [sentEvents] at accepted
      split at accepted
      · rw [acceptedFrames_cons_wrote] at accepted
        rcases List.mem_cons.mp accepted with rfl | later
        · exact List.mem_cons_self
        · exact List.mem_cons_of_mem first (ih later)
      · cases accepted

/-- A cycle puts nothing but the joints' commands on the bus. -/
theorem accepted_of_cycle {writes : List Bool} {reads : List ReadResult} {frame : CanFrame}
    (written : operate names component (.write writes reads) = some next)
    (accepted : frame ∈ acceptedFrames (eventsSince component next)) :
    ∃ joint, frame = commandFrame component.toConnectedInterface joint := by
  rw [eventsSince_of_traffic (operate_run written).1, events_of_transfers] at accepted
  simp only [callbackEvents, cycleEvents, acceptedFrames_append, List.mem_append] at accepted
  rcases accepted with sent | heard
  · obtain ⟨joint, _, rfl⟩ := List.mem_map.mp (mem_of_accepted sent)
    exact ⟨joint, rfl⟩
  · split at heard
    · rw [readEvents_heard_le.2] at heard
      cases heard
    · cases heard

end Modes

section Gains

variable {cmd : JointCmd ℚ} {config : JointConfig ℚ} {mode : JointMode}

/-- A field whose range starts at zero carries nothing if it is meant to carry zero. -/
theorem commandLevel_zero {field : CommandField} (range : 0 < upper config field)
    (bottom : lower config field = 0) (unused : clampedValue cmd config mode field =
      min (max (lower config field) 0) (upper config field)) :
    commandLevel cmd config mode field = 0 := by
  have zero : clampedValue cmd config mode field = 0 := by
    rw [unused, bottom, max_self, min_eq_left range.le]
  rw [commandLevel, zero, bottom]
  simp [Foundation.Quantizer.level]

/-- A proportional gain is given to a joint under position control. -/
theorem received_kp (ranged : ∀ field, lower config field < upper config field)
    (bottom : config.kpMin = 0)
    (given : ((unpackCommandV2 (packCmd cmd config mode).data).get .kp).toNat ≠ 0) :
    mode = .position := by
  by_contra other
  have low : lower config .kp = 0 := bottom
  have none : commandLevel cmd config mode .kp = 0 := by
    apply commandLevel_zero (low ▸ ranged .kp) low
    simp only [clampedValue, if_neg other]
  apply given
  rw [received_levels ranged]
  show commandLevel cmd config mode .kp % 4096 = 0
  rw [none]

/-- A derivative gain is given under position or velocity control, or by the torque's last integer. -/
theorem received_kd (ranged : ∀ field, lower config field < upper config field)
    (bottom : config.kdMin = 0)
    (given : ((unpackCommandV2 (packCmd cmd config mode).data).get .kd).toNat ≠ 0) :
    mode = .position ∨ mode = .velocity ∨ AtLimit cmd config mode .effort := by
  by_contra unused
  rw [← or_assoc, not_or] at unused
  obtain ⟨other, inside⟩ := unused
  have low : lower config .kd = 0 := bottom
  have none : commandLevel cmd config mode .kd = 0 := by
    apply commandLevel_zero (low ▸ ranged .kd) low
    simp only [clampedValue, if_neg other]
  have spill : commandLevel cmd config mode .effort / 4096 = 0 := by
    have divided := commandLevel_div cmd mode ranged .effort
    rwa [if_neg inside] at divided
  apply given
  rw [received_levels ranged]
  show spillInto (commandLevel cmd config mode .kd % 4096)
    (commandLevel cmd config mode .effort / 4096) = 0
  rw [none, spill]
  rfl

/-- The modes that the last accepted switch of a run lists for the joint. -/
def startedModes [StdNumbers ℚ] (names : InterfaceNames) (start : ManagedInterface ℚ count)
    (callbacks : List (Callback ℚ count)) (joint : Fin count) : Set JointMode :=
  ListedModes names (lastStarted (acceptedSwitches names start callbacks))
    (start.jointNames.get joint)

section Run

variable [StdNumbers ℚ] {names : InterfaceNames} {initialised : Bool} {info : HardwareInfo count}
variable {start component after : ManagedInterface ℚ count} {callbacks : List (Callback ℚ count)}
variable {writes : List Bool} {reads : List ReadResult}

/-- A frame of the cycle is the command of a joint, in the mode that the last switch lists for it. -/
theorem command_of_run {frame : CanFrame} (init : onInit initialised info = .success start)
    (unique : start.jointNames.toList.Nodup)
    (run : runSteps (operate names) start callbacks = some component)
    (written : operate names component (.write writes reads) = some after)
    (accepted : frame ∈ acceptedFrames (eventsSince component after)) : ∃ joint : Fin count,
      frame = commandFrame component.toConnectedInterface joint ∧
        frame = packCmd (component.cmd joint) (start.hwJointConfigs.get joint)
          (component.hwControlLevel.get joint) ∧
        (component.hwControlLevel.get joint = .undefined ∨
          component.hwControlLevel.get joint ∈ startedModes names start callbacks joint) := by
  obtain ⟨joint, own⟩ := accepted_of_cycle written accepted
  obtain ⟨jointNames, configs⟩ := run_setup run
  have greatest := mode_of_last_switch (follows_switches init run) (jointNames ▸ unique) joint
  rw [jointNames] at greatest
  refine ⟨joint, own, ?_, greatest.1⟩
  rw [own, commandFrame, configs]

/-- Whatever the commands are, a motor whose lowest gains are zero reads a proportional gain out of
a frame of the cycle only if the last accepted switch has started its joint's position interface,
and a derivative gain only if it has started the position or the velocity interface, or if the
torque is at its upper limit. -/
theorem gains_switched (init : onInit initialised info = .success start)
    (unique : start.jointNames.toList.Nodup)
    (ranged : ∀ joint field, lower (start.hwJointConfigs.get joint) field <
      upper (start.hwJointConfigs.get joint) field)
    (bottom : ∀ joint, (start.hwJointConfigs.get joint).kpMin = 0 ∧
      (start.hwJointConfigs.get joint).kdMin = 0)
    (run : runSteps (operate names) start callbacks = some component)
    (written : operate names component (.write writes reads) = some after) :
    ∀ frame ∈ acceptedFrames (eventsSince component after), ∃ joint : Fin count,
      frame = commandFrame component.toConnectedInterface joint ∧
        (((unpackCommandV2 frame.data).get .kp).toNat ≠ 0 →
          .position ∈ startedModes names start callbacks joint) ∧
        (((unpackCommandV2 frame.data).get .kd).toNat ≠ 0 →
          .position ∈ startedModes names start callbacks joint ∨
            .velocity ∈ startedModes names start callbacks joint ∨
            AtLimit (component.cmd joint) (start.hwJointConfigs.get joint)
              (component.hwControlLevel.get joint) .effort) := by
  intro frame accepted
  obtain ⟨joint, own, packed, listed⟩ := command_of_run init unique run written accepted
  have started (mode : JointMode) (current : component.hwControlLevel.get joint = mode)
      (used : mode ≠ .undefined) : mode ∈ startedModes names start callbacks joint := by
    rw [current] at listed
    exact listed.resolve_left used
  rw [packed]
  refine ⟨joint, packed.symm.trans own, fun given => ?_, fun given => ?_⟩
  · have position := received_kp (ranged joint) (bottom joint).1 given
    exact started .position position (by decide)
  · rcases received_kd (ranged joint) (bottom joint).2 given with position | velocity | limit
    · exact .inl (started .position position (by decide))
    · exact .inr (.inl (started .velocity velocity (by decide)))
    · exact .inr (.inr limit)

end Run

end Gains

section Example

/-- Numbers as they stand in the example's description. -/
@[reducible] def rangeNumbers : StdNumbers ℚ where
  stoi _ := some 1
  stod text := if text = "-10" then some (-10) else if text = "10" then some 10 else some 0
  quietNaN := 0

attribute [local instance] rangeNumbers

def rangedMotor : HardwareInfo 1 where
  hardwareParameters key := if key = "can_interface" then "can0" else ""
  joints := #v[{
    name := "left"
    parameters := fun key =>
      if key = "kp_min" ∨ key = "kd_min" then "0"
      else if key = "pos_min" ∨ key = "vel_min" ∨ key = "effort_min" then "-10"
      else "10"
    commandInterfaces := [] }]

def leftJoint : Fin 1 := 0

/-- A joint under position control is given to a torque controller, which gives it gains too. -/
def twoSwitches : List (Callback ℚ 1) :=
  [.prepareCommandModeSwitch ["left/position"] [], .prepareCommandModeSwitch ["left/effort"] [],
    .setCommand leftJoint { pos := 0, vel := 0, torque := 2, kp := 5, kd := 1 }]

/-- Under torque control the proportional gain of the command does not reach the motor. -/
theorem gains_switched_left : ∃ start component after : ManagedInterface ℚ 1,
    onInit true rangedMotor = .success start ∧
      runSteps (operate interfaceNames) start twoSwitches = some component ∧
      operate interfaceNames component (.write [true] []) = some after ∧
      acceptedSwitches interfaceNames start twoSwitches = [["left/position"], ["left/effort"]] ∧
      ∀ frame ∈ acceptedFrames (eventsSince component after),
        ((unpackCommandV2 frame.data).get .kp).toNat = 0 := by
  obtain ⟨start, init, unique, ranged, bottom, switches, ran⟩ : ∃ start : ManagedInterface ℚ 1,
      onInit true rangedMotor = .success start ∧ start.jointNames.toList.Nodup ∧
        (∀ joint field, lower (start.hwJointConfigs.get joint) field <
          upper (start.hwJointConfigs.get joint) field) ∧
        (∀ joint, (start.hwJointConfigs.get joint).kpMin = 0 ∧
          (start.hwJointConfigs.get joint).kdMin = 0) ∧
        acceptedSwitches interfaceNames start twoSwitches = [["left/position"], ["left/effort"]] ∧
        (runSteps (operate interfaceNames) start (twoSwitches ++ [.write [true] []])).isSome := by
    refine ⟨_, rfl, by decide +kernel, fun joint field => ?_, by decide +kernel, by decide +kernel,
      by decide +kernel⟩
    obtain rfl : joint = 0 := Subsingleton.elim joint 0
    cases field <;> decide +kernel
  obtain ⟨after, ended⟩ := Option.isSome_iff_exists.mp ran
  obtain ⟨component, run, last⟩ := runSteps_append.mp ended
  obtain ⟨_, written, same⟩ := runSteps_cons.mp last
  cases same
  refine ⟨start, component, after, init, run, written, switches, fun frame accepted => ?_⟩
  obtain ⟨joint, _, kp, _⟩ := gains_switched init unique ranged bottom run written frame accepted
  by_contra given
  obtain ⟨key, member, _, provided⟩ := kp given
  rw [switches] at member
  obtain rfl := List.mem_singleton.mp member
  cases provided with
  | position started => exact absurd started (by decide +kernel)

end Example

end CubemarsDriver.Plugin

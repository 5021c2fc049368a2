import CubemarsDriver.Plugin.ModeSwitch

namespace CubemarsDriver.Plugin

/-! # What stopping an interface does to the commands

A stopped interface is looked for by substring, while a started one is looked up by
the part of its key before the slash. -/

variable {K : Type} {count : Nat}

@[ext]
structure JointCommands (K : Type) where
  position : K
  velocity : K
  effort : K
deriving DecidableEq

namespace CubemarsHardwareInterface

def commands (plugin : CubemarsHardwareInterface K count) (joint : Fin count) :
    JointCommands K where
  position := plugin.hwCommandsPosition.get joint
  velocity := plugin.hwCommandsVelocity.get joint
  effort := plugin.hwCommandsEffort.get joint

/-- The commands that hold the joint where it was measured. -/
def resetCommands [Scalar K] (plugin : CubemarsHardwareInterface K count) (joint : Fin count) :
    JointCommands K where
  position := plugin.hwStatesPosition.get joint
  velocity := Scalar.zero
  effort := Scalar.zero

end CubemarsHardwareInterface

/-- Some key has the name before its slash. -/
def Named (keys : List String) (name : String) : Prop := ∃ key ∈ keys, keyName key = name

/-- Some key has the name anywhere. -/
def Mentioned (keys : List String) (name : String) : Prop :=
  ∃ key ∈ keys, name.toList <:+: key.toList

instance instDecidableNamed (keys : List String) (name : String) : Decidable (Named keys name) :=
  inferInstanceAs (Decidable (∃ key ∈ keys, keyName key = name))

instance instDecidableMentioned (keys : List String) (name : String) :
    Decidable (Mentioned keys name) :=
  inferInstanceAs (Decidable (∃ key ∈ keys, name.toList <:+: key.toList))

theorem keyName_infix (key : String) : (keyName key).toList <:+: key.toList := by
  rw [keyName, String.toList_ofList]
  exact (List.takeWhile_prefix _).isInfix

theorem Named.mentioned {keys : List String} {name : String} (named : Named keys name) :
    Mentioned keys name := by
  obtain ⟨key, member, rfl⟩ := named
  exact ⟨key, member, keyName_infix key⟩

theorem mentioned_cons {key name : String} {keys : List String} :
    Mentioned (key :: keys) name ↔ name.toList <:+: key.toList ∨ Mentioned keys name := by
  simp [Mentioned]

section

variable [Scalar K] (plugin : CubemarsHardwareInterface K count)

@[simp] theorem stopInterface_jointNames (key : String) :
    (stopInterface plugin key).jointNames = plugin.jointNames := rfl

@[simp] theorem stopInterface_resetCommands (key : String) (joint : Fin count) :
    (stopInterface plugin key).resetCommands joint = plugin.resetCommands joint := rfl

theorem stopInterface_commands (key : String) (joint : Fin count) :
    (stopInterface plugin key).commands joint =
      if (plugin.jointNames.get joint).toList <:+: key.toList then plugin.resetCommands joint
      else plugin.commands joint := by
  have built {α : Type} (value : Fin count → α) : (Vector.ofFn value).get joint = value joint :=
    Vector.getElem_ofFn joint.isLt
  by_cases mentioned : (plugin.jointNames.get joint).toList <:+: key.toList
  · have stopped : decide (plugin.jointNames[joint].toList <:+: key.toList) = true :=
      decide_eq_true mentioned
    simp only [CubemarsHardwareInterface.commands, stopInterface, built, stopped, if_pos mentioned,
      if_true]
    rfl
  · have goesOn : decide (plugin.jointNames[joint].toList <:+: key.toList) = false :=
      decide_eq_false mentioned
    simp only [CubemarsHardwareInterface.commands, stopInterface, built, goesOn, if_neg mentioned,
      Bool.false_eq_true, if_false]
    rfl

theorem stopInterfaces_commands (keys : List String) (joint : Fin count) :
    (keys.foldl stopInterface plugin).commands joint =
      if Mentioned keys (plugin.jointNames.get joint) then plugin.resetCommands joint
      else plugin.commands joint := by
  induction keys generalizing plugin with
  | nil => simp [Mentioned]
  | cons key rest ih =>
      simp only [List.foldl_cons, ih, stopInterface_jointNames, stopInterface_resetCommands,
        stopInterface_commands, mentioned_cons]
      by_cases here : (plugin.jointNames.get joint).toList <:+: key.toList
      · simp [here]
      · simp [here]

end

variable [Scalar K] {names : InterfaceNames} {startInterfaces stopInterfaces : List String}
variable {plugin switched : CubemarsHardwareInterface K count}

/-- The joints that a stop key names are reset, and no others. -/
def StopsNamed (stopInterfaces : List String) (plugin switched : CubemarsHardwareInterface K count) :
    Prop :=
  ∀ joint : Fin count,
    (Named stopInterfaces (plugin.jointNames.get joint) →
      switched.commands joint = plugin.resetCommands joint) ∧
    (¬Named stopInterfaces (plugin.jointNames.get joint) →
      switched.commands joint = plugin.commands joint)

theorem commands_of_switch
    (ok : prepareCommandModeSwitch names startInterfaces stopInterfaces plugin = (.ok, switched))
    (joint : Fin count) :
    switched.commands joint =
      if Mentioned stopInterfaces (plugin.jointNames.get joint) then plugin.resetCommands joint
      else plugin.commands joint := by
  unfold prepareCommandModeSwitch at ok
  cases started : startModes names plugin.jointNames startInterfaces
      (Vector.replicate count .undefined) with
  | none => simp [started] at ok
  | some newModes =>
      simp only [started, Prod.mk.injEq, true_and] at ok
      rw [← ok]
      exact stopInterfaces_commands plugin stopInterfaces joint

/-- A switch resets exactly the joints that are named as long as every joint whose name
occurs inside a stop key is named by one, or stands at its reset commands already. -/
theorem stops_named_iff
    (ok : prepareCommandModeSwitch names startInterfaces stopInterfaces plugin = (.ok, switched)) :
    StopsNamed stopInterfaces plugin switched ↔
      ∀ joint : Fin count,
        Mentioned stopInterfaces (plugin.jointNames.get joint) →
          Named stopInterfaces (plugin.jointNames.get joint) ∨
            plugin.commands joint = plugin.resetCommands joint := by
  constructor
  · intro law joint mentioned
    by_cases named : Named stopInterfaces (plugin.jointNames.get joint)
    · exact .inl named
    · have kept := (law joint).2 named
      rw [commands_of_switch ok joint, if_pos mentioned] at kept
      exact .inr kept.symm
  · intro condition joint
    rw [commands_of_switch ok joint]
    constructor
    · intro named
      rw [if_pos named.mentioned]
    · intro unnamed
      split
      next mentioned => exact ((condition joint mentioned).resolve_left unnamed).symm
      next missing => rfl

section Example

/-- Two joints that are driven; the name of one begins with the name of the other. -/
def armAndWrist : CubemarsHardwareInterface ℚ 2 where
  jointNames := #v["arm", "arm2"]
  hwCommandsPosition := .replicate 2 2
  hwCommandsVelocity := .replicate 2 1
  hwCommandsEffort := .replicate 2 0
  hwStatesPosition := .replicate 2 1
  hwControlLevel := .replicate 2 .position

def stoppedArm (key : String) : ReturnType × CubemarsHardwareInterface ℚ 2 :=
  prepareCommandModeSwitch interfaceNames [] [key] armAndWrist

/-- The name of the second joint does not occur in the key of the first. -/
theorem stops_named_iff_arm : (stoppedArm "arm/position").1 = .ok ∧
    StopsNamed ["arm/position"] armAndWrist (stoppedArm "arm/position").2 := by
  have ok : (stoppedArm "arm/position").1 = .ok := by decide +kernel
  refine ⟨ok, (stops_named_iff (Prod.ext ok rfl : stoppedArm "arm/position" = (.ok, _))).mpr ?_⟩
  decide +kernel

/-- Stopping the second joint resets the first one too. -/
theorem arm_reset_with_arm2 :
    (stoppedArm "arm2/position").1 = .ok ∧
      ¬StopsNamed ["arm2/position"] armAndWrist (stoppedArm "arm2/position").2 := by
  constructor
  · decide +kernel
  · intro law
    have kept := (law 0).2 (by decide +kernel)
    exact absurd kept (by decide +kernel)

end Example

end CubemarsDriver.Plugin

import CubemarsDriver.Com
import Mathlib.Data.List.Infix
import Mathlib.Data.String.Basic

namespace CubemarsDriver.Plugin

/-! # `prepare_command_mode_switch` of the ros2_control plugin

The modes of all joints are computed anew from the interfaces that are started,
so a joint that takes no part in a switch is left without a mode. -/

/-- The names `hardware_interface` gives to the command interfaces. -/
structure InterfaceNames where
  position : String
  velocity : String
  effort : String
  proportionalGain : String
  derivativeGain : String

inductive ReturnType where
  | ok
  | error
deriving DecidableEq, Repr

/-- What a switch reads and writes; `on_init` gives every joint one entry of each vector. -/
structure CubemarsHardwareInterface (K : Type) (count : Nat) where
  jointNames : Vector String count
  hwCommandsPosition : Vector K count
  hwCommandsVelocity : Vector K count
  hwCommandsEffort : Vector K count
  hwStatesPosition : Vector K count
  hwControlLevel : Vector JointMode count

variable {K : Type} {count : Nat}

/-- `key.substr(0, key.find("/"))`. -/
def keyName (key : String) : String := String.ofList (key.toList.takeWhile (· ≠ '/'))

/-- `key.substr(key.find("/") + 1)`, which is the whole key if it has no slash. -/
def keyMode (key : String) : String :=
  if '/' ∈ key.toList then String.ofList (key.toList.dropWhile (· ≠ '/')).tail else key

def interfaceKey (joint mode : String) : String := joint ++ "/" ++ mode

theorem takeWhile_ne_of_notMem {mark : Char} {text : List Char} (absent : mark ∉ text) :
    text.takeWhile (· ≠ mark) = text := by
  induction text with
  | nil => rfl
  | cons head rest ih =>
      simp only [List.mem_cons, not_or] at absent
      rw [List.takeWhile_cons_of_pos (by simpa using Ne.symm absent.1), ih absent.2]

theorem split_at_mark {mark : Char} {text : List Char} (present : mark ∈ text) :
    text.takeWhile (· ≠ mark) ++ mark :: (text.dropWhile (· ≠ mark)).tail = text := by
  induction text with
  | nil => simp at present
  | cons head rest ih =>
      by_cases same : head = mark
      · simp [same]
      · have later : mark ∈ rest := (List.mem_cons.mp present).resolve_left (Ne.symm same)
        simpa [same] using ih later

theorem keyName_bare {key : String} (bare : '/' ∉ key.toList) : keyName key = key := by
  rw [keyName, takeWhile_ne_of_notMem bare, String.ofList_toList]

theorem keyMode_bare {key : String} (bare : '/' ∉ key.toList) : keyMode key = key := if_neg bare

/-- A key with a slash is put together again from its parts. -/
theorem interfaceKey_parts {key : String} (slash : '/' ∈ key.toList) :
    interfaceKey (keyName key) (keyMode key) = key := by
  apply String.toList_inj.mp
  rw [interfaceKey, keyName, keyMode, if_pos slash]
  simpa using split_at_mark slash

/-- The mode a joint has after one of its interfaces is started; `none` if there
is no interface of that name. -/
def startMode (names : InterfaceNames) (mode : String) (current : JointMode) : Option JointMode :=
  if mode = names.position then some .position
  else if mode = names.velocity then some (if current ≠ .position then .velocity else current)
  else if mode = names.effort then some (if current = .undefined then .effort else current)
  else if mode = names.proportionalGain ∨ mode = names.derivativeGain then some current
  else none

/-- The first joint with the name. -/
def findJoint (jointNames : Vector String count) (name : String) : Option (Fin count) :=
  (List.finRange count).find? fun joint => jointNames[joint] = name

/-- Joints of other hardware interfaces are skipped. -/
def startModes (names : InterfaceNames) (jointNames : Vector String count) :
    List String → Vector JointMode count → Option (Vector JointMode count)
  | [], modes => some modes
  | key :: rest, modes =>
      match findJoint jointNames (keyName key) with
      | none => startModes names jointNames rest modes
      | some joint =>
          match startMode names (keyMode key) modes[joint] with
          | none => none
          | some mode => startModes names jointNames rest (modes.set joint mode)

/-- The commands of every joint whose name occurs anywhere in the key are reset. -/
def stopInterface [Scalar K] (plugin : CubemarsHardwareInterface K count) (key : String) :
    CubemarsHardwareInterface K count :=
  let stopped (joint : Fin count) : Bool := plugin.jointNames[joint].toList <:+: key.toList
  { plugin with
    hwCommandsPosition := Vector.ofFn fun joint =>
      if stopped joint then plugin.hwStatesPosition[joint] else plugin.hwCommandsPosition[joint]
    hwCommandsVelocity := Vector.ofFn fun joint =>
      if stopped joint then Scalar.zero else plugin.hwCommandsVelocity[joint]
    hwCommandsEffort := Vector.ofFn fun joint =>
      if stopped joint then Scalar.zero else plugin.hwCommandsEffort[joint] }

def prepareCommandModeSwitch [Scalar K] (names : InterfaceNames)
    (startInterfaces stopInterfaces : List String) (plugin : CubemarsHardwareInterface K count) :
    ReturnType × CubemarsHardwareInterface K count :=
  match startModes names plugin.jointNames startInterfaces (Vector.replicate count .undefined) with
  | none => (.error, plugin)
  | some newModes =>
      (.ok, { stopInterfaces.foldl stopInterface plugin with hwControlLevel := newModes })

def InterfaceNames.all (names : InterfaceNames) : List String :=
  [names.position, names.velocity, names.effort, names.proportionalGain, names.derivativeGain]

/-- No interface key of the joint is among the keys. -/
def Untouched (names : InterfaceNames) (jointName : String) (keys : List String) : Prop :=
  ∀ mode ∈ names.all, interfaceKey jointName mode ∉ keys

instance (names : InterfaceNames) (jointName : String) (keys : List String) :
    Decidable (Untouched names jointName keys) := by
  unfold Untouched
  infer_instance

/-- A key without a slash is taken for the name of a joint and of an interface at once. -/
def BareKey (jointNames : Vector String count) (keys : List String) (joint : Fin count) : Prop :=
  jointNames[joint] ∈ keys ∧ '/' ∉ jointNames[joint].toList ∧
    findJoint jointNames jointNames[joint] = some joint

instance (jointNames : Vector String count) (keys : List String) (joint : Fin count) :
    Decidable (BareKey jointNames keys joint) := inferInstanceAs (Decidable (_ ∧ _ ∧ _))

/-- The mode such keys give to a joint in a given mode. -/
def bareMode (names : InterfaceNames) (jointNames : Vector String count) (keys : List String)
    (joint : Fin count) (current : JointMode) : JointMode :=
  if BareKey jointNames keys joint then
    (startMode names jointNames[joint] current).getD current
  else current

variable {names : InterfaceNames} {jointNames : Vector String count}
variable {modes after : Vector JointMode count} {joint : Fin count} {key mode : String}

theorem findJoint_name {name : String} (found : findJoint jointNames name = some joint) :
    jointNames[joint] = name := by
  simpa using List.find?_some found

theorem startMode_known {current next : JointMode} (started : startMode names mode current = some next) :
    mode ∈ names.all := by
  unfold startMode at started
  simp only [InterfaceNames.all, List.mem_cons, List.not_mem_nil, or_false]
  split at started
  · exact .inl ‹_›
  split at started
  · exact .inr (.inl ‹_›)
  split at started
  · exact .inr (.inr (.inl ‹_›))
  split at started
  · exact .inr (.inr (.inr ‹_›))
  · cases started

/-- Starting an interface twice is starting it once. -/
theorem startMode_again {current next : JointMode} (started : startMode names mode current = some next) :
    startMode names mode next = some next := by
  unfold startMode at started ⊢
  split_ifs at started ⊢ <;> simp_all

theorem bareMode_cons_other {keys : List String} {current : JointMode}
    (other : findJoint jointNames (keyName key) ≠ some joint) :
    bareMode names jointNames (key :: keys) joint current =
      bareMode names jointNames keys joint current := by
  have same : BareKey jointNames (key :: keys) joint ↔ BareKey jointNames keys joint := by
    constructor
    · rintro ⟨member, bare, found⟩
      rcases List.mem_cons.mp member with rfl | later
      · rw [keyName_bare bare] at other
        exact absurd found other
      · exact ⟨later, bare, found⟩
    · rintro ⟨member, bare, found⟩
      exact ⟨List.mem_cons_of_mem key member, bare, found⟩
  simp only [bareMode, same]

theorem bareMode_again {keys : List String} {current next : JointMode}
    (started : startMode names jointNames[joint] current = some next) :
    bareMode names jointNames keys joint next = next := by
  rw [bareMode, startMode_again started, Option.getD_some, ite_self]

/-- A joint that a key of the list names is not one that takes no part, unless the key is bare. -/
theorem bare_of_untouched {keys : List String} {current next : JointMode}
    (untouched : Untouched names jointNames[joint] (key :: keys))
    (named : jointNames[joint] = keyName key)
    (started : startMode names (keyMode key) current = some next) : '/' ∉ key.toList := by
  intro slash
  apply untouched (keyMode key) (startMode_known started)
  rw [named, interfaceKey_parts slash]
  exact List.mem_cons_self

theorem startModes_untouched {keys : List String}
    (untouched : Untouched names jointNames[joint] keys)
    (started : startModes names jointNames keys modes = some after) :
    after[joint] = bareMode names jointNames keys joint modes[joint] := by
  induction keys generalizing modes with
  | nil =>
      cases started
      simp [bareMode, BareKey]
  | cons key rest ih =>
      have untouchedRest : Untouched names jointNames[joint] rest :=
        fun mode known member => untouched mode known (List.mem_cons_of_mem key member)
      rw [startModes] at started
      cases found : findJoint jointNames (keyName key) with
      | none =>
          rw [found] at started
          rw [ih untouchedRest started, bareMode_cons_other (by simp [found])]
      | some index =>
          rw [found] at started
          cases next : startMode names (keyMode key) modes[index] with
          | none => simp only [next, reduceCtorEq] at started
          | some mode =>
              simp only [next] at started
              have settled := ih untouchedRest started
              by_cases own : index = joint
              · subst own
                have bare := bare_of_untouched untouched (findJoint_name found) next
                have named : jointNames[index] = key :=
                  (findJoint_name found).trans (keyName_bare bare)
                rw [keyMode_bare bare, ← named] at next
                rw [keyName_bare bare] at found
                have isBare : BareKey jointNames (key :: rest) index :=
                  ⟨by rw [named]; exact List.mem_cons_self, by rwa [named], by rwa [named]⟩
                have set : (modes.set index mode)[index] = mode := Vector.getElem_set_self _
                rw [settled, set, bareMode_again next, bareMode, if_pos isBare, next,
                  Option.getD_some]
              · have unset : (modes.set index mode)[joint] = modes[joint] :=
                  Vector.getElem_set_ne _ _ fun same => own (Fin.ext same)
                rw [settled, unset, bareMode_cons_other (by simp [found, own])]

/-- What a switch that returns OK leaves a joint that takes no part in it. -/
theorem mode_of_untouched [Scalar K] {startInterfaces stopInterfaces : List String}
    {plugin switched : CubemarsHardwareInterface K count}
    (ok : prepareCommandModeSwitch names startInterfaces stopInterfaces plugin = (.ok, switched))
    (untouched : Untouched names plugin.jointNames[joint] (startInterfaces ++ stopInterfaces)) :
    switched.hwControlLevel[joint] =
      bareMode names plugin.jointNames startInterfaces joint .undefined := by
  unfold prepareCommandModeSwitch at ok
  cases started : startModes names plugin.jointNames startInterfaces
      (Vector.replicate count .undefined) with
  | none => simp [started] at ok
  | some newModes =>
      simp only [started, Prod.mk.injEq, true_and] at ok
      subst ok
      have untouchedStart : Untouched names plugin.jointNames[joint] startInterfaces :=
        fun mode known member => untouched mode known (List.mem_append_left _ member)
      have mode := startModes_untouched untouchedStart started
      simpa using mode

/-- A switch leaves the modes of all joints that take no part in it alone exactly
if they had no mode before (or, under a bare key, the mode it names). -/
theorem mode_switch_frame_iff [Scalar K] {startInterfaces stopInterfaces : List String}
    {plugin switched : CubemarsHardwareInterface K count}
    (ok : prepareCommandModeSwitch names startInterfaces stopInterfaces plugin = (.ok, switched)) :
    (∀ joint : Fin count,
      Untouched names plugin.jointNames[joint] (startInterfaces ++ stopInterfaces) →
        switched.hwControlLevel[joint] = plugin.hwControlLevel[joint]) ↔
    ∀ joint : Fin count,
      Untouched names plugin.jointNames[joint] (startInterfaces ++ stopInterfaces) →
        plugin.hwControlLevel[joint] =
          bareMode names plugin.jointNames startInterfaces joint .undefined := by
  constructor
  · intro unchanged joint untouched
    rw [← unchanged joint untouched, mode_of_untouched ok untouched]
  · intro condition joint untouched
    rw [mode_of_untouched ok untouched, condition joint untouched]

section Example

def interfaceNames : InterfaceNames where
  position := "position"
  velocity := "velocity"
  effort := "effort"
  proportionalGain := "proportional"
  derivativeGain := "derivative"

/-- Two joints under position control. -/
def twoJoints : CubemarsHardwareInterface ℚ 2 where
  jointNames := #v["left", "right"]
  hwCommandsPosition := #v[0, 0]
  hwCommandsVelocity := #v[0, 0]
  hwCommandsEffort := #v[0, 0]
  hwStatesPosition := #v[0, 0]
  hwControlLevel := #v[.position, .position]

def switchedTwoJoints : ReturnType × CubemarsHardwareInterface ℚ 2 :=
  prepareCommandModeSwitch interfaceNames ["right/velocity"] ["right/position"] twoJoints

theorem mode_switch_frame_iff_two :
    (∀ joint : Fin 2,
      Untouched interfaceNames twoJoints.jointNames[joint] ["right/velocity", "right/position"] →
        switchedTwoJoints.2.hwControlLevel[joint] = twoJoints.hwControlLevel[joint]) ↔
    ∀ joint : Fin 2,
      Untouched interfaceNames twoJoints.jointNames[joint] ["right/velocity", "right/position"] →
        twoJoints.hwControlLevel[joint] =
          bareMode interfaceNames twoJoints.jointNames ["right/velocity"] joint .undefined :=
  have ok : switchedTwoJoints = (.ok, switchedTwoJoints.2) := Prod.ext (by decide +kernel) rfl
  mode_switch_frame_iff ok

/-- The right joint is given to a velocity controller, and the left one has no mode any more. -/
theorem mode_of_left_joint_lost :
    switchedTwoJoints.1 = .ok ∧
      Untouched interfaceNames "left" ["right/velocity", "right/position"] ∧
      twoJoints.hwControlLevel[0] = .position ∧
      switchedTwoJoints.2.hwControlLevel[0] = .undefined := by
  decide +kernel

end Example

end CubemarsDriver.Plugin

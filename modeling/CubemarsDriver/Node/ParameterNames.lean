import CubemarsDriver.Node.SetParameters

namespace CubemarsDriver.Node

open Foundation Can

/-! # The names of the parameters of the joints

A configuration declares a name for every field of every joint, and a batch is parsed by
splitting such a name at the first dot behind its start. -/

/-- A field of a joint that a batch may change. -/
inductive RuntimeField where
  | velFilterType
  | velFilterSize
  | posMedianFilterSize
  | alpha
  | beta
  | tauC
  | tauS
  | vS
  | k
  | kA
  | b
  | posLimitMin
  | posLimitMax
deriving DecidableEq, Repr

namespace RuntimeField

def name : RuntimeField → String
  | velFilterType => "vel_filter_type"
  | velFilterSize => "vel_filter_size"
  | posMedianFilterSize => "pos_median_filter_size"
  | alpha => "alpha"
  | beta => "beta"
  | tauC => "tau_c"
  | tauS => "tau_s"
  | vS => "v_s"
  | k => "k"
  | kA => "k_a"
  | b => "b"
  | posLimitMin => "pos_limit_min"
  | posLimitMax => "pos_limit_max"

def all : List RuntimeField :=
  [velFilterType, velFilterSize, posMedianFilterSize, alpha, beta, tauC, tauS, vS, k, kA, b,
    posLimitMin, posLimitMax]

/-- The field with this name. -/
def named (name : String) : Option RuntimeField := all.find? fun field => field.name = name

theorem named_name (field : RuntimeField) : named field.name = some field := by
  cases field <;> decide

theorem named_eq_some {name : String} {field : RuntimeField} :
    named name = some field ↔ field.name = name := by
  constructor
  · intro found
    simpa using List.find?_some found
  · rintro rfl
    exact named_name field

theorem name_ne_empty (field : RuntimeField) : field.name.toList ≠ [] := by
  cases field <;> decide

end RuntimeField

section Splitting

variable {before after : List Char}

/-- The split at the first dot. -/
theorem takeWhile_dot (undotted : '.' ∉ before) :
    (before ++ '.' :: after).takeWhile (· ≠ '.') = before := by
  rw [List.takeWhile_append_of_pos fun char member => by simp [ne_of_mem_of_not_mem member undotted],
    List.takeWhile_cons_of_neg (by simp), List.append_nil]

theorem dropWhile_dot (undotted : '.' ∉ before) :
    (before ++ '.' :: after).dropWhile (· ≠ '.') = '.' :: after := by
  rw [List.dropWhile_append_of_pos fun char member => by simp [ne_of_mem_of_not_mem member undotted],
    List.dropWhile_cons_of_neg (by simp)]

theorem toList_dotted (start joint field : String) :
    (start ++ joint ++ "." ++ field).toList =
      start.toList ++ (joint.toList ++ '.' :: field.toList) := by
  simp only [String.toList_append, List.append_assoc]
  rfl

theorem toList_jointParameterName (joint field : String) :
    (jointParameterName joint field).toList =
      perJointStart ++ (joint.toList ++ '.' :: field.toList) := toList_dotted _ _ _

/-- What is parsed has come before the first dot. -/
theorem parsePerJointParam_undotted {name joint field : String}
    (parsed : parsePerJointParam name = some (joint, field)) :
    joint ≠ "" ∧ '.' ∉ joint.toList := by
  unfold parsePerJointParam at parsed
  split at parsed
  · dsimp only at parsed
    split at parsed
    · cases parsed
    · split at parsed
      · cases parsed
      · rename_i present
        rw [not_or] at present
        simp only [Option.some.injEq, Prod.mk.injEq] at parsed
        obtain ⟨rfl, _⟩ := parsed
        refine ⟨fun empty => present.1 ?_, fun dotted => ?_⟩
        · simpa using congrArg String.toList empty
        · rw [String.toList_ofList] at dotted
          have passed := List.all_eq_true.mp List.all_takeWhile _ dotted
          simp at passed
  · cases parsed

/-- A name that is parsed is the one declared for what has been read. -/
theorem parsePerJointParam_eq {name joint field : String}
    (parsed : parsePerJointParam name = some (joint, field)) : name = jointParameterName joint field := by
  unfold parsePerJointParam at parsed
  split at parsed
  · rename_i starts
    obtain ⟨rest, whole⟩ := List.isPrefixOf_iff_prefix.mp starts
    rw [← whole, List.drop_left] at parsed
    dsimp only at parsed
    split at parsed
    · cases parsed
    · rename_i char fieldChars behind
      split at parsed
      · cases parsed
      · simp only [Option.some.injEq, Prod.mk.injEq] at parsed
        obtain ⟨rfl, rfl⟩ := parsed
        have dot : char = '.' := by
          have failed := List.head?_dropWhile_not (p := (· ≠ '.')) rest
          rw [behind] at failed
          simpa using failed
        subst dot
        rw [← String.toList_inj, toList_jointParameterName, ← whole, String.toList_ofList,
          String.toList_ofList, ← behind, List.takeWhile_append_dropWhile]
  · cases parsed

/-- A declared name is parsed back into its joint and its field exactly if the joint has a
name without a dot. -/
theorem declared_name_parsed_iff (joint : String) (field : RuntimeField) :
    parsePerJointParam (jointParameterName joint field.name) = some (joint, field.name) ↔
      joint ≠ "" ∧ '.' ∉ joint.toList := by
  constructor
  · exact parsePerJointParam_undotted
  · rintro ⟨present, undotted⟩
    have nonempty : joint.toList ≠ [] := fun empty => present (String.toList_eq_nil_iff.mp empty)
    rw [parsePerJointParam, toList_jointParameterName, if_pos (by simp [List.isPrefixOf_iff_prefix]),
      List.drop_left]
    simp only [dropWhile_dot undotted, takeWhile_dot undotted, nonempty, field.name_ne_empty,
      or_self, if_false, String.ofList_toList]

end Splitting

section Example

/-- A joint whose name has a dot. -/
def dottedAssignment : Assignment ℚ := exampleAssignment ["left.hip"]
  (exampleDefinition "left.hip" 1 "AK80-6" [])

def dottedBatch : List (Parameter ℚ) :=
  [{ name := jointParameterName "left.hip" RuntimeField.k.name, value := .double 2 }]

/-- A configuration accepts the name, and no parameter of the joint can be set. -/
theorem dotted_name_is_split : ∃ node : Node ℚ,
    (onConfigure dottedAssignment legBus 0).run freshNode = (.returned .success, node) ∧
      dottedAssignment.getStringArray "joints" = .ok ["left.hip"] ∧
      parsePerJointParam (jointParameterName "left.hip" RuntimeField.k.name) =
        some ("left", "hip.k") ∧
      ((onSetParametersCallback asListed dottedBatch).run node).1 = .returned {
        successful := false
        reason := "joint_defintions.left.hip.k: unknown joint 'left'" } := by
  obtain ⟨node, run⟩ : ∃ node, (onConfigure dottedAssignment legBus 0).run freshNode =
      (.returned .success, node) := ⟨_, Prod.ext (by decide +kernel) rfl⟩
  refine ⟨node, run, by decide +kernel, by decide +kernel, ?_⟩
  obtain rfl := congrArg Prod.snd run
  decide +kernel

end Example

end CubemarsDriver.Node

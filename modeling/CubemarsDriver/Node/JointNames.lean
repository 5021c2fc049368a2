import CubemarsDriver.Node.LoadedCommands

namespace CubemarsDriver.Node

open Foundation Can

/-! # The names of the joints

`joint_name_to_can_iface_and_idx_` leads from each name to an entry of its own, as long as
no configuration begins with names that a failed one has left. -/

variable {K : Type} {node after : Node K} {index joint : Nat} {tables changed : JointTables K}

theorem lookup_assignKey {α : Type} {map : List (String × α)} {key other : String} {value : α} :
    (assignKey map key value).lookup other = if other = key then some value else map.lookup other := by
  have single : [(key, value)].lookup other = if other = key then some value else none := by
    rw [List.lookup_cons, List.lookup_nil]
    by_cases same : other = key
    · simp [same]
    · simp [same, beq_eq_false_iff_ne.mpr same]
  rw [assignKey]
  induction map with
  | nil => exact single
  | cons entry rest ih =>
      obtain ⟨name, found⟩ := entry
      by_cases replaced : name = key
      · rw [List.filter_cons_of_neg (by simpa using replaced), ih, List.lookup_cons, replaced]
        by_cases same : other = key
        · simp [same]
        · simp [same, beq_eq_false_iff_ne.mpr same]
      · rw [List.filter_cons_of_pos (by simpa using replaced), List.cons_append, List.lookup_cons, ih,
          List.lookup_cons]
        by_cases own : other = name
        · simp [own, replaced]
        · rw [beq_eq_false_iff_ne.mpr own]

/-- Each name leads to an entry of its own. -/
structure NamesApart (tables : JointTables K) : Prop where
  apart : ∀ first second position, tables.jointNameToCanIfaceAndIdx.lookup first = some position →
    tables.jointNameToCanIfaceAndIdx.lookup second = some position → first = second
  within : ∀ name position, tables.jointNameToCanIfaceAndIdx.lookup name = some position →
    (jointEntry tables.jointParametersPerCanInterface position.1 position.2).isSome = true

theorem NamesApart.of_empty (empty : tables.jointNameToCanIfaceAndIdx = []) : NamesApart tables := by
  constructor <;> simp [empty]

theorem NamesApart.of_entries (apart : NamesApart tables)
    (names : changed.jointNameToCanIfaceAndIdx = tables.jointNameToCanIfaceAndIdx)
    (entries : ∀ index joint,
      (jointEntry tables.jointParametersPerCanInterface index joint).isSome = true →
      (jointEntry changed.jointParametersPerCanInterface index joint).isSome = true) :
    NamesApart changed := by
  constructor
  · rw [names]
    exact apart.apart
  · rw [names]
    exact fun name position found => entries _ _ (apart.within name position found)

theorem NamesApart.retained (apart : NamesApart node.tables) (retains : Retains node after) :
    NamesApart after.tables := by
  rcases retains.tables with wiped | ⟨same, _⟩
  · rw [wiped.1]
    exact .of_empty rfl
  · rwa [same]

section Operations

variable [Scalar K]

/-- A joint that is appended takes a place that no name leads to. -/
theorem NamesApart.appendJoint {settings : JointSettings K} (apart : NamesApart tables)
    (appended : appendJoint settings tables = some changed) : NamesApart changed := by
  simp only [Node.appendJoint, Option.bind_eq_bind, Option.bind_eq_some_iff,
    Option.some.injEq] at appended
  obtain ⟨params, paramsPushed, _, _, _, _, _, _, _, _, _, _, _, _, rfl⟩ := appended
  obtain ⟨row, there, same⟩ := pushAt_eq_some.mp paramsPushed
  have bound : settings.canInterfaceId < tables.jointParametersPerCanInterface.length :=
    (List.getElem?_eq_some_iff.mp there).1
  have size : (params[settings.canInterfaceId]?.getD []).length - 1 = row.length := by
    rw [same, List.getElem?_set_self bound, Option.getD_some, List.length_append,
      List.length_singleton, Nat.add_sub_cancel]
  have vacant : jointEntry tables.jointParametersPerCanInterface settings.canInterfaceId row.length =
      none := by
    rw [jointEntry, there, Option.bind_some, List.getElem?_eq_none le_rfl]
  have untaken (name : String) : tables.jointNameToCanIfaceAndIdx.lookup name ≠
      some (settings.canInterfaceId, row.length) := by
    intro found
    have entry := apart.within name _ found
    rw [vacant] at entry
    cases entry
  constructor
  · intro first second position
    simp only [lookup_assignKey, size]
    split <;> split
    · intros
      simp_all
    · intro taken found
      cases taken
      exact absurd found (untaken second)
    · intro found taken
      cases taken
      exact absurd found (untaken first)
    · exact apart.apart first second position
  · intro name position
    simp only [lookup_assignKey, size]
    split
    · intro taken
      cases taken
      rw [jointEntry_pushAt paramsPushed, there]
      simp
    · intro found
      rw [jointEntry_pushAt paramsPushed]
      split
      · rfl
      · exact apart.within name position found

section Configuration

variable {assignment : Assignment K} {bus : Bus} {now : Int} {configs : JointConfigs K}

omit [Scalar K] in
theorem startMotors_tables : Path.Preserves Node.tables (startMotors configs) :=
  startMotors_stored.weaken fun _ _ same => congrArg Prod.fst same

/-- No name is left from an earlier configuration. -/
def Unnamed (node : Node K) : Prop := node.tables.jointNameToCanIfaceAndIdx = []

/-- The names of the node lead to entries of their own. -/
def Named (node : Node K) : Prop := NamesApart node.tables

omit [Scalar K] in
theorem stays_unnamed {α : Type} {path : NodePath K α} (same : Path.Preserves Node.tables path) :
    Path.Confines Named Unnamed path (fun _ => Unnamed) fun _ => True :=
  (Path.Confines.of_preserves same (fun _ _ tables named => by rwa [Named, tables])
    fun _ _ tables unnamed => by rwa [Unnamed, tables]).consequence (fun _ => id) (fun _ _ => id)
      fun _ _ => trivial

omit [Scalar K] in
/-- What follows the resizing of the tables. -/
theorem named_after {α : Type} {path : NodePath K α} (maintains : Path.Maintains Named path) :
    Path.Confines Named (fun _ => True) path (fun _ _ => True) fun _ => True :=
  .of_related maintains (fun _ _ => id) fun _ _ _ => id

omit [Scalar K] in
theorem maintains_named {α : Type} {path : NodePath K α} (same : Path.Preserves Node.tables path) :
    Path.Maintains Named path :=
  same.weaken fun _ _ tables named => by rwa [Named, tables]

theorem configureNode_named : Path.Confines Named Unnamed (configureNode assignment bus now)
    (fun _ _ => True) fun _ => True := by
  refine Path.Confines.bind (stays_unnamed (readGlobals_evolves (fun _ _ _ _ _ => rfl)
    fun _ _ _ _ => rfl)) fun jointNames => ?_
  refine Path.Confines.bind (stays_unnamed (Path.Evolves.read _)) fun defaults => ?_
  refine Path.Confines.bind (stays_unnamed (Path.Evolves.update fun _ => rfl)) fun _ => ?_
  refine Path.Confines.bind (stays_unnamed (checked_evolves _)) fun found => ?_
  cases found with
  | none => exact fun _ named _ => ⟨named, trivial⟩
  | some seen =>
      refine Path.Confines.bind (Path.Confines.update fun node _ unnamed => ⟨.of_empty unnamed, trivial⟩ :
        Path.Confines _ _ _ (fun _ _ => True) _) fun _ => ?_
      refine Path.Confines.bind (named_after (buildTables_evolves (fun node settings tables appended
        named => named.appendJoint appended) _)) fun built => ?_
      cases built with
      | none => exact fun _ named _ => ⟨named, trivial⟩
      | some configs =>
          exact named_after (Path.Evolves.bind (maintains_named (createInterfaces_evolves
            (fun _ _ => rfl) _)) fun _ => Path.Evolves.bind (startPublishing_evolves fun _ => id)
              fun _ => maintains_named startMotors_tables)

theorem onConfigure_named : Path.Confines Named Unnamed (onConfigure assignment bus now)
    (fun _ _ => True) fun _ => True := by
  refine Path.Confines.bind (stays_unnamed (checked_evolves _)) fun _ => ?_
  refine Path.Confines.tryCatch configureNode_named fun exception => named_after ?_
  cases exception with
  | parameterUninitialized name => exact Path.Evolves.pure _
  | canInterfaceError =>
      exact Path.Evolves.bind (Path.Evolves.update fun _ => id) fun _ => Path.Evolves.pure _
  | outOfRange => exact Path.Evolves.throw _
  | rangeError => exact Path.Evolves.throw _
  | canDeviceError canId => exact Path.Evolves.throw _
  | motorError canId errorCode => exact Path.Evolves.throw _
  | parameterType name => exact Path.Evolves.throw _
  | invalidArgument => exact Path.Evolves.throw _

theorem configure_named (named : Named node) (unnamed : node.lifecycle = .unconfigured → Unnamed node)
    (run : (configure assignment bus now).run node = (.returned (), after)) : Named after := by
  obtain ⟨_, rfl⟩ | ⟨started, result, middle, callback, settled⟩ := transition_returned run
  · exact named
  have callbackNamed : Path.Confines Named Unnamed (Path.tryCatch (onConfigure assignment bus now)
      fun _ => pure .error) (fun _ _ => True) fun _ => True :=
    Path.Confines.tryCatch onConfigure_named fun _ _ kept _ => ⟨kept, trivial⟩
  have namedMiddle : Named middle := (callbackNamed.of_returned
    (show Named { node with lifecycle := .inTransition } from named) (unnamed started) callback).1
  have ending := settle_returned settled
  cases result with
  | success =>
      rw [ending]
      exact namedMiddle
  | failure =>
      rw [ending]
      exact namedMiddle
  | error =>
      obtain ⟨handled, errored, handling, rfl⟩ := ending
      have namedErrored : Named errored :=
        NamesApart.retained namedMiddle ((onError_retaining _).of_run handling)
      exact namedErrored

end Configuration

variable [StdToString K] [Libm K] {operation : Operation K}

/-- A configuration begins with no names left from an earlier one. -/
def BeginsUnnamed (node : Node K) (operation : Operation K) : Prop :=
  ∀ assignment bus now, operation = .configure assignment bus now →
    node.lifecycle = .unconfigured → Unnamed node

omit [StdToString K] [Libm K] in
theorem applyToTables_named {update : PerJointUpdate K} (named : NamesApart tables)
    (applied : applyToTables index joint update tables = some changed) : NamesApart changed := by
  simp only [applyToTables, Option.bind_eq_bind, Option.bind_eq_some_iff, Option.some.injEq] at applied
  obtain ⟨params, paramsChanged, _, _, _, _, _, _, rfl⟩ := applied
  refine named.of_entries rfl fun place position entry => ?_
  have rows := changeEntry_map (fun _ => ()) paramsChanged fun _ => rfl
  have same := congrArg (fun rows => (jointEntry rows place position).isSome) rows
  simpa only [jointEntry_map, Option.isSome_map, entry] using same

theorem operate_named (named : Named node) (begins : BeginsUnnamed node operation)
    (moved : operate node operation = some after) : Named after := by
  obtain ⟨_, run⟩ := operate_some.mp moved
  by_cases configuring : ∃ assignment bus now, operation = .configure assignment bus now
  · obtain ⟨assignment, bus, now, rfl⟩ := configuring
    exact configure_named named (begins assignment bus now rfl) run
  · have kept : Path.Maintains Named operation.path :=
      Operation.keeps (fun _ _ retains named => NamesApart.retained named retains)
        (fun index times _ _ named => (canCycleCallback_cycles (reworkRules index times.env
          fun before after reworks named => NamesApart.of_entries named reworks.tables.2.2
            fun _ _ entry => by rwa [reworks.tables.2.1])).always_after named trivial)
        (fun order batch _ => onSetParametersCallback_evolves (fun _ _ => id)
          (fun _ _ _ _ _ applied named => applyToTables_named named applied) order batch)
        fun assignment bus now same => configuring ⟨assignment, bus, now, same⟩
    exact kept.of_run run named

end Operations

end CubemarsDriver.Node

import CubemarsDriver.Node.Retained

namespace CubemarsDriver.Node

open Foundation Can

/-! # Disabling the motors in every run

The loops over the motors count the rows of the commands.  In every state in which
they can run there is an entry for each joint. -/

variable {K : Type} {node after : Node K} {index joint : Nat} {mode : LockMode}

/-- Every joint of an interface has an entry in its row of commands. -/
def Covered (node : Node K) : Prop := Covers (commandRows node.tables) node.jointLists

theorem covers_nil (lists : List (Option (List (JointConfig K)))) : Covers [] lists :=
  fun _ _ _ _ impossible => by simp at impossible

theorem Covered.retained (covered : Covered node) (retains : Retains node after) :
    Covered after := by
  unfold Covered
  rcases retains.lists with cleared | lists
  · rw [cleared]
    exact fun _ _ _ impossible => by simp at impossible
  · rcases retains.tables with wiped | ⟨tables, _⟩
    · rw [wiped.1]
      exact covers_nil _
    · rwa [tables, lists]

theorem Covered.layout (covered : Covered node) (same : after.layout = node.layout) :
    Covered after := by
  unfold Node.layout at same
  rwa [Covered, (Prod.mk.inj same).1, (Prod.mk.inj same).2]

section Operations

variable [Scalar K] [StdToString K]

theorem onSetParametersCallback_covers (order : IterationOrder (String × PerJointUpdate K))
    (batch : List (Parameter K)) :
    Path.Maintains Covered (onSetParametersCallback order batch) := by
  refine onSetParametersCallback_evolves (fun _ _ => id) (fun node index joint update tables applied =>
    ?_) order batch
  simp only [applyToTables, Option.bind_eq_bind, Option.bind_eq_some_iff,
    Option.some.injEq] at applied
  obtain ⟨_, _, _, _, _, _, _, _, rfl⟩ := applied
  exact id

variable [Libm K] {operation : Operation K}

/-- No operation but a configuration adds a joint without an entry. -/
theorem Operation.covers (other : ∀ assignment bus now, operation ≠ .configure assignment bus now) :
    Path.Maintains Covered operation.path := by
  refine Operation.keeps (fun _ _ retains covered => covered.retained retains) (fun index times _ => ?_)
    (fun order batch _ => onSetParametersCallback_covers order batch) other
  refine fun _ covered => (canCycleCallback_cycles (reworkRules index times.env
    fun before after reworks covered => ?_)).always_after covered trivial
  rwa [Covered, reworks.tables.1, reworks.lists]

/-- A node that is configured after another operation was configured before it. -/
theorem Operation.configured_before
    (other : ∀ assignment bus now, operation ≠ .configure assignment bus now)
    (run : operation.path.run node = (.returned (), after))
    (configured : after.lifecycle = .inactive ∨ after.lifecycle = .active) :
    node.lifecycle = .inactive ∨ node.lifecycle = .active := by
  have changes := Operation.changes run
  cases operation with
  | configure assignment bus now => exact absurd rfl (other assignment bus now)
  | _ =>
      simp only [Operation.Changes, Gate.Leaves, Gate.activated, Gate.deactivated, gate] at changes
      grind

/-- A configuration is refused, or the node is configured only if the assignment was accepted. -/
theorem configure_returned {assignment : Assignment K} {bus : Bus} {now : Int}
    (moved : operate node (.configure assignment bus now) = some after) :
    after = node ∨ node.lifecycle = .unconfigured ∧
      (after.lifecycle = .inactive ∨ after.lifecycle = .active → ∃ accepted middle,
        ConfiguredBy assignment node accepted middle ∧
          after = { middle with lifecycle := .inactive }) := by
  obtain ⟨_, run⟩ := operate_some.mp moved
  obtain ⟨_, rfl⟩ | ⟨unconfigured, result, middle, callback, settled⟩ := transition_returned run
  · exact .inl rfl
  refine .inr ⟨unconfigured, fun configured => ?_⟩
  have ending := settle_returned settled
  cases result with
  | success =>
      obtain returned | ⟨_, _, _, handled⟩ := Path.tryCatch_run_returned.mp callback
      · obtain ⟨accepted, by_⟩ := onConfigure_configuredBy returned
        exact ⟨accepted, middle, by_.of_inTransition, ending⟩
      · cases handled
  | failure =>
      rw [ending] at configured
      simp at configured
  | error =>
      obtain ⟨handled, errored, _, rfl⟩ := ending
      cases handled <;> simp [lifecycleAfterError] at configured

/-- What a configuration establishes and every other operation keeps holds as long as
the node is configured. -/
theorem operate_whileConfigured {fact : Node K → Prop}
    (configures : ∀ assignment bus now accepted middle, operation = .configure assignment bus now →
      ConfiguredBy assignment node accepted middle → fact { middle with lifecycle := .inactive })
    (keeps : (∀ assignment bus now, operation ≠ .configure assignment bus now) →
      Path.Maintains fact operation.path)
    (ready : node.lifecycle = .inactive ∨ node.lifecycle = .active → fact node)
    (moved : operate node operation = some after)
    (configured : after.lifecycle = .inactive ∨ after.lifecycle = .active) : fact after := by
  by_cases configuring : ∃ assignment bus now, operation = .configure assignment bus now
  · obtain ⟨assignment, bus, now, rfl⟩ := configuring
    obtain rfl | ⟨_, accepts⟩ := configure_returned moved
    · exact ready configured
    · obtain ⟨accepted, middle, by_, rfl⟩ := accepts configured
      exact configures assignment bus now accepted middle rfl by_
  · have other : ∀ assignment bus now, operation ≠ .configure assignment bus now :=
      fun assignment bus now same => configuring ⟨assignment, bus, now, same⟩
    obtain ⟨_, run⟩ := operate_some.mp moved
    exact (keeps other).of_run run (ready (Operation.configured_before other run configured))

/-- A configured node has an entry for every joint. -/
def Ready (node : Node K) : Prop :=
  node.lifecycle = .inactive ∨ node.lifecycle = .active → Covered node

theorem operate_ready (ready : Ready node) (moved : operate node operation = some after) :
    Ready after :=
  operate_whileConfigured (fun _ _ _ _ _ _ configured => configured.covers) Operation.covers ready moved

/-- The motors on the interfaces of a node. -/
def motors (node : Node K) (index : Nat) (config : JointConfig K) : Prop :=
  ∃ joints, node.jointLists[index]? = some (some joints) ∧ config ∈ joints

omit [Scalar K] [StdToString K] [Libm K] in
theorem motors_present (node : Node K) : Present node.motors node.jointLists := by
  rintro index config ⟨joints, listed, member⟩
  obtain ⟨joint, bound, rfl⟩ := List.getElem_of_mem member
  refine ⟨joints, joint, listed, List.getElem?_eq_getElem bound, ?_⟩
  unfold Before
  omega

omit [Scalar K] [StdToString K] [Libm K] in
theorem motors_accounted (node : Node K) : Accounted node.motors node.log node.jointLists
    commandRows (commandRows node.tables) (Before 0 0) node :=
  accounted_present (motors_present node) rfl rfl (List.prefix_refl _)

omit [Scalar K] [StdToString K] [Libm K] in
theorem disciplined_start (motors : Nat → JointConfig K → Prop) (node : Node K) :
    Disciplined motors node.log node := ⟨[], by simp, precedes_nil⟩

/-- In every run, the interfaces are cleared only after a disable frame has been attempted
for every configured motor, with no motor enabled since: when `on_configure` has begun to
enable motors, when `on_cleanup` runs with the tables and joints of a configured node, and
in `set_motor_origin_here`. -/
theorem motors_disabled_first {start : Node K} {operations : List (Operation K)}
    (constructed : Constructed start) (run : runSteps operate start operations = some node) :
    (∀ assignment bus now,
      (∃ event ∈ newEvents node ((onConfigure assignment bus now).run node).2,
        event.enables = true) →
      DisabledFirst (node.ConfiguredMotor assignment)
        (newEvents node ((onConfigure assignment bus now).run node).2)) ∧
    (node.lifecycle = .inactive ∨ node.lifecycle = .active → ∀ other : Node K,
      other.layout = node.layout →
        DisabledFirst node.motors (newEvents other (onCleanup.run other).2)) ∧
    ∀ motorId, DisabledFirst node.motors
      (newEvents node ((setMotorOriginHereCallback motorId).run node).2) := by
  have unconfigured : start.lifecycle ≠ .inactive ∧ start.lifecycle ≠ .active := by
    rw [constructed.lifecycle]
    exact ⟨nofun, nofun⟩
  have ready : Ready node := invariant_of_run (fun _ _ _ ready _ => operate_ready ready)
    (fun configured => absurd configured (not_or.mpr unconfigured)) everyStep_true run
  refine ⟨fun assignment bus now => onConfigure_disables rfl, fun configured other same => ?_,
    fun motorId => ?_⟩
  · have covered : Covered other := (ready configured).layout same
    have lists : other.jointLists = node.jointLists := congrArg Prod.fst same
    have sameMotors : node.motors = other.motors := by
      unfold motors
      rw [lists]
    rw [sameMotors]
    exact Disciplined.newEvents ((onCleanup_accounts covered).always_after
      (disciplined_start _ other) (motors_accounted other))
  · by_cases inactive : node.lifecycle = .inactive
    · exact Disciplined.newEvents ((setMotorOriginHereCallback_accounts motorId
        (ready (.inl inactive)) (motors_present node)).always_after (disciplined_start _ node)
          (motors_accounted node))
    · -- the service is refused and clears nothing
      rw [setMotorOriginHereCallback, Path.read_bind, if_pos inactive]
      simp only [respond, Path.update_run, newEvents, List.drop_length]
      exact precedes_nil

end Operations

section Example

attribute [local instance] libmAtRest

/-- Two motors that answer until they are enabled, and not when they are disabled. -/
theorem motors_disabled_first_leg : ∃ node,
    runSteps operate freshNode [.configure (legAssignment []) legBus 0] = some node ∧
    node.lifecycle = .inactive ∧
    DisabledFirst node.motors (newEvents node (onCleanup.run node).2) := by
  obtain ⟨node, run, inactive⟩ := Option.map_eq_some_iff.mp
    (show (runSteps operate freshNode [.configure (legAssignment []) legBus 0]).map Node.lifecycle =
      some .inactive by decide +kernel)
  exact ⟨node, run, inactive, (motors_disabled_first freshNode_constructed run).2.1
    (.inl inactive) node rfl⟩

end Example

end CubemarsDriver.Node

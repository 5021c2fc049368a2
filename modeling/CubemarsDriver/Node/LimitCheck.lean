import CubemarsDriver.Node.Batches
import CubemarsDriver.Node.FilterSwitch

namespace CubemarsDriver.Node

open Foundation Can

/-! # The check of the position limits

A cycle that passes the check has found no position below its lower limit and none above
its upper one.  Of numbers that cannot be compared this says nothing. -/

variable {K : Type} [Scalar K] {index joint : Nat} {env : CycleEnv} {node after : Node K}

/-- The number of joints that are checked. -/
def stateCount (index : Nat) (node : Node K) : Nat :=
  (node.tables.jointStatesPerCanInterface[index]?.getD []).length

/-- The written position of a joint between its limits. -/
structure CheckedPosition (K : Type) where
  posLimitMin : K
  position : K
  posLimitMax : K
deriving DecidableEq

def checkedPosition (index joint : Nat) (node : Node K) : Option (CheckedPosition K) := do
  let params ← jointEntry node.tables.jointParametersPerCanInterface index joint
  let position ← node.messages.position[params.msgIdx]?
  some { posLimitMin := params.posLimitMin, position, posLimitMax := params.posLimitMax }

/-- Every joint of the interface is within its limits. -/
def WithinLimits (index : Nat) (node : Node K) : Prop :=
  ∀ joint < stateCount index node, ∃ limited, checkedPosition index joint node = some limited ∧
    limited.posLimitMin ≤ limited.position ∧ limited.position ≤ limited.posLimitMax

/-- No position and no limit of the interface is a NaN. -/
def LimitsComparable (index : Nat) (node : Node K) : Prop :=
  ∀ joint < stateCount index node, ∀ limited, checkedPosition index joint node = some limited →
    Comparable limited.position limited.posLimitMin ∧ Comparable limited.posLimitMax limited.position

theorem limitViolated_eq : node.limitViolated index joint =
    (checkedPosition index joint node).map fun limited =>
      decide (limited.position < limited.posLimitMin ∨ limited.posLimitMax < limited.position) := by
  simp only [limitViolated, checkedPosition, jointEntry, Option.bind_eq_bind]
  cases node.tables.jointParametersPerCanInterface[index]?.bind fun row => row[joint]? with
  | none => rfl
  | some params =>
      simp only [Option.bind_some]
      cases node.messages.position[params.msgIdx]? <;> rfl

theorem violatingJoint_none {joints first : Nat}
    (passed : violatingJoint index node joints first = some none) :
    ∀ joint, first ≤ joint → joint < first + joints → node.limitViolated index joint = some false := by
  induction joints generalizing first with
  | zero =>
      intro joint lower upper
      omega
  | succ joints ih =>
      simp only [violatingJoint, Option.bind_eq_bind, Option.bind_eq_some_iff] at passed
      obtain ⟨violated, checked, rest⟩ := passed
      cases violated with
      | true => cases rest
      | false =>
          intro joint lower upper
          by_cases same : joint = first
          · rw [same, checked]
          · exact ih rest joint (by omega) (by omega)

/-- An active node in which no joint violates its limits. -/
def LimitsPassed (index : Nat) (node : Node K) : Prop :=
  node.lifecycle = .active →
    ∀ joint < stateCount index node, node.limitViolated index joint = some false

theorem checkLimits_passes : Path.Confines (fun _ => True) (fun _ => True)
    (checkLimits env index : NodePath K (Option Nat))
    (fun violating node => violating = none → LimitsPassed index node) fun _ => True := by
  have observed : Path.Confines (fun _ => True) (fun _ => True)
      (observeLifecycle env .checkingLimits : NodePath K Lifecycle)
      (fun lifecycle node => node.lifecycle = lifecycle) fun _ => True :=
    fun _ _ _ => ⟨trivial, rfl⟩
  refine Path.Confines.bind observed fun lifecycle => Path.Confines.ite (fun _ => ?_) fun passive => ?_
  · refine (Path.Confines.element _).weaken_post fun violating node checked passed _ joint bound => ?_
    obtain ⟨_, checked⟩ := checked
    obtain rfl := passed
    simp only [Option.bind_eq_bind, Option.bind_eq_some_iff] at checked
    obtain ⟨row, found, checked⟩ := checked
    have size : stateCount index node = row.length := by rw [stateCount, found, Option.getD_some]
    exact violatingJoint_none checked joint (Nat.zero_le _) (by omega)
  · intro node _ same
    exact ⟨trivial, fun _ active => absurd (same.symm.trans active) passive⟩

/-- What the check reads. -/
def limiting (node : Node K) : Lifecycle × JointTables K × JointMessages K :=
  (node.lifecycle, node.tables, node.messages)

theorem LimitsPassed.of_same (passed : LimitsPassed index node)
    (same : after.limiting = node.limiting) : LimitsPassed index after := by
  simp only [limiting, Prod.mk.injEq] at same
  obtain ⟨lifecycle, tables, messages⟩ := same
  simp only [LimitsPassed, stateCount, limitViolated, lifecycle, tables, messages]
  exact passed

theorem finishCycle_passes {frequency : K} : Path.Confines (fun _ => True) (fun _ => True)
    (finishCycle index env frequency)
    (fun exit node => exit = .completed → LimitsPassed index node) fun _ => True := by
  refine Path.Confines.bind checkLimits_passes fun violating => ?_
  cases violating with
  | some joint =>
      have any {α : Type} {pre : Node K → Prop} {path : NodePath K α} :
          Path.Confines (fun _ => True) pre path (fun _ _ => True) fun _ => True :=
        Path.Confines.anything
      refine Path.Confines.bind any fun _ => Path.Confines.bind any fun _ => ?_
      refine Path.Confines.bind any fun _ => Path.Confines.bind any fun _ => ?_
      exact fun _ _ _ => ⟨trivial, nofun⟩
  | none =>
      have stays {α : Type} {path : NodePath K α} (same : Path.Preserves limiting path) :
          Path.Confines (fun _ => True) (LimitsPassed index) path (fun _ => LimitsPassed index)
            fun _ => True :=
        (Path.Confines.of_preserves same (fun _ _ _ => id) fun _ _ same passed =>
          passed.of_same same).consequence (fun _ => id) (fun _ _ => id) fun _ _ => trivial
      have uses : Path.Preserves limiting (canInterface index : NodePath K (CubemarsCan K)) :=
        Path.Evolves.bind (Path.Evolves.update fun _ => rfl) fun _ => Path.Evolves.element _
      refine Path.Confines.strengthen_pre (Path.Confines.bind (stays uses) fun can => ?_)
        fun _ passed => passed rfl
      refine Path.Confines.bind (stays (Path.Evolves.updateDefined fun node after timed => ?_))
        fun _ => ?_
      · simp only [writeTimings, Option.bind_eq_bind, Option.bind_eq_some_iff,
          Option.some.injEq] at timed
        obtain ⟨_, _, _, _, _, _, _, _, _, _, _, _, rfl⟩ := timed
        rfl
      refine Path.Confines.bind (stays (Path.Evolves.updateDefined fun node after unlocked => ?_))
        fun _ => ?_
      · obtain ⟨mutex, _, rfl⟩ := Option.map_eq_some_iff.mp unlocked
        rfl
      refine Path.Confines.bind (stays (Path.Evolves.read _)) fun missing => ?_
      refine Path.Confines.bind (stays (Path.Evolves.when fun _ => Path.Evolves.bind uses fun _ =>
        Path.Evolves.pure _)) fun _ => ?_
      exact fun _ _ passed => ⟨trivial, fun _ => passed⟩

/-- A cycle completes only behind a check that no joint has failed. -/
theorem canCycleCallback_passes [Libm K] : Path.Confines (fun _ => True) (fun _ => True)
    (canCycleCallback index env)
    (fun exit (node : Node K) => exit = .completed → LimitsPassed index node) fun _ => True := by
  have any {α : Type} {path : NodePath K α} : Path.Confines (fun _ => True) (fun _ => True) path
      (fun _ _ => True) fun _ => True := Path.Confines.anything
  have ends {exit : CycleExit} (early : exit ≠ .completed) :
      Path.Confines (fun _ => True) (fun _ => True) (pure exit : NodePath K CycleExit)
        (fun exit node => exit = .completed → LimitsPassed index node) fun _ => True :=
    fun _ _ _ => ⟨trivial, fun completed => absurd completed early⟩
  refine Path.Confines.bind any fun configured => Path.Confines.ite (fun _ => ?_) fun _ => ends nofun
  refine Path.Confines.bind any fun _ => Path.Confines.bind any fun frequency => ?_
  refine Path.Confines.bind any fun running => Path.Confines.ite (fun _ => ?_) fun _ => ends nofun
  refine Path.Confines.bind any fun command => ?_
  cases command with
  | none => exact ends nofun
  | some command =>
      refine Path.Confines.bind any fun _ => Path.Confines.bind any fun _ => ?_
      refine Path.Confines.bind any fun _ => Path.Confines.bind any fun exchanged => ?_
      cases exchanged with
      | error exception => exact Path.Confines.bind any fun _ => ends nofun
      | ok value =>
          refine Path.Confines.bind any fun _ => Path.Confines.bind any fun _ => ?_
          refine Path.Confines.bind any fun _ => Path.Confines.bind any fun few => ?_
          refine Path.Confines.ite (fun _ => ?_) fun _ => Path.Confines.bind any fun _ => ends nofun
          refine Path.Confines.bind any fun _ => Path.Confines.bind any fun _ => ?_
          refine Path.Confines.bind any fun stillRunning => Path.Confines.ite (fun _ => ?_) fun _ =>
            Path.Confines.bind any fun _ => ends nofun
          exact Path.Confines.bind any fun _ => Path.Confines.bind any fun _ => finishCycle_passes

theorem LimitsPassed.within_iff (passed : LimitsPassed index node) (active : node.lifecycle = .active) :
    WithinLimits index node ↔ LimitsComparable index node := by
  have checked (joint : Nat) (bound : joint < stateCount index node) :
      ∃ limited, checkedPosition index joint node = some limited ∧
        ¬ limited.position < limited.posLimitMin ∧ ¬ limited.posLimitMax < limited.position := by
    have unviolated := passed active joint bound
    rw [limitViolated_eq, Option.map_eq_some_iff] at unviolated
    obtain ⟨limited, found, unviolated⟩ := unviolated
    rw [decide_eq_false_iff_not, not_or] at unviolated
    exact ⟨limited, found, unviolated⟩
  constructor
  · intro within joint bound limited found
    obtain ⟨other, same, lower, upper⟩ := within joint bound
    obtain rfl := Option.some.inj (same.symm.trans found)
    exact ⟨.inr lower, .inr upper⟩
  · intro comparable joint bound
    obtain ⟨limited, found, above, below⟩ := checked joint bound
    obtain ⟨lower, upper⟩ := comparable joint bound limited found
    exact ⟨limited, found, lower.resolve_left above, upper.resolve_left below⟩

/-- The check that passes in an active node leaves every joint within its limits exactly if
the positions and limits that it reads can be compared; and behind it a cycle completes. -/
theorem passed_check_within_limits_iff [Libm K] (index : Nat) (env : CycleEnv) (node after : Node K) :
    (env.lifecycle .checkingLimits node.lifecycle = .active →
      (checkLimits env index).run node = (.returned none, after) →
      (WithinLimits index node ↔ LimitsComparable index node)) ∧
    ((canCycleCallback index env).run node = (.returned .completed, after) →
      after.lifecycle = .active → (WithinLimits index after ↔ LimitsComparable index after)) := by
  constructor
  · intro observed run
    have passed : LimitsPassed index after :=
      (checkLimits_passes.of_returned trivial trivial run).2 rfl
    rw [checkLimits, observeLifecycle_bind, observed, if_pos rfl] at run
    obtain ⟨_, rfl⟩ := Path.element_run_returned.mp run
    exact passed.within_iff rfl
  · intro run active
    exact ((canCycleCallback_passes.of_returned trivial trivial run).2 rfl).within_iff active

section Example

attribute [local instance] libmAtRest

def limitedNode : Node ℚ :=
  exampleNode .active 1 [{ writes := [.written 0], reads := [exampleReply 1 1] }]

theorem passed_check_within_limits_iff_answering : ∃ after : Node ℚ, WithinLimits 0 after := by
  have observed : (((canCycleCallback 0 {}).run limitedNode).1,
      ((canCycleCallback 0 {}).run limitedNode).2.lifecycle) = (.returned .completed, .active) := by
    decide +kernel
  simp only [Prod.mk.injEq] at observed
  refine ⟨_, ((passed_check_within_limits_iff 0 {} limitedNode _).2 (Prod.ext observed.1 rfl)
    observed.2).mpr fun joint _ limited _ => ?_⟩
  exact ⟨lt_or_ge _ _, lt_or_ge _ _⟩

end Example

section Example

/-- The rational numbers and a NaN. -/
inductive Double where
  | nan
  | number (value : ℚ)
deriving DecidableEq

namespace Double

def lift (operation : ℚ → ℚ → ℚ) : Double → Double → Double
  | number left, number right => number (operation left right)
  | _, _ => nan

def divide : Double → Double → Double
  | number left, number right => if right = 0 then nan else number (left / right)
  | _, _ => nan

/-- Every comparison with a NaN is false. -/
def compares (comparison : ℚ → ℚ → Bool) : Double → Double → Bool
  | number left, number right => comparison left right
  | _, _ => false

end Double

@[reducible] def scalarWithNan : Scalar Double where
  add := Double.lift (· + ·)
  sub := Double.lift (· - ·)
  mul := Double.lift (· * ·)
  div := Double.divide
  neg
    | .nan => .nan
    | .number value => .number (-value)
  lt left right := left.compares (fun left right => decide (left < right)) right = true
  le left right := left.compares (fun left right => decide (left ≤ right)) right = true
  ofRat := .number
  truncate
    | .nan => 0
    | .number value => Scalar.truncate value
  decidableLT _ _ := inferInstanceAs (Decidable (_ = true))
  decidableLE _ _ := inferInstanceAs (Decidable (_ = true))

/-- The functions at rest. -/
@[reducible] def libmWithNan : Libm Double where
  tanh
    | .nan => .nan
    | .number _ => .number 0
  exp
    | .nan => .nan
    | .number _ => .number 1
  pow
    | .number _, .number _ => .number 0
    | _, _ => .nan
  fabs
    | .nan => .nan
    | .number value => .number |value|

@[reducible] def stdToStringWithNan : StdToString Double where
  stdToString
    | .nan => "nan"
    | .number value => StdToString.stdToString value

attribute [local instance] scalarWithNan libmWithNan stdToStringWithNan

/-- The lower limit of the joint is a NaN. -/
def nanAssignment : Assignment Double := fun name => List.lookup name [
  ("joints", .stringArray ["hip"]), ("default_damping_KD", .double (.number 1)),
  (jointParameterName "hip" "can_interface", .string "can0"),
  (jointParameterName "hip" "can_id", .integer 1),
  (jointParameterName "hip" "motor_type", .string "AK80-6"),
  (jointParameterName "hip" "pos_limit_min", .double .nan)]

/-- The motor is enabled and then far below any limit. -/
def nanBus : Node.Bus where
  setup _ _ := true
  socket _ := {
    writes := List.replicate 2 (.written 0)
    reads := [exampleReply 1 1, hipReply 0 1000] }

def nanLimit : List (Parameter Double) :=
  [{ name := jointParameterName "hip" "pos_limit_max", value := .double .nan }]

def restingCommand : JointCommand Double where
  position := [.number 0]
  velocity := [.number 0]
  effort := [.number 0]
  kp := [.number 0]
  kd := [.number 0]

/-- The upper limit becomes a NaN at runtime. -/
def nanRun : List (Operation Double) :=
  [.configure nanAssignment nanBus 0, .jointCmd restingCommand 0 0, .activate,
    .setParameters asListed nanLimit]

def unlimited : CheckedPosition Double where
  posLimitMin := .nan
  position := .number (-25 / 2)
  posLimitMax := .nan

/-- A joint passes the check without being within its limits. -/
theorem nan_limits_disable_check : ∃ node after : Node Double,
    runSteps operate { defaultDampingKD := .number 0 } nanRun = some node ∧
      (canCycleCallback 0 ({} : CycleTimes).env).run node = (.returned .completed, after) ∧
      after.lifecycle = .active ∧ stateCount 0 after = 1 ∧
      checkedPosition 0 0 after = some unlimited ∧ ¬ WithinLimits 0 after := by
  obtain ⟨node, run, observed⟩ := Option.map_eq_some_iff.mp
    (show (runSteps operate { defaultDampingKD := .number 0 } nanRun).map (fun node =>
      let ended := (canCycleCallback 0 ({} : CycleTimes).env).run node
      (ended.1, ended.2.lifecycle, stateCount 0 ended.2, checkedPosition 0 0 ended.2)) =
        some (.returned .completed, .active, 1, some unlimited) by decide +kernel)
  simp only [Prod.mk.injEq] at observed
  obtain ⟨completed, active, count, found⟩ := observed
  refine ⟨node, _, run, Prod.ext completed rfl, active, count, found, fun within => ?_⟩
  obtain ⟨limited, same, lower, _⟩ := within 0 (lt_of_lt_of_eq Nat.one_pos count.symm)
  obtain rfl := Option.some.inj (same.symm.trans found)
  exact absurd lower (by decide)

end Example

end CubemarsDriver.Node

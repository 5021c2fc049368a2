import CubemarsDriver.Node.FilterSwitch
import CubemarsDriver.Node.BatchPermutations

namespace CubemarsDriver.Node

open Foundation Can

/-! # The divisors of a command

The friction of a joint is divided by its Stribeck velocity, its torque by its transmission
ratio.  The ratios are validated, the velocities are not. -/

variable {K : Type} [Scalar K] {node before after : Node K} {index joint : Nat}

/-- A value that compares equal to zero. -/
def IsZero (value : K) : Prop := value ≤ Scalar.zero ∧ Scalar.zero ≤ value

/-- What the loops over the joints divide by to form the command of one joint. -/
def divisors (params : JointParameters K) : List K :=
  [params.frictionParameters.vS, params.transmissionRatio]

/-- No joint of the tables has a Stribeck velocity of zero. -/
def StribeckNonzero (tables : JointTables K) : Prop := ∀ index joint params,
  jointEntry tables.jointParametersPerCanInterface index joint = some params →
    ¬ IsZero params.frictionParameters.vS

theorem StribeckNonzero.of_params {tables changed : JointTables K} (nonzero : StribeckNonzero tables)
    (same : changed.jointParametersPerCanInterface = tables.jointParametersPerCanInterface) :
    StribeckNonzero changed := by
  rwa [StribeckNonzero, same]

theorem StribeckNonzero.retained (nonzero : StribeckNonzero node.tables) (retains : Retains node after) :
    StribeckNonzero after.tables := by
  rcases retains.tables with wiped | ⟨tables, _⟩
  · intro index joint params found
    simp [wiped.1, jointEntry] at found
  · exact nonzero.of_params (by rw [tables])

section Batches

variable {tables changed : JointTables K} {update : PerJointUpdate K}

theorem StribeckNonzero.applyToTables (nonzero : StribeckNonzero tables)
    (given : ∀ vS, update.vS = some vS → ¬ IsZero vS)
    (applied : applyToTables index joint update tables = some changed) : StribeckNonzero changed := by
  simp only [Node.applyToTables, Option.bind_eq_bind, Option.bind_eq_some_iff,
    Option.some.injEq] at applied
  obtain ⟨_, paramsChanged, _, _, _, _, _, _, rfl⟩ := applied
  intro place position params found
  rw [jointEntry_changeEntry paramsChanged] at found
  split at found
  · obtain ⟨old, oldFound, rfl⟩ := Option.map_eq_some_iff.mp found
    cases stored : update.vS with
    | none =>
        simp only [PerJointUpdate.params, stored, Option.getD_none]
        exact nonzero place position old oldFound
    | some vS =>
        simp only [PerJointUpdate.params, stored, Option.getD_some]
        exact given vS stored
  · exact nonzero place position params found

theorem applyUpdates_stribeckNonzero {updates : List (String × PerJointUpdate K)}
    (given : ∀ entry ∈ updates, ∀ vS, entry.2.vS = some vS → ¬ IsZero vS) :
    Path.Maintains (fun node : Node K => StribeckNonzero node.tables) (Path.forEach applyUpdate updates) := by
  induction updates with
  | nil => exact Path.Evolves.pure _
  | cons entry rest ih =>
      refine Path.Evolves.bind ?_ fun _ => ih fun other member =>
        given other (List.mem_cons_of_mem _ member)
      refine Path.Evolves.bind (locate_evolves _) fun position =>
        Path.Evolves.updateDefined fun node after changed nonzero => ?_
      obtain ⟨tables, applied, rfl⟩ := Option.map_eq_some_iff.mp changed
      exact StribeckNonzero.applyToTables nonzero (given entry List.mem_cons_self) applied

variable [StdToString K] {order : IterationOrder (String × PerJointUpdate K)}
variable {batch : List (Parameter K)} {pending : PendingUpdates K}

/-- An accepted batch stores no velocity of zero unless it gives one. -/
theorem AcceptedBatch.stribeckNonzero (accepted : AcceptedBatch order batch pending before after)
    (nonzero : StribeckNonzero before.tables)
    (given : ∀ joint vS, Node.lastGiven (.joint joint .vS) batch = some (.double vS) → ¬ IsZero vS) :
    StribeckNonzero after.tables := by
  refine (applyUpdates_stribeckNonzero fun entry member vS stored => ?_).of_run accepted.applied nonzero
  have pendingMember := (order.property pending.updates).mem_iff.mp member
  refine given entry.1 vS ?_
  rw [← accepted.lastGiven, PendingUpdates.given,
    (mem_iff_lookup (parseBatch_parsed accepted.parsed).names).mp pendingMember, Option.getD_some,
    PerJointUpdate.given, stored, Option.map_some]

end Batches

section Runs

variable [StdToString K] [Libm K] {operation : Operation K}

/-- Neither a configuration nor a batch that is accepted gives a velocity of zero. -/
def GivesNonzero (node : Node K) : Operation K → Prop
  | .configure assignment bus now => node.lifecycle = .unconfigured →
      (∃ after, operate node (.configure assignment bus now) = some after ∧
        after.lifecycle = .inactive) →
      ∀ jointNames, assignment.getStringArray "joints" = .ok jointNames → ∀ name ∈ jointNames, ∀ vS,
        assignment.getDouble (jointParameterName name "v_s") (some Scalar.one) = .ok vS → ¬ IsZero vS
  | .setParameters order batch => (∃ result after,
      (onSetParametersCallback order batch).run node = (.returned result, after) ∧
        result.successful = true) →
      ∀ joint vS, lastGiven (.joint joint .vS) batch = some (.double vS) → ¬ IsZero vS
  | _ => True

omit [StdToString K] [Libm K] in
theorem ConfiguredBy.stribeckNonzero {assignment : Assignment K} {left : Node K} {accepted : Accepted K}
    (configured : ConfiguredBy assignment left accepted node)
    (given : ∀ name ∈ accepted.jointNames, ∀ vS,
      assignment.getDouble (jointParameterName name "v_s") (some Scalar.one) = .ok vS → ¬ IsZero vS) :
    StribeckNonzero node.tables := by
  intro index joint params found
  rw [configured.params_eq] at found
  obtain ⟨_, settings, there, rfl⟩ := jointEntry_rowsOf.mp found
  obtain ⟨name, member, read⟩ := configured.readFrom_of_mem
    (List.mem_filter.mp (List.mem_of_getElem? there)).1
  exact given name member _ read.vS

theorem operate_stribeckNonzero (nonzero : node.lifecycle = .inactive ∨ node.lifecycle = .active →
    StribeckNonzero node.tables) (allowed : GivesNonzero node operation)
    (moved : operate node operation = some after)
    (configured : after.lifecycle = .inactive ∨ after.lifecycle = .active) : StribeckNonzero after.tables := by
  by_cases configuring : ∃ assignment bus now, operation = .configure assignment bus now
  · obtain ⟨assignment, bus, now, rfl⟩ := configuring
    obtain rfl | ⟨unconfigured, accepts⟩ := configure_returned moved
    · exact nonzero configured
    · obtain ⟨accepted, middle, by_, rfl⟩ := accepts configured
      have given := allowed unconfigured ⟨_, moved, rfl⟩ _ by_.joints
      exact (by_.stribeckNonzero given).of_params rfl
  have other : ∀ assignment bus now, operation ≠ .configure assignment bus now :=
    fun assignment bus now same => configuring ⟨assignment, bus, now, same⟩
  obtain ⟨_, run⟩ := operate_some.mp moved
  have ready := nonzero (Operation.configured_before other run configured)
  by_cases setting : ∃ order batch, operation = .setParameters order batch
  · obtain ⟨order, batch, rfl⟩ := setting
    obtain ⟨result, _, callback, ends⟩ := Path.bind_run_returned.mp run
    cases ends
    cases successful : result.successful with
    | false =>
        rw [onSetParametersCallback_rejected callback successful]
        exact ready
    | true =>
        obtain ⟨pending, accepted⟩ := onSetParametersCallback_accepted callback successful
        exact accepted.stribeckNonzero ready (allowed ⟨result, after, callback, successful⟩)
  · have kept : Path.Maintains (fun node : Node K => StribeckNonzero node.tables) operation.path :=
      Operation.keeps (fun _ _ retains nonzero => StribeckNonzero.retained nonzero retains)
        (fun index times _ _ nonzero => (canCycleCallback_cycles (reworkRules index times.env
          fun before after reworks nonzero => StribeckNonzero.of_params nonzero reworks.tables.2.1)).always_after
            nonzero trivial)
        (fun order batch same => absurd ⟨order, batch, same⟩ setting) other
    exact kept.of_run run ready

/-- In a run in which no accepted configuration or batch gives a Stribeck velocity of zero,
the rows that a cycle computes with have no divisor that is zero. -/
theorem divisors_not_zero {start : Node K} {operations : List (Operation K)}
    (constructed : Constructed start) (given : EveryStep operate GivesNonzero start operations)
    (run : runSteps operate start operations = some node)
    (configured : node.lifecycle = .inactive ∨ node.lifecycle = .active) {rows : CycleRows K}
    (found : cycleRows index node.tables = some rows) :
    ∀ params ∈ rows.params, ∀ divisor ∈ divisors params, ¬ IsZero divisor := by
  have unready : ¬ (start.lifecycle = .inactive ∨ start.lifecycle = .active) := by
    rw [constructed.lifecycle]
    decide
  have nonzero : StribeckNonzero node.tables := invariant_of_run
    (fun _ _ _ nonzero allowed moved configured => operate_stribeckNonzero nonzero allowed moved configured)
    (fun ready => absurd ready unready) given run configured
  have geared : Geared node := invariant_of_run (fun _ _ _ ready _ => operate_geared ready)
    (fun ready => absurd ready unready) given run configured
  obtain ⟨_, _, _, _, row, rowFound, rfl⟩ : ∃ cmds, _ ∧ ∃ states, _ ∧ ∃ row,
      node.tables.jointParametersPerCanInterface[index]? = some row ∧
        CycleRows.mk cmds states row = rows := by
    simpa [cycleRows, Option.bind_eq_some_iff] using found
  intro params member divisor divides
  obtain ⟨joint, entry⟩ := List.mem_iff_getElem?.mp member
  have there : jointEntry node.tables.jointParametersPerCanInterface index joint = some params := by
    rw [jointEntry, rowFound, Option.bind_some, entry]
  rcases List.mem_cons.mp divides with rfl | divides
  · exact nonzero index joint params there
  · obtain rfl := List.mem_singleton.mp divides
    refine fun zero => geared.ratios index joint params.transmissionRatio ?_ zero.1
    rw [ratioRows, jointEntry_map, there, Option.map_some]

end Runs

section Example

attribute [local instance] libmAtRest

def resting : Parameter ℚ := { name := jointParameterName "hip" "v_s", value := .double 0 }

/-- The Stribeck velocity is set to zero before the activation. -/
def restingRun : List (Operation ℚ) :=
  legRun ++ [.setParameters asListed [resting], .jointCmd (exampleCommand 2) 0 0, .activate]

def stribeckAt (index joint : Nat) (node : Node ℚ) : Option ℚ :=
  (jointEntry node.tables.jointParametersPerCanInterface index joint).map (·.frictionParameters.vS)

/-- An active joint has a Stribeck velocity of zero, which a batch has given it. -/
theorem stribeck_velocity_is_zero : ∃ node : Node ℚ,
    runSteps operate freshNode restingRun = some node ∧ node.lifecycle = .active ∧
      stribeckAt 0 0 node = some 0 ∧ IsZero (0 : ℚ) := by
  obtain ⟨node, run, observed⟩ := Option.map_eq_some_iff.mp
    (show (runSteps operate freshNode restingRun).map (fun node =>
      (node.lifecycle, stribeckAt 0 0 node)) = some (.active, some 0) by decide +kernel)
  rw [Prod.mk.injEq] at observed
  exact ⟨node, run, observed.1, observed.2, by decide, by decide⟩

def moving : Parameter ℚ := { name := jointParameterName "hip" "v_s", value := .double (1 / 2) }

/-- The Stribeck velocity is halved before the activation. -/
def movingRun : List (Operation ℚ) :=
  legRun ++ [.setParameters asListed [moving], .jointCmd (exampleCommand 2) 0 0, .activate]

theorem movingRun_nonzero : EveryStep operate GivesNonzero freshNode movingRun := by
  refine ⟨fun _ _ jointNames read name member vS given => ?_, fun _ _ =>
    ⟨fun _ joint vS given => ?_, fun _ _ => ⟨trivial, fun _ _ => ⟨trivial, fun _ _ => trivial⟩⟩⟩⟩
  · obtain rfl : ["hip", "knee"] = jointNames := Except.ok.inj read
    have default : vS = 1 := by
      rcases List.mem_pair.mp member with rfl | rfl
      · exact (Except.ok.inj given).symm
      · exact (Except.ok.inj given).symm
    subst default
    exact fun zero => absurd zero.1 (by decide)
  · obtain ⟨parameter, last, same⟩ := Option.map_eq_some_iff.mp given
    obtain rfl := List.mem_singleton.mp (List.mem_of_mem_filter (List.mem_of_getLast? last))
    cases same
    exact fun zero => absurd zero.1 (by decide +kernel)

/-- An active node whose batch was accepted. -/
theorem divisors_not_zero_leg : ∃ (node : Node ℚ) (rows : CycleRows ℚ),
    runSteps operate freshNode movingRun = some node ∧ node.lifecycle = .active ∧
      stribeckAt 0 0 node = some (1 / 2) ∧ cycleRows 0 node.tables = some rows ∧
      ∀ params ∈ rows.params, ∀ divisor ∈ divisors params, ¬ IsZero divisor := by
  obtain ⟨node, run, observed⟩ := Option.map_eq_some_iff.mp
    (show (runSteps operate freshNode movingRun).map (fun node =>
      (node.lifecycle, stribeckAt 0 0 node, (cycleRows 0 node.tables).isSome)) =
        some (.active, some (1 / 2), true) by decide +kernel)
  simp only [Prod.mk.injEq] at observed
  obtain ⟨active, stored, counted⟩ := observed
  obtain ⟨rows, found⟩ := Option.isSome_iff_exists.mp counted
  exact ⟨node, rows, run, active, stored, found,
    divisors_not_zero freshNode_constructed movingRun_nonzero run (.inr active) found⟩

end Example

end CubemarsDriver.Node

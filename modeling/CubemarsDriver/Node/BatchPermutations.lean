import CubemarsDriver.Node.BatchOrder

namespace CubemarsDriver.Node

open Foundation Can

/-! # Permuted batches

The updates of different joints change entries of their own, so they can be applied in any
order. -/

variable {K : Type} [Scalar K] {index joint : Nat} {node before after : Node K}
variable {tables changed : JointTables K} {update : PerJointUpdate K}
variable {updates permuted : List (String × PerJointUpdate K)}

omit [Scalar K] in
theorem modify_entries_comm {α : Type} {rows : List (List α)} {place position : Nat}
    {change other : α → α} (apart : (index, joint) ≠ (place, position)) :
    (rows.modify index fun row => row.modify joint change).modify place
        (fun row => row.modify position other) =
      (rows.modify place fun row => row.modify position other).modify index
        fun row => row.modify joint change := by
  by_cases same : index = place
  · subst same
    rw [List.modify_modify_eq, List.modify_modify_eq]
    congr 1
    funext row
    exact List.modify_modify_ne _ _ _ fun equal => apart (by rw [equal])
  · exact List.modify_modify_ne _ _ _ same

/-- What an update makes of the tables where every entry is there. -/
def modifyTables (index joint : Nat) (update : PerJointUpdate K) (tables : JointTables K) :
    JointTables K :=
  { tables with
    jointParametersPerCanInterface :=
      tables.jointParametersPerCanInterface.modify index (·.modify joint update.params)
    jointAbFiltersPerCanInterface :=
      tables.jointAbFiltersPerCanInterface.modify index (·.modify joint update.alphaBeta)
    jointVelFiltersPerCanInterface :=
      tables.jointVelFiltersPerCanInterface.modify index (·.modify joint update.average)
    jointPosMedianFiltersPerCanInterface :=
      tables.jointPosMedianFiltersPerCanInterface.modify index (·.modify joint update.median) }

theorem modifyTables_comm {place position : Nat} {other : PerJointUpdate K}
    (apart : (index, joint) ≠ (place, position)) :
    modifyTables place position other (modifyTables index joint update tables) =
      modifyTables index joint update (modifyTables place position other tables) := by
  simp only [modifyTables]
  rw [modify_entries_comm apart, modify_entries_comm apart, modify_entries_comm apart,
    modify_entries_comm apart]

theorem applyToTables_eq (inStep : TablesInStep tables)
    (present : (jointEntry tables.jointParametersPerCanInterface index joint).isSome = true) :
    applyToTables index joint update tables = some (modifyTables index joint update tables) := by
  obtain ⟨alphaBetas, averages, medians⟩ := tablesInStep_iff.mp inStep
  have changes {α : Type} {rows : List (List α)} (change : α → α)
      (there : (jointEntry rows index joint).isSome = true) :
      changeEntry rows index joint change = some (rows.modify index (·.modify joint change)) := by
    obtain ⟨value, found⟩ := Option.isSome_iff_exists.mp there
    rw [changeEntry, found, Option.map_some]
  simp only [applyToTables, changes _ present, changes _ (jointEntry_isSome_of_sizes alphaBetas present),
    changes _ (jointEntry_isSome_of_sizes averages present),
    changes _ (jointEntry_isSome_of_sizes medians present)]
  rfl

/-- Every name leads to an entry that is there. -/
structure EntriesReady (map : List (String × Nat × Nat)) (tables : JointTables K) : Prop where
  inStep : TablesInStep tables
  present : ∀ name position, map.lookup name = some position →
    (jointEntry tables.jointParametersPerCanInterface position.1 position.2).isSome = true

/-- The tables after one update. -/
def updateEntry (map : List (String × Nat × Nat)) (tables : JointTables K)
    (entry : String × PerJointUpdate K) : JointTables K :=
  match map.lookup entry.1 with
  | some position => modifyTables position.1 position.2 entry.2 tables
  | none => tables

theorem updateEntry_names (map : List (String × Nat × Nat)) (entry : String × PerJointUpdate K) :
    (updateEntry map tables entry).jointNameToCanIfaceAndIdx = tables.jointNameToCanIfaceAndIdx := by
  unfold updateEntry
  split <;> rfl

theorem EntriesReady.updateEntry {map : List (String × Nat × Nat)} (ready : EntriesReady map tables)
    (entry : String × PerJointUpdate K) : EntriesReady map (updateEntry map tables entry) := by
  unfold Node.updateEntry
  split
  · rename_i position found
    have applied : applyToTables position.1 position.2 entry.2 tables = _ :=
      applyToTables_eq ready.inStep (ready.present _ _ found)
    refine ⟨ready.inStep.applyToTables applied, fun name place located => ?_⟩
    have kept := ready.present name place located
    simp only [applyToTables, Option.bind_eq_bind, Option.bind_eq_some_iff,
      Option.some.injEq] at applied
    obtain ⟨params, paramsChanged, _, _, _, _, _, _, same⟩ := applied
    rw [← same, jointEntry_changeEntry paramsChanged]
    split
    · rwa [Option.isSome_map]
    · exact kept
  · exact ready

theorem applyUpdate_run (ready : EntriesReady node.tables.jointNameToCanIfaceAndIdx node.tables)
    {entry : String × PerJointUpdate K}
    (known : (node.tables.jointNameToCanIfaceAndIdx.lookup entry.1).isSome = true) :
    (applyUpdate entry).run node = (.returned (), { node with
      tables := updateEntry node.tables.jointNameToCanIfaceAndIdx node.tables entry }) := by
  obtain ⟨position, found⟩ := Option.isSome_iff_exists.mp known
  have located : (locate entry.1).run node = (.returned position, node) :=
    locate_run_returned.mpr ⟨found, rfl⟩
  rw [applyUpdate, Path.bind_returned located]
  refine Path.updateDefined_some ?_
  rw [applyToTables_eq ready.inStep (ready.present _ _ found), Option.map_some, updateEntry, found]

theorem applyUpdates_run {map : List (String × Nat × Nat)}
    (names : node.tables.jointNameToCanIfaceAndIdx = map) (ready : EntriesReady map node.tables)
    (known : ∀ entry ∈ updates, (map.lookup entry.1).isSome = true) :
    (Path.forEach applyUpdate updates).run node =
      (.returned (), { node with tables := updates.foldl (updateEntry map) node.tables }) := by
  induction updates generalizing node with
  | nil => rfl
  | cons entry rest ih =>
      have first : (applyUpdate entry).run node = _ := applyUpdate_run (by rwa [names])
        (by rw [names]; exact known entry List.mem_cons_self)
      rw [Path.forEach, Path.bind_returned first, names, ih]
      · rfl
      · exact (updateEntry_names map entry).trans names
      · exact ready.updateEntry entry
      · exact fun other member => known other (List.mem_cons_of_mem _ member)

/-- Updates of joints with entries of their own can be applied in any order. -/
theorem foldl_updateEntry_perm {map : List (String × Nat × Nat)}
    (apart : ∀ first second position, map.lookup first = some position →
      map.lookup second = some position → first = second)
    (nodup : (updates.map Prod.fst).Nodup) (perm : updates.Perm permuted) :
    updates.foldl (updateEntry map) tables = permuted.foldl (updateEntry map) tables := by
  refine perm.foldl_eq' (fun first firstMember second secondMember tables => ?_) tables
  by_cases same : first.1 = second.1
  · have value := (mem_iff_lookup nodup).mp firstMember
    rw [same, (mem_iff_lookup nodup).mp secondMember, Option.some.injEq] at value
    rw [Prod.ext same value.symm]
  · cases found : map.lookup first.1 with
    | none => simp only [updateEntry, found]
    | some position =>
        cases other : map.lookup second.1 with
        | none => simp only [updateEntry, found, other]
        | some place =>
            simp only [updateEntry, found, other]
            refine (modifyTables_comm fun equal => same ?_)
            exact apart _ _ _ found (other.trans (congrArg some equal.symm))

section Callbacks

variable [StdToString K] {order orderToo : IterationOrder (String × PerJointUpdate K)}
variable {batch swapped : List (Parameter K)} {pending : PendingUpdates K}

/-- An update passes the checks against the entry that its name leads to. -/
def Passes (tables : JointTables K) (entry : String × PerJointUpdate K) : Prop :=
  ∀ index joint params filter, LeadsTo tables entry.1 index joint params filter →
    checkUpdate entry.1 entry.2 params filter = .ok ()

omit [Scalar K] [StdToString K] in
theorem EntriesReady.leadsTo (ready : EntriesReady tables.jointNameToCanIfaceAndIdx tables) {name : String}
    (known : (tables.jointNameToCanIfaceAndIdx.lookup name).isSome = true) :
    ∃ index joint params filter, LeadsTo tables name index joint params filter := by
  obtain ⟨position, found⟩ := Option.isSome_iff_exists.mp known
  have present := ready.present name position found
  obtain ⟨params, paramsFound⟩ := Option.isSome_iff_exists.mp present
  obtain ⟨filter, filterFound⟩ := Option.isSome_iff_exists.mp
    (jointEntry_isSome_of_sizes (tablesInStep_iff.mp ready.inStep).1 present)
  exact ⟨position.1, position.2, params, filter, found, Prod.ext paramsFound filterFound⟩

/-- The checks leave the node as it is, and pass if every update does. -/
theorem checkUpdates_run (ready : EntriesReady node.tables.jointNameToCanIfaceAndIdx node.tables)
    (known : ∀ entry ∈ updates, (node.tables.jointNameToCanIfaceAndIdx.lookup entry.1).isSome = true) :
    ∃ checks, (checkUpdates updates).run node = (.returned checks, node) ∧
      (checks = .ok () ↔ ∀ entry ∈ updates, Passes node.tables entry) := by
  induction updates with
  | nil => exact ⟨.ok (), rfl, fun _ _ impossible => absurd impossible List.not_mem_nil, fun _ => rfl⟩
  | cons entry rest ih =>
      obtain ⟨name, update⟩ := entry
      obtain ⟨index, joint, params, filter, leads⟩ := ready.leadsTo (known _ List.mem_cons_self)
      have located : (locate name).run node = (.returned (index, joint), node) :=
        locate_run_returned.mpr ⟨leads.located, rfl⟩
      have own : Passes node.tables (name, update) ↔ checkUpdate name update params filter = .ok () := by
        refine ⟨fun passes => passes index joint params filter leads, ?_⟩
        intro passed place position otherParams otherFilter leadsToo
        cases leads.located.symm.trans leadsToo.located
        cases leads.settings.symm.trans leadsToo.settings
        exact passed
      have paramsRead : (Path.element fun node => jointEntry node.tables.jointParametersPerCanInterface
          index joint : NodePath K (JointParameters K)).run node = (.returned params, node) :=
        Path.element_some (congrArg Prod.fst leads.settings)
      have filterRead : (Path.element fun node => jointEntry node.tables.jointAbFiltersPerCanInterface
          index joint : NodePath K (AlphaBetaFilter K)).run node = (.returned filter, node) :=
        Path.element_some (congrArg Prod.snd leads.settings)
      rw [List.forall_mem_cons, own, checkUpdates]
      cases checked : checkUpdate name update params filter with
      | error reason =>
          refine ⟨.error reason, ?_, by simp⟩
          refine (Path.bind_returned located).trans ?_
          refine ((Path.bind_returned paramsRead).trans (Path.bind_returned filterRead)).trans ?_
          rw [checked]
          rfl
      | ok value =>
          obtain ⟨checks, run, passes⟩ := ih fun other member => known other (List.mem_cons_of_mem _ member)
          refine ⟨checks, ?_, by rw [passes]; exact ⟨fun all => ⟨rfl, all⟩, And.right⟩⟩
          refine (Path.bind_returned located).trans ?_
          refine ((Path.bind_returned paramsRead).trans (Path.bind_returned filterRead)).trans ?_
          rw [checked]
          exact run

/-- What the callback does with a batch that has been parsed. -/
theorem onSetParametersCallback_parsed (order : IterationOrder (String × PerJointUpdate K))
    (ready : EntriesReady node.tables.jointNameToCanIfaceAndIdx node.tables)
    (parsed : parseBatch node.tables.jointNameToCanIfaceAndIdx batch = .ok pending) :
    ((∀ entry ∈ pending.updates, Passes node.tables entry) ∧
      (onSetParametersCallback order batch).run node = (.returned {}, { applyGlobals pending node with
        tables := (order.val pending.updates).foldl (updateEntry node.tables.jointNameToCanIfaceAndIdx)
          node.tables })) ∨
    (¬ (∀ entry ∈ pending.updates, Passes node.tables entry) ∧
      ∃ reason, (onSetParametersCallback order batch).run node =
        (.returned { successful := false, reason }, node)) := by
  have arranged := order.property pending.updates
  have known : ∀ entry ∈ order.val pending.updates,
      (node.tables.jointNameToCanIfaceAndIdx.lookup entry.1).isSome = true :=
    fun entry member => (parseBatch_pending parsed).known entry (arranged.mem_iff.mp member)
  obtain ⟨checks, checking, passes⟩ := checkUpdates_run ready known
  simp only [arranged.mem_iff] at passes
  rw [onSetParametersCallback, Path.read_bind, parsed, ← passes]
  simp only [Path.bind_returned checking]
  cases checks with
  | error reason => exact .inr ⟨by simp, reason, rfl⟩
  | ok value =>
      have applied : (Path.forEach applyUpdate (order.val pending.updates)).run
          (applyGlobals pending node) = _ := applyUpdates_run rfl ready known
      exact .inl ⟨rfl, by rw [Path.update_bind, Path.bind_returned applied]; rfl⟩

/-- A batch that is rejected leaves the node as it is. -/
theorem onSetParametersCallback_rejected {result : SetParametersResult}
    (run : (onSetParametersCallback order batch).run before = (.returned result, after))
    (rejected : result.successful = false) : after = before := by
  simp only [onSetParametersCallback, Path.read_bind] at run
  cases parsed : parseBatch before.tables.jointNameToCanIfaceAndIdx batch with
  | error reason =>
      rw [parsed] at run
      cases run
      rfl
  | ok pending =>
      simp only [parsed, Path.bind_run_returned] at run
      obtain ⟨checks, middle, checking, run⟩ := run
      cases checks with
      | error reason =>
          cases run
          have unchanged : Path.Preserves id (checkUpdates (order.val pending.updates)) :=
            checkUpdates_evolves _
          exact unchanged.of_run checking
      | ok value =>
          simp only [Path.update_bind, Path.bind_run_returned] at run
          obtain ⟨_, _, _, ends⟩ := run
          cases ends
          cases rejected

/-- Two orders of a batch end in the same way. -/
theorem onSetParametersCallback_perm (named : NamesApart node.tables) (inStep : TablesInStep node.tables)
    (perm : batch.Perm swapped) (distinct : (batch.map Parameter.name).Nodup) :
    ∃ result resultToo after,
      (onSetParametersCallback order batch).run node = (.returned result, after) ∧
      (onSetParametersCallback orderToo swapped).run node = (.returned resultToo, after) ∧
      result.successful = resultToo.successful := by
  have ready : EntriesReady node.tables.jointNameToCanIfaceAndIdx node.tables := ⟨inStep, named.within⟩
  have parses : (∃ finish, parseBatch node.tables.jointNameToCanIfaceAndIdx batch = .ok finish) ↔
      ∃ finish, parseBatch node.tables.jointNameToCanIfaceAndIdx swapped = .ok finish := by
    simp only [parseBatch, parseParameters_ok_iff, perm.mem_iff]
  cases parsed : parseBatch node.tables.jointNameToCanIfaceAndIdx batch with
  | error reason =>
      cases parsedToo : parseBatch node.tables.jointNameToCanIfaceAndIdx swapped with
      | error reasonToo =>
          refine ⟨{ successful := false, reason }, { successful := false, reason := reasonToo }, node, ?_,
            ?_, rfl⟩
          · rw [onSetParametersCallback, Path.read_bind, parsed]
            rfl
          · rw [onSetParametersCallback, Path.read_bind, parsedToo]
            rfl
      | ok other => simp [parsed, parsedToo] at parses
  | ok pending =>
      obtain ⟨other, parsedToo⟩ := parses.mp ⟨pending, parsed⟩
      have same := parseBatch_perm perm distinct parsed parsedToo
      have passes : (∀ entry ∈ other.updates, Passes node.tables entry) ↔
          ∀ entry ∈ pending.updates, Passes node.tables entry := by
        simp only [same.updates.mem_iff]
      have arranged : (order.val pending.updates).Perm (orderToo.val other.updates) :=
        ((order.property _).trans same.updates).trans (orderToo.property _).symm
      have nodup : ((order.val pending.updates).map Prod.fst).Nodup :=
        ((order.property _).map Prod.fst).nodup_iff.mpr (parseBatch_parsed parsed).names
      rcases onSetParametersCallback_parsed order ready parsed with
        ⟨all, run⟩ | ⟨some, reason, run⟩
      · rcases onSetParametersCallback_parsed orderToo ready parsedToo with
          ⟨_, runToo⟩ | ⟨someToo, _⟩
        · refine ⟨{}, {}, _, run, runToo.trans ?_, rfl⟩
          rw [same.globals, foldl_updateEntry_perm named.apart nodup arranged]
        · exact absurd (passes.mpr all) someToo
      · rcases onSetParametersCallback_parsed orderToo ready parsedToo with
          ⟨allToo, _⟩ | ⟨_, reasonToo, runToo⟩
        · exact absurd (passes.mp allToo) some
        · exact ⟨_, _, node, run, runToo, rfl⟩

/-- In a run in which no configuration begins with names left from another one, a batch that is
rejected changes nothing, and the order of the parameters of a batch makes no difference. -/
theorem batches_atomic_and_unordered [Libm K] {start : Node K} {operations : List (Operation K)}
    (constructed : Constructed start) (begins : EveryStep operate BeginsUnnamed start operations)
    (run : runSteps operate start operations = some node) :
    (∀ (order : IterationOrder (String × PerJointUpdate K)) (batch : List (Parameter K))
        (result : SetParametersResult) (after : Node K),
      (onSetParametersCallback order batch).run node = (.returned result, after) →
        result.successful = false → after = node) ∧
    ∀ (order orderToo : IterationOrder (String × PerJointUpdate K)) (batch swapped : List (Parameter K)),
      batch.Perm swapped → (batch.map Parameter.name).Nodup → ∃ result resultToo after,
        (onSetParametersCallback order batch).run node = (.returned result, after) ∧
        (onSetParametersCallback orderToo swapped).run node = (.returned resultToo, after) ∧
        result.successful = resultToo.successful := by
  have named : Named node := invariant_of_run (fun _ _ _ named begins => operate_named named begins)
    (show NamesApart start.tables by rw [constructed.tables]; exact .of_empty rfl) begins run
  have inStep : InStepNode node := invariant_of_run (fun _ _ _ inStep _ moved => operate_inStep inStep moved)
    (show TablesInStep start.tables by
      rw [constructed.tables]
      exact tablesInStep_iff.mpr ⟨rfl, rfl, rfl⟩) begins run
  exact ⟨fun _ _ _ _ => onSetParametersCallback_rejected,
    fun _ _ _ _ perm distinct => onSetParametersCallback_perm named inStep perm distinct⟩

end Callbacks

section Example

attribute [local instance] libmAtRest

/-- Both motors answer until they are enabled. -/
def crossedBus : Node.Bus where
  setup _ _ := true
  socket name := {
    writes := List.replicate 3 (.written 0)
    reads := List.replicate 3 (if name = "can0" then exampleReply 1 1 else exampleReply 2 2) }

def kalman : String × ParameterValue ℚ := ("vel_filter_type", .string "kalman")

/-- The hip is appended, the knee is rejected. -/
def halfAssignment : Assignment ℚ := exampleAssignment ["hip", "knee"]
  ((jointParameterName "hip" "can_interface", .string "can1") ::
    exampleDefinition "hip" 1 "AK80-6" [] ++ exampleDefinition "knee" 2 "AK80-6" [kalman])

/-- The only joint is rejected. -/
def kneeAssignment : Assignment ℚ := exampleAssignment ["knee"]
  (exampleDefinition "knee" 2 "AK80-6" [kalman])

def crossedAssignment : Assignment ℚ := exampleAssignment ["left", "right"]
  ((jointParameterName "right" "can_interface", .string "can1") ::
    exampleDefinition "left" 1 "AK80-6" [] ++ exampleDefinition "right" 2 "AK80-6" [])

/-- The name of the hip is left by the first attempt, and its entry goes to the right joint. -/
def crossedRun : List (Operation ℚ) :=
  [.configure halfAssignment crossedBus 0, .configure kneeAssignment crossedBus 0,
    .configure crossedAssignment crossedBus 0]

def stiffness (joint : String) (value : ℚ) : Parameter ℚ :=
  { name := jointParameterName joint "k", value := .double value }

def stiffnessAt (index joint : Nat) (node : Node ℚ) : Option ℚ :=
  (jointEntry node.tables.jointParametersPerCanInterface index joint).map (·.frictionParameters.k)

/-- Two names lead to one entry, which has the value that comes last. -/
theorem order_of_batch_matters : ∃ node first second : Node ℚ,
    runSteps operate freshNode crossedRun = some node ∧ node.lifecycle = .inactive ∧
      (onSetParametersCallback asListed [stiffness "hip" 1, stiffness "right" 2]).run node =
        (.returned {}, first) ∧
      (onSetParametersCallback asListed [stiffness "right" 2, stiffness "hip" 1]).run node =
        (.returned {}, second) ∧
      stiffnessAt 1 0 first = some 2 ∧ stiffnessAt 1 0 second = some 1 := by
  obtain ⟨node, run, observed⟩ := Option.map_eq_some_iff.mp
    (show (runSteps operate freshNode crossedRun).map (fun node =>
        let first := (onSetParametersCallback asListed [stiffness "hip" 1, stiffness "right" 2]).run node
        let second := (onSetParametersCallback asListed [stiffness "right" 2, stiffness "hip" 1]).run node
        (node.lifecycle, (first.1, second.1), (stiffnessAt 1 0 first.2, stiffnessAt 1 0 second.2))) =
      some (.inactive, (.returned {}, .returned {}), (some 2, some 1)) by decide +kernel)
  simp only [Prod.mk.injEq] at observed
  obtain ⟨inactive, ⟨accepted, acceptedToo⟩, last, lastToo⟩ := observed
  exact ⟨node, _, _, run, inactive, Prod.ext accepted rfl, Prod.ext acceptedToo rfl, last, lastToo⟩

theorem batches_atomic_and_unordered_leg : ∃ node after : Node ℚ,
    ∃ result resultToo : SetParametersResult,
      runSteps operate freshNode legRun = some node ∧
      (onSetParametersCallback asListed [stiffness "hip" 1, stiffness "knee" 2]).run node =
        (.returned result, after) ∧
      (onSetParametersCallback asListed [stiffness "knee" 2, stiffness "hip" 1]).run node =
        (.returned resultToo, after) := by
  obtain ⟨node, run⟩ := Option.isSome_iff_exists.mp
    (show (runSteps operate freshNode legRun).isSome = true by decide +kernel)
  have begins : EveryStep operate BeginsUnnamed freshNode legRun :=
    ⟨fun _ _ _ _ _ => rfl, fun _ _ => trivial⟩
  obtain ⟨result, resultToo, after, first, second, _⟩ :=
    (batches_atomic_and_unordered freshNode_constructed begins run).2 asListed asListed
      [stiffness "hip" 1, stiffness "knee" 2] _ (.swap _ _ []) (by decide)
  exact ⟨node, after, result, resultToo, run, first, second⟩

end Example

end CubemarsDriver.Node

import CubemarsDriver.Node.ConfiguredBy

namespace CubemarsDriver.Node

open Foundation Can

/-! # The constraints on runtime-reconfigurable parameters

`on_set_parameters_callback` enforces them; `on_configure` stores what it reads. -/

variable {K : Type} [Scalar K]

structure FilterConstrained (alpha beta : K) : Prop where
  alphaPositive : Scalar.zero < alpha
  alphaBounded : alpha ≤ Scalar.one
  betaPositive : Scalar.zero < beta
  betaBounded : beta < Scalar.ofRat 2 * alpha

/-- The entries of one joint in two tables. -/
def jointEntry {α : Type} (rows : List (List α)) (index joint : Nat) : Option α :=
  rows[index]?.bind fun row => row[joint]?

/-- Every joint of the tables has a stable filter and ordered limits. -/
def JointsConstrained (tables : JointTables K) : Prop :=
  ∀ index joint params filter, jointEntry tables.jointParametersPerCanInterface index joint = some params →
    jointEntry tables.jointAbFiltersPerCanInterface index joint = some filter →
    FilterConstrained filter.alpha filter.beta ∧ params.posLimitMin ≤ params.posLimitMax

/-- A size that is not negative and was stored as it was given. -/
def SizeStored (given : Int) (stored : Nat) : Prop := 0 ≤ given ∧ (stored : Int) = given

/-- The state that a configuration with this assignment has left meets every constraint. -/
structure MeetsConstraints (assignment : Assignment K) (node : Node K) : Prop where
  joints : JointsConstrained node.tables
  velFilterSizes : ∀ index joint params,
    jointEntry node.tables.jointParametersPerCanInterface index joint = some params →
    ∃ size, assignment.getInteger (jointParameterName params.name "vel_filter_size") (some 0) =
      .ok size ∧ SizeStored size params.velFilterSize
  maxCanErrors : ∃ value,
    assignment.getInteger "max_can_errors_before_motor_shutdown" (some 1) = .ok value ∧
      1 ≤ value ∧ 1 ≤ node.maxCanErrorsBeforeMotorShutdown

/-- The values given for a joint, or its defaults, are within the constraints and fit
the types they are stored in. -/
structure DefinitionConstrained (assignment : Assignment K) (name : String) : Prop where
  filter : ∃ alpha beta,
    assignment.getDouble (jointParameterName name "alpha") (some (Scalar.ofRat 0.85)) = .ok alpha ∧
    assignment.getDouble (jointParameterName name "beta") (some (Scalar.ofRat 0.005)) = .ok beta ∧
    FilterConstrained alpha beta
  limits : ∃ posLimitMin posLimitMax,
    assignment.getDouble (jointParameterName name "pos_limit_min")
      (some (Scalar.ofRat (-doubleMax))) = .ok posLimitMin ∧
    assignment.getDouble (jointParameterName name "pos_limit_max")
      (some (Scalar.ofRat doubleMax)) = .ok posLimitMax ∧ posLimitMin ≤ posLimitMax
  velFilterSize : ∃ size,
    assignment.getInteger (jointParameterName name "vel_filter_size") (some 0) = .ok size ∧
      0 ≤ size ∧ size < 2 ^ 32

structure AssignmentConstrained (assignment : Assignment K) : Prop where
  joints : ∀ names, assignment.getStringArray "joints" = .ok names →
    ∀ name ∈ names, DefinitionConstrained assignment name
  maxCanErrors : ∃ value,
    assignment.getInteger "max_can_errors_before_motor_shutdown" (some 1) = .ok value ∧
      1 ≤ value ∧ ¬ 2 ^ 32 ∣ value

theorem sizeStored_iff (given : Int) :
    SizeStored given (toUnsigned given) ↔ 0 ≤ given ∧ given < 2 ^ 32 := by
  rw [SizeStored, toUnsigned_eq]
  omega

theorem one_le_toUnsigned (given : Int) : 1 ≤ toUnsigned given ↔ ¬ 2 ^ 32 ∣ given := by
  have stored := toUnsigned_eq given
  omega

/-- The parameters and the filters of the joints are in step. -/
def InStep (tables : JointTables K) : Prop :=
  tables.jointParametersPerCanInterface.map List.length =
    tables.jointAbFiltersPerCanInterface.map List.length

variable {assignment : Assignment K} {left : Node K} {accepted : Accepted K}
variable {node after : Node K} {bus : Bus} {now : Int} {index joint : Nat}

omit [Scalar K] in
theorem Enabled.bound {joints : List (JointConfig K)} (enabled : Enabled joints joint) :
    joint < joints.length := by
  obtain ⟨setZero, can, after, rfl, run⟩ := enabled
  by_contra out
  simp [startMotorControlMode, List.getElem?_eq_none (Nat.le_of_not_lt out)] at run

omit [Scalar K] in
theorem jointEntry_rowsOf {α : Type} {settings : List (JointSettings K)} {count : Nat}
    {entry : JointSettings K → α} {value : α} :
    jointEntry (rowsOf settings count entry) index joint = some value ↔
      index < count ∧ ∃ found, (settings.filter fun joint => joint.canInterfaceId = index)[joint]? =
        some found ∧ entry found = value := by
  by_cases bound : index < count
  · rw [jointEntry, rowsOf_getElem? entry bound]
    simp [bound]
  · simp [jointEntry, bound]

omit [Scalar K] in
theorem rowsOn_empty {α : Type} {base : List (List α)} {settings : List (JointSettings K)}
    (entry : JointSettings K → α) (empty : ∀ row ∈ base, row = []) :
    rowsOn base settings entry = rowsOf settings base.length entry := by
  rw [rowsOf, ← List.eq_replicate_iff.mpr ⟨rfl, empty⟩]

omit [Scalar K] in
theorem resize_inStep {tables : JointTables K} (inStep : InStep tables) (count : Nat) :
    InStep (JointTables.resize tables count) := by
  have lengths {α : Type} (rows : List (List α)) :
      (resize rows count []).map List.length = resize (rows.map List.length) count 0 := by
    simp [resize, List.map_take]
  rw [InStep, JointTables.resize, lengths, lengths, inStep]

namespace ConfiguredBy

variable (configured : ConfiguredBy assignment left accepted node)

include configured

/-- A joint left over from an earlier configuration could not have been enabled. -/
theorem left_empty :
    ∀ row ∈ (JointTables.resize left.tables accepted.count).jointParametersPerCanInterface, row = [] := by
  intro row member
  obtain ⟨index, there⟩ := List.mem_iff_getElem?.mp member
  have interface : index < accepted.count := by
    simpa [JointTables.resize] using (List.getElem?_eq_some_iff.mp there).1
  have params : node.tables.jointParametersPerCanInterface[index]? = some (row ++
      (accepted.settings.filter fun joint => joint.canInterfaceId = index).map (·.params)) := by
    rw [(appendJoints_appended appended_nil configured.tables).params, rowsOn_getElem?, there,
      List.nil_append, Option.map_some]
  have lists : node.jointLists[index]? = some (some
      ((accepted.settings.filter fun joint => joint.canInterfaceId = index).map (·.config))) := by
    rw [configured.lists, List.getElem?_map, rowsOf_getElem? _ interface, Option.map_some]
  by_contra leftOver
  have more := List.length_pos_of_ne_nil leftOver
  obtain ⟨joints, found, enabled⟩ := configured.enabled index _
    (accepted.settings.filter fun joint => joint.canInterfaceId = index).length interface params (by
      rw [List.length_append, List.length_map]
      omega)
  rw [lists, Option.join_some, Option.some.injEq] at found
  have within := enabled.bound
  rw [← found, List.length_map] at within
  exact absurd within (Nat.lt_irrefl _)

theorem params_eq : node.tables.jointParametersPerCanInterface =
    rowsOf accepted.settings accepted.count (·.params) := by
  rw [(appendJoints_appended appended_nil configured.tables).params,
    rowsOn_empty _ configured.left_empty]
  simp [JointTables.resize]

theorem alphaBetas_eq (inStep : InStep left.tables) : node.tables.jointAbFiltersPerCanInterface =
    rowsOf accepted.settings accepted.count fun joint => .create joint.alpha joint.beta := by
  have empty : ∀ row ∈ (JointTables.resize left.tables accepted.count).jointAbFiltersPerCanInterface,
      row = [] := by
    intro row member
    have length : row.length ∈ (JointTables.resize left.tables
        accepted.count).jointAbFiltersPerCanInterface.map List.length := List.mem_map_of_mem member
    rw [← resize_inStep inStep] at length
    obtain ⟨other, there, same⟩ := List.mem_map.mp length
    rw [configured.left_empty other there] at same
    exact List.length_eq_zero_iff.mp same.symm
  rw [(appendJoints_appended appended_nil configured.tables).alphaBetas, rowsOn_empty _ empty]
  simp [JointTables.resize]

/-- Every joint that was read has an entry in the tables. -/
theorem entry_of_mem {found : JointSettings K} (there : found ∈ accepted.settings) :
    ∃ index joint, ∀ {α : Type} (entry : JointSettings K → α),
      jointEntry (rowsOf accepted.settings accepted.count entry) index joint = some (entry found) := by
  obtain ⟨joint, position⟩ := List.mem_iff_getElem?.mp
    (List.mem_filter.mpr ⟨there, decide_eq_true rfl⟩ : found ∈ accepted.settings.filter fun joint =>
      joint.canInterfaceId = found.canInterfaceId)
  exact ⟨found.canInterfaceId, joint, fun entry =>
    jointEntry_rowsOf.mpr ⟨configured.bounds found there, found, position, rfl⟩⟩

/-- Every joint was read from its definition. -/
theorem readFrom_of_mem {found : JointSettings K} (there : found ∈ accepted.settings) :
    ∃ name ∈ accepted.jointNames, ReadFrom assignment (left.msgIdxDefaults accepted.jointNames)
      accepted.seen.canInterfacesNames name found := by
  obtain ⟨name, member, read⟩ := forall₂_exists configured.read.flip there
  exact ⟨name, member, readJoint_readFrom read⟩

end ConfiguredBy

/-- A successful configuration stores what it has read, so the constraints hold exactly if
what it has read meets them. -/
theorem onConfigure_constrained_iff (inStep : InStep node.tables)
    (run : (onConfigure assignment bus now).run node = (.returned .success, after)) :
    MeetsConstraints assignment after ↔ AssignmentConstrained assignment := by
  obtain ⟨accepted, configured⟩ := onConfigure_configuredBy run
  have params := configured.params_eq
  have filters := configured.alphaBetas_eq inStep
  obtain ⟨value, valueRead, valueStored⟩ := configured.maxCanErrors
  constructor
  · intro meets
    constructor
    case joints =>
      intro names namesRead name member
      cases configured.joints.symm.trans namesRead
      obtain ⟨found, there, read⟩ := forall₂_exists configured.read member
      have given := readJoint_readFrom read
      obtain ⟨index, joint, entry⟩ := configured.entry_of_mem there
      have paramsEntry := entry fun joint => joint.params
      have filterEntry := entry fun joint => AlphaBetaFilter.create joint.alpha joint.beta
      rw [← params] at paramsEntry
      rw [← filters] at filterEntry
      obtain ⟨filterMeets, limitsMeet⟩ := meets.joints index joint _ _ paramsEntry filterEntry
      obtain ⟨size, sizeRead, sized⟩ := meets.velFilterSizes index joint _ paramsEntry
      obtain ⟨size', sizeRead', stored⟩ := given.velFilterSize
      rw [given.name] at sizeRead
      cases sizeRead.symm.trans sizeRead'
      rw [stored, sizeStored_iff] at sized
      exact {
        filter := ⟨_, _, given.alpha, given.beta, filterMeets⟩
        limits := ⟨_, _, given.posLimitMin, given.posLimitMax, limitsMeet⟩
        velFilterSize := ⟨size, sizeRead, sized⟩ }
    case maxCanErrors =>
      obtain ⟨other, otherRead, positive, stored⟩ := meets.maxCanErrors
      cases valueRead.symm.trans otherRead
      rw [valueStored, one_le_toUnsigned] at stored
      exact ⟨value, valueRead, positive, stored⟩
  · intro given
    constructor
    case joints =>
      intro index joint jointParams filter paramsEntry filterEntry
      rw [params, jointEntry_rowsOf] at paramsEntry
      rw [filters, jointEntry_rowsOf] at filterEntry
      obtain ⟨_, found, there, rfl⟩ := paramsEntry
      obtain ⟨_, found', there', rfl⟩ := filterEntry
      cases there.symm.trans there'
      obtain ⟨name, member, read⟩ := configured.readFrom_of_mem
        (List.mem_filter.mp (List.mem_of_getElem? there)).1
      have constrained := given.joints _ configured.joints name member
      obtain ⟨alpha, beta, alphaRead, betaRead, filterMeets⟩ := constrained.filter
      obtain ⟨posLimitMin, posLimitMax, minRead, maxRead, limitsMeet⟩ := constrained.limits
      cases read.alpha.symm.trans alphaRead
      cases read.beta.symm.trans betaRead
      cases read.posLimitMin.symm.trans minRead
      cases read.posLimitMax.symm.trans maxRead
      exact ⟨filterMeets, limitsMeet⟩
    case velFilterSizes =>
      intro index joint jointParams paramsEntry
      rw [params, jointEntry_rowsOf] at paramsEntry
      obtain ⟨_, found, there, rfl⟩ := paramsEntry
      obtain ⟨name, member, read⟩ := configured.readFrom_of_mem
        (List.mem_filter.mp (List.mem_of_getElem? there)).1
      obtain ⟨size, sizeRead, within⟩ := (given.joints _ configured.joints name member).velFilterSize
      obtain ⟨size', sizeRead', stored⟩ := read.velFilterSize
      cases sizeRead.symm.trans sizeRead'
      exact ⟨size, read.name ▸ sizeRead, by rw [stored, sizeStored_iff]; exact within⟩
    case maxCanErrors =>
      obtain ⟨other, otherRead, positive, stored⟩ := given.maxCanErrors
      cases valueRead.symm.trans otherRead
      exact ⟨value, valueRead, positive, by rwa [valueStored, one_le_toUnsigned]⟩

end CubemarsDriver.Node

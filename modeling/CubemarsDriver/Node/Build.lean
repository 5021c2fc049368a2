import CubemarsDriver.Foundation.Relations
import CubemarsDriver.Node.Configure

namespace CubemarsDriver

open Foundation Can

/-! # The tables that `on_configure` builds -/

variable {K : Type}

theorem checked_bind_ok {ε α β : Type} {first : Except ε α} {next : α → Except ε β} {result : β} :
    first >>= next = .ok result ↔ ∃ value, first = .ok value ∧ next value = .ok result := by
  cases first with
  | error exception => simp [bind, Except.bind]
  | ok value => simp [bind, Except.bind]

namespace Node

section Rows

variable {α : Type} {base rows after : List (List α)} {row : List α} {value : α}
variable {settings : List (JointSettings K)} {joint : JointSettings K} {count index : Nat}

/-- The rows of a table after every joint appended its entry to the row of its interface. -/
def rowsOn (base : List (List α)) (settings : List (JointSettings K))
    (entry : JointSettings K → α) : List (List α) :=
  base.mapIdx fun index row =>
    row ++ (settings.filter fun joint => joint.canInterfaceId = index).map entry

/-- The rows of a table that was empty. -/
def rowsOf (settings : List (JointSettings K)) (count : Nat) (entry : JointSettings K → α) :
    List (List α) := rowsOn (List.replicate count []) settings entry

variable (entry : JointSettings K → α)

@[simp] theorem rowsOn_length : (rowsOn base settings entry).length = base.length := by
  simp [rowsOn]

@[simp] theorem rowsOf_length : (rowsOf settings count entry).length = count := by
  simp [rowsOf]

@[simp] theorem rowsOn_nil : rowsOn base [] entry = base := by
  apply List.ext_getElem?
  simp [rowsOn]

theorem rowsOf_nil : rowsOf [] count entry = List.replicate count [] := rowsOn_nil entry

theorem rowsOn_getElem? : (rowsOn base settings entry)[index]? = base[index]?.map fun row =>
    row ++ (settings.filter fun joint => joint.canInterfaceId = index).map entry := by
  simp [rowsOn]

theorem rowsOf_getElem? (bound : index < count) : (rowsOf settings count entry)[index]? =
    some ((settings.filter fun joint => joint.canInterfaceId = index).map entry) := by
  rw [rowsOf, rowsOn_getElem?, List.getElem?_replicate_of_lt bound]
  simp

theorem pushAt_eq_some : pushAt rows index value = some after ↔
    ∃ row, rows[index]? = some row ∧ after = rows.set index (row ++ [value]) := by
  simp only [pushAt, Option.bind_eq_bind, Option.bind_eq_some_iff, storeAt_eq_some]
  constructor
  · rintro ⟨row, found, _, changed⟩
    exact ⟨row, found, changed⟩
  · rintro ⟨row, found, changed⟩
    exact ⟨row, found, (List.getElem?_eq_some_iff.mp found).1, changed⟩

/-- The entry of one more joint. -/
theorem rowsOn_append (found : base[joint.canInterfaceId]? = some row) :
    (rowsOn base settings entry).set joint.canInterfaceId
      (row ++ (settings.filter fun other => other.canInterfaceId = joint.canInterfaceId).map entry ++
        [entry joint]) = rowsOn base (settings ++ [joint]) entry := by
  have bound := (List.getElem?_eq_some_iff.mp found).1
  apply List.ext_getElem?
  intro index
  by_cases own : index = joint.canInterfaceId
  · subst own
    rw [List.getElem?_set_self (by simpa using bound), rowsOn_getElem?, found]
    simp
  · rw [List.getElem?_set_ne (Ne.symm own), rowsOn_getElem?, rowsOn_getElem?]
    simp [Ne.symm own]

theorem pushAt_rowsOn :
    pushAt (rowsOn base settings entry) joint.canInterfaceId (entry joint) = some after ↔
      joint.canInterfaceId < base.length ∧ after = rowsOn base (settings ++ [joint]) entry := by
  rw [pushAt_eq_some]
  constructor
  · rintro ⟨_, found, rfl⟩
    rw [rowsOn_getElem?, Option.map_eq_some_iff] at found
    obtain ⟨row, there, rfl⟩ := found
    exact ⟨(List.getElem?_eq_some_iff.mp there).1, rowsOn_append entry there⟩
  · rintro ⟨bound, rfl⟩
    have there := List.getElem?_eq_getElem bound
    exact ⟨_, by rw [rowsOn_getElem?, there, Option.map_some], (rowsOn_append entry there).symm⟩

theorem pushAt_rowsOf :
    pushAt (rowsOf settings count entry) joint.canInterfaceId (entry joint) = some after ↔
      joint.canInterfaceId < count ∧ after = rowsOf (settings ++ [joint]) count entry := by
  rw [rowsOf, pushAt_rowsOn, List.length_replicate, rowsOf]

end Rows

section Tables

variable [Scalar K]

/-- The rows of the tables have grown by exactly these joints, in this order. -/
structure Appended (base : JointTables K) (settings : List (JointSettings K))
    (tables : JointTables K) : Prop where
  cmds : tables.jointCommandsPerCanInterface =
    rowsOn base.jointCommandsPerCanInterface settings fun _ => initialJointCmd
  states : tables.jointStatesPerCanInterface =
    rowsOn base.jointStatesPerCanInterface settings fun _ => initialJointState
  params : tables.jointParametersPerCanInterface =
    rowsOn base.jointParametersPerCanInterface settings (·.params)
  averages : tables.jointVelFiltersPerCanInterface =
    rowsOn base.jointVelFiltersPerCanInterface settings
      fun joint => .create joint.params.velFilterSize
  alphaBetas : tables.jointAbFiltersPerCanInterface =
    rowsOn base.jointAbFiltersPerCanInterface settings
      fun joint => .create joint.alpha joint.beta
  medians : tables.jointPosMedianFiltersPerCanInterface =
    rowsOn base.jointPosMedianFiltersPerCanInterface settings
      fun joint => .create joint.params.posMedianFilterSize
  lastRxNs : tables.lastJointRxNsPerCanInterface =
    rowsOn base.lastJointRxNsPerCanInterface settings fun _ => 0

/-- The map leads from the names of the joints to their entries. -/
structure Located (settings : List (JointSettings K)) (map : List (String × Nat × Nat)) : Prop where
  names : map.map Prod.fst = settings.map (·.params.name)
  entries : ∀ entry ∈ map, ∃ joint,
    (settings.filter fun joint => joint.canInterfaceId = entry.2.1)[entry.2.2]? = some joint ∧
      joint.params.name = entry.1

variable {settings more : List (JointSettings K)} {joint : JointSettings K}
variable {base tables after : JointTables K}

theorem appended_nil : Appended base [] base := by
  constructor <;> simp

/-- The tables that `on_configure` resizes, with one more joint. -/
theorem appendJoint_appended (appended : Appended base settings tables)
    (changed : appendJoint joint tables = some after) :
    Appended base (settings ++ [joint]) after ∧
      joint.canInterfaceId < base.jointParametersPerCanInterface.length ∧
      after.jointNameToCanIfaceAndIdx = assignKey tables.jointNameToCanIfaceAndIdx
        joint.params.name (joint.canInterfaceId,
          (after.jointParametersPerCanInterface[joint.canInterfaceId]?.getD []).length - 1) := by
  simp only [appendJoint, Option.bind_eq_bind, Option.bind_eq_some_iff, Option.some.injEq,
    appended.cmds, appended.states, appended.params, appended.averages, appended.alphaBetas,
    appended.medians, appended.lastRxNs] at changed
  obtain ⟨_, params, _, cmds, _, states, _, averages, _, alphaBetas, _, medians, _, lastRxNs,
    rfl⟩ := changed
  refine ⟨?_, ((pushAt_rowsOn (·.params)).mp params).1, rfl⟩
  constructor
  case cmds => exact ((pushAt_rowsOn fun _ => initialJointCmd).mp cmds).2
  case states => exact ((pushAt_rowsOn fun _ => initialJointState).mp states).2
  case params => exact ((pushAt_rowsOn (·.params)).mp params).2
  case averages =>
    exact ((pushAt_rowsOn fun joint : JointSettings K =>
      MovingAverage.create (K := K) joint.params.velFilterSize).mp averages).2
  case alphaBetas =>
    exact ((pushAt_rowsOn fun joint : JointSettings K =>
      AlphaBetaFilter.create joint.alpha joint.beta).mp alphaBetas).2
  case medians =>
    exact ((pushAt_rowsOn fun joint : JointSettings K =>
      MedianFilter.create (K := K) joint.params.posMedianFilterSize).mp medians).2
  case lastRxNs => exact ((pushAt_rowsOn fun _ => (0 : Int)).mp lastRxNs).2

omit [Scalar K] in
theorem assignKey_fresh {α : Type} {map : List (String × α)} {key : String} {value : α}
    (fresh : key ∉ map.map Prod.fst) : assignKey map key value = map ++ [(key, value)] := by
  rw [assignKey, List.filter_eq_self.mpr]
  intro entry member
  simp only [decide_eq_true_eq]
  rintro rfl
  exact fresh (List.mem_map_of_mem member)

omit [Scalar K] in
/-- The joints of an interface stay where they are when another one is appended. -/
theorem filter_append_getElem? {index position : Nat} {found : JointSettings K}
    (there : (settings.filter fun joint => joint.canInterfaceId = index)[position]? = some found) :
    ((settings ++ [joint]).filter fun joint => joint.canInterfaceId = index)[position]? =
      some found := by
  rw [List.filter_append,
    List.getElem?_append_left (List.getElem?_eq_some_iff.mp there).1, there]

omit [Scalar K] in
theorem Located.append {map : List (String × Nat × Nat)} (located : Located settings map)
    (fresh : joint.params.name ∉ settings.map (·.params.name)) :
    Located (settings ++ [joint]) (assignKey map joint.params.name (joint.canInterfaceId,
      (settings.filter fun other => other.canInterfaceId = joint.canInterfaceId).length)) := by
  rw [assignKey_fresh (located.names ▸ fresh)]
  constructor
  case names => simp [located.names]
  case entries =>
    intro entry member
    rcases List.mem_append.mp member with old | new
    · obtain ⟨found, there, named⟩ := located.entries entry old
      exact ⟨found, filter_append_getElem? there, named⟩
    · rw [List.mem_singleton.mp new]
      exact ⟨joint, by simp, rfl⟩

/-- Append the joints one by one. -/
def appendJoints (joints : List (JointSettings K)) (tables : JointTables K) :
    Option (JointTables K) :=
  joints.foldlM (fun tables joint => appendJoint joint tables) tables

theorem appendJoints_appended (appended : Appended base settings tables)
    (changed : appendJoints more tables = some after) :
    Appended base (settings ++ more) after := by
  induction more generalizing settings tables with
  | nil =>
      cases changed
      simpa using appended
  | cons joint rest ih =>
      simp only [appendJoints, List.foldlM_cons, Option.bind_eq_bind,
        Option.bind_eq_some_iff] at changed
      obtain ⟨next, first, remaining⟩ := changed
      simpa using ih (appendJoint_appended appended first).1 remaining

/-- In tables that were empty every joint is found by its name. -/
theorem appendJoints_located (appended : Appended base settings tables)
    (empty : ∀ row ∈ base.jointParametersPerCanInterface, row = [])
    (located : Located settings tables.jointNameToCanIfaceAndIdx)
    (distinct : ((settings ++ more).map (·.params.name)).Nodup)
    (changed : appendJoints more tables = some after) :
    Located (settings ++ more) after.jointNameToCanIfaceAndIdx := by
  induction more generalizing settings tables with
  | nil =>
      cases changed
      simpa using located
  | cons joint rest ih =>
      simp only [appendJoints, List.foldlM_cons, Option.bind_eq_bind,
        Option.bind_eq_some_iff] at changed
      obtain ⟨next, first, remaining⟩ := changed
      obtain ⟨appendedNext, bound, map⟩ := appendJoint_appended appended first
      have fresh : joint.params.name ∉ settings.map (·.params.name) := by
        intro member
        rw [List.map_append, List.map_cons] at distinct
        exact (List.nodup_append.mp distinct).2.2 _ member _ List.mem_cons_self rfl
      have position : (next.jointParametersPerCanInterface[joint.canInterfaceId]?.getD
          []).length - 1 =
          (settings.filter fun other => other.canInterfaceId = joint.canInterfaceId).length := by
        have row := List.getElem?_eq_getElem bound
        rw [empty _ (List.getElem_mem bound)] at row
        rw [appendedNext.params, rowsOn_getElem?, row]
        simp
      rw [position] at map
      have locatedNext := located.append fresh
      rw [← map] at locatedNext
      simpa using ih appendedNext locatedNext (by simpa using distinct) remaining

end Tables

section Reading

variable [Scalar K]
variable {assignment : Assignment K} {defaults : String → Nat} {names : List String} {name : String}
variable {joint : JointSettings K}

/-- The settings of a joint come from its parameters. -/
structure ReadFrom (assignment : Assignment K) (defaults : String → Nat) (names : List String)
    (name : String) (joint : JointSettings K) : Prop where
  canInterface : ∃ canInterface,
    assignment.getString (jointParameterName name "can_interface") none = .ok canInterface ∧
      joint.canInterfaceId = names.idxOf canInterface
  canId : ∃ canId, assignment.getInteger (jointParameterName name "can_id") none = .ok canId ∧
    joint.config.canId = BitVec.ofInt 32 canId
  msgIdx : ∃ msgIdx, msgIdxParameter assignment defaults name = .ok msgIdx ∧
    joint.params.msgIdx = toUnsigned msgIdx
  velFilterSize : ∃ size,
    assignment.getInteger (jointParameterName name "vel_filter_size") (some 0) = .ok size ∧
      joint.params.velFilterSize = toUnsigned size
  alpha : assignment.getDouble (jointParameterName name "alpha") (some (Scalar.ofRat 0.85)) =
    .ok joint.alpha
  beta : assignment.getDouble (jointParameterName name "beta") (some (Scalar.ofRat 0.005)) =
    .ok joint.beta
  posLimitMin : assignment.getDouble (jointParameterName name "pos_limit_min")
    (some (Scalar.ofRat (-doubleMax))) = .ok joint.params.posLimitMin
  posLimitMax : assignment.getDouble (jointParameterName name "pos_limit_max")
    (some (Scalar.ofRat doubleMax)) = .ok joint.params.posLimitMax
  transmissionRatio : assignment.getDouble (jointParameterName name "transmission_ratio")
    (some Scalar.one) = .ok joint.params.transmissionRatio
  vS : assignment.getDouble (jointParameterName name "v_s") (some Scalar.one) =
    .ok joint.params.frictionParameters.vS
  name : joint.params.name = name

theorem readJoint_readFrom (read : readJoint assignment defaults names name = .ok (some joint)) :
    ReadFrom assignment defaults names name joint := by
  simp only [readJoint, checked_bind_ok] at read
  obtain ⟨_, _, motorConfig, _, canId, canIdRead, invert, _, msgIdx, msgIdxRead, canInterface,
    canInterfaceRead, size, sizeRead, _, _, read⟩ := read
  split at read
  · cases read
  · simp only [checked_bind_ok] at read
    obtain ⟨alpha, alphaRead, beta, betaRead, medianSize, _, read⟩ := read
    split at read
    · cases read
    · simp only [checked_bind_ok] at read
      obtain ⟨posLimitMin, minRead, posLimitMax, maxRead, ratio, ratioRead, friction, frictionRead, _,
        _, _, _, read⟩ := read
      simp only [readFriction, checked_bind_ok] at frictionRead
      obtain ⟨_, _, _, _, vS, vSRead, _, _, _, _, _, _, frictionRead⟩ := frictionRead
      cases frictionRead
      cases read
      exact {
        canInterface := ⟨canInterface, canInterfaceRead, rfl⟩
        canId := ⟨canId, canIdRead, rfl⟩
        msgIdx := ⟨msgIdx, msgIdxRead, rfl⟩
        velFilterSize := ⟨size, sizeRead, rfl⟩
        alpha := alphaRead, beta := betaRead, posLimitMin := minRead, posLimitMax := maxRead
        transmissionRatio := ratioRead, vS := vSRead, name := rfl }

variable {settings : List (JointSettings K)} {count : Nat} {rest : List String}
variable {configs built : JointConfigs K} {node after : Node K}

omit [Scalar K] in
theorem checked_run_returned {α : Type} {result : Checked α} {value : α} :
    (checked result : NodePath K α).run node = (.returned value, after) ↔
      result = .ok value ∧ after = node := by
  cases result with
  | ok found => simp [checked, eq_comm]
  | error exception => simp [checked]

/-- The loop reads the joints and appends them. -/
theorem buildTables_appends
    (run : (buildTables assignment defaults names rest (rowsOf settings count (·.config))).run node =
      (.returned (some built), after)) :
    ∃ more, List.Forall₂ (fun name joint =>
        readJoint assignment defaults names name = .ok (some joint)) rest more ∧
      appendJoints more node.tables = some after.tables ∧
      built = rowsOf (settings ++ more) count (·.config) ∧
      (∀ joint ∈ more, joint.canInterfaceId < count) ∧
      after = { node with tables := after.tables } := by
  induction rest generalizing settings node with
  | nil =>
      cases run
      exact ⟨[], .nil, rfl, by simp, by simp, rfl⟩
  | cons name rest ih =>
      simp only [buildTables, Path.bind_run_returned, checked_run_returned] at run
      obtain ⟨found, _, ⟨read, rfl⟩, run⟩ := run
      cases found with
      | none => simp at run
      | some joint =>
          simp only [Path.bind_run_returned, Path.element_run_returned,
            Path.updateDefined_run_returned, Option.map_eq_some_iff] at run
          obtain ⟨pushed, _, ⟨configPushed, rfl⟩, _, _, ⟨tables, appended, rfl⟩, run⟩ := run
          obtain ⟨bound, rfl⟩ := (pushAt_rowsOf (·.config)).mp configPushed
          obtain ⟨more, reads, appendedAll, builtAll, bounds, same⟩ := ih run
          refine ⟨joint :: more, .cons read reads, ?_, ?_, ?_, ?_⟩
          · simpa [appendJoints, List.foldlM_cons, appended] using appendedAll
          · simpa using builtAll
          · simpa [bound] using bounds
          · rw [same]

omit [Scalar K] in
theorem readGlobals_reads {jointNames : List String}
    (run : (readGlobals assignment).run node = (.returned jointNames, after)) :
    assignment.getStringArray "joints" = .ok jointNames ∧ after.tables = node.tables ∧
      after.declaredMsgIdxs = node.declaredMsgIdxs ∧
      ∃ maxCanErrors,
        assignment.getInteger "max_can_errors_before_motor_shutdown" (some 1) = .ok maxCanErrors ∧
          after.maxCanErrorsBeforeMotorShutdown = toUnsigned maxCanErrors := by
  simp only [readGlobals, Path.bind_run_returned, checked_run_returned, Path.update_bind] at run
  obtain ⟨_, _, ⟨_, rfl⟩, maxCanErrors, _, ⟨maxRead, rfl⟩, _, _, ⟨_, rfl⟩, _, _, ⟨_, rfl⟩, _, _,
    ⟨namesRead, rfl⟩, _, _, ⟨_, rfl⟩, _, _, ⟨_, rfl⟩, _, _, ⟨_, rfl⟩, run⟩ := run
  cases run
  exact ⟨namesRead, rfl, rfl, maxCanErrors, maxRead, rfl⟩

omit [Scalar K] in
theorem msgIdxDefaults_of_same (same : after.declaredMsgIdxs = node.declaredMsgIdxs)
    (jointNames : List String) : after.msgIdxDefaults jointNames = node.msgIdxDefaults jointNames := by
  funext name
  rw [msgIdxDefaults, same, msgIdxDefaults]

section Evolves

variable {relation : Node K → Node K → Prop} [IsPreorder (Node K) relation]

omit [Scalar K] in
theorem checked_evolves {α : Type} (result : Checked α) :
    Path.Evolves relation (checked result : NodePath K α) := by
  cases result with
  | ok value => exact Path.Evolves.pure value
  | error exception => exact Path.Evolves.throw exception

omit [Scalar K] in
theorem readGlobals_evolves
    (settings : ∀ (node : Node K) dampingOnMotorError maxCanErrors enableTxTimestamping
      enableCanErrorFrames, relation node { node with
        dampingOnMotorError, maxCanErrorsBeforeMotorShutdown := maxCanErrors
        enableTxTimestamping, enableCanErrorFrames })
    (damping : ∀ (node : Node K) defaultDampingKD frequency watchdogFrequency, relation node { node with
      defaultDampingKD, frequency, watchdogFrequency }) :
    Path.Evolves relation (readGlobals assignment) := by
  refine Path.Evolves.bind (checked_evolves _) fun _ => ?_
  refine Path.Evolves.bind (checked_evolves _) fun _ => ?_
  refine Path.Evolves.bind (checked_evolves _) fun _ => ?_
  refine Path.Evolves.bind (checked_evolves _) fun _ => ?_
  refine Path.Evolves.bind (Path.Evolves.update fun node => settings node _ _ _ _) fun _ => ?_
  refine Path.Evolves.bind (checked_evolves _) fun _ => ?_
  refine Path.Evolves.bind (checked_evolves _) fun _ => ?_
  refine Path.Evolves.bind (checked_evolves _) fun _ => ?_
  refine Path.Evolves.bind (checked_evolves _) fun _ => ?_
  exact Path.Evolves.bind (Path.Evolves.update fun node => damping node _ _ _) fun _ =>
    Path.Evolves.pure _

theorem buildTables_evolves
    (stored : ∀ (node : Node K) settings tables, appendJoint settings node.tables = some tables →
      relation node { node with tables }) (rest : List String) :
    Path.Evolves relation (buildTables assignment defaults names rest configs) := by
  induction rest generalizing configs with
  | nil => exact Path.Evolves.pure _
  | cons name rest ih =>
      refine Path.Evolves.bind (checked_evolves _) fun found => ?_
      cases found with
      | none => exact Path.Evolves.pure _
      | some settings =>
          refine Path.Evolves.bind (Path.Evolves.element _) fun _ => ?_
          refine Path.Evolves.bind (Path.Evolves.updateDefined fun node after changed => ?_) fun _ => ih
          obtain ⟨tables, appended, rfl⟩ := Option.map_eq_some_iff.mp changed
          exact stored node settings tables appended

omit [Scalar K] in
theorem createTimer_evolves (frequency : Int) :
    Path.Evolves relation (createTimer frequency : NodePath K Unit) :=
  Path.Evolves.when fun _ => Path.Evolves.throw _

omit [Scalar K] in
theorem createTimer_run (frequency : Int) : (createTimer frequency).run node =
    (if 0 < frequency then .returned () else .thrown .invalidArgument, node) := by
  rw [createTimer, Path.when]
  by_cases positive : 0 < frequency
  · rw [if_pos positive, if_neg (by omega)]
    rfl
  · rw [if_neg positive, if_pos (by omega)]
    rfl

omit [Scalar K] in
theorem startPublishing_run : startPublishing.run node =
    if 0 < node.frequency then
      (.returned (), { node with publishTimer := true, jointCmdSub := true })
    else (.thrown .invalidArgument, node) := by
  rw [startPublishing, Path.read_bind, Path.bind_run, createTimer_run]
  by_cases positive : 0 < node.frequency
  · rw [if_pos positive, if_pos positive]
    rfl
  · rw [if_neg positive, if_neg positive]

omit [Scalar K] in
theorem startPublishing_returned (run : startPublishing.run node = (.returned (), after)) :
    after = { node with publishTimer := true, jointCmdSub := true } := by
  rw [startPublishing_run] at run
  split at run
  · cases run
    rfl
  · cases run

omit [Scalar K] in
theorem startSupervisor_run : startSupervisor.run node =
    if node.supervisorTimer = true ∨ 0 < node.watchdogFrequency then
      (.returned (), { node with supervisorTimer := true })
    else (.thrown .invalidArgument, node) := by
  rw [startSupervisor, Path.read_bind, Path.when]
  cases timer : node.supervisorTimer with
  | true =>
      rw [if_neg (by simp), if_pos (.inl rfl), ← timer]
      rfl
  | false =>
      rw [if_pos rfl, Path.read_bind, Path.bind_run, createTimer_run]
      by_cases positive : 0 < node.watchdogFrequency
      · rw [if_pos positive, if_pos (.inr positive)]
        rfl
      · rw [if_neg positive, if_neg (by simp [positive])]

omit [Scalar K] in
theorem startPublishing_evolves
    (published : ∀ node : Node K, relation node { node with publishTimer := true, jointCmdSub := true }) :
    Path.Evolves relation (startPublishing : NodePath K Unit) :=
  Path.Evolves.bind (Path.Evolves.read _) fun _ =>
    Path.Evolves.bind (createTimer_evolves _) fun _ => Path.Evolves.update published

omit [Scalar K] in
theorem startSupervisor_evolves
    (supervised : ∀ node : Node K, relation node { node with supervisorTimer := true }) :
    Path.Evolves relation (startSupervisor : NodePath K Unit) :=
  Path.Evolves.bind (Path.Evolves.read _) fun _ => Path.Evolves.when fun _ =>
    Path.Evolves.bind (Path.Evolves.read _) fun _ =>
      Path.Evolves.bind (createTimer_evolves _) fun _ => Path.Evolves.update supervised

omit [Scalar K] in
theorem onActivate_evolves
    (watched : ∀ node : Node K, relation node { node with watchdogTimer := true }) :
    Path.Evolves relation (onActivate : NodePath K CallbackReturn) :=
  Path.Evolves.bind (Path.Evolves.read _) fun _ => Path.Evolves.ite
    (fun _ => Path.Evolves.bind (Path.Evolves.read _) fun _ =>
      Path.Evolves.bind (createTimer_evolves _) fun _ =>
        Path.Evolves.bind (Path.Evolves.update watched) fun _ => Path.Evolves.pure _)
    fun _ => Path.Evolves.pure _

omit [Scalar K] in
theorem createInterfaces_evolves {bus : Bus}
    (stored : ∀ (node : Node K) canInterfaces, relation node { node with canInterfaces })
    (items : List (String × Nat)) :
    Path.Evolves relation (createInterfaces assignment bus configs items) := by
  induction items with
  | nil => exact Path.Evolves.pure _
  | cons item rest ih =>
      refine Path.Evolves.bind (Path.Evolves.element _) fun _ => ?_
      refine Path.Evolves.bind (checked_evolves _) fun _ => ?_
      refine Path.Evolves.bind (checked_evolves _) fun _ => ?_
      refine Path.Evolves.bind (checked_evolves _) fun _ => ?_
      refine Path.Evolves.bind (checked_evolves _) fun _ => ?_
      refine Path.Evolves.bind (Path.Evolves.read _) fun _ => ?_
      refine Path.Evolves.bind (Path.Evolves.read _) fun _ => ?_
      refine Path.Evolves.bind (checked_evolves _) fun _ => ?_
      exact Path.Evolves.bind (Path.Evolves.updateFound fun node _ => stored node _) fun _ => ih

/-- What a configuration keeps, from what its parts keep. -/
theorem configureNode_evolves {bus : Bus} {now : Int}
    (globals : Path.Evolves relation (readGlobals assignment))
    (declared : ∀ (node : Node K) jointNames, assignment.getStringArray "joints" = .ok jointNames →
      relation node (declareMsgIdxs assignment jointNames node))
    (prepared : ∀ (node : Node K) seen count, relation node (prepareTables seen count now node))
    (built : ∀ defaults names rest configs,
      Path.Evolves relation (buildTables assignment defaults names rest configs))
    (created : ∀ configs items, Path.Evolves relation (createInterfaces assignment bus configs items))
    (published : Path.Evolves relation (startPublishing : NodePath K Unit))
    (motors : ∀ configs, Path.Evolves relation (startMotors configs)) :
    Path.Evolves relation (configureNode assignment bus now) := by
  refine Path.Evolves.bind_reached globals fun jointNames ⟨_, _, run⟩ => ?_
  have given := (readGlobals_reads run).1
  refine Path.Evolves.bind (Path.Evolves.read _) fun defaults => ?_
  refine Path.Evolves.bind (Path.Evolves.update fun node => declared node jointNames given) fun _ => ?_
  refine Path.Evolves.bind (checked_evolves _) fun found => ?_
  cases found with
  | none => exact Path.Evolves.pure _
  | some seen =>
      refine Path.Evolves.bind (Path.Evolves.update fun node => prepared node seen _) fun _ => ?_
      refine Path.Evolves.bind (built _ _ _ _) fun result => ?_
      cases result with
      | none => exact Path.Evolves.pure _
      | some configs =>
          refine Path.Evolves.bind (created _ _) fun _ => ?_
          exact Path.Evolves.bind published fun _ => motors configs

end Evolves

end Reading

end Node

end CubemarsDriver

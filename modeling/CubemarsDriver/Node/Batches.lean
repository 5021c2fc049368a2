import CubemarsDriver.Node.JointNames

namespace CubemarsDriver.Node

open Foundation Can

/-! # Accepted parameter batches

An accepted batch changes the entry of each joint it names by one update, and each
update has passed the checks against the entry that it changes. -/

variable {K : Type} [Scalar K] {index joint : Nat} {node before after : Node K}
variable {tables changed : JointTables K} {update : PerJointUpdate K} {pending : PendingUpdates K}

/-- The new gains that the parser lets through. -/
structure GainsParsed (update : PerJointUpdate K) : Prop where
  alpha : ∀ alpha, update.alpha = some alpha → Scalar.zero < alpha ∧ alpha ≤ Scalar.one
  beta : ∀ beta, update.beta = some beta → ¬ beta ≤ Scalar.zero

theorem gainsParsed_empty : GainsParsed ({} : PerJointUpdate K) := ⟨nofun, nofun⟩

theorem GainsParsed.of_same {updated : PerJointUpdate K} (parsed : GainsParsed update)
    (alpha : updated.alpha = update.alpha) (beta : updated.beta = update.beta) :
    GainsParsed updated :=
  ⟨by rw [alpha]; exact parsed.alpha, by rw [beta]; exact parsed.beta⟩

theorem parseField_gains {name field : String} {value : ParameterValue K} {updated : PerJointUpdate K}
    (parsed : GainsParsed update) (accepted : parseField name field value update = .ok updated) :
    GainsParsed updated := by
  unfold parseField at accepted
  split at accepted
  case h_4 =>
    obtain ⟨alpha, _, accepted⟩ := checked_bind_ok.mp accepted
    split at accepted
    · rename_i within
      cases accepted
      refine ⟨fun other given => ?_, parsed.beta⟩
      cases given
      exact within
    · cases accepted
  case h_5 =>
    obtain ⟨beta, _, accepted⟩ := checked_bind_ok.mp accepted
    split at accepted
    · cases accepted
    · rename_i positive
      cases accepted
      refine ⟨parsed.alpha, fun other given => ?_⟩
      cases given
      exact positive
  case h_1 =>
    obtain ⟨type, _, accepted⟩ := checked_bind_ok.mp accepted
    split at accepted
    · cases accepted
      exact parsed.of_same rfl rfl
    · cases accepted
  case h_14 => cases accepted
  all_goals
    obtain ⟨_, _, accepted⟩ := checked_bind_ok.mp accepted
    cases accepted
    exact parsed.of_same rfl rfl

/-- Every joint has at most one update. -/
structure Parsed (pending : PendingUpdates K) : Prop where
  names : (pending.updates.map Prod.fst).Nodup
  gains : ∀ entry ∈ pending.updates, GainsParsed entry.2

omit [Scalar K] in
theorem nodup_assignKey {α : Type} {map : List (String × α)} {key : String} {value : α}
    (nodup : (map.map Prod.fst).Nodup) : ((assignKey map key value).map Prod.fst).Nodup := by
  rw [assignKey, List.map_append, List.nodup_append]
  refine ⟨nodup.sublist (List.filter_sublist.map _), by simp, fun name member other new => ?_⟩
  obtain ⟨entry, kept, rfl⟩ := List.mem_map.mp member
  have different := (List.mem_filter.mp kept).2
  obtain rfl : other = key := by simpa using new
  simpa using different

theorem Parsed.assignKey {joint : String} (parsed : Parsed pending) (gains : GainsParsed update) :
    Parsed { pending with updates := assignKey pending.updates joint update } := by
  refine ⟨nodup_assignKey parsed.names, fun entry member => ?_⟩
  rcases List.mem_append.mp member with old | new
  · exact parsed.gains entry (List.mem_filter.mp old).1
  · obtain rfl := List.mem_singleton.mp new
    exact gains

theorem Parsed.lookup (parsed : Parsed pending) (joint : String) :
    GainsParsed ((pending.updates.lookup joint).getD {}) := by
  cases found : pending.updates.lookup joint with
  | none => exact gainsParsed_empty
  | some update =>
      obtain ⟨before, after, split, _⟩ := List.lookup_eq_some_iff.mp found
      exact parsed.gains (joint, update) (by rw [split]; simp)

theorem parseParameter_parsed {map : List (String × Nat × Nat)} {parameter : Parameter K}
    {updated : PendingUpdates K} (parsed : Parsed pending)
    (accepted : parseParameter map pending parameter = .ok updated) : Parsed updated := by
  obtain ⟨name, value⟩ := parameter
  simp only [parseParameter] at accepted
  split at accepted
  case h_4 =>
    simp only [parseJointParameter] at accepted
    split at accepted
    · cases accepted
    split at accepted
    · cases accepted
    obtain ⟨update, read, accepted⟩ := checked_bind_ok.mp accepted
    cases accepted
    exact parsed.assignKey (parseField_gains (parsed.lookup _) read)
  case h_3 =>
    obtain ⟨limit, _, accepted⟩ := checked_bind_ok.mp accepted
    split at accepted
    · cases accepted
    · cases accepted
      exact ⟨parsed.names, parsed.gains⟩
  all_goals
    obtain ⟨_, _, accepted⟩ := checked_bind_ok.mp accepted
    cases accepted
    exact ⟨parsed.names, parsed.gains⟩

theorem parseParameters_parsed {map : List (String × Nat × Nat)} {batch : List (Parameter K)}
    {start : PendingUpdates K} (parsed : Parsed start)
    (accepted : batch.foldlM (parseParameter map) start = .ok pending) : Parsed pending := by
  induction batch generalizing start with
  | nil =>
      cases accepted
      exact parsed
  | cons parameter rest ih =>
      rw [List.foldlM_cons] at accepted
      obtain ⟨next, first, remaining⟩ := checked_bind_ok.mp accepted
      exact ih (parseParameter_parsed parsed first) remaining

theorem parseBatch_parsed {map : List (String × Nat × Nat)} {batch : List (Parameter K)}
    (accepted : parseBatch map batch = .ok pending) : Parsed pending := by
  have empty : Parsed ({} : PendingUpdates K) :=
    ⟨List.nodup_nil, fun _ impossible => absurd impossible List.not_mem_nil⟩
  exact parseParameters_parsed empty accepted

variable [StdToString K] {order : IterationOrder (String × PerJointUpdate K)}
variable {batch : List (Parameter K)} {updates : List (String × PerJointUpdate K)}

/-- The parameters and the filter of a joint. -/
def settingsAt (index joint : Nat) (tables : JointTables K) :
    Option (JointParameters K) × Option (AlphaBetaFilter K) :=
  (jointEntry tables.jointParametersPerCanInterface index joint,
    jointEntry tables.jointAbFiltersPerCanInterface index joint)

/-- The entry that a name leads to. -/
structure LeadsTo (tables : JointTables K) (name : String) (index joint : Nat)
    (params : JointParameters K) (filter : AlphaBetaFilter K) : Prop where
  located : tables.jointNameToCanIfaceAndIdx.lookup name = some (index, joint)
  settings : settingsAt index joint tables = (some params, some filter)

omit [Scalar K] [StdToString K] in
theorem locate_run_returned {name : String} {position : Nat × Nat} :
    (locate name : NodePath K (Nat × Nat)).run node = (.returned position, after) ↔
      node.tables.jointNameToCanIfaceAndIdx.lookup name = some position ∧ after = node := by
  rw [locate, Path.read_bind]
  cases node.tables.jointNameToCanIfaceAndIdx.lookup name with
  | none => simp
  | some found => simp [eq_comm]

theorem checkUpdates_checked
    (run : (checkUpdates updates).run node = (.returned (.ok ()), after)) :
    after = node ∧ ∀ entry ∈ updates, ∃ index joint params filter,
      LeadsTo node.tables entry.1 index joint params filter ∧
        checkUpdate entry.1 entry.2 params filter = .ok () := by
  induction updates with
  | nil =>
      cases run
      exact ⟨rfl, fun _ impossible => absurd impossible List.not_mem_nil⟩
  | cons entry rest ih =>
      obtain ⟨name, update⟩ := entry
      simp only [checkUpdates, Path.bind_run_returned, Path.element_run_returned,
        locate_run_returned] at run
      obtain ⟨position, _, ⟨located, rfl⟩, params, _, ⟨paramsFound, rfl⟩, filter, _,
        ⟨filterFound, rfl⟩, run⟩ := run
      cases checks : checkUpdate name update params filter with
      | error reason => simp [checks] at run
      | ok value =>
          rw [checks] at run
          obtain ⟨same, remaining⟩ := ih run
          refine ⟨same, fun entry member => ?_⟩
          rcases List.mem_cons.mp member with rfl | later
          · exact ⟨_, _, params, filter, ⟨located, Prod.ext paramsFound filterFound⟩, checks⟩
          · exact remaining entry later

/-- What an accepted batch has been. -/
structure AcceptedBatch (order : IterationOrder (String × PerJointUpdate K)) (batch : List (Parameter K))
    (pending : PendingUpdates K) (before after : Node K) : Prop where
  parsed : parseBatch before.tables.jointNameToCanIfaceAndIdx batch = .ok pending
  checked : ∀ entry ∈ pending.updates, ∃ index joint params filter,
    LeadsTo before.tables entry.1 index joint params filter ∧
      checkUpdate entry.1 entry.2 params filter = .ok ()
  applied : (Path.forEach applyUpdate (order.val pending.updates)).run (applyGlobals pending before) =
    (.returned (), after)

theorem onSetParametersCallback_accepted {result : SetParametersResult}
    (run : (onSetParametersCallback order batch).run before = (.returned result, after))
    (successful : result.successful = true) : ∃ pending, AcceptedBatch order batch pending before after := by
  simp only [onSetParametersCallback, Path.read_bind] at run
  cases parsed : parseBatch before.tables.jointNameToCanIfaceAndIdx batch with
  | error reason =>
      rw [parsed] at run
      cases run
      cases successful
  | ok pending =>
      simp only [parsed, Path.bind_run_returned] at run
      obtain ⟨checks, middle, checking, run⟩ := run
      cases checks with
      | error reason =>
          cases run
          cases successful
      | ok value =>
          simp only [Path.update_bind, Path.bind_run_returned] at run
          obtain ⟨_, _, applied, ends⟩ := run
          cases ends
          obtain ⟨rfl, checked⟩ := checkUpdates_checked checking
          refine ⟨pending, parsed, fun entry member => checked entry ?_, applied⟩
          exact (order.property pending.updates).mem_iff.mpr member

omit [StdToString K] in
theorem applyToTables_settings (place position : Nat)
    (applied : applyToTables index joint update tables = some changed) :
    changed.jointNameToCanIfaceAndIdx = tables.jointNameToCanIfaceAndIdx ∧
      settingsAt place position changed =
        if place = index ∧ position = joint then
          (settingsAt place position tables).map (Option.map update.params) (Option.map update.alphaBeta)
        else settingsAt place position tables := by
  simp only [applyToTables, Option.bind_eq_bind, Option.bind_eq_some_iff, Option.some.injEq] at applied
  obtain ⟨params, paramsChanged, filters, filtersChanged, _, _, _, _, rfl⟩ := applied
  refine ⟨rfl, ?_⟩
  rw [settingsAt, jointEntry_changeEntry paramsChanged, jointEntry_changeEntry filtersChanged]
  split <;> rfl

omit [StdToString K] in
theorem applyUpdate_returned {entry : String × PerJointUpdate K} (place position : Nat)
    (run : (applyUpdate entry).run node = (.returned (), after)) :
    after.tables.jointNameToCanIfaceAndIdx = node.tables.jointNameToCanIfaceAndIdx ∧
      (node.tables.jointNameToCanIfaceAndIdx.lookup entry.1 = some (place, position) →
        settingsAt place position after.tables = (settingsAt place position node.tables).map
          (Option.map entry.2.params) (Option.map entry.2.alphaBeta)) ∧
      (node.tables.jointNameToCanIfaceAndIdx.lookup entry.1 ≠ some (place, position) →
        settingsAt place position after.tables = settingsAt place position node.tables) := by
  simp only [applyUpdate, Path.bind_run_returned, locate_run_returned,
    Path.updateDefined_run_returned, Option.map_eq_some_iff] at run
  obtain ⟨⟨index, joint⟩, _, ⟨located, rfl⟩, tables, applied, rfl⟩ := run
  obtain ⟨names, settings⟩ := applyToTables_settings place position applied
  refine ⟨names, fun same => ?_, fun other => ?_⟩
  · rw [located, Option.some.injEq, Prod.mk.injEq] at same
    rw [settings, if_pos ⟨same.1.symm, same.2.symm⟩]
  · rw [settings, if_neg]
    rintro ⟨rfl, rfl⟩
    exact other located

omit [StdToString K] in
/-- The updates change the entries that their names lead to, and no others. -/
theorem applyUpdates_settings {place position : Nat}
    (apart : ∀ first second position, node.tables.jointNameToCanIfaceAndIdx.lookup first = some position →
      node.tables.jointNameToCanIfaceAndIdx.lookup second = some position → first = second)
    (nodup : (updates.map Prod.fst).Nodup)
    (run : (Path.forEach applyUpdate updates).run node = (.returned (), after)) :
    (∀ entry ∈ updates, node.tables.jointNameToCanIfaceAndIdx.lookup entry.1 = some (place, position) →
      settingsAt place position after.tables = (settingsAt place position node.tables).map
        (Option.map entry.2.params) (Option.map entry.2.alphaBeta)) ∧
    ((∀ entry ∈ updates, node.tables.jointNameToCanIfaceAndIdx.lookup entry.1 ≠ some (place, position)) →
      settingsAt place position after.tables = settingsAt place position node.tables) := by
  induction updates generalizing node with
  | nil =>
      cases run
      exact ⟨fun _ impossible => absurd impossible List.not_mem_nil, fun _ => rfl⟩
  | cons first rest ih =>
      rw [Path.forEach, Path.bind_run_returned] at run
      obtain ⟨_, middle, head, run⟩ := run
      obtain ⟨names, own, others⟩ := applyUpdate_returned place position head
      obtain ⟨fresh, nodupRest⟩ := List.nodup_cons.mp nodup
      obtain ⟨later, untouched⟩ := ih (names ▸ apart) nodupRest run
      rw [names] at later untouched
      constructor
      · intro entry member leads
        rcases List.mem_cons.mp member with rfl | inRest
        · -- no later name leads to the same entry
          rw [untouched, own leads]
          intro other otherMember otherLeads
          have same := apart entry.1 other.1 _ leads otherLeads
          exact fresh (same ▸ List.mem_map_of_mem otherMember)
        · rw [later entry inRest leads, others]
          intro firstLeads
          have same := apart first.1 entry.1 _ firstLeads leads
          exact fresh (same ▸ List.mem_map_of_mem inRest)
      · intro none
        rw [untouched fun entry member => none entry (List.mem_cons_of_mem first member),
          others (none first List.mem_cons_self)]

/-- Two values that can be compared: neither is a NaN. -/
def Comparable (left right : K) : Prop := left < right ∨ right ≤ left

/-- An update that keeps the constraints on the entry it changes: where it sets a new
alpha and no new beta, the stored beta is small enough for the new alpha. -/
structure Fitting (update : PerJointUpdate K) (params : JointParameters K)
    (filter : AlphaBetaFilter K) : Prop where
  alphaAlone : ∀ alpha, update.alpha = some alpha → update.beta = none →
    filter.beta < Scalar.ofRat 2 * alpha
  beta : ∀ beta, update.beta = some beta → Comparable Scalar.zero beta
  limits : Comparable (update.params params).posLimitMax (update.params params).posLimitMin

/-- Every update of the batch fits the entry it changes. -/
def BatchFits (tables : JointTables K) (batch : List (Parameter K)) : Prop :=
  ∀ pending, parseBatch tables.jointNameToCanIfaceAndIdx batch = .ok pending →
    ∀ entry ∈ pending.updates, ∀ index joint params filter,
      LeadsTo tables entry.1 index joint params filter → Fitting entry.2 params filter

/-- The constraints on one joint. -/
def EntryConstrained (params : JointParameters K) (filter : AlphaBetaFilter K) : Prop :=
  FilterConstrained filter.alpha filter.beta ∧ params.posLimitMin ≤ params.posLimitMax

omit [StdToString K] in
theorem jointsConstrained_iff : JointsConstrained tables ↔ ∀ index joint params filter,
    settingsAt index joint tables = (some params, some filter) → EntryConstrained params filter := by
  simp only [JointsConstrained, settingsAt, Prod.mk.injEq, and_imp, EntryConstrained]

/-- An update that has passed the checks keeps the constraints exactly if it fits. -/
theorem entryConstrained_iff_fitting {name : String} {params : JointParameters K}
    {filter : AlphaBetaFilter K} (gains : GainsParsed update)
    (passed : checkUpdate name update params filter = .ok ())
    (constrained : EntryConstrained params filter) :
    EntryConstrained (update.params params) (update.alphaBeta filter) ↔
      Fitting update params filter := by
  obtain ⟨_, betaPassed, limitsPassed⟩ := checked_bind_ok.mp passed
  have ordered : ¬ (update.params params).posLimitMax < (update.params params).posLimitMin := by
    intro crossed
    rw [checkPosLimits, if_pos (by exact crossed)] at limitsPassed
    cases limitsPassed
  have bounded (beta : K) (given : update.beta = some beta) :
      beta < Scalar.ofRat 2 * (update.alphaBeta filter).alpha := by
    by_contra exceeds
    rw [checkBeta, given] at betaPassed
    simp only [if_neg (show ¬ beta < Scalar.ofRat 2 * update.alpha.getD filter.alpha from exceeds)]
      at betaPassed
    cases betaPassed
  have alphas : Scalar.zero < (update.alphaBeta filter).alpha ∧
      (update.alphaBeta filter).alpha ≤ Scalar.one := by
    cases given : update.alpha with
    | none =>
        rw [PerJointUpdate.alphaBeta, given, Option.getD_none]
        exact ⟨constrained.1.alphaPositive, constrained.1.alphaBounded⟩
    | some alpha =>
        rw [PerJointUpdate.alphaBeta, given, Option.getD_some]
        exact gains.alpha alpha given
  constructor
  · rintro ⟨filterConstrained, limits⟩
    refine ⟨fun alpha given absent => ?_, fun beta given => .inl ?_, .inr limits⟩
    · have below := filterConstrained.betaBounded
      rwa [PerJointUpdate.alphaBeta, given, absent, Option.getD_some, Option.getD_none] at below
    · have positive := filterConstrained.betaPositive
      rwa [PerJointUpdate.alphaBeta, given, Option.getD_some] at positive
  · intro fitting
    refine ⟨⟨alphas.1, alphas.2, ?_, ?_⟩, fitting.limits.resolve_left ordered⟩
    · cases given : update.beta with
      | none =>
          rw [PerJointUpdate.alphaBeta, given, Option.getD_none]
          exact constrained.1.betaPositive
      | some beta =>
          rw [PerJointUpdate.alphaBeta, given, Option.getD_some]
          exact (fitting.beta beta given).resolve_right (gains.beta beta given)
    · cases given : update.beta with
      | some beta =>
          have below := bounded beta given
          rwa [PerJointUpdate.alphaBeta, given, Option.getD_some]
      | none =>
          rw [PerJointUpdate.alphaBeta, given, Option.getD_none]
          cases set : update.alpha with
          | none =>
              rw [Option.getD_none]
              exact constrained.1.betaBounded
          | some alpha =>
              rw [Option.getD_some]
              exact fitting.alphaAlone alpha set given

/-- What an accepted batch makes of the settings of a joint. -/
theorem AcceptedBatch.settings (place position : Nat) (named : NamesApart before.tables)
    (accepted : AcceptedBatch order batch pending before after) :
    (∀ entry ∈ pending.updates,
      before.tables.jointNameToCanIfaceAndIdx.lookup entry.1 = some (place, position) →
      settingsAt place position after.tables = (settingsAt place position before.tables).map
        (Option.map entry.2.params) (Option.map entry.2.alphaBeta)) ∧
    ((∀ entry ∈ pending.updates,
        before.tables.jointNameToCanIfaceAndIdx.lookup entry.1 ≠ some (place, position)) →
      settingsAt place position after.tables = settingsAt place position before.tables) := by
  have arranged := order.property pending.updates
  have nodup : ((order.val pending.updates).map Prod.fst).Nodup :=
    (arranged.map Prod.fst).nodup_iff.mpr (parseBatch_parsed accepted.parsed).names
  have apart : NamesApart (applyGlobals pending before).tables := named
  obtain ⟨changes, keeps⟩ := applyUpdates_settings apart.apart nodup accepted.applied
  exact ⟨fun entry member => changes entry (arranged.mem_iff.mpr member),
    fun others => keeps fun entry member => others entry (arranged.mem_iff.mp member)⟩

theorem AcceptedBatch.constrained_iff (named : NamesApart before.tables)
    (accepted : AcceptedBatch order batch pending before after)
    (constrained : JointsConstrained before.tables) :
    JointsConstrained after.tables ↔ BatchFits before.tables batch := by
  have parsed : Parsed pending := parseBatch_parsed accepted.parsed
  rw [jointsConstrained_iff] at constrained
  rw [jointsConstrained_iff]
  constructor
  · intro constrainedAfter other otherParsed entry member index joint params filter leads
    cases otherParsed.symm.trans accepted.parsed
    obtain ⟨place, position, checkedParams, checkedFilter, checked, passed⟩ :=
      accepted.checked entry member
    cases leads.located.symm.trans checked.located
    cases leads.settings.symm.trans checked.settings
    refine (entryConstrained_iff_fitting (parsed.gains entry member) passed
      (constrained index joint params filter leads.settings)).mp (constrainedAfter index joint _ _ ?_)
    rw [(accepted.settings _ _ named).1 entry member leads.located, leads.settings]
    rfl
  · intro fits index joint params filter found
    by_cases changes : ∃ entry ∈ pending.updates,
        before.tables.jointNameToCanIfaceAndIdx.lookup entry.1 = some (index, joint)
    · obtain ⟨entry, member, located⟩ := changes
      obtain ⟨place, position, oldParams, oldFilter, leads, passed⟩ := accepted.checked entry member
      cases leads.located.symm.trans located
      rw [(accepted.settings _ _ named).1 entry member located, leads.settings] at found
      cases found
      exact (entryConstrained_iff_fitting (parsed.gains entry member) passed
        (constrained _ _ _ _ leads.settings)).mpr
          (fits pending accepted.parsed entry member _ _ _ _ leads)
    · have untouched := (accepted.settings _ _ named).2 fun entry member located =>
        changes ⟨entry, member, located⟩
      exact constrained index joint params filter (untouched ▸ found)

/-- In a run in which no configuration begins with names left from another one, an accepted
batch keeps the constraints on the joints exactly if each of its updates fits. -/
theorem accepted_batch_constrained_iff [Libm K] {start : Node K} {operations : List (Operation K)}
    {result : SetParametersResult} (constructed : Constructed start)
    (begins : EveryStep operate BeginsUnnamed start operations)
    (run : runSteps operate start operations = some before)
    (callback : (onSetParametersCallback order batch).run before = (.returned result, after))
    (successful : result.successful = true) (constrained : JointsConstrained before.tables) :
    JointsConstrained after.tables ↔ BatchFits before.tables batch := by
  have named : Named before := invariant_of_run (fun _ _ _ named begins => operate_named named begins)
    (show NamesApart start.tables by rw [constructed.tables]; exact .of_empty rfl) begins run
  obtain ⟨pending, accepted⟩ := onSetParametersCallback_accepted callback successful
  exact accepted.constrained_iff named constrained

omit [StdToString K] in
instance instDecidableEntryConstrained (params : JointParameters K) (filter : AlphaBetaFilter K) :
    Decidable (EntryConstrained params filter) :=
  decidable_of_iff ((Scalar.zero < filter.alpha ∧ filter.alpha ≤ Scalar.one ∧
      Scalar.zero < filter.beta ∧ filter.beta < Scalar.ofRat 2 * filter.alpha) ∧
        params.posLimitMin ≤ params.posLimitMax)
    ⟨fun ⟨⟨first, second, third, fourth⟩, limits⟩ => ⟨⟨first, second, third, fourth⟩, limits⟩,
      fun ⟨⟨first, second, third, fourth⟩, limits⟩ => ⟨⟨first, second, third, fourth⟩, limits⟩⟩

omit [StdToString K] in
theorem jointsConstrained_iff_zip : JointsConstrained tables ↔
    ∀ rows ∈ tables.jointParametersPerCanInterface.zip tables.jointAbFiltersPerCanInterface,
      ∀ entry ∈ rows.1.zip rows.2, EntryConstrained entry.1 entry.2 := by
  simp only [jointsConstrained_iff, settingsAt, jointEntry, Prod.mk.injEq, Option.bind_eq_some_iff]
  constructor
  · intro constrained rows rowsMember entry entryMember
    obtain ⟨index, rowsFound⟩ := List.mem_iff_getElem?.mp rowsMember
    obtain ⟨joint, entryFound⟩ := List.mem_iff_getElem?.mp entryMember
    obtain ⟨paramsRow, filterRow⟩ := List.getElem?_zip_eq_some.mp rowsFound
    obtain ⟨paramsFound, filterFound⟩ := List.getElem?_zip_eq_some.mp entryFound
    exact constrained index joint _ _ ⟨⟨_, paramsRow, paramsFound⟩, ⟨_, filterRow, filterFound⟩⟩
  · rintro constrained index joint params filter ⟨⟨paramsRow, row, found⟩, filterRow, row', found'⟩
    exact constrained (paramsRow, filterRow) (List.mem_of_getElem?
      (List.getElem?_zip_eq_some.mpr ⟨row, row'⟩)) (params, filter)
        (List.mem_of_getElem? (List.getElem?_zip_eq_some.mpr ⟨found, found'⟩))

instance instDecidableJointsConstrained (tables : JointTables K) :
    Decidable (JointsConstrained tables) := decidable_of_iff _ jointsConstrained_iff_zip.symm

section Example

attribute [local instance] libmAtRest

def legRun : List (Operation ℚ) := [.configure (legAssignment []) legBus 0]

/-- A smaller alpha for the first joint, and no beta with it. -/
def hipAlpha (alpha : ℚ) : List (Parameter ℚ) :=
  [{ name := "joint_defintions.hip.alpha", value := .double alpha }]

theorem hipAlpha_accepted (alpha : ℚ) (constrained : Bool)
    (observed : ((runSteps operate freshNode legRun).map fun before =>
        let ended := (onSetParametersCallback asListed (hipAlpha alpha)).run before
        (decide (JointsConstrained before.tables), ended.1,
          decide (JointsConstrained ended.2.tables))) =
      some (true, .returned {}, constrained)) :
    ∃ before after, runSteps operate freshNode legRun = some before ∧
      JointsConstrained before.tables ∧
      (onSetParametersCallback asListed (hipAlpha alpha)).run before = (.returned {}, after) ∧
      (JointsConstrained after.tables ↔ constrained = true) := by
  obtain ⟨before, run, observed⟩ := Option.map_eq_some_iff.mp observed
  simp only [Prod.mk.injEq, decide_eq_true_eq] at observed
  obtain ⟨constrainedBefore, returned, constrainedAfter⟩ := observed
  exact ⟨before, _, run, constrainedBefore, Prod.ext returned rfl, by rw [← constrainedAfter]; simp⟩

/-- An accepted batch leaves a filter with beta over twice its alpha. -/
theorem alpha_alone_breaks_constraints : ∃ before after : Node ℚ,
    runSteps operate freshNode legRun = some before ∧ JointsConstrained before.tables ∧
      (onSetParametersCallback asListed (hipAlpha (1 / 500))).run before = (.returned {}, after) ∧
      ¬ JointsConstrained after.tables := by
  obtain ⟨before, after, run, constrained, accepted, ends⟩ :=
    hipAlpha_accepted (1 / 500) false (by decide +kernel)
  exact ⟨before, after, run, constrained, accepted, by simpa using ends⟩

theorem accepted_batch_constrained_iff_hip : ∃ before after : Node ℚ,
    JointsConstrained after.tables ↔ BatchFits before.tables (hipAlpha (1 / 2)) := by
  obtain ⟨before, after, run, constrained, accepted, _⟩ :=
    hipAlpha_accepted (1 / 2) true (by decide +kernel)
  have begins : EveryStep operate BeginsUnnamed freshNode legRun :=
    ⟨fun _ _ _ _ _ => rfl, fun _ _ => trivial⟩
  exact ⟨before, after, accepted_batch_constrained_iff freshNode_constructed begins run accepted rfl
    constrained⟩

end Example

end CubemarsDriver.Node

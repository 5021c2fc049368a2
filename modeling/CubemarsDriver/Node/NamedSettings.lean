import CubemarsDriver.Node.Batches
import CubemarsDriver.Node.ParameterNames

namespace CubemarsDriver.Node

open Foundation Can

/-! # The settings that a batch names

Values are checked as 64-bit integers and stored as 32-bit ones, by way of an update with
one optional member for each field. -/

variable {K : Type}

/-- What a batch can set. -/
inductive Setting where
  | defaultDampingKD
  | dampingOnMotorError
  | maxCanErrorsBeforeMotorShutdown
  | joint (name : String) (field : RuntimeField)
deriving DecidableEq, Repr

/-- The setting that a parameter stands for. -/
def Setting.named (parameter : String) : Option Setting :=
  match parameter with
  | "default_damping_KD" => some .defaultDampingKD
  | "damping_on_motor_error" => some .dampingOnMotorError
  | "max_can_errors_before_motor_shutdown" => some .maxCanErrorsBeforeMotorShutdown
  | name => do
      let (jointName, fieldName) ← parsePerJointParam name
      let field ← RuntimeField.named fieldName
      some (.joint jointName field)

/-- The last value that a batch gives to a setting. -/
def lastGiven (setting : Setting) (batch : List (Parameter K)) : Option (ParameterValue K) :=
  ((batch.filter fun parameter => Setting.named parameter.name = some setting).getLast?).map
    Parameter.value

def typeName : VelFilterType → String
  | .none => "none"
  | .movingAverage => "moving_average"
  | .alphaBeta => "alpha_beta"

def RuntimeField.value (params : JointParameters K) (filter : AlphaBetaFilter K) :
    RuntimeField → ParameterValue K
  | velFilterType => .string (typeName params.velFilterType)
  | velFilterSize => .integer params.velFilterSize
  | posMedianFilterSize => .integer params.posMedianFilterSize
  | alpha => .double filter.alpha
  | beta => .double filter.beta
  | tauC => .double params.frictionParameters.tauC
  | tauS => .double params.frictionParameters.tauS
  | vS => .double params.frictionParameters.vS
  | k => .double params.frictionParameters.k
  | kA => .double params.frictionParameters.kA
  | b => .double params.frictionParameters.b
  | posLimitMin => .double params.posLimitMin
  | posLimitMax => .double params.posLimitMax

/-- The value that the node has for a setting. -/
def settingValue (node : Node K) : Setting → Option (ParameterValue K)
  | .defaultDampingKD => some (.double node.defaultDampingKD)
  | .dampingOnMotorError => some (.bool node.dampingOnMotorError)
  | .maxCanErrorsBeforeMotorShutdown => some (.integer node.maxCanErrorsBeforeMotorShutdown)
  | .joint name field => do
      let (index, joint) ← node.tables.jointNameToCanIfaceAndIdx.lookup name
      let params ← jointEntry node.tables.jointParametersPerCanInterface index joint
      let filter ← jointEntry node.tables.jointAbFiltersPerCanInterface index joint
      some (field.value params filter)

/-- The fields of a joint that no batch can name. -/
def fixedFields (params : JointParameters K) : K × K × Bool × Nat × String :=
  (params.transmissionRatio, params.zeroPosition, params.setZeroPositionOnStartup, params.msgIdx,
    params.name)

/-- Every setting has the last value it was given, and the others are as they were. -/
structure TakesEffect (batch : List (Parameter K)) (before after : Node K) : Prop where
  settings : ∀ setting,
    settingValue after setting = (lastGiven setting batch).or (settingValue before setting)
  fixed : ∀ index joint,
    (jointEntry after.tables.jointParametersPerCanInterface index joint).map fixedFields =
      (jointEntry before.tables.jointParametersPerCanInterface index joint).map fixedFields

/-- The integers that are given last fit an `unsigned int`. -/
def IntegersFit (batch : List (Parameter K)) : Prop :=
  ∀ setting value, lastGiven setting batch = some (.integer value) → value < 2 ^ 32

section Parsing

variable [Scalar K] {pending : PendingUpdates K} {update : PerJointUpdate K}

/-- The value that an update has for a field. -/
def PerJointUpdate.given (update : PerJointUpdate K) : RuntimeField → Option (ParameterValue K)
  | .velFilterType => update.velFilterType.map fun type => .string (typeName type)
  | .velFilterSize => update.velFilterSize.map .integer
  | .posMedianFilterSize => update.posMedianFilterSize.map .integer
  | .alpha => update.alpha.map .double
  | .beta => update.beta.map .double
  | .tauC => update.tauC.map .double
  | .tauS => update.tauS.map .double
  | .vS => update.vS.map .double
  | .k => update.k.map .double
  | .kA => update.kA.map .double
  | .b => update.b.map .double
  | .posLimitMin => update.posLimitMin.map .double
  | .posLimitMax => update.posLimitMax.map .double

def PendingUpdates.given (pending : PendingUpdates K) : Setting → Option (ParameterValue K)
  | .defaultDampingKD => pending.newDefaultDampingKD.map .double
  | .dampingOnMotorError => pending.newDampingOnMotorError.map .bool
  | .maxCanErrorsBeforeMotorShutdown => pending.newMaxCanErrors.map .integer
  | .joint name field => ((pending.updates.lookup name).getD {}).given field

omit [Scalar K] in
@[simp] theorem given_empty (field : RuntimeField) : ({} : PerJointUpdate K).given field = none := by
  cases field <;> rfl

omit [Scalar K] in
theorem typeName_velFilterType {name : String} {type : VelFilterType}
    (found : velFilterType name = some type) : typeName type = name := by
  unfold velFilterType at found
  split at found <;> cases found <;> rfl

omit [Scalar K] in
theorem asString_ok {name text : String} {value : ParameterValue K}
    (read : asString name value = .ok text) : value = .string text := by
  unfold asString at read
  split at read <;> cases read
  rfl

omit [Scalar K] in
theorem asDouble_ok {name : String} {number : K} {value : ParameterValue K}
    (read : asDouble name value = .ok number) : value = .double number := by
  unfold asDouble at read
  split at read <;> cases read
  rfl

omit [Scalar K] in
theorem asBool_ok {name : String} {flag : Bool} {value : ParameterValue K}
    (read : asBool name value = .ok flag) : value = .bool flag := by
  unfold asBool at read
  split at read <;> cases read
  rfl

omit [Scalar K] in
theorem asInt_ok {name : String} {number : Int} {value : ParameterValue K}
    (read : asInt name value = .ok number) : value = .integer number := by
  unfold asInt at read
  split at read <;> cases read
  rfl

omit [Scalar K] in
theorem asSize_ok {name : String} {size : Int} {value : ParameterValue K}
    (read : asSize name value = .ok size) : value = .integer size ∧ 0 ≤ size := by
  obtain ⟨number, isInt, checked⟩ := checked_bind_ok.mp read
  split at checked
  · cases checked
  · cases checked
    exact ⟨asInt_ok isInt, by omega⟩

/-- An integer that is given is not negative. -/
def NonNegative (value : ParameterValue K) : Prop := ∀ number, value = .integer number → 0 ≤ number

/-- What a parser has put into one member of an update. -/
structure FieldGiven (field : String) (value : ParameterValue K) (before after : PerJointUpdate K) :
    Prop where
  member : ∃ own, RuntimeField.named field = some own ∧
    ∀ other, after.given other = if other = own then some value else before.given other
  nonNegative : NonNegative value

theorem parseField_given {name field : String} {value : ParameterValue K}
    {updated : PerJointUpdate K} (accepted : parseField name field value update = .ok updated) :
    FieldGiven field value update updated := by
  unfold parseField at accepted
  split at accepted
  case h_1 =>
    obtain ⟨text, read, stored⟩ := checked_bind_ok.mp accepted
    obtain rfl := asString_ok read
    split at stored
    · rename_i type known
      cases stored
      refine ⟨⟨.velFilterType, by decide, fun other => ?_⟩, fun _ same => by cases same⟩
      cases other <;> simp [PerJointUpdate.given, typeName_velFilterType known]
    · cases stored
  case h_2 =>
    obtain ⟨size, read, stored⟩ := checked_bind_ok.mp accepted
    obtain ⟨rfl, positive⟩ := asSize_ok read
    cases stored
    refine ⟨⟨.velFilterSize, by decide, fun other => ?_⟩, fun number same => ?_⟩
    · cases other <;> rfl
    · cases same
      exact positive
  case h_3 =>
    obtain ⟨size, read, stored⟩ := checked_bind_ok.mp accepted
    obtain ⟨rfl, positive⟩ := asSize_ok read
    cases stored
    refine ⟨⟨.posMedianFilterSize, by decide, fun other => ?_⟩, fun number same => ?_⟩
    · cases other <;> rfl
    · cases same
      exact positive
  case h_4 =>
    obtain ⟨alpha, read, stored⟩ := checked_bind_ok.mp accepted
    obtain rfl := asDouble_ok read
    split at stored
    · cases stored
      exact ⟨⟨.alpha, by decide, fun other => by cases other <;> rfl⟩, fun _ same => by cases same⟩
    · cases stored
  case h_5 =>
    obtain ⟨beta, read, stored⟩ := checked_bind_ok.mp accepted
    obtain rfl := asDouble_ok read
    split at stored
    · cases stored
    · cases stored
      exact ⟨⟨.beta, by decide, fun other => by cases other <;> rfl⟩, fun _ same => by cases same⟩
  case h_14 => cases accepted
  all_goals
    obtain ⟨number, read, stored⟩ := checked_bind_ok.mp accepted
    obtain rfl := asDouble_ok read
    cases stored
    exact ⟨⟨_, rfl, fun other => by cases other <;> rfl⟩, fun _ same => by cases same⟩

theorem named_joint {name joint field : String} {own : RuntimeField}
    (notDamping : name ≠ "default_damping_KD") (notOnError : name ≠ "damping_on_motor_error")
    (notMaximum : name ≠ "max_can_errors_before_motor_shutdown")
    (parsed : parsePerJointParam name = some (joint, field))
    (known : RuntimeField.named field = some own) : Setting.named name = some (.joint joint own) := by
  unfold Setting.named
  split
  · exact absurd rfl notDamping
  · exact absurd rfl notOnError
  · exact absurd rfl notMaximum
  · simp [parsed, known]

/-- A parameter gives its value to its setting, and to no other. -/
structure ParameterGiven (parameter : Parameter K) (before after : PendingUpdates K) : Prop where
  setting : ∃ own, Setting.named parameter.name = some own ∧
    ∀ other, after.given other = if other = own then some parameter.value else before.given other
  nonNegative : NonNegative parameter.value
  positive : Setting.named parameter.name = some .maxCanErrorsBeforeMotorShutdown →
    ∀ limit, parameter.value = .integer limit → 1 ≤ limit

theorem parseParameter_given {map : List (String × Nat × Nat)} {parameter : Parameter K}
    {updated : PendingUpdates K} (accepted : parseParameter map pending parameter = .ok updated) :
    ParameterGiven parameter pending updated := by
  obtain ⟨name, value⟩ := parameter
  simp only [parseParameter] at accepted
  split at accepted
  case h_1 =>
    obtain ⟨number, read, stored⟩ := checked_bind_ok.mp accepted
    obtain rfl := asDouble_ok read
    cases stored
    refine ⟨⟨.defaultDampingKD, rfl, fun other => by cases other <;> rfl⟩, fun _ same => ?_,
      fun _ _ same => ?_⟩ <;> cases same
  case h_2 =>
    obtain ⟨flag, read, stored⟩ := checked_bind_ok.mp accepted
    obtain rfl := asBool_ok read
    cases stored
    refine ⟨⟨.dampingOnMotorError, rfl, fun other => by cases other <;> rfl⟩, fun _ same => ?_,
      fun _ _ same => ?_⟩ <;> cases same
  case h_3 =>
    obtain ⟨limit, read, stored⟩ := checked_bind_ok.mp accepted
    obtain rfl := asInt_ok read
    split at stored
    · cases stored
    · rename_i least
      cases stored
      refine ⟨⟨.maxCanErrorsBeforeMotorShutdown, rfl, fun other => by cases other <;> rfl⟩,
        fun _ same => ?_, fun _ _ same => ?_⟩
      · cases same
        omega
      · cases same
        omega
  case h_4 notDamping notOnError notMaximum =>
    simp only [parseJointParameter] at accepted
    split at accepted
    · cases accepted
    rename_i joint field parsed
    split at accepted
    · cases accepted
    obtain ⟨update, read, stored⟩ := checked_bind_ok.mp accepted
    cases stored
    obtain ⟨⟨own, known, given⟩, nonNegative⟩ := parseField_given read
    have named := named_joint notDamping notOnError notMaximum parsed known
    refine ⟨⟨_, named, fun other => ?_⟩, nonNegative, fun same => ?_⟩
    · cases other with
      | joint jointName field =>
          simp only [PendingUpdates.given, lookup_assignKey, Setting.joint.injEq]
          by_cases same : jointName = joint
          · simp [same, given]
          · simp [same]
      | _ => simp [PendingUpdates.given]
    · rw [named] at same
      cases same

/-- What a batch gives is what it gives last. -/
structure BatchGiven (batch : List (Parameter K)) (start finish : PendingUpdates K) : Prop where
  setting : ∀ setting, finish.given setting = (lastGiven setting batch).or (start.given setting)
  nonNegative : ∀ setting value, lastGiven setting batch = some value → NonNegative value
  positive : ∀ limit, lastGiven .maxCanErrorsBeforeMotorShutdown batch = some (.integer limit) →
    1 ≤ limit

omit [Scalar K] in
theorem lastGiven_cons (setting : Setting) (parameter : Parameter K) (rest : List (Parameter K)) :
    lastGiven setting (parameter :: rest) = (lastGiven setting rest).or
      (if Setting.named parameter.name = some setting then some parameter.value else none) := by
  unfold lastGiven
  by_cases own : Setting.named parameter.name = some setting
  · rw [List.filter_cons_of_pos (by simpa using own), List.getLast?_cons, if_pos own]
    cases ((rest.filter fun parameter => Setting.named parameter.name = some setting).getLast?) <;> rfl
  · rw [List.filter_cons_of_neg (by simpa using own), if_neg own, Option.or_none]

theorem parseParameters_given {map : List (String × Nat × Nat)} {batch : List (Parameter K)}
    {start : PendingUpdates K} (accepted : batch.foldlM (parseParameter map) start = .ok pending) :
    BatchGiven batch start pending := by
  induction batch generalizing start with
  | nil =>
      cases accepted
      refine ⟨fun _ => rfl, fun _ _ given => ?_, fun _ given => ?_⟩ <;> cases given
  | cons parameter rest ih =>
      rw [List.foldlM_cons] at accepted
      obtain ⟨next, first, remaining⟩ := checked_bind_ok.mp accepted
      obtain ⟨⟨own, named, given⟩, nonNegative, positive⟩ := parseParameter_given first
      obtain ⟨later, laterNonNegative, laterPositive⟩ := ih remaining
      constructor
      · intro setting
        rw [later, given, lastGiven_cons, named, Option.or_assoc]
        by_cases same : setting = own
        · rw [if_pos same, if_pos (by rw [same]), Option.some_or]
        · rw [if_neg same, if_neg (by simpa using Ne.symm same), Option.none_or]
      · intro setting value last
        rw [lastGiven_cons, Option.or_eq_some_iff] at last
        rcases last with inRest | ⟨_, own⟩
        · exact laterNonNegative setting value inRest
        · split at own <;> cases own
          exact nonNegative
      · intro limit last
        rw [lastGiven_cons, Option.or_eq_some_iff] at last
        rcases last with inRest | ⟨_, own⟩
        · exact laterPositive limit inRest
        · split at own
          · rename_i isLimit
            exact positive isLimit limit (Option.some.inj own)
          · cases own

end Parsing

section Storing

variable [Scalar K] [StdToString K] {before after : Node K} {batch : List (Parameter K)}
variable {pending : PendingUpdates K} {update : PerJointUpdate K}
variable {order : IterationOrder (String × PerJointUpdate K)}

/-- An integer is stored as an `unsigned int`. -/
def stored : ParameterValue K → ParameterValue K
  | .integer value => .integer (toUnsigned value)
  | other => other

omit [Scalar K] [StdToString K] in
theorem stored_eq_iff {value : ParameterValue K} (nonNegative : NonNegative value) :
    stored value = value ↔ ∀ number, value = .integer number → number < 2 ^ 32 := by
  cases value with
  | integer number =>
      have least : 0 ≤ number := nonNegative number rfl
      have word : ((toUnsigned number : Nat) : Int) = number % 2 ^ 32 := by
        rw [toUnsigned, BitVec.toNat_ofInt, Int.toNat_of_nonneg (Int.emod_nonneg _ (by decide))]
        rfl
      simp only [stored, ParameterValue.integer.injEq, word]
      constructor
      · rintro same _ rfl
        omega
      · intro fits
        exact Int.emod_eq_of_lt least (fits number rfl)
  | _ => simp [stored]

omit [Scalar K] [StdToString K] in
theorem getD_stored {α : Type} (wrap : α → ParameterValue K) (kept : ∀ value, stored (wrap value) = wrap value)
    (given : Option α) (old : α) :
    ((given.map wrap).map stored).getD (wrap old) = wrap (given.getD old) := by
  cases given with
  | none => rfl
  | some value => exact kept value

omit [Scalar K] [StdToString K] in
/-- The value of a field after an update. -/
theorem value_updated (update : PerJointUpdate K) (params : JointParameters K)
    (filter : AlphaBetaFilter K) (field : RuntimeField) :
    field.value (update.params params) (update.alphaBeta filter) =
      ((update.given field).map stored).getD (field.value params filter) := by
  cases field with
  | velFilterType =>
      exact (getD_stored (fun type => .string (typeName type)) (fun _ => rfl) _ _).symm
  | velFilterSize =>
      simp only [RuntimeField.value, PerJointUpdate.given, PerJointUpdate.params]
      cases update.velFilterSize <;> rfl
  | posMedianFilterSize =>
      simp only [RuntimeField.value, PerJointUpdate.given, PerJointUpdate.params]
      cases update.posMedianFilterSize <;> rfl
  | _ => exact (getD_stored .double (fun _ => rfl) _ _).symm

/-- What no update of a joint changes. -/
def besidesJoints (node : Node K) : Node K × List (String × Nat × Nat) :=
  ({ node with tables := {} }, node.tables.jointNameToCanIfaceAndIdx)

omit [StdToString K] in
theorem applyUpdate_besides (entry : String × PerJointUpdate K) :
    Path.Preserves besidesJoints (applyUpdate entry) := by
  refine Path.Evolves.bind (locate_evolves _) fun position =>
    Path.Evolves.updateDefined fun node after changed => ?_
  obtain ⟨tables, applied, rfl⟩ := Option.map_eq_some_iff.mp changed
  exact Prod.ext rfl (applyToTables_settings 0 0 applied).1

omit [Scalar K] [StdToString K] in
theorem settingValue_global {setting : Setting} (besides : besidesJoints after = besidesJoints before)
    (other : ∀ name field, setting ≠ .joint name field) :
    settingValue after setting = settingValue before setting := by
  have same := congrArg (fun both : Node K × List (String × Nat × Nat) => both.1.settingValue setting)
    besides
  cases setting with
  | joint name field => exact absurd rfl (other name field)
  | _ => exact same

omit [Scalar K] [StdToString K] in
theorem settingValue_joint (name : String) (field : RuntimeField) (node : Node K) :
    settingValue node (.joint name field) =
      (node.tables.jointNameToCanIfaceAndIdx.lookup name).bind fun position =>
        match settingsAt position.1 position.2 node.tables with
        | (some params, some filter) => some (field.value params filter)
        | _ => none := by
  simp only [settingValue, settingsAt, Option.bind_eq_bind]
  congr 1
  funext position
  cases jointEntry node.tables.jointParametersPerCanInterface position.1 position.2 with
  | none => rfl
  | some params =>
      cases jointEntry node.tables.jointAbFiltersPerCanInterface position.1 position.2 <;> rfl

/-- A setting has the value that the parsed batch gives it, as it is stored. -/
theorem AcceptedBatch.settingValue (named : NamesApart before.tables)
    (accepted : AcceptedBatch order batch pending before after) (setting : Setting) :
    settingValue after setting = (settingValue before setting).map fun old =>
      ((pending.given setting).map stored).getD old := by
  have applies : Path.Preserves besidesJoints (Path.forEach applyUpdate (order.val pending.updates)) :=
    Path.Evolves.forEach applyUpdate_besides _
  have besides : besidesJoints after = besidesJoints (applyGlobals pending before) :=
    applies.of_run accepted.applied
  have names : after.tables.jointNameToCanIfaceAndIdx = before.tables.jointNameToCanIfaceAndIdx :=
    congrArg Prod.snd besides
  cases setting with
  | defaultDampingKD =>
      rw [settingValue_global besides (by simp)]
      exact congrArg some (getD_stored .double (fun _ => rfl) _ _).symm
  | dampingOnMotorError =>
      rw [settingValue_global besides (by simp)]
      exact congrArg some (getD_stored .bool (fun _ => rfl) _ _).symm
  | maxCanErrorsBeforeMotorShutdown =>
      rw [settingValue_global besides (by simp)]
      simp only [Node.settingValue, applyGlobals, PendingUpdates.given]
      cases pending.newMaxCanErrors <;> rfl
  | joint name field =>
      rw [settingValue_joint, settingValue_joint, names]
      cases located : before.tables.jointNameToCanIfaceAndIdx.lookup name with
      | none => rfl
      | some position =>
          obtain ⟨changes, keeps⟩ := accepted.settings position.1 position.2 named
          simp only [Option.bind_some, PendingUpdates.given]
          cases updated : pending.updates.lookup name with
          | some update =>
              obtain ⟨earlier, later, split, _⟩ := List.lookup_eq_some_iff.mp updated
              rw [changes (name, update) (by rw [split]; simp) located]
              rcases settingsAt position.1 position.2 before.tables with ⟨_ | params, _ | filter⟩
              · rfl
              · rfl
              · rfl
              · simp [value_updated]
          | none =>
              have untouched : ∀ entry ∈ pending.updates,
                  before.tables.jointNameToCanIfaceAndIdx.lookup entry.1 ≠ some (position.1, position.2) := by
                intro entry member leads
                obtain rfl := named.apart entry.1 name position leads located
                exact absurd updated (by simpa [List.lookup_eq_none_iff] using ⟨_, member⟩)
              rw [keeps untouched]
              simp

omit [Scalar K] [StdToString K] in
theorem given_none (setting : Setting) : ({} : PendingUpdates K).given setting = none := by
  cases setting with
  | joint name field => exact given_empty field
  | _ => rfl

theorem AcceptedBatch.given (accepted : AcceptedBatch order batch pending before after) :
    BatchGiven batch {} pending := parseParameters_given accepted.parsed

theorem AcceptedBatch.lastGiven (accepted : AcceptedBatch order batch pending before after)
    (setting : Setting) : pending.given setting = lastGiven setting batch := by
  rw [accepted.given.setting, given_none, Option.or_none]

/-- What a batch names is there. -/
theorem AcceptedBatch.present (accepted : AcceptedBatch order batch pending before after)
    {setting : Setting} {value : ParameterValue K} (given : pending.given setting = some value) :
    ∃ old, Node.settingValue before setting = some old := by
  cases setting with
  | joint name field =>
      cases updated : pending.updates.lookup name with
      | none =>
          rw [PendingUpdates.given, updated, Option.getD_none, given_empty] at given
          cases given
      | some update =>
          obtain ⟨earlier, later, split, _⟩ := List.lookup_eq_some_iff.mp updated
          obtain ⟨index, joint, params, filter, leads, _⟩ :=
            accepted.checked (name, update) (by rw [split]; simp)
          refine ⟨field.value params filter, ?_⟩
          rw [settingValue_joint, leads.located, Option.bind_some, leads.settings]
  | _ => exact ⟨_, rfl⟩

theorem AcceptedBatch.fixed (accepted : AcceptedBatch order batch pending before after)
    (index joint : Nat) :
    (jointEntry after.tables.jointParametersPerCanInterface index joint).map fixedFields =
      (jointEntry before.tables.jointParametersPerCanInterface index joint).map fixedFields := by
  let fixedRows (node : Node K) := node.tables.jointParametersPerCanInterface.map (List.map fixedFields)
  have applies (entry : String × PerJointUpdate K) : Path.Preserves fixedRows (applyUpdate entry) := by
    refine Path.Evolves.bind (locate_evolves _) fun position =>
      Path.Evolves.updateDefined fun node after changed => ?_
    obtain ⟨tables, applied, rfl⟩ := Option.map_eq_some_iff.mp changed
    simp only [applyToTables, Option.bind_eq_bind, Option.bind_eq_some_iff, Option.some.injEq] at applied
    obtain ⟨params, paramsChanged, _, _, _, _, _, _, rfl⟩ := applied
    exact changeEntry_map fixedFields paramsChanged fun _ => rfl
  have applyAll : Path.Preserves fixedRows (Path.forEach applyUpdate (order.val pending.updates)) :=
    Path.Evolves.forEach applies _
  have same : fixedRows after = fixedRows (applyGlobals pending before) :=
    applyAll.of_run accepted.applied
  rw [← jointEntry_map, ← jointEntry_map]
  exact congrArg (fun rows => jointEntry rows index joint) same

theorem AcceptedBatch.takes_effect_iff (named : NamesApart before.tables)
    (accepted : AcceptedBatch order batch pending before after) :
    TakesEffect batch before after ↔ IntegersFit batch := by
  constructor
  · intro effect setting number given
    have value := accepted.settingValue named setting
    obtain ⟨old, present⟩ := accepted.present ((accepted.lastGiven setting).trans given)
    rw [effect.settings setting, accepted.lastGiven, given, present, Option.some_or, Option.map_some,
      Option.map_some, Option.getD_some, Option.some.injEq] at value
    exact (stored_eq_iff (accepted.given.nonNegative setting _ given)).mp value.symm number rfl
  · intro fits
    refine ⟨fun setting => ?_, accepted.fixed⟩
    rw [accepted.settingValue named, accepted.lastGiven]
    cases given : Node.lastGiven setting batch with
    | none => simp
    | some value =>
        obtain ⟨old, present⟩ := accepted.present ((accepted.lastGiven setting).trans given)
        have kept : stored value = value :=
          (stored_eq_iff (accepted.given.nonNegative setting value given)).mpr fun number same =>
            fits setting number (same ▸ given)
        rw [present, Option.map_some, Option.map_some, Option.getD_some, Option.some_or, kept]

/-- A batch that takes effect leaves a limit of at least one. -/
theorem AcceptedBatch.limit_positive (accepted : AcceptedBatch order batch pending before after)
    (effect : TakesEffect batch before after) (positive : 1 ≤ before.maxCanErrorsBeforeMotorShutdown) :
    1 ≤ after.maxCanErrorsBeforeMotorShutdown := by
  have value := effect.settings .maxCanErrorsBeforeMotorShutdown
  cases given : Node.lastGiven .maxCanErrorsBeforeMotorShutdown batch with
  | none =>
      rw [given, Option.none_or] at value
      simp only [Node.settingValue, Option.some.injEq, ParameterValue.integer.injEq,
        Int.natCast_inj] at value
      omega
  | some limit =>
      rw [given, Option.some_or] at value
      have stores := accepted.given.positive after.maxCanErrorsBeforeMotorShutdown
        (given.trans value.symm)
      omega

/-- In a run in which no configuration begins with names left from another one, an accepted
batch has exactly the effect it names if its integers fit, and then only. -/
theorem accepted_batch_takes_effect_iff [Libm K] {start : Node K} {operations : List (Operation K)}
    {result : SetParametersResult} (constructed : Constructed start)
    (begins : EveryStep operate BeginsUnnamed start operations)
    (run : runSteps operate start operations = some before)
    (callback : (onSetParametersCallback order batch).run before = (.returned result, after))
    (successful : result.successful = true) :
    (TakesEffect batch before after ∧ (1 ≤ before.maxCanErrorsBeforeMotorShutdown →
      1 ≤ after.maxCanErrorsBeforeMotorShutdown)) ↔ IntegersFit batch := by
  have named : Named before := invariant_of_run (fun _ _ _ named begins => operate_named named begins)
    (show NamesApart start.tables by rw [constructed.tables]; exact .of_empty rfl) begins run
  obtain ⟨pending, accepted⟩ := onSetParametersCallback_accepted callback successful
  rw [← accepted.takes_effect_iff named]
  exact ⟨And.left, fun effect => ⟨effect, accepted.limit_positive effect⟩⟩

end Storing

section Example

attribute [local instance] libmAtRest

def legLimit (limit : Int) : List (Parameter ℚ) :=
  [{ name := "max_can_errors_before_motor_shutdown", value := .integer limit }]

theorem legLimit_accepted (limit : Int) (stored : Nat)
    (observed : ((runSteps operate freshNode legRun).map fun before =>
        let ended := (onSetParametersCallback asListed (legLimit limit)).run before
        (before.maxCanErrorsBeforeMotorShutdown, ended.1,
          ended.2.maxCanErrorsBeforeMotorShutdown)) = some (1, .returned {}, stored)) :
    ∃ before after, runSteps operate freshNode legRun = some before ∧
      before.maxCanErrorsBeforeMotorShutdown = 1 ∧
      (onSetParametersCallback asListed (legLimit limit)).run before = (.returned {}, after) ∧
      after.maxCanErrorsBeforeMotorShutdown = stored := by
  obtain ⟨before, run, observed⟩ := Option.map_eq_some_iff.mp observed
  simp only [Prod.mk.injEq] at observed
  obtain ⟨least, returned, ends⟩ := observed
  exact ⟨before, _, run, least, Prod.ext returned rfl, ends⟩

/-- A limit of 2^32 errors is accepted, and stored as none. -/
theorem limit_is_truncated : ∃ before after : Node ℚ,
    runSteps operate freshNode legRun = some before ∧ before.maxCanErrorsBeforeMotorShutdown = 1 ∧
      (onSetParametersCallback asListed (legLimit (2 ^ 32))).run before = (.returned {}, after) ∧
      lastGiven .maxCanErrorsBeforeMotorShutdown (legLimit (2 ^ 32)) = some (.integer (2 ^ 32)) ∧
      after.maxCanErrorsBeforeMotorShutdown = 0 := by
  obtain ⟨before, after, run, least, accepted, ends⟩ :=
    legLimit_accepted (2 ^ 32) 0 (by decide +kernel)
  exact ⟨before, after, run, least, accepted, by decide, ends⟩

theorem accepted_batch_takes_effect_iff_leg : ∃ before after : Node ℚ,
    TakesEffect (legLimit 5) before after := by
  obtain ⟨before, after, run, _, accepted, _⟩ := legLimit_accepted 5 5 (by decide +kernel)
  have begins : EveryStep operate BeginsUnnamed freshNode legRun :=
    ⟨fun _ _ _ _ _ => rfl, fun _ _ => trivial⟩
  refine ⟨before, after, ((accepted_batch_takes_effect_iff freshNode_constructed begins run accepted
    rfl).mpr fun setting value given => ?_).1⟩
  simp only [lastGiven, legLimit, Option.map_eq_some_iff] at given
  obtain ⟨parameter, found, same⟩ := given
  obtain rfl := List.mem_singleton.mp (List.mem_filter.mp (List.mem_of_getLast? found)).1
  cases same
  decide

end Example

end CubemarsDriver.Node

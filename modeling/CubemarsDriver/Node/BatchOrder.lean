import CubemarsDriver.Node.NamedSettings
import CubemarsDriver.Node.TablesInStep

namespace CubemarsDriver.Node

open Foundation Can

/-! # Batches in another order

The entries of a batch with distinct names are checked and applied independently of each
other, as long as the names of the joints lead to entries of their own. -/

variable {K : Type} [Scalar K] {batch permuted : List (Parameter K)} {map : List (String × Nat × Nat)}
variable {pending other : PendingUpdates K} {node before after : Node K}

theorem parseField_independent {name field : String} {value : ParameterValue K}
    {update updated : PerJointUpdate K} (accepted : parseField name field value update = .ok updated)
    (start : PerJointUpdate K) : ∃ finish, parseField name field value start = .ok finish := by
  unfold parseField at accepted
  split at accepted
  case h_1 =>
    obtain ⟨text, read, stored⟩ := checked_bind_ok.mp accepted
    split at stored
    · rename_i type known
      exact ⟨_, checked_bind_ok.mpr ⟨text, read, by rw [known]; rfl⟩⟩
    · cases stored
  case h_4 =>
    obtain ⟨alpha, read, stored⟩ := checked_bind_ok.mp accepted
    split at stored
    · rename_i within
      exact ⟨_, checked_bind_ok.mpr ⟨alpha, read, if_pos within⟩⟩
    · cases stored
  case h_5 =>
    obtain ⟨beta, read, stored⟩ := checked_bind_ok.mp accepted
    split at stored
    · cases stored
    · rename_i positive
      exact ⟨_, checked_bind_ok.mpr ⟨beta, read, if_neg positive⟩⟩
  case h_14 => cases accepted
  all_goals
    obtain ⟨given, read, _⟩ := checked_bind_ok.mp accepted
    exact ⟨_, checked_bind_ok.mpr ⟨given, read, rfl⟩⟩

/-- The parser lets a parameter through. -/
def Parses (map : List (String × Nat × Nat)) (parameter : Parameter K) : Prop :=
  ∃ finish, parseParameter map {} parameter = .ok finish

/-- Whether it does does not depend on what has come before. -/
theorem parseParameter_independent {parameter : Parameter K} {finish : PendingUpdates K}
    (accepted : parseParameter map pending parameter = .ok finish) (start : PendingUpdates K) :
    ∃ finish, parseParameter map start parameter = .ok finish := by
  obtain ⟨name, value⟩ := parameter
  simp only [parseParameter] at accepted ⊢
  split at accepted
  case h_1 =>
    obtain ⟨number, read, _⟩ := checked_bind_ok.mp accepted
    exact ⟨_, checked_bind_ok.mpr ⟨number, read, rfl⟩⟩
  case h_2 =>
    obtain ⟨flag, read, _⟩ := checked_bind_ok.mp accepted
    exact ⟨_, checked_bind_ok.mpr ⟨flag, read, rfl⟩⟩
  case h_3 =>
    obtain ⟨limit, read, stored⟩ := checked_bind_ok.mp accepted
    split at stored
    · cases stored
    · rename_i least
      exact ⟨_, checked_bind_ok.mpr ⟨limit, read, if_neg least⟩⟩
  case h_4 =>
    simp only [parseJointParameter] at accepted ⊢
    split at accepted
    · cases accepted
    rename_i joint field parsed
    split at accepted
    · cases accepted
    rename_i known
    obtain ⟨update, read, _⟩ := checked_bind_ok.mp accepted
    obtain ⟨finish, reads⟩ := parseField_independent read ((start.updates.lookup joint).getD {})
    exact ⟨_, checked_bind_ok.mpr ⟨finish, reads, rfl⟩⟩

theorem parseParameters_ok_iff {start : PendingUpdates K} :
    (∃ finish, batch.foldlM (parseParameter map) start = .ok finish) ↔
      ∀ parameter ∈ batch, Parses map parameter := by
  induction batch generalizing start with
  | nil => exact ⟨fun _ _ impossible => absurd impossible List.not_mem_nil, fun _ => ⟨start, rfl⟩⟩
  | cons parameter rest ih =>
      rw [List.forall_mem_cons]
      constructor
      · rintro ⟨finish, accepted⟩
        rw [List.foldlM_cons] at accepted
        obtain ⟨next, first, remaining⟩ := checked_bind_ok.mp accepted
        exact ⟨parseParameter_independent first {}, ih.mp ⟨finish, remaining⟩⟩
      · rintro ⟨⟨alone, parses⟩, others⟩
        obtain ⟨next, first⟩ := parseParameter_independent parses start
        obtain ⟨finish, remaining⟩ := ih.mpr others
        exact ⟨finish, by rw [List.foldlM_cons]; exact checked_bind_ok.mpr ⟨next, first, remaining⟩⟩

omit [Scalar K] in
theorem named_parsed {name joint : String} {field : RuntimeField}
    (named : Setting.named name = some (.joint joint field)) :
    name = jointParameterName joint field.name := by
  unfold Setting.named at named
  split at named
  · cases named
  · cases named
  · cases named
  · simp only [Option.bind_eq_bind, Option.bind_eq_some_iff, Option.some.injEq, Setting.joint.injEq,
      Prod.exists] at named
    obtain ⟨jointName, fieldName, parsed, own, known, rfl, rfl⟩ := named
    rw [RuntimeField.named_eq_some.mp known]
    exact parsePerJointParam_eq parsed

omit [Scalar K] in
theorem named_global {name : String} {setting : Setting} (named : Setting.named name = some setting)
    (other : ∀ joint field, setting ≠ .joint joint field) :
    name = match setting with
      | .defaultDampingKD => "default_damping_KD"
      | .dampingOnMotorError => "damping_on_motor_error"
      | _ => "max_can_errors_before_motor_shutdown" := by
  unfold Setting.named at named
  split at named
  · cases named
    rfl
  · cases named
    rfl
  · cases named
    rfl
  · simp only [Option.bind_eq_bind, Option.bind_eq_some_iff, Option.some.injEq] at named
    obtain ⟨_, _, _, _, rfl⟩ := named
    exact absurd rfl (other _ _)

omit [Scalar K] in
/-- A setting has one name. -/
theorem named_injective {first second : String} {setting : Setting}
    (named : Setting.named first = some setting) (namedToo : Setting.named second = some setting) :
    first = second := by
  cases setting with
  | joint joint field => rw [named_parsed named, named_parsed namedToo]
  | _ => rw [named_global named (by simp), named_global namedToo (by simp)]

omit [Scalar K] in
theorem lastGiven_perm (perm : batch.Perm permuted) (distinct : (batch.map Parameter.name).Nodup)
    (setting : Setting) : lastGiven setting batch = lastGiven setting permuted := by
  unfold lastGiven
  have same := perm.filter fun parameter => Setting.named parameter.name = some setting
  have names := distinct.sublist ((List.filter_sublist (l := batch)
    (p := fun parameter => Setting.named parameter.name = some setting)).map Parameter.name)
  have own (parameter : Parameter K) (member : parameter ∈ batch.filter fun parameter =>
      Setting.named parameter.name = some setting) : Setting.named parameter.name = some setting := by
    simpa using (List.mem_filter.mp member).2
  generalize (batch.filter fun parameter => Setting.named parameter.name = some setting) = giving at *
  match giving with
  | [] => rw [List.nil_perm.mp same]
  | [parameter] => rw [List.singleton_perm.mp same]
  | first :: second :: rest =>
      simp only [List.map_cons, List.nodup_cons, List.mem_cons, not_or] at names
      exact absurd (named_injective (own first (by simp)) (own second (by simp))) names.1.1

omit [Scalar K] in
theorem typeName_injective {first second : VelFilterType} (same : typeName first = typeName second) :
    first = second := by
  cases first <;> cases second <;> first | rfl | exact absurd same (by decide)

omit [Scalar K] in
theorem map_cancel {α β : Type} {wrap : α → β} (injective : ∀ first second, wrap first = wrap second →
    first = second) {first second : Option α} (same : first.map wrap = second.map wrap) :
    first = second := Option.map_injective injective same

omit [Scalar K] in
/-- An update is what it gives to each field. -/
theorem PerJointUpdate.ext_given {first second : PerJointUpdate K}
    (same : ∀ field, first.given field = second.given field) : first = second := by
  have numbers {left right : Option K} (given : left.map ParameterValue.double = right.map .double) :
      left = right := map_cancel (fun _ _ => ParameterValue.double.inj) given
  have sizes {left right : Option Int} (given : left.map (ParameterValue.integer (K := K)) =
      right.map .integer) : left = right := map_cancel (fun _ _ => ParameterValue.integer.inj) given
  have types : first.velFilterType = second.velFilterType :=
    map_cancel (fun _ _ equal => typeName_injective (ParameterValue.string.inj equal))
      (same .velFilterType)
  cases first
  cases second
  rw [PerJointUpdate.mk.injEq]
  exact ⟨types, sizes (same .velFilterSize), sizes (same .posMedianFilterSize), numbers (same .alpha),
    numbers (same .beta), numbers (same .tauC), numbers (same .tauS), numbers (same .vS),
    numbers (same .k), numbers (same .kA), numbers (same .b), numbers (same .posLimitMin),
    numbers (same .posLimitMax)⟩

/-- Every update that is pending has a field to set, and a joint that the map knows. -/
structure Pending (map : List (String × Nat × Nat)) (pending : PendingUpdates K) : Prop where
  filled : ∀ entry ∈ pending.updates, ∃ field value, entry.2.given field = some value
  known : ∀ entry ∈ pending.updates, (map.lookup entry.1).isSome = true

theorem parseParameter_pending {parameter : Parameter K} {updated : PendingUpdates K}
    (waiting : Pending map pending) (accepted : parseParameter map pending parameter = .ok updated) :
    Pending map updated := by
  obtain ⟨name, value⟩ := parameter
  simp only [parseParameter] at accepted
  split at accepted
  case h_4 =>
    simp only [parseJointParameter] at accepted
    split at accepted
    · cases accepted
    split at accepted
    · cases accepted
    rename_i known
    obtain ⟨update, read, accepted⟩ := checked_bind_ok.mp accepted
    cases accepted
    obtain ⟨⟨own, _, given⟩, _⟩ := parseField_given read
    constructor
    · intro entry member
      rcases List.mem_append.mp member with old | new
      · exact waiting.filled entry (List.mem_filter.mp old).1
      · obtain rfl := List.mem_singleton.mp new
        exact ⟨own, value, by rw [given, if_pos rfl]⟩
    · intro entry member
      rcases List.mem_append.mp member with old | new
      · exact waiting.known entry (List.mem_filter.mp old).1
      · obtain rfl := List.mem_singleton.mp new
        rw [known]
        rfl
  case h_3 =>
    obtain ⟨limit, _, accepted⟩ := checked_bind_ok.mp accepted
    split at accepted
    · cases accepted
    · cases accepted
      exact ⟨waiting.filled, waiting.known⟩
  all_goals
    obtain ⟨_, _, accepted⟩ := checked_bind_ok.mp accepted
    cases accepted
    exact ⟨waiting.filled, waiting.known⟩

theorem parseParameters_pending {start : PendingUpdates K} (waiting : Pending map start)
    (accepted : batch.foldlM (parseParameter map) start = .ok pending) : Pending map pending := by
  induction batch generalizing start with
  | nil =>
      cases accepted
      exact waiting
  | cons parameter rest ih =>
      rw [List.foldlM_cons] at accepted
      obtain ⟨next, first, remaining⟩ := checked_bind_ok.mp accepted
      exact ih (parseParameter_pending waiting first) remaining

theorem parseBatch_pending (accepted : parseBatch map batch = .ok pending) : Pending map pending := by
  have empty : Pending map ({} : PendingUpdates K) :=
    ⟨fun _ impossible => absurd impossible List.not_mem_nil,
      fun _ impossible => absurd impossible List.not_mem_nil⟩
  exact parseParameters_pending empty accepted

omit [Scalar K] in
theorem mem_iff_lookup {α : Type} {entries : List (String × α)} {name : String} {value : α}
    (nodup : (entries.map Prod.fst).Nodup) : (name, value) ∈ entries ↔
      entries.lookup name = some value := by
  induction entries with
  | nil => simp
  | cons entry rest ih =>
      obtain ⟨fresh, nodupRest⟩ := List.nodup_cons.mp nodup
      rw [List.mem_cons, ih nodupRest, List.lookup_cons]
      by_cases own : name = entry.1
      · subst own
        have absent : rest.lookup entry.1 = none := by
          rw [List.lookup_eq_none_iff]
          intro other member
          simp only [bne_iff_ne, ne_eq]
          intro same
          exact fresh (List.mem_map.mpr ⟨other, member, same.symm⟩)
        simp [absent, Prod.ext_iff, eq_comm]
      · simp [own, Prod.ext_iff, beq_eq_false_iff_ne.mpr own]

omit [Scalar K] in
/-- An update is pending for a joint exactly if the batch gives it something. -/
theorem Pending.lookup_eq {first second : PendingUpdates K} (waiting : Pending map first)
    (waitingToo : Pending map second) (same : ∀ setting, first.given setting = second.given setting)
    (name : String) : first.updates.lookup name = second.updates.lookup name := by
  have gives (field : RuntimeField) : ((first.updates.lookup name).getD {}).given field =
      ((second.updates.lookup name).getD {}).given field := same (.joint name field)
  have filled {pending : PendingUpdates K} {update : PerJointUpdate K} (waiting : Pending map pending)
      (found : pending.updates.lookup name = some update) :
      ∃ field value, update.given field = some value := by
    obtain ⟨earlier, later, split, _⟩ := List.lookup_eq_some_iff.mp found
    exact waiting.filled (name, update) (by rw [split]; simp)
  cases found : first.updates.lookup name with
  | none =>
      cases foundToo : second.updates.lookup name with
      | none => rfl
      | some update =>
          obtain ⟨field, value, given⟩ := filled waitingToo foundToo
          have impossible := gives field
          rw [found, foundToo, Option.getD_none, Option.getD_some, given_empty, given] at impossible
          cases impossible
  | some update =>
      cases foundToo : second.updates.lookup name with
      | none =>
          obtain ⟨field, value, given⟩ := filled waiting found
          have impossible := gives field
          rw [found, foundToo, Option.getD_none, Option.getD_some, given_empty, given] at impossible
          cases impossible
      | some other =>
          rw [found, foundToo] at gives
          exact congrArg some (PerJointUpdate.ext_given gives)

/-- What two orders of one batch are parsed into. -/
structure SameUpdates (first second : PendingUpdates K) : Prop where
  updates : first.updates.Perm second.updates
  globals : applyGlobals first = applyGlobals second

theorem parseBatch_perm (perm : batch.Perm permuted) (distinct : (batch.map Parameter.name).Nodup)
    (accepted : parseBatch map batch = .ok pending)
    (acceptedToo : parseBatch map permuted = .ok other) : SameUpdates pending other := by
  have same (setting : Setting) : pending.given setting = other.given setting := by
    rw [(parseParameters_given accepted).setting, (parseParameters_given acceptedToo).setting,
      lastGiven_perm perm distinct]
  have names := (parseBatch_parsed accepted).names
  have namesToo := (parseBatch_parsed acceptedToo).names
  constructor
  · rw [List.perm_ext_iff_of_nodup names.of_map namesToo.of_map]
    intro ⟨name, update⟩
    rw [mem_iff_lookup names, mem_iff_lookup namesToo,
      (parseBatch_pending accepted).lookup_eq (parseBatch_pending acceptedToo) same]
  · have damping := map_cancel (fun _ _ => ParameterValue.double.inj) (same .defaultDampingKD)
    have onError := map_cancel (fun _ _ => ParameterValue.bool.inj) (same .dampingOnMotorError)
    have maximum := map_cancel (fun _ _ => ParameterValue.integer.inj)
      (same .maxCanErrorsBeforeMotorShutdown)
    funext node
    rw [applyGlobals, applyGlobals, damping, onError, maximum]

end CubemarsDriver.Node

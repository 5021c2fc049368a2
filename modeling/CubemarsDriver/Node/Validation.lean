import CubemarsDriver.Node.Build

namespace CubemarsDriver.Node

open Foundation Can

/-! # What the validation of the joints ensures -/

variable {K : Type} [Scalar K]
variable {assignment : Assignment K} {defaults : String → Nat} {earlier rest : List String} {name : String}
variable {seen after : Seen}

/-- The identifier of a joint on its interface. -/
def HasCanId (assignment : Assignment K) (name : String) (id : String × BitVec 32) : Prop :=
  assignment.getString (jointParameterName name "can_interface") none = .ok id.1 ∧
    ∃ canId, assignment.getInteger (jointParameterName name "can_id") none = .ok canId ∧
      id.2 = BitVec.ofInt 32 canId

/-- The message index of a joint as `std::set<int>` holds it. -/
def HasMsgIdx (assignment : Assignment K) (defaults : String → Nat) (name : String)
    (msgIdx : BitVec 32) : Prop :=
  ∃ value, msgIdxParameter assignment defaults name = .ok value ∧ msgIdx = BitVec.ofInt 32 value

/-- What is known of the joints seen so far, the last one first. -/
structure Validated (assignment : Assignment K) (defaults : String → Nat) (earlier : List String)
    (seen : Seen) : Prop where
  interfaces : ∀ name ∈ earlier, ∀ canInterface,
    assignment.getString (jointParameterName name "can_interface") none = .ok canInterface →
      canInterface ∈ seen.canInterfacesNames
  canIds : List.Forall₂ (HasCanId assignment) earlier seen.canIdPerInterface
  canIdsDistinct : seen.canIdPerInterface.Nodup
  msgIdxs : List.Forall₂ (HasMsgIdx assignment defaults) earlier seen.msgIdxs
  msgIdxsDistinct : seen.msgIdxs.Nodup
  ratios : ∀ name ∈ earlier, ∃ ratio, assignment.getDouble
    (jointParameterName name "transmission_ratio") (some Scalar.one) = .ok ratio ∧
      ¬ ratio ≤ Scalar.zero

theorem mem_of_mem_reachedJoints {names : List String}
    (reached : name ∈ reachedJoints assignment defaults names seen) : name ∈ names := by
  induction names generalizing seen with
  | nil => exact reached
  | cons first rest ih =>
      rw [reachedJoints] at reached
      rcases List.mem_cons.mp reached with rfl | later
      · exact List.mem_cons_self
      · split at later
        · exact List.mem_cons_of_mem _ (ih later)
        · cases later

theorem mem_insertName {names : List String} {other : String} :
    other ∈ insertName name names ↔ other = name ∨ other ∈ names := by
  unfold insertName
  split
  · constructor
    · exact .inr
    · rintro (rfl | member)
      · assumption
      · exact member
  · exact List.mem_orderedInsert _

theorem validateJoint_validated (validated : Validated assignment defaults earlier seen)
    (accepted : validateJoint assignment defaults name seen = .ok (some after)) :
    Validated assignment defaults (name :: earlier) after := by
  simp only [validateJoint, checked_bind_ok] at accepted
  obtain ⟨canInterface, interfaceRead, msgIdx, msgIdxRead, accepted⟩ := accepted
  split at accepted
  · cases accepted
  · next msgIdxNew =>
      simp only [checked_bind_ok] at accepted
      obtain ⟨canId, canIdRead, accepted⟩ := accepted
      split at accepted
      · cases accepted
      · next canIdNew =>
          simp only [checked_bind_ok] at accepted
          obtain ⟨_, _, ratio, ratioRead, accepted⟩ := accepted
          split at accepted
          · cases accepted
          · next positive =>
              cases accepted
              constructor
              case interfaces =>
                intro other member otherInterface otherRead
                rw [mem_insertName]
                rcases List.mem_cons.mp member with rfl | old
                · cases interfaceRead.symm.trans otherRead
                  exact .inl rfl
                · exact .inr (validated.interfaces other old otherInterface otherRead)
              case canIds => exact .cons ⟨interfaceRead, canId, canIdRead, rfl⟩ validated.canIds
              case canIdsDistinct => exact List.nodup_cons.mpr ⟨canIdNew, validated.canIdsDistinct⟩
              case msgIdxs => exact .cons ⟨msgIdx, msgIdxRead, rfl⟩ validated.msgIdxs
              case msgIdxsDistinct =>
                exact List.nodup_cons.mpr ⟨fun taken => msgIdxNew (.inl taken),
                  validated.msgIdxsDistinct⟩
              case ratios =>
                intro other member
                rcases List.mem_cons.mp member with rfl | old
                · exact ⟨ratio, ratioRead, positive⟩
                · exact validated.ratios other old

/-- The invariant rule for the loop over the joints. -/
theorem validateJoints_invariant (invariant : List String → Seen → Prop)
    (step : ∀ name earlier seen after, name ∈ rest → invariant earlier seen →
      validateJoint assignment defaults name seen = .ok (some after) →
      invariant (name :: earlier) after)
    (initial : invariant earlier seen)
    (accepted : validateJoints assignment defaults rest seen = .ok (some after)) :
    invariant (rest.reverse ++ earlier) after := by
  induction rest generalizing earlier seen with
  | nil =>
      cases accepted
      exact initial
  | cons name rest ih =>
      simp only [validateJoints, checked_bind_ok] at accepted
      obtain ⟨_, _, found, validation, accepted⟩ := accepted
      cases found with
      | none => cases accepted
      | some next =>
          have later := ih
            (fun name earlier seen after member => step name earlier seen after (.tail _ member))
            (step name earlier seen next List.mem_cons_self initial validation) accepted
          simpa using later

theorem validateJoints_validated (validated : Validated assignment defaults earlier seen)
    (accepted : validateJoints assignment defaults rest seen = .ok (some after)) :
    Validated assignment defaults (rest.reverse ++ earlier) after :=
  validateJoints_invariant (Validated assignment defaults)
    (fun _ _ _ _ _ => validateJoint_validated) validated accepted

theorem validated_nil : Validated assignment defaults [] {} := by
  constructor <;> simp

/-- The message indices are as they were given, and none is above the greatest one. -/
structure IndicesBounded (assignment : Assignment K) (defaults : String → Nat) (earlier : List String)
    (seen : Seen) : Prop where
  entries : ∀ name ∈ earlier, ∀ value, msgIdxParameter assignment defaults name = .ok value →
    0 ≤ value ∧ value ≤ seen.maxMsgIdx
  greatest : seen.maxMsgIdx < 2 ^ 31

theorem toUnsigned_eq (value : Int) : (toUnsigned value : Int) = value % 2 ^ 32 := by
  simp only [toUnsigned, BitVec.toNat_ofInt]
  omega

theorem toUnsigned_of_fits {value : Int} (positive : 0 ≤ value) (fits : value < 2 ^ 31) :
    (toUnsigned value : Int) = value := by
  rw [toUnsigned_eq]
  omega

theorem validateJoint_bounded
    (fits : ∀ value, msgIdxParameter assignment defaults name = .ok value → value < 2 ^ 31)
    (bounded : IndicesBounded assignment defaults earlier seen)
    (accepted : validateJoint assignment defaults name seen = .ok (some after)) :
    IndicesBounded assignment defaults (name :: earlier) after := by
  simp only [validateJoint, checked_bind_ok] at accepted
  obtain ⟨_, _, msgIdx, msgIdxRead, accepted⟩ := accepted
  split at accepted
  · cases accepted
  · next fresh =>
      have positive : 0 ≤ msgIdx := by omega
      have stored := toUnsigned_of_fits positive (fits msgIdx msgIdxRead)
      simp only [checked_bind_ok] at accepted
      obtain ⟨_, _, accepted⟩ := accepted
      split at accepted
      · cases accepted
      · simp only [checked_bind_ok] at accepted
        obtain ⟨_, _, _, _, accepted⟩ := accepted
        split at accepted
        · cases accepted
        · cases accepted
          have grown : msgIdx ≤ (if (seen.maxMsgIdx : Int) < msgIdx then toUnsigned msgIdx
              else seen.maxMsgIdx : Nat) ∧ (seen.maxMsgIdx : Int) ≤
              (if (seen.maxMsgIdx : Int) < msgIdx then toUnsigned msgIdx else seen.maxMsgIdx : Nat) := by
            split <;> omega
          constructor
          case entries =>
            intro other member value read
            rcases List.mem_cons.mp member with rfl | old
            · cases msgIdxRead.symm.trans read
              exact ⟨positive, grown.1⟩
            · have earlierBound := bounded.entries other old value read
              exact ⟨earlierBound.1, earlierBound.2.trans grown.2⟩
          case greatest =>
            have limit := fits msgIdx msgIdxRead
            have before := bounded.greatest
            dsimp only
            split <;> omega

omit [Scalar K] in
theorem indicesBounded_nil : IndicesBounded assignment defaults [] {} := by
  constructor <;> simp

/-- Different joints have different message indices. -/
theorem Validated.msgIdxs_distinct {names : List String} {settings : List (JointSettings K)}
    (validated : Validated assignment defaults earlier seen)
    (reads : List.Forall₂ (fun name joint => readJoint assignment defaults names name =
      .ok (some joint)) earlier settings) :
    (settings.map fun joint => joint.params.msgIdx).Nodup := by
  refine forall₂_nodup (forall₂_through reads validated.msgIdxs) ?_ validated.msgIdxsDistinct
  rintro joint joint' msgIdx msgIdx' ⟨name, _, read, value, found, rfl⟩
    ⟨name', _, read', value', found', rfl⟩ same
  obtain ⟨_, again, stored⟩ := (readJoint_readFrom read).msgIdx
  obtain ⟨_, again', stored'⟩ := (readJoint_readFrom read').msgIdx
  cases found.symm.trans again
  cases found'.symm.trans again'
  rw [stored, stored'] at same
  exact BitVec.eq_of_toNat_eq same

/-- Joints on one interface have different identifiers. -/
theorem Validated.canIds_distinct {settings : List (JointSettings K)}
    (validated : Validated assignment defaults earlier seen)
    (reads : List.Forall₂ (fun name joint => readJoint assignment defaults
      seen.canInterfacesNames name = .ok (some joint)) earlier settings) :
    (settings.map fun joint => (joint.canInterfaceId, joint.config.canId)).Nodup := by
  refine forall₂_nodup (forall₂_through reads validated.canIds) ?_ validated.canIdsDistinct
  rintro joint joint' ⟨canInterface, canId⟩ ⟨canInterface', canId'⟩ ⟨name, there, read, hasId⟩
    ⟨name', there', read', hasId'⟩ same
  obtain ⟨interfaceRead, _, idRead, rfl⟩ := hasId
  obtain ⟨interfaceRead', _, idRead', rfl⟩ := hasId'
  obtain ⟨_, fromInterface, position⟩ := (readJoint_readFrom read).canInterface
  obtain ⟨_, fromInterface', position'⟩ := (readJoint_readFrom read').canInterface
  obtain ⟨_, fromId, own⟩ := (readJoint_readFrom read).canId
  obtain ⟨_, fromId', own'⟩ := (readJoint_readFrom read').canId
  cases fromInterface.symm.trans interfaceRead
  cases fromInterface'.symm.trans interfaceRead'
  cases fromId.symm.trans idRead
  cases fromId'.symm.trans idRead'
  rw [position, position', own, own', Prod.mk.injEq] at same
  have member := validated.interfaces name there canInterface interfaceRead
  rw [(List.idxOf_inj member).mp same.1, same.2]

end CubemarsDriver.Node

import CubemarsDriver.Plugin.StoppedJoints
import Mathlib.Data.List.Nodup
import Mathlib.Order.Bounds.Basic

namespace CubemarsDriver

/-! # The mode a joint is given by the interfaces that are started

A position interface outranks a velocity interface, which outranks an effort
interface. A gain interface alone leaves the joint without a mode. -/

/-- How strong a claim a mode has on a joint; no interface gives the mode `error`. -/
def JointMode.priority : JointMode → Nat
  | .undefined => 0
  | .effort => 1
  | .velocity => 2
  | .position => 3
  | .error => 4

theorem JointMode.priority_injective : Function.Injective JointMode.priority := by
  intro first second same
  cases first <;> cases second <;> simp_all [JointMode.priority]

instance JointMode.instPartialOrder : PartialOrder JointMode :=
  PartialOrder.lift JointMode.priority JointMode.priority_injective

theorem JointMode.le_iff {first second : JointMode} :
    first ≤ second ↔ first.priority ≤ second.priority := Iff.rfl

theorem JointMode.undefined_le (mode : JointMode) : JointMode.undefined ≤ mode :=
  Nat.zero_le mode.priority

namespace Plugin

variable {K : Type} {count : Nat}

/-- The interface gives this mode. -/
inductive InterfaceNames.Provides (names : InterfaceNames) (interface : String) : JointMode → Prop
  | position (same : interface = names.position) : names.Provides interface .position
  | velocity (same : interface = names.velocity) : names.Provides interface .velocity
  | effort (same : interface = names.effort) : names.Provides interface .effort
  | gain (same : interface = names.proportionalGain ∨ interface = names.derivativeGain) :
      names.Provides interface .undefined

/-- The modes of the interfaces that the keys list for the joint. -/
def ListedModes (names : InterfaceNames) (keys : List String) (name : String) : Set JointMode :=
  {mode | ∃ key ∈ keys, keyName key = name ∧ names.Provides (keyMode key) mode}

variable {names : InterfaceNames} {jointNames : Vector String count} {joint : Fin count}
variable {interface key name : String} {keys : List String} {modes after : Vector JointMode count}

theorem provided_known (known : interface ∈ names.all) :
    ∃ mode, names.Provides interface mode := by
  simp only [InterfaceNames.all, List.mem_cons, List.not_mem_nil, or_false] at known
  rcases known with position | velocity | effort | gain
  · exact ⟨_, .position position⟩
  · exact ⟨_, .velocity velocity⟩
  · exact ⟨_, .effort effort⟩
  · exact ⟨_, .gain gain⟩

theorem startMode_none_iff {current : JointMode} :
    startMode names interface current = none ↔ interface ∉ names.all := by
  unfold startMode
  simp only [InterfaceNames.all, List.mem_cons, List.not_mem_nil, or_false]
  split_ifs <;> simp_all

theorem startMode_ne_error {current next : JointMode} (sound : current ≠ .error)
    (started : startMode names interface current = some next) : next ≠ .error := by
  unfold startMode at started
  split_ifs at started <;> simp_all <;> simp [← started]

/-- The three overwrite conditions of the source never give up a stronger claim. -/
theorem startMode_le {current next : JointMode} (sound : current ≠ .error)
    (started : startMode names interface current = some next) : current ≤ next := by
  rw [JointMode.le_iff]
  unfold startMode at started
  cases current <;> split_ifs at started <;> simp_all [JointMode.priority] <;> simp [← started]

theorem startMode_provides_le {current next mode : JointMode}
    (started : startMode names interface current = some next)
    (provided : names.Provides interface mode) : mode ≤ next := by
  rw [JointMode.le_iff]
  unfold startMode at started
  cases provided <;> cases current <;> split_ifs at started <;>
    simp_all [JointMode.priority] <;> simp [← started]

theorem startMode_source {current next : JointMode}
    (started : startMode names interface current = some next) :
    next = current ∨ names.Provides interface next := by
  unfold startMode at started
  split_ifs at started with position velocity ahead effort free gain
  · obtain rfl := Option.some.inj started
    exact .inr (.position position)
  · obtain rfl := Option.some.inj started
    exact .inr (.velocity velocity)
  · exact .inl (Option.some.inj started).symm
  · obtain rfl := Option.some.inj started
    exact .inr (.effort effort)
  · exact .inl (Option.some.inj started).symm
  · exact .inl (Option.some.inj started).symm

theorem startMode_greatest {current next : JointMode} (sound : current ≠ .error)
    (started : startMode names interface current = some next) :
    IsGreatest (insert current {mode | names.Provides interface mode}) next := by
  constructor
  · exact startMode_source started
  · rintro mode (rfl | provided)
    · exact startMode_le sound started
    · exact startMode_provides_le started provided

theorem listedModes_cons :
    ListedModes names (key :: keys) name =
      {mode | keyName key = name ∧ names.Provides (keyMode key) mode} ∪
        ListedModes names keys name := by
  ext mode
  simp [ListedModes]

theorem listedModes_cons_own (own : keyName key = name) :
    ListedModes names (key :: keys) name =
      {mode | names.Provides (keyMode key) mode} ∪ ListedModes names keys name := by
  simp [listedModes_cons, own]

theorem listedModes_cons_other (other : keyName key ≠ name) :
    ListedModes names (key :: keys) name = ListedModes names keys name := by
  simp [listedModes_cons, other]

/-- The greatest of some modes may stand for all of them. -/
theorem greatest_of_replaced {first rest : Set JointMode} {best top : JointMode}
    (greatest : IsGreatest first best) (replaced : IsGreatest (insert best rest) top) :
    IsGreatest (first ∪ rest) top := by
  constructor
  · rcases replaced.1 with rfl | later
    · exact .inl greatest.1
    · exact .inr later
  · rintro mode (early | later)
    · exact (greatest.2 early).trans (replaced.2 (Set.mem_insert best rest))
    · exact replaced.2 (Set.mem_insert_of_mem best later)

theorem findJoint_exists (jointNames : Vector String count) (joint : Fin count) :
    ∃ found, findJoint jointNames (jointNames.get joint) = some found := by
  cases search : findJoint jointNames (jointNames.get joint) with
  | some found => exact ⟨found, rfl⟩
  | none =>
      have missing := List.find?_eq_none.mp search joint (List.mem_finRange joint)
      exact absurd (decide_eq_true rfl) missing

theorem joint_of_name (unique : jointNames.toList.Nodup) {first second : Fin count}
    (same : jointNames.get first = jointNames.get second) : first = second := by
  have equal : jointNames.toList[first.val] = jointNames.toList[second.val] := by
    rw [Vector.getElem_toList, Vector.getElem_toList]
    exact same
  exact Fin.ext ((List.Nodup.getElem_inj_iff unique).mp equal)

/-- The first joint that cannot be switched as its key says ends the call. -/
theorem startModes_none_iff :
    startModes names jointNames keys modes = none ↔
      ∃ key ∈ keys, ∃ joint : Fin count,
        jointNames.get joint = keyName key ∧ keyMode key ∉ names.all := by
  induction keys generalizing modes with
  | nil => simp [startModes]
  | cons key rest ih =>
      rw [startModes]
      cases found : findJoint jointNames (keyName key) with
      | none =>
          have foreign (joint : Fin count) : jointNames.get joint ≠ keyName key := by
            intro same
            obtain ⟨other, present⟩ := findJoint_exists jointNames joint
            rw [same, found] at present
            cases present
          simp only [ih, List.mem_cons, exists_eq_or_imp, foreign, false_and, exists_false, false_or]
      | some joint =>
          have named : jointNames.get joint = keyName key := findJoint_name found
          cases started : startMode names (keyMode key) modes[joint] with
          | none =>
              have unknown := startMode_none_iff.mp started
              simp only [started, true_iff]
              exact ⟨key, List.mem_cons_self, joint, named, unknown⟩
          | some mode =>
              have known : keyMode key ∈ names.all := startMode_known started
              simp only [started, ih, List.mem_cons, exists_eq_or_imp, known, not_true, and_false,
                exists_false, false_or]

theorem startModes_greatest (unique : jointNames.toList.Nodup)
    (sound : ∀ joint : Fin count, modes.get joint ≠ .error)
    (started : startModes names jointNames keys modes = some after) (joint : Fin count) :
    IsGreatest (insert (modes.get joint) (ListedModes names keys (jointNames.get joint)))
      (after.get joint) := by
  induction keys generalizing modes with
  | nil =>
      cases started
      simp [ListedModes, isGreatest_singleton]
  | cons key rest ih =>
      rw [startModes] at started
      cases found : findJoint jointNames (keyName key) with
      | none =>
          rw [found] at started
          have other : keyName key ≠ jointNames.get joint := by
            intro same
            obtain ⟨first, present⟩ := findJoint_exists jointNames joint
            rw [← same, found] at present
            cases present
          rw [listedModes_cons_other other]
          exact ih sound started
      | some index =>
          rw [found] at started
          have named : jointNames.get index = keyName key := findJoint_name found
          cases next : startMode names (keyMode key) modes[index] with
          | none => simp only [next, reduceCtorEq] at started
          | some mode =>
              simp only [next] at started
              have soundAfter (other : Fin count) : (modes.set index mode).get other ≠ .error := by
                by_cases same : index = other
                · subst same
                  have replaced : (modes.set index mode).get index = mode := Vector.getElem_set_self _
                  rw [replaced]
                  exact startMode_ne_error (sound index) next
                · have kept : (modes.set index mode).get other = modes.get other :=
                    Vector.getElem_set_ne _ _ fun equal => same (Fin.ext equal)
                  rw [kept]
                  exact sound other
              have rest := ih soundAfter started
              by_cases own : index = joint
              · subst own
                have replaced : (modes.set index mode).get index = mode := Vector.getElem_set_self _
                rw [replaced] at rest
                rw [listedModes_cons_own named.symm, ← Set.insert_union]
                exact greatest_of_replaced (startMode_greatest (sound index) next) rest
              · have kept : (modes.set index mode).get joint = modes.get joint :=
                  Vector.getElem_set_ne _ _ fun same => own (Fin.ext same)
                have other : keyName key ≠ jointNames.get joint := by
                  intro same
                  exact own (joint_of_name unique (named.trans same))
                rw [kept] at rest
                rwa [listedModes_cons_other other]

theorem get_undefined (joint : Fin count) :
    (Vector.replicate count JointMode.undefined).get joint = .undefined :=
  Vector.getElem_replicate joint.isLt

theorem undefined_sound (joint : Fin count) :
    (Vector.replicate count JointMode.undefined).get joint ≠ .error := by
  rw [get_undefined]
  decide

/-- The mode of a joint that a key names is the highest one listed for it. -/
theorem startModes_named (unique : jointNames.toList.Nodup)
    (started : startModes names jointNames keys (Vector.replicate count .undefined) = some after)
    (named : Named keys (jointNames.get joint)) :
    IsGreatest (ListedModes names keys (jointNames.get joint)) (after.get joint) := by
  have greatest := startModes_greatest unique undefined_sound started joint
  rw [get_undefined joint] at greatest
  constructor
  · rcases greatest.1 with unlisted | listed
    · obtain ⟨key, member, own⟩ := named
      have known : keyMode key ∈ names.all := by
        by_contra unknown
        rw [startModes_none_iff.mpr ⟨key, member, joint, own.symm, unknown⟩] at started
        cases started
      obtain ⟨mode, provided⟩ := provided_known known
      have listed : mode ∈ ListedModes names keys (jointNames.get joint) := ⟨key, member, own, provided⟩
      have atMost : mode ≤ .undefined := by
        rw [← unlisted]
        exact greatest.2 (Set.mem_insert_of_mem _ listed)
      have same := le_antisymm atMost mode.undefined_le
      rwa [unlisted, ← same]
    · exact listed
  · intro mode listed
    exact greatest.2 (Set.mem_insert_of_mem _ listed)

/-- Only the set of the keys matters. -/
theorem startModes_congr (unique : jointNames.toList.Nodup) {others : List String}
    (same : ∀ key, key ∈ others ↔ key ∈ keys) :
    startModes names jointNames others (Vector.replicate count .undefined) =
      startModes names jointNames keys (Vector.replicate count .undefined) := by
  have listedSame (name : String) : ListedModes names others name = ListedModes names keys name := by
    simp only [ListedModes, same]
  cases started : startModes names jointNames keys (Vector.replicate count .undefined) with
  | none =>
      rw [startModes_none_iff] at started ⊢
      simpa only [same] using started
  | some after =>
      cases startedOthers : startModes names jointNames others (Vector.replicate count .undefined) with
      | none =>
          rw [startModes_none_iff] at startedOthers
          simp only [same] at startedOthers
          rw [startModes_none_iff.mpr startedOthers] at started
          cases started
      | some afterOthers =>
          congr 1
          apply Vector.ext
          intro index inRange
          have mine := startModes_greatest unique undefined_sound started ⟨index, inRange⟩
          have theirs := startModes_greatest unique undefined_sound startedOthers ⟨index, inRange⟩
          rw [listedSame] at theirs
          exact theirs.unique mine

/-- A switch fails exactly if some key names a joint with an interface there is not, and then
it changes nothing; else each joint it names gets the highest mode listed for it, whatever
the order and the repetitions of the list. -/
theorem mode_switch_priority [Scalar K] (startInterfaces stopInterfaces : List String)
    (plugin : CubemarsHardwareInterface K count) (unique : plugin.jointNames.toList.Nodup) :
    let switch (keys : List String) := prepareCommandModeSwitch names keys stopInterfaces plugin
    ((switch startInterfaces).1 = .error ↔
      ∃ key ∈ startInterfaces, ∃ joint : Fin count,
        plugin.jointNames.get joint = keyName key ∧ keyMode key ∉ names.all) ∧
    ((switch startInterfaces).1 = .error → (switch startInterfaces).2 = plugin) ∧
    ((switch startInterfaces).1 = .ok →
      ∀ joint : Fin count, Named startInterfaces (plugin.jointNames.get joint) →
        IsGreatest (ListedModes names startInterfaces (plugin.jointNames.get joint))
          ((switch startInterfaces).2.hwControlLevel.get joint)) ∧
    ∀ others : List String, (∀ key, key ∈ others ↔ key ∈ startInterfaces) →
      switch others = switch startInterfaces := by
  intro switch
  refine ⟨?_, ?_, ?_, ?_⟩
  · have fails : startModes names plugin.jointNames startInterfaces
        (Vector.replicate count .undefined) = none ↔ _ := startModes_none_iff
    rw [← fails]
    cases started : startModes names plugin.jointNames startInterfaces
        (Vector.replicate count .undefined) <;> simp [switch, prepareCommandModeSwitch, started]
  · cases started : startModes names plugin.jointNames startInterfaces
        (Vector.replicate count .undefined) <;> simp [switch, prepareCommandModeSwitch, started]
  · intro ok joint named
    cases started : startModes names plugin.jointNames startInterfaces
        (Vector.replicate count .undefined) with
    | none => simp [switch, prepareCommandModeSwitch, started] at ok
    | some newModes =>
        have given := startModes_named unique started named
        simpa [switch, prepareCommandModeSwitch, started] using given
  · intro others same
    simp only [switch, prepareCommandModeSwitch, startModes_congr unique same]

/-- A velocity interface listed after a position interface does not take the joint from it. -/
theorem mode_switch_priority_right :
    IsGreatest (ListedModes interfaceNames ["right/position", "right/velocity"] "right")
      (prepareCommandModeSwitch interfaceNames ["right/position", "right/velocity"] []
        twoJoints).2.hwControlLevel[(1 : Fin 2)] :=
  (mode_switch_priority ["right/position", "right/velocity"] [] twoJoints (by decide)).2.2.1
    (by decide +kernel) 1 (by decide +kernel)

end Plugin

end CubemarsDriver

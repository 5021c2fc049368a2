import CubemarsDriver.Foundation.Coupling
import CubemarsDriver.Node.JointNames
import Mathlib.Data.List.Induction

namespace CubemarsDriver.Node

open Foundation Can

/-! # Configurations of an unconfigured node

A configuration reads nothing of the node but the rows of its tables, whether there is a
supervisor timer, and the defaults that have been declared.  Where these do not matter, and
from tables without joints, it goes as on a node that has just been constructed. -/

variable {K : Type} {index joint count : Nat} {tables : JointTables K} {left right : Node K}

/-- Rows, but no joints. -/
def Vacant (tables : JointTables K) : Prop := ∃ count, tables = JointTables.resize {} count

theorem vacant_empty : Vacant ({} : JointTables K) := ⟨0, rfl⟩

theorem Vacant.resize (vacant : Vacant tables) (count : Nat) :
    JointTables.resize tables count = JointTables.resize {} count := by
  have rows {α : Type} (before : Nat) :
      Foundation.resize (Foundation.resize ([] : List (List α)) before []) count [] =
        Foundation.resize [] count [] := by
    have empty : ∀ row ∈ Foundation.resize ([] : List (List α)) before [], row = [] := by
      simp [Foundation.resize]
    rw [resize_constant empty, resize_constant (by simp)]
  obtain ⟨before, rfl⟩ := vacant
  simp only [JointTables.resize, rows]

/-- There is a supervisor timer, or it can be created. -/
def supervised (node : Node K) : Bool := node.supervisorTimer || decide (0 < node.watchdogFrequency)

/-- What the creation of the interfaces and the motors read beside the interfaces. -/
structure Ground (K : Type) where
  tables : JointTables K
  commThreads : List CommThread
  enableTxTimestamping : Bool
  enableCanErrorFrames : Bool
  frequency : Int
  supervised : Bool

def ground (node : Node K) : Ground K where
  tables := node.tables
  commThreads := node.commThreads
  enableTxTimestamping := node.enableTxTimestamping
  enableCanErrorFrames := node.enableCanErrorFrames
  frequency := node.frequency
  supervised := node.supervised

structure Alike (left right : Node K) : Prop where
  ground : left.ground = right.ground
  canInterfaces : left.canInterfaces = right.canInterfaces

theorem Alike.sameTables (alike : Alike left right) : left.tables = right.tables :=
  congrArg Ground.tables alike.ground

theorem Alike.sameThreads (alike : Alike left right) : left.commThreads = right.commThreads :=
  congrArg Ground.commThreads alike.ground

section Steps

variable {configs : JointConfigs K}

/-- The path ends alike from nodes that are alike. -/
abbrev Agreeing {α : Type} (path : NodePath K α) : Prop := Path.Couples Alike path Alike Alike

theorem jointParameters_agreeing :
    Agreeing (jointParameters index joint : NodePath K (JointParameters K)) :=
  Path.Couples.element fun _ _ alike => by rw [alike.sameTables]

theorem jointCount_agreeing : Agreeing (jointCount index : NodePath K Nat) :=
  Path.Couples.bind (Path.Couples.element fun _ _ alike => by rw [alike.sameTables]) fun _ =>
    Path.Couples.pure _

theorem Alike.recorded (alike : Alike left right) (event event' : NodeEvent) :
    Alike (left.recorded event) (right.recorded event') :=
  ⟨alike.ground, alike.canInterfaces⟩

theorem canInterface_agreeing : Agreeing (canInterface index : NodePath K (CubemarsCan K)) :=
  Path.Couples.bind (Path.Couples.update fun _ _ alike => alike.recorded _ _)
    fun _ => Path.Couples.element fun _ _ alike => by rw [alike.canInterfaces]

theorem handshake_agreeing (step : HandshakeStep) :
    Agreeing (handshake index step : NodePath K Unit) := by
  intro state state' alike
  cases found : state'.canInterfaces[index]?.join with
  | none =>
      exact ⟨.undefined, state.recorded (.interfaceUsed index), state'.recorded (.interfaceUsed index),
        by simp only [handshake, alike.canInterfaces, found], by simp only [handshake, found], trivial⟩
  | some can =>
      have found' : state.canInterfaces[index]?.join = some can := by rw [alike.canInterfaces, found]
      refine ⟨_, _, _, handshake_run step found', handshake_run step found, ?_⟩
      have after : Alike
          { state.recorded (handshakeEvent index step can) with
            canInterfaces := state.canInterfaces.set index (some (step.path.run can).2) }
          { state'.recorded (handshakeEvent index step can) with
            canInterfaces := state'.canInterfaces.set index (some (step.path.run can).2) } :=
        ⟨alike.ground, by rw [alike.canInterfaces]⟩
      cases (step.path.run can).1 with
      | returned value => exact after
      | thrown exception => exact after
      | undefined => trivial

theorem nameConfig_agreeing : Agreeing (nameConfig configs index joint : NodePath K Unit) :=
  Path.Couples.bind canInterface_agreeing fun _ =>
    Path.Couples.bind (Path.Couples.element fun _ _ _ => rfl) fun _ => Path.Couples.pure _

/-- The event that is recorded may differ. -/
theorem changeThread_alike (alike : Alike left right) (event event' : NodeEvent)
    (change : CommThread → CommThread) : ∃ outcome after after',
      (changeThread index event change).run left = (outcome, after) ∧
      (changeThread index event' change).run right = (outcome, after') ∧
      Path.Outcome.Relates Alike Alike after after' outcome := by
  by_cases bound : index < right.commThreads.length
  · have bound' : index < left.commThreads.length := by rwa [alike.sameThreads]
    refine ⟨.returned (), _, _, Path.updateDefined_some (if_pos bound'),
      Path.updateDefined_some (if_pos bound), ?_⟩
    have changed : ({ left.ground with commThreads := left.commThreads.modify index change } : Ground K) =
        { right.ground with commThreads := right.commThreads.modify index change } := by
      rw [alike.ground, alike.sameThreads]
    exact ⟨changed, alike.canInterfaces⟩
  · have bound' : ¬ index < left.commThreads.length := by rwa [alike.sameThreads]
    exact ⟨.undefined, left, right, Path.updateDefined_none (if_neg bound'),
      Path.updateDefined_none (if_neg bound), trivial⟩

theorem joinThread_agreeing : Agreeing (joinThread index : NodePath K Unit) := by
  intro state state' alike
  rw [joinThread, Path.read_bind, Path.read_bind]
  exact changeThread_alike alike _ _ _

theorem startCommThread_agreeing : Agreeing (startCommThread index : NodePath K Unit) := by
  refine Path.Couples.bind (Path.Couples.element fun _ _ alike => by rw [alike.sameThreads])
    fun thread => Path.Couples.when fun _ => ?_
  exact Path.Couples.bind (Path.Couples.when fun _ => joinThread_agreeing) fun _ _ _ alike =>
    changeThread_alike alike _ _ _

theorem anyFailed_agreeing {ι : Type} {body : ι → NodePath K Bool}
    (step : ∀ item, Agreeing (body item)) (items : List ι) : Agreeing (anyFailed body items) := by
  induction items with
  | nil => exact Path.Couples.pure _
  | cons item rest ih =>
      exact Path.Couples.bind (step item) fun _ => Path.Couples.bind ih fun _ => Path.Couples.pure _

theorem enableMotor_agreeing : Agreeing (enableMotor configs index joint) := by
  refine Path.Couples.bind jointParameters_agreeing fun _ => ?_
  refine Path.Couples.bind (Path.Couples.attempt (Path.Couples.bind (handshake_agreeing _) fun _ =>
    nameConfig_agreeing)) fun result => ?_
  cases result <;> exact Path.Couples.pure _

theorem numInterfaces_alike (alike : Alike left right) : numInterfaces left = numInterfaces right := by
  rw [numInterfaces, alike.canInterfaces, numInterfaces]

theorem enableMotors_agreeing : Agreeing (enableMotors configs) :=
  Path.Couples.bind (Path.Couples.read fun _ _ => numInterfaces_alike) fun _ =>
    anyFailed_agreeing (fun _ => Path.Couples.bind jointCount_agreeing fun _ =>
      anyFailed_agreeing (fun _ => enableMotor_agreeing) _) _

theorem disableAfterFailure_agreeing : Agreeing (disableAfterFailure configs index) :=
  Path.Couples.bind jointCount_agreeing fun _ =>
    Path.Couples.loopBelow (fun _ _ _ => rfl) fun _ =>
      Path.Couples.tryCatch (handshake_agreeing _) fun _ => nameConfig_agreeing

theorem clearInterfaces_agreeing : Agreeing (clearInterfaces : NodePath K Unit) := by
  refine Path.Couples.update fun left right alike => ?_
  have ground : left.ground = right.ground := alike.ground
  exact Alike.mk ground rfl

theorem createTimer_agreeing (frequency : Int) : Agreeing (createTimer frequency : NodePath K Unit) :=
  Path.Couples.when fun _ => Path.Couples.throw _

/-- An update of anything else leaves them alike. -/
theorem update_agreeing {change : Node K → Node K} (ground : ∀ node, (change node).ground = node.ground)
    (canInterfaces : ∀ node, (change node).canInterfaces = node.canInterfaces) :
    Agreeing (Path.update change : NodePath K Unit) := by
  refine Path.Couples.update fun left right alike => ?_
  constructor
  · rw [ground, ground, alike.ground]
  · rw [canInterfaces, canInterfaces, alike.canInterfaces]

theorem startPublishing_agreeing : Agreeing (startPublishing : NodePath K Unit) :=
  Path.Couples.bind (Path.Couples.read fun _ _ alike => congrArg Ground.frequency alike.ground)
    fun frequency => Path.Couples.bind (createTimer_agreeing frequency) fun _ =>
      update_agreeing (fun _ => rfl) fun _ => rfl

theorem supervised_iff (node : Node K) :
    node.supervised = true ↔ node.supervisorTimer = true ∨ 0 < node.watchdogFrequency := by
  simp [supervised]

theorem startSupervisor_agreeing : Agreeing (startSupervisor : NodePath K Unit) := by
  intro left right alike
  have same : left.supervised = right.supervised := congrArg Ground.supervised alike.ground
  rw [startSupervisor_run, startSupervisor_run]
  by_cases supervised : right.supervised = true
  · rw [if_pos ((supervised_iff left).mp (same.trans supervised)), if_pos ((supervised_iff right).mp supervised)]
    refine ⟨_, _, _, rfl, rfl, ?_⟩
    have ground : ({ left.ground with supervised := true } : Ground K) =
        { right.ground with supervised := true } := by rw [alike.ground]
    exact Alike.mk ground alike.canInterfaces
  · have unsupervised : ¬ left.supervised = true := by rwa [same]
    rw [supervised_iff] at supervised unsupervised
    rw [if_neg supervised, if_neg unsupervised]
    exact ⟨_, _, _, rfl, rfl, alike⟩

theorem startMotors_agreeing : Agreeing (startMotors configs) := by
  refine Path.Couples.bind enableMotors_agreeing fun failed => Path.Couples.ite (fun _ => ?_) fun _ => ?_
  · refine Path.Couples.bind (Path.Couples.loopBelow (fun _ _ => numInterfaces_alike) fun _ =>
      disableAfterFailure_agreeing) fun _ => ?_
    exact Path.Couples.bind clearInterfaces_agreeing fun _ => Path.Couples.pure _
  · refine Path.Couples.bind (update_agreeing (fun _ => rfl) fun _ => rfl) fun _ => ?_
    refine Path.Couples.bind startSupervisor_agreeing fun _ => ?_
    exact Path.Couples.bind (Path.Couples.loopBelow (fun _ _ => numInterfaces_alike) fun _ =>
      startCommThread_agreeing) fun _ => Path.Couples.pure _

end Steps

section Configuration

variable [Scalar K] {assignment : Assignment K} {bus : Bus} {now : Int} {total : Nat}

/-- Two nodes with the same interfaces up to an index. -/
structure AlikeBelow (total count : Nat) (left right : Node K) : Prop where
  ground : left.ground = right.ground
  sizes : left.canInterfaces.length = total ∧ right.canInterfaces.length = total
  below : ∀ index, index < count → left.canInterfaces[index]? = right.canInterfaces[index]?

omit [Scalar K] in
theorem AlikeBelow.alike (below : AlikeBelow total total left right) : Alike left right := by
  refine ⟨below.ground, List.ext_getElem? fun index => ?_⟩
  by_cases bound : index < total
  · exact below.below index bound
  · rw [List.getElem?_eq_none (by rw [below.sizes.1]; omega), List.getElem?_eq_none (by rw [below.sizes.2]; omega)]

omit [Scalar K] in
theorem checked_couples {α : Type} {before : Node K → Node K → Prop} (result : Checked α) :
    Path.Couples before (checked result) before fun _ _ => True := by
  cases result with
  | ok value => exact Path.Couples.pure value
  | error exception =>
      exact (Path.Couples.throw exception).consequence (fun _ _ _ => trivial) (fun _ _ => id)
        fun _ _ => id

omit [Scalar K] in
theorem AlikeBelow.store (below : AlikeBelow total count left right) (can : CubemarsCan K) :
    Option.Rel (AlikeBelow total (count + 1))
      ((storeAt left.canInterfaces count (some can)).map fun canInterfaces =>
        { left with canInterfaces })
      ((storeAt right.canInterfaces count (some can)).map fun canInterfaces =>
        { right with canInterfaces }) := by
  rw [storeAt, storeAt, below.sizes.1, below.sizes.2]
  split
  · rename_i bound
    refine .some (AlikeBelow.mk below.ground ?_ fun index earlier => ?_)
    · rw [List.length_set, List.length_set]
      exact below.sizes
    · show (left.canInterfaces.set count (some can))[index]? =
        (right.canInterfaces.set count (some can))[index]?
      by_cases own : count = index
      · subst own
        rw [List.getElem?_set_self (by rw [below.sizes.1]; exact bound),
          List.getElem?_set_self (by rw [below.sizes.2]; exact bound)]
      · rw [List.getElem?_set_ne own, List.getElem?_set_ne own, below.below index (by omega)]
  · exact .none

omit [Scalar K] in
theorem createInterfaces_couples {configs : JointConfigs K} {names : List String} :
    Path.Couples (AlikeBelow total count) (createInterfaces assignment bus configs (names.zipIdx count))
      (AlikeBelow total (count + names.length)) fun _ _ => True := by
  induction names generalizing count with
  | nil => exact Path.Couples.pure ()
  | cons name rest ih =>
      rw [List.zipIdx_cons]
      refine Path.Couples.bind (Path.Couples.element fun _ _ _ => rfl) fun row => ?_
      refine Path.Couples.bind (checked_couples _) fun loopback => ?_
      refine Path.Couples.bind (checked_couples _) fun timeoutSec => ?_
      refine Path.Couples.bind (checked_couples _) fun timeoutUsec => ?_
      refine Path.Couples.bind (checked_couples _) fun trials => ?_
      refine Path.Couples.bind (Path.Couples.read fun _ _ below =>
        congrArg Ground.enableTxTimestamping below.ground) fun enableTxTimestamping => ?_
      refine Path.Couples.bind (Path.Couples.read fun _ _ below =>
        congrArg Ground.enableCanErrorFrames below.ground) fun enableCanErrorFrames => ?_
      refine Path.Couples.bind (checked_couples _) fun can => ?_
      refine Path.Couples.bind (Path.Couples.updateDefined fun _ _ below => below.store can)
        fun _ => ?_
      rw [List.length_cons, show count + (rest.length + 1) = count + 1 + rest.length by omega]
      exact ih

theorem buildTables_couples {defaults : String → Nat} {names rest : List String}
    {configs : JointConfigs K} :
    Path.Couples (AlikeBelow total 0) (buildTables assignment defaults names rest configs)
      (AlikeBelow total 0) fun _ _ => True := by
  induction rest generalizing configs with
  | nil => exact Path.Couples.pure _
  | cons name rest ih =>
      refine Path.Couples.bind (checked_couples _) fun found => ?_
      cases found with
      | none => exact Path.Couples.pure _
      | some settings =>
          refine Path.Couples.bind (Path.Couples.element fun _ _ _ => rfl) fun _ => ?_
          refine Path.Couples.bind (Path.Couples.updateDefined fun left right below => ?_) fun _ => ih
          rw [show left.tables = right.tables from congrArg Ground.tables below.ground]
          cases appendJoint settings right.tables with
          | none => exact .none
          | some tables =>
              have ground : ({ left.ground with tables } : Ground K) = { right.ground with tables } := by
                rw [below.ground]
              exact .some ⟨ground, below.sizes, below.below⟩

section Defaults

variable {defaults defaults' : String → Nat} {jointNames : List String}

theorem readJoint_congr {names : List String} {name : String}
    (same : msgIdxParameter assignment defaults name = msgIdxParameter assignment defaults' name) :
    readJoint assignment defaults names name = readJoint assignment defaults' names name := by
  unfold readJoint
  rw [same]

theorem validateJoints_congr (same : ∀ name ∈ jointNames,
      msgIdxParameter assignment defaults name = msgIdxParameter assignment defaults' name)
    (seen : Seen) :
    validateJoints assignment defaults jointNames seen =
      validateJoints assignment defaults' jointNames seen := by
  induction jointNames generalizing seen with
  | nil => rfl
  | cons name rest ih =>
      have first : validateJoint assignment defaults name seen =
          validateJoint assignment defaults' name seen := by
        unfold validateJoint
        rw [same name List.mem_cons_self]
      rw [validateJoints, validateJoints, first]
      simp only [ih fun other member => same other (List.mem_cons_of_mem _ member)]

theorem buildTables_congr (same : ∀ name ∈ jointNames,
      msgIdxParameter assignment defaults name = msgIdxParameter assignment defaults' name)
    (names : List String) (configs : JointConfigs K) :
    buildTables assignment defaults names jointNames configs =
      buildTables assignment defaults' names jointNames configs := by
  induction jointNames generalizing configs with
  | nil => rfl
  | cons name rest ih =>
      rw [buildTables, buildTables, readJoint_congr (same name List.mem_cons_self)]
      simp only [ih fun other member => same other (List.mem_cons_of_mem _ member)]

end Defaults

/-- The defaults of both nodes come to the same message indices for the joints. -/
def SameMsgIdxs (assignment : Assignment K) (left right : Node K) : Prop :=
  ∀ jointNames, assignment.getStringArray "joints" = .ok jointNames → ∀ name ∈ jointNames,
    msgIdxParameter assignment (left.msgIdxDefaults jointNames) name =
      msgIdxParameter assignment (right.msgIdxDefaults jointNames) name

/-- Both nodes have tables without joints, and what they keep comes to the same. -/
structure AlikeFor (assignment : Assignment K) (left right : Node K) : Prop where
  vacant : Vacant left.tables ∧ Vacant right.tables
  supervised : ∀ watchdogFrequency,
    assignment.getInteger "watchdog_frequency" (some 100) = .ok watchdogFrequency →
      ({ left with watchdogFrequency } : Node K).supervised =
        ({ right with watchdogFrequency } : Node K).supervised
  msgIdxs : SameMsgIdxs assignment left right

/-- They have also read the same settings. -/
structure BothSet (assignment : Assignment K) (left right : Node K) : Prop where
  vacant : Vacant left.tables ∧ Vacant right.tables
  enableTxTimestamping : left.enableTxTimestamping = right.enableTxTimestamping
  enableCanErrorFrames : left.enableCanErrorFrames = right.enableCanErrorFrames
  frequency : left.frequency = right.frequency
  supervised : left.supervised = right.supervised
  msgIdxs : SameMsgIdxs assignment left right

omit [Scalar K] in
theorem readGlobals_couples : Path.Couples (AlikeFor assignment) (readGlobals assignment)
    (BothSet assignment) fun _ _ => True := by
  refine Path.Couples.bind (checked_couples _) fun _ => ?_
  refine Path.Couples.bind (checked_couples _) fun _ => ?_
  refine Path.Couples.bind (checked_couples _) fun enableTxTimestamping => ?_
  refine Path.Couples.bind (checked_couples _) fun enableCanErrorFrames => ?_
  refine Path.Couples.bind (Path.Couples.update fun left right alike => ?_ :
    Path.Couples _ _ (fun left right : Node K => AlikeFor assignment left right ∧
      left.enableTxTimestamping = right.enableTxTimestamping ∧
        left.enableCanErrorFrames = right.enableCanErrorFrames) _) fun _ => ?_
  · exact ⟨⟨alike.vacant, alike.supervised, alike.msgIdxs⟩, rfl, rfl⟩
  refine Path.Couples.bind (checked_couples _) fun _ => ?_
  refine Path.Couples.bind (checked_couples _) fun _ => ?_
  refine Path.Couples.bind (checked_couples _) fun frequency => ?_
  refine Path.Couples.bind_reached (checked_couples _) fun watchdogFrequency ⟨_, _, read⟩ => ?_
  have given := (checked_run_returned.mp read).1
  refine Path.Couples.bind (Path.Couples.update fun left right ⟨alike, txTimestamping, errorFrames⟩ =>
    ?_ : Path.Couples _ _ (BothSet assignment) _) fun _ => Path.Couples.pure _
  exact ⟨alike.vacant, txTimestamping, errorFrames, rfl, alike.supervised watchdogFrequency given,
    alike.msgIdxs⟩

theorem prepareTables_below (set : BothSet assignment left right) (seen : Seen) (numJoints : Nat)
    (now : Int) : AlikeBelow seen.canInterfacesNames.length 0 (prepareTables seen numJoints now left)
      (prepareTables seen numJoints now right) := by
  refine ⟨?_, ⟨resize_length .., resize_length ..⟩, fun _ impossible => absurd impossible (by omega)⟩
  have supervised : (prepareTables seen numJoints now left).supervised =
      (prepareTables seen numJoints now right).supervised := set.supervised
  simp only [ground, supervised]
  simp only [prepareTables, set.vacant.1.resize, set.vacant.2.resize, set.enableTxTimestamping,
    set.enableCanErrorFrames, set.frequency]

theorem configureNode_couples : Path.Couples (AlikeFor assignment)
    (configureNode assignment bus now) (fun _ _ => True) fun _ _ => True := by
  refine Path.Couples.bind_reached readGlobals_couples fun jointNames ⟨_, _, read⟩ => ?_
  have given := (readGlobals_reads read).1
  refine Path.Couples.read_indistinct (fun left right set => ?_) fun defaults => ?_
  · have same := set.msgIdxs jointNames given
    simp only [validateJoints_congr same, buildTables_congr same]
  refine Path.Couples.bind (Path.Couples.update fun left right set => ?_ :
    Path.Couples _ _ (fun left right : Node K => ∃ before before', BothSet assignment before before' ∧
      left = declareMsgIdxs assignment jointNames before ∧
        right = declareMsgIdxs assignment jointNames before') _) fun _ => ?_
  · exact ⟨left, right, set, rfl, rfl⟩
  refine Path.Couples.bind (checked_couples _) fun found => ?_
  cases found with
  | none =>
      exact (Path.Couples.pure _).consequence (fun _ _ => id) (fun _ _ _ => trivial) fun _ _ => id
  | some seen =>
      refine Path.Couples.bind (Path.Couples.update fun left right declared => ?_ : Path.Couples _ _
        (AlikeBelow seen.canInterfacesNames.length 0) _) fun _ => ?_
      · obtain ⟨before, before', set, rfl, rfl⟩ := declared
        have below := prepareTables_below set seen jointNames.length now
        exact ⟨below.ground, below.sizes, below.below⟩
      refine Path.Couples.bind buildTables_couples fun built => ?_
      cases built with
      | none =>
          exact (Path.Couples.pure _).consequence (fun _ _ => id) (fun _ _ _ => trivial) fun _ _ => id
      | some configs =>
          have created : Path.Couples (AlikeBelow seen.canInterfacesNames.length 0)
              (createInterfaces assignment bus configs seen.canInterfacesNames.zipIdx) Alike
              fun _ _ => True :=
            createInterfaces_couples.consequence (fun _ _ => id)
              (fun _ _ below => AlikeBelow.alike (by rwa [Nat.zero_add] at below)) fun _ _ => id
          refine Path.Couples.bind created fun _ => ?_
          exact (Path.Couples.bind startPublishing_agreeing fun _ => startMotors_agreeing).consequence
            (fun _ _ => id) (fun _ _ _ => trivial) fun _ _ _ => trivial

/-- A configuration ends as it would on another node that is alike for it. -/
theorem onConfigure_outcome (alike : AlikeFor assignment left right) :
    ((onConfigure assignment bus now).run left).1 = ((onConfigure assignment bus now).run right).1 := by
  have couples : Path.Couples (AlikeFor assignment) (onConfigure assignment bus now) (fun _ _ => True)
      fun _ _ => True := by
    refine Path.Couples.bind (checked_couples _) fun _ => ?_
    refine Path.Couples.tryCatch configureNode_couples fun exception => ?_
    cases exception with
    | parameterUninitialized name => exact Path.Couples.pure _
    | canInterfaceError =>
        exact Path.Couples.bind (Path.Couples.update fun _ _ => id) fun _ => Path.Couples.pure _
    | outOfRange => exact Path.Couples.throw _
    | rangeError => exact Path.Couples.throw _
    | canDeviceError canId => exact Path.Couples.throw _
    | motorError canId errorCode => exact Path.Couples.throw _
    | parameterType name => exact Path.Couples.throw _
    | invalidArgument => exact Path.Couples.throw _
  exact couples.same_outcome alike

/-- The joints are valid, but one after the first is rejected for its filters, after the joints
before it have been appended. -/
def RejectedLate (node : Node K) (assignment : Assignment K) : Prop :=
  ∃ jointNames seen earlier name, assignment.getStringArray "joints" = .ok jointNames ∧
    validateJoints assignment (node.msgIdxDefaults jointNames) jointNames {} = .ok (some seen) ∧
    earlier ++ [name] <+: jointNames ∧ earlier ≠ [] ∧
    (∀ other ∈ earlier, ∃ settings, readJoint assignment (node.msgIdxDefaults jointNames)
      seen.canInterfacesNames other = .ok (some settings)) ∧
    readJoint assignment (node.msgIdxDefaults jointNames) seen.canInterfacesNames name = .ok none

variable {node after : Node K} {defaults : String → Nat} {names rest : List String}
variable {configs : JointConfigs K}

theorem buildTables_rejected
    (run : (buildTables assignment defaults names rest configs).run node = (.returned none, after)) :
    ∃ earlier name, earlier ++ [name] <+: rest ∧ (earlier = [] → after = node) ∧
      (∀ other ∈ earlier, ∃ settings, readJoint assignment defaults names other =
        .ok (some settings)) ∧
      readJoint assignment defaults names name = .ok none := by
  induction rest generalizing configs node with
  | nil => cases run
  | cons name rest ih =>
      simp only [buildTables, Path.bind_run_returned, checked_run_returned] at run
      obtain ⟨found, _, ⟨read, rfl⟩, run⟩ := run
      cases found with
      | none =>
          cases run
          exact ⟨[], name, by simp, fun _ => rfl, by simp, read⟩
      | some settings =>
          simp only [Path.bind_run_returned] at run
          obtain ⟨_, _, _, _, _, _, run⟩ := run
          obtain ⟨earlier, rejected, isPrefix, _, reads, rejects⟩ := ih run
          refine ⟨name :: earlier, rejected, by simpa using isPrefix,
            fun empty => absurd empty (List.cons_ne_nil _ _), fun other member => ?_, rejects⟩
          rcases List.mem_cons.mp member with rfl | later
          · exact ⟨settings, read⟩
          · exact reads other later

omit [Scalar K] in
theorem startMotors_not_failure :
    (startMotors configs).run node ≠ (.returned .failure, after) := by
  intro run
  simp only [startMotors, Path.bind_run_returned] at run
  obtain ⟨failed, _, _, run⟩ := run
  cases failed with
  | true =>
      simp only [if_true, Path.bind_run_returned] at run
      obtain ⟨_, _, _, _, _, _, run⟩ := run
      cases run
  | false =>
      simp only [Bool.false_eq_true, if_false, Path.update_bind, Path.bind_run_returned] at run
      obtain ⟨_, _, _, _, _, _, run⟩ := run
      cases run

theorem configureNode_failure (vacant : Vacant node.tables) (early : ¬ RejectedLate node assignment)
    (run : (configureNode assignment bus now).run node = (.returned .failure, after)) :
    Vacant after.tables := by
  rw [configureNode, Path.bind_run_returned] at run
  obtain ⟨jointNames, read, globals, run⟩ := run
  obtain ⟨namesRead, tables, declared, _⟩ := readGlobals_reads globals
  simp only [Path.read_bind, Path.update_bind, Path.bind_run_returned, checked_run_returned,
    msgIdxDefaults_of_same declared] at run
  obtain ⟨found, _, ⟨valid, rfl⟩, run⟩ := run
  have tablesDeclared : (declareMsgIdxs assignment jointNames read).tables = node.tables := tables
  cases found with
  | none =>
      cases run
      rwa [tablesDeclared]
  | some seen =>
      simp only [Path.update_bind, Path.bind_run_returned] at run
      obtain ⟨built, _, building, run⟩ := run
      cases built with
      | none =>
          cases run
          obtain ⟨earlier, name, isPrefix, unchanged, reads, rejects⟩ := buildTables_rejected building
          have first : earlier = [] := by
            by_contra appended
            exact early ⟨jointNames, seen, earlier, name, namesRead, valid, isPrefix, appended, reads,
              rejects⟩
          rw [unchanged first, prepareTables, tablesDeclared]
          exact ⟨seen.canInterfacesNames.length, vacant.resize _⟩
      | some configs =>
          simp only [Path.bind_run_returned] at run
          obtain ⟨_, _, _, _, _, _, run⟩ := run
          exact absurd run startMotors_not_failure

theorem onConfigure_failure (vacant : Vacant node.tables) (early : ¬ RejectedLate node assignment)
    (run : (onConfigure assignment bus now).run node = (.returned .failure, after)) :
    Vacant after.tables := by
  simp only [onConfigure, Path.bind_run_returned, checked_run_returned,
    Path.tryCatch_run_returned] at run
  obtain ⟨_, _, ⟨_, rfl⟩, failed | ⟨exception, _, _, handled⟩⟩ := run
  · exact configureNode_failure vacant early failed
  · cases exception <;> simp [clearInterfaces] at handled

end Configuration

section Runs

variable [Scalar K] [StdToString K] [Libm K] {node after : Node K} {operation : Operation K}

/-- An unconfigured node has no joints in its tables. -/
def Orderly (node : Node K) : Prop := node.lifecycle = .unconfigured → Vacant node.tables

/-- The operation is no configuration that is rejected after it has appended a joint. -/
def RejectsEarly (node : Node K) (operation : Operation K) : Prop :=
  ∀ assignment bus now, operation = .configure assignment bus now →
    node.lifecycle = .unconfigured → ¬ RejectedLate node assignment

omit [Scalar K] [StdToString K] [Libm K] in
theorem Orderly.retained (orderly : Orderly node) (retains : Retains node after) : Orderly after := by
  intro unconfigured
  rcases retains.tables with wiped | ⟨same, stayed⟩
  · rw [wiped.1]
    exact vacant_empty
  · rw [same]
    exact orderly (stayed unconfigured)

omit [Scalar K] [StdToString K] [Libm K] in
theorem vacant_jointEntry {index joint : Nat} (vacant : Vacant tables) :
    jointEntry tables.jointParametersPerCanInterface index joint = none := by
  obtain ⟨count, rfl⟩ := vacant
  show jointEntry (Foundation.resize [] count []) index joint = none
  rw [resize_constant (by simp), jointEntry, List.getElem?_replicate]
  split <;> rfl

omit [Libm K] in
theorem onSetParametersCallback_orderly (order : IterationOrder (String × PerJointUpdate K))
    (batch : List (Parameter K)) : Path.Maintains Orderly (onSetParametersCallback order batch) := by
  refine onSetParametersCallback_evolves (fun _ _ => id) (fun node index joint update tables applied
    orderly unconfigured => ?_) order batch
  simp only [applyToTables, changeEntry, vacant_jointEntry (orderly unconfigured), Option.map_none,
    Option.bind_eq_bind, Option.bind_none] at applied
  cases applied

omit [StdToString K] [Libm K] in
theorem configure_orderly {assignment : Assignment K} {bus : Bus} {now : Int}
    (orderly : Orderly node) (early : node.lifecycle = .unconfigured → ¬ RejectedLate node assignment)
    (run : (configure assignment bus now).run node = (.returned (), after)) : Orderly after := by
  obtain ⟨_, rfl⟩ | ⟨started, result, middle, callback, settled⟩ := transition_returned run
  · exact orderly
  have ending := settle_returned settled
  cases result with
  | success =>
      rw [ending]
      exact fun unconfigured => absurd unconfigured (by simp)
  | failure =>
      rw [ending]
      intro _
      obtain returned | ⟨_, _, _, handled⟩ := Path.tryCatch_run_returned.mp callback
      · have vacant : Vacant middle.tables :=
          onConfigure_failure (by exact orderly started) (by exact early started) returned
        exact vacant
      · cases handled
  | error =>
      obtain ⟨handled, errored, handling, rfl⟩ := ending
      intro unconfigured
      cases handled with
      | success =>
          rw [(onError_wipes handling).1.1]
          exact vacant_empty
      | failure => cases unconfigured
      | error => cases unconfigured

/-- An unconfigured node has no cycles, and a cycle leaves no node unconfigured. -/
theorem canCycle_unconfigured {index : Nat} {times : CycleTimes}
    (run : (Operation.canCycle index times : Operation K).path.run node = (.returned (), after))
    (unconfigured : after.lifecycle = .unconfigured) : after = node := by
  have before : node.lifecycle = .unconfigured := by
    have changes := Operation.changes run
    simp only [Operation.Changes, Gate.deactivated, gate] at changes
    grind
  obtain ⟨_, _, callback, ends⟩ := Path.bind_run_returned.mp run
  cases ends
  have refused : decide (node.lifecycle = .active ∨ node.lifecycle = .inactive) = false := by
    simp [before]
  rw [canCycleCallback, Path.bind_returned (isConfigured_undisturbed times node), refused] at callback
  cases callback
  rfl

theorem canCycle_orderly {index : Nat} {times : CycleTimes} (orderly : Orderly node)
    (run : (Operation.canCycle index times : Operation K).path.run node = (.returned (), after)) :
    Orderly after := by
  intro unconfigured
  obtain rfl := canCycle_unconfigured run unconfigured
  exact orderly unconfigured

theorem operate_orderly (orderly : Orderly node) (early : RejectsEarly node operation)
    (moved : operate node operation = some after) : Orderly after := by
  obtain ⟨_, run⟩ := operate_some.mp moved
  by_cases configuring : ∃ assignment bus now, operation = .configure assignment bus now
  · obtain ⟨assignment, bus, now, rfl⟩ := configuring
    exact configure_orderly orderly (early assignment bus now rfl) run
  by_cases cycling : ∃ index times, operation = .canCycle index times
  · obtain ⟨index, times, rfl⟩ := cycling
    exact canCycle_orderly orderly run
  · have kept : Path.Maintains Orderly operation.path :=
      Operation.keeps (fun _ _ retains orderly => orderly.retained retains)
        (fun index times same => absurd ⟨index, times, same⟩ cycling)
        (fun order batch _ => onSetParametersCallback_orderly order batch)
        fun assignment bus now same => configuring ⟨assignment, bus, now, same⟩
    exact kept.of_run run orderly

end Runs

section Complete

variable {α : Type} {settings : List (JointSettings K)} {entry : JointSettings K → α}

/-- The sizes of the rows of each table with an entry for every joint. -/
def tableSizes (tables : JointTables K) : List (List Nat) :=
  [tables.jointCommandsPerCanInterface.map List.length,
    tables.jointStatesPerCanInterface.map List.length,
    tables.jointParametersPerCanInterface.map List.length,
    tables.jointVelFiltersPerCanInterface.map List.length,
    tables.jointAbFiltersPerCanInterface.map List.length,
    tables.jointPosMedianFiltersPerCanInterface.map List.length,
    tables.lastJointRxNsPerCanInterface.map List.length]

/-- Every configured joint has one entry in the tables, its name leads there, and the
rows of the tables are as long as the joint lists of the interfaces. -/
structure Complete (assignment : Assignment K) (node : Node K) : Prop where
  joints : ∃ jointNames, assignment.getStringArray "joints" = .ok jointNames ∧ jointNames.Nodup ∧
    (node.tables.jointParametersPerCanInterface.flatten.map (·.name)).Perm jointNames ∧
    node.tables.jointNameToCanIfaceAndIdx.map Prod.fst = jointNames
  sizes : ∃ sizes, (∀ rows ∈ tableSizes node.tables, rows = sizes) ∧
    node.jointLists.map (Option.map List.length) = sizes.map some
  entries : ∀ entry ∈ node.tables.jointNameToCanIfaceAndIdx, ∃ params,
    jointEntry node.tables.jointParametersPerCanInterface entry.2.1 entry.2.2 = some params ∧
      params.name = entry.1

theorem flatten_set_append {rows : List (List α)} {row : List α} {value : α}
    (found : rows[index]? = some row) :
    (rows.set index (row ++ [value])).flatten.Perm (rows.flatten ++ [value]) := by
  induction rows generalizing index with
  | nil => simp at found
  | cons first rest ih =>
      cases index with
      | zero =>
          obtain rfl : first = row := by simpa using found
          rw [List.set_cons_zero, List.flatten_cons, List.flatten_cons, List.append_assoc,
            List.append_assoc]
          exact List.perm_append_comm.append_left first
      | succ index =>
          rw [List.set_cons_succ, List.flatten_cons, List.flatten_cons, List.append_assoc]
          exact (ih (by simpa using found)).append_left first

/-- The rows hold the entries of the joints, one each. -/
theorem rowsOf_flatten (bounds : ∀ joint ∈ settings, joint.canInterfaceId < count) :
    (rowsOf settings count entry).flatten.Perm (settings.map entry) := by
  induction settings using List.reverseRecOn with
  | nil => simp [rowsOf_nil]
  | append_singleton earlier last ih =>
      obtain ⟨row, found, pushed⟩ := pushAt_eq_some.mp
        ((pushAt_rowsOf entry).mpr ⟨bounds last (by simp), rfl⟩)
      rw [pushed, List.map_append, List.map_singleton]
      exact (flatten_set_append found).trans
        ((ih fun joint member => bounds joint (by simp [member])).append_right _)

theorem rowsOf_sizes (settings : List (JointSettings K)) (count : Nat) (entry : JointSettings K → α) :
    (rowsOf settings count entry).map List.length = (List.range count).map fun index =>
      (settings.filter fun joint => joint.canInterfaceId = index).length := by
  apply List.ext_getElem?
  intro index
  rw [List.getElem?_map, List.getElem?_map]
  by_cases bound : index < count
  · rw [rowsOf_getElem? entry bound, List.getElem?_range bound, Option.map_some, Option.map_some,
      List.length_map]
  · rw [List.getElem?_eq_none (by simpa using bound), List.getElem?_eq_none (by simpa using bound)]
    rfl

variable [Scalar K] {assignment : Assignment K} {accepted : Accepted K} {node : Node K}

theorem ConfiguredBy.names_eq (configured : ConfiguredBy assignment left accepted node) :
    accepted.settings.map (·.params.name) = accepted.jointNames := by
  have related : List.Forall₂ Eq (accepted.settings.map (·.params.name)) accepted.jointNames :=
    List.forall₂_map_left_iff.mpr
      (configured.read.flip.imp fun settings name read => (readJoint_readFrom read).name)
  rwa [List.forall₂_eq_eq_eq] at related

/-- A name that is given twice has the same identifier twice. -/
theorem ConfiguredBy.names_nodup (configured : ConfiguredBy assignment left accepted node) :
    accepted.jointNames.Nodup := by
  have validated := configured.validated_joints
  have distinct : (accepted.jointNames.reverse.map id).Nodup := by
    refine forall₂_nodup validated.canIds ?_ validated.canIdsDistinct
    rintro name _ ⟨canInterface, _⟩ ⟨canInterface', _⟩ ⟨interfaceRead, canId, idRead, rfl⟩
      ⟨interfaceRead', canId', idRead', rfl⟩ rfl
    cases interfaceRead.symm.trans interfaceRead'
    cases idRead.symm.trans idRead'
    rfl
  rwa [List.map_id, List.nodup_reverse] at distinct

theorem ConfiguredBy.complete (configured : ConfiguredBy assignment left accepted node)
    (vacant : Vacant left.tables) : Complete assignment node := by
  have appended := appendJoints_appended appended_nil configured.tables
  rw [List.nil_append, vacant.resize] at appended
  have unnamed : (JointTables.resize left.tables accepted.count).jointNameToCanIfaceAndIdx = [] := by
    rw [vacant.resize]
    rfl
  have located : Located accepted.settings node.tables.jointNameToCanIfaceAndIdx := by
    have start : Located ([] : List (JointSettings K))
        (JointTables.resize left.tables accepted.count).jointNameToCanIfaceAndIdx := by
      rw [unnamed]
      exact ⟨rfl, fun _ impossible => absurd impossible List.not_mem_nil⟩
    refine appendJoints_located appended_nil configured.left_empty start ?_ configured.tables
    rw [List.nil_append, configured.names_eq]
    exact configured.names_nodup
  constructor
  case joints =>
    refine ⟨accepted.jointNames, configured.joints, configured.names_nodup, ?_,
      located.names.trans configured.names_eq⟩
    rw [configured.params_eq, ← configured.names_eq]
    have entries : ((rowsOf accepted.settings accepted.count (·.params)).flatten.map (·.name)).Perm
        ((accepted.settings.map (·.params)).map (·.name)) :=
      (rowsOf_flatten configured.bounds).map _
    rwa [List.map_map] at entries
  case sizes =>
    refine ⟨(List.range accepted.count).map fun index =>
      (accepted.settings.filter fun joint => joint.canInterfaceId = index).length, ?_, ?_⟩
    · have size {β : Type} {rows : List (List β)} {entry : JointSettings K → β}
          (same : rows = rowsOn (Foundation.resize [] accepted.count []) accepted.settings entry) :
          rows.map List.length = (List.range accepted.count).map fun index =>
            (accepted.settings.filter fun joint => joint.canInterfaceId = index).length := by
        rw [same, resize_constant (by simp), ← rowsOf_sizes _ _ entry, rowsOf]
      intro rows member
      simp only [tableSizes, List.mem_cons, List.not_mem_nil, or_false] at member
      rcases member with rfl | rfl | rfl | rfl | rfl | rfl | rfl
      · exact size appended.cmds
      · exact size appended.states
      · exact size appended.params
      · exact size appended.averages
      · exact size appended.alphaBetas
      · exact size appended.medians
      · exact size appended.lastRxNs
    · rw [configured.lists, List.map_map, ← rowsOf_sizes _ _ (·.config), List.map_map]
      rfl
  case entries =>
    intro entry member
    obtain ⟨joint, found, name⟩ := located.entries entry member
    refine ⟨joint.params, ?_, name⟩
    rw [configured.params_eq, jointEntry_rowsOf]
    have member := List.mem_filter.mp (List.mem_of_getElem? found)
    have interface : joint.canInterfaceId = entry.2.1 := by simpa using member.2
    exact ⟨interface ▸ configured.bounds joint member.1, joint, found, rfl⟩

end Complete

section Runs

variable [Scalar K] [StdToString K] [Libm K] {node : Node K}

/-- What the node keeps makes no difference to a configuration: a supervisor timer that exists
could be created as well, and a default that has been declared is the position of the joint. -/
structure Unaffected (node : Node K) (assignment : Assignment K) : Prop where
  supervisorTimer : node.supervisorTimer = true → ∀ watchdogFrequency,
    assignment.getInteger "watchdog_frequency" (some 100) = .ok watchdogFrequency →
      0 < watchdogFrequency
  declaredMsgIdxs : ∀ jointNames, assignment.getStringArray "joints" = .ok jointNames →
    ∀ name ∈ jointNames, assignment (jointParameterName name "msg_idx") = none → ∀ default,
      node.declaredMsgIdxs.lookup name = some default → default = jointNames.idxOf name

omit [Scalar K] [StdToString K] [Libm K] in
theorem Unaffected.alikeFor {fresh : Node K} {assignment : Assignment K}
    (unaffected : Unaffected node assignment) (vacant : Vacant node.tables)
    (constructed : Constructed fresh) : AlikeFor assignment node fresh := by
  constructor
  case vacant =>
    refine ⟨vacant, ?_⟩
    rw [constructed.tables]
    exact vacant_empty
  case supervised =>
    intro watchdogFrequency given
    rw [supervised, supervised, constructed.supervisorTimer]
    cases timer : node.supervisorTimer with
    | true => simp [unaffected.supervisorTimer timer watchdogFrequency given]
    | false => rfl
  case msgIdxs =>
    intro jointNames given name member
    unfold msgIdxParameter Assignment.getInteger Assignment.get
    cases unset : assignment (jointParameterName name "msg_idx") with
    | some value => rfl
    | none =>
        have same : node.msgIdxDefaults jointNames name = fresh.msgIdxDefaults jointNames name := by
          rw [msgIdxDefaults, msgIdxDefaults, constructed.declaredMsgIdxs, List.lookup_nil,
            Option.getD_none]
          cases declared : node.declaredMsgIdxs.lookup name with
          | none => rfl
          | some default =>
              exact unaffected.declaredMsgIdxs jointNames given name member unset default declared
        rw [same]

/-- In a run in which no configuration is rejected after it has appended a joint, an
unconfigured node configures as a node that has just been constructed, if what it keeps makes
no difference, and whenever it configures it does so completely. -/
theorem unconfigured_configures_afresh {start fresh : Node K} {operations : List (Operation K)}
    (constructed : Constructed start) (early : EveryStep operate RejectsEarly start operations)
    (run : runSteps operate start operations = some node) (unconfigured : node.lifecycle = .unconfigured)
    (constructedFresh : Constructed fresh) (assignment : Assignment K) (bus : Bus) (now : Int) :
    (Unaffected node assignment → ((onConfigure assignment bus now).run node).1 =
      ((onConfigure assignment bus now).run fresh).1) ∧
      ∀ after, (onConfigure assignment bus now).run node = (.returned .success, after) →
        Complete assignment after := by
  have orderly : Orderly node := invariant_of_run
    (fun _ _ _ orderly early => operate_orderly orderly early)
    (fun _ => by rw [constructed.tables]; exact vacant_empty) early run
  refine ⟨fun unaffected =>
    onConfigure_outcome (unaffected.alikeFor (orderly unconfigured) constructedFresh),
    fun after success => ?_⟩
  obtain ⟨accepted, configured⟩ := onConfigure_configuredBy success
  exact configured.complete (orderly unconfigured)

end Runs

section Example

attribute [local instance] libmAtRest

/-- The second joint has a filter that does not exist. -/
def rejectedAssignment : Assignment ℚ := exampleAssignment ["hip", "knee"]
  (exampleDefinition "hip" 1 "AK80-6" [] ++
    exampleDefinition "knee" 2 "AK80-8v3" [("vel_filter_type", .string "kalman")])

/-- The repaired assignment succeeds on a fresh node.  After the rejected one the first joint
is there twice, and the motors are counted past the end of `joint_configs_per_can_interface`. -/
theorem repaired_configuration_fails : ∃ node : Node ℚ,
    runSteps operate freshNode [.configure rejectedAssignment legBus 0] = some node ∧
      node.lifecycle = .unconfigured ∧
      ((onConfigure (legAssignment []) legBus 0).run node).1 = .undefined ∧
      ((onConfigure (legAssignment []) legBus 0).run freshNode).1 = .returned .success := by
  obtain ⟨node, run, observed⟩ := Option.map_eq_some_iff.mp
    (show (runSteps operate freshNode [.configure rejectedAssignment legBus 0]).map (fun node =>
      (node.lifecycle, ((onConfigure (legAssignment []) legBus 0).run node).1)) =
        some (.unconfigured, .undefined) by decide +kernel)
  simp only [Prod.mk.injEq] at observed
  exact ⟨node, run, observed.1, observed.2, by decide +kernel⟩

/-- Configured and cleaned up. -/
def cleanedRun : List (Operation ℚ) := [.configure (legAssignment []) legBus 0, .cleanup]

def ankleAssignment : Assignment ℚ := exampleAssignment ["knee", "ankle"]
  (exampleDefinition "knee" 1 "AK80-6" [] ++ exampleDefinition "ankle" 2 "AK80-8v3" [])

/-- The supervisor timer is kept, so nobody refuses its period, and both joints get the message
index 1: the knee has it from the first configuration. -/
example : (runSteps operate freshNode cleanedRun).map (fun node =>
      (((onConfigure unwatchedAssignment legBus 0).run node).1,
        ((onConfigure ankleAssignment legBus 0).run node).1)) =
        some (.returned .success, .returned .failure) ∧
    ((onConfigure unwatchedAssignment legBus 0).run freshNode).1 = .thrown .invalidArgument ∧
    ((onConfigure ankleAssignment legBus 0).run freshNode).1 = .returned .success := by
  decide +kernel

theorem legAssignment_early : ¬ RejectedLate freshNode (legAssignment []) := by
  rintro ⟨jointNames, seen, earlier, name, joints, validated, isPrefix, appended, -, rejects⟩
  obtain rfl : ["hip", "knee"] = jointNames := Except.ok.inj
    ((show (legAssignment []).getStringArray "joints" = .ok ["hip", "knee"] from rfl).symm.trans joints)
  have interfaces : (validateJoints (legAssignment []) (freshNode.msgIdxDefaults ["hip", "knee"])
      ["hip", "knee"] {}).toOption.join.map Seen.canInterfacesNames = some ["can0"] := by decide +kernel
  have read : ((readJoint (legAssignment []) (freshNode.msgIdxDefaults ["hip", "knee"]) ["can0"]
      "knee").toOption.join.isSome = true) := by decide +kernel
  rw [validated] at interfaces
  obtain ⟨first, rest, rfl⟩ := List.exists_cons_of_ne_nil appended
  have second : first = "hip" ∧ name = "knee" := by
    cases rest with
    | nil => simpa using isPrefix
    | cons => simp at isPrefix
  rw [second.2, show seen.canInterfacesNames = ["can0"] from Option.some.inj interfaces] at rejects
  rw [rejects] at read
  cases read

theorem unconfigured_configures_afresh_leg : ∃ node after : Node ℚ,
    runSteps operate freshNode cleanedRun = some node ∧ node.supervisorTimer = true ∧
      node.declaredMsgIdxs = [("hip", 0), ("knee", 1)] ∧
      (onConfigure (legAssignment []) legBus 0).run node = (.returned .success, after) ∧
      Complete (legAssignment []) after := by
  obtain ⟨node, run, observed⟩ := Option.map_eq_some_iff.mp
    (show (runSteps operate freshNode cleanedRun).map (fun node =>
      (node.lifecycle, node.supervisorTimer, node.declaredMsgIdxs)) =
        some (.unconfigured, true, [("hip", 0), ("knee", 1)]) by decide +kernel)
  simp only [Prod.mk.injEq] at observed
  obtain ⟨unconfigured, supervisorTimer, declared⟩ := observed
  have early : EveryStep operate RejectsEarly freshNode cleanedRun := by
    refine ⟨fun assignment _ _ same _ => ?_, fun _ _ => ⟨fun _ _ _ same => ?_, fun _ _ => trivial⟩⟩
    · cases same
      exact legAssignment_early
    · cases same
  have unaffected : Unaffected node (legAssignment []) := by
    constructor
    case supervisorTimer =>
      intro _ watchdogFrequency given
      cases given
      decide
    case declaredMsgIdxs =>
      intro jointNames given name member _ default found
      cases given
      rw [declared] at found
      rcases List.mem_pair.mp member with rfl | rfl <;> cases found <;> rfl
  obtain ⟨same, complete⟩ := unconfigured_configures_afresh freshNode_constructed early run unconfigured
    freshNode_constructed (legAssignment []) legBus 0
  have success : ((onConfigure (legAssignment []) legBus 0).run node).1 = .returned .success :=
    (same unaffected).trans (by decide +kernel)
  exact ⟨node, _, run, supervisorTimer, declared, Prod.ext success rfl,
    complete _ (Prod.ext success rfl)⟩

end Example

end CubemarsDriver.Node

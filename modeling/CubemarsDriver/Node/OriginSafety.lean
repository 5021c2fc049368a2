import CubemarsDriver.Foundation.Relations
import CubemarsDriver.Node.Held

namespace CubemarsDriver

open Foundation

namespace Can

/-! # What the origin services do to the motors -/

variable {K : Type}

/-- Disable a motor and enable it with a new origin. -/
def motorOrigin (joint : Nat) : CanPath K Unit := do
  endMotorControlMode joint
  startMotorControlMode joint true

/-- The same for every motor of an interface. -/
def originSequence : CanPath K Unit :=
  Path.loopBelow (fun can => can.jointConfigs.length) motorOrigin

/-- Every motor of the interface completes its handshakes. -/
def OriginsComplete (can : CubemarsCan K) : Prop := (originSequence.run can).1 = .returned ()

instance (can : CubemarsCan K) : Decidable (OriginsComplete can) :=
  inferInstanceAs (Decidable (_ = _))

end Can

namespace Node

open Can

variable {K : Type} {held : Locks} {raised : Exception → Node K → Prop}
variable {index joint count : Nat} {others : List (Option (CubemarsCan K))}

/-- What a service knows of the interface it works on. -/
def Resting (index count : Nat) (setup : Setup K) (lifecycle : Lifecycle) : Prop :=
  (setup.Valid ∧ lifecycle = .inactive) ∧ setup.HasJoints index count

theorem resting_knows : Knows (K := K) (Resting index count) index count where
  rowed _ _ known := known.1.1.rows
  joints _ _ known := known.2
  exchange _ _ _ _ known found same :=
    ⟨⟨known.1.1.exchange found same, known.1.2⟩, known.2.exchange found same⟩

/-- The path works on this state of the interface and leaves the others alone. -/
structure Drives (held : Locks) (index count : Nat) (others : List (Option (CubemarsCan K)))
    (node : Node K) (can : CubemarsCan K) : Prop where
  known : Held (Resting index count) held node
  interface : node.canInterfaces[index]?.join = some can
  size : node.canInterfaces.length = others.length
  others : ∀ other, other ≠ index → node.canInterfaces[other]? = others[other]?

theorem Drives.joints {node : Node K} {can : CubemarsCan K}
    (drives : Drives held index count others node can) : can.jointConfigs.length = count := by
  have joints : node.canInterfaces[index]?.join.map (fun can => can.jointConfigs.length) =
    some count := drives.known.1.2
  rw [drives.interface, Option.map_some, Option.some.injEq] at joints
  exact joints

theorem handshake_simulates (step : HandshakeStep) :
    Path.Simulates (Drives (K := K) held index count others) (handshake index step) step.path := by
  intro node can drives
  have run := handshake_run step drives.interface
  have keeps := handshake_keeps resting_knows step node drives.known
  have configs := handshakeStep_keeps step can.jointConfigs can rfl
  rw [run] at keeps ⊢
  refine ⟨rfl, ?_, ?_, List.length_set.trans drives.size, ?_⟩
  · cases outcome : (step.path.run can).1 with
    | returned value => simpa only [outcome] using keeps
    | thrown exception => simpa only [outcome] using keeps
    | undefined => simp only [outcome] at keeps
  · simp only [set_getElem?_self _ (Option.join_eq_some_iff.mp drives.interface), Option.join_some]
  · intro other different
    simpa only [List.getElem?_set_ne (Ne.symm different)] using drives.others other different

theorem nameJoint_simulates (bound : joint < count) :
    Path.Simulates (Drives (K := K) held index count others) (nameJoint index joint)
      (pure () : CanPath K Unit) := by
  refine Path.Simulates.silent fun node can drives => ?_
  obtain ⟨_, after, run, known⟩ := (nameJoint_stays resting_knows bound :
    Stays _ _ (fun _ _ => False) _).returns drives.known
  have same : Path.Preserves Node.canInterfaces (nameJoint (K := K) index joint) :=
    nameJoint_preserves fun _ _ => rfl
  have interfaces := same.of_run run
  refine ⟨after, run, known, ?_, interfaces ▸ drives.size, fun other different => ?_⟩
  · rw [interfaces]
    exact drives.interface
  · rw [interfaces]
    exact drives.others other different

theorem setMotorOrigin_simulates (bound : joint < count) :
    Path.Simulates (Drives (K := K) held index count others) (setMotorOrigin index joint)
      (motorOrigin joint) := by
  refine Path.Simulates.skip (nameJoint_simulates bound) ?_
  refine Path.Simulates.bind (handshake_simulates (.exit joint)) fun _ => ?_
  refine Path.Simulates.skip (nameJoint_simulates bound) ?_
  exact Path.Simulates.followed (handshake_simulates (.start joint true)) (nameJoint_simulates bound)

/-- The handshakes of one interface end as its motors make them end. -/
theorem setMotorOrigins_simulates :
    Path.Simulates (Drives (K := K) held index count others) (setMotorOrigins index)
      originSequence := by
  refine Path.Simulates.preceded fun node can drives => ?_
  have counted : Path.Ensures (Held (Resting (K := K) index count) held) (jointCount index)
      (fun joints after => Held (Resting index count) held after ∧ joints = count)
      (fun _ _ => False) := jointCount_stays resting_knows
  obtain ⟨joints, after, run, known, rfl⟩ := counted.returns drives.known
  have same : Path.Preserves Node.canInterfaces (jointCount (K := K) index) :=
    Path.Evolves.bind (Path.Evolves.element _) fun _ => Path.Evolves.pure _
  have interfaces := same.of_run run
  refine ⟨joints, after, run, ⟨known, ?_, interfaces ▸ drives.size, ?_⟩, ?_⟩
  · rw [interfaces]
    exact drives.interface
  · rw [interfaces]
    exact drives.others
  · exact Path.Simulates.loopBelow joints (fun _ _ drives => ⟨rfl, drives.joints⟩)
      fun joint bound => setMotorOrigin_simulates bound

/-- With the interfaces cleared nothing is left to fit. -/
theorem clearInterfaces_keeps {start : Lifecycle} :
    Stays (K := K) (Cleanable start) held raised clearInterfaces := by
  intro node known
  exact ⟨⟨fun index bound => absurd bound (Nat.not_lt_zero index), known.1.2⟩, known.2⟩

theorem disableAll_keeps {start : Lifecycle} :
    Path.Keeps (Held (Cleanable (K := K) start) held) disableAll := by
  refine Path.Ensures.bind (Path.Ensures.loopWithin fun other node both => ?_)
    fun _ => clearInterfaces_keeps
  obtain ⟨count, known⟩ := both.1.cleanableInterface both.2
  exact (handshake_keeps (cleanableInterface_knows start) .exitAll).consequence (fun _ same => same)
    (fun _ _ after => ⟨after.1.1, after.2⟩) (fun _ _ after => ⟨after.1.1, after.2⟩) node known

theorem restartMotors_keeps {target : Nat} :
    Path.Keeps (Held (Resting (K := K) index count) held) (restartMotors index target) := by
  refine Path.Ensures.bind (jointCount_stays resting_knows) fun joints node both => ?_
  obtain ⟨known, rfl⟩ := both
  refine Path.Keeps.bind (Path.Ensures.loopWithin fun joint => ?_) (fun _ => ?_) node known
  · intro node inside
    exact Path.Ensures.bind (nameJoint_stays resting_knows inside.2)
      (fun _ => handshake_keeps resting_knows _) node inside.1
  · refine Path.Ensures.loopWithin fun joint node inside => ?_
    refine Path.Ensures.bind (Path.Ensures.when (fun _ => nameJoint_stays resting_knows inside.2)
      fun _ _ known => known) (fun _ => ?_) node inside.1
    exact Path.Ensures.bind (handshake_keeps resting_knows _) fun _ =>
      nameJoint_stays resting_knows inside.2

theorem findMotor_found {motorId target : Nat} {node : Node K}
    (known : Held (fun setup lifecycle => setup.Valid ∧ lifecycle = .inactive) held node)
    (found : findMotor motorId node = some (index, target)) :
    ∃ count, target < count ∧ Held (Resting index count) held node := by
  obtain ⟨⟨row, index'⟩, member, located⟩ := List.exists_of_findSome?_eq_some found
  rw [List.mem_zipIdx_iff_getElem?] at member
  obtain ⟨joint, jointFound, same⟩ := Option.map_eq_some_iff.mp located
  cases same
  have within : target < row.length := by
    rw [List.findIdx?_eq_some_iff_findIdx_eq] at jointFound
    exact jointFound.1
  have bound : index < node.canInterfaces.length := by
    have count : node.tables.jointParametersPerCanInterface.length = node.canInterfaces.length :=
      known.1.1.params
    exact count ▸ (List.getElem?_eq_some_iff.mp member).1
  obtain ⟨rows, rowsFound, fit⟩ := known.1.1.rows index bound
  have parts := interfaceRows_eq_some.mp rowsFound
  cases member.symm.trans parts.2.2.2.1
  obtain ⟨can, canFound, configs⟩ := Option.map_eq_some_iff.mp parts.1
  refine ⟨can.jointConfigs.length, ?_, ⟨known.1, ?_⟩, known.2⟩
  · rw [configs, ← fit.params]
    exact within
  · rw [Setup.HasJoints, canFound, Option.map_some]

/-- What a service leaves: the setup it found, or nothing after a device error. -/
def Rested (start : Lifecycle) (setup : Setup K) (lifecycle : Lifecycle) : Prop :=
  (setup.Valid ∧ lifecycle = start) ∨ Cleared .unconfigured setup lifecycle

theorem setMotorOriginHereCallback_rests (start : Lifecycle) (motorId : Int) :
    Path.Ensures (Held (fun setup lifecycle => setup.Valid ∧ lifecycle = start) (none, none))
      (setMotorOriginHereCallback (K := K) motorId) (fun _ => Held (Rested start) (none, none))
      raised := by
  refine Path.Ensures.readBind fun lifecycle => ?_
  refine Path.Ensures.ite (fun _ node both => ⟨.inl both.1.1, both.1.2⟩) fun inactive => ?_
  have inactive : lifecycle = .inactive := not_not.mp inactive
  refine Path.Ensures.readBind fun found => ?_
  cases found with
  | none => exact fun node both => ⟨.inl both.1.1.1, both.1.1.2⟩
  | some location =>
      obtain ⟨index, target⟩ := location
      intro node both
      obtain ⟨⟨known, state⟩, located⟩ := both
      obtain rfl : start = .inactive := known.1.2.symm.trans (state.trans inactive)
      obtain ⟨count, bound, resting⟩ := findMotor_found known located
      have threaded : Threaded (K := K) (Resting index count) index := fun setup _ known =>
        known.1.1.threads.symm ▸ known.2.bound
      refine Path.Ensures.bind (stopCommThread_stays threaded) (fun _ => ?_) node resting
      refine Path.Ensures.bind lockCommunication_holds fun _ => ?_
      have attempted : Stays (K := K) (Resting index count) (some .exclusive, none) raised
          (Path.attempt (restartMotors index target)) := Path.Ensures.attempt restartMotors_keeps
      refine Path.Ensures.bind attempted fun result => ?_
      cases result with
      | ok value =>
          refine Path.Ensures.bind (startCommThread_stays threaded) fun _ => ?_
          refine Path.Ensures.bind (jointParameters_stays resting_knows bound) fun params => ?_
          refine Path.Ensures.bind (respond_stays _ _) fun _ => ?_
          exact unlockCommunication_holds.weaken_post fun _ _ after => ⟨.inl after.1.1, after.2⟩
      | error exception =>
          refine Path.Ensures.bind (canInterface_stays resting_knows) fun _ => ?_
          have emergency : Path.Ensures (Held (Resting (K := K) index count) (some .exclusive, none))
              (Path.tryCatch disableAll fun _ => pure ())
              (fun _ => Held (Cleanable .inactive) (some .exclusive, none)) raised :=
            Path.Ensures.tryCatch (disableAll_keeps.strengthen_pre fun _ resting =>
              ⟨⟨resting.1.1.1.rows, resting.1.1.2⟩, resting.2⟩) fun _ _ known => known
          refine Path.Ensures.bind emergency fun _ => ?_
          refine Path.Ensures.bind unlockCommunication_holds fun _ => ?_
          refine Path.Ensures.bind (respond_stays _ _) fun _ => ?_
          exact cleanup_clears.weaken_post fun _ _ cleared => ⟨.inr cleared.1, cleared.2⟩

end Node

end CubemarsDriver

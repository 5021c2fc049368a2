import CubemarsDriver.Node.Constraints

namespace CubemarsDriver.Node

open Foundation Can

/-! # `on_set_parameters_callback`

A batch is parsed, checked against the values its joints would have, and applied. -/

structure Parameter (K : Type) where
  name : String
  value : ParameterValue K

structure SetParametersResult where
  successful : Bool := true
  reason : String := ""
deriving DecidableEq, Repr

/-- The pending updates of one joint. -/
structure PerJointUpdate (K : Type) where
  velFilterType : Option VelFilterType := none
  velFilterSize : Option Int := none
  posMedianFilterSize : Option Int := none
  alpha : Option K := none
  beta : Option K := none
  tauC : Option K := none
  tauS : Option K := none
  vS : Option K := none
  k : Option K := none
  kA : Option K := none
  b : Option K := none
  posLimitMin : Option K := none
  posLimitMax : Option K := none

/-- The pending updates of a batch. -/
structure PendingUpdates (K : Type) where
  updates : List (String × PerJointUpdate K) := []
  newDefaultDampingKD : Option K := none
  newDampingOnMotorError : Option Bool := none
  newMaxCanErrors : Option Int := none

/-- The order in which an `unordered_map` is iterated over is not specified. -/
def IterationOrder (α : Type) : Type :=
  { arrange : List α → List α // ∀ items, (arrange items).Perm items }

def asListed {α : Type} : IterationOrder α := ⟨id, fun _ => .refl _⟩

variable {K : Type}

def perJointStart : List Char := "joint_defintions.".toList

def parsePerJointParam (name : String) : Option (String × String) :=
  if perJointStart.isPrefixOf name.toList then
    let rest := name.toList.drop perJointStart.length
    match rest.dropWhile (· ≠ '.') with
    | [] => none
    | _ :: field =>
        let joint := rest.takeWhile (· ≠ '.')
        if joint = [] ∨ field = [] then none
        else some (String.ofList joint, String.ofList field)
  else none

section Parsing

def mustBe {α : Type} (name type : String) : Except String α := .error (name ++ ": must be " ++ type)

def asDouble (name : String) : ParameterValue K → Except String K
  | .double value => .ok value
  | _ => mustBe name "double"

def asBool (name : String) : ParameterValue K → Except String Bool
  | .bool value => .ok value
  | _ => mustBe name "bool"

def asInt (name : String) : ParameterValue K → Except String Int
  | .integer value => .ok value
  | _ => mustBe name "int"

def asString (name : String) : ParameterValue K → Except String String
  | .string value => .ok value
  | _ => mustBe name "string"

/-- A size that must not be negative. -/
def asSize (name : String) (value : ParameterValue K) : Except String Int := do
  let size ← asInt name value
  if size < 0 then mustBe name ">= 0" else pure size

variable [Scalar K]

def parseField (name field : String) (value : ParameterValue K) (update : PerJointUpdate K) :
    Except String (PerJointUpdate K) :=
  match field with
  | "vel_filter_type" => do
      match velFilterType (← asString name value) with
      | some type => pure { update with velFilterType := some type }
      | none => mustBe name "'none', 'moving_average' or 'alpha_beta'"
  | "vel_filter_size" => do pure { update with velFilterSize := some (← asSize name value) }
  | "pos_median_filter_size" => do
      pure { update with posMedianFilterSize := some (← asSize name value) }
  | "alpha" => do
      let alpha ← asDouble name value
      if Scalar.zero < alpha ∧ alpha ≤ Scalar.one then pure { update with alpha := some alpha }
      else mustBe name "in (0, 1]"
  | "beta" => do
      let beta ← asDouble name value
      if beta ≤ Scalar.zero then mustBe name "> 0" else pure { update with beta := some beta }
  | "tau_c" => do pure { update with tauC := some (← asDouble name value) }
  | "tau_s" => do pure { update with tauS := some (← asDouble name value) }
  | "v_s" => do pure { update with vS := some (← asDouble name value) }
  | "k" => do pure { update with k := some (← asDouble name value) }
  | "k_a" => do pure { update with kA := some (← asDouble name value) }
  | "b" => do pure { update with b := some (← asDouble name value) }
  | "pos_limit_min" => do pure { update with posLimitMin := some (← asDouble name value) }
  | "pos_limit_max" => do pure { update with posLimitMax := some (← asDouble name value) }
  | _ => .error (name ++ ": field '" ++ field ++ "' is not dynamically reconfigurable")

/-- A parameter of a joint that the map knows. -/
def parseJointParameter (map : List (String × Nat × Nat)) (pending : PendingUpdates K)
    (parameter : Parameter K) : Except String (PendingUpdates K) := do
  let name := parameter.name
  match parsePerJointParam name with
  | none => .error (name ++ ": parameter is not dynamically reconfigurable")
  | some (joint, field) =>
      match map.lookup joint with
      | none => .error (name ++ ": unknown joint '" ++ joint ++ "'")
      | some _ => do
          let update ← parseField name field parameter.value
            ((pending.updates.lookup joint).getD {})
          pure { pending with updates := assignKey pending.updates joint update }

def parseParameter (map : List (String × Nat × Nat)) (pending : PendingUpdates K)
    (parameter : Parameter K) : Except String (PendingUpdates K) := do
  let { name, value } := parameter
  match name with
  | "default_damping_KD" => pure { pending with newDefaultDampingKD := some (← asDouble name value) }
  | "damping_on_motor_error" =>
      pure { pending with newDampingOnMotorError := some (← asBool name value) }
  | "max_can_errors_before_motor_shutdown" => do
      let limit ← asInt name value
      if limit < 1 then mustBe name ">= 1" else pure { pending with newMaxCanErrors := some limit }
  | _ => parseJointParameter map pending parameter

/-- Pass 1. -/
def parseBatch (map : List (String × Nat × Nat)) (batch : List (Parameter K)) :
    Except String (PendingUpdates K) := batch.foldlM (parseParameter map) {}

variable [StdToString K]

/-- The upper bound of a new `beta`, with the alpha it will be used with. -/
def checkBeta (joint : String) (update : PerJointUpdate K) (filter : AlphaBetaFilter K) :
    Except String Unit :=
  match update.beta with
  | none => pure ()
  | some beta =>
      let effAlpha := update.alpha.getD filter.alpha
      if beta < Scalar.ofRat 2 * effAlpha then pure ()
      else .error ("joint_defintions." ++ joint ++
        ".beta: must satisfy beta < 2 * alpha (effective alpha = " ++ StdToString.stdToString effAlpha ++ ")")

def checkPosLimits (joint : String) (update : PerJointUpdate K) (params : JointParameters K) :
    Except String Unit :=
  let effMin := update.posLimitMin.getD params.posLimitMin
  let effMax := update.posLimitMax.getD params.posLimitMax
  if effMax < effMin then
    .error ("joint_defintions." ++ joint ++ ": pos_limit_min must be <= pos_limit_max")
  else pure ()

def checkUpdate (joint : String) (update : PerJointUpdate K) (params : JointParameters K)
    (filter : AlphaBetaFilter K) : Except String Unit := do
  checkBeta joint update filter
  checkPosLimits joint update params

end Parsing

section Applying

variable [Scalar K]

def PerJointUpdate.params (update : PerJointUpdate K) (params : JointParameters K) :
    JointParameters K :=
  let friction := params.frictionParameters
  { params with
    velFilterType := update.velFilterType.getD params.velFilterType
    velFilterSize := (update.velFilterSize.map toUnsigned).getD params.velFilterSize
    posMedianFilterSize := (update.posMedianFilterSize.map toUnsigned).getD params.posMedianFilterSize
    frictionParameters := {
      tauC := update.tauC.getD friction.tauC
      tauS := update.tauS.getD friction.tauS
      vS := update.vS.getD friction.vS
      k := update.k.getD friction.k
      kA := update.kA.getD friction.kA
      b := update.b.getD friction.b }
    posLimitMin := update.posLimitMin.getD params.posLimitMin
    posLimitMax := update.posLimitMax.getD params.posLimitMax }

def PerJointUpdate.alphaBeta (update : PerJointUpdate K) (filter : AlphaBetaFilter K) :
    AlphaBetaFilter K :=
  { filter with alpha := update.alpha.getD filter.alpha, beta := update.beta.getD filter.beta }

def PerJointUpdate.average (update : PerJointUpdate K) (filter : MovingAverage K) :
    MovingAverage K :=
  match update.velFilterSize with
  | some size => filter.resize (toUnsigned size)
  | none => filter

def PerJointUpdate.median (update : PerJointUpdate K) (filter : MedianFilter K) : MedianFilter K :=
  match update.posMedianFilterSize with
  | some size => filter.resize (toUnsigned size)
  | none => filter

/-- Change the entry of a joint where it stands. -/
def changeEntry {α : Type} (rows : List (List α)) (index joint : Nat) (change : α → α) :
    Option (List (List α)) :=
  (jointEntry rows index joint).map fun _ => rows.modify index fun row => row.modify joint change

def applyToTables (index joint : Nat) (update : PerJointUpdate K) (tables : JointTables K) :
    Option (JointTables K) := do
  some { tables with
    jointParametersPerCanInterface :=
      ← changeEntry tables.jointParametersPerCanInterface index joint update.params
    jointAbFiltersPerCanInterface :=
      ← changeEntry tables.jointAbFiltersPerCanInterface index joint update.alphaBeta
    jointVelFiltersPerCanInterface :=
      ← changeEntry tables.jointVelFiltersPerCanInterface index joint update.average
    jointPosMedianFiltersPerCanInterface :=
      ← changeEntry tables.jointPosMedianFiltersPerCanInterface index joint update.median }

def applyGlobals (pending : PendingUpdates K) (node : Node K) : Node K :=
  { node with
    defaultDampingKD := pending.newDefaultDampingKD.getD node.defaultDampingKD
    dampingOnMotorError := pending.newDampingOnMotorError.getD node.dampingOnMotorError
    maxCanErrorsBeforeMotorShutdown :=
      (pending.newMaxCanErrors.map toUnsigned).getD node.maxCanErrorsBeforeMotorShutdown }

/-- `joint_name_to_can_iface_and_idx_.at(joint)`. -/
def locate (joint : String) : NodePath K (Nat × Nat) := do
  match ← Path.read fun node => node.tables.jointNameToCanIfaceAndIdx.lookup joint with
  | some position => pure position
  | none => Path.throw .outOfRange

def applyUpdate (entry : String × PerJointUpdate K) : NodePath K Unit := do
  let (index, joint) ← locate entry.1
  Path.updateDefined fun node =>
    (applyToTables index joint entry.2 node.tables).map fun tables => { node with tables }

variable [StdToString K]

/-- Pass 2. -/
def checkUpdates : List (String × PerJointUpdate K) → NodePath K (Except String Unit)
  | [] => pure (.ok ())
  | (joint, update) :: rest => do
      let (index, position) ← locate joint
      let params ← Path.element fun node =>
        jointEntry node.tables.jointParametersPerCanInterface index position
      let filter ← Path.element fun node =>
        jointEntry node.tables.jointAbFiltersPerCanInterface index position
      match checkUpdate joint update params filter with
      | .error reason => pure (.error reason)
      | .ok () => checkUpdates rest

def onSetParametersCallback (order : IterationOrder (String × PerJointUpdate K))
    (batch : List (Parameter K)) : NodePath K SetParametersResult := do
  match ← Path.read fun node => parseBatch node.tables.jointNameToCanIfaceAndIdx batch with
  | .error reason => pure { successful := false, reason }
  | .ok pending => do
      let updates := order.val pending.updates
      match ← checkUpdates updates with
      | .error reason => pure { successful := false, reason }
      | .ok () => do
          -- Pass 3
          Path.update (applyGlobals pending)
          Path.forEach applyUpdate updates
          pure {}

end Applying

end CubemarsDriver.Node

import MicroOpcua.AddressSpace.NodeId
import MicroOpcua.Encoding.Variant

namespace MicroOpcua

inductive AlarmStatus where
  | good
  | outOfMemory
  | methodInvalid
  | nodeIdUnknown
  | conditionBranchAlreadyAcked
  | dialogNotActive
  | invalidArgument
  | dialogResponseInvalid
deriving DecidableEq

structure Condition where
  id : RawNodeId
  activeState : Bool
  ackedState : Bool
  retain : Bool
  isDialog : Bool
  expectedResponse : Int
  validResponsesMask : UInt32

/-- `MU_MAX_CONDITIONS`, and what `1 << response` evaluates to. C defines it for a shift by less than the
width of the type only. -/
structure AlarmBuild where
  maxConditions : Nat
  shift : Int → UInt32
  shift_eq : ∀ r : Int, 0 ≤ r → r < 32 → shift r = 1 <<< UInt32.ofNat r.toNat

/-- `conditions` up to `condition_count`, and the arguments `1 << response` was evaluated at so far. -/
structure Alarms where
  conditions : List Condition
  shifts : List Int

def Alarms.init : Alarms := ⟨[], []⟩

def Condition.new (id : RawNodeId) : Condition := ⟨id, false, false, false, false, 0, 0⟩

def findCondition (conditions : List Condition) (id : RawNodeId) : Option (Fin conditions.length) :=
  conditions.findFinIdx? (fun c => c.id.equal id)

def findOrAllocateCondition (m : AlarmBuild) (conditions : List Condition) (id : RawNodeId) :
    Option (Nat × List Condition) :=
  match findCondition conditions id with
  | some i => some (i, conditions)
  | none =>
    if conditions.length < m.maxConditions then
      some (conditions.length, conditions ++ [.new id]) else none

def Condition.setActive (active : Bool) (c : Condition) : Condition :=
  if c.activeState ≠ active then
    if active then { c with activeState := active, ackedState := false, retain := true }
    else if c.ackedState then { c with activeState := active, retain := false }
    else { c with activeState := active }
  else c

def Condition.triggerDialog (validResponsesMask : UInt32) (c : Condition) : Condition :=
  { c with isDialog := true, validResponsesMask, activeState := true, retain := true }

def alarmsSetActive (m : AlarmBuild) (id : RawNodeId) (active : Bool) (s : Alarms) :
    AlarmStatus × Alarms :=
  match findOrAllocateCondition m s.conditions id with
  | none => (.outOfMemory, s)
  | some (i, conditions) =>
    (.good, { s with conditions := conditions.modify i (Condition.setActive active) })

def alarmsTriggerDialog (m : AlarmBuild) (id : RawNodeId) (validResponsesMask : UInt32) (s : Alarms) :
    AlarmStatus × Alarms :=
  match findOrAllocateCondition m s.conditions id with
  | none => (.outOfMemory, s)
  | some (i, conditions) =>
    (.good, { s with conditions := conditions.modify i (Condition.triggerDialog validResponsesMask) })

def Condition.acknowledge (c : Condition) : AlarmStatus × Condition :=
  if c.ackedState then (.conditionBranchAlreadyAcked, c)
  else if ¬ c.activeState then (.good, { c with ackedState := true, retain := false })
  else (.good, { c with ackedState := true })

def Condition.respond (m : AlarmBuild) (inputArgs : List Scalar) (c : Condition) :
    AlarmStatus × Condition × List Int :=
  if ¬ c.isDialog then (.nodeIdUnknown, c, [])
  else if ¬ c.activeState then (.dialogNotActive, c, [])
  else match inputArgs with
    | .int32 v :: _ =>
      let response := v.toInt32.toInt
      if c.validResponsesMask &&& m.shift response = 0 then (.dialogResponseInvalid, c, [response])
      else (.good, { c with expectedResponse := response, activeState := false, retain := false },
        [response])
    | _ => (.invalidArgument, c, [])

def acknowledgeId : UInt32 := 9111
def respondId : UInt32 := 9069

def alarmsConditionsMethodDispatch (m : AlarmBuild) (methodId objectId : RawNodeId)
    (inputArgs : List Scalar) (s : Alarms) : AlarmStatus × Alarms :=
  match methodId with
  | ⟨namespaceIndex, .numeric id⟩ =>
    if namespaceIndex ≠ 0 then (.methodInvalid, s)
    else if id = acknowledgeId then
      match findCondition s.conditions objectId with
      | none => (.nodeIdUnknown, s)
      | some i =>
        let (status, c) := s.conditions[i].acknowledge
        (status, { s with conditions := s.conditions.set i c })
    else if id = respondId then
      match findCondition s.conditions objectId with
      | none => (.nodeIdUnknown, s)
      | some i =>
        let (status, c, shifts) := s.conditions[i].respond m inputArgs
        (status, ⟨s.conditions.set i c, shifts ++ s.shifts⟩)
    else (.methodInvalid, s)
  | _ => (.methodInvalid, s)

section Operations

inductive AlarmOp where
  | setActive (id : RawNodeId) (active : Bool)
  | triggerDialog (id : RawNodeId) (validResponsesMask : UInt32)
  | acknowledge (id : RawNodeId) (inputArgs : List Scalar)
  | respond (id : RawNodeId) (inputArgs : List Scalar)

def AlarmOp.target : AlarmOp → RawNodeId
  | .setActive id _ | .triggerDialog id _ | .acknowledge id _ | .respond id _ => id

def AlarmOp.run (m : AlarmBuild) : AlarmOp → Alarms → AlarmStatus × Alarms
  | .setActive id active => alarmsSetActive m id active
  | .triggerDialog id mask => alarmsTriggerDialog m id mask
  | .acknowledge id args => alarmsConditionsMethodDispatch m ⟨0, .numeric acknowledgeId⟩ id args
  | .respond id args => alarmsConditionsMethodDispatch m ⟨0, .numeric respondId⟩ id args

def AlarmBuild.after (m : AlarmBuild) (ops : List AlarmOp) : Alarms :=
  ops.foldl (fun s op => (op.run m s).2) .init

end Operations

end MicroOpcua

import MicroOpcua.AddressSpace.Lookup
import MicroOpcua.Services.NodeManagement

namespace MicroOpcua

variable {W : Type} {capacity : Nat}

def Fault.notWritable : Fault := ⟨0x803B0000, by decide⟩
def Fault.writeNotSupported : Fault := ⟨0x80730000, by decide⟩
def Fault.typeMismatch : Fault := ⟨0x80740000, by decide⟩
def Fault.noContinuationPoints : Fault := ⟨0x804B0000, by decide⟩
def Fault.browseDirectionInvalid : Fault := ⟨0x804D0000, by decide⟩

section Spaces

structure BaseRuntime (W : Type) where
  getTime : Option (StateM W UInt64)
  startTime : UInt64

def BaseRuntime.statusTimeRead (rt : BaseRuntime W) (id : NodeId) : StateM W (StatusCode × Variant) := do
  if id.identifier = .numeric 2257 then return (good, .scalar (.dateTime rt.startTime))
  match rt.getTime with
  | some getTime => return (good, .scalar (.dateTime (← getTime)))
  | none => return (good, .scalar (.dateTime 0))

def BaseFlags.runtimeSpace (f : BaseFlags) (rt : BaseRuntime W) : AddressSpace W :=
  let node (row : BaseRow) : SpaceNode W :=
    { (row.node : SpaceNode W) with value := some (.callback rt.statusTimeRead) }
  if f.baseNodes then
    .ofList [node ⟨2258, .variable, "CurrentTime", f.propertyTypeRef, none⟩,
      node ⟨2257, .variable, "StartTime", f.propertyTypeRef, none⟩]
  else .null

/-- The address spaces a server resolves NodeIds in: `config.address_space` and `runtime_base.space`,
before the base nodes. -/
structure ServerSpaces (W : Type) where
  spaces : Spaces W
  user : Option SpaceRef
  runtime : SpaceRef
  rt : BaseRuntime W
  runtime_space : spaces.get runtime = spaces.flags.runtimeSpace rt

def ServerSpaces.refs (sp : ServerSpaces W) : List SpaceRef := sp.user.toList ++ [sp.runtime] ++ [.base]

abbrev AccessM (W : Type) (capacity : Nat) := StateM (SpaceIndex capacity × W)

def Spaces.nodeAt (m : Spaces W) (p : SpaceRef × Nat) : Option (SpaceNode W) := (m.get p.1).items[p.2]?

def ServerSpaces.resolve (sp : ServerSpaces W) (id : RawNodeId) :
    AccessM W capacity (Option (SpaceNode W)) :=
  fun (index, world) =>
    match resolveNode sp.spaces sp.user (some sp.runtime) id index with
    | (p, index) => (p.bind sp.spaces.nodeAt, (index, world))

def liftWorld {α : Type} (f : StateM W α) : AccessM W capacity α :=
  fun (index, world) =>
    match f world with
    | (a, world) => (a, (index, world))

end Spaces

section Read

structure ReadValueId where
  nodeId : NodeId
  attributeId : UInt32
  indexRange : MuString
  dataEncoding : UInt16 × MuString

structure ReadRequest where
  timestampsToReturn : UInt32
  nodesToRead : List ReadValueId

def maxReadNodes : Nat := 32

/-- `read_attribute`, and the Value attribute beside it: a status and the value read. The NodeId of the
node is the one that was asked for. -/
def readAttribute (node : SpaceNode W) (item : ReadValueId) : StateM W (StatusCode × Variant) := do
  match item.attributeId with
  | 1 => return (good, .scalar (.nodeId item.nodeId))
  | 2 => return (good, .scalar (.int32 node.nodeClass))
  | 3 => return (good, .scalar (.qualifiedName item.nodeId.namespaceIndex node.browseName))
  | 4 => return (good, .scalar (.localizedText none node.displayName))
  | 13 =>
    if node.nodeClass ≠ NodeClass.variable.code then return (Fault.attributeIdInvalid.code, .null)
    match node.value with
    | some source => valueSourceRead source item.nodeId .null
    | none => return (Fault.notReadable.code, .null)
  | _ => return (Fault.attributeIdInvalid.code, .null)

def readResult (r : StatusCode × Variant) : DataValue :=
  if r.1 = good then ⟨some r.2, none, none, none⟩ else ⟨none, some r.1, none, none⟩

def readNode (sp : ServerSpaces W) (item : ReadValueId) : AccessM W capacity DataValue := do
  match ← sp.resolve item.nodeId.raw with
  | none => return ⟨none, some Fault.nodeIdUnknown.code, none, none⟩
  | some node => return readResult (← liftWorld (readAttribute node item))

def readProcess (sp : ServerSpaces W) (req : ReadRequest) :
    AccessM W capacity (Except Fault (List DataValue)) := do
  if req.timestampsToReturn > 3 then return .error .timestampsToReturnInvalid
  if req.nodesToRead.length > maxReadNodes then return .error .tooManyOperations
  return .ok (← req.nodesToRead.mapM (readNode sp))

end Read

section Write

structure WriteValue where
  nodeId : NodeId
  attributeId : Int
  indexRange : MuString
  value : DataValue

def Variant.type : Variant → UInt8
  | .scalar v => v.type
  | .array t _ _ => t

abbrev WriteHandler (W : Type) := NodeId → UInt32 → Variant → StateM W StatusCode

def checkWriteType (node : SpaceNode W) (id : NodeId) (value : Variant) : StateM W StatusCode := do
  match node.value with
  | none => return good
  | some source =>
    let (status, current) ← valueSourceRead source id .null
    return if status = good ∧ current.type ≠ value.type then Fault.typeMismatch.code else good

def writeNodeValue (handler : Option (WriteHandler W)) (node : SpaceNode W) (item : WriteValue) :
    StateM W StatusCode := do
  if item.attributeId ≠ 13 then return Fault.notWritable.code
  match item.value.value with
  | none => return Fault.typeMismatch.code
  | some value =>
    if item.indexRange.size > 0 then return Fault.writeNotSupported.code
    if node.nodeClass ≠ NodeClass.variable.code then return Fault.notWritable.code
    let status ← checkWriteType node item.nodeId value
    if status ≠ good then return status
    match handler with
    | some write => write item.nodeId 13 value
    | none => return Fault.writeNotSupported.code

def writeNode (sp : ServerSpaces W) (handler : Option (WriteHandler W)) (item : WriteValue) :
    AccessM W capacity StatusCode := do
  match ← sp.resolve item.nodeId.raw with
  | none => return Fault.nodeIdUnknown.code
  | some node => liftWorld (writeNodeValue handler node item)

def writeProcess (sp : ServerSpaces W) (handler : Option (WriteHandler W)) (items : List WriteValue) :
    AccessM W capacity (Except Fault (List StatusCode)) := do
  if items = [] then return .error .nothingToDo
  return .ok (← items.mapM (writeNode sp handler))

end Write

section Browse

structure BrowseDescription where
  nodeId : NodeId
  browseDirection : UInt32
  referenceTypeId : NodeId
  includeSubtypes : Bool
  nodeClassMask : UInt32
  resultMask : UInt32

structure BrowseRequest where
  requestedMaxReferencesPerNode : UInt32
  nodesToBrowse : List BrowseDescription

structure ReferenceDescription where
  referenceTypeId : RawNodeId
  isForward : Bool
  nodeId : RawNodeId
  browseName : MuString
  displayName : MuString
  nodeClass : UInt32
  typeDefinition : RawNodeId

def maxBrowseNodes : Nat := 8
def maxBrowseRefs : Nat := 32

def refTypeSupertype : UInt32 → UInt32
  | 32 | 33 => 31
  | 34 | 35 | 36 => 33
  | 37 | 38 | 39 | 40 => 32
  | 44 | 45 => 34
  | 46 | 47 => 44
  | 48 => 36
  | _ => 0

def climbsTo (p : UInt32) : (guard : Nat) → UInt32 → Bool
  | 0, _ => false
  | guard + 1, c => c ≠ 0 && (refTypeSupertype c = p || climbsTo p guard (refTypeSupertype c))

def refTypeIsSubtypeOf (child parent : RawNodeId) : Bool :=
  child.equal parent ||
    match child, parent with
    | ⟨0, .numeric c⟩, ⟨0, .numeric p⟩ => climbsTo p 64 c
    | _, _ => false

def referenceTypeMatches (desc : BrowseDescription) (r : Reference) : Bool :=
  desc.referenceTypeId = .ns0 0 ||
    if desc.includeSubtypes then refTypeIsSubtypeOf r.referenceTypeId desc.referenceTypeId.raw
    else desc.referenceTypeId.raw.equal r.referenceTypeId

def BrowseDescription.takes (desc : BrowseDescription) (r : Reference) : Bool :=
  !(desc.browseDirection = 0 && !r.isForward) && !(desc.browseDirection = 1 && r.isForward) &&
    referenceTypeMatches desc r

def SpaceNode.typeDefinition (node : SpaceNode W) : RawNodeId :=
  ((node.references.items.find? (fun r => r.isForward && match r.referenceTypeId.identifier with
    | .numeric id => id = 40
    | _ => false)).map Reference.targetId).getD (.ns0 0)

def browseReferences (sp : ServerSpaces W) (maxPerNode : UInt32) (remaining : Nat)
    (desc : BrowseDescription) (typed : Bool) : List Reference → List ReferenceDescription →
      AccessM W capacity (Bool × List ReferenceDescription)
  | [], found => return (false, found)
  | r :: rs, found => do
    if !desc.takes r then browseReferences sp maxPerNode remaining desc typed rs found
    else match ← sp.resolve r.targetId with
      | none => browseReferences sp maxPerNode remaining desc typed rs found
      | some target =>
        if desc.nodeClassMask ≠ 0 ∧ target.nodeClass &&& desc.nodeClassMask = 0 then
          browseReferences sp maxPerNode remaining desc typed rs found
        else if maxPerNode > 0 ∧ found.length ≥ maxPerNode.toNat then return (true, found)
        else if found.length ≥ remaining then return (true, found)
        else browseReferences sp maxPerNode remaining desc typed rs (found ++ [
          { referenceTypeId := r.referenceTypeId
            isForward := r.isForward
            nodeId := target.nodeId
            browseName := target.browseName
            displayName := target.displayName
            nodeClass := target.nodeClass
            typeDefinition := if typed then target.typeDefinition else .ns0 0 }])

def DynamicSpace.referencesFrom (s : DynamicSpace) (id : NodeId) : List Reference :=
  ((s.references.take s.referencesCount).filter (fun r => s.storage.nodeId r.sourceNodeId = id)).map
      (fun r =>
    ⟨(s.storage.nodeId r.referenceTypeId).raw, (s.storage.nodeId r.targetId).raw, r.isForward⟩)

def browseFound (sp : ServerSpaces W) (s : DynamicSpace) (maxPerNode : UInt32) (remaining : Nat)
    (desc : BrowseDescription) (node : SpaceNode W) :
    AccessM W capacity (Except Fault (List ReferenceDescription)) := do
  let (tooMany, found) ← browseReferences sp maxPerNode remaining desc true node.references.items []
  let (tooMany', found) ← browseReferences sp maxPerNode remaining desc false
    (s.referencesFrom desc.nodeId) found
  return if tooMany || tooMany' then .error .noContinuationPoints else .ok found

def browseNode (sp : ServerSpaces W) (s : DynamicSpace) (maxPerNode : UInt32) (remaining : Nat)
    (desc : BrowseDescription) : AccessM W capacity (Except Fault (List ReferenceDescription)) := do
  if desc.browseDirection > 2 then return .error .browseDirectionInvalid
  match ← sp.resolve desc.nodeId.raw with
  | none => return .error .nodeIdUnknown
  | some node => browseFound sp s maxPerNode remaining desc node

def browseNodes (sp : ServerSpaces W) (s : DynamicSpace) (maxPerNode : UInt32) :
    List BrowseDescription → (used : Nat) →
      AccessM W capacity (List (Except Fault (List ReferenceDescription)))
  | [], _ => return []
  | desc :: descs, used => do
    let r ← browseNode sp s maxPerNode (maxBrowseRefs - used) desc
    let taken := match r with
      | .ok refs => refs.length
      | .error _ => 0
    return r :: (← browseNodes sp s maxPerNode descs (used + taken))

def browseProcess (sp : ServerSpaces W) (s : DynamicSpace) (req : BrowseRequest) :
    AccessM W capacity (Except Fault (List (Except Fault (List ReferenceDescription)))) := do
  if req.nodesToBrowse.length > maxBrowseNodes then return .error .internalError
  return .ok (← browseNodes sp s req.requestedMaxReferencesPerNode req.nodesToBrowse 0)

end Browse

end MicroOpcua

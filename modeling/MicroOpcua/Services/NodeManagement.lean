import MicroOpcua.AddressSpace.Space

namespace MicroOpcua

def Fault.userAccessDenied : Fault := ⟨0x801F0000, by decide⟩
def Fault.notFound : Fault := ⟨0x803E0000, by decide⟩
def Fault.nodeClassInvalid : Fault := ⟨0x805F0000, by decide⟩

structure DynamicLimits where
  maxNodes : Nat
  maxReferences : Nat
  browseNameLength : Nat
  displayNameLength : Nat
  stringNodeIdLength : Nat
  referenceStringNodeIdLength : Nat

def DynamicLimits.default : DynamicLimits := ⟨32, 64, 64, 64, 64, 64⟩

section Storage

inductive Buffer where
  | browseName | displayName | stringNodeId
  | referenceSource | referenceType | referenceTarget
deriving DecidableEq

structure Row where
  buffer : Buffer
  slot : Nat
deriving DecidableEq

abbrev Storage := Row → Bytes

def Storage.write (st : Storage) (row : Row) (bs : Bytes) : Storage :=
  fun row' => if row' = row then bs ++ (st row).drop bs.length else st row'

def Storage.read (st : Storage) (row : Row) (length : Nat) : Bytes := (st row).take length

/-- A string in the store: NULL with length -1, or the row its data is in and its length. -/
abbrev StoredString := Option (Row × Nat)

inductive StoredIdentifier where
  | numeric (id : UInt32)
  | string (id : StoredString)
deriving DecidableEq

structure StoredNodeId where
  namespaceIndex : UInt16
  identifier : StoredIdentifier
deriving DecidableEq

def Storage.string (st : Storage) (s : StoredString) : MuString := s.map (fun p => st.read p.1 p.2)

def Storage.nodeId (st : Storage) (n : StoredNodeId) : NodeId :=
  ⟨n.namespaceIndex, match n.identifier with
    | .numeric id => .numeric id
    | .string s => .string (st.string s)⟩

def dynamicStringFits (name : MuString) (maxLength : Nat) : Bool := name = none || name.size ≤ maxLength

def dynamicNodeIdFits (id : NodeId) (maxLength : Nat) : Bool :=
  match id.identifier with
  | .numeric _ => true
  | .string s => dynamicStringFits s maxLength

def dynamicStringCopy (dest : Row) (source : MuString) (st : Storage) : StoredString × Storage :=
  match source with
  | none => (none, st)
  | some bs => (some (dest, bs.length), st.write dest bs)

def dynamicNodeIdCopy (dest : Row) (source : NodeId) (st : Storage) : StoredNodeId × Storage :=
  match source.identifier with
  | .numeric id => (⟨source.namespaceIndex, .numeric id⟩, st)
  | .string s =>
    match dynamicStringCopy dest s st with
    | (s, st) => (⟨source.namespaceIndex, .string s⟩, st)

end Storage

/-- The members of a `mu_node_t` that AddNodes sets; its references and value stay NULL. -/
structure DynamicNode where
  nodeId : StoredNodeId
  nodeClass : UInt32
  browseName : StoredString
  displayName : StoredString
deriving DecidableEq

def DynamicNode.zero : DynamicNode := ⟨⟨0, .numeric 0⟩, 0, none, none⟩

structure DynamicReference where
  sourceNodeId : StoredNodeId
  referenceTypeId : StoredNodeId
  targetId : StoredNodeId
  isForward : Bool
deriving DecidableEq

def DynamicReference.zero : DynamicReference :=
  ⟨⟨0, .numeric 0⟩, ⟨0, .numeric 0⟩, ⟨0, .numeric 0⟩, false⟩

structure DynamicSpace where
  nodes : List DynamicNode
  nodesCount : Nat
  references : List DynamicReference
  referencesCount : Nat
  storage : Storage

def DynamicSpace.init (l : DynamicLimits) : DynamicSpace where
  nodes := List.replicate l.maxNodes .zero
  nodesCount := 0
  references := List.replicate l.maxReferences .zero
  referencesCount := 0
  storage := fun _ => []

structure NodeValue where
  nodeId : NodeId
  nodeClass : UInt32
  browseName : MuString
  displayName : MuString
deriving DecidableEq

structure ReferenceValue where
  sourceNodeId : NodeId
  referenceTypeId : NodeId
  targetId : NodeId
  isForward : Bool
deriving DecidableEq

def DynamicSpace.putNode (s : DynamicSpace) (i : Nat) (v : NodeValue) : DynamicSpace :=
  let (nodeId, st) := dynamicNodeIdCopy ⟨.stringNodeId, i⟩ v.nodeId s.storage
  let (browseName, st) := dynamicStringCopy ⟨.browseName, i⟩ v.browseName st
  let (displayName, st) := dynamicStringCopy ⟨.displayName, i⟩ v.displayName st
  { s with nodes := s.nodes.set i ⟨nodeId, v.nodeClass, browseName, displayName⟩, storage := st }

def DynamicSpace.putReference (s : DynamicSpace) (i : Nat) (v : ReferenceValue) : DynamicSpace :=
  let (source, st) := dynamicNodeIdCopy ⟨.referenceSource, i⟩ v.sourceNodeId s.storage
  let (type, st) := dynamicNodeIdCopy ⟨.referenceType, i⟩ v.referenceTypeId st
  let (target, st) := dynamicNodeIdCopy ⟨.referenceTarget, i⟩ v.targetId st
  { s with references := s.references.set i ⟨source, type, target, v.isForward⟩, storage := st }

section Moves

def moveString (buffer : Buffer) (dest source : Nat) (s : StoredString) (st : Storage) :
    StoredString × Storage :=
  match s with
  | none => (none, st)
  | some (_, length) =>
    (some (⟨buffer, dest⟩, length), st.write ⟨buffer, dest⟩ (st.read ⟨buffer, source⟩ length))

def DynamicSpace.nodeMove (s : DynamicSpace) (dest source : Nat) : DynamicSpace :=
  let moved := s.nodes.getD source .zero
  let (identifier, st) := match moved.nodeId.identifier with
    | .numeric id => (StoredIdentifier.numeric id, s.storage)
    | .string name =>
      match moveString .stringNodeId dest source name s.storage with
      | (name, st) => (.string name, st)
  let (browseName, st) := moveString .browseName dest source moved.browseName st
  let (displayName, st) := moveString .displayName dest source moved.displayName st
  { s with
    nodes :=
      s.nodes.set dest ⟨⟨moved.nodeId.namespaceIndex, identifier⟩, moved.nodeClass,
        browseName, displayName⟩
    storage := st }

/-- `mu_dynamic_reference_move`: the bytes come from where the moved NodeIds point. -/
def DynamicSpace.referenceMove (s : DynamicSpace) (dest source : Nat) : DynamicSpace :=
  let moved := s.references.getD source .zero
  let (sourceNodeId, st) :=
    dynamicNodeIdCopy ⟨.referenceSource, dest⟩ (s.storage.nodeId moved.sourceNodeId) s.storage
  let (referenceTypeId, st) :=
    dynamicNodeIdCopy ⟨.referenceType, dest⟩ (st.nodeId moved.referenceTypeId) st
  let (targetId, st) := dynamicNodeIdCopy ⟨.referenceTarget, dest⟩ (st.nodeId moved.targetId) st
  { s with
    references := s.references.set dest ⟨sourceNodeId, referenceTypeId, targetId, moved.isForward⟩
    storage := st }

def DynamicSpace.removeNodeAt (s : DynamicSpace) (j : Nat) : DynamicSpace :=
  let last := s.nodesCount - 1
  let s := { s with nodesCount := last }
  if j ≠ last then s.nodeMove j last else s

def DynamicSpace.removeReferenceAt (s : DynamicSpace) (j : Nat) : DynamicSpace :=
  let last := s.referencesCount - 1
  let s := { s with referencesCount := last }
  if j ≠ last then s.referenceMove j last else s

end Moves

section AddNodes

structure AddNodesItem where
  parentNodeId : NodeId
  referenceTypeId : NodeId
  requestedNewNodeId : ExpandedNodeId
  browseName : UInt16 × MuString
  nodeClass : UInt32
  nodeAttributesTypeId : NodeId
  nodeAttributes : Bytes
  typeDefinition : ExpandedNodeId

def readNodeAttributes (length : Nat) : ReadM Bytes := do
  if length = 0 then return []
  let r ← get
  if r.position > r.length ∨ length > r.length - r.position then readerFail .decodingError
  skipBytes length
  return r.here.take length

def readAddNodesItem : ReadM AddNodesItem := do
  let parentNodeId ← readNodeId
  let referenceTypeId ← readNodeId
  let requestedNewNodeId ← readExpandedNodeId
  let browseName ← readQualifiedName
  let nodeClass ← readUInt32
  let (nodeAttributesTypeId, length) ← readExtensionObjectHeader
  let nodeAttributes ← readNodeAttributes length
  let typeDefinition ← readExpandedNodeId
  return { parentNodeId, referenceTypeId, requestedNewNodeId, browseName, nodeClass, nodeAttributesTypeId
           nodeAttributes, typeDefinition }

def readItems {α : Type} (readItem : ReadM α) (maxItems : Nat) : ReadM (List α) := do
  let count ← readInt32
  if count < 0 then return []
  if count > maxItems then throw .tooManyOperations
  readEach readItem count.toNat

def maxManagementItems : Nat := 8

def addNodesRequestDecode : ReadM (List AddNodesItem) := readItems readAddNodesItem maxManagementItems

def decodeLocalizedTextText : ReadM MuString := do
  let mask ← readByte
  if mask &&& 0xFC ≠ 0 then throw .decodingError
  if mask &&& 0x01 ≠ 0 then
    let _ ← readString
  if mask &&& 0x02 ≠ 0 then readString else return none

def objectAttributesEncodingId : UInt32 := 354
def displayNameBit : UInt32 := 64

def AddNodesItem.displayName (item : AddNodesItem) : Except Fault (Option MuString) :=
  if item.nodeAttributes = [] then .ok none
  else if item.nodeAttributesTypeId ≠ .ns0 objectAttributesEncodingId then .ok none
  else ReadM.decode (do
    let specified ← readUInt32
    if specified &&& displayNameBit = 0 then return none
    return some (← decodeLocalizedTextText)) item.nodeAttributes

/-- The NodeId a new node gets: the requested one, or one made of the number of nodes. -/
def AddNodesItem.newNodeId (item : AddNodesItem) (s : DynamicSpace) : NodeId :=
  match item.requestedNewNodeId.nodeId.identifier with
  | .numeric 0 => ⟨1, .numeric (1000 + UInt32.ofNat s.nodesCount)⟩
  | _ => item.requestedNewNodeId.nodeId

def AddNodesItem.check (l : DynamicLimits) (item : AddNodesItem) (s : DynamicSpace) :
    Except Fault MuString := do
  if item.nodeClass = 0 then throw .nodeClassInvalid
  if s.nodesCount ≥ l.maxNodes then throw .outOfMemory
  if !dynamicStringFits item.browseName.2 l.browseNameLength then throw .outOfMemory
  let displayName := (← item.displayName).getD item.browseName.2
  if !dynamicStringFits displayName l.displayNameLength then throw .outOfMemory
  if !dynamicNodeIdFits (item.newNodeId s) l.stringNodeIdLength then throw .outOfMemory
  return displayName

def DynamicSpace.storeNode (s : DynamicSpace) (v : NodeValue) : DynamicSpace :=
  { s.putNode s.nodesCount v with nodesCount := s.nodesCount + 1 }

def addNode (l : DynamicLimits) (item : AddNodesItem) (s : DynamicSpace) :
    Except Fault NodeId × DynamicSpace :=
  match item.check l s with
  | .error e => (.error e, s)
  | .ok displayName =>
    (.ok (item.newNodeId s),
      s.storeNode ⟨item.newNodeId s, item.nodeClass, item.browseName.2, displayName⟩)

end AddNodes

section AddReferences

structure AddReferencesItem where
  sourceNodeId : NodeId
  referenceTypeId : NodeId
  isForward : Bool
  targetServerUri : MuString
  targetNodeId : ExpandedNodeId
  targetNodeClass : UInt32

def readFlag : ReadM Bool := do
  return (← readByte) ≠ 0

def addReferencesRequestDecode : ReadM (List AddReferencesItem) :=
  readItems (do
    let sourceNodeId ← readNodeId
    let referenceTypeId ← readNodeId
    let isForward ← readFlag
    let targetServerUri ← readString
    let targetNodeId ← readExpandedNodeId
    let targetNodeClass ← readUInt32
    return { sourceNodeId, referenceTypeId, isForward, targetServerUri, targetNodeId, targetNodeClass })
    maxManagementItems

def AddReferencesItem.fits (l : DynamicLimits) (item : AddReferencesItem) : Bool :=
  dynamicNodeIdFits item.sourceNodeId l.referenceStringNodeIdLength &&
    dynamicNodeIdFits item.referenceTypeId l.referenceStringNodeIdLength &&
    dynamicNodeIdFits item.targetNodeId.nodeId l.referenceStringNodeIdLength

def DynamicSpace.storeReference (s : DynamicSpace) (v : ReferenceValue) : DynamicSpace :=
  { s.putReference s.referencesCount v with referencesCount := s.referencesCount + 1 }

def addReference (l : DynamicLimits) (item : AddReferencesItem) (s : DynamicSpace) :
    Except Fault Unit × DynamicSpace :=
  if s.referencesCount ≥ l.maxReferences then (.error .outOfMemory, s)
  else if !item.fits l then (.error .outOfMemory, s)
  else (.ok (), s.storeReference ⟨item.sourceNodeId, item.referenceTypeId, item.targetNodeId.nodeId,
    item.isForward⟩)

end AddReferences

section Delete

structure DeleteNodesItem where
  nodeId : NodeId
  deleteTargetReferences : Bool

def deleteNodesRequestDecode : ReadM (List DeleteNodesItem) :=
  readItems (do
    let nodeId ← readNodeId
    let deleteTargetReferences ← readFlag
    return { nodeId, deleteTargetReferences }) maxManagementItems

def removeReferencesOf (id : NodeId) : (rounds rIdx : Nat) → DynamicSpace → DynamicSpace
  | 0, _, s => s
  | rounds + 1, rIdx, s =>
    let ref := s.references.getD rIdx .zero
    if s.storage.nodeId ref.sourceNodeId = id ∨ s.storage.nodeId ref.targetId = id then
      removeReferencesOf id rounds rIdx (s.removeReferenceAt rIdx)
    else removeReferencesOf id rounds (rIdx + 1) s

def deleteNode (item : DeleteNodesItem) (s : DynamicSpace) : Except Fault Unit × DynamicSpace :=
  match (s.nodes.take s.nodesCount).findIdx? (fun node =>
      s.storage.nodeId node.nodeId = item.nodeId) with
  | none => (.error .nodeIdUnknown, s)
  | some j =>
    let s := s.removeNodeAt j
    (.ok (), removeReferencesOf item.nodeId s.referencesCount 0 s)

structure DeleteReferencesItem where
  sourceNodeId : NodeId
  referenceTypeId : NodeId
  isForward : Bool
  targetNodeId : ExpandedNodeId
  deleteBidirectional : Bool

def deleteReferencesRequestDecode : ReadM (List DeleteReferencesItem) :=
  readItems (do
    let sourceNodeId ← readNodeId
    let referenceTypeId ← readNodeId
    let isForward ← readFlag
    let targetNodeId ← readExpandedNodeId
    let deleteBidirectional ← readFlag
    return { sourceNodeId, referenceTypeId, isForward, targetNodeId, deleteBidirectional })
      maxManagementItems

def deleteReference (item : DeleteReferencesItem) (s : DynamicSpace) :
    Except Fault Unit × DynamicSpace :=
  match (s.references.take s.referencesCount).findIdx? (fun ref =>
      s.storage.nodeId ref.sourceNodeId = item.sourceNodeId && s.storage.nodeId ref.referenceTypeId =
        item.referenceTypeId && s.storage.nodeId ref.targetId = item.targetNodeId.nodeId &&
        ref.isForward = item.isForward) with
  | none => (.error .notFound, s)
  | some j => (.ok (), s.removeReferenceAt j)

end Delete

section Process

def processItems {α β : Type} (process : α → DynamicSpace → Except Fault β × DynamicSpace) :
    List α → DynamicSpace → List (Except Fault β) × DynamicSpace
  | [], s => ([], s)
  | item :: items, s =>
    match process item s with
    | (r, s) =>
      match processItems process items s with
      | (rs, s) => (r :: rs, s)

def processRequest {α β : Type} (allowNodeManagement : Bool) (requestDecode : ReadM (List α))
    (process : α → DynamicSpace → Except Fault β × DynamicSpace) (request : Bytes) (s : DynamicSpace) :
    Except Fault (List (Except Fault β)) × DynamicSpace :=
  if !allowNodeManagement then (.error .userAccessDenied, s)
  else match requestDecode.decode request with
    | .error e => (.error e, s)
    | .ok items =>
      match processItems process items s with
      | (results, s) => (.ok results, s)

def addNodesProcess (l : DynamicLimits) (allow : Bool) :
    Bytes → DynamicSpace → Except Fault (List (Except Fault NodeId)) × DynamicSpace :=
  processRequest allow addNodesRequestDecode (addNode l)

def addReferencesProcess (l : DynamicLimits) (allow : Bool) :
    Bytes → DynamicSpace → Except Fault (List (Except Fault Unit)) × DynamicSpace :=
  processRequest allow addReferencesRequestDecode (addReference l)

def deleteNodesProcess (allow : Bool) :
    Bytes → DynamicSpace → Except Fault (List (Except Fault Unit)) × DynamicSpace :=
  processRequest allow deleteNodesRequestDecode deleteNode

def deleteReferencesProcess (allow : Bool) :
    Bytes → DynamicSpace → Except Fault (List (Except Fault Unit)) × DynamicSpace :=
  processRequest allow deleteReferencesRequestDecode deleteReference

end Process

inductive ManagementOp where
  | addNode (item : AddNodesItem)
  | addReference (item : AddReferencesItem)
  | deleteNode (item : DeleteNodesItem)
  | deleteReference (item : DeleteReferencesItem)

def ManagementOp.apply (l : DynamicLimits) : ManagementOp → DynamicSpace → DynamicSpace
  | .addNode item, s => (MicroOpcua.addNode l item s).2
  | .addReference item, s => (MicroOpcua.addReference l item s).2
  | .deleteNode item, s => (MicroOpcua.deleteNode item s).2
  | .deleteReference item, s => (MicroOpcua.deleteReference item s).2

inductive ManagementRequest where
  | addNodes (request : Bytes)
  | addReferences (request : Bytes)
  | deleteNodes (request : Bytes)
  | deleteReferences (request : Bytes)

def ManagementRequest.process (l : DynamicLimits) (allow : Bool) :
    ManagementRequest → DynamicSpace → DynamicSpace
  | .addNodes request, s => (addNodesProcess l allow request s).2
  | .addReferences request, s => (addReferencesProcess l allow request s).2
  | .deleteNodes request, s => (deleteNodesProcess allow request s).2
  | .deleteReferences request, s => (deleteReferencesProcess allow request s).2

end MicroOpcua

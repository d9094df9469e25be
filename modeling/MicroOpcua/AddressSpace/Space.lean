import MicroOpcua.AddressSpace.NodeId
import MicroOpcua.Services.MonitoredItem

namespace MicroOpcua

/-- A pointer and a count. A pointer that is not NULL points to so many entries. -/
structure CArray (α : Type) where
  data : Option (List α)
  count : Nat
  sized : ∀ l, data = some l → l.length = count

def CArray.items {α : Type} (a : CArray α) : List α := a.data.getD []

def CArray.ofList {α : Type} (l : List α) : CArray α where
  data := some l
  count := l.length
  sized := by
    intro l' h
    rw [Option.some.inj h]

def CArray.null {α : Type} : CArray α where
  data := none
  count := 0
  sized := nofun

structure Reference where
  referenceTypeId : RawNodeId
  targetId : RawNodeId
  isForward : Bool

structure SpaceNode (W : Type) extends Node W where
  nodeId : RawNodeId
  nodeClass : UInt32
  browseName : MuString
  displayName : MuString
  references : CArray Reference

abbrev AddressSpace (W : Type) := CArray (SpaceNode W)

inductive NodeClass where
  | object | variable | method | objectType | variableType | referenceType | dataType | view

def NodeClass.code : NodeClass → UInt32
  | .object => 1
  | .variable => 2
  | .method => 4
  | .objectType => 8
  | .variableType => 16
  | .referenceType => 32
  | .dataType => 64
  | .view => 128

section BaseNodes

structure BaseFlags where
  baseNodes : Bool
  baseTypeSystem : Bool
  subscriptionsStandard : Bool

/-- A row of `s_base_nodes`. All ids are numeric ids of namespace 0, all references are forward, and the
display name is the browse name. -/
structure BaseRow where
  id : UInt32
  nodeClass : NodeClass
  name : String
  references : List (UInt32 × UInt32)
  value : Option Variant

def RawNodeId.ns0 (id : UInt32) : RawNodeId := ⟨0, .numeric id⟩

def BaseRow.node {W : Type} (r : BaseRow) : SpaceNode W where
  value := r.value.map .static
  nodeId := .ns0 r.id
  nodeClass := r.nodeClass.code
  browseName := some (utf8 r.name)
  displayName := some (utf8 r.name)
  references := .ofList (r.references.map (fun p => ⟨.ns0 p.1, .ns0 p.2, true⟩))

def stringArray (s : String) : Variant := .array 12 1 (some [.string (some (utf8 s))])

def BaseFlags.propertyTypeRef (f : BaseFlags) : List (UInt32 × UInt32) :=
  if f.baseTypeSystem then [(40, 68)] else []

def BaseFlags.serverProfileArray (f : BaseFlags) : Variant :=
  stringArray (if f.baseTypeSystem then "http://opcfoundation.org/UA-Profile/Server/EmbeddedUA2017"
    else "http://opcfoundation.org/UA-Profile/Server/NanoEmbeddedDevice2017")

def typeRows : List BaseRow :=
  [⟨1, .dataType, "Boolean", [], none⟩,
   ⟨2, .dataType, "SByte", [], none⟩,
   ⟨3, .dataType, "Byte", [], none⟩,
   ⟨4, .dataType, "Int16", [], none⟩,
   ⟨5, .dataType, "UInt16", [], none⟩,
   ⟨6, .dataType, "Int32", [], none⟩,
   ⟨7, .dataType, "UInt32", [], none⟩,
   ⟨8, .dataType, "Int64", [], none⟩,
   ⟨9, .dataType, "UInt64", [], none⟩,
   ⟨10, .dataType, "Float", [], none⟩,
   ⟨11, .dataType, "Double", [], none⟩,
   ⟨12, .dataType, "String", [], none⟩,
   ⟨13, .dataType, "DateTime", [], none⟩,
   ⟨17, .dataType, "NodeId", [], none⟩,
   ⟨19, .dataType, "StatusCode", [], none⟩,
   ⟨20, .dataType, "QualifiedName", [], none⟩,
   ⟨21, .dataType, "LocalizedText", [], none⟩,
   ⟨24, .dataType, "BaseDataType", [(45, 1), (45, 2), (45, 3), (45, 4), (45, 5), (45, 6),
     (45, 7), (45, 8), (45, 9), (45, 10), (45, 11), (45, 12), (45, 13), (45, 17), (45, 19),
     (45, 20), (45, 21)], none⟩,
   ⟨31, .referenceType, "References", [(45, 32), (45, 33)], none⟩,
   ⟨32, .referenceType, "NonHierarchicalReferences", [(45, 40)], none⟩,
   ⟨33, .referenceType, "HierarchicalReferences", [(45, 34), (45, 35)], none⟩,
   ⟨34, .referenceType, "HasChild", [(45, 44), (45, 45)], none⟩,
   ⟨35, .referenceType, "Organizes", [], none⟩,
   ⟨40, .referenceType, "HasTypeDefinition", [], none⟩,
   ⟨44, .referenceType, "Aggregates", [(45, 46), (45, 47)], none⟩,
   ⟨45, .referenceType, "HasSubtype", [], none⟩,
   ⟨46, .referenceType, "HasProperty", [], none⟩,
   ⟨47, .referenceType, "HasComponent", [], none⟩,
   ⟨58, .objectType, "BaseObjectType", [(45, 61), (45, 2004)], none⟩,
   ⟨61, .objectType, "FolderType", [], none⟩,
   ⟨62, .variableType, "BaseVariableType", [(45, 63)], none⟩,
   ⟨63, .variableType, "BaseDataVariableType", [(45, 68)], none⟩,
   ⟨68, .variableType, "PropertyType", [], none⟩]

def BaseFlags.rootRows (f : BaseFlags) : List BaseRow :=
  [⟨84, .object, "Root", [(35, 85), (35, 86), (35, 87)] ++ (if f.baseTypeSystem then
    [(40, 61)] else []), none⟩,
   ⟨85, .object, "Objects", [(35, 2253)] ++ (if f.baseTypeSystem then [(40, 61)] else []), none⟩,
   ⟨86, .object, "Types", if f.baseTypeSystem then
     [(35, 88), (35, 89), (35, 90), (35, 91), (40, 61)] else [], none⟩,
   ⟨87, .object, "Views", if f.baseTypeSystem then [(40, 61)] else [], none⟩]

def folderRows : List BaseRow :=
  [⟨88, .object, "ObjectTypes", [(35, 58), (40, 61)], none⟩,
   ⟨89, .object, "VariableTypes", [(35, 62), (40, 61)], none⟩,
   ⟨90, .object, "DataTypes", [(35, 24), (40, 61)], none⟩,
   ⟨91, .object, "ReferenceTypes", [(35, 31), (40, 61)], none⟩,
   ⟨2004, .objectType, "ServerType", [], none⟩]

def BaseFlags.serverRows (f : BaseFlags) : List BaseRow :=
  [⟨2253, .object, "Server", [(47, 2254), (47, 2255), (47, 2256), (47,
     2268)] ++ (if f.baseTypeSystem && f.subscriptionsStandard then [(47, 11492), (47,
     12873)] else []) ++ (if f.baseTypeSystem then [(40, 2004)] else []), none⟩,
   ⟨2254, .variable, "ServerArray", f.propertyTypeRef, some (stringArray "urn:muc-opcua:server")⟩,
   ⟨2255, .variable, "NamespaceArray", f.propertyTypeRef,
     some (stringArray "http://opcfoundation.org/UA/")⟩,
   ⟨2256, .variable, "ServerStatus",
     [(47, 2259), (47, 2258), (47, 2257)] ++ (if f.baseTypeSystem then [(40, 63)] else []), none⟩,
   ⟨2259, .variable, "State", f.propertyTypeRef, some (.scalar (.int32 0))⟩,
   ⟨2268, .object, "ServerCapabilities",
     [(46, 2269), (46, 2271), (47, 11704)] ++ (if f.baseTypeSystem then [(40, 58)] else []), none⟩,
   ⟨2269, .variable, "ServerProfileArray", f.propertyTypeRef, some f.serverProfileArray⟩,
   ⟨2271, .variable, "LocaleIdArray", f.propertyTypeRef, some (stringArray "en")⟩]

def getMonitoredItemsRows : List BaseRow :=
  [⟨11492, .method, "GetMonitoredItems", [(46, 11493), (46, 11494)], none⟩,
   ⟨11493, .variable, "InputArguments", [(40, 68)], none⟩,
   ⟨11494, .variable, "OutputArguments", [(40, 68)], none⟩]

def BaseFlags.operationLimitsRows (f : BaseFlags) : List BaseRow :=
  [⟨11704, .object, "OperationLimits", [(46, 11705), (46, 11710)] ++ (if f.baseTypeSystem then
    [(40, 58)] else []),
     none⟩,
   ⟨11705, .variable, "MaxNodesPerRead", f.propertyTypeRef, some (.scalar (.uint32 32))⟩,
   ⟨11710, .variable, "MaxNodesPerBrowse", f.propertyTypeRef, some (.scalar (.uint32 8))⟩]

def resendDataRows : List BaseRow :=
  [⟨12873, .method, "ResendData", [(46, 12874)], none⟩,
   ⟨12874, .variable, "InputArguments", [(40, 68)], none⟩]

def BaseFlags.rows (f : BaseFlags) : List BaseRow :=
  (if f.baseTypeSystem then typeRows else []) ++
    f.rootRows ++
    (if f.baseTypeSystem then folderRows else []) ++
    f.serverRows ++
    (if f.baseTypeSystem && f.subscriptionsStandard then getMonitoredItemsRows else []) ++
    f.operationLimitsRows ++
    (if f.baseTypeSystem && f.subscriptionsStandard then resendDataRows else [])

def BaseFlags.baseSpace {W : Type} (f : BaseFlags) : AddressSpace W :=
  if f.baseNodes then .ofList (f.rows.map BaseRow.node) else .null

end BaseNodes

inductive SpaceRef where
  | base
  | other (address : Nat)
deriving DecidableEq

structure Spaces (W : Type) where
  flags : BaseFlags
  other : Nat → AddressSpace W

def Spaces.get {W : Type} (m : Spaces W) : SpaceRef → AddressSpace W
  | .base => m.flags.baseSpace
  | .other n => m.other n

def CArray.idAt {W : Type} (space : AddressSpace W) (i : Nat) : RawNodeId :=
  (space.items[i]?.map SpaceNode.nodeId).getD (.ns0 0)

end MicroOpcua

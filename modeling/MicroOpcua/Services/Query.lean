import MicroOpcua.Encoding.Query
import MicroOpcua.Services.NodeAccess

namespace MicroOpcua

variable {W : Type} {capacity : Nat}

def Fault.continuationPointInvalid : Fault := ⟨0x804A0000, by decide⟩

structure QuerySlot where
  id : MuString
  sessionId : UInt32
  nextIndex : Nat
  timestampMs : UInt64
deriving DecidableEq

def QuerySlot.released : QuerySlot := ⟨none, 0, 0, 0⟩

structure QueryServer (capacity : Nat) where
  index : SpaceIndex capacity
  dynamic : DynamicSpace
  slots : List QuerySlot

def QueryServer.init (l : DynamicLimits) (maxPoints : Nat) : QueryServer capacity where
  index := .init
  dynamic := .init l
  slots := List.replicate maxPoints .released

/-- A response. Where the continuation point is `none` the process function has not written it, and it is
what was on the stack. -/
structure QueryResponse where
  dataSets : List RawNodeId
  continuationPoint : Option MuString

section First

/-- `mu_evaluate_content_filter`. No operator is evaluated. -/
def evaluateContentFilter : List ContentFilterElement → Bool
  | [] => true
  | _ :: _ => true

def queryScan (filter : List ContentFilterElement) (maxReturn : UInt32) (maxDataSets : Nat) :
    List RawNodeId → (i : Nat) → (returned : List RawNodeId) → List RawNodeId × Nat
  | [], _, returned => (returned, 0)
  | id :: ids, i, returned =>
    if evaluateContentFilter filter then
      if returned.length < maxDataSets then
        if maxReturn > 0 ∧ returned.length ≥ maxReturn.toNat then (returned, i)
        else queryScan filter maxReturn maxDataSets ids (i + 1) (returned ++ [id])
      else (returned, i)
    else queryScan filter maxReturn maxDataSets ids (i + 1) returned

def ServerSpaces.indexedIds (sp : ServerSpaces W) (index : SpaceIndex capacity) : List RawNodeId :=
  match sp.user with
  | none => []
  | some a => (index.order.take index.count).map (sp.spaces.get a).idAt

def DynamicSpace.nodeIds (s : DynamicSpace) : List RawNodeId :=
  (s.nodes.take s.nodesCount).map (fun node => (s.storage.nodeId node.nodeId).raw)

def queryScans (sp : ServerSpaces W) (filter : List ContentFilterElement) (maxReturn : UInt32)
    (maxDataSets : Nat) (server : QueryServer capacity) : List RawNodeId × Nat :=
  match queryScan filter maxReturn maxDataSets (sp.indexedIds server.index) 0 [] with
  | (returned, nextIndex) =>
    if nextIndex = 0 then
      queryScan filter maxReturn maxDataSets server.dynamic.nodeIds server.index.count returned
    else (returned, nextIndex)

/-- The bytes of a continuation point: the low sixteen bits of the index. -/
def continuationId (nextIndex : Nat) : Bytes :=
  [UInt8.ofNat (nextIndex % 256), UInt8.ofNat (nextIndex / 256 % 256), 0, 0, 0, 0, 0, 0]

def freeSlot (slots : List QuerySlot) : Option Nat := slots.findIdx? (fun slot => slot.id.isNone)

def continuationPointAlloc (nextIndex : Nat) (slots : List QuerySlot) :
    Option MuString × List QuerySlot :=
  match freeSlot slots with
  | none => (none, slots)
  | some i =>
    (some (some (continuationId nextIndex)),
      slots.modify i (fun slot =>
        { slot with id := some (continuationId nextIndex), nextIndex := nextIndex }))

def queryFirstProcess (sp : ServerSpaces W) (filter : List ContentFilterElement) (maxReturn : UInt32)
    (maxDataSets : Nat) (server : QueryServer capacity) : QueryResponse × QueryServer capacity :=
  match queryScans sp filter maxReturn maxDataSets server with
  | (dataSets, nextIndex) =>
    if nextIndex > 0 then
      match continuationPointAlloc nextIndex server.slots with
      | (point, slots) => (⟨dataSets, point⟩, { server with slots := slots })
    else (⟨dataSets, some none⟩, server)

end First

section Next

def continuationPointSupplied (point : MuString) : Bool := point.size > 0

def continuationPointMatches (left right : MuString) : Bool :=
  continuationPointSupplied left && continuationPointSupplied right && left = right

def findContinuationPoint (point : MuString) (slots : List QuerySlot) : Option Nat :=
  slots.findIdx? (fun slot => continuationPointMatches slot.id point)

def queryNextProcess (point : MuString) (release : Bool) (server : QueryServer capacity) :
    Except Fault QueryResponse × QueryServer capacity :=
  if !continuationPointSupplied point then (.ok ⟨[], some none⟩, server)
  else match findContinuationPoint point server.slots with
    | none => (.error .continuationPointInvalid, server)
    | some i =>
      (.ok ⟨[], some none⟩, if release then
        { server with slots := server.slots.set i .released } else server)

end Next

def maxQueryDataSets : Nat := 16

inductive QueryOp where
  | lookup (id : RawNodeId)
  | manage (op : ManagementOp)
  | first (session : UInt32) (filter : List ContentFilterElement) (maxReturn : UInt32)
  | next (session : UInt32) (point : MuString) (release : Bool)

def QueryOp.apply (sp : ServerSpaces W) (l : DynamicLimits) (server : QueryServer capacity) :
    QueryOp → QueryServer capacity
  | .lookup id =>
    { server with index := (resolveNode sp.spaces sp.user (some sp.runtime) id server.index).2 }
  | .manage op => { server with dynamic := op.apply l server.dynamic }
  | .first _ filter maxReturn => (queryFirstProcess sp filter maxReturn maxQueryDataSets server).2
  | .next _ point release => (queryNextProcess point release server).2

def queryRun (sp : ServerSpaces W) (l : DynamicLimits) (maxPoints : Nat) (ops : List QueryOp) :
    QueryServer capacity :=
  ops.foldl (fun server op => op.apply sp l server) (.init l maxPoints)

end MicroOpcua

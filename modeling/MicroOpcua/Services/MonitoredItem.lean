import MicroOpcua.Core.Config
import MicroOpcua.Encoding.Variant

namespace MicroOpcua

inductive ValueSource (W : Type) where
  | static (value : Variant)
  | callback (read : NodeId → StateM W (StatusCode × Variant))

structure Node (W : Type) where
  value : Option (ValueSource W)

def maxStringValueLength : Nat := 64

/-- `mu_value_source_read` into `out`, which a failed static read leaves alone. -/
def valueSourceRead {W : Type} (source : ValueSource W) (nodeId : NodeId) (out : Variant) :
    StateM W (StatusCode × Variant) :=
  match source with
  | .static (.array t n es) => return (good, .array t n es)
  | .static (.scalar v) => return match v with
    | .boolean _ | .int32 _ | .uint32 _ | .float _ => (good, .scalar v)
    | .string str =>
      if str.size > maxStringValueLength then
        (Fault.encodingLimitsExceeded.code, out) else (good, .scalar v)
    | _ => (Fault.notReadable.code, out)
  | .callback read => read nodeId

/-- `mu_monitoring_mode_t` as stored: one byte, which a request may fill with any value. -/
def monitoringDisabled : UInt8 := 0
def monitoringSampling : UInt8 := 1
def monitoringReporting : UInt8 := 2

inductive DataChangeTrigger where
  | status
  | statusValue
  | statusValueTimestamp
deriving DecidableEq

inductive DeadbandType where
  | none
  | absolute
  | percent
deriving DecidableEq

/-- `mu_aggregate_state_t`; the members of the accumulator union are two fields, of which an
aggregate type uses one. -/
structure AggregateState where
  processingInterval : UInt64
  lastCalculation : UInt64
  sum : UInt64
  extreme : Variant
  aggregateType : UInt32
  sampleCount : UInt32
deriving DecidableEq

def AggregateState.zero : AggregateState := ⟨0, 0, 0, .null, 0, 0⟩

structure Report where
  value : Variant
  status : StatusCode
deriving DecidableEq

/-- `mu_monitored_item_t`. The trigger link array is the list of its first `triggered_count`
entries. -/
structure MonitoredItem (W : Type) where
  inUse : Bool
  nextSampleMs : UInt64
  deadbandValue : UInt64
  lastReportedNumeric : UInt64
  aggregateState : AggregateState
  resolvedNode : Option (Node W)
  lastValue : Variant
  nodeId : NodeId
  monitoredItemId : UInt32
  subscriptionId : UInt32
  clientHandle : UInt32
  attributeId : UInt32
  samplingIntervalMs : UInt32
  lastStatus : StatusCode
  queueSize : UInt32
  triggeredItems : List UInt32
  queue : List Report
  monitoringMode : UInt8
  trigger : DataChangeTrigger
  hasValue : Bool
  pending : Bool
  deadbandType : DeadbandType
  hasReported : Bool
  hasAggregate : Bool
  queueHead : UInt8
  queueTail : UInt8
  queueCount : UInt8
  discardOldest : Bool
  queueOverflow : Bool
  selectClauses : List UInt8
  selectClausesCount : UInt8

abbrev ItemList (W : Type) := List (MonitoredItem W)

def MonitoredItem.zero {W : Type} (b : Build) : MonitoredItem W where
  inUse := false
  nextSampleMs := 0
  deadbandValue := 0
  lastReportedNumeric := 0
  aggregateState := .zero
  resolvedNode := none
  lastValue := .null
  nodeId := .ns0 0
  monitoredItemId := 0
  subscriptionId := 0
  clientHandle := 0
  attributeId := 0
  samplingIntervalMs := 0
  lastStatus := good
  queueSize := 0
  triggeredItems := []
  queue := List.replicate b.monitoredQueueDepth ⟨.null, good⟩
  monitoringMode := monitoringDisabled
  trigger := .status
  hasValue := false
  pending := false
  deadbandType := .none
  hasReported := false
  hasAggregate := false
  queueHead := 0
  queueTail := 0
  queueCount := 0
  discardOldest := false
  queueOverflow := false
  selectClauses := List.replicate 8 0
  selectClausesCount := 0

variable {W : Type}

def variantScalarEqual : Variant → Variant → Bool
  | .scalar (.boolean x), .scalar (.boolean y) => x = y
  | .scalar (.sbyte x), .scalar (.sbyte y) => x = y
  | .scalar (.byte x), .scalar (.byte y) => x = y
  | .scalar (.int16 x), .scalar (.int16 y) => x = y
  | .scalar (.uint16 x), .scalar (.uint16 y) => x = y
  | .scalar (.int32 x), .scalar (.int32 y) => x = y
  | .scalar (.uint32 x), .scalar (.uint32 y) => x = y
  | .scalar (.int64 x), .scalar (.int64 y) => x = y
  | .scalar (.uint64 x), .scalar (.uint64 y) => x = y
  | .scalar (.float x), .scalar (.float y) => x = y
  | .scalar (.double x), .scalar (.double y) => x = y
  | .scalar (.dateTime x), .scalar (.dateTime y) => x = y
  | _, _ => false

def variantNumericToDouble (d : DoubleOps) : Variant → Option UInt64
  | .scalar (.sbyte v) => some (d.ofInt v.toBitVec.toInt)
  | .scalar (.byte v) => some (d.ofInt v.toNat)
  | .scalar (.int16 v) => some (d.ofInt v.toBitVec.toInt)
  | .scalar (.uint16 v) => some (d.ofInt v.toNat)
  | .scalar (.int32 v) => some (d.ofInt v.toBitVec.toInt)
  | .scalar (.uint32 v) => some (d.ofInt v.toNat)
  | .scalar (.int64 v) => some (d.ofInt v.toBitVec.toInt)
  | .scalar (.uint64 v) => some (d.ofInt v.toNat)
  | .scalar (.float v) => some (d.ofFloat v)
  | .scalar (.double v) => some v
  | _ => none

namespace MonitoredItem

def changeReportable (d : DoubleOps) (item : MonitoredItem W) (cur : Variant)
    (status : StatusCode) : Bool :=
  if !item.hasReported || status ≠ item.lastStatus then true
  else if item.deadbandType ≠ .absolute then true
  else match variantNumericToDouble d cur, variantNumericToDouble d item.lastValue with
    | some numeric, some _ => d.le item.deadbandValue (d.abs (d.sub numeric item.lastReportedNumeric))
    | _, _ => true

def recordReported (d : DoubleOps) (item : MonitoredItem W) (cur : Variant) : MonitoredItem W :=
  match variantNumericToDouble d cur with
  | some numeric => { item with lastReportedNumeric := numeric, hasReported := true }
  | none => { item with hasReported := true }

def clampQueueSize (b : Build) (size : UInt32) : UInt32 :=
  let size := if size = 0 then 1 else size
  if size.toNat > b.monitoredQueueDepth then UInt32.ofNat b.monitoredQueueDepth else size

/-- `monitored_item_effective_queue_size`: the clamped size is also stored in the item. -/
def effectiveQueueSize (b : Build) (item : MonitoredItem W) : MonitoredItem W :=
  let size := clampQueueSize b item.queueSize
  { item with
    queueSize := size
    queueHead := if item.queueHead.toUInt32 ≥ size then 0 else item.queueHead
    queueTail := if item.queueTail.toUInt32 ≥ size then 0 else item.queueTail
    queueCount := if item.queueCount.toUInt32 > size then size.toUInt8 else item.queueCount }

def queueNext (index : UInt8) (size : UInt32) : UInt8 :=
  if (index + 1).toUInt32 ≥ size then 0 else index + 1

def queuePrevious (index : UInt8) (size : UInt32) : UInt8 :=
  if index = 0 then (size - 1).toUInt8 else index - 1

def overflowBits : StatusCode := 0x00000480

def markOverflow (item : MonitoredItem W) (index : UInt8) : MonitoredItem W :=
  { item with
    queue := item.queue.modify index.toNat (fun r => { r with status := r.status ||| overflowBits })
    queueOverflow := true }

def enqueueReport (b : Build) (item : MonitoredItem W) (cur : Variant) (status : StatusCode) :
    MonitoredItem W :=
  let item := item.effectiveQueueSize b
  let size := item.queueSize
  let item :=
    if item.queueCount.toUInt32 < size then
      { item with
        queue := item.queue.set item.queueTail.toNat ⟨cur, status⟩
        queueTail := queueNext item.queueTail size
        queueCount := item.queueCount + 1 }
    else if item.discardOldest then
      let head := queueNext item.queueHead size
      markOverflow { item with
        queueHead := head
        queue := item.queue.set item.queueTail.toNat ⟨cur, status⟩
        queueTail := queueNext item.queueTail size } head
    else
      let newest := queuePrevious item.queueTail size
      markOverflow { item with queue := item.queue.set newest.toNat ⟨cur, status⟩ } newest
  let item := item.recordReported b.double cur
  { item with pending := item.queueCount > 0 }

def preparePendingQueue (b : Build) (item : MonitoredItem W) : MonitoredItem W :=
  if item.pending && item.queueCount = 0 && item.hasValue then
    item.enqueueReport b item.lastValue item.lastStatus
  else if item.hasValue && !item.hasReported then
    item.recordReported b.double item.lastValue
  else item

def aggregateAverage : UInt32 := 2342
def aggregateMinimum : UInt32 := 2346
def aggregateMaximum : UInt32 := 2347

def accumulateExtreme (d : DoubleOps) (better : UInt64 → UInt64 → Bool)
    (st : AggregateState) (cur : Variant) (value : UInt64) : Variant :=
  if st.sampleCount = 0 then cur
  else match variantNumericToDouble d st.extreme with
    | some old => if better value old then cur else st.extreme
    | none => cur

def accumulateAggregate (d : DoubleOps) (item : MonitoredItem W) (cur : Variant) : MonitoredItem W :=
  match variantNumericToDouble d cur with
  | none => item
  | some value =>
    let st := item.aggregateState
    let st :=
      if st.aggregateType = aggregateAverage then { st with sum := d.add st.sum value }
      else if st.aggregateType = aggregateMinimum then
        { st with extreme := accumulateExtreme d (fun new old => d.lt new old) st cur value }
      else if st.aggregateType = aggregateMaximum then
        { st with extreme := accumulateExtreme d (fun new old => d.lt old new) st cur value }
      else st
    { item with aggregateState := { st with sampleCount := st.sampleCount + 1 } }

def aggregateResult (d : DoubleOps) (item : MonitoredItem W) : Report :=
  let st := item.aggregateState
  if st.sampleCount = 0 then
    if item.hasValue then ⟨item.lastValue, item.lastStatus⟩ else ⟨.null, Fault.noData.code⟩
  else if st.aggregateType = aggregateAverage then
    ⟨.scalar (.double (d.div st.sum (d.ofInt st.sampleCount.toNat))), good⟩
  else if st.aggregateType = aggregateMinimum ∨ st.aggregateType = aggregateMaximum then
    ⟨st.extreme, good⟩
  else ⟨.null, Fault.internalError.code⟩

def publishAggregate (b : Build) (item : MonitoredItem W) (nowMs : UInt64) : MonitoredItem W :=
  let r := item.aggregateResult b.double
  let item := item.enqueueReport b r.value r.status
  { item with
    aggregateState := { item.aggregateState with
      sampleCount := 0, sum := 0, extreme := .null, lastCalculation := nowMs } }

def readValue (item : MonitoredItem W) : StateM W (StatusCode × Variant) :=
  match item.resolvedNode.bind (·.value) with
  | none => return (Fault.nodeIdUnknown.code, .null)
  | some source => valueSourceRead source item.nodeId .null

def sampleChanged (item : MonitoredItem W) (cur : Variant) (status : StatusCode) : Bool :=
  match item.trigger with
  | .status => status ≠ item.lastStatus
  | .statusValue | .statusValueTimestamp =>
    status ≠ item.lastStatus || !variantScalarEqual cur item.lastValue

def advanceSampleTimer (item : MonitoredItem W) (nowMs : UInt64) : MonitoredItem W :=
  let interval := if item.samplingIntervalMs = 0 then 1 else item.samplingIntervalMs.toUInt64
  let max : UInt64 := 0xFFFFFFFFFFFFFFFF
  if item.nextSampleMs ≤ nowMs then
    let elapsed := nowMs - item.nextSampleMs
    if elapsed < interval then
      if item.nextSampleMs > max - interval then { item with nextSampleMs := max }
      else { item with nextSampleMs := item.nextSampleMs + interval }
    else
      let steps := elapsed / interval + 1
      let maxSteps := (max - item.nextSampleMs) / interval
      if steps > maxSteps then { item with nextSampleMs := max }
      else { item with nextSampleMs := item.nextSampleMs + steps * interval }
  else item

def recordSampleStandard (b : Build) (item : MonitoredItem W) (cur : Variant) (status : StatusCode) :
    MonitoredItem W :=
  let item :=
    if item.hasValue && (!item.hasReported || (item.pending && item.queueCount = 0)) then
      item.preparePendingQueue b
    else item
  if !item.hasValue then
    ({ item with lastValue := cur, lastStatus := status, hasValue := true }).enqueueReport b cur status
  else if item.sampleChanged cur status then
    if item.changeReportable b.double cur status then
      ({ item with lastValue := cur, lastStatus := status }).enqueueReport b cur status
    else item
  else item

def recordSampleBasic (item : MonitoredItem W) (cur : Variant) (status : StatusCode) : MonitoredItem W :=
  if !item.hasValue then
    { item with lastValue := cur, lastStatus := status, hasValue := true, pending := true }
  else if item.sampleChanged cur status then
    { item with lastValue := cur, lastStatus := status, pending := true }
  else item

def eventNotifierAttribute : UInt32 := 12

def sample (b : Build) (nowMs : UInt64) (item : MonitoredItem W) : StateM W (MonitoredItem W) := do
  if item.monitoringMode = monitoringDisabled then return item
  let item :=
    if b.subscriptionsStandard && item.hasAggregate &&
        b.double.le item.aggregateState.processingInterval
          (b.double.ofInt (nowMs - item.aggregateState.lastCalculation).toNat) then
      item.publishAggregate b nowMs
    else item
  if nowMs < item.nextSampleMs then return item
  if b.events && item.attributeId = eventNotifierAttribute then return item
  let (status, cur) ← item.readValue
  if b.subscriptionsStandard && item.hasAggregate then
    let item := if status = good then item.accumulateAggregate b.double cur else item
    return ({ item with lastValue := cur, lastStatus := status, hasValue := true }).advanceSampleTimer
      nowMs
  let item :=
    if b.subscriptionsStandard then item.recordSampleStandard b cur status
    else item.recordSampleBasic cur status
  return item.advanceSampleTimer nowMs

end MonitoredItem

/-- The sampling loop of `mu_subscriptions_tick`, which stops after `active` items in use. -/
def sampleItems (b : Build) (nowMs : UInt64) : (active : Nat) → ItemList W →
    StateM W (ItemList W)
  | _, [] => return []
  | active, item :: items => do
    if active = 0 then return item :: items
    if item.inUse then
      let item ← item.sample b nowMs
      return item :: (← sampleItems b nowMs (active - 1) items)
    return item :: (← sampleItems b nowMs active items)

end MicroOpcua

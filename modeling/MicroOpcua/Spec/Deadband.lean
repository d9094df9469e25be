import MicroOpcua.Spec.Sampling

namespace MicroOpcua

open Lib.Ring Lib.StateRun

variable {W : Type} {b : Build} {item item' : MonitoredItem W} {cur : Variant} {status : StatusCode}

section Log

/-- One step in the life of an item. Steps that call an application read carry the world they find. -/
inductive ItemOp (W : Type) where
  | sample (nowMs : UInt64) (w : W)
  | publish (resend : Option W) (drains : List Nat)

def MonitoredItem.publish (b : Build) (resend : Option W) (drains : List Nat) (item : MonitoredItem W) :
    MonitoredItem W :=
  let item := item.preparePendingQueue b
  let item := match resend with
    | none => item
    | some w => ((item.resend b).run w).1
  drains.foldl (fun item n => (item.drainReportedEntries b n).1) item

def ItemOp.run (b : Build) : ItemOp W → MonitoredItem W → MonitoredItem W
  | .sample nowMs w, item => ((item.sample b nowMs).run w).1
  | .publish resend drains, item => item.publish b resend drains

def MonitoredItem.waiting (item : MonitoredItem W) : List Report :=
  if item.waits then [⟨item.lastValue, item.lastStatus⟩] else []

def MonitoredItem.sampleReport (b : Build) (item : MonitoredItem W) (cur : Variant)
    (status : StatusCode) : List Report :=
  if !item.hasValue || (item.sampleChanged cur status && item.changeReportable b.double cur status) then
    [⟨cur, status⟩]
  else []

def MonitoredItem.resendReport (item : MonitoredItem W) (w : W) : Report :=
  let (status, cur) := (item.readValue.run w).1
  if status = good then ⟨cur, status⟩ else if item.hasValue then
    ⟨item.lastValue, status⟩ else ⟨.null, status⟩

instance (b : Build) (nowMs : UInt64) (item : MonitoredItem W) : Decidable (item.Sampled b nowMs) :=
  decidable_of_iff (item.monitoringMode ≠ monitoringDisabled ∧ item.nextSampleMs ≤ nowMs ∧
      ¬ (b.events = true ∧ item.attributeId = MonitoredItem.eventNotifierAttribute))
    ⟨fun h => ⟨h.1, h.2.1, h.2.2⟩, fun h => ⟨h.enabled, h.due, h.data⟩⟩

def ItemOp.enqueued (b : Build) (item : MonitoredItem W) : ItemOp W → List Report
  | .sample nowMs w =>
    if item.Sampled b nowMs then
      item.waiting ++ (item.preparePendingQueue b).sampleReport b (item.readValue.run w).1.2
        (item.readValue.run w).1.1
    else []
  | .publish resend _ =>
    item.waiting ++ match resend with
      | none => []
      | some w => [(item.preparePendingQueue b).resendReport w]

def MonitoredItem.cells (item : MonitoredItem W) : List Report × UInt32 × UInt8 × UInt8 × UInt8 :=
  (item.queue, item.queueSize, item.queueHead, item.queueTail, item.queueCount)

theorem enqueueReport_cells (b : Build) (item : MonitoredItem W) (cur : Variant) (status : StatusCode) :
    (item.enqueueReport b cur status).cells =
      ((item.effectiveQueueSize b).pushed ⟨cur, status⟩).cells := by
  change (MonitoredItem.recordReported b.double _ cur).cells = _
  unfold MonitoredItem.recordReported
  split <;> rfl

theorem pushed_cells_congr (hcells : item'.cells = item.cells)
    (hpolicy : item'.discardOldest = item.discardOldest) (r : Report) :
    (item'.pushed r).cells = (item.pushed r).cells := by
  simp only [MonitoredItem.cells, Prod.mk.injEq] at hcells
  obtain ⟨hqueue, hsize, hhead, htail, hcount⟩ := hcells
  simp only [MonitoredItem.pushed, hqueue, hsize, hhead, htail, hcount, hpolicy]
  split
  · rfl
  · split
    · rfl
    · rfl

theorem enqueueReport_cells_congr (hcells : item'.cells = item.cells)
    (hpolicy : item'.discardOldest = item.discardOldest) (cur : Variant) (status : StatusCode) :
    (item'.enqueueReport b cur status).cells = (item.enqueueReport b cur status).cells := by
  rw [enqueueReport_cells, enqueueReport_cells]
  apply pushed_cells_congr
  · simp only [MonitoredItem.cells, Prod.mk.injEq] at hcells
    obtain ⟨hqueue, hsize, hhead, htail, hcount⟩ := hcells
    simp only [MonitoredItem.cells, MonitoredItem.effectiveQueueSize, hqueue, hsize,
      hhead, htail, hcount]
  · exact hpolicy

def MonitoredItem.enqueueAll (b : Build) (item : MonitoredItem W) (rs : List Report) : MonitoredItem W :=
  rs.foldl (fun item r => item.enqueueReport b r.value r.status) item

section

variable (b : Build) (item : MonitoredItem W)

theorem preparePendingQueue_cells :
    (item.preparePendingQueue b).cells = (item.enqueueAll b item.waiting).cells := by
  unfold MonitoredItem.waiting
  by_cases hwaits : item.waits = true
  · rw [if_pos hwaits, preparePendingQueue_waits hwaits]
    rfl
  · have hring := preparePendingQueue_ring (b := b) hwaits
    simp only [MonitoredItem.ring, Prod.mk.injEq] at hring
    obtain ⟨hqueue, hsize, hhead, htail, hcount, -⟩ := hring
    rw [if_neg hwaits]
    simp only [MonitoredItem.cells, hqueue, hsize, hhead, htail, hcount]
    rfl

theorem enqueueAll_discardOldest (rs : List Report) :
    (item.enqueueAll b rs).discardOldest = item.discardOldest := by
  induction rs generalizing item with
  | nil => rfl
  | cons r rs ih => exact (ih _).trans (enqueueReport_discardOldest b item r.value r.status)

theorem enqueueAll_append (rs : List Report) (r : Report) :
    item.enqueueAll b (rs ++ [r]) = (item.enqueueAll b rs).enqueueReport b r.value r.status :=
  List.foldl_append

theorem prepared_enqueue_cells (r : Report)
    (hcells : item'.cells = (item.preparePendingQueue b).cells)
    (hpolicy : item'.discardOldest = item.discardOldest) :
    (item'.enqueueReport b r.value r.status).cells =
      (item.enqueueAll b (item.waiting ++ [r])).cells := by
  rw [enqueueAll_append]
  apply enqueueReport_cells_congr
  · rw [hcells, preparePendingQueue_cells]
  · rw [hpolicy, enqueueAll_discardOldest]

theorem recordSampleStandard_cells (cur : Variant) (status : StatusCode) :
    (item.recordSampleStandard b cur status).cells =
      (item.enqueueAll b (item.waiting ++
        (item.preparePendingQueue b).sampleReport b cur status)).cells := by
  have hsame := SameSampling.of_eq (preparePendingQueue_sampling b item)
  by_cases hvalue : item.hasValue = true
  · rw [recordSampleStandard_eq hvalue, MonitoredItem.sampleReport, hsame.hasValue, hvalue]
    dsimp only
    by_cases hchanged : (item.preparePendingQueue b).sampleChanged cur status = true
    · by_cases hreportable : (item.preparePendingQueue b).changeReportable b.double cur status = true
      · rw [if_pos hchanged, if_pos hreportable, if_pos (by simp [hchanged, hreportable])]
        exact prepared_enqueue_cells b item ⟨cur, status⟩ rfl hsame.discardOldest
      · rw [if_pos hchanged, if_neg hreportable, if_neg (by simp [hreportable]), List.append_nil,
          preparePendingQueue_cells]
    · rw [if_neg hchanged, if_neg (by simp [hchanged]), List.append_nil, preparePendingQueue_cells]
  · have hwaits : ¬ item.waits = true := by
      intro h
      simp only [MonitoredItem.waits, Bool.and_eq_true] at h
      exact hvalue h.2
    rw [recordSampleStandard_first (by simpa using hvalue), MonitoredItem.sampleReport,
      if_pos (by rw [hsame.hasValue]; simp [hvalue])]
    apply prepared_enqueue_cells b item ⟨cur, status⟩
    · have hring := preparePendingQueue_ring (b := b) hwaits
      simp only [MonitoredItem.ring, Prod.mk.injEq] at hring
      obtain ⟨hqueue, hsize, hhead, htail, hcount, -⟩ := hring
      simp only [MonitoredItem.cells, hqueue, hsize, hhead, htail, hcount]
    · rfl

end

/-- The log of a step is what the step put into the queue, before what a publish took out. -/
theorem ItemOp.enqueued_cells (hstd : b.subscriptionsStandard = true)
    (hplain : item.hasAggregate = false) (op : ItemOp W) :
    (match op with
      | .sample _ _ => (op.run b item).cells
      | .publish resend _ => (item.publish b resend []).cells) =
        (item.enqueueAll b (op.enqueued b item)).cells := by
  cases op with
  | sample nowMs w =>
    simp only [ItemOp.run, ItemOp.enqueued]
    by_cases hsampled : item.Sampled b nowMs
    · obtain ⟨next, hsample⟩ := sample_plain hsampled hplain w
      rw [if_pos hsampled, hsample]
      dsimp only
      rw [if_pos hstd]
      exact recordSampleStandard_cells b item _ _
    · rw [if_neg hsampled, sample_idle hplain hsampled]
      rfl
  | publish resend drains =>
    have hsame := SameSampling.of_eq (preparePendingQueue_sampling b item)
    simp only [MonitoredItem.publish, ItemOp.enqueued, List.foldl_nil]
    cases resend with
    | none =>
      rw [List.append_nil]
      exact preparePendingQueue_cells b item
    | some w =>
      simp only [MonitoredItem.resend, run_bind, run_ite, run_pure, MonitoredItem.resendReport]
      split
      · exact prepared_enqueue_cells b item ⟨_, _⟩ rfl hsame.discardOldest
      · split
        · exact prepared_enqueue_cells b item ⟨_, _⟩ rfl hsame.discardOldest
        · exact prepared_enqueue_cells b item ⟨_, _⟩ rfl hsame.discardOldest

end Log

section Integers

def Scalar.smallInt? : Scalar → Option Int
  | .sbyte v => some v.toBitVec.toInt
  | .byte v => some v.toNat
  | .int16 v => some v.toBitVec.toInt
  | .uint16 v => some v.toNat
  | .int32 v => some v.toBitVec.toInt
  | .uint32 v => some v.toNat
  | _ => none

structure DoubleOps.Exact (d : DoubleOps) : Prop where
  sub : ∀ x y : Int, |x| ≤ 2 ^ 53 → |y| ≤ 2 ^ 53 → |x - y| ≤ 2 ^ 53 →
    d.sub (d.ofInt x) (d.ofInt y) = d.ofInt (x - y)
  abs : ∀ x : Int, |x| ≤ 2 ^ 53 → d.abs (d.ofInt x) = d.ofInt |x|
  le : ∀ x y : Int, |x| ≤ 2 ^ 53 → |y| ≤ 2 ^ 53 → (d.le (d.ofInt x) (d.ofInt y) = true ↔ x ≤ y)

def IntegerValue (t : UInt8) (value : Variant) (x : Int) : Prop :=
  ∃ v, value = .scalar v ∧ v.type = t ∧ v.smallInt? = some x

variable {t : UInt8} {value value' : Variant} {x y : Int}

theorem IntegerValue.bound (h : IntegerValue t value x) : |x| ≤ 2 ^ 32 := by
  obtain ⟨v, -, -, hint⟩ := h
  rw [abs_le]
  cases v <;> simp only [Scalar.smallInt?, Option.some.injEq, reduceCtorEq] at hint
  case sbyte v => have := v.toBitVec.toInt_lt; have := v.toBitVec.le_toInt; omega
  case byte v => have := v.toNat_lt; omega
  case int16 v => have := v.toBitVec.toInt_lt; have := v.toBitVec.le_toInt; omega
  case uint16 v => have := v.toNat_lt; omega
  case int32 v => have := v.toBitVec.toInt_lt; have := v.toBitVec.le_toInt; omega
  case uint32 v => have := v.toNat_lt; omega

theorem IntegerValue.numeric (h : IntegerValue t value x) (d : DoubleOps) :
    variantNumericToDouble d value = some (d.ofInt x) := by
  obtain ⟨v, rfl, -, hint⟩ := h
  cases v <;> cases hint <;> rfl

theorem Scalar.smallInt?_inj {u v : Scalar} (htype : u.type = v.type) (hu : u.smallInt? = some x)
    (hv : v.smallInt? = some x) : u = v := by
  cases u <;> simp only [Scalar.smallInt?, Option.some.injEq, reduceCtorEq] at hu <;> cases v <;>
    simp only [Scalar.type, Scalar.smallInt?, Option.some.injEq, reduceCtorEq] at htype hv <;>
    first
    | exact absurd htype (by decide)
    | exact congrArg _ (UInt8.toBitVec_inj.mp (BitVec.eq_of_toInt_eq (hu.trans hv.symm)))
    | exact congrArg _ (UInt16.toBitVec_inj.mp (BitVec.eq_of_toInt_eq (hu.trans hv.symm)))
    | exact congrArg _ (UInt32.toBitVec_inj.mp (BitVec.eq_of_toInt_eq (hu.trans hv.symm)))
    | exact congrArg _ (UInt8.toNat_inj.mp (Int.ofNat.inj (hu.trans hv.symm)))
    | exact congrArg _ (UInt16.toNat_inj.mp (Int.ofNat.inj (hu.trans hv.symm)))
    | exact congrArg _ (UInt32.toNat_inj.mp (Int.ofNat.inj (hu.trans hv.symm)))

theorem variantScalarEqual_eq {u v : Scalar} (h : variantScalarEqual (.scalar u) (.scalar v) = true) :
    u = v := by
  unfold variantScalarEqual at h
  split at h <;> simp_all

theorem IntegerValue.equal_iff (h : IntegerValue t value x) (h' : IntegerValue t value' y) :
    variantScalarEqual value value' = true ↔ x = y := by
  obtain ⟨u, rfl, hu, hx⟩ := h
  obtain ⟨v, rfl, hv, hy⟩ := h'
  constructor
  · intro hequal
    cases variantScalarEqual_eq hequal
    exact Option.some.inj (hx.symm.trans hy)
  · rintro rfl
    cases Scalar.smallInt?_inj (hu.trans hv.symm) hx hy
    rw [variantScalarEqual_self]
    cases u <;> first | rfl | cases hx

theorem deadband_exact {d : DoubleOps} (h : d.Exact) {a : Nat} (ha : a ≤ 2 ^ 32) (hx : |x| ≤ 2 ^ 32)
    (hy : |y| ≤ 2 ^ 32) : d.le (d.ofInt a) (d.abs (d.sub (d.ofInt x) (d.ofInt y))) = true ↔
      (a : Int) ≤ |x - y| := by
  have hdistance : |x - y| ≤ 2 ^ 33 := by
    have := abs_sub x y
    omega
  have habs : |(|x - y|)| = |x - y| := abs_abs _
  rw [h.sub x y (by omega) (by omega) (by omega), h.abs _ (by omega), h.le _ _ ?_ (by omega)]
  rw [abs_of_nonneg (Int.natCast_nonneg a)]
  omega

end Integers

section Runs

variable {t : UInt8} {d : Nat} {log : List Report} {x y : Int} {w : W} {nowMs : UInt64}

/-- An item with trigger StatusValue and an absolute deadband of `d`, whose value is an integer of type
`t`. -/
structure DeadbandItem (b : Build) (t : UInt8) (d : Nat) (item : MonitoredItem W) : Prop where
  plain : item.hasAggregate = false
  trigger : item.trigger = .statusValue
  deadbandType : item.deadbandType = .absolute
  deadbandValue : item.deadbandValue = b.double.ofInt d
  recorded : item.hasValue = true → item.lastStatus = good ∧ ∃ y, IntegerValue t item.lastValue y

/-- The last report of the log is the value the item compares the next sample with. -/
structure Referenced (b : Build) (item : MonitoredItem W) (log : List Report) : Prop where
  waits : item.waits = false
  first : item.hasValue = false → log = []
  reported : item.hasValue = true → item.hasReported = true
  reference :
    item.hasValue = true → variantNumericToDouble b.double item.lastValue = some item.lastReportedNumeric
  last : item.hasValue = true → log.getLast? = some ⟨item.lastValue, item.lastStatus⟩

def Tracks (b : Build) (item : MonitoredItem W) (log : List Report) : Prop :=
  item.waits = true ∧ log = [] ∨ Referenced b item log

theorem DeadbandItem.congr {item' : MonitoredItem W} (h : DeadbandItem b t d item)
    (hsampling : item'.sampling = item.sampling) : DeadbandItem b t d item' := by
  have hsame := SameSampling.of_eq hsampling
  have hplain := congrArg MonitoredItem.hasAggregate hsampling
  refine ⟨hplain.trans h.plain, hsame.trigger.trans h.trigger, hsame.deadbandType.trans h.deadbandType,
    hsame.deadbandValue.trans h.deadbandValue, fun hvalue => ?_⟩
  rw [hsame.lastStatus, hsame.lastValue]
  exact h.recorded (hsame.hasValue.symm.trans hvalue)

theorem enqueueReport_waits (b : Build) (item : MonitoredItem W) (cur : Variant) (status : StatusCode) :
    (item.enqueueReport b cur status).waits = false := by
  have hpending : (item.enqueueReport b cur status).pending =
      decide ((item.enqueueReport b cur status).queueCount > 0) := rfl
  rw [MonitoredItem.waits, hpending]
  by_cases hzero : (item.enqueueReport b cur status).queueCount = 0
  · rw [hzero]
    rfl
  · simp [hzero]

theorem Referenced.enqueue (h : IntegerValue t cur x) (status : StatusCode) (log : List Report)
    (hvalue : item.lastValue = cur) (hstatus : item.lastStatus = status) (hhas : item.hasValue = true) :
    Referenced b (item.enqueueReport b cur status) (log ++ [⟨cur, status⟩]) := by
  have hsame := SameSampling.of_eq (enqueueReport_sampling b item cur status)
  have hreference := enqueueReport_reference b item cur status
  rw [h.numeric b.double] at hreference
  refine ⟨enqueueReport_waits b item cur status, fun hnone => ?_, fun _ => ?_, fun _ => ?_, fun _ => ?_⟩
  · rw [hsame.hasValue, hhas] at hnone
    cases hnone
  · exact congrArg Prod.snd hreference
  · have hnumeric := congrArg Prod.fst hreference
    rw [hsame.lastValue, hvalue, h.numeric b.double]
    exact congrArg some hnumeric.symm
  · rw [hsame.lastValue, hsame.lastStatus, hvalue, hstatus, List.getLast?_concat]

theorem Referenced.prepare (hitem : DeadbandItem b t d item) (h : Tracks b item log) :
    Referenced b (item.preparePendingQueue b) (log ++ item.waiting) := by
  unfold MonitoredItem.waiting
  obtain ⟨hwaits, rfl⟩ | hreferenced := h
  · have hhas : item.hasValue = true := by
      simp only [MonitoredItem.waits, Bool.and_eq_true] at hwaits
      exact hwaits.2
    obtain ⟨-, y, hinteger⟩ := hitem.recorded hhas
    rw [if_pos hwaits, preparePendingQueue_waits hwaits]
    exact Referenced.enqueue hinteger item.lastStatus [] rfl rfl hhas
  · have hsame : item.preparePendingQueue b = item := by
      have hwaits := hreferenced.waits
      unfold MonitoredItem.waits at hwaits
      rw [MonitoredItem.preparePendingQueue, hwaits, if_neg Bool.false_ne_true]
      refine if_neg (fun hunreported => ?_)
      simp only [Bool.and_eq_true, Bool.not_eq_true'] at hunreported
      cases hunreported.2.symm.trans (hreferenced.reported hunreported.1)
    rwa [hsame, hreferenced.waits, if_neg Bool.false_ne_true, List.append_nil]

theorem Referenced.drain (h : Referenced b item log) (n : Nat) :
    Referenced b (item.drainReportedEntries b n).1 log := by
  obtain ⟨hsampling, hreference⟩ := drainReportedEntries_sampling b item n
  have hsame := SameSampling.of_eq hsampling
  have hreported := congrArg Prod.snd hreference
  have hnumeric := congrArg Prod.fst hreference
  refine ⟨?_, fun hnone => h.first (hsame.hasValue.symm.trans hnone), fun hhas => ?_,
    fun hhas => ?_, fun hhas => ?_⟩
  · simp only [MonitoredItem.drainReportedEntries]
    split
    · rfl
    · rename_i hleft
      simp [MonitoredItem.waits, hleft]
  · exact hreported.trans (h.reported (hsame.hasValue.symm.trans hhas))
  · rw [hsame.lastValue]
    exact (h.reference (hsame.hasValue.symm.trans hhas)).trans (congrArg some hnumeric.symm)
  · rw [hsame.lastValue, hsame.lastStatus]
    exact h.last (hsame.hasValue.symm.trans hhas)

theorem DeadbandItem.record (h : DeadbandItem b t d item) (hcur : IntegerValue t cur x) :
    DeadbandItem b t d { item with lastValue := cur, lastStatus := good, hasValue := true } :=
  ⟨h.plain, h.trigger, h.deadbandType, h.deadbandValue, fun _ => ⟨rfl, x, hcur⟩⟩

theorem DeadbandItem.prepare (h : DeadbandItem b t d item) :
    DeadbandItem b t d (item.preparePendingQueue b) :=
  h.congr (preparePendingQueue_sampling b item)

theorem sampleReport_cases (hexact : b.double.Exact) (hd : d ≤ 2 ^ 32) (hitem : DeadbandItem b t d item)
    (h : Referenced b item log) (hcur : IntegerValue t cur x) (hhas : item.hasValue = true) :
    ∃ y, IntegerValue t item.lastValue y ∧
      (item.sampleReport b cur good = [⟨cur, good⟩] ∧ (d : Int) ≤ |x - y| ∧
          item.sampleChanged cur good = true ∧ item.changeReportable b.double cur good = true ∨
        item.sampleReport b cur good = [] ∧ (|x - y| < d ∨ x = y)) := by
  obtain ⟨hstatus, y, hlast⟩ := hitem.recorded hhas
  have hchanged : item.sampleChanged cur good = true ↔ x ≠ y := by
    rw [MonitoredItem.sampleChanged, hitem.trigger, hstatus]
    simp [← hcur.equal_iff hlast]
  have hreportable : item.changeReportable b.double cur good = true ↔ (d : Int) ≤ |x - y| := by
    have hreference := h.reference hhas
    rw [hlast.numeric b.double] at hreference
    rw [MonitoredItem.changeReportable, h.reported hhas, hstatus, hitem.deadbandType,
      hcur.numeric b.double, hlast.numeric b.double, hitem.deadbandValue, ← Option.some.inj hreference]
    simpa using deadband_exact hexact hd hcur.bound hlast.bound
  refine ⟨y, hlast, ?_⟩
  unfold MonitoredItem.sampleReport
  by_cases hreports : x ≠ y ∧ (d : Int) ≤ |x - y|
  · have hboth := And.intro (hchanged.mpr hreports.1) (hreportable.mpr hreports.2)
    exact .inl ⟨if_pos (by simp [hboth]), hreports.2, hboth⟩
  · refine .inr ⟨if_neg ?_, ?_⟩
    · rw [hhas, Bool.not_true, Bool.false_or, Bool.and_eq_true, hchanged, hreportable]
      exact hreports
    · by_cases heq : x = y
      · exact .inr heq
      · exact .inl (not_le.mp (fun hle => hreports ⟨heq, hle⟩))

theorem Referenced.sample (hexact : b.double.Exact) (hd : d ≤ 2 ^ 32) (hitem : DeadbandItem b t d item)
    (h : Tracks b item log) (hcur : IntegerValue t cur x) :
    DeadbandItem b t d (item.recordSampleStandard b cur good) ∧
      Referenced b (item.recordSampleStandard b cur good)
        (log ++ (item.waiting ++ (item.preparePendingQueue b).sampleReport b cur good)) := by
  have hprepared := Referenced.prepare hitem h
  have hready := hitem.prepare
  have hsame := SameSampling.of_eq (preparePendingQueue_sampling b item)
  rw [← List.append_assoc]
  by_cases hhas : item.hasValue = true
  · have hkept : (item.preparePendingQueue b).hasValue = true := hsame.hasValue.trans hhas
    have hrecorded := hready.record hcur
    rw [← hkept] at hrecorded
    obtain ⟨y, -, ⟨hreport, -, hchanged, hreportable⟩ | ⟨hreport, -⟩⟩ :=
      sampleReport_cases hexact hd hready hprepared hcur hkept
    · rw [recordSampleStandard_eq hhas, hreport]
      dsimp only
      rw [if_pos hchanged, if_pos hreportable]
      exact ⟨hrecorded.congr (enqueueReport_sampling b _ cur good), .enqueue hcur good _ rfl rfl hkept⟩
    · have hquiet : ¬ ((item.preparePendingQueue b).sampleChanged cur good = true ∧
          (item.preparePendingQueue b).changeReportable b.double cur good = true) := by
        intro hboth
        rw [MonitoredItem.sampleReport, if_pos (by simp [hboth])] at hreport
        cases hreport
      have hunchanged : item.recordSampleStandard b cur good = item.preparePendingQueue b := by
        rw [recordSampleStandard_eq hhas]
        dsimp only
        split
        · rename_i hchanged
          exact if_neg (fun hreportable => hquiet ⟨hchanged, hreportable⟩)
        · rfl
      rw [hunchanged, hreport, List.append_nil]
      exact ⟨hready, hprepared⟩
  · have hnone : item.hasValue = false := by simpa using hhas
    have hreport : (item.preparePendingQueue b).sampleReport b cur good = [⟨cur, good⟩] :=
      if_pos (by rw [hsame.hasValue, hnone]; rfl)
    rw [recordSampleStandard_first hnone, hreport]
    exact ⟨(hitem.record hcur).congr (enqueueReport_sampling b _ cur good),
      .enqueue hcur good _ rfl rfl rfl⟩

def ItemOp.Reads (t : UInt8) (item : MonitoredItem W) : ItemOp W → Prop
  | .sample _ w | .publish (some w) _ =>
    ∃ cur x, (item.readValue.run w).1 = (good, cur) ∧ IntegerValue t cur x
  | .publish none _ => True

theorem preparePendingQueue_readValue (b : Build) (item : MonitoredItem W) :
    (item.preparePendingQueue b).readValue = item.readValue := by
  have hsampling := preparePendingQueue_sampling b item
  have hnode := congrArg MonitoredItem.resolvedNode hsampling
  have hid := congrArg MonitoredItem.nodeId hsampling
  change (item.preparePendingQueue b).resolvedNode = item.resolvedNode at hnode
  change (item.preparePendingQueue b).nodeId = item.nodeId at hid
  rw [MonitoredItem.readValue, MonitoredItem.readValue, hnode, hid]

theorem Referenced.drains (hitem : DeadbandItem b t d item) (h : Referenced b item log)
    (drains : List Nat) :
    DeadbandItem b t d (drains.foldl (fun item n => (item.drainReportedEntries b n).1) item) ∧
      Referenced b (drains.foldl (fun item n => (item.drainReportedEntries b n).1) item) log := by
  induction drains generalizing item with
  | nil => exact ⟨hitem, h⟩
  | cons n drains ih => exact ih (hitem.congr (drainReportedEntries_sampling b item n).1) (h.drain n)

theorem Referenced.publish (hitem : DeadbandItem b t d item) (h : Tracks b item log) {resend : Option W}
    {drains : List Nat} (hreads : (ItemOp.publish resend drains).Reads t item) :
    DeadbandItem b t d (item.publish b resend drains) ∧
      Referenced b (item.publish b resend drains)
      (log ++ (ItemOp.publish resend drains).enqueued b item) := by
  have hprepared := Referenced.prepare hitem h
  have hready := hitem.prepare
  unfold MonitoredItem.publish ItemOp.enqueued
  rw [← List.append_assoc]
  cases resend with
  | none =>
    rw [List.append_nil]
    exact hprepared.drains hready drains
  | some w =>
    obtain ⟨cur, x, hread, hcur⟩ := hreads
    have hresend : (((item.preparePendingQueue b).resend b).run w).1 =
        ({ item.preparePendingQueue b with
          lastValue := cur, lastStatus := good, hasValue := true }).enqueueReport b cur good := by
      simp only [MonitoredItem.resend, run_bind, run_pure, preparePendingQueue_readValue, hread, if_true]
    have hreport : (item.preparePendingQueue b).resendReport w = ⟨cur, good⟩ := by
      simp only [MonitoredItem.resendReport, preparePendingQueue_readValue, hread, if_true]
    dsimp only
    rw [hresend, hreport]
    exact Referenced.drains ((hready.record hcur).congr (enqueueReport_sampling b _ cur good))
      (.enqueue hcur good _ rfl rfl rfl) drains

/-- The life of an item that was created with trigger StatusValue and an absolute deadband of `d`, whose
reads give GOOD integers of type `t`, with the log of what was put into its queue. -/
inductive DeadbandRun (b : Build) (t : UInt8) (d : Nat) : MonitoredItem W → List Report → Prop where
  | created (subscriptionId id : UInt32) (body : MonitoredItemCreateBody) (node : Node W)
    (nowMs : UInt64) (w : W)
      (htrigger : body.filter.trigger = .statusValue) (htype : body.filter.deadbandType = .absolute)
      (hvalue : body.filter.deadbandValue = b.double.ofInt d) (hplain : body.filter.hasAggregate = false)
      (hfirst : (createdItem b subscriptionId id body node nowMs w).hasValue = true →
        ∃ y, IntegerValue t (createdItem b subscriptionId id body node nowMs w).lastValue y) :
      DeadbandRun b t d (createdItem b subscriptionId id body node nowMs w) []
  | step {item : MonitoredItem W} {log : List Report} (h : DeadbandRun b t d item log) (op : ItemOp W)
      (hreads : op.Reads t item) : DeadbandRun b t d (op.run b item) (log ++ op.enqueued b item)

theorem createdItem_deadband (hstd : b.subscriptionsStandard = true) (subId id : UInt32)
    (body : MonitoredItemCreateBody) (node : Node W) (nowMs : UInt64) (w : W)
    (htrigger : body.filter.trigger = .statusValue) (htype : body.filter.deadbandType = .absolute)
    (hvalue : body.filter.deadbandValue = b.double.ofInt d) (hplain : body.filter.hasAggregate = false)
    (hfirst : (createdItem b subId id body node nowMs w).hasValue = true →
      ∃ y, IntegerValue t (createdItem b subId id body node nowMs w).lastValue y) :
    DeadbandItem b t d (createdItem b subId id body node nowMs w) ∧
      Tracks b (createdItem b subId id body node nowMs w) [] := by
  have hcases := initialSample_cases body node (fillItem b body node nowMs (allocatedItem b subId id)) w
  unfold createdItem at hfirst ⊢
  simp only [fillItem, if_pos hstd] at hcases hfirst ⊢
  obtain hsame | ⟨-, status, value, hsame⟩ := hcases
  · rw [hsame] at hfirst ⊢
    refine ⟨⟨hplain, htrigger, htype, hvalue, by rintro ⟨⟩⟩, .inr ⟨rfl, fun _ => rfl, ?_, ?_, ?_⟩⟩
    all_goals rintro ⟨⟩
  · rw [hsame] at hfirst ⊢
    refine ⟨⟨hplain, htrigger, htype, hvalue, fun hgood => ⟨of_decide_eq_true hgood, hfirst hgood⟩⟩, ?_⟩
    by_cases hgood : status = good
    · refine .inl ⟨?_, rfl⟩
      rw [hgood]
      rfl
    · have hnone : decide (status = good) = false := decide_eq_false hgood
      refine .inr ⟨?_, fun _ => rfl, fun hhas => ?_, fun hhas => ?_, fun hhas => ?_⟩
      · simp only [MonitoredItem.waits, hnone, Bool.and_false]
      · cases hnone.symm.trans hhas
      · cases hnone.symm.trans hhas
      · cases hnone.symm.trans hhas

theorem DeadbandRun.tracks (hstd : b.subscriptionsStandard = true) (hexact : b.double.Exact)
    (hd : d ≤ 2 ^ 32) (h : DeadbandRun b t d item log) :
    DeadbandItem b t d item ∧ Tracks b item log := by
  induction h with
  | created subId id body node nowMs w htrigger htype hvalue hplain hfirst =>
    exact createdItem_deadband hstd subId id body node nowMs w htrigger htype hvalue hplain hfirst
  | @step item log _ op hreads ih =>
    obtain ⟨hitem, htracks⟩ := ih
    cases op with
    | publish resend drains =>
      obtain ⟨hitem, hreferenced⟩ := Referenced.publish hitem htracks hreads
      exact ⟨hitem, .inr hreferenced⟩
    | sample nowMs w =>
      obtain ⟨cur, x, hread, hcur⟩ := hreads
      simp only [ItemOp.run, ItemOp.enqueued]
      by_cases hsampled : item.Sampled b nowMs
      · obtain ⟨next, hsample⟩ := sample_plain hsampled hitem.plain w
        obtain ⟨hnew, hreferenced⟩ := Referenced.sample hexact hd hitem htracks hcur
        rw [if_pos hsampled, hsample, hread]
        dsimp only
        rw [if_pos hstd]
        exact ⟨⟨hnew.plain, hnew.trigger, hnew.deadbandType, hnew.deadbandValue, hnew.recorded⟩,
          .inr ⟨hreferenced.waits, hreferenced.first, hreferenced.reported, hreferenced.reference,
            hreferenced.last⟩⟩
      · rw [if_neg hsampled, sample_idle hitem.plain hsampled, List.append_nil]
        exact ⟨hitem, htracks⟩

/-- A sample is put into the queue if it is the first value or at least the deadband away from the value
that was put there last, and is left out only if it is nearer than that or equal. -/
theorem deadband_reports_drift (hstd : b.subscriptionsStandard = true) (hexact : b.double.Exact)
    (hd : d ≤ 2 ^ 32) (hrun : DeadbandRun b t d item log) (hsampled : item.Sampled b nowMs)
    (hread : (item.readValue.run w).1 = (good, cur)) (hcur : IntegerValue t cur x) :
    let before := log ++ item.waiting
    let report := (item.preparePendingQueue b).sampleReport b cur good
    ((item.sample b nowMs).run w).1.cells = (item.enqueueAll b (item.waiting ++ report)).cells ∧
      (report = [⟨cur, good⟩] ∨ report = [] ∧
        ∃ r y, before.getLast? = some r ∧ IntegerValue t r.value y ∧ (|x - y| < d ∨ |x - y| = 0)) ∧
      (report ≠ [] → ∀ r, before.getLast? = some r → ∃ y, IntegerValue t r.value y ∧
          (d : Int) ≤ |x - y|) := by
  intro before report
  obtain ⟨hitem, htracks⟩ := hrun.tracks hstd hexact hd
  have hprepared : Referenced b (item.preparePendingQueue b) before := Referenced.prepare hitem htracks
  have hcells := ItemOp.enqueued_cells hstd hitem.plain (.sample nowMs w)
  simp only [ItemOp.enqueued, ItemOp.run, if_pos hsampled, hread] at hcells
  refine ⟨hcells, ?_⟩
  by_cases hhas : (item.preparePendingQueue b).hasValue = true
  · have hlast := hprepared.last hhas
    obtain ⟨y, hy, ⟨hreport, hfar, -⟩ | ⟨hreport, hnear⟩⟩ :=
      sampleReport_cases hexact hd hitem.prepare hprepared hcur hhas
    · refine ⟨.inl hreport, fun _ r hr => ?_⟩
      cases hlast.symm.trans hr
      exact ⟨y, hy, hfar⟩
    · refine ⟨.inr ⟨hreport, _, y, hlast, hy, ?_⟩, fun hne => absurd hreport hne⟩
      exact hnear.imp_right (fun heq => by rw [heq, sub_self, abs_zero])
  · have hnone : (item.preparePendingQueue b).hasValue = false := by simpa using hhas
    have hreport : report = [⟨cur, good⟩] := if_pos (by rw [hnone]; rfl)
    refine ⟨.inl hreport, fun _ r hr => ?_⟩
    rw [hprepared.first hnone] at hr
    cases hr

namespace EngineScript

def offsetOps : DoubleOps where
  ofInt n := UInt64.ofNat (n + 2 ^ 62).toNat
  ofFloat v := v.toUInt64
  add x y := x + y
  sub x y := UInt64.ofNat (x.toNat + 2 ^ 62 - y.toNat)
  div x _ := x
  abs x := if x.toNat < 2 ^ 62 then UInt64.ofNat (2 ^ 63 - x.toNat) else x
  lt x y := x < y
  le x y := x ≤ y

theorem offsetOps_toNat {n : Int} (h : |n| ≤ 2 ^ 53) :
    (offsetOps.ofInt n).toNat = (n + 2 ^ 62).toNat := by
  rw [abs_le] at h
  change (UInt64.ofNat (n + 2 ^ 62).toNat).toNat = _
  rw [UInt64.toNat_ofNat', Nat.mod_eq_of_lt (by omega)]

theorem offsetOps_exact : offsetOps.Exact := by
  refine ⟨fun x y hx hy _ => ?_, fun x hx => ?_, fun x y hx hy => ?_⟩
  · change UInt64.ofNat ((offsetOps.ofInt x).toNat + 2 ^ 62 - (offsetOps.ofInt y).toNat) = _
    rw [offsetOps_toNat hx, offsetOps_toNat hy]
    change _ = UInt64.ofNat (x - y + 2 ^ 62).toNat
    rw [abs_le] at hx hy
    congr 1
    omega
  · change (if (offsetOps.ofInt x).toNat < 2 ^ 62 then UInt64.ofNat (2 ^ 63 - (offsetOps.ofInt x).toNat)
      else offsetOps.ofInt x) = UInt64.ofNat (|x| + 2 ^ 62).toNat
    rw [offsetOps_toNat hx]
    obtain hnonneg | hneg := le_or_gt 0 x
    · rw [if_neg (by omega), abs_of_nonneg hnonneg]
      rfl
    · rw [abs_le] at hx
      rw [if_pos (by omega), abs_of_neg hneg]
      congr 1
      omega
  · change decide (offsetOps.ofInt x ≤ offsetOps.ofInt y) = true ↔ _
    rw [decide_eq_true_eq, UInt64.le_iff_toNat_le, offsetOps_toNat hx, offsetOps_toNat hy]
    rw [abs_le] at hx hy
    omega

def offsetBuild : Build := { build with double := offsetOps }

def deadbandOf3 : MonitoredItemCreateBody :=
  { queueOf 4 with
    filter := { FilterBody.default with
      trigger := .statusValue, deadbandType := .absolute, deadbandValue := offsetOps.ofInt 3 } }

def worldNode : Node UInt32 := ⟨some (.callback fun _ w => ((good, .scalar (.uint32 w)), w))⟩

/-- The item is created at the value 5 and drifts: 6, a message takes the 5, then 7. -/
def drifting : MonitoredItem UInt32 :=
  [ItemOp.sample 100 6, .publish none [1], .sample 200 7].foldl (fun item op => op.run offsetBuild item)
    (createdItem offsetBuild 1 1 deadbandOf3 worldNode 0 5)

/-- At 8 the drift is as large as the deadband, although no step of it was. -/
theorem deadband_reports_drift_eight : drifting.queueCount = 0 ∧
      (drifting.preparePendingQueue offsetBuild).sampleReport offsetBuild (.scalar (.uint32 8)) good ≠
      [] ∧
      ∃ y, IntegerValue 7 (.scalar (.uint32 5)) y ∧ 3 ≤ |8 - y| := by
  have hint (n : UInt32) : IntegerValue 7 (.scalar (.uint32 n)) n.toNat := ⟨.uint32 n, rfl, rfl, rfl⟩
  have hcreated :
      DeadbandRun offsetBuild 7 3 (createdItem offsetBuild 1 1 deadbandOf3 worldNode 0 5) [] :=
    .created 1 1 deadbandOf3 worldNode 0 5 rfl rfl rfl rfl (fun _ => ⟨5, hint 5⟩)
  have hfirst := hcreated.step (.sample 100 6) ⟨_, 6, by decide +kernel, hint 6⟩
  have hsent := hfirst.step (.publish none [1]) trivial
  have hrun := hsent.step (.sample 200 7) ⟨_, 7, by decide +kernel, hint 7⟩
  have hreport :
      (drifting.preparePendingQueue offsetBuild).sampleReport offsetBuild (.scalar (.uint32 8)) good ≠
      [] := by
    decide +kernel
  have hsampled : drifting.Sampled offsetBuild 300 := by decide +kernel
  have hread : (drifting.readValue.run 8).1 = (good, .scalar (.uint32 8)) := by decide +kernel
  have hdrift := deadband_reports_drift rfl offsetOps_exact (by decide) hrun hsampled hread (hint 8)
  exact ⟨by decide +kernel, hreport, hdrift.2.2 hreport ⟨.scalar (.uint32 5), good⟩ (by decide +kernel)⟩

end EngineScript

end Runs

end MicroOpcua

import MicroOpcua.Lib.Rounding
import MicroOpcua.Spec.Deadband

namespace MicroOpcua

open Lib.Rounding Lib.StateRun

variable {W : Type} {b : Build} {item : MonitoredItem W} {nowMs : UInt64}

section Ticks

def MonitoredItem.calculationDue (b : Build) (nowMs : UInt64) (item : MonitoredItem W) : Bool :=
  b.double.le item.aggregateState.processingInterval
    (b.double.ofInt (nowMs - item.aggregateState.lastCalculation).toNat)

def MonitoredItem.aggregateSample (b : Build) (item : MonitoredItem W) (cur : Variant)
    (status : StatusCode) (nowMs : UInt64) : MonitoredItem W :=
  let item := if status = good then item.accumulateAggregate b.double cur else item
  ({ item with lastValue := cur, lastStatus := status, hasValue := true }).advanceSampleTimer nowMs

/-- A published aggregate starts the accumulator anew. -/
theorem publishAggregate_state (b : Build) (item : MonitoredItem W) (nowMs : UInt64) :
    (item.publishAggregate b nowMs).aggregateState =
      { item.aggregateState with
        sampleCount := 0, sum := 0, extreme := .null, lastCalculation := nowMs } := by
  have hstate := congrArg MonitoredItem.aggregateState (enqueueReport_sampling b item
    (item.aggregateResult b.double).value (item.aggregateResult b.double).status)
  change _ = item.aggregateState at hstate
  rw [← hstate]
  rfl

theorem publishAggregate_frame (b : Build) (item : MonitoredItem W) (nowMs : UInt64) :
    (item.publishAggregate b nowMs).nextSampleMs = item.nextSampleMs ∧
      (item.publishAggregate b nowMs).attributeId = item.attributeId ∧
      (item.publishAggregate b nowMs).hasAggregate = item.hasAggregate ∧
      (item.publishAggregate b nowMs).readValue = item.readValue := by
  have hsampling := enqueueReport_sampling b item (item.aggregateResult b.double).value
    (item.aggregateResult b.double).status
  have hnext := congrArg MonitoredItem.nextSampleMs hsampling
  have hattribute := congrArg MonitoredItem.attributeId hsampling
  have haggregate := congrArg MonitoredItem.hasAggregate hsampling
  have hread := congrArg MonitoredItem.readValue hsampling
  exact ⟨hnext, hattribute, haggregate, hread⟩

/-- A tick on an aggregating item publishes the aggregate if its interval has passed, and then takes in
the sample. -/
theorem sample_aggregate (hsampled : item.Sampled b nowMs) (hstd : b.subscriptionsStandard = true)
    (haggregate : item.hasAggregate = true) (w : W) :
    (item.sample b nowMs).run w =
      ((if item.calculationDue b nowMs then item.publishAggregate b nowMs else item).aggregateSample b
        (item.readValue.run w).1.2 (item.readValue.run w).1.1 nowMs, (item.readValue.run w).2) := by
  have hdue : ¬ nowMs < item.nextSampleMs := UInt64.not_lt.mpr hsampled.due
  have hdata : ¬ (b.events && item.attributeId = MonitoredItem.eventNotifierAttribute) = true := by
    rw [Bool.and_eq_true, decide_eq_true_eq]
    exact hsampled.data
  obtain ⟨hnext, hattribute, hstill, hread⟩ := publishAggregate_frame b item nowMs
  by_cases hcalculate : item.calculationDue b nowMs = true
  · rw [if_pos hcalculate]
    unfold MonitoredItem.calculationDue at hcalculate
    simp only [MonitoredItem.sample, if_neg hsampled.enabled, hstd, haggregate, hstill,
      hcalculate, Bool.and_self,
      if_true, hnext, if_neg hdue, hattribute, if_neg hdata, hread, run_bind]
    rfl
  · rw [if_neg hcalculate]
    unfold MonitoredItem.calculationDue at hcalculate
    simp only [MonitoredItem.sample, if_neg hsampled.enabled, hstd, haggregate,
      Bool.and_self, Bool.true_and,
      if_neg hcalculate, if_true, if_neg hdue, if_neg hdata, run_bind]
    rfl

end Ticks

section Integers

variable {t : UInt8} {x y m : Int}

def Scalar.int? : Scalar → Option Int
  | .int64 v => some v.toBitVec.toInt
  | .uint64 v => some v.toNat
  | v => v.smallInt?

/-- A conversion from an integer rounds to nearest even at 53 bits, and comparisons are exact. -/
def DoubleOps.Rounds (d : DoubleOps) : Prop :=
  ∀ x y : Int, -2 ^ 63 ≤ x → x < 2 ^ 64 → -2 ^ 63 ≤ y → y < 2 ^ 64 →
    (d.lt (d.ofInt x) (d.ofInt y) = true ↔ roundInt 53 x < roundInt 53 y)

def WideInteger (t : UInt8) (value : Variant) (x : Int) : Prop :=
  ∃ v, value = .scalar v ∧ v.type = t ∧ v.int? = some x

variable {value : Variant}

theorem WideInteger.bounds (h : WideInteger t value x) : -2 ^ 63 ≤ x ∧ x < 2 ^ 64 := by
  obtain ⟨v, hv, htype, hint⟩ := h
  cases v with
  | int64 v =>
    obtain rfl := Option.some.inj hint
    have := v.toBitVec.toInt_lt
    have := v.toBitVec.le_toInt
    omega
  | uint64 v =>
    obtain rfl := Option.some.inj hint
    have := v.toNat_lt
    omega
  | _ =>
    have hsmall := abs_le.mp (IntegerValue.bound ⟨_, hv, htype, hint⟩)
    omega

theorem WideInteger.numeric (h : WideInteger t value x) (d : DoubleOps) :
    variantNumericToDouble d value = some (d.ofInt x) := by
  obtain ⟨v, rfl, -, hint⟩ := h
  cases v <;> cases hint <;> rfl

theorem WideInteger.unique (h : WideInteger t value x) (h' : WideInteger t value y) : x = y := by
  obtain ⟨v, rfl, -, hx⟩ := h
  obtain ⟨v', hv, -, hy⟩ := h'
  cases hv
  exact Option.some.inj (hx.symm.trans hy)

end Integers

section Extremes

inductive Extreme where
  | minimum
  | maximum

namespace Extreme

def aggregateType : Extreme → UInt32
  | .minimum => MonitoredItem.aggregateMinimum
  | .maximum => MonitoredItem.aggregateMaximum

def le : Extreme → Int → Int → Prop
  | .minimum, x, y => x ≤ y
  | .maximum, x, y => y ≤ x

def better (d : DoubleOps) : Extreme → UInt64 → UInt64 → Bool
  | .minimum => fun new old => d.lt new old
  | .maximum => fun new old => d.lt old new

def key : Extreme → Int → Int
  | .minimum, x => roundInt 53 x
  | .maximum, x => -roundInt 53 x

variable {k : Extreme} {x y : Int}

theorem key_mono (h : k.le x y) : k.key x ≤ k.key y := by
  cases k with
  | minimum => exact roundInt_mono (by decide) h
  | maximum => exact Int.neg_le_neg (roundInt_mono (by decide) h)

theorem key_eq_iff : k.key x = k.key y ↔ roundInt 53 x = roundInt 53 y := by
  cases k with
  | minimum => exact Iff.rfl
  | maximum => exact neg_inj

theorem better_iff {d : DoubleOps} (h : d.Rounds) (hx : -2 ^ 63 ≤ x ∧ x < 2 ^ 64)
    (hy : -2 ^ 63 ≤ y ∧ y < 2 ^ 64) : k.better d (d.ofInt x) (d.ofInt y) = true ↔ k.key x < k.key y := by
  cases k with
  | minimum => exact h x y hx.1 hx.2 hy.1 hy.2
  | maximum =>
    refine (h y x hy.1 hy.2 hx.1 hx.2).trans ?_
    change _ ↔ -_ < -_
    exact neg_lt_neg_iff.symm

end Extreme

/-- The samples since the 32-bit sample counter was last 0. -/
def sinceWrap (xs : List Int) : List Int := xs.drop (xs.length - xs.length % 2 ^ 32)

/-- The samples that count when an aggregate is published: if the sample counter has come round to 0, the
last. -/
def counted (xs : List Int) : List Int :=
  if xs.length % 2 ^ 32 = 0 then xs.drop (xs.length - 1) else sinceWrap xs

variable {k : Extreme} {t : UInt8} {xs : List Int} {x : Int} {cur : Variant}

structure Accumulates (k : Extreme) (t : UInt8) (item : MonitoredItem W) (xs : List Int) : Prop where
  type : item.aggregateState.aggregateType = k.aggregateType
  count : item.aggregateState.sampleCount.toNat = xs.length % 2 ^ 32
  extreme : xs.length % 2 ^ 32 ≠ 0 →
    ∃ x, WideInteger t item.aggregateState.extreme x ∧ (sinceWrap xs).argmin k.key = some x
  last : xs ≠ [] → item.hasValue = true ∧ item.lastStatus = good ∧
    ∃ x, WideInteger t item.lastValue x ∧ xs.getLast? = some x

theorem accumulateAggregate_state (d : DoubleOps) (item : MonitoredItem W) (hcur : WideInteger t cur x)
    (htype : item.aggregateState.aggregateType = k.aggregateType) :
    (item.accumulateAggregate d cur).aggregateState = { item.aggregateState with
        extreme := MonitoredItem.accumulateExtreme d (k.better d) item.aggregateState cur (d.ofInt x)
        sampleCount := item.aggregateState.sampleCount + 1 } := by
  rw [MonitoredItem.accumulateAggregate, hcur.numeric d]
  have haverage : ¬ item.aggregateState.aggregateType = MonitoredItem.aggregateAverage := by
    rw [htype]
    cases k <;> decide
  dsimp only
  rw [if_neg haverage]
  cases k with
  | minimum =>
    have hminimum : item.aggregateState.aggregateType = MonitoredItem.aggregateMinimum := htype
    rw [if_pos hminimum]
    rfl
  | maximum =>
    have hmaximum : item.aggregateState.aggregateType = MonitoredItem.aggregateMaximum := htype
    have hminimum : ¬ item.aggregateState.aggregateType = MonitoredItem.aggregateMinimum := by
      rw [htype]
      decide
    rw [if_neg hminimum, if_pos hmaximum]
    rfl

theorem sinceWrap_concat (xs : List Int) (x : Int) (h : (xs ++ [x]).length % 2 ^ 32 ≠ 0) :
    sinceWrap (xs ++ [x]) = if xs.length % 2 ^ 32 = 0 then [x] else sinceWrap xs ++ [x] := by
  have hmod : (xs.length + 1) % 2 ^ 32 = xs.length % 2 ^ 32 + 1 := by
    rw [List.length_append, List.length_singleton] at h
    omega
  have hle := Nat.mod_le xs.length (2 ^ 32)
  unfold sinceWrap
  rw [List.length_append, List.length_singleton, hmod,
    List.drop_append_of_le_length (by omega), show xs.length + 1 - (xs.length % 2 ^ 32 + 1) =
      xs.length - xs.length % 2 ^ 32 by omega]
  split
  · rename_i hzero
    rw [hzero, Nat.sub_zero, List.drop_length, List.nil_append]
  · rfl

theorem accumulateExtreme_spec {d : DoubleOps} (hd : d.Rounds) (st : AggregateState)
    (hcur : WideInteger t cur x) :
    (st.sampleCount = 0 → MonitoredItem.accumulateExtreme d (k.better d) st cur (d.ofInt x) = cur) ∧
      ∀ y, st.sampleCount ≠ 0 → WideInteger t st.extreme y →
        MonitoredItem.accumulateExtreme d (k.better d) st cur (d.ofInt x) =
          if k.key x < k.key y then cur else st.extreme := by
  refine ⟨fun hzero => if_pos hzero, fun y hcount hy => ?_⟩
  rw [MonitoredItem.accumulateExtreme, if_neg hcount, hy.numeric d]
  dsimp only
  by_cases hbetter : k.key x < k.key y
  · rw [if_pos hbetter, if_pos ((Extreme.better_iff hd hcur.bounds hy.bounds).mpr hbetter)]
  · rw [if_neg hbetter, if_neg (mt (Extreme.better_iff hd hcur.bounds hy.bounds).mp hbetter)]

theorem Accumulates.sample (hd : b.double.Rounds) (h : Accumulates k t item xs)
    (hcur : WideInteger t cur x) (nowMs : UInt64) :
    Accumulates k t (item.aggregateSample b cur good nowMs) (xs ++ [x]) := by
  obtain ⟨next, hnext⟩ := advanceSampleTimer_eq ({ item.accumulateAggregate b.double cur with
    lastValue := cur, lastStatus := good, hasValue := true } : MonitoredItem W) nowMs
  have hsample : item.aggregateSample b cur good nowMs = { item.accumulateAggregate b.double cur with
      lastValue := cur, lastStatus := good, hasValue := true, nextSampleMs := next } := by
    rw [MonitoredItem.aggregateSample, if_pos rfl]
    exact hnext
  have hstate := accumulateAggregate_state b.double item hcur h.type
  rw [hsample]
  refine ⟨?_, ?_, fun hne => ?_, fun _ => ⟨rfl, rfl, x, hcur, List.getLast?_concat⟩⟩
  · change (item.accumulateAggregate b.double cur).aggregateState.aggregateType = _
    rw [hstate]
    exact h.type
  · change (item.accumulateAggregate b.double cur).aggregateState.sampleCount.toNat = _
    rw [hstate, List.length_append, List.length_singleton]
    change (item.aggregateState.sampleCount + 1).toNat = _
    rw [UInt32.toNat_add, h.count]
    exact Nat.mod_add_mod ..
  · change ∃ x', WideInteger t (item.accumulateAggregate b.double cur).aggregateState.extreme x' ∧ _
    rw [hstate, sinceWrap_concat xs x hne]
    obtain ⟨hfirst, hlater⟩ := accumulateExtreme_spec (k := k) hd item.aggregateState hcur
    by_cases hzero : xs.length % 2 ^ 32 = 0
    · have hcount : item.aggregateState.sampleCount = 0 := UInt32.toNat_inj.mp (h.count.trans hzero)
      rw [if_pos hzero]
      exact ⟨x, (hfirst hcount).symm ▸ hcur, List.argmin_singleton⟩
    · have hcount : item.aggregateState.sampleCount ≠ 0 := by
        intro hcount
        rw [← h.count, hcount] at hzero
        exact hzero rfl
      obtain ⟨y, hy, hleast⟩ := h.extreme hzero
      rw [if_neg hzero, List.argmin_concat, hleast, hlater y hcount hy]
      dsimp only
      by_cases hbetter : k.key x < k.key y
      · rw [if_pos hbetter, if_pos hbetter]
        exact ⟨x, hcur, rfl⟩
      · rw [if_neg hbetter, if_neg hbetter]
        exact ⟨y, hy, rfl⟩

theorem Accumulates.published (htype : item.aggregateState.aggregateType = k.aggregateType)
    (nowMs : UInt64) : Accumulates k t (item.publishAggregate b nowMs) [] := by
  refine ⟨?_, ?_, fun h => absurd rfl h, fun h => absurd rfl h⟩
  · rw [publishAggregate_state]
    exact htype
  · rw [publishAggregate_state]
    rfl

/-- The ticks of `mu_subscriptions_tick` accumulate the samples of one interval after the other. -/
theorem Accumulates.tick (hd : b.double.Rounds) (h : Accumulates k t item xs)
    (hsampled : item.Sampled b nowMs) (hstd : b.subscriptionsStandard = true)
    (haggregate : item.hasAggregate = true) {w : W}
    (hread : (item.readValue.run w).1 = (good, cur)) (hcur : WideInteger t cur x) :
    Accumulates k t ((item.sample b nowMs).run w).1
      ((if item.calculationDue b nowMs then [] else xs) ++ [x]) := by
  rw [sample_aggregate hsampled hstd haggregate, hread]
  split
  · exact (Accumulates.published h.type nowMs).sample hd hcur nowMs
  · exact h.sample hd hcur nowMs

def MonitoredItem.aggregateRun (b : Build) (item : MonitoredItem W) (ticks : List (UInt64 × Variant)) :
    MonitoredItem W :=
  ticks.foldl (fun item tick => item.aggregateSample b tick.2 good tick.1) item

theorem Accumulates.run (hd : b.double.Rounds) {ticks : List (UInt64 × Variant)} {ys : List Int}
    (h : Accumulates k t item xs)
    (hticks : List.Forall₂ (fun tick y => WideInteger t tick.2 y) ticks ys) :
    Accumulates k t (item.aggregateRun b ticks) (xs ++ ys) := by
  induction hticks generalizing item xs with
  | nil => rwa [List.append_nil]
  | @cons tick y ticks ys htick _ ih =>
    have hrest := ih (h.sample hd htick tick.1)
    rwa [List.append_assoc] at hrest

/-- The result of an interval with samples is one of those that count, the first of the most extreme as
rounded. -/
theorem Accumulates.result (h : Accumulates k t item xs) (hne : xs ≠ []) :
    ∃ value x, item.aggregateResult b.double = ⟨value, good⟩ ∧ WideInteger t value x ∧
      (counted xs).argmin k.key = some x := by
  unfold counted MonitoredItem.aggregateResult
  by_cases hzero : xs.length % 2 ^ 32 = 0
  · have hcount : item.aggregateState.sampleCount = 0 := UInt32.toNat_inj.mp (h.count.trans hzero)
    obtain ⟨hhas, hstatus, x, hx, hlast⟩ := h.last hne
    dsimp only
    rw [if_pos hzero, if_pos hcount, if_pos hhas, hstatus]
    refine ⟨item.lastValue, x, rfl, hx, ?_⟩
    rw [List.drop_length_sub_one hne]
    rw [List.getLast?_eq_some_getLast hne] at hlast
    rw [Option.some.inj hlast]
    exact List.argmin_singleton
  · have hcount : ¬ item.aggregateState.sampleCount = 0 := by
      intro hcount
      rw [← h.count, hcount] at hzero
      exact hzero rfl
    have haverage : ¬ item.aggregateState.aggregateType = MonitoredItem.aggregateAverage := by
      rw [h.type]
      cases k <;> decide
    have hextreme : item.aggregateState.aggregateType = MonitoredItem.aggregateMinimum ∨
        item.aggregateState.aggregateType = MonitoredItem.aggregateMaximum := by
      rw [h.type]
      cases k
      · exact .inl rfl
      · exact .inr rfl
    obtain ⟨x, hx, hleast⟩ := h.extreme hzero
    dsimp only
    rw [if_neg hzero, if_neg hcount, if_neg haverage, if_pos hextreme]
    exact ⟨item.aggregateState.extreme, x, rfl, hx, hleast⟩

/-- The extreme `m` of an interval is published if and only if, of the samples that count, the first that
rounds to what `m` rounds to is `m` itself. -/
theorem aggregate_extreme_exact_iff (hd : b.double.Rounds) (k : Extreme) (t : UInt8)
    (htype : item.aggregateState.aggregateType = k.aggregateType)
    (hstart : item.aggregateState.sampleCount = 0)
    (ticks : List (UInt64 × Variant)) (xs : List Int)
    (hticks : List.Forall₂ (fun tick x => WideInteger t tick.2 x) ticks xs) (m : Int) (hmem : m ∈ xs)
    (hextreme : ∀ x ∈ xs, k.le m x) :
    (∃ value, (item.aggregateRun b ticks).aggregateResult b.double = ⟨value, good⟩ ∧
      WideInteger t value m) ↔ (counted xs).find? (fun x => roundInt 53 x = roundInt 53 m) = some m := by
  have hinitial : Accumulates k t item [] := by
    refine ⟨htype, ?_, fun h => absurd rfl h, fun h => absurd rfl h⟩
    rw [hstart]
    rfl
  have hrun := hinitial.run hd hticks
  rw [List.nil_append] at hrun
  obtain ⟨value, x, hresult, hx, hleast⟩ := hrun.result (b := b) (List.ne_nil_of_mem hmem)
  have hsubset : ∀ y ∈ counted xs, k.key m ≤ k.key y := by
    intro y hy
    apply Extreme.key_mono
    apply hextreme
    unfold counted sinceWrap at hy
    split at hy
    · exact List.mem_of_mem_drop hy
    · exact List.mem_of_mem_drop hy
  have hfirst := argmin_eq_some_iff hsubset
  simp only [Extreme.key_eq_iff] at hfirst
  rw [hresult, ← hfirst, hleast]
  constructor
  · rintro ⟨value', hvalue, hm⟩
    cases hvalue
    rw [hx.unique hm]
  · intro hsame
    cases hsame
    exact ⟨value, rfl, hx⟩

namespace EngineScript

/-- Rounded integers in place of doubles: those of more than 53 bits are even, and half of them is
stored. -/
def packed (r : Int) : Int :=
  if r < -2 ^ 53 then (r - 2 ^ 53) / 2 else if 2 ^ 53 < r then (r + 2 ^ 53) / 2 else r

def roundingOps : DoubleOps :=
  { offsetOps with ofInt := fun n => UInt64.ofNat (packed (roundInt 53 n) + (2 ^ 62 + 2 ^ 54)).toNat }

theorem roundInt_bounds {x : Int} (hlow : -2 ^ 63 ≤ x) (hhigh : x < 2 ^ 64) :
    -2 ^ 63 ≤ roundInt 53 x ∧ roundInt 53 x ≤ 2 ^ 64 := by
  have hleast : roundInt 53 (-2 ^ 63) = -2 ^ 63 := by decide
  have hgreatest : roundInt 53 (2 ^ 64) = 2 ^ 64 := by decide
  exact ⟨hleast ▸ roundInt_mono (by decide) hlow, hgreatest ▸ roundInt_mono (by decide) hhigh.le⟩

theorem roundInt_even {x : Int} (h : roundInt 53 x < -2 ^ 53 ∨ 2 ^ 53 < roundInt 53 x) :
    roundInt 53 x % 2 = 0 := by
  have hlarge : 2 ^ 53 ≤ x.natAbs := by
    by_contra hsmall
    have hsame : roundNat 53 x.natAbs = x.natAbs := roundNat_small (by decide) (by omega)
    unfold roundInt at h
    rw [hsame] at h
    split at h <;> omega
  have heven := roundNat_even hlarge
  unfold roundInt
  split <;> omega

theorem packed_lt_iff {r s : Int} (hs : s < -2 ^ 53 ∨ 2 ^ 53 < s → s % 2 = 0) :
    packed r < packed s ↔ r < s := by
  unfold packed
  split <;> split <;> (try split) <;> (try split) <;> omega

theorem roundingOps_rounds : roundingOps.Rounds := by
  intro x y hx hx' hy hy'
  have hbx := roundInt_bounds hx hx'
  have hby := roundInt_bounds hy hy'
  have hpacked := packed_lt_iff (r := roundInt 53 x) (roundInt_even (x := y))
  have hrange (r : Int) (h : -2 ^ 63 ≤ r ∧ r ≤ 2 ^ 64) :
      (UInt64.ofNat (packed r + (2 ^ 62 + 2 ^ 54)).toNat).toNat = (packed r + (2 ^ 62 + 2 ^ 54)).toNat ∧
        0 ≤ packed r + (2 ^ 62 + 2 ^ 54) := by
    have hbound : -(2 ^ 62 + 2 ^ 53) ≤ packed r ∧ packed r ≤ 2 ^ 63 + 2 ^ 53 := by
      unfold packed
      split
      · omega
      · split <;> omega
    rw [UInt64.toNat_ofNat', Nat.mod_eq_of_lt (by omega)]
    exact ⟨rfl, by omega⟩
  obtain ⟨hxNat, hxPos⟩ := hrange _ hbx
  obtain ⟨hyNat, hyPos⟩ := hrange _ hby
  change decide (UInt64.ofNat (packed (roundInt 53 x) + (2 ^ 62 + 2 ^ 54)).toNat <
    UInt64.ofNat (packed (roundInt 53 y) + (2 ^ 62 + 2 ^ 54)).toNat) = true ↔ _
  rw [decide_eq_true_eq, UInt64.lt_iff_toNat_lt, hxNat, hyNat, ← hpacked]
  omega

def roundingBuild : Build := { build with double := roundingOps }

def aggregating (k : Extreme) : MonitoredItem Unit :=
  { MonitoredItem.zero roundingBuild with
    hasAggregate := true, aggregateState :=
      { AggregateState.zero with aggregateType := k.aggregateType } }

theorem aggregate_extreme_exact_iff_small : ∃ value, ((aggregating .minimum).aggregateRun roundingBuild
        [(0, .scalar (.int32 9)), (50, .scalar (.int32 4)), (100, .scalar (.int32 6))]).aggregateResult
          roundingOps =
      ⟨value, good⟩ ∧ WideInteger 6 value 4 := by
  have hticks : List.Forall₂ (fun (tick : UInt64 × Variant) x => WideInteger 6 tick.2 x)
      [(0, .scalar (.int32 9)), (50, .scalar (.int32 4)), (100, .scalar (.int32 6))] [9, 4, 6] :=
    .cons ⟨_, rfl, rfl, rfl⟩ (.cons ⟨_, rfl, rfl, rfl⟩ (.cons ⟨_, rfl, rfl, rfl⟩ .nil))
  have htype : (aggregating .minimum).aggregateState.aggregateType = Extreme.minimum.aggregateType := rfl
  exact (aggregate_extreme_exact_iff (b := roundingBuild) roundingOps_rounds .minimum 6 htype rfl _
    [9, 4, 6] hticks 4 (by decide) (by simp [Extreme.le])).mpr (by decide)

/-- The minimum of 2 ^ 53 + 1 and 2 ^ 53 is published as 2 ^ 53 + 1. -/
theorem minimum_lost_in_rounding :
    let ticks :=
  [((0 : UInt64), Variant.scalar (.int64 9007199254740993)), (50, .scalar (.int64 9007199254740992))]
    WideInteger 8 (.scalar (.int64 9007199254740993)) 9007199254740993 ∧
      WideInteger 8 (.scalar (.int64 9007199254740992)) 9007199254740992 ∧
      ((aggregating .minimum).aggregateRun roundingBuild ticks).aggregateResult roundingOps =
        ⟨.scalar (.int64 9007199254740993), good⟩ := by
  refine ⟨⟨_, rfl, rfl, rfl⟩, ⟨_, rfl, rfl, rfl⟩, ?_⟩
  decide

end EngineScript

end Extremes

end MicroOpcua

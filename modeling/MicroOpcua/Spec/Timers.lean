import MicroOpcua.Lib.Exact
import MicroOpcua.Spec.ItemQueue

namespace MicroOpcua

open Lib.Exact

variable {W : Type} {interval next nowMs : UInt64}

abbrev lastTick : UInt64 := 0xFFFFFFFFFFFFFFFF

theorem toNat_lastTick : lastTick.toNat = 2 ^ 64 - 1 := rfl

section Exact

def sampleTimerExact (interval next nowMs : UInt64) : Option UInt64 :=
  match sub? nowMs next with
  | none => none
  | some elapsed =>
    if elapsed < interval then
      match sub? lastTick interval with
      | none => none
      | some limit => if next > limit then some lastTick else add? next interval
    else
      match add? (elapsed / interval) 1, sub? lastTick next with
      | some steps, some room =>
        if steps > room / interval then some lastTick else (mul? steps interval).bind (add? next)
      | _, _ => none

def publishTimerExact (interval next nowMs : UInt64) (hpos : 0 < interval) : Option UInt64 :=
  match sub? lastTick interval with
  | none => none
  | some limit =>
    if next > limit then some lastTick
    else match _hsum : add? next interval with
      | none => none
      | some sum => if sum ≤ nowMs then publishTimerExact interval sum nowMs hpos else some sum
termination_by lastTick.toNat - next.toNat
decreasing_by
  have hsum := (add?_eq_some _hsum).2
  have hpos := UInt64.lt_iff_toNat_lt.mp hpos
  have hbound := UInt64.toNat_lt sum
  change 0 < _ at hpos
  rw [toNat_lastTick]
  omega

theorem limit_exact (interval : UInt64) :
    sub? lastTick interval = some (lastTick - interval) ∧ (lastTick - interval).toNat =
      2 ^ 64 - 1 - interval.toNat := by
  have hbound := interval.toNat_lt
  exact sub?_exact (by rw [toNat_lastTick]; omega)

theorem publishTimerExact_last (hpos : 0 < interval) (h : next > lastTick - interval) :
    publishTimerExact interval next nowMs hpos = some lastTick := by
  rw [publishTimerExact, (limit_exact interval).1]
  exact if_pos h

theorem publishTimerExact_step (hpos : 0 < interval) (h : ¬ next > lastTick - interval)
    (hfits : next.toNat + interval.toNat < 2 ^ 64) :
    publishTimerExact interval next nowMs hpos =
      if next + interval ≤ nowMs then publishTimerExact interval (next + interval) nowMs hpos
      else some (next + interval) := by
  rw [publishTimerExact, (limit_exact interval).1]
  dsimp only
  rw [if_neg h]
  split
  · rename_i hnone
    cases hnone.symm.trans (add?_exact hfits).1
  · rename_i sum hsome
    cases hsome.symm.trans (add?_exact hfits).1
    rfl

end Exact

section Loop

theorem advancePublishTimerFrom_spec (hpos : 0 < interval) (hdue : next ≤ nowMs) :
    (advancePublishTimerFrom interval nowMs next hpos).toNat =
        min (firstDue interval.toNat next.toNat nowMs.toNat) (2 ^ 64 - 1) ∧
      publishTimerExact interval next nowMs hpos =
          some (advancePublishTimerFrom interval nowMs next hpos) := by
  have hposNat : 0 < interval.toNat := UInt64.lt_iff_toNat_lt.mp hpos
  have hnow := nowMs.toNat_lt
  have hlimit := (limit_exact interval).2
  have hsmall := interval.toNat_lt
  induction next using advancePublishTimerFrom.induct interval nowMs hpos with
  | case1 next hlast =>
    have hlt : 2 ^ 64 - 1 - interval.toNat < next.toNat := hlimit ▸ UInt64.lt_iff_toNat_lt.mp hlast
    have hle := UInt64.le_iff_toNat_le.mp hdue
    rw [advancePublishTimerFrom, dif_pos hlast]
    refine ⟨?_, publishTimerExact_last hpos hlast⟩
    rw [firstDue_of_lt hposNat (by omega), toNat_lastTick]
    omega
  | case2 next hroom hagain ih =>
    have hle : next.toNat ≤ 2 ^ 64 - 1 - interval.toNat :=
      hlimit ▸ UInt64.le_iff_toNat_le.mp (UInt64.not_lt.mp hroom)
    obtain ⟨-, hvalue⟩ := add?_exact (x := next) (y := interval) (by omega)
    have hagainNat := UInt64.le_iff_toNat_le.mp hagain
    rw [hvalue] at hagainNat
    obtain ⟨hreached, hexact⟩ := ih hagain
    rw [advancePublishTimerFrom, dif_neg hroom, if_pos hagain,
      publishTimerExact_step hpos hroom (by omega),
      if_pos hagain]
    refine ⟨?_, hexact⟩
    rw [hreached, hvalue, firstDue_step hposNat hagainNat]
  | case3 next hroom hdone =>
    have hle : next.toNat ≤ 2 ^ 64 - 1 - interval.toNat :=
      hlimit ▸ UInt64.le_iff_toNat_le.mp (UInt64.not_lt.mp hroom)
    obtain ⟨-, hvalue⟩ := add?_exact (x := next) (y := interval) (by omega)
    have hdoneNat := UInt64.lt_iff_toNat_lt.mp (UInt64.not_le.mp hdone)
    rw [hvalue] at hdoneNat
    rw [advancePublishTimerFrom, dif_neg hroom, if_neg hdone,
      publishTimerExact_step hpos hroom (by omega),
      if_neg hdone]
    refine ⟨?_, rfl⟩
    rw [hvalue, firstDue_of_lt hposNat hdoneNat]
    omega

end Loop

section Division

def sampleTimerFrom (interval next nowMs : UInt64) : UInt64 :=
  if nowMs - next < interval then if next > lastTick - interval then lastTick else next + interval
  else if (nowMs - next) / interval + 1 > (lastTick - next) / interval then lastTick
  else next + ((nowMs - next) / interval + 1) * interval

def timerInterval (interval : UInt32) : UInt64 := if interval = 0 then 1 else interval.toUInt64

theorem advanceSampleTimer_next (item : MonitoredItem W) (h : item.nextSampleMs ≤ nowMs) :
    (item.advanceSampleTimer nowMs).nextSampleMs =
      sampleTimerFrom (timerInterval item.samplingIntervalMs) item.nextSampleMs nowMs := by
  have hinterval : (if item.samplingIntervalMs = 0 then 1 else item.samplingIntervalMs.toUInt64) =
      timerInterval item.samplingIntervalMs := rfl
  simp only [MonitoredItem.advanceSampleTimer, if_pos h, hinterval, sampleTimerFrom]
  by_cases hnear : nowMs - item.nextSampleMs < timerInterval item.samplingIntervalMs
  · rw [if_pos hnear, if_pos hnear]
    by_cases hlast : item.nextSampleMs > lastTick - timerInterval item.samplingIntervalMs
    · rw [if_pos hlast, if_pos hlast]
    · rw [if_neg hlast, if_neg hlast]
  · rw [if_neg hnear, if_neg hnear]
    by_cases hlast : (nowMs - item.nextSampleMs) / timerInterval item.samplingIntervalMs + 1 >
        (lastTick - item.nextSampleMs) / timerInterval item.samplingIntervalMs
    · rw [if_pos hlast, if_pos hlast]
    · rw [if_neg hlast, if_neg hlast]

def stepsWrap (interval next nowMs : UInt64) : Prop := next = 0 ∧ nowMs = lastTick ∧ interval = 1

theorem sampleTimer_near (hdue : next ≤ nowMs) (hpos : 0 < interval) (hnear : nowMs - next < interval) :
    (sampleTimerFrom interval next nowMs).toNat =
        min (firstDue interval.toNat next.toNat nowMs.toNat) (2 ^ 64 - 1) ∧
      sampleTimerExact interval next nowMs = some (sampleTimerFrom interval next nowMs) := by
  have hdueNat := UInt64.le_iff_toNat_le.mp hdue
  have hposNat : 0 < interval.toNat := UInt64.lt_iff_toNat_lt.mp hpos
  have hsmall := interval.toNat_lt
  obtain ⟨helapsed, helapsedNat⟩ := sub?_exact hdueNat
  obtain ⟨hlimit, hlimitNat⟩ := limit_exact interval
  have hnearNat := UInt64.lt_iff_toNat_lt.mp hnear
  rw [helapsedNat] at hnearNat
  rw [firstDue_of_lt hposNat (by omega), sampleTimerFrom, if_pos hnear, sampleTimerExact, helapsed]
  dsimp only
  rw [if_pos hnear, hlimit]
  dsimp only
  by_cases hlast : next > lastTick - interval
  · have hlt : 2 ^ 64 - 1 - interval.toNat < next.toNat := hlimitNat ▸ UInt64.lt_iff_toNat_lt.mp hlast
    rw [if_pos hlast, if_pos hlast]
    refine ⟨?_, rfl⟩
    rw [toNat_lastTick]
    omega
  · have hle : next.toNat ≤ 2 ^ 64 - 1 - interval.toNat :=
      hlimitNat ▸ UInt64.le_iff_toNat_le.mp (UInt64.not_lt.mp hlast)
    obtain ⟨hsum, hvalue⟩ := add?_exact (x := next) (y := interval) (by omega)
    rw [if_neg hlast, if_neg hlast]
    refine ⟨?_, hsum⟩
    omega

theorem sampleTimer_far (hdue : next ≤ nowMs) (hpos : 0 < interval) (hfar : ¬ nowMs - next < interval)
    (hwrap : ¬ stepsWrap interval next nowMs) : (sampleTimerFrom interval next nowMs).toNat =
        min (firstDue interval.toNat next.toNat nowMs.toNat) (2 ^ 64 - 1) ∧
      sampleTimerExact interval next nowMs = some (sampleTimerFrom interval next nowMs) := by
  have hdueNat := UInt64.le_iff_toNat_le.mp hdue
  have hposNat : 0 < interval.toNat := UInt64.lt_iff_toNat_lt.mp hpos
  have hnow := nowMs.toNat_lt
  obtain ⟨helapsed, helapsedNat⟩ := sub?_exact hdueNat
  obtain ⟨hroom, hroomNat⟩ := sub?_exact (x := lastTick) (y := next) (by rw [toNat_lastTick]; omega)
  have hquotient : ((nowMs - next) / interval).toNat = (nowMs.toNat - next.toNat) / interval.toNat := by
    rw [UInt64.toNat_div, helapsedNat]
  have hsteps : (nowMs.toNat - next.toNat) / interval.toNat + 1 < 2 ^ 64 := by
    by_contra hlarge
    have hle := Nat.div_le_self (nowMs.toNat - next.toNat) interval.toNat
    have hone : interval.toNat = 1 := by
      by_contra hne
      have hlt :=
        Nat.div_lt_self (n := nowMs.toNat - next.toNat) (k := interval.toNat) (by omega) (by omega)
      omega
    apply hwrap
    refine ⟨UInt64.toNat_inj.mp ?_, UInt64.toNat_inj.mp ?_, UInt64.toNat_inj.mp hone⟩
    · change next.toNat = 0
      omega
    · rw [toNat_lastTick]
      omega
  obtain ⟨hsum, hsumNat⟩ :=
    add?_exact (x := (nowMs - next) / interval) (y := 1) (by rw [hquotient]; exact hsteps)
  have hsumNat :
      ((nowMs - next) / interval + 1).toNat = (nowMs.toNat - next.toNat) / interval.toNat + 1 := by
    rw [hsumNat, hquotient]
    rfl
  rw [sampleTimerFrom, if_neg hfar, sampleTimerExact, helapsed]
  dsimp only
  rw [if_neg hfar, hsum, hroom]
  dsimp only
  have hmost : (nowMs - next) / interval + 1 > (lastTick - next) / interval ↔
      2 ^ 64 - 1 < firstDue interval.toNat next.toNat nowMs.toNat := by
    rw [gt_iff_lt, UInt64.lt_iff_toNat_lt, UInt64.toNat_div, hroomNat, hsumNat, toNat_lastTick,
      Nat.div_lt_iff_lt_mul hposNat, firstDue]
    omega
  by_cases hlast : (nowMs - next) / interval + 1 > (lastTick - next) / interval
  · rw [if_pos hlast, if_pos hlast]
    refine ⟨?_, rfl⟩
    rw [toNat_lastTick, Nat.min_eq_right (hmost.mp hlast).le]
  · have hle := Nat.not_lt.mp (mt hmost.mpr hlast)
    rw [Nat.min_eq_left hle]
    rw [firstDue] at hle
    obtain ⟨hproduct, hproductNat⟩ := mul?_exact (x := (nowMs - next) / interval + 1) (y := interval)
      (by rw [hsumNat]; omega)
    obtain ⟨hresult, hresultNat⟩ :=
      add?_exact (x := next) (y := ((nowMs - next) / interval + 1) * interval)
        (by rw [hproductNat, hsumNat]; omega)
    rw [if_neg hlast, if_neg hlast, hproduct]
    refine ⟨?_, hresult⟩
    rw [hresultNat, hproductNat, hsumNat, firstDue]

theorem sampleTimer_wraps : sampleTimerFrom 1 0 lastTick = 0 := by decide

end Division

section Agreement

theorem timerInterval_toNat (interval : UInt32) :
    (timerInterval interval).toNat = max interval.toNat 1 := by
  unfold timerInterval
  by_cases hzero : interval = 0
  · rw [if_pos hzero, hzero]
    rfl
  · have hpos : interval.toNat ≠ 0 := fun h => hzero (UInt32.toNat_inj.mp h)
    rw [if_neg hzero, UInt32.toNat_toUInt64]
    omega

theorem timerInterval_pos (interval : UInt32) : 0 < timerInterval interval := by
  apply UInt64.lt_iff_toNat_lt.mpr
  rw [timerInterval_toNat]
  exact Nat.lt_of_lt_of_le Nat.one_pos (Nat.le_max_right _ _)

theorem timerInterval_eq_one {interval : UInt32} : timerInterval interval = 1 ↔ interval ≤ 1 := by
  rw [← UInt64.toNat_inj, timerInterval_toNat, UInt32.le_iff_toNat_le]
  change max _ _ = 1 ↔ _ ≤ 1
  omega

theorem advancePublishTimer_next (sub : Subscription) (nowMs : UInt64) :
    (sub.advancePublishTimer nowMs).nextPublishMs = advancePublishTimerFrom
      (timerInterval sub.publishingIntervalMs) nowMs sub.nextPublishMs (timerInterval_pos _) := by
  unfold Subscription.advancePublishTimer
  by_cases hzero : sub.publishingIntervalMs = 0
  · have hinterval : timerInterval sub.publishingIntervalMs = 1 := if_pos hzero
    rw [dif_neg (by rw [hzero]; decide)]
    simp only [hinterval]
  · have hinterval : timerInterval sub.publishingIntervalMs = sub.publishingIntervalMs.toUInt64 :=
      if_neg hzero
    have hpos := timerInterval_pos sub.publishingIntervalMs
    rw [hinterval] at hpos
    rw [dif_pos hpos]
    simp only [hinterval]

/-- Both timers move a due time on to the first one after `nowMs`, or to the last tick, and wrap
nowhere. -/
def TimersAgree (item : MonitoredItem W) (sub : Subscription) (interval : UInt32)
    (next nowMs : UInt64) : Prop :=
  let sampled := (({ item with
    nextSampleMs := next, samplingIntervalMs := interval } :
      MonitoredItem W).advanceSampleTimer nowMs).nextSampleMs
  let published := (({ sub with
    nextPublishMs := next, publishingIntervalMs := interval } :
      Subscription).advancePublishTimer nowMs).nextPublishMs
  sampled = published ∧
    (∃ due, IsLeast (dueAfter (max interval.toNat 1) next.toNat nowMs.toNat) due ∧
      published.toNat = min due (2 ^ 64 - 1)) ∧
    sampleTimerExact (timerInterval interval) next nowMs = some sampled ∧
    publishTimerExact (timerInterval interval) next nowMs (timerInterval_pos interval) = some published

theorem TimersAgree.of_not_wrap (item : MonitoredItem W) (sub : Subscription) {interval : UInt32}
    (hdue : next ≤ nowMs) (hwrap : ¬ stepsWrap (timerInterval interval) next nowMs) :
    TimersAgree item sub interval next nowMs := by
  have hpos := timerInterval_pos interval
  obtain ⟨hpublished, hloop⟩ := advancePublishTimerFrom_spec hpos hdue
  have hsample : (sampleTimerFrom (timerInterval interval) next nowMs).toNat =
        min (firstDue (timerInterval interval).toNat next.toNat nowMs.toNat) (2 ^ 64 - 1) ∧
      sampleTimerExact (timerInterval interval) next nowMs =
          some (sampleTimerFrom (timerInterval interval) next nowMs) := by
    by_cases hnear : nowMs - next < timerInterval interval
    · exact sampleTimer_near hdue hpos hnear
    · exact sampleTimer_far hdue hpos hnear hwrap
  obtain ⟨hsampled, hexact⟩ := hsample
  have hposNat : 0 < (timerInterval interval).toNat := UInt64.lt_iff_toNat_lt.mp hpos
  have hleast := firstDue_isLeast hposNat (UInt64.le_iff_toNat_le.mp hdue)
  unfold TimersAgree
  rw [advancePublishTimer_next, advanceSampleTimer_next _ hdue]
  refine ⟨UInt64.toNat_inj.mp (hsampled.trans hpublished.symm), ⟨_, ?_, hpublished⟩, hexact, hloop⟩
  rwa [← timerInterval_toNat]

theorem TimersAgree.not_of_wrap (item : MonitoredItem W) (sub : Subscription) {interval : UInt32}
    (hwrap : stepsWrap (timerInterval interval) next nowMs) :
    ¬ TimersAgree item sub interval next nowMs := by
  obtain ⟨rfl, rfl, hone⟩ := hwrap
  have hdue : (0 : UInt64) ≤ lastTick := by decide
  rintro ⟨hsame, ⟨due, hleast, hpublished⟩, -⟩
  rw [← hsame, advanceSampleTimer_next _ hdue] at hpublished
  dsimp only at hpublished
  rw [hone, sampleTimer_wraps] at hpublished
  have hafter := hleast.1.1
  change 0 = _ at hpublished
  rw [toNat_lastTick] at hafter
  omega

/-- The two timers agree unless the clock has reached its last tick, an item was due at tick 0 and
samples in every millisecond. -/
theorem timers_agree_iff (item : MonitoredItem W) (sub : Subscription) (interval : UInt32)
    (next nowMs : UInt64) (hdue : next ≤ nowMs) :
    TimersAgree item sub interval next nowMs ↔ ¬ (next = 0 ∧ nowMs = lastTick ∧ interval ≤ 1) := by
  rw [← timerInterval_eq_one]
  constructor
  · exact fun h hwrap => TimersAgree.not_of_wrap item sub hwrap h
  · exact TimersAgree.of_not_wrap item sub hdue

theorem timers_agree_iff_catching_up :
    TimersAgree (W := Unit) (.zero EngineScript.build) .zero 50 100 1000 :=
  (timers_agree_iff (.zero EngineScript.build) .zero 50 100 1000 (by decide)).mpr (by decide)

/-- An item made at the last tick by a build with intervals of one millisecond is due at tick 0, and is
due there again after it was sampled, while a subscription would be due at the last tick. -/
theorem sample_timer_wraps :
    let b := { EngineScript.build with minPublishingIntervalMs := 1 }
    let item : MonitoredItem Unit := fillItem b (EngineScript.queueOf 1) ⟨none⟩ lastTick (.zero b)
    item.nextSampleMs = 0 ∧ item.samplingIntervalMs = 1 ∧
      (item.advanceSampleTimer lastTick).nextSampleMs = 0 ∧
      ¬ TimersAgree item .zero item.samplingIntervalMs item.nextSampleMs lastTick := by
  intro b item
  have hnext : item.nextSampleMs = 0 := by decide
  have hinterval : item.samplingIntervalMs = 1 := by decide
  refine ⟨hnext, hinterval, by decide, ?_⟩
  apply TimersAgree.not_of_wrap
  rw [hnext, hinterval]
  exact ⟨rfl, rfl, rfl⟩

end Agreement

end MicroOpcua

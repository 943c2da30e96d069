import HardwareInterfaces.Core.Histogram
import HardwareInterfaces.Power.FrameReports

/-!
# The histogram of game frames

The metrics for games count the frames by their start intervals and keep their
total time, where a long frame counts for a hundred milliseconds at most.  The
total first gets the whole time of a batch, and then loses what the long frames
have too much, all in unsigned arithmetic.

A batch lists the intervals of its frames.  The counters are shown to be those
of all intervals reported since the last reset, up to their widths.
-/

namespace HardwareInterfaces.Metrics

open Histogram

/-! ## The arithmetic of a batch -/

/-- The batch lists these intervals, and has their number and sum. -/
structure GameFrameMetrics.Collects (metrics : GameFrameMetrics)
    (intervalsMs : List Nat) : Prop where
  frameTimingMs : metrics.frameTimingMs = intervalsMs.map UInt32.ofNat
  totalFrameTimeMs : metrics.totalFrameTimeMs = UInt64.ofNat intervalsMs.sum
  numOfFrames : metrics.numOfFrames = UInt32.ofNat intervalsMs.length

/-- The cell of the histogram for an interval. -/
def bucketOf (intervalMs : Nat) : Nat := min intervalMs (timeBucketsSize - 1)

/-- The time for which an interval counts. -/
def cappedMs (intervalMs : Nat) : Nat := min intervalMs timeBucketsSize

variable {intervalsMs : List Nat}

theorem foldl_countSample
    (hlt : ∀ intervalMs ∈ intervalsMs, intervalMs < 2 ^ 32)
    (histogram : List UInt32) :
    (intervalsMs.map UInt32.ofNat).foldl countSample histogram =
      tally bucketOf (· + 1) histogram intervalsMs := by
  induction intervalsMs generalizing histogram with
  | nil => rfl
  | cons intervalMs intervalsMs ih =>
    obtain ⟨hfirst, hrest⟩ := List.forall_mem_cons.mp hlt
    have hcount : countSample histogram (UInt32.ofNat intervalMs) =
        histogram.modify (bucketOf intervalMs) (· + 1) := by
      rw [countSample, UInt32.toNat_ofNat_of_lt' hfirst, bucketOf]
      split_ifs with hlong
      · rw [min_eq_right (by omega)]
      · rw [min_eq_left (by omega)]
    rw [List.map_cons, List.foldl_cons, hcount, ih hrest]
    rfl

/-- What a long frame has too much is taken out of the total. -/
theorem trimOutlier_add {intervalMs : Nat} (hlt : intervalMs < 2 ^ 32)
    (total : UInt64) (rest : Nat) :
    trimOutlier (total + UInt64.ofNat (intervalMs + rest))
        (UInt32.ofNat intervalMs) =
      total + UInt64.ofNat (cappedMs intervalMs) + UInt64.ofNat rest := by
  rw [trimOutlier, UInt32.toNat_ofNat_of_lt' hlt, cappedMs]
  split_ifs with hlong
  · have hexcess :
        (UInt32.ofNat intervalMs - UInt32.ofNat timeBucketsSize).toUInt64 =
          UInt64.ofNat (intervalMs - timeBucketsSize) := by
      have hle : UInt32.ofNat timeBucketsSize ≤ UInt32.ofNat intervalMs := by
        rw [UInt32.le_iff_toNat_le, UInt32.toNat_ofNat_of_lt' hlt]
        exact hlong
      apply UInt64.toNat_inj.mp
      rw [UInt32.toNat_toUInt64, UInt32.toNat_sub_of_le _ _ hle,
        UInt32.toNat_ofNat_of_lt' hlt, UInt64.toNat_ofNat']
      exact (Nat.mod_eq_of_lt (by omega)).symm
    have hsplit : intervalMs + rest =
        timeBucketsSize + rest + (intervalMs - timeBucketsSize) := by omega
    rw [min_eq_right hlong, hexcess, hsplit,
      UInt64.ofNat_add (timeBucketsSize + rest), ← UInt64.add_assoc,
      UInt64.add_sub_cancel, UInt64.ofNat_add, UInt64.add_assoc]
  · rw [min_eq_left (by omega), UInt64.ofNat_add, UInt64.add_assoc]

theorem foldl_trimOutlier
    (hlt : ∀ intervalMs ∈ intervalsMs, intervalMs < 2 ^ 32) (total : UInt64) :
    (intervalsMs.map UInt32.ofNat).foldl trimOutlier
        (total + UInt64.ofNat intervalsMs.sum) =
      total + UInt64.ofNat (intervalsMs.map cappedMs).sum := by
  induction intervalsMs generalizing total with
  | nil => rfl
  | cons intervalMs intervalsMs ih =>
    obtain ⟨hfirst, hrest⟩ := List.forall_mem_cons.mp hlt
    rw [List.map_cons, List.foldl_cons, List.sum_cons, trimOutlier_add hfirst,
      ih hrest, List.map_cons, List.sum_cons, UInt64.ofNat_add,
      UInt64.add_assoc]

theorem toNat_add_ofNat {total : UInt64} {value : Nat}
    (hfits : total.toNat + value < 2 ^ 64) :
    (total + UInt64.ofNat value).toNat = total.toNat + value := by
  rw [UInt64.toNat_add, UInt64.toNat_ofNat', Nat.add_mod_mod,
    Nat.mod_eq_of_lt hfits]

/-- No subtraction of the loop goes below zero. -/
def TrimsSafely : UInt64 → List UInt32 → Prop
  | _, [] => True
  | total, sample :: samples =>
    (timeBucketsSize ≤ sample.toNat →
      sample.toNat - timeBucketsSize ≤ total.toNat) ∧
    TrimsSafely (trimOutlier total sample) samples

theorem trimsSafely {total : UInt64}
    (hlt : ∀ intervalMs ∈ intervalsMs, intervalMs < 2 ^ 32)
    (hfits : total.toNat + intervalsMs.sum < 2 ^ 64) :
    TrimsSafely (total + UInt64.ofNat intervalsMs.sum)
      (intervalsMs.map UInt32.ofNat) := by
  induction intervalsMs generalizing total with
  | nil => trivial
  | cons intervalMs intervalsMs ih =>
    obtain ⟨hfirst, hrest⟩ := List.forall_mem_cons.mp hlt
    have hcapped : cappedMs intervalMs ≤ intervalMs := min_le_left _ _
    rw [List.sum_cons] at hfits ⊢
    refine ⟨fun _ => ?_, ?_⟩
    · rw [UInt32.toNat_ofNat_of_lt' hfirst, toNat_add_ofNat hfits]
      omega
    · rw [trimOutlier_add hfirst]
      apply ih hrest
      rw [toNat_add_ofNat (by omega)]
      omega

/-! ## The counters of all batches -/

namespace SessionMetrics

variable {metrics : SessionMetrics} {intervalsMs newIntervalsMs : List Nat}

/-- The metrics for games, empty if there are none yet. -/
def game (metrics : SessionMetrics) : GameFrameMetrics :=
  metrics.gameFrameMetrics.getD emptyGameFrameMetrics

/-- The counters are those of the intervals, up to their widths. -/
structure Totals (metrics : SessionMetrics) (intervalsMs : List Nat) :
    Prop where
  frameTimingMs : metrics.game.frameTimingMs =
    tally bucketOf (· + 1) (List.replicate timeBucketsSize 0) intervalsMs
  totalFrameTimeMs : metrics.game.totalFrameTimeMs =
    UInt64.ofNat (intervalsMs.map cappedMs).sum
  numOfFrames : metrics.game.numOfFrames = UInt32.ofNat intervalsMs.length
  totalFrameNumber : metrics.totalFrameNumber = UInt32.ofNat intervalsMs.length

theorem totals_nil (hnone : metrics.gameFrameMetrics = none)
    (hzero : metrics.totalFrameNumber = 0) : metrics.Totals [] := by
  have hgame : metrics.game = emptyGameFrameMetrics := by
    rw [game, hnone, Option.getD_none]
  constructor
  · rw [hgame]
    rfl
  · rw [hgame]
    rfl
  · rw [hgame]
    rfl
  · rw [hzero]
    rfl

theorem Totals.addNewGameFrames (htotals : metrics.Totals intervalsMs)
    {newFrameMetrics : GameFrameMetrics}
    (hcollects : newFrameMetrics.Collects newIntervalsMs)
    (hlt : ∀ intervalMs ∈ newIntervalsMs, intervalMs < 2 ^ 32) :
    (metrics.addNewGameFrames newFrameMetrics).Totals
      (intervalsMs ++ newIntervalsMs) := by
  constructor
  · calc (metrics.addNewGameFrames newFrameMetrics).game.frameTimingMs
        = newFrameMetrics.frameTimingMs.foldl countSample
            metrics.game.frameTimingMs := rfl
      _ = tally bucketOf (· + 1) metrics.game.frameTimingMs newIntervalsMs := by
          rw [hcollects.frameTimingMs, foldl_countSample hlt]
      _ = _ := by rw [htotals.frameTimingMs, tally_append]
  · calc (metrics.addNewGameFrames newFrameMetrics).game.totalFrameTimeMs
        = newFrameMetrics.frameTimingMs.foldl trimOutlier
            (metrics.game.totalFrameTimeMs +
              newFrameMetrics.totalFrameTimeMs) := rfl
      _ = metrics.game.totalFrameTimeMs +
            UInt64.ofNat (newIntervalsMs.map cappedMs).sum := by
          rw [hcollects.frameTimingMs, hcollects.totalFrameTimeMs,
            foldl_trimOutlier hlt]
      _ = _ := by
          rw [htotals.totalFrameTimeMs, List.map_append, List.sum_append,
            UInt64.ofNat_add]
  · calc (metrics.addNewGameFrames newFrameMetrics).game.numOfFrames
        = metrics.game.numOfFrames + newFrameMetrics.numOfFrames := rfl
      _ = _ := by
          rw [htotals.numOfFrames, hcollects.numOfFrames, List.length_append,
            UInt32.ofNat_add]
  · calc (metrics.addNewGameFrames newFrameMetrics).totalFrameNumber
        = metrics.totalFrameNumber + newFrameMetrics.numOfFrames := rfl
      _ = _ := by
          rw [htotals.totalFrameNumber, hcollects.numOfFrames,
            List.length_append, UInt32.ofNat_add]

/-- The metrics are the numbers and the time of the frames with these
intervals. -/
structure Summarizes (metrics : SessionMetrics) (intervalsMs : List Nat) :
    Prop where
  sum : (metrics.game.frameTimingMs.map UInt32.toNat).sum = intervalsMs.length
  numOfFrames : metrics.game.numOfFrames.toNat = intervalsMs.length
  totalFrameNumber : metrics.totalFrameNumber.toNat = intervalsMs.length
  bucket : ∀ index < 99,
    (metrics.game.frameTimingMs[index]?).map UInt32.toNat =
      some (intervalsMs.count index)
  lastBucket : (metrics.game.frameTimingMs[99]?).map UInt32.toNat =
    some (intervalsMs.countP (99 ≤ ·))
  totalFrameTimeMs : metrics.game.totalFrameTimeMs.toNat =
    (intervalsMs.map (min · 100)).sum

theorem iterate_add_one (count : Nat) :
    (· + 1)^[count] (0 : UInt32) = UInt32.ofNat count := by
  induction count with
  | zero => rfl
  | succ count ih =>
    rw [Function.iterate_succ_apply', ih, UInt32.ofNat_add]
    rfl

theorem bucketOf_lt (intervalMs : Nat) : bucketOf intervalMs < 100 := by
  rw [bucketOf, timeBucketsSize]
  omega

theorem sum_cappedMs_le (intervalsMs : List Nat) :
    (intervalsMs.map cappedMs).sum ≤ 100 * intervalsMs.length := by
  induction intervalsMs with
  | nil => rfl
  | cons intervalMs intervalsMs ih =>
    have hcapped : cappedMs intervalMs ≤ 100 := min_le_right _ _
    rw [List.map_cons, List.sum_cons, List.length_cons]
    omega

theorem bucketOf_eq_iff {intervalMs index : Nat} (hindex : index < 99) :
    bucketOf intervalMs = index ↔ intervalMs = index := by
  rw [bucketOf, timeBucketsSize]
  omega

theorem bucketOf_eq_last_iff {intervalMs : Nat} :
    bucketOf intervalMs = 99 ↔ 99 ≤ intervalMs := by
  rw [bucketOf, timeBucketsSize]
  omega

section

variable (htotals : metrics.Totals intervalsMs)
  (hfits : intervalsMs.length < 2 ^ 32)
include htotals hfits

/-- A cell holds the number of its frames. -/
theorem Totals.getElem?_frameTimingMs {index : Nat} (hindex : index < 100) :
    (metrics.game.frameTimingMs[index]?).map UInt32.toNat =
      some (intervalsMs.countP (bucketOf · = index)) := by
  have hcount : intervalsMs.countP (bucketOf · = index) < 2 ^ 32 :=
    List.countP_le_length.trans_lt hfits
  rw [htotals.frameTimingMs, getElem?_tally, List.getElem?_replicate,
    timeBucketsSize, if_pos hindex, Option.map_some, Option.map_some,
    iterate_add_one, UInt32.toNat_ofNat_of_lt' hcount]

theorem Totals.map_toNat_frameTimingMs :
    metrics.game.frameTimingMs.map UInt32.toNat =
      (List.range 100).map fun index =>
        intervalsMs.countP (bucketOf · = index) := by
  apply List.ext_getElem?
  intro index
  rw [List.getElem?_map, List.getElem?_map]
  by_cases hindex : index < 100
  · rw [htotals.getElem?_frameTimingMs hfits hindex, List.getElem?_range hindex]
    rfl
  · rw [htotals.frameTimingMs, List.getElem?_eq_none, List.getElem?_eq_none]
    · rfl
    · rw [List.length_range]
      omega
    · rw [length_tally, List.length_replicate, timeBucketsSize]
      omega

theorem Totals.summarizes : metrics.Summarizes intervalsMs := by
  have htime : (intervalsMs.map cappedMs).sum < 2 ^ 64 :=
    (sum_cappedMs_le intervalsMs).trans_lt (by omega)
  constructor
  · rw [htotals.map_toNat_frameTimingMs hfits]
    exact sum_countP_bucket bucketOf fun intervalMs _ => bucketOf_lt intervalMs
  · rw [htotals.numOfFrames, UInt32.toNat_ofNat_of_lt' hfits]
  · rw [htotals.totalFrameNumber, UInt32.toNat_ofNat_of_lt' hfits]
  · intro index hindex
    rw [htotals.getElem?_frameTimingMs hfits (by omega), List.count_eq_countP]
    refine congrArg some (List.countP_congr fun intervalMs _ => ?_)
    rw [decide_eq_true_eq, beq_iff_eq, bucketOf_eq_iff hindex]
  · rw [htotals.getElem?_frameTimingMs hfits (by omega)]
    refine congrArg some (List.countP_congr fun intervalMs _ => ?_)
    rw [decide_eq_true_eq, decide_eq_true_eq, bucketOf_eq_last_iff]
  · rw [htotals.totalFrameTimeMs, UInt64.toNat_ofNat_of_lt' htime]
    rfl

end

end SessionMetrics

end HardwareInterfaces.Metrics

namespace HardwareInterfaces.FrameRecords

open MachineArithmetic Metrics

/-! ## The intervals of a batch -/

namespace SessionRecords

variable {platform : Platform} {records : SessionRecords}

theorem frameIntervalUs_lt (platform : Platform) (records : SessionRecords)
    (duration : WorkDuration) :
    records.frameIntervalUs platform duration < 2 ^ 31 := by
  rw [frameIntervalUs]
  split_ifs
  · exact int32_lt _
  · decide

theorem intervalsMs_lt {targetDurationNs : Int} {computeGameMetrics : Bool}
    {durations : List WorkDuration} {intervalMs : Nat}
    (hinterval : intervalMs ∈ records.intervalsMs platform targetDurationNs
      computeGameMetrics durations) : intervalMs < 2147484 := by
  induction durations generalizing records with
  | nil => exact nomatch hinterval
  | cons duration durations ih =>
    rcases List.mem_append.mp hinterval with hfirst | hrest
    · have hlt := frameIntervalUs_lt platform records duration
      split_ifs at hfirst with hpositive
      · rw [List.mem_singleton.mp hfirst,
          Int.tdiv_eq_ediv_of_nonneg hpositive.le]
        omega
      · exact nomatch hfirst
    · exact ih hrest

theorem ofInt32_of_nonneg {value : Int} (hnonneg : 0 ≤ value) :
    UInt32.ofInt value = UInt32.ofNat value.toNat := by
  rw [UInt32.ofInt]
  apply UInt32.toNat_inj.mp
  rw [UInt32.toNat_ofNat', UInt32.toNat_ofNat']
  omega

theorem ofInt64_of_nonneg {value : Int} (hnonneg : 0 ≤ value) :
    UInt64.ofInt value = UInt64.ofNat value.toNat := by
  rw [UInt64.ofInt]
  apply UInt64.toNat_inj.mp
  rw [UInt64.toNat_ofNat', UInt64.toNat_ofNat']
  omega

theorem collects_updateGameMetrics {metrics : GameFrameMetrics}
    {intervalsMs : List Nat} (hcollects : metrics.Collects intervalsMs)
    {frameIntervalUs : Int} (hpositive : 0 < frameIntervalUs) :
    (records.updateGameMetrics platform frameIntervalUs metrics).Collects
      (intervalsMs ++ [(frameIntervalUs.tdiv 1000).toNat]) := by
  have hnonneg : 0 ≤ frameIntervalUs.tdiv 1000 :=
    Int.tdiv_nonneg hpositive.le (by decide)
  rw [updateGameMetrics, if_neg (not_le.mpr hpositive)]
  constructor <;> dsimp only
  · rw [hcollects.frameTimingMs, List.map_append, List.map_singleton,
      ofInt32_of_nonneg hnonneg]
  · rw [hcollects.totalFrameTimeMs, List.sum_append, List.sum_singleton,
      UInt64.ofNat_add, ofInt64_of_nonneg hnonneg]
  · rw [hcollects.numOfFrames, List.length_append, UInt32.ofNat_add]
    rfl

section

variable {metrics : FrameTimingMetrics} {prior : List Nat}
  (hcollects : metrics.gameFrameMetrics.Collects prior)
include hcollects

theorem collects_addReportedDuration (duration : WorkDuration)
    (targetDurationNs : Int) :
    (addReportedDuration platform targetDurationNs true (records, metrics)
      duration).2.gameFrameMetrics.Collects (prior ++
        if 0 < records.frameIntervalUs platform duration then
          [((records.frameIntervalUs platform duration).tdiv 1000).toNat]
        else []) := by
  by_cases hpositive : 0 < records.frameIntervalUs platform duration
  · rw [if_pos hpositive]
    exact collects_updateGameMetrics hcollects hpositive
  · have hsame : (addReportedDuration platform targetDurationNs true
        (records, metrics) duration).2.gameFrameMetrics =
          metrics.gameFrameMetrics := if_pos (not_lt.mp hpositive)
    rw [if_neg hpositive, List.append_nil, hsame]
    exact hcollects

/-- A batch collects the intervals of its frames. -/
theorem collects_addReportedDurations (durations : List WorkDuration)
    (targetDurationNs : Int) :
    (records.addReportedDurations platform durations targetDurationNs metrics
      true).2.gameFrameMetrics.Collects (prior ++ records.intervalsMs platform
        targetDurationNs true durations) := by
  rw [addReportedDurations]
  induction durations generalizing records metrics prior with
  | nil =>
    rw [intervalsMs, List.append_nil]
    exact hcollects
  | cons duration durations ih =>
    rw [List.foldl_cons, intervalsMs, ← List.append_assoc]
    exact ih (collects_addReportedDuration hcollects duration targetDurationNs)

end

/-- Without game frames a batch collects nothing. -/
theorem gameFrameMetrics_addReportedDurations (metrics : FrameTimingMetrics)
    (durations : List WorkDuration) (targetDurationNs : Int) :
    (records.addReportedDurations platform durations targetDurationNs metrics
      false).2.gameFrameMetrics = metrics.gameFrameMetrics := by
  rw [addReportedDurations]
  induction durations generalizing records metrics with
  | nil => rfl
  | cons duration durations ih => exact ih _

end SessionRecords

end HardwareInterfaces.FrameRecords

namespace HardwareInterfaces.SessionManager

open AdpfTypes FrameRecords Metrics SessionTaskMap Transition

/-! ## Runs of a session -/

theorem Reported.gameFrames (platform : Platform) (records : SessionRecords)
    (durations : List WorkDuration) (targetDurationNs : Int)
    (computeGameMetrics : Bool) (reported : Reported) :
    ∃ newIntervalsMs,
      (reported.add platform records durations targetDurationNs
        computeGameMetrics).intervalsMs =
          reported.intervalsMs ++ newIntervalsMs ∧
      (∀ intervalMs ∈ newIntervalsMs, intervalMs < 2147484) ∧
      (records.addReportedDurations platform durations targetDurationNs {}
        computeGameMetrics).2.gameFrameMetrics.Collects newIntervalsMs := by
  have hempty : ({} : FrameTimingMetrics).gameFrameMetrics.Collects [] :=
    ⟨rfl, rfl, rfl⟩
  cases computeGameMetrics with
  | false =>
    refine ⟨[], rfl, nofun, ?_⟩
    rw [SessionRecords.gameFrameMetrics_addReportedDurations]
    exact hempty
  | true =>
    refine ⟨_, rfl, fun intervalMs => SessionRecords.intervalsMs_lt, ?_⟩
    exact SessionRecords.collects_addReportedDurations hempty durations
      targetDurationNs

namespace ReportingSession

variable {platform : Platform} {sessionId : SessionId}
  {reporting next : ReportingSession} {action : ReportAction}

/-- The metrics for games are those of the intervals reported. -/
structure Totalled (sessionId : SessionId) (reporting : ReportingSession) :
    Prop where
  bounded : ∀ intervalMs ∈ reporting.reported.intervalsMs,
    intervalMs < 2147484
  totals : ∀ tag metrics, reporting.Shows sessionId tag metrics →
    metrics.scenarioType = .game →
      metrics.Totals reporting.reported.intervalsMs

theorem totalled_init (sessionId : SessionId)
    (gpuCapacityNode taskRampupMultNode : Bool)
    (maxNumOfCachedSessionMetrics : Nat) (records : SessionRecords) :
    (init gpuCapacityNode taskRampupMultNode maxNumOfCachedSessionMetrics
      records).Totalled sessionId where
  bounded := by
    rw [init]
    exact nofun
  totals := by
    intro tag metrics hshows
    obtain ⟨session, hsession, -⟩ := hshows.exists_session
    exact nomatch hsession.symm.trans (SessionLinks.session_empty sessionId)

theorem Totalled.step (htotalled : reporting.Totalled sessionId)
    (hstep : reporting.step platform sessionId action = some next) :
    next.Totalled sessionId := by
  constructor
  · rcases reported_cases hstep with hsame | hnone |
      ⟨durations, targetDurationNs, computeGameMetrics, -, hadded⟩
    · rw [hsame]
      exact htotalled.bounded
    · rw [hnone]
      exact nofun
    · obtain ⟨newIntervalsMs, hnew, hbounded, -⟩ := reporting.reported.gameFrames
        platform reporting.records durations targetDurationNs computeGameMetrics
      rw [hadded, hnew]
      intro intervalMs hinterval
      rcases List.mem_append.mp hinterval with hold | hlater
      · exact htotalled.bounded intervalMs hold
      · exact hbounded intervalMs hlater
  · intro tag metrics hshows hgame
    rcases shows_cases hstep hshows with ⟨hold, hreported⟩ |
      ⟨call, rfl, -, hfresh, hreported, -⟩ |
      ⟨durations, targetDurationNs, computeGameMetrics, old, rfl, hold, rfl,
        hreported⟩
    · rw [hreported]
      exact htotalled.totals tag metrics hold hgame
    · rw [hreported]
      exact SessionMetrics.totals_nil hfresh.gameFrameMetrics
        hfresh.totalFrameNumber
    · obtain ⟨newIntervalsMs, hnew, hbounded, hcollects⟩ :=
        reporting.reported.gameFrames platform reporting.records durations
          targetDurationNs computeGameMetrics
      rw [scenarioType_batchAdded] at hgame
      rw [hreported, hnew, batchAdded, hgame]
      exact (htotalled.totals tag old hold hgame).addNewGameFrames hcollects
        fun intervalMs hinterval => (hbounded intervalMs hinterval).trans
          (by decide)

/-- A report that comes next takes nothing out of the total time that is not
in it. -/
def ReportsSafely (platform : Platform) (reporting : ReportingSession)
    (metrics : SessionMetrics) : Prop :=
  ∀ durations targetDurationNs computeGameMetrics,
    (reporting.reported.add platform reporting.records durations
        targetDurationNs computeGameMetrics).intervalsMs.length < 2 ^ 32 →
      TrimsSafely
        (metrics.game.totalFrameTimeMs +
          (reporting.records.addReportedDurations platform durations
            targetDurationNs {}
              computeGameMetrics).2.gameFrameMetrics.totalFrameTimeMs)
        (reporting.records.addReportedDurations platform durations
          targetDurationNs {}
            computeGameMetrics).2.gameFrameMetrics.frameTimingMs

theorem Totalled.reportsSafely (htotalled : reporting.Totalled sessionId)
    {tag : SessionTag} {metrics : SessionMetrics}
    (hshows : reporting.Shows sessionId tag metrics)
    (hgame : metrics.scenarioType = .game) :
    reporting.ReportsSafely platform metrics := by
  intro durations targetDurationNs computeGameMetrics hfits
  obtain ⟨newIntervalsMs, hnew, hbounded, hcollects⟩ :=
    reporting.reported.gameFrames platform reporting.records durations
      targetDurationNs computeGameMetrics
  have htotals := htotalled.totals tag metrics hshows hgame
  rw [hnew, List.length_append] at hfits
  rw [hcollects.totalFrameTimeMs, hcollects.frameTimingMs]
  have hold := SessionMetrics.sum_cappedMs_le reporting.reported.intervalsMs
  have hlater : newIntervalsMs.sum ≤ newIntervalsMs.length * 2147484 :=
    List.sum_le_card_nsmul newIntervalsMs 2147484 fun intervalMs hinterval =>
      (hbounded intervalMs hinterval).le
  apply trimsSafely
  · exact fun intervalMs hinterval =>
      (hbounded intervalMs hinterval).trans (by decide)
  · rw [htotals.totalFrameTimeMs, UInt64.toNat_ofNat']
    omega

/-- In every state of a run the metrics for games are the numbers and the total
time of the frames whose intervals were taken since the last reset, if their
number fits the counters, and no report makes the total go below zero on the
way. -/
theorem game_metrics_summarize_intervals (platform : Platform)
    (sessionId : SessionId) (gpuCapacityNode taskRampupMultNode : Bool)
    (maxNumOfCachedSessionMetrics : Nat) (records : SessionRecords)
    (actions : List ReportAction) (reporting : ReportingSession)
    (hrun : run (step platform sessionId)
      (init gpuCapacityNode taskRampupMultNode maxNumOfCachedSessionMetrics
        records) actions = some reporting)
    (session : Session) (metrics : SessionMetrics)
    (hsession : reporting.manager.session sessionId = some session)
    (hmetrics : session.value.sessFrameMetrics = some metrics)
    (hgame : metrics.scenarioType = .game) :
    (reporting.reported.intervalsMs.length < 2 ^ 32 →
        metrics.Summarizes reporting.reported.intervalsMs) ∧
      reporting.ReportsSafely platform metrics := by
  have htotalled : reporting.Totalled sessionId :=
    run_invariant (fun state action next htotalled hstep =>
      Totalled.step htotalled hstep) (totalled_init sessionId gpuCapacityNode
        taskRampupMultNode maxNumOfCachedSessionMetrics records) hrun
  have hshows := shows_of_session hsession hmetrics
  exact ⟨(htotalled.totals _ metrics hshows hgame).summarizes,
    htotalled.reportsSafely hshows hgame⟩

/-- SurfaceFlinger reports two batches while the game mode is on, with a frame
that takes longer than the histogram shows. -/
def playedFrames : List ReportAction :=
  [.call (.updateHintMode true true),
    .call (.addPowerSession (sampleEnv 0) (sampleEnv 0) (sampleEnv 0)
      { sampleDescriptor 7 [11] with tag := .surfaceflinger } true [11]),
    .report [⟨40000000, 9000000⟩, ⟨56000000, 9000000⟩] 16666666 true,
    .report [⟨176000000, 9000000⟩] 16666666 true]

theorem game_metrics_summarize_played_frames :
    ∃ reporting session metrics,
      run (step ⟨MachineArithmetic.Rounding.exact, fun _ => {}⟩ 7)
          (init true true 10 (.new 50 1)) playedFrames = some reporting ∧
        reporting.manager.session 7 = some session ∧
        session.value.sessFrameMetrics = some metrics ∧
        metrics.scenarioType = .game ∧ metrics.Summarizes [16, 120] := by
  have hfacts : (run (step ⟨MachineArithmetic.Rounding.exact, fun _ => {}⟩ 7)
      (init true true 10 (.new 50 1)) playedFrames).map (fun reporting =>
        (reporting.reported.intervalsMs, (reporting.manager.session 7).map
          fun session => session.value.sessFrameMetrics.map
            SessionMetrics.scenarioType)) =
      some ([16, 120], some (some .game)) := by
    decide +kernel
  obtain ⟨reporting, hrun, hreported⟩ := Option.map_eq_some_iff.mp hfacts
  obtain ⟨hintervals, hfound⟩ := Prod.mk.inj hreported
  obtain ⟨session, hsession, hkept⟩ := Option.map_eq_some_iff.mp hfound
  obtain ⟨metrics, hmetrics, hgame⟩ := Option.map_eq_some_iff.mp hkept
  have hsummarizes := (game_metrics_summarize_intervals _ 7 true true 10 _
    playedFrames reporting hrun session metrics hsession hmetrics hgame).1
  rw [hintervals] at hsummarizes
  exact ⟨reporting, session, metrics, hrun, hsession, hmetrics, hgame,
    hsummarizes (by decide)⟩

end ReportingSession

end HardwareInterfaces.SessionManager

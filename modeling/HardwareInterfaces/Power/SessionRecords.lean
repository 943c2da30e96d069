import HardwareInterfaces.Core.MachineArithmetic
import HardwareInterfaces.Power.SessionMetrics

/-!
# Records of the reported frames

A hint session keeps the last frames it was told about in a ring, with running
totals and a queue of ring indexes for the longest frame.  Durations and
intervals are narrowed to 32 bits when they are stored.  Messages to the log
are left out.

A read of the ring outside its bounds finds whatever is there: only the check
for frame jitter can make one, and only with fewer than three records.
-/

namespace HardwareInterfaces.FrameRecords

open MachineArithmetic Metrics

structure CycleRecord where
  startIntervalUs : Int := 0
  totalDurationUs : Int := 0
  isMissedCycle : Bool := false
  isFPSJitter : Bool := false
  deriving DecidableEq, Repr

/-- The fields of a work duration that the records use. -/
structure WorkDuration where
  timeStampNanos : Int
  durationNanos : Int
  deriving DecidableEq, Repr

/-- What the code runs on: the arithmetic of doubles, and what a read outside
the records finds. -/
structure Platform where
  rounding : Rounding
  stray : Int → CycleRecord

def kTotalFramesForFPSCheck : Int := 3

structure SessionRecords where
  kMaxNumOfRecords : Int
  kJankCheckTimeFactor : ℚ
  mRecords : List CycleRecord
  /-- Indexes of records, in descending order of their durations. -/
  mRecordsIndQueue : List Int := []
  mAvgDurationUs : Int := 0
  mLastStartTimeNs : Int := 0
  mLatestRecordIndex : Int := -1
  mPreLastRecordIndex : Int := -1
  mNumOfMissedCycles : Int := 0
  mNumOfFrames : Int := 0
  mSumOfDurationsUs : Int := 0
  mLatestStartIntervalSumUs : Int := 0
  mNumOfFrameFPSJitters : Int := 0
  mAddedFramesForFPSCheck : Int := 0

/-! ## One frame -/

/-- `startTimeNs` of a frame. -/
def WorkDuration.startTimeNs (duration : WorkDuration) : Int :=
  int64 (duration.timeStampNanos - duration.durationNanos)

def WorkDuration.totalDurationUs (duration : WorkDuration) : Int :=
  int32 (duration.durationNanos.tdiv 1000)

/-- The interval between two starts, in microseconds. -/
def startIntervalUs (startTimeNs lastStartTimeNs : Int) : Int :=
  int32 ((int64 (startTimeNs - lastStartTimeNs)).tdiv 1000)

/-- Whether a frame took longer than its target allows. -/
def cycleMissed (platform : Platform) (jankCheckTimeFactor : ℚ)
    (totalDurationUs targetDurationNs : Int) : Bool :=
  let targetUs := platform.rounding.round (targetDurationNs.tdiv 1000 : Int)
  decide (platform.rounding.round (targetUs * jankCheckTimeFactor) <
    totalDurationUs)

def updateFrameBuckets (frameDurationUs : Int) (isJankFrame : Bool)
    (framesInBuckets : FrameBuckets) : FrameBuckets :=
  let counted :=
    { framesInBuckets with
      totalNumOfFrames := framesInBuckets.totalNumOfFrames + 1 }
  if !isJankFrame || decide (frameDurationUs < 17000) then counted
  else if frameDurationUs < 25000 then
    { counted with numOfFrames17to25ms := counted.numOfFrames17to25ms + 1 }
  else if frameDurationUs < 34000 then
    { counted with numOfFrames25to34ms := counted.numOfFrames25to34ms + 1 }
  else if frameDurationUs < 67000 then
    { counted with numOfFrames34to67ms := counted.numOfFrames34to67ms + 1 }
  else if frameDurationUs < 100000 then
    { counted with numOfFrames67to100ms := counted.numOfFrames67to100ms + 1 }
  else
    { counted with numOfFramesOver100ms := counted.numOfFramesOver100ms + 1 }

namespace SessionRecords

/-- The constructor. -/
def new (maxNumOfRecords : Int) (jankCheckTimeFactor : ℚ) : SessionRecords where
  kMaxNumOfRecords := maxNumOfRecords
  kJankCheckTimeFactor := jankCheckTimeFactor
  mRecords := List.replicate maxNumOfRecords.toNat {}

variable (platform : Platform) (records : SessionRecords)

/-- `mRecords[index]` -/
def recordAt (index : Int) : CycleRecord :=
  if 0 ≤ index then records.mRecords.getD index.toNat (platform.stray index)
  else platform.stray index

/-- Take the oldest record out of the totals and the queue, once there are as
many records as allowed. -/
def removeOldest : SessionRecords :=
  if records.kMaxNumOfRecords ≤ records.mNumOfFrames then
    let indexOfRecordToRemove :=
      (records.mLatestRecordIndex + 1).tmod records.kMaxNumOfRecords
    let removed := records.recordAt platform indexOfRecordToRemove
    { records with
      mSumOfDurationsUs :=
        int64 (records.mSumOfDurationsUs - removed.totalDurationUs)
      mNumOfMissedCycles :=
        if removed.isMissedCycle then records.mNumOfMissedCycles - 1
        else records.mNumOfMissedCycles
      mNumOfFrameFPSJitters :=
        if removed.isFPSJitter then records.mNumOfFrameFPSJitters - 1
        else records.mNumOfFrameFPSJitters
      mNumOfFrames := records.mNumOfFrames - 1
      mRecordsIndQueue :=
        if records.mRecordsIndQueue.head? = some indexOfRecordToRemove then
          records.mRecordsIndQueue.tail
        else records.mRecordsIndQueue }
  else records

/-- Move on to the next index of the ring. -/
def advance (startTimeNs : Int) : SessionRecords :=
  { records with
    mPreLastRecordIndex := records.mLatestRecordIndex
    mLatestRecordIndex :=
      (records.mLatestRecordIndex + 1).tmod records.kMaxNumOfRecords
    mLastStartTimeNs := startTimeNs }

/-- The bound of the check is `1.4 * mLatestStartIntervalSumUs / 3`. -/
def isFPSJitter (startIntervalUs : Int) : Bool :=
  let round := platform.rounding.round
  decide (round (round (round (7 / 5) * records.mLatestStartIntervalSumUs) /
    kTotalFramesForFPSCheck) < startIntervalUs)

/-- Whether the frame jitters, and the totals of the check. -/
def trackFPSJitter (startIntervalUs : Int) (computeGameMetrics : Bool) :
    Bool × SessionRecords :=
  if computeGameMetrics then
    if records.mAddedFramesForFPSCheck < kTotalFramesForFPSCheck then
      (false,
        if 0 < startIntervalUs then
          { records with
            mLatestStartIntervalSumUs :=
              int32 (records.mLatestStartIntervalSumUs + startIntervalUs)
            mAddedFramesForFPSCheck := records.mAddedFramesForFPSCheck + 1 }
        else records)
    else
      let FPSJitter := records.isFPSJitter platform startIntervalUs
      let oldRecordIndex :=
        if records.mLatestRecordIndex - kTotalFramesForFPSCheck < 0 then
          records.mLatestRecordIndex - kTotalFramesForFPSCheck +
            records.kMaxNumOfRecords
        else records.mLatestRecordIndex - kTotalFramesForFPSCheck
      (FPSJitter,
        { records with
          mNumOfFrameFPSJitters :=
            if FPSJitter then records.mNumOfFrameFPSJitters + 1
            else records.mNumOfFrameFPSJitters
          mLatestStartIntervalSumUs :=
            int32 (records.mLatestStartIntervalSumUs +
              (startIntervalUs - (records.recordAt platform
                oldRecordIndex).startIntervalUs)) })
  else
    (false,
      { records with
        mLatestStartIntervalSumUs := 0
        mAddedFramesForFPSCheck := 0 })

/-- `mRecords[mLatestRecordIndex] = record`, with the counters. -/
def storeRecord (record : CycleRecord) : SessionRecords :=
  { records with
    mRecords := records.mRecords.set records.mLatestRecordIndex.toNat record
    mNumOfFrames := records.mNumOfFrames + 1
    mNumOfMissedCycles :=
      if record.isMissedCycle then records.mNumOfMissedCycles + 1
      else records.mNumOfMissedCycles }

/-- Pop the indexes of the records that are not longer, push the latest one
and add its duration to the totals. -/
def pushIndex (totalDurationUs : Int) : SessionRecords :=
  let sumOfDurationsUs := int64 (records.mSumOfDurationsUs + totalDurationUs)
  { records with
    mRecordsIndQueue :=
      records.mRecordsIndQueue.rdropWhile (fun index =>
        decide ((records.recordAt platform index).totalDurationUs ≤
          totalDurationUs)) ++ [records.mLatestRecordIndex]
    mSumOfDurationsUs := sumOfDurationsUs
    mAvgDurationUs := int32 (sumOfDurationsUs.tdiv records.mNumOfFrames) }

def updateGameMetrics (frameIntervalUs : Int) (gameMetrics : GameFrameMetrics) :
    GameFrameMetrics :=
  if frameIntervalUs ≤ 0 then gameMetrics
  else
    let frameIntervalMs := frameIntervalUs.tdiv 1000
    let deltaUs := int32 (frameIntervalUs -
      (records.recordAt platform records.mPreLastRecordIndex).startIntervalUs)
    { frameTimingMs :=
        gameMetrics.frameTimingMs ++ [UInt32.ofInt frameIntervalMs]
      frameTimingDeltaMs :=
        if 2 < records.mNumOfFrames then
          gameMetrics.frameTimingDeltaMs ++
            [UInt32.ofInt (Int.tdiv deltaUs.natAbs 1000)]
        else gameMetrics.frameTimingDeltaMs
      totalFrameTimeMs :=
        gameMetrics.totalFrameTimeMs + UInt64.ofInt frameIntervalMs
      numOfFrames := gameMetrics.numOfFrames + 1 }

/-- The body of the loop in `addReportedDurations`. -/
def addReportedDuration (targetDurationNs : Int) (computeGameMetrics : Bool)
    (state : SessionRecords × FrameTimingMetrics) (duration : WorkDuration) :
    SessionRecords × FrameTimingMetrics :=
  let totalDurationUs := duration.totalDurationUs
  let kept := state.1.removeOldest platform
  let startIntervalUs :=
    if 0 < kept.mNumOfFrames then
      startIntervalUs duration.startTimeNs kept.mLastStartTimeNs
    else 0
  let (FPSJitter, tracked) :=
    (kept.advance duration.startTimeNs).trackFPSJitter platform
      startIntervalUs computeGameMetrics
  let cycleMissed := cycleMissed platform tracked.kJankCheckTimeFactor
    totalDurationUs targetDurationNs
  let stored := tracked.storeRecord
    ⟨startIntervalUs, totalDurationUs, cycleMissed, FPSJitter⟩
  (stored.pushIndex platform totalDurationUs,
    { framesInBuckets := updateFrameBuckets totalDurationUs cycleMissed
        state.2.framesInBuckets
      gameFrameMetrics :=
        if computeGameMetrics then
          stored.updateGameMetrics platform startIntervalUs
            state.2.gameFrameMetrics
        else state.2.gameFrameMetrics })

/-- The records after a batch, and the metrics with the batch added. -/
def addReportedDurations (actualDurationsNs : List WorkDuration)
    (targetDurationNs : Int) (newFrameMetrics : FrameTimingMetrics)
    (computeGameMetrics : Bool) : SessionRecords × FrameTimingMetrics :=
  actualDurationsNs.foldl
    (addReportedDuration platform targetDurationNs computeGameMetrics)
    (records, newFrameMetrics)

/-- Old records stay in the ring. -/
def resetRecords : SessionRecords :=
  { records with
    mAvgDurationUs := 0
    mLastStartTimeNs := 0
    mLatestRecordIndex := -1
    mNumOfMissedCycles := 0
    mNumOfFrames := 0
    mSumOfDurationsUs := 0
    mRecordsIndQueue := [] }

/-! ## Observers -/

def getMaxDuration : Option Int :=
  records.mRecordsIndQueue.head?.map fun index =>
    (records.recordAt platform index).totalDurationUs

def getAvgDuration : Option Int :=
  if records.mNumOfFrames ≤ 0 then none else some records.mAvgDurationUs

def getNumOfRecords : Int := records.mNumOfFrames

def getNumOfMissedCycles : Int := records.mNumOfMissedCycles

/-- `startIntervalUs >= 1000000.0 / fpsLowRateThreshold`; the quotient by zero
is infinite. -/
def isSlow (fpsLowRateThreshold : Int) (record : CycleRecord) : Bool :=
  decide (fpsLowRateThreshold ≠ 0) &&
    decide (platform.rounding.round ((1000000 : ℚ) / fpsLowRateThreshold) ≤
      record.startIntervalUs)

/-- The index before another one in the ring. -/
def previousIndex (index : Int) : Int :=
  if index = 0 then records.kMaxNumOfRecords - 1 else index - 1

def isLowFrameRate (fpsLowRateThreshold : Int) : Bool :=
  if 3 ≤ records.mNumOfFrames then
    let ind1 := records.mLatestRecordIndex
    let ind2 := records.previousIndex ind1
    let ind3 := records.previousIndex ind2
    isSlow platform fpsLowRateThreshold (records.recordAt platform ind1) &&
      isSlow platform fpsLowRateThreshold (records.recordAt platform ind2) &&
      isSlow platform fpsLowRateThreshold (records.recordAt platform ind3)
  else false

/-- The frames per second over the intervals of the check, unless that divides
by zero. -/
def getLatestFPS : Option Int :=
  if records.mLatestStartIntervalSumUs = 0 then none
  else some ((1000000 * kTotalFramesForFPSCheck).tdiv
    records.mLatestStartIntervalSumUs)

def getNumOfFPSJitters : Int := records.mNumOfFrameFPSJitters

/-- The calls that change the records. -/
inductive Call where
  | addReportedDurations (actualDurationsNs : List WorkDuration)
      (targetDurationNs : Int) (newFrameMetrics : FrameTimingMetrics)
      (computeGameMetrics : Bool)
  | resetRecords

def call : Call → SessionRecords
  | .addReportedDurations actualDurationsNs targetDurationNs newFrameMetrics
      computeGameMetrics =>
      (records.addReportedDurations platform actualDurationsNs
        targetDurationNs newFrameMetrics computeGameMetrics).1
  | .resetRecords => records.resetRecords

end SessionRecords

end HardwareInterfaces.FrameRecords

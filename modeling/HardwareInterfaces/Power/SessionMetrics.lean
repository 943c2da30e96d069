import HardwareInterfaces.Power.AdpfTypes

/-!
# Frame metrics collected for a power session

Counters keep the machine widths of the source: a session counts its frames
in 32 bits and the total frame time in 64 bits, both wrapping around.
-/

namespace HardwareInterfaces.Metrics

open AdpfTypes

def timeBucketsSize : Nat := 100

/-- Frames below this number are not worth uploading. -/
def kNumOfFramesThreshold : UInt32 := 20

structure FrameBuckets where
  totalNumOfFrames : Int := 0
  numOfFrames17to25ms : Int := 0
  numOfFrames25to34ms : Int := 0
  numOfFrames34to67ms : Int := 0
  numOfFrames67to100ms : Int := 0
  numOfFramesOver100ms : Int := 0
  deriving DecidableEq, Repr

def FrameBuckets.addUpNewFrames (buckets newFrames : FrameBuckets) :
    FrameBuckets where
  totalNumOfFrames := buckets.totalNumOfFrames + newFrames.totalNumOfFrames
  numOfFrames17to25ms :=
    buckets.numOfFrames17to25ms + newFrames.numOfFrames17to25ms
  numOfFrames25to34ms :=
    buckets.numOfFrames25to34ms + newFrames.numOfFrames25to34ms
  numOfFrames34to67ms :=
    buckets.numOfFrames34to67ms + newFrames.numOfFrames34to67ms
  numOfFrames67to100ms :=
    buckets.numOfFrames67to100ms + newFrames.numOfFrames67to100ms
  numOfFramesOver100ms :=
    buckets.numOfFramesOver100ms + newFrames.numOfFramesOver100ms

/-- A batch lists its frame times; an accumulated metric is a histogram with
one cell per millisecond. -/
structure GameFrameMetrics where
  frameTimingMs : List UInt32 := []
  frameTimingDeltaMs : List UInt32 := []
  totalFrameTimeMs : UInt64 := 0
  numOfFrames : UInt32 := 0
  deriving DecidableEq, Repr

structure FrameTimingMetrics where
  framesInBuckets : FrameBuckets := {}
  gameFrameMetrics : GameFrameMetrics := {}
  deriving DecidableEq, Repr

inductive ScenarioType where
  | default
  | game
  deriving DecidableEq, Repr

inductive FrameTimelineType where
  | surfaceflinger
  | app
  deriving DecidableEq, Repr

structure SessionMetrics where
  uid : Option Int := none
  scenarioType : ScenarioType := .default
  frameTimelineType : FrameTimelineType := .app
  metricStartTime : TimePoint := 0
  metricEndTime : TimePoint := 0
  metricSessionCompleted : Bool := false
  thermalThrotStat : ThrottlingSeverity := .none
  totalFrameNumber : UInt32 := 0
  appFrameMetrics : Option FrameBuckets := none
  gameFrameMetrics : Option GameFrameMetrics := none
  deriving DecidableEq, Repr

/-- `now` is the wall clock that the reset reads. -/
def SessionMetrics.resetMetric (metrics : SessionMetrics)
    (newThermalState : ThrottlingSeverity) (newScenario : ScenarioType)
    (now : TimePoint) : SessionMetrics :=
  { metrics with
    scenarioType := newScenario
    thermalThrotStat := newThermalState
    metricSessionCompleted := false
    totalFrameNumber := 0
    metricStartTime := now
    appFrameMetrics := none
    gameFrameMetrics := none }

/-- Count one sample in a histogram; samples past the end fall in the last
cell. -/
def countSample (histogram : List UInt32) (sample : UInt32) : List UInt32 :=
  if timeBucketsSize ≤ sample.toNat then
    histogram.modify (timeBucketsSize - 1) (· + 1)
  else histogram.modify sample.toNat (· + 1)

/-- The part of an outlier above the last cell is taken back out of the total
time, which already contains the whole sample. -/
def trimOutlier (total : UInt64) (sample : UInt32) : UInt64 :=
  if timeBucketsSize ≤ sample.toNat then
    total - (sample - UInt32.ofNat timeBucketsSize).toUInt64
  else total

def emptyGameFrameMetrics : GameFrameMetrics where
  frameTimingMs := List.replicate timeBucketsSize 0
  frameTimingDeltaMs := List.replicate timeBucketsSize 0

/-- `addNewFrames` for a batch of game frames. -/
def SessionMetrics.addNewGameFrames (metrics : SessionMetrics)
    (newFrameMetrics : GameFrameMetrics) : SessionMetrics :=
  let game := metrics.gameFrameMetrics.getD emptyGameFrameMetrics
  let total := game.totalFrameTimeMs + newFrameMetrics.totalFrameTimeMs
  { metrics with
    totalFrameNumber := metrics.totalFrameNumber + newFrameMetrics.numOfFrames
    gameFrameMetrics := some
      { frameTimingMs :=
          newFrameMetrics.frameTimingMs.foldl countSample game.frameTimingMs
        frameTimingDeltaMs :=
          newFrameMetrics.frameTimingDeltaMs.foldl countSample
            game.frameTimingDeltaMs
        totalFrameTimeMs :=
          newFrameMetrics.frameTimingMs.foldl trimOutlier total
        numOfFrames := game.numOfFrames + newFrameMetrics.numOfFrames } }

/-- `addNewFrames` for a batch of application frames.  The 64-bit frame count
is reduced to the 32 bits of the total. -/
def SessionMetrics.addNewAppFrames (metrics : SessionMetrics)
    (newFrameMetrics : FrameBuckets) : SessionMetrics :=
  { metrics with
    totalFrameNumber :=
      UInt32.ofNat ((metrics.totalFrameNumber.toNat +
        newFrameMetrics.totalNumOfFrames) % 2 ^ 32).toNat
    appFrameMetrics := some
      (match metrics.appFrameMetrics with
      | none => newFrameMetrics
      | some buckets => buckets.addUpNewFrames newFrameMetrics) }

end HardwareInterfaces.Metrics

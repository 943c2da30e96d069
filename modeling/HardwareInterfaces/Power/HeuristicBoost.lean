import HardwareInterfaces.Power.IntervalSum
import HardwareInterfaces.Power.PidArithmetic
import HardwareInterfaces.Power.PowerHintSession

/-!
# The heuristic boost of a hint session

A hint session with its frame records and its PID controller.  A report first
goes into the records, from which the janky level is computed; the controller
then turns the report into a change of the boost, and the boost is kept between
bounds that depend on the level.  Everything else that a binder call does is
taken from the session itself.

The records exist only if the profile had the heuristic boost on when the
session was made.  The profile can be replaced later, and every call reads the
profile in force.  Besides failing with a status code, a call can go through
the missing records or divide by zero.
-/

namespace HardwareInterfaces.HeuristicBoost

open AdpfTypes FrameRecords HintSession MachineArithmetic Metrics Pid
open SessionManager Transition

/-- A profile with its settings for the controller and the heuristic boost. -/
structure AdpfProfile extends AdpfConfig, PidConfig where
  mMaxRecordsNum : Option Int
  mJankCheckTimeFactor : Option ℚ
  mLowFrameRateThreshold : Option Int
  mHBoostModerateJankThreshold : Option Int
  mHBoostSevereJankThreshold : Option Int
  mHBoostOffMaxAvgDurRatio : Option ℚ
  mHBoostSevereJankPidPu : Option ℚ
  mHBoostUclampMinFloorRange : Option (Int × Int)
  mHBoostUclampMinCeilingRange : Option (Int × Int)

/-- `mHeuristicBoostOn.has_value() && mHeuristicBoostOn.value()` -/
def AdpfProfile.hboostEnabled (profile : AdpfProfile) : Bool :=
  profile.mHeuristicBoostOn.getD false

/-- How a call ends when it is not accepted: the session fails, or the
behaviour is undefined. -/
inductive Fault where
  | failed (failure : Failure)
  | nullRecords
  | divisionByZero
  deriving DecidableEq, Repr

/-- `value()` of an optional setting. -/
def value {Setting : Type*} : Option Setting → Except Fault Setting
  | some setting => .ok setting
  | none => .error (.failed .badOptionalAccess)

structure WorkDuration where
  timeStampNanos : Int
  durationNanos : Int
  gpuDurationNanos : Int
  deriving DecidableEq, Repr

/-- What the records read of it. -/
def WorkDuration.toFrame (duration : WorkDuration) :
    FrameRecords.WorkDuration where
  timeStampNanos := duration.timeStampNanos
  durationNanos := duration.durationNanos

/-- What the session reads of it. -/
def WorkDuration.toGpu (duration : WorkDuration) :
    HintSession.WorkDuration where
  gpuDurationNanos := duration.gpuDurationNanos

/-- What a call reads from its surroundings. -/
structure CallEnv where
  platform : Platform
  now : TimePoint
  /-- `HintManager::GetAdpfProfile` for the tag of the session. -/
  hintManagerProfile : AdpfProfile
  hintSupported : String → Bool
  mPSManager : PowerSessionManager

/-- A hint session with its profile, its records and its controller. -/
structure BoostSession extends PowerHintSession where
  mAdpfProfile : Option AdpfProfile
  mSessionRecords : Option SessionRecords
  mJankyFrameNum : Int := 0
  pid : PidState := {}

/-! ## The janky level -/

section Level

variable (platform : Platform) (profile : AdpfProfile)

def updateSessionJankState (oldState : SessionJankyLevel)
    (numOfJankFrames : Int) (durationVariance : ℚ) (isLowFPS : Bool) :
    Except Fault SessionJankyLevel :=
  if isLowFPS then .ok .light
  else do
    let moderate ← value profile.mHBoostModerateJankThreshold
    if numOfJankFrames < moderate then
      if oldState = .light then .ok .light
      else do
        let ratio ← value profile.mHBoostOffMaxAvgDurRatio
        .ok (if durationVariance < ratio then .light else .moderate)
    else do
      let severe ← value profile.mHBoostSevereJankThreshold
      .ok (if numOfJankFrames < severe then .moderate else .severe)

/-- The level and the number of janky frames that a session with these records
is left with.  A SurfaceFlinger session also traces its frame rate. -/
def updateHeuristicBoost (tag : SessionTag) (records : SessionRecords)
    (jankyLevel : SessionJankyLevel) (jankyFrameNum : Int) :
    Except Fault (SessionJankyLevel × Int) :=
  match records.getMaxDuration platform, records.getAvgDuration with
  | some maxDurationUs, some avgDurationUs =>
    if avgDurationUs ≤ 0 then .ok (jankyLevel, jankyFrameNum)
    else do
      let maxToAvgRatio := platform.rounding.round
        (maxDurationUs / avgDurationUs)
      let lowFrameRate ← value profile.mLowFrameRateThreshold
      let level ← updateSessionJankState profile jankyLevel
        records.getNumOfMissedCycles maxToAvgRatio
        (records.isLowFrameRate platform lowFrameRate)
      if tag = .surfaceflinger ∧ records.getLatestFPS = none then
        .error .divisionByZero
      else .ok (level, records.getNumOfMissedCycles)
  | _, _ => .ok (jankyLevel, jankyFrameNum)

/-- Where the number of janky frames lies between the two thresholds. -/
def jankyFactor (jankyFrameNum : Int) : Except Fault ℚ := do
  let round := platform.rounding.round
  let moderate ← value profile.mHBoostModerateJankThreshold
  if jankyFrameNum < moderate then .ok 0
  else do
    let severe ← value profile.mHBoostSevereJankThreshold
    .ok (round (round (jankyFrameNum - moderate : Int) /
      round (severe - moderate : Int)))

/-- The gain of the controller for negative errors. -/
def pidPuActive (jankyLevel : SessionJankyLevel) (jankyFrameNum : Int) :
    Except Fault ℚ :=
  if !profile.hboostEnabled then .ok profile.mPidPu
  else do
    let round := platform.rounding.round
    let severePidPu ← value profile.mHBoostSevereJankPidPu
    let hboostPidPu := min severePidPu profile.mPidPu
    match jankyLevel with
    | .light => .ok profile.mPidPu
    | .moderate => do
        let factor ← jankyFactor platform profile jankyFrameNum
        .ok (round (profile.mPidPu +
          round (factor * round (hboostPidPu - profile.mPidPu))))
    | .severe => .ok hboostPidPu

/-- A bound of the boost: the plain one, or one from the range of the
profile.  The bounds are unsigned numbers of 32 bits. -/
def hboostBound (jankyLevel : SessionJankyLevel) (jankyFrameNum bound : Int)
    (range : Option (Int × Int)) : Except Fault Int :=
  if !profile.hboostEnabled then .ok bound
  else do
    let round := platform.rounding.round
    let (first, second) ← value range
    match jankyLevel with
    | .light => .ok bound
    | .moderate => do
        let factor ← jankyFactor platform profile jankyFrameNum
        let width : Int := (max bound second - max bound first) % 2 ^ 32
        .ok (truncate (round (max bound first + round (width * factor))))
    | .severe => .ok (max bound second)

end Level

/-! ## Calls -/

/-- What the records make of a report. -/
structure Evaluation where
  mSessionRecords : Option SessionRecords
  newFrameMetrics : FrameTimingMetrics
  jankyLevel : SessionJankyLevel
  jankyFrameNum : Int

inductive BinderCall where
  | pause
  | resume
  | close
  | updateTargetWorkDuration (targetDurationNanos : Nanoseconds)
  | reportActualWorkDuration (actualDurations : List WorkDuration)
      (additionalGpuCapacity : Option Cycles)
  | sendHint (hint : SessionHint)
  | setMode (mode : SessionMode) (enabled : Bool)
  | setThreads (threadIds : List TaskId)

namespace BoostSession

variable (env : CallEnv) (session : BoostSession)

/-- The profile in force. -/
def getAdpfProfile : AdpfProfile :=
  session.mAdpfProfile.getD env.hintManagerProfile

def clientEnv : ClientEnv where
  now := env.now
  adpfProfile := (session.getAdpfProfile env).toAdpfConfig
  hintSupported := env.hintSupported

/-- The constructor, given the profile that the hint manager returned first. -/
def create (descriptor : AppHintDesc) (adpfProfile : Option AdpfProfile) :
    Except Fault BoostSession :=
  let profile := adpfProfile.getD env.hintManagerProfile
  let session : PowerHintSession := ⟨descriptor, env.now, false, .light⟩
  if profile.hboostEnabled then do
    let maxRecordsNum ← value profile.mMaxRecordsNum
    let jankCheckTimeFactor ← value profile.mJankCheckTimeFactor
    .ok
      { toPowerHintSession := session
        mAdpfProfile := adpfProfile
        mSessionRecords := some
          (SessionRecords.new maxRecordsNum jankCheckTimeFactor) }
  else .ok
    { toPowerHintSession := session
      mAdpfProfile := adpfProfile
      mSessionRecords := none }

/-- Whether the session is a SurfaceFlinger session in game mode. -/
def computeGameMetrics : Bool :=
  decide (session.mDescriptor.tag = .surfaceflinger) &&
    env.mPSManager.mGameModeEnabled

/-- The heuristic part of a report. -/
def evaluate (actualDurations : List WorkDuration) : Except Fault Evaluation :=
  let profile := session.getAdpfProfile env
  if !profile.hboostEnabled then .ok
    { mSessionRecords := session.mSessionRecords
      newFrameMetrics := {}
      jankyLevel := session.mJankyLevel
      jankyFrameNum := session.mJankyFrameNum }
  else
    match session.mSessionRecords with
    | none => .error .nullRecords
    | some records => do
        let (added, newFrameMetrics) := records.addReportedDurations
          env.platform (actualDurations.map WorkDuration.toFrame)
          session.mDescriptor.targetNs {} (session.computeGameMetrics env)
        let (jankyLevel, jankyFrameNum) ← updateHeuristicBoost env.platform
          profile session.mDescriptor.tag added session.mJankyLevel
          session.mJankyFrameNum
        .ok
          { mSessionRecords := some added
            newFrameMetrics := newFrameMetrics
            jankyLevel := jankyLevel
            jankyFrameNum := jankyFrameNum }

/-- The checks at the start of a report. -/
def reportFailure (actualDurations : List WorkDuration) : Option Failure :=
  if session.mSessionClosed then some .illegalState
  else if session.mDescriptor.targetNs = 0 then some .illegalState
  else if actualDurations = [] then some .illegalArgument
  else if !session.mDescriptor.isActive then some .illegalState
  else none

/-- The part of a report that depends on the controller. -/
def boostByPid (actualDurations : List WorkDuration)
    (additionalGpuCapacity : Option Cycles) :
    Except Fault (BoostSession × Report) := do
  let profile := session.getAdpfProfile env
  let evaluation ← session.evaluate env actualDurations
  let gain ← pidPuActive env.platform profile evaluation.jankyLevel
    evaluation.jankyFrameNum
  let (output, pid) := convertWorkDurationToBoostByPid env.platform.rounding
    profile.toPidConfig gain session.mDescriptor.targetNs session.pid
    (actualDurations.map WorkDuration.durationNanos)
  let floor ← hboostBound env.platform profile evaluation.jankyLevel
    evaluation.jankyFrameNum profile.mUclampMinLow
    profile.mHBoostUclampMinFloorRange
  let ceiling ← hboostBound env.platform profile evaluation.jankyLevel
    evaluation.jankyFrameNum profile.mUclampMinHigh
    profile.mHBoostUclampMinCeilingRange
  .ok
    ({ session with
        mSessionRecords := evaluation.mSessionRecords
        mJankyFrameNum := evaluation.jankyFrameNum
        pid := pid },
      { actualDurations := actualDurations.map WorkDuration.toGpu
        newFrameMetrics := evaluation.newFrameMetrics
        jankyLevel := evaluation.jankyLevel
        output := output
        hboostUclampMinFloor := floor
        hboostUclampMinCeiling := ceiling
        additionalGpuCapacity := additionalGpuCapacity })

/-- A report whose durations are not evaluated. -/
def plainReport (actualDurations : List WorkDuration)
    (additionalGpuCapacity : Option Cycles) : Report where
  actualDurations := actualDurations.map WorkDuration.toGpu
  newFrameMetrics := {}
  jankyLevel := session.mJankyLevel
  output := 0
  hboostUclampMinFloor := 0
  hboostUclampMinCeiling := 0
  additionalGpuCapacity := additionalGpuCapacity

/-- The target moves by more than the threshold, and the heuristic boost is
on. -/
def resetsHeuristics (targetDurationNanos : Nanoseconds) : Bool :=
  let profile := session.getAdpfProfile env
  let target := profile.mTargetTimeFactor targetDurationNanos
  let lastTargetNs := session.mDescriptor.targetNs
  profile.hboostEnabled && decide
    (target ≠ lastTargetNs ∧
      Int.tdiv lastTargetNs 100 * kTargetDurationChangeThreshold <
        ((target - lastTargetNs).natAbs : Int))

/-- The rest of a binder call is what the session does. -/
def accept (request : Request) : Except Fault BoostSession :=
  match session.toPowerHintSession.accept (session.clientEnv env)
    env.mPSManager request with
  | .error failure => .error (.failed failure)
  | .ok accepted => .ok
      { session with toPowerHintSession := accepted.session }

def reportActualWorkDuration (actualDurations : List WorkDuration)
    (additionalGpuCapacity : Option Cycles) : Except Fault BoostSession :=
  match session.reportFailure actualDurations with
  | some failure => .error (.failed failure)
  | none =>
    if !(session.getAdpfProfile env).mPidOn then
      session.accept env (.reportActualWorkDuration
        (session.plainReport actualDurations additionalGpuCapacity))
    else do
      let (boosted, report) ← session.boostByPid env actualDurations
        additionalGpuCapacity
      boosted.accept env (.reportActualWorkDuration report)

def updateTargetWorkDuration (targetDurationNanos : Nanoseconds) :
    Except Fault BoostSession :=
  if session.mSessionClosed then .error (.failed .illegalState)
  else if targetDurationNanos ≤ 0 then .error (.failed .illegalArgument)
  else
    let request := Request.updateTargetWorkDuration targetDurationNanos
    if session.resetsHeuristics env targetDurationNanos then
      match session.mSessionRecords with
      | none => .error .nullRecords
      | some records =>
        { session with
          mSessionRecords := some records.resetRecords
          mJankyFrameNum := 0 }.accept env request
    else session.accept env request

def call : BinderCall → Except Fault BoostSession
  | .pause => session.accept env .pause
  | .resume => session.accept env .resume
  | .close => session.accept env .close
  | .updateTargetWorkDuration targetDurationNanos =>
    session.updateTargetWorkDuration env targetDurationNanos
  | .reportActualWorkDuration actualDurations additionalGpuCapacity =>
    session.reportActualWorkDuration env actualDurations
      additionalGpuCapacity
  | .sendHint hint => session.accept env (.sendHint hint)
  | .setMode mode enabled => session.accept env (.setMode mode enabled)
  | .setThreads threadIds => session.accept env (.setThreads threadIds)

/-- How the call ends if it is not accepted. -/
def fault (binderCall : BinderCall) : Option Fault :=
  match session.call env binderCall with
  | .error fault => some fault
  | .ok _ => none

end BoostSession

/-- What can happen to a session. -/
inductive Event where
  | setAdpfProfile (profile : Option AdpfProfile)
  | call (env : CallEnv) (binderCall : BinderCall)

/-- A call that is not accepted changes nothing.  What follows undefined
behaviour is not modelled either. -/
def BoostSession.step (session : BoostSession) : Event → Option BoostSession
  | .setAdpfProfile profile => some { session with mAdpfProfile := profile }
  | .call env binderCall =>
    match session.call env binderCall with
    | .error _ => some session
    | .ok next => some next

end HardwareInterfaces.HeuristicBoost

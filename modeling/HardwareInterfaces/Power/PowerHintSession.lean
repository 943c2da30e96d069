import HardwareInterfaces.Power.PowerSessionManager

/-!
# Hint sessions and their clients

A client talks to a hint session, and the session to the manager.  A binder
call first checks its arguments and the state of the session.  If it is
accepted, it updates the session and makes a number of calls on the manager.

The session's lock is held during a binder call, so that the calls of one
session never overlap.  The manager has a lock of its own, taken for one call
at a time.  Between two manager calls of one binder call, other sessions and
the timeout worker can call the manager too.  The service below therefore
keeps, for every session, the manager calls that its current binder call has
still to make, and one step makes one of them.

Results of floating-point computations (the PID controller, the heuristic
bounds, the GPU capacity) are taken from the call as they come.
-/

namespace HardwareInterfaces.HintSession

open AdpfTypes Metrics SessionManager

/-- How a binder call fails.  The last one is not a status code: it stands for
the value of an empty `std::optional`. -/
inductive Failure where
  | illegalState
  | illegalArgument
  | badOptionalAccess
  deriving DecidableEq, Repr

/-- The values of `SessionHint`; a client can send any other integer too. -/
inductive SessionHint where
  | cpuLoadUp
  | cpuLoadDown
  | cpuLoadReset
  | cpuLoadResume
  | powerEfficiency
  | gpuLoadUp
  | gpuLoadDown
  | gpuLoadReset
  | cpuLoadSpike
  | gpuLoadSpike
  | invalid (raw : Int)
  deriving DecidableEq, Repr

def SessionHint.toString : SessionHint → String
  | cpuLoadUp => "CPU_LOAD_UP"
  | cpuLoadDown => "CPU_LOAD_DOWN"
  | cpuLoadReset => "CPU_LOAD_RESET"
  | cpuLoadResume => "CPU_LOAD_RESUME"
  | powerEfficiency => "POWER_EFFICIENCY"
  | gpuLoadUp => "GPU_LOAD_UP"
  | gpuLoadDown => "GPU_LOAD_DOWN"
  | gpuLoadReset => "GPU_LOAD_RESET"
  | cpuLoadSpike => "CPU_LOAD_SPIKE"
  | gpuLoadSpike => "GPU_LOAD_SPIKE"
  | invalid raw => raw.repr

/-- Only one of the modes is implemented. -/
inductive SessionMode where
  | powerEfficiency
  | other (raw : Int)
  deriving DecidableEq, Repr

def kTargetDurationChangeThreshold : Int := 30

def kHINTNAME_APP_FIRST_FRAME : String := "PER_ADPF_SESSION_FIRST_FRAME"

def kHINTNAME_SYS_FIRST_FRAME : String := "ALL_ADPF_SESSIONS_FIRST_FRAME"

/-- A hint handed to the hint manager, with an overriding duration. -/
structure PowerHint where
  name : String
  durationMs : Option Nat
  deriving DecidableEq, Repr

structure WorkDuration where
  gpuDurationNanos : Int

/-- A report of work durations, with what is computed from them. -/
structure Report where
  actualDurations : List WorkDuration
  /-- What the session records make of the durations. -/
  newFrameMetrics : FrameTimingMetrics
  /-- The level that `updateHeuristicBoost` leaves. -/
  jankyLevel : SessionJankyLevel
  /-- The result of `convertWorkDurationToBoostByPid`. -/
  output : Int
  /-- The bounds in force when the heuristic boost is on. -/
  hboostUclampMinFloor : Int
  hboostUclampMinCeiling : Int
  /-- The result of `calculate_capacity`, if the GPU frequency is known. -/
  additionalGpuCapacity : Option Cycles

/-- The binder calls of a session. -/
inductive Request where
  | pause
  | resume
  | close
  | updateTargetWorkDuration (targetDurationNanos : Nanoseconds)
  | reportActualWorkDuration (report : Report)
  | sendHint (hint : SessionHint)
  | setMode (mode : SessionMode) (enabled : Bool)
  | setThreads (threadIds : List TaskId)

/-- What a binder call reads from its surroundings. -/
structure ClientEnv where
  /-- `steady_clock::now()` -/
  now : TimePoint
  /-- The result of `getAdpfProfile()`. -/
  adpfProfile : AdpfConfig
  hintSupported : String → Bool

/-- The calls on the manager that a session makes for itself. -/
inductive ManagerCall where
  | removePowerSession
  | setThreadsFromPowerSession (threadIds : List TaskId)
  | pause
  | resume
  | updateTargetWorkDuration (voteId : AdpfVoteType) (durationNs : Nanoseconds)
  | voteSetCpu (voteId : AdpfVoteType) (uclampMin uclampMax : Int)
      (durationNs : Nanoseconds)
  | voteSetGpu (voteId : AdpfVoteType) (capacity : Cycles)
      (durationNs : Nanoseconds)
  | disableBoosts
  | setPreferPowerEfficiency (enabled : Bool)
  | updateRampupBoostMode (jankyLevel : SessionJankyLevel)
      (defaultRampupVal highRampupVal : Int)
  | updateHboostStatistics (jankyLevel : SessionJankyLevel) (numOfFrames : Int)
  | updateFrameMetrics (lastReportedFrames : FrameTimingMetrics)
  | updateCollectedSessionMetrics

/-- The call on behalf of a session.  A vote starts when it is cast. -/
def ManagerCall.toCall (before after : Env) (sessionId : SessionId) :
    ManagerCall → PowerSessionManager.Call
  | removePowerSession => .removePowerSession after sessionId
  | setThreadsFromPowerSession threadIds =>
    .setThreadsFromPowerSession before after sessionId threadIds
  | pause => .pause after sessionId
  | resume => .resume after sessionId
  | updateTargetWorkDuration voteId durationNs =>
    .updateTargetWorkDuration sessionId voteId durationNs
  | voteSetCpu voteId uclampMin uclampMax durationNs =>
    .voteSetCpu after sessionId voteId uclampMin uclampMax before.now
      durationNs
  | voteSetGpu voteId capacity durationNs =>
    .voteSetGpu after sessionId voteId capacity before.now durationNs
  | disableBoosts => .disableBoosts sessionId
  | setPreferPowerEfficiency enabled =>
    .setPreferPowerEfficiency after sessionId enabled
  | updateRampupBoostMode jankyLevel defaultRampupVal highRampupVal =>
    .updateRampupBoostMode sessionId jankyLevel defaultRampupVal
      highRampupVal
  | updateHboostStatistics jankyLevel numOfFrames =>
    .updateHboostStatistics sessionId jankyLevel numOfFrames
  | updateFrameMetrics lastReportedFrames =>
    .updateFrameMetrics sessionId lastReportedFrames
  | updateCollectedSessionMetrics =>
    .updateCollectedSessionMetrics after sessionId

structure PowerHintSession where
  mDescriptor : AppHintDesc
  mLastUpdatedTime : TimePoint
  mSessionClosed : Bool
  mJankyLevel : SessionJankyLevel

/-- What an accepted binder call does: the session it leaves, its calls on the
manager in order, and the hints it sends. -/
structure Accepted where
  session : PowerHintSession
  calls : List ManagerCall
  hints : List PowerHint

namespace PowerHintSession

variable (session : PowerHintSession) (env : ClientEnv)

def isTimeout : Bool :=
  let staleTime := session.mLastUpdatedTime +
    env.adpfProfile.mStaleTimeFactor session.mDescriptor.targetNs
  decide (staleTime ≤ env.now)

def hboostEnabled : Bool :=
  env.adpfProfile.mHeuristicBoostOn.getD false

/-- `tryToSendPowerHint` -/
def powerHints (hint : String) (durationMs : Option Nat) : List PowerHint :=
  if env.hintSupported hint then [⟨hint, durationMs⟩] else []

def setPidControlVariable (pidControlVariable : Int) : PowerHintSession :=
  { session with
    mDescriptor :=
      { session.mDescriptor with pidControlVariable := pidControlVariable } }

/-- The vote of `updatePidControlVariable`. -/
def pidVote (pidControlVariable : Int) : ManagerCall :=
  .voteSetCpu .cpuVoteDefault pidControlVariable kUclampMax
    (max (env.adpfProfile.mStaleTimeFactor session.mDescriptor.targetNs)
      (env.adpfProfile.mReportingRateLimitNs * 2))

def setActive (isActive : Bool) : PowerHintSession :=
  { session with
    mDescriptor := { session.mDescriptor with isActive := isActive } }

def pause : Except Failure Accepted :=
  if session.mSessionClosed then .error .illegalState
  else if !session.mDescriptor.isActive then .error .illegalState
  else .ok
    { session := session.setActive false
      calls := [.pause, .setThreadsFromPowerSession []]
      hints := [] }

def resume : Except Failure Accepted :=
  if session.mSessionClosed then .error .illegalState
  else if session.mDescriptor.isActive then .error .illegalState
  else .ok
    { session := session.setActive true
      calls :=
        [.setThreadsFromPowerSession session.mDescriptor.threadIds, .resume]
      hints := [] }

def close : Except Failure Accepted :=
  if session.mSessionClosed then .error .illegalState
  else .ok
    { session := { session.setActive false with mSessionClosed := true }
      calls := [.removePowerSession]
      hints := [] }

/-- A target that moves by more than the threshold resets the heuristic
boost. -/
def updateTargetWorkDuration (targetDurationNanos : Nanoseconds) :
    Except Failure Accepted :=
  if session.mSessionClosed then .error .illegalState
  else if targetDurationNanos ≤ 0 then .error .illegalArgument
  else
    let target := env.adpfProfile.mTargetTimeFactor targetDurationNanos
    let lastTargetNs := session.mDescriptor.targetNs
    let reset := hboostEnabled env && decide
      (target ≠ lastTargetNs ∧
        Int.tdiv lastTargetNs 100 * kTargetDurationChangeThreshold <
          ((target - lastTargetNs).natAbs : Int))
    .ok
      { session :=
          { session with
            mDescriptor := { session.mDescriptor with targetNs := target }
            mJankyLevel := if reset then .light else session.mJankyLevel }
        calls := [.updateTargetWorkDuration .cpuVoteDefault target]
        hints := [] }

/-- The calls of a report that belong to the heuristic boost. -/
def hboostCalls (rampupMultNode : Bool) (report : Report) :
    Except Failure (List ManagerCall) :=
  let collected : List ManagerCall :=
    [.updateHboostStatistics session.mJankyLevel report.actualDurations.length,
      .updateFrameMetrics report.newFrameMetrics,
      .updateCollectedSessionMetrics]
  let heurRampupEnabled := env.adpfProfile.mHeuristicRampup.getD false &&
    decide (session.mDescriptor.procTag ≠ .chrome)
  if !hboostEnabled env then .ok []
  else if heurRampupEnabled && rampupMultNode then
    match env.adpfProfile.mDefaultRampupMult,
      env.adpfProfile.mHighRampupMult with
    | some defaultRampupMult, some highRampupMult =>
      .ok (collected ++ [.updateRampupBoostMode report.jankyLevel
        defaultRampupMult highRampupMult])
    | _, _ => .error .badOptionalAccess
  else .ok collected

/-- The GPU vote of a report, clamped to the capacity of the profile. -/
def gpuCalls (report : Report) (lastDuration : WorkDuration) :
    List ManagerCall :=
  match env.adpfProfile.mGpuBoostOn, env.adpfProfile.mGpuBoostCapacityMax,
    report.additionalGpuCapacity with
  | some true, some capacityMax, some capacity =>
    if lastDuration.gpuDurationNanos = 0 then []
    else
      [.voteSetGpu .gpuCapacity
        (if capacity < 0 then 0
        else if capacityMax < capacity then capacityMax
        else capacity)
        (env.adpfProfile.mStaleTimeFactor session.mDescriptor.targetNs)]
  | _, _, _ => []

/-- The minimum that a report asks for, between its floor and its ceiling. -/
def nextMin (report : Report) : Int :=
  let uclampMinFloor :=
    if hboostEnabled env then report.hboostUclampMinFloor
    else env.adpfProfile.mUclampMinLow
  let uclampMinCeiling :=
    if hboostEnabled env then report.hboostUclampMinCeiling
    else env.adpfProfile.mUclampMinHigh
  max uclampMinFloor
    (min uclampMinCeiling
      (session.mDescriptor.pidControlVariable + report.output))

/-- The part of a report that depends on the PID controller. -/
def boostByPid (rampupMultNode : Bool) (report : Report)
    (lastDuration : WorkDuration) : Except Failure Accepted :=
  let nextMin := session.nextMin env report
  (session.hboostCalls env rampupMultNode report).map fun hboost =>
    { session :=
        { session.setPidControlVariable nextMin with
          mJankyLevel :=
            if hboostEnabled env then report.jankyLevel
            else session.mJankyLevel }
      calls := .disableBoosts :: hboost ++
        session.pidVote env nextMin :: session.gpuCalls env report lastDuration
      hints := [] }

/-- A report is counted before its durations are looked at. -/
def countReport : PowerHintSession :=
  { session with
    mDescriptor :=
      { session.mDescriptor with
        updateCount := session.mDescriptor.updateCount + 1 }
    mLastUpdatedTime := env.now }

def reportActualWorkDuration (rampupMultNode : Bool) (report : Report) :
    Except Failure Accepted :=
  if session.mSessionClosed then .error .illegalState
  else if session.mDescriptor.targetNs = 0 then .error .illegalState
  else
    match report.actualDurations.getLast? with
    | none => .error .illegalArgument
    | some lastDuration =>
      if !session.mDescriptor.isActive then .error .illegalState
      else if !env.adpfProfile.mPidOn then
        let high := env.adpfProfile.mUclampMinHigh
        .ok
          { session :=
              (session.countReport env).setPidControlVariable high
            calls := [.disableBoosts, session.pidVote env high]
            hints := [] }
      else
        (session.countReport env).boostByPid env rampupMultNode report
          lastDuration

/-- `setModeLocked`; the mode is stored nowhere else. -/
def setMode (mode : SessionMode) (enabled : Bool) : Except Failure Accepted :=
  if session.mSessionClosed then .error .illegalState
  else
    match mode with
    | .powerEfficiency => .ok
        { session := { session with mLastUpdatedTime := env.now }
          calls := [.setPreferPowerEfficiency enabled]
          hints := [] }
    | .other _ => .error .illegalArgument

/-- The comparison of a reset hint is made on unsigned values. -/
def resetPidControlVariable : Int :=
  Int.bmod (max env.adpfProfile.mUclampMinInit
    (session.mDescriptor.pidControlVariable % 2 ^ 32)) (2 ^ 32)

/-- What a hint does under the session's lock. -/
def hintCalls (hint : SessionHint) :
    Except Failure (PowerHintSession × List ManagerCall) :=
  let targetNs := session.mDescriptor.targetNs
  let profile := env.adpfProfile
  match hint with
  | .cpuLoadUp => .ok
      (session,
        [session.pidVote env session.mDescriptor.pidControlVariable,
          .voteSetCpu .cpuLoadUp profile.mUclampMinLoadUp kUclampMax
            (targetNs * 2)])
  | .cpuLoadDown => .ok
      (session.setPidControlVariable profile.mUclampMinLow,
        [session.pidVote env profile.mUclampMinLow])
  | .cpuLoadReset => .ok
      (session.setPidControlVariable (session.resetPidControlVariable env),
        [.voteSetCpu .cpuLoadReset profile.mUclampMinLoadReset kUclampMax
          (profile.mHalfStaleTimeFactor targetNs)])
  | .cpuLoadResume => .ok
      (session,
        [.voteSetCpu .cpuLoadResume session.mDescriptor.pidControlVariable
          kUclampMax (profile.mHalfStaleTimeFactor targetNs)])
  | .powerEfficiency => .ok (session, [.setPreferPowerEfficiency true])
  | .gpuLoadUp => .ok
      (session,
        [.voteSetGpu .gpuLoadUp profile.mGpuCapacityLoadUpHeadroom targetNs])
  | .gpuLoadDown | .gpuLoadReset | .cpuLoadSpike | .gpuLoadSpike =>
    .ok (session, [])
  | .invalid _ => .error .illegalArgument

/-- The first reset after a timeout is announced under another name. -/
def hintName (allSessionsTimeout : Bool) (hint : SessionHint) : String :=
  if hint = .cpuLoadReset ∧ session.isTimeout env ∧
      env.hintSupported kHINTNAME_APP_FIRST_FRAME then
    if env.hintSupported kHINTNAME_SYS_FIRST_FRAME && allSessionsTimeout then
      kHINTNAME_SYS_FIRST_FRAME
    else kHINTNAME_APP_FIRST_FRAME
  else hint.toString

def sendHint (allSessionsTimeout : Bool) (hint : SessionHint) :
    Except Failure Accepted :=
  if session.mSessionClosed then .error .illegalState
  else if session.mDescriptor.targetNs = 0 then .error .illegalState
  else
    (session.hintCalls env hint).map fun (hinted, calls) =>
      { session := { hinted with mLastUpdatedTime := env.now }
        calls := calls
        hints :=
          powerHints env (session.hintName env allSessionsTimeout hint) none ++
            if hint = .gpuLoadUp ∧
                (session.mDescriptor.tag = .surfaceflinger ∨
                  session.mDescriptor.tag = .sysui ∨
                  session.mDescriptor.procTag = .systemUi) then
              powerHints env "EXPENSIVE_RENDERING" (some 175)
            else [] }

def setThreads (threadIds : List TaskId) : Except Failure Accepted :=
  if session.mSessionClosed then .error .illegalState
  else if threadIds = [] then .error .illegalArgument
  else
    let init := env.adpfProfile.mUclampMinInit
    .ok
      { session :=
          { session with
            mDescriptor :=
              { session.mDescriptor with
                threadIds := threadIds, pidControlVariable := init } }
        calls := [.setThreadsFromPowerSession threadIds,
          session.pidVote env init]
        hints := [] }

/-- A binder call, with what the session asks the manager before it makes any
changes there. -/
def accept (manager : PowerSessionManager) :
    Request → Except Failure Accepted
  | .pause => session.pause
  | .resume => session.resume
  | .close => session.close
  | .updateTargetWorkDuration targetDurationNanos =>
    session.updateTargetWorkDuration env targetDurationNanos
  | .reportActualWorkDuration report =>
    session.reportActualWorkDuration env manager.mTaskRampupMultNode report
  | .sendHint hint =>
    session.sendHint env
      (manager.mSessionTaskMap.areAllSessionsTimeout env.now) hint
  | .setMode mode enabled => session.setMode env mode enabled
  | .setThreads threadIds => session.setThreads env threadIds

end PowerHintSession

/-! ## The service -/

/-- A session with the binder call it is in. -/
structure HostedSession where
  session : PowerHintSession
  /-- The binder call last accepted; the constructor is none. -/
  request : Option Request
  /-- The manager calls it has still to make.  The call has returned once
  there are none. -/
  pending : List ManagerCall

structure PowerService where
  mPSManager : PowerSessionManager
  sSessionIDCounter : SessionId
  sessions : SessionId → Option HostedSession
  /-- The hints sent so far, newest first. -/
  hints : List PowerHint

/-- What the service is told when a client creates a session. -/
structure SessionRequest where
  uid : Int
  threadIds : List TaskId
  durationNanos : Nanoseconds
  tag : SessionTag
  procTag : ProcessTag

inductive Action where
  | createHintSession (env before after : Env) (adpfProfile : AdpfConfig)
      (enableMetricCollection : Bool) (request : SessionRequest)
  | call (sessionId : SessionId) (env : ClientEnv) (request : Request)
  | proceed (sessionId : SessionId) (before after : Env)
  | dispatch (env : Env) (index : Nat)
  | updateHintMode (isGameMode enabled : Bool)

namespace PowerService

/-- The service at process start. -/
def init (gpuCapacityNode taskRampupMultNode : Bool)
    (maxNumOfCachedSessionMetrics : Nat) : PowerService where
  mPSManager := PowerSessionManager.init gpuCapacityNode taskRampupMultNode
    maxNumOfCachedSessionMetrics
  sSessionIDCounter := 0
  sessions := fun _ => none
  hints := []

variable (service : PowerService)

/-- The descriptor that the constructor of a session makes. -/
def newDescriptor (request : SessionRequest) : AppHintDesc where
  sessionId := service.sSessionIDCounter + 1
  uid := request.uid
  targetNs := request.durationNanos
  threadIds := request.threadIds
  tag := request.tag
  procTag := request.procTag

/-- The votes of the constructor. -/
def initialVotes (adpfProfile : AdpfConfig) (targetNs : Nanoseconds) :
    List ManagerCall :=
  [.voteSetCpu .cpuLoadReset adpfProfile.mUclampMinLoadReset kUclampMax
      (adpfProfile.mHalfStaleTimeFactor targetNs),
    .voteSetCpu .cpuVoteDefault adpfProfile.mUclampMinInit kUclampMax targetNs]

/-- A new session is added to the manager at once; its first votes follow. -/
def createHintSession (env before after : Env) (adpfProfile : AdpfConfig)
    (enableMetricCollection : Bool) (request : SessionRequest) :
    Option PowerService :=
  if request.threadIds = [] then none
  else
    let descriptor := service.newDescriptor request
    some
      { service with
        mPSManager := service.mPSManager.addPowerSession env before after
          descriptor
          (decide (request.procTag ≠ .systemUi) && enableMetricCollection)
          request.threadIds
        sSessionIDCounter := descriptor.sessionId
        sessions := Function.update service.sessions descriptor.sessionId
          (some
            { session := ⟨descriptor, env.now, false, .light⟩
              request := none
              pending := initialVotes adpfProfile request.durationNanos }) }

/-- An accepted binder call on a session that is in no other one. -/
def call (sessionId : SessionId) (env : ClientEnv) (request : Request) :
    Option PowerService :=
  match service.sessions sessionId with
  | some ⟨session, _, []⟩ =>
    match session.accept env service.mPSManager request with
    | .error _ => none
    | .ok accepted => some
        { service with
          sessions := Function.update service.sessions sessionId
            (some ⟨accepted.session, some request, accepted.calls⟩)
          hints := accepted.hints.reverse ++ service.hints }
  | _ => none

/-- The next manager call of a session. -/
def proceed (sessionId : SessionId) (before after : Env) :
    Option PowerService :=
  match service.sessions sessionId with
  | some ⟨session, request, next :: rest⟩ =>
    (service.mPSManager.step (next.toCall before after sessionId)).map
      fun manager =>
        { service with
          mPSManager := manager
          sessions := Function.update service.sessions sessionId
            (some ⟨session, request, rest⟩) }
  | _ => none

def step : Action → Option PowerService
  | .createHintSession env before after adpfProfile enableMetricCollection
      request =>
      service.createHintSession env before after adpfProfile
        enableMetricCollection request
  | .call sessionId env request => service.call sessionId env request
  | .proceed sessionId before after => service.proceed sessionId before after
  | .dispatch env index =>
    (service.mPSManager.dispatch env index).map fun manager =>
      { service with mPSManager := manager }
  | .updateHintMode isGameMode enabled => some
      { service with
        mPSManager := service.mPSManager.updateHintMode isGameMode enabled }

end PowerService

end HardwareInterfaces.HintSession

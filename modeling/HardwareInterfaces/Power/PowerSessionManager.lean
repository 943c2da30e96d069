import HardwareInterfaces.Power.SessionLinks

/-!
# The power session manager

The manager is a state machine over the session maps, the queue of timeout
events and the values it has written to kernel nodes.  One step is one call of
a public method, or one dispatch of a timeout event.

What a call reads from its surroundings is its environment: the clocks, the
ADPF profile in force, the thermal state, and which of its `sched_setattr`
calls fail because the thread is gone.  A call that consults the surroundings
twice takes two environments.  What a call writes to the outside is appended
to a log, newest first.
-/

namespace HardwareInterfaces.SessionManager

open AdpfTypes Metrics SessionTaskMap UClampVoter

/-- Rampup multiplier voted for a session in the background. -/
def kBGRampupVal : Int := 1

/-- What one stretch of a call reads from its surroundings. -/
structure Env where
  /-- `steady_clock::now()` -/
  now : TimePoint
  /-- `system_clock::now()` -/
  systemNow : TimePoint
  adpfProfile : AdpfConfig
  /-- Whether the `k`-th `sched_setattr` of a uclamp update returns `ESRCH`. -/
  threadGone : Nat → Bool
  thermalThrotSev : ThrottlingSeverity
  enableSFPreferHighCap : Bool
  rampDownSfPreferHighCap : Bool

/-- A profile with all boosts on, for concrete runs. -/
def sampleProfile : AdpfConfig where
  mPidOn := true
  mUclampMinOn := true
  mUclampMinInit := 162
  mUclampMinHigh := 480
  mUclampMinLow := 2
  mUclampMinLoadUp := 480
  mUclampMinLoadReset := 162
  mUclampMaxEfficientBase := none
  mUclampMaxEfficientOffset := 0
  mGpuBoostOn := some true
  mGpuBoostCapacityMax := some 300
  mGpuCapacityLoadUpHeadroom := 100
  mHeuristicBoostOn := some true
  mHeuristicRampup := some true
  mDefaultRampupMult := some 2
  mHighRampupMult := some 4
  mReportingRateLimitNs := 5
  mStaleTimeFactor := fun duration => 20 * duration
  mHalfStaleTimeFactor := fun duration => 10 * duration
  mTargetTimeFactor := fun duration => duration

/-- The clocks stand at `now`, the profile is `sampleProfile` and every thread
is alive. -/
def sampleEnv (now : TimePoint) : Env where
  now := now
  systemNow := now
  adpfProfile := sampleProfile
  threadGone := fun _ => false
  thermalThrotSev := .none
  enableSFPreferHighCap := false
  rampDownSfPreferHighCap := false

/-- Writes that leave the process. -/
inductive Effect where
  | schedSetattr (tid : TaskId) (uclampMin uclampMax : Int)
  | setGpuCapacity (capacity : Cycles)
  | updateTaskRampupMult (tid : TaskId) (val : Int)
  | setTaskProfiles (tid : TaskId) (profiles : List String)
  deriving DecidableEq, Repr

structure EventSessionTimeout where
  timeStamp : TimePoint
  sessionId : SessionId
  voteId : VoteId
  deriving DecidableEq, Repr

/-- An event waiting in the queue of the timeout worker. -/
structure PendingTimeout where
  deadline : TimePoint
  event : EventSessionTimeout
  deriving DecidableEq, Repr

/-- The descriptor that a hint session shares with the manager. -/
structure AppHintDesc where
  sessionId : SessionId
  uid : Int
  targetNs : Nanoseconds
  threadIds : List TaskId
  tag : SessionTag
  procTag : ProcessTag
  pidControlVariable : Int := 0
  isActive : Bool := true
  updateCount : Nat := 0

/-- The descriptor of an application session with a target of 100 ns. -/
def sampleDescriptor (sessionId : SessionId) (threadIds : List TaskId) :
    AppHintDesc where
  sessionId := sessionId
  uid := 10001
  targetNs := 100
  threadIds := threadIds
  tag := .app
  procTag := .default

structure PowerSessionManager where
  mSessionTaskMap : SessionLinks
  mEventSessionTimeoutWorker : List PendingTimeout
  /-- Whether the GPU capacity node exists. -/
  mGpuCapacityNode : Bool
  /-- Whether the rampup multiplier node could be opened. -/
  mTaskRampupMultNode : Bool
  mGameModeEnabled : Bool
  mCollectedSessionMetrics : List SessionMetrics
  kMaxNumOfCachedSessionMetrics : Nat
  log : List Effect

namespace PowerSessionManager

/-- The manager at process start. -/
def init (gpuCapacityNode taskRampupMultNode : Bool)
    (maxNumOfCachedSessionMetrics : Nat) : PowerSessionManager where
  mSessionTaskMap := SessionLinks.empty
  mEventSessionTimeoutWorker := []
  mGpuCapacityNode := gpuCapacityNode
  mTaskRampupMultNode := taskRampupMultNode
  mGameModeEnabled := false
  mCollectedSessionMetrics := []
  kMaxNumOfCachedSessionMetrics := maxNumOfCachedSessionMetrics
  log := []

variable (manager : PowerSessionManager)

/-- What `findSession` gives access to. -/
def session (sessionId : SessionId) : Option Session :=
  manager.mSessionTaskMap.session sessionId

def emit (effect : Effect) : PowerSessionManager :=
  { manager with log := effect :: manager.log }

def modifySession (sessionId : SessionId)
    (change : SessionValue → SessionValue) : PowerSessionManager :=
  { manager with
    mSessionTaskMap := manager.mSessionTaskMap.modifySession sessionId change }

def schedule (event : EventSessionTimeout) (deadline : TimePoint) :
    PowerSessionManager :=
  { manager with
    mEventSessionTimeoutWorker :=
      ⟨deadline, event⟩ :: manager.mEventSessionTimeoutWorker }

def scenarioType : ScenarioType :=
  if manager.mGameModeEnabled then .game else .default

/-! ## Applying votes -/

/-- The two bounds are clamped to the limits and to each other before they
reach the kernel. -/
def setUclamp (tid : TaskId) (range : UclampRange) : PowerSessionManager :=
  let uclampMin := min (max kUclampMin range.uclampMin) kUclampMax
  let uclampMax := min (max range.uclampMax uclampMin) kUclampMax
  manager.emit (.schedSetattr tid uclampMin uclampMax)

/-- The loop over a session's threads.  `call` numbers the `sched_setattr`
calls; `position` is the iterator, which stays where it is when the thread
under it is erased. -/
def uclampLoop (env : Env) (sessionId : SessionId) (timePoint : TimePoint) :
    List TaskId → Nat → Nat → PowerSessionManager → PowerSessionManager
  | [], _, _, manager => manager
  | tid :: rest, call, position, manager =>
    let uclampRange := manager.mSessionTaskMap.getTaskVoteRange tid timePoint
      UclampRange.full env.adpfProfile.mUclampMaxEfficientBase
      env.adpfProfile.mUclampMaxEfficientOffset
    let updated := manager.setUclamp tid uclampRange
    if env.threadGone call then
      uclampLoop env sessionId timePoint rest (call + 1) position
        { updated with
          mSessionTaskMap :=
            updated.mSessionTaskMap.dropDeadThread sessionId position }
    else
      uclampLoop env sessionId timePoint rest (call + 1) (position + 1) updated

def applyUclampLocked (env : Env) (sessionId : SessionId)
    (timePoint : TimePoint) : PowerSessionManager :=
  match manager.session sessionId with
  | none => manager
  | some _ =>
    let applied :=
      if env.adpfProfile.mUclampMinOn then
        uclampLoop env sessionId timePoint
          (manager.mSessionTaskMap.getTaskIds sessionId) 0 0 manager
      else manager
    applied.modifySession sessionId fun value =>
      { value with lastUpdatedTime := timePoint }

/-- The source tests the optional `mGpuBoostOn` itself, so a profile that sets
it to `false` still votes. -/
def applyGpuVotesLocked (env : Env) (sessionId : SessionId)
    (timePoint : TimePoint) : PowerSessionManager :=
  match manager.session sessionId with
  | none => manager
  | some _ =>
    let written :=
      if manager.mGpuCapacityNode && env.adpfProfile.mGpuBoostOn.isSome then
        manager.emit (.setGpuCapacity
          (manager.mSessionTaskMap.getSessionsGpuCapacity timePoint))
      else manager
    written.modifySession sessionId fun value =>
      { value with lastUpdatedTime := timePoint }

def applyCpuAndGpuVotes (env : Env) (sessionId : SessionId)
    (timePoint : TimePoint) : PowerSessionManager :=
  (manager.applyUclampLocked env sessionId timePoint).applyGpuVotesLocked env
    sessionId timePoint

def forceSessionActive (env : Env) (sessionId : SessionId) (isActive : Bool) :
    PowerSessionManager :=
  match manager.session sessionId with
  | none => manager
  | some _ =>
    (manager.modifySession sessionId fun value =>
      { value with isActive := isActive }).applyCpuAndGpuVotes env sessionId
        env.now

/-! ## Task profiles and rampup votes -/

def getSessionTaskProfiles (env : Env) (sessionId : SessionId)
    (isSetProfile : Bool) : List String :=
  if isSetProfile then
    match manager.session sessionId with
    | none => ["SCHED_QOS_SENSITIVE_STANDARD"]
    | some session =>
      if session.value.procTag = .systemUi then
        ["SCHED_QOS_SENSITIVE_EXTREME"]
      else
        match session.value.tag with
        | .surfaceflinger =>
          if env.enableSFPreferHighCap && !env.rampDownSfPreferHighCap then
            ["SCHED_QOS_SENSITIVE_EXTREME", "PreferHighCapSet"]
          else ["SCHED_QOS_SENSITIVE_EXTREME"]
        | .hwui => ["SCHED_QOS_SENSITIVE_EXTREME"]
        | _ => ["SCHED_QOS_SENSITIVE_STANDARD"]
  else ["SCHED_QOS_NONE"]

def setTaskProfilesAll (tids : List TaskId) (profiles : List String) :
    PowerSessionManager :=
  tids.foldl (fun current tid => current.emit (.setTaskProfiles tid profiles))
    manager

/-- The write is skipped when the node could not be opened. -/
def updateTaskRampupMult (tid : TaskId) (val : Int) : PowerSessionManager :=
  if manager.mTaskRampupMultNode then
    manager.emit (.updateTaskRampupMult tid val)
  else manager

/-- Whether another session of the thread has its rampup boost on. -/
def otherSessionsRampupBoost (sessionId : SessionId) (tid : TaskId) : Bool :=
  (manager.mSessionTaskMap.getSessionIds tid).any fun sess =>
    decide (sess ≠ sessionId) &&
      ((manager.session sess).map fun session =>
        session.value.rampupBoostActive).getD false

def voteRampupBoostLocked (sessionId : SessionId) (rampupBoostVote : Bool)
    (defaultRampupVal highRampupVal : Int) : PowerSessionManager :=
  (manager.mSessionTaskMap.getTaskIds sessionId).foldl
    (fun current tid =>
      if current.otherSessionsRampupBoost sessionId tid then current
      else current.updateTaskRampupMult tid
        (if rampupBoostVote then highRampupVal else defaultRampupVal))
    manager

/-! ## Metrics -/

def completeMetric (env : Env) (metrics : SessionMetrics) : SessionMetrics :=
  { metrics with
    metricEndTime := env.systemNow, metricSessionCompleted := true }

/-- Cache a completed metric session unless it is too short or the cache is
full. -/
def collectMetric (metrics : SessionMetrics) : PowerSessionManager :=
  if kNumOfFramesThreshold ≤ metrics.totalFrameNumber ∧
      manager.mCollectedSessionMetrics.length <
        manager.kMaxNumOfCachedSessionMetrics then
    { manager with
      mCollectedSessionMetrics := manager.mCollectedSessionMetrics ++ [metrics] }
  else manager

/-- Complete and collect the metrics of a session that has any. -/
def collectSessionMetric (env : Env) (sessionId : SessionId) :
    PowerSessionManager :=
  match (manager.session sessionId).bind fun session =>
      session.value.sessFrameMetrics with
  | none => manager
  | some metrics =>
    (manager.modifySession sessionId fun value =>
      { value with
        sessFrameMetrics := some (completeMetric env metrics) }).collectMetric
          (completeMetric env metrics)

def resetSessionMetric (env : Env) (sessionId : SessionId) :
    PowerSessionManager :=
  manager.modifySession sessionId fun value =>
    { value with
      sessFrameMetrics := value.sessFrameMetrics.map fun metrics =>
        metrics.resetMetric env.thermalThrotSev manager.scenarioType
          env.systemNow }

/-! ## Sessions -/

def setThreadsFromPowerSession (before after : Env) (sessionId : SessionId)
    (threadIds : List TaskId) : PowerSessionManager :=
  let paused := manager.forceSessionActive before sessionId false
  let links := paused.mSessionTaskMap
  let replaced :=
    { paused with mSessionTaskMap := links.replace sessionId threadIds }
  let added := replaced.setTaskProfilesAll
    (links.addedThreads sessionId threadIds)
    (replaced.getSessionTaskProfiles after sessionId true)
  let removed := added.setTaskProfilesAll
    (links.removedThreads sessionId threadIds)
    (added.getSessionTaskProfiles after sessionId false)
  removed.forceSessionActive after sessionId true

/-- The value that `addPowerSession` stores. -/
def newSessionValue (env : Env) (descriptor : AppHintDesc)
    (enableMetricCollection : Bool) : SessionValue where
  uid := descriptor.uid
  isActive := descriptor.isActive
  isAppSession := decide (aidAppStart ≤ descriptor.uid)
  tag := descriptor.tag
  procTag := descriptor.procTag
  lastUpdatedTime := env.now
  votes := Votes.empty.addCpu AdpfVoteType.cpuVoteDefault.toInt
    ⟨⟨false, env.now, descriptor.targetNs⟩, ⟨kUclampMin, kUclampMax⟩⟩
  sessFrameMetrics :=
    if enableMetricCollection then
      some
        (if descriptor.tag = .surfaceflinger then
          { uid := some descriptor.uid
            metricStartTime := env.systemNow
            thermalThrotStat := env.thermalThrotSev
            frameTimelineType := .surfaceflinger
            scenarioType := manager.scenarioType }
        else
          { uid := some descriptor.uid
            metricStartTime := env.systemNow
            thermalThrotStat := env.thermalThrotSev })
    else none

/-- A session that cannot be added, because its id is taken, still has its
threads set. -/
def addPowerSession (env before after : Env) (descriptor : AppHintDesc)
    (enableMetricCollection : Bool) (threadIds : List TaskId) :
    PowerSessionManager :=
  let value := manager.newSessionValue env descriptor enableMetricCollection
  { manager with
    mSessionTaskMap :=
      manager.mSessionTaskMap.add descriptor.sessionId value [] }
    |>.setThreadsFromPowerSession before after descriptor.sessionId threadIds

/-- The source dereferences the session without a check, so only a live
session can be removed. -/
def removePowerSession (env : Env) (sessionId : SessionId) :
    Option PowerSessionManager :=
  match manager.session sessionId with
  | none => none
  | some _ =>
    let inactive := manager.forceSessionActive env sessionId false
    let profiles := inactive.getSessionTaskProfiles env sessionId false
    let collected := inactive.collectSessionMetric env sessionId
    let links := collected.mSessionTaskMap
    let removed :=
      { collected with
        mSessionTaskMap := (links.replace sessionId []).remove sessionId }
    some (removed.setTaskProfilesAll (links.removedThreads sessionId [])
      profiles)

def pause (env : Env) (sessionId : SessionId) : PowerSessionManager :=
  match manager.session sessionId with
  | none => manager
  | some session =>
    if session.value.isActive then
      let inactive := manager.modifySession sessionId fun value =>
        { value with isActive := false }
      let reset :=
        if session.value.rampupBoostActive then
          (inactive.modifySession sessionId fun value =>
            { value with rampupBoostActive := false }).voteRampupBoostLocked
              sessionId false kBGRampupVal kBGRampupVal
        else inactive
      ((reset.collectSessionMetric env sessionId).resetSessionMetric env
        sessionId).applyCpuAndGpuVotes env sessionId env.now
    else manager

def resume (env : Env) (sessionId : SessionId) : PowerSessionManager :=
  match manager.session sessionId with
  | none => manager
  | some session =>
    if session.value.isActive then manager
    else
      ((manager.modifySession sessionId fun value =>
        { value with isActive := true }).resetSessionMetric env
          sessionId).applyCpuAndGpuVotes env sessionId env.now

/-! ## Votes and their timeouts -/

def updateTargetWorkDuration (sessionId : SessionId) (voteId : AdpfVoteType)
    (durationNs : Nanoseconds) : PowerSessionManager :=
  manager.modifySession sessionId fun value =>
    { value with votes := value.votes.updateDuration voteId.toInt durationNs }

def shouldScheduleTimeout (votes : Votes) (voteId : VoteId)
    (deadline : TimePoint) : Bool :=
  !votes.voteIsActive voteId || decide (deadline < votes.voteTimeout voteId)

/-- The end of both overloads: queue an event for the vote when it was found
to need one. -/
def scheduleVoteTimeout (needed : Bool) (sessionId : SessionId)
    (voteId : VoteId) (startTime : TimePoint) (durationNs : Nanoseconds) :
    PowerSessionManager :=
  if needed then
    manager.schedule ⟨startTime, sessionId, voteId⟩
      (timeoutDeadline startTime durationNs)
  else manager

/-- `voteSet` with a uclamp range. -/
def voteSetCpu (env : Env) (sessionId : SessionId) (voteId : AdpfVoteType)
    (uclampMin uclampMax : Int) (startTime : TimePoint)
    (durationNs : Nanoseconds) : PowerSessionManager :=
  match manager.session sessionId with
  | none => manager
  | some session =>
    let needed := shouldScheduleTimeout session.value.votes voteId.toInt
      (timeoutDeadline startTime durationNs)
    let voted :=
      { manager with
        mSessionTaskMap := manager.mSessionTaskMap.addVote sessionId
          voteId.toInt uclampMin uclampMax startTime durationNs }
    let updated := voted.modifySession sessionId fun value =>
      { value with lastUpdatedTime := startTime }
    (updated.applyUclampLocked env sessionId startTime).scheduleVoteTimeout
      needed sessionId voteId.toInt startTime durationNs

/-- `voteSet` with a GPU capacity. -/
def voteSetGpu (env : Env) (sessionId : SessionId) (voteId : AdpfVoteType)
    (capacity : Cycles) (startTime : TimePoint) (durationNs : Nanoseconds) :
    PowerSessionManager :=
  match manager.session sessionId with
  | none => manager
  | some session =>
    let needed := shouldScheduleTimeout session.value.votes voteId.toInt
      (timeoutDeadline startTime durationNs)
    let voted :=
      { manager with
        mSessionTaskMap := manager.mSessionTaskMap.addGpuVote sessionId
          voteId.toInt capacity startTime durationNs }
    let updated := voted.modifySession sessionId fun value =>
      { value with lastUpdatedTime := startTime }
    (updated.applyGpuVotesLocked env sessionId startTime).scheduleVoteTimeout
      needed sessionId voteId.toInt startTime durationNs

/-- The votes that a report switches off. -/
def disabledVotes : List AdpfVoteType :=
  [.cpuLoadUp, .cpuLoadReset, .cpuLoadResume, .votePowerEfficiency,
    .gpuLoadUp, .gpuLoadReset]

def disableBoosts (sessionId : SessionId) : PowerSessionManager :=
  manager.modifySession sessionId fun value =>
    { value with
      votes := disabledVotes.foldl
        (fun votes vid => votes.setUseVote vid.toInt false) value.votes }

/-- An event expires its vote if the vote has ended by now, and queues itself
again for the end of the vote otherwise. -/
def handleEvent (env : Env) (eventTimeout : EventSessionTimeout) :
    PowerSessionManager :=
  match manager.session eventTimeout.sessionId with
  | none => manager
  | some session =>
    let voteIsActive := session.value.votes.voteIsActive eventTimeout.voteId
    let voteTimeout := session.value.votes.voteTimeout eventTimeout.voteId
    if voteIsActive then
      if voteTimeout ≤ env.now then
        (manager.modifySession eventTimeout.sessionId fun value =>
          { value with
            votes := value.votes.setUseVote eventTimeout.voteId
              false }).applyCpuAndGpuVotes env eventTimeout.sessionId env.now
      else manager.schedule eventTimeout voteTimeout
    else manager

/-- Take the event at an index of the queue, once its deadline has come. -/
def dispatch (env : Env) (index : Nat) : Option PowerSessionManager :=
  match manager.mEventSessionTimeoutWorker[index]? with
  | none => none
  | some pending =>
    if pending.deadline ≤ env.now then
      some
        ({ manager with
          mEventSessionTimeoutWorker :=
            manager.mEventSessionTimeoutWorker.eraseIdx index }
          |>.handleEvent env pending.event)
    else none

/-! ## Remaining session state -/

def setPreferPowerEfficiency (env : Env) (sessionId : SessionId)
    (enabled : Bool) : PowerSessionManager :=
  match manager.session sessionId with
  | none => manager
  | some session =>
    if enabled = session.value.isPowerEfficient then manager
    else
      (manager.modifySession sessionId fun value =>
        { value with isPowerEfficient := enabled }).applyUclampLocked env
          sessionId env.now

/-- The boost flag that a janky level asks for. -/
def rampupBoostWanted (value : SessionValue) (jankyLevel : SessionJankyLevel) :
    Bool :=
  if value.isActive then
    match jankyLevel with
    | .light => false
    | .moderate => true
    | .severe => true
  else false

def updateRampupBoostMode (sessionId : SessionId)
    (jankyLevel : SessionJankyLevel) (defaultRampupVal highRampupVal : Int) :
    PowerSessionManager :=
  match manager.session sessionId with
  | none => manager
  | some session =>
    let wanted := rampupBoostWanted session.value jankyLevel
    let updated := manager.modifySession sessionId fun value =>
      { value with rampupBoostActive := wanted }
    if wanted = session.value.rampupBoostActive then updated
    else updated.voteRampupBoostLocked sessionId wanted defaultRampupVal
      highRampupVal

def updateHboostStatistics (sessionId : SessionId)
    (jankyLevel : SessionJankyLevel) (numOfFrames : Int) :
    PowerSessionManager :=
  manager.modifySession sessionId fun value =>
    let dist := value.hBoostModeDist
    { value with
      hBoostModeDist :=
        match jankyLevel with
        | .light =>
          { dist with lightModeFrames := dist.lightModeFrames + numOfFrames }
        | .moderate =>
          { dist with
            moderateModeFrames := dist.moderateModeFrames + numOfFrames }
        | .severe =>
          { dist with
            severeModeFrames := dist.severeModeFrames + numOfFrames } }

def updateFrameMetrics (sessionId : SessionId)
    (lastReportedFrames : FrameTimingMetrics) : PowerSessionManager :=
  manager.modifySession sessionId fun value =>
    { value with
      sessFrameBuckets := value.sessFrameBuckets.addUpNewFrames
        lastReportedFrames.framesInBuckets
      sessFrameMetrics := value.sessFrameMetrics.map fun metrics =>
        match metrics.scenarioType with
        | .game => metrics.addNewGameFrames lastReportedFrames.gameFrameMetrics
        | .default => metrics.addNewAppFrames lastReportedFrames.framesInBuckets }

/-- Start a new metric session when the scenario of a SurfaceFlinger session or
the thermal state has changed. -/
def updateCollectedSessionMetrics (env : Env) (sessionId : SessionId) :
    PowerSessionManager :=
  match manager.session sessionId with
  | none => manager
  | some session =>
    match session.value.sessFrameMetrics with
    | none => manager
    | some metrics =>
      if (session.value.tag = .surfaceflinger ∧
            metrics.scenarioType ≠ manager.scenarioType) ∨
          metrics.thermalThrotStat ≠ env.thermalThrotSev then
        (manager.collectSessionMetric env sessionId).resetSessionMetric env
          sessionId
      else manager

/-- The part of `updateHintMode` that concerns the manager itself. -/
def updateHintMode (isGameMode enabled : Bool) : PowerSessionManager :=
  if isGameMode then { manager with mGameModeEnabled := enabled } else manager

/-! ## Calls -/

inductive Call where
  | addPowerSession (env before after : Env) (descriptor : AppHintDesc)
      (enableMetricCollection : Bool) (threadIds : List TaskId)
  | removePowerSession (env : Env) (sessionId : SessionId)
  | setThreadsFromPowerSession (before after : Env) (sessionId : SessionId)
      (threadIds : List TaskId)
  | pause (env : Env) (sessionId : SessionId)
  | resume (env : Env) (sessionId : SessionId)
  | updateTargetWorkDuration (sessionId : SessionId) (voteId : AdpfVoteType)
      (durationNs : Nanoseconds)
  | voteSetCpu (env : Env) (sessionId : SessionId) (voteId : AdpfVoteType)
      (uclampMin uclampMax : Int) (startTime : TimePoint)
      (durationNs : Nanoseconds)
  | voteSetGpu (env : Env) (sessionId : SessionId) (voteId : AdpfVoteType)
      (capacity : Cycles) (startTime : TimePoint) (durationNs : Nanoseconds)
  | disableBoosts (sessionId : SessionId)
  | dispatch (env : Env) (index : Nat)
  | setPreferPowerEfficiency (env : Env) (sessionId : SessionId)
      (enabled : Bool)
  | updateRampupBoostMode (sessionId : SessionId)
      (jankyLevel : SessionJankyLevel) (defaultRampupVal highRampupVal : Int)
  | updateHboostStatistics (sessionId : SessionId)
      (jankyLevel : SessionJankyLevel) (numOfFrames : Int)
  | updateFrameMetrics (sessionId : SessionId)
      (lastReportedFrames : FrameTimingMetrics)
  | updateCollectedSessionMetrics (env : Env) (sessionId : SessionId)
  | updateHintMode (isGameMode enabled : Bool)

/-- One call, or one dispatch of a timeout event. -/
def step : Call → Option PowerSessionManager
  | .addPowerSession env before after descriptor enableMetricCollection
      threadIds =>
      some (manager.addPowerSession env before after descriptor
        enableMetricCollection threadIds)
  | .removePowerSession env sessionId =>
    manager.removePowerSession env sessionId
  | .setThreadsFromPowerSession before after sessionId threadIds =>
    some (manager.setThreadsFromPowerSession before after sessionId threadIds)
  | .pause env sessionId => some (manager.pause env sessionId)
  | .resume env sessionId => some (manager.resume env sessionId)
  | .updateTargetWorkDuration sessionId voteId durationNs =>
    some (manager.updateTargetWorkDuration sessionId voteId durationNs)
  | .voteSetCpu env sessionId voteId uclampMin uclampMax startTime durationNs =>
    some (manager.voteSetCpu env sessionId voteId uclampMin uclampMax
      startTime durationNs)
  | .voteSetGpu env sessionId voteId capacity startTime durationNs =>
    some (manager.voteSetGpu env sessionId voteId capacity startTime
      durationNs)
  | .disableBoosts sessionId => some (manager.disableBoosts sessionId)
  | .dispatch env index => manager.dispatch env index
  | .setPreferPowerEfficiency env sessionId enabled =>
    some (manager.setPreferPowerEfficiency env sessionId enabled)
  | .updateRampupBoostMode sessionId jankyLevel defaultRampupVal
      highRampupVal =>
      some (manager.updateRampupBoostMode sessionId jankyLevel defaultRampupVal
        highRampupVal)
  | .updateHboostStatistics sessionId jankyLevel numOfFrames =>
    some (manager.updateHboostStatistics sessionId jankyLevel numOfFrames)
  | .updateFrameMetrics sessionId lastReportedFrames =>
    some (manager.updateFrameMetrics sessionId lastReportedFrames)
  | .updateCollectedSessionMetrics env sessionId =>
    some (manager.updateCollectedSessionMetrics env sessionId)
  | .updateHintMode isGameMode enabled =>
    some (manager.updateHintMode isGameMode enabled)

/-! ## Removing a session -/

/-- The session has lost its threads and is gone from the maps. -/
def unlinkSession (sessionId : SessionId) : PowerSessionManager :=
  { manager with
    mSessionTaskMap :=
      (manager.mSessionTaskMap.replace sessionId []).remove sessionId }

variable {manager} in
/-- A session that is removed was live; it is made inactive, its metrics are
collected, and its threads get other profiles once it is gone. -/
theorem exists_of_removePowerSession {next : PowerSessionManager} {env : Env}
    {sessionId : SessionId}
    (hremove : manager.removePowerSession env sessionId = some next) :
    (∃ session, manager.session sessionId = some session) ∧
      ∃ tids profiles, next =
        (((manager.forceSessionActive env sessionId false).collectSessionMetric
          env sessionId).unlinkSession sessionId).setTaskProfilesAll tids
            profiles := by
  cases hsession : manager.session sessionId with
  | none => simp [removePowerSession, hsession] at hremove
  | some session =>
    simp only [removePowerSession, hsession, Option.some.injEq] at hremove
    exact ⟨⟨session, rfl⟩, _, _, hremove.symm⟩

end PowerSessionManager

end HardwareInterfaces.SessionManager

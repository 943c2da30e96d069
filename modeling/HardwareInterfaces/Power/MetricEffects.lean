import HardwareInterfaces.Power.SessionEffects

/-!
# What a call does to the metrics of a session

The metrics of a session depend on its tag and on the game mode.  Most calls
leave all three alone.  The others add a batch of frames to the metrics, or
begin them anew: when the session is created, paused or resumed, and when its
scenario or the thermal state has changed.
-/

namespace HardwareInterfaces.SessionManager

open AdpfTypes Metrics SessionTaskMap

/-- The part of a session that concerns its metrics. -/
structure MetricSession where
  tag : SessionTag
  metrics : Option SessionMetrics

def metricOf (session : Session) : MetricSession :=
  ⟨session.value.tag, session.value.sessFrameMetrics⟩

/-- The sessions with the game mode, which decides on the scenario of new
metrics. -/
structure MetricView where
  gameModeEnabled : Bool
  sessions : SessionId → Option MetricSession

namespace MetricSession

/-- The metrics are completed. -/
def complete (env : Env) (session : MetricSession) : MetricSession :=
  { session with
    metrics := session.metrics.map
      (PowerSessionManager.completeMetric env) }

/-- The metrics begin anew. -/
def reset (env : Env) (scenario : ScenarioType) (session : MetricSession) :
    MetricSession :=
  { session with
    metrics := session.metrics.map fun metrics =>
      metrics.resetMetric env.thermalThrotSev scenario env.systemNow }

/-- The metrics are completed and begin anew. -/
def rollOver (env : Env) (scenario : ScenarioType) (session : MetricSession) :
    MetricSession :=
  (session.complete env).reset env scenario

/-- A batch of frames is added, as the scenario asks for. -/
def report (frames : FrameTimingMetrics) (session : MetricSession) :
    MetricSession :=
  { session with
    metrics := session.metrics.map fun metrics =>
      match metrics.scenarioType with
      | .game => metrics.addNewGameFrames frames.gameFrameMetrics
      | .default => metrics.addNewAppFrames frames.framesInBuckets }

end MetricSession

namespace MetricView

def onSession (view : MetricView) (sessionId : SessionId)
    (change : MetricSession → MetricSession) : MetricView :=
  { view with
    sessions := SessionManager.onSession view.sessions sessionId change }

@[simp]
theorem onSession_id (view : MetricView) (sessionId : SessionId) :
    view.onSession sessionId id = view := by
  rw [onSession, SessionManager.onSession_id]

theorem onSession_onSession (view : MetricView) (sessionId : SessionId)
    (first second : MetricSession → MetricSession) :
    (view.onSession sessionId first).onSession sessionId second =
      view.onSession sessionId (second ∘ first) := by
  rw [onSession, onSession, SessionManager.onSession_onSession]
  rfl

variable {view : MetricView} {target sessionId : SessionId} {changes : Bool}

theorem sessions_ite_onSession_of_false
    (hother : (decide (target = sessionId) && changes) = false)
    (change : MetricSession → MetricSession) :
    (if changes then view.onSession target change else view).sessions
      sessionId = view.sessions sessionId := by
  split_ifs with hchanges
  · rw [hchanges, Bool.and_true, decide_eq_false_iff_not] at hother
    exact onSession_of_ne change (Ne.symm hother)
  · rfl

theorem sessions_ite_onSession_of_true
    (hself : (decide (target = sessionId) && changes) = true)
    (change : MetricSession → MetricSession) :
    (if changes then view.onSession target change else view).sessions
      sessionId = (view.sessions sessionId).map change := by
  rw [Bool.and_eq_true, decide_eq_true_eq] at hself
  rw [if_pos hself.2, ← hself.1]
  exact onSession_self change

end MetricView

namespace PowerSessionManager

variable (manager : PowerSessionManager) (env : Env) (sessionId : SessionId)

def metricView : MetricView where
  gameModeEnabled := manager.mGameModeEnabled
  sessions := Option.map metricOf ∘ manager.session

/-! ## Writes that leave the metrics alone -/

section

variable {before after : PowerSessionManager} {sessionId : SessionId}
  {change : Session → Session}

theorem metricView_of_session_update {view : MetricSession → MetricSession}
    (hmode : after.mGameModeEnabled = before.mGameModeEnabled)
    (hsession : after.session = Function.update before.session sessionId
      ((before.session sessionId).map change))
    (hview : ∀ session, metricOf (change session) = view (metricOf session)) :
    after.metricView = before.metricView.onSession sessionId view := by
  rw [metricView, hmode, map_comp_update hsession hview]
  rfl

theorem metricView_of_session_update_of_same
    (hmode : after.mGameModeEnabled = before.mGameModeEnabled)
    (hsession : after.session = Function.update before.session sessionId
      ((before.session sessionId).map change))
    (hsame : ∀ session, metricOf (change session) = metricOf session) :
    after.metricView = before.metricView := by
  have hview : ∀ session,
      metricOf (change session) = id (metricOf session) := hsame
  rw [metricView_of_session_update hmode hsession hview,
    MetricView.onSession_id]

end

theorem metricView_modifySession {change : SessionValue → SessionValue}
    (view : MetricSession → MetricSession) (hview : ∀ session : Session,
      metricOf { session with value := change session.value } =
        view (metricOf session)) :
    (manager.modifySession sessionId change).metricView =
      manager.metricView.onSession sessionId view :=
  metricView_of_session_update rfl
    (SessionLinks.session_modifySession sessionId change) hview

theorem metricView_modifySession_of_same
    {change : SessionValue → SessionValue} (hsame : ∀ session : Session,
      metricOf { session with value := change session.value } =
        metricOf session) :
    (manager.modifySession sessionId change).metricView =
      manager.metricView :=
  metricView_of_session_update_of_same rfl
    (SessionLinks.session_modifySession sessionId change) hsame

theorem metricView_replace (threadIds : List TaskId) :
    metricView { manager with
      mSessionTaskMap :=
        manager.mSessionTaskMap.replace sessionId threadIds } =
      manager.metricView :=
  metricView_of_session_update_of_same rfl
    (SessionLinks.session_replace sessionId threadIds) fun _ => rfl

variable (timePoint : TimePoint)

theorem metricView_uclampLoop (tids : List TaskId) (call position : Nat) :
    (uclampLoop env sessionId timePoint tids call position manager).metricView =
      manager.metricView := by
  induction tids generalizing call position manager with
  | nil => rfl
  | cons tid rest ih =>
    rw [uclampLoop]
    split_ifs
    · rw [ih]
      exact metricView_of_session_update_of_same rfl
        (SessionLinks.session_dropDeadThread sessionId position) fun _ => rfl
    · rw [ih]
      rfl

@[simp]
theorem metricView_applyUclampLocked :
    (manager.applyUclampLocked env sessionId timePoint).metricView =
      manager.metricView := by
  rw [applyUclampLocked]
  cases manager.session sessionId with
  | none => rfl
  | some session =>
    refine (metricView_modifySession_of_same _ sessionId fun _ =>
      rfl).trans ?_
    split_ifs
    · exact metricView_uclampLoop manager env sessionId timePoint _ 0 0
    · rfl

@[simp]
theorem metricView_applyGpuVotesLocked :
    (manager.applyGpuVotesLocked env sessionId timePoint).metricView =
      manager.metricView := by
  rw [applyGpuVotesLocked]
  cases manager.session sessionId with
  | none => rfl
  | some session =>
    refine (metricView_modifySession_of_same _ sessionId fun _ =>
      rfl).trans ?_
    split_ifs <;> rfl

@[simp]
theorem metricView_applyCpuAndGpuVotes :
    (manager.applyCpuAndGpuVotes env sessionId timePoint).metricView =
      manager.metricView := by
  rw [applyCpuAndGpuVotes, metricView_applyGpuVotesLocked,
    metricView_applyUclampLocked]

@[simp]
theorem metricView_forceSessionActive (isActive : Bool) :
    (manager.forceSessionActive env sessionId isActive).metricView =
      manager.metricView := by
  rw [forceSessionActive]
  cases manager.session sessionId with
  | none => rfl
  | some session =>
    rw [metricView_applyCpuAndGpuVotes]
    exact metricView_modifySession_of_same _ sessionId fun _ => rfl

@[simp]
theorem metricView_setTaskProfilesAll (tids : List TaskId)
    (profiles : List String) :
    (manager.setTaskProfilesAll tids profiles).metricView =
      manager.metricView := by
  rw [setTaskProfilesAll]
  induction tids generalizing manager with
  | nil => rfl
  | cons tid rest ih => exact ih (manager.emit _)

@[simp]
theorem metricView_voteRampupBoostLocked (rampupBoostVote : Bool)
    (defaultRampupVal highRampupVal : Int) :
    (manager.voteRampupBoostLocked sessionId rampupBoostVote defaultRampupVal
      highRampupVal).metricView = manager.metricView := by
  rw [voteRampupBoostLocked]
  generalize manager.mSessionTaskMap.getTaskIds sessionId = tids
  induction tids generalizing manager with
  | nil => rfl
  | cons tid rest ih =>
    rw [List.foldl_cons, ih, updateTaskRampupMult]
    split_ifs <;> rfl

@[simp]
theorem metricView_setThreadsFromPowerSession (before after : Env)
    (sessionId : SessionId) (threadIds : List TaskId) :
    (manager.setThreadsFromPowerSession before after sessionId
      threadIds).metricView = manager.metricView := by
  rw [setThreadsFromPowerSession, metricView_forceSessionActive,
    metricView_setTaskProfilesAll, metricView_setTaskProfilesAll,
    metricView_replace, metricView_forceSessionActive]

@[simp]
theorem metricView_scheduleVoteTimeout (needed : Bool) (sessionId : SessionId)
    (voteId : VoteId) (startTime : TimePoint) (durationNs : Nanoseconds) :
    (manager.scheduleVoteTimeout needed sessionId voteId startTime
      durationNs).metricView = manager.metricView := by
  rw [scheduleVoteTimeout]
  split_ifs <;> rfl

theorem metricView_voteSetCpu (voteId : AdpfVoteType)
    (uclampMin uclampMax : Int) (startTime : TimePoint)
    (durationNs : Nanoseconds) :
    (manager.voteSetCpu env sessionId voteId uclampMin uclampMax startTime
      durationNs).metricView = manager.metricView := by
  rw [voteSetCpu]
  cases manager.session sessionId with
  | none => rfl
  | some session =>
    dsimp only
    rw [metricView_scheduleVoteTimeout, metricView_applyUclampLocked,
      metricView_modifySession_of_same _ sessionId fun _ => rfl]
    exact metricView_of_session_update_of_same rfl
      (SessionLinks.session_addVote sessionId voteId.toInt uclampMin uclampMax
        startTime durationNs) fun _ => rfl

theorem metricView_voteSetGpu (voteId : AdpfVoteType) (capacity : Cycles)
    (startTime : TimePoint) (durationNs : Nanoseconds) :
    (manager.voteSetGpu env sessionId voteId capacity startTime
      durationNs).metricView = manager.metricView := by
  rw [voteSetGpu]
  cases manager.session sessionId with
  | none => rfl
  | some session =>
    dsimp only
    rw [metricView_scheduleVoteTimeout, metricView_applyGpuVotesLocked,
      metricView_modifySession_of_same _ sessionId fun _ => rfl]
    exact metricView_of_session_update_of_same rfl
      (SessionLinks.session_addGpuVote sessionId voteId.toInt capacity
        startTime durationNs) fun _ => rfl

theorem metricView_handleEvent (event : EventSessionTimeout) :
    (manager.handleEvent env event).metricView = manager.metricView := by
  rw [handleEvent]
  cases manager.session event.sessionId with
  | none => rfl
  | some session =>
    dsimp only
    split_ifs
    · rw [metricView_applyCpuAndGpuVotes]
      exact metricView_modifySession_of_same _ _ fun _ => rfl
    · rfl
    · rfl

theorem metricView_dispatch {env : Env} {index : Nat}
    {next : PowerSessionManager}
    (hdispatch : manager.dispatch env index = some next) :
    next.metricView = manager.metricView := by
  rw [dispatch] at hdispatch
  split at hdispatch
  · exact nomatch hdispatch
  · split_ifs at hdispatch
    cases hdispatch
    exact metricView_handleEvent _ env _

theorem metricView_setPreferPowerEfficiency (enabled : Bool) :
    (manager.setPreferPowerEfficiency env sessionId enabled).metricView =
      manager.metricView := by
  rw [setPreferPowerEfficiency]
  cases manager.session sessionId with
  | none => rfl
  | some session =>
    dsimp only
    split_ifs
    · rfl
    · rw [metricView_applyUclampLocked]
      exact metricView_modifySession_of_same _ sessionId fun _ => rfl

theorem metricView_updateRampupBoostMode (jankyLevel : SessionJankyLevel)
    (defaultRampupVal highRampupVal : Int) :
    (manager.updateRampupBoostMode sessionId jankyLevel defaultRampupVal
      highRampupVal).metricView = manager.metricView := by
  rw [updateRampupBoostMode]
  cases manager.session sessionId with
  | none => rfl
  | some session =>
    dsimp only
    split_ifs
    · exact metricView_modifySession_of_same _ sessionId fun _ => rfl
    · rw [metricView_voteRampupBoostLocked]
      exact metricView_modifySession_of_same _ sessionId fun _ => rfl

/-! ## Metrics that are completed or begun anew -/

theorem metricView_onSession_of_absent {sessionId : SessionId}
    (habsent : manager.session sessionId = none)
    (change : MetricSession → MetricSession) :
    manager.metricView.onSession sessionId change = manager.metricView := by
  have hmetric : manager.metricView.sessions sessionId = none :=
    congrArg (Option.map metricOf) habsent
  rw [MetricView.onSession, onSession_of_none change hmetric]

theorem metricView_onSession_congr {sessionId : SessionId} {session : Session}
    (hsession : manager.session sessionId = some session)
    {first second : MetricSession → MetricSession}
    (hsame : first (metricOf session) = second (metricOf session)) :
    manager.metricView.onSession sessionId first =
      manager.metricView.onSession sessionId second := by
  have hmetric : manager.metricView.sessions sessionId =
      some (metricOf session) := congrArg (Option.map metricOf) hsession
  rw [MetricView.onSession, MetricView.onSession]
  congr 1
  apply onSession_congr
  intro state hstate
  cases hmetric.symm.trans hstate
  exact hsame

theorem metricView_collectSessionMetric :
    (manager.collectSessionMetric env sessionId).metricView =
      manager.metricView.onSession sessionId (·.complete env) := by
  have hcollect : ∀ (current : PowerSessionManager) (metrics : SessionMetrics),
      (current.collectMetric metrics).metricView = current.metricView := by
    intro current metrics
    rw [collectMetric]
    split_ifs <;> rfl
  rw [collectSessionMetric]
  cases hsession : manager.session sessionId with
  | none => exact (metricView_onSession_of_absent manager hsession _).symm
  | some session =>
    cases hmetrics : session.value.sessFrameMetrics with
    | none =>
      simp only [Option.bind_some, hmetrics]
      refine (MetricView.onSession_id _ sessionId).symm.trans
        (metricView_onSession_congr manager hsession ?_)
      simp only [MetricSession.complete, metricOf, hmetrics]
      rfl
    | some metrics =>
      simp only [Option.bind_some, hmetrics]
      rw [hcollect, metricView_modifySession _ sessionId (fun state =>
        { state with metrics := some (completeMetric env metrics) })
        fun _ => rfl]
      apply metricView_onSession_congr manager hsession
      simp only [MetricSession.complete, metricOf, hmetrics]
      rfl

theorem metricView_resetSessionMetric :
    (manager.resetSessionMetric env sessionId).metricView =
      manager.metricView.onSession sessionId
        (·.reset env manager.scenarioType) :=
  metricView_modifySession _ sessionId _ fun _ => rfl

theorem scenarioType_of_gameModeEnabled {before after : PowerSessionManager}
    (hmode : after.metricView.gameModeEnabled =
      before.metricView.gameModeEnabled) :
    after.scenarioType = before.scenarioType :=
  congrArg (fun enabled : Bool =>
    if enabled then ScenarioType.game else ScenarioType.default) hmode

/-- What `pause` and `updateCollectedSessionMetrics` do, once they have changed
nothing that the view shows. -/
theorem metricView_rollOver {current : PowerSessionManager}
    (hview : current.metricView = manager.metricView) (env : Env)
    (sessionId : SessionId) :
    ((current.collectSessionMetric env sessionId).resetSessionMetric env
        sessionId).metricView =
      manager.metricView.onSession sessionId
        (·.rollOver env manager.scenarioType) := by
  have hcollect : (current.collectSessionMetric env sessionId).metricView =
      manager.metricView.onSession sessionId (·.complete env) := by
    rw [metricView_collectSessionMetric, hview]
  have hscenario : (current.collectSessionMetric env sessionId).scenarioType =
      manager.scenarioType :=
    scenarioType_of_gameModeEnabled (by rw [hcollect]; rfl)
  rw [metricView_resetSessionMetric, hcollect, hscenario,
    MetricView.onSession_onSession]
  rfl

theorem metricView_pause :
    (manager.pause env sessionId).metricView =
      if (manager.session sessionId).any (·.value.isActive) then
        manager.metricView.onSession sessionId
          (·.rollOver env manager.scenarioType)
      else manager.metricView := by
  cases hsession : manager.session sessionId with
  | none =>
    rw [pause, hsession]
    rfl
  | some session =>
    simp only [pause, hsession, Option.any_some]
    split_ifs with hactive hrampup
    · rw [metricView_applyCpuAndGpuVotes]
      apply metricView_rollOver
      rw [metricView_voteRampupBoostLocked,
        metricView_modifySession_of_same _ sessionId fun _ => rfl,
        metricView_modifySession_of_same _ sessionId fun _ => rfl]
    · rw [metricView_applyCpuAndGpuVotes]
      apply metricView_rollOver
      exact metricView_modifySession_of_same _ sessionId fun _ => rfl
    · rfl

theorem metricView_resume :
    (manager.resume env sessionId).metricView =
      if (manager.session sessionId).any (!·.value.isActive) then
        manager.metricView.onSession sessionId
          (·.reset env manager.scenarioType)
      else manager.metricView := by
  cases hsession : manager.session sessionId with
  | none =>
    rw [resume, hsession]
    rfl
  | some session =>
    simp only [resume, hsession, Option.any_some, Bool.not_eq_true']
    by_cases hactive : session.value.isActive = true
    · rw [if_pos hactive, if_neg (by rw [hactive]; decide)]
    · have hactivated : (manager.modifySession sessionId fun value =>
          { value with isActive := true }).metricView = manager.metricView :=
        metricView_modifySession_of_same _ sessionId fun _ => rfl
      rw [if_neg hactive, if_pos (Bool.eq_false_iff.mpr hactive),
        metricView_applyCpuAndGpuVotes, metricView_resetSessionMetric,
        hactivated, scenarioType_of_gameModeEnabled
          (congrArg MetricView.gameModeEnabled hactivated)]

/-- Whether `updateCollectedSessionMetrics` begins new metrics. -/
def needNewMetricSession (env : Env) (session : Session) : Bool :=
  session.value.sessFrameMetrics.any fun metrics =>
    decide ((session.value.tag = .surfaceflinger ∧
      metrics.scenarioType ≠ manager.scenarioType) ∨
        metrics.thermalThrotStat ≠ env.thermalThrotSev)

theorem metricView_updateCollectedSessionMetrics :
    (manager.updateCollectedSessionMetrics env sessionId).metricView =
      if (manager.session sessionId).any (manager.needNewMetricSession env) then
        manager.metricView.onSession sessionId
          (·.rollOver env manager.scenarioType)
      else manager.metricView := by
  rw [updateCollectedSessionMetrics]
  cases manager.session sessionId with
  | none => rfl
  | some session =>
    simp only [Option.any_some, needNewMetricSession]
    split
    · next hnone => simp [hnone]
    · next metrics hmetrics =>
        simp only [hmetrics, Option.any_some, decide_eq_true_eq]
        split_ifs
        · exact metricView_rollOver manager rfl env sessionId
        · rfl

theorem metricView_updateFrameMetrics
    (lastReportedFrames : FrameTimingMetrics) :
    (manager.updateFrameMetrics sessionId lastReportedFrames).metricView =
      manager.metricView.onSession sessionId (·.report lastReportedFrames) :=
  metricView_modifySession _ sessionId _ fun _ => rfl

theorem metricView_addPowerSession (before after : Env)
    (descriptor : AppHintDesc) (enableMetricCollection : Bool)
    (threadIds : List TaskId) :
    (manager.addPowerSession env before after descriptor
        enableMetricCollection threadIds).metricView =
      if (manager.session descriptor.sessionId).isNone then
        { manager.metricView with
          sessions := Function.update manager.metricView.sessions
            descriptor.sessionId (some (metricOf
              ⟨manager.newSessionValue env descriptor enableMetricCollection,
                []⟩)) }
      else manager.metricView := by
  rw [addPowerSession, metricView_setThreadsFromPowerSession]
  cases hsession : manager.session descriptor.sessionId with
  | none =>
    rw [Option.isNone_none, if_pos rfl]
    exact congrArg (MetricView.mk manager.mGameModeEnabled)
      ((congrArg (Option.map metricOf ∘ ·) (SessionLinks.session_add_of_none _
        [] hsession)).trans (Function.comp_update _ _ _ _))
  | some session =>
    rw [SessionLinks.add_of_some _ _ hsession]
    rfl

theorem metricView_unlinkSession :
    (manager.unlinkSession sessionId).metricView =
      { manager.metricView with
        sessions := Function.update manager.metricView.sessions sessionId
          none } :=
  congrArg (MetricView.mk manager.mGameModeEnabled)
    ((congrArg (Option.map metricOf ∘ ·)
      (manager.mSessionTaskMap.session_unlink sessionId)).trans
        (Function.comp_update _ _ _ _))

theorem metricView_removePowerSession {env : Env} {sessionId : SessionId}
    {next : PowerSessionManager}
    (hremove : manager.removePowerSession env sessionId = some next) :
    next.metricView =
      { manager.metricView with
        sessions := Function.update manager.metricView.sessions sessionId
          none } := by
  obtain ⟨-, tids, profiles, rfl⟩ := exists_of_removePowerSession hremove
  rw [metricView_setTaskProfilesAll, metricView_unlinkSession,
    metricView_collectSessionMetric, metricView_forceSessionActive,
    MetricView.onSession, onSession, Function.update_idem]

/-! ## Calls -/

/-- Whether a call begins the metrics of a session, or begins them anew. -/
def resetsMetric (sessionId : SessionId) : Call → Bool
  | .addPowerSession _ _ _ descriptor _ _ =>
    decide (descriptor.sessionId = sessionId) &&
      (manager.session descriptor.sessionId).isNone
  | .pause _ target =>
    decide (target = sessionId) &&
      (manager.session target).any (·.value.isActive)
  | .resume _ target =>
    decide (target = sessionId) &&
      (manager.session target).any (!·.value.isActive)
  | .updateCollectedSessionMetrics env target =>
    decide (target = sessionId) &&
      (manager.session target).any (manager.needNewMetricSession env)
  | _ => false

variable {manager} {next : PowerSessionManager} {call : Call}
  {sessionId : SessionId}

section

variable (hstep : manager.step call = some next)
  (hresets : manager.resetsMetric sessionId call = false)
  (hframes : ∀ frames, call ≠ .updateFrameMetrics sessionId frames)
include hstep hresets hframes

/-- A call that neither removes the session, nor resets its metrics, nor adds to
them leaves them as they are. -/
theorem sessions_of_not_resets
    (hremoves : ∀ env, call ≠ .removePowerSession env sessionId) :
    next.metricView.sessions sessionId =
      manager.metricView.sessions sessionId := by
  have hkept (hview : next.metricView = manager.metricView) :
      next.metricView.sessions sessionId =
        manager.metricView.sessions sessionId :=
    congrArg (fun view : MetricView => view.sessions sessionId) hview
  cases call with
  | addPowerSession =>
      cases hstep
      rw [metricView_addPowerSession]
      split_ifs with habsent
      · rw [resetsMetric, habsent, Bool.and_true,
          decide_eq_false_iff_not] at hresets
        exact Function.update_of_ne (Ne.symm hresets) _ _
      · rfl
  | removePowerSession env =>
    rw [metricView_removePowerSession manager hstep]
    refine Function.update_of_ne ?_ _ _
    rintro rfl
    exact hremoves env rfl
  | setThreadsFromPowerSession =>
    cases hstep
    exact hkept (metricView_setThreadsFromPowerSession _ _ _ _ _)
  | pause =>
    cases hstep
    rw [metricView_pause]
    exact MetricView.sessions_ite_onSession_of_false hresets _
  | resume =>
    cases hstep
    rw [metricView_resume]
    exact MetricView.sessions_ite_onSession_of_false hresets _
  | updateTargetWorkDuration =>
    cases hstep
    exact hkept (metricView_modifySession_of_same _ _ fun _ => rfl)
  | voteSetCpu =>
    cases hstep
    exact hkept (metricView_voteSetCpu _ _ _ _ _ _ _ _)
  | voteSetGpu =>
    cases hstep
    exact hkept (metricView_voteSetGpu _ _ _ _ _ _ _)
  | disableBoosts =>
    cases hstep
    exact hkept (metricView_modifySession_of_same _ _ fun _ => rfl)
  | dispatch => exact hkept (metricView_dispatch manager hstep)
  | setPreferPowerEfficiency =>
    cases hstep
    exact hkept (metricView_setPreferPowerEfficiency _ _ _ _)
  | updateRampupBoostMode =>
    cases hstep
    exact hkept (metricView_updateRampupBoostMode _ _ _ _ _)
  | updateHboostStatistics =>
    cases hstep
    exact hkept (metricView_modifySession_of_same _ _ fun _ => rfl)
  | updateFrameMetrics target frames =>
    cases hstep
    rw [metricView_updateFrameMetrics]
    refine onSession_of_ne _ ?_
    rintro rfl
    exact hframes frames rfl
  | updateCollectedSessionMetrics =>
    cases hstep
    rw [metricView_updateCollectedSessionMetrics]
    exact MetricView.sessions_ite_onSession_of_false hresets _
  | updateHintMode =>
    cases hstep
    rw [updateHintMode]
    split_ifs <;> rfl

/-- Metrics that are there after a call which neither resets them nor adds to
them were there before it. -/
theorem metric_of_not_resets {session : MetricSession}
    (hsession : next.metricView.sessions sessionId = some session) :
    manager.metricView.sessions sessionId = some session := by
  rw [← sessions_of_not_resets hstep hresets hframes, hsession]
  rintro env rfl
  rw [metricView_removePowerSession manager hstep] at hsession
  exact nomatch (Function.update_self _ _ _).symm.trans hsession

end

/-- Metrics without frames. -/
structure Fresh (metrics : SessionMetrics) : Prop where
  totalFrameNumber : metrics.totalFrameNumber = 0
  appFrameMetrics : metrics.appFrameMetrics = none
  gameFrameMetrics : metrics.gameFrameMetrics = none

/-- The metrics of a session have begun anew, in the scenario in force. -/
structure Restarted (scenario : ScenarioType) (before session : MetricSession) :
    Prop where
  tag : session.tag = before.tag
  isSome : session.metrics.isSome = before.metrics.isSome
  fresh : ∀ metrics, session.metrics = some metrics → Fresh metrics
  scenario : ∀ metrics, session.metrics = some metrics →
    metrics.scenarioType = scenario

theorem restarted_reset (scenario : ScenarioType) (before : MetricSession) :
    Restarted scenario before (before.reset env scenario) := by
  refine ⟨rfl, Option.isSome_map, ?_, ?_⟩
  · intro metrics hmetrics
    obtain ⟨old, -, rfl⟩ := Option.map_eq_some_iff.mp hmetrics
    exact ⟨rfl, rfl, rfl⟩
  · intro metrics hmetrics
    obtain ⟨old, -, rfl⟩ := Option.map_eq_some_iff.mp hmetrics
    rfl

theorem restarted_rollOver (scenario : ScenarioType) (before : MetricSession) :
    Restarted scenario before (before.rollOver env scenario) := by
  obtain ⟨htag, hsome, hfresh, hscenario⟩ :=
    restarted_reset env scenario (before.complete env)
  exact ⟨htag, hsome.trans Option.isSome_map, hfresh, hscenario⟩

section

variable (hstep : manager.step call = some next)
  (hresets : manager.resetsMetric sessionId call = true)
include hstep hresets

/-- A call that resets the metrics creates the session, or restarts the metrics
of the one that exists. -/
theorem resets_cases :
    (manager.metricView.sessions sessionId = none ∧
      ∃ env descriptor enableMetricCollection,
        next.metricView.sessions sessionId =
          some (metricOf ⟨manager.newSessionValue env descriptor
            enableMetricCollection, []⟩)) ∨
    ∃ change,
      (∀ before, Restarted manager.scenarioType before (change before)) ∧
      next.metricView.sessions sessionId =
        (manager.metricView.sessions sessionId).map change := by
  cases call with
  | addPowerSession env before after descriptor enableMetricCollection =>
      cases hstep
      rw [resetsMetric, Bool.and_eq_true, decide_eq_true_eq] at hresets
      obtain ⟨rfl, habsent⟩ := hresets
      refine Or.inl ⟨?_, env, descriptor, enableMetricCollection, ?_⟩
      · exact congrArg (Option.map metricOf)
          (Option.isNone_iff_eq_none.mp habsent)
      · rw [metricView_addPowerSession, if_pos habsent]
        exact Function.update_self _ _ _
  | pause env =>
    cases hstep
    refine Or.inr ⟨_, restarted_rollOver env manager.scenarioType, ?_⟩
    rw [metricView_pause]
    exact MetricView.sessions_ite_onSession_of_true hresets _
  | resume env =>
    cases hstep
    refine Or.inr ⟨_, restarted_reset env manager.scenarioType, ?_⟩
    rw [metricView_resume]
    exact MetricView.sessions_ite_onSession_of_true hresets _
  | updateCollectedSessionMetrics env =>
    cases hstep
    refine Or.inr ⟨_, restarted_rollOver env manager.scenarioType, ?_⟩
    rw [metricView_updateCollectedSessionMetrics]
    exact MetricView.sessions_ite_onSession_of_true hresets _
  | _ => exact nomatch hresets

/-- The metrics of a session that exists are reset to the scenario in force,
whatever its tag. -/
theorem restarted_of_resets {before : MetricSession}
    (hbefore : manager.metricView.sessions sessionId = some before) :
    ∃ session, next.metricView.sessions sessionId = some session ∧
      Restarted manager.scenarioType before session := by
  rcases resets_cases hstep hresets with
    ⟨hnone, -⟩ | ⟨change, hrestarted, hnext⟩
  · exact nomatch hnone.symm.trans hbefore
  · rw [hbefore, Option.map_some] at hnext
    exact ⟨change before, hnext, hrestarted before⟩

end

theorem fresh_newSessionValue {env : Env} {descriptor : AppHintDesc}
    {enableMetricCollection : Bool} {metrics : SessionMetrics}
    (hmetrics : (manager.newSessionValue env descriptor
      enableMetricCollection).sessFrameMetrics = some metrics) :
    Fresh metrics ∧ (metrics.scenarioType = .game →
      descriptor.tag = .surfaceflinger) := by
  rw [newSessionValue] at hmetrics
  simp only at hmetrics
  split_ifs at hmetrics with _ htag
  · cases hmetrics
    exact ⟨⟨rfl, rfl, rfl⟩, fun _ => htag⟩
  · cases hmetrics
    exact ⟨⟨rfl, rfl, rfl⟩, nofun⟩

/-- The metrics of a new session have the game scenario only if its tag allows
it. -/
theorem fresh_of_created (hstep : manager.step call = some next)
    (hresets : manager.resetsMetric sessionId call = true)
    (habsent : manager.metricView.sessions sessionId = none)
    {session : MetricSession} {metrics : SessionMetrics}
    (hsession : next.metricView.sessions sessionId = some session)
    (hmetrics : session.metrics = some metrics) :
    Fresh metrics ∧ (metrics.scenarioType = .game →
      session.tag = .surfaceflinger) := by
  rcases resets_cases hstep hresets with
    ⟨-, env, descriptor, enableMetricCollection, hnext⟩ | ⟨change, -, hnext⟩
  · cases hnext.symm.trans hsession
    exact fresh_newSessionValue hmetrics
  · rw [habsent, hsession] at hnext
    exact nomatch hnext

end PowerSessionManager

end HardwareInterfaces.SessionManager

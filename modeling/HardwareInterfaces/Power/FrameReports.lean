import HardwareInterfaces.Power.MetricEffects
import HardwareInterfaces.Power.SessionRecords

/-!
# Frames reported by a session

A report adds its frames to the records of the hint session, and the metrics of
the batch to those that the manager keeps for the session.  Only a session of
SurfaceFlinger reports game frames.  A reset gives every session the scenario
of the game mode, though, and a session with metrics for games that reports no
game frames has its frames counted nowhere.
-/

namespace HardwareInterfaces.FrameRecords

open Metrics

/-! ## Batches -/

namespace SessionRecords

/-- The start interval of a frame that comes next. -/
def frameIntervalUs (platform : Platform) (records : SessionRecords)
    (duration : WorkDuration) : Int :=
  let kept := records.removeOldest platform
  if 0 < kept.mNumOfFrames then
    startIntervalUs duration.startTimeNs kept.mLastStartTimeNs
  else 0

/-- The positive start intervals of a batch, in whole milliseconds. -/
def intervalsMs (platform : Platform) (targetDurationNs : Int)
    (computeGameMetrics : Bool) :
    SessionRecords → List WorkDuration → List Nat
  | _, [] => []
  | records, duration :: durations =>
    let intervalUs := records.frameIntervalUs platform duration
    let next := (addReportedDuration platform targetDurationNs
      computeGameMetrics (records, {}) duration).1
    (if 0 < intervalUs then [(intervalUs.tdiv 1000).toNat] else []) ++
      next.intervalsMs platform targetDurationNs computeGameMetrics durations

theorem totalNumOfFrames_updateFrameBuckets (frameDurationUs : Int)
    (isJankFrame : Bool) (framesInBuckets : FrameBuckets) :
    (updateFrameBuckets frameDurationUs isJankFrame
      framesInBuckets).totalNumOfFrames =
        framesInBuckets.totalNumOfFrames + 1 := by
  rw [updateFrameBuckets]
  split_ifs <;> rfl

/-- A batch has all its frames in the buckets. -/
theorem totalNumOfFrames_addReportedDurations (platform : Platform)
    (records : SessionRecords) (durations : List WorkDuration)
    (targetDurationNs : Int) (metrics : FrameTimingMetrics)
    (computeGameMetrics : Bool) :
    (records.addReportedDurations platform durations targetDurationNs metrics
      computeGameMetrics).2.framesInBuckets.totalNumOfFrames =
        metrics.framesInBuckets.totalNumOfFrames + durations.length := by
  rw [addReportedDurations]
  induction durations generalizing records metrics with
  | nil => exact (add_zero _).symm
  | cons duration durations ih =>
    have hone : (addReportedDuration platform targetDurationNs
        computeGameMetrics (records, metrics)
          duration).2.framesInBuckets.totalNumOfFrames =
            metrics.framesInBuckets.totalNumOfFrames + 1 :=
      totalNumOfFrames_updateFrameBuckets _ _ _
    rw [List.foldl_cons, ih, hone, List.length_cons]
    omega

end SessionRecords

end HardwareInterfaces.FrameRecords

namespace HardwareInterfaces.SessionManager

open AdpfTypes FrameRecords Metrics SessionTaskMap Transition

/-! ## Runs of a session -/

/-- What has been reported since the metrics were last reset. -/
structure Reported where
  frames : Nat := 0
  /-- The intervals that were taken for game frames. -/
  intervalsMs : List Nat := []
  deriving DecidableEq, Repr

/-- A batch of frames is reported. -/
def Reported.add (platform : Platform) (records : SessionRecords)
    (durations : List WorkDuration) (targetDurationNs : Int)
    (computeGameMetrics : Bool) (reported : Reported) : Reported where
  frames := reported.frames + durations.length
  intervalsMs := reported.intervalsMs ++
    if computeGameMetrics then
      records.intervalsMs platform targetDurationNs computeGameMetrics durations
    else []

/-- The manager with the records of one hint session. -/
structure ReportingSession where
  manager : PowerSessionManager
  records : SessionRecords
  reported : Reported

inductive ReportAction where
  /-- Any call of the manager, but for the reports of the session. -/
  | call (call : PowerSessionManager.Call)
  /-- A batch of frames.  Whether they count as game frames was decided with
  the game mode before, which may have changed since. -/
  | report (durations : List WorkDuration) (targetDurationNs : Int)
      (computeGameMetrics : Bool)
  | resetRecords
  /-- The hint session is constructed again. -/
  | construct (maxNumOfRecords : Int) (jankCheckTimeFactor : ℚ)

/-- The call adds frames to the metrics of the session. -/
def PowerSessionManager.Call.addsFrames (sessionId : SessionId) :
    PowerSessionManager.Call → Bool
  | .updateFrameMetrics target _ => decide (target = sessionId)
  | _ => false

namespace ReportingSession

variable (platform : Platform) (sessionId : SessionId)

def step (reporting : ReportingSession) :
    ReportAction → Option ReportingSession
  | .call call =>
    if call.addsFrames sessionId then none
    else
      (reporting.manager.step call).map fun next =>
        { reporting with
          manager := next
          reported :=
            if reporting.manager.resetsMetric sessionId call then {}
            else reporting.reported }
  | .report durations targetDurationNs computeGameMetrics =>
    let (records, newFrameMetrics) :=
      reporting.records.addReportedDurations platform durations
        targetDurationNs {} computeGameMetrics
    some
      { manager :=
          reporting.manager.updateFrameMetrics sessionId newFrameMetrics
        records
        reported := reporting.reported.add platform reporting.records
          durations targetDurationNs computeGameMetrics }
  | .resetRecords =>
    some { reporting with records := reporting.records.resetRecords }
  | .construct maxNumOfRecords jankCheckTimeFactor =>
    some { reporting with
      records := .new maxNumOfRecords jankCheckTimeFactor }

/-- The session at process start, with whatever records. -/
def init (gpuCapacityNode taskRampupMultNode : Bool)
    (maxNumOfCachedSessionMetrics : Nat) (records : SessionRecords) :
    ReportingSession where
  manager := .init gpuCapacityNode taskRampupMultNode
    maxNumOfCachedSessionMetrics
  records
  reported := {}

/-! ## What a step does to the metrics -/

/-- The metrics of the session. -/
def Shows (reporting : ReportingSession) (tag : SessionTag)
    (metrics : SessionMetrics) : Prop :=
  reporting.manager.metricView.sessions sessionId = some ⟨tag, some metrics⟩

/-- The metrics with the frames of a batch. -/
def batchAdded (newFrameMetrics : FrameTimingMetrics)
    (metrics : SessionMetrics) : SessionMetrics :=
  match metrics.scenarioType with
  | .game => metrics.addNewGameFrames newFrameMetrics.gameFrameMetrics
  | .default => metrics.addNewAppFrames newFrameMetrics.framesInBuckets

variable {platform sessionId} {reporting next : ReportingSession}
  {action : ReportAction} {tag : SessionTag} {metrics : SessionMetrics}

theorem shows_of_updateFrameMetrics {manager : PowerSessionManager}
    {newFrameMetrics : FrameTimingMetrics}
    (hshows : (manager.updateFrameMetrics sessionId
      newFrameMetrics).metricView.sessions sessionId =
        some ⟨tag, some metrics⟩) :
    ∃ old, manager.metricView.sessions sessionId = some ⟨tag, some old⟩ ∧
      metrics = batchAdded newFrameMetrics old := by
  rw [PowerSessionManager.metricView_updateFrameMetrics,
    MetricView.onSession] at hshows
  simp only [onSession_self] at hshows
  obtain ⟨⟨oldTag, oldMetrics⟩, hold, hreport⟩ :=
    Option.map_eq_some_iff.mp hshows
  obtain ⟨rfl, hmetrics⟩ := MetricSession.mk.inj hreport
  obtain ⟨old, rfl, rfl⟩ := Option.map_eq_some_iff.mp hmetrics
  exact ⟨old, hold, rfl⟩

/-- Metrics that are reset have the game scenario without the tag for it only
when the game mode is on. -/
theorem shows_of_resets {manager nextManager : PowerSessionManager}
    {call : PowerSessionManager.Call}
    (hstep : manager.step call = some nextManager)
    (hresets : manager.resetsMetric sessionId call = true)
    (hshows : nextManager.metricView.sessions sessionId =
      some ⟨tag, some metrics⟩) :
    PowerSessionManager.Fresh metrics ∧
      (metrics.scenarioType = .game → tag ≠ .surfaceflinger →
        manager.mGameModeEnabled = true ∧
          ∃ old, manager.metricView.sessions sessionId =
            some ⟨tag, some old⟩) := by
  cases hbefore : manager.metricView.sessions sessionId with
  | none =>
    obtain ⟨hfresh, htag⟩ := PowerSessionManager.fresh_of_created hstep hresets
      hbefore hshows rfl
    exact ⟨hfresh, fun hgame hother => absurd (htag hgame) hother⟩
  | some before =>
    obtain ⟨session, hsession, hrestarted⟩ :=
      PowerSessionManager.restarted_of_resets hstep hresets hbefore
    cases hshows.symm.trans hsession
    refine ⟨hrestarted.fresh metrics rfl, fun hgame _ => ⟨?_, ?_⟩⟩
    · have hscenario := hrestarted.scenario metrics rfl
      rw [hgame, PowerSessionManager.scenarioType] at hscenario
      split_ifs at hscenario with hmode
      exact hmode
    · obtain ⟨oldTag, oldMetrics⟩ := before
      obtain ⟨old, rfl⟩ := Option.isSome_iff_exists.mp hrestarted.isSome.symm
      obtain rfl : tag = oldTag := hrestarted.tag
      exact ⟨old, rfl⟩

/-- The metrics after a step are those before, new ones, or those before with
the frames of a report. -/
theorem shows_cases
    (hstep : reporting.step platform sessionId action = some next)
    (hshows : next.Shows sessionId tag metrics) :
    (reporting.Shows sessionId tag metrics ∧
        next.reported = reporting.reported) ∨
      (∃ call, action = .call call ∧
        reporting.manager.resetsMetric sessionId call = true ∧
        PowerSessionManager.Fresh metrics ∧ next.reported = {} ∧
        (metrics.scenarioType = .game → tag ≠ .surfaceflinger →
          reporting.manager.mGameModeEnabled = true ∧
            ∃ old, reporting.Shows sessionId tag old)) ∨
      ∃ durations targetDurationNs computeGameMetrics old,
        action = .report durations targetDurationNs computeGameMetrics ∧
        reporting.Shows sessionId tag old ∧
        metrics = batchAdded (reporting.records.addReportedDurations platform
          durations targetDurationNs {} computeGameMetrics).2 old ∧
        next.reported = reporting.reported.add platform reporting.records
          durations targetDurationNs computeGameMetrics := by
  cases action with
  | call call =>
    rw [step] at hstep
    split_ifs at hstep with hadds hresets
    · obtain ⟨manager, hcall, rfl⟩ := Option.map_eq_some_iff.mp hstep
      obtain ⟨hfresh, hgame⟩ := shows_of_resets hcall hresets hshows
      exact Or.inr (Or.inl ⟨call, rfl, hresets, hfresh, rfl, hgame⟩)
    · obtain ⟨manager, hcall, rfl⟩ := Option.map_eq_some_iff.mp hstep
      refine Or.inl ⟨PowerSessionManager.metric_of_not_resets hcall
        (Bool.eq_false_iff.mpr hresets) ?_ hshows, rfl⟩
      rintro frames rfl
      exact hadds (decide_eq_true rfl)
  | report durations targetDurationNs computeGameMetrics =>
    cases hstep
    obtain ⟨old, hold, hmetrics⟩ := shows_of_updateFrameMetrics hshows
    exact Or.inr (Or.inr ⟨durations, targetDurationNs, computeGameMetrics, old,
      rfl, hold, hmetrics, rfl⟩)
  | resetRecords | construct =>
    cases hstep
    exact Or.inl ⟨hshows, rfl⟩

theorem reported_cases
    (hstep : reporting.step platform sessionId action = some next) :
    next.reported = reporting.reported ∨ next.reported = {} ∨
      ∃ durations targetDurationNs computeGameMetrics,
        action = .report durations targetDurationNs computeGameMetrics ∧
        next.reported = reporting.reported.add platform reporting.records
          durations targetDurationNs computeGameMetrics := by
  cases action with
  | call call =>
    rw [step] at hstep
    split_ifs at hstep
    · obtain ⟨manager, -, rfl⟩ := Option.map_eq_some_iff.mp hstep
      exact Or.inr (Or.inl rfl)
    · obtain ⟨manager, -, rfl⟩ := Option.map_eq_some_iff.mp hstep
      exact Or.inl rfl
  | report durations targetDurationNs computeGameMetrics =>
    cases hstep
    exact Or.inr (Or.inr ⟨durations, targetDurationNs, computeGameMetrics, rfl,
      rfl⟩)
  | resetRecords | construct =>
    cases hstep
    exact Or.inl rfl

/-! ## Frames of sessions that are not SurfaceFlinger's -/

variable (sessionId) in
/-- Only a session of SurfaceFlinger has metrics for games, and those of any
other session count all frames reported. -/
def CountsAppFrames (reporting : ReportingSession) : Prop :=
  ∀ session ∈ reporting.manager.session sessionId,
    ∀ metrics ∈ session.value.sessFrameMetrics,
      (metrics.scenarioType = .game → session.value.tag = .surfaceflinger) ∧
      (session.value.tag ≠ .surfaceflinger →
        metrics.totalFrameNumber = UInt32.ofNat reporting.reported.frames)

variable (sessionId) in
/-- The metrics of a session that is not SurfaceFlinger's are reset only while
the game mode is off. -/
def ResetsOutsideGame (reporting : ReportingSession) : ReportAction → Prop
  | .call call =>
    reporting.manager.resetsMetric sessionId call = true →
      ∀ session ∈ reporting.manager.session sessionId,
        session.value.tag ≠ .surfaceflinger →
          session.value.sessFrameMetrics.isSome = true →
            reporting.manager.mGameModeEnabled = false
  | _ => True

instance : DecidablePred (CountsAppFrames sessionId) :=
  fun _ => inferInstanceAs (Decidable (∀ _ ∈ _, _))

instance (reporting : ReportingSession) :
    DecidablePred (reporting.ResetsOutsideGame sessionId)
  | .call _ => inferInstanceAs (Decidable (_ → _))
  | .report _ _ _ => isTrue trivial
  | .resetRecords => isTrue trivial
  | .construct _ _ => isTrue trivial

theorem shows_of_session {session : Session}
    (hsession : reporting.manager.session sessionId = some session)
    (hmetrics : session.value.sessFrameMetrics = some metrics) :
    reporting.Shows sessionId session.value.tag metrics := by
  rw [Shows, ← hmetrics]
  exact congrArg (Option.map metricOf) hsession

theorem Shows.exists_session (hshows : reporting.Shows sessionId tag metrics) :
    ∃ session, reporting.manager.session sessionId = some session ∧
      session.value.tag = tag ∧
      session.value.sessFrameMetrics = some metrics := by
  obtain ⟨session, hsession, hview⟩ := Option.map_eq_some_iff.mp hshows
  obtain ⟨htag, hmetrics⟩ := MetricSession.mk.inj hview
  exact ⟨session, hsession, htag, hmetrics⟩

theorem countsAppFrames_iff :
    reporting.CountsAppFrames sessionId ↔
      ∀ tag metrics, reporting.Shows sessionId tag metrics →
        (metrics.scenarioType = .game → tag = .surfaceflinger) ∧
        (tag ≠ .surfaceflinger →
          metrics.totalFrameNumber =
            UInt32.ofNat reporting.reported.frames) := by
  constructor
  · intro hcounts tag metrics hshows
    obtain ⟨session, hsession, rfl, hmetrics⟩ := hshows.exists_session
    exact hcounts session hsession metrics hmetrics
  · intro hcounts session hsession metrics hmetrics
    exact hcounts _ _ (shows_of_session hsession hmetrics)

theorem scenarioType_batchAdded (newFrameMetrics : FrameTimingMetrics)
    (metrics : SessionMetrics) :
    (batchAdded newFrameMetrics metrics).scenarioType =
      metrics.scenarioType := by
  rw [batchAdded]
  split <;> rfl

/-- Application frames are added to the total, up to its width. -/
theorem totalFrameNumber_addNewAppFrames {newFrameMetrics : FrameBuckets}
    {frames number : Nat}
    (htotal : metrics.totalFrameNumber = UInt32.ofNat frames)
    (hnew : newFrameMetrics.totalNumOfFrames = number) :
    (metrics.addNewAppFrames newFrameMetrics).totalFrameNumber =
      UInt32.ofNat (frames + number) := by
  rw [SessionMetrics.addNewAppFrames, htotal, hnew, UInt32.toNat_ofNat',
    ← Int.natCast_add]
  apply UInt32.toNat_inj.mp
  rw [UInt32.toNat_ofNat', UInt32.toNat_ofNat']
  omega

theorem CountsAppFrames.step (hcounts : reporting.CountsAppFrames sessionId)
    (hguard : reporting.ResetsOutsideGame sessionId action)
    (hstep : reporting.step platform sessionId action = some next) :
    next.CountsAppFrames sessionId := by
  rw [countsAppFrames_iff] at hcounts ⊢
  intro tag metrics hshows
  rcases shows_cases hstep hshows with ⟨hold, hreported⟩ |
    ⟨call, rfl, hresets, hfresh, hreported, hgame⟩ |
    ⟨durations, targetDurationNs, computeGameMetrics, old, rfl, hold, rfl,
      hreported⟩
  · rw [hreported]
    exact hcounts tag metrics hold
  · constructor
    · intro hscenario
      by_contra hother
      obtain ⟨hmode, old, hold⟩ := hgame hscenario hother
      obtain ⟨session, hsession, rfl, hmetrics⟩ := hold.exists_session
      have hoff := hguard hresets session hsession hother (by rw [hmetrics]; rfl)
      rw [hmode] at hoff
      exact nomatch hoff
    · intro _
      rw [hfresh.totalFrameNumber, hreported]
      rfl
  · obtain ⟨htag, htotal⟩ := hcounts tag old hold
    rw [scenarioType_batchAdded]
    refine ⟨htag, fun hother => ?_⟩
    have hscenario : old.scenarioType = .default := by
      cases hcase : old.scenarioType with
      | default => rfl
      | game => exact absurd (htag hcase) hother
    rw [hreported, batchAdded, hscenario]
    apply totalFrameNumber_addNewAppFrames (htotal hother)
    rw [SessionRecords.totalNumOfFrames_addReportedDurations]
    exact zero_add _

theorem CountsAppFrames.not_of_not_resetsOutsideGame
    (hguard : ¬ reporting.ResetsOutsideGame sessionId action)
    (hstep : reporting.step platform sessionId action = some next) :
    ¬ next.CountsAppFrames sessionId := by
  rw [countsAppFrames_iff]
  intro hcounts
  cases action with
  | call call =>
    simp only [ResetsOutsideGame, not_forall, Bool.not_eq_false] at hguard
    obtain ⟨hresets, session, hsession, hother, hsome, hmode⟩ := hguard
    rw [ReportingSession.step] at hstep
    split_ifs at hstep
    obtain ⟨manager, hcall, rfl⟩ := Option.map_eq_some_iff.mp hstep
    obtain ⟨after, hafter, hrestarted⟩ :=
      PowerSessionManager.restarted_of_resets hcall hresets
        (congrArg (Option.map metricOf) hsession)
    obtain ⟨metrics, hmetrics⟩ :=
      Option.isSome_iff_exists.mp (hrestarted.isSome.trans hsome)
    have hgame : metrics.scenarioType = .game := by
      rw [hrestarted.scenario metrics hmetrics,
        PowerSessionManager.scenarioType, if_pos hmode]
    have htag : after.tag = session.value.tag := hrestarted.tag
    have hshows : manager.metricView.sessions sessionId =
        some ⟨session.value.tag, some metrics⟩ := by
      rw [hafter, ← hmetrics, ← htag]
    exact hother ((hcounts _ _ hshows).1 hgame)
  | _ => exact hguard trivial

/-- Only sessions of SurfaceFlinger have metrics for games, and all other
sessions have their frames counted, exactly when those are reset only while the
game mode is off. -/
theorem app_frames_counted_iff_reset_outside_game (platform : Platform)
    (sessionId : SessionId) (gpuCapacityNode taskRampupMultNode : Bool)
    (maxNumOfCachedSessionMetrics : Nat) (records : SessionRecords)
    (actions : List ReportAction) :
    RunHolds (step platform sessionId) (CountsAppFrames sessionId)
        (init gpuCapacityNode taskRampupMultNode maxNumOfCachedSessionMetrics
          records) actions ↔
      RunMeets (step platform sessionId) (ResetsOutsideGame sessionId)
        (init gpuCapacityNode taskRampupMultNode maxNumOfCachedSessionMetrics
          records) actions := by
  apply runHolds_iff_runMeets (fun _ hcounts => hcounts)
  · intro reporting action next hcounts hguard hstep
    exact hcounts.step hguard hstep
  · intro reporting action next _ hguard hstep
    exact CountsAppFrames.not_of_not_resetsOutsideGame hguard hstep
  · intro session hsession
    exact nomatch hsession.symm.trans (SessionLinks.session_empty sessionId)

/-- An application session is paused and resumed while the game mode is on, and
then reports three frames. -/
def pausedInGame : List ReportAction :=
  [.call (.addPowerSession (sampleEnv 0) (sampleEnv 0) (sampleEnv 0)
      (sampleDescriptor 7 [11]) true [11]),
    .call (.updateHintMode true true),
    .call (.pause (sampleEnv 10) 7),
    .call (.resume (sampleEnv 20) 7),
    .report [⟨40000000, 9000000⟩, ⟨56000000, 9000000⟩, ⟨72000000, 9000000⟩]
      16666666 false]

/-- The frames are not counted: the metrics of the session have become metrics
for games. -/
theorem app_frames_not_always_counted :
    ¬ RunHolds (step ⟨MachineArithmetic.Rounding.exact, fun _ => {}⟩ 7)
        (CountsAppFrames 7) (init true true 10 (.new 50 1)) pausedInGame ∧
      (run (step ⟨MachineArithmetic.Rounding.exact, fun _ => {}⟩ 7)
        (init true true 10 (.new 50 1)) pausedInGame).map (fun reporting =>
          (reporting.reported.frames, (reporting.manager.session 7).map
            fun session => (session.value.tag, session.value.sessFrameMetrics.map
              fun metrics => (metrics.scenarioType,
                metrics.totalFrameNumber)))) =
        some (3, some (.app, some (.game, 0))) := by
  decide +kernel

end ReportingSession

end HardwareInterfaces.SessionManager

import HardwareInterfaces.Power.HeuristicBoost

/-!
# What a call does to the heuristic boost

An accepted binder call leaves the records and the controller of a session
alone, adds a report to them, or resets the records.  A call that ends in
anything but a status code has gone through missing records or has computed
the frame rate from an empty sum.
-/

namespace HardwareInterfaces.HeuristicBoost

open AdpfTypes FrameRecords HintSession MachineArithmetic Metrics Pid
open SessionManager Transition

/-! ## Computations that can fail -/

section Fallible

variable {Value Result : Type} {fallible : Except Fault Value}
variable {next : Value → Except Fault Result}

/-- The computation can fail with a status code only. -/
def OnlyFails (fallible : Except Fault Value) : Prop :=
  ∀ fault, fallible = .error fault → ∃ failure, fault = .failed failure

theorem onlyFails_ok (value : Value) :
    OnlyFails (Except.ok value : Except Fault Value) :=
  nofun

theorem value_eq_ok {setting : Option Value} {result : Value} :
    value setting = .ok result ↔ setting = some result := by
  cases setting <;> simp [value]

theorem onlyFails_value (setting : Option Value) :
    OnlyFails (value setting) := by
  intro fault hfault
  cases setting with
  | none =>
    cases hfault
    exact ⟨_, rfl⟩
  | some setting => cases hfault

theorem OnlyFails.bind (hfallible : OnlyFails fallible)
    (hnext : ∀ value, OnlyFails (next value)) :
    OnlyFails (fallible >>= next) := by
  intro fault hfault
  cases fallible with
  | error first =>
    exact hfallible fault (congrArg Except.error (Except.error.inj hfault))
  | ok value => exact hnext value fault hfault

/-- A fault that is no status code comes from the rest of a computation whose
start can fail with a status code only. -/
theorem OnlyFails.error_of_bind (hfallible : OnlyFails fallible)
    {fault : Fault} (hfault : ∀ failure, fault ≠ .failed failure)
    (herror : (fallible >>= next) = .error fault) :
    ∃ value, fallible = .ok value ∧ next value = .error fault := by
  cases fallible with
  | error first =>
    obtain ⟨failure, hfailure⟩ := hfallible first rfl
    exact absurd ((Except.error.inj herror).symm.trans hfailure)
      (hfault failure)
  | ok value => exact ⟨value, rfl, herror⟩

/-- It comes from the start of a computation whose rest can fail with a status
code only. -/
theorem error_of_bind {fault : Fault}
    (hfault : ∀ failure, fault ≠ .failed failure)
    (hnext : ∀ value, OnlyFails (next value))
    (herror : (fallible >>= next) = .error fault) :
    fallible = .error fault := by
  cases fallible with
  | error first => exact congrArg Except.error (Except.error.inj herror)
  | ok value =>
    obtain ⟨failure, hfailure⟩ := hnext value fault herror
    exact absurd hfailure (hfault failure)

end Fallible

section Level

variable (platform : Platform) (profile : AdpfProfile)

theorem onlyFails_updateSessionJankState (oldState : SessionJankyLevel)
    (numOfJankFrames : Int) (durationVariance : ℚ) (isLowFPS : Bool) :
    OnlyFails (updateSessionJankState profile oldState numOfJankFrames
      durationVariance isLowFPS) := by
  cases isLowFPS with
  | true => exact onlyFails_ok _
  | false =>
    refine (onlyFails_value _).bind fun moderate => ?_
    split_ifs
    · exact onlyFails_ok _
    · exact (onlyFails_value _).bind fun _ => onlyFails_ok _
    · exact (onlyFails_value _).bind fun _ => onlyFails_ok _

theorem onlyFails_jankyFactor (jankyFrameNum : Int) :
    OnlyFails (jankyFactor platform profile jankyFrameNum) := by
  refine (onlyFails_value _).bind fun moderate => ?_
  split_ifs
  · exact onlyFails_ok _
  · exact (onlyFails_value _).bind fun _ => onlyFails_ok _

theorem onlyFails_pidPuActive (jankyLevel : SessionJankyLevel)
    (jankyFrameNum : Int) :
    OnlyFails (pidPuActive platform profile jankyLevel jankyFrameNum) := by
  rw [pidPuActive]
  split_ifs
  · exact onlyFails_ok _
  · refine (onlyFails_value _).bind fun severePidPu => ?_
    cases jankyLevel with
    | light => exact onlyFails_ok _
    | moderate =>
      exact (onlyFails_jankyFactor platform profile _).bind
        fun _ => onlyFails_ok _
    | severe => exact onlyFails_ok _

theorem onlyFails_hboostBound (jankyLevel : SessionJankyLevel)
    (jankyFrameNum bound : Int) (range : Option (Int × Int)) :
    OnlyFails (hboostBound platform profile jankyLevel jankyFrameNum bound
      range) := by
  rw [hboostBound]
  split_ifs
  · exact onlyFails_ok _
  · refine (onlyFails_value _).bind fun ⟨first, second⟩ => ?_
    cases jankyLevel with
    | light => exact onlyFails_ok _
    | moderate =>
      exact (onlyFails_jankyFactor platform profile _).bind
        fun _ => onlyFails_ok _
    | severe => exact onlyFails_ok _

theorem getLatestFPS_eq_none_iff {records : SessionRecords} :
    records.getLatestFPS = none ↔ records.mLatestStartIntervalSumUs = 0 := by
  rw [SessionRecords.getLatestFPS]
  split_ifs with hzero <;> simp [hzero]

/-- The level is computed without fault unless a SurfaceFlinger session has an
empty sum of intervals. -/
theorem updateHeuristicBoost_error {tag : SessionTag}
    {records : SessionRecords} {jankyLevel : SessionJankyLevel}
    {jankyFrameNum : Int} {fault : Fault}
    (hfault : ∀ failure, fault ≠ .failed failure)
    (herror : updateHeuristicBoost platform profile tag records jankyLevel
      jankyFrameNum = .error fault) :
    fault = .divisionByZero ∧ tag = .surfaceflinger ∧
      records.mLatestStartIntervalSumUs = 0 := by
  rw [updateHeuristicBoost] at herror
  split at herror
  next maxDurationUs avgDurationUs _ _ =>
    by_cases haverage : avgDurationUs ≤ 0
    · rw [if_pos haverage] at herror
      cases herror
    · rw [if_neg haverage] at herror
      obtain ⟨lowFrameRate, -, herror⟩ :=
        (onlyFails_value _).error_of_bind hfault herror
      obtain ⟨level, -, herror⟩ :=
        (onlyFails_updateSessionJankState profile _ _ _ _).error_of_bind
          hfault herror
      split_ifs at herror with hzero
      exact ⟨(Except.error.inj herror).symm, hzero.1,
        getLatestFPS_eq_none_iff.mp hzero.2⟩
  next => cases herror

end Level

/-! ## What a call does -/

namespace BoostSession

variable {env : CallEnv} {session next : BoostSession}

/-- The report is accepted and goes through the controller. -/
structure ReachesPid (env : CallEnv) (session : BoostSession)
    (actualDurations : List WorkDuration) : Prop where
  accepted : session.reportFailure actualDurations = none
  pidOn : (session.getAdpfProfile env).mPidOn = true

/-- The target change is accepted and resets the records. -/
structure ResetsRecords (env : CallEnv) (session : BoostSession)
    (targetDurationNanos : Nanoseconds) : Prop where
  opened : session.mSessionClosed = false
  positive : 0 < targetDurationNanos
  resets : session.resetsHeuristics env targetDurationNanos = true

/-- The records after a batch. -/
def addedRecords (env : CallEnv) (session : BoostSession)
    (records : SessionRecords) (actualDurations : List WorkDuration) :
    SessionRecords :=
  (records.addReportedDurations env.platform
    (actualDurations.map WorkDuration.toFrame) session.mDescriptor.targetNs {}
    (session.computeGameMetrics env)).1

/-- What an accepted call does to the records and the controller. -/
inductive CallEffect (env : CallEnv) (session : BoostSession) :
    BinderCall → BoostSession → Prop where
  | plain {binderCall : BinderCall} {next : BoostSession}
      (profile : next.mAdpfProfile = session.mAdpfProfile)
      (records : next.mSessionRecords = session.mSessionRecords)
      (pid : next.pid = session.pid) : CallEffect env session binderCall next
  | report {actualDurations : List WorkDuration}
      {additionalGpuCapacity : Option Cycles} {next : BoostSession}
      {evaluation : Evaluation} {gain : ℚ}
      (reaches : session.ReachesPid env actualDurations)
      (evaluated : session.evaluate env actualDurations = .ok evaluation)
      (active : pidPuActive env.platform (session.getAdpfProfile env)
        evaluation.jankyLevel evaluation.jankyFrameNum = .ok gain)
      (profile : next.mAdpfProfile = session.mAdpfProfile)
      (records : next.mSessionRecords = evaluation.mSessionRecords)
      (pid : next.pid =
        ((session.getAdpfProfile env).toPidConfig.pidLoop
          session.mDescriptor.targetNs session.pid
          (actualDurations.map WorkDuration.durationNanos)).toPidState) :
      CallEffect env session
        (.reportActualWorkDuration actualDurations additionalGpuCapacity) next
  | reset {targetDurationNanos : Nanoseconds} {next : BoostSession}
      {records : SessionRecords}
      (resets : session.ResetsRecords env targetDurationNanos)
      (before : session.mSessionRecords = some records)
      (profile : next.mAdpfProfile = session.mAdpfProfile)
      (after : next.mSessionRecords = some records.resetRecords)
      (pid : next.pid = session.pid) :
      CallEffect env session (.updateTargetWorkDuration targetDurationNanos)
        next

/-- The part of a call that the session does alone. -/
theorem accept_eq_ok {request : Request}
    (haccept : session.accept env request = .ok next) :
    ∃ accepted, session.toPowerHintSession.accept (session.clientEnv env)
        env.mPSManager request = .ok accepted ∧
      next = { session with toPowerHintSession := accepted.session } := by
  rw [accept] at haccept
  split at haccept
  next => cases haccept
  next accepted hok => exact ⟨accepted, hok, (Except.ok.inj haccept).symm⟩

theorem onlyFails_accept (request : Request) :
    OnlyFails (session.accept env request) := by
  intro fault hfault
  rw [accept] at hfault
  split at hfault
  next failure _ => exact ⟨failure, (Except.error.inj hfault).symm⟩
  next => cases hfault

variable {binderCall : BinderCall}

theorem callEffect_of_accept {request : Request}
    (haccept : session.accept env request = .ok next) :
    CallEffect env session binderCall next := by
  obtain ⟨accepted, -, rfl⟩ := accept_eq_ok haccept
  exact .plain rfl rfl rfl

variable {actualDurations : List WorkDuration}

/-- The heuristic part leaves a session alone or adds the report to its
records. -/
theorem evaluate_eq_ok {evaluation : Evaluation}
    (hevaluate : session.evaluate env actualDurations = .ok evaluation) :
    ((session.getAdpfProfile env).hboostEnabled = false ∧
        evaluation.mSessionRecords = session.mSessionRecords ∧
        evaluation.jankyLevel = session.mJankyLevel ∧
        evaluation.jankyFrameNum = session.mJankyFrameNum) ∨
      ((session.getAdpfProfile env).hboostEnabled = true ∧
        ∃ records, session.mSessionRecords = some records ∧
          evaluation.mSessionRecords =
            some (session.addedRecords env records actualDurations) ∧
          updateHeuristicBoost env.platform (session.getAdpfProfile env)
              session.mDescriptor.tag
              (session.addedRecords env records actualDurations)
              session.mJankyLevel session.mJankyFrameNum =
            .ok (evaluation.jankyLevel, evaluation.jankyFrameNum)) := by
  rw [evaluate] at hevaluate
  split_ifs at hevaluate with henabled
  · cases hevaluate
    exact .inl ⟨by simpa using henabled, rfl, rfl, rfl⟩
  · split at hevaluate
    next => cases hevaluate
    next records hrecords =>
      obtain ⟨⟨level, frameNum⟩, hupdate, hok⟩ := bind_eq_ok.mp hevaluate
      cases hok
      exact .inr ⟨by simpa using henabled, records, hrecords, rfl, hupdate⟩

theorem boostByPid_eq_ok {additionalGpuCapacity : Option Cycles}
    {boosted : BoostSession} {report : Report}
    (hboost : session.boostByPid env actualDurations additionalGpuCapacity =
      .ok (boosted, report)) :
    ∃ evaluation gain,
      session.evaluate env actualDurations = .ok evaluation ∧
      pidPuActive env.platform (session.getAdpfProfile env)
        evaluation.jankyLevel evaluation.jankyFrameNum = .ok gain ∧
      boosted.toPowerHintSession = session.toPowerHintSession ∧
      boosted.mAdpfProfile = session.mAdpfProfile ∧
      boosted.mSessionRecords = evaluation.mSessionRecords ∧
      boosted.pid = ((session.getAdpfProfile env).toPidConfig.pidLoop
        session.mDescriptor.targetNs session.pid
        (actualDurations.map WorkDuration.durationNanos)).toPidState := by
  obtain ⟨evaluation, hevaluate, hboost⟩ := bind_eq_ok.mp hboost
  obtain ⟨gain, hgain, hboost⟩ := bind_eq_ok.mp hboost
  obtain ⟨floor, -, hboost⟩ := bind_eq_ok.mp hboost
  obtain ⟨ceiling, -, hboost⟩ := bind_eq_ok.mp hboost
  cases hboost
  exact ⟨evaluation, gain, hevaluate, hgain, rfl, rfl, rfl, rfl⟩

theorem callEffect_of_call (hcall : session.call env binderCall = .ok next) :
    CallEffect env session binderCall next := by
  cases binderCall with
  | pause | resume | close | sendHint | setMode | setThreads =>
    exact callEffect_of_accept hcall
  | updateTargetWorkDuration =>
    rw [call, updateTargetWorkDuration] at hcall
    split_ifs at hcall with hclosed hpositive hresets
    · split at hcall
      next => cases hcall
      next records hrecords =>
        obtain ⟨accepted, -, rfl⟩ := accept_eq_ok hcall
        exact .reset ⟨by simpa using hclosed, not_le.mp hpositive, hresets⟩
          hrecords rfl rfl rfl
    · exact callEffect_of_accept hcall
  | reportActualWorkDuration =>
    rw [call, reportActualWorkDuration] at hcall
    split at hcall
    next => cases hcall
    next haccepted =>
      split_ifs at hcall with hpid
      · exact callEffect_of_accept hcall
      · obtain ⟨⟨boosted, report⟩, hboost, haccept⟩ := bind_eq_ok.mp hcall
        obtain ⟨evaluation, gain, hevaluate, hgain, -, hprofile, hrecords,
          hloop⟩ := boostByPid_eq_ok hboost
        obtain ⟨accepted, -, rfl⟩ := accept_eq_ok haccept
        exact .report ⟨haccepted, by simpa using hpid⟩ hevaluate hgain
          hprofile hrecords hloop

/-- An event replaces the profile or is a call.  A call that is not accepted
leaves everything alone. -/
theorem step_cases {event : Event} (hstep : session.step event = some next) :
    (∃ profile, event = .setAdpfProfile profile ∧
        next = { session with mAdpfProfile := profile }) ∨
      ∃ env binderCall, event = .call env binderCall ∧
        CallEffect env session binderCall next := by
  cases event with
  | setAdpfProfile profile => exact .inl ⟨profile, rfl, by cases hstep; rfl⟩
  | call env binderCall =>
    refine .inr ⟨env, binderCall, rfl, ?_⟩
    rw [BoostSession.step] at hstep
    split at hstep
    next =>
      cases hstep
      exact .plain rfl rfl rfl
    next called hcall =>
      cases hstep
      exact callEffect_of_call hcall

theorem exists_step (session : BoostSession) (event : Event) :
    ∃ next, session.step event = some next := by
  cases event with
  | setAdpfProfile => exact ⟨_, rfl⟩
  | call env binderCall =>
    rw [BoostSession.step]
    cases session.call env binderCall with
    | error fault => exact ⟨session, rfl⟩
    | ok next => exact ⟨next, rfl⟩

/-- A new session has records if its profile needs them. -/
theorem create_eq_ok {descriptor : AppHintDesc}
    {adpfProfile : Option AdpfProfile}
    (hcreate : create env descriptor adpfProfile = .ok session) :
    session.mAdpfProfile = adpfProfile ∧ session.pid = {} ∧
      (((adpfProfile.getD env.hintManagerProfile).hboostEnabled = false ∧
          session.mSessionRecords = none) ∨
        ∃ maxRecordsNum jankCheckTimeFactor,
          (adpfProfile.getD env.hintManagerProfile).mMaxRecordsNum =
            some maxRecordsNum ∧
          session.mSessionRecords = some
            (SessionRecords.new maxRecordsNum jankCheckTimeFactor)) := by
  rw [create] at hcreate
  split_ifs at hcreate with henabled
  · obtain ⟨maxRecordsNum, hmax, hcreate⟩ := bind_eq_ok.mp hcreate
    obtain ⟨jankCheckTimeFactor, -, hcreate⟩ := bind_eq_ok.mp hcreate
    cases hcreate
    exact ⟨rfl, rfl, .inr ⟨_, _, value_eq_ok.mp hmax, rfl⟩⟩
  · cases hcreate
    exact ⟨rfl, rfl, .inl ⟨by simpa using henabled, rfl⟩⟩

variable {fault : Fault}

/-- A report that faults does so in its heuristic part. -/
theorem evaluate_of_boostByPid_error {additionalGpuCapacity : Option Cycles}
    (hfault : ∀ failure, fault ≠ .failed failure)
    (herror : session.boostByPid env actualDurations additionalGpuCapacity =
      .error fault) : session.evaluate env actualDurations = .error fault := by
  refine error_of_bind hfault (fun evaluation => ?_) herror
  refine (onlyFails_pidPuActive _ _ _ _).bind fun gain => ?_
  refine (onlyFails_hboostBound _ _ _ _ _ _).bind fun floor => ?_
  exact (onlyFails_hboostBound _ _ _ _ _ _).bind fun ceiling => onlyFails_ok _

/-- The heuristic boost is on, but there are no records; or the frame rate is
computed from an empty sum. -/
theorem evaluate_error (hfault : ∀ failure, fault ≠ .failed failure)
    (herror : session.evaluate env actualDurations = .error fault) :
    (session.getAdpfProfile env).hboostEnabled = true ∧
      ((fault = .nullRecords ∧ session.mSessionRecords = none) ∨
        ∃ records, fault = .divisionByZero ∧
          session.mSessionRecords = some records ∧
          session.mDescriptor.tag = .surfaceflinger ∧
          (session.addedRecords env records
            actualDurations).mLatestStartIntervalSumUs = 0) := by
  rw [evaluate] at herror
  split_ifs at herror with henabled
  refine ⟨by simpa using henabled, ?_⟩
  split at herror
  next hrecords => exact .inl ⟨(Except.error.inj herror).symm, hrecords⟩
  next records hrecords =>
    have hupdate := error_of_bind hfault (fun _ => onlyFails_ok _) herror
    obtain ⟨hdivision, htag, hzero⟩ :=
      updateHeuristicBoost_error _ _ hfault hupdate
    exact .inr ⟨records, hdivision, hrecords, htag, hzero⟩

/-- Where a fault that is no status code comes from. -/
theorem call_error (hfault : ∀ failure, fault ≠ .failed failure)
    (herror : session.call env binderCall = .error fault) :
    (∃ actualDurations additionalGpuCapacity,
        binderCall = .reportActualWorkDuration actualDurations
          additionalGpuCapacity ∧
        session.ReachesPid env actualDurations ∧
        session.evaluate env actualDurations = .error fault) ∨
      ∃ targetDurationNanos,
        binderCall = .updateTargetWorkDuration targetDurationNanos ∧
        session.ResetsRecords env targetDurationNanos ∧
        fault = .nullRecords ∧ session.mSessionRecords = none := by
  have haccept : ∀ (session : BoostSession) request,
      session.accept env request ≠ .error fault := by
    intro session request herror
    obtain ⟨failure, hfailure⟩ := onlyFails_accept request fault herror
    exact hfault failure hfailure
  cases binderCall with
  | pause | resume | close | sendHint | setMode | setThreads =>
    exact absurd herror (haccept session _)
  | updateTargetWorkDuration =>
    rw [call, updateTargetWorkDuration] at herror
    split_ifs at herror with hclosed hpositive hresets
    · exact absurd (Except.error.inj herror).symm (hfault _)
    · exact absurd (Except.error.inj herror).symm (hfault _)
    · split at herror
      next hrecords =>
        exact .inr ⟨_, rfl, ⟨by simpa using hclosed, not_le.mp hpositive,
          hresets⟩, (Except.error.inj herror).symm, hrecords⟩
      next => exact absurd herror (haccept _ _)
    · exact absurd herror (haccept session _)
  | reportActualWorkDuration =>
    rw [call, reportActualWorkDuration] at herror
    split at herror
    next => exact absurd (Except.error.inj herror).symm (hfault _)
    next haccepted =>
      split_ifs at herror with hpid
      · exact absurd herror (haccept session _)
      · have hboost := error_of_bind hfault
          (fun boosted => onlyFails_accept _) herror
        exact .inl ⟨_, _, rfl, ⟨haccepted, by simpa using hpid⟩,
          evaluate_of_boostByPid_error hfault hboost⟩

theorem fault_eq_some_iff :
    session.fault env binderCall = some fault ↔
      session.call env binderCall = .error fault := by
  rw [BoostSession.fault]
  cases session.call env binderCall with
  | error | ok => simp

end BoostSession

end HardwareInterfaces.HeuristicBoost

import HardwareInterfaces.Power.HeuristicCalls

/-!
# Runs without undefined behaviour

Three kinds of runs of a session with the heuristic boost, each free of one
kind of undefined behaviour.  The records exist where they are used if no
profile that needs them comes into force later than the session.  The frame
rate has a positive divisor if the frames start one after another in game mode.
The arithmetic of the controller is defined for times and gains of moderate
size.
-/

namespace HardwareInterfaces.HeuristicBoost

open AdpfTypes FrameRecords HintSession MachineArithmetic Metrics Pid
open SessionManager Transition

/-- A profile with the heuristic boost on. -/
def boostProfile : AdpfProfile where
  toAdpfConfig := sampleProfile
  toPidConfig := ⟨0, 0, 0, 1, 1, 1, 1, 1, 512, -30⟩
  mMaxRecordsNum := some 4
  mJankCheckTimeFactor := some 1
  mLowFrameRateThreshold := some 25
  mHBoostModerateJankThreshold := some 4
  mHBoostSevereJankThreshold := some 6
  mHBoostOffMaxAvgDurRatio := some 4
  mHBoostSevereJankPidPu := some 1
  mHBoostUclampMinFloorRange := some (200, 400)
  mHBoostUclampMinCeilingRange := some (480, 800)

/-- A profile without it. -/
def plainProfile : AdpfProfile :=
  { boostProfile with mHeuristicBoostOn := none }

def sampleCallEnv (gameMode : Bool) : CallEnv where
  platform := samplePlatform
  now := 0
  hintManagerProfile := plainProfile
  hintSupported := fun _ => false
  mPSManager :=
    { PowerSessionManager.init false false 0 with mGameModeEnabled := gameMode }

/-- A SurfaceFlinger session. -/
def surfaceflingerDescriptor (targetNs : Nanoseconds) : AppHintDesc :=
  { sampleDescriptor 1 [7] with targetNs := targetNs, tag := .surfaceflinger }

/-- Frames of 1 ms that start at the given times in ms. -/
def reportAt (startsMs : List Int) : BinderCall :=
  .reportActualWorkDuration
    (startsMs.map fun start => ⟨(start + 1) * 1000000, 1000000, 0⟩) none

/-- The session that the constructor makes. -/
def sampleSession (targetNs : Nanoseconds) (adpfProfile : AdpfProfile)
    (records : Option SessionRecords) : BoostSession where
  mDescriptor := surfaceflingerDescriptor targetNs
  mLastUpdatedTime := 0
  mSessionClosed := false
  mJankyLevel := .light
  mAdpfProfile := some adpfProfile
  mSessionRecords := records

/-! ## The gain of the controller -/

/-- The gains for negative errors are not extreme, and the thresholds of the
janky levels are in order. -/
structure AdpfProfile.ModerateGains (profile : AdpfProfile) : Prop where
  gain : |profile.mPidPu| ≤ 2 ^ 8
  severeGain : ∀ gain ∈ profile.mHBoostSevereJankPidPu, |gain| ≤ 2 ^ 8
  thresholds : ∀ moderate ∈ profile.mHBoostModerateJankThreshold,
    ∀ severe ∈ profile.mHBoostSevereJankThreshold, moderate < severe

/-- A number of janky frames that is not above the severe threshold, if it
reaches the moderate one. -/
def AdpfProfile.FramesBelowSevere (profile : AdpfProfile)
    (jankyFrameNum : Int) : Prop :=
  ∀ moderate ∈ profile.mHBoostModerateJankThreshold,
    ∀ severe ∈ profile.mHBoostSevereJankThreshold,
      moderate ≤ jankyFrameNum → jankyFrameNum ≤ severe

section Gain

variable {platform : Platform} {profile : AdpfProfile}

theorem framesBelowSevere_of_updateSessionJankState
    {oldState : SessionJankyLevel} {numOfJankFrames : Int}
    {durationVariance : ℚ} {isLowFPS : Bool}
    (hmoderate : updateSessionJankState profile oldState numOfJankFrames
      durationVariance isLowFPS = .ok .moderate) :
    profile.FramesBelowSevere numOfJankFrames := by
  intro moderate hmoderateThreshold severe hsevereThreshold hreached
  rw [updateSessionJankState, Option.mem_def.mp hmoderateThreshold,
    Option.mem_def.mp hsevereThreshold] at hmoderate
  cases isLowFPS with
  | true => cases hmoderate
  | false =>
    obtain ⟨threshold, hthreshold, hlevel⟩ := bind_eq_ok.mp hmoderate
    cases hthreshold
    rw [if_neg (not_lt.mpr hreached)] at hlevel
    obtain ⟨threshold, hthreshold, hlevel⟩ := bind_eq_ok.mp hlevel
    cases hthreshold
    split_ifs at hlevel with hbelow
    · exact hbelow.le
    · cases hlevel

variable {jankyFrameNum : Int}

theorem framesBelowSevere_of_updateHeuristicBoost {tag : SessionTag}
    {records : SessionRecords} {jankyLevel : SessionJankyLevel} {frames : Int}
    (hbefore : jankyLevel = .moderate →
      profile.FramesBelowSevere jankyFrameNum)
    (hupdate : updateHeuristicBoost platform profile tag records jankyLevel
      jankyFrameNum = .ok (.moderate, frames)) :
    profile.FramesBelowSevere frames := by
  rw [updateHeuristicBoost] at hupdate
  split at hupdate
  next maxDurationUs avgDurationUs _ _ =>
    by_cases haverage : avgDurationUs ≤ 0
    · rw [if_pos haverage] at hupdate
      cases hupdate
      exact hbefore rfl
    · rw [if_neg haverage] at hupdate
      obtain ⟨lowFrameRate, -, hupdate⟩ := bind_eq_ok.mp hupdate
      obtain ⟨level, hlevel, hupdate⟩ := bind_eq_ok.mp hupdate
      split_ifs at hupdate
      cases hupdate
      exact framesBelowSevere_of_updateSessionJankState hlevel
  next =>
    cases hupdate
    exact hbefore rfl

variable (hmono : Monotone platform.rounding.round)

include hmono

theorem jankyFactor_mem {factor : ℚ} (hgains : profile.ModerateGains)
    (hframes : profile.FramesBelowSevere jankyFrameNum)
    (hfactor : jankyFactor platform profile jankyFrameNum = .ok factor) :
    0 ≤ factor ∧ factor ≤ 1 := by
  obtain ⟨moderate, hmoderate, hfactor⟩ := bind_eq_ok.mp hfactor
  split_ifs at hfactor with hbelow
  · cases hfactor
    norm_num
  · obtain ⟨severe, hsevere, hfactor⟩ := bind_eq_ok.mp hfactor
    rw [value_eq_ok] at hmoderate hsevere
    have hreached := not_lt.mp hbelow
    have hle := hframes moderate hmoderate severe hsevere hreached
    have hordered := hgains.thresholds moderate hmoderate severe hsevere
    have hnumerator : ((0 : Int) : ℚ) ≤ platform.rounding.round
        (jankyFrameNum - moderate : Int) := by
      apply Rounding.le_round hmono (by norm_num)
      exact_mod_cast Int.sub_nonneg_of_le hreached
    have hquotient : platform.rounding.round
        (jankyFrameNum - moderate : Int) ≤
          platform.rounding.round (severe - moderate : Int) := by
      apply hmono
      exact_mod_cast Int.sub_le_sub_right hle moderate
    have hdenominator : ((1 : Int) : ℚ) ≤ platform.rounding.round
        (severe - moderate : Int) := by
      apply Rounding.le_round hmono (by norm_num)
      exact_mod_cast Int.sub_pos_of_lt hordered
    rw [Int.cast_zero] at hnumerator
    rw [Int.cast_one] at hdenominator
    cases hfactor
    constructor
    · rw [← Int.cast_zero]
      apply Rounding.le_round hmono (by norm_num)
      rw [Int.cast_zero]
      exact div_nonneg hnumerator (zero_le_one.trans hdenominator)
    · rw [← Int.cast_one]
      apply Rounding.round_le hmono (by norm_num)
      rw [Int.cast_one]
      exact (div_le_one (zero_lt_one.trans_le hdenominator)).mpr hquotient

/-- A point between two gains, each operation rounded. -/
theorem abs_interpolate_le {first second factor : ℚ} (hfirst : |first| ≤ 2 ^ 8)
    (hsecond : |second| ≤ 2 ^ 8) (hnonneg : 0 ≤ factor) (hone : factor ≤ 1) :
    |platform.rounding.round (first + platform.rounding.round
      (factor * platform.rounding.round (second - first)))| ≤ 2 ^ 10 := by
  have hwidth : |platform.rounding.round (second - first)| ≤ (2 ^ 9 : Int) := by
    apply Rounding.abs_round_le hmono (by norm_num)
    have hsub := abs_sub second first
    push_cast
    linarith
  have hchange : |platform.rounding.round
      (factor * platform.rounding.round (second - first))| ≤ (2 ^ 9 : Int) := by
    apply Rounding.abs_round_le hmono (by norm_num)
    rw [abs_mul, abs_of_nonneg hnonneg]
    exact (mul_le_of_le_one_left (abs_nonneg _) hone).trans hwidth
  have hsum : |platform.rounding.round (first + platform.rounding.round
      (factor * platform.rounding.round (second - first)))| ≤
        (2 ^ 10 : Int) := by
    apply Rounding.abs_round_le hmono (by norm_num)
    calc |first + platform.rounding.round
            (factor * platform.rounding.round (second - first))|
        ≤ |first| + |platform.rounding.round
            (factor * platform.rounding.round (second - first))| :=
          abs_add_le _ _
      _ ≤ 2 ^ 8 + (2 ^ 9 : Int) := add_le_add hfirst hchange
      _ ≤ (2 ^ 10 : Int) := by norm_num
  exact_mod_cast hsum

/-- The gain lies near those of the profile. -/
theorem abs_pidPuActive_le {jankyLevel : SessionJankyLevel} {gain : ℚ}
    (hgains : profile.ModerateGains) (hframes : jankyLevel = .moderate →
      profile.FramesBelowSevere jankyFrameNum)
    (hgain : pidPuActive platform profile jankyLevel jankyFrameNum =
      .ok gain) : |gain| ≤ 2 ^ 10 := by
  have hplain : |profile.mPidPu| ≤ 2 ^ 8 := hgains.gain
  rw [pidPuActive] at hgain
  split_ifs at hgain
  · cases hgain
    exact hplain.trans (by norm_num)
  · obtain ⟨severePidPu, hsevere, hgain⟩ := bind_eq_ok.mp hgain
    have hsevereGain := hgains.severeGain severePidPu (value_eq_ok.mp hsevere)
    have hboost : |min severePidPu profile.mPidPu| ≤ 2 ^ 8 :=
      (abs_min_le_max_abs_abs).trans (max_le hsevereGain hplain)
    cases jankyLevel with
    | light =>
      cases hgain
      exact hplain.trans (by norm_num)
    | severe =>
      cases hgain
      exact hboost.trans (by norm_num)
    | moderate =>
      obtain ⟨factor, hfactor, hgain⟩ := bind_eq_ok.mp hgain
      obtain ⟨hnonneg, hone⟩ :=
        jankyFactor_mem hmono hgains (hframes rfl) hfactor
      cases hgain
      exact abs_interpolate_le hmono hplain hboost hnonneg hone

end Gain

namespace BoostSession

variable {env : CallEnv} {session next : BoostSession}

/-! ## The records exist -/

/-- The call gets to the part that the heuristic boost guards. -/
def TakesBoostBranch (env : CallEnv) (session : BoostSession) :
    BinderCall → Prop
  | .reportActualWorkDuration actualDurations _ =>
    session.ReachesPid env actualDurations ∧
      (session.getAdpfProfile env).hboostEnabled = true
  | .updateTargetWorkDuration targetDurationNanos =>
    session.mSessionClosed = false ∧ 0 < targetDurationNanos ∧
      (session.getAdpfProfile env).mTargetTimeFactor targetDurationNanos ≠
        session.mDescriptor.targetNs ∧
      (session.getAdpfProfile env).hboostEnabled = true
  | _ => False

/-- The records exist where a call is about to use them. -/
def RecordsExist (session : BoostSession) : Event → Prop
  | .setAdpfProfile _ => True
  | .call env binderCall =>
    session.TakesBoostBranch env binderCall → session.mSessionRecords.isSome

variable {binderCall : BinderCall}

theorem TakesBoostBranch.hboostEnabled
    (htakes : session.TakesBoostBranch env binderCall) :
    (session.getAdpfProfile env).hboostEnabled = true := by
  cases binderCall with
  | reportActualWorkDuration => exact htakes.2
  | updateTargetWorkDuration => exact htakes.2.2.2
  | pause | resume | close | sendHint | setMode | setThreads =>
    exact htakes.elim

/-- A profile with the heuristic boost on comes into force only if the session
has records. -/
def ProfileFits (session : BoostSession) : Event → Prop
  | .setAdpfProfile profile => ∀ adpfProfile ∈ profile,
      adpfProfile.hboostEnabled = true → session.mSessionRecords.isSome
  | .call env _ => session.mAdpfProfile = none →
      env.hintManagerProfile.hboostEnabled = true →
        session.mSessionRecords.isSome

/-- The profile of the session fits. -/
def ProfileKept (session : BoostSession) : Prop :=
  ∀ adpfProfile ∈ session.mAdpfProfile,
    adpfProfile.hboostEnabled = true → session.mSessionRecords.isSome

variable {actualDurations : List WorkDuration}

theorem isSome_of_evaluate {evaluation : Evaluation}
    (hevaluate : session.evaluate env actualDurations = .ok evaluation) :
    evaluation.mSessionRecords.isSome = session.mSessionRecords.isSome := by
  rcases evaluate_eq_ok hevaluate with
    ⟨-, hrecords, -, -⟩ | ⟨-, records, hbefore, hafter, -⟩
  · rw [hrecords]
  · rw [hbefore, hafter]
    rfl

/-- A call neither makes nor drops records. -/
theorem CallEffect.isSome (heffect : CallEffect env session binderCall next) :
    next.mSessionRecords.isSome = session.mSessionRecords.isSome := by
  cases heffect with
  | plain profile records pid => rw [records]
  | report reaches evaluated active profile records pid =>
    rw [records, isSome_of_evaluate evaluated]
  | reset resets before profile after pid =>
    rw [before, after]
    rfl

theorem CallEffect.profile_eq
    (heffect : CallEffect env session binderCall next) :
    next.mAdpfProfile = session.mAdpfProfile := by
  cases heffect with
  | plain profile _ _ => exact profile
  | report _ _ _ profile _ _ => exact profile
  | reset _ _ profile _ _ => exact profile

variable {event : Event}

theorem ProfileKept.step (hkept : session.ProfileKept)
    (hfits : session.ProfileFits event)
    (hstep : session.step event = some next) : next.ProfileKept := by
  obtain ⟨profile, rfl, rfl⟩ | ⟨env, binderCall, rfl, heffect⟩ :=
    step_cases hstep
  · exact hfits
  · rw [ProfileKept, heffect.profile_eq, heffect.isSome]
    exact hkept

theorem ProfileKept.recordsExist (hkept : session.ProfileKept)
    (hfits : session.ProfileFits event) : session.RecordsExist event := by
  cases event with
  | setAdpfProfile => trivial
  | call =>
    intro htakes
    have henabled := htakes.hboostEnabled
    cases hprofile : session.mAdpfProfile with
    | none =>
      rw [getAdpfProfile, hprofile] at henabled
      exact hfits hprofile henabled
    | some adpfProfile =>
      rw [getAdpfProfile, hprofile] at henabled
      exact hkept adpfProfile hprofile henabled

theorem profileKept_create {descriptor : AppHintDesc}
    {adpfProfile : Option AdpfProfile}
    (hcreate : create env descriptor adpfProfile = .ok session) :
    session.ProfileKept := by
  obtain ⟨hprofile, -, ⟨hdisabled, -⟩ | ⟨_, _, -, hrecords⟩⟩ :=
    create_eq_ok hcreate
  · intro profile hmem henabled
    rw [hprofile] at hmem
    rw [Option.mem_def.mp hmem, Option.getD_some, henabled] at hdisabled
    cases hdisabled
  · intro profile _ _
    rw [hrecords]
    rfl

/-- A session goes through its records only if they exist, as long as no
profile that needs them comes into force on a session without them. -/
theorem runMeets_recordsExist {descriptor : AppHintDesc}
    {adpfProfile : Option AdpfProfile}
    (hcreate : create env descriptor adpfProfile = .ok session)
    {events : List Event}
    (hfits : RunMeets BoostSession.step ProfileFits session events) :
    RunMeets BoostSession.step RecordsExist session events :=
  hfits.imp (fun _ _ _ hkept hevent _ => hkept.recordsExist hevent)
    (fun _ _ _ hkept hevent hstep => hkept.step hevent hstep)
    (profileKept_create hcreate)

/-- A session made without records gets a profile that needs them. -/
theorem nullRecords_after_profile_update :
    create (sampleCallEnv false) (surfaceflingerDescriptor 8000000)
        (some plainProfile) = .ok (sampleSession 8000000 plainProfile none) ∧
      ¬ RunMeets BoostSession.step RecordsExist
        (sampleSession 8000000 plainProfile none)
        [.setAdpfProfile (some boostProfile),
          .call (sampleCallEnv false) (reportAt [0])] := by
  refine ⟨rfl, fun hmeets => ?_⟩
  have hreport := ((hmeets _ rfl).2 _ rfl).1
  cases hreport ⟨⟨rfl, rfl⟩, rfl⟩

theorem records_of_boost_session :
    RunMeets BoostSession.step RecordsExist
      (sampleSession 8000000 boostProfile (some (SessionRecords.new 4 1)))
      [.setAdpfProfile (some plainProfile), .setAdpfProfile (some boostProfile),
        .call (sampleCallEnv true) (reportAt [0])] := by
  apply @runMeets_recordsExist (sampleCallEnv false) _
    (surfaceflingerDescriptor 8000000) (some boostProfile) rfl
  rintro _ ⟨⟩
  refine ⟨fun _ _ _ => rfl, ?_⟩
  rintro _ ⟨⟩
  exact ⟨fun _ _ _ => rfl, fun _ _ => ⟨nofun, trivial⟩⟩

/-! ## The frame rate -/

/-- The frame rate is not computed from an empty sum. -/
def FrameRateDefined (session : BoostSession) : Event → Prop
  | .setAdpfProfile _ => True
  | .call env binderCall =>
    session.fault env binderCall ≠ some .divisionByZero

/-- A report in game mode whose frames start one after another.  The first
frame of all is not reported alone. -/
structure SteadyReport (env : CallEnv) (session : BoostSession)
    (actualDurations : List WorkDuration) (records : SessionRecords) :
    Prop where
  gameMode : env.mPSManager.mGameModeEnabled = true
  steady : RunMeets (SessionRecords.frameStep env.platform)
    (SessionRecords.Steady env.platform) records
    ((actualDurations.map WorkDuration.toFrame).map
      (.report session.mDescriptor.targetNs true))
  interval : 0 < records.mNumOfFrames ∨ 2 ≤ actualDurations.length

/-- The reports of a SurfaceFlinger session are steady, and its records are
reset only while they sum no intervals. -/
def FramesSteady (session : BoostSession) : Event → Prop
  | .call env (.reportActualWorkDuration actualDurations _) =>
    session.ReachesPid env actualDurations →
      (session.getAdpfProfile env).hboostEnabled = true →
      session.mDescriptor.tag = .surfaceflinger →
        ∀ records ∈ session.mSessionRecords,
          session.SteadyReport env actualDurations records
  | .call env (.updateTargetWorkDuration targetDurationNanos) =>
    session.ResetsRecords env targetDurationNanos →
      ∀ records ∈ session.mSessionRecords,
        records.mAddedFramesForFPSCheck = 0
  | _ => True

/-- The records sum steady intervals. -/
def RecordsSteady (session : BoostSession) : Prop :=
  ∀ records ∈ session.mSessionRecords,
    ∃ capacity jankCheckTimeFactor number, 3 ≤ capacity ∧
      SumsSteady capacity jankCheckTimeFactor number records

theorem ReachesPid.nonempty
    (hreaches : session.ReachesPid env actualDurations) :
    actualDurations ≠ [] := by
  rintro rfl
  have haccepted := hreaches.accepted
  rw [reportFailure] at haccepted
  split_ifs at haccepted with _ _ hempty
  exact hempty rfl

theorem addedRecords_eq_frameCalls (env : CallEnv) (session : BoostSession)
    (records : SessionRecords) (actualDurations : List WorkDuration) :
    session.addedRecords env records actualDurations =
      ((actualDurations.map WorkDuration.toFrame).map
        (FrameCall.report session.mDescriptor.targetNs
          (session.computeGameMetrics env))).foldl
        (SessionRecords.frameCall env.platform) records :=
  addReportedDurations_eq_frameCalls _ _ _ _ _ _

/-- A steady report leaves a sum of some intervals. -/
theorem SteadyReport.addedRecords {records : SessionRecords}
    (hreport : session.SteadyReport env actualDurations records)
    (htag : session.mDescriptor.tag = .surfaceflinger)
    (hnonempty : actualDurations ≠ []) {capacity number : Nat}
    {jankCheckTimeFactor : ℚ} (hcapacity : 3 ≤ capacity)
    (hsums : SumsSteady capacity jankCheckTimeFactor number records) :
    ∃ number', SumsSteady capacity jankCheckTimeFactor number'
      (session.addedRecords env records actualDurations) ∧ 0 < number' := by
  have hgame : session.computeGameMetrics env = true := by
    rw [computeGameMetrics, htag, hreport.gameMode]
    rfl
  rw [addedRecords_eq_frameCalls, hgame]
  apply hsums.batch hcapacity hreport.steady
  · rwa [Ne, List.map_eq_nil_iff]
  · rw [List.length_map]
    exact hreport.interval

/-- Reports of other sessions leave no sum. -/
theorem sumsSteady_addedRecords_plain {records : SessionRecords}
    (htag : session.mDescriptor.tag ≠ .surfaceflinger) {capacity number : Nat}
    {jankCheckTimeFactor : ℚ}
    (hsums : SumsSteady capacity jankCheckTimeFactor number records)
    (actualDurations : List WorkDuration) :
    ∃ number', SumsSteady capacity jankCheckTimeFactor number'
      (session.addedRecords env records actualDurations) := by
  have hplain : session.computeGameMetrics env = false := by
    rw [computeGameMetrics, decide_eq_false htag, Bool.false_and]
  rw [addedRecords_eq_frameCalls, hplain]
  exact hsums.batch_plain _ _

theorem RecordsSteady.call (hsteady : session.RecordsSteady)
    (hevent : session.FramesSteady (.call env binderCall))
    (heffect : CallEffect env session binderCall next) :
    next.RecordsSteady := by
  cases heffect with
  | plain profile records pid =>
    rw [RecordsSteady, records]
    exact hsteady
  | report reaches evaluated active profile recordsAfter pid =>
    rw [RecordsSteady, recordsAfter]
    rcases evaluate_eq_ok evaluated with
      ⟨-, hrecords, -, -⟩ | ⟨henabled, records, hbefore, hafter, -⟩
    · rw [hrecords]
      exact hsteady
    · rw [hafter]
      rintro _ ⟨⟩
      obtain ⟨capacity, factor, number, hcapacity, hsums⟩ :=
        hsteady records hbefore
      refine ⟨capacity, factor, ?_⟩
      by_cases htag : session.mDescriptor.tag = .surfaceflinger
      · obtain ⟨number', hadded, -⟩ :=
          (hevent reaches henabled htag records hbefore).addedRecords htag
            reaches.nonempty hcapacity hsums
        exact ⟨number', hcapacity, hadded⟩
      · obtain ⟨number', hadded⟩ := sumsSteady_addedRecords_plain htag hsums _
        exact ⟨number', hcapacity, hadded⟩
  | reset resets before profile after pid =>
    rw [RecordsSteady, after]
    rintro _ ⟨⟩
    obtain ⟨capacity, factor, number, hcapacity, hsums⟩ := hsteady _ before
    exact ⟨capacity, factor, 0, hcapacity,
      hsums.resetRecords (hevent resets _ before)⟩

theorem RecordsSteady.step (hsteady : session.RecordsSteady)
    (hevent : session.FramesSteady event)
    (hstep : session.step event = some next) : next.RecordsSteady := by
  obtain ⟨profile, rfl, rfl⟩ | ⟨env, binderCall, rfl, heffect⟩ :=
    step_cases hstep
  · exact hsteady
  · exact hsteady.call hevent heffect

theorem RecordsSteady.frameRateDefined (hsteady : session.RecordsSteady)
    (hevent : session.FramesSteady event) : session.FrameRateDefined event := by
  cases event with
  | setAdpfProfile => trivial
  | call =>
    intro hfault
    rcases call_error (by nofun) (fault_eq_some_iff.mp hfault) with
      ⟨_, _, rfl, hreaches, hevaluate⟩ | ⟨_, -, -, hnull, -⟩
    · obtain ⟨henabled, ⟨hnull, -⟩ | ⟨records, -, hrecords, htag, hzero⟩⟩ :=
        evaluate_error (by nofun) hevaluate
      · cases hnull
      · obtain ⟨capacity, factor, number, hcapacity, hsums⟩ :=
          hsteady records hrecords
        obtain ⟨number', hadded, hsome⟩ :=
          (hevent hreaches henabled htag records hrecords).addedRecords htag
            hreaches.nonempty hcapacity hsums
        exact (hadded.sum_pos hsome).ne' hzero
    · cases hnull

theorem recordsSteady_create {descriptor : AppHintDesc}
    {adpfProfile : Option AdpfProfile}
    (hcreate : create env descriptor adpfProfile = .ok session)
    (hcapacity : ∀ maxRecordsNum ∈
      (adpfProfile.getD env.hintManagerProfile).mMaxRecordsNum,
        3 ≤ maxRecordsNum ∧ maxRecordsNum < 2 ^ 31) :
    session.RecordsSteady := by
  intro records hmem
  obtain ⟨-, -, ⟨-, hrecords⟩ | ⟨maxRecordsNum, _, hmax, hrecords⟩⟩ :=
    create_eq_ok hcreate
  · rw [hrecords] at hmem
    cases hmem
  · rw [hrecords] at hmem
    cases hmem
    obtain ⟨hthree, hsmall⟩ := hcapacity maxRecordsNum hmax
    exact ⟨_, _, 0, by omega, sumsSteady_new (by omega) hsmall _⟩

/-- The frame rate is defined in every run whose frames are steady. -/
theorem runMeets_frameRateDefined {descriptor : AppHintDesc}
    {adpfProfile : Option AdpfProfile}
    (hcreate : create env descriptor adpfProfile = .ok session)
    (hcapacity : ∀ maxRecordsNum ∈
      (adpfProfile.getD env.hintManagerProfile).mMaxRecordsNum,
        3 ≤ maxRecordsNum ∧ maxRecordsNum < 2 ^ 31)
    {events : List Event}
    (hsteady : RunMeets BoostSession.step FramesSteady session events) :
    RunMeets BoostSession.step FrameRateDefined session events :=
  hsteady.imp
    (fun _ _ _ hrecords hevent _ => hrecords.frameRateDefined hevent)
    (fun _ _ _ hrecords hevent hstep => hrecords.step hevent hstep)
    (recordsSteady_create hcreate hcapacity)

/-- Outside game mode there is no sum, and neither is there one for the first
frame of all. -/
theorem frameRate_divided_by_zero :
    create (sampleCallEnv false) (surfaceflingerDescriptor 8000000)
        (some boostProfile) =
        .ok (sampleSession 8000000 boostProfile (some (SessionRecords.new 4 1))) ∧
      (sampleSession 8000000 boostProfile (some (SessionRecords.new 4 1))).fault
          (sampleCallEnv false) (reportAt [0, 8, 16]) =
        some .divisionByZero ∧
      (sampleSession 8000000 boostProfile (some (SessionRecords.new 4 1))).fault
          (sampleCallEnv true) (reportAt [0]) = some .divisionByZero := by
  refine ⟨rfl, ?_, ?_⟩
  · decide +kernel
  · decide +kernel

theorem frameRate_of_steady_frames :
    RunMeets BoostSession.step FrameRateDefined
      (sampleSession 8000000 boostProfile (some (SessionRecords.new 4 1)))
      [.call (sampleCallEnv true) (reportAt [0, 8, 16])] := by
  apply @runMeets_frameRateDefined (sampleCallEnv true) _
    (surfaceflingerDescriptor 8000000) (some boostProfile) rfl
  · rintro _ ⟨⟩
    norm_num
  · refine fun _ _ => ⟨fun _ _ _ => ?_, trivial⟩
    rintro _ ⟨⟩
    constructor
    · rfl
    · decide +kernel
    · exact .inr (by decide)

/-! ## The arithmetic of the controller -/

/-- The conversion of a report does nothing undefined.  The gain is computed
between the loop over the samples and the output. -/
def ConversionDefined (env : CallEnv) (session : BoostSession)
    (actualDurations : List WorkDuration) : Prop :=
  let config := (session.getAdpfProfile env).toPidConfig
  let target := session.mDescriptor.targetNs
  let durations := actualDurations.map WorkDuration.durationNanos
  ∀ evaluation, session.evaluate env actualDurations = .ok evaluation →
    LoopDefined config target durations.length ⟨session.pid, 0, 0⟩
        (config.samples durations) ∧
      ∀ gain, pidPuActive env.platform (session.getAdpfProfile env)
          evaluation.jankyLevel evaluation.jankyFrameNum = .ok gain →
        OutputDefined env.platform.rounding config gain durations.length
          (nsTo100us target) (config.pidLoop target session.pid durations)

def ArithmeticDefined (session : BoostSession) : Event → Prop
  | .call env (.reportActualWorkDuration actualDurations _) =>
    session.ReachesPid env actualDurations →
      session.ConversionDefined env actualDurations
  | _ => True

/-- A report of moderate size under a profile of moderate gains.  Doubles are
rounded monotonically. -/
structure ModerateReport (env : CallEnv) (session : BoostSession)
    (actualDurations : List WorkDuration) : Prop where
  rounding : Monotone env.platform.rounding.round
  config : (session.getAdpfProfile env).toPidConfig.Moderate
  gains : (session.getAdpfProfile env).ModerateGains
  frames : session.mJankyLevel = .moderate →
    (session.getAdpfProfile env).FramesBelowSevere session.mJankyFrameNum
  target : ModerateTarget session.mDescriptor.targetNs
  batch : ModerateBatch (actualDurations.map WorkDuration.durationNanos)

def ReportsModerate (session : BoostSession) : Event → Prop
  | .call env (.reportActualWorkDuration actualDurations _) =>
    session.ReachesPid env actualDurations →
      session.ModerateReport env actualDurations
  | _ => True

theorem ModerateReport.framesBelowSevere {evaluation : Evaluation}
    (hreport : session.ModerateReport env actualDurations)
    (hevaluate : session.evaluate env actualDurations = .ok evaluation)
    (hmoderate : evaluation.jankyLevel = .moderate) :
    (session.getAdpfProfile env).FramesBelowSevere
      evaluation.jankyFrameNum := by
  rcases evaluate_eq_ok hevaluate with
    ⟨-, -, hlevel, hframes⟩ | ⟨-, records, -, -, hupdate⟩
  · rw [hframes]
    exact hreport.frames (hlevel ▸ hmoderate)
  · exact framesBelowSevere_of_updateHeuristicBoost hreport.frames
      (hmoderate ▸ hupdate)

/-- Such a report is converted without undefined arithmetic and leaves a
controller of moderate size. -/
theorem ModerateReport.convert
    (hreport : session.ModerateReport env actualDurations)
    (hpid : session.pid.Moderate) :
    session.ConversionDefined env actualDurations ∧
      ((session.getAdpfProfile env).toPidConfig.pidLoop
        session.mDescriptor.targetNs session.pid
        (actualDurations.map
          WorkDuration.durationNanos)).toPidState.Moderate := by
  have hconvert := fun gain (hgain : |gain| ≤ 2 ^ 10) =>
    convertDefined_of_moderate hreport.rounding hreport.config hgain
      hreport.target hpid hreport.batch
  have hzero := hconvert 0 (by norm_num)
  refine ⟨?_, hzero.2⟩
  intro evaluation hevaluate
  refine ⟨hzero.1.loop, ?_⟩
  intro gain hactive
  have hgain := abs_pidPuActive_le hreport.rounding hreport.gains
    (hreport.framesBelowSevere hevaluate) hactive
  exact (hconvert gain hgain).1.output

theorem pidModerate_step (hpid : session.pid.Moderate)
    (hevent : session.ReportsModerate event)
    (hstep : session.step event = some next) : next.pid.Moderate := by
  obtain ⟨profile, rfl, rfl⟩ | ⟨env, binderCall, rfl, heffect⟩ :=
    step_cases hstep
  · exact hpid
  · cases heffect with
    | plain profile records pid => rwa [pid]
    | report reaches evaluated active profile records pid =>
      rw [pid]
      exact ((hevent reaches).convert hpid).2
    | reset resets before profile after pid => rwa [pid]

theorem arithmeticDefined_of_moderate (hpid : session.pid.Moderate)
    (hevent : session.ReportsModerate event) :
    session.ArithmeticDefined event := by
  cases event with
  | setAdpfProfile => trivial
  | call env binderCall =>
    cases binderCall with
    | reportActualWorkDuration =>
      intro hreaches
      exact ((hevent hreaches).convert hpid).1
    | pause | resume | close | updateTargetWorkDuration | sendHint
    | setMode | setThreads => trivial

/-- The arithmetic of the controller is defined in every run of reports of
moderate size. -/
theorem runMeets_arithmeticDefined {descriptor : AppHintDesc}
    {adpfProfile : Option AdpfProfile}
    (hcreate : create env descriptor adpfProfile = .ok session)
    {events : List Event}
    (hmoderate : RunMeets BoostSession.step ReportsModerate session events) :
    RunMeets BoostSession.step ArithmeticDefined session events := by
  have hpid : session.pid.Moderate := by
    rw [(create_eq_ok hcreate).2.1]
    exact ⟨by norm_num, by norm_num⟩
  exact @RunMeets.imp _ _ BoostSession.step session events ReportsModerate
    ArithmeticDefined (fun session => session.pid.Moderate)
    (fun _ _ _ hpid hevent _ => arithmeticDefined_of_moderate hpid hevent)
    (fun _ _ _ hpid hevent hstep => pidModerate_step hpid hevent hstep)
    hpid hmoderate

/-- A target below one unit of error makes the divisor zero, and a large one
overflows when it is scaled. -/
theorem arithmetic_of_extreme_targets :
    (create (sampleCallEnv false) (surfaceflingerDescriptor 50000)
          (some plainProfile) =
        .ok (sampleSession 50000 plainProfile none) ∧
      ¬ RunMeets BoostSession.step ArithmeticDefined
        (sampleSession 50000 plainProfile none)
        [.call (sampleCallEnv false) (reportAt [0])]) ∧
    (create (sampleCallEnv false) (surfaceflingerDescriptor (2 ^ 62))
          (some plainProfile) =
        .ok (sampleSession (2 ^ 62) plainProfile none) ∧
      ¬ RunMeets BoostSession.step ArithmeticDefined
        (sampleSession (2 ^ 62) plainProfile none)
        [.call (sampleCallEnv false) (reportAt [0])]) := by
  refine ⟨⟨rfl, fun hmeets => ?_⟩, rfl, fun hmeets => ?_⟩
  · obtain ⟨next, hnext⟩ := exists_step _ _
    have hconversion := (hmeets next hnext).1 ⟨rfl, rfl⟩ _ rfl
    exact (hconversion.2 _ rfl).divisor (by decide)
  · obtain ⟨next, hnext⟩ := exists_step _ _
    have hconversion := (hmeets next hnext).1 ⟨rfl, rfl⟩ _ rfl
    exact absurd hconversion.1.1.scaledTarget (by decide)

theorem arithmetic_of_sample_report :
    RunMeets BoostSession.step ArithmeticDefined
      (sampleSession 8000000 plainProfile none)
      [.call (sampleCallEnv false) (reportAt [0])] := by
  apply @runMeets_arithmeticDefined (sampleCallEnv false) _
    (surfaceflingerDescriptor 8000000) (some plainProfile) rfl
  refine fun _ _ => ⟨fun _ => ?_, trivial⟩
  constructor
  · exact monotone_id
  · constructor <;> decide +kernel
  · constructor
    · decide +kernel
    · rintro _ ⟨⟩
      decide +kernel
    · rintro _ ⟨⟩ _ ⟨⟩
      decide
  · nofun
  · exact ⟨by decide, by decide⟩
  · exact ⟨nofun, by decide, by decide⟩

end BoostSession

end HardwareInterfaces.HeuristicBoost

import HardwareInterfaces.Power.PowerSessionManager

/-!
# What a call does to the sessions

The boosts depend on five fields of a session: whether it is active, whether it
prefers power efficiency, whether its rampup boost is on, its votes and its
threads.  Every call of the manager rewrites this view at one session, and the
equations below give the rewriting function.  No later proof looks at the maps,
the loop over the threads or the metrics again.
-/

namespace HardwareInterfaces.SessionManager

open AdpfTypes Metrics SessionTaskMap UClampVoter

/-- The part of a session that the boosts depend on. -/
structure BoostState where
  isActive : Bool
  isPowerEfficient : Bool
  rampupBoostActive : Bool
  votes : Votes
  linkedTasks : List TaskId

def boostOf (session : Session) : BoostState :=
  ⟨session.value.isActive, session.value.isPowerEfficient,
    session.value.rampupBoostActive, session.value.votes, session.linkedTasks⟩

/-! ## Rewriting one session -/

section OnSession

variable {State : Type*} (sessions : SessionId → Option State)

/-- Rewrite the state of one session, if it is live. -/
def onSession (sessionId : SessionId) (change : State → State) :
    SessionId → Option State :=
  Function.update sessions sessionId ((sessions sessionId).map change)

variable {sessions} {sessionId other : SessionId}

variable (change : State → State)

@[simp]
theorem onSession_self :
    onSession sessions sessionId change sessionId =
      (sessions sessionId).map change :=
  Function.update_self _ _ _

theorem onSession_of_ne (hne : other ≠ sessionId) :
    onSession sessions sessionId change other = sessions other :=
  Function.update_of_ne hne _ _

@[simp]
theorem onSession_id : onSession sessions sessionId id = sessions := by
  rw [onSession, Option.map_id, id, Function.update_eq_self]

theorem onSession_onSession (first second : State → State) :
    onSession (onSession sessions sessionId first) sessionId second =
      onSession sessions sessionId (second ∘ first) := by
  rw [onSession, onSession_self, onSession, onSession, Function.update_idem,
    Option.map_map]

theorem onSession_of_none (habsent : sessions sessionId = none) :
    onSession sessions sessionId change = sessions := by
  rw [onSession, habsent, Option.map_none, ← habsent, Function.update_eq_self]

/-- Two functions that agree on the state of the session rewrite it alike. -/
theorem onSession_congr {first second : State → State}
    (hsame : ∀ state, sessions sessionId = some state →
      first state = second state) :
    onSession sessions sessionId first =
      onSession sessions sessionId second := by
  rw [onSession, onSession]
  cases hstate : sessions sessionId with
  | none => rfl
  | some state => rw [Option.map_some, Option.map_some, hsame state hstate]

theorem onSession_of_fixed {change : State → State}
    (hfixed : ∀ state, sessions sessionId = some state →
      change state = state) :
    onSession sessions sessionId change = sessions :=
  (onSession_congr hfixed).trans onSession_id

/-- Sessions that have one of them rewritten show it in every view that can
follow the change. -/
theorem map_comp_update {Source : Type*} {viewOf : Source → State}
    {before after : SessionId → Option Source} {change : Source → Source}
    {view : State → State}
    (hafter : after =
      Function.update before sessionId ((before sessionId).map change))
    (hview : ∀ source, viewOf (change source) = view (viewOf source)) :
    Option.map viewOf ∘ after =
      onSession (Option.map viewOf ∘ before) sessionId view := by
  have hcomp : viewOf ∘ change = view ∘ viewOf := funext hview
  rw [hafter, Function.comp_update, onSession, Function.comp_apply,
    Option.map_map, Option.map_map, hcomp]

end OnSession

/-! ## Threads that die during a uclamp update -/

/-- The threads that a uclamp update leaves in a list, with its calls numbered
from `call` on. -/
def survivors (threadGone : Nat → Bool) : Nat → List TaskId → List TaskId
  | _, [] => []
  | call, tid :: rest =>
    if threadGone call then survivors threadGone (call + 1) rest
    else tid :: survivors threadGone (call + 1) rest

/-- The threads that remain linked once the votes have been applied. -/
def liveThreads (env : Env) (threadIds : List TaskId) : List TaskId :=
  if env.adpfProfile.mUclampMinOn then survivors env.threadGone 0 threadIds
  else threadIds

@[simp]
theorem liveThreads_nil (env : Env) : liveThreads env [] = [] := by
  simp [liveThreads, survivors]

/-- A session after its CPU votes have been applied. -/
def applied (env : Env) (state : BoostState) : BoostState :=
  { state with linkedTasks := liveThreads env state.linkedTasks }

namespace PowerSessionManager

variable (manager : PowerSessionManager) (env : Env) (sessionId : SessionId)

def boost (sessionId : SessionId) : Option BoostState :=
  (manager.session sessionId).map boostOf

variable {manager} in
theorem boost_eq_none_iff {sessionId : SessionId} :
    manager.boost sessionId = none ↔ manager.session sessionId = none :=
  Option.map_eq_none_iff

theorem isSome_boost :
    (manager.boost sessionId).isSome = (manager.session sessionId).isSome :=
  Option.isSome_map

variable {manager} in
theorem boost_eq_onSession_of_absent {sessionId : SessionId}
    (hsession : manager.session sessionId = none)
    (change : BoostState → BoostState) :
    manager.boost = onSession manager.boost sessionId change :=
  (onSession_of_none change (boost_eq_none_iff.mpr hsession)).symm

variable {manager} in
theorem onSession_boost_congr {sessionId : SessionId} {session : Session}
    (hsession : manager.session sessionId = some session)
    {first second : BoostState → BoostState}
    (hsame : first (boostOf session) = second (boostOf session)) :
    onSession manager.boost sessionId first =
      onSession manager.boost sessionId second := by
  apply onSession_congr
  intro state hstate
  rw [boost, hsession, Option.map_some, Option.some.injEq] at hstate
  rw [← hstate, hsame]

variable {manager} in
theorem boost_eq_onSession_of_fixed {sessionId : SessionId} {session : Session}
    (hsession : manager.session sessionId = some session)
    {change : BoostState → BoostState}
    (hfixed : change (boostOf session) = boostOf session) :
    manager.boost = onSession manager.boost sessionId change :=
  onSession_id.symm.trans (onSession_boost_congr hsession hfixed.symm)

@[simp]
theorem boost_init (gpuCapacityNode taskRampupMultNode : Bool)
    (maxNumOfCachedSessionMetrics : Nat) (sessionId : SessionId) :
    (init gpuCapacityNode taskRampupMultNode
      maxNumOfCachedSessionMetrics).boost sessionId = none :=
  boost_eq_none_iff.mpr (SessionLinks.session_empty sessionId)

@[simp]
theorem boost_emit (effect : Effect) :
    (manager.emit effect).boost = manager.boost := rfl

@[simp]
theorem boost_schedule (event : EventSessionTimeout) (deadline : TimePoint) :
    (manager.schedule event deadline).boost = manager.boost := rfl

/-- A manager whose maps rewrite one session has that session's boost state
rewritten. -/
theorem boost_of_session_update {before after : PowerSessionManager}
    {sessionId : SessionId} {change : Session → Session}
    {view : BoostState → BoostState}
    (hsession : after.session = Function.update before.session sessionId
      ((before.session sessionId).map change))
    (hview : ∀ session, boostOf (change session) = view (boostOf session)) :
    after.boost = onSession before.boost sessionId view :=
  map_comp_update hsession hview

theorem boost_modifySession {change : SessionValue → SessionValue}
    (view : BoostState → BoostState) (hview : ∀ session : Session,
      boostOf { session with value := change session.value } =
        view (boostOf session)) :
    (manager.modifySession sessionId change).boost =
      onSession manager.boost sessionId view :=
  boost_of_session_update
    (SessionLinks.session_modifySession sessionId change) hview

/-- The fields outside the view can change without the boosts noticing. -/
theorem boost_modifySession_of_same {change : SessionValue → SessionValue}
    (hsame : ∀ session : Session,
      boostOf { session with value := change session.value } =
        boostOf session) :
    (manager.modifySession sessionId change).boost = manager.boost := by
  rw [boost_modifySession manager sessionId id hsame, onSession_id]

theorem boost_replace (threadIds : List TaskId) :
    boost { manager with
      mSessionTaskMap :=
        manager.mSessionTaskMap.replace sessionId threadIds } =
      onSession manager.boost sessionId fun state =>
        { state with linkedTasks := threadIds } :=
  boost_of_session_update
    (SessionLinks.session_replace sessionId threadIds) fun _ => rfl

theorem boost_dropDeadThread (position : Nat) :
    boost { manager with
      mSessionTaskMap :=
        manager.mSessionTaskMap.dropDeadThread sessionId position } =
      onSession manager.boost sessionId fun state =>
        { state with linkedTasks := state.linkedTasks.eraseIdx position } :=
  boost_of_session_update
    (SessionLinks.session_dropDeadThread sessionId position) fun _ => rfl

/-! ## Applying votes -/

variable (voteId : AdpfVoteType) (timePoint : TimePoint)

/-- The loop keeps the threads before its position and drops the dead ones
among the rest. -/
theorem boost_uclampLoop (kept rest : List TaskId) (call : Nat)
    (htasks : ∀ state, manager.boost sessionId = some state →
      state.linkedTasks = kept ++ rest) :
    (uclampLoop env sessionId timePoint rest call kept.length manager).boost =
      onSession manager.boost sessionId fun state =>
        { state with
          linkedTasks := kept ++ survivors env.threadGone call rest } := by
  induction rest generalizing kept call manager with
  | nil =>
    rw [uclampLoop, survivors]
    refine (onSession_of_fixed ?_).symm
    intro state hstate
    rw [← htasks state hstate]
  | cons tid rest ih =>
    rw [uclampLoop, survivors]
    cases env.threadGone call with
    | true =>
      rw [if_pos rfl, if_pos rfl, ih, boost_dropDeadThread, onSession_onSession]
      · rfl
      · intro state hstate
        rw [boost_dropDeadThread, onSession_self] at hstate
        obtain ⟨old, hold, rfl⟩ := Option.map_eq_some_iff.mp hstate
        rw [htasks old hold, List.eraseIdx_append_of_length_le (Nat.le_refl _)]
        simp
    | false =>
      rw [if_neg Bool.false_ne_true, if_neg Bool.false_ne_true]
      have hnext := ih (manager.setUclamp tid
          (manager.mSessionTaskMap.getTaskVoteRange tid timePoint
            UclampRange.full env.adpfProfile.mUclampMaxEfficientBase
            env.adpfProfile.mUclampMaxEfficientOffset))
        (kept ++ [tid]) (call + 1) (by
          rw [List.append_assoc]
          exact htasks)
      rw [List.length_append, List.length_singleton] at hnext
      rw [hnext, List.append_assoc, List.singleton_append]
      rfl

theorem boost_applyUclampLocked :
    (manager.applyUclampLocked env sessionId timePoint).boost =
      onSession manager.boost sessionId (applied env) := by
  rw [applyUclampLocked]
  cases hsession : manager.session sessionId with
  | none => exact boost_eq_onSession_of_absent hsession _
  | some session =>
    refine (boost_modifySession_of_same _ sessionId fun _ => rfl).trans ?_
    cases hon : env.adpfProfile.mUclampMinOn with
    | true =>
      have htasks : manager.mSessionTaskMap.getTaskIds sessionId =
          session.linkedTasks := by
        rw [SessionLinks.getTaskIds_eq]
        exact congrArg (fun found => (found.map Session.linkedTasks).getD [])
          hsession
      rw [if_pos rfl, htasks]
      refine (boost_uclampLoop manager env sessionId timePoint []
        session.linkedTasks 0 ?_).trans (onSession_boost_congr hsession ?_)
      · intro state hstate
        rw [boost, hsession] at hstate
        cases hstate
        rfl
      · rw [applied, liveThreads, if_pos hon]
        rfl
    | false =>
      rw [if_neg Bool.false_ne_true]
      apply boost_eq_onSession_of_fixed hsession
      rw [applied, liveThreads, hon, if_neg Bool.false_ne_true]

@[simp]
theorem boost_applyGpuVotesLocked :
    (manager.applyGpuVotesLocked env sessionId timePoint).boost =
      manager.boost := by
  rw [applyGpuVotesLocked]
  cases manager.session sessionId with
  | none => rfl
  | some session =>
    refine (boost_modifySession_of_same _ sessionId fun _ => rfl).trans ?_
    split_ifs
    · exact boost_emit manager _
    · rfl

theorem boost_applyCpuAndGpuVotes :
    (manager.applyCpuAndGpuVotes env sessionId timePoint).boost =
      onSession manager.boost sessionId (applied env) := by
  rw [applyCpuAndGpuVotes, boost_applyGpuVotesLocked, boost_applyUclampLocked]

theorem boost_forceSessionActive (isActive : Bool) :
    (manager.forceSessionActive env sessionId isActive).boost =
      onSession manager.boost sessionId fun state =>
        applied env { state with isActive := isActive } := by
  rw [forceSessionActive]
  cases hsession : manager.session sessionId with
  | none => exact boost_eq_onSession_of_absent hsession _
  | some session =>
    refine (boost_applyCpuAndGpuVotes _ env sessionId env.now).trans ?_
    rw [boost_modifySession manager sessionId
      (fun state => { state with isActive := isActive }) fun _ => rfl,
      onSession_onSession]
    rfl

@[simp]
theorem boost_setTaskProfilesAll (tids : List TaskId)
    (profiles : List String) :
    (manager.setTaskProfilesAll tids profiles).boost = manager.boost := by
  rw [setTaskProfilesAll]
  induction tids generalizing manager with
  | nil => rfl
  | cons tid rest ih => exact ih (manager.emit _)

/-! ## Metrics -/

@[simp]
theorem boost_collectSessionMetric :
    (manager.collectSessionMetric env sessionId).boost = manager.boost := by
  have hcollect : ∀ (current : PowerSessionManager) (metrics : SessionMetrics),
      (current.collectMetric metrics).boost = current.boost := by
    intro current metrics
    rw [collectMetric]
    split_ifs <;> rfl
  rw [collectSessionMetric]
  cases (manager.session sessionId).bind
      fun session => session.value.sessFrameMetrics with
  | none => rfl
  | some metrics =>
    rw [hcollect]
    exact boost_modifySession_of_same _ sessionId fun _ => rfl

@[simp]
theorem boost_resetSessionMetric :
    (manager.resetSessionMetric env sessionId).boost = manager.boost :=
  boost_modifySession_of_same _ sessionId fun _ => rfl

@[simp]
theorem boost_updateHboostStatistics (jankyLevel : SessionJankyLevel)
    (numOfFrames : Int) :
    (manager.updateHboostStatistics sessionId jankyLevel numOfFrames).boost =
      manager.boost :=
  boost_modifySession_of_same _ sessionId fun _ => rfl

@[simp]
theorem boost_updateFrameMetrics (lastReportedFrames : FrameTimingMetrics) :
    (manager.updateFrameMetrics sessionId lastReportedFrames).boost =
      manager.boost :=
  boost_modifySession_of_same _ sessionId fun _ => rfl

@[simp]
theorem boost_updateCollectedSessionMetrics :
    (manager.updateCollectedSessionMetrics env sessionId).boost =
      manager.boost := by
  rw [updateCollectedSessionMetrics]
  split
  · rfl
  · split
    · rfl
    · split_ifs
      · rw [boost_resetSessionMetric, boost_collectSessionMetric]
      · rfl

@[simp]
theorem boost_updateHintMode (isGameMode enabled : Bool) :
    (manager.updateHintMode isGameMode enabled).boost = manager.boost := by
  rw [updateHintMode]
  split_ifs <;> rfl

/-! ## Sessions -/

/-- Setting the threads leaves the session active, whatever it was before. -/
theorem boost_setThreadsFromPowerSession (before after : Env)
    (sessionId : SessionId) (threadIds : List TaskId) :
    (manager.setThreadsFromPowerSession before after sessionId
        threadIds).boost =
      onSession manager.boost sessionId fun state =>
        { state with
          isActive := true, linkedTasks := liveThreads after threadIds } := by
  rw [setThreadsFromPowerSession, boost_forceSessionActive,
    boost_setTaskProfilesAll, boost_setTaskProfilesAll, boost_replace,
    boost_forceSessionActive, onSession_onSession, onSession_onSession]
  rfl

/-- The boost state of a session that `addPowerSession` has created. -/
def createdBoost (env after : Env) (descriptor : AppHintDesc)
    (threadIds : List TaskId) : BoostState where
  isActive := true
  isPowerEfficient := false
  rampupBoostActive := false
  votes := Votes.empty.addCpu AdpfVoteType.cpuVoteDefault.toInt
    ⟨⟨false, env.now, descriptor.targetNs⟩, ⟨kUclampMin, kUclampMax⟩⟩
  linkedTasks := liveThreads after threadIds

section

variable (before after : Env) (descriptor : AppHintDesc)
  (enableMetricCollection : Bool) (threadIds : List TaskId)

theorem boost_addPowerSession_of_none
    (habsent : manager.boost descriptor.sessionId = none) :
    (manager.addPowerSession env before after descriptor
        enableMetricCollection threadIds).boost =
      Function.update manager.boost descriptor.sessionId
        (some (createdBoost env after descriptor threadIds)) := by
  have hboost : boost { manager with
      mSessionTaskMap := manager.mSessionTaskMap.add descriptor.sessionId
        (manager.newSessionValue env descriptor enableMetricCollection) [] } =
      Function.update manager.boost descriptor.sessionId (some (boostOf
        ⟨manager.newSessionValue env descriptor enableMetricCollection, []⟩)) :=
    (congrArg (Option.map boostOf ∘ ·) (SessionLinks.session_add_of_none _ []
      (boost_eq_none_iff.mp habsent))).trans (Function.comp_update _ _ _ _)
  rw [addPowerSession, boost_setThreadsFromPowerSession, hboost, onSession,
    Function.update_idem, Function.update_self]
  rfl

theorem addPowerSession_of_some {state : BoostState}
    (hpresent : manager.boost descriptor.sessionId = some state) :
    manager.addPowerSession env before after descriptor enableMetricCollection
        threadIds =
      manager.setThreadsFromPowerSession before after descriptor.sessionId
        threadIds := by
  obtain ⟨session, hsession, -⟩ := Option.map_eq_some_iff.mp hpresent
  rw [addPowerSession, SessionLinks.add_of_some _ _ hsession]

end

theorem removePowerSession_isSome_iff :
    (manager.removePowerSession env sessionId).isSome ↔
      (manager.boost sessionId).isSome := by
  rw [removePowerSession, boost, Option.isSome_map]
  cases manager.session sessionId <;> simp

theorem boost_unlinkSession :
    (manager.unlinkSession sessionId).boost =
      Function.update manager.boost sessionId none :=
  (congrArg (Option.map boostOf ∘ ·)
    (manager.mSessionTaskMap.session_unlink sessionId)).trans
      (Function.comp_update _ _ _ _)

theorem boost_removePowerSession {env : Env} {sessionId : SessionId}
    {next : PowerSessionManager}
    (hremove : manager.removePowerSession env sessionId = some next) :
    next.boost = Function.update manager.boost sessionId none := by
  obtain ⟨-, tids, profiles, rfl⟩ := exists_of_removePowerSession hremove
  rw [boost_setTaskProfilesAll, boost_unlinkSession, boost_collectSessionMetric,
    boost_forceSessionActive, onSession, Function.update_idem]

@[simp]
theorem boost_updateTaskRampupMult (tid : TaskId) (val : Int) :
    (manager.updateTaskRampupMult tid val).boost = manager.boost := by
  rw [updateTaskRampupMult]
  split_ifs <;> rfl

@[simp]
theorem boost_voteRampupBoostLocked (rampupBoostVote : Bool)
    (defaultRampupVal highRampupVal : Int) :
    (manager.voteRampupBoostLocked sessionId rampupBoostVote defaultRampupVal
      highRampupVal).boost = manager.boost := by
  rw [voteRampupBoostLocked]
  generalize manager.mSessionTaskMap.getTaskIds sessionId = tids
  induction tids generalizing manager with
  | nil => rfl
  | cons tid rest ih =>
    rw [List.foldl_cons, ih]
    cases manager.otherSessionsRampupBoost sessionId tid with
    | true => rfl
    | false => exact boost_updateTaskRampupMult manager tid _

/-- A session after `pause`; a paused one is left as it is. -/
def pausedBoost (env : Env) (state : BoostState) : BoostState :=
  if state.isActive then
    applied env { state with isActive := false, rampupBoostActive := false }
  else state

theorem boost_pause :
    (manager.pause env sessionId).boost =
      onSession manager.boost sessionId (pausedBoost env) := by
  cases hsession : manager.session sessionId with
  | none =>
    rw [pause, hsession]
    exact boost_eq_onSession_of_absent hsession _
  | some session =>
    simp only [pause, hsession]
    cases hactive : session.value.isActive with
    | false =>
      rw [if_neg Bool.false_ne_true]
      apply boost_eq_onSession_of_fixed hsession
      simp [pausedBoost, boostOf, hactive]
    | true =>
      rw [if_pos rfl, boost_applyCpuAndGpuVotes, boost_resetSessionMetric,
        boost_collectSessionMetric]
      cases hrampup : session.value.rampupBoostActive with
      | true =>
        rw [if_pos rfl, boost_voteRampupBoostLocked,
          boost_modifySession _ sessionId (fun state =>
            { state with rampupBoostActive := false }) fun _ => rfl,
          boost_modifySession _ sessionId (fun state =>
            { state with isActive := false }) fun _ => rfl,
          onSession_onSession, onSession_onSession]
        apply onSession_boost_congr hsession
        simp [pausedBoost, boostOf, hactive]
      | false =>
        rw [if_neg Bool.false_ne_true,
          boost_modifySession _ sessionId (fun state =>
            { state with isActive := false }) fun _ => rfl,
          onSession_onSession]
        apply onSession_boost_congr hsession
        simp [pausedBoost, boostOf, hactive, hrampup]

/-- A session after `resume`; an active one is left as it is. -/
def resumedBoost (env : Env) (state : BoostState) : BoostState :=
  if state.isActive then state
  else applied env { state with isActive := true }

theorem boost_resume :
    (manager.resume env sessionId).boost =
      onSession manager.boost sessionId (resumedBoost env) := by
  cases hsession : manager.session sessionId with
  | none =>
    rw [resume, hsession]
    exact boost_eq_onSession_of_absent hsession _
  | some session =>
    simp only [resume, hsession]
    cases hactive : session.value.isActive with
    | true =>
      rw [if_pos rfl]
      apply boost_eq_onSession_of_fixed hsession
      simp [resumedBoost, boostOf, hactive]
    | false =>
      rw [if_neg Bool.false_ne_true, boost_applyCpuAndGpuVotes,
        boost_resetSessionMetric,
        boost_modifySession _ sessionId (fun state =>
          { state with isActive := true }) fun _ => rfl,
        onSession_onSession]
      apply onSession_boost_congr hsession
      simp [resumedBoost, boostOf, hactive]

/-- Only an active session gets the boost, and only when frames are janky. -/
def rampupWanted (isActive : Bool) (jankyLevel : SessionJankyLevel) : Bool :=
  isActive && decide (jankyLevel ≠ .light)

theorem boost_updateRampupBoostMode (jankyLevel : SessionJankyLevel)
    (defaultRampupVal highRampupVal : Int) :
    (manager.updateRampupBoostMode sessionId jankyLevel defaultRampupVal
        highRampupVal).boost =
      onSession manager.boost sessionId fun state =>
        { state with
          rampupBoostActive := rampupWanted state.isActive jankyLevel } := by
  cases hsession : manager.session sessionId with
  | none =>
    rw [updateRampupBoostMode, hsession]
    exact boost_eq_onSession_of_absent hsession _
  | some session =>
    have hwanted : rampupBoostWanted session.value jankyLevel =
        rampupWanted session.value.isActive jankyLevel := by
      cases jankyLevel <;> cases hactive : session.value.isActive <;>
        simp [rampupBoostWanted, rampupWanted, hactive]
    have hupdated : (manager.modifySession sessionId fun value =>
        { value with
          rampupBoostActive :=
            rampupBoostWanted session.value jankyLevel }).boost =
        onSession manager.boost sessionId fun state =>
          { state with
            rampupBoostActive := rampupWanted state.isActive jankyLevel } := by
      rw [boost_modifySession _ sessionId (fun state =>
        { state with
          rampupBoostActive := rampupBoostWanted session.value jankyLevel })
        fun _ => rfl]
      apply onSession_boost_congr hsession
      rw [hwanted]
      rfl
    simp only [updateRampupBoostMode, hsession]
    split_ifs
    · exact hupdated
    · rw [boost_voteRampupBoostLocked, hupdated]

theorem boost_setPreferPowerEfficiency (enabled : Bool) :
    (manager.setPreferPowerEfficiency env sessionId enabled).boost =
      onSession manager.boost sessionId fun state =>
        if enabled = state.isPowerEfficient then state
        else applied env { state with isPowerEfficient := enabled } := by
  cases hsession : manager.session sessionId with
  | none =>
    rw [setPreferPowerEfficiency, hsession]
    exact boost_eq_onSession_of_absent hsession _
  | some session =>
    simp only [setPreferPowerEfficiency, hsession]
    split_ifs with henabled
    · exact boost_eq_onSession_of_fixed hsession (if_pos henabled)
    · rw [boost_applyUclampLocked, boost_modifySession _ sessionId
        (fun state => { state with isPowerEfficient := enabled })
        fun _ => rfl, onSession_onSession]
      exact onSession_boost_congr hsession (if_neg henabled).symm

/-! ## Votes -/

theorem boost_updateTargetWorkDuration (durationNs : Nanoseconds) :
    (manager.updateTargetWorkDuration sessionId voteId durationNs).boost =
      onSession manager.boost sessionId fun state =>
        { state with
          votes := state.votes.updateDuration voteId.toInt durationNs } := by
  rw [updateTargetWorkDuration]
  apply boost_modifySession
  intro session
  rfl

theorem boost_disableBoosts :
    (manager.disableBoosts sessionId).boost =
      onSession manager.boost sessionId fun state =>
        { state with
          votes := disabledVotes.foldl
            (fun votes vid => votes.setUseVote vid.toInt false)
            state.votes } := by
  rw [disableBoosts]
  apply boost_modifySession
  intro session
  simp only [boostOf]

@[simp]
theorem boost_scheduleVoteTimeout (needed : Bool) (sessionId : SessionId)
    (voteId : VoteId) (startTime : TimePoint) (durationNs : Nanoseconds) :
    (manager.scheduleVoteTimeout needed sessionId voteId startTime
      durationNs).boost = manager.boost := by
  rw [scheduleVoteTimeout]
  split_ifs <;> rfl

theorem boost_voteSetCpu (uclampMin uclampMax : Int) (startTime : TimePoint)
    (durationNs : Nanoseconds) :
    (manager.voteSetCpu env sessionId voteId uclampMin uclampMax startTime
        durationNs).boost =
      onSession manager.boost sessionId fun state =>
        applied env { state with
          votes := state.votes.addCpu voteId.toInt
            ⟨⟨true, startTime, durationNs⟩, ⟨uclampMin, uclampMax⟩⟩ } := by
  have hvoted : boost { manager with
      mSessionTaskMap := manager.mSessionTaskMap.addVote sessionId
        voteId.toInt uclampMin uclampMax startTime durationNs } =
      onSession manager.boost sessionId fun state =>
        { state with
          votes := state.votes.addCpu voteId.toInt
            ⟨⟨true, startTime, durationNs⟩, ⟨uclampMin, uclampMax⟩⟩ } :=
    boost_of_session_update (SessionLinks.session_addVote sessionId
      voteId.toInt uclampMin uclampMax startTime durationNs) fun _ => rfl
  rw [voteSetCpu]
  cases hsession : manager.session sessionId with
  | none => exact boost_eq_onSession_of_absent hsession _
  | some session =>
    dsimp only
    rw [boost_scheduleVoteTimeout, boost_applyUclampLocked,
      boost_modifySession_of_same _ sessionId fun _ => rfl, hvoted,
      onSession_onSession]
    rfl

theorem boost_voteSetGpu (capacity : Cycles) (startTime : TimePoint)
    (durationNs : Nanoseconds) :
    (manager.voteSetGpu env sessionId voteId capacity startTime
        durationNs).boost =
      onSession manager.boost sessionId fun state =>
        { state with
          votes := state.votes.addGpu voteId.toInt
            ⟨⟨true, startTime, durationNs⟩, capacity⟩ } := by
  have hvoted : boost { manager with
      mSessionTaskMap := manager.mSessionTaskMap.addGpuVote sessionId
        voteId.toInt capacity startTime durationNs } =
      onSession manager.boost sessionId fun state =>
        { state with
          votes := state.votes.addGpu voteId.toInt
            ⟨⟨true, startTime, durationNs⟩, capacity⟩ } :=
    boost_of_session_update (SessionLinks.session_addGpuVote sessionId
      voteId.toInt capacity startTime durationNs) fun _ => rfl
  rw [voteSetGpu]
  cases hsession : manager.session sessionId with
  | none => exact boost_eq_onSession_of_absent hsession _
  | some session =>
    dsimp only
    rw [boost_scheduleVoteTimeout, boost_applyGpuVotesLocked,
      boost_modifySession_of_same _ sessionId fun _ => rfl, hvoted]

/-- A session after one of its events has been handled: only a vote that has
ended is switched off. -/
def expiredBoost (env : Env) (voteId : VoteId) (state : BoostState) :
    BoostState :=
  if state.votes.voteIsActive voteId ∧
      state.votes.voteTimeout voteId ≤ env.now then
    applied env { state with votes := state.votes.setUseVote voteId false }
  else state

theorem boost_handleEvent (event : EventSessionTimeout) :
    (manager.handleEvent env event).boost =
      onSession manager.boost event.sessionId
        (expiredBoost env event.voteId) := by
  rw [handleEvent]
  cases hsession : manager.session event.sessionId with
  | none => exact boost_eq_onSession_of_absent hsession _
  | some session =>
    dsimp only
    split_ifs with hactive hended
    · rw [boost_applyCpuAndGpuVotes, boost_modifySession _ event.sessionId
        (fun state => { state with
          votes := state.votes.setUseVote event.voteId false })
        fun _ => rfl, onSession_onSession]
      exact onSession_boost_congr hsession (if_pos ⟨hactive, hended⟩).symm
    · rw [boost_schedule]
      exact boost_eq_onSession_of_fixed hsession
        (if_neg fun hboth => hended hboth.2)
    · exact boost_eq_onSession_of_fixed hsession
        (if_neg fun hboth => hactive hboth.1)

end PowerSessionManager

end HardwareInterfaces.SessionManager

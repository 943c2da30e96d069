import HardwareInterfaces.Power.SessionEffects
import HardwareInterfaces.Power.CallFrame

/-!
# The rampup multipliers of the threads

A thread should run with the high rampup multiplier exactly while one of its
sessions has its rampup boost on.  The manager writes multipliers only when a
session's flag changes, not when its threads do.  This file follows the
multiplier last written for each thread along the runs of the calls that
concern it, and finds the runs on which it agrees with the sessions.
-/

namespace HardwareInterfaces.SessionManager.PowerSessionManager

open AdpfTypes SessionTaskMap Transition

variable {manager next : PowerSessionManager} {target : SessionId}

/-! ## Boosted threads -/

/-- The session has its rampup boost on and is linked to the thread. -/
def Boosts (manager : PowerSessionManager) (sessionId : SessionId)
    (tid : TaskId) : Prop :=
  ∃ session, manager.session sessionId = some session ∧
    session.value.rampupBoostActive = true ∧ tid ∈ session.linkedTasks

/-- The multiplier last written for a thread is the high one exactly when one
of its sessions boosts it. -/
def RampupMatches (high : Int) (manager : PowerSessionManager) : Prop :=
  ∀ tid, manager.writtenRampupMult tid = some high ↔
    ∃ sessionId, manager.Boosts sessionId tid

/-- Only active sessions boost. -/
def BoostingActive (manager : PowerSessionManager) : Prop :=
  ∀ sessionId state, manager.boost sessionId = some state →
    state.rampupBoostActive = true → state.isActive = true

section

variable (manager : PowerSessionManager) (sessionId : SessionId) (tid : TaskId)

theorem boosts_iff :
    manager.Boosts sessionId tid ↔
      ∃ state, manager.boost sessionId = some state ∧
        state.rampupBoostActive = true ∧ tid ∈ state.linkedTasks := by
  constructor
  · rintro ⟨session, hsession, hboosting, htid⟩
    refine ⟨boostOf session, ?_, hboosting, htid⟩
    rw [boost, hsession]
    rfl
  · rintro ⟨state, hstate, hboosting, htid⟩
    obtain ⟨session, hsession, rfl⟩ := Option.map_eq_some_iff.mp hstate
    exact ⟨session, hsession, hboosting, htid⟩

/-- The loop in `voteRampupBoostLocked` finds the other boosting sessions. -/
theorem otherSessionsRampupBoost_iff :
    manager.otherSessionsRampupBoost sessionId tid = true ↔
      ∃ other, other ≠ sessionId ∧ manager.Boosts other tid := by
  rw [otherSessionsRampupBoost, List.any_eq_true]
  constructor
  · rintro ⟨other, hmem, hboosting⟩
    obtain ⟨session, hsession, htid⟩ :=
      (SessionLinks.mem_getSessionIds_iff tid other).mp hmem
    rw [Bool.and_eq_true, decide_eq_true_eq, PowerSessionManager.session,
      hsession] at hboosting
    exact ⟨other, hboosting.1, session, hsession, hboosting.2, htid⟩
  · rintro ⟨other, hne, session, hsession, hboosting, htid⟩
    refine ⟨other, (SessionLinks.mem_getSessionIds_iff tid other).mpr
      ⟨session, hsession, htid⟩, ?_⟩
    rw [Bool.and_eq_true, decide_eq_true_eq, hsession]
    exact ⟨hne, hboosting⟩

end

variable {sessionId : SessionId}

/-- The threads boosted by others depend on the other sessions only. -/
theorem otherSessionsRampupBoost_congr {first second : PowerSessionManager}
    (hothers : ∀ other, other ≠ sessionId →
      second.boost other = first.boost other)
    (tid : TaskId) :
    second.otherSessionsRampupBoost sessionId tid =
      first.otherSessionsRampupBoost sessionId tid := by
  rw [Bool.eq_iff_iff, otherSessionsRampupBoost_iff,
    otherSessionsRampupBoost_iff]
  apply exists_congr
  intro other
  apply and_congr_right
  intro hne
  rw [boosts_iff, boosts_iff, hothers other hne]

theorem exists_boosts_iff (manager : PowerSessionManager)
    (sessionId : SessionId) (tid : TaskId) :
    (∃ other, manager.Boosts other tid) ↔
      manager.Boosts sessionId tid ∨
        manager.otherSessionsRampupBoost sessionId tid = true := by
  rw [otherSessionsRampupBoost_iff]
  constructor
  · rintro ⟨other, hboosts⟩
    by_cases hother : other = sessionId
    · subst hother
      exact Or.inl hboosts
    · exact Or.inr ⟨other, hother, hboosts⟩
  · rintro (hboosts | ⟨other, -, hboosts⟩)
    · exact ⟨sessionId, hboosts⟩
    · exact ⟨other, hboosts⟩

variable {high : Int}

/-- A call that writes no multiplier and rewrites one session keeps the match
exactly when the session boosts the same threads as before, apart from those
that others boost. -/
theorem rampupMatches_quiet_iff (hmatches : RampupMatches high manager)
    (hquiet : Quiet manager next) (hothers : ∀ other, other ≠ target →
      next.boost other = manager.boost other) :
    RampupMatches high next ↔
      ∀ tid, manager.otherSessionsRampupBoost target tid = false →
        (next.Boosts target tid ↔ manager.Boosts target tid) := by
  rw [RampupMatches, hquiet.rampup]
  apply forall_congr'
  intro tid
  rw [hmatches tid, exists_boosts_iff manager target,
    exists_boosts_iff next target, otherSessionsRampupBoost_congr hothers]
  cases manager.otherSessionsRampupBoost target tid with
  | true => simp
  | false => simp [iff_comm]

/-! ## The vote -/

theorem writtenRampupMult_updateTaskRampupMult
    (hnode : manager.mTaskRampupMultNode = true) (target tid : TaskId)
    (val : Int) :
    (manager.updateTaskRampupMult target val).writtenRampupMult tid =
      if tid = target then some val else manager.writtenRampupMult tid := by
  rw [updateTaskRampupMult, if_pos hnode, emit, writtenRampupMult,
    List.findSome?_cons, rampupWrite]
  by_cases htid : tid = target
  · rw [if_pos htid.symm, if_pos htid]
  · have hne : ¬ target = tid := fun hsame => htid hsame.symm
    rw [if_neg hne, if_neg htid]
    rfl

/-- The vote writes one value for the threads of the session that no other
session boosts. -/
theorem writtenRampupMult_voteRampupBoostLocked
    (hnode : manager.mTaskRampupMultNode = true) (sessionId : SessionId)
    (rampupBoostVote : Bool) (defaultRampupVal highRampupVal : Int)
    (tid : TaskId) :
    (manager.voteRampupBoostLocked sessionId rampupBoostVote defaultRampupVal
        highRampupVal).writtenRampupMult tid =
      if tid ∈ manager.mSessionTaskMap.getTaskIds sessionId ∧
          manager.otherSessionsRampupBoost sessionId tid = false then
        some (if rampupBoostVote then highRampupVal else defaultRampupVal)
      else manager.writtenRampupMult tid := by
  rw [voteRampupBoostLocked]
  generalize manager.mSessionTaskMap.getTaskIds sessionId = tids
  induction tids generalizing manager with
  | nil => simp
  | cons first rest ih =>
    rw [List.foldl_cons]
    cases hother : manager.otherSessionsRampupBoost sessionId first with
    | true =>
      rw [if_pos rfl, ih hnode]
      by_cases hfirst : tid = first
      · simp [hfirst, hother]
      · simp [hfirst]
    | false =>
      rw [if_neg Bool.false_ne_true]
      have hcurrent := boost_updateTaskRampupMult manager first
        (if rampupBoostVote then highRampupVal else defaultRampupVal)
      rw [ih ((Frame.updateTaskRampupMult manager first
        _).rampupNode.trans hnode), otherSessionsRampupBoost_congr
          (fun other _ => congrFun hcurrent other),
        writtenRampupMult_updateTaskRampupMult hnode]
      by_cases hfirst : tid = first
      · simp [hfirst, hother]
      · simp [hfirst]

variable {state : BoostState}

theorem boosts_of_boost (hstate : manager.boost sessionId = some state)
    (tid : TaskId) :
    manager.Boosts sessionId tid ↔
      state.rampupBoostActive = true ∧ tid ∈ state.linkedTasks := by
  rw [boosts_iff, hstate]
  simp

/-- A vote that follows a change of the flag of its session restores the
match. -/
theorem rampupMatches_voteRampupBoostLocked {current : PowerSessionManager}
    {before after : BoostState} (vote : Bool)
    (hmatches : RampupMatches high manager)
    (hnode : manager.mTaskRampupMultNode = true)
    (hquiet : Quiet manager current) (hothers : ∀ other, other ≠ target →
      current.boost other = manager.boost other)
    (hbefore : manager.boost target = some before)
    (hafter : current.boost target = some after)
    (hlinks : after.linkedTasks = before.linkedTasks)
    (hold : before.rampupBoostActive = !vote)
    (hnew : after.rampupBoostActive = vote)
    (defaultRampupVal highRampupVal : Int)
    (hvalue : (if vote then highRampupVal else defaultRampupVal) = high ↔
      vote = true) :
    RampupMatches high (current.voteRampupBoostLocked target vote
      defaultRampupVal highRampupVal) := by
  intro tid
  have hvoted := boost_voteRampupBoostLocked current target vote
    defaultRampupVal highRampupVal
  have htasks : current.mSessionTaskMap.getTaskIds target =
      before.linkedTasks := by
    obtain ⟨session, hsession, hstate⟩ := Option.map_eq_some_iff.mp hafter
    rw [SessionLinks.getTaskIds_eq, show current.mSessionTaskMap.session
      target = some session from hsession, ← hlinks, ← hstate]
    rfl
  rw [writtenRampupMult_voteRampupBoostLocked
      (hquiet.rampupNode.trans hnode),
    htasks, hquiet.rampup, otherSessionsRampupBoost_congr hothers,
    exists_boosts_iff _ target, boosts_of_boost (hvoted ▸ hafter),
    otherSessionsRampupBoost_congr fun other hne =>
      (congrFun hvoted other).trans (hothers other hne), hnew, hlinks]
  have hmatch := hmatches tid
  rw [exists_boosts_iff manager target, boosts_of_boost hbefore, hold] at hmatch
  by_cases htid : tid ∈ before.linkedTasks
  · cases hother : manager.otherSessionsRampupBoost target tid with
    | true => simpa [htid, hother] using hmatch
    | false => simpa [htid] using hvalue
  · simpa [htid] using hmatch

/-! ## Relinking threads -/

/-- If the session boosts, the threads that it gains or loses when it is
linked to the given ones instead are boosted by another session. -/
def KeepsBoostedThreads (manager : PowerSessionManager)
    (sessionId : SessionId) (threadIds : List TaskId) : Prop :=
  ∀ session, manager.session sessionId = some session →
    session.value.rampupBoostActive = true →
      ∀ tid, ¬ (tid ∈ session.linkedTasks ↔ tid ∈ threadIds) →
        manager.otherSessionsRampupBoost sessionId tid = true

theorem rampupMatches_relink_iff {threadIds : List TaskId}
    (hmatches : RampupMatches high manager) (hquiet : Quiet manager next)
    (hothers : ∀ other, other ≠ target →
      next.boost other = manager.boost other)
    (hrelinked : ∀ tid, next.Boosts target tid ↔
      ∃ session, manager.session target = some session ∧
        session.value.rampupBoostActive = true ∧ tid ∈ threadIds) :
    RampupMatches high next ↔
      manager.KeepsBoostedThreads target threadIds := by
  rw [rampupMatches_quiet_iff hmatches hquiet hothers]
  constructor
  · intro hsame session hsession hboosting tid hchanged
    by_contra hother
    apply hchanged
    have htid := hsame tid (by simpa using hother)
    rw [hrelinked, Boosts, hsession] at htid
    simpa [hboosting, iff_comm] using htid
  · intro hkeeps tid hother
    rw [hrelinked, Boosts]
    apply exists_congr
    intro session
    apply and_congr_right
    intro hsession
    apply and_congr_right
    intro hboosting
    by_contra hchanged
    have hboosted := hkeeps session hsession hboosting tid
      fun hsame => hchanged hsame.symm
    rw [hother] at hboosted
    exact Bool.false_ne_true hboosted

theorem boosts_setThreadsFromPowerSession (before after : Env)
    (threadIds : List TaskId) (tid : TaskId) :
    (manager.setThreadsFromPowerSession before after target
        threadIds).Boosts target tid ↔
      ∃ session, manager.session target = some session ∧
        session.value.rampupBoostActive = true ∧
          tid ∈ liveThreads after threadIds := by
  rw [boosts_iff, boost_setThreadsFromPowerSession, onSession_self, boost,
    Option.map_map]
  cases manager.session target with
  | none => simp
  | some session => simp [boostOf]

theorem boosts_addPowerSession (env before after : Env)
    (descriptor : AppHintDesc) (enableMetricCollection : Bool)
    (threadIds : List TaskId) (tid : TaskId) :
    (manager.addPowerSession env before after descriptor
        enableMetricCollection threadIds).Boosts descriptor.sessionId tid ↔
      ∃ session, manager.session descriptor.sessionId = some session ∧
        session.value.rampupBoostActive = true ∧
          tid ∈ liveThreads after threadIds := by
  cases hboost : manager.boost descriptor.sessionId with
  | some state =>
    rw [addPowerSession_of_some _ _ _ _ _ _ _ hboost]
    exact boosts_setThreadsFromPowerSession before after threadIds tid
  | none =>
    rw [boosts_iff, boost_addPowerSession_of_none _ _ _ _ _ _ _ hboost,
      Function.update_self, boost_eq_none_iff.mp hboost]
    simp [createdBoost]

/-! ## Changing the flag -/

theorem rampupMatches_of_not_boosts (hmatches : RampupMatches high manager)
    (hquiet : Quiet manager next) (hothers : ∀ other, other ≠ target →
      next.boost other = manager.boost other)
    (hbefore : ∀ tid, ¬ manager.Boosts target tid)
    (hafter : ∀ tid, ¬ next.Boosts target tid) : RampupMatches high next := by
  rw [rampupMatches_quiet_iff hmatches hquiet hothers]
  intro tid _
  exact iff_of_false (hafter tid) (hbefore tid)

theorem not_boosts_of_flag (hstate : manager.boost sessionId = some state)
    (hflag : state.rampupBoostActive = false) (tid : TaskId) :
    ¬ manager.Boosts sessionId tid := by
  rw [boosts_of_boost hstate, hflag]
  exact fun hboosts => Bool.false_ne_true hboosts.1

/-- The flags that `pause` drops, and the vote that it then makes if the
session was boosting. -/
theorem rampupMatches_dropFlags {target : SessionId}
    (hmatches : RampupMatches high manager)
    (hnode : manager.mTaskRampupMultNode = true)
    (hbackground : high ≠ kBGRampupVal)
    (hstate : manager.boost target = some state)
    (hflag : state.rampupBoostActive = true) :
    let dropped := (manager.modifySession target fun value =>
      { value with isActive := false }).modifySession target
        fun value => { value with rampupBoostActive := false }
    let voted := dropped.voteRampupBoostLocked target false kBGRampupVal
      kBGRampupVal
    RampupMatches high voted ∧
      (∀ other, other ≠ target → voted.boost other = manager.boost other) ∧
      voted.boost target = some { state with
        isActive := false, rampupBoostActive := false } := by
  intro dropped voted
  have hboost : dropped.boost = onSession manager.boost target
      fun state => { state with
        isActive := false, rampupBoostActive := false } := by
    rw [boost_modifySession _ target (fun state =>
        { state with rampupBoostActive := false }) fun _ => rfl,
      boost_modifySession _ target (fun state =>
        { state with isActive := false }) fun _ => rfl,
      onSession_onSession]
    rfl
  have hothers : ∀ other, other ≠ target →
      dropped.boost other = manager.boost other := by
    intro other hne
    rw [hboost, onSession_of_ne _ hne]
  have hdropped : dropped.boost target = some { state with
      isActive := false, rampupBoostActive := false } := by
    rw [hboost, onSession_self, hstate]
    rfl
  have hquiet : Quiet manager dropped :=
    (Quiet.modifySession _ target _).trans (Quiet.modifySession _ target _)
  have hvotedBoost : voted.boost = dropped.boost :=
    boost_voteRampupBoostLocked _ _ _ _ _
  rw [hvotedBoost]
  exact ⟨rampupMatches_voteRampupBoostLocked false hmatches hnode hquiet
    hothers hstate hdropped rfl hflag rfl kBGRampupVal kBGRampupVal
    (by simpa using hbackground.symm), hothers, hdropped⟩

/-- Pausing writes the background value for the threads of a boosting session
before it drops the flag. -/
theorem rampupMatches_pause (hmatches : RampupMatches high manager)
    (hnode : manager.mTaskRampupMultNode = true)
    (hbackground : high ≠ kBGRampupVal) (env : Env) (target : SessionId) :
    RampupMatches high (manager.pause env target) := by
  cases hsession : manager.session target with
  | none => simpa only [pause, hsession] using hmatches
  | some session =>
    have hstate : manager.boost target = some (boostOf session) := by
      rw [boost, hsession]
      rfl
    cases hactive : session.value.isActive with
    | false =>
      have hsame : manager.pause env target = manager := by
        simp [pause, hsession, hactive]
      rw [hsame]
      exact hmatches
    | true =>
      have hothers : ∀ other, other ≠ target →
          (manager.pause env target).boost other = manager.boost other := by
        intro other hne
        rw [boost_pause, onSession_of_ne _ hne]
      have hpaused : (manager.pause env target).boost target =
          some (pausedBoost env (boostOf session)) := by
        rw [boost_pause, onSession_self, hstate]
        rfl
      have hdropped : (pausedBoost env
          (boostOf session)).rampupBoostActive = false := by
        simp [pausedBoost, boostOf, hactive, applied]
      cases hflag : session.value.rampupBoostActive with
      | false =>
        have hquiet : Quiet manager (manager.pause env target) := by
          simp only [pause, hsession, hactive, hflag, if_true]
          exact (Quiet.modifySession _ target _).trans
            (Quiet.collectResetApply _ env target)
        exact rampupMatches_of_not_boosts hmatches hquiet hothers
          (not_boosts_of_flag hstate hflag)
          (not_boosts_of_flag hpaused hdropped)
      | true =>
        obtain ⟨hvoted, hvotedOthers, hvotedTarget⟩ :=
          rampupMatches_dropFlags hmatches hnode hbackground hstate hflag
        refine rampupMatches_of_not_boosts hvoted ?_ ?_
          (not_boosts_of_flag hvotedTarget rfl)
          (not_boosts_of_flag hpaused hdropped)
        · simp only [pause, hsession, hactive, hflag, if_true]
          exact Quiet.collectResetApply _ env target
        · intro other hne
          rw [hothers other hne, hvotedOthers other hne]

theorem rampupMatches_resume (hmatches : RampupMatches high manager)
    (hactive : manager.BoostingActive) (env : Env) (target : SessionId) :
    RampupMatches high (manager.resume env target) := by
  have hboost := boost_resume manager env target
  rw [rampupMatches_quiet_iff hmatches (Quiet.resume manager env target)
    fun other hne => by rw [hboost, onSession_of_ne _ hne]]
  intro tid _
  cases hstate : manager.boost target with
  | none => rw [boosts_iff, boosts_iff, hboost, onSession_self, hstate]; simp
  | some state =>
    have hresumed : (manager.resume env target).boost target =
        some (resumedBoost env state) := by
      rw [hboost, onSession_self, hstate]
      rfl
    rw [boosts_of_boost hresumed, boosts_of_boost hstate, resumedBoost]
    split_ifs with hstateActive
    · exact Iff.rfl
    · have hflag : ¬ state.rampupBoostActive = true :=
        fun hflag => hstateActive (hactive target state hstate hflag)
      exact iff_of_false (fun hboosts => hflag hboosts.1)
        fun hboosts => hflag hboosts.1

variable {default : Int}

/-- A change of the janky level that flips the flag is followed by the vote. -/
theorem rampupMatches_updateRampupBoostMode
    (hmatches : RampupMatches high manager)
    (hnode : manager.mTaskRampupMultNode = true) (hdefault : high ≠ default)
    (target : SessionId) (jankyLevel : SessionJankyLevel) :
    RampupMatches high (manager.updateRampupBoostMode target jankyLevel
      default high) := by
  cases hsession : manager.session target with
  | none => simpa only [updateRampupBoostMode, hsession] using hmatches
  | some session =>
    have hstate : manager.boost target = some (boostOf session) := by
      rw [boost, hsession]
      rfl
    let wanted := rampupBoostWanted session.value jankyLevel
    let updated := manager.modifySession target fun value =>
      { value with rampupBoostActive := wanted }
    have hboost : updated.boost = onSession manager.boost target
        fun state => { state with rampupBoostActive := wanted } :=
      boost_modifySession manager target _ fun _ => rfl
    have hquiet : Quiet manager updated := Quiet.modifySession _ target _
    have hothers : ∀ other, other ≠ target →
        updated.boost other = manager.boost other := by
      intro other hne
      rw [hboost, onSession_of_ne _ hne]
    have hupdated : updated.boost target =
        some { boostOf session with rampupBoostActive := wanted } := by
      rw [hboost, onSession_self, hstate]
      rfl
    by_cases hflag : wanted = session.value.rampupBoostActive
    · have hresult : manager.updateRampupBoostMode target jankyLevel default
          high = updated := by
        rw [updateRampupBoostMode, hsession]
        exact if_pos hflag
      rw [hresult, rampupMatches_quiet_iff hmatches hquiet hothers]
      intro tid _
      rw [boosts_of_boost hupdated, boosts_of_boost hstate, hflag]
      rfl
    · have hresult : manager.updateRampupBoostMode target jankyLevel default
          high = updated.voteRampupBoostLocked target wanted default high := by
        rw [updateRampupBoostMode, hsession]
        exact if_neg hflag
      have hold : (boostOf session).rampupBoostActive = !wanted := by
        rw [boostOf]
        cases hwanted : wanted with
        | true | false => simpa [hwanted] using hflag
      rw [hresult]
      apply rampupMatches_voteRampupBoostLocked wanted hmatches hnode hquiet
        hothers hstate hupdated rfl hold rfl
      cases wanted with
      | true => simp
      | false => simpa using hdefault.symm

/-! ## Runs -/

/-- The calls that concern the rampup multipliers. -/
inductive RampupCall where
  | addPowerSession (env before after : Env) (descriptor : AppHintDesc)
      (enableMetricCollection : Bool) (threadIds : List TaskId)
  | removePowerSession (env : Env) (sessionId : SessionId)
  | setThreadsFromPowerSession (before after : Env) (sessionId : SessionId)
      (threadIds : List TaskId)
  | pause (env : Env) (sessionId : SessionId)
  | resume (env : Env) (sessionId : SessionId)
  | updateRampupBoostMode (sessionId : SessionId)
      (jankyLevel : SessionJankyLevel)

/-- The calls as the hint sessions make them, with the two values of the
profile. -/
def RampupCall.toCall (default high : Int) : RampupCall → Call
  | .addPowerSession env before after descriptor enableMetricCollection
      threadIds =>
      .addPowerSession env before after descriptor enableMetricCollection
        threadIds
  | .removePowerSession env sessionId => .removePowerSession env sessionId
  | .setThreadsFromPowerSession before after sessionId threadIds =>
    .setThreadsFromPowerSession before after sessionId threadIds
  | .pause env sessionId => .pause env sessionId
  | .resume env sessionId => .resume env sessionId
  | .updateRampupBoostMode sessionId jankyLevel =>
    .updateRampupBoostMode sessionId jankyLevel default high

def rampupStep (default high : Int) (manager : PowerSessionManager)
    (call : RampupCall) : Option PowerSessionManager :=
  manager.step (call.toCall default high)

/-- The threads that a boosting session gains or loses by the call are boosted
by another session. -/
def RelinksBoostedThreads (manager : PowerSessionManager) : RampupCall → Prop
  | .addPowerSession _ _ after descriptor _ threadIds =>
    manager.KeepsBoostedThreads descriptor.sessionId
      (liveThreads after threadIds)
  | .removePowerSession _ sessionId =>
    manager.KeepsBoostedThreads sessionId []
  | .setThreadsFromPowerSession _ after sessionId threadIds =>
    manager.KeepsBoostedThreads sessionId (liveThreads after threadIds)
  | _ => True

theorem boostingActive_onSession {change : BoostState → BoostState}
    (hactive : manager.BoostingActive)
    (hboost : next.boost = onSession manager.boost target change)
    (hchange : ∀ state,
      (state.rampupBoostActive = true → state.isActive = true) →
        (change state).rampupBoostActive = true →
          (change state).isActive = true) :
    next.BoostingActive := by
  intro sessionId state hstate
  rw [hboost] at hstate
  by_cases hsession : sessionId = target
  · rw [hsession, onSession_self] at hstate
    obtain ⟨old, hold, rfl⟩ := Option.map_eq_some_iff.mp hstate
    exact hchange old (hactive target old hold)
  · rw [onSession_of_ne change hsession] at hstate
    exact hactive sessionId state hstate

variable {call : RampupCall}

theorem boostingActive_step (hactive : manager.BoostingActive)
    (hstep : rampupStep default high manager call = some next) :
    next.BoostingActive := by
  cases call with
  | addPowerSession env before after descriptor =>
      cases hstep
      cases hboost : manager.boost descriptor.sessionId with
      | some state =>
        rw [addPowerSession_of_some _ _ _ _ _ _ _ hboost]
        exact boostingActive_onSession hactive
          (boost_setThreadsFromPowerSession _ _ _ _ _) fun _ _ _ => rfl
      | none =>
        intro sessionId state hstate
        rw [boost_addPowerSession_of_none _ _ _ _ _ _ _ hboost] at hstate
        by_cases hsession : sessionId = descriptor.sessionId
        · rw [hsession, Function.update_self] at hstate
          cases hstate
          exact fun _ => rfl
        · rw [Function.update_of_ne hsession] at hstate
          exact hactive sessionId state hstate
  | removePowerSession env target =>
    intro sessionId state hstate
    rw [boost_removePowerSession manager hstep] at hstate
    by_cases hsession : sessionId = target
    · rw [hsession, Function.update_self] at hstate
      cases hstate
    · rw [Function.update_of_ne hsession] at hstate
      exact hactive sessionId state hstate
  | setThreadsFromPowerSession =>
    cases hstep
    exact boostingActive_onSession hactive
      (boost_setThreadsFromPowerSession _ _ _ _ _) fun _ _ _ => rfl
  | pause =>
    cases hstep
    apply boostingActive_onSession hactive (boost_pause _ _ _)
    intro state hold
    rw [pausedBoost]
    split_ifs
    · exact fun hboosting => absurd hboosting Bool.false_ne_true
    · exact hold
  | resume =>
    cases hstep
    apply boostingActive_onSession hactive (boost_resume _ _ _)
    intro state hold
    rw [resumedBoost]
    split_ifs
    · exact hold
    · exact fun _ => rfl
  | updateRampupBoostMode =>
    cases hstep
    apply boostingActive_onSession hactive
      (boost_updateRampupBoostMode _ _ _ _ _)
    intro state _ hboosting
    exact (Bool.and_eq_true_iff.mp hboosting).1

theorem rampupNode_step
    (hstep : rampupStep default high manager call = some next) :
    next.mTaskRampupMultNode = manager.mTaskRampupMultNode := by
  cases call with
  | addPowerSession =>
      cases hstep
      exact (Quiet.addPowerSession _ _ _ _ _ _ _).rampupNode
  | removePowerSession =>
    exact (Quiet.removePowerSession hstep).rampupNode
  | setThreadsFromPowerSession =>
    cases hstep
    exact (Quiet.setThreadsFromPowerSession _ _ _ _ _).rampupNode
  | pause =>
    cases hstep
    exact (Frame.pause _ _ _).rampupNode
  | resume =>
    cases hstep
    exact (Quiet.resume _ _ _).rampupNode
  | updateRampupBoostMode =>
    cases hstep
    exact (Frame.updateRampupBoostMode _ _ _ _ _).rampupNode

/-- One call keeps the multipliers in step with the sessions exactly when it
relinks boosted threads only. -/
theorem rampupMatches_step_iff (hdefault : high ≠ default)
    (hbackground : high ≠ kBGRampupVal)
    (hmatches : RampupMatches high manager)
    (hnode : manager.mTaskRampupMultNode = true)
    (hactive : manager.BoostingActive)
    (hstep : rampupStep default high manager call = some next) :
    RampupMatches high next ↔ manager.RelinksBoostedThreads call := by
  cases call with
  | addPowerSession env before after descriptor enableMetricCollection
      threadIds =>
      cases hstep
      apply rampupMatches_relink_iff hmatches
        (Quiet.addPowerSession _ _ _ _ _ _ _)
      · intro other hne
        cases hboost : manager.boost descriptor.sessionId with
        | some state =>
          rw [addPowerSession_of_some _ _ _ _ _ _ _ hboost,
            boost_setThreadsFromPowerSession, onSession_of_ne _ hne]
        | none =>
          rw [boost_addPowerSession_of_none _ _ _ _ _ _ _ hboost,
            Function.update_of_ne hne]
      · exact boosts_addPowerSession env before after descriptor
          enableMetricCollection threadIds
  | removePowerSession =>
    have hboost := boost_removePowerSession manager hstep
    apply rampupMatches_relink_iff hmatches (Quiet.removePowerSession hstep)
    · intro other hne
      rw [hboost, Function.update_of_ne hne]
    · intro tid
      rw [boosts_iff, hboost, Function.update_self]
      simp
  | setThreadsFromPowerSession before after target threadIds =>
    cases hstep
    apply rampupMatches_relink_iff hmatches
      (Quiet.setThreadsFromPowerSession _ _ _ _ _)
    · intro other hne
      rw [boost_setThreadsFromPowerSession, onSession_of_ne _ hne]
    · exact boosts_setThreadsFromPowerSession before after threadIds
  | pause env target =>
    cases hstep
    exact iff_of_true
      (rampupMatches_pause hmatches hnode hbackground env target) trivial
  | resume env target =>
    cases hstep
    exact iff_of_true (rampupMatches_resume hmatches hactive env target) trivial
  | updateRampupBoostMode target jankyLevel =>
    cases hstep
    exact iff_of_true (rampupMatches_updateRampupBoostMode hmatches hnode
      hdefault target jankyLevel) trivial

/-- The multipliers agree with the sessions all along a run exactly when every
thread that a boosting session gains or loses is boosted by another session. -/
theorem rampup_matches_iff_relinks_boosted_threads (gpuCapacityNode : Bool)
    (maxNumOfCachedSessionMetrics : Nat) (default high : Int)
    (hdefault : high ≠ default) (hbackground : high ≠ kBGRampupVal)
    (calls : List RampupCall) :
    RunHolds (rampupStep default high) (RampupMatches high)
        (init gpuCapacityNode true maxNumOfCachedSessionMetrics) calls ↔
      RunMeets (rampupStep default high) RelinksBoostedThreads
        (init gpuCapacityNode true maxNumOfCachedSessionMetrics) calls := by
  have hsound : ∀ state : PowerSessionManager,
      RampupMatches high state ∧ state.mTaskRampupMultNode = true ∧
        state.BoostingActive → RampupMatches high state :=
    fun _ hinvariant => hinvariant.1
  apply runHolds_iff_runMeets hsound
  · rintro state call after ⟨hmatches, hnode, hactive⟩ hguard hstep
    exact ⟨(rampupMatches_step_iff hdefault hbackground hmatches hnode hactive
      hstep).mpr hguard, (rampupNode_step hstep).trans hnode,
        boostingActive_step hactive hstep⟩
  · rintro state call after ⟨hmatches, hnode, hactive⟩ hguard hstep hafter
    exact hguard ((rampupMatches_step_iff hdefault hbackground hmatches hnode
      hactive hstep).mp hafter)
  · refine ⟨?_, rfl, ?_⟩
    · intro tid
      have hwritten : (init gpuCapacityNode true
          maxNumOfCachedSessionMetrics).writtenRampupMult tid = none := rfl
      rw [hwritten]
      refine iff_of_false (fun hnone => Option.some_ne_none _ hnone.symm) ?_
      rintro ⟨sessionId, hboosts⟩
      rw [boosts_iff, boost_init] at hboosts
      obtain ⟨state, hstate, -⟩ := hboosts
      cases hstate
    · intro sessionId state hstate
      rw [boost_init] at hstate
      cases hstate

/-- A session that is created, boosted and paused keeps its threads. -/
theorem rampup_matches_when_paused :
    RunHolds (rampupStep 2 4) (RampupMatches 4) (init true true 4)
      [.addPowerSession (sampleEnv 0) (sampleEnv 0) (sampleEnv 0)
          (sampleDescriptor 1 [7]) false [7],
        .updateRampupBoostMode 1 .severe, .pause (sampleEnv 10) 1] := by
  apply (rampup_matches_iff_relinks_boosted_threads true 4 2 4 (by decide)
    (by decide) _).mpr
  intro next hadd
  refine ⟨?_, fun boosted hboosted => ⟨trivial, fun paused hpaused =>
    ⟨trivial, trivial⟩⟩⟩
  intro session hsession
  cases hsession

/-- A session is boosted and closed: its thread keeps the high multiplier. -/
theorem rampup_not_always_matching :
    ¬ ∀ manager, Reachable (rampupStep 2 4) (init true true 4) manager →
      RampupMatches 4 manager := by
  intro hmatches
  obtain ⟨manager, hrun, hwritten, hids⟩ : ∃ manager,
      run (rampupStep 2 4) (init true true 4)
        [.addPowerSession (sampleEnv 0) (sampleEnv 0) (sampleEnv 0)
            (sampleDescriptor 1 [7]) false [7],
          .updateRampupBoostMode 1 .severe,
          .removePowerSession (sampleEnv 10) 1] = some manager ∧
        manager.writtenRampupMult 7 = some 4 ∧
        manager.mSessionTaskMap.getSessionIds 7 = [] := ⟨_, rfl, rfl, rfl⟩
  obtain ⟨sessionId, session, hsession, -, htid⟩ :=
    (hmatches manager ⟨_, hrun⟩ 7).mp hwritten
  have hmem := (SessionLinks.mem_getSessionIds_iff 7 sessionId).mpr
    ⟨session, hsession, htid⟩
  rw [hids] at hmem
  exact List.not_mem_nil hmem

end HardwareInterfaces.SessionManager.PowerSessionManager

import HardwareInterfaces.Core.Maximum
import HardwareInterfaces.Power.SessionEffects
import HardwareInterfaces.Power.CallFrame

/-!
# Aggregating the votes of the sessions

Two values are aggregated over the sessions.  The uclamp range of a thread is
narrowed by the active sessions of the thread.  The GPU capacity is the largest
request of all the sessions in the map: the inactive ones are counted, and so
is a session that is being closed, because the capacity is written before it
leaves the map.  This file compares what is written with the maximum over the
sessions that should count.
-/

namespace HardwareInterfaces.SessionManager.PowerSessionManager

open AdpfTypes Maximum SessionTaskMap Transition UClampVoter

/-! ## The uclamp range of a thread -/

/-- The active sessions in the list of a thread. -/
def activeSessions (manager : PowerSessionManager) (taskId : TaskId) :
    List Session :=
  ((manager.mSessionTaskMap.getSessionIds taskId).filterMap
    manager.session).filter fun session => session.value.isActive

/-- A session that is not active leaves the range of every thread alone. -/
theorem getTaskVoteRange_eq_foldl_active (manager : PowerSessionManager)
    (taskId : TaskId) (timePoint : TimePoint) (base : Option Int)
    (offset : Int) :
    manager.mSessionTaskMap.getTaskVoteRange taskId timePoint UclampRange.full
        base offset =
      (manager.activeSessions taskId).foldl
        (fun range session => RawSessionTaskMap.confineBySession timePoint base
          offset range session.value) UclampRange.full := by
  rw [SessionLinks.getTaskVoteRange_eq, activeSessions, List.foldl_filter]
  congr 1
  funext range session
  cases hactive : session.value.isActive with
  | true => rfl
  | false => simp [RawSessionTaskMap.confineBySession, hactive]

/-- The session holds other votes. -/
def withVotes (manager : PowerSessionManager) (sessionId : SessionId)
    (votes : Votes) : PowerSessionManager :=
  manager.modifySession sessionId fun value => { value with votes := votes }

/-- The ranges of all threads are the same whatever votes the session holds. -/
def VotesIgnored (manager : PowerSessionManager) (sessionId : SessionId) :
    Prop :=
  ∀ votes taskId timePoint base offset,
    (manager.withVotes sessionId votes).mSessionTaskMap.getTaskVoteRange taskId
        timePoint UclampRange.full base offset =
      manager.mSessionTaskMap.getTaskVoteRange taskId timePoint
        UclampRange.full base offset

theorem session_withVotes (manager : PowerSessionManager)
    (sessionId : SessionId) (votes : Votes) :
    (manager.withVotes sessionId votes).session =
      Function.update manager.session sessionId
        ((manager.session sessionId).map fun session =>
          { session with value := { session.value with votes := votes } }) :=
  SessionLinks.session_modifySession sessionId _

section

variable (timePoint : TimePoint) (base : Option Int) (offset : Int)
  (range : UclampRange)

theorem uclampMin_confineBySession {value : SessionValue}
    (hactive : value.isActive = true) :
    (RawSessionTaskMap.confineBySession timePoint base offset range
      value).uclampMin = (value.votes.getUclampRange range timePoint).uclampMin := by
  rw [RawSessionTaskMap.confineBySession, if_pos hactive]
  dsimp only
  split <;> rfl

theorem uclampMin_le_confineBySession (value : SessionValue) :
    range.uclampMin ≤ (RawSessionTaskMap.confineBySession timePoint base offset
      range value).uclampMin := by
  have hconfine : ∀ (current : UclampRange)
      (entry : Sigma fun _ : VoteId => CpuVote),
      current.uclampMin ≤ (confine current entry.2 timePoint).uclampMin := by
    intro current entry
    rw [confine]
    split_ifs
    · exact le_max_left _ _
    · exact le_refl _
  cases hactive : value.isActive with
  | true =>
    rw [uclampMin_confineBySession timePoint base offset range hactive]
    exact measure_le_foldl hconfine _ range
  | false => simp [RawSessionTaskMap.confineBySession, hactive]

end

/-- A vote that asks for more than a given minimum, at time zero. -/
private def votesAbove (uclampMin : Int) : Votes :=
  Votes.empty.addCpu AdpfVoteType.cpuVoteDefault.toInt
    ⟨⟨true, 0, 0⟩, ⟨uclampMin + 1, kUclampMax⟩⟩

variable {sessionId : SessionId} {session : Session}

private theorem uclampMin_lt_of_votesAbove {manager : PowerSessionManager}
    {taskId : TaskId} (hsession : manager.session sessionId = some session)
    (hactive : session.value.isActive = true)
    (htask : taskId ∈ session.linkedTasks) (uclampMin : Int) :
    uclampMin <
      ((manager.withVotes sessionId
        (votesAbove uclampMin)).mSessionTaskMap.getTaskVoteRange taskId 0
          UclampRange.full none 0).uclampMin := by
  have hids : sessionId ∈ (manager.withVotes sessionId
      (votesAbove uclampMin)).mSessionTaskMap.getSessionIds taskId :=
    (SessionLinks.getSessionIds_modifySession ..).symm ▸
      (SessionLinks.mem_getSessionIds_iff taskId sessionId).mpr
        ⟨session, hsession, htask⟩
  have hvoted : (manager.withVotes sessionId
      (votesAbove uclampMin)).mSessionTaskMap.session sessionId =
        some { session with
          value := { session.value with votes := votesAbove uclampMin } } := by
    refine (congrFun (session_withVotes manager sessionId _) sessionId).trans ?_
    rw [Function.update_self, hsession]
    rfl
  rw [SessionLinks.getTaskVoteRange_eq]
  refine le_measure_foldl_of_mem
    (fun range other => uclampMin_le_confineBySession 0 none 0 range
      other.value) ?_ (List.mem_filterMap.mpr ⟨sessionId, hids, hvoted⟩)
    UclampRange.full
  intro range
  rw [uclampMin_confineBySession 0 none 0 range (by exact hactive)]
  exact le_max_right _ _

/-- Exactly the sessions that are inactive or have no threads are ignored. -/
theorem votesIgnored_iff (manager : PowerSessionManager)
    (sessionId : SessionId) :
    manager.VotesIgnored sessionId ↔
      ∀ state, manager.boost sessionId = some state →
        state.isActive = true → state.linkedTasks = [] := by
  constructor
  · intro hignored state hstate hactive
    obtain ⟨session, hsession, rfl⟩ := Option.map_eq_some_iff.mp hstate
    apply List.eq_nil_iff_forall_not_mem.mpr
    intro taskId htask
    have habove := uclampMin_lt_of_votesAbove hsession hactive htask
      (manager.mSessionTaskMap.getTaskVoteRange taskId 0 UclampRange.full none
        0).uclampMin
    rw [hignored] at habove
    exact lt_irrefl _ habove
  · intro hunlinked votes taskId timePoint base offset
    rw [getTaskVoteRange_eq_foldl_active, getTaskVoteRange_eq_foldl_active]
    congr 1
    rw [activeSessions, activeSessions, List.filter_filterMap,
      List.filter_filterMap, session_withVotes]
    rw [show (manager.withVotes sessionId votes).mSessionTaskMap.getSessionIds
      taskId = _ from SessionLinks.getSessionIds_modifySession ..]
    apply List.filterMap_congr
    intro other hother
    by_cases hsame : other = sessionId
    · subst hsame
      obtain ⟨session, hsession, htask⟩ :=
        (SessionLinks.mem_getSessionIds_iff taskId other).mp hother
      have hinactive : session.value.isActive ≠ true := by
        intro hactive
        have hnone := hunlinked (boostOf session)
          (congrArg (Option.map boostOf) hsession) hactive
        exact List.ne_nil_of_mem htask hnone
      have hfound : manager.session other = some session := hsession
      rw [Function.update_self, hfound]
      simp [Option.filter, hinactive]
    · rw [Function.update_of_ne hsame]

/-! ## The GPU requests -/

/-- The in-range GPU requests of the sessions that are counted, given their id
and whether they are active. -/
def gpuRequests (manager : PowerSessionManager)
    (counted : SessionId → Bool → Prop) (timePoint : TimePoint) :
    Set Cycles :=
  { capacity | ∃ sessionId session, manager.session sessionId = some session ∧
    counted sessionId session.value.isActive ∧
      session.value.votes.getGpuCapacityRequest timePoint = some capacity }

/-- Every request that is not counted is at most zero or at most one that
is. -/
def RequestsDominated (manager : PowerSessionManager)
    (counted : SessionId → Bool → Prop) (timePoint : TimePoint) : Prop :=
  ∀ excluded ∈ manager.gpuRequests
      (fun sessionId isActive => ¬ counted sessionId isActive) timePoint,
    ∃ kept ∈ insert 0 (manager.gpuRequests counted timePoint),
      excluded ≤ kept

/-- The capacity last written to the GPU node. -/
def writtenGpuCapacity (manager : PowerSessionManager) : Option Cycles :=
  manager.log.findSome? fun
    | .setGpuCapacity capacity => some capacity
    | _ => none

variable {manager : PowerSessionManager}

theorem isGreatest_getSessionsGpuCapacity (manager : PowerSessionManager)
    (timePoint : TimePoint) :
    IsGreatest (insert 0 (manager.gpuRequests (fun _ _ => True) timePoint))
      (manager.mSessionTaskMap.getSessionsGpuCapacity timePoint) := by
  have hrequests : insert 0 (manager.gpuRequests (fun _ _ => True) timePoint) =
      insert 0 (Set.image (fun entry : Sigma fun _ : SessionId => ValEntry =>
        ((manager.mSessionTaskMap.val.heap
          entry.2.val).votes.getGpuCapacityRequest timePoint).getD 0)
          {entry | entry ∈ manager.mSessionTaskMap.val.mSessions.entries}) := by
    ext capacity
    rw [Set.mem_insert_iff, Set.mem_insert_iff]
    apply or_congr_right'
    intro hpositive
    constructor
    · rintro ⟨sessionId, session, hsession, -, hrequest⟩
      obtain ⟨entry, hlookup, hvalue, -⟩ :=
        SessionLinks.lookup_of_session hsession
      refine ⟨⟨sessionId, entry⟩, AList.mem_lookup_iff.mp hlookup, ?_⟩
      dsimp only
      rw [hvalue, hrequest]
      rfl
    · rintro ⟨⟨sessionId, entry⟩, hentry, hrequest⟩
      have hlookup := AList.mem_lookup_iff.mpr hentry
      refine ⟨sessionId, ⟨(manager.mSessionTaskMap.val.heap
        entry.val).toSessionValue, entry.linkedTasks⟩, ?_, trivial, ?_⟩
      · exact Option.map_eq_some_iff.mpr ⟨entry, hlookup, rfl⟩
      · dsimp only at hrequest
        cases hfound : (manager.mSessionTaskMap.val.heap
            entry.val).votes.getGpuCapacityRequest timePoint with
        | none =>
          rw [hfound] at hrequest
          exact absurd hrequest.symm hpositive
        | some found =>
          rw [hfound] at hrequest
          exact congrArg some hrequest
  rw [hrequests]
  exact isGreatest_foldl_max _ _ 0

variable {counted : SessionId → Bool → Prop} {timePoint : TimePoint}

/-- A maximum over all sessions is the maximum over those that count exactly
when the requests of the others are dominated. -/
theorem isGreatest_counted_iff {capacity : Cycles} (hgreatest : IsGreatest
      (insert 0 (manager.gpuRequests (fun _ _ => True) timePoint)) capacity) :
    IsGreatest (insert 0 (manager.gpuRequests counted timePoint)) capacity ↔
      manager.RequestsDominated counted timePoint := by
  have hpart : insert 0 (manager.gpuRequests counted timePoint) ⊆
      insert 0 (manager.gpuRequests (fun _ _ => True) timePoint) := by
    apply Set.insert_subset_insert
    rintro request ⟨sessionId, session, hsession, -, hrequest⟩
    exact ⟨sessionId, session, hsession, trivial, hrequest⟩
  rw [isGreatest_part_iff hgreatest hpart]
  constructor
  · rintro hdominated request ⟨sessionId, session, hsession, -, hrequest⟩
    by_cases hkept : request ∈ insert 0 (manager.gpuRequests counted timePoint)
    · exact ⟨request, hkept, le_refl request⟩
    · exact hdominated request
        (Or.inr ⟨sessionId, session, hsession, trivial, hrequest⟩) hkept
  · rintro hdominated excluded (rfl | hexcluded) hout
    · exact absurd (Set.mem_insert _ _) hout
    · obtain ⟨sessionId, session, hsession, -, hrequest⟩ := hexcluded
      apply hdominated
      refine ⟨sessionId, session, hsession, ?_, hrequest⟩
      intro hcounted
      exact hout (Or.inr ⟨sessionId, session, hsession, hcounted, hrequest⟩)

theorem mem_gpuRequests_iff {capacity : Cycles} :
    capacity ∈ manager.gpuRequests counted timePoint ↔
      ∃ sessionId state, manager.boost sessionId = some state ∧
        counted sessionId state.isActive ∧
          state.votes.getGpuCapacityRequest timePoint = some capacity := by
  constructor
  · rintro ⟨sessionId, session, hsession, hcounted, hrequest⟩
    refine ⟨sessionId, boostOf session, ?_, hcounted, hrequest⟩
    rw [boost, hsession]
    rfl
  · rintro ⟨sessionId, state, hstate, hcounted, hrequest⟩
    obtain ⟨session, hsession, rfl⟩ := Option.map_eq_some_iff.mp hstate
    exact ⟨sessionId, session, hsession, hcounted, hrequest⟩

variable {next : PowerSessionManager} {target : SessionId}

/-- A call that rewrites one session and leaves its votes alone can only change
which requests count. -/
theorem gpuRequests_onSession {change : BoostState → BoostState}
    {countedNext : SessionId → Bool → Prop} (timePoint : TimePoint)
    (hboost : next.boost = onSession manager.boost target change)
    (hvotes : ∀ state, (change state).votes = state.votes)
    (htarget : ∀ state, manager.boost target = some state →
      (countedNext target (change state).isActive ↔
        counted target state.isActive))
    (hothers : ∀ sessionId isActive, sessionId ≠ target →
      (countedNext sessionId isActive ↔ counted sessionId isActive)) :
    next.gpuRequests countedNext timePoint =
      manager.gpuRequests counted timePoint := by
  ext capacity
  rw [mem_gpuRequests_iff, mem_gpuRequests_iff]
  apply exists_congr
  intro sessionId
  rw [hboost]
  by_cases hsession : sessionId = target
  · subst hsession
    rw [onSession_self]
    cases hstate : manager.boost sessionId with
    | none => simp
    | some state => simp [htarget state hstate, hvotes]
  · rw [onSession_of_ne change hsession]
    simp only [hothers _ _ hsession]

variable {env : Env}

theorem gpuRequests_removePowerSession
    (hremove : manager.removePowerSession env target = some next)
    (timePoint : TimePoint) :
    next.gpuRequests (fun _ _ => True) timePoint =
      manager.gpuRequests (fun sessionId _ => sessionId ≠ target)
        timePoint := by
  ext capacity
  rw [mem_gpuRequests_iff, mem_gpuRequests_iff]
  apply exists_congr
  intro sessionId
  rw [boost_removePowerSession manager hremove]
  by_cases hsession : sessionId = target
  · simp [hsession]
  · simp [hsession]

/-! ## What is written -/

theorem writtenGpuCapacity_collectSessionMetric (env : Env)
    (sessionId : SessionId) :
    (manager.collectSessionMetric env sessionId).writtenGpuCapacity =
      manager.writtenGpuCapacity := by
  rw [collectSessionMetric]
  split
  · rfl
  · rw [collectMetric]
    split_ifs <;> rfl

theorem writtenGpuCapacity_setTaskProfilesAll (tids : List TaskId)
    (profiles : List String) :
    (manager.setTaskProfilesAll tids profiles).writtenGpuCapacity =
      manager.writtenGpuCapacity := by
  rw [setTaskProfilesAll]
  induction tids generalizing manager with
  | nil => rfl
  | cons tid rest ih => exact ih

/-- Applying the votes of a live session writes the maximum of all requests. -/
theorem exists_written_applyCpuAndGpuVotes
    (hnext : manager.applyCpuAndGpuVotes env sessionId timePoint = next)
    (hlive : (next.boost sessionId).isSome)
    (hnode : next.mGpuCapacityNode = true)
    (hon : env.adpfProfile.mGpuBoostOn = some true) :
    ∃ capacity, next.writtenGpuCapacity = some capacity ∧
      IsGreatest (insert 0 (next.gpuRequests (fun _ _ => True) timePoint))
        capacity := by
  subst hnext
  rw [applyCpuAndGpuVotes] at hlive hnode ⊢
  generalize manager.applyUclampLocked env sessionId timePoint = current at *
  have hboost := boost_applyGpuVotesLocked current env sessionId timePoint
  have hnode' := (Quiet.applyGpuVotesLocked current env sessionId
    timePoint).gpuNode.symm.trans hnode
  have hrequests : (current.applyGpuVotesLocked env sessionId
      timePoint).gpuRequests (fun _ _ => True) timePoint =
        current.gpuRequests (fun _ _ => True) timePoint := by
    ext capacity
    rw [mem_gpuRequests_iff, mem_gpuRequests_iff, hboost]
  rw [hboost, isSome_boost] at hlive
  obtain ⟨session, hsession⟩ := Option.isSome_iff_exists.mp hlive
  refine ⟨_, ?_, hrequests ▸ isGreatest_getSessionsGpuCapacity current
    timePoint⟩
  simp only [applyGpuVotesLocked, hsession, hnode', hon]
  rfl

/-! ## Closing a session -/

/-- What `removePowerSession` has written when it returns is the maximum over
all sessions, the closed one included. -/
theorem exists_written_removePowerSession
    (hnode : manager.mGpuCapacityNode = true)
    (hon : env.adpfProfile.mGpuBoostOn = some true)
    (hremove : manager.removePowerSession env sessionId = some next) :
    ∃ capacity, next.writtenGpuCapacity = some capacity ∧
      IsGreatest (insert 0 (manager.gpuRequests (fun _ _ => True) env.now))
        capacity := by
  obtain ⟨⟨session, hsession⟩, tids, profiles, rfl⟩ :=
    exists_of_removePowerSession hremove
  have hboost := boost_forceSessionActive manager env sessionId false
  have hrequests : (manager.forceSessionActive env sessionId
      false).gpuRequests (fun _ _ => True) env.now =
        manager.gpuRequests (fun _ _ => True) env.now :=
    gpuRequests_onSession env.now hboost (fun _ => rfl)
      (fun _ _ => Iff.rfl) fun _ _ _ => Iff.rfl
  have hlive : ((manager.forceSessionActive env sessionId false).boost
      sessionId).isSome := by
    rw [hboost, onSession_self, Option.isSome_map, isSome_boost, hsession]
    rfl
  have hnode' := (Quiet.forceSessionActive manager env sessionId
    false).gpuNode.trans hnode
  have happly : (manager.modifySession sessionId fun value =>
      { value with isActive := false }).applyCpuAndGpuVotes env sessionId
        env.now = manager.forceSessionActive env sessionId false := by
    rw [forceSessionActive, hsession]
  obtain ⟨capacity, hwritten, hgreatest⟩ :=
    exists_written_applyCpuAndGpuVotes happly hlive hnode' hon
  rw [hrequests] at hgreatest
  refine ⟨capacity, ?_, hgreatest⟩
  rw [writtenGpuCapacity_setTaskProfilesAll]
  exact (writtenGpuCapacity_collectSessionMetric env sessionId).trans hwritten

/-- The capacity left behind by a closed session is that of the remaining
sessions exactly when the request of the closed one is dominated by theirs. -/
theorem gpu_capacity_after_close_iff (manager next : PowerSessionManager)
    (env : Env) (sessionId : SessionId)
    (hnode : manager.mGpuCapacityNode = true)
    (hon : env.adpfProfile.mGpuBoostOn = some true)
    (hremove : manager.removePowerSession env sessionId = some next) :
    (∃ capacity, next.writtenGpuCapacity = some capacity ∧
      IsGreatest (insert 0 (next.gpuRequests (fun _ _ => True) env.now))
        capacity) ↔
      manager.RequestsDominated (fun other _ => other ≠ sessionId)
        env.now := by
  obtain ⟨written, hwritten, hgreatest⟩ :=
    exists_written_removePowerSession hnode hon hremove
  rw [gpuRequests_removePowerSession hremove,
    ← isGreatest_counted_iff hgreatest, hwritten]
  constructor
  · rintro ⟨capacity, hsame, hkept⟩
    cases hsame
    exact hkept
  · intro hkept
    exact ⟨written, rfl, hkept⟩

/-- A manager with one session, which asks for a GPU capacity of 300 until
time 100. -/
def gpuBoostedManager : PowerSessionManager :=
  ((init true true 4).addPowerSession (sampleEnv 0) (sampleEnv 0) (sampleEnv 0)
    (sampleDescriptor 1 [7]) false [7]).voteSetGpu (sampleEnv 0) 1
      .gpuCapacity 300 0 100

theorem reachable_gpuBoostedManager :
    Reachable step (init true true 4) gpuBoostedManager :=
  ⟨[.addPowerSession (sampleEnv 0) (sampleEnv 0) (sampleEnv 0)
      (sampleDescriptor 1 [7]) false [7],
    .voteSetGpu (sampleEnv 0) 1 .gpuCapacity 300 0 100], rfl⟩

theorem boost_gpuBoostedManager_of_ne (hsession : sessionId ≠ 1) :
    gpuBoostedManager.boost sessionId = none := by
  rw [gpuBoostedManager, boost_voteSetGpu, onSession_of_ne _ hsession,
    boost_addPowerSession_of_none _ _ _ _ _ _ _ (boost_init true true 4 _)]
  exact (Function.update_of_ne hsession _ _).trans (boost_init true true 4 _)

/-- A second session asks for 500 as long as the first asks for 300. -/
def gpuSharedManager : PowerSessionManager :=
  (gpuBoostedManager.addPowerSession (sampleEnv 0) (sampleEnv 0) (sampleEnv 0)
    (sampleDescriptor 2 [8]) false [8]).voteSetGpu (sampleEnv 0) 2
      .gpuCapacity 500 0 100

/-- The request of the session that remains covers that of the closed one. -/
theorem gpu_capacity_after_close_covered :
    ∃ next, gpuSharedManager.removePowerSession (sampleEnv 10) 1 =
        some next ∧
      ∃ capacity, next.writtenGpuCapacity = some capacity ∧
        IsGreatest (insert 0 (next.gpuRequests (fun _ _ => True) 10))
          capacity := by
  have hlive : (gpuSharedManager.removePowerSession (sampleEnv 10)
      1).isSome = true := by decide +kernel
  obtain ⟨next, hremove⟩ := Option.isSome_iff_exists.mp hlive
  refine ⟨next, hremove, (gpu_capacity_after_close_iff gpuSharedManager next
    (sampleEnv 10) 1 (by decide +kernel) rfl hremove).mpr ?_⟩
  rintro capacity ⟨sessionId, session, hsession, hclosed, hrequest⟩
  have hone : sessionId = 1 := not_not.mp hclosed
  have hclosing : (gpuSharedManager.session 1).bind (fun session =>
      session.value.votes.getGpuCapacityRequest 10) = some 300 := by
    decide +kernel
  have hkept : (gpuSharedManager.session 2).bind (fun session =>
      session.value.votes.getGpuCapacityRequest 10) = some 500 := by
    decide +kernel
  rw [hone] at hsession
  rw [hsession, Option.bind_some] at hclosing
  cases hrequest.symm.trans hclosing
  obtain ⟨other, hother, hkept⟩ := Option.bind_eq_some_iff.mp hkept
  have hdistinct : (2 : SessionId) ≠ 1 := by decide
  exact ⟨500, Set.mem_insert_of_mem _ ⟨2, other, hother, hdistinct, hkept⟩,
    by decide⟩

/-- At the closing of the only session, its request of 300 stays written. -/
theorem gpu_capacity_left_after_close :
    ¬ ∀ manager, Reachable step (init true true 4) manager →
      ∀ env sessionId next, manager.mGpuCapacityNode = true →
        env.adpfProfile.mGpuBoostOn = some true →
          manager.removePowerSession env sessionId = some next →
            ∃ capacity, next.writtenGpuCapacity = some capacity ∧
              IsGreatest
                (insert 0 (next.gpuRequests (fun _ _ => True) env.now))
                capacity := by
  intro hclosed
  obtain ⟨next, hremove, hwritten⟩ : ∃ next,
      gpuBoostedManager.removePowerSession (sampleEnv 10) 1 = some next ∧
        next.writtenGpuCapacity = some 300 := ⟨_, rfl, rfl⟩
  obtain ⟨capacity, hcapacity, hgreatest⟩ := hclosed gpuBoostedManager
    reachable_gpuBoostedManager (sampleEnv 10) 1 next rfl rfl hremove
  rw [hwritten, Option.some.injEq] at hcapacity
  rcases hgreatest.1 with hzero | hrequest
  · rw [← hcapacity] at hzero
    exact absurd hzero (by decide)
  · obtain ⟨sessionId, state, hstate, -⟩ := mem_gpuRequests_iff.mp hrequest
    rw [boost_removePowerSession _ hremove] at hstate
    by_cases hsession : sessionId = 1
    · rw [hsession, Function.update_self] at hstate
      cases hstate
    · rw [Function.update_of_ne hsession,
        boost_gpuBoostedManager_of_ne hsession] at hstate
      cases hstate

/-! ## Pausing a session -/

/-- What `pause` writes is the maximum over all sessions in the state that it
leaves. -/
theorem exists_written_pause (hnode : manager.mGpuCapacityNode = true)
    (hon : env.adpfProfile.mGpuBoostOn = some true)
    (hsession : manager.session sessionId = some session)
    (hactive : session.value.isActive = true) :
    ∃ capacity, (manager.pause env sessionId).writtenGpuCapacity =
        some capacity ∧
      IsGreatest (insert 0 ((manager.pause env sessionId).gpuRequests
        (fun _ _ => True) env.now)) capacity := by
  obtain ⟨current, happly⟩ : ∃ current : PowerSessionManager,
      current.applyCpuAndGpuVotes env sessionId env.now =
        manager.pause env sessionId := by
    simp only [pause, hsession, hactive, if_true]
    exact ⟨_, rfl⟩
  apply exists_written_applyCpuAndGpuVotes happly _ _ hon
  · rw [boost_pause, onSession_self, Option.isSome_map, isSome_boost, hsession]
    rfl
  · exact (Frame.pause manager env sessionId).gpuNode.trans hnode

/-- After `pause`, the sessions that still count are the other active ones. -/
theorem gpuRequests_pause (hsession : manager.session target = some session)
    (hactive : session.value.isActive = true)
    {countedNext : SessionId → Bool → Prop}
    (htarget : countedNext target false ↔ counted target true)
    (hothers : ∀ sessionId isActive, sessionId ≠ target →
      (countedNext sessionId isActive ↔ counted sessionId isActive))
    (timePoint : TimePoint) :
    (manager.pause env target).gpuRequests countedNext timePoint =
      manager.gpuRequests counted timePoint := by
  apply gpuRequests_onSession timePoint (boost_pause manager env target) _ _
    hothers
  · intro state
    rw [pausedBoost]
    split_ifs <;> rfl
  · intro state hstate
    rw [boost, hsession, Option.map_some, Option.some.injEq] at hstate
    have hstateActive : state.isActive = true := by
      rw [← hstate]
      exact hactive
    rw [pausedBoost, if_pos hstateActive, hstateActive]
    exact htarget

/-- The uclamp ranges never count an inactive session.  The GPU capacity, and
the capacity that `pause` writes, leave the inactive sessions out exactly when
their requests are dominated by those of the active ones. -/
theorem inactive_sessions_not_counted_iff (manager : PowerSessionManager)
    (timePoint : TimePoint) :
    ((∀ taskId base offset,
        manager.mSessionTaskMap.getTaskVoteRange taskId timePoint
            UclampRange.full base offset =
          (manager.activeSessions taskId).foldl
            (fun range session => RawSessionTaskMap.confineBySession timePoint
              base offset range session.value) UclampRange.full) ∧
      IsGreatest
        (insert 0 (manager.gpuRequests (fun _ isActive => isActive = true)
          timePoint))
        (manager.mSessionTaskMap.getSessionsGpuCapacity timePoint) ↔
      manager.RequestsDominated (fun _ isActive => isActive = true)
        timePoint) ∧
    ∀ env sessionId session, manager.mGpuCapacityNode = true →
      env.adpfProfile.mGpuBoostOn = some true →
      manager.session sessionId = some session →
      session.value.isActive = true →
        ((∃ capacity, (manager.pause env sessionId).writtenGpuCapacity =
            some capacity ∧
          IsGreatest (insert 0 ((manager.pause env sessionId).gpuRequests
            (fun _ isActive => isActive = true) env.now)) capacity) ↔
        manager.RequestsDominated (fun other isActive =>
          other ≠ sessionId ∧ isActive = true) env.now) := by
  constructor
  · rw [← isGreatest_counted_iff
      (isGreatest_getSessionsGpuCapacity manager timePoint)]
    apply and_iff_right
    intro taskId base offset
    exact manager.getTaskVoteRange_eq_foldl_active taskId timePoint base offset
  · intro env sessionId session hnode hon hsession hactive
    have hdominated : (manager.pause env sessionId).RequestsDominated
        (fun _ isActive => isActive = true) env.now ↔
          manager.RequestsDominated (fun other isActive =>
            other ≠ sessionId ∧ isActive = true) env.now := by
      have hkept : (manager.pause env sessionId).gpuRequests
          (fun _ isActive => isActive = true) env.now =
            manager.gpuRequests (fun other isActive =>
              other ≠ sessionId ∧ isActive = true) env.now :=
        gpuRequests_pause hsession hactive (by simp) (by simp +contextual)
          env.now
      have hexcluded : (manager.pause env sessionId).gpuRequests
          (fun _ isActive => ¬ isActive = true) env.now =
            manager.gpuRequests (fun other isActive =>
              ¬ (other ≠ sessionId ∧ isActive = true)) env.now :=
        gpuRequests_pause hsession hactive (by simp) (by simp +contextual)
          env.now
      rw [RequestsDominated, hkept, hexcluded, RequestsDominated]
    obtain ⟨written, hwritten, hgreatest⟩ :=
      exists_written_pause hnode hon hsession hactive
    rw [← hdominated, ← isGreatest_counted_iff hgreatest, hwritten]
    constructor
    · rintro ⟨capacity, hsame, hkept⟩
      cases hsame
      exact hkept
    · intro hkept
      exact ⟨written, rfl, hkept⟩

/-- The only session is paused, and its request of 300 still counts. -/
theorem paused_session_counted :
    ¬ ∀ manager, Reachable step (init true true 4) manager → ∀ timePoint,
      (∀ taskId base offset,
        manager.mSessionTaskMap.getTaskVoteRange taskId timePoint
            UclampRange.full base offset =
          (manager.activeSessions taskId).foldl
            (fun range session => RawSessionTaskMap.confineBySession timePoint
              base offset range session.value) UclampRange.full) ∧
      IsGreatest
        (insert 0 (manager.gpuRequests (fun _ isActive => isActive = true)
          timePoint))
        (manager.mSessionTaskMap.getSessionsGpuCapacity timePoint) := by
  intro hcounted
  have hreach : Reachable step (init true true 4)
      (gpuBoostedManager.pause (sampleEnv 10) 1) :=
    reachable_gpuBoostedManager.tail
      (show step gpuBoostedManager (.pause (sampleEnv 10) 1) = _ from rfl)
  obtain ⟨-, hgreatest⟩ := hcounted _ hreach 10
  have hcapacity : (gpuBoostedManager.pause (sampleEnv 10)
      1).mSessionTaskMap.getSessionsGpuCapacity 10 = 300 := rfl
  rw [hcapacity] at hgreatest
  rcases hgreatest.1 with hzero | hrequest
  · exact absurd hzero (by decide)
  · obtain ⟨sessionId, state, hstate, hactive, -⟩ :=
      mem_gpuRequests_iff.mp hrequest
    by_cases hsession : sessionId = 1
    · have hpaused : ((gpuBoostedManager.pause (sampleEnv 10) 1).boost 1).map
          BoostState.isActive = some false := rfl
      rw [hsession] at hstate
      rw [hstate, Option.map_some, hactive] at hpaused
      cases hpaused
    · rw [boost_pause, onSession_of_ne _ hsession,
        boost_gpuBoostedManager_of_ne hsession] at hstate
      cases hstate

end HardwareInterfaces.SessionManager.PowerSessionManager

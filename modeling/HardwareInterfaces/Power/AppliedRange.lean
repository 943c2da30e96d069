import HardwareInterfaces.Power.ThreadRange
import HardwareInterfaces.Power.VoteAggregation

/-!
# The bounds that reach the kernel

`applyUclampLocked` walks over the threads of a session and passes a pair of
bounds for each of them to `sched_setattr`.  As long as no active session of the
thread is power efficient, the pair is determined by the votes in range: the
largest minimum and the smallest maximum, clamped.  A thread that turns out to
be dead is unlinked in the middle of the loop, which takes nothing away from the
threads that are still to come.
-/

namespace HardwareInterfaces.SessionManager.PowerSessionManager

open AdpfTypes Maximum RunningCap SessionTaskMap UClampVoter

/-- The votes that count for a thread. -/
def threadVotes (manager : PowerSessionManager) (tid : TaskId)
    (timePoint : TimePoint) : List CpuVote :=
  (manager.activeSessions tid).flatMap fun session =>
    session.value.votes.inRangeVotes timePoint

/-- No active session of the thread is power efficient. -/
def NoneEfficient (manager : PowerSessionManager) (tid : TaskId) : Prop :=
  ∀ session ∈ manager.activeSessions tid,
    session.value.isPowerEfficient = false

/-- The largest minimum that the votes ask for, clamped. -/
def votedMin (votes : List CpuVote) : Int :=
  min (max kUclampMin
    ((votes.map fun vote => vote.mUclampRange.uclampMin).max?.getD kUclampMin))
    kUclampMax

/-- The smallest maximum that the votes ask for, raised to the minimum. -/
def votedMax (votes : List CpuVote) : Int :=
  min (max
    ((votes.map fun vote => vote.mUclampRange.uclampMax).min?.getD kUclampMax)
    (votedMin votes)) kUclampMax

/-- The effect sets bounds within the limits for the thread; they are the voted
ones if no session caps them. -/
def PairApplied (manager : PowerSessionManager) (timePoint : TimePoint)
    (tid : TaskId) (effect : Effect) : Prop :=
  ∃ uclampMin uclampMax,
    effect = .schedSetattr tid uclampMin uclampMax ∧
      0 ≤ uclampMin ∧ uclampMin ≤ uclampMax ∧ uclampMax ≤ 1024 ∧
      (manager.NoneEfficient tid →
        uclampMin = votedMin (manager.threadVotes tid timePoint) ∧
          uclampMax = votedMax (manager.threadVotes tid timePoint))

/-! ## The range of an uncapped thread -/

variable {manager : PowerSessionManager}

/-- Without a power efficient session the contributions are the votes. -/
theorem flatMap_narrowing (sessions : List Session) (timePoint : TimePoint)
    (base : Option Int)
    (hnone : ∀ session ∈ sessions.filter fun session => session.value.isActive,
      session.value.isPowerEfficient = false) :
    let items := sessions.map fun session =>
      session.value.narrowing timePoint base
    let votes := (sessions.filter fun session => session.value.isActive).flatMap
      fun session => session.value.votes.inRangeVotes timePoint
    items.flatMap Item.floors =
        votes.map (fun vote => vote.mUclampRange.uclampMin) ∧
      items.flatMap Item.ceilings =
        votes.map (fun vote => vote.mUclampRange.uclampMax) ∧
      ∀ item ∈ items, item.capped = false := by
  induction sessions with
  | nil => exact ⟨rfl, rfl, nofun⟩
  | cons session rest ih =>
    cases hactive : session.value.isActive with
    | false =>
      have hrest := ih fun other hother =>
        hnone other (by rwa [List.filter_cons_of_neg (by simp [hactive])])
      simpa [SessionValue.narrowing, hactive] using hrest
    | true =>
      have hfilter : (session :: rest).filter
          (fun session => session.value.isActive) =
            session :: rest.filter fun session => session.value.isActive :=
        List.filter_cons_of_pos hactive
      have hplain := hnone session (hfilter ▸ List.mem_cons_self)
      have hrest := ih fun other hother =>
        hnone other (hfilter ▸ List.mem_cons_of_mem session hother)
      simpa [SessionValue.narrowing, hactive, hplain] using hrest

variable {tid : TaskId}

theorem getTaskVoteRange_of_noneEfficient (hnone : manager.NoneEfficient tid)
    (timePoint : TimePoint) (base : Option Int) (offset : Int) :
    manager.mSessionTaskMap.getTaskVoteRange tid timePoint UclampRange.full
        base offset =
      { uclampMin := ((manager.threadVotes tid timePoint).map fun vote =>
          vote.mUclampRange.uclampMin).foldl max kUclampMin
        uclampMax := ((manager.threadVotes tid timePoint).map fun vote =>
          vote.mUclampRange.uclampMax).foldl min kUclampMax } := by
  obtain ⟨hfloors, hceilings, hplain⟩ := flatMap_narrowing
    ((manager.mSessionTaskMap.getSessionIds tid).filterMap manager.session)
    timePoint base hnone
  have hbounds := SessionLinks.boundsOf_getTaskVoteRange
    manager.mSessionTaskMap tid timePoint base offset
  have hmin := congrArg Bounds.floor hbounds
  have hmax := congrArg Bounds.ceiling hbounds
  rw [floor_narrowAll, floorOf, SessionLinks.narrowings] at hmin
  have hcaps : ∀ item ∈ manager.mSessionTaskMap.narrowings tid timePoint base,
      item.capped = false := hplain
  rw [ceiling_of_none_capped hcaps, uncapped, SessionLinks.narrowings] at hmax
  exact (UclampRange.mk.injEq ..).mpr
    ⟨hmin.trans (congrArg (List.foldl max kUclampMin) hfloors),
      hmax.trans (congrArg (List.foldl min kUclampMax) hceilings)⟩

/-- The update of one thread applies a pair for it. -/
theorem pairApplied_setUclamp (manager : PowerSessionManager)
    (timePoint : TimePoint) (tid : TaskId) (base : Option Int)
    (offset : Int) :
    ∃ effect, manager.PairApplied timePoint tid effect ∧
      manager.setUclamp tid (manager.mSessionTaskMap.getTaskVoteRange tid
        timePoint UclampRange.full base offset) = manager.emit effect := by
  refine ⟨_, ⟨_, _, rfl, ?_, ?_, ?_, ?_⟩, rfl⟩
  · simp [kUclampMin, kUclampMax]
  · simp [kUclampMin, kUclampMax]
  · exact min_le_right _ _
  · intro hnone
    have hrange := getTaskVoteRange_of_noneEfficient hnone timePoint base offset
    rw [hrange]
    dsimp only
    rw [List.foldl_max, List.foldl_min, votedMax, votedMin]
    simp only [kUclampMin, kUclampMax]
    omega

/-! ## The loop -/

/-- The value of some session that lists the thread. -/
def LinkedValue (manager : PowerSessionManager) (tid : TaskId)
    (value : SessionValue) : Prop :=
  ∃ sessionId session, manager.session sessionId = some session ∧
    tid ∈ session.linkedTasks ∧ session.value = value

section

variable (manager : PowerSessionManager) (tid : TaskId)

theorem mem_activeSessions_iff (session : Session) :
    session ∈ manager.activeSessions tid ↔
      (∃ sessionId, manager.session sessionId = some session ∧
        tid ∈ session.linkedTasks) ∧ session.value.isActive = true := by
  rw [activeSessions, List.mem_filter, List.mem_filterMap]
  apply and_congr_left
  intro _
  apply exists_congr
  intro sessionId
  rw [SessionLinks.mem_getSessionIds_iff]
  constructor
  · rintro ⟨⟨found, hfound, htask⟩, hsession⟩
    have hsame : manager.session sessionId = some found := hfound
    rw [hsession] at hsame
    cases hsame
    exact ⟨hsession, htask⟩
  · rintro ⟨hsession, htask⟩
    exact ⟨⟨session, hsession, htask⟩, hsession⟩

theorem mem_threadVotes_iff (timePoint : TimePoint) (vote : CpuVote) :
    vote ∈ manager.threadVotes tid timePoint ↔
      ∃ value, manager.LinkedValue tid value ∧ value.isActive = true ∧
        vote ∈ value.votes.inRangeVotes timePoint := by
  simp only [threadVotes, List.mem_flatMap, mem_activeSessions_iff]
  constructor
  · rintro ⟨session, ⟨⟨sessionId, hsession, htask⟩, hactive⟩, hvote⟩
    exact ⟨session.value, ⟨sessionId, session, hsession, htask, rfl⟩, hactive,
      hvote⟩
  · rintro ⟨value, ⟨sessionId, session, hsession, htask, rfl⟩, hactive, hvote⟩
    exact ⟨session, ⟨⟨sessionId, hsession, htask⟩, hactive⟩, hvote⟩

theorem noneEfficient_iff :
    manager.NoneEfficient tid ↔
      ∀ value, manager.LinkedValue tid value → value.isActive = true →
        value.isPowerEfficient = false := by
  simp only [NoneEfficient, mem_activeSessions_iff]
  constructor
  · rintro hnone value ⟨sessionId, session, hsession, htask, rfl⟩ hactive
    exact hnone session ⟨⟨sessionId, hsession, htask⟩, hactive⟩
  · rintro hnone session ⟨⟨sessionId, hsession, htask⟩, hactive⟩
    exact hnone session.value ⟨sessionId, session, hsession, htask, rfl⟩ hactive

end

/-- The voted bounds only depend on which votes there are. -/
theorem voted_congr {left right : List CpuVote}
    (hmem : ∀ vote, vote ∈ left ↔ vote ∈ right) :
    votedMin left = votedMin right ∧ votedMax left = votedMax right := by
  have hmin : (left.map fun vote => vote.mUclampRange.uclampMin).foldl max
      kUclampMin = (right.map fun vote => vote.mUclampRange.uclampMin).foldl
        max kUclampMin :=
    foldl_max_congr (by simp [hmem]) kUclampMin
  have hmax : (left.map fun vote => vote.mUclampRange.uclampMax).foldl min
      kUclampMax = (right.map fun vote => vote.mUclampRange.uclampMax).foldl
        min kUclampMax :=
    foldl_min_congr (by simp [hmem]) kUclampMax
  rw [List.foldl_max, List.foldl_max] at hmin
  rw [List.foldl_min, List.foldl_min] at hmax
  have hvoted : votedMin left = votedMin right := by
    rw [votedMin, votedMin, hmin]
  refine ⟨hvoted, ?_⟩
  rw [votedMax, votedMax, hvoted]
  have hle : votedMin right ≤ kUclampMax := min_le_right _ _
  simp only [kUclampMin, kUclampMax] at *
  omega

/-- A pair applied for a thread is also one for a state that links the same
sessions to it. -/
theorem PairApplied.of_linked {before : PowerSessionManager}
    {timePoint : TimePoint} {effect : Effect}
    (happlied : manager.PairApplied timePoint tid effect)
    (hlinked : ∀ value, before.LinkedValue tid value ↔
      manager.LinkedValue tid value) :
    before.PairApplied timePoint tid effect := by
  obtain ⟨uclampMin, uclampMax, heffect, hlow, hle, hhigh, hvoted⟩ := happlied
  refine ⟨uclampMin, uclampMax, heffect, hlow, hle, hhigh, ?_⟩
  intro hnone
  have hvotes : ∀ vote, vote ∈ before.threadVotes tid timePoint ↔
      vote ∈ manager.threadVotes tid timePoint := by
    intro vote
    simp only [mem_threadVotes_iff, hlinked]
  obtain ⟨hmin, hmax⟩ := voted_congr hvotes
  rw [hmin, hmax]
  apply hvoted
  rw [noneEfficient_iff] at hnone ⊢
  intro value hvalue
  exact hnone value ((hlinked value).mpr hvalue)

/-- Dropping a dead thread keeps the sessions of every thread that the session
still lists. -/
theorem linkedValue_dropDeadThread {sessionId : SessionId} {session : Session}
    {position : Nat} (hsession : manager.session sessionId = some session)
    (hstill : tid ∈ session.linkedTasks.eraseIdx position)
    (value : SessionValue) :
    LinkedValue { manager with
        mSessionTaskMap :=
          manager.mSessionTaskMap.dropDeadThread sessionId position } tid
        value ↔
      manager.LinkedValue tid value := by
  have hfound : manager.mSessionTaskMap.session sessionId = some session :=
    hsession
  have hlisted : tid ∈ session.linkedTasks := List.mem_of_mem_eraseIdx hstill
  simp only [LinkedValue, PowerSessionManager.session,
    SessionLinks.session_dropDeadThread, hfound, Option.map_some]
  apply exists_congr
  intro other
  by_cases hother : other = sessionId
  · subst hother
    simp [Function.update_self, hfound, hstill, hlisted]
  · rw [Function.update_of_ne hother]

/-- The loop applies one pair per thread.  The pairs are those of the state
`before`, as long as that state links the same sessions to the threads that are
left. -/
theorem effects_uclampLoop (env : Env) (sessionId : SessionId)
    (timePoint : TimePoint) (before : PowerSessionManager)
    (value : SessionValue) (kept rest : List TaskId) (call : Nat)
    (manager : PowerSessionManager)
    (hsession : manager.session sessionId = some ⟨value, kept ++ rest⟩)
    (hlinked : ∀ tid ∈ rest, ∀ value, before.LinkedValue tid value ↔
      manager.LinkedValue tid value) :
    ∃ effects,
      (uclampLoop env sessionId timePoint rest call kept.length manager).log =
          effects.reverse ++ manager.log ∧
        List.Forall₂ (before.PairApplied timePoint) rest effects := by
  induction rest generalizing kept call manager with
  | nil => exact ⟨[], rfl, .nil⟩
  | cons tid rest ih =>
    obtain ⟨effect, happlied, hemit⟩ := pairApplied_setUclamp manager
      timePoint tid env.adpfProfile.mUclampMaxEfficientBase
      env.adpfProfile.mUclampMaxEfficientOffset
    have hhead := happlied.of_linked (hlinked tid List.mem_cons_self)
    -- It is enough to run the rest of the loop after the head's effect.
    suffices hrest : ∃ effects,
        (uclampLoop env sessionId timePoint (tid :: rest) call kept.length
          manager).log = effects.reverse ++ effect :: manager.log ∧
          List.Forall₂ (before.PairApplied timePoint) rest effects by
      obtain ⟨effects, hlog, hpairs⟩ := hrest
      refine ⟨effect :: effects, ?_, .cons hhead hpairs⟩
      rw [hlog, List.reverse_cons, List.append_assoc, List.singleton_append]
    rw [uclampLoop, hemit]
    split_ifs
    · have herase : (kept ++ tid :: rest).eraseIdx kept.length =
          kept ++ rest := by
        rw [List.eraseIdx_append_of_length_le (Nat.le_refl _)]
        simp
      apply ih kept (call + 1)
      · rw [← herase]
        refine (congrFun (SessionLinks.session_dropDeadThread sessionId
          kept.length) sessionId).trans ?_
        rw [Function.update_self]
        exact congrArg (Option.map _) hsession
      · intro other hother found
        have hstill : other ∈ (kept ++ tid :: rest).eraseIdx kept.length := by
          rw [herase]
          exact List.mem_append_right kept hother
        exact (hlinked other (List.mem_cons_of_mem tid hother) found).trans
          (linkedValue_dropDeadThread hsession hstill found).symm
    · have hnext := ih (kept ++ [tid]) (call + 1) (manager.emit effect)
        (by rw [List.append_assoc]; exact hsession)
        (fun other hother => hlinked other (List.mem_cons_of_mem tid hother))
      rw [List.length_append, List.length_singleton] at hnext
      exact hnext

/-- One update passes one pair per thread of the session to the kernel, in the
order of the session's list. -/
theorem applyUclampLocked_pairs (manager : PowerSessionManager) (env : Env)
    (sessionId : SessionId) (timePoint : TimePoint) (session : Session)
    (hsession : manager.session sessionId = some session)
    (hon : env.adpfProfile.mUclampMinOn = true) :
    ∃ effects,
      (manager.applyUclampLocked env sessionId timePoint).log =
          effects.reverse ++ manager.log ∧
        List.Forall₂ (manager.PairApplied timePoint) session.linkedTasks
          effects := by
  have htasks : manager.mSessionTaskMap.getTaskIds sessionId =
      session.linkedTasks := by
    rw [SessionLinks.getTaskIds_eq]
    exact congrArg (fun found => (found.map Session.linkedTasks).getD [])
      hsession
  rw [applyUclampLocked, hsession, hon, htasks]
  exact effects_uclampLoop env sessionId timePoint manager session.value []
    session.linkedTasks 0 manager hsession fun _ _ _ => Iff.rfl

/-- Two sessions of thread 7: one asks for a minimum, the other for a maximum
below it. -/
private def crossedVotes : PowerSessionManager :=
  let value := (default : SessionValueEntry).toSessionValue
  let vote (uclampMin uclampMax : Int) : Votes :=
    Votes.empty.addCpu AdpfVoteType.cpuVoteDefault.toInt
      ⟨⟨true, 0, 10⟩, ⟨uclampMin, uclampMax⟩⟩
  { init true true 8 with
    mSessionTaskMap :=
      (SessionLinks.empty.add 1 { value with votes := vote 500 1024 } [7]).add 2
        { value with votes := vote (-3) 200 } [7, 7] }

theorem applyUclampLocked_pairs_crossedVotes :
    ∃ effects,
      (crossedVotes.applyUclampLocked (sampleEnv 5) 2 5).log =
          effects.reverse ++ crossedVotes.log ∧
        List.Forall₂ (crossedVotes.PairApplied 5) [7, 7] effects :=
  applyUclampLocked_pairs crossedVotes (sampleEnv 5) 2 5 _ rfl rfl

example : (crossedVotes.applyUclampLocked (sampleEnv 5) 2 5).log =
    [.schedSetattr 7 500 500, .schedSetattr 7 500 500] := by
  decide +kernel

end HardwareInterfaces.SessionManager.PowerSessionManager

import HardwareInterfaces.Power.VoteTimers

/-!
# Timeout events along the runs of the manager

The timers of the votes are followed along arbitrary runs of the manager.  No
active vote is ever left without an event.  What else one would like, that no
vote is expired before its end, an event no later than the end of each vote and
a single event per vote, fails, and the runs on which it holds are characterised
exactly.
-/

namespace HardwareInterfaces.SessionManager.PowerSessionManager

open AdpfTypes MachineArithmetic RequeueTimer SessionTaskMap Transition
  UClampVoter

variable {manager next : PowerSessionManager}

theorem timer_init (gpuCapacityNode taskRampupMultNode : Bool)
    (maxNumOfCachedSessionMetrics : Nat) (sessionId : SessionId)
    (voteId : VoteId) :
    (init gpuCapacityNode taskRampupMultNode
      maxNumOfCachedSessionMetrics).timer sessionId voteId = ⟨none, 0⟩ := by
  rw [timer, boost_init]
  rfl

/-! ## Coverage -/

/-- Every active vote of a live session has an event in the queue. -/
def ActiveVotesAwaited (manager : PowerSessionManager) : Prop :=
  ∀ sessionId session voteId, manager.session sessionId = some session →
    session.value.votes.voteIsActive voteId = true →
      ∃ pending, pending ∈ pendingFor manager.mEventSessionTimeoutWorker
        sessionId voteId

theorem activeVotesAwaited_of_covered
    (hcovered : ∀ sessionId voteId,
      (manager.timer sessionId voteId).Covered) :
    manager.ActiveVotesAwaited := by
  intro sessionId session voteId hsession hactive
  apply deadlinesFor_ne_zero_iff.mp
  apply hcovered sessionId voteId
  rw [timer_armed_of_session hsession, isSome_activeRange, hactive]

/-! ## Expiry -/

/-- `handleEvent` switches off a vote only when its end has come. -/
def NotExpiredEarly (manager : PowerSessionManager) : Prop :=
  ∀ (env : Env) (event : EventSessionTimeout) (sessionId : SessionId)
    (before after : Session) (voteId : VoteId) (range : VoteRange),
    manager.session sessionId = some before →
    before.value.votes.voteRange voteId = some range →
    range.mActive = true →
    (manager.handleEvent env event).session sessionId = some after →
    after.value.votes.voteIsActive voteId = false →
      range.mStartTime + range.mDurationNs ≤ env.now

/-- The end of the vote is a time of the 64-bit clock. -/
def EndFits (range : VoteRange) : Prop :=
  range.mStartTime + range.mDurationNs < 2 ^ 63

/-- A vote that is stored, or whose duration is changed while it is active,
ends at a time of the 64-bit clock. -/
def EndsFit (manager : PowerSessionManager) : Call → Prop
  | .voteSetCpu _ sessionId voteId _ _ startTime durationNs =>
    (manager.session sessionId).isSome → isGpuVote voteId.toInt = false →
      startTime + durationNs < 2 ^ 63
  | .voteSetGpu _ sessionId voteId _ startTime durationNs =>
    (manager.session sessionId).isSome → isGpuVote voteId.toInt = true →
      startTime + durationNs < 2 ^ 63
  | .updateTargetWorkDuration sessionId voteId durationNs =>
    ∀ session range, manager.session sessionId = some session →
      session.value.votes.voteRange voteId.toInt = some range →
      range.mActive = true → range.mStartTime + durationNs < 2 ^ 63
  | _ => True

theorem bears_timer_iff {good : VoteRange → Prop} {sessionId : SessionId}
    {voteId : VoteId} :
    (manager.timer sessionId voteId).Bears good ↔
      ∀ session range, manager.session sessionId = some session →
        session.value.votes.voteRange voteId = some range →
        range.mActive = true → good range := by
  cases hsession : manager.session sessionId with
  | none => simp [Timer.Bears, timer, boost, hsession]
  | some session =>
    rw [Timer.Bears, timer_armed_of_session hsession]
    simp only [activeRange, Option.mem_def, Option.filter_eq_some_iff,
      Option.some.injEq, and_imp]
    exact ⟨fun hgood _ range heq => heq ▸ hgood range,
      fun hgood range => hgood session range rfl⟩

/-- A vote that `handleEvent` switches off has ended for the code. -/
theorem timeout_le_of_cleared {env : Env} {event : EventSessionTimeout}
    {sessionId : SessionId} {voteId : VoteId} {range : VoteRange}
    (harmed : (manager.timer sessionId voteId).armed = some range)
    (hcleared : ((manager.handleEvent env event).timer sessionId
      voteId).armed = none) : range.timeout ≤ env.now := by
  by_cases hkey : event.sessionId = sessionId ∧ event.voteId = voteId
  · obtain ⟨rfl, rfl⟩ := hkey
    by_contra hlate
    rw [timer_handleEvent_self, Timer.handled, harmed] at hcleared
    dsimp only at hcleared
    rw [if_neg hlate] at hcleared
    cases hcleared
  · rw [timer_handleEvent_of_ne env event hkey, harmed] at hcleared
    cases hcleared

/-- An event that is handled at the end of the vote switches it off, and that is
too early where the end is not a time of the clock. -/
theorem notExpiredEarly_iff_bears :
    manager.NotExpiredEarly ↔ ∀ sessionId voteId,
      (manager.timer sessionId voteId).Bears EndFits := by
  constructor
  · intro hearly sessionId voteId
    refine bears_timer_iff.mpr fun session range hsession hrange hactive => ?_
    have hafter := boost_handleEvent manager (sampleEnv range.timeout)
      ⟨0, sessionId, voteId⟩
    replace hafter := congrFun hafter sessionId
    rw [onSession_self, boost, boost, hsession] at hafter
    obtain ⟨after, hsome, -⟩ := Option.map_eq_some_iff.mp hafter
    have harmed : (manager.timer sessionId voteId).armed = some range := by
      rw [timer_armed_of_session hsession, activeRange, hrange]
      exact if_pos hactive
    have hself := @timer_handleEvent_self manager (sampleEnv range.timeout)
      ⟨0, sessionId, voteId⟩
    have hcleared := congrArg Timer.armed
      (hself.trans (Timer.handled_of_ended harmed (le_refl range.timeout) _))
    dsimp only at hcleared
    rw [timer_armed_of_session hsome] at hcleared
    apply le_int64_iff.mp
    refine hearly _ _ _ _ _ _ _ hsession hrange hactive hsome ?_
    rw [← isSome_activeRange, hcleared]
    rfl
  · intro hbears env event sessionId before after voteId range hbefore hrange
      hactive hafter hcleared
    have harmed : (manager.timer sessionId voteId).armed = some range := by
      rw [timer_armed_of_session hbefore, activeRange, hrange]
      exact if_pos hactive
    have hended : range.timeout ≤ env.now := by
      apply timeout_le_of_cleared harmed
      rw [timer_armed_of_session hafter, ← Option.not_isSome_iff_eq_none,
        isSome_activeRange, hcleared]
      exact Bool.false_ne_true
    exact (le_int64_iff.mpr (hbears sessionId voteId range harmed)).trans hended

section

variable {guard : Timer VoteRange.timeout → Event VoteRange TimePoint → Prop}
  (hidle : ∀ timer, guard timer .idle) {target : SessionId} {vote : VoteId}
  {event : Event VoteRange TimePoint} {live : Prop} [Decidable live]
include hidle

/-- A call for one vote is guarded there and idle everywhere else. -/
theorem forall_guard_ite_iff :
    (∀ sessionId voteId, guard (manager.timer sessionId voteId)
        (if sessionId = target ∧ voteId = vote ∧ live then event
        else .idle)) ↔
      (live → guard (manager.timer target vote) event) := by
  constructor
  · intro hguard hlive
    have htarget := hguard target vote
    rwa [if_pos ⟨rfl, rfl, hlive⟩] at htarget
  · intro hguard sessionId voteId
    split_ifs with hkey
    · obtain ⟨rfl, rfl, hlive⟩ := hkey
      exact hguard hlive
    · exact hidle _

end

theorem stampGuard_voteEvent_iff {timer : Timer VoteRange.timeout}
    (stores : Bool) (startTime : TimePoint) (durationNs : Nanoseconds) :
    timer.StampGuard EndFits (voteEvent stores startTime durationNs) ↔
      (stores = true → startTime + durationNs < 2 ^ 63) := by
  cases stores with
  | true => exact ⟨fun hfits _ => hfits, fun hfits => hfits rfl⟩
  | false => exact iff_of_true trivial fun hstores => by cases hstores

theorem endsFit_iff (manager : PowerSessionManager) (call : Call) :
    manager.EndsFit call ↔
      ∀ sessionId voteId, (manager.timer sessionId voteId).StampGuard EndFits
        (manager.timerEvent call sessionId voteId) := by
  have hidle : ∀ timer : Timer VoteRange.timeout,
      timer.StampGuard EndFits (.idle : Event VoteRange TimePoint) :=
    fun _ => trivial
  cases call with
  | voteSetCpu =>
    refine Iff.trans ?_ (forall_guard_ite_iff hidle).symm
    rw [stampGuard_voteEvent_iff, Bool.not_eq_true']
    rfl
  | voteSetGpu =>
    refine Iff.trans ?_ (forall_guard_ite_iff hidle).symm
    rw [stampGuard_voteEvent_iff]
    rfl
  | updateTargetWorkDuration target vote durationNs =>
    have hcall := @forall_guard_ite_iff manager _ hidle target vote.toInt
      (.retime (·.updateDuration durationNs)) True _
    simp only [and_true, forall_const] at hcall
    exact bears_timer_iff.symm.trans hcall.symm
  | removePowerSession env target =>
    exact iff_of_true trivial fun sessionId voteId =>
      Timer.stampGuard_of_passive
        (passive_removePowerSession manager sessionId voteId env target)
  | disableBoosts target =>
    exact iff_of_true trivial fun sessionId voteId =>
      Timer.stampGuard_of_passive
        (passive_disableBoosts manager sessionId voteId target)
  | dispatch env index =>
    exact iff_of_true trivial fun sessionId voteId =>
      Timer.stampGuard_of_passive
        (passive_dispatch manager sessionId voteId env index)
  | _ => exact iff_of_true trivial fun _ _ => trivial

/-- No vote can stay active with no event left to expire it.  None is expired
before its end exactly when the ends of the votes are times of the 64-bit
clock. -/
theorem awaited_and_not_expired_early_iff_ends_fit
    (gpuCapacityNode taskRampupMultNode : Bool)
    (maxNumOfCachedSessionMetrics : Nat) (calls : List Call) :
    RunHolds step ActiveVotesAwaited
        (init gpuCapacityNode taskRampupMultNode maxNumOfCachedSessionMetrics)
        calls ∧
      (RunHolds step NotExpiredEarly
          (init gpuCapacityNode taskRampupMultNode maxNumOfCachedSessionMetrics)
          calls ↔
        RunMeets step EndsFit
          (init gpuCapacityNode taskRampupMultNode maxNumOfCachedSessionMetrics)
          calls) := by
  constructor
  · refine runHolds_of_invariant (fun state hcovered =>
      activeVotesAwaited_of_covered hcovered) ?_ ?_ calls
    · intro state call after hcovered hstep sessionId voteId
      exact (hcovered sessionId voteId).step
        (timer_step hstep sessionId voteId)
    · intro sessionId voteId
      rw [timer_init]
      exact fun harmed => absurd harmed Bool.false_ne_true
  · have hstep_iff : ∀ state call after, NotExpiredEarly state →
        step state call = some after →
          (NotExpiredEarly after ↔ state.EndsFit call) := by
      intro state call after hearly hstep
      rw [notExpiredEarly_iff_bears] at hearly ⊢
      rw [endsFit_iff]
      exact forall₂_congr fun sessionId voteId =>
        Timer.bears_step_iff (hearly sessionId voteId)
          (timer_step hstep sessionId voteId)
    apply runHolds_iff_runMeets (fun _ hearly => hearly)
    · intro state call after hearly hguard hstep
      exact (hstep_iff state call after hearly hstep).mpr hguard
    · intro state call after hearly hguard hstep hafter
      exact hguard ((hstep_iff state call after hearly hstep).mp hafter)
    · refine notExpiredEarly_iff_bears.mpr fun sessionId voteId => ?_
      rw [timer_init]
      intro range harmed
      cases harmed

/-- A vote for 100 ns is given a duration of 292 years. -/
def prolongedVoteCalls : List Call :=
  [.addPowerSession (sampleEnv 0) (sampleEnv 0) (sampleEnv 0)
      (sampleDescriptor 1 [7]) false [7],
    .voteSetCpu (sampleEnv (10 ^ 12)) 1 .cpuVoteDefault 480 1024 (10 ^ 12) 100,
    .updateTargetWorkDuration 1 .cpuVoteDefault 9223372036854774784]

/-- The event of the vote, handled after the 100 ns, switches it off, because
its end has become negative. -/
theorem votes_expired_early :
    ¬ ∀ manager, Reachable step (init true true 4) manager →
      manager.NotExpiredEarly := by
  intro hearly
  obtain ⟨manager, hrun, before, hbefore, hrange, after, hafter, hcleared⟩ :
      ∃ manager, run step (init true true 4) prolongedVoteCalls =
          some manager ∧
        ∃ before, manager.session 1 = some before ∧
          before.value.votes.voteRange 0 =
            some ⟨true, 10 ^ 12, 9223372036854774784⟩ ∧
          ∃ after, (manager.handleEvent (sampleEnv (10 ^ 12 + 100))
              ⟨10 ^ 12, 1, 0⟩).session 1 = some after ∧
            after.value.votes.voteIsActive 0 = false :=
    ⟨_, rfl, _, rfl, rfl, _, rfl, rfl⟩
  have hend := hearly manager ⟨prolongedVoteCalls, hrun⟩
    (sampleEnv (10 ^ 12 + 100)) ⟨10 ^ 12, 1, 0⟩ 1 before after 0 _ hbefore
    hrange rfl hafter hcleared
  exact absurd hend (by decide)

/-! ## Punctuality -/

/-- After any `voteSet` on a live session, one of the events of the vote comes
no later than the end of the vote. -/
def VotesPunctual (manager : PowerSessionManager) : Prop :=
  ∀ (env : Env) (sessionId : SessionId) (voteId : AdpfVoteType)
    (startTime : TimePoint) (durationNs : Nanoseconds),
    (manager.session sessionId).isSome →
      (∀ uclampMin uclampMax, ∃ pending ∈ pendingFor
        (manager.voteSetCpu env sessionId voteId uclampMin uclampMax startTime
          durationNs).mEventSessionTimeoutWorker sessionId voteId.toInt,
        pending.deadline ≤ timeoutDeadline startTime durationNs) ∧
      (∀ capacity, ∃ pending ∈ pendingFor
        (manager.voteSetGpu env sessionId voteId capacity startTime
          durationNs).mEventSessionTimeoutWorker sessionId voteId.toInt,
        pending.deadline ≤ timeoutDeadline startTime durationNs)

/-- A new duration for an active vote does not end it before the first of its
events. -/
def RetimesToPendingEvent (manager : PowerSessionManager) : Call → Prop
  | .updateTargetWorkDuration sessionId voteId durationNs =>
    ∀ session, manager.session sessionId = some session →
      session.value.votes.voteIsActive voteId.toInt = true →
        ∃ pending ∈ pendingFor manager.mEventSessionTimeoutWorker sessionId
          voteId.toInt,
          pending.deadline ≤ (session.value.votes.updateDuration
            voteId.toInt durationNs).voteTimeout voteId.toInt
  | _ => True

section

variable {sessionId : SessionId} (hlive : (manager.session sessionId).isSome)
  (env : Env) (voteId : AdpfVoteType)
include hlive

theorem exists_pendingFor_voteSetCpu_iff (uclampMin uclampMax : Int)
    (startTime : TimePoint) (durationNs : Nanoseconds) :
    (∃ pending ∈ pendingFor (manager.voteSetCpu env sessionId voteId uclampMin
        uclampMax startTime durationNs).mEventSessionTimeoutWorker sessionId
          voteId.toInt,
        pending.deadline ≤ timeoutDeadline startTime durationNs) ↔
      ∃ waiting ∈ (manager.timer sessionId voteId.toInt).request
        (timeoutDeadline startTime durationNs),
          waiting ≤ timeoutDeadline startTime durationNs := by
  obtain ⟨session, hsession⟩ := Option.isSome_iff_exists.mp hlive
  rw [← exists_deadlinesFor_le_iff, deadlinesFor_voteSetCpu hsession,
    if_pos ⟨rfl, rfl⟩]

theorem exists_pendingFor_voteSetGpu_iff (capacity : Cycles)
    (startTime : TimePoint) (durationNs : Nanoseconds) :
    (∃ pending ∈ pendingFor (manager.voteSetGpu env sessionId voteId capacity
        startTime durationNs).mEventSessionTimeoutWorker sessionId
          voteId.toInt,
        pending.deadline ≤ timeoutDeadline startTime durationNs) ↔
      ∃ waiting ∈ (manager.timer sessionId voteId.toInt).request
        (timeoutDeadline startTime durationNs),
          waiting ≤ timeoutDeadline startTime durationNs := by
  obtain ⟨session, hsession⟩ := Option.isSome_iff_exists.mp hlive
  rw [← exists_deadlinesFor_le_iff, deadlinesFor_voteSetGpu hsession,
    if_pos ⟨rfl, rfl⟩]

end

theorem votesPunctual_of_timely
    (htimely : ∀ sessionId voteId, (manager.timer sessionId voteId).Timely) :
    manager.VotesPunctual := by
  intro env sessionId voteId startTime durationNs hlive
  have hrequest := (htimely sessionId voteId.toInt).exists_le_of_request
    (timeoutDeadline startTime durationNs)
  constructor
  · intro uclampMin uclampMax
    exact (exists_pendingFor_voteSetCpu_iff hlive _ _ _ _ _ _).mpr hrequest
  · intro capacity
    exact (exists_pendingFor_voteSetGpu_iff hlive _ _ _ _ _).mpr hrequest

/-- A live session all of whose votes are punctual has timely timers, because
the vote in force can be set again. -/
theorem VotesPunctual.timely (hpunctual : manager.VotesPunctual)
    (sessionId : SessionId) (voteId : AdpfVoteType) :
    (manager.timer sessionId voteId.toInt).Timely := by
  cases hsession : manager.session sessionId with
  | none =>
    intro range harmed
    rw [timer, boost, hsession] at harmed
    cases harmed
  | some session =>
    have hlive : (manager.session sessionId).isSome := by
      rw [hsession]
      rfl
    rw [Timer.timely_iff_forall_request]
    intro range
    have hvote := (hpunctual (sampleEnv 0) sessionId voteId range.mStartTime
      range.mDurationNs hlive).1 0 0
    rw [exists_pendingFor_voteSetCpu_iff hlive] at hvote
    exact hvote

/-- The condition on the call is the condition on the timer of its vote. -/
theorem RetimesToPendingEvent.retimeGuard {call : Call}
    (hcall : manager.RetimesToPendingEvent call) (sessionId : SessionId)
    (voteId : VoteId) :
    (manager.timer sessionId voteId).RetimeGuard
      (manager.timerEvent call sessionId voteId) := by
  cases call with
  | updateTargetWorkDuration target vote durationNs =>
    rw [timerEvent]
    split_ifs with hkey
    · obtain ⟨rfl, rfl⟩ := hkey
      intro range harmed
      cases hsession : manager.session sessionId with
      | none =>
        rw [timer, boost, hsession] at harmed
        cases harmed
      | some session =>
        rw [timer_armed_of_session hsession] at harmed
        have hactive : session.value.votes.voteIsActive vote.toInt = true := by
          rw [← isSome_activeRange, harmed]
          rfl
        have hdue := hcall session hsession hactive
        rw [voteTimeout_updateDuration harmed] at hdue
        exact exists_deadlinesFor_le_iff.mpr hdue
    · trivial
  | voteSetCpu | voteSetGpu =>
    rw [timerEvent, voteEvent]
    split_ifs <;> trivial
  | removePowerSession env target =>
    exact Timer.retimeGuard_of_passive
      (passive_removePowerSession manager sessionId voteId env target)
  | disableBoosts target =>
    exact Timer.retimeGuard_of_passive
      (passive_disableBoosts manager sessionId voteId target)
  | dispatch env index =>
    exact Timer.retimeGuard_of_passive
      (passive_dispatch manager sessionId voteId env index)
  | _ => trivial

theorem retimesToPendingEvent_of_retimeGuard {call : Call}
    (hguard : ∀ sessionId (voteId : AdpfVoteType),
      (manager.timer sessionId voteId.toInt).RetimeGuard
        (manager.timerEvent call sessionId voteId.toInt)) :
    manager.RetimesToPendingEvent call := by
  cases call with
  | updateTargetWorkDuration target vote =>
    intro session hsession hactive
    have hevent := hguard target vote
    rw [timerEvent, if_pos ⟨rfl, rfl⟩] at hevent
    rw [← isSome_activeRange] at hactive
    obtain ⟨range, hrange⟩ := Option.isSome_iff_exists.mp hactive
    rw [voteTimeout_updateDuration hrange]
    exact exists_deadlinesFor_le_iff.mp
      (hevent range ((timer_armed_of_session hsession _).trans hrange))
  | _ => trivial

/-- Every `voteSet` of a run leaves an event no later than the end of its vote
exactly when no call has moved the end of an active vote before its first
event. -/
theorem votes_punctual_iff_retimes_to_pending_event
    (gpuCapacityNode taskRampupMultNode : Bool)
    (maxNumOfCachedSessionMetrics : Nat) (calls : List Call) :
    RunHolds step VotesPunctual
        (init gpuCapacityNode taskRampupMultNode maxNumOfCachedSessionMetrics)
        calls ↔
      RunMeets step RetimesToPendingEvent
        (init gpuCapacityNode taskRampupMultNode maxNumOfCachedSessionMetrics)
        calls := by
  apply runHolds_iff_runMeets (fun _ htimely => votesPunctual_of_timely htimely)
  · intro state call after htimely hguard hstep sessionId voteId
    exact (Timer.timely_step_iff (htimely sessionId voteId)
      (timer_step hstep sessionId voteId)).mpr
        (hguard.retimeGuard sessionId voteId)
  · intro state call after htimely hguard hstep hpunctual
    apply hguard
    apply retimesToPendingEvent_of_retimeGuard
    intro sessionId voteId
    exact (Timer.timely_step_iff (htimely sessionId voteId.toInt)
      (timer_step hstep sessionId voteId.toInt)).mp
        (hpunctual.timely sessionId voteId)
  · intro sessionId voteId range harmed
    rw [timer_init] at harmed
    cases harmed

/-- A vote is set for 100 ns, and its duration is then cut to 10 ns. -/
def shortenedVoteCalls : List Call :=
  [.addPowerSession (sampleEnv 0) (sampleEnv 0) (sampleEnv 0)
      (sampleDescriptor 1 [7]) false [7],
    .voteSetCpu (sampleEnv 0) 1 .cpuVoteDefault 480 1024 0 100,
    .updateTargetWorkDuration 1 .cpuVoteDefault 10]

/-- Set again from 20 to 50 ns, the shortened vote still has only the event at
100 ns. -/
theorem votes_not_always_punctual :
    ¬ ∀ manager, Reachable step (init true true 4) manager →
      manager.VotesPunctual := by
  intro hpunctual
  obtain ⟨manager, hrun, hsession, hqueue⟩ : ∃ manager,
      run step (init true true 4) shortenedVoteCalls = some manager ∧
        (manager.session 1).isSome = true ∧
          ¬ ∃ pending ∈ pendingFor (manager.voteSetCpu (sampleEnv 20) 1
            .cpuVoteDefault 480 1024 20 30).mEventSessionTimeoutWorker 1
              AdpfVoteType.cpuVoteDefault.toInt,
            pending.deadline ≤ 20 + 30 :=
    ⟨_, rfl, rfl, by decide⟩
  exact hqueue ((hpunctual manager ⟨shortenedVoteCalls, hrun⟩ (sampleEnv 20) 1
    .cpuVoteDefault 20 30 hsession).1 480 1024)

/-! ## Uniqueness -/

/-- No vote has two events in the queue. -/
def TimeoutsUnique (manager : PowerSessionManager) : Prop :=
  ∀ sessionId voteId, (pendingFor manager.mEventSessionTimeoutWorker sessionId
    voteId).length ≤ 1

/-- `voteSet` queues an event only when the vote has none in the queue. -/
def SchedulesFirstEvent (manager : PowerSessionManager)
    (sessionId : SessionId) (voteId : VoteId) (deadline : TimePoint) : Prop :=
  ∀ session, manager.session sessionId = some session →
    shouldScheduleTimeout session.value.votes voteId deadline = true →
      pendingFor manager.mEventSessionTimeoutWorker sessionId voteId = []

def SchedulesOnlyFirstEvents (manager : PowerSessionManager) : Call → Prop
  | .voteSetCpu _ sessionId voteId _ _ startTime durationNs =>
    manager.SchedulesFirstEvent sessionId voteId.toInt
      (timeoutDeadline startTime durationNs)
  | .voteSetGpu _ sessionId voteId _ startTime durationNs =>
    manager.SchedulesFirstEvent sessionId voteId.toInt
      (timeoutDeadline startTime durationNs)
  | _ => True

theorem timeoutsUnique_iff_single (manager : PowerSessionManager) :
    manager.TimeoutsUnique ↔
      ∀ sessionId voteId, (manager.timer sessionId voteId).Single := by
  have hcard : ∀ sessionId voteId,
      (manager.timer sessionId voteId).pending.card =
        (pendingFor manager.mEventSessionTimeoutWorker sessionId
          voteId).length := by
    intro sessionId voteId
    rw [timer, deadlinesFor, Multiset.coe_card, List.length_map]
  simp only [TimeoutsUnique, Timer.Single, hcard]

/-- A `voteSet` is guarded at its own vote and idle everywhere else. -/
theorem requestGuard_voteSet_iff (target : SessionId) (vote : VoteId)
    (stores : Bool) (startTime : TimePoint) (durationNs : Nanoseconds) :
    (∀ sessionId voteId, (manager.timer sessionId voteId).RequestGuard
        (if sessionId = target ∧ voteId = vote ∧
            (manager.session target).isSome then
          voteEvent stores startTime durationNs
        else .idle)) ↔
      manager.SchedulesFirstEvent target vote
        (timeoutDeadline startTime durationNs) := by
  refine (forall_guard_ite_iff fun _ => trivial).trans ?_
  have hguard : (manager.timer target vote).RequestGuard
      (voteEvent stores startTime durationNs) ↔
        ((manager.timer target vote).NeedsEvent
            (timeoutDeadline startTime durationNs) →
          (manager.timer target vote).pending = 0) := by
    cases stores <;> rfl
  have hpending : (manager.timer target vote).pending = 0 ↔
      pendingFor manager.mEventSessionTimeoutWorker target vote = [] := by
    rw [timer, deadlinesFor, Multiset.coe_eq_zero, List.map_eq_nil_iff]
  rw [hguard, hpending]
  cases hsession : manager.session target with
  | none => simp [SchedulesFirstEvent, hsession]
  | some session =>
    rw [← shouldScheduleTimeout_iff hsession]
    simp [SchedulesFirstEvent, hsession]

theorem schedulesOnlyFirstEvents_iff (manager : PowerSessionManager)
    (call : Call) :
    manager.SchedulesOnlyFirstEvents call ↔
      ∀ sessionId voteId, (manager.timer sessionId voteId).RequestGuard
        (manager.timerEvent call sessionId voteId) := by
  cases call with
  | voteSetCpu env target vote =>
    exact (requestGuard_voteSet_iff target vote.toInt _ _ _).symm
  | voteSetGpu env target vote =>
    exact (requestGuard_voteSet_iff target vote.toInt _ _ _).symm
  | updateTargetWorkDuration =>
    refine iff_of_true trivial fun sessionId voteId => ?_
    rw [timerEvent]
    split_ifs <;> trivial
  | removePowerSession env target =>
    exact iff_of_true trivial fun sessionId voteId =>
      Timer.requestGuard_of_passive
        (passive_removePowerSession manager sessionId voteId env target)
  | disableBoosts target =>
    exact iff_of_true trivial fun sessionId voteId =>
      Timer.requestGuard_of_passive
        (passive_disableBoosts manager sessionId voteId target)
  | dispatch env index =>
    exact iff_of_true trivial fun sessionId voteId =>
      Timer.requestGuard_of_passive
        (passive_dispatch manager sessionId voteId env index)
  | _ => exact iff_of_true trivial fun _ _ => trivial

/-- The events stay unique along a run exactly when no `voteSet` queues an
event for a vote that has one. -/
theorem timeouts_unique_iff_schedules_only_first_events
    (gpuCapacityNode taskRampupMultNode : Bool)
    (maxNumOfCachedSessionMetrics : Nat) (calls : List Call) :
    RunHolds step TimeoutsUnique
        (init gpuCapacityNode taskRampupMultNode maxNumOfCachedSessionMetrics)
        calls ↔
      RunMeets step SchedulesOnlyFirstEvents
        (init gpuCapacityNode taskRampupMultNode maxNumOfCachedSessionMetrics)
        calls := by
  have hstep_iff : ∀ state call after, TimeoutsUnique state →
      step state call = some after →
        (TimeoutsUnique after ↔ state.SchedulesOnlyFirstEvents call) := by
    intro state call after hunique hstep
    rw [timeoutsUnique_iff_single] at hunique ⊢
    rw [schedulesOnlyFirstEvents_iff]
    exact forall₂_congr fun sessionId voteId =>
      Timer.single_step_iff (hunique sessionId voteId)
        (timer_step hstep sessionId voteId)
  apply runHolds_iff_runMeets (fun _ hunique => hunique)
  · intro state call after hunique hguard hstep
    exact (hstep_iff state call after hunique hstep).mpr hguard
  · intro state call after hunique hguard hstep hafter
    exact hguard ((hstep_iff state call after hunique hstep).mp hafter)
  · exact fun _ _ => Nat.zero_le 1

/-- A hint, a report that switches its vote off, and the same hint again. -/
def repeatedHintCalls : List Call :=
  [.addPowerSession (sampleEnv 0) (sampleEnv 0) (sampleEnv 0)
      (sampleDescriptor 1 [7]) false [7],
    .voteSetCpu (sampleEnv 0) 1 .cpuLoadUp 480 1024 0 200,
    .disableBoosts 1,
    .voteSetCpu (sampleEnv 0) 1 .cpuLoadUp 480 1024 0 200]

theorem timeouts_not_always_unique :
    ¬ ∀ manager, Reachable step (init true true 4) manager →
      manager.TimeoutsUnique := by
  intro hunique
  obtain ⟨manager, hrun, hlength⟩ : ∃ manager,
      run step (init true true 4) repeatedHintCalls = some manager ∧
        (pendingFor manager.mEventSessionTimeoutWorker 1
          AdpfVoteType.cpuLoadUp.toInt).length = 2 :=
    ⟨_, rfl, rfl⟩
  have hone := hunique manager ⟨repeatedHintCalls, hrun⟩ 1
    AdpfVoteType.cpuLoadUp.toInt
  rw [hlength] at hone
  exact absurd hone (by decide)

end HardwareInterfaces.SessionManager.PowerSessionManager

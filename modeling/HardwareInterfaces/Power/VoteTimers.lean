import HardwareInterfaces.Core.RequeueTimer
import HardwareInterfaces.Power.SessionEffects
import HardwareInterfaces.Power.CallFrame

/-!
# The timer of a vote

For each session and vote the manager implements a timer that re-queues its
event: the timer is armed while the vote is active, and its events are those
of the queue that carry the session and the vote.  The main result is a
simulation: every call of the manager is one event of every timer.
-/

namespace HardwareInterfaces.SessionManager

open AdpfTypes RequeueTimer SessionTaskMap UClampVoter

/-! ## The timing of an active vote -/

def activeRange (votes : Votes) (voteId : VoteId) : Option VoteRange :=
  (votes.voteRange voteId).filter VoteRange.mActive

section

variable (votes : Votes) (id voteId : VoteId)

theorem activeRange_cases :
    votes.voteIsActive voteId = false ∧ activeRange votes voteId = none ∨
      ∃ range, votes.voteIsActive voteId = true ∧
        activeRange votes voteId = some range ∧
        votes.voteTimeout voteId = range.timeout := by
  rw [Votes.voteIsActive_eq, Votes.voteTimeout_eq, activeRange]
  cases votes.voteRange voteId with
  | none => exact .inl ⟨rfl, rfl⟩
  | some range => cases hactive : range.mActive <;> simp [hactive]

theorem isSome_activeRange :
    (activeRange votes voteId).isSome = votes.voteIsActive voteId := by
  rcases activeRange_cases votes voteId with
    ⟨hactive, hrange⟩ | ⟨range, hactive, hrange, -⟩ <;> rw [hactive, hrange]
  all_goals rfl

theorem activeRange_addCpu (startTime : TimePoint) (durationNs : Nanoseconds)
    (range : UclampRange) :
    activeRange (votes.addCpu id ⟨⟨true, startTime, durationNs⟩, range⟩)
        voteId =
      if voteId = id ∧ isGpuVote id = false then
        some ⟨true, startTime, durationNs⟩
      else activeRange votes voteId := by
  rw [activeRange, Votes.voteRange_addCpu, activeRange]
  split_ifs <;> rfl

theorem activeRange_addGpu (startTime : TimePoint) (durationNs : Nanoseconds)
    (capacity : Cycles) :
    activeRange (votes.addGpu id ⟨⟨true, startTime, durationNs⟩, capacity⟩)
        voteId =
      if voteId = id ∧ isGpuVote id = true then
        some ⟨true, startTime, durationNs⟩
      else activeRange votes voteId := by
  rw [activeRange, Votes.voteRange_addGpu, activeRange]
  split_ifs <;> rfl

theorem activeRange_setUseVote_false :
    activeRange (votes.setUseVote id false) voteId =
      if voteId = id then none else activeRange votes voteId := by
  rw [activeRange, Votes.setUseVote, Votes.voteRange_modifyRange, activeRange]
  split_ifs
  · cases votes.voteRange voteId <;> rfl
  · rfl

theorem activeRange_updateDuration (durationNs : Nanoseconds) :
    activeRange (votes.updateDuration id durationNs) voteId =
      if voteId = id then
        (activeRange votes voteId).map (·.updateDuration durationNs)
      else activeRange votes voteId := by
  rw [activeRange, Votes.updateDuration, Votes.voteRange_modifyRange,
    activeRange]
  split_ifs
  · rw [Option.filter_map]
    rfl
  · rfl

variable {votes id} in
theorem voteTimeout_updateDuration {range : VoteRange}
    (hrange : activeRange votes id = some range) (durationNs : Nanoseconds) :
    (votes.updateDuration id durationNs).voteTimeout id =
      (range.updateDuration durationNs).timeout := by
  have hupdated := activeRange_updateDuration votes id id durationNs
  rw [if_pos rfl, hrange] at hupdated
  rcases activeRange_cases (votes.updateDuration id durationNs) id with
    ⟨-, hnone⟩ | ⟨other, -, hsome, htimeout⟩
  · rw [hnone] at hupdated
    cases hupdated
  · rw [hsome] at hupdated
    cases hupdated
    exact htimeout

end

theorem activeRange_disabled (vids : List AdpfVoteType) (votes : Votes)
    (voteId : VoteId) :
    activeRange (vids.foldl (fun current vid =>
        current.setUseVote vid.toInt false) votes) voteId =
      if voteId ∈ vids.map AdpfVoteType.toInt then none
      else activeRange votes voteId := by
  induction vids generalizing votes with
  | nil => rfl
  | cons vid rest ih =>
    rw [List.foldl_cons, ih, activeRange_setUseVote_false]
    simp only [List.map_cons, List.mem_cons]
    by_cases hrest : voteId ∈ rest.map AdpfVoteType.toInt
    · rw [if_pos hrest, if_pos (Or.inr hrest)]
    · simp only [hrest, or_false, if_false]

/-! ## The events of a vote -/

/-- The events of a queue that carry the session and the vote. -/
def pendingFor (queue : List PendingTimeout) (sessionId : SessionId)
    (voteId : VoteId) : List PendingTimeout :=
  queue.filter fun pending =>
    pending.event.sessionId = sessionId ∧ pending.event.voteId = voteId

def deadlinesFor (queue : List PendingTimeout) (sessionId : SessionId)
    (voteId : VoteId) : Multiset TimePoint :=
  ((pendingFor queue sessionId voteId).map PendingTimeout.deadline : List _)

section Queue

variable {queue : List PendingTimeout} {pending : PendingTimeout}
variable {sessionId : SessionId} {voteId : VoteId}

theorem exists_deadlinesFor_le_iff {limit : TimePoint} :
    (∃ deadline ∈ deadlinesFor queue sessionId voteId, deadline ≤ limit) ↔
      ∃ pending ∈ pendingFor queue sessionId voteId,
        pending.deadline ≤ limit := by
  simp only [deadlinesFor, Multiset.mem_coe, List.mem_map,
    exists_exists_and_eq_and]

theorem deadlinesFor_ne_zero_iff :
    deadlinesFor queue sessionId voteId ≠ 0 ↔
      ∃ pending, pending ∈ pendingFor queue sessionId voteId := by
  rw [deadlinesFor, Ne, Multiset.coe_eq_zero, List.map_eq_nil_iff,
    List.eq_nil_iff_forall_not_mem, not_forall_not]

theorem deadlinesFor_cons_of_key
    (hkey : pending.event.sessionId = sessionId ∧
      pending.event.voteId = voteId) :
    deadlinesFor (pending :: queue) sessionId voteId =
      pending.deadline ::ₘ deadlinesFor queue sessionId voteId := by
  rw [deadlinesFor, pendingFor, List.filter_cons_of_pos (by simpa using hkey)]
  rfl

theorem deadlinesFor_cons_of_not_key
    (hkey : ¬ (pending.event.sessionId = sessionId ∧
      pending.event.voteId = voteId)) :
    deadlinesFor (pending :: queue) sessionId voteId =
      deadlinesFor queue sessionId voteId := by
  rw [deadlinesFor, pendingFor, List.filter_cons_of_neg (by simpa using hkey)]
  rfl

/-- Taking an event from the queue undoes its insertion, up to the order. -/
theorem deadlinesFor_eraseIdx {index : Nat}
    (hpending : queue[index]? = some pending) :
    deadlinesFor queue sessionId voteId =
      deadlinesFor (pending :: queue.eraseIdx index) sessionId voteId := by
  obtain ⟨hindex, hget⟩ := List.getElem?_eq_some_iff.mp hpending
  have hperm : (pending :: queue.eraseIdx index).Perm queue := by
    rw [← hget]
    exact List.getElem_cons_eraseIdx_perm hindex
  exact Multiset.coe_eq_coe.mpr ((hperm.symm.filter _).map _)

end Queue

namespace PowerSessionManager

variable (manager : PowerSessionManager)

/-- The timer that the manager implements for a vote of a session. -/
def timer (sessionId : SessionId) (voteId : VoteId) :
    Timer VoteRange.timeout where
  armed := (manager.boost sessionId).bind fun state =>
    activeRange state.votes voteId
  pending := deadlinesFor manager.mEventSessionTimeoutWorker sessionId voteId

variable {manager} {next : PowerSessionManager}

/-! ## Calls that leave the timers alone -/

variable {sessionId : SessionId} {change : BoostState → BoostState}

theorem armed_onSession
    (hboost : next.boost = onSession manager.boost sessionId change)
    (other : SessionId) (voteId : VoteId) :
    (next.timer other voteId).armed =
      if other = sessionId then
        (manager.boost other).bind fun state =>
          activeRange (change state).votes voteId
      else (manager.timer other voteId).armed := by
  rw [timer, hboost]
  split_ifs with hother
  · rw [hother, onSession_self, Option.bind_map]
    rfl
  · rw [onSession_of_ne change hother]
    rfl

variable {target : SessionId}

theorem armed_eq_of_same
    (hboost : next.boost = onSession manager.boost target change)
    {voteId : VoteId} (hsame : sessionId = target → ∀ state,
      activeRange (change state).votes voteId = activeRange state.votes voteId) :
    (next.timer sessionId voteId).armed =
      (manager.timer sessionId voteId).armed := by
  rw [armed_onSession hboost]
  by_cases hsession : sessionId = target
  · rw [if_pos hsession]
    simp only [hsame hsession]
    rfl
  · rw [if_neg hsession]

/-- A framed call that changes no vote changes no timer. -/
theorem timer_eq_of_frame (hframe : Frame manager next)
    (hboost : next.boost = onSession manager.boost sessionId change)
    (hvotes : ∀ state, (change state).votes = state.votes) :
    next.timer = manager.timer := by
  funext other voteId
  apply Timer.ext
  · apply armed_eq_of_same hboost
    intro _ state
    rw [hvotes]
  · rw [timer, hframe.worker]
    rfl

theorem timer_eq_of_boost (hframe : Frame manager next)
    (hboost : next.boost = manager.boost) : next.timer = manager.timer := by
  funext sessionId voteId
  apply Timer.ext
  · rw [timer, hboost]
    rfl
  · rw [timer, hframe.worker]
    rfl

/-! ## Requests for an event -/

variable {session : Session}

section

variable (hsession : manager.session sessionId = some session)
include hsession

theorem timer_armed_of_session (voteId : VoteId) :
    (manager.timer sessionId voteId).armed =
      activeRange session.value.votes voteId := by
  rw [timer, boost, hsession]
  rfl

/-- The test in `voteSet` is the test of the timer. -/
theorem shouldScheduleTimeout_iff (voteId : VoteId) (deadline : TimePoint) :
    shouldScheduleTimeout session.value.votes voteId deadline = true ↔
      (manager.timer sessionId voteId).NeedsEvent deadline := by
  rw [Timer.NeedsEvent, timer_armed_of_session hsession, shouldScheduleTimeout]
  rcases activeRange_cases session.value.votes voteId with
    ⟨hactive, hrange⟩ | ⟨range, hactive, hrange, htimeout⟩
  · simp [hactive, hrange]
  · simp [hactive, hrange, htimeout]

/-- What `voteSet` leaves in the queue, for any vote. -/
theorem deadlinesFor_scheduleVoteTimeout {updated : PowerSessionManager}
    (hframe : Frame manager updated) (voteId : VoteId) (startTime : TimePoint)
    (durationNs : Nanoseconds) (other : SessionId) (otherVote : VoteId) :
    deadlinesFor (updated.scheduleVoteTimeout
        (shouldScheduleTimeout session.value.votes voteId
          (timeoutDeadline startTime durationNs))
        sessionId voteId startTime
        durationNs).mEventSessionTimeoutWorker other otherVote =
      if other = sessionId ∧ otherVote = voteId then
        (manager.timer sessionId voteId).request
          (timeoutDeadline startTime durationNs)
      else deadlinesFor manager.mEventSessionTimeoutWorker other otherVote := by
  have hneeds := shouldScheduleTimeout_iff hsession voteId
    (timeoutDeadline startTime durationNs)
  rw [scheduleVoteTimeout, Timer.request, ← hframe.worker]
  cases hneeded : shouldScheduleTimeout session.value.votes voteId
      (timeoutDeadline startTime durationNs) with
  | true =>
    rw [if_pos rfl, if_pos (hneeds.mp hneeded), schedule]
    split_ifs with hkey
    · rw [deadlinesFor_cons_of_key ⟨hkey.1.symm, hkey.2.symm⟩, hkey.1,
        hkey.2, hframe.worker]
      rfl
    · exact deadlinesFor_cons_of_not_key fun hsame =>
        hkey ⟨hsame.1.symm, hsame.2.symm⟩
  | false =>
    rw [if_neg Bool.false_ne_true]
    split_ifs with hkey hyes
    · exact absurd (hneeds.mpr hyes) (by rw [hneeded]; exact Bool.false_ne_true)
    · rw [hkey.1, hkey.2, hframe.worker]
      rfl
    · rfl

theorem deadlinesFor_voteSetCpu (env : Env) (voteId : AdpfVoteType)
    (uclampMin uclampMax : Int) (startTime : TimePoint)
    (durationNs : Nanoseconds) (other : SessionId) (otherVote : VoteId) :
    deadlinesFor (manager.voteSetCpu env sessionId voteId uclampMin uclampMax
        startTime durationNs).mEventSessionTimeoutWorker other otherVote =
      if other = sessionId ∧ otherVote = voteId.toInt then
        (manager.timer sessionId voteId.toInt).request
          (timeoutDeadline startTime durationNs)
      else deadlinesFor manager.mEventSessionTimeoutWorker other otherVote := by
  simp only [voteSetCpu, hsession]
  exact deadlinesFor_scheduleVoteTimeout hsession
    (((Quiet.links manager _).trans (Quiet.modifySession _ sessionId _)).trans
      (Quiet.applyUclampLocked _ env sessionId startTime)).toFrame voteId.toInt
    startTime durationNs other otherVote

theorem deadlinesFor_voteSetGpu (env : Env) (voteId : AdpfVoteType)
    (capacity : Cycles) (startTime : TimePoint) (durationNs : Nanoseconds)
    (other : SessionId) (otherVote : VoteId) :
    deadlinesFor (manager.voteSetGpu env sessionId voteId capacity startTime
        durationNs).mEventSessionTimeoutWorker other otherVote =
      if other = sessionId ∧ otherVote = voteId.toInt then
        (manager.timer sessionId voteId.toInt).request
          (timeoutDeadline startTime durationNs)
      else deadlinesFor manager.mEventSessionTimeoutWorker other otherVote := by
  simp only [voteSetGpu, hsession]
  exact deadlinesFor_scheduleVoteTimeout hsession
    (((Quiet.links manager _).trans (Quiet.modifySession _ sessionId _)).trans
      (Quiet.applyGpuVotesLocked _ env sessionId startTime)).toFrame voteId.toInt
    startTime durationNs other otherVote

end

/-! ## Handling an event -/

variable (env : Env)

theorem timer_handleEvent_self (event : EventSessionTimeout) :
    (manager.handleEvent env event).timer event.sessionId event.voteId =
      (manager.timer event.sessionId event.voteId).handled env.now
        (manager.timer event.sessionId event.voteId).pending := by
  cases hsession : manager.session event.sessionId with
  | none =>
    have harmed : (manager.timer event.sessionId event.voteId).armed =
        none := by
      rw [timer, boost, hsession]
      rfl
    rw [handleEvent, hsession, Timer.handled, harmed]
    exact Timer.ext harmed rfl
  | some session =>
    have harmed := timer_armed_of_session hsession event.voteId
    simp only [handleEvent, hsession]
    rcases activeRange_cases session.value.votes event.voteId with
      ⟨hactive, hrange⟩ | ⟨range, hactive, hrange, htimeout⟩
    · rw [hrange] at harmed
      rw [hactive, if_neg Bool.false_ne_true, Timer.handled, harmed]
      exact Timer.ext harmed rfl
    · rw [hrange] at harmed
      rw [hactive, if_pos rfl, Timer.handled, harmed, htimeout]
      dsimp only
      split_ifs with hended
      · apply Timer.ext
        · rw [armed_onSession (boost_applyCpuAndGpuVotes _ env
            event.sessionId env.now), if_pos rfl,
            boost_modifySession manager event.sessionId (fun state =>
              { state with
                votes := state.votes.setUseVote event.voteId false })
              fun _ => rfl, onSession_self, boost, hsession]
          simp only [Option.map_some, Option.bind_some, applied]
          rw [activeRange_setUseVote_false, if_pos rfl]
        · rw [timer, (Quiet.applyCpuAndGpuVotes _ env event.sessionId
            env.now).worker]
          rfl
      · apply Timer.ext
        · exact harmed
        · exact deadlinesFor_cons_of_key ⟨rfl, rfl⟩

/-- Handling an event leaves every other timer alone. -/
theorem timer_handleEvent_of_ne (event : EventSessionTimeout)
    {voteId : VoteId}
    (hkey : ¬ (event.sessionId = sessionId ∧ event.voteId = voteId)) :
    (manager.handleEvent env event).timer sessionId voteId =
      manager.timer sessionId voteId := by
  apply Timer.ext
  · apply armed_eq_of_same (boost_handleEvent manager env event)
    intro hsession state
    have hvote : voteId ≠ event.voteId :=
      fun hvote => hkey ⟨hsession.symm, hvote.symm⟩
    rw [expiredBoost]
    split_ifs
    · exact (activeRange_setUseVote_false _ _ _).trans (if_neg hvote)
    · rfl
  · rw [timer, handleEvent]
    cases manager.session event.sessionId with
    | none => rfl
    | some session =>
      dsimp only
      split_ifs
      · rw [(Quiet.applyCpuAndGpuVotes _ env event.sessionId env.now).worker]
        rfl
      · exact deadlinesFor_cons_of_not_key hkey
      · rfl

/-- Dispatching an event is the firing of its timer. -/
theorem timer_dispatch {env : Env} {index : Nat} {pending : PendingTimeout}
    (hpending : manager.mEventSessionTimeoutWorker[index]? = some pending)
    (hdispatch : manager.dispatch env index = some next)
    (sessionId : SessionId) (voteId : VoteId) :
    (manager.timer sessionId voteId).step
        (if pending.event.sessionId = sessionId ∧
            pending.event.voteId = voteId then
          .fire pending.deadline env.now
        else .idle) = some (next.timer sessionId voteId) := by
  simp only [dispatch, hpending, Option.ite_none_right_eq_some,
    Option.some.injEq] at hdispatch
  obtain ⟨hdue, hnext⟩ := hdispatch
  have hqueue : (manager.timer sessionId voteId).pending =
      deadlinesFor (pending :: manager.mEventSessionTimeoutWorker.eraseIdx
        index) sessionId voteId := deadlinesFor_eraseIdx hpending
  split_ifs with hkey
  · obtain ⟨rfl, rfl⟩ := hkey
    rw [deadlinesFor_cons_of_key ⟨rfl, rfl⟩] at hqueue
    have hmem : pending.deadline ∈ (manager.timer pending.event.sessionId
        pending.event.voteId).pending := by
      rw [hqueue]
      exact Multiset.mem_cons_self _ _
    rw [Timer.step, if_pos ⟨hmem, hdue⟩, ← hnext, timer_handleEvent_self,
      hqueue, Multiset.erase_cons_head]
    rfl
  · rw [deadlinesFor_cons_of_not_key hkey] at hqueue
    rw [Timer.step, ← hnext, timer_handleEvent_of_ne env pending.event hkey]
    exact congrArg some (Timer.ext rfl hqueue)

/-! ## Every call is an event of every timer -/

/-- The event that `voteSet` is for the timer of its vote.  Under an id of the
other kind it stores no vote, but still asks for an event. -/
def voteEvent (stores : Bool) (startTime : TimePoint)
    (durationNs : Nanoseconds) : Event VoteRange TimePoint :=
  if stores then .arm ⟨true, startTime, durationNs⟩
  else .probe ⟨true, startTime, durationNs⟩

/-- The event that a call is for the timer of a vote. -/
def timerEvent (manager : PowerSessionManager) (call : Call)
    (sessionId : SessionId) (voteId : VoteId) : Event VoteRange TimePoint :=
  match call with
  | .removePowerSession _ target =>
    if sessionId = target then .disarm else .idle
  | .voteSetCpu _ target vote _ _ startTime durationNs =>
    if sessionId = target ∧ voteId = vote.toInt ∧
        (manager.session target).isSome then
      voteEvent (!isGpuVote vote.toInt) startTime durationNs
    else .idle
  | .voteSetGpu _ target vote _ startTime durationNs =>
    if sessionId = target ∧ voteId = vote.toInt ∧
        (manager.session target).isSome then
      voteEvent (isGpuVote vote.toInt) startTime durationNs
    else .idle
  | .updateTargetWorkDuration target vote durationNs =>
    if sessionId = target ∧ voteId = vote.toInt then
      .retime (·.updateDuration durationNs)
    else .idle
  | .disableBoosts target =>
    if sessionId = target ∧
        voteId ∈ disabledVotes.map AdpfVoteType.toInt then .disarm
    else .idle
  | .dispatch env index =>
    match manager.mEventSessionTimeoutWorker[index]? with
    | none => .idle
    | some pending =>
      if pending.event.sessionId = sessionId ∧
          pending.event.voteId = voteId then
        .fire pending.deadline env.now
      else .idle
  | _ => .idle

section Passive

variable (manager : PowerSessionManager) (sessionId : SessionId)
variable (voteId : VoteId)

theorem passive_removePowerSession (env : Env) (target : SessionId) :
    (manager.timerEvent (.removePowerSession env target) sessionId
      voteId).Passive := by
  rw [timerEvent]
  split_ifs <;> trivial

theorem passive_disableBoosts (target : SessionId) :
    (manager.timerEvent (.disableBoosts target) sessionId
      voteId).Passive := by
  rw [timerEvent]
  split_ifs <;> trivial

theorem passive_dispatch (env : Env) (index : Nat) :
    (manager.timerEvent (.dispatch env index) sessionId voteId).Passive := by
  rw [timerEvent]
  cases manager.mEventSessionTimeoutWorker[index]? with
  | none => trivial
  | some pending =>
    dsimp only
    split_ifs <;> trivial

end Passive

theorem step_idle_of_timer_eq (htimer : next.timer = manager.timer)
    (sessionId : SessionId) (voteId : VoteId) :
    (manager.timer sessionId voteId).step .idle =
      some (next.timer sessionId voteId) := by
  rw [htimer]
  rfl

/-- Adding a session arms nothing: its only vote is not active. -/
theorem timer_addPowerSession (before after : Env) (descriptor : AppHintDesc)
    (enableMetricCollection : Bool) (threadIds : List TaskId) :
    (manager.addPowerSession env before after descriptor
      enableMetricCollection threadIds).timer = manager.timer := by
  cases hboost : manager.boost descriptor.sessionId with
  | some state =>
    rw [addPowerSession_of_some manager env before after descriptor
      enableMetricCollection threadIds hboost]
    exact timer_eq_of_frame (Quiet.setThreadsFromPowerSession _ _ _ _ _).toFrame
      (boost_setThreadsFromPowerSession _ _ _ _ _) fun _ => rfl
  | none =>
    funext sessionId voteId
    apply Timer.ext
    · rw [timer, boost_addPowerSession_of_none _ _ _ _ _ _ _ hboost]
      by_cases hsession : sessionId = descriptor.sessionId
      · rw [hsession, Function.update_self, timer, hboost, Option.bind_some,
          createdBoost, activeRange, Votes.voteRange_addCpu]
        split_ifs <;> simp
      · rw [Function.update_of_ne hsession]
        rfl
    · rw [timer, (Quiet.addPowerSession manager env before after descriptor
        enableMetricCollection threadIds).worker]
      rfl

theorem timer_removePowerSession {env : Env}
    (hremove : manager.removePowerSession env target = some next)
    (sessionId : SessionId) (voteId : VoteId) :
    (manager.timer sessionId voteId).step
        (if sessionId = target then .disarm else .idle) =
      some (next.timer sessionId voteId) := by
  have hboost := boost_removePowerSession manager hremove
  have hworker := (Quiet.removePowerSession hremove).worker
  have htimer : next.timer sessionId voteId =
      ⟨(Function.update manager.boost target none sessionId).bind fun state =>
        activeRange state.votes voteId,
          (manager.timer sessionId voteId).pending⟩ := by
    rw [timer, hboost, hworker]
    rfl
  split_ifs with hsession
  · rw [htimer, hsession, Function.update_self]
    rfl
  · rw [htimer, Function.update_of_ne hsession]
    rfl

/-- What the two overloads of `voteSet` do to the timers, given what they do to
the votes and to the queue. -/
theorem timer_voteSet {vote : VoteId} {stores : Bool} {startTime : TimePoint}
    {durationNs : Nanoseconds}
    (hlive : (manager.session target).isSome)
    (hboost : next.boost = onSession manager.boost target change)
    (harmed : ∀ state voteId, activeRange (change state).votes voteId =
      if voteId = vote ∧ stores = true then some ⟨true, startTime, durationNs⟩
      else activeRange state.votes voteId)
    (hqueue : ∀ sessionId voteId,
      (next.timer sessionId voteId).pending =
        if sessionId = target ∧ voteId = vote then
          (manager.timer target vote).request
            (timeoutDeadline startTime durationNs)
        else (manager.timer sessionId voteId).pending)
    (sessionId : SessionId) (voteId : VoteId) :
    (manager.timer sessionId voteId).step
        (if sessionId = target ∧ voteId = vote ∧
            (manager.session target).isSome then
          voteEvent stores startTime durationNs
        else .idle) = some (next.timer sessionId voteId) := by
  have hpending := hqueue sessionId voteId
  simp only [hlive, and_true]
  by_cases hkey : sessionId = target ∧ voteId = vote
  · rw [if_pos hkey] at hpending ⊢
    obtain ⟨rfl, rfl⟩ := hkey
    obtain ⟨session, hsession⟩ := Option.isSome_iff_exists.mp hlive
    have hstate : manager.boost sessionId = some (boostOf session) := by
      rw [boost, hsession]
      rfl
    have hnext := armed_onSession hboost sessionId voteId
    rw [if_pos rfl, hstate, Option.bind_some, harmed] at hnext
    cases stores with
    | true =>
      rw [if_pos ⟨rfl, rfl⟩] at hnext
      exact congrArg some (Timer.ext hnext.symm hpending.symm)
    | false =>
      rw [if_neg fun hboth => Bool.false_ne_true hboth.2] at hnext
      refine congrArg some (Timer.ext ?_ hpending.symm)
      rw [hnext, timer_armed_of_session hsession]
      rfl
  · rw [if_neg hkey] at hpending ⊢
    refine congrArg some (Timer.ext (armed_eq_of_same hboost ?_).symm
      hpending.symm)
    intro hsession state
    rw [harmed, if_neg fun hboth => hkey ⟨hsession, hboth.1⟩]

section

variable (target : SessionId) (vote : AdpfVoteType)

theorem timer_voteSetCpu (uclampMin uclampMax : Int) (startTime : TimePoint)
    (durationNs : Nanoseconds) (sessionId : SessionId) (voteId : VoteId) :
    (manager.timer sessionId voteId).step (manager.timerEvent
        (.voteSetCpu env target vote uclampMin uclampMax startTime durationNs)
        sessionId voteId) =
      some ((manager.voteSetCpu env target vote uclampMin uclampMax startTime
        durationNs).timer sessionId voteId) := by
  cases hsession : manager.session target with
  | none => simp [timerEvent, voteSetCpu, hsession, Timer.step]
  | some session =>
    apply timer_voteSet
    · rw [hsession]
      rfl
    · exact boost_voteSetCpu manager env target vote uclampMin uclampMax
        startTime durationNs
    · intro state other
      rw [applied, activeRange_addCpu]
      simp only [Bool.not_eq_true']
    · exact deadlinesFor_voteSetCpu hsession env vote uclampMin uclampMax
        startTime durationNs

theorem timer_voteSetGpu (capacity : Cycles) (startTime : TimePoint)
    (durationNs : Nanoseconds) (sessionId : SessionId) (voteId : VoteId) :
    (manager.timer sessionId voteId).step (manager.timerEvent
        (.voteSetGpu env target vote capacity startTime durationNs) sessionId
        voteId) =
      some ((manager.voteSetGpu env target vote capacity startTime
        durationNs).timer sessionId voteId) := by
  cases hsession : manager.session target with
  | none => simp [timerEvent, voteSetGpu, hsession, Timer.step]
  | some session =>
    apply timer_voteSet
    · rw [hsession]
      rfl
    · exact boost_voteSetGpu manager env target vote capacity startTime
        durationNs
    · exact fun state other => activeRange_addGpu _ _ _ _ _ _
    · exact deadlinesFor_voteSetGpu hsession env vote capacity startTime
        durationNs

theorem timer_updateTargetWorkDuration (durationNs : Nanoseconds)
    (sessionId : SessionId) (voteId : VoteId) :
    (manager.timer sessionId voteId).step (manager.timerEvent
        (.updateTargetWorkDuration target vote durationNs) sessionId voteId) =
      some ((manager.updateTargetWorkDuration target vote durationNs).timer
        sessionId voteId) := by
  have hboost := boost_updateTargetWorkDuration manager target vote durationNs
  rw [timerEvent]
  split_ifs with hkey
  · obtain ⟨rfl, rfl⟩ := hkey
    refine congrArg some (Timer.ext ?_ rfl)
    rw [armed_onSession hboost, if_pos rfl, timer, boost]
    simp only [activeRange_updateDuration]
    cases manager.session sessionId <;> simp [boostOf]
  · refine congrArg some (Timer.ext (armed_eq_of_same hboost ?_).symm rfl)
    intro hsession state
    rw [activeRange_updateDuration, if_neg fun hvote => hkey ⟨hsession, hvote⟩]

end

theorem timer_disableBoosts (target sessionId : SessionId) (voteId : VoteId) :
    (manager.timer sessionId voteId).step (manager.timerEvent
        (.disableBoosts target) sessionId voteId) =
      some ((manager.disableBoosts target).timer sessionId voteId) := by
  have hboost := boost_disableBoosts manager target
  rw [timerEvent]
  split_ifs with hkey
  · refine congrArg some (Timer.ext ?_ rfl)
    rw [armed_onSession hboost, if_pos hkey.1]
    simp only [activeRange_disabled, hkey.2, if_true]
    cases manager.boost sessionId <;> rfl
  · refine congrArg some (Timer.ext (armed_eq_of_same hboost ?_).symm rfl)
    intro hsession state
    rw [activeRange_disabled, if_neg fun hvote => hkey ⟨hsession, hvote⟩]

/-- The simulation: a call of the manager takes the timer of every vote
through one event. -/
theorem timer_step {call : Call} (hstep : manager.step call = some next)
    (sessionId : SessionId) (voteId : VoteId) :
    (manager.timer sessionId voteId).step
        (manager.timerEvent call sessionId voteId) =
      some (next.timer sessionId voteId) := by
  cases call with
  | removePowerSession =>
    exact timer_removePowerSession hstep sessionId voteId
  | dispatch env index =>
    cases hpending : manager.mEventSessionTimeoutWorker[index]? with
    | none => simp [step, dispatch, hpending] at hstep
    | some pending =>
      simp only [timerEvent, hpending]
      exact timer_dispatch hpending hstep sessionId voteId
  | voteSetCpu env target vote uclampMin uclampMax startTime durationNs =>
    cases hstep
    exact timer_voteSetCpu env target vote uclampMin uclampMax startTime
      durationNs sessionId voteId
  | voteSetGpu env target vote capacity startTime durationNs =>
    cases hstep
    exact timer_voteSetGpu env target vote capacity startTime durationNs
      sessionId voteId
  | updateTargetWorkDuration target vote durationNs =>
    cases hstep
    exact timer_updateTargetWorkDuration target vote durationNs sessionId voteId
  | disableBoosts target =>
    cases hstep
    exact timer_disableBoosts target sessionId voteId
  | addPowerSession env before after descriptor enableMetricCollection
      threadIds =>
      cases hstep
      exact step_idle_of_timer_eq (timer_addPowerSession env before after
        descriptor enableMetricCollection threadIds) sessionId voteId
  | setThreadsFromPowerSession =>
    cases hstep
    exact step_idle_of_timer_eq (timer_eq_of_frame
      (Quiet.setThreadsFromPowerSession _ _ _ _ _).toFrame
      (boost_setThreadsFromPowerSession _ _ _ _ _) fun _ => rfl) _ _
  | pause =>
    cases hstep
    refine step_idle_of_timer_eq (timer_eq_of_frame (Frame.pause _ _ _)
      (boost_pause _ _ _) fun state => ?_) _ _
    rw [pausedBoost]
    split_ifs <;> rfl
  | resume =>
    cases hstep
    refine step_idle_of_timer_eq (timer_eq_of_frame (Quiet.resume _ _ _).toFrame
      (boost_resume _ _ _) fun state => ?_) _ _
    rw [resumedBoost]
    split_ifs <;> rfl
  | setPreferPowerEfficiency =>
    cases hstep
    refine step_idle_of_timer_eq (timer_eq_of_frame
      (Quiet.setPreferPowerEfficiency _ _ _ _).toFrame
      (boost_setPreferPowerEfficiency _ _ _ _) fun state => ?_) _ _
    split_ifs <;> rfl
  | updateRampupBoostMode =>
    cases hstep
    exact step_idle_of_timer_eq (timer_eq_of_frame
      (Frame.updateRampupBoostMode _ _ _ _ _)
      (boost_updateRampupBoostMode _ _ _ _ _) fun _ => rfl) _ _
  | updateHboostStatistics =>
    cases hstep
    exact step_idle_of_timer_eq (timer_eq_of_boost
      (Quiet.modifySession _ _ _).toFrame
      (boost_updateHboostStatistics _ _ _ _)) _ _
  | updateFrameMetrics =>
    cases hstep
    exact step_idle_of_timer_eq (timer_eq_of_boost
      (Quiet.modifySession _ _ _).toFrame (boost_updateFrameMetrics _ _ _)) _ _
  | updateCollectedSessionMetrics =>
    cases hstep
    exact step_idle_of_timer_eq (timer_eq_of_boost
      (Quiet.updateCollectedSessionMetrics _ _ _).toFrame
      (boost_updateCollectedSessionMetrics _ _ _)) _ _
  | updateHintMode =>
    cases hstep
    exact step_idle_of_timer_eq (timer_eq_of_boost
      (Frame.updateHintMode _ _ _)
      (boost_updateHintMode _ _ _)) _ _

end PowerSessionManager

end HardwareInterfaces.SessionManager

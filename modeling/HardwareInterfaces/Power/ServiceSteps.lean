import HardwareInterfaces.Power.PowerHintSession
import HardwareInterfaces.Power.SessionEffects

/-!
# What a step of the service does to a session

A hint session is the session object of the client and an entry in the manager.
This file says once what can happen to the two: which manager calls change the
entry and how, which binder calls change the flags of the session object, and
which of these a step of the service amounts to.
-/

namespace HardwareInterfaces.HintSession

open AdpfTypes SessionManager
open SessionManager.PowerSessionManager
  (disabledVotes expiredBoost pausedBoost rampupWanted resumedBoost)

/-! ## Manager calls of a session -/

namespace ManagerCall

/-- What a call does to the entry of its session. -/
def reaction (before after : Env) : ManagerCall → BoostState → Option BoostState
  | removePowerSession, _ => none
  | setThreadsFromPowerSession threadIds, state => some
      { state with
        isActive := true, linkedTasks := liveThreads after threadIds }
  | pause, state => some (pausedBoost after state)
  | resume, state => some (resumedBoost after state)
  | updateTargetWorkDuration voteId durationNs, state => some
      { state with
        votes := state.votes.updateDuration voteId.toInt durationNs }
  | voteSetCpu voteId uclampMin uclampMax durationNs, state => some
      (applied after { state with
        votes := state.votes.addCpu voteId.toInt
          ⟨⟨true, before.now, durationNs⟩, ⟨uclampMin, uclampMax⟩⟩ })
  | voteSetGpu voteId capacity durationNs, state => some
      { state with
        votes := state.votes.addGpu voteId.toInt
          ⟨⟨true, before.now, durationNs⟩, capacity⟩ }
  | disableBoosts, state => some
      { state with
        votes := disabledVotes.foldl
          (fun votes vid => votes.setUseVote vid.toInt false) state.votes }
  | setPreferPowerEfficiency enabled, state => some
      (if enabled = state.isPowerEfficient then state
      else applied after { state with isPowerEfficient := enabled })
  | updateRampupBoostMode jankyLevel _ _, state => some
      { state with
        rampupBoostActive := rampupWanted state.isActive jankyLevel }
  | updateHboostStatistics _ _, state => some state
  | updateFrameMetrics _, state => some state
  | updateCollectedSessionMetrics, state => some state

/-- The manager's flag after a call, given the flag before. -/
def activeAfter (isActive : Bool) : ManagerCall → Bool
  | setThreadsFromPowerSession _ => true
  | pause => false
  | resume => true
  | _ => isActive

variable {before after : Env} {call : ManagerCall} {state next : BoostState}

theorem reaction_isActive (hreaction : call.reaction before after state =
      some next) :
    next.isActive = activeAfter state.isActive call := by
  cases call with
  | removePowerSession => cases hreaction
  | pause =>
    cases hreaction
    rw [pausedBoost, activeAfter]
    cases hactive : state.isActive with
    | true => rfl
    | false => exact hactive
  | resume =>
    cases hreaction
    rw [resumedBoost, activeAfter]
    cases hactive : state.isActive with
    | true => exact hactive
    | false => rfl
  | setPreferPowerEfficiency =>
    cases hreaction
    change _ = state.isActive
    split_ifs <;> rfl
  | _ =>
    cases hreaction
    rfl

/-- Only setting its threads can link a session that has none. -/
theorem reaction_unlinked (hreaction : call.reaction before after state =
      some next)
    (hunlinked : state.linkedTasks = [])
    (hthreads : ∀ threadIds, call = .setThreadsFromPowerSession threadIds →
      liveThreads after threadIds = []) :
    next.linkedTasks = [] := by
  have happlied : ∀ other : BoostState, other.linkedTasks = [] →
      (applied after other).linkedTasks = [] := by
    intro other hother
    rw [applied, hother, liveThreads_nil]
  cases call with
  | removePowerSession => cases hreaction
  | setThreadsFromPowerSession threadIds =>
    cases hreaction
    exact hthreads threadIds rfl
  | pause =>
    cases hreaction
    rw [pausedBoost]
    split_ifs
    · exact happlied _ hunlinked
    · exact hunlinked
  | resume =>
    cases hreaction
    rw [resumedBoost]
    split_ifs
    · exact hunlinked
    · exact happlied _ hunlinked
  | setPreferPowerEfficiency =>
    cases hreaction
    split_ifs
    · exact hunlinked
    · exact happlied _ hunlinked
  | voteSetCpu =>
    cases hreaction
    exact happlied _ hunlinked
  | _ =>
    cases hreaction
    exact hunlinked

/-- A session's call changes the entry of that session only. -/
theorem boost_toCall {manager nextManager : PowerSessionManager}
    {sessionId : SessionId}
    (hstep : manager.step (call.toCall before after sessionId) =
      some nextManager) :
    nextManager.boost = Function.update manager.boost sessionId
      ((manager.boost sessionId).bind (call.reaction before after)) := by
  have honSession : ∀ change : BoostState → BoostState,
      onSession manager.boost sessionId change =
        Function.update manager.boost sessionId
          ((manager.boost sessionId).bind fun state => some (change state)) := by
    intro change
    rw [onSession, Option.map_eq_bind]
    rfl
  have hsame : manager.boost = Function.update manager.boost sessionId
      ((manager.boost sessionId).bind some) := by
    rw [Option.bind_fun_some, Function.update_eq_self]
  cases call with
  | removePowerSession =>
    rw [PowerSessionManager.boost_removePowerSession manager hstep]
    cases manager.boost sessionId <;> rfl
  | setThreadsFromPowerSession =>
    cases hstep
    rw [PowerSessionManager.boost_setThreadsFromPowerSession, honSession]
    rfl
  | pause =>
    cases hstep
    rw [PowerSessionManager.boost_pause, honSession]
    rfl
  | resume =>
    cases hstep
    rw [PowerSessionManager.boost_resume, honSession]
    rfl
  | updateTargetWorkDuration =>
    cases hstep
    rw [PowerSessionManager.boost_updateTargetWorkDuration, honSession]
    rfl
  | voteSetCpu =>
    cases hstep
    rw [PowerSessionManager.boost_voteSetCpu, honSession]
    rfl
  | voteSetGpu =>
    cases hstep
    rw [PowerSessionManager.boost_voteSetGpu, honSession]
    rfl
  | disableBoosts =>
    cases hstep
    rw [PowerSessionManager.boost_disableBoosts, honSession]
    rfl
  | setPreferPowerEfficiency =>
    cases hstep
    rw [PowerSessionManager.boost_setPreferPowerEfficiency, honSession]
    rfl
  | updateRampupBoostMode =>
    cases hstep
    rw [PowerSessionManager.boost_updateRampupBoostMode, honSession]
    rfl
  | updateHboostStatistics =>
    cases hstep
    rw [PowerSessionManager.boost_updateHboostStatistics]
    exact hsame
  | updateFrameMetrics =>
    cases hstep
    rw [PowerSessionManager.boost_updateFrameMetrics]
    exact hsame
  | updateCollectedSessionMetrics =>
    cases hstep
    rw [PowerSessionManager.boost_updateCollectedSessionMetrics]
    exact hsame

/-- Only the removal of a session that is gone fails. -/
theorem isSome_step_toCall {manager : PowerSessionManager}
    {sessionId : SessionId}
    (hlive : call = .removePowerSession →
      (manager.boost sessionId).isSome) :
    (manager.step (call.toCall before after sessionId)).isSome := by
  cases call with
  | removePowerSession =>
    exact (PowerSessionManager.removePowerSession_isSome_iff manager after
      sessionId).mpr (hlive rfl)
  | _ => rfl

/-- A call after which an active entry is still there and active. -/
def Steady (call : ManagerCall) : Prop :=
  call ≠ .removePowerSession ∧ activeAfter true call = true

end ManagerCall

/-! ## Accepted binder calls -/

namespace PowerHintSession

variable {session : PowerHintSession} {env : ClientEnv}

/-- An accepted call that leaves both flags alone. -/
structure Keeps (session : PowerHintSession) (accepted : Accepted) : Prop where
  isActive : accepted.session.mDescriptor.isActive =
    session.mDescriptor.isActive
  closed : accepted.session.mSessionClosed = session.mSessionClosed
  steady : ∀ call ∈ accepted.calls, call.Steady

/-- What an accepted call does to the flags. -/
inductive Accepts (session : PowerHintSession) (accepted : Accepted) :
    Request → Prop
  | pause
      (hsession : accepted.session = session.setActive false)
      (hcalls : accepted.calls = [.pause, .setThreadsFromPowerSession []]) :
      Accepts session accepted .pause
  | resume
      (hsession : accepted.session = session.setActive true)
      (hcalls : accepted.calls =
        [.setThreadsFromPowerSession session.mDescriptor.threadIds,
          .resume]) :
      Accepts session accepted .resume
  | close
      (hclosed : accepted.session.mSessionClosed = true)
      (hcalls : accepted.calls = [.removePowerSession]) :
      Accepts session accepted .close
  | other {request : Request} (hpause : request ≠ .pause)
      (hresume : request ≠ .resume) (hkeeps : session.Keeps accepted) :
      Accepts session accepted request

variable {accepted : Accepted}

/-- A check that did not fail has been passed. -/
theorem passed_of_ok {check : Prop} [Decidable check] {failure : Failure}
    {rest : Except Failure Accepted}
    (hok : (if check then .error failure else rest) = .ok accepted) :
    ¬ check ∧ rest = .ok accepted := by
  by_cases hcheck : check
  · rw [if_pos hcheck] at hok
    cases hok
  · rw [if_neg hcheck] at hok
    exact ⟨hcheck, hok⟩

theorem Keeps.of_map {Input : Type} {input : Except Failure Input}
    {finish : Input → Accepted} (hmap : input.map finish = .ok accepted)
    (hkeeps : ∀ value, input = .ok value → session.Keeps (finish value)) :
    session.Keeps accepted := by
  cases input with
  | error => cases hmap
  | ok value =>
    cases hmap
    exact hkeeps value rfl

variable {rampupMultNode : Bool} {report : Report}

theorem steady_hboostCalls {calls : List ManagerCall}
    (hcalls : session.hboostCalls env rampupMultNode report = .ok calls) :
    ∀ call ∈ calls, call.Steady := by
  rw [hboostCalls] at hcalls
  split_ifs at hcalls
  · cases hcalls
    simp
  · split at hcalls
    · cases hcalls
      simp [ManagerCall.Steady, ManagerCall.activeAfter]
    · cases hcalls
  · cases hcalls
    simp [ManagerCall.Steady, ManagerCall.activeAfter]

theorem steady_gpuCalls (report : Report) (lastDuration : WorkDuration) :
    ∀ call ∈ session.gpuCalls env report lastDuration, call.Steady := by
  rw [gpuCalls]
  split
  · split_ifs <;> simp [ManagerCall.Steady, ManagerCall.activeAfter]
  · simp

theorem steady_disableBoosts : ManagerCall.disableBoosts.Steady :=
  ⟨ManagerCall.noConfusion, rfl⟩

theorem steady_pidVote (pidControlVariable : Int) :
    (session.pidVote env pidControlVariable).Steady :=
  ⟨ManagerCall.noConfusion, rfl⟩

theorem keeps_boostByPid {lastDuration : WorkDuration}
    (haccept : session.boostByPid env rampupMultNode report lastDuration =
      .ok accepted) : session.Keeps accepted := by
  apply Keeps.of_map haccept
  intro hboost hcalls
  refine ⟨rfl, rfl, ?_⟩
  exact List.forall_mem_append.mpr
    ⟨List.forall_mem_cons.mpr ⟨steady_disableBoosts, steady_hboostCalls hcalls⟩,
    List.forall_mem_cons.mpr
      ⟨steady_pidVote _, steady_gpuCalls report lastDuration⟩⟩

theorem keeps_reportActualWorkDuration
    (haccept : session.reportActualWorkDuration env rampupMultNode report =
      .ok accepted) :
    session.mSessionClosed = false ∧ session.Keeps accepted := by
  obtain ⟨hclosed, haccept⟩ := passed_of_ok haccept
  obtain ⟨-, haccept⟩ := passed_of_ok haccept
  refine ⟨Bool.eq_false_iff.mpr hclosed, ?_⟩
  cases hlast : report.actualDurations.getLast? with
  | none =>
    rw [hlast] at haccept
    cases haccept
  | some lastDuration =>
    rw [hlast] at haccept
    obtain ⟨-, haccept⟩ := passed_of_ok haccept
    cases hpid : env.adpfProfile.mPidOn with
    | false =>
      rw [hpid] at haccept
      cases haccept
      exact ⟨rfl, rfl, List.forall_mem_cons.mpr ⟨steady_disableBoosts,
        List.forall_mem_singleton.mpr (steady_pidVote _)⟩⟩
    | true =>
      rw [hpid] at haccept
      have hkeeps := keeps_boostByPid haccept
      exact ⟨hkeeps.isActive, hkeeps.closed, hkeeps.steady⟩

theorem keeps_hintCalls {hint : SessionHint}
    {result : PowerHintSession × List ManagerCall}
    (hcalls : session.hintCalls env hint = .ok result)
    (hints : List PowerHint) :
    session.Keeps
      ⟨{ result.1 with mLastUpdatedTime := env.now }, result.2, hints⟩ := by
  cases hint with
  | invalid raw => cases hcalls
  | _ =>
    cases hcalls
    refine ⟨rfl, rfl, ?_⟩
    simp [ManagerCall.Steady, ManagerCall.activeAfter, pidVote]

/-- Every accepted call is on an open session, and only `pause`, `resume` and
`close` touch the flags. -/
theorem accepts_of_accept {manager : PowerSessionManager} {request : Request}
    (haccept : session.accept env manager request = .ok accepted) :
    session.mSessionClosed = false ∧ session.Accepts accepted request := by
  cases request with
  | pause =>
    obtain ⟨hclosed, haccept⟩ := passed_of_ok haccept
    obtain ⟨-, haccept⟩ := passed_of_ok haccept
    cases haccept
    exact ⟨Bool.eq_false_iff.mpr hclosed, .pause rfl rfl⟩
  | resume =>
    obtain ⟨hclosed, haccept⟩ := passed_of_ok haccept
    obtain ⟨-, haccept⟩ := passed_of_ok haccept
    cases haccept
    exact ⟨Bool.eq_false_iff.mpr hclosed, .resume rfl rfl⟩
  | close =>
    obtain ⟨hclosed, haccept⟩ := passed_of_ok haccept
    cases haccept
    exact ⟨Bool.eq_false_iff.mpr hclosed, .close rfl rfl⟩
  | updateTargetWorkDuration =>
    obtain ⟨hclosed, haccept⟩ := passed_of_ok haccept
    obtain ⟨-, haccept⟩ := passed_of_ok haccept
    cases haccept
    refine ⟨Bool.eq_false_iff.mpr hclosed, .other nofun nofun ⟨rfl, rfl, ?_⟩⟩
    simp [ManagerCall.Steady, ManagerCall.activeAfter]
  | reportActualWorkDuration =>
    obtain ⟨hopen, hkeeps⟩ := keeps_reportActualWorkDuration haccept
    exact ⟨hopen, .other nofun nofun hkeeps⟩
  | sendHint hint =>
    obtain ⟨hclosed, haccept⟩ := passed_of_ok haccept
    obtain ⟨-, haccept⟩ := passed_of_ok haccept
    refine ⟨Bool.eq_false_iff.mpr hclosed, .other nofun nofun ?_⟩
    apply Keeps.of_map haccept
    intro result hresult
    exact keeps_hintCalls hresult _
  | setMode mode =>
    obtain ⟨hclosed, haccept⟩ := passed_of_ok haccept
    cases mode with
    | powerEfficiency =>
      cases haccept
      refine ⟨Bool.eq_false_iff.mpr hclosed, .other nofun nofun ⟨rfl, rfl, ?_⟩⟩
      simp [ManagerCall.Steady, ManagerCall.activeAfter]
    | other raw => cases haccept
  | setThreads =>
    obtain ⟨hclosed, haccept⟩ := passed_of_ok haccept
    obtain ⟨-, haccept⟩ := passed_of_ok haccept
    cases haccept
    refine ⟨Bool.eq_false_iff.mpr hclosed, .other nofun nofun ⟨rfl, rfl, ?_⟩⟩
    simp [ManagerCall.Steady, ManagerCall.activeAfter, pidVote]

end PowerHintSession

/-! ## Steps of the service -/

/-- The session that an action is addressed to. -/
def Action.target : Action → Option SessionId
  | .call sessionId _ _ => some sessionId
  | .proceed sessionId _ _ => some sessionId
  | _ => none

namespace PowerService

/-- The entry of a session in the manager. -/
def entry (service : PowerService) (sessionId : SessionId) :
    Option BoostState :=
  service.mPSManager.boost sessionId

/-- What a step can do to one session and to its entry. -/
inductive Moves (service next : PowerService) (sessionId : SessionId) :
    Action → Prop
  | unconcerned {action : Action}
      (htarget : action.target ≠ some sessionId)
      (hsession : next.sessions sessionId = service.sessions sessionId)
      (hentry : next.entry sessionId = service.entry sessionId) :
      Moves service next sessionId action
  | created {env before after : Env} {adpfProfile : AdpfConfig}
      {enableMetricCollection : Bool} {request : SessionRequest}
      {state : BoostState}
      (hid : sessionId = service.sSessionIDCounter + 1)
      (hcounter : next.sSessionIDCounter = sessionId)
      (hsession : next.sessions sessionId =
        some ⟨⟨service.newDescriptor request, env.now, false, .light⟩, none,
          initialVotes adpfProfile request.durationNanos⟩)
      (hentry : next.entry sessionId = some state)
      (hactive : state.isActive = true) :
      Moves service next sessionId (.createHintSession env before after
        adpfProfile enableMetricCollection request)
  | called {env : ClientEnv} {request : Request} {session : PowerHintSession}
      {last : Option Request} {accepted : Accepted}
      (hsession : service.sessions sessionId = some ⟨session, last, []⟩)
      (haccept : session.accept env service.mPSManager request = .ok accepted)
      (hnext : next.sessions sessionId =
        some ⟨accepted.session, some request, accepted.calls⟩)
      (hentry : next.entry sessionId = service.entry sessionId) :
      Moves service next sessionId (.call sessionId env request)
  | proceeded {before after : Env} {session : PowerHintSession}
      {last : Option Request} {call : ManagerCall} {rest : List ManagerCall}
      (hsession : service.sessions sessionId =
        some ⟨session, last, call :: rest⟩)
      (hnext : next.sessions sessionId = some ⟨session, last, rest⟩)
      (hentry : next.entry sessionId =
        (service.entry sessionId).bind (call.reaction before after)) :
      Moves service next sessionId (.proceed sessionId before after)
  | expired {env : Env} {index : Nat} {voteId : VoteId}
      (hsession : next.sessions sessionId = service.sessions sessionId)
      (hentry : next.entry sessionId =
        (service.entry sessionId).map (expiredBoost env voteId)) :
      Moves service next sessionId (.dispatch env index)

variable {service next : PowerService} {sessionId : SessionId}

theorem moves_createHintSession {env before after : Env}
    {adpfProfile : AdpfConfig} {enableMetricCollection : Bool}
    {request : SessionRequest}
    (hstep : service.createHintSession env before after adpfProfile
      enableMetricCollection request = some next) :
    Moves service next sessionId (.createHintSession env before after
      adpfProfile enableMetricCollection request) := by
  rw [createHintSession] at hstep
  split_ifs at hstep
  have hboost : ∃ state, (service.mPSManager.addPowerSession env before after
      (service.newDescriptor request)
      (decide (request.procTag ≠ .systemUi) && enableMetricCollection)
      request.threadIds).boost =
        Function.update service.mPSManager.boost
          (service.sSessionIDCounter + 1) (some state) ∧
            state.isActive = true := by
    cases hlive : service.mPSManager.boost
        (service.newDescriptor request).sessionId with
    | none =>
      exact ⟨_, PowerSessionManager.boost_addPowerSession_of_none _ _ _ _ _
        _ _ hlive, rfl⟩
    | some state =>
      rw [PowerSessionManager.addPowerSession_of_some _ _ _ _ _ _ _ hlive,
        PowerSessionManager.boost_setThreadsFromPowerSession, onSession,
        hlive]
      exact ⟨_, rfl, rfl⟩
  dsimp only at hstep
  generalize service.mPSManager.addPowerSession env before after
    (service.newDescriptor request)
    (decide (request.procTag ≠ .systemUi) && enableMetricCollection)
    request.threadIds = manager at hboost hstep
  obtain ⟨state, hboost, hactive⟩ := hboost
  cases hstep
  by_cases hid : sessionId = service.sSessionIDCounter + 1
  · have hentry : manager.boost sessionId = some state := by
      rw [hboost, hid, Function.update_self]
    have hcounter : (service.newDescriptor request).sessionId = sessionId :=
      hid.symm
    have hsession := Function.update_self sessionId
      (some (HostedSession.mk ⟨service.newDescriptor request, env.now, false,
        .light⟩ none (initialVotes adpfProfile request.durationNanos)))
      service.sessions
    rw [← hcounter] at hsession
    exact .created hid hcounter (hcounter ▸ hsession) hentry hactive
  · have hentry : manager.boost sessionId =
        service.mPSManager.boost sessionId := by
      rw [hboost, Function.update_of_ne hid]
    exact .unconcerned (Option.some_ne_none _).symm
      (Function.update_of_ne hid _ _) hentry

theorem moves_call {target : SessionId} {env : ClientEnv} {request : Request}
    (hstep : service.call target env request = some next) :
    Moves service next sessionId (.call target env request) := by
  rw [call] at hstep
  split at hstep
  · rename_i session last hsession
    split at hstep
    · cases hstep
    · rename_i accepted haccept
      cases hstep
      by_cases hid : sessionId = target
      · subst hid
        exact .called hsession haccept (Function.update_self _ _ _) rfl
      · have htarget : some target ≠ some sessionId :=
          fun hsame => hid (Option.some.inj hsame).symm
        exact .unconcerned htarget (Function.update_of_ne hid _ _) rfl
  · cases hstep

theorem moves_proceed {target : SessionId} {before after : Env}
    (hstep : service.proceed target before after = some next) :
    Moves service next sessionId (.proceed target before after) := by
  rw [proceed] at hstep
  split at hstep
  · rename_i session last call rest hsession
    obtain ⟨manager, hmanager, rfl⟩ := Option.map_eq_some_iff.mp hstep
    have hboost := ManagerCall.boost_toCall hmanager
    by_cases hid : sessionId = target
    · subst hid
      have hentry : manager.boost sessionId =
          (service.mPSManager.boost sessionId).bind
            (call.reaction before after) := by
        rw [hboost, Function.update_self]
      exact .proceeded hsession (Function.update_self _ _ _) hentry
    · have hentry : manager.boost sessionId =
          service.mPSManager.boost sessionId := by
        rw [hboost, Function.update_of_ne hid]
      have htarget : some target ≠ some sessionId :=
        fun hsame => hid (Option.some.inj hsame).symm
      exact .unconcerned htarget (Function.update_of_ne hid _ _) hentry
  · cases hstep

theorem moves_dispatch {env : Env} {index : Nat}
    {manager : PowerSessionManager}
    (hstep : service.mPSManager.dispatch env index = some manager) :
    Moves service { service with mPSManager := manager } sessionId
      (.dispatch env index) := by
  rw [PowerSessionManager.dispatch] at hstep
  split at hstep
  · cases hstep
  · rename_i pending hpending
    split_ifs at hstep
    have hboost : manager.boost = onSession service.mPSManager.boost
        pending.event.sessionId (expiredBoost env pending.event.voteId) := by
      rw [← Option.some.inj hstep, PowerSessionManager.boost_handleEvent]
      rfl
    by_cases hid : sessionId = pending.event.sessionId
    · have hentry : manager.boost sessionId =
          (service.mPSManager.boost sessionId).map
            (expiredBoost env pending.event.voteId) := by
        rw [hboost, hid, onSession_self]
      exact .expired rfl hentry
    · have hentry : manager.boost sessionId =
          service.mPSManager.boost sessionId := by
        rw [hboost, onSession_of_ne _ hid]
      exact .unconcerned (Option.some_ne_none _).symm rfl hentry

theorem moves_of_step {action : Action}
    (hstep : service.step action = some next) (sessionId : SessionId) :
    Moves service next sessionId action := by
  cases action with
  | createHintSession => exact moves_createHintSession hstep
  | call => exact moves_call hstep
  | proceed => exact moves_proceed hstep
  | dispatch =>
    obtain ⟨manager, hmanager, rfl⟩ := Option.map_eq_some_iff.mp hstep
    exact moves_dispatch hmanager
  | updateHintMode =>
    cases hstep
    refine .unconcerned (Option.some_ne_none _).symm rfl ?_
    exact congrFun (PowerSessionManager.boost_updateHintMode _ _ _) sessionId

end PowerService

end HardwareInterfaces.HintSession

import HardwareInterfaces.Power.ServiceSteps
import HardwareInterfaces.Power.VoteAggregation

/-!
# Pausing a hint session

A session is paused in two places.  The session object remembers what the
client asked for last.  The entry in the manager has a flag of its own, which
decides whether the session's votes count.  Setting the threads of a session
always switches the manager's flag on, and `pause` sets the threads, to none,
after it has switched the flag off.  A paused session is therefore active for
the manager, and its votes are kept out of the ranges only because it has no
threads.
-/

namespace HardwareInterfaces.HintSession

open AdpfTypes SessionManager
open SessionManager.PowerSessionManager (expiredBoost)
open Transition UClampVoter

namespace ManagerCall

theorem exists_reaction {call : ManagerCall}
    (hcall : call ≠ .removePowerSession) (before after : Env)
    (state : BoostState) :
    ∃ next, call.reaction before after state = some next := by
  cases call with
  | removePowerSession => exact absurd rfl hcall
  | _ => exact ⟨_, rfl⟩

theorem notMem_of_steady {calls : List ManagerCall}
    (hsteady : ∀ call ∈ calls, call.Steady) :
    ManagerCall.removePowerSession ∉ calls :=
  fun hremove => (hsteady _ hremove).1 rfl

theorem foldl_activeAfter_of_steady {calls : List ManagerCall}
    (hsteady : ∀ call ∈ calls, call.Steady) :
    calls.foldl activeAfter true = true := by
  induction calls with
  | nil => rfl
  | cons call rest ih =>
    obtain ⟨hcall, hrest⟩ := List.forall_mem_cons.mp hsteady
    rw [List.foldl_cons, hcall.2]
    exact ih hrest

end ManagerCall

theorem expiredBoost_isActive (env : Env) (voteId : VoteId)
    (state : BoostState) :
    (expiredBoost env voteId state).isActive = state.isActive := by
  rw [expiredBoost]
  split_ifs <;> rfl

theorem expiredBoost_unlinked (env : Env) (voteId : VoteId)
    {state : BoostState} (hunlinked : state.linkedTasks = []) :
    (expiredBoost env voteId state).linkedTasks = [] := by
  rw [expiredBoost]
  split_ifs
  · rw [applied, hunlinked, liveThreads_nil]
  · exact hunlinked

/-! ## Open sessions have active entries -/

namespace PowerService

/-- A session object and its entry.  An open session has an entry, and the
entry is active once the session's current call is over. -/
structure Hosts (entry : Option BoostState) (hosted : HostedSession) :
    Prop where
  removal : .removePowerSession ∈ hosted.pending →
    hosted.session.mSessionClosed = true ∧
      hosted.pending = [.removePowerSession]
  live : hosted.session.mSessionClosed = false ∨
    .removePowerSession ∈ hosted.pending → entry.isSome
  settles : hosted.session.mSessionClosed = false →
    ∀ state, entry = some state →
      hosted.pending.foldl ManagerCall.activeAfter state.isActive = true

/-- What every run of the service keeps. -/
structure Kept (service : PowerService) : Prop where
  fresh : ∀ sessionId, service.sSessionIDCounter < sessionId →
    service.sessions sessionId = none
  hosts : ∀ sessionId hosted, service.sessions sessionId = some hosted →
    Hosts (service.entry sessionId) hosted

theorem kept_init (gpuCapacityNode taskRampupMultNode : Bool)
    (maxNumOfCachedSessionMetrics : Nat) :
    (init gpuCapacityNode taskRampupMultNode
      maxNumOfCachedSessionMetrics).Kept :=
  ⟨fun _ _ => rfl,
    fun _ hosted hnone => absurd hnone.symm (Option.some_ne_none hosted)⟩

variable {service next : PowerService} {sessionId : SessionId}

variable {entry : Option BoostState} {session : PowerHintSession}
  {last : Option Request}

theorem hosts_called {request : Request} {accepted : Accepted}
    (hhosts : Hosts entry ⟨session, last, []⟩)
    (hopen : session.mSessionClosed = false)
    (haccepts : session.Accepts accepted request) :
    Hosts entry ⟨accepted.session, some request, accepted.calls⟩ := by
  have hlive := hhosts.live (Or.inl hopen)
  have hactive := hhosts.settles hopen
  cases haccepts with
  | pause hsession hcalls =>
    rw [hcalls]
    exact ⟨by simp, fun _ => hlive, fun _ _ _ => rfl⟩
  | resume hsession hcalls =>
    rw [hcalls]
    exact ⟨by simp, fun _ => hlive, fun _ _ _ => rfl⟩
  | close hclosed hcalls =>
    rw [hcalls]
    refine ⟨fun _ => ⟨hclosed, rfl⟩, fun _ => hlive, fun hnot => ?_⟩
    exact absurd (hclosed.symm.trans hnot) Bool.noConfusion
  | other hpause hresume hkeeps =>
    have hremove := ManagerCall.notMem_of_steady hkeeps.steady
    refine ⟨fun hmem => absurd hmem hremove, fun _ => hlive, ?_⟩
    intro _ state hstate
    rw [show state.isActive = true from hactive state hstate]
    exact ManagerCall.foldl_activeAfter_of_steady hkeeps.steady

variable {call : ManagerCall}

theorem hosts_proceeded {rest : List ManagerCall} (before after : Env)
    (hhosts : Hosts entry ⟨session, last, call :: rest⟩) :
    Hosts (entry.bind (call.reaction before after)) ⟨session, last, rest⟩ := by
  have hrest : ManagerCall.removePowerSession ∉ rest := by
    intro hmem
    obtain ⟨-, honly⟩ := hhosts.removal (List.mem_cons_of_mem call hmem)
    rw [(List.cons.inj honly).2] at hmem
    cases hmem
  refine ⟨fun hmem => absurd hmem hrest, ?_, ?_⟩
  · rintro (hopen | hmem)
    · have hcall : call ≠ .removePowerSession := by
        rintro rfl
        obtain ⟨hclosed, -⟩ := hhosts.removal List.mem_cons_self
        exact absurd (hclosed.symm.trans hopen) Bool.noConfusion
      obtain ⟨state, hstate⟩ :=
        Option.isSome_iff_exists.mp (hhosts.live (Or.inl hopen))
      obtain ⟨reacted, hreacted⟩ :=
        ManagerCall.exists_reaction hcall before after state
      rw [hstate, Option.bind_some, hreacted]
      rfl
    · exact absurd hmem hrest
  · intro hopen reacted hentry
    obtain ⟨state, hstate, hreacted⟩ := Option.bind_eq_some_iff.mp hentry
    rw [ManagerCall.reaction_isActive hreacted]
    exact hhosts.settles hopen state hstate

variable {action : Action}

theorem counter_le_of_step (hstep : service.step action = some next) :
    service.sSessionIDCounter ≤ next.sSessionIDCounter := by
  cases action with
  | createHintSession =>
      rw [step, createHintSession] at hstep
      split_ifs at hstep
      cases hstep
      exact Int.le_of_lt (Int.lt_succ service.sSessionIDCounter)
  | call =>
    rw [step, call] at hstep
    split at hstep
    · split at hstep
      · cases hstep
      · cases hstep
        exact Int.le_refl _
    · cases hstep
  | proceed =>
    rw [step, proceed] at hstep
    split at hstep
    · obtain ⟨manager, -, rfl⟩ := Option.map_eq_some_iff.mp hstep
      exact Int.le_refl _
    · cases hstep
  | dispatch =>
    obtain ⟨manager, -, rfl⟩ := Option.map_eq_some_iff.mp hstep
    exact Int.le_refl _
  | updateHintMode =>
    cases hstep
    exact Int.le_refl _

theorem Kept.step (hkept : service.Kept)
    (hstep : service.step action = some next) : next.Kept := by
  constructor
  · intro sessionId hfresh
    have hnone := hkept.fresh sessionId
      (Int.lt_of_le_of_lt (counter_le_of_step hstep) hfresh)
    cases moves_of_step hstep sessionId with
    | unconcerned htarget hsession => exact hsession.trans hnone
    | created hid hcounter =>
      exact absurd (hcounter ▸ hfresh) (Int.lt_irrefl _)
    | called hsession =>
      exact absurd (hsession.symm.trans hnone) (Option.some_ne_none _)
    | proceeded hsession =>
      exact absurd (hsession.symm.trans hnone) (Option.some_ne_none _)
    | expired hsession => exact hsession.trans hnone
  · intro sessionId hosted hhosted
    cases moves_of_step hstep sessionId with
    | unconcerned htarget hsession hentry =>
      rw [hentry]
      exact hkept.hosts sessionId hosted (hsession ▸ hhosted)
    | created hid hcounter hsession hentry hactive =>
      rw [hsession] at hhosted
      cases hhosted
      rw [hentry]
      refine ⟨by simp [initialVotes], fun _ => rfl, ?_⟩
      intro _ state hstate
      cases hstate
      exact hactive
    | called hsession haccept hnext hentry =>
      rw [hnext] at hhosted
      cases hhosted
      obtain ⟨hopen, haccepts⟩ := PowerHintSession.accepts_of_accept haccept
      rw [hentry]
      exact hosts_called (hkept.hosts _ _ hsession) hopen haccepts
    | proceeded hsession hnext hentry =>
      rw [hnext] at hhosted
      cases hhosted
      rw [hentry]
      exact hosts_proceeded _ _ (hkept.hosts _ _ hsession)
    | expired hsession hentry =>
      have hhosts := hkept.hosts sessionId hosted (hsession ▸ hhosted)
      rw [hentry]
      refine ⟨hhosts.removal, ?_, ?_⟩
      · intro hlive
        rw [Option.isSome_map]
        exact hhosts.live hlive
      · intro hopen expired hexpired
        obtain ⟨state, hstate, rfl⟩ := Option.map_eq_some_iff.mp hexpired
        rw [expiredBoost_isActive]
        exact hhosts.settles hopen state hstate

/-- The session that `removePowerSession` dereferences is always there: a
session that has manager calls to make can make the next one. -/
theorem manager_calls_go_on (gpuCapacityNode taskRampupMultNode : Bool)
    (maxNumOfCachedSessionMetrics : Nat) (actions : List Action) :
    RunHolds step
      (fun service => ∀ sessionId session last call rest,
        service.sessions sessionId = some ⟨session, last, call :: rest⟩ →
          ∀ before after, (service.proceed sessionId before after).isSome)
      (init gpuCapacityNode taskRampupMultNode maxNumOfCachedSessionMetrics)
      actions := by
  refine runHolds_of_invariant ?_
    (fun _ _ _ hkept hstep => hkept.step hstep) (kept_init _ _ _) actions
  intro service hkept sessionId session last call rest hsession before after
  rw [proceed, hsession]
  dsimp only
  rw [Option.isSome_map]
  apply ManagerCall.isSome_step_toCall
  rintro rfl
  exact (hkept.hosts _ _ hsession).live (Or.inr List.mem_cons_self)

/-! ## The two flags -/

/-- Whether the last `pause` or `resume` of the session was a `pause`. -/
def pausedAfter (sessionId : SessionId) (paused : Bool) : Action → Bool
  | .call target _ .pause => if target = sessionId then true else paused
  | .call target _ .resume => if target = sessionId then false else paused
  | _ => paused

def pausedBy (sessionId : SessionId) (actions : List Action) : Bool :=
  actions.foldl (pausedAfter sessionId) false

/-- The session object and the entry have the same flag. -/
def FlagsAgree (service : PowerService) (sessionId : SessionId) : Prop :=
  ∃ hosted entry, service.sessions sessionId = some hosted ∧
    service.mPSManager.session sessionId = some entry ∧
      hosted.session.mDescriptor.isActive = entry.value.isActive

theorem pausedAfter_of_target_ne (paused : Bool)
    (htarget : action.target ≠ some sessionId) :
    pausedAfter sessionId paused action = paused := by
  cases action with
  | call target env request =>
    have hne : target ≠ sessionId := fun hsame => htarget (congrArg some hsame)
    cases request <;> simp [pausedAfter, hne]
  | _ => rfl

theorem pausedAfter_of_other {request : Request} {env : ClientEnv}
    {paused : Bool} (hpause : request ≠ .pause) (hresume : request ≠ .resume) :
    pausedAfter sessionId paused (.call sessionId env request) = paused := by
  cases request with
  | pause => exact absurd rfl hpause
  | resume => exact absurd rfl hresume
  | _ => rfl

/-- The flag of the session object is what the client asked for last. -/
structure FlagRecorded (sessionId : SessionId) (service : PowerService)
    (paused : Bool) : Prop where
  kept : service.Kept
  recorded : ∀ hosted, service.sessions sessionId = some hosted →
    hosted.session.mSessionClosed = false →
      hosted.session.mDescriptor.isActive = !paused
  absent : service.sessions sessionId = none → paused = false

theorem FlagRecorded.step {paused : Bool}
    (hrecorded : FlagRecorded sessionId service paused)
    (hstep : service.step action = some next) :
    FlagRecorded sessionId next (pausedAfter sessionId paused action) := by
  refine ⟨hrecorded.kept.step hstep, ?_, ?_⟩
  · intro hosted hhosted hopen
    cases moves_of_step hstep sessionId with
    | unconcerned htarget hsession =>
      rw [pausedAfter_of_target_ne paused htarget]
      exact hrecorded.recorded hosted (hsession ▸ hhosted) hopen
    | created hid hcounter hsession =>
      have hnone := hrecorded.kept.fresh sessionId
        (hid ▸ Int.lt_succ service.sSessionIDCounter)
      rw [hsession] at hhosted
      cases hhosted
      change true = !paused
      rw [hrecorded.absent hnone]
      rfl
    | called hsession haccept hnext =>
      rw [hnext] at hhosted
      cases hhosted
      obtain ⟨hwasOpen, haccepts⟩ := PowerHintSession.accepts_of_accept haccept
      cases haccepts with
      | pause hpaused =>
        rw [hpaused, pausedAfter, if_pos rfl]
        rfl
      | resume hresumed =>
        rw [hresumed, pausedAfter, if_pos rfl]
        rfl
      | close hclosed =>
        exact absurd (hclosed.symm.trans hopen) Bool.noConfusion
      | other hpause hresume hkeeps =>
        rw [pausedAfter_of_other hpause hresume, hkeeps.isActive]
        exact hrecorded.recorded _ hsession hwasOpen
    | proceeded hsession hnext =>
      rw [hnext] at hhosted
      cases hhosted
      have hflag := hrecorded.recorded _ hsession hopen
      exact hflag
    | expired hsession =>
      exact hrecorded.recorded hosted (hsession ▸ hhosted) hopen
  · intro hnone
    cases moves_of_step hstep sessionId with
    | unconcerned htarget hsession =>
      rw [pausedAfter_of_target_ne paused htarget]
      exact hrecorded.absent (hsession ▸ hnone)
    | created hid hcounter hsession =>
      exact absurd (hsession.symm.trans hnone) (Option.some_ne_none _)
    | called hsession haccept hnext =>
      exact absurd (hnext.symm.trans hnone) (Option.some_ne_none _)
    | proceeded hsession hnext =>
      exact absurd (hnext.symm.trans hnone) (Option.some_ne_none _)
    | expired hsession => exact hrecorded.absent (hsession ▸ hnone)

/-- After every call on an open session the flags agree exactly when the
session has not been paused, or has been resumed since. -/
theorem flags_agree_iff_not_paused {gpuCapacityNode taskRampupMultNode : Bool}
    {maxNumOfCachedSessionMetrics : Nat} {actions : List Action}
    {hosted : HostedSession}
    (hrun : run step (init gpuCapacityNode taskRampupMultNode
      maxNumOfCachedSessionMetrics) actions = some service)
    (hsession : service.sessions sessionId = some hosted)
    (hopen : hosted.session.mSessionClosed = false)
    (hreturned : hosted.pending = []) :
    service.FlagsAgree sessionId ↔ pausedBy sessionId actions = false := by
  have hinit : FlagRecorded sessionId (init gpuCapacityNode taskRampupMultNode
      maxNumOfCachedSessionMetrics) false :=
    ⟨kept_init _ _ _,
      fun hosted hnone => absurd hnone.symm (Option.some_ne_none hosted),
      fun _ => rfl⟩
  have hrecorded : FlagRecorded sessionId service (pausedBy sessionId actions) :=
    run_invariant_of_history (fun _ _ _ _ hrecorded hstep =>
      hrecorded.step hstep) hinit hrun
  have hflag := hrecorded.recorded hosted hsession hopen
  have hhosts := hrecorded.kept.hosts sessionId hosted hsession
  obtain ⟨state, hstate⟩ :=
    Option.isSome_iff_exists.mp (hhosts.live (Or.inl hopen))
  have hactive := hhosts.settles hopen state hstate
  rw [hreturned, List.foldl_nil] at hactive
  obtain ⟨entry, hentry, rfl⟩ := Option.map_eq_some_iff.mp hstate
  constructor
  · rintro ⟨other, otherEntry, hother, hotherEntry, hagree⟩
    rw [hsession, Option.some.injEq] at hother
    rw [hentry, Option.some.injEq] at hotherEntry
    rw [← hother, ← hotherEntry, hflag] at hagree
    have hnot : (!pausedBy sessionId actions) = true := hagree.trans hactive
    simpa using hnot
  · intro hpaused
    refine ⟨hosted, entry, hsession, hentry, ?_⟩
    rw [hflag, hpaused]
    exact hactive.symm

/-- A client creates session 1 with thread 7. -/
def sampleCreation : List Action :=
  [.createHintSession (sampleEnv 0) (sampleEnv 0) (sampleEnv 0) sampleProfile
      false ⟨10001, [7], 100, .app, .default⟩,
    .proceed 1 (sampleEnv 0) (sampleEnv 0),
    .proceed 1 (sampleEnv 0) (sampleEnv 0)]

/-- A call on session 1 that makes two calls on the manager. -/
def sampleCall (now : TimePoint) (request : Request) : List Action :=
  [.call 1 ⟨now, sampleProfile, fun _ => false⟩ request,
    .proceed 1 (sampleEnv now) (sampleEnv now),
    .proceed 1 (sampleEnv now) (sampleEnv now)]

theorem flags_agree_after_resume :
    ∃ service, run step (init true true 4)
        (sampleCreation ++ sampleCall 10 .pause ++ sampleCall 20 .resume) =
          some service ∧
      service.FlagsAgree 1 := by
  refine ⟨_, rfl, ?_⟩
  apply (flags_agree_iff_not_paused (show run step (init true true 4)
    (sampleCreation ++ sampleCall 10 .pause ++ sampleCall 20 .resume) =
      some _ from rfl) rfl rfl rfl).mpr
  rfl

/-- A session that has been paused is inactive for its client and active for
the manager. -/
theorem flags_not_always_agreeing :
    ¬ ∀ actions service sessionId hosted,
      run step (init true true 4) actions = some service →
        service.sessions sessionId = some hosted →
          hosted.session.mSessionClosed = false → hosted.pending = [] →
            service.FlagsAgree sessionId := by
  intro hagree
  obtain ⟨hosted, entry, hhosted, hentry, hflags⟩ :=
    hagree (sampleCreation ++ sampleCall 10 .pause) _ 1 _ rfl rfl rfl rfl
  have hclient : hosted.session.mDescriptor.isActive = false := by
    rw [← Option.some.inj hhosted]
    rfl
  have hmanager : entry.value.isActive = true := by
    rw [← Option.some.inj hentry]
    rfl
  rw [hclient, hmanager] at hflags
  cases hflags

/-! ## The votes of a paused session -/

/-- The time between the return of `pause` and the call of `resume`. -/
def Paused (hosted : HostedSession) : Prop :=
  hosted.session.mSessionClosed = false ∧
    hosted.session.mDescriptor.isActive = false ∧
      (hosted.request = some .pause → hosted.pending = [])

/-- The time during which `pause` is being executed. -/
def Pausing (hosted : HostedSession) : Prop :=
  hosted.request = some .pause ∧ hosted.pending ≠ [] ∧
    hosted.pending <:+ [.pause, .setThreadsFromPowerSession []]

/-- A later call of a paused session leaves it paused while it proceeds. -/
theorem Paused.rest {rest : List ManagerCall}
    (hpaused : Paused ⟨session, last, call :: rest⟩) :
    Paused ⟨session, last, rest⟩ := by
  refine ⟨hpaused.1, hpaused.2.1, ?_⟩
  intro hrequest
  exact absurd (hpaused.2.2 hrequest) (List.cons_ne_nil call rest)

/-- No thread's range depends on the votes of a paused session. -/
def PausedIgnored (service : PowerService) : Prop :=
  ∀ sessionId hosted, service.sessions sessionId = some hosted →
    Paused hosted → service.mPSManager.VotesIgnored sessionId

/-- The threads that a paused session is given are all gone by the time the
manager links them. -/
def GivesNoThreadsWhilePaused (service : PowerService) : Action → Prop
  | .proceed sessionId _ after =>
    ∀ session last threadIds rest,
      service.sessions sessionId = some
        ⟨session, last, .setThreadsFromPowerSession threadIds :: rest⟩ →
      Paused ⟨session, last, .setThreadsFromPowerSession threadIds :: rest⟩ →
        liveThreads after threadIds = []
  | _ => True

/-- A session whose client has paused it has no threads, unless `pause` has not
come to that yet. -/
structure PausedUnlinked (service : PowerService) : Prop where
  kept : service.Kept
  unlinked : ∀ sessionId hosted, service.sessions sessionId = some hosted →
    hosted.session.mSessionClosed = false →
      hosted.session.mDescriptor.isActive = false →
        Pausing hosted ∨ Paused hosted ∧
          ∀ state, service.entry sessionId = some state →
            state.linkedTasks = []

theorem PausedUnlinked.ignored (hunlinked : service.PausedUnlinked) :
    service.PausedIgnored := by
  intro sessionId hosted hsession hpaused
  apply (PowerSessionManager.votesIgnored_iff _ sessionId).mpr
  intro state hstate _
  rcases hunlinked.unlinked sessionId hosted hsession hpaused.1
      hpaused.2.1 with hpausing | ⟨-, hnone⟩
  · exact absurd (hpaused.2.2 hpausing.1) hpausing.2.1
  · exact hnone state hstate

/-- The last manager call of `pause` unlinks the session. -/
theorem unlinked_of_pausing {rest : List ManagerCall} (before after : Env)
    (hopen : session.mSessionClosed = false)
    (hinactive : session.mDescriptor.isActive = false)
    (hpausing : Pausing ⟨session, last, call :: rest⟩) :
    Pausing ⟨session, last, rest⟩ ∨ Paused ⟨session, last, rest⟩ ∧
      ∀ state, entry.bind (call.reaction before after) = some state →
        state.linkedTasks = [] := by
  obtain ⟨hrequest, -, hsuffix⟩ := hpausing
  rcases List.suffix_cons_iff.mp hsuffix with hwhole | hlast
  · obtain ⟨rfl, rfl⟩ := List.cons.inj hwhole
    exact Or.inl ⟨hrequest, List.cons_ne_nil _ _, List.suffix_cons _ _⟩
  · rcases List.suffix_cons_iff.mp hlast with honly | hempty
    · obtain ⟨rfl, rfl⟩ := List.cons.inj honly
      refine Or.inr ⟨⟨hopen, hinactive, fun _ => rfl⟩, ?_⟩
      intro state hstate
      obtain ⟨old, -, hreacted⟩ := Option.bind_eq_some_iff.mp hstate
      cases hreacted
      exact liveThreads_nil after
    · exact absurd (List.suffix_nil.mp hempty) (List.cons_ne_nil _ _)

theorem PausedUnlinked.step (hunlinked : service.PausedUnlinked)
    (hguard : service.GivesNoThreadsWhilePaused action)
    (hstep : service.step action = some next) : next.PausedUnlinked := by
  refine ⟨hunlinked.kept.step hstep, ?_⟩
  intro sessionId hosted hhosted hopen hinactive
  cases moves_of_step hstep sessionId with
  | unconcerned htarget hsession hentry =>
    rw [hentry]
    exact hunlinked.unlinked sessionId hosted (hsession ▸ hhosted) hopen
      hinactive
  | created hid hcounter hsession =>
    rw [hsession] at hhosted
    cases hhosted
    cases hinactive
  | called hsession haccept hnext hentry =>
    rw [hnext] at hhosted
    cases hhosted
    obtain ⟨hwasOpen, haccepts⟩ := PowerHintSession.accepts_of_accept haccept
    cases haccepts with
    | pause hpaused hcalls =>
      rw [hcalls]
      exact Or.inl ⟨rfl, List.cons_ne_nil _ _, List.suffix_refl _⟩
    | resume hresumed =>
      dsimp only at hinactive
      rw [hresumed] at hinactive
      cases hinactive
    | close hclosed =>
      exact absurd (hclosed.symm.trans hopen) Bool.noConfusion
    | other hpause hresume hkeeps =>
      have hwas := hunlinked.unlinked sessionId _ hsession hwasOpen
        (hkeeps.isActive.symm.trans hinactive)
      rcases hwas with hpausing | ⟨-, hnone⟩
      · exact absurd rfl hpausing.2.1
      · rw [hentry]
        refine Or.inr ⟨⟨hopen, hinactive, ?_⟩, hnone⟩
        intro hrequest
        exact absurd (Option.some.inj hrequest) hpause
  | proceeded hsession hnext hentry =>
    rw [hnext] at hhosted
    cases hhosted
    rw [hentry]
    rcases hunlinked.unlinked sessionId _ hsession hopen hinactive with
      hpausing | ⟨hpaused, hnone⟩
    · exact unlinked_of_pausing _ _ hopen hinactive hpausing
    · refine Or.inr ⟨hpaused.rest, ?_⟩
      intro state hstate
      obtain ⟨old, hold, hreacted⟩ := Option.bind_eq_some_iff.mp hstate
      apply ManagerCall.reaction_unlinked hreacted (hnone old hold)
      rintro threadIds rfl
      exact hguard _ _ threadIds _ hsession hpaused
  | expired hsession hentry =>
    rw [hentry]
    rcases hunlinked.unlinked sessionId hosted (hsession ▸ hhosted) hopen
        hinactive with hpausing | ⟨hpaused, hnone⟩
    · exact Or.inl hpausing
    · refine Or.inr ⟨hpaused, ?_⟩
      intro state hstate
      obtain ⟨old, hold, rfl⟩ := Option.map_eq_some_iff.mp hstate
      exact expiredBoost_unlinked _ _ (hnone old hold)

/-- A paused session that is given a live thread has its votes counted at
once. -/
theorem PausedUnlinked.not_ignored (hunlinked : service.PausedUnlinked)
    (hguard : ¬ service.GivesNoThreadsWhilePaused action)
    (hstep : service.step action = some next) : ¬ next.PausedIgnored := by
  intro hignored
  apply hguard
  cases action with
  | proceed sessionId =>
    intro session last threadIds rest hsession hpaused
    cases moves_of_step hstep sessionId with
    | unconcerned htarget => exact absurd rfl htarget
    | proceeded hproceeded hnext hentry =>
      rw [hsession] at hproceeded
      cases hproceeded
      obtain ⟨state, hstate⟩ := Option.isSome_iff_exists.mp
        ((hunlinked.kept.hosts _ _ hsession).live (Or.inl hpaused.1))
      rw [hstate] at hentry
      exact (PowerSessionManager.votesIgnored_iff _ sessionId).mp
        (hignored sessionId _ hnext hpaused.rest) _ hentry rfl
  | _ => trivial

/-- Along a run, the votes of paused sessions are ignored exactly as long as no
paused session is given a live thread. -/
theorem paused_ignored_iff_gives_no_threads
    (gpuCapacityNode taskRampupMultNode : Bool)
    (maxNumOfCachedSessionMetrics : Nat) (actions : List Action) :
    RunHolds step PausedIgnored (init gpuCapacityNode taskRampupMultNode
        maxNumOfCachedSessionMetrics) actions ↔
      RunMeets step GivesNoThreadsWhilePaused (init gpuCapacityNode
        taskRampupMultNode maxNumOfCachedSessionMetrics) actions := by
  have hsound : ∀ service : PowerService,
      service.PausedUnlinked → service.PausedIgnored :=
    fun service hunlinked => hunlinked.ignored
  apply runHolds_iff_runMeets hsound
  · intro service action next hunlinked hguard hstep
    exact hunlinked.step hguard hstep
  · intro service action next hunlinked hguard hstep
    exact hunlinked.not_ignored hguard hstep
  · exact ⟨kept_init _ _ _,
      fun _ hosted hnone => absurd hnone.symm (Option.some_ne_none hosted)⟩

/-- A paused session whose client sets its threads raises the range of thread 7
from 0 to 162. -/
theorem paused_not_always_ignored :
    ¬ ∀ service, Reachable step (init true true 4) service →
      service.PausedIgnored := by
  have hreplay : ((run step (init true true 4) (sampleCreation ++
      sampleCall 10 .pause ++ sampleCall 20 (.setThreads [7]))).bind
        fun service => (service.sessions 1).map fun hosted =>
          (hosted.session.mSessionClosed, hosted.session.mDescriptor.isActive,
            hosted.pending.isEmpty,
            ((service.mPSManager.withVotes 1
              Votes.empty).mSessionTaskMap.getTaskVoteRange 7 20
                UclampRange.full none 0).uclampMin,
            (service.mPSManager.mSessionTaskMap.getTaskVoteRange 7 20
              UclampRange.full none 0).uclampMin)) =
      some (false, false, true, 0, 162) := by
    decide +kernel
  obtain ⟨service, hrun, hsession⟩ := Option.bind_eq_some_iff.mp hreplay
  obtain ⟨hosted, hhosted, hvalues⟩ := Option.map_eq_some_iff.mp hsession
  simp only [Prod.mk.injEq, List.isEmpty_iff] at hvalues
  obtain ⟨hopen, hinactive, hreturned, hwithout, hwith⟩ := hvalues
  intro hignored
  have hrange := hignored service ⟨_, hrun⟩ 1 hosted hhosted
    ⟨hopen, hinactive, fun _ => hreturned⟩ Votes.empty 7 20 none 0
  rw [hrange, hwith] at hwithout
  cases hwithout

end PowerService

end HardwareInterfaces.HintSession

import HardwareInterfaces.Power.PowerSessionManager

/-!
# What a call leaves alone outside the sessions

Only `voteSet` and the dispatch of an event touch the queue of the timeout
worker, and no call touches the nodes that were opened at start.  Only `pause`
and `updateRampupBoostMode` write rampup multipliers.  The relations `Frame`
and `Quiet` are closed under composition, branching and loops, so a call is
framed as soon as the writes it is made of are.
-/

namespace HardwareInterfaces.SessionManager.PowerSessionManager

open AdpfTypes SessionTaskMap

/-- The value that an effect writes as the rampup multiplier of a thread. -/
def rampupWrite (tid : TaskId) : Effect → Option Int
  | .updateTaskRampupMult target val => if target = tid then some val else none
  | _ => none

/-- The rampup multiplier last written for a thread. -/
def writtenRampupMult (manager : PowerSessionManager) (tid : TaskId) :
    Option Int :=
  manager.log.findSome? (rampupWrite tid)

/-- Two states whose queue and nodes are the same. -/
structure Frame (before after : PowerSessionManager) : Prop where
  worker : after.mEventSessionTimeoutWorker = before.mEventSessionTimeoutWorker
  gpuNode : after.mGpuCapacityNode = before.mGpuCapacityNode
  rampupNode : after.mTaskRampupMultNode = before.mTaskRampupMultNode

/-- Two states that agree on the rampup multipliers written as well. -/
structure Quiet (before after : PowerSessionManager) : Prop
    extends Frame before after where
  rampup : after.writtenRampupMult = before.writtenRampupMult

namespace Frame

variable {first second third : PowerSessionManager}

theorem refl (current : PowerSessionManager) : Frame current current :=
  ⟨rfl, rfl, rfl⟩

theorem trans (hfirst : Frame first second) (hsecond : Frame second third) :
    Frame first third :=
  ⟨hsecond.worker.trans hfirst.worker, hsecond.gpuNode.trans hfirst.gpuNode,
    hsecond.rampupNode.trans hfirst.rampupNode⟩

theorem ite {condition : Prop} [Decidable condition]
    (hthen : Frame first second) (helse : Frame first third) :
    Frame first (if condition then second else third) := by
  split_ifs
  · exact hthen
  · exact helse

end Frame

/-! ## Calls that write no rampup multiplier -/

namespace Quiet

variable {first second third : PowerSessionManager}
  (current : PowerSessionManager) (env : Env) (sessionId : SessionId)

theorem refl : Quiet current current :=
  ⟨⟨rfl, rfl, rfl⟩, rfl⟩

theorem trans (hfirst : Quiet first second) (hsecond : Quiet second third) :
    Quiet first third :=
  ⟨hfirst.toFrame.trans hsecond.toFrame, hsecond.rampup.trans hfirst.rampup⟩

theorem emit {effect : Effect}
    (heffect : ∀ tid, rampupWrite tid effect = none) :
    Quiet current (current.emit effect) := by
  refine ⟨⟨rfl, rfl, rfl⟩, funext fun tid => ?_⟩
  rw [writtenRampupMult, PowerSessionManager.emit, List.findSome?_cons,
    heffect tid, writtenRampupMult]

theorem modifySession (change : SessionValue → SessionValue) :
    Quiet current (current.modifySession sessionId change) :=
  ⟨⟨rfl, rfl, rfl⟩, rfl⟩

theorem links (links : SessionLinks) :
    Quiet current { current with mSessionTaskMap := links } :=
  ⟨⟨rfl, rfl, rfl⟩, rfl⟩

theorem ite {condition : Prop} [Decidable condition]
    (hthen : Quiet first second) (helse : Quiet first third) :
    Quiet first (if condition then second else third) := by
  split_ifs
  · exact hthen
  · exact helse

/-- A loop is framed when its body is. -/
theorem foldl {Item : Type*}
    (body : PowerSessionManager → Item → PowerSessionManager)
    (hbody : ∀ current item, Quiet current (body current item))
    (items : List Item) (current : PowerSessionManager) :
    Quiet current (items.foldl body current) := by
  induction items generalizing current with
  | nil => exact refl current
  | cons item rest ih => exact (hbody current item).trans (ih (body current item))

variable (timePoint : TimePoint)

theorem uclampLoop (tids : List TaskId) (call position : Nat)
    (current : PowerSessionManager) :
    Quiet current (PowerSessionManager.uclampLoop env sessionId timePoint tids
      call position current) := by
  induction tids generalizing call position current with
  | nil => exact refl current
  | cons tid rest ih =>
    rw [PowerSessionManager.uclampLoop]
    refine ite ?_ ?_
    · exact ((emit current fun _ => rfl).trans (links _ _)).trans (ih _ _ _)
    · exact (emit current fun _ => rfl).trans (ih _ _ _)

theorem applyUclampLocked :
    Quiet current (current.applyUclampLocked env sessionId timePoint) := by
  rw [PowerSessionManager.applyUclampLocked]
  cases current.session sessionId with
  | none => exact refl current
  | some session =>
    exact (ite (uclampLoop env sessionId timePoint _ 0 0 current)
      (refl current)).trans (modifySession _ _ _)

theorem applyGpuVotesLocked :
    Quiet current (current.applyGpuVotesLocked env sessionId timePoint) := by
  rw [PowerSessionManager.applyGpuVotesLocked]
  cases current.session sessionId with
  | none => exact refl current
  | some session =>
    exact (ite (emit current fun _ => rfl) (refl current)).trans
      (modifySession _ _ _)

theorem applyCpuAndGpuVotes :
    Quiet current (current.applyCpuAndGpuVotes env sessionId timePoint) :=
  (applyUclampLocked current env sessionId timePoint).trans
    (applyGpuVotesLocked _ env sessionId timePoint)

theorem forceSessionActive (isActive : Bool) :
    Quiet current (current.forceSessionActive env sessionId isActive) := by
  rw [PowerSessionManager.forceSessionActive]
  cases current.session sessionId with
  | none => exact refl current
  | some session =>
    exact (modifySession _ _ _).trans (applyCpuAndGpuVotes _ _ _ _)

theorem setTaskProfilesAll (tids : List TaskId) (profiles : List String) :
    Quiet current (current.setTaskProfilesAll tids profiles) :=
  foldl _ (fun state _ => emit state fun _ => rfl) tids current

theorem collectSessionMetric :
    Quiet current (current.collectSessionMetric env sessionId) := by
  rw [PowerSessionManager.collectSessionMetric]
  cases (current.session sessionId).bind
      fun session => session.value.sessFrameMetrics with
  | none => exact refl current
  | some metrics =>
    exact (modifySession current sessionId _).trans
      (ite ⟨⟨rfl, rfl, rfl⟩, rfl⟩ (refl _))

theorem resetSessionMetric :
    Quiet current (current.resetSessionMetric env sessionId) :=
  modifySession current sessionId _

/-- The end of `pause`. -/
theorem collectResetApply :
    Quiet current (((current.collectSessionMetric env
      sessionId).resetSessionMetric env sessionId).applyCpuAndGpuVotes env
        sessionId env.now) :=
  ((collectSessionMetric current env sessionId).trans
    (resetSessionMetric _ env sessionId)).trans
      (applyCpuAndGpuVotes _ env sessionId env.now)

theorem setThreadsFromPowerSession (before after : Env)
    (sessionId : SessionId) (threadIds : List TaskId) :
    Quiet current (current.setThreadsFromPowerSession before after sessionId
      threadIds) :=
  ((((forceSessionActive current before sessionId false).trans
    (links _ _)).trans (setTaskProfilesAll _ _ _)).trans
      (setTaskProfilesAll _ _ _)).trans (forceSessionActive _ after sessionId
        true)

theorem addPowerSession (before after : Env) (descriptor : AppHintDesc)
    (enableMetricCollection : Bool) (threadIds : List TaskId) :
    Quiet current (current.addPowerSession env before after descriptor
      enableMetricCollection threadIds) :=
  (links current _).trans (setThreadsFromPowerSession _ before after _ _)

theorem removePowerSession {current next : PowerSessionManager} {env : Env}
    {sessionId : SessionId}
    (hremove : current.removePowerSession env sessionId = some next) :
    Quiet current next := by
  obtain ⟨-, tids, profiles, rfl⟩ := exists_of_removePowerSession hremove
  exact (((forceSessionActive current env sessionId false).trans
    (collectSessionMetric _ env sessionId)).trans (links _ _)).trans
      (setTaskProfilesAll _ _ _)

theorem resume : Quiet current (current.resume env sessionId) := by
  rw [PowerSessionManager.resume]
  cases current.session sessionId with
  | none => exact refl current
  | some session =>
    exact ite (refl current) (((modifySession current sessionId _).trans
      (resetSessionMetric _ _ _)).trans (applyCpuAndGpuVotes _ _ _ _))

theorem setPreferPowerEfficiency (enabled : Bool) :
    Quiet current (current.setPreferPowerEfficiency env sessionId
      enabled) := by
  rw [PowerSessionManager.setPreferPowerEfficiency]
  cases current.session sessionId with
  | none => exact refl current
  | some session =>
    exact ite (refl current) ((modifySession current sessionId _).trans
      (applyUclampLocked _ _ _ _))

theorem updateCollectedSessionMetrics :
    Quiet current (current.updateCollectedSessionMetrics env sessionId) := by
  rw [PowerSessionManager.updateCollectedSessionMetrics]
  split
  · exact refl current
  · split
    · exact refl current
    · exact ite ((collectSessionMetric _ _ _).trans (resetSessionMetric _ _ _))
        (refl current)

end Quiet

/-! ## Calls that write rampup multipliers -/

namespace Frame

variable (current : PowerSessionManager) (env : Env) (sessionId : SessionId)

theorem updateTaskRampupMult (tid : TaskId) (val : Int) :
    Frame current (current.updateTaskRampupMult tid val) :=
  ite ⟨rfl, rfl, rfl⟩ (refl current)

theorem voteRampupBoostLocked (rampupBoostVote : Bool)
    (defaultRampupVal highRampupVal : Int) :
    Frame current (current.voteRampupBoostLocked sessionId rampupBoostVote
      defaultRampupVal highRampupVal) := by
  rw [PowerSessionManager.voteRampupBoostLocked]
  generalize current.mSessionTaskMap.getTaskIds sessionId = tids
  induction tids generalizing current with
  | nil => exact refl current
  | cons tid rest ih =>
    exact (ite (refl current) (updateTaskRampupMult current tid _)).trans (ih _)

theorem pause : Frame current (current.pause env sessionId) := by
  rw [PowerSessionManager.pause]
  cases current.session sessionId with
  | none => exact refl current
  | some session =>
    refine ite ?_ (refl current)
    have hinactive := (Quiet.modifySession current sessionId fun value =>
      { value with isActive := false }).toFrame
    have hreset := hinactive.trans
      (Quiet.modifySession _ sessionId fun value =>
        { value with rampupBoostActive := false }).toFrame
    exact (ite (hreset.trans (voteRampupBoostLocked _ sessionId false _ _))
      hinactive).trans (Quiet.collectResetApply _ env sessionId).toFrame

theorem updateRampupBoostMode (jankyLevel : SessionJankyLevel)
    (defaultRampupVal highRampupVal : Int) :
    Frame current (current.updateRampupBoostMode sessionId jankyLevel
      defaultRampupVal highRampupVal) := by
  rw [PowerSessionManager.updateRampupBoostMode]
  cases current.session sessionId with
  | none => exact refl current
  | some session =>
    exact ite (Quiet.modifySession current sessionId _).toFrame
      ((Quiet.modifySession current sessionId _).toFrame.trans
        (voteRampupBoostLocked _ _ _ _ _))

theorem updateHintMode (isGameMode enabled : Bool) :
    Frame current (current.updateHintMode isGameMode enabled) :=
  ite ⟨rfl, rfl, rfl⟩ (refl current)

end Frame

end HardwareInterfaces.SessionManager.PowerSessionManager

import HardwareInterfaces.Fingerprint.Session

/-!
# The lockout of a session

Of all that a session does, only few handlers touch the lockout.  This file
takes the tracker, the two flags and the sleeping threads as a machine of its
own with six actions, and shows that each handler of a session acts on it as
one of them.
-/

namespace HardwareInterfaces.Fingerprint

open MachineArithmetic

structure Lockout where
  tracker : LockoutTracker
  started : Bool
  aborted : Bool
  timers : List LockoutTimer
  deriving DecidableEq, Repr

inductive Action where
  | idle
  | check
  | reset
  | succeed
  | fail
  | expire (index : Nat)
  deriving DecidableEq, Repr

namespace Lockout

variable (util : Util) (now : Int) (lockout : Lockout)

/-- The mode that is found when it is asked for. -/
def mode : LockoutMode :=
  (lockout.tracker.settle util now).mCurrentMode

/-- The timer for the lockout in force. -/
def nextTimer : LockoutTimer where
  deadline :=
    now + max (lockout.tracker.getLockoutTimeLeft now) 0 * nanosPerMilli
  lockoutStart := lockout.tracker.mLockoutTimedStart

def settled : Lockout :=
  { lockout with tracker := lockout.tracker.settle util now }

def check : Lockout :=
  let lockout := lockout.settled util now
  match lockout.tracker.mCurrentMode with
  | .permanent => { lockout with aborted := true }
  | .timed =>
    if lockout.started then lockout
    else
      { lockout with
        started := true
        timers := lockout.timers ++ [lockout.nextTimer now] }
  | .none => lockout

def reset : Lockout :=
  { lockout with
    tracker := lockout.tracker.reset true
    aborted := lockout.started || lockout.aborted }

def succeed : Lockout :=
  { lockout with tracker := lockout.tracker.reset true }

def addFailed : Lockout :=
  { lockout with tracker := lockout.tracker.addFailedAttempt now }

def expired (index : Nat) : Lockout where
  tracker :=
    if lockout.aborted then lockout.tracker else lockout.tracker.reset false
  started := false
  aborted := false
  timers := lockout.timers.eraseIdx index

/-- Whether a timer is pending and its time has come. -/
def Due (index : Nat) : Prop :=
  ∃ timer, lockout.timers[index]? = some timer ∧ timer.deadline ≤ now

def act : Action → Lockout
  | .idle => lockout
  | .check => lockout.check util now
  | .reset => lockout.reset
  | .succeed => lockout.succeed
  | .fail => (lockout.addFailed now).check util now
  | .expire index => lockout.expired index

end Lockout

/-! ## The handlers as actions -/

/-- What a message does to the lockout. -/
def Message.action : Message → Action
  | .authenticated fid => if fid ≠ 0 then .succeed else .fail
  | _ => .idle

theorem Message.action_ne_expire (message : Message) (index : Nat) :
    message.action ≠ .expire index := by
  cases message with
  | authenticated fid =>
    rw [Message.action]
    split_ifs <;> exact nofun
  | _ => exact nofun

/-- What a handler does to the lockout; messages reach an open session only. -/
def Event.action (closed : Bool) : Event → Action
  | .authenticate _ _ => .check
  | .authenticateWithContext _ _ => .check
  | .resetLockout => .reset
  | .notify message => if closed then .idle else message.action
  | .timerExpires index => .expire index
  | _ => .idle

namespace Session

variable {util : Util} {now : Int} {session : Session}

def lockout (session : Session) : Lockout where
  tracker := session.mLockoutTracker
  started := session.mIsLockoutTimerStarted
  aborted := session.mIsLockoutTimerAborted
  timers := session.timers

section

variable (session : Session)

@[simp]
theorem lockout_emit (effects : List Effect) :
    (session.emit effects).lockout = session.lockout := rfl

@[simp]
theorem lockout_reportError (error : Int) :
    (session.reportError error).lockout = session.lockout := by
  rw [reportError]
  split_ifs <;> rfl

theorem lockout_checkSensorLockout :
    (session.checkSensorLockout util now).2.lockout =
      session.lockout.check util now := by
  obtain ⟨tracker, userId, closed, started, aborted, timers, effects⟩ := session
  simp only [checkSensorLockout, LockoutTracker.getMode, Lockout.check,
    Lockout.settled, lockout]
  cases (tracker.settle util now).mCurrentMode with
  | none | permanent => rfl
  | timed => cases started <;> rfl

theorem lockout_resetLockout :
    session.resetLockout.lockout = session.lockout.reset := by
  obtain ⟨tracker, userId, closed, started, aborted, timers, effects⟩ := session
  cases started <;> rfl

theorem lockout_cancel (ret : Int) :
    (session.cancel ret).lockout = session.lockout := by
  simp only [cancel]
  split_ifs <;> rfl

theorem lockout_authenticate (operationId error : Int) :
    (session.authenticate util now operationId error).lockout =
      session.lockout.check util now := by
  rw [authenticate, lockout_reportError, lockout_emit,
    lockout_checkSensorLockout]

theorem lockout_lockoutTimerExpired (index : Nat) :
    ({ session with
        timers := session.timers.eraseIdx index }.lockoutTimerExpired).lockout =
      session.lockout.expired index := by
  obtain ⟨tracker, userId, closed, started, aborted, timers, effects⟩ := session
  cases aborted <;> rfl

theorem lockout_notify (enrollments : List Int) (message : Message) :
    (session.notify util now enrollments message).1.lockout =
      session.lockout.act util now message.action := by
  cases message with
  | error | acquired | templateEnrolling | templateRemoved => rfl
  | authenticated fid =>
    simp only [notify, Message.action]
    split_ifs
    · rfl
    · exact lockout_checkSensorLockout _
  | templateEnumerating =>
    simp only [notify, Message.action, Lockout.act]
    split_ifs <;> rfl

end

/-- Each handler acts on the lockout as one action, and a timer runs out only
when it is due. -/
theorem lockout_handle {next : Session} {enrollments enrollments' : List Int}
    {event : Event}
    (hhandle : session.handle util now enrollments event =
      some (next, enrollments')) :
    next.lockout = session.lockout.act util now (event.action session.mClosed) ∧
      ∀ index, event.action session.mClosed = .expire index →
        session.lockout.Due now index := by
  cases event with
  | authenticate operationId error =>
    cases hhandle
    exact ⟨lockout_authenticate _ operationId error, nofun⟩
  | authenticateWithContext operationId error =>
    cases hhandle
    exact ⟨lockout_authenticate _ operationId error, nofun⟩
  | resetLockout =>
    cases hhandle
    exact ⟨lockout_resetLockout _, nofun⟩
  | enroll error =>
    cases hhandle
    exact ⟨lockout_reportError _ error, nofun⟩
  | cancel ret =>
    cases hhandle
    exact ⟨lockout_cancel _ ret, nofun⟩
  | notify message =>
    simp only [handle, Event.action] at hhandle ⊢
    split_ifs at hhandle ⊢
    · cases hhandle
      exact ⟨rfl, nofun⟩
    · have hnext : _ = next := congrArg Prod.fst (Option.some.inj hhandle)
      rw [← hnext]
      exact ⟨lockout_notify _ enrollments message,
        fun index haction => absurd haction (message.action_ne_expire index)⟩
  | timerExpires index =>
    simp only [handle] at hhandle
    split at hhandle
    · cases hhandle
    · rename_i timer htimer
      split_ifs at hhandle with hdue
      cases hhandle
      refine ⟨lockout_lockoutTimerExpired { session with effects := [] } index,
        ?_⟩
      intro index' haction
      cases haction
      exact ⟨timer, htimer, hdue⟩
  | _ =>
    cases hhandle
    exact ⟨rfl, nofun⟩

end Session

/-! ## Permanent lockouts -/

namespace LockoutTracker

variable {util : Util} {now : Int} {tracker : LockoutTracker}

theorem settle_of_ne_timed (hmode : tracker.mCurrentMode ≠ .timed) :
    tracker.settle util now = tracker :=
  if_neg fun hover => hmode hover.1

/-- A failed match makes the lockout permanent, begins a timed one, or leaves
the mode. -/
theorem addFailedAttempt_cases (now : Int) (tracker : LockoutTracker) :
    (tracker.addFailedAttempt now).mCurrentMode = .permanent ∨
      (tracker.mCurrentMode = .none ∧
        (tracker.addFailedAttempt now).mCurrentMode = .timed ∧
        (tracker.addFailedAttempt now).mLockoutTimedStart = now) ∨
      ((tracker.addFailedAttempt now).mCurrentMode = tracker.mCurrentMode ∧
        (tracker.addFailedAttempt now).mLockoutTimedStart =
          tracker.mLockoutTimedStart) := by
  simp only [addFailedAttempt]
  split_ifs with hpermanent htimed
  · exact Or.inl rfl
  · exact Or.inr (Or.inl ⟨htimed.2, rfl, rfl⟩)
  · exact Or.inr (Or.inr ⟨rfl, rfl⟩)

theorem addFailedAttempt_permanent_iff :
    (tracker.addFailedAttempt now).mCurrentMode = .permanent ↔
      lockoutPermanentThreshold ≤ int32 (tracker.mFailedCount + 1) ∨
        tracker.mCurrentMode = .permanent := by
  simp only [addFailedAttempt]
  split_ifs with hpermanent htimed
  · exact ⟨fun _ => Or.inl hpermanent, fun _ => rfl⟩
  · rw [htimed.2]
    exact ⟨nofun, fun hor => hor.elim (absurd · hpermanent) nofun⟩
  · exact ⟨Or.inr, fun hor => hor.elim (absurd · hpermanent) id⟩

theorem addFailedAttempt_of_permanent
    (hmode : tracker.mCurrentMode = .permanent) :
    (tracker.addFailedAttempt now).mCurrentMode = .permanent :=
  addFailedAttempt_permanent_iff.mpr (Or.inr hmode)

end LockoutTracker

namespace Lockout

variable {util : Util} {now : Int} {lockout : Lockout}

/-- What asking for the mode does, by the mode that is found. -/
theorem check_cases (util : Util) (now : Int) (lockout : Lockout) :
    (lockout.mode util now = .permanent ∧
        lockout.check util now =
          { lockout.settled util now with aborted := true }) ∨
      (lockout.mode util now = .timed ∧ lockout.started = true ∧
        lockout.check util now = lockout.settled util now) ∨
      (lockout.mode util now = .timed ∧ lockout.started = false ∧
        lockout.check util now =
          { lockout.settled util now with
            started := true
            timers := lockout.timers ++
              [(lockout.settled util now).nextTimer now] }) ∨
      (lockout.mode util now = .none ∧
        lockout.check util now = lockout.settled util now) := by
  simp only [mode, check, settled]
  cases (lockout.tracker.settle util now).mCurrentMode with
  | none | permanent => simp
  | timed => by_cases hstarted : lockout.started <;> simp [hstarted]

@[simp]
theorem tracker_check (lockout : Lockout) :
    (lockout.check util now).tracker = lockout.tracker.settle util now := by
  rcases lockout.check_cases util now with
    ⟨-, hcheck⟩ | ⟨-, -, hcheck⟩ | ⟨-, -, hcheck⟩ | ⟨-, hcheck⟩
  all_goals
    rw [hcheck]
    rfl

/-- At most one timer is pending, and it is marked during a permanent
lockout. -/
structure Safe (lockout : Lockout) : Prop where
  alone : lockout.timers.length ≤ 1
  started_of_pending : lockout.timers ≠ [] → lockout.started = true
  aborted_of_permanent : lockout.tracker.mCurrentMode = .permanent →
    lockout.timers ≠ [] → lockout.aborted = true

theorem safe_of_timers_eq_nil (htimers : lockout.timers = []) :
    lockout.Safe := by
  refine ⟨?_, fun hne => absurd htimers hne, fun _ hne => absurd htimers hne⟩
  rw [htimers]
  exact Nat.zero_le 1

theorem Safe.check (halone : lockout.timers.length ≤ 1)
    (hstarted : lockout.timers ≠ [] → lockout.started = true) :
    (lockout.check util now).Safe := by
  rcases lockout.check_cases util now with
    ⟨-, hcheck⟩ | ⟨hmode, -, hcheck⟩ | ⟨hmode, hidle, hcheck⟩ | ⟨hmode, hcheck⟩
  · rw [hcheck]
    exact ⟨halone, hstarted, fun _ _ => rfl⟩
  · rw [hcheck]
    exact ⟨halone, hstarted,
      fun hpermanent => nomatch hmode.symm.trans hpermanent⟩
  · have hnil : lockout.timers = [] := by
      by_contra hpending
      exact nomatch hidle.symm.trans (hstarted hpending)
    rw [hcheck, hnil]
    exact ⟨le_rfl, fun _ => rfl,
      fun hpermanent => nomatch hmode.symm.trans hpermanent⟩
  · rw [hcheck]
    exact ⟨halone, hstarted,
      fun hpermanent => nomatch hmode.symm.trans hpermanent⟩

/-- The only timer is gone when it has run out. -/
theorem timers_expired {index : Nat} (halone : lockout.timers.length ≤ 1)
    (hdue : lockout.Due now index) : (lockout.expired index).timers = [] := by
  obtain ⟨timer, htimer, -⟩ := hdue
  obtain ⟨hindex, -⟩ := List.getElem?_eq_some_iff.mp htimer
  apply List.length_eq_zero_iff.mp
  rw [Lockout.expired, List.length_eraseIdx_of_lt hindex]
  omega

theorem Safe.expired {index : Nat} (hsafe : lockout.Safe)
    (hdue : lockout.Due now index) : (lockout.expired index).Safe :=
  safe_of_timers_eq_nil (timers_expired hsafe.alone hdue)

section

variable {action : Action} (hsafe : lockout.Safe)
  (hdue : ∀ index, action = .expire index → lockout.Due now index)
include hsafe hdue

theorem Safe.act : (lockout.act util now action).Safe := by
  cases action with
  | idle => exact hsafe
  | check => exact Safe.check hsafe.alone hsafe.started_of_pending
  | reset | succeed => exact ⟨hsafe.alone, hsafe.started_of_pending, nofun⟩
  | fail => exact Safe.check hsafe.alone hsafe.started_of_pending
  | expire index => exact hsafe.expired (hdue index rfl)

/-- Only a successful match or a reset ends a permanent lockout. -/
theorem Safe.permanent_act (hmode : lockout.tracker.mCurrentMode = .permanent)
    (hreset : action ≠ .reset) (hsucceed : action ≠ .succeed) :
    (lockout.act util now action).tracker.mCurrentMode = .permanent := by
  cases action with
  | idle => exact hmode
  | check =>
    rw [Lockout.act, tracker_check, LockoutTracker.settle_of_ne_timed]
    · exact hmode
    · rw [hmode]
      exact nofun
  | reset => exact absurd rfl hreset
  | succeed => exact absurd rfl hsucceed
  | fail =>
    have hfailed : (lockout.addFailed now).tracker.mCurrentMode = .permanent :=
      LockoutTracker.addFailedAttempt_of_permanent hmode
    rw [Lockout.act, tracker_check, LockoutTracker.settle_of_ne_timed]
    · exact hfailed
    · rw [hfailed]
      exact nofun
  | expire index =>
    obtain ⟨timer, htimer, -⟩ := hdue index rfl
    have hpending : lockout.timers ≠ [] := by
      intro hnil
      rw [hnil] at htimer
      exact nomatch htimer
    rw [Lockout.act, Lockout.expired,
      if_pos (hsafe.aborted_of_permanent hmode hpending)]
    exact hmode

end

end Lockout

/-! ## Timed lockouts -/

def lockoutNanos : Int := lockoutTimedDuration * nanosPerMilli

namespace LockoutTracker

variable {util : Util} {now : Int} {tracker : LockoutTracker}

/-- A timed lockout is dropped only after its time. -/
theorem settle_cases (util : Util) (now : Int) (tracker : LockoutTracker) :
    tracker.settle util now = tracker ∨
      (tracker.mCurrentMode = .timed ∧
        tracker.mLockoutTimedStart + lockoutNanos ≤ now ∧
        tracker.settle util now =
          { tracker with mLockoutTimedStart := 0, mCurrentMode := .none }) := by
  rw [settle]
  split_ifs with hover
  · exact Or.inr ⟨hover.1,
      util.elapsed_of_hasElapsed now tracker.mLockoutTimedStart _ hover.2, rfl⟩
  · exact Or.inl rfl

/-- A thread started now sleeps until the lockout is over. -/
theorem lockoutNanos_le_wakeUp (hpos : 0 < tracker.mLockoutTimedStart)
    (hle : tracker.mLockoutTimedStart ≤ now) :
    tracker.mLockoutTimedStart + lockoutNanos ≤
      now + max (tracker.getLockoutTimeLeft now) 0 * nanosPerMilli := by
  rw [getLockoutTimeLeft, if_pos hpos,
    Int.tdiv_eq_ediv_of_nonneg (Int.sub_nonneg_of_le hle), lockoutNanos,
    nanosPerMilli]
  omega

end LockoutTracker

namespace Lockout

variable {util : Util} {now clock : Int} {since : Option Int}
  {lockout : Lockout} {action : Action}

/-- Whether the action begins a timed lockout. -/
def Begins (now : Int) (lockout : Lockout) (action : Action) : Prop :=
  action = .fail ∧ lockout.tracker.mCurrentMode = .none ∧
    (lockout.addFailed now).tracker.mCurrentMode = .timed

instance : Decidable (Begins now lockout action) :=
  inferInstanceAs (Decidable (_ ∧ _))

/-- When the last timed lockout began, unless a success, a reset or a permanent
lockout has ended it since. -/
def sinceAfter (util : Util) (now : Int) (lockout : Lockout) (action : Action)
    (since : Option Int) : Option Int :=
  if action = .reset ∨ action = .succeed ∨
      (lockout.act util now action).tracker.mCurrentMode = .permanent then none
  else if lockout.Begins now action then some now
  else since

/-- A timed lockout is in force from its beginning until its time is over. -/
def InForce (util : Util) (clock : Int) (since : Option Int)
    (lockout : Lockout) : Prop :=
  ∀ start ∈ since, clock < start + lockoutNanos →
    lockout.mode util clock = .timed

instance : Decidable (InForce util clock since lockout) :=
  inferInstanceAs (Decidable (∀ _ ∈ since, _))

/-- A timer that runs out unmarked in the time of a lockout was started in that
lockout. -/
def OwnTimer (now : Int) (since : Option Int) (lockout : Lockout) :
    Action → Prop
  | .expire index =>
    ∀ timer ∈ lockout.timers[index]?, ∀ start ∈ since,
      lockout.aborted = false → now < start + lockoutNanos →
        timer.lockoutStart = start
  | _ => True

instance : DecidablePred (OwnTimer now since lockout)
  | .expire index =>
    inferInstanceAs (Decidable (∀ timer ∈ lockout.timers[index]?,
      ∀ start ∈ since, lockout.aborted = false →
        now < start + lockoutNanos → timer.lockoutStart = start))
  | .idle | .check | .reset | .succeed | .fail => isTrue trivial

structure Holding (clock : Int) (since : Option Int) (lockout : Lockout) :
    Prop where
  start_le : lockout.tracker.mCurrentMode = .timed →
    0 < lockout.tracker.mLockoutTimedStart ∧
      lockout.tracker.mLockoutTimedStart ≤ clock
  timers_late : ∀ timer ∈ lockout.timers,
    timer.lockoutStart + lockoutNanos ≤ timer.deadline
  kept : ∀ start ∈ since, clock < start + lockoutNanos →
    lockout.tracker.mCurrentMode = .timed ∧
      lockout.tracker.mLockoutTimedStart = start

theorem Holding.inForce (hholding : Holding clock since lockout) :
    InForce util clock since lockout := by
  intro start hsince hclock
  obtain ⟨hmode, hstart⟩ := hholding.kept start hsince hclock
  rw [mode]
  rcases lockout.tracker.settle_cases util clock with hsame | ⟨-, hover, -⟩
  · rw [hsame]
    exact hmode
  · omega

theorem Holding.mono (hholding : Holding clock since lockout)
    (hle : clock ≤ now) : Holding now since lockout where
  start_le := by
    intro hmode
    obtain ⟨hpos, hstart⟩ := hholding.start_le hmode
    exact ⟨hpos, hstart.trans hle⟩
  timers_late := hholding.timers_late
  kept := by
    intro start hsince hnow
    exact hholding.kept start hsince (by omega)

theorem Holding.settled (hholding : Holding now since lockout) (util : Util) :
    Holding now since (lockout.settled util now) := by
  rcases lockout.tracker.settle_cases util now with hsame | ⟨-, hover, hdropped⟩
  · rw [Lockout.settled, hsame]
    exact hholding
  · rw [Lockout.settled, hdropped]
    refine ⟨nofun, hholding.timers_late, fun start hsince hnow => ?_⟩
    obtain ⟨-, hstart⟩ := hholding.kept start hsince hnow
    omega

theorem Holding.check (hholding : Holding now since lockout) (util : Util) :
    Holding now since (lockout.check util now) := by
  have hsettled := hholding.settled util
  rcases lockout.check_cases util now with
    ⟨-, hcheck⟩ | ⟨-, -, hcheck⟩ | ⟨hmode, -, hcheck⟩ | ⟨-, hcheck⟩
  · rw [hcheck]
    exact ⟨hsettled.start_le, hsettled.timers_late, hsettled.kept⟩
  · rw [hcheck]
    exact hsettled
  · rw [hcheck]
    refine ⟨hsettled.start_le, fun timer htimer => ?_, hsettled.kept⟩
    rcases List.mem_append.mp htimer with hold | hnew
    · exact hholding.timers_late timer hold
    · obtain ⟨hpos, hle⟩ := hsettled.start_le hmode
      rw [List.mem_singleton.mp hnew]
      exact LockoutTracker.lockoutNanos_le_wakeUp hpos hle
  · rw [hcheck]
    exact hsettled

theorem tracker_addFailed (lockout : Lockout) :
    (lockout.addFailed now).tracker = lockout.tracker.addFailedAttempt now := rfl

theorem Holding.addFailed (hholding : Holding now since lockout)
    (hnow : 0 < now) :
    Holding now
      (if (lockout.addFailed now).tracker.mCurrentMode = .permanent then none
        else if lockout.Begins now .fail then some now else since)
      (lockout.addFailed now) := by
  rcases lockout.tracker.addFailedAttempt_cases now with
    hpermanent | ⟨hnone, htimed, hstart⟩ | ⟨hsame, hstart⟩
  · rw [tracker_addFailed, if_pos hpermanent]
    exact ⟨fun hmode => (nomatch hpermanent.symm.trans hmode),
      hholding.timers_late, nofun⟩
  · have hbegins : lockout.Begins now .fail := ⟨rfl, hnone, htimed⟩
    have hpermanent : ¬ (lockout.addFailed now).tracker.mCurrentMode =
        .permanent := fun hmode => nomatch htimed.symm.trans hmode
    rw [if_neg hpermanent, if_pos hbegins]
    refine ⟨fun _ => ?_, hholding.timers_late, fun start hsince _ => ?_⟩
    · rw [tracker_addFailed, hstart]
      exact ⟨hnow, le_rfl⟩
    · cases hsince
      exact ⟨htimed, hstart⟩
  · have hbegins : ¬ lockout.Begins now .fail := by
      rintro ⟨-, hnone, htimed⟩
      exact nomatch htimed.symm.trans (hsame.trans hnone)
    rw [if_neg hbegins]
    refine ⟨fun hmode => ?_, hholding.timers_late, fun start hsince hclock => ?_⟩
    · rw [tracker_addFailed, hstart]
      exact hholding.start_le (hsame.symm.trans hmode)
    · split_ifs at hsince
      · exact nomatch hsince
      · obtain ⟨hmode, hstart'⟩ := hholding.kept start hsince hclock
        exact ⟨hsame.trans hmode, hstart.trans hstart'⟩

theorem mode_permanent_check_iff :
    (lockout.check util now).tracker.mCurrentMode = .permanent ↔
      lockout.tracker.mCurrentMode = .permanent := by
  rw [tracker_check]
  rcases lockout.tracker.settle_cases util now with hsame | ⟨hmode, -, hdropped⟩
  · rw [hsame]
  · rw [hdropped, hmode]
    exact ⟨nofun, nofun⟩

theorem sinceAfter_cases (hfail : action ≠ .fail) :
    lockout.sinceAfter util now action since = none ∨
      lockout.sinceAfter util now action since = since := by
  rw [sinceAfter]
  split_ifs with hended hbegins
  · exact Or.inl rfl
  · exact absurd hbegins.1 hfail
  · exact Or.inr rfl

/-- What holds of a beginning holds when it is forgotten. -/
theorem Holding.of_cases {since' : Option Int}
    (hholding : Holding now since lockout)
    (hsince : since' = none ∨ since' = since) : Holding now since' lockout := by
  rcases hsince with rfl | rfl
  · exact ⟨hholding.start_le, hholding.timers_late, nofun⟩
  · exact hholding

theorem Holding.expired {index : Nat} (hholding : Holding now since lockout)
    (hdue : lockout.Due now index)
    (hown : OwnTimer now since lockout (.expire index)) :
    Holding now since (lockout.expired index) := by
  have hlate : ∀ timer ∈ (lockout.expired index).timers,
      timer.lockoutStart + lockoutNanos ≤ timer.deadline := by
    intro timer htimer
    exact hholding.timers_late timer (List.mem_of_mem_eraseIdx htimer)
  cases haborted : lockout.aborted with
  | true =>
    have htracker : (lockout.expired index).tracker = lockout.tracker := by
      rw [Lockout.expired, if_pos haborted]
    refine ⟨?_, hlate, ?_⟩
    · rw [htracker]
      exact hholding.start_le
    · rw [htracker]
      exact hholding.kept
  | false =>
    have htracker : (lockout.expired index).tracker =
        lockout.tracker.reset false := by
      rw [Lockout.expired, haborted]
      rfl
    refine ⟨?_, hlate, fun start hsince hclock => ?_⟩
    · rw [htracker]
      exact nofun
    · -- The timer of the lockout itself does not run out this early.
      obtain ⟨timer, htimer, hdeadline⟩ := hdue
      have hstart := hown timer htimer start hsince haborted hclock
      have hafter := hholding.timers_late timer (List.mem_of_getElem? htimer)
      omega

theorem mode_permanent_iff :
    lockout.mode util now = .permanent ↔
      lockout.tracker.mCurrentMode = .permanent := by
  rw [mode, ← tracker_check, mode_permanent_check_iff]

/-- The lockout is kept by an action that meets the guard. -/
theorem Holding.act (hholding : Holding clock since lockout)
    (hle : clock ≤ now) (hnow : 0 < now)
    (hdue : ∀ index, action = .expire index → lockout.Due now index)
    (hown : OwnTimer now since lockout action) :
    Holding now (lockout.sinceAfter util now action since)
      (lockout.act util now action) := by
  have hholding := hholding.mono hle
  cases action with
  | idle => exact hholding.of_cases (sinceAfter_cases nofun)
  | check => exact (hholding.check util).of_cases (sinceAfter_cases nofun)
  | reset | succeed => exact ⟨nofun, hholding.timers_late, nofun⟩
  | fail =>
    have hfailed := (hholding.addFailed hnow).check util
    simpa only [sinceAfter, Lockout.act, reduceCtorEq, false_or,
      mode_permanent_check_iff] using hfailed
  | expire index =>
    exact (hholding.expired (hdue index rfl) hown).of_cases
      (sinceAfter_cases nofun)

/-- A timer of an earlier lockout ends the one in force. -/
theorem not_inForce_act (hown : ¬ OwnTimer now since lockout action) :
    ¬ InForce util now (lockout.sinceAfter util now action since)
      (lockout.act util now action) := by
  intro hforce
  cases action with
  | expire index =>
    simp only [OwnTimer, not_forall] at hown
    obtain ⟨timer, -, start, rfl, haborted, hclock, -⟩ := hown
    have htracker : (lockout.act util now (.expire index)).tracker =
        lockout.tracker.reset false := by
      rw [Lockout.act, Lockout.expired, haborted]
      rfl
    have hsince : lockout.sinceAfter util now (.expire index) (some start) =
        some start := by
      simp [sinceAfter, htracker, LockoutTracker.reset, Begins]
    have hmode := hforce start hsince hclock
    rw [mode, htracker] at hmode
    exact nomatch hmode
  | _ => exact hown trivial

end Lockout

end HardwareInterfaces.Fingerprint

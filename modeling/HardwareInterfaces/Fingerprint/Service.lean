import HardwareInterfaces.Fingerprint.LockoutRuns

/-!
# Sessions of the fingerprint service

The service keeps at most one open session.  Each session starts from a copy of
the service's own lockout tracker, and nothing is copied back: the failed
matches of a session are forgotten when it is closed.

A session that has been replaced still exists until its last user is gone; its
timers then act on it alone, and are left out.
-/

namespace HardwareInterfaces.Fingerprint

open MachineArithmetic Transition

/-- The `Fingerprint` object, with the list that `notify` keeps and the last
time read. -/
structure Service where
  mSession : Option Session
  mLockoutTracker : LockoutTracker
  enrollments : List Int
  clock : Int
  clock_pos : 0 < clock

inductive Request where
  | createSession (userId : Int)
  | onSession (event : Event)
  deriving DecidableEq, Repr

structure ServiceLabel where
  now : Int
  request : Request
  deriving DecidableEq, Repr

namespace Service

variable {util : Util} {service next : Service} {label : ServiceLabel}

/-- `none` if an open session exists, which aborts the process. -/
def createSession (service : Service) (userId : Int) : Option Session :=
  match service.mSession with
  | none => some { mLockoutTracker := service.mLockoutTracker, mUserId := userId }
  | some session =>
    if session.mClosed then
      some { mLockoutTracker := service.mLockoutTracker, mUserId := userId }
    else none

/-- The session and the shared list after a request.  Without a session there
is nothing to call, and messages are dropped. -/
def handle (util : Util) (now : Int) (service : Service) :
    Request → Option (Option Session × List Int)
  | .createSession userId =>
    (service.createSession userId).map fun session =>
      (some session, service.enrollments)
  | .onSession event =>
    match service.mSession, event with
    | none, .notify _ => some (none, service.enrollments)
    | none, _ => none
    | some session, event =>
      (session.handle util now service.enrollments event).map fun result =>
        (some result.1, result.2)

def step (util : Util) (service : Service) (label : ServiceLabel) :
    Option Service :=
  if htime : service.clock ≤ label.now then
    (service.handle util label.now label.request).map fun result =>
      { service with
        mSession := result.1
        enrollments := result.2
        clock := label.now
        clock_pos := lt_of_lt_of_le service.clock_pos htime }
  else none

/-- What a request does to the lockout of the current session. -/
def action (service : Service) (label : ServiceLabel) : Action :=
  match label.request, service.mSession with
  | .onSession event, some session => event.action session.mClosed
  | _, _ => .idle

/-- What a step can do: open a session, drop a message, or run a handler. -/
theorem step_cases (hstep : service.step util label = some next) :
    (∃ userId, label.request = .createSession userId ∧
        next.mSession =
          some { mLockoutTracker := service.mLockoutTracker
                 mUserId := userId } ∧
        next.enrollments = service.enrollments) ∨
      (∃ event, label.request = .onSession event ∧ service.mSession = none ∧
        next.mSession = none ∧ next.enrollments = service.enrollments) ∨
      (∃ event session session', label.request = .onSession event ∧
        service.mSession = some session ∧ next.mSession = some session' ∧
        session.handle util label.now service.enrollments event =
          some (session', next.enrollments)) := by
  rw [step] at hstep
  split_ifs at hstep with htime
  obtain ⟨result, hhandle, rfl⟩ := Option.map_eq_some_iff.mp hstep
  cases hrequest : label.request with
  | createSession userId =>
    rw [hrequest, handle] at hhandle
    obtain ⟨session, hsession, rfl⟩ := Option.map_eq_some_iff.mp hhandle
    refine Or.inl ⟨userId, rfl, ?_, rfl⟩
    rw [createSession] at hsession
    split at hsession
    · rw [hsession]
    · split_ifs at hsession
      rw [hsession]
  | onSession event =>
    rw [hrequest] at hhandle
    cases hsession : service.mSession with
    | none =>
      simp only [handle, hsession] at hhandle
      split at hhandle
      · cases hhandle
        exact Or.inr (Or.inl ⟨_, rfl, rfl, rfl, rfl⟩)
      · cases hhandle
      · rename_i hsome
        exact nomatch hsome
    | some session =>
      simp only [handle, hsession] at hhandle
      obtain ⟨⟨session', enrollments'⟩, hhandled, rfl⟩ :=
        Option.map_eq_some_iff.mp hhandle
      exact Or.inr (Or.inr ⟨event, session, session', rfl, rfl, rfl, hhandled⟩)

end Service

/-! ## Failed matches across sessions -/

/-- The service, with the number of failed matches that were reported since the
last successful match or reset, in whichever session. -/
structure Counted where
  service : Service
  failures : Nat

namespace Counted

variable {util : Util} {counted next : Counted} {label : ServiceLabel}

def failuresAfter (failures : Nat) : Action → Nat
  | .fail => failures + 1
  | .succeed => 0
  | .reset => 0
  | _ => failures

def step (util : Util) (counted : Counted) (label : ServiceLabel) :
    Option Counted :=
  (counted.service.step util label).map fun next =>
    { service := next
      failures := failuresAfter counted.failures
        (counted.service.action label) }

/-- After twenty failed matches the open session is locked out for good. -/
def LockedOut (util : Util) (counted : Counted) : Prop :=
  ∀ session ∈ counted.service.mSession, session.mClosed = false →
    lockoutPermanentThreshold ≤ counted.failures →
      session.lockout.mode util counted.service.clock = .permanent

/-- No session is opened with twenty failed matches outstanding, and the
failed match that makes them twenty is the twentieth of its own session.

The alternatives on the mode are for a session that is locked out from the
start, because the service's tracker was: its mode is never initialised. -/
def InOneSession (counted : Counted) (label : ServiceLabel) : Prop :=
  match label.request with
  | .createSession _ =>
    (counted.failures : Int) < lockoutPermanentThreshold ∨
      counted.service.mLockoutTracker.mCurrentMode = .permanent
  | .onSession event =>
    ∀ session ∈ counted.service.mSession,
      event.action session.mClosed = .fail →
        (counted.failures : Int) + 1 < lockoutPermanentThreshold ∨
          lockoutPermanentThreshold ≤
            int32 (session.mLockoutTracker.mFailedCount + 1) ∨
          session.mLockoutTracker.mCurrentMode = .permanent

instance : DecidablePred (LockedOut util) :=
  fun _ => inferInstanceAs (Decidable (∀ _ ∈ _, _))

instance (counted : Counted) : DecidablePred counted.InOneSession
  | ⟨_, .createSession _⟩ => inferInstanceAs (Decidable (_ ∨ _))
  | ⟨_, .onSession event⟩ =>
    inferInstanceAs (Decidable (∀ session ∈ counted.service.mSession,
      event.action session.mClosed = .fail →
        (counted.failures : Int) + 1 < lockoutPermanentThreshold ∨
          lockoutPermanentThreshold ≤
            int32 (session.mLockoutTracker.mFailedCount + 1) ∨
          session.mLockoutTracker.mCurrentMode = .permanent))

theorem step_cases (hstep : counted.step util label = some next) :
    (∃ userId, label.request = .createSession userId ∧
        next.service.mSession =
          some { mLockoutTracker := counted.service.mLockoutTracker
                 mUserId := userId } ∧
        next.failures = counted.failures) ∨
      (∃ event, label.request = .onSession event ∧
        next.service.mSession = none ∧ counted.service.mSession = none) ∨
      (∃ event session session' enrollments',
        label.request = .onSession event ∧
        counted.service.mSession = some session ∧
        next.service.mSession = some session' ∧
        session.handle util label.now counted.service.enrollments event =
          some (session', enrollments') ∧
        next.failures = failuresAfter counted.failures
          (event.action session.mClosed)) := by
  obtain ⟨service, hservice, rfl⟩ := Option.map_eq_some_iff.mp hstep
  rcases Service.step_cases hservice with ⟨userId, hrequest, hfresh, -⟩ |
    ⟨event, hrequest, hnone, hnone', -⟩ |
    ⟨event, session, session', hrequest, hsession, hsession', hhandle⟩
  · refine Or.inl ⟨userId, hrequest, hfresh, ?_⟩
    simp only [Service.action, hrequest, failuresAfter]
  · exact Or.inr (Or.inl ⟨event, hrequest, hnone', hnone⟩)
  · refine Or.inr (Or.inr ⟨event, session, session', _, hrequest, hsession,
      hsession', hhandle, ?_⟩)
    simp only [Service.action, hrequest, hsession]

end Counted

namespace Session

variable {util : Util} {now : Int}

theorem mClosed_checkSensorLockout (session : Session) :
    (session.checkSensorLockout util now).2.mClosed = session.mClosed := by
  obtain ⟨tracker, userId, closed, started, aborted, timers, effects⟩ := session
  simp only [checkSensorLockout, LockoutTracker.getMode]
  cases (tracker.settle util now).mCurrentMode with
  | none | permanent => rfl
  | timed => cases started <;> rfl

theorem mClosed_reportError (session : Session) (error : Int) :
    (session.reportError error).mClosed = session.mClosed := by
  rw [reportError]
  split_ifs <;> rfl

theorem mClosed_notify (session : Session) (enrollments : List Int)
    (message : Message) :
    (session.notify util now enrollments message).1.mClosed =
      session.mClosed := by
  cases message with
  | authenticated fid =>
    simp only [notify]
    split_ifs
    · rfl
    · exact mClosed_checkSensorLockout _
  | templateEnumerating =>
    simp only [notify]
    split_ifs <;> rfl
  | _ => rfl

/-- A session is closed by `close` only, and stays closed. -/
theorem mClosed_handle {session next : Session}
    {enrollments enrollments' : List Int} {event : Event}
    (hhandle : session.handle util now enrollments event =
      some (next, enrollments')) :
    next.mClosed = (session.mClosed || decide (event = .close)) := by
  cases event with
  | authenticate =>
    cases hhandle
    rw [authenticate, mClosed_reportError]
    exact (mClosed_checkSensorLockout _).trans (Bool.or_false _).symm
  | authenticateWithContext =>
    cases hhandle
    rw [authenticateWithContext, authenticate, mClosed_reportError]
    exact (mClosed_checkSensorLockout _).trans (Bool.or_false _).symm
  | resetLockout =>
    cases hhandle
    obtain ⟨tracker, userId, closed, started, aborted, timers, effects⟩ :=
      session
    cases started <;> exact (Bool.or_false closed).symm
  | enroll error =>
    cases hhandle
    exact (mClosed_reportError _ error).trans (Bool.or_false _).symm
  | cancel ret =>
    cases hhandle
    rw [cancel]
    split_ifs <;> exact (Bool.or_false _).symm
  | close =>
    cases hhandle
    exact (Bool.or_true _).symm
  | notify =>
    simp only [handle] at hhandle
    split_ifs at hhandle
    · cases hhandle
      exact (Bool.or_false _).symm
    · have hnext : _ = next := congrArg Prod.fst (Option.some.inj hhandle)
      rw [← hnext, mClosed_notify]
      exact (Bool.or_false _).symm
  | timerExpires index =>
    simp only [handle] at hhandle
    split at hhandle
    · cases hhandle
    · split_ifs at hhandle
      cases hhandle
      obtain ⟨tracker, userId, closed, started, aborted, timers, effects⟩ :=
        session
      cases aborted <;> exact (Bool.or_false closed).symm
  | _ =>
    cases hhandle
    exact (Bool.or_false _).symm

end Session

/-- Only a message to an open session is a failed match. -/
theorem Event.action_eq_fail {closed : Bool} (event : Event)
    (haction : event.action closed = .fail) :
    closed = false ∧ event ≠ .close := by
  cases event with
  | notify =>
    rw [Event.action] at haction
    split_ifs at haction with hclosed
    refine ⟨Bool.eq_false_of_not_eq_true hclosed, ?_⟩
    rintro ⟨⟩
  | _ => cases haction

namespace Counted

variable {util : Util} {counted next : Counted} {label : ServiceLabel}

/-- The invariant: twenty failed matches lock the session out, and no timer can
undo that. -/
structure Guarded (util : Util) (counted : Counted) : Prop where
  lockedOut : LockedOut util counted
  safe : ∀ session ∈ counted.service.mSession, session.lockout.Safe

/-- An action keeps or reaches a permanent lockout if its failed match does. -/
theorem permanent_act_of_guard {lockout : Lockout} {action : Action}
    {now : Int} {failures : Nat} (hsafe : lockout.Safe)
    (hdue : ∀ index, action = .expire index → lockout.Due now index)
    (hlocked : lockoutPermanentThreshold ≤ failures →
      lockout.tracker.mCurrentMode = .permanent)
    (hfail : action = .fail →
      (failures : Int) + 1 < lockoutPermanentThreshold ∨
        lockoutPermanentThreshold ≤ int32 (lockout.tracker.mFailedCount + 1) ∨
        lockout.tracker.mCurrentMode = .permanent)
    (hafter : lockoutPermanentThreshold ≤ failuresAfter failures action) :
    (lockout.act util now action).tracker.mCurrentMode = .permanent := by
  have hzero : ¬ lockoutPermanentThreshold ≤ ((0 : Nat) : Int) := by decide
  cases action with
  | reset | succeed => exact absurd hafter hzero
  | fail =>
    rw [failuresAfter, Nat.cast_add_one] at hafter
    have hpermanent := (hfail rfl).resolve_left (not_lt.mpr hafter)
    exact Lockout.mode_permanent_check_iff.mpr
      (LockoutTracker.addFailedAttempt_permanent_iff.mpr hpermanent)
  | _ => exact hsafe.permanent_act hdue (hlocked hafter) nofun nofun

theorem Guarded.step (hguarded : Guarded util counted)
    (hguard : counted.InOneSession label)
    (hstep : counted.step util label = some next) : Guarded util next := by
  rcases step_cases hstep with ⟨userId, hrequest, hsession, hfailures⟩ |
    ⟨-, -, hnone, -⟩ | ⟨event, session, session', enrollments', hrequest, hsession,
      hsession', hhandle, hfailures⟩
  · simp only [InOneSession, hrequest] at hguard
    refine ⟨?_, ?_⟩
    · intro fresh hfresh _ hfail
      rw [hsession, Option.mem_some_iff] at hfresh
      rw [hfailures] at hfail
      rw [← hfresh]
      exact Lockout.mode_permanent_iff.mpr
        (hguard.resolve_left (not_lt.mpr hfail))
    · intro fresh hfresh
      rw [hsession, Option.mem_some_iff] at hfresh
      rw [← hfresh]
      exact Lockout.safe_of_timers_eq_nil rfl
  · refine ⟨?_, ?_⟩
    · rw [LockedOut, hnone]
      exact nofun
    · rw [hnone]
      exact nofun
  · simp only [InOneSession, hrequest] at hguard
    obtain ⟨hlockout, hdue⟩ := Session.lockout_handle hhandle
    have hsafe := hguarded.safe session hsession
    refine ⟨?_, ?_⟩
    · intro other hother hopen hfail
      rw [hsession', Option.mem_some_iff] at hother
      rw [← hother] at hopen ⊢
      have hopen' : session.mClosed = false := by
        rw [Session.mClosed_handle hhandle, Bool.or_eq_false_iff] at hopen
        exact hopen.1
      rw [Lockout.mode_permanent_iff, hlockout]
      rw [hfailures] at hfail
      refine permanent_act_of_guard hsafe hdue (fun hmany => ?_)
        (hguard session hsession) hfail
      exact Lockout.mode_permanent_iff.mp
        (hguarded.lockedOut session hsession hopen' hmany)
    · intro other hother
      rw [hsession', Option.mem_some_iff] at hother
      rw [← hother, hlockout]
      exact hsafe.act hdue

/-- A step against the guard leaves a session that is not locked out. -/
theorem not_lockedOut_step (hguard : ¬ counted.InOneSession label)
    (hstep : counted.step util label = some next) :
    ¬ LockedOut util next := by
  intro hlocked
  rcases step_cases hstep with ⟨userId, hrequest, hsession, hfailures⟩ |
    ⟨event, hrequest, -, hnone⟩ |
    ⟨event, session, session', enrollments', hrequest, hsession, hsession',
      hhandle, hfailures⟩
  · simp only [InOneSession, hrequest, not_or, not_lt] at hguard
    have hmode := hlocked _ hsession rfl (by rw [hfailures]; exact hguard.1)
    exact hguard.2 (Lockout.mode_permanent_iff.mp hmode)
  · simp only [InOneSession, hrequest, hnone] at hguard
    exact hguard nofun
  · simp only [InOneSession, hrequest, not_forall, not_or, not_lt] at hguard
    obtain ⟨other, hother, haction, hmany, hcount, hmode⟩ := hguard
    rw [hsession, Option.mem_some_iff] at hother
    subst hother
    obtain ⟨hopen, hevent⟩ := event.action_eq_fail haction
    have hopen' : session'.mClosed = false := by
      rw [Session.mClosed_handle hhandle, hopen, decide_eq_false hevent]
      rfl
    have hmany' : lockoutPermanentThreshold ≤ next.failures := by
      rw [hfailures, haction, failuresAfter, Nat.cast_add_one]
      exact hmany
    have hpermanent := Lockout.mode_permanent_iff.mp
      (hlocked session' hsession' hopen' hmany')
    rw [(Session.lockout_handle hhandle).1, haction] at hpermanent
    have hfailed := LockoutTracker.addFailedAttempt_permanent_iff.mp
      (Lockout.mode_permanent_check_iff.mp hpermanent)
    exact hfailed.elim hcount hmode

/-- Twenty failed matches lock out every session all along a run exactly when
they do not spread over several sessions. -/
theorem locked_out_iff_in_one_session {service : Service}
    (hnew : service.mSession = none) (labels : List ServiceLabel) :
    RunHolds (step util) (LockedOut util) ⟨service, 0⟩ labels ↔
      RunMeets (step util) InOneSession ⟨service, 0⟩ labels := by
  have hinit : Guarded util ⟨service, 0⟩ := by
    refine ⟨?_, ?_⟩
    · rw [LockedOut, hnew]
      exact nofun
    · rw [hnew]
      exact nofun
  exact runHolds_iff_runMeets (fun _ hguarded => hguarded.lockedOut)
    (fun _ _ _ hguarded hguard => hguarded.step hguard)
    (fun _ _ _ _ hguard => not_lockedOut_step hguard) hinit labels

/-- A service that was just started, with a tracker that shows no lockout. -/
def sample : Service where
  mSession := none
  mLockoutTracker :=
    { mFailedCount := 0, mLockoutTimedStart := 0, mCurrentMode := .none }
  enrollments := []
  clock := 1
  clock_pos := Int.one_pos

def failedMatch : ServiceLabel := ⟨2, .onSession (.notify (.authenticated 0))⟩

/-- Twenty failed matches in one session. -/
theorem locked_out_in_one_session :
    RunHolds (step .inMillis) (LockedOut .inMillis) ⟨sample, 0⟩
      (⟨2, .createSession 0⟩ :: List.replicate 20 failedMatch) :=
  (locked_out_iff_in_one_session rfl _).mpr (by decide +kernel)

/-- Nineteen failed matches in one session and one in the next. -/
theorem not_always_locked_out :
    ¬ ∀ labels, RunHolds (step .inMillis) (LockedOut .inMillis) ⟨sample, 0⟩
      labels := by
  intro hlocked
  have hrun := hlocked (⟨2, .createSession 0⟩ ::
    List.replicate 19 failedMatch ++
      [⟨2, .onSession .close⟩, ⟨2, .createSession 0⟩, failedMatch])
  revert hrun
  decide +kernel

end Counted

end HardwareInterfaces.Fingerprint

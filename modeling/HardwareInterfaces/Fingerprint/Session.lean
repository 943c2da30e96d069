import HardwareInterfaces.Fingerprint.LockoutTracker

/-!
# A session of the fingerprint sensor

A session passes calls of the framework to the device and messages of the
device back to the framework.  It keeps its own lockout tracker, and during a
timed lockout a detached thread sleeps until the lockout should be over.

Handlers are atomic.  What they do outside the session is recorded as a list of
effects, in order.  The replies of the device are part of a call.
Authentication tokens are passed on unread and are left out.
-/

namespace HardwareInterfaces.Fingerprint

/-! ## Messages of the device -/

inductive Error where
  | hwUnavailable
  | unableToProcess
  | timeout
  | noSpace
  | canceled
  | unableToRemove
  | vendor
  deriving DecidableEq, Repr

inductive AcquiredInfo where
  | unknown
  | good
  | partialImage
  | insufficient
  | sensorDirty
  | tooSlow
  | tooFast
  | vendor
  deriving DecidableEq, Repr

/-- The error numbers of the device; `vendor` counts from the vendor base. -/
inductive DeviceError where
  | hwUnavailable
  | unableToProcess
  | timeout
  | noSpace
  | canceled
  | unableToRemove
  | lockout
  | vendor (code : Nat)
  | other
  deriving DecidableEq, Repr

inductive DeviceAcquired where
  | good
  | partialImage
  | insufficient
  | imagerDirty
  | tooSlow
  | tooFast
  | vendor (code : Nat)
  | other
  deriving DecidableEq, Repr

/-- The number of `FINGERPRINT_ERROR_LOCKOUT` in the device interface. -/
def fingerprintErrorLockout : Int := 7

/-- The error for the framework, with a vendor code. -/
def vendorErrorFilter : DeviceError → Error × Int
  | .hwUnavailable => (.hwUnavailable, 0)
  | .unableToProcess => (.unableToProcess, 0)
  | .timeout => (.timeout, 0)
  | .noSpace => (.noSpace, 0)
  | .canceled => (.canceled, 0)
  | .unableToRemove => (.unableToRemove, 0)
  | .lockout => (.vendor, fingerprintErrorLockout)
  | .vendor code => (.vendor, code)
  | .other => (.unableToProcess, 0)

def vendorAcquiredFilter : DeviceAcquired → AcquiredInfo × Int
  | .good => (.good, 0)
  | .partialImage => (.partialImage, 0)
  | .insufficient => (.insufficient, 0)
  | .imagerDirty => (.sensorDirty, 0)
  | .tooSlow => (.tooSlow, 0)
  | .tooFast => (.tooFast, 0)
  | .vendor code => (.vendor, code)
  | .other => (.unknown, 0)

inductive Message where
  | error (error : DeviceError)
  | acquired (info : DeviceAcquired)
  | templateEnrolling (fid samplesRemaining : Int)
  | templateRemoved (fid : Int)
  | authenticated (fid : Int)
  | templateEnumerating (fid remainingTemplates : Int)
  deriving DecidableEq, Repr

/-! ## Effects -/

inductive Callback where
  | onChallengeGenerated (challenge : Int)
  | onChallengeRevoked (challenge : Int)
  | onError (error : Error) (vendorCode : Int)
  | onAcquired (info : AcquiredInfo) (vendorCode : Int)
  | onEnrollmentProgress (fid remaining : Int)
  | onAuthenticationSucceeded (fid : Int)
  | onAuthenticationFailed
  | onLockoutTimed (timeLeft : Int)
  | onLockoutPermanent
  | onLockoutCleared
  | onEnrollmentsEnumerated (enrollments : List Int)
  | onEnrollmentsRemoved (enrollments : List Int)
  | onAuthenticatorIdRetrieved (id : Int)
  | onAuthenticatorIdInvalidated (id : Int)
  | onSessionClosed
  deriving DecidableEq, Repr

inductive DeviceCall where
  | preEnroll
  | postEnroll
  | enroll (userId timeoutSec : Int)
  | authenticate (operationId userId : Int)
  | enumerate
  | remove (userId fid : Int)
  | getAuthenticatorId
  | cancel
  deriving DecidableEq, Repr

inductive Effect where
  | callback (callback : Callback)
  | device (call : DeviceCall)
  deriving DecidableEq, Repr

/-! ## The session -/

/-- A sleeping thread; `lockoutStart` is the start of the lockout it was
started for, which the thread itself does not know. -/
structure LockoutTimer where
  deadline : Int
  lockoutStart : Int
  deriving DecidableEq, Repr

structure Session where
  mLockoutTracker : LockoutTracker
  mUserId : Int
  mClosed : Bool := false
  mIsLockoutTimerStarted : Bool := false
  mIsLockoutTimerAborted : Bool := false
  timers : List LockoutTimer := []
  effects : List Effect := []
  deriving DecidableEq, Repr

namespace Session

variable (util : Util) (now : Int) (session : Session)

def emit (effects : List Effect) : Session :=
  { session with effects := session.effects ++ effects }

def clearLockout (clearAttemptCounter : Bool) : Session :=
  { session with
      mLockoutTracker := session.mLockoutTracker.reset clearAttemptCounter }.emit
    [.callback .onLockoutCleared]

/-- The thread sleeps for `timeout` milliseconds. -/
def startLockoutTimer (timeout : Int) : Session :=
  { session with
    timers := session.timers ++
      [{ deadline := now + max timeout 0 * nanosPerMilli
         lockoutStart := session.mLockoutTracker.mLockoutTimedStart }]
    mIsLockoutTimerStarted := true }

def checkSensorLockout : Bool × Session :=
  let (lockoutMode, tracker) := session.mLockoutTracker.getMode util now
  let session := { session with mLockoutTracker := tracker }
  match lockoutMode with
  | .permanent =>
    (true,
      { session.emit [.callback .onLockoutPermanent] with
        mIsLockoutTimerAborted := true })
  | .timed =>
    let timeLeft := tracker.getLockoutTimeLeft now
    let session := session.emit [.callback (.onLockoutTimed timeLeft)]
    (true,
      if session.mIsLockoutTimerStarted then session
      else session.startLockoutTimer now timeLeft)
  | .none => (false, session)

def lockoutTimerExpired : Session :=
  { if session.mIsLockoutTimerAborted then session
      else session.clearLockout false with
    mIsLockoutTimerStarted := false
    mIsLockoutTimerAborted := false }

/-- Report an error of the device, if there is one. -/
def reportError (error : Int) : Session :=
  if error ≠ 0 then
    session.emit [.callback (.onError .unableToProcess error)]
  else session

def enroll (error : Int) : Session :=
  (session.emit [.device (.enroll session.mUserId 60)]).reportError error

def authenticate (operationId error : Int) : Session :=
  ((session.checkSensorLockout util now).2.emit
    [.device (.authenticate operationId session.mUserId)]).reportError error

def authenticateWithContext (operationId error : Int) : Session :=
  session.authenticate util now operationId error

def resetLockout : Session :=
  let session := session.clearLockout true
  if session.mIsLockoutTimerStarted then
    { session with mIsLockoutTimerAborted := true }
  else session

def cancel (ret : Int) : Session :=
  let session := session.emit [.device .cancel]
  if ret = 0 then session.emit [.callback (.onError .canceled 0)] else session

def close : Session :=
  { session with mClosed := true }.emit [.callback .onSessionClosed]

/-- A message, with the list of enumerated fingers that all sessions share. -/
def notify (enrollments : List Int) : Message → Session × List Int
  | .error error =>
    let (result, vendorCode) := vendorErrorFilter error
    (session.emit [.callback (.onError result vendorCode)], enrollments)
  | .acquired info =>
    let (result, vendorCode) := vendorAcquiredFilter info
    (session.emit [.callback (.onAcquired result vendorCode)], enrollments)
  | .templateEnrolling fid samplesRemaining =>
    (session.emit [.callback (.onEnrollmentProgress fid samplesRemaining)],
      enrollments)
  | .templateRemoved fid =>
    (session.emit [.callback (.onEnrollmentsRemoved [fid])], enrollments)
  | .authenticated fid =>
    if fid ≠ 0 then
      let session :=
        session.emit [.callback (.onAuthenticationSucceeded fid)]
      ({ session with
          mLockoutTracker := session.mLockoutTracker.reset true },
        enrollments)
    else
      let session := session.emit [.callback .onAuthenticationFailed]
      let session := { session with
        mLockoutTracker := session.mLockoutTracker.addFailedAttempt now }
      ((session.checkSensorLockout util now).2, enrollments)
  | .templateEnumerating fid remainingTemplates =>
    let enrollments := enrollments ++ [fid]
    if remainingTemplates = 0 then
      (session.emit [.callback (.onEnrollmentsEnumerated enrollments)], [])
    else (session, enrollments)

end Session

/-! ## Handlers -/

/-- A handler of a session: a call, a message or the end of a sleep. -/
inductive Event where
  | generateChallenge (challenge : Int)
  | revokeChallenge (challenge : Int)
  | enroll (error : Int)
  | authenticate (operationId error : Int)
  | authenticateWithContext (operationId error : Int)
  | detectInteraction
  | enumerateEnrollments (error : Int)
  | removeEnrollments (enrollmentIds : List Int)
  | getAuthenticatorId (id : Int)
  | invalidateAuthenticatorId (id : Int)
  | resetLockout
  | cancel (ret : Int)
  | close
  | notify (message : Message)
  | timerExpires (index : Nat)
  deriving DecidableEq, Repr

namespace Session

/-- Run one handler.  Messages for a closed session are dropped; a timer only
runs out if it is pending and its time has come. -/
def handle (util : Util) (now : Int) (session : Session)
    (enrollments : List Int) (event : Event) : Option (Session × List Int) :=
  let session := { session with effects := [] }
  match event with
  | .generateChallenge challenge =>
    some (session.emit [.device .preEnroll,
      .callback (.onChallengeGenerated challenge)], enrollments)
  | .revokeChallenge challenge =>
    some (session.emit [.device .postEnroll,
      .callback (.onChallengeRevoked challenge)], enrollments)
  | .enroll error => some (session.enroll error, enrollments)
  | .authenticate operationId error =>
    some (session.authenticate util now operationId error, enrollments)
  | .authenticateWithContext operationId error =>
    some (session.authenticateWithContext util now operationId error,
      enrollments)
  | .detectInteraction =>
    some (session.emit [.callback (.onError .unableToProcess 0)],
      enrollments)
  | .enumerateEnrollments _ =>
    some (session.emit [.device .enumerate], enrollments)
  | .removeEnrollments enrollmentIds =>
    some (session.emit (enrollmentIds.map fun fid =>
      .device (.remove session.mUserId fid)), enrollments)
  | .getAuthenticatorId id =>
    some (session.emit [.device .getAuthenticatorId,
      .callback (.onAuthenticatorIdRetrieved id)], enrollments)
  | .invalidateAuthenticatorId id =>
    some (session.emit [.device .getAuthenticatorId,
      .callback (.onAuthenticatorIdInvalidated id)], enrollments)
  | .resetLockout => some (session.resetLockout, enrollments)
  | .cancel ret => some (session.cancel ret, enrollments)
  | .close => some (session.close, enrollments)
  | .notify message =>
    if session.mClosed then some (session, enrollments)
    else some (session.notify util now enrollments message)
  | .timerExpires index =>
    match session.timers[index]? with
    | none => none
    | some timer =>
      if timer.deadline ≤ now then
        some ({ session with
          timers := session.timers.eraseIdx index }.lockoutTimerExpired,
            enrollments)
      else none

end Session

/-! ## Parts that several handlers share -/

/-- A callback about an error or a lockout. -/
def Effect.isNotice : Effect → Bool
  | .callback (.onError _ _) => true
  | .callback (.onLockoutTimed _) => true
  | .callback .onLockoutPermanent => true
  | .callback .onLockoutCleared => true
  | _ => false

namespace Session

variable {util : Util} {now : Int} {session next : Session}

/-- Whatever else has changed, only notices have been added to the effects. -/
def Notifies (session next : Session) : Prop :=
  ∃ added, next.effects = session.effects ++ added ∧
    ∀ effect ∈ added, effect.isNotice = true

theorem notifies_of_effects_eq (hnext : next.effects = session.effects) :
    session.Notifies next :=
  ⟨[], by rw [hnext, List.append_nil], nofun⟩

theorem notifies_of_effects_concat {effect : Effect}
    (hnext : next.effects = session.effects ++ [effect])
    (hnotice : effect.isNotice = true) : session.Notifies next :=
  ⟨[effect], hnext, fun _ hmem => List.mem_singleton.mp hmem ▸ hnotice⟩

section

variable (session : Session)

theorem notifies_reportError (error : Int) :
    session.Notifies (session.reportError error) := by
  rw [reportError]
  split_ifs
  · exact notifies_of_effects_concat rfl rfl
  · exact notifies_of_effects_eq rfl

theorem notifies_checkSensorLockout :
    session.Notifies (session.checkSensorLockout util now).2 := by
  obtain ⟨tracker, userId, closed, started, aborted, timers, effects⟩ := session
  simp only [checkSensorLockout, LockoutTracker.getMode]
  cases (tracker.settle util now).mCurrentMode with
  | none => exact notifies_of_effects_eq rfl
  | permanent => exact notifies_of_effects_concat rfl rfl
  | timed => cases started <;> exact notifies_of_effects_concat rfl rfl

theorem notifies_lockoutTimerExpired :
    session.Notifies session.lockoutTimerExpired := by
  obtain ⟨tracker, userId, closed, started, aborted, timers, effects⟩ := session
  cases aborted
  · exact notifies_of_effects_concat rfl rfl
  · exact notifies_of_effects_eq rfl

theorem notifies_resetLockout : session.Notifies session.resetLockout := by
  obtain ⟨tracker, userId, closed, started, aborted, timers, effects⟩ := session
  cases started <;> exact notifies_of_effects_concat rfl rfl

end

end Session

end HardwareInterfaces.Fingerprint

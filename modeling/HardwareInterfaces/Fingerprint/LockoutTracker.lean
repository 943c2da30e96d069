import HardwareInterfaces.Core.MachineArithmetic

/-!
# Counting failed matches

The tracker of the fingerprint sensor counts failed matches.  After five of
them the sensor is locked out for ten seconds, after twenty it is locked out
for good.  A timed lockout ends when the mode is next asked for after its time.

Times are readings of the monotonic clock in nanoseconds, which is kept away
from the end of its range.  When `addFailedAttempt`, `getMode` and
`getLockoutTimeLeft` run in one handler they read the same time.
-/

namespace HardwareInterfaces.Fingerprint

open MachineArithmetic

def lockoutTimedThreshold : Int := 5

/-- In milliseconds. -/
def lockoutTimedDuration : Int := 10000

def lockoutPermanentThreshold : Int := 20

def nanosPerMilli : Int := 1000000

/-- The comparison of times that the tracker is given.  It may be late, but it
does not say that a time has passed before it has. -/
structure Util where
  hasElapsed : (now start durationMillis : Int) → Bool
  elapsed_of_hasElapsed : ∀ now start durationMillis,
    hasElapsed now start durationMillis = true →
      start + durationMillis * nanosPerMilli ≤ now

/-- The comparison in full milliseconds. -/
def Util.inMillis : Util where
  hasElapsed now start durationMillis :=
    decide (start ≤ now ∧ durationMillis ≤ (now - start) / nanosPerMilli)
  elapsed_of_hasElapsed := by
    intro now start durationMillis helapsed
    obtain ⟨-, hmillis⟩ := of_decide_eq_true helapsed
    rw [nanosPerMilli] at *
    omega

inductive LockoutMode where
  | none
  | timed
  | permanent
  deriving DecidableEq, Repr

/-- The constructor sets the count only; the rest is left as it was found. -/
structure LockoutTracker where
  mFailedCount : Int
  mLockoutTimedStart : Int
  mCurrentMode : LockoutMode
  deriving DecidableEq, Repr

namespace LockoutTracker

variable (util : Util) (now : Int) (tracker : LockoutTracker)

def reset (clearAttemptCounter : Bool) : LockoutTracker where
  mFailedCount := if clearAttemptCounter then 0 else tracker.mFailedCount
  mLockoutTimedStart := 0
  mCurrentMode := .none

def addFailedAttempt : LockoutTracker :=
  let failedCount := int32 (tracker.mFailedCount + 1)
  if lockoutPermanentThreshold ≤ failedCount then
    { tracker with mFailedCount := failedCount, mCurrentMode := .permanent }
  else if lockoutTimedThreshold ≤ failedCount ∧
      tracker.mCurrentMode = .none then
    { mFailedCount := failedCount
      mLockoutTimedStart := now
      mCurrentMode := .timed }
  else { tracker with mFailedCount := failedCount }

/-- The tracker once a timed lockout that is over has been dropped. -/
def settle : LockoutTracker :=
  if tracker.mCurrentMode = .timed ∧
      util.hasElapsed now tracker.mLockoutTimedStart lockoutTimedDuration then
    { tracker with mLockoutTimedStart := 0, mCurrentMode := .none }
  else tracker

def getMode : LockoutMode × LockoutTracker :=
  ((tracker.settle util now).mCurrentMode, tracker.settle util now)

/-- In milliseconds. -/
def getLockoutTimeLeft : Int :=
  if 0 < tracker.mLockoutTimedStart then
    lockoutTimedDuration -
      (now - tracker.mLockoutTimedStart).tdiv nanosPerMilli
  else 0

end LockoutTracker

end HardwareInterfaces.Fingerprint

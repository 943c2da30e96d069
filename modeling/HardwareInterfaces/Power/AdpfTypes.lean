import Mathlib

/-!
# Shared types of the power session code

Time points and durations are nanosecond counts of the steady clock, kept as
integers.  Session and task identifiers are the `int64_t` and `pid_t` values
that the clients choose.
-/

namespace HardwareInterfaces.AdpfTypes

abbrev TimePoint := Int
abbrev Nanoseconds := Int
abbrev SessionId := Int
abbrev TaskId := Int

/-- Raw vote identifier, the underlying integer of an `AdpfVoteType`. -/
abbrev VoteId := Int

abbrev Cycles := Int

inductive AdpfVoteType where
  | cpuVoteDefault
  | cpuLoadUp
  | cpuLoadReset
  | cpuLoadResume
  | votePowerEfficiency
  | gpuLoadUp
  | gpuLoadDown
  | gpuLoadReset
  | gpuCapacity
  deriving DecidableEq, Repr

/-- The cast to the underlying type, numbered from zero as in the source. -/
def AdpfVoteType.toInt : AdpfVoteType → VoteId
  | cpuVoteDefault => 0
  | cpuLoadUp => 1
  | cpuLoadReset => 2
  | cpuLoadResume => 3
  | votePowerEfficiency => 4
  | gpuLoadUp => 5
  | gpuLoadDown => 6
  | gpuLoadReset => 7
  | gpuCapacity => 8

inductive SessionJankyLevel where
  | light
  | moderate
  | severe
  deriving DecidableEq, Repr

inductive SessionTag where
  | other
  | surfaceflinger
  | hwui
  | game
  | app
  | sysui
  deriving DecidableEq, Repr

inductive ProcessTag where
  | default
  | systemUi
  | chrome
  deriving DecidableEq, Repr

inductive ThrottlingSeverity where
  | none
  | light
  | moderate
  | severe
  | critical
  | emergency
  | shutdown
  deriving DecidableEq, Repr

def kUclampMin : Int := 0
def kUclampMax : Int := 1024

/-- First uid that belongs to an application. -/
def aidAppStart : Int := 10000

/-- The part of an ADPF profile that the power session code reads.

A floating-point factor of the profile only ever scales a nanosecond count
that is then rounded, so it is kept as the map on nanosecond counts that the
scaling and the rounding compute together. -/
structure AdpfConfig where
  mPidOn : Bool
  mUclampMinOn : Bool
  mUclampMinInit : Int
  mUclampMinHigh : Int
  mUclampMinLow : Int
  mUclampMinLoadUp : Int
  mUclampMinLoadReset : Int
  mUclampMaxEfficientBase : Option Int
  /-- Dereferenced without a test; an unset one yields some number. -/
  mUclampMaxEfficientOffset : Int
  mGpuBoostOn : Option Bool
  mGpuBoostCapacityMax : Option Int
  mGpuCapacityLoadUpHeadroom : Int
  mHeuristicBoostOn : Option Bool
  mHeuristicRampup : Option Bool
  mDefaultRampupMult : Option Int
  mHighRampupMult : Option Int
  mReportingRateLimitNs : Nanoseconds
  mStaleTimeFactor : Nanoseconds → Nanoseconds
  mHalfStaleTimeFactor : Nanoseconds → Nanoseconds
  mTargetTimeFactor : Nanoseconds → Nanoseconds

end HardwareInterfaces.AdpfTypes

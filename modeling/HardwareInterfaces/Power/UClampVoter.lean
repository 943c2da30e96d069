import HardwareInterfaces.Core.MachineArithmetic
import HardwareInterfaces.Power.AdpfTypes

/-!
# Votes of a power session

A session holds at most one vote per vote id, in one of two maps: the ids of
GPU votes live in `mGpuVotes`, all others in `mCpuVotes`.  Every operation
looks at the id first and then only at the map the id belongs to.  The timing
part of a vote, `Votes.voteRange`, is what the timeout logic depends on; the
lemmas below say how each operation changes it.
-/

namespace HardwareInterfaces.UClampVoter

open AdpfTypes MachineArithmetic

structure UclampRange where
  uclampMin : Int
  uclampMax : Int
  deriving DecidableEq, Repr

/-- The default-initialised range. -/
def UclampRange.full : UclampRange := ⟨kUclampMin, kUclampMax⟩

structure VoteRange where
  mActive : Bool
  mStartTime : TimePoint
  mDurationNs : Nanoseconds
  deriving DecidableEq, Repr

/-- Time points and durations are added in 64 bits. -/
def timeoutDeadline (startTime : TimePoint) (durationNs : Nanoseconds) :
    TimePoint :=
  int64 (startTime + durationNs)

/-- The moment a vote ends for the code. -/
def VoteRange.timeout (range : VoteRange) : TimePoint :=
  timeoutDeadline range.mStartTime range.mDurationNs

def VoteRange.setActive (range : VoteRange) (active : Bool) : VoteRange :=
  { range with mActive := active }

def VoteRange.updateDuration (range : VoteRange) (durationNs : Nanoseconds) :
    VoteRange :=
  { range with mDurationNs := durationNs }

def VoteRange.isTimeInRange (range : VoteRange) (t : TimePoint) : Bool :=
  range.mActive && (decide (range.mStartTime ≤ t) &&
    decide (t ≤ range.timeout))

structure CpuVote extends VoteRange where
  mUclampRange : UclampRange
  deriving DecidableEq, Repr

structure GpuVote extends VoteRange where
  mCapacity : Cycles
  deriving DecidableEq, Repr

structure Votes where
  mCpuVotes : AList fun _ : VoteId => CpuVote
  mGpuVotes : AList fun _ : VoteId => GpuVote

def Votes.empty : Votes := ⟨∅, ∅⟩

def isGpuVote (typeRaw : VoteId) : Bool :=
  decide (typeRaw = AdpfVoteType.gpuCapacity.toInt) ||
    decide (typeRaw = AdpfVoteType.gpuLoadUp.toInt) ||
    decide (typeRaw = AdpfVoteType.gpuLoadDown.toInt) ||
    decide (typeRaw = AdpfVoteType.gpuLoadReset.toInt)

def confine (uclampRange : UclampRange) (cpuVote : CpuVote) (t : TimePoint) :
    UclampRange :=
  if cpuVote.isTimeInRange t then
    { uclampMin := max uclampRange.uclampMin cpuVote.mUclampRange.uclampMin
      uclampMax := min uclampRange.uclampMax cpuVote.mUclampRange.uclampMax }
  else uclampRange

/-- `Votes::add` for a CPU vote.  A GPU vote id is ignored. -/
def Votes.addCpu (votes : Votes) (id : VoteId) (vote : CpuVote) : Votes :=
  if isGpuVote id then votes
  else { votes with mCpuVotes := votes.mCpuVotes.insert id vote }

/-- `Votes::add` for a GPU vote.  A CPU vote id is ignored. -/
def Votes.addGpu (votes : Votes) (id : VoteId) (vote : GpuVote) : Votes :=
  if isGpuVote id then
    { votes with mGpuVotes := votes.mGpuVotes.insert id vote }
  else votes

/-- Update the timing of an existing vote in the map its id belongs to. -/
def Votes.modifyRange (votes : Votes) (voteId : VoteId)
    (change : VoteRange → VoteRange) : Votes :=
  if isGpuVote voteId then
    match votes.mGpuVotes.lookup voteId with
    | none => votes
    | some vote =>
      { votes with
        mGpuVotes := votes.mGpuVotes.insert voteId
          { vote with toVoteRange := change vote.toVoteRange } }
  else
    match votes.mCpuVotes.lookup voteId with
    | none => votes
    | some vote =>
      { votes with
        mCpuVotes := votes.mCpuVotes.insert voteId
          { vote with toVoteRange := change vote.toVoteRange } }

def Votes.updateDuration (votes : Votes) (voteId : VoteId)
    (durationNs : Nanoseconds) : Votes :=
  votes.modifyRange voteId fun range => range.updateDuration durationNs

def Votes.setUseVote (votes : Votes) (voteId : VoteId) (active : Bool) : Votes :=
  votes.modifyRange voteId fun range => range.setActive active

def Votes.getUclampRange (votes : Votes) (uclampRange : UclampRange)
    (t : TimePoint) : UclampRange :=
  votes.mCpuVotes.entries.foldl
    (fun range entry => confine range entry.2 t) uclampRange

/-- The two GPU hints that ask for capacity add up; no in-range hint is no
request at all. -/
def Votes.getGpuCapacityRequest (votes : Votes) (t : TimePoint) :
    Option Cycles :=
  [AdpfVoteType.gpuCapacity, AdpfVoteType.gpuLoadUp].foldl
    (fun res hint =>
      match votes.mGpuVotes.lookup hint.toInt with
      | none => res
      | some vote =>
        if vote.isTimeInRange t then
          some (int32 (res.getD 0 + vote.mCapacity))
        else res)
    none

def Votes.allTimedOut (votes : Votes) (t : TimePoint) : Bool :=
  votes.mGpuVotes.entries.all (fun entry => !entry.2.isTimeInRange t) &&
    votes.mCpuVotes.entries.all (fun entry => !entry.2.isTimeInRange t)

def Votes.voteIsActive (votes : Votes) (voteId : VoteId) : Bool :=
  if isGpuVote voteId then
    match votes.mGpuVotes.lookup voteId with
    | none => false
    | some vote => vote.mActive
  else
    match votes.mCpuVotes.lookup voteId with
    | none => false
    | some vote => vote.mActive

/-- The default time point stands for a vote that does not exist. -/
def Votes.voteTimeout (votes : Votes) (voteId : VoteId) : TimePoint :=
  if isGpuVote voteId then
    match votes.mGpuVotes.lookup voteId with
    | none => 0
    | some vote => vote.timeout
  else
    match votes.mCpuVotes.lookup voteId with
    | none => 0
    | some vote => vote.timeout

/-! ## Timing of one vote -/

/-- The timing of the vote stored under an id. -/
def Votes.voteRange (votes : Votes) (voteId : VoteId) : Option VoteRange :=
  if isGpuVote voteId then
    (votes.mGpuVotes.lookup voteId).map GpuVote.toVoteRange
  else (votes.mCpuVotes.lookup voteId).map CpuVote.toVoteRange

variable (votes : Votes) (id voteId : VoteId)

theorem Votes.voteIsActive_eq :
    votes.voteIsActive voteId =
      ((votes.voteRange voteId).map VoteRange.mActive).getD false := by
  rw [voteIsActive, voteRange]
  split_ifs
  · cases votes.mGpuVotes.lookup voteId <;> rfl
  · cases votes.mCpuVotes.lookup voteId <;> rfl

theorem Votes.voteTimeout_eq :
    votes.voteTimeout voteId =
      ((votes.voteRange voteId).map VoteRange.timeout).getD 0 := by
  rw [voteTimeout, voteRange]
  split_ifs
  · cases votes.mGpuVotes.lookup voteId <;> rfl
  · cases votes.mCpuVotes.lookup voteId <;> rfl

@[simp]
theorem Votes.voteRange_empty : Votes.empty.voteRange voteId = none := by
  simp [voteRange, Votes.empty]

theorem Votes.voteRange_addCpu (vote : CpuVote) :
    (votes.addCpu id vote).voteRange voteId =
      if voteId = id ∧ isGpuVote id = false then some vote.toVoteRange
      else votes.voteRange voteId := by
  by_cases hgpu : isGpuVote id = true
  · simp [addCpu, hgpu]
  · by_cases hid : voteId = id
    · subst hid
      simp [addCpu, voteRange, hgpu]
    · by_cases hother : isGpuVote voteId = true
      · simp [addCpu, voteRange, hgpu, hid, hother]
      · simp [addCpu, voteRange, hgpu, hid, hother]

theorem Votes.voteRange_addGpu (vote : GpuVote) :
    (votes.addGpu id vote).voteRange voteId =
      if voteId = id ∧ isGpuVote id = true then some vote.toVoteRange
      else votes.voteRange voteId := by
  by_cases hgpu : isGpuVote id = true
  · by_cases hid : voteId = id
    · subst hid
      simp [addGpu, voteRange, hgpu]
    · by_cases hother : isGpuVote voteId = true
      · simp [addGpu, voteRange, hgpu, hid, hother]
      · simp [addGpu, voteRange, hgpu, hid, hother]
  · simp [addGpu, hgpu]

theorem Votes.voteRange_modifyRange (change : VoteRange → VoteRange) :
    (votes.modifyRange id change).voteRange voteId =
      if voteId = id then (votes.voteRange voteId).map change
      else votes.voteRange voteId := by
  by_cases hgpu : isGpuVote id = true
  · cases hvote : votes.mGpuVotes.lookup id with
    | none =>
      by_cases hid : voteId = id
      · subst hid
        simp [modifyRange, voteRange, hgpu, hvote]
      · simp [modifyRange, hgpu, hvote, hid]
    | some vote =>
      by_cases hid : voteId = id
      · subst hid
        simp [modifyRange, voteRange, hgpu, hvote]
      · simp [modifyRange, voteRange, hgpu, hvote, hid]
  · cases hvote : votes.mCpuVotes.lookup id with
    | none =>
      by_cases hid : voteId = id
      · subst hid
        simp [modifyRange, voteRange, hgpu, hvote]
      · simp [modifyRange, hgpu, hvote, hid]
    | some vote =>
      by_cases hid : voteId = id
      · subst hid
        simp [modifyRange, voteRange, hgpu, hvote]
      · simp [modifyRange, voteRange, hgpu, hvote, hid]

end HardwareInterfaces.UClampVoter

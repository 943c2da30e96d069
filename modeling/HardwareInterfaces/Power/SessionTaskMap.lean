import HardwareInterfaces.Core.ReverseIndex
import HardwareInterfaces.Core.Transition
import HardwareInterfaces.Power.SessionMetrics
import HardwareInterfaces.Power.UClampVoter

/-!
# The session and task maps

`mSessions` maps a session id to a shared value and the tasks linked to it;
`mTasks` maps a task to the shared values of the sessions linked to it.  Both
sides name the same value object, and the code compares these objects by
address, so the model keeps an explicit store: a `ValRef` is the address of a
`SessionValueEntry`, and every copy that the code makes gets a new address.

The votes of a session are reached through a pointer in the source as well.
Only the copies of one session ever share them, and at most one of these
copies is reachable, so the votes are stored inside the entry.
-/

namespace HardwareInterfaces.SessionTaskMap

open AdpfTypes MachineArithmetic Metrics ReverseIndex UClampVoter

/-- Address of a shared session value. -/
abbrev ValRef := Nat

structure HeurBoostStatistics where
  lightModeFrames : Int := 0
  moderateModeFrames : Int := 0
  severeModeFrames : Int := 0
  deriving DecidableEq, Repr

/-- The attributes of a session that its owner may change. -/
structure SessionValue where
  uid : Int
  isActive : Bool := true
  isAppSession : Bool := false
  tag : SessionTag
  procTag : ProcessTag
  lastUpdatedTime : TimePoint
  votes : Votes
  sessFrameBuckets : FrameBuckets := {}
  isPowerEfficient : Bool := false
  hBoostModeDist : HeurBoostStatistics := {}
  rampupBoostActive : Bool := false
  sessFrameMetrics : Option SessionMetrics := none

/-- A stored session value.  Its id is written once, when it is stored. -/
structure SessionValueEntry extends SessionValue where
  sessionId : SessionId

structure ValEntry where
  val : ValRef
  linkedTasks : List TaskId

/-- The two maps with the store that their addresses point into. -/
structure RawSessionTaskMap where
  mSessions : AList fun _ : SessionId => ValEntry
  mTasks : Index TaskId ValRef
  heap : ValRef → SessionValueEntry
  nextRef : ValRef

namespace RawSessionTaskMap

variable (map : RawSessionTaskMap)

/-- The initial maps; the content of unallocated addresses is irrelevant. -/
def empty (unallocated : SessionValueEntry) : RawSessionTaskMap :=
  ⟨∅, ∅, fun _ => unallocated, 0⟩

def add (sessionId : SessionId) (sv : SessionValue) (taskIds : List TaskId) :
    Bool × RawSessionTaskMap :=
  match map.mSessions.lookup sessionId with
  | some _ => (false, map)
  | none =>
    let sessValPtr := map.nextRef
    (true,
      { mSessions := map.mSessions.insert sessionId ⟨sessValPtr, taskIds⟩
        mTasks := linkAll map.mTasks taskIds sessValPtr
        heap := Function.update map.heap sessValPtr ⟨sv, sessionId⟩
        nextRef := sessValPtr + 1 })

def findSession (sessionId : SessionId) : Option ValRef :=
  (map.mSessions.lookup sessionId).map ValEntry.val

/-- Write through the pointer that `findSession` returns. -/
def modifySession (sessionId : SessionId)
    (change : SessionValue → SessionValue) : RawSessionTaskMap :=
  match map.mSessions.lookup sessionId with
  | none => map
  | some entry =>
    { map with
      heap := Function.update map.heap entry.val
        { map.heap entry.val with
          toSessionValue := change (map.heap entry.val).toSessionValue } }

def addVote (sessionId : SessionId) (voteId : VoteId)
    (uclampMin uclampMax : Int) (startTime : TimePoint)
    (durationNs : Nanoseconds) : RawSessionTaskMap :=
  map.modifySession sessionId fun value =>
    { value with
      votes := value.votes.addCpu voteId
        ⟨⟨true, startTime, durationNs⟩, ⟨uclampMin, uclampMax⟩⟩ }

def addGpuVote (sessionId : SessionId) (voteId : VoteId) (capacity : Cycles)
    (startTime : TimePoint) (durationNs : Nanoseconds) : RawSessionTaskMap :=
  map.modifySession sessionId fun value =>
    { value with
      votes := value.votes.addGpu voteId
        ⟨⟨true, startTime, durationNs⟩, capacity⟩ }

/-- One session of a task's list narrows the range, unless it is inactive.  The
source never tests whether the offset is set, so it is what the dereference of
the optional yields. -/
def confineBySession (timeNow : TimePoint)
    (uclampMaxEfficientBase : Option Int) (uclampMaxEfficientOffset : Int)
    (range : UclampRange) (session : SessionValue) : UclampRange :=
  if session.isActive then
    let confined := session.votes.getUclampRange range timeNow
    match session.isPowerEfficient, uclampMaxEfficientBase with
    | true, some base =>
      { confined with
        uclampMax := min confined.uclampMax
          (if session.votes.allTimedOut timeNow then base
          else int32 (confined.uclampMin + uclampMaxEfficientOffset)) }
    | _, _ => confined
  else range

def getTaskVoteRange (taskId : TaskId) (timeNow : TimePoint)
    (range : UclampRange) (uclampMaxEfficientBase : Option Int)
    (uclampMaxEfficientOffset : Int) : UclampRange :=
  match map.mTasks.lookup taskId with
  | none => UclampRange.full
  | some sessions =>
    sessions.foldl
      (fun current ref => confineBySession timeNow uclampMaxEfficientBase
        uclampMaxEfficientOffset current (map.heap ref).toSessionValue) range

def getSessionsGpuCapacity (timePoint : TimePoint) : Cycles :=
  map.mSessions.entries.foldl
    (fun capacity entry =>
      max capacity
        (((map.heap entry.2.val).votes.getGpuCapacityRequest timePoint).getD 0))
    0

def getSessionIds (taskId : TaskId) : List SessionId :=
  match map.mTasks.lookup taskId with
  | none => []
  | some sessions => sessions.map fun ref => (map.heap ref).sessionId

def getTaskIds (sessionId : SessionId) : List TaskId :=
  match map.mSessions.lookup sessionId with
  | none => []
  | some entry => entry.linkedTasks

def areAllSessionsTimeout (timePoint : TimePoint) : Bool :=
  map.mSessions.entries.all fun entry =>
    (map.heap entry.2.val).votes.allTimedOut timePoint

def remove (sessionId : SessionId) : Bool × RawSessionTaskMap :=
  match map.mSessions.lookup sessionId with
  | none => (false, map)
  | some entry =>
    (true,
      { map with
        mTasks := unlinkAll map.mTasks entry.linkedTasks entry.val
        mSessions := map.mSessions.erase sessionId })

def removeDeadTaskSessionMap (sessionId : SessionId) (taskId : TaskId) :
    Bool × RawSessionTaskMap :=
  match map.mSessions.lookup sessionId with
  | none => (false, map)
  | some entry =>
    match map.mTasks.lookup taskId with
    | none => (false, map)
    | some sessions =>
      if entry.val ∈ sessions then
        (true, { map with mTasks := unlink map.mTasks taskId entry.val })
      else (false, map)

/-- `threadList.erase(tidIter)` on the list that `getTaskIds` returned by
reference, with the iterator given by its position. -/
def eraseLinkedTask (sessionId : SessionId) (position : Nat) :
    RawSessionTaskMap :=
  match map.mSessions.lookup sessionId with
  | none => map
  | some entry =>
    { map with
      mSessions := map.mSessions.insert sessionId
        { entry with linkedTasks := entry.linkedTasks.eraseIdx position } }

/-- What `applyUclampLocked` does with the thread at a position of a session's
list once the kernel reports it dead. -/
def dropDeadThread (sessionId : SessionId) (position : Nat) :
    RawSessionTaskMap :=
  match (map.getTaskIds sessionId)[position]? with
  | none => map
  | some taskId =>
    (map.removeDeadTaskSessionMap sessionId taskId).2.eraseLinkedTask
      sessionId position

structure ReplaceResult where
  replaced : Bool
  map : RawSessionTaskMap
  addedThreads : List TaskId
  removedThreads : List TaskId

def replace (sessionId : SessionId) (taskIds : List TaskId) : ReplaceResult :=
  match map.mSessions.lookup sessionId with
  | none => ⟨false, map, [], []⟩
  | some entry =>
    let addedThreads :=
      taskIds.filter fun tid => (map.mTasks.lookup tid).isNone
    let removed := (map.remove sessionId).2
    let added :=
      (removed.add sessionId (map.heap entry.val).toSessionValue taskIds).2
    let removedThreads :=
      entry.linkedTasks.filter fun tid => (added.mTasks.lookup tid).isNone
    ⟨true, added, addedThreads, removedThreads⟩

end RawSessionTaskMap

end HardwareInterfaces.SessionTaskMap

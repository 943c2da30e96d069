import HardwareInterfaces.Power.LinkConsistency

/-!
# Sessions and their links

A `SessionLinks` is a pair of session and task maps together with the proof
that they are well formed.  All operations of the source preserve it, so the
code above the maps never sees an inconsistent one.

The addresses disappear at this level.  Seen from outside, the maps are a
partial function from session ids to a value and a list of tasks, each
operation rewrites that function at one session id, and the sessions of a task
are exactly the live sessions that list the task.
-/

namespace HardwareInterfaces.SessionTaskMap

open AdpfTypes ReverseIndex UClampVoter

instance : Inhabited SessionValueEntry where
  default :=
    { uid := 0, tag := .other, procTag := .default, lastUpdatedTime := 0,
      votes := Votes.empty, sessionId := 0 }

def SessionLinks := { map : RawSessionTaskMap // map.WellFormed }

/-- A live session as its owner sees it. -/
structure Session where
  value : SessionValue
  linkedTasks : List TaskId

namespace SessionLinks

def empty : SessionLinks :=
  ⟨RawSessionTaskMap.empty default, RawSessionTaskMap.wellFormed_empty default⟩

variable (links : SessionLinks)

/-- The session stored under an id. -/
def session (sessionId : SessionId) : Option Session :=
  (links.val.mSessions.lookup sessionId).map fun entry =>
    ⟨(links.val.heap entry.val).toSessionValue, entry.linkedTasks⟩

def add (sessionId : SessionId) (sv : SessionValue) (taskIds : List TaskId) :
    SessionLinks :=
  ⟨(links.val.add sessionId sv taskIds).2,
    RawSessionTaskMap.wellFormed_add links.property sessionId sv taskIds⟩

def modifySession (sessionId : SessionId)
    (change : SessionValue → SessionValue) : SessionLinks :=
  ⟨links.val.modifySession sessionId change,
    RawSessionTaskMap.wellFormed_modifySession links.property sessionId change⟩

def addVote (sessionId : SessionId) (voteId : VoteId)
    (uclampMin uclampMax : Int) (startTime : TimePoint)
    (durationNs : Nanoseconds) : SessionLinks :=
  ⟨links.val.addVote sessionId voteId uclampMin uclampMax startTime durationNs,
    RawSessionTaskMap.wellFormed_modifySession links.property sessionId _⟩

def addGpuVote (sessionId : SessionId) (voteId : VoteId) (capacity : Cycles)
    (startTime : TimePoint) (durationNs : Nanoseconds) : SessionLinks :=
  ⟨links.val.addGpuVote sessionId voteId capacity startTime durationNs,
    RawSessionTaskMap.wellFormed_modifySession links.property sessionId _⟩

def remove (sessionId : SessionId) : SessionLinks :=
  ⟨(links.val.remove sessionId).2,
    RawSessionTaskMap.wellFormed_remove links.property sessionId⟩

def dropDeadThread (sessionId : SessionId) (position : Nat) : SessionLinks :=
  ⟨links.val.dropDeadThread sessionId position,
    RawSessionTaskMap.wellFormed_dropDeadThread links.property sessionId
      position⟩

def replace (sessionId : SessionId) (taskIds : List TaskId) : SessionLinks :=
  ⟨(links.val.replace sessionId taskIds).map,
    RawSessionTaskMap.wellFormed_replace links.property sessionId taskIds⟩

def addedThreads (sessionId : SessionId) (taskIds : List TaskId) :
    List TaskId :=
  (links.val.replace sessionId taskIds).addedThreads

def removedThreads (sessionId : SessionId) (taskIds : List TaskId) :
    List TaskId :=
  (links.val.replace sessionId taskIds).removedThreads

def getTaskVoteRange (taskId : TaskId) (timeNow : TimePoint)
    (range : UclampRange) (uclampMaxEfficientBase : Option Int)
    (uclampMaxEfficientOffset : Int) : UclampRange :=
  links.val.getTaskVoteRange taskId timeNow range uclampMaxEfficientBase
    uclampMaxEfficientOffset

def getSessionsGpuCapacity (timePoint : TimePoint) : Cycles :=
  links.val.getSessionsGpuCapacity timePoint

def getSessionIds (taskId : TaskId) : List SessionId :=
  links.val.getSessionIds taskId

def getTaskIds (sessionId : SessionId) : List TaskId :=
  links.val.getTaskIds sessionId

def areAllSessionsTimeout (timePoint : TimePoint) : Bool :=
  links.val.areAllSessionsTimeout timePoint

variable {links}

theorem lookup_of_session {sessionId : SessionId} {session : Session}
    (hsession : links.session sessionId = some session) :
    ∃ entry, links.val.mSessions.lookup sessionId = some entry ∧
      (links.val.heap entry.val).toSessionValue = session.value ∧
      entry.linkedTasks = session.linkedTasks := by
  obtain ⟨entry, hlookup, hentry⟩ := Option.map_eq_some_iff.mp hsession
  exact ⟨entry, hlookup, congrArg Session.value hentry,
    congrArg Session.linkedTasks hentry⟩

theorem lookup_eq_none_of_session {sessionId : SessionId}
    (hsession : links.session sessionId = none) :
    links.val.mSessions.lookup sessionId = none :=
  Option.map_eq_none_iff.mp hsession

variable (taskId : TaskId) (sessionId : SessionId)

@[simp]
theorem session_empty : empty.session sessionId = none := by
  simp [session, empty, RawSessionTaskMap.empty]

theorem getTaskIds_eq :
    links.getTaskIds sessionId =
      ((links.session sessionId).map Session.linkedTasks).getD [] := by
  cases hlookup : links.val.mSessions.lookup sessionId with
  | none => simp [getTaskIds, RawSessionTaskMap.getTaskIds, session, hlookup]
  | some entry =>
    simp [getTaskIds, RawSessionTaskMap.getTaskIds, session, hlookup]

/-! ## Operations rewrite one session -/

/-- A write that leaves the entries and the value objects of all sessions but
one alone rewrites that session. -/
private theorem session_eq_update {next : SessionLinks} {sessionId : SessionId}
    {written : Option Session} (hwritten : next.session sessionId = written)
    (hlookup : ∀ other, other ≠ sessionId →
      next.val.mSessions.lookup other = links.val.mSessions.lookup other)
    (hheap : ∀ other entry, other ≠ sessionId →
      links.val.mSessions.lookup other = some entry →
        next.val.heap entry.val = links.val.heap entry.val) :
    next.session = Function.update links.session sessionId written := by
  funext other
  by_cases hother : other = sessionId
  · rw [hother, hwritten, Function.update_self]
  · rw [Function.update_of_ne hother, session, session, hlookup other hother]
    apply Option.map_congr
    intro entry hentry
    rw [hheap other entry hother hentry]

/-- An operation on a session that is not there rewrites nothing. -/
private theorem session_eq_update_of_absent {next : SessionLinks}
    {sessionId : SessionId}
    (hlookup : links.val.mSessions.lookup sessionId = none)
    (hsame : next.val = links.val) (change : Session → Session) :
    next.session = Function.update links.session sessionId
      ((links.session sessionId).map change) := by
  have hsession : links.session sessionId = none := by
    simp [session, hlookup]
  rw [Subtype.ext hsame, hsession, Option.map_none, ← hsession,
    Function.update_eq_self]

theorem session_modifySession (change : SessionValue → SessionValue) :
    (links.modifySession sessionId change).session =
      Function.update links.session sessionId
        ((links.session sessionId).map fun session =>
          { session with value := change session.value }) := by
  cases hlookup : links.val.mSessions.lookup sessionId with
  | none =>
    apply session_eq_update_of_absent hlookup
    simp [modifySession, RawSessionTaskMap.modifySession, hlookup]
  | some modified =>
    apply session_eq_update
    · simp [session, modifySession, RawSessionTaskMap.modifySession, hlookup]
    · intro other hother
      simp [modifySession, RawSessionTaskMap.modifySession, hlookup]
    · intro other entry hother hentry
      have hne := links.property.val_ne hentry hlookup hother
      simp [modifySession, RawSessionTaskMap.modifySession, hlookup,
        Function.update_of_ne hne]

theorem session_addVote (voteId : VoteId) (uclampMin uclampMax : Int)
    (startTime : TimePoint) (durationNs : Nanoseconds) :
    (links.addVote sessionId voteId uclampMin uclampMax startTime
        durationNs).session =
      Function.update links.session sessionId
        ((links.session sessionId).map fun session =>
          { session with
            value :=
              { session.value with
                votes := session.value.votes.addCpu voteId
                  ⟨⟨true, startTime, durationNs⟩, ⟨uclampMin, uclampMax⟩⟩ } }) :=
  session_modifySession sessionId _

theorem session_addGpuVote (voteId : VoteId) (capacity : Cycles)
    (startTime : TimePoint) (durationNs : Nanoseconds) :
    (links.addGpuVote sessionId voteId capacity startTime
        durationNs).session =
      Function.update links.session sessionId
        ((links.session sessionId).map fun session =>
          { session with
            value :=
              { session.value with
                votes := session.value.votes.addGpu voteId
                  ⟨⟨true, startTime, durationNs⟩, capacity⟩ } }) :=
  session_modifySession sessionId _

theorem session_remove :
    (links.remove sessionId).session =
      Function.update links.session sessionId none := by
  cases hlookup : links.val.mSessions.lookup sessionId with
  | none =>
    have hsession : links.session sessionId = none := by
      simp [session, hlookup]
    have hsame : links.remove sessionId = links := by
      apply Subtype.ext
      simp [remove, RawSessionTaskMap.remove, hlookup]
    rw [hsame, ← hsession, Function.update_eq_self]
  | some removed =>
    have hremove := RawSessionTaskMap.remove_of_present hlookup
    apply session_eq_update
    · simp [session, remove, hremove]
    · intro other hother
      simp [remove, hremove, hother]
    · intro other entry _ _
      simp [remove, hremove]

theorem session_add_of_none {sessionId : SessionId} (sv : SessionValue)
    (taskIds : List TaskId) (habsent : links.session sessionId = none) :
    (links.add sessionId sv taskIds).session =
      Function.update links.session sessionId (some ⟨sv, taskIds⟩) := by
  have hlookup := lookup_eq_none_of_session habsent
  have hadd := RawSessionTaskMap.add_of_absent sv taskIds hlookup
  apply session_eq_update
  · simp [session, add, hadd]
  · intro other hother
    simp [add, hadd, hother]
  · intro other entry _ hentry
    have hne := Nat.ne_of_lt (links.property.allocated other entry hentry)
    simp [add, hadd, Function.update_of_ne hne]

theorem add_of_some {sessionId : SessionId} {session : Session}
    (sv : SessionValue) (taskIds : List TaskId)
    (hpresent : links.session sessionId = some session) :
    links.add sessionId sv taskIds = links := by
  obtain ⟨entry, hlookup, -, -⟩ := lookup_of_session hpresent
  exact Subtype.ext (RawSessionTaskMap.add_of_present sv taskIds hlookup)

theorem session_replace (taskIds : List TaskId) :
    (links.replace sessionId taskIds).session =
      Function.update links.session sessionId
        ((links.session sessionId).map fun session =>
          { session with linkedTasks := taskIds }) := by
  cases hlookup : links.val.mSessions.lookup sessionId with
  | none =>
    apply session_eq_update_of_absent hlookup
    simp [replace, RawSessionTaskMap.replace, hlookup]
  | some entry =>
    have hreplace : links.replace sessionId taskIds =
        (links.remove sessionId).add sessionId
          (links.val.heap entry.val).toSessionValue taskIds := by
      apply Subtype.ext
      simp [replace, RawSessionTaskMap.replace, hlookup, add, remove]
    have habsent : (links.remove sessionId).session sessionId = none := by
      rw [session_remove, Function.update_self]
    rw [hreplace, session_add_of_none _ _ habsent, session_remove,
      Function.update_idem]
    simp [session, hlookup]

theorem session_unlink (links : SessionLinks) (sessionId : SessionId) :
    ((links.replace sessionId []).remove sessionId).session =
      Function.update links.session sessionId none := by
  rw [session_remove, session_replace, Function.update_idem]

theorem session_dropDeadThread (position : Nat) :
    (links.dropDeadThread sessionId position).session =
      Function.update links.session sessionId
        ((links.session sessionId).map fun session =>
          { session with
            linkedTasks := session.linkedTasks.eraseIdx position }) := by
  cases hlookup : links.val.mSessions.lookup sessionId with
  | none =>
    apply session_eq_update_of_absent hlookup
    apply RawSessionTaskMap.dropDeadThread_of_absent
    simp [RawSessionTaskMap.getTaskIds, hlookup]
  | some entry =>
    cases htask : entry.linkedTasks[position]? with
    | none =>
      have hsame : links.dropDeadThread sessionId position = links := by
        apply Subtype.ext
        apply RawSessionTaskMap.dropDeadThread_of_absent
        simp [RawSessionTaskMap.getTaskIds, hlookup, htask]
      have herase : entry.linkedTasks.eraseIdx position = entry.linkedTasks :=
        List.eraseIdx_of_length_le (List.getElem?_eq_none_iff.mp htask)
      have hsession : (links.session sessionId).map (fun session =>
          { session with
            linkedTasks := session.linkedTasks.eraseIdx position }) =
            links.session sessionId := by
        simp [session, hlookup, herase]
      rw [hsame, hsession, Function.update_eq_self]
    | some taskId =>
      have hdrop := RawSessionTaskMap.dropDeadThread_of_mem links.property
        hlookup htask
      apply session_eq_update
      · simp [session, dropDeadThread, hdrop, hlookup]
      · intro other hother
        simp [dropDeadThread, hdrop, hother]
      · intro other entry _ _
        simp [dropDeadThread, hdrop]

/-! ## The sessions of a task -/

theorem getSessionIds_eq_map (links : SessionLinks) (taskId : TaskId) :
    links.getSessionIds taskId =
      (values links.val.mTasks taskId).map
        fun ref => (links.val.heap ref).sessionId := by
  rw [getSessionIds, RawSessionTaskMap.getSessionIds, values]
  cases links.val.mTasks.lookup taskId <;> rfl

theorem mem_getSessionIds_iff :
    sessionId ∈ links.getSessionIds taskId ↔
      ∃ session, links.session sessionId = some session ∧
        taskId ∈ session.linkedTasks := by
  rw [getSessionIds_eq_map, List.mem_map]
  constructor
  · rintro ⟨ref, hmem, hid⟩
    obtain ⟨entry, hlookup, hval⟩ := links.property.live_of_mem hmem
    rw [hid] at hlookup
    refine ⟨⟨(links.val.heap entry.val).toSessionValue, entry.linkedTasks⟩,
      by simp [session, hlookup], ?_⟩
    exact (links.property.val_mem_iff hlookup taskId).mp (hval ▸ hmem)
  · rintro ⟨session, hsession, htask⟩
    obtain ⟨entry, hlookup, -, htasks⟩ := lookup_of_session hsession
    refine ⟨entry.val, ?_, links.property.own_id sessionId entry hlookup⟩
    exact (links.property.val_mem_iff hlookup taskId).mpr (htasks ▸ htask)

@[simp]
theorem getSessionIds_modifySession (change : SessionValue → SessionValue)
    (taskId : TaskId) :
    (links.modifySession sessionId change).getSessionIds taskId =
      links.getSessionIds taskId := by
  simp only [getSessionIds, modifySession, RawSessionTaskMap.getSessionIds,
    RawSessionTaskMap.modifySession]
  cases links.val.mSessions.lookup sessionId with
  | none => rfl
  | some entry =>
    dsimp only
    cases links.val.mTasks.lookup taskId with
    | none => rfl
    | some refs =>
      apply List.map_congr_left
      intro ref _
      by_cases href : ref = entry.val
      · rw [href, Function.update_self]
      · rw [Function.update_of_ne href]

/-- The range of a task is the full range narrowed by the sessions of its
list, in order. -/
theorem getTaskVoteRange_eq (timeNow : TimePoint) (base : Option Int)
    (offset : Int) :
    links.getTaskVoteRange taskId timeNow UclampRange.full base offset =
      ((links.getSessionIds taskId).filterMap links.session).foldl
        (fun range session => RawSessionTaskMap.confineBySession timeNow base
          offset range session.value) UclampRange.full := by
  rw [getTaskVoteRange, RawSessionTaskMap.getTaskVoteRange, getSessionIds,
    RawSessionTaskMap.getSessionIds]
  cases hlookup : links.val.mTasks.lookup taskId with
  | none => rfl
  | some sessions =>
    have hvalues := values_eq_of_lookup hlookup
    have hsessions : (sessions.map fun ref =>
          (links.val.heap ref).sessionId).filterMap links.session =
        sessions.map fun ref =>
          (⟨(links.val.heap ref).toSessionValue,
            links.getTaskIds (links.val.heap ref).sessionId⟩ : Session) := by
      rw [List.filterMap_map, ← List.filterMap_eq_map]
      apply List.filterMap_congr
      intro ref hmem
      obtain ⟨entry, hentry, hval⟩ :=
        links.property.live_of_mem (hvalues ▸ hmem)
      simp [session, hentry, hval, getTaskIds, RawSessionTaskMap.getTaskIds]
    dsimp only
    rw [hsessions, List.foldl_map]

end SessionLinks

end HardwareInterfaces.SessionTaskMap

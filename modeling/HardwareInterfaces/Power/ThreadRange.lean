import HardwareInterfaces.Core.RunningCap
import HardwareInterfaces.Power.ThreadSessions

/-!
# The range of a thread and the order of its sessions

The range of a thread is narrowed by one session after the other.  The votes of
a session raise the minimum and lower the maximum, in any order.  A power
efficient session also caps the maximum: at a fixed base once all its votes are
over, and before that at an offset above the minimum reached so far in the
loop.  The second cap depends on what came before it in the list, and its sum
of two 32-bit integers may wrap around.
-/

namespace HardwareInterfaces.UClampVoter

open AdpfTypes RunningCap

/-- The CPU votes that count at a time. -/
def Votes.inRangeVotes (votes : Votes) (t : TimePoint) : List CpuVote :=
  (votes.mCpuVotes.entries.map Sigma.snd).filter fun vote =>
    vote.isTimeInRange t

/-- The votes that count, each asking for its two bounds. -/
theorem Votes.getUclampRange_eq (votes : Votes) (range : UclampRange)
    (t : TimePoint) :
    votes.getUclampRange range t =
      { uclampMin := ((votes.inRangeVotes t).map fun vote =>
          vote.mUclampRange.uclampMin).foldl max range.uclampMin
        uclampMax := ((votes.inRangeVotes t).map fun vote =>
          vote.mUclampRange.uclampMax).foldl min range.uclampMax } := by
  rw [getUclampRange, inRangeVotes]
  induction votes.mCpuVotes.entries generalizing range with
  | nil => rfl
  | cons entry rest ih =>
    rw [List.foldl_cons, ih, confine, List.map_cons, List.filter_cons]
    split_ifs <;> rfl

end HardwareInterfaces.UClampVoter

namespace HardwareInterfaces.SessionTaskMap

open AdpfTypes MachineArithmetic RunningCap UClampVoter

def boundsOf (range : UclampRange) : Bounds Int :=
  ⟨range.uclampMin, range.uclampMax⟩

namespace SessionValue

/-- The session narrows the range of a thread by these bounds. -/
def narrowing (value : SessionValue) (timeNow : TimePoint)
    (uclampMaxEfficientBase : Option Int) : Item Int :=
  if value.isActive then
    { floors := (value.votes.inRangeVotes timeNow).map fun vote =>
        vote.mUclampRange.uclampMin
      ceilings := ((value.votes.inRangeVotes timeNow).map fun vote =>
          vote.mUclampRange.uclampMax) ++
        if value.isPowerEfficient && value.votes.allTimedOut timeNow then
          uclampMaxEfficientBase.toList
        else []
      capped := value.isPowerEfficient && uclampMaxEfficientBase.isSome &&
        !value.votes.allTimedOut timeNow }
  else ⟨[], [], false⟩

/-- The flags agree and so do the votes, up to the order in which the vote maps
are iterated. -/
structure SameVotes (left right : SessionValue) : Prop where
  isActive : left.isActive = right.isActive
  isPowerEfficient : left.isPowerEfficient = right.isPowerEfficient
  cpuVotes : left.votes.mCpuVotes.entries.Perm right.votes.mCpuVotes.entries
  gpuVotes : left.votes.mGpuVotes.entries.Perm right.votes.mGpuVotes.entries

namespace SameVotes

variable {left right : SessionValue}

theorem refl (value : SessionValue) : value.SameVotes value :=
  ⟨rfl, rfl, .refl _, .refl _⟩

section

variable (hsame : left.SameVotes right) (timeNow : TimePoint)
include hsame

theorem inRangeVotes :
    (left.votes.inRangeVotes timeNow).Perm
      (right.votes.inRangeVotes timeNow) := by
  rw [Votes.inRangeVotes, Votes.inRangeVotes]
  exact (hsame.cpuVotes.map Sigma.snd).filter _

theorem allTimedOut :
    left.votes.allTimedOut timeNow = right.votes.allTimedOut timeNow := by
  rw [Votes.allTimedOut, Votes.allTimedOut, hsame.gpuVotes.all_eq,
    hsame.cpuVotes.all_eq]

theorem narrowing (base : Option Int) :
    (left.narrowing timeNow base).Same (right.narrowing timeNow base) := by
  have hvotes := hsame.inRangeVotes timeNow
  rw [SessionValue.narrowing, SessionValue.narrowing, hsame.isActive,
    hsame.isPowerEfficient, hsame.allTimedOut]
  split
  · refine ⟨fun value => (hvotes.map _).mem_iff, fun value => ?_, rfl⟩
    exact ((hvotes.map _).append_right _).mem_iff
  · exact ⟨fun _ => .rfl, fun _ => .rfl, rfl⟩

end

end SameVotes

end SessionValue

/-- The cap that a running vote of a power efficient session sets. -/
def efficientCap (uclampMaxEfficientOffset uclampMin : Int) : Int :=
  int32 (uclampMin + uclampMaxEfficientOffset)

theorem boundsOf_confineBySession (timeNow : TimePoint)
    (base : Option Int) (offset : Int) (range : UclampRange)
    (value : SessionValue) :
    boundsOf (RawSessionTaskMap.confineBySession timeNow base offset range
        value) =
      narrow (efficientCap offset) (boundsOf range)
        (value.narrowing timeNow base) := by
  rw [RawSessionTaskMap.confineBySession, SessionValue.narrowing]
  cases value.isActive with
  | false => rfl
  | true =>
    rw [if_pos rfl, if_pos rfl, Votes.getUclampRange_eq]
    cases value.isPowerEfficient with
    | false => simp [boundsOf, narrow, ownFloor]
    | true =>
      cases base with
      | none => simp [boundsOf, narrow, ownFloor]
      | some base =>
        cases value.votes.allTimedOut timeNow with
        | false => simp [boundsOf, narrow, ownFloor, efficientCap]
        | true => simp [boundsOf, narrow, ownFloor, List.foldl_append]

namespace SessionLinks

variable {links : SessionLinks}

/-- What the sessions of a thread contribute, in the order of its list. -/
def narrowings (links : SessionLinks) (taskId : TaskId) (timeNow : TimePoint)
    (uclampMaxEfficientBase : Option Int) : List (Item Int) :=
  ((links.getSessionIds taskId).filterMap links.session).map fun session =>
    session.value.narrowing timeNow uclampMaxEfficientBase

theorem boundsOf_getTaskVoteRange (links : SessionLinks) (taskId : TaskId)
    (timeNow : TimePoint) (base : Option Int) (offset : Int) :
    boundsOf (links.getTaskVoteRange taskId timeNow UclampRange.full base
        offset) =
      narrowAll (efficientCap offset) (boundsOf UclampRange.full)
        (links.narrowings taskId timeNow base) := by
  rw [getTaskVoteRange_eq, narrowings, narrowAll, List.foldl_map]
  generalize (links.getSessionIds taskId).filterMap links.session = sessions
  generalize UclampRange.full = range
  induction sessions generalizing range with
  | nil => rfl
  | cons session rest ih =>
    rw [List.foldl_cons, List.foldl_cons, ih, boundsOf_confineBySession]

/-- The same sessions are linked to the thread, in any order. -/
structure SameSessions (left right : SessionLinks) (taskId : TaskId) :
    Prop where
  mem_iff : ∀ sessionId, sessionId ∈ left.getSessionIds taskId ↔
    sessionId ∈ right.getSessionIds taskId
  same : ∀ sessionId leftSession rightSession,
    sessionId ∈ left.getSessionIds taskId →
    left.session sessionId = some leftSession →
    right.session sessionId = some rightSession →
      leftSession.value.SameVotes rightSession.value

theorem SameSessions.sameItems {other : SessionLinks} {taskId : TaskId}
    (hsame : SameSessions links other taskId) (timeNow : TimePoint)
    (base : Option Int) :
    SameItems (links.narrowings taskId timeNow base)
      (other.narrowings taskId timeNow base) := by
  have hsession : ∀ (map : SessionLinks) (sessionId : SessionId),
      sessionId ∈ map.getSessionIds taskId →
        ∃ session, map.session sessionId = some session := by
    intro map sessionId hmem
    obtain ⟨session, hfound, -⟩ := (mem_getSessionIds_iff _ _).mp hmem
    exact ⟨session, hfound⟩
  constructor
  · intro item hitem
    obtain ⟨session, hmem, rfl⟩ := List.mem_map.mp hitem
    obtain ⟨sessionId, hid, hleft⟩ := List.mem_filterMap.mp hmem
    have hother := (hsame.mem_iff sessionId).mp hid
    obtain ⟨found, hright⟩ := hsession other sessionId hother
    refine ⟨found.value.narrowing timeNow base, ?_,
      (hsame.same sessionId session found hid hleft hright).narrowing _ _⟩
    exact List.mem_map_of_mem (List.mem_filterMap.mpr ⟨_, hother, hright⟩)
  · intro item hitem
    obtain ⟨session, hmem, rfl⟩ := List.mem_map.mp hitem
    obtain ⟨sessionId, hid, hright⟩ := List.mem_filterMap.mp hmem
    have hlinked := (hsame.mem_iff sessionId).mpr hid
    obtain ⟨found, hleft⟩ := hsession links sessionId hlinked
    refine ⟨found.value.narrowing timeNow base, ?_,
      (hsame.same sessionId found session hlinked hleft hright).narrowing _ _⟩
    exact List.mem_map_of_mem (List.mem_filterMap.mpr ⟨_, hlinked, hleft⟩)

/-! ## Histories that differ in the order only -/

/-- Replace the threads of some sessions by the same threads. -/
def relinkAll (links : SessionLinks) (sessionIds : List SessionId) :
    SessionLinks :=
  sessionIds.foldl
    (fun current sessionId =>
      current.replace sessionId (current.getTaskIds sessionId)) links

section

variable (links : SessionLinks)

theorem session_relink (sessionId : SessionId) :
    (links.replace sessionId (links.getTaskIds sessionId)).session =
      links.session := by
  have hsame : (links.session sessionId).map (fun session =>
      { session with linkedTasks := links.getTaskIds sessionId }) =
        links.session sessionId := by
    rw [getTaskIds_eq]
    cases links.session sessionId <;> rfl
  rw [session_replace, hsame, Function.update_eq_self]

theorem session_relinkAll (sessionIds : List SessionId) :
    (links.relinkAll sessionIds).session = links.session := by
  induction sessionIds generalizing links with
  | nil => rfl
  | cons sessionId rest ih =>
    exact (ih _).trans (session_relink links sessionId)

/-- A relinked session moves to the end of the list. -/
theorem getSessionIds_relink (sessionId : SessionId) (taskId : TaskId) :
    ∃ moved, (∀ other ∈ moved, other = sessionId) ∧
      (links.replace sessionId (links.getTaskIds sessionId)).getSessionIds
          taskId =
        (links.getSessionIds taskId).filter
          (fun other => decide (other ≠ sessionId)) ++ moved := by
  cases hsession : links.session sessionId with
  | none =>
    have hlookup := lookup_eq_none_of_session hsession
    have hsame : links.replace sessionId (links.getTaskIds sessionId) =
        links := by
      apply Subtype.ext
      simp [replace, RawSessionTaskMap.replace, hlookup]
    refine ⟨[], by simp, ?_⟩
    rw [hsame, filter_getSessionIds_of_none hsession, List.append_nil]
  | some session =>
    exact ⟨_, fun _ hother => List.eq_of_mem_replicate hother,
      getSessionIds_replace hsession _ taskId⟩

/-- Relinked sessions move to the end of the list. -/
theorem getSessionIds_relinkAll (sessionIds : List SessionId)
    (taskId : TaskId) :
    ∃ moved, (∀ other ∈ moved, other ∈ sessionIds) ∧
      (links.relinkAll sessionIds).getSessionIds taskId =
        (links.getSessionIds taskId).filter
          (fun other => decide (other ∉ sessionIds)) ++ moved := by
  induction sessionIds generalizing links with
  | nil => exact ⟨[], by simp, by simp [relinkAll]⟩
  | cons sessionId rest ih =>
    obtain ⟨first, hself, hfirst⟩ := getSessionIds_relink links sessionId taskId
    obtain ⟨later, hrest, hlater⟩ := ih
      (links.replace sessionId (links.getTaskIds sessionId))
    refine ⟨first.filter (fun other => decide (other ∉ rest)) ++ later, ?_, ?_⟩
    · intro other hother
      rcases List.mem_append.mp hother with hother | hother
      · exact List.mem_cons.mpr (.inl (hself other (List.mem_filter.mp hother).1))
      · exact List.mem_cons_of_mem sessionId (hrest other hother)
    · refine hlater.trans ?_
      rw [hfirst, List.filter_append, List.filter_filter, List.append_assoc]
      congr 1
      apply List.filter_congr
      intro other _
      simp [Bool.and_comm]

theorem sameSessions_relinkAll (sessionIds : List SessionId) (taskId : TaskId) :
    SameSessions links (links.relinkAll sessionIds) taskId where
  mem_iff sessionId := by
    rw [mem_getSessionIds_iff, mem_getSessionIds_iff, session_relinkAll]
  same sessionId left right _ hleft hright := by
    rw [session_relinkAll, hleft] at hright
    cases hright
    exact .refl left.value

end

/-- Any session of a thread can be brought to the front of its list, with
chosen ones right behind it.  All others are relinked first, then those that are
to stand at the end. -/
theorem exists_front {taskId : TaskId} {sessionId : SessionId}
    (hmem : sessionId ∈ links.getSessionIds taskId) (keep : SessionId → Prop) :
    ∃ relinked middle rest,
      (links.relinkAll relinked).getSessionIds taskId =
        sessionId :: (middle ++ rest) ∧
      (∀ other ∈ middle, other = sessionId ∨ keep other) ∧
      ∀ other ∈ rest, ¬ keep other := by
  classical
  let others := (links.getSessionIds taskId).filter
    fun other => decide (other ≠ sessionId)
  let last := others.filter fun other => decide (¬ keep other)
  have hself : sessionId ∉ others := fun hother =>
    of_decide_eq_true (List.mem_filter.mp hother).2 rfl
  obtain ⟨moved, hmoved, hids⟩ := getSessionIds_relinkAll links others taskId
  obtain ⟨rest, hrest, hlast⟩ :=
    getSessionIds_relinkAll (links.relinkAll others) last taskId
  rw [hids, List.filter_append, List.filter_filter] at hlast
  -- Only entries of the session are left in front of the moved ones.
  have hfront : ∀ other ∈ (links.getSessionIds taskId).filter (fun other =>
      decide (other ∉ last) && decide (other ∉ others)), other = sessionId := by
    intro other hother
    obtain ⟨hlinked, hout⟩ := List.mem_filter.mp hother
    by_contra hne
    apply of_decide_eq_true (Bool.and_eq_true_iff.mp hout).2
    exact List.mem_filter.mpr ⟨hlinked, decide_eq_true hne⟩
  have hstays : sessionId ∈ (links.getSessionIds taskId).filter (fun other =>
      decide (other ∉ last) && decide (other ∉ others)) := by
    refine List.mem_filter.mpr ⟨hmem, Bool.and_eq_true_iff.mpr
      ⟨decide_eq_true fun hout => ?_, decide_eq_true hself⟩⟩
    exact hself (List.mem_filter.mp hout).1
  obtain ⟨front, heq⟩ : ∃ front, (links.getSessionIds taskId).filter
      (fun other => decide (other ∉ last) && decide (other ∉ others)) =
        sessionId :: front := by
    obtain ⟨first, front, heq⟩ :=
      List.exists_cons_of_ne_nil (List.ne_nil_of_mem hstays)
    refine ⟨front, ?_⟩
    rw [heq, hfront first (heq ▸ List.mem_cons_self)]
  rw [heq] at hfront
  refine ⟨others ++ last,
    front ++ moved.filter (fun other => decide (other ∉ last)), rest, ?_, ?_, ?_⟩
  · rw [relinkAll, List.foldl_append]
    refine hlast.trans ?_
    rw [heq, List.cons_append, List.cons_append]
  · intro other hother
    rcases List.mem_append.mp hother with hother | hother
    · exact .inl (hfront other (List.mem_cons_of_mem sessionId hother))
    · obtain ⟨hother, hout⟩ := List.mem_filter.mp hother
      refine .inr (by_contra fun hnot => of_decide_eq_true hout ?_)
      exact List.mem_filter.mpr ⟨hmoved other hother, decide_eq_true hnot⟩
  · intro other hother
    exact of_decide_eq_true (List.mem_filter.mp (hrest other hother)).2

/-- Any narrowing of a thread can be brought to the front, with chosen ones
right behind it. -/
theorem exists_leads {taskId : TaskId} {timeNow : TimePoint}
    {base : Option Int} {lead : Item Int}
    (hlead : lead ∈ links.narrowings taskId timeNow base)
    (keep : Item Int → Prop) :
    ∃ other, SameSessions links other taskId ∧
      Leads keep lead (other.narrowings taskId timeNow base) := by
  obtain ⟨session, hmem, rfl⟩ := List.mem_map.mp hlead
  obtain ⟨sessionId, hid, hsession⟩ := List.mem_filterMap.mp hmem
  obtain ⟨relinked, middle, rest, hids, hmiddle, hrest⟩ := exists_front hid
    fun other => ∀ found, links.session other = some found →
      keep (found.value.narrowing timeNow base)
  refine ⟨links.relinkAll relinked, sameSessions_relinkAll links relinked taskId,
    (middle.filterMap links.session).map fun session =>
      session.value.narrowing timeNow base,
    (rest.filterMap links.session).map fun session =>
      session.value.narrowing timeNow base, ?_, ?_, ?_⟩
  · rw [narrowings, hids, session_relinkAll, List.filterMap_cons_some hsession,
      List.filterMap_append, List.map_cons, List.map_append]
  · intro item hitem
    obtain ⟨found, hfound, rfl⟩ := List.mem_map.mp hitem
    obtain ⟨other, hother, hfound⟩ := List.mem_filterMap.mp hfound
    rcases hmiddle other hother with rfl | hkeep
    · cases hsession.symm.trans hfound
      exact .inl rfl
    · exact .inr (hkeep found hfound)
  · intro item hitem hkeep
    obtain ⟨found, hfound, rfl⟩ := List.mem_map.mp hitem
    obtain ⟨other, hother, hfound⟩ := List.mem_filterMap.mp hfound
    apply hrest other hother
    intro same hsame
    cases hfound.symm.trans hsame
    exact hkeep

/-- The range of a thread does not depend on the order of its sessions, nor on
that of their votes, exactly when the caps of its power efficient sessions with
a running vote agree: none of them caps the maximum lower right behind some
session than all do at the minimum that the sessions reach together, and they do
not all cap it higher behind a session that reaches their minimums. -/
theorem range_order_independent_iff (links : SessionLinks) (taskId : TaskId)
    (timeNow : TimePoint) (base : Option Int) (offset : Int) :
    (∀ other, SameSessions links other taskId →
      other.getTaskVoteRange taskId timeNow UclampRange.full base offset =
        links.getTaskVoteRange taskId timeNow UclampRange.full base offset) ↔
      CapsAgree (efficientCap offset) (boundsOf UclampRange.full)
        (links.narrowings taskId timeNow base) := by
  constructor
  · intro hsame
    by_contra hdisagree
    obtain ⟨late, hlate, lead, hlead, keep, hdiffer⟩ :=
      exists_orders_of_not_capsAgree hdisagree
    obtain ⟨first, hfirst, middle, rest, hitems, -⟩ :=
      exists_leads hlate fun _ => True
    obtain ⟨second, hsecond, hleads⟩ := exists_leads hlead keep
    apply hdiffer (middle ++ rest) (second.narrowings taskId timeNow base)
      (hitems ▸ hfirst.sameItems timeNow base) (hsecond.sameItems timeNow base)
      hleads
    rw [← hitems, ← boundsOf_getTaskVoteRange, ← boundsOf_getTaskVoteRange,
      hsame first hfirst, hsame second hsecond]
  · intro hagree other hsame
    have hbounds := (hsame.sameItems timeNow base).narrowAll_eq hagree
    rw [← boundsOf_getTaskVoteRange, ← boundsOf_getTaskVoteRange] at hbounds
    have hmin := congrArg Bounds.floor hbounds
    have hmax := congrArg Bounds.ceiling hbounds
    exact (UclampRange.mk.injEq ..).mpr ⟨hmin.symm, hmax.symm⟩

/-- A session with one running vote for a minimum. -/
private def votingSession (isPowerEfficient : Bool) (uclampMin : Int) :
    SessionValue :=
  { (default : SessionValueEntry).toSessionValue with
    isPowerEfficient := isPowerEfficient
    votes := Votes.empty.addCpu AdpfVoteType.cpuVoteDefault.toInt
      ⟨⟨true, 0, 10⟩, ⟨uclampMin, kUclampMax⟩⟩ }

/-- Session 1 is power efficient, session 2 is not, and thread 7 belongs to
both. -/
private def efficientFirst : SessionLinks :=
  (empty.add 1 (votingSession true 100) [7]).add 2 (votingSession false 400) [7]

/-- Relinking session 1 to its only thread moves the cap of the thread from 150
to 450. -/
theorem range_changes_on_replace :
    SameSessions efficientFirst (efficientFirst.replace 1 [7]) 7 ∧
      efficientFirst.getTaskVoteRange 7 5 UclampRange.full (some 300) 50 =
        ⟨400, 150⟩ ∧
      (efficientFirst.replace 1 [7]).getTaskVoteRange 7 5 UclampRange.full
          (some 300) 50 = ⟨400, 450⟩ :=
  ⟨sameSessions_relinkAll efficientFirst [1] 7, by decide +kernel⟩

end SessionLinks

end HardwareInterfaces.SessionTaskMap

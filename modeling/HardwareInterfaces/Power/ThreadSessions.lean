import HardwareInterfaces.Power.SessionLinks

/-!
# The order of a thread's sessions

The list of a thread keeps its sessions in the order in which they were linked.
Removing a session takes its entries out and keeps the others in their order,
adding one appends its entries, and replacing the threads of a session is a
removal followed by an addition.  Hence a replacement with the same threads
moves the session to the end of every list it is in and changes nothing else.
-/

namespace HardwareInterfaces.SessionTaskMap.SessionLinks

open AdpfTypes ReverseIndex

variable {links : SessionLinks}

/-- A thread has no entry exactly when no session lists it. -/
theorem lookup_eq_none_iff_getSessionIds (links : SessionLinks)
    (taskId : TaskId) :
    links.val.mTasks.lookup taskId = none ↔
      links.getSessionIds taskId = [] := by
  rw [lookup_eq_none_iff links.property.noEmptyTask, getSessionIds_eq_map,
    List.map_eq_nil_iff]

variable {sessionId : SessionId}

theorem getSessionIds_add_of_none (sv : SessionValue) (taskIds : List TaskId)
    (habsent : links.session sessionId = none) (taskId : TaskId) :
    (links.add sessionId sv taskIds).getSessionIds taskId =
      links.getSessionIds taskId ++
        List.replicate (taskIds.count taskId) sessionId := by
  have hadd := RawSessionTaskMap.add_of_absent sv taskIds
    (lookup_eq_none_of_session habsent)
  have hold : ∀ ref ∈ values links.val.mTasks taskId,
      (links.add sessionId sv taskIds).val.heap ref = links.val.heap ref := by
    intro ref href
    have hne : ref ≠ links.val.nextRef := by
      intro heq
      exact links.property.nextRef_notMem taskId (heq ▸ href)
    simp only [add, hadd, Function.update_of_ne hne]
  have hnew : (links.add sessionId sv taskIds).val.heap links.val.nextRef =
      ⟨sv, sessionId⟩ := by
    simp only [add, hadd, Function.update_self]
  have hvalues : values (links.add sessionId sv taskIds).val.mTasks taskId =
      values links.val.mTasks taskId ++
        List.replicate (taskIds.count taskId) links.val.nextRef := by
    simp only [add, hadd, values_linkAll]
  rw [getSessionIds_eq_map, getSessionIds_eq_map, hvalues, List.map_append,
    List.map_replicate, hnew]
  congr 1
  apply List.map_congr_left
  intro ref href
  rw [hold ref href]

/-- A session that does not exist has no entries to take out. -/
theorem filter_getSessionIds_of_none
    (habsent : links.session sessionId = none) (taskId : TaskId) :
    (links.getSessionIds taskId).filter
        (fun other => decide (other ≠ sessionId)) =
      links.getSessionIds taskId := by
  apply List.filter_eq_self.mpr
  intro other hother
  obtain ⟨session, hsession, -⟩ :=
    (mem_getSessionIds_iff taskId other).mp hother
  apply decide_eq_true
  rintro rfl
  rw [habsent] at hsession
  cases hsession

theorem getSessionIds_remove (sessionId : SessionId) (taskId : TaskId) :
    (links.remove sessionId).getSessionIds taskId =
      (links.getSessionIds taskId).filter
        fun other => decide (other ≠ sessionId) := by
  cases hlookup : links.val.mSessions.lookup sessionId with
  | none =>
    have hsame : links.remove sessionId = links := by
      apply Subtype.ext
      simp [remove, RawSessionTaskMap.remove, hlookup]
    have habsent : links.session sessionId = none := by
      simp [session, hlookup]
    rw [hsame, filter_getSessionIds_of_none habsent]
  | some entry =>
    have hremove := RawSessionTaskMap.remove_of_present hlookup
    have hcount := links.property.count_eq sessionId entry taskId hlookup
    have hvalues : values (links.remove sessionId).val.mTasks taskId =
        (values links.val.mTasks taskId).filter
          fun ref => decide (ref ≠ entry.val) := by
      simp only [remove, hremove]
      exact values_unlinkAll_of_count_le (le_of_eq hcount.symm)
    have hheap : (links.remove sessionId).val.heap = links.val.heap := by
      simp only [remove, hremove]
    rw [getSessionIds_eq_map, getSessionIds_eq_map, hvalues, hheap,
      List.filter_map]
    congr 1
    apply List.filter_congr
    -- An entry of the thread carries the id exactly if it is the session's.
    intro ref href
    obtain ⟨live, hlive, hval⟩ := links.property.live_of_mem href
    apply decide_eq_decide.mpr
    apply not_congr
    constructor
    · intro heq
      rw [heq]
      exact links.property.own_id sessionId entry hlookup
    · intro hid
      have hid : (links.val.heap ref).sessionId = sessionId := hid
      rw [hid, hlookup] at hlive
      cases hlive
      exact hval.symm

variable {session : Session}

section

variable (hsession : links.session sessionId = some session)
  (taskIds : List TaskId)
include hsession

theorem replace_eq_add_remove :
    links.replace sessionId taskIds =
      (links.remove sessionId).add sessionId session.value taskIds := by
  obtain ⟨entry, hlookup, hvalue, -⟩ := lookup_of_session hsession
  apply Subtype.ext
  simp [replace, RawSessionTaskMap.replace, hlookup, hvalue, add, remove]

theorem getSessionIds_replace (taskId : TaskId) :
    (links.replace sessionId taskIds).getSessionIds taskId =
      (links.getSessionIds taskId).filter
          (fun other => decide (other ≠ sessionId)) ++
        List.replicate (taskIds.count taskId) sessionId := by
  have habsent : (links.remove sessionId).session sessionId = none := by
    rw [session_remove, Function.update_self]
  rw [replace_eq_add_remove hsession, getSessionIds_add_of_none _ _ habsent,
    getSessionIds_remove]

theorem addedThreads_eq :
    links.addedThreads sessionId taskIds =
      taskIds.filter fun taskId =>
        decide (links.getSessionIds taskId = []) := by
  obtain ⟨entry, hlookup, -⟩ := lookup_of_session hsession
  simp only [addedThreads, RawSessionTaskMap.replace, hlookup]
  apply List.filter_congr
  intro taskId _
  rw [Bool.eq_iff_iff, Option.isNone_iff_eq_none, decide_eq_true_iff]
  exact lookup_eq_none_iff_getSessionIds links taskId

theorem removedThreads_eq :
    links.removedThreads sessionId taskIds =
      session.linkedTasks.filter fun taskId =>
        decide ((links.replace sessionId taskIds).getSessionIds taskId =
          []) := by
  obtain ⟨entry, hlookup, -, htasks⟩ := lookup_of_session hsession
  have hmap : (links.replace sessionId taskIds).val =
      ((links.val.remove sessionId).2.add sessionId
        (links.val.heap entry.val).toSessionValue taskIds).2 := by
    simp only [replace, RawSessionTaskMap.replace, hlookup]
  simp only [removedThreads, RawSessionTaskMap.replace, hlookup, htasks]
  apply List.filter_congr
  intro taskId _
  rw [Bool.eq_iff_iff, Option.isNone_iff_eq_none, decide_eq_true_iff, ← hmap]
  exact lookup_eq_none_iff_getSessionIds (links.replace sessionId taskIds)
    taskId

end

/-- Replacing the threads of a session keeps its value and every other
session, keeps the entries of the other sessions in the list of every thread,
and reports the threads that gain their first session and those that lose
their last one. -/
theorem replace_frame (links : SessionLinks) (sessionId : SessionId)
    (session : Session) (taskIds : List TaskId)
    (hsession : links.session sessionId = some session) :
    (links.replace sessionId taskIds).session =
        Function.update links.session sessionId
          (some ⟨session.value, taskIds⟩) ∧
      (∀ taskId,
        ((links.replace sessionId taskIds).getSessionIds taskId).filter
            (fun other => decide (other ≠ sessionId)) =
          (links.getSessionIds taskId).filter
            fun other => decide (other ≠ sessionId)) ∧
      links.addedThreads sessionId taskIds =
        taskIds.filter (fun taskId =>
          decide (links.getSessionIds taskId = [])) ∧
      links.removedThreads sessionId taskIds =
        session.linkedTasks.filter fun taskId =>
          decide ((links.replace sessionId taskIds).getSessionIds taskId =
            []) := by
  refine ⟨?_, ?_, addedThreads_eq hsession taskIds,
    removedThreads_eq hsession taskIds⟩
  · rw [session_replace, hsession, Option.map_some]
  · intro taskId
    rw [getSessionIds_replace hsession, List.filter_append, List.filter_filter]
    simp

/-- Two sessions share the threads 7 and 8. -/
private def sharedThreads : SessionLinks :=
  (empty.add 1 (default : SessionValueEntry).toSessionValue [7, 8, 7, 6]).add 2
    (default : SessionValueEntry).toSessionValue [8, 7]

/-- Session 1 gives up thread 7, which session 2 keeps, and thread 6, which is
left alone, for the new thread 9. -/
theorem replace_frame_sharedThreads :
    sharedThreads.addedThreads 1 [9, 8, 9] = [9, 9] ∧
      sharedThreads.removedThreads 1 [9, 8, 9] = [6] := by
  obtain ⟨-, -, hadded, hremoved⟩ := replace_frame sharedThreads 1
    ⟨(default : SessionValueEntry).toSessionValue, [7, 8, 7, 6]⟩ [9, 8, 9] rfl
  exact ⟨hadded.trans (by decide +kernel), hremoved.trans (by decide +kernel)⟩

end HardwareInterfaces.SessionTaskMap.SessionLinks

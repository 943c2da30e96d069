import HardwareInterfaces.Power.SessionTaskMap

/-!
# Consistency of the session and task maps

The header of the map promises to maintain consistency between its mappings.
`Consistent` is that promise, with repetitions counted.  It is carried along a
sequence of operations by `WellFormed`, which adds that a live session's value
carries the session's own id and that no live address is still unallocated.
-/

namespace HardwareInterfaces.SessionTaskMap.RawSessionTaskMap

open AdpfTypes ReverseIndex Transition

variable {map : RawSessionTaskMap}

/-- The two maps describe the same links. -/
structure Consistent (map : RawSessionTaskMap) : Prop where
  /-- A session and a task agree on how often they are linked. -/
  count_eq : ∀ sessionId entry taskId,
    map.mSessions.lookup sessionId = some entry →
      entry.linkedTasks.count taskId =
        (values map.mTasks taskId).count entry.val
  /-- A task only holds current values of live sessions. -/
  entry_live : ∀ taskId sessions ref,
    map.mTasks.lookup taskId = some sessions → ref ∈ sessions →
      ∃ entry, map.mSessions.lookup (map.heap ref).sessionId = some entry ∧
        entry.val = ref
  /-- No task is kept without a session. -/
  noEmptyTask : ∀ taskId sessions,
    map.mTasks.lookup taskId = some sessions → sessions ≠ []

structure WellFormed (map : RawSessionTaskMap) : Prop
    extends Consistent map where
  own_id : ∀ sessionId entry,
    map.mSessions.lookup sessionId = some entry →
      (map.heap entry.val).sessionId = sessionId
  allocated : ∀ sessionId entry,
    map.mSessions.lookup sessionId = some entry → entry.val < map.nextRef

namespace WellFormed

theorem live_of_mem (hmap : map.WellFormed) {taskId : TaskId} {ref : ValRef}
    (hmem : ref ∈ values map.mTasks taskId) :
    ∃ entry, map.mSessions.lookup (map.heap ref).sessionId = some entry ∧
      entry.val = ref :=
  hmap.entry_live taskId _ ref (lookup_isSome_of_mem_values hmem) hmem

/-- Different sessions have different value objects. -/
theorem val_ne (hmap : map.WellFormed) {left right : SessionId}
    {leftEntry rightEntry : ValEntry}
    (hleft : map.mSessions.lookup left = some leftEntry)
    (hright : map.mSessions.lookup right = some rightEntry)
    (hne : left ≠ right) : leftEntry.val ≠ rightEntry.val := by
  intro hval
  apply hne
  rw [← hmap.own_id left leftEntry hleft, hval,
    hmap.own_id right rightEntry hright]

/-- The next address is in no task's list. -/
theorem nextRef_notMem (hmap : map.WellFormed) (taskId : TaskId) :
    map.nextRef ∉ values map.mTasks taskId := by
  intro hmem
  obtain ⟨entry, hlookup, hval⟩ := hmap.live_of_mem hmem
  have hlt := hmap.allocated _ entry hlookup
  rw [hval] at hlt
  exact Nat.lt_irrefl _ hlt

/-- The value of a session is in the list of a task exactly when the task is
among the session's tasks. -/
theorem val_mem_iff (hmap : map.WellFormed) {sessionId : SessionId}
    {entry : ValEntry} (hlookup : map.mSessions.lookup sessionId = some entry)
    (taskId : TaskId) :
    entry.val ∈ values map.mTasks taskId ↔ taskId ∈ entry.linkedTasks := by
  rw [← List.count_pos_iff, ← List.count_pos_iff,
    hmap.count_eq sessionId entry taskId hlookup]

end WellFormed

theorem wellFormed_empty (unallocated : SessionValueEntry) :
    (empty unallocated).WellFormed where
  count_eq := by simp [empty]
  entry_live := by simp [empty]
  noEmptyTask := by simp [empty]
  own_id := by simp [empty]
  allocated := by simp [empty]

/-- `next` has one session's entry written; the value it refers to is no other
session's, and no other link changes. -/
structure Writes (map next : RawSessionTaskMap) (sessionId : SessionId)
    (written : ValEntry) : Prop where
  sessions : next.mSessions = map.mSessions.insert sessionId written
  own_links : ∀ taskId, written.linkedTasks.count taskId =
    (values next.mTasks taskId).count written.val
  other_links : ∀ taskId ref, ref ≠ written.val →
    (values next.mTasks taskId).count ref =
      (values map.mTasks taskId).count ref
  noEmptyTask : NoEmptyKey next.mTasks
  own_id : (next.heap written.val).sessionId = sessionId
  other_value : ∀ ref, ref ≠ written.val → next.heap ref = map.heap ref
  val_eq_iff : ∀ other entry, map.mSessions.lookup other = some entry →
    (entry.val = written.val ↔ other = sessionId)
  allocated : written.val < next.nextRef
  nextRef_le : map.nextRef ≤ next.nextRef

variable {sessionId : SessionId} {entry : ValEntry}

/-- An entry after the write is the written one, or an old one of another
session. -/
theorem Writes.entry_cases {next : RawSessionTaskMap} {written : ValEntry}
    (hwrites : map.Writes next sessionId written) {other : SessionId}
    (hlookup : next.mSessions.lookup other = some entry) :
    (other = sessionId ∧ entry = written) ∨
      (map.mSessions.lookup other = some entry ∧
        entry.val ≠ written.val) := by
  rw [hwrites.sessions] at hlookup
  by_cases hother : other = sessionId
  · subst hother
    rw [AList.lookup_insert, Option.some.injEq] at hlookup
    exact Or.inl ⟨rfl, hlookup.symm⟩
  · rw [AList.lookup_insert_ne hother] at hlookup
    exact Or.inr ⟨hlookup, fun hval =>
      hother ((hwrites.val_eq_iff other entry hlookup).mp hval)⟩

theorem wellFormed_of_writes {next : RawSessionTaskMap} {written : ValEntry}
    (hmap : map.WellFormed) (hwrites : map.Writes next sessionId written) :
    next.WellFormed where
  count_eq := by
    intro other entry taskId hlookup
    rcases hwrites.entry_cases hlookup with ⟨-, rfl⟩ | ⟨hold, hval⟩
    · exact hwrites.own_links taskId
    · rw [hwrites.other_links taskId entry.val hval]
      exact hmap.count_eq other entry taskId hold
  entry_live := by
    intro taskId sessions ref hlookup hmem
    rw [← values_eq_of_lookup hlookup, ← List.count_pos_iff] at hmem
    rw [hwrites.sessions]
    by_cases href : ref = written.val
    · rw [href, hwrites.own_id]
      exact ⟨written, AList.lookup_insert _, rfl⟩
    · rw [hwrites.other_links taskId ref href, List.count_pos_iff] at hmem
      obtain ⟨entry, hentry, hval⟩ := hmap.live_of_mem hmem
      rw [hwrites.other_value ref href]
      refine ⟨entry, ?_, hval⟩
      rw [AList.lookup_insert_ne]
      · exact hentry
      · intro hid
        exact href (hval.symm.trans
          ((hwrites.val_eq_iff _ entry hentry).mpr hid))
  noEmptyTask := hwrites.noEmptyTask
  own_id := by
    intro other entry hlookup
    rcases hwrites.entry_cases hlookup with ⟨rfl, rfl⟩ | ⟨hold, hval⟩
    · exact hwrites.own_id
    · rw [hwrites.other_value entry.val hval]
      exact hmap.own_id other entry hold
  allocated := by
    intro other entry hlookup
    rcases hwrites.entry_cases hlookup with ⟨-, rfl⟩ | ⟨hold, -⟩
    · exact hwrites.allocated
    · exact lt_of_lt_of_le (hmap.allocated other entry hold)
        hwrites.nextRef_le

theorem add_of_absent (sv : SessionValue) (taskIds : List TaskId)
    (habsent : map.mSessions.lookup sessionId = none) :
    (map.add sessionId sv taskIds).2 =
      { mSessions := map.mSessions.insert sessionId ⟨map.nextRef, taskIds⟩
        mTasks := linkAll map.mTasks taskIds map.nextRef
        heap := Function.update map.heap map.nextRef ⟨sv, sessionId⟩
        nextRef := map.nextRef + 1 } := by
  simp [add, habsent]

theorem add_of_present (sv : SessionValue) (taskIds : List TaskId)
    (hpresent : map.mSessions.lookup sessionId = some entry) :
    (map.add sessionId sv taskIds).2 = map := by
  simp [add, hpresent]

theorem wellFormed_add (hmap : map.WellFormed) (sessionId : SessionId)
    (sv : SessionValue) (taskIds : List TaskId) :
    (map.add sessionId sv taskIds).2.WellFormed := by
  cases habsent : map.mSessions.lookup sessionId with
  | some entry =>
    rw [add_of_present sv taskIds habsent]
    exact hmap
  | none =>
    rw [add_of_absent sv taskIds habsent]
    apply wellFormed_of_writes hmap
    exact
      { sessions := rfl
        own_links := by
          intro taskId
          have hfresh := List.count_eq_zero.mpr (hmap.nextRef_notMem taskId)
          rw [count_linkAll, if_pos rfl, hfresh, Nat.zero_add]
        other_links := by
          intro taskId ref href
          rw [count_linkAll, if_neg href, Nat.add_zero]
        noEmptyTask :=
          noEmptyKey_linkAll hmap.noEmptyTask taskIds map.nextRef
        own_id := by
          dsimp only
          rw [Function.update_self]
        other_value := fun ref href => Function.update_of_ne href _ _
        val_eq_iff := by
          intro other entry hlookup
          refine iff_of_false
            (Nat.ne_of_lt (hmap.allocated other entry hlookup)) ?_
          rintro rfl
          exact nomatch habsent.symm.trans hlookup
        allocated := Nat.lt_succ_self _
        nextRef_le := Nat.le_succ _ }

theorem remove_of_present
    (hpresent : map.mSessions.lookup sessionId = some entry) :
    (map.remove sessionId).2 =
      { map with
        mTasks := unlinkAll map.mTasks entry.linkedTasks entry.val
        mSessions := map.mSessions.erase sessionId } := by
  simp [remove, hpresent]

section

variable (hmap : map.WellFormed) (sessionId : SessionId)
include hmap

theorem wellFormed_remove : (map.remove sessionId).2.WellFormed := by
  cases hpresent : map.mSessions.lookup sessionId with
  | none =>
    simpa [remove, hpresent] using hmap
  | some removed =>
    rw [remove_of_present hpresent]
    have hold : ∀ other entry,
        (map.mSessions.erase sessionId).lookup other = some entry →
          other ≠ sessionId ∧ map.mSessions.lookup other = some entry := by
      intro other entry hlookup
      have hother : other ≠ sessionId := by
        rintro rfl
        simp at hlookup
      rw [AList.lookup_erase_ne hother] at hlookup
      exact ⟨hother, hlookup⟩
    refine ⟨⟨?_, ?_, ?_⟩, ?_, ?_⟩
    · intro other entry taskId hlookup
      obtain ⟨hother, hlookup⟩ := hold other entry hlookup
      rw [count_unlinkAll,
        if_neg (hmap.val_ne hlookup hpresent hother), Nat.sub_zero]
      exact hmap.count_eq other entry taskId hlookup
    · intro taskId sessions ref hlookup hmem
      rw [← values_eq_of_lookup hlookup, ← List.count_pos_iff,
        count_unlinkAll] at hmem
      by_cases href : ref = removed.val
      · subst href
        rw [if_pos rfl, hmap.count_eq sessionId removed taskId hpresent] at hmem
        simp at hmem
      · rw [if_neg href, Nat.sub_zero, List.count_pos_iff] at hmem
        obtain ⟨entry, hentry, hval⟩ := hmap.live_of_mem hmem
        refine ⟨entry, ?_, hval⟩
        have hother : (map.heap ref).sessionId ≠ sessionId := by
          intro hid
          rw [hid, hpresent] at hentry
          cases hentry
          exact href hval.symm
        rw [AList.lookup_erase_ne hother]
        exact hentry
    · exact noEmptyKey_unlinkAll hmap.noEmptyTask _ _
    · intro other entry hlookup
      exact hmap.own_id other entry (hold other entry hlookup).2
    · intro other entry hlookup
      exact hmap.allocated other entry (hold other entry hlookup).2

theorem wellFormed_replace (taskIds : List TaskId) :
    (map.replace sessionId taskIds).map.WellFormed := by
  cases hpresent : map.mSessions.lookup sessionId with
  | none =>
    simpa [replace, hpresent] using hmap
  | some entry =>
    simp only [replace, hpresent]
    exact wellFormed_add (wellFormed_remove hmap sessionId) sessionId _ taskIds

theorem wellFormed_modifySession (change : SessionValue → SessionValue) :
    (map.modifySession sessionId change).WellFormed := by
  cases hpresent : map.mSessions.lookup sessionId with
  | none =>
    simpa [modifySession, hpresent] using hmap
  | some modified =>
    simp only [modifySession, hpresent]
    -- The write keeps the id of every address, the written one included.
    have hid : ∀ ref,
        (Function.update map.heap modified.val
          { map.heap modified.val with
            toSessionValue :=
              change (map.heap modified.val).toSessionValue } ref).sessionId =
          (map.heap ref).sessionId := by
      intro ref
      by_cases href : ref = modified.val
      · subst href
        simp
      · rw [Function.update_of_ne href]
    refine ⟨⟨hmap.count_eq, ?_, hmap.noEmptyTask⟩, ?_, hmap.allocated⟩
    · intro taskId sessions ref hlookup hmem
      rw [hid ref]
      exact hmap.entry_live taskId sessions ref hlookup hmem
    · intro other entry hlookup
      rw [hid entry.val]
      exact hmap.own_id other entry hlookup

end

variable {position : Nat}

/-- The dead-thread step on a position inside the session's list. -/
theorem dropDeadThread_of_mem (hmap : map.WellFormed) {taskId : TaskId}
    (hpresent : map.mSessions.lookup sessionId = some entry)
    (htask : entry.linkedTasks[position]? = some taskId) :
    map.dropDeadThread sessionId position =
      { map with
        mTasks := unlink map.mTasks taskId entry.val
        mSessions := map.mSessions.insert sessionId
          { entry with
            linkedTasks := entry.linkedTasks.eraseIdx position } } := by
  have hmem : entry.val ∈ values map.mTasks taskId :=
    (hmap.val_mem_iff hpresent taskId).mpr (List.mem_of_getElem? htask)
  have htasks := lookup_isSome_of_mem_values hmem
  simp [dropDeadThread, getTaskIds, removeDeadTaskSessionMap, eraseLinkedTask,
    hpresent, htask, htasks, hmem]

theorem dropDeadThread_of_absent
    (habsent : (map.getTaskIds sessionId)[position]? = none) :
    map.dropDeadThread sessionId position = map := by
  simp [dropDeadThread, habsent]

theorem count_eraseIdx_of_getElem? {taskIds : List TaskId} {taskId : TaskId}
    (htask : taskIds[position]? = some taskId) (other : TaskId) :
    (taskIds.eraseIdx position).count other =
      taskIds.count other - if other = taskId then 1 else 0 := by
  obtain ⟨hposition, hget⟩ := List.getElem?_eq_some_iff.mp htask
  have hperm := List.getElem_cons_eraseIdx_perm hposition
  rw [← hperm.count_eq other, hget, List.count_cons]
  by_cases hother : other = taskId
  · simp [hother]
  · have hne : ¬ taskId = other := fun heq => hother heq.symm
    simp [hother, hne]

theorem wellFormed_dropDeadThread (hmap : map.WellFormed)
    (sessionId : SessionId) (position : Nat) :
    (map.dropDeadThread sessionId position).WellFormed := by
  cases hpresent : map.mSessions.lookup sessionId with
  | none =>
    rw [dropDeadThread_of_absent (by simp [getTaskIds, hpresent])]
    exact hmap
  | some dead =>
    cases htask : dead.linkedTasks[position]? with
    | none =>
      rw [dropDeadThread_of_absent (by simp [getTaskIds, hpresent, htask])]
      exact hmap
    | some gone =>
      rw [dropDeadThread_of_mem hmap hpresent htask]
      apply wellFormed_of_writes hmap
      exact
        { sessions := rfl
          own_links := by
            intro taskId
            rw [count_unlink, count_eraseIdx_of_getElem? htask,
              hmap.count_eq sessionId dead taskId hpresent]
            simp
          other_links := by
            intro taskId ref href
            rw [count_unlink, if_neg fun hboth => href hboth.2,
              Nat.sub_zero]
          noEmptyTask := noEmptyKey_unlink hmap.noEmptyTask gone dead.val
          own_id := hmap.own_id sessionId dead hpresent
          other_value := fun _ _ => rfl
          val_eq_iff := by
            intro other entry hlookup
            constructor
            · intro hval
              by_contra hother
              exact hmap.val_ne hlookup hpresent hother hval
            · rintro rfl
              cases hpresent.symm.trans hlookup
              rfl
          allocated := hmap.allocated sessionId dead hpresent
          nextRef_le := Nat.le_refl _ }

/-! ## Sequences of operations -/

/-- The operations that edit the links. -/
inductive LinkOp where
  | add (sessionId : SessionId) (sv : SessionValue) (taskIds : List TaskId)
  | remove (sessionId : SessionId)
  | replace (sessionId : SessionId) (taskIds : List TaskId)
  | deadThread (sessionId : SessionId) (position : Nat)

def linkStep (map : RawSessionTaskMap) : LinkOp → Option RawSessionTaskMap
  | .add sessionId sv taskIds => some (map.add sessionId sv taskIds).2
  | .remove sessionId => some (map.remove sessionId).2
  | .replace sessionId taskIds => some (map.replace sessionId taskIds).map
  | .deadThread sessionId position =>
    some (map.dropDeadThread sessionId position)

theorem wellFormed_linkStep (map : RawSessionTaskMap) (op : LinkOp)
    (next : RawSessionTaskMap) (hmap : map.WellFormed)
    (hstep : map.linkStep op = some next) : next.WellFormed := by
  cases op with
  | add sessionId sv taskIds =>
    cases hstep
    exact wellFormed_add hmap sessionId sv taskIds
  | remove sessionId =>
    cases hstep
    exact wellFormed_remove hmap sessionId
  | replace sessionId taskIds =>
    cases hstep
    exact wellFormed_replace hmap sessionId taskIds
  | deadThread sessionId position =>
    cases hstep
    exact wellFormed_dropDeadThread hmap sessionId position

/-- Every sequence of operations on initially empty maps leaves the two maps
mutually consistent. -/
theorem consistent_of_run (unallocated : SessionValueEntry)
    (ops : List LinkOp) :
    ∃ map, run linkStep (empty unallocated) ops = some map ∧
      map.Consistent := by
  have htotal : ∀ (ops : List LinkOp) (start : RawSessionTaskMap),
      ∃ map, run linkStep start ops = some map := by
    intro ops
    induction ops with
    | nil => exact fun start => ⟨start, rfl⟩
    | cons op ops ih =>
        intro start
        cases op <;> exact ih _
  obtain ⟨map, hrun⟩ := htotal ops (empty unallocated)
  have hmap := run_invariant wellFormed_linkStep
    (wellFormed_empty unallocated) hrun
  exact ⟨map, hrun, hmap.toConsistent⟩

end HardwareInterfaces.SessionTaskMap.RawSessionTaskMap

import HardwareInterfaces.Camera.BatcherSections

/-!
# The batches that an error removes

An error should take its own batch and the earlier ones off the queue, as far as
they are still there.  Its section removes as many batches as the position that
was looked up says, but the lock was released in between, and a batch that has
left the queue since then moves all the others forward.  The section is right
exactly if the batch is still at its position.  Otherwise it goes on to later
batches, or reads the front of an empty queue.
-/

namespace HardwareInterfaces.Camera

open Transition

namespace SharedBatcher

variable {shared : SharedBatcher}

/-- The error whose section an action enters, with the position that was looked
up for its batch. -/
def errorSection (shared : SharedBatcher) :
    Action → Option (ErrorMsg × Nat × Nat)
  | .enter thread =>
    match shared.threads thread with
    | .located (.notify (.error msg)) batchIdx ref => some (msg, batchIdx, ref)
    | _ => none
  | _ => none

/-- The section finds all the batches it removes, and the ones that stay are
those registered after the batch of the frame. -/
def RemovesUpToFrame (shared : SharedBatcher)
    (error : ErrorMsg × Nat × Nat) : Prop :=
  (shared.heap error.2.2).covers error.1.frameNumber = true ∧
    (shared.notifyError error.2.1 error.1).fault = false ∧
    (shared.notifyError error.2.1 error.1).mInflightBatches =
      shared.mInflightBatches.filter fun other => error.2.2 < other

/-- Every error removes the right batches. -/
def ErrorsRemoveRight (shared : SharedBatcher) (action : Action) : Prop :=
  ∀ error ∈ shared.errorSection action, shared.RemovesUpToFrame error

/-- No batch has left the queue since the error's batch was looked up. -/
def ErrorsInPlace (shared : SharedBatcher) (action : Action) : Prop :=
  ∀ error ∈ shared.errorSection action,
    shared.mInflightBatches[error.2.1]? = some error.2.2

instance decidableErrorsRemoveRight (shared : SharedBatcher)
    (action : Action) : Decidable (shared.ErrorsRemoveRight action) :=
  match herror : shared.errorSection action with
  | none => isTrue (by rintro _ hmem; rw [herror] at hmem; cases hmem)
  | some error =>
    have : Decidable (shared.RemovesUpToFrame error) :=
      inferInstanceAs (Decidable (_ ∧ _ ∧ _))
    decidable_of_iff (shared.RemovesUpToFrame error)
      (by simp [ErrorsRemoveRight, herror])

theorem flushBatches_of_le {count : Nat}
    (hcount : count ≤ shared.mInflightBatches.length) :
    (flushBatches count shared).mInflightBatches =
        shared.mInflightBatches.drop count ∧
      (flushBatches count shared).fault = shared.fault := by
  induction count generalizing shared with
  | zero => exact ⟨rfl, rfl⟩
  | succ count ih =>
    rw [flushBatches]
    cases hqueue : shared.mInflightBatches with
    | nil => simp [hqueue] at hcount
    | cons ref rest =>
      rw [hqueue] at hcount
      exact ih (Nat.le_of_succ_le_succ hcount)

theorem flushBatches_of_lt {count : Nat}
    (hcount : shared.mInflightBatches.length < count) :
    (flushBatches count shared).fault = true := by
  induction count generalizing shared with
  | zero => exact absurd hcount (Nat.not_lt_zero _)
  | succ count ih =>
    rw [flushBatches]
    cases hqueue : shared.mInflightBatches with
    | nil => rfl
    | cons ref rest =>
      rw [hqueue] at hcount
      exact ih (Nat.lt_of_succ_lt_succ hcount)

/-- The batches after a position of the queue. -/
theorem WellFormed.filter_eq_drop (hwf : WellFormed shared)
    {batchIdx : Nat} (hlt : batchIdx < shared.mInflightBatches.length) :
    (shared.mInflightBatches.filter fun other =>
        shared.removed + batchIdx < other) =
      shared.mInflightBatches.drop (batchIdx + 1) := by
  have hqueue := hwf.queue_eq
  generalize shared.mInflightBatches.length = count at hqueue hlt
  have hsplit : List.range' shared.removed count =
      List.range' shared.removed (batchIdx + 1) ++
        List.range' (shared.removed + (batchIdx + 1))
          (count - (batchIdx + 1)) := by
    rw [List.range'_append_1, Nat.add_sub_cancel' hlt]
  rw [hqueue, List.drop_range', Nat.mul_one, hsplit, List.filter_append,
    List.filter_eq_nil_iff.mpr, List.nil_append, List.filter_eq_self.mpr]
  · intro other hother
    have hrange := List.mem_range'_1.mp hother
    exact decide_eq_true (by omega)
  · intro other hother
    have hrange := List.mem_range'_1.mp hother
    rw [decide_eq_true_eq]
    omega

variable {action : Action}

theorem errorSection_eq_some {error : ErrorMsg × Nat × Nat}
    (herror : shared.errorSection action = some error) :
    ∃ thread, shared.threads thread =
      .located (.notify (.error error.1)) error.2.1 error.2.2 := by
  cases action with
  | enter thread =>
    rw [errorSection] at herror
    split at herror
    · rename_i hstop
      cases herror
      exact ⟨thread, hstop⟩
    · cases herror
  | invoke | registerBatch => cases herror

theorem WellFormed.removesUpToFrame_iff (hwf : WellFormed shared)
    (hfault : shared.fault = false) {error : ErrorMsg × Nat × Nat}
    (herror : shared.errorSection action = some error) :
    shared.RemovesUpToFrame error ↔
      shared.mInflightBatches[error.2.1]? = some error.2.2 := by
  obtain ⟨thread, hstop⟩ := errorSection_eq_some herror
  have hknows := hwf.knows thread
  rw [hstop] at hknows
  obtain ⟨msg, batchIdx, ref⟩ := error
  obtain ⟨-, hposition, hcovers⟩ := hknows
  rw [hwf.getElem?_eq_some_iff, RemovesUpToFrame]
  dsimp only at hposition hcovers ⊢
  by_cases hlt : batchIdx < shared.mInflightBatches.length
  · obtain ⟨hqueue, hsame⟩ := flushBatches_of_le
      (show batchIdx + 1 ≤ shared.mInflightBatches.length from hlt)
    have hleft : (shared.notifyError batchIdx msg).mInflightBatches =
        shared.mInflightBatches.filter fun other =>
          shared.removed + batchIdx < other :=
      hqueue.trans (hwf.filter_eq_drop hlt).symm
    have hnext : (shared.notifyError batchIdx msg).fault = false :=
      hsame.trans hfault
    rw [hleft]
    constructor
    · rintro ⟨-, -, hfilter⟩
      refine ⟨hlt, ?_⟩
      -- The batch at the position would have been kept.
      by_contra hmoved
      have hmem : shared.removed + batchIdx ∈ shared.mInflightBatches :=
        List.mem_of_getElem? (hwf.getElem?_eq_some_iff.mpr ⟨hlt, rfl⟩)
      have hkept : shared.removed + batchIdx ∈
          shared.mInflightBatches.filter fun other => ref < other :=
        List.mem_filter.mpr ⟨hmem, decide_eq_true (by omega)⟩
      rw [← hfilter] at hkept
      have hirrefl := of_decide_eq_true (List.mem_filter.mp hkept).2
      exact Nat.lt_irrefl _ hirrefl
    · rintro ⟨-, rfl⟩
      exact ⟨hcovers, hnext, rfl⟩
  · have hempty : (shared.notifyError batchIdx msg).fault = true :=
      flushBatches_of_lt (Nat.lt_succ_of_le (Nat.le_of_not_lt hlt))
    rw [hempty]
    exact iff_of_false (fun h => Bool.noConfusion h.2.1) fun h => hlt h.1

theorem fault_eq_false_of_step {next : SharedBatcher}
    (hstep : shared.step action = some next) : shared.fault = false := by
  rw [SharedBatcher.step.eq_def] at hstep
  split_ifs at hstep with hfault
  exact Bool.eq_false_iff.mpr hfault

theorem errors_remove_right_iff_in_place (numPartialResults : Nat)
    (streamsToBatch : List StreamId) (actions : List Action) :
    RunMeets SharedBatcher.step ErrorsRemoveRight
        (.start numPartialResults streamsToBatch) actions ↔
      RunMeets SharedBatcher.step ErrorsInPlace
        (.start numPartialResults streamsToBatch) actions := by
  have hinit := WellFormed.start numPartialResults streamsToBatch
  constructor
  · intro hright
    refine hright.imp ?_ (fun _ _ _ hwf _ => hwf.step) hinit
    intro shared action next hwf hguard hstep error herror
    exact (hwf.removesUpToFrame_iff (fault_eq_false_of_step hstep)
      herror).mp (hguard error herror)
  · intro hplace
    refine hplace.imp ?_ (fun _ _ _ hwf _ => hwf.step) hinit
    intro shared action next hwf hguard hstep error herror
    exact (hwf.removesUpToFrame_iff (fault_eq_false_of_step hstep)
      herror).mpr (hguard error herror)

/-- The first batch is completed by another thread after an error of the second
batch has been looked up. -/
def completedMeanwhile : List Action :=
  [.invoke 0 (.notify (.error ⟨3, -1, 2⟩)), .enter 0,
    .invoke 1 (.notify (.shutter ⟨2, 20⟩)), .enter 1, .enter 1, .enter 1,
    .invoke 1 (.processCaptureResult { frameNumber := 2, partialResult := 1 }),
    .enter 1, .enter 1, .enter 1,
    .enter 0]

/-- With two batches the error reads the front of an empty queue, and with three
it removes the third one as well. -/
theorem error_removes_moved_batches :
    (¬ RunMeets SharedBatcher.step ErrorsRemoveRight (.start 1 [])
        ([.registerBatch 1 2, .registerBatch 3 2] ++ completedMeanwhile) ∧
      (run SharedBatcher.step (.start 1 [])
        ([.registerBatch 1 2, .registerBatch 3 2] ++ completedMeanwhile)).map
          SharedBatcher.fault = some true) ∧
    ¬ RunMeets SharedBatcher.step ErrorsRemoveRight (.start 1 [])
        ([.registerBatch 1 2, .registerBatch 3 2, .registerBatch 5 2] ++
          completedMeanwhile) ∧
      (run SharedBatcher.step (.start 1 [])
        ([.registerBatch 1 2, .registerBatch 3 2, .registerBatch 5 2] ++
          completedMeanwhile)).map (fun last =>
            (last.fault, last.mInflightBatches)) = some (false, []) := by
  decide +kernel

end SharedBatcher

end HardwareInterfaces.Camera

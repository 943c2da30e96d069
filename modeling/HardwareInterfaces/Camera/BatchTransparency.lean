import HardwareInterfaces.Camera.BufferFrames

/-!
# What the framework receives with and without batching

Without batching every result is sent on by `processOneCaptureResult`.  For a
frame whose batch is no longer in flight the framework has then received the
same metadata, the same output buffers and the same input buffers either way,
only in other results.

Two things are different.  No queue of a batch takes the physical camera
metadata, and none of the results that a batch builds carries them.  And every
buffer that goes through a batch is moved, which may close its release fence.
Both arrive exactly if no result of the frame had physical camera metadata, or a
fence that a move closes, while its batch was in flight.
-/

namespace HardwareInterfaces.Camera

open Transition
open ResultBatcher (Event)

namespace Fence

variable (survives : Nat → Bool) (fence : Fence)

/-- A move will close the fence. -/
def fragile : Bool := !fence.moved && !survives fence.descriptor

end Fence

namespace CaptureResult

variable (result : CaptureResult)

def buffers : List StreamBuffer :=
  result.outputBuffers ++
    if result.inputBuffer.streamId = -1 then [] else [result.inputBuffer]

/-- The buffers that come with a fence of some sort. -/
def fenced (sort : Fence → Bool) : List (Nat × StreamBuffer) :=
  (result.buffers.filter fun buffer => buffer.releaseFence.any sort).map
    fun buffer => (result.frameNumber, buffer.plain)

end CaptureResult

/-- The items of one kind that the framework receives for a frame. -/
def receivedFor {Item : Type*} (view : CaptureResult → List (Nat × Item))
    (frameNumber : Nat) (callbacks : List Callback) : List (Nat × Item) :=
  (delivered view callbacks).filter fun item => item.1 = frameNumber

/-- All that the batcher assumes of the requests and of the HAL. -/
def Orderly (observed : Observed) (event : Event) : Prop :=
  Regular observed event ∧ StreamsDistinct event ∧
    BuffersInOrder observed event ∧ RegistersOnTime observed event

/-- No result of the frame has physical camera metadata, or a fence that a move
closes, while a batch of the frame is in flight. -/
def NothingLost (survives : Nat → Bool) (frameNumber : Nat)
    (observed : Observed) : Event → Prop
  | .processCaptureResult result => result.frameNumber = frameNumber →
      (∃ batch ∈ observed.batcher.mInflightBatches,
        batch.covers frameNumber = true) →
      result.physicalCameraMetadata = [] ∧
        ∀ buffer ∈ result.buffers,
          buffer.releaseFence.any (Fence.fragile survives) = false
  | _ => True

instance decidableOrderly (observed : Observed) (event : Event) :
    Decidable (Orderly observed event) :=
  inferInstanceAs (Decidable (_ ∧ _ ∧ _ ∧ _))

instance decidableNothingLost (survives : Nat → Bool) (frameNumber : Nat)
    (observed : Observed) :
    ∀ event, Decidable (NothingLost survives frameNumber observed event)
  | .processCaptureResult _ => inferInstanceAs (Decidable (_ → _ → _ ∧ _))
  | .notify _ => isTrue trivial
  | .setBatchedStreams _ => isTrue trivial
  | .registerBatch _ _ => isTrue trivial

section Unbatched

variable {Item : Type*}

end Unbatched

/-! ## Input buffers -/

/-- Input buffers are sent on at once. -/
def inputKind : Kind (Nat × StreamBuffer) where
  delivered := delivered CaptureResult.inputs
  held _ := []
  passed := passedIn CaptureResult.inputs

theorem inputKind_lawful :
    inputKind.Lawful (fun _ _ => True) (fun _ => True) where
  delivered_nil := rfl
  delivered_append := delivered_append _
  delivered_notify msg := delivered_notify CaptureResult.inputs [msg]
  delivered_result result := by
    simp only [inputKind]
    rw [delivered_results, List.flatMap_singleton]
    rfl
  passed_error _ := rfl
  passed_registerBatch _ _ := rfl
  passed_setBatchedStreams _ := rfl
  held_new _ _ _ _ := rfl
  queueShutter batch msg := by
    apply List.Perm.of_eq
    simp only [inputKind]
    rw [batch.delivered_queueShutter]
    rfl
  queueResult batch result _ := by
    apply List.Perm.of_eq
    simp only [inputKind]
    rw [batch.inputs_queueResult, List.append_nil]
    rfl
  flush batch streams numPartialResults _ := by
    apply List.Perm.of_eq
    simp only [inputKind]
    rw [batch.delivered_flush (fun _ _ _ => rfl) (fun _ _ => rfl)]
    rfl

/-! ## Kinds that do not get through a batch -/

/-- The call is for a frame of a batch in flight. -/
def Batched (batcher : ResultBatcher) (event : Event) : Prop :=
  ∃ frameNumber ∈ frameOf event, ∃ batch ∈ batcher.mInflightBatches,
    batch.covers frameNumber = true

variable {Item : Type*} {view : CaptureResult → List (Nat × Item)}

/-- The items are for the frame of their result, and are neither among metadata
nor among buffers that have been moved. -/
structure Excluded (view : CaptureResult → List (Nat × Item)) : Prop where
  frame : ∀ result, ∀ item ∈ view result, item.1 = result.frameNumber
  metadata : ∀ frameNumber md partialResult,
    view { frameNumber := frameNumber, result := md,
           partialResult := partialResult } = []
  moved : ∀ frameNumber (buffers : List StreamBuffer) (input : StreamBuffer),
    view { frameNumber := frameNumber, outputBuffers := buffers.map .move,
           inputBuffer := input.move } = []

theorem Excluded.delivered_flushes (hexcluded : Excluded view)
    (flushed : List InflightBatch) (streams : List StreamId)
    (numPartialResults : Nat) :
    delivered view (flushed.flatMap fun batch =>
      (batch.flush streams numPartialResults).1) = [] := by
  induction flushed with
  | nil => rfl
  | cons batch rest ih =>
    rw [List.flatMap_cons, delivered_append, ih,
      batch.delivered_flush hexcluded.metadata fun frameNumber buffers =>
        hexcluded.moved frameNumber buffers .absent]
    rfl

/-- A call for a batched frame sends no such items, another call sends those it
brings. -/
theorem Excluded.stage (hexcluded : Excluded view) {batcher : ResultBatcher}
    {event : Event} {staged : List InflightBatch} {sent : List Callback}
    (hascending : Ascending batcher.mInflightBatches)
    (hstage : Stage batcher event staged sent) :
    (Batched batcher event → delivered view sent = []) ∧
      (¬ Batched batcher event →
        delivered view sent = passedIn view event) := by
  cases hstage with
  | registerBatch | setBatchedStreams => exact ⟨fun _ => rfl, fun _ => rfl⟩
  | notifySingle =>
    rw [delivered_notify]
    exact ⟨fun _ => rfl, fun _ => rfl⟩
  | resultSingle result hnone =>
    have hsent : delivered view [.processCaptureResult [result]] =
        view result := by
      rw [delivered_results, List.flatMap_singleton]
    refine ⟨?_, fun _ => hsent⟩
    rintro ⟨_, ⟨⟩, batch, hbatch, hcovers⟩
    have hnot := not_covers_of_getBatch_eq_none hascending hnone batch hbatch
    exact absurd (hcovers.symm.trans hnot) Bool.noConfusion
  | queueShutter msg before batch =>
    rw [batch.delivered_queueShutter]
    exact ⟨fun _ => rfl, fun _ => rfl⟩
  | queueResult result before batch after hqueue hcovers =>
    refine ⟨fun _ => batch.delivered_queueResult result hexcluded.metadata
      hexcluded.moved, ?_⟩
    intro hnot
    exact absurd ⟨_, rfl, batch, by simp [hqueue], hcovers⟩ hnot
  | flush =>
    rw [delivered_append, delivered_notify, hexcluded.delivered_flushes]
    exact ⟨fun _ => rfl, fun _ => rfl⟩

/-- The items that the calls brought for a frame. -/
def passedFor (view : CaptureResult → List (Nat × Item)) (frameNumber : Nat)
    (events : List Event) : List (Nat × Item) :=
  (events.flatMap (passedIn view)).filter fun item => item.1 = frameNumber

/-- The batches are in order, and no items were invented. -/
structure ViewKept (view : CaptureResult → List (Nat × Item))
    (frameNumber : Nat) (observed : Observed) : Prop where
  kept : Kept observed
  subperm : (receivedFor view frameNumber observed.batcher.callbacks).Subperm
    (passedFor view frameNumber observed.events)

section Step

variable {frameNumber : Nat} {observed next : Observed} {event : Event}
variable {staged : List InflightBatch} {sent : List Callback}

theorem receivedFor_step {batcher : ResultBatcher}
    (hperforms : Performs observed.batcher event staged sent batcher) :
    receivedFor view frameNumber batcher.callbacks =
      receivedFor view frameNumber observed.batcher.callbacks ++
        receivedFor view frameNumber sent := by
  rw [receivedFor, hperforms.callbacks, delivered_append, List.filter_append]
  rfl

theorem passedFor_append (events : List Event) (event : Event) :
    passedFor view frameNumber (events ++ [event]) =
      passedFor view frameNumber events ++
        (passedIn view event).filter fun item => item.1 = frameNumber := by
  rw [passedFor, List.flatMap_append, List.flatMap_singleton,
    List.filter_append]
  rfl

section

variable (hexcluded : Excluded view)
  (hkept : ViewKept view frameNumber observed)
  (horder : RegistersInOrder observed event)
  (hidle : ReconfiguresIdle observed event)
  (hstep : observed.step event = some next)
include hexcluded hkept horder hidle hstep

theorem ViewKept.step : ViewKept view frameNumber next := by
  obtain ⟨staged, sent, batcher, rfl, hperforms⟩ :=
    hkept.kept.exists_performs hstep
  obtain ⟨hbatched, hdirect⟩ := hexcluded.stage hkept.kept.ascending
    hperforms.stage
  refine ⟨hkept.kept.step horder hidle hperforms, ?_⟩
  dsimp only
  rw [receivedFor_step hperforms, passedFor_append]
  have hsent : (receivedFor view frameNumber sent).Subperm
      ((passedIn view event).filter fun item => item.1 = frameNumber) := by
    by_cases hin : Batched observed.batcher event
    · rw [receivedFor, hbatched hin]
      exact List.nil_subperm
    · rw [receivedFor, hdirect hin]
  exact ((List.subperm_append_right _).mpr hkept.subperm).trans
    ((List.subperm_append_left _).mpr hsent)

end

end Step

/-! ## Physical camera metadata and fragile fences -/

theorem excluded_physical : Excluded CaptureResult.physical where
  frame result item hitem := by
    obtain ⟨_, -, rfl⟩ := List.mem_map.mp hitem
    rfl
  metadata _ _ _ := rfl
  moved _ _ _ := rfl

theorem any_fragile_move (survives : Nat → Bool) (buffer : StreamBuffer) :
    buffer.move.releaseFence.any (Fence.fragile survives) = false := by
  cases hfence : buffer.releaseFence with
  | none => simp [StreamBuffer.move, hfence]
  | some fence => simp [StreamBuffer.move, hfence, Fence.fragile]

theorem excluded_fragile (survives : Nat → Bool) :
    Excluded (CaptureResult.fenced · (Fence.fragile survives)) where
  frame result item hitem := by
    obtain ⟨_, -, rfl⟩ := List.mem_map.mp hitem
    rfl
  metadata _ _ _ := rfl
  moved frameNumber buffers input := by
    rw [CaptureResult.fenced, List.map_eq_nil_iff, List.filter_eq_nil_iff]
    intro buffer hbuffer
    obtain ⟨moved, rfl⟩ : ∃ moved : StreamBuffer, buffer = moved.move := by
      rcases List.mem_append.mp hbuffer with hbuffer | hbuffer
      · obtain ⟨moved, -, rfl⟩ := List.mem_map.mp hbuffer
        exact ⟨moved, rfl⟩
      · split_ifs at hbuffer
        · cases hbuffer
        · exact ⟨input, List.mem_singleton.mp hbuffer⟩
    exact Bool.eq_false_iff.mp (any_fragile_move survives moved)

section Surviving

variable (survives : Nat → Bool) (frameNumber : Nat) (buffer : StreamBuffer)

end Surviving

/-- The invariant of orderly runs. -/
structure Transparent (survives : Nat → Bool) (frameNumber : Nat)
    (observed : Observed) : Prop where
  delivering : Delivering observed
  framing : Framing observed
  inputs : inputKind.Balanced observed
  physical : ViewKept CaptureResult.physical frameNumber observed
  fences : ViewKept (CaptureResult.fenced · (Fence.fragile survives))
    frameNumber observed

namespace Transparent

variable {survives : Nat → Bool} {frameNumber : Nat}
  {observed next : Observed} {event : Event}

theorem start (survives : Nat → Bool) (frameNumber numPartialResults : Nat) :
    Transparent survives frameNumber (.start numPartialResults) where
  delivering := .start numPartialResults
  framing := .start numPartialResults
  inputs := Kind.balanced_start inputKind_lawful numPartialResults
  physical := ⟨kept_start numPartialResults, List.nil_subperm⟩
  fences := ⟨kept_start numPartialResults, List.nil_subperm⟩

theorem step (htransparent : Transparent survives frameNumber observed)
    (horderly : Orderly observed event)
    (hstep : observed.step event = some next) :
    Transparent survives frameNumber next := by
  obtain ⟨hregular, hdistinct, hbuffers, htime⟩ := horderly
  obtain ⟨⟨hidle, -, -⟩, horder, -, -⟩ := id hregular
  have hkept := htransparent.framing.kept
  refine ⟨htransparent.delivering.step hregular hstep,
    htransparent.framing.step ⟨horder, hidle, hdistinct, hbuffers⟩ htime hstep, ?_,
    htransparent.physical.step excluded_physical horder hidle hstep,
    htransparent.fences.step (excluded_fragile survives) horder hidle hstep⟩
  obtain ⟨staged, sent, batcher, rfl, hperforms⟩ := hkept.exists_performs hstep
  exact htransparent.inputs.step inputKind_lawful hperforms
    ⟨trivial, fun _ _ _ _ _ => trivial, fun _ _ => rfl⟩
    (fun _ _ _ => rfl)

end Transparent

end HardwareInterfaces.Camera

import HardwareInterfaces.Camera.BatchLedger

/-!
# Shutters and metadata arrive once and in time

A HAL that sends one shutter per frame, in frame order, and no metadata after
the final partial result of their frame or of a later one, nor with a higher
partial index than the final one, loses nothing to the batcher as long as the
batches come in frame order.  In every state the shutters and metadata delivered
and those still queued are together the ones received.  What is queued belongs
to a batch whose last shutter, respectively whose last final partial result, has
not come, and an error leaves no batch up to its own frame in the queue.

A batch may be registered at any time, also after some of its data have come and
have been sent on directly.
-/

namespace HardwareInterfaces.Camera

open Transition
open ResultBatcher (Event)

def passedShutters (events : List Event) : List ShutterMsg :=
  events.flatMap shutterKind.passed

def passedResults (events : List Event) : List CaptureResult :=
  events.flatMap (passedIn fun result => [result])

/-- The shutters come in frame order. -/
def ShuttersInOrder (observed : Observed) : Event → Prop
  | .notify (.shutter msg) =>
    ∀ earlier ∈ passedShutters observed.events,
      earlier.frameNumber ≤ msg.frameNumber
  | _ => True

/-- Metadata come before the final partial results of their frame and of the
later ones. -/
def MetadataInTime (observed : Observed) : Event → Prop
  | .processCaptureResult result => result.result ≠ [] →
      ∀ earlier ∈ passedResults observed.events,
        observed.batcher.mNumPartialResults ≤ earlier.partialResult →
          earlier.frameNumber < result.frameNumber
  | _ => True

/-- No frame has two shutters. -/
def ShuttersOnce (observed : Observed) : Event → Prop
  | .notify (.shutter msg) =>
    ∀ earlier ∈ passedShutters observed.events,
      earlier.frameNumber ≠ msg.frameNumber
  | _ => True

/-- Metadata come in partial results, and none is beyond the final one. -/
def IndexesInRange (observed : Observed) : Event → Prop
  | .processCaptureResult result => result.result ≠ [] →
      0 < observed.batcher.mNumPartialResults ∧
        result.partialResult ≤ observed.batcher.mNumPartialResults
  | _ => True

/-- The order in which a HAL makes its calls. -/
def InOrder (observed : Observed) (event : Event) : Prop :=
  ReconfiguresIdle observed event ∧ ShuttersInOrder observed event ∧
    MetadataInTime observed event

/-- The calls that the batcher expects: in order, and with frame numbers and
partial indexes that make sense. -/
def Regular (observed : Observed) (event : Event) : Prop :=
  InOrder observed event ∧ RegistersInOrder observed event ∧
    ShuttersOnce observed event ∧ IndexesInRange observed event

instance decidableRegistersInOrder (observed : Observed) :
    ∀ event, Decidable (RegistersInOrder observed event)
  | .registerBatch _ _ => inferInstanceAs (Decidable (_ ∧ _ ∧ _))
  | .setBatchedStreams _ => isTrue trivial
  | .notify _ => isTrue trivial
  | .processCaptureResult _ => isTrue trivial

instance decidableReconfiguresIdle (observed : Observed) :
    ∀ event, Decidable (ReconfiguresIdle observed event)
  | .setBatchedStreams _ => inferInstanceAs (Decidable (_ = _))
  | .registerBatch _ _ => isTrue trivial
  | .notify _ => isTrue trivial
  | .processCaptureResult _ => isTrue trivial

instance decidableShuttersInOrder (observed : Observed) :
    ∀ event, Decidable (ShuttersInOrder observed event)
  | .notify (.shutter _) => inferInstanceAs (Decidable (∀ _ ∈ _, _ ≤ _))
  | .notify (.error _) => isTrue trivial
  | .setBatchedStreams _ => isTrue trivial
  | .registerBatch _ _ => isTrue trivial
  | .processCaptureResult _ => isTrue trivial

instance decidableMetadataInTime (observed : Observed) :
    ∀ event, Decidable (MetadataInTime observed event)
  | .processCaptureResult _ =>
    inferInstanceAs (Decidable (_ ≠ _ → ∀ _ ∈ _, _ → _))
  | .notify _ => isTrue trivial
  | .setBatchedStreams _ => isTrue trivial
  | .registerBatch _ _ => isTrue trivial

instance decidableShuttersOnce (observed : Observed) :
    ∀ event, Decidable (ShuttersOnce observed event)
  | .notify (.shutter _) => inferInstanceAs (Decidable (∀ _ ∈ _, _ ≠ _))
  | .notify (.error _) => isTrue trivial
  | .setBatchedStreams _ => isTrue trivial
  | .registerBatch _ _ => isTrue trivial
  | .processCaptureResult _ => isTrue trivial

instance decidableIndexesInRange (observed : Observed) :
    ∀ event, Decidable (IndexesInRange observed event)
  | .processCaptureResult _ => inferInstanceAs (Decidable (_ ≠ _ → _ ∧ _))
  | .notify _ => isTrue trivial
  | .setBatchedStreams _ => isTrue trivial
  | .registerBatch _ _ => isTrue trivial

instance decidableInOrder (observed : Observed) (event : Event) :
    Decidable (InOrder observed event) :=
  inferInstanceAs (Decidable (_ ∧ _ ∧ _))

instance decidableRegular (observed : Observed) (event : Event) :
    Decidable (Regular observed event) :=
  inferInstanceAs (Decidable (_ ∧ _ ∧ _ ∧ _))

theorem passedShutters_append (events : List Event) (event : Event) :
    passedShutters (events ++ [event]) =
      passedShutters events ++ shutterKind.passed event := by
  rw [passedShutters, List.flatMap_append, List.flatMap_singleton]
  rfl

theorem passedResults_append (events : List Event) (event : Event) :
    passedResults (events ++ [event]) =
      passedResults events ++ passedIn (fun result => [result]) event := by
  rw [passedResults, List.flatMap_append, List.flatMap_singleton]
  rfl

theorem frameOf_of_mem_shutters {event : Event} {seen : ShutterMsg}
    (hseen : seen ∈ shutterKind.passed event) :
    seen.frameNumber ∈ frameOf event := by
  cases event with
  | notify msg =>
    cases msg with
    | shutter msg =>
      rw [List.mem_singleton.mp hseen]
      rfl
    | error msg => cases hseen
  | registerBatch | setBatchedStreams | processCaptureResult => cases hseen

theorem frameOf_of_mem_results {event : Event} {result : CaptureResult}
    (hresult : result ∈ passedIn (fun result => [result]) event) :
    result.frameNumber ∈ frameOf event := by
  cases event with
  | processCaptureResult found =>
    rw [List.mem_singleton.mp hresult]
    rfl
  | notify | registerBatch | setBatchedStreams => cases hresult

theorem InflightBatch.le_last {batch : InflightBatch} {frameNumber : Nat}
    (hcovers : batch.covers frameNumber = true) :
    frameNumber ≤ batch.mLastFrame := by
  rw [covers, Bool.and_eq_true] at hcovers
  exact of_decide_eq_true hcovers.2

theorem InflightBatch.ne_last {batch : InflightBatch}
    (hspan : batch.mFirstFrame ≤ batch.mLastFrame) {frameNumber : Nat}
    (hcovers : batch.covers frameNumber = false) :
    frameNumber ≠ batch.mLastFrame := by
  rintro rfl
  simp [covers, hspan] at hcovers

/-! ## The shutters of one batch -/

/-- A batch that has sent its shutters has seen the last one, and a batch that
queues shutters has not. -/
structure ShuttersKept (events : List Event) (batch : InflightBatch) :
    Prop where
  sent : batch.mShutterDelivered = true → batch.mShutterMsgs = [] ∧
    ∃ seen ∈ passedShutters events, seen.frameNumber = batch.mLastFrame
  waiting : ∀ msg ∈ batch.mShutterMsgs,
    batch.covers msg.frameNumber = true ∧
      ∀ seen ∈ passedShutters events, seen.frameNumber ≠ batch.mLastFrame

namespace ShuttersKept

variable {events : List Event} {batch : InflightBatch}

theorem mono (hkept : ShuttersKept events batch) {event : Event}
    (hevent : ∀ seen ∈ shutterKind.passed event,
      seen.frameNumber ≠ batch.mLastFrame) :
    ShuttersKept (events ++ [event]) batch where
  sent hsent := by
    obtain ⟨hempty, seen, hseen, hlast⟩ := hkept.sent hsent
    refine ⟨hempty, seen, ?_, hlast⟩
    rw [passedShutters_append]
    exact List.mem_append_left _ hseen
  waiting msg hmsg := by
    obtain ⟨hcovers, hwaiting⟩ := hkept.waiting msg hmsg
    rw [passedShutters_append]
    exact ⟨hcovers, List.forall_mem_append.mpr ⟨hwaiting, hevent⟩⟩

theorem queueShutter (hkept : ShuttersKept events batch) {msg : ShutterMsg}
    (hcovers : batch.covers msg.frameNumber = true)
    (horder : ∀ earlier ∈ passedShutters events,
      earlier.frameNumber < msg.frameNumber) :
    ShuttersKept (events ++ [.notify (.shutter msg)])
      (batch.queueShutter msg).2 := by
  have hle := InflightBatch.le_last hcovers
  have hpassed : passedShutters (events ++ [.notify (.shutter msg)]) =
      passedShutters events ++ [msg] := passedShutters_append _ _
  -- The last shutter would have been earlier than this one.
  have hnew : ¬ batch.mShutterDelivered = true := by
    intro hsent
    obtain ⟨-, seen, hseen, hlast⟩ := hkept.sent hsent
    have hlt := horder seen hseen
    omega
  rw [InflightBatch.queueShutter]
  split_ifs with hlast
  · rw [InflightBatch.sendBatchShutterCbs, if_neg hnew]
    refine ⟨fun _ => ⟨rfl, msg, ?_, hlast⟩, List.forall_mem_nil _⟩
    rw [hpassed]
    exact List.mem_append_right _ List.mem_cons_self
  · refine ⟨fun hsent => absurd hsent hnew, ?_⟩
    intro queued hqueued
    constructor
    · rcases List.mem_append.mp hqueued with hold | hmsg
      · exact (hkept.waiting queued hold).1
      · rw [List.mem_singleton.mp hmsg]
        exact hcovers
    · rw [hpassed]
      intro seen hseen
      rcases List.mem_append.mp hseen with hold | hmsg
      · have hlt := horder seen hold
        exact (hlt.trans_le hle).ne
      · rw [List.mem_singleton.mp hmsg]
        exact hlast

theorem flush (hkept : ShuttersKept events batch) (streams : List StreamId)
    (numPartialResults : Nat) :
    (batch.flush streams numPartialResults).2.mShutterMsgs = [] := by
  rw [batch.flush_eq, InflightBatch.sendBatchShutterCbs]
  split_ifs with hsent
  · exact (hkept.sent hsent).1
  · rfl

theorem revised {batcher : ResultBatcher} {event : Event}
    (hkept : ∀ old ∈ batcher.mInflightBatches, ShuttersKept events old)
    (hascending : Ascending batcher.mInflightBatches)
    (horder : ShuttersInOrder ⟨batcher, events⟩ event)
    (honce : ShuttersOnce ⟨batcher, events⟩ event)
    (hrevised : Revised batcher event batch) :
    ShuttersKept (events ++ [event]) batch := by
  cases hrevised with
  | registered => exact ⟨nofun, nofun⟩
  | untouched _ _ hbatch hframe =>
    apply (hkept batch hbatch).mono
    intro seen hseen
    exact InflightBatch.ne_last (hascending.spans batch hbatch)
      (hframe _ (frameOf_of_mem_shutters hseen))
  | shutter msg old hbatch hcovers =>
    exact (hkept old hbatch).queueShutter hcovers fun earlier hearlier =>
      lt_of_le_of_ne (horder earlier hearlier) (honce earlier hearlier)
  | result result old hbatch =>
    obtain ⟨progress, mds, bufs, hframe⟩ := old.queueResult_frame result
    have hold : ShuttersKept (events ++ [.processCaptureResult result]) old :=
      (hkept old hbatch).mono nofun
    rw [hframe]
    exact ⟨hold.sent, hold.waiting⟩

end ShuttersKept

/-! ## The metadata of one batch -/

/-- A batch whose metadata are complete holds none and has seen the final
partial result of its last frame; a batch that queues metadata has not. -/
structure MetadataKept (numPartialResults : Nat) (events : List Event)
    (batch : InflightBatch) : Prop where
  sent : numPartialResults ≤ batch.mPartialResultProgress →
    batch.heldMetadata = [] ∧ (0 < numPartialResults →
      ∃ result ∈ passedResults events,
        result.frameNumber = batch.mLastFrame ∧
          numPartialResults ≤ result.partialResult)
  indexed : ∀ item ∈ batch.heldMetadata,
    0 < numPartialResults ∧ item.2.1 ≤ numPartialResults
  waiting : ∀ item ∈ batch.heldMetadata, batch.covers item.1 = true ∧
    ∀ result ∈ passedResults events,
      result.frameNumber = batch.mLastFrame →
        result.partialResult < numPartialResults

theorem CaptureResult.mem_metadata {result : CaptureResult}
    {item : Nat × Nat × CameraMetadata} :
    item ∈ result.metadata ↔ result.result ≠ [] ∧
      item = (result.frameNumber, result.partialResult, result.result) := by
  rw [metadata]
  split_ifs with hempty
  · exact iff_of_false (List.not_mem_nil) (fun h => h.1 hempty)
  · rw [List.mem_singleton]
    exact (and_iff_right hempty).symm

namespace MetadataKept

variable {numPartialResults : Nat} {events : List Event}
variable {batch : InflightBatch}

theorem mono (hkept : MetadataKept numPartialResults events batch)
    {event : Event}
    (hevent : ∀ result ∈ passedIn (fun result => [result]) event,
      result.frameNumber ≠ batch.mLastFrame) :
    MetadataKept numPartialResults (events ++ [event]) batch where
  sent hsent := by
    obtain ⟨hempty, hfinal⟩ := hkept.sent hsent
    refine ⟨hempty, fun hpos => ?_⟩
    obtain ⟨result, hresult, hlast⟩ := hfinal hpos
    refine ⟨result, ?_, hlast⟩
    rw [passedResults_append]
    exact List.mem_append_left _ hresult
  indexed := hkept.indexed
  waiting item hitem := by
    obtain ⟨hcovers, hwaiting⟩ := hkept.waiting item hitem
    rw [passedResults_append]
    refine ⟨hcovers, List.forall_mem_append.mpr ⟨hwaiting, ?_⟩⟩
    intro result hresult hlast
    exact absurd hlast (hevent result hresult)

section Result

variable {result : CaptureResult}
variable (hkept : MetadataKept numPartialResults events batch)
variable (hcovers : batch.covers result.frameNumber = true)
variable (htime : result.result ≠ [] →
  ∀ earlier ∈ passedResults events,
    numPartialResults ≤ earlier.partialResult →
      earlier.frameNumber < result.frameNumber)
variable (hrange : result.result ≠ [] →
  0 < numPartialResults ∧ result.partialResult ≤ numPartialResults)

include hkept hrange in
theorem indexed_queueMetadata :
    ∀ item ∈ (batch.queueMetadata result).heldMetadata,
      0 < numPartialResults ∧ item.2.1 ≤ numPartialResults := by
  intro item hitem
  have hmem := (batch.metadata_queueMetadata result).subset hitem
  rcases List.mem_append.mp hmem with hold | hnew
  · exact hkept.indexed item hold
  · obtain ⟨hmetadata, rfl⟩ := CaptureResult.mem_metadata.mp hnew
    exact hrange hmetadata

include hkept hcovers htime hrange in
/-- No metadata come for a batch whose metadata are complete. -/
theorem queueMetadata_eq_nil
    (hsent : numPartialResults ≤ batch.mPartialResultProgress) :
    (batch.queueMetadata result).heldMetadata = [] := by
  obtain ⟨hempty, hfinal⟩ := hkept.sent hsent
  have hnone : result.result = [] := by
    by_contra hmetadata
    obtain ⟨final, hmem, hlast, hreached⟩ := hfinal (hrange hmetadata).1
    have hlt := htime hmetadata final hmem hreached
    have hle := InflightBatch.le_last hcovers
    omega
  rw [InflightBatch.queueMetadata, if_pos hnone, hempty]

include hkept hcovers htime in
theorem waiting_queueMetadata :
    ∀ item ∈ (batch.queueMetadata result).heldMetadata,
      batch.covers item.1 = true ∧ ∀ earlier ∈ passedResults events,
        earlier.frameNumber = batch.mLastFrame →
          earlier.partialResult < numPartialResults := by
  intro item hitem
  have hmem := (batch.metadata_queueMetadata result).subset hitem
  rcases List.mem_append.mp hmem with hold | hnew
  · exact hkept.waiting item hold
  · obtain ⟨hmetadata, rfl⟩ := CaptureResult.mem_metadata.mp hnew
    refine ⟨hcovers, ?_⟩
    intro earlier hearlier hlast
    by_contra hreached
    have hlt := htime hmetadata earlier hearlier (Nat.le_of_not_lt hreached)
    have hle := InflightBatch.le_last hcovers
    omega

include hkept hcovers htime hrange in
/-- The final partial result of the last frame sends all the metadata. -/
theorem send_eq_nil {lastPartialResultIdx : Nat}
    (hfinal : numPartialResults ≤ lastPartialResultIdx) :
    ((batch.queueMetadata result).sendBatchMetadata
      lastPartialResultIdx).2.heldMetadata = [] := by
  obtain ⟨mds, hmds⟩ := batch.queueMetadata_frame result
  apply InflightBatch.heldMetadata_sendBatchMetadata_eq_nil
  · intro hdone
    rw [hmds] at hdone
    exact hkept.queueMetadata_eq_nil hcovers htime hrange (hfinal.trans hdone)
  · intro item hitem
    exact (hkept.indexed_queueMetadata hrange item hitem).2.trans hfinal

theorem mem_queueMetadata {item : Nat × Nat × CameraMetadata}
    (hitem : item ∈ (batch.queueResult result).2.heldMetadata) :
    item ∈ (batch.queueMetadata result).heldMetadata := by
  obtain ⟨bufs, hframe⟩ := batch.queueResult_metadata result
  rw [hframe] at hitem
  exact ((batch.queueMetadata result).metadata_sendResultMetadata
    result).subset (List.mem_append_right _ hitem)

include hkept hcovers htime hrange in
theorem queueResult_eq_nil
    (hlast : result.frameNumber = batch.mLastFrame)
    (hfinal : numPartialResults ≤ result.partialResult) :
    (batch.queueResult result).2.heldMetadata = [] := by
  obtain ⟨mds, hmds⟩ := batch.queueMetadata_frame result
  obtain ⟨bufs, hframe⟩ := batch.queueResult_metadata result
  have hheld : (batch.queueResult result).2.heldMetadata =
      ((batch.queueMetadata result).sendResultMetadata
        result).2.heldMetadata := by
    rw [hframe]
    rfl
  have hend : result.frameNumber = (batch.queueMetadata result).mLastFrame := by
    rw [hmds, hlast]
  rw [hheld, InflightBatch.sendResultMetadata]
  split_ifs with hsend
  · exact hkept.send_eq_nil hcovers htime hrange hfinal
  · -- There are no partial results, so there are no metadata either.
    have hzero : result.partialResult = 0 := by
      by_contra hne
      exact hsend ⟨hend, Nat.pos_of_ne_zero hne⟩
    rw [List.eq_nil_iff_forall_not_mem]
    intro item hitem
    have hindexed := hkept.indexed_queueMetadata hrange item hitem
    omega

/-- Only the final partial result of the last frame completes the metadata. -/
theorem progress_queueResult
    (hsent : numPartialResults ≤
      (batch.queueResult result).2.mPartialResultProgress) :
    numPartialResults ≤ batch.mPartialResultProgress ∨
      result.frameNumber = batch.mLastFrame ∧
        numPartialResults ≤ result.partialResult := by
  obtain ⟨mds, hmds⟩ := batch.queueMetadata_frame result
  obtain ⟨bufs, hframe⟩ := batch.queueResult_metadata result
  rw [hframe, InflightBatch.sendResultMetadata] at hsent
  split_ifs at hsent with hsend
  · have hmax := hsent
    rw [InflightBatch.mPartialResultProgress_sendBatchMetadata, le_max_iff,
      hmds] at hmax
    rw [hmds] at hsend
    exact hmax.imp_right fun hfinal => ⟨hsend.1, hfinal⟩
  · rw [hmds] at hsent
    exact .inl hsent

include hkept hcovers htime hrange in
theorem queueResult :
    MetadataKept numPartialResults
      (events ++ [.processCaptureResult result])
      (batch.queueResult result).2 := by
  have hpassed : passedResults (events ++ [.processCaptureResult result]) =
      passedResults events ++ [result] := passedResults_append _ _
  obtain ⟨progress, mds, bufs, hframe⟩ := batch.queueResult_frame result
  have hlast : (batch.queueResult result).2.mLastFrame = batch.mLastFrame := by
    rw [hframe]
  have hspan : (batch.queueResult result).2.covers = batch.covers := by
    rw [hframe]
    rfl
  constructor
  · intro hsent
    rw [hpassed, hlast]
    rcases progress_queueResult hsent with hold | ⟨hend, hfinal⟩
    · have hnone := hkept.queueMetadata_eq_nil hcovers htime hrange hold
      constructor
      · rw [List.eq_nil_iff_forall_not_mem]
        intro item hitem
        have hqueued := mem_queueMetadata hitem
        rw [hnone] at hqueued
        cases hqueued
      · intro hpos
        obtain ⟨final, hmem, hfinal⟩ := (hkept.sent hold).2 hpos
        exact ⟨final, List.mem_append_left _ hmem, hfinal⟩
    · refine ⟨hkept.queueResult_eq_nil hcovers htime hrange hend hfinal,
        fun _ => ?_⟩
      exact ⟨result, List.mem_append_right _ List.mem_cons_self, hend, hfinal⟩
  · intro item hitem
    exact hkept.indexed_queueMetadata hrange item (mem_queueMetadata hitem)
  · intro item hitem
    obtain ⟨hitemCovers, hearlier⟩ := hkept.waiting_queueMetadata hcovers htime
      item (mem_queueMetadata hitem)
    rw [hspan, hpassed, hlast]
    refine ⟨hitemCovers, List.forall_mem_append.mpr ⟨hearlier, ?_⟩⟩
    intro found hfound hend
    rw [List.mem_singleton.mp hfound] at hend ⊢
    by_contra hfinal
    rw [hkept.queueResult_eq_nil hcovers htime hrange hend
      (Nat.le_of_not_lt hfinal)] at hitem
    cases hitem

end Result

theorem flush (hkept : MetadataKept numPartialResults events batch)
    (streams : List StreamId) :
    (batch.flush streams numPartialResults).2.heldMetadata = [] := by
  rw [batch.flush_eq]
  exact batch.heldMetadata_sendBatchMetadata_eq_nil
    (fun hsent => (hkept.sent hsent).1)
    (fun item hitem => (hkept.indexed item hitem).2)

theorem revised {batcher : ResultBatcher} {event : Event}
    (hkept : ∀ old ∈ batcher.mInflightBatches,
      MetadataKept batcher.mNumPartialResults events old)
    (hascending : Ascending batcher.mInflightBatches)
    (htime : MetadataInTime ⟨batcher, events⟩ event)
    (hrange : IndexesInRange ⟨batcher, events⟩ event)
    (hrevised : Revised batcher event batch) :
    MetadataKept batcher.mNumPartialResults (events ++ [event]) batch := by
  cases hrevised with
  | registered =>
    refine ⟨fun hsent => ⟨rfl, fun hpos => ?_⟩, nofun, nofun⟩
    exact absurd hpos (Nat.not_lt.mpr hsent)
  | untouched _ _ hbatch hframe =>
    apply (hkept batch hbatch).mono
    intro result hresult
    exact InflightBatch.ne_last (hascending.spans batch hbatch)
      (hframe _ (frameOf_of_mem_results hresult))
  | shutter msg old hbatch =>
    obtain ⟨sent, msgs, hframe⟩ := old.queueShutter_frame msg
    have hold : MetadataKept batcher.mNumPartialResults
        (events ++ [.notify (.shutter msg)]) old :=
      (hkept old hbatch).mono nofun
    rw [hframe]
    exact ⟨hold.sent, hold.indexed, hold.waiting⟩
  | result result old hbatch hcovers =>
    exact (hkept old hbatch).queueResult hcovers htime hrange

end MetadataKept

/-! ## Whole runs -/

/-- Everything received has been delivered or is queued, and what is queued
waits for the last shutter or the last final partial result of its batch. -/
@[mk_iff]
structure Delivers (observed : Observed) : Prop where
  shutters : shutterKind.Balanced observed
  metadata : metadataKind.Balanced observed
  shutters_wait : ∀ batch ∈ observed.batcher.mInflightBatches,
    ∀ msg ∈ batch.mShutterMsgs, batch.covers msg.frameNumber = true ∧
      ∀ seen ∈ passedShutters observed.events,
        seen.frameNumber ≠ batch.mLastFrame
  metadata_wait : ∀ batch ∈ observed.batcher.mInflightBatches,
    ∀ item ∈ batch.heldMetadata, batch.covers item.1 = true ∧
      ∀ result ∈ passedResults observed.events,
        result.frameNumber = batch.mLastFrame →
          result.partialResult < observed.batcher.mNumPartialResults

/-- An error for a frame of a batch takes this batch and the ones before it off
the queue. -/
def ErrorsEndBatches (observed : Observed) (event : Event) : Prop :=
  ∀ msg, event = .notify (.error msg) →
    ∀ batch ∈ observed.batcher.mInflightBatches,
      batch.covers msg.frameNumber = true →
        ∀ left ∈ (observed.batcher.apply event).mInflightBatches,
          msg.frameNumber < left.mFirstFrame

/-- The invariant behind `Delivers`. -/
structure Delivering (observed : Observed) : Prop where
  kept : Kept observed
  shutters_kept : ∀ batch ∈ observed.batcher.mInflightBatches,
    ShuttersKept observed.events batch
  metadata_kept : ∀ batch ∈ observed.batcher.mInflightBatches,
    MetadataKept observed.batcher.mNumPartialResults observed.events batch
  shutters : shutterKind.Balanced observed
  metadata : metadataKind.Balanced observed

namespace Delivering

theorem start (numPartialResults : Nat) :
    Delivering (.start numPartialResults) where
  kept := kept_start numPartialResults
  shutters_kept := nofun
  metadata_kept := nofun
  shutters := Kind.balanced_start shutterKind_lawful numPartialResults
  metadata := Kind.balanced_start metadataKind_lawful numPartialResults

theorem delivers {observed : Observed} (hdelivering : Delivering observed) :
    Delivers observed where
  shutters := hdelivering.shutters
  metadata := hdelivering.metadata
  shutters_wait batch hbatch :=
    (hdelivering.shutters_kept batch hbatch).waiting
  metadata_wait batch hbatch := (hdelivering.metadata_kept batch hbatch).waiting

variable {observed next : Observed} {event : Event}

theorem step (hdelivering : Delivering observed)
    (hregular : Regular observed event)
    (hstep : observed.step event = some next) : Delivering next := by
  obtain ⟨⟨hidle, hshutters, htime⟩, horder, honce, hrange⟩ := hregular
  have hkept := hdelivering.kept
  have hascending := hkept.ascending
  obtain ⟨staged, sent, batcher, rfl, hperforms⟩ := hkept.exists_performs hstep
  have hrevised := hperforms.stage.revised hascending
  have hshuttersStaged : ∀ batch ∈ staged,
      ShuttersKept (observed.events ++ [event]) batch := fun batch hbatch =>
    .revised hdelivering.shutters_kept hascending hshutters honce
      (hrevised batch hbatch)
  have hmetadataStaged : ∀ batch ∈ staged,
      MetadataKept observed.batcher.mNumPartialResults
        (observed.events ++ [event]) batch := fun batch hbatch =>
    .revised hdelivering.metadata_kept hascending htime hrange
      (hrevised batch hbatch)
  have hstaged := hkept.staged horder hidle hperforms.stage
  have hsubset := hperforms.settles.sublist.subset
  refine ⟨hkept.step horder hidle hperforms, ?_, ?_, ?_, ?_⟩
  · exact fun batch hbatch => hshuttersStaged batch (hsubset hbatch)
  · intro batch hbatch
    dsimp only
    rw [hperforms.numPartialResults]
    exact hmetadataStaged batch (hsubset hbatch)
  · refine hdelivering.shutters.step shutterKind_lawful hperforms
      ⟨trivial, fun _ _ _ _ _ => trivial, ?_⟩ ?_
    · intro batch hbatch
      exact (hdelivering.shutters_kept batch hbatch).flush _ _
    · intro batch hbatch hall
      simp only [InflightBatch.allDelivered, Bool.and_eq_true] at hall
      exact ((hshuttersStaged batch hbatch).sent hall.1.1).1
  · refine hdelivering.metadata.step metadataKind_lawful hperforms
      ⟨trivial, fun _ _ _ _ _ => trivial, ?_⟩ ?_
    · intro batch hbatch
      exact (hdelivering.metadata_kept batch hbatch).flush _
    · intro batch hbatch hall
      simp only [InflightBatch.allDelivered, Bool.and_eq_true,
        (hstaged.kept batch hbatch).numPartialResults_eq] at hall
      exact ((hmetadataStaged batch hbatch).sent (by simpa using hall.1.2)).1

theorem errorsEndBatches (hdelivering : Delivering observed) (event : Event) :
    ErrorsEndBatches observed event := by
  rintro msg rfl batch hbatch hcovers
  have hascending := hdelivering.kept.ascending
  obtain ⟨staged, sent, batcher, hnext, hperforms⟩ :=
    hdelivering.kept.exists_performs
      (rfl : observed.step (.notify (.error msg)) = some _)
  have hqueue : (observed.batcher.apply
      (.notify (.error msg))).mInflightBatches = batcher.mInflightBatches :=
    congrArg (fun next => next.batcher.mInflightBatches) hnext
  rw [hqueue]
  intro left hleft
  have hmem := hperforms.settles.sublist.subset hleft
  obtain ⟨hstage, -⟩ := hperforms
  cases hstage with
  | notifySingle _ hnone =>
    have hnot := not_covers_of_getBatch_eq_none hascending hnone batch hbatch
    exact absurd (hcovers.symm.trans hnot) Bool.noConfusion
  | flush _ before found _ hqueue hfound =>
    have hordered := hascending.ordered
    rw [hqueue] at hordered
    obtain ⟨-, hcons, -⟩ := List.pairwise_append.mp hordered
    have hlt := (List.pairwise_cons.mp hcons).1 left hmem
    exact (InflightBatch.le_last hfound).trans_lt hlt

end Delivering

theorem batcher_delivers_once_and_in_time (numPartialResults : Nat)
    (events : List Event)
    (hregular : RunMeets Observed.step Regular (.start numPartialResults)
      events) :
    RunHolds Observed.step Delivers (.start numPartialResults) events ∧
      RunMeets Observed.step ErrorsEndBatches (.start numPartialResults)
        events := by
  have hinit := Delivering.start numPartialResults
  constructor
  · exact hregular.runHolds (fun _ => Delivering.delivers)
      (fun _ _ _ => Delivering.step) hinit
  · exact hregular.imp (fun _ event _ hdelivering _ _ =>
      hdelivering.errorsEndBatches event) (fun _ _ _ => Delivering.step) hinit

/-- A batch that is registered after its first shutter, and one that ends with
an error. -/
def lateBatchRun : List Event :=
  [.setBatchedStreams [0],
    .notify (.shutter ⟨1, 10⟩),
    .registerBatch 1 2,
    .processCaptureResult { frameNumber := 1, result := [7], partialResult := 1 },
    .notify (.shutter ⟨2, 20⟩),
    .processCaptureResult { frameNumber := 2, result := [8], partialResult := 2 },
    .registerBatch 3 2,
    .notify (.shutter ⟨3, 30⟩),
    .processCaptureResult { frameNumber := 3, result := [9], partialResult := 1 },
    .notify (.error ⟨4, -1, 2⟩)]

theorem batcher_delivers_once_and_in_time_lateBatchRun :
    RunMeets Observed.step Regular (.start 2) lateBatchRun ∧
      RunHolds Observed.step Delivers (.start 2) lateBatchRun ∧
      RunMeets Observed.step ErrorsEndBatches (.start 2) lateBatchRun := by
  have hregular : RunMeets Observed.step Regular (.start 2) lateBatchRun := by
    decide +kernel
  exact ⟨hregular, batcher_delivers_once_and_in_time 2 lateBatchRun hregular⟩

instance decidableDelivers : DecidablePred Delivers := fun observed =>
  decidable_of_iff' _ (delivers_iff observed)

/-- The calls are in order and yet something is lost or held back. -/
def LosesInOrder (numPartialResults : Nat) (events : List Event) : Prop :=
  RunMeets Observed.step InOrder (.start numPartialResults) events ∧
    ¬ RunHolds Observed.step Delivers (.start numPartialResults) events

instance (numPartialResults : Nat) (events : List Event) :
    Decidable (LosesInOrder numPartialResults events) :=
  inferInstanceAs (Decidable (_ ∧ ¬ _))

/-- A partial index beyond the only partial result. -/
def highIndexRun : List Event :=
  [.registerBatch 1 2,
    .processCaptureResult { frameNumber := 1, result := [7], partialResult := 2 },
    .notify (.shutter ⟨1, 10⟩),
    .notify (.shutter ⟨2, 20⟩),
    .processCaptureResult { frameNumber := 2, result := [8], partialResult := 1 }]

/-- Metadata from a device without partial results. -/
def noPartialsRun : List Event :=
  [.registerBatch 1 2,
    .processCaptureResult { frameNumber := 1, result := [7] },
    .notify (.shutter ⟨1, 10⟩),
    .notify (.shutter ⟨2, 20⟩)]

def repeatedShutterRun : List Event :=
  [.registerBatch 1 2,
    .notify (.shutter ⟨2, 20⟩),
    .notify (.shutter ⟨2, 21⟩)]

def descendingBatchesRun : List Event :=
  [.registerBatch 10 2,
    .notify (.shutter ⟨10, 100⟩),
    .registerBatch 5 2,
    .notify (.shutter ⟨11, 110⟩)]

/-- The last frame number of the second batch wraps around to zero. -/
def wrappedBatchRun : List Event :=
  [.registerBatch 1 2,
    .notify (.shutter ⟨1, 10⟩),
    .registerBatch (2 ^ 32 - 1) 2,
    .notify (.shutter ⟨2, 20⟩)]

theorem irregular_calls_lose_in_order :
    LosesInOrder 1 highIndexRun ∧ LosesInOrder 0 noPartialsRun ∧
      LosesInOrder 1 repeatedShutterRun ∧
      LosesInOrder 1 descendingBatchesRun ∧
      LosesInOrder 1 wrappedBatchRun := by
  decide +kernel

end HardwareInterfaces.Camera

import HardwareInterfaces.Camera.BatchDelivery

/-!
# The frames of batched buffers

A batch keeps no frame numbers for its buffers: the `i`-th buffer that a stream
queues is sent for the `i`-th frame of the batch.  This relies on every request
of the batch filling every batched stream and on the HAL returning the buffers
of a stream in frame order.

It also relies on the batch being registered before the first of these buffers
comes back, and nothing ensures that: the requests are submitted one by one, and
the batch is registered after the last of them.  Buffers that come back earlier
are sent on directly, and the next buffer takes the place of the first one.  If
a stream has returned none of the buffers of a batch by then, or all of them,
every buffer is delivered at most once and for its own frame.
-/

namespace HardwareInterfaces.Camera

open Transition
open ResultBatcher (Event)

/-- How many buffers of a stream have come back for the frames of a batch. -/
def returned (events : List Event) (first size : Nat) (id : StreamId) : Nat :=
  ((events.flatMap (passedIn CaptureResult.outputs)).filter fun item =>
    item.2.streamId = id ∧ first ≤ item.1 ∧ item.1 < first + size).length

/-- Every frame of a batch fills every batched stream once, and the buffers of a
stream come back in frame order. -/
def BuffersInOrder (observed : Observed) : Event → Prop
  | .processCaptureResult result =>
    ∀ batch ∈ registrations observed.events,
      batch.1 ≤ result.frameNumber →
        result.frameNumber < batch.1 + batch.2 →
          ((result.outputBuffers.filter fun buffer =>
              buffer.streamId ∈ observed.batcher.mStreamsToBatch).map
            StreamBuffer.streamId).Nodup ∧
            ∀ buffer ∈ result.outputBuffers,
              buffer.streamId ∈ observed.batcher.mStreamsToBatch →
                result.frameNumber = batch.1 + returned observed.events
                  batch.1 batch.2 buffer.streamId
  | _ => True

/-- No stream is batched twice. -/
def StreamsDistinct : Event → Prop
  | .setBatchedStreams streamsToBatch => streamsToBatch.Nodup
  | _ => True

/-- What the batcher assumes of the requests and of the HAL. -/
def BatchesInOrder (observed : Observed) (event : Event) : Prop :=
  RegistersInOrder observed event ∧ ReconfiguresIdle observed event ∧
    StreamsDistinct event ∧ BuffersInOrder observed event

/-- By the registration of a batch a stream has returned none of its buffers or
all of them. -/
def RegistersOnTime (observed : Observed) : Event → Prop
  | .registerBatch frameNumber batchSize =>
    ∀ id ∈ observed.batcher.mStreamsToBatch,
      returned observed.events frameNumber batchSize id = 0 ∨
        returned observed.events frameNumber batchSize id = batchSize
  | _ => True

/-- Every buffer is delivered at most once, and for the frame of the result that
returned it. -/
def InOwnFrame (observed : Observed) : Prop :=
  (delivered CaptureResult.outputs observed.batcher.callbacks).Subperm
    (observed.events.flatMap (passedIn CaptureResult.outputs))

instance decidableBuffersInOrder (observed : Observed) :
    ∀ event, Decidable (BuffersInOrder observed event)
  | .processCaptureResult _ => inferInstanceAs (Decidable (∀ _ ∈ _, _))
  | .notify _ => isTrue trivial
  | .setBatchedStreams _ => isTrue trivial
  | .registerBatch _ _ => isTrue trivial

instance decidableStreamsDistinct : DecidablePred StreamsDistinct
  | .setBatchedStreams _ => inferInstanceAs (Decidable (List.Nodup _))
  | .registerBatch _ _ => isTrue trivial
  | .notify _ => isTrue trivial
  | .processCaptureResult _ => isTrue trivial

instance decidableBatchesInOrder (observed : Observed) (event : Event) :
    Decidable (BatchesInOrder observed event) :=
  inferInstanceAs (Decidable (_ ∧ _ ∧ _ ∧ _))

instance decidableRegistersOnTime (observed : Observed) :
    ∀ event, Decidable (RegistersOnTime observed event)
  | .registerBatch _ _ => inferInstanceAs (Decidable (∀ _ ∈ _, _))
  | .processCaptureResult _ => isTrue trivial
  | .notify _ => isTrue trivial
  | .setBatchedStreams _ => isTrue trivial

instance decidableInOwnFrame : DecidablePred InOwnFrame :=
  fun _ => inferInstanceAs (Decidable (List.Subperm _ _))

/-! ## Counting the buffers returned -/

theorem returned_append (events : List Event) (event : Event)
    (first size : Nat) (id : StreamId) :
    returned (events ++ [event]) first size id =
      returned events first size id +
        ((passedIn CaptureResult.outputs event).filter fun item =>
          item.2.streamId = id ∧ first ≤ item.1 ∧
            item.1 < first + size).length := by
  rw [returned, List.flatMap_append, List.flatMap_singleton,
    List.filter_append, List.length_append]
  rfl

/-- The buffers of a result count for a batch of its frame. -/
theorem returned_append_result (events : List Event) (result : CaptureResult)
    {first size : Nat} (hfirst : first ≤ result.frameNumber)
    (hsize : result.frameNumber < first + size) (id : StreamId) :
    returned (events ++ [.processCaptureResult result]) first size id =
      returned events first size id +
        (result.outputBuffers.filter fun buffer =>
          buffer.streamId = id).length := by
  rw [returned_append, passedIn, CaptureResult.outputs, List.filter_map,
    List.length_map]
  simp [Function.comp_def, StreamBuffer.plain, hfirst, hsize]

/-- A call for another frame does not count. -/
theorem returned_append_of_not_covers (events : List Event) {event : Event}
    {first size : Nat}
    (hframe : ∀ frameNumber ∈ frameOf event,
      ¬ (first ≤ frameNumber ∧ frameNumber < first + size))
    (id : StreamId) :
    returned (events ++ [event]) first size id =
      returned events first size id := by
  rw [returned_append]
  apply Nat.add_eq_left.mpr
  rw [List.length_eq_zero_iff, List.filter_eq_nil_iff]
  intro item hitem
  rw [decide_eq_true_eq]
  rintro ⟨-, hrange⟩
  cases event with
  | processCaptureResult result =>
    obtain ⟨buffer, -, rfl⟩ := List.mem_map.mp hitem
    exact hframe result.frameNumber rfl hrange
  | notify | registerBatch | setBatchedStreams => cases hitem

/-! ## The queue of one stream -/

namespace InflightBatch

variable {batch : InflightBatch}

theorem lookup_queueBuffers (buffers : List StreamBuffer) (id : StreamId) :
    (buffers.foldl queueBuffer batch).mBatchBufs.lookup id =
      (batch.mBatchBufs.lookup id).map fun bufs =>
        { bufs with
          mBuffers := bufs.mBuffers ++ (buffers.filter fun buffer =>
            buffer.streamId = id).map .move } := by
  induction buffers generalizing batch with
  | nil => simp
  | cons buffer rest ih =>
    rw [List.foldl_cons, ih]
    cases hlookup : batch.mBatchBufs.lookup buffer.streamId with
    | none =>
      rw [queueBuffer_of_none hlookup]
      by_cases hid : buffer.streamId = id
      · rw [← hid, hlookup]
        rfl
      · simp [hid]
    | some bufs =>
      rw [queueBuffer_of_some hlookup, OrderedMap.lookup_insert]
      by_cases hid : id = buffer.streamId
      · simp [hid, hlookup]
      · simp [Function.update_of_ne hid, Ne.symm hid]

theorem lookup_sendBatchBuffers {streams : List StreamId}
    (hall : ∀ id ∈ streams, batch.batches id = true)
    (hsome : ∃ id ∈ streams, batch.pendingBuffers id ≠ [])
    (id : StreamId) :
    (batch.sendBatchBuffers streams).2.mBatchBufs.lookup id =
      if id ∈ streams then some ⟨true, []⟩
      else batch.mBatchBufs.lookup id := by
  have hsize : (streams.map fun id =>
      (batch.pendingBuffers id).length).foldl max 0 ≠ 0 := by
    obtain ⟨found, hfound, hpending⟩ := hsome
    have hmem : (batch.pendingBuffers found).length ∈
        streams.map fun id => (batch.pendingBuffers id).length :=
      List.mem_map_of_mem hfound
    have hle := ((Maximum.foldl_max_le_iff _ 0 _).mp le_rfl).2 _ hmem
    have hpos := List.length_pos_iff.mpr hpending
    omega
  have hfound : (streams.all fun id =>
      (batch.mBatchBufs.lookup id).isSome) = true :=
    List.all_eq_true.mpr hall
  rw [sendBatchBuffers, if_pos hfound]
  dsimp only
  rw [OrderedMap.lookup_foldl_insert]
  simp [hsize]

theorem mem_filledStreams {result : CaptureResult} {id : StreamId} :
    id ∈ batch.filledStreams result ↔
      batch.batches id = true ∧
        ∃ buffer ∈ result.outputBuffers, buffer.streamId = id := by
  rw [filledStreams, List.mem_map]
  constructor
  · rintro ⟨buffer, hbuffer, rfl⟩
    obtain ⟨hmem, hbatched⟩ := List.mem_filter.mp hbuffer
    exact ⟨hbatched, buffer, hmem, rfl⟩
  · rintro ⟨hbatched, buffer, hmem, rfl⟩
    exact ⟨buffer, List.mem_filter.mpr ⟨hmem, hbatched⟩, rfl⟩

/-- The last frame empties the queues of the streams that it fills. -/
theorem lookup_queueResult {result : CaptureResult}
    (haccepts : batch.Accepts result) (id : StreamId) :
    (batch.queueResult result).2.mBatchBufs.lookup id =
      if result.frameNumber = batch.mLastFrame ∧
          id ∈ batch.filledStreams result then some ⟨true, []⟩
      else (batch.mBatchBufs.lookup id).map fun bufs =>
        { bufs with
          mBuffers := bufs.mBuffers ++ (result.outputBuffers.filter
            fun buffer => buffer.streamId = id).map .move } := by
  obtain ⟨mds, hmds⟩ := batch.queueMetadata_frame result
  obtain ⟨filled, hfilled⟩ := queueBuffers_frame
    (batch.queueMetadata result) result.outputBuffers
  obtain ⟨progress, sent, hsent⟩ := sendResultMetadata_frame
    (result.outputBuffers.foldl queueBuffer (batch.queueMetadata result)) result
  rw [queueResult, sendResultBuffers]
  dsimp only
  generalize hqueued : ((result.outputBuffers.foldl queueBuffer
    (batch.queueMetadata result)).sendResultMetadata result).2 = queued
  have hlookup : ∀ id, queued.mBatchBufs.lookup id =
      (batch.mBatchBufs.lookup id).map fun bufs =>
        { bufs with
          mBuffers := bufs.mBuffers ++ (result.outputBuffers.filter
            fun buffer => buffer.streamId = id).map .move } := by
    intro id
    rw [← hqueued, hsent]
    dsimp only
    rw [lookup_queueBuffers, hmds]
  have hlast : queued.mLastFrame = batch.mLastFrame := by
    rw [← hqueued, hsent, hfilled, hmds]
  rw [hlast]
  by_cases hsend : result.frameNumber = batch.mLastFrame ∧
      batch.filledStreams result ≠ []
  · rw [if_pos hsend, lookup_sendBatchBuffers, hlookup]
    · simp only [hsend.1, true_and]
    · intro found hfound
      have hbatched := (mem_filledStreams.mp hfound).1
      rw [batches, hlookup, Option.isSome_map]
      exact hbatched
    · obtain ⟨found, hfound⟩ := List.exists_mem_of_ne_nil _ hsend.2
      obtain ⟨hbatched, buffer, hbuffer, rfl⟩ := mem_filledStreams.mp hfound
      obtain ⟨bufs, hbufs⟩ := Option.isSome_iff_exists.mp hbatched
      have hopen := (haccepts.fits buffer hbuffer bufs hbufs).1
      refine ⟨_, hfound, ?_⟩
      rw [pendingBuffers, hlookup, hbufs]
      simp only [Option.map_some, hopen, Bool.false_eq_true, if_false]
      apply List.append_ne_nil_of_right_ne_nil
      exact List.ne_nil_of_mem (List.mem_map_of_mem
        (List.mem_filter.mpr ⟨hbuffer, decide_eq_true rfl⟩))
  · rw [if_neg hsend, if_neg, hlookup]
    rintro ⟨hend, hid⟩
    exact hsend ⟨hend, List.ne_nil_of_mem hid⟩

theorem heldOutputs_eq_nil
    (hdelivered : ∀ id bufs, batch.mBatchBufs.lookup id = some bufs →
      bufs.mDelivered = true) :
    batch.heldOutputs = [] := by
  rw [heldOutputs, List.flatMap_eq_nil_iff]
  rintro ⟨id, bufs⟩ hentry
  rw [OrderedMap.mem_entries_iff] at hentry
  exact if_pos (hdelivered id bufs hentry)

/-- An error sends the buffers of all the streams of the batch. -/
theorem heldOutputs_flush {streams : List StreamId}
    (hstreams : ∀ id, batch.batches id = true ↔ id ∈ streams)
    (numPartialResults : Nat) :
    (batch.flush streams numPartialResults).2.heldOutputs = [] := by
  apply heldOutputs_eq_nil
  intro id bufs hbufs
  have hfound : (streams.all fun id =>
      (batch.mBatchBufs.lookup id).isSome) = true :=
    List.all_eq_true.mpr fun id hid => (hstreams id).mpr hid
  rw [batch.flush_eq, sendBatchBuffers, if_pos hfound] at hbufs
  dsimp only at hbufs
  rw [OrderedMap.lookup_foldl_insert] at hbufs
  split_ifs at hbufs with hid hzero
  · cases hbufs
    rfl
  · cases hbufs
    rfl
  · exact absurd ((hstreams id).mp (by rw [batches, hbufs]; rfl)) hid

theorem heldOutputs_of_allDelivered (hall : batch.allDelivered = true) :
    batch.heldOutputs = [] := by
  apply heldOutputs_eq_nil
  intro id bufs hbufs
  rw [← OrderedMap.mem_entries_iff] at hbufs
  rw [allDelivered, Bool.and_eq_true, List.all_eq_true] at hall
  exact hall.2 (id, bufs) hbufs

end InflightBatch

/-! ## The buffers of one batch -/

/-- A stream has returned all its buffers and queues none, or it queues all that
it has returned. -/
def BuffersKept (events : List Event) (batch : InflightBatch) : Prop :=
  ∀ id bufs, batch.mBatchBufs.lookup id = some bufs →
    bufs.mBuffers = [] ∧
        returned events batch.mFirstFrame batch.mBatchSize id =
          batch.mBatchSize ∨
      bufs.mDelivered = false ∧
        bufs.mBuffers.length =
          returned events batch.mFirstFrame batch.mBatchSize id ∧
        bufs.mBuffers.length ≤ batch.mBatchSize

/-- A stream occurs once among streams without repetition. -/
theorem length_filter_eq_one {streams : List StreamId}
    {buffers : List StreamBuffer} {id : StreamId}
    (hnodup : ((buffers.filter fun buffer => buffer.streamId ∈ streams).map
      StreamBuffer.streamId).Nodup)
    (hid : id ∈ (buffers.filter fun buffer => buffer.streamId ∈ streams).map
      StreamBuffer.streamId) :
    (buffers.filter fun buffer => buffer.streamId = id).length = 1 := by
  have hstream : id ∈ streams := by
    obtain ⟨buffer, hbuffer, rfl⟩ := List.mem_map.mp hid
    exact of_decide_eq_true (List.mem_filter.mp hbuffer).2
  have hone := List.count_eq_one_of_mem hnodup hid
  rw [List.count_eq_countP, List.countP_map, List.countP_filter,
    List.countP_eq_length_filter] at hone
  rw [← hone]
  congr 1
  apply List.filter_congr
  intro buffer _
  rw [Bool.eq_iff_iff]
  simp only [decide_eq_true_eq, Function.comp_apply, Bool.and_eq_true,
    beq_iff_eq]
  constructor
  · rintro rfl
    exact ⟨rfl, hstream⟩
  · exact And.left

namespace BuffersKept

variable {events : List Event} {batch : InflightBatch}

section Result

variable {result : CaptureResult} {numPartialResults : Nat}
variable {streamsToBatch : List StreamId}
variable (hkept : BuffersKept events batch)
variable (hbatch : KeptBatch events numPartialResults streamsToBatch batch)
variable (hcovers : batch.covers result.frameNumber = true)
variable (horder : ((result.outputBuffers.filter fun buffer =>
    buffer.streamId ∈ streamsToBatch).map StreamBuffer.streamId).Nodup ∧
  ∀ buffer ∈ result.outputBuffers, buffer.streamId ∈ streamsToBatch →
    result.frameNumber = batch.mFirstFrame + returned events
      batch.mFirstFrame batch.mBatchSize buffer.streamId)

include hbatch in
theorem filledStreams_eq :
    batch.filledStreams result = (result.outputBuffers.filter fun buffer =>
      buffer.streamId ∈ streamsToBatch).map StreamBuffer.streamId := by
  rw [InflightBatch.filledStreams]
  congr 1
  apply List.filter_congr
  intro buffer _
  rw [Bool.eq_iff_iff, decide_eq_true_eq]
  exact hbatch.batches_iff buffer.streamId

include hkept hbatch hcovers horder in
/-- A buffer that comes in order finds the place of its frame. -/
theorem accepts : batch.Accepts result := by
  constructor
  · rw [filledStreams_eq hbatch]
    exact horder.1
  · intro buffer hbuffer bufs hbufs
    have hstream := (hbatch.batches_iff buffer.streamId).mp
      (by rw [InflightBatch.batches, hbufs]; rfl)
    have hframe := horder.2 buffer hbuffer hstream
    have hrange := (hbatch.covers_iff _).mp hcovers
    have hwrap := hbatch.no_wrap
    rcases hkept buffer.streamId bufs hbufs with ⟨-, hall⟩ | ⟨hopen, hcount, -⟩
    · omega
    · refine ⟨hopen, ?_⟩
      rw [hcount, ← hframe]
      exact Nat.mod_eq_of_lt (by omega)

include hkept hbatch hcovers horder in
theorem queueResult :
    BuffersKept (events ++ [.processCaptureResult result])
      (batch.queueResult result).2 := by
  have haccepts := hkept.accepts hbatch hcovers horder
  have hlast := hbatch.last_eq
  obtain ⟨hfirst, hlt⟩ := (hbatch.covers_iff _).mp hcovers
  have hcount := returned_append_result events result hfirst hlt
  obtain ⟨progress, mds, bufs, hframe⟩ := batch.queueResult_frame result
  intro id bufs hbufs
  rw [InflightBatch.lookup_queueResult haccepts] at hbufs
  rw [hframe]
  dsimp only
  rw [hcount]
  split_ifs at hbufs with hsend
  · obtain ⟨hend, hid⟩ := hsend
    cases hbufs
    refine .inl ⟨rfl, ?_⟩
    have hone := length_filter_eq_one horder.1 (filledStreams_eq hbatch ▸ hid)
    obtain ⟨hbatched, buffer, hbuffer, rfl⟩ :=
      InflightBatch.mem_filledStreams.mp hid
    have hplace := horder.2 buffer hbuffer ((hbatch.batches_iff _).mp hbatched)
    omega
  · obtain ⟨old, hold, rfl⟩ := Option.map_eq_some_iff.mp hbufs
    rcases hkept id old hold with ⟨hempty, hall⟩ | ⟨hopen, hlength, hbound⟩
    · -- A stream that has returned all its buffers is not filled again.
      have hnone : (result.outputBuffers.filter fun buffer =>
          buffer.streamId = id) = [] := by
        rw [List.filter_eq_nil_iff]
        intro buffer hbuffer hid
        rw [decide_eq_true_eq] at hid
        subst hid
        have hplace := horder.2 buffer hbuffer ((hbatch.batches_iff _).mp
          (by rw [InflightBatch.batches, hold]; rfl))
        omega
      refine .inl ⟨?_, ?_⟩
      · rw [hnone, hempty]
        rfl
      · rw [hnone, hall]
        rfl
    · refine .inr ⟨hopen, ?_, ?_⟩
      · rw [List.length_append, List.length_map, hlength]
      · rw [List.length_append, List.length_map]
        by_cases hid : id ∈ batch.filledStreams result
        · have hone := length_filter_eq_one horder.1
            (filledStreams_eq hbatch ▸ hid)
          obtain ⟨hbatched, buffer, hbuffer, rfl⟩ :=
            InflightBatch.mem_filledStreams.mp hid
          have hplace := horder.2 buffer hbuffer
            ((hbatch.batches_iff _).mp hbatched)
          omega
        · have hnone : (result.outputBuffers.filter fun buffer =>
              buffer.streamId = id) = [] := by
            rw [List.filter_eq_nil_iff]
            intro buffer hbuffer heq
            exact hid (InflightBatch.mem_filledStreams.mpr
              ⟨by rw [InflightBatch.batches, hold]; rfl, buffer, hbuffer,
                of_decide_eq_true heq⟩)
          rw [hnone]
          exact hbound

end Result

theorem mono (hkept : BuffersKept events batch) {event : Event}
    (hsame : ∀ id, returned (events ++ [event]) batch.mFirstFrame
      batch.mBatchSize id = returned events batch.mFirstFrame
        batch.mBatchSize id) :
    BuffersKept (events ++ [event]) batch := by
  intro id bufs hbufs
  rw [hsame]
  exact hkept id bufs hbufs

theorem revised {observed : Observed} {event : Event}
    (hkept : Kept observed)
    (hbuffers : ∀ old ∈ observed.batcher.mInflightBatches,
      BuffersKept observed.events old)
    (horder : BuffersInOrder observed event)
    (htime : RegistersOnTime observed event)
    (hrevised : Revised observed.batcher event batch) :
    BuffersKept (observed.events ++ [event]) batch := by
  cases hrevised with
  | registered frameNumber batchSize =>
    intro id bufs hbufs
    rw [InflightBatch.lookup_new] at hbufs
    split_ifs at hbufs with hid
    cases hbufs
    have hsame := returned_append_of_not_covers observed.events
      (show ∀ found ∈ frameOf (.registerBatch frameNumber batchSize),
        ¬ (frameNumber ≤ found ∧ found < frameNumber + batchSize) by nofun)
      id
    rcases htime id hid with hnone | hall
    · exact .inr ⟨rfl, (hsame.trans hnone).symm, Nat.zero_le _⟩
    · exact .inl ⟨rfl, hsame.trans hall⟩
  | untouched _ _ hbatch hframe =>
    apply (hbuffers batch hbatch).mono
    apply returned_append_of_not_covers
    intro frameNumber hevent hrange
    have hcovers := ((hkept.queue.kept batch hbatch).covers_iff _).mpr hrange
    exact absurd (hcovers.symm.trans (hframe frameNumber hevent))
      Bool.noConfusion
  | shutter msg old hbatch =>
    obtain ⟨sent, msgs, hframe⟩ := old.queueShutter_frame msg
    rw [hframe]
    exact (hbuffers old hbatch).mono fun id => returned_append _ _ _ _ id
  | result result old hbatch hcovers =>
    have hold := hkept.queue.kept old hbatch
    obtain ⟨hfirst, hlt⟩ := (hold.covers_iff _).mp hcovers
    exact (hbuffers old hbatch).queueResult hold hcovers
      (horder _ hold.registered hfirst hlt)

end BuffersKept

/-! ## Whole runs -/

/-- The invariant behind `InOwnFrame`. -/
structure Framing (observed : Observed) : Prop where
  kept : Kept observed
  buffers_kept : ∀ batch ∈ observed.batcher.mInflightBatches,
    BuffersKept observed.events batch
  distinct : observed.batcher.mStreamsToBatch.Nodup
  buffers : outputKind.Balanced observed

namespace Framing

theorem start (numPartialResults : Nat) :
    Framing (.start numPartialResults) where
  kept := kept_start numPartialResults
  buffers_kept := nofun
  distinct := .nil
  buffers := Kind.balanced_start outputKind_lawful numPartialResults

theorem inOwnFrame {observed : Observed} (hframing : Framing observed) :
    InOwnFrame observed :=
  (List.sublist_append_left _ _).subperm.trans hframing.buffers.subperm

theorem step {observed next : Observed} {event : Event}
    (hframing : Framing observed)
    (horder : BatchesInOrder observed event)
    (htime : RegistersOnTime observed event)
    (hstep : observed.step event = some next) : Framing next := by
  obtain ⟨hregisters, hidle, hdistinct, hbuffers⟩ := horder
  have hkept := hframing.kept
  obtain ⟨staged, sent, batcher, rfl, hperforms⟩ := hkept.exists_performs hstep
  have hstaged : ∀ batch ∈ staged,
      BuffersKept (observed.events ++ [event]) batch := fun batch hbatch =>
    .revised hkept hframing.buffers_kept hbuffers htime
      (hperforms.stage.revised hkept.ascending batch hbatch)
  refine ⟨hkept.step hregisters hidle hperforms, ?_, ?_, ?_⟩
  · exact fun batch hbatch =>
      hstaged batch (hperforms.settles.sublist.subset hbatch)
  · dsimp only
    rw [hperforms.streamsToBatch]
    cases event with
    | setBatchedStreams => exact hdistinct
    | registerBatch | notify | processCaptureResult => exact hframing.distinct
  · refine hframing.buffers.step outputKind_lawful hperforms
      ⟨hframing.distinct, ?_, ?_⟩
      (fun batch _ => InflightBatch.heldOutputs_of_allDelivered)
    · rintro result rfl batch hbatch hcovers
      have hold := hkept.queue.kept batch hbatch
      obtain ⟨hfirst, hlt⟩ := (hold.covers_iff _).mp hcovers
      exact (hframing.buffers_kept batch hbatch).accepts hold hcovers
        (hbuffers _ hold.registered hfirst hlt)
    · intro batch hbatch
      exact InflightBatch.heldOutputs_flush
        (hkept.queue.kept batch hbatch).batches_iff _

end Framing

theorem buffers_delivered_in_own_frame (numPartialResults : Nat)
    (events : List Event)
    (horder : RunMeets Observed.step
      (fun observed event => BatchesInOrder observed event ∧
        RegistersOnTime observed event)
      (.start numPartialResults) events) :
    RunHolds Observed.step InOwnFrame (.start numPartialResults) events :=
  horder.runHolds (fun _ => Framing.inOwnFrame)
    (fun _ _ _ hframing hguard => hframing.step hguard.1 hguard.2)
    (.start numPartialResults)

/-- Two batched streams and another one; the second batch ends with an error. -/
def orderedBufferRun : List Event :=
  [.setBatchedStreams [0, 1],
    .registerBatch 1 2,
    .processCaptureResult
      { frameNumber := 1
        outputBuffers :=
          [⟨0, 11, .ok, none⟩, ⟨1, 21, .ok, none⟩, ⟨5, 51, .ok, none⟩] },
    .processCaptureResult
      { frameNumber := 2, outputBuffers := [⟨0, 12, .ok, none⟩] },
    .processCaptureResult
      { frameNumber := 2, outputBuffers := [⟨1, 22, .ok, none⟩] },
    .registerBatch 3 2,
    .processCaptureResult
      { frameNumber := 3, outputBuffers := [⟨0, 13, .ok, none⟩] },
    .notify (.error ⟨4, -1, 2⟩),
    .processCaptureResult
      { frameNumber := 4, outputBuffers := [⟨0, 14, .error, none⟩] }]

theorem buffers_delivered_in_own_frame_orderedBufferRun :
    RunMeets Observed.step
        (fun observed event => BatchesInOrder observed event ∧
          RegistersOnTime observed event) (.start 1) orderedBufferRun ∧
      RunHolds Observed.step InOwnFrame (.start 1) orderedBufferRun := by
  have horder : RunMeets Observed.step
      (fun observed event => BatchesInOrder observed event ∧
        RegistersOnTime observed event) (.start 1) orderedBufferRun := by
    decide +kernel
  exact ⟨horder, buffers_delivered_in_own_frame 1 orderedBufferRun horder⟩

/-- The buffer of the first frame comes back before the batch is registered. -/
def earlyBufferRun : List Event :=
  [.setBatchedStreams [0],
    .processCaptureResult
      { frameNumber := 1, outputBuffers := [⟨0, 11, .ok, none⟩] },
    .registerBatch 1 2,
    .processCaptureResult
      { frameNumber := 2, outputBuffers := [⟨0, 12, .ok, none⟩] }]

theorem early_buffer_shifts_frames :
    RunMeets Observed.step BatchesInOrder (.start 1) earlyBufferRun ∧
      ¬ RunHolds Observed.step InOwnFrame (.start 1) earlyBufferRun := by
  decide +kernel

end HardwareInterfaces.Camera

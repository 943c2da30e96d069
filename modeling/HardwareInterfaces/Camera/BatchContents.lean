import HardwareInterfaces.Camera.ResultBatcher
import HardwareInterfaces.Core.Maximum

/-!
# What a batch holds and what it sends

The data that the HAL passes to the batcher come in kinds: shutters, metadata,
output buffers, input buffers and physical camera metadata.  For each kind there
is a list of the items that a callback delivers, and for the kinds that a batch
queues a list of the items that it holds.  The functions on one batch neither
lose nor repeat an item: what they deliver together with what they hold
afterwards is what was held before and what was passed to them, up to order.

For the output buffers this needs that the frame by whose number the batch will
send a buffer is the frame of the result that returned it.
-/

namespace HardwareInterfaces.Camera

open Maximum

/-! ## Items of results and callbacks -/

namespace StreamBuffer

/-- The buffer and the number of its descriptor. -/
def plain (buffer : StreamBuffer) : StreamBuffer :=
  { buffer with
    releaseFence := buffer.releaseFence.map fun fence =>
      { fence with moved := false } }

@[simp]
theorem plain_move (buffer : StreamBuffer) : buffer.move.plain = buffer.plain := by
  simp [plain, move, Function.comp_def]

end StreamBuffer

namespace CaptureResult

variable (result : CaptureResult)

/-- Frame, partial index and metadata of a result that has metadata. -/
def metadata : List (Nat × Nat × CameraMetadata) :=
  if result.result = [] then []
  else [(result.frameNumber, result.partialResult, result.result)]

def outputs : List (Nat × StreamBuffer) :=
  result.outputBuffers.map fun buffer => (result.frameNumber, buffer.plain)

def inputs : List (Nat × StreamBuffer) :=
  if result.inputBuffer.streamId = -1 then []
  else [(result.frameNumber, result.inputBuffer.plain)]

def physical : List (Nat × PhysicalCameraMetadata) :=
  result.physicalCameraMetadata.map fun physical =>
    (result.frameNumber, physical)

end CaptureResult

namespace Callback

def shutters : Callback → List ShutterMsg
  | .notify msgs => msgs.filterMap fun
      | .shutter msg => some msg
      | .error _ => none
  | .processCaptureResult _ => []

def results : Callback → List CaptureResult
  | .notify _ => []
  | .processCaptureResult results => results

end Callback

def deliveredShutters (callbacks : List Callback) : List ShutterMsg :=
  callbacks.flatMap Callback.shutters

/-- The items of one kind in the results that the callbacks carry. -/
def delivered {Item : Type*} (view : CaptureResult → List Item)
    (callbacks : List Callback) : List Item :=
  (callbacks.flatMap Callback.results).flatMap view

section Delivered

variable {Item : Type*} (view : CaptureResult → List Item)

@[simp]
theorem delivered_nil : delivered view [] = [] := rfl

@[simp]
theorem delivered_append (left right : List Callback) :
    delivered view (left ++ right) =
      delivered view left ++ delivered view right := by
  simp [delivered]

@[simp]
theorem delivered_results (results : List CaptureResult) :
    delivered view [.processCaptureResult results] = results.flatMap view := by
  simp [delivered, Callback.results]

@[simp]
theorem delivered_notify (msgs : List NotifyMsg) :
    delivered view [.notify msgs] = [] := by
  simp [delivered, Callback.results]

@[simp]
theorem deliveredShutters_append (left right : List Callback) :
    deliveredShutters (left ++ right) =
      deliveredShutters left ++ deliveredShutters right := by
  simp [deliveredShutters]

@[simp]
theorem deliveredShutters_results (results : List CaptureResult) :
    deliveredShutters [.processCaptureResult results] = [] := by
  simp [deliveredShutters, Callback.shutters]

theorem deliveredShutters_notify_shutters (msgs : List ShutterMsg) :
    deliveredShutters [.notify (msgs.map .shutter)] = msgs := by
  simp [deliveredShutters, Callback.shutters, List.filterMap_map]

end Delivered

namespace InflightBatch

variable (batch : InflightBatch)

/-! ## Items that a batch holds -/

def heldMetadata : List (Nat × Nat × CameraMetadata) :=
  (metadataResults batch.mResultMds.entries).flatMap CaptureResult.metadata

/-- The buffers of one stream with the frames they will be sent for. -/
def framed (bufs : BufferBatch) : List (Nat × StreamBuffer) :=
  if bufs.mDelivered then []
  else bufs.mBuffers.zipIdx.map fun entry =>
    ((batch.mFirstFrame + entry.2) % 2 ^ 32, entry.1.plain)

def heldOutputs : List (Nat × StreamBuffer) :=
  batch.mBatchBufs.entries.flatMap fun entry => batch.framed entry.2

/-! ## Shutters -/

theorem shutters_sendBatchShutterCbs :
    deliveredShutters batch.sendBatchShutterCbs.1 ++
        batch.sendBatchShutterCbs.2.mShutterMsgs =
      batch.mShutterMsgs := by
  rw [sendBatchShutterCbs]
  split_ifs
  · rfl
  · rw [deliveredShutters_notify_shutters, List.append_nil]

theorem shutters_queueShutter (msg : ShutterMsg) :
    deliveredShutters (batch.queueShutter msg).1 ++
        (batch.queueShutter msg).2.mShutterMsgs =
      batch.mShutterMsgs ++ [msg] := by
  rw [queueShutter]
  split_ifs
  · exact shutters_sendBatchShutterCbs _
  · rfl

/-! ## Metadata -/

variable {lastPartialResultIdx : Nat}

theorem entries_sendBatchMetadata
    (hnew : ¬ lastPartialResultIdx ≤ batch.mPartialResultProgress) :
    (batch.sendBatchMetadata lastPartialResultIdx).2.mResultMds.entries =
      batch.mResultMds.entries.filter fun entry =>
        !decide (entry.1 ≤ lastPartialResultIdx) := by
  rw [sendBatchMetadata, if_neg hnew]
  dsimp only
  rw [OrderedMap.entries_foldl_erase]
  apply List.filter_congr
  intro entry hentry
  rw [← decide_not, decide_eq_decide]
  apply not_congr
  constructor
  · intro hmem
    obtain ⟨other, hother, hkey⟩ := List.mem_map.mp hmem
    rw [← hkey]
    exact of_decide_eq_true (List.mem_filter.mp hother).2
  · intro hle
    exact List.mem_map.mpr
      ⟨entry, List.mem_filter.mpr ⟨hentry, decide_eq_true hle⟩, rfl⟩

theorem metadata_sendBatchMetadata (lastPartialResultIdx : Nat) :
    (delivered CaptureResult.metadata
          (batch.sendBatchMetadata lastPartialResultIdx).1 ++
        (batch.sendBatchMetadata lastPartialResultIdx).2.heldMetadata).Perm
      batch.heldMetadata := by
  by_cases hnew : lastPartialResultIdx ≤ batch.mPartialResultProgress
  · rw [sendBatchMetadata, if_pos hnew]
    exact .refl _
  · have hkept := batch.entries_sendBatchMetadata hnew
    rw [heldMetadata, heldMetadata, hkept, sendBatchMetadata, if_neg hnew,
      delivered_results, metadataResults, metadataResults, metadataResults,
      ← List.flatMap_append, ← List.flatMap_append]
    exact ((List.filter_append_perm _ _).flatMap_right _).flatMap_right _

/-- What is still held after a send is above the index sent. -/
theorem lt_of_mem_heldMetadata
    (hnew : ¬ lastPartialResultIdx ≤ batch.mPartialResultProgress)
    {item : Nat × Nat × CameraMetadata} (hitem : item ∈
      (batch.sendBatchMetadata lastPartialResultIdx).2.heldMetadata) :
    lastPartialResultIdx < item.2.1 := by
  rw [heldMetadata, batch.entries_sendBatchMetadata hnew, metadataResults]
    at hitem
  obtain ⟨result, hresult, hitem⟩ := List.mem_flatMap.mp hitem
  obtain ⟨entry, hentry, hresult⟩ := List.mem_flatMap.mp hresult
  obtain ⟨md, -, rfl⟩ := List.mem_map.mp hresult
  have hlt : lastPartialResultIdx < entry.1 := by
    simpa using (List.mem_filter.mp hentry).2
  rw [CaptureResult.metadata] at hitem
  split_ifs at hitem
  · cases hitem
  · rw [List.mem_singleton.mp hitem]
    exact hlt

/-- A send empties a queue that is below its index. -/
theorem heldMetadata_sendBatchMetadata_eq_nil
    (hdone : lastPartialResultIdx ≤ batch.mPartialResultProgress →
      batch.heldMetadata = [])
    (hbelow : ∀ item ∈ batch.heldMetadata,
      item.2.1 ≤ lastPartialResultIdx) :
    (batch.sendBatchMetadata lastPartialResultIdx).2.heldMetadata = [] := by
  by_cases hnew : lastPartialResultIdx ≤ batch.mPartialResultProgress
  · rw [sendBatchMetadata, if_pos hnew]
    exact hdone hnew
  · rw [List.eq_nil_iff_forall_not_mem]
    intro item hitem
    have hlt := batch.lt_of_mem_heldMetadata hnew hitem
    have hmem := (batch.metadata_sendBatchMetadata _).subset
      (List.mem_append_right _ hitem)
    exact absurd (hbelow item hmem) (Nat.not_le.mpr hlt)

theorem mPartialResultProgress_sendBatchMetadata
    (lastPartialResultIdx : Nat) :
    (batch.sendBatchMetadata lastPartialResultIdx).2.mPartialResultProgress =
      max batch.mPartialResultProgress lastPartialResultIdx := by
  rw [sendBatchMetadata]
  split_ifs with hle
  · exact (Nat.max_eq_left hle).symm
  · exact (Nat.max_eq_right (Nat.le_of_not_le hle)).symm

theorem metadata_queueMetadata (result : CaptureResult) :
    (batch.queueMetadata result).heldMetadata.Perm
      (batch.heldMetadata ++ result.metadata) := by
  rw [queueMetadata, CaptureResult.metadata]
  split_ifs with hempty
  · rw [List.append_nil]
  · rw [heldMetadata, heldMetadata, metadataResults, metadataResults,
      List.flatMap_assoc, List.flatMap_assoc]
    apply OrderedMap.flatMap_insert_perm_append
    rw [OrderedMap.itemsAt]
    cases batch.mResultMds.lookup result.partialResult with
    | none | some => simp [CaptureResult.metadata, hempty]

/-! ## Output buffers -/

/-- Rows of a column of buffers. -/
theorem flatMap_range'_rows {Item : Type*} (row : Nat → StreamBuffer → Item)
    (buffers : List StreamBuffer) (first count : Nat)
    (hcount : buffers.length ≤ count) :
    (List.range' first count).flatMap
        (fun i => (buffers[i - first]?).toList.map (row i)) =
      (buffers.zipIdx first).map fun entry => row entry.2 entry.1 := by
  induction buffers generalizing first count with
  | nil => simp
  | cons buffer rest ih =>
    cases count with
    | zero => simp at hcount
    | succ count =>
      have hrest := ih (first + 1) count (Nat.le_of_succ_le_succ hcount)
      rw [List.range'_succ, List.flatMap_cons, List.zipIdx_cons,
        List.map_cons, ← hrest, Nat.sub_self]
      rw [List.getElem?_cons_zero, Option.toList_some, List.map_singleton,
        List.singleton_append]
      congr 1
      apply List.flatMap_congr
      intro i hi
      have hlt := (List.mem_range'_1.mp hi).1
      have hsub : i - first = i - (first + 1) + 1 := by omega
      rw [hsub, List.getElem?_cons_succ]

variable {streams : List StreamId}

/-- Without repeated streams a row takes one buffer from each stream. -/
theorem outBufs_of_nodup (row : Nat) {moved : List StreamId}
    (hnodup : streams.Nodup) (hmoved : ∀ id ∈ streams, id ∉ moved) :
    batch.outBufs row moved streams =
      streams.flatMap fun id =>
        ((batch.pendingBuffers id)[row]?).toList.map .move := by
  induction streams generalizing moved with
  | nil => rfl
  | cons id rest ih =>
    obtain ⟨hnotMem, hnodup⟩ := List.nodup_cons.mp hnodup
    obtain ⟨hid, hrest⟩ := List.forall_mem_cons.mp hmoved
    rw [outBufs, List.flatMap_cons]
    cases (batch.pendingBuffers id)[row]? with
    | none => exact ih hnodup hrest
    | some buffer =>
      have hmoved : ∀ other ∈ rest, other ∉ id :: moved := by
        intro other hother hmem
        rcases List.mem_cons.mp hmem with rfl | hmem
        · exact hnotMem hother
        · exact hrest other hother hmem
      dsimp only
      rw [if_neg hid, ih hnodup hmoved]
      rfl

theorem flatMap_flatMap_perm {Row Column Item : Type*} (rows : List Row)
    (columns : List Column) (cell : Row → Column → List Item) :
    (rows.flatMap fun row => columns.flatMap fun column =>
        cell row column).Perm
      (columns.flatMap fun column => rows.flatMap fun row =>
        cell row column) := by
  induction columns with
  | nil => simp
  | cons column rest ih =>
    simp only [List.flatMap_cons]
    exact (List.flatMap_append_perm rows _ _).symm.trans (ih.append_left _)

theorem itemsAt_framed (streamId : StreamId) :
    batch.mBatchBufs.itemsAt (fun entry => batch.framed entry.2) streamId =
      (batch.pendingBuffers streamId).zipIdx.map fun entry =>
        ((batch.mFirstFrame + entry.2) % 2 ^ 32, entry.1.plain) := by
  rw [OrderedMap.itemsAt, pendingBuffers]
  cases batch.mBatchBufs.lookup streamId with
  | none => rfl
  | some bufs =>
    simp only [Option.map_some, Option.getD_some, framed]
    split_ifs <;> rfl

/-- The rows sent for some streams are the columns of the streams. -/
theorem outputs_rows_perm (hnodup : streams.Nodup) {count : Nat}
    (hcount : ∀ id ∈ streams, (batch.pendingBuffers id).length ≤ count) :
    (((List.range count).map fun row : Nat =>
        { frameNumber := (batch.mFirstFrame + row) % 2 ^ 32
          outputBuffers := (batch.outBufs row [] streams).map .move :
          CaptureResult }).flatMap CaptureResult.outputs).Perm
      (streams.flatMap (batch.mBatchBufs.itemsAt
        fun entry => batch.framed entry.2)) := by
  let cell (row : Nat) (id : StreamId) : List (Nat × StreamBuffer) :=
    ((batch.pendingBuffers id)[row]?).toList.map fun buffer =>
      ((batch.mFirstFrame + row) % 2 ^ 32, buffer.plain)
  have hrows : ((List.range count).map fun row : Nat =>
      { frameNumber := (batch.mFirstFrame + row) % 2 ^ 32
        outputBuffers := (batch.outBufs row [] streams).map .move :
        CaptureResult }).flatMap CaptureResult.outputs =
      (List.range count).flatMap fun row => streams.flatMap fun id =>
        cell row id := by
    rw [List.flatMap_map]
    apply List.flatMap_congr
    intro row _
    rw [CaptureResult.outputs, outBufs_of_nodup batch row hnodup (by simp)]
    simp only [cell, List.map_flatMap, List.map_map, Function.comp_def,
      StreamBuffer.plain_move]
  have hcolumns : (streams.flatMap fun id =>
      (List.range count).flatMap fun row => cell row id) =
      streams.flatMap (batch.mBatchBufs.itemsAt
        fun entry => batch.framed entry.2) := by
    apply List.flatMap_congr
    intro id hid
    rw [itemsAt_framed, List.range_eq_range']
    exact flatMap_range'_rows (fun row buffer =>
      ((batch.mFirstFrame + row) % 2 ^ 32, buffer.plain)) _ 0 count
        (hcount id hid)
  rw [hrows, ← hcolumns]
  exact flatMap_flatMap_perm _ _ _

theorem outputs_sendBatchBuffers (hnodup : streams.Nodup) :
    (delivered CaptureResult.outputs (batch.sendBatchBuffers streams).1 ++
        (batch.sendBatchBuffers streams).2.heldOutputs).Perm
      batch.heldOutputs := by
  rw [sendBatchBuffers]
  split_ifs with hall
  · dsimp only
    generalize hsize : (streams.map fun id =>
      (batch.pendingBuffers id).length).foldl max 0 = count
    have hcount : ∀ id ∈ streams,
        (batch.pendingBuffers id).length ≤ count := by
      intro id hid
      exact ((foldl_max_le_iff _ 0 count).mp (le_of_eq hsize)).2 _
        (List.mem_map_of_mem hid)
    have hrows := outputs_rows_perm batch hnodup hcount
    let sent (id : StreamId) : BufferBatch :=
      if count = 0 then
        { (batch.mBatchBufs.lookup id).getD {} with mDelivered := true }
      else ⟨true, []⟩
    have hempty : ∀ id ∈ streams, batch.framed (sent id) = [] := by
      intro id _
      simp only [sent]
      split_ifs <;> rfl
    have hgone := OrderedMap.flatMap_foldl_insert_perm
      (fun entry => batch.framed entry.2) batch.mBatchBufs hnodup sent hempty
    refine .trans (.append_right _ ?_) hgone.symm
    refine .trans (.of_eq ?_) hrows
    split_ifs with hzero
    · simp [hzero]
    · rw [delivered_results]
  · exact .refl _

/-- The buffer will be sent for the frame, if the batch queues its stream. -/
def Fits (frameNumber : Nat) (buffer : StreamBuffer) : Prop :=
  ∀ bufs, batch.mBatchBufs.lookup buffer.streamId = some bufs →
    bufs.mDelivered = false ∧
      (batch.mFirstFrame + bufs.mBuffers.length) % 2 ^ 32 = frameNumber

variable {batch}

variable {buffer : StreamBuffer}

theorem queueBuffer_of_none
    (hlookup : batch.mBatchBufs.lookup buffer.streamId = none) :
    batch.queueBuffer buffer = batch := by
  rw [queueBuffer, hlookup]

theorem queueBuffer_of_some {bufs : BufferBatch}
    (hlookup : batch.mBatchBufs.lookup buffer.streamId = some bufs) :
    batch.queueBuffer buffer =
      { batch with
        mBatchBufs := batch.mBatchBufs.insert buffer.streamId
          { bufs with mBuffers := bufs.mBuffers ++ [buffer.move] } } := by
  rw [queueBuffer, hlookup]

theorem batches_queueBuffer (buffer : StreamBuffer) :
    (batch.queueBuffer buffer).batches = batch.batches := by
  funext id
  cases hlookup : batch.mBatchBufs.lookup buffer.streamId with
  | none => rw [queueBuffer_of_none hlookup]
  | some bufs =>
    rw [queueBuffer_of_some hlookup, batches, batches, OrderedMap.lookup_insert]
    by_cases hid : id = buffer.streamId
    · rw [hid, Function.update_self, hlookup]
      rfl
    · rw [Function.update_of_ne hid]

theorem batches_queueBuffers (buffers : List StreamBuffer) :
    (buffers.foldl queueBuffer batch).batches = batch.batches := by
  induction buffers generalizing batch with
  | nil => rfl
  | cons buffer rest ih =>
    rw [List.foldl_cons, ih, batches_queueBuffer]

theorem batches_sendBatchBuffers (streams : List StreamId) :
    (batch.sendBatchBuffers streams).2.batches = batch.batches := by
  rw [sendBatchBuffers]
  split_ifs with hall
  · funext id
    simp only [batches]
    rw [OrderedMap.lookup_foldl_insert]
    by_cases hid : id ∈ streams
    · rw [if_pos hid]
      exact (List.all_eq_true.mp hall id hid).symm
    · rw [if_neg hid]
  · rfl

theorem outputs_queueBuffer {frameNumber : Nat}
    (hfits : batch.Fits frameNumber buffer) :
    (batch.queueBuffer buffer).heldOutputs.Perm
      (batch.heldOutputs ++
        if batch.batches buffer.streamId then [(frameNumber, buffer.plain)]
        else []) := by
  cases hlookup : batch.mBatchBufs.lookup buffer.streamId with
  | none => simp [queueBuffer_of_none hlookup, batches, hlookup]
  | some bufs =>
    obtain ⟨hdelivered, hframe⟩ := hfits bufs hlookup
    rw [queueBuffer_of_some hlookup, if_pos (by simp [batches, hlookup]),
      ← hframe]
    apply OrderedMap.flatMap_insert_perm_append
    simp only [OrderedMap.itemsAt, hlookup, Option.map_some,
      Option.getD_some, framed, hdelivered]
    simp [List.zipIdx_append]

/-- Queueing the buffers of one frame, at most one for each batched stream. -/
theorem outputs_queueBuffers {frameNumber : Nat}
    {buffers : List StreamBuffer}
    (hnodup : ((buffers.filter fun buffer =>
      batch.batches buffer.streamId).map StreamBuffer.streamId).Nodup)
    (hfits : ∀ buffer ∈ buffers, batch.Fits frameNumber buffer) :
    (buffers.foldl queueBuffer batch).heldOutputs.Perm
      (batch.heldOutputs ++ (buffers.filter fun buffer =>
        batch.batches buffer.streamId).map fun buffer =>
          (frameNumber, buffer.plain)) := by
  induction buffers generalizing batch with
  | nil => simp
  | cons buffer rest ih =>
    obtain ⟨hfirst, hrest⟩ := List.forall_mem_cons.mp hfits
    have hqueued := outputs_queueBuffer hfirst
    cases hlookup : batch.mBatchBufs.lookup buffer.streamId with
    | none =>
      have hskip : ¬ batch.batches buffer.streamId = true := by
        simp [batches, hlookup]
      have hfilter : (buffer :: rest).filter
          (fun buffer => batch.batches buffer.streamId) =
            rest.filter fun buffer => batch.batches buffer.streamId :=
        List.filter_cons_of_neg hskip
      rw [hfilter] at hnodup ⊢
      rw [List.foldl_cons, queueBuffer_of_none hlookup]
      exact ih hnodup hrest
    | some bufs =>
      have hkept : batch.batches buffer.streamId = true := by
        simp [batches, hlookup]
      have hfilter : (buffer :: rest).filter
          (fun buffer => batch.batches buffer.streamId) = buffer ::
            rest.filter fun buffer => batch.batches buffer.streamId :=
        List.filter_cons_of_pos hkept
      rw [hfilter, List.map_cons, List.nodup_cons] at hnodup
      -- The other buffers belong to other streams.
      have hothers : ∀ other ∈ rest,
          (batch.queueBuffer buffer).Fits frameNumber other := by
        intro other hother found hfound
        have hbatched : batch.batches other.streamId = true := by
          rw [← batches_queueBuffer buffer, batches, hfound]
          rfl
        have hne : other.streamId ≠ buffer.streamId := by
          intro heq
          apply hnodup.1
          rw [← heq]
          exact List.mem_map_of_mem (List.mem_filter.mpr ⟨hother, hbatched⟩)
        rw [queueBuffer_of_some hlookup] at hfound ⊢
        rw [OrderedMap.lookup_insert, Function.update_of_ne hne] at hfound
        exact hrest other hother found hfound
      have htail := @ih (batch.queueBuffer buffer)
        (by rw [batches_queueBuffer]; exact hnodup.2) hothers
      rw [batches_queueBuffer] at htail
      rw [if_pos hkept] at hqueued
      rw [List.foldl_cons, hfilter, List.map_cons,
        ← List.singleton_append, ← List.append_assoc]
      exact htail.trans (hqueued.append_right _)

/-! ## Frames -/

section Frames

variable (batch)

theorem sendBatchShutterCbs_frame :
    ∃ sent msgs, batch.sendBatchShutterCbs.2 =
      { batch with mShutterDelivered := sent, mShutterMsgs := msgs } := by
  rw [sendBatchShutterCbs]
  split_ifs
  · exact ⟨_, _, rfl⟩
  · exact ⟨_, _, rfl⟩

theorem sendBatchBuffers_frame (streams : List StreamId) :
    ∃ bufs, (batch.sendBatchBuffers streams).2 =
      { batch with mBatchBufs := bufs } := by
  rw [sendBatchBuffers]
  split_ifs
  · exact ⟨_, rfl⟩
  · exact ⟨_, rfl⟩

theorem sendBatchMetadata_frame (lastPartialResultIdx : Nat) :
    ∃ progress mds, (batch.sendBatchMetadata lastPartialResultIdx).2 =
      { batch with mPartialResultProgress := progress, mResultMds := mds } := by
  rw [sendBatchMetadata]
  split_ifs
  · exact ⟨_, _, rfl⟩
  · exact ⟨_, _, rfl⟩

variable (result : CaptureResult)

theorem queueMetadata_frame :
    ∃ mds, batch.queueMetadata result = { batch with mResultMds := mds } := by
  rw [queueMetadata]
  split_ifs
  · exact ⟨_, rfl⟩
  · exact ⟨_, rfl⟩

theorem queueBuffers_frame (buffers : List StreamBuffer) :
    ∃ bufs, buffers.foldl queueBuffer batch =
      { batch with mBatchBufs := bufs } := by
  induction buffers generalizing batch with
  | nil => exact ⟨_, rfl⟩
  | cons buffer rest ih =>
    obtain ⟨bufs, hrest⟩ := ih (batch.queueBuffer buffer)
    rw [List.foldl_cons, hrest, queueBuffer]
    cases batch.mBatchBufs.lookup buffer.streamId with
    | none | some => exact ⟨bufs, rfl⟩

/-- A call on a batch only changes what it holds and what it has delivered. -/
theorem queueShutter_frame (msg : ShutterMsg) :
    ∃ sent msgs, (batch.queueShutter msg).2 =
      { batch with mShutterDelivered := sent, mShutterMsgs := msgs } := by
  rw [queueShutter]
  split_ifs
  · obtain ⟨sent, msgs, hframe⟩ := sendBatchShutterCbs_frame
      { batch with mShutterMsgs := batch.mShutterMsgs ++ [msg] }
    exact ⟨sent, msgs, hframe⟩
  · exact ⟨_, _, rfl⟩

theorem sendResultMetadata_frame :
    ∃ progress mds, (batch.sendResultMetadata result).2 =
      { batch with mPartialResultProgress := progress, mResultMds := mds } := by
  rw [sendResultMetadata]
  split_ifs
  · exact sendBatchMetadata_frame batch _
  · exact ⟨_, _, rfl⟩

theorem sendResultBuffers_frame (streams : List StreamId) :
    ∃ bufs, (batch.sendResultBuffers result streams).2 =
      { batch with mBatchBufs := bufs } := by
  rw [sendResultBuffers]
  split_ifs
  · exact sendBatchBuffers_frame batch streams
  · exact ⟨_, rfl⟩

theorem queueResult_frame :
    ∃ progress mds bufs, (batch.queueResult result).2 =
      { batch with
        mPartialResultProgress := progress
        mResultMds := mds
        mBatchBufs := bufs } := by
  obtain ⟨_, hqueued⟩ := queueMetadata_frame batch result
  obtain ⟨_, hfilled⟩ := queueBuffers_frame
    (batch.queueMetadata result) result.outputBuffers
  obtain ⟨progress, mds, hsent⟩ := sendResultMetadata_frame
    (result.outputBuffers.foldl queueBuffer (batch.queueMetadata result)) result
  obtain ⟨bufs, hlast⟩ := sendResultBuffers_frame
    ((result.outputBuffers.foldl queueBuffer
      (batch.queueMetadata result)).sendResultMetadata result).2 result
    (batch.filledStreams result)
  refine ⟨progress, mds, bufs, ?_⟩
  rw [queueResult]
  dsimp only
  rw [hlast, hsent, hfilled, hqueued]

theorem sendResultMetadata_bufs (result : CaptureResult)
    (bufs : OrderedMap StreamId BufferBatch) :
    ({ batch with mBatchBufs := bufs }.sendResultMetadata result).2 =
      { (batch.sendResultMetadata result).2 with mBatchBufs := bufs } := by
  rw [sendResultMetadata, sendResultMetadata, sendBatchMetadata,
    sendBatchMetadata]
  split_ifs <;> rfl

/-- The metadata of a batch after a result. -/
theorem queueResult_metadata :
    ∃ bufs, (batch.queueResult result).2 =
      { ((batch.queueMetadata result).sendResultMetadata result).2 with
        mBatchBufs := bufs } := by
  obtain ⟨filled, hfilled⟩ := queueBuffers_frame
    (batch.queueMetadata result) result.outputBuffers
  obtain ⟨bufs, hlast⟩ := sendResultBuffers_frame
    ((result.outputBuffers.foldl queueBuffer
      (batch.queueMetadata result)).sendResultMetadata result).2 result
    (batch.filledStreams result)
  refine ⟨bufs, ?_⟩
  rw [queueResult]
  dsimp only
  rw [hlast, hfilled, sendResultMetadata_bufs]

theorem batches_queueResult :
    (batch.queueResult result).2.batches = batch.batches := by
  obtain ⟨mds, hmds⟩ := queueMetadata_frame batch result
  obtain ⟨progress, sent, hsent⟩ := sendResultMetadata_frame
    (result.outputBuffers.foldl queueBuffer (batch.queueMetadata result)) result
  have hqueued : ((result.outputBuffers.foldl queueBuffer
      (batch.queueMetadata result)).sendResultMetadata result).2.batches =
        batch.batches := by
    calc _ = (result.outputBuffers.foldl queueBuffer
            (batch.queueMetadata result)).batches := by rw [hsent]; rfl
      _ = (batch.queueMetadata result).batches := batches_queueBuffers _
      _ = batch.batches := by rw [hmds]; rfl
  rw [queueResult, sendResultBuffers]
  dsimp only
  split_ifs
  · rw [batches_sendBatchBuffers, hqueued]
  · exact hqueued

end Frames

/-! ## Kinds that a send does not touch -/

section Untouched

variable {Item : Type*} {view : CaptureResult → List Item}

section

variable (hview : ∀ frameNumber md partialResult,
    view { frameNumber := frameNumber, result := md,
           partialResult := partialResult } = [])
  (batch : InflightBatch)
include hview

theorem delivered_sendBatchMetadata (lastPartialResultIdx : Nat) :
    delivered view (batch.sendBatchMetadata lastPartialResultIdx).1 = [] := by
  rw [sendBatchMetadata]
  split_ifs
  · rfl
  · rw [delivered_results, List.flatMap_eq_nil_iff]
    intro result hresult
    obtain ⟨entry, -, hentry⟩ := List.mem_flatMap.mp hresult
    obtain ⟨md, -, rfl⟩ := List.mem_map.mp hentry
    exact hview md.1 md.2 entry.1

theorem delivered_sendResultMetadata (result : CaptureResult) :
    delivered view (batch.sendResultMetadata result).1 = [] := by
  rw [sendResultMetadata]
  split_ifs
  · exact delivered_sendBatchMetadata hview batch _
  · rfl

end

variable (hview : ∀ frameNumber (buffers : List StreamBuffer),
    view { frameNumber := frameNumber,
           outputBuffers := buffers.map .move } = [])
  (batch : InflightBatch)
include hview

theorem delivered_sendBatchBuffers (streams : List StreamId) :
    delivered view (batch.sendBatchBuffers streams).1 = [] := by
  rw [sendBatchBuffers]
  split_ifs
  · dsimp only
    split_ifs
    · rfl
    · simp [List.flatMap_map, hview]
  · rfl

theorem delivered_sendResultBuffers (result : CaptureResult)
    (streams : List StreamId) :
    delivered view (batch.sendResultBuffers result streams).1 = [] := by
  rw [sendResultBuffers]
  split_ifs
  · exact delivered_sendBatchBuffers hview batch streams
  · rfl

end Untouched

/-! ## Whole calls -/

section Calls

variable (batch)

variable (view : CaptureResult → List Item) (result : CaptureResult)

theorem metadata_sendResultMetadata :
    (delivered CaptureResult.metadata (batch.sendResultMetadata result).1 ++
        (batch.sendResultMetadata result).2.heldMetadata).Perm
      batch.heldMetadata := by
  rw [sendResultMetadata]
  split_ifs
  · exact metadata_sendBatchMetadata batch _
  · exact .refl _

theorem outputs_sendResultBuffers {streams : List StreamId}
    (hnodup : streams.Nodup) :
    (delivered CaptureResult.outputs
          (batch.sendResultBuffers result streams).1 ++
        (batch.sendResultBuffers result streams).2.heldOutputs).Perm
      batch.heldOutputs := by
  rw [sendResultBuffers]
  split_ifs
  · exact outputs_sendBatchBuffers batch hnodup
  · exact .refl _

variable {Item : Type*}

/-- The result that is sent at once carries what the batch does not queue. -/
theorem delivered_nonBatched
    (hempty : view { frameNumber := result.frameNumber,
                     inputBuffer := result.inputBuffer.move } = [] ∨
      result.inputBuffer.streamId ≠ -1) :
    delivered view ((batch.nonBatchedResult result).toList.map
        fun nonBatched => .processCaptureResult [nonBatched]) =
      view
        { frameNumber := result.frameNumber
          outputBuffers := ((result.outputBuffers.filter fun buffer =>
            !batch.batches buffer.streamId).map .move).map .move
          inputBuffer := result.inputBuffer.move } := by
  rw [nonBatchedResult]
  split_ifs with hsome
  · simp
  · rw [not_or, not_ne_iff, not_ne_iff] at hsome
    rcases hempty with hempty | hinput
    · rw [hsome.1]
      exact hempty.symm
    · exact absurd hsome.2 hinput

theorem metadata_queueResult :
    (delivered CaptureResult.metadata (batch.queueResult result).1 ++
        (batch.queueResult result).2.heldMetadata).Perm
      (batch.heldMetadata ++ result.metadata) := by
  obtain ⟨bufs, hlast⟩ := sendResultBuffers_frame
    ((result.outputBuffers.foldl queueBuffer
      (batch.queueMetadata result)).sendResultMetadata result).2 result
    (batch.filledStreams result)
  obtain ⟨filled, hfilled⟩ := queueBuffers_frame
    (batch.queueMetadata result) result.outputBuffers
  rw [queueResult]
  dsimp only
  rw [delivered_append, delivered_append,
    delivered_nonBatched batch _ result (.inl rfl),
    delivered_sendResultBuffers (fun _ _ => rfl), List.append_nil, hlast]
  refine (metadata_sendResultMetadata _ result).trans ?_
  rw [hfilled]
  exact metadata_queueMetadata batch result

/-- Every batched stream of the result occurs once, and its buffer will be sent
for the frame of the result. -/
structure Accepts (result : CaptureResult) : Prop where
  nodup : (batch.filledStreams result).Nodup
  fits : ∀ buffer ∈ result.outputBuffers,
    batch.Fits result.frameNumber buffer

theorem outputs_queueResult {result : CaptureResult}
    (haccepts : batch.Accepts result) :
    (delivered CaptureResult.outputs (batch.queueResult result).1 ++
        (batch.queueResult result).2.heldOutputs).Perm
      (batch.heldOutputs ++ result.outputs) := by
  obtain ⟨mds, hmds⟩ := queueMetadata_frame batch result
  have hqueued := @outputs_queueBuffers (batch.queueMetadata result)
    result.frameNumber result.outputBuffers
    (by rw [hmds]; exact haccepts.nodup)
    (by rw [hmds]; exact haccepts.fits)
  obtain ⟨progress, sent, hsent⟩ := sendResultMetadata_frame
    (result.outputBuffers.foldl queueBuffer (batch.queueMetadata result)) result
  have hheld : ((result.outputBuffers.foldl queueBuffer
      (batch.queueMetadata result)).sendResultMetadata result).2.heldOutputs =
      (result.outputBuffers.foldl queueBuffer
        (batch.queueMetadata result)).heldOutputs := by
    rw [hsent]
    rfl
  have hbuffers := outputs_sendResultBuffers
    ((result.outputBuffers.foldl queueBuffer
      (batch.queueMetadata result)).sendResultMetadata result).2 result
    haccepts.nodup
  rw [hheld] at hbuffers
  rw [queueResult]
  dsimp only
  rw [delivered_append, delivered_append,
    delivered_nonBatched batch _ result (.inl rfl),
    delivered_sendResultMetadata (fun _ _ _ => rfl), List.append_nil,
    List.append_assoc]
  refine (hbuffers.append_left _).trans ((hqueued.append_left _).trans ?_)
  refine List.perm_append_comm.trans ?_
  simp only [hmds, List.append_assoc, CaptureResult.outputs, List.map_map,
    Function.comp_def, StreamBuffer.plain_move, ← List.map_append]
  exact ((List.filter_append_perm _ _).map _).append_left _

theorem inputs_queueResult :
    delivered CaptureResult.inputs (batch.queueResult result).1 =
      result.inputs := by
  rw [queueResult]
  dsimp only
  rw [delivered_append, delivered_append,
    delivered_sendResultMetadata (fun _ _ _ => rfl),
    delivered_sendResultBuffers (fun _ _ => rfl), List.append_nil,
    List.append_nil, delivered_nonBatched]
  · rw [CaptureResult.inputs, StreamBuffer.plain_move]
    rfl
  · by_cases hinput : result.inputBuffer.streamId = -1
    · exact .inl (if_pos hinput)
    · exact .inr hinput

/-- A batched result delivers nothing of a kind that is neither among metadata
nor among buffers that have been moved. -/
theorem delivered_queueResult {view : CaptureResult → List Item}
    (hmetadata : ∀ frameNumber md partialResult,
      view { frameNumber := frameNumber, result := md,
             partialResult := partialResult } = [])
    (hmoved : ∀ frameNumber (buffers : List StreamBuffer)
      (input : StreamBuffer),
      view { frameNumber := frameNumber, outputBuffers := buffers.map .move,
             inputBuffer := input.move } = []) :
    delivered view (batch.queueResult result).1 = [] := by
  rw [queueResult]
  dsimp only
  rw [delivered_append, delivered_append,
    delivered_sendResultMetadata hmetadata,
    delivered_sendResultBuffers fun frameNumber buffers =>
      hmoved frameNumber buffers .absent,
    List.append_nil, List.append_nil,
    delivered_nonBatched batch view result (.inl (hmoved _ [] _))]
  exact hmoved _ _ _

theorem shutters_sendBatchBuffers (streams : List StreamId) :
    deliveredShutters (batch.sendBatchBuffers streams).1 = [] := by
  rw [sendBatchBuffers]
  split_ifs
  · dsimp only
    split_ifs
    · rfl
    · exact deliveredShutters_results _
  · rfl

theorem shutters_sendBatchMetadata (lastPartialResultIdx : Nat) :
    deliveredShutters (batch.sendBatchMetadata lastPartialResultIdx).1 =
      [] := by
  rw [sendBatchMetadata]
  split_ifs
  · rfl
  · exact deliveredShutters_results _

theorem shutters_queueResult :
    deliveredShutters (batch.queueResult result).1 = [] := by
  rw [queueResult]
  dsimp only
  rw [deliveredShutters_append, deliveredShutters_append, nonBatchedResult,
    sendResultMetadata, sendResultBuffers]
  have hsingle : ∀ single : Option CaptureResult,
      deliveredShutters (single.toList.map fun nonBatched =>
        .processCaptureResult [nonBatched]) = [] := by
    rintro (_ | single)
    · rfl
    · exact deliveredShutters_results _
  rw [hsingle]
  split_ifs
  · rw [shutters_sendBatchMetadata, shutters_sendBatchBuffers]
    rfl
  · rw [shutters_sendBatchMetadata]
    rfl
  · rw [shutters_sendBatchBuffers]
    rfl
  · rfl

theorem delivered_sendBatchShutterCbs :
    delivered view batch.sendBatchShutterCbs.1 = [] := by
  rw [sendBatchShutterCbs]
  split_ifs
  · rfl
  · exact delivered_notify view _

theorem delivered_queueShutter (msg : ShutterMsg) :
    delivered view (batch.queueShutter msg).1 = [] := by
  rw [queueShutter]
  split_ifs
  · exact delivered_sendBatchShutterCbs _ view
  · rfl

/-! ## Errors -/

theorem shutters_flush (streams : List StreamId) (numPartialResults : Nat) :
    deliveredShutters (batch.flush streams numPartialResults).1 ++
        (batch.flush streams numPartialResults).2.mShutterMsgs =
      batch.mShutterMsgs := by
  obtain ⟨bufs, hbufs⟩ := sendBatchBuffers_frame
    batch.sendBatchShutterCbs.2 streams
  obtain ⟨progress, mds, hmds⟩ := sendBatchMetadata_frame
    (batch.sendBatchShutterCbs.2.sendBatchBuffers streams).2 numPartialResults
  rw [flush]
  dsimp only
  rw [deliveredShutters_append, deliveredShutters_append,
    shutters_sendBatchBuffers, shutters_sendBatchMetadata, List.append_nil,
    List.append_nil, hmds, hbufs]
  exact shutters_sendBatchShutterCbs batch

theorem metadata_flush (streams : List StreamId) (numPartialResults : Nat) :
    (delivered CaptureResult.metadata
          (batch.flush streams numPartialResults).1 ++
        (batch.flush streams numPartialResults).2.heldMetadata).Perm
      batch.heldMetadata := by
  obtain ⟨sent, msgs, hmsgs⟩ := sendBatchShutterCbs_frame batch
  obtain ⟨bufs, hbufs⟩ := sendBatchBuffers_frame
    batch.sendBatchShutterCbs.2 streams
  have hmetadata := metadata_sendBatchMetadata
    (batch.sendBatchShutterCbs.2.sendBatchBuffers streams).2 numPartialResults
  have hheld : (batch.sendBatchShutterCbs.2.sendBatchBuffers
      streams).2.heldMetadata = batch.heldMetadata := by
    rw [hbufs, hmsgs]
    rfl
  rw [hheld] at hmetadata
  rw [flush]
  dsimp only
  rw [delivered_append, delivered_append, delivered_sendBatchShutterCbs,
    delivered_sendBatchBuffers (fun _ _ => rfl), List.append_nil,
    List.nil_append]
  exact hmetadata

theorem outputs_flush {streams : List StreamId} (hnodup : streams.Nodup)
    (numPartialResults : Nat) :
    (delivered CaptureResult.outputs
          (batch.flush streams numPartialResults).1 ++
        (batch.flush streams numPartialResults).2.heldOutputs).Perm
      batch.heldOutputs := by
  obtain ⟨sent, msgs, hmsgs⟩ := sendBatchShutterCbs_frame batch
  obtain ⟨progress, mds, hmds⟩ := sendBatchMetadata_frame
    (batch.sendBatchShutterCbs.2.sendBatchBuffers streams).2 numPartialResults
  have hbuffers := outputs_sendBatchBuffers batch.sendBatchShutterCbs.2 hnodup
  have hheld : batch.sendBatchShutterCbs.2.heldOutputs = batch.heldOutputs := by
    rw [hmsgs]
    rfl
  rw [hheld] at hbuffers
  rw [flush]
  dsimp only
  rw [delivered_append, delivered_append, delivered_sendBatchShutterCbs,
    delivered_sendBatchMetadata (fun _ _ _ => rfl), List.append_nil,
    List.nil_append, hmds]
  exact hbuffers

theorem mBatchBufs_sendBatchBuffers {other : InflightBatch}
    (hbufs : other.mBatchBufs = batch.mBatchBufs) (streams : List StreamId) :
    (other.sendBatchBuffers streams).2.mBatchBufs =
      (batch.sendBatchBuffers streams).2.mBatchBufs := by
  have hpending : other.pendingBuffers = batch.pendingBuffers := by
    funext id
    rw [pendingBuffers, pendingBuffers, hbufs]
  rw [sendBatchBuffers, sendBatchBuffers, hbufs, hpending]
  split_ifs
  · rfl
  · exact hbufs

theorem flush_eq (streams : List StreamId) (numPartialResults : Nat) :
    (batch.flush streams numPartialResults).2 =
      { (batch.sendBatchMetadata numPartialResults).2 with
        mShutterDelivered := batch.sendBatchShutterCbs.2.mShutterDelivered
        mShutterMsgs := batch.sendBatchShutterCbs.2.mShutterMsgs
        mBatchBufs := (batch.sendBatchBuffers streams).2.mBatchBufs
        mRemoved := true } := by
  obtain ⟨sent, msgs, hmsgs⟩ := sendBatchShutterCbs_frame batch
  obtain ⟨bufs, hbufs⟩ := sendBatchBuffers_frame
    batch.sendBatchShutterCbs.2 streams
  have hsame : bufs = (batch.sendBatchBuffers streams).2.mBatchBufs := by
    rw [← mBatchBufs_sendBatchBuffers batch
      (show batch.sendBatchShutterCbs.2.mBatchBufs = _ by rw [hmsgs]) streams,
      hbufs]
  rw [← hsame, flush]
  dsimp only
  rw [hbufs, hmsgs, sendBatchMetadata, sendBatchMetadata]
  split_ifs <;> rfl

/-- An error sends no items of the kinds that are not queued. -/
theorem delivered_flush {view : CaptureResult → List Item}
    (hmetadata : ∀ frameNumber md partialResult,
      view { frameNumber := frameNumber, result := md,
             partialResult := partialResult } = [])
    (hbuffers : ∀ frameNumber (buffers : List StreamBuffer),
      view { frameNumber := frameNumber,
             outputBuffers := buffers.map .move } = [])
    (streams : List StreamId) (numPartialResults : Nat) :
    delivered view (batch.flush streams numPartialResults).1 = [] := by
  rw [flush]
  dsimp only
  rw [delivered_append, delivered_append, delivered_sendBatchShutterCbs,
    delivered_sendBatchBuffers hbuffers,
    delivered_sendBatchMetadata hmetadata]
  rfl

end Calls

end InflightBatch

end HardwareInterfaces.Camera

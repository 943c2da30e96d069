import HardwareInterfaces.Core.OrderedMap
import HardwareInterfaces.Core.Transition

/-!
# The result batcher

Requests that the framework submits together form a batch.  While a batch is in
flight, the shutters, the metadata and the buffers of the batched streams of its
frames are queued and sent to the framework together: the shutters with the last
shutter, the rest with the last frame.  An error sends everything that is queued
for its batch and the earlier ones, and ends these batches.

The functions on one batch return the callbacks that they make together with the
new batch.  `ResultBatcher` runs each call of the HAL to its end before the next
one starts.  Metadata are byte strings; how they travel, through the message
queue or in the transaction itself, makes no difference to the framework and is
left out, and so is the closing of the release fences after a callback.  Frame
numbers are unsigned 32-bit numbers.

`pushStreamBuffer` and `moveStreamBuffer` take the release fence of a buffer out
of its handle by `makeFromAidl`, overwrite the handle, and put the descriptor
into another one by `makeToAidl`.  Whether it is still open then is for the
library of these conversions to say; a fence is marked when they move it.
-/

namespace HardwareInterfaces.Camera

open Transition

abbrev StreamId := Int

abbrev CameraMetadata := List UInt8

inductive BufferStatus where
  | ok
  | error
  deriving DecidableEq, Repr

/-- A file descriptor, and whether it has been moved from handle to handle. -/
structure Fence where
  descriptor : Nat
  moved : Bool := false
  deriving DecidableEq, Repr

structure StreamBuffer where
  streamId : StreamId
  bufferId : Nat
  status : BufferStatus
  releaseFence : Option Fence
  deriving DecidableEq, Repr

/-- What `pushStreamBuffer` pushes and `moveStreamBuffer` assigns. -/
def StreamBuffer.move (buffer : StreamBuffer) : StreamBuffer :=
  { buffer with
    releaseFence := buffer.releaseFence.map fun fence =>
      { fence with moved := true } }

/-- The input buffer of a result that has none. -/
def StreamBuffer.absent : StreamBuffer := ⟨-1, 0, .ok, none⟩

structure PhysicalCameraMetadata where
  physicalCameraId : String
  metadata : CameraMetadata
  deriving DecidableEq, Repr

structure CaptureResult where
  frameNumber : Nat
  result : CameraMetadata := []
  outputBuffers : List StreamBuffer := []
  inputBuffer : StreamBuffer := .absent
  partialResult : Nat := 0
  physicalCameraMetadata : List PhysicalCameraMetadata := []
  deriving DecidableEq, Repr

structure ShutterMsg where
  frameNumber : Nat
  timestamp : Int
  deriving DecidableEq, Repr

structure ErrorMsg where
  frameNumber : Nat
  errorStreamId : StreamId
  errorCode : Nat
  deriving DecidableEq, Repr

inductive NotifyMsg where
  | shutter (msg : ShutterMsg)
  | error (msg : ErrorMsg)
  deriving DecidableEq, Repr

def NotifyMsg.frameNumber : NotifyMsg → Nat
  | .shutter msg => msg.frameNumber
  | .error msg => msg.frameNumber

/-- Calls to the framework. -/
inductive Callback where
  | notify (msgs : List NotifyMsg)
  | processCaptureResult (results : List CaptureResult)
  deriving DecidableEq, Repr

/-! ## One batch -/

structure BufferBatch where
  mDelivered : Bool := false
  mBuffers : List StreamBuffer := []
  deriving DecidableEq, Repr

structure InflightBatch where
  mFirstFrame : Nat
  mLastFrame : Nat
  mBatchSize : Nat
  mShutterDelivered : Bool := false
  mShutterMsgs : List ShutterMsg := []
  mBatchBufs : OrderedMap StreamId BufferBatch
  mNumPartialResults : Nat
  mPartialResultProgress : Nat := 0
  mResultMds : OrderedMap Nat (List (Nat × CameraMetadata)) := .empty
  mRemoved : Bool := false

namespace InflightBatch

/-- The batch that `registerBatch` creates. -/
def new (frameNumber batchSize numPartialResults : Nat)
    (streamsToBatch : List StreamId) : InflightBatch where
  mFirstFrame := frameNumber
  mLastFrame := (frameNumber + batchSize + (2 ^ 32 - 1)) % 2 ^ 32
  mBatchSize := batchSize
  mBatchBufs := streamsToBatch.foldl (fun bufs id => bufs.insert id {}) .empty
  mNumPartialResults := numPartialResults

variable (batch : InflightBatch)

/-- The frame is one of the batch. -/
def covers (frameNumber : Nat) : Bool :=
  decide (batch.mFirstFrame ≤ frameNumber) &&
    decide (frameNumber ≤ batch.mLastFrame)

def allDelivered : Bool :=
  batch.mShutterDelivered &&
    !decide (batch.mPartialResultProgress < batch.mNumPartialResults) &&
    batch.mBatchBufs.entries.all fun entry => entry.2.mDelivered

def sendBatchShutterCbs : List Callback × InflightBatch :=
  if batch.mShutterDelivered then ([], batch)
  else
    ([.notify (batch.mShutterMsgs.map .shutter)],
      { batch with mShutterDelivered := true, mShutterMsgs := [] })

/-- The buffers that a stream still has to deliver. -/
def pendingBuffers (streamId : StreamId) : List StreamBuffer :=
  match batch.mBatchBufs.lookup streamId with
  | none => []
  | some bufs => if bufs.mDelivered then [] else bufs.mBuffers

/-- The buffers of the `row`-th result.  A buffer is moved out of its queue, so
a stream that is listed twice gives its buffer again without the fence. -/
def outBufs (row : Nat) : List StreamId → List StreamId → List StreamBuffer
  | _, [] => []
  | moved, streamId :: streams =>
    match (batch.pendingBuffers streamId)[row]? with
    | none => outBufs row moved streams
    | some buffer =>
      (if streamId ∈ moved then { buffer with releaseFence := none }
        else buffer).move :: outBufs row (streamId :: moved) streams

/-- Nothing is sent unless all the streams belong to the batch.  The queues
carry no frame numbers: the `i`-th buffer is sent for the `i`-th frame. -/
def sendBatchBuffers (streams : List StreamId) :
    List Callback × InflightBatch :=
  if streams.all fun id => (batch.mBatchBufs.lookup id).isSome then
    let batchSize := (streams.map fun id =>
      (batch.pendingBuffers id).length).foldl max 0
    let results := (List.range batchSize).map fun row : Nat =>
      { frameNumber := (batch.mFirstFrame + row) % 2 ^ 32
        outputBuffers := (batch.outBufs row [] streams).map .move :
        CaptureResult }
    let delivered (bufs : BufferBatch) : BufferBatch :=
      if batchSize = 0 then { bufs with mDelivered := true }
      else ⟨true, []⟩
    (if batchSize = 0 then [] else [.processCaptureResult results],
      { batch with
        mBatchBufs := streams.foldl
          (fun bufs id => bufs.insert id
            (delivered ((batch.mBatchBufs.lookup id).getD {})))
          batch.mBatchBufs })
  else ([], batch)

/-- The results that carry some queued metadata. -/
def metadataResults
    (entries : List (Nat × List (Nat × CameraMetadata))) :
    List CaptureResult :=
  entries.flatMap fun entry => entry.2.map fun md =>
    { frameNumber := md.1, result := md.2, partialResult := entry.1 }

def sendBatchMetadata (lastPartialResultIdx : Nat) :
    List Callback × InflightBatch :=
  if lastPartialResultIdx ≤ batch.mPartialResultProgress then ([], batch)
  else
    let sent := batch.mResultMds.entries.filter fun entry =>
      decide (entry.1 ≤ lastPartialResultIdx)
    ([.processCaptureResult (metadataResults sent)],
      { batch with
        mPartialResultProgress := lastPartialResultIdx
        mResultMds := (sent.map Prod.fst).foldl
          (fun mds partialIdx => mds.erase partialIdx) batch.mResultMds })

/-- What an error sends of a batch. -/
def flush (streamsToBatch : List StreamId) (numPartialResults : Nat) :
    List Callback × InflightBatch :=
  let (shutters, batch) := batch.sendBatchShutterCbs
  let (buffers, batch) := batch.sendBatchBuffers streamsToBatch
  let (metadata, batch) := batch.sendBatchMetadata numPartialResults
  (shutters ++ buffers ++ metadata, { batch with mRemoved := true })

/-- The batch's part of `notify` for a shutter. -/
def queueShutter (msg : ShutterMsg) : List Callback × InflightBatch :=
  let queued := { batch with mShutterMsgs := batch.mShutterMsgs ++ [msg] }
  if msg.frameNumber = batch.mLastFrame then queued.sendBatchShutterCbs
  else ([], queued)

def queueMetadata (result : CaptureResult) : InflightBatch :=
  if result.result = [] then batch
  else
    { batch with
      mResultMds := batch.mResultMds.insert result.partialResult
        ((batch.mResultMds.lookup result.partialResult).getD [] ++
          [(result.frameNumber, result.result)]) }

/-- Whether the batch queues the buffers of a stream. -/
def batches (streamId : StreamId) : Bool :=
  (batch.mBatchBufs.lookup streamId).isSome

def queueBuffer (buffer : StreamBuffer) : InflightBatch :=
  match batch.mBatchBufs.lookup buffer.streamId with
  | none => batch
  | some bufs =>
    { batch with
      mBatchBufs := batch.mBatchBufs.insert buffer.streamId
        { bufs with mBuffers := bufs.mBuffers ++ [buffer.move] } }

/-- The result for what the batch does not queue, if there is any. -/
def nonBatchedResult (result : CaptureResult) : Option CaptureResult :=
  let nonBatchedBuffers := (result.outputBuffers.filter fun buffer =>
    !batch.batches buffer.streamId).map StreamBuffer.move
  if nonBatchedBuffers ≠ [] ∨ result.inputBuffer.streamId ≠ -1 then
    some
      { frameNumber := result.frameNumber
        outputBuffers := nonBatchedBuffers.map .move
        inputBuffer := result.inputBuffer.move }
  else none

/-- The streams of a result that the batch queues. -/
def filledStreams (result : CaptureResult) : List StreamId :=
  (result.outputBuffers.filter fun buffer =>
    batch.batches buffer.streamId).map StreamBuffer.streamId

/-- The last frame sends the metadata up to its own partial index. -/
def sendResultMetadata (result : CaptureResult) :
    List Callback × InflightBatch :=
  if result.frameNumber = batch.mLastFrame ∧ 0 < result.partialResult then
    batch.sendBatchMetadata result.partialResult
  else ([], batch)

/-- The last frame sends the buffers of the streams that it fills. -/
def sendResultBuffers (result : CaptureResult) (streams : List StreamId) :
    List Callback × InflightBatch :=
  if result.frameNumber = batch.mLastFrame ∧ streams ≠ [] then
    batch.sendBatchBuffers streams
  else ([], batch)

/-- The batch's part of `processCaptureResult`. -/
def queueResult (result : CaptureResult) : List Callback × InflightBatch :=
  let queued := result.outputBuffers.foldl queueBuffer
    (batch.queueMetadata result)
  let single := (batch.nonBatchedResult result).toList.map fun nonBatched =>
    Callback.processCaptureResult [nonBatched]
  let metadata := queued.sendResultMetadata result
  let buffers := metadata.2.sendResultBuffers result
    (batch.filledStreams result)
  (single ++ metadata.1 ++ buffers.1, buffers.2)

end InflightBatch

/-! ## The queue of batches -/

/-- The position of the batch of a frame.  A frame outside the range from the
first to the last batch is not looked for. -/
def getBatch (batches : List InflightBatch) (frameNumber : Nat) :
    Option Nat :=
  match batches.head?, batches.getLast? with
  | some first, some last =>
    if frameNumber < first.mFirstFrame ∨ last.mLastFrame < frameNumber then
      none
    else batches.findIdx? fun batch => batch.covers frameNumber
  | _, _ => none

structure ResultBatcher where
  mInflightBatches : List InflightBatch
  mNumPartialResults : Nat
  mStreamsToBatch : List StreamId
  /-- The calls made to the framework, oldest first. -/
  callbacks : List Callback

namespace ResultBatcher

def new (numPartialResults : Nat) : ResultBatcher :=
  ⟨[], numPartialResults, [], []⟩

variable (batcher : ResultBatcher)

def send (callbacks : List Callback) : ResultBatcher :=
  { batcher with callbacks := batcher.callbacks ++ callbacks }

def setBatchedStreams (streamsToBatch : List StreamId) : ResultBatcher :=
  { batcher with mStreamsToBatch := streamsToBatch }

def registerBatch (frameNumber batchSize : Nat) : ResultBatcher :=
  { batcher with
    mInflightBatches := batcher.mInflightBatches ++
      [.new frameNumber batchSize batcher.mNumPartialResults
        batcher.mStreamsToBatch] }

def checkAndRemoveFirstBatch : ResultBatcher :=
  match batcher.mInflightBatches with
  | [] => batcher
  | batch :: rest =>
    if batch.allDelivered then { batcher with mInflightBatches := rest }
    else batcher

/-- The new content of the batch at a position, and the callbacks made for
it. -/
def updateBatch (batchIdx : Nat) (update : List Callback × InflightBatch) :
    ResultBatcher :=
  { batcher with
    mInflightBatches := batcher.mInflightBatches.set batchIdx update.2
    callbacks := batcher.callbacks ++ update.1 }

/-- Send and remove batches from the front of the queue.  There are that many,
because the number has just been looked up. -/
def flushBatches : Nat → ResultBatcher → ResultBatcher
  | 0, batcher => batcher
  | count + 1, batcher =>
    match batcher.mInflightBatches with
    | [] => batcher
    | batch :: rest =>
      flushBatches count
        { batcher.send (batch.flush batcher.mStreamsToBatch
            batcher.mNumPartialResults).1 with mInflightBatches := rest }

def notify (msg : NotifyMsg) : ResultBatcher :=
  match getBatch batcher.mInflightBatches msg.frameNumber with
  | none => batcher.send [.notify [msg]]
  | some batchIdx =>
    match msg, batcher.mInflightBatches[batchIdx]? with
    | .error _, _ =>
      (flushBatches (batchIdx + 1) batcher).send [.notify [msg]]
    | .shutter shutter, some batch =>
      if batch.mRemoved then batcher.send [.notify [msg]]
      else
        let queued := batcher.updateBatch batchIdx
          (batch.queueShutter shutter)
        if shutter.frameNumber = batch.mLastFrame then
          queued.checkAndRemoveFirstBatch
        else queued
    | .shutter _, none => batcher

def processOneCaptureResult (result : CaptureResult) : ResultBatcher :=
  batcher.send [.processCaptureResult [result]]

def processCaptureResult (result : CaptureResult) : ResultBatcher :=
  match getBatch batcher.mInflightBatches result.frameNumber with
  | none => batcher.processOneCaptureResult result
  | some batchIdx =>
    match batcher.mInflightBatches[batchIdx]? with
    | none => batcher
    | some batch =>
      if batch.mRemoved then batcher.processOneCaptureResult result
      else
        let queued := batcher.updateBatch batchIdx
          (batch.queueResult result)
        if result.frameNumber = batch.mLastFrame then
          queued.checkAndRemoveFirstBatch
        else queued

/-- The calls of the session and of the HAL. -/
inductive Event where
  | registerBatch (frameNumber batchSize : Nat)
  | setBatchedStreams (streamsToBatch : List StreamId)
  | notify (msg : NotifyMsg)
  | processCaptureResult (result : CaptureResult)
  deriving DecidableEq, Repr

def apply : Event → ResultBatcher
  | .registerBatch frameNumber batchSize =>
    batcher.registerBatch frameNumber batchSize
  | .setBatchedStreams streamsToBatch =>
    batcher.setBatchedStreams streamsToBatch
  | .notify msg => batcher.notify msg
  | .processCaptureResult result => batcher.processCaptureResult result

end ResultBatcher

/-- The batcher together with the calls it has seen, oldest first. -/
structure Observed where
  batcher : ResultBatcher
  events : List ResultBatcher.Event

namespace Observed

def start (numPartialResults : Nat) : Observed :=
  ⟨.new numPartialResults, []⟩

def step (observed : Observed) (event : ResultBatcher.Event) :
    Option Observed :=
  some ⟨observed.batcher.apply event, observed.events ++ [event]⟩

end Observed

end HardwareInterfaces.Camera

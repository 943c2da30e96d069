import HardwareInterfaces.Camera.ResultBatcher

/-!
# The camera device session

The session keeps the configured streams, the buffers that circulate between the
HAL and the camera service, and what is in flight: the buffers of the requests
that the HAL has not answered, the overridden AE triggers, and whether the
post-RAW sensitivity boost has been seen.

The tables are `std::map`s and are modelled with their insertions by
`operator[]`.  `at` throws on a missing key; a function that would throw, or
that reads an element which does not exist, returns `none`.  A physical camera
id that is missing in its table reads as the empty string and is there from then
on.

What the HAL, the importer of buffers and fences, and the metadata library
answer are parameters, and so is what the HAL writes into the streams that it is
given.  The request that the HAL is given and the metadata that
are overridden in a result are left out, and so are the batcher, which has a
model of its own, and the stream configuration counter.
-/

namespace HardwareInterfaces.Camera

/-! ## Requests and configurations -/

inductive Status where
  | ok
  | illegalArgument
  | internalError
  | cameraDisconnected
  deriving DecidableEq, Repr

/-- What the HAL returns: `OK`, `-EINVAL`, or another error. -/
inductive HalStatus where
  | ok
  | invalid
  | failed
  deriving DecidableEq, Repr

def HalStatus.toStatus : HalStatus → Status
  | .ok => .ok
  | .invalid => .illegalArgument
  | .failed => .internalError

abbrev BufferId := Nat

/-- `BUFFER_ID_NO_BUFFER` -/
def bufferIdNoBuffer : BufferId := 0

/-- A native handle that is not null. -/
abbrev NativeHandle := Nat

structure RequestBuffer where
  streamId : StreamId
  bufferId : BufferId
  /-- What `makeFromAidl` makes of the handle; null if it is too large. -/
  buffer : Option NativeHandle
  status : BufferStatus := .ok
  acquireFence : Option NativeHandle := none
  deriving DecidableEq, Repr

/-- The buffer that stands for no buffer at all. -/
def RequestBuffer.isEmpty (buffer : RequestBuffer) : Bool :=
  buffer.buffer = none && buffer.bufferId = bufferIdNoBuffer

structure PhysicalCameraSetting where
  fmqSettingsSize : Nat := 0
  physicalCameraId : String
  settings : CameraMetadata := []
  deriving DecidableEq, Repr

structure CaptureRequest where
  frameNumber : Nat
  fmqSettingsSize : Nat := 0
  settings : CameraMetadata := []
  inputBuffer : RequestBuffer := ⟨-1, 0, none, .ok, none⟩
  outputBuffers : List RequestBuffer
  physicalCameraSettings : List PhysicalCameraSetting := []
  deriving DecidableEq, Repr

namespace CaptureRequest

def hasInputBuf (request : CaptureRequest) : Bool :=
  request.inputBuffer.streamId ≠ -1 && request.inputBuffer.bufferId ≠ 0

def inputBuffers (request : CaptureRequest) : List RequestBuffer :=
  if request.hasInputBuf then [request.inputBuffer] else []

/-- The buffers in the order in which they are imported. -/
def buffers (request : CaptureRequest) : List RequestBuffer :=
  request.outputBuffers ++ request.inputBuffers

end CaptureRequest

structure BufferCache where
  streamId : StreamId
  bufferId : BufferId
  deriving DecidableEq, Repr

inductive StreamType where
  | output
  | input
  deriving DecidableEq, Repr

structure Stream where
  id : StreamId
  streamType : StreamType := .output
  width : Int := 0
  height : Int := 0
  format : Int := 0
  usage : Nat := 0
  dataSpace : Int := 0
  rotation : Int := 0
  physicalCameraId : String := ""
  deriving DecidableEq, Repr

/-- `BufferUsage::VIDEO_ENCODER` is bit 16 of the usage. -/
def Stream.isVideo (stream : Stream) : Bool :=
  stream.streamType = .output && stream.usage.testBit 16

/-- What the HAL returns for a frame: the ids of its streams and the metadata. -/
structure HalResult where
  frameNumber : Nat
  result : Option CameraMetadata := none
  inputStream : Option StreamId := none
  outputStreams : List StreamId := []
  partialResult : Nat := 0
  deriving DecidableEq, Repr

/-! ## What the session asks other libraries -/

inductive MetadataTag where
  | controlAePrecaptureTrigger
  | controlAeLock
  | controlPostRawSensitivityBoost
  deriving DecidableEq, Repr

/-- Questions about a metadata buffer: the size and the number of entries that
its header states, and the bytes of an entry, which may be there without any. -/
structure MetadataLibrary where
  size : CameraMetadata → Nat
  entryCount : CameraMetadata → Nat
  find : CameraMetadata → MetadataTag → Option (List UInt8)

/-- The first byte of an entry with a positive count. -/
def MetadataLibrary.firstByte (library : MetadataLibrary)
    (metadata : CameraMetadata) (tag : MetadataTag) : Option UInt8 :=
  (library.find metadata tag).bind List.head?

/-- The importer takes the handles that `makeFromAidl` returns, which may be
null.  A fence is a file descriptor, or none for a handle without one. -/
structure HandleImporter where
  importBuffer : Option NativeHandle → Option NativeHandle
  importFence : Option NativeHandle → Option (Option Nat)

/-- Metadata whose first 32 bits state their size, without any entries. -/
def sizedLibrary : MetadataLibrary where
  size := fun metadata =>
    (metadata.take 4).foldr (fun byte size => byte.toNat + 256 * size) 0
  entryCount := fun _ => 0
  find := fun _ _ => none

/-- An importer that accepts every handle that is not null. -/
def acceptingImporter : HandleImporter where
  importBuffer := fun handle => handle
  importFence := fun handle => some handle

/-! ## The state of the session -/

/-- The fields that are copied from a stream, and two that the HAL fills in; the
value that `operator[]` puts into the table has all of them zero. -/
structure Camera3Stream where
  mId : StreamId := 0
  streamType : StreamType := .output
  width : Int := 0
  height : Int := 0
  format : Int := 0
  usage : Nat := 0
  dataSpace : Int := 0
  rotation : Int := 0
  maxBuffers : Nat := 0
  priv : Nat := 0
  deriving DecidableEq, Repr

def convertStreamFromAidl (stream : Stream) : Camera3Stream where
  mId := stream.id
  streamType := stream.streamType
  width := stream.width
  height := stream.height
  format := stream.format
  usage := stream.usage % 2 ^ 32
  dataSpace := stream.dataSpace
  rotation := stream.rotation
  maxBuffers := 0
  priv := 0

/-- The fields of a stream that are the HAL's to set. -/
structure HalFields where
  format : Int
  usage : Nat
  dataSpace : Int
  maxBuffers : Nat
  priv : Nat
  deriving DecidableEq, Repr

/-- The HAL's answer to a configuration, and what it has written into the
streams by then. -/
structure HalConfiguration where
  status : HalStatus
  fields : StreamId → Option HalFields := fun _ => none

/-- The entry of a stream after the HAL. -/
def HalConfiguration.fill (hal : HalConfiguration) (id : StreamId)
    (entry : Camera3Stream) : Camera3Stream :=
  match hal.fields id with
  | none => entry
  | some fields =>
    { entry with
      format := fields.format
      usage := fields.usage
      dataSpace := fields.dataSpace
      maxBuffers := fields.maxBuffers
      priv := fields.priv }

structure AETriggerCancelOverride where
  applyAeLock : Bool
  aeLock : UInt8
  applyAePrecaptureTrigger : Bool
  aePrecaptureTrigger : UInt8
  deriving DecidableEq, Repr

/-- A buffer in flight: its place among the circulating buffers, unless it is
the empty buffer. -/
structure InflightBuffer where
  buffer : Option (StreamId × BufferId)
  status : BufferStatus
  acquireFence : Option Nat
  deriving DecidableEq, Repr

abbrev CirculatingBuffers := OrderedMap BufferId NativeHandle

structure CameraDeviceSession where
  mInitFail : Bool := false
  mDisconnected : Bool := false
  mClosed : Bool := false
  mDeviceVersion : Nat
  mFreeBufEarly : Bool
  mIsAELockAvailable : Bool := false
  mDerivePostRawSensKey : Bool := false
  mNumPartialResults : Nat := 1
  mFirstRequest : Bool := false
  mStreamMap : OrderedMap StreamId Camera3Stream := .empty
  mPhysicalCameraIdMap : OrderedMap StreamId String := .empty
  mCirculatingBuffers : OrderedMap StreamId CirculatingBuffers := .empty
  /-- By stream and frame number. -/
  mInflightBuffers : OrderedMap (StreamId ×ₗ Nat) InflightBuffer := .empty
  mInflightAETriggerOverrides : OrderedMap Nat AETriggerCancelOverride := .empty
  mInflightRawBoostPresent : OrderedMap Nat Bool := .empty
  mVideoStreamIds : List StreamId := []
  /-- The bytes that the client has written and the session has not read. -/
  mRequestMetadataQueue : List UInt8 := []

namespace CameraDeviceSession

variable (session : CameraDeviceSession)

def initStatus : Status :=
  if session.mInitFail then .internalError
  else if session.mDisconnected then .cameraDisconnected
  else if session.mClosed then .internalError
  else .ok

/-! ## Stream configuration -/

/-- `none` if the stream has no circulating buffers. -/
def cleanupBuffersLocked (id : StreamId) : Option CameraDeviceSession :=
  (session.mCirculatingBuffers.lookup id).map fun _ =>
    { session with
      mCirculatingBuffers := session.mCirculatingBuffers.erase id }

/-- `mCirculatingBuffers.emplace(id, CirculatingBuffers{})` -/
def emplaceCirculating (id : StreamId) : CameraDeviceSession :=
  if (session.mCirculatingBuffers.lookup id).isSome then session
  else
    { session with
      mCirculatingBuffers := session.mCirculatingBuffers.insert id .empty }

def streamResized (old : Camera3Stream) (stream : Stream) : Bool :=
  old.streamType ≠ stream.streamType || old.width ≠ stream.width ||
    old.height ≠ stream.height

/-- The type, the size and the physical camera of a stream must not change. -/
def streamChanged (old : Camera3Stream) (stream : Stream) : Bool :=
  streamResized old stream ||
    (session.mPhysicalCameraIdMap.lookup stream.id).getD "" ≠
      stream.physicalCameraId

/-- `mPhysicalCameraIdMap[id]` -/
def touchPhysicalCameraId (id : StreamId) : CameraDeviceSession :=
  { session with
    mPhysicalCameraIdMap :=
      if (session.mPhysicalCameraIdMap.lookup id).isSome then
        session.mPhysicalCameraIdMap
      else session.mPhysicalCameraIdMap.insert id "" }

/-- The physical camera is looked up last, if nothing else has changed. -/
def touchUnlessResized (old : Camera3Stream) (stream : Stream) :
    CameraDeviceSession :=
  { session with
    mPhysicalCameraIdMap :=
      if streamResized old stream then session.mPhysicalCameraIdMap
      else (session.touchPhysicalCameraId stream.id).mPhysicalCameraIdMap }

/-- One stream of a requested configuration, and whether it is accepted. -/
def preProcessStream (stream : Stream) : Bool × CameraDeviceSession :=
  match session.mStreamMap.lookup stream.id with
  | none =>
    (true,
      { session with
        mStreamMap := session.mStreamMap.insert stream.id
          (convertStreamFromAidl stream)
        mPhysicalCameraIdMap := session.mPhysicalCameraIdMap.insert stream.id
          stream.physicalCameraId }.emplaceCirculating stream.id)
  | some old =>
    let touched := session.touchUnlessResized old stream
    if session.streamChanged old stream then (false, touched)
    else
      (true,
        { touched with
          mStreamMap := session.mStreamMap.insert stream.id
            { old with
              format := stream.format
              dataSpace := stream.dataSpace
              rotation := stream.rotation
              usage := stream.usage % 2 ^ 32 } })

def preProcessStreams :
    List Stream → CameraDeviceSession → Bool × CameraDeviceSession
  | [], session => (true, session)
  | stream :: streams, session =>
    match session.preProcessStream stream with
    | (true, next) => preProcessStreams streams next
    | (false, next) => (false, next)

/-- The streams in the table that a configuration leaves out. -/
def deletedStreams (streams : List Stream) : List StreamId :=
  session.mStreamMap.keys.filter fun id =>
    !streams.any fun stream => stream.id = id

/-- A loop over stream ids whose body may throw. -/
def forStreams
    (body : CameraDeviceSession → StreamId → Option CameraDeviceSession) :
    List StreamId → CameraDeviceSession → Option CameraDeviceSession
  | [], session => some session
  | id :: ids, session => (body session id).bind (forStreams body ids)

def preProcessConfigurationLocked (streams : List Stream) :
    Option (Bool × CameraDeviceSession) :=
  match preProcessStreams streams session with
  | (false, next) => some (false, next)
  | (true, next) =>
    if session.mFreeBufEarly then
      (forStreams cleanupBuffersLocked (next.deletedStreams streams) next).map
        fun cleaned => (true, cleaned)
    else some (true, next)

def eraseStream (id : StreamId) : CameraDeviceSession :=
  { session with mStreamMap := session.mStreamMap.erase id }

/-- The buffers of a deleted stream may have been freed before. -/
def deleteStream (id : StreamId) : Option CameraDeviceSession :=
  if session.mFreeBufEarly then some (session.eraseStream id)
  else (session.cleanupBuffersLocked id).map fun cleaned =>
    cleaned.eraseStream id

def postProcessConfigurationLocked (streams : List Stream) :
    Option CameraDeviceSession :=
  (forStreams deleteStream (session.deletedStreams streams) session).map
    fun deleted =>
      { deleted with
        mVideoStreamIds := (streams.filter Stream.isVideo).map Stream.id }

def postProcessConfigurationFailureLocked (streams : List Stream) :
    CameraDeviceSession :=
  if session.mFreeBufEarly then
    (session.deletedStreams streams).foldl emplaceCirculating session
  else session

/-- The HAL has pointers to the entries of the requested streams. -/
def fillStream (hal : HalConfiguration) (id : StreamId) : CameraDeviceSession :=
  match session.mStreamMap.lookup id with
  | none => session
  | some entry =>
    { session with
      mStreamMap := session.mStreamMap.insert id (hal.fill id entry) }

def fillStreams (hal : HalConfiguration) (streams : List Stream) :
    CameraDeviceSession :=
  streams.foldl (fun session stream => session.fillStream hal stream.id) session

def configureStreams (streams : List Stream) (hal : HalConfiguration) :
    Option (Status × CameraDeviceSession) :=
  if session.mInflightBuffers.entries ≠ [] ∨
      session.mInflightAETriggerOverrides.entries ≠ [] ∨
      session.mInflightRawBoostPresent.entries ≠ [] then
    some (.internalError, session)
  else if session.initStatus ≠ .ok then some (session.initStatus, session)
  else
    match session.preProcessConfigurationLocked streams with
    | none => none
    | some (false, next) => some (.internalError, next)
    | some (true, next) =>
      let filled := next.fillStreams hal streams
      match hal.status with
      | .ok =>
        (filled.postProcessConfigurationLocked streams).map fun configured =>
          (.ok, { configured with mFirstRequest := true })
      | .invalid | .failed =>
        some (hal.status.toStatus,
          filled.postProcessConfigurationFailureLocked streams)

/-! ## Capture requests -/

def removeCache (cache : BufferCache) : CameraDeviceSession :=
  match session.mCirculatingBuffers.lookup cache.streamId with
  | none => session
  | some cbs =>
    { session with
      mCirculatingBuffers := session.mCirculatingBuffers.insert
        cache.streamId (cbs.erase cache.bufferId) }

def updateBufferCaches (cachesToRemove : List BufferCache) :
    CameraDeviceSession :=
  cachesToRemove.foldl removeCache session

/-- The buffer is looked up in the circulating buffers of its stream, which are
created if need be.  A new one is imported by the handle that `makeFromAidl`
makes of it. -/
def importBuffer (importer : HandleImporter) (buffer : RequestBuffer)
    (allowEmptyBuf : Bool) : Status × CameraDeviceSession :=
  if buffer.isEmpty then
    (if allowEmptyBuf then .ok else .illegalArgument, session)
  else
    let cbs := (session.mCirculatingBuffers.lookup buffer.streamId).getD .empty
    let circulate (cbs : CirculatingBuffers) : CameraDeviceSession :=
      { session with
        mCirculatingBuffers :=
          session.mCirculatingBuffers.insert buffer.streamId cbs }
    match cbs.lookup buffer.bufferId with
    | some _ => (.ok, circulate cbs)
    | none =>
      match importer.importBuffer buffer.buffer with
      | none => (.internalError, circulate cbs)
      | some imported => (.ok, circulate (cbs.insert buffer.bufferId imported))

def importBuffers (importer : HandleImporter) :
    List (RequestBuffer × Bool) → CameraDeviceSession →
      Status × CameraDeviceSession
  | [], session => (.ok, session)
  | (buffer, allowEmptyBuf) :: rest, session =>
    match session.importBuffer importer buffer allowEmptyBuf with
    | (.ok, next) => importBuffers importer rest next
    | (status, next) => (status, next)

/-- Whether all the fences are valid, and those imported up to there. -/
def importFences (importer : HandleImporter) :
    List RequestBuffer → Bool × List (Option Nat)
  | [] => (true, [])
  | buffer :: rest =>
    match importer.importFence buffer.acquireFence with
    | none => (false, [])
    | some fence =>
      let (valid, fences) := importFences importer rest
      (valid, fence :: fences)

/-- How an operation ends, with the fences it has imported and closed. -/
structure Outcome where
  status : Status
  session : CameraDeviceSession
  imported : List Nat := []
  closed : List Nat := []

/-- Import the buffers and then the fences of a request.  Only an output buffer
may be empty. -/
def importRequest (importer : HandleImporter) (request : CaptureRequest) :
    Status × CameraDeviceSession × List (Option Nat) :=
  match importBuffers importer
      (request.outputBuffers.map (·, true) ++
        request.inputBuffers.map (·, false)) session with
  | (.ok, next) =>
    let (valid, fences) := importFences importer request.buffers
    (if valid then .ok else .internalError, next, fences)
  | (status, next) => (status, next, [])

/-- What becomes of settings that come through the message queue or with the
call; metadata without any bytes are null. -/
inductive Settings where
  | unreadable
  | corrupt
  | converted (settings : Option CameraMetadata)
  deriving DecidableEq, Repr

def convertFromAidl (library : MetadataLibrary) (metadata : CameraMetadata) :
    Settings :=
  if metadata = [] then .converted none
  else if library.size metadata ≠ metadata.length then .corrupt
  else .converted (some metadata)

/-- The settings, and what is left in the message queue. -/
def readSettings (library : MetadataLibrary) (queue : List UInt8)
    (fmqSettingsSize : Nat) (settings : CameraMetadata) :
    Settings × List UInt8 :=
  if 0 < fmqSettingsSize then
    if fmqSettingsSize ≤ queue.length then
      (convertFromAidl library (queue.take fmqSettingsSize),
        queue.drop fmqSettingsSize)
    else (.unreadable, queue)
  else (convertFromAidl library settings, queue)

/-- `ANDROID_CONTROL_AE_PRECAPTURE_TRIGGER_CANCEL` -/
def aePrecaptureTriggerCancel : UInt8 := 2

/-- `ANDROID_CONTROL_AE_LOCK_OFF` -/
def aeLockOff : UInt8 := 0

/-- `CAMERA_DEVICE_API_VERSION_3_2` -/
def deviceApiVersion32 : Nat := 0x302

/-- The override for a request that cancels the AE precapture trigger, on a
device that does not know the cancellation. -/
def handleAePrecaptureCancelRequestLocked (library : MetadataLibrary) :
    Option CameraMetadata → Option AETriggerCancelOverride
  | none => none
  | some settings =>
    if deviceApiVersion32 < session.mDeviceVersion ∨
        library.entryCount settings = 0 then none
    else if library.firstByte settings .controlAePrecaptureTrigger =
        some aePrecaptureTriggerCancel then
      let aeLock := library.firstByte settings .controlAeLock
      some
        { applyAeLock := session.mIsAELockAvailable &&
            (aeLock = none || aeLock = some aeLockOff)
          aeLock := aeLockOff
          applyAePrecaptureTrigger := true
          aePrecaptureTrigger := aePrecaptureTriggerCancel }
    else none

/-- Where `importBuffer` finds the buffer. -/
def bufferPtr (buffer : RequestBuffer) : Option (StreamId × BufferId) :=
  if buffer.isEmpty then none
  else some (buffer.streamId, buffer.bufferId)

/-- One buffer of a request is put in flight.  A stream that is not in the table
is added to it. -/
def putBufferInflight (frameNumber : Nat) (session : CameraDeviceSession)
    (entry : RequestBuffer × Option Nat) : CameraDeviceSession :=
  { session.touchPhysicalCameraId entry.1.streamId with
    mInflightBuffers := session.mInflightBuffers.insert
      (toLex (entry.1.streamId, frameNumber))
      ⟨bufferPtr entry.1, entry.1.status, entry.2⟩
    mStreamMap :=
      if (session.mStreamMap.lookup entry.1.streamId).isSome then
        session.mStreamMap
      else session.mStreamMap.insert entry.1.streamId {} }

/-- The input buffer, the output buffers and the override are put in flight. -/
def putInflight (request : CaptureRequest) (fences : List (Option Nat))
    (override : Option AETriggerCancelOverride) : CameraDeviceSession :=
  let outputs := request.outputBuffers.zip fences
  let inputs := request.inputBuffers.zip
    (fences.drop request.outputBuffers.length)
  let filled := (inputs ++ outputs).foldl
    (putBufferInflight request.frameNumber) session
  match override with
  | none => filled
  | some override =>
    { filled with
      mInflightAETriggerOverrides :=
        filled.mInflightAETriggerOverrides.insert request.frameNumber
          override }

/-- A request that the HAL has not taken is not in flight any more. -/
def takeBack (request : CaptureRequest)
    (override : Option AETriggerCancelOverride) : CameraDeviceSession :=
  let emptied := { session with
    mInflightBuffers := (request.inputBuffers ++ request.outputBuffers).foldl
      (fun inflight buffer =>
        inflight.erase (toLex (buffer.streamId, request.frameNumber)))
      session.mInflightBuffers }
  match override with
  | none => emptied
  | some _ =>
    { emptied with
      mInflightAETriggerOverrides :=
        emptied.mInflightAETriggerOverrides.erase request.frameNumber }

/-- Whether the settings of the physical cameras are accepted, and what is left
in the message queue.  A copy is pushed for settings that come through the queue
only, but it is looked for at the index of the settings. -/
def checkPhysicalSettings (library : MetadataLibrary) (firstRequest : Bool) :
    Nat → Nat → List PhysicalCameraSetting → List UInt8 →
      Option (Bool × List UInt8)
  | _, _, [], queue => some (true, queue)
  | index, copies, setting :: rest, queue =>
    let copies := if 0 < setting.fmqSettingsSize then copies + 1 else copies
    if 0 < setting.fmqSettingsSize ∧ copies ≤ index then none
    else
      match readSettings library queue setting.fmqSettingsSize
          setting.settings with
      | (.unreadable, queue) => some (false, queue)
      | (.corrupt, queue) => some (false, queue)
      | (.converted settings, queue) =>
        if firstRequest ∧ settings = none then some (false, queue)
        else
          checkPhysicalSettings library firstRequest (index + 1) copies rest
            queue

/-- The part of a request after its buffers and fences have been imported. -/
def submitRequest (library : MetadataLibrary) (hal : HalStatus)
    (request : CaptureRequest) (settings : Option CameraMetadata)
    (fences : List (Option Nat)) : Option Outcome :=
  let override :=
    session.handleAePrecaptureCancelRequestLocked library settings
  let inflight := session.putInflight request fences override
  let imported := fences.filterMap id
  match checkPhysicalSettings library session.mFirstRequest 0 0
      request.physicalCameraSettings session.mRequestMetadataQueue with
  | none => none
  | some (accepted, queue) =>
    let inflight := { inflight with mRequestMetadataQueue := queue }
    if accepted then
      match hal with
      | .ok => some ⟨.ok, { inflight with mFirstRequest := false }, imported, []⟩
      | .invalid | .failed =>
        some ⟨hal.toStatus, inflight.takeBack request override, imported,
          imported⟩
    else some ⟨.illegalArgument, inflight, imported, []⟩

/-- A request whose settings, buffers and fences have been accepted. -/
structure Admitted where
  session : CameraDeviceSession
  settings : Option CameraMetadata
  fences : List (Option Nat)

/-- The part of a request before it is put in flight. -/
def admitRequest (library : MetadataLibrary) (importer : HandleImporter)
    (request : CaptureRequest) : Except Outcome Admitted :=
  if session.initStatus ≠ .ok then
    .error { status := session.initStatus, session := session }
  else
    let (settings, queue) := readSettings library session.mRequestMetadataQueue
      request.fmqSettingsSize request.settings
    let session := { session with mRequestMetadataQueue := queue }
    match settings with
    | .unreadable => .error { status := .illegalArgument, session := session }
    | .corrupt => .error { status := .illegalArgument, session := session }
    | .converted settings =>
      if session.mFirstRequest ∧ settings = none then
        .error { status := .illegalArgument, session := session }
      else if request.outputBuffers = [] then
        .error { status := .illegalArgument, session := session }
      else
        match session.importRequest importer request with
        | (.ok, next, fences) => .ok ⟨next, settings, fences⟩
        | (status, next, fences) =>
          .error ⟨status, next, fences.filterMap id, fences.filterMap id⟩

def processOneCaptureRequest (library : MetadataLibrary)
    (importer : HandleImporter) (hal : HalStatus) (request : CaptureRequest) :
    Option Outcome :=
  match session.admitRequest library importer request with
  | .error outcome => some outcome
  | .ok admitted =>
    admitted.session.submitRequest library hal request admitted.settings
      admitted.fences

/-- The requests of a call up to the first one that is not accepted, each with
the answer of the HAL; how many have been accepted before is counted. -/
def processRequests (library : MetadataLibrary) (importer : HandleImporter) :
    List (CaptureRequest × HalStatus) → Nat → CameraDeviceSession →
      Option (Status × Nat × CameraDeviceSession)
  | [], accepted, session => some (.ok, accepted, session)
  | (request, hal) :: rest, accepted, session =>
    match session.processOneCaptureRequest library importer hal request with
    | none => none
    | some outcome =>
      if outcome.status = .ok then
        processRequests library importer rest (accepted + 1) outcome.session
      else some (outcome.status, accepted, outcome.session)

def processCaptureRequest (library : MetadataLibrary)
    (importer : HandleImporter) (requests : List (CaptureRequest × HalStatus))
    (cachesToRemove : List BufferCache) :
    Option (Status × Nat × CameraDeviceSession) :=
  processRequests library importer requests 0
    (session.updateBufferCaches cachesToRemove)

/-! ## Results and errors -/

/-- Whether the boost has been seen for a frame, until its last result. -/
def trackRawBoost (library : MetadataLibrary) (result : HalResult)
    (metadata : CameraMetadata) : CameraDeviceSession :=
  if session.mDerivePostRawSensKey then
    let present := session.mInflightRawBoostPresent
    let tracked :=
      if (library.find metadata .controlPostRawSensitivityBoost).isSome then
        present.insert result.frameNumber true
      else if (present.lookup result.frameNumber).isSome then present
      else present.insert result.frameNumber false
    { session with
      mInflightRawBoostPresent :=
        if result.partialResult = session.mNumPartialResults then
          tracked.erase result.frameNumber
        else tracked }
  else session

def endAeOverride (result : HalResult) : CameraDeviceSession :=
  if result.partialResult = session.mNumPartialResults then
    { session with
      mInflightAETriggerOverrides :=
        session.mInflightAETriggerOverrides.erase result.frameNumber }
  else session

/-- The effect of a result on what is in flight.  A result with a buffer that is
not in flight is dropped. -/
def constructCaptureResult (library : MetadataLibrary) (result : HalResult) :
    CameraDeviceSession :=
  let streams := result.inputStream.toList ++ result.outputStreams
  if streams.all fun id =>
      (session.mInflightBuffers.lookup
        (toLex (id, result.frameNumber))).isSome then
    let tracked :=
      match result.result with
      | none => session
      | some metadata =>
        (session.trackRawBoost library result metadata).endAeOverride result
    { tracked with
      mInflightBuffers := streams.foldl
        (fun inflight id => inflight.erase (toLex (id, result.frameNumber)))
        tracked.mInflightBuffers }
  else session

inductive ErrorCode where
  | errorDevice
  | errorRequest
  | errorResult
  | errorBuffer
  deriving DecidableEq, Repr

/-- The effect of an error on what is in flight. -/
def notifyError (frameNumber : Nat) (errorStreamId : StreamId)
    (errorCode : ErrorCode) : CameraDeviceSession :=
  if errorStreamId ≠ -1 ∧
      (session.mStreamMap.lookup errorStreamId).isNone then session
  else
    match errorCode with
    | .errorDevice | .errorRequest | .errorResult =>
      { session with
        mInflightAETriggerOverrides :=
          session.mInflightAETriggerOverrides.erase frameNumber
        mInflightRawBoostPresent :=
          session.mInflightRawBoostPresent.erase frameNumber }
    | .errorBuffer => session

/-! ## Runs -/

/-- The session right after a camera has been opened. -/
def opened (mDeviceVersion : Nat)
    (mFreeBufEarly mIsAELockAvailable mDerivePostRawSensKey : Bool)
    (mNumPartialResults : Nat) : CameraDeviceSession :=
  { mDeviceVersion, mFreeBufEarly, mIsAELockAvailable, mDerivePostRawSensKey,
    mNumPartialResults }

/-- A call, with the answers that the HAL and the importer give during it. -/
inductive Call where
  | configureStreams (streams : List Stream) (hal : HalConfiguration)
  | processCaptureRequest (importer : HandleImporter)
      (requests : List (CaptureRequest × HalStatus))
      (cachesToRemove : List BufferCache)
  | processCaptureResult (result : HalResult)
  | notifyError (frameNumber : Nat) (errorStreamId : StreamId)
      (errorCode : ErrorCode)
  /-- The client writes settings into the message queue. -/
  | writeQueue (bytes : List UInt8)

def step (library : MetadataLibrary) :
    CameraDeviceSession → Call → Option CameraDeviceSession
  | session, .configureStreams streams hal =>
    (session.configureStreams streams hal).map fun answer => answer.2
  | session, .processCaptureRequest importer requests cachesToRemove =>
    (session.processCaptureRequest library importer requests
      cachesToRemove).map fun answer => answer.2.2
  | session, .processCaptureResult result =>
    some (session.constructCaptureResult library result)
  | session, .notifyError frameNumber errorStreamId errorCode =>
    some (session.notifyError frameNumber errorStreamId errorCode)
  | session, .writeQueue bytes =>
    some { session with
      mRequestMetadataQueue := session.mRequestMetadataQueue ++ bytes }

end CameraDeviceSession

end HardwareInterfaces.Camera

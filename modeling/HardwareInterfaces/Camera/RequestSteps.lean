import HardwareInterfaces.Camera.CameraDeviceSession

/-!
# The ways a capture request can end

`Admits` lists how the first part of a request ends, the one that checks the
settings and imports the buffers and fences, and `Submits` how the second part
ends, after the request has been put in flight.
-/

namespace HardwareInterfaces.Camera.CameraDeviceSession

variable {session : CameraDeviceSession}

inductive Admits (session : CameraDeviceSession) (importer : HandleImporter)
    (request : CaptureRequest) : Except Outcome Admitted → Prop where
  | rejected {status : Status} {queue : List UInt8} (hstatus : status ≠ .ok) :
      Admits session importer request (.error
        { status := status
          session := { session with mRequestMetadataQueue := queue } })
  | notImported {status : Status} {queue : List UInt8}
      {next : CameraDeviceSession} {fences : List (Option Nat)}
      (hstatus : status ≠ .ok)
      (himport : importRequest
        { session with mRequestMetadataQueue := queue } importer request =
          (status, next, fences)) :
      Admits session importer request (.error
        ⟨status, next, fences.filterMap id, fences.filterMap id⟩)
  | admitted {queue : List UInt8} {settings : Option CameraMetadata}
      {next : CameraDeviceSession} {fences : List (Option Nat)}
      (houtputs : request.outputBuffers ≠ [])
      (himport : importRequest
        { session with mRequestMetadataQueue := queue } importer request =
          (.ok, next, fences)) :
      Admits session importer request (.ok ⟨next, settings, fences⟩)

theorem admits_admitRequest (library : MetadataLibrary)
    (importer : HandleImporter) (request : CaptureRequest) :
    Admits session importer request
      (session.admitRequest library importer request) := by
  by_cases hstatus : session.initStatus = .ok
  · rw [admitRequest, if_neg (not_not.mpr hstatus)]
    cases hread : readSettings library session.mRequestMetadataQueue
      request.fmqSettingsSize request.settings with
    | mk settings queue =>
      cases settings with
      | unreadable | corrupt => exact .rejected nofun
      | converted settings =>
        by_cases hnull : session.mFirstRequest ∧ settings = none
        · simp only [if_pos hnull]
          exact .rejected nofun
        by_cases hnone : request.outputBuffers = []
        · simp only [if_neg hnull, if_pos hnone]
          exact .rejected nofun
        simp only [if_neg hnull, if_neg hnone]
        split
        case h_1 next fences himport => exact .admitted hnone himport
        case h_2 status next fences hnot himport =>
          exact .notImported hnot himport
  · rw [admitRequest, if_pos hstatus]
    exact @Admits.rejected session importer request session.initStatus
      session.mRequestMetadataQueue hstatus

/-- The settings of the physical cameras as a submission checks them. -/
def physicalSettings (library : MetadataLibrary)
    (session : CameraDeviceSession) (request : CaptureRequest) :
    Option (Bool × List UInt8) :=
  checkPhysicalSettings library session.mFirstRequest 0 0
    request.physicalCameraSettings session.mRequestMetadataQueue

inductive Submits (library : MetadataLibrary) (hal : HalStatus)
    (session : CameraDeviceSession) (request : CaptureRequest)
    (fences : List (Option Nat)) (override : Option AETriggerCancelOverride) :
    Outcome → Prop where
  | accepted {queue : List UInt8}
      (hphysical : physicalSettings library session request =
        some (true, queue)) (hhal : hal = .ok) :
      Submits library hal session request fences override
        ⟨.ok, { session.putInflight request fences override with
          mRequestMetadataQueue := queue, mFirstRequest := false },
          fences.filterMap id, []⟩
  | refused {queue : List UInt8}
      (hphysical : physicalSettings library session request =
        some (true, queue)) (hhal : hal ≠ .ok) :
      Submits library hal session request fences override
        ⟨hal.toStatus, takeBack
          { session.putInflight request fences override with
            mRequestMetadataQueue := queue } request override,
          fences.filterMap id, fences.filterMap id⟩
  | rejected {queue : List UInt8}
      (hphysical : physicalSettings library session request =
        some (false, queue)) :
      Submits library hal session request fences override
        ⟨.illegalArgument, { session.putInflight request fences override with
          mRequestMetadataQueue := queue }, fences.filterMap id, []⟩

variable {request : CaptureRequest} {fences : List (Option Nat)}

theorem submits_of_submitRequest {library : MetadataLibrary} {hal : HalStatus}
    {settings : Option CameraMetadata} {outcome : Outcome}
    (hsubmit : session.submitRequest library hal request settings fences =
      some outcome) :
    Submits library hal session request fences
      (session.handleAePrecaptureCancelRequestLocked library settings)
      outcome := by
  rw [submitRequest] at hsubmit
  split at hsubmit
  case h_1 => cases hsubmit
  case h_2 accepted queue hphysical =>
    cases accepted with
    | true =>
      cases hal with
      | ok =>
        cases hsubmit
        exact .accepted hphysical rfl
      | invalid | failed =>
        cases hsubmit
        exact .refused hphysical nofun
    | false =>
      cases hsubmit
      exact .rejected hphysical

variable {importer : HandleImporter}

/-- What importing one buffer keeps, importing a list of them keeps. -/
theorem importBuffers_invariant {invariant : CameraDeviceSession → Prop}
    (hkeep : ∀ session buffer allowEmptyBuf, invariant session →
      invariant (session.importBuffer importer buffer allowEmptyBuf).2)
    (buffers : List (RequestBuffer × Bool)) (hinit : invariant session) :
    invariant (importBuffers importer buffers session).2 := by
  induction buffers generalizing session with
  | nil => exact hinit
  | cons entry rest ih =>
    obtain ⟨buffer, allowEmptyBuf⟩ := entry
    have hnext := hkeep session buffer allowEmptyBuf hinit
    rw [importBuffers]
    split
    case h_1 next himport =>
      rw [himport] at hnext
      exact ih hnext
    case h_2 status next _ himport => rwa [himport] at hnext

/-- The buffers of a request in the order of their import, with whether each may
be empty. -/
def importList (request : CaptureRequest) : List (RequestBuffer × Bool) :=
  request.outputBuffers.map (·, true) ++ request.inputBuffers.map (·, false)

/-- The session after an import is the one after its buffers, all of which have
been imported if the import succeeds. -/
theorem importBuffers_of_importRequest {status : Status}
    {next : CameraDeviceSession}
    (himport : session.importRequest importer request =
      (status, next, fences)) :
    (importBuffers importer (importList request) session).2 = next ∧
      (status = .ok →
        (importBuffers importer (importList request) session).1 = .ok ∧
          importFences importer request.buffers = (true, fences)) := by
  rw [importRequest] at himport
  rw [importList]
  split at himport
  case h_1 imported hbuffers =>
    obtain ⟨rfl, hrest⟩ := Prod.mk.inj himport
    obtain ⟨rfl, rfl⟩ := Prod.mk.inj hrest
    rw [hbuffers]
    refine ⟨rfl, fun hok => ⟨rfl, ?_⟩⟩
    have hvalid : (importFences importer request.buffers).1 = true := by
      by_contra hnot
      rw [if_neg hnot] at hok
      cases hok
    exact Prod.ext hvalid rfl
  case h_2 other imported hnot hbuffers =>
    obtain ⟨rfl, hrest⟩ := Prod.mk.inj himport
    obtain ⟨rfl, -⟩ := Prod.mk.inj hrest
    rw [hbuffers]
    exact ⟨rfl, fun hok => absurd hok hnot⟩

theorem length_importFences {buffers : List RequestBuffer}
    (hvalid : importFences importer buffers = (true, fences)) :
    fences.length = buffers.length := by
  induction buffers generalizing fences with
  | nil =>
    cases hvalid
    rfl
  | cons buffer rest ih =>
    rw [importFences] at hvalid
    split at hvalid
    case h_1 => cases hvalid
    case h_2 fence _ =>
      obtain ⟨hrest, rfl⟩ := Prod.mk.inj hvalid
      rw [List.length_cons, List.length_cons, ih (Prod.ext hrest rfl)]

/-- A request that has been imported has one fence for each buffer. -/
theorem length_fences_of_importRequest {next : CameraDeviceSession}
    (himport : session.importRequest importer request = (.ok, next, fences)) :
    fences.length = request.buffers.length :=
  length_importFences ((importBuffers_of_importRequest himport).2 rfl).2

/-- The buffers that are put in flight with their fences are all of them. -/
theorem map_fst_inflight (hlength : fences.length = request.buffers.length) :
    (request.inputBuffers.zip (fences.drop request.outputBuffers.length) ++
        request.outputBuffers.zip fences).map Prod.fst =
      request.inputBuffers ++ request.outputBuffers := by
  rw [CaptureRequest.buffers, List.length_append] at hlength
  rw [List.map_append, List.map_fst_zip (by rw [List.length_drop]; omega),
    List.map_fst_zip (by omega)]

end HardwareInterfaces.Camera.CameraDeviceSession

import HardwareInterfaces.Camera.RequestSteps

/-!
# Requests that are not accepted

A request that ends with an error should leave nothing behind: what was in
flight before is in flight after it, and the fences that it has imported are
closed.  The tables of what is in flight must be empty when streams are
configured, so that an entry of a request that the HAL has never seen would
block every later configuration.

The settings of the physical cameras are checked after the request has been put
in flight, and a request that fails there is not taken back.
-/

namespace HardwareInterfaces.Camera.CameraDeviceSession

variable {session next : CameraDeviceSession}

/-- No request with the frame number is in flight. -/
structure FrameUnused (session : CameraDeviceSession) (frameNumber : Nat) :
    Prop where
  buffers : ∀ id,
    session.mInflightBuffers.lookup (toLex (id, frameNumber)) = none
  override : session.mInflightAETriggerOverrides.lookup frameNumber = none

/-- The same buffers and overrides are in flight. -/
structure SameInflight (session next : CameraDeviceSession) : Prop where
  buffers : next.mInflightBuffers = session.mInflightBuffers
  overrides : next.mInflightAETriggerOverrides =
    session.mInflightAETriggerOverrides

theorem SameInflight.refl (session : CameraDeviceSession) :
    SameInflight session session :=
  ⟨rfl, rfl⟩

theorem SameInflight.trans {last : CameraDeviceSession}
    (hfirst : SameInflight session next) (hsecond : SameInflight next last) :
    SameInflight session last :=
  ⟨hsecond.buffers.trans hfirst.buffers,
    hsecond.overrides.trans hfirst.overrides⟩

theorem SameInflight.frameUnused (hsame : SameInflight session next)
    {frameNumber : Nat} (hunused : session.FrameUnused frameNumber) :
    next.FrameUnused frameNumber := by
  constructor
  · intro id
    rw [hsame.buffers, hunused.buffers]
  · rw [hsame.overrides, hunused.override]

/-- What was in flight still is, nothing else is, and every fence that has been
imported has been closed. -/
structure RolledBack (session : CameraDeviceSession) (outcome : Outcome) :
    Prop where
  inflight : SameInflight session outcome.session
  fences : outcome.closed.Perm outcome.imported

/-! ## Before the request is put in flight -/

theorem sameInflight_importBuffer (importer : HandleImporter)
    (buffer : RequestBuffer) (allowEmptyBuf : Bool) :
    SameInflight session
      (session.importBuffer importer buffer allowEmptyBuf).2 := by
  rw [importBuffer]
  split
  · exact .refl session
  · dsimp only
    split
    · exact ⟨rfl, rfl⟩
    · split <;> exact ⟨rfl, rfl⟩

variable {request : CaptureRequest}

theorem sameInflight_importRequest {importer : HandleImporter}
    {status : Status} {fences : List (Option Nat)}
    (himport : session.importRequest importer request =
      (status, next, fences)) : SameInflight session next := by
  rw [← (importBuffers_of_importRequest himport).1]
  exact importBuffers_invariant
    (fun _ buffer allowEmptyBuf hsame =>
      hsame.trans (sameInflight_importBuffer importer buffer allowEmptyBuf))
    (importList request) (.refl session)

theorem sameInflight_queue (queue : List UInt8) :
    SameInflight session { session with mRequestMetadataQueue := queue } :=
  ⟨rfl, rfl⟩

/-! ## Putting a request in flight and taking it back -/

/-- The keys of the buffers of a request in `mInflightBuffers`. -/
def inflightKeys (request : CaptureRequest) : List (StreamId ×ₗ Nat) :=
  (request.inputBuffers ++ request.outputBuffers).map fun buffer =>
    toLex (buffer.streamId, request.frameNumber)

theorem mem_inflightKeys_snd {key : StreamId ×ₗ Nat}
    (hkey : key ∈ inflightKeys request) :
    ∃ id, key = toLex (id, request.frameNumber) := by
  obtain ⟨buffer, _, rfl⟩ := List.mem_map.mp hkey
  exact ⟨buffer.streamId, rfl⟩

/-- Only the keys of the buffers change, and each of them is there. -/
theorem foldl_putBufferInflight_inflight (frameNumber : Nat)
    (entries : List (RequestBuffer × Option Nat)) :
    (entries.foldl (putBufferInflight frameNumber) session
        ).mInflightAETriggerOverrides = session.mInflightAETriggerOverrides ∧
      ∀ key,
        (key ∉ (entries.map Prod.fst).map
            (fun buffer => toLex (buffer.streamId, frameNumber)) →
          (entries.foldl (putBufferInflight frameNumber) session
            ).mInflightBuffers.lookup key =
              session.mInflightBuffers.lookup key) ∧
        (key ∈ (entries.map Prod.fst).map
            (fun buffer => toLex (buffer.streamId, frameNumber)) →
          ((entries.foldl (putBufferInflight frameNumber) session
            ).mInflightBuffers.lookup key).isSome) := by
  induction entries generalizing session with
  | nil => exact ⟨rfl, fun key => ⟨fun _ => rfl, nofun⟩⟩
  | cons entry rest ih =>
    obtain ⟨hoverrides, hkeys⟩ :=
      @ih (putBufferInflight frameNumber session entry)
    have hput : (putBufferInflight frameNumber session entry
        ).mInflightBuffers.lookup = Function.update
          session.mInflightBuffers.lookup
          (toLex (entry.1.streamId, frameNumber))
          (some ⟨bufferPtr entry.1, entry.1.status, entry.2⟩) :=
      OrderedMap.lookup_insert _ _ _
    refine ⟨hoverrides, fun key => ?_⟩
    obtain ⟨hother, hmem⟩ := hkeys key
    rw [List.map_cons, List.map_cons, List.foldl_cons, List.mem_cons]
    constructor
    · intro hnot
      obtain ⟨hne, hnot⟩ := not_or.mp hnot
      rw [hother hnot, hput, Function.update_of_ne hne]
    · intro hkey
      by_cases hrest : key ∈ (rest.map Prod.fst).map
          fun buffer => toLex (buffer.streamId, frameNumber)
      · exact hmem hrest
      · have heq := hkey.resolve_right hrest
        rw [hother hrest, hput, heq, Function.update_self]
        rfl

section Inflight

variable {request : CaptureRequest} {fences : List (Option Nat)}
  (override : Option AETriggerCancelOverride)

theorem lookup_putInflight (hlength : fences.length = request.buffers.length)
    (key : StreamId ×ₗ Nat) :
    (key ∉ inflightKeys request →
      (session.putInflight request fences override).mInflightBuffers.lookup
        key = session.mInflightBuffers.lookup key) ∧
    (key ∈ inflightKeys request →
      ((session.putInflight request fences override).mInflightBuffers.lookup
        key).isSome) := by
  have hfold := (@foldl_putBufferInflight_inflight session request.frameNumber
    (request.inputBuffers.zip (fences.drop request.outputBuffers.length) ++
      request.outputBuffers.zip fences)).2 key
  rw [map_fst_inflight hlength] at hfold
  rw [putInflight.eq_def]
  cases override <;> exact hfold

theorem mInflightBuffers_takeBack :
    (session.takeBack request override).mInflightBuffers =
      (inflightKeys request).foldl OrderedMap.erase
        session.mInflightBuffers := by
  rw [inflightKeys, List.foldl_map, takeBack.eq_def]
  cases override <;> rfl

section

variable (hunused : session.FrameUnused request.frameNumber)
include hunused

/-- The override of a request is put in flight and taken back with it. -/
theorem FrameUnused.overrides_takeBack (queue : List UInt8) :
    (takeBack { session.putInflight request fences override with
        mRequestMetadataQueue := queue } request override
      ).mInflightAETriggerOverrides = session.mInflightAETriggerOverrides := by
  have hfold := (@foldl_putBufferInflight_inflight session request.frameNumber
    (request.inputBuffers.zip (fences.drop request.outputBuffers.length) ++
      request.outputBuffers.zip fences)).1
  rw [putInflight.eq_def, takeBack.eq_def]
  cases override with
  | none => exact hfold
  | some override =>
    apply OrderedMap.eq_of_lookup
    intro frame
    dsimp only
    rw [OrderedMap.lookup_erase, OrderedMap.lookup_insert, hfold]
    by_cases heq : frame = request.frameNumber
    · rw [heq, Function.update_self, hunused.override]
    · rw [Function.update_of_ne heq, Function.update_of_ne heq]

/-- Taking a request back undoes putting it in flight, if its frame number was
not used. -/
theorem FrameUnused.sameInflight_takeBack
    (hlength : fences.length = request.buffers.length) (queue : List UInt8) :
    SameInflight session (takeBack
      { session.putInflight request fences override with
        mRequestMetadataQueue := queue } request override) := by
  refine ⟨?_, hunused.overrides_takeBack override queue⟩
  apply OrderedMap.eq_of_lookup
  intro key
  rw [mInflightBuffers_takeBack, OrderedMap.lookup_foldl_erase]
  by_cases hkey : key ∈ inflightKeys request
  · obtain ⟨id, rfl⟩ := mem_inflightKeys_snd hkey
    rw [if_pos hkey, hunused.buffers]
  · rw [if_neg hkey]
    exact (lookup_putInflight override hlength key).1 hkey

/-- A request that stays in flight shows. -/
theorem FrameUnused.not_sameInflight_putInflight
    (hlength : fences.length = request.buffers.length)
    (houtputs : request.outputBuffers ≠ []) (queue : List UInt8) :
    ¬ SameInflight session { session.putInflight request fences override with
      mRequestMetadataQueue := queue } := by
  intro hsame
  obtain ⟨buffer, hbuffer⟩ := List.exists_mem_of_ne_nil _ houtputs
  have hkey : toLex (buffer.streamId, request.frameNumber) ∈
      inflightKeys request :=
    List.mem_map.mpr ⟨buffer, List.mem_append_right _ hbuffer, rfl⟩
  have hthere := (@lookup_putInflight session _ _ override hlength _).2 hkey
  have hbuffers : (session.putInflight request fences override
      ).mInflightBuffers = session.mInflightBuffers := hsame.buffers
  rw [hbuffers, hunused.buffers] at hthere
  cases hthere

end

end Inflight

/-! ## The whole request -/

/-- The request gets past its buffers and fences, and then settings of a
physical camera turn out to be unreadable, corrupt or missing. -/
def RejectsPhysicalSettings (library : MetadataLibrary)
    (importer : HandleImporter) (session : CameraDeviceSession)
    (request : CaptureRequest) : Prop :=
  match session.admitRequest library importer request with
  | .error _ => False
  | .ok admitted =>
    (physicalSettings library admitted.session request).map Prod.fst =
      some false

theorem Submits.rolledBack_iff {library : MetadataLibrary} {hal : HalStatus}
    {fences : List (Option Nat)} {override : Option AETriggerCancelOverride}
    {outcome : Outcome}
    (hsubmits : Submits library hal session request fences override outcome)
    (hunused : session.FrameUnused request.frameNumber)
    (hlength : fences.length = request.buffers.length)
    (houtputs : request.outputBuffers ≠ []) (hstatus : outcome.status ≠ .ok) :
    RolledBack session outcome ↔
      ¬ (physicalSettings library session request).map Prod.fst =
        some false := by
  cases hsubmits with
  | accepted => exact absurd rfl hstatus
  | refused hphysical =>
    rw [hphysical]
    exact iff_of_true
      ⟨hunused.sameInflight_takeBack override hlength _, .refl _⟩ nofun
  | rejected hphysical =>
    rw [hphysical]
    apply iff_of_false
    · intro hrolled
      exact hunused.not_sameInflight_putInflight override hlength houtputs _
        hrolled.inflight
    · exact not_not.mpr rfl

/-- A request whose frame number is not in use and that is not accepted is
rolled back, unless it fails on the settings of a physical camera. -/
theorem rolled_back_iff_physical_settings_accepted {library : MetadataLibrary}
    {importer : HandleImporter} {hal : HalStatus}
    {session : CameraDeviceSession} {request : CaptureRequest}
    {outcome : Outcome} (hunused : session.FrameUnused request.frameNumber)
    (hprocess : session.processOneCaptureRequest library importer hal request =
      some outcome) (hstatus : outcome.status ≠ .ok) :
    RolledBack session outcome ↔
      ¬ RejectsPhysicalSettings library importer session request := by
  have hadmits := @admits_admitRequest session library importer request
  rw [processOneCaptureRequest] at hprocess
  rw [RejectsPhysicalSettings]
  generalize session.admitRequest library importer request = result
    at hadmits hprocess ⊢
  cases hadmits with
  | rejected =>
      cases hprocess
      exact iff_of_true ⟨sameInflight_queue _, .refl _⟩ not_false
  | notImported _ himport =>
      cases hprocess
      exact iff_of_true ⟨(sameInflight_queue _).trans
        (sameInflight_importRequest himport), .refl _⟩ not_false
  | @admitted queue settings next fences houtputs himport =>
      have hsame := (@sameInflight_queue session queue).trans
        (sameInflight_importRequest himport)
      rw [← (submits_of_submitRequest hprocess).rolledBack_iff
        (hsame.frameUnused hunused) (length_fences_of_importRequest himport)
        houtputs hstatus]
      constructor
      · rintro ⟨⟨hbuffers, hoverrides⟩, hfences⟩
        exact ⟨⟨hbuffers.trans hsame.buffers.symm,
          hoverrides.trans hsame.overrides.symm⟩, hfences⟩
      · rintro ⟨hinflight, hfences⟩
        exact ⟨hsame.trans hinflight, hfences⟩

/-! ## A request that stays in flight -/

/-- Stream 0 has been configured. -/
def configuredSession : CameraDeviceSession :=
  ((opened deviceApiVersion32 false false false 1).configureStreams
    [{ id := 0 }] { status := .ok }).elim
      (opened deviceApiVersion32 false false false 1) Prod.snd

/-- One buffer of stream 0 with fence 5, and settings for one physical
camera. -/
def physicalRequest (settings : CameraMetadata) : CaptureRequest where
  frameNumber := 1
  settings := [4, 0, 0, 0]
  outputBuffers := [⟨0, 1, some 10, .ok, some 5⟩]
  physicalCameraSettings := [{ physicalCameraId := "2", settings := settings }]

/-- The HAL refuses the request, which is rolled back. -/
theorem rolled_back_iff_physical_settings_accepted_refused :
    ∃ outcome, configuredSession.processOneCaptureRequest sizedLibrary
        acceptingImporter .failed (physicalRequest [4, 0, 0, 0]) = some outcome ∧
      outcome.status = .internalError ∧ outcome.imported = [5] ∧
      RolledBack configuredSession outcome := by
  have hrun : (configuredSession.processOneCaptureRequest sizedLibrary
      acceptingImporter .failed (physicalRequest [4, 0, 0, 0])).map
        (fun outcome => (outcome.status, outcome.imported)) =
      some (.internalError, [5]) := by decide +kernel
  obtain ⟨outcome, houtcome, hfacts⟩ := Option.map_eq_some_iff.mp hrun
  obtain ⟨hstatus, himported⟩ := Prod.mk.inj hfacts
  refine ⟨outcome, houtcome, hstatus, himported, ?_⟩
  have hunused : configuredSession.FrameUnused 1 := ⟨fun _ => rfl, rfl⟩
  refine (rolled_back_iff_physical_settings_accepted hunused houtcome
    (by rw [hstatus]; exact nofun)).mpr ?_
  change ¬ some true = some false
  exact nofun

/-- The settings of the physical camera are corrupt.  The request is rejected
but its buffer stays in flight and its fence open, and every later configuration
fails. -/
theorem corrupt_physical_settings_stay_in_flight :
    configuredSession.FrameUnused 1 ∧
      ∃ outcome, configuredSession.processOneCaptureRequest sizedLibrary
          acceptingImporter .ok (physicalRequest [9, 0, 0, 0]) = some outcome ∧
        outcome.status = .illegalArgument ∧
        outcome.session.mInflightBuffers.keys = [toLex (0, 1)] ∧
        outcome.imported = [5] ∧ outcome.closed = [] ∧
        ∀ streams hal, outcome.session.configureStreams streams hal =
          some (.internalError, outcome.session) := by
  have hrun : (configuredSession.processOneCaptureRequest sizedLibrary
      acceptingImporter .ok (physicalRequest [9, 0, 0, 0])).map
        (fun outcome => (outcome.status, outcome.session.mInflightBuffers.keys,
          outcome.imported, outcome.closed)) =
      some (.illegalArgument, [toLex (0, 1)], [5], []) := by decide +kernel
  obtain ⟨outcome, houtcome, hfacts⟩ := Option.map_eq_some_iff.mp hrun
  simp only [Prod.mk.injEq] at hfacts
  obtain ⟨hstatus, hkeys, himported, hclosed⟩ := hfacts
  refine ⟨⟨fun _ => rfl, rfl⟩, outcome, houtcome, hstatus, hkeys, himported,
    hclosed, fun streams hal => ?_⟩
  have hinflight : outcome.session.mInflightBuffers.entries ≠ [] := by
    intro hnil
    rw [OrderedMap.keys, hnil] at hkeys
    cases hkeys
  rw [configureStreams, if_pos (Or.inl hinflight)]

end HardwareInterfaces.Camera.CameraDeviceSession

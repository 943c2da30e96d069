import HardwareInterfaces.Camera.CameraDeviceSession

/-!
# Results of the HAL

A result is checked in two places.  First each of its buffers has to be in
flight; the records of the buffers are erased right after that, and those of the
frame's overrides with its last metadata.  Then the metadata of the physical
cameras are checked, and a result that fails here is dropped, with its records
gone.
-/

namespace HardwareInterfaces.Camera

/-! ## A result and what is passed on -/

structure HalStreamBuffer where
  streamId : StreamId
  status : BufferStatus := .ok
  releaseFence : Option Nat := none
  deriving DecidableEq, Repr

/-- The metadata of the physical cameras come with the ids of the cameras. -/
structure HalCaptureResult where
  frameNumber : Nat
  result : Option CameraMetadata := none
  inputBuffer : Option HalStreamBuffer := none
  outputBuffers : List HalStreamBuffer := []
  partialResult : Nat := 0
  physcamMetadata : List PhysicalCameraMetadata := []
  deriving DecidableEq, Repr

/-- How the metadata of a result are overridden. -/
structure ResultOverrides where
  defaultBoost : CameraMetadata → CameraMetadata
  precaptureCancel : AETriggerCancelOverride → CameraMetadata → CameraMetadata

/-- The map of buffer ids is never filled, so that every buffer has the id that
stands for none. -/
def HalStreamBuffer.toAidl (buffer : HalStreamBuffer) : StreamBuffer :=
  { streamId := buffer.streamId
    bufferId := bufferIdNoBuffer
    status := buffer.status
    releaseFence := buffer.releaseFence.map fun descriptor => { descriptor } }

namespace HalCaptureResult

variable (result : HalCaptureResult)

/-- The part of a result that what is in flight depends on. -/
def toHalResult : HalResult where
  frameNumber := result.frameNumber
  result := result.result
  inputStream := result.inputBuffer.map HalStreamBuffer.streamId
  outputStreams := result.outputBuffers.map HalStreamBuffer.streamId
  partialResult := result.partialResult

/-- The records of its buffers. -/
def keys : List (StreamId ×ₗ Nat) :=
  (result.inputBuffer.toList ++ result.outputBuffers).map fun buffer =>
    toLex (buffer.streamId, result.frameNumber)

end HalCaptureResult

namespace CameraDeviceSession

/-- `CAMERA_DEVICE_API_VERSION_3_5` -/
def deviceApiVersion35 : Nat := 0x305

variable (session : CameraDeviceSession) (library : MetadataLibrary)
  (overrides : ResultOverrides) (physicalCameraIds : List String)
  (result : HalCaptureResult)

/-- The metadata as they are passed on. -/
def overriddenMetadata (metadata : CameraMetadata) : CameraMetadata :=
  let boostPresent :=
    (library.find metadata .controlPostRawSensitivityBoost).isSome ||
      session.mInflightRawBoostPresent.lookup result.frameNumber = some true
  let boosted :=
    if session.mDerivePostRawSensKey ∧
        result.partialResult = session.mNumPartialResults ∧
        ¬ boostPresent then overrides.defaultBoost metadata
    else metadata
  match session.mInflightAETriggerOverrides.lookup result.frameNumber with
  | none => boosted
  | some override => overrides.precaptureCancel override boosted

/-- The result for the framework, without the physical cameras. -/
def capturedResult : CaptureResult where
  frameNumber := result.frameNumber
  result := match result.result with
    | none => []
    | some metadata =>
      session.overriddenMetadata library overrides result metadata
  inputBuffer := match result.inputBuffer with
    | none => .absent
    | some buffer => buffer.toAidl
  outputBuffers := result.outputBuffers.map HalStreamBuffer.toAidl
  partialResult := result.partialResult

/-- Every buffer of the result is in flight. -/
def AllInflight : Prop :=
  ∀ key ∈ result.keys, (session.mInflightBuffers.lookup key).isSome = true

instance : Decidable (session.AllInflight result) :=
  inferInstanceAs (Decidable (∀ key ∈ result.keys, _))

/-- The metadata of physical cameras are for some of the cameras of the device,
or are not looked at. -/
def PhysicalAccepted : Prop :=
  deviceApiVersion35 ≤ session.mDeviceVersion →
    result.physcamMetadata.length ≤ physicalCameraIds.length ∧
      ∀ metadata ∈ result.physcamMetadata,
        metadata.physicalCameraId ∈ physicalCameraIds

instance : Decidable (session.PhysicalAccepted physicalCameraIds result) :=
  inferInstanceAs (Decidable (_ → _ ∧ _))

/-- What is passed on to the batcher, if anything, and the session after it. -/
def sProcessCaptureResult : Option CaptureResult × CameraDeviceSession :=
  let next := session.constructCaptureResult library result.toHalResult
  if session.AllInflight result then
    let captured := session.capturedResult library overrides result
    if deviceApiVersion35 ≤ session.mDeviceVersion then
      if result.physcamMetadata.length ≤ physicalCameraIds.length ∧
          ∀ metadata ∈ result.physcamMetadata,
            metadata.physicalCameraId ∈ physicalCameraIds then
        (some { captured with
          physicalCameraMetadata := result.physcamMetadata }, next)
      else (none, next)
    else (some captured, next)
  else (none, next)

/-! ## No buffer is lost -/

/-- The result is passed on with all its buffers, and their records leave. -/
structure PassedOn (captured : CaptureResult) (next : CameraDeviceSession) :
    Prop where
  frameNumber : captured.frameNumber = result.frameNumber
  outputBuffers :
    captured.outputBuffers = result.outputBuffers.map HalStreamBuffer.toAidl
  inputBuffer : captured.inputBuffer =
    (result.inputBuffer.map HalStreamBuffer.toAidl).getD .absent
  inflight : session.AllInflight result
  gone : ∀ key ∈ result.keys, next.mInflightBuffers.lookup key = none
  others : ∀ key ∉ result.keys, next.mInflightBuffers.lookup key =
    session.mInflightBuffers.lookup key

/-- What is in flight stays as it is. -/
structure InflightUnchanged (next : CameraDeviceSession) : Prop where
  buffers : next.mInflightBuffers = session.mInflightBuffers
  overrides : next.mInflightAETriggerOverrides =
    session.mInflightAETriggerOverrides
  boosts : next.mInflightRawBoostPresent = session.mInflightRawBoostPresent

/-- A result is passed on with all its buffers, or dropped without a trace. -/
def Lossless (outcome : Option CaptureResult × CameraDeviceSession) : Prop :=
  match outcome.1 with
  | some captured => session.PassedOn result captured outcome.2
  | none => session.InflightUnchanged outcome.2

/-- A result whose metadata and buffers leave no trace: it has no buffers, and
its metadata neither change what is known of the boost of the frame nor end an
override. -/
structure Traceless : Prop where
  buffers : result.keys = []
  boosts : ∀ metadata, result.result = some metadata →
    session.mDerivePostRawSensKey = true →
      if result.partialResult = session.mNumPartialResults then
        session.mInflightRawBoostPresent.lookup result.frameNumber = none
      else if
          (library.find metadata .controlPostRawSensitivityBoost).isSome then
        session.mInflightRawBoostPresent.lookup result.frameNumber = some true
      else
        (session.mInflightRawBoostPresent.lookup result.frameNumber).isSome =
          true
  overrides : result.result.isSome = true →
    result.partialResult = session.mNumPartialResults →
      session.mInflightAETriggerOverrides.lookup result.frameNumber = none

variable {session library overrides physicalCameraIds result}

/-! ### What the metadata of a result change -/

/-- Nothing but the boosts is changed. -/
theorem frame_trackRawBoost (halResult : HalResult)
    (metadata : CameraMetadata) :
    session.trackRawBoost library halResult metadata =
      { session with
        mInflightRawBoostPresent := (session.trackRawBoost library halResult
          metadata).mInflightRawBoostPresent } := by
  rw [trackRawBoost]
  split_ifs <;> rfl

/-- Nothing but the overrides is changed. -/
theorem frame_endAeOverride (halResult : HalResult) :
    session.endAeOverride halResult =
      { session with
        mInflightAETriggerOverrides := (session.endAeOverride
          halResult).mInflightAETriggerOverrides } := by
  rw [endAeOverride]
  split_ifs <;> rfl

theorem boosts_trackRawBoost_iff {halResult : HalResult}
    {metadata : CameraMetadata} :
    (session.trackRawBoost library halResult
        metadata).mInflightRawBoostPresent =
          session.mInflightRawBoostPresent ↔
      (session.mDerivePostRawSensKey = true →
        if halResult.partialResult = session.mNumPartialResults then
          session.mInflightRawBoostPresent.lookup halResult.frameNumber = none
        else if
            (library.find metadata .controlPostRawSensitivityBoost).isSome then
          session.mInflightRawBoostPresent.lookup halResult.frameNumber =
            some true
        else (session.mInflightRawBoostPresent.lookup
          halResult.frameNumber).isSome = true) := by
  rw [trackRawBoost]
  by_cases hderive : session.mDerivePostRawSensKey = true
  · rw [if_pos hderive, imp_iff_right hderive]
    by_cases hlast : halResult.partialResult = session.mNumPartialResults
    · -- The entry of the frame goes, whatever has been noted just before.
      simp only [if_pos hlast]
      rw [← OrderedMap.erase_eq_self_iff]
      split_ifs <;> simp only [OrderedMap.erase_insert]
    · simp only [if_neg hlast]
      split_ifs with hfind hpresent
      · exact OrderedMap.insert_eq_self_iff
      · exact iff_of_true rfl hpresent
      · rw [OrderedMap.insert_eq_self_iff]
        refine iff_of_false (fun hlookup => hpresent ?_) hpresent
        rw [hlookup]
        rfl
  · rw [if_neg hderive]
    exact iff_of_true rfl fun h => absurd h hderive

theorem overrides_endAeOverride_iff {halResult : HalResult} :
    (session.endAeOverride halResult).mInflightAETriggerOverrides =
        session.mInflightAETriggerOverrides ↔
      (halResult.partialResult = session.mNumPartialResults →
        session.mInflightAETriggerOverrides.lookup halResult.frameNumber =
          none) := by
  rw [endAeOverride]
  split_ifs with hlast
  · rw [imp_iff_right hlast]
    exact OrderedMap.erase_eq_self_iff
  · exact iff_of_true rfl fun h => absurd h hlast

/-! ### What a result changes -/

/-- The session after the metadata of a result. -/
def trackMetadata (session : CameraDeviceSession) (library : MetadataLibrary)
    (result : HalCaptureResult) : CameraDeviceSession :=
  match result.result with
  | none => session
  | some metadata => (session.trackRawBoost library result.toHalResult
      metadata).endAeOverride result.toHalResult

/-- The metadata leave the buffers alone. -/
theorem buffers_trackMetadata :
    (session.trackMetadata library result).mInflightBuffers =
      session.mInflightBuffers := by
  rw [trackMetadata]
  cases result.result with
  | none => rfl
  | some metadata =>
    dsimp only
    rw [frame_endAeOverride, frame_trackRawBoost]

/-- The streams of a result, in the order in which they are looked at. -/
theorem map_streams_toHalResult :
    (result.toHalResult.inputStream.toList ++
        result.toHalResult.outputStreams).map
      (fun id => toLex (id, result.frameNumber)) = result.keys := by
  rw [HalCaptureResult.keys, HalCaptureResult.toHalResult]
  cases result.inputBuffer <;> simp

theorem all_inflight_iff :
    ((result.toHalResult.inputStream.toList ++
        result.toHalResult.outputStreams).all fun id =>
      (session.mInflightBuffers.lookup
        (toLex (id, result.toHalResult.frameNumber))).isSome) = true ↔
      session.AllInflight result := by
  rw [AllInflight, ← map_streams_toHalResult, List.forall_mem_map,
    List.all_eq_true]
  rfl

theorem constructCaptureResult_of_allInflight
    (hinflight : session.AllInflight result) :
    session.constructCaptureResult library result.toHalResult =
      { session.trackMetadata library result with
        mInflightBuffers :=
          result.keys.foldl OrderedMap.erase session.mInflightBuffers } := by
  rw [constructCaptureResult]
  dsimp only
  rw [if_pos (all_inflight_iff.mpr hinflight), ← map_streams_toHalResult,
    List.foldl_map, ← @buffers_trackMetadata session library result]
  rfl

theorem constructCaptureResult_of_not_allInflight
    (hinflight : ¬ session.AllInflight result) :
    session.constructCaptureResult library result.toHalResult = session := by
  rw [constructCaptureResult]
  exact if_neg (mt all_inflight_iff.mp hinflight)

/-- Buffers in flight leave a trace. -/
theorem foldl_erase_keys_iff (hinflight : session.AllInflight result) :
    result.keys.foldl OrderedMap.erase session.mInflightBuffers =
        session.mInflightBuffers ↔ result.keys = [] := by
  constructor
  · intro hsame
    rw [List.eq_nil_iff_forall_not_mem]
    intro key hkey
    have hgone := OrderedMap.lookup_foldl_erase session.mInflightBuffers
      result.keys key
    have hthere := hinflight key hkey
    rw [hsame, if_pos hkey] at hgone
    rw [hgone] at hthere
    exact Bool.false_ne_true hthere
  · intro hnone
    rw [hnone]
    rfl

theorem boosts_trackMetadata_iff :
    (session.trackMetadata library result).mInflightRawBoostPresent =
        session.mInflightRawBoostPresent ↔
      ∀ metadata, result.result = some metadata →
        (session.trackRawBoost library result.toHalResult
          metadata).mInflightRawBoostPresent =
            session.mInflightRawBoostPresent := by
  rw [trackMetadata]
  cases result.result with
  | none => exact iff_of_true rfl nofun
  | some metadata =>
    dsimp only
    rw [frame_endAeOverride]
    exact ⟨fun hsame _ hmetadata => Option.some.inj hmetadata ▸ hsame,
      fun hall => hall metadata rfl⟩

theorem overrides_trackMetadata_iff :
    (session.trackMetadata library result).mInflightAETriggerOverrides =
        session.mInflightAETriggerOverrides ↔
      (result.result.isSome = true →
        result.partialResult = session.mNumPartialResults →
          session.mInflightAETriggerOverrides.lookup result.frameNumber =
            none) := by
  rw [trackMetadata]
  cases result.result with
  | none => exact iff_of_true rfl nofun
  | some metadata =>
    dsimp only
    rw [frame_trackRawBoost]
    have hend := @overrides_endAeOverride_iff
      { session with
        mInflightRawBoostPresent := (session.trackRawBoost library
          result.toHalResult metadata).mInflightRawBoostPresent }
      result.toHalResult
    exact ⟨fun hsame _ => hend.mp hsame, fun hnone => hend.mpr (hnone rfl)⟩

/-- A dropped result leaves what is in flight as it is exactly when it is
traceless. -/
theorem sameInflight_iff_traceless (hinflight : session.AllInflight result) :
    session.InflightUnchanged
        (session.constructCaptureResult library result.toHalResult) ↔
      session.Traceless library result := by
  rw [constructCaptureResult_of_allInflight hinflight]
  constructor
  · intro hsame
    refine ⟨(foldl_erase_keys_iff hinflight).mp hsame.buffers, ?_,
      overrides_trackMetadata_iff.mp hsame.overrides⟩
    intro metadata hmetadata
    exact boosts_trackRawBoost_iff.mp
      (boosts_trackMetadata_iff.mp hsame.boosts metadata hmetadata)
  · intro htraceless
    refine ⟨(foldl_erase_keys_iff hinflight).mpr htraceless.buffers,
      overrides_trackMetadata_iff.mpr htraceless.overrides, ?_⟩
    refine boosts_trackMetadata_iff.mpr fun metadata hmetadata => ?_
    exact boosts_trackRawBoost_iff.mpr (htraceless.boosts metadata hmetadata)

/-! ### Passing a result on -/

theorem passedOn_of_allInflight (hinflight : session.AllInflight result)
    (physcam : List PhysicalCameraMetadata) :
    session.PassedOn result
      { session.capturedResult library overrides result with
        physicalCameraMetadata := physcam }
      (session.constructCaptureResult library result.toHalResult) where
  frameNumber := rfl
  outputBuffers := rfl
  inputBuffer := by
    rw [capturedResult]
    cases result.inputBuffer <;> rfl
  inflight := hinflight
  gone := by
    intro key hkey
    rw [constructCaptureResult_of_allInflight hinflight]
    exact (OrderedMap.lookup_foldl_erase _ _ key).trans (if_pos hkey)
  others := by
    intro key hkey
    rw [constructCaptureResult_of_allInflight hinflight]
    exact (OrderedMap.lookup_foldl_erase _ _ key).trans (if_neg hkey)

theorem sProcessCaptureResult_of_accepted
    (hinflight : session.AllInflight result)
    (haccepted : session.PhysicalAccepted physicalCameraIds result) :
    ∃ physcam, session.sProcessCaptureResult library overrides
        physicalCameraIds result =
      (some { session.capturedResult library overrides result with
          physicalCameraMetadata := physcam },
        session.constructCaptureResult library result.toHalResult) := by
  rw [sProcessCaptureResult]
  dsimp only
  rw [if_pos hinflight]
  split_ifs with hversion hphysical
  · exact ⟨_, rfl⟩
  · exact absurd (haccepted hversion) hphysical
  · exact ⟨[], rfl⟩

theorem sProcessCaptureResult_of_not_accepted
    (haccepted : ¬ session.PhysicalAccepted physicalCameraIds result) :
    session.sProcessCaptureResult library overrides physicalCameraIds result =
      (none, session.constructCaptureResult library result.toHalResult) := by
  obtain ⟨hversion, hphysical⟩ := Classical.not_imp.mp haccepted
  rw [sProcessCaptureResult]
  dsimp only
  rw [if_pos hversion, if_neg hphysical]
  split_ifs <;> rfl

/-- A result is passed on or dropped without a trace exactly when its physical
metadata are accepted, or it has a buffer that is not in flight, or there is
nothing in it to lose. -/
theorem result_lossless_iff (session : CameraDeviceSession)
    (library : MetadataLibrary) (overrides : ResultOverrides)
    (physicalCameraIds : List String) (result : HalCaptureResult) :
    session.Lossless result (session.sProcessCaptureResult library overrides
        physicalCameraIds result) ↔
      session.PhysicalAccepted physicalCameraIds result ∨
        ¬ session.AllInflight result ∨ session.Traceless library result := by
  by_cases hinflight : session.AllInflight result
  · by_cases haccepted : session.PhysicalAccepted physicalCameraIds result
    · obtain ⟨physcam, hprocess⟩ :=
        @sProcessCaptureResult_of_accepted session library overrides
          physicalCameraIds result hinflight haccepted
      rw [hprocess]
      exact iff_of_true (passedOn_of_allInflight hinflight physcam)
        (.inl haccepted)
    · rw [sProcessCaptureResult_of_not_accepted haccepted,
        or_iff_right haccepted, or_iff_right (not_not_intro hinflight)]
      exact sameInflight_iff_traceless hinflight
  · have hprocess : session.sProcessCaptureResult library overrides
        physicalCameraIds result = (none, session) := by
      rw [sProcessCaptureResult]
      dsimp only
      rw [if_neg hinflight,
        constructCaptureResult_of_not_allInflight hinflight]
    rw [hprocess]
    exact iff_of_true ⟨rfl, rfl, rfl⟩ (.inr (.inl hinflight))

/-- A session with one buffer in flight. -/
def oneInflight : CameraDeviceSession where
  mDeviceVersion := deviceApiVersion35
  mFreeBufEarly := false
  mInflightBuffers := OrderedMap.empty.insert (toLex (0, 7)) ⟨none, .ok, none⟩

/-- Its result, with metadata of a physical camera that the device does not
have. -/
def unknownCameraResult : HalCaptureResult where
  frameNumber := 7
  outputBuffers := [{ streamId := 0 }]
  physcamMetadata := [⟨"5", []⟩]

/-- The result is dropped, and its buffer is not in flight any more. -/
theorem result_dropped_with_buffer :
    (oneInflight.sProcessCaptureResult sizedLibrary ⟨id, fun _ => id⟩ ["2"]
        unknownCameraResult).1 = none ∧
      ¬ oneInflight.Lossless unknownCameraResult
        (oneInflight.sProcessCaptureResult sizedLibrary ⟨id, fun _ => id⟩
          ["2"] unknownCameraResult) := by
  have hnone : (oneInflight.sProcessCaptureResult sizedLibrary
      ⟨id, fun _ => id⟩ ["2"] unknownCameraResult).1 = none := by decide +kernel
  refine ⟨hnone, fun hlossless => ?_⟩
  rw [Lossless, hnone] at hlossless
  have hlookup := congrArg (OrderedMap.lookup · (toLex (0, 7)))
    hlossless.buffers
  exact absurd hlookup (by decide +kernel)

end CameraDeviceSession

end HardwareInterfaces.Camera

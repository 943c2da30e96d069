import HardwareInterfaces.Camera.RequestSteps

/-!
# Streams and their circulating buffers

`cleanupBuffersLocked` takes for granted that every stream in `mStreamMap` has
an entry in `mCirculatingBuffers`.  A configuration keeps this, whether the
buffers of deleted streams are freed early or late, and whatever the HAL
answers.  A request may add streams to both tables: to `mStreamMap` for each of
its buffers, but to `mCirculatingBuffers` only for buffers that are imported.

The effect of requests on the keys of the two tables is `Grows`.  It composes,
so that what a whole call does follows from what one buffer does.
-/

namespace HardwareInterfaces.Camera.CameraDeviceSession

open Transition

variable {session next : CameraDeviceSession}

def StreamsCirculate (session : CameraDeviceSession) : Prop :=
  ∀ id ∈ session.mStreamMap.keys, id ∈ session.mCirculatingBuffers.keys

/-! ## Stream configuration -/

variable {id : StreamId}

theorem mem_keys_emplaceCirculating {other : StreamId} :
    other ∈ (session.emplaceCirculating id).mCirculatingBuffers.keys ↔
      other = id ∨ other ∈ session.mCirculatingBuffers.keys := by
  rw [emplaceCirculating]
  split
  case isTrue hcirculates =>
    have hmem := OrderedMap.mem_keys_iff.mpr hcirculates
    constructor
    · exact Or.inr
    · rintro (rfl | hother)
      · exact hmem
      · exact hother
  case isFalse => exact OrderedMap.mem_keys_insert

@[simp]
theorem mStreamMap_emplaceCirculating (id : StreamId) :
    (session.emplaceCirculating id).mStreamMap = session.mStreamMap := by
  rw [emplaceCirculating]
  split <;> rfl

@[simp]
theorem mFreeBufEarly_emplaceCirculating (id : StreamId) :
    (session.emplaceCirculating id).mFreeBufEarly = session.mFreeBufEarly := by
  rw [emplaceCirculating]
  split <;> rfl

theorem mFreeBufEarly_preProcessStream (stream : Stream) :
    (session.preProcessStream stream).2.mFreeBufEarly =
      session.mFreeBufEarly := by
  rw [preProcessStream]
  split
  · exact mFreeBufEarly_emplaceCirculating stream.id
  · split <;> rfl

theorem StreamsCirculate.preProcessStream (hcirculate : session.StreamsCirculate)
    (stream : Stream) : (session.preProcessStream stream).2.StreamsCirculate := by
  rw [CameraDeviceSession.preProcessStream]
  split
  case h_1 =>
    intro id hid
    simp only [mStreamMap_emplaceCirculating, OrderedMap.mem_keys_insert] at hid
    exact mem_keys_emplaceCirculating.mpr (hid.imp_right (hcirculate id))
  case h_2 old hold =>
    split
    case isTrue => exact hcirculate
    case isFalse =>
      intro id hid
      rcases OrderedMap.mem_keys_insert.mp hid with rfl | hid
      · exact hcirculate _ (OrderedMap.mem_keys_iff.mpr (by rw [hold]; rfl))
      · exact hcirculate id hid

theorem preProcessStreams_invariant {invariant : CameraDeviceSession → Prop}
    (hkeep : ∀ session stream, invariant session →
      invariant (session.preProcessStream stream).2) (streams : List Stream)
    (hinit : invariant session) :
    invariant (preProcessStreams streams session).2 := by
  induction streams generalizing session with
  | nil => exact hinit
  | cons stream streams ih =>
    have hnext := hkeep session stream hinit
    rw [preProcessStreams]
    split
    case h_1 next hstream => exact ih (by simpa only [hstream] using hnext)
    case h_2 next hstream => simpa only [hstream] using hnext

variable {ids : List StreamId}

/-- A loop over streams, with what holds before the streams that remain. -/
theorem forStreams_rule
    {body : CameraDeviceSession → StreamId → Option CameraDeviceSession}
    {before : List StreamId → CameraDeviceSession → Prop}
    (hbody : ∀ id ids session, before (id :: ids) session →
      ∃ next, body session id = some next ∧ before ids next)
    (hbefore : before ids session) :
    ∃ last, forStreams body ids session = some last ∧ before [] last := by
  induction ids generalizing session with
  | nil => exact ⟨session, rfl, hbefore⟩
  | cons id ids ih =>
    obtain ⟨next, hnext, hrest⟩ := hbody id ids session hbefore
    obtain ⟨last, hlast, hdone⟩ := ih hrest
    refine ⟨last, ?_, hdone⟩
    rw [forStreams, hnext, Option.bind_some, hlast]

theorem cleanupBuffersLocked_eq_some
    (hid : id ∈ session.mCirculatingBuffers.keys) :
    session.cleanupBuffersLocked id = some { session with
      mCirculatingBuffers := session.mCirculatingBuffers.erase id } := by
  obtain ⟨cbs, hcbs⟩ :=
    Option.isSome_iff_exists.mp (OrderedMap.mem_keys_iff.mp hid)
  rw [cleanupBuffersLocked, hcbs, Option.map_some]

/-- The tables when the HAL is asked: the streams that stay have buffers, and
the others have lost theirs only if they are freed early. -/
structure Prepared (streams : List Stream) (session : CameraDeviceSession) :
    Prop where
  kept : ∀ id ∈ session.mStreamMap.keys, id ∉ session.deletedStreams streams →
    id ∈ session.mCirculatingBuffers.keys
  late : session.mFreeBufEarly = false → session.StreamsCirculate

theorem StreamsCirculate.prepared (hcirculate : session.StreamsCirculate)
    (streams : List Stream) : Prepared streams session :=
  ⟨fun id hid _ => hcirculate id hid, fun _ => hcirculate⟩

theorem nodup_deletedStreams (streams : List Stream) :
    (session.deletedStreams streams).Nodup :=
  (OrderedMap.nodup_keys _).filter _

variable {streams : List Stream}

theorem mem_keys_of_mem_deletedStreams
    (hid : id ∈ session.deletedStreams streams) :
    id ∈ session.mStreamMap.keys :=
  (List.mem_filter.mp hid).1

/-- The early freeing of buffers, before the deleted streams that remain. -/
structure Cleaning (streams : List Stream) (session : CameraDeviceSession)
    (ids : List StreamId) (current : CameraDeviceSession) : Prop where
  nodup : ids.Nodup
  deleted : ∀ id ∈ ids, id ∈ session.deletedStreams streams
  mStreamMap : current.mStreamMap = session.mStreamMap
  early : current.mFreeBufEarly = true
  remaining : ∀ id ∈ ids, id ∈ current.mCirculatingBuffers.keys
  kept : ∀ id ∈ session.mStreamMap.keys, id ∉ session.deletedStreams streams →
    id ∈ current.mCirculatingBuffers.keys

theorem Cleaning.exists_cleanupBuffersLocked {current : CameraDeviceSession}
    (hcleaning : Cleaning streams session (id :: ids) current) :
    ∃ after, current.cleanupBuffersLocked id = some after ∧
      Cleaning streams session ids after := by
  obtain ⟨hfresh, hnodup⟩ := List.nodup_cons.mp hcleaning.nodup
  obtain ⟨hid, hremaining⟩ := List.forall_mem_cons.mp hcleaning.remaining
  obtain ⟨hgone, hdeleted⟩ := List.forall_mem_cons.mp hcleaning.deleted
  refine ⟨_, cleanupBuffersLocked_eq_some hid, hnodup, hdeleted,
    hcleaning.mStreamMap, hcleaning.early, ?_, ?_⟩
  · intro other hother
    exact OrderedMap.mem_keys_erase.mpr
      ⟨fun heq => hfresh (heq ▸ hother), hremaining other hother⟩
  · intro other hother hstays
    exact OrderedMap.mem_keys_erase.mpr
      ⟨fun heq => hstays (heq ▸ hgone), hcleaning.kept other hother hstays⟩

/-- Freeing the buffers of the deleted streams early finds all of them. -/
theorem StreamsCirculate.exists_cleaned (hcirculate : session.StreamsCirculate)
    (hearly : session.mFreeBufEarly = true) (streams : List Stream) :
    ∃ cleaned, forStreams cleanupBuffersLocked (session.deletedStreams streams)
      session = some cleaned ∧ Prepared streams cleaned := by
  have hinit : Cleaning streams session (session.deletedStreams streams)
      session :=
    ⟨nodup_deletedStreams streams, fun _ hid => hid, rfl, hearly,
      fun id hid => hcirculate id (mem_keys_of_mem_deletedStreams hid),
      fun id hid _ => hcirculate id hid⟩
  obtain ⟨cleaned, hcleaned, hdone⟩ := forStreams_rule
    (fun _ _ _ hcleaning => hcleaning.exists_cleanupBuffersLocked) hinit
  refine ⟨cleaned, hcleaned, ?_, ?_⟩
  · intro id hid hstays
    rw [deletedStreams, hdone.mStreamMap] at hstays
    exact hdone.kept id (hdone.mStreamMap ▸ hid) hstays
  · intro hlate
    rw [hdone.early] at hlate
    cases hlate

theorem StreamsCirculate.exists_preProcessed
    (hcirculate : session.StreamsCirculate) (streams : List Stream) :
    ∃ accepted next,
      session.preProcessConfigurationLocked streams = some (accepted, next) ∧
        (accepted = false → next.StreamsCirculate) ∧ Prepared streams next := by
  have hnext : (preProcessStreams streams session).2.StreamsCirculate :=
    preProcessStreams_invariant
      (fun _ stream hinv => hinv.preProcessStream stream) streams hcirculate
  have hflag : (preProcessStreams streams session).2.mFreeBufEarly =
      session.mFreeBufEarly :=
    @preProcessStreams_invariant session
      (fun current => current.mFreeBufEarly = session.mFreeBufEarly)
      (fun _ stream heq => (mFreeBufEarly_preProcessStream stream).trans heq)
      streams rfl
  rw [preProcessConfigurationLocked]
  split
  case h_1 next heq =>
    rw [heq] at hnext
    exact ⟨false, next, rfl, fun _ => hnext, hnext.prepared streams⟩
  case h_2 next heq =>
    rw [heq] at hnext hflag
    split
    case isTrue hearly =>
      obtain ⟨cleaned, hcleaned, hprepared⟩ :=
        hnext.exists_cleaned (hflag.trans hearly) streams
      exact ⟨true, cleaned, by rw [hcleaned, Option.map_some], nofun, hprepared⟩
    case isFalse =>
      exact ⟨true, next, rfl, nofun, hnext.prepared streams⟩

/-! What the HAL writes leaves the keys of the tables alone. -/

theorem mem_keys_fillStream {other : StreamId} (hal : HalConfiguration)
    (id : StreamId) :
    other ∈ (session.fillStream hal id).mStreamMap.keys ↔
      other ∈ session.mStreamMap.keys := by
  rw [fillStream]
  split
  · exact Iff.rfl
  · next entry hentry =>
      rw [OrderedMap.mem_keys_insert, or_iff_right_iff_imp]
      rintro rfl
      exact OrderedMap.mem_keys_iff.mpr (Option.isSome_of_mem hentry)

theorem fillStream_eq (hal : HalConfiguration) (id : StreamId) :
    session.fillStream hal id =
      { session with mStreamMap := (session.fillStream hal id).mStreamMap } := by
  rw [fillStream]
  split <;> rfl

theorem fillStreams_eq (hal : HalConfiguration) (streams : List Stream) :
    session.fillStreams hal streams =
      { session with mStreamMap :=
          (session.fillStreams hal streams).mStreamMap } := by
  rw [fillStreams]
  induction streams generalizing session with
  | nil => rfl
  | cons stream streams ih =>
    rw [List.foldl_cons, ih, fillStream_eq]

theorem mem_keys_fillStreams (hal : HalConfiguration) (streams : List Stream) :
    id ∈ (session.fillStreams hal streams).mStreamMap.keys ↔
      id ∈ session.mStreamMap.keys := by
  rw [fillStreams]
  induction streams generalizing session with
  | nil => exact Iff.rfl
  | cons stream streams ih => exact ih.trans (mem_keys_fillStream hal stream.id)

theorem Prepared.fillStreams (hprepared : Prepared streams session)
    (hal : HalConfiguration) :
    Prepared streams (session.fillStreams hal streams) := by
  have hstays : ∀ id, id ∈ session.mStreamMap.keys →
      id ∉ (session.fillStreams hal streams).deletedStreams streams →
      id ∉ session.deletedStreams streams := by
    intro id hid hstays hdeleted
    refine hstays (List.mem_filter.mpr ⟨?_, (List.mem_filter.mp hdeleted).2⟩)
    exact (mem_keys_fillStreams hal streams).mpr hid
  constructor
  · intro id hid hkept
    have hmem := (mem_keys_fillStreams hal streams).mp hid
    rw [fillStreams_eq]
    exact hprepared.kept id hmem (hstays id hmem hkept)
  · intro hlate id hid
    rw [fillStreams_eq] at hlate ⊢
    exact hprepared.late hlate id ((mem_keys_fillStreams hal streams).mp hid)

/-- The deletion of streams, before those that remain. -/
structure Deleting (early : Bool) (ids : List StreamId)
    (current : CameraDeviceSession) : Prop where
  nodup : ids.Nodup
  mFreeBufEarly : current.mFreeBufEarly = early
  kept : ∀ id ∈ current.mStreamMap.keys, id ∉ ids →
    id ∈ current.mCirculatingBuffers.keys
  remaining : early = false → ∀ id ∈ ids, id ∈ current.mCirculatingBuffers.keys

theorem Deleting.exists_deleteStream {early : Bool}
    {current : CameraDeviceSession}
    (hdeleting : Deleting early (id :: ids) current) :
    ∃ after, current.deleteStream id = some after ∧
      Deleting early ids after := by
  obtain ⟨hfresh, hnodup⟩ := List.nodup_cons.mp hdeleting.nodup
  have hkept : ∀ other, other ≠ id → other ∈ current.mStreamMap.keys →
      other ∉ ids → other ∈ current.mCirculatingBuffers.keys := by
    intro other hne hother hnot
    exact hdeleting.kept other hother (by simp [hne, hnot])
  rw [deleteStream, hdeleting.mFreeBufEarly]
  cases early with
  | true =>
    refine ⟨_, rfl, hnodup, hdeleting.mFreeBufEarly, ?_, nofun⟩
    intro other hother
    obtain ⟨hne, hother⟩ := OrderedMap.mem_keys_erase.mp hother
    exact hkept other hne hother
  | false =>
    obtain ⟨hid, hremaining⟩ :=
      List.forall_mem_cons.mp (hdeleting.remaining rfl)
    rw [cleanupBuffersLocked_eq_some hid]
    refine ⟨_, rfl, hnodup, hdeleting.mFreeBufEarly, ?_, ?_⟩
    · intro other hother hnot
      obtain ⟨hne, hother⟩ := OrderedMap.mem_keys_erase.mp hother
      exact OrderedMap.mem_keys_erase.mpr ⟨hne, hkept other hne hother hnot⟩
    · intro _ other hother
      exact OrderedMap.mem_keys_erase.mpr
        ⟨fun heq => hfresh (heq ▸ hother), hremaining other hother⟩

theorem Prepared.exists_postProcessed (hprepared : Prepared streams session) :
    ∃ next, session.postProcessConfigurationLocked streams = some next ∧
      next.StreamsCirculate := by
  have hinit : Deleting session.mFreeBufEarly (session.deletedStreams streams)
      session :=
    ⟨nodup_deletedStreams streams, rfl, hprepared.kept, fun hlate id hid =>
      hprepared.late hlate id (mem_keys_of_mem_deletedStreams hid)⟩
  obtain ⟨last, hlast, hdone⟩ := forStreams_rule
    (fun _ _ _ hdeleting => hdeleting.exists_deleteStream) hinit
  refine ⟨_, by rw [postProcessConfigurationLocked, hlast, Option.map_some], ?_⟩
  exact fun id hid => hdone.kept id hid List.not_mem_nil

/-- The entries of the deleted streams are put back when the HAL has failed. -/
theorem Prepared.postProcessConfigurationFailureLocked
    (hprepared : Prepared streams session) :
    (session.postProcessConfigurationFailureLocked streams).StreamsCirculate := by
  have hfold : ∀ (ids : List StreamId) (current : CameraDeviceSession),
      (ids.foldl emplaceCirculating current).mStreamMap = current.mStreamMap ∧
        ∀ other, other ∈ ids ∨ other ∈ current.mCirculatingBuffers.keys →
          other ∈
            (ids.foldl emplaceCirculating current).mCirculatingBuffers.keys := by
    intro ids
    induction ids with
    | nil => exact fun current => ⟨rfl, fun other hother => by simpa using hother⟩
    | cons id ids ih =>
      intro current
      obtain ⟨hmap, hmem⟩ := ih (current.emplaceCirculating id)
      refine ⟨hmap.trans (mStreamMap_emplaceCirculating id), ?_⟩
      intro other hother
      apply hmem
      rw [mem_keys_emplaceCirculating]
      rw [List.mem_cons] at hother
      tauto
  rw [CameraDeviceSession.postProcessConfigurationFailureLocked]
  split
  case isTrue =>
    obtain ⟨hmap, hmem⟩ := hfold (session.deletedStreams streams) session
    intro id hid
    rw [hmap] at hid
    apply hmem
    by_cases hdeleted : id ∈ session.deletedStreams streams
    · exact Or.inl hdeleted
    · exact Or.inr (hprepared.kept id hid hdeleted)
  case isFalse hearly => exact hprepared.late (Bool.eq_false_iff.mpr hearly)

/-- No configuration throws, and whatever becomes of it the streams have their
buffers. -/
theorem StreamsCirculate.exists_configured
    (hcirculate : session.StreamsCirculate) (streams : List Stream)
    (hal : HalConfiguration) :
    ∃ answer, session.configureStreams streams hal = some answer ∧
      answer.2.StreamsCirculate := by
  rw [configureStreams]
  split
  · exact ⟨_, rfl, hcirculate⟩
  split
  · exact ⟨_, rfl, hcirculate⟩
  obtain ⟨accepted, next, hpre, hrejected, hprepared⟩ :=
    hcirculate.exists_preProcessed streams
  rw [hpre]
  cases accepted with
  | false => exact ⟨_, rfl, hrejected rfl⟩
  | true =>
    have hfilled := hprepared.fillStreams hal
    dsimp only
    cases hal.status with
    | ok =>
      obtain ⟨configured, hpost, hdone⟩ := hfilled.exists_postProcessed
      rw [hpost]
      exact ⟨_, rfl, hdone⟩
    | invalid | failed =>
      exact ⟨_, rfl, hfilled.postProcessConfigurationFailureLocked⟩

/-! ## Capture requests -/

/-- Streams are added to the tables.  Those without circulating buffers are
streams of the empty buffers. -/
structure Grows (empties : List RequestBuffer)
    (session next : CameraDeviceSession) : Prop where
  circulating : ∀ id ∈ session.mCirculatingBuffers.keys,
    id ∈ next.mCirculatingBuffers.keys
  streams : ∀ id ∈ session.mStreamMap.keys, id ∈ next.mStreamMap.keys
  added : ∀ id ∈ next.mStreamMap.keys, id ∈ session.mStreamMap.keys ∨
    id ∈ next.mCirculatingBuffers.keys ∨
    ∃ buffer ∈ empties, buffer.streamId = id
  empties : ∀ buffer ∈ empties, buffer.streamId ∈ next.mStreamMap.keys

namespace Grows

variable {empties later : List RequestBuffer} {last : CameraDeviceSession}

theorem of_eq (hstreams : next.mStreamMap = session.mStreamMap)
    (hcirculating : ∀ id ∈ session.mCirculatingBuffers.keys,
      id ∈ next.mCirculatingBuffers.keys) : Grows [] session next where
  circulating := hcirculating
  streams := fun _ hid => hstreams ▸ hid
  added := fun _ hid => Or.inl (hstreams ▸ hid)
  empties := nofun

theorem refl (session : CameraDeviceSession) : Grows [] session session :=
  of_eq rfl fun _ hid => hid

theorem trans (hfirst : Grows empties session next)
    (hsecond : Grows later next last) :
    Grows (empties ++ later) session last where
  circulating := fun id hid => hsecond.circulating id (hfirst.circulating id hid)
  streams := fun id hid => hsecond.streams id (hfirst.streams id hid)
  added := by
    intro id hid
    rcases hsecond.added id hid with hknown | hcirc | ⟨buffer, hbuffer, rfl⟩
    · rcases hfirst.added id hknown with hknown | hcirc | ⟨buffer, hbuffer, rfl⟩
      · exact Or.inl hknown
      · exact Or.inr (Or.inl (hsecond.circulating id hcirc))
      · exact Or.inr (Or.inr ⟨buffer, List.mem_append_left _ hbuffer, rfl⟩)
    · exact Or.inr (Or.inl hcirc)
    · exact Or.inr (Or.inr ⟨buffer, List.mem_append_right _ hbuffer, rfl⟩)
  empties := by
    intro buffer hbuffer
    rcases List.mem_append.mp hbuffer with hbuffer | hbuffer
    · exact hsecond.streams _ (hfirst.empties buffer hbuffer)
    · exact hsecond.empties buffer hbuffer

/-- The streams keep their buffers exactly if those of the empty buffers have
some. -/
theorem streamsCirculate_iff (hgrows : Grows empties session next)
    (hcirculate : session.StreamsCirculate) :
    next.StreamsCirculate ↔
      ∀ buffer ∈ empties, buffer.streamId ∈ next.mCirculatingBuffers.keys := by
  constructor
  · intro hnext buffer hbuffer
    exact hnext _ (hgrows.empties buffer hbuffer)
  · intro hempties id hid
    rcases hgrows.added id hid with hknown | hcirc | ⟨buffer, hbuffer, rfl⟩
    · exact hgrows.circulating id (hcirculate id hknown)
    · exact hcirc
    · exact hempties buffer hbuffer

end Grows

theorem grows_removeCache (cache : BufferCache) :
    Grows [] session (session.removeCache cache) := by
  rw [removeCache]
  split
  · exact .refl session
  · exact .of_eq rfl fun _ hid => OrderedMap.mem_keys_insert.mpr (Or.inr hid)

theorem grows_updateBufferCaches (cachesToRemove : List BufferCache) :
    Grows [] session (session.updateBufferCaches cachesToRemove) := by
  rw [updateBufferCaches]
  induction cachesToRemove generalizing session with
  | nil => exact .refl session
  | cons cache caches ih => exact (grows_removeCache cache).trans ih

/-- After an import the stream of the buffer has circulating buffers, unless the
buffer is empty and may be. -/
def Imported (session : CameraDeviceSession) (buffer : RequestBuffer)
    (allowEmptyBuf : Bool) : Prop :=
  buffer.streamId ∈ session.mCirculatingBuffers.keys ∨
    buffer.isEmpty = true ∧ allowEmptyBuf = true

variable {buffer : RequestBuffer}

theorem Grows.imported {empties : List RequestBuffer}
    (hgrows : Grows empties session next) {allowEmptyBuf : Bool}
    (himported : session.Imported buffer allowEmptyBuf) :
    next.Imported buffer allowEmptyBuf :=
  himported.imp_left (hgrows.circulating _)

theorem grows_importBuffer (importer : HandleImporter) (buffer : RequestBuffer)
    (allowEmptyBuf : Bool) :
    Grows [] session (session.importBuffer importer buffer allowEmptyBuf).2 := by
  rw [importBuffer]
  split
  · exact .refl session
  · have hinsert : ∀ cbs, Grows [] session { session with
        mCirculatingBuffers :=
          session.mCirculatingBuffers.insert buffer.streamId cbs } :=
      fun _ => .of_eq rfl fun _ hid => OrderedMap.mem_keys_insert.mpr (Or.inr hid)
    dsimp only
    split
    · exact hinsert _
    · split <;> exact hinsert _

variable {importer : HandleImporter}

theorem imported_importBuffer {allowEmptyBuf : Bool}
    (himport : session.importBuffer importer buffer allowEmptyBuf = (.ok, next))
    : next.Imported buffer allowEmptyBuf := by
  rw [importBuffer] at himport
  split at himport
  case isTrue hempty =>
    cases allowEmptyBuf with
    | true => exact Or.inr ⟨hempty, rfl⟩
    | false => cases himport
  case isFalse =>
    left
    dsimp only at himport
    split at himport
    · cases himport
      exact OrderedMap.mem_keys_insert.mpr (Or.inl rfl)
    · split at himport
      · cases himport
      · cases himport
        exact OrderedMap.mem_keys_insert.mpr (Or.inl rfl)

theorem grows_importBuffers (importer : HandleImporter)
    (buffers : List (RequestBuffer × Bool)) :
    Grows [] session (importBuffers importer buffers session).2 :=
  importBuffers_invariant
    (fun _ buffer allowEmptyBuf hgrows =>
      hgrows.trans (grows_importBuffer importer buffer allowEmptyBuf))
    buffers (.refl session)

theorem imported_importBuffers {buffers : List (RequestBuffer × Bool)}
    (hok : (importBuffers importer buffers session).1 = .ok) :
    ∀ entry ∈ buffers,
      (importBuffers importer buffers session).2.Imported entry.1 entry.2 := by
  induction buffers generalizing session with
  | nil => exact nofun
  | cons entry rest ih =>
    obtain ⟨buffer, allowEmptyBuf⟩ := entry
    rw [importBuffers] at hok ⊢
    split
    case h_1 next himport =>
      rw [himport] at hok
      intro entry hentry
      rcases List.mem_cons.mp hentry with rfl | hentry
      · exact (grows_importBuffers importer rest).imported
          (imported_importBuffer himport)
      · exact ih hok entry hentry
    case h_2 status next hnot himport =>
      rw [himport] at hok
      exact absurd hok (by simpa using hnot)

/-- What an admitted request has been checked for. -/
structure Admitted.Ready (admitted : Admitted) (request : CaptureRequest) :
    Prop where
  fences : admitted.fences.length = request.buffers.length
  outputs : ∀ buffer ∈ request.outputBuffers,
    admitted.session.Imported buffer true
  inputs : ∀ buffer ∈ request.inputBuffers,
    admitted.session.Imported buffer false

variable {request : CaptureRequest} {fences : List (Option Nat)}

theorem grows_importRequest {status : Status}
    (himport : session.importRequest importer request =
      (status, next, fences)) : Grows [] session next := by
  rw [← (importBuffers_of_importRequest himport).1]
  exact grows_importBuffers importer (importList request)

theorem ready_of_importRequest
    (himport : session.importRequest importer request = (.ok, next, fences))
    (settings : Option CameraMetadata) :
    Admitted.Ready ⟨next, settings, fences⟩ request := by
  obtain ⟨rfl, hok⟩ := importBuffers_of_importRequest himport
  have himported := imported_importBuffers (hok rfl).1
  refine ⟨length_fences_of_importRequest himport, ?_, ?_⟩
  · intro buffer hbuffer
    exact himported (buffer, true)
      (List.mem_append_left _ (List.mem_map_of_mem hbuffer))
  · intro buffer hbuffer
    exact himported (buffer, false)
      (List.mem_append_right _ (List.mem_map_of_mem hbuffer))

theorem grows_queue (queue : List UInt8) :
    Grows [] session { session with mRequestMetadataQueue := queue } :=
  .of_eq rfl fun _ hid => hid

/-- Up to here a request adds no stream to `mStreamMap`. -/
theorem admitRequest_spec (library : MetadataLibrary)
    (importer : HandleImporter) (request : CaptureRequest) :
    match session.admitRequest library importer request with
    | .error outcome => outcome.status ≠ .ok ∧ Grows [] session outcome.session
    | .ok admitted => Grows [] session admitted.session ∧
        admitted.Ready request := by
  have hadmits := @admits_admitRequest session library importer request
  generalize session.admitRequest library importer request = result at hadmits ⊢
  cases hadmits with
  | rejected hstatus => exact ⟨hstatus, grows_queue _⟩
  | notImported hstatus himport =>
    exact ⟨hstatus, (grows_queue _).trans (grows_importRequest himport)⟩
  | admitted _ himport =>
    exact ⟨(grows_queue _).trans (grows_importRequest himport),
      ready_of_importRequest himport _⟩

/-- Putting a list of buffers in flight adds their streams. -/
theorem foldl_putBufferInflight_spec (frameNumber : Nat)
    (entries : List (RequestBuffer × Option Nat)) :
    (entries.foldl (putBufferInflight frameNumber) session).mCirculatingBuffers =
        session.mCirculatingBuffers ∧
      ∀ id, id ∈
          (entries.foldl (putBufferInflight frameNumber) session).mStreamMap.keys ↔
        id ∈ session.mStreamMap.keys ∨
          ∃ buffer ∈ entries.map Prod.fst, buffer.streamId = id := by
  induction entries generalizing session with
  | nil => simp
  | cons entry rest ih =>
    have hput : ∀ id,
        id ∈ (putBufferInflight frameNumber session entry).mStreamMap.keys ↔
          id = entry.1.streamId ∨ id ∈ session.mStreamMap.keys := by
      intro id
      rw [putBufferInflight]
      split
      case isTrue hknown =>
        have hmem := OrderedMap.mem_keys_iff.mpr hknown
        constructor
        · exact Or.inr
        · rintro (rfl | hid)
          · exact hmem
          · exact hid
      case isFalse => exact OrderedMap.mem_keys_insert
    obtain ⟨hsame, hkeys⟩ := @ih (putBufferInflight frameNumber session entry)
    refine ⟨hsame, fun id => ?_⟩
    rw [List.foldl_cons, hkeys, hput, List.map_cons]
    simp only [List.mem_cons, or_and_right, exists_or, exists_eq_left]
    constructor
    · rintro ((rfl | hid) | hrest)
      · exact Or.inr (Or.inl rfl)
      · exact Or.inl hid
      · exact Or.inr (Or.inr hrest)
    · rintro (hid | rfl | hrest)
      · exact Or.inl (Or.inr hid)
      · exact Or.inl (Or.inl rfl)
      · exact Or.inr hrest

theorem putInflight_spec (override : Option AETriggerCancelOverride)
    (hlength : fences.length = request.buffers.length) :
    (session.putInflight request fences override).mCirculatingBuffers =
        session.mCirculatingBuffers ∧
      ∀ id, id ∈ (session.putInflight request fences override).mStreamMap.keys ↔
        id ∈ session.mStreamMap.keys ∨
          ∃ buffer ∈ request.inputBuffers ++ request.outputBuffers,
            buffer.streamId = id := by
  rw [← map_fst_inflight hlength, putInflight.eq_def]
  cases override <;> exact foldl_putBufferInflight_spec request.frameNumber _

section

variable (request : CaptureRequest) (override : Option AETriggerCancelOverride)

theorem mStreamMap_takeBack :
    (session.takeBack request override).mStreamMap = session.mStreamMap := by
  cases override <;> rfl

theorem mCirculatingBuffers_takeBack :
    (session.takeBack request override).mCirculatingBuffers =
      session.mCirculatingBuffers := by
  cases override <;> rfl

end

variable {library : MetadataLibrary} {hal : HalStatus} {outcome : Outcome}

/-- However a submission ends, the streams that were put into the tables
stay there. -/
theorem Submits.tables {override : Option AETriggerCancelOverride}
    (hsubmits : Submits library hal session request fences override outcome) :
    outcome.session.mStreamMap =
        (session.putInflight request fences override).mStreamMap ∧
      outcome.session.mCirculatingBuffers =
        (session.putInflight request fences override).mCirculatingBuffers := by
  cases hsubmits with
  | accepted | rejected => exact ⟨rfl, rfl⟩
  | refused =>
    exact ⟨mStreamMap_takeBack request override,
      mCirculatingBuffers_takeBack request override⟩

def emptyOutputs (request : CaptureRequest) :
    List RequestBuffer :=
  request.outputBuffers.filter RequestBuffer.isEmpty

theorem Admitted.Ready.grows {admitted : Admitted}
    (hready : admitted.Ready request)
    (hsubmit : admitted.session.submitRequest library hal request
      admitted.settings admitted.fences = some outcome) :
    Grows (emptyOutputs request) admitted.session outcome.session := by
  obtain ⟨hstreams, hcirculating⟩ := (submits_of_submitRequest hsubmit).tables
  obtain ⟨hsame, hkeys⟩ := @putInflight_spec admitted.session _ _
    (admitted.session.handleAePrecaptureCancelRequestLocked library
      admitted.settings) hready.fences
  rw [hsame] at hcirculating
  refine ⟨fun id hid => hcirculating ▸ hid, ?_, ?_, ?_⟩
  · intro id hid
    rw [hstreams, hkeys]
    exact Or.inl hid
  · intro id hid
    rw [hstreams, hkeys] at hid
    rw [hcirculating]
    rcases hid with hid | ⟨buffer, hbuffer, rfl⟩
    · exact Or.inl hid
    · rcases List.mem_append.mp hbuffer with hinput | houtput
      · rcases hready.inputs buffer hinput with hcirc | ⟨_, hfalse⟩
        · exact Or.inr (Or.inl hcirc)
        · cases hfalse
      · rcases hready.outputs buffer houtput with hcirc | ⟨hempty, _⟩
        · exact Or.inr (Or.inl hcirc)
        · exact Or.inr (Or.inr
            ⟨buffer, List.mem_filter.mpr ⟨houtput, hempty⟩, rfl⟩)
  · intro buffer hbuffer
    rw [hstreams, hkeys]
    exact Or.inr ⟨buffer,
      List.mem_append_right _ (List.mem_filter.mp hbuffer).1, rfl⟩

/-- The stream of every empty output buffer has circulating buffers, or gets some
because another buffer of the request is imported for it. -/
def EmptyBuffersKnown (session : CameraDeviceSession)
    (request : CaptureRequest) : Prop :=
  ∀ buffer ∈ emptyOutputs request,
    buffer.streamId ∈ session.mCirculatingBuffers.keys ∨
      ∃ other ∈ request.buffers,
        other.isEmpty = false ∧ other.streamId = buffer.streamId

theorem Admitted.Ready.mem_keys {admitted : Admitted}
    (hready : admitted.Ready request) (hbuffer : buffer ∈ request.buffers)
    (hfull : buffer.isEmpty = false) :
    buffer.streamId ∈ admitted.session.mCirculatingBuffers.keys := by
  have himported : ∃ allowEmptyBuf,
      admitted.session.Imported buffer allowEmptyBuf := by
    rcases List.mem_append.mp hbuffer with houtput | hinput
    · exact ⟨true, hready.outputs buffer houtput⟩
    · exact ⟨false, hready.inputs buffer hinput⟩
  obtain ⟨_, hcirc | ⟨hempty, _⟩⟩ := himported
  · exact hcirc
  · rw [hfull] at hempty
    cases hempty

/-- What a request must keep to for the streams to have their buffers, if it is
put in flight at all. -/
def RequestKnown (library : MetadataLibrary) (importer : HandleImporter)
    (session : CameraDeviceSession) (request : CaptureRequest) : Prop :=
  (session.admitRequest library importer request).isOk →
    session.EmptyBuffersKnown request

theorem StreamsCirculate.processOneCaptureRequest
    (hcirculate : session.StreamsCirculate)
    (hknown : session.RequestKnown library importer request)
    (hprocess : session.processOneCaptureRequest library importer hal request =
      some outcome) : outcome.session.StreamsCirculate := by
  have hspec := @admitRequest_spec session library importer request
  rw [CameraDeviceSession.processOneCaptureRequest] at hprocess
  rw [RequestKnown] at hknown
  generalize session.admitRequest library importer request = result
    at hspec hprocess hknown
  cases result with
  | error =>
    cases hprocess
    exact (hspec.2.streamsCirculate_iff hcirculate).mpr nofun
  | ok =>
    obtain ⟨hadmitted, hready⟩ := hspec
    have hsubmitted := hready.grows hprocess
    refine ((hadmitted.trans hsubmitted).streamsCirculate_iff
      hcirculate).mpr fun buffer hbuffer => ?_
    apply hsubmitted.circulating
    rcases hknown rfl buffer hbuffer with hcirc | ⟨other, hother, hfull, heq⟩
    · exact hadmitted.circulating _ hcirc
    · exact heq ▸ hready.mem_keys hother hfull

/-- The requests of a call, each in the state in which it is processed. -/
def RequestsKnown (library : MetadataLibrary) (importer : HandleImporter) :
    List (CaptureRequest × HalStatus) → CameraDeviceSession → Prop
  | [], _ => True
  | (request, hal) :: rest, session =>
    session.RequestKnown library importer request ∧
      ∀ outcome ∈ session.processOneCaptureRequest library importer hal
          request,
        outcome.status = .ok →
          RequestsKnown library importer rest outcome.session

theorem StreamsCirculate.processRequests
    {requests : List (CaptureRequest × HalStatus)} {accepted : Nat}
    {answer : Status × Nat × CameraDeviceSession}
    (hcirculate : session.StreamsCirculate)
    (hknown : RequestsKnown library importer requests session)
    (hrequests : processRequests library importer requests accepted session =
      some answer) : answer.2.2.StreamsCirculate := by
  induction requests generalizing accepted session with
  | nil =>
    cases hrequests
    exact hcirculate
  | cons entry rest ih =>
    obtain ⟨request, hal⟩ := entry
    obtain ⟨hrequest, hrest⟩ := hknown
    rw [CameraDeviceSession.processRequests] at hrequests
    split at hrequests
    case h_1 => cases hrequests
    case h_2 outcome hprocess =>
      have houtcome := hcirculate.processOneCaptureRequest hrequest hprocess
      split at hrequests
      case isTrue hstatus =>
        exact ih houtcome (hrest outcome hprocess hstatus) hrequests
      case isFalse =>
        cases hrequests
        exact houtcome

/-! ## Runs -/

theorem grows_constructCaptureResult (library : MetadataLibrary)
    (result : HalResult) :
    Grows [] session (session.constructCaptureResult library result) := by
  have htrack : ∀ metadata,
      (session.trackRawBoost library result metadata).mStreamMap =
          session.mStreamMap ∧
        (session.trackRawBoost library result metadata).mCirculatingBuffers =
          session.mCirculatingBuffers := by
    intro metadata
    rw [trackRawBoost]
    split <;> exact ⟨rfl, rfl⟩
  have hend : ∀ current : CameraDeviceSession,
      (current.endAeOverride result).mStreamMap = current.mStreamMap ∧
        (current.endAeOverride result).mCirculatingBuffers =
          current.mCirculatingBuffers := by
    intro current
    rw [endAeOverride]
    split <;> exact ⟨rfl, rfl⟩
  rw [constructCaptureResult]
  dsimp only
  split
  · cases result.result with
    | none => exact .of_eq rfl fun _ hid => hid
    | some metadata =>
      refine .of_eq ((hend _).1.trans (htrack metadata).1) fun id hid => ?_
      exact ((hend _).2.trans (htrack metadata).2).symm ▸ hid
  · exact .refl session

theorem grows_notifyError (frameNumber : Nat) (errorStreamId : StreamId)
    (errorCode : ErrorCode) :
    Grows [] session
      (session.notifyError frameNumber errorStreamId errorCode) := by
  rw [notifyError.eq_def]
  split
  · exact .refl session
  · cases errorCode <;> exact .of_eq rfl fun _ hid => hid

/-- No request is put in flight with an empty buffer for a stream without
circulating buffers. -/
def CallKnown (library : MetadataLibrary) (session : CameraDeviceSession) :
    Call → Prop
  | .processCaptureRequest importer requests cachesToRemove =>
    RequestsKnown library importer requests
      (session.updateBufferCaches cachesToRemove)
  | _ => True

theorem StreamsCirculate.step {call : Call}
    (hcirculate : session.StreamsCirculate)
    (hknown : CallKnown library session call)
    (hstep : step library session call = some next) :
    next.StreamsCirculate := by
  -- Whatever adds no stream for an empty buffer keeps the streams' buffers.
  have hquiet : ∀ {last}, Grows [] session last → last.StreamsCirculate :=
    fun hgrows => (hgrows.streamsCirculate_iff hcirculate).mpr nofun
  cases call with
  | configureStreams streams hal =>
    obtain ⟨answer, hanswer, hdone⟩ := hcirculate.exists_configured streams hal
    rw [CameraDeviceSession.step, hanswer, Option.map_some,
      Option.some.injEq] at hstep
    exact hstep ▸ hdone
  | processCaptureRequest importer requests cachesToRemove =>
    obtain ⟨answer, hanswer, rfl⟩ := Option.map_eq_some_iff.mp hstep
    exact (hquiet (grows_updateBufferCaches cachesToRemove)).processRequests
      hknown hanswer
  | processCaptureResult result =>
    cases hstep
    exact hquiet (grows_constructCaptureResult library result)
  | notifyError frameNumber errorStreamId errorCode =>
    cases hstep
    exact hquiet (grows_notifyError frameNumber errorStreamId errorCode)
  | writeQueue bytes =>
    cases hstep
    exact hquiet (.of_eq rfl fun _ hid => hid)

/-- Every stream has an entry in `mCirculatingBuffers`, and no configuration
throws for want of one. -/
def CleanupSafe (session : CameraDeviceSession) : Prop :=
  session.StreamsCirculate ∧
    ∀ streams hal, (session.configureStreams streams hal).isSome

theorem StreamsCirculate.cleanupSafe (hcirculate : session.StreamsCirculate) :
    session.CleanupSafe := by
  refine ⟨hcirculate, fun streams hal => ?_⟩
  obtain ⟨answer, hanswer, _⟩ := hcirculate.exists_configured streams hal
  rw [hanswer]
  rfl

/-- Along a run of an opened session the streams have their buffers and no
configuration throws, if no request is put in flight with an empty buffer for a
stream without circulating buffers. -/
theorem cleanup_safe_of_empty_buffers_known (library : MetadataLibrary)
    (mDeviceVersion : Nat)
    (mFreeBufEarly mIsAELockAvailable mDerivePostRawSensKey : Bool)
    (mNumPartialResults : Nat) (calls : List Call)
    (hknown : RunMeets (step library) (CallKnown library)
      (opened mDeviceVersion mFreeBufEarly mIsAELockAvailable
        mDerivePostRawSensKey mNumPartialResults) calls) :
    RunHolds (step library) CleanupSafe
      (opened mDeviceVersion mFreeBufEarly mIsAELockAvailable
        mDerivePostRawSensKey mNumPartialResults) calls := by
  refine hknown.runHolds (fun _ => StreamsCirculate.cleanupSafe)
    (fun _ _ _ hcirculate hguard => hcirculate.step hguard) ?_
  intro id hid
  exact absurd hid List.not_mem_nil

instance decidableEmptyBuffersKnown (session : CameraDeviceSession)
    (request : CaptureRequest) : Decidable (session.EmptyBuffersKnown request) :=
  inferInstanceAs (Decidable (∀ _ ∈ _, _ ∨ ∃ _ ∈ _, _ ∧ _))

instance decidableRequestKnown (library : MetadataLibrary)
    (importer : HandleImporter) (session : CameraDeviceSession)
    (request : CaptureRequest) :
    Decidable (session.RequestKnown library importer request) :=
  inferInstanceAs (Decidable (_ → _))

instance decidableRequestsKnown (library : MetadataLibrary)
    (importer : HandleImporter) :
    ∀ requests session,
      Decidable (RequestsKnown library importer requests session)
  | [], _ => isTrue trivial
  | (_, _) :: rest, _ =>
    have := decidableRequestsKnown library importer rest
    inferInstanceAs (Decidable (_ ∧ ∀ _ ∈ _, _ → _))

instance decidableCallKnown (library : MetadataLibrary)
    (session : CameraDeviceSession) :
    ∀ call, Decidable (CallKnown library session call)
  | .processCaptureRequest importer requests _ =>
    decidableRequestsKnown library importer requests _
  | .configureStreams _ _ => isTrue trivial
  | .processCaptureResult _ => isTrue trivial
  | .notifyError _ _ _ => isTrue trivial
  | .writeQueue _ => isTrue trivial

/-- An empty buffer for a configured stream, and one for a stream of which the
request also has a buffer; then the streams are configured anew. -/
def knownBufferRun : List Call :=
  [.configureStreams [{ id := 0 }] { status := .ok },
    .processCaptureRequest acceptingImporter
      [({ frameNumber := 1, settings := [4, 0, 0, 0],
          outputBuffers := [⟨0, 0, none, .ok, none⟩] }, .ok),
        ({ frameNumber := 2,
           outputBuffers :=
             [⟨7, 0, none, .ok, none⟩, ⟨7, 1, some 10, .ok, none⟩] },
          .failed)] [],
    .processCaptureResult { frameNumber := 1, outputStreams := [0] },
    .configureStreams [{ id := 1 }] { status := .invalid },
    .configureStreams [{ id := 1 }] { status := .ok }]

theorem cleanup_safe_of_empty_buffers_known_knownBufferRun :
    RunMeets (step sizedLibrary) (CallKnown sizedLibrary)
        (opened deviceApiVersion32 true false false 1) knownBufferRun ∧
      RunHolds (step sizedLibrary) CleanupSafe
        (opened deviceApiVersion32 true false false 1) knownBufferRun := by
  have hknown : RunMeets (step sizedLibrary) (CallKnown sizedLibrary)
      (opened deviceApiVersion32 true false false 1) knownBufferRun := by
    decide +kernel
  exact ⟨hknown, cleanup_safe_of_empty_buffers_known sizedLibrary
    deviceApiVersion32 true false false 1 knownBufferRun hknown⟩

/-! ## A stream without buffers -/

/-- Stream 0 is configured; then a request with an empty buffer for stream 7,
which nobody has configured, is refused by the HAL. -/
def emptyBufferRun : List Call :=
  [.configureStreams [{ id := 0 }] { status := .ok },
    .processCaptureRequest acceptingImporter
      [({ frameNumber := 1, settings := [4, 0, 0, 0],
          outputBuffers := [⟨7, 0, none, .ok, none⟩] }, .invalid)] []]

/-- Stream 7 has stayed without buffers, and the next configuration throws. -/
def LeavesStreamBehind (mFreeBufEarly : Bool) : Prop :=
  ∃ session, run (step sizedLibrary)
      (opened deviceApiVersion32 mFreeBufEarly false false 1)
      emptyBufferRun = some session ∧
    7 ∈ session.mStreamMap.keys ∧ 7 ∉ session.mCirculatingBuffers.keys ∧
    session.configureStreams [{ id := 0 }] { status := .ok } = none

theorem leavesStreamBehind (mFreeBufEarly : Bool) :
    LeavesStreamBehind mFreeBufEarly := by
  have hrun : ∀ mFreeBufEarly : Bool,
      ((run (step sizedLibrary)
        (opened deviceApiVersion32 mFreeBufEarly false false 1)
        emptyBufferRun).map fun session =>
          (decide (7 ∈ session.mStreamMap.keys),
            decide (7 ∉ session.mCirculatingBuffers.keys),
            (session.configureStreams [{ id := 0 }] { status := .ok }).isNone)) =
        some (true, true, true) := by decide +kernel
  obtain ⟨session, hsession, hfacts⟩ :=
    Option.map_eq_some_iff.mp (hrun mFreeBufEarly)
  simp only [Prod.mk.injEq, decide_eq_true_eq, Option.isNone_iff_eq_none]
    at hfacts
  exact ⟨session, hsession, hfacts⟩

/-- It makes no difference whether buffers are freed early or late. -/
theorem empty_buffer_leaves_stream_behind :
    LeavesStreamBehind true ∧ LeavesStreamBehind false :=
  ⟨leavesStreamBehind true, leavesStreamBehind false⟩

end HardwareInterfaces.Camera.CameraDeviceSession

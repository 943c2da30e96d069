import HardwareInterfaces.Camera.StreamMaps

/-!
# Configurations that fail

A configuration enters its streams into the tables one after the other, before
a later stream may be refused and before the HAL is asked, which may then write
into the entries and fail.  Neither failure takes back what has been entered, so
that a stream that was never configured keeps the type and the size it was
refused with.

Entering a stream that is in the table already refreshes four of its fields, and
of several streams with one id the last one counts.
-/

namespace HardwareInterfaces.Camera.CameraDeviceSession

variable {session next : CameraDeviceSession} {stream : Stream}
  {streams : List Stream} {old : Camera3Stream}

/-- What an accepted stream sets in its entry. -/
def refresh (stream : Stream) (old : Camera3Stream) : Camera3Stream :=
  { old with
    format := stream.format
    dataSpace := stream.dataSpace
    rotation := stream.rotation
    usage := stream.usage % 2 ^ 32 }

/-- A stream that is in the table with another type, size or physical camera. -/
def refuses (session : CameraDeviceSession) (stream : Stream) : Bool :=
  match session.mStreamMap.lookup stream.id with
  | none => false
  | some old => session.streamChanged old stream

/-- The streams before the first one that is refused. -/
def entered (session : CameraDeviceSession) (streams : List Stream) :
    List Stream :=
  streams.takeWhile fun stream => !session.refuses stream

/-- The last of the streams with an id. -/
def lastOf (streams : List Stream) (id : StreamId) : Option Stream :=
  streams.reverse.find? fun stream => decide (stream.id = id)

/-- The HAL is asked, and writes into an entry, if no stream is refused. -/
def written (session : CameraDeviceSession) (streams : List Stream)
    (hal : HalConfiguration) (id : StreamId) (entry : Camera3Stream) :
    Camera3Stream :=
  if session.entered streams = streams then hal.fill id entry else entry

/-- The entry of an id after the streams. -/
def refreshAll (streams : List Stream) (id : StreamId) (old : Camera3Stream) :
    Camera3Stream :=
  streams.foldl
    (fun old stream => if stream.id = id then refresh stream old else old) old

/-- The physical camera ids after those of some streams have been looked up. -/
def Touched (ids : List StreamId) (session next : CameraDeviceSession) :
    Prop :=
  ∀ id, next.mPhysicalCameraIdMap.lookup id =
    if id ∈ ids then some ((session.mPhysicalCameraIdMap.lookup id).getD "")
    else session.mPhysicalCameraIdMap.lookup id

/-- The tables after known streams have been entered. -/
structure Refreshed (streams : List Stream)
    (session next : CameraDeviceSession) : Prop where
  entries : ∀ id, next.mStreamMap.lookup id =
    (session.mStreamMap.lookup id).map (refreshAll streams id)
  physical : Touched (streams.map Stream.id) session next

variable {ids : List StreamId}

theorem Touched.getD_physical (htouched : Touched ids session next)
    (id : StreamId) :
    (next.mPhysicalCameraIdMap.lookup id).getD "" =
      (session.mPhysicalCameraIdMap.lookup id).getD "" := by
  rw [htouched id]
  split_ifs <;> rfl

theorem Touched.append {first second : List StreamId}
    {middle : CameraDeviceSession} (hfirst : Touched first session middle)
    (hsecond : Touched second middle next) :
    Touched (first ++ second) session next := by
  intro id
  rw [hsecond id, hfirst.getD_physical, hfirst id]
  by_cases hright : id ∈ second
  · rw [if_pos hright, if_pos (List.mem_append_right _ hright)]
  · by_cases hleft : id ∈ first
    · rw [if_neg hright, if_pos hleft, if_pos (List.mem_append_left _ hleft)]
    · have hnone : id ∉ first ++ second :=
        fun hmem => (List.mem_append.mp hmem).elim hleft hright
      rw [if_neg hright, if_neg hleft, if_neg hnone]

section

variable (hold : session.mStreamMap.lookup stream.id = some old)
include hold

end

theorem Refreshed.append {first second : List Stream}
    {middle : CameraDeviceSession} (hfirst : Refreshed first session middle)
    (hsecond : Refreshed second middle next) :
    Refreshed (first ++ second) session next where
  entries id := by
    rw [hsecond.entries, hfirst.entries, Option.map_map]
    congr 1
    funext old
    rw [Function.comp_apply, refreshAll, refreshAll, refreshAll,
      List.foldl_append]
  physical := by
    rw [List.map_append]
    exact hfirst.physical.append hsecond.physical

variable {id : StreamId} {hal : HalConfiguration}

theorem lastOf_concat (streams : List Stream) (last : Stream) (id : StreamId) :
    lastOf (streams ++ [last]) id =
      if last.id = id then some last else lastOf streams id := by
  simp only [lastOf, List.reverse_append, List.reverse_singleton,
    List.singleton_append, List.find?_cons]
  split_ifs with hlast <;> simp [hlast]

/-- The entries after some streams have been entered, with what is written into
them afterwards. -/
def EntriesWritten (write : StreamId → Camera3Stream → Camera3Stream)
    (streams : List Stream) (session next : CameraDeviceSession) : Prop :=
  ∀ id, next.mStreamMap.lookup id =
    (session.mStreamMap.lookup id).map fun old =>
      (lastOf streams id).elim old fun stream => write id (refresh stream old)

theorem lookup_fillStream (hal : HalConfiguration) (id other : StreamId) :
    (session.fillStream hal id).mStreamMap.lookup other =
      (session.mStreamMap.lookup other).map fun entry =>
        if other = id then hal.fill other entry else entry := by
  rw [fillStream]
  by_cases heq : other = id
  · subst heq
    cases hentry : session.mStreamMap.lookup other with
    | none => simp [hentry]
    | some entry => simp [OrderedMap.lookup_insert]
  · cases session.mStreamMap.lookup id with
    | none => simp [heq]
    | some entry => simp [OrderedMap.lookup_insert, heq]

theorem fill_fill (hal : HalConfiguration) (id : StreamId)
    (entry : Camera3Stream) :
    hal.fill id (hal.fill id entry) = hal.fill id entry := by
  rw [HalConfiguration.fill, HalConfiguration.fill]
  cases hal.fields id <;> rfl

theorem lookup_fillStreams (session : CameraDeviceSession)
    (hal : HalConfiguration) (streams : List Stream) (id : StreamId) :
    (session.fillStreams hal streams).mStreamMap.lookup id =
      (session.mStreamMap.lookup id).map fun entry =>
        (lastOf streams id).elim entry fun _ => hal.fill id entry := by
  induction streams using List.reverseRecOn with
  | nil => exact Option.map_id'.symm
  | append_singleton streams last ih =>
    rw [fillStreams, List.foldl_append, List.foldl_cons, List.foldl_nil,
      ← fillStreams, lookup_fillStream, ih, Option.map_map, lastOf_concat]
    congr 1
    funext entry
    rw [Function.comp_apply]
    by_cases hlast : last.id = id
    · rw [if_pos hlast, if_pos hlast.symm]
      cases lastOf streams id with
      | none => rfl
      | some stream => exact fill_fill hal id entry
    · rw [if_neg hlast, if_neg (Ne.symm hlast)]

/-- The HAL writes into the entries of the streams. -/
theorem EntriesWritten.fillStreams
    (hwritten : EntriesWritten (fun _ entry => entry) streams session next)
    (hal : HalConfiguration) :
    EntriesWritten hal.fill streams session (next.fillStreams hal streams) := by
  intro id
  rw [lookup_fillStreams, hwritten id, Option.map_map]
  congr 1
  funext old
  rw [Function.comp_apply]
  cases lastOf streams id <;> rfl

/-- The tables are as they were. -/
def SameTables (session next : CameraDeviceSession) : Prop :=
  next.mStreamMap = session.mStreamMap ∧
    next.mPhysicalCameraIdMap = session.mPhysicalCameraIdMap

theorem SameTables.trans {last : CameraDeviceSession}
    (hfirst : SameTables session next) (hsecond : SameTables next last) :
    SameTables session last :=
  ⟨hsecond.1.trans hfirst.1, hsecond.2.trans hfirst.2⟩

theorem SameTables.symm (hsame : SameTables session next) :
    SameTables next session :=
  ⟨hsame.1.symm, hsame.2.symm⟩

theorem SameTables.fillStreams (hsame : SameTables session next)
    (hal : HalConfiguration) (streams : List Stream) :
    SameTables (session.fillStreams hal streams)
      (next.fillStreams hal streams) := by
  constructor
  · apply OrderedMap.eq_of_lookup
    intro id
    rw [lookup_fillStreams, lookup_fillStreams, hsame.1]
  · rw [@fillStreams_eq session, @fillStreams_eq next]
    exact hsame.2

end HardwareInterfaces.Camera.CameraDeviceSession

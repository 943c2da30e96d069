import HardwareInterfaces.Core.OrderedMap
import HardwareInterfaces.Core.Transition

/-!
# The camera provider

The provider learns from the module which cameras come and go, and tells a
callback of it.  The cameras of the module's own list are there from the start;
all others are external.  An external camera that appears while no callback is
set is added later, when one is set.  One that disappears meanwhile is not
removed later.

A camera is named by the decimal text of its id, as in the maps of the provider.
-/

namespace HardwareInterfaces.Camera.Provider

open Transition

abbrev CameraId := String

inductive CameraDeviceStatus where
  | notPresent
  | present
  | enumerating
  /-- Any other number the module may report. -/
  | other (code : Int)
  deriving DecidableEq, Repr

/-- The state of the provider; `sent` has the calls of the callback, with the
device names and statuses they carry.  The sorted vector of pairs of an id and
a name has at most one name for an id. -/
structure CameraProvider where
  mLegacyCameras : List CameraId
  mCameraStatusMap : OrderedMap CameraId CameraDeviceStatus := .empty
  mCallbacks : Bool := false
  mCameraIds : OrderedMap CameraId Unit := .empty
  mCameraDeviceNames : OrderedMap CameraId String := .empty
  sent : List (String × CameraDeviceStatus) := []

def kDeviceVersion : String := "1.1"

def getAidlDeviceName (cameraId : CameraId) : String :=
  "device@" ++ kDeviceVersion ++ "/internal/" ++ cameraId

namespace CameraProvider

variable (provider : CameraProvider)

def cameraDeviceStatusChange (name : String) (status : CameraDeviceStatus) :
    CameraProvider :=
  { provider with sent := provider.sent ++ [(name, status)] }

def addDeviceNames (cameraId : CameraId) (status : CameraDeviceStatus)
    (camNew : Bool) : CameraProvider :=
  let name := getAidlDeviceName cameraId
  let added : CameraProvider :=
    { provider with
      mCameraIds := provider.mCameraIds.insert cameraId ()
      mCameraDeviceNames := provider.mCameraDeviceNames.insert cameraId name }
  if camNew then added.cameraDeviceStatusChange name status else added

def removeDeviceNames (cameraId : CameraId) : CameraProvider :=
  let name := getAidlDeviceName cameraId
  let removed : CameraProvider :=
    { provider with
      mCameraIds := provider.mCameraIds.erase cameraId
      mCameraDeviceNames :=
        if provider.mCameraDeviceNames.lookup cameraId = some name then
          provider.mCameraDeviceNames.erase cameraId
        else provider.mCameraDeviceNames }
  removed.cameraDeviceStatusChange name .notPresent

def record (cameraId : CameraId) (status : CameraDeviceStatus) :
    CameraProvider :=
  { provider with
    mCameraStatusMap := provider.mCameraStatusMap.insert cameraId status }

/-- The cameras of the module's list. -/
def initialized (cameraIds : List CameraId) : CameraProvider :=
  cameraIds.foldl
    (fun provider cameraId =>
      (provider.record cameraId .present).addDeviceNames cameraId .present
        false)
    { mLegacyCameras := cameraIds }

def sCameraDeviceStatusChange (cameraId : CameraId)
    (newStatus : CameraDeviceStatus) : CameraProvider :=
  let recorded := provider.record cameraId newStatus
  if provider.mCallbacks then
    match provider.mCameraDeviceNames.lookup cameraId with
    | some name =>
      let told := recorded.cameraDeviceStatusChange name newStatus
      match newStatus with
      | .notPresent => told.removeDeviceNames cameraId
      | .present | .enumerating | .other _ => told
    | none =>
      match newStatus with
      | .present | .enumerating =>
        recorded.addDeviceNames cameraId newStatus true
      | .notPresent | .other _ => recorded
  else recorded

/-- Adds a camera of the status map if it is external and there. -/
def addPresenting (statusPair : CameraId × CameraDeviceStatus) :
    CameraProvider :=
  if statusPair.1 ∉ provider.mLegacyCameras ∧ statusPair.2 ≠ .notPresent then
    provider.addDeviceNames statusPair.1 statusPair.2 true
  else provider

def setCallback (callback : Bool) : CameraProvider :=
  let provider := { provider with mCallbacks := callback }
  if callback then
    provider.mCameraStatusMap.entries.foldl addPresenting provider
  else provider

end CameraProvider

/-! ## Handing out devices -/

/-- The rest of a text that begins as given. -/
def textAfter : List Char → List Char → Option (List Char)
  | [], text => some text
  | _ :: _, [] => none
  | char :: start, first :: text =>
    if char = first then textAfter start text else none

/-- The characters that the dot of the pattern does not match. -/
def isLineEnd (char : Char) : Bool :=
  char == '\n' || char == '\r'

/-- The version and the id of a name `device@<version>/internal/<id>`. -/
def matchDeviceName (deviceName : String) : Option (String × CameraId) := do
  let text := deviceName.toList.takeWhile (· ≠ '\x00')
  let version ← textAfter "device@".toList text
  let major := version.takeWhile Char.isDigit
  let dot ← textAfter ['.'] (version.dropWhile Char.isDigit)
  let minor := dot.takeWhile Char.isDigit
  let cameraId ← textAfter "/internal/".toList (dot.dropWhile Char.isDigit)
  if major ≠ [] ∧ minor ≠ [] ∧ cameraId ≠ [] ∧
      cameraId.all (!isLineEnd ·) then
    some (String.ofList (major ++ '.' :: minor), String.ofList cameraId)
  else none

inductive Status where
  | ok
  | illegalArgument
  | operationNotSupported
  | internalError
  deriving DecidableEq, Repr

/-- The camera whose device is handed out, if any; `initFailed` says which
devices fail to be set up. -/
def CameraProvider.getCameraDeviceInterface (provider : CameraProvider)
    (initFailed : CameraId → Bool) (cameraDeviceName : String) :
    Status × Option CameraId :=
  match matchDeviceName cameraDeviceName with
  | none => (.illegalArgument, none)
  | some (_, cameraId) =>
    if provider.mCameraDeviceNames.lookup cameraId =
        some cameraDeviceName then
      if initFailed cameraId then (.internalError, none)
      else (.ok, some cameraId)
    else if (provider.mCameraIds.lookup cameraId).isSome then
      (.operationNotSupported, none)
    else (.illegalArgument, none)

/-! ## Runs -/

/-- A provider, and the status that was last reported for each camera. -/
structure Observed where
  provider : CameraProvider
  reported : CameraId → Option CameraDeviceStatus

inductive Action where
  | statusChange (cameraId : CameraId) (newStatus : CameraDeviceStatus)
  | setCallback (callback : Bool)
  deriving DecidableEq, Repr

namespace Observed

def init (cameraIds : List CameraId) : Observed where
  provider := .initialized cameraIds
  reported _ := none

def next (observed : Observed) : Action → Observed
  | .statusChange cameraId newStatus =>
    { provider :=
        observed.provider.sCameraDeviceStatusChange cameraId newStatus
      reported := Function.update observed.reported cameraId
        (some newStatus) }
  | .setCallback callback =>
    { observed with provider := observed.provider.setCallback callback }

def step (observed : Observed) (action : Action) : Option Observed :=
  some (observed.next action)

/-- Not in the module's list. -/
def External (observed : Observed) (cameraId : CameraId) : Prop :=
  cameraId ∉ observed.provider.mLegacyCameras

/-- The last report is not that the camera is gone. -/
def Plugged (observed : Observed) (cameraId : CameraId) : Prop :=
  ∃ status, observed.reported cameraId = some status ∧ status ≠ .notPresent

/-- With a callback set, the external cameras that the provider knows are those
that are plugged in, and no device of another one is handed out. -/
structure Consistent (observed : Observed) : Prop where
  ids : observed.provider.mCallbacks = true → ∀ cameraId,
    observed.External cameraId →
      (cameraId ∈ observed.provider.mCameraIds.keys ↔
        observed.Plugged cameraId)
  names : observed.provider.mCallbacks = true → ∀ cameraId,
    observed.External cameraId →
      (cameraId ∈ observed.provider.mCameraDeviceNames.keys ↔
        observed.Plugged cameraId)
  handedOut : observed.provider.mCallbacks = true →
    ∀ initFailed name cameraId, observed.External cameraId →
      observed.provider.getCameraDeviceInterface initFailed name =
        (.ok, some cameraId) → observed.Plugged cameraId

/-- A callback is set only while no external camera that the provider knows is
gone, and with a callback set a number that is no status is reported only for a
camera that the provider knows. -/
def Orderly (observed : Observed) : Action → Prop
  | .setCallback callback => callback = true →
      ∀ cameraId ∈ observed.provider.mCameraDeviceNames.keys,
        observed.External cameraId → observed.Plugged cameraId
  | .statusChange cameraId (.other _) =>
    observed.provider.mCallbacks = true → observed.External cameraId →
      cameraId ∈ observed.provider.mCameraDeviceNames.keys
  | .statusChange _ _ => True

end Observed

/-! ## What the provider knows -/

namespace CameraProvider

variable {provider : CameraProvider} {cameraId other : CameraId}
  {status : CameraDeviceStatus}

/-- The provider has a name for the camera. -/
def Knows (provider : CameraProvider) (cameraId : CameraId) : Prop :=
  cameraId ∈ provider.mCameraDeviceNames.keys

/-- The ids and the names are of the same cameras, and each camera has the name
that its id gives it. -/
structure WellNamed (provider : CameraProvider) : Prop where
  ids : ∀ cameraId,
    cameraId ∈ provider.mCameraIds.keys ↔ provider.Knows cameraId
  names : ∀ cameraId name,
    provider.mCameraDeviceNames.lookup cameraId = some name →
      name = getAidlDeviceName cameraId

theorem knows_iff :
    provider.Knows cameraId ↔
      ∃ name, provider.mCameraDeviceNames.lookup cameraId = some name := by
  rw [Knows, OrderedMap.mem_keys_iff, Option.isSome_iff_exists]

theorem knows_addDeviceNames {camNew : Bool} :
    (provider.addDeviceNames cameraId status camNew).Knows other ↔
      other = cameraId ∨ provider.Knows other := by
  cases camNew <;> exact OrderedMap.mem_keys_insert

section

variable (hnamed : provider.WellNamed)
include hnamed

theorem WellNamed.record : (provider.record cameraId status).WellNamed :=
  ⟨hnamed.ids, hnamed.names⟩

theorem WellNamed.cameraDeviceStatusChange {name : String} :
    (provider.cameraDeviceStatusChange name status).WellNamed :=
  ⟨hnamed.ids, hnamed.names⟩

theorem wellNamed_addDeviceNames {camNew : Bool} :
    (provider.addDeviceNames cameraId status camNew).WellNamed where
  ids other := by
    rw [knows_addDeviceNames, ← hnamed.ids]
    cases camNew <;> exact OrderedMap.mem_keys_insert
  names other name hname := by
    have hinsert : (provider.mCameraDeviceNames.insert cameraId
        (getAidlDeviceName cameraId)).lookup other = some name := by
      cases camNew <;> exact hname
    rw [OrderedMap.lookup_insert, Function.update_apply] at hinsert
    split_ifs at hinsert with heq
    · rw [heq, ← Option.some.inj hinsert]
    · exact hnamed.names other name hinsert

theorem names_removeDeviceNames (hknows : provider.Knows cameraId) :
    (provider.removeDeviceNames cameraId).mCameraDeviceNames =
      provider.mCameraDeviceNames.erase cameraId := by
  obtain ⟨name, hname⟩ := knows_iff.mp hknows
  rw [hnamed.names cameraId name hname] at hname
  exact if_pos hname

theorem knows_removeDeviceNames (hknows : provider.Knows cameraId) :
    (provider.removeDeviceNames cameraId).Knows other ↔
      other ≠ cameraId ∧ provider.Knows other := by
  rw [Knows, names_removeDeviceNames hnamed hknows]
  exact OrderedMap.mem_keys_erase

theorem wellNamed_removeDeviceNames (hknows : provider.Knows cameraId) :
    (provider.removeDeviceNames cameraId).WellNamed where
  ids other := by
    rw [knows_removeDeviceNames hnamed hknows, ← hnamed.ids]
    exact OrderedMap.mem_keys_erase
  names other name hname := by
    rw [names_removeDeviceNames hnamed hknows, OrderedMap.lookup_erase,
      Function.update_apply] at hname
    split_ifs at hname
    exact hnamed.names other name hname

end

/-- What a report can do. -/
inductive Reported (provider : CameraProvider) (cameraId : CameraId)
    (status : CameraDeviceStatus) : CameraProvider → Prop where
  | unheard (hcallback : provider.mCallbacks = false) :
      Reported provider cameraId status (provider.record cameraId status)
  | ignored (hcallback : provider.mCallbacks = true)
      (hknows : ¬ provider.Knows cameraId)
      (hstatus : status ≠ .present ∧ status ≠ .enumerating) :
      Reported provider cameraId status (provider.record cameraId status)
  | added (hcallback : provider.mCallbacks = true)
      (hstatus : status = .present ∨ status = .enumerating) :
      Reported provider cameraId status
        ((provider.record cameraId status).addDeviceNames cameraId status true)
  | kept (name : String) (hcallback : provider.mCallbacks = true)
      (hknows : provider.Knows cameraId) (hstatus : status ≠ .notPresent) :
      Reported provider cameraId status
        ((provider.record cameraId status).cameraDeviceStatusChange name status)
  | removed (name : String) (hcallback : provider.mCallbacks = true)
      (hknows : provider.Knows cameraId) (hstatus : status = .notPresent) :
      Reported provider cameraId status
        (((provider.record cameraId status).cameraDeviceStatusChange name
          status).removeDeviceNames cameraId)

theorem reported_sCameraDeviceStatusChange (provider : CameraProvider)
    (cameraId : CameraId) (status : CameraDeviceStatus) :
    provider.Reported cameraId status
      (provider.sCameraDeviceStatusChange cameraId status) := by
  unfold sCameraDeviceStatusChange
  cases hcallback : provider.mCallbacks with
  | false => exact .unheard hcallback
  | true =>
    cases hname : provider.mCameraDeviceNames.lookup cameraId with
    | none =>
      have hknows : ¬ provider.Knows cameraId := by
        rw [knows_iff, hname]
        exact nofun
      cases status with
      | present => exact .added hcallback (.inl rfl)
      | enumerating => exact .added hcallback (.inr rfl)
      | notPresent | other => exact .ignored hcallback hknows ⟨nofun, nofun⟩
    | some name =>
      have hknows := knows_iff.mpr ⟨name, hname⟩
      cases status with
      | notPresent => exact .removed name hcallback hknows rfl
      | present | enumerating | other => exact .kept name hcallback hknows nofun

/-- Whether a camera is known after a report about it. -/
def KnownAfter (known : Prop) : CameraDeviceStatus → Prop
  | .notPresent => False
  | .present | .enumerating => True
  | .other _ => known

variable {next : CameraProvider}

section

variable (hreported : provider.Reported cameraId status next)
include hreported

/-- What a report leaves alone, and what it records. -/
theorem Reported.frame :
    next.mLegacyCameras = provider.mLegacyCameras ∧
      next.mCallbacks = provider.mCallbacks ∧
      next.mCameraStatusMap =
        provider.mCameraStatusMap.insert cameraId status := by
  cases hreported <;> exact ⟨rfl, rfl, rfl⟩

theorem Reported.wellNamed (hnamed : provider.WellNamed) : next.WellNamed := by
  cases hreported with
  | unheard | ignored => exact hnamed.record
  | kept => exact hnamed.record.cameraDeviceStatusChange
  | added => exact wellNamed_addDeviceNames hnamed.record
  | removed name hcallback hknows =>
    exact wellNamed_removeDeviceNames
      hnamed.record.cameraDeviceStatusChange hknows

theorem Reported.knows_other (hnamed : provider.WellNamed)
    (hother : other ≠ cameraId) : next.Knows other ↔ provider.Knows other := by
  cases hreported with
  | unheard | ignored | kept => exact Iff.rfl
  | added =>
    rw [knows_addDeviceNames]
    exact or_iff_right hother
  | removed name hcallback hknows =>
    rw [knows_removeDeviceNames hnamed.record.cameraDeviceStatusChange hknows]
    exact and_iff_right hother

theorem Reported.knows_self (hnamed : provider.WellNamed)
    (hset : provider.mCallbacks = true) :
    next.Knows cameraId ↔ KnownAfter (provider.Knows cameraId) status := by
  cases hreported with
  | unheard hcallback => exact absurd (hcallback.symm.trans hset) nofun
  | ignored hcallback hknows hstatus =>
    cases status with
    | present => exact absurd rfl hstatus.1
    | enumerating => exact absurd rfl hstatus.2
    | notPresent => exact iff_of_false hknows id
    | other code => exact Iff.rfl
  | added hcallback hstatus =>
    refine iff_of_true (knows_addDeviceNames.mpr (.inl rfl)) ?_
    obtain rfl | rfl := hstatus <;> exact trivial
  | kept name hcallback hknows hstatus =>
    cases status with
    | notPresent => exact absurd rfl hstatus
    | present | enumerating => exact iff_of_true hknows trivial
    | other code => exact Iff.rfl
  | removed name hcallback hknows hstatus =>
    subst hstatus
    rw [knows_removeDeviceNames hnamed.record.cameraDeviceStatusChange hknows]
    exact iff_of_false (fun hself => hself.1 rfl) id

end

/-! ### Setting a callback -/

/-- An external camera of the status map that is there. -/
def Presents (provider : CameraProvider) (cameraId : CameraId)
    (entries : List (CameraId × CameraDeviceStatus)) : Prop :=
  ∃ status, (cameraId, status) ∈ entries ∧
    cameraId ∉ provider.mLegacyCameras ∧ status ≠ .notPresent

/-- What the loop over the status map leaves alone and what it adds. -/
structure Added (provider : CameraProvider)
    (entries : List (CameraId × CameraDeviceStatus))
    (next : CameraProvider) : Prop where
  legacy : next.mLegacyCameras = provider.mLegacyCameras
  callbacks : next.mCallbacks = provider.mCallbacks
  statuses : next.mCameraStatusMap = provider.mCameraStatusMap
  wellNamed : provider.WellNamed → next.WellNamed
  knows : ∀ cameraId, next.Knows cameraId ↔
    provider.Knows cameraId ∨ provider.Presents cameraId entries

theorem added_addPresenting (provider : CameraProvider)
    (entry : CameraId × CameraDeviceStatus) :
    provider.Added [entry] (provider.addPresenting entry) := by
  obtain ⟨cameraId, status⟩ := entry
  rw [addPresenting]
  split_ifs with hadd
  · refine ⟨rfl, rfl, rfl, fun hnamed => wellNamed_addDeviceNames hnamed,
      fun other => ?_⟩
    rw [knows_addDeviceNames, or_comm]
    refine or_congr_right ⟨?_, ?_⟩
    · rintro rfl
      exact ⟨status, List.mem_singleton_self _, hadd⟩
    · rintro ⟨found, hmem, -⟩
      exact congrArg Prod.fst (List.mem_singleton.mp hmem)
  · refine ⟨rfl, rfl, rfl, id, fun other => (or_iff_left ?_).symm⟩
    rintro ⟨found, hmem, hfound⟩
    obtain ⟨rfl, rfl⟩ := Prod.mk.inj (List.mem_singleton.mp hmem)
    exact hadd hfound

theorem added_foldl (entries : List (CameraId × CameraDeviceStatus))
    (provider : CameraProvider) :
    provider.Added entries (entries.foldl addPresenting provider) := by
  induction entries generalizing provider with
  | nil =>
    refine ⟨rfl, rfl, rfl, id, fun other => (or_iff_left ?_).symm⟩
    rintro ⟨found, hmem, -⟩
    exact List.not_mem_nil hmem
  | cons entry entries ih =>
    have hfirst := provider.added_addPresenting entry
    have hrest := ih (provider.addPresenting entry)
    refine ⟨hrest.legacy.trans hfirst.legacy,
      hrest.callbacks.trans hfirst.callbacks,
      hrest.statuses.trans hfirst.statuses,
      fun hnamed => hrest.wellNamed (hfirst.wellNamed hnamed), fun other => ?_⟩
    have hsplit : provider.Presents other (entry :: entries) ↔
        provider.Presents other [entry] ∨
          (provider.addPresenting entry).Presents other entries := by
      simp only [Presents, hfirst.legacy, List.mem_cons, List.not_mem_nil,
        or_false, or_and_right, exists_or]
    rw [List.foldl_cons, hrest.knows, hfirst.knows, hsplit, or_assoc]

end CameraProvider

/-! ## Along a run -/

namespace Observed

variable {observed : Observed}

/-- The status map has what was reported for external cameras. -/
structure Tracks (observed : Observed) : Prop where
  named : observed.provider.WellNamed
  statuses : ∀ cameraId, observed.External cameraId →
    observed.provider.mCameraStatusMap.lookup cameraId =
      observed.reported cameraId

/-- With a callback set, the provider knows the external cameras that are
plugged in. -/
def KnowsPlugged (observed : Observed) : Prop :=
  observed.provider.mCallbacks = true → ∀ cameraId,
    observed.External cameraId →
      (observed.provider.Knows cameraId ↔ observed.Plugged cameraId)

variable {cameraId : CameraId}

theorem knows_of_getCameraDeviceInterface {provider : CameraProvider}
    {initFailed : CameraId → Bool} {name : String}
    (hget : provider.getCameraDeviceInterface initFailed name =
      (.ok, some cameraId)) : provider.Knows cameraId := by
  rw [CameraProvider.getCameraDeviceInterface] at hget
  cases hmatch : matchDeviceName name with
  | none =>
    rw [hmatch] at hget
    exact absurd hget nofun
  | some found =>
    obtain ⟨version, id⟩ := found
    simp only [hmatch] at hget
    split_ifs at hget with hname hfailed hid
    · exact absurd hget nofun
    · obtain rfl : id = cameraId := Option.some.inj (Prod.mk.inj hget).2
      exact CameraProvider.knows_iff.mpr ⟨name, hname⟩
    · exact absurd hget nofun
    · exact absurd hget nofun

theorem consistent_iff_knowsPlugged (htracks : observed.Tracks) :
    observed.Consistent ↔ observed.KnowsPlugged := by
  constructor
  · exact fun hconsistent => hconsistent.names
  · intro hknows
    refine ⟨fun hset cameraId hexternal => ?_, hknows,
      fun hset initFailed name cameraId hexternal hget => ?_⟩
    · rw [htracks.named.ids]
      exact hknows hset cameraId hexternal
    · exact (hknows hset cameraId hexternal).mp
        (knows_of_getCameraDeviceInterface hget)

/-! ### The steps -/

variable {status : CameraDeviceStatus}

theorem plugged_statusChange_self :
    (observed.next (.statusChange cameraId status)).Plugged cameraId ↔
      status ≠ .notPresent := by
  simp [Plugged, next]

theorem plugged_statusChange_other {other : CameraId}
    (hother : other ≠ cameraId) :
    (observed.next (.statusChange cameraId status)).Plugged other ↔
      observed.Plugged other := by
  simp [Plugged, next, hother]

theorem tracks_statusChange (htracks : observed.Tracks) (cameraId : CameraId)
    (status : CameraDeviceStatus) :
    (observed.next (.statusChange cameraId status)).Tracks := by
  have hreported := observed.provider.reported_sCameraDeviceStatusChange
    cameraId status
  obtain ⟨hlegacy, -, hstatuses⟩ := hreported.frame
  refine ⟨hreported.wellNamed htracks.named, fun other hexternal => ?_⟩
  rw [External, next, hlegacy] at hexternal
  simp only [next, hstatuses, OrderedMap.lookup_insert, Function.update_apply,
    htracks.statuses other hexternal]

theorem added_setCallback (provider : CameraProvider) :
    CameraProvider.Added { provider with mCallbacks := true }
      provider.mCameraStatusMap.entries (provider.setCallback true) :=
  CameraProvider.added_foldl _ _

theorem tracks_setCallback (htracks : observed.Tracks) (callback : Bool) :
    (observed.next (.setCallback callback)).Tracks := by
  cases callback with
  | false => exact ⟨⟨htracks.named.ids, htracks.named.names⟩, htracks.statuses⟩
  | true =>
    have hadded := added_setCallback observed.provider
    refine ⟨hadded.wellNamed ⟨htracks.named.ids, htracks.named.names⟩,
      fun other hexternal => ?_⟩
    rw [External, next, hadded.legacy] at hexternal
    simp only [next, hadded.statuses]
    exact htracks.statuses other hexternal

theorem tracks_next (htracks : observed.Tracks) (action : Action) :
    (observed.next action).Tracks := by
  cases action with
  | statusChange cameraId status =>
    exact tracks_statusChange htracks cameraId status
  | setCallback callback => exact tracks_setCallback htracks callback

theorem orderly_statusChange_iff :
    observed.Orderly (.statusChange cameraId status) ↔
      (observed.provider.mCallbacks = true → observed.External cameraId →
        (CameraProvider.KnownAfter (observed.provider.Knows cameraId) status ↔
          status ≠ .notPresent)) := by
  cases status <;> simp [Orderly, CameraProvider.KnownAfter,
    CameraProvider.Knows]

section

variable (htracks : observed.Tracks)
include htracks

/-- A report keeps the cameras in step unless it is of an unknown camera and no
status at all. -/
theorem knowsPlugged_statusChange_iff (hknows : observed.KnowsPlugged)
    (cameraId : CameraId) (status : CameraDeviceStatus) :
    (observed.next (.statusChange cameraId status)).KnowsPlugged ↔
      observed.Orderly (.statusChange cameraId status) := by
  have hreported := observed.provider.reported_sCameraDeviceStatusChange
    cameraId status
  obtain ⟨hlegacy, hcallbacks, -⟩ := hreported.frame
  rw [orderly_statusChange_iff]
  constructor
  · intro hnext hset hexternal
    have hself := hnext (hcallbacks.trans hset) cameraId
      (by rwa [External, next, hlegacy])
    rwa [plugged_statusChange_self, next,
      hreported.knows_self htracks.named hset] at hself
  · intro hself hset other hexternal
    rw [next, hcallbacks] at hset
    rw [External, next, hlegacy] at hexternal
    by_cases hother : other = cameraId
    · subst hother
      rw [plugged_statusChange_self, next,
        hreported.knows_self htracks.named hset]
      exact hself hset hexternal
    · rw [plugged_statusChange_other hother, next,
        hreported.knows_other htracks.named hother]
      exact hknows hset other hexternal

/-- The cameras to be added are those plugged in. -/
theorem presents_iff_plugged (hexternal : observed.External cameraId) :
    observed.provider.Presents cameraId
        observed.provider.mCameraStatusMap.entries ↔
      observed.Plugged cameraId := by
  simp only [CameraProvider.Presents, Plugged, OrderedMap.mem_entries_iff,
    htracks.statuses cameraId hexternal]
  exact exists_congr fun status =>
    and_congr_right fun _ => and_iff_right hexternal

/-- Setting a callback adds the cameras plugged in and removes none. -/
theorem knowsPlugged_setCallback_iff (callback : Bool) :
    (observed.next (.setCallback callback)).KnowsPlugged ↔
      observed.Orderly (.setCallback callback) := by
  cases callback with
  | false => exact iff_of_true nofun nofun
  | true =>
    have hadded := added_setCallback observed.provider
    have hknows (cameraId : CameraId)
        (hexternal : observed.External cameraId) :
        (observed.next (.setCallback true)).provider.Knows cameraId ↔
          observed.provider.Knows cameraId ∨ observed.Plugged cameraId := by
      rw [← presents_iff_plugged htracks hexternal]
      exact hadded.knows cameraId
    constructor
    · intro hnext _ cameraId hmem hexternal
      have hstill := (hknows cameraId hexternal).mpr (.inl hmem)
      exact (hnext hadded.callbacks cameraId
        (by rwa [External, next, hadded.legacy])).mp hstill
    · intro horderly _ cameraId hexternal
      rw [External, next, hadded.legacy] at hexternal
      rw [hknows cameraId hexternal]
      exact or_iff_right_of_imp fun hmem =>
        horderly rfl cameraId hmem hexternal

theorem knowsPlugged_next_iff (hknows : observed.KnowsPlugged)
    (action : Action) :
    (observed.next action).KnowsPlugged ↔ observed.Orderly action := by
  cases action with
  | statusChange cameraId status =>
    exact knowsPlugged_statusChange_iff htracks hknows cameraId status
  | setCallback callback => exact knowsPlugged_setCallback_iff htracks callback

end

/-! ### The start -/

/-- The module's own cameras are known and present from the start. -/
theorem foldl_record_addDeviceNames (cameraIds : List CameraId)
    (provider : CameraProvider) (hnamed : provider.WellNamed) :
    let last := cameraIds.foldl (fun provider cameraId =>
      (provider.record cameraId .present).addDeviceNames cameraId .present
        false) provider
    last.mLegacyCameras = provider.mLegacyCameras ∧
      last.mCallbacks = provider.mCallbacks ∧ last.WellNamed ∧
      ∀ other ∉ cameraIds, last.mCameraStatusMap.lookup other =
        provider.mCameraStatusMap.lookup other := by
  induction cameraIds generalizing provider with
  | nil => exact ⟨rfl, rfl, hnamed, fun _ _ => rfl⟩
  | cons cameraId cameraIds ih =>
    obtain ⟨hlegacy, hcallbacks, hwell, hstatuses⟩ :=
      ih _ (CameraProvider.wellNamed_addDeviceNames hnamed.record)
    refine ⟨hlegacy, hcallbacks, hwell, fun other hother => ?_⟩
    rw [List.mem_cons, not_or] at hother
    rw [List.foldl_cons, hstatuses other hother.2]
    show (provider.mCameraStatusMap.insert cameraId .present).lookup other = _
    rw [OrderedMap.lookup_insert, Function.update_of_ne hother.1]

theorem tracks_init (cameraIds : List CameraId) : (init cameraIds).Tracks := by
  have hempty : CameraProvider.WellNamed { mLegacyCameras := cameraIds } :=
    ⟨fun _ => Iff.rfl, nofun⟩
  obtain ⟨hlegacy, -, hnamed, hstatuses⟩ :=
    foldl_record_addDeviceNames cameraIds _ hempty
  refine ⟨hnamed, fun cameraId hexternal => hstatuses cameraId ?_⟩
  rw [External] at hexternal
  exact fun hmem => hexternal (hlegacy.symm ▸ hmem)

theorem knowsPlugged_init (cameraIds : List CameraId) :
    (init cameraIds).KnowsPlugged := by
  have hempty : CameraProvider.WellNamed { mLegacyCameras := cameraIds } :=
    ⟨fun _ => Iff.rfl, nofun⟩
  obtain ⟨-, hcallbacks, -⟩ := foldl_record_addDeviceNames cameraIds _ hempty
  exact fun hset => absurd (hcallbacks.symm.trans hset) nofun

/-- Whatever comes and goes and whenever callbacks are set, the provider knows
the external cameras that are plugged in, as long as the run is orderly and not
longer. -/
theorem provider_consistent_iff_orderly (cameraIds : List CameraId)
    (actions : List Action) :
    RunHolds step Consistent (init cameraIds) actions ↔
      RunMeets step Orderly (init cameraIds) actions := by
  refine @runHolds_iff_runMeets _ _ step _ Consistent Orderly
    (fun observed => observed.Tracks ∧ observed.KnowsPlugged) ?_ ?_ ?_ ?_
    actions
  · exact fun observed hinv => (consistent_iff_knowsPlugged hinv.1).mpr hinv.2
  · rintro observed action next hinv horderly hstep
    obtain rfl : observed.next action = next := Option.some.inj hstep
    exact ⟨tracks_next hinv.1 action,
      (knowsPlugged_next_iff hinv.1 hinv.2 action).mpr horderly⟩
  · rintro observed action next hinv hdisorderly hstep hconsistent
    obtain rfl : observed.next action = next := Option.some.inj hstep
    have hknows := (consistent_iff_knowsPlugged
      (tracks_next hinv.1 action)).mp hconsistent
    exact hdisorderly ((knowsPlugged_next_iff hinv.1 hinv.2 action).mp hknows)
  · exact ⟨tracks_init cameraIds, knowsPlugged_init cameraIds⟩

/-- A camera is unplugged while no callback is set. -/
def unpluggedUnheard : List Action :=
  [.setCallback true, .statusChange "9" .present, .setCallback false,
    .statusChange "9" .notPresent, .setCallback true]

/-- Its device is still handed out once a callback is set again. -/
theorem unplugged_camera_handed_out :
    ¬ RunHolds step Consistent (init ["0"]) unpluggedUnheard ∧
      (unpluggedUnheard.foldl next
        (init ["0"])).provider.getCameraDeviceInterface (fun _ => false)
          "device@1.1/internal/9" = (.ok, some "9") := by
  have hhanded : (unpluggedUnheard.foldl next
      (init ["0"])).provider.getCameraDeviceInterface (fun _ => false)
        "device@1.1/internal/9" = (.ok, some "9") := by decide +kernel
  refine ⟨fun hholds => ?_, hhanded⟩
  have hlast := hholds.last (run_eq_foldl next _ _)
  have hexternal : External (unpluggedUnheard.foldl next (init ["0"])) "9" := by
    unfold External
    decide +kernel
  obtain ⟨status, hstatus, hplugged⟩ := hlast.handedOut (by decide +kernel)
    (fun _ => false) _ "9" hexternal hhanded
  exact hplugged (Option.some.inj hstatus).symm

end Observed

end HardwareInterfaces.Camera.Provider

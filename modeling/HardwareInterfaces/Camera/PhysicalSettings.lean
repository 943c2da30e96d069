import HardwareInterfaces.Camera.CameraDeviceSession

/-!
# Settings of physical cameras

A request may carry settings for physical cameras, each with the call itself or
through the message queue.  A loop gathers them in three vectors: the ids, the
copies of what came through the queue, and pointers to the settings, which point
into the copies or into the request.  A copy is pushed for settings from the
queue only, but is then looked for at the index of the settings, so that one
entry with the call puts every later copy out of reach.

This is the loop behind `checkPhysicalSettings`, with what the HAL is given.
-/

namespace HardwareInterfaces.Camera

namespace CameraDeviceSession

/-- Where a pointer of the HAL request points to; the request does not change
meanwhile. -/
inductive SettingsPtr where
  | null
  | copy (index : Nat)
  | inline (settings : CameraMetadata)
  deriving DecidableEq, Repr

structure PhysicalVectors where
  physicalCameraIds : List String := []
  physicalCameraSettings : List SettingsPtr := []
  physicalFmq : List CameraMetadata := []
  deriving DecidableEq, Repr

/-- How the loop ends, with what is left in the message queue. -/
inductive Gathering where
  | outOfBounds
  | rejected (queue : List UInt8)
  | gathered (vectors : PhysicalVectors) (queue : List UInt8)
  deriving DecidableEq, Repr

namespace PhysicalVectors

def push (vectors : PhysicalVectors) (physicalCameraId : String)
    (settings : SettingsPtr) : PhysicalVectors :=
  { vectors with
    physicalCameraIds := vectors.physicalCameraIds ++ [physicalCameraId]
    physicalCameraSettings := vectors.physicalCameraSettings ++ [settings] }

def deref (copies : List CameraMetadata) : SettingsPtr → Option CameraMetadata
  | .null => none
  | .copy index => copies[index]?
  | .inline settings => some settings

/-- What the HAL reads through the pointers it is given. -/
def halSettings (vectors : PhysicalVectors) : List (Option CameraMetadata) :=
  vectors.physicalCameraSettings.map (deref vectors.physicalFmq)

end PhysicalVectors

/-- The end of the body of the loop, with the settings converted. -/
def pushSettings (firstRequest : Bool) (vectors : PhysicalVectors)
    (physicalCameraId : String) (settings : Settings) (pointer : SettingsPtr)
    (queue : List UInt8) : Gathering :=
  match settings with
  | .unreadable | .corrupt => .rejected queue
  | .converted none =>
    if firstRequest then .rejected queue
    else .gathered (vectors.push physicalCameraId .null) queue
  | .converted (some _) =>
    .gathered (vectors.push physicalCameraId pointer) queue

/-- The body of the loop. -/
def gatherSetting (library : MetadataLibrary) (firstRequest : Bool)
    (index : Nat) (vectors : PhysicalVectors) (setting : PhysicalCameraSetting)
    (queue : List UInt8) : Gathering :=
  if 0 < setting.fmqSettingsSize then
    let copies := vectors.physicalFmq ++ [[]]
    if index < copies.length then
      if setting.fmqSettingsSize ≤ queue.length then
        let copy := queue.take setting.fmqSettingsSize
        pushSettings firstRequest
          { vectors with physicalFmq := copies.set index copy }
          setting.physicalCameraId (convertFromAidl library copy) (.copy index)
          (queue.drop setting.fmqSettingsSize)
      else .rejected queue
    else .outOfBounds
  else
    pushSettings firstRequest vectors setting.physicalCameraId
      (convertFromAidl library setting.settings) (.inline setting.settings)
      queue

def gatherSettings (library : MetadataLibrary) (firstRequest : Bool) :
    Nat → PhysicalVectors → List PhysicalCameraSetting → List UInt8 → Gathering
  | _, vectors, [], queue => .gathered vectors queue
  | index, vectors, setting :: rest, queue =>
    match gatherSetting library firstRequest index vectors setting queue with
    | .gathered vectors queue =>
      gatherSettings library firstRequest (index + 1) vectors rest queue
    | .rejected queue => .rejected queue
    | .outOfBounds => .outOfBounds

/-! ## What the entries are -/

/-- The settings of the entries: those from the queue follow each other
there. -/
def entrySettings (library : MetadataLibrary) :
    List PhysicalCameraSetting → List UInt8 → List Settings
  | [], _ => []
  | setting :: rest, queue =>
    let (settings, queue) := readSettings library queue
      setting.fmqSettingsSize setting.settings
    settings :: entrySettings library rest queue

/-- Settings that are converted, and not null in a first request. -/
def Settings.isAccepted (firstRequest : Bool) : Settings → Bool
  | .unreadable | .corrupt => false
  | .converted settings => !firstRequest || settings.isSome

def Settings.metadata : Settings → Option CameraMetadata
  | .converted settings => settings
  | .unreadable | .corrupt => none

/-- All entries are accepted. -/
def AllAccepted (library : MetadataLibrary) (firstRequest : Bool)
    (settings : List PhysicalCameraSetting) (queue : List UInt8) : Prop :=
  ∀ entry ∈ entrySettings library settings queue,
    entry.isAccepted firstRequest = true

/-- No index is out of bounds, and for entries that are all accepted the HAL is
given their ids and their metadata, each at its place. -/
structure HandsOver (library : MetadataLibrary) (firstRequest : Bool)
    (settings : List PhysicalCameraSetting) (queue : List UInt8) : Prop where
  inBounds :
    gatherSettings library firstRequest 0 {} settings queue ≠ .outOfBounds
  handed : AllAccepted library firstRequest settings queue →
    ∃ vectors rest,
      gatherSettings library firstRequest 0 {} settings queue =
        .gathered vectors rest ∧
      vectors.physicalCameraIds =
        settings.map PhysicalCameraSetting.physicalCameraId ∧
      vectors.halSettings =
        (entrySettings library settings queue).map Settings.metadata

/-- Before an entry from the queue there are only such entries, unless one
before it is not accepted. -/
def QueueFirst (library : MetadataLibrary) (firstRequest : Bool)
    (settings : List PhysicalCameraSetting) (queue : List UInt8) : Prop :=
  ∀ before setting after, settings = before ++ setting :: after →
    0 < setting.fmqSettingsSize →
    AllAccepted library firstRequest before queue →
      ∀ earlier ∈ before, 0 < earlier.fmqSettingsSize

variable {library : MetadataLibrary} {firstRequest : Bool} {index : Nat}
  {vectors next : PhysicalVectors} {setting : PhysicalCameraSetting}
  {settings : List PhysicalCameraSetting} {queue rest : List UInt8}

/-! ## One entry -/

/-- Every pointer to a copy points to one that is there. -/
def PhysicalVectors.Valid (vectors : PhysicalVectors) : Prop :=
  ∀ index, .copy index ∈ vectors.physicalCameraSettings →
    index < vectors.physicalFmq.length

/-- The vectors after an entry has been accepted. -/
structure Pushed (vectors : PhysicalVectors) (setting : PhysicalCameraSetting)
    (entry : Settings) (next : PhysicalVectors) : Prop where
  ids : next.physicalCameraIds =
    vectors.physicalCameraIds ++ [setting.physicalCameraId]
  handed : next.halSettings = vectors.halSettings ++ [entry.metadata]
  copies : next.physicalFmq.length = vectors.physicalFmq.length +
    if 0 < setting.fmqSettingsSize then 1 else 0
  valid : next.Valid

theorem Pushed.copies_le {entry : Settings}
    (hpushed : Pushed vectors setting entry next)
    (hcopies : vectors.physicalFmq.length ≤ index) :
    next.physicalFmq.length ≤ index + 1 := by
  rw [hpushed.copies]
  split_ifs <;> omega

theorem eq_of_convertFromAidl {metadata converted : CameraMetadata}
    (hconvert : convertFromAidl library metadata =
      .converted (some converted)) : converted = metadata := by
  rw [convertFromAidl] at hconvert
  split_ifs at hconvert
  · exact absurd (Settings.converted.inj hconvert) nofun
  · exact (Option.some.inj (Settings.converted.inj hconvert)).symm

/-- Copies that are pushed behind the others leave what the HAL reads. -/
theorem map_deref_append (hvalid : vectors.Valid)
    (copies : List CameraMetadata) :
    vectors.physicalCameraSettings.map
        (PhysicalVectors.deref (vectors.physicalFmq ++ copies)) =
      vectors.halSettings := by
  apply List.map_congr_left
  intro pointer hpointer
  cases pointer with
  | null | inline => rfl
  | copy index => exact List.getElem?_append_left (hvalid index hpointer)

section

variable (hvalid : vectors.Valid) {copies : List CameraMetadata}
  {pointer : SettingsPtr} {entry : Settings}
  (hcopies : copies.length = if 0 < setting.fmqSettingsSize then 1 else 0)
include hvalid hcopies

/-- Pushing a pointer to what the entry is. -/
theorem pushed_push
    (hpointer : PhysicalVectors.deref (vectors.physicalFmq ++ copies) pointer =
      entry.metadata)
    (hcopy : ∀ index, pointer = .copy index →
      index < (vectors.physicalFmq ++ copies).length) :
    Pushed vectors setting entry
      (PhysicalVectors.push
        { vectors with physicalFmq := vectors.physicalFmq ++ copies }
        setting.physicalCameraId pointer) where
  ids := rfl
  handed := by
    rw [PhysicalVectors.halSettings, PhysicalVectors.push, List.map_append,
      map_deref_append hvalid, List.map_singleton, hpointer]
  copies := by
    rw [PhysicalVectors.push, List.length_append, hcopies]
  valid := by
    intro index hindex
    rcases List.mem_append.mp hindex with hold | hnew
    · have hlt := hvalid index hold
      rw [PhysicalVectors.push, List.length_append]
      omega
    · exact hcopy index (List.mem_singleton.mp hnew).symm

/-- The end of the body: `copies` is what this entry has pushed before. -/
theorem pushSettings_spec
    (hpointer : ∀ metadata, entry = .converted (some metadata) →
      PhysicalVectors.deref (vectors.physicalFmq ++ copies) pointer =
        some metadata)
    (queue : List UInt8) :
    if entry.isAccepted firstRequest then
      ∃ next, pushSettings firstRequest
          { vectors with physicalFmq := vectors.physicalFmq ++ copies }
          setting.physicalCameraId entry pointer queue =
            .gathered next queue ∧
        Pushed vectors setting entry next
    else pushSettings firstRequest
        { vectors with physicalFmq := vectors.physicalFmq ++ copies }
        setting.physicalCameraId entry pointer queue = .rejected queue := by
  cases entry with
  | unreadable | corrupt => rfl
  | converted converted =>
    cases converted with
    | none =>
      cases firstRequest with
      | true => rfl
      | false => exact ⟨_, rfl, pushed_push hvalid hcopies rfl nofun⟩
    | some metadata =>
      have hread := hpointer metadata rfl
      have haccepted : (Settings.converted (some metadata)).isAccepted
          firstRequest = true := Bool.or_true _
      rw [if_pos haccepted]
      refine ⟨_, rfl, pushed_push hvalid hcopies hread ?_⟩
      rintro index rfl
      exact (List.getElem?_eq_some_iff.mp hread).1

end

/-- An entry from the queue whose copy is at its index, or any entry with the
call. -/
theorem gatherSetting_of_reachable (hvalid : vectors.Valid)
    (hreach : 0 < setting.fmqSettingsSize → vectors.physicalFmq.length = index)
    (queue : List UInt8) :
    let read := readSettings library queue setting.fmqSettingsSize
      setting.settings
    if read.1.isAccepted firstRequest then
      ∃ next, gatherSetting library firstRequest index vectors setting queue =
          .gathered next read.2 ∧ Pushed vectors setting read.1 next
    else gatherSetting library firstRequest index vectors setting queue =
      .rejected read.2 := by
  dsimp only
  by_cases hsize : 0 < setting.fmqSettingsSize
  · have hindex := hreach hsize
    have hbound : index < (vectors.physicalFmq ++ [[]]).length := by
      rw [List.length_append, hindex]
      exact Nat.lt_succ_self index
    have hset (copy : CameraMetadata) :
        (vectors.physicalFmq ++ [[]]).set index copy =
          vectors.physicalFmq ++ [copy] := by
      rw [← hindex]
      simp
    rw [gatherSetting, if_pos hsize, readSettings, if_pos hsize]
    dsimp only
    rw [if_pos hbound]
    by_cases hqueue : setting.fmqSettingsSize ≤ queue.length
    · rw [if_pos hqueue, if_pos hqueue, hset]
      refine pushSettings_spec hvalid (by rw [if_pos hsize]; rfl) ?_
        (queue.drop setting.fmqSettingsSize)
      intro metadata hconvert
      rw [eq_of_convertFromAidl hconvert, ← hindex]
      exact List.getElem?_concat_length
    · rw [if_neg hqueue, if_neg hqueue]
      rfl
  · have hinline := @pushSettings_spec firstRequest vectors setting hvalid []
      (.inline setting.settings) (convertFromAidl library setting.settings)
      (by rw [if_neg hsize]; rfl)
      (fun metadata hconvert => by rw [eq_of_convertFromAidl hconvert]; rfl)
      queue
    rw [List.append_nil] at hinline
    rw [gatherSetting, if_neg hsize, readSettings, if_neg hsize]
    exact hinline

theorem gatherSetting_of_unreachable (hsize : 0 < setting.fmqSettingsSize)
    (hcopies : vectors.physicalFmq.length < index) (queue : List UInt8) :
    gatherSetting library firstRequest index vectors setting queue =
      .outOfBounds := by
  rw [gatherSetting, if_pos hsize]
  dsimp only
  rw [if_neg]
  rw [List.length_append, List.length_singleton]
  omega

/-! ## All entries -/

theorem gatherSettings_cons_of_gathered {left : List UInt8}
    (hfirst : gatherSetting library firstRequest index vectors setting queue =
      .gathered next left) :
    gatherSettings library firstRequest index vectors (setting :: settings)
        queue =
      gatherSettings library firstRequest (index + 1) next settings left := by
  rw [gatherSettings, hfirst]

theorem allAccepted_cons_iff :
    AllAccepted library firstRequest (setting :: settings) queue ↔
      (readSettings library queue setting.fmqSettingsSize
        setting.settings).1.isAccepted firstRequest = true ∧
      AllAccepted library firstRequest settings
        (readSettings library queue setting.fmqSettingsSize
          setting.settings).2 := by
  rw [AllAccepted, entrySettings, List.forall_mem_cons]
  rfl

/-- An entry from the queue comes behind accepted entries of which one came with
the call; `reached` if no entry has come with the call so far. -/
def Blocked (library : MetadataLibrary) (firstRequest reached : Bool)
    (settings : List PhysicalCameraSetting) (queue : List UInt8) : Prop :=
  ∃ before setting after, settings = before ++ setting :: after ∧
    0 < setting.fmqSettingsSize ∧
    AllAccepted library firstRequest before queue ∧
    ¬ (reached = true ∧ ∀ earlier ∈ before, 0 < earlier.fmqSettingsSize)

theorem blocked_cons_iff {reached : Bool} :
    Blocked library firstRequest reached (setting :: settings) queue ↔
      (0 < setting.fmqSettingsSize ∧ ¬ reached = true) ∨
      ((readSettings library queue setting.fmqSettingsSize
          setting.settings).1.isAccepted firstRequest = true ∧
        Blocked library firstRequest
          (reached && decide (0 < setting.fmqSettingsSize)) settings
          (readSettings library queue setting.fmqSettingsSize
            setting.settings).2) := by
  constructor
  · rintro ⟨before, found, after, heq, hsize, haccepted, hblocked⟩
    cases before with
    | nil =>
      cases heq
      exact .inl ⟨hsize, fun hreached => hblocked ⟨hreached, nofun⟩⟩
    | cons first before =>
      cases heq
      rw [allAccepted_cons_iff] at haccepted
      refine .inr ⟨haccepted.1, before, found, after, rfl, hsize,
        haccepted.2, fun hreached => hblocked ?_⟩
      rw [Bool.and_eq_true, decide_eq_true_eq] at hreached
      exact ⟨hreached.1.1, List.forall_mem_cons.mpr ⟨hreached.1.2, hreached.2⟩⟩
  · rintro (⟨hsize, hreached⟩ | ⟨hfirst, before, found, after, rfl, hsize,
      haccepted, hblocked⟩)
    · exact ⟨[], setting, settings, rfl, hsize, nofun,
        fun hall => hreached hall.1⟩
    · refine ⟨setting :: before, found, after, rfl, hsize,
        allAccepted_cons_iff.mpr ⟨hfirst, haccepted⟩, fun hall => hblocked ?_⟩
      obtain ⟨hreached, hbefore⟩ := hall
      rw [List.forall_mem_cons] at hbefore
      exact ⟨by simp [hreached, hbefore.1], hbefore.2⟩

/-- The loop leaves the bounds exactly when an entry is blocked. -/
theorem gatherSettings_eq_outOfBounds_iff (hvalid : vectors.Valid)
    (hcopies : vectors.physicalFmq.length ≤ index) :
    gatherSettings library firstRequest index vectors settings queue =
        .outOfBounds ↔
      Blocked library firstRequest
        (decide (vectors.physicalFmq.length = index)) settings queue := by
  induction settings generalizing index vectors queue with
  | nil =>
    refine iff_of_false nofun ?_
    rintro ⟨before, found, after, heq, -⟩
    exact absurd heq (by simp)
  | cons setting settings ih =>
    rw [blocked_cons_iff, decide_eq_true_eq]
    by_cases hreach : 0 < setting.fmqSettingsSize →
        vectors.physicalFmq.length = index
    · have hstep := @gatherSetting_of_reachable library firstRequest index
        vectors setting hvalid hreach queue
      dsimp only at hstep
      split_ifs at hstep with haccepted
      · obtain ⟨next, hnext, hpushed⟩ := hstep
        have hbound := hpushed.copies_le hcopies
        have hreached : decide (next.physicalFmq.length = index + 1) =
            (decide (vectors.physicalFmq.length = index) &&
              decide (0 < setting.fmqSettingsSize)) := by
          rw [hpushed.copies, ← Bool.decide_and]
          apply decide_eq_decide.mpr
          split_ifs with hsize <;> omega
        rw [gatherSettings_cons_of_gathered hnext,
          ih hpushed.valid hbound, hreached, and_iff_right haccepted]
        exact (or_iff_right fun hbad => hbad.2 (hreach hbad.1)).symm
      · rw [gatherSettings, hstep]
        refine iff_of_false nofun ?_
        rintro (⟨hsize, hne⟩ | ⟨hyes, -⟩)
        · exact hne (hreach hsize)
        · exact haccepted hyes
    · obtain ⟨hsize, hne⟩ := Classical.not_imp.mp hreach
      rw [gatherSettings, gatherSetting_of_unreachable hsize
        (lt_of_le_of_ne hcopies hne)]
      exact iff_of_true rfl (.inl ⟨hsize, hne⟩)

/-- Within the bounds, accepted entries are handed over each at its place. -/
theorem gatherSettings_of_allAccepted (hvalid : vectors.Valid)
    (hcopies : vectors.physicalFmq.length ≤ index)
    (hbounds : gatherSettings library firstRequest index vectors settings
      queue ≠ .outOfBounds)
    (haccepted : AllAccepted library firstRequest settings queue) :
    ∃ last rest, gatherSettings library firstRequest index vectors settings
        queue = .gathered last rest ∧
      last.physicalCameraIds = vectors.physicalCameraIds ++
        settings.map PhysicalCameraSetting.physicalCameraId ∧
      last.halSettings = vectors.halSettings ++
        (entrySettings library settings queue).map Settings.metadata := by
  induction settings generalizing index vectors queue with
  | nil =>
    exact ⟨vectors, queue, rfl, (List.append_nil _).symm,
      (List.append_nil _).symm⟩
  | cons setting settings ih =>
    rw [allAccepted_cons_iff] at haccepted
    by_cases hreach : 0 < setting.fmqSettingsSize →
        vectors.physicalFmq.length = index
    · have hstep := @gatherSetting_of_reachable library firstRequest index
        vectors setting hvalid hreach queue
      dsimp only at hstep
      rw [if_pos haccepted.1] at hstep
      obtain ⟨next, hnext, hpushed⟩ := hstep
      rw [gatherSettings_cons_of_gathered hnext] at hbounds ⊢
      obtain ⟨last, rest, hlast, hids, hhanded⟩ := ih hpushed.valid
        (hpushed.copies_le hcopies) hbounds haccepted.2
      refine ⟨last, rest, hlast, ?_, ?_⟩
      · rw [hids, hpushed.ids, List.append_assoc]
        rfl
      · rw [hhanded, hpushed.handed, List.append_assoc]
        rfl
    · obtain ⟨hsize, hne⟩ := Classical.not_imp.mp hreach
      refine absurd ?_ hbounds
      rw [gatherSettings, gatherSetting_of_unreachable hsize
        (lt_of_le_of_ne hcopies hne)]

theorem converted_of_isAccepted {entry : Settings}
    (haccepted : entry.isAccepted firstRequest = true) :
    ∃ converted, entry = .converted converted ∧
      ¬ (firstRequest = true ∧ converted = none) := by
  cases entry with
  | unreadable | corrupt => exact absurd haccepted nofun
  | converted converted =>
    refine ⟨converted, rfl, ?_⟩
    rintro ⟨rfl, rfl⟩
    exact absurd haccepted nofun

/-- What the request makes of the loop. -/
def Gathering.checked : Gathering → Option (Bool × List UInt8)
  | .outOfBounds => none
  | .rejected queue => some (false, queue)
  | .gathered _ queue => some (true, queue)

/-- A request goes on as the loop ends. -/
theorem checkPhysicalSettings_eq_checked (hvalid : vectors.Valid)
    (hcopies : vectors.physicalFmq.length ≤ index) :
    checkPhysicalSettings library firstRequest index
        vectors.physicalFmq.length settings queue =
      (gatherSettings library firstRequest index vectors settings
        queue).checked := by
  induction settings generalizing index vectors queue with
  | nil => rfl
  | cons setting settings ih =>
    by_cases hreach : 0 < setting.fmqSettingsSize →
        vectors.physicalFmq.length = index
    · have hstep := @gatherSetting_of_reachable library firstRequest index
        vectors setting hvalid hreach queue
      have hbound : ¬ (0 < setting.fmqSettingsSize ∧
          (if 0 < setting.fmqSettingsSize then vectors.physicalFmq.length + 1
            else vectors.physicalFmq.length) ≤ index) := by
        rintro ⟨hsize, hle⟩
        rw [if_pos hsize, hreach hsize] at hle
        omega
      rw [checkPhysicalSettings, gatherSettings]
      dsimp only at hstep ⊢
      rw [if_neg hbound]
      generalize readSettings library queue setting.fmqSettingsSize
        setting.settings = read at hstep ⊢
      obtain ⟨entry, left⟩ := read
      dsimp only at hstep
      split_ifs at hstep with haccepted
      · obtain ⟨next, hnext, hpushed⟩ := hstep
        have hnull := converted_of_isAccepted haccepted
        obtain ⟨converted, rfl, hnull⟩ := hnull
        have hcount : next.physicalFmq.length =
            if 0 < setting.fmqSettingsSize then
              vectors.physicalFmq.length + 1
            else vectors.physicalFmq.length := by
          rw [hpushed.copies]
          split_ifs <;> rfl
        rw [hnext, ← hcount]
        dsimp only
        rw [if_neg hnull]
        exact ih hpushed.valid (hpushed.copies_le hcopies)
      · rw [hstep]
        cases entry with
        | unreadable | corrupt => rfl
        | converted converted =>
          have hnull : firstRequest = true ∧ converted = none := by
            simpa [Settings.isAccepted] using haccepted
          dsimp only
          rw [if_pos hnull]
          rfl
    · obtain ⟨hsize, hne⟩ := Classical.not_imp.mp hreach
      rw [checkPhysicalSettings, gatherSettings, gatherSetting_of_unreachable
        hsize (lt_of_le_of_ne hcopies hne)]
      dsimp only
      rw [if_pos]
      · rfl
      · rw [if_pos hsize]
        exact ⟨hsize, lt_of_le_of_ne hcopies hne⟩

theorem blocked_iff_not_queueFirst :
    Blocked library firstRequest true settings queue ↔
      ¬ QueueFirst library firstRequest settings queue := by
  simp only [Blocked, QueueFirst, not_forall, true_and, exists_prop]

/-- The HAL is given the settings of every request whose entries from the queue
come first, and of no other one. -/
theorem physical_settings_handed_over_iff (library : MetadataLibrary)
    (firstRequest : Bool) (settings : List PhysicalCameraSetting)
    (queue : List UInt8) :
    HandsOver library firstRequest settings queue ↔
      QueueFirst library firstRequest settings queue := by
  have hbounds : gatherSettings library firstRequest 0 {} settings queue =
      .outOfBounds ↔ ¬ QueueFirst library firstRequest settings queue := by
    rw [← blocked_iff_not_queueFirst]
    exact gatherSettings_eq_outOfBounds_iff nofun (Nat.zero_le 0)
  constructor
  · intro hhands
    by_contra hnot
    exact hhands.inBounds (hbounds.mpr hnot)
  · intro hfirst
    have hin := mt hbounds.mp (not_not_intro hfirst)
    exact ⟨hin, gatherSettings_of_allAccepted nofun (Nat.zero_le 0) hin⟩

/-- An entry from the queue behind one that came with the call. -/
theorem mixed_settings_out_of_bounds :
    gatherSettings sizedLibrary false 0 {}
        [{ physicalCameraId := "2", settings := [4, 0, 0, 0] },
          { physicalCameraId := "3", fmqSettingsSize := 4 }] [4, 0, 0, 0] =
      .outOfBounds ∧
    ¬ HandsOver sizedLibrary false
        [{ physicalCameraId := "2", settings := [4, 0, 0, 0] },
          { physicalCameraId := "3", fmqSettingsSize := 4 }] [4, 0, 0, 0] := by
  have hout : gatherSettings sizedLibrary false 0 {}
      [{ physicalCameraId := "2", settings := [4, 0, 0, 0] },
        { physicalCameraId := "3", fmqSettingsSize := 4 }] [4, 0, 0, 0] =
      .outOfBounds := by decide
  exact ⟨hout, fun hhands => hhands.inBounds hout⟩

end CameraDeviceSession

end HardwareInterfaces.Camera

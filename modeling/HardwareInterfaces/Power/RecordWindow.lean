import HardwareInterfaces.Core.SlidingWindow
import HardwareInterfaces.Power.SessionRecords

/-!
# The window that the records describe

The frames reported since the last reset form a timeline, and the records are
compared with its last frames: as many as the ring holds.  The ring, the
totals and the queue of indexes are first shown to follow the list of the
records stored since the reset, and that list to agree with the timeline.

In a ring of one record a frame is stored with a start interval of zero,
because its predecessor has already been removed.  The interval of the
timeline differs, but no observer of so short a window reads it.
-/

namespace HardwareInterfaces.FrameRecords

open MachineArithmetic SlidingWindow

/-! ## Timelines -/

/-- A reported frame. -/
structure Frame where
  /-- The time since the start of the frame before, zero for the first. -/
  startIntervalUs : Int
  totalDurationUs : Int
  isMissedCycle : Bool
  deriving DecidableEq, Repr

/-- The frames added since the last reset. -/
structure Timeline where
  frames : List Frame := []
  lastStartTimeNs : Option Int := none

namespace Timeline

variable (platform : Platform) (jankCheckTimeFactor : ℚ)

def add (targetDurationNs : Int) (timeline : Timeline)
    (duration : WorkDuration) : Timeline where
  frames := timeline.frames ++
    [{ startIntervalUs := timeline.lastStartTimeNs.elim 0
        (startIntervalUs duration.startTimeNs)
       totalDurationUs := duration.totalDurationUs
       isMissedCycle := cycleMissed platform jankCheckTimeFactor
        duration.totalDurationUs targetDurationNs }]
  lastStartTimeNs := some duration.startTimeNs

def call (timeline : Timeline) : SessionRecords.Call → Timeline
  | .addReportedDurations actualDurationsNs targetDurationNs _ _ =>
    actualDurationsNs.foldl (add platform jankCheckTimeFactor
      targetDurationNs) timeline
  | .resetRecords => {}

/-- The timeline after a sequence of calls. -/
def after (calls : List SessionRecords.Call) : Timeline :=
  calls.foldl (call platform jankCheckTimeFactor) {}

end Timeline

/-- The observers have the values that the frames of the window define. -/
structure SessionRecords.Observes (platform : Platform)
    (records : SessionRecords) (window : List Frame) : Prop where
  maxDuration : records.getMaxDuration platform =
    (window.map Frame.totalDurationUs).max?
  avgDuration : records.getAvgDuration =
    if window = [] then none
    else some ((window.map Frame.totalDurationUs).sum.tdiv window.length)
  numOfRecords : records.getNumOfRecords = window.length
  numOfMissedCycles : records.getNumOfMissedCycles =
    window.countP Frame.isMissedCycle
  lowFrameRate : ∀ fps : Int, 0 < fps → fps < 2 ^ 31 →
    (records.isLowFrameRate platform fps = true ↔
      3 ≤ window.length ∧ ∀ frame ∈ window.rtake 3,
        (1000000 / fps : ℚ) ≤ frame.startIntervalUs)

/-! ## The ring and the totals -/

/-- The duration at a position of the stored records. -/
def durationAt (stored : List CycleRecord) (position : Nat) : Int :=
  (stored.getD position {}).totalDurationUs

/-- The ring index of a position. -/
def cellOf (capacity position : Nat) : Int := (position % capacity : Nat)

/-- The records describe the stored ones from the position `first` on. -/
structure Tracks (records : SessionRecords) (stored : List CycleRecord)
    (first : Nat) : Prop where
  capacity : records.kMaxNumOfRecords = records.mRecords.length
  positive : 0 < records.mRecords.length
  small : records.mRecords.length < 2 ^ 31
  first_le : first ≤ stored.length
  length_le : stored.length ≤ first + records.mRecords.length
  holds : Holds records.mRecords stored first
  latest : records.mLatestRecordIndex =
    if stored = [] then -1
    else cellOf records.mRecords.length (stored.length - 1)
  frames : records.mNumOfFrames = (stored.length - first : Nat)
  queue : ∃ positions,
    MaxQueue (durationAt stored) first stored.length positions ∧
      records.mRecordsIndQueue =
        positions.map (cellOf records.mRecords.length)
  sum : records.mSumOfDurationsUs =
    ((stored.drop first).map CycleRecord.totalDurationUs).sum
  missed : records.mNumOfMissedCycles =
    (stored.drop first).countP CycleRecord.isMissedCycle
  bounded : ∀ record ∈ stored,
    -2 ^ 31 ≤ record.totalDurationUs ∧ record.totalDurationUs < 2 ^ 31

theorem sum_mem_Icc {durations : List Int}
    (hbounded : ∀ duration ∈ durations,
      -2 ^ 31 ≤ duration ∧ duration < 2 ^ 31) :
    -2 ^ 31 * (durations.length : Int) ≤ durations.sum ∧
      durations.sum ≤ (2 ^ 31 - 1) * (durations.length : Int) := by
  induction durations with
  | nil => simp
  | cons duration rest ih =>
    obtain ⟨hfirst, hrest⟩ := List.forall_mem_cons.mp hbounded
    have hsum := ih hrest
    rw [List.sum_cons, List.length_cons]
    push_cast
    omega

variable {first capacity : Nat}

/-- The positions of a window have different indexes. -/
theorem cellOf_inj {next left right : Nat} (hleft : first ≤ right)
    (hleft' : right < next) (hright : first ≤ left) (hright' : left < next)
    (hlength : next ≤ first + capacity) :
    cellOf capacity left = cellOf capacity right ↔ left = right := by
  constructor
  · intro hsame
    have hmod : left % capacity = right % capacity := Int.ofNat_inj.mp hsame
    rcases Nat.lt_trichotomy left right with hlt | heq | hlt
    · exact absurd hmod.symm (mod_ne_mod hlt (by omega))
    · exact heq
    · exact absurd hmod (mod_ne_mod hlt (by omega))
  · intro heq
    rw [heq]

variable {stored : List CycleRecord}

theorem drop_eq_getD_cons {position : Nat}
    (hposition : position < stored.length) :
    stored.drop position =
      stored.getD position {} :: stored.drop (position + 1) := by
  rw [List.drop_eq_getElem_cons hposition, List.getD_eq_getElem?_getD,
    List.getElem?_eq_getElem hposition]
  rfl

variable {records : SessionRecords}

theorem recordAt_cellOf {platform : Platform} {position : Nat}
    (hholds : Holds records.mRecords stored first) (hfirst : first ≤ position)
    (hposition : position < stored.length) :
    records.recordAt platform (cellOf records.mRecords.length position) =
      stored.getD position {} := by
  have hcell := hholds position hfirst hposition
  rw [List.getElem?_eq_getElem hposition] at hcell
  rw [SessionRecords.recordAt, cellOf, if_pos (Int.natCast_nonneg _),
    Int.toNat_natCast, List.getD_eq_getElem?_getD, hcell,
    List.getD_eq_getElem?_getD, List.getElem?_eq_getElem hposition]
  rfl

/-- Without frames nothing in the ring matters. -/
theorem tracks_nil
    (hcapacity : records.kMaxNumOfRecords = records.mRecords.length)
    (hpositive : 0 < records.mRecords.length)
    (hsmall : records.mRecords.length < 2 ^ 31)
    (hlatest : records.mLatestRecordIndex = -1)
    (hframes : records.mNumOfFrames = 0)
    (hqueue : records.mRecordsIndQueue = [])
    (hsum : records.mSumOfDurationsUs = 0)
    (hmissed : records.mNumOfMissedCycles = 0) : Tracks records [] 0 where
  capacity := hcapacity
  positive := hpositive
  small := hsmall
  first_le := Nat.le_refl 0
  length_le := Nat.zero_le _
  holds _ _ hposition := absurd hposition (Nat.not_lt_zero _)
  latest := hlatest
  frames := hframes
  queue := ⟨[], maxQueue_nil _ 0, hqueue⟩
  sum := hsum
  missed := hmissed
  bounded _ hrecord := absurd hrecord List.not_mem_nil

namespace Tracks

variable {platform : Platform} {records : SessionRecords}
variable {stored : List CycleRecord} {first : Nat}

/-- The index after the latest one is that of the next position. -/
theorem next_index (htracks : Tracks records stored first) :
    (records.mLatestRecordIndex + 1).tmod records.kMaxNumOfRecords =
      cellOf records.mRecords.length stored.length := by
  rw [htracks.latest, htracks.capacity]
  split_ifs with hempty
  · subst hempty
    simp [cellOf]
  · have hlength : stored.length - 1 + 1 = stored.length :=
      Nat.sub_add_cancel (List.length_pos_iff.mpr hempty)
    have hnext := Nat.mod_add_mod (stored.length - 1) records.mRecords.length 1
    rw [hlength] at hnext
    exact congrArg Nat.cast hnext

/-- The durations of the window add up to a number of 63 bits. -/
theorem sum_bounds (htracks : Tracks records stored first) {start : Nat}
    (hstart : first ≤ start) :
    -2 ^ 62 ≤ ((stored.drop start).map CycleRecord.totalDurationUs).sum ∧
      ((stored.drop start).map CycleRecord.totalDurationUs).sum ≤ 2 ^ 62 := by
  have hbounded : ∀ duration ∈ (stored.drop start).map
      CycleRecord.totalDurationUs, -2 ^ 31 ≤ duration ∧ duration < 2 ^ 31 := by
    intro duration hmem
    obtain ⟨record, hrecord, rfl⟩ := List.mem_map.mp hmem
    exact htracks.bounded record (List.mem_of_mem_drop hrecord)
  have hsum := sum_mem_Icc hbounded
  have hsmall := htracks.small
  have hlength := htracks.length_le
  rw [List.length_map, List.length_drop] at hsum
  omega

variable (platform) in
/-- Removing the oldest record of a full window moves the window on. -/
theorem removeOldest (htracks : Tracks records stored first)
    (hfull : stored.length = first + records.mRecords.length) :
    Tracks (records.removeOldest platform) stored (first + 1) := by
  have hpositive := htracks.positive
  have hfirst : first < stored.length := by omega
  have hframes : records.kMaxNumOfRecords ≤ records.mNumOfFrames := by
    rw [htracks.capacity, htracks.frames]
    omega
  have hindex : (records.mLatestRecordIndex + 1).tmod
      records.kMaxNumOfRecords = cellOf records.mRecords.length first := by
    rw [htracks.next_index, cellOf, hfull, Nat.add_mod_right, cellOf]
  have hremoved : records.recordAt platform
      (cellOf records.mRecords.length first) = stored.getD first {} :=
    recordAt_cellOf htracks.holds (Nat.le_refl first) hfirst
  have hdrop := drop_eq_getD_cons hfirst
  obtain ⟨positions, hqueue, hcells⟩ := htracks.queue
  rw [SessionRecords.removeOldest, if_pos hframes]
  dsimp only
  rw [hindex, hremoved]
  refine ⟨htracks.capacity, hpositive, htracks.small, hfirst, by
    dsimp only; omega, htracks.holds.mono (Nat.le_succ first),
    htracks.latest, ?_, ?_, ?_, ?_, htracks.bounded⟩
  · dsimp only
    rw [htracks.frames]
    omega
  · refine ⟨_, hqueue.popFront, ?_⟩
    dsimp only
    rw [hcells]
    cases positions with
    | nil => simp
    | cons front rest =>
      have hfront := ((hqueue.mem_iff front).mp List.mem_cons_self).1
      simp only [List.map_cons, List.head?_cons, Option.some.injEq,
        List.tail_cons,
        cellOf_inj (Nat.le_refl first) hfirst hfront.1 hfront.2
          htracks.length_le]
      split_ifs <;> rfl
  · have hbounds := htracks.sum_bounds (Nat.le_add_right first 1)
    dsimp only
    rw [htracks.sum, hdrop, List.map_cons, List.sum_cons, add_sub_cancel_left]
    exact int64_eq_self (by omega) (by omega)
  · dsimp only
    rw [htracks.missed, hdrop, List.countP_cons]
    split_ifs <;> simp

theorem durationAt_append_of_lt {record : CycleRecord} {position : Nat}
    (hposition : position < stored.length) :
    durationAt (stored ++ [record]) position = durationAt stored position := by
  rw [durationAt, durationAt, List.getD_eq_getElem?_getD,
    List.getElem?_append_left hposition, List.getD_eq_getElem?_getD]

theorem durationAt_append_length (stored : List CycleRecord)
    (record : CycleRecord) :
    durationAt (stored ++ [record]) stored.length =
      record.totalDurationUs := by
  rw [durationAt, List.getD_eq_getElem?_getD, List.getElem?_concat_length]
  rfl

/-- The queue after the index of a new record is pushed.  Its indexes are read
in the ring that has the record. -/
theorem queue_push (htracks : Tracks records stored first)
    {record : CycleRecord} {state : SessionRecords}
    (hholds : Holds state.mRecords (stored ++ [record]) first)
    (hsize : state.mRecords.length = records.mRecords.length)
    (hsame : state.mRecordsIndQueue = records.mRecordsIndQueue)
    (hlatest : state.mLatestRecordIndex =
      cellOf records.mRecords.length stored.length) :
    ∃ positions,
      MaxQueue (durationAt (stored ++ [record])) first (stored.length + 1)
          positions ∧
        (state.pushIndex platform record.totalDurationUs).mRecordsIndQueue =
          positions.map (cellOf state.mRecords.length) := by
  obtain ⟨positions, hqueue, hcells⟩ := htracks.queue
  have hqueue' : MaxQueue (durationAt (stored ++ [record])) first
      stored.length positions := by
    apply hqueue.congr
    intro position hposition
    exact durationAt_append_of_lt hposition
  refine ⟨_, hqueue'.pushBack htracks.first_le, ?_⟩
  rw [SessionRecords.pushIndex, hsame, hlatest, List.map_append,
    List.map_singleton, hsize, durationAt_append_length, hcells]
  dsimp only
  congr 1
  apply rdropWhile_map
  intro position hmem
  have hbounds := ((hqueue.mem_iff position).mp hmem).1
  have hposition : position < (stored ++ [record]).length := by
    rw [List.length_append, List.length_singleton]
    exact Nat.lt_succ_of_lt hbounds.2
  have hread := @recordAt_cellOf _ _ _ platform _ hholds hbounds.1 hposition
  rw [hsize] at hread
  rw [hread]
  rfl

variable (platform) in
/-- Storing a record at the next index extends the window. -/
theorem push (htracks : Tracks records stored first)
    (hroom : stored.length < first + records.mRecords.length)
    {record : CycleRecord}
    (hbounded : -2 ^ 31 ≤ record.totalDurationUs ∧
      record.totalDurationUs < 2 ^ 31)
    {advanced : SessionRecords}
    (hadvanced : ∃ startTimeNs sum jitters added, advanced =
      { records.advance startTimeNs with
        mLatestStartIntervalSumUs := sum
        mNumOfFrameFPSJitters := jitters
        mAddedFramesForFPSCheck := added }) :
    Tracks ((advanced.storeRecord record).pushIndex platform
      record.totalDurationUs) (stored ++ [record]) first := by
  obtain ⟨startTimeNs, sum, jitters, added, rfl⟩ := hadvanced
  have hpositive := htracks.positive
  have hnext := htracks.next_index
  have hlength : (stored ++ [record]).length = stored.length + 1 := by simp
  have hcell : (cellOf records.mRecords.length stored.length).toNat =
      stored.length % records.mRecords.length := Int.toNat_natCast _
  have hholds := htracks.holds.push hroom record
  have hdrop : (stored ++ [record]).drop first =
      stored.drop first ++ [record] :=
    List.drop_append_of_le_length htracks.first_le
  rw [SessionRecords.storeRecord, SessionRecords.advance]
  dsimp only
  rw [hnext, hcell]
  refine ⟨?_, ?_, ?_, ?_, ?_, ?_, ?_, ?_, ?_, ?_, ?_, ?_⟩
  · dsimp only [SessionRecords.pushIndex]
    rw [List.length_set, htracks.capacity]
  · simpa [SessionRecords.pushIndex] using hpositive
  · simpa [SessionRecords.pushIndex] using htracks.small
  · rw [hlength]
    exact htracks.first_le.trans (Nat.le_succ _)
  · dsimp only [SessionRecords.pushIndex]
    rw [hlength, List.length_set]
    exact hroom
  · exact hholds
  · dsimp only [SessionRecords.pushIndex]
    rw [if_neg (by simp), hlength, List.length_set, Nat.add_sub_cancel]
  · dsimp only [SessionRecords.pushIndex]
    rw [htracks.frames, hlength]
    have := htracks.first_le
    omega
  · rw [hlength]
    exact htracks.queue_push hholds (List.length_set ..) rfl rfl
  · have hbounds := htracks.sum_bounds (Nat.le_refl first)
    dsimp only [SessionRecords.pushIndex]
    rw [htracks.sum, hdrop, List.map_append, List.sum_append,
      List.map_singleton, List.sum_singleton]
    exact int64_eq_self (by omega) (by omega)
  · dsimp only [SessionRecords.pushIndex]
    rw [htracks.missed, hdrop, List.countP_append, List.countP_singleton]
    split_ifs <;> simp
  · intro other hother
    rcases List.mem_append.mp hother with hold | hnew
    · exact htracks.bounded other hold
    · rw [List.mem_singleton.mp hnew]
      exact hbounded

/-- The average of the window is again a number of 32 bits. -/
theorem average_fits (htracks : Tracks records stored first)
    (hsome : first < stored.length) :
    int32 (records.mSumOfDurationsUs.tdiv records.mNumOfFrames) =
      records.mSumOfDurationsUs.tdiv records.mNumOfFrames := by
  have hbounded : ∀ duration ∈ (stored.drop first).map
      CycleRecord.totalDurationUs, -2 ^ 31 ≤ duration ∧ duration < 2 ^ 31 := by
    intro duration hmem
    obtain ⟨record, hrecord, rfl⟩ := List.mem_map.mp hmem
    exact htracks.bounded record (List.mem_of_mem_drop hrecord)
  have hsum := sum_mem_Icc hbounded
  rw [List.length_map, List.length_drop, ← htracks.sum,
    ← htracks.frames] at hsum
  have hframes : 0 < records.mNumOfFrames := by
    rw [htracks.frames]
    omega
  obtain ⟨hlower, hupper⟩ :=
    tdiv_mem_Icc hframes (by norm_num) (by norm_num) hsum.1 hsum.2
  exact int32_eq_self hlower (by omega)

variable (platform) in
/-- Before a frame is added there is always room for it. -/
theorem makeRoom {capacity : Nat}
    (htracks : Tracks records stored (stored.length - capacity))
    (hsize : records.mRecords.length = capacity) :
    Tracks (records.removeOldest platform) stored
      (stored.length + 1 - capacity) := by
  by_cases hfull : capacity ≤ stored.length
  · have hmoved := htracks.removeOldest platform (by omega)
    rwa [← Nat.sub_add_comm hfull] at hmoved
  · have hfew : ¬ records.kMaxNumOfRecords ≤ records.mNumOfFrames := by
      rw [htracks.capacity, htracks.frames]
      omega
    rw [SessionRecords.removeOldest, if_neg hfew]
    have hfirst : stored.length + 1 - capacity = stored.length - capacity := by
      omega
    rwa [hfirst]

end Tracks

theorem removeOldest_frame (platform : Platform) (records : SessionRecords) :
    (records.removeOldest platform).mRecords = records.mRecords ∧
      (records.removeOldest platform).mLastStartTimeNs =
        records.mLastStartTimeNs ∧
      (records.removeOldest platform).kJankCheckTimeFactor =
        records.kJankCheckTimeFactor := by
  rw [SessionRecords.removeOldest]
  split_ifs
  · exact ⟨rfl, rfl, rfl⟩
  · exact ⟨rfl, rfl, rfl⟩

/-! ## The timeline -/

theorem trackFPSJitter_eq (platform : Platform) (records : SessionRecords)
    (startIntervalUs : Int) (computeGameMetrics : Bool) :
    ∃ sum jitters added, (records.trackFPSJitter platform startIntervalUs
        computeGameMetrics).2 =
      { records with
        mLatestStartIntervalSumUs := sum
        mNumOfFrameFPSJitters := jitters
        mAddedFramesForFPSCheck := added } := by
  rw [SessionRecords.trackFPSJitter]
  split_ifs <;> exact ⟨_, _, _, rfl⟩

namespace SessionRecords

variable (platform : Platform) (records : SessionRecords)

/-- The start interval that the next frame is recorded with. -/
def nextInterval (duration : WorkDuration) : Int :=
  let kept := records.removeOldest platform
  if 0 < kept.mNumOfFrames then
    startIntervalUs duration.startTimeNs kept.mLastStartTimeNs
  else 0

/-- The result of the check for frame jitter on the next frame. -/
def tracked (computeGameMetrics : Bool) (duration : WorkDuration) :
    Bool × SessionRecords :=
  ((records.removeOldest platform).advance
    duration.startTimeNs).trackFPSJitter platform
      (records.nextInterval platform duration) computeGameMetrics

/-- The record that the next frame is stored as. -/
def newRecord (targetDurationNs : Int) (computeGameMetrics : Bool)
    (duration : WorkDuration) : CycleRecord where
  startIntervalUs := records.nextInterval platform duration
  totalDurationUs := duration.totalDurationUs
  isMissedCycle := cycleMissed platform
    (records.tracked platform computeGameMetrics
      duration).2.kJankCheckTimeFactor
    duration.totalDurationUs targetDurationNs
  isFPSJitter := (records.tracked platform computeGameMetrics duration).1

end SessionRecords

theorem addReportedDuration_fst (platform : Platform)
    (records : SessionRecords) (targetDurationNs : Int)
    (computeGameMetrics : Bool) (metrics : Metrics.FrameTimingMetrics)
    (duration : WorkDuration) :
    (SessionRecords.addReportedDuration platform targetDurationNs
        computeGameMetrics (records, metrics) duration).1 =
      ((records.tracked platform computeGameMetrics
        duration).2.storeRecord (records.newRecord platform targetDurationNs
          computeGameMetrics duration)).pushIndex platform
            duration.totalDurationUs :=
  rfl

/-- The stored records agree with the timeline. -/
structure Agrees (capacity : Nat) (stored : List CycleRecord)
    (frames : List Frame) : Prop where
  durations : stored.map CycleRecord.totalDurationUs =
    frames.map Frame.totalDurationUs
  missed : stored.map CycleRecord.isMissedCycle =
    frames.map Frame.isMissedCycle
  intervals : 1 < capacity → stored.map CycleRecord.startIntervalUs =
    frames.map Frame.startIntervalUs

/-- The records describe the end of the timeline. -/
structure Follows (capacity : Nat) (jankCheckTimeFactor : ℚ)
    (records : SessionRecords) (stored : List CycleRecord)
    (timeline : Timeline) : Prop where
  factor : records.kJankCheckTimeFactor = jankCheckTimeFactor
  size : records.mRecords.length = capacity
  tracks : Tracks records stored (stored.length - capacity)
  agrees : Agrees capacity stored timeline.frames
  lastStart : timeline.lastStartTimeNs =
    if stored = [] then none else some records.mLastStartTimeNs
  average : stored ≠ [] → records.mAvgDurationUs =
    records.mSumOfDurationsUs.tdiv records.mNumOfFrames

theorem Agrees.concat {frames : List Frame} {record : CycleRecord}
    {frame : Frame} (hagrees : Agrees capacity stored frames)
    (hduration : record.totalDurationUs = frame.totalDurationUs)
    (hmissed : record.isMissedCycle = frame.isMissedCycle)
    (hinterval : 1 < capacity →
      record.startIntervalUs = frame.startIntervalUs) :
    Agrees capacity (stored ++ [record]) (frames ++ [frame]) := by
  constructor
  · simp only [List.map_append, List.map_singleton, hagrees.durations,
      hduration]
  · simp only [List.map_append, List.map_singleton, hagrees.missed, hmissed]
  · intro hcapacity
    simp only [List.map_append, List.map_singleton,
      hagrees.intervals hcapacity, hinterval hcapacity]

namespace Follows

variable {platform : Platform} {capacity : Nat} {jankCheckTimeFactor : ℚ}
variable {records : SessionRecords} {stored : List CycleRecord}
variable {timeline : Timeline}

/-- Storing a frame as the timeline describes it. -/
theorem push {kept advanced : SessionRecords} {targetDurationNs : Int}
    {duration : WorkDuration} {record : CycleRecord}
    (hfollows : Follows capacity jankCheckTimeFactor records stored timeline)
    (hkept : Tracks kept stored (stored.length + 1 - capacity))
    (hsize : kept.mRecords.length = capacity)
    (hfactor : kept.kJankCheckTimeFactor = jankCheckTimeFactor)
    (hadvanced : ∃ sum jitters added, advanced =
      { kept.advance duration.startTimeNs with
        mLatestStartIntervalSumUs := sum
        mNumOfFrameFPSJitters := jitters
        mAddedFramesForFPSCheck := added })
    (hduration : record.totalDurationUs = duration.totalDurationUs)
    (hmissed : record.isMissedCycle = cycleMissed platform
      jankCheckTimeFactor duration.totalDurationUs targetDurationNs)
    (hinterval : 1 < capacity → record.startIntervalUs =
      timeline.lastStartTimeNs.elim 0
        (startIntervalUs duration.startTimeNs)) :
    Follows capacity jankCheckTimeFactor
      ((advanced.storeRecord record).pushIndex platform
        record.totalDurationUs)
      (stored ++ [record])
      (timeline.add platform jankCheckTimeFactor targetDurationNs
        duration) := by
  obtain ⟨sum, jitters, added, rfl⟩ := hadvanced
  have hcapacity : 0 < capacity := hsize ▸ hkept.positive
  have hbounded : -2 ^ 31 ≤ record.totalDurationUs ∧
      record.totalDurationUs < 2 ^ 31 := by
    rw [hduration]
    exact ⟨le_int32 _, int32_lt _⟩
  have htracks := hkept.push platform (by omega) hbounded
    ⟨duration.startTimeNs, sum, jitters, added, rfl⟩
  refine ⟨hfactor, ?_, ?_, ?_, ?_, ?_⟩
  · exact List.length_set.trans hsize
  · rw [List.length_append, List.length_singleton]
    exact htracks
  · exact hfollows.agrees.concat hduration hmissed hinterval
  · rw [if_neg (by simp)]
    rfl
  · intro _
    exact htracks.average_fits (by
      rw [List.length_append, List.length_singleton]
      omega)

section

variable
  (hfollows : Follows capacity jankCheckTimeFactor records stored timeline)
include hfollows

/-- The interval of a new frame is the one of the timeline. -/
theorem nextInterval_eq {duration : WorkDuration} (hlong : 1 < capacity) :
    records.nextInterval platform duration =
      timeline.lastStartTimeNs.elim 0
        (startIntervalUs duration.startTimeNs) := by
  obtain ⟨-, hstart, -⟩ := removeOldest_frame platform records
  have hkept := hfollows.tracks.makeRoom platform hfollows.size
  rw [SessionRecords.nextInterval, hfollows.lastStart, hkept.frames, hstart]
  by_cases hempty : stored = []
  · rw [if_pos hempty, hempty]
    simp
  · have hlength := List.length_pos_iff.mpr hempty
    rw [if_neg hempty, if_pos (by omega)]
    rfl

theorem addReportedDuration (targetDurationNs : Int)
    (computeGameMetrics : Bool) (metrics : Metrics.FrameTimingMetrics)
    (duration : WorkDuration) :
    Follows capacity jankCheckTimeFactor
      (SessionRecords.addReportedDuration platform targetDurationNs
        computeGameMetrics (records, metrics) duration).1
      (stored ++ [records.newRecord platform targetDurationNs
        computeGameMetrics duration])
      (timeline.add platform jankCheckTimeFactor targetDurationNs
        duration) := by
  obtain ⟨hcells, hstart, hfactor⟩ := removeOldest_frame platform records
  have hkept := hfollows.tracks.makeRoom platform hfollows.size
  obtain ⟨sum, jitters, added, htracked⟩ := trackFPSJitter_eq platform
    ((records.removeOldest platform).advance duration.startTimeNs)
    (records.nextInterval platform duration) computeGameMetrics
  rw [addReportedDuration_fst]
  refine hfollows.push hkept ((congrArg List.length hcells).trans
    hfollows.size) (hfactor.trans hfollows.factor)
    ⟨sum, jitters, added, htracked⟩ rfl ?_ hfollows.nextInterval_eq
  rw [SessionRecords.newRecord, SessionRecords.tracked, htracked,
    ← hfollows.factor, ← hfactor]
  rfl

theorem addReportedDurations (durations : List WorkDuration)
    (targetDurationNs : Int) (computeGameMetrics : Bool)
    (metrics : Metrics.FrameTimingMetrics) :
    ∃ stored, Follows capacity jankCheckTimeFactor
      (records.addReportedDurations platform durations targetDurationNs
        metrics computeGameMetrics).1
      stored
      (durations.foldl (Timeline.add platform jankCheckTimeFactor
        targetDurationNs) timeline) := by
  rw [SessionRecords.addReportedDurations]
  induction durations generalizing records stored timeline metrics with
  | nil => exact ⟨stored, hfollows⟩
  | cons duration rest ih =>
    exact ih (hfollows.addReportedDuration targetDurationNs
      computeGameMetrics metrics duration) _

theorem resetRecords :
    Follows capacity jankCheckTimeFactor records.resetRecords [] {} := by
  have htracks := hfollows.tracks
  refine ⟨hfollows.factor, hfollows.size, ?_, ⟨rfl, rfl, fun _ => rfl⟩, rfl,
    fun hsome => absurd rfl hsome⟩
  rw [List.length_nil, Nat.zero_sub]
  exact tracks_nil htracks.capacity htracks.positive htracks.small rfl rfl rfl
    rfl rfl

theorem call (call : SessionRecords.Call) :
    ∃ stored, Follows capacity jankCheckTimeFactor
      (records.call platform call) stored
      (timeline.call platform jankCheckTimeFactor call) := by
  cases call with
  | addReportedDurations durations targetDurationNs metrics
      computeGameMetrics =>
      exact hfollows.addReportedDurations durations targetDurationNs
        computeGameMetrics metrics
  | resetRecords => exact ⟨[], hfollows.resetRecords⟩

end

end Follows

/-! ## Observers -/

theorem follows_new {maxNumOfRecords : Int} (hpositive : 1 ≤ maxNumOfRecords)
    (hsmall : maxNumOfRecords < 2 ^ 31) (jankCheckTimeFactor : ℚ) :
    Follows maxNumOfRecords.toNat jankCheckTimeFactor
      (SessionRecords.new maxNumOfRecords jankCheckTimeFactor) [] {} := by
  have hlength : (SessionRecords.new maxNumOfRecords
      jankCheckTimeFactor).mRecords.length = maxNumOfRecords.toNat :=
    List.length_replicate
  refine ⟨rfl, hlength, ?_, ⟨rfl, rfl, fun _ => rfl⟩, rfl,
    fun hsome => absurd rfl hsome⟩
  rw [List.length_nil, Nat.zero_sub]
  apply tracks_nil _ _ _ rfl rfl rfl rfl rfl
  · rw [hlength, Int.toNat_of_nonneg (by omega)]
    rfl
  · omega
  · omega

theorem follows_after (platform : Platform) {maxNumOfRecords : Int}
    (hpositive : 1 ≤ maxNumOfRecords) (hsmall : maxNumOfRecords < 2 ^ 31)
    (jankCheckTimeFactor : ℚ) (calls : List SessionRecords.Call) :
    ∃ stored, Follows maxNumOfRecords.toNat jankCheckTimeFactor
      (calls.foldl (SessionRecords.call platform)
        (SessionRecords.new maxNumOfRecords jankCheckTimeFactor)) stored
      (Timeline.after platform jankCheckTimeFactor calls) := by
  have hrun : ∀ (records : SessionRecords) (timeline : Timeline),
      (∃ stored, Follows maxNumOfRecords.toNat jankCheckTimeFactor records
        stored timeline) →
      ∃ stored, Follows maxNumOfRecords.toNat jankCheckTimeFactor
        (calls.foldl (SessionRecords.call platform) records) stored
        (calls.foldl (Timeline.call platform jankCheckTimeFactor)
          timeline) := by
    induction calls with
    | nil => exact fun _ _ hfollows => hfollows
    | cons call rest ih =>
      rintro records timeline ⟨stored, hfollows⟩
      exact ih _ _ (hfollows.call call)
  exact hrun _ _ ⟨[], follows_new hpositive hsmall jankCheckTimeFactor⟩

theorem Agrees.length_eq {frames : List Frame}
    (hagrees : Agrees capacity stored frames) :
    frames.length = stored.length := by
  have hlength := congrArg List.length hagrees.durations
  rwa [List.length_map, List.length_map, eq_comm] at hlength

/-- The values of the window in the order of their positions. -/
theorem mem_durations_iff {duration : Int} :
    duration ∈ (stored.drop first).map CycleRecord.totalDurationUs ↔
      ∃ position, first ≤ position ∧ position < stored.length ∧
        durationAt stored position = duration := by
  rw [List.mem_map]
  constructor
  · rintro ⟨record, hrecord, rfl⟩
    obtain ⟨offset, hoffset⟩ := List.mem_iff_getElem?.mp hrecord
    rw [List.getElem?_drop] at hoffset
    refine ⟨first + offset, Nat.le_add_right _ _,
      (List.getElem?_eq_some_iff.mp hoffset).1, ?_⟩
    rw [durationAt, List.getD_eq_getElem?_getD, hoffset]
    rfl
  · rintro ⟨position, hfirst, hposition, rfl⟩
    refine ⟨stored[position], List.mem_iff_getElem?.mpr
      ⟨position - first, ?_⟩, ?_⟩
    · rw [List.getElem?_drop, Nat.add_sub_cancel' hfirst,
        List.getElem?_eq_getElem hposition]
    · rw [durationAt, List.getD_eq_getElem?_getD,
        List.getElem?_eq_getElem hposition]
      rfl

namespace Follows

variable {platform : Platform} {capacity : Nat} {jankCheckTimeFactor : ℚ}
variable {records : SessionRecords} {stored : List CycleRecord}
variable {timeline : Timeline}

theorem map_rtake_frames {Value : Type*} {ofRecord : CycleRecord → Value}
    {ofFrame : Frame → Value} {frames : List Frame}
    (hsame : stored.map ofRecord = frames.map ofFrame) (number : Nat) :
    (frames.rtake number).map ofFrame =
      (stored.drop (stored.length - number)).map ofRecord := by
  have hlength : frames.length = stored.length := by
    have hmapped := congrArg List.length hsame
    rwa [List.length_map, List.length_map, eq_comm] at hmapped
  rw [List.rtake, hlength, List.map_drop, List.map_drop, hsame]

section

variable
  (hfollows : Follows capacity jankCheckTimeFactor records stored timeline)
include hfollows

theorem getMaxDuration_eq :
    records.getMaxDuration platform =
      ((timeline.frames.rtake capacity).map Frame.totalDurationUs).max? := by
  have htracks := hfollows.tracks
  rw [map_rtake_frames hfollows.agrees.durations, SessionRecords.getMaxDuration]
  obtain ⟨positions, hqueue, hcells⟩ := htracks.queue
  rcases htracks.first_le.eq_or_lt with hempty | hsome
  · have hnone : positions = [] := by
      apply List.eq_nil_iff_forall_not_mem.mpr
      intro position hmem
      have hbounds := ((hqueue.mem_iff position).mp hmem).1
      omega
    rw [hcells, hnone, hempty, List.drop_length]
    rfl
  · obtain ⟨front, hfront, hbounds, hmax⟩ := hqueue.front_max hsome
    rw [hcells, List.head?_map, hfront, Option.map_some, Option.map_some,
      recordAt_cellOf htracks.holds hbounds.1 hbounds.2, eq_comm,
      List.max?_eq_some_iff]
    constructor
    · exact mem_durations_iff.mpr ⟨front, hbounds.1, hbounds.2, rfl⟩
    · intro duration hmem
      obtain ⟨position, hfirst, hposition, rfl⟩ := mem_durations_iff.mp hmem
      exact hmax position hfirst hposition

theorem length_window :
    (timeline.frames.rtake capacity).length =
      stored.length - (stored.length - capacity) := by
  rw [List.rtake, List.length_drop, hfollows.agrees.length_eq]

theorem getNumOfRecords_eq :
    records.getNumOfRecords = (timeline.frames.rtake capacity).length := by
  rw [hfollows.length_window]
  exact hfollows.tracks.frames

theorem getAvgDuration_eq :
    records.getAvgDuration =
      if timeline.frames.rtake capacity = [] then none
      else some (((timeline.frames.rtake capacity).map
        Frame.totalDurationUs).sum.tdiv
          (timeline.frames.rtake capacity).length) := by
  have hnumber : records.mNumOfFrames =
      (timeline.frames.rtake capacity).length := hfollows.getNumOfRecords_eq
  rw [SessionRecords.getAvgDuration]
  split_ifs with hnone hempty hempty
  · rfl
  · rw [hnumber] at hnone
    exact absurd (List.length_eq_zero_iff.mp (by omega)) hempty
  · rw [hnumber, hempty] at hnone
    exact absurd (Int.le_refl 0) hnone
  · have hstored : stored ≠ [] := by
      intro hnil
      have hlength := hfollows.length_window
      rw [hnil, List.length_nil, Nat.zero_sub] at hlength
      exact hempty (List.length_eq_zero_iff.mp hlength)
    rw [hfollows.average hstored, hfollows.tracks.sum, ← hnumber,
      map_rtake_frames hfollows.agrees.durations]

theorem getNumOfMissedCycles_eq :
    records.getNumOfMissedCycles =
      (timeline.frames.rtake capacity).countP Frame.isMissedCycle := by
  have hmissed := congrArg (List.countP id)
    (map_rtake_frames hfollows.agrees.missed capacity)
  rw [List.countP_map, List.countP_map] at hmissed
  exact hfollows.tracks.missed.trans (congrArg Nat.cast hmissed.symm)

end

end Follows

theorem isSlow_iff (platform : Platform) {fps : Int} (hpositive : 0 < fps)
    (hsmall : fps < 2 ^ 31) (record : CycleRecord) :
    SessionRecords.isSlow platform fps record = true ↔
      (1000000 / fps : ℚ) ≤ record.startIntervalUs := by
  have hround : platform.rounding.round ((1000000 : Int) / fps) ≤
      record.startIntervalUs ↔
        (((1000000 : Int) / fps : ℚ) ≤ record.startIntervalUs) :=
    platform.rounding.round_div_le_iff (by norm_num) (by norm_num) hpositive
      (hsmall.le.trans (by norm_num)) record.startIntervalUs
  push_cast at hround
  rw [SessionRecords.isSlow, decide_eq_true hpositive.ne', Bool.true_and,
    decide_eq_true_iff, hround]

/-- Going back in the ring is going back one position. -/
theorem previousIndex_cellOf (hcapacity : records.kMaxNumOfRecords = capacity)
    (hpositive : 0 < capacity) (position : Nat) :
    records.previousIndex (cellOf capacity (position + 1)) =
      cellOf capacity position := by
  have hmod := Nat.mod_lt position hpositive
  have hnext := Nat.mod_add_mod position capacity 1
  rw [SessionRecords.previousIndex, hcapacity, cellOf, cellOf, ← hnext]
  rcases Nat.lt_or_ge (position % capacity + 1) capacity with hlt | hge
  · rw [Nat.mod_eq_of_lt hlt]
    omega
  · rw [show position % capacity + 1 = capacity by omega, Nat.mod_self]
    omega

theorem rtake_rtake {Item : Type*} {items : List Item} {few many : Nat}
    (hlength : few ≤ (items.rtake many).length) :
    (items.rtake many).rtake few = items.rtake few := by
  rw [List.rtake, List.length_drop] at hlength
  rw [List.rtake, List.rtake, List.length_drop, List.drop_drop, List.rtake]
  congr 1
  omega

/-- The last three records. -/
theorem drop_length_sub_three (hlength : 3 ≤ stored.length) :
    stored.drop (stored.length - 3) =
      [stored.getD (stored.length - 3) {}, stored.getD (stored.length - 2) {},
        stored.getD (stored.length - 1) {}] := by
  rw [drop_eq_getD_cons (by omega),
    show stored.length - 3 + 1 = stored.length - 2 by omega,
    drop_eq_getD_cons (by omega),
    show stored.length - 2 + 1 = stored.length - 1 by omega,
    drop_eq_getD_cons (by omega), List.drop_of_length_le (by omega)]

theorem Follows.isLowFrameRate_iff {platform : Platform}
    {jankCheckTimeFactor : ℚ} {timeline : Timeline}
    (hfollows : Follows capacity jankCheckTimeFactor records stored timeline)
    {fps : Int} (hpositive : 0 < fps) (hsmall : fps < 2 ^ 31) :
    records.isLowFrameRate platform fps = true ↔
      3 ≤ (timeline.frames.rtake capacity).length ∧
        ∀ frame ∈ (timeline.frames.rtake capacity).rtake 3,
          (1000000 / fps : ℚ) ≤ frame.startIntervalUs := by
  have htracks := hfollows.tracks
  have hnumber : records.mNumOfFrames =
      (timeline.frames.rtake capacity).length := hfollows.getNumOfRecords_eq
  rw [SessionRecords.isLowFrameRate, hnumber]
  by_cases hthree : 3 ≤ (timeline.frames.rtake capacity).length
  · have hwindow := hfollows.length_window
    have hfirst := htracks.first_le
    have hsize := hfollows.size
    have hcapacity : records.kMaxNumOfRecords = capacity := by
      rw [htracks.capacity, hsize]
    have hlatest : records.mLatestRecordIndex =
        cellOf capacity (stored.length - 3 + 1 + 1) := by
      rw [htracks.latest, if_neg (List.length_pos_iff.mp (by omega)), hsize]
      congr 1
      omega
    have hread : ∀ position, stored.length - 3 ≤ position →
        position < stored.length →
        records.recordAt platform (cellOf capacity position) =
          stored.getD position {} := by
      intro position hlower hupper
      rw [← hsize]
      exact recordAt_cellOf htracks.holds (by omega) hupper
    have hintervals := map_rtake_frames (hfollows.agrees.intervals (by omega)) 3
    rw [drop_length_sub_three (by omega)] at hintervals
    have hslow : (∀ frame ∈ timeline.frames.rtake 3,
        (1000000 / fps : ℚ) ≤ frame.startIntervalUs) ↔
          ∀ interval ∈ (timeline.frames.rtake 3).map Frame.startIntervalUs,
            (1000000 / fps : ℚ) ≤ interval := by
      rw [List.forall_mem_map]
    rw [if_pos (by omega), rtake_rtake hthree, hslow, hintervals]
    dsimp only
    rw [hlatest, previousIndex_cellOf hcapacity (by omega),
      previousIndex_cellOf hcapacity (by omega), hread _ (by omega) (by omega),
      hread _ (by omega) (by omega), hread _ (by omega) (by omega),
      show stored.length - 3 + 1 + 1 = stored.length - 1 by omega,
      show stored.length - 3 + 1 = stored.length - 2 by omega]
    simp only [Bool.and_eq_true, isSlow_iff platform hpositive hsmall,
      List.map_cons, List.map_nil, List.forall_mem_cons]
    tauto
  · rw [if_neg (by omega)]
    simp [hthree]

/-- Whatever has been reported, the observers describe the last frames since
the last reset. -/
theorem observers_eq_window (platform : Platform) {maxNumOfRecords : Int}
    (hpositive : 1 ≤ maxNumOfRecords) (hsmall : maxNumOfRecords < 2 ^ 31)
    (jankCheckTimeFactor : ℚ) (calls : List SessionRecords.Call) :
    SessionRecords.Observes platform
      (calls.foldl (SessionRecords.call platform)
        (SessionRecords.new maxNumOfRecords jankCheckTimeFactor))
      ((Timeline.after platform jankCheckTimeFactor calls).frames.rtake
        maxNumOfRecords.toNat) := by
  obtain ⟨stored, hfollows⟩ :=
    follows_after platform hpositive hsmall jankCheckTimeFactor calls
  constructor
  · exact hfollows.getMaxDuration_eq
  · exact hfollows.getAvgDuration_eq
  · exact hfollows.getNumOfRecords_eq
  · exact hfollows.getNumOfMissedCycles_eq
  · intro fps hfps hbound
    exact hfollows.isLowFrameRate_iff hfps hbound

/-- Three frames of 5, 9 and 4 ms, in a ring of two. -/
def sampleReports : List SessionRecords.Call :=
  [.addReportedDurations [⟨5000000, 5000000⟩, ⟨14000000, 9000000⟩] 8000000 {}
      false,
    .addReportedDurations [⟨18000000, 4000000⟩] 8000000 {} false]

theorem observers_of_sample_reports :
    SessionRecords.Observes ⟨Rounding.exact, fun _ => {}⟩
      (sampleReports.foldl
        (SessionRecords.call ⟨Rounding.exact, fun _ => {}⟩)
        (SessionRecords.new 2 1))
      [⟨5000, 9000, true⟩, ⟨9000, 4000, false⟩] := by
  have hwindow : (Timeline.after ⟨Rounding.exact, fun _ => {}⟩ 1
      sampleReports).frames.rtake (2 : Int).toNat =
        [⟨5000, 9000, true⟩, ⟨9000, 4000, false⟩] := by
    decide +kernel
  rw [← hwindow]
  exact observers_eq_window ⟨Rounding.exact, fun _ => {}⟩
    (show (1 : Int) ≤ 2 by norm_num) (by norm_num) 1 sampleReports

end HardwareInterfaces.FrameRecords

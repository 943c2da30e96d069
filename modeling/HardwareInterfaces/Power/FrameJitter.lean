import HardwareInterfaces.Core.Transition
import HardwareInterfaces.Power.RecordWindow

/-!
# Frame jitter

In game mode the records also look for frames that jitter.  A frame is marked
when its start interval is much longer than the average of the three before,
and the marked records of the window are counted.

A frame that leaves the window takes its mark out of the count, but a reset
leaves the count as it is.  The count is compared with the marks in the ring,
and what a batch does is reduced to what its frames do one by one.
-/

namespace HardwareInterfaces.FrameRecords

open MachineArithmetic SlidingWindow Transition

/-! ## The last records -/

namespace SessionRecords

variable (platform : Platform) (records : SessionRecords)

/-- The records met when going back in the ring from an index. -/
def recordsFrom (index : Int) : Nat → List CycleRecord
  | 0 => []
  | number + 1 =>
    records.recordAt platform index ::
      recordsFrom (records.previousIndex index) number

/-- The last records, newest first. -/
def lastRecords (number : Nat) : List CycleRecord :=
  records.recordsFrom platform records.mLatestRecordIndex number

end SessionRecords

variable {records : SessionRecords} {stored : List CycleRecord}

theorem recordsFrom_cellOf {platform : Platform} {first : Nat}
    (htracks : Tracks records stored first) (number position : Nat)
    (hposition : position < stored.length)
    (hnumber : first + number ≤ position + 1) :
    records.recordsFrom platform (cellOf records.mRecords.length position)
        number =
      ((stored.take (position + 1)).rtake number).reverse := by
  induction number generalizing position with
  | zero => simp [SessionRecords.recordsFrom]
  | succ number ih =>
    have htake : stored.take (position + 1) =
        stored.take position ++ [stored.getD position {}] := by
      rw [List.take_succ_eq_append_getElem hposition,
        List.getD_eq_getElem?_getD, List.getElem?_eq_getElem hposition]
      rfl
    rw [SessionRecords.recordsFrom, htake, List.rtake_concat_succ,
      List.reverse_concat,
      recordAt_cellOf htracks.holds (by omega) hposition]
    congr 1
    cases position with
    | zero =>
      have hnone : number = 0 := by omega
      subst hnone
      simp [SessionRecords.recordsFrom]
    | succ before =>
      rw [previousIndex_cellOf htracks.capacity htracks.positive]
      exact ih before (by omega) (by omega)

theorem Follows.lastRecords_eq {platform : Platform} {capacity : Nat}
    {jankCheckTimeFactor : ℚ} {timeline : Timeline}
    (hfollows : Follows capacity jankCheckTimeFactor records stored timeline)
    {number : Nat} (hlength : number ≤ stored.length)
    (hcapacity : number ≤ capacity) :
    records.lastRecords platform number = (stored.rtake number).reverse := by
  have htracks := hfollows.tracks
  rw [SessionRecords.lastRecords]
  cases number with
  | zero => simp [SessionRecords.recordsFrom]
  | succ number =>
    have hempty : stored ≠ [] := List.length_pos_iff.mp (by omega)
    rw [htracks.latest, if_neg hempty,
      recordsFrom_cellOf htracks _ _ (by omega) (by omega),
      List.take_of_length_le (by omega)]

/-! ## Single frames -/

/-- A frame of a batch, or a reset. -/
inductive FrameCall where
  | report (targetDurationNs : Int) (computeGameMetrics : Bool)
      (duration : WorkDuration)
  | resetRecords
  deriving DecidableEq, Repr

def SessionRecords.frameCall (platform : Platform) (records : SessionRecords) :
    FrameCall → SessionRecords
  | .report targetDurationNs computeGameMetrics duration =>
    (addReportedDuration platform targetDurationNs computeGameMetrics
      (records, {}) duration).1
  | .resetRecords => records.resetRecords

def Timeline.frameCall (platform : Platform) (jankCheckTimeFactor : ℚ)
    (timeline : Timeline) : FrameCall → Timeline
  | .report targetDurationNs _ duration =>
    timeline.add platform jankCheckTimeFactor targetDurationNs duration
  | .resetRecords => {}

def SessionRecords.Call.frameCalls : SessionRecords.Call → List FrameCall
  | .addReportedDurations actualDurationsNs targetDurationNs _
      computeGameMetrics =>
      actualDurationsNs.map (.report targetDurationNs computeGameMetrics)
  | .resetRecords => [.resetRecords]

/-- A batch leaves the records that its frames leave one by one. -/
theorem addReportedDurations_eq_frameCalls (platform : Platform)
    (records : SessionRecords) (durations : List WorkDuration)
    (targetDurationNs : Int) (metrics : Metrics.FrameTimingMetrics)
    (computeGameMetrics : Bool) :
    (records.addReportedDurations platform durations targetDurationNs metrics
        computeGameMetrics).1 =
      (durations.map (FrameCall.report targetDurationNs
        computeGameMetrics)).foldl (SessionRecords.frameCall platform)
          records := by
  rw [SessionRecords.addReportedDurations]
  induction durations generalizing records metrics with
  | nil => rfl
  | cons duration rest ih => exact ih _ _

theorem call_eq_frameCalls (platform : Platform) (records : SessionRecords)
    (call : SessionRecords.Call) :
    records.call platform call =
      call.frameCalls.foldl (SessionRecords.frameCall platform) records := by
  cases call with
  | addReportedDurations durations targetDurationNs metrics
      computeGameMetrics =>
      exact addReportedDurations_eq_frameCalls platform records durations
        targetDurationNs metrics computeGameMetrics
  | resetRecords => rfl

theorem Follows.frameCall (platform : Platform) {capacity : Nat}
    {jankCheckTimeFactor : ℚ} {timeline : Timeline}
    (hfollows : Follows capacity jankCheckTimeFactor records stored timeline)
    (call : FrameCall) :
    ∃ stored, Follows capacity jankCheckTimeFactor
      (records.frameCall platform call) stored
      (timeline.frameCall platform jankCheckTimeFactor call) := by
  cases call with
  | report targetDurationNs computeGameMetrics duration =>
    exact ⟨_, hfollows.addReportedDuration targetDurationNs
      computeGameMetrics {} duration⟩
  | resetRecords => exact ⟨[], hfollows.resetRecords⟩

/-! ## The count of marked records -/

theorem trackFPSJitter_jitters (platform : Platform)
    (records : SessionRecords) (startIntervalUs : Int)
    (computeGameMetrics : Bool) :
    (records.trackFPSJitter platform startIntervalUs
        computeGameMetrics).2.mNumOfFrameFPSJitters =
      records.mNumOfFrameFPSJitters +
        if (records.trackFPSJitter platform startIntervalUs
          computeGameMetrics).1 then 1 else 0 := by
  rw [SessionRecords.trackFPSJitter]
  split_ifs <;> simp_all

section Marks

variable {platform : Platform} {capacity : Nat} {jankCheckTimeFactor : ℚ}
variable {records : SessionRecords} {stored : List CycleRecord}
variable {timeline : Timeline}

variable (platform) in
/-- A record that leaves the window takes its mark out of the count. -/
theorem Follows.removeOldest_jitters
    (hfollows : Follows capacity jankCheckTimeFactor records stored
      timeline) :
    (records.removeOldest platform).mNumOfFrameFPSJitters +
        (stored.rtake capacity).countP CycleRecord.isFPSJitter =
      records.mNumOfFrameFPSJitters +
        (stored.drop (stored.length + 1 - capacity)).countP
          CycleRecord.isFPSJitter := by
  have htracks := hfollows.tracks
  have hsize := hfollows.size
  have hpositive := htracks.positive
  rw [SessionRecords.removeOldest, htracks.capacity, htracks.frames, hsize,
    List.rtake]
  by_cases hfull : capacity ≤ stored.length
  · have hfirst : stored.length - capacity < stored.length := by omega
    have hindex : (records.mLatestRecordIndex + 1).tmod capacity =
        cellOf records.mRecords.length (stored.length - capacity) := by
      rw [← hsize, ← htracks.capacity, htracks.next_index, cellOf, cellOf,
        hsize, Nat.mod_eq_sub_mod hfull]
    have hdrop : stored.drop (stored.length - capacity) =
        stored.getD (stored.length - capacity) {} ::
          stored.drop (stored.length + 1 - capacity) := by
      rw [drop_eq_getD_cons hfirst, Nat.sub_add_comm hfull]
    rw [if_pos (by omega), hdrop, List.countP_cons]
    dsimp only
    rw [hindex, recordAt_cellOf htracks.holds (Nat.le_refl _) hfirst]
    split_ifs
    · push_cast
      omega
    · simp
  · have hsame : stored.length + 1 - capacity = stored.length - capacity := by
      omega
    rw [if_neg (by omega), hsame]

variable (platform) in
/-- A new frame leaves the difference between the count and the marks. -/
theorem Follows.addReportedDuration_jitters
    (hfollows : Follows capacity jankCheckTimeFactor records stored timeline)
    (targetDurationNs : Int) (computeGameMetrics : Bool)
    (duration : WorkDuration) :
    (records.frameCall platform (.report targetDurationNs computeGameMetrics
          duration)).mNumOfFrameFPSJitters +
        (stored.rtake capacity).countP CycleRecord.isFPSJitter =
      records.mNumOfFrameFPSJitters +
        ((stored ++ [records.newRecord platform targetDurationNs
          computeGameMetrics duration]).rtake capacity).countP
            CycleRecord.isFPSJitter := by
  have hcapacity : 0 < capacity := hfollows.size ▸ hfollows.tracks.positive
  have hkept := hfollows.removeOldest_jitters platform
  have hjitters : (records.frameCall platform (.report targetDurationNs
      computeGameMetrics duration)).mNumOfFrameFPSJitters =
        (records.removeOldest platform).mNumOfFrameFPSJitters +
          if (records.newRecord platform targetDurationNs computeGameMetrics
            duration).isFPSJitter then 1 else 0 :=
    trackFPSJitter_jitters platform
      ((records.removeOldest platform).advance duration.startTimeNs)
      (records.nextInterval platform duration) computeGameMetrics
  rw [hjitters, List.rtake, List.rtake, List.length_append,
    List.length_singleton, List.drop_append_of_le_length (by omega),
    List.countP_append, List.countP_singleton]
  rw [List.rtake] at hkept
  push_cast
  omega

/-- The count exceeds the marks of the window by what resets have left. -/
def Leftover (capacity : Nat) (jankCheckTimeFactor : ℚ) (left : Nat)
    (records : SessionRecords) : Prop :=
  ∃ stored timeline,
    Follows capacity jankCheckTimeFactor records stored timeline ∧
      records.mNumOfFrameFPSJitters =
        left + (stored.rtake capacity).countP CycleRecord.isFPSJitter

/-- The records of the current window, newest first. -/
def SessionRecords.window (platform : Platform) (records : SessionRecords) :
    List CycleRecord :=
  records.lastRecords platform records.mNumOfFrames.toNat

theorem Follows.window_eq
    (hfollows : Follows capacity jankCheckTimeFactor records stored
      timeline) :
    records.window platform = (stored.rtake capacity).reverse := by
  have hnumber : records.mNumOfFrames.toNat =
      stored.length - (stored.length - capacity) := by
    rw [hfollows.tracks.frames, Int.toNat_natCast]
  rw [SessionRecords.window, hnumber,
    hfollows.lastRecords_eq (by omega) (by omega), List.rtake, List.rtake]
  congr 2
  omega

theorem Leftover.report {left : Nat}
    (hleft : Leftover capacity jankCheckTimeFactor left records)
    (targetDurationNs : Int) (computeGameMetrics : Bool)
    (duration : WorkDuration) :
    Leftover capacity jankCheckTimeFactor left
      (records.frameCall platform (.report targetDurationNs
        computeGameMetrics duration)) := by
  obtain ⟨stored, timeline, hfollows, hcount⟩ := hleft
  refine ⟨_, _, hfollows.addReportedDuration targetDurationNs
    computeGameMetrics {} duration, ?_⟩
  have hnext := hfollows.addReportedDuration_jitters platform
    targetDurationNs computeGameMetrics duration
  omega

variable (platform) in
theorem Leftover.resetRecords {left : Nat}
    (hleft : Leftover capacity jankCheckTimeFactor left records) :
    Leftover capacity jankCheckTimeFactor
      (left + (records.window platform).countP CycleRecord.isFPSJitter)
      records.resetRecords := by
  obtain ⟨stored, timeline, hfollows, hcount⟩ := hleft
  refine ⟨[], {}, hfollows.resetRecords, ?_⟩
  rw [hfollows.window_eq, List.countP_reverse]
  simpa [SessionRecords.resetRecords] using hcount

/-- The count is right exactly when nothing is left over. -/
theorem Leftover.count_eq_iff {left : Nat}
    (hleft : Leftover capacity jankCheckTimeFactor left records) :
    records.getNumOfFPSJitters =
        (records.window platform).countP CycleRecord.isFPSJitter ↔
      left = 0 := by
  obtain ⟨stored, timeline, hfollows, hcount⟩ := hleft
  rw [SessionRecords.getNumOfFPSJitters, hcount, hfollows.window_eq,
    List.countP_reverse]
  omega

end Marks

def SessionRecords.step (platform : Platform) (records : SessionRecords)
    (call : SessionRecords.Call) : Option SessionRecords :=
  some (records.call platform call)

/-- The records are reset only while no record of the window is marked. -/
def ResetUnmarked (platform : Platform) (records : SessionRecords) :
    SessionRecords.Call → Prop
  | .addReportedDurations _ _ _ _ => True
  | .resetRecords =>
    ∀ record ∈ records.window platform, record.isFPSJitter = false

/-- The count of jitters agrees with the marks of the window. -/
def CountsMarks (platform : Platform) (records : SessionRecords) : Prop :=
  records.getNumOfFPSJitters =
    (records.window platform).countP CycleRecord.isFPSJitter

section Count

variable {platform : Platform} {capacity : Nat} {jankCheckTimeFactor : ℚ}

theorem Leftover.call {records : SessionRecords} {left : Nat}
    (hleft : Leftover capacity jankCheckTimeFactor left records)
    (call : SessionRecords.Call) :
    ∃ left', Leftover capacity jankCheckTimeFactor left'
        (records.call platform call) ∧
      (left' = 0 ↔ left = 0 ∧ ResetUnmarked platform records call) := by
  cases call with
  | addReportedDurations durations targetDurationNs metrics
      computeGameMetrics =>
      refine ⟨left, ?_, (and_iff_left trivial).symm⟩
      rw [call_eq_frameCalls, SessionRecords.Call.frameCalls]
      induction durations generalizing records with
      | nil => exact hleft
      | cons duration rest ih =>
        exact ih (hleft.report targetDurationNs computeGameMetrics duration)
  | resetRecords =>
    refine ⟨_, hleft.resetRecords platform, ?_⟩
    rw [Nat.add_eq_zero_iff, List.countP_eq_zero]
    simp only [ResetUnmarked, Bool.not_eq_true]

theorem leftover_new {maxNumOfRecords : Int} (hpositive : 1 ≤ maxNumOfRecords)
    (hsmall : maxNumOfRecords < 2 ^ 31) (jankCheckTimeFactor : ℚ) :
    Leftover maxNumOfRecords.toNat jankCheckTimeFactor 0
      (SessionRecords.new maxNumOfRecords jankCheckTimeFactor) := by
  refine ⟨[], {}, follows_new hpositive hsmall jankCheckTimeFactor, ?_⟩
  simp [SessionRecords.new]

/-- The count is right at the end of a run exactly when no reset on the way
has dropped a marked record. -/
theorem countsMarks_iff_runMeets {records last : SessionRecords}
    {calls : List SessionRecords.Call}
    (hleft : Leftover capacity jankCheckTimeFactor 0 records)
    (hrun : run (SessionRecords.step platform) records calls = some last) :
    CountsMarks platform last ↔
      RunMeets (SessionRecords.step platform) (ResetUnmarked platform)
        records calls := by
  have hkeep : ∀ state call next,
      (∃ left, Leftover capacity jankCheckTimeFactor left state) →
      SessionRecords.step platform state call = some next →
        ∃ left, Leftover capacity jankCheckTimeFactor left next := by
    rintro state call _ ⟨left, hstate⟩ ⟨⟩
    obtain ⟨left', hnext, -⟩ := hstate.call call
    exact ⟨left', hnext⟩
  have hstep : ∀ state call next,
      (∃ left, Leftover capacity jankCheckTimeFactor left state) →
      SessionRecords.step platform state call = some next →
        (CountsMarks platform next ↔
          CountsMarks platform state ∧ ResetUnmarked platform state call) := by
    rintro state call _ ⟨left, hstate⟩ ⟨⟩
    obtain ⟨left', hnext, hiff⟩ := hstate.call call
    exact hnext.count_eq_iff.trans
      (hiff.trans (and_congr_left' hstate.count_eq_iff.symm))
  have hinit : CountsMarks platform records := hleft.count_eq_iff.mpr rfl
  exact (last_iff_runMeets hkeep hstep ⟨0, hleft⟩ hrun).trans
    (and_iff_right hinit)

end Count

/-- The count of jitters is the number of marked records in the window exactly
when no reset has dropped a marked one. -/
theorem numOfFPSJitters_eq_marked_iff (platform : Platform)
    {maxNumOfRecords : Int} (hthree : 3 ≤ maxNumOfRecords)
    (hsmall : maxNumOfRecords < 2 ^ 31) (jankCheckTimeFactor : ℚ)
    (calls : List SessionRecords.Call) :
    let records := calls.foldl (SessionRecords.call platform)
      (SessionRecords.new maxNumOfRecords jankCheckTimeFactor)
    let frames := (Timeline.after platform jankCheckTimeFactor calls).frames
    records.getNumOfFPSJitters =
        (records.lastRecords platform
          (min frames.length maxNumOfRecords.toNat)).countP
            CycleRecord.isFPSJitter ↔
      RunMeets (SessionRecords.step platform) (ResetUnmarked platform)
        (SessionRecords.new maxNumOfRecords jankCheckTimeFactor) calls := by
  intro records frames
  obtain ⟨stored, hfollows⟩ := follows_after platform (by omega) hsmall
    jankCheckTimeFactor calls
  have hnumber : min frames.length maxNumOfRecords.toNat =
      records.mNumOfFrames.toNat := by
    have hlength : frames.length = stored.length := hfollows.agrees.length_eq
    have hframes : records.mNumOfFrames = _ := hfollows.tracks.frames
    rw [hframes, Int.toNat_natCast, hlength]
    omega
  rw [hnumber]
  exact countsMarks_iff_runMeets
    (leftover_new (by omega) hsmall jankCheckTimeFactor)
    (run_eq_foldl (SessionRecords.call platform) _ calls)

/-- Doubles without rounding, and default records outside the ring. -/
def samplePlatform : Platform := ⟨Rounding.exact, fun _ => {}⟩

/-- Frames of 1 ms that start at the given times in ms, reported in game
mode. -/
def gameFrames (startsMs : List Int) : SessionRecords.Call :=
  .addReportedDurations
    (startsMs.map fun start => ⟨(start + 1) * 1000000, 1000000⟩) 8000000 {}
    true

/-- The last frame comes late and is marked; the reset forgets the record but
not that it was counted. -/
theorem numOfFPSJitters_after_reset :
    let calls : List SessionRecords.Call :=
      [gameFrames [0, 10, 20, 30, 60], .resetRecords]
    let records := calls.foldl (SessionRecords.call samplePlatform)
      (SessionRecords.new 3 1)
    records.getNumOfFPSJitters = 1 ∧
      (Timeline.after samplePlatform 1 calls).frames.length = 0 ∧
      (records.lastRecords samplePlatform 0).countP
        CycleRecord.isFPSJitter = 0 := by
  decide +kernel

theorem numOfFPSJitters_of_late_frame :
    (SessionRecords.call samplePlatform (SessionRecords.new 3 1)
        (gameFrames [0, 10, 20, 30, 60])).getNumOfFPSJitters = 1 := by
  have hcount := (@numOfFPSJitters_eq_marked_iff samplePlatform 3
    (by norm_num) (by norm_num) 1 [gameFrames [0, 10, 20, 30, 60]]).mpr
      (by simp [RunMeets, ResetUnmarked, gameFrames])
  refine hcount.trans ?_
  decide +kernel

end HardwareInterfaces.FrameRecords

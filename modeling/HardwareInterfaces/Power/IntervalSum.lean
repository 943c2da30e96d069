import HardwareInterfaces.Power.FrameJitter

/-!
# The sum of the last start intervals

The check for frame jitter needs the average of the last three start intervals,
and the frame rate is computed from them too.  Both use a sum that is first
filled, with positive intervals only, and then slides over all frames by one
record at a time.  Frames outside game mode empty it; a reset of the records
does not.

The sum is right in runs that do not interrupt the filling, and it is positive
as long as the frames start one after another.
-/

namespace HardwareInterfaces.FrameRecords

open MachineArithmetic SlidingWindow Transition

/-! ## Sums over the timeline -/

/-- The interval between a frame and the one before it. -/
def Timeline.nextInterval (timeline : Timeline) (duration : WorkDuration) :
    Int :=
  timeline.lastStartTimeNs.elim 0 (startIntervalUs duration.startTimeNs)

/-- The sum of the last start intervals. -/
def Timeline.intervalSum (timeline : Timeline) (number : Nat) : Int :=
  ((timeline.frames.rtake number).map Frame.startIntervalUs).sum

theorem Timeline.intervalSum_zero (timeline : Timeline) :
    timeline.intervalSum 0 = 0 := by
  rw [intervalSum, List.rtake_zero, List.map_nil, List.sum_nil]

theorem Timeline.intervalSum_add (timeline : Timeline) (platform : Platform)
    (jankCheckTimeFactor : ℚ) (targetDurationNs : Int)
    (duration : WorkDuration) (number : Nat) :
    (timeline.add platform jankCheckTimeFactor targetDurationNs
        duration).intervalSum (number + 1) =
      timeline.intervalSum number + timeline.nextInterval duration := by
  rw [intervalSum, add, List.rtake_concat_succ, List.map_append,
    List.sum_append, List.map_singleton, List.sum_singleton]
  rfl

/-- The interval that the check takes out of the sum for the latest frame. -/
def SessionRecords.oldInterval (platform : Platform)
    (records : SessionRecords) : Int :=
  (records.recordAt platform
    (if records.mLatestRecordIndex - kTotalFramesForFPSCheck < 0 then
      records.mLatestRecordIndex - kTotalFramesForFPSCheck +
        records.kMaxNumOfRecords
    else
      records.mLatestRecordIndex - kTotalFramesForFPSCheck)).startIntervalUs

/-- The index of the check is that of the frame three positions before. -/
theorem cellOf_sub_three {capacity position : Nat} (hcapacity : 3 ≤ capacity)
    (hposition : 3 ≤ position) :
    (if cellOf capacity position - kTotalFramesForFPSCheck < 0 then
        cellOf capacity position - kTotalFramesForFPSCheck + capacity
      else cellOf capacity position - kTotalFramesForFPSCheck) =
      cellOf capacity (position - 3) := by
  have hmod := Nat.mod_lt (position - 3) (show 0 < capacity by omega)
  have hnext : position % capacity =
      ((position - 3) % capacity + 3) % capacity := by
    rw [Nat.mod_add_mod, Nat.sub_add_cancel hposition]
  rw [kTotalFramesForFPSCheck, cellOf, cellOf, hnext]
  rcases Nat.lt_or_ge ((position - 3) % capacity + 3) capacity with hlt | hge
  · rw [Nat.mod_eq_of_lt hlt, if_neg (by omega)]
    omega
  · rw [Nat.mod_eq_sub_mod hge, Nat.mod_eq_of_lt (by omega), if_pos (by omega)]
    omega

section Sum

variable {platform : Platform} {capacity : Nat} {jankCheckTimeFactor : ℚ}
variable {records : SessionRecords} {stored : List CycleRecord}
variable {timeline : Timeline}

section

variable
  (hfollows : Follows capacity jankCheckTimeFactor records stored timeline)
  (hcapacity : 3 ≤ capacity) (hlength : 3 ≤ stored.length)
include hfollows hcapacity hlength

/-- What leaves the sum when it slides on. -/
theorem Follows.intervalSum_three :
    timeline.intervalSum 3 = timeline.intervalSum 2 +
      (stored.getD (stored.length - 3) {}).startIntervalUs := by
  have hintervals := hfollows.agrees.intervals (by omega)
  rw [Timeline.intervalSum, Timeline.intervalSum, map_rtake_frames hintervals,
    map_rtake_frames hintervals, drop_eq_getD_cons (by omega), List.map_cons,
    List.sum_cons, add_comm,
    show stored.length - 3 + 1 = stored.length - 2 by omega]

/-- The check reads the interval of the frame three positions before, which
has not been overwritten yet. -/
theorem Follows.oldInterval_eq (startTimeNs : Int) :
    ((records.removeOldest platform).advance startTimeNs).oldInterval
        platform =
      (stored.getD (stored.length - 3) {}).startIntervalUs := by
  generalize hnext : (records.removeOldest platform).advance startTimeNs = next
  have hkept := hfollows.tracks.makeRoom platform hfollows.size
  have hcells : next.mRecords = records.mRecords := by
    rw [← hnext]
    exact (removeOldest_frame platform records).1
  have hsize : next.mRecords.length = capacity := hcells ▸ hfollows.size
  have hnumber : next.kMaxNumOfRecords = capacity := by
    rw [← hsize, ← hnext]
    exact hkept.capacity
  have hlatest : next.mLatestRecordIndex = cellOf capacity stored.length := by
    rw [← hsize, ← hnext]
    exact hkept.next_index
  rw [SessionRecords.oldInterval, hlatest, hnumber,
    cellOf_sub_three hcapacity hlength, ← hsize,
    recordAt_cellOf (hcells ▸ hfollows.tracks.holds) (by omega) (by omega)]

end

end Sum

/-- What the check does to the number of summed frames and to the sum. -/
theorem trackFPSJitter_sum (platform : Platform) (records : SessionRecords)
    (startIntervalUs : Int) (computeGameMetrics : Bool) :
    let tracked := (records.trackFPSJitter platform startIntervalUs
      computeGameMetrics).2
    (tracked.mAddedFramesForFPSCheck, tracked.mLatestStartIntervalSumUs) =
      if computeGameMetrics then
        if records.mAddedFramesForFPSCheck < kTotalFramesForFPSCheck then
          if 0 < startIntervalUs then
            (records.mAddedFramesForFPSCheck + 1,
              int32 (records.mLatestStartIntervalSumUs + startIntervalUs))
          else
            (records.mAddedFramesForFPSCheck,
              records.mLatestStartIntervalSumUs)
        else
          (records.mAddedFramesForFPSCheck,
            int32 (records.mLatestStartIntervalSumUs +
              (startIntervalUs - records.oldInterval platform)))
      else (0, 0) := by
  cases computeGameMetrics with
  | false => rfl
  | true =>
    rw [SessionRecords.trackFPSJitter, if_pos rfl, if_pos rfl]
    by_cases hfill : records.mAddedFramesForFPSCheck < kTotalFramesForFPSCheck
    · rw [if_pos hfill, if_pos hfill]
      split_ifs <;> rfl
    · rw [if_neg hfill, if_neg hfill]
      rfl

/-- What a frame does to them. -/
theorem frameCall_sum (platform : Platform) (records : SessionRecords)
    (targetDurationNs : Int) (computeGameMetrics : Bool)
    (duration : WorkDuration) :
    let next := records.frameCall platform
      (.report targetDurationNs computeGameMetrics duration)
    let interval := records.nextInterval platform duration
    let old := ((records.removeOldest platform).advance
      duration.startTimeNs).oldInterval platform
    (next.mAddedFramesForFPSCheck, next.mLatestStartIntervalSumUs) =
      if computeGameMetrics then
        if records.mAddedFramesForFPSCheck < kTotalFramesForFPSCheck then
          if 0 < interval then
            (records.mAddedFramesForFPSCheck + 1,
              int32 (records.mLatestStartIntervalSumUs + interval))
          else
            (records.mAddedFramesForFPSCheck,
              records.mLatestStartIntervalSumUs)
        else
          (records.mAddedFramesForFPSCheck,
            int32 (records.mLatestStartIntervalSumUs + (interval - old)))
      else (0, 0) := by
  have hadded : (records.removeOldest platform).mAddedFramesForFPSCheck =
      records.mAddedFramesForFPSCheck := by
    rw [SessionRecords.removeOldest]
    split_ifs <;> rfl
  have hsum : (records.removeOldest platform).mLatestStartIntervalSumUs =
      records.mLatestStartIntervalSumUs := by
    rw [SessionRecords.removeOldest]
    split_ifs <;> rfl
  rw [← hadded, ← hsum]
  exact trackFPSJitter_sum platform
    ((records.removeOldest platform).advance duration.startTimeNs)
    (records.nextInterval platform duration) computeGameMetrics

/-! ## Records with their timeline -/

/-- Records together with the frames they were told about. -/
structure Observed where
  records : SessionRecords
  timeline : Timeline

namespace Observed

def new (maxNumOfRecords : Int) (jankCheckTimeFactor : ℚ) : Observed :=
  ⟨SessionRecords.new maxNumOfRecords jankCheckTimeFactor, {}⟩

def step (platform : Platform) (observed : Observed) (call : FrameCall) :
    Option Observed :=
  some
    ⟨observed.records.frameCall platform call,
      observed.timeline.frameCall platform
        observed.records.kJankCheckTimeFactor call⟩

/-- Once three frames have been added, the sum is that of the last three start
intervals. -/
def SumsLastIntervals (observed : Observed) : Prop :=
  observed.records.mAddedFramesForFPSCheck = kTotalFramesForFPSCheck →
    observed.records.mLatestStartIntervalSumUs =
      observed.timeline.intervalSum 3

/-- A frame may interrupt neither the filling of the sum nor overflow it, and
the records are reset only while no frame is summed. -/
def Regular (observed : Observed) : FrameCall → Prop
  | .report _ computeGameMetrics duration =>
    let added := observed.records.mAddedFramesForFPSCheck
    let interval := observed.timeline.nextInterval duration
    let sum := observed.timeline.intervalSum 2 + interval
    computeGameMetrics = true →
      (0 < added → added < kTotalFramesForFPSCheck → 0 < interval) ∧
        (2 ≤ added → -2 ^ 31 ≤ sum ∧ sum < 2 ^ 31)
  | .resetRecords => observed.records.mAddedFramesForFPSCheck = 0

instance (observed : Observed) : Decidable observed.SumsLastIntervals :=
  inferInstanceAs (Decidable (_ → _))

instance (observed : Observed) : ∀ call, Decidable (observed.Regular call)
  | .report _ _ _ => inferInstanceAs (Decidable (_ = _ → _))
  | .resetRecords => inferInstanceAs (Decidable (_ = _))

/-- The sum is that of the last start intervals, as many as were added. -/
structure Sums (capacity : Nat) (jankCheckTimeFactor : ℚ) (number : Nat)
    (observed : Observed) : Prop where
  follows : ∃ stored, Follows capacity jankCheckTimeFactor observed.records
    stored observed.timeline
  le_three : number ≤ 3
  le_length : number ≤ observed.timeline.frames.length
  added : observed.records.mAddedFramesForFPSCheck = number
  sum : observed.records.mLatestStartIntervalSumUs =
    int32 (observed.timeline.intervalSum number)
  fits : number = 3 → -2 ^ 31 ≤ observed.timeline.intervalSum 3 ∧
    observed.timeline.intervalSum 3 < 2 ^ 31

variable {platform : Platform} {capacity : Nat} {jankCheckTimeFactor : ℚ}
variable {observed next : Observed} {number : Nat}

theorem Sums.sumsLastIntervals
    (hsums : Sums capacity jankCheckTimeFactor number observed) :
    observed.SumsLastIntervals := by
  intro hthree
  have hnumber : number = 3 := by
    have hadded := hsums.added
    rw [hthree, kTotalFramesForFPSCheck] at hadded
    omega
  subst hnumber
  obtain ⟨hlower, hupper⟩ := hsums.fits rfl
  rw [hsums.sum, int32_eq_self hlower hupper]

theorem Sums.sum_eq_zero
    (hsums : Sums capacity jankCheckTimeFactor number observed)
    (hnone : observed.records.mAddedFramesForFPSCheck = 0) :
    observed.records.mLatestStartIntervalSumUs = 0 := by
  have hnumber : number = 0 := by
    have hadded := hsums.added
    omega
  rw [hsums.sum, hnumber, Timeline.intervalSum_zero]
  rfl

/-- A frame of game mode that fills the sum. -/
theorem Sums.fill {records : SessionRecords}
    (hsums : Sums capacity jankCheckTimeFactor number observed)
    {targetDurationNs : Int} {duration : WorkDuration}
    (hfollows : ∃ stored, Follows capacity jankCheckTimeFactor records stored
      (observed.timeline.add platform jankCheckTimeFactor targetDurationNs
        duration))
    (hfew : number < 3)
    (hadded : records.mAddedFramesForFPSCheck = number + 1)
    (hsum : records.mLatestStartIntervalSumUs =
      int32 (observed.records.mLatestStartIntervalSumUs +
        observed.timeline.nextInterval duration))
    (hfits : 2 ≤ number →
      -2 ^ 31 ≤ observed.timeline.intervalSum 2 +
          observed.timeline.nextInterval duration ∧
        observed.timeline.intervalSum 2 +
          observed.timeline.nextInterval duration < 2 ^ 31) :
    Sums capacity jankCheckTimeFactor (number + 1)
      ⟨records, observed.timeline.add platform jankCheckTimeFactor
        targetDurationNs duration⟩ := by
  have hlength := hsums.le_length
  refine ⟨hfollows, hfew, ?_, hadded, ?_, ?_⟩
  · simp only [Timeline.add, List.length_append, List.length_singleton]
    omega
  · rw [hsum, hsums.sum, int32_add, ← Timeline.intervalSum_add]
  · intro hthree
    dsimp only
    rw [Timeline.intervalSum_add]
    exact hfits (by omega)

/-- A frame of game mode over which the full sum slides. -/
theorem Sums.slide {records : SessionRecords}
    (hsums : Sums capacity jankCheckTimeFactor 3 observed)
    (hcapacity : 3 ≤ capacity) {targetDurationNs : Int}
    {duration : WorkDuration}
    (hfollows : ∃ stored, Follows capacity jankCheckTimeFactor records stored
      (observed.timeline.add platform jankCheckTimeFactor targetDurationNs
        duration))
    (hadded : records.mAddedFramesForFPSCheck = 3)
    (hsum : records.mLatestStartIntervalSumUs =
      int32 (observed.records.mLatestStartIntervalSumUs +
        (observed.timeline.nextInterval duration -
          ((observed.records.removeOldest platform).advance
            duration.startTimeNs).oldInterval platform)))
    (hfits : -2 ^ 31 ≤ observed.timeline.intervalSum 2 +
          observed.timeline.nextInterval duration ∧
        observed.timeline.intervalSum 2 +
          observed.timeline.nextInterval duration < 2 ^ 31) :
    Sums capacity jankCheckTimeFactor 3
      ⟨records, observed.timeline.add platform jankCheckTimeFactor
        targetDurationNs duration⟩ := by
  obtain ⟨stored, hstored⟩ := hsums.follows
  have hlength := hsums.le_length
  have hstoredLength := hstored.agrees.length_eq
  refine ⟨hfollows, Nat.le_refl 3, ?_, hadded, ?_, ?_⟩
  · simp only [Timeline.add, List.length_append, List.length_singleton]
    omega
  · rw [hsum, hsums.sum, int32_add, Timeline.intervalSum_add,
      hstored.oldInterval_eq hcapacity (by omega),
      hstored.intervalSum_three hcapacity (by omega)]
    congr 1
    omega
  · intro _
    dsimp only
    rwa [Timeline.intervalSum_add]

/-- The sum starts again. -/
theorem sums_zero {records : SessionRecords} {timeline : Timeline}
    (hfollows : ∃ stored, Follows capacity jankCheckTimeFactor records stored
      timeline)
    (hadded : records.mAddedFramesForFPSCheck = 0)
    (hsum : records.mLatestStartIntervalSumUs = 0) :
    Sums capacity jankCheckTimeFactor 0 ⟨records, timeline⟩ := by
  refine ⟨hfollows, Nat.zero_le 3, Nat.zero_le _, hadded, ?_,
    fun hthree => absurd hthree (by omega)⟩
  rw [hsum, Timeline.intervalSum_zero]
  rfl

section

variable (hcapacity : 3 ≤ capacity)
  (hsums : Sums capacity jankCheckTimeFactor number observed)
include hcapacity hsums

theorem Sums.report {targetDurationNs : Int} {duration : WorkDuration}
    (hregular : observed.Regular (.report targetDurationNs true duration)) :
    Sums capacity jankCheckTimeFactor
      (if number < 3 ∧ 0 < observed.timeline.nextInterval duration then
        number + 1
      else number)
      ⟨observed.records.frameCall platform
          (.report targetDurationNs true duration),
        observed.timeline.add platform jankCheckTimeFactor targetDurationNs
          duration⟩ := by
  obtain ⟨stored, hfollows⟩ := hsums.follows
  have hnext := hfollows.frameCall platform
    (.report targetDurationNs true duration)
  have hinterval : observed.records.nextInterval platform duration =
      observed.timeline.nextInterval duration :=
    hfollows.nextInterval_eq (by omega)
  have heffect := frameCall_sum platform observed.records targetDurationNs true
    duration
  obtain ⟨hpositive, hfits⟩ := hregular rfl
  have hadded := hsums.added
  have hthree := hsums.le_three
  rw [kTotalFramesForFPSCheck] at heffect hpositive
  dsimp only at heffect
  rw [hinterval, if_pos rfl] at heffect
  by_cases hfew : number < 3
  · rw [if_pos (by omega)] at heffect
    by_cases hinterval : 0 < observed.timeline.nextInterval duration
    · rw [if_pos hinterval, Prod.mk.injEq, hadded] at heffect
      rw [if_pos ⟨hfew, hinterval⟩]
      exact hsums.fill hnext hfew heffect.1 heffect.2
        fun htwo => hfits (by omega)
    · rw [if_neg hinterval, Prod.mk.injEq] at heffect
      have hnone : observed.records.mAddedFramesForFPSCheck = 0 := by
        by_contra hsome
        exact hinterval (hpositive (by omega) (by omega))
      have hnumber : number = 0 := by omega
      subst hnumber
      rw [if_neg fun hboth => hinterval hboth.2]
      exact sums_zero hnext (heffect.1.trans hnone)
        (heffect.2.trans (hsums.sum_eq_zero hnone))
  · have hnumber : number = 3 := by omega
    subst hnumber
    rw [if_neg (by omega), Prod.mk.injEq] at heffect
    rw [if_neg fun hboth => hfew hboth.1]
    exact hsums.slide hcapacity hnext (heffect.1.trans hadded) heffect.2
      (hfits (by omega))

theorem Sums.step {call : FrameCall} (hregular : observed.Regular call)
    (hstep : observed.step platform call = some next) :
    ∃ number, Sums capacity jankCheckTimeFactor number next := by
  cases hstep
  obtain ⟨stored, hfollows⟩ := hsums.follows
  have hnext := hfollows.frameCall platform call
  rw [hfollows.factor]
  cases call with
  | resetRecords =>
    exact ⟨0, sums_zero hnext hregular (hsums.sum_eq_zero hregular)⟩
  | report targetDurationNs computeGameMetrics =>
    cases computeGameMetrics with
    | false => exact ⟨0, sums_zero hnext rfl rfl⟩
    | true => exact ⟨_, hsums.report hcapacity hregular⟩

end

theorem sums_new {maxNumOfRecords : Int} (hpositive : 1 ≤ maxNumOfRecords)
    (hsmall : maxNumOfRecords < 2 ^ 31) (jankCheckTimeFactor : ℚ) :
    Sums maxNumOfRecords.toNat jankCheckTimeFactor 0
      (new maxNumOfRecords jankCheckTimeFactor) :=
  sums_zero ⟨[], follows_new hpositive hsmall jankCheckTimeFactor⟩ rfl rfl

/-- In a run of regular calls the sum is right whenever it is full. -/
theorem runHolds_sumsLastIntervals (platform : Platform)
    {maxNumOfRecords : Int} (hthree : 3 ≤ maxNumOfRecords)
    (hsmall : maxNumOfRecords < 2 ^ 31) (jankCheckTimeFactor : ℚ)
    {calls : List FrameCall}
    (hregular : RunMeets (step platform) Regular
      (new maxNumOfRecords jankCheckTimeFactor) calls) :
    RunHolds (step platform) SumsLastIntervals
      (new maxNumOfRecords jankCheckTimeFactor) calls := by
  have hsound : ∀ observed,
      (∃ number, Sums maxNumOfRecords.toNat jankCheckTimeFactor number
        observed) → observed.SumsLastIntervals := by
    rintro observed ⟨number, hsums⟩
    exact hsums.sumsLastIntervals
  refine hregular.runHolds hsound ?_
    ⟨0, sums_new (by omega) hsmall jankCheckTimeFactor⟩
  rintro observed call next ⟨number, hsums⟩ hcall hnext
  exact hsums.step (by omega) hcall hnext

/-- Frames of 1 ms that start at the given times in ms, in game mode. -/
def framesAt (startsMs : List Int) : List FrameCall :=
  startsMs.map fun start =>
    .report 8000000 true ⟨(start + 1) * 1000000, 1000000⟩

/-- A frame that starts with the one before it is left out of a sum that is
not full yet, and a reset keeps a sum of frames that are gone. -/
theorem sum_after_skipped_frame_or_reset :
    ¬ RunHolds (step samplePlatform) SumsLastIntervals (new 4 1)
        (framesAt [0, 5, 5, 10, 15]) ∧
      ¬ RunHolds (step samplePlatform) SumsLastIntervals (new 4 1)
        (framesAt [0, 5, 10, 15] ++ .resetRecords :: framesAt [20]) := by
  decide +kernel

theorem sum_of_steady_frames :
    RunHolds (step samplePlatform) SumsLastIntervals (new 4 1)
      (framesAt [0, 5, 11, 18, 26]) :=
  runHolds_sumsLastIntervals samplePlatform (by norm_num) (by norm_num) 1
    (by decide +kernel)

end Observed

/-! ## Frames that start one after another -/

def SessionRecords.frameStep (platform : Platform) (records : SessionRecords)
    (call : FrameCall) : Option SessionRecords :=
  some (records.frameCall platform call)

/-- A frame starts after the one before it, by less than twelve minutes. -/
def SessionRecords.Steady (platform : Platform) (records : SessionRecords) :
    FrameCall → Prop
  | .report _ _ duration =>
    0 < records.mNumOfFrames →
      0 < records.nextInterval platform duration ∧
        3 * records.nextInterval platform duration < 2 ^ 31
  | .resetRecords => True

instance (platform : Platform) (records : SessionRecords) :
    ∀ call, Decidable (records.Steady platform call)
  | .report _ _ duration => inferInstanceAs (Decidable
      (0 < records.mNumOfFrames →
        0 < records.nextInterval platform duration ∧
          3 * records.nextInterval platform duration < 2 ^ 31))
  | .resetRecords => inferInstanceAs (Decidable True)

/-- The sum is made of positive intervals of moderate length. -/
def SumsSteady (capacity : Nat) (jankCheckTimeFactor : ℚ) (number : Nat)
    (records : SessionRecords) : Prop :=
  ∃ timeline,
    Observed.Sums capacity jankCheckTimeFactor number ⟨records, timeline⟩ ∧
      ∀ frame ∈ timeline.frames.rtake number,
        0 < frame.startIntervalUs ∧ 3 * frame.startIntervalUs < 2 ^ 31

section Steady

variable {platform : Platform} {capacity number : Nat}
variable {jankCheckTimeFactor : ℚ} {records : SessionRecords}

theorem sum_steady_bounds {intervals : List Int}
    (hsteady : ∀ interval ∈ intervals,
      0 < interval ∧ 3 * interval < 2 ^ 31) :
    (intervals.length : Int) ≤ intervals.sum ∧
      3 * intervals.sum ≤ (2 ^ 31 - 1) * (intervals.length : Int) := by
  induction intervals with
  | nil => simp
  | cons interval rest ih =>
    obtain ⟨hfirst, hrest⟩ := List.forall_mem_cons.mp hsteady
    have hsum := ih hrest
    rw [List.sum_cons, List.length_cons]
    push_cast
    omega

theorem Timeline.intervalSum_bounds {timeline : Timeline}
    (hlength : number ≤ timeline.frames.length)
    (hsteady : ∀ frame ∈ timeline.frames.rtake number,
      0 < frame.startIntervalUs ∧ 3 * frame.startIntervalUs < 2 ^ 31) :
    (number : Int) ≤ timeline.intervalSum number ∧
      3 * timeline.intervalSum number ≤ (2 ^ 31 - 1) * (number : Int) := by
  have hnumber : ((timeline.frames.rtake number).map
      Frame.startIntervalUs).length = number := by
    rw [List.length_map, List.rtake, List.length_drop]
    omega
  have hbounds := sum_steady_bounds (List.forall_mem_map.mpr hsteady)
  rwa [hnumber] at hbounds

/-- A sum of some frames is positive. -/
theorem SumsSteady.sum_pos
    (hsums : SumsSteady capacity jankCheckTimeFactor number records)
    (hsome : 0 < number) : 0 < records.mLatestStartIntervalSumUs := by
  obtain ⟨timeline, hsums, hsteady⟩ := hsums
  have hbounds := timeline.intervalSum_bounds hsums.le_length hsteady
  have hthree := hsums.le_three
  have hsum : records.mLatestStartIntervalSumUs =
      int32 (timeline.intervalSum number) := hsums.sum
  rw [hsum, int32_eq_self (by omega) (by omega)]
  omega

section

variable {stored : List CycleRecord} {timeline : Timeline}
  (hfollows : Follows capacity jankCheckTimeFactor records stored timeline)
include hfollows

theorem Follows.mNumOfFrames_pos_iff :
    0 < records.mNumOfFrames ↔ 0 < timeline.frames.length := by
  have hpositive := hfollows.size ▸ hfollows.tracks.positive
  rw [hfollows.tracks.frames, hfollows.agrees.length_eq]
  omega

/-- The first frame has no interval. -/
theorem Follows.nextInterval_of_empty (hempty : timeline.frames.length = 0)
    (duration : WorkDuration) : timeline.nextInterval duration = 0 := by
  rw [hfollows.agrees.length_eq, List.length_eq_zero_iff] at hempty
  rw [Timeline.nextInterval, hfollows.lastStart, if_pos hempty]
  rfl

end

theorem mem_rtake_of_le {Item : Type*} {items : List Item} {item : Item}
    {few many : Nat} (hle : few ≤ many) (hmem : item ∈ items.rtake few) :
    item ∈ items.rtake many :=
  (List.drop_sublist_drop_left items
    (Nat.sub_le_sub_left hle items.length)).subset hmem

/-- Frames with steady intervals followed by another one. -/
theorem Timeline.steady_add {timeline : Timeline} {targetDurationNs : Int}
    {duration : WorkDuration} {number' : Nat} (hle : number' ≤ number + 1)
    (hsteady : ∀ frame ∈ timeline.frames.rtake number,
      0 < frame.startIntervalUs ∧ 3 * frame.startIntervalUs < 2 ^ 31)
    (hnext : 0 < number' → 0 < timeline.nextInterval duration ∧
      3 * timeline.nextInterval duration < 2 ^ 31) :
    ∀ frame ∈ (timeline.add platform jankCheckTimeFactor targetDurationNs
      duration).frames.rtake number',
        0 < frame.startIntervalUs ∧ 3 * frame.startIntervalUs < 2 ^ 31 := by
  intro frame hframe
  cases number' with
  | zero =>
    rw [List.rtake_zero] at hframe
    exact absurd hframe List.not_mem_nil
  | succ before =>
    rw [Timeline.add, List.rtake_concat_succ] at hframe
    rcases List.mem_append.mp hframe with hold | hnew
    · exact hsteady frame (mem_rtake_of_le (by omega) hold)
    · rw [List.mem_singleton.mp hnew]
      exact hnext (Nat.succ_pos before)

theorem sumsSteady_zero {timeline : Timeline}
    (hsums : Observed.Sums capacity jankCheckTimeFactor 0
      ⟨records, timeline⟩) :
    SumsSteady capacity jankCheckTimeFactor 0 records := by
  refine ⟨timeline, hsums, ?_⟩
  intro frame hframe
  rw [List.rtake_zero] at hframe
  exact absurd hframe List.not_mem_nil

section Report

variable {timeline : Timeline} {targetDurationNs : Int}
variable {duration : WorkDuration}

section

variable (hcapacity : 3 ≤ capacity)
  (hsums : Observed.Sums capacity jankCheckTimeFactor number ⟨records,
    timeline⟩)
include hcapacity hsums

/-- A frame that has an interval, or comes while frames are summed, has one
before it. -/
theorem Observed.Sums.nextInterval_steady (hsteady : records.Steady platform
      (.report targetDurationNs true duration))
    (hsome : 0 < number ∨ 0 < timeline.nextInterval duration) :
    0 < timeline.nextInterval duration ∧
      3 * timeline.nextInterval duration < 2 ^ 31 := by
  obtain ⟨stored, hfollows⟩ := hsums.follows
  have hinterval : records.nextInterval platform duration =
      timeline.nextInterval duration := hfollows.nextInterval_eq (by omega)
  have hframes : 0 < records.mNumOfFrames ↔ 0 < timeline.frames.length :=
    hfollows.mNumOfFrames_pos_iff
  have hlength : number ≤ timeline.frames.length := hsums.le_length
  rw [SessionRecords.Steady, hinterval, hframes] at hsteady
  apply hsteady
  by_contra hnoFrame
  have hempty : timeline.frames.length = 0 := by omega
  have hzero : timeline.nextInterval duration = 0 :=
    hfollows.nextInterval_of_empty hempty duration
  omega

theorem Observed.Sums.regular_of_steady
    (hpositive : ∀ frame ∈ timeline.frames.rtake number,
      0 < frame.startIntervalUs ∧ 3 * frame.startIntervalUs < 2 ^ 31)
    (hsteady : records.Steady platform
      (.report targetDurationNs true duration)) :
    Observed.Regular ⟨records, timeline⟩
      (.report targetDurationNs true duration) := by
  have hnext := fun hsome =>
    hsums.nextInterval_steady hcapacity hsteady hsome
  have hlength : number ≤ timeline.frames.length := hsums.le_length
  have hadded : records.mAddedFramesForFPSCheck = number := hsums.added
  intro _
  constructor
  · intro (hsome : 0 < records.mAddedFramesForFPSCheck) _
    exact (hnext (.inl (by omega))).1
  · intro (htwo : 2 ≤ records.mAddedFramesForFPSCheck)
    have htwice : ∀ frame ∈ timeline.frames.rtake 2,
        0 < frame.startIntervalUs ∧ 3 * frame.startIntervalUs < 2 ^ 31 :=
      fun frame hframe =>
        hpositive frame (mem_rtake_of_le (by omega) hframe)
    have hbounds := timeline.intervalSum_bounds (by omega) htwice
    have hlast := hnext (.inl (by omega))
    dsimp only
    omega

end

end Report

/-- A frame that starts after the one before is added to the sum. -/
theorem SumsSteady.report (hcapacity : 3 ≤ capacity)
    (hsums : SumsSteady capacity jankCheckTimeFactor number records)
    {targetDurationNs : Int} {duration : WorkDuration}
    (hsteady : records.Steady platform
      (.report targetDurationNs true duration)) :
    ∃ number', SumsSteady capacity jankCheckTimeFactor number'
        (records.frameCall platform
          (.report targetDurationNs true duration)) ∧
      (0 < records.mNumOfFrames → 0 < number') := by
  obtain ⟨timeline, hsums, hpositive⟩ := hsums
  obtain ⟨stored, hfollows⟩ := hsums.follows
  have hinterval : records.nextInterval platform duration =
      timeline.nextInterval duration := hfollows.nextInterval_eq (by omega)
  have hthree := hsums.le_three
  have hregular := hsums.regular_of_steady hcapacity hpositive hsteady
  refine ⟨_, ⟨_, hsums.report hcapacity hregular, ?_⟩, ?_⟩
  · apply Timeline.steady_add _ hpositive
    · intro hsome
      apply hsums.nextInterval_steady hcapacity hsteady
      dsimp only at hsome
      split_ifs at hsome with hgrows
      · exact .inr hgrows.2
      · exact .inl hsome
    · split_ifs <;> omega
  · intro hsome
    have hlast := hsteady hsome
    rw [hinterval] at hlast
    dsimp only
    split_ifs with hgrows
    · exact Nat.succ_pos number
    · omega

section

variable (hsums : SumsSteady capacity jankCheckTimeFactor number records)
include hsums

/-- Frames outside game mode leave the sum empty. -/
theorem SumsSteady.report_plain (targetDurationNs : Int)
    (duration : WorkDuration) :
    SumsSteady capacity jankCheckTimeFactor 0
      (records.frameCall platform
        (.report targetDurationNs false duration)) := by
  obtain ⟨timeline, hsums, -⟩ := hsums
  obtain ⟨stored, hfollows⟩ := hsums.follows
  have hnext := hfollows.frameCall platform
    (.report targetDurationNs false duration)
  exact sumsSteady_zero (Observed.sums_zero hnext rfl rfl)

theorem SumsSteady.resetRecords (hnone : records.mAddedFramesForFPSCheck = 0) :
    SumsSteady capacity jankCheckTimeFactor 0 records.resetRecords := by
  obtain ⟨timeline, hsums, -⟩ := hsums
  obtain ⟨stored, hfollows⟩ := hsums.follows
  exact sumsSteady_zero (Observed.sums_zero ⟨[], hfollows.resetRecords⟩
    hnone (hsums.sum_eq_zero hnone))

theorem mNumOfFrames_report_pos (targetDurationNs : Int)
    (computeGameMetrics : Bool) (duration : WorkDuration) :
    0 < (records.frameCall platform (.report targetDurationNs
      computeGameMetrics duration)).mNumOfFrames := by
  obtain ⟨timeline, hsums, -⟩ := hsums
  obtain ⟨stored, hfollows⟩ := hsums.follows
  have hnext := @Follows.addReportedDuration platform _ _ _ _ _ hfollows
    targetDurationNs computeGameMetrics {} duration
  rw [SessionRecords.frameCall, hnext.mNumOfFrames_pos_iff, Timeline.add]
  simp

end

/-- A batch of steady frames, unless it is the first frame alone, leaves a sum
of some frames. -/
theorem SumsSteady.batch (hcapacity : 3 ≤ capacity)
    (hsums : SumsSteady capacity jankCheckTimeFactor number records)
    {targetDurationNs : Int} {durations : List WorkDuration}
    (hsteady : RunMeets (SessionRecords.frameStep platform)
      (SessionRecords.Steady platform) records
      (durations.map (.report targetDurationNs true)))
    (hnonempty : durations ≠ [])
    (hsome : 0 < records.mNumOfFrames ∨ 2 ≤ durations.length) :
    ∃ number', SumsSteady capacity jankCheckTimeFactor number'
        ((durations.map (FrameCall.report targetDurationNs true)).foldl
          (SessionRecords.frameCall platform) records) ∧ 0 < number' := by
  induction durations generalizing records number with
  | nil => exact absurd rfl hnonempty
  | cons duration rest ih =>
    obtain ⟨hfirst, hrest⟩ := hsteady _ rfl
    obtain ⟨number', hnext, hgrown⟩ := hsums.report hcapacity hfirst
    rw [List.map_cons, List.foldl_cons]
    by_cases hlast : rest = []
    · subst hlast
      rw [List.length_singleton] at hsome
      exact ⟨number', hnext, hgrown (by omega)⟩
    · exact ih hnext hrest hlast (.inl (mNumOfFrames_report_pos hsums _ _ _))

/-- A batch outside game mode. -/
theorem SumsSteady.batch_plain
    (hsums : SumsSteady capacity jankCheckTimeFactor number records)
    (targetDurationNs : Int) (durations : List WorkDuration) :
    ∃ number', SumsSteady capacity jankCheckTimeFactor number'
      ((durations.map (FrameCall.report targetDurationNs false)).foldl
        (SessionRecords.frameCall platform) records) := by
  induction durations generalizing records number with
  | nil => exact ⟨number, hsums⟩
  | cons duration rest ih => exact ih (hsums.report_plain _ _)

theorem sumsSteady_new {maxNumOfRecords : Int}
    (hpositive : 1 ≤ maxNumOfRecords) (hsmall : maxNumOfRecords < 2 ^ 31)
    (jankCheckTimeFactor : ℚ) :
    SumsSteady maxNumOfRecords.toNat jankCheckTimeFactor 0
      (SessionRecords.new maxNumOfRecords jankCheckTimeFactor) :=
  sumsSteady_zero (Observed.sums_new hpositive hsmall jankCheckTimeFactor)

end Steady

end HardwareInterfaces.FrameRecords

import HardwareInterfaces.Core.MachineArithmetic

/-!
# The PID controller of a hint session

A report is turned into a change of the boost by a PID controller.  Errors are
the differences between the reported durations and the target, in units of
100 us.  One loop goes over the samples of the batch and keeps a sum of errors,
the integral error and a sum of error differences, each over the last samples
of its own window.  The integral error and the last error stay in the
descriptor of the session.

The messages to the log and the trace are left out; the quotients that are only
computed for the trace are kept where it matters whether they are defined.
-/

namespace HardwareInterfaces.Pid

open MachineArithmetic

/-- The part of an ADPF profile that the controller reads.  A window of zero
stands for the whole batch. -/
structure PidConfig where
  mSamplingWindowP : Nat
  mSamplingWindowI : Nat
  mSamplingWindowD : Nat
  mPidPo : ℚ
  mPidPu : ℚ
  mPidI : ℚ
  mPidDo : ℚ
  mPidDu : ℚ
  /-- The results of `getPidIHighDivI` and `getPidILowDivI`. -/
  pidIHighDivI : Int
  pidILowDivI : Int

/-- What the controller keeps in the descriptor of a session. -/
structure PidState where
  integralError : Int := 0
  previousError : Int := 0
  deriving DecidableEq, Repr

def nsTo100us (ns : Int) : Int := ns.tdiv 100000

/-- The error of a sample. -/
def sampleError (targetDurationNanos actualDurationNanos : Int) : Int :=
  nsTo100us (int64 (actualDurationNanos - targetDurationNanos))

/-- The index of the first sample in a window. -/
def windowStart (samplingWindow length : Nat) : Nat :=
  if samplingWindow = 0 ∨ length < samplingWindow then 0
  else length - samplingWindow

/-- The variables of the loop over the samples. -/
structure PidLoop extends PidState where
  errSum : Int := 0
  derivativeSum : Int := 0
  deriving DecidableEq, Repr

namespace PidConfig

variable (config : PidConfig) (targetDurationNanos : Int) (length : Nat)

def pStart : Nat := windowStart config.mSamplingWindowP length

def iStart : Nat := windowStart config.mSamplingWindowI length

def dStart : Nat := windowStart config.mSamplingWindowD length

def loopStart : Nat :=
  min (config.pStart length) (min (config.iStart length) (config.dStart length))

/-- The bounds of the integral error; the lower one is applied last. -/
def clampIntegral (integralError : Int) : Int :=
  max config.pidILowDivI (min config.pidIHighDivI integralError)

/-- The body of the loop, for a sample and its index. -/
def iterate (loop : PidLoop) (sample : Int × Nat) : PidLoop :=
  let dt := nsTo100us targetDurationNanos
  let error := sampleError targetDurationNanos sample.1
  { integralError :=
      if config.iStart length ≤ sample.2 then
        config.clampIntegral (int64 (loop.integralError + int64 (error * dt)))
      else loop.integralError
    previousError := error
    errSum :=
      if config.pStart length ≤ sample.2 then int64 (loop.errSum + error)
      else loop.errSum
    derivativeSum :=
      if config.dStart length ≤ sample.2 then
        int64 (loop.derivativeSum + int64 (error - loop.previousError))
      else loop.derivativeSum }

/-- The samples that the loop visits, with their indexes. -/
def samples (actualDurations : List Int) : List (Int × Nat) :=
  let start := config.loopStart actualDurations.length
  (actualDurations.drop start).zipIdx start

/-- The loop of `convertWorkDurationToBoostByPid`. -/
def pidLoop (state : PidState) (actualDurations : List Int) : PidLoop :=
  (config.samples actualDurations).foldl
    (config.iterate targetDurationNanos actualDurations.length) ⟨state, 0, 0⟩

end PidConfig

/-! ## The output -/

section Output

variable (rounding : Rounding) (config : PidConfig) (pidPuActive : ℚ)
variable (length : Nat) (dt : Int) (loop : PidLoop)

def pOut : Int :=
  let round := rounding.round
  let gain := if 0 < loop.errSum then config.mPidPo else pidPuActive
  truncate (round (round (gain * round loop.errSum) /
    round (length - config.pStart length : Nat)))

def iOut : Int :=
  let round := rounding.round
  truncate (round (config.mPidI * round loop.integralError))

def dOut : Int :=
  let round := rounding.round
  let gain := if 0 < loop.derivativeSum then config.mPidDo else config.mPidDu
  truncate (round (round (round (gain * round loop.derivativeSum) / round dt) /
    round (length - config.dStart length : Nat)))

end Output

/-- The output and the state that the controller leaves.  The gain for negative
errors depends on the heuristic boost and is passed in. -/
def convertWorkDurationToBoostByPid (rounding : Rounding) (config : PidConfig)
    (pidPuActive : ℚ) (targetDurationNanos : Int) (state : PidState)
    (actualDurations : List Int) : Int × PidState :=
  let length := actualDurations.length
  let dt := nsTo100us targetDurationNanos
  let loop := config.pidLoop targetDurationNanos state actualDurations
  (int64 (pOut rounding config pidPuActive length loop +
      iOut rounding config loop + dOut rounding config length dt loop),
    loop.toPidState)

/-! ## The derivative term -/

theorem sampleError_mem_Icc (targetDurationNanos actualDurationNanos : Int) :
    -2 ^ 47 ≤ sampleError targetDurationNanos actualDurationNanos ∧
      sampleError targetDurationNanos actualDurationNanos ≤ 2 ^ 47 := by
  have hlower := le_int64 (actualDurationNanos - targetDurationNanos)
  have hupper := int64_lt (actualDurationNanos - targetDurationNanos)
  exact tdiv_mem_Icc (by norm_num) (by norm_num) (by norm_num) (by omega)
    (by omega)

theorem windowStart_le (samplingWindow length : Nat) :
    windowStart samplingWindow length ≤ length := by
  rw [windowStart]
  split_ifs <;> omega

theorem windowStart_lt (samplingWindow : Nat) {length : Nat}
    (hlength : 0 < length) : windowStart samplingWindow length < length := by
  rw [windowStart]
  split_ifs <;> omega

section Loop

variable {config : PidConfig} {targetDurationNanos : Int} {length : Nat}

/-- After the loop the previous error is that of the last sample. -/
theorem previousError_foldl (durations : List Int) (start : Nat)
    (loop : PidLoop) :
    ((durations.zipIdx start).foldl (config.iterate targetDurationNanos length)
        loop).previousError =
      durations.getLast?.elim loop.previousError
        (sampleError targetDurationNanos) := by
  induction durations generalizing start loop with
  | nil => rfl
  | cons duration rest ih =>
    rw [List.zipIdx_cons, List.foldl_cons, ih, List.getLast?_cons]
    cases rest.getLast? <;> rfl

/-- Before its window the derivative sum does not change. -/
theorem derivativeSum_foldl_before (durations : List Int) (start : Nat)
    (loop : PidLoop)
    (hbefore : start + durations.length ≤ config.dStart length) :
    ((durations.zipIdx start).foldl (config.iterate targetDurationNanos length)
        loop).derivativeSum = loop.derivativeSum := by
  induction durations generalizing start loop with
  | nil => rfl
  | cons duration rest ih =>
    rw [List.length_cons] at hbefore
    rw [List.zipIdx_cons, List.foldl_cons, ih _ _ (by omega)]
    exact if_neg (by dsimp only; omega)

/-- In its window the differences add up to that between the previous error
and the one at the start. -/
theorem derivativeSum_foldl_window {base : Int}
    (hbase : -2 ^ 47 ≤ base ∧ base ≤ 2 ^ 47) (durations : List Int)
    (start : Nat) (loop : PidLoop)
    (hwindow : config.dStart length ≤ start)
    (hsum : loop.derivativeSum = loop.previousError - base)
    (hbounded : -2 ^ 47 ≤ loop.previousError ∧
      loop.previousError ≤ 2 ^ 47) :
    let last := (durations.zipIdx start).foldl
      (config.iterate targetDurationNanos length) loop
    last.derivativeSum = last.previousError - base := by
  induction durations generalizing start loop with
  | nil => exact hsum
  | cons duration rest ih =>
    have herror := sampleError_mem_Icc targetDurationNanos duration
    rw [List.zipIdx_cons, List.foldl_cons]
    apply ih (start + 1) _ (by omega) _ herror
    have hdifference : int64 (sampleError targetDurationNanos duration -
        loop.previousError) =
          sampleError targetDurationNanos duration - loop.previousError :=
      int64_eq_self (by omega) (by omega)
    rw [PidConfig.iterate]
    dsimp only
    rw [if_pos hwindow, hdifference, hsum, sub_add_sub_cancel']
    exact int64_eq_self (by omega) (by omega)

end Loop

/-- What is passed to the controller at a report. -/
structure PidReport where
  config : PidConfig
  targetDurationNanos : Int
  actualDurations : List Int
  nonempty : actualDurations ≠ []

namespace PidReport

variable (report : PidReport)

def dStart : Nat := report.config.dStart report.actualDurations.length

/-- The error of a sample of the report. -/
def errorAt (index : Nat) : Int :=
  sampleError report.targetDurationNanos
    (report.actualDurations.getD index 0)

def lastError : Int :=
  sampleError report.targetDurationNanos
    (report.actualDurations.getLast report.nonempty)

def loop (state : PidState) : PidLoop :=
  report.config.pidLoop report.targetDurationNanos state
    report.actualDurations

/-- The state after some reports to a new session. -/
def stateAfter (history : List PidReport) : PidState :=
  history.foldl (fun state report => (report.loop state).toPidState) {}

/-- The error of the last sample of the last report, zero if there is none. -/
def errorBefore (history : List PidReport) : Int :=
  history.getLast?.elim 0 lastError

/-- The error of the sample that was reported right before the window of the
derivative term. -/
def precedingError (history : List PidReport) : Int :=
  if report.dStart = 0 then errorBefore history
  else report.errorAt (report.dStart - 1)

/-- The window covers the batch, the loop starts before it, or the two samples
in question have the same error. -/
def SeesPreceding (history : List PidReport) : Prop :=
  report.dStart = 0 ∨
    report.config.pStart report.actualDurations.length < report.dStart ∨
    report.config.iStart report.actualDurations.length < report.dStart ∨
    errorBefore history = report.errorAt (report.dStart - 1)

/-- The samples before the window of the derivative term. -/
def samplesBefore : List Int :=
  (report.actualDurations.take report.dStart).drop
    (report.config.loopStart report.actualDurations.length)

/-- The loop first visits the samples before the window of the derivative
term. -/
theorem loop_eq_foldl (state : PidState) :
    report.loop state =
      ((report.actualDurations.drop report.dStart).zipIdx
        report.dStart).foldl
          (report.config.iterate report.targetDurationNanos
            report.actualDurations.length)
        ((report.samplesBefore.zipIdx (report.config.loopStart
          report.actualDurations.length)).foldl
            (report.config.iterate report.targetDurationNanos
              report.actualDurations.length) ⟨state, 0, 0⟩) := by
  have hstart : report.config.loopStart report.actualDurations.length ≤
      report.dStart := (min_le_right _ _).trans (min_le_right _ _)
  have hend : report.dStart ≤ report.actualDurations.length :=
    windowStart_le _ _
  have hlength : report.samplesBefore.length = report.dStart -
      report.config.loopStart report.actualDurations.length := by
    rw [samplesBefore, List.length_drop, List.length_take, Nat.min_eq_left hend]
  have hsplit : report.actualDurations.drop
      (report.config.loopStart report.actualDurations.length) =
        report.samplesBefore ++ report.actualDurations.drop report.dStart := by
    rw [samplesBefore, ← List.drop_append_of_le_length
      (by rw [List.length_take]; omega), List.take_append_drop]
  rw [loop, PidConfig.pidLoop, PidConfig.samples, hsplit,
    List.zipIdx_append, List.foldl_append, hlength, Nat.add_sub_of_le hstart]

theorem dStart_lt : report.dStart < report.actualDurations.length :=
  windowStart_lt _ (List.length_pos_iff.mpr report.nonempty)

theorem loop_previousError (state : PidState) :
    (report.loop state).previousError = report.lastError := by
  have hwindow : report.actualDurations.drop report.dStart ≠ [] := by
    have hlt := report.dStart_lt
    exact List.length_pos_iff.mp (by rw [List.length_drop]; omega)
  rw [loop_eq_foldl, previousError_foldl, List.getLast?_eq_some_getLast hwindow,
    List.getLast_drop]
  rfl

theorem getLast?_samplesBefore :
    report.samplesBefore.getLast? =
      if report.config.loopStart report.actualDurations.length <
        report.dStart then
          some (report.actualDurations.getD (report.dStart - 1) 0)
      else none := by
  have hend := report.dStart_lt
  rw [samplesBefore, List.getLast?_drop, List.length_take,
    Nat.min_eq_left hend.le]
  split_ifs with hempty hlt hlt
  · omega
  · rfl
  · rw [List.getLast?_take, if_neg (by omega),
      List.getElem?_eq_getElem (by omega), List.getD_eq_getElem?_getD,
      List.getElem?_eq_getElem (by omega)]
    rfl
  · omega

/-- What the derivative term compares the last error with. -/
theorem loop_derivativeSum {state : PidState}
    (hbounded : -2 ^ 47 ≤ state.previousError ∧
      state.previousError ≤ 2 ^ 47) :
    (report.loop state).derivativeSum =
      report.lastError -
        if report.config.loopStart report.actualDurations.length <
          report.dStart then report.errorAt (report.dStart - 1)
        else state.previousError := by
  have hstart : report.config.loopStart report.actualDurations.length ≤
      report.dStart := (min_le_right _ _).trans (min_le_right _ _)
  have hlength : report.samplesBefore.length = report.dStart -
      report.config.loopStart report.actualDurations.length := by
    rw [samplesBefore, List.length_drop, List.length_take,
      Nat.min_eq_left report.dStart_lt.le]
  rw [← report.loop_previousError state, loop_eq_foldl]
  have hprevious := @previousError_foldl report.config
    report.targetDurationNanos report.actualDurations.length
    report.samplesBefore
    (report.config.loopStart report.actualDurations.length) ⟨state, 0, 0⟩
  have hunchanged := @derivativeSum_foldl_before report.config
    report.targetDurationNanos report.actualDurations.length
    report.samplesBefore
    (report.config.loopStart report.actualDurations.length) ⟨state, 0, 0⟩
    (by rw [hlength, Nat.add_sub_of_le hstart]; exact le_rfl)
  generalize (report.samplesBefore.zipIdx (report.config.loopStart
    report.actualDurations.length)).foldl _ _ = middle at hprevious hunchanged ⊢
  rw [getLast?_samplesBefore] at hprevious
  have hbase : middle.previousError =
      if report.config.loopStart report.actualDurations.length <
        report.dStart then report.errorAt (report.dStart - 1)
      else state.previousError := by
    rw [hprevious]
    split_ifs <;> rfl
  have hmiddle : -2 ^ 47 ≤ middle.previousError ∧
      middle.previousError ≤ 2 ^ 47 := by
    rw [hbase]
    split_ifs
    · exact sampleError_mem_Icc _ _
    · exact hbounded
  rw [← hbase]
  exact derivativeSum_foldl_window hmiddle _ _ middle le_rfl
    (by rw [hunchanged, sub_self]) hmiddle

theorem stateAfter_previousError (history : List PidReport) :
    (stateAfter history).previousError = errorBefore history := by
  induction history using List.reverseRecOn with
  | nil => rfl
  | append_singleton history report =>
    rw [stateAfter, List.foldl_append, errorBefore, List.getLast?_concat]
    exact report.loop_previousError _

theorem errorBefore_mem_Icc (history : List PidReport) :
    -2 ^ 47 ≤ errorBefore history ∧ errorBefore history ≤ 2 ^ 47 := by
  rw [errorBefore]
  cases history.getLast? with
  | none => norm_num
  | some report => exact sampleError_mem_Icc _ _

/-- The derivative term compares the last error with that of the sample before
its window exactly when the loop starts early enough to see that sample. -/
theorem derivativeSum_eq_iff (history : List PidReport) :
    ((report.loop (stateAfter history)).derivativeSum =
          report.lastError - report.precedingError history ∧
        (report.loop (stateAfter history)).previousError =
          report.lastError) ↔
      report.SeesPreceding history := by
  have hprevious := stateAfter_previousError history
  have hstart : report.config.loopStart report.actualDurations.length <
        report.dStart ↔
      report.config.pStart report.actualDurations.length < report.dStart ∨
        report.config.iStart report.actualDurations.length <
          report.dStart := by
    rw [PidConfig.loopStart, min_lt_iff, min_lt_iff]
    exact or_congr_right (or_iff_left (lt_irrefl _))
  have hsees : report.SeesPreceding history ↔ report.dStart = 0 ∨
      report.config.loopStart report.actualDurations.length <
        report.dStart ∨
      errorBefore history = report.errorAt (report.dStart - 1) := by
    rw [SeesPreceding, hstart, or_assoc]
  rw [report.loop_derivativeSum (hprevious ▸ errorBefore_mem_Icc history),
    and_iff_left (report.loop_previousError _), sub_right_inj, hprevious,
    precedingError, hsees]
  split_ifs with hearly hzero hzero
  · omega
  · simp [hearly]
  · simp [hzero]
  · simp [hearly, hzero]

/-- A window of two samples for the derivative term and of one for the
others. -/
def sampleReport : PidReport where
  config := ⟨1, 1, 2, 1, 1, 1, 1, 1, 100, -100⟩
  targetDurationNanos := 10000000
  actualDurations := [12000000, 10000000, 11000000]
  nonempty := by decide

/-- The loop starts with the window, and its first sample is compared with the
initial error instead of the error of the sample before. -/
theorem derivativeSum_of_sample_report :
    (sampleReport.loop (stateAfter [])).derivativeSum = 10 ∧
      sampleReport.lastError - sampleReport.precedingError [] = -10 := by
  decide +kernel

end PidReport

end HardwareInterfaces.Pid

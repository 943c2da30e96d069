import HardwareInterfaces.Power.PidController

/-!
# When the arithmetic of the controller is defined

Signed operations of the controller that leave 64 bits are undefined, and so
are its divisions by zero and its casts of doubles that are too large.  The
conditions for each operation are collected here.  They are met by times of
moderate size, as long as the target is at least one unit of error: a shorter
target makes the divisor of the derivative term zero.
-/

namespace HardwareInterfaces.Pid

open MachineArithmetic

/-- The operations of one pass through the loop have results of 64 bits. -/
structure IterationDefined (config : PidConfig) (targetDurationNanos : Int)
    (length : Nat) (loop : PidLoop) (sample : Int × Nat) : Prop where
  magnitude : FitsInt64 |sample.1|
  scaledTarget : FitsInt64 (targetDurationNanos * 20)
  difference : FitsInt64 (sample.1 - targetDurationNanos)
  errorDifference : config.dStart length ≤ sample.2 →
    FitsInt64 (sampleError targetDurationNanos sample.1 - loop.previousError)
  derivativeSum : config.dStart length ≤ sample.2 →
    FitsInt64 (loop.derivativeSum +
      (sampleError targetDurationNanos sample.1 - loop.previousError))
  errSum : config.pStart length ≤ sample.2 →
    FitsInt64 (loop.errSum + sampleError targetDurationNanos sample.1)
  product : config.iStart length ≤ sample.2 →
    FitsInt64 (sampleError targetDurationNanos sample.1 *
      nsTo100us targetDurationNanos)
  integralError : config.iStart length ≤ sample.2 →
    FitsInt64 (loop.integralError +
      sampleError targetDurationNanos sample.1 *
        nsTo100us targetDurationNanos)

/-- Every pass through the loop is defined. -/
def LoopDefined (config : PidConfig) (targetDurationNanos : Int)
    (length : Nat) : PidLoop → List (Int × Nat) → Prop
  | _, [] => True
  | loop, sample :: rest =>
    IterationDefined config targetDurationNanos length loop sample ∧
      LoopDefined config targetDurationNanos length
        (config.iterate targetDurationNanos length loop sample) rest

/-- The operations after the loop, those for the trace included. -/
structure OutputDefined (rounding : Rounding) (config : PidConfig)
    (pidPuActive : ℚ) (length : Nat) (dt : Int) (loop : PidLoop) : Prop where
  pLength : length - config.pStart length ≠ 0
  dLength : length - config.dStart length ≠ 0
  divisor : dt ≠ 0
  quotient : FitsInt64 (loop.derivativeSum.tdiv dt)
  pOut : FitsInt64 (pOut rounding config pidPuActive length loop)
  iOut : FitsInt64 (iOut rounding config loop)
  dOut : FitsInt64 (dOut rounding config length dt loop)
  proportionalIntegral : FitsInt64
    (Pid.pOut rounding config pidPuActive length loop +
      Pid.iOut rounding config loop)
  output : FitsInt64
    (Pid.pOut rounding config pidPuActive length loop +
      Pid.iOut rounding config loop + Pid.dOut rounding config length dt loop)

/-- `convertWorkDurationToBoostByPid` does nothing undefined. -/
structure ConvertDefined (rounding : Rounding) (config : PidConfig)
    (pidPuActive : ℚ) (targetDurationNanos : Int) (state : PidState)
    (actualDurations : List Int) : Prop where
  loop : LoopDefined config targetDurationNanos actualDurations.length
    ⟨state, 0, 0⟩ (config.samples actualDurations)
  output : OutputDefined rounding config pidPuActive actualDurations.length
    (nsTo100us targetDurationNanos)
    (config.pidLoop targetDurationNanos state actualDurations)

/-! ## Moderate sizes -/

/-- A configuration whose gains and bounds are not extreme. -/
structure PidConfig.Moderate (config : PidConfig) : Prop where
  po : |config.mPidPo| ≤ 2 ^ 10
  i : |config.mPidI| ≤ 2 ^ 10
  do_ : |config.mPidDo| ≤ 2 ^ 10
  du : |config.mPidDu| ≤ 2 ^ 10
  high : |config.pidIHighDivI| ≤ 2 ^ 43
  low : |config.pidILowDivI| ≤ 2 ^ 43

/-- What the controller keeps after reports of moderate size. -/
structure PidState.Moderate (state : PidState) : Prop where
  integralError : |state.integralError| ≤ 2 ^ 43
  previousError : |state.previousError| ≤ 2 ^ 25

/-- A target of at least one unit and at most some minutes. -/
structure ModerateTarget (targetDurationNanos : Int) : Prop where
  unit_le : 100000 ≤ |targetDurationNanos|
  le : |targetDurationNanos| ≤ 2 ^ 40

/-- A batch of samples of at most some minutes. -/
structure ModerateBatch (actualDurations : List Int) : Prop where
  nonempty : actualDurations ≠ []
  length_le : actualDurations.length ≤ 2 ^ 16
  duration_le : ∀ duration ∈ actualDurations, |duration| ≤ 2 ^ 40

theorem abs_nsTo100us_le {ns bound : Int} (hbound : |ns| ≤ bound * 100000) :
    |nsTo100us ns| ≤ bound := by
  obtain ⟨hlower, hupper⟩ := abs_le.mp hbound
  have hnonneg : 0 ≤ bound := by
    have := abs_nonneg ns
    omega
  exact abs_le.mpr (tdiv_mem_Icc (by norm_num) (by omega) hnonneg (by omega)
    hupper)

theorem nsTo100us_ne_zero {ns : Int} (hunit : 100000 ≤ |ns|) :
    nsTo100us ns ≠ 0 := by
  have hnatAbs : (nsTo100us ns).natAbs = ns.natAbs / 100000 :=
    Int.natAbs_tdiv ns 100000
  rw [Int.abs_eq_natAbs] at hunit
  omega

section Iteration

variable {config : PidConfig} {targetDurationNanos : Int} {length : Nat}

/-- Bounds of the variables after some passes through the loop. -/
structure PidLoop.Bounded (passes : Nat) (loop : PidLoop) : Prop
    extends loop.toPidState.Moderate where
  errSum : |loop.errSum| ≤ 2 ^ 25 * passes
  derivativeSum : |loop.derivativeSum| ≤ 2 ^ 26 * passes

variable {duration : Int}

section

variable (htarget : ModerateTarget targetDurationNanos)
include htarget

theorem difference_le (hduration : |duration| ≤ 2 ^ 40) :
    |duration - targetDurationNanos| ≤ 2 ^ 41 := by
  have hsub := abs_sub duration targetDurationNanos
  have hle := htarget.le
  omega

theorem sampleError_le (hduration : |duration| ≤ 2 ^ 40) :
    |sampleError targetDurationNanos duration| ≤ 2 ^ 25 := by
  have hdifference := difference_le htarget hduration
  rw [sampleError, (fitsInt64_of_abs_le (by omega)).int64_eq]
  exact abs_nsTo100us_le (by omega)

theorem dt_le : |nsTo100us targetDurationNanos| ≤ 2 ^ 24 := by
  have hle := htarget.le
  exact abs_nsTo100us_le (by omega)

theorem product_le (hduration : |duration| ≤ 2 ^ 40) :
    |sampleError targetDurationNanos duration *
        nsTo100us targetDurationNanos| ≤ 2 ^ 49 := by
  calc |sampleError targetDurationNanos duration *
          nsTo100us targetDurationNanos|
      = |sampleError targetDurationNanos duration| *
          |nsTo100us targetDurationNanos| := abs_mul _ _
    _ ≤ 2 ^ 25 * 2 ^ 24 :=
        mul_le_mul (sampleError_le htarget hduration) (dt_le htarget)
          (abs_nonneg _) (by norm_num)
    _ = 2 ^ 49 := by norm_num

end

theorem clampIntegral_le (hconfig : config.Moderate) (integralError : Int) :
    |config.clampIntegral integralError| ≤ 2 ^ 43 := by
  obtain ⟨hlow, hlow'⟩ := abs_le.mp hconfig.low
  obtain ⟨-, hhigh⟩ := abs_le.mp hconfig.high
  rw [PidConfig.clampIntegral, abs_le]
  omega

variable {passes : Nat}

/-- The sums grow by at most one bound with each sample. -/
theorem abs_add_le_succ {sum term bound : Int} (hsum : |sum| ≤ bound * passes)
    (hterm : |term| ≤ bound) : |sum + term| ≤ bound * (passes + 1 : Nat) := by
  calc |sum + term| ≤ |sum| + |term| := abs_add_le sum term
    _ ≤ bound * passes + bound := add_le_add hsum hterm
    _ = bound * (passes + 1 : Nat) := by rw [Nat.cast_succ, mul_add_one]

variable {loop : PidLoop}

theorem errorDifference_le (hstate : loop.toPidState.Moderate)
    (htarget : ModerateTarget targetDurationNanos)
    (hduration : |duration| ≤ 2 ^ 40) :
    |sampleError targetDurationNanos duration - loop.previousError| ≤
      2 ^ 26 := by
  have hsub := abs_sub (sampleError targetDurationNanos duration)
    loop.previousError
  have herror := sampleError_le htarget hduration
  have hprevious := hstate.previousError
  omega

theorem PidLoop.Bounded.iterationDefined (hbounded : loop.Bounded passes)
    (hpasses : passes ≤ 2 ^ 16) (htarget : ModerateTarget targetDurationNanos)
    {sample : Int × Nat} (hsample : |sample.1| ≤ 2 ^ 40) :
    IterationDefined config targetDurationNanos length loop sample := by
  have htargetLe := htarget.le
  have hproduct := product_le htarget hsample
  have herror := errorDifference_le hbounded.toModerate htarget hsample
  constructor
  · apply fitsInt64_of_abs_le
    rw [abs_abs]
    omega
  · apply fitsInt64_of_abs_le
    rw [abs_mul, abs_of_nonneg (by norm_num : (0 : Int) ≤ 20)]
    omega
  · have hdifference := difference_le htarget hsample
    exact fitsInt64_of_abs_le (by omega)
  · intro _
    exact fitsInt64_of_abs_le (by omega)
  · intro _
    have hsum := abs_add_le_succ hbounded.derivativeSum herror
    exact fitsInt64_of_abs_le (by omega)
  · intro _
    have hsum := abs_add_le_succ hbounded.errSum
      (sampleError_le htarget hsample)
    exact fitsInt64_of_abs_le (by omega)
  · intro _
    exact fitsInt64_of_abs_le (by omega)
  · intro _
    have hsum := abs_add_le loop.integralError
      (sampleError targetDurationNanos sample.1 * nsTo100us targetDurationNanos)
    have hintegral := hbounded.integralError
    exact fitsInt64_of_abs_le (by omega)

/-- A sum that a sample may leave alone. -/
theorem PidLoop.Bounded.sum_le {sum term bound : Int} {included : Prop}
    [Decidable included] (hbound : 0 ≤ bound) (hsum : |sum| ≤ bound * passes)
    (hterm : |term| ≤ bound) (hfits : included → FitsInt64 (sum + term)) :
    |if included then int64 (sum + term) else sum| ≤
      bound * (passes + 1 : Nat) := by
  split_ifs with hincluded
  · rw [(hfits hincluded).int64_eq]
    exact abs_add_le_succ hsum hterm
  · refine hsum.trans (mul_le_mul_of_nonneg_left ?_ hbound)
    exact_mod_cast Nat.le_succ passes

theorem PidLoop.Bounded.iterate (hbounded : loop.Bounded passes)
    (hpasses : passes ≤ 2 ^ 16) (hconfig : config.Moderate)
    (htarget : ModerateTarget targetDurationNanos) {sample : Int × Nat}
    (hsample : |sample.1| ≤ 2 ^ 40) :
    (config.iterate targetDurationNanos length loop sample).Bounded
      (passes + 1) := by
  have hdefined : IterationDefined config targetDurationNanos length loop
      sample := hbounded.iterationDefined hpasses htarget hsample
  have herror := errorDifference_le hbounded.toModerate htarget hsample
  refine ⟨⟨?_, sampleError_le htarget hsample⟩, ?_, ?_⟩
  · rw [PidConfig.iterate]
    dsimp only
    split_ifs
    · exact clampIntegral_le hconfig _
    · exact hbounded.integralError
  · exact PidLoop.Bounded.sum_le (by norm_num) hbounded.errSum
      (sampleError_le htarget hsample) hdefined.errSum
  · rw [PidConfig.iterate]
    dsimp only
    rw [(fitsInt64_of_abs_le (herror.trans (by norm_num))).int64_eq]
    exact PidLoop.Bounded.sum_le (by norm_num) hbounded.derivativeSum herror
      hdefined.derivativeSum

/-- The loop over samples of moderate size. -/
theorem loopDefined_of_bounded (hconfig : config.Moderate)
    (htarget : ModerateTarget targetDurationNanos)
    {samples : List (Int × Nat)}
    (hsamples : ∀ sample ∈ samples, |sample.1| ≤ 2 ^ 40)
    (hbounded : loop.Bounded passes)
    (hpasses : passes + samples.length ≤ 2 ^ 16) :
    LoopDefined config targetDurationNanos length loop samples ∧
      (samples.foldl (config.iterate targetDurationNanos length)
        loop).Bounded (passes + samples.length) := by
  induction samples generalizing passes loop with
  | nil => exact ⟨trivial, hbounded⟩
  | cons sample rest ih =>
    obtain ⟨hsample, hrest⟩ := List.forall_mem_cons.mp hsamples
    rw [List.length_cons] at hpasses
    have hnext : (config.iterate targetDurationNanos length loop
        sample).Bounded (passes + 1) :=
      hbounded.iterate (by omega) hconfig htarget hsample
    obtain ⟨hdefined, hlast⟩ := ih hrest hnext (by omega)
    refine ⟨⟨hbounded.iterationDefined (by omega) htarget hsample,
      hdefined⟩, ?_⟩
    rw [List.length_cons, ← Nat.add_assoc, Nat.add_right_comm]
    exact hlast

end Iteration

/-! ## The output -/

section Output

variable {rounding : Rounding} (hmono : Monotone rounding.round)

include hmono

/-- A sum times a gain. -/
theorem abs_round_gain_mul_le {gain : ℚ} {sum : Int}
    (hgain : |gain| ≤ 2 ^ 10) (hsum : |sum| ≤ 2 ^ 43) :
    |rounding.round (gain * rounding.round sum)| ≤ (2 ^ 53 : Int) := by
  have hround : |rounding.round sum| ≤ (2 ^ 43 : Int) := by
    apply Rounding.abs_round_le hmono (by norm_num)
    exact_mod_cast hsum
  apply Rounding.abs_round_le hmono le_rfl
  calc |gain * rounding.round sum| = |gain| * |rounding.round sum| :=
        abs_mul _ _
    _ ≤ 2 ^ 10 * (2 ^ 43 : Int) :=
        mul_le_mul hgain hround (abs_nonneg _) (by norm_num)
    _ = (2 ^ 53 : Int) := by norm_num

theorem abs_round_div_length_le {value : ℚ}
    (hvalue : |value| ≤ (2 ^ 53 : Int)) {length : Nat} (hpositive : length ≠ 0)
    (hsmall : length ≤ 2 ^ 16) :
    |rounding.round (value / rounding.round (length : Nat))| ≤
      (2 ^ 53 : Int) := by
  have hlength : |(length : Int)| ≤ 2 ^ 53 := by
    rw [Nat.abs_cast]
    exact_mod_cast hsmall.trans (by norm_num)
  have hquotient := Rounding.abs_round_div_le hmono le_rfl hvalue
    (Int.natCast_ne_zero.mpr hpositive) hlength
  rwa [Int.cast_natCast] at hquotient

variable {config : PidConfig} {pidPuActive : ℚ} {length : Nat} {dt : Int}
variable {loop : PidLoop}

section

variable (hconfig : config.Moderate)
include hconfig

theorem pOut_le (hgain : |pidPuActive| ≤ 2 ^ 10) (hpositive : length ≠ 0)
    (hsmall : length ≤ 2 ^ 16) (hsum : |loop.errSum| ≤ 2 ^ 43) :
    |pOut rounding config pidPuActive length loop| ≤ 2 ^ 53 := by
  have hwindow : length - config.pStart length ≠ 0 := by
    have hlt : config.pStart length < length :=
      windowStart_lt _ (Nat.pos_of_ne_zero hpositive)
    omega
  apply abs_truncate_le
  apply abs_round_div_length_le hmono _ hwindow (by omega)
  apply abs_round_gain_mul_le hmono _ hsum
  split_ifs
  · exact hconfig.po
  · exact hgain

theorem iOut_le (hintegral : |loop.integralError| ≤ 2 ^ 43) :
    |iOut rounding config loop| ≤ 2 ^ 53 :=
  abs_truncate_le (abs_round_gain_mul_le hmono hconfig.i hintegral)

theorem dOut_le (hpositive : length ≠ 0) (hsmall : length ≤ 2 ^ 16)
    (hdt : dt ≠ 0) (hdtSmall : |dt| ≤ 2 ^ 53)
    (hsum : |loop.derivativeSum| ≤ 2 ^ 43) :
    |dOut rounding config length dt loop| ≤ 2 ^ 53 := by
  have hwindow : length - config.dStart length ≠ 0 := by
    have hlt : config.dStart length < length :=
      windowStart_lt _ (Nat.pos_of_ne_zero hpositive)
    omega
  apply abs_truncate_le
  apply abs_round_div_length_le hmono _ hwindow (by omega)
  apply Rounding.abs_round_div_le hmono le_rfl _ hdt hdtSmall
  apply abs_round_gain_mul_le hmono _ hsum
  split_ifs
  · exact hconfig.do_
  · exact hconfig.du

theorem outputDefined_of_bounded (hgain : |pidPuActive| ≤ 2 ^ 10)
    (hpositive : length ≠ 0) (hsmall : length ≤ 2 ^ 16) (hdt : dt ≠ 0)
    (hdtSmall : |dt| ≤ 2 ^ 53) {passes : Nat} (hpasses : passes ≤ 2 ^ 16)
    (hbounded : loop.Bounded passes) :
    OutputDefined rounding config pidPuActive length dt loop := by
  have hstart : ∀ samplingWindow, windowStart samplingWindow length <
      length := fun samplingWindow =>
    windowStart_lt samplingWindow (Nat.pos_of_ne_zero hpositive)
  have herrSum : |loop.errSum| ≤ 2 ^ 43 := by
    have hsum := hbounded.errSum
    omega
  have hderivativeSum : |loop.derivativeSum| ≤ 2 ^ 43 := by
    have hsum := hbounded.derivativeSum
    omega
  have hp := pOut_le hmono hconfig hgain hpositive hsmall herrSum
  have hi := iOut_le hmono hconfig hbounded.integralError
  have hd := dOut_le hmono hconfig hpositive hsmall hdt hdtSmall hderivativeSum
  have hpi := abs_add_le (pOut rounding config pidPuActive length loop)
    (iOut rounding config loop)
  have hpid := abs_add_le (pOut rounding config pidPuActive length loop +
    iOut rounding config loop) (dOut rounding config length dt loop)
  constructor
  · exact Nat.sub_ne_zero_of_lt (hstart config.mSamplingWindowP)
  · exact Nat.sub_ne_zero_of_lt (hstart config.mSamplingWindowD)
  · exact hdt
  · apply fitsInt64_of_abs_le
    have hquotient : (loop.derivativeSum.tdiv dt).natAbs ≤
        loop.derivativeSum.natAbs := by
      rw [Int.natAbs_tdiv]
      exact Nat.div_le_self _ _
    rw [Int.abs_eq_natAbs] at hderivativeSum ⊢
    omega
  · exact fitsInt64_of_abs_le (by omega)
  · exact fitsInt64_of_abs_le (by omega)
  · exact fitsInt64_of_abs_le (by omega)
  · exact fitsInt64_of_abs_le (by omega)
  · exact fitsInt64_of_abs_le (by omega)

end

end Output

/-- Inputs of moderate size are converted without undefined arithmetic, and
leave a state of moderate size. -/
theorem convertDefined_of_moderate {rounding : Rounding}
    (hmono : Monotone rounding.round) {config : PidConfig} {pidPuActive : ℚ}
    {targetDurationNanos : Int} {state : PidState}
    {actualDurations : List Int} (hconfig : config.Moderate)
    (hgain : |pidPuActive| ≤ 2 ^ 10)
    (htarget : ModerateTarget targetDurationNanos) (hstate : state.Moderate)
    (hbatch : ModerateBatch actualDurations) :
    ConvertDefined rounding config pidPuActive targetDurationNanos state
        actualDurations ∧
      (config.pidLoop targetDurationNanos state
        actualDurations).toPidState.Moderate := by
  have hsamples : ∀ sample ∈ config.samples actualDurations,
      |sample.1| ≤ 2 ^ 40 := by
    intro sample hsample
    exact hbatch.duration_le sample.1
      (List.mem_of_mem_drop (List.fst_mem_of_mem_zipIdx hsample))
  have hlength : (config.samples actualDurations).length ≤
      actualDurations.length := by
    rw [PidConfig.samples, List.length_zipIdx, List.length_drop]
    exact Nat.sub_le _ _
  have hpasses := hlength.trans hbatch.length_le
  have hinit : PidLoop.Bounded 0 ⟨state, 0, 0⟩ :=
    ⟨hstate, by norm_num, by norm_num⟩
  obtain ⟨hloop, hlast⟩ := loopDefined_of_bounded hconfig htarget hsamples
    hinit (by rwa [Nat.zero_add])
  rw [Nat.zero_add] at hlast
  refine ⟨⟨hloop, ?_⟩, hlast.toModerate⟩
  exact outputDefined_of_bounded hmono hconfig hgain
    (List.length_pos_iff.mpr hbatch.nonempty).ne' hbatch.length_le
    (nsTo100us_ne_zero htarget.unit_le)
    ((dt_le htarget).trans (by norm_num)) hpasses hlast

end HardwareInterfaces.Pid

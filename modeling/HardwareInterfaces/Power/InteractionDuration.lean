import HardwareInterfaces.Power.InteractionHandler

/-!
# How long an interaction is boosted

A request is moved by an offset and kept between a minimum and a maximum.  The
comparisons are unsigned, so what is kept between them is the request modulo
`2 ^ 32`: a negative one counts as a long one.

A request that comes while an earlier one is in force is skipped if the earlier
one covers it.  The elapsed time is known to within a millisecond, and so is
the end of the boost that each request gets; the end never moves to an earlier
time.
-/

namespace HardwareInterfaces.Interaction

open MachineArithmetic Transition

/-! ## The duration of a request -/

section Duration

variable {properties : Properties}

/-- The request kept between the minimum and the maximum. -/
def Properties.clampedDuration (properties : Properties) (duration : Int) :
    Int :=
  max properties.kMinDurationMs
    (min properties.kMaxDurationMs (duration + properties.kDurationOffsetMs))

section

variable (hordered : properties.kMinDurationMs ≤ properties.kMaxDurationMs)
  (hsmall : properties.kMaxDurationMs < 2 ^ 31) (duration : Int)
include hordered hsmall

/-- What the source computes keeps the request modulo `2 ^ 32` between
them. -/
theorem finalDuration_eq :
    properties.finalDuration duration =
      max (properties.kMinDurationMs : Int) (min properties.kMaxDurationMs
        ((duration + properties.kDurationOffsetMs) % 2 ^ 32)) := by
  have hmin : int32 properties.kMinDurationMs = properties.kMinDurationMs :=
    int32_eq_self (by omega) (by omega)
  have hmax : int32 properties.kMaxDurationMs = properties.kMaxDurationMs :=
    int32_eq_self (by omega) (by omega)
  have hinput : int32 (duration + properties.kDurationOffsetMs) % 2 ^ 32 =
      (duration + properties.kDurationOffsetMs) % 2 ^ 32 :=
    Int.bmod_emod
  have hsigned := int32_lt (duration + properties.kDurationOffsetMs)
  have hsigned' := le_int32 (duration + properties.kDurationOffsetMs)
  rw [Properties.finalDuration, hmin, hmax]
  generalize int32 (duration + properties.kDurationOffsetMs) = input at *
  by_cases hlong : input % 2 ^ 32 > properties.kMaxDurationMs
  · rw [if_pos hlong]
    omega
  · by_cases hmiddle : input % 2 ^ 32 > properties.kMinDurationMs
    · rw [if_neg hlong, if_pos hmiddle]
      omega
    · rw [if_neg hlong, if_neg hmiddle]
      omega

theorem le_finalDuration :
    properties.kMinDurationMs ≤ properties.finalDuration duration := by
  rw [finalDuration_eq hordered hsmall]
  exact le_max_left _ _

theorem finalDuration_le :
    properties.finalDuration duration ≤ properties.kMaxDurationMs := by
  rw [finalDuration_eq hordered hsmall]
  exact max_le (by exact_mod_cast hordered) (min_le_left _ _)

end

/-- The duration is the clamped request exactly if the sum of the request and
the offset is a number of 32 bits, apart from sums that are above the maximum
all the same. -/
theorem finalDuration_eq_clampedDuration_iff
    (hordered : properties.kMinDurationMs ≤ properties.kMaxDurationMs)
    (hsmall : properties.kMaxDurationMs < 2 ^ 31)
    (hoffset : properties.kDurationOffsetMs < 2 ^ 32) {duration : Int}
    (hlower : -2 ^ 31 ≤ duration) (hupper : duration < 2 ^ 31) :
    properties.finalDuration duration =
        properties.clampedDuration duration ↔
      properties.kMinDurationMs = properties.kMaxDurationMs ∨
        (0 ≤ duration + properties.kDurationOffsetMs ∧
          (duration + properties.kDurationOffsetMs < 2 ^ 32 ∨
            properties.kMaxDurationMs ≤
              duration + properties.kDurationOffsetMs - 2 ^ 32)) := by
  rw [finalDuration_eq hordered hsmall, Properties.clampedDuration]
  omega

/-- A negative request gets the maximum, and a longer one the minimum. -/
theorem finalDuration_of_negative :
    Properties.default.finalDuration (-1000) = 5650 ∧
      Properties.default.clampedDuration (-1000) = 1400 ∧
      Properties.default.finalDuration 0 = 1400 := by
  decide

theorem finalDuration_of_short_request :
    Properties.default.finalDuration 2000 =
      Properties.default.clampedDuration 2000 :=
  (finalDuration_eq_clampedDuration_iff (by decide) (by decide) (by decide)
    (by decide) (by decide)).mpr (by decide)

end Duration

/-! ## Elapsed time -/

def Timespec.toNanos (time : Timespec) : Int :=
  time.tvSec * 1000000000 + time.tvNsec

/-- A time whose milliseconds are a signed number of 64 bits.  Those of the
monotonic clock are, since it counts nanoseconds in as many bits. -/
structure Timespec.Reading (time : Timespec) : Prop where
  sec_nonneg : 0 ≤ time.tvSec
  sec_lt : time.tvSec * 1000 < 2 ^ 63
  nsec_nonneg : 0 ≤ time.tvNsec
  nsec_lt : time.tvNsec < 1000000000

/-- The computed difference is less than a millisecond off. -/
theorem calcTimespecDiffMs_bounds {start stop : Timespec}
    (hstart : start.Reading) (hstop : stop.Reading)
    (hle : start.toNanos ≤ stop.toNanos) :
    stop.toNanos - start.toNanos - 1000000 <
        calcTimespecDiffMs start stop * 1000000 ∧
      calcTimespecDiffMs start stop * 1000000 <
        stop.toNanos - start.toNanos + 1000000 := by
  obtain ⟨hstartSec, hstartSec', hstartNsec, hstartNsec'⟩ := hstart
  obtain ⟨hstopSec, hstopSec', hstopNsec, hstopNsec'⟩ := hstop
  have hdivision := Int.mul_tdiv_add_tmod (stop.tvNsec - start.tvNsec) 1000000
  have hremainder :=
    Int.tmod_lt_of_pos (stop.tvNsec - start.tvNsec)
      (by norm_num : (0 : Int) < 1000000)
  have hremainder' :=
    Int.lt_tmod_of_pos (stop.tvNsec - start.tvNsec)
      (by norm_num : (0 : Int) < 1000000)
  rw [Timespec.toNanos, Timespec.toNanos] at hle ⊢
  rw [calcTimespecDiffMs]
  omega

namespace InteractionHandler

variable {properties : Properties} {handler next : InteractionHandler}

/-- The end of the boost, in nanoseconds of the clock. -/
def promisedEnd (handler : InteractionHandler) : Int :=
  handler.mLastTimespec.toNanos + handler.mDurationMs * 1000000

/-- A request is in force. -/
def Active (handler : InteractionHandler) : Prop :=
  handler.mState = .interaction ∨ handler.mState = .waiting

/-- The end is kept, and a request gets its duration but for a millisecond. -/
def KeepsPromise (properties : Properties) (handler : InteractionHandler)
    (action : Action) : Prop :=
  handler.Active → ∀ next, handler.step properties action = some next →
    handler.promisedEnd ≤ next.promisedEnd ∧
      ∀ duration now, action = .acquire duration now →
        now.toNanos + properties.finalDuration duration * 1000000 - 1000000 ≤
          next.promisedEnd

/-- The times of the requests. -/
def acquireTimes (actions : List Action) : List Timespec :=
  actions.filterMap fun
    | .acquire _ now => some now
    | _ => none

/-- The request in force was made at a time of the clock before the given
ones. -/
structure Promising (properties : Properties) (times : List Timespec)
    (handler : InteractionHandler) : Prop where
  support : properties.kDisplayIdleSupport = true
  reading : handler.mLastTimespec.Reading
  earlier : ∀ now ∈ times, handler.mLastTimespec.toNanos ≤ now.toNanos
  le_duration : properties.kMinDurationMs ≤ handler.mDurationMs
  duration_le : handler.mDurationMs ≤ properties.kMaxDurationMs

/-- A request is passed on to the hint manager, is covered, or comes into
force. -/
theorem acquire_timing (handler : InteractionHandler) (duration : Int)
    (now : Timespec) :
    let next := handler.acquire properties duration now
    ((properties.kDisplayIdleSupport = false ∨
          handler.mState = .uninitialized) ∧
        next.mState = handler.mState ∧
        next.mLastTimespec = handler.mLastTimespec ∧
        next.mDurationMs = handler.mDurationMs) ∨
      (handler.covers (properties.finalDuration duration) now = true ∧
        next = handler) ∨
      (properties.kDisplayIdleSupport = true ∧
        handler.covers (properties.finalDuration duration) now = false ∧
        next.mLastTimespec = now ∧
        next.mDurationMs = properties.finalDuration duration) := by
  dsimp only
  rw [acquire]
  dsimp only
  split_ifs with hfallback hcovers
  · refine .inl ⟨?_, rfl, rfl, rfl⟩
    simpa using hfallback
  · exact .inr (.inl ⟨hcovers, rfl⟩)
  · refine .inr (.inr ⟨?_, by simpa using hcovers, ?_, ?_⟩)
    · simp only [Bool.or_eq_true, Bool.not_eq_true', not_or,
        Bool.not_eq_false] at hfallback
      exact hfallback.1
    · cases handler.mState <;> rfl
    · cases handler.mState <;> rfl

/-- The other steps leave the request alone and put none into force. -/
theorem step_timing {action : Action}
    (hother : ∀ duration now, action ≠ .acquire duration now)
    (hstep : handler.step properties action = some next) :
    next.mLastTimespec = handler.mLastTimespec ∧
      next.mDurationMs = handler.mDurationMs ∧
      (next.Active → handler.Active) := by
  cases action with
  | acquire duration now => exact absurd rfl (hother duration now)
  | init =>
    cases hstep
    rw [init]
    split_ifs
    · exact ⟨rfl, rfl, id⟩
    · exact ⟨rfl, rfl, by simp [Active]⟩
    · exact ⟨rfl, rfl, id⟩
  | exit =>
    cases hstep
    rw [exit]
    split_ifs
    · exact ⟨rfl, rfl, id⟩
    · exact ⟨rfl, rfl, by simp [Active]⟩
  | wake =>
    obtain ⟨⟨-, hidle⟩, hnext⟩ := Option.ite_none_right_eq_some.mp hstep
    cases hnext
    rw [wake]
    split_ifs with hstate
    · exact ⟨rfl, rfl, id⟩
    · refine ⟨rfl, rfl, fun _ => ?_⟩
      rw [Active]
      cases hcase : handler.mState with
      | uninitialized => exact absurd hcase hstate
      | idle => exact absurd hcase hidle
      | interaction => exact .inl rfl
      | waiting => exact .inr rfl
  | pollEnd =>
    obtain ⟨-, hnext⟩ := Option.ite_none_right_eq_some.mp hstep
    cases hnext
    exact ⟨rfl, rfl, id⟩
  | release =>
    obtain ⟨-, hnext⟩ := Option.ite_none_right_eq_some.mp hstep
    cases hnext
    rw [release]
    split_ifs
    · exact ⟨rfl, rfl, by simp [Active]⟩
    · exact ⟨rfl, rfl, id⟩

/-- Without idle support no request is ever in force. -/
theorem Promising.not_fallback {times : List Timespec}
    (hpromising : handler.Promising properties times)
    (hactive : handler.Active) :
    ¬ (properties.kDisplayIdleSupport = false ∨
      handler.mState = .uninitialized) := by
  rintro (hsupport | huninitialized)
  · rw [hpromising.support] at hsupport
    cases hsupport
  · rcases hactive with hstate | hstate <;> simp [huninitialized] at hstate

theorem Promising.tail {now : Timespec} {times : List Timespec}
    (hpromising : handler.Promising properties (now :: times)) :
    handler.Promising properties times where
  support := hpromising.support
  reading := hpromising.reading
  earlier := (List.forall_mem_cons.mp hpromising.earlier).2
  le_duration := hpromising.le_duration
  duration_le := hpromising.duration_le

theorem keepsPromise_acquire_iff {duration : Int} {now : Timespec} :
    handler.KeepsPromise properties (.acquire duration now) ↔
      (handler.Active →
        handler.promisedEnd ≤
            (handler.acquire properties duration now).promisedEnd ∧
          now.toNanos + properties.finalDuration duration * 1000000 -
              1000000 ≤
            (handler.acquire properties duration now).promisedEnd) := by
  simp [KeepsPromise, step]

section Run

variable (hordered : properties.kMinDurationMs ≤ properties.kMaxDurationMs)
variable (hsmall : properties.kMaxDurationMs < 2 ^ 31)

include hordered hsmall

/-- Whether a request in force covers another is decided to within a
millisecond. -/
theorem Promising.covers_iff {times : List Timespec}
    (hpromising : handler.Promising properties times)
    (hactive : handler.Active) {now : Timespec} (hnow : now.Reading)
    (hle : handler.mLastTimespec.toNanos ≤ now.toNanos) (duration : Int) :
    let wanted := now.toNanos + properties.finalDuration duration * 1000000
    (handler.covers (properties.finalDuration duration) now = true →
        wanted - 1000000 < handler.promisedEnd) ∧
      (handler.covers (properties.finalDuration duration) now = false →
        handler.promisedEnd < wanted) := by
  obtain ⟨hafter, hbefore⟩ :=
    calcTimespecDiffMs_bounds hpromising.reading hnow hle
  have hle := hpromising.duration_le
  have hge := hpromising.le_duration
  have hfinalGe := le_finalDuration hordered hsmall duration
  have hfinalLe := finalDuration_le hordered hsmall duration
  have hremaining : properties.finalDuration duration ≤ handler.mDurationMs →
      int32 (handler.mDurationMs - properties.finalDuration duration) %
          2 ^ 64 =
        handler.mDurationMs - properties.finalDuration duration := by
    intro hshorter
    rw [int32_eq_self (by omega) (by omega)]
    omega
  have hidle : handler.mState ≠ .idle := by
    rcases hactive with hstate | hstate <;> simp [hstate]
  rw [covers, decide_eq_true hidle, Bool.true_and, promisedEnd]
  constructor
  · intro hcovers
    rw [Bool.and_eq_true, decide_eq_true_eq, decide_eq_true_eq] at hcovers
    rw [hremaining hcovers.1] at hcovers
    omega
  · intro hcovers
    rw [Bool.and_eq_false_iff, decide_eq_false_iff_not,
      decide_eq_false_iff_not] at hcovers
    by_cases hshorter : properties.finalDuration duration ≤ handler.mDurationMs
    · rw [hremaining hshorter] at hcovers
      omega
    · omega

/-- One request. -/
theorem keepsPromise_acquire {times : List Timespec} {duration : Int}
    {now : Timespec} (hnow : now.Reading)
    (hearlier : ∀ later ∈ times, now.toNanos ≤ later.toNanos)
    (hpromising : handler.Active →
      handler.Promising properties (now :: times)) :
    handler.KeepsPromise properties (.acquire duration now) ∧
      ((handler.acquire properties duration now).Active →
        (handler.acquire properties duration now).Promising properties
          times) := by
  have hcovers : handler.Active → _ := fun hactive =>
    (hpromising hactive).covers_iff hordered hsmall hactive hnow
      ((hpromising hactive).earlier now List.mem_cons_self) duration
  have hacquired := @acquire_timing properties handler duration now
  rw [keepsPromise_acquire_iff]
  generalize handler.acquire properties duration now = next at hacquired ⊢
  rcases hacquired with ⟨hfallback, hstate, -, -⟩ | ⟨hcovered, hsame⟩ |
      ⟨hsupport, huncovered, hlast, hduration⟩
  · have hnever : ¬ handler.Active := by
      intro hactive
      exact (hpromising hactive).not_fallback hactive hfallback
    refine ⟨fun hactive => absurd hactive hnever, fun hactive => ?_⟩
    rw [Active, hstate] at hactive
    exact absurd hactive hnever
  · rw [hsame]
    refine ⟨fun hactive => ⟨le_rfl, ((hcovers hactive).1 hcovered).le⟩, ?_⟩
    intro hactive
    exact (hpromising hactive).tail
  · have hend : next.promisedEnd =
        now.toNanos + properties.finalDuration duration * 1000000 := by
      rw [promisedEnd, hlast, hduration]
    refine ⟨fun hactive => ?_, fun _ => ?_⟩
    · rw [hend]
      exact ⟨((hcovers hactive).2 huncovered).le, by omega⟩
    · refine ⟨hsupport, hlast ▸ hnow, hlast ▸ hearlier, ?_, ?_⟩
      · rw [hduration]
        exact le_finalDuration hordered hsmall duration
      · rw [hduration]
        exact finalDuration_le hordered hsmall duration

/-- Any step. -/
theorem keepsPromise_step {action : Action} {actions : List Action}
    (hreading : ∀ now ∈ acquireTimes (action :: actions), now.Reading)
    (hsorted : (acquireTimes (action :: actions)).Pairwise
      fun before after => before.toNanos ≤ after.toNanos)
    (hpromising : handler.Active →
      handler.Promising properties (acquireTimes (action :: actions)))
    (hstep : handler.step properties action = some next) :
    handler.KeepsPromise properties action ∧
      (next.Active → next.Promising properties (acquireTimes actions)) := by
  by_cases hacquire : ∃ duration now, action = .acquire duration now
  · obtain ⟨duration, now, rfl⟩ := hacquire
    cases hstep
    exact keepsPromise_acquire hordered hsmall
      (hreading now List.mem_cons_self) (List.pairwise_cons.mp hsorted).1
      hpromising
  · have hother : ∀ duration now, action ≠ .acquire duration now :=
      fun duration now haction => hacquire ⟨duration, now, haction⟩
    have htimes : acquireTimes (action :: actions) = acquireTimes actions := by
      cases action with
      | acquire duration now => exact absurd rfl (hother duration now)
      | init | exit | wake | pollEnd | release => rfl
    rw [htimes] at hpromising
    obtain ⟨hlast, hduration, hactive⟩ := step_timing hother hstep
    constructor
    · rintro _ other hother'
      cases hstep.symm.trans hother'
      refine ⟨?_, fun duration now haction =>
        absurd haction (hother duration now)⟩
      rw [promisedEnd, promisedEnd, hlast, hduration]
    · intro hnext
      obtain ⟨hsupport, hreading, hbefore, hge, hle⟩ :=
        hpromising (hactive hnext)
      exact ⟨hsupport, hlast ▸ hreading, hlast ▸ hbefore, hduration ▸ hge,
        hduration ▸ hle⟩

/-- Requests at times that do not decrease never move the end of the boost to
an earlier time, and each gets its duration but for a millisecond. -/
theorem runMeets_keepsPromise (unset : Timespec) {actions : List Action}
    (hreading : ∀ now ∈ acquireTimes actions, now.Reading)
    (hsorted : (acquireTimes actions).Pairwise
      fun before after => before.toNanos ≤ after.toNanos) :
    RunMeets (step properties) (KeepsPromise properties) (new unset)
      actions := by
  have hinit : (new unset).Active →
      (new unset).Promising properties (acquireTimes actions) := by
    rintro (hstate | hstate) <;> cases hstate
  generalize new unset = handler at hinit ⊢
  induction actions generalizing handler with
  | nil => trivial
  | cons action actions ih =>
      intro next hnext
      obtain ⟨hkept, hpromising⟩ := keepsPromise_step hordered hsmall hreading
        hsorted hinit hnext
      have htimes : List.Sublist (acquireTimes actions)
          (acquireTimes (action :: actions)) :=
        (List.sublist_cons_self action actions).filterMap _
      exact ⟨hkept, ih (fun now hnow => hreading now (htimes.subset hnow))
        (hsorted.sublist htimes) next hpromising⟩

end Run

/-- A shorter request while the first is in force, a longer one, and one in the
last millisecond. -/
theorem keepsPromise_of_three_requests :
    RunMeets (step .default) (KeepsPromise .default) (new ⟨0, 0⟩)
      [.init true true, .acquire 2000 ⟨1, 999999999⟩, .wake,
        .acquire 100 ⟨2, 0⟩, .acquire 3000 ⟨3, 500000000⟩] := by
  apply runMeets_keepsPromise (by decide) (by decide)
  · intro now hnow
    simp only [acquireTimes, List.filterMap_cons, List.filterMap_nil,
      List.mem_cons, List.not_mem_nil, or_false] at hnow
    rcases hnow with rfl | rfl | rfl
    all_goals constructor <;> decide
  · decide

end InteractionHandler

end HardwareInterfaces.Interaction

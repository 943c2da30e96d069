import HardwareInterfaces.Fingerprint.LockoutTimers

/-!
# Failed matches and the lockout they leave

From the fifth failed match on, each one should leave the sensor locked out.
A timed lockout that is over but was not asked for since is still noted, and a
failed match that comes then neither begins a lockout nor keeps the old one.
-/

namespace HardwareInterfaces.Fingerprint

open MachineArithmetic Transition

/-! ## A failed match -/

namespace LockoutTracker

variable {util : Util} {now : Int} {tracker : LockoutTracker}

/-- The tracker notes a timed lockout that is over. -/
def Stale (util : Util) (now : Int) (tracker : LockoutTracker) : Prop :=
  tracker.mCurrentMode = .timed ∧
    util.hasElapsed now tracker.mLockoutTimedStart lockoutTimedDuration = true

instance : Decidable (Stale util now tracker) :=
  inferInstanceAs (Decidable (_ ∧ _))

theorem getMode_eq_none_iff :
    (tracker.getMode util now).1 = .none ↔
      tracker.mCurrentMode = .none ∨ tracker.Stale util now := by
  rw [getMode, settle, Stale]
  split_ifs with hstale
  · exact iff_of_true rfl (Or.inr hstale)
  · exact (or_iff_left hstale).symm

/-- A lockout that begins now is not over. -/
theorem not_stale_of_start_eq (hstart : tracker.mLockoutTimedStart = now) :
    ¬ tracker.Stale util now := by
  rintro ⟨-, hover⟩
  have hpassed := util.elapsed_of_hasElapsed now _ _ hover
  rw [hstart, lockoutTimedDuration, nanosPerMilli] at hpassed
  omega

/-- A failed match past the timed threshold but not the permanent one leaves a
lockout unless the one noted is over. -/
theorem getMode_addFailedAttempt_iff
    (htimed : lockoutTimedThreshold ≤ int32 (tracker.mFailedCount + 1))
    (hpermanent : ¬ lockoutPermanentThreshold ≤
      int32 (tracker.mFailedCount + 1)) :
    ((tracker.addFailedAttempt now).getMode util now).1 ≠ .none ↔
      ¬ tracker.Stale util now := by
  apply not_congr
  rw [getMode_eq_none_iff, addFailedAttempt]
  simp only [if_neg hpermanent]
  split_ifs with hbegins
  · refine iff_of_false ?_ ?_
    · rintro (hnone | hstale)
      · cases hnone
      · exact not_stale_of_start_eq rfl hstale
    · rintro ⟨hmode, -⟩
      cases hbegins.2.symm.trans hmode
  · exact or_iff_right fun hnone => hbegins ⟨htimed, hnone⟩

theorem getMode_addFailedAttempt_of_permanent
    (hpermanent : (tracker.addFailedAttempt now).mCurrentMode = .permanent) :
    ((tracker.addFailedAttempt now).getMode util now).1 ≠ .none := by
  rw [getMode, settle_of_ne_timed (by rw [hpermanent]; decide), hpermanent]
  rintro ⟨⟩

end LockoutTracker

theorem Lockout.mFailedCount_act (util : Util) (now : Int) (lockout : Lockout)
    (action : Action) :
    (lockout.act util now action).tracker.mFailedCount =
      match action with
      | .fail => int32 (lockout.tracker.mFailedCount + 1)
      | .reset => 0
      | .succeed => 0
      | _ => lockout.tracker.mFailedCount := by
  have hsettle : ∀ tracker : LockoutTracker,
      (tracker.settle util now).mFailedCount = tracker.mFailedCount := by
    intro tracker
    rw [LockoutTracker.settle]
    split_ifs <;> rfl
  cases action with
  | check => rw [act, tracker_check, hsettle]
  | fail =>
    rw [act, tracker_check, hsettle, tracker_addFailed,
      LockoutTracker.addFailedAttempt]
    simp only
    split_ifs <;> rfl
  | expire index =>
    rw [act, expired]
    simp only
    split_ifs <;> rfl
  | _ => rfl

/-! ## Runs of a session -/

/-- A session, with the number of failed matches since the counter was last
reset. -/
structure Tallied where
  world : World
  failures : Nat

namespace Tallied

variable {util : Util} {tallied next : Tallied} {label : Label}

def step (util : Util) (tallied : Tallied) (label : Label) : Option Tallied :=
  (tallied.world.step util label).map fun next =>
    { world := next
      failures :=
        Counted.failuresAfter tallied.failures (tallied.world.action label) }

/-- A failed match that is the fifth or a later one leaves a lockout. -/
def LocksOut (util : Util) (tallied : Tallied) (label : Label) : Prop :=
  tallied.world.action label = .fail →
    lockoutTimedThreshold ≤ tallied.failures + 1 →
      ((tallied.world.lockout.tracker.addFailedAttempt label.now).getMode util
        label.now).1 ≠ .none

/-- No failed match from the fifth to the nineteenth comes while a timed
lockout is noted that is over. -/
def NoneStale (util : Util) (tallied : Tallied) (label : Label) : Prop :=
  tallied.world.action label = .fail →
    lockoutTimedThreshold ≤ tallied.failures + 1 →
      (tallied.failures : Int) + 1 < lockoutPermanentThreshold →
        ¬ tallied.world.lockout.tracker.Stale util label.now

instance (tallied : Tallied) : DecidablePred (LocksOut util tallied) :=
  fun _ => inferInstanceAs (Decidable (_ → _))

instance (tallied : Tallied) : DecidablePred (NoneStale util tallied) :=
  fun _ => inferInstanceAs (Decidable (_ → _))

/-- The tracker has counted the failed matches, until they lock the sensor out
for good. -/
structure Agrees (tallied : Tallied) : Prop where
  safe : tallied.world.lockout.Safe
  counted : (tallied.failures : Int) < lockoutPermanentThreshold →
    tallied.world.lockout.tracker.mFailedCount = tallied.failures
  permanent : lockoutPermanentThreshold ≤ tallied.failures →
    tallied.world.lockout.tracker.mCurrentMode = .permanent

section

variable (hagrees : tallied.Agrees)
include hagrees

theorem Agrees.int32_succ
    (hfew : (tallied.failures : Int) < lockoutPermanentThreshold) :
    int32 (tallied.world.lockout.tracker.mFailedCount + 1) =
      tallied.failures + 1 := by
  rw [hagrees.counted hfew]
  rw [lockoutPermanentThreshold] at hfew
  exact int32_eq_self (by omega) (by omega)

theorem Agrees.permanent_of_succ
    (hmany : lockoutPermanentThreshold ≤ (tallied.failures : Int) + 1) :
    lockoutPermanentThreshold ≤
        int32 (tallied.world.lockout.tracker.mFailedCount + 1) ∨
      tallied.world.lockout.tracker.mCurrentMode = .permanent := by
  by_cases hfew : (tallied.failures : Int) < lockoutPermanentThreshold
  · rw [hagrees.int32_succ hfew]
    exact Or.inl hmany
  · exact Or.inr (hagrees.permanent (not_lt.mp hfew))

theorem Agrees.step (hstep : tallied.step util label = some next) :
    next.Agrees := by
  obtain ⟨world, hworld, rfl⟩ := Option.map_eq_some_iff.mp hstep
  obtain ⟨-, -, hlockout, hdue⟩ := World.step_lockout hworld
  refine ⟨World.safe_step hagrees.safe hworld, ?_, ?_⟩
  · intro hfew
    simp only at hfew ⊢
    rw [hlockout, Lockout.mFailedCount_act]
    cases haction : tallied.world.action label with
    | fail =>
      rw [haction, Counted.failuresAfter, Nat.cast_add_one] at hfew
      rw [Counted.failuresAfter, Nat.cast_add_one]
      exact hagrees.int32_succ (by omega)
    | reset | succeed => rfl
    | _ =>
      rw [haction] at hfew
      exact hagrees.counted hfew
  · intro hmany
    rw [hlockout]
    exact Counted.permanent_act_of_guard hagrees.safe hdue hagrees.permanent
      (fun _ => (lt_or_ge _ _).imp_right hagrees.permanent_of_succ) hmany

theorem locksOut_iff :
    tallied.LocksOut util label ↔ tallied.NoneStale util label := by
  refine forall_congr' fun _ => forall_congr' fun hfifth => ?_
  rcases lt_or_ge ((tallied.failures : Int) + 1) lockoutPermanentThreshold with
    hfew | hmany
  · have hcount := hagrees.int32_succ (by omega)
    rw [LockoutTracker.getMode_addFailedAttempt_iff (by rw [hcount]; exact hfifth)
      (by rw [hcount]; exact not_le.mpr hfew)]
    exact ⟨fun hstale _ => hstale, fun hstale => hstale hfew⟩
  · have hpermanent := @LockoutTracker.addFailedAttempt_permanent_iff label.now _
      |>.mpr (hagrees.permanent_of_succ hmany)
    exact iff_of_true
      (LockoutTracker.getMode_addFailedAttempt_of_permanent hpermanent)
      fun hfew => absurd hfew (not_lt.mpr hmany)

end

/-- From the fifth on, every failed match leaves a lockout all along a run
exactly when none of them, up to the nineteenth, comes while a timed lockout
is noted that is over.  Of the session it matters only that its constructor
has set the count, and started no timer. -/
theorem failed_matches_lock_out_iff_none_stale {world : World}
    (htimers : world.session.timers = [])
    (hcount : world.session.mLockoutTracker.mFailedCount = 0)
    (labels : List Label) :
    RunMeets (step util) (LocksOut util) ⟨world, 0⟩ labels ↔
      RunMeets (step util) (NoneStale util) ⟨world, 0⟩ labels := by
  have hinit : Agrees ⟨world, 0⟩ :=
    ⟨Lockout.safe_of_timers_eq_nil htimers, fun _ => hcount,
      fun hmany => absurd hmany (by decide : ¬ lockoutPermanentThreshold ≤ 0)⟩
  exact runMeets_congr_of_invariant (fun _ _ _ => Agrees.step)
    (fun _ _ _ hagrees _ => locksOut_iff hagrees) hinit labels

/-- The ninth failed match comes one nanosecond before the end of the lockout
that the fifth began. -/
theorem failed_matches_lock_out_in_time :
    RunMeets (step .inMillis) (LocksOut .inMillis) ⟨.sample, 0⟩
      (List.replicate 8 (World.failedMatch 2) ++
        [World.failedMatch (1 + lockoutNanos)]) :=
  (failed_matches_lock_out_iff_none_stale rfl rfl _).mpr
    (by decide +kernel)

/-- A sixth failed match just after the lockout that the fifth began is over,
and before its timer runs out. -/
theorem failed_matches_not_always_locking_out :
    ¬ RunMeets (step .inMillis) (LocksOut .inMillis) ⟨.sample, 0⟩
      (List.replicate 5 (World.failedMatch 2) ++
        [World.failedMatch (2 + lockoutNanos)]) := by
  decide +kernel

end Tallied

end HardwareInterfaces.Fingerprint

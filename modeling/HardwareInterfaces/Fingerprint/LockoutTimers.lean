import HardwareInterfaces.Fingerprint.Service

/-!
# The timer of a timed lockout

A timed lockout that was reported is to be taken back by a timer.  A reset
marks the pending timer so that it does nothing; the mark stays until that
timer runs out, and a permanent lockout sets it without looking for a timer.
-/

namespace HardwareInterfaces.Fingerprint

open MachineArithmetic Transition

/-! ## Reports -/

def Effect.isLockoutTimed : Effect → Bool
  | .callback (.onLockoutTimed _) => true
  | _ => false

namespace Session

variable {util : Util} {now : Int}

/-- Whether the last handler reported a timed lockout. -/
def reportsTimed (session : Session) : Bool :=
  session.effects.any Effect.isLockoutTimed

theorem reportsTimed_checkSensorLockout {session : Session}
    (hmode : session.lockout.mode util now = .timed) :
    (session.checkSensorLockout util now).2.reportsTimed = true := by
  obtain ⟨tracker, userId, closed, started, aborted, timers, effects⟩ := session
  have hfound : (tracker.settle util now).mCurrentMode = .timed := hmode
  simp only [checkSensorLockout, LockoutTracker.getMode, hfound]
  cases started <;>
    simp [reportsTimed, emit, startLockoutTimer, Effect.isLockoutTimed]

/-- A failed match that finds a timed lockout reports it. -/
theorem reportsTimed_handle {session next : Session}
    {enrollments enrollments' : List Int} {event : Event}
    (hhandle : session.handle util now enrollments event =
      some (next, enrollments'))
    (haction : event.action session.mClosed = .fail)
    (hmode : (session.lockout.addFailed now).mode util now = .timed) :
    next.reportsTimed = true := by
  cases event with
  | notify message =>
    obtain ⟨hopen, -⟩ := Event.action_eq_fail _ haction
    rw [Event.action, hopen] at haction
    simp only [handle, hopen, Bool.false_eq_true, if_false] at hhandle
    cases message with
    | authenticated fid =>
      have hfid : ¬ fid ≠ 0 := by
        intro hfid
        simp [Message.action, hfid] at haction
      simp only [notify, if_neg hfid] at hhandle
      cases hhandle
      exact reportsTimed_checkSensorLockout hmode
    | _ => cases haction
  | _ => cases haction

end Session

/-! ## The pending timer -/

namespace LockoutTracker

variable {util : Util} {now : Int} {tracker : LockoutTracker}

/-- A lockout that begins now is not over. -/
theorem settle_of_start_eq (hstart : tracker.mLockoutTimedStart = now) :
    tracker.settle util now = tracker := by
  rcases tracker.settle_cases util now with hsame | ⟨-, hover, -⟩
  · exact hsame
  · have hnanos : (0 : Int) < lockoutNanos := by decide
    omega

end LockoutTracker

namespace Lockout

variable {util : Util} {now : Int} {lockout : Lockout} {action : Action}

theorem timed_of_mode_timed (hmode : lockout.mode util now = .timed) :
    lockout.tracker.mCurrentMode = .timed := by
  rw [mode] at hmode
  rcases lockout.tracker.settle_cases util now with hsame | ⟨htimed, -⟩
  · rw [hsame] at hmode
    exact hmode
  · exact htimed

/-- The timer of a timed lockout is pending and will take it back; only a
pending timer is marked. -/
structure Answered (lockout : Lockout) : Prop where
  alone : lockout.timers.length ≤ 1
  started_iff : lockout.started = true ↔ lockout.timers ≠ []
  pending : lockout.tracker.mCurrentMode = .timed →
    lockout.timers ≠ [] ∧ lockout.aborted = false
  marked : lockout.aborted = true → lockout.timers ≠ []

/-- A permanent lockout is reached or met only while a timer is pending, and a
timed lockout begins only when the pending timer, if any, is not marked. -/
def MarksPending (now : Int) (lockout : Lockout) : Action → Prop
  | .check =>
    lockout.tracker.mCurrentMode = .permanent → lockout.timers ≠ []
  | .fail =>
    ((lockout.addFailed now).tracker.mCurrentMode = .permanent →
      lockout.timers ≠ []) ∧
    (lockout.Begins now .fail → lockout.aborted = false)
  | _ => True

instance : DecidablePred (MarksPending now lockout)
  | .check => inferInstanceAs (Decidable (_ → _))
  | .fail => inferInstanceAs (Decidable (_ ∧ _))
  | .idle | .reset | .succeed | .expire _ => isTrue trivial

theorem answered_check (halone : lockout.timers.length ≤ 1)
    (hstarted : lockout.started = true ↔ lockout.timers ≠ [])
    (hmarked : lockout.aborted = true → lockout.timers ≠ [])
    (hpermanent : lockout.tracker.mCurrentMode = .permanent →
      lockout.timers ≠ [])
    (htimed : lockout.tracker.mCurrentMode = .timed →
      lockout.aborted = false) :
    (lockout.check util now).Answered := by
  rcases lockout.check_cases util now with
    ⟨hmode, hcheck⟩ | ⟨hmode, hrunning, hcheck⟩ | ⟨hmode, hidle, hcheck⟩ |
      ⟨hmode, hcheck⟩
  · have hpending := hpermanent (mode_permanent_iff.mp hmode)
    rw [hcheck]
    exact ⟨halone, hstarted, fun hfound => (nomatch hmode.symm.trans hfound),
      fun _ => hpending⟩
  · rw [hcheck]
    exact ⟨halone, hstarted,
      fun _ => ⟨hstarted.mp hrunning, htimed (timed_of_mode_timed hmode)⟩,
      hmarked⟩
  · have hnil : lockout.timers = [] := by
      by_contra hpending
      exact nomatch hidle.symm.trans (hstarted.mpr hpending)
    rw [hcheck, hnil]
    exact ⟨le_rfl, iff_of_true rfl (List.cons_ne_nil _ _),
      fun _ => ⟨List.cons_ne_nil _ _, htimed (timed_of_mode_timed hmode)⟩,
      fun _ => List.cons_ne_nil _ _⟩
  · rw [hcheck]
    exact ⟨halone, hstarted, fun hfound => (nomatch hmode.symm.trans hfound),
      hmarked⟩

theorem Answered.expired {index : Nat} (hanswered : lockout.Answered)
    (hdue : lockout.Due now index) : (lockout.expired index).Answered := by
  have hnil := timers_expired hanswered.alone hdue
  refine ⟨?_, iff_of_false Bool.false_ne_true (not_not_intro hnil), ?_,
    (absurd · Bool.false_ne_true)⟩
  · rw [hnil]
    exact Nat.zero_le 1
  · -- Unmarked, the timer ends the lockout; marked, there was none.
    intro htimed
    exfalso
    simp only [Lockout.expired] at htimed
    split_ifs at htimed with haborted
    · cases haborted.symm.trans (hanswered.pending htimed).2
    · cases htimed

theorem Answered.act (hanswered : lockout.Answered)
    (hdue : ∀ index, action = .expire index → lockout.Due now index)
    (hmarks : MarksPending now lockout action) :
    (lockout.act util now action).Answered := by
  cases action with
  | idle => exact hanswered
  | check =>
    exact answered_check hanswered.alone hanswered.started_iff
      hanswered.marked hmarks fun htimed => (hanswered.pending htimed).2
  | reset =>
    refine ⟨hanswered.alone, hanswered.started_iff, nofun, fun haborted => ?_⟩
    rcases Bool.or_eq_true_iff.mp haborted with hstarted | hmarked
    · exact hanswered.started_iff.mp hstarted
    · exact hanswered.marked hmarked
  | succeed =>
    exact ⟨hanswered.alone, hanswered.started_iff, nofun, hanswered.marked⟩
  | fail =>
    refine answered_check hanswered.alone hanswered.started_iff
      hanswered.marked hmarks.1 fun htimed => ?_
    rcases lockout.tracker.addFailedAttempt_cases now with
      hpermanent | ⟨hnone, hbegun, -⟩ | ⟨hsame, -⟩
    · exact nomatch hpermanent.symm.trans htimed
    · exact hmarks.2 ⟨rfl, hnone, hbegun⟩
    · exact (hanswered.pending (hsame.symm.trans htimed)).2
  | expire index => exact hanswered.expired (hdue index rfl)

/-- Asking for the mode of a permanent lockout marks a timer. -/
theorem aborted_check (util : Util) (now : Int)
    (hmode : lockout.tracker.mCurrentMode = .permanent) :
    (lockout.check util now).aborted = true ∧
      (lockout.check util now).timers = lockout.timers := by
  rcases lockout.check_cases util now with
    ⟨-, hcheck⟩ | ⟨hfound, -⟩ | ⟨hfound, -⟩ | ⟨hfound, -⟩
  · rw [hcheck]
    exact ⟨rfl, rfl⟩
  all_goals exact nomatch (mode_permanent_iff.mpr hmode).symm.trans hfound

/-- A timed lockout that begins is in force, and the mark stays. -/
theorem act_of_begins (hbegins : lockout.Begins now action) :
    (lockout.addFailed now).mode util now = .timed ∧
      (lockout.act util now action).mode util now = .timed ∧
      (lockout.act util now action).aborted = lockout.aborted := by
  obtain ⟨rfl, hnone, htimed⟩ := hbegins
  have hstart : (lockout.addFailed now).tracker.mLockoutTimedStart = now := by
    rcases lockout.tracker.addFailedAttempt_cases now with
      hpermanent | ⟨-, -, hstart⟩ | ⟨hsame, -⟩
    · cases hpermanent.symm.trans htimed
    · exact hstart
    · cases htimed.symm.trans (hsame.trans hnone)
  have hsettle := @LockoutTracker.settle_of_start_eq util now _ hstart
  have hmode : (lockout.addFailed now).mode util now = .timed := by
    rw [mode, hsettle]
    exact htimed
  refine ⟨hmode, ?_, ?_⟩
  · rw [mode, act, tracker_check, hsettle, hsettle]
    exact htimed
  · rw [act]
    rcases (lockout.addFailed now).check_cases util now with
      ⟨hfound, -⟩ | ⟨-, -, hcheck⟩ | ⟨-, -, hcheck⟩ | ⟨hfound, -⟩
    · cases hmode.symm.trans hfound
    · rw [hcheck]
      rfl
    · rw [hcheck]
      rfl
    · cases hmode.symm.trans hfound

/-- Otherwise a mark is set without a timer, or a lockout begins under one. -/
theorem cases_of_not_marksPending (util : Util)
    (hmarks : ¬ MarksPending now lockout action) :
    ((lockout.act util now action).aborted = true ∧
        (lockout.act util now action).timers = []) ∨
      (lockout.Begins now action ∧ lockout.aborted = true) := by
  cases action with
  | check =>
    obtain ⟨hmode, hnil⟩ := Classical.not_imp.mp hmarks
    obtain ⟨haborted, htimers⟩ := aborted_check util now hmode
    exact Or.inl ⟨haborted, htimers.trans (not_not.mp hnil)⟩
  | fail =>
    rcases not_and_or.mp hmarks with hunmarked | hbegins
    · obtain ⟨hmode, hnil⟩ := Classical.not_imp.mp hunmarked
      obtain ⟨haborted, htimers⟩ := aborted_check util now hmode
      exact Or.inl ⟨haborted, htimers.trans (not_not.mp hnil)⟩
    · obtain ⟨hbegins, haborted⟩ := Classical.not_imp.mp hbegins
      exact Or.inr ⟨hbegins, Bool.not_eq_false _ ▸ haborted⟩
  | _ => exact absurd trivial hmarks

end Lockout

/-! ## Runs of a session -/

namespace World

variable {util : Util} {world next : World} {label : Label}

theorem reportsTimed_step (hstep : world.step util label = some next)
    (haction : world.action label = .fail)
    (hmode : (world.lockout.addFailed label.now).mode util label.now = .timed) :
    next.session.reportsTimed = true := by
  rw [step] at hstep
  split_ifs at hstep
  obtain ⟨result, hhandle, rfl⟩ := Option.map_eq_some_iff.mp hstep
  exact Session.reportsTimed_handle hhandle haction hmode

/-- A timer that is not marked reports the end of the lockout. -/
theorem cleared_of_expiry {index : Nat} {timer : LockoutTimer} {now : Int}
    (htimer : world.lockout.timers[index]? = some timer)
    (haborted : world.lockout.aborted = false) (hdeadline : timer.deadline ≤ now)
    (hclock : world.clock ≤ now) :
    ∃ next, world.step util ⟨now, .timerExpires index⟩ = some next ∧
      .callback .onLockoutCleared ∈ next.session.effects := by
  have hsleeping : world.session.timers[index]? = some timer := htimer
  have hunmarked : world.session.mIsLockoutTimerAborted = false := haborted
  have heffects : (world.step util ⟨now, .timerExpires index⟩).map
      (fun next => next.session.effects) =
        some [.callback .onLockoutCleared] := by
    rw [step, dif_pos hclock]
    simp [Session.handle, hsleeping, hdeadline, Session.lockoutTimerExpired,
      hunmarked, Session.clearLockout, Session.emit]
  obtain ⟨next, hnext, hcleared⟩ := Option.map_eq_some_iff.mp heffects
  refine ⟨next, hnext, ?_⟩
  rw [hcleared]
  exact List.mem_singleton_self _

end World

/-- A session, and whether the timed lockout in force has been reported. -/
structure Announced where
  world : World
  reported : Bool

namespace Announced

variable {util : Util} {announced next : Announced} {label : Label}

def step (util : Util) (announced : Announced) (label : Label) :
    Option Announced :=
  (announced.world.step util label).map fun next =>
    { world := next
      reported :=
        decide (next.lockout.tracker.mCurrentMode = .timed) &&
          (next.session.reportsTimed || announced.reported) }

/-- While a reported timed lockout is in force, a timer that is not marked is
pending; a mark is on a pending timer. -/
def TimerAnswers (util : Util) (announced : Announced) : Prop :=
  (announced.reported = true → announced.world.mode util = .timed →
    announced.world.lockout.timers ≠ [] ∧
      announced.world.lockout.aborted = false) ∧
  (announced.world.lockout.aborted = true →
    announced.world.lockout.timers ≠ [])

instance : DecidablePred (TimerAnswers util) :=
  fun _ => inferInstanceAs (Decidable (_ ∧ _))

def MarksPending (announced : Announced) (label : Label) : Prop :=
  announced.world.lockout.MarksPending label.now
    (announced.world.action label)

instance (announced : Announced) : DecidablePred announced.MarksPending :=
  fun _ => inferInstanceAs (Decidable (Lockout.MarksPending ..))

def Answered (announced : Announced) : Prop :=
  announced.world.lockout.Answered

theorem Answered.timerAnswers (hanswered : announced.Answered) :
    announced.TimerAnswers util :=
  ⟨fun _ hmode => Lockout.Answered.pending hanswered
      (Lockout.timed_of_mode_timed hmode),
    Lockout.Answered.marked hanswered⟩

theorem answered_of_opened {world : World} (hopened : world.Opened) :
    Answered ⟨world, false⟩ := by
  obtain ⟨hsession, hmode⟩ := hopened
  rw [Answered, World.lockout, hsession]
  refine ⟨Nat.zero_le 1, iff_of_false Bool.false_ne_true (not_not_intro rfl),
    fun htimed => ?_, (absurd · Bool.false_ne_true)⟩
  cases hmode.symm.trans htimed

theorem Answered.step (hanswered : announced.Answered)
    (hmarks : announced.MarksPending label)
    (hstep : announced.step util label = some next) : next.Answered := by
  obtain ⟨world, hworld, rfl⟩ := Option.map_eq_some_iff.mp hstep
  obtain ⟨-, -, hlockout, hdue⟩ := World.step_lockout hworld
  rw [Answered, hlockout]
  exact Lockout.Answered.act hanswered hdue hmarks

theorem not_timerAnswers_step (hmarks : ¬ announced.MarksPending label)
    (hstep : announced.step util label = some next) :
    ¬ next.TimerAnswers util := by
  obtain ⟨world, hworld, rfl⟩ := Option.map_eq_some_iff.mp hstep
  obtain ⟨-, hclock, hlockout, -⟩ := World.step_lockout hworld
  rintro ⟨hpending, hmarked⟩
  rcases Lockout.cases_of_not_marksPending util hmarks with
    ⟨haborted, hnil⟩ | ⟨hbegins, haborted⟩
  · rw [← hlockout] at haborted hnil
    exact hmarked haborted hnil
  · obtain ⟨hfound, hmode, hkept⟩ := @Lockout.act_of_begins util _ _ _ hbegins
    rw [← hlockout] at hmode hkept
    have hreported : world.session.reportsTimed = true :=
      World.reportsTimed_step hworld hbegins.1 hfound
    have hanswer := hpending
      (by simp [Lockout.timed_of_mode_timed hmode, hreported])
      (by rw [World.mode, hclock]; exact hmode)
    exact nomatch (hkept.trans haborted).symm.trans hanswer.2

/-- A reported timed lockout has a timer that will take it back all along a
run, and no mark is without a timer, exactly when no timed lockout begins
under the mark of an earlier timer and a permanent lockout is reached or met
only with a timer pending.  A timer that runs out unmarked reports that the
lockout is cleared. -/
theorem timer_answers_iff_marks_pending {world : World}
    (hopened : world.Opened) (labels : List Label) :
    (RunHolds (step util) (TimerAnswers util) ⟨world, false⟩ labels ↔
      RunMeets (step util) MarksPending ⟨world, false⟩ labels) ∧
    ∀ (later : World) (index : Nat) (timer : LockoutTimer) (now : Int),
      later.lockout.timers[index]? = some timer →
      later.lockout.aborted = false → timer.deadline ≤ now →
      later.clock ≤ now →
        ∃ next, later.step util ⟨now, .timerExpires index⟩ = some next ∧
          .callback .onLockoutCleared ∈ next.session.effects := by
  constructor
  · exact runHolds_iff_runMeets (fun _ => Answered.timerAnswers)
      (fun _ _ _ => Answered.step)
      (fun _ _ _ _ => not_timerAnswers_step) (answered_of_opened hopened) labels
  · intro later index timer now htimer haborted hdeadline hclock
    exact World.cleared_of_expiry htimer haborted hdeadline hclock

/-- The timer of the first lockout runs out before the second one begins. -/
theorem timer_answers_twice :
    RunHolds (step .inMillis) (TimerAnswers .inMillis) ⟨.sample, false⟩
      (List.replicate 5 (World.failedMatch 2) ++
        [⟨2 + lockoutNanos, .timerExpires 0⟩] ++
        List.replicate 2 (World.failedMatch (3 + lockoutNanos))) :=
  (timer_answers_iff_marks_pending ⟨rfl, rfl⟩ _).1.mpr (by decide +kernel)

/-- A reset marks the timer of the first lockout, and the second one, four
seconds later, is reported without a timer of its own; a permanent lockout of
which no timer is left sets the mark all the same. -/
theorem timer_not_always_answering :
    ¬ RunHolds (step .inMillis) (TimerAnswers .inMillis) ⟨.sample, false⟩
        (List.replicate 5 (World.failedMatch 2) ++ ⟨3, .resetLockout⟩ ::
          List.replicate 5 (World.failedMatch 4000000000)) ∧
      ¬ RunHolds (step .inMillis) (TimerAnswers .inMillis) ⟨.sample, false⟩
        (List.replicate 20 (World.failedMatch 2) ++
          [⟨2 + lockoutNanos, .timerExpires 0⟩,
            ⟨3 + lockoutNanos, .authenticate 0 0⟩]) := by
  decide +kernel

end Announced

end HardwareInterfaces.Fingerprint

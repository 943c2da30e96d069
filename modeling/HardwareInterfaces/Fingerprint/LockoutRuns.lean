import HardwareInterfaces.Core.Transition
import HardwareInterfaces.Fingerprint.Lockout

/-!
# Lockouts along the runs of a session

Handlers of one session run one after the other, each at a time that the clock
shows.  A permanent lockout lasts until a successful match or a reset.  A timed
lockout need not last for its ten seconds, and neither kind of lockout keeps
the device from being asked to authenticate.
-/

namespace HardwareInterfaces.Fingerprint

open Transition

/-- A session, the list that `notify` keeps, and the last time read. -/
structure World where
  session : Session
  enrollments : List Int
  clock : Int
  clock_pos : 0 < clock

structure Label where
  now : Int
  event : Event
  deriving DecidableEq, Repr

namespace World

variable (util : Util)

/-- One handler; the clock does not run backwards. -/
def step (world : World) (label : Label) : Option World :=
  if htime : world.clock ≤ label.now then
    (world.session.handle util label.now world.enrollments label.event).map
      fun result =>
        { session := result.1
          enrollments := result.2
          clock := label.now
          clock_pos := lt_of_lt_of_le world.clock_pos htime }
  else none

def lockout (world : World) : Lockout := world.session.lockout

/-- The lockout mode at the time of the last handler. -/
def mode (world : World) : LockoutMode := world.lockout.mode util world.clock

def action (world : World) (label : Label) : Action :=
  label.event.action world.session.mClosed

/-- A session as its constructor leaves it, with a tracker that shows no
lockout. -/
def Opened (world : World) : Prop :=
  world.session =
      { mLockoutTracker := world.session.mLockoutTracker
        mUserId := world.session.mUserId } ∧
    world.session.mLockoutTracker.mCurrentMode = .none

variable {util : Util} {world next : World} {label : Label}

/-- What a step does to the lockout. -/
theorem step_lockout (hstep : world.step util label = some next) :
    world.clock ≤ label.now ∧ next.clock = label.now ∧
      next.lockout = world.lockout.act util label.now (world.action label) ∧
      ∀ index, world.action label = .expire index →
        world.lockout.Due label.now index := by
  rw [step] at hstep
  split_ifs at hstep with htime
  obtain ⟨result, hhandle, hnext⟩ := Option.map_eq_some_iff.mp hstep
  rw [← hnext]
  exact ⟨htime, rfl, Session.lockout_handle hhandle⟩

/-! ## Permanent lockouts -/

theorem Opened.timers_eq_nil (hopened : world.Opened) :
    world.lockout.timers = [] := by
  rw [lockout, hopened.1]
  rfl

theorem safe_step (hsafe : world.lockout.Safe)
    (hstep : world.step util label = some next) : next.lockout.Safe := by
  obtain ⟨-, -, hnext, hdue⟩ := step_lockout hstep
  rw [hnext]
  exact hsafe.act hdue

def HeldPermanent (world : World) : Prop :=
  world.lockout.Safe ∧ world.lockout.tracker.mCurrentMode = .permanent

theorem HeldPermanent.step (hheld : world.HeldPermanent)
    (haction : world.action label ≠ .reset ∧ world.action label ≠ .succeed)
    (hstep : world.step util label = some next) : next.HeldPermanent := by
  obtain ⟨hsafe, hmode⟩ := hheld
  obtain ⟨-, -, hnext, hdue⟩ := step_lockout hstep
  rw [HeldPermanent, hnext]
  exact ⟨hsafe.act hdue, hsafe.permanent_act hdue hmode haction.1 haction.2⟩

/-- Once a lockout is permanent it stays so until a successful match or a
reset. -/
theorem permanent_until_success_or_reset (hopened : world.Opened)
    {before after : List Label} {middle last : World}
    (hbefore : run (step util) world before = some middle)
    (hpermanent : middle.mode util = .permanent)
    (hafter : run (step util) middle after = some last)
    (hkept : RunMeets (step util)
      (fun world label => world.action label ≠ .reset ∧
        world.action label ≠ .succeed) middle after) :
    last.mode util = .permanent := by
  have hsafe : middle.lockout.Safe :=
    run_invariant (fun _ _ _ => safe_step)
      (Lockout.safe_of_timers_eq_nil hopened.timers_eq_nil) hbefore
  have hmiddle : middle.HeldPermanent :=
    ⟨hsafe, Lockout.mode_permanent_iff.mp hpermanent⟩
  have hlast : last.HeldPermanent :=
    hkept.invariant (fun _ _ _ hheld hguard => hheld.step hguard) hmiddle hafter
  exact Lockout.mode_permanent_iff.mpr hlast.2

/-- A session opened one nanosecond after the clock started. -/
def sample : World where
  session :=
    { mLockoutTracker :=
        { mFailedCount := 0, mLockoutTimedStart := 0, mCurrentMode := .none }
      mUserId := 0 }
  enrollments := []
  clock := 1
  clock_pos := Int.one_pos

def failedMatch (now : Int) : Label := ⟨now, .notify (.authenticated 0)⟩

/-- The timer of the timed lockout runs out in the permanent one. -/
theorem permanent_when_timer_expires :
    ((run (step .inMillis) sample (List.replicate 20 (failedMatch 2))).bind
      fun middle => run (step .inMillis) middle
        [⟨2 + lockoutNanos, .timerExpires 0⟩]).map (mode .inMillis) =
          some .permanent := by
  have hreplay : (run (step .inMillis) sample
      (List.replicate 20 (failedMatch 2))).map (fun middle =>
        (middle.mode .inMillis, (run (step .inMillis) middle
          [⟨2 + lockoutNanos, .timerExpires 0⟩]).isSome)) =
      some (.permanent, true) := by
    decide +kernel
  obtain ⟨middle, hbefore, hmiddle⟩ := Option.map_eq_some_iff.mp hreplay
  obtain ⟨hpermanent, hsome⟩ := Prod.mk.inj hmiddle
  obtain ⟨last, hafter⟩ := Option.isSome_iff_exists.mp hsome
  rw [hbefore, Option.bind_some, hafter, Option.map_some,
    permanent_until_success_or_reset ⟨rfl, rfl⟩ hbefore hpermanent hafter
      fun _ _ => ⟨⟨nofun, nofun⟩, trivial⟩]

end World

/-! ## Timed lockouts -/

/-- A session, with the beginning of its last timed lockout. -/
structure Watched where
  world : World
  since : Option Int

namespace Watched

variable {util : Util}

def step (util : Util) (watched : Watched) (label : Label) : Option Watched :=
  (watched.world.step util label).map fun next =>
    { world := next
      since := watched.world.lockout.sinceAfter util label.now
        (watched.world.action label) watched.since }

/-- The timed lockout has not ended before its time. -/
def LockoutInForce (util : Util) (watched : Watched) : Prop :=
  watched.world.lockout.InForce util watched.world.clock watched.since

/-- No timer of an earlier lockout runs out unmarked in a later one. -/
def TimerOfLockout (watched : Watched) (label : Label) : Prop :=
  watched.world.lockout.OwnTimer label.now watched.since
    (watched.world.action label)

instance : DecidablePred (LockoutInForce util) :=
  fun _ => inferInstanceAs (Decidable (Lockout.InForce ..))

instance (watched : Watched) : DecidablePred watched.TimerOfLockout :=
  fun _ => inferInstanceAs (Decidable (Lockout.OwnTimer ..))

def Holding (watched : Watched) : Prop :=
  watched.world.lockout.Holding watched.world.clock watched.since

theorem holding_of_opened {world : World} (hopened : world.Opened) :
    Holding ⟨world, none⟩ := by
  refine ⟨fun hmode => (nomatch hopened.2.symm.trans hmode), ?_, nofun⟩
  rw [hopened.timers_eq_nil]
  exact nofun

/-- A timed lockout lasts for its time all along a run exactly when no timer
that was started for an earlier lockout runs out in it. -/
theorem timed_lockout_lasts_iff_timer_of_lockout {world : World}
    (hopened : world.Opened) (labels : List Label) :
    RunHolds (step util) (LockoutInForce util) ⟨world, none⟩ labels ↔
      RunMeets (step util) TimerOfLockout ⟨world, none⟩ labels := by
  refine runHolds_iff_runMeets (fun watched hholding => ?_) ?_ ?_
    (holding_of_opened hopened) labels
  · exact Lockout.Holding.inForce hholding
  · intro watched label next hholding hguard hstep
    obtain ⟨world', hworld, rfl⟩ := Option.map_eq_some_iff.mp hstep
    obtain ⟨hle, hclock, hnext, hdue⟩ := World.step_lockout hworld
    have hpos : 0 < label.now := lt_of_lt_of_le watched.world.clock_pos hle
    rw [Holding, hnext, hclock]
    exact Lockout.Holding.act hholding hle hpos hdue hguard
  · intro watched label next hholding hguard hstep
    obtain ⟨world', hworld, rfl⟩ := Option.map_eq_some_iff.mp hstep
    obtain ⟨-, hclock, hnext, -⟩ := World.step_lockout hworld
    rw [LockoutInForce, hnext, hclock]
    exact Lockout.not_inForce_act hguard

/-- Five failed matches, and the timer of the lockout they begin. -/
theorem timed_lockout_lasts_after_five_failures :
    RunHolds (step .inMillis) (LockoutInForce .inMillis) ⟨.sample, none⟩
      (List.replicate 5 (World.failedMatch 2) ++
        [⟨2 + lockoutNanos, .timerExpires 0⟩]) :=
  (timed_lockout_lasts_iff_timer_of_lockout ⟨rfl, rfl⟩ _).mpr
    (by decide +kernel)

/-- A successful match ends a lockout, but its timer goes on and ends the next
lockout four seconds early. -/
theorem timed_lockout_not_always_lasting :
    ¬ ∀ labels, RunHolds (step .inMillis) (LockoutInForce .inMillis)
      ⟨.sample, none⟩ labels := by
  intro hlasts
  have hrun := hlasts (List.replicate 5 (World.failedMatch 2) ++
    ⟨3, .notify (.authenticated 7)⟩ ::
      List.replicate 5 (World.failedMatch 4000000000) ++
        [⟨2 + lockoutNanos, .timerExpires 0⟩])
  revert hrun
  decide +kernel

end Watched

/-! ## Authentication during a lockout -/

def Effect.isAuthenticate : Effect → Bool
  | .device (.authenticate _ _) => true
  | _ => false

def Event.isAuthenticate : Event → Bool
  | .authenticate _ _ => true
  | .authenticateWithContext _ _ => true
  | _ => false

namespace Session

variable {util : Util} {now : Int}

/-- Whether the last handler asked the device to authenticate. -/
def starts (session : Session) : Bool :=
  session.effects.any Effect.isAuthenticate

theorem starts_emit (session : Session) (effects : List Effect) :
    (session.emit effects).starts =
      (session.starts || effects.any Effect.isAuthenticate) :=
  List.any_append

theorem starts_emit_callback (session : Session) (callback : Callback) :
    (session.emit [.callback callback]).starts = session.starts :=
  (starts_emit session _).trans (Bool.or_false _)

theorem starts_of_notifies {session next : Session}
    (hnotifies : session.Notifies next) : next.starts = session.starts := by
  obtain ⟨added, hadded, hnotices⟩ := hnotifies
  have hnone : added.any Effect.isAuthenticate = false := by
    rw [List.any_eq_false]
    rintro (callback | call) hmem
    · exact Bool.false_ne_true
    · exact nomatch hnotices _ hmem
  rw [starts, hadded, List.any_append, hnone, Bool.or_false]
  rfl

theorem starts_notify (session : Session) (enrollments : List Int)
    (message : Message) :
    (session.notify util now enrollments message).1.starts =
      session.starts := by
  cases message with
  | authenticated fid =>
    simp only [notify]
    split_ifs
    · exact starts_emit_callback _ _
    · rw [starts_of_notifies (notifies_checkSensorLockout _)]
      exact starts_emit_callback _ _
  | templateEnumerating =>
    simp only [notify]
    split_ifs
    · exact starts_emit_callback _ _
    · rfl
  | _ => exact starts_emit_callback _ _

/-- Exactly the calls for authentication reach the device as such. -/
theorem starts_handle {session next : Session}
    {enrollments enrollments' : List Int} {event : Event}
    (hhandle : session.handle util now enrollments event =
      some (next, enrollments')) : next.starts = event.isAuthenticate := by
  cases event with
  | authenticate operationId error =>
    cases hhandle
    rw [authenticate, starts_of_notifies (notifies_reportError _ error),
      starts_emit]
    exact Bool.or_true _
  | authenticateWithContext operationId error =>
    cases hhandle
    rw [authenticateWithContext, authenticate,
      starts_of_notifies (notifies_reportError _ error), starts_emit]
    exact Bool.or_true _
  | resetLockout =>
    cases hhandle
    exact starts_of_notifies (notifies_resetLockout _)
  | enroll error =>
    cases hhandle
    exact starts_of_notifies (notifies_reportError _ error)
  | cancel ret =>
    cases hhandle
    rw [cancel]
    split_ifs <;> rfl
  | removeEnrollments =>
    cases hhandle
    simp [starts, emit, Effect.isAuthenticate, Event.isAuthenticate]
  | notify =>
    simp only [handle] at hhandle
    split_ifs at hhandle
    · cases hhandle
      rfl
    · have hnext : _ = next := congrArg Prod.fst (Option.some.inj hhandle)
      rw [← hnext, starts_notify]
      rfl
  | timerExpires index =>
    simp only [handle] at hhandle
    split at hhandle
    · cases hhandle
    · split_ifs at hhandle
      cases hhandle
      exact starts_of_notifies (notifies_lockoutTimerExpired _)
  | _ =>
    cases hhandle
    rfl

end Session

namespace World

variable {util : Util}

/-- The device is asked to authenticate only when there is no lockout. -/
def StartsUnlocked (util : Util) (world : World) (label : Label) : Prop :=
  ∀ next, world.step util label = some next → next.session.starts = true →
    world.lockout.mode util label.now = .none

/-- The framework asks for authentication only when there is no lockout. -/
def CalledUnlocked (util : Util) (world : World) (label : Label) : Prop :=
  label.event.isAuthenticate = true →
    world.lockout.mode util label.now = .none

instance (world : World) : DecidablePred (CalledUnlocked util world) :=
  fun _ => inferInstanceAs (Decidable (_ → _))

theorem startsUnlocked_iff {world next : World} {label : Label}
    (hstep : world.step util label = some next) :
    world.StartsUnlocked util label ↔ world.CalledUnlocked util label := by
  have hstarts : next.session.starts = label.event.isAuthenticate := by
    rw [step] at hstep
    split_ifs at hstep
    obtain ⟨result, hhandle, rfl⟩ := Option.map_eq_some_iff.mp hstep
    exact Session.starts_handle hhandle
  constructor
  · intro hunlocked hcall
    exact hunlocked next hstep (hstarts.trans hcall)
  · intro hunlocked other hother hcall
    cases hstep.symm.trans hother
    exact hunlocked (hstarts.symm.trans hcall)

/-- The session passes on every call: it is left to the framework not to call
during a lockout. -/
theorem device_unlocked_iff_called_unlocked (world : World)
    (labels : List Label) :
    RunMeets (step util) (StartsUnlocked util) world labels ↔
      RunMeets (step util) (CalledUnlocked util) world labels :=
  runMeets_congr (fun _ _ _ => startsUnlocked_iff) world labels

/-- A call right after the fifth failed match reaches the device. -/
theorem device_not_always_unlocked :
    ¬ ∀ labels, RunMeets (step .inMillis) (StartsUnlocked .inMillis) sample
      labels := by
  intro hunlocked
  have hcalled := (runMeets_congr (fun _ _ _ => startsUnlocked_iff) sample _).mp
    (hunlocked (List.replicate 5 (failedMatch 2) ++ [⟨3, .authenticate 0 0⟩]))
  revert hcalled
  decide +kernel

end World

end HardwareInterfaces.Fingerprint

import HardwareInterfaces.Core.MachineArithmetic
import HardwareInterfaces.Core.Transition

/-!
# The interaction handler

Callers ask for the INTERACTION hint with `Acquire`; a thread of the handler
waits until the display is idle and ends the hint.  All state changes happen
under `mLock`, so one step is one critical section.  The thread polls without
the lock, between moving to `waiting` and `Release`.  What ends the poll is not
modelled: it may end at any time, and the timeouts passed to it do not matter.

The event fd is its counter.  A write adds one, a read takes everything, and
both succeed.  The calls to the hint manager are recorded, newest first.
-/

namespace HardwareInterfaces.Interaction

open MachineArithmetic Transition

inductive InteractionState where
  | uninitialized
  | idle
  | interaction
  | waiting
  deriving DecidableEq, Repr

/-- The system properties that the handler reads once. -/
structure Properties where
  kDisplayIdleSupport : Bool
  kMinDurationMs : Nat
  kMaxDurationMs : Nat
  kDurationOffsetMs : Nat

/-- The defaults of the source. -/
def Properties.default : Properties := ⟨true, 1400, 5650, 650⟩

structure Timespec where
  tvSec : Int
  tvNsec : Int
  deriving DecidableEq, Repr

/-- Calls to the hint manager. -/
inductive HintCall where
  | doHint
  | doHintFor (milliseconds : Int)
  | endHint
  deriving DecidableEq, Repr

/-- Where the routine thread stands. -/
inductive RoutinePoint where
  | notStarted
  | top
  | polling
  | releasing
  | returned
  deriving DecidableEq, Repr

structure InteractionHandler where
  mState : InteractionState
  mEventFd : Nat
  mDurationMs : Int
  mLastTimespec : Timespec
  mThread : RoutinePoint
  hintCalls : List HintCall
  deriving DecidableEq, Repr

/-- The elapsed milliseconds as a `size_t`. -/
def calcTimespecDiffMs (start stop : Timespec) : Int :=
  ((stop.tvSec - start.tvSec) * 1000 +
    (stop.tvNsec - start.tvNsec).tdiv 1000000) % 2 ^ 64

/-- The input is added to an unsigned offset and compared with unsigned limits,
so a negative sum counts as a large one. -/
def Properties.finalDuration (properties : Properties) (duration : Int) :
    Int :=
  let inputDuration := int32 (duration + properties.kDurationOffsetMs)
  if inputDuration % 2 ^ 32 > properties.kMaxDurationMs then
    int32 properties.kMaxDurationMs
  else if inputDuration % 2 ^ 32 > properties.kMinDurationMs then
    inputDuration
  else int32 properties.kMinDurationMs

namespace InteractionHandler

variable (properties : Properties) (handler : InteractionHandler)

/-- The constructor; `mLastTimespec` is not initialised by the source. -/
def new (unset : Timespec) : InteractionHandler :=
  ⟨.uninitialized, 0, 0, unset, .notStarted, []⟩

/-- `Init`, given whether the two file descriptors could be opened. -/
def init (idleFdOpened eventFdCreated : Bool) : InteractionHandler :=
  if handler.mState ≠ .uninitialized then handler
  else if idleFdOpened && eventFdCreated then
    { handler with mState := .idle, mEventFd := 0, mThread := .top }
  else handler

def abortWaitLocked : InteractionHandler :=
  { handler with mEventFd := handler.mEventFd + 1 }

/-- `Exit` up to the point where it waits for the thread. -/
def exit : InteractionHandler :=
  if handler.mState = .uninitialized then handler
  else { handler.abortWaitLocked with mState := .uninitialized }

def perfLock : InteractionHandler :=
  { handler with hintCalls := .doHint :: handler.hintCalls }

def perfRel : InteractionHandler :=
  { handler with hintCalls := .endHint :: handler.hintCalls }

/-- The previous request covers this one. -/
def covers (finalDuration : Int) (now : Timespec) : Bool :=
  decide (handler.mState ≠ .idle) &&
    decide (finalDuration ≤ handler.mDurationMs) &&
    decide (calcTimespecDiffMs handler.mLastTimespec now ≤
      int32 (handler.mDurationMs - finalDuration) % 2 ^ 64)

def acquire (duration : Int) (now : Timespec) : InteractionHandler :=
  let finalDuration := properties.finalDuration duration
  if !properties.kDisplayIdleSupport ||
      decide (handler.mState = .uninitialized) then
    { handler with hintCalls := .doHintFor finalDuration :: handler.hintCalls }
  else if handler.covers finalDuration now then handler
  else
    let updated :=
      { handler with mLastTimespec := now, mDurationMs := finalDuration }
    let signalled :=
      match updated.mState with
      | .waiting => updated.abortWaitLocked
      | .idle => updated.perfLock
      | _ => updated
    { signalled with mState := .interaction }

def release : InteractionHandler :=
  if handler.mState = .waiting then
    { handler.perfRel with mState := .idle }
  else { handler with mEventFd := 0 }

/-- The critical section at the top of `Routine`, once its wait is over. -/
def wake : InteractionHandler :=
  if handler.mState = .uninitialized then { handler with mThread := .returned }
  else { handler with mState := .waiting, mThread := .polling }

/-! ## Steps -/

inductive Action where
  | init (idleFdOpened eventFdCreated : Bool)
  | acquire (duration : Int) (now : Timespec)
  | exit
  | wake
  | pollEnd
  | release
  deriving DecidableEq, Repr

/-- Callers may call at any time; the thread goes round its loop. -/
def step (handler : InteractionHandler) : Action → Option InteractionHandler
  | .init idleFdOpened eventFdCreated =>
    some (handler.init idleFdOpened eventFdCreated)
  | .acquire duration now => some (handler.acquire properties duration now)
  | .exit => some handler.exit
  | .wake =>
    if handler.mThread = .top ∧ handler.mState ≠ .idle then some handler.wake
    else none
  | .pollEnd =>
    if handler.mThread = .polling then
      some { handler with mThread := .releasing }
    else none
  | .release =>
    if handler.mThread = .releasing then
      some { handler.release with mThread := .top }
    else none

/-! ## The hint -/

/-- Whether the hint is held after some calls.  A hint with a duration ends by
itself and does not count. -/
def heldAfter : List HintCall → Bool
  | [] => false
  | .doHint :: _ => true
  | .endHint :: _ => false
  | .doHintFor _ :: earlier => heldAfter earlier

/-- No hint is taken while it is held, and none is ended while it is not. -/
def Bracketed : List HintCall → Prop
  | [] => True
  | .doHint :: earlier => heldAfter earlier = false ∧ Bracketed earlier
  | .endHint :: earlier => heldAfter earlier = true ∧ Bracketed earlier
  | .doHintFor _ :: earlier => Bracketed earlier

/-- The hint follows the state. -/
structure HintInStep (handler : InteractionHandler) : Prop where
  held_iff : heldAfter handler.hintCalls = true ↔
    handler.mState = .interaction ∨ handler.mState = .waiting
  bracketed : Bracketed handler.hintCalls

/-- The routine starts a wait only when no abort is left from an earlier one. -/
def WaitsAfresh (handler : InteractionHandler) (action : Action) : Prop :=
  action = .wake → handler.mState ≠ .uninitialized → handler.mEventFd = 0

/-- The thread, the state and the event fd fit together.  An abort is only
pending while the thread still has to go through `release`. -/
structure Phased (handler : InteractionHandler) : Prop
    extends HintInStep handler where
  phase :
    (handler.mState = .uninitialized ∧ handler.mThread = .notStarted) ∨
    ((handler.mState = .idle ∨ handler.mState = .interaction) ∧
      handler.mThread = .top ∧ handler.mEventFd = 0) ∨
    ((handler.mThread = .polling ∨ handler.mThread = .releasing) ∧
      (handler.mState = .interaction ∨
        handler.mState = .waiting ∧ handler.mEventFd = 0))

variable {properties} {handler}

theorem phased_new (unset : Timespec) : (new unset).Phased :=
  ⟨⟨by simp [new, heldAfter], trivial⟩, .inl ⟨rfl, rfl⟩⟩

/-- What a call of `Acquire` can do when idle support is on. -/
theorem acquire_cases (hsupport : properties.kDisplayIdleSupport = true)
    (handler : InteractionHandler) (duration : Int) (now : Timespec) :
    let next := handler.acquire properties duration now
    next.mThread = handler.mThread ∧
      ((handler.mState = .uninitialized ∧ next.mState = .uninitialized ∧
          next.mEventFd = handler.mEventFd ∧
          ∃ duration, next.hintCalls = .doHintFor duration ::
            handler.hintCalls) ∨
        next = handler ∨
        (next.mState = .interaction ∧
          ((handler.mState = .idle ∧ next.mEventFd = handler.mEventFd ∧
              next.hintCalls = .doHint :: handler.hintCalls) ∨
            (handler.mState = .interaction ∧
              next.mEventFd = handler.mEventFd ∧
              next.hintCalls = handler.hintCalls) ∨
            (handler.mState = .waiting ∧
              next.mEventFd = handler.mEventFd + 1 ∧
              next.hintCalls = handler.hintCalls)))) := by
  cases hstate : handler.mState with
  | uninitialized => simp [acquire, hstate]
  | idle => simp [acquire, hsupport, hstate, covers, perfLock]
  | interaction =>
    by_cases hcovers : handler.covers (properties.finalDuration duration) now
    · simp [acquire, hsupport, hstate, hcovers]
    · simp [acquire, hsupport, hstate, hcovers]
  | waiting =>
    by_cases hcovers : handler.covers (properties.finalDuration duration) now
    · simp [acquire, hsupport, hstate, hcovers]
    · simp [acquire, hsupport, hstate, hcovers, abortWaitLocked]

theorem phased_acquire (hsupport : properties.kDisplayIdleSupport = true)
    (hphased : handler.Phased) (duration : Int) (now : Timespec) :
    (handler.acquire properties duration now).Phased := by
  have hcases := acquire_cases hsupport handler duration now
  generalize handler.acquire properties duration now = next at hcases
  obtain ⟨⟨hheld, hbracketed⟩, hphase⟩ := hphased
  obtain ⟨hthread, hcases⟩ := hcases
  rcases hcases with ⟨hstate, hnext, hfd, _, hcalls⟩ | rfl |
    ⟨hnext, ⟨hstate, hfd, hcalls⟩ | ⟨hstate, hfd, hcalls⟩ | ⟨hstate, hfd, hcalls⟩⟩
  · refine ⟨⟨?_, ?_⟩, ?_⟩
    · simpa [hcalls, heldAfter, hnext, hstate] using hheld
    · simpa [hcalls, Bracketed] using hbracketed
    · simpa [hthread, hnext, hstate, hfd] using hphase
  · exact ⟨⟨hheld, hbracketed⟩, hphase⟩
  · have hfree : heldAfter handler.hintCalls = false := by
      simpa [hstate] using hheld
    refine ⟨⟨?_, ?_⟩, ?_⟩
    · simp [hcalls, heldAfter, hnext]
    · simpa [hcalls, Bracketed, hfree] using hbracketed
    · have htop : handler.mThread = .top ∧ handler.mEventFd = 0 := by
        simpa [hstate] using hphase
      simp [hthread, hnext, hfd, htop]
  · refine ⟨⟨?_, ?_⟩, ?_⟩
    · simpa [hcalls, hnext, hstate] using hheld
    · simpa [hcalls] using hbracketed
    · simpa [hthread, hnext, hstate, hfd] using hphase
  · -- The abort is pending while the thread is still in its poll.
    refine ⟨⟨?_, ?_⟩, ?_⟩
    · simpa [hcalls, hnext, hstate] using hheld
    · simpa [hcalls] using hbracketed
    · have hwait : (handler.mThread = .polling ∨
          handler.mThread = .releasing) ∧ handler.mEventFd = 0 := by
        simpa [hstate] using hphase
      exact .inr (.inr ⟨hthread ▸ hwait.1, .inl hnext⟩)

theorem phased_init (hphased : handler.Phased)
    (idleFdOpened eventFdCreated : Bool) :
    (handler.init idleFdOpened eventFdCreated).Phased := by
  rw [init]
  split_ifs with hstate hopened
  · exact hphased
  · have hstate : handler.mState = .uninitialized := not_not.mp hstate
    have hheld := hphased.held_iff
    refine ⟨⟨?_, hphased.bracketed⟩, .inr (.inl ⟨.inl rfl, rfl, rfl⟩)⟩
    simpa [hstate] using hheld
  · exact hphased

theorem phased_wake (hphased : handler.Phased) (hthread : handler.mThread = .top)
    (hstate : handler.mState ≠ .idle) :
    handler.wake.Phased ∧ handler.mEventFd = 0 := by
  obtain ⟨⟨hheld, hbracketed⟩, hphase⟩ := hphased
  have htop : handler.mState = .interaction ∧ handler.mEventFd = 0 := by
    simpa [hthread, hstate] using hphase
  rw [wake, if_neg (by simp [htop.1])]
  refine ⟨⟨⟨?_, hbracketed⟩, ?_⟩, htop.2⟩
  · simpa [htop.1] using hheld
  · exact .inr (.inr ⟨.inl rfl, .inr ⟨rfl, htop.2⟩⟩)

theorem phased_release (hphased : handler.Phased)
    (hthread : handler.mThread = .releasing) :
    { handler.release with mThread := .top }.Phased := by
  obtain ⟨⟨hheld, hbracketed⟩, hphase⟩ := hphased
  have hstates : handler.mState = .interaction ∨
      handler.mState = .waiting ∧ handler.mEventFd = 0 := by
    simpa [hthread] using hphase
  rcases hstates with hstate | ⟨hstate, hfd⟩
  · rw [release, if_neg (by simp [hstate])]
    exact ⟨⟨hheld, hbracketed⟩, .inr (.inl ⟨.inr hstate, rfl, rfl⟩)⟩
  · have htaken : heldAfter handler.hintCalls = true := by
      simpa [hstate] using hheld
    rw [release, if_pos hstate]
    refine ⟨⟨?_, ?_⟩, .inr (.inl ⟨.inl rfl, rfl, hfd⟩)⟩
    · simp [perfRel, heldAfter]
    · exact ⟨htaken, hbracketed⟩

theorem phased_step (hsupport : properties.kDisplayIdleSupport = true)
    (handler : InteractionHandler) (action : Action)
    (next : InteractionHandler) (hlive : action ≠ .exit)
    (hphased : handler.Phased)
    (hstep : handler.step properties action = some next) : next.Phased := by
  cases action with
  | init idleFdOpened eventFdCreated =>
    cases hstep
    exact phased_init hphased idleFdOpened eventFdCreated
  | acquire duration now =>
    cases hstep
    exact phased_acquire hsupport hphased duration now
  | exit => exact absurd rfl hlive
  | wake =>
    obtain ⟨⟨hthread, hstate⟩, hnext⟩ := Option.ite_none_right_eq_some.mp hstep
    cases hnext
    exact (phased_wake hphased hthread hstate).1
  | pollEnd =>
    obtain ⟨hthread, hnext⟩ := Option.ite_none_right_eq_some.mp hstep
    cases hnext
    refine ⟨⟨hphased.held_iff, hphased.bracketed⟩, .inr (.inr ⟨.inr rfl, ?_⟩)⟩
    simpa [hthread] using hphased.phase
  | release =>
    obtain ⟨hthread, hnext⟩ := Option.ite_none_right_eq_some.mp hstep
    cases hnext
    exact phased_release hphased hthread

/-- Until `Exit`, whatever the order of calls and steps of the thread, the hint
is held exactly while the state is `interaction` or `waiting`, it is taken and
ended in turns, and no wait starts with an abort left over. -/
theorem hint_follows_state (properties : Properties) (unset : Timespec)
    (actions : List Action)
    (hsupport : properties.kDisplayIdleSupport = true)
    (hlive : ∀ action ∈ actions, action ≠ .exit) :
    RunHolds (step properties) HintInStep (new unset) actions ∧
      RunMeets (step properties) WaitsAfresh (new unset) actions := by
  have hphased : RunHolds (step properties) Phased (new unset) actions :=
    runHolds_of_invariant_of_allowed (fun _ => id) (phased_step hsupport)
      (phased_new unset) hlive
  refine ⟨hphased.imp fun _ => Phased.toHintInStep, hphased.runMeets ?_⟩
  intro handler action next hcurrent hstep _ hwake hstate
  subst hwake
  obtain ⟨⟨hthread, hnotIdle⟩, -⟩ := Option.ite_none_right_eq_some.mp hstep
  exact (phased_wake hcurrent hthread hnotIdle).2

/-- An acquire during the poll, one during the next round, and an idle
display. -/
theorem hint_follows_state_two_rounds :
    let actions : List Action :=
      [.init true true, .acquire 100 ⟨1, 0⟩, .wake, .acquire 6000 ⟨1, 500⟩,
        .pollEnd, .release, .wake, .pollEnd, .release]
    RunHolds (step .default) HintInStep (new ⟨0, 0⟩) actions ∧
      RunMeets (step .default) WaitsAfresh (new ⟨0, 0⟩) actions :=
  hint_follows_state .default ⟨0, 0⟩ _ rfl (by decide)

-- The abort of the first poll is consumed before the second wait.
example :
    (run (step .default) (new ⟨0, 0⟩)
      [.init true true, .acquire 100 ⟨1, 0⟩, .wake, .acquire 6000 ⟨1, 500⟩,
        .pollEnd, .release, .wake, .pollEnd, .release]).map
        (fun handler => (handler.mState, handler.mEventFd,
          handler.hintCalls)) =
      some (.idle, 0, [.endHint, .doHint]) := by
  decide +kernel

end InteractionHandler

end HardwareInterfaces.Interaction
